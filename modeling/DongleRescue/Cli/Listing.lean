import DongleRescue.Cli.Lifecycle
import DongleRescue.Cli.Survival
import DongleRescue.Data.Words

namespace DongleRescue.Cli

open DongleRescue.Data DongleRescue.Repair

/-! What the history command prints of a transaction is an argument of the rollback
command. -/

variable [Interpreter]

/-- `hashlib.sha256(…).hexdigest()`. -/
structure HexDigests : Prop where
  length : ∀ text, (Interpreter.sha256 text).length = 64
  hex : ∀ text, ∀ c ∈ Interpreter.sha256 text, isHex c = true

omit [Interpreter] in
theorem asciiInterpreter_hexDigests : @HexDigests asciiInterpreter :=
  @HexDigests.mk asciiInterpreter Sha256.length_hexdigest Sha256.isHex_hexdigest

section Lines

variable {tok path : Str} {arguments : List Str} {runtime : Runtime} {loads : Loads} {journals : Journals}
  {host : Option Host} {kb : Option Kb} {journalPath : Option Str}

omit [Interpreter] in
theorem parse_journal (plain : ∀ tok ∈ arguments, isOption tok = false) (plainPath : isOption path = false) :
    parse (arguments ++ (["--journal", path] : List Str)) = ⟨[("--journal", some path)], arguments⟩ := by
  induction arguments with
  | nil =>
      rw [List.nil_append, parse_bare_value (by decide) plainPath]
      rfl
  | cons tok arguments ih =>
      rw [List.forall_mem_cons] at plain
      rw [List.cons_append, parse_argument plain.1, ih plain.2]
      rfl

omit [Interpreter] in
private theorem pyOr_configured (configured : path ≠ []) : pyOr (some path) journalPath = some path := by
  cases path with
  | nil => exact absurd rfl configured
  | cons c path => rfl

theorem run_history (configured : path ≠ []) (plainPath : isOption path = false) :
    run runtime loads journals host kb journalPath ["history", "--journal", path] =
      cmdHistory loads (journals path) (some path) := by
  have parsed := parse_journal (List.forall_mem_singleton.mpr (by decide : isOption "history" = false)) plainPath
  rw [List.singleton_append] at parsed
  have named : optValue [(("--journal" : Str), some path)] "--journal" = some path := rfl
  rw [run, parsed]
  simp only [named, pyOr_configured configured]
  rfl

theorem run_rollback (configured : path ≠ []) (plainPath : isOption path = false) {wanted : Str}
    (plain : isOption wanted = false) :
    run runtime loads journals host kb journalPath ["rollback", wanted, "--journal", path] =
      rollbackFile loads (journals path) [wanted] (some path) := by
  have plains : ∀ tok ∈ (["rollback", wanted] : List Str), isOption tok = false :=
    List.forall_mem_cons.mpr ⟨by decide, List.forall_mem_singleton.mpr plain⟩
  have parsed := parse_journal plains plainPath
  rw [List.cons_append, List.singleton_append] at parsed
  have named : optValue [(("--journal" : Str), some path)] "--journal" = some path := rfl
  rw [run, parsed]
  simp only [named, pyOr_configured configured]
  rfl

end Lines

/-- What the history command prints of a repair. -/
def Binding.listed (binding : Binding) : Str :=
  "  " ++ binding.id.take 12 ++ "  " ++ "create_modprobe_alias" ++ "  rollback=" ++ "remove_file"

section Listed

variable {binding : Binding} {rec : TransactionRecord} {loads : Loads} {ledger : Ledger}

omit [Interpreter] in
theorem pyGetOr_of_same {items : List (Str × Json)} {other default : Json} {key text : Str}
    (same : Json.Same (.dict items) other) (distinct : (items.map Prod.fst).Nodup)
    (found : Json.lookup key items = some (.str text)) : pyGetOr key default other = .ok (.str text) := by
  cases other with
  | dict others =>
      obtain ⟨again, foundAgain, sameValue⟩ := Json.SameItems.lookup same distinct found
      rw [pyGetOr, foundAgain, Option.getD_some, Json.same_str sameValue]
  | _ => exact same.elim

theorem historyLine_of_same (same : RecordSame binding.transaction rec) :
    historyLine rec = .ok binding.listed := by
  have changeKeys : (["op", "content"] : List Str).Nodup := by decide
  have rollbackKeys : (["op", "path", "restore_if_existed"] : List Str).Nodup := by decide
  rw [historyLine, binding.created.readId same, pyGetOr_of_same same.change changeKeys rfl,
    pyGetOr_of_same same.rollbackAction rollbackKeys rfl]
  rfl

theorem historyLines_of_same {applied : List Binding} {records : List TransactionRecord}
    (same : List.Forall₂ (fun binding rec => RecordSame (Binding.transaction binding) rec) applied records) :
    records.mapM historyLine = .ok (applied.map Binding.listed) := by
  induction same with
  | nil => rfl
  | cons here _ ih =>
      rw [List.mapM_cons, historyLine_of_same here, ih]
      rfl

theorem cmdHistory_system (inverts : Inverts loads) {path : Str} (configured : path ≠ []) :
    cmdHistory loads (.decoded ledger.system.journal) (some path) =
      .ok (exitOk, if ledger.applied = [] then "no transactions recorded yet\n"
        else historyText (ledger.applied.map Binding.listed)) := by
  obtain ⟨records, read, same⟩ := ledger.load_system inverts
  have available : truthy (some path) = true := truthy_iff.mpr ⟨_, rfl, configured⟩
  have lines := historyLines_of_same same
  have loaded : Journal.loadFile loads (.decoded ledger.system.journal) = .ok records := read
  rw [cmdHistory, available, loaded]
  cases records with
  | nil =>
      rw [List.forall₂_nil_right_iff] at same
      rw [same]
      rfl
  | cons rec records =>
      have nonempty : ledger.applied ≠ [] := by
        intro empty
        rw [empty] at same
        cases same
      rw [if_neg nonempty]
      simp only [Bool.not_true, Bool.false_eq_true, if_false, lines]
      rfl

theorem digest_solid (digests : HexDigests) (binding : Binding) :
    ∀ c ∈ binding.id.take 12, isSpace c = false := by
  have solid : ∀ c ∈ hexDigits, isSpace c = false := by decide
  intro c member
  exact solid c (List.contains_iff_mem.mp (digests.hex _ c (List.mem_of_mem_take member)))

theorem digest_ne_nil (digests : HexDigests) (binding : Binding) : binding.id.take 12 ≠ [] := by
  intro empty
  have length := congrArg List.length empty
  rw [List.length_take, Binding.id, digests.length] at length
  cases length

theorem isOption_digest (digests : HexDigests) (binding : Binding) :
    isOption (binding.id.take 12) = false := by
  rw [Bool.eq_false_iff]
  intro option
  obtain ⟨rest, split⟩ := startsWith_iff.mp option
  have dash : '-' ∈ binding.id.take 12 := by
    rw [split]
    exact List.mem_append_left _ (by decide)
  exact absurd (digests.hex _ '-' (List.mem_of_mem_take dash)) (by decide)

theorem oneLine_listed (digests : HexDigests) (binding : Binding) : OneLine binding.listed := by
  unfold Binding.listed
  simp only [oneLine_append]
  exact ⟨⟨⟨⟨⟨by decide, oneLine_of_not_isSpace (digest_solid digests binding)⟩, by decide⟩, by decide⟩,
    by decide⟩, by decide⟩

theorem words_listed (digests : HexDigests) (binding : Binding) : ∃ more,
    words isSpace binding.listed = binding.id.take 12 :: more := by
  have isWord : IsWordOf isSpace (binding.id.take 12) :=
    ⟨digest_ne_nil digests binding, digest_solid digests binding⟩
  have split : binding.listed =
      "  ".toList ++ (binding.id.take 12 ++ ' ' :: " create_modprobe_alias  rollback=remove_file".toList) := by
    simp [Binding.listed]
  rw [split, words_append_left (by decide), words_append_cons (by decide), words_of_isWordOf isWord]
  exact ⟨_, rfl⟩

end Listed

section RoundTrip

variable {binding : Binding} {loads : Loads} {ledger : Ledger}

omit [Interpreter] in
theorem join_append_newline {lines : List Str} (nonempty : lines ≠ []) :
    join "\n" lines ++ ['\n'] = endLines "\n" lines := by
  induction lines with
  | nil => contradiction
  | cons line lines ih =>
      cases lines with
      | nil =>
          rw [join_singleton]
          simp [endLines]
      | cons next lines =>
          rw [join_cons_cons, List.append_assoc, List.append_assoc, ih (List.cons_ne_nil next lines)]
          simp [endLines]

theorem splitlines_historyText (digests : HexDigests) (applied : List Binding) :
    splitlines (historyText (applied.map Binding.listed)) =
      ("transactions:" : Str) :: applied.map Binding.listed := by
  rw [historyText, join_append_newline (List.cons_ne_nil _ _)]
  refine splitlines_endLines (.inl rfl) (List.forall_mem_cons.mpr ⟨by decide, ?_⟩)
  intro line member
  obtain ⟨binding, _, same⟩ := List.mem_map.mp member
  rw [← same]
  exact oneLine_listed digests binding

omit [Interpreter] in
theorem take_of_startsWith {text word : Str} (starts : startsWith text word = true) (length : word.length = 12) :
    text.take 12 = word := by
  obtain ⟨rest, split⟩ := startsWith_iff.mp starts
  rw [split, ← length, List.take_left]

/-- The first word of a line names a repair of the ledger, its own where no other id starts so. -/
theorem named_listed (digests : HexDigests) (member : binding ∈ ledger.applied) :
    ∃ found, ledger.named (binding.id.take 12) = some found ∧ found ∈ ledger.applied ∧
      found.id.take 12 = binding.id.take 12 ∧
      ((∀ other ∈ ledger.applied, startsWith other.id (binding.id.take 12) = true →
        hashed other.transaction = hashed binding.transaction) → found.path = binding.path) := by
  have own : startsWith binding.id (binding.id.take 12) = true :=
    startsWith_iff.mpr ⟨binding.id.drop 12, (List.take_append_drop 12 binding.id).symm⟩
  have isSome : (ledger.named (binding.id.take 12)).isSome := by
    rw [Ledger.named, List.find?_isSome]
    exact ⟨binding, member, own⟩
  obtain ⟨found, first⟩ := Option.isSome_iff_exists.mp isSome
  have inLedger : found ∈ ledger.applied := List.mem_of_find?_eq_some first
  have starts : startsWith found.id (binding.id.take 12) = true :=
    List.find?_some (p := fun other => startsWith (Binding.id other) (binding.id.take 12)) first
  have length : (binding.id.take 12).length = 12 := by
    rw [List.length_take, Binding.id, digests.length]
    rfl
  exact ⟨found, first, inLedger, take_of_startsWith starts length,
    fun only => Binding.path_eq_of_hashed (only found inLedger starts)⟩

/-- In the journal of any repairs, each line of the history starts with a word for which the
rollback command prints a plan under that very word: the removal of the repair on that line,
unless another repair's id starts with the same word. -/
theorem listed_words_roll_back (inverts : Inverts loads) (digests : HexDigests) (ledger : Ledger)
    (journals : Journals) (path : Str) (stored : journals path = .decoded ledger.system.journal) (configured : path ≠ [])
    (plainPath : isOption path = false) (runtime : Runtime) (host : Option Host) (kb : Option Kb)
    (journalPath : Option Str) :
    ∃ text, run runtime loads journals host kb journalPath ["history", "--journal", path] = .ok (exitOk, text) ∧
      (ledger.applied ≠ [] →
        splitlines text = ("transactions:" : Str) :: ledger.applied.map Binding.listed) ∧
      ∀ binding ∈ ledger.applied, ∃ word more, words isSpace binding.listed = word :: more ∧
        ∃ found ∈ ledger.applied, run runtime loads journals host kb journalPath
              ["rollback", word, "--journal", path] =
            .ok (exitOk, rollbackText word [found.step]) ∧
          ((∀ other ∈ ledger.applied, startsWith other.id word = true →
            hashed other.transaction = hashed binding.transaction) → found.path = binding.path) := by
  have printed : run runtime loads journals host kb journalPath ["history", "--journal", path] = .ok _ :=
    (run_history configured plainPath).trans (by rw [stored]; exact cmdHistory_system inverts configured)
  refine ⟨_, printed, ?_, fun binding member => ?_⟩
  · intro nonempty
    rw [if_neg nonempty, splitlines_historyText digests]
  · obtain ⟨more, split⟩ := words_listed digests binding
    obtain ⟨found, first, inLedger, sameWord, only⟩ := named_listed digests member
    refine ⟨_, more, split, found, inLedger, ?_, only⟩
    rw [run_rollback configured plainPath (isOption_digest digests binding), stored, rollbackFile_decoded,
      Ledger.cmdRollback_system inverts ledger _ [] configured, first, ← sameWord]

omit [Interpreter] in
theorem listed_words_roll_back_golden :
    let _ : Interpreter := asciiInterpreter
    let ledger := (Ledger.mk (fun _ => none) []).run goldenActions
    ∃ word, run bareRuntime readLoads (fun _ => .decoded ledger.system.journal) none none none
        ["rollback", word, "--journal", "journal.jsonl"] =
      .ok (exitOk, rollbackText word [goldenBinding.step]) := by
  intro _ ledger
  have applied : ledger.applied = [goldenBinding, goldenBinding] := by
    change ((Ledger.mk (fun _ => none) []).run goldenActions).applied = _
    rw [run_goldenActions]
  obtain ⟨text, _, _, each⟩ := listed_words_roll_back readLoads_laws.inverts asciiInterpreter_hexDigests ledger
    (fun _ => .decoded ledger.system.journal) "journal.jsonl" rfl (by decide) (by decide) bareRuntime none none none
  rw [applied] at each
  obtain ⟨word, _, _, found, member, printed, _⟩ := each goldenBinding List.mem_cons_self
  have isGolden : found = goldenBinding := by simpa using member
  rw [isGolden] at printed
  exact ⟨word, printed⟩

end RoundTrip

end DongleRescue.Cli
