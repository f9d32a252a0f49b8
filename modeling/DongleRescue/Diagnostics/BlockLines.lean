import DongleRescue.Data.Words
import DongleRescue.Diagnostics.Escalation
import DongleRescue.Linux.Rows

namespace DongleRescue.Diagnostics

open DongleRescue.Data DongleRescue.Identification DongleRescue.Linux

/-! Which block directives the classifier recognises: the words are compared together with
the one space that it expects between them. -/

/-- What a line says before its comment. -/
def directive (line : Str) : Str := line.takeWhile (· != '#')

def blockings (module : Str) : List (List Str) := [["blacklist", module], ["install", module, "/bin/false"]]

/-- The directive blocks the module, whatever stands between its words. -/
def SpellsBlock (module line : Str) : Prop := words isSpace (directive line) ∈ blockings module

def SingleSpaced (line : Str) : Prop :=
  strip (directive line) = join " " (words isSpace (directive line))

instance (module line : Str) : Decidable (SpellsBlock module line) := inferInstanceAs (Decidable (_ ∈ _))

section Lines

variable {module line : Str}

theorem lineBlocks_iff_join : lineBlocks module line = true ↔
    ∃ blocking ∈ blockings module, strip (directive line) = join " " blocking := by
  have blacklist : join " " ["blacklist", module] = "blacklist " ++ module := by
    rw [join_cons_cons, join_singleton]
    rfl
  have install : join " " ["install", module, "/bin/false"] = "install " ++ module ++ " /bin/false" := by
    rw [join_cons_cons, join_cons_cons, join_singleton, List.append_assoc]
    rfl
  rw [lineBlocks, Bool.or_eq_true, decide_eq_true_eq, decide_eq_true_eq, ← blacklist, ← install]
  simp [blockings, directive]

theorem isWord_of_blockings (isWord : IsWord module) {blocking : List Str} (member : blocking ∈ blockings module) :
    ∀ word ∈ blocking, IsWordOf isSpace word := by
  have fixed : IsWordOf isSpace "blacklist" ∧ IsWordOf isSpace "install" ∧ IsWordOf isSpace "/bin/false" := by
    unfold IsWordOf
    decide
  rcases List.mem_pair.mp member with same | same
  · rw [same, List.forall_mem_cons, List.forall_mem_singleton]
    exact ⟨fixed.1, isWord⟩
  · rw [same, List.forall_mem_cons, List.forall_mem_cons, List.forall_mem_singleton]
    exact ⟨fixed.2.1, isWord, fixed.2.2⟩

theorem isWord_of_spellsBlock (spelled : SpellsBlock module line) : IsWord module := by
  have member : module ∈ words isSpace (directive line) := by
    rcases List.mem_pair.mp spelled with same | same
    · simp [same]
    · simp [same]
  exact isWordOf_of_mem_words member

/-- Of the directives that block a module the classifier takes the single-spaced ones. -/
theorem lineBlocks_iff (isWord : IsWord module) :
    lineBlocks module line = true ↔ SpellsBlock module line ∧ SingleSpaced line := by
  rw [lineBlocks_iff_join]
  constructor
  · intro ⟨blocking, member, same⟩
    have split : words isSpace (directive line) = blocking := by
      rw [← words_stripWhile]
      exact (congrArg (words isSpace) same).trans
        (words_intercalate (by decide) (isWord_of_blockings isWord member))
    rw [SpellsBlock, SingleSpaced, split]
    exact ⟨member, same⟩
  · intro ⟨spelled, spaced⟩
    exact ⟨_, spelled, spaced⟩

end Lines

def Declares (module : Option Str) (file : Str × Str) : Prop :=
  ∃ text, module = some text ∧ ∃ line ∈ splitlines file.2, SpellsBlock text line

def DeclaresPlainly (module : Option Str) (file : Str × Str) : Prop :=
  ∃ text, module = some text ∧ ∃ line ∈ splitlines file.2, SpellsBlock text line ∧ SingleSpaced line

section Files

variable {module : Option Str} {files : List (Str × Str)} {file : Str × Str}

theorem blocking_iff : Blocking module file ↔
    ∃ text, module = some text ∧ text ≠ [] ∧ ∃ line ∈ splitlines file.2, lineBlocks text line = true := by
  simp only [Blocking, List.any_eq_true]

theorem blocking_iff_declaresPlainly {text : Str} (isWord : IsWord text) :
    Blocking (some text) file ↔ DeclaresPlainly (some text) file := by
  rw [blocking_iff]
  constructor
  · intro ⟨_, same, _, line, inFile, blocks⟩
    cases same
    exact ⟨text, rfl, line, inFile, (lineBlocks_iff isWord).mp blocks⟩
  · intro ⟨_, same, line, inFile, spelled⟩
    cases same
    exact ⟨text, rfl, isWord.1, line, inFile, (lineBlocks_iff isWord).mpr spelled⟩

theorem DeclaresPlainly.declares (plainly : DeclaresPlainly module file) : Declares module file := by
  obtain ⟨text, same, line, inFile, spelled, _⟩ := plainly
  exact ⟨text, same, line, inFile, spelled⟩

theorem isWord_of_declares (declares : Declares module file) : ∃ text, module = some text ∧ IsWord text := by
  obtain ⟨text, same, line, _, spelled⟩ := declares
  exact ⟨text, same, isWord_of_spellsBlock spelled⟩

theorem truthy_blacklisted_iff_least : truthy (blacklisted module files) = true ↔
    ∃ file, Keyed.Least (Blocking module) files file ∧ file.1 ≠ [] := by
  rw [truthy_blacklisted_iff]
  constructor
  · intro ⟨found, named⟩
    obtain ⟨file, least⟩ := Keyed.exists_least found
    exact ⟨file, least, named file least.member least.holds⟩
  · intro ⟨file, least, nonempty⟩
    refine ⟨⟨file, least.member, least.holds⟩, fun other member blocking empty => nonempty ?_⟩
    have below := least.below other member blocking
    rw [empty] at below
    exact eq_nil_of_le_nil below

theorem blacklisted_of_least (least : Keyed.Least (Blocking module) files file) :
    blacklisted module files = some file.1 := by
  cases blocked : blacklisted module files with
  | none => exact absurd least.holds (blacklisted_eq_none_iff.mp blocked file least.member)
  | some path =>
      obtain ⟨⟨other, member, blocking, same⟩, below⟩ := blacklisted_some blocked
      have least' : Keyed.Least (Blocking module) files other :=
        ⟨member, blocking, fun other' => same ▸ below other'⟩
      rw [← same, least'.key_eq least]

end Files

section Runs

variable [Interpreter] {machine : Machine} {res : DiagnosisInput} {boundDriver : Option Str}
  {lines : List Str} {files : List (Str × Str)} {host : Option Host} {managers : Option (List Str)}
  {kb : Option Kb} {diagnosis : Diagnosis}

/-- No line of the log holds a number that is too long to be read. -/
def Readable (lines : List Str) : Prop := ∃ failures, dmesgFirmwareFailures lines = .ok failures

omit [Interpreter] in
theorem not_clear_of_least {file : Str × Str} (nonempty : file.1 ≠ [])
    (least : Keyed.Least (Blocking (primaryModule res boundDriver)) files file) :
    ¬ Clear res boundDriver files := by
  intro clear
  have blocked := truthy_blacklisted_iff_least.mpr ⟨file, least, nonempty⟩
  rw [clear.unblocked] at blocked
  cases blocked

omit [Interpreter] in
theorem closedVerdict_of_least {file : Str × Str} (named : unidentified res = false)
    (least : Keyed.Least (Blocking (primaryModule res boundDriver)) files file) :
    closedVerdict res boundDriver files = moduleBlocked res (primaryModule res boundDriver) file.1 := by
  rw [closedVerdict, named, blacklisted_of_least least]
  rfl

theorem classify_blocked_iff (named : unidentified res = false) :
    (classify machine res boundDriver lines files host managers kb = .ok diagnosis ∧
        diagnosis.state = .dModuleBlocked) ↔
      Readable lines ∧ ∃ file, Keyed.Least (Blocking (primaryModule res boundDriver)) files file ∧
        file.1 ≠ [] ∧ diagnosis = moduleBlocked res (primaryModule res boundDriver) file.1 := by
  constructor
  · rintro ⟨returned, state⟩
    obtain ⟨failures, read, observed⟩ := classify_state returned
    have blocked : truthy (blacklisted (primaryModule res boundDriver) files) = true := by
      by_contra unblocked
      have lower : severity (observation res boundDriver files host (kb.getD machine.chipsetKb) failures).state ≤ 2 :=
        Observation.severity_le_of_unblocked named (Bool.eq_false_of_not_eq_true unblocked)
      rw [← observed, state] at lower
      exact absurd lower (by decide)
    obtain ⟨file, least, nonempty⟩ := truthy_blacklisted_iff_least.mp blocked
    refine ⟨⟨failures, read⟩, file, least, nonempty, ?_⟩
    rw [classify_eq, read] at returned
    have verdict := (verdict_unclear (not_clear_of_least nonempty least)).symm.trans returned
    rw [← Except.ok.inj verdict, closedVerdict_of_least named least]
  · rintro ⟨⟨failures, read⟩, file, least, nonempty, same⟩
    rw [same, classify_eq, read]
    refine ⟨(verdict_unclear (not_clear_of_least nonempty least)).trans ?_, rfl⟩
    rw [closedVerdict_of_least named least]

omit [Interpreter] in
theorem moduleBlocked_injective {primary : Option Str} {path path' : Str}
    (same : moduleBlocked res primary path = moduleBlocked res primary path') : path = path' := by
  have explained := congrArg (fun diagnosis => diagnosis.recommendedAction.explanation) same
  exact List.append_cancel_left (List.append_cancel_right explained)

/-- The least declaring file has a path and a directive with single spaces, and a name that no
directive can hold is not blocked either. -/
structure PlainlyDeclared (lines : List Str) (module : Option Str) (files : List (Str × Str)) : Prop where
  least : ∀ file, Keyed.Least (Declares module) files file →
    Readable lines ∧ file.1 ≠ [] ∧ ∃ same ∈ files, same.1 = file.1 ∧ DeclaresPlainly module same
  nameless : ∀ text, module = some text → ¬ IsWord text → Readable lines →
    (∃ file ∈ files, Blocking module file) → ∃ file ∈ files, Blocking module file ∧ file.1 = []

namespace PlainlyDeclared

variable {module : Option Str} {file block : Str × Str} (plainly : PlainlyDeclared lines module files)
include plainly

theorem declares (readable : Readable lines) (nonempty : block.1 ≠ [])
    (least : Keyed.Least (Blocking module) files block) : Declares module block := by
  obtain ⟨text, same, _⟩ := least.holds
  by_cases isWord : IsWord text
  · have holds := least.holds
    rw [same] at holds ⊢
    exact ((blocking_iff_declaresPlainly isWord).mp holds).declares
  · obtain ⟨file, member, blocking, empty⟩ := plainly.nameless text same isWord readable
      ⟨block, least.member, least.holds⟩
    have below := least.below file member blocking
    rw [empty] at below
    exact absurd (eq_nil_of_le_nil below) nonempty

/-- The file that the search finds stands under the path of the least declaring one. -/
theorem exists_block (least : Keyed.Least (Declares module) files file) :
    Readable lines ∧ file.1 ≠ [] ∧
      ∃ block, Keyed.Least (Blocking module) files block ∧ block.1 = file.1 := by
  obtain ⟨readable, nonempty, block, member, samePath, spelled⟩ := plainly.least file least
  obtain ⟨text, same, isWord⟩ := isWord_of_declares least.holds
  rw [same] at least spelled ⊢
  refine ⟨readable, nonempty, block, ⟨member, (blocking_iff_declaresPlainly isWord).mpr spelled, ?_⟩, samePath⟩
  intro other inFiles blocking
  rw [samePath]
  exact least.below other inFiles ((blocking_iff_declaresPlainly isWord).mp blocking).declares

end PlainlyDeclared

/-- The module is blocked exactly when a file declares it, and the least such file is named. -/
structure Recognised (machine : Machine) (res : DiagnosisInput) (boundDriver : Option Str) (lines : List Str)
    (files : List (Str × Str)) (host : Option Host) (managers : Option (List Str)) (kb : Option Kb) : Prop where
  state : (∃ diagnosis, classify machine res boundDriver lines files host managers kb = .ok diagnosis ∧
      diagnosis.state = .dModuleBlocked) ↔ ∃ file ∈ files, Declares (primaryModule res boundDriver) file
  path : ∀ diagnosis, classify machine res boundDriver lines files host managers kb = .ok diagnosis ∧
      diagnosis.state = .dModuleBlocked →
    ∃ file, Keyed.Least (Declares (primaryModule res boundDriver)) files file ∧
      diagnosis = moduleBlocked res (primaryModule res boundDriver) file.1

theorem Recognised.plainlyDeclared (named : unidentified res = false)
    (recognised : Recognised machine res boundDriver lines files host managers kb) :
    PlainlyDeclared lines (primaryModule res boundDriver) files where
  least := by
    intro file least
    obtain ⟨diagnosis, blocked⟩ := recognised.state.mpr ⟨file, least.member, least.holds⟩
    obtain ⟨file', least', shown⟩ := recognised.path diagnosis blocked
    obtain ⟨readable, block, leastBlock, nonempty, shown'⟩ := (classify_blocked_iff named).mp blocked
    have samePath : block.1 = file.1 :=
      (moduleBlocked_injective (shown'.symm.trans shown)).trans (least'.key_eq least)
    obtain ⟨text, same, isWord⟩ := isWord_of_declares least.holds
    rw [same] at leastBlock ⊢
    exact ⟨readable, samePath ▸ nonempty, block, leastBlock.member, samePath,
      (blocking_iff_declaresPlainly isWord).mp leastBlock.holds⟩
  nameless := by
    intro text same notWord readable found
    by_contra hidden
    obtain ⟨block, leastBlock⟩ := Keyed.exists_least found
    have nonempty : block.1 ≠ [] := fun empty => hidden ⟨block, leastBlock.member, leastBlock.holds, empty⟩
    obtain ⟨file, _, declares⟩ := recognised.state.mp
      ⟨_, (classify_blocked_iff named).mpr ⟨readable, block, leastBlock, nonempty, rfl⟩⟩
    obtain ⟨text', same', isWord⟩ := isWord_of_declares declares
    rw [same, Option.some.injEq] at same'
    exact notWord (same' ▸ isWord)

theorem PlainlyDeclared.recognised (named : unidentified res = false)
    (plainly : PlainlyDeclared lines (primaryModule res boundDriver) files) :
    Recognised machine res boundDriver lines files host managers kb where
  state := by
    constructor
    · intro ⟨diagnosis, blocked⟩
      obtain ⟨readable, block, leastBlock, nonempty, _⟩ := (classify_blocked_iff named).mp blocked
      exact ⟨block, leastBlock.member, plainly.declares readable nonempty leastBlock⟩
    · intro found
      obtain ⟨file, least⟩ := Keyed.exists_least found
      obtain ⟨readable, nonempty, block, leastBlock, samePath⟩ := plainly.exists_block least
      exact ⟨_, (classify_blocked_iff named).mpr ⟨readable, block, leastBlock, samePath ▸ nonempty, rfl⟩⟩
  path := by
    intro diagnosis blocked
    obtain ⟨readable, block, leastBlock, nonempty, shown⟩ := (classify_blocked_iff named).mp blocked
    have declares := plainly.declares readable nonempty leastBlock
    obtain ⟨file, least⟩ := Keyed.exists_least ⟨block, leastBlock.member, declares⟩
    obtain ⟨_, _, block', leastBlock', samePath⟩ := plainly.exists_block least
    exact ⟨file, least, by rw [shown, leastBlock.key_eq leastBlock', samePath]⟩

/-- Blocks are recognised exactly when the least declaring file spells its directive as the
classifier does. -/
theorem recognised_iff_plainlyDeclared (machine : Machine) (host : Option Host) (managers : Option (List Str))
    (kb : Option Kb) (named : unidentified res = false) :
    Recognised machine res boundDriver lines files host managers kb ↔
      PlainlyDeclared lines (primaryModule res boundDriver) files :=
  ⟨fun recognised => recognised.plainlyDeclared named, fun plainly => plainly.recognised named⟩

end Runs

def unboundInput : DiagnosisInput := { mt7601uInput with candidates := [⟨"mt7601u", "chipsets.json", .confirmed, []⟩] }

def confFile (text : Str) : Str × Str := ("/etc/modprobe.d/blacklist.conf", text)

theorem recognised_single_spaced : @Recognised asciiInterpreter bareMachine unboundInput none []
    [confFile "# wifi\n  blacklist mt7601u # off\n"] none none (some mt7601uKb) := by
  let _ : Interpreter := asciiInterpreter
  have named : unidentified unboundInput = false := rfl
  have isWord : IsWord "mt7601u" := by decide
  have declared : DeclaresPlainly (some "mt7601u") (confFile "# wifi\n  blacklist mt7601u # off\n") :=
    ⟨"mt7601u", rfl, "  blacklist mt7601u # off", by decide, by decide +kernel, rfl⟩
  refine (recognised_iff_plainlyDeclared bareMachine none none (some mt7601uKb) named).mpr ⟨?_, ?_⟩
  · intro file least
    have same := List.mem_singleton.mp least.member
    subst same
    exact ⟨⟨[], rfl⟩, by decide, _, least.member, rfl, declared⟩
  · intro text same notWord
    cases same
    exact absurd isWord notWord

/-- A second space hides the block, and the device is taken for one without its id. -/
theorem spaced_out_unrecognised :
    ∃ diagnosis, @classify asciiInterpreter bareMachine unboundInput none []
        [confFile "blacklist  mt7601u\n"] none none (some mt7601uKb) = .ok diagnosis ∧
      diagnosis.state = .bIdUnbound ∧ unidentified unboundInput = false ∧
      Declares (primaryModule unboundInput none) (confFile "blacklist  mt7601u\n") := by
  let _ : Interpreter := asciiInterpreter
  have returned : classify bareMachine unboundInput none [] [confFile "blacklist  mt7601u\n"] none none
      (some mt7601uKb) = .ok _ := rfl
  have spelled : SpellsBlock "mt7601u" "blacklist  mt7601u" := by decide +kernel
  exact ⟨_, returned, rfl, rfl, "mt7601u", rfl, "blacklist  mt7601u", by decide, spelled⟩

end DongleRescue.Diagnostics
