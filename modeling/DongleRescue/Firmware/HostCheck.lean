import DongleRescue.Firmware.Probes

namespace DongleRescue.Firmware

open DongleRescue.Data DongleRescue.Posix

/-! The host's own check for a firmware file, against the three-valued one: it resolves
first and asks for existence last, and that last question is not guarded. -/

def commonNames : List Str → List Str → List Str
  | first :: firsts, second :: seconds =>
      if first = second then first :: commonNames firsts seconds else []
  | _, _ => []

/-- `os.path.commonpath` of two paths. -/
def commonpath (first second : Str) : Py Str :=
  if isAbsolute first ≠ isAbsolute second then
    .error (.valueError "Can't mix absolute and relative paths")
  else
    .ok ((if isAbsolute first then ['/'] else []) ++
      join ['/'] (commonNames (keptNames first) (keptNames second)))

def firmwareExists [Interpreter] (host : Host) (relPath root : Str) : Py (Option Bool) :=
  match requireFirmwarePath relPath with
  | .error (.valueError _) => .ok (some false)
  | .error other => .error other
  | .ok rel =>
      let base := rstripSlashes root
      match host.resolveRealpath (base ++ '/' :: rel) with
      | .error _ => .ok none
      | .ok real => do
          let common ← commonpath real base
          if common ≠ base then return some false
          else match host.exists real with
            | .ok found => return some found
            -- Outside the guarded call: a failure here leaves the function.
            | .error failure => .error (.host failure)

section Common

variable {first second : List Str} {real : Str}

theorem commonNames_start : commonNames first second <+: first := by
  induction first generalizing second with
  | nil => exact List.prefix_refl []
  | cons name first ih =>
      cases second with
      | nil => exact List.nil_prefix
      | cons other second =>
          rw [commonNames]
          split
          · exact (List.prefix_cons_inj name).mpr ih
          · exact List.nil_prefix

theorem commonNames_eq_right_iff : commonNames first second = second ↔ second <+: first := by
  constructor
  · intro same
    rw [← same]
    exact commonNames_start
  · intro ⟨rest, split⟩
    rw [← split]
    clear split
    induction second with
    | nil => cases rest <;> rfl
    | cons name second ih => rw [List.cons_append, commonNames, if_pos rfl, ih]

def rootNames : List Str := ["lib", "firmware"]

/-- The components of the path lead through the root. -/
def InRoot (real : Str) : Prop := rootNames <+: keptNames real

instance (real : Str) : Decidable (InRoot real) := inferInstanceAs (Decidable (_ <+: _))

theorem keptNames_firmwareRoot : keptNames firmwareRoot = rootNames := by decide

theorem rstripSlashes_firmwareRoot : rstripSlashes firmwareRoot = firmwareRoot := by decide

theorem commonpath_firmwareRoot (absolute : isAbsolute real = true) :
    ∃ common, commonpath real firmwareRoot = .ok common ∧ (common = firmwareRoot ↔ InRoot real) := by
  have rooted : isAbsolute firmwareRoot = true := by decide
  refine ⟨'/' :: join ['/'] (commonNames (keptNames real) rootNames), ?_, ?_⟩
  · rw [commonpath, absolute, rooted, if_neg (by decide), keptNames_firmwareRoot]
    rfl
  · have text : firmwareRoot = '/' :: join ['/'] rootNames := by decide
    rw [text, List.cons.injEq, InRoot, ← commonNames_eq_right_iff]
    refine ⟨fun same => ?_, fun same => ⟨rfl, by rw [same]⟩⟩
    have plain : ∀ name ∈ commonNames (keptNames real) rootNames, '/' ∉ name := by
      intro name member
      exact slash_not_mem_names (List.mem_of_mem_filter (commonNames_start.subset member))
    have nonempty : commonNames (keptNames real) rootNames ≠ [] := by
      intro empty
      rw [empty] at same
      exact absurd same.2 (by decide)
    have split := names_join nonempty plain
    rw [same.2] at split
    exact split.symm.trans (names_join (by decide) (by decide))

/-- What lies textually below the root also lies there by components. -/
theorem inRoot_of_startsWith (below : startsWith real (firmwareRoot ++ ['/']) = true) : InRoot real := by
  obtain ⟨rest, split⟩ := startsWith_iff.mp below
  have kept : keptNames real = rootNames ++ keptNames rest := by
    have text : real = firmwareRoot ++ '/' :: rest := by
      rw [split, List.append_assoc]
      rfl
    have root : (names firmwareRoot).filter (fun name => !isBlank name) = rootNames := by decide
    rw [keptNames, text, names_append_slash, List.filter_append, root]
    rfl
  rw [InRoot, kept]
  exact List.prefix_append _ _

end Common

section Checks

variable {host : Host} {canon real : Str}

def targetPath (canon : Str) : Str := candidatePath firmwareRoot canon []

def compressedForms : List (Str × Str) := [(".zst", ".zst"), (".xz", ".xz")]

/-- The host answers that there is no compressed form. -/
def CompressedAbsent (host : Host) (canon : Str) : Prop :=
  ∀ form ∈ compressedForms, host.exists (candidatePath firmwareRoot canon form.1) = .ok false

/-- What is known of the compressed forms, where none of them is found. -/
def CompressedAnswer (host : Host) (canon : Str) (answer : Option Bool) : Prop :=
  answer = none ∧ ¬ CompressedAbsent host canon ∨ answer = some false ∧ CompressedAbsent host canon

/-- What the host answers about the file suits both orders of asking. -/
structure SameView (host : Host) (canon : Str) : Prop where
  unresolved : ∀ failure, host.resolveRealpath (targetPath canon) = .error failure →
    host.exists (targetPath canon) ≠ .ok false ∨ ¬ CompressedAbsent host canon
  escaping : ∀ real, host.resolveRealpath (targetPath canon) = .ok real → ¬ InRoot real →
    (∃ present, host.exists (targetPath canon) = .ok present) ∧ CompressedAbsent host canon
  inside : ∀ real, host.resolveRealpath (targetPath canon) = .ok real → InRoot real →
    (host.exists real = .ok true ∧ host.exists (targetPath canon) = .ok true ∧
      startsWith real (firmwareRoot ++ ['/']) = true) ∨
    (host.exists real = .ok false ∧ CompressedAbsent host canon ∧
      (host.exists (targetPath canon) = .ok false ∨
        host.exists (targetPath canon) = .ok true ∧ startsWith real (firmwareRoot ++ ['/']) = false))

theorem targetPath_eq : targetPath canon = firmwareRoot ++ '/' :: canon := by
  rw [targetPath, candidatePath, List.append_nil]

section Host

variable [Interpreter] {relPath : Str}

theorem firmwareExists_unresolved {failure : HostFailure} (accepted : requireFirmwarePath relPath = .ok canon)
    (unresolved : host.resolveRealpath (targetPath canon) = .error failure) :
    firmwareExists host relPath firmwareRoot = .ok none := by
  rw [targetPath_eq] at unresolved
  rw [firmwareExists]
  rw [accepted]
  simp only [rstripSlashes_firmwareRoot, unresolved]

theorem firmwareExists_escaping (accepted : requireFirmwarePath relPath = .ok canon)
    (resolved : host.resolveRealpath (targetPath canon) = .ok real) (absolute : isAbsolute real = true)
    (outside : ¬ InRoot real) : firmwareExists host relPath firmwareRoot = .ok (some false) := by
  obtain ⟨common, returned, same⟩ := commonpath_firmwareRoot absolute
  rw [targetPath_eq] at resolved
  rw [firmwareExists]
  rw [accepted]
  simp only [rstripSlashes_firmwareRoot, resolved, returned]
  exact if_pos (same.not.mpr outside)

theorem firmwareExists_inside (accepted : requireFirmwarePath relPath = .ok canon)
    (resolved : host.resolveRealpath (targetPath canon) = .ok real) (absolute : isAbsolute real = true)
    (inRoot : InRoot real) (answer : Option Bool) :
    firmwareExists host relPath firmwareRoot = .ok answer ↔
      ∃ found, host.exists real = .ok found ∧ answer = some found := by
  obtain ⟨common, returned, same⟩ := commonpath_firmwareRoot absolute
  have root := same.mpr inRoot
  subst root
  rw [targetPath_eq] at resolved
  rw [firmwareExists]
  rw [accepted]
  simp only [rstripSlashes_firmwareRoot, resolved, returned]
  cases present : host.exists real with
  | error failure =>
      constructor
      · intro answered
        cases answered
      · intro ⟨_, found, _⟩
        cases found
  | ok found =>
      constructor
      · intro answered
        cases answered
        exact ⟨found, rfl, rfl⟩
      · intro ⟨_, same, answered⟩
        cases same
        rw [answered]
        rfl

end Host

theorem formState_target : formState host firmwareRoot canon ([], "raw") =
    match host.exists (targetPath canon) with
    | .error _ => none
    | .ok false => some false
    | .ok true =>
        match host.resolveRealpath (targetPath canon) with
        | .error _ => none
        | .ok real => some (startsWith real (firmwareRoot ++ ['/'])) := by
  rw [formState, existsUnderRoot, rstripSlashes_firmwareRoot]
  rfl

theorem formState_uncompressed {form : Str × Str}
    (uncompressed : host.exists (candidatePath firmwareRoot canon form.1) ≠ .ok true) :
    formState host firmwareRoot canon form ≠ some true ∧
      (formState host firmwareRoot canon form = some false ↔
        host.exists (candidatePath firmwareRoot canon form.1) = .ok false) := by
  rw [formState, existsUnderRoot, rstripSlashes_firmwareRoot]
  cases present : host.exists (candidatePath firmwareRoot canon form.1) with
  | error failure => simp
  | ok found =>
      cases found with
      | false => simp
      | true => exact absurd present uncompressed

theorem kleeneAny_uncompressed (uncompressed : ∀ form ∈ compressedForms,
      host.exists (candidatePath firmwareRoot canon form.1) ≠ .ok true) :
    kleeneAny (formStates host firmwareRoot canon compressedForms) ≠ some true ∧
      (kleeneAny (formStates host firmwareRoot canon compressedForms) = some false ↔
        CompressedAbsent host canon) := by
  constructor
  · rw [ne_eq, kleeneAny_eq_some_true_iff, formStates, List.mem_map]
    rintro ⟨form, member, found⟩
    exact (formState_uncompressed (uncompressed form member)).1 found
  · rw [kleeneAny_eq_some_false_iff, formStates, List.forall_mem_map, CompressedAbsent]
    exact forall₂_congr fun form member => (formState_uncompressed (uncompressed form member)).2

theorem kleeneAny_compressed (uncompressed : ∀ form ∈ compressedForms,
      host.exists (candidatePath firmwareRoot canon form.1) ≠ .ok true) :
    CompressedAnswer host canon (kleeneAny (formStates host firmwareRoot canon compressedForms)) := by
  obtain ⟨unfound, absent⟩ := kleeneAny_uncompressed uncompressed
  cases answer : kleeneAny (formStates host firmwareRoot canon compressedForms) with
  | none =>
      rw [answer] at absent
      exact .inl ⟨rfl, fun all => by cases absent.mpr all⟩
  | some found =>
      cases found with
      | true => exact absurd answer unfound
      | false => exact .inr ⟨rfl, absent.mp answer⟩

theorem sameView_unresolved_iff {failure : HostFailure}
    (unresolved : host.resolveRealpath (targetPath canon) = .error failure)
    {compressed : Option Bool} (known : CompressedAnswer host canon compressed) :
    SameView host canon ↔ none = kleeneOr (formState host firmwareRoot canon ([], "raw")) compressed := by
  have view : SameView host canon ↔ host.exists (targetPath canon) ≠ .ok false ∨ ¬ CompressedAbsent host canon := by
    constructor
    · intro same
      exact same.unresolved failure unresolved
    · intro answers
      refine ⟨fun _ _ => answers, fun real resolved => ?_, fun real resolved => ?_⟩
      · rw [unresolved] at resolved
        cases resolved
      · rw [unresolved] at resolved
        cases resolved
  rw [view, formState_target, unresolved]
  rcases known with ⟨unknown, absent⟩ | ⟨unknown, absent⟩
  all_goals
    rw [unknown]
    cases host.exists (targetPath canon) with
    | error failure => simp [kleeneOr, absent]
    | ok present => cases present <;> simp [kleeneOr, absent]

theorem sameView_escaping_iff (resolved : host.resolveRealpath (targetPath canon) = .ok real)
    (outside : ¬ InRoot real) {compressed : Option Bool}
    (known : CompressedAnswer host canon compressed) :
    SameView host canon ↔ some false = kleeneOr (formState host firmwareRoot canon ([], "raw")) compressed := by
  have view : SameView host canon ↔
      (∃ present, host.exists (targetPath canon) = .ok present) ∧ CompressedAbsent host canon := by
    constructor
    · intro same
      exact same.escaping real resolved outside
    · intro answers
      refine ⟨fun failure unresolved => ?_, fun _ _ _ => answers, fun other resolved' inRoot => ?_⟩
      · rw [resolved] at unresolved
        cases unresolved
      · rw [resolved] at resolved'
        cases resolved'
        exact absurd inRoot outside
  have escapes : startsWith real (firmwareRoot ++ ['/']) = false :=
    Bool.eq_false_iff.mpr fun below => outside (inRoot_of_startsWith below)
  rw [view, formState_target, resolved]
  simp only [escapes]
  rcases known with ⟨unknown, absent⟩ | ⟨unknown, absent⟩
  all_goals
    rw [unknown]
    cases host.exists (targetPath canon) with
    | error failure => simp [kleeneOr, absent]
    | ok present => cases present <;> simp [kleeneOr, absent]

theorem sameView_inside_iff (resolved : host.resolveRealpath (targetPath canon) = .ok real)
    (inRoot : InRoot real) {compressed : Option Bool}
    (known : CompressedAnswer host canon compressed) :
    SameView host canon ↔ ∃ found, host.exists real = .ok found ∧
      kleeneOr (formState host firmwareRoot canon ([], "raw")) compressed = some found := by
  have view : SameView host canon ↔
      (host.exists real = .ok true ∧ host.exists (targetPath canon) = .ok true ∧
        startsWith real (firmwareRoot ++ ['/']) = true) ∨
      (host.exists real = .ok false ∧ CompressedAbsent host canon ∧
        (host.exists (targetPath canon) = .ok false ∨
          host.exists (targetPath canon) = .ok true ∧ startsWith real (firmwareRoot ++ ['/']) = false)) := by
    constructor
    · intro same
      exact same.inside real resolved inRoot
    · intro answers
      refine ⟨fun failure unresolved => ?_, fun other resolved' outside => ?_, fun other resolved' _ => ?_⟩
      · rw [resolved] at unresolved
        cases unresolved
      · rw [resolved] at resolved'
        cases resolved'
        exact absurd inRoot outside
      · rw [resolved] at resolved'
        cases resolved'
        exact answers
  rw [view, formState_target, resolved]
  rcases known with ⟨unknown, absent⟩ | ⟨unknown, absent⟩
  all_goals
    rw [unknown]
    cases host.exists (targetPath canon) with
    | error failure => simp [kleeneOr, absent]
    | ok present =>
        cases present <;> cases below : startsWith real (firmwareRoot ++ ['/']) <;>
          simp [kleeneOr, absent, below]

/-- The two checks agree exactly on hosts whose answers about the file and about the place
it resolves to fit together. -/
theorem firmware_checks_agree_iff [Interpreter] {module relPath : Str}
    (absolute : ∀ path real, host.resolveRealpath path = .ok real → isAbsolute real = true)
    (valid : fwNameValid relPath = true) (accepted : requireFirmwarePath relPath = .ok canon)
    (uncompressed : ∀ form ∈ compressedForms,
      host.exists (candidatePath firmwareRoot canon form.1) ≠ .ok true) :
    (∃ answer st, firmwareExists host relPath firmwareRoot = .ok answer ∧
      checkFirmwarePresence host module relPath firmwareRoot = .ok st ∧ st.installed = answer) ↔
      SameView host canon := by
  have canonical : normpath relPath = canon := by
    rw [requireFirmwarePath_of_fwNameValid valid] at accepted
    exact Except.ok.inj accepted
  have known := kleeneAny_compressed uncompressed
  obtain ⟨_, _, installed⟩ := @presenceStatus_parts host firmwareRoot canon module
  have present : checkFirmwarePresence host module relPath firmwareRoot =
      .ok (presenceStatus host module canon (rstripSlashes firmwareRoot)) := by
    rw [checkFirmwarePresence_eq valid, canonical]
  have states : formStates host firmwareRoot canon firmwareForms =
      formState host firmwareRoot canon ([], "raw") :: formStates host firmwareRoot canon compressedForms := rfl
  rw [states, kleeneAny_cons] at installed
  have agree : (∃ answer st, firmwareExists host relPath firmwareRoot = .ok answer ∧
      checkFirmwarePresence host module relPath firmwareRoot = .ok st ∧ st.installed = answer) ↔
      firmwareExists host relPath firmwareRoot = .ok (kleeneOr (formState host firmwareRoot canon ([], "raw"))
        (kleeneAny (formStates host firmwareRoot canon compressedForms))) := by
    rw [← installed, present]
    constructor
    · intro ⟨answer, st, exists_, checked, same⟩
      cases checked
      rw [same]
      exact exists_
    · intro exists_
      exact ⟨_, _, exists_, rfl, rfl⟩
  rw [agree]
  cases resolved : host.resolveRealpath (targetPath canon) with
  | error failure =>
      rw [firmwareExists_unresolved accepted resolved, Except.ok.injEq, sameView_unresolved_iff resolved known]
  | ok real =>
      by_cases inRoot : InRoot real
      · rw [firmwareExists_inside accepted resolved (absolute _ _ resolved) inRoot,
          sameView_inside_iff resolved inRoot known]
      · rw [firmwareExists_escaping accepted resolved (absolute _ _ resolved) inRoot, Except.ok.injEq,
          sameView_escaping_iff resolved inRoot known]

end Checks

def installedFirmware : FileSystem where
  nodes := [(["lib"], .dir), (["lib", "firmware"], .dir), (["lib", "firmware", "mt7601u.bin"], .file [])]
  cwd := []
  maxSymlinks := 40
  cwdCanonical := .root _

theorem firmware_checks_agree_installed :
    ∃ answer st, @firmwareExists asciiInterpreter (realHost installedFirmware id) "mt7601u.bin" firmwareRoot =
        .ok answer ∧
      @checkFirmwarePresence asciiInterpreter (realHost installedFirmware id) "mt7601u" "mt7601u.bin"
        firmwareRoot = .ok st ∧ st.installed = answer := by
  let _ : Interpreter := asciiInterpreter
  have absolute : ∀ path real, (realHost installedFirmware id).resolveRealpath path = .ok real →
      isAbsolute real = true := by
    intro path real resolved
    cases resolved
    rfl
  have resolved : (realHost installedFirmware id).resolveRealpath (targetPath "mt7601u.bin") =
      .ok "/lib/firmware/mt7601u.bin" := congrArg Except.ok (by decide +kernel)
  have found : (realHost installedFirmware id).exists "/lib/firmware/mt7601u.bin" = .ok true :=
    congrArg Except.ok (by decide +kernel)
  have accepted : requireFirmwarePath "mt7601u.bin" = .ok "mt7601u.bin".toList := rfl
  refine (firmware_checks_agree_iff absolute (by decide) accepted ?_).mpr ⟨?_, ?_, ?_⟩
  · intro form member present
    have compressed : ∀ form ∈ compressedForms,
        installedFirmware.exists_ (candidatePath firmwareRoot "mt7601u.bin" form.1) = false := by
      decide +kernel
    have present := Except.ok.inj present
    rw [compressed form member] at present
    cases present
  · intro failure unresolved
    rw [resolved] at unresolved
    cases unresolved
  · intro real resolved' outside
    rw [resolved] at resolved'
    cases resolved'
    exact absurd (by decide) outside
  · intro real resolved' _
    rw [resolved] at resolved'
    cases resolved'
    exact .inl ⟨found, found, by decide⟩

/-- A host that resolves every path to a given place, and can see it or not. -/
def resolvingHost (real : Str) (present : Str → Except HostFailure Bool) : Host where
  read path := .error (.hostError ("read " ++ path))
  «exists» path := present path
  listdir path := .error (.hostError ("listdir " ++ path))
  resolveRealpath _ := .ok real

def onlyFails (path : Str) : Except HostFailure Bool :=
  if path = "/lib/firmware/mt7601u.bin" then .error (.osError "Input/output error") else .ok false

def onlyRoot (path : Str) : Except HostFailure Bool :=
  .ok (path = "/lib/firmware" ∨ path = "/lib/firmware/mt7601u.bin")

/-- A failing look at the file leaves one check and is unknown to the other; a file that
resolves to the root itself is there for one and absent for the other. -/
theorem firmware_checks_disagree :
    (∃ st, @firmwareExists asciiInterpreter (resolvingHost "/lib/firmware/mt7601u.bin" onlyFails)
          "mt7601u.bin" firmwareRoot = .error (.host (.osError "Input/output error")) ∧
        @checkFirmwarePresence asciiInterpreter (resolvingHost "/lib/firmware/mt7601u.bin" onlyFails)
          "mt7601u" "mt7601u.bin" firmwareRoot = .ok st ∧ st.installed = none) ∧
      ∃ st, @firmwareExists asciiInterpreter (resolvingHost "/lib/firmware" onlyRoot) "mt7601u.bin"
          firmwareRoot = .ok (some true) ∧
        @checkFirmwarePresence asciiInterpreter (resolvingHost "/lib/firmware" onlyRoot) "mt7601u"
          "mt7601u.bin" firmwareRoot = .ok st ∧ st.installed = some false :=
  ⟨⟨_, rfl, rfl, rfl⟩, _, rfl, rfl, rfl⟩

end DongleRescue.Firmware
