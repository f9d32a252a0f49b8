import DongleRescue.Windows.Blocks
import DongleRescue.Windows.Printing

namespace DongleRescue.Windows

open DongleRescue.Data

/-! Devices that are printed are parsed back, whatever else is printed between their lines, as long as
`int` takes their problem codes. -/

section Devices

variable [Interpreter] {toUpper : Str → Str} {current : Current} {value : Str} {field : Field} {device : WindowsDevice}
  {lines rest : List Str} {fields : List (Field × Str)} {earlier : List WindowsDevice}

def Current.set (toUpper : Str → Str) (current : Current) (value : Str) : Field → Py Current
  | .description => .ok { current with description := some value }
  | .status => .ok { current with status := some value }
  | .problemCode => (fun problem => { current with problem }) <$> problemCode value
  | .hardwareIds => .ok { current with hwids := some (normHwids toUpper value) }
  | .compatibleIds => .ok { current with compats := some (normHwids toUpper value) }

theorem assign_name : current.assign toUpper field.name value = current.set toUpper value field := by
  cases field with
  | description => rfl
  | status => rfl
  | problemCode => rfl
  | hardwareIds => rfl
  | compatibleIds => rfl

theorem set_problem : current.set toUpper value .problemCode =
    (fun problem => { current with problem }) <$> problemCode value := rfl

theorem set_problem_comm {value' : Str} (other : field ≠ .problemCode) :
    (current.set toUpper value .problemCode >>= fun next => next.set toUpper value' field) =
      current.set toUpper value' field >>= fun next => next.set toUpper value .problemCode := by
  simp only [set_problem]
  cases problemCode value with
  | error failure =>
      cases field with
      | problemCode => exact absurd rfl other
      | _ => rfl
  | ok code =>
      cases field with
      | problemCode => exact absurd rfl other
      | _ => rfl

/-- Each field has its own place. -/
theorem set_comm {field' : Field} {value' : Str} (other : field ≠ field') :
    (current.set toUpper value field >>= fun next => next.set toUpper value' field') =
      current.set toUpper value' field' >>= fun next => next.set toUpper value field := by
  by_cases first : field = .problemCode
  · subst first
    exact set_problem_comm other.symm
  · by_cases second : field' = .problemCode
    · subst second
      exact (set_problem_comm other).symm
    · cases field <;> cases field' <;> first | contradiction | rfl

omit [Interpreter] in
/-- The present fields are the fields of the device that have something to print. -/
theorem mem_presentFields : (field, value) ∈ presentFields device ↔ printed device field = some value := by
  have every : field ∈ Field.all := by
    cases field
    all_goals simp [Field.all]
  rw [presentFields, List.mem_filterMap]
  constructor
  · rintro ⟨field', _, found⟩
    obtain ⟨value', printed, same⟩ := Option.map_eq_some_iff.mp found
    obtain ⟨rfl, rfl⟩ := Prod.mk.inj same
    exact printed
  · intro found
    exact ⟨field, every, by rw [found, Option.map_some]⟩

def setPrinted (toUpper : Str → Str) (device : WindowsDevice) (current : Current) (field : Field) : Py Current :=
  match printed device field with
  | some value => current.set toUpper value field
  | none => .ok current

theorem foldlM_fields (whole : ∀ pair ∈ fields, IsValue pair.2)
    (lines : List.Forall₂ (fun field line => FieldLine field.1.name field.2 line) fields rest) :
    rest.foldlM (readLine toUpper) ⟨earlier, some current⟩ = (fun current => ⟨earlier, some current⟩) <$>
      fields.foldlM (fun current field => current.set toUpper field.2 field.1) current := by
  induction lines generalizing current with
  | nil => rfl
  | @cons field line fields rest printed _ ih =>
      rw [List.forall_mem_cons] at whole
      have read := fieldOf_fieldLine (isName_name field.1) whole.1 printed
      have opened : (⟨earlier, some current⟩ : Parsing).current = some current := rfl
      rw [List.foldlM_cons, List.foldlM_cons, readLine_assign read (name_ne_instance field.1) opened, assign_name]
      cases current.set toUpper field.2 field.1 with
      | error failure => rfl
      | ok next => exact ih whole.2

theorem foldlM_presentFields (perm : fields.Perm (presentFields device)) :
    fields.foldlM (fun current field => Current.set toUpper current field.2 field.1) current =
      Field.all.foldlM (setPrinted toUpper device) current := by
  have commute : ∀ x ∈ fields, ∀ y ∈ fields, ∀ state : Current,
      (state.set toUpper x.2 x.1 >>= fun next => next.set toUpper y.2 y.1) =
        state.set toUpper y.2 y.1 >>= fun next => next.set toUpper x.2 x.1 := by
    intro x first y second state
    by_cases same : x.1 = y.1
    · have here := mem_presentFields.mp (perm.mem_iff.mp first)
      have there := mem_presentFields.mp (perm.mem_iff.mp second)
      rw [same, there] at here
      have equal : x = y := Prod.ext same (Option.some.inj here).symm
      rw [equal]
    · exact set_comm same
  rw [foldlM_eq_of_perm perm commute, presentFields, List.foldlM_filterMap]
  congr
  funext current field
  unfold setPrinted
  cases printed device field with
  | none => rfl
  | some value => rfl

/-- What `int` makes of the printed problem code. -/
def readCode : Option Int → Py (Option Int)
  | some code => problemCode (decimal code.toNat)
  | none => .ok none

theorem setPrinted_present (device : WindowsDevice) (field : Field) (found : printed device field = some value) :
    setPrinted toUpper device current field = current.set toUpper value field := by
  simp only [setPrinted, found]

theorem setPrinted_absent (device : WindowsDevice) (field : Field) (absent : printed device field = none) :
    setPrinted toUpper device current field = pure current := by
  simp only [setPrinted, absent]
  rfl

theorem setPrinted_description (fresh : current.description = none) :
    setPrinted toUpper device current .description = pure { current with description := device.description } := by
  cases found : device.description with
  | none => rw [setPrinted_absent device .description found, ← fresh]
  | some text => exact setPrinted_present device .description found

theorem setPrinted_status (fresh : current.status = none) :
    setPrinted toUpper device current .status = pure { current with status := device.status } := by
  cases found : device.status with
  | none => rw [setPrinted_absent device .status found, ← fresh]
  | some text => exact setPrinted_present device .status found

theorem setPrinted_problemCode (fresh : current.problem = none) : setPrinted toUpper device current .problemCode =
    (fun problem => { current with problem }) <$> readCode device.problemCode := by
  cases found : device.problemCode with
  | none =>
      rw [setPrinted_absent device .problemCode (Option.map_eq_none_iff.mpr found), readCode, ← fresh]
      rfl
  | some code => exact setPrinted_present device .problemCode (Option.map_eq_some_iff.mpr ⟨code, found, rfl⟩)

theorem setPrinted_hardwareIds (whole : ∀ id ∈ device.hardwareIds, IsId toUpper id) :
    ∃ hwids : Option (List Str), hwids.getD [] = device.hardwareIds ∧ ∀ current : Current, current.hwids = none →
      setPrinted toUpper device current .hardwareIds = pure { current with hwids } := by
  rcases printedIds_cases whole with ⟨empty, absent⟩ | ⟨value, present, read⟩
  · refine ⟨none, empty.symm, fun current fresh => ?_⟩
    rw [setPrinted_absent device .hardwareIds absent, ← fresh]
  · refine ⟨some device.hardwareIds, rfl, fun current _ => ?_⟩
    rw [setPrinted_present device .hardwareIds present, Current.set, read]
    rfl

theorem setPrinted_compatibleIds (whole : ∀ id ∈ device.compatibleIds, IsId toUpper id) :
    ∃ compats : Option (List Str), compats.getD [] = device.compatibleIds ∧ ∀ current : Current, current.compats = none →
      setPrinted toUpper device current .compatibleIds = pure { current with compats } := by
  rcases printedIds_cases whole with ⟨empty, absent⟩ | ⟨value, present, read⟩
  · refine ⟨none, empty.symm, fun current fresh => ?_⟩
    rw [setPrinted_absent device .compatibleIds absent, ← fresh]
  · refine ⟨some device.compatibleIds, rfl, fun current _ => ?_⟩
    rw [setPrinted_present device .compatibleIds present, Current.set, read]
    rfl

theorem foldlM_setPrinted {id : Str} (printable : Printable toUpper device) (named : device.instanceId = some id) :
    Current.device <$> Field.all.foldlM (setPrinted toUpper device) { instanceId := id } =
      (fun problemCode => { device with problemCode }) <$> readCode device.problemCode := by
  obtain ⟨hwids, hardwareIds, setHwids⟩ := setPrinted_hardwareIds printable.hardwareIds
  obtain ⟨compats, compatibleIds, setCompats⟩ := setPrinted_compatibleIds printable.compatibleIds
  simp only [Field.all, List.foldlM_cons, List.foldlM_nil, setPrinted_description, setPrinted_status,
    setPrinted_problemCode, pure_bind]
  cases readCode device.problemCode with
  | error failure => rfl
  | ok code =>
      have returned : (Except.ok code : Py (Option Int)) = pure code := rfl
      rw [returned]
      simp only [map_pure, pure_bind, setHwids, setCompats, Current.device, hardwareIds, compatibleIds, named]

/-- The lines of a device give the device back, with what `int` makes of its problem code. -/
theorem parseLines_prints (printable : Printable toUpper device) (prints : Prints device lines) :
    parseLines toUpper lines = (fun problemCode => [{ device with problemCode }]) <$> readCode device.problemCode := by
  obtain ⟨id, opening, fields, rest, named, opens, perm, printed, rfl⟩ := prints
  obtain ⟨id', named', nonempty, isValue⟩ := printable.instanceId
  obtain rfl : id = id' := Option.some.inj (named.symm.trans named')
  have whole : ∀ pair ∈ fields, IsValue pair.2 := fun pair member =>
    isValue_printed printable (mem_presentFields.mp (perm.mem_iff.mp member))
  have started : readLine toUpper ⟨[], none⟩ opening = .ok ⟨[], some { instanceId := id }⟩ :=
    readLine_instance (fieldOf_fieldLine isName_instance isValue opens)
  have ran : rest.foldlM (readLine toUpper) ⟨[], some { instanceId := id }⟩ =
      (fun current => ⟨[], some current⟩) <$> Field.all.foldlM (setPrinted toUpper device) { instanceId := id } := by
    rw [foldlM_fields whole printed, foldlM_presentFields perm]
  have built := foldlM_setPrinted printable named
  have unfolded : parseLines toUpper (opening :: rest) =
      rest.foldlM (readLine toUpper) ⟨[], some { instanceId := id }⟩ >>= fun state => pure state.flush.devices := by
    rw [parseLines, List.foldlM_cons, started]
    rfl
  rw [unfolded, ran]
  cases set : Field.all.foldlM (setPrinted toUpper device) { instanceId := id } with
  | error failure =>
      rw [set] at built
      cases code : readCode device.problemCode with
      | error failure' =>
          rw [code] at built
          cases built
          rfl
      | ok problem =>
          rw [code] at built
          cases built
  | ok current =>
      rw [set] at built
      obtain ⟨problem, code, same⟩ := map_ok_iff.mp built.symm
      have current_named : current.instanceId = id := by
        have ids := congrArg WindowsDevice.instanceId same
        exact Option.some.inj (ids.symm.trans named)
      have current_nonempty : current.instanceId ≠ [] := current_named ▸ nonempty
      rw [code]
      change Except.ok (if current.instanceId ≠ [] then [] ++ [current.device] else []) = Except.ok [_]
      rw [if_pos current_nonempty, ← same]
      rfl

end Devices

/-- The problem code has no more digits than `int` takes. -/
def Fits (device : WindowsDevice) : Prop := ∀ code ∈ device.problemCode, (decimal code.toNat).length ≤ 4300

section Listings

variable [Interpreter] {toUpper : Str → Str} {device : WindowsDevice} {devices : List WindowsDevice}
  {lines noisy : List Str} {blocks : List (List Str)} {newline : Str}

theorem digitsOf_decimal (n : ℕ) : digitsOf (decimal n) = (decimal n).map fun c => c.toNat - 48 := by
  have one : ∀ c ∈ decimal n, takeDecimal [c] = [c.toNat - 48] := by
    intro c member
    have digit : ∀ d ∈ [c], isDecimalDigit d = true := by
      simpa using isDecimalDigit_decimal n c member
    exact takeDecimal_append digit rfl
  rw [digitsOf, List.flatMap_congr one]
  exact List.map_eq_flatMap.symm

theorem readCode_eq_iff (natural : ∀ code ∈ device.problemCode, 0 ≤ code) :
    readCode device.problemCode = .ok device.problemCode ↔ Fits device := by
  unfold Fits
  cases found : device.problemCode with
  | none => exact iff_of_true rfl fun code absent => nomatch absent
  | some code =>
      rw [found] at natural
      have positive := natural code rfl
      have length : (digitsOf (decimal code.toNat)).length = (decimal code.toNat).length := by
        rw [digitsOf_decimal, List.length_map]
      constructor
      · intro result code' present
        rw [← Option.some.inj present, ← length]
        exact problemCode_returns_iff.mp ⟨_, result⟩
      · intro fits
        have read := intOfDecimal_decimal (fits code rfl) false
        have digits : digitsOf (decimal code.toNat) ≠ [] := by
          rw [digitsOf_decimal, ne_eq, List.map_eq_nil_iff]
          exact Nat.toDigits_ne_nil
        rw [readCode, problemCode, if_neg digits, digitsOf_decimal, read, if_neg Bool.false_ne_true,
          Int.toNat_of_nonneg positive]
        rfl

theorem parseLines_eq_singleton_iff (printable : Printable toUpper device) (prints : Prints device lines) :
    parseLines toUpper lines = .ok [device] ↔ Fits device := by
  rw [parseLines_prints printable prints, map_ok_iff, ← readCode_eq_iff printable.problemCode]
  constructor
  · rintro ⟨code, result, same⟩
    have codes := congrArg WindowsDevice.problemCode (List.singleton_inj.mp same)
    rwa [← codes] at result ⊢
  · intro result
    exact ⟨device.problemCode, result, rfl⟩

/-- One problem code that is refused takes all devices away. -/
theorem parseLines_eq_iff (printable : ∀ device ∈ devices, Printable toUpper device)
    (prints : List.Forall₂ Prints devices blocks) :
    parseLines toUpper (List.intercalate [[]] blocks) = .ok devices ↔ ∀ device ∈ devices, Fits device := by
  induction prints with
  | nil => exact iff_of_true rfl fun device member => absurd member List.not_mem_nil
  | @cons device block devices blocks here later ih =>
      rw [List.forall_mem_cons] at printable ⊢
      rw [← ih printable.2, ← parseLines_eq_singleton_iff printable.1 here]
      cases later with
      | nil =>
          rw [List.intercalate_singleton]
          exact ⟨fun result => ⟨result, rfl⟩, fun results => results.1⟩
      | @cons next nextBlock devices blocks _ _ =>
          have blank : [[]] = List.replicate (0 + 1) ([] : Str) := rfl
          rw [List.intercalate_cons_cons]
          nth_rewrite 1 [blank]
          rw [parseLines_append_blank]
          constructor
          · intro result
            obtain ⟨first, parsed, result⟩ := bind_ok result
            obtain ⟨more, parsed', result⟩ := bind_ok result
            obtain ⟨code, _, rfl⟩ := map_ok_iff.mp ((parseLines_prints printable.1 here).symm.trans parsed)
            obtain ⟨same, rfl⟩ := List.cons.inj (Except.ok.inj result)
            rw [same] at parsed
            exact ⟨parsed, parsed'⟩
          · rintro ⟨parsed, parsed'⟩
            rw [parsed, parsed']
            rfl

omit [Interpreter] in
theorem oneLine_prints (printable : Printable toUpper device) (prints : Prints device lines) :
    ∀ line ∈ lines, OneLine line := by
  obtain ⟨id, opening, fields, rest, named, opens, perm, printed, rfl⟩ := prints
  obtain ⟨id', named', _, isValue⟩ := printable.instanceId
  obtain rfl : id = id' := Option.some.inj (named.symm.trans named')
  refine List.forall_mem_cons.mpr ⟨oneLine_fieldLine isName_instance isValue opens, fun line member => ?_⟩
  obtain ⟨field, inFields, line_printed⟩ := exists_of_mem_right printed member
  have value := isValue_printed printable (mem_presentFields.mp (perm.mem_iff.mp inFields))
  exact oneLine_fieldLine (isName_name field.1) value line_printed

omit [Interpreter] in
theorem oneLine_renders (printable : ∀ device ∈ devices, Printable toUpper device) (renders : Renders devices lines) :
    ∀ line ∈ lines, OneLine line := by
  obtain ⟨blocks, prints, rfl⟩ := renders
  refine forall_mem_intercalate (by decide) fun block member => ?_
  obtain ⟨device, inDevices, block_printed⟩ := exists_of_mem_right prints member
  exact oneLine_prints (printable device inDevices) block_printed

/-- Printed devices are parsed back, with and without other lines between theirs, exactly when `int` takes
every problem code. -/
theorem parse_renders_iff (printable : ∀ device ∈ devices, Printable toUpper device) (renders : Renders devices lines)
    (inserted : Noisy lines noisy) (ends : IsNewline newline) :
    (parsePnputilOutput toUpper (endLines newline lines) = .ok devices ∧
      parsePnputilOutput toUpper (endLines newline noisy) = parsePnputilOutput toUpper (endLines newline lines)) ↔
        ∀ device ∈ devices, ∀ code ∈ device.problemCode, (decimal code.toNat).length ≤ 4300 := by
  have kept := oneLine_renders printable renders
  have parsed : parsePnputilOutput toUpper (endLines newline lines) = parseLines toUpper lines := by
    rw [parsePnputilOutput, splitlines_endLines ends kept]
  have parsedNoisy : parsePnputilOutput toUpper (endLines newline noisy) = parseLines toUpper lines := by
    rw [parsePnputilOutput, splitlines_endLines ends (oneLine_noisy inserted kept), parseLines_noisy inserted]
  obtain ⟨blocks, prints, rfl⟩ := renders
  rw [parsed, parsedNoisy, and_iff_left rfl]
  exact parseLines_eq_iff printable prints

end Listings

/-- A dongle that Windows reports with the problem code. -/
def brokenDevice (code : ℕ) : WindowsDevice where
  instanceId := some "USB\\VID_0BDA&PID_8811\\1"
  description := some "802.11ac NIC: \t USB"
  hardwareIds := ["USB\\VID_0BDA&PID_8811", "USB\\VID_0BDA&PID_C811"]
  compatibleIds := []
  problemCode := some code
  status := none

def brokenFields (code : ℕ) : List (Field × Str) :=
  [(.problemCode, decimal code), (.description, "802.11ac NIC: \t USB"),
    (.hardwareIds, "USB\\VID_0BDA&PID_8811 USB\\VID_0BDA&PID_C811")]

def brokenLines (code : ℕ) : List Str :=
  fieldLine 2 "Instance ID" "USB\\VID_0BDA&PID_8811\\1" ::
    (brokenFields code).map fun field => fieldLine 1 field.1.name field.2

theorem printable_brokenDevice (code : ℕ) : Printable upper (brokenDevice code) where
  instanceId := ⟨_, rfl, by decide, by decide, by decide⟩
  description text found := by
    rw [← Option.some.inj found]
    exact ⟨by decide, by decide⟩
  status _ absent := nomatch absent
  hardwareIds := by
    refine List.forall_mem_cons.mpr ⟨⟨by decide, by decide, by decide⟩, ?_⟩
    exact List.forall_mem_singleton.mpr ⟨by decide, by decide, by decide⟩
  compatibleIds _ absent := nomatch absent
  problemCode number found := by
    rw [← Option.some.inj found]
    exact Int.natCast_nonneg code

theorem prints_brokenLines (code : ℕ) : Prints (brokenDevice code) (brokenLines code) := by
  have perm : (brokenFields code).Perm (presentFields (brokenDevice code)) := List.Perm.swap _ _ _
  refine ⟨_, _, brokenFields code, _, rfl, ⟨2, rfl⟩, perm, ?_, rfl⟩
  rw [List.forall₂_map_right_iff]
  exact List.forall₂_same.mpr fun field _ => ⟨1, rfl⟩

def nextLines : List Str := [fieldLine 2 "Instance ID" "USB\\VID_148F&PID_7601\\2", fieldLine 2 "Status" "OK"]

theorem printable_nextDevice : Printable upper nextDevice where
  instanceId := ⟨_, rfl, by decide, by decide, by decide⟩
  description _ absent := nomatch absent
  status text found := by
    rw [← Option.some.inj found]
    exact ⟨by decide, by decide⟩
  hardwareIds _ absent := nomatch absent
  compatibleIds _ absent := nomatch absent
  problemCode _ absent := nomatch absent

theorem prints_nextLines : Prints nextDevice nextLines := by
  have perm : [(Field.status, ("OK" : Str))].Perm (presentFields nextDevice) := List.Perm.refl _
  exact ⟨_, _, _, _, rfl, ⟨2, rfl⟩, perm, .cons ⟨2, rfl⟩ .nil, rfl⟩

def classLine : Str := "Class Name:\t\t\t Net"

theorem isNoise_classLine : IsNoise classLine := by
  have found : matchField classLine = some (("Class Name" : Str), (" Net" : Str)) := by decide
  refine ⟨by decide, by decide, fun key value matched => ?_⟩
  rw [found, Option.some.injEq, Prod.mk.injEq] at matched
  obtain ⟨rfl, rfl⟩ := matched
  refine ⟨by decide, fun field => ?_⟩
  cases field
  all_goals decide

/-- Two devices, and the lines that `pnputil` adds. -/
theorem parse_renders_listing :
    @parsePnputilOutput asciiInterpreter upper (endLines "\r\n" (brokenLines 28 ++ [[]] ++ nextLines)) =
        .ok [brokenDevice 28, nextDevice] ∧
      @parsePnputilOutput asciiInterpreter upper
          (endLines "\r\n" (brokenLines 28 ++ [classLine] ++ [[]] ++ [classLine] ++ nextLines)) =
        @parsePnputilOutput asciiInterpreter upper (endLines "\r\n" (brokenLines 28 ++ [[]] ++ nextLines)) := by
  let _ : Interpreter := asciiInterpreter
  have printable : ∀ device ∈ [brokenDevice 28, nextDevice], Printable upper device :=
    List.forall_mem_cons.mpr ⟨printable_brokenDevice 28, List.forall_mem_singleton.mpr printable_nextDevice⟩
  have renders : Renders [brokenDevice 28, nextDevice] (brokenLines 28 ++ [[]] ++ nextLines) :=
    ⟨_, .cons (prints_brokenLines 28) (.cons prints_nextLines .nil), rfl⟩
  have inserted : Noisy (brokenLines 28 ++ [[]] ++ nextLines)
      (brokenLines 28 ++ [classLine] ++ [[]] ++ [classLine] ++ nextLines) :=
    .line (.line (.line (.line (.noise isNoise_classLine (.line (.noise isNoise_classLine (.line (.line .nil))))))))
  refine (parse_renders_iff printable renders inserted (.inr rfl)).mpr ?_
  decide +kernel

/-- A code of more than 4300 digits does not come back. -/
theorem long_code_is_lost [Interpreter] {code : ℕ} (long : 4300 < (decimal code).length) :
    Printable upper (brokenDevice code) ∧ Renders [brokenDevice code] (brokenLines code) ∧
      parsePnputilOutput upper (endLines "\n" (brokenLines code)) ≠ .ok [brokenDevice code] := by
  have printable := printable_brokenDevice code
  have prints := prints_brokenLines code
  have kept := oneLine_prints printable prints
  refine ⟨printable, ⟨_, .cons prints .nil, List.intercalate_singleton.symm⟩, ?_⟩
  rw [parsePnputilOutput, splitlines_endLines (.inl rfl) kept, ne_eq, parseLines_eq_singleton_iff printable prints]
  exact fun fits => absurd (fits code rfl) (not_le_of_gt long)

/-- A one and zeros. -/
def roundCode (zeros : ℕ) : ℕ := Nat.pow 10 zeros

theorem length_roundCode {zeros : ℕ} (long : 4300 ≤ zeros) : 4300 < (decimal (roundCode zeros)).length :=
  long.trans_lt (lt_length_decimal_pow (by omega))

theorem refused_code_is_lost : Printable upper (brokenDevice (roundCode 4300)) ∧
    Renders [brokenDevice (roundCode 4300)] (brokenLines (roundCode 4300)) ∧
    @parsePnputilOutput asciiInterpreter upper (endLines "\n" (brokenLines (roundCode 4300))) ≠
      .ok [brokenDevice (roundCode 4300)] :=
  @long_code_is_lost asciiInterpreter (roundCode 4300) (length_roundCode le_rfl)

end DongleRescue.Windows
