import DongleRescue.Data.Lines
import DongleRescue.Data.Numerals
import DongleRescue.Windows.EnumPs

namespace DongleRescue.Windows

open DongleRescue.Data

/-! The listing that `pnputil` prints for devices, and what the parser makes of one line of it. -/

/-- The fields beside the instance id. -/
inductive Field where
  | description
  | status
  | problemCode
  | hardwareIds
  | compatibleIds

def Field.all : List Field := [.description, .status, .problemCode, .hardwareIds, .compatibleIds]

def Field.name : Field → Str
  | .description => "Device Description"
  | .status => "Status"
  | .problemCode => "Problem Code"
  | .hardwareIds => "Hardware IDs"
  | .compatibleIds => "Compatible IDs"

def printedIds : List Str → Option Str
  | [] => none
  | id :: ids => some (join [' '] (id :: ids))

/-- What is printed for a field, where the device has it. -/
def printed (device : WindowsDevice) : Field → Option Str
  | .description => device.description
  | .status => device.status
  | .problemCode => device.problemCode.map fun code => decimal code.toNat
  | .hardwareIds => printedIds device.hardwareIds
  | .compatibleIds => printedIds device.compatibleIds

def presentFields (device : WindowsDevice) : List (Field × Str) :=
  Field.all.filterMap fun field => (printed device field).map (field, ·)

def fieldLine (tabs : ℕ) (name value : Str) : Str :=
  name ++ ':' :: (List.replicate (tabs + 1) '\t' ++ ' ' :: value)

def FieldLine (name value line : Str) : Prop := ∃ tabs, line = fieldLine tabs name value

/-- The instance id comes first, and the other fields in any order. -/
def Prints (device : WindowsDevice) (lines : List Str) : Prop :=
  ∃ id opening fields rest, device.instanceId = some id ∧ FieldLine "Instance ID" id opening ∧
    fields.Perm (presentFields device) ∧
    List.Forall₂ (fun field line => FieldLine field.1.name field.2 line) fields rest ∧ lines = opening :: rest

/-- The devices with a blank line between them. -/
def Renders (devices : List WindowsDevice) (lines : List Str) : Prop :=
  ∃ blocks, List.Forall₂ Prints devices blocks ∧ lines = List.intercalate [[]] blocks

/-- A line that holds something and is none of the fields. -/
structure IsNoise (line : Str) : Prop where
  oneLine : OneLine line
  solid : strip line ≠ []
  unknown : ∀ key value, matchField line = some (key, value) →
    strip key ≠ "Instance ID" ∧ ∀ field : Field, strip key ≠ field.name

inductive Noisy : List Str → List Str → Prop where
  | nil : Noisy [] []
  | line {line lines noisy} : Noisy lines noisy → Noisy (line :: lines) (line :: noisy)
  | noise {noise lines noisy} : IsNoise noise → Noisy lines noisy → Noisy lines (noise :: noisy)

structure IsValue (text : Str) : Prop where
  trimmed : strip text = text
  oneLine : OneLine text

structure IsId (toUpper : Str → Str) (id : Str) : Prop where
  nonempty : id ≠ []
  solid : ∀ c ∈ id, isSpace c = false
  uppercase : toUpper id = id

structure Printable (toUpper : Str → Str) (device : WindowsDevice) : Prop where
  instanceId : ∃ id, device.instanceId = some id ∧ id ≠ [] ∧ IsValue id
  description : ∀ text ∈ device.description, IsValue text
  status : ∀ text ∈ device.status, IsValue text
  hardwareIds : ∀ id ∈ device.hardwareIds, IsId toUpper id
  compatibleIds : ∀ id ∈ device.compatibleIds, IsId toUpper id
  problemCode : ∀ code ∈ device.problemCode, 0 ≤ code

section Values

variable {toUpper : Str → Str} {text line name value : Str} {ids : List Str} {device : WindowsDevice} {field : Field}

theorem isValue_of_solid (solid : ∀ c ∈ text, isSpace c = false) : IsValue text :=
  ⟨stripWhile_of_none solid, oneLine_of_not_isSpace solid⟩

theorem isValue_decimal (n : ℕ) : IsValue (decimal n) := by
  have all : ∀ c ∈ ("0123456789" : Str), isSpace c = false := by decide
  exact isValue_of_solid fun c member => all c (List.contains_iff_mem.mp (isDecimalDigit_decimal n c member))

theorem join_cons_ne_nil {id : Str} (nonempty : id ≠ []) (ids : List Str) : join [' '] (id :: ids) ≠ [] := by
  cases ids with
  | nil => rwa [join_singleton]
  | cons next ids => simp [join_cons_cons]

theorem getLast?_join (whole : ∀ id ∈ ids, id ≠ [] ∧ ∀ c ∈ id, isSpace c = false) :
    ∀ c ∈ (join [' '] ids).getLast?, isSpace c = false := by
  induction ids with
  | nil =>
      intro c last
      cases last
  | cons id ids ih =>
      rw [List.forall_mem_cons] at whole
      cases ids with
      | nil =>
          rw [join_singleton]
          exact fun c last => whole.1.2 c (List.mem_of_mem_getLast? last)
      | cons next ids =>
          have later := whole.2 next (by simp)
          obtain ⟨last, found⟩ := Option.ne_none_iff_exists'.mp
            (mt List.getLast?_eq_none_iff.mp (join_cons_ne_nil later.1 ids))
          rw [join_cons_cons, List.getLast?_append, List.getLast?_append, found]
          rw [found] at ih
          exact ih whole.2

theorem isValue_join (whole : ∀ id ∈ ids, id ≠ [] ∧ ∀ c ∈ id, isSpace c = false) : IsValue (join [' '] ids) := by
  constructor
  · refine stripWhile_eq_self ?_ (getLast?_join whole)
    intro c first
    cases ids with
    | nil => cases first
    | cons id ids =>
        obtain ⟨⟨nonempty, solid⟩, _⟩ := List.forall_mem_cons.mp whole
        obtain ⟨d, more, rfl⟩ := List.exists_cons_of_ne_nil nonempty
        have same : (join [' '] ((d :: more) :: ids)).head? = some d := by
          cases ids with
          | nil => rw [join_singleton, List.head?_cons]
          | cons next ids => rw [join_cons_cons, List.cons_append, List.cons_append, List.head?_cons]
        rw [same] at first
        exact Option.some.inj first ▸ solid d (by simp)
  · have kept : ∀ id ∈ ids, OneLine id := fun id member => oneLine_of_not_isSpace (whole id member).2
    exact forall_mem_join (by decide) kept

theorem normHwids_join (whole : ∀ id ∈ ids, IsId toUpper id) (nonempty : ids ≠ []) :
    normHwids toUpper (join [' '] ids) = ids := by
  have trimmed : ∀ id ∈ ids, strip id = id := fun id member => stripWhile_of_none (whole id member).solid
  have plain : ∀ id ∈ ids, ' ' ∉ id := fun id member space => by
    have solid := (whole id member).solid ' ' space
    exact absurd solid (by decide)
  have split : (join [' '] ids).splitOn ' ' = ids := List.splitOn_intercalate ' ' plain nonempty
  have kept : ids.filter (fun part => decide (strip part ≠ [])) = ids := by
    rw [List.filter_eq_self]
    intro id member
    rw [trimmed id member]
    exact decide_eq_true (whole id member).nonempty
  rw [normHwids, split, kept, List.map_congr_left (g := id)]
  · exact List.map_id ids
  · intro id member
    rw [normHwid, trimmed id member, (whole id member).uppercase]
    rfl

theorem printedIds_cases (whole : ∀ id ∈ ids, IsId toUpper id) : ids = [] ∧ printedIds ids = none ∨
    ∃ value, printedIds ids = some value ∧ normHwids toUpper value = ids := by
  cases ids with
  | nil => exact .inl ⟨rfl, rfl⟩
  | cons id ids => exact .inr ⟨_, rfl, normHwids_join whole (List.cons_ne_nil id ids)⟩

theorem isValue_printedIds (whole : ∀ id ∈ ids, IsId toUpper id) (found : printedIds ids = some value) :
    IsValue value := by
  cases ids with
  | nil => cases found
  | cons id ids =>
      rw [← Option.some.inj found]
      exact isValue_join fun other member => ⟨(whole other member).nonempty, (whole other member).solid⟩

theorem isValue_printed (printable : Printable toUpper device) (found : printed device field = some value) :
    IsValue value := by
  cases field with
  | description => exact printable.description value found
  | status => exact printable.status value found
  | problemCode =>
      obtain ⟨code, _, rfl⟩ := Option.map_eq_some_iff.mp found
      exact isValue_decimal code.toNat
  | hardwareIds => exact isValue_printedIds printable.hardwareIds found
  | compatibleIds => exact isValue_printedIds printable.compatibleIds found

end Values

section Lines

variable {line name value : Str} {field : Field} {lines noisy : List Str} {current : Current} {state : Parsing}

theorem rstripNewlines_of_oneLine (oneLine : OneLine line) : rstripNewlines line = line := by
  refine List.rdropWhile_eq_self_iff.mpr fun nonempty => ?_
  have kept := oneLine _ (List.getLast_mem nonempty)
  have other : ∀ c, isLineBreak c = false → ¬ (c == '\r' || c == '\n') = true := by
    intro c notBreak found
    rw [Bool.or_eq_true, beq_iff_eq, beq_iff_eq] at found
    rcases found with rfl | rfl
    · cases notBreak
    · cases notBreak
  exact other _ kept

/-- A name that the pattern takes as the key of a field. -/
structure IsName (name : Str) : Prop where
  plain : ∀ c ∈ name, isFieldChar c = true
  letter : ∃ c ∈ name.head?, c.isAlpha = true
  trimmed : strip name = name

theorem isName_instance : IsName "Instance ID" := ⟨by decide, ⟨'I', rfl, rfl⟩, by decide⟩

theorem isName_name (field : Field) : IsName field.name := by
  cases field with
  | description => exact ⟨by decide, ⟨'D', rfl, rfl⟩, by decide⟩
  | status => exact ⟨by decide, ⟨'S', rfl, rfl⟩, by decide⟩
  | problemCode => exact ⟨by decide, ⟨'P', rfl, rfl⟩, by decide⟩
  | hardwareIds => exact ⟨by decide, ⟨'H', rfl, rfl⟩, by decide⟩
  | compatibleIds => exact ⟨by decide, ⟨'C', rfl, rfl⟩, by decide⟩

theorem isLineBreak_of_isFieldChar {c : Char} (plain : isFieldChar c = true) : isLineBreak c = false := by
  rcases Bool.or_eq_true_iff.mp plain with alphanumeric | space
  · by_contra ends
    have space := isSpace_of_isLineBreak (Bool.eq_true_of_not_eq_false ends)
    rw [isSpace_of_isAlphanum alphanumeric] at space
    cases space
  · rw [beq_iff_eq.mp space]
    rfl

theorem name_ne_instance (field : Field) : field.name ≠ "Instance ID" := by
  cases field
  all_goals decide

theorem oneLine_fieldLine (isName : IsName name) (isValue : IsValue value) (printed : FieldLine name value line) :
    OneLine line := by
  obtain ⟨tabs, rfl⟩ := printed
  have nameKept : OneLine name := fun c member => isLineBreak_of_isFieldChar (isName.plain c member)
  have tabsKept : OneLine (List.replicate (tabs + 1) '\t') := by
    intro c member
    rw [List.eq_of_mem_replicate member]
    rfl
  have valueKept : OneLine (' ' :: value) := List.forall_mem_cons.mpr ⟨rfl, isValue.oneLine⟩
  have restKept : OneLine (':' :: (List.replicate (tabs + 1) '\t' ++ ' ' :: value)) :=
    List.forall_mem_cons.mpr ⟨rfl, oneLine_append.mpr ⟨tabsKept, valueKept⟩⟩
  exact oneLine_append.mpr ⟨nameKept, restKept⟩

/-- The value starts after the tabs and the space. -/
theorem fieldOf_fieldLine (isName : IsName name) (isValue : IsValue value) (printed : FieldLine name value line) :
    fieldOf line = some (name, value) := by
  have oneLine := oneLine_fieldLine isName isValue printed
  obtain ⟨tabs, rfl⟩ := printed
  have tabbed : (List.replicate tabs '\t' ++ ' ' :: value).dropWhile (· == '\t') = ' ' :: value := by
    rw [List.dropWhile_append_of_pos]
    · rfl
    · intro c member
      rw [List.eq_of_mem_replicate member]
      rfl
  have found : matchField (fieldLine tabs name value) = some (name, ' ' :: value) :=
    matchField_eq_some_iff.mpr ⟨_, rfl, tabbed.symm, isName.plain, isName.letter⟩
  have trimmed : strip (' ' :: value) = value := isValue.trimmed
  rw [fieldOf, rstripNewlines_of_oneLine oneLine, found, Option.map_some]
  simp only [isName.trimmed, trimmed]

variable [Interpreter] {toUpper : Str → Str}

theorem assign_unknown (unknown : ∀ field : Field, name ≠ field.name) : current.assign toUpper name value = .ok current := by
  refine (if_neg (unknown .description)).trans ?_
  refine (if_neg (unknown .hardwareIds)).trans ?_
  refine (if_neg (unknown .compatibleIds)).trans ?_
  exact (if_neg (unknown .problemCode)).trans (if_neg (unknown .status))

omit [Interpreter] in
theorem IsNoise.unnamed (noise : IsNoise line) (field : fieldOf line = some (name, value)) :
    name ≠ "Instance ID" ∧ ∀ field : Field, name ≠ field.name := by
  obtain ⟨⟨key, rest⟩, found, split⟩ := Option.map_eq_some_iff.mp field
  obtain ⟨rfl, rfl⟩ := Prod.mk.inj split
  rw [rstripNewlines_of_oneLine noise.oneLine] at found
  exact noise.unknown key rest found

omit [Interpreter] in
theorem IsNoise.not_isBlank (noise : IsNoise line) : ¬ IsBlank line := by
  rw [IsBlank, rstripNewlines_of_oneLine noise.oneLine]
  exact noise.solid

theorem readLine_noise (noise : IsNoise line) : readLine toUpper state line = .ok state := by
  have reads : Reads toUpper state line (readLine toUpper state line) := readLine_reads
  generalize readLine toUpper state line = result at reads ⊢
  cases reads with
  | blank blank => exact absurd blank noise.not_isBlank
  | garbage solid garbage => rfl
  | opens field => exact absurd rfl (noise.unnamed field).1
  | closed field other closed => rfl
  | assigns field other opened =>
      rw [assign_unknown (noise.unnamed field).2]
      rcases state with ⟨devices, _⟩
      cases opened
      rfl

theorem foldlM_noisy (inserted : Noisy lines noisy) :
    noisy.foldlM (readLine toUpper) state = lines.foldlM (readLine toUpper) state := by
  induction inserted generalizing state with
  | nil => rfl
  | @line line lines noisy _ ih =>
      rw [List.foldlM_cons, List.foldlM_cons]
      exact congrArg (readLine toUpper state line >>= ·) (funext fun next => ih)
  | @noise noise lines noisy isNoise _ ih =>
      rw [List.foldlM_cons, readLine_noise isNoise]
      exact ih

theorem parseLines_noisy (inserted : Noisy lines noisy) : parseLines toUpper noisy = parseLines toUpper lines := by
  rw [parseLines, foldlM_noisy inserted, parseLines]

omit [Interpreter] in
theorem oneLine_noisy (inserted : Noisy lines noisy) (kept : ∀ line ∈ lines, OneLine line) :
    ∀ line ∈ noisy, OneLine line := by
  induction inserted with
  | nil => exact kept
  | line _ ih =>
      rw [List.forall_mem_cons] at kept ⊢
      exact ⟨kept.1, ih kept.2⟩
  | noise isNoise _ ih => exact List.forall_mem_cons.mpr ⟨isNoise.oneLine, ih kept⟩

end Lines

end DongleRescue.Windows
