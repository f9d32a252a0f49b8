import DongleRescue.Identification.Resolver
import DongleRescue.Linux.Globs
import DongleRescue.Usb.RoundTrip

namespace DongleRescue.Identification

open DongleRescue.Data DongleRescue.Linux DongleRescue.Usb

/-! What raises the confidence in a chipset: the rows of the kernel's table count, their
drivers do not. -/

/-- The resolution says more of the chipset than the knowledge base does. -/
def Raised (res : DiagnosisInput) : Prop :=
  res.chipsetId.confidence = .confirmed ∨
    ∃ cited ∈ res.chipsetId.evidence, cited.detail = "kernel alias confirms claim"

/-- A driver of the chipset, as the entry lists them. -/
def isOwnDriver (entry : KbEntry) (row : AliasLine) : Bool := (entry.modules.getD []).contains row.module

def isOwnLine (entry : KbEntry) (line : Str) : Bool := (parseAliasLine line).any (isOwnDriver entry)

section Rows

variable {device : UsbDevice} {entry : KbEntry} {aliasLines : List Str} {row : AliasLine} {line : Str}

theorem mem_deviceRows : row ∈ deviceRows device aliasLines ↔
    ∃ normalized, sanitizeModalias (device.modalias.getD []) = some normalized ∧
      patternMatches row.pattern normalized = true ∧ ∃ line ∈ aliasLines, parseAliasLine line = some row := by
  have listed : row ∈ asRows (aliasLines.map .text) ↔ ∃ line ∈ aliasLines, parseAliasLine line = some row := by
    simp [asRows, parseAliasLines]
  unfold deviceRows matchWithLines
  cases sanitizeModalias (device.modalias.getD []) with
  | none => simp
  | some normalized => simp [List.mem_filter, listed, and_comm]

/-- The lines of other drivers hold the rows of other drivers. -/
theorem mem_deviceRows_own : row ∈ deviceRows device (aliasLines.filter (isOwnLine entry)) ↔
    row ∈ deviceRows device aliasLines ∧ isOwnDriver entry row = true := by
  have filtered : (∃ line ∈ aliasLines.filter (isOwnLine entry), parseAliasLine line = some row) ↔
      (∃ line ∈ aliasLines, parseAliasLine line = some row) ∧ isOwnDriver entry row = true := by
    constructor
    · intro ⟨line, member, parsed⟩
      obtain ⟨inLines, own⟩ := List.mem_filter.mp member
      rw [isOwnLine, parsed] at own
      exact ⟨⟨line, inLines, parsed⟩, own⟩
    · intro ⟨⟨line, inLines, parsed⟩, own⟩
      exact ⟨line, List.mem_filter.mpr ⟨inLines, by rw [isOwnLine, parsed]; exact own⟩, parsed⟩
  rw [mem_deviceRows, mem_deviceRows, filtered]
  constructor
  · intro ⟨normalized, accepted, «matches», listed, own⟩
    exact ⟨⟨normalized, accepted, «matches», listed⟩, own⟩
  · intro ⟨⟨normalized, accepted, «matches», listed⟩, own⟩
    exact ⟨normalized, accepted, «matches», listed, own⟩

/-- A pattern that asks for nothing claims every enumerated device. -/
theorem mem_deviceRows_of_catchAll (enumerated : Enumerated device) (classBytes : ClassBytes device)
    (inLines : line ∈ aliasLines) (parsed : parseAliasLine line = some row) (catchAll : row.pattern = "usb:*") :
    row ∈ deviceRows device aliasLines := by
  let values := DescriptorValues.ofDevice device classBytes
  have built : device.modalias = some values.modalias := enumerated
  have accepted : sanitizeModalias (device.modalias.getD []) = some (upper values.modalias) := by
    rw [built]
    exact DescriptorValues.sanitizeModalias_modalias
  refine mem_deviceRows.mpr ⟨_, accepted, ?_, line, inLines, parsed⟩
  rw [catchAll, patternMatches, DescriptorValues.parseBody_modalias]
  rfl

end Rows

section Confirmation

variable [Interpreter] {device : UsbDevice} {aliasLines : List Str} {kb : Kb} {entry : KbEntry}
  {rows rows' : List AliasLine} {res res' : DiagnosisInput}

theorem resolveDevice_entry (found : kbEntry kb device.vid device.pid = some entry) (lines : List Str) :
    resolveDevice device lines kb = resolveWithEntry device (deviceRows device lines) entry := by
  rw [resolveDevice, found]
  rfl

theorem level_ne_confirmed (unconfirmed : entry.confidence ≠ some "CONFIRMED") {confidence : Confidence}
    (level : entry.level "HIGH_CONFIDENCE" = .ok confidence) : confidence ≠ .confirmed := by
  intro same
  rw [same, KbEntry.level, Confidence.ofValue] at level
  cases found : Confidence.all.find? fun level => level.value = entry.confidence.getD "HIGH_CONFIDENCE" with
  | none =>
      rw [found] at level
      cases level
  | some confidence =>
      rw [found] at level
      cases level
      have stated := List.find?_some found
      simp only [decide_eq_true_eq] at stated
      cases text : entry.confidence with
      | none =>
          rw [text] at stated
          have apart : Confidence.confirmed.value ≠ ("HIGH_CONFIDENCE" : Str) := by decide
          exact absurd stated apart
      | some text' =>
          rw [text] at stated
          exact unconfirmed (text.trans (congrArg some stated.symm))

/-- Any row at all raises the confidence. -/
theorem raised_iff (unconfirmed : entry.confidence ≠ some "CONFIRMED")
    (resolved : resolveWithEntry device rows entry = .ok res) : Raised res ↔ rows ≠ [] := by
  obtain ⟨chipset, confidence, _, level, same⟩ := resolveWithEntry_chipsetId resolved
  rw [Raised, same]
  rw [entryConfidence] at level
  by_cases noRows : rows = []
  · rw [if_pos noRows] at level
    have known : "VID:PID " ++ device.vid ++ ":" ++ device.pid ++ " -> " ++ chipset ≠
        ("kernel alias confirms claim" : Str) := by
      intro equal
      have first : some 'V' = some 'k' := congrArg List.head? equal
      cases first
    refine iff_of_false ?_ (not_not.mpr noRows)
    rintro (confirmed | ⟨cited, member, detail⟩)
    · exact level_ne_confirmed unconfirmed level confirmed
    · simp only [if_pos noRows, List.mem_singleton] at member
      rw [member] at detail
      exact known detail
  · rw [if_neg noRows] at level
    exact iff_of_true (.inl (Except.ok.inj level).symm) noRows

/-- One driver that claims everything raises the confidence in every chipset. -/
theorem raised_of_catchAll (resolved : resolveDevice device aliasLines kb = .ok res)
    (found : kbEntry kb device.vid device.pid = some entry) (unconfirmed : entry.confidence ≠ some "CONFIRMED")
    (enumerated : Enumerated device) (classBytes : ClassBytes device) {line : Str} {row : AliasLine}
    (inLines : line ∈ aliasLines) (parsed : parseAliasLine line = some row)
    (catchAll : row.pattern = "usb:*") : Raised res := by
  rw [resolveDevice_entry found] at resolved
  have claimed := mem_deviceRows_of_catchAll enumerated classBytes inLines parsed catchAll
  exact (raised_iff unconfirmed resolved).mpr (List.ne_nil_of_mem claimed)

theorem chipsetId_eq_of_rows (resolved : resolveWithEntry device rows entry = .ok res)
    (resolved' : resolveWithEntry device rows' entry = .ok res') (alike : rows = [] ↔ rows' = []) :
    res'.chipsetId = res.chipsetId := by
  obtain ⟨chipset, confidence, named, level, same⟩ := resolveWithEntry_chipsetId resolved
  obtain ⟨chipset', confidence', named', level', same'⟩ := resolveWithEntry_chipsetId resolved'
  rw [named] at named'
  rw [entryConfidence] at level level'
  simp only [alike] at level same
  rw [level] at level'
  cases named'
  cases level'
  rw [same, same']

/-- A raised confidence rests on a row of a driver of the chipset, and the rows of the other
drivers change nothing, exactly when there are no rows at all or one of a driver of the
chipset is among them. -/
theorem raised_by_own_driver_iff (resolved : resolveDevice device aliasLines kb = .ok res)
    (found : kbEntry kb device.vid device.pid = some entry)
    (unconfirmed : entry.confidence ≠ some "CONFIRMED") :
    ((Raised res → ∃ row ∈ deviceRows device aliasLines, isOwnDriver entry row = true) ∧
      ∀ res', resolveDevice device (aliasLines.filter (isOwnLine entry)) kb = .ok res' →
        res'.chipsetId = res.chipsetId) ↔
      deviceRows device aliasLines = [] ∨
        ∃ row ∈ deviceRows device aliasLines, isOwnDriver entry row = true := by
  rw [resolveDevice_entry found] at resolved
  rw [resolveDevice_entry found, raised_iff unconfirmed resolved]
  constructor
  · intro ⟨own, _⟩
    exact Classical.or_iff_not_imp_left.mpr own
  · intro supported
    refine ⟨fun claimed => supported.resolve_left claimed, fun res' resolved' => ?_⟩
    refine chipsetId_eq_of_rows resolved resolved' ⟨fun noRows => ?_, fun noOwn => ?_⟩
    · rw [List.eq_nil_iff_forall_not_mem] at noRows ⊢
      exact fun row member => noRows row (mem_deviceRows_own.mp member).1
    · refine supported.resolve_right fun ⟨row, member, own⟩ => ?_
      exact List.ne_nil_of_mem (mem_deviceRows_own.mpr ⟨member, own⟩) noOwn

end Confirmation

def rtl8811cuEntry : KbEntry where
  chipset := some "RTL8811CU"
  family := some "realtek-wifi"
  modules := some ["rtl8xxxu", "rtw88_8821cu"]
  confidence := some "HIGH_CONFIDENCE"
  usbIds := ["0bda:8811"]

theorem raised_by_own_driver_listed :
    ∃ res, @resolveDevice asciiInterpreter goldenDevice ["alias usb:v0BDAp8811d* rtw88_8821cu"]
        ⟨[rtl8811cuEntry]⟩ = .ok res ∧
      (Raised res → ∃ row ∈ deviceRows goldenDevice ["alias usb:v0BDAp8811d* rtw88_8821cu"],
        isOwnDriver rtl8811cuEntry row = true) := by
  let _ : Interpreter := asciiInterpreter
  have resolved : resolveDevice goldenDevice ["alias usb:v0BDAp8811d* rtw88_8821cu"] ⟨[rtl8811cuEntry]⟩ =
      .ok _ := rfl
  have own : ∃ row ∈ deviceRows goldenDevice ["alias usb:v0BDAp8811d* rtw88_8821cu"],
      isOwnDriver rtl8811cuEntry row = true := by decide +kernel
  exact ⟨_, resolved, ((raised_by_own_driver_iff resolved rfl (by decide)).mpr (.inr own)).1⟩

/-- A driver that claims everything confirms a chipset it has nothing to do with. -/
theorem raised_by_catchAll :
    ∃ res, @resolveDevice asciiInterpreter goldenDevice ["alias usb:* ../../../evil"] ⟨[rtl8811cuEntry]⟩ =
        .ok res ∧
      kbEntry ⟨[rtl8811cuEntry]⟩ goldenDevice.vid goldenDevice.pid = some rtl8811cuEntry ∧
      rtl8811cuEntry.confidence ≠ some "CONFIRMED" ∧ Raised res ∧
      ¬ ∃ row ∈ deviceRows goldenDevice ["alias usb:* ../../../evil"], isOwnDriver rtl8811cuEntry row = true := by
  let _ : Interpreter := asciiInterpreter
  have resolved : resolveDevice goldenDevice ["alias usb:* ../../../evil"] ⟨[rtl8811cuEntry]⟩ = .ok _ := rfl
  exact ⟨_, resolved, rfl, by decide, .inl rfl, by decide +kernel⟩

end DongleRescue.Identification
