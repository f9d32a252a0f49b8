import DongleRescue.Linux.Rows
import DongleRescue.Repair.Planner
import DongleRescue.Usb.Modalias

namespace DongleRescue.Repair

open DongleRescue.Data DongleRescue.Linux DongleRescue.Usb

/-! Which modaliases of a device the persisted alias row claims. -/

def aliasPattern (vid pid : Str) : Str :=
  "usb:v" ++ upper vid ++ 'p' :: upper pid ++ "d*dc*dsc*dp*icFFiscFFip00in*"

def aliasFields (vid pid : Str) : List (Str × Str) :=
  [("v", upper vid), ("p", upper pid), ("d", "*"), ("dc", "*"), ("dsc", "*"), ("dp", "*"),
    ("ic", "FF"), ("isc", "FF"), ("ip", "00"), ("in", "*")]

def PinnedClass (bytes : InterfaceBytes) : Prop :=
  upper bytes.ic = "FF" ∧ upper bytes.isc = "FF" ∧ upper bytes.ip = "00"

/-- The row claims the device on its own and on every interface. -/
def ClaimsDevice (device : UsbDevice) (content module : Str) : Prop :=
  «match» (device.modalias.getD []) [.text content] = [module] ∧
    ∀ bytes, «match» (extendModalias device bytes) [.text content] = [module]

section Row

variable {vid pid module : Str}

private theorem isSpace_of_moduleChars (valid : isModuleName module = true) :
    ∀ c ∈ module, isSpace c = false := by
  have visible : ∀ c ∈ moduleChars, isSpace c = false := by decide
  exact fun c member => visible c (isModuleName_chars valid c member)

private theorem isSpace_of_hex {text : Str} (hex : IsHex4 text) :
    ∀ c ∈ upper text, isSpace c = false := by
  have visible : ∀ c ∈ hexDigits, isSpace c = false := by decide
  exact forall_of_isHex hex.upper.2 visible

theorem parseAliasLine_aliasLine (vidHex : IsHex4 vid) (pidHex : IsHex4 pid)
    (valid : isModuleName module = true) :
    parseAliasLine (aliasLine vid pid module) =
      some ⟨aliasPattern vid pid, module, aliasLine vid pid module⟩ := by
  have row : aliasLine vid pid module = Spacing.plain.row (aliasPattern vid pid) module := by
    unfold aliasLine aliasPattern
    simp [Spacing.row, Spacing.core, Spacing.plain]
  have visible : ∀ c ∈ aliasPattern vid pid, isSpace c = false := by
    unfold aliasPattern
    simp only [List.forall_mem_append, List.forall_mem_cons]
    exact ⟨⟨⟨by decide, isSpace_of_hex vidHex⟩, by decide, isSpace_of_hex pidHex⟩, by decide⟩
  rw [row]
  exact Spacing.plain.parse_row rfl ⟨List.cons_ne_nil _ _, visible⟩
    ⟨isModuleName_ne_nil valid, isSpace_of_moduleChars valid⟩

theorem parseBody_aliasPattern (vidHex : IsHex4 vid) (pidHex : IsHex4 pid) :
    parseBody ((aliasPattern vid pid).drop 4) = some (aliasFields (upper vid) (upper pid)) := by
  have body : (aliasPattern vid pid).drop 4 =
      "v".toList ++ (upper vid ++ ("p".toList ++ (upper pid ++
        "d*dc*dsc*dp*icFFiscFFip00in*".toList))) := by
    unfold aliasPattern
    simp
  have tail : parseFields (fieldSpecs.drop 2) "d*dc*dsc*dp*icFFiscFFip00in*" =
      some ((aliasFields (upper vid) (upper pid)).drop 2) := rfl
  have specs : fieldSpecs = ("v".toList, 4) :: ("p".toList, 4) :: fieldSpecs.drop 2 := rfl
  rw [body, parseBody, if_neg (by simp), specs,
    parseFields_value (by decide) (by decide) (by decide) (IsHexOf.upper vidHex),
    parseFields_value (by decide) (by decide) (by decide) (IsHexOf.upper pidHex), tail]
  rfl

end Row

section Claims

variable {device : UsbDevice} {level : Option InterfaceBytes} {module : Str}

private def rowFields (device : UsbDevice) : List (Str × Str) :=
  aliasFields (upper device.vid) (upper device.pid)

private theorem fieldAgrees_concrete {name value : Str} (concrete : value ≠ ['*'])
    (stated : fieldValue (rowFields device) name = some value) :
    fieldAgrees (rowFields device) (modaliasFields device level) name = true ↔
      fieldValue (modaliasFields device level) name = some value := by
  rw [fieldAgrees_iff]
  constructor
  · intro all
    exact all value stated concrete
  · intro known other same _
    rw [stated] at same
    rw [known, same]

/-- The ids agree and most fields are free, so the class of the interface decides. -/
private theorem entails_rowFields_iff :
    Facts.Entails (known (modaliasFields device level)) (asked (rowFields device)) ↔
      ∃ bytes, level = some bytes ∧ PinnedClass bytes := by
  have ff : ("FF" : Str) ≠ ['*'] := by decide
  have zero : ("00" : Str) ≠ ['*'] := by decide
  rw [entails_iff_fieldAgrees]
  constructor
  · intro all
    have ic := (fieldAgrees_concrete ff rfl).mp (all ("ic", 2) (by decide))
    have isc := (fieldAgrees_concrete ff rfl).mp (all ("isc", 2) (by decide))
    have ip := (fieldAgrees_concrete zero rfl).mp (all ("ip", 2) (by decide))
    cases level with
    | none =>
        have missing : fieldValue (modaliasFields device none) "ic" = none := rfl
        rw [missing] at ic
        cases ic
    | some bytes => exact ⟨bytes, rfl, Option.some.inj ic, Option.some.inj isc, Option.some.inj ip⟩
  · rintro ⟨bytes, same, ic, isc, ip⟩
    subst same
    have vid : fieldAgrees (rowFields device) (modaliasFields device (some bytes)) "v" = true :=
      fieldAgrees_iff.mpr fun _ stated _ => stated
    have pid : fieldAgrees (rowFields device) (modaliasFields device (some bytes)) "p" = true :=
      fieldAgrees_iff.mpr fun _ stated _ => stated
    rw [fieldSpecs]
    simp only [List.forall_mem_cons]
    exact ⟨vid, pid, rfl, rfl, rfl, rfl, (fieldAgrees_concrete ff rfl).mpr (congrArg some ic),
      (fieldAgrees_concrete ff rfl).mpr (congrArg some isc),
      (fieldAgrees_concrete zero rfl).mpr (congrArg some ip), rfl, List.forall_mem_nil _⟩

theorem patternMatches_aliasPattern_iff (classBytes : ClassBytes device) :
    patternMatches (aliasPattern device.vid device.pid) (upper (modaliasText device level)) = true ↔
      ∃ bytes, level = some bytes ∧ PinnedClass bytes := by
  have asks := parseBody_aliasPattern device.vidHex.1 device.pidHex.1
  have knows : parseBody ((upper (modaliasText device level)).drop 4) =
      some (modaliasFields device level) := parseBody_modaliasText classBytes
  rw [patternMatches_iff, ← entails_rowFields_iff]
  constructor
  · intro ⟨_, _, fields, values, sameFields, sameValues, entails⟩
    rw [asks] at sameFields
    rw [knows] at sameValues
    cases sameFields
    cases sameValues
    exact entails
  · intro entails
    exact ⟨rfl, Nat.le_add_left 5 _, _, _, asks, knows, entails⟩

/-- The row claims an interface of the pinned class, if its modalias is well formed,
and nothing else. -/
theorem match_aliasLine_iff (valid : isModuleName module = true) :
    («match» (modaliasText device level) [.text (aliasLine device.vid device.pid module)] =
        [module] ↔
      ClassBytes device ∧ ∃ bytes, level = some bytes ∧ PinnedClass bytes) := by
  have row := parseAliasLine_aliasLine device.vidHex.1 device.pidHex.1 valid
  have rows : asRows [.text (aliasLine device.vid device.pid module)] =
      [⟨aliasPattern device.vid device.pid, module, aliasLine device.vid device.pid module⟩] := by
    simp [asRows, parseAliasLines, row]
  rw [«match»]
  by_cases classBytes : ClassBytes device
  · rw [matchWithLines_modaliasText classBytes, rows, ← patternMatches_aliasPattern_iff classBytes]
    cases claims : patternMatches (aliasPattern device.vid device.pid)
        (upper (modaliasText device level)) with
    | false => simp [claims]
    | true => simp [claims, classBytes]
  · rw [matchWithLines_modaliasText_of_not classBytes]
    simp [classBytes]

end Claims

section Plans

theorem newIdCommand_injective {vid pid first second : Str}
    (same : newIdCommand vid pid first = newIdCommand vid pid second) : first = second := by
  unfold newIdCommand newIdPath at same
  exact List.append_cancel_left (List.append_cancel_right (List.append_cancel_left same))

variable [Interpreter] {host : Host} {root content module : Str} {devices : List UsbDevice}
  {device : UsbDevice} {kb : Kb} {boundDriver loadedModule : Option Str} {plan : Plan}

/-- No feasible plan persists a row that claims its device: the device's own
modalias is never claimed, and of its interfaces those of the pinned class only. -/
theorem persisted_row_never_claims (listed : enumerateUsbDevices host root = .ok devices)
    (member : device ∈ devices)
    (planned : planStateB device kb boundDriver loadedModule = .ok plan)
    (feasible : plan.feasible = true)
    (binds : plan.commands.head? = some (newIdCommand device.vid device.pid module))
    (persists : plan.persistenceContent = some content) :
    ¬ ClaimsDevice device content module ∧
      ∀ bytes, «match» (extendModalias device bytes) [.text content] = [module] ↔
        ClassBytes device ∧ PinnedClass bytes := by
  have enumerated := enumerateUsbDevices_enumerated listed member
  obtain ⟨entry, chosen, chipset, confidence, _, _, _, valid, same⟩ :=
    planStateB_feasible planned feasible
  subst plan
  have sameModule : chosen = module := newIdCommand_injective (Option.some.inj binds)
  have sameContent := Option.some.inj persists
  subst sameModule sameContent
  constructor
  · intro claims
    have own := claims.1
    rw [enumerated.modalias_eq, match_aliasLine_iff valid] at own
    obtain ⟨_, bytes, noInterface, _⟩ := own
    cases noInterface
  · intro bytes
    rw [enumerated.extendModalias_eq, match_aliasLine_iff valid]
    constructor
    · intro ⟨classBytes, other, same, pinned⟩
      cases same
      exact ⟨classBytes, pinned⟩
    · intro ⟨classBytes, pinned⟩
      exact ⟨classBytes, bytes, rfl, pinned⟩

omit [Interpreter] in
theorem persisted_row_never_claims_golden :
    ¬ ClaimsDevice goldenDevice (aliasLine "0bda" "8811" "rtw_8821cu") "rtw_8821cu" := by
  have planned : @planStateB asciiInterpreter goldenDevice goldenKb none none =
      .ok (@goldenPlan asciiInterpreter "rtw_8821cu") :=
    @planStateB_golden asciiInterpreter _ _ _ rfl (by decide)
  exact (@persisted_row_never_claims asciiInterpreter _ _ _ _ _ _ _ _ _ _
    enumerateUsbDevices_golden (List.mem_singleton_self _) planned rfl rfl rfl).1

/-- An adapter whose interfaces are of the class ff/ff/ff, with its packaged entry. -/
def mt7921auDevice : UsbDevice where
  sysfsPath := "/sys/bus/usb/devices/1-2"
  vid := "0e8d"
  pid := "7961"
  bcdDevice := "0200"
  deviceClass := 0
  deviceSubclass := 0
  deviceProtocol := 0
  manufacturer := none
  product := none
  serial := none
  modalias := some "usb:v0E8Dp7961d0200dc00dsc00dp00"
  vidHex := by decide
  pidHex := by decide
  bcdHex := goldenDevice.bcdHex

def mt7921au : KbEntry where
  chipset := some "MT7921AU"
  family := some "mediatek-wifi"
  modules := some ["mt7921u"]
  firmware := ["mediatek/WIFI_MT7961_patch_mcu_1_2_hdr.bin", "mediatek/WIFI_RAM_CODE_MT7961_1.bin"]
  fwPackageDebian := [.str "firmware-mediatek", .str "linux-firmware"]
  newIdFeasible := some true
  newIdModules := ["mt7921u"]
  confidence := some "CONFIRMED"
  usbIds := ["0846:9060", "0846:9065", "0e8d:7961", "3574:6211", "35bc:0107"]
  evidence := [
    ⟨some "modinfo -k 6.17.0-1020-oracle mt7921u",
      some "WIFI_MT7961_* firmwares; icFFiscFFipFF aliases"⟩,
    ⟨some "/tmp/dynid/mt7921u.c", some "no no_dynamic_id"⟩,
    ⟨some "docs/research/mediatek-atheros.md §3 (mt7921u id table)",
      some ("usb_ids ['0846:9060', '0846:9065', '0e8d:7961', '3574:6211', '35bc:0107'] " ++
        "captured from primary-source table")⟩]

omit [Interpreter] in
/-- Its plan persists a row for the class ff/ff/00, which none of its modaliases has. -/
theorem mt7921au_row_claims_nothing :
    @enumerateUsbDevices asciiInterpreter (pluggedHost "0E8D" "7961") usbDevicesRoot =
        .ok [mt7921auDevice] ∧
      ∃ plan, @planStateB asciiInterpreter mt7921auDevice ⟨[mt7921au]⟩ none none = .ok plan ∧
        plan.feasible = true ∧
        plan.commands.head? = some (newIdCommand "0e8d" "7961" "mt7921u") ∧
        plan.persistenceContent = some (aliasLine "0e8d" "7961" "mt7921u") ∧
        «match» (mt7921auDevice.modalias.getD [])
          [.text (aliasLine "0e8d" "7961" "mt7921u")] = [] ∧
        «match» (extendModalias mt7921auDevice vendorBytes)
          [.text (aliasLine "0e8d" "7961" "mt7921u")] = [] ∧
        ¬ ClaimsDevice mt7921auDevice (aliasLine "0e8d" "7961" "mt7921u") "mt7921u" := by
  have own : «match» (mt7921auDevice.modalias.getD [])
      [.text (aliasLine "0e8d" "7961" "mt7921u")] = [] := by
    decide +kernel
  have interface : «match» (extendModalias mt7921auDevice vendorBytes)
      [.text (aliasLine "0e8d" "7961" "mt7921u")] = [] := by
    decide +kernel
  refine ⟨rfl, _, rfl, rfl, rfl, rfl, own, interface, ?_⟩
  intro claims
  rw [ClaimsDevice, own] at claims
  cases claims.1

end Plans

end DongleRescue.Repair
