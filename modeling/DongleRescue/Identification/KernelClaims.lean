import DongleRescue.Identification.Resolver
import DongleRescue.Usb.Modalias

namespace DongleRescue.Identification

open DongleRescue.Data DongleRescue.Linux DongleRescue.Usb

/-! What identification keeps of the rows that claim an interface: it matches the
device's own modalias only. -/

def interfaceRows (device : UsbDevice) (bytes : InterfaceBytes) (aliasLines : List Str) :
    List AliasLine :=
  matchWithLines (extendModalias device bytes) (aliasLines.map .text)

/-- Every module that claims the interface is a candidate from the kernel's table. -/
def ClaimsKept (device : UsbDevice) (bytes : InterfaceBytes) (aliasLines : List Str)
    (res : DiagnosisInput) : Prop :=
  ∀ module ∈ «match» (extendModalias device bytes) (aliasLines.map .text),
    ∃ candidate ∈ res.candidates, candidate.module = module ∧ candidate.source = "modules.alias"

def wildcardRow : Str := "alias usb:v0BDAp8811d*dc*dsc*dp*ic*isc*ip*in* rtw88_8821cu"

def vendorRow : Str := "alias usb:v0BDAp8811d*dc*dsc*dp*icFFiscFFipFFin* rtw88_8821cu"

private theorem interfaceFree_wildcard :
    InterfaceFree "usb:v0BDAp8811d*dc*dsc*dp*ic*isc*ip*in*" := by
  have stars : ∀ name ∈ interfaceNames,
      ((parseBody ("v0BDAp8811d*dc*dsc*dp*ic*isc*ip*in*" : Str)).bind fun fields =>
        (fieldValue fields name).filter fun value => value ≠ ['*']) = none := by
    decide +kernel
  intro fields parsed name member
  have body : parseBody ("v0BDAp8811d*dc*dsc*dp*ic*isc*ip*in*" : Str) = some fields := parsed
  have star := stars name.1 member
  rw [body, Option.bind_some] at star
  exact star

section Claims

variable [Interpreter] {host : Host} {root : Str} {devices : List UsbDevice} {device : UsbDevice}
  {bytes : InterfaceBytes} {aliasLines : List Str} {kb : Kb} {res : DiagnosisInput}

omit [Interpreter] in
theorem mem_deviceRows_iff (enumerated : Enumerated device) {row : AliasLine} :
    row ∈ deviceRows device aliasLines ↔
      row ∈ interfaceRows device bytes aliasLines ∧ InterfaceFree row.pattern := by
  unfold deviceRows interfaceRows
  rw [enumerated.modalias_eq, enumerated.extendModalias_eq]
  exact mem_device_matches_iff

theorem exists_alias_candidate_iff (resolved : resolveDevice device aliasLines kb = .ok res)
    {module : Str} :
    (∃ candidate ∈ res.candidates, candidate.module = module ∧ candidate.source = "modules.alias") ↔
      ∃ row ∈ deviceRows device aliasLines, row.module = module := by
  have candidates := (resolveDevice_resolved resolved).alias_candidates
  constructor
  · intro ⟨candidate, member, named, source⟩
    have fromTable : candidate ∈ (deviceRows device aliasLines).map (aliasCandidate device) := by
      rw [← candidates, List.mem_filter, decide_eq_true_eq]
      exact ⟨member, source⟩
    obtain ⟨row, inRows, same⟩ := List.mem_map.mp fromTable
    exact ⟨row, inRows, by rw [← named, ← same]; rfl⟩
  · intro ⟨row, inRows, named⟩
    have fromTable : aliasCandidate device row ∈
        (deviceRows device aliasLines).map (aliasCandidate device) := List.mem_map_of_mem inRows
    rw [← candidates, List.mem_filter] at fromTable
    exact ⟨aliasCandidate device row, fromTable.1, named, rfl⟩

/-- Identification keeps the claims on an interface exactly when each claiming
module also has a row that asks nothing of the interface. -/
theorem claimsKept_iff_interfaceFree (listed : enumerateUsbDevices host root = .ok devices)
    (member : device ∈ devices) (resolved : resolveDevice device aliasLines kb = .ok res) :
    ClaimsKept device bytes aliasLines res ↔
      ∀ row ∈ interfaceRows device bytes aliasLines,
        ∃ other ∈ interfaceRows device bytes aliasLines,
          other.module = row.module ∧ InterfaceFree other.pattern := by
  have enumerated := enumerateUsbDevices_enumerated listed member
  constructor
  · intro kept row claims
    have claimed := kept row.module (List.mem_map_of_mem claims)
    obtain ⟨other, found, named⟩ := (exists_alias_candidate_iff resolved).mp claimed
    obtain ⟨inRows, free⟩ := (mem_deviceRows_iff enumerated).mp found
    exact ⟨other, inRows, named, free⟩
  · intro covered module claimed
    obtain ⟨row, claims, named⟩ := List.mem_map.mp claimed
    obtain ⟨other, inRows, same, free⟩ := covered row claims
    exact (exists_alias_candidate_iff resolved).mpr
      ⟨other, (mem_deviceRows_iff enumerated).mpr ⟨inRows, free⟩, same.trans named⟩

omit [Interpreter] in
theorem claimsKept_iff_interfaceFree_wildcard :
    ∃ res, @resolveDevice asciiInterpreter goldenDevice [wildcardRow] ⟨[]⟩ = .ok res ∧
      ClaimsKept goldenDevice vendorBytes [wildcardRow] res := by
  have rows : interfaceRows goldenDevice vendorBytes [wildcardRow] =
      [⟨"usb:v0BDAp8811d*dc*dsc*dp*ic*isc*ip*in*", "rtw88_8821cu", wildcardRow⟩] := by
    decide +kernel
  obtain ⟨res, resolved⟩ := @resolveDevice_returns asciiInterpreter goldenDevice ⟨[]⟩
    (List.forall_mem_nil _) [wildcardRow]
  refine ⟨res, resolved, ?_⟩
  refine (@claimsKept_iff_interfaceFree asciiInterpreter _ _ _ _ _ _ _ _
    enumerateUsbDevices_golden (List.mem_singleton_self _) resolved).mpr ?_
  intro row claims
  rw [rows, List.mem_singleton] at claims
  subst claims
  exact ⟨_, rows ▸ List.mem_singleton_self _, rfl, interfaceFree_wildcard⟩

omit [Interpreter] in
/-- A row that asks for the vendor-specific class claims the interface only. -/
theorem vendor_row_lost :
    @enumerateUsbDevices asciiInterpreter (pluggedHost "0BDA" "8811") usbDevicesRoot =
        .ok [goldenDevice] ∧
      «match» (extendModalias goldenDevice vendorBytes) [.text vendorRow] = ["rtw88_8821cu".toList] ∧
      ∃ res, @resolveDevice asciiInterpreter goldenDevice [vendorRow] ⟨[]⟩ = .ok res ∧
        ¬ ClaimsKept goldenDevice vendorBytes [vendorRow] res := by
  have claimed : «match» (extendModalias goldenDevice vendorBytes) [.text vendorRow] =
      ["rtw88_8821cu".toList] := by
    decide +kernel
  have noRows : deviceRows goldenDevice [vendorRow] = [] := by decide +kernel
  obtain ⟨res, resolved⟩ := @resolveDevice_returns asciiInterpreter goldenDevice ⟨[]⟩
    (List.forall_mem_nil _) [vendorRow]
  refine ⟨enumerateUsbDevices_golden, claimed, res, resolved, ?_⟩
  intro kept
  have lost := kept "rtw88_8821cu" (claimed ▸ List.mem_singleton_self _)
  obtain ⟨row, inRows, _⟩ := (@exists_alias_candidate_iff asciiInterpreter _ _ _ _ resolved _).mp lost
  rw [noRows] at inRows
  cases inRows

end Claims

end DongleRescue.Identification
