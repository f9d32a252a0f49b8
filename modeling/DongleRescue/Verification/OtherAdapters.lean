import DongleRescue.Verification.Trichotomy

namespace DongleRescue.Verification

open DongleRescue.Data DongleRescue.Posix

/-! Whether the Wi-Fi adapters beside a dongle show in its report.  The first netdev in the order of
names is taken, whoever made it. -/

def netdevPath (name : Str) : Str := "/sys/class/net/" ++ name

def phyFile (name : Str) : Str := "/sys/class/net/" ++ name ++ "/phy80211/name"

def Listed (host : Host) (name : Str) : Prop := ∃ names, host.listdir "/sys/class/net" = .ok names ∧ name ∈ names

def Wireless (host : Host) (name : Str) : Prop := truthy (read host (phyFile name)) = true

/-- The path is the directory or below it. -/
def Within (directory path : Str) : Prop := path = directory ∨ ∃ rest, path = directory ++ '/' :: rest

/-- Every access to the path answers alike. -/
structure SameAt (first second : Host) (path : Str) : Prop where
  read : first.read path = second.read path
  «exists» : first.exists path = second.exists path
  listdir : first.listdir path = second.listdir path
  resolveRealpath : first.resolveRealpath path = second.resolveRealpath path

/-- A Wi-Fi netdev of a device outside the interface. -/
structure Elsewhere (host : Host) (iface name : Str) : Prop where
  wireless : Wireless host name
  outside : ∃ target real, host.resolveRealpath (netdevPath name ++ "/device") = .ok target ∧
    host.resolveRealpath iface = .ok real ∧ ¬ Within real target

/-- The hosts agree on everything except the other netdevs, and on the interface in any case. -/
structure AgreeBut (iface : Str) (others : List Str) (first second : Host) : Prop where
  outside : ∀ path, ¬ Within "/sys/class/net" path → SameAt first second path
  listing : (∃ failure, first.listdir "/sys/class/net" = .error failure ∧
      second.listdir "/sys/class/net" = .error failure) ∨
    ∃ names names', first.listdir "/sys/class/net" = .ok names ∧ second.listdir "/sys/class/net" = .ok names' ∧
      names.filter (· ∉ others) = names'.filter (· ∉ others)
  kept : ∀ name ∉ others, Listed first name ∨ Listed second name →
    ∀ path, Within (netdevPath name) path → SameAt first second path
  driver : first.read (iface ++ "/driver") = second.read (iface ++ "/driver")
  others : ∀ name ∈ others, (Listed first name → Elsewhere first iface name) ∧
    (Listed second name → Elsewhere second iface name)

section Hosts

variable {iface name : Str} {others : List Str} {host first second : Host}

theorem SameAt.symm {path : Str} (same : SameAt first second path) : SameAt second first path :=
  ⟨same.read.symm, same.exists.symm, same.listdir.symm, same.resolveRealpath.symm⟩

theorem AgreeBut.symm (agree : AgreeBut iface others first second) : AgreeBut iface others second first where
  outside path notWithin := (agree.outside path notWithin).symm
  listing := by
    rcases agree.listing with ⟨failure, failed, failed'⟩ | ⟨names, names', listed, listed', same⟩
    · exact .inl ⟨failure, failed', failed⟩
    · exact .inr ⟨names', names, listed', listed, same.symm⟩
  kept name notOther listed path within := (agree.kept name notOther listed.symm path within).symm
  driver := agree.driver.symm
  others name member := ⟨(agree.others name member).2, (agree.others name member).1⟩

theorem AgreeBut.listed (agree : AgreeBut iface others first second) (notOther : name ∉ others)
    (listed : Listed first name) : Listed second name := by
  obtain ⟨names, found, member⟩ := listed
  rcases agree.listing with ⟨failure, failed, _⟩ | ⟨names₁, names₂, found₁, found₂, same⟩
  · rw [failed] at found
    cases found
  · rw [found₁, Except.ok.injEq] at found
    have inFilter : name ∈ names₁.filter (· ∉ others) := by
      rw [found]
      exact List.mem_filter.mpr ⟨member, by simpa using notOther⟩
    rw [same] at inFilter
    exact ⟨names₂, found₂, (List.mem_filter.mp inFilter).1⟩

theorem phyFile_eq (name : Str) : phyFile name = netdevPath name ++ '/' :: ("phy80211/name" : Str) := by
  have slash : ("/phy80211/name" : Str) = '/' :: ("phy80211/name" : Str) := rfl
  exact congrArg (netdevPath name ++ ·) slash

theorem within_phyFile (name : Str) : Within (netdevPath name) (phyFile name) := .inr ⟨_, phyFile_eq name⟩

theorem AgreeBut.wireless (agree : AgreeBut iface others first second) (notOther : name ∉ others)
    (listed : Listed first name) (wireless : Wireless first name) : Wireless second name := by
  have same := (agree.kept name notOther (.inl listed) _ (within_phyFile name)).read
  rwa [Wireless, Verification.read, same] at wireless

/-- The first Wi-Fi netdev in the order of names. -/
structure Leads (host : Host) (name : Str) : Prop where
  listed : Listed host name
  wireless : Wireless host name
  least : ∀ other, Listed host other → Wireless host other → name ≤ other

theorem wifiIface_of_listed {names : List Str} (listing : host.listdir "/sys/class/net" = .ok names) :
    wifiIface host none = (sortTexts names).find? fun name => truthy (read host (phyFile name)) := by
  simp only [wifiIface, listing]
  rfl

theorem wifiIface_eq_iff : wifiIface host none = some name ↔ Leads host name := by
  constructor
  · intro found
    cases listing : host.listdir "/sys/class/net" with
    | error failure =>
        simp only [wifiIface, listing] at found
        cases found
    | ok names =>
        rw [wifiIface_of_listed listing] at found
        obtain ⟨member, wireless, below⟩ := find?_sortTexts_iff.mp found
        refine ⟨⟨names, listing, member⟩, wireless, fun other listed wireless' => ?_⟩
        obtain ⟨names', listing', member'⟩ := listed
        rw [listing, Except.ok.injEq] at listing'
        exact below other (listing' ▸ member') wireless'
  · intro leads
    obtain ⟨names, listing, member⟩ := leads.listed
    rw [wifiIface_of_listed listing]
    exact find?_sortTexts_iff.mpr ⟨member, leads.wireless, fun other member' wireless' =>
      leads.least other ⟨names, listing, member'⟩ wireless'⟩

theorem exists_leads (listed : Listed host name) (wireless : Wireless host name) : ∃ first, Leads host first := by
  cases found : wifiIface host none with
  | some first => exact ⟨first, wifiIface_eq_iff.mp found⟩
  | none =>
      obtain ⟨names, listing, member⟩ := listed
      simp only [wifiIface, listing] at found
      have miss := List.find?_eq_none.mp found name ((sortTexts_perm _).mem_iff.mpr member)
      exact absurd wireless miss

/-- Where none of the others comes to lead, the netdev that leads keeps its place. -/
theorem Leads.kept (leads : Leads first name) (agree : AgreeBut iface others first second) (notOther : name ∉ others)
    (same : ∀ other ∈ others, Leads second other → Leads first other) : Leads second name := by
  have listed := agree.listed notOther leads.listed
  have wireless := agree.wireless notOther leads.listed leads.wireless
  obtain ⟨least, leads'⟩ := exists_leads listed wireless
  have equal : least = name := by
    by_cases other : least ∈ others
    · have leadsFirst := same least other leads'
      have below := leadsFirst.least name leads.listed leads.wireless
      exact le_antisymm below (leads.least least leadsFirst.listed leadsFirst.wireless)
    · have listedFirst := agree.symm.listed other leads'.listed
      have below := leads.least least listedFirst (agree.symm.wireless other leads'.listed leads'.wireless)
      exact le_antisymm (leads'.least name listed wireless) below
  exact equal ▸ leads'

theorem wifiIface_eq_wifiIface_iff (agree : AgreeBut iface others first second) :
    wifiIface first none = wifiIface second none ↔ ∀ name ∈ others, Leads first name ↔ Leads second name := by
  constructor
  · intro same name _
    rw [← wifiIface_eq_iff, ← wifiIface_eq_iff, same]
  · intro same
    refine Option.ext fun name => ?_
    rw [wifiIface_eq_iff, wifiIface_eq_iff]
    by_cases other : name ∈ others
    · exact same name other
    · constructor
      · intro leads
        exact leads.kept agree other fun name member => (same name member).mpr
      · intro leads
        exact leads.kept agree.symm other fun name member => (same name member).mp

def wifiDetail (iface : Option Str) : Str :=
  if truthy iface then "netdev " ++ iface.getD [] else "no netdev with phy80211"

theorem adapterCheck_wifi (host : Host) : adapterCheck host "wifi" none = {
    name := "interface_present"
    passed := some (wifiIface host none).isSome
    detail := wifiDetail (wifiIface host none)
    source := "/sys/class/net/*/phy80211/name" } :=
  if_pos rfl

theorem wifiDetail_injective {left right : Str} (same : wifiDetail (some left) = wifiDetail (some right)) :
    left = right := by
  cases left with
  | nil =>
      cases right with
      | nil => rfl
      | cons c rest =>
          have letters : 'o' = 'e' := Option.some.inj (congrArg (fun text : Str => text.tail.head?) same)
          exact absurd letters (by decide)
  | cons c rest =>
      cases right with
      | nil =>
          have letters : 'e' = 'o' := Option.some.inj (congrArg (fun text : Str => text.tail.head?) same)
          exact absurd letters (by decide)
      | cons d rest' =>
          have suffixes : ("netdev " : Str) ++ c :: rest = "netdev " ++ d :: rest' := same
          exact List.append_cancel_left suffixes

/-- The check tells which netdev was taken. -/
theorem adapterCheck_eq_iff : adapterCheck first "wifi" none = adapterCheck second "wifi" none ↔
    wifiIface first none = wifiIface second none := by
  rw [adapterCheck_wifi, adapterCheck_wifi]
  constructor
  · intro same
    have passed := Option.some.inj (congrArg CheckResult.passed same)
    have detail := congrArg CheckResult.detail same
    cases left : wifiIface first none with
    | none =>
        rw [left] at passed
        exact (Option.isSome_eq_false_iff.mp passed.symm |> Option.isNone_iff_eq_none.mp).symm
    | some name =>
        rw [left] at passed detail
        obtain ⟨name', right⟩ := Option.isSome_iff_exists.mp passed.symm
        rw [right] at detail ⊢
        rw [wifiDetail_injective detail]
  · intro same
    rw [same]

theorem driverCheck_congr (same : first.read (iface ++ "/driver") = second.read (iface ++ "/driver")) :
    driverCheck first iface = driverCheck second iface := by
  have driver : read first (iface ++ "/driver") = read second (iface ++ "/driver") := by rw [read, same, read]
  unfold driverCheck
  rw [driver]

/-- The reports are the same exactly when of the others the same one leads on both hosts, or none. -/
theorem verifyDevice_eq_iff [Interpreter] (lines : List Str) (agree : AgreeBut iface others first second) :
    verifyDevice first "wifi" iface lines none = verifyDevice second "wifi" iface lines none ↔
      ∀ name ∈ others, Leads first name ↔ Leads second name := by
  have driver := driverCheck_congr agree.driver
  rw [← wifiIface_eq_wifiIface_iff agree, ← adapterCheck_eq_iff, verifyDevice_eq (.inl rfl), verifyDevice_eq (.inl rfl)]
  constructor
  · intro same
    have checks := congrArg VerificationReport.checks (Except.ok.inj same)
    exact (List.cons.inj checks).1
  · intro adapter
    have checks : checksOf first "wifi" iface lines none = checksOf second "wifi" iface lines none := by
      rw [checksOf, checksOf, adapter, driver]
    rw [checks]

end Hosts

/-- The host with one more netdev, of a device on the PCI bus. -/
def withCard (host : Host) (name : Str) (names : List Str) : Host where
  read path := if path = phyFile name then .ok "phy1\n" else host.read path
  «exists» := host.exists
  listdir path := if path = "/sys/class/net" then .ok names else host.listdir path
  resolveRealpath path :=
    if path = netdevPath name ++ "/device" then .ok "/sys/devices/pci0000:00/0000:00:14.3" else host.resolveRealpath path

section Card

variable {iface name path : Str} {listed listed' : List Str} {host : Host}

theorem netdevPath_eq (name : Str) : netdevPath name = ("/sys/class/net" : Str) ++ '/' :: name := rfl

theorem within_device (name : Str) : Within (netdevPath name) (netdevPath name ++ "/device") := .inr ⟨"device", rfl⟩

theorem within_class (within : Within (netdevPath name) path) : Within "/sys/class/net" path := by
  rcases within with same | ⟨rest, same⟩
  · exact .inr ⟨name, same⟩
  · exact .inr ⟨name ++ '/' :: rest, by rw [same, netdevPath_eq, List.append_assoc, List.cons_append]⟩

/-- The component after the class directory is the name of the netdev. -/
theorem names_of_within (plain : '/' ∉ name) (within : Within (netdevPath name) path) :
    ∃ more, names path = names "/sys/class/net" ++ name :: more := by
  rcases within with same | ⟨rest, same⟩
  · refine ⟨[], ?_⟩
    rw [same, netdevPath_eq, names_append_slash, names_of_no_slash plain]
  · refine ⟨names rest, ?_⟩
    rw [same, names_append_slash, netdevPath_eq, names_append_slash, names_of_no_slash plain, List.append_assoc]
    rfl

theorem sameAt_withCard (notClass : path ≠ "/sys/class/net") (notCard : ¬ Within (netdevPath name) path) :
    SameAt host (withCard host name listed') path := by
  have notFile : path ≠ phyFile name := by
    rintro rfl
    exact notCard (within_phyFile name)
  have notDevice : path ≠ netdevPath name ++ "/device" := by
    rintro rfl
    exact notCard (within_device name)
  exact ⟨(if_neg notFile).symm, rfl, (if_neg notClass).symm, (if_neg notDevice).symm⟩

theorem listdir_withCard : (withCard host name listed').listdir "/sys/class/net" = .ok listed' := by
  change (if ("/sys/class/net" : Str) = "/sys/class/net" then Except.ok listed' else host.listdir "/sys/class/net") = _
  rw [if_pos rfl]

theorem agreeBut_withCard {real : Str} (listing : host.listdir "/sys/class/net" = .ok listed) (absent : name ∉ listed)
    (added : listed = listed'.filter (· ∉ [name])) (plain : ∀ other ∈ name :: listed, '/' ∉ other)
    (notDriver : iface ++ "/driver" ≠ phyFile name) (notDevice : iface ≠ netdevPath name ++ "/device")
    (resolved : host.resolveRealpath iface = .ok real) (outside : ¬ Within real "/sys/devices/pci0000:00/0000:00:14.3") :
    AgreeBut iface [name] host (withCard host name listed') where
  outside path notWithin := by
    refine sameAt_withCard ?_ fun within => notWithin (within_class within)
    rintro rfl
    exact notWithin (.inl rfl)
  listing := by
    refine .inr ⟨listed, listed', listing, listdir_withCard, ?_⟩
    rw [← added, List.filter_eq_self]
    intro other member
    have other_ne : other ≠ name := fun same => absent (same ▸ member)
    simpa using other_ne
  kept other notCard either path within := by
    have inListed : other ∈ listed := by
      rcases either with ⟨names, found, member⟩ | ⟨names, found, member⟩
      · rw [listing, Except.ok.injEq] at found
        exact found ▸ member
      · rw [listdir_withCard, Except.ok.injEq] at found
        rw [added]
        exact List.mem_filter.mpr ⟨found ▸ member, by simpa using notCard⟩
    have plainOther := plain other (List.mem_cons_of_mem _ inListed)
    obtain ⟨more, split⟩ := names_of_within plainOther within
    refine sameAt_withCard ?_ fun within' => ?_
    · rintro rfl
      simp at split
    · obtain ⟨more', split'⟩ := names_of_within (plain name List.mem_cons_self) within'
      have same := List.append_cancel_left (split.symm.trans split')
      exact notCard (List.mem_singleton.mpr (List.cons.inj same).1)
  driver := (if_neg notDriver).symm
  others other member := by
    rw [List.mem_singleton.mp member]
    constructor
    · rintro ⟨names, found, inNames⟩
      rw [listing, Except.ok.injEq] at found
      exact absurd (found ▸ inNames) absent
    · intro _
      refine ⟨?_, _, real, if_pos rfl, (if_neg notDevice).trans resolved, outside⟩
      have present : (withCard host name listed').read (phyFile name) = .ok "phy1\n" := if_pos rfl
      rw [Wireless, Verification.read, present]
      rfl

end Card

theorem card_outside : ¬ Within wifiNode "/sys/devices/pci0000:00/0000:00:14.3" := by
  rintro (same | ⟨rest, same⟩)
  · exact absurd same (by decide)
  · have letters : some 'd' = some 'b' := congrArg (fun path : Str => path[5]?) same
    exact absurd letters (by decide)

def besideCard : Host := withCard scriptedHost "wlan1" ["wlan0", "wlan1"]

theorem agreeBut_besideCard : AgreeBut wifiNode ["wlan1"] scriptedHost besideCard := by
  have listing : scriptedHost.listdir "/sys/class/net" = .ok ["wlan0"] := rfl
  exact agreeBut_withCard listing (by decide) (by decide) (by decide) (by decide) (by decide) rfl card_outside

/-- A card that comes after the netdev of the dongle does not show. -/
theorem verifyDevice_eq_behind : AgreeBut wifiNode ["wlan1"] scriptedHost besideCard ∧
    @verifyDevice asciiInterpreter scriptedHost "wifi" wifiNode [] none =
      @verifyDevice asciiInterpreter besideCard "wifi" wifiNode [] none := by
  let _ : Interpreter := asciiInterpreter
  have first : wifiIface scriptedHost none = some "wlan0" := by decide +kernel
  have second : wifiIface besideCard none = some "wlan0" := by decide +kernel
  refine ⟨agreeBut_besideCard, (verifyDevice_eq_iff [] agreeBut_besideCard).mpr fun name _ => ?_⟩
  rw [← wifiIface_eq_iff, ← wifiIface_eq_iff, first, second]

def cardlessHost : Host :=
  { tableHost [(wifiNode ++ "/driver", "mt7601u")] [] [] with listdir := fun _ => .ok [] }

def besideBuiltin : Host := withCard cardlessHost "wlan0" ["wlan0"]

theorem agreeBut_besideBuiltin : AgreeBut wifiNode ["wlan0"] cardlessHost besideBuiltin := by
  have listing : cardlessHost.listdir "/sys/class/net" = .ok [] := rfl
  exact agreeBut_withCard listing (by decide) (by decide) (by decide) (by decide) (by decide) rfl card_outside

/-- Without a netdev of its own the dongle fails, and beside a built-in card it passes. -/
theorem card_makes_dongle_pass : AgreeBut wifiNode ["wlan0"] cardlessHost besideBuiltin ∧
    ∃ report report', @verifyDevice asciiInterpreter cardlessHost "wifi" wifiNode [] none = .ok report ∧
      @verifyDevice asciiInterpreter besideBuiltin "wifi" wifiNode [] none = .ok report' ∧
      report.verdict = .notFunctional ∧ report'.verdict = .hardwareFunctional := by
  let _ : Interpreter := asciiInterpreter
  refine ⟨agreeBut_besideBuiltin, _, _, verifyDevice_eq (.inl rfl), verifyDevice_eq (.inl rfl), ?_, ?_⟩
  · decide +kernel
  · decide +kernel

end DongleRescue.Verification
