import DongleRescue.Linux.LogAccess

namespace DongleRescue.Linux

open DongleRescue.Data

/-! What the two signals of a pending reboot answer together.  A failure of either counts as
absence, and only that of the listing is told apart from it later. -/

section Signals

variable (host : Host)

def MarkerSeen : Prop := host.exists "/var/run/reboot-required" = .ok true

def MarkerFailed : Prop := ∃ failure, host.exists "/var/run/reboot-required" = .error failure

def ListingFailed : Prop := ∃ failure, host.listdir "/lib/modules" = .error failure

/-- The releases with a module tree. -/
def installedReleases : List Str :=
  match host.listdir "/lib/modules" with
  | .ok names => names.eraseDups
  | .error _ => []

variable [Interpreter] (isDigit : Char → Bool) (running : Str)

def NewerListed : Prop :=
  ∃ names, host.listdir "/lib/modules" = .ok names ∧ ∃ rel ∈ names, rel ≠ running ∧ versionGt isDigit rel running = true

def newerReleases : List Str :=
  sortTexts ((installedReleases host).filter fun rel => decide (rel ≠ running) && versionGt isDigit rel running)

end Signals

/-- The answer, once the signals are read. -/
def signalAnswer (running : Str) (newer : List Str) (marked : Bool) (installed : List Str) : Option Bool × Str :=
  if newer ≠ [] then
    (some true, "installed kernel(s) " ++ join ", " newer ++ " newer than running " ++ running ++
      "; driver/firmware may exist only in the future tree")
  else if marked then (some true, "reboot-required marker present")
  else if installed ≠ [] then (some false, "running " ++ running ++ " is the newest installed kernel")
  else (none, "cannot list /lib/modules")

section Answers

variable {host : Host} {names names' : List Str}

theorem seen_marker_iff : seen host "/var/run/reboot-required" = true ↔ MarkerSeen host := by
  unfold MarkerSeen seen
  cases host.exists "/var/run/reboot-required" with
  | error failure => simp
  | ok present => simp

theorem installedReleases_of_listed (listed : host.listdir "/lib/modules" = .ok names) :
    installedReleases host = names.eraseDups := by
  rw [installedReleases, listed]

theorem mem_installedReleases {rel : Str} : rel ∈ installedReleases host ↔
    ∃ names, host.listdir "/lib/modules" = .ok names ∧ rel ∈ names := by
  unfold installedReleases
  cases host.listdir "/lib/modules" with
  | error failure => simp
  | ok names => simp

theorem installedReleases_ne_nil : installedReleases host ≠ [] ↔
    ∃ names, host.listdir "/lib/modules" = .ok names ∧ names ≠ [] := by
  constructor
  · intro nonempty
    obtain ⟨rel, member⟩ := List.exists_mem_of_ne_nil _ nonempty
    obtain ⟨names, listed, inNames⟩ := mem_installedReleases.mp member
    exact ⟨names, listed, List.ne_nil_of_mem inNames⟩
  · intro ⟨names, listed, nonempty⟩
    obtain ⟨rel, inNames⟩ := List.exists_mem_of_ne_nil _ nonempty
    exact List.ne_nil_of_mem (mem_installedReleases.mpr ⟨names, listed, inNames⟩)

variable [Interpreter] {isDigit : Char → Bool} {running platformRelease : Str} {runningRelease : Option Str}

theorem newerReleases_ne_nil : newerReleases host isDigit running ≠ [] ↔ NewerListed host isDigit running := by
  constructor
  · intro nonempty
    obtain ⟨rel, member⟩ := List.exists_mem_of_ne_nil _ nonempty
    obtain ⟨listed, newer⟩ := List.mem_filter.mp ((sortTexts_perm _).mem_iff.mp member)
    obtain ⟨names, list, inNames⟩ := mem_installedReleases.mp listed
    rw [Bool.and_eq_true, decide_eq_true_eq] at newer
    exact ⟨names, list, rel, inNames, newer⟩
  · intro ⟨names, list, rel, inNames, other, newer⟩
    have kept : rel ∈ newerReleases host isDigit running := by
      refine (sortTexts_perm _).mem_iff.mpr (List.mem_filter.mpr ⟨?_, ?_⟩)
      · exact mem_installedReleases.mpr ⟨names, list, inNames⟩
      · rw [Bool.and_eq_true, decide_eq_true_eq]
        exact ⟨other, newer⟩
    exact List.ne_nil_of_mem kept

theorem rebootPending_eq : rebootPending isDigit host platformRelease runningRelease =
    signalAnswer (releaseOr runningRelease platformRelease)
      (newerReleases host isDigit (releaseOr runningRelease platformRelease))
      (seen host "/var/run/reboot-required") (installedReleases host) := rfl

theorem rebootPending_true_iff : (rebootPending isDigit host platformRelease runningRelease).1 = some true ↔
    NewerListed host isDigit (releaseOr runningRelease platformRelease) ∨ MarkerSeen host := by
  rw [← newerReleases_ne_nil, ← seen_marker_iff, rebootPending_eq, signalAnswer]
  split
  · rename_i newer
    exact iff_of_true rfl (.inl newer)
  · rename_i none
    rw [or_iff_right none]
    split
    · rename_i marked
      exact iff_of_true rfl marked
    · rename_i unmarked
      refine iff_of_false ?_ unmarked
      split
      · simp
      · simp

theorem rebootPending_silent (none : ¬ NewerListed host isDigit (releaseOr runningRelease platformRelease))
    (unmarked : ¬ MarkerSeen host) : (rebootPending isDigit host platformRelease runningRelease).1 =
      if installedReleases host ≠ [] then some false else .none := by
  rw [← newerReleases_ne_nil] at none
  rw [← seen_marker_iff] at unmarked
  rw [rebootPending_eq, signalAnswer, if_neg none, if_neg unmarked, apply_ite Prod.fst]

theorem rebootPending_of_same_names (listed : host.listdir "/lib/modules" = .ok names)
    (same : ∀ rel, rel ∈ names ↔ rel ∈ names') :
    rebootPending isDigit { host with listdir := fun _ => .ok names' } platformRelease runningRelease =
      rebootPending isDigit host platformRelease runningRelease := by
  have perm : (installedReleases { host with listdir := fun _ => .ok names' }).Perm (installedReleases host) := by
    rw [installedReleases_of_listed listed]
    exact eraseDups_perm fun rel => (same rel).symm
  have newer : newerReleases { host with listdir := fun _ => .ok names' } isDigit
      (releaseOr runningRelease platformRelease) =
        newerReleases host isDigit (releaseOr runningRelease platformRelease) :=
    sortTexts_eq_of_perm (perm.filter _)
  have empty : installedReleases { host with listdir := fun _ => .ok names' } = [] ↔ installedReleases host = [] := by
    rw [← List.perm_nil, ← List.perm_nil]
    exact ⟨perm.symm.trans, perm.trans⟩
  rw [rebootPending_eq, rebootPending_eq, newer]
  simp only [signalAnswer, ne_eq, empty]
  rfl

/-- A definite answer needs both signals, and the listed names count as a set. -/
structure Honest (isDigit : Char → Bool) (host : Host) (platformRelease : Str) (runningRelease : Option Str) : Prop where
  pending : (rebootPending isDigit host platformRelease runningRelease).1 = some true ↔
    NewerListed host isDigit (releaseOr runningRelease platformRelease) ∨ MarkerSeen host
  unknown : ¬ NewerListed host isDigit (releaseOr runningRelease platformRelease) → ¬ MarkerSeen host →
    MarkerFailed host ∨ ListingFailed host →
      (rebootPending isDigit host platformRelease runningRelease).1 = none
  unordered : ∀ names names', host.listdir "/lib/modules" = .ok names → (∀ rel, rel ∈ names ↔ rel ∈ names') →
    rebootPending isDigit { host with listdir := fun _ => .ok names' } platformRelease runningRelease =
      rebootPending isDigit host platformRelease runningRelease

/-- The reboot is denied honestly exactly when no failed marker check stands beside a listing that is
not empty and holds nothing newer. -/
theorem honest_iff (isDigit : Char → Bool) (host : Host) (platformRelease : Str) (runningRelease : Option Str) :
    Honest isDigit host platformRelease runningRelease ↔
      (MarkerFailed host → (∃ names, host.listdir "/lib/modules" = .ok names ∧ names ≠ []) →
        NewerListed host isDigit (releaseOr runningRelease platformRelease)) := by
  constructor
  · intro honest failed listed
    by_contra none
    have unmarked : ¬ MarkerSeen host := by
      intro marked
      obtain ⟨failure, raised⟩ := failed
      rw [MarkerSeen, raised] at marked
      cases marked
    have unknown := honest.unknown none unmarked (.inl failed)
    rw [rebootPending_silent none unmarked, if_pos (installedReleases_ne_nil.mpr listed)] at unknown
    cases unknown
  · intro complete
    refine ⟨rebootPending_true_iff, fun none unmarked failed => ?_, ?_⟩
    · rw [rebootPending_silent none unmarked, if_neg]
      rw [installedReleases_ne_nil]
      intro listed
      rcases failed with failed | ⟨failure, raised⟩
      · exact none (complete failed listed)
      · obtain ⟨names, found, _⟩ := listed
        rw [raised] at found
        cases found
    · intro names names' listed same
      exact rebootPending_of_same_names listed same

end Answers

/-- One module tree, that of the running kernel, and a marker that cannot be looked up. -/
def deniedHost : Host where
  read path := .error (.hostError ("read " ++ path ++ ": Permission denied"))
  «exists» path := .error (.osError ("[Errno 13] Permission denied: " ++ path))
  listdir _ := .ok ["6.17.0-1018-oracle"]
  resolveRealpath path := .ok path

theorem denied_marker_is_denied_reboot :
    MarkerFailed deniedHost ∧ ¬ MarkerSeen deniedHost ∧
      ¬ @NewerListed deniedHost asciiInterpreter isDecimalDigit "6.17.0-1018-oracle" ∧
      (@rebootPending asciiInterpreter isDecimalDigit deniedHost "6.17.0-1018-oracle" none).1 = some false := by
  let _ : Interpreter := asciiInterpreter
  refine ⟨⟨_, rfl⟩, ?_, ?_, by decide +kernel⟩
  · intro marked
    cases marked
  · rintro ⟨names, listed, rel, member, other, _⟩
    cases listed
    exact other (List.mem_singleton.mp member)

end DongleRescue.Linux
