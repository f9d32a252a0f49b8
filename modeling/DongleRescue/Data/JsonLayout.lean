import DongleRescue.Data.JsonRoundTrip

namespace DongleRescue.Data.Json

/-! Documents laid out with white space of any kind between their parts, the indented ones
among them, are read as the value that was written. -/

section Layouts

variable {text space tail : Str} {value : Json} {stack : List Frame} {texts : List Str} {values : List Json}

/-- Wherever a value may stand, the text is read as this one. -/
def ReadsAs (text : Str) (value : Json) : Prop :=
  ∀ stack, expectsKey stack = false → ∃ config, run (.value, stack) text = some config ∧ Ready config value stack

theorem isNumberChar_of_isBlank {c : Char} (blank : isBlank c = true) : isNumberChar c = false := by
  simp only [isBlank, Bool.or_eq_true, decide_eq_true_eq] at blank
  rcases blank with ((same | same) | same) | same
  all_goals
    rw [same]
    decide

/-- White space behind a value is skipped, and ends a number. -/
theorem run_ready_blanks {config : Config} (ready : Ready config value stack)
    (blank : ∀ c ∈ tail, isBlank c = true) :
    ∃ later, run config tail = some later ∧ Ready later value stack := by
  induction tail generalizing config with
  | nil => exact ⟨config, rfl, ready⟩
  | cons c tail ih =>
      rw [List.forall_mem_cons] at blank
      have stepped : Json.step config c = some (.after value, stack) := by
        rw [ready.step (isNumberChar_of_isBlank blank.1)]
        unfold close
        exact if_pos blank.1
      obtain ⟨later, read, readyLater⟩ := ih (.inl rfl) blank.2
      exact ⟨later, by rw [run_cons, stepped, Option.bind_some, read], readyLater⟩

theorem run_opened_blanks (blank : ∀ c ∈ space, isBlank c = true) :
    run (.opened, stack) (space ++ text) = run (.opened, stack) text := by
  induction space with
  | nil => rfl
  | cons c space ih =>
      rw [List.forall_mem_cons] at blank
      have skipped : Json.step (.opened, stack) c = some (.opened, stack) := by
        unfold Json.step
        exact if_pos blank.1
      rw [List.cons_append, run_cons, skipped, Option.bind_some]
      exact ih blank.2

theorem run_items (each : List.Forall₂ ReadsAs texts values) (nonempty : texts ≠ [])
    (blank : ∀ c ∈ space, isBlank c = true) (blankTail : ∀ c ∈ tail, isBlank c = true) (done : List Json) :
    run (.value, .list done :: stack) (join (',' :: space) texts ++ (tail ++ [']'])) =
      some (.after (.list (done ++ values)), stack) := by
  induction each generalizing done with
  | nil => contradiction
  | @cons text value texts values here rest ih =>
      obtain ⟨config, read, ready⟩ := here (.list done :: stack) rfl
      cases rest with
      | nil =>
          obtain ⟨later, readTail, readyTail⟩ := run_ready_blanks ready blankTail
          have closed := readyTail.step (c := ']') rfl
          rw [join_singleton, run_append, read, Option.bind_some, run_append, readTail, Option.bind_some, run_cons,
            closed]
          rfl
      | cons next others =>
          have comma := ready.step (c := ',') rfl
          have later := ih (List.cons_ne_nil _ _) (done ++ [value])
          rw [join_cons_cons, List.append_assoc, List.append_assoc, run_append, read, Option.bind_some,
            List.cons_append, run_cons, comma]
          refine (run_blanks blank).trans (later.trans ?_)
          simp

theorem run_members {members : List (Str × Str)} {items : List (Str × Json)}
    (each : List.Forall₂ (fun entry item => entry.1 = item.1 ∧ ReadsAs entry.2 item.2) members items)
    (nonempty : members ≠ []) (blank : ∀ c ∈ space, isBlank c = true) (blankTail : ∀ c ∈ tail, isBlank c = true)
    (spacing : Spacing) (done : List (Str × Json)) (distinct : ((done ++ items).map Prod.fst).Nodup) :
    run (.value, .key done :: stack)
        (join (',' :: space) (members.map fun entry => member spacing entry.1 entry.2) ++ (tail ++ ['\x7d'])) =
      some (.after (.dict (done ++ items)), stack) := by
  induction each generalizing done with
  | nil => contradiction
  | @cons entry item members items here rest ih =>
      obtain ⟨key, text⟩ := entry
      obtain ⟨key', value⟩ := item
      obtain ⟨sameKey, reads⟩ := here
      simp only at sameKey reads
      subst sameKey
      obtain ⟨config, read, ready⟩ := reads (.item done key :: stack) rfl
      have fresh : key ∉ done.map Prod.fst := by
        rw [List.map_append, List.map_cons, List.nodup_middle, List.nodup_cons, List.mem_append] at distinct
        exact fun inDone => distinct.1 (.inl inDone)
      have entry : ∀ more, run (.value, .key done :: stack) (member spacing key text ++ more) = run config more := by
        intro more
        have colon : Json.step (.after (.str key), .key done :: stack) ':' =
            some (.value, .item done key :: stack) := rfl
        rw [member, List.append_assoc, run_append, run_quote, Option.bind_some, List.cons_append,
          run_cons, colon, Option.bind_some, List.append_assoc, run_blanks spacing.blank, run_append, read]
        rfl
      cases rest with
      | nil =>
          obtain ⟨later, readTail, readyTail⟩ := run_ready_blanks ready blankTail
          have closed := readyTail.step (c := '\x7d') rfl
          rw [List.map_singleton, join_singleton, entry, run_append, readTail, Option.bind_some, run_cons, closed,
            close, insert_of_notMem fresh]
          rfl
      | cons next others =>
          have comma := ready.step (c := ',') rfl
          have later := ih (List.cons_ne_nil _ _) (done ++ [(key, value)]) (by simpa using distinct)
          rw [List.map_cons, List.map_cons, join_cons_cons, List.append_assoc, List.append_assoc, entry,
            List.cons_append, run_cons, comma, close, insert_of_notMem fresh]
          refine (run_blanks blank).trans (later.trans ?_)
          simp

end Layouts

section Indented

variable {value : Json}

theorem indentedList_eq (level : Nat) (items : List Json) :
    indentedList level items = items.map (indented level) := by
  induction items with
  | nil => rfl
  | cons item items ih => rw [indentedList, ih, List.map_cons]

theorem indentedItems_eq (level : Nat) (items : List (Str × Json)) :
    indentedItems level items = items.map (Prod.map id (indented level)) := by
  induction items with
  | nil => rfl
  | cons item items ih =>
      obtain ⟨key, value⟩ := item
      rw [indentedItems, ih, List.map_cons]
      rfl

theorem blank_newline (level : Nat) : ∀ c ∈ newline level, isBlank c = true := by
  rw [newline, List.forall_mem_cons]
  refine ⟨by decide, fun c member => ?_⟩
  rw [List.eq_of_mem_replicate member]
  decide

theorem opens_indented (level : Nat) (value : Json) : Opens (indented level value) := by
  have encoded : Opens (encode spaced value) := opens_encode value
  cases value with
  | list items =>
      rw [indented, block]
      split
      · exact ⟨'[', _, rfl, by decide⟩
      · exact ⟨'[', _, rfl, by decide⟩
  | dict items =>
      rw [indented, block]
      split
      · exact ⟨'\x7b', _, rfl, by decide⟩
      · exact ⟨'\x7b', _, rfl, by decide⟩
  | bool value => cases value <;> exact encoded
  | null => exact encoded
  | int value => exact encoded
  | float number => exact encoded
  | str value => exact encoded

theorem readsAs_indented (value : Json) (distinct : value.DistinctKeys) (level : Nat) :
    ReadsAs (indented level value) (sortKeys value) := by
  induction value generalizing level with
  | null => exact (reads .null distinct : Reads spaced .null)
  | bool value =>
      have read : Reads spaced (.bool value) := reads (.bool value) distinct
      cases value with
      | false => exact read
      | true => exact read
  | int value => exact (reads_int value : Reads spaced (.int value))
  | float number => exact (reads_float number : Reads spaced (.float number))
  | str text => exact fun stack _ => ⟨_, run_quote stack, .inl rfl⟩
  | list items ih =>
      intro stack free
      rw [DistinctKeys, distinctKeysList_iff] at distinct
      have bracket : Json.step (.value, stack) '[' = some (.opened, .list [] :: stack) := by
        simp [Json.step, start, isBlank, free]
      refine ⟨(.after (sortKeys (.list items)), stack), ?_, .inl rfl⟩
      rw [indented, indentedList_eq, sortKeys, sortKeysList_eq, block]
      cases items with
      | nil =>
          have closed : run (.value, stack) ['[', ']'] = some (.after (.list []), stack) := by
            rw [run_cons, bracket]
            rfl
          exact closed
      | cons item items =>
          have each : List.Forall₂ ReadsAs ((item :: items).map (indented (level + 1)))
              ((item :: items).map sortKeys) := by
            rw [List.forall₂_map_left_iff, List.forall₂_map_right_iff, List.forall₂_same]
            exact fun inner member => ih inner member (distinct inner member) (level + 1)
          rw [if_neg (by simp), run_cons, bracket, Option.bind_some, List.append_assoc, List.append_assoc,
            run_opened_blanks (blank_newline (level + 1))]
          exact (run_opened ((opens_indented _ item).join.append _) (.inl rfl)).trans
            (run_items each (by simp) (blank_newline (level + 1)) (blank_newline level) [])
  | dict items ih =>
      intro stack free
      rw [DistinctKeys, distinctKeysItems_iff] at distinct
      have bracket : Json.step (.value, stack) '\x7b' = some (.opened, .key [] :: stack) := by
        simp [Json.step, start, isBlank, free]
      have keys : ((Keyed.sorted items).map Prod.fst).Nodup :=
        ((Keyed.sorted_perm items).map Prod.fst).nodup_iff.mpr distinct.1
      refine ⟨(.after (sortKeys (.dict items)), stack), ?_, .inl rfl⟩
      rw [indented, indentedItems_eq, sortKeys, sortKeysItems_eq, ← Keyed.map_sorted, ← Keyed.map_sorted]
      have inItems : ∀ item ∈ Keyed.sorted items, item ∈ items :=
        fun item member => (Keyed.sorted_perm items).mem_iff.mp member
      cases split : Keyed.sorted items with
      | nil =>
          have closed : run (.value, stack) ['\x7b', '\x7d'] = some (.after (.dict []), stack) := by
            rw [run_cons, bracket]
            rfl
          exact closed
      | cons item rest =>
          rw [split] at inItems keys
          have each : List.Forall₂ (fun entry item => entry.1 = item.1 ∧ ReadsAs entry.2 item.2)
              ((item :: rest).map (Prod.map id (indented (level + 1)))) ((item :: rest).map (Prod.map id sortKeys)) := by
            rw [List.forall₂_map_left_iff, List.forall₂_map_right_iff, List.forall₂_same]
            intro inner member
            have given := inItems inner member
            exact ⟨rfl, ih inner given (distinct.2 inner given) (level + 1)⟩
          have opens : Opens (member spaced item.1 (indented (level + 1) item.2)) := ⟨'"', _, rfl, by decide⟩
          have names : ((item :: rest).map (Prod.map id sortKeys)).map Prod.fst = (item :: rest).map Prod.fst := by
            rw [List.map_map]
            rfl
          rw [block, if_neg (by simp), run_cons, bracket, Option.bind_some, List.append_assoc, List.append_assoc,
            run_opened_blanks (blank_newline (level + 1))]
          exact (run_opened (opens.join.append _) (.inr rfl)).trans
            (run_members each (by simp) (blank_newline (level + 1)) (blank_newline level) spaced []
              (by rw [List.nil_append, names]; exact keys))

/-- The indented form is a document too, for the value with its keys sorted. -/
theorem readDocument_dumpsIndented (distinct : value.DistinctKeys) {text trailing : Str}
    (dumped : dumpsIndented value = .ok text) (blank : ∀ c ∈ trailing, isBlank c = true) :
    readDocument (text ++ trailing) = some (sortKeys value) := by
  obtain ⟨_, same⟩ := dumpsIndented_ok_iff.mp dumped
  obtain ⟨config, read, ready⟩ := readsAs_indented value distinct 0 [] rfl
  obtain ⟨later, readTail, readyTail⟩ := run_ready_blanks ready blank
  rw [readDocument, run_append, ← same, read, Option.bind_some, readTail, Option.bind_some, readyTail.finish]

end Indented

end DongleRescue.Data.Json
