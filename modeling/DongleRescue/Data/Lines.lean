import DongleRescue.Data.Text

namespace DongleRescue.Data

/-! Texts as closed lines and a last one that no line break ends yet. -/

/-- What text mode reads: every kind of newline as `\n`. -/
def universalNewlines : Str → Str
  | '\r' :: '\n' :: rest => '\n' :: universalNewlines rest
  | '\r' :: rest => '\n' :: universalNewlines rest
  | c :: rest => c :: universalNewlines rest
  | [] => []

def closedLines (text : Str) : Str := text.rdropWhile (!isLineBreak ·)

def lastLine (text : Str) : Str := text.rtakeWhile (!isLineBreak ·)

section Newlines

variable {c : Char} {first second rest text : Str}

theorem universalNewlines_cons (other : c ≠ '\r') :
    universalNewlines (c :: rest) = c :: universalNewlines rest := by
  rw [universalNewlines]
  · exact fun _ same _ => other same
  · exact fun same => other same

theorem universalNewlines_carriage (boundary : rest.head? ≠ some '\n') :
    universalNewlines ('\r' :: rest) = '\n' :: universalNewlines rest := by
  rw [universalNewlines]
  intro more same
  rw [same] at boundary
  exact boundary rfl

theorem universalNewlines_append (boundary : second.head? ≠ some '\n') :
    universalNewlines (first ++ second) = universalNewlines first ++ universalNewlines second := by
  induction first using universalNewlines.induct with
  | case1 rest ih => simp only [List.cons_append, universalNewlines, ih]
  | case2 rest notNewline ih =>
      have here : rest.head? ≠ some '\n' := by
        intro newline
        obtain ⟨more, same⟩ := List.head?_eq_some_iff.mp newline
        exact notNewline more same
      have there : (rest ++ second).head? ≠ some '\n' := by
        cases rest with
        | nil => exact boundary
        | cons d rest => exact here
      rw [List.cons_append, universalNewlines_carriage there, universalNewlines_carriage here, ih,
        List.cons_append]
  | case3 c rest _ other ih =>
      rw [List.cons_append, universalNewlines_cons other, universalNewlines_cons other, ih,
        List.cons_append]
  | case4 => rfl

theorem carriage_notMem (text : Str) : '\r' ∉ universalNewlines text := by
  induction text using universalNewlines.induct with
  | case1 rest ih => simpa [universalNewlines] using ih
  | case2 rest notNewline ih => simpa [universalNewlines] using ih
  | case3 c rest _ other ih =>
      rw [universalNewlines_cons other, List.mem_cons, not_or]
      exact ⟨Ne.symm other, ih⟩
  | case4 => simp [universalNewlines]

theorem universalNewlines_eq_self (plain : '\r' ∉ text) : universalNewlines text = text := by
  induction text with
  | nil => rfl
  | cons c text ih =>
      rw [List.mem_cons, not_or] at plain
      rw [universalNewlines_cons (Ne.symm plain.1), ih plain.2]

end Newlines

/-- A text without a line break. -/
def OneLine (text : Str) : Prop := ∀ c ∈ text, isLineBreak c = false

instance (text : Str) : Decidable (OneLine text) := inferInstanceAs (Decidable (∀ c ∈ text, isLineBreak c = false))

theorem oneLine_append {first second : Str} : OneLine (first ++ second) ↔ OneLine first ∧ OneLine second :=
  List.forall_mem_append

section Splitting

variable {c : Char} {pending first second text : Str}

theorem splitlinesAfter_cons (other : c ≠ '\r') : splitlinesAfter pending (c :: text) =
    if isLineBreak c then pending.reverse :: splitlinesAfter [] text
    else splitlinesAfter (c :: pending) text := by
  rw [splitlinesAfter]
  exact fun _ same _ => other same

theorem ne_carriage (notBreak : isLineBreak c = false) : c ≠ '\r' := by
  intro same
  rw [same] at notBreak
  cases notBreak

theorem splitlinesAfter_open (kept : ∀ c ∈ text, isLineBreak c = false) :
    splitlinesAfter pending text =
      if pending.reverse ++ text = [] then [] else [pending.reverse ++ text] := by
  induction text generalizing pending with
  | nil => simp [splitlinesAfter]
  | cons c text ih =>
      have notBreak := kept c (by simp)
      rw [splitlinesAfter_cons (ne_carriage notBreak), notBreak, if_neg Bool.false_ne_true,
        ih fun d member => kept d (by simp [member])]
      simp

theorem splitlinesAfter_line (kept : ∀ c ∈ text, isLineBreak c = false) :
    splitlinesAfter pending (text ++ ['\n']) = [pending.reverse ++ text] := by
  induction text generalizing pending with
  | nil =>
      rw [List.append_nil]
      rfl
  | cons c text ih =>
      have notBreak := kept c (by simp)
      rw [List.cons_append, splitlinesAfter_cons (ne_carriage notBreak), notBreak,
        if_neg Bool.false_ne_true, ih fun d member => kept d (by simp [member])]
      simp

theorem oneLine_of_mem_splitlines : ∀ line ∈ splitlines text, OneLine line := by
  have parts : ∀ pending, OneLine pending → ∀ line ∈ splitlinesAfter pending text, OneLine line := by
    intro pending
    induction pending, text using splitlinesAfter.induct with
    | case1 => exact fun _ line member => nomatch member
    | case2 pending nonempty =>
        intro kept
        rw [splitlinesAfter, if_neg nonempty, List.forall_mem_singleton]
        exact fun c inside => kept c (List.mem_reverse.mp inside)
    | case3 pending rest ih =>
        intro kept
        rw [splitlinesAfter, List.forall_mem_cons]
        exact ⟨fun c inside => kept c (List.mem_reverse.mp inside), ih (List.forall_mem_nil _)⟩
    | case4 pending c rest other ends ih =>
        intro kept
        rw [splitlinesAfter, if_pos ends, List.forall_mem_cons]
        · exact ⟨fun c inside => kept c (List.mem_reverse.mp inside), ih (List.forall_mem_nil _)⟩
        · exact other
    | case5 pending c rest other inside ih =>
        intro kept
        rw [splitlinesAfter, if_neg inside]
        · exact ih (List.forall_mem_cons.mpr ⟨by simpa using inside, kept⟩)
        · exact other
  exact parts [] (List.forall_mem_nil _)

/-- A line break closes its line for good. -/
theorem splitlinesAfter_append (plain : '\r' ∉ first) (ends : isLineBreak c = true) (other : c ≠ '\r') :
    splitlinesAfter pending (first ++ c :: second) =
      splitlinesAfter pending (first ++ [c]) ++ splitlinesAfter [] second := by
  induction first generalizing pending with
  | nil =>
      rw [List.nil_append, List.nil_append, splitlinesAfter_cons other, splitlinesAfter_cons other,
        if_pos ends, if_pos ends]
      rfl
  | cons d first ih =>
      rw [List.mem_cons, not_or] at plain
      rw [List.cons_append, List.cons_append, splitlinesAfter_cons (Ne.symm plain.1),
        splitlinesAfter_cons (Ne.symm plain.1), ih plain.2, ih plain.2]
      split
      · rfl
      · rfl

theorem splitlinesAfter_lone (alone : text.head? ≠ some '\n') :
    splitlinesAfter pending ('\r' :: text) = pending.reverse :: splitlinesAfter [] text := by
  have ends : isLineBreak '\r' = true := by decide
  rw [splitlinesAfter]
  · exact if_pos ends
  · rintro rest _ rfl
    exact alone rfl

/-- Two newlines end every line before them, and leave blank lines. -/
theorem splitlinesAfter_blank (pending first second : Str) : ∃ n,
    splitlinesAfter pending (first ++ '\n' :: '\n' :: second) =
      splitlinesAfter pending first ++ List.replicate (n + 1) [] ++ splitlines second := by
  have newline : ∀ pending text, splitlinesAfter pending ('\n' :: text) = pending.reverse :: splitlinesAfter [] text :=
    fun _ _ => splitlinesAfter_cons (by decide)
  induction pending, first using splitlinesAfter.induct with
  | case1 => exact ⟨1, rfl⟩
  | case2 pending nonempty =>
      refine ⟨0, ?_⟩
      rw [List.nil_append, newline, newline, splitlinesAfter, if_neg nonempty]
      rfl
  | case3 pending rest ih =>
      obtain ⟨n, split⟩ := ih
      exact ⟨n, congrArg (pending.reverse :: ·) split⟩
  | case4 pending c rest notPair ends ih =>
      obtain ⟨n, split⟩ := ih
      by_cases carriage : c = '\r'
      · subst carriage
        cases rest with
        | nil => exact ⟨0, rfl⟩
        | cons d rest =>
            have alone : d ≠ '\n' := fun same => notPair rest rfl (congrArg (· :: rest) same)
            refine ⟨n, ?_⟩
            rw [List.cons_append, splitlinesAfter_lone (by simpa using alone), splitlinesAfter_lone (by simpa using alone),
              split]
            rfl
      · refine ⟨n, ?_⟩
        rw [List.cons_append, splitlinesAfter_cons carriage, splitlinesAfter_cons carriage, if_pos ends, if_pos ends, split]
        rfl
  | case5 pending c rest notPair kept ih =>
      obtain ⟨n, split⟩ := ih
      have notBreak : isLineBreak c = false := by simpa using kept
      refine ⟨n, ?_⟩
      rw [List.cons_append, splitlinesAfter_cons (ne_carriage notBreak), splitlinesAfter_cons (ne_carriage notBreak),
        if_neg kept, if_neg kept, split]

theorem splitlines_append_blank (first second : Str) : ∃ n,
    splitlines (first ++ '\n' :: '\n' :: second) =
      splitlines first ++ List.replicate (n + 1) [] ++ splitlines second :=
  splitlinesAfter_blank [] first second

theorem closedLines_append_lastLine (text : Str) : closedLines text ++ lastLine text = text :=
  List.rdropWhile_append_rtakeWhile

theorem closedLines_ends (text : Str) :
    closedLines text = [] ∨ ∃ front c, closedLines text = front ++ [c] ∧ isLineBreak c = true := by
  induction text using List.reverseRecOn with
  | nil => exact .inl rfl
  | append_singleton text c ih =>
      by_cases ends : isLineBreak c = true
      · refine .inr ⟨text, c, ?_, ends⟩
        exact List.rdropWhile_concat_neg _ _ _ (by simp [ends])
      · have dropped : closedLines (text ++ [c]) = closedLines text :=
          List.rdropWhile_concat_pos _ _ _ (by simp [ends])
        rw [dropped]
        exact ih

theorem lastLine_kept (text : Str) : ∀ c ∈ lastLine text, isLineBreak c = false := by
  intro c member
  have kept := List.mem_rtakeWhile_imp member
  simpa using kept

/-- What has been closed is not touched by what follows. -/
theorem splitlines_closedLines_append (plain : '\r' ∉ text) (more : Str) :
    splitlines (closedLines text ++ more) = splitlines (closedLines text) ++ splitlines more := by
  rcases closedLines_ends text with empty | ⟨front, c, split, ends⟩
  · rw [empty]
    rfl
  · have inText : ∀ d ∈ front ++ [c], d ≠ '\r' := by
      intro d member same
      apply plain
      rw [← closedLines_append_lastLine text, split, List.mem_append]
      exact .inl (same ▸ member)
    have frontPlain : '\r' ∉ front := fun member => inText '\r' (by simp [member]) rfl
    rw [split, List.append_assoc]
    exact splitlinesAfter_append frontPlain ends (inText c (by simp))

theorem splitlines_open (kept : ∀ c ∈ text, isLineBreak c = false) :
    splitlines text = if text = [] then [] else [text] :=
  splitlinesAfter_open kept

theorem splitlines_line (kept : ∀ c ∈ text, isLineBreak c = false) :
    splitlines (text ++ ['\n']) = [text] := splitlinesAfter_line kept

def IsNewline (newline : Str) : Prop := newline = "\n" ∨ newline = "\r\n"

def endLines (newline : Str) (lines : List Str) : Str := lines.flatMap (· ++ newline)

theorem splitlinesAfter_endLine {newline : Str} (ends : IsNewline newline) (kept : OneLine first) :
    splitlinesAfter pending (first ++ (newline ++ second)) = (pending.reverse ++ first) :: splitlines second := by
  induction first generalizing pending with
  | nil =>
      rw [List.append_nil]
      rcases ends with rfl | rfl
      · rfl
      · rfl
  | cons c first ih =>
      have notBreak := kept c (by simp)
      rw [List.cons_append, splitlinesAfter_cons (ne_carriage notBreak), notBreak, if_neg Bool.false_ne_true,
        ih fun d member => kept d (by simp [member])]
      simp

theorem splitlines_endLines {newline : Str} {lines : List Str} (ends : IsNewline newline)
    (kept : ∀ line ∈ lines, OneLine line) : splitlines (endLines newline lines) = lines := by
  induction lines with
  | nil => rfl
  | cons line lines ih =>
      rw [List.forall_mem_cons] at kept
      rw [endLines, List.flatMap_cons, List.append_assoc, splitlines, splitlinesAfter_endLine ends kept.1]
      exact congrArg (line :: ·) (ih kept.2)

end Splitting

theorem isSpace_of_isLineBreak {c : Char} (ends : isLineBreak c = true) : isSpace c = true := by
  simp only [isLineBreak, isSpace, Bool.or_eq_true, Bool.and_eq_true, decide_eq_true_eq, beq_iff_eq] at ends ⊢
  omega

theorem oneLine_of_not_isSpace {text : Str} (solid : ∀ c ∈ text, isSpace c = false) : OneLine text := by
  intro c member
  by_contra ends
  have space := isSpace_of_isLineBreak (Bool.eq_true_of_not_eq_false ends)
  rw [solid c member] at space
  cases space

end DongleRescue.Data
