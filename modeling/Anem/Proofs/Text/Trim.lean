import Mathlib.Data.List.DropRight
import Anem.Proofs.Text.Pieces

namespace Anem.Text

/-- One or more blanks. -/
def Gap (t : Text) : Prop := t ≠ [] ∧ t.all isBlank = true

theorem Gap.append {gap more : Text} (spaced : Gap gap) (blank : more.all isBlank = true) :
    Gap (gap ++ more) :=
  ⟨List.append_ne_nil_of_left_ne_nil spaced.1 more, by simp only [List.all_append, spaced.2, blank,
    Bool.and_self]⟩

theorem trimEnd_eq (t : Text) : trimEnd t = t.rdropWhile isBlank := rfl

theorem infix_trim (t : Text) : trim t <:+: t := by
  have front : trim t <+: trimStart t := List.rdropWhile_prefix isBlank _
  exact front.isInfix.trans (List.dropWhile_suffix isBlank).isInfix

theorem head_trim (t : Text) : ∀ c ∈ (trim t).head?, isBlank c = false := by
  intro c hc
  obtain ⟨rest, found⟩ := List.head?_eq_some_iff.mp hc
  obtain ⟨tail, whole⟩ : trim t <+: trimStart t := List.rdropWhile_prefix isBlank _
  -- The first character that is left is the first one that is no blank.
  have start := List.head?_dropWhile_not isBlank t
  rw [trimStart] at whole
  rw [← whole, found] at start
  exact start

theorem last_trim (t : Text) : ∀ c ∈ (trim t).getLast?, isBlank c = false := by
  intro c hc
  obtain ⟨present, rfl⟩ := List.mem_getLast?_eq_getLast hc
  exact Bool.eq_false_iff.mpr (List.rdropWhile_last_not isBlank _ present)

theorem trim_eq_trimEnd {t : Text} (first : ∀ c ∈ t.head?, isBlank c = false) :
    trim t = trimEnd t := by
  cases t with
  | nil => rfl
  | cons c t => rw [trim, trimStart, List.dropWhile_cons_of_neg (by simp [first c rfl])]

/-- A text without a blank at either end is trimmed. -/
theorem trim_of_ends {t : Text} (first : ∀ c ∈ t.head?, isBlank c = false)
    (last : ∀ c ∈ t.getLast?, isBlank c = false) : trim t = t := by
  rw [trim_eq_trimEnd first, trimEnd_eq, List.rdropWhile_eq_self_iff]
  intro present
  simp [last _ (List.getLast_mem_getLast? present)]

theorem trim_trim (t : Text) : trim (trim t) = trim t :=
  trim_of_ends (head_trim t) (last_trim t)

/-- What trimming takes away. -/
theorem exists_pads (t : Text) :
    ∃ before after, before.all isBlank = true ∧ after.all isBlank = true ∧
      t = before ++ trim t ++ after := by
  refine ⟨t.takeWhile isBlank, ((trimStart t).reverse.takeWhile isBlank).reverse, ?_, ?_, ?_⟩
  · exact List.all_takeWhile
  · rw [List.all_reverse]
    exact List.all_takeWhile
  · have back : trim t ++ ((trimStart t).reverse.takeWhile isBlank).reverse = trimStart t := by
      rw [trim, trimEnd, ← List.reverse_append, List.takeWhile_append_dropWhile, List.reverse_reverse]
    rw [List.append_assoc, back, trimStart, List.takeWhile_append_dropWhile]

theorem not_mem_of_blank {gap : Text} (blank : gap.all isBlank = true) {c : Char}
    (visible : isBlank c = false) : c ∉ gap := by
  intro hc
  have own := List.all_eq_true.mp blank c hc
  rw [visible] at own
  cases own

theorem trimEnd_append_blank (t : Text) {gap : Text} (blank : gap.all isBlank = true) :
    trimEnd (t ++ gap) = trimEnd t := by
  have back : ∀ c ∈ gap.reverse, isBlank c = true :=
    fun c hc => List.all_eq_true.mp blank c (List.mem_reverse.mp hc)
  rw [trimEnd, List.reverse_append, List.dropWhile_append_of_pos back, trimEnd]

theorem trim_append_blank (t : Text) {gap : Text} (blank : gap.all isBlank = true) :
    trim (t ++ gap) = trim t := by
  rw [trim, trimStart, List.dropWhile_append]
  split
  · rename_i nothing
    have gone : gap.dropWhile isBlank = [] :=
      List.dropWhile_eq_nil_iff.mpr (List.all_eq_true.mp blank)
    rw [gone, trim, trimStart, List.isEmpty_iff.mp nothing]
  · exact trimEnd_append_blank _ blank

/-- Trimming at the end leaves everything up to a visible character. -/
theorem trimEnd_append_cons {c : Char} (visible : isBlank c = false) (s t : Text) :
    trimEnd (s ++ c :: t) = s ++ c :: trimEnd t := by
  simp only [trimEnd, List.reverse_append, List.reverse_cons, List.append_assoc,
    List.dropWhile_append, List.cons_append, List.nil_append]
  split
  · rename_i blank
    simp [List.isEmpty_iff.mp blank, visible]
  · simp

/-- Blanks around a solid text are all that is trimmed. -/
theorem trim_padded {s : Text} (solid : Solid s) {before after : Text}
    (front : before.all isBlank = true) (back : after.all isBlank = true) :
    trim (before ++ s ++ after) = s := by
  have whole := trimEnd_append_solid [] solid
  rw [List.append_assoc, trim_blank_append before front, trim, trimStart_solid_append solid,
    trimEnd_append_blank s back]
  exact whole

theorem exists_lead {t : Text} (last : ∀ c ∈ t.getLast?, isBlank c = false) :
    ∃ before, before.all isBlank = true ∧ t = before ++ trim t := by
  obtain ⟨before, after, front, back, whole⟩ := exists_pads t
  rcases after.eq_nil_or_concat with rfl | ⟨rest, c, rfl⟩
  · rw [List.append_nil] at whole
    exact ⟨before, front, whole⟩
  · have blank : isBlank c = true := by simpa using List.all_eq_true.mp back c (by simp)
    rw [whole, List.concat_eq_append, ← List.append_assoc, List.getLast?_concat] at last
    exact absurd (last c rfl) (by simp [blank])

theorem exists_tail {t : Text} (first : ∀ c ∈ t.head?, isBlank c = false) :
    ∃ after, after.all isBlank = true ∧ t = trim t ++ after := by
  obtain ⟨before, after, front, back, whole⟩ := exists_pads t
  cases before with
  | nil => exact ⟨after, back, whole⟩
  | cons c before =>
    have blank : isBlank c = true := List.all_eq_true.mp front c List.mem_cons_self
    rw [whole] at first
    exact absurd (first c rfl) (by simp [blank])

/-- The first word goes up to the first blank. -/
theorem ends_cutWord (t : Text) :
    (∀ c ∈ (cutWord t).1, isBlank c = false) ∧ ∀ c ∈ (cutWord t).2.head?, isBlank c = true := by
  constructor
  · intro c hc
    simpa using List.mem_takeWhile_imp hc
  · intro c hc
    have stop := List.head?_dropWhile_not (! isBlank ·) t
    rw [Option.mem_def, cutWord] at hc
    simpa [hc] using stop

/-- A character that is no mark goes to the first piece. -/
theorem splitAt_cons {mark c : Char} (other : c ≠ mark) (t : Text) :
    ∃ piece pieces, splitAt mark t = piece :: pieces ∧
      splitAt mark (c :: t) = (c :: piece) :: pieces := by
  have some_piece : splitAt mark t ≠ [] := by
    cases t with
    | nil => exact List.cons_ne_nil _ _
    | cons d t =>
      simp only [splitAt, List.foldr_cons]
      split
      · exact List.cons_ne_nil _ _
      · split
        · exact List.cons_ne_nil _ _
        · exact List.cons_ne_nil _ _
  obtain ⟨piece, pieces, found⟩ := List.exists_cons_of_ne_nil some_piece
  refine ⟨piece, pieces, found, ?_⟩
  simp only [splitAt] at found
  simp only [splitAt, List.foldr_cons, if_neg other, found]

/-- Blanks in front of the first piece do not matter. -/
theorem map_trim_splitAt {mark : Char} (visible : isBlank mark = false) {gap : Text}
    (blank : gap.all isBlank = true) (t : Text) :
    (splitAt mark (gap ++ t)).map trim = (splitAt mark t).map trim := by
  induction gap with
  | nil => rfl
  | cons c gap ih =>
    obtain ⟨own, rest⟩ := Bool.and_eq_true_iff.mp blank
    have other : c ≠ mark := by
      rintro rfl
      rw [visible] at own
      cases own
    obtain ⟨piece, pieces, found, split⟩ := splitAt_cons other (gap ++ t)
    have same : trim (c :: piece) = trim piece := trim_blank_append [c] (by simp [own]) piece
    rw [← ih rest, List.cons_append, split, found, List.map_cons, List.map_cons, same]

end Anem.Text
