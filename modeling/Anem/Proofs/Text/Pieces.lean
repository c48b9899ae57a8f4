import Anem.Text.Blank
import Anem.Text.Lines

namespace Anem.Text

/-- One or more characters, none of them blank. -/
def Solid (t : Text) : Prop := t ≠ [] ∧ ∀ c ∈ t, isBlank c = false

instance (t : Text) : Decidable (Solid t) :=
  decidable_of_iff (t.isEmpty = false ∧ t.all (! isBlank ·) = true) (by simp [Solid])

theorem Solid.append {s t : Text} (hs : Solid s) (ht : Solid t) : Solid (s ++ t) := by
  refine ⟨by simp [hs.1], ?_⟩
  intro c hc
  rcases List.mem_append.mp hc with h | h
  · exact hs.2 c h
  · exact ht.2 c h

theorem Solid.cons {c : Char} {t : Text} (hc : isBlank c = false) (ht : Solid t) : Solid (c :: t) :=
  Solid.append (s := [c]) ⟨by simp, by simpa using hc⟩ ht

theorem trimStart_solid_append {s : Text} (h : Solid s) (t : Text) :
    trimStart (s ++ t) = s ++ t := by
  obtain ⟨c, s, rfl⟩ := List.exists_cons_of_ne_nil h.1
  have hc := h.2 c List.mem_cons_self
  simp [trimStart, hc]

theorem trimEnd_append_solid (s : Text) {t : Text} (h : Solid t) : trimEnd (s ++ t) = s ++ t := by
  have hr : Solid t.reverse := ⟨by simp [h.1], fun c hc => h.2 c (List.mem_reverse.mp hc)⟩
  have back := trimStart_solid_append hr s.reverse
  simp only [trimStart] at back
  simp [trimEnd, back]

/-- Only the ends of a text decide whether it is trimmed. -/
theorem trim_between {s t : Text} (hs : Solid s) (middle : Text) (ht : Solid t) :
    trim (s ++ middle ++ t) = s ++ middle ++ t := by
  rw [trim, List.append_assoc, trimStart_solid_append hs, ← List.append_assoc,
    trimEnd_append_solid _ ht]

theorem trim_solid {t : Text} (h : Solid t) : trim t = t := by
  have start := trimStart_solid_append h []
  have fin := trimEnd_append_solid [] h
  simp only [List.append_nil, List.nil_append] at start fin
  rw [trim, start, fin]

theorem trim_blank_append (gap : Text) (blank : gap.all isBlank = true) (t : Text) :
    trim (gap ++ t) = trim t := by
  have : trimStart (gap ++ t) = trimStart t :=
    List.dropWhile_append_of_pos (List.all_eq_true.mp blank)
  rw [trim, this, trim]

theorem cutWord_solid {s : Text} (h : Solid s) : cutWord s = (s, []) := by
  have all : ∀ c ∈ s, (! isBlank c) = true := by simpa using h.2
  rw [← List.append_nil s, cutWord, List.takeWhile_append_of_pos all,
    List.dropWhile_append_of_pos all]
  rfl

theorem cutWord_solid_append {s : Text} (h : Solid s) {c : Char} (blank : isBlank c = true)
    (t : Text) : cutWord (s ++ c :: t) = (s, c :: t) := by
  have all : ∀ c ∈ s, (! isBlank c) = true := by simpa using h.2
  rw [cutWord, List.takeWhile_append_of_pos all, List.dropWhile_append_of_pos all]
  simp [blank]

/-! Pieces between marks -/

theorem splitAt_of_not_mem {mark : Char} {t : Text} (h : mark ∉ t) : splitAt mark t = [t] := by
  induction t with
  | nil => rfl
  | cons c t ih =>
    obtain ⟨hc, ht⟩ : mark ≠ c ∧ mark ∉ t := by simpa using h
    have rest := ih ht
    simp only [splitAt] at rest
    simp [splitAt, rest, Ne.symm hc]

theorem splitAt_append {mark : Char} {s : Text} (h : mark ∉ s) (t : Text) :
    splitAt mark (s ++ mark :: t) = s :: splitAt mark t := by
  induction s with
  | nil => simp [splitAt]
  | cons c s ih =>
    obtain ⟨hc, hs⟩ : mark ≠ c ∧ mark ∉ s := by simpa using h
    have rest := ih hs
    simp only [splitAt] at rest
    simp only [splitAt, List.cons_append, List.foldr_cons, rest, if_neg (Ne.symm hc)]

/-! Lines -/

theorem cutLines_append {line : Text} (h : '\n' ∉ line) (t : Text) :
    cutLines (line ++ '\n' :: t) = (line :: (cutLines t).1, (cutLines t).2) := by
  induction line with
  | nil => simp [cutLines]
  | cons c line ih =>
    obtain ⟨hc, hl⟩ : '\n' ≠ c ∧ '\n' ∉ line := by simpa using h
    have rest := ih hl
    simp only [cutLines] at rest
    simp only [cutLines, List.cons_append, List.foldr_cons, rest, if_neg (Ne.symm hc)]

theorem cutLines_unlines {ls : List Text} (h : ∀ l ∈ ls, '\n' ∉ l) :
    cutLines (unlines ls) = (ls, []) := by
  induction ls with
  | nil => rfl
  | cons l ls ih =>
    have rest := ih fun m hm => h m (List.mem_cons_of_mem _ hm)
    have first := cutLines_append (h l List.mem_cons_self) (unlines ls)
    rw [rest] at first
    simpa [unlines] using first

theorem map_dropCarriageReturn {ls : List Text} (ret : ∀ l ∈ ls, l.getLast? ≠ some '\r') :
    ls.map dropCarriageReturn = ls := by
  apply List.map_congr_left (g := id) ?_ |>.trans (List.map_id ls)
  intro l hl
  rw [dropCarriageReturn, if_neg (ret l hl), id]

/-- Lines come back, unless a line feed or a final carriage return breaks one. -/
theorem lines_unlines {ls : List Text} (feed : ∀ l ∈ ls, '\n' ∉ l)
    (ret : ∀ l ∈ ls, l.getLast? ≠ some '\r') : lines (unlines ls) = ls := by
  simp [lines, cutLines_unlines feed, map_dropCarriageReturn ret]

theorem cutLines_of_not_mem {t : Text} (h : '\n' ∉ t) : cutLines t = ([], t) := by
  induction t with
  | nil => rfl
  | cons c t ih =>
    obtain ⟨hc, ht⟩ : '\n' ≠ c ∧ '\n' ∉ t := by simpa using h
    have rest := ih ht
    simp only [cutLines] at rest
    simp only [cutLines, List.foldr_cons, rest, if_neg (Ne.symm hc)]

theorem cutLines_intercalate {ls : List Text} {last : Text} (h : ∀ l ∈ ls ++ [last], '\n' ∉ l) :
    cutLines (['\n'].intercalate (ls ++ [last])) = (ls, last) := by
  induction ls with
  | nil =>
    have whole : ['\n'].intercalate [last] = last := by simp [List.intercalate]
    rw [List.nil_append, whole]
    exact cutLines_of_not_mem (h last List.mem_cons_self)
  | cons l ls ih =>
    have rest := ih fun m hm => h m (List.mem_cons_of_mem _ hm)
    obtain ⟨m, ms, more⟩ := List.exists_cons_of_ne_nil (List.append_ne_nil_of_right_ne_nil ls
      (List.cons_ne_nil last []))
    rw [more] at rest
    have step : ['\n'].intercalate (l :: m :: ms) = l ++ '\n' :: ['\n'].intercalate (m :: ms) := by
      simp [List.intercalate]
    rw [List.cons_append, more, step, cutLines_append (h l List.mem_cons_self), rest]

/-- Lines with a line feed between them come back, if none of them is empty. -/
theorem lines_intercalate {ls : List Text} (feed : ∀ l ∈ ls, '\n' ∉ l)
    (ret : ∀ l ∈ ls, l.getLast? ≠ some '\r') (present : ∀ l ∈ ls, l ≠ []) :
    lines (['\n'].intercalate ls) = ls := by
  rcases ls.eq_nil_or_concat with rfl | ⟨front, last, rfl⟩
  · rfl
  · rw [List.concat_eq_append] at feed ret present ⊢
    have whole := map_dropCarriageReturn fun l hl => ret l (List.mem_append_left [last] hl)
    have final : last.isEmpty = false := by simpa using present last (by simp)
    simp only [lines, cutLines_intercalate feed, whole, final, Bool.false_eq_true, if_false]

theorem feed_of_mem_cutLines (t : Text) :
    (∀ l ∈ (cutLines t).1, '\n' ∉ l) ∧ '\n' ∉ (cutLines t).2 := by
  induction t with
  | nil => simp [cutLines]
  | cons c t ih =>
    simp only [cutLines] at ih
    simp only [cutLines, List.foldr_cons]
    split
    · simpa using ih
    · rename_i other
      split
      · rename_i none
        rw [none] at ih
        simpa [Ne.symm other] using ih
      · rename_i line others more
        rw [more] at ih
        simpa [Ne.symm other] using ih

/-- No line holds a line feed. -/
theorem feed_of_mem_lines {t l : Text} (h : l ∈ lines t) : '\n' ∉ l := by
  obtain ⟨ended, last⟩ := feed_of_mem_cutLines t
  rcases List.mem_append.mp h with h | h
  · obtain ⟨line, given, rfl⟩ := List.mem_map.mp h
    rw [dropCarriageReturn]
    split
    · exact fun hc => ended line given (List.dropLast_subset line hc)
    · exact ended line given
  · split at h
    · cases h
    · rw [List.mem_singleton.mp h]
      exact last

end Anem.Text
