import Mathlib.Data.List.Chain
import Anem.Proofs.Text.Trim
import Anem.Proofs.Text.UpperCase
import Anem.Statement

/-!
Cleaning a line once is enough. What is left is tidy, which every part of it
is again, and has no blank at either end; and cleaning leaves such a text as it
is. So a statement that is printed tidily is read as the same statement again,
if its first word stands for itself.
-/
namespace Anem

open Text

namespace Statement

/-- Upper-case text of one line that holds no comment. -/
structure Tidy (t : Text) : Prop where
  raised : ∀ c ∈ t, upperChar c = [c]
  feed : '\n' ∉ t
  dashes : t.IsChain fun c d => ¬ (c = '-' ∧ d = '-')

theorem Tidy.part {s t : Text} (tidy : Tidy t) (h : s <:+: t) : Tidy s where
  raised := fun c hc => tidy.raised c (h.subset hc)
  feed := fun hc => tidy.feed (h.subset hc)
  dashes := tidy.dashes.infix h

theorem Tidy.append {s t : Text} (front : Tidy s) (back : Tidy t)
    (noDash : s.getLast? ≠ some '-') : Tidy (s ++ t) where
  raised := by
    intro c hc
    rcases List.mem_append.mp hc with hc | hc
    · exact front.raised c hc
    · exact back.raised c hc
  feed := by
    rw [List.mem_append, not_or]
    exact ⟨front.feed, back.feed⟩
  dashes := by
    refine List.isChain_append.mpr ⟨front.dashes, back.dashes, ?_⟩
    rintro c hc d - ⟨rfl, -⟩
    exact noDash hc

/-- Without dashes nothing is a comment. -/
theorem tidy_of_no_dash {t : Text} (raised : ∀ c ∈ t, upperChar c = [c]) (feed : '\n' ∉ t)
    (noDash : '-' ∉ t) : Tidy t where
  raised := raised
  feed := feed
  dashes := by
    rw [List.isChain_iff_forall_rel_of_append_cons_cons]
    rintro c d front back rfl ⟨rfl, -⟩
    simp at noDash

theorem dashes_of_count {t : Text} (few : t.count '-' ≤ 1) :
    t.IsChain fun c d => ¬ (c = '-' ∧ d = '-') := by
  rw [List.isChain_iff_forall_rel_of_append_cons_cons]
  rintro c d front back rfl ⟨rfl, rfl⟩
  rw [List.count_append, List.count_cons_self, List.count_cons_self] at few
  omega

theorem tidy_singleton {c : Char} (raised : upperChar c = [c]) (feed : c ≠ '\n')
    (noDash : c ≠ '-') : Tidy [c] := by
  refine tidy_of_no_dash ?_ ?_ ?_
  · intro d hd
    rw [List.mem_singleton.mp hd]
    exact raised
  · simpa using feed.symm
  · simpa using noDash.symm

theorem prefix_stripComment (t : Text) : stripComment t <+: t := by
  induction t with
  | nil => exact List.prefix_refl _
  | cons c t ih =>
    rw [stripComment]
    split
    · exact List.nil_prefix
    · exact List.cons_prefix_cons.mpr ⟨rfl, ih⟩

/-- A comment is cut where it starts, so that no two dashes are left. -/
theorem dashes_stripComment {t : Text} (feed : '\n' ∉ t) :
    (stripComment t).IsChain fun c d => ¬ (c = '-' ∧ d = '-') := by
  induction t with
  | nil => exact List.IsChain.nil
  | cons c t ih =>
    rw [stripComment]
    split
    · exact List.IsChain.nil
    · rename_i noComment
      have rest := ih fun hc => feed (List.mem_cons_of_mem c hc)
      rw [List.isChain_cons]
      refine ⟨?_, rest⟩
      rintro d hd ⟨rfl, rfl⟩
      -- The next character is the one that followed the dash.
      obtain ⟨rest, found⟩ := List.head?_eq_some_iff.mp hd
      obtain ⟨more, whole⟩ := prefix_stripComment t
      rw [found] at whole
      rw [← whole] at noComment feed
      have comment : startsComment ('-' :: '-' :: (rest ++ more)) = true := by
        simpa [startsComment] using feed
      exact noComment comment

theorem startsComment_of_head {c : Char} {t : Text} (h : ∀ d ∈ t.head?, ¬ (c = '-' ∧ d = '-')) :
    startsComment (c :: t) = false := by
  unfold startsComment
  split
  · rename_i tail dashes
    cases dashes
    exact absurd ⟨rfl, rfl⟩ (h '-' rfl)
  · rfl

/-- A text without a comment keeps all of it. -/
theorem stripComment_of_dashes {t : Text} (h : t.IsChain fun c d => ¬ (c = '-' ∧ d = '-')) :
    stripComment t = t := by
  induction t with
  | nil => rfl
  | cons c t ih =>
    rw [stripComment, startsComment_of_head (List.isChain_cons.mp h).1, ih h.tail]
    rfl

theorem stripComment_append {s rest : Text}
    (h : (s ++ ['-']).IsChain fun c d => ¬ (c = '-' ∧ d = '-')) (feed : '\n' ∉ rest) :
    stripComment (s ++ '-' :: '-' :: rest) = s := by
  induction s with
  | nil =>
    have comment : startsComment ('-' :: '-' :: rest) = true := by
      simpa [startsComment] using feed
    rw [List.nil_append, stripComment, comment]
    rfl
  | cons c s ih =>
    rw [List.cons_append, List.isChain_cons] at h
    have next : (s ++ '-' :: '-' :: rest).head? = (s ++ ['-']).head? := by
      cases s with
      | nil => rfl
      | cons d s => rfl
    rw [List.cons_append, stripComment, startsComment_of_head (next ▸ h.1), ih h.2]
    rfl

/-- A text holds no two dashes in a row, or a first pair of them. -/
theorem exists_comment (t : Text) :
    (t.IsChain fun c d => ¬ (c = '-' ∧ d = '-')) ∨ ∃ said rest, t = said ++ '-' :: '-' :: rest ∧
      (said ++ ['-']).IsChain fun c d => ¬ (c = '-' ∧ d = '-') := by
  induction t with
  | nil => exact Or.inl .nil
  | cons c t ih =>
    by_cases pair : c = '-' ∧ t.head? = some '-'
    · obtain ⟨rfl, next⟩ := pair
      obtain ⟨rest, rfl⟩ := List.head?_eq_some_iff.mp next
      exact Or.inr ⟨[], rest, rfl, .singleton _⟩
    · have apart : ∀ d ∈ t.head?, ¬ (c = '-' ∧ d = '-') := by
        rintro d hd ⟨rfl, rfl⟩
        exact pair ⟨rfl, hd⟩
      rcases ih with chain | ⟨said, rest, rfl, chain⟩
      · exact Or.inl (List.isChain_cons.mpr ⟨apart, chain⟩)
      · refine Or.inr ⟨c :: said, rest, rfl, List.isChain_cons.mpr ⟨?_, chain⟩⟩
        cases said with
        | nil => exact apart
        | cons d said => exact apart

/-- Blanks in front are no part of a comment. -/
theorem stripComment_blank_append {gap : Text} (blank : gap.all isBlank = true) (t : Text) :
    stripComment (gap ++ t) = gap ++ stripComment t := by
  induction gap with
  | nil => rfl
  | cons c gap ih =>
    obtain ⟨own, rest⟩ := Bool.and_eq_true_iff.mp blank
    have visible : startsComment (c :: (gap ++ t)) = false := by
      apply startsComment_of_head
      rintro d - ⟨rfl, -⟩
      cases own
    rw [List.cons_append, stripComment, visible, ih rest]
    rfl

/-- A comment goes, and the text before it stays, with blanks between them. A
dash right before the comment would belong to it. -/
theorem stripComment_padded {t after tail : Text}
    (chain : t.IsChain fun c d => ¬ (c = '-' ∧ d = '-')) (blank : after.all isBlank = true)
    (ending : tail = [] ∨ (t ++ after).getLast? ≠ some '-' ∧
      ∃ rest, tail = '-' :: '-' :: rest ∧ '\n' ∉ rest) :
    stripComment (t ++ (after ++ tail)) = t ++ after := by
  have noDash : '-' ∉ after := not_mem_of_blank blank (by decide)
  have whole : (t ++ after).IsChain fun c d => ¬ (c = '-' ∧ d = '-') := by
    refine List.isChain_append.mpr ⟨chain, dashes_of_count ?_, ?_⟩
    · rw [List.count_eq_zero.mpr noDash]
      exact Nat.zero_le 1
    · rintro c - d hd ⟨-, rfl⟩
      exact noDash (List.mem_of_mem_head? hd)
  rcases ending with rfl | ⟨apart, rest, rfl, feed⟩
  · rw [List.append_nil, stripComment_of_dashes whole]
  · rw [← List.append_assoc]
    refine stripComment_append (List.isChain_append.mpr ⟨whole, .singleton _, ?_⟩) feed
    rintro c hc d - ⟨rfl, -⟩
    exact apart hc

/-- Blanks around a text, and a comment behind them, do not matter in the end. -/
theorem stripped_padded {t before after tail : Text} (feed : '\n' ∉ t ++ (after ++ tail))
    (front : before.all isBlank = true) (back : after.all isBlank = true)
    (ending : tail = [] ∨ (t ++ after).getLast? ≠ some '-' ∧ ∃ rest, tail = '-' :: '-' :: rest) :
    trim (stripComment (before ++ (t ++ (after ++ tail)))) = trim (stripComment t) := by
  rw [stripComment_blank_append front, trim_blank_append before front]
  rcases exists_comment t with chain | ⟨said, rest, rfl, chain⟩
  · have comment : tail = [] ∨ (t ++ after).getLast? ≠ some '-' ∧
        ∃ rest, tail = '-' :: '-' :: rest ∧ '\n' ∉ rest := by
      refine ending.imp_right (And.imp_right ?_)
      rintro ⟨rest, rfl⟩
      exact ⟨rest, rfl, fun hc => feed (by simp [hc])⟩
    rw [stripComment_padded chain back comment, stripComment_of_dashes chain,
      trim_append_blank t back]
  · -- The text has a comment of its own, which takes everything that follows.
    have own : '\n' ∉ rest := fun hc => feed (by simp [hc])
    have more : '\n' ∉ rest ++ (after ++ tail) := by
      rw [List.append_assoc] at feed
      exact fun hc =>
        feed (List.mem_append_right said (List.mem_cons_of_mem _ (List.mem_cons_of_mem _ hc)))
    rw [stripComment_append chain own, List.append_assoc, List.cons_append, List.cons_append,
      stripComment_append chain more]

/-- On one line the blanks may stay until the comment is gone. -/
theorem clean_eq {t : Text} (feed : '\n' ∉ t) : clean t = trim (stripComment (upper t)) := by
  obtain ⟨before, after, front, back, whole⟩ := exists_pads (upper t)
  have oneLine : '\n' ∉ trim (upper t) ++ (after ++ []) := by
    rw [List.append_nil]
    intro hc
    apply feed
    apply feed_of_mem_upper
    rw [whole, List.append_assoc]
    exact List.mem_append_right before hc
  have same := stripped_padded oneLine front back (Or.inl rfl)
  rw [List.append_nil, ← List.append_assoc, ← whole] at same
  rw [clean, same]

theorem clean_of_tidy {t : Text} (tidy : Tidy t) (trimmed : trim t = t) : clean t = t := by
  rw [clean, upper_of_fixed tidy.raised, trimmed, stripComment_of_dashes tidy.dashes, trimmed]

theorem trim_clean (t : Text) : trim (clean t) = clean t :=
  trim_trim _

/-- What is left of a line is tidy. -/
theorem tidy_clean {t : Text} (feed : '\n' ∉ t) : Tidy (clean t) := by
  have raised : ∀ c ∈ trim (upper t), upperChar c = [c] :=
    fun c hc => upperChar_of_mem_upper ((infix_trim _).subset hc)
  have oneLine : '\n' ∉ trim (upper t) :=
    fun hc => feed (feed_of_mem_upper ((infix_trim _).subset hc))
  have stripped : Tidy (stripComment (trim (upper t))) :=
    ⟨fun c hc => raised c ((prefix_stripComment _).subset hc),
      fun hc => oneLine ((prefix_stripComment _).subset hc), dashes_stripComment oneLine⟩
  exact stripped.part (infix_trim _)

/-- A first word that stands for itself. -/
structure Plain (word : Text) : Prop where
  noPseudo : Pseudo.Kind.ofName? word = none
  noNop : word ≠ "NOP".toList
  noMadd : word ≠ "MADD".toList

/-- A statement whose printed line has nothing to clean or to expand, and falls
apart into its label and its text. -/
structure Settled (s : Statement) : Prop where
  tidy : Tidy s.print
  trimmed : trim s.print = s.print
  present : s.print ≠ []
  split : splitLabel s.print = (s.label, s.text)
  plain : Plain (firstWord s.text)

/-- The printed line of a settled statement is that statement. -/
theorem ofLine_print {s : Statement} (settled : Settled s) (n : Nat) :
    ofLine ⟨n, s.print⟩ = .silent [⟨n, s.label, s.text⟩] := by
  have cleaned := clean_of_tidy settled.tidy settled.trimmed
  have some : s.print.isEmpty = false := by simpa using settled.present
  simp only [ofLine, cleaned, some, settled.split, settled.plain.noPseudo, settled.plain.noNop,
    settled.plain.noMadd, if_false, Bool.false_eq_true]

end Statement

end Anem
