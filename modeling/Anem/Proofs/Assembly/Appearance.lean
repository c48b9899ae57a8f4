import Anem.Assembly
import Anem.Proofs.Statement.Clean

namespace Anem

open Text

namespace Statement

/-- Blanks on one line. -/
structure Gap (t : Text) : Prop where
  blank : t.all isBlank = true
  feed : '\n' ∉ t

/-- Another way to write a line: the same text in any letter case, blanks on
either side, and perhaps a comment, which a space sets apart. -/
inductive Restyled (l : Text) : Text → Prop where
  | bare {before same after : Text} (letters : upper same = upper l) (front : Gap before)
    (back : Gap after) : Restyled l (before ++ (same ++ after))
  | remarked {before same after comment : Text} (letters : upper same = upper l)
    (front : Gap before) (back : Gap after) (feed : '\n' ∉ comment) :
    Restyled l (before ++ (same ++ (after ++ " --".toList ++ comment)))

section Restyled

variable {l m : Text} (oneLine : '\n' ∉ l)

include oneLine

theorem feed_of_letters {same : Text} (letters : upper same = upper l) : '\n' ∉ same := by
  intro hc
  have raised : '\n' ∈ upper same := List.mem_flatMap.mpr ⟨'\n', hc, by decide⟩
  rw [letters] at raised
  exact oneLine (feed_of_mem_upper raised)

theorem Restyled.feed (restyled : Restyled l m) : '\n' ∉ m := by
  cases restyled with
  | bare letters front back =>
    simp only [List.mem_append, not_or]
    exact ⟨front.feed, feed_of_letters oneLine letters, back.feed⟩
  | remarked letters front back rest =>
    simp only [List.mem_append, not_or]
    exact ⟨front.feed, feed_of_letters oneLine letters, ⟨back.feed, by decide⟩, rest⟩

/-- However a line is written, the same is left of it. -/
theorem Restyled.clean (restyled : Restyled l m) : clean m = clean l := by
  have line : '\n' ∉ upper l := fun hc => oneLine (feed_of_mem_upper hc)
  rw [clean_eq (restyled.feed oneLine), clean_eq oneLine]
  cases restyled with
  | @bare before same after letters front back =>
    have feed : '\n' ∉ upper l ++ (after ++ []) := by simpa using ⟨line, back.feed⟩
    have padded := stripped_padded feed front.blank back.blank (Or.inl rfl)
    rw [List.append_nil] at padded
    rw [upper_append, upper_append, upper_of_blank front.blank, upper_of_blank back.blank, letters,
      padded]
  | @remarked before same after comment letters front back rest =>
    -- The space before the comment is the last of the blanks.
    have space : (after ++ [' ']).all isBlank = true := by
      rw [List.all_append, back.blank]
      decide
    have said : '\n' ∉ upper comment := fun hc => rest (feed_of_mem_upper hc)
    have feed : '\n' ∉ upper l ++ (after ++ [' '] ++ '-' :: '-' :: upper comment) := by
      simpa using ⟨line, back.feed, said⟩
    have padded := stripped_padded feed front.blank space (Or.inr ⟨by simp, _, rfl⟩)
    have tail : upper (after ++ " --".toList ++ comment) =
        after ++ [' '] ++ '-' :: '-' :: upper comment := by
      have mark : upper " --".toList = " --".toList := by decide
      rw [upper_append, upper_append, upper_of_blank back.blank, mark]
      simp
    rw [upper_append, upper_append, upper_of_blank front.blank, letters, tail, padded]

end Restyled

theorem clean_dropCarriageReturn {l : Text} (oneLine : '\n' ∉ l) :
    clean (dropCarriageReturn l) = clean l := by
  rw [dropCarriageReturn]
  split
  · rename_i ret
    have whole : l = [] ++ (l.dropLast ++ ['\r']) := by
      rw [List.nil_append, List.dropLast_append_getLast? '\r' ret]
    have restyled : Restyled l.dropLast l := by
      rw [whole]
      exact .bare (by simp) ⟨rfl, by decide⟩ ⟨by decide, by decide⟩
    exact (restyled.clean fun hc => oneLine (List.dropLast_subset l hc)).symm
  · rfl

/-- All that is read of a line is its number and its clean text. -/
theorem ofLine_congr {s t : Text} (same : clean s = clean t) (n : Nat) :
    ofLine ⟨n, s⟩ = ofLine ⟨n, t⟩ := by
  simp only [ofLine, same]

/-- Lines with the numbers from `n + 1` on. -/
def numbered (n : Nat) (ls : List Text) : List SourceLine :=
  (ls.zipIdx n).map fun p => ⟨p.2 + 1, p.1⟩

theorem map_ofLine_congr {ls ms : List Text}
    (same : List.Forall₂ (fun l m => clean l = clean m) ls ms) (n : Nat) :
    (numbered n ls).map ofLine = (numbered n ms).map ofLine := by
  induction same generalizing n with
  | nil => rfl
  | cons first _ ih =>
    have rest := ih (n + 1)
    simp only [numbered] at rest
    simp only [numbered, List.zipIdx_cons, List.map_cons, rest, ofLine_congr first]

/-- Line by line the same clean texts are the same statements, with the same events. -/
theorem ofLines_congr {ls ms : List Text}
    (same : List.Forall₂ (fun l m => clean l = clean m) ls ms) :
    ofLines (numbered 0 ls) = ofLines (numbered 0 ms) := by
  rw [ofLines, ofLines, Traced.flatMap, Traced.flatMap, map_ofLine_congr same]

theorem ofLines_concat_nil (ls : List Text) :
    ofLines (numbered 0 (ls ++ [[]])) = ofLines (numbered 0 ls) := by
  have blank (n : Nat) : ofLine ⟨n, []⟩ = .silent [] := rfl
  simp [ofLines, Traced.flatMap, numbered, List.zipIdx_append, blank, Traced.silent]

/-- A source is read as the lines that it is put together from. -/
theorem ofLines_intercalate {ls : List Text} (oneLine : ∀ l ∈ ls, '\n' ∉ l) :
    ofLines (SourceLine.ofSource (['\n'].intercalate ls)) = ofLines (numbered 0 ls) := by
  have source (t : Text) : SourceLine.ofSource t = numbered 0 (lines t) := rfl
  rw [source]
  rcases ls.eq_nil_or_concat with rfl | ⟨front, last, rfl⟩
  · rfl
  · rw [List.concat_eq_append] at oneLine ⊢
    have ends :
        List.Forall₂ (fun l m => clean l = clean m) (front.map dropCarriageReturn) front := by
      rw [List.forall₂_map_left_iff, List.forall₂_same]
      exact fun l hl => clean_dropCarriageReturn (oneLine l (List.mem_append_left _ hl))
    rw [lines, cutLines_intercalate oneLine]
    by_cases empty : last = []
    · subst empty
      rw [ofLines_concat_nil, ← ofLines_congr ends]
      simp
    · rw [if_neg (by simpa using empty)]
      exact ofLines_congr (List.rel_append ends (.cons rfl .nil))

theorem forall₂_clean {ls ms : List Text} (oneLine : ∀ l ∈ ls, '\n' ∉ l)
    (restyled : List.Forall₂ Restyled ls ms) :
    (∀ m ∈ ms, '\n' ∉ m) ∧ List.Forall₂ (fun l m => clean l = clean m) ls ms := by
  induction restyled with
  | nil => exact ⟨by simp, .nil⟩
  | cons first _ ih =>
    obtain ⟨own, others⟩ := List.forall_mem_cons.mp oneLine
    obtain ⟨feeds, rest⟩ := ih others
    exact ⟨List.forall_mem_cons.mpr ⟨first.feed own, feeds⟩, .cons (first.clean own).symm rest⟩

end Statement

namespace Assembly

/-- **Letter case, spacing and comments do not matter.** A source is put together
from its lines, a final line feed being an empty last line. If each line is
written in another way, every journal comes to the same end: the same assembly
or the same abort, and the same records. -/
theorem appearance_irrelevant {ls ms : List Text} (oneLine : ∀ l ∈ ls, '\n' ∉ l)
    (restyled : List.Forall₂ Statement.Restyled ls ms) (j : Journal) :
    assemble (['\n'].intercalate ms) j = assemble (['\n'].intercalate ls) j := by
  obtain ⟨others, same⟩ := Statement.forall₂_clean oneLine restyled
  have read : Statement.ofLines (SourceLine.ofSource (['\n'].intercalate ms)) =
      Statement.ofLines (SourceLine.ofSource (['\n'].intercalate ls)) := by
    rw [Statement.ofLines_intercalate others, Statement.ofLines_intercalate oneLine,
      Statement.ofLines_congr same]
  rw [assemble, assemble, read]

/-- A letter that unfolds in upper case, a line that ends in a dash, one with a
comment already, and a final line feed. -/
def spoken : List Text :=
  ["Straße:\tHab\r".toList, "j %STRASSE% -".toList, "add $1, $2 -- one -- two".toList, []]

def shouted : List Text :=
  ["\u3000".toList ++ ("sTRASSE:\tHAB\r".toList ++ ([] ++ " --".toList ++ "- note".toList)),
   [] ++ ("J %straße% -".toList ++ ([] ++ " --".toList ++ "-".toList)),
   " ".toList ++ ("ADD $1, $2 -- ONE -- TWO".toList ++ "\t".toList),
   [] ++ ([] ++ ("\u2003".toList ++ " --".toList ++ " end".toList))]

theorem appearance_irrelevant_shouted :
    (∀ l ∈ spoken, '\n' ∉ l) ∧ List.Forall₂ Statement.Restyled spoken shouted ∧
      ∀ j, assemble (['\n'].intercalate shouted) j = assemble (['\n'].intercalate spoken) j := by
  have oneLine : ∀ l ∈ spoken, '\n' ∉ l := by decide
  have restyled : List.Forall₂ Statement.Restyled spoken shouted :=
    .cons (.remarked (by decide +kernel) ⟨by decide, by decide⟩ ⟨by decide, by decide⟩ (by decide))
      (.cons (.remarked (by decide +kernel) ⟨by decide, by decide⟩ ⟨by decide, by decide⟩
          (by decide))
        (.cons (.bare (by decide +kernel) ⟨by decide, by decide⟩ ⟨by decide, by decide⟩)
          (.cons (.remarked rfl ⟨by decide, by decide⟩ ⟨by decide, by decide⟩ (by decide)) .nil)))
  exact ⟨oneLine, restyled, appearance_irrelevant oneLine restyled⟩

end Assembly

end Anem
