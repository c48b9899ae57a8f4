import Anem.Text.Blank
import Anem.Text.Digit
import Anem.Text.UpperCase

/-!
Upper case is settled once it is made: every character of an upper-case form is
its own upper-case form, and none is a line feed. For this the letters that
change are compared with the letters that they change to, as sets of code
points.
-/
namespace Anem

/-- A set of numbers, one bit for each. -/
def bitSet (ns : List Nat) : Nat :=
  ns.foldr (fun n set => set ||| 1 <<< n) 0

theorem testBit_bitSet {ns : List Nat} {n : Nat} : (bitSet ns).testBit n = true ↔ n ∈ ns := by
  induction ns with
  | nil => simp [bitSet]
  | cons m ns ih =>
    rw [bitSet] at ih
    rw [bitSet, List.foldr_cons, Nat.testBit_or, Bool.or_eq_true, ih, Nat.one_shiftLeft,
      Nat.testBit_two_pow, decide_eq_true_iff, List.mem_cons, or_comm, eq_comm]

/-- Sets without a common bit have no common member. -/
theorem not_mem_of_bitSet {ms ns : List Nat} (apart : bitSet ms &&& bitSet ns = 0) {n : Nat}
    (h : n ∈ ms) : n ∉ ns := by
  intro other
  have both : (bitSet ms &&& bitSet ns).testBit n = true := by
    rw [Nat.testBit_and, testBit_bitSet.mpr h, testBit_bitSet.mpr other, Bool.and_self]
  rw [apart, Nat.zero_testBit] at both
  cases both

namespace CharSet

def members (set : CharSet) : List Nat :=
  set.flatMap fun range => List.range' range.1 (range.2 + 1 - range.1)

theorem mem_members {set : CharSet} {c : Char} :
    c.toNat ∈ set.members ↔ set.contains c = true := by
  rw [members, List.mem_flatMap, contains_iff]
  apply exists_congr
  intro range
  rw [List.mem_range'_1]
  constructor
  · rintro ⟨given, low, high⟩
    exact ⟨given, low, by omega⟩
  · rintro ⟨given, low, high⟩
    exact ⟨given, low, by omega⟩

end CharSet

namespace Text

def CaseRun.letters (run : CaseRun) : List Nat :=
  List.range' run.first ((run.last - run.first) / run.step + 1) run.step

theorem CaseRun.mem_letters {run : CaseRun} {n : Nat} (h : run.covers n = true) :
    n ∈ run.letters := by
  simp only [covers, Bool.and_eq_true, decide_eq_true_eq, beq_iff_eq] at h
  obtain ⟨⟨low, high⟩, whole⟩ := h
  refine List.mem_range'.mpr ⟨(n - run.first) / run.step, ?_, ?_⟩
  · have bound : (n - run.first) / run.step ≤ (run.last - run.first) / run.step :=
      Nat.div_le_div_right (by omega)
    omega
  · have back := Nat.div_add_mod (n - run.first) run.step
    omega

/-- The code points of the letters that are not in upper case. -/
def lowerLetters : List Nat :=
  List.range' 0x61 26 ++ (caseSequences.map Prod.fst ++ caseRuns.flatMap CaseRun.letters)

/-- The letters that letters beyond the basic alphabet change to. -/
def upperLetters : List Char :=
  caseSequences.flatMap (fun entry => entry.2.map Char.ofNat) ++
    caseRuns.flatMap fun run => run.letters.map run.move

theorem upperChar_of_not_lower {c : Char} (h : c.toNat ∉ lowerLetters) : upperChar c = [c] := by
  simp only [lowerLetters, List.mem_append, not_or] at h
  obtain ⟨basic, noSequence, noRun⟩ := h
  rw [upperChar]
  split
  · have same : c.toUpper = c := by
      apply dif_neg
      rintro ⟨low, high⟩
      have least : 97 ≤ c.toNat := low
      have most : c.toNat ≤ 122 := high
      exact basic (List.mem_range'_1.mpr ⟨least, by omega⟩)
    rw [same]
  · have first : caseSequences.find? (·.1 == c.toNat) = none := by
      rw [List.find?_eq_none]
      intro entry given same
      exact noSequence (List.mem_map.mpr ⟨entry, given, by simpa using same⟩)
    have second : caseRuns.find? (·.covers c.toNat) = none := by
      rw [List.find?_eq_none]
      intro run given covered
      exact noRun (List.mem_flatMap.mpr ⟨run, given, CaseRun.mem_letters covered⟩)
    rw [first, second]

/-- A letter beyond the basic alphabet is kept or changes to upper-case letters. -/
theorem upperChar_cases {c : Char} (beyond : ¬ c.toNat < 0x80) :
    upperChar c = [c] ∨ ∀ d ∈ upperChar c, d ∈ upperLetters := by
  rw [upperChar, if_neg beyond]
  split
  · rename_i letters found
    right
    intro d hd
    exact List.mem_append_left _ (List.mem_flatMap.mpr ⟨_, List.mem_of_find?_eq_some found, hd⟩)
  · split
    · rename_i run found
      right
      intro d hd
      have covered := List.find?_some found
      rw [List.mem_singleton.mp hd]
      exact List.mem_append_right _ (List.mem_flatMap.mpr
        ⟨run, List.mem_of_find?_eq_some found, List.mem_map_of_mem (CaseRun.mem_letters covered)⟩)
    · exact Or.inl rfl

/-- No upper-case letter is a letter that changes, or a line feed. -/
theorem upperLetters_settled {d : Char} (h : d ∈ upperLetters) :
    d.toNat ∉ lowerLetters ∧ d ≠ '\n' := by
  have apart : bitSet (upperLetters.map Char.toNat) &&& bitSet (0x0A :: lowerLetters) = 0 := by
    decide +kernel
  have other := not_mem_of_bitSet apart (List.mem_map_of_mem h)
  rw [List.mem_cons, not_or] at other
  exact ⟨other.2, fun feed => other.1 (congrArg Char.toNat feed)⟩

theorem basic_settled {c : Char} (basic : c.toNat < 0x80) :
    upperChar c.toUpper = [c.toUpper] ∧ (c.toUpper = '\n' → c = '\n') := by
  have all : ∀ n < 0x80, upperChar (Char.ofNat n).toUpper = [(Char.ofNat n).toUpper] ∧
      ((Char.ofNat n).toUpper = '\n' → Char.ofNat n = '\n') := by decide +kernel
  have own := all c.toNat basic
  rw [Char.ofNat_toNat] at own
  exact own

/-- Every character of an upper-case form is its own. -/
theorem upperChar_of_mem {c d : Char} (h : d ∈ upperChar c) : upperChar d = [d] := by
  by_cases basic : c.toNat < 0x80
  · rw [upperChar, if_pos basic] at h
    rw [List.mem_singleton.mp h]
    exact (basic_settled basic).1
  · rcases upperChar_cases basic with kept | changed
    · rw [kept] at h
      rw [List.mem_singleton.mp h]
      exact kept
    · exact upperChar_of_not_lower (upperLetters_settled (changed d h)).1

theorem feed_of_mem_upperChar {c : Char} (h : '\n' ∈ upperChar c) : c = '\n' := by
  by_cases basic : c.toNat < 0x80
  · rw [upperChar, if_pos basic] at h
    exact (basic_settled basic).2 (List.mem_singleton.mp h).symm
  · rcases upperChar_cases basic with kept | changed
    · rw [kept] at h
      exact (List.mem_singleton.mp h).symm
    · exact absurd rfl (upperLetters_settled (changed _ h)).2

theorem upper_of_fixed {t : Text} (h : ∀ c ∈ t, upperChar c = [c]) : upper t = t := by
  have single := List.map_congr_left h
  rw [upper, List.flatMap_def, single, ← List.flatMap_def, List.flatMap_singleton']

theorem upperChar_of_mem_upper {t : Text} {c : Char} (h : c ∈ upper t) : upperChar c = [c] := by
  obtain ⟨d, -, own⟩ := List.mem_flatMap.mp h
  exact upperChar_of_mem own

theorem feed_of_mem_upper {t : Text} (h : '\n' ∈ upper t) : '\n' ∈ t := by
  obtain ⟨c, given, own⟩ := List.mem_flatMap.mp h
  rw [← feed_of_mem_upperChar own]
  exact given

theorem upper_append (s t : Text) : upper (s ++ t) = upper s ++ upper t :=
  List.flatMap_append

theorem upperChar_of_isBlank {c : Char} (h : isBlank c = true) : upperChar c = [c] := by
  have apart : bitSet blanks.members &&& bitSet lowerLetters = 0 := by decide +kernel
  exact upperChar_of_not_lower (not_mem_of_bitSet apart (CharSet.mem_members.mpr h))

/-- Blanks have no letter case. -/
theorem upper_of_blank {gap : Text} (blank : gap.all isBlank = true) : upper gap = gap :=
  upper_of_fixed fun c hc => upperChar_of_isBlank (List.all_eq_true.mp blank c hc)

/-- A decimal digit of any script is its own upper-case form, and no blank. -/
theorem upperChar_of_isDecimalDigit {c : Char} (h : isDecimalDigit c = true) :
    upperChar c = [c] ∧ isBlank c = false := by
  have apart : bitSet decimalDigits.members &&& bitSet (lowerLetters ++ blanks.members) = 0 := by
    decide +kernel
  have other := not_mem_of_bitSet apart (CharSet.mem_members.mpr h)
  rw [List.mem_append, not_or, CharSet.mem_members, Bool.not_eq_true] at other
  exact ⟨upperChar_of_not_lower other.1, other.2⟩

end Text

end Anem
