import Anem.Directive
import Anem.Proofs.Literals.Grammar
import Anem.Proofs.Operands
import Anem.Proofs.Text.Trim

namespace Anem

open Text

/-- No blank is a word character. -/
theorem Text.isBlank_of_isWordChar {c : Char} (word : isWordChar c = true) : isBlank c = false := by
  rw [Bool.eq_false_iff]
  intro blank
  have each : ∀ range ∈ blanks, ∀ n ∈ List.range' range.1 (range.2 + 1 - range.1),
      isWordChar (Char.ofNat n) = false := by decide +kernel
  obtain ⟨range, listed, lower, upper⟩ := (CharSet.contains_iff blanks c).mp blank
  have own := each range listed c.toNat (List.mem_range'_1.mpr ⟨lower, by omega⟩)
  rw [Char.ofNat_toNat, word] at own
  cases own

namespace Literal

/-- Blanks around a literal do not count. -/
theorem read?_trim_eq_some {style : Style} {t : Text} {v : Int} :
    read? style (trim t) = some v ↔ ∃ before literal after, before.all isBlank = true ∧
      after.all isBlank = true ∧ t = before ++ (literal ++ after) ∧ Written style literal v ∧
      InRange v := by
  constructor
  · intro read
    obtain ⟨before, after, front, back, whole⟩ := exists_pads t
    refine ⟨before, trim t, after, front, back, ?_, read?_iff_written.mp read⟩
    rw [← List.append_assoc, ← whole]
  · rintro ⟨before, literal, after, front, back, rfl, written⟩
    have read := read?_iff_written.mpr written
    rw [← List.append_assoc, trim_padded (solid_of_read? read) front back]
    exact read

end Literal

namespace Directive

/-- The number in a directive. -/
def value : Directive → Int
  | address v => v
  | constant _ v => v

/-- A directive as it is written, with what it says. The keyword is set apart by
blanks; those around the equals sign and at the end may be missing. -/
inductive Written : Text → Directive → Prop where
  | address {gap literal tail : Text} {v : Int} (spaced : Gap gap)
    (written : Literal.Written .address literal v) (blank : tail.all isBlank = true) :
    Written (".ADDRESS".toList ++ (gap ++ (literal ++ tail))) (.address v)
  | constant {gap name before after literal tail : Text} {v : Int} (spaced : Gap gap)
    (present : name ≠ []) (word : ∀ c ∈ name, isWordChar c = true)
    (left : before.all isBlank = true) (right : after.all isBlank = true)
    (written : Literal.Written .constant literal v) (blank : tail.all isBlank = true) :
    Written (".CONSTANT".toList ++
      (gap ++ (name ++ (before ++ '=' :: (after ++ (literal ++ tail)))))) (.constant name v)

theorem Written.nonneg {t : Text} {v : Int} (written : Written t (.address v)) : 0 ≤ v := by
  cases written with
  | address _ literal => exact literal.nonneg rfl

theorem Written.isWordChar {t name : Text} {v : Int} (written : Written t (.constant name v)) :
    ∀ c ∈ name, isWordChar c = true := by
  cases written with
  | constant _ _ word => exact word

theorem Written.dotted {t : Text} {d : Directive} (written : Written t d) :
    ∃ rest, t = '.' :: rest := by
  cases written with
  | address | constant => exact ⟨_, rfl⟩

theorem argument?_eq_some {keyword t argument : Text} :
    argument? keyword t = some argument ↔
      ∃ gap rest, Gap gap ∧ t = keyword ++ (gap ++ rest) ∧ trim rest = argument := by
  unfold argument?
  constructor
  · intro h
    split at h
    · rename_i c rest found
      split at h
      · rename_i blank
        refine ⟨[c], rest, ⟨List.cons_ne_nil c [], ?_⟩, after?_eq_some.mp found, Option.some.inj h⟩
        rw [List.all_cons, blank, List.all_nil, Bool.true_and]
      · cases h
    · cases h
  · rintro ⟨gap, rest, ⟨present, blank⟩, rfl, rfl⟩
    obtain ⟨c, more, rfl⟩ := List.exists_cons_of_ne_nil present
    obtain ⟨first, others⟩ := Bool.and_eq_true_iff.mp blank
    have found : after? keyword (keyword ++ (c :: more ++ rest)) = some (c :: (more ++ rest)) :=
      after?_eq_some.mpr rfl
    simp only [found, first, if_true, trim_blank_append more others]

/-- A name goes up to the first character that is no word character. -/
theorem readConstant?_eq_some {t : Text} {d : Directive} :
    readConstant? t = some d ↔ ∃ name before rest v, name ≠ [] ∧
      (∀ c ∈ name, isWordChar c = true) ∧ before.all isBlank = true ∧
      t = name ++ (before ++ '=' :: rest) ∧ Literal.read? .constant (trim rest) = some v ∧
      d = .constant name v := by
  unfold readConstant?
  constructor
  · intro h
    simp only at h
    split at h
    · cases h
    · rename_i present
      split at h
      · rename_i rest sign
        obtain ⟨v, read, rfl⟩ := Option.map_eq_some_iff.mp h
        refine ⟨t.takeWhile isWordChar, (t.dropWhile isWordChar).takeWhile isBlank, rest, v,
          by simpa using present, fun c => List.mem_takeWhile_imp, List.all_takeWhile, ?_, read, rfl⟩
        rw [← sign, trimStart, List.takeWhile_append_dropWhile, List.takeWhile_append_dropWhile]
      · cases h
  · rintro ⟨name, before, rest, v, present, word, blank, rfl, read, rfl⟩
    -- A blank or the equals sign follows the name, and neither is a word character.
    obtain ⟨c, more, split, stop⟩ :
        ∃ c more, before ++ '=' :: rest = c :: more ∧ ¬ isWordChar c = true := by
      cases before with
      | nil => exact ⟨'=', rest, rfl, by decide +kernel⟩
      | cons c before =>
        refine ⟨c, before ++ '=' :: rest, rfl, fun word => ?_⟩
        have first := List.all_eq_true.mp blank c List.mem_cons_self
        rw [isBlank_of_isWordChar word] at first
        cases first
    have named : (name ++ (before ++ '=' :: rest)).takeWhile isWordChar = name := by
      rw [List.takeWhile_append_of_pos word, split, List.takeWhile_cons_of_neg stop,
        List.append_nil]
    have behind : (name ++ (before ++ '=' :: rest)).dropWhile isWordChar = before ++ '=' :: rest := by
      rw [List.dropWhile_append_of_pos word, split, List.dropWhile_cons_of_neg stop]
    have sign : trimStart (before ++ '=' :: rest) = '=' :: rest := by
      rw [trimStart, List.dropWhile_append_of_pos (List.all_eq_true.mp blank)]
      rfl
    simp only [named, behind, sign, List.isEmpty_eq_false_iff.mpr present, read]
    rfl

theorem written_address_iff {t : Text} {v : Int} :
    Written t (.address v) ∧ Literal.InRange v ↔
      ∃ argument, argument? ".ADDRESS".toList t = some argument ∧
        Literal.read? .address argument = some v := by
  constructor
  · rintro ⟨written, range⟩
    cases written with
    | @address gap literal tail _ spaced written blank =>
      exact ⟨_, argument?_eq_some.mpr ⟨gap, literal ++ tail, spaced, rfl, rfl⟩,
        Literal.read?_trim_eq_some.mpr ⟨[], literal, tail, rfl, blank, rfl, written, range⟩⟩
  · rintro ⟨_, found, read⟩
    obtain ⟨gap, _, spaced, rfl, rfl⟩ := argument?_eq_some.mp found
    obtain ⟨before, literal, tail, front, blank, rfl, written, range⟩ :=
      Literal.read?_trim_eq_some.mp read
    have whole := Written.address (spaced.append front) written blank
    rw [List.append_assoc] at whole
    exact ⟨whole, range⟩

theorem written_constant_iff {t name : Text} {v : Int} :
    Written t (.constant name v) ∧ Literal.InRange v ↔
      ∃ definition, argument? ".CONSTANT".toList t = some definition ∧
        readConstant? definition = some (.constant name v) := by
  constructor
  · rintro ⟨written, range⟩
    cases written with
    | @constant gap _ before after literal tail _ spaced present word left right written blank =>
      have read := Literal.read?_trim_eq_some.mpr
        ⟨after, literal, [], right, rfl, by rw [List.append_nil], written, range⟩
      have solid : Solid name := ⟨present, fun c hc => isBlank_of_isWordChar (word c hc)⟩
      have trimmed : trim (name ++ (before ++ '=' :: (after ++ (literal ++ tail)))) =
          name ++ (before ++ '=' :: (after ++ literal)) := by
        have ends := trim_between solid (before ++ '=' :: after)
          (Literal.solid_of_read? (Literal.read?_iff_written.mpr ⟨written, range⟩))
        have cut := trim_append_blank (name ++ (before ++ '=' :: after) ++ literal) blank
        rw [ends] at cut
        simpa only [List.append_assoc, List.cons_append] using cut
      exact ⟨_, argument?_eq_some.mpr ⟨gap, _, spaced, rfl, trimmed⟩,
        readConstant?_eq_some.mpr ⟨name, before, after ++ literal, v, present, word, left, rfl, read, rfl⟩⟩
  · rintro ⟨_, found, read⟩
    obtain ⟨gap, whole, spaced, rfl, rfl⟩ := argument?_eq_some.mp found
    obtain ⟨_, before, rest, _, present, word, left, split, read, ⟨rfl⟩⟩ :=
      readConstant?_eq_some.mp read
    obtain ⟨after, literal, tail, right, blank, rfl, written, range⟩ :=
      Literal.read?_trim_eq_some.mp read
    obtain ⟨front, back, lead, trail, padded⟩ := exists_pads whole
    have blank : (tail ++ back).all isBlank = true := by rw [List.all_append, blank, trail]; rfl
    have written := Written.constant (spaced.append lead) present word left right written blank
    refine ⟨?_, range⟩
    rw [padded, split]
    simpa only [List.append_assoc, List.cons_append] using written

/-- A directive is read as it is written. -/
theorem read?_eq_some {t : Text} {d : Directive} :
    read? t = some d ↔ Written t d ∧ Literal.InRange d.value := by
  cases d with
  | address v =>
    rw [value, written_address_iff, read?]
    constructor
    · intro h
      split at h
      · rename_i argument found
        obtain ⟨_, read, ⟨rfl⟩⟩ := Option.map_eq_some_iff.mp h
        exact ⟨argument, found, read⟩
      · split at h
        · obtain ⟨_, _, _, _, _, _, _, _, _, other⟩ := readConstant?_eq_some.mp h
          cases other
        · cases h
    · rintro ⟨argument, found, read⟩
      simp only [found, read, Option.map_some]
  | constant name v =>
    rw [value, written_constant_iff, read?]
    constructor
    · intro h
      split at h
      · obtain ⟨_, -, other⟩ := Option.map_eq_some_iff.mp h
        cases other
      · split at h
        · rename_i definition found
          exact ⟨definition, found, h⟩
        · cases h
    · rintro ⟨definition, found, read⟩
      obtain ⟨gap, rest, -, rfl, -⟩ := argument?_eq_some.mp found
      have other : argument? ".ADDRESS".toList (".CONSTANT".toList ++ (gap ++ rest)) = none := rfl
      simp only [other, found, read]

end Directive

end Anem
