import Mathlib.Data.Nat.Digits.Lemmas
import Anem.Listing
import Anem.Proofs.Literals.Grammar
import Anem.Proofs.Text.Trim

/-!
The binary listing as a format. `Row` says which lines stand for a word, apart
from how they are read: sixteen binary digits behind the last tab, of which the
first may be a plus sign. A listing is read if all of its lines are rows, and
otherwise the first one that is none is reported. What is written is read back.
-/
namespace Anem

namespace Fault

theorem mapM_eq_ok {α β : Type} {f : α → Except Fault β} {xs : List α} {ys : List β} :
    xs.mapM f = .ok ys ↔ List.Forall₂ (fun x y => f x = .ok y) xs ys := by
  induction xs generalizing ys with
  | nil => simp [pure, Except.pure, eq_comm]
  | cons x xs ih =>
    rw [List.mapM_cons, List.forall₂_cons_left_iff]
    simp only [bind_eq_ok, ih, pure, Except.pure, Except.ok.injEq]
    constructor
    · rintro ⟨y, own, ys, rest, rfl⟩
      exact ⟨y, ys, own, rest, rfl⟩
    · rintro ⟨y, ys, own, rest, rfl⟩
      exact ⟨y, own, ys, rest, rfl⟩

/-- The first member that fails decides. -/
theorem mapM_eq_error {α β : Type} {f : α → Except Fault β} {xs : List α} {cause : Fault} :
    xs.mapM f = .error cause ↔ ∃ before x after, xs = before ++ x :: after ∧
      (∀ y ∈ before, ∃ b, f y = .ok b) ∧ f x = .error cause := by
  induction xs with
  | nil => simp [pure, Except.pure]
  | cons x xs ih =>
    cases own : f x with
    | error found =>
      have stop : (x :: xs).mapM f = .error found := by
        rw [List.mapM_cons, own]
        rfl
      rw [stop, Except.error.injEq]
      constructor
      · rintro rfl
        exact ⟨[], x, xs, rfl, by simp, own⟩
      · rintro ⟨before, y, after, split, fine, failed⟩
        rcases List.cons_eq_append_iff.mp split with ⟨rfl, first⟩ | ⟨rest, rfl, -⟩
        · cases first
          rw [own] at failed
          exact Except.error.inj failed
        · obtain ⟨b, passed⟩ := fine x List.mem_cons_self
          rw [own] at passed
          cases passed
    | ok b =>
      have go : (x :: xs).mapM f = .error cause ↔ xs.mapM f = .error cause := by
        rw [List.mapM_cons, own]
        cases xs.mapM f <;> simp [bind, Except.bind, pure, Except.pure]
      rw [go, ih]
      constructor
      · rintro ⟨before, y, after, rfl, fine, failed⟩
        exact ⟨x :: before, y, after, rfl, List.forall_mem_cons.mpr ⟨⟨b, own⟩, fine⟩, failed⟩
      · rintro ⟨before, y, after, split, fine, failed⟩
        rcases List.cons_eq_append_iff.mp split with ⟨rfl, first⟩ | ⟨rest, rfl, rfl⟩
        · cases first
          rw [own] at failed
          cases failed
        · exact ⟨rest, y, after, rfl, (List.forall_mem_cons.mp fine).2, failed⟩

end Fault

namespace Listing

open Text

/-- So many binary digits. -/
def Bits (n : Nat) (t : Text) : Prop :=
  t.length = n ∧ ∀ c ∈ t, c = '0' ∨ c = '1'

def bit (c : Char) : Nat := if c = '1' then 1 else 0

/-- The number that binary digits spell, the last one counting for one. -/
def binaryValue (t : Text) : Nat :=
  Nat.ofDigits 2 (t.map bit).reverse

/-- The texts that stand for a word: sixteen binary digits, or fifteen behind a
plus sign. -/
inductive Spelled (w : Word) : Text → Prop where
  | digits {t : Text} (bits : Bits 16 t) (value : w.toNat = binaryValue t) : Spelled w t
  | signed {t : Text} (bits : Bits 15 t) (value : w.toNat = binaryValue t) : Spelled w ('+' :: t)

/-- The part of a line behind its last tab, or all of it. -/
def LastPart (line part : Text) : Prop :=
  '\t' ∉ part ∧ (line = part ∨ ∃ front, line = front ++ '\t' :: part)

/-- A line that stands for a word. -/
def Row (line : Text) (w : Word) : Prop :=
  ∃ part, LastPart line part ∧ Spelled w (trim part)

/-- The lines of a listing without the blanks around them; blank lines are none. -/
def rows (t : Text) : List Text :=
  ((lines t).map trim).filter (! ·.isEmpty)

/-! Binary digits -/

theorem isDigitOf_two {c : Char} {d : Nat} :
    IsDigitOf 2 c d ↔ (c = '0' ∨ c = '1') ∧ d = bit c := by
  constructor
  · rintro ⟨value, small⟩
    have digit := isDigit_of_digitValue? value (by omega)
    have bounds := toNat_of_isDigit digit
    rw [digitValue?, if_pos digit, Option.some.injEq] at value
    have code : c.toNat = 48 ∨ c.toNat = 49 := by omega
    rcases code with zero | one
    · have known : c = '0' := Char.toNat_inj.mp zero
      subst known
      exact ⟨Or.inl rfl, value.symm⟩
    · have known : c = '1' := Char.toNat_inj.mp one
      subst known
      exact ⟨Or.inr rfl, value.symm⟩
  · rintro ⟨rfl | rfl, rfl⟩
    · exact ⟨rfl, by decide⟩
    · exact ⟨rfl, by decide⟩

theorem forall₂_isDigitOf_two {t : Text} {ds : List Nat} :
    List.Forall₂ (IsDigitOf 2) t ds ↔ (∀ c ∈ t, c = '0' ∨ c = '1') ∧ ds = t.map bit := by
  induction t generalizing ds with
  | nil => simp
  | cons c t ih =>
    rw [List.forall₂_cons_left_iff]
    simp only [isDigitOf_two, ih, List.forall_mem_cons, List.map_cons]
    constructor
    · rintro ⟨_, _, ⟨own, rfl⟩, ⟨rest, rfl⟩, rfl⟩
      exact ⟨⟨own, rest⟩, rfl⟩
    · rintro ⟨⟨own, rest⟩, rfl⟩
      exact ⟨_, _, ⟨own, rfl⟩, ⟨rest, rfl⟩, rfl⟩

theorem readDigits?_two {n v : Nat} {t : Text} (length : t.length = n + 1) :
    readDigits? 2 t = some v ↔ Bits (n + 1) t ∧ v = binaryValue t := by
  have present : t ≠ [] := List.ne_nil_of_length_eq_add_one length
  rw [readDigits?_eq_some, Spells, and_iff_right present, Bits, and_iff_right length]
  simp only [forall₂_isDigitOf_two]
  constructor
  · rintro ⟨_, ⟨digits, rfl⟩, value⟩
    exact ⟨digits, value⟩
  · rintro ⟨digits, value⟩
    exact ⟨_, ⟨digits, rfl⟩, value⟩

theorem binaryValue_lt (t : Text) : binaryValue t < 2 ^ t.length := by
  have small : ∀ d ∈ (t.map bit).reverse, d < 2 := by
    intro d hd
    obtain ⟨c, -, rfl⟩ := List.mem_map.mp (List.mem_reverse.mp hd)
    unfold bit
    split
    · decide
    · decide
  have below := Nat.ofDigits_lt_base_pow_length (by decide) small
  rw [List.length_reverse, List.length_map] at below
  exact below

/-- Sixteen digits at most keep their number in a word. -/
theorem toNat_ofNat_binaryValue {t : Text} (length : t.length ≤ 16) :
    (BitVec.ofNat 16 (binaryValue t)).toNat = binaryValue t := by
  rw [BitVec.toNat_ofNat]
  apply Nat.mod_eq_of_lt
  exact Nat.lt_of_lt_of_le (binaryValue_lt t) (Nat.pow_le_pow_right (by decide) length)

/-! Reading a line -/

/-- The digits of a word as they are read, after the sign or without one. -/
theorem map_readDigits?_eq_some {n : Nat} {t : Text} {w : Word} (length : t.length = n + 1)
    (small : n < 16) :
    (readDigits? 2 t).map (BitVec.ofNat 16) = some w ↔
      Bits (n + 1) t ∧ w.toNat = binaryValue t := by
  have keeps := toNat_ofNat_binaryValue (t := t) (by omega)
  simp only [Option.map_eq_some_iff, readDigits?_two length]
  constructor
  · rintro ⟨_, ⟨bits, rfl⟩, rfl⟩
    exact ⟨bits, keeps⟩
  · rintro ⟨bits, value⟩
    exact ⟨_, ⟨bits, rfl⟩, BitVec.eq_of_toNat_eq (keeps.trans value.symm)⟩

theorem readWord?_eq_some {t : Text} {w : Word} : readWord? t = some w ↔ Spelled w t := by
  constructor
  · intro h
    unfold readWord? at h
    split at h
    · rename_i length
      dsimp only at h
      split at h
      · rename_i digits
        have rest : digits.length = 15 := by simpa using length
        obtain ⟨bits, value⟩ := (map_readDigits?_eq_some rest (by decide)).mp h
        exact .signed bits value
      · obtain ⟨bits, value⟩ := (map_readDigits?_eq_some length (by decide)).mp h
        exact .digits bits value
    · cases h
  · intro h
    cases h with
    | digits bits value =>
      have read := (map_readDigits?_eq_some bits.1 (by decide)).mpr ⟨bits, value⟩
      unfold readWord?
      rw [if_pos bits.1]
      dsimp only
      split
      · exact absurd (bits.2 '+' List.mem_cons_self) (by decide)
      · exact read
    | @signed t bits value =>
      have length : ('+' :: t).length = 16 := congrArg (· + 1) bits.1
      rw [readWord?, if_pos length]
      exact (map_readDigits?_eq_some bits.1 (by decide)).mpr ⟨bits, value⟩

/-- A line has one last part. -/
theorem lastPart_iff {line part : Text} : LastPart line part ↔ lastColumn line = part := by
  constructor
  · rintro ⟨noTab, whole⟩
    have all : ∀ c ∈ part.reverse, (c != '\t') = true := by
      intro c hc
      have other : c ≠ '\t' := by
        rintro rfl
        exact noTab (List.mem_reverse.mp hc)
      simpa using other
    rcases whole with rfl | ⟨front, rfl⟩
    · rw [lastColumn, List.takeWhile_eq_self_iff.mpr all, List.reverse_reverse]
    · rw [lastColumn, List.reverse_append, List.reverse_cons, List.append_assoc,
        List.takeWhile_append_of_pos all]
      simp
  · rintro rfl
    -- Seen from the end of the line, the last tab is the first one.
    have cut := List.takeWhile_append_dropWhile (p := (· != '\t')) (l := line.reverse)
    refine ⟨?_, ?_⟩
    · intro tab
      have other := List.mem_takeWhile_imp (List.mem_reverse.mp tab)
      simp at other
    · have stop := List.head?_dropWhile_not (· != '\t') line.reverse
      cases rest : line.reverse.dropWhile (· != '\t') with
      | nil =>
        rw [rest, List.append_nil] at cut
        exact Or.inl (by rw [lastColumn, cut, List.reverse_reverse])
      | cons c front =>
        rw [rest] at cut stop
        have tab : c = '\t' := by simpa using stop
        refine Or.inr ⟨front.reverse, ?_⟩
        have back := congrArg List.reverse cut
        rw [List.reverse_append, List.reverse_cons, List.reverse_reverse, tab] at back
        simpa [lastColumn] using back.symm

theorem row_iff {line : Text} {w : Word} :
    Row line w ↔ readWord? (trim (lastColumn line)) = some w := by
  simp only [Row, lastPart_iff, readWord?_eq_some, exists_eq_left']

theorem readRow_eq_ok {line : Text} {w : Word} : readRow line = .ok w ↔ Row line w := by
  rw [row_iff, readRow]
  cases readWord? (trim (lastColumn line)) with
  | none => simp
  | some word => simp

theorem readRow_eq_error {line : Text} {cause : Fault} :
    readRow line = .error cause ↔ (∀ w, ¬ Row line w) ∧ cause = .malformed line := by
  simp only [row_iff, readRow]
  cases readWord? (trim (lastColumn line)) with
  | none => simp [eq_comm]
  | some word => simp

/-! Reading a listing -/

theorem readImage_eq_ok {t : Text} {ws : List Word} :
    readImage t = .ok ws ↔ List.Forall₂ Row (rows t) ws := by
  simp only [readImage, Fault.mapM_eq_ok, readRow_eq_ok]
  rfl

/-- **A listing is read exactly if all of its lines are rows,** and gives their
words in order. Of any other one the first line that is no row is reported. -/
theorem readImage_decided (t : Text) :
    (∀ ws, readImage t = .ok ws ↔ List.Forall₂ Row (rows t) ws) ∧
      ∀ cause, readImage t = .error cause ↔
        ∃ before line after, rows t = before ++ line :: after ∧
          (∀ l ∈ before, ∃ w, Row l w) ∧ (∀ w, ¬ Row line w) ∧ cause = .malformed line := by
  refine ⟨fun ws => readImage_eq_ok, ?_⟩
  intro cause
  simp only [readImage, Fault.mapM_eq_error, readRow_eq_ok, readRow_eq_error]
  rfl

/-- A sign in place of the first digit is no binary digit, and yet the word is read. -/
theorem signed_row_accepted :
    readImage "+000000000000001".toList = .ok [1] ∧
      ¬ ((∃ ws, readImage "+000000000000001".toList = .ok ws) ↔
        ∀ line ∈ rows "+000000000000001".toList,
          ∃ part, LastPart line part ∧ Bits 16 (trim part)) := by
  have read : readImage "+000000000000001".toList = .ok [1] := by decide +kernel
  have row : rows "+000000000000001".toList = ["+000000000000001".toList] := by decide +kernel
  have column : trim (lastColumn "+000000000000001".toList) = "+000000000000001".toList := by
    decide +kernel
  refine ⟨read, fun claimed => ?_⟩
  have accepted := claimed.mp ⟨[1], read⟩
  rw [row] at accepted
  obtain ⟨part, last, -, digits⟩ := accepted _ List.mem_cons_self
  rw [← lastPart_iff.mp last, column] at digits
  exact absurd (digits '+' (by decide)) (by decide)

/-! Writing -/

theorem bit_digitChar {d : Nat} (h : d < 2) : bit (digitChar d) = d := by
  have cases : d = 0 ∨ d = 1 := by omega
  rcases cases with rfl | rfl
  · rfl
  · rfl

/-- So many digits spell as much of a number as they have room for. -/
theorem binaryValue_fixedDigits (n v : Nat) : binaryValue (fixedDigits 2 n v) = v % 2 ^ n := by
  induction n generalizing v with
  | zero => simp [fixedDigits, binaryValue, Nat.mod_one]
  | succ n ih =>
    have front := ih (v / 2)
    have last := bit_digitChar (Nat.mod_lt v (by decide : 0 < 2))
    rw [binaryValue] at front ⊢
    rw [fixedDigits, List.map_append, List.reverse_append, List.map_singleton,
      List.reverse_singleton, List.singleton_append, Nat.ofDigits_cons, front, last,
      Nat.pow_succ', Nat.mod_mul]

theorem spelled_binary (w : Word) : Spelled w w.binary := by
  have value := binaryValue_fixedDigits 16 w.toNat
  rw [Nat.mod_eq_of_lt w.isLt] at value
  exact .digits ⟨length_fixedDigits 2 16 w.toNat, fun _ hc => mem_fixedDigits_two hc⟩ value.symm

def written (withAddress : Bool) (w : Placed) : Text :=
  if withAddress then Word.binary w.address ++ '\t' :: Word.binary w.bits
  else Word.binary w.bits

section Written

variable (withAddress : Bool) (w : Placed)

theorem mem_written {c : Char} (h : c ∈ written withAddress w) : c = '\t' ∨ c.isDigit = true := by
  unfold written at h
  split at h
  · rcases List.mem_append.mp h with address | rest
    · exact Or.inr (Word.isDigit_of_mem_binary address)
    · exact (List.mem_cons.mp rest).imp_right Word.isDigit_of_mem_binary
  · exact Or.inr (Word.isDigit_of_mem_binary h)

theorem trim_written : trim (written withAddress w) = written withAddress w := by
  unfold written
  split
  · have ends := trim_between (Word.solid_binary w.address) ['\t'] (Word.solid_binary w.bits)
    rw [List.append_assoc, List.singleton_append] at ends
    exact ends
  · exact trim_solid (Word.solid_binary w.bits)

theorem written_ne_nil : written withAddress w ≠ [] := by
  unfold written
  split
  · simp
  · exact (Word.solid_binary w.bits).1

theorem row_written : Row (written withAddress w) w.bits := by
  have solid := Word.solid_binary w.bits
  have noTab : '\t' ∉ Word.binary w.bits := by
    intro tab
    exact absurd (Word.isDigit_of_mem_binary tab) (by decide)
  refine ⟨Word.binary w.bits, ⟨noTab, ?_⟩, ?_⟩
  · cases withAddress with
    | true => exact Or.inr ⟨Word.binary w.address, rfl⟩
    | false => exact Or.inl rfl
  · rw [trim_solid solid]
    exact spelled_binary w.bits

end Written

theorem image_eq (withAddress : Bool) (words : Image) :
    image withAddress words = unlines (words.map (written withAddress)) := rfl

theorem rows_image (withAddress : Bool) (words : Image) :
    rows (image withAddress words) = words.map (written withAddress) := by
  have unbroken : ∀ line ∈ words.map (written withAddress), '\n' ∉ line ∧ '\r' ∉ line := by
    intro line hline
    obtain ⟨w, -, rfl⟩ := List.mem_map.mp hline
    exact ⟨fun feed => absurd (mem_written withAddress w feed) (by decide),
      fun ret => absurd (mem_written withAddress w ret) (by decide)⟩
  have cut := lines_unlines (fun line hline => (unbroken line hline).1)
    fun line hline last => (unbroken line hline).2 (List.mem_of_getLast? last)
  have trimmed : trim ∘ written withAddress = written withAddress :=
    funext (trim_written withAddress)
  rw [rows, image_eq, cut, List.map_map, trimmed, List.filter_eq_self]
  intro line hline
  obtain ⟨w, -, rfl⟩ := List.mem_map.mp hline
  simpa using written_ne_nil withAddress w

/-- **What is written is read back,** with addresses or without. -/
theorem image_reads_back (withAddress : Bool) (words : Image) :
    readImage (image withAddress words) = .ok (words.map (·.bits)) := by
  rw [readImage_eq_ok, rows_image, List.forall₂_map_left_iff, List.forall₂_map_right_iff,
    List.forall₂_same]
  exact fun w _ => row_written withAddress w

end Listing

end Anem
