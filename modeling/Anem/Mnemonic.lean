import Anem.Text.Basic

namespace Anem

/-- A closed set of mnemonics, each with the code that stands for it in a word. -/
class Mnemonic (α : Type) where
  all : List α
  name : α → Text
  code : α → Nat
  mem_all : ∀ m, m ∈ all
  nodup_names : (all.map name).Nodup
  nodup_codes : (all.map code).Nodup

namespace Mnemonic

variable {α : Type} [Mnemonic α]

def ofName? (t : Text) : Option α :=
  (all (α := α)).find? fun m => name m = t

def ofCode? (n : Nat) : Option α :=
  (all (α := α)).find? fun m => code m = n

theorem find?_key {β κ : Type} [DecidableEq κ] {key : β → κ} {xs : List β}
    (nodup : (xs.map key).Nodup) {x : β} (hx : x ∈ xs) : xs.find? (fun y => key y = key x) = some x := by
  induction xs with
  | nil => simp at hx
  | cons y ys ih =>
    simp only [List.map_cons, List.nodup_cons] at nodup
    by_cases h : key y = key x
    · rcases List.mem_cons.mp hx with rfl | hx
      · simp
      · exact absurd (h ▸ List.mem_map_of_mem hx) nodup.1
    · have hx : x ∈ ys := (List.mem_cons.mp hx).resolve_left fun e => h (e ▸ rfl)
      rw [List.find?_cons_of_neg (by simpa using h)]
      exact ih nodup.2 hx

@[simp] theorem ofName?_name (m : α) : ofName? (name m) = some m :=
  find?_key nodup_names (mem_all m)

@[simp] theorem ofCode?_code (m : α) : ofCode? (code m) = some m :=
  find?_key nodup_codes (mem_all m)

theorem ofName?_eq_some {t : Text} {m : α} : ofName? t = some m ↔ name m = t :=
  ⟨fun h => by simpa using List.find?_some h, fun h => h ▸ ofName?_name m⟩

theorem ofCode?_eq_some {n : Nat} {m : α} : ofCode? n = some m ↔ code m = n :=
  ⟨fun h => by simpa using List.find?_some h, fun h => h ▸ ofCode?_code m⟩

end Mnemonic

/-- Operations on two registers. -/
inductive Arith where
  | and | or | add | mul | sub | slt | sgt | nor | xor
deriving DecidableEq, Repr

instance : Mnemonic Arith where
  all := [.and, .or, .add, .mul, .sub, .slt, .sgt, .nor, .xor]
  name
    | .and => "AND".toList | .or => "OR".toList | .add => "ADD".toList
    | .mul => "MUL".toList | .sub => "SUB".toList | .slt => "SLT".toList
    | .sgt => "SGT".toList | .nor => "NOR".toList | .xor => "XOR".toList
  code
    | .and => 0 | .or => 1 | .add => 2 | .mul => 3 | .sub => 6
    | .slt => 7 | .sgt => 8 | .nor => 12 | .xor => 15
  mem_all m := by cases m <;> decide
  nodup_names := by decide
  nodup_codes := by decide

/-- Shifts and rotations by a fixed amount. -/
inductive Shift where
  | sar | shr | shl | ror | rol
deriving DecidableEq, Repr

instance : Mnemonic Shift where
  all := [.sar, .shr, .shl, .ror, .rol]
  name
    | .sar => "SAR".toList | .shr => "SHR".toList | .shl => "SHL".toList
    | .ror => "ROR".toList | .rol => "ROL".toList
  code
    | .sar => 0 | .shr => 1 | .shl => 2 | .ror => 4 | .rol => 8
  mem_all m := by cases m <;> decide
  nodup_names := by decide
  nodup_codes := by decide

/-- Loads of one half of a register. -/
inductive LoadByte where
  | liu | lil
deriving DecidableEq, Repr

instance : Mnemonic LoadByte where
  all := [.liu, .lil]
  name
    | .liu => "LIU".toList | .lil => "LIL".toList
  code
    | .liu => 12 | .lil => 13
  mem_all m := by cases m <;> decide
  nodup_names := by decide
  nodup_codes := by decide

/-- Jumps and branches to a target in the word. -/
inductive Jump where
  | j | jal | bz | bhleq
deriving DecidableEq, Repr

instance : Mnemonic Jump where
  all := [.j, .jal, .bz, .bhleq]
  name
    | .j => "J".toList | .jal => "JAL".toList | .bz => "BZ".toList | .bhleq => "BHLEQ".toList
  code
    | .j => 8 | .jal => 9 | .bz => 10 | .bhleq => 11
  mem_all m := by cases m <;> decide
  nodup_names := by decide
  nodup_codes := by decide

/-- The width of the target field: a branch on zero spends two bits on its
predicate. -/
def Jump.targetWidth : Jump → Nat
  | .bz => 10
  | _ => 12

/-- Memory transfers, and the jump to a register. -/
inductive Transfer where
  | sw | lw | jr
deriving DecidableEq, Repr

instance : Mnemonic Transfer where
  all := [.sw, .lw, .jr]
  name
    | .sw => "SW".toList | .lw => "LW".toList | .jr => "JR".toList
  code
    | .sw => 4 | .lw => 5 | .jr => 7
  mem_all m := by cases m <;> decide
  nodup_names := by decide
  nodup_codes := by decide

/-- Operations of one byte on the HI and LO pair. -/
inductive HiLoByte where
  | lhl | lhh | lll | llh | ais | aih | ail
deriving DecidableEq, Repr

instance : Mnemonic HiLoByte where
  all := [.lhl, .lhh, .lll, .llh, .ais, .aih, .ail]
  name
    | .lhl => "LHL".toList | .lhh => "LHH".toList | .lll => "LLL".toList
    | .llh => "LLH".toList | .ais => "AIS".toList | .aih => "AIH".toList | .ail => "AIL".toList
  code
    | .lhl => 0 | .lhh => 1 | .lll => 2 | .llh => 3 | .ais => 4 | .aih => 5 | .ail => 6
  mem_all m := by cases m <;> decide
  nodup_names := by decide
  nodup_codes := by decide

/-- Moves between a register and HI or LO. -/
inductive HiLoMove where
  | mfhi | mflo | mthi | mtlo
deriving DecidableEq, Repr

instance : Mnemonic HiLoMove where
  all := [.mfhi, .mflo, .mthi, .mtlo]
  name
    | .mfhi => "MFHI".toList | .mflo => "MFLO".toList
    | .mthi => "MTHI".toList | .mtlo => "MTLO".toList
  code
    | .mfhi => 8 | .mflo => 9 | .mthi => 10 | .mtlo => 11
  mem_all m := by cases m <;> decide
  nodup_names := by decide
  nodup_codes := by decide

/-- Operations on the stack and its pointer. -/
inductive Stack where
  | push | pop | sprd | spwr
deriving DecidableEq, Repr

instance : Mnemonic Stack where
  all := [.push, .pop, .sprd, .spwr]
  name
    | .push => "PUSH".toList | .pop => "POP".toList
    | .sprd => "SPRD".toList | .spwr => "SPWR".toList
  code
    | .push => 0 | .pop => 1 | .sprd => 2 | .spwr => 3
  mem_all m := by cases m <;> decide
  nodup_names := by decide
  nodup_codes := by decide

/-- When a branch on zero is taken. -/
inductive Predicate where
  | t | n | x
deriving DecidableEq, Repr

instance : Mnemonic Predicate where
  all := [.t, .n, .x]
  name
    | .t => "T".toList | .n => "N".toList | .x => "X".toList
  code
    | .t => 1 | .n => 2 | .x => 0
  mem_all m := by cases m <;> decide
  nodup_names := by decide
  nodup_codes := by decide

/-- Mnemonics reserved for the floating point unit, which the machine lacks. -/
def floatingPoint : List Text :=
  ["FADD", "FADDP", "FSUB", "FSUBP", "FSUBR", "FSUBRP", "FMUL", "FMULP", "FDIV", "FDIVP",
   "FDIVR", "FDIVRP", "FABS", "FCHS", "FSIN", "FSINP", "FCOS", "FCOSP", "FTAN", "FTANP",
   "FASIN", "FASINP", "FACOS", "FACOSP", "ABS", "ABP", "FMLD", "FMST", "FMSTP", "FSLD",
   "FSST", "FSSTP", "FSX"].map String.toList

def isFloatingPoint (mnemonic : Text) : Bool :=
  floatingPoint.contains mnemonic

end Anem
