import Anem.CommandLine.Options

namespace Anem.CommandLine

def Flag.spelled : Flag → Text
  | verbose => "-v".toList
  | preprocess => "-e".toList
  | address => "-i".toList
  | grid => "-d".toList
  | disassemble => "--disassemble".toList

/-- What one or two arguments state. -/
inductive Argument where
  | flag (flag : Flag)
  | output (base : Text)
  | input (path : Text)
deriving DecidableEq

namespace Argument

def spelled : Argument → List Text
  | flag f => [f.spelled]
  | output base => ["-o".toList, base]
  | input path => [path]

/-- A path that is not taken for an option. -/
def Plain : Argument → Prop
  | flag _ => True
  | output base => isOption base = false
  | input path => isOption path = false

def flag? : Argument → Option Flag
  | flag f => some f
  | _ => none

def output? : Argument → Option Text
  | output base => some base
  | _ => none

def input? : Argument → Option Text
  | input path => some path
  | _ => none

/-- What has been seen after these arguments. -/
def seen (line : List Argument) : Seen where
  flags := line.filterMap flag?
  outputs := (line.filterMap output?).map some
  inputs := line.filterMap input?

theorem count_seen (line : List Argument) (f : Flag) :
    (seen line).flags.count f = line.count (.flag f) := by
  induction line with
  | nil => rfl
  | cons a line ih =>
    simp only [seen] at ih
    cases a with
    | flag g => simp [seen, List.filterMap_cons, flag?, List.count_cons, ih]
    | output base => simp [seen, List.filterMap_cons, flag?, ih]
    | input path => simp [seen, List.filterMap_cons, flag?, ih]

end Argument

/-- A line that asks for an assembly: one input, at most one output, and no flag
twice but the one for verbosity. -/
structure Regular (line : List Argument) : Prop where
  input : (line.filterMap Argument.input?).length = 1
  output : (line.filterMap Argument.output?).length ≤ 1
  flag : ∀ f, f ≠ .verbose → line.count (.flag f) ≤ 1
  assembling : .flag .disassemble ∉ line

theorem Regular.judge {line : List Argument} (regular : Regular line) :
    ∃ options, judge (Argument.seen line) = .run options ∧ options.disassemble = false := by
  obtain ⟨path, single⟩ := List.length_eq_one_iff.mp regular.input
  have counted (f : Flag) (other : f ≠ .verbose) : (Argument.seen line).flags.count f ≤ 1 := by
    rw [Argument.count_seen]
    exact regular.flag f other
  have none : (Argument.seen line).flags.count .disassemble = 0 := by
    rw [Argument.count_seen, List.count_eq_zero]
    exact regular.assembling
  have preprocess := counted .preprocess (by decide)
  have address := counted .address (by decide)
  have grid := counted .grid (by decide)
  have output : (Argument.seen line).outputs.length ≤ 1 := by
    rw [Argument.seen, List.length_map]
    exact regular.output
  have given : Option.none ∉ (Argument.seen line).outputs := by simp [Argument.seen]
  have input : (Argument.seen line).inputs = [path] := single
  simp only [CommandLine.judge]
  rw [if_neg, input]
  · exact ⟨_, rfl, by simp [none]⟩
  · rintro (repeated | conflict | absent)
    · omega
    · omega
    · exact given absent

end Anem.CommandLine
