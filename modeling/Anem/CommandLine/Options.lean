import Anem.Journal

/-!
The options of the command line. Arguments are read from left to right.
Single-letter options may be joined behind one dash, `-o` takes a value, two
dashes alone end the options, and asking for the version or for help is
answered at once. What the arguments amount to is judged after all are read.
-/
namespace Anem.CommandLine

structure Options where
  input : Text
  output : Option Text
  verbosity : Verbosity
  preprocessOnly : Bool
  /-- Every word of the binary listing follows its address. -/
  withAddress : Bool
  showGrid : Bool
  disassemble : Bool

inductive Request where
  | run (options : Options)
  | version
  | help
  | invalid

inductive Flag where
  | verbose | preprocess | address | grid | disassemble
deriving DecidableEq, Repr

structure Seen where
  flags : List Flag
  outputs : List (Option Text)
  inputs : List Text

inductive Reading where
  | next (seen : Seen)
  /-- The next argument may be the value of the output option. -/
  | awaitOutput (seen : Seen)
  | answer (request : Request)

def flagOfLetter? : Char → Option Flag
  | 'v' => some .verbose
  | 'e' => some .preprocess
  | 'i' => some .address
  | 'd' => some .grid
  | _ => none

/-- The letters behind a single dash. The rest of the argument after `o` is the
value of that option, less the equals signs it starts with. -/
def readLetters (seen : Seen) : Text → Reading
  | [] => .next seen
  | 'o' :: [] => .awaitOutput { seen with outputs := seen.outputs ++ [none] }
  | 'o' :: value =>
    .next { seen with outputs := seen.outputs ++ [some (value.dropWhile (· = '='))] }
  | 'V' :: _ => .answer .version
  | 'h' :: _ => .answer .help
  | c :: letters =>
    match flagOfLetter? c with
    | some flag => readLetters { seen with flags := seen.flags ++ [flag] } letters
    | none => .answer .invalid

/-- An option spelled in full; what follows an equals sign is ignored. -/
def readWord (seen : Seen) (t : Text) : Reading :=
  let word := (t.dropWhile (· = '-')).takeWhile (· ≠ '=')
  if word = "disassemble".toList then .next { seen with flags := seen.flags ++ [.disassemble] }
  else if word = "version".toList then .answer .version
  else if word = "help".toList then .answer .help
  else .answer .invalid

def readInput (seen : Seen) (t : Text) : Reading :=
  if seen.inputs.isEmpty then .next { seen with inputs := [t] } else .answer .invalid

/-- One argument before the end of the options. A dash alone is no option. -/
def readArgument (seen : Seen) : Text → Reading
  | '-' :: '-' :: t => readWord seen t
  | '-' :: c :: t => readLetters seen (c :: t)
  | t => readInput seen t

def isOption : Text → Bool
  | '-' :: _ :: _ => true
  | _ => false

def giveOutput (seen : Seen) (value : Text) : Seen :=
  { seen with outputs := seen.outputs.dropLast ++ [some value] }

def verbosityOfCount : Nat → Verbosity
  | 0 => .error
  | 1 => .warning
  | 2 => .info
  | _ => .debug

/-- The request, once every argument is read. All options but the one for
verbosity are given at most once, and a disassembly takes no other. -/
def judge (seen : Seen) : Request :=
  let count flag := seen.flags.count flag
  let repeated := 1 < count .preprocess ∨ 1 < count .address ∨ 1 < count .grid ∨
    1 < count .disassemble ∨ 1 < seen.outputs.length
  let conflict := 0 < count .disassemble ∧
    (0 < count .preprocess ∨ 0 < count .address ∨ 0 < count .grid ∨ 0 < seen.outputs.length)
  if repeated ∨ conflict ∨ none ∈ seen.outputs then .invalid
  else match seen.inputs with
    | [] => .invalid
    | input :: _ =>
      .run
        { input
          output := seen.outputs.head?.join
          verbosity := verbosityOfCount (count .verbose)
          preprocessOnly := 0 < count .preprocess
          withAddress := 0 < count .address
          showGrid := 0 < count .grid
          disassemble := 0 < count .disassemble }

def readInputs (seen : Seen) : List Text → Request
  | [] => judge seen
  | t :: ts =>
    match readInput seen t with
    | .next seen | .awaitOutput seen => readInputs seen ts
    | .answer request => request

/-- All arguments; `awaiting` tells that an output option lacks its value. -/
def readArguments (seen : Seen) (awaiting : Bool) : List Text → Request
  | [] => judge seen
  | t :: ts =>
    if t = ['-', '-'] then readInputs seen ts
    else if awaiting ∧ ¬ isOption t then readArguments (giveOutput seen t) false ts
    else match readArgument seen t with
      | .next seen => readArguments seen false ts
      | .awaitOutput seen => readArguments seen true ts
      | .answer request => request

def request (arguments : List Text) : Request :=
  readArguments ⟨[], [], []⟩ false arguments

end Anem.CommandLine
