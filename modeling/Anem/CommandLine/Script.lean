import Anem.Assembly
import Anem.CommandLine.Options
import Anem.FileTree
import Anem.Grid
import Anem.Instruction.Decode
import Anem.Listing
import Anem.Path

/-!
What the program does for its arguments, as a script of prints, reads and
writes. The script says how to go on after each answer of the system, and
leaves open who gives the answer: the system itself, or a file tree.
-/
namespace Anem.CommandLine

inductive Script where
  | exit (code : Nat)
  | print (text : Text) (next : Script)
  | load (path : Text) (next : Except Denial Text → Script)
  | save (path contents : Text) (next : Except Denial Unit → Script)

structure Outcome where
  code : Nat
  printed : Text
  tree : FileTree

def Script.runIn (tree : FileTree) : Script → Outcome
  | .exit code => ⟨code, [], tree⟩
  | .print text next =>
    let outcome := next.runIn tree
    { outcome with printed := text ++ outcome.printed }
  | .load path next => (next (tree.read path)).runIn tree
  | .save path contents next =>
    match tree.write path contents with
    | .ok tree => (next (.ok ())).runIn tree
    | .error denial => (next (.error denial)).runIn tree

def logLine (speaker : Text) (severity : Severity) (text : Text) : Text :=
  '[' :: speaker ++ "][".toList ++ severity.name ++ "] ".toList ++ text ++ ['\n']

/-- A line of the program itself, if the verbosity admits it. -/
def say (verbosity : Verbosity) (severity : Severity) (text : Text) (next : Script) : Script :=
  if verbosity.admits severity then .print (logLine "anemasm".toList severity text) next else next

def fail (text : Text) : Script :=
  .print (logLine "anemasm".toList .error ("fatal: ".toList ++ text)) (.exit 1)

/-- The records that the journal has come to show since an earlier state. -/
def news (before after : Journal) : List Record :=
  after.surfaced.toList.drop before.surfaced.size

def showNews (before after : Journal) (next : Script) : Script :=
  (news before after).foldr
    (fun r => .print (logLine "anemasm::assembler::diagnostics".toList r.severity r.text)) next

/-- The end of a run: its status, and success if it was not aborted and had no
error. -/
def finish (aborted : Bool) (journal : Journal) : Script :=
  let ending := .print (journal.status ++ ['\n'])
    (.exit (if aborted || !journal.isSuccess then 1 else 0))
  if journal.fatal then
    .print (logLine "anemasm".toList .error "assembly aborted, no binary written".toList) ending
  else ending

/-- Commits a pass and shows what it reports; an abort ends the run. -/
def commit {α : Type} (pass : Traced α) (journal : Journal) (next : α → Journal → Script) : Script :=
  match pass.commit journal with
  | (.ok value, after) => showNews journal after (next value after)
  | (.error _, after) => showNews journal after (finish true after)

def artifact (base extension contents : Text) (journal : Journal) (next : Journal → Script) :
    Script :=
  let path := Path.withExtension base extension
  .save path contents fun
    | .ok () =>
      let after := (journal.post (.info (path ++ " written".toList))).2
      showNews journal after (next after)
    | .error denial =>
      fail ("unable to write to output file `".toList ++ path ++ "`: ".toList ++ denial.message)

def finalPass (options : Options) (base : Text) (layout : Layout) (journal : Journal) : Script :=
  commit (Image.ofLayout layout) journal fun image journal =>
    let rest := artifact base "bin".toList (Listing.image options.withAddress image) journal
      (finish false)
    if options.showGrid then .print (Grid.print (Grid.ofImage layout image) ++ ['\n']) rest
    else rest

/-- Assembles a source, writing each artifact as soon as its pass is done. -/
def assemble (options : Options) (source : Text) : Script :=
  let base := options.output.getD (Path.withExtension options.input [])
  say options.verbosity .info "ANEM Assembler".toList <|
    commit (Statement.ofLines (SourceLine.ofSource source)) (.new options.verbosity)
      fun statements journal =>
        artifact base "clean".toList (Listing.statements statements) journal fun journal =>
          if options.preprocessOnly then finish false journal
          else commit (Layout.ofStatements statements) journal fun layout journal =>
            artifact base "ind".toList (Listing.layout layout) journal
              (finalPass options base layout)

def disassembleWord (w : Word) : Text :=
  match Instruction.decode w with
  | some ins => ins.print
  | none => "-- undecodable word ".toList ++ Word.binary w

def disassembly (words : List Word) : Text :=
  Text.unlines (words.map disassembleWord)

def disassemble (options : Options) (listing : Text) : Script :=
  match Listing.readImage listing with
  | .ok words => .print (disassembly words) (.exit 0)
  | .error cause =>
    fail ('`' :: options.input ++ "` is not a binary listing: ".toList ++ cause.message)

def describe (options : Options) : Text :=
  "Arguments:\n\tVerbosity: ".toList ++ options.verbosity.name ++
    "\n\tPreprocess Only: ".toList ++
    (if options.preprocessOnly then "true".toList else "false".toList) ++
    "\n\tOutfile: ".toList ++ options.output.getD "None".toList ++
    "\n\tInfile: ".toList ++ options.input

def run (options : Options) : Script :=
  say options.verbosity .debug (describe options) <|
    .load options.input fun
      | .ok source =>
        if options.disassemble then disassemble options source else assemble options source
      | .error denial =>
        fail ("unable to open input file `".toList ++ options.input ++ "`: ".toList ++
          denial.message)

def usage : Text :=
  "anemasm [-v...] [-e] [-i] [-d] [-o BASE] INPUT\nanemasm --disassemble BIN\n".toList

def script (arguments : List Text) : Script :=
  match request arguments with
  | .run options => run options
  | .version => .print "anemasm 0.1.0\n".toList (.exit 0)
  | .help => .print usage (.exit 0)
  | .invalid => .exit 1

end Anem.CommandLine
