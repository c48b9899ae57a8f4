import Anem.Event

/-!
The journal of a run. It records every event, counts errors and warnings, and
shows the records that its verbosity admits. Once it is fatal, an error ends
the run.
-/
namespace Anem

inductive Severity where
  | error | warning | info | debug
deriving DecidableEq, Repr

namespace Severity

def rank : Severity → Nat
  | error => 1
  | warning => 2
  | info => 3
  | debug => 4

def name : Severity → Text
  | error => "ERROR".toList
  | warning => "WARN".toList
  | info => "INFO".toList
  | debug => "DEBUG".toList

end Severity

/-- The least severe records that are shown. -/
inductive Verbosity where
  | off | error | warning | info | debug | trace
deriving DecidableEq, Repr

namespace Verbosity

def rank : Verbosity → Nat
  | off => 0
  | error => 1
  | warning => 2
  | info => 3
  | debug => 4
  | trace => 5

def name : Verbosity → Text
  | off => "OFF".toList
  | error => "ERROR".toList
  | warning => "WARN".toList
  | info => "INFO".toList
  | debug => "DEBUG".toList
  | trace => "TRACE".toList

def admits (v : Verbosity) (s : Severity) : Bool :=
  s.rank ≤ v.rank

end Verbosity

structure Record where
  severity : Severity
  line : Option Nat
  message : Text
deriving DecidableEq, Repr

def Record.text (r : Record) : Text :=
  match r.line with
  | some line => "Line ".toList ++ Text.decimal line ++ ": ".toList ++ r.message
  | none => r.message

structure Journal where
  verbosity : Verbosity
  errors : Nat
  warnings : Nat
  fatal : Bool
  records : Array Record
  surfaced : Array Record

namespace Journal

def new (verbosity : Verbosity) : Journal :=
  ⟨verbosity, 0, 0, false, #[], #[]⟩

def record (j : Journal) (r : Record) : Journal :=
  { j with
    records := j.records.push r
    surfaced := if j.verbosity.admits r.severity then j.surfaced.push r else j.surfaced }

/-- From now on an error ends the run. -/
def setFatal (j : Journal) : Journal :=
  { j with fatal := true }

/-- What marks an error that ended the run. -/
def fatalMark : Text := "(FATAL) ".toList

def abort (j : Journal) (line : Nat) (cause : Fault) : Option Abort × Journal :=
  (some ⟨line, cause⟩,
    { j with errors := j.errors + 1 }.record
      ⟨.error, some line, fatalMark ++ cause.message⟩)

/-- Enters one event; the answer tells whether it ends the run. -/
def post (j : Journal) : Event → Option Abort × Journal
  | .error line cause =>
    if j.fatal then j.abort line cause
    else (none, { j with errors := j.errors + 1 }.record ⟨.error, some line, cause.message⟩)
  | .fatal line cause => j.setFatal.abort line cause
  | .warning line message =>
    (none, { j with warnings := j.warnings + 1 }.record ⟨.warning, line, message⟩)
  | .info message => (none, j.record ⟨.info, none, message⟩)
  | .debug message => (none, j.record ⟨.debug, none, message⟩)

/-- Enters events up to the first one that ends the run. -/
def absorb (j : Journal) : List Event → Option Abort × Journal
  | [] => (none, j)
  | e :: es =>
    match j.post e with
    | (some abort, j) => (some abort, j)
    | (none, j) => j.absorb es

theorem absorb_append (j : Journal) (es fs : List Event) :
    j.absorb (es ++ fs) =
      match j.absorb es with
      | (some abort, j) => (some abort, j)
      | (none, j) => j.absorb fs := by
  induction es generalizing j with
  | nil => rfl
  | cons e es ih =>
    rw [List.cons_append, absorb, absorb]
    rcases j.post e with ⟨_ | a, k⟩
    · exact ih k
    · rfl

def status (j : Journal) : Text :=
  Text.decimal j.errors ++ " error(s) ".toList ++ Text.decimal j.warnings ++
    " warning(s)".toList

def isSuccess (j : Journal) : Bool :=
  j.errors == 0

end Journal

/-- Work that reports to a journal and may be aborted by it. -/
abbrev Run := ExceptT Abort (StateM Journal)

/-- A traced result counts unless one of its events ends the run. -/
def Traced.commit {α : Type} (t : Traced α) : Run α :=
  fun j =>
    match j.absorb t.events.toList with
    | (some abort, j) => (.error abort, j)
    | (none, j) => (.ok t.value, j)

end Anem
