import Anem.CommandLine.Script
import Anem.Proofs.Journal.Standing
import Anem.Proofs.Text.Numerals

/-!
The runs of a script. `Script.Runs` lets anyone give the answers and keeps what
the script did; a run in a file tree is one of them. `Leads` says what every run
of a script writes and how it ends, if nothing is denied to it, and has one
lemma for each part that a script is made of.
-/
namespace Anem.CommandLine

/-- What a script did, with the answer that it got. -/
inductive Deed where
  | printed (text : Text)
  | loaded (path : Text) (answer : Except Denial Text)
  | saved (path contents : Text) (answer : Except Denial Unit)

namespace Deed

/-- A file that is read holds the source, and a file that is written can be. -/
def Granted (source : Text) : Deed → Prop
  | printed _ => True
  | loaded _ (.ok contents) => contents = source
  | saved _ _ (.ok ()) => True
  | _ => False

instance (source : Text) : DecidablePred (Granted source) := fun
  | printed _ => inferInstanceAs (Decidable True)
  | loaded _ (.ok contents) => inferInstanceAs (Decidable (contents = source))
  | loaded _ (.error _) => inferInstanceAs (Decidable False)
  | saved _ _ (.ok ()) => inferInstanceAs (Decidable True)
  | saved _ _ (.error _) => inferInstanceAs (Decidable False)

def written? : Deed → Option (Text × Text)
  | saved path contents (.ok ()) => some (path, contents)
  | _ => none

end Deed

/-- The files that were written, in order, by path and contents. -/
def written (deeds : List Deed) : List (Text × Text) :=
  deeds.filterMap Deed.written?

namespace Script

/-- What a script does up to its exit, whoever answers. -/
inductive Runs : Script → List Deed → Nat → Prop where
  | exit (code : Nat) : Runs (.exit code) [] code
  | print (text : Text) {next : Script} {deeds : List Deed} {code : Nat}
    (rest : Runs next deeds code) : Runs (.print text next) (.printed text :: deeds) code
  | load (path : Text) {next : Except Denial Text → Script} (answer : Except Denial Text)
    {deeds : List Deed} {code : Nat} (rest : Runs (next answer) deeds code) :
    Runs (.load path next) (.loaded path answer :: deeds) code
  | save (path contents : Text) {next : Except Denial Unit → Script} (answer : Except Denial Unit)
    {deeds : List Deed} {code : Nat} (rest : Runs (next answer) deeds code) :
    Runs (.save path contents next) (.saved path contents answer :: deeds) code

end Script

/-! What is printed -/

/-- What the program says when a run was aborted. -/
def alarm : Text :=
  logLine "anemasm".toList .error "assembly aborted, no binary written".toList

theorem logLine_ne_alarm {severity : Severity} (mild : severity ≠ .error) (text : Text) :
    logLine "anemasm".toList severity text ≠ alarm := by
  intro same
  -- The first letter of the severity.
  have letter := congrArg (·[10]?) same
  cases severity with
  | error => exact mild rfl
  | warning | info | debug => cases letter

theorem diagnostic_ne_alarm (severity : Severity) (text : Text) :
    logLine "anemasm::assembler::diagnostics".toList severity text ≠ alarm := by
  intro same
  -- The speaker goes on where the program's own name ends.
  cases congrArg (·[8]?) same

/-- How the deeds and the code of a run tell its result. -/
structure Closing {α : Type} (deeds : List Deed) (code : Nat) (result : Except Abort α × Journal) :
    Prop where
  alarm : .printed alarm ∈ deeds ↔ ∃ abort, result.1 = .error abort
  status : deeds.getLast? = some (.printed (result.2.status ++ ['\n']))
  failure : code = 1 ↔ (∃ abort, result.1 = .error abort) ∨ 0 < result.2.errors
  success : code = 0 ↔ (∃ value, result.1 = .ok value) ∧ result.2.errors = 0

/-- If nothing is denied to a script, it writes these files and closes with this
result. -/
def Leads {α : Type} (source : Text) (s : Script) (files : List (Text × Text))
    (result : Except Abort α × Journal) : Prop :=
  ∀ deeds code, s.Runs deeds code → (∀ d ∈ deeds, d.Granted source) →
    written deeds = files ∧ Closing deeds code result

section Leads

variable {α : Type} {source : Text} {s : Script} {files : List (Text × Text)}
  {result : Except Abort α × Journal}

theorem Closing.cons {deeds : List Deed} {code : Nat} (h : Closing deeds code result) {d : Deed}
    (other : d ≠ .printed CommandLine.alarm) : Closing (d :: deeds) code result where
  alarm := by
    rw [List.mem_cons, or_iff_right (Ne.symm other)]
    exact h.alarm
  status := by
    cases deeds with
    | nil => cases h.status
    | cons first rest => exact h.status
  failure := h.failure
  success := h.success

/-- Only the standing of the journal counts. -/
theorem Leads.alike {outcome : Except Abort α} {j k : Journal} (h : Leads source s files (outcome, j))
    (alike : Journal.Alike j k) : Leads source s files (outcome, k) := by
  intro deeds code ran granted
  obtain ⟨files, closing⟩ := h deeds code ran granted
  refine ⟨files, closing.alarm, ?_, ?_, ?_⟩
  · rw [closing.status, alike.status]
  · rw [closing.failure, alike.errors]
  · rw [closing.success, alike.errors]

theorem Leads.print (h : Leads source s files result) {text : Text} (other : text ≠ alarm) :
    Leads source (.print text s) files result := by
  intro deeds code ran granted
  cases ran with
  | print _ rest =>
    obtain ⟨files, closing⟩ := h _ _ rest (List.forall_mem_cons.mp granted).2
    exact ⟨files, closing.cons (by simpa using other)⟩

theorem Leads.load {path : Text} {next : Except Denial Text → Script}
    (h : Leads source (next (.ok source)) files result) :
    Leads source (.load path next) files result := by
  intro deeds code ran granted
  cases ran with
  | load _ answer rest =>
    obtain ⟨own, others⟩ := List.forall_mem_cons.mp granted
    obtain rfl : answer = .ok source := by
      cases answer with
      | ok contents => exact congrArg _ own
      | error denial => exact absurd own id
    obtain ⟨files, closing⟩ := h _ _ rest others
    exact ⟨files, closing.cons nofun⟩

theorem Leads.save {path contents : Text} {next : Except Denial Unit → Script}
    (h : Leads source (next (.ok ())) files result) :
    Leads source (.save path contents next) ((path, contents) :: files) result := by
  intro deeds code ran granted
  cases ran with
  | save _ _ answer rest =>
    obtain ⟨own, others⟩ := List.forall_mem_cons.mp granted
    obtain rfl : answer = .ok () := by
      cases answer with
      | ok contents => rfl
      | error denial => exact absurd own id
    obtain ⟨files, closing⟩ := h _ _ rest others
    exact ⟨congrArg ((path, contents) :: ·) files, closing.cons nofun⟩

theorem Leads.say (h : Leads source s files result) (verbosity : Verbosity) {severity : Severity}
    (mild : severity ≠ .error) (text : Text) :
    Leads source (say verbosity severity text s) files result := by
  rw [CommandLine.say]
  split
  · exact h.print (logLine_ne_alarm mild text)
  · exact h

theorem Leads.showNews (h : Leads source s files result) (before after : Journal) :
    Leads source (showNews before after s) files result := by
  rw [CommandLine.showNews]
  induction news before after with
  | nil => exact h
  | cons r records ih => exact ih.print (diagnostic_ne_alarm r.severity r.text)

/-- The note on an artifact changes the records of the journal, not its standing. -/
theorem Leads.artifact {base extension contents : Text} {j : Journal} {next : Journal → Script}
    (h : ∀ k, Journal.Alike k j → Leads source (next k) files result) :
    Leads source (artifact base extension contents j next)
      ((Path.withExtension base extension, contents) :: files) result :=
  .save ((h _ (j.alike_info _)).showNews j _)

end Leads

end Anem.CommandLine
