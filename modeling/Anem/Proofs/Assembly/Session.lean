import Anem.Proofs.Assembly.Passes
import Anem.Proofs.Journal.Ledger

/-!
A session: one journal and whatever is asked of it, event by event or a whole
pass at a time, going on after an abort. After every session the counts are
those of the records and the shown records are those that the verbosity admits.
Sessions that differ in the verbosity alone differ in what is shown alone.
-/
namespace Anem

theorem Assembly.impartial_assemble (source : Text) : Journal.Impartial (assemble source) := by
  rw [assemble_eq_commit]
  exact Journal.impartial_commit (trace source)

namespace Session

/-- What can be asked of a journal: to take an event, to become fatal, or to
take the events of a pass. -/
inductive Request where
  | post (event : Event)
  | setFatal
  | statements (lines : List SourceLine)
  | layout (statements : List Statement)
  | image (layout : Layout)
  | assemble (source : Text)

inductive Reply where
  | done (abort : Option Abort)
  | statements (result : Except Abort (List Statement))
  | layout (result : Except Abort Layout)
  | image (result : Except Abort Image)
  | assembly (result : Except Abort Assembly)

def replying {α : Type} (reply : α → Reply) (outcome : α × Journal) : Reply × Journal :=
  (reply outcome.1, outcome.2)

def answer (j : Journal) : Request → Reply × Journal
  | .post event => replying .done (j.post event)
  | .setFatal => (.done none, j.setFatal)
  | .statements lines => replying .statements ((Statement.ofLines lines).commit j)
  | .layout statements => replying .layout ((Layout.ofStatements statements).commit j)
  | .image layout => replying .image ((Image.ofLayout layout).commit j)
  | .assemble source => replying .assembly (Assembly.assemble source j)

/-- Requests one after the other, also after one that was aborted. -/
def run (j : Journal) : List Request → List Reply × Journal
  | [] => ([], j)
  | request :: requests =>
    let (reply, k) := answer j request
    let (replies, last) := run k requests
    (reply :: replies, last)

theorem run_append (j : Journal) (earlier later : List Request) :
    (run j (earlier ++ later)).2 = (run (run j earlier).2 later).2 := by
  induction earlier generalizing j with
  | nil => rfl
  | cons request earlier ih => exact ih (answer j request).2

/-- The step lemma: no request notices the verbosity, and each keeps the books. -/
theorem impartial_answer (request : Request) : Journal.Impartial fun j => answer j request := by
  cases request with
  | post event => exact (Journal.impartial_post event).map Reply.done
  | setFatal => exact Journal.impartial_setFatal.map fun _ => Reply.done none
  | statements lines => exact (Journal.impartial_commit _).map Reply.statements
  | layout statements => exact (Journal.impartial_commit _).map Reply.layout
  | image layout => exact (Journal.impartial_commit _).map Reply.image
  | assemble source => exact (Assembly.impartial_assemble source).map Reply.assembly

/-- The run lemma: neither does a session. -/
theorem impartial_run (requests : List Request) :
    Journal.Impartial fun j => run j requests := by
  induction requests with
  | nil => exact fun l => ⟨[], l, id, fun _ => rfl⟩
  | cons request requests ih =>
    intro l
    obtain ⟨reply, middle, flag, answered⟩ := impartial_answer request l
    obtain ⟨replies, last, later, rest⟩ := ih middle
    refine ⟨reply :: replies, last, later ∘ flag, ?_⟩
    intro v
    simp only at answered rest
    simp only [run, answered v, rest v]

theorem impartial_new (requests : List Request) :
    ∃ replies l, ∀ v, run (.new v) requests = (replies, Ledger.journal l v) := by
  obtain ⟨replies, l, -, same⟩ := impartial_run requests ⟨false, []⟩
  exact ⟨replies, l, same⟩

/-- Once set, the fatal flag stays set for the rest of the session. -/
theorem fatal_stays {v : Verbosity} {earlier : List Request}
    (set : (run (.new v) earlier).2.fatal = true) (later : List Request) :
    (run (.new v) (earlier ++ later)).2.fatal = true := by
  obtain ⟨_, middle, first⟩ := impartial_new earlier
  obtain ⟨_, last, flag, second⟩ := impartial_run later middle
  have rest : run (Ledger.journal middle v) later = _ := second v
  rw [first v] at set
  rw [run_append, first v, rest]
  exact flag set

/-- **The books are kept, whoever looks.** After every session in a new journal
the errors and warnings counted are the records of these severities, the fatal
flag is set if it was set before, and the records shown are those that the
verbosity admits, in order. With another verbosity the same requests have the
same replies and leave the same counts, flag and records; the lower of the two
shows those of the higher that it admits. -/
theorem session_accounts (requests : List Request) (v w : Verbosity) :
    let first := run (.new v) requests
    let second := run (.new w) requests
    first.2.errors = first.2.records.toList.countP (fun r => r.severity = .error) ∧
    first.2.warnings = first.2.records.toList.countP (fun r => r.severity = .warning) ∧
    (∀ earlier later, requests = earlier ++ later →
      (run (.new v) earlier).2.fatal = true → first.2.fatal = true) ∧
    first.2.surfaced.toList = first.2.records.toList.filter (fun r => v.admits r.severity) ∧
    second.1 = first.1 ∧ second.2.errors = first.2.errors ∧
    second.2.warnings = first.2.warnings ∧ second.2.fatal = first.2.fatal ∧
    second.2.records = first.2.records ∧
    (v.rank ≤ w.rank →
      first.2.surfaced.toList =
        second.2.surfaced.toList.filter (fun r => v.admits r.severity) ∧
      first.2.surfaced.toList.Sublist second.2.surfaced.toList) := by
  obtain ⟨replies, l, same⟩ := impartial_new requests
  have stays : ∀ earlier later, requests = earlier ++ later →
      (run (.new v) earlier).2.fatal = true → (run (.new v) requests).2.fatal = true := by
    rintro earlier later rfl set
    exact fatal_stays set later
  rw [same v] at stays
  rw [same v, same w]
  refine ⟨rfl, rfl, stays, rfl, rfl, rfl, rfl, rfl, rfl, ?_⟩
  intro le
  have lower := l.surfaced_of_le le
  exact ⟨lower, lower ▸ List.filter_sublist⟩

/-- A run that goes through with a warning, an error of its own, and a run that
ends at its first fault because the journal has been made fatal in between. -/
def interrupted : List Request :=
  [.assemble "HAB\n.ADDRESS 0\nHAB\n".toList, .post (.error 7 (.malformed "FOO".toList)), .setFatal,
   .assemble "HAB\n.BOGUS\nHAB\n".toList, .post (.info "done".toList)]

theorem session_accounts_interrupted :
    let first := run (.new .error) interrupted
    let second := run (.new .debug) interrupted
    Verbosity.error.rank ≤ Verbosity.debug.rank ∧
    first.2.errors = 2 ∧ first.2.warnings = 1 ∧ first.2.fatal = true ∧
    first.2.surfaced.size = 2 ∧ second.2.surfaced.size = 7 ∧ second.1 = first.1 ∧
    first.2.surfaced.toList.Sublist second.2.surfaced.toList := by
  have le : Verbosity.error.rank ≤ Verbosity.debug.rank := by decide
  obtain ⟨-, -, stays, -, replies, -, -, -, -, shown⟩ :=
    session_accounts interrupted .error .debug
  refine ⟨le, by decide +kernel, by decide +kernel, ?_, by decide +kernel, by decide +kernel,
    replies, (shown le).2⟩
  exact stays (interrupted.take 3) (interrupted.drop 3) rfl (by decide +kernel)

end Session

end Anem
