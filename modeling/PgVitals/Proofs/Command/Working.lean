import PgVitals.Command.Tasks
import PgVitals.Proofs.Monitor.Sources
import PgVitals.Proofs.Session.Working
import PgVitals.Proofs.Trace.Turns
/-!
# The work of the utilities

None of the utilities hangs up, complains or touches the handlers of signals while it works: all of
that is left to those who start it.

For each function of the utilities there is one lemma, named `works_` and the function; it follows
the text of the function, and ends in the lemmas of what the function calls. The five at the top are

* `Snapshot.works_run`, with the files that a snapshot opens and writes,
* `Monitor.works_run`, over `Monitor.Sampler.works_step`, which is about any source that does
  nothing but work,
* `Report.works_run` and `Trace.works_start`, with their teardowns,
* `FreeSpace.works_display`.

Loops are covered as they are: a run of the sampler or a trace that is cut short has done nothing
but work until then. Whether these runs end, and with what, is no matter of this file.
-/

namespace PgVitals

open PgVitals.Catalog Run

/-! ## Snapshots -/

namespace Snapshot

theorem works_requireDirectory (directory : Value) : Works (requireDirectory directory) := by
  refine Works.get.bind fun s => (Works.ofFault _).bind fun found => ?_
  split
  · exact .fail _
  · exact .pure _

theorem works_open (sink : Sink) (name : String) : Works (sink.open name) := by
  intro w s
  rw [Sink.open, perform_bind, perform_get]
  simp only
  rcases s.files.openAppend (sink.path name) with fault | ⟨location, files⟩
  · exact ⟨[], .rest, by simp⟩
  · exact ⟨[], ⟨rfl, rfl⟩, by simp⟩

theorem works_write (h : Handle) (set : ResultSet) : Works (h.writeOrFail set) := by
  refine Works.read.bind fun w => ?_
  split
  · exact .fail _
  · unfold Handle.write
    exact (Works.modify (by simp) (by simp)).bind fun _ => (Works.ofFault _).bind fun _ => .pure _

theorem works_dump (sink : Sink) (t : Template) (release : Release) :
    Works (dump sink t release) :=
  ((works_open sink t.name).rescue fun _ => .fail _).bind fun handle =>
    (Works.ofExcept _).bind fun statement => (Works.fetch statement).bind fun set =>
      (works_write handle set).bind fun _ => (Works.log _ _).bind fun _ => .pure _

theorem works_dumpAll (sink : Sink) (release : Release) (views : List Template) :
    Works (dumpAll sink release views) := by
  induction views with
  | nil => exact .pure _
  | cons t rest ih => exact (works_dump sink t release).bind fun _ => ih.bind fun _ => .pure _

theorem works_capabilities : Works capabilities := by
  refine Works.bind ?_ fun _ => (Works.rows _).bind fun _ => .pure _
  refine (Works.rows _).bind fun rows => ?_
  split
  · exact .pure _
  · exact (Works.firstCell rows).bind fun _ => .pure _

theorem works_run (directory : Value) (quiet : Bool) : Works (run directory quiet) := by
  unfold run
  refine (works_requireDirectory directory).bind fun _ => Works.fetchRelease.bind fun release => ?_
  split
  -- Where the release is printed, that comes first; the rest is the same.
  refine (Works.printLine _).bind fun _ => ?_
  all_goals
    refine works_capabilities.bind fun granted => Works.bind (.forM _ fun _ => .log _ _) fun _ => ?_
    split
    · exact .pure _
    · exact works_dumpAll _ _ _
    · exact .fail _

end Snapshot

/-! ## The monitor -/

namespace Monitor

namespace Sampler

theorem works_take (signal : Signal) : Works (take signal) :=
  Works.get.bind fun _ => (Works.modify (by simp) (by simp)).bind fun _ =>
    (Works.note (by rfl)).bind fun _ => .pure _

theorem works_consume {height : Run Int} (measures : Works height) (s : Sampler) :
    Works (s.consume height) := by
  have last : ∀ s : Sampler, Works (do return if ← take .resume then s.hurry else s) :=
    fun s => (works_take .resume).bind fun _ => .pure _
  refine (works_take .resize).bind fun resized => ?_
  split
  · refine Works.bind ?_ last
    exact measures.bind fun rows => (Works.note (by rfl)).bind fun _ =>
      (Works.log _ _).bind fun _ => .pure _
  · exact (Works.pure s).bind last

theorem works_pauseSlices (fuel : Nat) (remaining : Float) :
    Works (pauseSlices fuel remaining) := by
  induction fuel generalizing remaining with
  | zero => exact .unfinished
  | succ fuel ih =>
    unfold pauseSlices
    split
    · refine Works.shutdownWanted.bind fun wanted => ?_
      split
      · exact (Works.sleep _).bind fun _ => ih _
      · exact .pure _
    · exact .pure _

theorem works_pause (seconds : Value) : Works (pause seconds) := by
  refine Works.read.bind fun w => ?_
  split
  · exact works_pauseSlices _ _
  · refine (Works.ofFault _).bind fun positive => ?_
    split
    · refine Works.shutdownWanted.bind fun wanted => ?_
      split
      · refine (Works.ofFault _).bind fun short => ?_
        split
        · exact .sleep _
        · exact (Works.sleep _).bind fun _ => (Works.ofFault _).bind fun rest =>
            works_pauseSlices _ _
      · exact .pure _
    · exact .pure _

variable {σ : Type} {source : Source σ} {height : Run Int}

/-- A step does nothing but work, where its source does not either. -/
theorem works_step (headers : ∀ state, Works (source.header state))
    (samples : ∀ state, Works (source.sample state)) (measures : Works height) (pace : Pace)
    (state : σ) (s : Sampler) : Works (step source height pace state s) := by
  have lines : ∀ lines, Works (printLines lines) := fun lines => .forM lines fun _ => .printLine _
  unfold step
  cases s.phase with
  | begin => exact (works_consume measures s).bind fun _ => .pure _
  | header =>
    exact (Works.note (by rfl)).bind fun _ => (headers state).bind fun _ =>
      (lines _).bind fun _ => .pure _
  | sample =>
    exact (Works.note (by rfl)).bind fun _ => (samples state).bind fun _ =>
      (lines _).bind fun _ => .pure _
  | sleep =>
    exact (works_pause _).bind fun _ => (works_consume measures s).bind fun _ => .pure _
  | done => exact .pure _

theorem works_drive (headers : ∀ state, Works (source.header state))
    (samples : ∀ state, Works (source.sample state)) (measures : Works height) (pace : Pace)
    (fuel : Nat) (state : σ) (s : Sampler) (before : List Sampler) :
    Works (drive source height pace fuel state s before) := by
  induction fuel generalizing state s before with
  | zero => exact .unfinished
  | succ fuel ih =>
    unfold drive
    simp only
    split
    · exact .pure _
    · refine Works.shutdownWanted.bind fun wanted => ?_
      split
      · exact .pure _
      · refine (works_step headers samples measures pace state s).attempt.bind fun ended => ?_
        split
        · exact .pure _
        · exact ih _ _ _

end Sampler

theorem works_releaseFor (domain : Domain) : Works (releaseFor domain) := by
  have available : ∀ release, Works (checkAvailable domain release) := by
    intro release
    unfold checkAvailable
    split
    · exact .ofFault _
    · refine (Works.ofExcept _).bind fun _ => ?_
      split
      · refine (Works.rows _).bind fun rows => ?_
        split
        · exact .fail _
        · exact .pure _
      · exact .pure _
  unfold releaseFor
  split
  · exact .pure _
  · exact Works.fetchRelease.bind fun release => (available release).bind fun _ => .pure _

theorem works_run (subject : Subject) (pace : Pace) : Works (run subject pace) := by
  have sampled : ∀ c : Collector, Works (Sampler.run Collector.source terminalHeight pace c) := by
    intro c
    have course : Works (Sampler.course Collector.source terminalHeight pace c) :=
      Works.read.bind fun w => Sampler.works_drive (fun _ => .pure _)
        (fun c => (Works.of_converses c.converses_sample).bind fun _ =>
          (Works.ofExcept _).bind fun _ => .pure _)
        (Works.read.bind fun _ => .pure _) pace _ _ _ _
    refine course.bind fun course => ?_
    split
    · exact .pure _
    · exact .fail _
  exact (works_releaseFor _).bind fun release =>
    ((Works.ofExcept _).bind fun _ => (Works.log _ _).bind fun _ => .pure _).bind sampled

end Monitor

/-! ## Reports -/

namespace Report

theorem works_teardown : Works teardown := by
  refine Works.get.bind fun s => ?_
  split
  · exact (Works.execute _).bind fun _ => .hold _
  · exact .pure _

theorem works_dropAfterFailure : Works dropAfterFailure := by
  refine Works.get.bind fun s => ?_
  split
  · refine works_teardown.rescue fun failure => ?_
    split
    · exact .log _ _
    · exact .fail _
  · exact .pure _

theorem works_setup : Works setup := by
  have claim : Works claimSchema := by
    refine Works.bind ((Works.execute _).rescue fun failure => ?_) fun _ => .hold _
    split
    · split <;> exact .fail _
    · exact .fail _
  have install : ∀ name, Works (installExtension name) := by
    intro name
    refine (Works.rows _).bind fun rows => ?_
    split
    · exact (Works.log _ _).bind fun _ => .pure _
    · refine (Works.firstCell _).bind fun cell => ?_
      split
      · exact (Works.execute _).bind fun _ => (Works.log _ _).bind fun _ => .pure _
      · exact .pure _
  refine claim.bind fun _ => (Works.execute _).bind fun _ => ?_
  refine Works.bind (.forM _ fun name => (install name).bind fun there => ?_) fun _ =>
    .forM _ fun _ => .execute _
  split
  · exact .hold _
  · exact .pure _

theorem works_printSection (request : Request) (release : Release) (s : Report.Section) :
    Works (printSection request release s) := by
  have paragraph : ∀ text, Works (printParagraph text) := fun text =>
    (Works.printLine _).bind fun _ => .printLine _
  have answer : Works (fetchSection release s) := by
    unfold fetchSection
    split
    · exact .fetch _
    · exact .ofFault _
  refine Works.get.bind fun session => ?_
  split
  · exact paragraph _
  · split
    · exact paragraph _
    · refine answer.bind fun set => Works.bind ?_ fun _ => paragraph _
      unfold valueText
      split
      · exact .pure _
      · exact (Works.firstCell _).bind fun _ => .ofFault _
    · exact answer.bind fun set => (Works.ofFault _).bind fun _ => .printLine _

theorem works_printSections (request : Request) (release : Release)
    (sections : List Report.Section) : Works (printSections request release sections) := by
  induction sections with
  | nil => exact .pure _
  | cons s rest ih =>
    refine Works.shutdownWanted.bind fun wanted => ?_
    split
    · exact .fail _
    · exact (works_printSection request release s).bind fun _ => ih

theorem works_run (request : Request) : Works (run request) := by
  have build : ∀ release, Works (build request release) := fun release =>
    works_setup.bind fun _ => (Works.ofFault _).bind fun _ => works_printSections _ _ _
  exact Works.fetchRelease.bind fun release =>
    ((build release).rescue fun _ => works_dropAfterFailure.bind fun _ => .fail _).bind fun _ =>
      works_teardown

end Report

/-! ## Traces -/

namespace Trace

theorem works_install (workers : Bool) : Works (install workers) :=
  (Works.hold _).bind fun _ => (Works.execute _).bind fun _ => (Works.log _ _).bind fun _ =>
    (Works.execute _).bind fun _ => (Works.execute _).bind fun _ => .log _ _

theorem works_drop : Works drop :=
  (Works.execute _).bind fun _ => (Works.execute _).bind fun _ => (Works.hold _).bind fun _ =>
    .log _ _

theorem works_dropAfterFailure : Works dropAfterFailure := by
  refine Works.get.bind fun s => ?_
  split
  · split
    · exact .log _ _
    · refine works_drop.rescue fun failure => ?_
      split
      · exact .log _ _
      · exact .fail _
  · exact .pure _

theorem works_withHelper {α : Type} {body : Run α} (workers : Bool) (h : Works body) :
    Works (withHelper workers body) := by
  have guard : ∀ {β : Type} {r : Run β}, Works r → Works (guarded r) := fun works =>
    works.rescue fun _ => works_dropAfterFailure.bind fun _ => .fail _
  exact (guard (works_install workers)).bind fun _ => (guard h).bind fun _ =>
    works_drop.bind fun _ => .pure _

theorem works_poll (t : Target) : Works (poll t) := by
  refine (Works.rows _).bind fun rows => ?_
  split
  · exact (Works.printLine _).bind fun _ => .fail _
  · refine (Works.ofFault _).bind fun query => ?_
    split
    · exact (Works.printValue _ _).bind fun _ => .pure _
    · exact .pure _
  · exact .pure _

theorem works_gather (t : Target) : Works (gather t) := by
  have call : ∀ processes, Works (callHelper t processes) := by
    intro processes
    refine (Works.rows _).map.rescue fun failure => ?_
    split
    · split
      · exact (Works.log _ _).bind fun _ => .pure _
      · exact .fail _
    · exact .fail _
  rw [gather_eq]
  refine Works.bind ?_ call
  split
  · exact (Works.rows _).bind fun _ => .firstCell _
  · exact .pure _

theorem works_report (q : Query) (f : Findings) : Works (report q f) := by
  have rest : Works (do
      let histogram ← Run.ofFault (Histogram.ofRows f.rows)
      Run.printLine (← Run.ofFault histogram.render)
      return histogram) :=
    (Works.ofFault _).bind fun _ => (Works.ofFault _).bind fun _ =>
      (Works.printLine _).bind fun _ => .pure _
  unfold report
  refine (Works.rows _).bind fun rows => (Works.ofFault _).bind fun durations =>
    (Works.printValue _ _).bind fun _ => (Works.printValue _ _).bind fun _ => ?_
  split
  · exact (Works.printValue _ _).bind fun _ => rest
  · exact rest

theorem works_watch (t : Target) (fuel : Nat) : Works (watch t fuel) := by
  induction fuel with
  | zero => exact .unfinished
  | succ fuel ih =>
    have rest : Works (do Run.sleep (.float pollInterval); watch t fuel) :=
      (Works.sleep _).bind fun _ => ih
    refine Works.shutdownWanted.bind fun wanted => ?_
    split
    · exact .fail _
    · refine (works_poll t).bind fun found => ?_
      split
      · refine Works.bind ((works_gather t).bind fun findings => ?_) fun _ => rest
        split
        · exact .pure _
        · exact (works_report _ _).bind fun _ => .pure _
      · exact rest

theorem works_start (t : Target) : Works (start t) := by
  have watched : Works (run t) :=
    (Works.ofFault _).bind fun _ => (Works.printLine _).bind fun _ => Works.read.bind fun _ =>
      works_watch t _
  exact Works.fetchRelease.bind fun _ => (Works.ofExcept _).bind fun _ =>
    works_withHelper t.workers watched

end Trace

/-! ## Free space -/

theorem FreeSpace.works_display (relation : Value) (groups : Int) :
    Works (display relation groups) := by
  have size : Works fetchBlockSize :=
    (Works.rows _).bind fun _ => (Works.firstCell _).bind fun _ => (Works.ofFault _).bind fun _ =>
      (Works.logWritten _ _).bind fun _ => .pure _
  unfold display
  split
  · exact .fail _
  · refine (Works.rows _).bind fun rows => ?_
    split
    · exact .fail _
    · exact size.bind fun _ => (Works.rows _).bind fun _ => (Works.ofFault _).bind fun _ =>
        (Works.ofFault _).bind fun _ => (Works.printLine _).bind fun _ =>
          (Works.ofFault _).bind fun _ => (Works.printLine _).bind fun _ =>
            (Works.printLine _).bind fun _ => (Works.printLine _).bind fun _ =>
              (Works.ofFault _).bind fun _ => (Works.ofFault _).bind fun _ =>
                (Works.printLine _).bind fun _ => (Works.printLine _).bind fun _ => .pure _

end PgVitals
