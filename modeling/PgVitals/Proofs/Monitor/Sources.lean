import PgVitals.Proofs.Monitor.Observed
import PgVitals.Proofs.Monitor.Samples
/-!
# Collectors as sources

A collector sends statements and logs, and does nothing that a sampler does; and its calls come to
an end. So what holds of a sampler on any source holds of the monitor.

* `Outside.of_converses` takes over what is known of runs that talk to the server only.
* `Collector.converses_sample` says that a call of a collector is such a run, whatever its domain,
  and `Collector.source_proper` that a collector is therefore a proper source.
* `perform_terminalHeight` says that the height of the terminal can always be told; where the
  terminal does not know it, there is a default.

The laws of the sampler are stated of sources in general. This file is all that is between them and
the collectors of the monitor, so a new domain needs nothing here.
-/

namespace PgVitals.Monitor

/-- Talking to the server is outside of the sampler. -/
theorem Outside.of_converses {α : Type} {r : Run α} (h : r.Converses) : Outside r := by
  refine h.mono fun event conversation => ?_
  cases event <;> first | rfl | cases conversation

namespace Collector

theorem converses_advance (c : Collector) (records : List Record) :
    (c.advance records).Converses := by
  induction records generalizing c with
  | nil => exact .pure _
  | cons record records ih =>
    have line : (c.line (c.engine.diff record)).Converses := by
      rw [line_eq]
      exact (c.converses_sizesOf _).bind fun _ => .ofFault _
    have shown : (c.engine.advance record c.line).Converses := line.bind fun _ => .pure _
    refine shown.attempt.bind fun ended => ?_
    split
    · exact .pure _
    · exact (ih _).bind fun _ => .pure _

theorem converses_sample (c : Collector) : c.sample.Converses := by
  have read : c.read.Converses := (Run.Converses.fetch _).bind fun _ => .ofFault _
  refine read.attempt.bind fun ended => ?_
  split
  · exact .pure _
  · exact c.converses_advance _

theorem source_proper : source.Proper where
  header _ := .pure _
  sample c := Outside.of_converses
    (c.converses_sample.bind fun _ => (Run.Makes.ofExcept _).bind fun _ => .pure _)

end Collector

theorem outside_terminalHeight : Outside terminalHeight :=
  Run.Makes.read.bind fun _ => .pure _

end PgVitals.Monitor
