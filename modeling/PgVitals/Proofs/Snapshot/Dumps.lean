import PgVitals.Proofs.Files.Below
import PgVitals.Proofs.Snapshot.History
/-!
# Dumping views one after the other

Each view has a file of its own. So after some views were dumped, every one of their files has grown
by what the server returned for the view, decided by what the file held in the beginning, and no
other file has changed; and where a dump fails, it is the last one.

* `Entry` is a view that was dumped, with what was sent and what came back; `Entry.addition` is what
  it adds to its file.
* `Dumped` relates two sessions by the views that were dumped between them: queries, answers and
  files. `Dumped.append` puts several after one another.
* `DumpEnds` lists how the dump of one view can end, and `dump_ends` says that there is no other
  way. The file cannot be opened, the query brings nothing back, a row cannot be written, or all is
  well.
* `Dumpable` are views with files of different names. `Dumpable.dumped`, `dumpAll_append` and
  `dumpAll_stops` say what happens to a list of them.

A file may be there before, and may hold anything. That two views do not share a file is a condition
on their names, and `Proofs/Snapshot/Frame` shows that the views of the program satisfy it.
-/

namespace PgVitals.Snapshot

open PgVitals.Catalog PgVitals.Files

/-- A view that was dumped: what was sent for it, and what came back. -/
structure Entry where
  view : Template
  statement : Statement
  reply : Reply
  set : ResultSet

/-- The file of a view in a directory. -/
def fileOf (d : Location) (t : Template) : Location := d ++ [t.name ++ ".csv"]

/-- What was sent was the query on the view, and what came back an answer to it, all of which can be
written. -/
def Entry.Sound (release : Release) (e : Entry) : Prop :=
  e.view.render release .null = .ok e.statement ∧ e.reply.set? = some e.set ∧
    e.set.rows.all Csv.isWritable = true

/-- What a view adds to its file: its rows, below a line of column names where the file was empty
and the snapshot is not quiet. -/
def Entry.addition (quiet : Bool) (d : Location) (files : Tree) (e : Entry) : Location × String :=
  (fileOf d e.view,
    Csv.block (!quiet && Tree.isEmptyContent (files.held (fileOf d e.view))) e.set)

/-- From one session to another some views were dumped: their queries were sent, in order, and every
answer is in the file of its view. -/
structure Dumped (quiet : Bool) (release : Release) (d : Location) (s : Session)
    (entries : List Entry) (s' : Session) : Prop where
  sound : ∀ e ∈ entries, e.Sound release
  exchanges : s'.exchanges = s.exchanges ++ entries.map fun e => (e.statement, e.reply)
  files : Tree.Grown s.files s'.files (entries.map (Entry.addition quiet d s.files))

variable {sink : Sink} {release : Release} {d : Location} {t : Template} {w : Surroundings}
  {s s' : Session}

/-! ## One view -/

/-- How a dump of a view can end. -/
inductive DumpEnds (sink : Sink) (release : Release) (d : Location) (t : Template)
    (w : Surroundings) (s : Session) : Except Stop Nat → Session → Prop
  | unopened {fault : Fault} {reason : String}
      (refused : s.files.openAppend (sink.path t.name) = .error fault)
      (reported : fault.systemReason = some reason) :
      DumpEnds sink release d t w s
        (.error (.failed (.sink (.notOpened (sink.path t.name) reason)))) s
  | unanswered {statement : Statement} {failure : Failure} {s' : Session}
      (leads : s.files.Leads (sink.path t.name) (fileOf d t))
      (rendered : t.render release .null = .ok statement)
      (none : Run.answer? w s statement = none)
      (files : s'.files = s.files.opened (fileOf d t))
      (exchanges : s'.exchanges = s.exchanges ++
        if s.link = .up then [(statement, w.reply s.past statement)] else []) :
      DumpEnds sink release d t w s (.error (.failed failure)) s'
  | unwritten {statement : Statement} {set : ResultSet} {reason : String} {s' : Session}
      (leads : s.files.Leads (sink.path t.name) (fileOf d t))
      (rendered : t.render release .null = .ok statement)
      (answer : Run.answer? w s statement = some set)
      (refused : w.writeRefusal = some reason) :
      DumpEnds sink release d t w s
        (.error (.failed (.sink (.notWritten (sink.path t.name) reason)))) s'
  | cutShort {statement : Statement} {set : ResultSet} {s' : Session}
      (leads : s.files.Leads (sink.path t.name) (fileOf d t))
      (rendered : t.render release .null = .ok statement)
      (answer : Run.answer? w s statement = some set)
      (long : set.rows.all Csv.isWritable = false) :
      DumpEnds sink release d t w s (.error (.failed (.fault .tooLongToWrite))) s'
  | dumped {e : Entry} {s' : Session}
      (leads : s.files.Leads (sink.path t.name) (fileOf d t))
      (own : e.view = t) (sound : e.Sound release)
      (answer : Run.answer? w s e.statement = some e.set)
      (files : s'.files = (s.files.opened (fileOf d t)).append (fileOf d t)
        (e.addition sink.quiet d s.files).2)
      (exchanges : s'.exchanges = s.exchanges ++ [(e.statement, e.reply)]) :
      DumpEnds sink release d t w s (.ok e.set.rows.length) s'

/-- A statement without an answer is the last one, if it is sent at all. -/
theorem exchanges_of_unanswered {statement : Statement} {stop : Stop}
    (h : (Run.fetch statement).perform w s = (.error stop, s')) :
    s'.exchanges = s.exchanges ++
      if s.link = .up then [(statement, w.reply s.past statement)] else [] := by
  have ends : Run.Fetched w s statement (.error stop) s' := by
    simpa only [h] using Run.fetched w s statement
  by_cases up : s.link = .up
  · rw [if_pos up]
    cases ends with
    | unsent down => exact absurd up down
    | refused _ error _ logs =>
      rw [Stretch.exchanges_silent logs, Session.exchanges_answered]
  · rw [if_neg up, List.append_nil, (ends.down up).1]

theorem perform_dump_unopened {fault : Fault} {reason : String}
    (refused : s.files.openAppend (sink.path t.name) = .error fault)
    (reported : fault.systemReason = some reason) :
    (dump sink t release).perform w s =
      (.error (.failed (.sink (.notOpened (sink.path t.name) reason))), s) := by
  have unopened : (sink.open t.name).perform w s = (.error (.failed (.fault fault)), s) := by
    rw [Sink.open, Run.perform_bind_ok Run.perform_get, refused]
    rfl
  have failure : sink.openFailure t.name (.fault fault) =
      .sink (.notOpened (sink.path t.name) reason) := by
    simp only [Sink.openFailure, reported]
  have ends : (Run.rescue (sink.open t.name) fun failure =>
      Run.fail (sink.openFailure t.name failure)).perform w s =
        (.error (.failed (.sink (.notOpened (sink.path t.name) reason))), s) := by
    rw [Run.perform_rescue, unopened]
    simp only [Run.perform_fail, failure]
  rw [dump, Run.perform_bind_error ends]

section

variable {statement : Statement} (leads : s.files.Leads (sink.path t.name) (fileOf d t))
  (rendered : t.render release .null = .ok statement)

/-- The session with the file of a view open. -/
def opening (d : Location) (t : Template) (s : Session) : Session :=
  { s with files := s.files.opened (fileOf d t) }

include leads rendered

/-- Once the file is open, the query is sent and the answer appended. -/
theorem perform_dump_opened :
    (dump sink t release).perform w s =
      (do
        let set ← Run.fetch statement
        let count ← Handle.writeOrFail ⟨fileOf d t, sink.path t.name,
          !sink.quiet && Tree.isEmptyContent (s.files.held (fileOf d t))⟩ set
        Run.log .debug (t.name ++ ": " ++ Number.natText count ++ " row(s)")
        return count : Run Nat).perform w (opening d t s) := by
  have opened := Dumping.perform_eq (d := ⟨sink, release, w, s⟩) leads
  rw [rendered] at opened
  exact opened

theorem perform_dump_unanswered (none : Run.answer? w s statement = none) :
    ∃ failure s', (dump sink t release).perform w s = (.error (.failed failure), s') ∧
      s'.files = s.files.opened (fileOf d t) ∧
      s'.exchanges = s.exchanges ++
        if s.link = .up then [(statement, w.reply s.past statement)] else [] := by
  obtain ⟨failure, s', failed⟩ := Run.perform_fetch_unanswered (s := opening d t s) none
  have files : ((Run.fetch statement).perform w (opening d t s)).2.files =
      (opening d t s).files := Run.files_fetch
  have exchanges := exchanges_of_unanswered failed
  rw [failed] at files
  refine ⟨failure, s', ?_, files, exchanges⟩
  rw [perform_dump_opened leads rendered, Run.perform_bind_error failed]

theorem perform_dump_unwritten {set : ResultSet} {reason : String}
    (answer : Run.answer? w s statement = some set) (refused : w.writeRefusal = some reason) :
    ∃ s', (dump sink t release).perform w s =
      (.error (.failed (.sink (.notWritten (sink.path t.name) reason))), s') := by
  have answered := Run.perform_fetch_answered (s := opening d t s) answer
  rw [perform_dump_opened leads rendered, Run.perform_bind_ok answered, Run.perform_bind,
    Handle.writeOrFail, Run.perform_bind_ok Run.perform_read, refused]
  exact ⟨_, rfl⟩

theorem perform_dump_answered {set : ResultSet} (answer : Run.answer? w s statement = some set)
    (writable : w.writeRefusal = none) :
    ∃ s', (dump sink t release).perform w s = (writeOutcome set, s') ∧
      s'.files = (s.files.opened (fileOf d t)).append (fileOf d t)
        (Csv.block (!sink.quiet && Tree.isEmptyContent (s.files.held (fileOf d t))) set) ∧
      s'.exchanges = s.exchanges ++ [(statement, w.reply s.past statement)] := by
  have answered := Run.perform_fetch_answered (s := opening d t s) answer
  rw [perform_dump_opened leads rendered, Run.perform_bind_ok answered]
  obtain ⟨s', ends, grown, exchanges⟩ := Dumping.perform_writeAndLog writable _ set t.name
  refine ⟨s', ends, ?_, ?_⟩
  · rw [grown, Session.files_answered]
    rfl
  · rw [exchanges]
    exact Session.exchanges_answered statement

end

theorem dump_ends (named : FileName (t.name ++ ".csv"))
    (renders : ∃ statement, t.render release .null = .ok statement)
    (directory : s.files.find sink.directory = .ok (.directory d)) :
    DumpEnds sink release d t w s ((dump sink t release).perform w s).1
      ((dump sink t release).perform w s).2 := by
  rcases Tree.openAppend_join named directory with leads | ⟨fault, reason, refused, reported⟩
  · obtain ⟨statement, rendered⟩ := renders
    change s.files.Leads (sink.path t.name) (fileOf d t) at leads
    rcases answer : Run.answer? w s statement with _ | set
    · obtain ⟨failure, s', ends, files, exchanges⟩ :=
        perform_dump_unanswered leads rendered answer
      rw [ends]
      exact .unanswered leads rendered answer files exchanges
    · rcases refused : w.writeRefusal with _ | reason
      · obtain ⟨s', ends, files, exchanges⟩ :=
          perform_dump_answered leads rendered answer refused
        have accepted : (w.reply s.past statement).set? = some set := by
          unfold Run.answer? at answer
          split at answer
          · exact answer
          · cases answer
        rw [ends]
        cases whole : set.rows.all Csv.isWritable with
        | true =>
          rw [writeOutcome, if_pos whole]
          exact .dumped (e := ⟨t, statement, w.reply s.past statement, set⟩) leads rfl
            ⟨rendered, accepted, whole⟩ answer files exchanges
        | false =>
          rw [writeOutcome, whole, if_neg Bool.false_ne_true]
          exact .cutShort leads rendered answer whole
      · obtain ⟨s', ends⟩ := perform_dump_unwritten leads rendered answer refused
        rw [ends]
        exact .unwritten leads rendered answer refused
  · rw [perform_dump_unopened refused reported]
    exact .unopened refused reported

/-! ## Several views -/

theorem fileOf_inj {t t' : Template} : fileOf d t = fileOf d t' ↔ t.name = t'.name := by
  simp [fileOf, String.append_left_inj]

/-- Nothing is dumped without a trace. -/
theorem Dumped.none {quiet : Bool} : Dumped quiet release d s [] s where
  sound _ member := nomatch member
  exchanges := (List.append_nil _).symm
  files := .none

/-- Views that were dumped, and then others. -/
theorem Dumped.append {quiet : Bool} {mid : Session} {first second : List Entry}
    (h₁ : Dumped quiet release d s first mid) (h₂ : Dumped quiet release d mid second s')
    (apart : ∀ a ∈ first, ∀ b ∈ second, a.view.name ≠ b.view.name) :
    Dumped quiet release d s (first ++ second) s' := by
  refine ⟨?_, ?_, ?_⟩
  · intro e member
    rcases List.mem_append.mp member with member | member
    · exact h₁.sound e member
    · exact h₂.sound e member
  · rw [h₂.exchanges, h₁.exchanges, List.map_append, List.append_assoc]
  · -- The views before have other files, so each view finds its file as it was.
    have untouched : second.map (Entry.addition quiet d mid.files) =
        second.map (Entry.addition quiet d s.files) := by
      refine List.map_congr_left fun b later => ?_
      have held : mid.files.held (fileOf d b.view) = s.files.held (fileOf d b.view) := by
        refine h₁.files.held ?_
        intro addition member
        obtain ⟨a, earlier, rfl⟩ := List.mem_map.mp member
        exact fun same => apart a earlier b later (fileOf_inj.mp same)
      rw [Entry.addition, Entry.addition, held]
    have later := h₂.files
    rw [untouched] at later
    rw [List.map_append]
    refine h₁.files.append later ?_
    intro x hx y hy
    obtain ⟨a, earlier, rfl⟩ := List.mem_map.mp hx
    obtain ⟨b, after, rfl⟩ := List.mem_map.mp hy
    exact fun same => apart a earlier b after (fileOf_inj.mp same)

/-- Views that can be dumped into one directory: each can be asked for, and has a file of its
own. -/
structure Dumpable (release : Release) (views : List Template) : Prop where
  named : ∀ t ∈ views, FileName (t.name ++ ".csv")
  renders : ∀ t ∈ views, ∃ statement, t.render release .null = .ok statement
  distinct : (views.map Template.name).Nodup

theorem Dumpable.rest {views : List Template} (h : Dumpable release (t :: views)) :
    Dumpable release views where
  named v member := h.named v (List.mem_cons_of_mem _ member)
  renders v member := h.renders v (List.mem_cons_of_mem _ member)
  distinct := (List.nodup_cons.mp h.distinct).2

theorem Dumpable.left {before after : List Template} (h : Dumpable release (before ++ after)) :
    Dumpable release before where
  named v member := h.named v (List.mem_append_left _ member)
  renders v member := h.renders v (List.mem_append_left _ member)
  distinct := by
    have distinct := h.distinct
    rw [List.map_append] at distinct
    exact (List.nodup_append.mp distinct).1

/-- A dump that succeeds is a view dumped. -/
theorem DumpEnds.dumped_of_ok {count : Nat}
    (h : DumpEnds sink release d t w s (.ok count) s') :
    ∃ e : Entry, e.view = t ∧ Dumped sink.quiet release d s [e] s' ∧
      (∀ place, s.files.find sink.directory = .ok (.directory place) →
        s'.files.find sink.directory = .ok (.directory place)) := by
  cases h with
  | @dumped e _ leads own sound answer files exchanges =>
    refine ⟨e, own, ⟨?_, exchanges, ?_⟩, ?_⟩
    · intro e' member
      obtain rfl := List.mem_singleton.mp member
      exact sound
    · obtain rfl := own
      rw [files]
      exact Tree.grown_append
    · intro place directory
      rw [files]
      exact Tree.find_directory_append (Tree.find_directory_opened directory)

/-- Dumps that all succeed return the names of the views, and leave every answer in its file. -/
theorem Dumpable.dumped {views : List Template} (dumpable : Dumpable release views)
    (directory : s.files.find sink.directory = .ok (.directory d)) {names : List String}
    (h : (dumpAll sink release views).perform w s = (.ok names, s')) :
    names = views.map Template.name ∧
      (∃ entries : List Entry, entries.map Entry.view = views ∧
        Dumped sink.quiet release d s entries s') ∧
      s'.files.find sink.directory = .ok (.directory d) := by
  induction views generalizing s names with
  | nil =>
    cases h
    exact ⟨rfl, ⟨[], rfl, .none⟩, directory⟩
  | cons t rest ih =>
    have ends := dump_ends (w := w) (dumpable.named t List.mem_cons_self)
      (dumpable.renders t List.mem_cons_self) directory
    rw [dumpAll] at h
    rcases first : (dump sink t release).perform w s with ⟨stop | count, mid⟩
    · rw [Run.perform_bind_error first] at h
      cases h
    · rw [Run.perform_bind_ok first] at h
      rw [first] at ends
      obtain ⟨e, own, one, stays⟩ := ends.dumped_of_ok
      rcases others : (dumpAll sink release rest).perform w mid with ⟨stop | more, last⟩
      · rw [Run.perform_bind_error others] at h
        cases h
      · rw [Run.perform_bind_ok others] at h
        cases h
        obtain ⟨rfl, ⟨entries, views, dumped⟩, there⟩ :=
          ih dumpable.rest (stays d directory) others
        refine ⟨rfl, ⟨e :: entries, by rw [List.map_cons, own, views], ?_⟩, there⟩
        refine one.append dumped ?_
        intro a member b later
        obtain rfl := List.mem_singleton.mp member
        -- No view of the rest has the name of the first.
        have fresh : t.name ∉ rest.map Template.name := (List.nodup_cons.mp dumpable.distinct).1
        rw [← views, List.map_map] at fresh
        rw [own]
        exact fun same => fresh (same ▸ List.mem_map_of_mem later)

/-- Dumps of more views go on from where the first ones ended. -/
theorem dumpAll_append (before after : List Template) :
    dumpAll sink release (before ++ after) = (do
      let names ← dumpAll sink release before
      let more ← dumpAll sink release after
      return names ++ more) := by
  induction before with
  | nil => simp [dumpAll]
  | cons t before ih =>
    rw [List.cons_append, dumpAll, dumpAll, ih]
    simp

/-- Where dumps fail, one of them is the first to fail. -/
theorem dumpAll_failed {views : List Template} {stop : Stop}
    (h : (dumpAll sink release views).perform w s = (.error stop, s')) :
    ∃ before t after names mid, views = before ++ t :: after ∧
      (dumpAll sink release before).perform w s = (.ok names, mid) ∧
      (dump sink t release).perform w mid = (.error stop, s') := by
  induction views generalizing s with
  | nil => cases h
  | cons t rest ih =>
    rw [dumpAll] at h
    rcases first : (dump sink t release).perform w s with ⟨failure | count, mid⟩
    · rw [Run.perform_bind_error first] at h
      cases h
      exact ⟨[], t, rest, [], s, rfl, rfl, first⟩
    · rw [Run.perform_bind_ok first] at h
      rcases others : (dumpAll sink release rest).perform w mid with ⟨failure | more, last⟩
      · rw [Run.perform_bind_error others] at h
        cases h
        obtain ⟨before, v, after, names, reached, rfl, done, fails⟩ := ih others
        refine ⟨t :: before, v, after, t.name :: names, reached, rfl, ?_, fails⟩
        rw [dumpAll, Run.perform_bind_ok first, Run.perform_bind_ok done]
        rfl
      · rw [Run.perform_bind_ok others] at h
        cases h

/-- The first dump to fail is the last one. -/
theorem dumpAll_stops {before after : List Template} {names : List String} {mid : Session}
    {stop : Stop} (done : (dumpAll sink release before).perform w s = (.ok names, mid))
    (fails : (dump sink t release).perform w mid = (.error stop, s')) :
    (dumpAll sink release (before ++ t :: after)).perform w s = (.error stop, s') := by
  have rest : (dumpAll sink release (t :: after)).perform w mid = (.error stop, s') := by
    rw [dumpAll, Run.perform_bind_error fails]
  rw [dumpAll_append, Run.perform_bind_ok done, Run.perform_bind_error rest]

end PgVitals.Snapshot
