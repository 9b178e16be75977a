import PgVitals.Proofs.Csv.Decoding
import PgVitals.Proofs.Session.Answers
import PgVitals.Proofs.Session.Objects
import PgVitals.Snapshot.Dump
/-!
# The file of a view

The file of a view grows with every dump of the view. Whether a line of column names is due is
decided before the server is asked, from what the file holds then: a dump that fails, or that is
quiet and finds no rows, leaves an empty file empty, and the decision to the next one. So what
stands at the top of the file is decided by the first dump that leaves anything in it.

* `Dumping` is a dump with what it meets, and `Dumping.addition` what it adds to a file that is
  empty, or is not. `Dumping.held_perform` says that this is what a dump leaves behind.
* `addition_blank` and `addition_more` are the two steps: into a file with nothing in it, and into
  one with something.
* `filesAfter` are the files after some dumps. `Into.held_filesAfter` is the induction over them,
  with `heading` for what stands at the top and `rowsOf` for everything below.
* `Into` says that the paths of the dumps lead to one file, which can be written to; `Into.rest`
  keeps that up.

Different dumps may be made with different releases, servers, options and even paths. A dump that
fails over a row has left the rows in front of it, and counts with these. Nothing else writes to the
file meanwhile.
-/

namespace PgVitals.Snapshot

open PgVitals.Catalog PgVitals.Files

/-! ## One dump -/

/-- A dump of a view: the sink and the release it is made with, and what it meets. The files of the
session are those that the dumps before have left. -/
structure Dumping where
  sink : Sink
  release : Release
  surroundings : Surroundings
  session : Session

namespace Dumping

variable {t : Template} {d : Dumping} {files : Tree} {l : Location}

/-- The outcome of a dump, and the session after it. -/
def perform (t : Template) (d : Dumping) (files : Tree) : Except Stop Nat × Session :=
  (dump d.sink t d.release).perform d.surroundings { d.session with files := files }

/-- What the server answers; nothing where the release has no such view or the query fails. -/
def answer? (t : Template) (d : Dumping) : Option ResultSet :=
  match t.render d.release .null with
  | .error _ => none
  | .ok statement => Run.answer? d.surroundings d.session statement

/-- What a dump adds to a file that is empty, or is not. -/
def addition (t : Template) (d : Dumping) (blank : Bool) : String :=
  match d.answer? t with
  | none => ""
  | some set => Csv.block (!d.sink.quiet && blank) set

/-- Opening the file of a view makes it, where there is none, and looks whether it is empty. -/
theorem perform_open {w : Surroundings} {s : Session} {sink : Sink} {name : String}
    (leads : s.files.Leads (sink.path name) l) :
    (sink.open name).perform w s =
      (.ok ⟨l, sink.path name, !sink.quiet && Tree.isEmptyContent (s.files.held l)⟩,
        { s with files := s.files.opened l }) := by
  rw [Sink.open, Run.perform_bind_ok Run.perform_get, leads.openAppend, Run.ofFault, pure_bind,
    Run.perform_bind_ok (Run.perform_set _)]
  simp only [Tree.content?_opened, Option.map_some, Option.getD_some]
  rfl

/-- What follows the answer of the server: it is appended, and the number of rows logged. -/
theorem perform_writeAndLog {w : Surroundings} {s : Session} (writable : w.writeRefusal = none)
    (handle : Handle) (set : ResultSet) (name : String) :
    ∃ s', (do
        let count ← handle.writeOrFail set
        Run.log .debug (name ++ ": " ++ Number.natText count ++ " row(s)")
        return count : Run Nat).perform w s = (writeOutcome set, s') ∧
      s'.files = s.files.append handle.location (Csv.block handle.header set) ∧
      s'.exchanges = s.exchanges := by
  have written : (handle.writeOrFail set).perform w s = (handle.write set).perform w s := by
    rw [Handle.writeOrFail, Run.perform_bind_ok Run.perform_read, writable]
  rw [Run.perform_bind, written, Handle.perform_write, writeOutcome]
  by_cases whole : set.rows.all Csv.isWritable = true
  · rw [if_pos whole]
    refine ⟨_, rfl, ?_, Session.exchanges_after rfl⟩
    exact Session.files_after ..
  · rw [if_neg whole]
    exact ⟨_, rfl, rfl, rfl⟩

/-- Once the file is open, the view is asked for and the answer appended. -/
theorem perform_eq (leads : files.Leads (d.sink.path t.name) l) :
    d.perform t files =
      (do
        let statement ← Run.ofExcept (t.render d.release .null)
        let set ← Run.fetch statement
        let count ← Handle.writeOrFail
          ⟨l, d.sink.path t.name, !d.sink.quiet && Tree.isEmptyContent (files.held l)⟩ set
        Run.log .debug (t.name ++ ": " ++ Number.natText count ++ " row(s)")
        return count : Run Nat).perform d.surroundings
          { d.session with files := files.opened l } := by
  have opened := perform_open (w := d.surroundings) (s := { d.session with files := files }) leads
  rw [perform, dump, Run.perform_bind_ok (Run.perform_rescue_ok opened)]

/-- A dump that the server answers appends the answer, up to the first row that cannot be
written. -/
theorem perform_answered (leads : files.Leads (d.sink.path t.name) l)
    (writable : d.surroundings.writeRefusal = none) {set : ResultSet} (h : d.answer? t = some set) :
    ∃ s', d.perform t files = (writeOutcome set, s') ∧
      s'.files = (files.opened l).append l
        (Csv.block (!d.sink.quiet && Tree.isEmptyContent (files.held l)) set) := by
  rw [perform_eq leads]
  unfold answer? at h
  split at h
  · cases h
  · rename_i statement rendered
    -- The server does not know of the files.
    have answered := Run.perform_fetch_answered
      (s := { d.session with files := files.opened l }) h
    rw [rendered, Run.ofExcept, pure_bind, Run.perform_bind_ok answered]
    obtain ⟨s', ends, grown, -⟩ := perform_writeAndLog writable _ set t.name
    exact ⟨s', ends, by rw [grown, Session.files_answered]⟩

/-- A dump that fails leaves the file with what it held. -/
theorem perform_unanswered (leads : files.Leads (d.sink.path t.name) l) (h : d.answer? t = none) :
    ∃ failure s', d.perform t files = (.error (.failed failure), s') ∧
      s'.files = files.opened l := by
  rw [perform_eq leads]
  unfold answer? at h
  split at h
  · rename_i failure refused
    rw [refused]
    exact ⟨failure, _, rfl, rfl⟩
  · rename_i statement rendered
    let opened : Session := { d.session with files := files.opened l }
    obtain ⟨failure, s', failed⟩ := Run.perform_fetch_unanswered (s := opened) h
    have kept : ((Run.fetch statement).perform d.surroundings opened).2.files = opened.files :=
      Run.files_fetch
    rw [failed] at kept
    rw [rendered, Run.ofExcept, pure_bind, Run.perform_bind_error failed]
    exact ⟨failure, s', rfl, kept⟩

/-- A dump leaves in the file what it held and the addition. -/
theorem held_perform (leads : files.Leads (d.sink.path t.name) l)
    (writable : d.surroundings.writeRefusal = none) :
    (d.perform t files).2.files.held l =
      Tree.extended (files.held l) (d.addition t (Tree.isEmptyContent (files.held l))) := by
  unfold addition
  rcases h : d.answer? t with _ | set
  · obtain ⟨failure, s', failed, left⟩ := perform_unanswered leads h
    rw [failed, left, Tree.held_opened, Tree.extended_empty]
  · obtain ⟨s', done, left⟩ := perform_answered leads writable h
    rw [done, left, Tree.held_append, Tree.held_opened]

/-- Every path to the file of a view still leads there after a dump. -/
theorem leads_perform (leads : files.Leads (d.sink.path t.name) l)
    (writable : d.surroundings.writeRefusal = none) {path : String} (other : files.Leads path l) :
    (d.perform t files).2.files.Leads path l := by
  rcases h : d.answer? t with _ | set
  · obtain ⟨failure, s', failed, left⟩ := perform_unanswered leads h
    rw [failed, left]
    exact other.opened
  · obtain ⟨s', done, left⟩ := perform_answered leads writable h
    rw [done, left]
    exact other.opened.append

/-- A dump makes the file of the view where there is none. -/
theorem isSome_perform (leads : files.Leads (d.sink.path t.name) l)
    (writable : d.surroundings.writeRefusal = none) :
    ((d.perform t files).2.files.content? l).isSome = true := by
  rcases h : d.answer? t with _ | set
  · obtain ⟨failure, s', failed, left⟩ := perform_unanswered leads h
    rw [failed, left, Tree.content?_opened]
    rfl
  · obtain ⟨s', done, left⟩ := perform_answered leads writable h
    rw [done, left]
    exact Tree.isSome_append

end Dumping

/-! ## All dumps -/

/-- The files after some dumps of a view, oldest first. -/
def filesAfter (t : Template) (files : Tree) (dumps : List Dumping) : Tree :=
  dumps.foldl (fun files d => (d.perform t files).2.files) files

/-- The rows that the server returned for some dumps, in their order. Of an answer with a row that
cannot be written these are the rows in front of it. -/
def rowsOf (t : Template) (dumps : List Dumping) : List (List Value) :=
  (dumps.filterMap (Dumping.answer? t)).flatMap fun set => Csv.writtenRows set.rows

/-- Whether a dump decides what stands at the top of an empty file: it is answered, and is not quiet
or finds rows to write. -/
def Dumping.decides (t : Template) (d : Dumping) : Bool :=
  match d.answer? t with
  | none => false
  | some set => !d.sink.quiet || !(Csv.writtenRows set.rows).isEmpty

/-- What stands at the top of a file that was empty: the line of column names of the first dump that
decides, unless that dump is quiet. -/
def heading (t : Template) (dumps : List Dumping) : String :=
  match dumps.find? (Dumping.decides t) with
  | none => ""
  | some d =>
    if d.sink.quiet then "" else ((d.answer? t).map fun set => Csv.line set.columns).getD ""

section

variable {t : Template} {d : Dumping} {dumps : List Dumping} {files : Tree} {l : Location}

theorem filesAfter_append_singleton :
    filesAfter t files (dumps ++ [d]) = (d.perform t (filesAfter t files dumps)).2.files := by
  simp [filesAfter]

theorem rowsOf_cons : rowsOf t (d :: dumps) = rowsOf t [d] ++ rowsOf t dumps := by
  unfold rowsOf
  rcases h : d.answer? t with _ | set <;> simp [h]

/-- What a dump adds to an empty file is the top of the file and its rows; the top is left to later
dumps only where nothing was added. -/
theorem addition_blank :
    d.addition t true ++ (if (d.addition t true).isEmpty then heading t dumps else "") =
      heading t (d :: dumps) ++ Csv.body (rowsOf t [d]) := by
  unfold rowsOf
  rcases h : d.answer? t with _ | set
  · have undecided : d.decides t = false := by simp [Dumping.decides, h]
    simp [Dumping.addition, heading, undecided, h]
  · generalize written : Csv.writtenRows set.rows = rows
    by_cases quiet : d.sink.quiet = true
    · by_cases none : rows = []
      · have undecided : d.decides t = false := by simp [Dumping.decides, h, quiet, written, none]
        simp [Dumping.addition, heading, undecided, h, quiet, written, none, Csv.block]
      · -- Rows below no heading: the file is not empty any more.
        have decided : d.decides t = true := by simp [Dumping.decides, h, quiet, written, none]
        have left : (Csv.body rows).isEmpty = false := by
          rw [Csv.isEmpty_body]
          simpa using none
        simp [Dumping.addition, heading, decided, h, quiet, written, Csv.block, left]
    · have decided : d.decides t = true := by simp [Dumping.decides, h, quiet]
      have left : (Csv.line set.columns ++ Csv.body rows).isEmpty = false := by
        have line := Csv.isEmpty_line set.columns
        rw [String.isEmpty_eq_false_iff] at line ⊢
        simp [line]
      simp [Dumping.addition, heading, decided, h, quiet, written, Csv.block, left]

/-- To a file with something in it a dump adds its rows. -/
theorem addition_more :
    d.addition t false = Csv.body (rowsOf t [d]) := by
  unfold Dumping.addition rowsOf
  rcases h : d.answer? t with _ | set <;> simp [h, Csv.block]

/-- Dumps of a view whose paths lead to one file, which can be written to. -/
structure Into (t : Template) (l : Location) (files : Tree) (dumps : List Dumping) : Prop where
  leads : ∀ d ∈ dumps, files.Leads (d.sink.path t.name) l
  writable : ∀ d ∈ dumps, d.surroundings.writeRefusal = none

theorem Into.head (into : Into t l files (d :: dumps)) : files.Leads (d.sink.path t.name) l :=
  into.leads d List.mem_cons_self

theorem Into.head_writable (into : Into t l files (d :: dumps)) :
    d.surroundings.writeRefusal = none :=
  into.writable d List.mem_cons_self

/-- After the first dump the others still lead to the file. -/
theorem Into.rest (into : Into t l files (d :: dumps)) :
    Into t l (d.perform t files).2.files dumps where
  leads e he :=
    Dumping.leads_perform into.head into.head_writable (into.leads e (List.mem_cons_of_mem _ he))
  writable e he := into.writable e (List.mem_cons_of_mem _ he)

theorem Into.after {earlier : List Dumping} (into : Into t l files (earlier ++ dumps)) :
    Into t l (filesAfter t files earlier) dumps := by
  induction earlier generalizing files with
  | nil => exact into
  | cons d earlier ih => exact ih into.rest

/-- The file after some dumps. -/
theorem Into.held_filesAfter (into : Into t l files dumps) :
    (filesAfter t files dumps).held l =
      Tree.extended (files.held l)
        ((if Tree.isEmptyContent (files.held l) then heading t dumps else "") ++
          Csv.body (rowsOf t dumps)) := by
  -- The first dump leaves the heading to the others exactly where it leaves the file empty.
  induction dumps generalizing files with
  | nil =>
    have nothing : heading t [] = "" := rfl
    simp [filesAfter, rowsOf, nothing, Tree.extended_empty]
  | cons d dumps ih =>
    have first := Dumping.held_perform into.head into.head_writable
    rw [filesAfter, List.foldl_cons, ← filesAfter, ih into.rest, first,
      Tree.isEmptyContent_extended, Tree.extended_extended, rowsOf_cons, Csv.body_append]
    refine congrArg (Tree.extended (files.held l)) ?_
    cases blank : Tree.isEmptyContent (files.held l) with
    | true =>
      rw [Bool.true_and, if_pos rfl, ← String.append_assoc, ← String.append_assoc,
        ← addition_blank]
    | false => simp [addition_more]

/-- A file that was opened for a dump is there from then on. -/
theorem Into.isSome_filesAfter (into : Into t l files dumps)
    (there : dumps ≠ [] ∨ (files.content? l).isSome = true) :
    ((filesAfter t files dumps).content? l).isSome = true := by
  induction dumps generalizing files with
  | nil => exact there.resolve_left (absurd rfl)
  | cons d dumps ih =>
    exact ih into.rest (.inr (Dumping.isSome_perform into.head into.head_writable))

/-- Whatever dumps of a view are made into one file, the file holds in the end what it held, below
it the heading where it was empty, and below that every row of every dump that succeeded, once and
in order. A dump succeeds when the server answers with rows that can be written; where one of them
cannot, it fails with the rows in front of that one in the file. A dump whose query fails adds
nothing. -/
theorem file_history (t : Template) (files : Tree) (l : Location) (dumps : List Dumping)
    (leads : ∀ d ∈ dumps, files.Leads (d.sink.path t.name) l)
    (writable : ∀ d ∈ dumps, d.surroundings.writeRefusal = none) :
    (filesAfter t files dumps).held l =
        Tree.extended (files.held l)
          ((if Tree.isEmptyContent (files.held l) then heading t dumps else "") ++
            Csv.body (rowsOf t dumps)) ∧
      (dumps ≠ [] → ((filesAfter t files dumps).content? l).isSome = true) ∧
      ∀ earlier d later, dumps = earlier ++ d :: later →
        (∀ set, d.answer? t = some set → set.rows.all Csv.isWritable = true →
          Csv.writtenRows set.rows = set.rows ∧
          (d.perform t (filesAfter t files earlier)).1 = .ok set.rows.length) ∧
        (∀ set, d.answer? t = some set → set.rows.all Csv.isWritable = false →
          (d.perform t (filesAfter t files earlier)).1 =
            .error (.failed (.fault .tooLongToWrite))) ∧
        (d.answer? t = none →
          (∃ failure, (d.perform t (filesAfter t files earlier)).1 = .error (.failed failure)) ∧
          (filesAfter t files (earlier ++ [d])).held l = (filesAfter t files earlier).held l) := by
  have into : Into t l files dumps := ⟨leads, writable⟩
  refine ⟨into.held_filesAfter, fun some => into.isSome_filesAfter (.inl some), ?_⟩
  rintro earlier d later rfl
  have before := into.after.head
  have mayWrite := into.after.head_writable
  refine ⟨?_, ?_, ?_⟩
  · intro set answered whole
    obtain ⟨s', done, -⟩ := Dumping.perform_answered before mayWrite answered
    rw [done]
    exact ⟨Csv.writtenRows_eq whole, if_pos whole⟩
  · intro set answered long
    obtain ⟨s', done, -⟩ := Dumping.perform_answered before mayWrite answered
    rw [done]
    exact if_neg (by simp [long])
  · intro unanswered
    obtain ⟨failure, s', failed, left⟩ := Dumping.perform_unanswered before unanswered
    rw [filesAfter_append_singleton, failed, left]
    exact ⟨⟨failure, rfl⟩, Tree.held_opened⟩

end

/-- A dump into the working directory, on a server with one answer to everything. -/
def answering (quiet : Bool) (outcome : Outcome) : Dumping where
  sink := ⟨"./", quiet⟩
  release := ⟨16, 0⟩
  surroundings := { reply := fun _ _ => { outcome := outcome } }
  session := {}

/-- A quiet dump without rows, one that is refused, one with a row, and a quiet one with a row. -/
def mixedDumps : List Dumping :=
  [answering true (.result ⟨["a", "b"], []⟩),
    answering false (.refused ⟨.other, "permission denied", none, some "42501"⟩),
    answering false (.result ⟨["a", "b"], [[.int 1, .null]]⟩),
    answering true (.result ⟨["a", "b"], [[.int 2, .bool true]]⟩)]

theorem file_history_mixedDumps :
    (∀ d ∈ mixedDumps, ({} : Tree).Leads (d.sink.path Catalog.Snapshot.archiver.name)
        ["pg_stat_archiver.csv"]) ∧
      (∀ d ∈ mixedDumps, d.surroundings.writeRefusal = none) ∧
      (filesAfter Catalog.Snapshot.archiver {} mixedDumps).held ["pg_stat_archiver.csv"] =
        .text "a;b\n1;\n2;t\n" := by
  have path : ∀ quiet outcome, ({} : Tree).Leads
      ((answering quiet outcome).sink.path Catalog.Snapshot.archiver.name)
      ["pg_stat_archiver.csv"] := by
    intro quiet outcome
    right
    show ({} : Tree).find (join "./" ("pg_stat_archiver" ++ ".csv")) = _
    decide +kernel
  have leads : ∀ d ∈ mixedDumps, ({} : Tree).Leads (d.sink.path Catalog.Snapshot.archiver.name)
      ["pg_stat_archiver.csv"] := by
    simp only [mixedDumps, List.forall_mem_cons]
    exact ⟨path _ _, path _ _, path _ _, path _ _, List.forall_mem_nil _⟩
  have writable : ∀ d ∈ mixedDumps, d.surroundings.writeRefusal = none := by
    simp only [mixedDumps, List.forall_mem_cons]
    exact ⟨rfl, rfl, rfl, rfl, List.forall_mem_nil _⟩
  refine ⟨leads, writable, ?_⟩
  rw [(file_history Catalog.Snapshot.archiver {} ["pg_stat_archiver.csv"] mixedDumps leads
    writable).1]
  decide +kernel

end PgVitals.Snapshot
