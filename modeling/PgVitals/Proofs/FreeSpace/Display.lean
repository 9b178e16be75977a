import PgVitals.Proofs.FreeSpace.Shades
import PgVitals.Proofs.Session.Saying
/-!
# Drawing a free space map

A map is drawn from three answers: that the extension is there, how big a block is, and how many
bytes are free in each block. Nothing that is computed from them can fail, as the divisors are
positive; only the size of the relation can have too many digits to be written. Then no cell is
drawn.

* `Surveyed` is a server that gives these answers, from a session on. `Surveyed.later` says that it
  still does after anything that was said meanwhile.
* `Surveyed.perform_display` takes the three questions one after the other, and leaves `draw` to be
  done with what they bring.
* `page` is what is printed, with one cell for each shade. `Mapped.perform_draw` and
  `Mapped.perform_draw_tooLong` are the two ways it ends.
* `Shows.cell_eq` says that no shade has too many digits, since shades are on a scale.

That there is an answer to each question is assumed; what happens where one of them is refused is in
`Proofs/Refusals`. The size of a block is logged, and a handler of log records that passes over what
it cannot write is assumed, too: `Surveyed.passes`. The last theorem has a relation whose size has
too many digits, though that of a block has not.
-/

namespace PgVitals.FreeSpace

open PgVitals.Number

variable {w : Surroundings} {s s' : Session} {statement : Statement} {words : List Event}
  {relation : Value} {wanted blockSize : Int} {free : List Int} {size : Nat}
  {groups : List (List Int)} {tints : List Int}

/-! ## Answers -/

/-- From now on a statement brings rows of some kind, and leaves the connection open. -/
def Answers (w : Surroundings) (s : Session) (statement : Statement)
    (kind : List (List Value) → Prop) : Prop :=
  ∀ past, s.past <:+ past → ∃ set, (w.reply past statement).set? = some set ∧ kind set.rows ∧
    (w.reply past statement).closes = false

/-- A server with the extension says how big its blocks are, and how many bytes are free in each
block of a relation. Log records go to a handler that passes over what it cannot write. -/
structure Surveyed (w : Surroundings) (s : Session) (relation : Value) (blockSize : Int)
    (free : List Int) : Prop where
  up : s.link = .up
  passes : w.logRaises = false
  installed : Answers w s (.plain extensionQuery) (· ≠ [])
  measured : Answers w s (.plain blockSizeQuery) fun rows =>
    ∃ cell cells others, rows = (cell :: cells) :: others ∧ cell.toInt = .ok blockSize
  listed : Answers w s (freeBytesQuery relation) fun rows => rows.mapM firstNumber = .ok free

/-- What was said does not change the answers to come. -/
theorem Surveyed.later (h : Surveyed w s relation blockSize free) (spoken : Says w s words s')
    (opened : words.any Event.closes = false) : Surveyed w s' relation blockSize free := by
  obtain ⟨new, passage, -⟩ := spoken.passage
  have grown : s.past <:+ s'.past := ⟨new, passage.past.symm⟩
  refine ⟨?_, h.passes, fun past later => h.installed past (grown.trans later),
    fun past later => h.measured past (grown.trans later),
    fun past later => h.listed past (grown.trans later)⟩
  rw [spoken.link, if_neg (by simp [opened]), h.up]

theorem perform_rows {kind : List (List Value) → Prop} (answers : Answers w s statement kind)
    (up : s.link = .up) :
    ∃ rows reply, kind rows ∧ reply.closes = false ∧
      Says w s [.asked statement reply] (s.answered w statement) ∧
      (Run.rows statement).perform w s = (.ok rows, s.answered w statement) := by
  obtain ⟨set, brings, right, opened⟩ := answers s.past List.suffix_rfl
  have fetched : Run.answer? w s statement = some set := by
    rw [Run.answer?, if_pos up, brings]
  refine ⟨set.rows, _, right, opened, .answered statement, ?_⟩
  rw [Run.rows, Run.perform_bind_ok (Run.perform_fetch_answered fetched)]
  rfl

/-- A number is too long to be written. -/
def tooLong : Except Stop (List Int) := .error (.failed (.fault .tooLongToWrite))

/-- The size of a block is found, whether or not it can be logged. -/
theorem Surveyed.perform_fetchBlockSize (h : Surveyed w s relation blockSize free) :
    ∃ s' reply, reply.closes = false ∧ Says w s [.asked (.plain blockSizeQuery) reply] s' ∧
      fetchBlockSize.perform w s = (.ok blockSize, s') := by
  obtain ⟨rows, reply, ⟨cell, cells, others, rfl, number⟩, opened, asked, answered⟩ :=
    perform_rows h.measured h.up
  have found : (Run.firstCell ((cell :: cells) :: others)).perform w
      (s.answered w (.plain blockSizeQuery)) = (.ok cell, s.answered w (.plain blockSizeQuery)) :=
    rfl
  obtain ⟨s', quiet, logged⟩ := Run.perform_logWritten h.passes .info
    (("Detected block size: " ++ ·) <$> Value.intWritten blockSize)
  refine ⟨s', reply, opened, asked.trans quiet, ?_⟩
  rw [fetchBlockSize, Run.perform_bind_ok answered, Run.perform_bind_ok found, number,
    Run.perform_bind_ok (Run.perform_ofFault_ok blockSize), Run.perform_bind_ok logged]
  rfl

/-! ## The page -/

/-- What is left to do with the answers. -/
def draw (blockSize wanted : Int) (free : List Int) : Run (List Int) := do
  let size ← Run.ofFault (groupSize free.length wanted)
  Run.printLine ("Number of blocks: " ++ natText free.length)
  Run.printLine ("Relation size: " ++
    (← Run.ofFault (Value.intWritten (free.length * blockSize))))
  Run.printLine ("... group of " ++ intText size)
  Run.printLine "\n"
  let shades ← Run.ofFault (shades free blockSize size)
  Run.printLine (String.join (← Run.ofFault (shades.mapM cell)))
  Run.printLine "\n"
  return shades

/-- Where the extension is there, a map is drawn from what two more questions bring. -/
theorem Surveyed.perform_extension (any : 1 ≤ wanted) (h : Surveyed w s relation blockSize free) :
    ∃ s' reply, reply.closes = false ∧ Says w s [.asked (.plain extensionQuery) reply] s' ∧
      (display relation wanted).perform w s = Run.perform (do
        let blockSize ← fetchBlockSize
        let free ← Run.ofFault ((← Run.rows (freeBytesQuery relation)).mapM firstNumber)
        draw blockSize wanted free) w s' := by
  obtain ⟨rows, reply, present, opened, asked, answered⟩ := perform_rows h.installed h.up
  have there : rows.isEmpty = false := by simpa using present
  refine ⟨_, reply, opened, asked, ?_⟩
  rw [display, if_neg (by omega)]
  show (Run.rows (.plain extensionQuery) >>= _).perform w s = _
  rw [Run.perform_bind_ok answered, there, if_neg Bool.false_ne_true]
  rfl

/-- The three questions, and how they were answered. -/
def questions (relation : Value) (installed measured listed : Reply) : List Event :=
  [.asked (.plain extensionQuery) installed, .asked (.plain blockSizeQuery) measured,
    .asked (freeBytesQuery relation) listed]

/-- The map is drawn once there is an answer to all questions. -/
theorem Surveyed.perform_display (any : 1 ≤ wanted) (h : Surveyed w s relation blockSize free) :
    ∃ s' installed measured listed, Says w s (questions relation installed measured listed) s' ∧
      (display relation wanted).perform w s = (draw blockSize wanted free).perform w s' := by
  obtain ⟨s₁, installed, opened₁, asked₁, displayed⟩ := h.perform_extension any
  have h₁ := h.later asked₁ (by simp [Event.closes, opened₁])
  obtain ⟨s₂, measured, opened₂, asked₂, sized⟩ := h₁.perform_fetchBlockSize
  have h₂ := h₁.later asked₂ (by simp [Event.closes, opened₂])
  obtain ⟨rows, listed, numbers, -, asked₃, answered⟩ := perform_rows h₂.listed h₂.up
  refine ⟨_, installed, measured, listed, (asked₁.trans asked₂).trans asked₃, ?_⟩
  rw [displayed, Run.perform_bind_ok sized, Run.perform_bind_ok answered, numbers]
  rfl

/-- The text of a shade's cell. -/
def cellText (shade : Int) : String :=
  "\x1b[48;2;255;" ++ intText shade ++ ";" ++ intText shade ++ "m \x1b[0m"

/-- No shade has too many digits. -/
theorem Shows.cell_eq {group : List Int} {shade : Int} (h : Shows blockSize group shade) :
    cell shade = .ok (cellText shade) := by
  have small : palest.natAbs < digitBound := by decide +kernel
  have writable : isWritable shade = true := by
    have := h.least
    have := h.most
    rw [isWritable, decide_eq_true_iff]
    omega
  rw [cell, Value.intWritten, if_pos writable]
  rfl

theorem cells_eq (shows : List.Forall₂ (Shows blockSize) groups tints) :
    tints.mapM cell = .ok (tints.map cellText) := by
  refine Monitor.mapM_eq_ok fun shade member => ?_
  induction shows with
  | nil => cases member
  | cons first _ ih =>
    obtain rfl | later := List.mem_cons.mp member
    · exact first.cell_eq
    · exact ih later

/-- What is printed of a map, with one cell for each shade. -/
def page (blocks : Nat) (blockSize : Int) (size : Nat) (tints : List Int) : List Event :=
  ["Number of blocks: " ++ natText blocks, "Relation size: " ++ intText (blocks * blockSize),
    "... group of " ++ natText size, "\n", String.join (tints.map cellText), "\n"].map
      fun line => .printed (line ++ "\n")

/-- Every group has its cell on the page. -/
theorem Mapped.perform_draw (h : Mapped wanted blockSize free size groups tints)
    (writable : isWritable (free.length * blockSize) = true) :
    ∃ s', Says w s (page free.length blockSize size tints) s' ∧
      (draw blockSize wanted free).perform w s = (.ok tints, s') := by
  refine ⟨_, (((((Says.printed _).trans (Says.printed _)).trans (Says.printed _)).trans
    (Says.printed _)).trans (Says.printed _)).trans (Says.printed _), ?_⟩
  simp only [draw, h.sized, Value.intWritten, if_pos writable, Run.perform_bind, Run.perform_pure,
    Run.perform_ofFault_ok, Run.perform_printLine, h.shaded, cells_eq h.shows]
  rfl

/-- Without a text of the relation's size there is no page. -/
theorem Mapped.perform_draw_tooLong (h : Mapped wanted blockSize free size groups tints)
    (long : isWritable (free.length * blockSize) = false) :
    ∃ s', Says w s [.printed ("Number of blocks: " ++ natText free.length ++ "\n")] s' ∧
      (draw blockSize wanted free).perform w s = (tooLong, s') := by
  refine ⟨_, Says.printed _, ?_⟩
  simp only [draw, h.sized, Value.intWritten, long, Run.perform_bind, Run.perform_ofFault_ok,
    Run.perform_printLine]
  rfl

/-! ## Maps of relations -/

/-- **A relation is mapped in groups of one size, but for the last, with a cell for each of them.**
There are as many groups as blocks where these are few, and else about as many as wanted; every
shade is on the scale, at its end for groups without a used byte alone, and more free bytes make no
shade less pale. The cells are printed below a heading. Nothing is divided by zero: if there are no
cells, then the relation's size, which stands in the heading, has too many digits. -/
theorem display_mapped (any : 1 ≤ wanted) (sized : 1 ≤ blockSize)
    (fitting : Fitting blockSize free) (surveyed : Surveyed w s relation blockSize free) :
    ∃ size groups tints, Mapped wanted blockSize free size groups tints ∧
      (∀ freer, List.Forall₂ (· ≤ ·) free freer → Fitting blockSize freer →
        ∃ others paler, Mapped wanted blockSize freer size others paler ∧
          List.Forall₂ (· ≤ ·) tints paler) ∧
      ((isWritable (free.length * blockSize) = true ∧ ∃ s' installed measured listed,
          (display relation wanted).perform w s = (.ok tints, s') ∧
          s'.said = s.said ++ (questions relation installed measured listed ++
            page free.length blockSize size tints)) ∨
        isWritable (free.length * blockSize) = false ∧ ∃ s' installed measured listed,
          (display relation wanted).perform w s = (tooLong, s') ∧
          s'.said = s.said ++ (questions relation installed measured listed ++
            [.printed ("Number of blocks: " ++ natText free.length ++ "\n")])) := by
  obtain ⟨size, mapped⟩ := exists_mapped any sized free.length
  have map := mapped free rfl fitting
  refine ⟨size, _, _, map, fun freer freed fits => ?_, ?_⟩
  · exact ⟨_, _, mapped freer freed.length_eq.symm fits, tints_mono sized freed⟩
  obtain ⟨s₁, _, _, _, asked, displayed⟩ := surveyed.perform_display any
  cases writable : isWritable (free.length * blockSize) with
  | true =>
    obtain ⟨s₂, printed, drawn⟩ := map.perform_draw (w := w) (s := s₁) writable
    exact .inl ⟨rfl, s₂, _, _, _, displayed.trans drawn, (asked.trans printed).said⟩
  | false =>
    obtain ⟨s₂, printed, undrawn⟩ := map.perform_draw_tooLong (w := w) (s := s₁) writable
    exact .inr ⟨rfl, s₂, _, _, _, displayed.trans undrawn, (asked.trans printed).said⟩

/-- A server whose answers stay the same. -/
def steadyServer (blockSize : Value) (free : List Int) : Surroundings where
  reply _ statement :=
    if statement.sql = extensionQuery then ⟨[], false, .result ⟨["?column?"], [[.int 1]]⟩⟩
    else if statement.sql = blockSizeQuery then
      ⟨[], false, .result ⟨["current_setting"], [[blockSize]]⟩⟩
    else ⟨[], false, .result ⟨["avail"], free.map fun bytes => [.int bytes]⟩⟩
  logRaises := false

theorem surveyed_steadyServer {setting : Value} (number : setting.toInt = .ok blockSize) :
    Surveyed (steadyServer setting free) {} relation blockSize free where
  up := rfl
  passes := rfl
  installed _ _ := ⟨_, rfl, List.cons_ne_nil _ _, rfl⟩
  measured _ _ := ⟨_, rfl, ⟨_, _, _, rfl, number⟩, rfl⟩
  listed _ _ := by
    refine ⟨_, rfl, ?_, rfl⟩
    show (free.map fun bytes => [Value.int bytes]).mapM firstNumber = .ok free
    rw [List.mapM_map]
    exact (Monitor.mapM_eq_ok fun _ _ => rfl).trans (congrArg Except.ok (List.map_id' free))

/-- Five blocks make up two full groups and one that is half as long. -/
theorem display_mapped_partial :
    Surveyed (steadyServer (.text "8192") [8192, 0, 8192, 8192, 0]) {} (.text "t") 8192
        [8192, 0, 8192, 8192, 0] ∧
      ∃ s', (display (.text "t") 2).perform
        (steadyServer (.text "8192") [8192, 0, 8192, 8192, 0]) {} = (.ok [90, 180, 0], s') := by
  have surveyed : Surveyed (steadyServer (.text "8192") [8192, 0, 8192, 8192, 0]) {} (.text "t")
      8192 [8192, 0, 8192, 8192, 0] := surveyed_steadyServer (by decide +kernel)
  have any : 1 ≤ (2 : Int) := by decide
  obtain ⟨size, groups, tints, map, -, drawn⟩ :=
    display_mapped any (by decide) (by decide) surveyed
  have two : size = 2 := by
    have sized := map.sized
    rw [show groupSize _ _ = .ok 2 from rfl] at sized
    exact Int.ofNat.inj (Except.ok.inj sized).symm
  subst two
  have cut : groupsOf 1 [8192, 0, 8192, 8192, 0] = [[8192, 0], [8192, 8192], [0]] := by
    simp [groupsOf]
  have shaded : shades [8192, 0, 8192, 8192, 0] 8192 2 = .ok [90, 180, 0] := by
    show (groupsOf 1 [8192, 0, 8192, 8192, 0]).mapM (groupShade 8192) = _
    rw [cut]
    rfl
  obtain rfl : tints = [90, 180, 0] := Except.ok.inj (map.shaded.symm.trans shaded)
  obtain ⟨-, s', _, _, _, displayed, -⟩ | ⟨long, -⟩ := drawn
  · exact ⟨surveyed, s', displayed⟩
  · exact absurd long (by decide +kernel)

/-- A relation whose size has too many digits to be written, though the size of a block has not. -/
theorem huge_relation_undrawn :
    let setting : Value := .decimal (.finite false 1 4299)
    let free : List Int := List.replicate 10 0
    let ended := (display (.text "t") 20).perform (steadyServer setting free) {}
    1 ≤ (tenTo 4299 : Int) ∧ Fitting (tenTo 4299) free ∧
      Surveyed (steadyServer setting free) {} (.text "t") (tenTo 4299) free ∧
      ended.1 = tooLong ∧ ended.2.output = "Number of blocks: 10\n" := by
  refine ⟨?_, ?_, surveyed_steadyServer ?_, ?_, ?_⟩ <;> decide +kernel

end PgVitals.FreeSpace
