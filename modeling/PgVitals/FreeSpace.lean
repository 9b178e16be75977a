import PgVitals.Session.Query
/-!
# The free space map

The map of a relation shows one cell for each group of blocks: red where the blocks are full, and
the paler the more free bytes there are. All divisions go to the floor.

* `FreeSpace.groupSize` is the number of blocks in a group, and `FreeSpace.groupsOf` cuts them into
  groups; the last one may be shorter.
* `FreeSpace.shade` is the shade of some blocks, out of `FreeSpace.palest`, and `FreeSpace.cell` the
  text that shows it.
* `FreeSpace.display` asks for the extension, the size of a block and the free bytes of every block,
  and prints the map.

A quotient by zero and a range with step zero are faults, and are modelled as such, although they do
not come about. The size of a block is logged; where it cannot be written, the handler of log
records decides what becomes of it, `Surroundings.logRaises`.
-/

namespace PgVitals.FreeSpace

open PgVitals.Number

/-! ## Arithmetic -/

/-- The shade of blocks that are completely free. -/
def palest : Int := 180

/-- The quotient of two integers, which has to exist. -/
def quotient (a b : Int) : Except Fault Int :=
  if b = 0 then .error .divisionByZero else .ok (a.fdiv b)

/-- The number of blocks in a group, so that there are about `groups` of them. -/
def groupSize (blocks groups : Int) : Except Fault Int :=
  if blocks ≤ groups then .ok 1 else quotient blocks groups

/-- The shade of some blocks with so many free bytes in all. -/
def shade (free blockSize blocks : Int) : Except Fault Int := do
  return max (← quotient (palest * free) (blockSize * blocks)) 0

/-- The cell of a shade: a blank on a coloured ground. -/
def cell (shade : Int) : Except Fault String := do
  let part ← Value.intWritten shade
  return "\x1b[48;2;255;" ++ part ++ ";" ++ part ++ "m \x1b[0m"

/-- Neighbouring blocks in groups of one more than `more`; the last group may be shorter. -/
def groupsOf (more : Nat) : List Int → List (List Int)
  | [] => []
  | block :: rest => (block :: rest.take more) :: groupsOf more (rest.drop more)
termination_by blocks => blocks.length
decreasing_by simp only [List.length_drop, List.length_cons]; omega

/-- The shade of a group of blocks. -/
def groupShade (blockSize : Int) (group : List Int) : Except Fault Int :=
  shade (group.foldr (· + ·) 0) blockSize group.length

/-- The shades of all groups of a size. No group has a negative size. -/
def shades (free : List Int) (blockSize size : Int) : Except Fault (List Int) :=
  if size = 0 then .error .zeroStep
  else if size < 0 then .ok []
  else (groupsOf (size.toNat - 1) free).mapM (groupShade blockSize)

/-! ## Display -/

/-- Asks whether the extension that reads the map is installed. -/
def extensionQuery : String := "SELECT 1 FROM pg_extension WHERE extname = 'pg_freespacemap'"

/-- Asks for the size of a block. -/
def blockSizeQuery : String := "SELECT current_setting('block_size')"

/-- Asks for the free bytes of every block of a relation. -/
def freeBytesQuery (relation : Value) : Statement :=
  ⟨"SELECT avail FROM pg_freespace(%(relation)s::regclass) ORDER BY blkno",
    .named [("relation", relation)]⟩

/-- The size of a block. -/
def fetchBlockSize : Run Int := do
  let size ← Run.ofFault (← Run.firstCell (← Run.rows (.plain blockSizeQuery))).toInt
  Run.logWritten .info (("Detected block size: " ++ ·) <$> Value.intWritten size)
  return size

/-- The number in the first cell of a row. -/
def firstNumber (row : List Value) : Except Fault Int :=
  match row with
  | [] => .error .missingItem
  | cell :: _ => cell.toInt

/-- Prints the map of a relation and returns its shades. -/
def display (relation : Value) (groups : Int) : Run (List Int) := do
  if groups ≤ 0 then Run.fail (.config .noGroups)
  if (← Run.rows (.plain extensionQuery)).isEmpty then
    Run.fail (.config .freeSpaceExtensionMissing)
  let blockSize ← fetchBlockSize
  let free ← Run.ofFault ((← Run.rows (freeBytesQuery relation)).mapM firstNumber)
  let size ← Run.ofFault (groupSize free.length groups)
  Run.printLine ("Number of blocks: " ++ natText free.length)
  Run.printLine ("Relation size: " ++
    (← Run.ofFault (Value.intWritten (free.length * blockSize))))
  Run.printLine ("... group of " ++ intText size)
  Run.printLine "\n"
  let shades ← Run.ofFault (shades free blockSize size)
  Run.printLine (String.join (← Run.ofFault (shades.mapM cell)))
  Run.printLine "\n"
  return shades

end PgVitals.FreeSpace
