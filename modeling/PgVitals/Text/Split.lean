import PgVitals.Text.Blank
/-!
# Trimming, lines and parts of a text
-/

namespace PgVitals.Text

/-- The characters without those at the front that satisfy `p`. -/
def trimFrontBy (p : Char → Bool) (cs : List Char) : List Char := cs.dropWhile p

/-- The characters without those at the end that satisfy `p`. -/
def trimEndBy (p : Char → Bool) (cs : List Char) : List Char := (cs.reverse.dropWhile p).reverse

/-- The characters without those at either end that satisfy `p`. -/
def trimBy (p : Char → Bool) (cs : List Char) : List Char := trimEndBy p (trimFrontBy p cs)

/-- A text without blanks at its ends. -/
def trim (s : String) : String := String.ofList (trimBy isBlank s.toList)

/-- A text without blanks at its end. -/
def trimEnd (s : String) : String := String.ofList (trimEndBy isBlank s.toList)

/-- Cuts at the characters that satisfy `ends`; a carriage return and the line feed after it are one
break. What follows the last break is a line only if it is not empty. -/
def linesBy (ends : Char → Bool) : List Char → List Char → List (List Char)
  | current, [] => if current.isEmpty then [] else [current.reverse]
  | current, '\r' :: '\n' :: rest =>
    if ends '\r' then current.reverse :: linesBy ends [] rest
    else linesBy ends ('\n' :: '\r' :: current) rest
  | current, c :: rest =>
    if ends c then current.reverse :: linesBy ends [] rest else linesBy ends (c :: current) rest

/-- The lines of a text. -/
def lines (s : String) : List String := (linesBy isLineBreak [] s.toList).map String.ofList

/-- Cuts at every character that satisfies `cut`; there is one part more than there are cuts. -/
def splitBy (cut : Char → Bool) : List Char → List (List Char)
  | [] => [[]]
  | c :: rest =>
    match splitBy cut rest with
    | part :: parts => if cut c then [] :: part :: parts else (c :: part) :: parts
    | [] => [[c]]

/-- Whether `part` occurs in a list of characters. -/
def occursIn (part : List Char) : List Char → Bool
  | [] => part.isEmpty
  | c :: rest => part.isPrefixOf (c :: rest) || occursIn part rest

/-- Whether `part` occurs in a text. -/
def contains (s part : String) : Bool := occursIn part.toList s.toList

/-- Writes every `old` character as `new`. -/
def replaceChar (old : Char) (new : List Char) (s : String) : String :=
  String.ofList (s.toList.flatMap fun c => if c == old then new else [c])

/-- Every occurrence of the non-empty `old` replaced by `new`, from the left. -/
def replaceIn (old new : List Char) : List Char → List Char
  | [] => []
  | c :: rest =>
    if old.isEmpty then c :: rest
    else if old.isPrefixOf (c :: rest) then
      new ++ replaceIn old new ((c :: rest).drop old.length)
    else c :: replaceIn old new rest
termination_by cs => cs.length
decreasing_by
  · simp_wf
    have : old ≠ [] := by intro h; simp_all
    have := List.length_pos_iff.mpr this
    omega
  · simp_wf

/-- A text with every occurrence of `old` replaced by `new`. -/
def replace (s old new : String) : String :=
  String.ofList (replaceIn old.toList new.toList s.toList)

end PgVitals.Text
