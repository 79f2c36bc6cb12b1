/-!
# Blank space and line ends

The classes of blank characters and the operations that depend on them: trimming, splitting
into words, and cutting a text into lines.
-/
namespace MetricLayer.Text

/-- Blank characters of written text, with the four information separators. -/
def isBlank (c : Char) : Bool :=
  let n := c.toNat
  n == 0x20 || (0x09 ≤ n && n ≤ 0x0d) || (0x1c ≤ n && n ≤ 0x1f) || n == 0x85 || n == 0xa0 ||
    n == 0x1680 || (0x2000 ≤ n && n ≤ 0x200a) || n == 0x2028 || n == 0x2029 || n == 0x202f ||
    n == 0x205f || n == 0x3000

/-- Blank characters without the information separators. -/
def isWhite (c : Char) : Bool :=
  isBlank c && !(0x1c ≤ c.toNat && c.toNat ≤ 0x1f)

/-- Characters that end a line. -/
def isLineEnd (c : Char) : Bool :=
  let n := c.toNat
  (0x0a ≤ n && n ≤ 0x0d) || (0x1c ≤ n && n ≤ 0x1e) || n == 0x85 || n == 0x2028 || n == 0x2029

/-- Drops the leading and trailing characters in `p`. -/
def trimBy (p : Char → Bool) (cs : List Char) : List Char :=
  ((cs.dropWhile p).reverse.dropWhile p).reverse

/-- Drops leading and trailing blanks. -/
def trim (s : String) : String :=
  String.ofList (trimBy isBlank s.toList)

/-- The maximal runs of characters outside `p`. -/
def splitRuns (p : Char → Bool) : List Char → List (List Char)
  | [] => []
  | c :: cs =>
    if p c then splitRuns p cs
    else
      match splitRuns p cs, cs with
      | w :: ws, d :: _ => if p d then [c] :: w :: ws else (c :: w) :: ws
      | [], _ => [[c]]
      | ws, [] => [c] :: ws

/-- The words of a text: its maximal runs without blanks. -/
def words (s : String) : List String :=
  (splitRuns isBlank s.toList).map String.ofList

/-- Words joined by single spaces. -/
def collapse (s : String) : String :=
  " ".intercalate (words s)

/-- A text whose lines all end in a line feed. -/
def unifyLineEnds : List Char → List Char
  | '\r' :: '\n' :: rest => '\n' :: unifyLineEnds rest
  | '\r' :: rest => '\n' :: unifyLineEnds rest
  | c :: rest => c :: unifyLineEnds rest
  | [] => []

/-- The text before the first line end. -/
def firstLine (s : String) : String :=
  String.ofList (s.toList.takeWhile fun c => !isLineEnd c)

end MetricLayer.Text
