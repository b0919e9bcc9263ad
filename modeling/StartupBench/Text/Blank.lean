/-!
# Blanks, words and lines

A blank is a character with the Unicode property `White_Space`.  The words of a text are its
longest pieces without a blank.
-/

namespace StartupBench.Text

/-- The characters with the property `White_Space`. -/
def isBlank (c : Char) : Bool :=
  let n := c.toNat
  (0x9 ≤ n && n ≤ 0xD) || n == 0x20 || n == 0x85 || n == 0xA0 || n == 0x1680 ||
    (0x2000 ≤ n && n ≤ 0x200A) || n == 0x2028 || n == 0x2029 || n == 0x202F || n == 0x205F ||
    n == 0x3000

/-! ## Words -/

/-- The words of a list of characters. -/
def wordsOf : List Char → List (List Char)
  | [] => []
  | c :: rest =>
    if isBlank c then wordsOf rest
    else match rest with
      | [] => [[c]]
      | d :: _ =>
        if isBlank d then [c] :: wordsOf rest
        else match wordsOf rest with
          | [] => [[c]]
          | word :: words => (c :: word) :: words

/-- The words of a text. -/
def words (text : String) : List String := (wordsOf text.toList).map String.ofList

/-- The text without the blanks at its ends. -/
def trim (text : String) : String :=
  String.ofList (((text.toList.dropWhile isBlank).reverse.dropWhile isBlank).reverse)

/-! ## Lines -/

/-- Splits characters at every `sep`; there is always at least one piece. -/
def splitAt (sep : Char) : List Char → List (List Char)
  | [] => [[]]
  | c :: rest =>
    if c = sep then [] :: splitAt sep rest
    else match splitAt sep rest with
      | [] => [[c]]
      | piece :: pieces => (c :: piece) :: pieces

/-- Splits a text at every `sep`. -/
def splitOn (sep : Char) (text : String) : List String :=
  (splitAt sep text.toList).map String.ofList

/-- A line without a carriage return at its end. -/
def dropReturn (line : List Char) : List Char :=
  match line.reverse with
  | '\r' :: rest => rest.reverse
  | _ => line

/-- The lines of a text.  A line ends at a line feed, with or without a carriage return before it;
a last line without a line feed counts if it is not empty and keeps its carriage return. -/
def linesOf (text : List Char) : List (List Char) :=
  match (splitAt '\n' text).reverse with
  | [] => []
  | last :: before => before.reverse.map dropReturn ++ if last.isEmpty then [] else [last]

/-- The lines of a text. -/
def lines (text : String) : List String := (linesOf text.toList).map String.ofList

end StartupBench.Text
