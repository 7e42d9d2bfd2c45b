import ControlTower.Text.Ranges

/-!
# Blanks, words and lines

A line of radio traffic is a sequence of words kept apart by blanks. A blank is any character with
the Unicode property White_Space. Splitting a text at blanks and dropping the empty pieces gives its
words. Its lines are what stands in front of each line feed, and what is left behind the last; a
carriage return in front of a line feed belongs to the ending of the line.
-/

namespace ControlTower.Text

/-- The twenty-five characters with the Unicode property White_Space. -/
def blankRanges : Ranges :=
  [(0x09, 0x0D), (0x20, 0x20), (0x85, 0x85), (0xA0, 0xA0), (0x1680, 0x1680), (0x2000, 0x200A),
   (0x2028, 0x2029), (0x202F, 0x202F), (0x205F, 0x205F), (0x3000, 0x3000)]

def isBlank (c : Char) : Bool := blankRanges.has c

/-- The words of a text: its longest runs of characters other than blanks. -/
def words (text : String) : List String :=
  ((text.toList.splitOnP isBlank).filter (!·.isEmpty)).map String.ofList

/-- The lines of a text, each with its ending, which the last one may lack. -/
def endedLines : List Char → List (List Char)
  | [] => []
  | c :: rest =>
    if c = '\n' then [c] :: endedLines rest
    else match endedLines rest with
      | [] => [[c]]
      | current :: later => (c :: current) :: later

/-- A line without its ending, which is a line feed, or a carriage return and a line feed. -/
def withoutEnding (line : List Char) : List Char :=
  match line.reverse with
  | '\n' :: '\r' :: rest => rest.reverse
  | '\n' :: rest => rest.reverse
  | _ => line

def lines (text : String) : List String :=
  (endedLines text.toList).map fun line => String.ofList (withoutEnding line)

def trim (text : String) : String :=
  String.ofList (((text.toList.dropWhile isBlank).reverse.dropWhile isBlank).reverse)

def allBlank (text : String) : Bool := text.toList.all isBlank

example : blankRanges.size = 25 := by decide

end ControlTower.Text
