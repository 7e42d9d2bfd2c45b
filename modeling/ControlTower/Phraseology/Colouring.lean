import ControlTower.Phraseology.Argument
import ControlTower.Text.Paint

/-!
# Colouring a line

A line that is being typed is shown with its words in colour: a control glyph in front of the first
word, aircraft identifiers, commands and numbers. The blanks between the words stay as they were
typed, and so do the words; nothing is added but the sequences that turn colours on and off.
-/

namespace ControlTower.Colouring

def glyphCode : String := "1;33"

def wordCode? (word : String) : Option String :=
  if Argument.isIdentifier word then some "1;36"
  else if (Command.ofWord? (Text.lower word)).isSome then some "32"
  else if word.toList.all Char.isDigit then some "35"
  else none

def paintWord (word : List Char) : List Char :=
  if word.isEmpty then []
  else match wordCode? (String.ofList word) with
    | some code => (Text.paint code (String.ofList word)).toList
    | none => word

/-- A word, of which `first` says whether it is the first of its line; the first may begin with a
control glyph. -/
def paintToken (glyphs : ControlGlyphs) (first : Bool) : List Char → List Char
  | [] => []
  | c :: rest =>
    if first && glyphs.isControl c then
      (Text.paint glyphCode c.toString).toList ++ paintWord rest
    else paintWord (c :: rest)

/-- The rest of a line, of which `first` says whether it still holds the first word; `word` is the
part already read of the word that is going on. -/
def paintFrom (glyphs : ControlGlyphs) (first : Bool) (word : List Char) : List Char → List Char
  | [] => paintToken glyphs first word
  | c :: rest =>
    if Text.isBlank c then
      paintToken glyphs first word ++ c :: paintFrom glyphs (first && word.isEmpty) [] rest
    else paintFrom glyphs first (word ++ [c]) rest

def paintLine (glyphs : ControlGlyphs) (line : String) : String :=
  String.ofList (paintFrom glyphs true [] line.toList)

end ControlTower.Colouring
