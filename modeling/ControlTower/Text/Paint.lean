/-!
# Coloured terminal text

A colour is chosen by an escape sequence, the escape character, a bracket, numbers kept apart by
semicolons, and the letter `m`. The sequence with the number zero ends it.
-/

namespace ControlTower.Text

def rendition (code : String) : String := "\x1b[" ++ code ++ "m"

def paint (code text : String) : String := rendition code ++ text ++ rendition "0"

end ControlTower.Text
