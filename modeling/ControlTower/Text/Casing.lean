import ControlTower.Text.CaseData

/-!
# Upper and lower case

The case of a whole text, by the full mappings of the Unicode standard: a character may become
several (`ß` becomes `SS`), and a capital sigma becomes `ς` at the end of a word and `σ` elsewhere.
-/

namespace ControlTower.Text

/-- The characters that a character maps to: one by a run, several by a listed sequence, and itself
when the tables say nothing about it. -/
def mapCase (runs : List CaseRun) (sequences : List (Nat × List Nat)) (c : Char) : List Char :=
  match runs.find? (·.has c.toNat) with
  | some run => [Char.ofNat (run.map c.toNat)]
  | none => match sequences.lookup c.toNat with
    | some image => image.map Char.ofNat
    | none => [c]

def lowerChar (c : Char) : List Char := mapCase lowerRuns lowerSequences c

def upperChar (c : Char) : List Char := mapCase upperRuns upperSequences c

def isCased (c : Char) : Bool := casedRanges.has c

def isCaseIgnorable (c : Char) : Bool := caseIgnorableRanges.has c

def startsCased (text : List Char) : Bool :=
  match text.dropWhile isCaseIgnorable with
  | [] => false
  | c :: _ => isCased c

/-- The lower case of a character between what stands before it and what stands after it. A capital
sigma ends a word when a cased character stands before it and none after it. -/
def lowerBetween (casedBefore : Bool) (c : Char) (after : List Char) : List Char :=
  if c = 'Σ' then if casedBefore && !startsCased after then ['ς'] else ['σ']
  else lowerChar c

/-- The lower case of a text of which a part has been read already; `casedBefore` says whether that
part ends with a cased character, ignorable ones aside. -/
def lowerFrom (casedBefore : Bool) : List Char → List Char
  | [] => []
  | c :: rest =>
    lowerBetween casedBefore c rest ++
      lowerFrom (if isCaseIgnorable c then casedBefore else isCased c) rest

def lower (text : String) : String := String.ofList (lowerFrom false text.toList)

def upper (text : String) : String := String.ofList (text.toList.flatMap upperChar)

end ControlTower.Text
