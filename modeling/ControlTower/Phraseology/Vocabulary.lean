/-!
# The vocabulary of the tower

The words that an operator may use: the commands that an aircraft understands, the flags that may
follow them, and the commands that address the console itself. Every command has several spellings,
of which the first is canonical; no word spells two commands, but a word that spells a command may
spell a flag of another one.
-/

namespace ControlTower

/-- What an aircraft can be told to do. The order is that in which words are looked up. -/
inductive Command where
  | heading
  | altitude
  | speed
  | takeoff
  | land
  | circle
  /-- Give up the maneuver or what is queued behind it. -/
  | abort
deriving Repr, DecidableEq

inductive Flag where
  | expedite
  | longTurn
  | lastOnly
deriving Repr, DecidableEq

inductive SystemCommand where
  | quit
  | help
deriving Repr, DecidableEq

inductive ArgumentKind where
  /-- An aircraft identifier. -/
  | identifier
  /-- A heading in degrees. -/
  | heading
  /-- An altitude in hundreds of metres. -/
  | altitude
  /-- A speed in hundreds of kilometres an hour. -/
  | speed
  /-- An airport and one of its runways. -/
  | landing
  /-- Left or right. -/
  | turnDirection
deriving Repr, DecidableEq

namespace Flag

def name : Flag → String
  | expedite => "expedite"
  | longTurn => "long_turn"
  | lastOnly => "lastonly"

end Flag

namespace Command

def all : List Command := [heading, altitude, speed, takeoff, land, circle, abort]

def name : Command → String
  | heading => "heading"
  | altitude => "altitude"
  | speed => "speed"
  | takeoff => "takeoff"
  | land => "land"
  | circle => "circle"
  | abort => "abort"

def spellings : Command → List String
  | heading => ["heading", "h", "head"]
  | altitude => ["altitude", "a", "alt"]
  | speed => ["speed", "s", "sp"]
  | takeoff => ["takeoff", "to", "up", "fly"]
  | land => ["land", "l", "down"]
  | circle => ["circle", "c", "hold"]
  | abort => ["abort", "purge"]

def arity : Command → Nat
  | land => 2
  | abort => 0
  | _ => 1

def argumentKind? : Command → Option ArgumentKind
  | heading => some .heading
  | altitude => some .altitude
  | speed => some .speed
  | takeoff => some .altitude
  | land => some .landing
  | circle => some .turnDirection
  | abort => none

def flags : Command → List (Flag × List String)
  | heading => [(.expedite, ["expedite", "x"]), (.longTurn, ["l", "long"])]
  | altitude => [(.expedite, ["expedite", "x"])]
  | speed => [(.expedite, ["expedite", "x"])]
  | takeoff => [(.expedite, ["expedite", "x"])]
  | land => []
  | circle => []
  | abort => [(.lastOnly, ["lastonly", "last", "l"])]

/-- The letter that may be glued to the digits of the argument, as in `h090`. -/
def letter? : Command → Option Char
  | heading => some 'h'
  | altitude => some 'a'
  | speed => some 's'
  | _ => none

def synopsis : Command → String
  | heading => "HEADING 000-360 [EXPEDITE] [LONG]"
  | altitude => "ALTITUDE <hundreds of metres> [EXPEDITE]"
  | speed => "SPEED <hundreds of km/h> [EXPEDITE]"
  | takeoff => "TAKEOFF <hundreds of metres> [EXPEDITE]"
  | land => "LAND <airport> <runway>"
  | circle => "CIRCLE LEFT|RIGHT"
  | abort => "ABORT [LASTONLY]"

def isSpelled (command : Command) (word : String) : Bool := command.spellings.contains word

def ofWord? (word : String) : Option Command := all.find? (·.isSpelled word)

def ofLetter? (letter : Char) : Option Command := all.find? (·.letter? == some letter)

def flag? (command : Command) (word : String) : Option Flag :=
  (command.flags.find? (·.2.contains word)).map (·.1)

def isCanonical (word : String) : Bool := all.any (·.name == word)

/-- The sets of commands that an aircraft can carry out at the same time. -/
def combinations : List (List Command) :=
  [[heading, altitude, speed], [circle, altitude, speed]]

def compatible (commands : List Command) : Bool :=
  combinations.any fun combination => commands.all combination.contains

theorem mem_all (command : Command) : command ∈ all := by cases command <;> decide

theorem head?_spellings (command : Command) : command.spellings.head? = some command.name := by
  cases command <;> rfl

/-- Every spelling of a command leads back to it: no word spells two commands. -/
theorem ofWord?_eq_some_iff {word : String} {command : Command} :
    ofWord? word = some command ↔ word ∈ command.spellings := by
  constructor
  · intro h
    have := List.find?_some h
    simpa [isSpelled] using this
  · have distinct : ∀ c ∈ all, ∀ w ∈ c.spellings, ofWord? w = some c := by decide
    exact distinct command (mem_all command) word

theorem ofLetter?_eq_some_iff {letter : Char} {command : Command} :
    ofLetter? letter = some command ↔ command.letter? = some letter := by
  constructor
  · intro h
    simpa using List.find?_some h
  · intro h
    cases command <;> cases h <;> rfl

/-- Only commands that take a single argument have a letter. -/
theorem arity_of_letter?_eq_some {letter : Char} {command : Command}
    (h : command.letter? = some letter) : command.arity = 1 := by
  cases command <;> cases h <;> rfl

theorem ofWord?_of_letter?_eq_some {letter : Char} {command : Command}
    (h : command.letter? = some letter) : ofWord? letter.toString = some command := by
  cases command <;> cases h <;> rfl

end Command

namespace SystemCommand

def all : List SystemCommand := [quit, help]

def name : SystemCommand → String
  | quit => "quit"
  | help => "help"

def spellings : SystemCommand → List String
  | quit => ["quit", "q"]
  | help => ["help", "h", "man"]

def summary : SystemCommand → String
  | quit => "end the session"
  | help => "show this summary"

def ofWord? (word : String) : Option SystemCommand := all.find? (·.spellings.contains word)

end SystemCommand

end ControlTower
