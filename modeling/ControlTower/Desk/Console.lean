import ControlTower.Airspace.Traffic
import ControlTower.Desk.Completion
import ControlTower.Desk.Settings
import ControlTower.Desk.Transcript
import ControlTower.Phraseology.Reading
import ControlTower.Phraseology.Summary
import ControlTower.Radio.Replies

/-!
# The console

The operator types a line, recalls earlier ones, has words completed, and submits the line. A line
that is submitted is read, entered into the history, and answered in the transcript: by the aircraft
to which it is addressed, by the console itself, or by an explanation of what is wrong with it. A
line without words is passed over. The commands to the console are handed to a handler, which may be
in a state of its own: the console keeps the commands that it was given so far.
-/

namespace ControlTower

def rejectionLead : String := "You are doing it wrong! "

def spoken (speaker text : String) : String := speaker ++ " > " ++ text

inductive Keystroke where
  | submit
  /-- Clear the line. -/
  | cancel
  /-- Delete the last character, or the last word. -/
  | backspace (word : Bool)
  /-- Recall the line submitted before the one recalled last. -/
  | historyUp
  /-- Recall the line submitted after the one recalled last. -/
  | historyDown
  | complete
  /-- Type a text; only single characters are typed. -/
  | glyph (text : String)
deriving Repr, DecidableEq

inductive Signal where
  | continue
  | quit
deriving Repr, DecidableEq

inductive SystemReply where
  /-- The session ends. -/
  | quit
  /-- Lines are shown. -/
  | lines (text : List String)
deriving Repr, DecidableEq

/-- A handler of the commands to a console. What it replies to a command may depend on the commands
that it was given before, the latest of which comes first. -/
abbrev SystemHandler := SystemCommand → List SystemCommand → SystemReply

/-- A reply that does not depend on what came before. -/
instance : Coe SystemReply (List SystemCommand → SystemReply) := ⟨fun reply _ => reply⟩

def standardReply (glyphs : ControlGlyphs) : SystemCommand → SystemReply
  | .quit => .quit
  | .help => .lines glyphs.summary

def standardSystem (glyphs : ControlGlyphs) : SystemHandler := fun command =>
  standardReply glyphs command

/-- The handler that is in a state of its own: what it replies to a command, and the state in which
it is then, is up to `handle`. -/
def SystemHandler.ofMachine {State : Type} (handle : State → SystemCommand → SystemReply × State)
    (state : State) : SystemHandler := fun command earlier =>
  (handle (earlier.foldr (fun earlier state => (handle state earlier).2) state) command).1

example :
    let counting := SystemHandler.ofMachine (fun count _ => (.lines [toString count], count + 1)) 0
    counting .help [.quit, .help] = .lines ["2"] := by decide

structure Console where
  settings : Settings
  /-- What the commands to the console come to. -/
  system : SystemHandler
  /-- The commands that the console has carried out, the latest first. -/
  obeyed : List SystemCommand := []
  /-- The line that is being typed. -/
  buffer : List Char := []
  /-- The lines that were submitted, the latest first. -/
  history : List String := []
  /-- How many lines back the operator has gone in the history. -/
  recalled : Nat := 0
  transcript : Transcript
  replies : Radio.KeyStream

/-- A console and its world after something was done at it, and whether the session goes on. -/
structure Turn (World : Type) where
  console : Console
  world : World
  signal : Signal := .continue

namespace Console

variable {World : Type}

def ofSettings (settings : Settings) : Except SettingFault Console := do
  settings.check
  pure
    { settings
      system := standardSystem settings.rules.glyphs
      transcript := .ofCapacity settings.transcriptCapacity
      replies := .ofSeed settings.seed }

def line (console : Console) : String := String.ofList console.buffer

def write (console : Console) (severity : Severity) (text : String) : Console :=
  { console with transcript := console.transcript.write ⟨severity, text⟩ }

def remember (console : Console) (line : String) : Console :=
  let history := line :: console.history
  { console with
    buffer := []
    history := match console.settings.historyCapacity? with
      | some capacity => history.take capacity
      | none => history
    recalled := 0 }

/-- Has an aircraft called, and writes down its answer: a phrase when it takes its instructions, and
otherwise why it does not. -/
def call [Traffic World] (console : Console) (world : World) (mode : Mode) (target : String)
    (instructions : List Instruction) : Turn World :=
  match Traffic.call world target mode instructions with
  | none =>
    { console := console.write .error (spoken target "No such aircraft in the airspace."), world }
  | some (.ok (), world) =>
    let (phrase, replies) := Radio.affirm mode console.replies
    { console := { console with replies }.write .reply (spoken target phrase), world }
  | some (.error refusal, world) =>
    { console := console.write .error (spoken target refusal), world }

def reply (console : Console) (command : SystemCommand) : SystemReply :=
  console.system command console.obeyed

def obey (console : Console) (world : World) (command : SystemCommand) : Turn World :=
  let obeying := { console with obeyed := command :: console.obeyed }
  match console.reply command with
  | .quit => { console := obeying, world, signal := .quit }
  | .lines text => { console := text.foldl (·.write .info ·) obeying, world }

def dispatch [Traffic World] (console : Console) (world : World) :
    Transmission → Turn World
  | .system command => console.obey world command
  | .aircraft mode target instructions => console.call world mode target instructions

def submit [Traffic World] (console : Console) (world : World) : Turn World :=
  let line := console.line
  match console.settings.rules.read line with
  | .empty => { console, world }
  | .rejected reason =>
    { console := (console.write .error (rejectionLead ++ reason.message)).remember line, world }
  | .accepted transmission =>
    ((console.remember line).write .echo (spoken console.settings.callsign line)).dispatch world
      transmission

def submitLine [Traffic World] (console : Console) (world : World) (line : String) : Turn World :=
  { console with buffer := line.toList }.submit world

/-- A line without its last word: at least one character is deleted, and more until a space has
been. -/
def withoutWord (line : List Char) : List Char :=
  ((line.dropLast.reverse.dropWhile (· != ' ')).drop 1).reverse

def backspace (console : Console) (word : Bool) : Console :=
  { console with
    buffer := if word then withoutWord console.buffer else console.buffer.dropLast }

def historyUp (console : Console) : Console :=
  match console.history[console.recalled]? with
  | some line => { console with buffer := line.toList, recalled := console.recalled + 1 }
  | none => console

def historyDown (console : Console) : Console :=
  match console.recalled with
  | 0 => console
  | 1 => { console with buffer := [], recalled := 0 }
  | earlier + 2 =>
    { console with
      buffer := ((console.history[earlier]?).map String.toList).getD console.buffer
      recalled := earlier + 1 }

def complete [Directory World] (console : Console) (world : World) : Console :=
  match Completion.complete? console.settings.rules.glyphs console.line world with
  | some addition => { console with buffer := console.buffer ++ addition.toList }
  | none => console

/-- A line with one more character. Only ASCII letters, ASCII digits, spaces and control glyphs can
be typed; letters turn into capitals, a glyph brings a space with it, and a space is not typed at
the beginning of the line or behind another one. -/
def typed (glyphs : ControlGlyphs) (line : List Char) (c : Char) : List Char :=
  if !(c.isAlphanum || c == ' ' || glyphs.isControl c) then line
  else if c == ' ' && line.getLast?.all (· == ' ') then line
  else line ++ c.toUpper :: if glyphs.isControl c then [' '] else []

def typeText (console : Console) (text : String) : Console :=
  match text.toList with
  | [c] => { console with buffer := typed console.settings.rules.glyphs console.buffer c }
  | _ => console

def press [Traffic World] (console : Console) (world : World) : Keystroke → Turn World
  | .submit => console.submit world
  | .cancel => { console := { console with buffer := [] }, world }
  | .backspace word => { console := console.backspace word, world }
  | .historyUp => { console := console.historyUp, world }
  | .historyDown => { console := console.historyDown, world }
  | .complete => { console := console.complete world, world }
  | .glyph text => { console := console.typeText text, world }

end Console

end ControlTower
