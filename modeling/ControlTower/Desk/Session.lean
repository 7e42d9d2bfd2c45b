import ControlTower.Desk.Console
import ControlTower.Desk.Panel
import ControlTower.Desk.Terminal

/-!
# Sessions

An operator works at a terminal, or leaves a script to be worked through. Every line that is
submitted takes one tick of the world. At the terminal the panel is shown after each line, if it has
changed; a script shows what each of its lines adds to the transcript. A session is over when a line
asks to quit, and at the terminal also when the operator hangs up.

What is printed is returned as text, and what the operator does is given as a list, so that a
session is a function of these.
-/

namespace ControlTower

structure Session (World : Type) where
  console : Console
  world : World
  panel : Drawing String := { draw := Style.coloured.render }
  /-- How transcript entries are shown. -/
  style : Style := .coloured
  /-- Whether the session begins with a banner. -/
  banner : Bool := true
  terminal : Terminal := {}

/-- A session after something was done in it, what was printed meanwhile, and what it came to. -/
structure Episode (World α : Type) where
  session : Session World
  printed : String
  outcome : Except Fault α

def programName : String := "skytalk"

def programVersion : String := "0.1.0"

def bannerLines : List String :=
  ["\x1b[1;36m",
   "      __          __       ____ ",
   "  ___/ /____ __  / /____ _/ / /__",
   " (_-< '_/ // / / __/ _ `/ /  '_/",
   "/___/_/\\_\\_, /  \\__/\\_,_/_/_/\\_\\ ",
   "        /___/                   ",
   "\x1b[0m",
   programName ++ " operator console v" ++ programVersion,
   "Tab completes, /help lists commands, Ctrl+D exits.",
   ""]

def bannerText : String := String.join (bannerLines.map (· ++ "\n"))

def panelRule : String := Text.paint "2" (String.ofList (List.replicate 40 '-')) ++ "\n"

def farewell : String := "\nOver and out.\n"

namespace Session

variable {World : Type}

/-- The session with its entries shown in another style, none of them having been shown yet. -/
def withStyle (session : Session World) (style : Style) : Session World :=
  { session with style, panel := { draw := style.render } }

def prompt (session : Session World) : String := spoken session.console.settings.callsign ""

/-- Submits a line and lets one tick go by. -/
def submit [Traffic World] (session : Session World) (line : String) : Session World × Signal :=
  let turn := session.console.submitLine session.world line
  ({ session with console := turn.console, world := Traffic.tick turn.world }, turn.signal)

def showPanel (session : Session World) : Session World × String :=
  let (picture, panel) := session.panel.view session.console.transcript.entries
  ({ session with panel },
    if panel.count = session.panel.count then "" else panelRule ++ picture)

def answer [Traffic World] (session : Session World) (line : String) : Episode World Bool :=
  if Text.allBlank line then { session, printed := "", outcome := .ok true }
  else
    let terminal := session.terminal
    let session :=
      { session with terminal := { terminal with recallable := terminal.recallable ++ [line] } }
    let (session, signal) := session.submit line
    let (session, printed) := session.showPanel
    { session, printed, outcome := .ok (signal = .continue) }

/-- Asks the operator for a line and answers it; the outcome is whether the session goes on. -/
def readOnce [Traffic World] (session : Session World) : Episode World Bool :=
  let terminal := { session.terminal with gazetteer? := some (.capture session.world) }
  let (response, terminal) := terminal.ask session.prompt
  let session := { session with terminal }
  match response with
  | .line text => session.answer text
  | .cancel =>
    let turn := session.console.press session.world .cancel
    { session := { session with console := turn.console, world := turn.world }
      printed := ""
      outcome := .ok true }
  | .closed => { session, printed := "", outcome := .ok false }
  | .failed reason => { session, printed := "", outcome := .error (.terminal reason) }

def readUntilClosed [Traffic World] : Nat → Session World → Episode World Unit
  | 0, session => { session, printed := farewell, outcome := .ok () }
  | limit + 1, session =>
    let episode := session.readOnce
    match episode.outcome with
    | .ok true =>
      let later := readUntilClosed limit episode.session
      { later with printed := episode.printed ++ later.printed }
    | .ok false => { episode with printed := episode.printed ++ farewell, outcome := .ok () }
    | .error fault => { episode with outcome := .error fault }

/-- Asks for lines until the session is over. The operator hangs up once there is nothing left to
do, so there is no need to ask more often than that. -/
def run [Traffic World] (session : Session World) : Episode World Unit :=
  let episode := session.readUntilClosed (session.terminal.responses.length + 1)
  { episode with printed := (if session.banner then bannerText else "") ++ episode.printed }

/-- Works through the lines of a script, each without the blanks at its ends. Empty lines and lines
that begin with a number sign are passed over; the lines behind one that asks to quit are not
read. -/
def workThrough [Traffic World] (session : Session World) : List String → Episode World Bool
  | [] => { session, printed := "", outcome := .ok true }
  | line :: rest =>
    if line.isEmpty || line.toList.head? = some '#' then session.workThrough rest
    else
      let mark := session.console.transcript.written
      let (session, signal) := session.submit line
      let printed := session.style.render (session.console.transcript.since mark)
      match signal with
      | .quit => { session, printed, outcome := .ok false }
      | .continue =>
        let later := session.workThrough rest
        { later with printed := printed ++ later.printed }

def script [Traffic World] (session : Session World) (source : String) : Episode World Bool :=
  session.workThrough ((Text.lines source).map Text.trim)

def file [Traffic World] (session : Session World) (path : String)
    (content : Except String ByteArray) : Episode World Bool :=
  match content with
  | .error reason =>
    { session, printed := "", outcome := .error (.unreadable path reason) }
  | .ok bytes => match String.fromUTF8? bytes with
    | some source => session.script source
    | none =>
      { session
        printed := ""
        outcome := .error (.unreadable path "stream did not contain valid UTF-8") }

end Session

end ControlTower
