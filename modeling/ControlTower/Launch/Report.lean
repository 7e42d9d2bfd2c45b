import ControlTower.Desk.Session
import ControlTower.Launch.Options

/-!
# Launching the console

The program works through its scripts and then, unless it is to end with them, asks the operator for
lines. What it prints and the code with which it ends are its `Report`.
-/

namespace ControlTower

/-- The session with which the program begins. A session that follows scripts has no banner. -/
def Options.session {World : Type} (options : Options) (world : World) : Except Fault (Session World) := do
  let console ← (Console.ofSettings options.settings).mapError Fault.setting
  pure <| Session.withStyle
    { console, world, banner := options.banner && options.scripts.isEmpty } options.style

structure Report where
  code : Nat := 0
  stdout : String := ""
  stderr : String := ""
deriving Repr, DecidableEq

def usage : String := "Usage: " ++ programName ++ " [OPTIONS] [FILES]...\n"

namespace Report

def ofInstead : Instead → Report
  | .version => { stdout := programName ++ " " ++ programVersion ++ "\n" }
  | .help => { stdout := "Air-traffic operator console.\n\n" ++ usage }
  | .misuse word => { code := 2, stderr := "error: unexpected argument '" ++ word ++ "'\n\n" ++ usage }

def ofFault (printed : String) (fault : Fault) : Report :=
  { code := 1, stdout := printed, stderr := Text.paint "31" ("Error: " ++ fault.message) ++ "\n" }

end Report

namespace Session

variable {World : Type}

/-- Works through files, one after another, until one of them asks to quit or cannot be read. -/
def files [Traffic World] (session : Session World) :
    List (String × Except String ByteArray) → Episode World Bool
  | [] => { session, printed := "", outcome := .ok true }
  | (path, content) :: rest =>
    let episode := session.file path content
    match episode.outcome with
    | .ok true =>
      let later := episode.session.files rest
      { later with printed := episode.printed ++ later.printed }
    | _ => episode

/-- Works through files and, unless the program is to end with them, runs the session. -/
def work [Traffic World] (session : Session World) (batch : Bool)
    (contents : List (String × Except String ByteArray)) : Episode World Unit :=
  let episode := session.files contents
  match episode.outcome with
  | .error fault => { episode with outcome := .error fault }
  | .ok goesOn =>
    if goesOn && !batch then
      let later := episode.session.run
      { later with printed := episode.printed ++ later.printed }
    else { episode with outcome := .ok () }

end Session

def launch (words : List String) (read : String → Except String ByteArray) (input : String) :
    Report :=
  match Options.ofWords words with
  | .error instead => .ofInstead instead
  | .ok options =>
    match options.session Airspace.standard with
    | .error fault => .ofFault "" fault
    | .ok session =>
      let session := { session with terminal.responses := Response.ofStream input }
      let episode := session.work options.batch (options.scripts.map fun path => (path, read path))
      match episode.outcome with
      | .ok () => { stdout := episode.printed }
      | .error fault => .ofFault episode.printed fault

end ControlTower
