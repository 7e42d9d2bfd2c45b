import ControlTower.Launch.Report

/-!
# The program

Reads the scripts and the terminal, and prints what the session prints.
-/

namespace ControlTower.Main

/-- Why a file cannot be read, in the words of the operating system. -/
def reason : IO.Error → String
  | .noFileOrDirectory _ _ _ => "No such file or directory (os error 2)"
  | .permissionDenied _ _ _ => "Permission denied (os error 13)"
  | .inappropriateType _ _ _ => "Is a directory (os error 21)"
  | error => toString error

def readScript (path : String) : IO (Except String ByteArray) := do
  try
    return .ok (← IO.FS.readBinFile path)
  catch error =>
    return .error (reason error)

def deliver (report : Report) : IO UInt32 := do
  (← IO.getStdout).putStr report.stdout
  (← IO.getStderr).putStr report.stderr
  return report.code.toUInt32

/-- Asks for a line. A prompt is shown only to a person. -/
def askTerminal (prompt : String) : IO Response := do
  let input ← IO.getStdin
  if ← input.isTty then
    (← IO.getStdout).putStr prompt
    (← IO.getStdout).flush
  try
    return Response.ofInput (← input.getLine).toList
  catch error =>
    return .failed (toString error)

partial def converse (session : Session Airspace) : IO UInt32 := do
  let response ← askTerminal session.prompt
  let episode := { session with terminal := { responses := [response] } }.readOnce
  match episode.outcome with
  | .ok true =>
    discard <| deliver { stdout := episode.printed }
    (← IO.getStdout).flush
    converse episode.session
  | .ok false => deliver { stdout := episode.printed ++ farewell }
  | .error fault => deliver (.ofFault episode.printed fault)

def start (words : List String) : IO UInt32 := do
  match Options.ofWords words with
  | .error instead => deliver (.ofInstead instead)
  | .ok options =>
    match options.session Airspace.standard with
    | .error fault => deliver (.ofFault "" fault)
    | .ok session =>
      let contents ← options.scripts.mapM fun path => return (path, ← readScript path)
      let episode := session.files contents
      match episode.outcome with
      | .error fault => deliver (.ofFault episode.printed fault)
      | .ok goesOn =>
        discard <| deliver { stdout := episode.printed }
        if goesOn && !options.batch then
          discard <| deliver { stdout := if session.banner then bannerText else "" }
          converse episode.session
        else return 0

end ControlTower.Main

def main (words : List String) : IO UInt32 := ControlTower.Main.start words
