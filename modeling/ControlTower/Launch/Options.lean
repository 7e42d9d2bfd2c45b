import ControlTower.Desk.Settings
import ControlTower.Desk.Transcript

/-!
# The command line

The words of the command line say how the console is set up, which scripts it works through, and
whether the operator is asked for lines afterwards. They are taken into account from left to right,
and the first that is out of place decides what is wrong; a request for the version or for help is
granted when it stands before such a word.
-/

namespace ControlTower

structure Options where
  settings : Settings := {}
  /-- The scripts to be worked through, in order. -/
  scripts : List String := []
  /-- Whether the program ends with the scripts. -/
  batch : Bool := false
  banner : Bool := true
  style : Style := .coloured
deriving Repr, DecidableEq

inductive Instead where
  | version
  | help
  /-- A word is out of place. -/
  | misuse (word : String)
deriving Repr, DecidableEq

inductive Switch where
  | batch
  | noBanner
  | noColour
deriving Repr, DecidableEq

inductive Parameter where
  | callsign
  | seed
  | transcriptLines
  | history
  | headingPolicy
  | altitudePolicy
  | logLevel
deriving Repr, DecidableEq

inductive LongName where
  | version
  | help
  | switch (switch : Switch)
  | parameter (parameter : Parameter)
deriving Repr, DecidableEq

namespace LongName

def table : List (String × LongName) :=
  [("version", version), ("help", help), ("batch", switch .batch), ("no-banner", switch .noBanner),
   ("no-colour", switch .noColour), ("callsign", parameter .callsign), ("seed", parameter .seed),
   ("transcript-lines", parameter .transcriptLines), ("history", parameter .history),
   ("heading-policy", parameter .headingPolicy), ("altitude-policy", parameter .altitudePolicy),
   ("log-level", parameter .logLevel)]

end LongName

def BoundaryPolicy.ofWord? : String → Option BoundaryPolicy
  | "legacy" => some .legacy
  | "range" => some .range
  | "strict" => some .strict
  | _ => none

namespace Options

def enable (options : Options) : Switch → Options
  | .batch => { options with batch := true }
  | .noBanner => { options with banner := false }
  | .noColour => { options with style := .plain }

def assign? (options : Options) (value : String) : Parameter → Option Options
  | .callsign => some { options with settings.callsign := value }
  | .seed => (Text.count? value).map fun n => { options with settings.seed := UInt64.ofNat n }
  | .transcriptLines =>
    (Text.count? value).map fun n => { options with settings.transcriptCapacity := n }
  | .history =>
    (Text.count? value).map fun n => { options with settings.historyCapacity? := some n }
  | .headingPolicy => (BoundaryPolicy.ofWord? value).map fun policy =>
    { options with settings.rules.headingPolicy := policy }
  | .altitudePolicy => (BoundaryPolicy.ofWord? value).map fun policy =>
    { options with settings.rules.altitudePolicy := policy }
  | .logLevel => some options

/-- The options read so far, and the names that have been used up. -/
structure Progress where
  options : Options := {}
  switches : List Switch := []
  parameters : List Parameter := []

namespace Progress

def enable (progress : Progress) (word : String) (switch : Switch) : Except Instead Progress :=
  if progress.switches.contains switch then .error (.misuse word)
  else .ok
    { progress with
      options := progress.options.enable switch
      switches := switch :: progress.switches }

/-- Takes a parameter into account, which may be given only once. -/
def assign (progress : Progress) (word value : String) (parameter : Parameter) :
    Except Instead Progress :=
  if progress.parameters.contains parameter then .error (.misuse word)
  else match progress.options.assign? value parameter with
    | none => .error (.misuse word)
    | some options => .ok { progress with options, parameters := parameter :: progress.parameters }

/-- Takes a script into account, the name of which may not be empty. -/
def addScript (progress : Progress) (name : String) : Except Instead Progress :=
  if name.isEmpty then .error (.misuse name)
  else .ok
    { progress with
      options := { progress.options with scripts := progress.options.scripts ++ [name] } }

def addLetters (progress : Progress) (word : String) : List Char → Except Instead Progress
  | [] => .ok progress
  | 'b' :: rest => do (← progress.enable word .batch).addLetters word rest
  | 'V' :: _ => .error .version
  | 'h' :: _ => .error .help
  | _ => .error (.misuse word)

/-- Whether a word cannot stand for the value of the option before it. A dash alone can. -/
def looksLikeOption (word : String) : Bool :=
  word.toList.head? == some '-' && word.toList != ['-']

def addWords (progress : Progress) : List String → Except Instead Progress
  | [] => .ok progress
  | word :: rest =>
    match word.toList with
    | ['-', '-'] => rest.foldlM addScript progress
    | '-' :: '-' :: long =>
      let name := String.ofList (long.takeWhile (· != '='))
      match LongName.table.lookup name, long.dropWhile (· != '=') with
      | some .version, [] => .error .version
      | some .help, [] => .error .help
      | some (.switch switch), [] => do (← progress.enable word switch).addWords rest
      | some (.parameter parameter), _ :: value => do
        (← progress.assign word (String.ofList value) parameter).addWords rest
      | some (.parameter parameter), [] =>
        match rest with
        | [] => .error (.misuse word)
        | value :: rest =>
          if looksLikeOption value then .error (.misuse word)
          else do (← progress.assign word value parameter).addWords rest
      | _, _ => .error (.misuse word)
    | '-' :: letter :: letters => do
      (← progress.addLetters word (letter :: letters)).addWords rest
    | _ => do (← progress.addScript word).addWords rest

end Progress

def ofWords (words : List String) : Except Instead Options :=
  (Progress.addWords {} words).map Progress.options

end Options

end ControlTower
