import ControlTower.Phraseology.Rules

/-!
# The settings of a console

Besides the rules by which lines are read, a console has a callsign, room for a transcript, possibly
a bound on its history, and a seed for the replies that it hears. `Settings.check` finds what is
wrong with them, and `Fault` covers whatever can keep a session from going on.
-/

namespace ControlTower

structure Settings where
  rules : ReadingRules := {}
  /-- How many entries the transcript holds. -/
  transcriptCapacity : Nat := 5
  /-- How many lines the history holds; any number, when there is no bound. -/
  historyCapacity? : Option Nat := none
  /-- The name under which the operator speaks. -/
  callsign : String := "TOWER"
  /-- What the choice of replies depends on. -/
  seed : UInt64 := 0
deriving Repr, DecidableEq

inductive SettingFault where
  | rules (fault : RuleFault)
  | transcriptEmpty
  | historyEmpty
deriving Repr, DecidableEq

namespace SettingFault

def field : SettingFault → String
  | rules fault => fault.field
  | transcriptEmpty => "transcript_capacity"
  | historyEmpty => "history_capacity"

def reason : SettingFault → String
  | rules fault => fault.reason
  | transcriptEmpty => "must retain at least one line"
  | historyEmpty => "use None for unbounded history"

end SettingFault

inductive Fault where
  | setting (fault : SettingFault)
  /-- The terminal cannot be read. -/
  | terminal (reason : String)
  | unreadable (path reason : String)
deriving Repr, DecidableEq

def Fault.message : Fault → String
  | setting fault => "invalid configuration for " ++ fault.field ++ ": " ++ fault.reason
  | terminal reason => "terminal error: " ++ reason
  | unreadable path reason => "failed to read " ++ path ++ ": " ++ reason

def Settings.check (settings : Settings) : Except SettingFault Unit := do
  settings.rules.check.mapError .rules
  if settings.transcriptCapacity = 0 then .error .transcriptEmpty
  if settings.historyCapacity? = some 0 then .error .historyEmpty

end ControlTower
