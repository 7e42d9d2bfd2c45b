import ControlTower.Phraseology.Transmission
import ControlTower.Radio.KeyStream

/-!
# Affirmative replies

An aircraft that takes its instructions says so in words chosen at random, one set of phrases for
instructions carried out at once and another for those that are queued. Both draw on one stream, so
the phrases depend only on the seed and on the modes of the transmissions that were taken.
-/

namespace ControlTower.Radio

def phrases : Mode → List String
  | .execute =>
    ["Roger that. Executing.", "Affirmative, initiating maneuver now.", "Roger, we're on it.",
     "Copy that.", "Okie dokie artichokie!"]
  | .enqueue =>
    ["Roger that. Queued.", "Affirmative, command queued for execution.",
     "We'll do that as soon as possible.", "Copy that, command queued"]

/-- The phrase for a mode, and the stream behind what was drawn for it. -/
def affirm (mode : Mode) (stream : KeyStream) : String × KeyStream :=
  let (index?, stream) := stream.choose (phrases mode).length
  ((index?.bind ((phrases mode)[·]?)).getD "Roger.", stream)

end ControlTower.Radio
