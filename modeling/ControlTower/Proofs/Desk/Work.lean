import ControlTower.Proofs.Desk.Submission

/-!
# Work at a console

While an operator works, lines are submitted, keys are pressed, and time goes on in the world. The
settings of the console stay as they are meanwhile. What a run of such actions does to an airspace
is a course of events: the only calls are those that some line asks for by the rules of the
console.
-/

namespace ControlTower

inductive Action where
  | submit (line : String)
  | press (key : Keystroke)
  | tick
deriving Repr, DecidableEq

/-- The turn after an action. The console does not notice that time goes on. -/
def Turn.act {World : Type} [Traffic World] (turn : Turn World) : Action → Turn World
  | .submit line => turn.console.submitLine turn.world line
  | .press key => turn.console.press turn.world key
  | .tick => { turn with world := Traffic.tick turn.world }

/-- The event is a tick, or some line that is read by the rules asks for it. -/
def Event.Arises (rules : ReadingRules) : Event → Prop
  | .call target mode instructions =>
    ∃ line, rules.read line = .accepted (.aircraft mode target instructions)
  | .tick => True

namespace Console

variable {World : Type} [Traffic World] (console : Console) (world : World)

theorem settings_submitLine (line : String) :
    (console.submitLine world line).console.settings = console.settings := by
  rcases submitLine_settles console world line with
    heq | ⟨entries, replies, obeyed, after, signal, heq⟩
  · rw [heq]
  · rw [heq]
    rfl

theorem settings_press (key : Keystroke) :
    (console.press world key).console.settings = console.settings := by
  by_cases hkey : key = .submit
  · rw [hkey, press_submit, settings_submitLine]
  · obtain ⟨buffer, recalled, heq⟩ := exists_press_eq hkey console world
    rw [heq]

end Console

namespace Turn

variable {World : Type} [Traffic World]

theorem settings_act (turn : Turn World) (action : Action) :
    (turn.act action).console.settings = turn.console.settings := by
  cases action with
  | submit line => exact turn.console.settings_submitLine turn.world line
  | press key => exact turn.console.settings_press turn.world key
  | tick => rfl

theorem settings_foldl_act (turn : Turn World) (actions : List Action) :
    (actions.foldl act turn).console.settings = turn.console.settings := by
  induction actions generalizing turn with
  | nil => rfl
  | cons action actions ih => rw [List.foldl_cons, ih, settings_act]

theorem sound_act {turn : Turn World} (h : turn.console.Sound) (action : Action) :
    (turn.act action).console.Sound := by
  cases action with
  | submit line => exact h.submitLine turn.world line
  | press key => exact h.press turn.world key
  | tick => exact h

theorem sound_foldl_act {turn : Turn World} (h : turn.console.Sound) (actions : List Action) :
    (actions.foldl act turn).console.Sound := by
  induction actions generalizing turn with
  | nil => exact h
  | cons action actions ih => exact ih (sound_act h action)

end Turn

theorem Airspace.follow_tick_eq (space : Airspace) : space.follow .tick = Traffic.tick space := rfl

theorem Console.exists_events_submitLine (console : Console) (space : Airspace) (line : String) :
    ∃ events : List Event, (∀ event ∈ events, event.Arises console.settings.rules) ∧
      (console.submitLine space line).world = events.foldl Airspace.follow space := by
  rw [world_submitLine]
  cases hread : console.settings.rules.read line with
  | empty | rejected reason => exact ⟨[], List.forall_mem_nil _, rfl⟩
  | accepted transmission =>
    cases transmission with
    | system command => exact ⟨[], List.forall_mem_nil _, rfl⟩
    | aircraft mode target instructions =>
      exact ⟨[.call target mode instructions], List.forall_mem_singleton.mpr ⟨line, hread⟩, rfl⟩

namespace Turn

theorem exists_events_act (turn : Turn Airspace) (action : Action) :
    ∃ events : List Event, (∀ event ∈ events, event.Arises turn.console.settings.rules) ∧
      (turn.act action).world = events.foldl Airspace.follow turn.world := by
  cases action with
  | submit line => exact turn.console.exists_events_submitLine turn.world line
  | press key =>
    by_cases hkey : key = .submit
    · rw [act, hkey, Console.press_submit]
      exact turn.console.exists_events_submitLine turn.world _
    · obtain ⟨buffer, recalled, heq⟩ := Console.exists_press_eq hkey turn.console turn.world
      exact ⟨[], List.forall_mem_nil _, by rw [act, heq]; rfl⟩
  | tick => exact ⟨[.tick], List.forall_mem_singleton.mpr trivial, rfl⟩

theorem exists_events_run (turn : Turn Airspace) (actions : List Action) :
    ∃ events : List Event, (∀ event ∈ events, event.Arises turn.console.settings.rules) ∧
      (actions.foldl act turn).world = events.foldl Airspace.follow turn.world := by
  induction actions generalizing turn with
  | nil => exact ⟨[], List.forall_mem_nil _, rfl⟩
  | cons action actions ih =>
    obtain ⟨first, hfirst, hact⟩ := turn.exists_events_act action
    obtain ⟨later, hlater, hrun⟩ := ih (turn.act action)
    rw [settings_act] at hlater
    refine ⟨first ++ later, List.forall_mem_append.mpr ⟨hfirst, hlater⟩, ?_⟩
    rw [List.foldl_cons, hrun, hact, List.foldl_append]

end Turn

end ControlTower
