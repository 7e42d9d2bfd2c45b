import ControlTower.Proofs.Airspace.Course

/-!
# Aircraft do not interfere

All aircraft of an airspace are listed in one table, consult one chart and see the same ticks. Still
what becomes of one of them, and what it answers, depends on the calls that are made to it and on
the ticks alone: it would be the same if no other aircraft were there and no other call were made.
Calls to different aircraft can therefore be interleaved in any way between two ticks.

What carries this is that an aircraft cannot tell apart two airspaces that have the same chart and
the same record of it. Events keep two airspaces alike in this way, and an event that does not
concern the aircraft leaves an airspace like itself.
-/

namespace ControlTower

namespace Event

def calls (identifier : String) : Event → Bool
  | .call called _ _ => called == identifier
  | .tick => false

/-- Whether an event is something to the aircraft of an identifier: it is called, or time goes
on. -/
def concerns (identifier : String) : Event → Bool
  | .call called _ _ => called == identifier
  | .tick => true

variable {event : Event} {identifier : String}

theorem concerns_of_calls (h : event.calls identifier = true) :
    event.concerns identifier = true := by
  cases event with
  | call called mode instructions => exact h
  | tick => rfl

theorem exists_call_of_calls (h : event.calls identifier = true) :
    ∃ mode instructions, event = .call identifier mode instructions := by
  cases event with
  | call called mode instructions =>
    obtain rfl : called = identifier := beq_iff_eq.mp h
    exact ⟨mode, instructions, rfl⟩
  | tick => cases h

theorem exists_call_of_not_concerns (h : ¬ event.concerns identifier = true) :
    ∃ called mode instructions, event = .call called mode instructions ∧ identifier ≠ called := by
  cases event with
  | call called mode instructions =>
    exact ⟨called, mode, instructions, rfl, fun heq => h (beq_iff_eq.mpr heq.symm)⟩
  | tick => exact absurd rfl h

end Event

namespace Airspace

def only (space : Airspace) (identifier : String) : Airspace :=
  { space with
    fleet := match space.fleet.find? identifier with
      | some aircraft => CodeMap.empty.insert identifier aircraft
      | none => .empty }

/-- What is answered to an event: nothing to a tick, and nothing to a call of an aircraft that is
not there. -/
def answer? (space : Airspace) : Event → Option (Except Refusal Unit)
  | .call identifier mode instructions => (space.call identifier mode instructions).map (·.1)
  | .tick => none

def answers (space : Airspace) (identifier : String) :
    List Event → List (Option (Except Refusal Unit))
  | [] => []
  | event :: events =>
    let later := (space.follow event).answers identifier events
    if event.calls identifier then space.answer? event :: later else later

/-- The aircraft of an identifier cannot tell two airspaces apart. -/
structure Alike (first second : Airspace) (identifier : String) : Prop where
  chart : first.chart = second.chart
  aircraft : first.fleet.find? identifier = second.fleet.find? identifier

theorem find?_only (space : Airspace) (identifier other : String) :
    (space.only identifier).fleet.find? other =
      if other = identifier then space.fleet.find? identifier else none := by
  unfold only
  cases space.fleet.find? identifier with
  | some aircraft => exact CodeMap.find?_insert .empty identifier other aircraft
  | none => exact (ite_self _).symm

theorem alike_only (space : Airspace) (identifier : String) :
    Alike space (space.only identifier) identifier :=
  ⟨rfl, by rw [find?_only, if_pos rfl]⟩

variable {space first second : Airspace} {identifier : String} {event : Event}

theorem Alike.follow (h : Alike first second identifier) (event : Event) :
    Alike (first.follow event) (second.follow event) identifier where
  chart := by rw [follow_chart, follow_chart, h.chart]
  aircraft := by
    cases event with
    | call called mode instructions =>
      rw [find?_follow_call, find?_follow_call, h.aircraft, h.chart]
    | tick => rw [find?_follow_tick, find?_follow_tick, h.aircraft]

/-- An event that does not concern an aircraft goes unnoticed by it. -/
theorem Alike.follow_left (h : Alike first second identifier)
    (hevent : ¬ event.concerns identifier = true) :
    Alike (first.follow event) second identifier where
  chart := by rw [follow_chart, h.chart]
  aircraft := by
    obtain ⟨called, mode, instructions, rfl, hne⟩ := Event.exists_call_of_not_concerns hevent
    rw [find?_follow_call, ← h.aircraft]
    simp only [if_neg hne, Option.map_id_fun', id_eq]

theorem Alike.answer?_eq (h : Alike first second identifier)
    (hevent : event.calls identifier = true) : first.answer? event = second.answer? event := by
  obtain ⟨mode, instructions, rfl⟩ := Event.exists_call_of_calls hevent
  simp only [answer?]
  cases hfind : first.fleet.find? identifier with
  | none => simp only [call, hfind, ← h.aircraft, Option.map_none]
  | some aircraft =>
    have hfind' : second.fleet.find? identifier = some aircraft := h.aircraft ▸ hfind
    rw [call_of_find?_eq_some first hfind, call_of_find?_eq_some second hfind', h.chart]
    rfl

/-- An aircraft answers the same, and the same becomes of it, when all events are left out that do
not concern it. -/
theorem Alike.run (h : Alike first second identifier) (events : List Event) :
    let own := events.filter (·.concerns identifier)
    first.answers identifier events = second.answers identifier own ∧
      Alike (events.foldl Airspace.follow first) (own.foldl Airspace.follow second) identifier := by
  induction events generalizing first second with
  | nil => exact ⟨rfl, h⟩
  | cons event events ih =>
    by_cases hconcerns : event.concerns identifier = true
    · obtain ⟨hanswers, halike⟩ := ih (h.follow event)
      rw [List.filter_cons_of_pos hconcerns]
      refine ⟨?_, halike⟩
      simp only [answers, hanswers]
      split
      · next hcalls => rw [h.answer?_eq hcalls]
      · rfl
    · obtain ⟨hanswers, halike⟩ := ih (h.follow_left hconcerns)
      have hcalls : ¬ event.calls identifier = true :=
        fun hcalls => hconcerns (Event.concerns_of_calls hcalls)
      rw [List.filter_cons_of_neg hconcerns]
      refine ⟨?_, halike⟩
      simp only [answers, if_neg hcalls, hanswers]

theorem find?_foldl_follow_eq_none (h : space.fleet.find? identifier = none) (events : List Event) :
    (events.foldl follow space).fleet.find? identifier = none := by
  induction events generalizing space with
  | nil => exact h
  | cons event events ih =>
    refine ih ?_
    cases event with
    | call called mode instructions => rw [find?_follow_call, h, Option.map_none]
    | tick => rw [find?_follow_tick, h, Option.map_none, Option.filter_none]

/-- Courses of events that are the same to each aircraft lead to the same airspace. -/
theorem foldl_follow_eq_of_concerns {events others : List Event}
    (h : ∀ identifier ∈ space.fleet.codes,
      events.filter (·.concerns identifier) = others.filter (·.concerns identifier)) :
    events.foldl follow space = others.foldl follow space := by
  have hsame : (events.foldl follow space).fleet = (others.foldl follow space).fleet := by
    refine CodeMap.ext_find? fun identifier => ?_
    by_cases hlisted : identifier ∈ space.fleet.codes
    · have hself : Alike space space identifier := ⟨rfl, rfl⟩
      rw [(hself.run events).2.aircraft, (hself.run others).2.aircraft, h identifier hlisted]
    · have hnone := CodeMap.find?_eq_none_iff.mpr hlisted
      rw [find?_foldl_follow_eq_none hnone, find?_foldl_follow_eq_none hnone]
  obtain ⟨fleet, hfleet⟩ := space.exists_fleet_foldl_follow events
  obtain ⟨fleet', hfleet'⟩ := space.exists_fleet_foldl_follow others
  rw [hfleet, hfleet'] at hsame ⊢
  exact congrArg (fun fleet => { space with fleet }) hsame

/-- Aircraft do not interfere. Whatever happens in an airspace, the calls of an identifier are
answered as they would be, and its aircraft comes to be in the same condition or is gone just as it
would be, if no other aircraft were there and nothing happened but these calls and the ticks. Two
courses of events in which each aircraft is called in the same way between the ticks end in the same
airspace. -/
theorem aircraft_separate (space : Airspace) (events : List Event) :
    (∀ identifier, let own := events.filter (·.concerns identifier)
      space.answers identifier events = (space.only identifier).answers identifier own ∧
        (events.foldl follow space).fleet.find? identifier =
          (own.foldl follow (space.only identifier)).fleet.find? identifier) ∧
      ∀ others : List Event,
        (∀ identifier ∈ space.fleet.codes,
          events.filter (·.concerns identifier) = others.filter (·.concerns identifier)) →
        events.foldl follow space = others.foldl follow space := by
  refine ⟨fun identifier => ?_, fun others h => foldl_follow_eq_of_concerns h⟩
  obtain ⟨hanswers, halike⟩ := (alike_only space identifier).run events
  exact ⟨hanswers, halike.aircraft⟩

theorem aircraft_separate_two_called :
    let space := (({} : Airspace).withAircraft (.airborne "ABC1234")).withAircraft
      (.parked "DEF5678")
    let heading : List Instruction := [{ command := .heading, arguments := [.number 90] }]
    let takeoff : List Instruction := [{ command := .takeoff, arguments := [.number 2000] }]
    let first : Event := .call "ABC1234" .execute heading
    let second : Event := .call "DEF5678" .execute takeoff
    let third : Event := .call "ABC1234" .enqueue heading
    let events := [first, second, .tick, third]
    let others := [second, first, .tick, third]
    (∀ identifier ∈ space.fleet.codes,
        events.filter (·.concerns identifier) = others.filter (·.concerns identifier)) ∧
      events.foldl follow space = others.foldl follow space ∧
      space.answers "ABC1234" events = [some (.ok ()), some (.ok ())] ∧
      (space.only "ABC1234").answers "ABC1234" [first, .tick, third] =
        [some (.ok ()), some (.ok ())] := by
  intro space heading takeoff first second third events others
  have hsame : ∀ identifier ∈ space.fleet.codes,
      events.filter (·.concerns identifier) = others.filter (·.concerns identifier) := by
    decide +kernel
  have hanswers : space.answers "ABC1234" events = [some (.ok ()), some (.ok ())] := by
    rfl
  have hown : events.filter (·.concerns "ABC1234") = [first, .tick, third] := by decide +kernel
  obtain ⟨hseparate, hinterleaved⟩ := aircraft_separate space events
  refine ⟨hsame, hinterleaved others hsame, hanswers, ?_⟩
  rw [← hown, ← (hseparate "ABC1234").1, hanswers]

end Airspace

end ControlTower
