import ControlTower.Proofs.Airspace.Departures

/-!
# Who leaves an airspace

Aircraft leave an airspace by landing, and in no other way. An aircraft is cleared to land by
instructions that it carries out at once or takes up from its queue, and from then on each tick
brings it nearer to the runway, unless it is told to do something else meanwhile. So the history of
an airspace tells when an aircraft leaves it: at the last tick of an approach, counted from the
clearance, if nothing has superseded that clearance.
-/

namespace ControlTower

def FlightState.approach? : FlightState → Option Nat
  | .approaching _ _ remaining => some remaining
  | _ => none

def Event.countDown : Event → Nat → Option Nat
  | .tick, remaining => if 1 < remaining then some (remaining - 1) else none
  | .call _ _ _, remaining => some remaining

theorem Event.countDown_eq_some_iff {event : Event} {remaining later : Nat} (h : 1 ≤ remaining) :
    event.countDown remaining = some later ↔
      1 ≤ later ∧ remaining = later + [event].count .tick := by
  cases event with
  | call identifier mode instructions =>
    simp [countDown]
    omega
  | tick =>
    simp [countDown]
    omega

namespace Aircraft

variable {aircraft : Aircraft} {order : Order} {instructions : List Instruction}

/-- An order clears an aircraft to land: the aircraft carries instructions out, which leave it on an
approach. -/
def ClearedBy (aircraft : Aircraft) (order : Order) : Prop :=
  (∃ instructions, aircraft.CarriesOut order instructions) ∧
    (aircraft.respond order).state.approach? ≠ none

/-- An order supersedes what an aircraft is doing: it is taken and meant to be carried out at once,
and does more than to give up the transmission that was queued last. -/
def SupersededBy (aircraft : Aircraft) : Order → Prop
  | .execute instructions =>
    (∃ after, aircraft.instruct .execute instructions = .ok after) ∧
      ∀ abort, instructions.find? (·.command = .abort) = some abort →
        abort.hasFlag .lastOnly = false
  | .enqueue _ | .tick => False

theorem approach?_assign (h : aircraft.state.approach? = none ∨
      aircraft.state.approach? = some approachTicks) (instruction : Instruction) :
    (aircraft.assign instruction).state.approach? = none ∨
      (aircraft.assign instruction).state.approach? = some approachTicks := by
  cases hcommand : instruction.command with
  | heading | altitude | speed | takeoff | abort => simpa only [assign, hcommand] using h
  | circle => exact .inl (by simp only [assign, hcommand, FlightState.approach?])
  | land => exact .inr (by simp only [assign, hcommand, FlightState.approach?])

/-- Instructions lead to no approach but one that has just begun. -/
theorem approach?_begin (aircraft : Aircraft) (instructions : List Instruction) :
    (aircraft.begin instructions).state.approach? = none ∨
      (aircraft.begin instructions).state.approach? = some approachTicks := by
  have hfold : ∀ start : Aircraft,
      start.state.approach? = none ∨ start.state.approach? = some approachTicks →
        (instructions.foldl assign start).state.approach? = none ∨
          (instructions.foldl assign start).state.approach? = some approachTicks := by
    induction instructions with
    | nil => exact fun _ h => h
    | cons instruction instructions ih =>
      exact fun start h => ih _ (approach?_assign h instruction)
  exact hfold _ (.inl rfl)

theorem ClearedBy.approach?_eq (h : aircraft.ClearedBy order) :
    (aircraft.respond order).state.approach? = some approachTicks := by
  obtain ⟨⟨instructions, hcarried⟩, happroach⟩ := h
  obtain ⟨queue, hrespond⟩ := hcarried.respond_eq
  rw [hrespond] at happroach ⊢
  exact (approach?_begin _ _).resolve_left happroach

theorem CarriesOut.approach?_eq_none (h : aircraft.CarriesOut order instructions)
    (hcleared : ¬ aircraft.ClearedBy order) : (aircraft.respond order).state.approach? = none :=
  Classical.byContradiction fun happroach => hcleared ⟨⟨instructions, h⟩, happroach⟩

/-- An order that supersedes what an aircraft is doing makes it carry instructions out, or give
everything up. -/
theorem SupersededBy.carriesOut_or (h : aircraft.SupersededBy order) :
    (∃ instructions, aircraft.CarriesOut order instructions) ∨
      (aircraft.respond order).state = .parked ∨ (aircraft.respond order).state = .cruising := by
  cases order with
  | enqueue _ | tick => exact h.elim
  | execute instructions =>
    obtain ⟨⟨after, hexecute⟩, hall⟩ := h
    rcases execute_eq_ok_iff.mp hexecute with ⟨abort, habort, rfl⟩ | ⟨hnone, -⟩
    · right
      rw [respond_execute_of_ok hexecute, giveUp, hall abort habort]
      by_cases hparked : aircraft.state = .parked <;> simp [hparked]
    · exact .inl ⟨instructions, .execute hexecute hnone⟩

/-- What is superseded is over, unless the aircraft has been cleared anew. -/
theorem SupersededBy.approach?_eq_none (h : aircraft.SupersededBy order)
    (hcleared : ¬ aircraft.ClearedBy order) : (aircraft.respond order).state.approach? = none := by
  rcases h.carriesOut_or with ⟨instructions, hcarried⟩ | hstate | hstate
  · exact hcarried.approach?_eq_none hcleared
  · rw [hstate]
    rfl
  · rw [hstate]
    rfl

theorem CarriesOut.supersededBy {carried : List Instruction}
    (h : aircraft.CarriesOut (.execute instructions) carried) :
    aircraft.SupersededBy (.execute instructions) := by
  obtain ⟨taken, no_abort⟩ | _ := h
  refine ⟨⟨_, taken⟩, fun abort habort => ?_⟩
  obtain ⟨hmem, hcommand⟩ := mem_of_find?_abort habort
  exact absurd hcommand (no_abort abort hmem)

theorem ClearedBy.supersededBy_order {mode : Mode}
    (h : aircraft.ClearedBy (mode.order instructions)) :
    aircraft.SupersededBy (mode.order instructions) := by
  obtain ⟨⟨carried, hcarried⟩, -⟩ := h
  cases mode with
  | enqueue => cases hcarried
  | execute => exact hcarried.supersededBy

theorem state_respond_order_of_not_supersededBy {mode : Mode}
    (h : ¬ aircraft.SupersededBy (mode.order instructions)) :
    (aircraft.respond (mode.order instructions)).state = aircraft.state := by
  cases mode with
  | execute =>
    rw [Mode.order] at h ⊢
    have hexecution := aircraft.execution instructions
    generalize aircraft.respond (.execute instructions) = after at hexecution ⊢
    cases hexecution with
    | refused => rfl
    | @gaveUp abort hanswer hfound =>
      have hlast : abort.hasFlag .lastOnly = true := by
        by_contra hall
        refine h ⟨⟨_, hanswer⟩, fun other hother => ?_⟩
        obtain rfl : abort = other := Option.some.inj (hfound.symm.trans hother)
        simpa using hall
      rw [giveUp, if_pos hlast]
    | begun hanswer hnone => exact absurd (CarriesOut.supersededBy (.execute hanswer hnone)) h
  | enqueue =>
    rw [Mode.order]
    have hqueuing := aircraft.queuing instructions
    generalize aircraft.respond (.enqueue instructions) = after at hqueuing ⊢
    cases hqueuing with
    | refused | queued => rfl

theorem approach?_eq_none_of_isFree (h : aircraft.state.IsFree) :
    aircraft.state.approach? = none := by
  cases hstate : aircraft.state with
  | approaching airport runway remaining =>
    rw [hstate] at h
    exact h.elim
  | parked | cruising | maneuvering _ | circling _ | landed => rfl

theorem approach?_tick_of_not_clearedBy (h : ¬ aircraft.ClearedBy .tick) :
    aircraft.tick.state.approach? = (aircraft.state.approach?).bind Event.tick.countDown := by
  by_cases hfree : aircraft.state.IsFree
  · rw [approach?_eq_none_of_isFree hfree, Option.bind_none]
    cases hqueue : aircraft.queue with
    | nil =>
      rw [tick_of_isFree hfree, proceed, hqueue]
      rfl
    | cons next waiting => exact CarriesOut.approach?_eq_none (.tick hfree hqueue) h
  · rw [tick_eq_of_not_isFree hfree]
    cases hstate : aircraft.state with
    | approaching airport runway remaining =>
      by_cases hmany : 1 < remaining <;>
        simp [FlightState.afterTick, FlightState.approach?, Event.countDown, hmany]
    | parked | cruising | maneuvering _ | circling _ | landed => rfl

theorem tick_state_eq_landed_iff (h : aircraft.state ≠ .landed) :
    aircraft.tick.state = .landed ↔ ∃ remaining ≤ 1, aircraft.state.approach? = some remaining := by
  by_cases hfree : aircraft.state.IsFree
  · rw [approach?_eq_none_of_isFree hfree, tick_of_isFree hfree, proceed]
    split
    · simp
    · simp [begin_state_ne_landed]
  · rw [tick_eq_of_not_isFree hfree]
    cases hstate : aircraft.state with
    | approaching airport runway remaining =>
      simp only [FlightState.afterTick, FlightState.approach?, Option.some.injEq]
      split
      · simp; omega
      · simp; omega
    | landed => exact absurd hstate h
    | parked | cruising | maneuvering _ | circling _ =>
      simp [FlightState.afterTick, FlightState.approach?]

/-- What an aircraft is told does not end its flight. -/
theorem respond_order_state_ne_landed (h : aircraft.state ≠ .landed) (mode : Mode)
    (instructions : List Instruction) :
    (aircraft.respond (mode.order instructions)).state ≠ .landed := by
  by_cases hsuperseded : aircraft.SupersededBy (mode.order instructions)
  · rcases hsuperseded.carriesOut_or with ⟨carried, hcarried⟩ | hstate | hstate
    · obtain ⟨queue, hrespond⟩ := hcarried.respond_eq
      rw [hrespond]
      exact begin_state_ne_landed
    · simp [hstate]
    · simp [hstate]
  · rwa [state_respond_order_of_not_supersededBy hsuperseded]

end Aircraft

namespace Airspace

variable {space : Airspace} {identifier : String} {event : Event}

inductive Clears (space : Airspace) (identifier : String) : Event → Prop where
  | called {aircraft : Aircraft} {mode : Mode} {instructions : List Instruction}
      (found : space.fleet.find? identifier = some aircraft)
      (cleared : Aircraft.ClearedBy { aircraft with chart := space.chart }
        (mode.order instructions)) :
      Clears space identifier (.call identifier mode instructions)
  | ticked {aircraft : Aircraft} (found : space.fleet.find? identifier = some aircraft)
      (cleared : aircraft.ClearedBy .tick) : Clears space identifier .tick

inductive Supersedes (space : Airspace) (identifier : String) : Event → Prop where
  | called {aircraft : Aircraft} {mode : Mode} {instructions : List Instruction}
      (found : space.fleet.find? identifier = some aircraft)
      (superseded : Aircraft.SupersededBy { aircraft with chart := space.chart }
        (mode.order instructions)) :
      Supersedes space identifier (.call identifier mode instructions)

def Unsuperseded (space : Airspace) (identifier : String) : List Event → Prop
  | [] => True
  | event :: events =>
    ¬ space.Supersedes identifier event ∧ (space.follow event).Unsuperseded identifier events

/-- In the course of events an aircraft has been cleared to land, so many ticks ago, and nothing has
superseded this clearance since. -/
def ClearedAgo (space : Airspace) (identifier : String) (events : List Event) (ticks : Nat) :
    Prop :=
  ∃ before clearing since, events = before ++ clearing :: since ∧
    (before.foldl follow space).Clears identifier clearing ∧
    ((before ++ [clearing]).foldl follow space).Unsuperseded identifier since ∧
    since.count .tick = ticks

def Departs (space : Airspace) (identifier : String) : Prop :=
  identifier ∈ space.fleet.codes ∧ identifier ∉ (space.follow .tick).fleet.codes

def approach? (space : Airspace) (identifier : String) : Option Nat :=
  (space.fleet.find? identifier).bind (·.state.approach?)

theorem approach?_of_find? {aircraft : Aircraft}
    (h : space.fleet.find? identifier = some aircraft) :
    space.approach? identifier = aircraft.state.approach? := by
  rw [approach?, h, Option.bind_some]

theorem approach?_of_find?_eq_none (h : space.fleet.find? identifier = none) :
    space.approach? identifier = none := by
  rw [approach?, h, Option.bind_none]

theorem approach?_follow_call {aircraft : Aircraft} {mode : Mode} {instructions : List Instruction}
    (h : space.fleet.find? identifier = some aircraft) :
    (space.follow (.call identifier mode instructions)).approach? identifier =
      (Aircraft.respond { aircraft with chart := space.chart }
        (mode.order instructions)).state.approach? := by
  apply approach?_of_find?
  rw [find?_follow_call, h, Option.map_some, if_pos rfl]

theorem approach?_follow_tick {aircraft : Aircraft}
    (h : space.fleet.find? identifier = some aircraft) :
    (space.follow .tick).approach? identifier = aircraft.tick.state.approach? := by
  rw [approach?, find?_follow_tick, h, Option.map_some, Option.filter_some]
  split
  · rfl
  · next hlanded =>
    have hstate : aircraft.tick.state = .landed := by simpa using hlanded
    rw [hstate]
    rfl

theorem Clears.approach?_follow (h : space.Clears identifier event) :
    (space.follow event).approach? identifier = some approachTicks := by
  cases h with
  | called found cleared => rw [approach?_follow_call found, cleared.approach?_eq]
  | ticked found cleared => exact (approach?_follow_tick found).trans cleared.approach?_eq

theorem Supersedes.approach?_follow (h : space.Supersedes identifier event)
    (hcleared : ¬ space.Clears identifier event) :
    (space.follow event).approach? identifier = none := by
  obtain ⟨found, superseded⟩ := h
  rw [approach?_follow_call found]
  exact superseded.approach?_eq_none fun cleared => hcleared (.called found cleared)

/-- An approach goes on, unless an event clears or supersedes it, and ends with its last tick. -/
theorem approach?_follow (hcleared : ¬ space.Clears identifier event)
    (hsuperseded : ¬ space.Supersedes identifier event) :
    (space.follow event).approach? identifier =
      (space.approach? identifier).bind event.countDown := by
  cases hfind : space.fleet.find? identifier with
  | none =>
    have hnone : (space.follow event).fleet.find? identifier = none := by
      cases event with
      | call other mode instructions => rw [find?_follow_call, hfind, Option.map_none]
      | tick => rw [find?_follow_tick, hfind, Option.map_none, Option.filter_none]
    rw [approach?_of_find?_eq_none hfind, approach?_of_find?_eq_none hnone, Option.bind_none]
  | some aircraft =>
    cases event with
    | call other mode instructions =>
      have hcount : (space.approach? identifier).bind (Event.call other mode instructions).countDown
          = aircraft.state.approach? := by
        rw [approach?_of_find? hfind]
        exact Option.bind_fun_some _
      rw [hcount]
      by_cases hsame : identifier = other
      · subst hsame
        rw [approach?_follow_call hfind, Aircraft.state_respond_order_of_not_supersededBy
          fun superseded => hsuperseded (.called hfind superseded)]
      · apply approach?_of_find?
        rw [find?_follow_call, hfind, Option.map_some, if_neg hsame]
    | tick =>
      rw [approach?_follow_tick hfind, approach?_of_find? hfind]
      exact Aircraft.approach?_tick_of_not_clearedBy fun cleared => hcleared (.ticked hfind cleared)

/-- Nothing clears an aircraft that is on an approach already but what supersedes this approach. -/
theorem Clears.approach?_eq_none (h : space.Clears identifier event)
    (hsuperseded : ¬ space.Supersedes identifier event) : space.approach? identifier = none := by
  cases h with
  | called found cleared =>
    exact absurd (.called found cleared.supersededBy_order) hsuperseded
  | ticked found cleared =>
    obtain ⟨⟨_, _ | ⟨free, -⟩⟩, -⟩ := cleared
    rw [approach?_of_find? found, Aircraft.approach?_eq_none_of_isFree free]

theorem exists_of_approach?_eq_some {remaining : Nat}
    (h : space.approach? identifier = some remaining) :
    ∃ aircraft, space.fleet.find? identifier = some aircraft ∧
      aircraft.state.approach? = some remaining := by
  rwa [approach?, Option.bind_eq_some_iff] at h

theorem state_ne_landed_follow
    (h : ∀ identifier aircraft, space.fleet.find? identifier = some aircraft →
      aircraft.state ≠ .landed) {aircraft : Aircraft}
    (hfind : (space.follow event).fleet.find? identifier = some aircraft) :
    aircraft.state ≠ .landed := by
  obtain ⟨before, hbefore, hchange⟩ := exists_change _ hfind
  have hflies := h identifier before hbefore
  cases hchange with
  | called mode instructions =>
    have hinformed : Aircraft.state { before with chart := space.chart } ≠ .landed := hflies
    exact Aircraft.respond_order_state_ne_landed hinformed mode instructions
  | uncalled => exact hflies
  | ticked stays => exact stays

theorem codes_follow_call (space : Airspace) (identifier : String) (mode : Mode)
    (instructions : List Instruction) :
    (space.follow (.call identifier mode instructions)).fleet.codes = space.fleet.codes := by
  cases hfind : space.fleet.find? identifier with
  | none => rw [space.follow_call_of_find?_eq_none hfind]
  | some aircraft =>
    rw [space.follow_call_of_find?_eq_some hfind]
    simp [CodeMap.codes, CodeMap.modify, CodeMap.mapValues, Function.comp_def]

theorem codes_follow_sublist (space : Airspace) (event : Event) :
    (space.follow event).fleet.codes.Sublist space.fleet.codes := by
  cases event with
  | call identifier mode instructions => rw [codes_follow_call]
  | tick =>
    have hcodes : (space.fleet.mapValues fun _ aircraft => aircraft.tick).codes =
        space.fleet.codes := by
      simp [CodeMap.codes, CodeMap.mapValues, Function.comp_def]
    rw [← hcodes]
    exact List.filter_sublist.map _

/-- Aircraft that have not landed leave with the last tick of an approach. -/
theorem departs_iff
    (h : ∀ aircraft, space.fleet.find? identifier = some aircraft → aircraft.state ≠ .landed) :
    space.Departs identifier ↔ ∃ remaining ≤ 1, space.approach? identifier = some remaining := by
  rw [Departs, ← CodeMap.find?_eq_none_iff, find?_follow_tick]
  cases hfind : space.fleet.find? identifier with
  | none =>
    simp [CodeMap.find?_eq_none_iff.mp hfind, approach?_of_find?_eq_none hfind]
  | some aircraft =>
    have hmem : identifier ∈ space.fleet.codes := by
      by_contra hnot
      rw [CodeMap.find?_eq_none_iff.mpr hnot] at hfind
      cases hfind
    rw [and_iff_right hmem, approach?_of_find? hfind,
      ← Aircraft.tick_state_eq_landed_iff (h aircraft hfind), Option.map_some,
      Option.filter_eq_none_iff]
    simp

theorem state_ne_landed_foldl
    (h : ∀ identifier aircraft, space.fleet.find? identifier = some aircraft →
      aircraft.state ≠ .landed) (events : List Event) {aircraft : Aircraft}
    (hfind : (events.foldl follow space).fleet.find? identifier = some aircraft) :
    aircraft.state ≠ .landed := by
  induction events generalizing space with
  | nil => exact h identifier aircraft hfind
  | cons event events ih => exact ih (fun _ _ => state_ne_landed_follow h) hfind

theorem unsuperseded_append_singleton (space : Airspace) (identifier : String)
    (events : List Event) (event : Event) :
    space.Unsuperseded identifier (events ++ [event]) ↔
      space.Unsuperseded identifier events ∧
        ¬ (events.foldl follow space).Supersedes identifier event := by
  induction events generalizing space with
  | nil => simp [Unsuperseded]
  | cons first events ih =>
    rw [List.cons_append, Unsuperseded, Unsuperseded, ih, List.foldl_cons, and_assoc]

theorem unsuperseded_of_append {events later : List Event}
    (h : space.Unsuperseded identifier (events ++ later)) :
    (events.foldl follow space).Unsuperseded identifier later := by
  induction events generalizing space with
  | nil => exact h
  | cons first events ih => exact ih h.2

/-- A clearance that holds has just been given, or held before and has not been superseded. -/
theorem clearedAgo_append_singleton (space : Airspace) (identifier : String) (events : List Event)
    (event : Event) (ticks : Nat) :
    space.ClearedAgo identifier (events ++ [event]) ticks ↔
      (events.foldl follow space).Clears identifier event ∧ ticks = 0 ∨
        ¬ (events.foldl follow space).Supersedes identifier event ∧
          ∃ earlier, space.ClearedAgo identifier events earlier ∧
            ticks = earlier + [event].count .tick := by
  constructor
  · rintro ⟨before, clearing, since, hevents, hclears, hholds, hcount⟩
    rcases List.eq_nil_or_concat since with rfl | ⟨since, last, rfl⟩
    · obtain ⟨rfl, hlast⟩ := List.append_inj' hevents rfl
      obtain rfl := List.singleton_inj.mp hlast
      exact .inl ⟨hclears, by simpa using hcount.symm⟩
    · rw [List.concat_eq_append] at hevents hholds hcount
      rw [← List.cons_append, ← List.append_assoc] at hevents
      obtain ⟨rfl, hlast⟩ := List.append_inj' hevents rfl
      obtain rfl := List.singleton_inj.mp hlast
      rw [unsuperseded_append_singleton] at hholds
      rw [List.count_append] at hcount
      refine .inr ⟨?_, _, ⟨before, clearing, since, rfl, hclears, hholds.1, rfl⟩, hcount.symm⟩
      simpa using hholds.2
  · rintro (⟨hclears, rfl⟩ | ⟨hkeeps, _, ⟨before, clearing, since, rfl, hclears, hholds, rfl⟩, rfl⟩)
    · exact ⟨events, event, [], rfl, hclears, trivial, rfl⟩
    · refine ⟨before, clearing, since ++ [event], by simp, hclears, ?_, List.count_append⟩
      rw [unsuperseded_append_singleton]
      exact ⟨hholds, by simpa using hkeeps⟩

/-- An approach has as many ticks left as have not passed since the clearance. -/
theorem approach?_foldl_iff (space : Airspace)
    (hstart : ∀ identifier, space.approach? identifier = none) (events : List Event)
    (identifier : String) (remaining : Nat) :
    (events.foldl follow space).approach? identifier = some remaining ↔
      1 ≤ remaining ∧
        ∃ ticks, space.ClearedAgo identifier events ticks ∧ ticks + remaining = approachTicks := by
  induction events using List.reverseRecOn generalizing remaining with
  | nil => simp [hstart identifier, ClearedAgo]
  | append_singleton events event ih =>
    rw [List.foldl_append, List.foldl_cons, List.foldl_nil]
    simp only [clearedAgo_append_singleton]
    generalize events.foldl follow space = now at ih ⊢
    by_cases hclears : now.Clears identifier event
    · rw [hclears.approach?_follow]
      constructor
      · rintro ⟨⟩
        exact ⟨by decide, 0, .inl ⟨hclears, rfl⟩, Nat.zero_add _⟩
      · rintro ⟨hpositive, _, ⟨-, rfl⟩ | ⟨hkeeps, earlier, hago, rfl⟩, htotal⟩
        · rw [← htotal, Nat.zero_add]
        · have hnone := hclears.approach?_eq_none hkeeps
          have hsome := (ih ([event].count .tick + remaining)).mpr
            ⟨by omega, earlier, hago, by omega⟩
          cases hnone.symm.trans hsome
    · by_cases hsupersedes : now.Supersedes identifier event
      · simp [hsupersedes.approach?_follow hclears, hclears, hsupersedes]
      · rw [approach?_follow hclears hsupersedes, Option.bind_eq_some_iff]
        constructor
        · rintro ⟨before, hbefore, hcount⟩
          obtain ⟨hpositive, ticks, hago, htotal⟩ := (ih before).mp hbefore
          obtain ⟨hlater, rfl⟩ := (Event.countDown_eq_some_iff hpositive).mp hcount
          exact ⟨hlater, _, .inr ⟨hsupersedes, ticks, hago, rfl⟩, by omega⟩
        · rintro ⟨hpositive, _, ⟨hclears', -⟩ | ⟨-, earlier, hago, rfl⟩, htotal⟩
          · exact absurd hclears' hclears
          · have hbefore := (ih (remaining + [event].count .tick)).mpr
              ⟨by omega, earlier, hago, by omega⟩
            exact ⟨_, hbefore, (Event.countDown_eq_some_iff (by omega)).mpr ⟨hpositive, rfl⟩⟩

/-- What supersedes a clearance leaves nothing of it: only a later one can hold. -/
theorem ClearedAgo.of_superseded {before since : List Event} {clearing : Event} {ticks : Nat}
    (h : space.ClearedAgo identifier (before ++ clearing :: since) ticks)
    (hsuperseded : ¬ ((before ++ [clearing]).foldl follow space).Unsuperseded identifier since) :
    ((before ++ [clearing]).foldl follow space).ClearedAgo identifier since ticks := by
  obtain ⟨earlier, last, rest, hevents, hclears, hholds, hcount⟩ := h
  rcases List.append_eq_append_iff.mp hevents with ⟨between, rfl, hrest⟩ | ⟨between, rfl, hrest⟩
  · cases between with
    | nil =>
      obtain ⟨rfl, rfl⟩ := List.cons.inj hrest
      exact absurd (by simpa using hholds) hsuperseded
    | cons first between =>
      obtain ⟨rfl, rfl⟩ := List.cons.inj hrest
      exact ⟨between, last, rest, rfl, by simpa using hclears, by simpa using hholds, hcount⟩
  · cases between with
    | nil =>
      obtain ⟨rfl, rfl⟩ := List.cons.inj hrest
      exact absurd (by simpa using hholds) hsuperseded
    | cons first between =>
      obtain ⟨rfl, rfl⟩ := List.cons.inj hrest
      have hsplit : between.append (clearing :: since) = (between ++ [clearing]) ++ since := by simp
      rw [hsplit] at hholds
      exact absurd (by simpa using unsuperseded_of_append hholds) hsuperseded

/-- Aircraft leave an airspace by landing only. No event brings an aircraft, and no call makes one
leave; a tick makes those leave for which it is the last of an approach, counted from a clearance
that nothing has superseded since. Where something has superseded what an event made an aircraft do,
it takes a later clearance to make it leave. -/
theorem departs_iff_landing (space : Airspace) (events : List Event)
    (hstart : ∀ aircraft ∈ space.fleet.values,
      aircraft.state = .parked ∨ aircraft.state = .cruising) :
    let now := events.foldl follow space
    (∀ event, (now.follow event).fleet.codes.Sublist now.fleet.codes) ∧
      (∀ identifier mode instructions,
        (now.follow (.call identifier mode instructions)).fleet.codes = now.fleet.codes) ∧
      (∀ identifier, now.Departs identifier ↔
        space.ClearedAgo identifier events (approachTicks - 1)) ∧
      ∀ identifier before event since, events = before ++ event :: since →
        let later := (before ++ [event]).foldl follow space
        ¬ later.Unsuperseded identifier since → now.Departs identifier →
          later.ClearedAgo identifier since (approachTicks - 1) := by
  intro now
  have hstill : ∀ identifier, space.approach? identifier = none := by
    intro identifier
    by_contra happroach
    obtain ⟨remaining, hremaining⟩ := Option.ne_none_iff_exists'.mp happroach
    obtain ⟨aircraft, hfind, hstate⟩ := exists_of_approach?_eq_some hremaining
    rcases hstart aircraft (CodeMap.mem_values_of_find? hfind) with h | h <;>
      simp [h, FlightState.approach?] at hstate
  have hflies : ∀ identifier aircraft, space.fleet.find? identifier = some aircraft →
      aircraft.state ≠ .landed := by
    intro identifier aircraft hfind
    rcases hstart aircraft (CodeMap.mem_values_of_find? hfind) with h | h <;> simp [h]
  have hdeparts : ∀ identifier, now.Departs identifier ↔
      space.ClearedAgo identifier events (approachTicks - 1) := by
    intro identifier
    rw [departs_iff fun aircraft => state_ne_landed_foldl hflies events]
    simp only [approach?_foldl_iff space hstill]
    constructor
    · rintro ⟨remaining, hlast, hpositive, ticks, hago, htotal⟩
      obtain rfl : remaining = 1 := le_antisymm hlast hpositive
      rwa [← htotal]
    · exact fun hago => ⟨1, le_rfl, le_rfl, _, hago, rfl⟩
  refine ⟨now.codes_follow_sublist, now.codes_follow_call, hdeparts, ?_⟩
  intro identifier before event since hevents later hsuperseded hnow
  rw [hdeparts, hevents] at hnow
  exact hnow.of_superseded hsuperseded

/-- An aircraft that is cleared anew while it approaches leaves after the later clearance. -/
theorem departs_iff_landing_cleared_anew :
    let space := (({} : Airspace).withAirport "LHR" ["27L", "27R"]).withAircraft
      (.airborne "BAW1234")
    let landing (runway : String) : List Instruction :=
      [{ command := .land, arguments := [.text "lhr", .text runway] }]
    let events : List Event := [.call "BAW1234" .enqueue (landing "27L"), .tick, .tick,
      .call "BAW1234" .execute (landing "27R"), .tick]
    (∀ aircraft ∈ space.fleet.values, aircraft.state = .parked ∨ aircraft.state = .cruising) ∧
      ¬ (events.foldl follow space).Departs "BAW1234" ∧
      ((events ++ [Event.tick]).foldl follow space).Departs "BAW1234" ∧
      ¬ space.ClearedAgo "BAW1234" events (approachTicks - 1) ∧
      space.ClearedAgo "BAW1234" (events ++ [Event.tick]) (approachTicks - 1) := by
  intro space landing events
  have hstart : ∀ aircraft ∈ space.fleet.values,
      aircraft.state = .parked ∨ aircraft.state = .cruising := by
    intro aircraft hmem
    obtain rfl : aircraft = .airborne "BAW1234" := List.mem_singleton.mp hmem
    exact .inr rfl
  have hstays : ¬ (events.foldl follow space).Departs "BAW1234" := by
    unfold Departs
    decide +kernel
  have hleaves : ((events ++ [Event.tick]).foldl follow space).Departs "BAW1234" := by
    unfold Departs
    decide +kernel
  obtain ⟨-, -, hbefore, -⟩ := departs_iff_landing space events hstart
  obtain ⟨-, -, hafter, -⟩ := departs_iff_landing space (events ++ [Event.tick]) hstart
  exact ⟨hstart, hstays, hleaves, fun hago => hstays ((hbefore "BAW1234").mpr hago),
    (hafter "BAW1234").mp hleaves⟩

end Airspace

end ControlTower
