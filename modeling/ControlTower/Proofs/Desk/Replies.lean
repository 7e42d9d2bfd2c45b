import ControlTower.Proofs.Desk.Printout
import ControlTower.Proofs.Desk.Snapshot
import ControlTower.Proofs.Desk.Work

/-!
# Which phrases are heard

An aircraft that takes its instructions says so in a phrase that is drawn by chance. All phrases are
drawn from one stream, which is made from the seed of the console, and from one of two sets, for
instructions that are carried out at once and for those that are queued. Nothing else draws on the
stream: whatever is typed, misread, refused or asked of the console itself leaves it where it is. So
the phrases that are heard in the course of a session depend on the seed and on the modes of the
calls that were taken, and on nothing else. This is said of two sessions that may have nothing else
in common, neither the settings nor the world nor the number of actions.
-/

namespace ControlTower

variable {World : Type}

namespace Radio

/-- The phrases for several modes, one after the other, and the stream behind what was drawn for
them. -/
def affirmAll : List Mode → KeyStream → List String × KeyStream
  | [], stream => ([], stream)
  | mode :: modes, stream =>
    let (phrase, stream) := affirm mode stream
    let (phrases, stream) := affirmAll modes stream
    (phrase :: phrases, stream)

theorem affirmAll_append (first second : List Mode) (stream : KeyStream) :
    affirmAll (first ++ second) stream =
      ((affirmAll first stream).1 ++ (affirmAll second (affirmAll first stream).2).1,
        (affirmAll second (affirmAll first stream).2).2) := by
  induction first generalizing stream with
  | nil => rfl
  | cons mode first ih => simp only [List.cons_append, affirmAll, ih]

theorem length_affirmAll (modes : List Mode) (stream : KeyStream) :
    (affirmAll modes stream).1.length = modes.length := by
  induction modes generalizing stream with
  | nil => rfl
  | cons mode modes ih => simp only [affirmAll, List.length_cons, ih]

end Radio

def Call.affirmed (call : Call) (phrase : String) : Entry := ⟨.reply, spoken call.target phrase⟩

def Exchange.taken? (exchange : Exchange) : Option Call :=
  match exchange.answer with
  | .ok () => some exchange.call
  | .error _ => none

def Recorded.taken (recorded : Recorded World) : List Call :=
  recorded.exchanges.filterMap Exchange.taken?

def Console.taken? [Traffic World] (console : Console) (world : World) (line : String) :
    Option Call :=
  match console.settings.rules.read line with
  | .accepted (.aircraft mode target instructions) =>
    match Traffic.call world target mode instructions with
    | some (.ok (), _) => some ⟨mode, target, instructions⟩
    | _ => none
  | _ => none

namespace Recorded

variable [Traffic World] {recorded after : Recorded World} {target : String} {mode : Mode}
  {instructions : List Instruction}

theorem call_eq_none_iff : Traffic.call recorded target mode instructions = none ↔
    Traffic.call recorded.world target mode instructions = none := by
  cases hcall : Traffic.call recorded.world target mode instructions with
  | none => simp [call_of_eq_none hcall]
  | some result => simp [call_of_eq_some hcall]

theorem exchanges_of_call {answer : Except String Unit}
    (h : Traffic.call recorded target mode instructions = some (answer, after)) :
    after.exchanges = recorded.exchanges ++ [⟨⟨mode, target, instructions⟩, answer⟩] ∧
      Traffic.call recorded.world target mode instructions = some (answer, after.world) := by
  cases hcall : Traffic.call recorded.world target mode instructions with
  | none =>
    rw [call_of_eq_none hcall] at h
    cases h
  | some result =>
    rw [call_of_eq_some hcall] at h
    cases h
    exact ⟨rfl, rfl⟩

theorem world_tick (recorded : Recorded World) :
    (Traffic.tick recorded).world = Traffic.tick recorded.world := rfl

theorem taken_tick (recorded : Recorded World) :
    (Traffic.tick recorded).taken = recorded.taken := rfl

end Recorded

/-- Some calls were taken and some entries written between two turns. The replies among the entries
are those of the calls, in the phrases that the stream had for them. -/
structure Turn.Hears (before : Turn (Recorded World)) (calls : List Call) (entries : List Entry)
    (after : Turn (Recorded World)) : Prop where
  taken_eq : after.world.taken = before.world.taken ++ calls
  transcript_eq : after.console.transcript = before.console.transcript.writeAll entries
  replies_eq : entries.filter (·.severity = .reply) =
    List.zipWith Call.affirmed calls
      (Radio.affirmAll (calls.map (·.mode)) before.console.replies).1
  stream_eq : after.console.replies =
    (Radio.affirmAll (calls.map (·.mode)) before.console.replies).2

namespace Turn.Hears

variable {first second third : Turn (Recorded World)} {calls others : List Call}
  {entries more : List Entry}

/-- Where no call is taken the stream stays where it is. -/
theorem of_silent (taken_eq : second.world.taken = first.world.taken)
    (transcript_eq : second.console.transcript = first.console.transcript.writeAll entries)
    (silent : ∀ entry ∈ entries, entry.severity ≠ .reply)
    (stream_eq : second.console.replies = first.console.replies) :
    first.Hears [] entries second where
  taken_eq := by rw [taken_eq, List.append_nil]
  transcript_eq := transcript_eq
  replies_eq := by
    rw [List.zipWith_nil_left, List.filter_eq_nil_iff]
    simpa using silent
  stream_eq := stream_eq

theorem trans (h : first.Hears calls entries second) (h' : second.Hears others more third) :
    first.Hears (calls ++ others) (entries ++ more) third where
  taken_eq := by rw [h'.taken_eq, h.taken_eq, List.append_assoc]
  transcript_eq := by rw [h'.transcript_eq, h.transcript_eq, Transcript.writeAll_append]
  replies_eq := by
    rw [List.filter_append, h.replies_eq, h'.replies_eq, h.stream_eq, List.map_append,
      Radio.affirmAll_append, List.zipWith_append]
    rw [Radio.length_affirmAll, List.length_map]
  stream_eq := by
    rw [h'.stream_eq, h.stream_eq, List.map_append, Radio.affirmAll_append]

end Turn.Hears

section

variable [Traffic World]

/-- A line is heard about only when its call is taken. -/
theorem Console.hears_submitLine (turn : Turn (Recorded World)) (line : String) :
    turn.Hears (turn.console.taken? turn.world.world line).toList
      (turn.console.entriesFor turn.world line) (turn.console.submitLine turn.world line) := by
  have htranscript := turn.console.transcript_submitLine turn.world line
  have hending := ending turn.console turn.world line
  generalize turn.console.submitLine turn.world line = after at hending htranscript ⊢
  cases hending with
  | empty hread | rejected hread =>
    simp only [taken?, hread, Option.toList_none]
    exact .of_silent rfl htranscript (by simp [entriesFor, hread]) rfl
  | quit hread hreply | shown hread hreply =>
    simp only [taken?, hread, Option.toList_none]
    exact .of_silent rfl htranscript (by simp [entriesFor, hread, hreply, echo]) rfl
  | unanswered hread hcall =>
    have hnone : Traffic.call turn.world.world _ _ _ = none := Recorded.call_eq_none_iff.mp hcall
    simp only [taken?, hread, hnone, Option.toList_none]
    exact .of_silent rfl htranscript (by simp [entriesFor, hread, hcall, echo]) rfl
  | refused hread hcall =>
    obtain ⟨hexchanges, hworld⟩ := Recorded.exchanges_of_call hcall
    simp only [taken?, hread, hworld, Option.toList_none]
    refine .of_silent ?_ htranscript (by simp [entriesFor, hread, hcall, echo]) rfl
    simp [Recorded.taken, hexchanges, Exchange.taken?]
  | taken hread hcall =>
    obtain ⟨hexchanges, hworld⟩ := Recorded.exchanges_of_call hcall
    simp only [taken?, hread, hworld, Option.toList_some]
    refine ⟨?_, htranscript, ?_, rfl⟩
    · simp [Recorded.taken, hexchanges, Exchange.taken?]
    · simp [entriesFor, hread, hcall, echo, Radio.affirmAll, Call.affirmed]

theorem Console.taken_submitLine (console : Console) (recorded : Recorded World) (line : String) :
    (console.submitLine recorded line).world.taken =
      recorded.taken ++ (console.taken? recorded.world line).toList :=
  (hears_submitLine { console, world := recorded } line).taken_eq

theorem Console.world_world_submitLine (console : Console) (recorded : Recorded World)
    (line : String) :
    (console.submitLine recorded line).world.world =
      (console.submitLine recorded.world line).world :=
  congrArg Turn.world (Recorded.unrecorded_submitLine console recorded line)

def Console.submitted? (console : Console) : Action → Option String
  | .submit line => some line
  | .press .submit => some console.line
  | .press _ | .tick => none

namespace Turn

def written (turn : Turn World) (action : Action) : List Entry :=
  match turn.console.submitted? action with
  | some line => turn.console.entriesFor turn.world line
  | none => []

/-- Everything that is written in the course of some actions, whether or not the transcript still
holds it afterwards. -/
def log (turn : Turn World) : List Action → List Entry
  | [] => []
  | action :: actions => turn.written action ++ (turn.act action).log actions

/-- An action that submits no line leaves the transcript and the stream alone, and calls nobody. -/
theorem hears_act_of_submitted?_eq_none {turn : Turn (Recorded World)} {action : Action}
    (h : turn.console.submitted? action = none) : turn.Hears [] [] (turn.act action) := by
  have hsilent : ∀ entry ∈ ([] : List Entry), entry.severity ≠ .reply := List.forall_mem_nil _
  cases action with
  | submit line => cases h
  | tick => exact .of_silent rfl rfl hsilent rfl
  | press key =>
    have hkey : key ≠ .submit := by
      rintro rfl
      cases h
    obtain ⟨buffer, recalled, heq⟩ := Console.exists_press_eq hkey turn.console turn.world
    rw [act, heq]
    exact .of_silent rfl rfl hsilent rfl

theorem act_of_submitted? {turn : Turn World} {action : Action} {line : String}
    (h : turn.console.submitted? action = some line) :
    turn.act action = turn.console.submitLine turn.world line := by
  unfold Console.submitted? at h
  split at h
  · cases h
    rfl
  · cases h
    exact turn.console.press_submit turn.world
  · cases h
  · cases h

theorem exists_hears_act (turn : Turn (Recorded World)) (action : Action) :
    ∃ calls, turn.Hears calls (turn.written action) (turn.act action) := by
  unfold written
  cases hline : turn.console.submitted? action with
  | none => exact ⟨[], hears_act_of_submitted?_eq_none hline⟩
  | some line =>
    rw [act_of_submitted? hline]
    exact ⟨_, Console.hears_submitLine turn line⟩

theorem exists_hears_run (turn : Turn (Recorded World)) (actions : List Action) :
    ∃ calls, turn.Hears calls (turn.log actions) (actions.foldl act turn) := by
  induction actions generalizing turn with
  | nil => exact ⟨[], .of_silent rfl rfl (List.forall_mem_nil _) rfl⟩
  | cons action actions ih =>
    obtain ⟨calls, hact⟩ := turn.exists_hears_act action
    obtain ⟨others, hrun⟩ := ih (turn.act action)
    exact ⟨calls ++ others, hact.trans hrun⟩

theorem unrecorded_act (turn : Turn (Recorded World)) (action : Action) :
    (turn.act action).unrecorded = turn.unrecorded.act action := by
  cases action with
  | submit line => exact Recorded.unrecorded_submitLine turn.console turn.world line
  | tick => rfl
  | press key =>
    cases key with
    | submit =>
      rw [act, Console.press_submit, Recorded.unrecorded_submitLine, ← Console.press_submit]
      rfl
    | complete =>
      have hagree : Directory.Agree turn.world turn.world.world := ⟨rfl, rfl, fun _ => rfl, rfl⟩
      simp only [act, Console.press, Console.complete, unrecorded,
        Completion.complete?_congr hagree]
    | cancel | backspace | historyUp | historyDown | glyph =>
      simp only [act, Console.press, unrecorded]

theorem unrecorded_foldl_act (turn : Turn (Recorded World)) (actions : List Action) :
    (actions.foldl act turn).unrecorded = actions.foldl act turn.unrecorded := by
  induction actions generalizing turn with
  | nil => rfl
  | cons action actions ih => rw [List.foldl_cons, ih, unrecorded_act, List.foldl_cons]

/-- In the course of some actions phrases were heard: one for each call that was taken, and each as
the reply to that call. -/
structure Affirmed (start : Turn (Recorded World)) (actions : List Action)
    (phrases : List String) : Prop where
  unrecorded_eq : (actions.foldl act start).unrecorded = actions.foldl act start.unrecorded
  transcript_eq : (actions.foldl act start).console.transcript =
    start.console.transcript.writeAll (start.log actions)
  length_eq : phrases.length = (actions.foldl act start).world.taken.length
  replies_eq : (start.log actions).filter (·.severity = .reply) =
    List.zipWith Call.affirmed (actions.foldl act start).world.taken phrases

end Turn

theorem Call.affirmed_injective (call : Call) : Function.Injective call.affirmed := by
  intro phrase other h
  simpa [affirmed, spoken] using h

theorem Call.zipWith_affirmed_injective {calls : List Call} {phrases others : List String}
    (hlength : phrases.length = calls.length) (hlength' : others.length = calls.length)
    (h : List.zipWith affirmed calls phrases = List.zipWith affirmed calls others) :
    phrases = others := by
  induction calls generalizing phrases others with
  | nil => rw [List.length_eq_zero_iff.mp hlength, List.length_eq_zero_iff.mp hlength']
  | cons call calls ih =>
    obtain ⟨phrase, phrases, rfl⟩ := List.exists_cons_of_length_eq_add_one hlength
    obtain ⟨other, others, rfl⟩ := List.exists_cons_of_length_eq_add_one hlength'
    obtain ⟨hfirst, hrest⟩ := List.cons.inj h
    rw [call.affirmed_injective hfirst, ih (by simpa using hlength) (by simpa using hlength') hrest]

namespace Turn

/-- All calls that are found in a record that was new were taken in the session. -/
theorem hears_run {start : Turn (Recorded World)} (hstart : start.world.exchanges = [])
    (actions : List Action) :
    start.Hears (actions.foldl act start).world.taken (start.log actions)
      (actions.foldl act start) := by
  obtain ⟨calls, hrun⟩ := start.exists_hears_run actions
  have hcalls : (actions.foldl act start).world.taken = calls := by
    rw [hrun.taken_eq, Recorded.taken, hstart]
    rfl
  rwa [← hcalls] at hrun

/-- In a session with a new record exactly those phrases are heard that the stream has for the modes
of the calls that are taken. -/
theorem affirmed_iff {start : Turn (Recorded World)} (hstart : start.world.exchanges = [])
    (actions : List Action) (phrases : List String) :
    start.Affirmed actions phrases ↔
      phrases = (Radio.affirmAll ((actions.foldl act start).world.taken.map (·.mode))
        start.console.replies).1 := by
  have hrun := hears_run hstart actions
  have hlength := Radio.length_affirmAll
    ((actions.foldl act start).world.taken.map (·.mode)) start.console.replies
  rw [List.length_map] at hlength
  constructor
  · intro h
    exact Call.zipWith_affirmed_injective h.length_eq hlength (h.replies_eq.symm.trans hrun.replies_eq)
  · rintro rfl
    exact ⟨start.unrecorded_foldl_act actions, hrun.transcript_eq, hlength, hrun.replies_eq⟩

end Turn

end

theorem Console.replies_of_ofSettings {settings : Settings} {console : Console}
    (h : ofSettings settings = .ok console) : console.replies = .ofSeed settings.seed := by
  obtain ⟨-, rfl⟩ := ofSettings_eq_ok_iff.mp h
  rfl

/-- Two sessions begin at consoles that were opened with one seed. Whatever is done in them, and in
whatever worlds, if the calls that are taken have the same modes one after the other, the same
phrases are heard, and the same are still to come. An action for which no call is taken changes
nothing about those to come. -/
theorem same_phrases_of_same_modes {First Second : Type} [Traffic First] [Traffic Second]
    {settings settings' : Settings} {console console' : Console}
    (opened : Console.ofSettings settings = .ok console)
    (opened' : Console.ofSettings settings' = .ok console') (seed_eq : settings.seed = settings'.seed)
    (system system' : SystemHandler) (world : First) (world' : Second)
    (actions actions' : List Action) :
    let start : Turn (Recorded First) :=
      { console := { console with system }, world := ⟨world, []⟩ }
    let start' : Turn (Recorded Second) :=
      { console := { console' with system := system' }, world := ⟨world', []⟩ }
    let after := actions.foldl Turn.act start
    let after' := actions'.foldl Turn.act start'
    (after.world.taken.map (·.mode) = after'.world.taken.map (·.mode) →
      (∃ phrases, (∀ heard, start.Affirmed actions heard ↔ heard = phrases) ∧
        ∀ heard, start'.Affirmed actions' heard ↔ heard = phrases) ∧
      after.console.replies = after'.console.replies) ∧
    ∀ action, (after.act action).world.taken = after.world.taken →
      (after.act action).console.replies = after.console.replies := by
  intro start start' after after'
  have hstream : start.console.replies = start'.console.replies := by
    change console.replies = console'.replies
    rw [Console.replies_of_ofSettings opened, Console.replies_of_ofSettings opened', seed_eq]
  refine ⟨fun hmodes => ⟨⟨_, Turn.affirmed_iff rfl actions, fun heard => ?_⟩, ?_⟩,
    fun action htaken => ?_⟩
  · rw [Turn.affirmed_iff rfl actions', ← hstream, ← hmodes]
  · rw [(Turn.hears_run rfl actions).stream_eq, (Turn.hears_run rfl actions').stream_eq, ← hstream,
      hmodes]
  · obtain ⟨calls, hact⟩ := after.exists_hears_act action
    have hnone : calls = [] := by
      have htaken' := hact.taken_eq
      rwa [htaken, List.self_eq_append_right] at htaken'
    rw [hact.stream_eq, hnone]
    rfl

/-- In one session a heading is queued. In the other, by other rules and in another airspace, a
takeoff is refused first and time goes on before a heading is queued. -/
theorem same_phrases_of_same_modes_after_refusal :
    let settings : Settings := { seed := 7 }
    let settings' : Settings := { seed := 7, rules := .strict, callsign := "GROUND" }
    ∃ console console', Console.ofSettings settings = .ok console ∧
      Console.ofSettings settings' = .ok console' ∧ settings.seed = settings'.seed ∧
      let start : Turn (Recorded Airspace) :=
        { console, world := ⟨({} : Airspace).withAircraft (.airborne "BAW1234"), []⟩ }
      let start' : Turn (Recorded Airspace) :=
        { console := console', world := ⟨({} : Airspace).withAircraft (.airborne "AFR7731"), []⟩ }
      let actions : List Action := [.submit ".baw1234 h90"]
      let actions' : List Action :=
        [.submit "afr7731 takeoff 30", .tick, .submit ".afr7731 heading 180"]
      (actions.foldl Turn.act start).world.taken.map (·.mode) = [.enqueue] ∧
        (actions'.foldl Turn.act start').world.taken.map (·.mode) = [.enqueue] ∧
        ∃ phrases, (∀ heard, start.Affirmed actions heard ↔ heard = phrases) ∧
          ∀ heard, start'.Affirmed actions' heard ↔ heard = phrases := by
  intro settings settings'
  have hcheck : settings.check = .ok () := by decide +kernel
  have hcheck' : settings'.check = .ok () := by decide +kernel
  obtain ⟨console, hopened, hrules⟩ : ∃ console : Console,
      Console.ofSettings settings = .ok console ∧ console.settings.rules = {} := by
    rw [Console.ofSettings, hcheck]
    exact ⟨_, rfl, rfl⟩
  obtain ⟨console', hopened', hrules'⟩ : ∃ console : Console,
      Console.ofSettings settings' = .ok console ∧ console.settings.rules = .strict := by
    rw [Console.ofSettings, hcheck']
    exact ⟨_, rfl, rfl⟩
  refine ⟨console, console', hopened, hopened', rfl, ?_⟩
  intro start start' actions actions'
  let heading (degrees : Int) : Instruction := { command := .heading, arguments := [.number degrees] }
  let takeoff : Instruction := { command := .takeoff, arguments := [.number 3000] }
  have hread : ReadingRules.read {} ".baw1234 h90" =
      .accepted (.aircraft .enqueue "BAW1234" [heading 90]) := by
    rw [ReadingRules.read_eq_outcome]
    decide +kernel
  have hrefused : ReadingRules.strict.read "afr7731 takeoff 30" =
      .accepted (.aircraft .execute "AFR7731" [takeoff]) := by
    rw [ReadingRules.read_eq_outcome]
    decide +kernel
  have hread' : ReadingRules.strict.read ".afr7731 heading 180" =
      .accepted (.aircraft .enqueue "AFR7731" [heading 180]) := by
    rw [ReadingRules.read_eq_outcome]
    decide +kernel
  have hmodes : (actions.foldl Turn.act start).world.taken.map (·.mode) = [.enqueue] := by
    simp only [actions, start, List.foldl_cons, List.foldl_nil, Turn.act, Console.taken_submitLine,
      Console.taken?, hrules, hread]
    decide +kernel
  have hmodes' : (actions'.foldl Turn.act start').world.taken.map (·.mode) = [.enqueue] := by
    simp only [actions', start', List.foldl_cons, List.foldl_nil, Turn.act,
      Console.taken_submitLine, Recorded.taken_tick, Recorded.world_tick,
      Console.world_world_submitLine, Console.world_submitLine, Console.settings_submitLine,
      Console.taken?, hrules', hrefused, hread']
    decide +kernel
  have hsame := (same_phrases_of_same_modes hopened hopened' rfl console.system console'.system
    start.world.world start'.world.world actions actions').1 (hmodes.trans hmodes'.symm)
  exact ⟨hmodes, hmodes', hsame.1⟩

end ControlTower
