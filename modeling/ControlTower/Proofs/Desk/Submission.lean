import ControlTower.Proofs.Airspace.Course
import ControlTower.Proofs.Desk.Answers
import ControlTower.Proofs.Phraseology.Addressing

/-!
# What becomes of a submitted line

A line with nothing but blanks is passed over. Any other line is answered in exactly one way: it is
explained why the line was not understood, the console carries out a command, or the aircraft that
is addressed is called, once and with the instructions that were read. Whatever the answer is, it is
the last thing in the transcript. To tell which calls are made, the world is given a record of them,
which the console does not notice.
-/

namespace ControlTower

variable {World : Type}

/-- A call that was answered: with nothing, or with the text of a refusal. -/
structure Exchange where
  call : Call
  answer : Except String Unit

structure Recorded (World : Type) where
  world : World
  exchanges : List Exchange := []

instance [Traffic World] : Traffic (Recorded World) where
  aircraft recorded := Directory.aircraft recorded.world
  airports recorded := Directory.airports recorded.world
  runways recorded := Directory.runways recorded.world
  beacons recorded := Directory.beacons recorded.world
  call recorded target mode instructions :=
    (Traffic.call recorded.world target mode instructions).map fun (answer, world) =>
      (answer,
        { world, exchanges := recorded.exchanges ++ [⟨⟨mode, target, instructions⟩, answer⟩] })
  tick recorded := { recorded with world := Traffic.tick recorded.world }

def Turn.unrecorded (turn : Turn (Recorded World)) : Turn World :=
  { turn with world := turn.world.world }

namespace Recorded

variable [Traffic World] {recorded : Recorded World} {after : World} {target : String} {mode : Mode}
  {instructions : List Instruction}

theorem call_of_eq_none (h : Traffic.call recorded.world target mode instructions = none) :
    Traffic.call recorded target mode instructions = none := by
  simp only [Traffic.call, h, Option.map_none]

theorem call_of_eq_some {answer : Except String Unit}
    (h : Traffic.call recorded.world target mode instructions = some (answer, after)) :
    Traffic.call recorded target mode instructions =
      some (answer, ⟨after, recorded.exchanges ++ [⟨⟨mode, target, instructions⟩, answer⟩]⟩) := by
  simp only [Traffic.call, h, Option.map_some]

theorem unrecorded_submitLine (console : Console) (recorded : Recorded World) (line : String) :
    (console.submitLine recorded line).unrecorded = console.submitLine recorded.world line := by
  have hending := Console.ending console recorded.world line
  generalize console.submitLine recorded.world line = turn at hending
  cases hending with
  | empty hread => rw [(Console.Ending.empty hread).submitLine_eq, Turn.unrecorded]
  | rejected hread => rw [(Console.Ending.rejected hread).submitLine_eq, Turn.unrecorded]
  | unanswered hread hcall =>
    rw [(Console.Ending.unanswered hread (call_of_eq_none hcall)).submitLine_eq, Turn.unrecorded]
  | taken hread hcall =>
    rw [(Console.Ending.taken hread (call_of_eq_some hcall)).submitLine_eq, Turn.unrecorded]
  | refused hread hcall =>
    rw [(Console.Ending.refused hread (call_of_eq_some hcall)).submitLine_eq, Turn.unrecorded]
  | quit hread hreply => rw [(Console.Ending.quit hread hreply).submitLine_eq, Turn.unrecorded]
  | shown hread hreply => rw [(Console.Ending.shown hread hreply).submitLine_eq, Turn.unrecorded]

end Recorded

structure Effect (World : Type) where
  /-- The entries that are written. -/
  entries : List Entry
  /-- The calls that are made, as far as there is somebody to answer them. -/
  exchanges : List Exchange := []
  /-- The commands that the console carries out itself. -/
  obeyed : List SystemCommand := []
  world : World
  replies : Radio.KeyStream
  signal : Signal := .continue

/-- A turn has brought about an effect, and the line is the latest in the history. Nothing else at
the console has changed, and of what has been written the last entry is held last. -/
structure Effect.ShownBy (effect : Effect World) (console : Console) (line : String)
    (turn : Turn (Recorded World)) : Prop where
  gains : console.transcript.Gains effect.entries turn.console.transcript
  last_eq : turn.console.transcript.entries.getLast? = effect.entries.getLast?
  console_eq : turn.console =
    { console.remember line with
      transcript := turn.console.transcript
      replies := effect.replies
      obeyed := effect.obeyed ++ console.obeyed }
  world_eq : turn.world = ⟨effect.world, effect.exchanges⟩
  signal_eq : turn.signal = effect.signal

/-- What the operator can rely on when a line has been submitted in a world whose record of calls
was empty. -/
structure Console.Answers [Traffic World] (console : Console) (world : World) (line : String)
    (turn : Turn (Recorded World)) : Prop where
  /-- Nothing becomes of a line with nothing but blanks. -/
  blank : (∀ c ∈ line.toList, Text.isBlank c = true) →
    turn = { console := { console with buffer := line.toList }, world := ⟨world, []⟩ }
  /-- Any other line is understood or not. -/
  nonblank : (∃ c ∈ line.toList, Text.isBlank c = false) →
    (∃ transmission, console.settings.rules.read line = .accepted transmission) ∨
      ∃ reason, console.settings.rules.read line = .rejected reason
  rejected : ∀ reason, console.settings.rules.read line = .rejected reason →
    Effect.ShownBy
      { entries := [⟨.error, rejectionLead ++ reason.message⟩], world, replies := console.replies }
      console line turn
  /-- Nobody is called when there is no aircraft of the identifier. -/
  unanswered : ∀ mode target instructions,
    console.settings.rules.read line = .accepted (.aircraft mode target instructions) →
    Traffic.call world target mode instructions = none →
    Effect.ShownBy
      { entries :=
          [console.echo line, ⟨.error, spoken target "No such aircraft in the airspace."⟩]
        world
        replies := console.replies }
      console line turn
  taken : ∀ mode target instructions after,
    console.settings.rules.read line = .accepted (.aircraft mode target instructions) →
    Traffic.call world target mode instructions = some (.ok (), after) →
    Effect.ShownBy
      { entries :=
          [console.echo line, ⟨.reply, spoken target (Radio.affirm mode console.replies).1⟩]
        exchanges := [⟨⟨mode, target, instructions⟩, .ok ()⟩]
        world := after
        replies := (Radio.affirm mode console.replies).2 }
      console line turn
  refused : ∀ mode target instructions refusal after,
    console.settings.rules.read line = .accepted (.aircraft mode target instructions) →
    Traffic.call world target mode instructions = some (.error refusal, after) →
    Effect.ShownBy
      { entries := [console.echo line, ⟨.error, spoken target refusal⟩]
        exchanges := [⟨⟨mode, target, instructions⟩, .error refusal⟩]
        world := after
        replies := console.replies }
      console line turn
  quits : ∀ command, console.settings.rules.read line = .accepted (.system command) →
    console.reply command = .quit →
    Effect.ShownBy
      { entries := [console.echo line]
        obeyed := [command]
        world
        replies := console.replies
        signal := .quit }
      console line turn
  shown : ∀ command text, console.settings.rules.read line = .accepted (.system command) →
    console.reply command = .lines text →
    Effect.ShownBy
      { entries := console.echo line :: text.map (⟨.info, ·⟩)
        obeyed := [command]
        world
        replies := console.replies }
      console line turn
  quit_iff : turn.signal = .quit ↔
    ∃ command, console.settings.rules.read line = .accepted (.system command) ∧
      console.reply command = .quit

/-- In a transcript that keeps within its bounds, what settles a line is shown. -/
theorem Effect.shownBy_settled {effect : Effect World} {console : Console} {line : String}
    {turn : Turn (Recorded World)} (h : console.transcript.Bounded) (hne : effect.entries ≠ [])
    (hturn : turn =
      { console := console.settled line effect.entries effect.replies
          (effect.obeyed ++ console.obeyed)
        world := ⟨effect.world, effect.exchanges⟩
        signal := effect.signal }) : effect.ShownBy console line turn := by
  have hgains := Transcript.gains_writeAll h.length_le effect.entries
  rw [hturn]
  exact ⟨hgains, hgains.getLast?_eq h.capacity_pos hne, rfl, rfl, rfl⟩

namespace Console

variable {console : Console}

namespace Sound

theorem read_eq_empty_iff (h : console.Sound) {line : String} :
    console.settings.rules.read line = .empty ↔ ∀ c ∈ line.toList, Text.isBlank c = true :=
  ReadingRules.read_eq_empty_iff (Settings.check_rules h.check)

variable [Traffic World]

theorem answers (h : console.Sound) (world : World) (line : String) :
    console.Answers world line (console.submitLine (⟨world, []⟩ : Recorded World) line) where
  blank hblank := (Ending.empty (h.read_eq_empty_iff.mpr hblank)).submitLine_eq
  nonblank := by
    rintro ⟨c, hmem, hc⟩
    cases hread : console.settings.rules.read line with
    | empty =>
      have hblank := h.read_eq_empty_iff.mp hread c hmem
      rw [hc] at hblank
      cases hblank
    | accepted transmission => exact .inl ⟨transmission, rfl⟩
    | rejected reason => exact .inr ⟨reason, rfl⟩
  rejected _ hread :=
    Effect.shownBy_settled h.bounded (List.cons_ne_nil _ _) (Ending.rejected hread).submitLine_eq
  unanswered _ _ _ hread hcall :=
    Effect.shownBy_settled h.bounded (List.cons_ne_nil _ _)
      (Ending.unanswered hread (Recorded.call_of_eq_none hcall)).submitLine_eq
  taken _ _ _ _ hread hcall :=
    Effect.shownBy_settled h.bounded (List.cons_ne_nil _ _)
      (Ending.taken hread (Recorded.call_of_eq_some hcall)).submitLine_eq
  refused _ _ _ _ _ hread hcall :=
    Effect.shownBy_settled h.bounded (List.cons_ne_nil _ _)
      (Ending.refused hread (Recorded.call_of_eq_some hcall)).submitLine_eq
  quits _ hread hreply :=
    Effect.shownBy_settled h.bounded (List.cons_ne_nil _ _) (Ending.quit hread hreply).submitLine_eq
  shown _ _ hread hreply :=
    Effect.shownBy_settled h.bounded (List.cons_ne_nil _ _)
      (Ending.shown hread hreply).submitLine_eq
  quit_iff := signal_submitLine_eq_quit_iff console _ line

end Sound

end Console

def Reading.orderTo? (reading : Reading) (identifier : String) : Option Order :=
  match reading with
  | .accepted (.aircraft mode target instructions) =>
    if target = identifier then some (mode.order instructions) else none
  | _ => none

theorem Airspace.follow_call_eq (space : Airspace) (target : String) (mode : Mode)
    (instructions : List Instruction) :
    space.follow (.call target mode instructions) =
      ((Traffic.call space target mode instructions).map (·.2)).getD space := by
  simp only [follow, Traffic.call, Option.map_map]
  rfl

namespace Console

/-- A line is an event in an airspace when an aircraft is addressed, and none otherwise. -/
theorem world_submitLine (console : Console) (space : Airspace) (line : String) :
    (console.submitLine space line).world =
      match console.settings.rules.read line with
      | .accepted (.aircraft mode target instructions) =>
        space.follow (.call target mode instructions)
      | _ => space := by
  have hending := ending console space line
  generalize console.submitLine space line = turn at hending
  cases hending with
  | empty hread | rejected hread | quit hread | shown hread => rw [hread]
  | unanswered hread hcall | taken hread hcall | refused hread hcall =>
    simp only [hread, Airspace.follow_call_eq, hcall, Option.map_none, Option.map_some,
      Option.getD_none, Option.getD_some]

theorem find?_submitLine (console : Console) (space : Airspace) (line identifier : String) :
    (console.submitLine space line).world.fleet.find? identifier =
      (space.fleet.find? identifier).map fun aircraft =>
        match (console.settings.rules.read line).orderTo? identifier with
        | some order => Aircraft.respond { aircraft with chart := space.chart } order
        | none => aircraft := by
  rw [world_submitLine]
  cases hread : console.settings.rules.read line with
  | empty | rejected reason => simp [Reading.orderTo?]
  | accepted transmission =>
    cases transmission with
    | system command => simp [Reading.orderTo?]
    | aircraft mode target instructions =>
      dsimp only [Reading.orderTo?]
      rw [Airspace.find?_follow_call]
      by_cases hsame : target = identifier
      · simp only [hsame, if_true]
      · simp only [if_neg hsame, if_neg (Ne.symm hsame)]

theorem find?_submitLine_of_refused {console : Console} {space after : Airspace}
    {line identifier refusal : String} {mode : Mode} {instructions : List Instruction}
    (hread : console.settings.rules.read line = .accepted (.aircraft mode identifier instructions))
    (hcall : Traffic.call space identifier mode instructions = some (.error refusal, after)) :
    (console.submitLine space line).world.fleet.find? identifier =
      (space.fleet.find? identifier).map ({ · with chart := space.chart }) := by
  rw [find?_submitLine, hread]
  simp only [Reading.orderTo?, if_true]
  cases hfind : space.fleet.find? identifier with
  | none => rfl
  | some aircraft =>
    have hanswer : (Aircraft.instruct { aircraft with chart := space.chart } mode
        instructions).1.mapError Refusal.message = .error refusal := by
      simp only [Traffic.call, space.call_of_find?_eq_some hfind, Option.map_some] at hcall
      exact (Prod.mk.inj (Option.some.inj hcall)).1
    rw [Option.map_some, Option.map_some, Aircraft.respond_order_of_refused]
    intro htaken
    rw [htaken] at hanswer
    cases hanswer

end Console

/-- Whatever has been done at a console since it was opened, and in whatever world, a line that is
submitted is answered as the operator can rely on. Of the aircraft in an airspace only the one that
is addressed does anything, and nothing if it refuses. -/
theorem submission_answered {console : Console} (h : console.Reachable) (line : String) :
    (∀ (World : Type) [Traffic World] (world : World),
      console.Answers world line (console.submitLine (⟨world, []⟩ : Recorded World) line) ∧
        (console.submitLine (⟨world, []⟩ : Recorded World) line).unrecorded =
          console.submitLine world line ∧
        console.press world .submit = console.submitLine world console.line) ∧
      ∀ (space : Airspace) (identifier : String),
        ((console.submitLine space line).world.fleet.find? identifier =
          (space.fleet.find? identifier).map fun aircraft =>
            match (console.settings.rules.read line).orderTo? identifier with
            | some order => Aircraft.respond { aircraft with chart := space.chart } order
            | none => aircraft) ∧
          ∀ mode instructions refusal after,
            console.settings.rules.read line = .accepted (.aircraft mode identifier instructions) →
            Traffic.call space identifier mode instructions = some (.error refusal, after) →
            (console.submitLine space line).world.fleet.find? identifier =
              (space.fleet.find? identifier).map ({ · with chart := space.chart }) := by
  refine ⟨fun World _ world => ⟨?_, ?_, ?_⟩, fun space identifier => ⟨?_, ?_⟩⟩
  · exact h.sound.answers world line
  · exact Recorded.unrecorded_submitLine console _ line
  · exact console.press_submit world
  · exact console.find?_submitLine space line identifier
  · exact fun mode instructions refusal after => Console.find?_submitLine_of_refused

theorem submission_answered_refused_takeoff :
    ∃ console : Console, console.Reachable ∧
      let space := ({} : Airspace).withAircraft (.airborne "BAW1234")
      let takeoff : Instruction := { command := .takeoff, arguments := [.number 3000] }
      let turn := console.submitLine (⟨space, []⟩ : Recorded Airspace) "baw1234 takeoff 30"
      turn.world.exchanges =
          [⟨⟨.execute, "BAW1234", [takeoff]⟩, .error "We are already airborne!"⟩] ∧
        turn.console.transcript.entries.getLast? =
          some ⟨.error, "BAW1234 > We are already airborne!"⟩ ∧
        turn.signal = .continue := by
  have hcheck : Settings.check {} = .ok () := by decide +kernel
  let console : Console :=
    { settings := {}
      system := standardSystem {}
      transcript := .ofCapacity 5
      replies := .ofSeed 0 }
  have hopened : Console.ofSettings {} = .ok console := by
    rw [Console.ofSettings, hcheck]
    rfl
  have hreach : console.Reachable := .opened hopened
  refine ⟨console, hreach, ?_⟩
  intro space takeoff turn
  have hread : console.settings.rules.read "baw1234 takeoff 30" =
      .accepted (.aircraft .execute "BAW1234" [takeoff]) := by
    rw [ReadingRules.read_eq_outcome]
    decide +kernel
  have hcall : Traffic.call space "BAW1234" .execute [takeoff] =
      some (.error "We are already airborne!", space) := by
    decide +kernel
  have hanswers := ((submission_answered hreach "baw1234 takeoff 30").1 Airspace space).1
  have hshown := hanswers.refused _ _ _ _ _ hread hcall
  have hworld : turn.world.exchanges =
      [⟨⟨.execute, "BAW1234", [takeoff]⟩, .error "We are already airborne!"⟩] := by
    rw [hshown.world_eq]
  have hlast : turn.console.transcript.entries.getLast? =
      some ⟨.error, "BAW1234 > We are already airborne!"⟩ := by
    rw [hshown.last_eq]
    rfl
  exact ⟨hworld, hlast, hshown.signal_eq⟩

end ControlTower
