import ControlTower.Proofs.Desk.Answers
import ControlTower.Proofs.Desk.Script
import ControlTower.Proofs.Phraseology.Reach

/-!
# What a script prints

A script prints what each of its lines adds to the transcript. The transcript is asked for that
after the line was answered, and by then it may have dropped some of it. What it holds is the end
of what was written for the line, though, and never anything older: a reply or a refusal, which is
the last thing written, is printed in any case, nothing is printed twice, and with room enough the
print is the whole log.

The handler of the commands to the console may be exchanged from line to line, whether or not it
remembers what it was given, so a script is looked at as a list of cues, each of which brings its
own handler along.
-/

namespace ControlTower

variable {World : Type}

/-- An entry in which somebody answers, or in which it is explained why nobody does. -/
def Entry.isAnswer (entry : Entry) : Bool := entry.severity = .reply ∨ entry.severity = .error

namespace Console

variable [Traffic World] (console : Console) (world : World) (line : String)

def entriesFor : List Entry :=
  match console.settings.rules.read line with
  | .empty => []
  | .rejected reason => [⟨.error, rejectionLead ++ reason.message⟩]
  | .accepted (.system command) =>
    console.echo line ::
      match console.reply command with
      | .quit => []
      | .lines text => text.map (⟨.info, ·⟩)
  | .accepted (.aircraft mode target instructions) =>
    [console.echo line,
      match Traffic.call world target mode instructions with
      | none => ⟨.error, spoken target "No such aircraft in the airspace."⟩
      | some (.ok (), _) => ⟨.reply, spoken target (Radio.affirm mode console.replies).1⟩
      | some (.error refusal, _) => ⟨.error, spoken target refusal⟩]

theorem transcript_submitLine :
    (console.submitLine world line).console.transcript =
      console.transcript.writeAll (console.entriesFor world line) := by
  have hending := ending console world line
  generalize console.submitLine world line = turn at hending
  cases hending with
  | empty hread | rejected hread =>
    rw [entriesFor, hread]
    rfl
  | unanswered hread hcall | taken hread hcall | refused hread hcall =>
    simp only [entriesFor, hread, hcall]
    rfl
  | quit hread hreply | shown hread hreply =>
    simp only [entriesFor, hread, hreply]
    rfl

/-- Only the last entry that is written for a line can be an answer. -/
theorem not_isAnswer_of_mem_dropLast {entry : Entry}
    (h : entry ∈ (console.entriesFor world line).dropLast) : entry.isAnswer = false := by
  have hinfo : ∀ {text : List String} {entry : Entry},
      entry ∈ (console.echo line :: text.map (⟨.info, ·⟩) : List Entry) →
        entry.isAnswer = false := by
    intro text entry hentry
    rcases List.mem_cons.mp hentry with rfl | hentry
    · rfl
    · obtain ⟨shown, -, rfl⟩ := List.mem_map.mp hentry
      rfl
  unfold entriesFor at h
  split at h
  · simp at h
  · simp at h
  · split at h
    · simp at h
    · exact hinfo ((List.dropLast_sublist _).mem h)
  · rw [List.dropLast_cons_of_ne_nil (by simp), List.dropLast_singleton,
      List.mem_singleton] at h
    rw [h]
    rfl

end Console

/-- The end of a list holds all of a kind that nothing but its last element can be of. -/
theorem filter_rtake_of_dropLast {α : Type} {p : α → Bool} {list : List α}
    (h : ∀ a ∈ list.dropLast, p a = false) {room : Nat} (hroom : 1 ≤ room) :
    (list.rtake room).filter p = list.filter p := by
  have hfront : (list.take (list.length - room)).filter p = [] := by
    rw [List.filter_eq_nil_iff]
    intro a ha
    have hlast : list.take (list.length - room) <+: list.dropLast := by
      rw [List.dropLast_eq_take]
      exact List.take_prefix_take_left (by omega)
    simp [h a (hlast.mem ha)]
  conv_rhs => rw [← List.take_append_drop (list.length - room) list, List.filter_append, hfront]
  rfl

/-- A line of a script, and what the commands to the console come to when it is its turn. -/
structure Cue where
  system : SystemHandler
  line : String

structure Passage where
  line : String
  entries : List Entry

namespace Session

def withSystem (session : Session World) (system : SystemHandler) : Session World :=
  { session with console := { session.console with system } }

variable [Traffic World]

def perform (session : Session World) : List Cue → Episode World Bool
  | [] => { session, printed := "", outcome := .ok true }
  | cue :: rest =>
    ((session.withSystem cue.system).workThrough [Text.trim cue.line]).andThen (·.perform rest)

/-- The lines that are submitted, as far as one that asks to quit, with what is written for them. -/
def passages (session : Session World) : List Cue → List Passage
  | [] => []
  | cue :: rest =>
    let session := session.withSystem cue.system
    let line := Text.trim cue.line
    if IsPassedOver line then session.passages rest
    else
      ⟨line, session.console.entriesFor session.world line⟩ ::
        match (session.submit line).2 with
        | .quit => []
        | .continue => (session.submit line).1.passages rest

section

variable {session : Session World} {cue : Cue} {line : String}

theorem passages_of_isPassedOver (h : IsPassedOver (Text.trim cue.line)) (rest : List Cue) :
    session.passages (cue :: rest) = (session.withSystem cue.system).passages rest := by
  rw [passages, if_pos h]

theorem passages_of_quit (hline : Text.trim cue.line = line) (hkept : ¬ IsPassedOver line)
    (hsignal : ((session.withSystem cue.system).submit line).2 = .quit) (rest : List Cue) :
    session.passages (cue :: rest) =
      [⟨line, (session.withSystem cue.system).console.entriesFor session.world line⟩] := by
  rw [passages, hline, if_neg hkept, hsignal]
  rfl

theorem passages_of_continue (hline : Text.trim cue.line = line) (hkept : ¬ IsPassedOver line)
    (hsignal : ((session.withSystem cue.system).submit line).2 = .continue) (rest : List Cue) :
    session.passages (cue :: rest) =
      ⟨line, (session.withSystem cue.system).console.entriesFor session.world line⟩ ::
        ((session.withSystem cue.system).submit line).1.passages rest := by
  rw [passages, hline, if_neg hkept, hsignal]
  rfl

end

end Session

structure Episode.Reports (episode : Episode World Bool) (session : Session World)
    (log : List Passage) : Prop where
  /-- Of what was written for a line the end is printed, as much of it as the transcript holds. -/
  printed_eq : episode.printed = String.join (log.map fun passage =>
    session.style.render (passage.entries.rtake session.console.transcript.capacity))
  /-- Nothing else was written. -/
  transcript_eq : episode.session.console.transcript =
    session.console.transcript.writeAll (log.flatMap Passage.entries)

namespace Episode.Reports

variable {session : Session World} {episode : Episode World Bool} {log : List Passage}

/-- What the commands to the console come to has no part in what was reported. -/
theorem of_withSystem (system : SystemHandler)
    (h : episode.Reports (session.withSystem system) log) : episode.Reports session log :=
  ⟨h.printed_eq, h.transcript_eq⟩

/-- An episode is reported together with the one that follows it. -/
theorem andThen (h : episode.Reports session log) (goesOn : episode.outcome = .ok true)
    (style_eq : episode.session.style = session.style)
    {next : Session World → Episode World Bool} {later : List Passage}
    (hnext : (next episode.session).Reports episode.session later) :
    (episode.andThen next).Reports session (log ++ later) := by
  obtain ⟨hprinted, htranscript⟩ := hnext
  rw [style_eq, h.transcript_eq, Transcript.writeAll_capacity] at hprinted
  rw [andThen_of_ok_true goesOn]
  constructor
  · simp [h.printed_eq, hprinted]
  · simp [htranscript, h.transcript_eq, Transcript.writeAll_append]

end Episode.Reports

namespace Session

variable [Traffic World] {session : Session World}

theorem transcript_submit (session : Session World) (line : String) :
    (session.submit line).1.console.transcript =
      session.console.transcript.writeAll (session.console.entriesFor session.world line) :=
  session.console.transcript_submitLine session.world line

theorem report_reports (h : session.console.transcript.Bounded) (line : String) :
    (session.report line).Reports session
      [⟨line, session.console.entriesFor session.world line⟩] where
  printed_eq := by simp [report, transcript_submit, Transcript.since_writeAll h.length_le]
  transcript_eq := by simp [report, transcript_submit]

theorem perform_reports (h : session.console.transcript.Bounded) (cues : List Cue) :
    (session.perform cues).Reports session (session.passages cues) := by
  induction cues generalizing session with
  | nil => exact ⟨rfl, rfl⟩
  | cons cue rest ih =>
    have hcued : (session.withSystem cue.system).console.transcript.Bounded := h
    rw [perform]
    refine Episode.Reports.of_withSystem cue.system ?_
    by_cases hpassed : IsPassedOver (Text.trim cue.line)
    · rw [workThrough_of_isPassedOver _ hpassed, workThrough, Episode.andThen_mk_empty,
        passages_of_isPassedOver hpassed]
      exact ih hcued
    · have hreport := report_reports hcued (Text.trim cue.line)
      rw [workThrough_singleton _ hpassed]
      cases hsignal : ((session.withSystem cue.system).submit (Text.trim cue.line)).2 with
      | quit =>
        rw [Episode.andThen_of_ok_false (outcome_report_of_quit _ hsignal),
          passages_of_quit rfl hpassed hsignal]
        exact hreport
      | «continue» =>
        have hlater : ((session.withSystem cue.system).submit
            (Text.trim cue.line)).1.console.transcript.Bounded := by
          rw [transcript_submit]
          exact hcued.writeAll _
        rw [passages_of_continue rfl hpassed hsignal]
        exact hreport.andThen (outcome_report_of_continue _ hsignal) rfl (ih hlater)

/-- What is written for a passage is written for its line at some console. -/
theorem exists_entriesFor_of_mem_passages {cues : List Cue} {passage : Passage}
    (h : passage ∈ session.passages cues) :
    ∃ console : Console, ∃ world : World,
      passage.entries = console.entriesFor world passage.line := by
  induction cues generalizing session with
  | nil => simp [passages] at h
  | cons cue rest ih =>
    rw [passages] at h
    split at h
    · exact ih h
    · rcases List.mem_cons.mp h with rfl | h
      · exact ⟨_, _, rfl⟩
      · split at h
        · simp at h
        · exact ih h

theorem system_workThrough_singleton (session : Session World) (line : String) :
    (session.workThrough [line]).session.console.system = session.console.system := by
  by_cases h : IsPassedOver line
  · rw [workThrough_of_isPassedOver session h, workThrough]
  · rw [workThrough_singleton session h]
    exact session.console.system_submitLine session.world line

/-- A script is performed by cues with which the commands to the console come to the same all the
time. -/
theorem perform_eq_workThrough {session : Session World} {system : SystemHandler}
    (h : session.console.system = system) (lines : List String) :
    session.perform (lines.map (⟨system, ·⟩)) = session.workThrough (lines.map Text.trim) := by
  induction lines generalizing session with
  | nil => rfl
  | cons line rest ih =>
    have hcued : session.withSystem system = session := by
      rw [← h]
      rfl
    have hlater := ih ((system_workThrough_singleton session (Text.trim line)).trans h)
    rw [List.map_cons, List.map_cons, perform, hcued, workThrough_cons _ _ (rest.map _)]
    exact Episode.andThen_congr hlater

end Session

theorem Style.render_append (style : Style) (first second : List Entry) :
    style.render (first ++ second) = style.render first ++ style.render second := by
  simp [render]

theorem join_map_render (style : Style) (log : List Passage) :
    String.join (log.map fun passage => style.render passage.entries) =
      style.render (log.flatMap Passage.entries) := by
  induction log with
  | nil => rfl
  | cons passage log ih => simp [Style.render_append, ih]

theorem flatMap_rtake_sublist (room : Nat) (log : List Passage) :
    (log.flatMap (·.entries.rtake room)).Sublist (log.flatMap Passage.entries) := by
  induction log with
  | nil => exact List.Sublist.slnil
  | cons passage log ih =>
    simp only [List.flatMap_cons]
    exact (List.drop_sublist _ _).append ih

/-- Whatever a transcript holds when a script begins, for each line that is submitted the end of
what was written for it is printed, as much of it as the transcript can hold, and nothing else.
Every answer is printed, therefore, nothing is printed more often than it was written, and if the
transcript has room for what is written for any one line, all of it is printed. This is so whatever
the commands to the console come to, and whether or not they always come to the same. -/
theorem script_prints_what_is_written [Traffic World] {session : Session World}
    (bounded : session.console.transcript.Bounded) :
    (∀ (console : Console) (world : World) (line : String),
      (console.submitLine world line).console.transcript =
        console.transcript.writeAll (console.entriesFor world line)) ∧
    (∀ source, session.script source =
      session.perform ((Text.lines source).map (⟨session.console.system, ·⟩))) ∧
    ∀ cues,
      let log := session.passages cues
      let room := session.console.transcript.capacity
      (session.perform cues).Reports session log ∧
        (∀ passage ∈ log, (passage.entries.rtake room).filter Entry.isAnswer =
          passage.entries.filter Entry.isAnswer) ∧
        (log.flatMap (·.entries.rtake room)).Sublist (log.flatMap Passage.entries) ∧
        ((∀ passage ∈ log, passage.entries.length ≤ room) →
          (session.perform cues).printed = session.style.render (log.flatMap Passage.entries)) := by
  refine ⟨Console.transcript_submitLine, fun source => ?_, fun cues => ?_⟩
  · exact (Session.perform_eq_workThrough rfl _).symm
  intro log room
  have hreports := Session.perform_reports bounded cues
  refine ⟨hreports, fun passage hpassage => ?_, flatMap_rtake_sublist room log, fun hroom => ?_⟩
  · obtain ⟨console, world, hentries⟩ := Session.exists_entriesFor_of_mem_passages hpassage
    refine filter_rtake_of_dropLast (fun entry hentry => ?_) bounded.capacity_pos
    rw [hentries] at hentry
    exact console.not_isAnswer_of_mem_dropLast world passage.line hentry
  · have hall : ∀ passage ∈ log, session.style.render (passage.entries.rtake room) =
        session.style.render passage.entries := by
      intro passage hpassage
      rw [List.rtake, Nat.sub_eq_zero_of_le (hroom passage hpassage), List.drop_zero]
    rw [hreports.printed_eq, List.map_congr_left hall, join_map_render]

/-- With room for one entry, a refusal is printed and the line that was refused is not; and behind a
line that asks to quit nothing is read. -/
theorem script_prints_what_is_written_refused_takeoff :
    ∃ session : Session Airspace, session.console.transcript.Bounded ∧
      session.console.transcript.capacity = 1 ∧
      (session.perform
          [⟨standardSystem {}, "  baw1234 takeoff 30 "⟩, ⟨fun _ _ => .quit, "/help"⟩,
            ⟨standardSystem {}, "baw1234 heading 90"⟩]).printed =
        "BAW1234 > We are already airborne!\nTOWER > /help\n" := by
  let console : Console :=
    { settings := {}
      system := standardSystem {}
      transcript := .ofCapacity 1
      replies := .ofSeed 0 }
  let session : Session Airspace :=
    { console
      world := ({} : Airspace).withAircraft (.airborne "BAW1234")
      style := .plain }
  have bounded : session.console.transcript.Bounded := Transcript.bounded_ofCapacity 1
  refine ⟨session, bounded, rfl, ?_⟩
  have htakeoff : ReadingRules.read {} "baw1234 takeoff 30" =
      .accepted (.aircraft .execute "BAW1234"
        [{ command := .takeoff, arguments := [.number 3000] }]) := by
    rw [ReadingRules.read_eq_outcome]
    decide +kernel
  have hhelp : ReadingRules.read {} "/help" = .accepted (.system .help) := by
    rw [ReadingRules.read_eq_outcome]
    decide +kernel
  have hcall : Traffic.call session.world "BAW1234" .execute
        [{ command := .takeoff, arguments := [.number 3000] }] =
      some (.error "We are already airborne!", session.world) := by
    decide +kernel
  have hturn : console.submitLine session.world "baw1234 takeoff 30" =
      { console := console.settled "baw1234 takeoff 30"
          [console.echo "baw1234 takeoff 30", ⟨.error, "BAW1234 > We are already airborne!"⟩]
          console.replies []
        world := session.world } :=
    (Console.Ending.refused htakeoff hcall).submitLine_eq
  have hgoes : (session.submit "baw1234 takeoff 30").2 = .continue := by
    rw [Session.submit, hturn]
  have hwritten : console.entriesFor session.world "baw1234 takeoff 30" =
      [⟨.echo, "TOWER > baw1234 takeoff 30"⟩, ⟨.error, "BAW1234 > We are already airborne!"⟩] := by
    have hread : console.settings.rules.read "baw1234 takeoff 30" = _ := htakeoff
    simp only [Console.entriesFor, hread, hcall]
    rfl
  obtain ⟨later, hlater, hsettings⟩ : ∃ later,
      (session.submit "baw1234 takeoff 30").1 = later ∧ later.console.settings = {} :=
    ⟨_, rfl, by rw [Session.submit, hturn]; rfl⟩
  have hread : later.console.settings.rules.read "/help" = .accepted (.system .help) := by
    rw [hsettings]
    exact hhelp
  have hquits : ((later.withSystem fun _ _ => .quit).submit "/help").2 = .quit :=
    (Console.signal_submitLine_eq_quit_iff _ _ _).mpr ⟨.help, hread, rfl⟩
  have hechoed : (later.withSystem fun _ _ => .quit).console.entriesFor later.world "/help" =
      [⟨.echo, "TOWER > /help"⟩] := by
    have hsame :
        (later.withSystem fun _ _ => .quit).console.settings.rules.read "/help" = _ := hread
    simp only [Console.entriesFor, hsame, Console.echo]
    rw [Session.withSystem, hsettings]
    rfl
  have hrest : later.passages
      [⟨fun _ _ => .quit, "/help"⟩, ⟨standardSystem {}, "baw1234 heading 90"⟩] =
      [⟨"/help", [⟨.echo, "TOWER > /help"⟩]⟩] := by
    rw [Session.passages_of_quit (by decide +kernel) (by decide) hquits, hechoed]
  have hlog : session.passages
      [⟨standardSystem {}, "  baw1234 takeoff 30 "⟩, ⟨fun _ _ => .quit, "/help"⟩,
        ⟨standardSystem {}, "baw1234 heading 90"⟩] =
      [⟨"baw1234 takeoff 30", [⟨.echo, "TOWER > baw1234 takeoff 30"⟩,
          ⟨.error, "BAW1234 > We are already airborne!"⟩]⟩,
        ⟨"/help", [⟨.echo, "TOWER > /help"⟩]⟩] := by
    rw [Session.passages_of_continue (by decide +kernel) (by decide) hgoes]
    change (⟨_, console.entriesFor session.world "baw1234 takeoff 30"⟩ : Passage) ::
      (session.submit "baw1234 takeoff 30").1.passages _ = _
    rw [hwritten, hlater, hrest]
  rw [((script_prints_what_is_written bounded).2.2 _).1.printed_eq, hlog]
  decide

end ControlTower
