import ControlTower.Proofs.Desk.Script
import ControlTower.Proofs.Desk.Work
import ControlTower.Proofs.Phraseology.Reach

/-!
# Lines in a script and at the prompt

The same lines can be written down in a script, and they can be entered one after the other at the
prompt. Either way each of them is submitted once and takes one tick of the world, as far as the
first that asks to quit. The console and the world are left the same, therefore, although the two
loops have nothing else in common: what is printed is not the same, and only at the prompt a line is
handed over for recall.
-/

namespace ControlTower

variable {World : Type}

/-- A line that a script takes as it is, and that is not passed over at the prompt. -/
structure Text.IsScriptLine (line : String) : Prop where
  nonempty : line ≠ ""
  unbroken : '\n' ∉ line.toList
  not_comment : line.toList.head? ≠ some '#'
  /-- There are no blanks at the beginning. -/
  head_solid : ∀ c ∈ line.toList.head?, Text.isBlank c = false
  /-- There are no blanks at the end. -/
  last_solid : ∀ c ∈ line.toList.getLast?, Text.isBlank c = false

def Action.attending (lines : List String) : List Action :=
  lines.flatMap fun line => [.submit line, .tick]

namespace Session

def turn (session : Session World) : Turn World :=
  { console := session.console, world := session.world }

structure StandsAt (session : Session World) (turn : Turn World) : Prop where
  console_eq : session.console = turn.console
  world_eq : session.world = turn.world

/-- Unless it is over after a turn, a session begins the next one where that has ended. -/
theorem StandsAt.turn_eq {session : Session World} {turn : Turn World} (h : session.StandsAt turn)
    (hgoes : turn.signal = .continue) : session.turn = turn := by
  rw [Session.turn, h.console_eq, h.world_eq, ← hgoes]

/-- What the operator does at the terminal is to enter the lines and then to hang up. -/
def Enters (session : Session World) (lines : List String) : Prop :=
  ∃ rest, session.terminal.responses = lines.map .line ++ rest ∧ rest.headD .closed = .closed

end Session

section

variable [Traffic World]

namespace Turn

def after (turn : Turn World) (lines : List String) : Turn World :=
  (Action.attending lines).foldl act turn

/-- Of the lines, those that were processed are the ones up to the first that asks to quit, which is
among them; or all, if none does. -/
structure Attends (turn : Turn World) (lines processed : List String) : Prop where
  isPrefix : processed <+: lines
  goes_on : ∀ before, before <+: processed → before ≠ processed →
    (turn.after before).signal = .continue
  stops : processed ≠ lines → (turn.after processed).signal = .quit

end Turn

end

namespace Text.IsScriptLine

variable {line : String}

theorem exists_toList_eq_cons (h : IsScriptLine line) :
    ∃ c rest, line.toList = c :: rest ∧ c ≠ '#' ∧ isBlank c = false := by
  obtain ⟨c, rest, hline⟩ : ∃ c rest, line.toList = c :: rest :=
    List.exists_cons_of_ne_nil (by simpa using h.nonempty)
  have hcomment := h.not_comment
  have hsolid := h.head_solid
  rw [hline] at hcomment hsolid
  exact ⟨c, rest, hline, by simpa using hcomment, hsolid c rfl⟩

theorem trim_eq (h : IsScriptLine line) : trim line = line := by
  obtain ⟨c, rest, hline, -, hc⟩ := h.exists_toList_eq_cons
  have hfront : line.toList.dropWhile isBlank = line.toList := by simp [hline, hc]
  have hback : line.toList.rdropWhile isBlank = line.toList := by
    rw [List.rdropWhile_eq_self_iff]
    intro hne
    rw [h.last_solid _ (List.getLast_mem_getLast? hne)]
    exact Bool.false_ne_true
  apply String.toList_injective
  rw [toList_trim, hfront, hback]

theorem not_isPassedOver (h : IsScriptLine line) : ¬ Session.IsPassedOver line := by
  obtain ⟨c, rest, hline, hcomment, -⟩ := h.exists_toList_eq_cons
  have hne := h.nonempty
  simp [Session.IsPassedOver, hline, hcomment, hne]

theorem allBlank_eq (h : IsScriptLine line) : allBlank line = false := by
  obtain ⟨c, rest, hline, -, hc⟩ := h.exists_toList_eq_cons
  simp [allBlank, hline, hc]

end Text.IsScriptLine

section

variable [Traffic World]

namespace Turn

variable {turn : Turn World} {lines : List String}

theorem after_cons (turn : Turn World) (line : String) (rest : List String) :
    turn.after (line :: rest) = (turn.after [line]).after rest := rfl

def attended (turn : Turn World) : List String → List String
  | [] => []
  | line :: rest =>
    line :: match (turn.after [line]).signal with
      | .quit => []
      | .continue => (turn.after [line]).attended rest

theorem attended_of_quit {line : String} (h : (turn.after [line]).signal = .quit)
    (rest : List String) : turn.attended (line :: rest) = [line] := by
  rw [attended, h]

theorem attended_of_continue {line : String} (h : (turn.after [line]).signal = .continue)
    (rest : List String) :
    turn.attended (line :: rest) = line :: (turn.after [line]).attended rest := by
  rw [attended, h]

theorem attends_attended (h : turn.signal = .continue) (lines : List String) :
    turn.Attends lines (turn.attended lines) := by
  induction lines generalizing turn with
  | nil => exact ⟨List.prefix_rfl, fun before hbefore hne => absurd (List.prefix_nil.mp hbefore) hne,
      fun hne => absurd rfl hne⟩
  | cons line rest ih =>
    cases hsignal : (turn.after [line]).signal with
    | quit =>
      rw [attended_of_quit hsignal]
      refine ⟨⟨rest, rfl⟩, fun before hbefore hne => ?_, fun _ => hsignal⟩
      rcases List.prefix_cons_iff.mp hbefore with rfl | ⟨later, rfl, hlater⟩
      · exact h
      · rw [List.prefix_nil.mp hlater] at hne
        exact absurd rfl hne
    | «continue» =>
      obtain ⟨hrest, hgoes, hstops⟩ := ih hsignal
      rw [attended_of_continue hsignal]
      refine ⟨List.cons_prefix_cons.mpr ⟨rfl, hrest⟩, fun before hbefore hne => ?_, fun hne => ?_⟩
      · rcases List.prefix_cons_iff.mp hbefore with rfl | ⟨later, rfl, hlater⟩
        · exact h
        · rw [after_cons]
          exact hgoes later hlater fun heq => hne (by rw [heq])
      · rw [after_cons]
        exact hstops fun heq => hne (by rw [heq])

/-- A line asks to quit at all just when the last one that is processed does. -/
theorem Attends.signal_eq_quit_iff {processed : List String} (h : turn.Attends lines processed) :
    (turn.after processed).signal = .quit ↔
      ∃ before, before <+: lines ∧ (turn.after before).signal = .quit := by
  refine ⟨fun hquit => ⟨processed, h.isPrefix, hquit⟩, ?_⟩
  rintro ⟨before, hbefore, hquit⟩
  by_cases hsame : before = processed
  · rwa [← hsame]
  rcases List.prefix_or_prefix_of_prefix hbefore h.isPrefix with hshort | hlong
  · rw [h.goes_on before hshort hsame] at hquit
    cases hquit
  · refine h.stops fun hall => hsame ?_
    exact (hbefore.eq_of_length_le (hall ▸ hlong.length_le)).trans hall.symm

end Turn

namespace Session

variable {session : Session World} {line : String} {lines : List String}

theorem standsAt_submit (session : Session World) (line : String) :
    (session.submit line).1.StandsAt (session.turn.after [line]) := ⟨rfl, rfl⟩

theorem workThrough_attends (h : ∀ line ∈ lines, ¬ IsPassedOver line) :
    (session.workThrough lines).session.StandsAt
        (session.turn.after (session.turn.attended lines)) ∧
      (session.workThrough lines).outcome =
        .ok ((session.turn.after (session.turn.attended lines)).signal = .continue) := by
  induction lines generalizing session with
  | nil => exact ⟨⟨rfl, rfl⟩, rfl⟩
  | cons line rest ih =>
    obtain ⟨hline, hrest⟩ := List.forall_mem_cons.mp h
    have hstands : (session.report line).session.StandsAt (session.turn.after [line]) :=
      session.standsAt_submit line
    rw [workThrough_of_not_isPassedOver session hline]
    cases hsignal : (session.turn.after [line]).signal with
    | quit =>
      rw [Turn.attended_of_quit hsignal,
        Episode.andThen_of_ok_false (session.outcome_report_of_quit hsignal)]
      exact ⟨hstands, rfl⟩
    | «continue» =>
      rw [Turn.attended_of_continue hsignal, Turn.after_cons, ← hstands.turn_eq hsignal,
        Episode.andThen_of_ok_true (session.outcome_report_of_continue hsignal)]
      exact ih hrest

theorem readOnce_of_line {later : List Response}
    (h : session.terminal.responses = .line line :: later) (hline : Text.allBlank line = false) :
    session.readOnce.session.StandsAt (session.turn.after [line]) ∧
      session.readOnce.outcome = .ok ((session.turn.after [line]).signal = .continue) ∧
      session.readOnce.session.terminal.responses = later ∧
      session.readOnce.session.terminal.recallable = session.terminal.recallable ++ [line] := by
  have hread : session.readOnce =
      { session with
        terminal :=
          { session.terminal with
            gazetteer? := some (.capture session.world)
            responses := later
            prompts := session.terminal.prompts ++ [session.prompt] } }.answer line := by
    simp only [readOnce, Terminal.ask, h]
    rfl
  rw [hread, answer, hline]
  exact ⟨⟨rfl, rfl⟩, rfl, rfl, rfl⟩

theorem readOnce_of_closed (h : session.terminal.responses.headD .closed = .closed) :
    session.readOnce.session.StandsAt session.turn ∧ session.readOnce.outcome = .ok false ∧
      session.readOnce.session.terminal.recallable = session.terminal.recallable := by
  rw [readOnce, Terminal.ask, h]
  exact ⟨⟨rfl, rfl⟩, rfl, rfl⟩

theorem readUntilClosed_of_ok_true (h : session.readOnce.outcome = .ok true) (limit : Nat) :
    readUntilClosed (limit + 1) session =
      { readUntilClosed limit session.readOnce.session with
        printed := session.readOnce.printed ++
          (readUntilClosed limit session.readOnce.session).printed } := by
  rw [readUntilClosed, h]

theorem readUntilClosed_of_ok_false (h : session.readOnce.outcome = .ok false) (limit : Nat) :
    readUntilClosed (limit + 1) session =
      { session.readOnce with
        printed := session.readOnce.printed ++ farewell
        outcome := .ok () } := by
  rw [readUntilClosed, h]

/-- It is enough to be asked once more than there are lines. -/
theorem readUntilClosed_attends (h : ∀ line ∈ lines, Text.allBlank line = false)
    (henters : session.Enters lines) {limit : Nat} (hlimit : lines.length ≤ limit) :
    (readUntilClosed (limit + 1) session).session.StandsAt
        (session.turn.after (session.turn.attended lines)) ∧
      (readUntilClosed (limit + 1) session).outcome = .ok () ∧
      (readUntilClosed (limit + 1) session).session.terminal.recallable =
        session.terminal.recallable ++ session.turn.attended lines := by
  obtain ⟨rest, hresponses, hclosed⟩ := henters
  induction lines generalizing session limit with
  | nil =>
    have hend : session.terminal.responses.headD .closed = .closed := by rwa [hresponses]
    obtain ⟨hstands, houtcome, hrecallable⟩ := readOnce_of_closed hend
    rw [readUntilClosed_of_ok_false houtcome]
    exact ⟨hstands, rfl, by simp [hrecallable, Turn.attended]⟩
  | cons line later ih =>
    obtain ⟨hline, hlater⟩ := List.forall_mem_cons.mp h
    obtain ⟨hstands, houtcome, hleft, hrecallable⟩ := readOnce_of_line hresponses hline
    cases hsignal : (session.turn.after [line]).signal with
    | quit =>
      have hstop : session.readOnce.outcome = .ok false := by simp [houtcome, hsignal]
      rw [readUntilClosed_of_ok_false hstop, Turn.attended_of_quit hsignal]
      exact ⟨hstands, rfl, hrecallable⟩
    | «continue» =>
      have hgo : session.readOnce.outcome = .ok true := by simp [houtcome, hsignal]
      obtain ⟨limit, rfl⟩ : ∃ fewer, limit = fewer + 1 :=
        Nat.exists_eq_add_one_of_ne_zero (by simp at hlimit; omega)
      obtain ⟨hthere, hclosing, hrecalled⟩ := ih hlater (by simpa using hlimit) hleft
      rw [hstands.turn_eq hsignal] at hthere hrecalled
      rw [readUntilClosed_of_ok_true hgo, Turn.attended_of_continue hsignal, Turn.after_cons]
      exact ⟨hthere, hclosing, by simp [hrecalled, hrecallable]⟩

theorem run_attends (h : ∀ line ∈ lines, Text.allBlank line = false)
    (henters : session.Enters lines) :
    session.run.session.StandsAt (session.turn.after (session.turn.attended lines)) ∧
      session.run.outcome = .ok () ∧
      session.run.session.terminal.recallable =
        session.terminal.recallable ++ session.turn.attended lines := by
  have hlimit : lines.length ≤ session.terminal.responses.length := by
    obtain ⟨rest, hresponses, -⟩ := henters
    simp [hresponses]
  exact readUntilClosed_attends h henters hlimit

theorem script_intercalate (session : Session World) (h : ∀ line ∈ lines, Text.IsScriptLine line) :
    session.script (String.intercalate "\n" lines) = session.workThrough lines := by
  by_cases hempty : lines = []
  · rw [hempty, String.intercalate_nil]
    rfl
  · have hunbroken : ∀ text ∈ lines.map String.toList, '\n' ∉ text := by
      intro text htext
      obtain ⟨line, hline, rfl⟩ := List.mem_map.mp htext
      exact (h line hline).unbroken
    have hpieces :
        (String.intercalate "\n" lines).toList.splitOn '\n' = lines.map String.toList := by
      rw [String.toList_intercalate]
      exact List.splitOn_intercalate '\n' hunbroken (by simpa using hempty)
    have htrim : (lines.map String.toList).map (fun piece => Text.trim (String.ofList piece)) =
        lines := by
      rw [List.map_map]
      conv_rhs => rw [← List.map_id lines]
      exact List.map_congr_left fun line hline => by simpa using (h line hline).trim_eq
    rw [script_eq_workThrough_splitOn, hpieces, htrim]

end Session

end

/-- Lines that are worked through as a script, and the same lines entered at the prompt by an
operator who hangs up behind them, leave the console and the world the same. Either way the lines
that are processed are those up to the first that asks to quit; each of them is submitted once, and
a tick goes by behind it. -/
theorem script_attends_like_prompt [Traffic World] {scripted prompted : Session World}
    {lines : List String} (same_console : prompted.console = scripted.console)
    (same_world : prompted.world = scripted.world)
    (taken : ∀ line ∈ lines, Text.IsScriptLine line) (entered : prompted.Enters lines) :
    let script := scripted.script (String.intercalate "\n" lines)
    script.session.console = prompted.run.session.console ∧
      script.session.world = prompted.run.session.world ∧
    ∃ processed, scripted.turn.Attends lines processed ∧
      script.session.StandsAt (scripted.turn.after processed) ∧
      prompted.run.session.StandsAt (scripted.turn.after processed) ∧
      prompted.run.session.terminal.recallable = prompted.terminal.recallable ++ processed ∧
      prompted.run.outcome = .ok () ∧
      script.outcome = .ok ((scripted.turn.after processed).signal = .continue) ∧
      (script.outcome = .ok false ↔
        ∃ before, before <+: lines ∧ (scripted.turn.after before).signal = .quit) := by
  intro script
  have hscript : script = scripted.workThrough lines := scripted.script_intercalate taken
  have hattends : scripted.turn.Attends lines _ := Turn.attends_attended rfl lines
  obtain ⟨hhere, houtcome⟩ := scripted.workThrough_attends fun line hline =>
    (taken line hline).not_isPassedOver
  have hturn : prompted.turn = scripted.turn := by
    rw [Session.turn, same_console, same_world]
    rfl
  obtain ⟨hthere, hclosing, hrecalled⟩ := prompted.run_attends
    (fun line hline => (taken line hline).allBlank_eq) entered
  rw [hturn] at hthere hrecalled
  rw [hscript]
  refine ⟨hhere.console_eq.trans hthere.console_eq.symm, hhere.world_eq.trans hthere.world_eq.symm,
    _, hattends, hhere, hthere, hrecalled, hclosing, houtcome, ?_⟩
  rw [← hattends.signal_eq_quit_iff, houtcome]
  cases (scripted.turn.after (scripted.turn.attended lines)).signal <;> simp

/-- Of three lines the second asks to quit, and the script comes to the same as the prompt. -/
theorem script_attends_like_prompt_quitting :
    let lines := ["baw1234 heading 90", "/quit", "baw1234 heading 180"]
    let scripted : Session Airspace :=
      { console :=
          { settings := {}
            system := standardSystem {}
            transcript := .ofCapacity 5
            replies := .ofSeed 0 }
        world := ({} : Airspace).withAircraft (.airborne "BAW1234") }
    let prompted := { scripted with terminal := { responses := lines.map .line } }
    (∀ line ∈ lines, Text.IsScriptLine line) ∧ prompted.Enters lines ∧
      (scripted.script (String.intercalate "\n" lines)).outcome = .ok false ∧
      prompted.run.outcome = .ok () := by
  intro lines scripted prompted
  have htaken : ∀ line ∈ lines, Text.IsScriptLine line := by
    have hsolid : Text.isBlank 'b' = false ∧ Text.isBlank '/' = false ∧
        Text.isBlank '0' = false ∧ Text.isBlank 't' = false := by decide
    simp only [lines, List.forall_mem_cons]
    refine ⟨?_, ?_, ?_, List.forall_mem_nil _⟩ <;> constructor <;> simp [hsolid]
  have hentered : prompted.Enters lines := ⟨[], (List.append_nil _).symm, rfl⟩
  have same_console : prompted.console = scripted.console := rfl
  obtain ⟨-, -, processed, -, -, -, -, hclosing, -, hquits⟩ :=
    script_attends_like_prompt same_console rfl htaken hentered
  have hread : ReadingRules.read {} "/quit" = .accepted (.system .quit) := by
    rw [ReadingRules.read_eq_outcome]
    decide +kernel
  have hquit : ∀ turn : Turn Airspace, turn.console.settings = {} →
      turn.console.system = standardSystem {} →
      (turn.after ["baw1234 heading 90", "/quit"]).signal = .quit := by
    intro turn hsettings hsystem
    let first := turn.after ["baw1234 heading 90"]
    have hkept : first.console.settings = {} :=
      (turn.console.settings_submitLine turn.world _).trans hsettings
    have hobeys : first.console.system = standardSystem {} :=
      (turn.console.system_submitLine turn.world _).trans hsystem
    refine (Console.signal_submitLine_eq_quit_iff first.console first.world "/quit").mpr ?_
    exact ⟨.quit, by rw [hkept]; exact hread, by rw [Console.reply, hobeys]; rfl⟩
  have hasked : ∃ before, before <+: lines ∧ (scripted.turn.after before).signal = .quit :=
    ⟨_, ⟨["baw1234 heading 180"], rfl⟩, hquit scripted.turn rfl rfl⟩
  exact ⟨htaken, hentered, hquits.mpr hasked, hclosing⟩

end ControlTower
