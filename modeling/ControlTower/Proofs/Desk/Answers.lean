import ControlTower.Desk.Console
import ControlTower.Proofs.Desk.Transcript

/-!
# How a console answers

A line can end in seven ways, and what each of them does to the console and its world is worked out
here once. In all of them but the first, where nothing was said, the line is entered into the
history and some entries are written. A console that was opened with settings that pass their check
keeps these settings and the bounds of its transcript, whatever is done at it.
-/

namespace ControlTower

namespace Console

variable {World : Type} {console : Console} {world : World} {line : String}
  {command : SystemCommand}

def echo (console : Console) (line : String) : Entry :=
  ⟨.echo, spoken console.settings.callsign line⟩

def settled (console : Console) (line : String) (entries : List Entry) (replies : Radio.KeyStream)
    (obeyed : List SystemCommand) : Console :=
  { console.remember line with
    transcript := console.transcript.writeAll entries
    replies
    obeyed }

theorem foldl_write (console : Console) (severity : Severity) (text : List String) :
    text.foldl (·.write severity ·) console =
      { console with transcript := console.transcript.writeAll (text.map (⟨severity, ·⟩)) } := by
  induction text generalizing console with
  | nil => rfl
  | cons line text ih =>
    rw [List.foldl_cons, ih]
    rfl

theorem obey_of_quit (h : console.reply command = .quit) :
    console.obey world command =
      { console := { console with obeyed := command :: console.obeyed }
        world
        signal := .quit } := by
  rw [obey, h]

theorem obey_of_lines {text : List String} (h : console.reply command = .lines text) :
    console.obey world command =
      { console :=
          { console with
            transcript := console.transcript.writeAll (text.map (⟨.info, ·⟩))
            obeyed := command :: console.obeyed }
        world } := by
  rw [obey, h]
  dsimp only
  rw [foldl_write]

section

variable [Traffic World]

inductive Ending (console : Console) (world : World) (line : String) : Turn World → Prop where
  | empty (read_eq : console.settings.rules.read line = .empty) :
      Ending console world line { console := { console with buffer := line.toList }, world }
  | rejected {reason : Misreading} (read_eq : console.settings.rules.read line = .rejected reason) :
      Ending console world line
        { console := console.settled line
            [⟨.error, rejectionLead ++ reason.message⟩] console.replies console.obeyed
          world }
  | unanswered {mode : Mode} {target : String} {instructions : List Instruction}
      (read_eq : console.settings.rules.read line =
        .accepted (.aircraft mode target instructions))
      (call_eq : Traffic.call world target mode instructions = none) :
      Ending console world line
        { console := console.settled line
            [console.echo line, ⟨.error, spoken target "No such aircraft in the airspace."⟩]
            console.replies console.obeyed
          world }
  | taken {mode : Mode} {target : String} {instructions : List Instruction} {after : World}
      (read_eq : console.settings.rules.read line =
        .accepted (.aircraft mode target instructions))
      (call_eq : Traffic.call world target mode instructions = some (.ok (), after)) :
      Ending console world line
        { console := console.settled line
            [console.echo line, ⟨.reply, spoken target (Radio.affirm mode console.replies).1⟩]
            (Radio.affirm mode console.replies).2 console.obeyed
          world := after }
  | refused {mode : Mode} {target : String} {instructions : List Instruction} {refusal : String}
      {after : World}
      (read_eq : console.settings.rules.read line =
        .accepted (.aircraft mode target instructions))
      (call_eq : Traffic.call world target mode instructions = some (.error refusal, after)) :
      Ending console world line
        { console := console.settled line
            [console.echo line, ⟨.error, spoken target refusal⟩] console.replies console.obeyed
          world := after }
  | quit {command : SystemCommand}
      (read_eq : console.settings.rules.read line = .accepted (.system command))
      (reply_eq : console.reply command = .quit) :
      Ending console world line
        { console := console.settled line [console.echo line] console.replies
            (command :: console.obeyed)
          world
          signal := .quit }
  | shown {command : SystemCommand} {text : List String}
      (read_eq : console.settings.rules.read line = .accepted (.system command))
      (reply_eq : console.reply command = .lines text) :
      Ending console world line
        { console := console.settled line (console.echo line :: text.map (⟨.info, ·⟩))
            console.replies (command :: console.obeyed)
          world }

/-- A line that was understood is in the history and the transcript before anything is done. -/
theorem submitLine_of_accepted {transmission : Transmission}
    (h : console.settings.rules.read line = .accepted transmission) :
    console.submitLine world line =
      (console.settled line [console.echo line] console.replies console.obeyed).dispatch world
        transmission := by
  simp only [submitLine, submit, Console.line, String.ofList_toList, h]
  rfl

/-- What a line is read as, and who answers it, leave only one way for it to end. -/
theorem Ending.submitLine_eq {turn : Turn World} (h : Ending console world line turn) :
    console.submitLine world line = turn := by
  cases h with
  | empty hread => simp only [submitLine, submit, Console.line, String.ofList_toList, hread]
  | rejected hread =>
    simp only [submitLine, submit, Console.line, String.ofList_toList, hread]
    rfl
  | unanswered hread hcall | taken hread hcall | refused hread hcall =>
    rw [submitLine_of_accepted hread, dispatch, call, hcall]
    rfl
  | quit hread hreply =>
    rw [submitLine_of_accepted hread, dispatch, obey_of_quit]
    · rfl
    · exact hreply
  | shown hread hreply =>
    rw [submitLine_of_accepted hread, dispatch, obey_of_lines]
    · rfl
    · exact hreply

theorem ending (console : Console) (world : World) (line : String) :
    Ending console world line (console.submitLine world line) := by
  suffices hending : ∃ turn, Ending console world line turn by
    obtain ⟨turn, hturn⟩ := hending
    rwa [hturn.submitLine_eq]
  cases hread : console.settings.rules.read line with
  | empty => exact ⟨_, .empty hread⟩
  | rejected reason => exact ⟨_, .rejected hread⟩
  | accepted transmission =>
    cases transmission with
    | system command =>
      cases hreply : console.reply command with
      | quit => exact ⟨_, .quit hread hreply⟩
      | lines text => exact ⟨_, .shown hread hreply⟩
    | aircraft mode target instructions =>
      rcases hcall : Traffic.call world target mode instructions with _ | ⟨⟨refusal⟩ | ⟨⟨⟩⟩, after⟩
      · exact ⟨_, .unanswered hread hcall⟩
      · exact ⟨_, .refused hread hcall⟩
      · exact ⟨_, .taken hread hcall⟩

/-- A line leaves the console as it was, apart from what is being typed, or it settles it. -/
theorem submitLine_settles (console : Console) (world : World) (line : String) :
    console.submitLine world line = { console := { console with buffer := line.toList }, world } ∨
      ∃ entries replies obeyed after signal,
        console.submitLine world line =
          { console := console.settled line entries replies obeyed, world := after, signal } := by
  have hending := ending console world line
  generalize console.submitLine world line = turn at hending
  cases hending with
  | empty => exact .inl rfl
  | rejected | unanswered | taken | refused | quit | shown => exact .inr ⟨_, _, _, _, _, rfl⟩

theorem system_submitLine (console : Console) (world : World) (line : String) :
    (console.submitLine world line).console.system = console.system := by
  rcases submitLine_settles console world line with
    heq | ⟨entries, replies, obeyed, after, signal, heq⟩
  · rw [heq]
  · rw [heq]
    rfl

/-- The session ends when a command to the console asks for it, and goes on otherwise. -/
theorem signal_submitLine_eq_quit_iff (console : Console) (world : World) (line : String) :
    (console.submitLine world line).signal = .quit ↔
      ∃ command, console.settings.rules.read line = .accepted (.system command) ∧
        console.reply command = .quit := by
  have hending := ending console world line
  generalize console.submitLine world line = turn at hending
  cases hending with
  | empty hread | rejected hread | unanswered hread | taken hread | refused hread => simp [hread]
  | quit hread hreply | shown hread hreply => simp [hread, hreply]

theorem press_submit (console : Console) (world : World) :
    console.press world .submit = console.submitLine world console.line := by
  simp only [press, submitLine, Console.line, String.toList_ofList]

/-- Every other key changes only what is being typed and recalled. -/
theorem exists_press_eq {key : Keystroke} (h : key ≠ .submit) (console : Console) (world : World) :
    ∃ buffer recalled,
      console.press world key = { console := { console with buffer, recalled }, world } := by
  cases key with
  | submit => exact absurd rfl h
  | cancel | backspace word => exact ⟨_, console.recalled, rfl⟩
  | historyUp =>
    simp only [press, historyUp]
    split <;> exact ⟨_, _, rfl⟩
  | historyDown =>
    simp only [press, historyDown]
    split <;> exact ⟨_, _, rfl⟩
  | complete =>
    simp only [press, complete]
    split <;> exact ⟨_, console.recalled, rfl⟩
  | glyph text =>
    simp only [press, typeText]
    split <;> exact ⟨_, console.recalled, rfl⟩

end

/-- The consoles that can come about. Lines are typed or handed over, in any worlds, and what the
commands to the console come to may change at any time. -/
inductive Reachable : Console → Prop where
  | opened {settings : Settings} {console : Console} (h : ofSettings settings = .ok console) :
      Reachable console
  | withSystem {console : Console} (system : SystemHandler)
      (h : Reachable console) : Reachable { console with system }
  | press {console : Console} {World : Type} [Traffic World] (world : World) (key : Keystroke)
      (h : Reachable console) : Reachable (console.press world key).console
  | submitLine {console : Console} {World : Type} [Traffic World] (world : World) (line : String)
      (h : Reachable console) : Reachable (console.submitLine world line).console

structure Sound (console : Console) : Prop where
  check : console.settings.check = .ok ()
  bounded : console.transcript.Bounded

theorem ofSettings_eq_ok_iff {settings : Settings} :
    ofSettings settings = .ok console ↔ settings.check = .ok () ∧ console =
      { settings
        system := standardSystem settings.rules.glyphs
        transcript := .ofCapacity settings.transcriptCapacity
        replies := .ofSeed settings.seed } := by
  unfold ofSettings
  cases settings.check with
  | error fault =>
    constructor
    · rintro ⟨⟩
    · rintro ⟨⟨⟩, -⟩
  | ok _ =>
    constructor
    · rintro ⟨⟩
      exact ⟨rfl, rfl⟩
    · rintro ⟨-, rfl⟩
      rfl

theorem sound_of_ofSettings {settings : Settings} (h : ofSettings settings = .ok console) :
    console.Sound := by
  obtain ⟨hcheck, rfl⟩ := ofSettings_eq_ok_iff.mp h
  exact ⟨hcheck, Transcript.bounded_ofCapacity _⟩

namespace Sound

/-- A console stays sound as long as only what is typed and recalled changes. -/
theorem of_eq {other : Console} (h : console.Sound) (hsettings : other.settings = console.settings)
    (htranscript : other.transcript = console.transcript) : other.Sound :=
  ⟨hsettings ▸ h.check, htranscript ▸ h.bounded⟩

variable [Traffic World]

theorem submitLine (h : console.Sound) (world : World) (line : String) :
    (console.submitLine world line).console.Sound := by
  rcases submitLine_settles console world line with
    heq | ⟨entries, replies, obeyed, after, signal, heq⟩
  · rw [heq]
    exact h.of_eq rfl rfl
  · rw [heq]
    exact ⟨h.check, h.bounded.writeAll entries⟩

theorem press (h : console.Sound) (world : World) (key : Keystroke) :
    (console.press world key).console.Sound := by
  by_cases hkey : key = .submit
  · rw [hkey, press_submit]
    exact h.submitLine world _
  · obtain ⟨buffer, recalled, heq⟩ := exists_press_eq hkey console world
    rw [heq]
    exact h.of_eq rfl rfl

end Sound

theorem Reachable.sound (h : console.Reachable) : console.Sound := by
  induction h with
  | opened h => exact sound_of_ofSettings h
  | withSystem system _ ih => exact ih.of_eq rfl rfl
  | press world key _ ih => exact ih.press world key
  | submitLine world line _ ih => exact ih.submitLine world line

end Console

theorem Settings.check_rules {settings : Settings} (h : settings.check = .ok ()) :
    settings.rules.check = .ok () := by
  unfold check at h
  cases hrules : settings.rules.check with
  | ok _ => rfl
  | error fault =>
    rw [hrules] at h
    cases h

end ControlTower
