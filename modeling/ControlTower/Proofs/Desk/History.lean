import ControlTower.Proofs.Desk.Replies

/-!
# The history

The history of a console is what was submitted at it, the latest first: every line in which there is
something besides blanks, in the exact form in which it was submitted, and no more lines than there
is room for. Recalling a line changes nothing but the line that is being typed and how far back the
operator has gone. The operator is never farther back than the history reaches, though it may be cut
while lines are recalled, since the line for which it is cut brings the operator back to its front.
-/

namespace ControlTower

variable {World : Type}

/-- As many of the lines as a history has room for, from the front. -/
def Settings.retained (settings : Settings) (lines : List String) : List String :=
  match settings.historyCapacity? with
  | some capacity => lines.take capacity
  | none => lines

namespace Console

def entered? (console : Console) (action : Action) : Option String :=
  (console.submitted? action).filter (!Text.allBlank ·)

/-- The line being typed is the one that was recalled. One line back is the latest. -/
def ShowsRecalled (console : Console) : Prop :=
  console.history[console.recalled - 1]? = some console.line

end Console

section

variable [Traffic World]

def Turn.submissions (turn : Turn World) : List Action → List String
  | [] => []
  | action :: actions =>
    (turn.console.submitted? action).toList ++ (turn.act action).submissions actions

structure Turn.Browses (turn : Turn World) : Prop where
  recalled_le : turn.console.recalled ≤ turn.console.history.length
  /-- Recalling changes only the line that is being typed and how far back the operator is. -/
  frame : ∀ key ∈ [Keystroke.historyUp, .historyDown],
    ∃ buffer recalled,
      turn.act (.press key) =
        { console := { turn.console with buffer, recalled }, world := turn.world }
  /-- Whoever goes back sees an older line. -/
  up_shows : (turn.act (.press .historyUp)).console.recalled ≠ turn.console.recalled →
    (turn.act (.press .historyUp)).console.ShowsRecalled
  up_of_oldest : turn.console.recalled = turn.console.history.length →
    turn.act (.press .historyUp) = { console := turn.console, world := turn.world }
  /-- Whoever comes forward sees a newer line, until there is none left. -/
  down_shows : (turn.act (.press .historyDown)).console.recalled ≠ 0 →
    (turn.act (.press .historyDown)).console.ShowsRecalled
  down_of_latest : turn.console.recalled = 1 →
    turn.act (.press .historyDown) =
      { console := { turn.console with buffer := [], recalled := 0 }, world := turn.world }
  down_of_none : turn.console.recalled = 0 →
    turn.act (.press .historyDown) = { console := turn.console, world := turn.world }
  recalled_ups : ∀ count,
    ((List.replicate count (.press .historyUp)).foldl Turn.act turn).console.recalled =
      min (turn.console.recalled + count) turn.console.history.length
  recalled_downs : ∀ count,
    ((List.replicate count (.press .historyDown)).foldl Turn.act turn).console.recalled =
      turn.console.recalled - count

end

theorem Settings.retained_nil (settings : Settings) : settings.retained [] = [] := by
  unfold retained
  split
  · exact List.take_nil
  · rfl

theorem Settings.mem_of_mem_retained {settings : Settings} {line : String} {lines : List String}
    (h : line ∈ settings.retained lines) : line ∈ lines := by
  unfold retained at h
  split at h
  · exact List.mem_of_mem_take h
  · exact h

/-- It makes no difference that the history was already cut for earlier lines. -/
theorem Settings.retained_cons_retained (settings : Settings) (line : String)
    (lines : List String) :
    settings.retained (line :: settings.retained lines) = settings.retained (line :: lines) := by
  unfold retained
  cases settings.historyCapacity? with
  | none => rfl
  | some capacity =>
    cases capacity with
    | zero => rfl
    | succ capacity =>
      simp only [List.take_succ_cons, List.take_take, Nat.min_eq_left (Nat.le_succ capacity)]

theorem Console.history_settled (console : Console) (line : String) (entries : List Entry)
    (replies : Radio.KeyStream) (obeyed : List SystemCommand) :
    (console.settled line entries replies obeyed).history =
      console.settings.retained (line :: console.history) := rfl

theorem Console.Sound.read_eq_empty_iff_allBlank {console : Console} (h : console.Sound)
    {line : String} :
    console.settings.rules.read line = .empty ↔ Text.allBlank line = true := by
  rw [h.read_eq_empty_iff, Text.allBlank, List.all_eq_true]

section

variable [Traffic World]

/-- A line that is not blank settles the console, whatever becomes of it. -/
theorem Console.Sound.exists_settled {console : Console} (h : console.Sound) (world : World)
    {line : String} (hline : Text.allBlank line = false) :
    ∃ entries replies obeyed,
      (console.submitLine world line).console = console.settled line entries replies obeyed := by
  have hending := ending console world line
  generalize console.submitLine world line = turn at hending ⊢
  cases hending with
  | empty hread =>
    rw [h.read_eq_empty_iff_allBlank, hline] at hread
    cases hread
  | rejected | unanswered | taken | refused | quit | shown => exact ⟨_, _, _, rfl⟩

theorem Console.Sound.submitLine_of_allBlank {console : Console} (h : console.Sound)
    (world : World) {line : String} (hblank : Text.allBlank line = true) :
    console.submitLine world line = { console := { console with buffer := line.toList }, world } :=
  (Ending.empty (h.read_eq_empty_iff_allBlank.mpr hblank)).submitLine_eq

namespace Turn

variable {turn : Turn World} {action : Action}

theorem exists_settled_of_entered? (h : turn.console.Sound) {line : String}
    (hline : turn.console.entered? action = some line) :
    ∃ entries replies obeyed,
      (turn.act action).console = turn.console.settled line entries replies obeyed := by
  obtain ⟨hsubmitted, hwords⟩ := Option.filter_eq_some_iff.mp hline
  rw [act_of_submitted? hsubmitted]
  exact h.exists_settled turn.world (by simpa using hwords)

/-- What else there is to do: to submit a blank line, to wait, or to press another key. -/
theorem eq_or_of_entered?_eq_none (h : turn.console.Sound)
    (hnone : turn.console.entered? action = none) :
    (∃ line : String, turn.act action =
        { console := { turn.console with buffer := line.toList }, world := turn.world }) ∨
      action = .tick ∨ ∃ key ≠ .submit, action = .press key := by
  cases hsubmitted : turn.console.submitted? action with
  | some line =>
    have hblank : Text.allBlank line = true := by
      simpa [Console.entered?, hsubmitted] using hnone
    left
    exact ⟨line, by rw [act_of_submitted? hsubmitted, h.submitLine_of_allBlank turn.world hblank]⟩
  | none =>
    cases action with
    | submit line => cases hsubmitted
    | tick => exact .inr (.inl rfl)
    | press key =>
      refine .inr (.inr ⟨key, ?_, rfl⟩)
      rintro rfl
      cases hsubmitted

theorem history_act_of_entered?_eq_none (h : turn.console.Sound)
    (hnone : turn.console.entered? action = none) :
    (turn.act action).console.history = turn.console.history := by
  rcases eq_or_of_entered?_eq_none h hnone with ⟨line, heq⟩ | rfl | ⟨key, hkey, rfl⟩
  · rw [heq]
  · rfl
  · obtain ⟨buffer, recalled, heq⟩ := Console.exists_press_eq hkey turn.console turn.world
    rw [act, heq]

theorem submissions_append_singleton (turn : Turn World) (actions : List Action)
    (action : Action) :
    turn.submissions (actions ++ [action]) =
      turn.submissions actions ++ ((actions.foldl act turn).console.submitted? action).toList := by
  induction actions generalizing turn with
  | nil => simp [submissions]
  | cons first actions ih =>
    rw [List.cons_append, submissions, ih, submissions, List.foldl_cons, List.append_assoc]

/-- A history that was empty at first holds the lines that were submitted since. -/
theorem history_foldl_act {start : Turn World} (hsound : start.console.Sound)
    (hstart : start.console.history = []) (actions : List Action) :
    (actions.foldl act start).console.history =
      start.console.settings.retained
        ((start.submissions actions).filter (!Text.allBlank ·)).reverse := by
  induction actions using List.reverseRecOn with
  | nil => exact hstart.trans start.console.settings.retained_nil.symm
  | append_singleton actions action ih =>
    have hnow := sound_foldl_act hsound actions
    have hsettings := start.settings_foldl_act actions
    rw [List.foldl_append, List.foldl_cons, List.foldl_nil, submissions_append_singleton,
      List.filter_append, List.reverse_append, ← Option.toList_filter, ← Console.entered?]
    generalize actions.foldl act start = now at ih hnow hsettings ⊢
    cases hline : now.console.entered? action with
    | none => exact (history_act_of_entered?_eq_none hnow hline).trans ih
    | some line =>
      obtain ⟨entries, replies, obeyed, heq⟩ := exists_settled_of_entered? hnow hline
      calc (now.act action).console.history
        _ = now.console.settings.retained (line :: now.console.history) := by
          rw [heq, Console.history_settled]
        _ = start.console.settings.retained
            (line :: ((start.submissions actions).filter (!Text.allBlank ·)).reverse) := by
          rw [ih, hsettings, Settings.retained_cons_retained]

end Turn

end

namespace Console

variable {console : Console}

theorem historyUp_of_lt (h : console.recalled < console.history.length) :
    console.historyUp =
      { console with
        buffer := console.history[console.recalled].toList
        recalled := console.recalled + 1 } := by
  rw [historyUp, List.getElem?_eq_getElem h]

theorem historyUp_of_length_le (h : console.history.length ≤ console.recalled) :
    console.historyUp = console := by
  rw [historyUp, List.getElem?_eq_none h]

theorem historyDown_of_eq_zero (h : console.recalled = 0) : console.historyDown = console := by
  rw [historyDown, h]

theorem historyDown_of_eq_one (h : console.recalled = 1) :
    console.historyDown = { console with buffer := [], recalled := 0 } := by
  rw [historyDown, h]

theorem historyDown_of_eq_add_two {earlier : Nat} (h : console.recalled = earlier + 2)
    (hlt : earlier < console.history.length) :
    console.historyDown =
      { console with
        buffer := console.history[earlier].toList
        recalled := earlier + 1 } := by
  rw [historyDown, h]
  simp only [List.getElem?_eq_getElem hlt, Option.map_some, Option.getD_some]

theorem history_historyUp (console : Console) : console.historyUp.history = console.history := by
  unfold historyUp
  split <;> rfl

theorem recalled_historyUp (h : console.recalled ≤ console.history.length) :
    console.historyUp.recalled = min (console.recalled + 1) console.history.length := by
  rcases Nat.lt_or_ge console.recalled console.history.length with hlt | hge
  · rw [historyUp_of_lt hlt, Nat.min_eq_left hlt]
  · rw [historyUp_of_length_le hge]
    omega

theorem recalled_historyDown (console : Console) :
    console.historyDown.recalled = console.recalled - 1 := by
  unfold historyDown
  split <;> simp [*]

/-- Going back either shows a line or leads nowhere. -/
theorem showsRecalled_historyUp (h : console.historyUp.recalled ≠ console.recalled) :
    console.historyUp.ShowsRecalled := by
  rcases Nat.lt_or_ge console.recalled console.history.length with hlt | hge
  · simp [historyUp_of_lt hlt, ShowsRecalled, line, hlt]
  · rw [historyUp_of_length_le hge] at h
    exact absurd rfl h

/-- Coming forward shows a line, unless there is no way back from there. -/
theorem showsRecalled_historyDown (hle : console.recalled ≤ console.history.length)
    (h : console.historyDown.recalled ≠ 0) : console.historyDown.ShowsRecalled := by
  rw [recalled_historyDown] at h
  obtain ⟨earlier, hearlier⟩ : ∃ earlier, console.recalled = earlier + 2 :=
    ⟨console.recalled - 2, by omega⟩
  have hlt : earlier < console.history.length := by omega
  simp [historyDown_of_eq_add_two hearlier hlt, ShowsRecalled, line, hlt]

theorem recalled_press_le [Traffic World] {key : Keystroke} (hkey : key ≠ .submit)
    (h : console.recalled ≤ console.history.length) (world : World) :
    (console.press world key).console.recalled ≤ console.history.length := by
  cases key with
  | submit => exact absurd rfl hkey
  | cancel | backspace word => exact h
  | historyUp => exact (recalled_historyUp h).trans_le (Nat.min_le_right _ _)
  | historyDown => exact (recalled_historyDown console).trans_le ((Nat.sub_le _ _).trans h)
  | complete =>
    rw [press, complete]
    split <;> exact h
  | glyph text =>
    rw [press, typeText]
    split <;> exact h

end Console

namespace Turn

variable [Traffic World] {turn : Turn World}

theorem recalled_le_act (h : turn.console.Sound)
    (hle : turn.console.recalled ≤ turn.console.history.length) (action : Action) :
    (turn.act action).console.recalled ≤ (turn.act action).console.history.length := by
  cases hline : turn.console.entered? action with
  | some line =>
    obtain ⟨entries, replies, obeyed, heq⟩ := exists_settled_of_entered? h hline
    rw [heq]
    exact Nat.zero_le _
  | none =>
    rw [history_act_of_entered?_eq_none h hline]
    rcases eq_or_of_entered?_eq_none h hline with ⟨line, heq⟩ | rfl | ⟨key, hkey, rfl⟩
    · rw [heq]
      exact hle
    · exact hle
    · exact Console.recalled_press_le hkey hle turn.world

theorem recalled_le_foldl_act (h : turn.console.Sound)
    (hle : turn.console.recalled ≤ turn.console.history.length) (actions : List Action) :
    (actions.foldl act turn).console.recalled ≤ (actions.foldl act turn).console.history.length := by
  induction actions generalizing turn with
  | nil => exact hle
  | cons action actions ih => exact ih (sound_act h action) (recalled_le_act h hle action)

theorem recalled_foldl_historyUp (h : turn.console.recalled ≤ turn.console.history.length)
    (count : Nat) :
    ((List.replicate count (.press .historyUp)).foldl act turn).console.recalled =
      min (turn.console.recalled + count) turn.console.history.length := by
  induction count generalizing turn with
  | zero => exact (Nat.min_eq_left h).symm
  | succ count ih =>
    have hup : (turn.act (.press .historyUp)).console = turn.console.historyUp := rfl
    have hrecalled := Console.recalled_historyUp h
    have hhistory := turn.console.history_historyUp
    rw [List.replicate_succ, List.foldl_cons, ih, hup, hrecalled, hhistory]
    · omega
    · rw [hup, hrecalled, hhistory]
      exact Nat.min_le_right _ _

theorem recalled_foldl_historyDown (turn : Turn World) (count : Nat) :
    ((List.replicate count (.press .historyDown)).foldl act turn).console.recalled =
      turn.console.recalled - count := by
  induction count generalizing turn with
  | zero => rfl
  | succ count ih =>
    have hdown : (turn.act (.press .historyDown)).console = turn.console.historyDown := rfl
    rw [List.replicate_succ, List.foldl_cons, ih, hdown, Console.recalled_historyDown]
    omega

theorem browses_of_recalled_le (h : turn.console.recalled ≤ turn.console.history.length) :
    turn.Browses where
  recalled_le := h
  frame key hkey := by
    have hother : key ≠ .submit := by
      rintro rfl
      simp at hkey
    exact Console.exists_press_eq hother turn.console turn.world
  up_shows := Console.showsRecalled_historyUp
  up_of_oldest holdest := by
    rw [act, Console.press, Console.historyUp_of_length_le holdest.ge]
  down_shows := Console.showsRecalled_historyDown h
  down_of_latest hlatest := by rw [act, Console.press, Console.historyDown_of_eq_one hlatest]
  down_of_none hnone := by rw [act, Console.press, Console.historyDown_of_eq_zero hnone]
  recalled_ups := recalled_foldl_historyUp h
  recalled_downs := turn.recalled_foldl_historyDown

end Turn

/-- Whatever is done at a console that was opened with some settings, its history holds the lines
that were submitted and were not blank, the latest first, as far as there is room for them; and
lines are recalled from there, by as many steps back and forward as the keys are pressed and the
history allows. -/
theorem history_holds_submissions {settings : Settings} {opened : Console}
    (h : Console.ofSettings settings = .ok opened) (system : SystemHandler)
    [Traffic World] (world : World) (actions : List Action) :
    let start : Turn World := { console := { opened with system }, world }
    let turn := actions.foldl Turn.act start
    turn.console.history =
        settings.retained ((start.submissions actions).filter (!Text.allBlank ·)).reverse ∧
      turn.Browses := by
  intro start turn
  have hsound : start.console.Sound := (Console.sound_of_ofSettings h).of_eq rfl rfl
  obtain ⟨-, rfl⟩ := Console.ofSettings_eq_ok_iff.mp h
  constructor
  · exact Turn.history_foldl_act hsound rfl actions
  · exact Turn.browses_of_recalled_le (Turn.recalled_le_foldl_act hsound (Nat.le_refl 0) actions)

/-- There is room for two of three lines. The blank line that is submitted while one of them is
recalled does not count, and that the console counts how often it is asked for help is no matter. -/
theorem history_holds_submissions_two_of_three :
    let settings : Settings := { historyCapacity? := some 2 }
    let counting := SystemHandler.ofMachine (fun count _ => (.lines [toString count], count + 1)) 0
    ∃ opened, Console.ofSettings settings = .ok opened ∧
      let start : Turn Airspace := { console := { opened with system := counting }, world := {} }
      let actions : List Action :=
        [.submit "/help", .submit "two", .press .historyUp, .submit " ", .submit "/help"]
      let turn := actions.foldl Turn.act start
      turn.console.history = ["/help", "two"] ∧
        ((List.replicate 5 (.press .historyUp)).foldl Turn.act turn).console.recalled = 2 ∧
        ((List.replicate 2 (.press .historyDown)).foldl Turn.act turn).console.recalled = 0 := by
  intro settings counting
  have hcheck : settings.check = .ok () := by decide +kernel
  have hopened := Console.ofSettings_eq_ok_iff.mpr ⟨hcheck, rfl⟩
  refine ⟨_, hopened, ?_⟩
  intro start actions turn
  obtain ⟨hhistory, hbrowses⟩ :=
    history_holds_submissions hopened counting ({} : Airspace) actions
  have hlines : start.submissions actions = ["/help", "two", " ", "/help"] := rfl
  have hretained : turn.console.history = ["/help", "two"] := by
    refine hhistory.trans ?_
    rw [hlines]
    decide +kernel
  have hle : turn.console.recalled ≤ 2 := by
    have hle := hbrowses.recalled_le
    rwa [hretained] at hle
  refine ⟨hretained, ?_, ?_⟩
  · have hups := hbrowses.recalled_ups 5
    rw [hretained] at hups
    exact hups.trans (Nat.min_eq_right (Nat.le_add_left _ _))
  · exact (hbrowses.recalled_downs 2).trans (Nat.sub_eq_zero_of_le hle)

end ControlTower
