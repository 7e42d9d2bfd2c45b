import ControlTower.Proofs.Phraseology.Continuation

/-!
# Condensed words

A heading, an altitude or a speed may be condensed: the letter of the command and the digits of its
argument are written as one word. Wherever a command may begin, such a word means exactly what the
name of the command and the digits mean as two words, whatever is said before and after. If the
digits do not have the form that is asked for, or the letter stands for no command, the word means
nothing.
-/

namespace ControlTower

variable {rules : ReadingRules}

/-- A list of words that is read so is one after which a command may begin: an aircraft has been
addressed, and the commands to it are complete, if there are any. -/
def Reading.AtCommand : Reading → Prop
  | .accepted (.aircraft _ _ _) => True
  | .accepted (.system _) | .empty => False
  | .rejected reason => reason = .nothingCommanded ∨ reason.InCommands

namespace Command

variable {command : Command} {letter : Char}

theorem letter?_eq_some_iff :
    command.letter? = some letter ↔
      (letter, command) ∈ [('h', Command.heading), ('a', .altitude), ('s', .speed)] := by
  cases command <;> simp [letter?, eq_comm]

/-- No spelling of a flag ends with two digits or more behind its first letter. -/
theorem not_spellsFlag_of_digits {word : String} {digits : List Char}
    (hword : word.toList = letter :: digits) (several : 2 ≤ digits.length)
    (decimal : ∀ c ∈ digits, c.isDigit = true) (flag : Flag) : ¬ command.SpellsFlag word flag := by
  have letters : ∀ c ∈ all, ∀ entry ∈ c.flags, ∀ w ∈ entry.2,
      ¬ (2 ≤ w.toList.tail.length ∧ w.toList.tail.all Char.isDigit = true) := by decide
  rintro ⟨spellings, hentry, hspelling⟩
  have hnot := letters command (mem_all command) _ hentry word hspelling
  rw [hword] at hnot
  exact hnot ⟨several, List.all_eq_true.mpr decimal⟩

/-- The name of a command is never the spelling of a flag. -/
theorem not_spellsFlag_name (command other : Command) (flag : Flag) :
    ¬ command.SpellsFlag other.name flag := by
  have names : ∀ c ∈ all, ∀ entry ∈ c.flags, ∀ w ∈ entry.2, ∀ d ∈ all, w ≠ d.name := by decide
  rintro ⟨spellings, hentry, hspelling⟩
  exact names command (mem_all command) _ hentry _ hspelling other (mem_all other) rfl

theorem name_mem_spellings (command : Command) : command.name ∈ command.spellings :=
  List.mem_of_head? (head?_spellings command)

end Command

namespace Call

variable {call : Call} {command : Command} {given : List String} {word : String}
  {reason : Misreading}

theorem not_atCommand_of_collect (h : call.collect rules command given = .error reason) :
    ¬ (Reading.rejected reason).AtCommand := by
  unfold collect at h
  split at h
  · cases h
  · split at h <;> cases h
    simp [Reading.AtCommand, Misreading.InCommands]

theorem not_atCommand_of_begin (h : call.begin rules word = .error reason) :
    ¬ (Reading.rejected reason).AtCommand := by
  unfold begin at h
  split at h
  · cases h
  · split at h
    · exact not_atCommand_of_collect h
    · cases h
      simp [Reading.AtCommand, Misreading.InCommands]

end Call

namespace Stage

variable {stage : Stage} {call : Call} {reason : Misreading} {word : String} {words : List String}

def Opens (rules : ReadingRules) (stage : Stage) (call : Call) : Prop :=
  ∀ word, (∀ command flag, ¬ Command.SpellsFlag command word flag) →
    stage.step rules word = call.begin rules word

theorem not_atCommand_of_step (h : stage.step rules word = .error reason) :
    ¬ (Reading.rejected reason).AtCommand := by
  cases stage with
  | start | afterQueueGlyph | afterSystemGlyph =>
    simp only [step] at h
    repeat' split at h
    all_goals cases h
    all_goals simp [Reading.AtCommand, Misreading.InCommands]
  | system command =>
    cases h
    simp [Reading.AtCommand, Misreading.InCommands]
  | addressed call => exact Call.not_atCommand_of_begin h
  | arguments call command given => exact Call.not_atCommand_of_collect h
  | flags call latest =>
    simp only [step] at h
    split at h
    · cases h
    · exact Call.not_atCommand_of_begin h

theorem not_atCommand_of_reach (h : stage.reach rules words = .error reason) :
    ¬ (Reading.rejected reason).AtCommand := by
  induction words generalizing stage with
  | nil => cases h
  | cons word words ih =>
    cases hstep : stage.step rules word with
    | ok next =>
      rw [reach_cons_of_ok hstep] at h
      exact ih h
    | error first =>
      rw [reach_cons_of_error hstep] at h
      cases h
      exact not_atCommand_of_step hstep

theorem exists_opens_of_finish (h : stage.finish.AtCommand) :
    ∃ call, stage.Opens rules call := by
  cases stage with
  | start | system _ => exact h.elim
  | afterQueueGlyph | afterSystemGlyph | arguments _ _ _ =>
    simp [finish, Reading.AtCommand, Misreading.InCommands] at h
  | addressed call => exact ⟨call, fun _ _ => rfl⟩
  | flags call latest =>
    refine ⟨call.add latest, fun word hword => ?_⟩
    have hnone := Command.flag?_eq_none_iff.mpr (hword latest.command)
    simp only [step, hnone]

theorem exists_opens (h : (outcome rules .start words).AtCommand) :
    ∃ stage call, reach rules .start words = .ok stage ∧ stage.Opens rules call := by
  unfold outcome at h
  split at h
  · next stage hreach =>
    obtain ⟨call, hopens⟩ := exists_opens_of_finish h
    exact ⟨stage, call, hreach, hopens⟩
  · next reason hreach => exact absurd h (not_atCommand_of_reach hreach)

/-- All words that give the same command with the same arguments lead to the same stage. -/
theorem Opens.reach_opening (hopens : stage.Opens rules call) {command : Command}
    {arguments : List Argument} (h : Opening rules command words arguments)
    (hfirst : ∀ word ∈ words.head?, ∀ other flag, ¬ Command.SpellsFlag other word flag) :
    stage.reach rules words = .ok (.flags call { command, arguments }) := by
  obtain ⟨word, given, rfl, next, hnext, hgiven⟩ := h.exists_begin call
  rw [reach_cons_of_ok ((hopens word (hfirst word rfl)).trans hnext), hgiven]

end Stage

/-- A letter and digits that are no command and its argument begin nothing. -/
theorem Call.begin_eq_error_of_digits (call : Call) {letter : Char} {digits : List Char}
    (several : 2 ≤ digits.length) (decimal : ∀ c ∈ digits, c.isDigit = true)
    (hnone : ∀ command, Command.letter? command = some letter →
      command.read? rules [String.ofList digits] = none) :
    call.begin rules (String.ofList (letter :: digits)) =
      .error (.notCommand (Text.upper (String.ofList (letter :: digits)))) := by
  have hcondensed : condensed? rules (String.ofList (letter :: digits)) = none := by
    simp only [condensed?, String.toList_ofList]
    split
    · cases hletter : Command.ofLetter? letter with
      | none => rfl
      | some command =>
        have hread := hnone command (Command.ofLetter?_eq_some_iff.mp hletter)
        simp [hread]
    · rfl
  have hword : Command.ofWord? (String.ofList (letter :: digits)) = none := by
    rw [Option.eq_none_iff_forall_ne_some]
    intro command hcommand
    exact Command.not_digits_of_mem_spellings (Command.ofWord?_eq_some_iff.mp hcommand)
      String.toList_ofList ⟨several, List.all_eq_true.mpr decimal⟩
  simp only [begin, hcondensed, hword]

/-- Wherever a command may begin, a letter with digits means exactly what the name of the command
and the digits mean, if the letter is that of a command that can take them; otherwise the line is
refused for this word. -/
theorem read_condensed (rules : ReadingRules) (before after : List String) (letter : Char)
    (digits : List Char)
    (standing : ((TokenCursor.ofTokens before).read rules).1.AtCommand)
    (several : 2 ≤ digits.length) (decimal : ∀ c ∈ digits, c.isDigit = true) :
    let read := fun tokens => ((TokenCursor.ofTokens tokens).read rules).1
    let word := String.ofList (letter :: digits)
    let number := String.ofList digits
    let letters := [('h', Command.heading), ('a', .altitude), ('s', .speed)]
    (∀ command, (letter, command) ∈ letters → (command.read? rules [number]).isSome = true →
      read (before ++ [word] ++ after) = read (before ++ [command.name, number] ++ after)) ∧
    ((∀ command, (letter, command) ∈ letters → command.read? rules [number] = none) →
      read (before ++ [word] ++ after) = .rejected (.notCommand (Text.upper word))) := by
  intro read word number letters
  rw [TokenCursor.fst_read_ofTokens] at standing
  obtain ⟨stage, call, hreach, hopens⟩ := Stage.exists_opens standing
  have hletters : word.toList = letter :: digits := String.toList_ofList
  have hflag : ∀ other ∈ [word].head?, ∀ command flag, ¬ Command.SpellsFlag command other flag := by
    rintro _ ⟨⟩ command flag
    exact Command.not_spellsFlag_of_digits hletters several decimal flag
  simp only [read, TokenCursor.fst_read_ofTokens, List.append_assoc,
    Stage.outcome_append_of_ok hreach]
  constructor
  · intro command hcommand hsome
    obtain ⟨arguments, form⟩ := Option.isSome_iff_exists.mp hsome
    have stands := Command.letter?_eq_some_iff.mpr hcommand
    have hcondensed : Opening rules command [word] arguments :=
      .condensed stands several decimal form
    have hspelled : Opening rules command [command.name, number] arguments :=
      .spelled command.name_mem_spellings
        (Command.arity_of_letter?_eq_some stands).symm form
    have hname : ∀ other ∈ [command.name, number].head?, ∀ c flag,
        ¬ Command.SpellsFlag c other flag := by
      rintro _ ⟨⟩ c flag
      exact c.not_spellsFlag_name command flag
    rw [Stage.outcome_append_of_ok (hopens.reach_opening hcondensed hflag),
      Stage.outcome_append_of_ok (hopens.reach_opening hspelled hname)]
  · intro hnone
    have hstep : stage.step rules word = .error (.notCommand (Text.upper word)) := by
      rw [hopens word (hflag word rfl)]
      refine call.begin_eq_error_of_digits several decimal fun command hcommand => ?_
      exact hnone command (Command.letter?_eq_some_iff.mp hcommand)
    refine Stage.outcome_append_of_error ?_ after
    rw [Stage.reach_singleton, hstep]

theorem read_condensed_speed :
    let read := fun tokens => ((TokenCursor.ofTokens tokens).read {}).1
    let before := [".", "abc1234", "abort"]
    read before = .rejected .abortQueued ∧
      read (before ++ ["s012"] ++ ["x"]) = read (before ++ ["speed", "012"] ++ ["x"]) ∧
      read (before ++ ["a23"] ++ ["x"]) = .rejected (.notCommand "A23") := by
  intro read before
  have hbefore : read before = .rejected .abortQueued := by
    simp only [read, TokenCursor.fst_read_ofTokens]
    decide +kernel
  have standing : (read before).AtCommand := hbefore ▸ .inr trivial
  have hspeed := read_condensed {} before ["x"] 's' ['0', '1', '2'] standing (by decide) (by simp)
  have hsteps := read_condensed {} before ["x"] 'a' ['2', '3'] standing (by decide) (by simp)
  refine ⟨hbefore, hspeed.1 .speed (by decide) (by decide +kernel), hsteps.2 ?_⟩
  intro command hcommand
  obtain rfl : command = .altitude := by simpa using hcommand
  decide +kernel

end ControlTower
