import ControlTower.Phraseology.Reading

/-!
# Reading word by word

What has been understood of a transmission is a `Stage`, and `Stage.step` takes one more word into
account, or says why the word cannot stand there. When the words run out, `Stage.finish` says what
was meant. Nothing that follows a word can mend it, and what a word means depends on the stage alone:
nothing is put back, and no word is looked at twice.

The reader of transmissions does both, and yet it comes to the same and stops at the same position
(`read_eq_readFrom`). Each part of it is followed for itself: the arguments of a command, the flags
behind them, and the token that begins an instruction, of which the digits may have been put back.
-/

namespace ControlTower

/-- What has been understood of a transmission so far. -/
inductive Stage where
  | start
  /-- The queue glyph has been read; an aircraft has to follow. -/
  | afterQueueGlyph
  /-- The system glyph has been read; a command to the console has to follow. -/
  | afterSystemGlyph
  /-- A command to the console has been read; nothing may follow. -/
  | system (command : SystemCommand)
  /-- An aircraft has been addressed; a command has to follow. -/
  | addressed (call : Call)
  /-- A command has been read, and some of its arguments; more have to follow. -/
  | arguments (call : Call) (command : Command) (given : List String)
  /-- An instruction is complete; its flags or a further command may follow. -/
  | flags (call : Call) (latest : Instruction)
deriving Repr, DecidableEq

namespace Call

/-- The stage reached when some arguments of a command have been given: once there are enough of
them, they have to have the form that is asked for. -/
def collect (rules : ReadingRules) (call : Call) (command : Command) (given : List String) :
    Except Misreading Stage :=
  if given.length < command.arity then .ok (.arguments call command given)
  else match command.read? rules given with
    | some arguments => .ok (.flags call { command, arguments })
    | none => .error (.badArgument command)

/-- The instruction that a condensed word such as `h090` spells: a lower-case letter that stands for
a command, glued to two or more digits that are its argument. -/
def condensed? (rules : ReadingRules) (word : String) : Option Instruction :=
  match word.toList with
  | [] => none
  | letter :: digits =>
    if letter.isLower && 2 ≤ digits.length && digits.all Char.isDigit then do
      let command ← Command.ofLetter? letter
      let arguments ← command.read? rules [String.ofList digits]
      pure { command, arguments }
    else none

def begin (rules : ReadingRules) (call : Call) (word : String) : Except Misreading Stage :=
  match condensed? rules word with
  | some instruction => .ok (.flags call instruction)
  | none => match Command.ofWord? word with
    | some command => call.collect rules command []
    | none => .error (.notCommand (Text.upper word))

end Call

namespace Stage

def step (rules : ReadingRules) (stage : Stage) (word : String) : Except Misreading Stage :=
  match stage with
  | start =>
    match Argument.identifier? word with
    | some target => .ok (.addressed ⟨.execute, target, []⟩)
    | none =>
      if word.toList.head? = some rules.glyphs.queue then .ok .afterQueueGlyph
      else if word.toList = [rules.glyphs.system] then .ok .afterSystemGlyph
      else .error (.notReference (Text.upper word))
  | afterQueueGlyph =>
    match Argument.identifier? word with
    | some target => .ok (.addressed ⟨.enqueue, target, []⟩)
    | none => .error (.notReference (Text.upper word))
  | afterSystemGlyph =>
    match SystemCommand.ofWord? word with
    | some command => .ok (.system command)
    | none => .error (.notSystemCommand (Text.upper word))
  | system _ => .error (.notCommand (Text.upper word))
  | addressed call => call.begin rules word
  | arguments call command given => call.collect rules command (given ++ [word])
  | flags call latest =>
    match latest.command.flag? word with
    | some flag => .ok (.flags call (latest.withFlag flag))
    | none => (call.add latest).begin rules word

def finish : Stage → Reading
  | start => .empty
  | afterQueueGlyph => .rejected (.notReference "")
  | afterSystemGlyph => .rejected (.notSystemCommand "")
  | system command => .accepted (.system command)
  | addressed call => call.finish
  | arguments _ command _ => .rejected (.missingArgument command)
  | flags call latest => (call.add latest).finish

end Stage

/-- Where the reader takes a word for a condensed one, its letter and its digits give the
instruction. -/
theorem ReadingRules.condensed?_cases (rules : ReadingRules) (word : String) :
    rules.condensed? word = none ∧ Call.condensed? rules word = none ∨
      ∃ letter digits command arguments, rules.condensed? word = some (letter, digits) ∧
        Call.condensed? rules word = some { command, arguments } ∧
        command.letter? = some letter ∧ command.read? rules [digits] = some arguments := by
  unfold condensed? Call.condensed?
  cases word.toList with
  | nil => exact .inl ⟨rfl, rfl⟩
  | cons letter digits =>
    dsimp only
    cases hform : letter.isLower && decide (2 ≤ digits.length) && digits.all Char.isDigit with
    | false => exact .inl ⟨by rw [Bool.false_and]; rfl, rfl⟩
    | true =>
      rw [Bool.true_and, if_pos rfl]
      cases hletter : Command.ofLetter? letter with
      | none => exact .inl ⟨rfl, rfl⟩
      | some command =>
        rw [Option.any_some]
        cases hread : command.read? rules [String.ofList digits] with
        | none => exact .inl ⟨rfl, by simp [hread]⟩
        | some arguments =>
          exact .inr ⟨letter, String.ofList digits, command, arguments, rfl, by simp [hread],
            Command.ofLetter?_eq_some_iff.mp hletter, hread⟩

namespace TokenCursor

/-- Reads tokens from a stage on, as far as the first that cannot stand where it does. -/
def readFrom (rules : ReadingRules) (stage : Stage) (cursor : TokenCursor) : Reading × TokenCursor :=
  match _h : cursor.next? with
  | none => (stage.finish, cursor)
  | some (token, behind) =>
    match stage.step rules token with
    | .ok next => readFrom rules next behind
    | .error reason => (.rejected reason, behind)
termination_by cursor.rest.length
decreasing_by
  rw [rest_of_next? _h]
  exact Nat.lt_add_one _

def readOn (rules : ReadingRules) (cursor : TokenCursor) :
    Except Misreading Stage → Reading × TokenCursor
  | .ok stage => cursor.readFrom rules stage
  | .error reason => (.rejected reason, cursor)

variable {rules : ReadingRules} {stage : Stage} {call : Call} {command : Command} {token : String}
  {cursor behind : TokenCursor}

theorem readFrom_of_next? (h : cursor.next? = some (token, behind)) :
    cursor.readFrom rules stage = behind.readOn rules (stage.step rules token) := by
  rw [readFrom]
  split
  · next hnone =>
    rw [h] at hnone
    cases hnone
  · next hsome =>
    rw [h] at hsome
    cases hsome
    cases stage.step rules token <;> rfl

theorem readFrom_of_next?_eq_none (h : cursor.next? = none) :
    cursor.readFrom rules stage = (stage.finish, cursor) := by
  rw [readFrom]
  split
  · rfl
  · next hsome =>
    rw [h] at hsome
    cases hsome

theorem peek?_of_next? (h : cursor.next? = some (token, behind)) : cursor.peek? = some token := by
  unfold next? at h
  unfold peek?
  split at h
  · next hreturned =>
    cases h
    rw [hreturned]
    rfl
  · next hreturned =>
    obtain ⟨read, hread, hbehind⟩ := Option.map_eq_some_iff.mp h
    cases hbehind
    rw [hreturned, hread]
    rfl

theorem readOn_collect {count : Nat} {given : List String}
    (h : given.length + count = command.arity) :
    cursor.readOn rules (call.collect rules command given) =
      match cursor.nextMany? count with
      | (none, behind) => (.rejected (.missingArgument command), behind)
      | (some words, behind) => match command.read? rules (given ++ words) with
        | none => (.rejected (.badArgument command), behind)
        | some arguments => behind.readFrom rules (.flags call { command, arguments }) := by
  induction count generalizing cursor given with
  | zero =>
    have henough : ¬ given.length < command.arity := by omega
    simp only [Call.collect, if_neg henough, nextMany?, List.append_nil]
    cases command.read? rules given <;> rfl
  | succ count ih =>
    have hmore : given.length < command.arity := by omega
    rw [Call.collect, if_pos hmore, readOn, nextMany?]
    cases hnext : cursor.next? with
    | none =>
      rw [readFrom_of_next?_eq_none hnext]
      rfl
    | some read =>
      obtain ⟨token, behind⟩ := read
      have hlength : (given ++ [token]).length + count = command.arity := by
        rw [List.length_append, List.length_singleton]
        omega
      rw [readFrom_of_next? hnext, Stage.step, ih hlength]
      dsimp only
      rcases behind.nextMany? count with ⟨_ | others, last⟩
      · rfl
      · simp only [Option.map_some, List.append_assoc, List.singleton_append]

theorem readFrom_flags (cursor : TokenCursor) (call : Call) (latest : Instruction) :
    cursor.readFrom rules (.flags call latest) =
      (cursor.readFlags latest).2.readFrom rules
        (.addressed (call.add (cursor.readFlags latest).1)) := by
  fun_induction readFlags cursor latest with
  | case1 cursor latest hnone =>
    cases hnext : cursor.next? with
    | none =>
      rw [readFrom_of_next?_eq_none hnext, readFrom_of_next?_eq_none hnext]
      rfl
    | some read =>
      obtain ⟨token, behind⟩ := read
      have hflag : latest.command.flag? token = none := by
        simpa [peek?_of_next? hnext] using hnone
      rw [readFrom_of_next? hnext, readFrom_of_next? hnext]
      simp only [Stage.step, hflag]
  | case2 cursor latest flag hflag hnext =>
    rw [readFrom_of_next?_eq_none hnext, readFrom_of_next?_eq_none hnext]
    rfl
  | case3 cursor latest flag hflag token behind hnext ih =>
    have hflag : latest.command.flag? token = some flag := by
      simpa [peek?_of_next? hnext] using hflag
    rw [readFrom_of_next? hnext, Stage.step, hflag]
    exact ih

theorem readOn_begin (cursor : TokenCursor) (call : Call) (token : String) :
    cursor.readOn rules (call.begin rules token) =
      match cursor.readInstruction rules token with
      | (.error reason, behind) => (.rejected reason, behind)
      | (.ok instruction, behind) => behind.readFrom rules (.addressed (call.add instruction)) := by
  unfold Call.begin readInstruction expand
  rcases rules.condensed?_cases token with
    ⟨hplain, hnone⟩ | ⟨letter, digits, command, arguments, hdigits, hsome, hletter, hread⟩
  · rw [hplain, hnone]
    dsimp only
    cases hcommand : Command.ofWord? token with
    | none => rfl
    | some command =>
      dsimp only
      rw [readOn_collect (Nat.zero_add command.arity)]
      rcases cursor.nextMany? command.arity with ⟨_ | words, behind⟩
      · rfl
      · simp only [List.nil_append]
        cases command.read? rules words with
        | none => rfl
        | some arguments => exact readFrom_flags behind call { command, arguments }
  · rw [hdigits, hsome]
    dsimp only
    rw [Command.ofWord?_of_letter?_eq_some hletter]
    dsimp only
    have hputBack : (cursor.putBack digits).nextMany? command.arity = (some [digits], cursor) := by
      rw [Command.arity_of_letter?_eq_some hletter]
      rfl
    rw [hputBack]
    dsimp only
    rw [hread]
    exact readFrom_flags cursor call { command, arguments }

theorem readCommands_eq_readFrom (rules : ReadingRules) (call : Call) (cursor : TokenCursor) :
    cursor.readCommands rules call = cursor.readFrom rules (.addressed call) := by
  fun_induction readCommands rules call cursor with
  | case1 call cursor hnext =>
    rw [readFrom_of_next?_eq_none hnext]
    rfl
  | case2 call cursor token behind hnext reason last hread =>
    rw [readFrom_of_next? hnext, Stage.step, readOn_begin, hread]
  | case3 call cursor token behind hnext instruction last hread ih =>
    rw [readFrom_of_next? hnext, Stage.step, readOn_begin, hread, ih]

theorem readQueued_eq_readFrom (rules : ReadingRules) (cursor : TokenCursor) :
    cursor.readQueued rules = cursor.readFrom rules .afterQueueGlyph := by
  unfold readQueued nextWord
  cases hnext : cursor.next? with
  | none =>
    rw [readFrom_of_next?_eq_none hnext]
    rfl
  | some read =>
    obtain ⟨reference, behind⟩ := read
    rw [readFrom_of_next? hnext, Stage.step, Option.getD_some]
    dsimp only
    cases Argument.identifier? reference with
    | none => rfl
    | some target => exact readCommands_eq_readFrom _ _ _

theorem readSystem_eq_readFrom (rules : ReadingRules) (cursor : TokenCursor) :
    cursor.readSystem = cursor.readFrom rules .afterSystemGlyph := by
  unfold readSystem nextWord
  cases hnext : cursor.next? with
  | none =>
    rw [readFrom_of_next?_eq_none hnext]
    rfl
  | some read =>
    obtain ⟨issued, behind⟩ := read
    rw [readFrom_of_next? hnext, Stage.step, Option.getD_some]
    dsimp only
    cases SystemCommand.ofWord? issued with
    | none => rfl
    | some command =>
      dsimp only [readOn]
      cases hextra : behind.next? with
      | none =>
        rw [readFrom_of_next?_eq_none hextra]
        rfl
      | some read =>
        rw [readFrom_of_next? hextra]
        rfl

/-- The reader, which looks ahead and puts tokens back, comes to what reading word by word comes to,
and it stops where that stops. -/
theorem read_eq_readFrom (rules : ReadingRules) (cursor : TokenCursor) :
    cursor.read rules = cursor.readFrom rules .start := by
  unfold read
  cases hnext : cursor.next? with
  | none =>
    rw [readFrom_of_next?_eq_none hnext]
    rfl
  | some read =>
    obtain ⟨first, behind⟩ := read
    rw [readFrom_of_next? hnext, Stage.step]
    dsimp only
    cases Argument.identifier? first with
    | some target => exact readCommands_eq_readFrom _ _ _
    | none =>
      dsimp only
      split
      · exact readQueued_eq_readFrom rules behind
      · split
        · exact readSystem_eq_readFrom rules behind
        · rfl

end TokenCursor

end ControlTower
