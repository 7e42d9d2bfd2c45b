import ControlTower.Phraseology.Cursor
import ControlTower.Phraseology.Transmission

/-!
# Reading transmissions

A transmission is read from a cursor, front to back. The first token says who is addressed. Then
one command follows another, each with its arguments and with as many of its flags as come next; a
token is looked at before it is taken for a flag. The digits of a condensed word are put back, to be
read as the argument of the command that its letter stands for. Reading ends with the tokens or with
the first that cannot stand where it does, and it is known which tokens are left.
-/

namespace ControlTower

inductive Misreading where
  | notReference (word : String)
  | notCommand (word : String)
  | missingArgument (command : Command)
  | badArgument (command : Command)
  | nothingCommanded
  | abortQueued
  | commandRepeated
  | commandsIncompatible
  | notSystemCommand (word : String)
deriving Repr, DecidableEq

def Misreading.message : Misreading → String
  | notReference word => "\"" ++ word ++ "\" is not a valid ICAO reference."
  | notCommand word => "\"" ++ word ++ "\" is neither a command nor a flag."
  | missingArgument command =>
    "Not enough arguments for command \"" ++ Text.upper command.name ++ "\"."
  | badArgument command =>
    "Parameters for \"" ++ Text.upper command.name ++ "\" command failed validation."
  | nothingCommanded => "No commands were issued to the aircraft."
  | abortQueued => "You can't queue abortion of a command."
  | commandRepeated => "You can't repeat commands in the same transmission."
  | commandsIncompatible => "These commands cannot be performed at the same time."
  | notSystemCommand word => "Invalid system command! (" ++ word ++ ")"

inductive Reading where
  | empty
  | accepted (transmission : Transmission)
  | rejected (reason : Misreading)
deriving Repr, DecidableEq

/-- An aircraft that is being addressed, with the instructions it has been given so far. -/
structure Call where
  mode : Mode
  target : String
  instructions : List Instruction := []
deriving Repr, DecidableEq

namespace Call

def add (call : Call) (instruction : Instruction) : Call :=
  { call with instructions := call.instructions ++ [instruction] }

def finish (call : Call) : Reading :=
  let commands := call.instructions.map (·.command)
  if commands.isEmpty then .rejected .nothingCommanded
  else if call.mode = .enqueue ∧ .abort ∈ commands then .rejected .abortQueued
  else if ¬ commands.Nodup then .rejected .commandRepeated
  else if 1 < commands.length ∧ !Command.compatible commands then
    .rejected .commandsIncompatible
  else .accepted (.aircraft call.mode call.target call.instructions)

end Call

/-- The letter and the digits of a condensed word such as `h090`: a lower-case letter that stands
for a command, glued to two or more digits that have the form of its argument. -/
def ReadingRules.condensed? (rules : ReadingRules) (word : String) : Option (Char × String) :=
  match word.toList with
  | [] => none
  | letter :: digits =>
    let takesThem (command : Command) := (command.read? rules [String.ofList digits]).isSome
    if letter.isLower && 2 ≤ digits.length && digits.all Char.isDigit &&
        (Command.ofLetter? letter).any takesThem then
      some (letter, String.ofList digits)
    else none

theorem ReadingRules.exists_letter?_of_condensed? {rules : ReadingRules} {word : String}
    {condensed : Char × String} (h : rules.condensed? word = some condensed) :
    ∃ command : Command, command.letter? = some condensed.1 := by
  unfold condensed? at h
  split at h
  · cases h
  · next letter digits _ =>
    dsimp only at h
    split at h
    · next hcondensed =>
      cases h
      obtain ⟨command, hletter, -⟩ :=
        (Option.any_eq_true _ _).mp (Bool.and_eq_true_iff.mp hcondensed).2
      exact ⟨command, Command.ofLetter?_eq_some_iff.mp hletter⟩
    · cases h

namespace TokenCursor

/-- The next tokens, if there are as many, and the position behind those that were read. -/
def nextMany? (cursor : TokenCursor) : Nat → Option (List String) × TokenCursor
  | 0 => (some [], cursor)
  | count + 1 => match cursor.next? with
    | none => (none, cursor)
    | some (token, behind) =>
      let (others?, behind) := behind.nextMany? count
      (others?.map (token :: ·), behind)

def readFlags (cursor : TokenCursor) (instruction : Instruction) : Instruction × TokenCursor :=
  match cursor.peek?.bind instruction.command.flag? with
  | none => (instruction, cursor)
  | some flag => match _h : cursor.next? with
    | none => (instruction, cursor)
    | some (_, behind) => behind.readFlags (instruction.withFlag flag)
termination_by cursor.rest.length
decreasing_by
  rw [rest_of_next? _h]
  exact Nat.lt_add_one _

/-- The word that a token stands for where a command may begin. Of a condensed word that is the
letter, and the digits are put back. -/
def expand (rules : ReadingRules) (cursor : TokenCursor) (token : String) : String × TokenCursor :=
  match rules.condensed? token with
  | some (letter, digits) => (letter.toString, cursor.putBack digits)
  | none => (token, cursor)

def readInstruction (rules : ReadingRules) (cursor : TokenCursor) (token : String) :
    Except Misreading Instruction × TokenCursor :=
  let (word, cursor) := cursor.expand rules token
  match Command.ofWord? word with
  | none => (.error (.notCommand (Text.upper word)), cursor)
  | some command => match cursor.nextMany? command.arity with
    | (none, behind) => (.error (.missingArgument command), behind)
    | (some words, behind) => match command.read? rules words with
      | none => (.error (.badArgument command), behind)
      | some arguments =>
        let (instruction, behind) := behind.readFlags { command, arguments }
        (.ok instruction, behind)

section

variable {rules : ReadingRules} {cursor behind : TokenCursor} {instruction : Instruction}

theorem length_rest_nextMany? {count : Nat} {words : List String}
    (h : cursor.nextMany? count = (some words, behind)) :
    behind.rest.length + count = cursor.rest.length := by
  induction count generalizing cursor words with
  | zero =>
    cases h
    rfl
  | succ count ih =>
    unfold nextMany? at h
    split at h
    · cases h
    · next token first hnext =>
      obtain ⟨hothers, rfl⟩ := Prod.mk.inj h
      obtain ⟨others, hothers, -⟩ := Option.map_eq_some_iff.mp hothers
      rw [rest_of_next? hnext, List.length_cons, ← ih (Prod.ext hothers rfl), Nat.add_assoc]

theorem length_rest_readFlags_le (cursor : TokenCursor) (instruction : Instruction) :
    (cursor.readFlags instruction).2.rest.length ≤ cursor.rest.length := by
  fun_induction readFlags cursor instruction with
  | case1 => exact Nat.le_refl _
  | case2 => exact Nat.le_refl _
  | case3 cursor instruction flag _ token behind hnext ih =>
    rw [rest_of_next? hnext]
    exact Nat.le_succ_of_le ih

/-- Only one token is put back, and then a command follows that takes an argument. -/
theorem length_rest_expand_le {token : String} {command : Command}
    (h : Command.ofWord? (cursor.expand rules token).1 = some command) :
    (cursor.expand rules token).2.rest.length ≤ cursor.rest.length + command.arity := by
  unfold expand at h ⊢
  cases hcondensed : rules.condensed? token with
  | none => exact Nat.le_add_right _ _
  | some condensed =>
    rw [hcondensed] at h
    obtain ⟨other, hletter⟩ := ReadingRules.exists_letter?_of_condensed? hcondensed
    obtain rfl : other = command :=
      Option.some.inj ((Command.ofWord?_of_letter?_eq_some hletter).symm.trans h)
    rw [Command.arity_of_letter?_eq_some hletter]
    exact Nat.le_refl _

/-- What is put back is read as an argument, so an instruction leaves no more tokens than there were
behind the first of its own. -/
theorem length_rest_readInstruction_le {token : String}
    (h : cursor.readInstruction rules token = (.ok instruction, behind)) :
    behind.rest.length ≤ cursor.rest.length := by
  unfold readInstruction at h
  dsimp only at h
  split at h
  · cases h
  · next command hcommand =>
    split at h
    · cases h
    · next words middle hmany =>
      split at h
      · cases h
      · next arguments _ =>
        obtain ⟨-, rfl⟩ := Prod.mk.inj h
        have hexpand := length_rest_expand_le hcommand
        have harguments := length_rest_nextMany? hmany
        have hflags := length_rest_readFlags_le middle { command, arguments }
        omega

end

def readCommands (rules : ReadingRules) (call : Call) (cursor : TokenCursor) :
    Reading × TokenCursor :=
  match _hnext : cursor.next? with
  | none => (call.finish, cursor)
  | some (token, behind) => match _hread : behind.readInstruction rules token with
    | (.error reason, last) => (.rejected reason, last)
    | (.ok instruction, last) => last.readCommands rules (call.add instruction)
termination_by cursor.rest.length
decreasing_by
  rw [rest_of_next? _hnext]
  exact Nat.lt_succ_of_le (length_rest_readInstruction_le _hread)

/-- The next token, or an empty word when there is none left. -/
def nextWord (cursor : TokenCursor) : String × TokenCursor := cursor.next?.getD ("", cursor)

def readQueued (rules : ReadingRules) (cursor : TokenCursor) : Reading × TokenCursor :=
  let (reference, behind) := cursor.nextWord
  match Argument.identifier? reference with
  | some target => behind.readCommands rules ⟨.enqueue, target, []⟩
  | none => (.rejected (.notReference (Text.upper reference)), behind)

/-- Reads the command to the console behind the system glyph. Nothing may follow it. -/
def readSystem (cursor : TokenCursor) : Reading × TokenCursor :=
  let (issued, behind) := cursor.nextWord
  match SystemCommand.ofWord? issued with
  | none => (.rejected (.notSystemCommand (Text.upper issued)), behind)
  | some command => match behind.next? with
    | some (extra, last) => (.rejected (.notCommand (Text.upper extra)), last)
    | none => (.accepted (.system command), behind)

/-- Reads a whole transmission, and tells where reading ended. -/
@[irreducible] def read (rules : ReadingRules) (cursor : TokenCursor) : Reading × TokenCursor :=
  match cursor.next? with
  | none => (.empty, cursor)
  | some (first, behind) => match Argument.identifier? first with
    | some target => behind.readCommands rules ⟨.execute, target, []⟩
    | none =>
      if first.toList.head? = some rules.glyphs.queue then behind.readQueued rules
      else if first.toList = [rules.glyphs.system] then behind.readSystem
      else (.rejected (.notReference (Text.upper first)), behind)

end TokenCursor

def ReadingRules.read (rules : ReadingRules) (line : String) : Reading :=
  ((TokenCursor.ofTokens (rules.glyphs.tokens line)).read rules).1

end ControlTower
