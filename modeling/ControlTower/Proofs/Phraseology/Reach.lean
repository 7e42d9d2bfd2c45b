import ControlTower.Proofs.Phraseology.Stages

/-!
# What a list of words comes to

Words are read one after the other, so the stage that several of them lead to is a fold over the
list, which stops at the first word that cannot stand where it does. A cursor leads to the same
stages as the list of what it still has to read: where its tokens are kept does not matter.
-/

namespace ControlTower

variable {rules : ReadingRules} {stage last : Stage} {tokens : List String} {word : String}

namespace Call

variable {call : Call} {command : Command} {given : List String}

theorem finish_ne_empty : call.finish ≠ .empty := by
  unfold finish
  dsimp only
  repeat' split
  all_goals simp

theorem collect_ne_start : call.collect rules command given ≠ .ok .start := by
  unfold collect
  repeat' split
  all_goals simp

theorem begin_ne_start : call.begin rules word ≠ .ok .start := by
  unfold begin
  split
  · simp
  · split
    · exact collect_ne_start
    · simp

end Call

namespace Stage

/-- The stage reached by several words, or why one of them cannot stand where it does. -/
def reach (rules : ReadingRules) (stage : Stage) (tokens : List String) : Except Misreading Stage :=
  tokens.foldlM (step rules) stage

def outcome (rules : ReadingRules) (stage : Stage) (tokens : List String) : Reading :=
  match stage.reach rules tokens with
  | .ok last => last.finish
  | .error reason => .rejected reason

@[simp] theorem reach_nil (rules : ReadingRules) (stage : Stage) :
    stage.reach rules [] = .ok stage := rfl

theorem reach_cons_of_ok {next : Stage} (h : stage.step rules word = .ok next)
    (tokens : List String) : stage.reach rules (word :: tokens) = next.reach rules tokens := by
  rw [reach, List.foldlM_cons, h]
  rfl

theorem reach_cons_of_error {reason : Misreading} (h : stage.step rules word = .error reason)
    (tokens : List String) : stage.reach rules (word :: tokens) = .error reason := by
  rw [reach, List.foldlM_cons, h]
  rfl

theorem reach_append_eq_ok_iff {before after : List String} :
    stage.reach rules (before ++ after) = .ok last ↔
      ∃ middle, stage.reach rules before = .ok middle ∧ middle.reach rules after = .ok last := by
  unfold reach
  rw [List.foldlM_append]
  cases h : before.foldlM (step rules) stage with
  | error reason => simp [bind, Except.bind]
  | ok middle => simp [bind, Except.bind]

theorem reach_append_of_ok {before : List String} (h : stage.reach rules before = .ok last)
    (after : List String) :
    stage.reach rules (before ++ after) = last.reach rules after := by
  unfold reach at h ⊢
  rw [List.foldlM_append, h]
  rfl

theorem reach_singleton (rules : ReadingRules) (stage : Stage) (word : String) :
    stage.reach rules [word] = stage.step rules word := by
  cases h : stage.step rules word with
  | ok next => rw [reach_cons_of_ok h, reach_nil]
  | error reason => exact reach_cons_of_error h []

theorem outcome_eq_accepted_iff {transmission : Transmission} :
    stage.outcome rules tokens = .accepted transmission ↔
      ∃ last, stage.reach rules tokens = .ok last ∧ last.finish = .accepted transmission := by
  unfold outcome
  cases stage.reach rules tokens with
  | ok last => simp
  | error reason => simp

theorem step_ne_start : stage.step rules word ≠ .ok .start := by
  cases stage with
  | start | afterQueueGlyph | afterSystemGlyph =>
    simp only [step]
    repeat' split
    all_goals simp
  | system command => simp [step]
  | addressed call => exact Call.begin_ne_start
  | arguments call command given => exact Call.collect_ne_start
  | flags call latest =>
    simp only [step]
    split
    · simp
    · exact Call.begin_ne_start

theorem finish_eq_empty_iff : stage.finish = .empty ↔ stage = .start := by
  cases stage <;> simp [finish, Call.finish_ne_empty]

/-- Only by saying nothing is nothing said. -/
theorem outcome_start_eq_empty_iff : outcome rules .start tokens = .empty ↔ tokens = [] := by
  constructor
  · intro h
    rcases List.eq_nil_or_concat tokens with hnil | ⟨before, word, rfl⟩
    · exact hnil
    · unfold outcome at h
      split at h
      · next last hlast =>
        rw [List.concat_eq_append] at hlast
        obtain ⟨middle, -, hstep⟩ := reach_append_eq_ok_iff.mp hlast
        rw [reach_singleton, finish_eq_empty_iff.mp h] at hstep
        exact absurd hstep step_ne_start
      · cases h
  · rintro rfl
    rfl

end Stage

namespace TokenCursor

theorem rest_of_next?_eq_none {cursor : TokenCursor} (h : cursor.next? = none) :
    cursor.rest = [] := by
  have hm := cursor.map_next?
  rw [h, Option.map_none, eq_comm, Option.map_eq_none_iff] at hm
  exact List.head?_eq_none_iff.mp hm

/-- What a cursor leads to is what the words lead to that it has still to read. -/
theorem fst_readFrom (rules : ReadingRules) (stage : Stage) (cursor : TokenCursor) :
    (cursor.readFrom rules stage).1 = stage.outcome rules cursor.rest := by
  fun_induction readFrom rules stage cursor with
  | case1 stage cursor hnext =>
    rw [rest_of_next?_eq_none hnext]
    rfl
  | case2 stage cursor token behind hnext next hstep ih =>
    rw [ih, rest_of_next? hnext, Stage.outcome, Stage.outcome, Stage.reach_cons_of_ok hstep]
  | case3 stage cursor token behind hnext reason hstep =>
    rw [rest_of_next? hnext, Stage.outcome, Stage.reach_cons_of_error hstep]

@[simp] theorem rest_ofTokens (tokens : List String) : (ofTokens tokens).rest = tokens := rfl

theorem fst_read_ofTokens (rules : ReadingRules) (tokens : List String) :
    ((ofTokens tokens).read rules).1 = Stage.outcome rules .start tokens := by
  rw [read_eq_readFrom, fst_readFrom, rest_ofTokens]

end TokenCursor

/-- A line means what its tokens come to. -/
theorem ReadingRules.read_eq_outcome (rules : ReadingRules) (line : String) :
    rules.read line = Stage.outcome rules .start (rules.glyphs.tokens line) :=
  TokenCursor.fst_read_ofTokens rules _

end ControlTower
