import ControlTower.Proofs.Phraseology.Reach

/-!
# A cursor is the list it has still to read

However tokens have been read and put back, all that can be observed of a cursor is the list of the
tokens still to be read: the one that is read next is the first of the list, a token that is put back
becomes the first, and the cursor is exhausted when the list is empty. For the last alone it has to
be known that the position never lies behind the end of the sequence.

A transmission is read token by token. What it means, and which tokens are left behind it, depend on
the list therefore, and not on where its tokens are kept.
-/

namespace ControlTower.TokenCursor

variable {rules : ReadingRules} {stage : Stage} {tokens : List String} {token : String}
  {cursor behind : TokenCursor}

/-- The cursors that come about when tokens of a sequence are read and others are put back, in any
order. -/
inductive Reachable (tokens : List String) : TokenCursor → Prop where
  | start : Reachable tokens (ofTokens tokens)
  | next {cursor behind : TokenCursor} {token : String} (h : Reachable tokens cursor)
      (read : cursor.next? = some (token, behind)) : Reachable tokens behind
  | putBack {cursor : TokenCursor} (h : Reachable tokens cursor) (token : String) :
      Reachable tokens (cursor.putBack token)

@[simp] theorem rest_putBack (cursor : TokenCursor) (token : String) :
    (cursor.putBack token).rest = token :: cursor.rest := rfl

theorem peek?_eq_head?_rest (cursor : TokenCursor) : cursor.peek? = cursor.rest.head? := by
  rw [peek?, rest, List.head?_append, List.head?_drop]

theorem next?_eq_none_of_rest (h : cursor.rest = []) : cursor.next? = none := by
  simpa [h] using cursor.map_next?

theorem exists_next?_of_rest {others : List String} (h : cursor.rest = token :: others) :
    ∃ behind, cursor.next? = some (token, behind) ∧ behind.rest = others := by
  have hmap := cursor.map_next?
  rw [h, List.head?_cons, Option.map_some, Option.map_eq_some_iff] at hmap
  obtain ⟨⟨_, behind⟩, hnext, hread⟩ := hmap
  obtain ⟨rfl, rfl⟩ := Prod.mk.inj hread
  exact ⟨behind, hnext, rfl⟩

theorem position_le_of_next? (h : cursor.next? = some (token, behind))
    (hle : cursor.position ≤ cursor.tokens.length) : behind.position ≤ behind.tokens.length := by
  unfold next? at h
  split at h
  · cases h
    exact hle
  · obtain ⟨read, hread, hbehind⟩ := Option.map_eq_some_iff.mp h
    cases hbehind
    exact (List.getElem?_eq_some_iff.mp hread).1

theorem Reachable.position_le (h : Reachable tokens cursor) :
    cursor.position ≤ cursor.tokens.length := by
  induction h with
  | start => exact Nat.zero_le _
  | next _ read ih => exact position_le_of_next? read ih
  | putBack _ _ ih => exact ih

theorem isExhausted_iff (hle : cursor.position ≤ cursor.tokens.length) :
    cursor.isExhausted = true ↔ cursor.rest = [] := by
  rw [isExhausted, rest, Bool.and_eq_true, List.isEmpty_iff, beq_iff_eq, List.append_eq_nil_iff,
    List.drop_eq_nil_iff]
  exact and_congr_right fun _ => ⟨fun heq => Nat.le_of_eq heq.symm, Nat.le_antisymm hle⟩

/-- Two cursors with the same tokens still to be read lead to the same, and leave the same tokens
to be read. -/
theorem readFrom_congr (rules : ReadingRules) (stage : Stage) {first second : TokenCursor}
    (h : first.rest = second.rest) :
    (first.readFrom rules stage).1 = (second.readFrom rules stage).1 ∧
      (first.readFrom rules stage).2.rest = (second.readFrom rules stage).2.rest := by
  induction hrest : first.rest generalizing stage first second with
  | nil =>
    rw [readFrom_of_next?_eq_none (next?_eq_none_of_rest hrest),
      readFrom_of_next?_eq_none (next?_eq_none_of_rest (h.symm.trans hrest))]
    exact ⟨rfl, h⟩
  | cons token others ih =>
    obtain ⟨firstBehind, hfirst, hothers⟩ := exists_next?_of_rest hrest
    obtain ⟨secondBehind, hsecond, hothers'⟩ := exists_next?_of_rest (h.symm.trans hrest)
    rw [readFrom_of_next? hfirst, readFrom_of_next? hsecond]
    cases stage.step rules token with
    | ok next => exact ih next (hothers.trans hothers'.symm) hothers
    | error reason => exact ⟨rfl, hothers.trans hothers'.symm⟩

/-- Nothing is left to be read behind a transmission that is accepted. -/
theorem rest_readFrom_of_accepted {transmission : Transmission}
    (h : (cursor.readFrom rules stage).1 = .accepted transmission) :
    (cursor.readFrom rules stage).2.rest = [] := by
  fun_induction readFrom rules stage cursor with
  | case1 stage cursor hnext => exact rest_of_next?_eq_none hnext
  | case2 stage cursor token behind hnext next hstep ih => exact ih h
  | case3 stage cursor token behind hnext reason hstep => cases h

theorem Reachable.readFrom (h : Reachable tokens cursor) (rules : ReadingRules) (stage : Stage) :
    Reachable tokens (cursor.readFrom rules stage).2 := by
  fun_induction TokenCursor.readFrom rules stage cursor with
  | case1 stage cursor hnext => exact h
  | case2 stage cursor token behind hnext next hstep ih => exact ih (h.next hnext)
  | case3 stage cursor token behind hnext reason hstep => exact h.next hnext

/-- A cursor that came about by reading and putting back tokens is the list of the tokens still to
be read, as far as can be observed, and its position is never behind the end of the sequence. A
transmission read from it means what it means when read from a new cursor over the list and leaves
the same tokens to be read, which are none if it is accepted. -/
theorem cursor_is_rest (tokens : List String) (cursor : TokenCursor)
    (h : Reachable tokens cursor) (rules : ReadingRules) :
    (cursor.next?.map fun read => (read.1, read.2.rest)) =
        (cursor.rest.head?.map fun token => (token, cursor.rest.tail)) ∧
      (∀ token, (cursor.putBack token).rest = token :: cursor.rest) ∧
      cursor.peek? = cursor.rest.head? ∧
      (cursor.isExhausted = true ↔ cursor.rest = []) ∧
      cursor.position ≤ cursor.tokens.length ∧
      (cursor.read rules).1 = ((ofTokens cursor.rest).read rules).1 ∧
      (cursor.read rules).2.rest = ((ofTokens cursor.rest).read rules).2.rest ∧
      ∀ transmission, (cursor.read rules).1 = .accepted transmission →
        (cursor.read rules).2.isExhausted = true := by
  have hfresh : cursor.rest = (ofTokens cursor.rest).rest := (rest_ofTokens _).symm
  obtain ⟨hmeaning, hleft⟩ := readFrom_congr rules .start hfresh
  simp only [read_eq_readFrom]
  refine ⟨cursor.map_next?, cursor.rest_putBack, cursor.peek?_eq_head?_rest,
    isExhausted_iff h.position_le, h.position_le, hmeaning, hleft, fun transmission haccepted => ?_⟩
  exact (isExhausted_iff (h.readFrom rules .start).position_le).mpr
    (rest_readFrom_of_accepted haccepted)

/-- A token of the sequence has been read, and two others have been put back before the last. -/
theorem cursor_is_rest_two_put_back :
    let cursor : TokenCursor := ⟨["h", "x"], 1, ["abc1234", "h090"]⟩
    let heading : Instruction :=
      { command := .heading, arguments := [.number 90], flags := [.expedite] }
    Reachable ["h", "x"] cursor ∧ cursor.rest = ["abc1234", "h090", "x"] ∧
      cursor.peek? = some "abc1234" ∧ cursor.isExhausted = false ∧
      (cursor.read {}).1 = .accepted (.aircraft .execute "ABC1234" [heading]) ∧
      (cursor.read {}).2.isExhausted = true := by
  intro cursor heading
  have hread : Reachable ["h", "x"] ⟨["h", "x"], 1, []⟩ := .next .start rfl
  have hcursor : Reachable ["h", "x"] cursor := (hread.putBack "h090").putBack "abc1234"
  obtain ⟨-, -, hpeek, hexhausted, -, hmeaning, -, haccepted⟩ :=
    cursor_is_rest ["h", "x"] cursor hcursor {}
  have hfresh : ((ofTokens cursor.rest).read {}).1 =
      .accepted (.aircraft .execute "ABC1234" [heading]) := by
    rw [fst_read_ofTokens]
    decide +kernel
  have hnot : cursor.isExhausted = false :=
    Bool.eq_false_iff.mpr fun h => List.cons_ne_nil _ _ (hexhausted.mp h)
  exact ⟨hcursor, rfl, hpeek, hnot, hmeaning.trans hfresh, haccepted _ (hmeaning.trans hfresh)⟩

end ControlTower.TokenCursor
