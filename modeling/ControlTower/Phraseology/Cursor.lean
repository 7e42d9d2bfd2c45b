/-!
# A position in a sequence of tokens

A cursor reads a sequence of tokens from front to back. A token may be put back; it is then read
before what remains of the sequence. All that matters for what is read later is the list
`TokenCursor.rest`: the tokens put back, the latest first, and after them the unread tokens of the
sequence.
-/

namespace ControlTower

structure TokenCursor where
  tokens : List String
  /-- How many tokens of the sequence have been read. -/
  position : Nat
  /-- The tokens put back, the latest first. -/
  returned : List String
deriving Repr, DecidableEq

namespace TokenCursor

def ofTokens (tokens : List String) : TokenCursor := ⟨tokens, 0, []⟩

def rest (cursor : TokenCursor) : List String :=
  cursor.returned ++ cursor.tokens.drop cursor.position

def next? (cursor : TokenCursor) : Option (String × TokenCursor) :=
  match cursor.returned with
  | token :: returned => some (token, { cursor with returned })
  | [] => (cursor.tokens[cursor.position]?).map fun token =>
      (token, { cursor with position := cursor.position + 1 })

def peek? (cursor : TokenCursor) : Option String :=
  cursor.returned.head?.or (cursor.tokens[cursor.position]?)

/-- The position at which `token` is read next. -/
def putBack (cursor : TokenCursor) (token : String) : TokenCursor :=
  { cursor with returned := token :: cursor.returned }

def isExhausted (cursor : TokenCursor) : Bool :=
  cursor.returned.isEmpty && cursor.position == cursor.tokens.length

theorem map_next? (cursor : TokenCursor) :
    cursor.next?.map (fun read => (read.1, read.2.rest)) =
      cursor.rest.head?.map fun token => (token, cursor.rest.tail) := by
  unfold next? rest
  cases hr : cursor.returned with
  | cons token returned => simp
  | nil =>
    by_cases hp : cursor.position < cursor.tokens.length
    · rw [List.drop_eq_getElem_cons hp]
      simp [hp]
    · have hlen := Nat.le_of_not_lt hp
      simp [List.getElem?_eq_none hlen, List.drop_eq_nil_of_le hlen]

theorem rest_of_next? {cursor behind : TokenCursor} {token : String}
    (h : cursor.next? = some (token, behind)) : cursor.rest = token :: behind.rest := by
  have hm := cursor.map_next?
  rw [h] at hm
  cases hr : cursor.rest with
  | nil => simp [hr] at hm
  | cons first others =>
    simp only [hr, Option.map_some, List.head?_cons, List.tail_cons, Option.some.injEq,
      Prod.mk.injEq] at hm
    rw [hm.1, hm.2]

end TokenCursor

end ControlTower
