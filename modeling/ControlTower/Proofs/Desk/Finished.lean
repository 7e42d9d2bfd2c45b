import ControlTower.Proofs.Desk.Context
import ControlTower.Proofs.Phraseology.LastWords

/-!
# What is offered behind a finished transmission

Behind a transmission that is accepted as it stands, only a flag or another command can follow. What
is offered there is told from the last two words, and these are mistaken for a command that waits
for its arguments when one of them is the letter `l`. It spells the flag of a long turn, that of
giving up what was queued last, and left; it is taken for a command to land, unless it is the last
word and stands behind a command to circle.
-/

namespace ControlTower

def Pool.IsArgument : Pool → Prop
  | .airports | .beacons | .runways _ => True
  | .systemCommands | .aircraft | .commands => False

namespace Completion

variable {words : List String} {second latest : String}

theorem land_isSpelled_eq {word : String} (h : Command.land.isSpelled word = true → word = "l") :
    Command.land.isSpelled word = decide (word = "l") := by
  rw [Bool.eq_iff_iff, decide_eq_true_eq]
  refine ⟨h, ?_⟩
  rintro rfl
  decide

/-- Behind the last words of a transmission airports and runways are offered only because of the
letter `l`, and beacons never. -/
theorem poolAfter?_of_endsLike (h : EndsLike words second latest) (all : List String) :
    poolAfter? all latest (some second) =
      if latest = "l" ∧ second ∉ Command.circle.spellings then some .airports
      else if second = "l" then some (.runways (Text.upper latest))
      else if (all.take 2).any Argument.isIdentifier && !Command.isCanonical latest then
        some .commands
      else none := by
  simp only [poolAfter?, h.latest.not_identifier, h.latest.not_heading, Option.any_some,
    land_isSpelled_eq h.latest.land, land_isSpelled_eq h.second, Bool.false_eq_true, if_false,
    Bool.and_eq_true, Bool.not_eq_true', decide_eq_true_eq]
  have hcircle : Command.circle.isSpelled second = false ↔ second ∉ Command.circle.spellings := by
    rw [Command.isSpelled, List.contains_eq_mem, decide_eq_false_iff_not]
  simp only [hcircle]

/-- Behind a blank at the end of a line, all its words are finished. -/
theorem fragment?_append_blank {glyphs : ControlGlyphs} (hglyphs : glyphs.Apart) {line : String}
    (hsystem : line.toList.head? ≠ some glyphs.system)
    (h : EndsLike (Text.words (Text.lower line)) second latest) :
    (fragment? glyphs (line ++ " ")).map Fragment.pool =
      poolAfter? (Text.words (Text.lower line)) latest (some second) := by
  obtain ⟨before, hbefore⟩ := h.isSuffix
  have hne : line.toList ≠ [] := by
    intro hempty
    rw [Text.lower, hempty] at hbefore
    simp [Text.words_eq_map_wordsOf, Text.lowerFrom] at hbefore
  have hline : (line ++ " ").toList = line.toList ++ ' ' :: [] := String.toList_append
  have hhead : (line ++ " ").toList.head? = line.toList.head? := by
    rw [hline, List.head?_append_of_ne_nil _ hne]
  have hreverse : (Text.words (Text.lower line)).reverse = latest :: second :: before.reverse := by
    rw [← hbefore, List.reverse_append]
    rfl
  have hlength : (Text.words (Text.lower line)).length ≠ 1 := by
    rw [← hbefore]
    simp
  rw [fragment?_of_behind hglyphs hline (by decide) (List.forall_mem_nil _), Option.map_map, hhead,
    String.ofList_toList, poolBehind?, if_neg hsystem, if_neg (fun hone => hlength hone.1),
    hreverse]
  exact Option.map_id'

/-- No argument is offered behind a finished transmission unless one of its last two words is an
`l`: airports are offered behind an `l` that does not follow a command to circle, and runways behind
any other word that follows an `l`. -/
theorem offered_behind_accepted (rules : ReadingRules) (check : rules.check = .ok ())
    (line target : String) (mode : Mode) (instructions : List Instruction)
    (h : rules.read line = .accepted (.aircraft mode target instructions)) :
    let words := Text.words (Text.lower line)
    let offered := (fragment? rules.glyphs (line ++ " ")).map Fragment.pool
    offered ≠ some .beacons ∧
      (offered = some .airports ↔
        ∃ second, [second, "l"] <:+ words ∧ second ∉ Command.circle.spellings) ∧
      (∀ airport, offered = some (.runways airport) ↔
        ∃ latest, ["l", latest] <:+ words ∧ latest ≠ "l" ∧ airport = Text.upper latest) ∧
      ((∀ pool, offered = some pool → ¬ pool.IsArgument) ↔
        (∀ second, [second, "l"] <:+ words → second ∈ Command.circle.spellings) ∧
          ∀ latest, ["l", latest] <:+ words → latest = "l") := by
  intro words offered
  obtain ⟨hsystem, haddressed⟩ := ReadingRules.addressed_of_read check h
  obtain ⟨second, latest, hends⟩ := haddressed.exists_endsLike
  have hoffered : offered = _ :=
    (fragment?_append_blank (ReadingRules.glyphs_of_check check).2 hsystem hends).trans
      (poolAfter?_of_endsLike hends words)
  have hlast : ∀ a b, [a, b] <:+ words ↔ a = second ∧ b = latest := fun _ _ => hends.isSuffix_iff
  have hairports : (∃ a, [a, "l"] <:+ words ∧ a ∉ Command.circle.spellings) ↔
      latest = "l" ∧ second ∉ Command.circle.spellings := by
    simp only [hlast, and_assoc, exists_eq_left, eq_comm (a := "l")]
  have hrunways : ∀ airport,
      (∃ b, ["l", b] <:+ words ∧ b ≠ "l" ∧ airport = Text.upper b) ↔
        second = "l" ∧ latest ≠ "l" ∧ airport = Text.upper latest := by
    intro airport
    simp only [hlast, and_assoc, exists_and_left, exists_eq_left, eq_comm (a := "l")]
  have hnone : ((∀ a, [a, "l"] <:+ words → a ∈ Command.circle.spellings) ∧
      ∀ b, ["l", b] <:+ words → b = "l") ↔
        (latest = "l" → second ∈ Command.circle.spellings) ∧ (second = "l" → latest = "l") := by
    simp only [hlast]
    constructor
    · rintro ⟨hland, hrunway⟩
      exact ⟨fun heq => hland second ⟨rfl, heq.symm⟩, fun heq => hrunway latest ⟨heq.symm, rfl⟩⟩
    · rintro ⟨hland, hrunway⟩
      constructor
      · rintro a ⟨rfl, heq⟩
        exact hland heq.symm
      · rintro b ⟨heq, rfl⟩
        exact hrunway heq.symm
  simp only [hoffered, hairports, hrunways, hnone]
  have hcircle : "l" ∉ Command.circle.spellings := by decide
  split
  · next hland => simp [hland, Pool.IsArgument]
  · next hland =>
    have hcircling : latest = "l" → second ∈ Command.circle.spellings := by simpa using hland
    split
    · next hsecond =>
      have hlatest : latest ≠ "l" := fun hlatest => hland ⟨hlatest, hsecond ▸ hcircle⟩
      simp [hsecond, hlatest, eq_comm, Pool.IsArgument]
    · next hsecond => split <;> simpa [hland, hsecond, Pool.IsArgument] using hcircling

/-- Airports are offered behind a long turn. -/
theorem not_arguments_refused_behind_accepted :
    ¬ ∀ rules : ReadingRules, rules.check = .ok () → ∀ line mode target instructions,
      rules.read line = .accepted (.aircraft mode target instructions) →
        ∀ fragment, fragment? rules.glyphs (line ++ " ") = some fragment →
          ¬ fragment.pool.IsArgument := by
  intro h
  have hread : ({} : ReadingRules).read "abc1234 heading 090 l" =
      .accepted (.aircraft .execute "ABC1234"
        [{ command := .heading, arguments := [.number 90], flags := [.longTurn] }]) := by
    rw [ReadingRules.read_eq_outcome]
    decide +kernel
  have hfragment : fragment? ({} : ReadingRules).glyphs ("abc1234 heading 090 l" ++ " ") =
      some { pool := .airports, typed := "" } := by
    decide +kernel
  exact h {} (by decide +kernel) _ _ _ _ hread _ hfragment trivial

/-- The altitude is taken for a runway, since left is taken for a command to land. -/
theorem offered_behind_accepted_circle :
    let line := "abc1234 circle l a50"
    let words := Text.words (Text.lower line)
    ({} : ReadingRules).read line =
        .accepted (.aircraft .execute "ABC1234"
          [{ command := .circle, arguments := [.text "l"] },
            { command := .altitude, arguments := [.number 5000] }]) ∧
      words = ["abc1234", "circle", "l", "a50"] ∧
      (fragment? {} (line ++ " ")).map Fragment.pool = some (.runways "A50") := by
  intro line words
  have hread : ({} : ReadingRules).read line =
      .accepted (.aircraft .execute "ABC1234"
        [{ command := .circle, arguments := [.text "l"] },
          { command := .altitude, arguments := [.number 5000] }]) := by
    rw [ReadingRules.read_eq_outcome]
    decide +kernel
  have hwords : words = ["abc1234", "circle", "l", "a50"] := by decide +kernel
  obtain ⟨-, -, hrunways, -⟩ := offered_behind_accepted {} (by decide +kernel) line _ _ _ hread
  refine ⟨hread, hwords, (hrunways "A50").mpr ⟨"a50", ?_, by decide, by decide +kernel⟩⟩
  exact ⟨["abc1234", "circle"], hwords.symm⟩

end Completion

end ControlTower
