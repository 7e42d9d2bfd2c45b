import ControlTower.Desk.Completion
import ControlTower.Proofs.Phraseology.Retyping

/-!
# What the finished words say about the next one

An unfinished line is a single word, or a word behind a blank. A word that stands alone is told by
the character at the start of the line. What kind of word stands behind a blank depends on that
character and on the words that are finished; how much of the word there is does not matter.
-/

namespace ControlTower.Completion

/-- The kind of the word behind finished words, in a line that begins with the given character. -/
def poolBehind? (glyphs : ControlGlyphs) (first? : Option Char) (finished : List String) :
    Option Pool :=
  if first? = some glyphs.system then some .systemCommands
  else if finished.length = 1 ∧ first? = some glyphs.queue then some .aircraft
  else match finished.reverse with
    | [] => none
    | latest :: earlier => poolAfter? finished latest earlier.head?

def poolAlone (glyphs : ControlGlyphs) (first? : Option Char) : Pool :=
  if first? = some glyphs.system then .systemCommands else .aircraft

theorem typedWords_of_solid {text : String} (h : ∀ c ∈ text.toList, Text.isBlank c = false) :
    typedWords text = [text] := by
  rw [typedWords, Text.words_eq_map_wordsOf]
  by_cases hempty : text.toList = []
  · rw [hempty, String.toList_eq_nil_iff.mp hempty]
    rfl
  · obtain ⟨c, hc⟩ := Option.ne_none_iff_exists'.mp (mt List.getLast?_eq_none_iff.mp hempty)
    have hlast := h c (List.mem_of_getLast? hc)
    simp [Text.wordsOf_of_solid hempty h, hc, hlast]

theorem typedWords_of_behind {before word : List Char} {c : Char} (blank : Text.isBlank c = true)
    (solid : ∀ d ∈ word, Text.isBlank d = false) :
    typedWords (String.ofList (before ++ c :: word)) =
      Text.words (String.ofList before) ++ [String.ofList word] := by
  have hlast : (before ++ c :: word).getLast? = some ((c :: word).getLast (by simp)) := by
    rw [List.getLast?_append_of_ne_nil _ (by simp), List.getLast?_eq_some_getLast]
  rw [typedWords, Text.words_eq_map_wordsOf, Text.words_eq_map_wordsOf, String.toList_ofList,
    String.toList_ofList, Text.wordsOf_append_blank blank, hlast]
  by_cases hempty : word = []
  · simp [hempty, blank]
  · have hsolid := solid _ (List.getLast_mem hempty)
    simp [Text.wordsOf_of_solid hempty solid, List.getLast_cons hempty, hsolid]

/-- The words of a text in lower case, without the one that is being typed. -/
def finishedWords (text : String) : List String := (typedWords (Text.lower text)).dropLast

theorem finishedWords_of_solid {text : String} (h : ∀ c ∈ text.toList, Text.isBlank c = false) :
    finishedWords text = [] := by
  have hsolid : ∀ c ∈ (Text.lower text).toList, Text.isBlank c = false := by
    rw [Text.lower, String.toList_ofList]
    exact Text.lowerFrom_solid h false
  rw [finishedWords, typedWords_of_solid hsolid]
  rfl

theorem typedWords_lower_of_behind {text : String} {before word : List Char} {c : Char}
    (htext : text.toList = before ++ c :: word) (blank : Text.isBlank c = true)
    (solid : ∀ d ∈ word, Text.isBlank d = false) :
    typedWords (Text.lower text) =
      Text.words (Text.lower (String.ofList before)) ++ [Text.lower (String.ofList word)] := by
  rw [Text.lower, htext, Text.lowerFrom_append_of_apart (by simpa using blank),
    Text.lowerFrom_cons_blank blank, typedWords_of_behind blank (Text.lowerFrom_solid solid false),
    Text.lower, Text.lower, String.toList_ofList, String.toList_ofList]

theorem finishedWords_of_behind {text : String} {before word : List Char} {c : Char}
    (htext : text.toList = before ++ c :: word) (blank : Text.isBlank c = true)
    (solid : ∀ d ∈ word, Text.isBlank d = false) :
    finishedWords text = Text.words (Text.lower (String.ofList before)) := by
  rw [finishedWords, typedWords_lower_of_behind htext blank solid, List.dropLast_concat]

/-- The word that is being typed does not matter for its kind: an identifier is looked for among the
first two words only when two words are finished. -/
theorem poolAfter?_append_typed {finished earlier : List String} {latest : String}
    (h : finished.reverse = latest :: earlier) (typed : String) :
    poolAfter? (finished ++ [typed]) latest earlier.head? =
      poolAfter? finished latest earlier.head? := by
  cases earlier with
  | nil => rfl
  | cons second others =>
    have hlength : 2 ≤ finished.length := by
      rw [← List.length_reverse, h]
      simp
    simp only [poolAfter?, List.take_append_of_le_length hlength]

section

variable {glyphs : ControlGlyphs} {line : String}

theorem head?_lower_eq_system_iff (hglyphs : glyphs.Apart) :
    (Text.lower line).toList.head? = some glyphs.system ↔
      line.toList.head? = some glyphs.system :=
  Text.head?_lower_eq_some_iff (hglyphs _ (by simp [ControlGlyphs.isControl])).1

theorem head?_lower_eq_queue_iff (hglyphs : glyphs.Apart) :
    (Text.lower line).toList.head? = some glyphs.queue ↔
      line.toList.head? = some glyphs.queue :=
  Text.head?_lower_eq_some_iff (hglyphs _ (by simp [ControlGlyphs.isControl])).1

theorem fragment?_of_solid (hglyphs : glyphs.Apart)
    (h : ∀ c ∈ line.toList, Text.isBlank c = false) :
    fragment? glyphs line =
      some { pool := poolAlone glyphs line.toList.head?, typed := Text.lower line } := by
  have hsolid : ∀ c ∈ (Text.lower line).toList, Text.isBlank c = false := by
    rw [Text.lower, String.toList_ofList]
    exact Text.lowerFrom_solid h false
  unfold fragment?
  simp only [typedWords_of_solid hsolid, List.reverse_singleton,
    head?_lower_eq_system_iff hglyphs, or_true, if_true]
  rw [poolAlone]
  split <;> rfl

theorem fragment?_of_typedWords {finished : List String} {typed : String}
    (h : typedWords (Text.lower line) = finished ++ [typed]) (hnot : typed ≠ Text.lower line) :
    fragment? glyphs line =
      (poolBehind? glyphs (Text.lower line).toList.head? finished).map fun pool =>
        { pool, typed } := by
  unfold fragment? poolBehind?
  simp only [h, List.reverse_append, List.reverse_singleton, List.singleton_append, hnot, or_false,
    List.length_append, List.length_singleton, Nat.reduceEqDiff]
  cases hwords : finished.reverse with
  | nil => rfl
  | cons latest earlier => simp only [poolAfter?_append_typed hwords]

theorem fragment?_of_behind (hglyphs : glyphs.Apart) {before word : List Char} {c : Char}
    (hline : line.toList = before ++ c :: word) (blank : Text.isBlank c = true)
    (solid : ∀ d ∈ word, Text.isBlank d = false) :
    fragment? glyphs line =
      (poolBehind? glyphs line.toList.head? (Text.words (Text.lower (String.ofList before)))).map
        fun pool => { pool, typed := Text.lower (String.ofList word) } := by
  have hnot : Text.lower (String.ofList word) ≠ Text.lower line := by
    intro heq
    have hlength := congrArg (fun text : String => text.toList.length) heq
    rw [Text.lower, Text.lower, hline, Text.lowerFrom_append_of_apart (by simpa using blank),
      Text.lowerFrom_cons_blank blank] at hlength
    simp only [String.toList_ofList, List.length_append, List.length_cons] at hlength
    omega
  rw [fragment?_of_typedWords (typedWords_lower_of_behind hline blank solid) hnot]
  simp only [poolBehind?, head?_lower_eq_system_iff hglyphs, head?_lower_eq_queue_iff hglyphs]

end

end ControlTower.Completion
