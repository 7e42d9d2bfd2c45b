import ControlTower.Phraseology.Colouring
import ControlTower.Proofs.Text.Paint

/-!
# Colours change nothing but the looks of a line

A line that is shown in colour is the line itself, once the sequences that choose colours are taken
off it. Every colour is given up again before the next blank, and no sequence stands inside a word,
but for the one place where a control glyph is glued to the first word. Whether this is so is said
without reference to how a line is coloured: a line in colour is made of characters of the line and
of stretches of it between a sequence and the one that resets it, and each of the two stands at a
seam of the line.
-/

namespace ControlTower.Colouring

open Text

variable {glyphs : ControlGlyphs} {first : Bool} {seen word text shown : List Char} {code : String}

/-- Where in a line a sequence may stand, between what of the line is before it and what is behind
it. -/
inductive Seam (glyphs : ControlGlyphs) (before after : List Char) : Prop where
  /-- At the front of a word, or between blanks. -/
  | front (blank : ∀ c ∈ before.getLast?, isBlank c = true)
  /-- At the end of a word, or between blanks. -/
  | back (blank : ∀ c ∈ after.head?, isBlank c = true)
  /-- Right behind a control glyph with which the first word begins. -/
  | glyph {blanks : List Char} {c : Char} (eq : before = blanks ++ [c])
      (blank : ∀ d ∈ blanks, isBlank d = true) (control : glyphs.isControl c = true)

/-- A colour that is on at the front of a text is given up in it, with no blank and no further
sequence before. -/
def Resets (text : List Char) : Prop :=
  ∃ word rest, text = word ++ ((rendition "0").toList ++ rest) ∧
    ∀ c ∈ word, isBlank c = false ∧ c ≠ escape

/-- How a line may be shown in colour: `seen` is what of the line has been shown before, `text` is
the rest of it, and `shown` is how the rest is shown. -/
inductive Coloured (glyphs : ControlGlyphs) : List Char → List Char → List Char → Prop where
  | nil {seen : List Char} : Coloured glyphs seen [] []
  | plain {seen text shown : List Char} {c : Char} (visible : c ≠ escape)
      (rest : Coloured glyphs (seen ++ [c]) text shown) :
      Coloured glyphs seen (c :: text) (c :: shown)
  | painted {seen word text shown : List Char} {code : String} (isCode : IsCode code)
      (solid : ∀ c ∈ word, isBlank c = false ∧ c ≠ escape) (front : Seam glyphs seen (word ++ text))
      (back : Seam glyphs (seen ++ word) text)
      (rest : Coloured glyphs (seen ++ word) text shown) :
      Coloured glyphs seen (word ++ text) ((paint code (String.ofList word)).toList ++ shown)

theorem escape_not_mem (h : ∀ c ∈ word, isBlank c = false ∧ c ≠ escape) : escape ∉ word :=
  fun hmem => (h escape hmem).2 rfl

/-- Without its colours, a line in colour is the line. -/
theorem Coloured.uncoloured_eq (h : Coloured glyphs seen text shown) : uncoloured shown = text := by
  induction h with
  | nil => exact uncoloured_nil
  | plain visible _ ih => rw [uncoloured_cons visible, ih]
  | painted isCode solid _ _ _ ih => rw [uncoloured_paint_append isCode (escape_not_mem solid), ih]

/-- A sequence in a line in colour stands at a seam of the line, and what stands behind it resets
the colour, unless the sequence does so itself. -/
theorem Coloured.at_sequence (h : Coloured glyphs seen text shown) (hcode : IsCode code)
    {before after : List Char} (hshown : shown = before ++ ((rendition code).toList ++ after)) :
    (code ≠ "0" → Resets after) ∧ uncoloured before ++ uncoloured after = text ∧
      Seam glyphs (seen ++ uncoloured before) (uncoloured after) := by
  induction h generalizing before with
  | nil => simp [toList_rendition_append] at hshown
  | @plain seen text shown c visible rest ih =>
    cases before with
    | nil =>
      rw [toList_rendition_append] at hshown
      exact absurd (List.cons.inj hshown).1 visible
    | cons d before =>
      obtain ⟨rfl, htail⟩ := List.cons.inj hshown
      obtain ⟨hresets, htext, hseam⟩ := ih htail
      rw [uncoloured_cons visible]
      exact ⟨hresets, by rw [List.cons_append, htext], by rwa [List.append_cons]⟩
  | @painted seen word text shown _ isCode solid front back rest ih =>
    have hword := escape_not_mem solid
    rcases begins_or_ends_or_behind_of_paint_append isCode hcode hword hshown with
      ⟨rfl, rfl⟩ | ⟨rfl, rfl, rfl⟩ | ⟨middle, rfl, htail⟩
    · have hafter : uncoloured (word ++ ((rendition "0").toList ++ shown)) = word ++ text := by
        rw [uncoloured_append hword, uncoloured_rendition_append isCode_reset, rest.uncoloured_eq]
      rw [hafter, uncoloured_nil, List.append_nil]
      exact ⟨fun _ => ⟨word, shown, rfl, solid⟩, rfl, front⟩
    · have hbefore := uncoloured_append hword []
      rw [List.append_nil, uncoloured_nil, List.append_nil] at hbefore
      rw [uncoloured_rendition_append isCode, hbefore, rest.uncoloured_eq]
      exact ⟨fun hne => absurd rfl hne, rfl, back⟩
    · obtain ⟨hresets, htext, hseam⟩ := ih htail
      rw [uncoloured_paint_append isCode hword]
      exact ⟨hresets, by rw [List.append_assoc, htext], by rwa [← List.append_assoc]⟩

theorem Coloured.plain_append (hword : escape ∉ word)
    (h : Coloured glyphs (seen ++ word) text shown) :
    Coloured glyphs seen (word ++ text) (word ++ shown) := by
  induction word generalizing seen with
  | nil => simpa using h
  | cons c word ih =>
    rw [List.mem_cons, not_or] at hword
    rw [List.append_cons] at h
    exact .plain (Ne.symm hword.1) (ih hword.2 h)

theorem isCode_of_wordCode? {word : String} (h : wordCode? word = some code) : IsCode code := by
  unfold wordCode? at h
  repeat' split at h
  all_goals cases h
  all_goals decide

/-- A word between two seams may be shown in its colour. -/
theorem coloured_paintWord (solid : ∀ c ∈ word, isBlank c = false ∧ c ≠ escape)
    (front : Seam glyphs seen (word ++ text)) (back : Seam glyphs (seen ++ word) text)
    (rest : Coloured glyphs (seen ++ word) text shown) :
    Coloured glyphs seen (word ++ text) (paintWord word ++ shown) := by
  unfold paintWord
  split
  · next hempty =>
    rw [List.isEmpty_iff] at hempty
    subst hempty
    simpa using rest
  · split
    · next code hcode => exact .painted (isCode_of_wordCode? hcode) solid front back rest
    · exact rest.plain_append (escape_not_mem solid)

/-- The first word of a line may have its control glyph in a colour of its own. -/
theorem coloured_paintToken (leading : first = true → ∀ c ∈ seen, isBlank c = true)
    (solid : ∀ c ∈ word, isBlank c = false ∧ c ≠ escape)
    (ahead : ∀ c ∈ seen.getLast?, isBlank c = true) (apart : ∀ c ∈ text.head?, isBlank c = true)
    (rest : Coloured glyphs (seen ++ word) text shown) :
    Coloured glyphs seen (word ++ text) (paintToken glyphs first word ++ shown) := by
  cases word with
  | nil => simpa [paintToken] using rest
  | cons c word =>
    obtain ⟨hc, hword⟩ := List.forall_mem_cons.mp solid
    rw [paintToken]
    split
    · next hglyph =>
      rw [Bool.and_eq_true] at hglyph
      have hseam : Seam glyphs (seen ++ [c]) (word ++ text) :=
        .glyph rfl (leading hglyph.1) hglyph.2
      have hcode : IsCode glyphCode := by decide
      have hsingle : c.toString = String.ofList [c] := by
        rw [← String.toList_inj, Char.toString_eq_singleton, String.toList_singleton,
          String.toList_ofList]
      rw [List.append_cons] at rest
      have hrest := coloured_paintWord hword hseam (.back apart) rest
      have hpainted := Coloured.painted hcode (List.forall_mem_singleton.mpr hc) (.front ahead)
        hseam hrest
      rwa [List.append_assoc, hsingle]
    · exact coloured_paintWord solid (.front ahead) (.back apart) rest

/-- The induction follows the reading of the line, with the word that is going on left open. Where
the first word is still to come, only blanks have been shown. -/
theorem coloured_paintFrom (leading : first = true → ∀ c ∈ seen, isBlank c = true)
    (solid : ∀ c ∈ word, isBlank c = false ∧ c ≠ escape)
    (ahead : ∀ c ∈ seen.getLast?, isBlank c = true) (visible : escape ∉ text) :
    Coloured glyphs seen (word ++ text) (paintFrom glyphs first word text) := by
  induction text generalizing first seen word with
  | nil =>
    rw [paintFrom, ← List.append_nil (paintToken glyphs first word)]
    exact coloured_paintToken leading solid ahead (by simp) .nil
  | cons c text ih =>
    rw [List.mem_cons, not_or] at visible
    rw [paintFrom]
    split
    · next hblank =>
      have hleading : (first && word.isEmpty) = true → ∀ d ∈ seen ++ word ++ [c],
          isBlank d = true := by
        rw [Bool.and_eq_true, List.isEmpty_iff]
        rintro ⟨hfirst, rfl⟩
        rw [List.append_nil, List.forall_mem_append, List.forall_mem_singleton]
        exact ⟨leading hfirst, hblank⟩
      have hrest := ih hleading (List.forall_mem_nil _) (by simpa using hblank) visible.2
      exact coloured_paintToken leading solid ahead (by simpa using hblank)
        (.plain (Ne.symm visible.1) hrest)
    · next hsolid =>
      have hword : ∀ d ∈ word ++ [c], isBlank d = false ∧ d ≠ escape := by
        rw [List.forall_mem_append, List.forall_mem_singleton]
        exact ⟨solid, by simpa using hsolid, Ne.symm visible.1⟩
      rw [List.append_cons]
      exact ih leading hword ahead visible.2

/-- Colouring a line adds nothing to it but colours. Once the sequences are deleted, the line is as
it was. A sequence that is not a reset is followed by a reset before the next blank. Every sequence
stands at a seam of the line: in front of a word or behind it, between blanks, or right behind the
control glyph with which the first word begins. -/
theorem paintLine_only_adds_colour (glyphs : ControlGlyphs) (line : String)
    (visible : escape ∉ line.toList) :
    uncoloured (paintLine glyphs line).toList = line.toList ∧
      ∀ before code after, IsCode code →
        (paintLine glyphs line).toList = before ++ ((rendition code).toList ++ after) →
          (code ≠ "0" → Resets after) ∧ uncoloured before ++ uncoloured after = line.toList ∧
            Seam glyphs (uncoloured before) (uncoloured after) := by
  have hcoloured : Coloured glyphs [] line.toList (paintLine glyphs line).toList := by
    rw [paintLine, String.toList_ofList]
    exact coloured_paintFrom (fun _ => List.forall_mem_nil _) (List.forall_mem_nil _) (by simp)
      visible
  exact ⟨hcoloured.uncoloured_eq, fun before code after hcode hshown =>
    hcoloured.at_sequence hcode hshown⟩

theorem paintLine_only_adds_colour_glued_glyph :
    let line := " .abc1234 h"
    let before := " \x1b[1;33m.\x1b[0m"
    let after := "abc1234\x1b[0m \x1b[32mh\x1b[0m"
    escape ∉ line.toList ∧ IsCode "1;36" ∧
      (paintLine {} line).toList =
        before.toList ++ ((rendition "1;36").toList ++ after.toList) ∧
      uncoloured (paintLine {} line).toList = line.toList ∧ Resets after.toList ∧
      Seam {} (uncoloured before.toList) (uncoloured after.toList) := by
  intro line before after
  have hvisible : escape ∉ line.toList := by decide +kernel
  have hcode : IsCode "1;36" := by decide
  have hshown : (paintLine {} line).toList =
      before.toList ++ ((rendition "1;36").toList ++ after.toList) := by decide +kernel
  obtain ⟨huncoloured, hsequences⟩ := paintLine_only_adds_colour {} line hvisible
  obtain ⟨hresets, -, hseam⟩ := hsequences _ _ _ hcode hshown
  exact ⟨hvisible, hcode, hshown, huncoloured, hresets (by decide), hseam⟩

end ControlTower.Colouring
