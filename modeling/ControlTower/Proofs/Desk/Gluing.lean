import ControlTower.Proofs.Desk.Completion
import ControlTower.Proofs.Desk.Context
import ControlTower.Proofs.Phraseology.LastWords

/-!
# Glyphs that are glued to a word

Before a line is read, a glyph at its start is set apart from what is glued to it. When a line is
completed this is not done: the glyph remains a part of its word. It is worked out here what
becomes of such lines, and for which of them this makes no difference.
-/

namespace ControlTower

/-- A line begins with a control glyph, and a text is glued to it. -/
structure ControlGlyphs.Glued (glyphs : ControlGlyphs) (line : String) (glyph : Char)
    (text : String) : Prop where
  control : glyphs.isControl glyph = true
  eq : line.toList = glyph :: text.toList
  solid : ∃ c, text.toList.head? = some c ∧ Text.isBlank c = false

variable {glyphs : ControlGlyphs} {line text : String} {glyph : Char}

theorem ControlGlyphs.Glued.toList_separated (h : glyphs.Glued line glyph text) :
    (glyphs.separated line).toList = glyph :: ' ' :: text.toList := by
  obtain ⟨c, hc, hsolid⟩ := h.solid
  obtain ⟨rest, hrest⟩ := List.head?_eq_some_iff.mp hc
  rw [separated, String.toList_ofList, h.eq, hrest]
  simp [separate, h.control, hsolid]

theorem ControlGlyphs.Glued.head?_lower (h : glyphs.Glued line glyph text)
    (hglyph : Text.isAlphanumeric glyph = false) :
    (Text.lower line).toList.head? = some glyph := by
  rw [Text.head?_lower_eq_some_iff hglyph, h.eq]
  rfl

theorem ControlGlyphs.separated_of_not_glued (h : ∀ glyph text, ¬ glyphs.Glued line glyph text) :
    glyphs.separated line = line := by
  apply String.toList_injective
  rw [separated, String.toList_ofList]
  rcases hline : line.toList with _ | ⟨glyph, _ | ⟨next, rest⟩⟩
  · rfl
  · rfl
  · by_cases hglued : (glyphs.isControl glyph && !Text.isBlank next) = true
    · rw [Bool.and_eq_true, Bool.not_eq_true'] at hglued
      have htext : line.toList = glyph :: (String.ofList (next :: rest)).toList := by
        rw [hline, String.toList_ofList]
      exact absurd ⟨hglued.1, htext, next, by rw [String.toList_ofList]; rfl, hglued.2⟩ (h _ _)
    · rw [separate, if_neg hglued]

namespace Completion

variable {name : String} {others : List String}

/-- A text that is glued to a glyph is a single word, or its first word is finished. -/
theorem solid_or_behind_of_glued (hglyphs : glyphs.Apart) (h : glyphs.Glued line glyph text) :
    (∀ c ∈ text.toList, Text.isBlank c = false) ∨
      ∃ before c word first others, text.toList = before ++ c :: word ∧
        Text.isBlank c = true ∧ (∀ d ∈ word, Text.isBlank d = false) ∧
        Text.wordsOf before = first :: others ∧
        Text.wordsOf (glyph :: before) = (glyph :: first) :: others := by
  obtain ⟨e, he, hsolid⟩ := h.solid
  have hends := Text.endsWith_lastWord text.toList
  generalize Text.lastWord text.toList = word at hends
  generalize text.toList = chars at hends he ⊢
  cases hends with
  | only solid => exact .inl solid
  | @behind before c word blank solid =>
    have hbefore : before.head? = some e := by
      cases before with
      | nil =>
        obtain rfl : c = e := Option.some.inj he
        rw [blank] at hsolid
        cases hsolid
      | cons d before => exact he
    obtain ⟨first, others, hwords, hglued⟩ :=
      Text.exists_wordsOf_glued (hglyphs glyph h.control).2 hbefore hsolid
    exact .inr ⟨before, c, word, first, others, rfl, blank, solid, hwords, hglued⟩

/-- Behind a glyph that stands alone, the same kind of word is expected as at the start. -/
theorem poolBehind?_singleton (h : glyphs.isControl glyph = true) (word : String) :
    poolBehind? glyphs (some glyph) [word] = some (poolAlone glyphs (some glyph)) := by
  simp only [ControlGlyphs.isControl, Bool.or_eq_true, beq_iff_eq] at h
  rw [poolBehind?, poolAlone]
  split
  · rfl
  · next hsystem =>
    rcases h with rfl | rfl
    · exact if_pos ⟨rfl, rfl⟩
    · exact absurd rfl hsystem

/-- When no word is finished, the glyph is taken for a part of the word that is being typed. -/
theorem fragment?_of_glued_of_none_finished (hglyphs : glyphs.Apart)
    (h : glyphs.Glued line glyph text) (hfinished : finishedWords text = []) :
    fragment? glyphs line =
        some { pool := poolAlone glyphs (some glyph), typed := Text.lower line } ∧
      fragment? glyphs (glyphs.separated line) =
        some { pool := poolAlone glyphs (some glyph), typed := Text.lower text } := by
  rcases solid_or_behind_of_glued hglyphs h with solid | ⟨before, c, word, first, others, htext,
    blank, solid, hwords, -⟩
  · have hglyph := (hglyphs glyph h.control).2
    have hline : ∀ c ∈ line.toList, Text.isBlank c = false := by
      rw [h.eq]
      exact List.forall_mem_cons.mpr ⟨hglyph, solid⟩
    have hseparated : (glyphs.separated line).toList = [glyph] ++ ' ' :: text.toList :=
      h.toList_separated
    have hwords : Text.wordsOf [glyph] = [[glyph]] :=
      Text.wordsOf_of_solid (List.cons_ne_nil _ _) (by simpa using hglyph)
    rw [fragment?_of_solid hglyphs hline, fragment?_of_behind hglyphs hseparated (by decide) solid,
      Text.words_lower_ofList, hwords, hseparated, h.eq, String.ofList_toList]
    refine ⟨rfl, ?_⟩
    rw [List.singleton_append, List.head?_cons, List.map_singleton,
      poolBehind?_singleton h.control]
    rfl
  · rw [finishedWords_of_behind htext blank solid, Text.words_lower_ofList, hwords] at hfinished
    cases hfinished

/-- When words are finished, the glyph is taken for a part of the first of them. -/
theorem fragment?_of_glued_of_finished (hglyphs : glyphs.Apart) (h : glyphs.Glued line glyph text)
    (hfinished : finishedWords text = name :: others) :
    ∃ glued typed, glued.toList.head? = some glyph ∧
      fragment? glyphs line = (poolBehind? glyphs (some glyph) (glued :: others)).map
        (fun pool => { pool, typed }) ∧
      fragment? glyphs (glyphs.separated line) =
        (poolBehind? glyphs (some glyph) (String.ofList [glyph] :: name :: others)).map
          (fun pool => { pool, typed }) := by
  rcases solid_or_behind_of_glued hglyphs h with solid | ⟨before, c, word, first, more, htext,
    blank, solid, hwords, hglued⟩
  · rw [finishedWords_of_solid solid] at hfinished
    cases hfinished
  · rw [finishedWords_of_behind htext blank solid, Text.words_lower_ofList, hwords] at hfinished
    obtain ⟨rfl, rfl⟩ := List.cons.inj hfinished
    have hglyph := (hglyphs glyph h.control).2
    have hline : line.toList = (glyph :: before) ++ c :: word := by rw [h.eq, htext]; rfl
    have hseparated : (glyphs.separated line).toList = ([glyph] ++ ' ' :: before) ++ c :: word := by
      rw [h.toList_separated, htext]
      rfl
    have hparted : Text.wordsOf ([glyph] ++ ' ' :: before) = [glyph] :: first :: more := by
      have hspace : Text.isBlank ' ' = true := by decide
      rw [Text.wordsOf_append_of_apart (List.cons_ne_nil _ _) (by simpa using hglyph)
        (by simpa using hspace), Text.wordsOf_cons_blank hspace, hwords]
    have hhead : (Text.lower (String.ofList (glyph :: first))).toList.head? = some glyph := by
      rw [Text.head?_lower_eq_some_iff (hglyphs _ h.control).1, String.toList_ofList]
      rfl
    refine ⟨_, Text.lower (String.ofList word), hhead, ?_, ?_⟩
    · rw [fragment?_of_behind hglyphs hline blank solid, hline, Text.words_lower_ofList, hglued]
      rfl
    · rw [fragment?_of_behind hglyphs hseparated blank solid, hseparated, Text.words_lower_ofList,
        hparted, List.map_cons, hglyphs.lower_glyph h.control]
      rfl

section

variable {World : Type} [Directory World] {world : World} {fragment : Fragment}

/-- Nothing is added to a word when no candidate begins as it does. -/
theorem complete?_eq_none_of_head? (hfragment : fragment? glyphs line = some fragment) {c : Char}
    (hc : Text.isAlphanumeric c = false) (hhead : fragment.typed.toList.head? = some c)
    (hcodes : ∀ code ∈ candidates world fragment.pool,
      (Text.upper code).toList.head? ≠ some c) :
    complete? glyphs line world = none := by
  have hnone : matching world fragment = [] := by
    refine List.eq_nil_iff_forall_not_mem.mpr fun entry hentry => ?_
    obtain ⟨⟨code, hcode, rfl⟩, after, hafter⟩ := mem_matching_iff.mp hentry
    obtain ⟨rest, hrest⟩ := List.head?_eq_some_iff.mp hhead
    refine hcodes code hcode ((Text.head?_lower_eq_some_iff hc).mp ?_)
    rw [← hafter, hrest]
    rfl
  rw [complete?_of_fragment? hfragment, hnone]
  rfl

/-- The names of the commands to the console begin with different letters. -/
theorem systemCommand_eq_of_isPrefix {typed : String} (hne : typed.toList ≠ [])
    {command other : SystemCommand} (hcommand : typed.toList <+: command.name.toList)
    (hother : typed.toList <+: other.name.toList) : command = other := by
  have hdifferent : ∀ a ∈ SystemCommand.all, ∀ b ∈ SystemCommand.all,
      a.name.toList.head? = b.name.toList.head? → a = b := by
    decide +kernel
  have hall : ∀ command : SystemCommand, command ∈ SystemCommand.all := by
    intro command
    cases command <;> decide
  obtain ⟨c, rest, hcons⟩ := List.exists_cons_of_ne_nil hne
  have hhead : ∀ command : SystemCommand, typed.toList <+: command.name.toList →
      command.name.toList.head? = some c := by
    rintro command ⟨after, hafter⟩
    rw [← hafter, hcons]
    rfl
  exact hdifferent _ (hall command) _ (hall other)
    ((hhead command hcommand).trans (hhead other hother).symm)

theorem matching_systemCommands (world : World) (typed : String) :
    matching world { pool := .systemCommands, typed } =
      (SystemCommand.all.filter fun command => typed.toList <+: command.name.toList).map
        (Text.upper ∘ SystemCommand.name) := by
  have hnames : ∀ command ∈ SystemCommand.all,
      Text.lower (Text.upper command.name) = command.name := by
    decide +kernel
  have hkept : ∀ command ∈ SystemCommand.all,
      decide (typed.toList <+: (Text.lower (Text.upper command.name)).toList) =
        decide (typed.toList <+: command.name.toList) :=
    fun command hcommand => by rw [hnames command hcommand]
  rw [matching, candidates, List.map_map, List.filter_map]
  exact congrArg (List.map _) (List.filter_congr hkept)

theorem matching_systemCommands_eq_singleton (world : World) {typed : String}
    (hne : typed.toList ≠ []) {command : SystemCommand}
    (hcommand : typed.toList <+: command.name.toList) :
    matching world { pool := .systemCommands, typed } = [Text.upper command.name] := by
  have hunique : ∀ other ∈ SystemCommand.all,
      decide (typed.toList <+: other.name.toList) = decide (other = command) := by
    refine fun other _ => decide_eq_decide.mpr ⟨fun hother => ?_, ?_⟩
    · exact systemCommand_eq_of_isPrefix hne hother hcommand
    · rintro rfl
      exact hcommand
  have honly : SystemCommand.all.filter (· = command) = [command] := by
    cases command <;> decide
  rw [matching_systemCommands, List.filter_congr hunique, honly]
  rfl

/-- So a single letter is enough to complete one of them. -/
theorem complete?_systemCommands_eq_none_iff {typed : String}
    (hfragment : fragment? glyphs line = some { pool := .systemCommands, typed })
    (hne : typed.toList ≠ []) :
    complete? glyphs line world = none ↔
      ∀ command : SystemCommand, ¬ typed.toList <+: command.name.toList := by
  have hworld : complete? glyphs line world = complete? glyphs line ({} : Gazetteer) := by
    rw [complete?_of_fragment? hfragment, complete?_of_fragment? hfragment]
    rfl
  have hascii : Directory.IsAscii ({} : Gazetteer) :=
    ⟨List.forall_mem_nil _, List.forall_mem_nil _, fun _ => List.forall_mem_nil _,
      List.forall_mem_nil _⟩
  rw [hworld]
  by_cases hsome : ∃ command : SystemCommand, typed.toList <+: command.name.toList
  · obtain ⟨command, hcommand⟩ := hsome
    have honly := matching_systemCommands_eq_singleton ({} : Gazetteer) hne hcommand
    rw [complete?_of_matching_singleton hascii hfragment honly]
    exact iff_of_false nofun fun hnone => hnone command hcommand
  · have hnone : ∀ command : SystemCommand, ¬ typed.toList <+: command.name.toList :=
      not_exists.mp hsome
    rw [complete?_of_fragment? hfragment, matching_systemCommands,
      List.filter_eq_nil_iff.mpr fun command _ => by simpa using hnone command]
    exact iff_of_true rfl hnone

end

/-- A glyph in front of a word does not matter for what follows that word. -/
theorem poolAfter?_behind_glyph {first : String} {c : Char} (hhead : first.toList.head? = some c)
    (hc : c.isAlpha = false) (word : String) :
    poolAfter? [first, word] word (some first) = poolAfter? [word] word none := by
  have hspelled := Command.not_isSpelled_of_head? hhead hc
  have hfirst := Argument.not_isIdentifier_of_head? hhead hc
  by_cases hword : Argument.isIdentifier word = true
  · simp only [poolAfter?, hword, if_true]
  · simp [poolAfter?, hword, hspelled, hfirst]

/-- An identifier is missed where the glyph is glued to it. -/
theorem poolAfter?_eq_filter {words separated : List String} {latest earlier earlier' : String}
    (hlatest : Argument.isIdentifier latest = false)
    (hwords : (words.take 2).any Argument.isIdentifier = false)
    (hcircle : Command.circle.isSpelled earlier = Command.circle.isSpelled earlier')
    (hland : Command.land.isSpelled earlier = Command.land.isSpelled earlier') :
    poolAfter? words latest (some earlier) =
      (poolAfter? separated latest (some earlier')).filter (· ≠ .commands) := by
  simp only [poolAfter?, hlatest, hwords, Option.any_some, hcircle, hland, Bool.false_and,
    Bool.false_eq_true, if_false]
  split
  · rfl
  split
  · rfl
  split
  · rfl
  split <;> rfl

section

variable {World : Type} [Directory World] {world : World}

theorem complete?_of_glued_system (hglyphs : glyphs.Apart)
    (h : glyphs.Glued line glyphs.system text) :
    complete? glyphs line world = complete? glyphs (glyphs.separated line) world ↔
      finishedWords text ≠ [] ∨
        ∀ command : SystemCommand, ¬ (Text.lower text).toList <+: command.name.toList := by
  cases hfinished : finishedWords text with
  | cons name others =>
    obtain ⟨glued, typed, -, hline, hseparated⟩ :=
      fragment?_of_glued_of_finished hglyphs h hfinished
    rw [poolBehind?, if_pos rfl] at hline hseparated
    refine iff_of_true ?_ (.inl (List.cons_ne_nil _ _))
    rw [complete?_of_fragment? hline, complete?_of_fragment? hseparated]
  | nil =>
    obtain ⟨hline, hseparated⟩ := fragment?_of_glued_of_none_finished hglyphs h hfinished
    rw [poolAlone, if_pos rfl] at hline hseparated
    have hglyph := (hglyphs _ h.control).1
    have hnames : ∀ code ∈ candidates world .systemCommands,
        (Text.upper code).toList.head? ≠ some glyphs.system := by
      have hletters : ∀ code ∈ SystemCommand.all.map SystemCommand.name,
          (Text.upper code).toList.head?.all Text.isAlphanumeric = true := by
        decide +kernel
      intro code hcode hhead
      have hletter := hletters code hcode
      rw [hhead, Option.all_some, hglyph] at hletter
      cases hletter
    have hne : (Text.lower text).toList ≠ [] := by
      obtain ⟨c, hc, -⟩ := h.solid
      obtain ⟨rest, hrest⟩ := List.head?_eq_some_iff.mp hc
      rw [Text.lower, String.toList_ofList]
      exact Text.lowerFrom_ne_nil (by simp [hrest]) false
    have hnone : complete? glyphs line world = none :=
      complete?_eq_none_of_head? hline hglyph (h.head?_lower hglyph) hnames
    rw [hnone, eq_comm, complete?_systemCommands_eq_none_iff hseparated hne]
    simp

end

section

variable (hne : glyphs.queue ≠ glyphs.system)

include hne

/-- Behind the queue glyph and several words, the last of these tell what follows. -/
theorem poolBehind?_queue {first second latest : String} {before earlier : List String}
    (h : (second :: before).reverse = latest :: earlier) :
    poolBehind? glyphs (some glyphs.queue) (first :: second :: before) =
      poolAfter? (first :: second :: before) latest (earlier ++ [first]).head? := by
  have hreverse : (first :: second :: before).reverse = latest :: (earlier ++ [first]) := by
    rw [List.reverse_cons, h, List.cons_append]
  rw [poolBehind?, if_neg (by simpa using hne), if_neg (by simp), hreverse]

/-- With a single finished word, it is the aircraft that is completed once more, in place of what
may follow it. -/
theorem fragment?_of_glued_queue_of_one_finished (hglyphs : glyphs.Apart)
    (h : glyphs.Glued line glyphs.queue text) (hfinished : finishedWords text = [name]) :
    ∃ typed, fragment? glyphs line = some { pool := .aircraft, typed } ∧
      fragment? glyphs (glyphs.separated line) =
        (poolAfter? [name] name none).map fun pool => { pool, typed } := by
  obtain ⟨glued, typed, -, hline, hseparated⟩ := fragment?_of_glued_of_finished hglyphs h hfinished
  refine ⟨typed, ?_, ?_⟩
  · rw [hline, poolBehind?_singleton h.control, poolAlone, if_neg (by simpa using hne)]
    rfl
  · have hglyph : (String.ofList [glyphs.queue]).toList.head? = some glyphs.queue := by
      rw [String.toList_ofList, List.head?_singleton]
    rw [hseparated, poolBehind?_queue hne List.reverse_singleton, List.nil_append,
      List.head?_singleton, poolAfter?_behind_glyph hglyph
        (Text.not_isAlpha_of_not_isAlphanumeric (hglyphs _ h.control).1)]

theorem fragment?_of_glued_queue_of_finished (hglyphs : glyphs.Apart)
    (h : glyphs.Glued line glyphs.queue text) (hfinished : finishedWords text = name :: others)
    (hothers : others ≠ []) (hcircle : Command.circle.isSpelled name = false)
    (hland : Command.land.isSpelled name = false)
    (hidentifier : ∀ other ∈ others, Argument.isIdentifier other = false) :
    fragment? glyphs line =
      (fragment? glyphs (glyphs.separated line)).filter (·.pool ≠ .commands) := by
  obtain ⟨glued, typed, hglued, hline, hseparated⟩ :=
    fragment?_of_glued_of_finished hglyphs h hfinished
  have hletter := Text.not_isAlpha_of_not_isAlphanumeric (hglyphs _ h.control).1
  have hspelled := Command.not_isSpelled_of_head? hglued hletter
  have hnot := Argument.not_isIdentifier_of_head? hglued hletter
  obtain ⟨second, before, rfl⟩ := List.exists_cons_of_ne_nil hothers
  obtain ⟨latest, earlier, hreverse⟩ := List.exists_cons_of_ne_nil
    (List.reverse_ne_nil_iff.mpr hothers)
  have hlatest : Argument.isIdentifier latest = false :=
    hidentifier latest (List.mem_reverse.mp (by simp [hreverse]))
  have hwords : ((glued :: second :: before).take 2).any Argument.isIdentifier = false := by
    simp [hnot, hidentifier second (by simp)]
  have hreverse' : (name :: second :: before).reverse = latest :: (earlier ++ [name]) := by
    rw [List.reverse_cons, hreverse, List.cons_append]
  have hpool : poolAfter? (glued :: second :: before) latest (earlier ++ [glued]).head? =
      (poolAfter? (String.ofList [glyphs.queue] :: name :: second :: before) latest
        (earlier ++ [name] ++ [String.ofList [glyphs.queue]]).head?).filter (· ≠ .commands) := by
    cases earlier with
    | nil =>
      exact poolAfter?_eq_filter hlatest hwords ((hspelled _).trans hcircle.symm)
        ((hspelled _).trans hland.symm)
    | cons earlier _ => exact poolAfter?_eq_filter hlatest hwords rfl rfl
  rw [hline, hseparated, poolBehind?_queue hne hreverse, poolBehind?_queue hne hreverse', hpool,
    Option.filter_map]
  rfl

end

/-- How a line is completed in comparison with the one in which its glyph is set apart. Both are
completed alike when nothing is glued to a glyph. Behind the system glyph they differ exactly when a
command to the console is being typed that could be completed. Behind the queue glyph no aircraft is
offered, the aircraft is offered once more when its name is finished, and from then on commands are
what is missing. -/
theorem glued_glyph_completes {World : Type} [Directory World] (rules : ReadingRules)
    (check : rules.check = .ok ()) (world : World) (line : String) :
    let glyphs := rules.glyphs
    ((∀ glyph text, ¬ glyphs.Glued line glyph text) →
      complete? glyphs line world = complete? glyphs (glyphs.separated line) world) ∧
    (∀ text, glyphs.Glued line glyphs.system text →
      (complete? glyphs line world = complete? glyphs (glyphs.separated line) world ↔
        finishedWords text ≠ [] ∨
          ∀ command : SystemCommand, ¬ (Text.lower text).toList <+: command.name.toList)) ∧
    ∀ text, glyphs.Glued line glyphs.queue text →
      (finishedWords text = [] →
        (∀ code ∈ Directory.aircraft world,
          (Text.upper code).toList.head? ≠ some glyphs.queue) →
        complete? glyphs line world = none ∧
          fragment? glyphs (glyphs.separated line) =
            some { pool := .aircraft, typed := Text.lower text }) ∧
      (∀ name, finishedWords text = [name] →
        ∃ typed, fragment? glyphs line = some { pool := .aircraft, typed } ∧
          fragment? glyphs (glyphs.separated line) =
            (poolAfter? [name] name none).map fun pool => { pool, typed }) ∧
      ∀ name others, finishedWords text = name :: others → others ≠ [] →
        Command.circle.isSpelled name = false → Command.land.isSpelled name = false →
        (∀ other ∈ others, Argument.isIdentifier other = false) →
        fragment? glyphs line =
          (fragment? glyphs (glyphs.separated line)).filter (·.pool ≠ .commands) := by
  intro glyphs
  obtain ⟨hne, hglyphs⟩ := ReadingRules.glyphs_of_check check
  refine ⟨fun hnot => ?_, fun text h => complete?_of_glued_system hglyphs h, fun text h =>
    ⟨fun hfinished hcodes => ?_, fun name =>
      fragment?_of_glued_queue_of_one_finished hne hglyphs h,
      fun name others => fragment?_of_glued_queue_of_finished hne hglyphs h⟩⟩
  · rw [ControlGlyphs.separated_of_not_glued hnot]
  · obtain ⟨hline, hseparated⟩ := fragment?_of_glued_of_none_finished hglyphs h hfinished
    rw [poolAlone, if_neg (by simpa using hne)] at hline hseparated
    have hglyph := (hglyphs _ h.control).1
    exact ⟨complete?_eq_none_of_head? hline hglyph (h.head?_lower hglyph) hcodes, hseparated⟩

theorem not_completes_glued_alike :
    ¬ ∀ rules : ReadingRules, rules.check = .ok () → ∀ (world : Gazetteer) (line : String),
      complete? rules.glyphs line world =
        complete? rules.glyphs (rules.glyphs.separated line) world := by
  intro h
  have halike := h {} (by decide +kernel) {} "/qu"
  revert halike
  decide +kernel

theorem glued_glyph_completes_quit_and_heading :
    let glyphs : ControlGlyphs := {}
    let world : Gazetteer := { aircraft := ["ABC1234"] }
    glyphs.Glued "/qu" '/' "qu" ∧ finishedWords "qu" = [] ∧
      complete? glyphs "/qu" world ≠ complete? glyphs (glyphs.separated "/qu") world ∧
      glyphs.Glued ".abc1234 he" '.' "abc1234 he" ∧ finishedWords "abc1234 he" = ["abc1234"] ∧
      ∃ typed, fragment? glyphs ".abc1234 he" = some { pool := .aircraft, typed } ∧
        fragment? glyphs (glyphs.separated ".abc1234 he") = some { pool := .commands, typed } := by
  intro glyphs world
  have hquit : glyphs.Glued "/qu" '/' "qu" := ⟨by decide, by decide, 'q', by decide, by decide⟩
  have hheading : glyphs.Glued ".abc1234 he" '.' "abc1234 he" :=
    ⟨by decide, by decide, 'a', by decide, by decide⟩
  have hnone : finishedWords "qu" = [] := by decide +kernel
  have hone : finishedWords "abc1234 he" = ["abc1234"] := by decide +kernel
  have hcheck : ({} : ReadingRules).check = .ok () := by decide +kernel
  obtain ⟨-, hsystem, -⟩ := glued_glyph_completes {} hcheck world "/qu"
  obtain ⟨-, -, hqueue⟩ := glued_glyph_completes {} hcheck world ".abc1234 he"
  obtain ⟨typed, hline, hseparated⟩ := (hqueue _ hheading).2.1 _ hone
  refine ⟨hquit, hnone, ?_, hheading, hone, typed, hline, hseparated⟩
  have hbegins : (Text.lower "qu").toList <+: SystemCommand.quit.name.toList := by decide +kernel
  rw [ne_eq, hsystem _ hquit, hnone]
  simpa using ⟨SystemCommand.quit, hbegins⟩

end Completion

end ControlTower
