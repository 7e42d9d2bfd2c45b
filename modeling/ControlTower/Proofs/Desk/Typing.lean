import ControlTower.Proofs.Desk.Work
import ControlTower.Proofs.Phraseology.Retyping

/-!
# Typing a line

A line can be typed key by key, and it can be handed over as a whole. What is typed comes out in
capitals, with no space in front, with one space at most between two words, and with a space behind
a glyph. Its tokens are those of the line all the same, so it makes no difference which of the two
is done: the line is answered alike, and only its text is echoed and remembered as it was typed.
-/

namespace ControlTower

def Text.isPlain (c : Char) : Bool := c.isAlphanum || c == ' '

/-- A line that can be typed: letters, digits and spaces, possibly behind a control glyph. -/
inductive ControlGlyphs.Typeable (glyphs : ControlGlyphs) : List Char → Prop where
  | plain {text : List Char} (plain : ∀ c ∈ text, Text.isPlain c = true) : Typeable glyphs text
  | led {glyph : Char} {text : List Char} (control : glyphs.isControl glyph = true)
      (plain : ∀ c ∈ text, Text.isPlain c = true) : Typeable glyphs (glyph :: text)

def Action.typing (line : String) : List Action :=
  line.toList.map fun c => .press (.glyph c.toString)

/-- Two turns at a console answer the lines `first` and `second` alike: apart from the text of the
line they differ in nothing, neither in what has been done nor in the replies still to come. -/
structure Console.AnswersAlike {World : Type} (console : Console) (first second : String)
    (one other : Turn World) : Prop where
  signal_eq : one.signal = other.signal
  /-- The same calls have been made. -/
  world_eq : one.world = other.world
  /-- Both lines are echoed or none is, and what is written besides is the same. -/
  transcript_eq : ∃ (echoed : Bool) (answers : List Entry),
    (∀ answer ∈ answers, answer.severity ≠ .echo) ∧
    one.console.transcript = console.transcript.writeAll
      ((if echoed then [console.echo first] else []) ++ answers) ∧
    other.console.transcript = console.transcript.writeAll
      ((if echoed then [console.echo second] else []) ++ answers)
  /-- Both lines are remembered or none is. -/
  history_eq :
    one.console.history = console.history ∧ other.console.history = console.history ∨
      one.console.history = (console.remember first).history ∧
        other.console.history = (console.remember second).history
  /-- All else at the console is the same. -/
  console_eq : other.console =
    { one.console with
      buffer := other.console.buffer
      history := other.console.history
      transcript := other.console.transcript }

namespace Text

variable {c : Char}

theorem toNat_lt_of_isPlain (h : isPlain c = true) : c.toNat < 128 := by
  rcases Bool.or_eq_true_iff.mp h with h | h
  · rcases Bool.or_eq_true_iff.mp h with h | h
    · exact toNat_lt_of_isAlpha h
    · exact toNat_lt_of_isDigit h
  · rw [beq_iff_eq.mp h]
    decide

theorem inText_of_isPlain (h : isPlain c = true) : isAlphanumeric c = true ∨ isBlank c = true :=
  forall_ascii
    (P := fun c => isPlain c = true → isAlphanumeric c = true ∨ isBlank c = true)
    (by decide +kernel) (toNat_lt_of_isPlain h) h

theorem isPlain_toUpper (h : isPlain c = true) : isPlain c.toUpper = true :=
  forall_ascii (P := fun c => isPlain c = true → isPlain c.toUpper = true) (by decide +kernel)
    (toNat_lt_of_isPlain h) h

end Text

namespace ControlGlyphs.Apart

variable {glyphs : ControlGlyphs} {c : Char}

theorem not_isControl_of_isPlain (h : glyphs.Apart) (hc : Text.isPlain c = true) :
    glyphs.isControl c = false := by
  by_contra hcontrol
  obtain ⟨hword, hblank⟩ := h c (by simpa using hcontrol)
  rcases Text.inText_of_isPlain hc with hin | hin
  · simp [hin] at hword
  · simp [hin] at hblank

theorem toUpper_glyph (h : glyphs.Apart) (hc : glyphs.isControl c = true) : c.toUpper = c := by
  apply Text.toUpper_of_not_isAlpha
  by_contra halpha
  have hletter := Text.isAlphanumeric_of_isAlpha (eq_true_of_ne_false halpha)
  simp [(h c hc).1] at hletter

theorem typed_glyph (h : glyphs.Apart) (hc : glyphs.isControl c = true) :
    Console.typed glyphs [] c = [c, ' '] := by
  have hspace : c ≠ ' ' := by
    rintro rfl
    have hblank := (h ' ' hc).2
    revert hblank
    decide
  simp [Console.typed, hc, hspace, h.toUpper_glyph hc]

theorem typed_eq_or (h : glyphs.Apart) (hc : Text.isPlain c = true) (line : List Char) :
    Console.typed glyphs line c = line ++ [c.toUpper] ∨
      Console.typed glyphs line c = line ∧ c = ' ' ∧ line.getLast?.all (· == ' ') = true := by
  have hplain : (c.isAlphanum || c == ' ') = true := hc
  unfold Console.typed
  rw [hplain, h.not_isControl_of_isPlain hc]
  by_cases hstray : c = ' ' ∧ line.getLast?.all (· == ' ') = true
  · exact .inr (by simp [hstray])
  · left
    have hkept : ¬ (c == ' ' && line.getLast?.all (· == ' ')) = true := by simpa using hstray
    simp [hkept]

variable {text : List Char}

theorem isPlain_of_mem_foldl_typed (h : glyphs.Apart)
    (hplain : ∀ c ∈ text, Text.isPlain c = true) {line : List Char}
    (hline : ∀ c ∈ line, Text.isPlain c = true) :
    ∀ c ∈ text.foldl (Console.typed glyphs) line, Text.isPlain c = true := by
  induction text generalizing line with
  | nil => exact hline
  | cons c text ih =>
    obtain ⟨hc, htext⟩ := List.forall_mem_cons.mp hplain
    rcases h.typed_eq_or hc line with heq | ⟨heq, -⟩
    · rw [List.foldl_cons, heq]
      refine ih htext fun d hd => ?_
      rcases List.mem_append.mp hd with hd | hd
      · exact hline d hd
      · rw [List.mem_singleton.mp hd]
        exact Text.isPlain_toUpper hc
    · rw [List.foldl_cons, heq]
      exact ih htext hline

/-- What has been typed stays in front of what is typed next. -/
theorem isPrefix_foldl_typed (h : glyphs.Apart) (hplain : ∀ c ∈ text, Text.isPlain c = true)
    (line : List Char) : line <+: text.foldl (Console.typed glyphs) line := by
  induction text generalizing line with
  | nil => exact List.prefix_rfl
  | cons c text ih =>
    obtain ⟨hc, htext⟩ := List.forall_mem_cons.mp hplain
    rcases h.typed_eq_or hc line with heq | ⟨heq, -⟩
    · rw [List.foldl_cons, heq]
      exact (List.prefix_append line [c.toUpper]).trans (ih htext _)
    · rw [List.foldl_cons, heq]
      exact ih htext line

/-- The words of what is typed are those of the text in capitals: a space is left out only where
there is one already, or nothing at all. -/
theorem wordsOf_foldl_typed (h : glyphs.Apart) (hplain : ∀ c ∈ text, Text.isPlain c = true)
    (line : List Char) :
    Text.wordsOf (text.foldl (Console.typed glyphs) line) =
      Text.wordsOf (line ++ text.map Char.toUpper) := by
  induction text generalizing line with
  | nil => simp
  | cons c text ih =>
    obtain ⟨hc, htext⟩ := List.forall_mem_cons.mp hplain
    rcases h.typed_eq_or hc line with heq | ⟨heq, rfl, hlast⟩
    · rw [List.foldl_cons, heq, ih htext]
      simp
    · have hspace : Text.isBlank ' ' = true := by decide
      have hupper : ' '.toUpper = ' ' := by decide
      rw [List.foldl_cons, heq, ih htext, List.map_cons, hupper,
        Text.wordsOf_append_blank hspace]
      rcases List.eq_nil_or_concat' line with rfl | ⟨before, last, rfl⟩
      · simp
      · have hlast : last = ' ' := by simpa using hlast
        rw [hlast, List.append_assoc, List.singleton_append, Text.wordsOf_append_blank hspace,
          Text.wordsOf_append_blank hspace, Text.wordsOf_nil, List.append_nil]

theorem tokens_map_toUpper (h : glyphs.Apart) (line : List Char) :
    glyphs.tokens (String.ofList (line.map Char.toUpper)) =
      glyphs.tokens (String.ofList line) := by
  refine h.tokens_eq_of_retyped (.recased ?_)
  rw [List.forall₂_map_left_iff]
  exact List.forall₂_same.mpr fun c _ => Text.toLower_toUpper c

theorem tokens_foldl_typed (h : glyphs.Apart) {line : List Char} (hline : glyphs.Typeable line) :
    glyphs.tokens (String.ofList (line.foldl (Console.typed glyphs) [])) =
      glyphs.tokens (String.ofList line) := by
  suffices hwords : Text.wordsOf (glyphs.separate (line.foldl (Console.typed glyphs) [])) =
      Text.wordsOf (glyphs.separate (line.map Char.toUpper)) by
    rw [← h.tokens_map_toUpper line, tokens_eq, tokens_eq, String.toList_ofList,
      String.toList_ofList, hwords]
  cases hline with
  | plain hplain =>
    have huncontrolled : ∀ text : List Char, (∀ c ∈ text, Text.isPlain c = true) →
        glyphs.separate text = text := fun text htext =>
      separate_of_head? fun c hc =>
        h.not_isControl_of_isPlain (htext c (List.mem_of_mem_head? hc))
    have hcapitals : ∀ c ∈ line.map Char.toUpper, Text.isPlain c = true := by
      simpa using fun c hc => Text.isPlain_toUpper (hplain c hc)
    rw [huncontrolled _ (h.isPlain_of_mem_foldl_typed hplain (List.forall_mem_nil _)),
      huncontrolled _ hcapitals, h.wordsOf_foldl_typed hplain, List.nil_append]
  | @led glyph text hglyph hplain =>
    have hblank : Text.isBlank glyph = false := (h glyph hglyph).2
    have hspace : Text.isBlank ' ' = true := by decide
    obtain ⟨rest, hrest⟩ := h.isPrefix_foldl_typed hplain [glyph, ' ']
    have htyped := h.wordsOf_foldl_typed hplain [glyph, ' ']
    rw [List.foldl_cons, h.typed_glyph hglyph, List.map_cons, h.toUpper_glyph hglyph,
      wordsOf_separate hglyph hblank]
    have hkept : glyphs.separate (text.foldl (Console.typed glyphs) [glyph, ' ']) =
        text.foldl (Console.typed glyphs) [glyph, ' '] := by
      simp [← hrest, separate, hspace]
    have hsolid : ∀ c ∈ [glyph], Text.isBlank c = false := by simpa using hblank
    have hapart : ∀ c ∈ (' ' :: text.map Char.toUpper).head?, Text.isBlank c = true := by
      simpa using hspace
    have hwords := Text.wordsOf_append_of_apart (List.cons_ne_nil glyph []) hsolid hapart
    rw [Text.wordsOf_cons_blank hspace] at hwords
    rw [hkept, htyped, ← hwords]
    rfl

end ControlGlyphs.Apart

theorem ReadingRules.read_foldl_typed {rules : ReadingRules} (check : rules.check = .ok ())
    {line : String} (hline : rules.glyphs.Typeable line.toList) :
    rules.read (String.ofList (line.toList.foldl (Console.typed rules.glyphs) [])) =
      rules.read line := by
  have hapart : rules.glyphs.Apart := (glyphs_of_check check).2
  have htokens := hapart.tokens_foldl_typed hline
  rw [String.ofList_toList] at htokens
  rw [read_eq_outcome, read_eq_outcome, htokens]

namespace Console

variable {World : Type} [Traffic World]

theorem foldl_act_typing (console : Console) (world : World) (line : String) :
    (Action.typing line).foldl Turn.act { console, world } =
      { console :=
          { console with
            buffer := line.toList.foldl (typed console.settings.rules.glyphs) console.buffer }
        world } := by
  unfold Action.typing
  induction line.toList generalizing console with
  | nil => rfl
  | cons c text ih =>
    have hkey : Turn.act { console, world } (.press (.glyph c.toString)) =
        { console :=
            { console with buffer := typed console.settings.rules.glyphs console.buffer c }
          world } := by
      simp [Turn.act, press, typeText]
    rw [List.map_cons, List.foldl_cons, hkey, ih]
    rfl

/-- What is typed at an idle console and submitted might have been handed over as it was typed. -/
theorem act_submit_typing {console : Console} (idle : console.buffer = []) (world : World)
    (line : String) :
    ((Action.typing line).foldl Turn.act { console, world }).act (.press .submit) =
      console.submitLine world
        (String.ofList (line.toList.foldl (typed console.settings.rules.glyphs) [])) := by
  rw [foldl_act_typing, idle, Turn.act, press_submit]
  rfl

/-- Lines that mean the same are answered alike. -/
theorem answersAlike_submitLine {console : Console} {first second : String}
    (h : console.settings.rules.read first = console.settings.rules.read second) (world : World) :
    console.AnswersAlike first second (console.submitLine world first)
      (console.submitLine world second) := by
  have hending := ending console world first
  generalize console.submitLine world first = turn at hending
  cases hending with
  | empty hread =>
    rw [(Ending.empty (h.symm.trans hread)).submitLine_eq]
    exact ⟨rfl, rfl, ⟨false, [], by simp, rfl, rfl⟩, .inl ⟨rfl, rfl⟩, rfl⟩
  | rejected hread =>
    rw [(Ending.rejected (h.symm.trans hread)).submitLine_eq]
    exact ⟨rfl, rfl, ⟨false, [_], by simp, rfl, rfl⟩, .inr ⟨rfl, rfl⟩, rfl⟩
  | unanswered hread hcall =>
    rw [(Ending.unanswered (h.symm.trans hread) hcall).submitLine_eq]
    exact ⟨rfl, rfl, ⟨true, [_], by simp, rfl, rfl⟩, .inr ⟨rfl, rfl⟩, rfl⟩
  | taken hread hcall =>
    rw [(Ending.taken (h.symm.trans hread) hcall).submitLine_eq]
    exact ⟨rfl, rfl, ⟨true, [_], by simp, rfl, rfl⟩, .inr ⟨rfl, rfl⟩, rfl⟩
  | refused hread hcall =>
    rw [(Ending.refused (h.symm.trans hread) hcall).submitLine_eq]
    exact ⟨rfl, rfl, ⟨true, [_], by simp, rfl, rfl⟩, .inr ⟨rfl, rfl⟩, rfl⟩
  | quit hread hreply =>
    rw [(Ending.quit (h.symm.trans hread) hreply).submitLine_eq]
    exact ⟨rfl, rfl, ⟨true, [], by simp, rfl, rfl⟩, .inr ⟨rfl, rfl⟩, rfl⟩
  | shown hread hreply =>
    rw [(Ending.shown (h.symm.trans hread) hreply).submitLine_eq]
    exact ⟨rfl, rfl, ⟨true, _, by simp, rfl, rfl⟩, .inr ⟨rfl, rfl⟩, rfl⟩

theorem answersAlike_typing {console : Console} (check : console.settings.check = .ok ())
    (idle : console.buffer = []) {line : String}
    (typeable : console.settings.rules.glyphs.Typeable line.toList) (world : World) :
    let typed := (Action.typing line).foldl Turn.act { console, world }
    console.AnswersAlike line typed.console.line (console.submitLine world line)
      (typed.act (.press .submit)) := by
  intro typed
  have hread := ReadingRules.read_foldl_typed (Settings.check_rules check) typeable
  have hline : typed.console.line =
      String.ofList (line.toList.foldl (Console.typed console.settings.rules.glyphs) []) := by
    simp only [typed, foldl_act_typing, idle, Console.line]
  rw [act_submit_typing idle, hline]
  exact answersAlike_submitLine hread.symm world

end Console

/-- A line that is typed at a console where none is being typed, and then submitted, is answered like
the line that is handed over as a whole. Typing it does nothing yet, and what is echoed and
remembered in the end is what has been typed. The same calls are made in any world, and a record of
them would show it. -/
theorem typed_line_answered_alike {console : Console} (check : console.settings.check = .ok ())
    (idle : console.buffer = []) {line : String}
    (typeable : console.settings.rules.glyphs.Typeable line.toList) :
    (∀ (World : Type) [Traffic World] (world : World),
      let typed := (Action.typing line).foldl Turn.act { console, world }
      (typed.console = { console with buffer := typed.console.buffer } ∧ typed.world = world ∧
          typed.signal = .continue) ∧
        console.AnswersAlike line typed.console.line (console.submitLine world line)
          (typed.act (.press .submit))) ∧
    ∀ (World : Type) [Traffic World] (world : World),
      let start : Turn (Recorded World) := { console, world := ⟨world, []⟩ }
      (console.submitLine start.world line).world.exchanges =
        ((Action.typing line ++ [Action.press .submit]).foldl Turn.act start).world.exchanges := by
  refine ⟨fun World _ world => ⟨?_, ?_⟩, fun World _ world => ?_⟩
  · rw [Console.foldl_act_typing]
    exact ⟨rfl, rfl, rfl⟩
  · exact Console.answersAlike_typing check idle typeable world
  · intro start
    have halike := Console.answersAlike_typing check idle typeable start.world
    rw [List.foldl_append]
    exact congrArg Recorded.exchanges halike.world_eq

/-- A heading is queued by a line in small letters, with spaces too many and one too few; what is
typed has as many as it takes. -/
theorem typed_line_answered_alike_queued_heading :
    let console : Console :=
      { settings := {}
        system := standardSystem {}
        transcript := .ofCapacity 5
        replies := .ofSeed 0 }
    let space := ({} : Airspace).withAircraft (.airborne "BAW1234")
    let line := ".baw1234  heading   90"
    let typed := (Action.typing line).foldl Turn.act { console, world := space }
    console.settings.check = .ok () ∧ console.buffer = [] ∧
      console.settings.rules.glyphs.Typeable line.toList ∧
      console.settings.rules.read line = .accepted (.aircraft .enqueue "BAW1234"
        [{ command := .heading, arguments := [.number 90] }]) ∧
      typed.console.line = ". BAW1234 HEADING 90" ∧
      console.AnswersAlike line ". BAW1234 HEADING 90" (console.submitLine space line)
        (typed.act (.press .submit)) := by
  intro console space line typed
  have hcheck : console.settings.check = .ok () := by decide +kernel
  have htypeable : console.settings.rules.glyphs.Typeable line.toList := by
    have hline : line.toList = '.' :: "baw1234  heading   90".toList := by simp [line]
    rw [hline]
    exact .led (by decide) (by simp [Text.isPlain])
  have hread : console.settings.rules.read line = .accepted (.aircraft .enqueue "BAW1234"
      [{ command := .heading, arguments := [.number 90] }]) := by
    rw [ReadingRules.read_eq_outcome]
    decide +kernel
  have htyped : typed.console.line = ". BAW1234 HEADING 90" := by
    simp only [typed, Console.foldl_act_typing, Console.line]
    decide +kernel
  have halike := ((typed_line_answered_alike hcheck rfl htypeable).1 Airspace space).2
  exact ⟨hcheck, rfl, htypeable, hread, htyped, htyped ▸ halike⟩

end ControlTower
