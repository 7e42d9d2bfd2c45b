import ControlTower.Proofs.Airspace.Landings
import ControlTower.Proofs.Desk.History
import ControlTower.Proofs.Desk.Recompletion
import ControlTower.Proofs.Desk.Typing
import Mathlib.Data.List.Chain

/-!
# Lines that come about at the keys

A line that is written with the keys alone is tidy: its words are in capitals and there is one space
at most between two of them, and none in front. Every key sees to this in its own way. A space is
typed only behind a word, a glyph brings its space with it, a completion brings one with the only
candidate there is, and a line that is recalled was written in the same way before. It is for this
that the codes of the world have to be words themselves. In a tidy line every blank is a space that
parts two words or ends the last one, so going back to a space is going back by one word.
-/

namespace ControlTower

/-- The text of a line as it is written with the keys. -/
structure Text.IsTidy (line : List Char) : Prop where
  begins : line.head? ≠ some ' '
  spaced : line.IsChain fun c d => ¬(c = ' ' ∧ d = ' ')
  capitals : ∀ c ∈ line, c.isLower = false
  /-- There are no other blanks. -/
  spaces : ∀ c ∈ line, Text.isBlank c = true → c = ' '

structure Console.IsTidy (console : Console) : Prop where
  buffer : Text.IsTidy console.buffer
  history : ∀ line ∈ console.history, Text.IsTidy line.toList

inductive Directory.Lists {World : Type} [Directory World] (world : World) (code : String) :
    Prop where
  | aircraft (listed : code ∈ Directory.aircraft world) : Lists world code
  | airport (listed : code ∈ Directory.airports world) : Lists world code
  /-- Whatever text is given for the airport. -/
  | runway (airport : String) (listed : code ∈ Directory.runways world airport) : Lists world code
  | beacon (listed : code ∈ Directory.beacons world) : Lists world code

def Directory.ListsWords {World : Type} [Directory World] (world : World) : Prop :=
  ∀ code, Lists world code → code ≠ "" ∧ Text.IsSolid code

/-- The lines at a console are tidy, and the key that deletes a word deletes the last one. -/
structure Turn.EditsWords {World : Type} [Traffic World] (turn : Turn World) : Prop where
  tidy : turn.console.IsTidy
  words_backspace :
    Text.words (turn.act (.press (.backspace true))).console.line =
      (Text.words turn.console.line).dropLast

namespace Text

theorem isBlank_space : isBlank ' ' = true := by decide

theorem ne_space_of_not_isBlank {c : Char} (h : isBlank c = false) : c ≠ ' ' := by
  rintro rfl
  cases isBlank_space.symm.trans h

namespace IsTidy

variable {line word : List Char}

theorem nil : IsTidy [] where
  begins := by simp
  spaced := .nil
  capitals := List.forall_mem_nil _
  spaces := List.forall_mem_nil _

theorem of_isPrefix (h : IsTidy line) {start : List Char} (hstart : start <+: line) :
    IsTidy start where
  begins hspace := by
    obtain ⟨rest, hrest⟩ := List.head?_eq_some_iff.mp hspace
    obtain ⟨after, hafter⟩ := hstart
    exact h.begins (by rw [← hafter, hrest]; rfl)
  spaced := h.spaced.prefix hstart
  capitals c hc := h.capitals c (hstart.subset hc)
  spaces c hc := h.spaces c (hstart.subset hc)

theorem append_solid (h : IsTidy line) (hsolid : ∀ c ∈ word, isBlank c = false)
    (hcapitals : ∀ c ∈ word, c.isLower = false) : IsTidy (line ++ word) where
  begins hspace := by
    cases line with
    | nil => exact ne_space_of_not_isBlank (hsolid ' ' (List.mem_of_head? hspace)) rfl
    | cons c line => exact h.begins hspace
  spaced := by
    have hnone : ∀ d ∈ word, d ≠ ' ' := fun d hd => ne_space_of_not_isBlank (hsolid d hd)
    refine List.isChain_append.mpr ⟨h.spaced, ?_, fun c _ d hd hboth => ?_⟩
    · exact List.Pairwise.isChain
        (List.pairwise_of_forall_mem_list fun c hc _ _ hboth => hnone c hc hboth.1)
    · exact hnone d (List.mem_of_head? hd) hboth.2
  capitals := List.forall_mem_append.mpr ⟨h.capitals, hcapitals⟩
  spaces := by
    refine List.forall_mem_append.mpr ⟨h.spaces, fun c hc hblank => ?_⟩
    rw [hsolid c hc] at hblank
    cases hblank

theorem append_space (h : IsTidy line) {c : Char} (hlast : line.getLast? = some c) (hc : c ≠ ' ') :
    IsTidy (line ++ [' ']) where
  begins := by
    have hne : line ≠ [] := List.ne_nil_of_mem (List.mem_of_getLast? hlast)
    rw [List.head?_append_of_ne_nil _ hne]
    exact h.begins
  spaced := by
    refine List.isChain_append.mpr ⟨h.spaced, List.isChain_singleton _, fun d hd _ _ hboth => ?_⟩
    rw [hlast] at hd
    exact hc ((Option.some.inj hd).trans hboth.1)
  capitals := List.forall_mem_append.mpr ⟨h.capitals, List.forall_mem_singleton.mpr rfl⟩
  spaces := List.forall_mem_append.mpr ⟨h.spaces, List.forall_mem_singleton.mpr fun _ => rfl⟩

end IsTidy

/-- One word is one word, also when it ends with a blank. -/
theorem exists_wordsOf_eq_singleton {word : List Char} {c : Char}
    (hsolid : ∀ d ∈ word, isBlank d = false) (hc : isBlank c = true → word ≠ []) :
    ∃ last, wordsOf (word ++ [c]) = [last] := by
  by_cases hblank : isBlank c = true
  · exact ⟨word, by simp [wordsOf_append_blank hblank, wordsOf_of_solid (hc hblank) hsolid]⟩
  · refine ⟨word ++ [c], wordsOf_of_solid (by simp) ?_⟩
    exact List.forall_mem_append.mpr ⟨hsolid, List.forall_mem_singleton.mpr (by simpa using hblank)⟩

end Text

namespace Console

variable {line : List Char}

theorem withoutWord_isPrefix (line : List Char) : withoutWord line <+: line := by
  have hsuffix : (line.dropLast.reverse.dropWhile (· != ' ')).drop 1 <:+ line.dropLast.reverse :=
    (List.drop_suffix _ _).trans (List.dropWhile_suffix _)
  rw [withoutWord]
  exact (List.reverse_suffix.mp (by rwa [List.reverse_reverse])).trans (List.dropLast_prefix _)

/-- Where there is no space to go back to, the whole line is deleted. -/
theorem withoutWord_of_no_space {word : List Char} (h : ∀ d ∈ word, d ≠ ' ') (c : Char) :
    withoutWord (word ++ [c]) = [] := by
  have hall : word.reverse.dropWhile (· != ' ') = [] := by
    simpa [List.dropWhile_eq_nil_iff] using h
  rw [withoutWord, List.dropLast_concat, hall]
  rfl

theorem withoutWord_behind_space (before : List Char) {word : List Char} (h : ∀ d ∈ word, d ≠ ' ')
    (c : Char) : withoutWord (before ++ ' ' :: word ++ [c]) = before := by
  have hword : ∀ d ∈ word.reverse, (d != ' ') = true := by simpa using h
  rw [withoutWord, List.dropLast_concat, List.reverse_append, List.reverse_cons, List.append_assoc,
    List.dropWhile_append_of_pos hword]
  simp

/-- The last character goes in any case. What is looked for is a space in front of it. -/
theorem wordsOf_withoutWord (h : Text.IsTidy line) :
    Text.wordsOf (withoutWord line) = (Text.wordsOf line).dropLast := by
  rcases List.eq_nil_or_concat line with rfl | ⟨init, c, rfl⟩
  · rfl
  rw [List.concat_eq_append] at h ⊢
  have hends := Text.endsWith_lastWord init
  generalize Text.lastWord init = word at hends
  cases hends with
  | only solid =>
    obtain ⟨last, hlast⟩ : ∃ last, Text.wordsOf (init ++ [c]) = [last] := by
      refine Text.exists_wordsOf_eq_singleton solid fun hblank hnil => h.begins ?_
      rw [hnil, h.spaces c (by simp) hblank]
      rfl
    rw [withoutWord_of_no_space (fun d hd => Text.ne_space_of_not_isBlank (solid d hd)), hlast]
    rfl
  | @behind before d _ blank solid =>
    obtain rfl : d = ' ' := h.spaces d (by simp) blank
    obtain ⟨last, hlast⟩ : ∃ last, Text.wordsOf (word ++ [c]) = [last] := by
      refine Text.exists_wordsOf_eq_singleton solid fun hblank hnil => ?_
      have hchain := h.spaced
      rw [hnil, h.spaces c (by simp) hblank, List.append_assoc] at hchain
      exact (List.isChain_append.mp hchain).2.1.rel ⟨rfl, rfl⟩
    rw [withoutWord_behind_space before fun d hd => Text.ne_space_of_not_isBlank (solid d hd),
      List.append_assoc, List.cons_append, Text.wordsOf_append_blank blank, hlast,
      List.dropLast_concat]

theorem words_backspace {console : Console} (h : Text.IsTidy console.buffer) :
    Text.words (console.backspace true).line = (Text.words console.line).dropLast := by
  rw [Text.words_eq_map_wordsOf, Text.words_eq_map_wordsOf, line, line, String.toList_ofList,
    String.toList_ofList, ← List.map_dropLast, ← wordsOf_withoutWord h]
  rfl

end Console

structure Text.IsCapitalWord (word : List Char) : Prop where
  nonempty : word ≠ []
  solid : ∀ c ∈ word, Text.isBlank c = false
  capitals : ∀ c ∈ word, c.isLower = false

theorem Text.isCapitalWord_upper {text : String} (hne : text ≠ "") (hsolid : IsSolid text) :
    IsCapitalWord (upper text).toList where
  nonempty := by
    obtain ⟨c, rest, hcons⟩ := List.exists_cons_of_ne_nil (mt String.toList_eq_nil_iff.mp hne)
    simp [upper, hcons, upperChar_ne_nil]
  solid := hsolid.upper
  capitals d hd := by
    rw [upper, String.toList_ofList] at hd
    obtain ⟨c, -, hd⟩ := List.mem_flatMap.mp hd
    exact not_isLower_of_mem_upperChar hd

namespace Completion

variable {World : Type} [Directory World] {world : World} {glyphs : ControlGlyphs}
  {line addition : String} {fragment : Fragment}

theorem isWord_of_mem_candidates (h : Directory.ListsWords world) {pool : Pool} {code : String}
    (hcode : code ∈ candidates world pool) : code ≠ "" ∧ Text.IsSolid code := by
  have hnames : (∀ name ∈ SystemCommand.all.map SystemCommand.name,
        name ≠ "" ∧ Text.IsSolid name) ∧
      ∀ name ∈ Command.all.map Command.name, name ≠ "" ∧ Text.IsSolid name := by
    decide +kernel
  cases pool with
  | systemCommands => exact hnames.1 code hcode
  | commands => exact hnames.2 code hcode
  | aircraft => exact h code (.aircraft hcode)
  | airports => exact h code (.airport hcode)
  | beacons => exact h code (.beacon hcode)
  | runways airport => exact h code (.runway airport hcode)

theorem isCapitalWord_of_mem_matching (h : Directory.ListsWords world) {entry : String}
    (hentry : entry ∈ matching world fragment) : Text.IsCapitalWord entry.toList := by
  obtain ⟨⟨code, hcode, rfl⟩, -⟩ := mem_matching_iff.mp hentry
  obtain ⟨hne, hsolid⟩ := isWord_of_mem_candidates h hcode
  exact Text.isCapitalWord_upper hne hsolid

/-- What is certain is a whole entry and a space, or the beginning of an entry. -/
theorem exists_mem_of_certain? {entries : List String} {word : String}
    (h : certain? entries = some word) :
    ∃ entry ∈ entries, word = entry ++ " " ∨ word.toList <+: entry.toList := by
  match entries, h with
  | [only], h => exact ⟨only, by simp, .inl (Option.some.inj h).symm⟩
  | first :: second :: others, h =>
    obtain rfl := Option.some.inj h
    have hne : first :: second :: others ≠ [] := List.cons_ne_nil _ _
    have hcommon := (Text.isPrefix_commonPrefix_iff hne).mp List.prefix_rfl
    exact ⟨first, by simp, .inr (hcommon first (by simp))⟩

/-- What is left of an entry goes on with the word that is being typed, and if nothing is left of it
then some of that word has been typed. So there is never a space at the end. -/
theorem exists_getLast?_append_drop (hfragment : fragment? glyphs line = some fragment)
    {entry : List Char} (hentry : Text.IsCapitalWord entry) :
    ∃ c, (line.toList ++ entry.drop fragment.typed.length).getLast? = some c ∧ c ≠ ' ' := by
  rw [List.getLast?_append]
  cases hrest : (entry.drop fragment.typed.length).getLast? with
  | some c =>
    have hc := hentry.solid c (List.mem_of_mem_drop (List.mem_of_getLast? hrest))
    exact ⟨c, rfl, Text.ne_space_of_not_isBlank hc⟩
  | none =>
    have hword : Text.lastWord line.toList ≠ [] := by
      intro hnone
      have htyped : fragment.typed = "" := by
        rw [typed_of_fragment? hfragment, wordInProgress, hnone]
        rfl
      rw [htyped, List.getLast?_eq_none_iff] at hrest
      exact hentry.nonempty hrest
    cases hlast : line.toList.getLast? with
    | none => exact absurd (Text.lastWord_eq_nil_iff.mpr (by rw [hlast]; rfl)) hword
    | some c =>
      rw [ne_eq, Text.lastWord_eq_nil_iff, hlast] at hword
      exact ⟨c, rfl, Text.ne_space_of_not_isBlank (by simpa using hword)⟩

/-- A tidy line stays tidy when its last word is completed. -/
theorem isTidy_append (hline : Text.IsTidy line.toList) (hworld : Directory.ListsWords world)
    (h : complete? glyphs line world = some addition) :
    Text.IsTidy (line.toList ++ addition.toList) := by
  cases hfragment : fragment? glyphs line with
  | none =>
    rw [complete?, hfragment] at h
    cases h
  | some fragment =>
    rw [complete?_of_fragment? hfragment] at h
    obtain ⟨word, hcertain, haddition⟩ := Option.bind_eq_some_iff.mp h
    dsimp only at haddition
    split at haddition
    · cases haddition
    obtain rfl := Option.some.inj haddition
    rw [String.toList_ofList]
    obtain ⟨entry, hmem, hword⟩ := exists_mem_of_certain? hcertain
    have hentry := isCapitalWord_of_mem_matching hworld hmem
    have hrest : ∀ {start : List Char}, start <+: entry.toList →
        Text.IsTidy (line.toList ++ start.drop fragment.typed.length) := fun hstart =>
      hline.append_solid
        (fun c hc => hentry.solid c (hstart.subset (List.mem_of_mem_drop hc)))
        (fun c hc => hentry.capitals c (hstart.subset (List.mem_of_mem_drop hc)))
    rcases hword with rfl | hstart
    · have hspace : (entry ++ " ").toList = entry.toList ++ [' '] := by simp
      rw [hspace]
      rcases Nat.lt_or_ge entry.toList.length fragment.typed.length with hlonger | hle
      · rw [List.drop_eq_nil_of_le (by simpa using Nat.succ_le_of_lt hlonger), List.append_nil]
        exact hline
      · obtain ⟨c, hlast, hc⟩ := exists_getLast?_append_drop hfragment hentry
        rw [List.drop_append_of_le_length hle, ← List.append_assoc]
        exact (hrest List.prefix_rfl).append_space hlast hc
    · exact hrest hstart

end Completion

theorem Text.toUpper_of_isAlphanum {c : Char} (h : c.isAlphanum = true) :
    isBlank c.toUpper = false ∧ c.toUpper.isLower = false := by
  have hascii : c.toNat < 128 := toNat_lt_of_isPlain (by rw [isPlain, h, Bool.true_or])
  exact forall_ascii
    (P := fun c => c.isAlphanum = true → isBlank c.toUpper = false ∧ c.toUpper.isLower = false)
    (by decide +kernel) hascii h

namespace ControlGlyphs.Apart

variable {glyphs : ControlGlyphs} {c : Char}

/-- What is typed for a letter, a digit or a glyph is part of a word in capitals. -/
theorem toUpper_of_ne_space (h : glyphs.Apart)
    (hc : (c.isAlphanum || c == ' ' || glyphs.isControl c) = true) (hspace : c ≠ ' ') :
    Text.isBlank c.toUpper = false ∧ c.toUpper.isLower = false := by
  have hkinds : c.isAlphanum = true ∨ glyphs.isControl c = true := by simpa [hspace] using hc
  rcases hkinds with hplain | hcontrol
  · exact Text.toUpper_of_isAlphanum hplain
  · rw [h.toUpper_glyph hcontrol]
    refine ⟨(h c hcontrol).2, Bool.eq_false_iff.mpr fun hlower => ?_⟩
    have hletter := Text.isAlphanumeric_of_isAlpha (Bool.or_eq_true_iff.mpr (.inr hlower))
    rw [(h c hcontrol).1] at hletter
    cases hletter

theorem isTidy_typed (h : glyphs.Apart) {line : List Char} (hline : Text.IsTidy line) (c : Char) :
    Text.IsTidy (Console.typed glyphs line c) := by
  unfold Console.typed
  by_cases hkey : (c.isAlphanum || c == ' ' || glyphs.isControl c) = true
  swap
  · simpa [hkey] using hline
  rw [hkey, Bool.not_true, if_neg Bool.false_ne_true]
  split
  · exact hline
  next hstray =>
  by_cases hspace : c = ' '
  · subst hspace
    obtain ⟨last, hlast, hne⟩ : ∃ last, line.getLast? = some last ∧ last ≠ ' ' := by
      cases hlast : line.getLast? with
      | none => simp [hlast] at hstray
      | some last => exact ⟨last, rfl, by simpa [hlast] using hstray⟩
    rw [h.not_isControl_of_isBlank Text.isBlank_space]
    exact hline.append_space hlast hne
  · obtain ⟨hsolid, hcapital⟩ := h.toUpper_of_ne_space hkey hspace
    have hlonger : Text.IsTidy (line ++ [c.toUpper]) :=
      hline.append_solid (List.forall_mem_singleton.mpr hsolid)
        (List.forall_mem_singleton.mpr hcapital)
    split
    · rw [List.append_cons]
      exact hlonger.append_space List.getLast?_concat (Text.ne_space_of_not_isBlank hsolid)
    · exact hlonger

end ControlGlyphs.Apart

namespace Console.IsTidy

variable {console : Console}

theorem withBuffer (h : console.IsTidy) {buffer : List Char} (hbuffer : Text.IsTidy buffer)
    (recalled : Nat) : IsTidy { console with buffer, recalled } :=
  ⟨hbuffer, h.history⟩

theorem historyUp (h : console.IsTidy) : console.historyUp.IsTidy := by
  unfold Console.historyUp
  split
  · next line hline => exact h.withBuffer (h.history line (List.mem_of_getElem? hline)) _
  · exact h

theorem historyDown (h : console.IsTidy) : console.historyDown.IsTidy := by
  unfold Console.historyDown
  split
  · exact h
  · exact h.withBuffer .nil 0
  · next earlier hrecalled =>
    refine h.withBuffer ?_ _
    cases hline : console.history[earlier]? with
    | none => exact h.buffer
    | some line => exact h.history line (List.mem_of_getElem? hline)

variable {World : Type} {world : World}

theorem complete [Directory World] (h : console.IsTidy) (hworld : Directory.ListsWords world) :
    (console.complete world).IsTidy := by
  unfold Console.complete
  split
  · next addition haddition =>
    have hbuffer : Text.IsTidy console.line.toList := by
      rw [line, String.toList_ofList]
      exact h.buffer
    have hlonger := Completion.isTidy_append hbuffer hworld haddition
    rw [line, String.toList_ofList] at hlonger
    exact h.withBuffer hlonger _
  · exact h

variable [Traffic World]

theorem submitLine (h : console.IsTidy) (world : World) {line : String}
    (hline : Text.IsTidy line.toList) : (console.submitLine world line).console.IsTidy := by
  rcases console.submitLine_settles world line with
    heq | ⟨entries, replies, obeyed, after, signal, heq⟩
  · rw [heq]
    exact h.withBuffer hline _
  · rw [heq]
    refine ⟨.nil, fun entry hentry => ?_⟩
    rw [history_settled] at hentry
    rcases List.mem_cons.mp (Settings.mem_of_mem_retained hentry) with rfl | hearlier
    · exact hline
    · exact h.history entry hearlier

theorem press (h : console.IsTidy) (hglyphs : console.settings.rules.glyphs.Apart)
    (hworld : Directory.ListsWords world) (key : Keystroke) :
    (console.press world key).console.IsTidy := by
  cases key with
  | submit =>
    rw [press_submit]
    refine h.submitLine world ?_
    rw [line, String.toList_ofList]
    exact h.buffer
  | cancel => exact h.withBuffer .nil _
  | backspace word =>
    have hstart : (console.backspace word).buffer <+: console.buffer := by
      cases word with
      | true => exact withoutWord_isPrefix console.buffer
      | false => exact List.dropLast_prefix console.buffer
    exact h.withBuffer (h.buffer.of_isPrefix hstart) _
  | historyUp =>
    simp only [Console.press]
    exact h.historyUp
  | historyDown =>
    simp only [Console.press]
    exact h.historyDown
  | complete =>
    simp only [Console.press]
    exact h.complete hworld
  | glyph text =>
    rw [Console.press, typeText]
    split
    · exact h.withBuffer (hglyphs.isTidy_typed h.buffer _) _
    · exact h

end Console.IsTidy

namespace Turn

variable {World : Type} [Traffic World]

theorem isTidy_foldl_act {turn : Turn World} (h : turn.console.IsTidy)
    (hsound : turn.console.Sound) {actions : List Action} (hkeys : ∀ line, .submit line ∉ actions)
    (hworlds : ∀ before, before <+: actions → Directory.ListsWords (before.foldl act turn).world) :
    (actions.foldl act turn).console.IsTidy := by
  induction actions generalizing turn with
  | nil => exact h
  | cons action actions ih =>
    have hrest : ∀ line, .submit line ∉ actions :=
      fun line hmem => hkeys line (List.mem_cons_of_mem _ hmem)
    refine ih ?_ (sound_act hsound action) hrest fun before hbefore => ?_
    · cases action with
      | submit line => exact absurd List.mem_cons_self (hkeys line)
      | tick => exact h
      | press key =>
        exact h.press (ReadingRules.glyphs_of_check (Settings.check_rules hsound.check)).2
          (hworlds [] List.nil_prefix) key
    · exact hworlds (action :: before) (List.cons_prefix_cons.mpr ⟨rfl, hbefore⟩)

end Turn

theorem Airspace.lists_of_follow {space : Airspace} {event : Event} {code : String}
    (h : Directory.Lists (space.follow event) code) : Directory.Lists space code := by
  obtain ⟨fleet, hfleet⟩ := space.exists_fleet_follow event
  cases h with
  | aircraft listed => exact .aircraft ((space.codes_follow_sublist event).subset listed)
  | airport listed =>
    rw [hfleet] at listed
    exact .airport listed
  | runway airport listed =>
    rw [hfleet] at listed
    exact .runway airport listed
  | beacon listed =>
    rw [hfleet] at listed
    exact .beacon listed

theorem Airspace.lists_of_foldl_follow {space : Airspace} {events : List Event} {code : String}
    (h : Directory.Lists (events.foldl follow space) code) : Directory.Lists space code := by
  induction events generalizing space with
  | nil => exact h
  | cons event events ih => exact lists_of_follow (ih h)

theorem Turn.listsWords_foldl_act {turn : Turn Airspace} (h : Directory.ListsWords turn.world)
    (actions : List Action) : Directory.ListsWords (actions.foldl act turn).world := by
  obtain ⟨events, -, hworld⟩ := turn.exists_events_run actions
  rw [hworld]
  exact fun code hcode => h code (Airspace.lists_of_foldl_follow hcode)

/-- Whatever is done with the keys at a console that was opened with some settings, as time goes on
in a world of which all codes are words, the line being typed and the lines of the history are tidy,
and the key that deletes a word deletes the last one of the line. In an airspace all codes stay words
that were words at first. -/
theorem keys_edit_words {settings : Settings} {opened : Console}
    (h : Console.ofSettings settings = .ok opened) (system : SystemHandler)
    {actions : List Action} (hkeys : ∀ line, .submit line ∉ actions) :
    (∀ (World : Type) [Traffic World] (world : World),
      let start : Turn World := { console := { opened with system }, world }
      (∀ before, before <+: actions →
        Directory.ListsWords (before.foldl Turn.act start).world) →
      (actions.foldl Turn.act start).EditsWords) ∧
    ∀ space : Airspace, Directory.ListsWords space →
      let start : Turn Airspace := { console := { opened with system }, world := space }
      (actions.foldl Turn.act start).EditsWords := by
  have hworlds : ∀ (World : Type) [Traffic World] (world : World),
      let start : Turn World := { console := { opened with system }, world }
      (∀ before, before <+: actions →
        Directory.ListsWords (before.foldl Turn.act start).world) →
      (actions.foldl Turn.act start).EditsWords := by
    intro World _ world start hwords
    have hsound : start.console.Sound := (Console.sound_of_ofSettings h).of_eq rfl rfl
    obtain ⟨-, rfl⟩ := Console.ofSettings_eq_ok_iff.mp h
    have hstart : start.console.IsTidy := ⟨.nil, List.forall_mem_nil _⟩
    have htidy := Turn.isTidy_foldl_act hstart hsound hkeys hwords
    exact ⟨htidy, Console.words_backspace htidy.buffer⟩
  refine ⟨hworlds, fun space hwords => ?_⟩
  exact hworlds Airspace space fun before _ => Turn.listsWords_foldl_act hwords before

/-- A glyph and a letter are typed and completed to what two aircraft have in common. -/
theorem keys_edit_words_completed :
    let space : Airspace :=
      ({ beacons := ["DOVER"] } : Airspace)
        |>.withAircraft (.airborne "BAW1")
        |>.withAircraft (.airborne "BAW2")
    ∃ opened, Console.ofSettings {} = .ok opened ∧ Directory.ListsWords space ∧
      let start : Turn Airspace := { console := opened, world := space }
      let actions : List Action :=
        [.press (.glyph "."), .press (.glyph "b"), .tick, .press .complete]
      let turn := actions.foldl Turn.act start
      turn.console.line = ". BAW" ∧ turn.console.IsTidy ∧
        Text.words (turn.act (.press (.backspace true))).console.line = ["."] := by
  intro space
  have hcheck : ({} : Settings).check = .ok () := by decide +kernel
  have hopened := Console.ofSettings_eq_ok_iff.mpr ⟨hcheck, rfl⟩
  have hcodes : ∀ code ∈ ["BAW1", "BAW2", "DOVER"], code ≠ "" ∧ Text.IsSolid code := by
    decide +kernel
  have hspace : Directory.ListsWords space := by
    intro code hcode
    cases hcode with
    | aircraft listed =>
      have hfleet : Directory.aircraft space = ["BAW1", "BAW2"] := by decide +kernel
      rw [hfleet] at listed
      exact hcodes code (List.mem_append_left ["DOVER"] listed)
    | airport listed => cases listed
    | runway airport listed => cases listed
    | beacon listed => exact hcodes code (List.mem_append_right ["BAW1", "BAW2"] listed)
  refine ⟨_, hopened, hspace, ?_⟩
  intro start actions turn
  have hkeys : ∀ line, .submit line ∉ actions := by simp [actions]
  obtain ⟨-, hairspaces⟩ := keys_edit_words hopened start.console.system hkeys
  obtain ⟨htidy, hwords⟩ := hairspaces space hspace
  have hline : turn.console.line = ". BAW" := by decide +kernel
  refine ⟨hline, htidy, hwords.trans ?_⟩
  change (Text.words turn.console.line).dropLast = ["."]
  rw [hline]
  decide +kernel

end ControlTower
