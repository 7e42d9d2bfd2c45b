import ControlTower.Proofs.Phraseology.Retyping

/-!
# How an accepted transmission ends

Much can be told from the last two words of a transmission that has been accepted. The last of them
is an argument, a flag, or a word that gives an instruction all by itself. It names no aircraft, and
the only spelling of a command to land among such words is the letter `l`, which is also the flag of
a long turn, the flag of giving up what was queued last, and a way to say left. For the word before
the last the same holds of that letter, as a command to land is followed by two words at least.
-/

namespace ControlTower

variable {rules : ReadingRules}

section

variable {word : String} {c : Char} (hhead : word.toList.head? = some c) (hc : c.isAlpha = false)

include hhead hc

theorem Argument.not_isIdentifier_of_head? : isIdentifier word = false := by
  apply Bool.eq_false_iff.mpr
  intro hword
  obtain ⟨letters, digits, heq, hthree, -, hletters, -⟩ := isIdentifier_iff.mp hword
  obtain ⟨a, b, d, rfl⟩ := List.length_eq_three.mp hthree
  rw [heq] at hhead
  obtain rfl : a = c := Option.some.inj hhead
  rw [hletters a (by simp)] at hc
  cases hc

theorem Command.not_isSpelled_of_head? (command : Command) : command.isSpelled word = false := by
  apply Bool.eq_false_iff.mpr
  intro hword
  have hletters : ∀ command ∈ all, ∀ spelling ∈ command.spellings,
      spelling.toList.head?.all Char.isAlpha = true := by
    decide +kernel
  have hletter := hletters command (mem_all command) word (by simpa [isSpelled] using hword)
  rw [hhead, Option.all_some, hc] at hletter
  cases hletter

end

theorem Text.not_isAlpha_of_not_isAlphanumeric {c : Char} (h : isAlphanumeric c = false) :
    c.isAlpha = false := by
  apply Bool.eq_false_iff.mpr
  intro halpha
  rw [isAlphanumeric_of_isAlpha halpha] at h
  cases h

theorem Text.exists_isDigit_of_digitsValue? {digits : List Char} {n : Nat}
    (h : digitsValue? digits = some n) : ∃ c rest, digits = c :: rest ∧ c.isDigit = true := by
  unfold digitsValue? at h
  split at h
  · next hdigits =>
    cases digits with
    | nil => cases hdigits
    | cons c rest =>
      simp only [List.all_cons, Bool.and_eq_true] at hdigits
      exact ⟨c, rest, rfl, hdigits.2.1⟩
  · cases h

/-- A numeral begins with a sign or with a digit. -/
theorem Text.exists_head?_of_integer? {word : String} {n : Int} (h : integer? word = some n) :
    ∃ c, word.toList.head? = some c ∧ c.isAlpha = false := by
  obtain ⟨hvalue, -⟩ := Option.filter_eq_some_iff.mp h
  generalize word.toList = chars at hvalue ⊢
  unfold signedValue? at hvalue
  split at hvalue
  · exact ⟨_, rfl, by decide⟩
  · exact ⟨_, rfl, by decide⟩
  · obtain ⟨value, hdigits, -⟩ := Option.map_eq_some_iff.mp hvalue
    obtain ⟨c, rest, rfl, hc⟩ := exists_isDigit_of_digitsValue? hdigits
    exact ⟨c, rfl, not_isAlpha_of_isDigit hc⟩

theorem Command.not_isSpelled_condensed {command : Command} {letter : Char} {digits : List Char}
    (several : 2 ≤ digits.length) (decimal : ∀ c ∈ digits, c.isDigit = true) :
    command.isSpelled (String.ofList (letter :: digits)) = false := by
  apply Bool.eq_false_iff.mpr
  intro hspelled
  exact not_digits_of_mem_spellings (List.contains_iff_mem.mp hspelled) String.toList_ofList
    ⟨several, List.all_eq_true.mpr decimal⟩

structure Trails (word : String) : Prop where
  not_identifier : Argument.isIdentifier word = false
  not_heading : Command.heading.isSpelled word = false
  land : Command.land.isSpelled word = true → word = "l"

theorem trails_of_not_isSpelled {word : String} (hidentifier : Argument.isIdentifier word = false)
    (h : ∀ command : Command, command.isSpelled word = false) : Trails word where
  not_identifier := hidentifier
  not_heading := h .heading
  land hland := by
    rw [h .land] at hland
    cases hland

theorem trails_of_head? {word : String} {c : Char} (hhead : word.toList.head? = some c)
    (hc : c.isAlpha = false) : Trails word :=
  trails_of_not_isSpelled (Argument.not_isIdentifier_of_head? hhead hc)
    (Command.not_isSpelled_of_head? hhead hc)

theorem trails_of_integer? {word : String} {n : Int} (h : Text.integer? word = some n) :
    Trails word := by
  obtain ⟨c, hhead, hc⟩ := Text.exists_head?_of_integer? h
  exact trails_of_head? hhead hc

theorem trails_of_isAirport {word : String} (h : Argument.isAirport word = true) :
    Trails word := by
  have hlengths : ∀ spelling ∈ Command.heading.spellings ++ Command.land.spellings,
      spelling.toList.length ≠ 3 := by
    decide
  have hthree : word.toList.length = 3 := by
    simp only [Argument.isAirport, Bool.and_eq_true, beq_iff_eq] at h
    exact h.1
  have hnot : ∀ command ∈ [Command.heading, Command.land], command.isSpelled word = false := by
    intro command hcommand
    apply Bool.eq_false_iff.mpr
    intro hspelled
    refine hlengths word ?_ hthree
    rw [Command.isSpelled, List.contains_iff_mem] at hspelled
    rcases List.mem_pair.mp hcommand with rfl | rfl
    · exact List.mem_append_left _ hspelled
    · exact List.mem_append_right _ hspelled
  refine ⟨by simp [Argument.isIdentifier, hthree], hnot _ (by simp), fun hland => ?_⟩
  rw [hnot _ (by simp)] at hland
  cases hland

theorem trails_of_isRunway {word : String} (h : Argument.isRunway word = true) : Trails word := by
  have hdigit : ∃ c, word.toList.head? = some c ∧ c.isDigit = true := by
    unfold Argument.isRunway at h
    split at h <;> simp_all
  obtain ⟨c, hhead, hc⟩ := hdigit
  exact trails_of_head? hhead (Text.not_isAlpha_of_isDigit hc)

theorem trails_of_isTurnDirection {word : String} (h : Argument.isTurnDirection word = true) :
    Trails word where
  not_identifier := by
    apply Bool.eq_false_iff.mpr
    intro hword
    have hascii : Text.IsAscii word := (Argument.isIdentifier_iff.mp hword).toNat_lt
    have hlength : ∀ direction ∈ Argument.turnDirections, direction.toList.length ≠ 7 := by decide
    refine hlength _ (List.contains_iff_mem.mp h) ?_
    simp only [Argument.isIdentifier, Bool.and_eq_true, beq_iff_eq] at hword
    rw [hascii.length_toList_lower, hword.1.1]
  not_heading := by
    have hnot : ∀ spelling ∈ Command.heading.spellings,
        Argument.isTurnDirection spelling = false := by
      decide +kernel
    apply Bool.eq_false_iff.mpr
    intro hheading
    rw [hnot word (List.contains_iff_mem.mp hheading)] at h
    cases h
  land hland := by
    have honly : ∀ spelling ∈ Command.land.spellings,
        Argument.isTurnDirection spelling = true → spelling = "l" := by
      decide +kernel
    exact honly word (List.contains_iff_mem.mp hland) h

theorem trails_of_spellsFlag {command : Command} {word : String} {flag : Flag}
    (h : command.SpellsFlag word flag) : Trails word := by
  have hflags : ∀ command ∈ Command.all, ∀ entry ∈ command.flags, ∀ word ∈ entry.2,
      Argument.isIdentifier word = false ∧ Command.heading.isSpelled word = false ∧
        (Command.land.isSpelled word = true → word = "l") := by
    decide +kernel
  obtain ⟨spellings, hentry, hword⟩ := h
  obtain ⟨hidentifier, hheading, hland⟩ :=
    hflags command (Command.mem_all command) _ hentry word hword
  exact ⟨hidentifier, hheading, hland⟩

/-- Arguments are such words. -/
theorem trails_of_mem_given {command : Command} {given : List String} {arguments : List Argument}
    (enough : given.length = command.arity) (form : command.read? rules given = some arguments)
    {word : String} (hword : word ∈ given) : Trails word := by
  cases command with
  | abort =>
    rw [List.length_eq_zero_iff.mp enough] at hword
    cases hword
  | land =>
    obtain ⟨airport, runway, rfl⟩ := List.length_eq_two.mp enough
    simp only [Command.read?, Command.argumentKind?, ArgumentKind.read?,
      Option.ite_none_right_eq_some, Bool.and_eq_true] at form
    rcases List.mem_pair.mp hword with rfl | rfl
    · exact trails_of_isAirport form.1.1
    · exact trails_of_isRunway form.1.2
  | circle =>
    obtain ⟨direction, rfl⟩ := List.length_eq_one_iff.mp enough
    obtain rfl := List.mem_singleton.mp hword
    simp only [Command.read?, Command.argumentKind?, ArgumentKind.read?,
      Option.ite_none_right_eq_some] at form
    exact trails_of_isTurnDirection form.1
  | heading =>
    obtain ⟨degrees, rfl⟩ := List.length_eq_one_iff.mp enough
    obtain rfl := List.mem_singleton.mp hword
    obtain ⟨value, hvalue, -⟩ := Option.map_eq_some_iff.mp form
    exact trails_of_integer? (Option.filter_eq_some_iff.mp hvalue).1
  | altitude | takeoff =>
    obtain ⟨hundreds, rfl⟩ := List.length_eq_one_iff.mp enough
    obtain rfl := List.mem_singleton.mp hword
    obtain ⟨value, hvalue, -⟩ := Option.map_eq_some_iff.mp form
    obtain ⟨typed, htyped, -⟩ := Option.map_eq_some_iff.mp (Option.filter_eq_some_iff.mp hvalue).1
    exact trails_of_integer? (Option.filter_eq_some_iff.mp htyped).1
  | speed =>
    obtain ⟨hundreds, rfl⟩ := List.length_eq_one_iff.mp enough
    obtain rfl := List.mem_singleton.mp hword
    obtain ⟨value, hvalue, -⟩ := Option.map_eq_some_iff.mp form
    obtain ⟨typed, htyped, -⟩ := Option.map_eq_some_iff.mp hvalue
    exact trails_of_integer? htyped

namespace Segment.Spelled

variable {segment : Segment} (h : segment.Spelled rules) {first second word : String}

include h

theorem trails_of_mem_flagWords (hword : word ∈ segment.flagWords) : Trails word := by
  have hflags := h.flags
  generalize segment.flagWords = flagWords at hword hflags
  generalize segment.given = given at hflags
  induction hflags with
  | nil => cases hword
  | cons hflag _ ih =>
    rcases List.mem_cons.mp hword with rfl | hword
    · exact trails_of_spellsFlag hflag
    · exact ih hword

theorem trails_of_mem_tail (hword : word ∈ segment.words.tail) : Trails word := by
  have hopening := h.opening
  have hflags : word ∈ segment.flagWords → Trails word := h.trails_of_mem_flagWords
  rw [words] at hword
  generalize segment.opening = opening at hopening hword
  cases hopening with
  | spelled spelling enough form =>
    rcases List.mem_append.mp hword with hgiven | hflag
    · exact trails_of_mem_given enough form hgiven
    · exact hflags hflag
  | condensed stands several decimal form => exact hflags hword

/-- A word that gives an instruction all by itself is a condensed one, or one to abort. -/
theorem trails_of_words_eq_singleton (hwords : segment.words = [word]) : Trails word := by
  have hidentifier : Argument.isIdentifier word = false :=
    Bool.eq_false_iff.mpr (mt Argument.isIdentifier_iff.mp (h.not_isIdentifier hwords))
  have hopening := h.opening
  rw [words] at hwords
  generalize segment.opening = opening at hopening hwords
  cases hopening with
  | spelled spelling enough form =>
    obtain ⟨rfl, hnone⟩ := List.cons.inj hwords
    rw [(List.append_eq_nil_iff.mp hnone).1, List.length_nil] at enough
    have hnot : ∀ command ∈ Command.all, 0 = command.arity → ∀ spelling ∈ command.spellings,
        Command.heading.isSpelled spelling = false ∧ Command.land.isSpelled spelling = false := by
      decide
    obtain ⟨hheading, hland⟩ := hnot _ (Command.mem_all _) enough _ spelling
    exact ⟨hidentifier, hheading, by simp [hland]⟩
  | @condensed letter digits _ stands several decimal form =>
    obtain ⟨rfl, -⟩ := List.cons.inj hwords
    exact trails_of_not_isSpelled hidentifier fun _ =>
      Command.not_isSpelled_condensed several decimal

theorem not_land_of_words_eq_pair (hwords : segment.words = [first, second]) :
    Command.land.isSpelled first = false := by
  have hopening := h.opening
  rw [words] at hwords
  generalize segment.opening = opening at hopening hwords
  cases hopening with
  | @spelled _ given _ spelling enough form =>
    obtain rfl := (List.cons.inj hwords).1
    have hothers : given ++ segment.flagWords = [second] := (List.cons.inj hwords).2
    apply Bool.eq_false_iff.mpr
    intro hland
    have hcommand : segment.command = .land := Option.some.inj
      ((Command.ofWord?_eq_some_iff.mpr spelling).symm.trans
        (Command.ofWord?_eq_some_iff.mpr (List.contains_iff_mem.mp hland)))
    have hlength := congrArg List.length hothers
    rw [hcommand] at enough
    rw [List.length_append, enough] at hlength
    simp only [Command.arity, List.length_singleton] at hlength
    omega
  | condensed stands several decimal form =>
    obtain ⟨rfl, -⟩ := List.cons.inj hwords
    exact Command.not_isSpelled_condensed several decimal

end Segment.Spelled

structure EndsLike (words : List String) (second latest : String) : Prop where
  isSuffix : [second, latest] <:+ words
  latest : Trails latest
  second : Command.land.isSpelled second = true → second = "l"

theorem EndsLike.isSuffix_iff {words : List String} {second latest a b : String}
    (h : EndsLike words second latest) : [a, b] <:+ words ↔ a = second ∧ b = latest := by
  constructor
  · intro hsuffix
    have hwithin := List.suffix_of_suffix_length_le hsuffix h.isSuffix (Nat.le_refl _)
    simpa using hwithin.eq_of_length rfl
  · rintro ⟨rfl, rfl⟩
    exact h.isSuffix

theorem Segment.Spelled.exists_endsLike {segment : Segment} (h : segment.Spelled rules)
    (before : List String) {word : String}
    (hword : Command.land.isSpelled word = true → word = "l") :
    ∃ second latest, EndsLike (before ++ word :: segment.words) second latest := by
  cases hwords : segment.words using List.reverseRecOn with
  | nil => exact absurd hwords h.words_ne_nil
  | append_singleton others latest =>
    cases others using List.reverseRecOn with
    | nil =>
      refine ⟨word, latest, ⟨before, by simp⟩, h.trails_of_words_eq_singleton hwords, hword⟩
    | append_singleton others second =>
      have htail : ∀ other ∈ segment.words.tail, Trails other := fun _ => h.trails_of_mem_tail
      have hlatest : Trails latest := htail latest (by
        rw [hwords, List.tail_append_of_ne_nil (by simp)]
        simp)
      refine ⟨second, latest, ⟨before ++ word :: others, by simp⟩, hlatest, ?_⟩
      cases others with
      | nil =>
        intro hland
        rw [h.not_land_of_words_eq_pair hwords] at hland
        cases hland
      | cons first others => exact (htail second (by simp [hwords])).land

theorem exists_endsLike_of_spelled {segments : List Segment}
    (h : ∀ segment ∈ segments, segment.Spelled rules) (hne : segments ≠ []) (before : List String)
    {word : String} (hword : Command.land.isSpelled word = true → word = "l") :
    ∃ second latest,
      EndsLike (before ++ word :: segments.flatMap Segment.words) second latest := by
  induction segments generalizing before word with
  | nil => exact absurd rfl hne
  | cons segment segments ih =>
    obtain ⟨hsegment, hsegments⟩ := List.forall_mem_cons.mp h
    obtain ⟨second, latest, hends⟩ := hsegment.exists_endsLike before hword
    by_cases hlast : segments = []
    · subst hlast
      exact ⟨second, latest, by simpa using hends⟩
    · obtain ⟨front, hfront⟩ := hends.isSuffix
      obtain ⟨second', latest', hends'⟩ :=
        ih hsegments hlast (front ++ [second]) hends.latest.land
      refine ⟨second', latest', ?_⟩
      have hsplit : before ++ word :: (segment :: segments).flatMap Segment.words =
          front ++ [second] ++ latest :: segments.flatMap Segment.words := by
        rw [List.flatMap_cons, ← List.cons_append, ← List.append_assoc, ← hfront]
        simp
      rwa [hsplit]

/-- How a line falls into words when it is read as a transmission: a word that is no command to land
addresses the aircraft, and the words of one segment or more follow it. -/
def Addressed (rules : ReadingRules) (words : List String) : Prop :=
  ∃ before word segments, words = before ++ word :: segments.flatMap Segment.words ∧
    Command.land.isSpelled word = false ∧ segments ≠ [] ∧
      ∀ segment ∈ segments, segment.Spelled rules

theorem Addressed.exists_endsLike {words : List String} (h : Addressed rules words) :
    ∃ second latest, EndsLike words second latest := by
  obtain ⟨before, word, segments, rfl, hword, hne, hspelled⟩ := h
  exact exists_endsLike_of_spelled hspelled hne before (by simp [hword])

theorem Addressee.addressed {addressee : List String} {mode : Mode} {target : String}
    (h : Addressee rules addressee mode target) {segments : List Segment} (hne : segments ≠ [])
    (hspelled : ∀ segment ∈ segments, segment.Spelled rules) :
    Addressed rules (addressee ++ segments.flatMap Segment.words) := by
  cases h with
  | @execute word identifier =>
    exact ⟨[], word, segments, rfl, Command.not_isSpelled_of_isIdentifier identifier, hne, hspelled⟩
  | @enqueue glyph word other queued identifier =>
    exact ⟨[glyph], word, segments, rfl, Command.not_isSpelled_of_isIdentifier identifier, hne,
      hspelled⟩

/-- Where the glyph is glued to the name of the aircraft, both together address it. -/
theorem addressed_of_glued (hglyphs : rules.glyphs.Apart) {glyph : Char}
    (hcontrol : rules.glyphs.isControl glyph = true) {rest : List Char} {word : String}
    {segments : List Segment} (hword : Command.land.isSpelled word = false) (hne : segments ≠ [])
    (hspelled : ∀ segment ∈ segments, segment.Spelled rules)
    (hrest : Text.words (Text.lower (String.ofList rest)) =
      word :: segments.flatMap Segment.words) :
    Addressed rules (Text.words (Text.lower (String.ofList (glyph :: rest)))) := by
  obtain ⟨hletter, hsolid⟩ := hglyphs glyph hcontrol
  rw [Text.words_lower_ofList] at hrest ⊢
  by_cases hnext : ∃ c ∈ rest.head?, Text.isBlank c = false
  · obtain ⟨c, hc, hcsolid⟩ := hnext
    obtain ⟨first, others, hfirst, hglued⟩ := Text.exists_wordsOf_glued hsolid hc hcsolid
    rw [hfirst] at hrest
    have hothers := (List.cons.inj hrest).2
    have hhead : (Text.lower (String.ofList (glyph :: first))).toList.head? = some glyph := by
      rw [Text.head?_lower_eq_some_iff hletter, String.toList_ofList]
      rfl
    refine ⟨[], _, segments, ?_, Command.not_isSpelled_of_head? hhead
      (Text.not_isAlpha_of_not_isAlphanumeric hletter) .land, hne, hspelled⟩
    rw [hglued, List.map_cons, ← hothers]
    rfl
  · have hapart : ∀ c ∈ rest.head?, Text.isBlank c = true := by
      intro c hc
      by_contra hcsolid
      exact hnext ⟨c, hc, Bool.eq_false_iff.mpr hcsolid⟩
    have hparted := Text.wordsOf_append_of_apart (List.cons_ne_nil _ _)
      (List.forall_mem_singleton.mpr hsolid) hapart
    refine ⟨[String.ofList [glyph]], word, segments, ?_, hword, hne, hspelled⟩
    rw [← List.singleton_append, hparted, List.map_cons, hglyphs.lower_glyph hcontrol, hrest]
    rfl

namespace ReadingRules

variable {line target : String} {mode : Mode} {instructions : List Instruction}

theorem exists_addressee_of_read
    (h : rules.read line = .accepted (.aircraft mode target instructions)) :
    ∃ addressee segments, rules.glyphs.tokens line = addressee ++ segments.flatMap Segment.words ∧
      Addressee rules addressee mode target ∧ segments ≠ [] ∧
      ∀ segment ∈ segments, segment.Spelled rules := by
  rw [read_eq_outcome, Stage.outcome_eq_aircraft_iff] at h
  obtain ⟨⟨addressee, segments⟩, hwords, hgives, hpossible⟩ := h
  refine ⟨addressee, segments, hwords.symm, hgives.addressee, ?_, hgives.segments.spelled⟩
  have hsome := hpossible.some_given
  have hinstructions : instructions = segments.map Segment.instruction := hgives.instructions
  rintro rfl
  exact hsome (by rw [hinstructions]; rfl)

/-- The words of a line that is read as a transmission, whether or not its glyph has been set apart
from what is glued to it. Such a line does not begin with the system glyph. -/
theorem addressed_of_read (check : rules.check = .ok ())
    (h : rules.read line = .accepted (.aircraft mode target instructions)) :
    line.toList.head? ≠ some rules.glyphs.system ∧
      Addressed rules (Text.words (Text.lower line)) := by
  obtain ⟨hdifferent, hglyphs⟩ := glyphs_of_check check
  obtain ⟨addressee, segments, htokens, haddressee, hne, hspelled⟩ := exists_addressee_of_read h
  rw [ControlGlyphs.tokens_eq] at htokens
  rw [← String.ofList_toList (s := line)]
  generalize line.toList = chars at htokens ⊢
  rw [String.toList_ofList]
  by_cases hcontrol : ∃ glyph ∈ chars.head?, rules.glyphs.isControl glyph = true
  · obtain ⟨glyph, hglyph, hcontrol⟩ := hcontrol
    obtain ⟨rest, rfl⟩ := List.head?_eq_some_iff.mp hglyph
    obtain ⟨hletter, hsolid⟩ := hglyphs glyph hcontrol
    have hhead : (String.ofList [glyph]).toList.head? = some glyph := by
      rw [String.toList_ofList]
      rfl
    rw [ControlGlyphs.wordsOf_separate hcontrol hsolid, List.map_cons,
      ControlGlyphs.Apart.lower_glyph hglyphs hcontrol, ← Text.words_lower_ofList] at htokens
    cases haddressee with
    | execute identifier =>
      obtain ⟨rfl, -⟩ := List.cons.inj htokens
      have hnot := Argument.not_isIdentifier_of_head? hhead
        (Text.not_isAlpha_of_not_isAlphanumeric hletter)
      rw [Argument.isIdentifier_iff.mpr identifier] at hnot
      cases hnot
    | enqueue other queued identifier =>
      obtain ⟨rfl, hrest⟩ := List.cons.inj htokens
      obtain rfl : glyph = rules.glyphs.queue := Option.some.inj (hhead.symm.trans queued)
      exact ⟨by simpa using hdifferent, addressed_of_glued hglyphs hcontrol
        (Command.not_isSpelled_of_isIdentifier identifier) hne hspelled hrest⟩
  · have hnot : ∀ c ∈ chars.head?, rules.glyphs.isControl c = false :=
      fun c hc => Bool.eq_false_iff.mpr fun hc' => hcontrol ⟨c, hc, hc'⟩
    rw [ControlGlyphs.separate_of_head? hnot, ← Text.words_lower_ofList] at htokens
    refine ⟨fun hhead => hcontrol ⟨_, hhead, by simp [ControlGlyphs.isControl]⟩, ?_⟩
    rw [htokens]
    exact haddressee.addressed hne hspelled

end ReadingRules

end ControlTower
