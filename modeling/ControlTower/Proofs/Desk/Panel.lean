import ControlTower.Proofs.Desk.Script
import ControlTower.Proofs.Desk.Work
import ControlTower.Proofs.Phraseology.Reach
import Mathlib.Data.List.Basic
import Mathlib.Logic.Function.Basic

/-!
# When the panel is drawn

Viewing entries gives the picture that drawing them would give, though they are not drawn every
time. They are drawn when nothing has been viewed before, when the picture has been forgotten since
it was viewed, and when other entries were viewed last; it does not matter by how many transcripts
the entries are supplied, nor what has been written in the meantime. What carries this is that the
two things a drawing keeps belong together: the picture is one of the entries that were viewed last,
and if either of them is gone then so is the other.

In a session the panel is shown after each line that is answered at the terminal, and nowhere else.
What is printed then is the panel if it was drawn, and nothing otherwise.
-/

namespace ControlTower

namespace Drawing

variable {Picture : Type} {drawing : Drawing Picture} {entries : List Entry}

inductive Use where
  | view (entries : List Entry)
  | forget
deriving Repr, DecidableEq

def use (drawing : Drawing Picture) : Use → Drawing Picture
  | .view entries => (drawing.view entries).2
  | .forget => drawing.forget

def Use.entries? : Use → Option (List Entry)
  | .view entries => some entries
  | .forget => none

/-- The entries of which there is a picture after some uses: those that were viewed last, unless the
picture has been forgotten. -/
def remembered? (uses : List Use) : Option (List Entry) := uses.getLast?.bind Use.entries?

/-- After some uses it takes a drawing to show entries. -/
inductive Due (entries : List Entry) : List Use → Prop where
  | first {uses : List Use} (unviewed : ∀ other, .view other ∉ uses) : Due entries uses
  /-- The picture has been forgotten since something was viewed last. -/
  | forgotten (before : List Use) (earlier : List Entry) {later : List Use}
      (unviewed : ∀ other, .view other ∉ later) (forgotten : .forget ∈ later) :
      Due entries (before ++ .view earlier :: later)
  /-- What was viewed last is not the same. -/
  | changed (before : List Use) {earlier : List Entry} {later : List Use}
      (unviewed : ∀ other, .view other ∉ later) (ne : earlier ≠ entries) :
      Due entries (before ++ .view earlier :: later)

/-- A drawing has a picture of the given entries and no others, or no picture at all. -/
structure Keeps (drawing : Drawing Picture) (entries? : Option (List Entry)) : Prop where
  shown_eq : drawing.shown? = entries?
  picture_eq : drawing.picture? = entries?.map drawing.draw

/-- After some uses entries are shown as `draw` draws them, and `draw` is made use of for that only
if it has to be. Otherwise the picture does not depend on how entries would be drawn now, and the
drawing stays as it is. -/
structure DrawnWhenDue (drawing : Drawing Picture) (draw : List Entry → Picture) (uses : List Use)
    (entries : List Entry) : Prop where
  picture_eq : (drawing.view entries).1 = draw entries
  count_iff : (drawing.view entries).2.count = drawing.count + 1 ↔ Due entries uses
  drawn : Due entries uses → ∀ other : List Entry → Picture,
    (view { drawing with draw := other } entries).1 = other entries
  kept : ¬ Due entries uses → (drawing.view entries).2 = drawing ∧
    ∀ other : List Entry → Picture, (view { drawing with draw := other } entries).1 = draw entries

theorem remembered?_append_singleton (uses : List Use) (last : Use) :
    remembered? (uses ++ [last]) = last.entries? := by
  rw [remembered?, List.getLast?_concat, Option.bind_some]

theorem getLast?_of_remembered? {uses : List Use} (h : remembered? uses = some entries) :
    uses.getLast? = some (.view entries) := by
  obtain ⟨last, hlast, hentries⟩ := Option.bind_eq_some_iff.mp h
  cases last with
  | view other => rw [hlast, Option.some.inj hentries]
  | forget => cases hentries

/-- If anything was viewed, something was viewed last. -/
theorem exists_last_view {uses : List Use} {viewed : List Entry} (h : .view viewed ∈ uses) :
    ∃ before earlier later, uses = before ++ .view earlier :: later ∧
      ∀ other, .view other ∉ later := by
  induction uses using List.reverseRecOn with
  | nil => cases h
  | append_singleton uses last ih =>
    cases last with
    | view other => exact ⟨uses, other, [], rfl, fun _ => List.not_mem_nil⟩
    | forget =>
      have hbefore : .view viewed ∈ uses := by simpa using h
      obtain ⟨before, earlier, later, rfl, hlater⟩ := ih hbefore
      exact ⟨before, earlier, later ++ [.forget], by simp, by simpa using hlater⟩

/-- A drawing is due exactly when there is no picture of the entries. -/
theorem due_iff {uses : List Use} : Due entries uses ↔ remembered? uses ≠ some entries := by
  constructor
  · intro hdue hremembered
    have hlast := getLast?_of_remembered? hremembered
    cases hdue with
    | first unviewed => exact unviewed entries (List.mem_of_getLast? hlast)
    | @forgotten before earlier later unviewed forgotten =>
      have hne : later ≠ [] := List.ne_nil_of_mem forgotten
      rw [List.getLast?_append_cons, List.getLast?_cons_of_ne_nil hne] at hlast
      exact unviewed entries (List.mem_of_getLast? hlast)
    | @changed before earlier later unviewed ne =>
      rw [List.getLast?_append_cons] at hlast
      cases later with
      | nil =>
        cases hlast
        exact ne rfl
      | cons next rest =>
        rw [List.getLast?_cons_of_ne_nil (List.cons_ne_nil _ _)] at hlast
        exact unviewed entries (List.mem_of_getLast? hlast)
  · intro hother
    by_cases hviewed : ∃ viewed, .view viewed ∈ uses
    · obtain ⟨viewed, hmem⟩ := hviewed
      obtain ⟨before, earlier, later, rfl, hunviewed⟩ := exists_last_view hmem
      by_cases hforgotten : .forget ∈ later
      · exact .forgotten before earlier hunviewed hforgotten
      · have hnothing : later = [] := List.eq_nil_iff_forall_not_mem.mpr fun use huse => by
          cases use with
          | view other => exact hunviewed other huse
          | forget => exact hforgotten huse
        rw [hnothing, remembered?_append_singleton] at hother
        exact .changed before hunviewed fun heq => hother (congrArg some heq)
    · exact .first fun other hmem => hviewed ⟨other, hmem⟩

instance (entries : List Entry) (uses : List Use) : Decidable (Due entries uses) :=
  decidable_of_iff _ due_iff.symm

theorem view_of_shown?_ne (h : drawing.shown? ≠ some entries) :
    drawing.view entries = (drawing.draw entries, drawing.redraw entries) := by
  rw [view, discard, if_neg h]
  rfl

theorem view_of_picture? {picture : Picture} (hshown : drawing.shown? = some entries)
    (hpicture : drawing.picture? = some picture) : drawing.view entries = (picture, drawing) := by
  simp only [view, discard, if_pos hshown, hpicture]

theorem Keeps.use {entries? : Option (List Entry)} (h : drawing.Keeps entries?) (use : Use) :
    (drawing.use use).Keeps use.entries? := by
  cases use with
  | forget => exact ⟨rfl, rfl⟩
  | view entries =>
    rw [Drawing.use]
    by_cases hshown : entries? = some entries
    · subst hshown
      rw [view_of_picture? h.shown_eq h.picture_eq]
      exact h
    · rw [view_of_shown?_ne (h.shown_eq.trans_ne hshown)]
      exact ⟨rfl, rfl⟩

theorem draw_discard (drawing : Drawing Picture) (entries : List Entry) :
    (drawing.discard entries).draw = drawing.draw := by
  unfold discard
  split <;> rfl

theorem draw_view (drawing : Drawing Picture) (entries : List Entry) :
    (drawing.view entries).2.draw = drawing.draw := by
  rw [view]
  split
  · exact drawing.draw_discard entries
  · exact drawing.draw_discard entries

theorem count_view (drawing : Drawing Picture) (entries : List Entry) :
    (drawing.view entries).2.count = drawing.count ∨
      (drawing.view entries).2.count = drawing.count + 1 := by
  have hdiscard : (drawing.discard entries).count = drawing.count := by
    unfold discard
    split <;> rfl
  rw [view]
  split
  · exact .inl hdiscard
  · exact .inr (congrArg (· + 1) hdiscard)

theorem draw_foldl_use (drawing : Drawing Picture) (uses : List Use) :
    (uses.foldl use drawing).draw = drawing.draw := by
  induction uses generalizing drawing with
  | nil => rfl
  | cons use uses ih =>
    rw [List.foldl_cons, ih]
    cases use with
    | view entries => exact drawing.draw_view entries
    | forget => rfl

/-- However it is used, a new drawing comes to keep what was viewed last. -/
theorem keeps_foldl_use (draw : List Entry → Picture) (uses : List Use) :
    (uses.foldl use { draw }).Keeps (remembered? uses) := by
  induction uses using List.reverseRecOn with
  | nil => exact ⟨rfl, rfl⟩
  | append_singleton uses last ih =>
    rw [List.foldl_append, remembered?_append_singleton]
    exact ih.use last

theorem drawnWhenDue_foldl_use (draw : List Entry → Picture) (uses : List Use)
    (entries : List Entry) : (uses.foldl use { draw }).DrawnWhenDue draw uses entries := by
  have hkeeps := keeps_foldl_use draw uses
  have hdraw := draw_foldl_use { draw } uses
  generalize uses.foldl use { draw } = drawing at hkeeps hdraw
  by_cases hdue : Due entries uses
  · have hshown : drawing.shown? ≠ some entries := hkeeps.shown_eq.trans_ne (due_iff.mp hdue)
    have hview := view_of_shown?_ne hshown
    refine ⟨by rw [hview, hdraw], by simp [hview, redraw, hdue], fun _ other => ?_,
      fun hnot => absurd hdue hnot⟩
    have hother : shown? { drawing with draw := other } ≠ some entries := hshown
    rw [view_of_shown?_ne hother]
  · have hremembered : remembered? uses = some entries := not_not.mp (mt due_iff.mpr hdue)
    rw [hremembered] at hkeeps
    have hpicture : drawing.picture? = some (draw entries) := by
      rw [hkeeps.picture_eq, hdraw]
      rfl
    have hview := view_of_picture? hkeeps.shown_eq hpicture
    refine ⟨by rw [hview], by simp [hview, hdue], fun h => absurd h hdue,
      fun _ => ⟨by rw [hview], fun other => ?_⟩⟩
    have hother : view { drawing with draw := other } entries = (draw entries, _) :=
      view_of_picture? hkeeps.shown_eq hpicture
    rw [hother]

end Drawing

structure Display (Place Picture : Type) where
  transcripts : Place → Transcript
  drawing : Drawing Picture

namespace Display

variable {Place Picture : Type} [DecidableEq Place]

inductive Step (Place : Type) where
  | write (place : Place) (entry : Entry)
  | view (place : Place)
  | forget
deriving Repr, DecidableEq

def step (display : Display Place Picture) : Step Place → Display Place Picture
  | .write place entry =>
    { display with
      transcripts :=
        Function.update display.transcripts place ((display.transcripts place).write entry) }
  | .view place =>
    { display with drawing := (display.drawing.view (display.transcripts place).entries).2 }
  | .forget => { display with drawing := display.drawing.forget }

def uses (display : Display Place Picture) : List (Step Place) → List Drawing.Use
  | [] => []
  | .write place entry :: steps => (display.step (.write place entry)).uses steps
  | .view place :: steps =>
    .view (display.transcripts place).entries :: (display.step (.view place)).uses steps
  | .forget :: steps => .forget :: (display.step .forget).uses steps

theorem drawing_foldl_step (display : Display Place Picture) (steps : List (Step Place)) :
    (steps.foldl step display).drawing =
      (display.uses steps).foldl Drawing.use display.drawing := by
  induction steps generalizing display with
  | nil => rfl
  | cons next steps ih =>
    rw [List.foldl_cons, ih]
    cases next with
    | write | view | forget => rfl

end Display

inductive Stint where
  /-- The operator is asked for a line. -/
  | prompt
  | script (source : String)
  | file (path : String) (content : Except String ByteArray)

theorem panelRule_ne_empty : panelRule ≠ "" := by decide

namespace Session

variable {World : Type} [Traffic World]

def spend (session : Session World) : Stint → Session World
  | .prompt => session.readOnce.session
  | .script source => (session.script source).session
  | .file path content => (session.file path content).session

def entered? (session : Session World) : Option String :=
  match session.terminal.responses.headD .closed with
  | .line line => if Text.allBlank line then none else some line
  | _ => none

def shown? (session : Session World) : Stint → Option (List Entry)
  | .prompt => session.entered?.map fun line => (session.submit line).1.console.transcript.entries
  | .script _ | .file _ _ => none

def printed? (session : Session World) : Stint → Option String
  | .prompt => some session.readOnce.printed
  | .script _ | .file _ _ => none

def shows (session : Session World) : List Stint → List (List Entry)
  | [] => []
  | stint :: stints => (session.shown? stint).toList ++ (session.spend stint).shows stints

def prints (session : Session World) : List Stint → List String
  | [] => []
  | stint :: stints => (session.printed? stint).toList ++ (session.spend stint).prints stints

variable {session : Session World}

theorem readOnce_of_shown?_eq_none (h : session.shown? .prompt = none) :
    session.readOnce.printed = "" ∧ session.readOnce.session.panel = session.panel := by
  have hentered : session.entered? = none := Option.map_eq_none_iff.mp h
  unfold entered? at hentered
  rw [readOnce, Terminal.ask]
  cases hresponse : session.terminal.responses.headD .closed with
  | cancel | closed | failed reason => exact ⟨rfl, rfl⟩
  | line text =>
    rw [hresponse] at hentered
    have hblank : Text.allBlank text = true := by simpa using hentered
    simp only [answer, hblank, if_true]
    exact ⟨trivial, trivial⟩

/-- What is shown is viewed on the panel, and it is printed if it had to be drawn. -/
theorem readOnce_of_shown? {entries : List Entry} (h : session.shown? .prompt = some entries) :
    session.readOnce.printed =
        (if (session.panel.view entries).2.count = session.panel.count then ""
          else panelRule ++ (session.panel.view entries).1) ∧
      session.readOnce.session.panel = (session.panel.view entries).2 := by
  obtain ⟨line, hentered, rfl⟩ := Option.map_eq_some_iff.mp h
  unfold entered? at hentered
  rw [readOnce, Terminal.ask]
  cases hresponse : session.terminal.responses.headD .closed with
  | cancel | closed | failed reason =>
    rw [hresponse] at hentered
    cases hentered
  | line text =>
    rw [hresponse] at hentered
    have hboth : Text.allBlank text = false ∧ text = line := by simpa using hentered
    obtain ⟨hblank, rfl⟩ := hboth
    simp only [answer, hblank, Bool.false_eq_true, if_false]
    exact ⟨rfl, rfl⟩

theorem panel_workThrough (session : Session World) (lines : List String) :
    (session.workThrough lines).session.panel = session.panel := by
  induction lines generalizing session with
  | nil => rfl
  | cons line rest ih =>
    by_cases hpassed : IsPassedOver line
    · rw [workThrough_of_isPassedOver session hpassed, ih]
    · rw [workThrough_of_not_isPassedOver session hpassed]
      cases hsignal : (session.submit line).2 with
      | quit =>
        rw [Episode.andThen_of_ok_false (session.outcome_report_of_quit hsignal)]
        rfl
      | «continue» =>
        rw [Episode.andThen_of_ok_true (session.outcome_report_of_continue hsignal)]
        exact ih _

theorem panel_file (session : Session World) (path : String) (content : Except String ByteArray) :
    (session.file path content).session.panel = session.panel := by
  cases content with
  | error reason => rfl
  | ok bytes =>
    rw [file]
    cases String.fromUTF8? bytes with
    | none => rfl
    | some source => exact session.panel_workThrough _

theorem panel_spend_of_shown?_eq_none {stint : Stint} (h : session.shown? stint = none) :
    (session.spend stint).panel = session.panel := by
  cases stint with
  | prompt => exact (readOnce_of_shown?_eq_none h).2
  | script source => exact session.panel_workThrough _
  | file path content => exact session.panel_file path content

theorem panel_spend_of_shown? {stint : Stint} {entries : List Entry}
    (h : session.shown? stint = some entries) :
    (session.spend stint).panel = (session.panel.view entries).2 := by
  cases stint with
  | prompt => exact (readOnce_of_shown? h).2
  | script source | file path content => cases h

/-- The panel is used for what is shown, and for nothing else. -/
theorem panel_foldl_spend (session : Session World) (stints : List Stint) :
    (stints.foldl spend session).panel =
      ((session.shows stints).map .view).foldl Drawing.use session.panel := by
  induction stints generalizing session with
  | nil => rfl
  | cons stint stints ih =>
    rw [List.foldl_cons, ih, shows, List.map_append, List.foldl_append]
    congr 1
    cases hshown : session.shown? stint with
    | none => exact panel_spend_of_shown?_eq_none hshown
    | some entries => exact panel_spend_of_shown? hshown

/-- Either nothing is printed, or the panel has been drawn once more. -/
theorem count_spend (session : Session World) (stint : Stint) :
    (session.spend stint).panel.count =
      session.panel.count + (session.printed? stint).toList.countP (· ≠ "") := by
  cases hshown : session.shown? stint with
  | none =>
    rw [panel_spend_of_shown?_eq_none hshown]
    cases stint with
    | prompt => simp [printed?, readOnce_of_shown?_eq_none hshown]
    | script source | file path content => rfl
  | some entries =>
    rw [panel_spend_of_shown? hshown]
    cases stint with
    | script source | file path content => cases hshown
    | prompt =>
      have hcount := session.panel.count_view entries
      have hprinted := (readOnce_of_shown? hshown).1
      rcases hcount with hkept | hdrawn
      · rw [if_pos hkept] at hprinted
        simp [printed?, hprinted, hkept]
      · have hnew : (session.panel.view entries).2.count ≠ session.panel.count := by omega
        rw [if_neg hnew] at hprinted
        simp [printed?, hprinted, hdrawn, panelRule_ne_empty]

theorem count_foldl_spend (session : Session World) (stints : List Stint) :
    (stints.foldl spend session).panel.count =
      session.panel.count + (session.prints stints).countP (· ≠ "") := by
  induction stints generalizing session with
  | nil => rfl
  | cons stint stints ih =>
    rw [List.foldl_cons, ih, count_spend, prints, List.countP_append, Nat.add_assoc]

/-- Reading until the operator hangs up is asking for lines a number of times. -/
theorem exists_readUntilClosed_eq (session : Session World) (limit : Nat) :
    ∃ count closing,
      (readUntilClosed limit session).session = (List.replicate count .prompt).foldl spend session ∧
      (readUntilClosed limit session).printed =
        String.join (session.prints (List.replicate count .prompt)) ++ closing ∧
      (closing = farewell ∨ closing = "") := by
  induction limit generalizing session with
  | zero => exact ⟨0, farewell, rfl, rfl, .inl rfl⟩
  | succ limit ih =>
    rw [readUntilClosed]
    cases houtcome : session.readOnce.outcome with
    | error fault =>
      exact ⟨1, "", rfl, by simp [prints, printed?], .inr rfl⟩
    | ok goesOn =>
      cases goesOn with
      | false => exact ⟨1, farewell, rfl, by simp [prints, printed?], .inl rfl⟩
      | true =>
        obtain ⟨count, closing, hsession, hprinted, hclosing⟩ := ih session.readOnce.session
        refine ⟨count + 1, closing, hsession, ?_, hclosing⟩
        simp [hprinted, List.replicate_succ, prints, printed?, spend, String.append_assoc]

end Session

/-- Whatever is written to any number of transcripts and in whatever order these are viewed on a
drawing, or the drawing is forgotten, viewing one of them gives the picture of what it holds, and it
is drawn only if nothing has been viewed before, if the drawing has been forgotten since, or if
something else was viewed last. It is the same in a session, whatever has been done in it: when a
line has been answered at the terminal, the panel is printed if it had to be drawn, and nothing is
printed otherwise. The panel counts how often it was printed. Running a session to its end is nothing
but asking for lines. -/
theorem panel_drawn_when_due :
    (∀ (Place Picture : Type) [DecidableEq Place] (draw : List Entry → Picture)
        (transcripts : Place → Transcript) (steps : List (Display.Step Place)) (place : Place),
      let start : Display Place Picture := { transcripts, drawing := { draw } }
      let display := steps.foldl Display.step start
      display.drawing.DrawnWhenDue draw (start.uses steps) (display.transcripts place).entries) ∧
    ∀ (World : Type) [Traffic World] (session : Session World) (style : Style)
        (stints : List Stint),
      let start := session.withStyle style
      let now := stints.foldl Session.spend start
      let uses := (start.shows stints).map Drawing.Use.view
      (now.shown? .prompt = none →
        now.readOnce.printed = "" ∧ now.readOnce.session.panel = now.panel) ∧
      (∀ entries, now.shown? .prompt = some entries →
        now.panel.DrawnWhenDue style.render uses entries ∧
          now.readOnce.session.panel = (now.panel.view entries).2 ∧
          now.readOnce.printed =
            if Drawing.Due entries uses then panelRule ++ style.render entries else "") ∧
      now.panel.count = (start.prints stints).countP (· ≠ "") ∧
      ∃ count closing,
        let prompts := List.replicate count Stint.prompt
        now.run.session = prompts.foldl Session.spend now ∧
          now.run.printed = (if now.banner then bannerText else "") ++
            (String.join (now.prints prompts) ++ closing) ∧
          (closing = farewell ∨ closing = "") := by
  constructor
  · intro Place Picture _ draw transcripts steps place start display
    have hdrawing : display.drawing = (start.uses steps).foldl Drawing.use { draw } :=
      start.drawing_foldl_step steps
    rw [hdrawing]
    exact Drawing.drawnWhenDue_foldl_use draw _ _
  intro World _ session style stints start now uses
  have hpanel : now.panel = uses.foldl Drawing.use { draw := style.render } :=
    start.panel_foldl_spend stints
  refine ⟨Session.readOnce_of_shown?_eq_none, fun entries hshown => ?_, ?_, ?_⟩
  · have hviewed := Drawing.drawnWhenDue_foldl_use style.render uses entries
    rw [← hpanel] at hviewed
    obtain ⟨hprinted, hafter⟩ := Session.readOnce_of_shown? hshown
    refine ⟨hviewed, hafter, ?_⟩
    rw [hprinted, hviewed.picture_eq]
    by_cases hdue : Drawing.Due entries uses
    · have hcount := hviewed.count_iff.mpr hdue
      rw [if_neg (by omega), if_pos hdue]
    · rw [(hviewed.kept hdue).1, if_pos rfl, if_neg hdue]
  · have hcount := start.count_foldl_spend stints
    rwa [show start.panel.count = 0 from rfl, Nat.zero_add] at hcount
  · obtain ⟨count, closing, hsession, hprinted, hclosing⟩ :=
      now.exists_readUntilClosed_eq (now.terminal.responses.length + 1)
    refine ⟨count, closing, hsession, ?_, hclosing⟩
    rw [Session.run, hprinted]

/-- A line that is not understood is entered twice. There is room for one entry only, so the second
refusal takes the place of the first, and what is shown does not change. -/
theorem panel_drawn_when_due_same_refusal :
    let refusal : Entry := ⟨.error, rejectionLead ++ (Misreading.notReference "X").message⟩
    let session : Session Airspace :=
      { console :=
          { settings := { transcriptCapacity := 1 }
            system := standardSystem {}
            transcript := .ofCapacity 1
            replies := .ofSeed 0 }
        world := {}
        terminal := { responses := [.line "x", .line " ", .line "x"] } }
    let start := session.withStyle .plain
    let once := [Stint.prompt].foldl Session.spend start
    let twice := [Stint.prompt, .prompt].foldl Session.spend start
    start.shown? .prompt = some [refusal] ∧
      start.readOnce.printed = panelRule ++ Style.plain.render [refusal] ∧
      once.shown? .prompt = none ∧ once.readOnce.printed = "" ∧
      twice.shown? .prompt = some [refusal] ∧ twice.readOnce.printed = "" ∧
      twice.readOnce.session.panel.count = 1 := by
  intro refusal session start once twice
  have hread : ReadingRules.read {} "x" = .rejected (.notReference "X") := by
    rw [ReadingRules.read_eq_outcome]
    decide +kernel
  have hrefused : ∀ (console : Console) (space : Airspace), console.settings.rules = {} →
      console.transcript.capacity = 1 →
      (console.submitLine space "x").console.settings.rules = {} ∧
        (console.submitLine space "x").console.transcript.capacity = 1 ∧
        (console.submitLine space "x").console.transcript.entries = [refusal] := by
    intro console space hrules hcapacity
    have hread' : console.settings.rules.read "x" = .rejected (.notReference "X") := by
      rw [hrules, hread]
    rw [(Console.Ending.rejected hread').submitLine_eq]
    refine ⟨hrules, hcapacity, ?_⟩
    simp only [Console.settled, Transcript.writeAll, List.foldl_cons, List.foldl_nil,
      Transcript.write, hcapacity, List.length_append, List.length_singleton, Nat.add_sub_cancel,
      List.drop_left]
    rfl
  obtain ⟨hrules, hcapacity, hentries⟩ := hrefused start.console start.world rfl rfl
  have hfirst : start.shown? .prompt = some [refusal] := congrArg some hentries
  have hblank : once.shown? .prompt = none := by decide +kernel
  have hlast : twice.shown? .prompt = some [refusal] :=
    congrArg some (hrefused twice.console twice.world hrules hcapacity).2.2
  obtain ⟨-, hseries⟩ := panel_drawn_when_due
  obtain ⟨-, hdrawn, -, -⟩ := hseries Airspace session .plain []
  obtain ⟨hnothing, -, -, -⟩ := hseries Airspace session .plain [.prompt]
  obtain ⟨-, hagain, hcount, -⟩ := hseries Airspace session .plain [.prompt, .prompt]
  have hprinted : start.readOnce.printed = panelRule ++ Style.plain.render [refusal] :=
    (hdrawn [refusal] hfirst).2.2.trans (if_pos (by decide))
  have hsilent : once.readOnce.printed = "" := (hnothing hblank).1
  obtain ⟨hviewed, hpanel, hkept⟩ := hagain [refusal] hlast
  have hshows : start.shows [.prompt, .prompt] = [[refusal]] := by
    change (start.shown? .prompt).toList ++ ((once.shown? .prompt).toList ++ []) = [[refusal]]
    rw [hfirst, hblank]
    rfl
  have hprints : start.prints [.prompt, .prompt] =
      [panelRule ++ Style.plain.render [refusal], ""] := by
    change [start.readOnce.printed, once.readOnce.printed] = _
    rw [hprinted, hsilent]
  have hnotdue : ¬ Drawing.Due [refusal]
      ((start.shows [.prompt, .prompt]).map Drawing.Use.view) := by
    rw [hshows]
    decide
  refine ⟨hfirst, hprinted, hblank, hsilent, hlast, hkept.trans (if_neg hnotdue), ?_⟩
  rw [hpanel, (hviewed.kept hnotdue).1, hcount, hprints]
  simp [panelRule_ne_empty]

end ControlTower
