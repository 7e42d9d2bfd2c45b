import ControlTower.Desk.Session
import ControlTower.Proofs.Text.Words

/-!
# Scripts

A script is worked through line by line, and only a line that asks to quit keeps the next one from
being read. Two scripts with a line feed between them are therefore worked through as the one after
the other, whatever they contain and whatever the session has seen before. Nor does it matter how
the lines end: a carriage return in front of the line feed is a blank at the end of the line, and
the last line does without an ending.
-/

namespace ControlTower

variable {World : Type}

/-- An episode and what follows it, which is nothing unless the session goes on. -/
def Episode.andThen (episode : Episode World Bool) (next : Session World → Episode World Bool) :
    Episode World Bool :=
  match episode.outcome with
  | .ok true =>
    let later := next episode.session
    { later with printed := episode.printed ++ later.printed }
  | _ => episode

namespace Episode

variable {episode : Episode World Bool} {next later : Session World → Episode World Bool}

theorem andThen_of_ok_true (h : episode.outcome = .ok true) :
    episode.andThen next =
      { next episode.session with printed := episode.printed ++ (next episode.session).printed } := by
  rw [andThen, h]

theorem andThen_of_ok_false (h : episode.outcome = .ok false) :
    episode.andThen next = episode := by
  rw [andThen, h]

@[simp] theorem andThen_mk_empty (session : Session World) :
    ({ session, printed := "", outcome := .ok true } : Episode World Bool).andThen next =
      next session := by
  rw [andThen_of_ok_true rfl]
  simp

/-- Only what follows in the session that the episode has left matters. -/
theorem andThen_congr (h : next episode.session = later episode.session) :
    episode.andThen next = episode.andThen later := by
  rw [andThen, andThen, h]

theorem andThen_assoc :
    (episode.andThen next).andThen later =
      episode.andThen fun session => (next session).andThen later := by
  rcases hfirst : episode.outcome with fault | goesOn
  · simp [andThen, hfirst]
  · cases goesOn with
    | false => rw [andThen_of_ok_false hfirst, andThen_of_ok_false hfirst, andThen_of_ok_false hfirst]
    | true =>
      rw [andThen_of_ok_true hfirst, andThen_of_ok_true hfirst]
      rcases hsecond : (next episode.session).outcome with fault | goesOn
      · simp [andThen, hsecond]
      · cases goesOn <;> simp [andThen, hsecond, String.append_assoc]

end Episode

namespace Session

variable [Traffic World] (session : Session World)

def IsPassedOver (line : String) : Prop := line.isEmpty ∨ line.toList.head? = some '#'

instance (line : String) : Decidable (IsPassedOver line) :=
  inferInstanceAs (Decidable (_ ∨ _))

theorem workThrough_of_isPassedOver {line : String} (h : IsPassedOver line) (rest : List String) :
    session.workThrough (line :: rest) = session.workThrough rest := by
  have hpassed : (line.isEmpty || line.toList.head? = some '#') = true := by
    simpa [IsPassedOver] using h
  rw [workThrough, if_pos hpassed]

def report (line : String) : Episode World Bool where
  session := (session.submit line).1
  printed := session.style.render
    ((session.submit line).1.console.transcript.since session.console.transcript.written)
  outcome := .ok ((session.submit line).2 = .continue)

theorem outcome_report_of_quit {line : String} (h : (session.submit line).2 = .quit) :
    (session.report line).outcome = .ok false := by
  simp [report, h]

theorem outcome_report_of_continue {line : String} (h : (session.submit line).2 = .continue) :
    (session.report line).outcome = .ok true := by
  simp [report, h]

theorem workThrough_of_not_isPassedOver {line : String} (h : ¬ IsPassedOver line)
    (rest : List String) :
    session.workThrough (line :: rest) = (session.report line).andThen (·.workThrough rest) := by
  have hkept : ¬ (line.isEmpty || line.toList.head? = some '#') = true := by
    simpa [IsPassedOver] using h
  rw [workThrough, if_neg hkept, report, submit]
  rcases session.console.submitLine session.world line with ⟨console, world, signal⟩
  cases signal <;> simp [Episode.andThen]

theorem workThrough_singleton {line : String} (h : ¬ IsPassedOver line) :
    session.workThrough [line] = session.report line := by
  rw [workThrough_of_not_isPassedOver session h]
  cases hsignal : (session.submit line).2 <;>
    simp [report, hsignal, Episode.andThen, workThrough]

theorem workThrough_cons (line : String) (rest : List String) :
    session.workThrough (line :: rest) =
      (session.workThrough [line]).andThen (·.workThrough rest) := by
  by_cases h : IsPassedOver line
  · rw [workThrough_of_isPassedOver session h, workThrough_of_isPassedOver session h, workThrough,
      Episode.andThen_mk_empty]
  · rw [workThrough_of_not_isPassedOver session h, workThrough_singleton session h]

theorem workThrough_append (before after : List String) :
    session.workThrough (before ++ after) =
      (session.workThrough before).andThen (·.workThrough after) := by
  induction before generalizing session with
  | nil => simp [workThrough]
  | cons line before ih =>
    rw [List.cons_append, workThrough_cons, session.workThrough_cons line before,
      Episode.andThen_assoc]
    congr 1
    funext later
    exact ih later

/-- Whatever is worked through, in the end it is known whether the session goes on. -/
theorem exists_workThrough_outcome_eq (lines : List String) :
    ∃ goesOn, (session.workThrough lines).outcome = .ok goesOn := by
  induction lines generalizing session with
  | nil => exact ⟨true, rfl⟩
  | cons line rest ih =>
    by_cases h : IsPassedOver line
    · rw [workThrough_of_isPassedOver session h]
      exact ih session
    · rw [workThrough_of_not_isPassedOver session h]
      cases hsignal : (session.submit line).2 with
      | quit =>
        have hstop := session.outcome_report_of_quit hsignal
        exact ⟨false, by rw [Episode.andThen_of_ok_false hstop, hstop]⟩
      | «continue» =>
        rw [Episode.andThen_of_ok_true (session.outcome_report_of_continue hsignal)]
        exact ih _

end Session

namespace Text

theorem trim_append_blank {c : Char} (hc : isBlank c = true) (text : List Char) :
    trim (String.ofList (text ++ [c])) = trim (String.ofList text) := by
  have hlist : (trim (String.ofList (text ++ [c]))).toList = (trim (String.ofList text)).toList := by
    rw [toList_trim, toList_trim, String.toList_ofList, String.toList_ofList, List.dropWhile_append]
    split
    · next hblank => simp [List.isEmpty_iff.mp hblank, hc]
    · rw [List.rdropWhile_concat_pos _ _ _ hc]
  rw [← String.ofList_toList (s := trim (String.ofList (text ++ [c]))), hlist, String.ofList_toList]

/-- The pieces of a text between its line feeds, each with the line feed behind it. The last has
none, and if it is empty there is no line. -/
def withFeeds : List (List Char) → List (List Char)
  | [] => []
  | [last] => if last.isEmpty then [] else [last]
  | piece :: later => (piece ++ ['\n']) :: withFeeds later

theorem endedLines_eq (text : List Char) : endedLines text = withFeeds (text.splitOn '\n') := by
  induction text with
  | nil => rfl
  | cons c text ih =>
    obtain ⟨piece, later, hpieces⟩ := List.exists_cons_of_ne_nil (List.splitOn_ne_nil '\n' text)
    rw [hpieces] at ih
    rw [List.splitOn_cons_eq_if_modifyHead, hpieces]
    by_cases hc : c = '\n'
    · simp [endedLines, hc, ih, withFeeds]
    · cases later with
      | nil => cases piece <;> simp [endedLines, hc, ih, withFeeds]
      | cons next later => simp [endedLines, hc, ih, withFeeds]

/-- The ending of a line is nothing but blanks at its end. -/
theorem trim_withoutEnding (line : List Char) :
    trim (String.ofList (withoutEnding line)) = trim (String.ofList line) := by
  have hfeed : isBlank '\n' = true := by decide
  have hreturn : isBlank '\r' = true := by decide
  unfold withoutEnding
  split
  · next rest heq =>
    rw [List.reverse_eq_iff.mp heq, List.reverse_cons, List.reverse_cons,
      trim_append_blank hfeed, trim_append_blank hreturn]
  · next rest _ heq =>
    rw [List.reverse_eq_iff.mp heq, List.reverse_cons, trim_append_blank hfeed]
  · rfl

end Text

namespace Session

variable [Traffic World] (session : Session World)

theorem workThrough_withFeeds (pieces : List (List Char)) :
    session.workThrough ((Text.withFeeds pieces).map fun piece => Text.trim (String.ofList piece)) =
      session.workThrough (pieces.map fun piece => Text.trim (String.ofList piece)) := by
  have hfeed : Text.isBlank '\n' = true := by decide
  induction pieces using Text.withFeeds.induct generalizing session with
  | case1 => rfl
  | case2 last hempty =>
    have hpassed : IsPassedOver (Text.trim (String.ofList last)) := by
      rw [List.isEmpty_iff.mp hempty]
      exact .inl rfl
    rw [Text.withFeeds, if_pos hempty, List.map_cons, workThrough_of_isPassedOver session hpassed]
  | case3 last hne => rw [Text.withFeeds, if_neg hne]
  | case4 piece later _ ih =>
    rw [Text.withFeeds, List.map_cons, List.map_cons, Text.trim_append_blank hfeed,
      workThrough_cons, session.workThrough_cons _ (later.map _)]
    · congr 1
      funext session
      exact ih session
    · assumption

/-- How the lines of a script end does not matter: it is worked through as the pieces of its text
between the line feeds. -/
theorem script_eq_workThrough_splitOn (source : String) :
    session.script source =
      session.workThrough
        ((source.toList.splitOn '\n').map fun piece => Text.trim (String.ofList piece)) := by
  have htrim : (Text.lines source).map Text.trim =
      (Text.endedLines source.toList).map fun line => Text.trim (String.ofList line) := by
    rw [Text.lines, List.map_map]
    exact List.map_congr_left fun line _ => Text.trim_withoutEnding line
  rw [script, htrim, Text.endedLines_eq, workThrough_withFeeds]

end Session

/-- A script that consists of two, with a line feed between them, is worked through as the first of
them and then, unless that has asked to quit, the second: with the same outcome, the same print and
the same session in the end. -/
theorem script_append [Traffic World] (session : Session World) (first second : String) :
    match (session.script first).outcome with
    | .ok true =>
      session.script (first ++ "\n" ++ second) =
        { (session.script first).session.script second with
          printed := (session.script first).printed ++
            ((session.script first).session.script second).printed }
    | .ok false => session.script (first ++ "\n" ++ second) = session.script first
    | .error _ => False := by
  have hscript : session.script (first ++ "\n" ++ second) =
      (session.script first).andThen (·.script second) := by
    have htext : (first ++ "\n" ++ second).toList = first.toList ++ '\n' :: second.toList := by simp
    simp only [Session.script_eq_workThrough_splitOn]
    rw [htext, List.splitOn_append_cons_self, List.map_append, Session.workThrough_append]
  obtain ⟨goesOn, houtcome⟩ :=
    session.exists_workThrough_outcome_eq ((Text.lines first).map Text.trim)
  have houtcome : (session.script first).outcome = .ok goesOn := houtcome
  cases goesOn with
  | true =>
    rw [houtcome]
    exact hscript.trans (Episode.andThen_of_ok_true houtcome)
  | false =>
    rw [houtcome]
    exact hscript.trans (Episode.andThen_of_ok_false houtcome)

end ControlTower
