import ControlTower.Proofs.Phraseology.Segment

/-!
# Looser rules

The policies on headings and altitudes are ordered by what they let pass, and an envelope may be
widened. What stricter rules take, looser ones take as well, and for the same number. Looser rules
therefore only add lines that are understood: what a line means it goes on to mean.

The two readings are followed side by side. They are at the same stage as long as the stricter rules
find nothing wrong, although the rules also decide how a word is taken apart: a letter glued to
digits may be condensed by the looser rules only. By the stricter ones it is no command at all then,
since no spelling of a command looks like that.
-/

namespace ControlTower

namespace BoundaryPolicy

def looseness : BoundaryPolicy → Nat
  | strict => 0
  | range => 1
  | legacy => 2

instance : LE BoundaryPolicy where
  le policy looser := policy.looseness ≤ looser.looseness

variable {policy looser : BoundaryPolicy} {inRange inWiderRange onStep usualWidth : Bool}

theorem le_iff : policy ≤ looser ↔ policy.looseness ≤ looser.looseness := Iff.rfl

instance (policy looser : BoundaryPolicy) : Decidable (policy ≤ looser) :=
  decidable_of_iff _ le_iff.symm

theorem admitsHeading_of_le (hle : policy ≤ looser)
    (h : policy.admitsHeading inRange usualWidth = true) :
    looser.admitsHeading inRange usualWidth = true := by
  revert inRange usualWidth
  cases policy <;> cases looser <;> revert hle <;> decide

theorem admitsAltitude_of_le (hle : policy ≤ looser) (hrange : inRange = true → inWiderRange = true)
    (h : policy.admitsAltitude inRange onStep usualWidth = true) :
    looser.admitsAltitude inWiderRange onStep usualWidth = true := by
  revert inRange inWiderRange onStep usualWidth
  cases policy <;> cases looser <;> revert hle <;> decide

end BoundaryPolicy

/-- The second envelope has the step of the first and contains all that lies in it. -/
structure AltitudeEnvelope.Within (envelope wider : AltitudeEnvelope) : Prop where
  step_eq : wider.step = envelope.step
  contains : ∀ altitude, envelope.contains altitude = true → wider.contains altitude = true

theorem AltitudeEnvelope.within_of_le {envelope wider : AltitudeEnvelope}
    (hstep : wider.step = envelope.step) (hlowest : wider.lowest ≤ envelope.lowest)
    (hhighest : envelope.highest ≤ wider.highest) : envelope.Within wider where
  step_eq := hstep
  contains altitude h := by
    simp only [AltitudeEnvelope.contains, Bool.and_eq_true, decide_eq_true_eq] at h ⊢
    omega

/-- The second rules have the glyphs of the first and are nowhere stricter. -/
structure ReadingRules.NoStricter (rules looser : ReadingRules) : Prop where
  glyphs_eq : looser.glyphs = rules.glyphs
  heading : rules.headingPolicy ≤ looser.headingPolicy
  altitude : rules.altitudePolicy ≤ looser.altitudePolicy
  envelope : rules.envelope.Within looser.envelope

namespace Argument

variable {word : String} {value : Int}

theorem heading?_of_le {policy looser : BoundaryPolicy} (hle : policy ≤ looser)
    (h : heading? policy word = some value) : heading? looser word = some value := by
  obtain ⟨hvalue, hadmits⟩ := Option.filter_eq_some_iff.mp h
  exact Option.filter_eq_some_iff.mpr ⟨hvalue, BoundaryPolicy.admitsHeading_of_le hle hadmits⟩

theorem altitude?_of_within {policy looser : BoundaryPolicy} {envelope wider : AltitudeEnvelope}
    (hle : policy ≤ looser) (hwithin : envelope.Within wider)
    (h : altitude? policy envelope word = some value) :
    altitude? looser wider word = some value := by
  obtain ⟨hmetres, hfits⟩ := Option.filter_eq_some_iff.mp h
  obtain ⟨hundreds, htyped, rfl⟩ := Option.map_eq_some_iff.mp hmetres
  obtain ⟨hnumber, hadmits⟩ := Option.filter_eq_some_iff.mp htyped
  have hstep : wider.onStep hundreds = envelope.onStep hundreds := by
    simp only [AltitudeEnvelope.onStep, hwithin.step_eq]
  have hadmits' := BoundaryPolicy.admitsAltitude_of_le hle (hwithin.contains hundreds) hadmits
  rw [← hstep] at hadmits'
  refine Option.filter_eq_some_iff.mpr ⟨Option.map_eq_some_iff.mpr ⟨hundreds, ?_, rfl⟩, hfits⟩
  exact Option.filter_eq_some_iff.mpr ⟨hnumber, hadmits'⟩

end Argument

namespace ReadingRules.NoStricter

variable {rules looser : ReadingRules} {command : Command} {words : List String} {word : String}
  {arguments : List Argument} {call : Call} {stage next : Stage}

theorem read?_of_kind (h : rules.NoStricter looser) {kind : ArgumentKind}
    (hread : kind.read? rules words = some arguments) :
    kind.read? looser words = some arguments := by
  cases kind with
  | identifier | speed | landing | turnDirection =>
    rcases words with _ | ⟨first, _ | ⟨second, _ | ⟨third, others⟩⟩⟩ <;> exact hread
  | heading =>
    rcases words with _ | ⟨word, _ | ⟨second, others⟩⟩
    · cases hread
    · obtain ⟨value, hvalue, rfl⟩ := Option.map_eq_some_iff.mp hread
      exact Option.map_eq_some_iff.mpr ⟨value, Argument.heading?_of_le h.heading hvalue, rfl⟩
    · cases hread
  | altitude =>
    rcases words with _ | ⟨word, _ | ⟨second, others⟩⟩
    · cases hread
    · obtain ⟨value, hvalue, rfl⟩ := Option.map_eq_some_iff.mp hread
      exact Option.map_eq_some_iff.mpr
        ⟨value, Argument.altitude?_of_within h.altitude h.envelope hvalue, rfl⟩
    · cases hread

theorem read?_of_command (h : rules.NoStricter looser)
    (hread : command.read? rules words = some arguments) :
    command.read? looser words = some arguments := by
  unfold Command.read? at hread ⊢
  cases hkind : command.argumentKind? with
  | some kind =>
    rw [hkind] at hread
    exact h.read?_of_kind hread
  | none =>
    rw [hkind] at hread
    exact hread

theorem condensed? (h : rules.NoStricter looser) {instruction : Instruction}
    (hcondensed : Call.condensed? rules word = some instruction) :
    Call.condensed? looser word = some instruction := by
  unfold Call.condensed? at hcondensed ⊢
  split
  · next hword =>
    rw [hword] at hcondensed
    cases hcondensed
  · next letter digits hword =>
    simp only [hword] at hcondensed
    split at hcondensed
    · next hform =>
      obtain ⟨command, hcommand, hcondensed⟩ := Option.bind_eq_some_iff.mp hcondensed
      obtain ⟨arguments, hread, hcondensed⟩ := Option.bind_eq_some_iff.mp hcondensed
      rw [if_pos hform, hcommand, Option.bind_eq_bind, Option.bind_some, h.read?_of_command hread]
      exact hcondensed
    · cases hcondensed

theorem collect (h : rules.NoStricter looser)
    (hcollect : call.collect rules command words = .ok next) :
    call.collect looser command words = .ok next := by
  unfold Call.collect at hcollect ⊢
  split
  · next hless => rwa [if_pos hless] at hcollect
  · next hless =>
    rw [if_neg hless] at hcollect
    cases hread : command.read? rules words with
    | none => simp [hread] at hcollect
    | some arguments =>
      rw [hread] at hcollect
      rw [h.read?_of_command hread]
      exact hcollect

theorem begin (h : rules.NoStricter looser) (hbegin : call.begin rules word = .ok next) :
    call.begin looser word = .ok next := by
  unfold Call.begin at hbegin ⊢
  cases hcondensed : Call.condensed? rules word with
  | some instruction =>
    rw [hcondensed] at hbegin
    rw [h.condensed? hcondensed]
    exact hbegin
  | none =>
    rw [hcondensed] at hbegin
    cases hcommand : Command.ofWord? word with
    | none => simp [hcommand] at hbegin
    | some command =>
      have hspelled : Call.condensed? looser word = none :=
        Call.condensed?_of_mem_spellings (Command.ofWord?_eq_some_iff.mp hcommand)
      simp only [hcommand] at hbegin
      rw [hspelled]
      exact h.collect hbegin

theorem step (h : rules.NoStricter looser) (hstep : stage.step rules word = .ok next) :
    stage.step looser word = .ok next := by
  cases stage with
  | start =>
    simp only [Stage.step, h.glyphs_eq] at hstep ⊢
    exact hstep
  | afterQueueGlyph | afterSystemGlyph | system command => exact hstep
  | addressed call => exact h.begin hstep
  | arguments call command given => exact h.collect hstep
  | flags call latest =>
    simp only [Stage.step] at hstep ⊢
    cases hflag : latest.command.flag? word with
    | some flag =>
      rw [hflag] at hstep
      exact hstep
    | none =>
      rw [hflag] at hstep
      exact h.begin hstep

theorem reach (h : rules.NoStricter looser) (hreach : stage.reach rules words = .ok next) :
    stage.reach looser words = .ok next := by
  induction words generalizing stage with
  | nil => exact hreach
  | cons word words ih =>
    cases hstep : stage.step rules word with
    | error reason =>
      rw [Stage.reach_cons_of_error hstep] at hreach
      cases hreach
    | ok middle =>
      rw [Stage.reach_cons_of_ok hstep] at hreach
      rw [Stage.reach_cons_of_ok (h.step hstep)]
      exact ih hreach

end ReadingRules.NoStricter

/-- Looser rules only add lines that are understood. Whatever a line means by some rules, it means
by all rules that have the same glyphs and the same step, and are nowhere stricter. -/
theorem read_eq_accepted_of_noStricter {rules looser : ReadingRules}
    (h : rules.NoStricter looser) (line : String) (transmission : Transmission)
    (accepted : rules.read line = .accepted transmission) :
    looser.read line = .accepted transmission := by
  rw [ReadingRules.read_eq_outcome, Stage.outcome_eq_accepted_iff] at accepted ⊢
  obtain ⟨last, hreach, hfinish⟩ := accepted
  rw [h.glyphs_eq]
  exact ⟨last, h.reach hreach, hfinish⟩

theorem read_eq_accepted_of_noStricter_condensed :
    let rules : ReadingRules := { ReadingRules.strict with envelope := { highest := 40 } }
    let looser : ReadingRules := { ReadingRules.legacy with envelope := { lowest := -5 } }
    let line := ".ABC1234 h090 a20"
    let instructions : List Instruction :=
      [{ command := .heading, arguments := [.number 90] },
        { command := .altitude, arguments := [.number 2000] }]
    rules.NoStricter looser ∧
      rules.read line = .accepted (.aircraft .enqueue "ABC1234" instructions) ∧
      looser.read line = .accepted (.aircraft .enqueue "ABC1234" instructions) := by
  intro rules looser line instructions
  have hlooser : rules.NoStricter looser :=
    ⟨rfl, by decide, by decide, AltitudeEnvelope.within_of_le rfl (by decide) (by decide)⟩
  have hread : rules.read line = .accepted (.aircraft .enqueue "ABC1234" instructions) := by
    rw [ReadingRules.read_eq_outcome]
    decide +kernel
  exact ⟨hlooser, hread, read_eq_accepted_of_noStricter hlooser line _ hread⟩

end ControlTower
