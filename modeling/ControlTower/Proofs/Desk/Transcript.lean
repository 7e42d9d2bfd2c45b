import ControlTower.Desk.Transcript
import Mathlib.Data.List.DropRight

/-!
# What a transcript holds

However many entries are written, a transcript holds the latest of them, as many as there is room
for, and counts them all. Since there is always room for one, the entry written last is never lost.

A count that is taken at some time marks a place in the log of all entries ever written. What has
been written since a mark is listed as far as it is still held, whatever the mark: it may be older
than everything that is held, or no entry may have been written since. Whoever looks often enough
misses nothing, therefore, and is told nothing twice.
-/

namespace ControlTower.Transcript

variable {transcript : Transcript} {entry : Entry} {entries : List Entry}

def writeAll (transcript : Transcript) (entries : List Entry) : Transcript :=
  entries.foldl write transcript

structure Bounded (transcript : Transcript) : Prop where
  capacity_pos : 1 ≤ transcript.capacity
  length_le : transcript.entries.length ≤ transcript.capacity

/-- Entries have been added to a transcript: all of them were counted, and of what was held and what
was added the latest is held. -/
structure Gains (before : Transcript) (entries : List Entry) (after : Transcript) : Prop where
  capacity_eq : after.capacity = before.capacity
  written_eq : after.written = before.written + entries.length
  entries_eq : after.entries =
    (before.entries ++ entries).drop ((before.entries ++ entries).length - before.capacity)

/-- All entries of a log were written to a transcript, and nothing else: it counts them, and it holds
the end of the log. -/
structure Records (transcript : Transcript) (log : List Entry) : Prop where
  written_eq : transcript.written = log.length
  entries_eq : transcript.entries = log.drop (log.length - transcript.capacity)

@[simp] theorem writeAll_nil (transcript : Transcript) : transcript.writeAll [] = transcript := rfl

theorem writeAll_cons (transcript : Transcript) (entry : Entry) (entries : List Entry) :
    transcript.writeAll (entry :: entries) = (transcript.write entry).writeAll entries := rfl

theorem writeAll_append (transcript : Transcript) (first second : List Entry) :
    transcript.writeAll (first ++ second) = (transcript.writeAll first).writeAll second :=
  List.foldl_append

@[simp] theorem writeAll_capacity (transcript : Transcript) (entries : List Entry) :
    (transcript.writeAll entries).capacity = transcript.capacity := by
  induction entries generalizing transcript with
  | nil => rfl
  | cons entry entries ih => exact ih (transcript.write entry)

@[simp] theorem capacity_ofCapacity (capacity : Nat) :
    (ofCapacity capacity).capacity = max capacity 1 := rfl

theorem bounded_ofCapacity (capacity : Nat) : (ofCapacity capacity).Bounded :=
  ⟨Nat.le_max_right _ _, Nat.zero_le _⟩

theorem Bounded.write (h : transcript.Bounded) (entry : Entry) :
    (transcript.write entry).Bounded where
  capacity_pos := h.capacity_pos
  length_le := by
    simp only [Transcript.write, List.length_drop]
    omega

theorem Bounded.writeAll (h : transcript.Bounded) (entries : List Entry) :
    (transcript.writeAll entries).Bounded := by
  induction entries generalizing transcript with
  | nil => exact h
  | cons entry entries ih => exact ih (h.write entry)

/-- What has been dropped for one entry would have been dropped for the ones behind it as well. -/
theorem gains_writeAll (h : transcript.entries.length ≤ transcript.capacity)
    (entries : List Entry) : transcript.Gains entries (transcript.writeAll entries) := by
  induction entries generalizing transcript with
  | nil => exact ⟨rfl, rfl, by simp [Nat.sub_eq_zero_of_le h]⟩
  | cons entry entries ih =>
    have hheld : (transcript.write entry).entries.length ≤ transcript.capacity := by
      simp only [write, List.length_drop]
      omega
    obtain ⟨hcapacity, hwritten, hentries⟩ := ih hheld
    refine ⟨hcapacity, ?_, ?_⟩
    · rw [writeAll_cons, hwritten, List.length_cons]
      simp only [write]
      omega
    · rw [writeAll_cons, hentries]
      simp only [write]
      have hdropped : (transcript.entries ++ [entry]).length - transcript.capacity ≤
          (transcript.entries ++ [entry]).length := Nat.sub_le _ _
      rw [← List.drop_append_of_le_length hdropped, List.append_assoc, List.singleton_append,
        List.drop_drop]
      congr 1
      simp only [List.length_drop, List.length_append, List.length_cons, List.length_nil]
      omega

/-- A count taken before some entries were added serves to list them, as far as they are held. -/
theorem since_writeAll (h : transcript.entries.length ≤ transcript.capacity)
    (entries : List Entry) :
    (transcript.writeAll entries).since transcript.written =
      entries.rtake transcript.capacity := by
  obtain ⟨-, hwritten, hentries⟩ := gains_writeAll h entries
  rw [since, hwritten, hentries, List.drop_drop, List.rtake, List.drop_append]
  simp only [List.length_drop, List.length_append]
  rw [List.drop_eq_nil_of_le (by omega), List.nil_append]
  congr 1
  omega

theorem Gains.getLast?_eq {after : Transcript} (h : transcript.Gains entries after)
    (hroom : 1 ≤ transcript.capacity) (hne : entries ≠ []) :
    after.entries.getLast? = entries.getLast? := by
  have hlength := List.length_pos_iff.mpr hne
  have hkept : (transcript.entries ++ entries).length - transcript.capacity <
      (transcript.entries ++ entries).length := by
    rw [List.length_append]
    omega
  rw [h.entries_eq, List.getLast?_drop, if_neg (Nat.not_le.mpr hkept), List.getLast?_append,
    List.getLast?_eq_some_getLast hne, Option.some_or]

/-- A transcript that was empty at first records what has been written to it. -/
theorem records_writeAll_ofCapacity (capacity : Nat) (log : List Entry) :
    ((ofCapacity capacity).writeAll log).Records log := by
  obtain ⟨hcapacity, hwritten, hentries⟩ :=
    gains_writeAll (bounded_ofCapacity capacity).length_le log
  constructor
  · rw [hwritten]
    exact Nat.zero_add _
  · rw [hentries, hcapacity]
    rfl

/-- What has been written since a mark begins behind the mark, or with the oldest entry that is held
if that is later. -/
theorem Records.since_eq {log : List Entry} (h : transcript.Records log) (mark : Nat) :
    transcript.since mark = log.drop (max mark (log.length - transcript.capacity)) := by
  rw [since, h.written_eq, h.entries_eq, List.drop_drop, List.length_drop]
  by_cases hmark : mark ≤ log.length
  · congr 1
    omega
  · rw [List.drop_eq_nil_of_le (by omega), List.drop_eq_nil_of_le (by omega)]

/-- Nothing that lies between two marks is missed at the later one, if there is room for it. -/
theorem since_writeAll_take {capacity earlier later : Nat} {log : List Entry}
    (hlater : later ≤ log.length) (hroom : later ≤ earlier + max capacity 1) :
    ((ofCapacity capacity).writeAll (log.take later)).since earlier =
      (log.take later).drop earlier := by
  have hheld : later - max capacity 1 ≤ earlier := by omega
  rw [(records_writeAll_ofCapacity capacity (log.take later)).since_eq, writeAll_capacity,
    capacity_ofCapacity, List.length_take_of_le hlater, Nat.max_eq_left hheld]

/-- What is listed from mark to mark makes up the log as far as the last mark. -/
theorem flatMap_since_eq_take {capacity : Nat} {log : List Entry} {marks : Nat → Nat}
    (start : marks 0 = 0) {count : Nat} (within : ∀ i ≤ count, marks i ≤ log.length)
    (ascending : ∀ i < count, marks i ≤ marks (i + 1))
    (room : ∀ i < count, marks (i + 1) ≤ marks i + max capacity 1) :
    ((List.range count).flatMap fun i =>
        ((ofCapacity capacity).writeAll (log.take (marks (i + 1)))).since (marks i)) =
      log.take (marks count) := by
  induction count with
  | zero => simp [start]
  | succ count ih =>
    have hbefore := ih (fun i hi => within i (by omega)) (fun i hi => ascending i (by omega))
      fun i hi => room i (by omega)
    have hlast := since_writeAll_take (within (count + 1) (Nat.le_refl _))
      (room count (Nat.lt_succ_self _))
    have hkept : log.take (marks count) = (log.take (marks (count + 1))).take (marks count) := by
      rw [List.take_take, Nat.min_eq_left (ascending count (Nat.lt_succ_self _))]
    rw [List.range_succ, List.flatMap_append, List.flatMap_singleton, hbefore, hlast, hkept,
      List.take_append_drop]

/-- When a log has been written to a transcript that was empty at first, the transcript holds the
latest entries of the log, as many as there is room for, and counts all of it. Since any mark it
lists what it holds of the log behind the mark, and nothing if the mark is at the end of the log or
beyond. If the count is taken as a mark from time to time, with no more entries in between than
there is room for, then what is listed at each mark since the one before makes up the whole log, each
entry once and in order. -/
theorem transcript_keeps_latest (capacity : Nat) (log : List Entry) :
    let room := max capacity 1
    let transcript := (ofCapacity capacity).writeAll log
    transcript.entries = log.drop (log.length - room) ∧
      transcript.written = log.length ∧
      (∀ mark, transcript.since mark = log.drop (max mark (log.length - room))) ∧
      (∀ mark, log.length ≤ mark → transcript.since mark = []) ∧
      ∀ (marks : Nat → Nat) (count : Nat), marks 0 = 0 → marks count = log.length →
        (∀ i < count, marks i ≤ marks (i + 1)) → (∀ i < count, marks (i + 1) ≤ marks i + room) →
        let sofar := fun i => (ofCapacity capacity).writeAll (log.take (marks i))
        (∀ i ≤ count, (sofar i).written = marks i) ∧
          ((List.range count).flatMap fun i => (sofar (i + 1)).since (marks i)) = log := by
  intro room transcript
  have hrecords := records_writeAll_ofCapacity capacity log
  have hcapacity : transcript.capacity = room := writeAll_capacity _ log
  have hsince := fun mark => hrecords.since_eq mark
  rw [hcapacity] at hsince
  refine ⟨?_, hrecords.written_eq, hsince, fun mark hmark => ?_, ?_⟩
  · rw [← hcapacity]
    exact hrecords.entries_eq
  · rw [hsince, List.drop_eq_nil_of_le (by omega)]
  intro marks count start whole ascending hroom sofar
  have hwithin : ∀ i ≤ count, marks i ≤ log.length := by
    intro i hi
    rw [← whole]
    exact Nat.le_induction (P := fun n _ => n ≤ count → marks i ≤ marks n) (fun _ => Nat.le_refl _)
      (fun n _ ih hn => (ih (by omega)).trans (ascending n (by omega))) count hi (Nat.le_refl _)
  refine ⟨fun i hi => ?_, ?_⟩
  · rw [(records_writeAll_ofCapacity capacity _).written_eq, List.length_take_of_le (hwithin i hi)]
  · rw [flatMap_since_eq_take start hwithin ascending hroom, whole, List.take_length]

/-- Three entries are written where there is room for two, and the count is taken after the first and
after the last. -/
theorem transcript_keeps_latest_three_entries :
    let log : List Entry := [⟨.echo, "one"⟩, ⟨.reply, "two"⟩, ⟨.error, "three"⟩]
    let marks : Nat → Nat := fun i => [0, 1, 3].getD i 3
    let sofar := fun i => (ofCapacity 2).writeAll (log.take (marks i))
    marks 0 = 0 ∧ marks 2 = log.length ∧ (∀ i < 2, marks i ≤ marks (i + 1)) ∧
      (∀ i < 2, marks (i + 1) ≤ marks i + 2) ∧
      ((ofCapacity 2).writeAll log).entries = [⟨.reply, "two"⟩, ⟨.error, "three"⟩] ∧
      ((ofCapacity 2).writeAll log).since 0 = [⟨.reply, "two"⟩, ⟨.error, "three"⟩] ∧
      ((ofCapacity 2).writeAll log).since 2 = [⟨.error, "three"⟩] ∧
      ((ofCapacity 2).writeAll log).since 7 = [] ∧
      (sofar 1).since (marks 0) ++ (sofar 2).since (marks 1) = log := by
  intro log marks sofar
  have hascending : ∀ i < 2, marks i ≤ marks (i + 1) := by decide
  have hroom : ∀ i < 2, marks (i + 1) ≤ marks i + 2 := by decide
  obtain ⟨hentries, -, hsince, hnothing, hall⟩ := transcript_keeps_latest 2 log
  obtain ⟨-, hlog⟩ := hall marks 2 rfl rfl hascending hroom
  exact ⟨rfl, rfl, hascending, hroom, hentries, hsince 0, hsince 2, hnothing 7 (by decide), hlog⟩

end ControlTower.Transcript
