import Mathlib.Data.List.Induction
import Mathlib.Data.List.Nodup

/-! Things that come and go over a history of events: a thing is present from an
event that brings it until one that takes it away. Nothing is said about how a
program keeps them. -/

namespace CpuCom.Interaction

variable {ε π : Type}

structure Presence (ε π : Type) where
  enters : ε → Option π
  leaves : π → ε → Prop

namespace Presence

variable (presence : Presence ε π)

/-- Everything that has come, in order. -/
def entered (history : List ε) : List π := history.filterMap presence.enters

/-- The thing has come, and has not been taken away since. -/
def Present (history : List ε) (thing : π) : Prop :=
  ∃ before event after, history = before ++ event :: after ∧ presence.enters event = some thing ∧
    ∀ later ∈ after, ¬ presence.leaves thing later

/-- The first thing has come before the second. -/
def Precedes (history : List ε) (first second : π) : Prop :=
  ∃ before after, history = before ++ after ∧ first ∈ presence.entered before ∧ second ∈ presence.entered after

variable {presence} {history : List ε} {event : ε} {thing other : π}

@[simp] theorem entered_append (first rest : List ε) :
    presence.entered (first ++ rest) = presence.entered first ++ presence.entered rest := List.filterMap_append

theorem entered_snoc (history : List ε) (event : ε) :
    presence.entered (history ++ [event]) = presence.entered history ++ (presence.enters event).toList := by
  cases same : presence.enters event <;> simp [entered, same]

@[simp] theorem not_present_nil : ¬ presence.Present [] thing := by
  rintro ⟨before, event, after, split, -⟩
  simp at split

/-- What one event changes. -/
theorem present_snoc : presence.Present (history ++ [event]) thing ↔
    presence.enters event = some thing ∨ presence.Present history thing ∧ ¬ presence.leaves thing event := by
  constructor
  · rintro ⟨before, came, after, split, entering, staying⟩
    rcases List.eq_nil_or_concat after with rfl | ⟨after, last, rfl⟩
    · obtain ⟨rfl, last⟩ := List.append_inj' split rfl
      obtain rfl := List.singleton_inj.mp last
      exact .inl entering
    · rw [List.concat_eq_append] at split staying
      have split : history ++ [event] = (before ++ came :: after) ++ [last] := by simpa using split
      obtain ⟨rfl, same⟩ := List.append_inj' split rfl
      obtain rfl := List.singleton_inj.mp same
      exact .inr ⟨⟨before, came, after, rfl, entering, fun later member =>
        staying later (List.mem_append_left _ member)⟩, staying event (by simp)⟩
  · rintro (entering | ⟨⟨before, came, after, rfl, entering, staying⟩, stays⟩)
    · exact ⟨history, event, [], rfl, entering, by simp⟩
    · refine ⟨before, came, after ++ [event], by simp, entering, ?_⟩
      intro later member
      rcases List.mem_append.mp member with member | member
      · exact staying later member
      · rwa [List.mem_singleton.mp member]

theorem Present.entered (present : presence.Present history thing) : thing ∈ presence.entered history := by
  obtain ⟨before, event, after, rfl, entering, -⟩ := present
  exact List.mem_filterMap.mpr ⟨event, by simp, entering⟩

/-- What is absent stays so until it comes. -/
theorem not_present_append {before after : List ε} (absent : ¬ presence.Present before thing)
    (quiet : ∀ event ∈ after, presence.enters event ≠ some thing) : ¬ presence.Present (before ++ after) thing := by
  induction after using List.reverseRecOn with
  | nil => rwa [List.append_nil]
  | append_singleton after event ih =>
    rw [← List.append_assoc, present_snoc]
    rintro (entering | ⟨present, -⟩)
    · exact quiet event (by simp) entering
    · exact ih (fun event member => quiet event (List.mem_append_left _ member)) present

/-- The thing goes with the event after this part of the history. -/
def Goes (presence : Presence ε π) (history : List ε) (thing : π) (before : List ε) : Prop :=
  ∃ event after, history = before ++ event :: after ∧ presence.Present before thing ∧
    ¬ presence.Present (before ++ [event]) thing

/-- A thing that comes only once does not return. -/
theorem not_present_of_left {before after : List ε} (once : (presence.entered (before ++ event :: after)).Nodup)
    (came : thing ∈ presence.entered before) (left : ¬ presence.Present (before ++ [event]) thing) :
    ¬ presence.Present (before ++ event :: after) thing := by
  induction after using List.reverseRecOn with
  | nil => exact left
  | append_singleton after last ih =>
    rw [← List.cons_append, ← List.append_assoc] at once ⊢
    rw [entered_append] at once
    obtain ⟨past, -, apart⟩ := List.nodup_append'.mp once
    rw [present_snoc]
    rintro (entering | ⟨present, -⟩)
    · refine apart (a := thing) ?_ ?_
      · rw [entered_append]
        exact List.mem_append_left _ came
      · exact List.mem_filterMap.mpr ⟨last, by simp, entering⟩
    · exact ih past present

theorem goes_of_not_present (came : thing ∈ presence.entered history) (gone : ¬ presence.Present history thing) :
    ∃ before, presence.Goes history thing before := by
  induction history using List.reverseRecOn with
  | nil => simp [entered] at came
  | append_singleton history event ih =>
    by_cases present : presence.Present history thing
    · exact ⟨history, event, [], rfl, present, gone⟩
    · rw [entered_snoc, List.mem_append, Option.mem_toList] at came
      rcases came with came | entering
      · obtain ⟨before, last, after, rfl, present, left⟩ := ih came present
        exact ⟨before, last, after ++ [event], by simp, present, left⟩
      · exact absurd (present_snoc.mpr (.inl entering)) gone

theorem Goes.unique {before earlier : List ε} (once : (presence.entered history).Nodup)
    (goes : presence.Goes history thing before) (went : presence.Goes history thing earlier) : before = earlier := by
  obtain ⟨event, after, split, present, left⟩ := goes
  obtain ⟨other, rest, same, earlierPresent, earlierLeft⟩ := went
  rcases List.append_eq_append_iff.mp (split.symm.trans same) with ⟨between, rfl, tail⟩ | ⟨between, rfl, tail⟩
  · cases between with
    | nil => simp
    | cons first between =>
      obtain ⟨rfl, rfl⟩ := List.cons.inj tail
      rw [same, entered_append] at once
      exact absurd earlierPresent (not_present_of_left (List.nodup_append'.mp once).1 present.entered left)
  · cases between with
    | nil => simp
    | cons first between =>
      obtain ⟨rfl, rfl⟩ := List.cons.inj tail
      rw [split, entered_append] at once
      exact absurd present (not_present_of_left (List.nodup_append'.mp once).1 earlierPresent.entered earlierLeft)

/-- What comes only once is present until it goes, and goes only once. -/
theorem goes_once (once : (presence.entered history).Nodup) (came : thing ∈ presence.entered history) :
    (presence.Present history thing ↔ ¬ ∃ before, presence.Goes history thing before) ∧
      (¬ presence.Present history thing → ∃! before, presence.Goes history thing before) := by
  refine ⟨⟨?_, ?_⟩, ?_⟩
  · rintro present ⟨before, event, after, rfl, there, left⟩
    exact not_present_of_left once there.entered left present
  · intro stays
    by_contra gone
    exact stays (goes_of_not_present came gone)
  · intro gone
    obtain ⟨before, goes⟩ := goes_of_not_present came gone
    exact ⟨before, goes, fun earlier went => went.unique once goes⟩

theorem precedes_of_sublist {first rest : List π} (kept : (first ++ rest).Sublist (presence.entered history))
    (one : thing ∈ first) (two : other ∈ rest) : presence.Precedes history thing other := by
  obtain ⟨early, late, split, firstEarly, restLate⟩ := List.append_sublist_iff.mp kept
  obtain ⟨before, after, rfl, rfl, rfl⟩ := List.filterMap_eq_append_iff.mp split
  exact ⟨before, after, rfl, firstEarly.subset one, restLate.subset two⟩

theorem Precedes.asymm (once : (presence.entered history).Nodup) (precedes : presence.Precedes history thing other) :
    ¬ presence.Precedes history other thing := by
  rintro ⟨first, rest, same, otherFirst, thingRest⟩
  obtain ⟨before, after, rfl, thingBefore, otherAfter⟩ := precedes
  have apart := (List.nodup_append'.mp (entered_append before after ▸ once)).2.2
  rcases List.append_eq_append_iff.mp same with ⟨between, rfl, rfl⟩ | ⟨between, rfl, rfl⟩
  · rw [entered_append] at apart
    exact apart thingBefore (List.mem_append_right _ thingRest)
  · rw [entered_append] at apart
    exact apart (List.mem_append_left _ otherFirst) otherAfter

end Presence
end CpuCom.Interaction
