import Mathlib.Data.List.Chain
import Mathlib.Data.Multiset.AddSub

/-! A resource that is kept as long as somebody holds it. A holder may hold it
several times, and a release by one that does not hold it changes nothing. The
edges tell when the resource was taken and when it was given back. -/

namespace CpuCom.Interaction

variable {π : Type}

inductive Holding (π : Type) where
  | hold (holder : π)
  | release (holder : π)
deriving DecidableEq

/-- The holders, each as often as it holds, and the edges so far: true where the
first holder came, false where the last one went. -/
structure Held (π : Type) where
  holders : Multiset π
  edges : List Bool

namespace Held

def empty : Held π := ⟨0, []⟩

variable [DecidableEq π]

/-- There is an edge where the resource comes into use or falls out of it. -/
def become (held : Held π) (holders : Multiset π) : Held π :=
  ⟨holders, if holders = 0 ↔ held.holders = 0 then held.edges else held.edges ++ [decide (holders ≠ 0)]⟩

def step (held : Held π) : Holding π → Held π
  | .hold holder => held.become (holder ::ₘ held.holders)
  | .release holder => held.become (held.holders.erase holder)

def after (held : Held π) (operations : List (Holding π)) : Held π := operations.foldl step held

theorem after_append (held : Held π) (first rest : List (Holding π)) :
    held.after (first ++ rest) = (held.after first).after rest := List.foldl_append

/-- Who holds and is not released holds on. -/
theorem mem_after {held : Held π} {operations : List (Holding π)} {holder : π} (kept : .release holder ∉ operations)
    (holds : holder ∈ held.holders ∨ .hold holder ∈ operations) : holder ∈ (held.after operations).holders := by
  induction operations generalizing held with
  | nil => exact holds.resolve_right List.not_mem_nil
  | cons operation operations ih =>
    have apart : .release holder ≠ operation := fun same => kept (same ▸ List.mem_cons_self ..)
    have kept : .release holder ∉ operations := fun later => kept (List.mem_cons_of_mem _ later)
    refine @ih (held.step operation) kept ?_
    rcases holds with holds | takes
    · left
      cases operation with
      | hold other => exact Multiset.mem_cons_of_mem holds
      | release other =>
        refine (Multiset.mem_erase_of_ne ?_).mpr holds
        rintro rfl
        exact apart rfl
    · rcases List.mem_cons.mp takes with rfl | later
      · exact .inl (Multiset.mem_cons_self ..)
      · exact .inr later

/-- Coming into use and falling out of it alternate, and the last edge tells whether
anybody holds. -/
structure Alternates (held : Held π) : Prop where
  turns : held.edges.IsChain (· ≠ ·)
  first : held.edges.head? ≠ some false
  last : held.edges.getLast? = some true ↔ held.holders ≠ 0

omit [DecidableEq π] in
theorem alternates_empty : (empty : Held π).Alternates :=
  ⟨.nil, by simp [empty], by simp [empty]⟩

theorem Alternates.become {held : Held π} (alternates : held.Alternates) (holders : Multiset π) :
    (held.become holders).Alternates := by
  obtain ⟨turns, first, last⟩ := alternates
  unfold Held.become
  by_cases same : holders = 0 ↔ held.holders = 0
  · rw [if_pos same]
    exact ⟨turns, first, last.trans (not_congr same).symm⟩
  · rw [if_neg same]
    refine ⟨?_, ?_, by simp⟩
    · refine turns.append (.singleton _) ?_
      intro before found edge here
      rw [List.head?_singleton, Option.mem_some] at here
      rw [Option.mem_def] at found
      rintro rfl
      rw [found, ← here, Option.some.injEq, decide_eq_true_iff] at last
      exact same (not_iff_not.mp last)
    · cases edges : held.edges with
      | nil =>
        have unused : held.holders = 0 := by
          rw [edges, List.getLast?_nil] at last
          by_contra used
          cases last.mpr used
        simp only [unused, iff_true] at same
        simp [same]
      | cons edge rest =>
        rw [edges] at first
        exact first

theorem Alternates.step {held : Held π} (alternates : held.Alternates) (operation : Holding π) :
    (held.step operation).Alternates := by
  cases operation with
  | hold holder => exact alternates.become _
  | release holder => exact alternates.become _

theorem Alternates.after {held : Held π} (alternates : held.Alternates) (operations : List (Holding π)) :
    (held.after operations).Alternates := by
  induction operations generalizing held with
  | nil => exact alternates
  | cons operation operations ih => exact ih (alternates.step operation)

end Held
end CpuCom.Interaction
