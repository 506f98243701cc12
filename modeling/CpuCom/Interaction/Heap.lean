import Mathlib.Logic.Function.Basic

/-! Objects that are known by their identity. What is allocated is new, and a change
of one object leaves the others alone. -/

namespace CpuCom.Interaction

variable {α : Type}

/-- The objects by their identity; those up to `next` are allocated. -/
structure Heap (α : Type) where
  cells : Nat → α
  next : Nat

namespace Heap

def empty (blank : α) : Heap α := ⟨fun _ => blank, 0⟩

def get (heap : Heap α) (object : Nat) : α := heap.cells object

def alloc (heap : Heap α) (value : α) : Nat × Heap α :=
  (heap.next, ⟨Function.update heap.cells heap.next value, heap.next + 1⟩)

def modify (heap : Heap α) (object : Nat) (change : α → α) : Heap α :=
  { heap with cells := Function.update heap.cells object (change (heap.cells object)) }

/-- A change of all objects. -/
def map (heap : Heap α) (change : α → α) : Heap α := { heap with cells := fun object => change (heap.cells object) }

variable {heap : Heap α} {object other : Nat} {value : α} {change : α → α}

@[simp] theorem get_modify : (heap.modify object change).get object = change (heap.get object) :=
  Function.update_self ..

theorem get_modify_ne (different : other ≠ object) : (heap.modify object change).get other = heap.get other :=
  Function.update_of_ne different ..

/-- The last of two changes that replace the object counts. -/
theorem modify_modify :
    (heap.modify object change).modify object (fun _ => value) = heap.modify object fun _ => value :=
  congrArg (Heap.mk · heap.next) (Function.update_idem ..)

@[simp] theorem get_alloc : (heap.alloc value).2.get heap.next = value := Function.update_self ..

theorem get_alloc_ne (other : object ≠ heap.next) : (heap.alloc value).2.get object = heap.get object :=
  Function.update_of_ne other ..

/-- What the change of one object keeps is the same for all of them. -/
theorem modify_keeps {β : Type} (field : α → β) (keeps : ∀ value, field (change value) = field value) :
    field ((heap.modify object change).get other) = field (heap.get other) := by
  by_cases same : other = object
  · subst same
    rw [get_modify, keeps]
  · rw [get_modify_ne same]

end Heap
end CpuCom.Interaction
