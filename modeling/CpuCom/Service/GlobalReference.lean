import CpuCom.Interaction.Heap

/-! `GlobalReference.h`: handles that share a JNI reference count themselves, and the
last one deletes the reference. -/

namespace CpuCom.Service
open Interaction

/-- The members of a handle. The deleter that does nothing is `none`. -/
structure GlobalReference (V D : Type) where
  vm : Option V
  deleter : Option D
  value : Option Nat
  counter : Option Nat
deriving DecidableEq

namespace GlobalReference

variable {V D : Type}

def empty : GlobalReference V D := ⟨none, none, none, none⟩

/-- What a move leaves behind. The value stays. -/
def moved (handle : GlobalReference V D) : GlobalReference V D :=
  { handle with vm := none, deleter := none, counter := none }

end GlobalReference

/-- What the JNI was asked to make a global reference of, and how to delete it. -/
structure Reference (L V D : Type) where
  localRef : L
  vm : V
  deleter : D
deriving DecidableEq

/-- A call of a deleter. -/
structure Deletion (V D : Type) where
  deleter : Option D
  vm : Option V
  value : Option Nat
deriving DecidableEq

/-- The handles, of which some are alive, the reference counters, where a deleted one
is `none`, and the references in the order in which they were made and deleted. -/
structure References (H L V D : Type) where
  handles : H → GlobalReference V D
  live : List H
  counters : Heap (Option UInt32)
  made : List (Reference L V D)
  deleted : List (Deletion V D)

namespace References

/-- A handle that is not alive was used, or one that is was constructed again; or a
deleted counter was used. -/
inductive Fault where
  | misuse
  | freed
deriving DecidableEq

inductive Operation (H L V D : Type) where
  | construct (this : H)
  | constructFrom (this : H) (localRef : L) (vm : V) (deleter : D)
  | copyConstruct (this other : H)
  | moveConstruct (this other : H)
  | copyAssign (this other : H)
  | moveAssign (this other : H)
  | destruct (this : H)
deriving DecidableEq

variable {H L V D : Type}

def initial : References H L V D := ⟨fun _ => .empty, [], .empty none, [], []⟩

def addReference (references : References H L V D) (counter : Nat) : Except Fault (References H L V D) :=
  match references.counters.get counter with
  | none => .error .freed
  | some refs => .ok { references with counters := references.counters.modify counter fun _ => some (refs + 1) }

def releaseReference (references : References H L V D) (counter : Nat) :
    Except Fault (UInt32 × References H L V D) :=
  match references.counters.get counter with
  | none => .error .freed
  | some refs =>
      .ok (refs - 1, { references with counters := references.counters.modify counter fun _ => some (refs - 1) })

/-- A handle starts to hold the counter that it has copied. -/
def add (references : References H L V D) (handle : GlobalReference V D) : Except Fault (References H L V D) :=
  match handle.counter with
  | none => .ok references
  | some counter => references.addReference counter

/-- How the assignments and the destructor give up what a handle holds. -/
def release (references : References H L V D) (handle : GlobalReference V D) : Except Fault (References H L V D) :=
  match handle.counter with
  | none => .ok references
  | some counter => do
      let (refs, references) ← references.releaseReference counter
      if refs = 0 then
        .ok { references with
          deleted := references.deleted ++ [⟨handle.deleter, handle.vm, handle.value⟩]
          counters := references.counters.modify counter fun _ => none }
      else
        .ok references

variable [DecidableEq H]

def set (references : References H L V D) (this : H) (handle : GlobalReference V D) : References H L V D :=
  { references with handles := Function.update references.handles this handle }

def start (references : References H L V D) (this : H) (handle : GlobalReference V D) : References H L V D :=
  { references.set this handle with live := this :: references.live }

def alive (references : References H L V D) (this : H) : Except Fault Unit :=
  if this ∈ references.live then .ok () else .error .misuse

def unused (references : References H L V D) (this : H) : Except Fault Unit :=
  if this ∈ references.live then .error .misuse else .ok ()

def construct (references : References H L V D) (this : H) : Except Fault (References H L V D) := do
  references.unused this
  .ok (references.start this .empty)

/-- `NewGlobalRef` gives a new reference. -/
def constructFrom (references : References H L V D) (this : H) (localRef : L) (vm : V) (deleter : D) :
    Except Fault (References H L V D) := do
  references.unused this
  let value := references.made.length
  let (counter, counters) := references.counters.alloc (some 0)
  let references : References H L V D :=
    { references with made := references.made ++ [⟨localRef, vm, deleter⟩], counters := counters }
  (references.start this ⟨some vm, some deleter, some value, some counter⟩).addReference counter

def copyConstruct (references : References H L V D) (this other : H) : Except Fault (References H L V D) := do
  references.unused this
  references.alive other
  let handle := references.handles other
  (references.start this handle).add handle

def moveConstruct (references : References H L V D) (this other : H) : Except Fault (References H L V D) := do
  references.unused this
  references.alive other
  let references := references.start this (references.handles other)
  .ok (references.set other (references.handles other).moved)

def copyAssign (references : References H L V D) (this other : H) : Except Fault (References H L V D) := do
  references.alive this
  references.alive other
  if this ≠ other then
    let references ← references.release (references.handles this)
    let handle := references.handles other
    (references.set this handle).add handle
  else
    .ok references

/-- Without a test for an assignment to itself, which leaves the handle empty. -/
def moveAssign (references : References H L V D) (this other : H) : Except Fault (References H L V D) := do
  references.alive this
  references.alive other
  let references ← references.release (references.handles this)
  let references := references.set this (references.handles other)
  .ok (references.set other (references.handles other).moved)

def destruct (references : References H L V D) (this : H) : Except Fault (References H L V D) := do
  references.alive this
  let references ← references.release (references.handles this)
  .ok { references with live := references.live.erase this }

def step (references : References H L V D) : Operation H L V D → Except Fault (References H L V D)
  | .construct this => references.construct this
  | .constructFrom this localRef vm deleter => references.constructFrom this localRef vm deleter
  | .copyConstruct this other => references.copyConstruct this other
  | .moveConstruct this other => references.moveConstruct this other
  | .copyAssign this other => references.copyAssign this other
  | .moveAssign this other => references.moveAssign this other
  | .destruct this => references.destruct this

end References
end CpuCom.Service
