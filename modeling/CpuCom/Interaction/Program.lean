import Mathlib.Data.List.Basic

/-! Programs that call out to an environment. A program is a finite tree: every
call waits for one reply, and the reply selects the rest of the program. Nothing
is said here about who replies. -/

namespace CpuCom.Interaction

variable {κ ρ α β δ : Type}

/-- `throw` is an exception that leaves the program. -/
inductive Program (κ ρ α : Type) where
  | pure (value : α)
  | throw
  | call (request : κ) (next : ρ → Program κ ρ α)

namespace Program

def bind : Program κ ρ α → (α → Program κ ρ β) → Program κ ρ β
  | .pure value, next => next value
  | .throw, _ => .throw
  | .call request rest, next => .call request (fun reply => (rest reply).bind next)

instance : Monad (Program κ ρ) where
  pure := .pure
  bind := .bind

/-- A single call, whose reply is the result. -/
def request (call : κ) : Program κ ρ ρ := .call call .pure

@[simp] theorem pure_eq (value : α) : (Pure.pure value : Program κ ρ α) = .pure value := rfl

@[simp] theorem pure_bind (value : α) (next : α → Program κ ρ β) :
    ((.pure value : Program κ ρ α) >>= next) = next value := rfl

@[simp] theorem throw_bind (next : α → Program κ ρ β) :
    ((.throw : Program κ ρ α) >>= next) = .throw := rfl

@[simp] theorem request_bind (call : κ) (next : ρ → Program κ ρ β) :
    (request call >>= next) = .call call next := rfl

@[simp] theorem call_bind (call : κ) (rest : ρ → Program κ ρ α) (next : α → Program κ ρ β) :
    (Program.call call rest >>= next) = .call call (fun reply => rest reply >>= next) := rfl

/-- The replies recorded in the trace lead the program to the result. -/
def Returns : Program κ ρ α → List (κ × ρ) → α → Prop
  | .pure value, trace, result => trace = [] ∧ result = value
  | .throw, _, _ => False
  | .call request next, trace, result =>
      ∃ reply rest, trace = (request, reply) :: rest ∧ (next reply).Returns rest result

@[simp] theorem returns_pure {value result : α} {trace : List (κ × ρ)} :
    (Program.pure value).Returns trace result ↔ trace = [] ∧ result = value := Iff.rfl

theorem returns_pair {first value : α} {second other : β} {trace : List (κ × ρ)} :
    (Program.pure (first, second)).Returns trace (value, other) ↔ trace = [] ∧ value = first ∧ other = second := by
  rw [returns_pure, Prod.mk.injEq]

@[simp] theorem returns_throw {result : α} {trace : List (κ × ρ)} :
    ¬ (Program.throw).Returns trace result := id

@[simp] theorem returns_call {call : κ} {next : ρ → Program κ ρ α} {result : α} {trace : List (κ × ρ)} :
    (Program.call call next).Returns trace result ↔
      ∃ reply rest, trace = (call, reply) :: rest ∧ (next reply).Returns rest result := Iff.rfl

theorem returns_bind {program : Program κ ρ α} {next : α → Program κ ρ β} {result : β}
    {trace : List (κ × ρ)} :
    (program >>= next).Returns trace result ↔
      ∃ value first rest, trace = first ++ rest ∧ program.Returns first value ∧
        (next value).Returns rest result := by
  induction program generalizing trace with
  | pure value => simp
  | throw => simp
  | call request rest ih =>
    simp only [call_bind, returns_call, ih]
    constructor
    · rintro ⟨reply, tail, rfl, value, first, last, rfl, head, continued⟩
      exact ⟨value, (request, reply) :: first, last, rfl, ⟨reply, first, rfl, head⟩, continued⟩
    · rintro ⟨value, first, last, rfl, ⟨reply, tail, rfl, head⟩, continued⟩
      exact ⟨reply, tail ++ last, rfl, value, tail, last, rfl, head, continued⟩

/-- Run a program against an environment with a state of its own. The result is
`none` where the environment has no reply yet, and after an exception. -/
def runOn (answer : δ → κ → Option (ρ × δ)) : Program κ ρ α → δ → Option (α × δ)
  | .pure value, device => some (value, device)
  | .throw, _ => none
  | .call request next, device =>
      match answer device request with
      | some (reply, after) => (next reply).runOn answer after
      | none => none

variable {answer : δ → κ → Option (ρ × δ)}

@[simp] theorem runOn_pure (value : α) (device : δ) :
    (Program.pure value : Program κ ρ α).runOn answer device = some (value, device) := rfl

@[simp] theorem runOn_throw (device : δ) :
    (Program.throw : Program κ ρ α).runOn answer device = none := rfl

theorem runOn_call {request : κ} {next : ρ → Program κ ρ α} {device after : δ} {reply : ρ}
    (answered : answer device request = some (reply, after)) :
    (Program.call request next).runOn answer device = (next reply).runOn answer after := by
  simp only [runOn, answered]

theorem runOn_bind (program : Program κ ρ α) (next : α → Program κ ρ β) (device : δ) :
    (program >>= next).runOn answer device =
      (program.runOn answer device).bind fun result => (next result.1).runOn answer result.2 := by
  induction program generalizing device with
  | pure value => rfl
  | throw => rfl
  | call request rest ih =>
    simp only [call_bind, runOn]
    cases answer device request with
    | none => rfl
    | some reply => exact ih reply.1 reply.2

end Program
end CpuCom.Interaction
