import CpuCom.Interaction.Serial
import CpuCom.Messaging.Daemon

/-! The V-CPU thread of the daemon. `vcpuThreadFunction` runs again and again on the
one thread of the periodic executor, so that a command that has been read is handled
before the next one is read. The handlers of the messages run beside it. -/

namespace CpuCom.Messaging
open Interaction System
open Uart (CpuCommand)

variable {S Id : Type}

/-- The command that a task of the V-CPU thread handles. -/
def DaemonTask.received : DaemonTask S Id → Option (CpuCommand × Data)
  | .receiveCommand command data => some (command, data)
  | _ => none

/-- The tasks of the V-CPU thread. -/
def DaemonTask.OfVcpu (task : DaemonTask S Id) : Prop := task.received ≠ none

instance : DecidablePred (@DaemonTask.OfVcpu S Id)
  | .receiveCommand _ _ => .isTrue nofun
  | .clientDisconnected _ => .isFalse (· rfl)
  | .message _ _ => .isFalse (· rfl)

namespace Daemon

/-- What `m_vcpu->read` returns. -/
abbrev Read := Uart.Protocol.Received (CpuCommand × Data)

/-- The result that `vcpuThreadFunction` hands to `onReceiveCommand`. -/
def handled : Read → Option (CpuCommand × Data)
  | .message received => some received
  | _ => none

/-- What begins a task is the turn of that task. -/
private theorem turn_begun {ι κ ρ δ χ : Type} {system : System ι κ ρ δ}
    {opens : List (Activity system.program) → δ → ι → Option δ} {replies : δ → κ → χ → Option (ρ × δ)}
    {pool after : system.Pool} {next : Turn ι χ} {task : ι}
    (taken : turn opens replies pool next = some (.begins task, after)) : next = .begins task := by
  cases next with
  | begins other =>
    obtain ⟨shared, opened, same⟩ := Option.map_eq_some_iff.mp taken
    rw [Event.begins.inj (Prod.mk.inj same).1]
  | calls index choice =>
    obtain ⟨activity, found, taken⟩ := Option.bind_eq_some_iff.mp taken
    split at taken
    · obtain ⟨⟨reply, shared⟩, replied, same⟩ := Option.map_eq_some_iff.mp taken
      exact nomatch (Prod.mk.inj same).1
    · exact nomatch taken

variable [LinearOrder S] [DecidableEq Id]

/-- Runs of the daemon whose reads have these results, with those that are unread. A read
out of bounds is the end of the run. -/
inductive Serves (results : List Read) : List (Event S Id) → List Read → (@system S Id _ _).Pool → Prop where
  | start : Serves results [] results ⟨[], initial⟩
  | received {trace command data unread pool after}
      (served : Serves results trace (.message (command, data) :: unread) pool) (free : pool.Free DaemonTask.OfVcpu)
      (step : system.Step pool (.begins (.receiveCommand command data)) after) :
      Serves results (trace ++ [.begins (.receiveCommand command data)]) unread after
  | missed {trace unread pool} (served : Serves results trace (.nothing :: unread) pool)
      (free : pool.Free DaemonTask.OfVcpu) : Serves results trace unread pool
  | beside {trace unread pool event after} (served : Serves results trace unread pool)
      (step : system.Step pool event after) (other : ∀ task, event = .begins task → task.received = none) :
      Serves results (trace ++ [event]) unread after

/-- What is left to read once a task begins. -/
def unreadAfter (unread : List Read) (pool : (@system S Id _ _).Pool) :
    Turn (DaemonTask S Id) Bool → Option (List Read)
  | .begins (.receiveCommand command data) =>
      match unread with
      | .message received :: unread =>
          if received = (command, data) ∧ pool.Free DaemonTask.OfVcpu then some unread else none
      | _ => none
  | _ => some unread

/-- A run that is computed from the turns taken in it. -/
def serve (unread : List Read) (pool : (@system S Id _ _).Pool) :
    List (Turn (DaemonTask S Id) Bool) → Option (List (Event S Id) × List Read × (@system S Id _ _).Pool)
  | [] => some ([], unread, pool)
  | next :: turns =>
      (unreadAfter unread pool next).bind fun unread =>
        (turn (fun _ shared _ => some shared) replies pool next).bind fun (event, after) =>
          (serve unread after turns).map fun (trace, last) => (event :: trace, last)

theorem serves_turn {results unread left : List Read} {pool after : (@system S Id _ _).Pool}
    {trace : List (Event S Id)} {next : Turn (DaemonTask S Id) Bool} {event : Event S Id}
    (served : Serves results trace unread pool) (takes : unreadAfter unread pool next = some left)
    (taken : turn (fun _ shared _ => some shared) replies pool next = some (event, after)) :
    Serves results (trace ++ [event]) left after := by
  have step := step_of_turn replies_allowed taken
  unfold unreadAfter at takes
  split at takes
  · next command data =>
    split at takes
    · next received unread =>
      obtain ⟨⟨rfl, free⟩, same⟩ := Option.ite_none_right_eq_some.mp takes
      obtain rfl := Option.some.inj same
      obtain ⟨rfl, rfl⟩ := Prod.mk.inj (Option.some.inj taken)
      exact served.received free step
    · exact nomatch takes
  · next other =>
    obtain rfl := Option.some.inj takes
    refine served.beside step fun task begun => ?_
    subst begun
    obtain rfl := turn_begun taken
    cases task with
    | receiveCommand command data => exact absurd rfl (other command data)
    | _ => rfl

theorem serves_of_serve {results unread left : List Read} {pool last : (@system S Id _ _).Pool}
    {trace later : List (Event S Id)} {turns : List (Turn (DaemonTask S Id) Bool)}
    (served : Serves results trace unread pool) (played : serve unread pool turns = some (later, left, last)) :
    Serves results (trace ++ later) left last := by
  induction turns generalizing trace unread pool later with
  | nil =>
    obtain ⟨rfl, same⟩ := Prod.mk.inj (Option.some.inj played)
    obtain ⟨rfl, rfl⟩ := Prod.mk.inj same
    rwa [List.append_nil]
  | cons next turns ih =>
    obtain ⟨rest, takes, played⟩ := Option.bind_eq_some_iff.mp played
    obtain ⟨⟨event, after⟩, taken, played⟩ := Option.bind_eq_some_iff.mp played
    obtain ⟨⟨more, ends⟩, further, same⟩ := Option.map_eq_some_iff.mp played
    obtain ⟨rfl, rfl⟩ := Prod.mk.inj same
    rw [List.append_cons]
    exact ih (serves_turn served takes taken) further

end Daemon
end CpuCom.Messaging
