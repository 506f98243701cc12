import CpuCom.Interaction.Turns
import CpuCom.Messaging.Network
import Mathlib.Data.Fintype.Basic
import Mathlib.Order.Fin.Basic

/-! Runs of the network that are computed from the turns taken in them. A turn names
who goes on, and a message by its position among those in flight. -/

namespace CpuCom.Messaging
open Interaction
open Uart (CpuCommand)

variable {S Id F μ : Type}

inductive NetworkTurn (S Id F : Type) where
  | received (command : CpuCommand) (data : Data)
  | handles (session : S) (position : Nat)
  | daemonCalls (index : Nat) (written : Bool)
  | clientBegins (session : S) (task : ClientTask Id F)
  | clientReceives (session : S) (position : Nat)
  | clientCalls (session : S) (index : Nat)

/-- The message at the position, and the others. -/
def Delivery.take (delivery : Delivery) (queue : List μ) (position : Nat) : Option (μ × List μ) :=
  match delivery, position with
  | .inOrder, _ + 1 => none
  | _, position => queue[position]?.map fun message => (message, queue.eraseIdx position)

theorem Delivery.takes_of_take {delivery : Delivery} {queue rest : List μ} {position : Nat} {message : μ}
    (taken : delivery.take queue position = some (message, rest)) : delivery.Takes queue message rest := by
  cases delivery with
  | anyOrder =>
    obtain ⟨there, found, same⟩ := Option.map_eq_some_iff.mp taken
    obtain ⟨rfl, rfl⟩ := Prod.mk.inj same
    obtain ⟨inside, rfl⟩ := List.getElem?_eq_some_iff.mp found
    exact ⟨queue.take position, queue.drop (position + 1), by simp, List.eraseIdx_eq_take_drop_succ ..⟩
  | inOrder =>
    cases position with
    | zero =>
      obtain ⟨there, found, same⟩ := Option.map_eq_some_iff.mp taken
      obtain ⟨rfl, rfl⟩ := Prod.mk.inj same
      cases queue with
      | nil => exact nomatch found
      | cons first queue =>
        obtain rfl := Option.some.inj found
        rfl
    | succ position => exact nomatch taken

/-- The task handles a message of this session. -/
def DaemonTask.isFrom [DecidableEq S] (session : S) : DaemonTask S Id → Bool
  | .message sender _ => sender = session
  | _ => false

/-- The task makes the request with this id. -/
def ClientTask.makesRequest [DecidableEq Id] (id : Id) : ClientTask Id F → Bool
  | .request made _ _ _ => made = id
  | _ => false

namespace Network
open System

variable [LinearOrder S] [LinearOrder Id]

instance (network : Network S Id F) (delivery : Delivery) (session : S) : Decidable (network.Ready delivery session) :=
  match delivery with
  | .inOrder =>
      decidable_of_iff
        (∀ activity ∈ network.daemon.tasks, activity.task.isFrom session = true → activity.Finished) <| by
        unfold Ready
        refine forall₂_congr fun activity _ => imp_congr_left ?_
        cases activity.task <;> simp [DaemonTask.isFrom]
  | .anyOrder => .isTrue trivial

instance [Fintype S] (network : Network S Id F) (session : S) :
    (task : ClientTask Id F) → Decidable (network.Allows session task)
  | .request id _ _ _ | .sendWithDeliveryStatus id _ _ _ =>
      inferInstanceAs
        (Decidable (∀ other, ∀ activity ∈ (network.clients other).tasks, Client.newId activity.task ≠ some id))
  | .cancel id =>
      decidable_of_iff
        (∃ activity ∈ (network.clients session).tasks, activity.task.makesRequest id = true ∧ activity.Finished) <| by
        unfold Allows
        refine exists_congr fun activity => and_congr_right fun _ => and_congr_left fun _ => ?_
        cases activity.task <;> simp [ClientTask.makesRequest]
  | .message _ => .isFalse id
  | .subscribe _ _ | .unsubscribe _ | .send _ _ => .isTrue trivial

instance (network : Network S Id F) (session : S) : Decidable (network.Quiet session) :=
  decidable_of_iff (network.daemon.Idle ∧ (network.clients session).Idle ∧ network.toDaemon session = [] ∧
      network.toClient session = [])
    ⟨fun ⟨daemon, client, toDaemon, toClient⟩ => ⟨daemon, client, toDaemon, toClient⟩,
      fun ⟨daemon, client, toDaemon, toClient⟩ => ⟨daemon, client, toDaemon, toClient⟩⟩

/-- The pool once a task has begun that changes nothing yet. -/
def started {ι κ ρ δ : Type} {system : System ι κ ρ δ} (pool : system.Pool) (task : ι) : system.Pool :=
  ⟨pool.tasks ++ [Activity.start system.program task], pool.shared⟩

def turn [Fintype S] (delivery : Delivery) (network : Network S Id F) :
    NetworkTurn S Id F → Option (NetworkEvent S Id F × Network S Id F)
  | .received command data =>
      some (.daemon (.begins (.receiveCommand command data)),
        { network with daemon := started network.daemon (.receiveCommand command data) })
  | .handles session position =>
      if network.Ready delivery session then
        (delivery.take (network.toDaemon session) position).map fun (message, rest) =>
          (.daemon (.begins (.message session message)),
            { network with
              daemon := started network.daemon (.message session message)
              toDaemon := Function.update network.toDaemon session rest })
      else none
  | .daemonCalls index written =>
      match System.turn (fun _ shared _ => some shared) Daemon.replies network.daemon (.calls index written) with
      | some (.calls caller call reply, pool) =>
          some (.daemon (.calls caller call reply),
            { network with daemon := pool, toClient := replied network.toClient call })
      | _ => none
  | .clientBegins session task =>
      if network.Allows session task then
        some (.client session (.begins task),
          { network with clients := Function.update network.clients session (started (network.clients session) task) })
      else none
  | .clientReceives session position =>
      (delivery.take (network.toClient session) position).map fun (message, rest) =>
        (.client session (.begins (.message message)),
          { network with
            clients := Function.update network.clients session (started (network.clients session) (.message message))
            toClient := Function.update network.toClient session rest })
  | .clientCalls session index =>
      match System.turn (fun _ shared _ => some shared) (fun client call (_ : Unit) => some (client.perform call))
          (network.clients session) (.calls index ()) with
      | some (.calls caller call reply, pool) =>
          some (.client session (.calls caller call reply),
            { network with
              clients := Function.update network.clients session pool
              toDaemon := posted network.toDaemon session call })
      | _ => none

def play [Fintype S] (delivery : Delivery) :
    Network S Id F → List (NetworkTurn S Id F) → Option (List (NetworkEvent S Id F) × Network S Id F)
  | network, [] => some ([], network)
  | network, next :: turns =>
      (turn delivery network next).bind fun (event, after) =>
        (play delivery after turns).map fun (trace, last) => (event :: trace, last)

section
variable [Fintype S] {delivery : Delivery} {network after : Network S Id F} {next : NetworkTurn S Id F}
  {event : NetworkEvent S Id F}

theorem replies_allowed : @System.Allowed _ _ _ _ _ (@Client.system Id F _) (fun _ shared _ => some shared)
    (fun client call (_ : Unit) => some (client.perform call)) where
  begins _ _ _ _ opened := (Option.some.inj opened).symm
  answers _ _ _ _ _ replied := (Option.some.inj replied).symm

theorem step_of_turn (taken : turn delivery network next = some (event, after)) :
    Step delivery network event after := by
  cases next with
  | received command data =>
    obtain ⟨rfl, rfl⟩ := Prod.mk.inj (Option.some.inj taken)
    exact .received (.begins rfl)
  | handles session position =>
    obtain ⟨ready, taken⟩ := Option.ite_none_right_eq_some.mp taken
    obtain ⟨⟨message, rest⟩, took, same⟩ := Option.map_eq_some_iff.mp taken
    obtain ⟨rfl, rfl⟩ := Prod.mk.inj same
    exact .handles (Delivery.takes_of_take took) ready (.begins rfl)
  | daemonCalls index written =>
    simp only [turn] at taken
    split at taken
    · rename_i caller call reply pool called
      obtain ⟨rfl, rfl⟩ := Prod.mk.inj (Option.some.inj taken)
      exact .daemonCalls (System.step_of_turn Daemon.replies_allowed called)
    · exact nomatch taken
  | clientBegins session task =>
    obtain ⟨allowed, taken⟩ := Option.ite_none_right_eq_some.mp taken
    obtain ⟨rfl, rfl⟩ := Prod.mk.inj (Option.some.inj taken)
    exact .clientBegins allowed (.begins rfl)
  | clientReceives session position =>
    obtain ⟨⟨message, rest⟩, took, same⟩ := Option.map_eq_some_iff.mp taken
    obtain ⟨rfl, rfl⟩ := Prod.mk.inj same
    exact .clientReceives (Delivery.takes_of_take took) (.begins rfl)
  | clientCalls session index =>
    simp only [turn] at taken
    split at taken
    · rename_i caller call reply pool called
      obtain ⟨rfl, rfl⟩ := Prod.mk.inj (Option.some.inj taken)
      exact .clientCalls (System.step_of_turn replies_allowed called)
    · exact nomatch taken

omit [Fintype S] in
theorem Reaches.prepend {start middle : Network S Id F} {trace : List (NetworkEvent S Id F)}
    (first : Step delivery start event middle)
    (reached : Reaches delivery middle trace network) : Reaches delivery start (event :: trace) network := by
  induction reached with
  | refl => exact .step .refl first
  | step _ last ih => exact ih.step last

theorem reaches_of_play {start : Network S Id F} {turns : List (NetworkTurn S Id F)}
    {trace : List (NetworkEvent S Id F)}
    (played : play delivery start turns = some (trace, network)) : Reaches delivery start trace network := by
  induction turns generalizing start trace with
  | nil =>
    obtain ⟨rfl, rfl⟩ := Prod.mk.inj (Option.some.inj played)
    exact .refl
  | cons next turns ih =>
    obtain ⟨⟨event, middle⟩, taken, rest⟩ := Option.bind_eq_some_iff.mp played
    obtain ⟨⟨later, last⟩, further, same⟩ := Option.map_eq_some_iff.mp rest
    obtain ⟨rfl, rfl⟩ := Prod.mk.inj same
    exact (ih further).prepend (step_of_turn taken)

/-- A computed run with what has been checked of it. -/
theorem exists_run {errorCallbacks : S → Option F} {turns : List (NetworkTurn S Id F)}
    {check : List (NetworkEvent S Id F) × Network S Id F → Bool}
    (checked : (play delivery (initial errorCallbacks) turns).any check = true) :
    ∃ trace network, Runs delivery trace network ∧ check (trace, network) = true := by
  obtain ⟨⟨trace, network⟩, played, checked⟩ := (Option.any_eq_true _ _).mp checked
  exact ⟨trace, network, ⟨errorCallbacks, reaches_of_play played⟩, checked⟩

end

end Network
end CpuCom.Messaging
