import CpuCom.Messaging.Client
import CpuCom.Messaging.DaemonMoves
import Mathlib.Logic.Function.Basic

/-! The daemon, its clients and the messages in flight between them. No connection is
lost. Sections, writes and messages of all sides interleave one by one. -/

namespace CpuCom.Messaging
open Interaction
open Uart (CpuCommand)

variable {S Id F μ : Type}

/-- Messages are delivered in the order in which they have been sent, or in any. -/
inductive Delivery where
  | inOrder
  | anyOrder

def Delivery.Takes : Delivery → List μ → μ → List μ → Prop
  | .inOrder, queue, message, rest => queue = message :: rest
  | .anyOrder, queue, message, rest => ∃ before after, queue = before ++ message :: after ∧ rest = before ++ after

inductive NetworkEvent (S Id F : Type) where
  | daemon (event : Daemon.Event S Id)
  | client (session : S) (event : Client.Event Id F)

variable [LinearOrder S] [LinearOrder Id]

structure Network (S Id F : Type) [LinearOrder S] [LinearOrder Id] where
  daemon : (@Daemon.system S Id _ _).Pool
  clients : S → (@Client.system Id F _).Pool
  toDaemon : S → List (ClientMessage Id)
  toClient : S → List (ServerMessage Id)

namespace Network

def initial (errorCallbacks : S → Option F) : Network S Id F where
  daemon := ⟨[], Daemon.initial⟩
  clients session := ⟨[], Client.initial (errorCallbacks session)⟩
  toDaemon _ := []
  toClient _ := []

/-- The messages to the clients after a call of the daemon. -/
def replied (toClient : S → List (ServerMessage Id)) : DaemonCall S Id → S → List (ServerMessage Id)
  | .send session message => Function.update toClient session (toClient session ++ [message])
  | _ => toClient

/-- The messages to the daemon after a call of a client. -/
def posted (toDaemon : S → List (ClientMessage Id)) (session : S) : ClientCall Id F → S → List (ClientMessage Id)
  | .send message => Function.update toDaemon session (toDaemon session ++ [message])
  | _ => toDaemon

/-- A message is handled after those before it, where messages keep their order. -/
def Ready (network : Network S Id F) (delivery : Delivery) (session : S) : Prop :=
  match delivery with
  | .inOrder => ∀ activity ∈ network.daemon.tasks, (∃ message, activity.task = .message session message) →
      activity.Finished
  | .anyOrder => True

/-- A UUID is made once, and a request is cancelled by its response, once that has
been returned. -/
def Allows (network : Network S Id F) (session : S) : ClientTask Id F → Prop
  | .request id _ _ _ | .sendWithDeliveryStatus id _ _ _ =>
      ∀ other, ∀ activity ∈ (network.clients other).tasks, Client.newId activity.task ≠ some id
  | .cancel id => ∃ activity ∈ (network.clients session).tasks,
      (∃ requestCommand requestData responseCommand,
        activity.task = .request id requestCommand requestData responseCommand) ∧
        activity.Finished
  | .message _ => False
  | _ => True

inductive Step (delivery : Delivery) : Network S Id F → NetworkEvent S Id F → Network S Id F → Prop where
  | received {network command data pool}
      (step : Daemon.system.Step network.daemon (.begins (.receiveCommand command data)) pool) :
      Step delivery network (.daemon (.begins (.receiveCommand command data))) { network with daemon := pool }
  | handles {network session message rest pool} (taken : delivery.Takes (network.toDaemon session) message rest)
      (ready : network.Ready delivery session)
      (step : Daemon.system.Step network.daemon (.begins (.message session message)) pool) :
      Step delivery network (.daemon (.begins (.message session message)))
        { network with daemon := pool, toDaemon := Function.update network.toDaemon session rest }
  | daemonCalls {network index call reply pool}
      (step : Daemon.system.Step network.daemon (.calls index call reply) pool) :
      Step delivery network (.daemon (.calls index call reply))
        { network with daemon := pool, toClient := replied network.toClient call }
  | clientBegins {network session task pool} (allowed : network.Allows session task)
      (step : Client.system.Step (network.clients session) (.begins task) pool) :
      Step delivery network (.client session (.begins task))
        { network with clients := Function.update network.clients session pool }
  | clientReceives {network session message rest pool} (taken : delivery.Takes (network.toClient session) message rest)
      (step : Client.system.Step (network.clients session) (.begins (.message message)) pool) :
      Step delivery network (.client session (.begins (.message message)))
        { network with
          clients := Function.update network.clients session pool
          toClient := Function.update network.toClient session rest }
  | clientCalls {network session index call reply pool}
      (step : Client.system.Step (network.clients session) (.calls index call reply) pool) :
      Step delivery network (.client session (.calls index call reply))
        { network with
          clients := Function.update network.clients session pool
          toDaemon := posted network.toDaemon session call }

/-- Runs with everything that has happened in them. -/
inductive Reaches (delivery : Delivery) (start : Network S Id F) :
    List (NetworkEvent S Id F) → Network S Id F → Prop where
  | refl : Reaches delivery start [] start
  | step {trace network event after} (reached : Reaches delivery start trace network)
      (step : Step delivery network event after) :
      Reaches delivery start (trace ++ [event]) after

/-- Runs of the network from its start. -/
def Runs (delivery : Delivery) (trace : List (NetworkEvent S Id F)) (network : Network S Id F) : Prop :=
  ∃ errorCallbacks, Reaches delivery (initial errorCallbacks) trace network

/-- The calls and handlers have returned, and no message of the session is in flight. -/
structure Quiet (network : Network S Id F) (session : S) : Prop where
  daemon : network.daemon.Idle
  client : (network.clients session).Idle
  toDaemon : network.toDaemon session = []
  toClient : network.toClient session = []

/-- What happens at the daemon. -/
def atDaemon (trace : List (NetworkEvent S Id F)) : List (Daemon.Event S Id) :=
  trace.filterMap fun
    | .daemon event => some event
    | .client _ _ => none

/-- What happens at one client. -/
def atClient (session : S) (trace : List (NetworkEvent S Id F)) : List (Client.Event Id F) :=
  trace.filterMap fun
    | .client caller event => if caller = session then some event else none
    | .daemon _ => none

variable {delivery : Delivery} {start network : Network S Id F} {trace : List (NetworkEvent S Id F)}

/-- What holds of every step holds of every run. -/
theorem Runs.invariant {holds : List (NetworkEvent S Id F) → Network S Id F → Prop} (ran : Runs delivery trace network)
    (begins : ∀ errorCallbacks, holds [] (initial errorCallbacks))
    (preserved : ∀ trace network event after, Runs delivery trace network → holds trace network →
      Step delivery network event after → holds (trace ++ [event]) after) : holds trace network := by
  obtain ⟨errorCallbacks, ran⟩ := ran
  induction ran with
  | refl => exact begins errorCallbacks
  | step reached step ih => exact preserved _ _ _ _ ⟨errorCallbacks, reached⟩ ih step

/-- A run of the network is a run of the daemon. -/
theorem Runs.daemon (ran : Runs delivery trace network) : Daemon.Runs (atDaemon trace) network.daemon := by
  apply ran.invariant
  · intro errorCallbacks
    exact System.Reaches.refl
  · intro trace network event after _ reached step
    unfold atDaemon at *
    rw [List.filterMap_append]
    cases step with
    | received step => exact reached.step step
    | handles taken ready step => exact reached.step step
    | daemonCalls step => exact reached.step step
    | _ => simpa using reached

/-- A run of the network is a run of each client. -/
theorem Runs.client (ran : Runs delivery trace network) (session : S) : ∃ errorCallback,
    Client.system.Reaches ⟨[], Client.initial errorCallback⟩ (atClient session trace) (network.clients session) := by
  apply ran.invariant
  · intro errorCallbacks
    exact ⟨errorCallbacks session, System.Reaches.refl⟩
  · rintro trace network event after - ⟨errorCallback, reached⟩ step
    refine ⟨errorCallback, ?_⟩
    have extended {caller : S} {event : Client.Event Id F} {pool}
      (step : Client.system.Step (network.clients caller) event pool) :
        Client.system.Reaches ⟨[], Client.initial errorCallback⟩ (atClient session (trace ++ [.client caller event]))
          (Function.update network.clients caller pool session) := by
      unfold atClient at *
      rw [List.filterMap_append]
      by_cases same : caller = session
      · subst same
        simpa using reached.step step
      · simpa [same, Function.update_of_ne (Ne.symm same)] using reached
    cases step with
    | clientBegins allowed step => exact extended step
    | clientReceives taken step => exact extended step
    | clientCalls step => exact extended step
    | _ => simpa [atClient] using reached

/-- What has begun at a client is one of its tasks. -/
theorem Runs.begun (ran : Runs delivery trace network) {session : S} {task : ClientTask Id F}
    (begun : .client session (.begins task) ∈ trace) :
    ∃ activity ∈ (network.clients session).tasks, activity.task = task := by
  obtain ⟨errorCallback, reached⟩ := ran.client session
  have member : task ∈ System.begun (atClient session trace) := by
    refine List.mem_filterMap.mpr ⟨.begins task, List.mem_filterMap.mpr ⟨_, begun, if_pos rfl⟩, rfl⟩
  rw [← reached.begun] at member
  exact List.mem_map.mp member

end Network
end CpuCom.Messaging
