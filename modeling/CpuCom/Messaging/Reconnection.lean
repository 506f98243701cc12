import CpuCom.Messaging.Client
import CpuCom.Messaging.Daemon

/-! One thread of a client that loses its connection and gets it back. Every connection
is a new session. Messages wait in one queue, in order, until a connection takes
them, and the daemon handles what it has received from each session in order. -/

namespace CpuCom.Messaging
open Interaction
open Uart (CpuCommand)

variable {S Id F : Type}

namespace Client

def resubscribe : List CpuCommand → ClientProgram Id F Unit
  | [] => pure ()
  | command :: commands => do
      let _ ← Program.request (.send (.subscribe command))
      resubscribe commands

/-- `onConnectionResumedHandler` subscribes to every key of `m_callbacks`. -/
def onConnectionResumed [LinearOrder Id] (client : Client Id F) : ClientProgram Id F Unit :=
  resubscribe client.callbacks.keys

end Client

/-- `running` is what is left of the function under way, `resumptions` counts the
resumptions whose handler has not begun, and `sessions` are all that have been. -/
structure Reconnection (S Id F : Type) [LinearOrder S] [LinearOrder Id] where
  client : Client Id F
  running : ClientProgram Id F Unit
  resumptions : Nat
  connection : Option S
  sessions : List S
  outgoing : List (ClientMessage Id)
  received : List (S × ClientMessage Id)
  daemon : Daemon S Id

inductive ReconnectionEvent (S F : Type) where
  | subscribe (command : CpuCommand) (callback : Option F)
  | unsubscribe (command : CpuCommand)
  | onConnectionResumed
  | calls
  | connects (session : S)
  | loses
  | drops (position : Nat)
  | resumes (session : S)
  | delivers
  | handles (position : Nat)
  | discards (position : Nat)
  | onClientDisconnected (session : S)

namespace Reconnection

variable [LinearOrder S] [LinearOrder Id]

def initial (errorCallback : Option F) : Reconnection S Id F :=
  ⟨Client.initial errorCallback, .pure (), 0, none, [], [], [], Daemon.initial⟩

/-- The message that a call puts into the queue. -/
def posted : ClientCall Id F → List (ClientMessage Id)
  | .send message => [message]
  | _ => []

/-- The daemon after a handler, whose writes to the V-CPU succeed. -/
def handled (daemon : Daemon S Id) (task : DaemonTask S Id) : Option (Daemon S Id) :=
  ((Daemon.handler task).runOn (fun daemon call => Daemon.replies daemon call true) daemon).map (·.2)

/-- A function begins when none is under way. While there is no connection after a
loss, any message may be dropped. -/
def step (state : Reconnection S Id F) : ReconnectionEvent S F → Option (Reconnection S Id F)
  | .subscribe command callback =>
      match state.running with
      | .pure _ => some { state with running := Client.subscribe command callback }
      | _ => none
  | .unsubscribe command =>
      match state.running with
      | .pure _ => some { state with running := Client.unsubscribe command }
      | _ => none
  | .onConnectionResumed =>
      match state.running, state.resumptions with
      | .pure _, resumptions + 1 => some { state with running := Client.onConnectionResumed state.client, resumptions }
      | _, _ => none
  | .calls =>
      match state.running with
      | .call request next =>
          let (reply, client) := state.client.perform request
          some { state with client, running := next reply, outgoing := state.outgoing ++ posted request }
      | _ => none
  | .connects session =>
      if state.sessions = [] then some { state with connection := some session, sessions := [session] } else none
  | .loses => state.connection.map fun _ => { state with connection := none }
  | .drops position =>
      if state.connection = none ∧ state.sessions ≠ [] ∧ position < state.outgoing.length then
        some { state with outgoing := state.outgoing.eraseIdx position }
      else none
  | .resumes session =>
      if state.connection = none ∧ state.sessions ≠ [] ∧ session ∉ state.sessions then
        some { state with
          connection := some session
          sessions := session :: state.sessions
          resumptions := state.resumptions + 1 }
      else none
  | .delivers =>
      match state.connection, state.outgoing with
      | some session, message :: outgoing =>
          some { state with outgoing, received := state.received ++ [(session, message)] }
      | _, _ => none
  | .handles position =>
      state.received[position]?.bind fun (session, message) =>
        if ∀ older ∈ state.received.take position, older.1 ≠ session then
          (handled state.daemon (.message session message)).map fun daemon =>
            { state with daemon, received := state.received.eraseIdx position }
        else none
  | .discards position =>
      state.received[position]?.bind fun (session, _) =>
        if state.connection ≠ some session then some { state with received := state.received.eraseIdx position }
        else none
  | .onClientDisconnected session =>
      if session ∈ state.sessions ∧ state.connection ≠ some session then
        (handled state.daemon (.clientDisconnected session)).map fun daemon => { state with daemon }
      else none

def run (state : Reconnection S Id F) : List (ReconnectionEvent S F) → Option (Reconnection S Id F)
  | [] => some state
  | event :: events => (step state event).bind fun after => run after events

/-- The connection is up, and nothing is left to be done about it. -/
structure Settled (state : Reconnection S Id F) (session : S) : Prop where
  up : state.connection = some session
  returned : state.running = .pure ()
  resumed : state.resumptions = 0
  sent : state.outgoing = []
  handled : ∀ message, (session, message) ∉ state.received

instance : (program : ClientProgram Id F Unit) → Decidable (program = .pure ())
  | .pure _ => .isTrue rfl
  | .throw => .isFalse nofun
  | .call _ _ => .isFalse nofun

instance (state : Reconnection S Id F) (session : S) : Decidable (state.Settled session) :=
  decidable_of_iff
    (state.connection = some session ∧ state.running = .pure () ∧ state.resumptions = 0 ∧ state.outgoing = [] ∧
      ∀ received ∈ state.received, received.1 ≠ session) <| by
    constructor
    · rintro ⟨up, returned, resumed, sent, handled⟩
      exact ⟨up, returned, resumed, sent, fun message member => handled _ member rfl⟩
    · rintro ⟨up, returned, resumed, sent, handled⟩
      exact ⟨up, returned, resumed, sent, fun (_, message) member same => handled message (same ▸ member)⟩

end Reconnection
end CpuCom.Messaging
