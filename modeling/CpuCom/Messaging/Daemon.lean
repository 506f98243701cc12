import CpuCom.Interaction.Turns
import CpuCom.Messaging.Messages
import Mathlib.Order.Compare
import Std.Data.TreeSet.Lemmas

/-! `CpuComDaemon`. A handler is a program whose calls are its sections between
`lock` and `unlock`, its writes to the V-CPU and the messages that it sends. The
handlers of the message thread and of the V-CPU thread run side by side. -/

namespace CpuCom.Messaging
open Interaction
open Uart (CpuCommand)

variable {S Id : Type}

/-- An element of `m_requests`. -/
structure PendingRequest (S Id : Type) where
  id : Id
  responseCommand : CpuCommand
  session : S
deriving DecidableEq

inductive DaemonCall (S Id : Type) where
  | copySubscribers (command : CpuCommand)
  | takeRequest (command : CpuCommand)
  | dropSubscriber (session : S)
  | dropRequests (session : S)
  | addSubscriber (session : S) (command : CpuCommand)
  | removeSubscriber (session : S) (command : CpuCommand)
  | addRequest (request : PendingRequest S Id)
  | cancelRequest (id : Id)
  | write (command : CpuCommand) (data : Data)
  | send (session : S) (message : ServerMessage Id)
deriving DecidableEq

/-- What a call leaves in the local variables of a handler: the copied subscribers,
the request found, or the result of a write. -/
structure DaemonReply (S Id : Type) where
  subscribers : List S := []
  request : Option (PendingRequest S Id) := none
  written : Bool := false
deriving DecidableEq

abbrev DaemonProgram (S Id : Type) := Program (DaemonCall S Id) (DaemonReply S Id)

inductive DaemonTask (S Id : Type) where
  | receiveCommand (command : CpuCommand) (data : Data)
  | clientDisconnected (session : S)
  | message (session : S) (message : ClientMessage Id)
deriving DecidableEq

namespace Daemon

def sendNotifications (command : CpuCommand) (data : Data) : List S → DaemonProgram S Id Unit
  | [] => pure ()
  | session :: subscribers => do
      let _ ← Program.request (.send session (.notification command data))
      sendNotifications command data subscribers

def onReceiveCommand (command : CpuCommand) (data : Data) : DaemonProgram S Id Unit := do
  let copied ← Program.request (.copySubscribers command)
  sendNotifications command data copied.subscribers
  let found ← Program.request (.takeRequest command)
  match found.request with
  | some request =>
      let _ ← Program.request (.send request.session (.requestResponse request.id data))
      pure ()
  | none => pure ()

/-- The end of `onReceiveCommand`, once the pending request has been looked up. -/
def answerRequest (data : Data) : Option (PendingRequest S Id) → DaemonProgram S Id Unit
  | some request => do
      let _ ← Program.request (.send request.session (.requestResponse request.id data))
      pure ()
  | none => pure ()

theorem onReceiveCommand_eq (command : CpuCommand) (data : Data) :
    (onReceiveCommand command data : DaemonProgram S Id Unit) =
      (do
        let copied ← Program.request (.copySubscribers command)
        sendNotifications command data copied.subscribers
        let found ← Program.request (.takeRequest command)
        answerRequest data found.request) := rfl

def onClientDisconnected (session : S) : DaemonProgram S Id Unit := do
  let _ ← Program.request (.dropSubscriber session)
  let _ ← Program.request (.dropRequests session)
  pure ()

def onSendCommand (session : S) (command : CpuCommand) (data : Data) : DaemonProgram S Id Unit := do
  let result ← Program.request (.write command data)
  if result.written = false then
    let _ ← Program.request (.send session (.sendCommandResult command .busy))
    pure ()
  else pure ()

def onSubscribe (session : S) (command : CpuCommand) : DaemonProgram S Id Unit := do
  let _ ← Program.request (.addSubscriber session command)
  pure ()

def onUnsubscribe (session : S) (command : CpuCommand) : DaemonProgram S Id Unit := do
  let _ ← Program.request (.removeSubscriber session command)
  pure ()

/-- The result of the write is not used. -/
def onRequest (session : S) (requestID : Id) (requestCommand : CpuCommand) (requestData : Data)
    (responseCommand : CpuCommand) : DaemonProgram S Id Unit := do
  let _ ← Program.request (.addRequest ⟨requestID, responseCommand, session⟩)
  let _ ← Program.request (.write requestCommand requestData)
  pure ()

/-- The session is not used. -/
def onCancelRequest (_ : S) (requestID : Id) : DaemonProgram S Id Unit := do
  let _ ← Program.request (.cancelRequest requestID)
  pure ()

def onSendCommandWithDeliveryStatus (session : S) (requestID : Id) (command : CpuCommand) (data : Data) :
    DaemonProgram S Id Unit := do
  let result ← Program.request (.write command data)
  let _ ← Program.request (.send session (.deliveryStatus requestID result.written))
  pure ()

def onMessage (session : S) : ClientMessage Id → DaemonProgram S Id Unit
  | .sendCommand command data => onSendCommand session command data
  | .subscribe command => onSubscribe session command
  | .unsubscribe command => onUnsubscribe session command
  | .request id requestCommand requestData responseCommand =>
      onRequest session id requestCommand requestData responseCommand
  | .cancelRequest id => onCancelRequest session id
  | .sendCommandWithDeliveryStatus id command data => onSendCommandWithDeliveryStatus session id command data

def handler : DaemonTask S Id → DaemonProgram S Id Unit
  | .receiveCommand command data => onReceiveCommand command data
  | .clientDisconnected session => onClientDisconnected session
  | .message session message => onMessage session message

end Daemon

/-- `m_subscribers` and `m_requests`. -/
structure Daemon (S Id : Type) [LinearOrder S] where
  subscribers : CommandMap (Std.TreeSet S)
  requests : List (PendingRequest S Id)

namespace Daemon

variable [LinearOrder S] [DecidableEq Id]

def initial : Daemon S Id := ⟨∅, []⟩

def subscribersOf (daemon : Daemon S Id) (command : CpuCommand) : Std.TreeSet S := daemon.subscribers.getD command ∅

/-- The reply to a call and the tables after it. The map of subscribers makes an
empty entry where it is indexed without one. -/
def perform (daemon : Daemon S Id) : DaemonCall S Id → DaemonReply S Id × Daemon S Id
  | .copySubscribers command =>
      ({ subscribers := (daemon.subscribersOf command).toList },
        { daemon with subscribers := daemon.subscribers.insertIfNew command ∅ })
  | .takeRequest command =>
      ({ request := daemon.requests.find? (·.responseCommand = command) },
        { daemon with requests := daemon.requests.eraseP (·.responseCommand = command) })
  | .dropSubscriber session =>
      ({}, { daemon with subscribers := daemon.subscribers.map fun _ sessions => sessions.erase session })
  | .dropRequests session =>
      ({}, { daemon with requests := daemon.requests.filter (·.session ≠ session) })
  | .addSubscriber session command =>
      ({}, { daemon with
        subscribers := daemon.subscribers.insert command ((daemon.subscribersOf command).insert session) })
  | .removeSubscriber session command =>
      ({}, { daemon with
        subscribers := daemon.subscribers.insert command ((daemon.subscribersOf command).erase session) })
  | .addRequest request => ({}, { daemon with requests := daemon.requests ++ [request] })
  | .cancelRequest id => ({}, { daemon with requests := daemon.requests.eraseP (·.id = id) })
  | .write _ _ => ({}, daemon)
  | .send _ _ => ({}, daemon)

/-- The V-CPU decides about a write; every other reply is determined. -/
def Answers (daemon : Daemon S Id) (call : DaemonCall S Id) (reply : DaemonReply S Id) (after : Daemon S Id) : Prop :=
  after = (daemon.perform call).2 ∧
    ((∃ command data, call = .write command data) ∨ reply = (daemon.perform call).1)

/-- Any handler may begin at any time, beside any others. -/
def system : System (DaemonTask S Id) (DaemonCall S Id) (DaemonReply S Id) (Daemon S Id) where
  program := handler
  begins _ before _ after := after = before
  answers := Answers

abbrev Event (S Id : Type) := Interaction.Event (DaemonTask S Id) (DaemonCall S Id) (DaemonReply S Id)

/-- Runs of the daemon from its start. -/
abbrev Runs (trace : List (Event S Id)) (pool : (@system S Id _ _).Pool) : Prop :=
  system.Reaches ⟨[], initial⟩ trace pool

/-- The reply once it is chosen what the next write returns. -/
def replies (daemon : Daemon S Id) (call : DaemonCall S Id) (written : Bool) :
    Option (DaemonReply S Id × Daemon S Id) :=
  match call with
  | .write _ _ => some ({ written }, daemon)
  | _ => some (daemon.perform call)

theorem replies_allowed : @System.Allowed _ _ _ _ _ (@system S Id _ _) (fun _ shared _ => some shared) replies where
  begins tasks shared task after opened := (Option.some.inj opened).symm
  answers shared request choice reply after replied := by
    unfold replies at replied
    split at replied
    · obtain ⟨rfl, rfl⟩ := Prod.mk.inj (Option.some.inj replied)
      exact ⟨rfl, .inl ⟨_, _, rfl⟩⟩
    · obtain same := Option.some.inj replied
      exact ⟨(congrArg Prod.snd same).symm, .inr (congrArg Prod.fst same).symm⟩

abbrev play (turns : List (Turn (DaemonTask S Id) Bool)) : Option (List (Event S Id) × (@system S Id _ _).Pool) :=
  System.play (fun _ shared _ => some shared) replies ⟨[], initial⟩ turns

end Daemon
end CpuCom.Messaging
