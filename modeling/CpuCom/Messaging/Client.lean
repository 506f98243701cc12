import CpuCom.Interaction.Accounts
import CpuCom.Messaging.Messages
import Mathlib.Order.Compare

/-! `v2::CpuCom`. As in the daemon, a function is a program whose calls are its
sections under a mutex, the messages that it sends and the callbacks that it calls,
a delivery status with the id that is logged for it. A callback may be empty. -/

namespace CpuCom.Messaging
open Interaction
open Uart (CpuCommand)

variable {Id F : Type}

inductive ClientCall (Id F : Type) where
  | addRequest (id : Id)
  | eraseRequest (id : Id)
  | fulfil (id : Id) (data : Data)
  | addCallback (command : CpuCommand) (callback : Option F)
  | eraseCallback (command : CpuCommand)
  | findCallback (command : CpuCommand)
  | addStatusCallback (id : Id) (callback : Option F)
  | takeStatusCallback (id : Id)
  | readErrorCallback
  | send (message : ClientMessage Id)
  | callOnCommand (callback : F) (command : CpuCommand) (data : Data)
  | callDeliveryStatus (id : Id) (callback : F) (status : Bool)
  | callError (callback : F) (command : CpuCommand) (error : Error)
deriving DecidableEq

/-- What a call leaves in the local variables: whether a request was erased, a
promise found or a callback inserted, whether the promise had a value already, and
the callback found. -/
structure ClientReply (F : Type) where
  result : Bool := false
  satisfied : Bool := false
  callback : Option F := none
deriving DecidableEq

abbrev ClientProgram (Id F : Type) := Program (ClientCall Id F) (ClientReply F)

inductive ClientTask (Id F : Type) where
  | request (id : Id) (requestCommand : CpuCommand) (requestData : Data) (responseCommand : CpuCommand)
  | cancel (id : Id)
  | subscribe (command : CpuCommand) (callback : Option F)
  | unsubscribe (command : CpuCommand)
  | send (command : CpuCommand) (data : Data)
  | sendWithDeliveryStatus (id : Id) (command : CpuCommand) (data : Data) (callback : Option F)
  | message (message : ServerMessage Id)
deriving DecidableEq

namespace Client

def request (id : Id) (requestCommand : CpuCommand) (requestData : Data) (responseCommand : CpuCommand) :
    ClientProgram Id F Unit := do
  let _ ← Program.request (.addRequest id)
  let _ ← Program.request (.send (.request id requestCommand requestData responseCommand))
  pure ()

/-- What the destructor of a response runs. -/
def cleanup (id : Id) : ClientProgram Id F Unit := do
  let canceled ← Program.request (.eraseRequest id)
  if canceled.result then
    let _ ← Program.request (.send (.cancelRequest id))
    pure ()
  else pure ()

def subscribe (command : CpuCommand) (callback : Option F) : ClientProgram Id F Unit := do
  let inserted ← Program.request (.addCallback command callback)
  if inserted.result then
    let _ ← Program.request (.send (.subscribe command))
    pure ()
  else pure ()

def unsubscribe (command : CpuCommand) : ClientProgram Id F Unit := do
  let _ ← Program.request (.eraseCallback command)
  let _ ← Program.request (.send (.unsubscribe command))
  pure ()

def send (command : CpuCommand) (data : Data) : ClientProgram Id F Unit := do
  let _ ← Program.request (.send (.sendCommand command data))
  pure ()

def sendWithDeliveryStatus (id : Id) (command : CpuCommand) (data : Data) (callback : Option F) :
    ClientProgram Id F Unit := do
  let _ ← Program.request (.addStatusCallback id callback)
  let _ ← Program.request (.send (.sendCommandWithDeliveryStatus id command data))
  pure ()

def onNotification (command : CpuCommand) (data : Data) : ClientProgram Id F Unit := do
  let found ← Program.request (.findCallback command)
  match found.callback with
  | some callback =>
      let _ ← Program.request (.callOnCommand callback command data)
      pure ()
  | none => pure ()

def onSendCommandResult (command : CpuCommand) (result : Error) : ClientProgram Id F Unit := do
  let found ← Program.request .readErrorCallback
  match found.callback with
  | some callback =>
      let _ ← Program.request (.callError callback command result)
      pure ()
  | none => pure ()

/-- A second value for one promise is an exception. -/
def onRequestResponse (id : Id) (data : Data) : ClientProgram Id F Unit := do
  let found ← Program.request (.fulfil id data)
  if found.satisfied then .throw else pure ()

def onDeliveryStatus (id : Id) (status : Bool) : ClientProgram Id F Unit := do
  let taken ← Program.request (.takeStatusCallback id)
  match taken.callback with
  | some callback =>
      let _ ← Program.request (.callDeliveryStatus id callback status)
      pure ()
  | none => pure ()

def onMessage : ServerMessage Id → ClientProgram Id F Unit
  | .notification command data => onNotification command data
  | .requestResponse id data => onRequestResponse id data
  | .sendCommandResult command result => onSendCommandResult command result
  | .deliveryStatus id status => onDeliveryStatus id status

def program : ClientTask Id F → ClientProgram Id F Unit
  | .request id requestCommand requestData responseCommand => request id requestCommand requestData responseCommand
  | .cancel id => cleanup id
  | .subscribe command callback => subscribe command callback
  | .unsubscribe command => unsubscribe command
  | .send command data => send command data
  | .sendWithDeliveryStatus id command data callback => sendWithDeliveryStatus id command data callback
  | .message message => onMessage message

end Client

/-- `m_callbacks`, `m_requests`, `m_deliveryStatusCallbacks` and `m_errorCallback`.
A promise holds the value that it has been given. -/
structure Client (Id F : Type) [LinearOrder Id] where
  callbacks : CommandMap (Option F)
  requests : Std.TreeMap Id (Option Data)
  deliveryStatusCallbacks : Std.TreeMap Id (Option F)
  errorCallback : Option F

namespace Client

variable [LinearOrder Id]

def initial (errorCallback : Option F) : Client Id F := ⟨∅, ∅, ∅, errorCallback⟩

/-- The reply to a call and the tables after it. `insert` keeps an element that is
there already; the lookup of a delivery status inserts, and erases at once. -/
def perform (client : Client Id F) : ClientCall Id F → ClientReply F × Client Id F
  | .addRequest id => ({}, { client with requests := client.requests.insertIfNew id none })
  | .eraseRequest id =>
      ({ result := client.requests.contains id }, { client with requests := client.requests.erase id })
  | .fulfil id _ =>
      match client.requests[id]? with
      | some (some _) => ({ result := true, satisfied := true }, client)
      | some none => ({ result := true }, { client with requests := client.requests.erase id })
      | none => ({}, { client with requests := client.requests.erase id })
  | .addCallback command callback =>
      if client.callbacks.contains command then ({}, client)
      else ({ result := true }, { client with callbacks := client.callbacks.insertIfNew command callback })
  | .eraseCallback command => ({}, { client with callbacks := client.callbacks.erase command })
  | .findCallback command => ({ callback := client.callbacks.getD command none }, client)
  | .addStatusCallback id callback =>
      ({}, { client with deliveryStatusCallbacks := client.deliveryStatusCallbacks.insertIfNew id callback })
  | .takeStatusCallback id =>
      let callbacks := client.deliveryStatusCallbacks.insertIfNew id none
      ({ callback := callbacks.getD id none }, { client with deliveryStatusCallbacks := callbacks.erase id })
  | .readErrorCallback => ({ callback := client.errorCallback }, client)
  | .send _ | .callOnCommand _ _ _ | .callDeliveryStatus _ _ _ | .callError _ _ _ => ({}, client)

/-- Any number of calls and handlers may be under way at a time. -/
def system : System (ClientTask Id F) (ClientCall Id F) (ClientReply F) (Client Id F) where
  program := program
  begins _ before _ after := after = before
  answers client call reply after := (reply, after) = client.perform call

abbrev Event (Id F : Type) := Interaction.Event (ClientTask Id F) (ClientCall Id F) (ClientReply F)

/-- The UUID that a call makes. -/
def newId : ClientTask Id F → Option Id
  | .request id _ _ _ => some id
  | .sendWithDeliveryStatus id _ _ _ => some id
  | _ => none

end Client

/-- What one call and its reply lead to in each function. -/
inductive ClientMove : ClientTask Id F → ClientCall Id F → ClientReply F → Option (ClientCall Id F) → Prop where
  | requested {id requestCommand requestData responseCommand reply} :
      ClientMove (.request id requestCommand requestData responseCommand) (.addRequest id) reply
        (some (.send (.request id requestCommand requestData responseCommand)))
  | requestSent {id requestCommand requestData responseCommand reply} :
      ClientMove (.request id requestCommand requestData responseCommand)
        (.send (.request id requestCommand requestData responseCommand)) reply none
  | cancelled {id reply} (canceled : reply.result = true) :
      ClientMove (.cancel id) (.eraseRequest id) reply (some (.send (.cancelRequest id)))
  | notCancelled {id reply} (gone : reply.result = false) : ClientMove (.cancel id) (.eraseRequest id) reply none
  | cancelSent {id reply} : ClientMove (.cancel id) (.send (.cancelRequest id)) reply none
  | subscribed {command callback reply} (inserted : reply.result = true) :
      ClientMove (.subscribe command callback) (.addCallback command callback) reply (some (.send (.subscribe command)))
  | notSubscribed {command callback reply} (present : reply.result = false) :
      ClientMove (.subscribe command callback) (.addCallback command callback) reply none
  | subscribeSent {command callback reply} :
      ClientMove (.subscribe command callback) (.send (.subscribe command)) reply none
  | unsubscribed {command reply} :
      ClientMove (.unsubscribe command) (.eraseCallback command) reply (some (.send (.unsubscribe command)))
  | unsubscribeSent {command reply} : ClientMove (.unsubscribe command) (.send (.unsubscribe command)) reply none
  | sent {command data reply} : ClientMove (.send command data) (.send (.sendCommand command data)) reply none
  | statusAwaited {id command data callback reply} :
      ClientMove (.sendWithDeliveryStatus id command data callback) (.addStatusCallback id callback) reply
        (some (.send (.sendCommandWithDeliveryStatus id command data)))
  | statusSent {id command data callback reply} :
      ClientMove (.sendWithDeliveryStatus id command data callback)
        (.send (.sendCommandWithDeliveryStatus id command data)) reply none
  | callbackFound {command data reply callback} (found : reply.callback = some callback) :
      ClientMove (.message (.notification command data)) (.findCallback command) reply
        (some (.callOnCommand callback command data))
  | callbackMissed {command data reply} (missed : reply.callback = none) :
      ClientMove (.message (.notification command data)) (.findCallback command) reply none
  | notified {command data reply callback} :
      ClientMove (.message (.notification command data)) (.callOnCommand callback command data) reply none
  | fulfilled {id data reply} : ClientMove (.message (.requestResponse id data)) (.fulfil id data) reply none
  | errorFound {command error reply callback} (found : reply.callback = some callback) :
      ClientMove (.message (.sendCommandResult command error)) .readErrorCallback reply
        (some (.callError callback command error))
  | errorMissed {command error reply} (missed : reply.callback = none) :
      ClientMove (.message (.sendCommandResult command error)) .readErrorCallback reply none
  | errorTold {command error reply callback} :
      ClientMove (.message (.sendCommandResult command error)) (.callError callback command error) reply none
  | statusFound {id status reply callback} (found : reply.callback = some callback) :
      ClientMove (.message (.deliveryStatus id status)) (.takeStatusCallback id) reply
        (some (.callDeliveryStatus id callback status))
  | statusMissed {id status reply} (missed : reply.callback = none) :
      ClientMove (.message (.deliveryStatus id status)) (.takeStatusCallback id) reply none
  | statusTold {id status reply callback} :
      ClientMove (.message (.deliveryStatus id status)) (.callDeliveryStatus id callback status) reply none

namespace Client

/-- The call that a function makes first. -/
def first : ClientTask Id F → ClientCall Id F
  | .request id _ _ _ => .addRequest id
  | .cancel id => .eraseRequest id
  | .subscribe command callback => .addCallback command callback
  | .unsubscribe command => .eraseCallback command
  | .send command data => .send (.sendCommand command data)
  | .sendWithDeliveryStatus id _ _ callback => .addStatusCallback id callback
  | .message (.notification command _) => .findCallback command
  | .message (.requestResponse id data) => .fulfil id data
  | .message (.sendCommandResult _ _) => .readErrorCallback
  | .message (.deliveryStatus id _) => .takeStatusCallback id

theorem program_due (task : ClientTask Id F) : (program task).due = some (first task) := by
  cases task with
  | message message => cases message <;> rfl
  | _ => rfl

theorem system_due [LinearOrder Id] (task : ClientTask Id F) :
    ((@system Id F _).program task).due = some (first task) :=
  program_due task

theorem program_flows (task : ClientTask Id F) : (program task).Flows (ClientMove task) := by
  cases task with
  | request id requestCommand requestData responseCommand =>
    exact fun _ => ⟨.requested, fun _ => ⟨.requestSent, trivial⟩⟩
  | cancel id =>
    intro reply
    cases canceled : reply.result with
    | true => simpa [Program.bind, canceled] using ⟨.cancelled canceled, fun _ => ⟨.cancelSent, trivial⟩⟩
    | false => simpa [Program.bind, canceled] using ClientMove.notCancelled canceled
  | subscribe command callback =>
    intro reply
    cases inserted : reply.result with
    | true => simpa [Program.bind, inserted] using ⟨.subscribed inserted, fun _ => ⟨.subscribeSent, trivial⟩⟩
    | false => simpa [Program.bind, inserted] using ClientMove.notSubscribed inserted
  | unsubscribe command => exact fun _ => ⟨.unsubscribed, fun _ => ⟨.unsubscribeSent, trivial⟩⟩
  | send command data => exact fun _ => ⟨.sent, trivial⟩
  | sendWithDeliveryStatus id command data callback => exact fun _ => ⟨.statusAwaited, fun _ => ⟨.statusSent, trivial⟩⟩
  | message message =>
    cases message with
    | notification command data =>
      intro reply
      cases found : reply.callback with
      | some callback => simpa [Program.bind, found] using ⟨.callbackFound found, fun _ => ⟨.notified, trivial⟩⟩
      | none => simpa [Program.bind, found] using ClientMove.callbackMissed found
    | requestResponse id data =>
      intro reply
      cases satisfied : reply.satisfied with
      | true => simpa [Program.bind, satisfied] using ⟨.fulfilled, trivial⟩
      | false => simpa [Program.bind, satisfied] using ClientMove.fulfilled
    | sendCommandResult command error =>
      intro reply
      cases found : reply.callback with
      | some callback => simpa [Program.bind, found] using ⟨.errorFound found, fun _ => ⟨.errorTold, trivial⟩⟩
      | none => simpa [Program.bind, found] using ClientMove.errorMissed found
    | deliveryStatus id status =>
      intro reply
      cases found : reply.callback with
      | some callback => simpa [Program.bind, found] using ⟨.statusFound found, fun _ => ⟨.statusTold, trivial⟩⟩
      | none => simpa [Program.bind, found] using ClientMove.statusMissed found

end Client
end CpuCom.Messaging
