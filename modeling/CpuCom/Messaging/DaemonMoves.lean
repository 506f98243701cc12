import CpuCom.Interaction.Accounts
import CpuCom.Messaging.Daemon

/-! What one call of a handler of the daemon, and its reply, lead to. -/

namespace CpuCom.Messaging
open Interaction
open Uart (CpuCommand)

variable {S Id : Type}

/-- The handler notifies on, or looks for a request. -/
inductive Notifying (command : CpuCommand) (data : Data) : Option (DaemonCall S Id) → Prop where
  | next {session} : Notifying command data (some (.send session (.notification command data)))
  | done : Notifying command data (some (.takeRequest command))

inductive DaemonMove : DaemonTask S Id → DaemonCall S Id → DaemonReply S Id → Option (DaemonCall S Id) → Prop where
  | copied {command data reply due} (notifying : Notifying command data due) :
      DaemonMove (.receiveCommand command data) (.copySubscribers command) reply due
  | notified {command data session reply due} (notifying : Notifying command data due) :
      DaemonMove (.receiveCommand command data) (.send session (.notification command data)) reply due
  | found {command data reply request} (found : reply.request = some request) :
      DaemonMove (.receiveCommand command data) (.takeRequest command) reply
        (some (.send request.session (.requestResponse request.id data)))
  | missed {command data reply} (missed : reply.request = none) :
      DaemonMove (.receiveCommand command data) (.takeRequest command) reply none
  | answered {command data session id reply} :
      DaemonMove (.receiveCommand command data) (.send session (.requestResponse id data)) reply none
  | subscriberDropped {session reply} :
      DaemonMove (.clientDisconnected session) (.dropSubscriber session) reply (some (.dropRequests session))
  | requestsDropped {session reply} : DaemonMove (.clientDisconnected session) (.dropRequests session) reply none
  | busy {session command data reply} (refused : reply.written = false) :
      DaemonMove (.message session (.sendCommand command data)) (.write command data) reply
        (some (.send session (.sendCommandResult command .busy)))
  | written {session command data reply} (written : reply.written = true) :
      DaemonMove (.message session (.sendCommand command data)) (.write command data) reply none
  | busySent {session command data reply} :
      DaemonMove (.message session (.sendCommand command data))
        (.send session (.sendCommandResult command .busy)) reply none
  | subscribed {session command reply} :
      DaemonMove (.message session (.subscribe command)) (.addSubscriber session command) reply none
  | unsubscribed {session command reply} :
      DaemonMove (.message session (.unsubscribe command)) (.removeSubscriber session command) reply none
  | requestAdded {session id requestCommand requestData responseCommand reply} :
      DaemonMove (.message session (.request id requestCommand requestData responseCommand))
        (.addRequest ⟨id, responseCommand, session⟩) reply (some (.write requestCommand requestData))
  | requestWritten {session id requestCommand requestData responseCommand reply} :
      DaemonMove (.message session (.request id requestCommand requestData responseCommand))
        (.write requestCommand requestData) reply none
  | cancelled {session id reply} : DaemonMove (.message session (.cancelRequest id)) (.cancelRequest id) reply none
  | statusWritten {session id command data reply} :
      DaemonMove (.message session (.sendCommandWithDeliveryStatus id command data)) (.write command data) reply
        (some (.send session (.deliveryStatus id reply.written)))
  | statusSent {session id command data status reply} :
      DaemonMove (.message session (.sendCommandWithDeliveryStatus id command data))
        (.send session (.deliveryStatus id status)) reply none

namespace Daemon

/-- The call that a handler makes first. -/
def first : DaemonTask S Id → DaemonCall S Id
  | .receiveCommand command _ => .copySubscribers command
  | .clientDisconnected session => .dropSubscriber session
  | .message _ (.sendCommand command data) => .write command data
  | .message session (.subscribe command) => .addSubscriber session command
  | .message session (.unsubscribe command) => .removeSubscriber session command
  | .message session (.request id _ _ responseCommand) => .addRequest ⟨id, responseCommand, session⟩
  | .message _ (.cancelRequest id) => .cancelRequest id
  | .message _ (.sendCommandWithDeliveryStatus _ command data) => .write command data

theorem handler_due (task : DaemonTask S Id) : (handler task).due = some (first task) := by
  cases task with
  | message session message => cases message <;> rfl
  | _ => rfl

theorem system_due [LinearOrder S] [DecidableEq Id] (task : DaemonTask S Id) :
    ((@system S Id _ _).program task).due = some (first task) := handler_due task

private theorem answerRequest_flows {command : CpuCommand} (data : Data) (reply : DaemonReply S Id) :
    DaemonMove (.receiveCommand command data) (.takeRequest command) reply (answerRequest data reply.request).due ∧
      (answerRequest data reply.request).Flows (DaemonMove (.receiveCommand command data)) := by
  cases found : reply.request with
  | some request => exact ⟨.found found, fun _ => ⟨.answered, trivial⟩⟩
  | none => exact ⟨.missed found, trivial⟩

private theorem sendNotifications_flows {command : CpuCommand} {data : Data} (program : DaemonProgram S Id Unit)
    (due : program.due = some (.takeRequest command))
    (flows : program.Flows (DaemonMove (.receiveCommand command data))) (subscribers : List S) :
    Notifying command data (sendNotifications command data subscribers >>= fun _ => program).due ∧
      (sendNotifications command data subscribers >>= fun _ => program).Flows
      (DaemonMove (.receiveCommand command data)) := by
  induction subscribers with
  | nil =>
    refine ⟨?_, flows⟩
    rw [show (sendNotifications command data [] >>= fun _ => program) = program from rfl, due]
    exact .done
  | cons session subscribers ih => exact ⟨.next, fun _ => ⟨.notified ih.1, ih.2⟩⟩

private theorem onReceiveCommand_flows (command : CpuCommand) (data : Data) :
    (onReceiveCommand command data : DaemonProgram S Id Unit).Flows (DaemonMove (.receiveCommand command data)) := by
  rw [onReceiveCommand_eq]
  intro copied
  obtain ⟨notifying, flows⟩ := sendNotifications_flows
    (Program.request (.takeRequest command) >>= fun reply => answerRequest data reply.request) rfl
    (answerRequest_flows data) copied.subscribers
  exact ⟨.copied notifying, flows⟩

theorem handler_flows (task : DaemonTask S Id) : (handler task).Flows (DaemonMove task) := by
  cases task with
  | receiveCommand command data => exact onReceiveCommand_flows command data
  | clientDisconnected session => exact fun _ => ⟨.subscriberDropped, fun _ => ⟨.requestsDropped, trivial⟩⟩
  | message session message =>
    cases message with
    | sendCommand command data =>
      intro reply
      cases written : reply.written with
      | false => simpa [Program.bind, written] using ⟨.busy written, fun _ => ⟨.busySent, trivial⟩⟩
      | true => simpa [Program.bind, written] using DaemonMove.written written
    | subscribe command => exact fun _ => ⟨.subscribed, trivial⟩
    | unsubscribe command => exact fun _ => ⟨.unsubscribed, trivial⟩
    | request id requestCommand requestData responseCommand =>
      exact fun _ => ⟨.requestAdded, fun _ => ⟨.requestWritten, trivial⟩⟩
    | cancelRequest id => exact fun _ => ⟨.cancelled, trivial⟩
    | sendCommandWithDeliveryStatus id command data =>
      exact fun _ => ⟨.statusWritten, fun _ => ⟨.statusSent, trivial⟩⟩

end Daemon
end CpuCom.Messaging
