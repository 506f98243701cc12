import CpuCom.Messaging.Daemon

/-! What one handler of the daemon does: how far it has come is told by the calls
that it has made. Only the handler of a received command notifies and responds. -/

namespace CpuCom.Messaging.Daemon
open Interaction Program
open Uart (CpuCommand)

variable {S Id : Type}

abbrev Calls (S Id : Type) := List (DaemonCall S Id × DaemonReply S Id)

def copies (calls : Calls S Id) : List (CpuCommand × List S) :=
  calls.filterMap fun
    | (.copySubscribers command, reply) => some (command, reply.subscribers)
    | _ => none

/-- The requests that a handler has looked for, and those that it has found. -/
def lookups (calls : Calls S Id) : List (CpuCommand × Option (PendingRequest S Id)) :=
  calls.filterMap fun
    | (.takeRequest command, reply) => some (command, reply.request)
    | _ => none

def notifications (calls : Calls S Id) : List (S × CpuCommand × Data) :=
  calls.filterMap fun
    | (.send session (.notification command data), _) => some (session, command, data)
    | _ => none

def responses (calls : Calls S Id) : List (S × Id × Data) :=
  calls.filterMap fun
    | (.send session (.requestResponse id data), _) => some (session, id, data)
    | _ => none

def notified (command : CpuCommand) (data : Data) (sent : List (S × DaemonReply S Id)) : Calls S Id :=
  sent.map fun (session, reply) => (.send session (.notification command data), reply)

section
variable {command : CpuCommand} {data : Data} {sent : List (S × DaemonReply S Id)}

@[simp] theorem copies_notified : copies (notified command data sent) = [] := by
  simp [copies, notified, List.filterMap_map]

@[simp] theorem lookups_notified : lookups (notified command data sent) = [] := by
  simp [lookups, notified, List.filterMap_map]

@[simp] theorem responses_notified : responses (notified command data sent) = [] := by
  simp [responses, notified, List.filterMap_map]

@[simp] theorem notifications_notified :
    notifications (notified command data sent) = sent.map fun (session, _) => (session, command, data) := by
  simp [notifications, notified, List.filterMap_map]

end

/-- How far the handler of a received command has come. -/
inductive Receiving (command : CpuCommand) (data : Data) : Calls S Id → DaemonProgram S Id Unit → Prop where
  | begun {rest} (unfinished : rest ≠ .pure ()) : Receiving command data [] rest
  | notifying {copied sent rest} (part : sent.map Prod.fst <+: copied.subscribers) (unfinished : rest ≠ .pure ()) :
      Receiving command data ((.copySubscribers command, copied) :: notified command data sent) rest
  | looked {copied sent found request rest} (all : sent.map Prod.fst = copied.subscribers)
      (taken : found.request = some request) (unfinished : rest ≠ .pure ()) :
      Receiving command data
        ((.copySubscribers command, copied) :: (notified command data sent ++ [(.takeRequest command, found)])) rest
  | vain {copied sent found} (all : sent.map Prod.fst = copied.subscribers) (missed : found.request = none) :
      Receiving command data
        ((.copySubscribers command, copied) :: (notified command data sent ++ [(.takeRequest command, found)]))
          (.pure ())
  | answered {copied sent found request reply} (all : sent.map Prod.fst = copied.subscribers)
      (taken : found.request = some request) :
      Receiving command data ((.copySubscribers command, copied) :: (notified command data sent ++
        [(.takeRequest command, found), (.send request.session (.requestResponse request.id data), reply)])) (.pure ())

theorem sendNotifications_leads {command : CpuCommand} {data : Data} {subscribers : List S} {made : Calls S Id}
    {rest : DaemonProgram S Id Unit} (leads : (sendNotifications command data subscribers).Leads made rest) :
    ∃ sent, made = notified command data sent ∧ sent.map Prod.fst <+: subscribers := by
  induction subscribers generalizing made with
  | nil =>
    cases made with
    | nil => exact ⟨[], rfl, List.nil_prefix⟩
    | cons call calls => exact leads.elim
  | cons session subscribers ih =>
    cases made with
    | nil => exact ⟨[], rfl, List.nil_prefix⟩
    | cons call calls =>
      obtain ⟨asked, reply⟩ := call
      obtain ⟨rfl, leads⟩ := leads
      obtain ⟨sent, rfl, part⟩ := ih leads
      exact ⟨(session, reply) :: sent, rfl, (List.prefix_cons_inj session).mpr part⟩

theorem sendNotifications_returns {command : CpuCommand} {data : Data} {subscribers : List S} {made : Calls S Id}
    (returned : (sendNotifications command data subscribers).Returns made ()) :
    ∃ sent, made = notified command data sent ∧ sent.map Prod.fst = subscribers := by
  induction subscribers generalizing made with
  | nil => exact ⟨[], returned.1, rfl⟩
  | cons session subscribers ih =>
    obtain ⟨reply, calls, rfl, returned⟩ := returned
    obtain ⟨sent, rfl, all⟩ := ih returned
    exact ⟨(session, reply) :: sent, rfl, congrArg (session :: ·) all⟩

theorem onReceiveCommand_leads {command : CpuCommand} {data : Data} {made : Calls S Id}
    {rest : DaemonProgram S Id Unit} (leads : (onReceiveCommand command data).Leads made rest) :
    Receiving command data made rest := by
  cases made with
  | nil =>
    refine .begun ?_
    rw [← leads_nil.mp leads]
    exact nofun
  | cons call calls =>
    obtain ⟨asked, copied⟩ := call
    rw [onReceiveCommand_eq] at leads
    obtain ⟨rfl, leads⟩ := leads
    change (sendNotifications command data copied.subscribers >>= fun _ => _).Leads calls rest at leads
    rcases leads_bind leads with ⟨left, notifying, rfl⟩ | ⟨value, first, last, rfl, returned, looking⟩
    · obtain ⟨sent, rfl, part⟩ := sendNotifications_leads notifying
      refine .notifying part ?_
      cases left <;> exact nofun
    · obtain ⟨sent, rfl, all⟩ := sendNotifications_returns returned
      cases last with
      | nil =>
        rw [List.append_nil]
        refine .notifying (all ▸ List.prefix_rfl) ?_
        rw [← leads_nil.mp looking]
        exact nofun
      | cons call calls =>
        obtain ⟨asked, found⟩ := call
        obtain ⟨rfl, answering⟩ := looking
        change (answerRequest data found.request).Leads calls rest at answering
        cases taken : found.request with
        | none =>
          rw [taken] at answering
          cases calls with
          | nil =>
            obtain rfl := leads_nil.mp answering
            exact .vain all taken
          | cons call calls => exact answering.elim
        | some request =>
          rw [taken] at answering
          cases calls with
          | nil =>
            refine .looked all taken ?_
            rw [← leads_nil.mp answering]
            exact nofun
          | cons call calls =>
            obtain ⟨asked, reply⟩ := call
            obtain ⟨rfl, answering⟩ := answering
            cases calls with
            | nil =>
              obtain rfl := leads_nil.mp answering
              exact .answered all taken
            | cons call calls => exact answering.elim

section
variable {command : CpuCommand} {data : Data} {made : Calls S Id} {rest : DaemonProgram S Id Unit}

/-- The response that a handler of a received command owes for a lookup. -/
def owed (data : Data) : CpuCommand × Option (PendingRequest S Id) → Option (S × Id × Data)
  | (_, found) => found.map fun request => (request.session, request.id, data)

theorem Receiving.one_lookup (receiving : Receiving command data made rest) :
    (lookups made = [] ∨ ∃ found, lookups made = [(command, found)]) ∧ (rest = .pure () → lookups made ≠ []) := by
  have split (first second : Calls S Id) : lookups (first ++ second) = lookups first ++ lookups second :=
    List.filterMap_append
  have copied (reply : DaemonReply S Id) (calls : Calls S Id) :
      lookups ((.copySubscribers command, reply) :: calls) = lookups calls := rfl
  cases receiving with
  | begun unfinished => exact ⟨.inl rfl, fun finished => absurd finished unfinished⟩
  | notifying part unfinished =>
    exact ⟨.inl (by rw [copied, lookups_notified]), fun finished => absurd finished unfinished⟩
  | looked all taken unfinished =>
    exact ⟨.inr ⟨_, by rw [copied, split, lookups_notified]; rfl⟩, fun finished => absurd finished unfinished⟩
  | vain all missed =>
    rw [copied, split, lookups_notified]
    exact ⟨.inr ⟨_, rfl⟩, fun _ => List.cons_ne_nil _ _⟩
  | answered all taken =>
    rw [copied, split, lookups_notified]
    exact ⟨.inr ⟨_, rfl⟩, fun _ => List.cons_ne_nil _ _⟩

theorem Receiving.responds (receiving : Receiving command data made rest) :
    responses made <+: (lookups made).filterMap (owed data) ∧
      (rest = .pure () → responses made = (lookups made).filterMap (owed data)) := by
  have asked (first second : Calls S Id) : lookups (first ++ second) = lookups first ++ lookups second :=
    List.filterMap_append
  have sent (first second : Calls S Id) : responses (first ++ second) = responses first ++ responses second :=
    List.filterMap_append
  have copied (reply : DaemonReply S Id) (calls : Calls S Id) :
      lookups ((.copySubscribers command, reply) :: calls) = lookups calls ∧
        responses ((.copySubscribers command, reply) :: calls) = responses calls := ⟨rfl, rfl⟩
  cases receiving with
  | begun unfinished => exact ⟨List.prefix_rfl, fun finished => absurd finished unfinished⟩
  | notifying part unfinished =>
    rw [(copied _ _).1, (copied _ _).2, lookups_notified, responses_notified]
    exact ⟨List.prefix_rfl, fun finished => absurd finished unfinished⟩
  | looked all taken unfinished =>
    rw [(copied _ _).2, sent, responses_notified]
    exact ⟨List.nil_prefix, fun finished => absurd finished unfinished⟩
  | @vain copied sent found all missed =>
    have none : owed data (command, found.request) = none := by rw [missed]; rfl
    simp [responses, lookups, notified, none, List.filterMap_map]
  | @answered copied sent found request reply all taken =>
    have some : owed data (command, found.request) = some (request.session, request.id, data) := by rw [taken]; rfl
    simp [responses, lookups, notified, some, List.filterMap_map]

theorem Receiving.notifies (receiving : Receiving command data made rest) :
    (copies made = [] ∧ notifications made = [] ∧ rest ≠ .pure ()) ∨
      ∃ subscribers, copies made = [(command, subscribers)] ∧
        notifications made <+: subscribers.map (·, command, data) ∧
        (rest = .pure () → notifications made = subscribers.map (·, command, data)) := by
  have whole (sent : List (S × DaemonReply S Id)) : sent.map (fun (session, _) => (session, command, data)) =
      (sent.map Prod.fst).map (·, command, data) := by simp
  cases receiving with
  | begun unfinished => exact .inl ⟨rfl, rfl, unfinished⟩
  | @notifying copied sent _ part unfinished =>
    right
    refine ⟨copied.subscribers, congrArg (List.cons _) copies_notified, ?_, fun finished => absurd finished unfinished⟩
    have sends : notifications ((.copySubscribers command, copied) :: notified command data sent) =
        sent.map fun (session, _) => (session, command, data) := notifications_notified
    rw [sends, whole]
    exact part.map _
  | @looked copied sent found request _ all taken unfinished =>
    right
    refine ⟨copied.subscribers, by simp [copies, notified, List.filterMap_map], ?_,
      fun finished => absurd finished unfinished⟩
    rw [← all, ← whole]
    simp [notifications, notified, List.filterMap_map]
  | @vain copied sent found all missed =>
    right
    refine ⟨copied.subscribers, by simp [copies, notified, List.filterMap_map], ?_⟩
    rw [← all, ← whole]
    simp [notifications, notified, List.filterMap_map]
  | @answered copied sent found request reply all taken =>
    right
    refine ⟨copied.subscribers, by simp [copies, notified, List.filterMap_map], ?_⟩
    rw [← all, ← whole]
    simp [notifications, notified, List.filterMap_map]

end

/-- What only the handler of a received command calls. -/
def Plain : DaemonCall S Id → Prop
  | .copySubscribers _ | .takeRequest _ | .send _ (.notification _ _) | .send _ (.requestResponse _ _) => False
  | _ => True

theorem handler_plain {task : DaemonTask S Id} (other : ∀ command data, task ≠ .receiveCommand command data) :
    (handler task).Only Plain := by
  cases task with
  | receiveCommand command data => exact absurd rfl (other command data)
  | clientDisconnected session => exact ⟨trivial, fun _ => ⟨trivial, fun _ => trivial⟩⟩
  | message session message =>
    cases message with
    | sendCommand command data =>
      refine ⟨trivial, fun reply => ?_⟩
      cases written : reply.written with
      | false => simp [Program.request, Program.bind, written, Plain]
      | true => simp [Program.bind, written]
    | subscribe command => exact ⟨trivial, fun _ => trivial⟩
    | unsubscribe command => exact ⟨trivial, fun _ => trivial⟩
    | request id requestCommand requestData responseCommand => exact ⟨trivial, fun _ => ⟨trivial, fun _ => trivial⟩⟩
    | cancelRequest id => exact ⟨trivial, fun _ => trivial⟩
    | sendCommandWithDeliveryStatus id command data => exact ⟨trivial, fun _ => ⟨trivial, fun _ => trivial⟩⟩

theorem plain_calls {made : Calls S Id} (plain : ∀ call ∈ made, Plain call.1) :
    copies made = [] ∧ lookups made = [] ∧ notifications made = [] ∧ responses made = [] := by
  induction made with
  | nil => exact ⟨rfl, rfl, rfl, rfl⟩
  | cons call calls ih =>
    obtain ⟨asked, reply⟩ := call
    have first : Plain asked := plain _ List.mem_cons_self
    have rest := ih fun call member => plain call (List.mem_cons_of_mem _ member)
    cases asked with
    | copySubscribers command => exact first.elim
    | takeRequest command => exact first.elim
    | send session message => cases message <;> first | exact first.elim | exact rest
    | _ => exact rest

theorem onReceiveCommand_only {allowed : DaemonCall S Id → Prop} {command : CpuCommand} {data : Data}
    (copies : allowed (.copySubscribers command)) (takes : allowed (.takeRequest command))
    (sends : ∀ session message, allowed (.send session message)) : (onReceiveCommand command data).Only allowed := by
  have notifies (subscribers : List S) : (sendNotifications command data subscribers).Only allowed := by
    induction subscribers with
    | nil => trivial
    | cons session subscribers ih => exact ⟨sends _ _, fun _ => ih⟩
  refine ⟨copies, fun copied => (notifies copied.subscribers).bind fun _ => ⟨takes, fun found => ?_⟩⟩
  cases taken : found.request with
  | none => simp [Program.bind, taken]
  | some request => simp [Program.request, Program.bind, taken, sends]

theorem handler_registers {task : DaemonTask S Id}
    (other : ∀ session id requestCommand requestData responseCommand,
      task ≠ .message session (.request id requestCommand requestData responseCommand)) :
    (handler task).Only fun call => ∀ request, call ≠ .addRequest request := by
  cases task with
  | receiveCommand command data => exact onReceiveCommand_only nofun nofun nofun
  | clientDisconnected session => exact ⟨nofun, fun _ => ⟨nofun, fun _ => trivial⟩⟩
  | message session message =>
    cases message with
    | sendCommand command data =>
      refine ⟨nofun, fun reply => ?_⟩
      cases written : reply.written with
      | false => simp [Program.request, Program.bind, written]
      | true => simp [Program.bind, written]
    | subscribe command => exact ⟨nofun, fun _ => trivial⟩
    | unsubscribe command => exact ⟨nofun, fun _ => trivial⟩
    | request id requestCommand requestData responseCommand => exact absurd rfl (other _ _ _ _ _)
    | cancelRequest id => exact ⟨nofun, fun _ => trivial⟩
    | sendCommandWithDeliveryStatus id command data => exact ⟨nofun, fun _ => ⟨nofun, fun _ => trivial⟩⟩

theorem registers_first {task : DaemonTask S Id} {first : DaemonCall S Id × DaemonReply S Id} {made : Calls S Id}
    {rest : DaemonProgram S Id Unit} (leads : (handler task).Leads (first :: made) rest) :
    ∀ call ∈ made, ∀ request, call.1 ≠ .addRequest request := by
  by_cases requests : ∃ session id requestCommand requestData responseCommand,
      task = .message session (.request id requestCommand requestData responseCommand)
  · obtain ⟨session, id, requestCommand, requestData, responseCommand, rfl⟩ := requests
    have only : (Program.call (.write requestCommand requestData) fun _ => .pure () : DaemonProgram S Id Unit).Only
        fun call => ∀ request, call ≠ .addRequest request := ⟨nofun, fun _ => trivial⟩
    exact only.leads leads.2
  · have only := handler_registers fun session id requestCommand requestData responseCommand same =>
      requests ⟨session, id, requestCommand, requestData, responseCommand, same⟩
    intro call member
    exact only.leads leads call (List.mem_cons_of_mem _ member)

theorem request_written {task : DaemonTask S Id} {made : Calls S Id} {request : PendingRequest S Id}
    {reply : DaemonReply S Id} (leads : (handler task).Leads made (.pure ()))
    (registered : (.addRequest request, reply) ∈ made) :
    ∃ command data result, (.write command data, result) ∈ made := by
  by_cases requests : ∃ session id requestCommand requestData responseCommand,
      task = .message session (.request id requestCommand requestData responseCommand)
  · obtain ⟨session, id, requestCommand, requestData, responseCommand, rfl⟩ := requests
    obtain ⟨added, rest, rfl, result, last, rfl, done⟩ := Program.returns_of_leads leads
    exact ⟨requestCommand, requestData, result, by simp⟩
  · have only := handler_registers fun session id requestCommand requestData responseCommand same =>
      requests ⟨session, id, requestCommand, requestData, responseCommand, same⟩
    exact absurd rfl (only.leads leads _ registered request)

/-- The calls that put a request into `m_requests`, or take it away unanswered. -/
def requestCall : DaemonCall S Id → Option (DaemonCall S Id)
  | .addRequest request => some (.addRequest request)
  | .cancelRequest id => some (.cancelRequest id)
  | .dropRequests session => some (.dropRequests session)
  | _ => none

def requestCalls : DaemonTask S Id → List (DaemonCall S Id)
  | .message session (.request id _ _ responseCommand) => [.addRequest ⟨id, responseCommand, session⟩]
  | .message _ (.cancelRequest id) => [.cancelRequest id]
  | .clientDisconnected session => [.dropRequests session]
  | _ => []

def subscriberCall : DaemonCall S Id → Option (DaemonCall S Id)
  | .addSubscriber session command => some (.addSubscriber session command)
  | .removeSubscriber session command => some (.removeSubscriber session command)
  | .dropSubscriber session => some (.dropSubscriber session)
  | _ => none

def subscriberCalls : DaemonTask S Id → List (DaemonCall S Id)
  | .message session (.subscribe command) => [.addSubscriber session command]
  | .message session (.unsubscribe command) => [.removeSubscriber session command]
  | .clientDisconnected session => [.dropSubscriber session]
  | _ => []

theorem onReceiveCommand_makes {view : DaemonCall S Id → Option (DaemonCall S Id)} {command : CpuCommand} {data : Data}
    (copies : view (.copySubscribers command) = none) (takes : view (.takeRequest command) = none)
    (sends : ∀ session message, view (.send session message) = none) : (onReceiveCommand command data).Makes view [] := by
  have notifies (subscribers : List S) : (sendNotifications command data subscribers).Makes view [] := by
    induction subscribers with
    | nil => rfl
    | cons session subscribers ih => exact (makes_unseen (sends _ _)).mpr fun _ => ih
  have answers (found : Option (PendingRequest S Id)) : (answerRequest data found).Makes view [] := by
    cases found with
    | none => rfl
    | some request => exact (makes_unseen (sends _ _)).mpr fun _ => rfl
  rw [onReceiveCommand_eq]
  refine (makes_unseen copies).mpr fun copied => (notifies copied.subscribers).bind fun _ => ?_
  exact (makes_unseen takes).mpr fun found => answers found.request

theorem onSendCommand_makes {view : DaemonCall S Id → Option (DaemonCall S Id)} {session : S} {command : CpuCommand}
    {data : Data} (writes : view (.write command data) = none) (sends : ∀ message, view (.send session message) = none) :
    (onSendCommand session command data).Makes view [] := by
  refine (makes_unseen writes).mpr fun result => ?_
  change (if result.written = false then _ else _ : DaemonProgram S Id Unit).Makes view []
  split
  · exact (makes_unseen (sends _)).mpr fun _ => rfl
  · rfl

theorem handler_requestCalls (task : DaemonTask S Id) : (handler task).Makes requestCall (requestCalls task) := by
  cases task with
  | receiveCommand command data => exact onReceiveCommand_makes rfl rfl fun _ _ => rfl
  | clientDisconnected session => exact fun _ => ⟨[], rfl, fun _ => rfl⟩
  | message session message =>
    cases message with
    | sendCommand command data => exact onSendCommand_makes rfl fun _ => rfl
    | subscribe command => exact fun _ => rfl
    | unsubscribe command => exact fun _ => rfl
    | request id requestCommand requestData responseCommand => exact ⟨[], rfl, fun _ _ => rfl⟩
    | cancelRequest id => exact ⟨[], rfl, fun _ => rfl⟩
    | sendCommandWithDeliveryStatus id command data => exact fun _ _ => rfl

theorem handler_subscriberCalls (task : DaemonTask S Id) :
    (handler task).Makes subscriberCall (subscriberCalls task) := by
  cases task with
  | receiveCommand command data => exact onReceiveCommand_makes rfl rfl fun _ _ => rfl
  | clientDisconnected session => exact ⟨[], rfl, fun _ _ => rfl⟩
  | message session message =>
    cases message with
    | sendCommand command data => exact onSendCommand_makes rfl fun _ => rfl
    | subscribe command => exact ⟨[], rfl, fun _ => rfl⟩
    | unsubscribe command => exact ⟨[], rfl, fun _ => rfl⟩
    | request id requestCommand requestData responseCommand => exact fun _ _ => rfl
    | cancelRequest id => exact fun _ => rfl
    | sendCommandWithDeliveryStatus id command data => exact fun _ _ => rfl

end CpuCom.Messaging.Daemon
