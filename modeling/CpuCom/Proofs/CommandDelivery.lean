import CpuCom.Messaging.VcpuThread
import CpuCom.Proofs.CommandStream
import CpuCom.Proofs.Notifications

/-! From the line of the V-CPU to the clients: what the V-CPU writes comes to each
session that has subscribed to it, in the order in which it was written. -/

namespace CpuCom.Messaging.Daemon
open Interaction System Program
open Uart (CpuCommand)
open Uart.Protocol (Receives)
open Uart.Cpu (Streams)

variable {S Id : Type} [LinearOrder S]

def toSession (session : S) : DaemonCall S Id × DaemonReply S Id → Option (CpuCommand × Data)
  | (.send other (.notification command data), _) => if other = session then some (command, data) else none
  | _ => none

def notifiedTo (session : S) (trace : List (Event S Id)) : List (CpuCommand × Data) :=
  (made trace).filterMap (toSession session)

variable [DecidableEq Id] {results unread : List Read} {trace : List (Event S Id)}
  {pool : (@system S Id _ _).Pool} {session : S} {command : CpuCommand}

def Withdraws (session : S) (command : CpuCommand) : DaemonTask S Id → Prop
  | .message other (.unsubscribe unwanted) => other = session ∧ unwanted = command
  | .clientDisconnected other => other = session
  | _ => False

/-- Before the daemon first copies its subscribers it has handled a Subscribe of the
session, which has come when nothing that withdraws it was left to handle, and nothing
that withdraws it comes afterwards. -/
def Steady (trace : List (Event S Id)) (pool : (@system S Id _ _).Pool) (session : S) (command : CpuCommand) : Prop :=
  ∃ early middle late before after, trace = early ++ middle ++ late ∧ Runs early before ∧
    system.Reaches before middle after ∧ system.Reaches after late pool ∧ copies (made (early ++ middle)) = [] ∧
    (∀ activity ∈ before.tasks, Withdraws session command activity.task → activity.Finished) ∧
    (∃ index activity, before.tasks.length ≤ index ∧ after.tasks[index]? = some activity ∧
      activity.task = .message session (.subscribe command) ∧ activity.Finished) ∧
    ∀ task, .begins task ∈ middle ++ late → ¬ Withdraws session command task

theorem Serves.kept (served : Serves results trace unread pool) :
    (@system S Id _ _).Keeps (InTurn DaemonTask.OfVcpu) ⟨[], initial⟩ trace pool := by
  induction served with
  | start => exact .refl
  | received _ free step ih => exact ih.step step fun _ => free
  | missed _ _ ih => exact ih
  | @beside trace unread pool event after _ step other ih =>
    refine ih.step step ?_
    cases event with
    | begins task => exact fun own => absurd (other task rfl) own
    | calls index request reply => trivial

theorem Serves.begun (served : Serves results trace unread pool) :
    results.filterMap handled = (begun trace).filterMap DaemonTask.received ++ unread.filterMap handled := by
  induction served with
  | start => rfl
  | received _ free step ih =>
    rw [ih, System.begun, System.begun, List.filterMap_append, List.filterMap_append, List.append_assoc]
    rfl
  | missed _ _ ih => exact ih
  | @beside trace unread pool event after _ step other ih =>
    rw [ih, System.begun, System.begun, List.filterMap_append, List.filterMap_append]
    cases event with
    | begins task => simp [other task rfl]
    | calls index request reply => simp

theorem Serves.tasks (served : Serves results trace unread pool) :
    results.filterMap handled = pool.tasks.filterMap (·.task.received) ++ unread.filterMap handled := by
  rw [served.begun, ← served.kept.reaches.begun, List.filterMap_map]
  rfl

omit [DecidableEq Id] in
private theorem toSession_notifications (calls : Calls S Id) : calls.filterMap (toSession session) =
    (notifications calls).filterMap fun sent => if sent.1 = session then some sent.2 else none := by
  rw [notifications, List.filterMap_filterMap]
  congr 1
  funext made
  obtain ⟨asked, reply⟩ := made
  cases asked with
  | send other message => cases message <;> rfl
  | _ => rfl

omit [DecidableEq Id] in
/-- Among these subscribers the session is notified as often as it occurs. -/
private theorem toSession_subscribers (session : S) (command : CpuCommand) (data : Data) (subscribers : List S) :
    ((subscribers.map (·, command, data)).filterMap fun sent => if sent.1 = session then some sent.2 else none) =
      List.replicate (subscribers.count session) (command, data) := by
  induction subscribers with
  | nil => rfl
  | cons subscriber subscribers ih =>
    rw [List.map_cons, List.filterMap_cons, ih, List.count_cons]
    by_cases same : subscriber = session
    · simp [same, List.replicate_succ]
    · simp [same]

private theorem copied_at (served : Serves results trace unread pool) {activity : Activity (@handler S Id)}
    {subscribers : List S} (member : activity ∈ pool.tasks) (copied : copies activity.made = [(command, subscribers)]) :
    ∃ before after index reply, trace = before ++ .calls index (.copySubscribers command) reply :: after ∧
      reply.subscribers = subscribers := by
  obtain ⟨index, found⟩ := List.mem_iff_getElem?.mp member
  have made := made_of_found served.kept.reaches found
  have one : (command, subscribers) ∈ copies activity.made := copied ▸ List.mem_singleton_self _
  obtain ⟨⟨asked, reply⟩, called, same⟩ := List.mem_filterMap.mp one
  cases asked with
  | copySubscribers other =>
    obtain ⟨rfl, rfl⟩ := Prod.mk.inj (Option.some.inj same)
    obtain ⟨before, after, split⟩ := List.mem_iff_append.mp (mem_own.mp (made ▸ called))
    exact ⟨before, after, index, reply, split, rfl⟩
  | _ => exact nomatch same

/-- A task of the thread notifies those that subscribe as it copies them, each once. -/
private theorem task_notifies (served : Serves results trace unread pool) (session : S)
    {activity : Activity (@handler S Id)} {data : Data} (member : activity ∈ pool.tasks) (task : activity.task = .receiveCommand command data) :
    (activity.made.filterMap (toSession session) = [] ∧ ¬ activity.Finished) ∨
      ∃ before after index reply, trace = before ++ .calls index (.copySubscribers command) reply :: after ∧
        (activity.made.filterMap (toSession session) = [] ∨ Subscribed before session command ∧
          activity.made.filterMap (toSession session) = [(command, data)]) ∧
        (activity.Finished → Subscribed before session command →
          activity.made.filterMap (toSession session) = [(command, data)]) := by
  have leads := activity.leads
  rw [task] at leads
  rw [toSession_notifications]
  rcases (onReceiveCommand_leads leads).notifies with ⟨-, silent, unfinished⟩ | ⟨subscribers, copied, part, whole⟩
  · rw [silent]
    exact .inl ⟨rfl, unfinished⟩
  · obtain ⟨before, after, index, reply, rfl, rfl⟩ := copied_at served member copied
    obtain ⟨distinct, those⟩ := copied_iff served.kept.reaches
    have counted := List.nodup_iff_count_le_one.mp distinct session
    refine .inr ⟨before, after, index, reply, rfl, ?_, fun finished subscribed => ?_⟩
    · obtain ⟨number, few, same⟩ := List.sublist_replicate_iff.mp
        (toSession_subscribers session command data reply.subscribers ▸ part.sublist.filterMap _)
      cases number with
      | zero => exact .inl same
      | succ number =>
        obtain rfl : number = 0 := by omega
        exact .inr ⟨(those session).mp (List.one_le_count_iff.mp (Nat.le_trans (Nat.le_add_left ..) few)), same⟩
    · rw [whole finished, toSession_subscribers]
      have there := List.one_le_count_iff.mpr ((those session).mpr subscribed)
      rw [Nat.le_antisymm counted there]
      rfl

omit [LinearOrder S] [DecidableEq Id] in
private theorem foreign_task {task : DaemonTask S Id} (foreign : ¬ task.OfVcpu) (command : CpuCommand) (data : Data) :
    task ≠ .receiveCommand command data := by
  rintro rfl
  exact foreign (Option.some_ne_none _)

omit [DecidableEq Id] in
/-- Only the V-CPU thread notifies. -/
private theorem foreign_silent {activity : Activity (@handler S Id)} (foreign : ¬ activity.task.OfVcpu) :
    activity.made.filterMap (toSession session) = [] := by
  have plain := handler_plain (foreign_task foreign)
  rw [toSession_notifications, (plain_calls (plain.leads activity.leads)).2.2.1]
  rfl

theorem notifiedTo_tasks (served : Serves results trace unread pool) (session : S) :
    notifiedTo session trace = pool.tasks.flatMap fun activity => activity.made.filterMap (toSession session) :=
  (served.kept.serial fun _ => foreign_silent).2

/-- Nothing but commands that have been read, in their order, and each at most once. -/
theorem notifiedTo_sublist (served : Serves results trace unread pool) (session : S) :
    (notifiedTo session trace).Sublist (results.filterMap handled) := by
  rw [notifiedTo_tasks served, served.tasks]
  refine List.Sublist.trans ?_ (List.sublist_append_left ..)
  rw [List.filterMap_eq_flatMap_toList]
  refine List.Sublist.flatMap_right _ fun activity member => ?_
  cases task : activity.task with
  | receiveCommand command data =>
    rcases task_notifies served session member task with ⟨silent, -⟩ | ⟨_, _, _, _, -, silent | ⟨-, once⟩, -⟩
    · exact silent ▸ List.nil_sublist _
    · exact silent ▸ List.nil_sublist _
    · exact once ▸ List.Sublist.refl _
  | _ =>
    have foreign : ¬ activity.task.OfVcpu := fun own => own (task ▸ rfl)
    rw [foreign_silent foreign]
    exact List.nil_sublist _

theorem notifiedTo_subscribed (served : Serves results trace unread pool) {message : CpuCommand × Data}
    (told : message ∈ notifiedTo session trace) :
    ∃ before after, trace = before ++ after ∧ Subscribed before session message.1 := by
  rw [notifiedTo_tasks served] at told
  obtain ⟨activity, member, given⟩ := List.mem_flatMap.mp told
  cases task : activity.task with
  | receiveCommand command data =>
    rcases task_notifies served session member task with ⟨silent, -⟩ | ⟨before, _, _, _, split, silent | ⟨subscribed, once⟩, -⟩
    · exact nomatch silent ▸ given
    · exact nomatch silent ▸ given
    · obtain rfl := List.mem_singleton.mp (once ▸ given)
      exact ⟨before, _, split, subscribed⟩
  | _ =>
    have foreign : ¬ activity.task.OfVcpu := fun own => own (task ▸ rfl)
    exact nomatch foreign_silent foreign ▸ given

/-- What has called for a change of the subscribers is a task that is to make it. -/
private theorem called_of_subscriberCall (ran : Runs trace pool) {index : Nat} {call : DaemonCall S Id}
    {reply : DaemonReply S Id} (changes : subscriberCall call = some call) (called : .calls index call reply ∈ trace) :
    ∃ activity, pool.tasks[index]? = some activity ∧ call ∈ subscriberCalls activity.task := by
  obtain ⟨activity, found, made⟩ := ran.activity called
  have part := (Activity.makes (handler_subscriberCalls activity.task)).1
  refine ⟨activity, found, part.subset (List.mem_filterMap.mpr ⟨(call, reply), ?_, changes⟩)⟩
  rw [made]
  exact mem_own.mpr called

private theorem task_at {early late : List (Event S Id)} {before after : (@system S Id _ _).Pool} {index : Nat}
    {activity : Activity (@handler S Id)} (began : Runs early before) (goes : system.Reaches before late after)
    (found : after.tasks[index]? = some activity) :
    (∃ old, before.tasks[index]? = some old ∧ old.task = activity.task) ∨ .begins activity.task ∈ late := by
  have tasks : (begun early ++ begun late)[index]? = some activity.task := by
    have begun := (began.append goes).begun
    rw [System.begun, List.filterMap_append] at begun
    rw [System.begun, System.begun, ← begun, List.getElem?_map, found]
    rfl
  by_cases old : index < (begun early).length
  · rw [List.getElem?_append_left old, ← began.begun, List.getElem?_map] at tasks
    exact .inl (Option.map_eq_some_iff.mp tasks)
  · rw [List.getElem?_append_right (Nat.not_lt.mp old)] at tasks
    obtain ⟨event, member, task⟩ := List.mem_filterMap.mp (List.mem_of_getElem? tasks)
    cases event with
    | begins other => exact .inr (Option.some.inj task ▸ member)
    | calls caller call reply => exact nomatch task

omit [LinearOrder S] [DecidableEq Id] in
private theorem withdraws_of_leaves {index : Nat} {call : DaemonCall S Id} {reply : DaemonReply S Id}
    (leaves : subscriptions.leaves (session, command) (.calls index call reply)) :
    subscriberCall call = some call ∧ ∀ task, call ∈ subscriberCalls task → Withdraws session command task := by
  cases call with
  | removeSubscriber other unwanted =>
    obtain ⟨rfl, rfl⟩ := Prod.mk.inj leaves
    refine ⟨rfl, fun task member => ?_⟩
    unfold subscriberCalls at member
    split at member <;> simp at member
    obtain ⟨rfl, rfl⟩ := member
    exact ⟨rfl, rfl⟩
  | dropSubscriber other =>
    obtain rfl : other = session := leaves
    refine ⟨rfl, fun task member => ?_⟩
    unfold subscriberCalls at member
    split at member <;> simp at member
    exact member.symm
  | _ => exact leaves.elim

private theorem Steady.subscribed {before after : List (Event S Id)} {index : Nat} {copied : CpuCommand}
    {reply : DaemonReply S Id}
    (steady : Steady (before ++ .calls index (.copySubscribers copied) reply :: after) pool session command) :
    Subscribed before session command := by
  obtain ⟨early, middle, late, one, two, split, began, goes, continues, uncopied, settled, subscribing, stays⟩ := steady
  obtain ⟨place, activity, new, found, task, finished⟩ := subscribing
  -- the subscription is made in the middle part
  have subscribes := (Activity.makes (handler_subscriberCalls activity.task)).2 finished
  have single : (DaemonCall.addSubscriber session command : DaemonCall S Id) ∈
      activity.made.filterMap (subscriberCall ·.1) := by
    rw [subscribes, task]
    exact List.mem_singleton_self _
  obtain ⟨⟨asked, answer⟩, called, same⟩ := List.mem_filterMap.mp single
  have asks : asked = .addSubscriber session command := by
    cases asked <;> first | exact Option.some.inj same | exact nomatch same
  subst asks
  rw [made_of_found (began.append goes) found] at called
  have inside : .calls place (.addSubscriber session command) answer ∈ middle := by
    refine (List.mem_append.mp (mem_own.mp called)).resolve_left fun old => ?_
    obtain ⟨other, there, -⟩ := began.activity old
    exact absurd (List.getElem?_eq_some_iff.mp there).1 (Nat.not_lt.mpr new)
  obtain ⟨first, rest, rfl⟩ := List.mem_iff_append.mp inside
  -- whoever would take it away has finished before, or does not come
  have remains : ∀ event ∈ (first ++ .calls place (.addSubscriber session command) answer :: rest) ++ late,
      ¬ subscriptions.leaves (session, command) event := by
    intro event member leaves
    cases event with
    | begins task => exact leaves
    | calls caller call answered =>
      obtain ⟨changes, withdraws⟩ := withdraws_of_leaves leaves
      obtain ⟨other, there, makes⟩ := called_of_subscriberCall (began.append (goes.append continues)) changes
        (List.mem_append_right _ member)
      rcases task_at began (goes.append continues) there with ⟨old, stood, same⟩ | begins
      · have done := settled old (List.mem_of_getElem? stood) (same ▸ withdraws _ makes)
        have silent := ((goes.append continues).finished stood done).2
        exact nomatch silent ▸ mem_own.mpr member
      · exact stays _ begins (withdraws _ makes)
  have uncalled : .calls index (.copySubscribers copied) reply ∉
      early ++ (first ++ .calls place (.addSubscriber session command) answer :: rest) := by
    intro member
    have copy : (copied, reply.subscribers) ∈
        copies (made (early ++ (first ++ .calls place (.addSubscriber session command) answer :: rest))) := by
      refine List.mem_filterMap.mpr ⟨(.copySubscribers copied, reply), ?_, rfl⟩
      exact List.mem_filterMap.mpr ⟨_, member, rfl⟩
    exact nomatch uncopied ▸ copy
  rcases List.append_eq_append_iff.mp split.symm with ⟨between, rfl, tail⟩ | ⟨between, whole, tail⟩
  · refine ⟨early ++ first, .calls place (.addSubscriber session command) answer, rest ++ between, by simp, rfl,
      fun event member => remains event ?_⟩
    rcases List.mem_append.mp member with member | member
    · simp [member]
    · rw [tail]
      simp [member]
  · cases between with
    | nil =>
      rw [List.append_nil] at whole
      refine ⟨early ++ first, .calls place (.addSubscriber session command) answer, rest, by rw [← whole]; simp, rfl,
        fun event member => remains event ?_⟩
      simp [member]
    | cons event between =>
      obtain ⟨rfl, -⟩ := List.cons.inj tail
      exact absurd (whole ▸ List.mem_append_right _ (List.mem_cons_self ..)) uncalled

/-- A session that stays subscribed to a command is notified whenever it comes. -/
theorem notifiedTo_steady (served : Serves results trace [] pool) (free : pool.Free DaemonTask.OfVcpu)
    (steady : Steady trace pool session command) :
    (notifiedTo session trace).filter (·.1 = command) = (results.filterMap handled).filter (·.1 = command) := by
  rw [notifiedTo_tasks served, served.tasks, List.filterMap_nil, List.append_nil, List.filterMap_eq_flatMap_toList,
    List.filter_flatMap, List.filter_flatMap]
  refine List.flatMap_congr fun activity member => ?_
  cases task : activity.task with
  | receiveCommand received data =>
    have finished := free activity member (task ▸ Option.some_ne_none _)
    rcases task_notifies served session member task with ⟨-, unfinished⟩ | ⟨before, _, _, _, rfl, part, whole⟩
    · exact absurd finished unfinished
    · by_cases same : received = command
      · subst same
        rw [whole finished steady.subscribed]
        rfl
      · rcases part with silent | ⟨-, once⟩
        · simp [silent, DaemonTask.received, same]
        · simp [once, DaemonTask.received]
  | _ =>
    have foreign : ¬ activity.task.OfVcpu := fun own => own (task ▸ rfl)
    rw [foreign_silent foreign]
    rfl

/-- What the V-CPU writes, over a line that may cut its frames, comes to the sessions.
Whatever the other handlers do meanwhile, a session is notified only of what was written
and of that in its order, and of no command to which it has not subscribed; of a command
to which it stays subscribed it is notified every time. -/
theorem vcpu_stream_notified {checksum : List UInt8 → UInt8} {stream : List Uart.Cpu.Written} {line : List Uart.Symbol}
    {received : List (Uart.Protocol.Received (List UInt8))}
    (legible : ∀ written ∈ stream, written.Legible checksum Uart.kAddressMCPU)
    (streams : Streams checksum Uart.kAddressMCPU stream line) (receives : Receives checksum line received [])
    (served : Serves (received.map (Uart.Cpu.read Uart.kAddressVCPU)) trace unread pool) (session : S) :
    (notifiedTo session trace).Sublist (stream.filterMap (handled ·.answer)) ∧
      (∀ message ∈ notifiedTo session trace, ∃ before after, trace = before ++ after ∧
        Subscribed before session message.1) ∧
      (unread = [] → pool.Free DaemonTask.OfVcpu → ∀ command, Steady trace pool session command →
        (notifiedTo session trace).filter (·.1 = command) =
          (stream.filterMap (handled ·.answer)).filter (·.1 = command)) := by
  obtain ⟨results, -, unique, answers⟩ := Uart.Cpu.stream_received .toMCPU legible streams
  obtain rfl := unique received receives
  have written : stream.filterMap (handled ·.answer) = (received.map (Uart.Cpu.read Uart.kAddressVCPU)).filterMap
      handled := by
    rw [answers, List.filterMap_map]
    rfl
  rw [written]
  refine ⟨notifiedTo_sublist served session, fun message => notifiedTo_subscribed served, ?_⟩
  rintro rfl free command steady
  exact notifiedTo_steady served free steady

def subscribedTurns : List (Turn (DaemonTask Nat Nat) Bool) :=
  [.begins (.message 7 (.subscribe (4, 0))), .calls 0 true, .begins (.receiveCommand (4, 0) [9]), .calls 1 true,
    .calls 1 true, .calls 1 true]

def subscribedRun : List (Event Nat Nat) :=
  [.begins (.message 7 (.subscribe (4, 0))), .calls 0 (.addSubscriber 7 (4, 0)) {}, .begins (.receiveCommand (4, 0) [9]),
    .calls 1 (.copySubscribers (4, 0)) { subscribers := [7] }, .calls 1 (.send 7 (.notification (4, 0) [9])) {},
    .calls 1 (.takeRequest (4, 0)) {}]

theorem subscribedRun_steady {pool : (@system Nat Nat _ _).Pool} (ran : Runs subscribedRun pool) :
    Steady subscribedRun pool 7 (4, 0) := by
  let middle : List (Event Nat Nat) := subscribedRun.take 2
  have parts : Runs (middle ++ subscribedRun.drop 2) pool := ran
  obtain ⟨after, goes, continues⟩ := parts.split
  have tasks : after.tasks.map (·.task) = [.message 7 (.subscribe (4, 0))] := goes.begun
  obtain ⟨activity, rest, split, task, -⟩ := List.map_eq_cons_iff.mp tasks
  have found : after.tasks[0]? = some activity := by rw [split]; rfl
  have leads := activity.leads
  rw [task, made_of_found goes found] at leads
  have finished : activity.Finished := (leads_nil.mp leads.2).symm
  refine ⟨[], middle, subscribedRun.drop 2, _, after, rfl, .refl, goes, continues, rfl, nofun,
    ⟨0, activity, Nat.le_refl 0, found, task, finished⟩, fun other began withdraws => ?_⟩
  have known : other ∈ begun subscribedRun := List.mem_filterMap.mpr ⟨_, began, rfl⟩
  change other ∈ [DaemonTask.message 7 (.subscribe (4, 0)), .receiveCommand (4, 0) [9]] at known
  simp only [List.mem_cons, List.not_mem_nil, or_false] at known
  rcases known with rfl | rfl
  · exact withdraws
  · exact withdraws

theorem subscribedRun_served : ∃ pool : (@system Nat Nat _ _).Pool,
    Serves [.message ((4, 0), [9])] subscribedRun [] pool ∧ pool.Free DaemonTask.OfVcpu := by
  have played : ((serve [.message ((4, 0), [9])] ⟨[], initial⟩ subscribedTurns).map fun run =>
      decide (run.1 = subscribedRun ∧ run.2.1 = [] ∧ run.2.2.Free DaemonTask.OfVcpu)) = some true := by
    decide +kernel
  obtain ⟨⟨trace, unread, pool⟩, played, checked⟩ := Option.map_eq_some_iff.mp played
  obtain ⟨same, done, free⟩ := of_decide_eq_true checked
  dsimp only at same done free
  subst same done
  exact ⟨pool, serves_of_serve .start played, free⟩

theorem cut_command_notified : ∃ (line : List Uart.Symbol) (received : List (Uart.Protocol.Received (List UInt8)))
    (pool : _), Streams List.sum Uart.kAddressMCPU [⟨(4, 0), [9], [some 0]⟩] line ∧ Receives List.sum line received [] ∧
      Serves (received.map (Uart.Cpu.read Uart.kAddressVCPU)) subscribedRun [] pool ∧
      Steady subscribedRun pool 7 (4, 0) ∧ (notifiedTo 7 subscribedRun).filter (·.1 = (4, 0)) = [((4, 0), [9])] := by
  have legible : ∀ written ∈ ([⟨(4, 0), [9], [some 0]⟩] : List Uart.Cpu.Written),
      written.Legible List.sum Uart.kAddressMCPU := by
    intro written member
    obtain rfl := List.mem_singleton.mp member
    exact ⟨.inl (by decide), by decide⟩
  obtain ⟨line, streams⟩ := Uart.Cpu.exists_streams legible
  obtain ⟨received, receives, -, answers⟩ := Uart.Cpu.stream_received .toMCPU legible streams
  obtain ⟨pool, served, free⟩ := subscribedRun_served
  have served : Serves (received.map (Uart.Cpu.read Uart.kAddressVCPU)) subscribedRun [] pool := answers ▸ served
  have steady := subscribedRun_steady served.kept.reaches
  exact ⟨line, received, pool, streams, receives, served, steady,
    (vcpu_stream_notified legible streams receives served 7).2.2 rfl free (4, 0) steady⟩

end CpuCom.Messaging.Daemon
