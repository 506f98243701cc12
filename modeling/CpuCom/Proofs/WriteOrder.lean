import CpuCom.Messaging.Daemon
import CpuCom.Interaction.Serial
import CpuCom.Proofs.CommandStream

/-! From the clients to the V-CPU. The messages are handled on one thread, so that the
writes come in their order, and a plain send that failed is reported to its session. -/

namespace CpuCom.Messaging
open Interaction System Program
open Uart (CpuCommand)

variable {S Id : Type}

/-- The write that a message asks for. Only the failure of a plain send is reported. -/
structure AskedWrite (S : Type) where
  session : S
  command : CpuCommand
  data : Data
  plain : Bool
deriving DecidableEq

def DaemonTask.asksWrite : DaemonTask S Id → Option (AskedWrite S)
  | .message session (.sendCommand command data) => some ⟨session, command, data, true⟩
  | .message session (.request _ command data _) => some ⟨session, command, data, false⟩
  | .message session (.sendCommandWithDeliveryStatus _ command data) => some ⟨session, command, data, false⟩
  | _ => none

def DaemonTask.IsMessage : DaemonTask S Id → Prop
  | .message _ _ => True
  | .receiveCommand _ _ | .clientDisconnected _ => False

instance : DecidablePred (@DaemonTask.IsMessage S Id)
  | .message _ _ => .isTrue trivial
  | .receiveCommand _ _ | .clientDisconnected _ => .isFalse id

theorem DaemonTask.IsMessage.exists {task : DaemonTask S Id} (own : task.IsMessage) :
    ∃ session message, task = .message session message := by
  cases task with
  | message session message => exact ⟨session, message, rfl⟩
  | receiveCommand command data => exact own.elim
  | clientDisconnected session => exact own.elim

namespace Daemon

def toWrite : DaemonCall S Id × DaemonReply S Id → Option (CpuCommand × Data × Bool)
  | (.write command data, reply) => some (command, data, reply.written)
  | _ => none

def toBusy : DaemonCall S Id × DaemonReply S Id → Option (S × CpuCommand)
  | (.send session (.sendCommandResult command _), _) => some (session, command)
  | _ => none

def report (asked : AskedWrite S) (written : Bool) : Option (S × CpuCommand) :=
  if asked.plain && !written then some (asked.session, asked.command) else none

/-- Each write that is asked for has been made or waits, and each failure of a plain send
has been reported or is about to be. Nothing waits where everything is done. -/
def Accounted (asked : List (AskedWrite S)) (writes : List (CpuCommand × Data × Bool)) (busy : List (S × CpuCommand))
    (done : Prop) : Prop :=
  ∃ (made : List (AskedWrite S × Bool)) (waiting : List (AskedWrite S)) (due : List (S × CpuCommand)),
    asked = made.map Prod.fst ++ waiting ∧
    writes = made.map (fun write => (write.1.command, write.1.data, write.2)) ∧
    made.filterMap (fun write => report write.1 write.2) = busy ++ due ∧
    waiting.length + due.length ≤ 1 ∧ (done → waiting = [] ∧ due = [])

variable {asked others : List (AskedWrite S)} {writes more : List (CpuCommand × Data × Bool)}
  {busy also : List (S × CpuCommand)} {done last : Prop}

theorem Accounted.append (first : Accounted asked writes busy done) (rest : Accounted others more also last)
    (finished : done) : Accounted (asked ++ others) (writes ++ more) (busy ++ also) last := by
  obtain ⟨made, waiting, due, rfl, rfl, reports, -, settled⟩ := first
  obtain ⟨rfl, rfl⟩ := settled finished
  obtain ⟨later, left, pending, rfl, rfl, told, few, ends⟩ := rest
  refine ⟨made ++ later, left, pending, by simp, by simp, ?_, few, ends⟩
  rw [List.filterMap_append, reports, told, List.append_nil, List.append_assoc]

theorem Accounted.weaken (accounted : Accounted asked writes busy done) (weaker : last → done) :
    Accounted asked writes busy last := by
  obtain ⟨made, waiting, due, asks, wrote, reports, few, settled⟩ := accounted
  exact ⟨made, waiting, due, asks, wrote, reports, few, settled ∘ weaker⟩

theorem accounted_nil : Accounted ([] : List (AskedWrite S)) [] [] done :=
  ⟨[], [], [], rfl, rfl, rfl, Nat.zero_le 1, fun _ => ⟨rfl, rfl⟩⟩

private theorem accounted_waiting (one : AskedWrite S) (unfinished : ¬ done) : Accounted [one] [] [] done :=
  ⟨[], [one], [], rfl, rfl, rfl, Nat.le_refl 1, fun finished => absurd finished unfinished⟩

private theorem accounted_made (one : AskedWrite S) (written : Bool) (unreported : report one written = none) :
    Accounted [one] [(one.command, one.data, written)] [] done :=
  ⟨[(one, written)], [], [], rfl, rfl, by simp [unreported], Nat.zero_le 1, fun _ => ⟨rfl, rfl⟩⟩

private theorem accounted_failed (session : S) (command : CpuCommand) (data : Data) (unfinished : ¬ done) :
    Accounted [⟨session, command, data, true⟩] [(command, data, false)] [] done :=
  ⟨[(⟨session, command, data, true⟩, false)], [], [(session, command)], rfl, rfl, rfl, Nat.le_refl 1,
    fun finished => absurd finished unfinished⟩

private theorem accounted_reported (session : S) (command : CpuCommand) (data : Data) :
    Accounted [⟨session, command, data, true⟩] [(command, data, false)] [(session, command)] done :=
  ⟨[(⟨session, command, data, true⟩, false)], [], [], rfl, rfl, rfl, Nat.zero_le 1, fun _ => ⟨rfl, rfl⟩⟩

private theorem leads_of_call {request : DaemonCall S Id} {next : DaemonReply S Id → DaemonProgram S Id Unit}
    {calls : List (DaemonCall S Id × DaemonReply S Id)} {rest : DaemonProgram S Id Unit}
    (leads : (Program.call request next).Leads calls rest) :
    (calls = [] ∧ rest ≠ .pure ()) ∨ ∃ reply more, calls = (request, reply) :: more ∧ (next reply).Leads more rest := by
  cases calls with
  | nil => exact .inl ⟨rfl, leads_nil.mp leads ▸ nofun⟩
  | cons call more =>
    obtain ⟨asked, reply⟩ := call
    obtain ⟨rfl, leads⟩ := leads
    exact .inr ⟨reply, more, rfl, leads⟩

private theorem leads_of_pure {calls : List (DaemonCall S Id × DaemonReply S Id)} {rest : DaemonProgram S Id Unit}
    (leads : (Program.pure () : DaemonProgram S Id Unit).Leads calls rest) : calls = [] := by
  cases calls with
  | nil => rfl
  | cons call more => exact leads.elim

theorem message_accounted {session : S} {message : ClientMessage Id} {calls : List (DaemonCall S Id × DaemonReply S Id)}
    {rest : DaemonProgram S Id Unit} (leads : (handler (.message session message)).Leads calls rest) :
    Accounted (DaemonTask.asksWrite (.message session message)).toList (calls.filterMap toWrite)
      (calls.filterMap toBusy) (rest = .pure ()) := by
  cases message with
  | sendCommand command data =>
    obtain ⟨rfl, unfinished⟩ | ⟨reply, more, rfl, next⟩ := leads_of_call leads
    · exact accounted_waiting _ unfinished
    · cases written : reply.written with
      | true =>
        have ends : (Program.pure () : DaemonProgram S Id Unit).Leads more rest := by
          simpa [written, Program.bind] using next
        obtain rfl := leads_of_pure ends
        change Accounted [⟨session, command, data, true⟩] [(command, data, reply.written)] [] _
        rw [written]
        exact accounted_made ⟨session, command, data, true⟩ true rfl
      | false =>
        have sends : (Program.call (.send session (.sendCommandResult command .busy)) fun _ => .pure () :
            DaemonProgram S Id Unit).Leads more rest := by
          simpa [written, Program.request, Program.bind] using next
        obtain ⟨rfl, unfinished⟩ | ⟨sent, more, rfl, ends⟩ := leads_of_call sends
        · change Accounted [⟨session, command, data, true⟩] [(command, data, reply.written)] [] _
          rw [written]
          exact accounted_failed session command data unfinished
        · obtain rfl := leads_of_pure ends
          change Accounted [⟨session, command, data, true⟩] [(command, data, reply.written)] [(session, command)] _
          rw [written]
          exact accounted_reported session command data
  | request id command data responseCommand =>
    obtain ⟨rfl, unfinished⟩ | ⟨added, more, rfl, next⟩ := leads_of_call leads
    · exact accounted_waiting _ unfinished
    · obtain ⟨rfl, unfinished⟩ | ⟨reply, more, rfl, ends⟩ := leads_of_call next
      · exact accounted_waiting _ unfinished
      · obtain rfl := leads_of_pure ends
        exact accounted_made ⟨session, command, data, false⟩ reply.written rfl
  | sendCommandWithDeliveryStatus id command data =>
    obtain ⟨rfl, unfinished⟩ | ⟨reply, more, rfl, next⟩ := leads_of_call leads
    · exact accounted_waiting _ unfinished
    · obtain ⟨rfl, -⟩ | ⟨sent, more, rfl, ends⟩ := leads_of_call next
      · exact accounted_made ⟨session, command, data, false⟩ reply.written rfl
      · obtain rfl := leads_of_pure ends
        exact accounted_made ⟨session, command, data, false⟩ reply.written rfl
  | subscribe command =>
    obtain ⟨rfl, -⟩ | ⟨reply, more, rfl, ends⟩ := leads_of_call leads
    · exact accounted_nil
    · obtain rfl := leads_of_pure ends
      exact accounted_nil
  | unsubscribe command =>
    obtain ⟨rfl, -⟩ | ⟨reply, more, rfl, ends⟩ := leads_of_call leads
    · exact accounted_nil
    · obtain rfl := leads_of_pure ends
      exact accounted_nil
  | cancelRequest id =>
    obtain ⟨rfl, -⟩ | ⟨reply, more, rfl, ends⟩ := leads_of_call leads
    · exact accounted_nil
    · obtain rfl := leads_of_pure ends
      exact accounted_nil

private def Aside : DaemonCall S Id → Prop
  | .write _ _ | .send _ (.sendCommandResult _ _) => False
  | _ => True

private theorem aside_calls {calls : List (DaemonCall S Id × DaemonReply S Id)} (aside : ∀ call ∈ calls, Aside call.1) :
    calls.filterMap toWrite = [] ∧ calls.filterMap toBusy = [] := by
  refine ⟨List.filterMap_eq_nil_iff.mpr fun call member => ?_, List.filterMap_eq_nil_iff.mpr fun call member => ?_⟩
  all_goals
    obtain ⟨asked, reply⟩ := call
    have apart : Aside asked := aside _ member
    cases asked with
    | write command data => exact apart.elim
    | send session message => cases message <;> first | exact apart.elim | rfl
    | _ => rfl

private theorem foreign_aside {task : DaemonTask S Id} (foreign : ¬ task.IsMessage) : (handler task).Only Aside := by
  cases task with
  | message session message => exact absurd trivial foreign
  | clientDisconnected session => exact ⟨trivial, fun _ => ⟨trivial, fun _ => trivial⟩⟩
  | receiveCommand command data =>
    have notifies (subscribers : List S) :
        (sendNotifications command data subscribers : DaemonProgram S Id Unit).Only Aside := by
      induction subscribers with
      | nil => trivial
      | cons session subscribers ih => exact ⟨trivial, fun _ => ih⟩
    refine ⟨trivial, fun copied => (notifies copied.subscribers).bind fun _ => ⟨trivial, fun found => ?_⟩⟩
    cases taken : found.request with
    | none => simp [Program.bind, taken]
    | some request => simp [Program.request, Program.bind, taken, Aside]

theorem foreign_calls {activity : Activity (@handler S Id)} (foreign : ¬ activity.task.IsMessage) :
    activity.task.asksWrite = none ∧ activity.made.filterMap toWrite = [] ∧ activity.made.filterMap toBusy = [] := by
  refine ⟨?_, aside_calls ((foreign_aside foreign).leads activity.leads)⟩
  cases task : activity.task with
  | message session message => exact absurd (task ▸ trivial) foreign
  | _ => rfl

/-- The tasks of a pool that is serial: only the last message may be under way. -/
theorem tasks_accounted {tasks : List (Activity (@handler S Id))}
    (serial : tasks.Pairwise fun earlier later =>
      earlier.task.IsMessage → later.task.IsMessage → earlier.Finished) :
    Accounted (tasks.filterMap (·.task.asksWrite)) (tasks.flatMap fun activity => activity.made.filterMap toWrite)
      (tasks.flatMap fun activity => activity.made.filterMap toBusy)
      (∀ activity ∈ tasks, activity.task.IsMessage → activity.Finished) := by
  induction tasks with
  | nil => exact accounted_nil
  | cons activity tasks ih =>
    obtain ⟨ends, later⟩ := List.pairwise_cons.mp serial
    have rest := ih later
    rw [List.flatMap_cons, List.flatMap_cons]
    by_cases own : activity.task.IsMessage
    · obtain ⟨session, message, task⟩ := own.exists
      have one := message_accounted (task ▸ activity.leads)
      rw [← task] at one
      have asks : (activity :: tasks).filterMap (·.task.asksWrite) =
          activity.task.asksWrite.toList ++ tasks.filterMap (·.task.asksWrite) := by
        rw [List.filterMap_cons]
        cases activity.task.asksWrite <;> rfl
      rw [asks]
      by_cases finished : activity.Finished
      · exact (one.append rest finished).weaken fun all other member => all other (List.mem_cons_of_mem _ member)
      · -- nothing of the thread comes after a task that is under way
        have foreign (other : Activity (@handler S Id)) (member : other ∈ tasks) : ¬ other.task.IsMessage :=
          fun theirs => finished (ends other member own theirs)
        have silent : tasks.filterMap (·.task.asksWrite) = [] ∧
            (tasks.flatMap fun activity => activity.made.filterMap toWrite) = [] ∧
            (tasks.flatMap fun activity => activity.made.filterMap toBusy) = [] :=
          ⟨List.filterMap_eq_nil_iff.mpr fun other member => (foreign_calls (foreign other member)).1,
            List.flatMap_eq_nil_iff.mpr fun other member => (foreign_calls (foreign other member)).2.1,
            List.flatMap_eq_nil_iff.mpr fun other member => (foreign_calls (foreign other member)).2.2⟩
        rw [silent.1, silent.2.1, silent.2.2, List.append_nil, List.append_nil, List.append_nil]
        exact one.weaken fun all => all activity (List.mem_cons_self ..) own
    · obtain ⟨asks, silent, quiet⟩ := foreign_calls own
      rw [List.filterMap_cons, asks, silent, quiet]
      refine rest.weaken fun all other member => all other (List.mem_cons_of_mem _ member)

variable [LinearOrder S] [DecidableEq Id] {trace : List (Event S Id)} {pool : (@system S Id _ _).Pool}

theorem messages_accounted (kept : (@system S Id _ _).Keeps (InTurn DaemonTask.IsMessage) ⟨[], initial⟩ trace pool) :
    Accounted ((begun trace).filterMap DaemonTask.asksWrite) ((made trace).filterMap toWrite)
      ((made trace).filterMap toBusy) (pool.Free DaemonTask.IsMessage) := by
  obtain ⟨serial, writes⟩ := kept.serial fun activity foreign => (@foreign_calls S Id activity foreign).2.1
  have reports := (kept.serial fun activity foreign => (@foreign_calls S Id activity foreign).2.2).2
  rw [writes, reports, ← kept.reaches.begun, List.filterMap_map]
  exact tasks_accounted serial

/-- What comes to the V-CPU are the writes that the messages ask for, in the order in
which they are handled and each of them once, whatever the other handlers do. The
failures of the plain sends are reported in that order, and nothing else is. -/
theorem writes_in_order (kept : (@system S Id _ _).Keeps (InTurn DaemonTask.IsMessage) ⟨[], initial⟩ trace pool) :
    ∃ (written : List (AskedWrite S × Bool)) (waiting : List (AskedWrite S)) (due : List (S × CpuCommand)),
      (begun trace).filterMap DaemonTask.asksWrite = written.map Prod.fst ++ waiting ∧
      (made trace).filterMap toWrite = written.map (fun write => (write.1.command, write.1.data, write.2)) ∧
      written.filterMap (fun write => report write.1 write.2) = (made trace).filterMap toBusy ++ due ∧
      waiting.length + due.length ≤ 1 ∧ (pool.Free DaemonTask.IsMessage → waiting = [] ∧ due = []) :=
  messages_accounted kept

private def busyTurns : List (Turn (DaemonTask Nat Nat) Bool) :=
  [.begins (.message 7 (.sendCommand (4, 0) [9])), .begins (.clientDisconnected 8), .calls 0 false, .calls 1 true,
    .calls 0 true, .begins (.message 8 (.sendCommand (5, 0) [])), .calls 2 true]

theorem busy_reported : ∃ trace pool,
    (@system Nat Nat _ _).Keeps (InTurn DaemonTask.IsMessage) ⟨[], initial⟩ trace pool ∧
      (made trace).filterMap toWrite = [((4, 0), [9], false), ((5, 0), [], true)] ∧
      (made trace).filterMap toBusy = [(7, (4, 0))] ∧
      ∃ (written : List (AskedWrite Nat × Bool)) (waiting : List (AskedWrite Nat)) (due : List (Nat × CpuCommand)),
        (begun trace).filterMap DaemonTask.asksWrite = written.map Prod.fst ++ waiting ∧
        (made trace).filterMap toWrite = written.map (fun write => (write.1.command, write.1.data, write.2)) ∧
        written.filterMap (fun write => report write.1 write.2) = (made trace).filterMap toBusy ++ due ∧
        waiting.length + due.length ≤ 1 ∧ (pool.Free DaemonTask.IsMessage → waiting = [] ∧ due = []) := by
  have obeyed : obeys (fun _ shared _ => some shared) replies (InTurn DaemonTask.IsMessage)
      (⟨[], initial⟩ : (@system Nat Nat _ _).Pool) busyTurns = true := by
    decide +kernel
  have checked : (play busyTurns).any (fun run =>
      decide ((made run.1).filterMap toWrite = [((4, 0), [9], false), ((5, 0), [], true)] ∧
        (made run.1).filterMap toBusy = [(7, (4, 0))])) = true := by
    decide +kernel
  obtain ⟨trace, pool, kept, checked⟩ := exists_kept replies_allowed obeyed checked
  obtain ⟨writes, busy⟩ := of_decide_eq_true checked
  exact ⟨trace, pool, kept, writes, busy, writes_in_order kept⟩

omit [LinearOrder S] [DecidableEq Id] in
/-- Where every write has succeeded, all that was asked for was written. -/
private theorem Accounted.all_written {wrote : List (CpuCommand × Data)}
    (accounted : Accounted asked (wrote.map fun write => (write.1, write.2, true)) busy done) (finished : done) :
    wrote = asked.map (fun write => (write.command, write.data)) ∧ busy = [] := by
  obtain ⟨made, waiting, due, rfl, writes, reports, -, settled⟩ := accounted
  obtain ⟨rfl, rfl⟩ := settled finished
  have succeeded : ∀ write ∈ made, write.2 = true := by
    intro write member
    have there : (write.1.command, write.1.data, write.2) ∈ wrote.map fun write => (write.1, write.2, true) := by
      rw [writes]
      exact List.mem_map_of_mem member
    obtain ⟨other, -, same⟩ := List.mem_map.mp there
    exact (congrArg (·.2.2) same).symm
  refine ⟨?_, ?_⟩
  · have commands := congrArg (List.map fun write => (write.1, write.2.1)) writes
    rw [List.map_map, List.map_map] at commands
    rw [List.append_nil, List.map_map]
    exact (List.map_id _).symm.trans commands
  · rw [List.append_nil] at reports
    rw [← reports, List.filterMap_eq_nil_iff]
    intro write member
    rw [report, succeeded write member, Bool.not_true, Bool.and_false]
    rfl

section
variable {checksum : List UInt8 → UInt8} {stream : List Uart.Cpu.Written} {line : List Uart.Symbol}

theorem asked_read (kept : (@system S Id _ _).Keeps (InTurn DaemonTask.IsMessage) ⟨[], initial⟩ trace pool)
    (free : pool.Free DaemonTask.IsMessage)
    (wrote : (made trace).filterMap toWrite = stream.map fun written => (written.command, written.data, true))
    (legible : ∀ written ∈ stream, written.Legible checksum Uart.kAddressVCPU)
    (streams : Uart.Cpu.Streams checksum Uart.kAddressVCPU stream line) :
    (made trace).filterMap toBusy = [] ∧ ∃ results, Uart.Protocol.Receives checksum line results [] ∧
      (∀ other, Uart.Protocol.Receives checksum line other [] → other = results) ∧
      results.map (Uart.Cpu.read Uart.kAddressMCPU) = ((begun trace).filterMap DaemonTask.asksWrite).map
        fun asked => (Uart.Cpu.Written.mk asked.command asked.data []).answer := by
  have accounted := messages_accounted kept
  have same : stream.map (fun written => (written.command, written.data, true)) =
      (stream.map fun written => (written.command, written.data)).map fun write => (write.1, write.2, true) := by
    rw [List.map_map]
    rfl
  rw [wrote, same] at accounted
  obtain ⟨commands, unreported⟩ := accounted.all_written free
  obtain ⟨results, receives, unique, read⟩ := Uart.Cpu.stream_received .toVCPU legible streams
  refine ⟨unreported, results, receives, unique, read.trans ?_⟩
  have answers := congrArg (List.map fun write => (Uart.Cpu.Written.mk write.1 write.2 []).answer) commands
  rw [List.map_map, List.map_map] at answers
  exact answers

end

/-- From the messages of the clients to what the V-CPU reads: over a line that may cut
the frames, every command that the messages ask to be written is read once, in the order
in which the messages are handled. -/
theorem client_commands_read {checksum : List UInt8 → UInt8} {stream : List Uart.Cpu.Written} {line : List Uart.Symbol}
    (kept : (@system S Id _ _).Keeps (InTurn DaemonTask.IsMessage) ⟨[], initial⟩ trace pool)
    (free : pool.Free DaemonTask.IsMessage)
    (wrote : (made trace).filterMap toWrite = stream.map fun written => (written.command, written.data, true))
    (legible : ∀ written ∈ stream, written.Legible checksum Uart.kAddressVCPU)
    (streams : Uart.Cpu.Streams checksum Uart.kAddressVCPU stream line) :
    (made trace).filterMap toBusy = [] ∧ ∃ results, Uart.Protocol.Receives checksum line results [] ∧
      (∀ other, Uart.Protocol.Receives checksum line other [] → other = results) ∧
      results.map (Uart.Cpu.read Uart.kAddressMCPU) = ((begun trace).filterMap DaemonTask.asksWrite).map
        fun asked => (Uart.Cpu.Written.mk asked.command asked.data []).answer :=
  asked_read kept free wrote legible streams

private def writtenTurns : List (Turn (DaemonTask Nat Nat) Bool) :=
  [.begins (.message 7 (.sendCommand (1, 2) [3])), .calls 0 true, .begins (.message 8 (.request 5 (4, 5) [] (6, 0))),
    .calls 1 true, .calls 1 true]

theorem client_commands_read_cut : ∃ trace pool line results,
    (@system Nat Nat _ _).Keeps (InTurn DaemonTask.IsMessage) ⟨[], initial⟩ trace pool ∧
      Uart.Cpu.Streams List.sum Uart.kAddressVCPU [⟨(1, 2), [3], [some 0]⟩, ⟨(4, 5), [], []⟩] line ∧
      Uart.Protocol.Receives List.sum line results [] ∧
      results.map (Uart.Cpu.read Uart.kAddressMCPU) = [.message ((1, 2), [3]), .message ((4, 5), [])] := by
  have obeyed : obeys (fun _ shared _ => some shared) replies (InTurn DaemonTask.IsMessage)
      (⟨[], initial⟩ : (@system Nat Nat _ _).Pool) writtenTurns = true := by
    decide +kernel
  have checked : (play writtenTurns).any (fun run =>
      decide (run.2.Free DaemonTask.IsMessage ∧
        (made run.1).filterMap toWrite = [((1, 2), [3], true), ((4, 5), [], true)] ∧
        (begun run.1).filterMap DaemonTask.asksWrite =
          [⟨7, (1, 2), [3], true⟩, ⟨8, (4, 5), [], false⟩])) = true := by
    decide +kernel
  obtain ⟨trace, pool, kept, checked⟩ := exists_kept replies_allowed obeyed checked
  obtain ⟨free, wrote, asked⟩ := of_decide_eq_true checked
  let stream : List Uart.Cpu.Written := [⟨(1, 2), [3], [some 0]⟩, ⟨(4, 5), [], []⟩]
  have legible : ∀ written ∈ stream, written.Legible List.sum Uart.kAddressVCPU := by
    intro written member
    rcases List.mem_cons.mp member with rfl | member
    · exact ⟨.inl (by decide), by decide⟩
    · obtain rfl := List.mem_singleton.mp member
      exact ⟨.inl (by decide), by decide⟩
  obtain ⟨line, streams⟩ := Uart.Cpu.exists_streams legible
  have same : (made trace).filterMap toWrite = stream.map fun written => (written.command, written.data, true) := wrote
  obtain ⟨-, results, receives, -, read⟩ := client_commands_read kept free same legible streams
  rw [asked] at read
  exact ⟨trace, pool, line, results, kept, streams, receives, read⟩

end Daemon
end CpuCom.Messaging
