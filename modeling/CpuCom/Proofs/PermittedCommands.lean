import CpuCom.Proofs.Authorization
import CpuCom.Proofs.WriteOrder

/-! From the calls of the processes to what the V-CPU reads. A command of the service
comes out there once for a call that was permitted, and for no other. -/

namespace CpuCom.Service
open Interaction System
open Messaging (Data DaemonTask AskedWrite)
open Uart.Cpu (Written)

def NativeCall.message : NativeCall → Option (Uart.CpuCommand × Data)
  | .send _ command subCommand data => some (narrow command subCommand, data.map Int8.toUInt8)
  | .create _ | .destroy _ | .setErrorCallback _ _ | .subscribe _ _ _ _ | .unsubscribe _ _ _ => none

def CpuCommand.message (command : CpuCommand) : Uart.CpuCommand × Data :=
  (narrow command.cmd command.subCmd, command.bytes.map Int8.toUInt8)

def answered (message : Uart.CpuCommand × Data) : Uart.Protocol.Received (Uart.CpuCommand × Data) :=
  (Written.mk message.1 message.2 []).answer

theorem messages_sent {performed : List (Int × CpuCommand)} {sent : List NativeCall}
    (agree : List.Forall₂ SentFor performed sent) :
    sent.filterMap NativeCall.message = performed.map fun asked => asked.2.message := by
  induction agree with
  | nil => rfl
  | cons one _ ih =>
    obtain ⟨pid, -, rfl⟩ := one
    rw [List.map_cons, ← ih]
    exact List.filterMap_cons_some rfl

namespace GuardedService

variable {B S Id : Type} [LinearOrder B] [LinearOrder S] [DecidableEq Id] {granted : Granted}
  {events : List (GuardedEvent B)} {last : GuardedService B} {trace : List (Messaging.Daemon.Event S Id)}
  {pool : (@Messaging.Daemon.system S Id _ _).Pool} {checksum : List UInt8 → UInt8} {stream : List Written}
  {line : List Uart.Symbol} {results : List (Uart.Protocol.Received (List UInt8))}

/-- What the V-CPU reads are the commands of the permitted calls, each of them once, and
those of the daemon's other clients. -/
theorem permitted_commands_read (ran : events.foldlM step (.initial granted) = .ok last)
    (kept : (@Messaging.Daemon.system S Id _ _).Keeps (InTurn DaemonTask.IsMessage) ⟨[], .initial⟩ trace pool)
    (free : pool.Free DaemonTask.IsMessage) (ofService : S → Bool)
    (delivered : ((((begun trace).filterMap DaemonTask.asksWrite).filter (ofService ·.session)).map
      fun asked => (asked.command, asked.data)).Perm (last.executor.service.sent.filterMap NativeCall.message))
    (wrote : (made trace).filterMap Messaging.Daemon.toWrite =
      stream.map fun written => (written.command, written.data, true))
    (legible : ∀ written ∈ stream, written.Legible checksum Uart.kAddressVCPU)
    (streams : Uart.Cpu.Streams checksum Uart.kAddressVCPU stream line)
    (receives : Uart.Protocol.Receives checksum line results []) :
    ∃ performed, (admitted granted events).filterMap ExecutorEvent.toSend =
        performed ++ last.executor.pendingSends ∧
      (results.map (Uart.Cpu.read Uart.kAddressMCPU)).Perm
        (performed.map (fun asked => answered asked.2.message) ++
          (((begun trace).filterMap DaemonTask.asksWrite).filter (!ofService ·.session)).map
            fun asked => answered (asked.command, asked.data)) := by
  obtain ⟨performed, pending, agree⟩ := sends_admitted ran
  obtain ⟨-, read, -, unique, answers⟩ := Messaging.Daemon.asked_read kept free wrote legible streams
  obtain rfl := unique results receives
  refine ⟨performed, pending, ?_⟩
  rw [messages_sent agree] at delivered
  have own := delivered.map answered
  rw [List.map_map, List.map_map] at own
  rw [answers]
  have parts := (List.filter_append_perm (ofService ·.session) ((begun trace).filterMap DaemonTask.asksWrite)).symm.map
    fun asked => answered (asked.command, asked.data)
  rw [List.map_append] at parts
  exact parts.trans (own.append_right _)

private def twoCalls : List (GuardedEvent Nat) :=
  [.calls (.sendCmd 7 ⟨4, 0, none⟩), .grants fun _ _ => true, .calls (.sendCmd 7 ⟨5, 0, none⟩), .runs]

private def twoTurns : List (Turn (DaemonTask Nat Nat) Bool) :=
  [.begins (.message 1 (.sendCommand (5, 0) [])), .calls 0 true, .begins (.message 2 (.sendCommand (1, 2) [3])),
    .calls 1 true]

theorem declined_command_unread : ∃ (last : GuardedService Nat) (trace : List (Messaging.Daemon.Event Nat Nat)) (pool : _)
    (line : List Uart.Symbol) (results : List (Uart.Protocol.Received (List UInt8))),
    twoCalls.foldlM step (initial fun _ _ => false) = .ok last ∧
      (@Messaging.Daemon.system Nat Nat _ _).Keeps (InTurn DaemonTask.IsMessage) ⟨[], .initial⟩ trace pool ∧
      Uart.Cpu.Streams List.sum Uart.kAddressVCPU [⟨(5, 0), [], [some 0]⟩, ⟨(1, 2), [3], []⟩] line ∧
      Uart.Protocol.Receives List.sum line results [] ∧
      ∃ performed, [(7, ⟨5, 0, none⟩)] = performed ++ last.executor.pendingSends ∧
        (results.map (Uart.Cpu.read Uart.kAddressMCPU)).Perm
          (performed.map (fun asked => answered asked.2.message) ++ [.message ((1, 2), [3])]) := by
  have obeyed : obeys (fun _ shared _ => some shared) Messaging.Daemon.replies (InTurn DaemonTask.IsMessage)
      (⟨[], .initial⟩ : (@Messaging.Daemon.system Nat Nat _ _).Pool) twoTurns = true := by
    decide +kernel
  have checked : (Messaging.Daemon.play twoTurns).any (fun run =>
      decide (run.2.Free DaemonTask.IsMessage ∧
        (made run.1).filterMap Messaging.Daemon.toWrite = [((5, 0), [], true), ((1, 2), [3], true)] ∧
        (begun run.1).filterMap DaemonTask.asksWrite =
          [⟨1, (5, 0), [], true⟩, ⟨2, (1, 2), [3], true⟩])) = true := by
    decide +kernel
  obtain ⟨trace, pool, kept, checked⟩ := exists_kept Messaging.Daemon.replies_allowed obeyed checked
  obtain ⟨free, wrote, asked⟩ := of_decide_eq_true checked
  let stream : List Written := [⟨(5, 0), [], [some 0]⟩, ⟨(1, 2), [3], []⟩]
  have legible : ∀ written ∈ stream, written.Legible List.sum Uart.kAddressVCPU := by
    intro written member
    rcases List.mem_cons.mp member with rfl | member
    · exact ⟨.inl (by decide), by decide⟩
    · obtain rfl := List.mem_singleton.mp member
      exact ⟨.inl (by decide), by decide⟩
  have written : (made trace).filterMap Messaging.Daemon.toWrite =
      stream.map fun written => (written.command, written.data, true) := wrote
  obtain ⟨line, streams⟩ := Uart.Cpu.exists_streams legible
  obtain ⟨results, receives, -⟩ := Uart.Cpu.stream_received .toVCPU legible streams
  have goes : (twoCalls.foldlM step (initial fun _ _ => false)).toOption.map
      (fun last => last.executor.service.sent.filterMap NativeCall.message) = some [((5, 0), [])] := by
    decide +kernel
  cases ran : twoCalls.foldlM step (initial fun _ _ => false) with
  | error fault =>
    rw [ran] at goes
    cases goes
  | ok last =>
    rw [ran] at goes
    have sent : last.executor.service.sent.filterMap NativeCall.message = [((5, 0), [])] := Option.some.inj goes
    have delivered : ((((begun trace).filterMap DaemonTask.asksWrite).filter fun asked => decide (asked.session = 1)).map
        fun asked => (asked.command, asked.data)).Perm (last.executor.service.sent.filterMap NativeCall.message) := by
      rw [asked, sent]
      exact .refl _
    obtain ⟨performed, calls, reads⟩ :=
      permitted_commands_read ran kept free (fun session => decide (session = 1)) delivered written legible streams receives
    refine ⟨last, trace, pool, line, results, rfl, kept, streams, receives, performed, calls, ?_⟩
    rw [asked] at reads
    exact reads

end GuardedService
end CpuCom.Service
