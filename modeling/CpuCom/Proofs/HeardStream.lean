import CpuCom.Proofs.CommandDelivery
import CpuCom.Proofs.HeardCommands

/-! From what the V-CPU writes to what a listener hears. The daemon notifies the session of
a process, and what comes for the process are these notifications. -/

namespace CpuCom.Service
open Interaction System
open Messaging (DaemonTask)
open Messaging.Daemon (Serves Steady notifiedTo)

variable {B S Id : Type}

def JavaThreadEvent.arrivedFor (pid : Int) : JavaThreadEvent B → Option (Uart.CpuCommand × Messaging.Data)
  | .arrives other command data => if other = pid then some (command, data) else none
  | _ => none

theorem JavaThreadEvent.arrived_eq {pid : Int} {wanted : Uart.CpuCommand} {event : JavaThreadEvent B} :
    event.arrived pid wanted = (event.arrivedFor pid).bind (notified wanted) := by
  cases event with
  | arrives other command data =>
    rw [arrived, arrivedFor]
    split <;> rfl
  | serves event | looks other place | pushes other place | broadcasts place => rfl

/-- What is heard of a command depends only on the messages about it. -/
theorem notified_filter {wanted : Uart.CpuCommand} {messages : List (Uart.CpuCommand × Messaging.Data)} :
    (messages.filter (·.1 = wanted)).filterMap (notified wanted) = messages.filterMap (notified wanted) := by
  rw [List.filterMap_filter]
  refine List.filterMap_congr fun (command, data) _ => ?_
  by_cases same : command = wanted <;> simp [notified, same]

namespace JavaThread
variable [LinearOrder B] [LinearOrder S] [DecidableEq Id] {early late : List (JavaThreadEvent B)}
  {before middle after : JavaThread B} {pid : Int} {wanted : Uart.CpuCommand} {listener : B} {command : CpuCommand}
  {queue : List (Task B)} {trace : List (Messaging.Daemon.Event S Id)} {pool : (@Messaging.Daemon.system S Id _ _).Pool}
  {session : S} {checksum : List UInt8 → UInt8} {stream : List Uart.Cpu.Written} {line : List Uart.Symbol}
  {results : List (Uart.Protocol.Received (List UInt8))}

/-- A listener hears the commands that the V-CPU writes while it is subscribed. -/
theorem vcpu_commands_heard (legible : ∀ written ∈ stream, written.Legible checksum Uart.kAddressMCPU)
    (streams : Uart.Cpu.Streams checksum Uart.kAddressMCPU stream line)
    (receives : Uart.Protocol.Receives checksum line results [])
    (served : Serves (results.map (Uart.Cpu.read Uart.kAddressVCPU)) trace [] pool)
    (free : pool.Free DaemonTask.OfVcpu) (steady : Steady trace pool session wanted)
    (reached : early.foldlM step .initial = .ok before)
    (queued : before.executor.queue = .subscribe pid command listener :: queue) (key : command.key = widen wanted)
    (alive : listener ∉ before.executor.service.dead) (subscribed : before.step (.serves .runs) = .ok middle)
    (spared : Guarded step (Spares pid wanted listener) middle late) (ran : late.foldlM step middle = .ok after)
    (delivered : late.filterMap (·.arrivedFor pid) = notifiedTo session trace) :
    ∃ (wrapper : Nat) (more : List (JavaThreadEvent B)) (last : JavaThread B),
      middle.executor.service.native.callbackOf pid wanted = some (some (.onCommand wrapper)) ∧
      (∀ event ∈ more, event.GoesOn pid) ∧ more.foldlM step after = .ok last ∧
      Same (∀ event ∈ late, event.InOrder) (last.heardBy pid wanted wrapper listener)
        (middle.heardBy pid wanted wrapper listener ++ middle.onTheWay pid wanted wrapper ++
          (stream.filterMap (Messaging.Daemon.handled ·.answer)).filterMap (notified wanted)) := by
  obtain ⟨wrapper, connected⟩ := connects (run_wired listener reached) queued key alive subscribed
  have heard := run_heard connected spared
  rw [ran] at heard
  obtain ⟨more, last, moves, went, same⟩ := heard.comes_through
  refine ⟨wrapper, more, last, connected.callback, moves, went, ?_⟩
  obtain ⟨read, -, unique, answers⟩ := Uart.Cpu.stream_received .toMCPU legible streams
  obtain rfl := unique results receives
  have written : stream.filterMap (Messaging.Daemon.handled ·.answer) =
      (results.map (Uart.Cpu.read Uart.kAddressVCPU)).filterMap Messaging.Daemon.handled := by
    rw [answers, List.filterMap_map]
    rfl
  have came : late.filterMap (·.arrived pid wanted) =
      (stream.filterMap (Messaging.Daemon.handled ·.answer)).filterMap (notified wanted) := by
    calc late.filterMap (·.arrived pid wanted)
      _ = (late.filterMap (·.arrivedFor pid)).filterMap (notified wanted) := by
          rw [List.filterMap_filterMap]
          exact List.filterMap_congr fun _ _ => JavaThreadEvent.arrived_eq
      _ = ((notifiedTo session trace).filter (·.1 = wanted)).filterMap (notified wanted) := by
          rw [delivered, notified_filter]
      _ = _ := by rw [Messaging.Daemon.notifiedTo_steady served free steady, notified_filter, written]
  rwa [came] at same

/-- One frame is cut, and the listener hears the command once it is sent again. -/
theorem cut_command_heard : ∃ (line : List Uart.Symbol) (results : List (Uart.Protocol.Received (List UInt8)))
    (middle after last : JavaThread Nat) (more : List (JavaThreadEvent Nat)),
    Uart.Cpu.Streams List.sum Uart.kAddressMCPU [⟨(4, 0), [9], [some 0]⟩] line ∧
      Uart.Protocol.Receives List.sum line results [] ∧
      [.serves (.calls (.subscribeCB 7 ⟨4, 0, none⟩ 1)), .serves .runs].foldlM step initial = .ok middle ∧
      [.arrives 7 (4, 0) [9], .looks 7 0].foldlM step middle = .ok after ∧
      (∀ event ∈ more, event.GoesOn 7) ∧ more.foldlM step after = .ok last ∧
      last.heardBy 7 (4, 0) 0 1 = [⟨4, 0, [9]⟩] := by
  have legible : ∀ written ∈ ([⟨(4, 0), [9], [some 0]⟩] : List Uart.Cpu.Written),
      written.Legible List.sum Uart.kAddressMCPU := by
    intro written member
    obtain rfl := List.mem_singleton.mp member
    exact ⟨.inl (by decide), by decide⟩
  obtain ⟨line, streams⟩ := Uart.Cpu.exists_streams legible
  obtain ⟨results, receives, -, answers⟩ := Uart.Cpu.stream_received .toMCPU legible streams
  obtain ⟨pool, served, free⟩ := Messaging.Daemon.subscribedRun_served
  have served : Serves (results.map (Uart.Cpu.read Uart.kAddressVCPU)) Messaging.Daemon.subscribedRun [] pool :=
    answers ▸ served
  have steady := Messaging.Daemon.subscribedRun_steady served.kept.reaches
  have runs : Outcome (fun before => before.executor.queue = [.subscribe 7 ⟨4, 0, none⟩ 1] ∧
      1 ∉ before.executor.service.dead ∧
      Outcome (fun middle => middle.executor.service.native.callbackOf 7 (4, 0) = some (some (.onCommand 0)) ∧
        middle.heardBy 7 (4, 0) 0 1 ++ middle.onTheWay 7 (4, 0) 0 = [] ∧
        Guarded step (Spares 7 (4, 0) 1) middle [.arrives 7 (4, 0) [9], .looks 7 0] ∧
        Outcome (fun _ => True) (fun _ => False) ([.arrives 7 (4, 0) [9], .looks 7 0].foldlM step middle))
        (fun _ => False) (before.step (.serves .runs))) (fun _ => False)
        ([.serves (.calls (.subscribeCB 7 ⟨4, 0, none⟩ 1))].foldlM step (initial : JavaThread Nat)) := by
    decide +kernel
  obtain ⟨before, reached, queued, alive, runs⟩ := runs.exists_ok
  obtain ⟨middle, subscribed, callback, nothing, spared, runs⟩ := runs.exists_ok
  obtain ⟨after, ran, -⟩ := runs.exists_ok
  obtain ⟨wrapper, more, last, called, moves, went, heard⟩ := vcpu_commands_heard legible streams receives served free
    steady reached queued rfl alive subscribed spared ran rfl
  obtain rfl : wrapper = 0 := by
    rw [callback] at called
    cases called
    rfl
  refine ⟨line, results, middle, after, last, more, streams, receives, ?_, ran, moves, went, ?_⟩
  · change ([.serves (.calls (.subscribeCB 7 ⟨4, 0, none⟩ 1))] ++ [.serves .runs] : List (JavaThreadEvent Nat)).foldlM
      step initial = .ok middle
    rw [List.foldlM_append, reached]
    exact congrArg (· >>= pure) subscribed
  · rw [heard.eq (by simp [JavaThreadEvent.InOrder]), nothing]
    rfl

end JavaThread
end CpuCom.Service
