import CpuCom.Proofs.CommandStream
import CpuCom.Proofs.EmulatorForwarding

/-! The emulator on the line between the two CPUs. What one of them sends comes out at the
other one as it would without the emulator. -/

namespace CpuCom.Emulator
open Interaction
open Uart (CpuCommand)
open Uart.Cpu (Written Streams)
open Uart.Protocol (Received Receives)

variable {checksum : List UInt8 → UInt8} {cpu : Side} {stream : List Written}

/-- The addresses for which `main` makes its two CPUs. The peer of each of them is made
for the address of the other one. -/
def Side.address : Side → UInt8
  | .mcpu => Uart.kAddressMCPU
  | .vcpu => Uart.kAddressVCPU

def heard : Received (CpuCommand × List UInt8) → Option (CpuCommand × List UInt8)
  | .message message => some message
  | _ => none

theorem side_paired : Uart.Cpu.Paired cpu.other.address cpu.address := by
  cases cpu with
  | mcpu => exact .toVCPU
  | vcpu => exact .toMCPU

/-- What is heard of a stream are the commands that are not divided. -/
theorem heard_answers : (stream.map Written.answer).filterMap heard =
    (stream.map fun written => (written.command, written.data)).filter (·.2.length ≤ Uart.kMaxActualDataLength) := by
  induction stream with
  | nil => rfl
  | cons written stream ih =>
    rw [List.map_cons, List.map_cons, List.filterMap_cons, List.filter_cons, ih, Written.answer]
    by_cases short : written.data.length ≤ Uart.kMaxActualDataLength
    · simp [short, heard]
    · simp [short, heard]

namespace EmulatorState

variable {regex : String → Option (List Char → Bool)} {files : Side → Option ConfigObject}
  {config : Side → CpuConfig} {last : EmulatorState} {events : List EmulatorEvent}
  {writes : List Written} {line other : List Uart.Symbol} {results outcome : List (Received (List UInt8))}

/-- What one CPU sends comes out at the other one in order, if the pool is one worker, and at
the V-CPU nothing else does. -/
theorem proxy_transparent (loaded : start regex files = .ok config) (cpu : Side) (forwarding : Forwarding (files cpu))
    (ran : events.foldlM (step config) initial = .ok last) (worker : OneWorker events) (idle : last.pending cpu = [])
    (unqueued : ∀ entry ∈ last.queue, entry.1 ≠ .input cpu)
    (legible : ∀ written ∈ stream, written.Legible checksum cpu.other.address)
    (streams : Streams checksum cpu.other.address stream line) (receives : Receives checksum line results [])
    (reads : received cpu events = (results.map (Uart.Cpu.read cpu.address)).filterMap heard)
    (wrote : writes.map (fun written => (written.command, written.data)) = written cpu.other last.done)
    (forwarded : ∀ written ∈ writes, written.Legible checksum cpu.other.address)
    (passes : Streams checksum cpu.other.address writes other) (ends : Receives checksum other outcome []) :
    ((stream.map Written.answer).filterMap heard).Sublist ((outcome.map (Uart.Cpu.read cpu.address)).filterMap heard) ∧
      (cpu = .mcpu → Unsending (files .vcpu) →
        (outcome.map (Uart.Cpu.read cpu.address)).filterMap heard = (stream.map Written.answer).filterMap heard) := by
  obtain ⟨first, -, only, answers⟩ := Uart.Cpu.stream_received side_paired legible streams
  obtain rfl := only results receives
  obtain ⟨second, -, same, comes⟩ := Uart.Cpu.stream_received side_paired forwarded passes
  obtain rfl := same outcome ends
  obtain ⟨rest, -, ordered, whole⟩ := input_written loaded forwarding ran
  have messages := ordered worker
  rw [whole idle unqueued, List.append_nil, reads, answers] at messages
  rw [comes, @heard_answers writes, wrote]
  have short : ((stream.map Written.answer).filterMap heard).filter (·.2.length ≤ Uart.kMaxActualDataLength) =
      (stream.map Written.answer).filterMap heard := by
    rw [heard_answers, List.filter_filter]
    simp
  constructor
  · rw [← short, messages]
    exact ((List.filter_sublist).flatMap _).filter _
  · rintro rfl unsending
    change (written .vcpu last.done).filter _ = _
    rw [vcpu_written loaded unsending ran, ← short]
    exact congrArg _ messages.symm

private def resending : Side → Option ConfigObject := fun _ => some ⟨⟨some "resend", [], [], ""⟩, []⟩

private def proxyRun : List EmulatorEvent := [.reads .mcpu ⟨(4, 0), [9]⟩, .pushes .mcpu, .works 0]

theorem cut_command_forwarded : ∃ config last line results other outcome,
    start (fun _ => none) resending = .ok config ∧ proxyRun.foldlM (step config) initial = .ok last ∧
      Streams List.sum Uart.kAddressVCPU [⟨(4, 0), [9], [some 0]⟩] line ∧ Receives List.sum line results [] ∧
      Streams List.sum Uart.kAddressVCPU [⟨(4, 0), [9], [none, some 1]⟩] other ∧ Receives List.sum other outcome [] ∧
      (outcome.map (Uart.Cpu.read Uart.kAddressMCPU)).filterMap heard = [((4, 0), [9])] := by
  have legible (plan : List (Option Nat)) (few : Uart.Link.cuts 1 plan < 5) :
      ∀ written ∈ [(⟨(4, 0), [9], plan⟩ : Written)], written.Legible List.sum Uart.kAddressVCPU := by
    intro written member
    obtain rfl := List.mem_singleton.mp member
    exact ⟨.inl (Nat.le_add_left 1 1023), few⟩
  have sends := legible [some 0] (by decide)
  have passes := legible [none, some 1] (by decide)
  obtain ⟨line, streams⟩ := Uart.Cpu.exists_streams sends
  obtain ⟨results, receives, -, answers⟩ := Uart.Cpu.stream_received .toVCPU sends streams
  obtain ⟨other, onward⟩ := Uart.Cpu.exists_streams passes
  obtain ⟨outcome, ends, -, -⟩ := Uart.Cpu.stream_received .toVCPU passes onward
  have goes : ((start (fun _ => none) resending).toOption.bind fun config =>
      (proxyRun.foldlM (step config) initial).toOption.map fun last =>
        decide (last.pending .mcpu = [] ∧ last.queue = [] ∧ written .vcpu last.done = [((4, 0), [9])])) = some true := by
    decide +kernel
  cases loaded : start (fun _ => none) resending with
  | error fault =>
    rw [loaded] at goes
    cases goes
  | ok config =>
    rw [loaded] at goes
    change (Option.map _ (Except.toOption (proxyRun.foldlM (step config) initial))) = some true at goes
    cases ran : proxyRun.foldlM (step config) initial with
    | error fault =>
      rw [ran] at goes
      cases goes
    | ok last =>
      rw [ran] at goes
      obtain ⟨idle, empty, wrote⟩ := of_decide_eq_true (Option.some.inj goes)
      have quiet : ∀ jRule ∈ ([] : List RuleObject), ∀ jAction ∈ jRule.actions,
          jAction.type ≠ some "resend" ∧ jAction.type ≠ some "replace" := fun _ member => absurd member List.not_mem_nil
      have unsending : Unsending (resending .vcpu) := ⟨by decide, fun _ member => absurd member List.not_mem_nil⟩
      have reads : received .mcpu proxyRun = (results.map (Uart.Cpu.read Uart.kAddressMCPU)).filterMap heard := by
        rw [answers]
        decide
      have transparent := @proxy_transparent _ _ _ _ _ _ _ [⟨(4, 0), [9], [none, some 1]⟩] _ _ _ _ loaded .mcpu ⟨rfl, quiet⟩
        ran (by decide) idle (by simp [empty]) sends streams receives reads wrote.symm passes onward ends
      refine ⟨config, last, line, results, other, outcome, rfl, ran, streams, receives, onward, ends, ?_⟩
      exact (transparent.2 rfl unsending).trans (by decide)

end EmulatorState
end CpuCom.Emulator
