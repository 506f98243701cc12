import CpuCom.Interaction.Script
import CpuCom.Proofs.RecvSteps

/-! Only intact frames are acknowledged. The buffer is empty whenever the machine
enters the state `stx`, and from there on it holds what the device has delivered. -/

namespace CpuCom.Uart.Protocol
open Interaction FiniteStateMachine

def delivered : Call × Response → List UInt8
  | (.read _, reply) => if reply.result = .success then [reply.byte] else []
  | (.readMulti size _, reply) => if reply.result = .success then reply.fill size else reply.bytes.take size
  | _ => []

/-- The buffer of a frame as far as it has been read. -/
def Shape (checksum : List UInt8 → UInt8) (frame : Frame) : RecvState → Prop
  | .len => frame = [ControlCode.stx]
  | .datacmd => ∃ length, frame = [ControlCode.stx, length]
  | .dataextlen => ∃ length body, frame = ControlCode.stx :: length :: body
  | .dataframenumber => ∃ length body, frame = ControlCode.stx :: length :: body
  | .data => ∃ length body, frame = ControlCode.stx :: length :: body
  | .etx => ∃ length body, frame = ControlCode.stx :: length :: body
  | .cs => ∃ length body, frame = ControlCode.stx :: length :: body ++ [ControlCode.etx]
  | .ack2 => ∃ length body, frame = ControlCode.stx :: length :: body ++
      [ControlCode.etx, checksum (length :: body ++ [ControlCode.etx])]
  | _ => True

variable {checksum : List UInt8 → UInt8}

/-- The machine last entered the state `stx` somewhere in the run, and its buffer is
what the device has delivered since. -/
def Reading (checksum : List UInt8 → UInt8) (start : RecvConfig) (trace : List (Call × Response))
    (config : RecvConfig) : Prop :=
  ∃ first rest loop entered, trace = first ++ rest ∧
    (recvMachine checksum).Runs start first (.running .stx loop entered) ∧
    (recvMachine checksum).Run (fun _ _ after => after.state? ≠ some .stx) (.running .stx loop entered) rest config ∧
    config.data.context.currentFrame = rest.flatMap delivered ∧
    config.data.context.completedFrames = entered.context.completedFrames

variable {start middle after : RecvConfig} {trace more : List (Call × Response)}

theorem Reading.step (reading : Reading checksum start trace middle)
    (step : (recvMachine checksum).Step middle more after) (outside : after.state? ≠ some .stx)
    (stored : after.data.context.currentFrame = middle.data.context.currentFrame ++ more.flatMap delivered)
    (kept : after.data.context.completedFrames = middle.data.context.completedFrames) :
    Reading checksum start (trace ++ more) after := by
  obtain ⟨first, rest, loop, entered, rfl, reached, since, buffer, completed⟩ := reading
  refine ⟨first, rest ++ more, loop, entered, List.append_assoc _ _ _, reached, since.step step outside, ?_, ?_⟩
  · rw [stored, buffer, List.flatMap_append]
  · rw [kept, completed]

/-- The buffer in every state of a run: empty outside a frame, and the frame as far
as it has been read inside one. -/
def Intact (checksum : List UInt8 → UInt8) (start : RecvConfig) (trace : List (Call × Response)) : RecvConfig → Prop
  | .running .idle _ receiving => receiving.context.currentFrame = []
  | .running .poll _ receiving => receiving.context.currentFrame = []
  | .running .repoll _ receiving => receiving.context.currentFrame = []
  | .running .enquiry _ receiving => receiving.context.currentFrame = []
  | .running .ack _ receiving => receiving.context.currentFrame = []
  | .running .stx _ receiving => receiving.context.currentFrame = []
  | .running .nak _ _ => True
  | .running .retry _ _ => True
  | .running .done _ _ => True
  | .running .error _ _ => True
  | .running .end _ _ => True
  | .running state loop receiving =>
      Reading checksum start trace (.running state loop receiving) ∧
        Shape checksum receiving.context.currentFrame state
  | .ended _ => True

theorem intact_step (run : (recvMachine checksum).Runs start trace middle)
    (intact : Intact checksum start trace middle) (step : (recvMachine checksum).Step middle more after) :
    Intact checksum start (trace ++ more) after := by
  obtain ⟨state, loop, context, r1, rfl, move⟩ := recv_move step
  cases move with
  | idle => exact intact
  | polled locked arrived => exact intact
  | repoll unlocked => exact intact
  | enquiryByte arrived => exact intact
  | enquired quiet => exact intact
  | unasked quiet nothing => exact intact
  | ack accepted => exact intact
  | @stx loop reply arrived code =>
    have entered : context.currentFrame = [] := intact
    have single : (recvMachine checksum).Run (fun _ _ after => after.state? ≠ some .stx) _ _ _ :=
      Run.single step (by simp [Config.state?])
    refine ⟨⟨trace, _, loop, ⟨context, r1⟩, rfl, run, single, ?_, rfl⟩, ?_⟩
    · simp [Config.data, RecvContext.store, delivered, arrived, entered]
    · simp [Shape, RecvContext.store, code, entered]
  | lenExtended arrived code =>
    obtain ⟨reading, shape⟩ := intact
    refine ⟨reading.step step (by simp [Config.state?]) ?_ rfl, _, congrArg (· ++ _) shape⟩
    simp [Config.data, RecvContext.store, delivered, arrived]
  | lenRegular arrived other atLeast atMost =>
    obtain ⟨reading, shape⟩ := intact
    refine ⟨reading.step step (by simp [Config.state?]) ?_ rfl, _, congrArg (· ++ _) shape⟩
    simp [Config.data, RecvContext.store, delivered, arrived]
  | datacmd arrived =>
    obtain ⟨reading, length, shape⟩ := intact
    refine ⟨reading.step step (by simp [Config.state?]) ?_ rfl, length, _, congrArg (· ++ _) shape⟩
    simp [Config.data, RecvContext.store, delivered, arrived]
  | dataextlen extended arrived =>
    obtain ⟨reading, length, body, shape⟩ := intact
    refine ⟨reading.step step (by simp [Config.state?]) ?_ rfl, length, _, congrArg (· ++ _) shape⟩
    simp [Config.data, RecvContext.setExtendedLength, RecvContext.store, delivered, arrived]
  | dataextlenSkipped regular =>
    obtain ⟨reading, shape⟩ := intact
    exact ⟨reading.step step (by simp [Config.state?]) (by simp [Config.data]) rfl, shape⟩
  | dataframenumber divided arrived =>
    obtain ⟨reading, length, body, shape⟩ := intact
    refine ⟨reading.step step (by simp [Config.state?]) ?_ rfl, length, _, congrArg (· ++ _) shape⟩
    simp [Config.data, RecvContext.store, delivered, arrived]
  | dataframenumberSkipped undivided =>
    obtain ⟨reading, shape⟩ := intact
    exact ⟨reading.step step (by simp [Config.state?]) (by simp [Config.data]) rfl, shape⟩
  | data arrived =>
    obtain ⟨reading, length, body, shape⟩ := intact
    refine ⟨reading.step step (by simp [Config.state?]) ?_ rfl, length, _, congrArg (· ++ _) shape⟩
    simp [Config.data, RecvContext.store, delivered, arrived]
  | etx arrived code =>
    obtain ⟨reading, length, body, shape⟩ := intact
    refine ⟨reading.step step (by simp [Config.state?]) ?_ rfl, length, body, ?_⟩
    · simp [Config.data, RecvContext.store, delivered, arrived]
    · change context.currentFrame = _ at shape
      simp [RecvContext.store, shape, code]
  | cs arrived right =>
    obtain ⟨reading, length, body, shape⟩ := intact
    refine ⟨reading.step step (by simp [Config.state?]) ?_ rfl, length, body, ?_⟩
    · simp [Config.data, RecvContext.store, delivered, arrived]
    · change context.currentFrame = _ at shape
      simp [RecvContext.store, right, shape]
  | retry left => exact rfl
  | piece divided more => exact rfl
  | _ => exact trivial

theorem intact_run {r1 : Nat} (run : (recvMachine checksum).Runs (recvStart checksum r1) trace after) :
    Intact checksum (recvStart checksum r1) trace after := by
  have invariant : (recvMachine checksum).Runs (recvStart checksum r1) trace after ∧
      Intact checksum (recvStart checksum r1) trace after := by
    apply run.invariant
    · exact ⟨.refl _, rfl⟩
    · intro trace middle more after ⟨reached, intact⟩ step _
      exact ⟨reached.step step trivial, intact_step reached intact step⟩
  exact invariant.2

/-- Whenever a frame is about to be acknowledged, the buffer is exactly what the
device has delivered since the state `stx` was last entered, and it is well formed. -/
theorem acknowledged_intact {r1 count : Nat} {loop : Option UInt8} {context : RecvContext}
    (run : (recvMachine checksum).Runs (recvStart checksum r1) trace (.running .ack2 loop ⟨context, count⟩)) :
    (∃ first rest entry entered, trace = first ++ rest ∧
      (recvMachine checksum).Runs (recvStart checksum r1) first (.running .stx entry entered) ∧
      (recvMachine checksum).Run (fun _ _ after => after.state? ≠ some .stx) (.running .stx entry entered) rest
        (.running .ack2 loop ⟨context, count⟩) ∧
      context.currentFrame = rest.flatMap delivered ∧
      context.completedFrames = entered.context.completedFrames) ∧
    (∃ length body, context.currentFrame =
      ControlCode.stx :: length :: body ++ [ControlCode.etx, checksum (length :: body ++ [ControlCode.etx])]) ∧
    ∀ first rest earlier, (recvMachine checksum).Runs (recvStart checksum r1) first earlier →
      (recvMachine checksum).Runs earlier rest (.running .ack2 loop ⟨context, count⟩) →
      earlier.data.context.completedFrames <+: context.completedFrames := by
  obtain ⟨reading, shape⟩ := intact_run run
  refine ⟨reading, shape, ?_⟩
  intro first rest earlier _ continued
  exact completedFrames_kept continued

theorem three_bytes_intact :
    ∃ trace context count, (recvMachine List.sum).Runs (recvStart List.sum 0) trace
        (.running .ack2 none ⟨context, count⟩) ∧
      ∃ length body, context.currentFrame =
        ControlCode.stx :: length :: body ++ [ControlCode.etx, List.sum (length :: body ++ [ControlCode.etx])] := by
  have ran : (recvMachine List.sum).script 13 (recvStart List.sum 0)
      [⟨.success, []⟩, ⟨.success, []⟩, ⟨.success, [ControlCode.enq]⟩, ⟨.timeout, []⟩, ⟨.success, []⟩,
        ⟨.success, [ControlCode.stx]⟩, ⟨.success, [5]⟩, ⟨.success, [1, 2, 3]⟩, ⟨.success, []⟩,
        ⟨.success, [ControlCode.etx]⟩, ⟨.success, [14]⟩] =
      some (.running .ack2 none ⟨⟨[], [2, 5, 1, 2, 3, 3, 14], false, .regular, 3, 0, 0⟩, 0⟩,
        [(.poll .infinite, ⟨.success, []⟩), (.lock, ⟨.success, []⟩),
          (.read .immediate, ⟨.success, [ControlCode.enq]⟩), (.read .immediate, ⟨.timeout, []⟩),
          (.writeByte ControlCode.ack, ⟨.success, []⟩), (.read kTimeout3, ⟨.success, [ControlCode.stx]⟩),
          (.read kTimeout4, ⟨.success, [5]⟩), (.readMulti 3 kTimeout4, ⟨.success, [1, 2, 3]⟩),
          (.readMulti 0 kTimeout4, ⟨.success, []⟩), (.read kTimeout3, ⟨.success, [ControlCode.etx]⟩),
          (.read kTimeout4, ⟨.success, [14]⟩)], []) := by
    decide +kernel
  have run := runs_of_script ran
  exact ⟨_, _, _, run, (acknowledged_intact run).2.1⟩

end CpuCom.Uart.Protocol
