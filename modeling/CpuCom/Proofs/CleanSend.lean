import CpuCom.Uart.Link

/-! The send machine over the clean line: it writes an enquiry and a frame for each
frame of its message, in order, and answers true. -/

namespace CpuCom.Uart.Protocol
open Interaction FiniteStateMachine

theorem send_step {state : SendState} {event : Event} {sending : Sending} (next : SendState) (after : Sending)
    {line last : List Symbol} {target : SendConfig × List Symbol}
    (ran : (sendHandler state () sending).runOn Link.transmit line = some ((after, .event event), last))
    (moves : sendTransition state event = next) (unfinished : state ≠ .end)
    (continued : sendMachine.ReachesOn Link.transmit (.running next () after, last) target) :
    sendMachine.ReachesOn Link.transmit (.running state () sending, line) target := by
  have moved : sendMachine.stepOn Link.transmit (.running state () sending, line) =
      some (.running (sendTransition state event) () after, last) := stepOn_event ran unfinished
  rw [moves] at moved
  exact .step moved continued

theorem frame_sent {context : SendContext} {frame : Frame} (r2 : Nat) (line : List Symbol)
    (found : context.currentFrame = some frame) :
    sendMachine.ReachesOn Link.transmit (.running .reenquiry () ⟨context, r2⟩, line)
      (.running .done () ⟨context, r2⟩, line ++ Link.frameSymbols frame) := by
  have written : (sendHandler .frame () ⟨context, r2⟩).runOn Link.transmit
      (line ++ [.byte ControlCode.enq, .silence]) = some ((⟨context, r2⟩, .event .pass),
        line ++ [.byte ControlCode.enq, .silence] ++ frame.map .byte) := by
    simp [sendHandler, signal, sendFrame, found, Program.runOn, Link.transmit]
  refine send_step .ack _ rfl rfl (by decide) ?_
  refine send_step .frame _ rfl rfl (by decide) ?_
  refine send_step .ack2 _ written rfl (by decide) ?_
  refine send_step .done _ rfl rfl (by decide) ?_
  rw [List.append_assoc]
  exact .refl

/-- From the first frame that is still to be sent, all remaining frames follow. -/
theorem frames_sent (r2 : Nat) {frames : List Frame} (small : frames.length < 2 ^ 64) (rest sent : List Frame)
    (frame : Frame) (line : List Symbol) (split : frames = sent ++ frame :: rest) :
    sendMachine.ReachesOn Link.transmit (.running .reenquiry () ⟨⟨frames, sent.length, false⟩, r2⟩, line)
      (.ended ⟨⟨frames, frames.length - 1, true⟩, r2⟩, line ++ Link.framesSymbols (frame :: rest)) := by
  have exchanged := @frame_sent ⟨frames, sent.length, false⟩ frame r2 line (by simp [SendContext.currentFrame, split])
  have more := @SendContext.hasFramesToSend_iff ⟨frames, sent.length, false⟩ (by simp [split]) small
  induction rest generalizing sent frame line with
  | nil =>
    have length : sent.length = frames.length - 1 := by simp [split]
    have last : SendContext.hasFramesToSend ⟨frames, sent.length, false⟩ = false := by
      rw [Bool.eq_false_iff, Ne, more]
      simp [split]
    have finished : (sendHandler .done () ⟨⟨frames, sent.length, false⟩, r2⟩).runOn Link.transmit
        (line ++ Link.frameSymbols frame) = some ((⟨⟨frames, sent.length, true⟩, r2⟩, .event .pass),
          line ++ Link.frameSymbols frame) := by
      simp [sendHandler, once, sendDone, last]
    have closed : sendMachine.stepOn Link.transmit
        (.running .end () ⟨⟨frames, sent.length, true⟩, r2⟩, line ++ Link.frameSymbols frame) =
        some (.ended ⟨⟨frames, sent.length, true⟩, r2⟩, line ++ Link.frameSymbols frame) := rfl
    rw [Link.framesSymbols, List.flatMap_singleton, ← length]
    exact exchanged.trans (send_step .end _ finished rfl (by decide) (.step closed .refl))
  | cons next rest ih =>
    have unfinished : SendContext.hasFramesToSend ⟨frames, sent.length, false⟩ = true := by
      rw [more]
      simp [split]
    have continued : (sendHandler .done () ⟨⟨frames, sent.length, false⟩, r2⟩).runOn Link.transmit
        (line ++ Link.frameSymbols frame) = some ((⟨⟨frames, sent.length + 1, false⟩, r2⟩, .event .wait),
          line ++ Link.frameSymbols frame) := by
      simp [sendHandler, once, sendDone, unfinished, SendContext.onFrameCompleted]
    have split' : frames = (sent ++ [frame]) ++ next :: rest := by simp [split]
    have remaining := ih (sent ++ [frame]) next (line ++ Link.frameSymbols frame) split'
      (frame_sent r2 _ (by simp [SendContext.currentFrame, split]))
      (SendContext.hasFramesToSend_iff (by simp [split]) small)
    rw [List.length_append, List.length_singleton, List.append_assoc] at remaining
    exact exchanged.trans (send_step .reenquiry _ continued rfl (by decide) remaining)

/-- A send over the clean line ends, and in one way only. -/
theorem transmits_iff {checksum : List UInt8 → UInt8} (r2 : Nat) {data : List UInt8} (line : List Symbol)
    (result : Bool) (nonempty : prepareFrames checksum data ≠ [])
    (small : (prepareFrames checksum data).length < 2 ^ 64) :
    Transmits checksum r2 data line result ↔
      line = Link.framesSymbols (prepareFrames checksum data) ∧ result = true := by
  obtain ⟨frame, rest, split⟩ := List.exists_cons_of_ne_nil nonempty
  have sent := frames_sent 0 small rest [] frame [] split
  rw [← split, List.nil_append] at sent
  have started : sendMachine.ReachesOn Link.transmit (sendStart checksum data r2, [])
      (.running .reenquiry () ⟨⟨prepareFrames checksum data, 0, false⟩, 0⟩, []) := by
    change sendMachine.ReachesOn Link.transmit (.running .idle () ⟨sendContext checksum data, r2⟩, []) _
    refine send_step .enquiry _ rfl rfl (by decide) ?_
    exact send_step .reenquiry _ rfl rfl (by decide) .refl
  constructor
  · intro ⟨sending, ended, answered⟩
    obtain ⟨same, line⟩ := ended.ended_unique (started.trans sent)
    exact ⟨line, answered ▸ same ▸ rfl⟩
  · intro ⟨filled, answered⟩
    exact ⟨_, filled ▸ started.trans sent, answered.symm⟩

end CpuCom.Uart.Protocol
