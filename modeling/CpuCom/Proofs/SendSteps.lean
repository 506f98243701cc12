import CpuCom.Uart.SendMachine

/-! What one step of the send machine can do: the calls of each state, the replies
that select a branch, and the configuration that follows. -/

namespace CpuCom.Uart
open Interaction

def Response.Acknowledges (response : Response) : Prop :=
  response.result = .success ∧ response.byte = ControlCode.ack

namespace Protocol

inductive SendMove (sending : Sending) : SendState → List (Call × Response) → SendConfig → Prop where
  | idle : SendMove sending .idle [] (.running .enquiry () { sending with r2 := 0 })
  | lock (locked) : SendMove sending .enquiry [(.lock, locked)] (.running .reenquiry () sending)
  | drain {drained} (arrived : drained.result = .success) :
      SendMove sending .reenquiry [(.read .immediate, drained)] (.running .reenquiry () sending)
  | drainFailed {drained} (failed : drained.result = .error) :
      SendMove sending .reenquiry [(.read .immediate, drained)] (.running .retry () sending)
  | enquire {silent written} (quiet : silent.result = .timeout) (accepted : written.result = .success) :
      SendMove sending .reenquiry [(.read .immediate, silent), (.writeByte ControlCode.enq, written)]
        (.running .ack () sending)
  | enquireFailed {silent written} (quiet : silent.result = .timeout) (refused : written.result ≠ .success) :
      SendMove sending .reenquiry [(.read .immediate, silent), (.writeByte ControlCode.enq, written)]
        (.running .retry () sending)
  | admitted {reply} (acknowledged : reply.Acknowledges) :
      SendMove sending .ack [(.read kTimeout3, reply)] (.running .frame () sending)
  | busy {reply} (arrived : reply.result = .success) (busy : reply.byte = ControlCode.nak) :
      SendMove sending .ack [(.read kTimeout3, reply)] (.running .reenquiry () sending)
  | collided {reply} (arrived : reply.result = .success) (enquiry : reply.byte = ControlCode.enq) :
      SendMove sending .ack [(.read kTimeout3, reply)] (.running .nak () sending)
  | unanswered {reply} (denied : ¬ reply.Acknowledges) :
      SendMove sending .ack [(.read kTimeout3, reply)] (.running .retry () sending)
  | write {frame written} (found : sending.context.currentFrame = some frame) (accepted : written.result = .success) :
      SendMove sending .frame [(.write frame, written)] (.running .ack2 () sending)
  | writeFailed {frame written} (found : sending.context.currentFrame = some frame)
      (refused : written.result ≠ .success) :
      SendMove sending .frame [(.write frame, written)] (.running .retry () sending)
  | confirmed {reply} (acknowledged : reply.Acknowledges) :
      SendMove sending .ack2 [(.read kTimeout3, reply)] (.running .done () sending)
  | unconfirmed {reply} (denied : ¬ reply.Acknowledges) :
      SendMove sending .ack2 [(.read kTimeout3, reply)] (.running .retry () sending)
  | retry (unlocked) (left : sending.r2 + 1 < kMaxNumberOfSendAttempts)
      (kept : (sending.r2 + 1) % kSendAttemptsForPortReinit ≠ 0) :
      SendMove sending .retry [(.unlock, unlocked)] (.running .enquiry () { sending with r2 := sending.r2 + 1 })
  | reinit (unlocked closed opened) (left : sending.r2 + 1 < kMaxNumberOfSendAttempts)
      (sixth : (sending.r2 + 1) % kSendAttemptsForPortReinit = 0) :
      SendMove sending .retry [(.unlock, unlocked), (.close, closed), (.open, opened)]
        (.running .enquiry () { sending with r2 := sending.r2 + 1 })
  | exhausted (spent : ¬ sending.r2 + 1 < kMaxNumberOfSendAttempts) :
      SendMove sending .retry [] (.running .error () { sending with r2 := sending.r2 + 1 })
  | nak {written} (accepted : written.result = .success) :
      SendMove sending .nak [(.writeByte ControlCode.nak, written)] (.running .wait () sending)
  | nakFailed {written} (refused : written.result ≠ .success) :
      SendMove sending .nak [(.writeByte ControlCode.nak, written)] (.running .retry () sending)
  | wait (unlocked) : SendMove sending .wait [(.unlock, unlocked)] (.running .enquiry () sending)
  | nextFrame (more : sending.context.hasFramesToSend = true) :
      SendMove sending .done [] (.running .reenquiry () { sending with context := sending.context.onFrameCompleted })
  | completed (last : sending.context.hasFramesToSend = false) :
      SendMove sending .done [] (.running .end () { sending with context.result := true })
  | error : SendMove sending .error [] (.running .end () { sending with context.result := false })
  | finish (unlocked) : SendMove sending .end [(.unlock, unlocked)] (.ended sending)

private theorem sendReenquiry_returns {sending : Sending} {trace : List (Call × Response)} {flow : Flow Unit Event}
    (returned : sendReenquiry.Returns trace flow) :
    SendMove sending .reenquiry trace (sendMachine.follow .reenquiry sending flow) := by
  rw [sendReenquiry, Program.request_bind, Program.returns_call] at returned
  obtain ⟨drained, rest, rfl, continued⟩ := returned
  cases arrived : drained.result with
  | success =>
    simp only [arrived] at continued
    obtain ⟨rfl, rfl⟩ := continued
    exact .drain arrived
  | error =>
    simp only [arrived] at continued
    obtain ⟨rfl, rfl⟩ := continued
    exact .drainFailed arrived
  | timeout =>
    simp only [arrived, Program.request_bind, Program.returns_call] at continued
    obtain ⟨written, last, rfl, decided⟩ := continued
    split at decided
    · next accepted =>
      obtain ⟨rfl, rfl⟩ := decided
      exact .enquire arrived accepted
    · next refused =>
      obtain ⟨rfl, rfl⟩ := decided
      exact .enquireFailed arrived refused

private theorem sendAcknowledgement_returns {trace : List (Call × Response)} {event : Event}
    (returned : sendAcknowledgement.Returns trace event) :
    ∃ reply, trace = [(.read kTimeout3, reply)] ∧ (event = .pass ↔ reply.Acknowledges) ∧
      (event = .busy → reply.result = .success ∧ reply.byte = ControlCode.nak) ∧
      (event = .wait → reply.result = .success ∧ reply.byte = ControlCode.enq) := by
  rw [sendAcknowledgement, Program.request_bind, Program.returns_call] at returned
  obtain ⟨reply, rest, rfl, continued⟩ := returned
  refine ⟨reply, ?_⟩
  unfold Response.Acknowledges
  cases arrived : reply.result with
  | timeout =>
    simp only [arrived] at continued
    obtain ⟨rfl, rfl⟩ := continued
    simp
  | error =>
    simp only [arrived] at continued
    obtain ⟨rfl, rfl⟩ := continued
    simp
  | success =>
    simp only [arrived] at continued
    split at continued
    · next acknowledged =>
      obtain ⟨rfl, rfl⟩ := continued
      simp [acknowledged]
    · next other =>
      split at continued
      · next busy =>
        obtain ⟨rfl, rfl⟩ := continued
        rw [busy] at other
        simp [busy, other]
      · split at continued
        · next enquiry =>
          obtain ⟨rfl, rfl⟩ := continued
          rw [enquiry] at other
          simp [enquiry, other]
        · obtain ⟨rfl, rfl⟩ := continued
          simp [other]

theorem send_move {before after : SendConfig} {trace : List (Call × Response)}
    (step : sendMachine.Step before trace after) :
    ∃ state sending, before = .running state () sending ∧ SendMove sending state trace after := by
  obtain ⟨state, ⟨⟩, sending, rfl, handled⟩ := step
  obtain ⟨data, flow, returned, rfl⟩ := FiniteStateMachine.returns_handle.mp handled
  refine ⟨state, sending, rfl, ?_⟩
  change (sendHandler state () sending).Returns trace (data, flow) at returned
  cases state with
  | idle =>
    obtain ⟨event, ⟨rfl, same⟩, rfl⟩ := returns_once returned
    obtain ⟨rfl, rfl⟩ := Prod.mk.inj same
    exact .idle
  | enquiry =>
    obtain ⟨event, locked, rfl, rfl⟩ := returns_signal returned
    obtain ⟨reply, rfl, rfl⟩ := returns_passing locked
    exact .lock reply
  | reenquiry =>
    obtain ⟨flow', first, rest, rfl, handled, rfl, same⟩ := Program.returns_bind.mp returned
    obtain ⟨rfl, rfl⟩ := Prod.mk.inj same
    rw [List.append_nil]
    exact sendReenquiry_returns handled
  | ack =>
    obtain ⟨event, replied, rfl, rfl⟩ := returns_signal returned
    obtain ⟨reply, rfl, passes, busies, waits⟩ := sendAcknowledgement_returns replied
    cases event with
    | pass => exact .admitted (passes.mp rfl)
    | busy => exact .busy (busies rfl).1 (busies rfl).2
    | wait => exact .collided (waits rfl).1 (waits rfl).2
    | deny => exact .unanswered fun acknowledged => Event.noConfusion (passes.mpr acknowledged)
    | fail => exact .unanswered fun acknowledged => Event.noConfusion (passes.mpr acknowledged)
  | frame =>
    obtain ⟨event, sent, rfl, rfl⟩ := returns_signal returned
    unfold sendFrame at sent
    cases found : data.context.currentFrame with
    | none =>
      rw [found] at sent
      cases sent
    | some frame =>
      rw [found] at sent
      obtain ⟨written, rfl, ⟨accepted, rfl⟩ | ⟨refused, rfl⟩⟩ := returns_writing sent
      · exact .write found accepted
      · exact .writeFailed found refused
  | ack2 =>
    obtain ⟨event, replied, rfl, rfl⟩ := returns_signal returned
    obtain ⟨reply, rfl, passes, _⟩ := sendAcknowledgement_returns replied
    cases event with
    | pass => exact .confirmed (passes.mp rfl)
    | busy => exact .unconfirmed fun acknowledged => Event.noConfusion (passes.mpr acknowledged)
    | wait => exact .unconfirmed fun acknowledged => Event.noConfusion (passes.mpr acknowledged)
    | deny => exact .unconfirmed fun acknowledged => Event.noConfusion (passes.mpr acknowledged)
    | fail => exact .unconfirmed fun acknowledged => Event.noConfusion (passes.mpr acknowledged)
  | retry =>
    obtain ⟨event, retried, rfl⟩ := returns_once returned
    dsimp only [sendRetry] at retried
    by_cases left : sending.r2 + 1 < kMaxNumberOfSendAttempts
    · rw [if_pos left, Program.request_bind, Program.returns_call] at retried
      obtain ⟨unlocked, rest, rfl, retried⟩ := retried
      by_cases sixth : (sending.r2 + 1) % kSendAttemptsForPortReinit = 0
      · simp only [if_pos sixth, Program.request_bind, Program.returns_call] at retried
        obtain ⟨closed, rest, rfl, opened, rest', rfl, rfl, same⟩ := retried
        obtain ⟨rfl, rfl⟩ := Prod.mk.inj same
        exact .reinit unlocked closed opened left sixth
      · rw [if_neg sixth] at retried
        obtain ⟨rfl, rfl, rfl⟩ := Program.returns_pair.mp retried
        exact .retry unlocked left sixth
    · rw [if_neg left] at retried
      obtain ⟨rfl, rfl, rfl⟩ := Program.returns_pair.mp retried
      exact .exhausted left
  | nak =>
    obtain ⟨event, denied, rfl, rfl⟩ := returns_signal returned
    obtain ⟨written, rfl, ⟨accepted, rfl⟩ | ⟨refused, rfl⟩⟩ := returns_writing denied
    · exact .nak accepted
    · exact .nakFailed refused
  | wait =>
    obtain ⟨event, unlocked, rfl, rfl⟩ := returns_signal returned
    obtain ⟨reply, rfl, rfl⟩ := returns_passing unlocked
    exact .wait reply
  | done =>
    obtain ⟨event, decided, rfl⟩ := returns_once returned
    unfold sendDone at decided
    split at decided
    · next more =>
      obtain ⟨rfl, rfl, rfl⟩ := Program.returns_pair.mp decided
      exact .nextFrame more
    · next last =>
      obtain ⟨rfl, rfl, rfl⟩ := Program.returns_pair.mp decided
      exact .completed (Bool.eq_false_iff.mpr last)
  | error =>
    obtain ⟨event, decided, rfl⟩ := returns_once returned
    obtain ⟨rfl, rfl, rfl⟩ := Program.returns_pair.mp decided
    exact .error
  | «end» =>
    obtain ⟨event, unlocked, rfl, rfl⟩ := returns_signal returned
    obtain ⟨reply, rfl, rfl⟩ := returns_passing unlocked
    exact .finish reply

end Protocol
end CpuCom.Uart
