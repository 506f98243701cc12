import CpuCom.Interaction.StateMachine
import CpuCom.Uart.Frames

/-! The send machine of `Protocol`: its context, the handlers of its twelve
states and the registered transitions. Sleeping and logging are left out. -/

namespace CpuCom.Uart
open Interaction

inductive Event where
  | pass
  | busy
  | wait
  | deny
  | fail
deriving DecidableEq, Repr

/-- `SendContext`; `currentIndex` is `m_currentFrame`. -/
structure SendContext where
  frames : List Frame
  currentIndex : Nat
  result : Bool
deriving DecidableEq

namespace SendContext

def currentFrame (context : SendContext) : Option Frame := context.frames[context.currentIndex]?

def hasFramesToSend (context : SendContext) : Bool :=
  context.currentIndex < sub64 context.frames.length 1

theorem hasFramesToSend_iff {context : SendContext} (nonempty : context.frames ≠ [])
    (small : context.frames.length < 2 ^ 64) :
    context.hasFramesToSend = true ↔ context.currentIndex + 1 < context.frames.length := by
  have positive := List.length_pos_of_ne_nil nonempty
  rw [hasFramesToSend, decide_eq_true_iff, sub64_of_le positive small]
  omega

def onFrameCompleted (context : SendContext) : SendContext :=
  { context with currentIndex := context.currentIndex + 1 }

end SendContext

def sendContext (checksum : List UInt8 → UInt8) (data : List UInt8) : SendContext :=
  ⟨prepareFrames checksum data, 0, false⟩

inductive SendState where
  | idle
  | enquiry
  | reenquiry
  | ack
  | frame
  | ack2
  | retry
  | nak
  | wait
  | done
  | error
  | «end»
deriving DecidableEq, Repr

/-- What a send works on: the context and the attempt counter `m_r2`. -/
structure Sending where
  context : SendContext
  r2 : Nat
deriving DecidableEq

abbrev SendConfig := Config SendState Unit Sending

namespace Protocol

def sendIdle (sending : Sending) : CallProgram (Sending × Event) :=
  pure ({ sending with r2 := 0 }, .pass)

def sendEnquiry : CallProgram Event := do
  let _ ← Program.request .lock
  pure .pass

/-- One iteration of the loop that drains the line: it is entered again while
bytes arrive. -/
def sendReenquiry : CallProgram (Flow Unit Event) := do
  let drained ← Program.request (.read .immediate)
  match drained.result with
  | .success => pure (.again ())
  | .timeout =>
      let written ← Program.request (.writeByte ControlCode.enq)
      if written.result = .success then pure (.event .pass) else pure (.event .fail)
  | .error => pure (.event .fail)

def sendAcknowledgement : CallProgram Event := do
  let response ← Program.request (.read kTimeout3)
  match response.result with
  | .success =>
      if response.byte = ControlCode.ack then pure .pass
      else if response.byte = ControlCode.nak then pure .busy
      else if response.byte = ControlCode.enq then pure .wait
      else pure .deny
  | .timeout => pure .deny
  | .error => pure .fail

/-- `currentFrame` throws where the context has no frame of that index. -/
def sendFrame (sending : Sending) : CallProgram Event :=
  match sending.context.currentFrame with
  | none => .throw
  | some frame => do
      let response ← Program.request (.write frame)
      if response.result = .success then pure .pass else pure .fail

def sendAcknowledgement2 : CallProgram Event := sendAcknowledgement

def sendRetry (sending : Sending) : CallProgram (Sending × Event) :=
  let sending := { sending with r2 := sending.r2 + 1 }
  if sending.r2 < kMaxNumberOfSendAttempts then do
    let _ ← Program.request .unlock
    if sending.r2 % kSendAttemptsForPortReinit = 0 then
      let _ ← Program.request .close
      let _ ← Program.request .open
      pure (sending, .pass)
    else pure (sending, .pass)
  else pure (sending, .fail)

def sendNak : CallProgram Event := do
  let response ← Program.request (.writeByte ControlCode.nak)
  if response.result = .success then pure .pass else pure .fail

def sendWait : CallProgram Event := do
  let _ ← Program.request .unlock
  pure .pass

def sendDone (sending : Sending) : CallProgram (Sending × Event) :=
  if sending.context.hasFramesToSend then
    pure ({ sending with context := sending.context.onFrameCompleted }, .wait)
  else pure ({ sending with context.result := true }, .pass)

def sendError (sending : Sending) : CallProgram (Sending × Event) :=
  pure ({ sending with context.result := false }, .pass)

def sendEnd : CallProgram Event := do
  let _ ← Program.request .unlock
  pure .pass

/-- A handler without a loop that leaves its data as they are. -/
def signal {γ β : Type} (data : γ) (handler : CallProgram Event) : CallProgram (γ × Flow β Event) := do
  let event ← handler
  pure (data, .event event)

/-- A handler without a loop. -/
def once {γ β : Type} (handler : CallProgram (γ × Event)) : CallProgram (γ × Flow β Event) := do
  let result ← handler
  pure (result.1, .event result.2)

theorem returns_signal {γ β : Type} {data after : γ} {handler : CallProgram Event} {flow : Flow β Event}
    {trace : List (Call × Response)} (returned : (signal data handler).Returns trace (after, flow)) :
    ∃ event, handler.Returns trace event ∧ after = data ∧ flow = .event event := by
  obtain ⟨event, first, rest, rfl, handled, rfl, same⟩ := Program.returns_bind.mp returned
  rw [Prod.mk.injEq] at same
  exact ⟨event, by rwa [List.append_nil], same⟩

theorem returns_once {γ β : Type} {after : γ} {handler : CallProgram (γ × Event)} {flow : Flow β Event}
    {trace : List (Call × Response)} (returned : (once handler).Returns trace (after, flow)) :
    ∃ event, handler.Returns trace (after, event) ∧ flow = .event event := by
  obtain ⟨⟨data, event⟩, first, rest, rfl, handled, rfl, same⟩ := Program.returns_bind.mp returned
  rw [Prod.mk.injEq] at same
  obtain ⟨rfl, rfl⟩ := same
  exact ⟨event, by rwa [List.append_nil], rfl⟩

/-- The handlers that make one call, whose result decides between two events. -/
theorem returns_writing {call : Call} {trace : List (Call × Response)} {event : Event}
    (returned : (Program.request call >>= fun response : Response =>
      if response.result = .success then (pure .pass : CallProgram Event) else pure .fail).Returns trace event) :
    ∃ written, trace = [(call, written)] ∧
      (written.result = .success ∧ event = .pass ∨ written.result ≠ .success ∧ event = .fail) := by
  rw [Program.request_bind, Program.returns_call] at returned
  obtain ⟨written, rest, rfl, decided⟩ := returned
  split at decided
  · next accepted =>
    obtain ⟨rfl, rfl⟩ := decided
    exact ⟨written, rfl, .inl ⟨accepted, rfl⟩⟩
  · next refused =>
    obtain ⟨rfl, rfl⟩ := decided
    exact ⟨written, rfl, .inr ⟨refused, rfl⟩⟩

/-- The handlers that make one call and always pass. -/
theorem returns_passing {call : Call} {trace : List (Call × Response)} {event : Event}
    (returned : (Program.request call >>= fun _ : Response => (pure .pass : CallProgram Event)).Returns trace event) :
    ∃ reply, trace = [(call, reply)] ∧ event = .pass := by
  rw [Program.request_bind, Program.returns_call] at returned
  obtain ⟨reply, rest, rfl, rfl, rfl⟩ := returned
  exact ⟨reply, rfl, rfl⟩

def sendHandler : SendState → Unit → Sending → CallProgram (Sending × Flow Unit Event)
  | .idle, _, sending => once (sendIdle sending)
  | .enquiry, _, sending => signal sending sendEnquiry
  | .reenquiry, _, sending => do
      let flow ← sendReenquiry
      pure (sending, flow)
  | .ack, _, sending => signal sending sendAcknowledgement
  | .frame, _, sending => signal sending (sendFrame sending)
  | .ack2, _, sending => signal sending sendAcknowledgement2
  | .retry, _, sending => once (sendRetry sending)
  | .nak, _, sending => signal sending sendNak
  | .wait, _, sending => signal sending sendWait
  | .done, _, sending => once (sendDone sending)
  | .error, _, sending => once (sendError sending)
  | .end, _, sending => signal sending sendEnd

/-- The registered transitions. None is registered for the final state, and the
machine never asks for one. -/
def sendTransition : SendState → Event → SendState
  | .idle, .pass => .enquiry
  | .idle, _ => .retry
  | .enquiry, .pass => .reenquiry
  | .enquiry, _ => .retry
  | .reenquiry, .pass => .ack
  | .reenquiry, .wait => .nak
  | .reenquiry, _ => .retry
  | .ack, .pass => .frame
  | .ack, .busy => .reenquiry
  | .ack, .wait => .nak
  | .ack, _ => .retry
  | .frame, .pass => .ack2
  | .frame, _ => .retry
  | .ack2, .pass => .done
  | .ack2, _ => .retry
  | .retry, .pass => .enquiry
  | .retry, .fail => .error
  | .retry, _ => .retry
  | .nak, .pass => .wait
  | .nak, _ => .retry
  | .wait, .pass => .enquiry
  | .wait, _ => .retry
  | .done, .wait => .reenquiry
  | .done, _ => .end
  | .error, _ => .end
  | .end, _ => .end

def sendMachine : FiniteStateMachine SendState Event Unit Call Response Sending where
  initialState := .idle
  finalState := .end
  enter := ()
  handler := sendHandler
  transition := sendTransition

/-- A send begins with the frames of its message and whatever count the last send
left behind. -/
def sendStart (checksum : List UInt8 → UInt8) (data : List UInt8) (r2 : Nat) : SendConfig :=
  sendMachine.start ⟨sendContext checksum data, r2⟩

end Protocol
end CpuCom.Uart
