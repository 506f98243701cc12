import CpuCom.Uart.RecvMachine

/-! What one step of the receive machine can do: the calls of each state, the
replies that select a branch, and the configuration that follows. -/

namespace CpuCom.Uart
open Interaction

def Call.leaves (reply : Response) : Call → List UInt8
  | .readMulti size _ => reply.fill size
  | _ => []

/-- The states that read one part of a frame each, two of them only in some forms. -/
def RecvContext.reads (context : RecvContext) : RecvState → Prop
  | .stx => True
  | .len => True
  | .datacmd => True
  | .dataextlen => context.transmitionType ≠ .regular
  | .dataframenumber => context.transmitionType = .extendedLengthWithFrameDivision
  | .data => True
  | .etx => True
  | .cs => True
  | _ => False

/-- The frame just stored completes the message. -/
def RecvContext.Whole (context : RecvContext) : Prop :=
  context.transmitionType = .regular ∨ context.transmitionType = .extendedLength ∨
    context.transmitionType = .extendedLengthWithFrameDivision ∧ context.frameNumber = sub32 context.totalFrames 1

namespace Protocol
variable (checksum : List UInt8 → UInt8)

def Expected (context : RecvContext) (reply : Response) : RecvState → Prop
  | .stx => reply.byte = ControlCode.stx
  | .len => reply.byte = ControlCode.extLen ∨ kMinFrameLength ≤ reply.byte.toNat ∧ reply.byte.toNat ≤ kMaxFrameLength
  | .etx => reply.byte = ControlCode.etx
  | .cs => reply.byte = checksum (context.currentFrame.drop 1)
  | _ => True

/-- Why a read is answered with a NAK: nothing came, or something else than expected,
and in the last state also after an error. -/
def Denied (context : RecvContext) (state : RecvState) (reply : Response) : Prop :=
  reply.result = .timeout ∨ reply.result = .success ∧ ¬ Expected checksum context reply state ∨
    state = .cs ∧ reply.result = .error

def frameCall (context : RecvContext) : RecvState → Call
  | .stx => .read kTimeout3
  | .datacmd => .readMulti kCmdLength kTimeout4
  | .dataextlen => .readMulti kExtLenLength kTimeout4
  | .dataframenumber => .readMulti (kFrameNumberLength + kTotalFramesLength) kTimeout4
  | .data => .readMulti (dataSize context) kTimeout4
  | .etx => .read kTimeout3
  | _ => .read kTimeout4

inductive RecvMove (context : RecvContext) (r1 : Nat) :
    RecvState → Option UInt8 → List (Call × Response) → RecvConfig → Prop where
  | idle {loop} : RecvMove context r1 .idle loop [] (.running .poll none ⟨context, 0⟩)
  | polled {loop ready} (locked) (arrived : ready.result = .success) :
      RecvMove context r1 .poll loop [(.poll .infinite, ready), (.lock, locked)] (.running .enquiry none ⟨context, r1⟩)
  | pollFailed {loop ready} (failed : ready.result ≠ .success) :
      RecvMove context r1 .poll loop [(.poll .infinite, ready)] (.running .error none ⟨context, r1⟩)
  | repoll {loop} (unlocked) :
      RecvMove context r1 .repoll loop [(.unlock, unlocked)] (.running .poll none ⟨context, r1⟩)
  | enquiryByte {loop reply} (arrived : reply.result = .success) :
      RecvMove context r1 .enquiry loop [(.read .immediate, reply)]
        (.running .enquiry (some reply.byte) ⟨context, r1⟩)
  | enquired {reply} (quiet : reply.result = .timeout) :
      RecvMove context r1 .enquiry (some ControlCode.enq) [(.read .immediate, reply)]
        (.running .ack none ⟨context, r1⟩)
  | unasked {loop reply} (quiet : reply.result = .timeout) (nothing : loop = none ∨ loop = some ControlCode.nak) :
      RecvMove context r1 .enquiry loop [(.read .immediate, reply)] (.running .repoll none ⟨context, r1⟩)
  | strange {byte reply} (quiet : reply.result = .timeout) (notEnquiry : byte ≠ ControlCode.enq)
      (notDenial : byte ≠ ControlCode.nak) :
      RecvMove context r1 .enquiry (some byte) [(.read .immediate, reply)] (.running .retry none ⟨context, r1⟩)
  | enquiryFailed {loop reply} (failed : reply.result = .error) :
      RecvMove context r1 .enquiry loop [(.read .immediate, reply)] (.running .error none ⟨context, r1⟩)
  | ack {loop written} (accepted : written.result = .success) :
      RecvMove context r1 .ack loop [(.writeByte ControlCode.ack, written)] (.running .stx none ⟨context, r1⟩)
  | ackFailed {loop written} (refused : written.result ≠ .success) :
      RecvMove context r1 .ack loop [(.writeByte ControlCode.ack, written)] (.running .error none ⟨context, r1⟩)
  | stx {loop reply} (arrived : reply.result = .success) (code : reply.byte = ControlCode.stx) :
      RecvMove context r1 .stx loop [(.read kTimeout3, reply)] (.running .len none ⟨context.store [reply.byte], r1⟩)
  | lenExtended {loop reply} (arrived : reply.result = .success) (code : reply.byte = ControlCode.extLen) :
      RecvMove context r1 .len loop [(.read kTimeout4, reply)]
        (.running .datacmd none ⟨context.store [reply.byte], r1⟩)
  | lenRegular {loop reply} (arrived : reply.result = .success) (other : reply.byte ≠ ControlCode.extLen)
      (atLeast : kMinFrameLength ≤ reply.byte.toNat) (atMost : reply.byte.toNat ≤ kMaxFrameLength) :
      RecvMove context r1 .len loop [(.read kTimeout4, reply)]
        (.running .datacmd none ⟨{ context.store [reply.byte] with
          transmitionType := .regular, dataLength := reply.byte.toNat - kFrameFooterLength }, r1⟩)
  | datacmd {loop reply} (arrived : reply.result = .success) :
      RecvMove context r1 .datacmd loop [(.readMulti kCmdLength kTimeout4, reply)]
        (.running .dataextlen none ⟨context.store (reply.fill kCmdLength), r1⟩)
  | dataextlen {loop reply} (extended : context.transmitionType ≠ .regular) (arrived : reply.result = .success) :
      RecvMove context r1 .dataextlen loop [(.readMulti kExtLenLength kTimeout4, reply)]
        (.running .dataframenumber none
          ⟨(context.store (reply.fill kExtLenLength)).setExtendedLength (decode24 (reply.fill kExtLenLength)), r1⟩)
  | dataextlenSkipped {loop} (regular : context.transmitionType = .regular) :
      RecvMove context r1 .dataextlen loop [] (.running .dataframenumber none ⟨context, r1⟩)
  | dataframenumber {loop reply} (divided : context.transmitionType = .extendedLengthWithFrameDivision)
      (arrived : reply.result = .success) :
      RecvMove context r1 .dataframenumber loop
        [(.readMulti (kFrameNumberLength + kTotalFramesLength) kTimeout4, reply)]
        (.running .data none ⟨{ context.store (reply.fill (kFrameNumberLength + kTotalFramesLength)) with
          totalFrames := decode16 ((reply.fill (kFrameNumberLength + kTotalFramesLength)).drop 2)
          frameNumber := decode16 (reply.fill (kFrameNumberLength + kTotalFramesLength)) }, r1⟩)
  | dataframenumberSkipped {loop} (undivided : context.transmitionType ≠ .extendedLengthWithFrameDivision) :
      RecvMove context r1 .dataframenumber loop [] (.running .data none ⟨context, r1⟩)
  | data {loop reply} (arrived : reply.result = .success) :
      RecvMove context r1 .data loop [(.readMulti (dataSize context) kTimeout4, reply)]
        (.running .etx none ⟨context.store (reply.fill (dataSize context)), r1⟩)
  | etx {loop reply} (arrived : reply.result = .success) (code : reply.byte = ControlCode.etx) :
      RecvMove context r1 .etx loop [(.read kTimeout3, reply)] (.running .cs none ⟨context.store [reply.byte], r1⟩)
  | cs {loop reply} (arrived : reply.result = .success)
      (right : reply.byte = checksum (context.currentFrame.drop 1)) :
      RecvMove context r1 .cs loop [(.read kTimeout4, reply)] (.running .ack2 none ⟨context.store [reply.byte], r1⟩)
  | rejected {state loop reply} (reads : context.reads state) (denied : Denied checksum context state reply) :
      RecvMove context r1 state loop [(frameCall context state, reply)]
        (.running .nak none ⟨context.store ((frameCall context state).leaves reply), r1⟩)
  | failed {state loop reply} (reads : context.reads state) (notLast : state ≠ .cs)
      (failed : reply.result = .error) :
      RecvMove context r1 state loop [(frameCall context state, reply)]
        (.running .error none ⟨context.store ((frameCall context state).leaves reply), r1⟩)
  | ack2 {loop written} (accepted : written.result = .success) :
      RecvMove context r1 .ack2 loop [(.writeByte ControlCode.ack, written)] (.running .done none ⟨context, r1⟩)
  | ack2Failed {loop written} (refused : written.result ≠ .success) :
      RecvMove context r1 .ack2 loop [(.writeByte ControlCode.ack, written)] (.running .error none ⟨context, r1⟩)
  | nak {loop written} (accepted : written.result = .success) :
      RecvMove context r1 .nak loop [(.writeByte ControlCode.nak, written)] (.running .retry none ⟨context, r1⟩)
  | nakFailed {loop written} (refused : written.result ≠ .success) :
      RecvMove context r1 .nak loop [(.writeByte ControlCode.nak, written)] (.running .error none ⟨context, r1⟩)
  | retry {loop} (left : r1 + 1 < kMaxNumberOfRecvAttempts) :
      RecvMove context r1 .retry loop [] (.running .repoll none ⟨{ context with currentFrame := [] }, r1 + 1⟩)
  | exhausted {loop} (spent : ¬ r1 + 1 < kMaxNumberOfRecvAttempts) :
      RecvMove context r1 .retry loop [] (.running .error none ⟨{ context with currentFrame := [] }, r1 + 1⟩)
  | whole {loop} (whole : context.Whole) :
      RecvMove context r1 .done loop [] (.running .end none ⟨{ context with result := true }, r1⟩)
  | piece {loop} (divided : context.transmitionType = .extendedLengthWithFrameDivision)
      (more : context.frameNumber ≠ sub32 context.totalFrames 1) :
      RecvMove context r1 .done loop [] (.running .enquiry none ⟨context.onFrameCompleted, r1⟩)
  | undefined {loop} (unset : context.transmitionType = .notDefinedYet) :
      RecvMove context r1 .done loop [] (.running .end none ⟨context, r1⟩)
  | error {loop} : RecvMove context r1 .error loop [] (.running .end none ⟨{ context with result := false }, r1⟩)
  | finish {loop} (unlocked) : RecvMove context r1 .end loop [(.unlock, unlocked)] (.ended ⟨context, r1⟩)

variable {checksum} {context : RecvContext} {r1 : Nat} {state : RecvState} {loop : Option UInt8} {reply : Response}

private theorem RecvMove.denied (reads : context.reads state) (single : (frameCall context state).leaves reply = [])
    (denied : Denied checksum context state reply) :
    RecvMove checksum context r1 state loop [(frameCall context state, reply)] (.running .nak none ⟨context, r1⟩) := by
  have move := @RecvMove.rejected checksum context r1 state loop reply reads denied
  rwa [single, RecvContext.store_nil] at move

private theorem RecvMove.broken (reads : context.reads state) (single : (frameCall context state).leaves reply = [])
    (notLast : state ≠ .cs) (failed : reply.result = .error) :
    RecvMove checksum context r1 state loop [(frameCall context state, reply)]
      (.running .error none ⟨context, r1⟩) := by
  have move := @RecvMove.failed checksum context r1 state loop reply reads notLast failed
  rwa [single, RecvContext.store_nil] at move

private theorem recvEnquiry_returns {trace : List (Call × Response)} {flow : Flow (Option UInt8) Event}
    (returned : (recvEnquiry loop).Returns trace flow) :
    RecvMove checksum context r1 .enquiry loop trace ((recvMachine checksum).follow .enquiry ⟨context, r1⟩ flow) := by
  cases loop with
  | none =>
    rw [recvEnquiry, Program.request_bind, Program.returns_call] at returned
    obtain ⟨reply, rest, rfl, continued⟩ := returned
    cases arrived : reply.result with
    | success =>
      simp only [arrived] at continued
      obtain ⟨rfl, rfl⟩ := continued
      exact .enquiryByte arrived
    | timeout =>
      simp only [arrived] at continued
      obtain ⟨rfl, rfl⟩ := continued
      exact .unasked arrived (.inl rfl)
    | error =>
      simp only [arrived] at continued
      obtain ⟨rfl, rfl⟩ := continued
      exact .enquiryFailed arrived
  | some byte =>
    rw [recvEnquiry, Program.request_bind, Program.returns_call] at returned
    obtain ⟨reply, rest, rfl, continued⟩ := returned
    cases arrived : reply.result with
    | success =>
      simp only [arrived] at continued
      obtain ⟨rfl, rfl⟩ := continued
      exact .enquiryByte arrived
    | error =>
      simp only [arrived] at continued
      obtain ⟨rfl, rfl⟩ := continued
      exact .enquiryFailed arrived
    | timeout =>
      simp only [arrived] at continued
      split at continued
      · next enquiry =>
        obtain ⟨rfl, rfl⟩ := continued
        subst enquiry
        exact .enquired arrived
      · next notEnquiry =>
        split at continued
        · next denial =>
          obtain ⟨rfl, rfl⟩ := continued
          exact .unasked arrived (.inr (congrArg some denial))
        · next notDenial =>
          obtain ⟨rfl, rfl⟩ := continued
          exact .strange arrived notEnquiry notDenial

/-- A read of one byte, which is stored where it is the expected one. -/
private theorem recvControlCode_returns {code : UInt8} {after : RecvContext} {event : Event}
    {trace : List (Call × Response)} (returned : (recvControlCode code context).Returns trace (after, event)) :
    ∃ reply, trace = [(.read kTimeout3, reply)] ∧
      (reply.result = .success ∧ reply.byte = code ∧ after = context.store [reply.byte] ∧ event = .pass ∨
        (reply.result = .timeout ∨ reply.result = .success ∧ reply.byte ≠ code) ∧ after = context ∧ event = .deny ∨
        reply.result = .error ∧ after = context ∧ event = .fail) := by
  rw [recvControlCode, Program.request_bind, Program.returns_call] at returned
  obtain ⟨reply, rest, rfl, continued⟩ := returned
  refine ⟨reply, ?_⟩
  cases arrived : reply.result with
  | timeout =>
    simp only [arrived] at continued
    obtain ⟨rfl, rfl, rfl⟩ := Program.returns_pair.mp continued
    simp
  | error =>
    simp only [arrived] at continued
    obtain ⟨rfl, rfl, rfl⟩ := Program.returns_pair.mp continued
    simp
  | success =>
    simp only [arrived] at continued
    split at continued
    · next expected =>
      obtain ⟨rfl, rfl, rfl⟩ := Program.returns_pair.mp continued
      simp [expected]
    · next other =>
      obtain ⟨rfl, rfl, rfl⟩ := Program.returns_pair.mp continued
      simp [other]

private theorem recvLength_returns {after : RecvContext} {event : Event} {trace : List (Call × Response)}
    (returned : (recvLength context).Returns trace (after, event)) :
    RecvMove checksum context r1 .len loop trace
      ((recvMachine checksum).follow .len ⟨after, r1⟩ (.event event)) := by
  rw [recvLength, Program.request_bind, Program.returns_call] at returned
  obtain ⟨reply, rest, rfl, continued⟩ := returned
  cases arrived : reply.result with
  | timeout =>
    simp only [arrived] at continued
    obtain ⟨rfl, rfl, rfl⟩ := Program.returns_pair.mp continued
    exact .denied trivial rfl (.inl arrived)
  | error =>
    simp only [arrived] at continued
    obtain ⟨rfl, rfl, rfl⟩ := Program.returns_pair.mp continued
    exact .broken trivial rfl RecvState.noConfusion arrived
  | success =>
    simp only [arrived] at continued
    split at continued
    · next extended =>
      obtain ⟨rfl, rfl, rfl⟩ := Program.returns_pair.mp continued
      exact .lenExtended arrived extended
    · next other =>
      split at continued
      · next limits =>
        obtain ⟨rfl, rfl, rfl⟩ := Program.returns_pair.mp continued
        exact .lenRegular arrived other limits.1 limits.2
      · next limits =>
        obtain ⟨rfl, rfl, rfl⟩ := Program.returns_pair.mp continued
        refine .denied trivial rfl (.inr (.inl ⟨arrived, ?_⟩))
        intro expected
        rcases expected with extended | inside
        · exact other extended
        · exact limits inside

private theorem recvDataExtLen_returns {after : RecvContext} {event : Event} {trace : List (Call × Response)}
    (returned : (recvDataExtLen context).Returns trace (after, event)) :
    RecvMove checksum context r1 .dataextlen loop trace
      ((recvMachine checksum).follow .dataextlen ⟨after, r1⟩ (.event event)) := by
  by_cases regular : context.transmitionType = .regular
  · rw [recvDataExtLen, if_neg (not_not.mpr regular)] at returned
    obtain ⟨rfl, rfl, rfl⟩ := Program.returns_pair.mp returned
    exact .dataextlenSkipped regular
  · rw [recvDataExtLen, if_pos regular, Program.request_bind, Program.returns_call] at returned
    obtain ⟨reply, rest, rfl, continued⟩ := returned
    cases arrived : reply.result with
    | success =>
      simp only [arrived] at continued
      obtain ⟨rfl, rfl, rfl⟩ := Program.returns_pair.mp continued
      exact .dataextlen regular arrived
    | timeout =>
      simp only [arrived] at continued
      obtain ⟨rfl, rfl, rfl⟩ := Program.returns_pair.mp continued
      exact .rejected regular (.inl arrived)
    | error =>
      simp only [arrived] at continued
      obtain ⟨rfl, rfl, rfl⟩ := Program.returns_pair.mp continued
      exact .failed regular RecvState.noConfusion arrived

private theorem recvDataFrameNumber_returns {after : RecvContext} {event : Event} {trace : List (Call × Response)}
    (returned : (recvDataFrameNumber context).Returns trace (after, event)) :
    RecvMove checksum context r1 .dataframenumber loop trace
      ((recvMachine checksum).follow .dataframenumber ⟨after, r1⟩ (.event event)) := by
  by_cases divided : context.transmitionType = .extendedLengthWithFrameDivision
  · rw [recvDataFrameNumber, if_pos divided, Program.request_bind, Program.returns_call] at returned
    obtain ⟨reply, rest, rfl, continued⟩ := returned
    cases arrived : reply.result with
    | success =>
      simp only [arrived] at continued
      obtain ⟨rfl, rfl, rfl⟩ := Program.returns_pair.mp continued
      exact .dataframenumber divided arrived
    | timeout =>
      simp only [arrived] at continued
      obtain ⟨rfl, rfl, rfl⟩ := Program.returns_pair.mp continued
      exact .rejected divided (.inl arrived)
    | error =>
      simp only [arrived] at continued
      obtain ⟨rfl, rfl, rfl⟩ := Program.returns_pair.mp continued
      exact .failed divided RecvState.noConfusion arrived
  · rw [recvDataFrameNumber, if_neg divided] at returned
    obtain ⟨rfl, rfl, rfl⟩ := Program.returns_pair.mp returned
    exact .dataframenumberSkipped divided

private theorem recvChecksum_returns {after : RecvContext} {event : Event} {trace : List (Call × Response)}
    (returned : (recvChecksum checksum context).Returns trace (after, event)) :
    RecvMove checksum context r1 .cs loop trace
      ((recvMachine checksum).follow .cs ⟨after, r1⟩ (.event event)) := by
  dsimp only [recvChecksum] at returned
  rw [Program.request_bind, Program.returns_call] at returned
  obtain ⟨reply, rest, rfl, continued⟩ := returned
  cases arrived : reply.result with
  | timeout =>
    simp only [arrived] at continued
    obtain ⟨rfl, rfl, rfl⟩ := Program.returns_pair.mp continued
    exact .denied trivial rfl (.inl arrived)
  | error =>
    simp only [arrived] at continued
    obtain ⟨rfl, rfl, rfl⟩ := Program.returns_pair.mp continued
    exact .denied trivial rfl (.inr (.inr ⟨rfl, arrived⟩))
  | success =>
    simp only [arrived] at continued
    split at continued
    · next right =>
      obtain ⟨rfl, rfl, rfl⟩ := Program.returns_pair.mp continued
      exact .cs arrived right
    · next wrong =>
      obtain ⟨rfl, rfl, rfl⟩ := Program.returns_pair.mp continued
      exact .denied trivial rfl (.inr (.inl ⟨arrived, wrong⟩))

/-- The bytes of a read of several bytes are stored whatever its result. -/
private theorem returns_storing {size : Nat} {after : RecvContext} {event : Event} {trace : List (Call × Response)}
    (returned : (Program.request (.readMulti size kTimeout4) >>= fun response : Response =>
      (pure (context.store (response.fill size), response.result.event) : CallProgram (RecvContext × Event))).Returns
        trace (after, event)) :
    ∃ reply, trace = [(.readMulti size kTimeout4, reply)] ∧ after = context.store (reply.fill size) ∧
      event = reply.result.event := by
  rw [Program.request_bind, Program.returns_call] at returned
  obtain ⟨reply, rest, rfl, rfl, same⟩ := returned
  obtain ⟨rfl, rfl⟩ := Prod.mk.inj same
  exact ⟨reply, rfl, rfl, rfl⟩

theorem recv_move {before after : RecvConfig} {trace : List (Call × Response)}
    (step : (recvMachine checksum).Step before trace after) :
    ∃ state loop context r1, before = .running state loop ⟨context, r1⟩ ∧
      RecvMove checksum context r1 state loop trace after := by
  obtain ⟨state, loop, ⟨context, r1⟩, rfl, handled⟩ := step
  obtain ⟨data, flow, returned, rfl⟩ := FiniteStateMachine.returns_handle.mp handled
  refine ⟨state, loop, context, r1, rfl, ?_⟩
  change (recvHandler checksum state loop ⟨context, r1⟩).Returns trace (data, flow) at returned
  cases state with
  | idle =>
    obtain ⟨event, decided, rfl⟩ := returns_once returned
    obtain ⟨rfl, rfl, rfl⟩ := Program.returns_pair.mp decided
    exact .idle
  | poll =>
    obtain ⟨event, polled, rfl, rfl⟩ := returns_signal returned
    rw [recvPoll, Program.request_bind, Program.returns_call] at polled
    obtain ⟨ready, rest, rfl, polled⟩ := polled
    split at polled
    · next arrived =>
      rw [Program.request_bind, Program.returns_call] at polled
      obtain ⟨locked, rest, rfl, rfl, rfl⟩ := polled
      exact .polled locked arrived
    · next failed =>
      obtain ⟨rfl, rfl⟩ := polled
      exact .pollFailed failed
  | repoll =>
    obtain ⟨event, unlocked, rfl, rfl⟩ := returns_signal returned
    obtain ⟨reply, rfl, rfl⟩ := returns_passing unlocked
    exact .repoll reply
  | enquiry =>
    obtain ⟨flow', first, rest, rfl, handled, rfl, same⟩ := Program.returns_bind.mp returned
    obtain ⟨rfl, rfl⟩ := Prod.mk.inj same
    rw [List.append_nil]
    exact recvEnquiry_returns handled
  | ack =>
    obtain ⟨event, answered, rfl, rfl⟩ := returns_signal returned
    obtain ⟨written, rfl, ⟨accepted, rfl⟩ | ⟨refused, rfl⟩⟩ := returns_writing answered
    · exact .ack accepted
    · exact .ackFailed refused
  | stx =>
    obtain ⟨after, event, read, rfl, rfl⟩ := returns_onContext returned
    obtain ⟨reply, rfl, ⟨arrived, code, rfl, rfl⟩ | ⟨denied, rfl, rfl⟩ | ⟨failed, rfl, rfl⟩⟩ :=
      recvControlCode_returns read
    · exact .stx arrived code
    · exact .denied trivial rfl (denied.imp_right .inl)
    · exact .broken trivial rfl RecvState.noConfusion failed
  | len =>
    obtain ⟨after, event, read, rfl, rfl⟩ := returns_onContext returned
    exact recvLength_returns read
  | datacmd =>
    obtain ⟨after, event, read, rfl, rfl⟩ := returns_onContext returned
    obtain ⟨reply, rfl, rfl, rfl⟩ := returns_storing read
    cases arrived : reply.result with
    | success => exact .datacmd arrived
    | timeout => exact .rejected trivial (.inl arrived)
    | error => exact .failed trivial RecvState.noConfusion arrived
  | dataextlen =>
    obtain ⟨after, event, read, rfl, rfl⟩ := returns_onContext returned
    exact recvDataExtLen_returns read
  | dataframenumber =>
    obtain ⟨after, event, read, rfl, rfl⟩ := returns_onContext returned
    exact recvDataFrameNumber_returns read
  | data =>
    obtain ⟨after, event, read, rfl, rfl⟩ := returns_onContext returned
    obtain ⟨reply, rfl, rfl, rfl⟩ := returns_storing read
    cases arrived : reply.result with
    | success => exact .data arrived
    | timeout => exact .rejected trivial (.inl arrived)
    | error => exact .failed trivial RecvState.noConfusion arrived
  | etx =>
    obtain ⟨after, event, read, rfl, rfl⟩ := returns_onContext returned
    obtain ⟨reply, rfl, ⟨arrived, code, rfl, rfl⟩ | ⟨denied, rfl, rfl⟩ | ⟨failed, rfl, rfl⟩⟩ :=
      recvControlCode_returns read
    · exact .etx arrived code
    · exact .denied trivial rfl (denied.imp_right .inl)
    · exact .broken trivial rfl RecvState.noConfusion failed
  | cs =>
    obtain ⟨after, event, read, rfl, rfl⟩ := returns_onContext returned
    exact recvChecksum_returns read
  | ack2 =>
    obtain ⟨event, answered, rfl, rfl⟩ := returns_signal returned
    obtain ⟨written, rfl, ⟨accepted, rfl⟩ | ⟨refused, rfl⟩⟩ := returns_writing answered
    · exact .ack2 accepted
    · exact .ack2Failed refused
  | nak =>
    obtain ⟨event, denied, rfl, rfl⟩ := returns_signal returned
    obtain ⟨written, rfl, ⟨accepted, rfl⟩ | ⟨refused, rfl⟩⟩ := returns_writing denied
    · exact .nak accepted
    · exact .nakFailed refused
  | retry =>
    obtain ⟨event, retried, rfl⟩ := returns_once returned
    dsimp only [recvRetry] at retried
    split at retried
    · next left =>
      obtain ⟨rfl, rfl, rfl⟩ := Program.returns_pair.mp retried
      exact .retry left
    · next spent =>
      obtain ⟨rfl, rfl, rfl⟩ := Program.returns_pair.mp retried
      exact .exhausted spent
  | done =>
    obtain ⟨after, event, decided, rfl, rfl⟩ := returns_onContext returned
    unfold recvDone at decided
    split at decided
    · next type =>
      obtain ⟨rfl, rfl, rfl⟩ := Program.returns_pair.mp decided
      exact .whole (.inl type)
    · next type =>
      obtain ⟨rfl, rfl, rfl⟩ := Program.returns_pair.mp decided
      exact .whole (.inr (.inl type))
    · next type =>
      split at decided
      · next last =>
        obtain ⟨rfl, rfl, rfl⟩ := Program.returns_pair.mp decided
        exact .whole (.inr (.inr ⟨type, last⟩))
      · next more =>
        obtain ⟨rfl, rfl, rfl⟩ := Program.returns_pair.mp decided
        exact .piece type more
    · next type =>
      obtain ⟨rfl, rfl, rfl⟩ := Program.returns_pair.mp decided
      exact .undefined type
  | error =>
    obtain ⟨after, event, decided, rfl, rfl⟩ := returns_onContext returned
    obtain ⟨rfl, rfl, rfl⟩ := Program.returns_pair.mp decided
    exact .error
  | «end» =>
    obtain ⟨event, unlocked, rfl, rfl⟩ := returns_signal returned
    obtain ⟨reply, rfl, rfl⟩ := returns_passing unlocked
    exact .finish reply

/-- The states behind the length fields, which set the form of the frame. -/
def classified : RecvState → Bool
  | .dataframenumber | .data | .etx | .cs | .ack2 | .done => true
  | _ => false

def Typed : RecvConfig → Prop
  | .running state _ receiving => classified state = true → receiving.context.transmitionType ≠ .notDefinedYet
  | .ended _ => True

theorem typed_step {before after : RecvConfig} {trace : List (Call × Response)} (typed : Typed before)
    (step : (recvMachine checksum).Step before trace after) : Typed after := by
  obtain ⟨state, loop, context, r1, rfl, move⟩ := recv_move step
  cases move with
  | dataextlen extended arrived =>
    intro _
    dsimp only [RecvContext.setExtendedLength]
    split
    · exact TransmitionType.noConfusion
    · exact TransmitionType.noConfusion
  | dataextlenSkipped regular =>
    intro _
    rw [regular]
    exact TransmitionType.noConfusion
  | dataframenumber divided arrived => exact typed
  | dataframenumberSkipped undivided => exact typed
  | data arrived => exact typed
  | etx arrived code => exact typed
  | cs arrived right => exact typed
  | ack2 accepted => exact typed
  | finish unlocked => trivial
  | _ => exact Bool.noConfusion

theorem completedFrames_kept {before after : RecvConfig} {trace : List (Call × Response)}
    (run : (recvMachine checksum).Runs before trace after) :
    before.data.context.completedFrames <+: after.data.context.completedFrames := by
  apply run.invariant
  · exact List.prefix_rfl
  · intro trace middle more after kept step _
    obtain ⟨state, loop, context, r1, rfl, move⟩ := recv_move step
    cases move with
    | piece divided more => exact kept.trans (List.prefix_append _ _)
    | _ => exact kept

end Protocol
end CpuCom.Uart
