import CpuCom.Interaction.Script
import CpuCom.Proofs.FrameLayout
import CpuCom.Proofs.SendSteps

/-! The order in which a send writes its frames. The calls of any run fall into one
block for each acknowledged frame and a rest in which the next frame is tried. -/

namespace CpuCom.Uart.Protocol
open Interaction FiniteStateMachine

def Drained (calls : List (Call × Response)) : Prop :=
  ∀ call ∈ calls, call.1 = .read .immediate ∧ call.2.result = .success

def Enquired (calls : List (Call × Response)) : Prop :=
  ∃ drained silent written, Drained drained ∧ silent.result = .timeout ∧ written.result = .success ∧
    calls = drained ++ [(.read .immediate, silent), (.writeByte ControlCode.enq, written)]

def Admitted (calls : List (Call × Response)) : Prop :=
  ∃ enquired reply, Enquired enquired ∧ reply.Acknowledges ∧ calls = enquired ++ [(.read kTimeout3, reply)]

def Written (frame : Frame) (calls : List (Call × Response)) : Prop :=
  ∃ admitted written, Admitted admitted ∧ written.result = .success ∧ calls = admitted ++ [(.write frame, written)]

/-- Reads until a timeout, an enquiry, its acknowledgement, the frame, and the
acknowledgement of the frame, each successful and with nothing between them. -/
def Exchanged (frame : Frame) (calls : List (Call × Response)) : Prop :=
  ∃ written reply, Written frame written ∧ reply.Acknowledges ∧ calls = written ++ [(.read kTimeout3, reply)]

def WritesOnly (frame : Option Frame) (calls : List (Call × Response)) : Prop :=
  ∀ bytes response, (.write bytes, response) ∈ calls → frame = some bytes

/-- The calls consist of one block for each frame sent, in which only that frame is
written and which ends with its exchange, and a rest that writes only the current
frame. -/
inductive Acknowledged : List Frame → Option Frame → List (Call × Response) → Prop where
  | first {current attempts} (only : WritesOnly current attempts) : Acknowledged [] current attempts
  | next {sent frame current calls exchange attempts} (earlier : Acknowledged sent (some frame) calls)
      (exchanged : Exchanged frame exchange) (only : WritesOnly current attempts) :
      Acknowledged (sent ++ [frame]) current (calls ++ exchange ++ attempts)

theorem WritesOnly.append {current : Option Frame} {first rest : List (Call × Response)}
    (one : WritesOnly current first) (two : WritesOnly current rest) : WritesOnly current (first ++ rest) := by
  intro bytes response member
  rcases List.mem_append.mp member with member | member
  · exact one bytes response member
  · exact two bytes response member

theorem Acknowledged.append {sent : List Frame} {current : Option Frame} {calls more : List (Call × Response)}
    (acknowledged : Acknowledged sent current calls) (only : WritesOnly current more) :
    Acknowledged sent current (calls ++ more) := by
  cases acknowledged with
  | first attempts => exact .first (attempts.append only)
  | next earlier exchanged attempts =>
    rw [List.append_assoc]
    exact .next earlier exchanged (attempts.append only)

theorem Drained.writesOnly {calls : List (Call × Response)} (drained : Drained calls) (current : Option Frame) :
    WritesOnly current calls := by
  intro bytes response member
  obtain ⟨same, _⟩ := drained _ member
  cases same

theorem Enquired.writesOnly {calls : List (Call × Response)} (enquired : Enquired calls) (current : Option Frame) :
    WritesOnly current calls := by
  obtain ⟨drained, silent, written, reads, _, _, rfl⟩ := enquired
  exact (reads.writesOnly current).append (by simp [WritesOnly])

theorem Admitted.writesOnly {calls : List (Call × Response)} (admitted : Admitted calls) (current : Option Frame) :
    WritesOnly current calls := by
  obtain ⟨enquired, reply, asked, _, rfl⟩ := admitted
  exact (asked.writesOnly current).append (by simp [WritesOnly])

theorem Written.writesOnly {frame : Frame} {calls : List (Call × Response)} (written : Written frame calls) :
    WritesOnly (some frame) calls := by
  obtain ⟨admitted, reply, before, _, rfl⟩ := written
  exact (before.writesOnly _).append (by simp [WritesOnly])

/-- The last calls before a state, as far as the exchange under way needs them. -/
def Midway (current : Option Frame) : SendState → List (Call × Response) → Prop
  | .reenquiry, last => Drained last
  | .ack, last => Enquired last
  | .frame, last => Admitted last
  | .ack2, last => ∃ frame, current = some frame ∧ Written frame last
  | .done, last => ∃ frame, current = some frame ∧ Exchanged frame last
  | _, last => last = []

theorem Midway.writesOnly {current : Option Frame} {state : SendState} {last : List (Call × Response)}
    (midway : Midway current state last) : WritesOnly current last := by
  cases state with
  | reenquiry => exact Drained.writesOnly midway current
  | ack => exact Enquired.writesOnly midway current
  | frame => exact Admitted.writesOnly midway current
  | ack2 =>
    obtain ⟨frame, rfl, written⟩ := midway
    exact written.writesOnly
  | done =>
    obtain ⟨frame, rfl, written, reply, before, _, rfl⟩ := midway
    exact before.writesOnly.append (by simp [WritesOnly])
  | _ =>
    cases midway
    simp [WritesOnly]

structure Sends (frames : List Frame) (context : SendContext) (calls : List (Call × Response))
    (sent rest : List Frame) : Prop where
  same : context.frames = frames
  split : frames = sent ++ rest
  index : context.currentIndex = sent.length
  acknowledged : Acknowledged sent rest.head? calls

def Settled (frames : List Frame) (trace : List (Call × Response)) (result : Bool) : Prop :=
  ∃ sent rest, frames = sent ++ rest ∧ Acknowledged sent rest.head? trace ∧ (result = true → rest = [])

def InOrder (frames : List Frame) (trace : List (Call × Response)) : SendConfig → Prop
  | .running .end _ sending => Settled frames trace sending.context.result
  | .running state _ sending =>
      ∃ sent rest calls last, trace = calls ++ last ∧ Sends frames sending.context calls sent rest ∧
        Midway rest.head? state last
  | .ended sending => Settled frames trace sending.context.result

theorem Sends.currentFrame {frames : List Frame} {context : SendContext} {calls : List (Call × Response)}
    {sent rest : List Frame} (sends : Sends frames context calls sent rest) : context.currentFrame = rest.head? := by
  rw [SendContext.currentFrame, sends.same, sends.split, sends.index, List.getElem?_append_right (Nat.le_refl _),
    Nat.sub_self, List.head?_eq_getElem?]

/-- Wherever the exchange is given up, the frame remains to be sent. -/
theorem Sends.giveUp {frames : List Frame} {context : SendContext} {calls last more : List (Call × Response)}
    {sent rest : List Frame} (sends : Sends frames context calls sent rest) (state : SendState)
    (midway : Midway rest.head? state last) (only : WritesOnly rest.head? more) :
    Sends frames context (calls ++ last ++ more) sent rest :=
  { sends with acknowledged := (sends.acknowledged.append midway.writesOnly).append only }

theorem inOrder_step {frames : List Frame} (small : frames.length < 2 ^ 64) {trace more : List (Call × Response)}
    {before after : SendConfig} (ordered : InOrder frames trace before) (step : sendMachine.Step before more after) :
    InOrder frames (trace ++ more) after := by
  obtain ⟨state, sending, rfl, move⟩ := send_move step
  cases move with
  | idle =>
    obtain ⟨sent, rest, calls, last, rfl, sends, midway⟩ := ordered
    exact ⟨sent, rest, _, [], (List.append_nil _).symm, sends.giveUp .idle midway (by simp [WritesOnly]), rfl⟩
  | lock locked =>
    obtain ⟨sent, rest, calls, last, rfl, sends, midway⟩ := ordered
    exact ⟨sent, rest, _, [], (List.append_nil _).symm, sends.giveUp .enquiry midway (by simp [WritesOnly]),
      by simp [Midway, Drained]⟩
  | drain arrived =>
    obtain ⟨sent, rest, calls, last, rfl, sends, midway⟩ := ordered
    refine ⟨sent, rest, calls, last ++ _, List.append_assoc _ _ _, sends, ?_⟩
    intro call member
    rcases List.mem_append.mp member with member | member
    · exact midway call member
    · rw [List.mem_singleton] at member
      subst member
      exact ⟨rfl, arrived⟩
  | drainFailed failed =>
    obtain ⟨sent, rest, calls, last, rfl, sends, midway⟩ := ordered
    exact ⟨sent, rest, _, [], (List.append_nil _).symm, sends.giveUp .reenquiry midway (by simp [WritesOnly]), rfl⟩
  | enquire quiet accepted =>
    obtain ⟨sent, rest, calls, last, rfl, sends, midway⟩ := ordered
    exact ⟨sent, rest, calls, _, List.append_assoc _ _ _, sends, last, _, _, midway, quiet, accepted, rfl⟩
  | enquireFailed quiet refused =>
    obtain ⟨sent, rest, calls, last, rfl, sends, midway⟩ := ordered
    exact ⟨sent, rest, _, [], (List.append_nil _).symm, sends.giveUp .reenquiry midway (by simp [WritesOnly]), rfl⟩
  | admitted acknowledged =>
    obtain ⟨sent, rest, calls, last, rfl, sends, midway⟩ := ordered
    exact ⟨sent, rest, calls, _, List.append_assoc _ _ _, sends, last, _, midway, acknowledged, rfl⟩
  | busy arrived busy =>
    obtain ⟨sent, rest, calls, last, rfl, sends, midway⟩ := ordered
    exact ⟨sent, rest, _, [], (List.append_nil _).symm, sends.giveUp .ack midway (by simp [WritesOnly]),
      by simp [Midway, Drained]⟩
  | collided arrived enquiry =>
    obtain ⟨sent, rest, calls, last, rfl, sends, midway⟩ := ordered
    exact ⟨sent, rest, _, [], (List.append_nil _).symm, sends.giveUp .ack midway (by simp [WritesOnly]), rfl⟩
  | unanswered denied =>
    obtain ⟨sent, rest, calls, last, rfl, sends, midway⟩ := ordered
    exact ⟨sent, rest, _, [], (List.append_nil _).symm, sends.giveUp .ack midway (by simp [WritesOnly]), rfl⟩
  | @write frame written found accepted =>
    obtain ⟨sent, rest, calls, last, rfl, sends, midway⟩ := ordered
    rw [sends.currentFrame] at found
    exact ⟨sent, rest, calls, _, List.append_assoc _ _ _, sends, frame, found, last, _, midway, accepted, rfl⟩
  | writeFailed found refused =>
    obtain ⟨sent, rest, calls, last, rfl, sends, midway⟩ := ordered
    rw [sends.currentFrame] at found
    exact ⟨sent, rest, _, [], (List.append_nil _).symm, sends.giveUp .frame midway (by simp [WritesOnly, found]), rfl⟩
  | confirmed acknowledged =>
    obtain ⟨sent, rest, calls, last, rfl, sends, frame, current, written⟩ := ordered
    exact ⟨sent, rest, calls, _, List.append_assoc _ _ _, sends, frame, current, last, _, written, acknowledged, rfl⟩
  | unconfirmed denied =>
    obtain ⟨sent, rest, calls, last, rfl, sends, midway⟩ := ordered
    exact ⟨sent, rest, _, [], (List.append_nil _).symm, sends.giveUp .ack2 midway (by simp [WritesOnly]), rfl⟩
  | nextFrame more =>
    obtain ⟨sent, rest, calls, last, rfl, sends, frame, current, exchanged⟩ := ordered
    obtain ⟨rest, rfl⟩ := List.head?_eq_some_iff.mp current
    refine ⟨sent ++ [frame], rest, calls ++ last ++ [], [], by simp, ⟨sends.same, by simp [sends.split], ?_, ?_⟩,
      by simp [Midway, Drained]⟩
    · simp [SendContext.onFrameCompleted, sends.index]
    · exact .next sends.acknowledged exchanged (by simp [WritesOnly])
  | completed finished =>
    obtain ⟨sent, rest, calls, last, rfl, sends, frame, current, exchanged⟩ := ordered
    obtain ⟨rest, rfl⟩ := List.head?_eq_some_iff.mp current
    have length : sending.context.frames.length = sent.length + (rest.length + 1) := by
      simp [sends.same, sends.split]
    have noMore : ¬ sending.context.currentIndex + 1 < sending.context.frames.length := by
      rw [← SendContext.hasFramesToSend_iff (List.ne_nil_of_length_pos (by omega)) (by rwa [sends.same]), finished]
      exact Bool.false_ne_true
    have nothing : rest = [] := by
      rw [sends.index, length] at noMore
      exact List.eq_nil_of_length_eq_zero (by omega)
    subst nothing
    exact ⟨sent ++ [frame], [], by simp [sends.split], .next sends.acknowledged exchanged (by simp [WritesOnly]),
      fun _ => rfl⟩
  | error =>
    obtain ⟨sent, rest, calls, last, rfl, sends, midway⟩ := ordered
    have given := sends.giveUp .error midway (by simp [WritesOnly] : WritesOnly rest.head? [])
    exact ⟨sent, rest, sends.split, given.acknowledged, Bool.noConfusion⟩
  | finish unlocked =>
    obtain ⟨sent, rest, split, acknowledged, whole⟩ := ordered
    exact ⟨sent, rest, split, acknowledged.append (by simp [WritesOnly]), whole⟩
  | _ =>
    obtain ⟨sent, rest, calls, last, rfl, sends, rfl⟩ := ordered
    exact ⟨sent, rest, _, [], (List.append_nil _).symm, sends.giveUp .retry rfl (by simp [WritesOnly]), rfl⟩

theorem inOrder_start (checksum : List UInt8 → UInt8) (data : List UInt8) (r2 : Nat) :
    InOrder (prepareFrames checksum data) [] (sendStart checksum data r2) :=
  ⟨[], prepareFrames checksum data, [], [], rfl, ⟨rfl, rfl, rfl, .first (by simp [WritesOnly])⟩, rfl⟩

theorem InOrder.settled {frames : List Frame} {trace : List (Call × Response)} {config : SendConfig}
    (ordered : InOrder frames trace config) :
    ∃ sent rest, frames = sent ++ rest ∧ Acknowledged sent rest.head? trace ∧
      ∀ sending, config = .ended sending → sending.context.result = true → rest = [] := by
  cases config with
  | ended sending =>
    obtain ⟨sent, rest, split, acknowledged, whole⟩ := ordered
    refine ⟨sent, rest, split, acknowledged, ?_⟩
    intro other same
    cases same
    exact whole
  | running state loop sending =>
    by_cases final : state = .end
    · subst final
      obtain ⟨sent, rest, split, acknowledged, _⟩ := ordered
      exact ⟨sent, rest, split, acknowledged, nofun⟩
    · have unsettled : ∃ sent rest calls last, trace = calls ++ last ∧ Sends frames sending.context calls sent rest ∧
          Midway rest.head? state last := by
        cases state with
        | «end» => exact absurd rfl final
        | _ => exact ordered
      obtain ⟨sent, rest, calls, last, rfl, sends, midway⟩ := unsettled
      exact ⟨sent, rest, sends.split, sends.acknowledged.append midway.writesOnly, nofun⟩

/-- Every frame write comes when exactly the frames before it have been acknowledged. -/
def WritesInOrder (frames : List Frame) (calls : List (Call × Response)) : Prop :=
  ∀ k bytes response, calls[k]? = some (.write bytes, response) →
    ∃ sent rest, frames = sent ++ bytes :: rest ∧ Acknowledged sent (some bytes) (calls.take k)

theorem writesInOrder_step {frames : List Frame} {trace more : List (Call × Response)} {before after : SendConfig}
    (ordered : InOrder frames trace before) (writes : WritesInOrder frames trace)
    (step : sendMachine.Step before more after) : WritesInOrder frames (trace ++ more) := by
  intro k bytes response found
  by_cases earlier : k < trace.length
  · rw [List.getElem?_append_left earlier] at found
    rw [List.take_append_of_le_length (Nat.le_of_lt earlier)]
    exact writes k bytes response found
  · rw [List.getElem?_append_right (Nat.le_of_not_lt earlier)] at found
    obtain ⟨state, sending, rfl, move⟩ := send_move step
    have member := List.mem_of_getElem? found
    have framed : ∃ written, state = .frame ∧ sending.context.currentFrame = some bytes ∧
        more = [(.write bytes, written)] := by
      cases move with
      | write current accepted =>
        rw [List.mem_singleton, Prod.mk.injEq, Call.write.injEq] at member
        obtain ⟨rfl, rfl⟩ := member
        exact ⟨_, rfl, current, rfl⟩
      | writeFailed current refused =>
        rw [List.mem_singleton, Prod.mk.injEq, Call.write.injEq] at member
        obtain ⟨rfl, rfl⟩ := member
        exact ⟨_, rfl, current, rfl⟩
      | _ => simp at member
    obtain ⟨written, rfl, current, rfl⟩ := framed
    obtain ⟨sent, rest, calls, last, rfl, sends, midway⟩ := ordered
    rw [sends.currentFrame] at current
    obtain ⟨rest, rfl⟩ := List.head?_eq_some_iff.mp current
    have here : k - (calls ++ last).length = 0 := by
      have inside := (List.getElem?_eq_some_iff.mp found).1
      simpa using inside
    have same : k = (calls ++ last).length := by omega
    rw [same, List.take_left]
    exact ⟨sent, rest, sends.split, sends.acknowledged.append (Admitted.writesOnly midway _)⟩

/-- In every run of a send the frames are acknowledged in order, each in one
contiguous exchange, and an answer of true means that none is left. -/
theorem send_acknowledged_in_order {checksum : List UInt8 → UInt8} {data : List UInt8} {r2 : Nat}
    {trace : List (Call × Response)} {config : SendConfig}
    (run : sendMachine.Runs (sendStart checksum data r2) trace config) :
    (∃ sent rest, prepareFrames checksum data = sent ++ rest ∧ Acknowledged sent rest.head? trace ∧
      ∀ sending, config = .ended sending → sending.context.result = true → rest = []) ∧
    WritesInOrder (prepareFrames checksum data) trace := by
  have invariant : InOrder (prepareFrames checksum data) trace config ∧
      WritesInOrder (prepareFrames checksum data) trace := by
    apply run.invariant
    · exact ⟨inOrder_start checksum data r2, by simp [WritesInOrder]⟩
    · intro trace middle more after ⟨ordered, writes⟩ step _
      exact ⟨inOrder_step (length_prepareFrames_lt checksum data) ordered step, writesInOrder_step ordered writes step⟩
  exact ⟨invariant.1.settled, invariant.2⟩

theorem more_frames : sub64 2 1 = 1 := by decide +kernel

theorem first_frame_done (first last : Frame) (r2 : Nat) :
    sendMachine.script 1 (.running .done () ⟨⟨[first, last], 0, false⟩, r2⟩) [] =
      some (.running .reenquiry () ⟨⟨[first, last], 1, false⟩, r2⟩, [], []) := by
  simp [checkedScript, handle, Program.script, sendMachine, sendHandler, once, sendDone, more_frames, follow,
    sendTransition, SendContext.hasFramesToSend, SendContext.onFrameCompleted]

theorem last_frame_done (first last : Frame) (r2 : Nat) :
    sendMachine.script 2 (.running .done () ⟨⟨[first, last], 1, false⟩, r2⟩) [⟨.success, []⟩] =
      some (.ended ⟨⟨[first, last], 1, true⟩, r2⟩, [(.unlock, ⟨.success, []⟩)], []) := by
  simp [checkedScript, handle, Program.script, sendMachine, sendHandler, once, signal, sendDone, sendEnd, more_frames,
    follow, sendTransition, SendContext.hasFramesToSend, Program.request]

theorem last_frame_acknowledged (first last : Frame) (r2 : Nat) :
    sendMachine.script 4 (.running .reenquiry () ⟨⟨[first, last], 1, false⟩, r2⟩)
      [⟨.timeout, []⟩, ⟨.success, []⟩, ⟨.success, [ControlCode.ack]⟩, ⟨.success, []⟩, ⟨.success, [ControlCode.ack]⟩] =
      some (.running .done () ⟨⟨[first, last], 1, false⟩, r2⟩, [(.read .immediate, ⟨.timeout, []⟩),
        (.writeByte ControlCode.enq, ⟨.success, []⟩), (.read kTimeout3, ⟨.success, [ControlCode.ack]⟩),
        (.write last, ⟨.success, []⟩), (.read kTimeout3, ⟨.success, [ControlCode.ack]⟩)], []) := by
  with_unfolding_all rfl

/-- A send of two frames. The final acknowledgement of the second one is lost, and the
frame is written again. -/
def lastRepeated (first last : Frame) : List (Call × Response) :=
  let ok : Response := ⟨.success, []⟩
  let silent : Response := ⟨.timeout, []⟩
  let ack : Response := ⟨.success, [ControlCode.ack]⟩
  [(.lock, ok), (.read .immediate, silent), (.writeByte ControlCode.enq, ok), (.read kTimeout3, ack), (.write first, ok),
    (.read kTimeout3, ack), (.read .immediate, silent), (.writeByte ControlCode.enq, ok), (.read kTimeout3, ack),
    (.write last, ok), (.read kTimeout3, silent), (.unlock, ok), (.lock, ok), (.read .immediate, silent),
    (.writeByte ControlCode.enq, ok), (.read kTimeout3, ack), (.write last, ok), (.read kTimeout3, ack), (.unlock, ok)]

theorem last_frame_repeated (first last : Frame) :
    sendMachine.Runs (.running .idle () ⟨⟨[first, last], 0, false⟩, 0⟩) (lastRepeated first last)
      (.ended ⟨⟨[first, last], 1, true⟩, 1⟩) := by
  let ok : Response := ⟨.success, []⟩
  let silent : Response := ⟨.timeout, []⟩
  let ack : Response := ⟨.success, [ControlCode.ack]⟩
  have acknowledged : sendMachine.script 6 (.running .idle () ⟨⟨[first, last], 0, false⟩, 0⟩)
      [ok, silent, ok, ack, ok, ack] = some (.running .done () ⟨⟨[first, last], 0, false⟩, 0⟩,
        [(.lock, ok), (.read .immediate, silent), (.writeByte ControlCode.enq, ok), (.read kTimeout3, ack),
          (.write first, ok), (.read kTimeout3, ack)], []) := by
    with_unfolding_all rfl
  have lost : sendMachine.script 6 (.running .reenquiry () ⟨⟨[first, last], 1, false⟩, 0⟩)
      [silent, ok, ack, ok, silent, ok, ok] = some (.running .reenquiry () ⟨⟨[first, last], 1, false⟩, 1⟩,
        [(.read .immediate, silent), (.writeByte ControlCode.enq, ok), (.read kTimeout3, ack), (.write last, ok),
          (.read kTimeout3, silent), (.unlock, ok), (.lock, ok)], []) := by
    with_unfolding_all rfl
  exact ((((runs_of_script acknowledged).append (runs_of_script (first_frame_done first last 0))).append
    (runs_of_script lost)).append (runs_of_script (last_frame_acknowledged first last 1))).append
    (runs_of_script (last_frame_done first last 1))

theorem prepareFrames_two {payload : List UInt8} (length : payload.length = 1028) :
    ∃ first, prepareFrames List.sum (0 :: 0 :: 0 :: payload) =
      [first, extendedLengthFrame List.sum (0 :: 0 :: 3 :: 0 :: 1 :: 0 :: 2 :: payload.drop 1024)] := by
  have whole : (payload.drop 1024).take 1024 = payload.drop 1024 :=
    List.take_of_length_le (by rw [List.length_drop]; omega)
  have divided := prepareFrames_divided List.sum (0 :: 0 :: 0 :: payload) (by simp [length]) (by simp [length])
  have count : (payload.length + 1 + 1 + 1 - 3 + 1023) / 1024 = 2 := by omega
  simp only [List.length_cons, List.getD_cons_zero, List.getD_cons_succ, List.drop_succ_cons, List.drop_zero,
    count] at divided
  refine ⟨_, divided.trans (congrArg (List.cons _) ?_)⟩
  have declared : uint32 (11 + kExtLenLength + kFrameFooterLength) = 16 := rfl
  simp [chunksOf, pieces, numberedFrames, dividedFrame, extendedLengthFrame, whole, length, byteAt, declared]

/-- Two frames are acknowledged in order, the second one after a retry. -/
theorem repeated_frame_acknowledged : ∃ data first last sending, prepareFrames List.sum data = [first, last] ∧
    sendMachine.Runs (sendStart List.sum data 0) (lastRepeated first last) (.ended sending) ∧
    Acknowledged [first, last] none (lastRepeated first last) ∧
    WritesInOrder [first, last] (lastRepeated first last) := by
  obtain ⟨first, frames⟩ := @prepareFrames_two (List.replicate 1028 0) List.length_replicate
  generalize extendedLengthFrame List.sum (0 :: 0 :: 3 :: 0 :: 1 :: 0 :: 2 :: (List.replicate 1028 0).drop 1024) = last
    at frames
  generalize (0 :: 0 :: 0 :: List.replicate 1028 0 : List UInt8) = data at frames
  have run : sendMachine.Runs (sendStart List.sum data 0) (lastRepeated first last)
      (.ended ⟨⟨[first, last], 1, true⟩, 1⟩) := by
    rw [sendStart, sendContext, frames]
    exact last_frame_repeated first last
  obtain ⟨⟨sent, rest, split, acknowledged, whole⟩, writes⟩ := send_acknowledged_in_order run
  obtain rfl := whole _ rfl rfl
  rw [frames, List.append_nil] at split
  exact ⟨data, first, last, _, frames, run, split ▸ acknowledged, frames ▸ writes⟩

end CpuCom.Uart.Protocol
