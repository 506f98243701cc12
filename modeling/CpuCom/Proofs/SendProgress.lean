import CpuCom.Interaction.Progress
import CpuCom.Proofs.FrameLayout
import CpuCom.Proofs.SendAttempts

/-! A send comes to an end. Its attempts and its frames bound the calls that it makes,
apart from the bytes that it drains and the times that the peer puts it off. -/

namespace CpuCom.Uart.Protocol
open Interaction FiniteStateMachine

def drained (trace : List (Call × Response)) : Nat :=
  trace.countP fun call => call.1 = .read .immediate ∧ call.2.result = .success

@[simp] theorem drained_append (first rest : List (Call × Response)) :
    drained (first ++ rest) = drained first + drained rest := List.countP_append

theorem deferrals_eq_zero {last : Bool} {trace : List (Call × Response)}
    (none : ∀ call ∈ trace, call.1 = .read kTimeout3 → ¬ call.2.Defers) : deferrals last trace = 0 := by
  induction trace generalizing last with
  | nil => rfl
  | cons call trace ih =>
    obtain ⟨request, reply⟩ := call
    have rest : deferrals (request = .writeByte ControlCode.enq) trace = 0 :=
      ih fun call member => none call (List.mem_cons_of_mem _ member)
    rw [deferrals, rest, if_neg fun deferred => none _ (List.mem_cons_self ..) deferred.2.1 deferred.2.2]

/-- What a send need not have made in view of its attempts and frames. -/
def sendCharge (trace : List (Call × Response)) : Nat := 2 * drained trace + 11 * deferrals false trace

private theorem sendAcknowledgement_completes : sendAcknowledgement.Completes := by
  apply Program.completes_request
  intro reply
  cases reply.result with
  | timeout => exact trivial
  | error => exact trivial
  | success =>
    dsimp only
    split
    · exact trivial
    · split
      · exact trivial
      · split
        · exact trivial
        · exact trivial

theorem writing_completes {call : Call} :
    (Program.request call >>= fun response : Response =>
      if response.result = .success then (pure .pass : CallProgram Event) else pure .fail).Completes := by
  apply Program.completes_request
  intro reply
  split
  · exact trivial
  · exact trivial

private theorem sendReenquiry_completes : sendReenquiry.Completes := by
  apply Program.completes_request
  intro drained
  cases drained.result with
  | success => exact trivial
  | error => exact trivial
  | timeout =>
    apply Program.completes_request
    intro written
    split
    · exact trivial
    · exact trivial

theorem sendHandler_completes {state : SendState} {loop : Unit} {sending : Sending}
    (found : state = .frame → sending.context.currentFrame ≠ none) :
    (sendHandler state loop sending).Completes := by
  cases state with
  | idle => exact trivial
  | enquiry => exact fun _ => trivial
  | reenquiry => exact sendReenquiry_completes.bind fun _ => trivial
  | ack => exact sendAcknowledgement_completes.bind fun _ => trivial
  | frame =>
    obtain ⟨frame, present⟩ := Option.ne_none_iff_exists'.mp (found rfl)
    dsimp only [sendHandler, signal, sendFrame]
    rw [present]
    exact writing_completes.bind fun _ => trivial
  | ack2 => exact sendAcknowledgement_completes.bind fun _ => trivial
  | retry =>
    dsimp only [sendHandler, once, sendRetry]
    split
    · intro unlocked
      dsimp only [Program.bind]
      split
      · exact fun _ _ => trivial
      · exact trivial
    · exact trivial
  | nak => exact writing_completes.bind fun _ => trivial
  | wait => exact fun _ => trivial
  | done =>
    dsimp only [sendHandler, once, sendDone]
    split
    · exact trivial
    · exact trivial
  | error => exact trivial
  | «end» => exact fun _ => trivial

/-- The frame that is due exists, and an answer that is due is the one to an enquiry. -/
structure SendReady (total : Nat) (trace : List (Call × Response)) (config : SendConfig) : Prop where
  sized : config.data.context.frames.length = total
  inside : config.data.context.currentIndex < total
  enquired : config.state? = some .ack → asked false trace = true

def sendWeight : SendState → Nat
  | .idle => 16
  | .enquiry => 15
  | .reenquiry => 13
  | .ack => 10
  | .frame => 8
  | .ack2 => 6
  | .retry => 4
  | .nak => 19
  | .wait => 17
  | .done => 3
  | .error => 3
  | .end => 2

/-- A retry and a frame that are left weigh as much as the way back to the enquiry. -/
def sendRank : SendConfig → Nat
  | .running .idle _ sending =>
      sendWeight .idle + 15 * (kMaxNumberOfSendAttempts - 1) + 11 * sending.context.frames.length
  | .running .error _ _ => sendWeight .error
  | .running .end _ _ => sendWeight .end
  | .running state _ sending =>
      sendWeight state + 15 * (kMaxNumberOfSendAttempts - 1 - sending.r2) +
        11 * (sending.context.frames.length - sending.context.currentIndex)
  | .ended _ => 0

variable {total : Nat} {trace calls : List (Call × Response)} {config after : SendConfig}

theorem SendReady.step (ready : SendReady total trace config) (few : total < 2 ^ 64)
    (step : sendMachine.Step config calls after) : SendReady total (trace ++ calls) after := by
  have framed := send_frames step
  obtain ⟨state, sending, rfl, move⟩ := send_move step
  have sized : after.data.context.frames.length = total := framed ▸ ready.sized
  cases move with
  | enquire quiet accepted =>
    refine ⟨sized, ready.inside, fun _ => ?_⟩
    rw [asked_append]
    rfl
  | nextFrame more =>
    have nonempty : sending.context.frames ≠ [] :=
      List.ne_nil_of_length_pos (Nat.lt_of_le_of_lt (Nat.zero_le _) (ready.sized ▸ ready.inside))
    have next := (SendContext.hasFramesToSend_iff nonempty (ready.sized ▸ few)).mp more
    exact ⟨sized, ready.sized ▸ next, nofun⟩
  | _ => exact ⟨sized, ready.inside, nofun⟩

theorem SendReady.spends (ready : SendReady total trace config) (few : total < 2 ^ 64)
    (step : sendMachine.Step config calls after) :
    sendRank after + calls.length + 1 + sendCharge trace ≤ sendRank config + sendCharge (trace ++ calls) := by
  have next := (ready.step few step).inside
  obtain ⟨state, sending, rfl, move⟩ := send_move step
  obtain ⟨sized, inside, enquired⟩ := ready
  unfold sendCharge
  rw [drained_append, deferrals_append]
  cases move with
  | @drain byte arrived =>
    have one : drained [(.read .immediate, byte)] = 1 := by simp [drained, arrived]
    simp only [sendRank, List.length_singleton, one]
    omega
  | @busy reply arrived busy =>
    have one : deferrals (asked false trace) [(.read kTimeout3, reply)] = 1 := by
      rw [enquired rfl]
      simp [deferrals, Response.Defers, arrived, busy]
    simp only [sendRank, sendWeight, List.length_singleton, one]
    omega
  | @collided reply arrived enquiry =>
    have one : deferrals (asked false trace) [(.read kTimeout3, reply)] = 1 := by
      rw [enquired rfl]
      simp [deferrals, Response.Defers, arrived, enquiry]
    simp only [sendRank, sendWeight, List.length_singleton, one]
    omega
  | retry unlocked left kept =>
    simp only [sendRank, sendWeight, List.length_singleton]
    omega
  | reinit unlocked closed opened left sixth =>
    simp only [sendRank, sendWeight, List.length_cons, List.length_nil]
    omega
  | nextFrame more =>
    change sending.context.currentIndex + 1 < total at next
    simp only [sendRank, sendWeight, List.length_nil, SendContext.onFrameCompleted]
    change sending.context.frames.length = total at sized
    omega
  | idle =>
    change sending.context.frames.length = total at sized
    simp only [sendRank, sendWeight, List.length_nil]
    omega
  | _ =>
    simp only [sendRank, sendWeight, List.length_cons, List.length_nil]
    omega

variable {checksum : List UInt8 → UInt8} {data : List UInt8} {r2 : Nat}

theorem send_ranked (few : total < 2 ^ 64) : sendMachine.Ranked (SendReady total) sendRank sendCharge where
  completes := by
    intro trace state loop sending ready
    apply sendHandler_completes
    rintro rfl missing
    exact Nat.not_le.mpr ready.inside (ready.sized ▸ List.getElem?_eq_none_iff.mp missing)
  keeps ready step := ready.step few step
  spends ready step := ready.spends few step

theorem sendStart_ready (some : prepareFrames checksum data ≠ []) :
    SendReady (prepareFrames checksum data).length [] (sendStart checksum data r2) :=
  ⟨rfl, List.length_pos_of_ne_nil some, nofun⟩

/-- The calls of a send are bounded by its attempts and its frames, apart from what the
line and the peer make it do again. -/
theorem send_calls_bounded (some : prepareFrames checksum data ≠ [])
    (run : sendMachine.Runs (sendStart checksum data r2) trace config) :
    trace.length ≤ 15 * kMaxNumberOfSendAttempts + 1 + 11 * (prepareFrames checksum data).length +
      (2 * drained trace + 11 * deferrals false trace) := by
  have few := length_prepareFrames_lt checksum data
  have bounded := ((send_ranked few).bounded (sendStart_ready some) run).2
  have start : sendRank (sendStart checksum data r2) =
      15 * kMaxNumberOfSendAttempts + 1 + 11 * (prepareFrames checksum data).length := rfl
  rw [start] at bounded
  exact Nat.le_trans (Nat.le_add_left ..) (Nat.le_trans (Nat.le_add_right ..) bounded)

/-- Whatever the peer answers, a send returns unless bytes or deferrals come for ever. -/
theorem send_returns (some : prepareFrames checksum data ≠ []) (respond : List (Call × Response) → Call → Response)
    (limit : Nat) (calm : ∀ trace config,
      sendMachine.ReachesOn (Program.logged respond) (sendStart checksum data r2, []) (config, trace) →
        2 * drained trace + 11 * deferrals false trace ≤ limit) :
    ∃ sending trace,
      sendMachine.ReachesOn (Program.logged respond) (sendStart checksum data r2, []) (.ended sending, trace) ∧
      trace.length ≤ 15 * kMaxNumberOfSendAttempts + 1 + 11 * (prepareFrames checksum data).length + limit := by
  have few := length_prepareFrames_lt checksum data
  obtain ⟨sending, trace, reached, run⟩ := (send_ranked few).ends (sendStart_ready some) respond calm
  refine ⟨sending, trace, reached, ?_⟩
  exact Nat.le_trans (send_calls_bounded some run) (Nat.add_le_add_left (calm _ _ reached) _)

def unanswering (_ : List (Call × Response)) : Call → Response
  | .read _ => ⟨.timeout, []⟩
  | _ => ⟨.success, []⟩

theorem send_returns_unanswered : ∃ sending trace,
    sendMachine.ReachesOn (Program.logged unanswering) (sendStart List.sum [1, 2, 3] 0, []) (.ended sending, trace) ∧
      trace.length ≤ 15 * kMaxNumberOfSendAttempts + 1 + 11 * (prepareFrames List.sum [1, 2, 3]).length + 0 := by
  apply send_returns (by decide) unanswering 0
  intro trace config reached
  have silent : ∀ call ∈ trace, ∀ timeout, call.1 = .read timeout → call.2.result = .timeout := by
    intro call member timeout asked
    obtain ⟨past, replied⟩ := logged_replies reached call member
    rw [replied, asked]
    rfl
  have quiet : drained trace = 0 := by
    refine List.countP_eq_zero.mpr fun call member => ?_
    simp only [decide_eq_true_eq]
    rintro ⟨asked, arrived⟩
    exact Result.noConfusion (arrived.symm.trans (silent call member _ asked))
  have answered : deferrals false trace = 0 := by
    refine deferrals_eq_zero fun call member asked defers => ?_
    exact Result.noConfusion (defers.1.symm.trans (silent call member _ asked))
  rw [quiet, answered]

end CpuCom.Uart.Protocol
