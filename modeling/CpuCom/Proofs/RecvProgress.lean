import CpuCom.Interaction.Following
import CpuCom.Proofs.RecvSteps
import CpuCom.Proofs.SendProgress

/-! A receive comes to an end. Its attempts bound the calls that it makes, apart from the
bytes that it drains, the times that it is woken for nothing and the frames that it takes. -/

namespace CpuCom.Uart.Protocol
open Interaction FiniteStateMachine

def Unaddressed : Option (Call × Response) → Prop
  | some (.read .immediate, reply) => reply.byte = ControlCode.nak
  | _ => True

instance : DecidablePred Unaddressed
  | some (.read .immediate, reply) => inferInstanceAs (Decidable (reply.byte = _))
  | none | some (.read .infinite, _) | some (.read (.milliseconds _), _) | some (.readMulti _ _, _)
  | some (.writeByte _, _) | some (.write _, _) | some (.poll _, _) | some (.open, _) | some (.close, _)
  | some (.lock, _) | some (.unlock, _) => .isTrue trivial

/-- The line falls silent without an enquiry or anything else to reject. -/
def wokenFor (last : Option (Call × Response)) (call : Call × Response) : Bool :=
  call.1 = .read .immediate ∧ call.2.result = .timeout ∧ Unaddressed last

/-- The acknowledgement of a frame follows the read of its checksum. -/
def accepts (last : Option (Call × Response)) (call : Call × Response) : Bool :=
  call.1 = .writeByte ControlCode.ack ∧ call.2.result = .success ∧ last.map Prod.fst = some (.read kTimeout4)

def unasked (trace : List (Call × Response)) : Nat := following wokenFor none trace

def acceptances (trace : List (Call × Response)) : Nat := following accepts none trace

theorem unasked_append (first rest : List (Call × Response)) :
    unasked (first ++ rest) = unasked first + following wokenFor first.getLast? rest := by
  rw [unasked, following_append, Option.or_none, ← unasked]

theorem acceptances_append (first rest : List (Call × Response)) :
    acceptances (first ++ rest) = acceptances first + following accepts first.getLast? rest := by
  rw [acceptances, following_append, Option.or_none, ← acceptances]

/-- What a receive need not have made in view of its attempts. -/
def recvCharge (trace : List (Call × Response)) : Nat := 2 * drained trace + 7 * unasked trace + 23 * acceptances trace

private theorem recvEnquiry_completes (loop : Option UInt8) : (recvEnquiry loop).Completes := by
  cases loop with
  | none =>
    apply Program.completes_request
    intro reply
    cases reply.result <;> exact trivial
  | some byte =>
    apply Program.completes_request
    intro reply
    cases reply.result with
    | success => exact trivial
    | error => exact trivial
    | timeout =>
      dsimp only
      split
      · exact trivial
      · split
        · exact trivial
        · exact trivial

private theorem comparing_completes {call : Call} {context : RecvContext} {right : Response → Prop}
    [DecidablePred right] {stored : Response → RecvContext} :
    (Program.request call >>= fun response : Response =>
      match response.result with
      | .success =>
          if right response then (pure (stored response, .pass) : CallProgram (RecvContext × Event))
          else pure (context, .deny)
      | .timeout => pure (context, .deny)
      | .error => pure (context, .fail)).Completes := by
  apply Program.completes_request
  intro reply
  cases reply.result with
  | timeout => exact trivial
  | error => exact trivial
  | success =>
    dsimp only
    split
    · exact trivial
    · exact trivial

private theorem recvLength_completes (context : RecvContext) : (recvLength context).Completes := by
  apply Program.completes_request
  intro reply
  cases reply.result with
  | timeout => exact trivial
  | error => exact trivial
  | success =>
    dsimp only
    split
    · exact trivial
    · split
      · exact trivial
      · exact trivial

private theorem recvDataExtLen_completes (context : RecvContext) : (recvDataExtLen context).Completes := by
  unfold recvDataExtLen
  split
  · apply Program.completes_request
    intro reply
    cases reply.result <;> exact trivial
  · exact trivial

private theorem recvDataFrameNumber_completes (context : RecvContext) : (recvDataFrameNumber context).Completes := by
  unfold recvDataFrameNumber
  split
  · apply Program.completes_request
    intro reply
    cases reply.result <;> exact trivial
  · exact trivial

private theorem recvPoll_completes : recvPoll.Completes := by
  apply Program.completes_request
  intro ready
  split
  · exact fun _ => trivial
  · exact trivial

private theorem recvDone_completes (context : RecvContext) : (recvDone context).Completes := by
  unfold recvDone
  split
  · exact trivial
  · exact trivial
  · split
    · exact trivial
    · exact trivial
  · exact trivial

variable {checksum : List UInt8 → UInt8}

theorem recvHandler_completes {state : RecvState} {loop : Option UInt8} {receiving : Receiving} :
    (recvHandler checksum state loop receiving).Completes := by
  cases state with
  | idle => exact trivial
  | poll => exact recvPoll_completes.bind fun _ => trivial
  | repoll => exact fun _ => trivial
  | enquiry => exact (recvEnquiry_completes loop).bind fun _ => trivial
  | ack => exact writing_completes.bind fun _ => trivial
  | stx => exact comparing_completes.bind fun _ => trivial
  | len => exact (recvLength_completes _).bind fun _ => trivial
  | datacmd => exact fun _ => trivial
  | dataextlen => exact (recvDataExtLen_completes _).bind fun _ => trivial
  | dataframenumber => exact (recvDataFrameNumber_completes _).bind fun _ => trivial
  | data => exact fun _ => trivial
  | etx => exact comparing_completes.bind fun _ => trivial
  | cs => exact comparing_completes.bind fun _ => trivial
  | ack2 => exact writing_completes.bind fun _ => trivial
  | nak => exact writing_completes.bind fun _ => trivial
  | retry =>
    dsimp only [recvHandler, once, recvRetry]
    split
    · exact trivial
    · exact trivial
  | done => exact (recvDone_completes _).bind fun _ => trivial
  | error => exact trivial
  | «end» => exact fun _ => trivial

/-- What the call before a state has been. -/
def RecvReady (trace : List (Call × Response)) : RecvConfig → Prop
  | .running .enquiry none _ => Unaddressed trace.getLast?
  | .running .enquiry (some byte) _ => ∃ reply, trace.getLast? = some (.read .immediate, reply) ∧ reply.byte = byte
  | .running .ack2 _ _ => trace.getLast?.map Prod.fst = some (.read kTimeout4)
  | .running .done _ _ => Unaddressed trace.getLast?
  | _ => True

/-- What is left to do in the attempt under way. -/
def recvWeight : RecvState → Nat
  | .idle => 30
  | .poll => 29
  | .repoll => 31
  | .enquiry => 26
  | .ack => 24
  | .stx => 22
  | .len => 20
  | .datacmd => 18
  | .dataextlen => 16
  | .dataframenumber => 14
  | .data => 12
  | .etx => 10
  | .cs => 8
  | .ack2 => 6
  | .nak => 6
  | .retry => 4
  | .done => 27
  | .error => 3
  | .end => 2

/-- An attempt that is left weighs as much as the way back to the poll. -/
def recvRank : RecvConfig → Nat
  | .running .idle _ _ => recvWeight .idle + 28 * (kMaxNumberOfRecvAttempts - 1)
  | .running .error _ _ => recvWeight .error
  | .running .end _ _ => recvWeight .end
  | .running state _ receiving => recvWeight state + 28 * (kMaxNumberOfRecvAttempts - 1 - receiving.r1)
  | .ended _ => 0

variable {trace calls : List (Call × Response)} {config after : RecvConfig}

theorem RecvReady.step (ready : RecvReady trace config) (step : (recvMachine checksum).Step config calls after) :
    RecvReady (trace ++ calls) after := by
  obtain ⟨state, loop, context, r1, rfl, move⟩ := recv_move step
  cases move with
  | polled locked arrived =>
    rw [RecvReady, List.getLast?_append_cons]
    trivial
  | enquiryByte arrived => exact ⟨_, List.getLast?_concat, rfl⟩
  | cs arrived right => exact congrArg _ List.getLast?_concat
  | ack2 accepted =>
    rw [RecvReady, List.getLast?_concat]
    trivial
  | piece divided more =>
    rw [List.append_nil]
    exact ready
  | _ => trivial

private theorem recvRank_reading {context : RecvContext} {state : RecvState} (stored : RecvContext)
    (loop : Option UInt8) (r1 : Nat) (reads : context.reads state) :
    recvRank (.running .nak none ⟨stored, r1⟩) + 2 ≤ recvRank (.running state loop ⟨context, r1⟩) := by
  change recvWeight .nak + 28 * (kMaxNumberOfRecvAttempts - 1 - r1) + 2 ≤ _
  rw [Nat.add_right_comm]
  cases state with
  | stx | len | datacmd | dataextlen | dataframenumber | data | etx | cs => exact Nat.add_le_add_right (by decide) _
  | _ => exact reads.elim

theorem RecvReady.spends (ready : RecvReady trace config) (step : (recvMachine checksum).Step config calls after) :
    recvRank after + calls.length + 1 + recvCharge trace ≤ recvRank config + recvCharge (trace ++ calls) := by
  obtain ⟨state, loop, context, r1, rfl, move⟩ := recv_move step
  unfold recvCharge
  rw [drained_append, unasked_append, acceptances_append]
  cases move with
  | @enquiryByte _ reply arrived =>
    have one : drained [(.read .immediate, reply)] = 1 := by simp [drained, arrived]
    simp only [recvRank, List.length_singleton, one]
    omega
  | @unasked _ reply quiet nothing =>
    have unaddressed : Unaddressed trace.getLast? := by
      rcases nothing with rfl | rfl
      · exact ready
      · obtain ⟨last, found, denial⟩ := ready
        rw [found]
        exact denial
    have one : following wokenFor trace.getLast? [(.read .immediate, reply)] = 1 := by
      simp [following, wokenFor, quiet, unaddressed]
    simp only [recvRank, recvWeight, List.length_singleton, one]
    omega
  | @ack2 _ written accepted =>
    have checked : trace.getLast?.map Prod.fst = some (.read kTimeout4) := ready
    have one : following accepts trace.getLast? [(.writeByte ControlCode.ack, written)] = 1 := by
      simp [following, accepts, checked, accepted]
    simp only [recvRank, recvWeight, List.length_singleton, one]
    omega
  | retry left =>
    simp only [recvRank, recvWeight, List.length_nil]
    omega
  | idle =>
    simp only [recvRank, recvWeight, List.length_nil]
    omega
  | @rejected _ _ reply reads denied =>
    have reading := recvRank_reading (context.store ((frameCall context state).leaves reply)) loop r1 reads
    rw [List.length_singleton]
    omega
  | @failed _ _ reply reads notLast failed =>
    have reading := recvRank_reading context loop r1 reads
    have less : recvRank (.running .error none ⟨context.store ((frameCall context state).leaves reply), r1⟩) ≤
        recvRank (.running .nak none ⟨context, r1⟩) := Nat.le_trans (Nat.le_add_left 3 3) (Nat.le_add_right ..)
    rw [List.length_singleton]
    omega
  | _ =>
    simp only [recvRank, recvWeight, List.length_cons, List.length_nil]
    omega

variable (checksum)

theorem recvStart_ready (r1 : Nat) : RecvReady [] (recvStart checksum r1) := trivial

theorem recv_ranked : (recvMachine checksum).Ranked RecvReady recvRank recvCharge where
  completes _ := recvHandler_completes
  keeps ready step := ready.step step
  spends ready step := ready.spends step

variable {checksum}

/-- The calls of a receive are bounded by its attempts, apart from what the line makes it
do again and the frames that it takes. -/
theorem recv_calls_bounded {r1 : Nat} (run : (recvMachine checksum).Runs (recvStart checksum r1) trace config) :
    trace.length ≤ 28 * kMaxNumberOfRecvAttempts + 2 +
      (2 * drained trace + 7 * unasked trace + 23 * acceptances trace) := by
  have bounded := ((recv_ranked checksum).bounded (recvStart_ready checksum r1) run).2
  have start : recvRank (recvStart checksum r1) = 28 * kMaxNumberOfRecvAttempts + 2 := rfl
  rw [start] at bounded
  exact Nat.le_trans (Nat.le_add_left ..) (Nat.le_trans (Nat.le_add_right ..) bounded)

/-- Whatever comes from the line, a receive returns unless bytes, empty wakes or frames
come for ever. -/
theorem receive_returns (checksum : List UInt8 → UInt8) (r1 : Nat) (respond : List (Call × Response) → Call → Response)
    (limit : Nat) (calm : ∀ trace config,
      (recvMachine checksum).ReachesOn (Program.logged respond) (recvStart checksum r1, []) (config, trace) →
        2 * drained trace + 7 * unasked trace + 23 * acceptances trace ≤ limit) :
    ∃ receiving trace,
      (recvMachine checksum).ReachesOn (Program.logged respond) (recvStart checksum r1, []) (.ended receiving, trace) ∧
      trace.length ≤ 28 * kMaxNumberOfRecvAttempts + 2 + limit := by
  obtain ⟨receiving, trace, reached, run⟩ := (recv_ranked checksum).ends (recvStart_ready checksum r1) respond calm
  refine ⟨receiving, trace, reached, ?_⟩
  exact Nat.le_trans (recv_calls_bounded run) (Nat.add_le_add_left (calm _ _ reached) _)

def failing (_ : List (Call × Response)) : Call → Response
  | .poll _ | .lock | .unlock => ⟨.success, []⟩
  | _ => ⟨.error, []⟩

theorem receive_returns_failing : ∃ receiving trace,
    (recvMachine List.sum).ReachesOn (Program.logged failing) (recvStart List.sum 0, []) (.ended receiving, trace) ∧
      trace.length ≤ 28 * kMaxNumberOfRecvAttempts + 2 + 0 := by
  apply receive_returns List.sum 0 failing 0
  intro trace config reached
  have fails : ∀ call ∈ trace, (∃ timeout, call.1 = .read timeout) ∨ call.1 = .writeByte ControlCode.ack →
      call.2.result = .error := by
    rintro call member (⟨timeout, asked⟩ | asked)
    all_goals
      obtain ⟨past, replied⟩ := logged_replies reached call member
      rw [replied, asked]
      rfl
  have quiet : drained trace = 0 := by
    refine List.countP_eq_zero.mpr fun call member => ?_
    simp only [decide_eq_true_eq]
    rintro ⟨asked, arrived⟩
    exact Result.noConfusion (arrived.symm.trans (fails call member (.inl ⟨_, asked⟩)))
  have woken : unasked trace = 0 := by
    refine following_eq_zero fun last call member => decide_eq_false ?_
    rintro ⟨asked, silent, -⟩
    exact Result.noConfusion (silent.symm.trans (fails call member (.inl ⟨_, asked⟩)))
  have accepted : acceptances trace = 0 := by
    refine following_eq_zero fun last call member => decide_eq_false ?_
    rintro ⟨written, arrived, -⟩
    exact Result.noConfusion (arrived.symm.trans (fails call member (.inr written)))
  rw [quiet, woken, accepted]

end CpuCom.Uart.Protocol
