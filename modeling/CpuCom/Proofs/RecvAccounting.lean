import CpuCom.Interaction.Passes
import CpuCom.Interaction.Script
import CpuCom.Proofs.RecvSteps

/-! What the attempt counter of a receive counts over a line without device
errors: the attempts it rejects, in whichever state and whichever frame. Those
rejected after the enquiry are answered with a NAK. -/

namespace CpuCom.Uart
open Interaction

instance (context : RecvContext) : DecidablePred context.reads := fun state =>
  match state with
  | .stx | .len | .datacmd | .data | .etx | .cs => .isTrue trivial
  | .dataextlen => inferInstanceAs (Decidable (_ ≠ _))
  | .dataframenumber => inferInstanceAs (Decidable (_ = _))
  | .idle | .poll | .repoll | .enquiry | .ack | .ack2 | .nak | .retry | .done | .error | .end => .isFalse id

namespace Protocol
open FiniteStateMachine

abbrev RecvPass := Pass RecvState (Option UInt8) Call Response Receiving

/-- A reply without a device error: nothing may come, but a poll and a write succeed. -/
def Plain : Call × Response → Prop
  | (.read _, reply) => reply.result = .success ∨ reply.result = .timeout
  | (.readMulti _ _, reply) => reply.result = .success ∨ reply.result = .timeout
  | (.poll _, reply) => reply.result = .success
  | (.write _, reply) => reply.result = .success
  | (.writeByte _, reply) => reply.result = .success
  | _ => True

instance : DecidablePred Plain
  | (.read _, _) => inferInstanceAs (Decidable (_ ∨ _))
  | (.readMulti _ _, _) => inferInstanceAs (Decidable (_ ∨ _))
  | (.poll _, _) => inferInstanceAs (Decidable (_ = _))
  | (.write _, _) => inferInstanceAs (Decidable (_ = _))
  | (.writeByte _, _) => inferInstanceAs (Decidable (_ = _))
  | (.open, _) | (.close, _) | (.lock, _) | (.unlock, _) => .isTrue trivial

abbrev PlainReplies : Move RecvState (Option UInt8) Call Response Receiving := fun _ calls _ =>
  ∀ call ∈ calls, Plain call

def naks (trace : List (Call × Response)) : Nat := trace.countP (·.1 = .writeByte ControlCode.nak)

theorem naks_append (first rest : List (Call × Response)) : naks (first ++ rest) = naks first + naks rest :=
  List.countP_append

/-- The line falls silent after a byte that is neither an enquiry nor a denial. -/
def RejectedEnquiry (pass : RecvPass) : Prop :=
  match pass.before with
  | .running state loop _ => state = .enquiry ∧ (∃ byte ∈ loop, byte ≠ ControlCode.enq ∧ byte ≠ ControlCode.nak) ∧
      ∃ call ∈ pass.calls, call.2.result = .timeout
  | .ended _ => False

instance : DecidablePred RejectedEnquiry := fun pass =>
  match pass with
  | ⟨.running _ _ _, _, _⟩ => inferInstanceAs (Decidable (_ ∧ _))
  | ⟨.ended _, _, _⟩ => .isFalse id

variable (checksum : List UInt8 → UInt8)

instance (context : RecvContext) (reply : Response) : DecidablePred (Expected checksum context reply) := fun state =>
  match state with
  | .stx | .etx | .cs => inferInstanceAs (Decidable (_ = _))
  | .len => inferInstanceAs (Decidable (_ ∨ _))
  | .datacmd | .dataextlen | .dataframenumber | .data | .idle | .poll | .repoll | .enquiry | .ack | .ack2 | .nak
  | .retry | .done | .error | .end => .isTrue trivial

/-- Inside a frame nothing comes in time, or another byte than the state expects. -/
def RejectedFrame (pass : RecvPass) : Prop :=
  match pass.before with
  | .running state _ receiving => receiving.context.reads state ∧ ∃ call ∈ pass.calls,
      call.2.result = .timeout ∨ call.2.result = .success ∧ ¬ Expected checksum receiving.context call.2 state
  | .ended _ => False

instance : DecidablePred (RejectedFrame checksum) := fun pass =>
  match pass with
  | ⟨.running _ _ _, _, _⟩ => inferInstanceAs (Decidable (_ ∧ _))
  | ⟨.ended _, _, _⟩ => .isFalse id

def Rejected (pass : RecvPass) : Prop := RejectedEnquiry pass ∨ RejectedFrame checksum pass

instance : DecidablePred (Rejected checksum) := fun _ => inferInstanceAs (Decidable (_ ∨ _))

/-- The rejected attempts are counted, up to those that the machine is about to
count or to answer. -/
structure Tally (r1 uncounted unanswered : Nat) (passes : List RecvPass) : Prop where
  counted : passes.countP (Rejected checksum ·) = r1 + uncounted
  answered : passes.countP (RejectedFrame checksum ·) = naks (callsOf passes) + unanswered

variable {checksum} {context : RecvContext} {r1 uncounted unanswered : Nat} {state : RecvState}
  {loop : Option UInt8} {calls : List (Call × Response)} {reply : Response} {after : RecvConfig}
  {passes : List RecvPass}

theorem Tally.accept (tally : Tally checksum r1 uncounted unanswered passes) {pass : RecvPass}
    (accepted : ¬ Rejected checksum pass) (silent : naks pass.calls = 0) :
    Tally checksum r1 uncounted unanswered (passes ++ [pass]) where
  counted := by simp [List.countP_append, accepted, tally.counted]
  answered := by
    have intact : ¬ RejectedFrame checksum pass := fun rejected => accepted (.inr rejected)
    simp [List.countP_append, intact, tally.answered, naks_append, silent]

theorem Tally.reject (tally : Tally checksum r1 0 0 passes) {pass : RecvPass}
    (rejected : RejectedFrame checksum pass) (silent : naks pass.calls = 0) :
    Tally checksum r1 1 1 (passes ++ [pass]) where
  counted := by
    have either : Rejected checksum pass := .inr rejected
    simp [List.countP_append, either, tally.counted]
  answered := by simp [List.countP_append, rejected, tally.answered, naks_append, silent]

theorem Tally.rejectEnquiry (tally : Tally checksum r1 0 0 passes) {pass : RecvPass}
    (rejected : RejectedEnquiry pass) (intact : ¬ RejectedFrame checksum pass) (silent : naks pass.calls = 0) :
    Tally checksum r1 1 0 (passes ++ [pass]) where
  counted := by
    have either : Rejected checksum pass := .inl rejected
    simp [List.countP_append, either, tally.counted]
  answered := by simp [List.countP_append, intact, tally.answered, naks_append, silent]

theorem Tally.answer (tally : Tally checksum r1 uncounted 1 passes) {pass : RecvPass}
    (accepted : ¬ Rejected checksum pass) (one : naks pass.calls = 1) :
    Tally checksum r1 uncounted 0 (passes ++ [pass]) where
  counted := by simp [List.countP_append, accepted, tally.counted]
  answered := by
    have intact : ¬ RejectedFrame checksum pass := fun rejected => accepted (.inr rejected)
    simp [List.countP_append, intact, tally.answered, naks_append, one]

theorem Tally.count (tally : Tally checksum r1 1 unanswered passes) : Tally checksum (r1 + 1) 0 unanswered passes :=
  { tally with counted := tally.counted }

/-- A state that reads no part of a frame and is not the enquiry rejects nothing. -/
theorem accepted_elsewhere {receiving : Receiving} (outside : ¬ receiving.context.reads state)
    (other : state ≠ .enquiry) : ¬ Rejected checksum ⟨.running state loop receiving, calls, after⟩ := by
  rintro (⟨here, _⟩ | ⟨inside, _⟩)
  · exact other here
  · exact outside inside

theorem accepted_read {receiving : Receiving} {call : Call} (other : state ≠ .enquiry)
    (arrived : reply.result = .success) (expected : Expected checksum receiving.context reply state) :
    ¬ Rejected checksum ⟨.running state loop receiving, [(call, reply)], after⟩ := by
  rintro (⟨here, _⟩ | ⟨_, answer, member, denied⟩)
  · exact other here
  · obtain rfl := List.mem_singleton.mp member
    rcases denied with silent | ⟨_, other⟩
    · cases arrived.symm.trans silent
    · exact other expected

theorem accepted_skipped {receiving : Receiving} : ¬ Rejected checksum ⟨.running state loop receiving, [], after⟩ := by
  rintro (⟨_, _, _, member, _⟩ | ⟨_, _, member, _⟩)
  · cases member
  · cases member

theorem accepted_enquiry {receiving : Receiving}
    (taken : (∃ call ∈ calls, call.2.result = .timeout) → ∀ byte ∈ loop, byte = ControlCode.enq ∨
      byte = ControlCode.nak) :
    ¬ Rejected checksum ⟨.running .enquiry loop receiving, calls, after⟩ := by
  rintro (⟨_, ⟨byte, last, notEnquiry, notDenial⟩, silent⟩ | ⟨inside, _⟩)
  · rcases taken silent byte last with enquiry | denial
    · exact notEnquiry enquiry
    · exact notDenial denial
  · exact inside

structure Going (checksum : List UInt8 → UInt8) (receiving : Receiving) (passes : List RecvPass) : Prop where
  tally : Tally checksum receiving.r1 0 0 passes
  left : receiving.r1 < kMaxNumberOfRecvAttempts

theorem Going.accept {receiving later : Receiving} (going : Going checksum receiving passes)
    (accepted : ¬ Rejected checksum ⟨.running state loop receiving, calls, after⟩) (silent : naks calls = 0)
    (same : later.r1 = receiving.r1) :
    Going checksum later (passes ++ [⟨.running state loop receiving, calls, after⟩]) where
  tally := same ▸ going.tally.accept accepted silent
  left := same ▸ going.left

structure Closed (checksum : List UInt8 → UInt8) (receiving : Receiving) (passes : List RecvPass) : Prop where
  tally : Tally checksum receiving.r1 0 0 passes
  decided : receiving.context.result = false ↔ receiving.r1 = kMaxNumberOfRecvAttempts

/-- Only the states of a retry have a rejected attempt that is not counted yet. -/
def RecvAccount (checksum : List UInt8 → UInt8) (passes : List RecvPass) : RecvConfig → Prop
  | .running .idle _ _ => passes = []
  | .running .nak _ receiving => Tally checksum receiving.r1 1 1 passes ∧ receiving.r1 < kMaxNumberOfRecvAttempts
  | .running .retry _ receiving => Tally checksum receiving.r1 1 0 passes ∧ receiving.r1 < kMaxNumberOfRecvAttempts
  | .running .error _ receiving => Tally checksum receiving.r1 0 0 passes ∧ receiving.r1 = kMaxNumberOfRecvAttempts
  | .running .end _ receiving => Closed checksum receiving passes
  | .ended receiving => Closed checksum receiving passes
  | .running _ _ receiving => Going checksum receiving passes

theorem naks_read : naks [(frameCall context state, reply)] = 0 := by
  cases state <;> rfl

theorem RecvAccount.going (reads : context.reads state)
    (account : RecvAccount checksum passes (.running state loop ⟨context, r1⟩)) :
    Going checksum ⟨context, r1⟩ passes := by
  cases state with
  | stx | len | datacmd | dataextlen | dataframenumber | data | etx | cs => exact account
  | idle | poll | repoll | enquiry | ack | ack2 | nak | retry | done | error | «end» => cases reads

/-- Over a plain line a read inside a frame that ends in a NAK is a rejection. -/
theorem rejected_of_denied (reads : context.reads state) (denied : Denied checksum context state reply)
    (plain : Plain (frameCall context state, reply)) :
    RejectedFrame checksum ⟨.running state loop ⟨context, r1⟩, [(frameCall context state, reply)], after⟩ := by
  refine ⟨reads, _, List.mem_singleton_self _, ?_⟩
  rcases denied with silent | other | ⟨rfl, failed⟩
  · exact .inl silent
  · exact .inr other
  · rcases plain with arrived | silent
    · cases failed.symm.trans arrived
    · exact .inl silent

theorem plain_frameCall (reads : context.reads state) (plain : Plain (frameCall context state, reply)) :
    reply.result ≠ .error := by
  have either : reply.result = .success ∨ reply.result = .timeout := by
    cases state with
    | stx | len | datacmd | dataextlen | dataframenumber | data | etx | cs => exact plain
    | idle | poll | repoll | enquiry | ack | ack2 | nak | retry | done | error | «end» => cases reads
  rcases either with arrived | silent
  · simp [arrived]
  · simp [silent]

theorem RecvAccount.step {config : RecvConfig} (account : RecvAccount checksum passes config) (typed : Typed config)
    (step : (recvMachine checksum).Step config calls after) (plain : ∀ call ∈ calls, Plain call) :
    RecvAccount checksum (passes ++ [⟨config, calls, after⟩]) after := by
  obtain ⟨state, loop, context, r1, rfl, move⟩ := recv_move step
  cases move with
  | idle =>
    cases account
    have none : Tally checksum 0 0 0 ([] : List RecvPass) := ⟨rfl, rfl⟩
    exact ⟨none.accept accepted_skipped rfl, Nat.succ_pos _⟩
  | polled locked arrived =>
    exact account.accept (accepted_elsewhere id RecvState.noConfusion) rfl rfl
  | pollFailed failed => exact absurd (plain _ (List.mem_singleton_self _)) failed
  | repoll unlocked => exact account.accept (accepted_elsewhere id RecvState.noConfusion) rfl rfl
  | @enquiryByte loop reply arrived =>
    refine account.accept (accepted_enquiry ?_) rfl rfl
    rintro ⟨call, member, silent⟩
    obtain rfl := List.mem_singleton.mp member
    cases arrived.symm.trans silent
  | enquired quiet =>
    refine account.accept (accepted_enquiry fun _ byte last => .inl ?_) rfl rfl
    exact (Option.mem_some.mp last).symm
  | unasked quiet nothing =>
    refine account.accept (accepted_enquiry fun _ byte last => .inr ?_) rfl rfl
    rcases nothing with rfl | rfl
    · cases last
    · exact (Option.mem_some.mp last).symm
  | strange quiet notEnquiry notDenial =>
    refine ⟨account.tally.rejectEnquiry
      ⟨rfl, ⟨_, rfl, notEnquiry, notDenial⟩, _, List.mem_singleton_self _, quiet⟩ ?_ rfl,
      account.left⟩
    exact fun rejected => rejected.1
  | enquiryFailed failed =>
    rcases plain _ (List.mem_singleton_self _) with arrived | silent
    · cases failed.symm.trans arrived
    · cases failed.symm.trans silent
  | ack accepted => exact account.accept (accepted_elsewhere id RecvState.noConfusion) rfl rfl
  | ackFailed refused => exact absurd (plain _ (List.mem_singleton_self _)) refused
  | stx arrived code => exact account.accept (accepted_read RecvState.noConfusion arrived code) rfl rfl
  | lenExtended arrived code =>
    exact account.accept (accepted_read RecvState.noConfusion arrived (.inl code)) rfl rfl
  | lenRegular arrived other atLeast atMost =>
    exact account.accept (accepted_read RecvState.noConfusion arrived (.inr ⟨atLeast, atMost⟩)) rfl rfl
  | datacmd arrived =>
    exact account.accept (accepted_read RecvState.noConfusion arrived trivial) rfl rfl
  | dataextlen extended arrived =>
    exact account.accept (accepted_read RecvState.noConfusion arrived trivial) rfl rfl
  | dataextlenSkipped regular => exact account.accept accepted_skipped rfl rfl
  | dataframenumber divided arrived =>
    exact account.accept (accepted_read RecvState.noConfusion arrived trivial) rfl rfl
  | dataframenumberSkipped undivided => exact account.accept accepted_skipped rfl rfl
  | data arrived => exact account.accept (accepted_read RecvState.noConfusion arrived trivial) rfl rfl
  | etx arrived code => exact account.accept (accepted_read RecvState.noConfusion arrived code) rfl rfl
  | cs arrived right => exact account.accept (accepted_read RecvState.noConfusion arrived right) rfl rfl
  | rejected reads denied =>
    have going := account.going reads
    exact ⟨going.tally.reject (rejected_of_denied reads denied (plain _ (List.mem_singleton_self _))) naks_read,
      going.left⟩
  | failed reads notLast failed => exact absurd failed (plain_frameCall reads (plain _ (List.mem_singleton_self _)))
  | ack2 accepted => exact account.accept (accepted_elsewhere id RecvState.noConfusion) rfl rfl
  | ack2Failed refused => exact absurd (plain _ (List.mem_singleton_self _)) refused
  | nak accepted => exact ⟨account.1.answer (accepted_elsewhere id RecvState.noConfusion) rfl, account.2⟩
  | nakFailed refused => exact absurd (plain _ (List.mem_singleton_self _)) refused
  | retry left => exact ⟨(account.1.accept accepted_skipped rfl).count, left⟩
  | exhausted spent =>
    obtain ⟨tally, left⟩ := account
    exact ⟨(tally.accept accepted_skipped rfl).count, Nat.le_antisymm left (Nat.not_lt.mp spent)⟩
  | whole whole =>
    refine ⟨account.tally.accept accepted_skipped rfl, ?_⟩
    simpa using Nat.ne_of_lt account.left
  | piece divided more => exact account.accept accepted_skipped rfl rfl
  | undefined unset => exact absurd unset (typed rfl)
  | error => exact ⟨account.1.accept accepted_skipped rfl, by simpa using account.2⟩
  | finish unlocked =>
    exact ⟨account.tally.accept (accepted_elsewhere id RecvState.noConfusion) rfl, account.decided⟩

theorem recvAccount_path {config : RecvConfig}
    (path : (recvMachine checksum).Path PlainReplies (recvStart checksum r1) passes config) :
    RecvAccount checksum passes config ∧ Typed config := by
  apply path.invariant
  · exact ⟨rfl, Bool.noConfusion⟩
  · intro passes middle calls after ⟨account, typed⟩ step plain
    exact ⟨account.step typed step plain, typed_step typed step⟩

/-- An idle line and a denial received at the enquiry leave the counter as it is. -/
theorem enquiry_uncounted {receiving : Receiving}
    (step : (recvMachine checksum).Step (.running .enquiry loop receiving) calls after)
    (nothing : loop = none ∨ loop = some ControlCode.nak) :
    ¬ Rejected checksum ⟨.running .enquiry loop receiving, calls, after⟩ ∧ after.data.r1 = receiving.r1 := by
  refine ⟨accepted_enquiry fun _ byte last => .inr ?_, ?_⟩
  · rcases nothing with rfl | rfl
    · cases last
    · exact (Option.mem_some.mp last).symm
  · obtain ⟨state, other, context, r1, same, move⟩ := recv_move step
    cases same
    cases move with
    | rejected reads denied => cases reads
    | failed reads notLast failed => cases reads
    | _ => rfl

/-- Over a plain line a receive fails exactly when its attempts are used up, and
the counter and the NAKs written tell what it has rejected. -/
theorem receive_accounted {passes : List RecvPass} {receiving : Receiving}
    (path : (recvMachine checksum).Path PlainReplies (recvStart checksum r1) passes (.ended receiving)) :
    (receiving.context.result = false ↔ receiving.r1 = 5) ∧
      receiving.r1 = passes.countP (Rejected checksum ·) ∧
      naks (callsOf passes) = passes.countP (RejectedFrame checksum ·) ∧
      ∀ pass ∈ passes, ∀ loop began, pass.before = .running .enquiry loop began →
        loop = none ∨ loop = some ControlCode.nak →
          ¬ Rejected checksum pass ∧ pass.after.data.r1 = began.r1 := by
  obtain ⟨tally, decided⟩ := (recvAccount_path path).1
  refine ⟨decided, tally.counted.symm, tally.answered.symm, ?_⟩
  rintro ⟨before, calls, after⟩ member loop began rfl nothing
  exact enquiry_uncounted (path.stepped _ member) nothing

/-- A peer that sends a stray byte, then an enquiry without a frame, then the message. -/
theorem stray_accounted : ∃ passes receiving,
    (recvMachine List.sum).Path PlainReplies (recvStart List.sum 0) passes (.ended receiving) ∧ receiving.r1 = 2 ∧
      (receiving.context.result = false ↔ receiving.r1 = 5) ∧
      receiving.r1 = passes.countP (Rejected List.sum ·) ∧
      naks (callsOf passes) = passes.countP (RejectedFrame List.sum ·) ∧
      ∀ pass ∈ passes, ∀ loop began, pass.before = .running .enquiry loop began →
        loop = none ∨ loop = some ControlCode.nak →
          ¬ Rejected List.sum pass ∧ pass.after.data.r1 = began.r1 := by
  let ok : Response := ⟨.success, []⟩
  let silent : Response := ⟨.timeout, []⟩
  let byte (value : UInt8) : Response := ⟨.success, [value]⟩
  let enquiry := [ok, ok, byte ControlCode.enq, silent, ok]
  have ran : ((recvMachine List.sum).checkedScript (fun _ calls _ => decide (∀ call ∈ calls, Plain call)) 40
      (recvStart List.sum 0) ([ok, ok, byte 65, silent, ok] ++ enquiry ++ [silent, ok, ok] ++ enquiry ++
        [byte 2, byte 5, ⟨.success, [1, 2, 3]⟩, ok, byte 3, byte 14, ok, ok])).map (fun result => result.1) =
          some (.ended ⟨⟨[], [2, 5, 1, 2, 3, 3, 14], true, .regular, 3, 0, 0⟩, 2⟩) := by
    decide +kernel
  obtain ⟨⟨config, trace, rest⟩, scripted, rfl⟩ := Option.map_eq_some_iff.mp ran
  have run := (run_of_script scripted).mono fun _ _ _ checked => of_decide_eq_true checked
  obtain ⟨passes, path, _⟩ := run.path
  exact ⟨passes, _, path, rfl, receive_accounted path⟩

end Protocol
end CpuCom.Uart
