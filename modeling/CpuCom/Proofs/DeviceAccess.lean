import CpuCom.Uart.Access

/-! Exclusive use of the device. Every handler of both machines hands the lock on
as its state says, except where the sender closes and opens the port, or where a
poll fails and the receive ends as if it held the lock. -/

namespace CpuCom.Uart.Protocol
open Interaction Threads

def sendHolds : SendConfig → Bool
  | .running .idle _ _ => false
  | .running .enquiry _ _ => false
  | .running _ _ _ => true
  | .ended _ => false

def recvHolds : RecvConfig → Bool
  | .running .idle _ _ => false
  | .running .poll _ _ => false
  | .running _ _ _ => true
  | .ended _ => false

def holdsAtRest : (party : Party) → Task party → Bool
  | .sender, config => sendHolds config
  | .receiver, config => recvHolds config

/-- The attempts after which `sendRetry` closes and opens the port. -/
def Reinitialises (sending : Sending) : Prop :=
  sending.r2 + 1 < kMaxNumberOfSendAttempts ∧ (sending.r2 + 1) % kSendAttemptsForPortReinit = 0

instance : DecidablePred Reinitialises := fun _ => inferInstanceAs (Decidable (_ ∧ _))

def PortKept : (party : Party) → Task party → Prop
  | .sender, config => config.state? = some .retry → ¬ Reinitialises config.data
  | .receiver, _ => True

def PollSucceeds (call : Call) (reply : Response) : Prop := call.lockUse = .free → reply.result = .success

instance : ∀ (party : Party) (task : Task party), Decidable (PortKept party task)
  | .sender, _ => inferInstanceAs (Decidable (_ → _))
  | .receiver, _ => isTrue trivial

instance (call : Call) (reply : Response) : Decidable (PollSucceeds call reply) :=
  inferInstanceAs (Decidable (_ → _))

/-- Nothing happens after which a party works without the lock. -/
abbrev Undisturbed : Action Task Call Response → Prop := Action.Meets PollSucceeds PortKept

/-- The handlers that work with the lock in hand and keep it. -/
private abbrev WhileHolding {α : Type} (program : CallProgram α) : Prop :=
  program.Keeps Call.lockUse PollSucceeds (fun _ holds => holds = true) true

private theorem holding_request {α : Type} {call : Call} {next : Response → CallProgram α}
    (needed : call.lockUse = .guarded) (continues : ∀ reply, WhileHolding (next reply)) :
    WhileHolding (Program.request call >>= next) := by
  rw [Program.request_bind]
  unfold WhileHolding Program.Keeps
  rw [needed]
  exact ⟨rfl, fun reply _ => continues reply⟩

private theorem holding_signal {γ β : Type} {data : γ} {handler : CallProgram Event} (holding : WhileHolding handler) :
    WhileHolding (signal data handler : CallProgram (γ × Flow β Event)) :=
  holding.bind fun _ _ held => held

private theorem holding_once {γ β : Type} {handler : CallProgram (γ × Event)} (holding : WhileHolding handler) :
    WhileHolding (once handler : CallProgram (γ × Flow β Event)) :=
  holding.bind fun _ _ held => held

private theorem holding_onContext {receiving : Receiving} {handler : RecvContext → CallProgram (RecvContext × Event)}
    (holding : WhileHolding (handler receiving.context)) : WhileHolding (onContext receiving handler) :=
  holding.bind fun _ _ held => held

private theorem holding_writing {call : Call} (needed : call.lockUse = .guarded) :
    WhileHolding (Program.request call >>= fun response : Response =>
      if response.result = .success then (pure .pass : CallProgram Event) else pure .fail) := by
  apply holding_request needed
  intro reply
  split
  · exact rfl
  · exact rfl

private theorem sendReenquiry_holding : WhileHolding sendReenquiry := by
  apply holding_request rfl
  intro drained
  cases drained.result with
  | success => exact rfl
  | error => exact rfl
  | timeout =>
    apply holding_request rfl
    intro written
    split
    · exact rfl
    · exact rfl

private theorem sendAcknowledgement_holding : WhileHolding sendAcknowledgement := by
  apply holding_request rfl
  intro reply
  cases reply.result with
  | timeout => exact rfl
  | error => exact rfl
  | success =>
    dsimp only
    split
    · exact rfl
    · split
      · exact rfl
      · split
        · exact rfl
        · exact rfl

private theorem sendFrame_holding (sending : Sending) : WhileHolding (sendFrame sending) := by
  unfold sendFrame
  split
  · exact trivial
  · exact holding_writing rfl

/-- A state that works with the lock in hand and passes it on to every successor. -/
private theorem keeps_of_holding {σ ε β γ : Type} [DecidableEq σ] {machine : FiniteStateMachine σ ε β Call Response γ}
    {atRest : Config σ β γ → Bool} {state : σ} {loop : β} {data : γ}
    (holding : WhileHolding (machine.handler state loop data)) (unfinished : state ≠ machine.finalState)
    (held : ∀ loop after, atRest (.running state loop after) = true)
    (passed : ∀ event after, atRest (.running (machine.transition state event) machine.enter after) = true) :
    (machine.handle state loop data).Keeps Call.lockUse PollSucceeds (fun after holds => holds = atRest after)
      (atRest (.running state loop data)) := by
  rw [held]
  apply holding.bind
  rintro ⟨after, flow⟩ holds rfl
  cases flow with
  | again loop => exact (held loop after).symm
  | event event =>
    change true = atRest (if state = machine.finalState then _ else _)
    rw [if_neg unfinished]
    exact (passed event after).symm

/-- The lock is taken in `enquiry` and given back in `retry`, `wait` and `end`. -/
theorem send_keeps {state : SendState} {loop : Unit} {sending : Sending}
    (kept : PortKept .sender (.running state loop sending)) :
    (sendMachine.handle state loop sending).Keeps Call.lockUse PollSucceeds
      (fun after holds => holds = sendHolds after) (sendHolds (.running state loop sending)) := by
  cases state with
  | idle => exact rfl
  | enquiry => exact ⟨rfl, fun _ _ => rfl⟩
  | reenquiry =>
    have holding : WhileHolding (sendHandler .reenquiry loop sending) := sendReenquiry_holding.bind fun _ _ held => held
    apply keeps_of_holding holding SendState.noConfusion (fun _ _ => rfl)
    intro event after
    cases event <;> rfl
  | ack =>
    apply keeps_of_holding (holding_signal sendAcknowledgement_holding) SendState.noConfusion (fun _ _ => rfl)
    intro event after
    cases event <;> rfl
  | frame =>
    apply keeps_of_holding (holding_signal (sendFrame_holding sending)) SendState.noConfusion (fun _ _ => rfl)
    intro event after
    cases event <;> rfl
  | ack2 =>
    apply keeps_of_holding (holding_signal sendAcknowledgement_holding) SendState.noConfusion (fun _ _ => rfl)
    intro event after
    cases event <;> rfl
  | nak =>
    apply keeps_of_holding (holding_signal (holding_writing rfl)) SendState.noConfusion (fun _ _ => rfl)
    intro event after
    cases event <;> rfl
  | done =>
    have holding : WhileHolding (sendDone sending) := by
      unfold sendDone
      split
      · exact rfl
      · exact rfl
    apply keeps_of_holding (holding_once holding) SendState.noConfusion (fun _ _ => rfl)
    intro event after
    cases event <;> rfl
  | error => exact rfl
  | wait => exact ⟨rfl, fun _ _ => rfl⟩
  | «end» => exact ⟨rfl, fun _ _ => rfl⟩
  | retry =>
    change (once (sendRetry sending) >>= _ : CallProgram SendConfig).Keeps _ _ _ true
    dsimp only [once, sendRetry]
    by_cases left : sending.r2 + 1 < kMaxNumberOfSendAttempts
    · have sixth : ¬ (sending.r2 + 1) % kSendAttemptsForPortReinit = 0 := fun sixth => kept rfl ⟨left, sixth⟩
      rw [if_pos left]
      simp only [if_neg sixth]
      exact ⟨rfl, fun _ _ => rfl⟩
    · rw [if_neg left]
      exact rfl

section
variable {checksum : List UInt8 → UInt8}

private theorem recvEnquiry_holding (loop : Option UInt8) : WhileHolding (recvEnquiry loop) := by
  cases loop with
  | none =>
    apply holding_request rfl
    intro reply
    cases reply.result <;> exact rfl
  | some byte =>
    apply holding_request rfl
    intro reply
    cases reply.result with
    | success => exact rfl
    | error => exact rfl
    | timeout =>
      dsimp only
      split
      · exact rfl
      · split
        · exact rfl
        · exact rfl

private theorem recvControlCode_holding (code : UInt8) (context : RecvContext) :
    WhileHolding (recvControlCode code context) := by
  apply holding_request rfl
  intro reply
  cases reply.result with
  | timeout => exact rfl
  | error => exact rfl
  | success =>
    dsimp only
    split
    · exact rfl
    · exact rfl

private theorem recvLength_holding (context : RecvContext) : WhileHolding (recvLength context) := by
  apply holding_request rfl
  intro reply
  cases reply.result with
  | timeout => exact rfl
  | error => exact rfl
  | success =>
    dsimp only
    split
    · exact rfl
    · split
      · exact rfl
      · exact rfl

private theorem recvDataExtLen_holding (context : RecvContext) : WhileHolding (recvDataExtLen context) := by
  unfold recvDataExtLen
  split
  · apply holding_request rfl
    intro reply
    cases reply.result <;> exact rfl
  · exact rfl

private theorem recvDataFrameNumber_holding (context : RecvContext) : WhileHolding (recvDataFrameNumber context) := by
  unfold recvDataFrameNumber
  split
  · apply holding_request rfl
    intro reply
    cases reply.result <;> exact rfl
  · exact rfl

private theorem recvChecksum_holding (context : RecvContext) : WhileHolding (recvChecksum checksum context) := by
  apply holding_request rfl
  intro reply
  cases reply.result with
  | timeout => exact rfl
  | error => exact rfl
  | success =>
    dsimp only
    split
    · exact rfl
    · exact rfl

private theorem recvRetry_holding (receiving : Receiving) : WhileHolding (recvRetry receiving) := by
  dsimp only [recvRetry]
  split
  · exact rfl
  · exact rfl

private theorem recvDone_holding (context : RecvContext) : WhileHolding (recvDone context) := by
  unfold recvDone
  split
  · exact rfl
  · exact rfl
  · split
    · exact rfl
    · exact rfl
  · exact rfl

/-- The lock is taken in `poll` and given back in `repoll` and `end`. -/
theorem recv_keeps {state : RecvState} {loop : Option UInt8} {receiving : Receiving} :
    ((recvMachine checksum).handle state loop receiving).Keeps Call.lockUse PollSucceeds
      (fun after holds => holds = recvHolds after) (recvHolds (.running state loop receiving)) := by
  cases state with
  | idle => exact rfl
  | poll =>
    have polled : recvPoll.Keeps Call.lockUse PollSucceeds (fun event holds => event = .pass ∧ holds = true) false := by
      unfold recvPoll
      rw [Program.request_bind]
      refine ⟨trivial, fun ready arrived => ?_⟩
      dsimp only
      rw [if_pos (arrived rfl)]
      exact ⟨rfl, fun _ _ => ⟨rfl, rfl⟩⟩
    have signalled : (recvHandler checksum .poll loop receiving).Keeps Call.lockUse PollSucceeds
        (fun result holds => result = (receiving, .event .pass) ∧ holds = true) false := by
      apply polled.bind
      rintro event holds ⟨rfl, rfl⟩
      exact ⟨rfl, rfl⟩
    apply signalled.bind
    rintro result holds ⟨rfl, rfl⟩
    exact rfl
  | repoll => exact ⟨rfl, fun _ _ => rfl⟩
  | enquiry =>
    have holding : WhileHolding (recvHandler checksum .enquiry loop receiving) :=
      (recvEnquiry_holding loop).bind fun _ _ held => held
    apply keeps_of_holding holding RecvState.noConfusion (fun _ _ => rfl)
    intro event after
    cases event <;> rfl
  | ack =>
    apply keeps_of_holding (holding_signal (holding_writing rfl)) RecvState.noConfusion (fun _ _ => rfl)
    intro event after
    cases event <;> rfl
  | stx =>
    apply keeps_of_holding (holding_onContext (recvControlCode_holding _ _)) RecvState.noConfusion (fun _ _ => rfl)
    intro event after
    cases event <;> rfl
  | len =>
    apply keeps_of_holding (holding_onContext (recvLength_holding _)) RecvState.noConfusion (fun _ _ => rfl)
    intro event after
    cases event <;> rfl
  | datacmd =>
    have holding : WhileHolding (recvDataCommand receiving.context) := holding_request rfl fun _ => rfl
    apply keeps_of_holding (holding_onContext holding) RecvState.noConfusion (fun _ _ => rfl)
    intro event after
    cases event <;> rfl
  | dataextlen =>
    apply keeps_of_holding (holding_onContext (recvDataExtLen_holding _)) RecvState.noConfusion (fun _ _ => rfl)
    intro event after
    cases event <;> rfl
  | dataframenumber =>
    apply keeps_of_holding (holding_onContext (recvDataFrameNumber_holding _)) RecvState.noConfusion (fun _ _ => rfl)
    intro event after
    cases event <;> rfl
  | data =>
    have holding : WhileHolding (recvData receiving.context) := holding_request rfl fun _ => rfl
    apply keeps_of_holding (holding_onContext holding) RecvState.noConfusion (fun _ _ => rfl)
    intro event after
    cases event <;> rfl
  | etx =>
    apply keeps_of_holding (holding_onContext (recvControlCode_holding _ _)) RecvState.noConfusion (fun _ _ => rfl)
    intro event after
    cases event <;> rfl
  | cs =>
    apply keeps_of_holding (holding_onContext (recvChecksum_holding _)) RecvState.noConfusion (fun _ _ => rfl)
    intro event after
    cases event <;> rfl
  | ack2 =>
    apply keeps_of_holding (holding_signal (holding_writing rfl)) RecvState.noConfusion (fun _ _ => rfl)
    intro event after
    cases event <;> rfl
  | nak =>
    apply keeps_of_holding (holding_signal (holding_writing rfl)) RecvState.noConfusion (fun _ _ => rfl)
    intro event after
    cases event <;> rfl
  | retry =>
    apply keeps_of_holding (holding_once (recvRetry_holding _)) RecvState.noConfusion (fun _ _ => rfl)
    intro event after
    cases event <;> rfl
  | done =>
    apply keeps_of_holding (holding_onContext (recvDone_holding _)) RecvState.noConfusion (fun _ _ => rfl)
    intro event after
    cases event <;> rfl
  | error => exact rfl
  | «end» => exact ⟨rfl, fun _ _ => rfl⟩

theorem party_keeps {party : Party} {task : Task party} {next : CallProgram (Task party)} (kept : PortKept party task)
    (enters : Enters checksum party task next) :
    next.Keeps Call.lockUse PollSucceeds (fun after holds => holds = holdsAtRest party after)
      (holdsAtRest party task) := by
  cases enters with
  | send => exact send_keeps kept
  | sendNext data => exact rfl
  | receive => exact recv_keeps
  | receiveNext => exact rfl

theorem parties_disciplined {data : List UInt8} {r1 r2 : Nat} :
    (parties checksum data r1 r2).Disciplined Call.lockUse PollSucceeds holdsAtRest := by
  constructor
  · intro party
    cases party with
    | sender => exact rfl
    | receiver => exact rfl
  · intro _ held
    cases held
  · intro _ _ held
    cases held

/-- In an undisturbed run of both parties, of any messages and with any answers,
no party uses the device while the other holds the lock. -/
theorem device_exclusive {data : List UInt8} {r1 r2 : Nat} {before after : Parties} {party other : Party}
    {call : Call} {reply : Response}
    (reached : Reaches Call.lockUse (Enters checksum) Undisturbed (parties checksum data r1 r2) before)
    (step : Step Call.lockUse (Enters checksum) before (.call party call reply) after)
    (uses : call.lockUse = .guarded) (different : other ≠ party) : before.holds other = false := by
  have disciplined : before.Disciplined Call.lockUse PollSucceeds holdsAtRest :=
    parties_disciplined.reaches (fun _ _ _ kept enters => party_keeps kept enters) reached
  exact disciplined.guarded step uses different

end

/-- The receiver has seen a byte and waits for the lock that the sender has taken. -/
theorem drains_alone :
    ∃ before after, Reaches Call.lockUse (Enters List.sum) Undisturbed (parties List.sum [] 0 0) before ∧
    Step Call.lockUse (Enters List.sum) before (.call .sender (.read .immediate) ⟨.timeout, []⟩) after ∧
    before.due .receiver = some .lock ∧ before.holds .receiver = false := by
  have ran : ((parties List.sum [] 0 0).schedule Call.lockUse (enter List.sum) Undisturbed
      (List.replicate 3 (.receiver, ⟨.success, []⟩) ++ List.replicate 4 (.sender, ⟨.success, []⟩))).map
        (fun threads => (threads.due .sender, threads.due .receiver)) =
      some (some (.read .immediate), some .lock) := by
    decide +kernel
  obtain ⟨before, ran, same⟩ := Option.map_eq_some_iff.mp ran
  obtain ⟨due, waits⟩ := Prod.mk.inj same
  have reached := reaches_of_schedule (enter_sound List.sum) ran
  obtain ⟨after, step⟩ := step_of_due Call.lockUse (Enters List.sum) ⟨.timeout, []⟩ due rfl
  exact ⟨before, after, reached, step, waits, device_exclusive reached step rfl Party.noConfusion⟩

/-- An attempt whose enquiry is not answered: the states `enquiry`, `reenquiry`,
`ack` and `retry` with their calls. -/
private def unanswered : List (Party × Response) :=
  [(.sender, ⟨.success, []⟩), (.sender, ⟨.success, []⟩), (.sender, ⟨.success, []⟩), (.sender, ⟨.timeout, []⟩),
    (.sender, ⟨.success, []⟩), (.sender, ⟨.success, []⟩), (.sender, ⟨.timeout, []⟩), (.sender, ⟨.success, []⟩),
    (.sender, ⟨.success, []⟩)]

/-- After six enquiries without an answer the sender closes the port when the
receiver has taken the lock. -/
theorem closed_under_receiver : ¬ ∀ (before after : Parties) (party other : Party) (call : Call) (reply : Response),
    Reaches Call.lockUse (Enters List.sum) (fun _ => True) (parties List.sum [] 0 0) before →
    Step Call.lockUse (Enters List.sum) before (.call party call reply) after →
    call.lockUse = .guarded → other ≠ party → before.holds other = false := by
  intro claimed
  have ran : ((parties List.sum [] 0 0).schedule Call.lockUse (enter List.sum) (fun _ => True)
      ((.sender, ⟨.success, []⟩) :: (List.replicate 6 unanswered).flatten ++
        List.replicate 4 (.receiver, ⟨.success, []⟩))).map
        (fun threads => (threads.due .sender, threads.holds .receiver)) = some (some .close, true) := by
    decide +kernel
  obtain ⟨before, ran, same⟩ := Option.map_eq_some_iff.mp ran
  obtain ⟨due, held⟩ := Prod.mk.inj same
  have reached := reaches_of_schedule (enter_sound List.sum) ran
  obtain ⟨after, step⟩ := step_of_due Call.lockUse (Enters List.sum) ⟨.success, []⟩ due rfl
  have free := claimed before after .sender .receiver .close ⟨.success, []⟩ reached step rfl Party.noConfusion
  rw [held] at free
  cases free

end CpuCom.Uart.Protocol
