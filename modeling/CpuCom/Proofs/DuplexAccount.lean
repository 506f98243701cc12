import CpuCom.Proofs.RecvProgress
import CpuCom.Uart.Duplex

/-! A sender does not take more frames for delivered than the receiver has accepted,
however the two get out of step. Each frame that it takes for delivered costs it two
acknowledgements in a row, and the receiver does not admit two enquiries in a row. -/

namespace CpuCom.Uart.Protocol
open Interaction FiniteStateMachine

def confirms : Option (Call × Response) → Call × Response → Bool
  | some (.write _, written), (.read timeout, reply) =>
      timeout = kTimeout3 ∧ written.result = .success ∧ reply.result = .success ∧ reply.byte = ControlCode.ack
  | _, _ => false

/-- The frames that a sender takes for delivered. -/
def confirmations (trace : List (Call × Response)) : Nat := following confirms none trace

theorem confirmations_snoc (trace : List (Call × Response)) (call : Call × Response) :
    confirmations (trace ++ [call]) = confirmations trace + if confirms trace.getLast? call then 1 else 0 := by
  rw [confirmations, following_snoc, Option.or_none, ← confirmations]

/-- The last two calls are an enquiry and its acknowledgement. -/
def Welcomed (history : List (Call × Response)) : Prop :=
  ∃ before written reply, history = before ++ [(.writeByte ControlCode.enq, written), (.read kTimeout3, reply)] ∧
    reply.Acknowledges

def isFrame : Call → Bool
  | .write _ => true
  | _ => false

/-- A frame is written only when an enquiry has just been acknowledged. -/
def FrameDue (before : List (Call × Response)) (call : Call × Response) : Prop :=
  isFrame call.1 = true → Welcomed before

structure SenderPast (history : List (Call × Response)) (config : SendConfig) : Prop where
  heeding : Heeding FrameDue history
  enquired : config.state? = some .ack → ∃ before written, history = before ++ [(.writeByte ControlCode.enq, written)]
  welcomed : config.state? = some .frame → Welcomed history

variable {history calls : List (Call × Response)}

private theorem send_frameless {sending : Sending} {state : SendState} {after : SendConfig}
    (move : SendMove sending state calls after) (other : state ≠ .frame) : ∀ call ∈ calls, isFrame call.1 = false := by
  cases move with
  | write found accepted => exact absurd rfl other
  | writeFailed found refused => exact absurd rfl other
  | _ => simp [isFrame]

theorem SenderPast.step {config after : SendConfig} (past : SenderPast history config)
    (step : sendMachine.Step config calls after) : SenderPast (history ++ calls) after := by
  obtain ⟨state, sending, rfl, move⟩ := send_move step
  obtain ⟨heeding, enquired, welcomed⟩ := past
  have quiet (other : state ≠ .frame) : Heeding FrameDue (history ++ calls) :=
    heeding.append fun call member _ frame =>
      Bool.noConfusion ((send_frameless move other call member).symm.trans frame)
  cases move with
  | @enquire silent written still accepted =>
    refine ⟨quiet SendState.noConfusion, fun _ => ⟨history ++ [(.read .immediate, silent)], written, ?_⟩, nofun⟩
    rw [List.append_assoc, List.singleton_append]
  | @admitted reply acknowledged =>
    obtain ⟨before, written, rfl⟩ := enquired rfl
    refine ⟨quiet SendState.noConfusion, nofun, fun _ => ⟨before, written, reply, ?_, acknowledged⟩⟩
    rw [List.append_assoc, List.singleton_append]
  | write found accepted => exact ⟨heeding.snoc fun _ => welcomed rfl, nofun, nofun⟩
  | writeFailed found refused => exact ⟨heeding.snoc fun _ => welcomed rfl, nofun, nofun⟩
  | _ => exact ⟨quiet SendState.noConfusion, nofun, nofun⟩

/-- What a code written by a receiver stands for. -/
inductive Mark where
  | admission
  | acceptance
  | other (code : UInt8) (different : code ≠ ControlCode.ack)
deriving DecidableEq

namespace Mark

def code : Mark → UInt8
  | .admission => ControlCode.ack
  | .acceptance => ControlCode.ack
  | .other code _ => code

theorem of_ack {mark : Mark} (acknowledges : mark.code = ControlCode.ack) : mark = .admission ∨ mark = .acceptance := by
  cases mark with
  | admission => exact .inl rfl
  | acceptance => exact .inr rfl
  | other code different => exact absurd acknowledges different

end Mark

/-- What a call means in view of the one before it. -/
def marked (last : Option (Call × Response)) (call : Call × Response) : List Mark :=
  match call with
  | (.writeByte code, reply) =>
      if reply.result ≠ .success then []
      else if different : code ≠ ControlCode.ack then [.other code different]
      else if last.map Prod.fst = some (.read kTimeout4) then [.acceptance]
      else [.admission]
  | _ => []

def marks : Option (Call × Response) → List (Call × Response) → List Mark
  | _, [] => []
  | last, call :: calls => marked last call ++ marks (some call) calls

theorem marks_append (last : Option (Call × Response)) (first rest : List (Call × Response)) :
    marks last (first ++ rest) = marks last first ++ marks (first.getLast?.or last) rest := by
  induction first generalizing last with
  | nil => rfl
  | cons call first ih =>
    rw [List.cons_append, marks, marks, ih, List.append_assoc, List.getLast?_cons]
    cases first.getLast? <;> rfl

theorem marks_snoc (trace : List (Call × Response)) (call : Call × Response) :
    marks none (trace ++ [call]) = marks none trace ++ marked trace.getLast? call := by
  rw [marks_append, Option.or_none, marks, marks, List.append_nil]

private theorem count_marked (last : Option (Call × Response)) (call : Call × Response) :
    (marked last call).count .acceptance = if accepts last call then 1 else 0 := by
  obtain ⟨request, reply⟩ := call
  cases request with
  | writeByte code =>
    by_cases accepted : reply.result = .success
    · by_cases acknowledged : code = ControlCode.ack
      · by_cases checked : last.map Prod.fst = some (.read kTimeout4) <;>
          simp [marked, accepts, accepted, acknowledged, checked]
      · simp [marked, accepts, accepted, acknowledged]
    · simp [marked, accepts, accepted]
  | _ => rfl

theorem count_marks (last : Option (Call × Response)) (trace : List (Call × Response)) :
    (marks last trace).count .acceptance = following accepts last trace := by
  induction trace generalizing last with
  | nil => rfl
  | cons call trace ih => rw [marks, List.count_append, count_marked, ih, following]

theorem map_code_marked (last : Option (Call × Response)) {call : Call × Response} (frameless : isFrame call.1 = false) :
    (marked last call).map Mark.code = Duplex.puts call := by
  obtain ⟨request, reply⟩ := call
  cases request with
  | writeByte code =>
    unfold marked Duplex.puts
    by_cases accepted : reply.result = .success
    · by_cases acknowledged : code = ControlCode.ack
      · by_cases checked : last.map Prod.fst = some (.read kTimeout4) <;>
          simp [accepted, acknowledged, checked, Mark.code]
      · simp [accepted, acknowledged, Mark.code]
    · simp [accepted]
  | write frame => exact Bool.noConfusion frameless
  | _ => rfl

/-- An enquiry is not admitted right after another. -/
def Spaced (before : List Mark) (mark : Mark) : Prop := mark = .admission → before.getLast? ≠ some .admission

def admitting : RecvState → Bool
  | .stx | .len | .datacmd | .dataextlen | .dataframenumber | .data | .etx | .cs | .ack2 | .nak => true
  | _ => false

structure ReceiverPast (history : List (Call × Response)) (config : RecvConfig) : Prop where
  ready : RecvReady history config
  frameless : ∀ call ∈ history, isFrame call.1 = false
  spaced : Heeding Spaced (marks none history)
  settled : (∀ state ∈ config.state?, admitting state = false) → (marks none history).getLast? ≠ some .admission

variable {checksum : List UInt8 → UInt8} {config after : RecvConfig}

def isSilent : Call → Bool
  | .writeByte _ => false
  | .write _ => false
  | _ => true

private theorem marks_silent (last : Option (Call × Response)) (silent : ∀ call ∈ calls, isSilent call.1 = true) :
    marks last calls = [] := by
  induction calls generalizing last with
  | nil => rfl
  | cons call calls ih =>
    obtain ⟨now, later⟩ := List.forall_mem_cons.mp silent
    obtain ⟨request, reply⟩ := call
    rw [marks, ih _ later, List.append_nil]
    cases request with
    | writeByte code => exact Bool.noConfusion now
    | _ => rfl

private theorem frameless_silent {call : Call} (silent : isSilent call = true) : isFrame call = false := by
  cases call with
  | write frame => exact Bool.noConfusion silent
  | _ => rfl

private theorem ReceiverPast.quiet (past : ReceiverPast history config) (ready : RecvReady (history ++ calls) after)
    (silent : ∀ call ∈ calls, isSilent call.1 = true)
    (still : (∀ state ∈ after.state?, admitting state = false) → ∀ state ∈ config.state?, admitting state = false) :
    ReceiverPast (history ++ calls) after := by
  have same : marks none (history ++ calls) = marks none history := by
    rw [marks_append, marks_silent _ silent, List.append_nil]
  refine ⟨ready, ?_, same ▸ past.spaced, fun settled => same ▸ past.settled (still settled)⟩
  exact List.forall_mem_append.mpr ⟨past.frameless, fun call member => frameless_silent (silent call member)⟩

private theorem ReceiverPast.code (past : ReceiverPast history config) {code : UInt8} {written : Response} (mark : Mark)
    (ready : RecvReady (history ++ [(.writeByte code, written)]) after)
    (means : marked history.getLast? (.writeByte code, written) = [mark]) (spaced : Spaced (marks none history) mark)
    (settled : (∀ state ∈ after.state?, admitting state = false) → mark ≠ .admission) :
    ReceiverPast (history ++ [(.writeByte code, written)]) after := by
  have one : marks none (history ++ [(.writeByte code, written)]) = marks none history ++ [mark] := by
    rw [marks_snoc, means]
  refine ⟨ready, ?_, one ▸ past.spaced.snoc spaced, fun still => ?_⟩
  · exact List.forall_mem_append.mpr ⟨past.frameless, List.forall_mem_singleton.mpr rfl⟩
  · rw [one, List.getLast?_concat]
    exact fun same => settled still (Option.some.inj same)

private theorem not_failed {context : RecvContext} {state : RecvState} {reply : Response}
    (plain : Plain (frameCall context state, reply)) : reply.result ≠ .error := by
  intro failed
  cases state <;> exact plain.elim (Result.noConfusion <| failed.symm.trans ·) (Result.noConfusion <| failed.symm.trans ·)

theorem ReceiverPast.step (past : ReceiverPast history config) (step : (recvMachine checksum).Step config calls after)
    (plain : ∀ call ∈ calls, Plain call) : ReceiverPast (history ++ calls) after := by
  have ready := past.ready.step step
  obtain ⟨state, loop, context, r1, rfl, move⟩ := recv_move step
  have settled (calm : admitting state = false) : (marks none history).getLast? ≠ some .admission :=
    past.settled fun _ same => Option.some.inj same ▸ calm
  cases move with
  | @ack _ written accepted =>
    by_cases checked : history.getLast?.map Prod.fst = some (.read kTimeout4)
    · refine past.code .acceptance ready ?_ nofun fun _ => Mark.noConfusion
      simp [marked, accepted, checked]
    · refine past.code .admission ready ?_ (fun _ => settled rfl) fun still => ?_
      · simp [marked, accepted, checked]
      · exact Bool.noConfusion (still .stx rfl)
  | @ack2 _ written accepted =>
    have checked : history.getLast?.map Prod.fst = some (.read kTimeout4) := past.ready
    refine past.code .acceptance ready ?_ nofun fun _ => Mark.noConfusion
    simp [marked, accepted, checked]
  | @nak _ written accepted =>
    refine past.code (.other ControlCode.nak (by decide)) ready ?_ nofun fun _ => Mark.noConfusion
    simp [marked, accepted, ControlCode.nak, ControlCode.ack]
  | pollFailed failed => exact absurd (plain _ (List.mem_singleton_self _)) failed
  | enquiryFailed failed =>
    rcases plain _ (List.mem_singleton_self _) with arrived | silent
    · exact Result.noConfusion (failed.symm.trans arrived)
    · exact Result.noConfusion (failed.symm.trans silent)
  | ackFailed refused => exact absurd (plain _ (List.mem_singleton_self _)) refused
  | ack2Failed refused => exact absurd (plain _ (List.mem_singleton_self _)) refused
  | nakFailed refused => exact absurd (plain _ (List.mem_singleton_self _)) refused
  | failed reads notLast failed => exact absurd failed (not_failed (plain _ (List.mem_singleton_self _)))
  | @rejected _ _ reply reads denied =>
    refine past.quiet ready ?_ fun still => Bool.noConfusion (still .nak rfl)
    exact List.forall_mem_singleton.mpr (by cases state <;> rfl)
  | _ => exact past.quiet ready (by simp [isSilent]) (by simp [admitting, Config.state?])

section
variable {data : List UInt8} {r1 r2 : Nat}

private theorem sender_rounds {task : SendConfig}
    (rounds : Rounds (Enters checksum .sender) (sendStart checksum data r2) history task) :
    SenderPast history task := by
  refine rounds.invariant (fun _ => True) SenderPast (fun _ _ => trivial) ?_ ?_
  · exact ⟨heeding_nil, nofun, nofun⟩
  · intro history task program calls after past entered returned _
    cases entered with
    | send => exact past.step ⟨_, _, _, rfl, returned⟩
    | sendNext message =>
      obtain ⟨rfl, rfl⟩ := returned
      rw [List.append_nil]
      exact ⟨past.heeding, nofun, nofun⟩

private theorem receiver_rounds {task : RecvConfig}
    (rounds : Rounds (Enters checksum .receiver) (recvStart checksum r1) history task)
    (plain : ∀ call ∈ history, Plain call) : ReceiverPast history task := by
  apply rounds.invariant Plain ReceiverPast plain
  · exact ⟨trivial, nofun, heeding_nil, fun _ => nofun⟩
  · intro history task program calls after past entered returned plain
    cases entered with
    | receive => exact past.step ⟨_, _, _, rfl, returned⟩ plain
    | receiveNext =>
      obtain ⟨rfl, rfl⟩ := returned
      rw [List.append_nil]
      exact ⟨trivial, past.frameless, past.spaced, fun _ => past.settled nofun⟩

private theorem sender_completes (task : SendConfig) (program : CallProgram SendConfig)
    (entered : Enters checksum .sender task program) : program.Completes ∨ program = .throw := by
  cases entered with
  | @send state loop sending =>
    by_cases missing : state = .frame ∧ sending.context.currentFrame = none
    · obtain ⟨rfl, none⟩ := missing
      refine .inr ?_
      simp only [handle, sendMachine, sendHandler, signal, sendFrame, none, Program.throw_bind]
    · exact .inl ((sendHandler_completes fun here none => missing ⟨here, none⟩).bind fun _ => trivial)
  | sendNext message => exact .inl trivial

private theorem receiver_completes (task : RecvConfig) (program : CallProgram RecvConfig)
    (entered : Enters checksum .receiver task program) : program.Completes ∨ program = .throw := by
  cases entered with
  | receive => exact .inl (recvHandler_completes.bind fun _ => trivial)
  | receiveNext => exact .inl trivial

private theorem exists_plain (request : Call) : ∃ reply, Plain (request, reply) := by
  refine ⟨⟨.success, []⟩, ?_⟩
  cases request with
  | read timeout => exact .inl rfl
  | readMulti size timeout => exact .inl rfl
  | writeByte code => rfl
  | write bytes => rfl
  | poll timeout => rfl
  | _ => trivial

theorem sender_heeds {program : CallProgram SendConfig}
    (underway : Underway (Enters checksum .sender) (sendStart checksum data r2) history program) :
    Heeding FrameDue history := by
  refine underway.holds (fun _ => True) (fun _ _ => trivial) sender_completes (fun _ => ⟨⟨.error, []⟩, trivial⟩) ?_ ?_
  · exact fun first rest heeding => heeding.of_prefix (List.prefix_append ..)
  · exact fun rounds _ => (sender_rounds rounds).heeding

structure Spacing (history : List (Call × Response)) : Prop where
  frameless : ∀ call ∈ history, isFrame call.1 = false
  spaced : Heeding Spaced (marks none history)

theorem receiver_spacing {program : CallProgram RecvConfig}
    (underway : Underway (Enters checksum .receiver) (recvStart checksum r1) history program)
    (plain : ∀ call ∈ history, Plain call) : Spacing history := by
  refine underway.holds Plain plain receiver_completes exists_plain ?_ ?_
  · intro first rest ⟨frameless, spaced⟩
    refine ⟨(List.forall_mem_append.mp frameless).1, spaced.of_prefix ?_⟩
    rw [marks_append]
    exact List.prefix_append ..
  · exact fun rounds plain => ⟨(receiver_rounds rounds plain).frameless, (receiver_rounds rounds plain).spaced⟩

end

/-- The sender has spent an acknowledgement on the frame that it is about to write or
has just written. -/
def JustAcknowledged (sent : List (Call × Response)) : Prop :=
  Welcomed sent ∨ ∃ before frame written, sent = before ++ [(.write frame, written)] ∧ Welcomed before

/-- What the sender makes of the codes that it has read or lost. -/
structure Matched (sent : List (Call × Response)) (read : List Mark) : Prop where
  counted : confirmations sent ≤ read.count .acceptance
  held : JustAcknowledged sent → ∃ earlier mark, read = earlier ++ [mark] ∧ mark.code = ControlCode.ack ∧
    confirmations sent ≤ earlier.count .acceptance

variable {sent : List (Call × Response)} {read pending : List Mark} {request : Call} {reply : Response}

private theorem welcomed_snoc (welcomed : Welcomed (sent ++ [(request, reply)])) :
    (∃ before written, sent = before ++ [(.writeByte ControlCode.enq, written)]) ∧ request = .read kTimeout3 ∧
      reply.Acknowledges := by
  obtain ⟨before, written, answer, same, acknowledged⟩ := welcomed
  have split : sent ++ [(request, reply)] =
      before ++ [(.writeByte ControlCode.enq, written)] ++ [(.read kTimeout3, answer)] := by
    rw [same, List.append_assoc, List.singleton_append]
  obtain ⟨rfl, last⟩ := List.append_inj' split rfl
  obtain ⟨rfl, rfl⟩ := Prod.mk.inj (List.singleton_injective last)
  exact ⟨⟨before, written, rfl⟩, rfl, acknowledged⟩

private theorem justAcknowledged_snoc (acknowledged : JustAcknowledged (sent ++ [(request, reply)])) :
    (request = .read kTimeout3 ∧ reply.Acknowledges) ∨ isFrame request = true ∧ Welcomed sent := by
  rcases acknowledged with welcomed | ⟨before, frame, written, same, welcomed⟩
  · exact .inl (welcomed_snoc welcomed).2
  · obtain ⟨rfl, last⟩ := List.append_inj' same rfl
    obtain ⟨rfl, rfl⟩ := Prod.mk.inj (List.singleton_injective last)
    exact .inr ⟨rfl, welcomed⟩

private theorem confirmations_other (sent : List (Call × Response)) (other : ¬ (request = .read kTimeout3 ∧ reply.Acknowledges)) :
    confirmations (sent ++ [(request, reply)]) = confirmations sent := by
  have none : confirms sent.getLast? (request, reply) = false := by
    cases confirmed : confirms sent.getLast? (request, reply) with
    | false => rfl
    | true =>
      unfold confirms at confirmed
      split at confirmed
      · next same =>
        obtain ⟨rfl, rfl⟩ := Prod.mk.inj same
        obtain ⟨rfl, -, arrived, acknowledged⟩ := of_decide_eq_true confirmed
        exact absurd ⟨rfl, arrived, acknowledged⟩ other
      · exact Bool.noConfusion confirmed
  rw [confirmations_snoc, none, if_neg Bool.false_ne_true, Nat.add_zero]

private theorem Matched.other (matched : Matched sent read) (more : List Mark)
    (nothing : more = [] ∨ isFrame request = false)
    (other : ¬ (request = .read kTimeout3 ∧ reply.Acknowledges)) :
    Matched (sent ++ [(request, reply)]) (read ++ more) := by
  have same := confirmations_other sent other
  refine ⟨?_, fun acknowledged => ?_⟩
  · rw [same, List.count_append]
    exact Nat.le_add_right_of_le matched.counted
  · rcases justAcknowledged_snoc acknowledged with acknowledged | ⟨frame, welcomed⟩
    · exact absurd acknowledged other
    · rcases nothing with rfl | frameless
      · rw [same, List.append_nil]
        exact matched.held (.inl welcomed)
      · exact Bool.noConfusion (frame.symm.trans frameless)

/-- A confirmation comes right after a frame, and the frame after an admission. -/
private theorem written_of_confirms (heeding : Heeding FrameDue sent)
    (confirmed : confirms sent.getLast? (request, reply) = true) :
    ∃ before frame written, sent = before ++ [(.write frame, written)] ∧ Welcomed before := by
  unfold confirms at confirmed
  split at confirmed
  · next found _ =>
    obtain ⟨before, rfl⟩ := List.getLast?_eq_some_iff.mp found
    exact ⟨before, _, _, rfl, heeding.latest rfl⟩
  · exact Bool.noConfusion confirmed

/-- An acknowledgement is read. After a frame it is the second one in a row, so that one
of the two is the acceptance of a frame. -/
private theorem Matched.acknowledged {mark : Mark} (matched : Matched sent read) (heeding : Heeding FrameDue sent)
    (spaced : Spaced read mark) (acknowledges : mark.code = ControlCode.ack) :
    Matched (sent ++ [(.read kTimeout3, reply)]) (read ++ [mark]) := by
  by_cases confirmed : confirms sent.getLast? (.read kTimeout3, reply) = true
  · obtain ⟨before, frame, written, rfl, welcomed⟩ := written_of_confirms heeding confirmed
    obtain ⟨earlier, last, rfl, first, counted⟩ := matched.held (.inr ⟨before, frame, written, rfl, welcomed⟩)
    refine ⟨?_, fun acknowledged => ?_⟩
    · have either : 1 ≤ ([last, mark] : List Mark).count .acceptance := by
        rcases Mark.of_ack acknowledges with rfl | rfl
        · rcases Mark.of_ack first with rfl | rfl
          · exact absurd List.getLast?_concat (spaced rfl)
          · decide
        · exact List.one_le_count_iff.mpr (List.mem_cons_of_mem _ (List.mem_singleton_self _))
      rw [confirmations_snoc, if_pos confirmed, List.append_assoc, List.singleton_append, List.count_append]
      exact Nat.add_le_add counted either
    · rcases acknowledged with welcomed | ⟨_, _, _, same, _⟩
      · obtain ⟨_, _, same⟩ := (welcomed_snoc welcomed).1
        exact Call.noConfusion (congrArg Prod.fst (List.singleton_injective (List.append_inj' same rfl).2))
      · exact Call.noConfusion (congrArg Prod.fst (List.singleton_injective (List.append_inj' same rfl).2))
  · have same : confirmations (sent ++ [(.read kTimeout3, reply)]) = confirmations sent := by
      rw [confirmations_snoc, if_neg confirmed, Nat.add_zero]
    refine ⟨?_, fun _ => ⟨read, mark, rfl, acknowledges, ?_⟩⟩
    · rw [same, List.count_append]
      exact Nat.le_add_right_of_le matched.counted
    · rw [same]
      exact matched.counted

private theorem Matched.takes {rest : List UInt8} (matched : Matched sent read) (heeding : Heeding FrameDue sent)
    (spaced : Heeding Spaced (read ++ pending)) (takes : Duplex.Takes (request, reply) (pending.map Mark.code) rest) :
    ∃ took left, pending = took ++ left ∧ rest = left.map Mark.code ∧
      Matched (sent ++ [(request, reply)]) (read ++ took) := by
  generalize codes : pending.map Mark.code = line at takes
  cases takes with
  | @read timeout _ rest arrived =>
    obtain ⟨mark, left, rfl, same, rfl⟩ := List.map_eq_cons_iff.mp codes
    refine ⟨[mark], left, rfl, rfl, ?_⟩
    by_cases acknowledged : timeout = kTimeout3 ∧ reply.byte = ControlCode.ack
    · obtain ⟨rfl, acknowledged⟩ := acknowledged
      have next := spaced read mark (List.append_cons read mark left ▸ List.prefix_append _ _)
      exact matched.acknowledged heeding next (same.trans acknowledged)
    · refine matched.other [mark] (.inr rfl) fun ⟨answer, acknowledges⟩ => acknowledged ⟨?_, acknowledges.2⟩
      exact Call.read.inj answer
  | @lost _ _ dropped rest port =>
    obtain ⟨took, left, rfl, -, rfl⟩ := List.map_eq_append_iff.mp codes
    refine ⟨took, left, rfl, rfl, ?_⟩
    rcases port with rfl | rfl
    · exact matched.other took (.inr rfl) fun answer => Call.noConfusion answer.1
    · exact matched.other took (.inr rfl) fun answer => Call.noConfusion answer.1
  | nothing silent =>
    refine ⟨[], pending, rfl, codes.symm, ?_⟩
    exact matched.other [] (.inl rfl) fun answer => silent _ answer.1 answer.2.1

/-- What the sender has read or lost, and what is on its way to it, is what the receiver
has written. -/
structure Balanced (checksum : List UInt8 → UInt8) (data : List UInt8) (r1 r2 : Nat)
    (sent received : List (Call × Response)) (duplex : Duplex) : Prop where
  sending : Underway (Enters checksum .sender) (sendStart checksum data r2) sent duplex.sender
  receiving : Underway (Enters checksum .receiver) (recvStart checksum r1) received duplex.receiver
  plain : ∀ call ∈ received, Plain call
  line : ∃ read pending, marks none received = read ++ pending ∧ duplex.toSender = pending.map Mark.code ∧
    Matched sent read

section
variable {data : List UInt8} {r1 r2 : Nat} {received : List (Call × Response)} {duplex : Duplex}

theorem balanced_of_reaches (reached : Duplex.Reaches checksum (Duplex.start checksum data r1 r2) sent received duplex) :
    Balanced checksum data r1 r2 sent received duplex := by
  induction reached with
  | start =>
    refine ⟨.between .start, .between .start, nofun, [], [], rfl, rfl, Nat.le_refl 0, fun acknowledged => ?_⟩
    rcases acknowledged with ⟨before, _, _, same, _⟩ | ⟨before, _, _, same, _⟩
    · exact absurd same (by simp)
    · exact absurd same (by simp)
  | @sends sent received duplex request next reply rest reached due takes ih =>
    obtain ⟨sending, receiving, plain, read, pending, wrote, codes, matched⟩ := ih
    have spaced := (receiver_spacing receiving plain).spaced
    rw [wrote] at spaced
    rw [codes] at takes
    obtain ⟨took, left, rfl, rfl, after⟩ := matched.takes (sender_heeds sending) spaced takes
    refine ⟨(due ▸ sending).call reply, receiving, plain, read ++ took, left, ?_, rfl, after⟩
    rw [wrote, List.append_assoc]
  | @receives sent received duplex request next reply reached due granted ih =>
    obtain ⟨sending, receiving, plain, read, pending, wrote, codes, matched⟩ := ih
    have later := (due ▸ receiving).call reply
    have plain := List.forall_mem_append.mpr ⟨plain, List.forall_mem_singleton.mpr granted⟩
    have frameless := (receiver_spacing later plain).frameless (request, reply) (List.mem_concat_self ..)
    refine ⟨sending, later, plain, read, pending ++ marked received.getLast? (request, reply), ?_, ?_, matched⟩
    · rw [marks_snoc, wrote, List.append_assoc]
    · rw [codes, List.map_append, map_code_marked _ frameless]
  | sendsOn reached finished entered ih =>
    obtain ⟨sending, receiving, plain, line⟩ := ih
    exact ⟨(finished ▸ sending).enter entered, receiving, plain, line⟩
  | receivesOn reached finished entered ih =>
    obtain ⟨sending, receiving, plain, line⟩ := ih
    exact ⟨sending, (finished ▸ receiving).enter entered, plain, line⟩

/-- Of any number of messages, a sender takes no more frames for delivered than the
receiver has accepted. -/
theorem confirmed_le_accepted
    (reached : Duplex.Reaches checksum (Duplex.start checksum data r1 r2) sent received duplex) :
    confirmations sent ≤ acceptances received := by
  obtain ⟨read, pending, wrote, -, matched⟩ := (balanced_of_reaches reached).line
  calc
    confirmations sent ≤ read.count .acceptance := matched.counted
    _ ≤ (marks none received).count .acceptance := by
      rw [wrote, List.count_append]
      exact Nat.le_add_right ..
    _ = acceptances received := count_marks none received

end

private def oneFrame : List Duplex.Turn :=
  let quiet : Response := ⟨.timeout, []⟩
  let done : Response := ⟨.success, []⟩
  let bytes (codes : List UInt8) : Response := ⟨.success, codes⟩
  [.sendOn, .sendOn, .send done, .sendOn, .send quiet, .send done, .sendOn,
    .receiveOn, .receiveOn, .receive done, .receive done, .receiveOn, .receive (bytes [ControlCode.enq]),
    .receiveOn, .receive quiet, .receiveOn, .receive done,
    .send (bytes [ControlCode.ack]), .sendOn, .send done, .sendOn,
    .receiveOn, .receive (bytes [ControlCode.stx]), .receiveOn, .receive (bytes [5]), .receiveOn,
    .receive (bytes [1, 2, 3]), .receiveOn, .receiveOn, .receiveOn, .receive done,
    .receiveOn, .receive (bytes [ControlCode.etx]), .receiveOn, .receive (bytes [14]), .receiveOn, .receive done,
    .send (bytes [ControlCode.ack])]

theorem one_confirmed : ∃ sent received duplex,
    Duplex.Reaches List.sum (Duplex.start List.sum [1, 2, 3] 0 0) sent received duplex ∧ confirmations sent = 1 ∧
      confirmations sent ≤ acceptances received := by
  have counted : (Duplex.play List.sum ([], [], Duplex.start List.sum [1, 2, 3] 0 0) oneFrame).map
      (confirmations ·.1) = some 1 := by decide +kernel
  obtain ⟨⟨sent, received, duplex⟩, played, one⟩ := Option.map_eq_some_iff.mp counted
  have reached := Duplex.reaches_of_play .start played
  exact ⟨sent, received, duplex, reached, one, confirmed_le_accepted reached⟩

end CpuCom.Uart.Protocol
