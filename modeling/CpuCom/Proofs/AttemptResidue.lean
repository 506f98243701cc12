import CpuCom.Interaction.Script
import CpuCom.Proofs.Attempts
import CpuCom.Proofs.FrameLayout

/-! What a rejected attempt leaves behind. `recvRetry` clears the frame, but the
transmission type and the data length stay, and they matter to the next attempt if
its frame is an extended one. -/

namespace CpuCom.Uart.Protocol
open Interaction FiniteStateMachine

/-- The responses left when the extended length comes next hide the residue. They
do where no form or the extended form is left behind. A regular form skips the
extended length, a divided one takes the frame for divided however short it is, and
neither shows only when the next read asks for the same number of bytes and fails. -/
def Hides (residue : RecvContext) (left : List Response) : Prop :=
  match residue.transmitionType with
  | .notDefinedYet => True
  | .extendedLength => True
  | .regular => dataSize residue = kExtLenLength ∧ ∀ reply rest, left = reply :: rest → reply.result ≠ .success
  | .extendedLengthWithFrameDivision => ∀ reply rest, left = reply :: rest → reply.result = .success →
      kMaxExtendedLengthFrameLength < decode24 (reply.fill kExtLenLength) ∨
        decode24 (reply.fill kExtLenLength) = 12 ∧ ∀ next more, rest = next :: more → next.result ≠ .success

variable (checksum : List UInt8 → UInt8)

def firstAttempt : RecvConfig := .running .poll none ⟨.initial, 0⟩

def nextAttempt (receiving : Receiving) : RecvConfig :=
  .running .poll none ⟨{ receiving.context with currentFrame := [] }, receiving.r1 + 1⟩

/-- Wherever the responses bring a first attempt to the extended length of an
extended frame, those left hide the residue. -/
def Harmless (residue : RecvContext) (responses : List Response) : Prop :=
  ∀ passed left loop receiving,
    (recvMachine checksum).Observed verdict firstAttempt passed (.running .dataextlen loop receiving) →
    receiving.context.transmitionType ≠ .regular → passed.map Prod.snd ++ left = responses → Hides residue left

variable {checksum} {residue context : RecvContext} {r1 other : Nat} {loop : Option UInt8} {left : List Response}

private def settle (next : RecvState) (accepted stored : RecvContext) (r1 : Nat) (reply : Response) : RecvConfig :=
  match reply.result with
  | .success => .running next none ⟨accepted, r1⟩
  | .timeout => .running .nak none ⟨stored, r1⟩
  | .error => .running .error none ⟨stored, r1⟩

private theorem pass_dataextlen (extended : context.transmitionType ≠ .regular) :
    (recvMachine checksum).pass (.running .dataextlen loop ⟨context, r1⟩) =
      .call (.readMulti kExtLenLength kTimeout4) fun reply => .pure (settle .dataframenumber
        ((context.store (reply.fill kExtLenLength)).setExtendedLength (decode24 (reply.fill kExtLenLength)))
        (context.store (reply.fill kExtLenLength)) r1 reply) := by
  change (onContext ⟨context, r1⟩ recvDataExtLen >>= _ : CallProgram RecvConfig) = _
  unfold onContext recvDataExtLen
  dsimp only
  rw [if_pos extended]
  apply congrArg (Program.call _)
  funext reply
  change ((match reply.result with | .success => _ | .timeout => _ | .error => _ : CallProgram (RecvContext × Event))
    >>= _) >>= _ = _
  unfold settle
  cases reply.result <;> rfl

private theorem pass_dataextlen_regular (regular : context.transmitionType = .regular) :
    (recvMachine checksum).pass (.running .dataextlen loop ⟨context, r1⟩) =
      .pure (.running .dataframenumber none ⟨context, r1⟩) := by
  change (onContext ⟨context, r1⟩ recvDataExtLen >>= _ : CallProgram RecvConfig) = _
  unfold onContext recvDataExtLen
  dsimp only
  rw [if_neg (not_not.mpr regular)]
  rfl

private def numbered (context : RecvContext) (reply : Response) : RecvContext :=
  { context.store (reply.fill (kFrameNumberLength + kTotalFramesLength)) with
    totalFrames := decode16 ((reply.fill (kFrameNumberLength + kTotalFramesLength)).drop 2)
    frameNumber := decode16 (reply.fill (kFrameNumberLength + kTotalFramesLength)) }

private theorem pass_dataframenumber (divided : context.transmitionType = .extendedLengthWithFrameDivision) :
    (recvMachine checksum).pass (.running .dataframenumber loop ⟨context, r1⟩) =
      .call (.readMulti (kFrameNumberLength + kTotalFramesLength) kTimeout4) fun reply => .pure (settle .data
        (numbered context reply) (context.store (reply.fill (kFrameNumberLength + kTotalFramesLength))) r1 reply) := by
  change (onContext ⟨context, r1⟩ recvDataFrameNumber >>= _ : CallProgram RecvConfig) = _
  unfold onContext recvDataFrameNumber
  dsimp only
  rw [if_pos divided]
  apply congrArg (Program.call _)
  funext reply
  change ((match reply.result with | .success => _ | .timeout => _ | .error => _ : CallProgram (RecvContext × Event))
    >>= _) >>= _ = _
  unfold settle
  cases reply.result <;> rfl

private theorem pass_dataframenumber_skipped (undivided : context.transmitionType ≠ .extendedLengthWithFrameDivision) :
    (recvMachine checksum).pass (.running .dataframenumber loop ⟨context, r1⟩) =
      .pure (.running .data none ⟨context, r1⟩) := by
  change (onContext ⟨context, r1⟩ recvDataFrameNumber >>= _ : CallProgram RecvConfig) = _
  unfold onContext recvDataFrameNumber
  dsimp only
  rw [if_neg undivided]
  rfl

private theorem pass_data :
    (recvMachine checksum).pass (.running .data loop ⟨context, r1⟩) =
      .call (.readMulti (dataSize context) kTimeout4) fun reply => .pure (settle .etx
        (context.store (reply.fill (dataSize context))) (context.store (reply.fill (dataSize context))) r1 reply) := by
  apply congrArg (Program.call _)
  funext reply
  change Program.pure ((recvMachine checksum).follow .data ⟨context.store (reply.fill (dataSize context)), r1⟩
    (.event reply.result.event)) = _
  unfold settle
  cases reply.result <;> rfl

private theorem pass_etx : ∃ next, (recvMachine checksum).pass (.running .etx loop ⟨context, r1⟩) =
    .call (.read kTimeout3) next := ⟨_, rfl⟩

/-- Two reads of the same bytes agree if they do after each success. -/
private theorem agreeOn_settle {one two : RecvConfig} {size : Nat} {next rest : RecvState}
    {accepted stored taken kept : Response → RecvContext} (goesOn : verdict one = none) (continues : verdict two = none)
    (due : (recvMachine checksum).pass one = .call (.readMulti size kTimeout4) fun reply => .pure
      (settle next (accepted reply) (stored reply) r1 reply))
    (expected : (recvMachine checksum).pass two = .call (.readMulti size kTimeout4) fun reply => .pure
      (settle rest (taken reply) (kept reply) other reply)) :
    (recvMachine checksum).AgreeOn verdict left one two ↔ ∀ reply more, left = reply :: more → reply.result = .success →
      (recvMachine checksum).AgreeOn verdict more (.running next none ⟨accepted reply, r1⟩)
      (.running rest none ⟨taken reply, other⟩) := by
  rw [agreeOn_call goesOn continues due expected]
  constructor
  · intro agree reply more same arrived
    have agreed := agree reply more same
    unfold settle at agreed
    rwa [arrived] at agreed
  · intro agree reply more same
    unfold settle
    cases arrived : reply.result with
    | success => exact agree reply more same arrived
    | timeout =>
      have rejected : ∀ context r1, verdict (.running .nak none ⟨context, r1⟩) = some .rejected := fun _ _ => rfl
      exact (agreeOn_stopped (rejected _ _) (rejected _ _)).mpr rfl
    | error =>
      have failed : ∀ context r1, verdict (.running .error none ⟨context, r1⟩) = some .failed := fun _ _ => rfl
      exact (agreeOn_stopped (failed _ _) (failed _ _)).mpr rfl

theorem alongside_agree {one two : RecvConfig} (along : Alongside one two) :
    (recvMachine checksum).AgreeOn verdict left one two := by
  apply agreeOn_of_alike Alongside (fun _ _ => False)
  · exact fun _ _ along => verdict_alongside along
  · intro one two along underway
    exact (alongside_alike along underway).mono fun _ _ => .inl
  · exact along
  · intro _ _ _ _ _ _ impossible
    exact impossible.elim

variable {frame : Frame}

/-- What follows a length read by both: one form for a residue that leaves the form open. -/
private theorem extended_alongside {length : Nat} (alone : residue.completedFrames = [])
    (same : residue.transmitionType = .extendedLengthWithFrameDivision → kMaxExtendedLengthFrameLength < length) :
    Alongside (.running .dataframenumber none ⟨(stale residue frame).setExtendedLength length, r1⟩)
      (.running .dataframenumber none ⟨(fresh frame).setExtendedLength length, other⟩) := by
  refine ⟨⟨trivial, False.elim, ?_, ?_, False.elim⟩⟩
  · dsimp only [RecvContext.setExtendedLength]
    split
    · exact TransmitionType.noConfusion
    · exact TransmitionType.noConfusion
  · have type : ((stale residue frame).setExtendedLength length).transmitionType =
        ((fresh frame).setExtendedLength length).transmitionType := by
      apply if_congr _ rfl rfl
      constructor
      · rintro (long | divided)
        · exact .inl long
        · exact .inl (same divided)
      · rintro (long | impossible)
        · exact .inl long
        · cases impossible
    change RecvContext.mk _ _ _ _ _ _ _ = RecvContext.mk _ _ _ _ _ _ _
    rw [RecvContext.mk.injEq]
    exact ⟨alone, rfl, rfl, type, rfl, rfl, rfl⟩

/-- A regular residue skips the extended length and asks for its own data instead. -/
private theorem skipped_agree_iff (regular : residue.transmitionType = .regular) :
    (recvMachine checksum).AgreeOn verdict left (.running .dataextlen loop ⟨stale residue frame, r1⟩)
        (.running .dataextlen loop ⟨fresh frame, other⟩) ↔
      dataSize residue = kExtLenLength ∧ ∀ reply rest, left = reply :: rest → reply.result ≠ .success := by
  have undivided : (stale residue frame).transmitionType ≠ .extendedLengthWithFrameDivision := by
    intro divided
    cases regular.symm.trans divided
  have skips : (stale residue frame).transmitionType = .regular := regular
  rw [agreeOn_silent rfl (pass_dataextlen_regular skips), agreeOn_silent rfl (pass_dataframenumber_skipped undivided)]
  have expected := @pass_dataextlen checksum (fresh frame) other loop TransmitionType.noConfusion
  constructor
  · intro agree
    have asked := agree.asks rfl rfl pass_data expected
    have size : dataSize residue = kExtLenLength := (Call.readMulti.inj asked).1
    have due := @pass_data checksum (stale residue frame) r1 none
    rw [show dataSize (stale residue frame) = kExtLenLength from size] at due
    refine ⟨size, fun reply rest same arrived => ?_⟩
    have after := (agreeOn_settle rfl rfl due expected).mp agree reply rest same arrived
    obtain ⟨next, reads⟩ := @pass_etx checksum ((stale residue frame).store (reply.fill kExtLenLength)) r1 none
    by_cases divided : (((fresh frame).store (reply.fill kExtLenLength)).setExtendedLength
        (decode24 (reply.fill kExtLenLength))).transmitionType = .extendedLengthWithFrameDivision
    · cases after.asks rfl rfl reads (pass_dataframenumber divided)
    · rw [agreeOn_comm, agreeOn_silent rfl (pass_dataframenumber_skipped divided)] at after
      cases after.asks rfl rfl pass_data reads
  · rintro ⟨size, fails⟩
    have due := @pass_data checksum (stale residue frame) r1 none
    rw [show dataSize (stale residue frame) = kExtLenLength from size] at due
    apply (agreeOn_settle rfl rfl due expected).mpr
    intro reply rest same arrived
    exact absurd arrived (fails reply rest same)

/-- A divided residue reads two numbers where a first attempt reads the data. -/
private theorem divided_agree_iff {length : Nat} (divided : residue.transmitionType = .extendedLengthWithFrameDivision)
    (short : ¬ kMaxExtendedLengthFrameLength < length) :
    (recvMachine checksum).AgreeOn verdict left
        (.running .dataframenumber none ⟨(stale residue frame).setExtendedLength length, r1⟩)
        (.running .dataframenumber none ⟨(fresh frame).setExtendedLength length, other⟩) ↔
      length = 12 ∧ ∀ next more, left = next :: more → next.result ≠ .success := by
  have numbers : ((stale residue frame).setExtendedLength length).transmitionType =
      .extendedLengthWithFrameDivision := if_pos (.inr divided)
  have extended : ((fresh frame).setExtendedLength length).transmitionType = .extendedLength := by
    apply if_neg
    rintro (long | impossible)
    · exact short long
    · cases impossible
  have undivided : ((fresh frame).setExtendedLength length).transmitionType ≠ .extendedLengthWithFrameDivision := by
    rw [extended]
    exact TransmitionType.noConfusion
  have size : dataSize ((fresh frame).setExtendedLength length) = kFrameNumberLength + kTotalFramesLength ↔
      length = 12 := by
    change sub32 (sub32 length 2) (headerLength _) = 4 ↔ _
    rw [extended]
    have limit : length ≤ 1032 := not_lt.mp short
    unfold sub32
    change ((length + (2 ^ 32 - 2)) % 2 ^ 32 + (2 ^ 32 - 6)) % 2 ^ 32 = 4 ↔ _
    omega
  rw [agreeOn_comm, agreeOn_silent rfl (pass_dataframenumber_skipped undivided), agreeOn_comm]
  have due := @pass_dataframenumber checksum _ r1 none numbers
  have expected := @pass_data checksum ((fresh frame).setExtendedLength length) other none
  constructor
  · intro agree
    have asked := agree.asks rfl rfl due expected
    have twelve := size.mp (Call.readMulti.inj asked).1.symm
    refine ⟨twelve, fun reply rest same arrived => ?_⟩
    rw [size.mpr twelve] at expected
    have after := (agreeOn_settle rfl rfl due expected).mp agree reply rest same arrived
    cases after.asks rfl rfl pass_data pass_etx.choose_spec
  · rintro ⟨twelve, fails⟩
    rw [size.mpr twelve] at expected
    apply (agreeOn_settle rfl rfl due expected).mpr
    intro reply rest same arrived
    exact absurd arrived (fails reply rest same)

/-- Where the extended length comes next, the attempts agree if the responses hide the residue. -/
theorem crossing_agree_iff {one two : RecvConfig} (alone : residue.completedFrames = [])
    (crossing : Crossing residue one two) :
    (recvMachine checksum).AgreeOn verdict left one two ↔ Hides residue left := by
  obtain ⟨⟩ := crossing
  rename_i loop frame r1 other
  by_cases regular : residue.transmitionType = .regular
  · rw [skipped_agree_iff regular, Hides, regular]
  · have due := @pass_dataextlen checksum (stale residue frame) r1 loop regular
    have expected := @pass_dataextlen checksum (fresh frame) other loop TransmitionType.noConfusion
    rw [agreeOn_settle rfl rfl due expected]
    by_cases divided : residue.transmitionType = .extendedLengthWithFrameDivision
    · rw [Hides, divided]
      apply forall₄_congr
      intro reply rest same arrived
      by_cases long : kMaxExtendedLengthFrameLength < decode24 (reply.fill kExtLenLength)
      · exact iff_of_true (alongside_agree (extended_alongside alone fun _ => long)) (.inl long)
      · exact (divided_agree_iff divided long).trans (or_iff_right long).symm
    · have hides : Hides residue left := by
        unfold Hides
        cases type : residue.transmitionType with
        | notDefinedYet => trivial
        | extendedLength => trivial
        | regular => exact absurd type regular
        | extendedLengthWithFrameDivision => exact absurd type divided
      apply iff_of_true _ hides
      intro reply rest same arrived
      exact alongside_agree (extended_alongside alone fun impossible => absurd impossible divided)

private def Behind : RecvConfig → Prop
  | .running state _ _ => InFrame state ∧ ¬ BeforeExtLen state
  | .ended _ => False

private theorem behind_step {before after : RecvConfig} {trace : List (Call × Response)}
    (behind : Behind before ∨ before.state? = some .dataextlen) (underway : verdict before = none)
    (step : (recvMachine checksum).Step before trace after) : Behind after := by
  obtain ⟨state, loop, context, r1, rfl, move⟩ := recv_move step
  cases state with
  | dataextlen => cases move <;> exact ⟨trivial, id⟩
  | dataframenumber => cases move <;> exact ⟨trivial, id⟩
  | data => cases move <;> exact ⟨trivial, id⟩
  | etx => cases move <;> exact ⟨trivial, id⟩
  | cs => cases move <;> exact ⟨trivial, id⟩
  | ack2 => cases move <;> exact ⟨trivial, id⟩
  | done => cases underway
  | nak => cases underway
  | error => cases underway
  | datacmd =>
    rcases behind with ⟨_, impossible⟩ | impossible
    · exact absurd trivial impossible
    · cases impossible
  | _ => rcases behind with ⟨impossible, _⟩ | impossible <;> cases impossible

theorem attempts_agree_iff {responses : List Response} (alone : residue.completedFrames = []) :
    (recvMachine checksum).AgreeOn verdict responses (.running .poll none ⟨stale residue [], r1⟩) firstAttempt ↔
      Harmless checksum residue responses := by
  have start : Unread residue (.running .poll none ⟨stale residue [], r1⟩) firstAttempt := ⟨trivial⟩
  have same : ∀ one two, Unread residue one two ∨ Alongside one two → verdict one = verdict two := by
    rintro one two (unread | along)
    · exact verdict_unread residue unread
    · exact verdict_alongside along
  have alike : ∀ one two, Unread residue one two ∨ Alongside one two → verdict one = none →
      ((recvMachine checksum).pass one).Alike (fun first second =>
        (Unread residue first second ∨ Alongside first second) ∨ Crossing residue first second)
        ((recvMachine checksum).pass two) := by
    rintro one two (unread | along) underway
    · exact unread_alike alone unread underway
    · exact (alongside_alike along underway).mono fun _ _ along => .inl (.inr along)
  constructor
  · rintro agree passed left loop receiving run extended rfl
    have leaves : ∀ first second trace after, Crossing residue first second → verdict second = none →
        (recvMachine checksum).Step second trace after → Behind after := by
      rintro _ _ trace after ⟨⟩ underway step
      exact behind_step (.inr rfl) underway step
    rcases agreeOn_reached _ (Crossing residue) same alike leaves (fun _ _ _ behind => behind_step (.inl behind))
      (.inl start) run with behind | ⟨partner, (unread | along) | crossing, agrees⟩
    · exact absurd trivial behind.2
    · obtain ⟨early⟩ := unread
      exact early.elim
    · obtain ⟨form⟩ := along
      exact absurd (form.regular trivial) extended
    · exact (crossing_agree_iff alone crossing).mp (agrees left agree)
  · intro harmless
    apply agreeOn_of_alike _ (Crossing residue) same alike (.inl start)
    rintro passed left first second reached run crossing whole
    apply (crossing_agree_iff alone crossing).mpr
    obtain ⟨⟩ := crossing
    exact harmless passed left _ _ run TransmitionType.noConfusion whole

theorem next_attempt_reached {receiving : Receiving} (left : receiving.r1 + 1 < kMaxNumberOfRecvAttempts)
    (unlocked : Response) :
    (recvMachine checksum).Runs (.running .retry loop receiving) [(.unlock, unlocked)] (nextAttempt receiving) := by
  have retried : (recvRetry receiving).Returns [] (⟨stale receiving.context [], receiving.r1 + 1⟩, .pass) := by
    dsimp only [recvRetry]
    rw [if_pos left]
    exact ⟨rfl, rfl⟩
  have first : (recvMachine checksum).Step (.running .retry loop receiving) []
      (.running .repoll none ⟨stale receiving.context [], receiving.r1 + 1⟩) :=
    ⟨_, _, _, rfl, returns_handle.mpr ⟨_, .event .pass,
      Program.returns_bind.mpr ⟨_, [], [], rfl, retried, rfl, rfl⟩, rfl⟩⟩
  have second : (recvMachine checksum).Step (.running .repoll none ⟨stale receiving.context [], receiving.r1 + 1⟩)
      [(.unlock, unlocked)] (nextAttempt receiving) :=
    ⟨_, _, _, rfl, returns_handle.mpr ⟨_, .event .pass, ⟨unlocked, [], rfl, rfl, rfl⟩, rfl⟩⟩
  exact (Run.single first trivial).step second trivial

/-- After a rejection before any frame of the message was accepted, the next
attempt does what a first attempt does on the same responses, if and only if the
residue is harmless on them. -/
theorem rejected_attempt_agrees_iff {trace : List (Call × Response)} {receiving : Receiving} {responses : List Response}
    (run : (recvMachine checksum).Runs (recvStart checksum r1) trace (.running .retry loop receiving))
    (unaccepted : receiving.context.completedFrames = []) (left : receiving.r1 + 1 < kMaxNumberOfRecvAttempts) :
    (∀ unlocked, (recvMachine checksum).Runs (recvStart checksum r1) (trace ++ [(.unlock, unlocked)])
      (nextAttempt receiving)) ∧
      ((recvMachine checksum).AgreeOn verdict responses (nextAttempt receiving) firstAttempt ↔
        Harmless checksum receiving.context responses) := by
  constructor
  · intro unlocked
    exact run.append (next_attempt_reached left unlocked)
  · exact attempts_agree_iff unaccepted

private def enquiryReplies : List Response :=
  [⟨.success, []⟩, ⟨.success, []⟩, ⟨.success, [ControlCode.enq]⟩, ⟨.timeout, []⟩, ⟨.success, []⟩]

/-- An extended frame that breaks off in its data leaves its form and its length, which
the next attempt reads anew whatever comes. -/
theorem cut_extended_harmless : ∃ trace loop receiving,
    (recvMachine List.sum).Runs (recvStart List.sum 0) trace (.running .retry loop receiving) ∧
      receiving.context.transmitionType = .extendedLength ∧ receiving.context.dataLength = 8 ∧
      ∀ responses, (recvMachine List.sum).AgreeOn verdict responses (nextAttempt receiving) firstAttempt := by
  have ran : ((recvMachine List.sum).script 12 (recvStart List.sum 0)
      (enquiryReplies ++ [⟨.success, [ControlCode.stx]⟩, ⟨.success, [ControlCode.extLen]⟩, ⟨.success, [1, 2, 3]⟩,
        ⟨.success, [0, 0, 10]⟩, ⟨.timeout, [9]⟩, ⟨.success, []⟩])).map (fun result => (result.1, result.2.2)) =
      some (.running .retry none ⟨⟨[], [2, 254, 1, 2, 3, 0, 0, 10, 9, 0], false,
        .extendedLength, 8, 0, 0⟩, 0⟩, []) := by
    decide +kernel
  obtain ⟨⟨config, trace, rest⟩, ran, same⟩ := Option.map_eq_some_iff.mp ran
  cases same
  have run := runs_of_script ran
  refine ⟨trace, none, _, run, rfl, rfl, fun responses => ?_⟩
  apply (rejected_attempt_agrees_iff run rfl (by decide)).2.mpr
  intro _ _ _ _ _ _ _
  trivial

private def untilExtendedLength : List Response :=
  enquiryReplies ++ [⟨.success, [ControlCode.stx]⟩, ⟨.success, [ControlCode.extLen]⟩, ⟨.success, [1, 2, 3]⟩]

/-- After a regular frame that breaks off, the extended length of the next frame is skipped. -/
theorem extended_length_skipped :
    ¬ ∀ trace loop receiving responses,
      (recvMachine List.sum).Runs (recvStart List.sum 0) trace (.running .retry loop receiving) →
      receiving.context.completedFrames = [] → receiving.r1 + 1 < kMaxNumberOfRecvAttempts →
      (recvMachine List.sum).AgreeOn verdict responses (nextAttempt receiving) firstAttempt := by
  intro claimed
  have ran : ((recvMachine List.sum).script 9 (recvStart List.sum 0)
      (enquiryReplies ++ [⟨.success, [ControlCode.stx]⟩, ⟨.success, [5]⟩, ⟨.timeout, []⟩, ⟨.success, []⟩])).map
        (fun result => (result.1, result.2.2)) =
      some (.running .retry none ⟨⟨[], [2, 5, 0, 0, 0], false, .regular, 3, 0, 0⟩, 0⟩, []) := by
    decide +kernel
  obtain ⟨⟨config, trace, rest⟩, ran, same⟩ := Option.map_eq_some_iff.mp ran
  cases same
  have reads : ((recvMachine List.sum).checkedScript (fun before _ _ => (verdict before).isNone) 7 firstAttempt
      untilExtendedLength).map (fun result => (result.1, result.2.1.map Prod.snd, result.2.2)) =
      some (.running .dataextlen none ⟨⟨[], [2, 254, 1, 2, 3], false, .notDefinedYet, 0, 0, 0⟩, 0⟩,
        untilExtendedLength, []) := by
    decide +kernel
  obtain ⟨⟨config, passed, rest⟩, reads, same⟩ := Option.map_eq_some_iff.mp reads
  obtain ⟨rfl, same⟩ := Prod.mk.inj same
  obtain ⟨replies, rfl⟩ := Prod.mk.inj same
  have observed : (recvMachine List.sum).Observed verdict firstAttempt passed _ :=
    (run_of_script reads).mono fun _ _ _ checked => Option.isNone_iff_eq_none.mp checked
  have agree := claimed trace none _ untilExtendedLength (runs_of_script ran) rfl (by decide)
  have hides := (attempts_agree_iff rfl).mp agree passed [] _ _ observed TransmitionType.noConfusion
    ((List.append_nil _).trans replies)
  have size : dataSize ⟨[], [2, 5, 0, 0, 0], false, .regular, 3, 0, 0⟩ = kExtLenLength := hides.1
  exact absurd size (by decide +kernel)

end CpuCom.Uart.Protocol
