import CpuCom.Interaction.Script
import CpuCom.Proofs.FrameLayout
import CpuCom.Proofs.RecvSteps

/-! The receive buffer. The length byte of a regular frame is checked against its
limits, an extended length is not, so the bounds hold only as long as the lengths
that the line declares keep to their limits by themselves. -/

namespace CpuCom.Uart.Protocol
open Interaction FiniteStateMachine

variable {checksum : List UInt8 → UInt8}

/-- The limits of an extended length, for the form in which it is taken. -/
def ExtendedInLimits (context : RecvContext) (length : Nat) : Prop :=
  if length > kMaxExtendedLengthFrameLength ∨ context.transmitionType = .extendedLengthWithFrameDivision then
    kCmdLength + kExtLenLength + kFrameNumberLength + kTotalFramesLength + kFrameFooterLength ≤ length ∧
      length ≤ kMaxExtendedLengthFrameDivisionFrameLength
  else kCmdLength + kExtLenLength + kFrameFooterLength ≤ length ∧ length ≤ kMaxExtendedLengthFrameLength

instance (context : RecvContext) (length : Nat) : Decidable (ExtendedInLimits context length) :=
  inferInstanceAs (Decidable (ite _ _ _))

theorem ExtendedInLimits.footer_le {context : RecvContext} {length : Nat} (inside : ExtendedInLimits context length) :
    kFrameFooterLength ≤ length := by
  unfold ExtendedInLimits at inside
  split at inside
  · exact Nat.le_trans (Nat.le_add_left _ _) inside.1
  · exact Nat.le_trans (Nat.le_add_left _ _) inside.1

def LengthsInLimits (before : RecvConfig) (trace : List (Call × Response)) (_ : RecvConfig) : Prop :=
  ∀ loop receiving reply, before = .running .dataextlen loop receiving →
    trace = [(.readMulti kExtLenLength kTimeout4, reply)] → reply.result = .success →
      ExtendedInLimits receiving.context (decode24 (reply.fill kExtLenLength))

def checkLengths : RecvConfig → List (Call × Response) → RecvConfig → Bool
  | .running .dataextlen _ receiving, [(_, reply)], _ =>
      decide (ExtendedInLimits receiving.context (decode24 (reply.fill kExtLenLength)))
  | _, _, _ => true

theorem lengthsInLimits_of_check {before after : RecvConfig} {trace : List (Call × Response)}
    (checked : checkLengths before trace after = true) : LengthsInLimits before trace after := by
  intro loop receiving reply same read _
  subst same
  subst read
  exact of_decide_eq_true checked

/-- What is promised of one step: no subtraction wraps, and a length outside its
limits is answered with a NAK. -/
structure Checked (before : RecvConfig) (trace : List (Call × Response)) (after : RecvConfig) : Prop where
  lengthKept : ∀ loop receiving reply, before = .running .dataextlen loop receiving →
    trace = [(.readMulti kExtLenLength kTimeout4, reply)] → reply.result = .success →
      kFrameFooterLength ≤ decode24 (reply.fill kExtLenLength)
  sizeKept : ∀ loop receiving, before = .running .data loop receiving →
    headerLength receiving.context.transmitionType ≤ receiving.context.dataLength
  regularDenied : ∀ loop receiving reply, before = .running .len loop receiving →
    trace = [(.read kTimeout4, reply)] → reply.result = .success → reply.byte ≠ ControlCode.extLen →
      ¬ (kMinFrameLength ≤ reply.byte.toNat ∧ reply.byte.toNat ≤ kMaxFrameLength) → after.state? = some .nak
  extendedDenied : ∀ loop receiving reply, before = .running .dataextlen loop receiving →
    trace = [(.readMulti kExtLenLength kTimeout4, reply)] → reply.result = .success →
      ¬ ExtendedInLimits receiving.context (decode24 (reply.fill kExtLenLength)) → after.state? = some .nak

/-- The declared length of the last frame whose length was read. -/
structure LengthFits (context : RecvContext) : Prop where
  undefined : context.transmitionType = .notDefinedYet → context.dataLength = 0
  regular : context.transmitionType = .regular → 3 ≤ context.dataLength ∧ context.dataLength ≤ 251
  extended : context.transmitionType = .extendedLength → 6 ≤ context.dataLength ∧ context.dataLength ≤ 1030
  divided : context.transmitionType = .extendedLengthWithFrameDivision →
    10 ≤ context.dataLength ∧ context.dataLength ≤ 1034

/-- How far the buffer may have been filled in each state. -/
def room (context : RecvContext) : RecvState → Nat
  | .len => 1
  | .datacmd => 2
  | .dataextlen => 5
  | .dataframenumber => if context.transmitionType = .regular then 5 else 8
  | .data => 2 + headerLength context.transmitionType
  | .etx => 2 + context.dataLength
  | .cs => 3 + context.dataLength
  | .ack2 => 4 + context.dataLength
  | .done => 4 + context.dataLength
  | .nak => 1038
  | .retry => 1038
  | .error => 1038
  | .end => 1038
  | _ => 0

/-- The states that rely on the transmission type having been set. -/
def measured : RecvState → Bool
  | .dataframenumber => true
  | .data => true
  | _ => false

structure Sized (state : RecvState) (context : RecvContext) : Prop where
  fits : LengthFits context
  within : context.currentFrame.length ≤ room context state
  typed : measured state = true → context.transmitionType ≠ .notDefinedYet

def Bounded : RecvConfig → Prop
  | .running state _ receiving => Sized state receiving.context
  | .ended receiving => receiving.context.currentFrame.length ≤ 1038

theorem LengthFits.dataLength_le {context : RecvContext} (fits : LengthFits context) : context.dataLength ≤ 1034 := by
  cases type : context.transmitionType with
  | notDefinedYet =>
    have := fits.undefined type
    omega
  | regular =>
    have := fits.regular type
    omega
  | extendedLength =>
    have := fits.extended type
    omega
  | extendedLengthWithFrameDivision =>
    have := fits.divided type
    omega

theorem LengthFits.header_le {context : RecvContext} (fits : LengthFits context)
    (typed : context.transmitionType ≠ .notDefinedYet) : headerLength context.transmitionType ≤ context.dataLength := by
  cases type : context.transmitionType with
  | notDefinedYet => exact absurd type typed
  | regular => exact (fits.regular type).1
  | extendedLength => exact (fits.extended type).1
  | extendedLengthWithFrameDivision => exact (fits.divided type).1

theorem room_le {context : RecvContext} (fits : LengthFits context) (state : RecvState) :
    room context state ≤ 1038 := by
  have longest := fits.dataLength_le
  cases state with
  | dataframenumber =>
    simp only [room]
    split <;> omega
  | data =>
    cases type : context.transmitionType <;>
      simp [room, type, headerLength, kCmdLength, kExtLenLength, kFrameNumberLength, kTotalFramesLength]
  | etx =>
    simp only [room]
    omega
  | cs =>
    simp only [room]
    omega
  | ack2 =>
    simp only [room]
    omega
  | done =>
    simp only [room]
    omega
  | _ => simp [room]

theorem LengthFits.setExtendedLength {context : RecvContext} {length : Nat} (inside : ExtendedInLimits context length) :
    LengthFits (context.setExtendedLength length) ∧
      (context.setExtendedLength length).transmitionType ≠ .regular ∧
      (context.setExtendedLength length).transmitionType ≠ .notDefinedYet := by
  unfold ExtendedInLimits at inside
  by_cases divided : length > kMaxExtendedLengthFrameLength ∨
      context.transmitionType = .extendedLengthWithFrameDivision
  · rw [if_pos divided] at inside
    simp only [kCmdLength, kExtLenLength, kFrameNumberLength, kTotalFramesLength, kFrameFooterLength, kEtxLength,
      kCsLength, kMaxExtendedLengthFrameDivisionFrameLength] at inside
    have type : (context.setExtendedLength length).transmitionType = .extendedLengthWithFrameDivision := if_pos divided
    have kept : sub32 length 2 = length - 2 := sub32_of_le (by omega) (by omega)
    have size : (context.setExtendedLength length).dataLength = length - 2 := kept
    refine ⟨⟨?_, ?_, ?_, ?_⟩, by simp [type], by simp [type]⟩ <;> rw [type] <;> intro same
    · cases same
    · cases same
    · cases same
    · omega
  · rw [if_neg divided] at inside
    simp only [kCmdLength, kExtLenLength, kFrameFooterLength, kEtxLength, kCsLength,
      kMaxExtendedLengthFrameLength] at inside
    have type : (context.setExtendedLength length).transmitionType = .extendedLength := if_neg divided
    have kept : sub32 length 2 = length - 2 := sub32_of_le (by omega) (by omega)
    have size : (context.setExtendedLength length).dataLength = length - 2 := kept
    refine ⟨⟨?_, ?_, ?_, ?_⟩, by simp [type], by simp [type]⟩ <;> rw [type] <;> intro same
    · cases same
    · cases same
    · omega
    · cases same

theorem dataSize_eq {context : RecvContext} (fits : LengthFits context)
    (typed : context.transmitionType ≠ .notDefinedYet) :
    dataSize context + headerLength context.transmitionType = context.dataLength := by
  have header := fits.header_le typed
  have longest := fits.dataLength_le
  have size : dataSize context = context.dataLength - headerLength context.transmitionType :=
    sub32_of_le header (by omega)
  omega

private theorem unmeasured {state : RecvState} {context : RecvContext} (settled : measured state = false)
    (typed : measured state = true) : context.transmitionType ≠ .notDefinedYet := by
  rw [settled] at typed
  cases typed

theorem Sized.move {state next : RecvState} {context : RecvContext} (sized : Sized state context)
    (wider : room context state ≤ room context next) (settled : measured next = false) : Sized next context :=
  ⟨sized.fits, Nat.le_trans sized.within wider, unmeasured settled⟩

theorem Sized.restart {state : RecvState} {context : RecvContext} (fits : LengthFits context)
    (empty : context.currentFrame = []) (settled : measured state = false) : Sized state context :=
  ⟨fits, by simp [empty], unmeasured settled⟩

theorem Sized.rejected {state : RecvState} {context : RecvContext} (sized : Sized state context)
    (reads : context.reads state) (reply : Response) :
    (context.store ((frameCall context state).leaves reply)).currentFrame.length ≤ 1038 := by
  obtain ⟨fits, within, typed⟩ := sized
  have longest := fits.dataLength_le
  cases state with
  | data =>
    have size := dataSize_eq fits (typed rfl)
    simp only [room] at within
    simp only [RecvContext.store, frameCall, Call.leaves, List.length_append, Response.length_fill]
    omega
  | dataframenumber =>
    have most := room_le fits .dataframenumber
    simp only [room] at within
    simp only [RecvContext.store, frameCall, Call.leaves, List.length_append, Response.length_fill,
      kFrameNumberLength, kTotalFramesLength]
    split at within <;> omega
  | stx | len | datacmd | dataextlen | etx | cs =>
    simp only [room] at within
    simp only [RecvContext.store, frameCall, Call.leaves, List.length_append, Response.length_fill, List.length_nil,
      kCmdLength, kExtLenLength]
    omega
  | _ => cases reads

theorem bounded_step {before after : RecvConfig} {trace : List (Call × Response)} (bounded : Bounded before)
    (step : (recvMachine checksum).Step before trace after) (limits : LengthsInLimits before trace after) :
    Bounded after := by
  obtain ⟨state, loop, context, r1, rfl, move⟩ := recv_move step
  have sized : Sized state context := bounded
  have longest := sized.fits.dataLength_le
  cases move with
  | idle => exact sized.move (Nat.le_refl _) rfl
  | polled locked arrived => exact sized.move (Nat.le_refl _) rfl
  | pollFailed failed => exact sized.move (Nat.zero_le _) rfl
  | repoll unlocked => exact sized.move (Nat.le_refl _) rfl
  | enquiryByte arrived => exact sized
  | enquired quiet => exact sized.move (Nat.le_refl _) rfl
  | unasked quiet nothing => exact sized.move (Nat.le_refl _) rfl
  | strange quiet notEnquiry notDenial => exact sized.move (Nat.zero_le _) rfl
  | enquiryFailed failed => exact sized.move (Nat.zero_le _) rfl
  | ack accepted => exact sized.move (Nat.le_refl _) rfl
  | ackFailed refused => exact sized.move (Nat.zero_le _) rfl
  | stx arrived code =>
    obtain ⟨fits, within, _⟩ := sized
    refine ⟨{ fits with }, ?_, unmeasured rfl⟩
    simp only [room] at within ⊢
    simp only [RecvContext.store, List.length_append, List.length_singleton]
    omega
  | lenExtended arrived code =>
    obtain ⟨fits, within, _⟩ := sized
    refine ⟨{ fits with }, ?_, unmeasured rfl⟩
    simp only [room] at within ⊢
    simp only [RecvContext.store, List.length_append, List.length_singleton]
    omega
  | lenRegular arrived other atLeast atMost =>
    obtain ⟨fits, within, _⟩ := sized
    refine ⟨⟨TransmitionType.noConfusion, ?_, TransmitionType.noConfusion, TransmitionType.noConfusion⟩, ?_,
      unmeasured rfl⟩
    · intro _
      simp only [kFrameFooterLength, kMinFrameLength, kMaxFrameLength, kEtxLength, kCsLength] at atLeast atMost ⊢
      omega
    · simp only [room] at within ⊢
      simp only [RecvContext.store, List.length_append, List.length_singleton]
      omega
  | datacmd arrived =>
    obtain ⟨fits, within, _⟩ := sized
    refine ⟨{ fits with }, ?_, unmeasured rfl⟩
    simp only [room] at within ⊢
    simp only [RecvContext.store, List.length_append, Response.length_fill, kCmdLength]
    omega
  | @dataextlen loop reply extended arrived =>
    have inside : ExtendedInLimits (context.store (reply.fill kExtLenLength)) (decode24 (reply.fill kExtLenLength)) :=
      limits loop _ reply rfl rfl arrived
    obtain ⟨fits, notRegular, defined⟩ := LengthFits.setExtendedLength inside
    refine ⟨fits, ?_, fun _ => defined⟩
    have within := sized.within
    simp only [room] at within
    simp only [room, if_neg notRegular]
    simp only [RecvContext.setExtendedLength, RecvContext.store, List.length_append, Response.length_fill,
      kExtLenLength]
    omega
  | dataextlenSkipped regular =>
    refine ⟨sized.fits, ?_, fun _ => by simp [regular]⟩
    have within := sized.within
    simpa only [room, if_pos regular] using within
  | dataframenumber divided arrived =>
    refine ⟨{ sized.fits with }, ?_, fun _ => by simp [divided, RecvContext.store]⟩
    have within := sized.within
    simp only [room, divided] at within
    simp only [room, RecvContext.store, List.length_append, Response.length_fill, kFrameNumberLength,
      kTotalFramesLength, divided, headerLength, kCmdLength, kExtLenLength]
    simp at within
    omega
  | dataframenumberSkipped undivided =>
    have defined := sized.typed rfl
    refine ⟨sized.fits, ?_, fun _ => defined⟩
    have within := sized.within
    cases type : context.transmitionType with
    | notDefinedYet => exact absurd type defined
    | regular => simpa [room, type, headerLength, kCmdLength] using within
    | extendedLength => simpa [room, type, headerLength, kCmdLength, kExtLenLength] using within
    | extendedLengthWithFrameDivision => exact absurd type undivided
  | data arrived =>
    have size := dataSize_eq sized.fits (sized.typed rfl)
    refine ⟨{ sized.fits with }, ?_, unmeasured rfl⟩
    have within := sized.within
    simp only [room] at within
    simp only [room, RecvContext.store, List.length_append, Response.length_fill]
    omega
  | etx arrived code =>
    refine ⟨{ sized.fits with }, ?_, unmeasured rfl⟩
    have within := sized.within
    simp only [room] at within
    simp only [room, RecvContext.store, List.length_append, List.length_singleton]
    omega
  | cs arrived right =>
    refine ⟨{ sized.fits with }, ?_, unmeasured rfl⟩
    have within := sized.within
    simp only [room] at within
    simp only [room, RecvContext.store, List.length_append, List.length_singleton]
    omega
  | @rejected state loop reply reads denied =>
    exact ⟨{ sized.fits with }, sized.rejected reads reply, unmeasured rfl⟩
  | @failed state loop reply reads notLast failed =>
    exact ⟨{ sized.fits with }, sized.rejected reads reply, unmeasured rfl⟩
  | ack2 accepted => exact sized.move (Nat.le_refl _) rfl
  | ack2Failed refused => exact sized.move (by simp only [room]; omega) rfl
  | nak accepted => exact sized.move (Nat.le_refl _) rfl
  | nakFailed refused => exact sized.move (Nat.le_refl _) rfl
  | retry left => exact .restart { sized.fits with } rfl rfl
  | exhausted spent => exact .restart { sized.fits with } rfl rfl
  | whole whole => exact ⟨{ sized.fits with }, Nat.le_trans sized.within (room_le sized.fits .done), unmeasured rfl⟩
  | piece divided more => exact .restart { sized.fits with } rfl rfl
  | undefined unset => exact sized.move (by simp only [room]; omega) rfl
  | error => exact ⟨{ sized.fits with }, sized.within, unmeasured rfl⟩
  | finish unlocked => exact sized.within

theorem bounded_run {r1 : Nat} {config : RecvConfig} {trace : List (Call × Response)}
    (run : (recvMachine checksum).Run LengthsInLimits (recvStart checksum r1) trace config) : Bounded config := by
  apply run.invariant
  · exact ⟨⟨fun _ => rfl, TransmitionType.noConfusion, TransmitionType.noConfusion, TransmitionType.noConfusion⟩,
      Nat.le_refl _, unmeasured rfl⟩
  · intro trace middle more after bounded step limits
    exact bounded_step bounded step limits

theorem extended_not_denied {loop : Option UInt8} {context : RecvContext} {r1 : Nat} {after : RecvConfig}
    {reply : Response} (arrived : reply.result = .success)
    (move : RecvMove checksum context r1 .dataextlen loop [(.readMulti kExtLenLength kTimeout4, reply)] after) :
    after.state? ≠ some .nak := by
  cases move with
  | dataextlen extended arrived => exact nofun
  | rejected reads denied =>
    rcases denied with silent | ⟨_, unexpected⟩ | ⟨same, _⟩
    · rw [arrived] at silent
      cases silent
    · exact absurd trivial unexpected
    · cases same
  | failed reads notLast failed => exact nofun

theorem regular_denied {loop : Option UInt8} {context : RecvContext} {r1 : Nat} {after : RecvConfig}
    {reply : Response} (arrived : reply.result = .success) (other : reply.byte ≠ ControlCode.extLen)
    (outside : ¬ (kMinFrameLength ≤ reply.byte.toNat ∧ reply.byte.toNat ≤ kMaxFrameLength))
    (move : RecvMove checksum context r1 .len loop [(.read kTimeout4, reply)] after) : after.state? = some .nak := by
  cases move with
  | lenExtended arrived code => exact absurd code other
  | lenRegular arrived other atLeast atMost => exact absurd ⟨atLeast, atMost⟩ outside
  | rejected reads denied => rfl
  | failed reads notLast failed =>
    rw [arrived] at failed
    cases failed

/-- A step keeps what is promised exactly where it reads no length out of limits. -/
theorem checked_iff {before after : RecvConfig} {trace : List (Call × Response)} (bounded : Bounded before)
    (step : (recvMachine checksum).Step before trace after) :
    Checked before trace after ↔ LengthsInLimits before trace after := by
  obtain ⟨state, loop, context, r1, rfl, move⟩ := recv_move step
  constructor
  · intro checked loop' receiving reply same read arrived
    by_contra outside
    have denied := checked.extendedDenied loop' receiving reply same read arrived outside
    cases same
    subst read
    exact extended_not_denied arrived move denied
  · intro limits
    refine ⟨?_, ?_, ?_, ?_⟩
    · intro loop' receiving reply same read arrived
      exact (limits loop' receiving reply same read arrived).footer_le
    · intro loop' receiving same
      cases same
      exact bounded.fits.header_le (bounded.typed rfl)
    · intro loop' receiving reply same read arrived other outside
      cases same
      subst read
      exact regular_denied arrived other outside move
    · intro loop' receiving reply same read arrived outside
      exact absurd (limits loop' receiving reply same read arrived) outside

/-- In a run whose extended lengths are all in their limits the buffer stays within
its bound, and every step subtracts without wrapping and denies a length byte that
is out of limits. -/
theorem receive_bounded {r1 : Nat} {config : RecvConfig} {trace : List (Call × Response)}
    (run : (recvMachine checksum).Run LengthsInLimits (recvStart checksum r1) trace config) :
    config.data.context.currentFrame.length ≤ kFrameHeaderLength + kMaxExtendedLengthFrameDivisionFrameLength ∧
      ∀ more after, (recvMachine checksum).Step config more after →
        (Checked config more after ↔ LengthsInLimits config more after) := by
  have bounded := bounded_run run
  refine ⟨?_, fun more after step => checked_iff bounded step⟩
  cases config with
  | running state loop receiving => exact Nat.le_trans bounded.within (room_le bounded.fits state)
  | ended receiving => exact bounded

private def untilLength : List Response :=
  [⟨.success, []⟩, ⟨.success, []⟩, ⟨.success, [ControlCode.enq]⟩, ⟨.timeout, []⟩, ⟨.success, []⟩,
    ⟨.success, [ControlCode.stx]⟩, ⟨.success, [ControlCode.extLen]⟩, ⟨.success, [1, 2, 3]⟩]

theorem extended_frame_bounded :
    ∃ trace config, (recvMachine List.sum).Run LengthsInLimits (recvStart List.sum 0) trace config ∧
      config.data.context.transmitionType = .extendedLength ∧
      config.data.context.currentFrame.length ≤ kFrameHeaderLength + kMaxExtendedLengthFrameDivisionFrameLength := by
  have ran : ((recvMachine List.sum).checkedScript checkLengths 10 (recvStart List.sum 0)
      (untilLength ++ [⟨.success, [0, 0, 9]⟩])).map (fun result => (result.1, result.2.2)) =
      some (.running .data none ⟨⟨[], [2, 254, 1, 2, 3, 0, 0, 9], false, .extendedLength, 7, 0, 0⟩, 0⟩, []) := by
    decide +kernel
  obtain ⟨⟨config, trace, rest⟩, ran, same⟩ := Option.map_eq_some_iff.mp ran
  cases same
  have run := (run_of_script ran).mono fun _ _ _ => lengthsInLimits_of_check
  exact ⟨trace, _, run, rfl, (receive_bounded run).1⟩

/-- The extended length 1 is accepted, and the subtraction of the footer wraps. -/
theorem short_length_accepted :
    ¬ ∀ trace config, (recvMachine List.sum).Runs (recvStart List.sum 0) trace config →
      config.data.context.currentFrame.length ≤ kFrameHeaderLength + kMaxExtendedLengthFrameDivisionFrameLength ∧
        ∀ more after, (recvMachine List.sum).Step config more after → Checked config more after := by
  intro claimed
  have ran : ((recvMachine List.sum).script 8 (recvStart List.sum 0) untilLength).map
      (fun result => (result.1, result.2.2)) =
      some (.running .dataextlen none ⟨⟨[], [2, 254, 1, 2, 3], false, .notDefinedYet, 0, 0, 0⟩, 0⟩, []) := by
    decide +kernel
  obtain ⟨⟨config, trace, rest⟩, ran, same⟩ := Option.map_eq_some_iff.mp ran
  cases same
  have read : ((recvMachine List.sum).handle .dataextlen none
      ⟨⟨[], [2, 254, 1, 2, 3], false, .notDefinedYet, 0, 0, 0⟩, 0⟩).script [⟨.success, [0, 0, 1]⟩] =
      some (.running .dataframenumber none
        ⟨⟨[], [2, 254, 1, 2, 3, 0, 0, 1], false, .extendedLength, 2 ^ 32 - 1, 0, 0⟩, 0⟩,
        [(.readMulti kExtLenLength kTimeout4, ⟨.success, [0, 0, 1]⟩)], []) := by
    decide +kernel
  have checked := (claimed _ _ (runs_of_script ran)).2 _ _ ⟨_, _, _, rfl, Program.returns_of_script read⟩
  exact absurd (checked.lengthKept _ _ _ rfl rfl rfl) (by decide)

end CpuCom.Uart.Protocol
