import CpuCom.Proofs.DividedMessage
import CpuCom.Proofs.RecvSteps
import CpuCom.Proofs.SingleFrame
import CpuCom.Uart.Cuts

/-! A frame whose end is missing. Wherever it is cut off, the receive machine reads up
to the silence, denies the frame, and is left with what it had stored before. -/

namespace CpuCom.Uart.Protocol
open Interaction FiniteStateMachine

def readSize : Call → Nat
  | .read _ => 1
  | .readMulti size _ => size
  | _ => 0

theorem readBytes_cut {size : Nat} {short : List UInt8} (fewer : short.length < size) (line : List Symbol) :
    Link.readBytes size (short.map .byte ++ .silence :: line) = some (⟨.timeout, short⟩, line) := by
  induction short generalizing size with
  | nil =>
    cases size with
    | zero => exact absurd fewer (Nat.lt_irrefl 0)
    | succ size => rfl
  | cons byte short ih =>
    cases size with
    | zero => exact absurd fewer (Nat.not_lt_zero _)
    | succ size => simp [Link.readBytes, ih (Nat.lt_of_succ_lt_succ fewer)]

/-- What a denied frame leaves of a context: the stored frames, and the form as it was
or as the frame has set it. -/
structure Leaves (form : TransmitionType) (context left : RecvContext) : Prop where
  completed : left.completedFrames = context.completedFrames
  type : left.transmitionType = context.transmitionType ∨ left.transmitionType = form

variable (checksum : List UInt8 → UInt8)

def Denies (form : TransmitionType) (state : RecvState) (context : RecvContext) (bytes : List UInt8) : Prop :=
  ∀ r1 line, ∃ left, Leaves form context left ∧ (recvMachine checksum).ReachesOn Link.answer
    (.running state none ⟨context, r1⟩, bytes.map .byte ++ .silence :: line) (.running .retry none ⟨left, r1⟩, line)

def Onward (state : RecvState) (context : RecvContext) (bytes : List UInt8) (next : RecvState) (after : RecvContext) :
    Prop :=
  ∀ r1 line, (recvMachine checksum).ReachesOn Link.answer
    (.running state none ⟨context, r1⟩, bytes.map .byte ++ line) (.running next none ⟨after, r1⟩, line)

variable {checksum} {form : TransmitionType} {state next : RecvState} {context after : RecvContext}
  {taken more short : List UInt8} {count : Nat}

private theorem nak_to_retry (r1 : Nat) (line : List Symbol) :
    (recvMachine checksum).ReachesOn Link.answer (.running .nak none ⟨context, r1⟩, line)
      (.running .retry none ⟨context, r1⟩, line) :=
  recv_step .retry _ rfl rfl (by decide) .refl

private theorem denies_of_ran (stored : List UInt8) (moves : recvTransition state .deny = .nak)
    (ran : ∀ r1 line, (recvHandler checksum state none ⟨context, r1⟩).runOn Link.answer
      (short.map .byte ++ .silence :: line) = some ((⟨context.store stored, r1⟩, .event .deny), line)) :
    Denies checksum form state context short := by
  intro r1 line
  have unfinished : state ≠ .end := by
    rintro rfl
    exact RecvState.noConfusion moves
  refine ⟨context.store stored, ⟨rfl, .inl rfl⟩, ?_⟩
  exact recv_step .nak _ (ran r1 line) moves unfinished (nak_to_retry r1 line)

theorem denies_here (reads : context.reads state) (fewer : short.length < readSize (frameCall context state)) :
    Denies checksum form state context short := by
  have single (size : readSize (frameCall context state) = 1) : short = [] :=
    List.length_eq_zero_iff.mp (by omega)
  let denied : Response := ⟨.timeout, short⟩
  have missed (line : List Symbol) := readBytes_cut fewer line
  cases state with
  | stx =>
    obtain rfl := single rfl
    exact denies_of_ran [] rfl fun r1 line => by rw [RecvContext.store_nil]; rfl
  | len =>
    obtain rfl := single rfl
    exact denies_of_ran [] rfl fun r1 line => by rw [RecvContext.store_nil]; rfl
  | etx =>
    obtain rfl := single rfl
    exact denies_of_ran [] rfl fun r1 line => by rw [RecvContext.store_nil]; rfl
  | cs =>
    obtain rfl := single rfl
    exact denies_of_ran [] rfl fun r1 line => by rw [RecvContext.store_nil]; rfl
  | datacmd => exact denies_of_ran (denied.fill kCmdLength) rfl fun r1 line => (Program.runOn_call (missed line)).trans rfl
  | dataextlen =>
    have extended : context.transmitionType ≠ .regular := reads
    refine denies_of_ran (denied.fill kExtLenLength) rfl fun r1 line => ?_
    simp only [recvHandler, onContext, recvDataExtLen, if_pos extended]
    exact (Program.runOn_call (missed line)).trans rfl
  | dataframenumber =>
    have divided : context.transmitionType = .extendedLengthWithFrameDivision := reads
    refine denies_of_ran (denied.fill (kFrameNumberLength + kTotalFramesLength)) rfl fun r1 line => ?_
    simp only [recvHandler, onContext, recvDataFrameNumber, if_pos divided]
    exact (Program.runOn_call (missed line)).trans rfl
  | data => exact denies_of_ran (denied.fill (dataSize context)) rfl fun r1 line => (Program.runOn_call (missed line)).trans rfl
  | _ => exact reads.elim

theorem Denies.behind (onward : Onward checksum state context taken next after)
    (denies : Denies checksum form next after more) (completed : after.completedFrames = context.completedFrames)
    (type : after.transmitionType = context.transmitionType ∨ after.transmitionType = form) :
    Denies checksum form state context (taken ++ more) := by
  intro r1 line
  obtain ⟨left, leaves, reached⟩ := denies r1 line
  refine ⟨left, ⟨leaves.completed.trans completed, ?_⟩, ?_⟩
  · rcases leaves.type with same | set
    · exact type.imp same.trans same.trans
    · exact .inr set
  · rw [List.map_append, List.append_assoc]
    exact (onward r1 _).trans reached

theorem Denies.take (taken more : List UInt8) (reads : context.reads state) (size : taken.length = readSize (frameCall context state))
    (onward : Onward checksum state context taken next after)
    (completed : after.completedFrames = context.completedFrames)
    (type : after.transmitionType = context.transmitionType ∨ after.transmitionType = form)
    (later : ∀ count, count < more.length → Denies checksum form next after (more.take count))
    (cutOff : count < (taken ++ more).length) : Denies checksum form state context ((taken ++ more).take count) := by
  rw [List.length_append] at cutOff
  by_cases here : count < taken.length
  · apply denies_here reads
    rw [List.length_take, List.length_append]
    omega
  · rw [List.take_append, List.take_of_length_le (Nat.le_of_not_lt here)]
    exact (later _ (by omega)).behind onward completed type

private theorem onward_stx : Onward checksum .stx context [ControlCode.stx] .len (context.store [ControlCode.stx]) :=
  fun _ _ => recv_step .len _ rfl rfl (by decide) .refl

private theorem onward_datacmd {command subCommand codebit : UInt8} :
    Onward checksum .datacmd context [command, subCommand, codebit] .dataextlen
      (context.store [command, subCommand, codebit]) :=
  fun r1 line => datacmd_to_dataextlen checksum context r1 line command subCommand codebit

private theorem onward_etx : Onward checksum .etx context [ControlCode.etx] .cs (context.store [ControlCode.etx]) :=
  fun _ _ => recv_step .cs _ rfl rfl (by decide) .refl

private theorem denies_data {payload : List UInt8} {code : UInt8} (size : dataSize context = payload.length)
    (cutOff : count < (payload ++ [ControlCode.etx, code]).length) :
    Denies checksum form .data context ((payload ++ [ControlCode.etx, code]).take count) := by
  refine Denies.take payload _ trivial size.symm (fun r1 line => data_to_etx checksum context r1 line payload size) rfl (.inl rfl)
    ?_ cutOff
  intro count cutOff
  refine Denies.take [ControlCode.etx] [code] trivial rfl onward_etx rfl (.inl rfl) ?_ cutOff
  intro count cutOff
  obtain rfl : count = 0 := Nat.lt_one_iff.mp cutOff
  exact denies_here trivial Nat.one_pos

private theorem denies_start {body : List UInt8}
    (rest : ∀ count, count < body.length →
      Denies checksum form .len (context.store [ControlCode.stx]) (body.take count))
    (cutOff : count < (ControlCode.stx :: body).length) :
    Denies checksum form .stx context ((ControlCode.stx :: body).take count) :=
  Denies.take [ControlCode.stx] body trivial rfl onward_stx rfl (.inl rfl) rest cutOff

private theorem denies_command {command subCommand codebit : UInt8} {body : List UInt8}
    (rest : ∀ count, count < body.length →
      Denies checksum form .dataextlen (context.store [command, subCommand, codebit]) (body.take count))
    (cutOff : count < (command :: subCommand :: codebit :: body).length) :
    Denies checksum form .datacmd context ((command :: subCommand :: codebit :: body).take count) :=
  Denies.take [command, subCommand, codebit] body trivial rfl onward_datacmd rfl (.inl rfl) rest cutOff

theorem regular_denies {length command subCommand codebit code : UInt8} {payload : List UInt8}
    (declared : length.toNat = payload.length + 5) (limit : length.toNat ≤ 253)
    (cutOff : count < (ControlCode.stx :: length :: command :: subCommand :: codebit ::
      (payload ++ [ControlCode.etx, code])).length) :
    Denies checksum .regular .stx context ((ControlCode.stx :: length :: command :: subCommand :: codebit ::
      (payload ++ [ControlCode.etx, code])).take count) := by
  have notExt : length ≠ ControlCode.extLen := by
    rintro rfl
    exact absurd limit (by decide)
  have inRange : kMinFrameLength ≤ length.toNat ∧ length.toNat ≤ kMaxFrameLength :=
    ⟨Nat.le_trans (Nat.le_add_left ..) (Nat.le_of_eq declared.symm), limit⟩
  let opened := context.store [ControlCode.stx]
  let selected := { opened with transmitionType := .regular, dataLength := length.toNat - 2 }.store [length]
  let header := selected.store [command, subCommand, codebit]
  have chosen : Onward checksum .len opened [length] .datacmd selected := by
    intro r1 line
    have ran : (recvHandler checksum .len none ⟨opened, r1⟩).runOn Link.answer (.byte length :: line) =
        some ((⟨selected, r1⟩, .event .pass), line) := by
      simp [recvHandler, onContext, recvLength, Program.runOn, Link.answer, Response.byte, notExt, inRange, selected,
        opened, kFrameFooterLength, kEtxLength, kCsLength]
    exact recv_step .datacmd _ ran rfl (by decide) .refl
  have size : dataSize header = payload.length := by
    have small := length.toNat_lt
    have sub : sub32 (length.toNat - 2) 3 = length.toNat - 2 - 3 := sub32_of_le (by omega) (by omega)
    change sub32 (length.toNat - 2) 3 = _
    omega
  refine denies_start (fun count cutOff => ?_) cutOff
  refine Denies.take [length] _ trivial rfl chosen rfl (.inr rfl) (fun count cutOff => ?_) cutOff
  refine denies_command (fun count cutOff => ?_) cutOff
  have skipped : Onward checksum .dataextlen header [] .data header := by
    intro r1 line
    refine recv_step .dataframenumber ⟨header, r1⟩ rfl rfl (by decide) ?_
    exact recv_step .data ⟨header, r1⟩ rfl rfl (by decide) .refl
  exact (denies_data size cutOff).behind skipped rfl (.inl rfl)

private def extended (context : RecvContext) (command subCommand codebit high middle low : UInt8) : RecvContext :=
  (context.store [ControlCode.stx, ControlCode.extLen, command, subCommand, codebit, high, middle, low]).setExtendedLength
    (decode24 [high, middle, low])

private theorem denies_extended {command subCommand codebit high middle low : UInt8} {body : List UInt8}
    (notRegular : context.transmitionType ≠ .regular)
    (type : (extended context command subCommand codebit high middle low).transmitionType = form)
    (rest : ∀ count, count < body.length →
      Denies checksum form .dataframenumber (extended context command subCommand codebit high middle low)
        (body.take count))
    (cutOff : count < (ControlCode.stx :: ControlCode.extLen :: command :: subCommand :: codebit :: high :: middle ::
      low :: body).length) :
    Denies checksum form .stx context ((ControlCode.stx :: ControlCode.extLen :: command :: subCommand :: codebit ::
      high :: middle :: low :: body).take count) := by
  let opened := (context.store [ControlCode.stx]).store [ControlCode.extLen]
  let header := opened.store [command, subCommand, codebit]
  have chosen : Onward checksum .len (context.store [ControlCode.stx]) [ControlCode.extLen] .datacmd opened :=
    fun _ _ => recv_step .datacmd _ rfl rfl (by decide) .refl
  have extending : header.transmitionType ≠ .regular := notRegular
  have same : (header.store [high, middle, low]).setExtendedLength (decode24 [high, middle, low]) =
      extended context command subCommand codebit high middle low := by
    simp [header, opened, extended]
  have declared : Onward checksum .dataextlen header [high, middle, low] .dataframenumber
      (extended context command subCommand codebit high middle low) := by
    intro r1 line
    have ran : (recvHandler checksum .dataextlen none ⟨header, r1⟩).runOn Link.answer
        (.byte high :: .byte middle :: .byte low :: line) =
        some ((⟨extended context command subCommand codebit high middle low, r1⟩, .event .pass), line) := by
      simp only [recvHandler, onContext, recvDataExtLen, if_pos extending]
      rw [← same]
      rfl
    exact recv_step .dataframenumber _ ran rfl (by decide) .refl
  refine denies_start (fun count cutOff => ?_) cutOff
  refine Denies.take [ControlCode.extLen] _ trivial rfl chosen rfl (.inl rfl) (fun count cutOff => ?_) cutOff
  refine denies_command (fun count cutOff => ?_) cutOff
  exact Denies.take [high, middle, low] body extending rfl declared rfl (.inr type) rest cutOff

theorem extended_denies {command subCommand codebit high middle low code : UInt8} {payload : List UInt8}
    (notRegular : context.transmitionType ≠ .regular)
    (undivided : context.transmitionType ≠ .extendedLengthWithFrameDivision)
    (declared : decode24 [high, middle, low] = payload.length + 8) (limit : payload.length + 8 ≤ 1032)
    (cutOff : count < (ControlCode.stx :: ControlCode.extLen :: command :: subCommand :: codebit :: high :: middle ::
      low :: (payload ++ [ControlCode.etx, code])).length) :
    Denies checksum .extendedLength .stx context ((ControlCode.stx :: ControlCode.extLen :: command :: subCommand ::
      codebit :: high :: middle :: low :: (payload ++ [ControlCode.etx, code])).take count) := by
  have short : ¬ decode24 [high, middle, low] > kMaxExtendedLengthFrameLength := by
    unfold kMaxExtendedLengthFrameLength
    omega
  have taken : (extended context command subCommand codebit high middle low).transmitionType = .extendedLength := by
    simp [extended, RecvContext.setExtendedLength, RecvContext.store, short, undivided]
  have size : dataSize (extended context command subCommand codebit high middle low) = payload.length := by
    have first : sub32 (payload.length + 8) 2 = payload.length + 8 - 2 := sub32_of_le (by omega) (by omega)
    have second : sub32 (payload.length + 6) 6 = payload.length + 6 - 6 := sub32_of_le (by omega) (by omega)
    rw [dataSize, taken]
    change sub32 (sub32 (decode24 [high, middle, low]) 2) 6 = _
    rw [declared, first]
    exact second
  have skipped : Onward checksum .dataframenumber (extended context command subCommand codebit high middle low) [] .data
      (extended context command subCommand codebit high middle low) := by
    intro r1 line
    have ran : (recvHandler checksum .dataframenumber none
        ⟨extended context command subCommand codebit high middle low, r1⟩).runOn Link.answer line =
        some ((⟨extended context command subCommand codebit high middle low, r1⟩, .event .pass), line) := by
      simp [recvHandler, onContext, recvDataFrameNumber, taken]
    exact recv_step .data _ ran rfl (by decide) .refl
  refine denies_extended notRegular taken (fun count cutOff => ?_) cutOff
  exact (denies_data size cutOff).behind skipped rfl (.inl rfl)

theorem divided_denies {command subCommand codebit high middle low number1 number2 total1 total2 code : UInt8}
    {payload : List UInt8} (notRegular : context.transmitionType ≠ .regular)
    (declared : decode24 [high, middle, low] = payload.length + 12)
    (divided : context.transmitionType = .extendedLengthWithFrameDivision ∨ 1032 < payload.length + 12)
    (cutOff : count < (ControlCode.stx :: ControlCode.extLen :: command :: subCommand :: codebit :: high :: middle ::
      low :: number1 :: number2 :: total1 :: total2 :: (payload ++ [ControlCode.etx, code])).length) :
    Denies checksum .extendedLengthWithFrameDivision .stx context ((ControlCode.stx :: ControlCode.extLen :: command ::
      subCommand :: codebit :: high :: middle :: low :: number1 :: number2 :: total1 :: total2 ::
      (payload ++ [ControlCode.etx, code])).take count) := by
  let header := extended context command subCommand codebit high middle low
  let numbered := { header.store [number1, number2, total1, total2] with
    totalFrames := decode16 [total1, total2], frameNumber := decode16 [number1, number2] }
  have small := decode24_lt [high, middle, low]
  have long : decode24 [high, middle, low] > kMaxExtendedLengthFrameLength ∨
      context.transmitionType = .extendedLengthWithFrameDivision := by
    rw [declared]
    exact divided.symm
  have taken : header.transmitionType = .extendedLengthWithFrameDivision := by
    simp [header, extended, RecvContext.setExtendedLength, RecvContext.store, long]
  have size : dataSize numbered = payload.length := by
    have first : sub32 (payload.length + 12) 2 = payload.length + 12 - 2 := sub32_of_le (by omega) (by omega)
    have second : sub32 (payload.length + 10) 10 = payload.length + 10 - 10 := sub32_of_le (by omega) (by omega)
    change sub32 (sub32 (decode24 [high, middle, low]) 2) (headerLength header.transmitionType) = _
    rw [taken, declared, first]
    exact second
  have counted : Onward checksum .dataframenumber header [number1, number2, total1, total2] .data numbered := by
    intro r1 line
    have ran : (recvHandler checksum .dataframenumber none ⟨header, r1⟩).runOn Link.answer
        (.byte number1 :: .byte number2 :: .byte total1 :: .byte total2 :: line) =
        some ((⟨numbered, r1⟩, .event .pass), line) := by
      simp only [recvHandler, onContext, recvDataFrameNumber, if_pos taken]
      rfl
    exact recv_step .data _ ran rfl (by decide) .refl
  refine denies_extended notRegular taken (fun count cutOff => ?_) cutOff
  refine Denies.take [number1, number2, total1, total2] _ taken rfl counted rfl (.inl rfl) (fun count cutOff => ?_) cutOff
  exact denies_data size cutOff

end CpuCom.Uart.Protocol
