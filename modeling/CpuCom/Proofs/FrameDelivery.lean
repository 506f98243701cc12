import CpuCom.Proofs.FrameLayout
import CpuCom.Uart.Link

/-! A well-formed frame that arrives over the clean line takes the receive machine
from its enquiry to the state `done`, with the frame stored as it was sent. -/

namespace CpuCom.Uart.Protocol
open Interaction FiniteStateMachine

variable (checksum : List UInt8 → UInt8)

@[simp] theorem readBytes_map (bytes : List UInt8) (rest : List Symbol) :
    Link.readBytes bytes.length (bytes.map .byte ++ rest) = some (⟨.success, bytes⟩, rest) := by
  induction bytes with
  | nil => rfl
  | cons byte bytes ih => simp [Link.readBytes, ih]

theorem recv_step {checksum : List UInt8 → UInt8} {state : RecvState} {event : Event} {loop : Option UInt8}
    {receiving : Receiving} (next : RecvState) (after : Receiving) {line last : List Symbol}
    {target : RecvConfig × List Symbol}
    (ran : (recvHandler checksum state loop receiving).runOn Link.answer line = some ((after, .event event), last))
    (moves : recvTransition state event = next) (unfinished : state ≠ .end)
    (continued : (recvMachine checksum).ReachesOn Link.answer (.running next none after, last) target) :
    (recvMachine checksum).ReachesOn Link.answer (.running state loop receiving, line) target :=
  .step (by
    rw [stepOn_event ran unfinished]
    exact congrArg (fun next => some (Config.running next none after, last)) moves)
    continued

section
variable (context : RecvContext) (r1 : Nat) (rest : List Symbol)

theorem enquiry_to_len :
    (recvMachine checksum).ReachesOn Link.answer
      (.running .enquiry none ⟨context, r1⟩,
        .byte ControlCode.enq :: .silence :: .byte ControlCode.stx :: rest)
      (.running .len none ⟨context.store [ControlCode.stx], r1⟩, rest) := by
  refine .step (stepOn_again rfl) ?_
  refine recv_step .ack _ rfl rfl (by decide) ?_
  refine recv_step .stx _ rfl rfl (by decide) ?_
  exact recv_step .len _ rfl rfl (by decide) .refl

theorem etx_to_done (code : UInt8)
    (right : code = checksum ((context.currentFrame ++ [ControlCode.etx]).drop 1)) :
    (recvMachine checksum).ReachesOn Link.answer
      (.running .etx none ⟨context, r1⟩, .byte ControlCode.etx :: .byte code :: rest)
      (.running .done none ⟨context.store [ControlCode.etx, code], r1⟩, rest) := by
  have accepted : (recvHandler checksum .cs none ⟨context.store [ControlCode.etx], r1⟩).runOn Link.answer
      (.byte code :: rest) = some ((⟨context.store [ControlCode.etx, code], r1⟩, .event .pass), rest) := by
    simp [recvHandler, onContext, recvChecksum, Program.runOn, Link.answer, Response.byte, RecvContext.store, right]
  refine recv_step .cs ⟨context.store [ControlCode.etx], r1⟩ rfl rfl (by decide) ?_
  refine recv_step .ack2 _ accepted rfl (by decide) ?_
  exact recv_step .done _ rfl rfl (by decide) .refl

theorem datacmd_to_dataextlen (command subCommand codebit : UInt8) :
    (recvMachine checksum).ReachesOn Link.answer
      (.running .datacmd none ⟨context, r1⟩, .byte command :: .byte subCommand :: .byte codebit :: rest)
      (.running .dataextlen none ⟨context.store [command, subCommand, codebit], r1⟩, rest) :=
  recv_step .dataextlen _ rfl rfl (by decide) .refl

/-- The data are read in one piece of the size that the declared length leaves. -/
theorem data_to_etx (payload : List UInt8) (size : dataSize context = payload.length) :
    (recvMachine checksum).ReachesOn Link.answer
      (.running .data none ⟨context, r1⟩, payload.map .byte ++ rest)
      (.running .etx none ⟨context.store payload, r1⟩, rest) := by
  have stored : (recvHandler checksum .data none ⟨context, r1⟩).runOn Link.answer (payload.map .byte ++ rest) =
      some ((⟨context.store payload, r1⟩, .event .pass), rest) := by
    simp [recvHandler, onContext, recvData, Program.runOn, Link.answer, size, Response.fill_exact, Result.event]
  exact recv_step .etx _ stored rfl (by decide) .refl

theorem regular_to_etx (length command subCommand codebit : UInt8) (payload : List UInt8)
    (declared : length.toNat = payload.length + 5) (limit : length.toNat ≤ 253) :
    (recvMachine checksum).ReachesOn Link.answer
      (.running .len none ⟨context, r1⟩, .byte length :: .byte command :: .byte subCommand :: .byte codebit ::
        (payload.map .byte ++ rest))
      (.running .etx none
        ⟨{ context.store (length :: command :: subCommand :: codebit :: payload) with
            transmitionType := .regular, dataLength := length.toNat - 2 }, r1⟩, rest) := by
  have notExt : length ≠ ControlCode.extLen := by
    intro same
    rw [same] at limit
    exact absurd limit (by decide)
  have inRange : kMinFrameLength ≤ length.toNat ∧ length.toNat ≤ kMaxFrameLength := by
    unfold kMinFrameLength kMaxFrameLength
    omega
  let selected := { context with transmitionType := .regular, dataLength := length.toNat - 2 }
  have chosen : (recvHandler checksum .len none ⟨context, r1⟩).runOn Link.answer
      (.byte length :: .byte command :: .byte subCommand :: .byte codebit :: (payload.map .byte ++ rest)) =
      some ((⟨selected.store [length], r1⟩, .event .pass),
        .byte command :: .byte subCommand :: .byte codebit :: (payload.map .byte ++ rest)) := by
    simp [recvHandler, onContext, recvLength, Program.runOn, Link.answer, Response.byte, notExt, inRange, selected,
      kFrameFooterLength, kEtxLength, kCsLength]
  let header := (selected.store [length]).store [command, subCommand, codebit]
  have size : dataSize header = payload.length := by
    have small := length.toNat_lt
    have sub : sub32 (length.toNat - 2) 3 = length.toNat - 2 - 3 := sub32_of_le (by omega) (by omega)
    change sub32 (length.toNat - 2) 3 = _
    omega
  refine recv_step .datacmd _ chosen rfl (by decide) ?_
  refine (datacmd_to_dataextlen _ _ _ _ command subCommand codebit).trans ?_
  refine recv_step .dataframenumber ⟨header, r1⟩ rfl rfl (by decide) ?_
  refine recv_step .data ⟨header, r1⟩ rfl rfl (by decide) ?_
  have read := data_to_etx checksum header r1 rest payload size
  simpa [header, selected, RecvContext.store] using read

/-- With `EXT_LEN` the length follows the command bytes, unless the context still
says that the frame is regular. -/
theorem ext_to_dataframenumber (command subCommand codebit high middle low : UInt8)
    (notRegular : context.transmitionType ≠ .regular) :
    (recvMachine checksum).ReachesOn Link.answer
      (.running .len none ⟨context, r1⟩, .byte ControlCode.extLen :: .byte command :: .byte subCommand ::
        .byte codebit :: .byte high :: .byte middle :: .byte low :: rest)
      (.running .dataframenumber none
        ⟨RecvContext.setExtendedLength
          (context.store [ControlCode.extLen, command, subCommand, codebit, high, middle, low])
          (decode24 [high, middle, low]), r1⟩, rest) := by
  let header := (context.store [ControlCode.extLen]).store [command, subCommand, codebit]
  have declared : (recvHandler checksum .dataextlen none ⟨header, r1⟩).runOn Link.answer
      (.byte high :: .byte middle :: .byte low :: rest) =
      some ((⟨RecvContext.setExtendedLength (header.store [high, middle, low]) (decode24 [high, middle, low]), r1⟩,
        .event .pass), rest) := by
    have notRegular' : header.transmitionType ≠ .regular := notRegular
    simp only [recvHandler, onContext, recvDataExtLen, if_pos notRegular']
    rfl
  refine recv_step .datacmd ⟨context.store [ControlCode.extLen], r1⟩ rfl rfl (by decide) ?_
  refine (datacmd_to_dataextlen _ _ _ _ command subCommand codebit).trans ?_
  refine recv_step .dataframenumber _ declared rfl (by decide) ?_
  rw [RecvContext.store_store, RecvContext.store_store]
  exact .refl

theorem extended_to_etx (command subCommand codebit high middle low : UInt8) (payload : List UInt8)
    (notRegular : context.transmitionType ≠ .regular)
    (undivided : context.transmitionType ≠ .extendedLengthWithFrameDivision)
    (declared : decode24 [high, middle, low] = payload.length + 8) (limit : payload.length + 8 ≤ 1032) :
    (recvMachine checksum).ReachesOn Link.answer
      (.running .len none ⟨context, r1⟩, .byte ControlCode.extLen :: .byte command :: .byte subCommand ::
        .byte codebit :: .byte high :: .byte middle :: .byte low :: (payload.map .byte ++ rest))
      (.running .etx none
        ⟨{ context.store (ControlCode.extLen :: command :: subCommand :: codebit :: high :: middle :: low :: payload)
            with transmitionType := .extendedLength, dataLength := payload.length + 6 }, r1⟩, rest) := by
  let header := RecvContext.setExtendedLength
    (context.store [ControlCode.extLen, command, subCommand, codebit, high, middle, low]) (decode24 [high, middle, low])
  have taken : header.transmitionType = .extendedLength := by
    have short : ¬ decode24 [high, middle, low] > kMaxExtendedLengthFrameLength := by
      unfold kMaxExtendedLengthFrameLength
      omega
    simp [header, RecvContext.setExtendedLength, RecvContext.store, short, undivided]
  have length : header.dataLength = payload.length + 6 := by
    have sub : sub32 (payload.length + 8) 2 = payload.length + 8 - 2 := sub32_of_le (by omega) (by omega)
    change sub32 (decode24 [high, middle, low]) 2 = _
    rw [declared]
    omega
  have size : dataSize header = payload.length := by
    have sub : sub32 (payload.length + 6) 6 = payload.length + 6 - 6 := sub32_of_le (by omega) (by omega)
    rw [dataSize, taken, length]
    change sub32 (payload.length + 6) 6 = _
    omega
  have skipped : (recvHandler checksum .dataframenumber none ⟨header, r1⟩).runOn Link.answer
    (payload.map .byte ++ rest) =
      some ((⟨header, r1⟩, .event .pass), payload.map .byte ++ rest) := by
    simp [recvHandler, onContext, recvDataFrameNumber, taken]
  refine (ext_to_dataframenumber checksum context r1 _ command subCommand codebit high middle low notRegular).trans ?_
  refine recv_step .data _ skipped rfl (by decide) ?_
  have read := data_to_etx checksum header r1 rest payload size
  have final : header.store payload =
      { context.store (ControlCode.extLen :: command :: subCommand :: codebit :: high :: middle :: low :: payload)
          with transmitionType := .extendedLength, dataLength := payload.length + 6 } := by
    rw [← taken, ← length]
    simp [header, RecvContext.setExtendedLength, RecvContext.store]
  rwa [final] at read

/-- A frame of a divided message also brings its number and the total. -/
theorem divided_to_etx (command subCommand codebit high middle low : UInt8)
    (number1 number2 total1 total2 : UInt8) (payload : List UInt8)
    (notRegular : context.transmitionType ≠ .regular)
    (declared : decode24 [high, middle, low] = payload.length + 12)
    (divided : context.transmitionType = .extendedLengthWithFrameDivision ∨ 1032 < payload.length + 12) :
    (recvMachine checksum).ReachesOn Link.answer
      (.running .len none ⟨context, r1⟩, .byte ControlCode.extLen :: .byte command :: .byte subCommand ::
        .byte codebit :: .byte high :: .byte middle :: .byte low ::
        .byte number1 :: .byte number2 :: .byte total1 :: .byte total2 :: (payload.map .byte ++ rest))
      (.running .etx none
        ⟨{ context.store (ControlCode.extLen :: command :: subCommand :: codebit :: high :: middle :: low ::
              number1 :: number2 :: total1 :: total2 :: payload) with
            transmitionType := .extendedLengthWithFrameDivision, dataLength := payload.length + 10,
            frameNumber := decode16 [number1, number2], totalFrames := decode16 [total1, total2] }, r1⟩, rest) := by
  let header := RecvContext.setExtendedLength
    (context.store [ControlCode.extLen, command, subCommand, codebit, high, middle, low]) (decode24 [high, middle, low])
  let numbered := { header.store [number1, number2, total1, total2] with
    totalFrames := decode16 [total1, total2], frameNumber := decode16 [number1, number2] }
  have small := decode24_lt [high, middle, low]
  have taken : header.transmitionType = .extendedLengthWithFrameDivision := by
    have long : decode24 [high, middle, low] > kMaxExtendedLengthFrameLength ∨
        context.transmitionType = .extendedLengthWithFrameDivision := by
      unfold kMaxExtendedLengthFrameLength
      rcases divided with already | long
      · exact Or.inr already
      · exact Or.inl (by omega)
    simp [header, RecvContext.setExtendedLength, RecvContext.store, long]
  have length : header.dataLength = payload.length + 10 := by
    have sub : sub32 (payload.length + 12) 2 = payload.length + 12 - 2 := sub32_of_le (by omega) (by omega)
    change sub32 (decode24 [high, middle, low]) 2 = _
    rw [declared]
    omega
  have size : dataSize numbered = payload.length := by
    have sub : sub32 (payload.length + 10) 10 = payload.length + 10 - 10 := sub32_of_le (by omega) (by omega)
    change sub32 header.dataLength (headerLength header.transmitionType) = _
    rw [taken, length]
    change sub32 (payload.length + 10) 10 = _
    omega
  have counted : (recvHandler checksum .dataframenumber none ⟨header, r1⟩).runOn Link.answer
      (.byte number1 :: .byte number2 :: .byte total1 :: .byte total2 :: (payload.map .byte ++ rest)) =
      some ((⟨numbered, r1⟩, .event .pass), payload.map .byte ++ rest) := by
    simp only [recvHandler, onContext, recvDataFrameNumber, if_pos taken]
    rfl
  refine (ext_to_dataframenumber checksum context r1 _ command subCommand codebit high middle low notRegular).trans ?_
  refine recv_step .data _ counted rfl (by decide) ?_
  have read := data_to_etx checksum numbered r1 rest payload size
  have final : numbered.store payload =
      { context.store (ControlCode.extLen :: command :: subCommand :: codebit :: high :: middle :: low ::
          number1 :: number2 :: total1 :: total2 :: payload) with
        transmitionType := .extendedLengthWithFrameDivision, dataLength := payload.length + 10,
        frameNumber := decode16 [number1, number2], totalFrames := decode16 [total1, total2] } := by
    rw [← taken, ← length]
    simp [numbered, header, RecvContext.setExtendedLength, RecvContext.store]
  rwa [final] at read

end

section
variable (context : RecvContext) (r1 : Nat) (rest : List Symbol)

/-- The frame is stored whole if its middle part is read as it was written. -/
theorem sealed_delivered (body : List UInt8) {after : RecvContext}
    (stored : after.currentFrame = ControlCode.stx :: body) (read : (recvMachine checksum).ReachesOn Link.answer
      (.running .len none ⟨context.store [ControlCode.stx], r1⟩, body.map .byte ++
        (.byte ControlCode.etx :: .byte (checksum (body ++ [ControlCode.etx])) :: rest))
      (.running .etx none ⟨after, r1⟩,
        .byte ControlCode.etx :: .byte (checksum (body ++ [ControlCode.etx])) :: rest)) :
    (recvMachine checksum).ReachesOn Link.answer
      (.running .enquiry none ⟨context, r1⟩,
        Link.frameSymbols (sealFrame checksum (body ++ [ControlCode.etx])) ++ rest)
      (.running .done none
        ⟨{ after with currentFrame := sealFrame checksum (body ++ [ControlCode.etx]) }, r1⟩, rest) := by
  have closed := etx_to_done checksum after r1 rest (checksum (body ++ [ControlCode.etx]))
    (by rw [stored]; rfl)
  have complete : after.store [ControlCode.etx, checksum (body ++ [ControlCode.etx])] =
      { after with currentFrame := sealFrame checksum (body ++ [ControlCode.etx]) } := by
    simp [RecvContext.store, stored, sealFrame]
  have opened := enquiry_to_len checksum context r1 (body.map .byte ++
    (.byte ControlCode.etx :: .byte (checksum (body ++ [ControlCode.etx])) :: rest))
  rw [complete] at closed
  simpa [Link.frameSymbols, sealFrame] using (opened.trans read).trans closed

variable (empty : context.currentFrame = [])
include empty

theorem regular_delivered {frame : Frame} (command subCommand codebit : UInt8) (payload : List UInt8)
    (shape : frame = regularFrame checksum (command :: subCommand :: codebit :: payload))
    (limit : payload.length ≤ 248) :
    (recvMachine checksum).ReachesOn Link.answer
      (.running .enquiry none ⟨context, r1⟩, Link.frameSymbols frame ++ rest)
      (.running .done none
        ⟨{ context with currentFrame := frame, transmitionType := .regular, dataLength := payload.length + 3 }, r1⟩,
        rest) := by
  subst shape
  have length : (UInt8.ofNat (payload.length + 5)).toNat = payload.length + 5 :=
    UInt8.toNat_ofNat_of_lt' (show payload.length + 5 < 256 by omega)
  have read := regular_to_etx checksum (context.store [ControlCode.stx]) r1
    (.byte ControlCode.etx :: .byte (checksum (UInt8.ofNat (payload.length + 5) ::
      command :: subCommand :: codebit :: payload ++ [ControlCode.etx])) :: rest)
    (UInt8.ofNat (payload.length + 5)) command subCommand codebit payload length (by omega)
  rw [length] at read
  have whole := sealed_delivered checksum context r1 rest (UInt8.ofNat (payload.length + 5) ::
    command :: subCommand :: codebit :: payload) (by simp [RecvContext.store, empty]) read
  simpa [RecvContext.store, regularFrame, kFrameFooterLength, kEtxLength, kCsLength, Nat.add_assoc] using whole

theorem extended_delivered {frame : Frame} (command subCommand codebit : UInt8) (payload : List UInt8)
    (shape : frame = extendedLengthFrame checksum (command :: subCommand :: codebit :: payload))
    (notRegular : context.transmitionType ≠ .regular)
    (undivided : context.transmitionType ≠ .extendedLengthWithFrameDivision) (limit : payload.length ≤ 1024) :
    (recvMachine checksum).ReachesOn Link.answer
      (.running .enquiry none ⟨context, r1⟩, Link.frameSymbols frame ++ rest)
      (.running .done none
        ⟨{ context with
            currentFrame := frame, transmitionType := .extendedLength, dataLength := payload.length + 6 }, r1⟩,
        rest) := by
  subst shape
  have declared : decode24 [byteAt (payload.length + 8) 16, byteAt (payload.length + 8) 8,
      byteAt (payload.length + 8) 0] = payload.length + 8 := by
    rw [decode24_byteAt]
    omega
  have length : uint32 (payload.length + 8) = payload.length + 8 := uint32_of_lt (by omega)
  have read := extended_to_etx checksum (context.store [ControlCode.stx]) r1
    (.byte ControlCode.etx :: .byte (checksum (ControlCode.extLen :: command :: subCommand :: codebit ::
      byteAt (payload.length + 8) 16 :: byteAt (payload.length + 8) 8 :: byteAt (payload.length + 8) 0 ::
      payload ++ [ControlCode.etx])) :: rest)
    command subCommand codebit _ _ _ payload notRegular undivided declared (by omega)
  have whole := sealed_delivered checksum context r1 rest (ControlCode.extLen :: command ::
    subCommand :: codebit :: byteAt (payload.length + 8) 16 :: byteAt (payload.length + 8) 8 ::
    byteAt (payload.length + 8) 0 :: payload) (by simp [RecvContext.store, empty]) read
  simpa [RecvContext.store, extendedLengthFrame, kFrameFooterLength, kEtxLength, kCsLength, kExtLenLength,
    Nat.add_assoc, length] using whole

theorem divided_delivered {frame : Frame} (command subCommand codebit : UInt8) (frameNumber framesCount : Nat)
    (payload : List UInt8)
    (shape : frame = dividedFrame checksum command subCommand codebit (payload.length + 12) frameNumber framesCount
      payload)
    (notRegular : context.transmitionType ≠ .regular)
    (divided : context.transmitionType = .extendedLengthWithFrameDivision ∨ 1032 < payload.length + 12)
    (limit : payload.length + 12 < 2 ^ 24) :
    (recvMachine checksum).ReachesOn Link.answer
      (.running .enquiry none ⟨context, r1⟩, Link.frameSymbols frame ++ rest)
      (.running .done none
        ⟨{ context with
            currentFrame := frame, transmitionType := .extendedLengthWithFrameDivision,
            dataLength := payload.length + 10, frameNumber := frameNumber % 65536,
            totalFrames := framesCount % 65536 }, r1⟩, rest) := by
  subst shape
  have declared : decode24 [byteAt (payload.length + 12) 16, byteAt (payload.length + 12) 8,
      byteAt (payload.length + 12) 0] = payload.length + 12 := by
    rw [decode24_byteAt]
    exact Nat.mod_eq_of_lt limit
  have read := divided_to_etx checksum (context.store [ControlCode.stx]) r1
    (.byte ControlCode.etx :: .byte (checksum (ControlCode.extLen :: command :: subCommand :: codebit ::
      byteAt (payload.length + 12) 16 :: byteAt (payload.length + 12) 8 :: byteAt (payload.length + 12) 0 ::
      byteAt frameNumber 8 :: byteAt frameNumber 0 :: byteAt framesCount 8 :: byteAt framesCount 0 ::
      payload ++ [ControlCode.etx])) :: rest)
    command subCommand codebit _ _ _ (byteAt frameNumber 8) (byteAt frameNumber 0) (byteAt framesCount 8)
    (byteAt framesCount 0) payload notRegular declared divided
  have whole := sealed_delivered checksum context r1 rest (ControlCode.extLen :: command ::
    subCommand :: codebit :: byteAt (payload.length + 12) 16 :: byteAt (payload.length + 12) 8 ::
    byteAt (payload.length + 12) 0 :: byteAt frameNumber 8 :: byteAt frameNumber 0 :: byteAt framesCount 8 ::
    byteAt framesCount 0 :: payload) (by simp [RecvContext.store, empty]) read
  simpa [RecvContext.store, dividedFrame, decode16_byteAt] using whole

end
/-- A receive waits for the first byte on the line and then takes the lock. -/
theorem start_to_enquiry (r1 : Nat) (first : UInt8) (rest : List Symbol) :
    (recvMachine checksum).ReachesOn Link.answer (recvStart checksum r1, .byte first :: rest)
      (.running .enquiry none ⟨.initial, 0⟩, .byte first :: rest) := by
  change (recvMachine checksum).ReachesOn Link.answer (.running .idle none ⟨.initial, r1⟩, _) _
  refine recv_step .poll ⟨.initial, 0⟩ rfl rfl (by decide) ?_
  exact recv_step .enquiry _ rfl rfl (by decide) .refl

/-- Where `recvDone` is content, the receive ends with the lock released. -/
theorem done_to_end {context after : RecvContext} (r1 : Nat) (rest : List Symbol)
    (content : recvDone context = .pure (after, .pass)) :
    (recvMachine checksum).ReachesOn Link.answer (.running .done none ⟨context, r1⟩, rest)
      (.ended ⟨after, r1⟩, rest) := by
  have passed : (recvHandler checksum .done none ⟨context, r1⟩).runOn Link.answer rest =
      some ((⟨after, r1⟩, .event .pass), rest) := by
    simp [recvHandler, onContext, content]
  refine recv_step .end _ passed rfl (by decide) ?_
  exact .step (@stepOn_final _ _ _ _ _ _ _ _ (recvMachine checksum) Link.answer none _ _ .pass _ _ rfl) .refl

theorem ReceivesFrom.unique {checksum : List UInt8 → UInt8} {r1 : Nat} {line rest other : List Symbol}
    {first second : Received (List UInt8)}
    (one : ReceivesFrom checksum r1 line first rest) (two : ReceivesFrom checksum r1 line second other) :
    first = second := by
  obtain ⟨receiving, ended, rfl⟩ := one
  obtain ⟨receiving', ended', rfl⟩ := two
  obtain ⟨rfl, _⟩ := ended.ended_unique ended'
  rfl

end CpuCom.Uart.Protocol
