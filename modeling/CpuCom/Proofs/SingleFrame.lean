import CpuCom.Proofs.FrameDelivery
import CpuCom.Proofs.FrameJoining

/-! Messages of one frame over the clean line. The encoder keeps a message in one
frame up to 1030 bytes, but the receiver takes a frame whose declared length is
above 1032 for a piece of a divided message, so the last three lengths are lost. -/

namespace CpuCom.Uart.Protocol
open Interaction FiniteStateMachine

variable (checksum : List UInt8 → UInt8)

section
variable {context : RecvContext} (r1 : Nat) (rest : List Symbol) (empty : context.currentFrame = [])
include empty

/-- A regular frame ends the receive with its message, whatever is stored. -/
theorem regular_completes {data : List UInt8} (atLeast : 3 ≤ data.length) (atMost : data.length ≤ 251) :
    ∃ receiving, (recvMachine checksum).ReachesOn Link.answer
        (.running .enquiry none ⟨context, r1⟩, Link.frameSymbols (regularFrame checksum data) ++ rest)
        (.ended receiving, rest) ∧
      receive receiving.context = .message data := by
  obtain ⟨command, subCommand, codebit, payload, rfl⟩ := exists_command atLeast
  simp only [List.length_cons] at atMost
  have delivered := regular_delivered checksum context r1 rest empty command subCommand codebit payload rfl (by omega)
  refine ⟨_, delivered.trans (done_to_end checksum r1 rest rfl), congrArg Received.message ?_⟩
  simp [stripFrame, regularFrame, sealFrame, kStxLength, kLenLength, kCsLength, kEtxLength]

/-- An extended frame ends the receive with its message unless a divided one has begun. -/
theorem extended_completes {data : List UInt8} (notRegular : context.transmitionType ≠ .regular)
    (undivided : context.transmitionType ≠ .extendedLengthWithFrameDivision) (atLeast : 3 ≤ data.length)
    (atMost : data.length ≤ 1027) :
    ∃ receiving, (recvMachine checksum).ReachesOn Link.answer
        (.running .enquiry none ⟨context, r1⟩, Link.frameSymbols (extendedLengthFrame checksum data) ++ rest)
        (.ended receiving, rest) ∧
      receive receiving.context = .message data := by
  obtain ⟨command, subCommand, codebit, payload, rfl⟩ := exists_command atLeast
  simp only [List.length_cons] at atMost
  have delivered := extended_delivered checksum context r1 rest empty command subCommand codebit payload rfl notRegular
    undivided (by omega)
  refine ⟨_, delivered.trans (done_to_end checksum r1 rest rfl), congrArg Received.message ?_⟩
  simp [stripFrame, extendedLengthFrame, sealFrame, kStxLength, kLenLength, kCmdLength, kCsLength, kEtxLength,
    kExtLenLength]

end

/-- What is delivered of a regular or undivided frame is the message. -/
theorem single_frame_received (r1 : Nat) {data : List UInt8} (rest : List Symbol) (atLeast : 3 ≤ data.length)
    (atMost : data.length ≤ 1027) :
    ReceivesFrom checksum r1 (Link.framesSymbols (prepareFrames checksum data) ++ rest) (.message data) rest := by
  by_cases short : data.length ≤ 251
  · rw [prepareFrames_regular checksum short, Link.framesSymbols, List.flatMap_singleton]
    obtain ⟨receiving, ended, received⟩ := @regular_completes checksum .initial 0 rest rfl data atLeast short
    exact ⟨receiving, (start_to_enquiry checksum r1 _ _).trans ended, received⟩
  · rw [prepareFrames_extended checksum (by omega) (by omega), Link.framesSymbols, List.flatMap_singleton]
    obtain ⟨receiving, ended, received⟩ := @extended_completes checksum .initial 0 rest rfl data
      TransmitionType.noConfusion TransmitionType.noConfusion atLeast atMost
    exact ⟨receiving, (start_to_enquiry checksum r1 _ _).trans ended, received⟩

/-- A frame of one of the last three lengths is taken for a piece of a divided
message, whose number and total are the first four bytes of the data. -/
theorem misread_to_done (r1 : Nat) (rest : List Symbol) {data : List UInt8} (atLeast : 1028 ≤ data.length)
    (atMost : data.length ≤ 1030) :
    ∃ context, (recvMachine checksum).ReachesOn Link.answer
        (recvStart checksum r1, Link.framesSymbols (prepareFrames checksum data) ++ rest)
        (.running .done none ⟨context, 0⟩, rest) ∧
      context.transmitionType = .extendedLengthWithFrameDivision ∧ context.completedFrames = [] ∧
      context.currentFrame = extendedLengthFrame checksum data ∧ context.frameNumber < 65536 := by
  rw [prepareFrames_extended checksum (by omega) atMost, Link.framesSymbols, List.flatMap_singleton]
  obtain ⟨command, subCommand, codebit, tail, rfl⟩ := exists_command (by omega : 3 ≤ data.length)
  simp only [List.length_cons] at atLeast atMost
  obtain ⟨number1, number2, total1, last, rfl⟩ := exists_command (by omega : 3 ≤ tail.length)
  simp only [List.length_cons] at atLeast atMost
  obtain ⟨total2, payload, rfl⟩ := List.exists_cons_of_length_pos (by omega : 0 < last.length)
  simp only [List.length_cons] at atLeast atMost
  have declared : decode24 [byteAt (payload.length + 12) 16, byteAt (payload.length + 12) 8,
      byteAt (payload.length + 12) 0] = payload.length + 12 := by
    rw [decode24_byteAt]
    omega
  have length : uint32 (payload.length + 12) = payload.length + 12 := uint32_of_lt (by omega)
  have read := divided_to_etx checksum (RecvContext.initial.store [ControlCode.stx]) 0
    (.byte ControlCode.etx :: .byte (checksum (ControlCode.extLen :: command :: subCommand :: codebit ::
      byteAt (payload.length + 12) 16 :: byteAt (payload.length + 12) 8 :: byteAt (payload.length + 12) 0 ::
      number1 :: number2 :: total1 :: total2 :: payload ++ [ControlCode.etx])) :: rest)
    command subCommand codebit _ _ _ number1 number2 total1 total2 payload (by decide) declared (Or.inr (by omega))
  have whole := sealed_delivered checksum .initial 0 rest (ControlCode.extLen :: command ::
    subCommand :: codebit :: byteAt (payload.length + 12) 16 :: byteAt (payload.length + 12) 8 ::
    byteAt (payload.length + 12) 0 :: number1 :: number2 :: total1 :: total2 :: payload)
    (by simp [RecvContext.store, RecvContext.initial]) read
  have same : extendedLengthFrame checksum
        (command :: subCommand :: codebit :: number1 :: number2 :: total1 :: total2 :: payload) =
      sealFrame checksum (ControlCode.extLen :: command :: subCommand :: codebit ::
        byteAt (payload.length + 12) 16 :: byteAt (payload.length + 12) 8 :: byteAt (payload.length + 12) 0 ::
        number1 :: number2 :: total1 :: total2 :: payload ++ [ControlCode.etx]) := by
    simp [extendedLengthFrame, kExtLenLength, kFrameFooterLength, kEtxLength, kCsLength, length]
  rw [same]
  exact ⟨_, (start_to_enquiry checksum r1 _ _).trans whole, rfl, rfl, rfl, decode16_lt _⟩

/-- No message of the last three lengths of one frame comes out of a receive: the
receiver waits for more frames, throws, or returns other bytes. -/
theorem misread_not_received (r1 : Nat) {data : List UInt8} (atLeast : 1028 ≤ data.length)
    (atMost : data.length ≤ 1030) :
    ¬ ReceivesFrom checksum r1 (Link.framesSymbols (prepareFrames checksum data)) (.message data) [] := by
  intro ⟨receiving, ended, received⟩
  obtain ⟨context, misread, divided, sole, stored, numbered⟩ :=
    misread_to_done checksum r1 [] atLeast atMost
  rw [List.append_nil] at misread
  have later := ended.to_end misread
  by_cases last : context.frameNumber = sub32 context.totalFrames 1
  · have content : recvDone context = .pure ({ context with result := true }, .pass) := by
      simp [recvDone, divided, last]
    obtain ⟨same, _⟩ := later.ended_unique (done_to_end checksum 0 [] content)
    rw [same] at received
    have length : context.currentFrame.length = data.length + 7 := by
      rw [stored]
      simp [extendedLengthFrame, sealFrame]
      omega
    have shorter := sole_piece_shorter divided sole last numbered (by omega) received
    omega
  · have unfinished : (recvHandler checksum .done none ⟨context, 0⟩).runOn Link.answer [] =
        some ((⟨context.onFrameCompleted, 0⟩, .event .wait), []) := by
      simp [recvHandler, onContext, recvDone, divided, last]
    have waiting := ReachesOn.of_stuck rfl (later.to_end (recv_step .enquiry _ unfinished rfl (by decide) .refl))
    cases waiting

/-- A message that the encoder puts into one frame comes back unless it has one of
the last three lengths. -/
theorem single_frame_round_trip (r1 : Nat) (data : List UInt8) (atLeast : 3 ≤ data.length)
    (atMost : data.length ≤ 1030) :
    (prepareFrames checksum data).length = 1 ∧
      (ReceivesFrom checksum r1 (Link.framesSymbols (prepareFrames checksum data)) (.message data) [] ↔
        data.length ≤ 1027) := by
  constructor
  · by_cases short : data.length ≤ 251
    · rw [prepareFrames_regular checksum short, List.length_singleton]
    · rw [prepareFrames_extended checksum (by omega) atMost, List.length_singleton]
  · constructor
    · intro received
      by_contra long
      exact misread_not_received checksum r1 (by omega) atMost received
    · intro short
      simpa using single_frame_received checksum r1 [] atLeast short

theorem single_frame_round_trip_three :
    (prepareFrames List.sum [1, 2, 3]).length = 1 ∧
      (ReceivesFrom List.sum 0 (Link.framesSymbols (prepareFrames List.sum [1, 2, 3])) (.message [1, 2, 3]) [] ↔
        ([1, 2, 3] : List UInt8).length ≤ 1027) :=
  single_frame_round_trip List.sum 0 [1, 2, 3] (by decide) (by decide)

/-- A message of 1028 zero bytes is lost. -/
theorem single_frame_lost :
    ¬ ∀ data : List UInt8, 3 ≤ data.length → data.length ≤ 1030 →
      (prepareFrames List.sum data).length = 1 ∧
        ReceivesFrom List.sum 0 (Link.framesSymbols (prepareFrames List.sum data)) (.message data) [] := by
  intro claimed
  have length : (List.replicate 1028 (0 : UInt8)).length = 1028 := List.length_replicate
  obtain ⟨_, received⟩ := claimed (List.replicate 1028 0) (by omega) (by omega)
  exact misread_not_received List.sum 0 (by omega) (by omega) received

end CpuCom.Uart.Protocol
