import CpuCom.Proofs.FrameDelivery
import CpuCom.Proofs.FrameJoining

/-! Divided messages over the clean line. Each frame is stored behind the ones
before it, and the frame whose number is the last one ends the receive. -/

namespace CpuCom.Uart.Protocol
open Interaction FiniteStateMachine

variable (checksum : List UInt8 → UInt8)

/-- The frames of a divided message are stored in order. The first one selects the
divided form by its length, unless an earlier frame has done so. -/
theorem numbered_to_done (command subCommand : UInt8) (total r1 : Nat) (rest : List Symbol) (i : Nat)
    (codebit : UInt8) (payload : List UInt8) (parts : List (UInt8 × List UInt8)) (context : RecvContext)
    (empty : context.currentFrame = []) (notRegular : context.transmitionType ≠ .regular)
    (divided : context.transmitionType = .extendedLengthWithFrameDivision ∨ 1032 < payload.length + 12)
    (bounded : ∀ part ∈ (codebit, payload) :: parts, part.2.length ≤ 1024)
    (last : i + parts.length + 1 = total) (fits : total ≤ 65535) :
    ∃ after, (recvMachine checksum).ReachesOn Link.answer
        (.running .enquiry none ⟨context, r1⟩, Link.framesSymbols
          (numberedFrames checksum command subCommand total i ((codebit, payload) :: parts)) ++ rest)
        (.running .done none ⟨after, r1⟩, rest) ∧
      after.frames = context.completedFrames ++
        numberedFrames checksum command subCommand total i ((codebit, payload) :: parts) ∧
      after.transmitionType = .extendedLengthWithFrameDivision ∧
      after.totalFrames = total ∧ after.frameNumber = total - 1 := by
  induction parts generalizing i codebit payload context with
  | nil =>
    simp only [List.length_nil, Nat.add_zero] at last
    have short := bounded _ List.mem_cons_self
    have delivered := divided_delivered checksum context r1 rest empty command subCommand codebit i total payload rfl
      notRegular divided (Nat.lt_of_le_of_lt (Nat.add_le_add_right short 12) (by decide))
    rw [Nat.mod_eq_of_lt (by omega : i < 65536), Nat.mod_eq_of_lt (by omega : total < 65536)] at delivered
    refine ⟨_, by simpa [Link.framesSymbols, numberedFrames] using delivered, rfl, rfl, rfl, ?_⟩
    simp only
    omega
  | cons next parts ih =>
    obtain ⟨code, chunk⟩ := next
    simp only [List.length_cons] at last
    have short := bounded _ List.mem_cons_self
    let frame := dividedFrame checksum command subCommand codebit (payload.length + 12) i total payload
    let stored := { context with
      currentFrame := frame, transmitionType := .extendedLengthWithFrameDivision,
      dataLength := payload.length + 10, frameNumber := i, totalFrames := total }
    have delivered := divided_delivered checksum context r1 (Link.framesSymbols
      (numberedFrames checksum command subCommand total (i + 1) ((code, chunk) :: parts)) ++ rest) empty command
      subCommand codebit i total payload rfl notRegular divided
      (Nat.lt_of_le_of_lt (Nat.add_le_add_right short 12) (by decide))
    rw [Nat.mod_eq_of_lt (by omega : i < 65536), Nat.mod_eq_of_lt (by omega : total < 65536)] at delivered
    have unfinished : i ≠ sub32 total 1 := by
      rw [sub32_of_le (by omega) (by omega)]
      omega
    have continued : (recvHandler checksum .done none ⟨stored, r1⟩).runOn Link.answer (Link.framesSymbols
        (numberedFrames checksum command subCommand total (i + 1) ((code, chunk) :: parts)) ++ rest) =
        some ((⟨stored.onFrameCompleted, r1⟩, .event .wait), Link.framesSymbols
          (numberedFrames checksum command subCommand total (i + 1) ((code, chunk) :: parts)) ++ rest) := by
      simp [recvHandler, onContext, recvDone, stored, unfinished]
    obtain ⟨after, reached, frames, type, count, number⟩ := ih (i + 1) code chunk stored.onFrameCompleted rfl
      (by simp [stored, RecvContext.onFrameCompleted]) (Or.inl rfl)
      (fun part member => bounded part (List.mem_cons_of_mem _ member)) (by omega)
    refine ⟨after, ?_, ?_, type, count, number⟩
    · have whole := delivered.trans (recv_step .enquiry _ continued rfl (by decide) reached)
      simpa [Link.framesSymbols, numberedFrames] using whole
    · rw [frames]
      simp [stored, frame, RecvContext.onFrameCompleted, RecvContext.frames, numberedFrames]

/-- The frames of a divided message, and the message as its first frame and the
other pieces hold it. -/
structure Divides (data : List UInt8) (command subCommand codebit : UInt8) (first : List UInt8)
    (parts : List (UInt8 × List UInt8)) : Prop where
  frames : prepareFrames checksum data =
    numberedFrames checksum command subCommand (parts.length + 1) 0 ((codebit, first) :: parts)
  several : parts ≠ []
  few : parts.length + 1 ≤ 65535
  full : first.length = 1024
  bounded : ∀ part ∈ (codebit, first) :: parts, part.2.length ≤ 1024
  content : data.set 2 (data.getD 2 0 ||| 0x02) = command :: subCommand :: codebit :: (first ++ parts.flatMap Prod.snd)

theorem exists_divides {data : List UInt8} (long : 1031 ≤ data.length)
    (fits : (data.length - 3 + 1023) / 1024 ≤ 65535) :
    ∃ command subCommand codebit first parts, Divides checksum data command subCommand codebit first parts := by
  obtain ⟨command, subCommand, codebit, payload, rfl⟩ := exists_command (by omega : 3 ≤ data.length)
  simp only [List.length_cons] at long fits
  obtain ⟨remaining, count⟩ : ∃ remaining, (payload.length + 1 + 1 + 1 - 3 + 1023) / 1024 = remaining + 2 :=
    ⟨(payload.length + 1 + 1 + 1 - 3 + 1023) / 1024 - 2, by omega⟩
  have shape : pieces codebit (chunksOf (remaining + 2) payload) =
      (codebit ||| 0x02, payload.take 1024) :: pieces codebit (chunksOf (remaining + 1) (payload.drop 1024)) := rfl
  have length : (pieces codebit (chunksOf (remaining + 1) (payload.drop 1024))).length = remaining + 1 := by
    rw [length_pieces, length_chunksOf]
  refine ⟨command, subCommand, codebit ||| 0x02, payload.take 1024,
    pieces codebit (chunksOf (remaining + 1) (payload.drop 1024)), ?_, ?_, ?_, ?_, ?_, ?_⟩
  · rw [prepareFrames_divided checksum _ (by simpa using long) (by simp; omega)]
    simp only [List.length_cons, List.getD_cons_zero, List.getD_cons_succ, List.drop_succ_cons, List.drop_zero, count]
    rw [shape, length]
  · exact List.ne_nil_of_length_pos (by omega)
  · omega
  · rw [List.length_take]
    omega
  · intro part member
    have chunk : part.2 ∈ (pieces codebit (chunksOf (remaining + 2) payload)).map Prod.snd := by
      rw [shape]
      exact List.mem_map_of_mem member
    rw [pieces_chunks] at chunk
    exact chunk_le _ _ _ chunk
  · rw [List.flatMap_def, pieces_chunks, flatten_chunksOf _ _ (by rw [List.length_drop]; omega), List.take_append_drop]
    rfl

/-- The divided message comes back with the flag of a divided message in its code
bit, and all its other bytes are as they were. -/
theorem divided_message_received (r1 : Nat) (data : List UInt8) (rest : List Symbol) (long : 1031 ≤ data.length)
    (fits : (data.length - 3 + 1023) / 1024 ≤ 65535) :
    ReceivesFrom checksum r1 (Link.framesSymbols (prepareFrames checksum data) ++ rest)
      (.message (data.set 2 (data.getD 2 0 ||| 0x02))) rest := by
  obtain ⟨command, subCommand, codebit, first, parts, divides⟩ := exists_divides checksum long fits
  have few := divides.few
  rw [divides.frames, divides.content]
  obtain ⟨after, reached, frames, type, total, number⟩ :=
    numbered_to_done checksum command subCommand (parts.length + 1) 0
    rest 0 codebit first parts .initial rfl (by decide)
      (Or.inr (by rw [divides.full]; decide)) divides.bounded (by omega)
    few
  have finished : recvDone after = .pure ({ after with result := true }, .pass) := by
    have last : parts.length = sub32 (parts.length + 1) 1 := by
      rw [sub32_of_le (by omega) (by omega), Nat.add_sub_cancel]
    simp [recvDone, type, total, number, ← last]
  rw [RecvContext.initial, List.nil_append] at frames
  have received := receive_numbered checksum rfl type total divides.several (by omega) frames
  exact ⟨_, ((start_to_enquiry checksum r1 _ _).trans reached).trans (done_to_end checksum 0 rest finished), received⟩

/-- A divided message survives the clean line, up to the flag in its code bit. -/
theorem divided_message_round_trip (r1 : Nat) (data : List UInt8) (long : 1031 ≤ data.length)
    (fits : (data.length - 3 + 1023) / 1024 ≤ 65535) :
    ReceivesFrom checksum r1 (Link.framesSymbols (prepareFrames checksum data))
      (.message (data.set 2 (data.getD 2 0 ||| 0x02))) [] := by
  have received := divided_message_received checksum r1 data [] long fits
  rwa [List.append_nil] at received

theorem divided_message_round_trip_zeros :
    ReceivesFrom List.sum 0 (Link.framesSymbols (prepareFrames List.sum (List.replicate 1031 0)))
      (.message ((List.replicate 1031 0).set 2 ((List.replicate 1031 0).getD 2 0 ||| 0x02))) [] := by
  have length : (List.replicate 1031 (0 : UInt8)).length = 1031 := List.length_replicate
  exact divided_message_round_trip List.sum 0 (List.replicate 1031 0) (by omega) (by omega)

end CpuCom.Uart.Protocol
