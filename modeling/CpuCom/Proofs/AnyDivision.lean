import CpuCom.Proofs.DividedMessage

/-! Divided messages of another encoder, which may cut its data into pieces of any
sizes, down to a single one. The loop that joins the pieces strips the trailer of
the first one, and the end of the receive strips it once more unless the last
piece comes later in the loop. -/

namespace CpuCom.Uart.Protocol
open Interaction FiniteStateMachine

variable (checksum : List UInt8 → UInt8)

/-- What a peer keeps to that divides a message: the total fits its field, the first
frame is too long for an undivided message, and no frame is longer than a frame of a
divided message may be. Each piece has the code bit and the payload of its frame. -/
structure WellDivided (first : UInt8 × List UInt8) (others : List (UInt8 × List UInt8)) : Prop where
  counted : others.length + 1 < 2 ^ 16
  divided : kMaxExtendedLengthFrameLength < first.2.length + 12
  bounded : ∀ part ∈ first :: others, part.2.length + 12 ≤ kMaxExtendedLengthFrameDivisionFrameLength

variable {first : UInt8 × List UInt8} {others : List (UInt8 × List UInt8)}

theorem WellDivided.stored (well : WellDivided first others) (command subCommand : UInt8) (r1 : Nat) :
    ∃ after : RecvContext, (recvMachine checksum).ReachesOn Link.answer (recvStart checksum r1, Link.framesSymbols
        (numberedFrames checksum command subCommand (others.length + 1) 0 (first :: others)))
        (.ended ⟨{ after with result := true }, 0⟩, []) ∧
      after.frames = numberedFrames checksum command subCommand (others.length + 1) 0 (first :: others) ∧
      after.transmitionType = .extendedLengthWithFrameDivision ∧ after.totalFrames = others.length + 1 ∧
      after.frameNumber = others.length := by
  obtain ⟨counted, long, bounded⟩ := well
  have short : ∀ part ∈ first :: others, part.2.length ≤ 1024 := by
    intro part member
    have limit := bounded part member
    unfold kMaxExtendedLengthFrameDivisionFrameLength at limit
    omega
  obtain ⟨after, reached, frames, type, total, number⟩ := numbered_to_done checksum command subCommand
    (others.length + 1) 0 [] 0 first.1 first.2 others .initial rfl TransmitionType.noConfusion
      (.inr long) short (by omega)
    (by omega)
  rw [List.append_nil] at reached
  rw [Nat.add_sub_cancel] at number
  have finished : recvDone after = .pure ({ after with result := true }, .pass) := by
    have last : others.length = sub32 (others.length + 1) 1 := by
      rw [sub32_of_le (by omega) (by omega), Nat.add_sub_cancel]
    simp [recvDone, type, total, number, ← last]
  exact ⟨after, ((start_to_enquiry checksum r1 _ _).trans reached).trans (done_to_end checksum 0 [] finished), frames,
    type, total, number⟩

/-- A message that is divided into a single piece comes back without its last two bytes. -/
theorem WellDivided.shortened (well : WellDivided first []) {command subCommand : UInt8} {r1 : Nat} {data : List UInt8}
    (received : ReceivesFrom checksum r1 (Link.framesSymbols (numberedFrames checksum command subCommand 1 0 [first]))
      (.message data) []) : data.length + 2 ≤ 3 + first.2.length := by
  obtain ⟨after, ended, frames, type, total, number⟩ := well.stored checksum command subCommand r1
  have answered : ReceivesFrom checksum r1
      (Link.framesSymbols (numberedFrames checksum command subCommand 1 0 [first]))
      (receive { after with result := true }) [] := ⟨_, ended, rfl⟩
  have same := answered.unique received
  have single : after.completedFrames = [] ∧ after.currentFrame =
      dividedFrame checksum command subCommand first.1 (first.2.length + 12) 0 1 first.2 := by
    simpa [RecvContext.frames, numberedFrames, List.append_eq_singleton_iff] using frames
  have long : after.currentFrame.length = first.2.length + 14 := by
    rw [single.2]
    simp [dividedFrame, sealFrame]
  have last : after.frameNumber = sub32 after.totalFrames 1 := by
    rw [number, total]
    exact (sub32_of_le (Nat.le_refl 1) (by omega)).symm
  have few : after.frameNumber < 65536 := by
    rw [number]
    exact Nat.succ_pos _
  have shorter := sole_piece_shorter type single.1 last few (by omega) same
  omega

/-- A divided message of any sizes comes back whole exactly when it has at least two
pieces. -/
theorem division_received_iff (well : WellDivided first others) (command subCommand : UInt8) (r1 : Nat) :
    ReceivesFrom checksum r1 (Link.framesSymbols
        (numberedFrames checksum command subCommand (others.length + 1) 0 (first :: others)))
      (.message (command :: subCommand :: first.1 :: (first :: others).flatMap Prod.snd)) [] ↔
        2 ≤ (first :: others).length := by
  constructor
  · intro received
    cases others with
    | cons next others => simp
    | nil =>
      have shorter := well.shortened checksum received
      simp only [List.flatMap_cons, List.flatMap_nil, List.append_nil, List.length_cons] at shorter
      omega
  · intro several
    have more : others ≠ [] := by
      intro none
      simp [none] at several
    have counted := well.counted
    obtain ⟨after, ended, frames, type, total, _⟩ := well.stored checksum command subCommand r1
    exact ⟨_, ended, receive_numbered checksum rfl type total more (by omega) frames⟩

/-- Two pieces, the second of them empty. -/
theorem division_received_two : WellDivided (0, List.replicate 1021 7) [(1, [])] ∧
    (ReceivesFrom List.sum 0 (Link.framesSymbols
        (numberedFrames List.sum 1 2 2 0 [(0, List.replicate 1021 7), (1, [])]))
      (.message (1 :: 2 :: 0 :: [((0 : UInt8), List.replicate 1021 7), (1, [])].flatMap Prod.snd)) [] ↔
        2 ≤ [((0 : UInt8), List.replicate 1021 (7 : UInt8)), (1, [])].length) := by
  have well : WellDivided (0, List.replicate 1021 7) [(1, [])] := by
    refine ⟨by decide, ?_, ?_⟩
    · rw [List.length_replicate]
      decide
    · intro part member
      rcases List.mem_pair.mp member with rfl | rfl
      · rw [List.length_replicate]
        decide
      · decide
  exact ⟨well, division_received_iff List.sum well 1 2 0⟩

/-- The shortest message that a peer may divide, in one piece. -/
theorem division_lost :
    ¬ ∀ first others command subCommand r1, WellDivided first others →
      ReceivesFrom List.sum r1 (Link.framesSymbols
          (numberedFrames List.sum command subCommand (others.length + 1) 0 (first :: others)))
        (.message (command :: subCommand :: first.1 :: (first :: others).flatMap Prod.snd)) [] := by
  intro claimed
  have well : WellDivided (0, List.replicate 1021 7) [] := by
    refine ⟨by decide, ?_, ?_⟩
    · rw [List.length_replicate]
      decide
    · intro part member
      obtain rfl := List.mem_singleton.mp member
      rw [List.length_replicate]
      decide
  have shorter := well.shortened List.sum (claimed (0, List.replicate 1021 7) [] 1 2 0 well)
  simp only [List.flatMap_cons, List.flatMap_nil, List.append_nil, List.length_cons, List.length_replicate] at shorter
  omega

end CpuCom.Uart.Protocol
