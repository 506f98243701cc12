import CpuCom.Proofs.CleanSend
import CpuCom.Proofs.DividedMessage
import CpuCom.Proofs.SingleFrame

/-! Commands between the two CPUs. The code bit of a divided message carries the
flags of its frames when it comes back, and the filter of `CPU::read` compares the
whole byte, so only commands that fit one frame are delivered. -/

namespace CpuCom.Uart.Cpu
open Protocol

variable {checksum : List UInt8 → UInt8}

theorem prepareFrames_ne_nil {data : List UInt8} (small : data.length < 2 ^ 32) : prepareFrames checksum data ≠ [] := by
  by_cases short : data.length ≤ 1030
  · by_cases regular : data.length ≤ 251
    · rw [prepareFrames_regular checksum regular]
      exact List.cons_ne_nil _ _
    · rw [prepareFrames_extended checksum (by omega) short]
      exact List.cons_ne_nil _ _
  · rw [prepareFrames_divided checksum data (by omega) small]
    refine List.ne_nil_of_length_pos ?_
    rw [length_numberedFrames, length_pieces, length_chunksOf]
    omega

/-- The filter lets exactly the messages through that carry the unchanged code bit. -/
theorem read_message_iff (address : UInt8) (received : Received (List UInt8)) (command : CpuCommand)
    (data : List UInt8) :
    read address received = .message (command, data) ↔
      received = .message (pack command (getReceiveCodebit address) data) := by
  cases received with
  | crashed => simp [read]
  | nothing => simp [read]
  | message bytes =>
    match bytes with
    | [] => simp [read, unpack, pack]
    | [_] => simp [read, unpack, pack]
    | [_, _] => simp [read, unpack, pack]
    | first :: second :: codeBit :: rest =>
      by_cases same : codeBit = getReceiveCodebit address
      · subst same
        simp [read, unpack, pack, Prod.ext_iff, and_assoc]
      · simp [read, unpack, pack, same]

/-- Delivery is what the receive from the frames of the command returns. -/
theorem delivers_iff (r1 r2 : Nat) (command : CpuCommand) (data : List UInt8) (small : data.length + 3 < 2 ^ 32) :
    Delivers checksum r1 r2 command data ↔
      ReceivesFrom checksum r1 (Link.framesSymbols (prepareFrames checksum (writeData kAddressVCPU command data)))
        (.message (writeData kAddressVCPU command data)) [] := by
  have length : (writeData kAddressVCPU command data).length = data.length + 3 := rfl
  have nonempty := @prepareFrames_ne_nil checksum (writeData kAddressVCPU command data) (by omega)
  have few := length_prepareFrames_lt checksum (writeData kAddressVCPU command data)
  constructor
  · intro ⟨line, received, transmitted, receives, delivered⟩
    obtain ⟨rfl, _⟩ := (transmits_iff r2 line true nonempty few).mp transmitted
    obtain rfl := (read_message_iff _ _ _ _).mp delivered
    exact receives
  · intro receives
    exact ⟨_, _, (transmits_iff r2 _ true nonempty few).mpr ⟨rfl, rfl⟩, receives, (read_message_iff _ _ _ _).mpr rfl⟩

theorem long_not_delivered (r1 r2 : Nat) (command : CpuCommand) (data : List UInt8) (long : 1024 < data.length)
    (fits : (data.length + 1023) / 1024 ≤ 65535) : ¬ Delivers checksum r1 r2 command data := by
  have length : (writeData kAddressVCPU command data).length = data.length + 3 := rfl
  rw [delivers_iff r1 r2 command data (by omega)]
  by_cases undivided : data.length ≤ 1027
  · exact misread_not_received checksum r1 (by omega) (by omega)
  · intro received
    have flagged := divided_message_round_trip checksum r1 (writeData kAddressVCPU command data) (by omega) (by omega)
    have same := received.unique flagged
    have flags : getSendCodebit kAddressVCPU = getSendCodebit kAddressVCPU ||| 0x02 := by
      simpa [writeData, pack] using same
    exact absurd flags (by decide)

/-- Exactly the commands of at most 1024 data bytes are delivered. -/
theorem delivers_iff_short (r1 r2 : Nat) (command : CpuCommand) (data : List UInt8)
    (fits : (data.length + 1023) / 1024 ≤ 65535) :
    Delivers checksum r1 r2 command data ↔ data.length ≤ 1024 := by
  have length : (writeData kAddressVCPU command data).length = data.length + 3 := rfl
  constructor
  · intro delivered
    by_contra long
    exact long_not_delivered r1 r2 command data (by omega) fits delivered
  · intro short
    have received := @single_frame_received checksum r1 (writeData kAddressVCPU command data) [] (by omega) (by omega)
    rw [List.append_nil] at received
    exact (delivers_iff r1 r2 command data (by omega)).mpr received

theorem delivers_three :
    Delivers List.sum 0 0 (1, 2) [3, 4, 5] ↔ ([3, 4, 5] : List UInt8).length ≤ 1024 :=
  delivers_iff_short 0 0 (1, 2) [3, 4, 5] (by decide)

/-- A command with 1025 zero bytes of data is lost. -/
theorem command_lost :
    ¬ ∀ (command : CpuCommand) (data : List UInt8), (data.length + 1023) / 1024 ≤ 65535 →
      Delivers List.sum 0 0 command data := by
  intro claimed
  have length : (List.replicate 1025 (0 : UInt8)).length = 1025 := List.length_replicate
  exact long_not_delivered 0 0 (1, 2) (List.replicate 1025 0) (by omega) (by omega)
    (claimed (1, 2) (List.replicate 1025 0) (by omega))

end CpuCom.Uart.Cpu
