import CpuCom.Uart.Frames
import CpuCom.Uart.RecvMachine
import Mathlib.Data.Nat.Bitwise

/-! What the encoder puts into a frame: the number fields decode to the numbers
they were made from, and a divided message is cut into consecutive chunks. -/

namespace CpuCom.Uart

theorem byteAt_toNat (value shift : Nat) : (byteAt value shift).toNat = value / 2 ^ shift % 256 := by
  have mask := Nat.and_two_pow_sub_one_eq_mod (value / 2 ^ shift) 8
  simp only [Nat.reducePow, Nat.reduceSub] at mask
  rw [byteAt, UInt8.toNat_ofNat', Nat.shiftRight_eq_div_pow, mask]
  omega

theorem shifted_byte (byte : UInt8) (shift : Nat) :
    (byte.toNat <<< shift) &&& (0xff <<< shift) = byte.toNat * 2 ^ shift := by
  have mask := Nat.and_two_pow_sub_one_eq_mod byte.toNat 8
  simp only [Nat.reducePow, Nat.reduceSub] at mask
  rw [← Nat.shiftLeft_and_distrib, mask, Nat.mod_eq_of_lt byte.toNat_lt, Nat.shiftLeft_eq]

theorem decode16_eq (bytes : List UInt8) :
    decode16 bytes = (bytes.getD 0 0).toNat * 256 + (bytes.getD 1 0).toNat := by
  have high := shifted_byte (bytes.getD 0 0) 8
  have low := shifted_byte (bytes.getD 1 0) 0
  simp only [Nat.reduceShiftLeft, Nat.reducePow, Nat.shiftLeft_zero, Nat.mul_one] at high low
  rw [decode16, high, low]

theorem decode24_eq (bytes : List UInt8) :
    decode24 bytes =
      (bytes.getD 0 0).toNat * 65536 + (bytes.getD 1 0).toNat * 256 + (bytes.getD 2 0).toNat := by
  have high := shifted_byte (bytes.getD 0 0) 16
  have middle := shifted_byte (bytes.getD 1 0) 8
  have low := shifted_byte (bytes.getD 2 0) 0
  simp only [Nat.reduceShiftLeft, Nat.reducePow, Nat.shiftLeft_zero, Nat.mul_one] at high middle low
  rw [decode24, high, middle, low]

theorem decode16_lt (bytes : List UInt8) : decode16 bytes < 65536 := by
  have high := (bytes.getD 0 0).toNat_lt
  have low := (bytes.getD 1 0).toNat_lt
  rw [decode16_eq]
  omega

theorem decode24_lt (bytes : List UInt8) : decode24 bytes < 2 ^ 24 := by
  have high := (bytes.getD 0 0).toNat_lt
  have middle := (bytes.getD 1 0).toNat_lt
  have low := (bytes.getD 2 0).toNat_lt
  rw [decode24_eq]
  omega

theorem decode16_byteAt (value : Nat) : decode16 [byteAt value 8, byteAt value 0] = value % 65536 := by
  rw [decode16_eq]
  simp only [List.getD_cons_zero, List.getD_cons_succ, byteAt_toNat]
  omega

theorem decode24_byteAt (value : Nat) :
    decode24 [byteAt value 16, byteAt value 8, byteAt value 0] = value % 2 ^ 24 := by
  rw [decode24_eq]
  simp only [List.getD_cons_zero, List.getD_cons_succ, byteAt_toNat]
  omega

theorem exists_command {data : List UInt8} (atLeast : 3 ≤ data.length) :
    ∃ command subCommand codebit payload, data = command :: subCommand :: codebit :: payload := by
  match data, atLeast with
  | command :: subCommand :: codebit :: payload, _ => exact ⟨command, subCommand, codebit, payload, rfl⟩

theorem countFrames_spec (length : Nat) :
    countFrames length = (length + 1023) / 1024 := by
  unfold countFrames kMaxActualDataLength
  split <;> omega

theorem dividedHeader_eq :
    kCmdLength + kExtLenLength + kFrameNumberLength + kTotalFramesLength + kFrameFooterLength = 12 := rfl

/-- The pieces of a divided message, each with the code bit of its frame: only the
last one carries the flag of the last frame. -/
def pieces (codebit : UInt8) : List (List UInt8) → List (UInt8 × List UInt8)
  | [] => []
  | [chunk] => [(codebit ||| 0x03, chunk)]
  | chunk :: next :: chunks => (codebit ||| 0x02, chunk) :: pieces codebit (next :: chunks)

@[simp] theorem pieces_chunks (codebit : UInt8) (chunks : List (List UInt8)) :
    (pieces codebit chunks).map Prod.snd = chunks := by
  fun_induction pieces codebit chunks with
  | case1 => rfl
  | case2 => rfl
  | case3 chunk next chunks ih => simp [ih]

@[simp] theorem length_pieces (codebit : UInt8) (chunks : List (List UInt8)) :
    (pieces codebit chunks).length = chunks.length := by
  rw [← List.length_map Prod.snd, pieces_chunks]

/-- Data cut into pieces of 1024 bytes and a shorter last one. -/
def chunksOf : Nat → List UInt8 → List (List UInt8)
  | 0, _ => []
  | count + 1, data => data.take 1024 :: chunksOf count (data.drop 1024)

@[simp] theorem length_chunksOf (count : Nat) (data : List UInt8) : (chunksOf count data).length = count := by
  induction count generalizing data with
  | zero => rfl
  | succ count ih => simp [chunksOf, ih]

/-- The chunks hold all data in order when there are enough of them. -/
theorem flatten_chunksOf (count : Nat) (data : List UInt8) (enough : data.length ≤ 1024 * count) :
    (chunksOf count data).flatten = data := by
  induction count generalizing data with
  | zero => simpa [chunksOf] using List.eq_nil_of_length_eq_zero (by omega)
  | succ count ih =>
    have rest : (data.drop 1024).length ≤ 1024 * count := by rw [List.length_drop]; omega
    simp [chunksOf, ih _ rest]

theorem chunk_le (count : Nat) (data chunk : List UInt8) (member : chunk ∈ chunksOf count data) :
    chunk.length ≤ 1024 := by
  induction count generalizing data with
  | zero => cases member
  | succ count ih =>
    rcases List.mem_cons.mp member with rfl | member
    · rw [List.length_take]
      omega
    · exact ih _ member

section
variable (checksum : List UInt8 → UInt8)

/-- Frames that carry their number and the total, as a peer sends a divided message. -/
def numberedFrames (command subCommand : UInt8) (framesCount : Nat) : Nat → List (UInt8 × List UInt8) → List Frame
  | _, [] => []
  | i, (codebit, payload) :: rest =>
      dividedFrame checksum command subCommand codebit (payload.length + 12) i framesCount payload ::
        numberedFrames command subCommand framesCount (i + 1) rest

@[simp] theorem length_numberedFrames (command subCommand : UInt8) (framesCount i : Nat)
    (parts : List (UInt8 × List UInt8)) :
    (numberedFrames checksum command subCommand framesCount i parts).length = parts.length := by
  induction parts generalizing i with
  | nil => rfl
  | cons part parts ih => simp [numberedFrames, ih]

theorem getElem?_numberedFrames (command subCommand : UInt8) (framesCount i k : Nat)
    (parts : List (UInt8 × List UInt8)) :
    (numberedFrames checksum command subCommand framesCount i parts)[k]? =
      parts[k]?.map fun part =>
        dividedFrame checksum command subCommand part.1 (part.2.length + 12) (i + k) framesCount part.2 := by
  induction parts generalizing i k with
  | nil => simp [numberedFrames]
  | cons part parts ih =>
    cases k with
    | zero => rfl
    | succ k => simp [numberedFrames, ih, Nat.add_assoc, Nat.add_comm 1 k]

private theorem codebit_absorbs (codebit flags : UInt8) (kept : (0x02 : UInt8) ||| flags = flags) :
    codebit ||| 0x02 ||| flags = codebit ||| flags := by
  rw [UInt8.or_assoc, kept]

/-- Past the first frame the loop works on exactly the data still outstanding. -/
private theorem divideFrames_tail (command subCommand codebit : UInt8) (framesCount remaining i : Nat)
    (data : List UInt8) (positive : 0 < i) (total : i + remaining = framesCount)
    (small : data.length < 2 ^ 32) :
    divideFrames checksum command subCommand framesCount remaining i (codebit ||| 0x02) data.length data =
      numberedFrames checksum command subCommand framesCount i (pieces codebit (chunksOf remaining data)) := by
  induction remaining generalizing i data with
  | zero => rfl
  | succ remaining ih =>
    have nonzero : i ≠ 0 := by omega
    have outstanding : data.length - min data.length 1024 = (data.drop 1024).length := by
      rw [List.length_drop]; omega
    have chunk : data.take (min 1024 data.length) = data.take 1024 := by
      rw [List.take_eq_take_iff]; omega
    have remainder : data.drop (min 1024 data.length) = data.drop 1024 := by
      rw [List.drop_eq_drop_iff]; omega
    have length : (data.take 1024).length = min data.length 1024 := by rw [List.length_take]; omega
    have rest := ih (i + 1) (data.drop 1024) (by omega) (by omega) (by rw [List.length_drop]; omega)
    simp only [divideFrames, kMaxActualDataLength, uint32_of_lt small, nonzero, if_false, List.drop_zero,
      Nat.add_zero, outstanding, chunk, remainder, dividedHeader_eq]
    cases remaining with
    | zero =>
      rw [if_pos (by omega : i = framesCount - 1), codebit_absorbs _ _ rfl]
      simp [divideFrames, numberedFrames, pieces, chunksOf, Nat.min_comm]
    | succ remaining =>
      rw [if_neg (by omega : ¬ i = framesCount - 1), codebit_absorbs _ _ rfl, rest]
      simp [numberedFrames, pieces, chunksOf, Nat.min_comm]

@[simp] theorem length_divideFrames (command subCommand codebit : UInt8) (framesCount remaining i length : Nat)
    (data : List UInt8) :
    (divideFrames checksum command subCommand framesCount remaining i codebit length data).length = remaining := by
  induction remaining generalizing i codebit length data with
  | zero => rfl
  | succ remaining ih => simp [divideFrames, ih]

theorem prepareFrames_regular {data : List UInt8} (short : data.length ≤ 251) :
    prepareFrames checksum data = [regularFrame checksum data] := if_pos short

theorem prepareFrames_extended {data : List UInt8} (long : 251 < data.length) (short : data.length ≤ 1030) :
    prepareFrames checksum data = [extendedLengthFrame checksum data] :=
  (if_neg (Nat.not_le_of_lt long)).trans (if_pos short)

theorem length_prepareFrames_lt (data : List UInt8) : (prepareFrames checksum data).length < 2 ^ 64 := by
  unfold prepareFrames
  split
  · rw [List.length_singleton]
    omega
  · split
    · rw [List.length_singleton]
      omega
    · simp only [length_divideFrames, countFrames_spec, uint32]
      omega

/-- A divided message is its data behind the three command bytes, cut into chunks. -/
theorem prepareFrames_divided (data : List UInt8) (long : 1031 ≤ data.length) (small : data.length < 2 ^ 32) :
    prepareFrames checksum data =
      numberedFrames checksum (data.getD 0 0) (data.getD 1 0) ((data.length - 3 + 1023) / 1024) 0
        (pieces (data.getD 2 0) (chunksOf ((data.length - 3 + 1023) / 1024) (data.drop 3))) := by
  have notRegular : ¬ data.length ≤ kMaxFrameLength - kFrameFooterLength := by
    simp only [kMaxFrameLength, kFrameFooterLength, kEtxLength, kCsLength]; omega
  have notExtended : ¬ data.length ≤ kMaxExtendedLengthFrameLength - kFrameFooterLength := by
    simp only [kMaxExtendedLengthFrameLength, kFrameFooterLength, kEtxLength, kCsLength]; omega
  have length : uint32 (data.length - kCmdLength) = data.length - 3 := uint32_of_lt (by unfold kCmdLength; omega)
  obtain ⟨remaining, count⟩ : ∃ remaining, (data.length - 3 + 1023) / 1024 = remaining + 2 :=
    ⟨(data.length - 3 + 1023) / 1024 - 2, by omega⟩
  have notLast : ¬ 0 = remaining + 2 - 1 := by omega
  have whole : min 1024 data.length = 1024 := by omega
  have first : min (data.length - 3) 1024 = 1024 := by omega
  have outstanding : data.length - 3 - 1024 = (data.drop (1024 + 3)).length := by
    rw [List.length_drop]; omega
  have chunk : ((data.drop 3).take 1024).length = 1024 := by
    rw [List.length_take, List.length_drop]; omega
  have rest := divideFrames_tail checksum (data.getD 0 0) (data.getD 1 0) (data.getD 2 0) (remaining + 2)
    (remaining + 1) 1 (data.drop (1024 + 3)) (by omega) (by omega) (by rw [List.length_drop]; omega)
  rw [prepareFrames, if_neg notRegular, if_neg notExtended]
  simp only [length, countFrames_spec, count]
  rw [divideFrames, chunksOf, chunksOf, pieces, numberedFrames, ← chunksOf]
  simp only [kMaxActualDataLength, uint32_of_lt small, notLast, if_true, if_false, whole, first, outstanding,
    chunk, List.drop_drop, Nat.zero_add, Nat.add_comm 3 1024, dividedHeader_eq]
  rw [show kCmdLength = 3 from rfl, rest]

end
end CpuCom.Uart
