import CpuCom.Proofs.FrameLayout

/-! The number fields in the header of a frame. All of them are wide enough for what
is written into them except the two that count frames, which have two bytes each. -/

namespace CpuCom.Uart

/-- The extended length of the frame `i` of a message before it is split into bytes:
in a divided message each round of the loop takes what is outstanding. -/
def extendedLength (data : List UInt8) (i : Nat) : Nat :=
  if data.length ≤ kMaxExtendedLengthFrameLength - kFrameFooterLength then
    uint32 (data.length + kExtLenLength + kFrameFooterLength)
  else
    min (uint32 (data.length - kCmdLength) - i * kMaxActualDataLength) kMaxActualDataLength +
      (kCmdLength + kExtLenLength + kFrameNumberLength + kTotalFramesLength + kFrameFooterLength)

section
variable (checksum : List UInt8 → UInt8)

/-- Every number field of every frame decodes to the number that was written into it. -/
structure HeadersKept (data : List UInt8) : Prop where
  len : data.length ≤ 251 → ∀ frame ∈ prepareFrames checksum data, (frame.getD 1 0).toNat = data.length + 2
  length : 251 < data.length → ∀ i frame, (prepareFrames checksum data)[i]? = some frame →
    decode24 (frame.drop 5) = extendedLength data i
  number : 1030 < data.length → ∀ i frame, (prepareFrames checksum data)[i]? = some frame →
    decode16 (frame.drop 8) = i
  total : 1030 < data.length → ∀ frame ∈ prepareFrames checksum data,
    decode16 (frame.drop 10) = (prepareFrames checksum data).length

/-- The extended length counts the bytes from the command to the checksum: all but
the `STX` and the mark of an extended length. -/
def LengthsExact (data : List UInt8) : Prop :=
  251 < data.length → ∀ i frame, (prepareFrames checksum data)[i]? = some frame →
    frame.length = extendedLength data i + 2

theorem decode16_cons (high low : UInt8) (rest : List UInt8) :
    decode16 (high :: low :: rest) = decode16 [high, low] := by
  simp [decode16_eq]

theorem decode24_cons (high middle low : UInt8) (rest : List UInt8) :
    decode24 (high :: middle :: low :: rest) = decode24 [high, middle, low] := by
  simp [decode24_eq]

section
variable (command subCommand codebit : UInt8) (length frameNumber framesCount : Nat) (payload : List UInt8)

theorem dividedFrame_length :
    decode24 ((dividedFrame checksum command subCommand codebit length frameNumber framesCount payload).drop 5) =
      length % 2 ^ 24 :=
  (decode24_cons ..).trans (decode24_byteAt length)

theorem dividedFrame_number :
    decode16 ((dividedFrame checksum command subCommand codebit length frameNumber framesCount payload).drop 8) =
      frameNumber % 65536 :=
  (decode16_cons ..).trans (decode16_byteAt frameNumber)

theorem dividedFrame_total :
    decode16 ((dividedFrame checksum command subCommand codebit length frameNumber framesCount payload).drop 10) =
      framesCount % 65536 :=
  (decode16_cons ..).trans (decode16_byteAt framesCount)

end

/-- The round `k` of the loop writes its index, the total, and the length of what is
still outstanding then. -/
theorem getElem?_divideFrames (command subCommand : UInt8) (framesCount remaining i k : Nat) (codebit : UInt8)
    (actualDataLength : Nat) (data : List UInt8) (inside : k < remaining) :
    ∃ codebit' payload,
      (divideFrames checksum command subCommand framesCount remaining i codebit actualDataLength data)[k]? =
        some (dividedFrame checksum command subCommand codebit'
          (min (actualDataLength - k * kMaxActualDataLength) kMaxActualDataLength +
            (kCmdLength + kExtLenLength + kFrameNumberLength + kTotalFramesLength + kFrameFooterLength))
          (i + k) framesCount payload) := by
  induction remaining generalizing i k codebit actualDataLength data with
  | zero => exact absurd inside (Nat.not_lt_zero k)
  | succ remaining ih =>
    cases k with
    | zero =>
      rw [divideFrames, Nat.zero_mul]
      exact ⟨_, _, rfl⟩
    | succ k =>
      obtain ⟨codebit', payload, found⟩ :=
        ih (i + 1) k (if i = framesCount - 1 then codebit ||| 0x03 else codebit ||| 0x02)
        (actualDataLength - min actualDataLength kMaxActualDataLength)
        (data.drop (min kMaxActualDataLength (uint32 data.length) + if i = 0 then kCmdLength else 0))
        (Nat.lt_of_succ_lt_succ inside)
      have outstanding : min (actualDataLength - min actualDataLength kMaxActualDataLength - k * kMaxActualDataLength)
          kMaxActualDataLength = min (actualDataLength - (k + 1) * kMaxActualDataLength) kMaxActualDataLength := by
        unfold kMaxActualDataLength
        omega
      rw [outstanding, Nat.add_assoc i, Nat.add_comm 1] at found
      exact ⟨codebit', payload, found⟩

theorem prepareFrames_long {data : List UInt8} (long : 1030 < data.length) :
    prepareFrames checksum data =
      divideFrames checksum (data.getD 0 0) (data.getD 1 0) (countFrames (uint32 (data.length - kCmdLength)))
        (countFrames (uint32 (data.length - kCmdLength))) 0 (data.getD 2 0) (uint32 (data.length - kCmdLength)) data :=
  (if_neg (Nat.not_le_of_lt (by omega : 251 < data.length))).trans (if_neg (Nat.not_le_of_lt long))

theorem length_prepareFrames_long {data : List UInt8} (long : 1030 < data.length) :
    (prepareFrames checksum data).length = countFrames (uint32 (data.length - kCmdLength)) := by
  rw [prepareFrames_long checksum long, length_divideFrames]

theorem getElem?_prepareFrames_long {data : List UInt8} {i : Nat} {frame : Frame} (long : 1030 < data.length)
    (found : (prepareFrames checksum data)[i]? = some frame) :
    ∃ command subCommand codebit payload, frame = dividedFrame checksum command subCommand codebit
      (extendedLength data i) i (prepareFrames checksum data).length payload := by
  have inside : i < countFrames (uint32 (data.length - kCmdLength)) := by
    obtain ⟨inside, -⟩ := List.getElem?_eq_some_iff.mp found
    exact inside.trans_eq (length_prepareFrames_long checksum long)
  obtain ⟨codebit, payload, made⟩ := getElem?_divideFrames checksum (data.getD 0 0) (data.getD 1 0)
    (countFrames (uint32 (data.length - kCmdLength))) (countFrames (uint32 (data.length - kCmdLength))) 0 i
    (data.getD 2 0) (uint32 (data.length - kCmdLength)) data inside
  rw [← prepareFrames_long checksum long, Nat.zero_add] at made
  have computed : extendedLength data i = _ := if_neg (Nat.not_le_of_lt long)
  refine ⟨data.getD 0 0, data.getD 1 0, codebit, payload, ?_⟩
  rw [computed, length_prepareFrames_long checksum long]
  exact Option.some.inj (found.symm.trans made)

theorem extendedLength_lt (data : List UInt8) (i : Nat) : extendedLength data i < 2 ^ 24 := by
  unfold extendedLength
  split
  · rename_i short
    simp only [kMaxExtendedLengthFrameLength, kFrameFooterLength, kEtxLength, kCsLength] at short
    simp only [uint32, kExtLenLength, kFrameFooterLength, kEtxLength, kCsLength]
    omega
  · rw [dividedHeader_eq]
    unfold kMaxActualDataLength
    omega

theorem length_kept {data : List UInt8} {i : Nat} {frame : Frame} (long : 251 < data.length)
    (found : (prepareFrames checksum data)[i]? = some frame) :
    decode24 (frame.drop 5) = extendedLength data i := by
  by_cases short : data.length ≤ 1030
  · rw [prepareFrames_extended checksum long short] at found
    obtain rfl := List.mem_singleton.mp (List.mem_of_getElem? found)
    have computed : extendedLength data i = _ := if_pos short
    rw [computed]
    refine (decode24_cons ..).trans ((decode24_byteAt _).trans (Nat.mod_eq_of_lt ?_))
    exact computed ▸ extendedLength_lt data i
  · obtain ⟨command, subCommand, codebit, payload, rfl⟩ :=
      getElem?_prepareFrames_long checksum (Nat.lt_of_not_le short) found
    rw [dividedFrame_length]
    exact Nat.mod_eq_of_lt (extendedLength_lt data i)

theorem len_kept {data : List UInt8} (short : data.length ≤ 251) {frame : Frame}
    (member : frame ∈ prepareFrames checksum data) : (frame.getD 1 0).toNat = data.length + 2 := by
  rw [prepareFrames_regular checksum short, List.mem_singleton] at member
  subst member
  have byte : (UInt8.ofNat (data.length + kFrameFooterLength)).toNat = data.length + 2 := by
    rw [UInt8.toNat_ofNat']
    exact Nat.mod_eq_of_lt (Nat.lt_of_le_of_lt (Nat.add_le_add_right short 2) (by decide))
  exact byte

/-- Below 4 GiB the loop puts as many bytes into a frame as it declares. -/
theorem lengths_exact {data : List UInt8} (small : data.length < 2 ^ 32) : LengthsExact checksum data := by
  intro long i frame found
  have declared := length_kept checksum long found
  by_cases short : data.length ≤ 1030
  · rw [prepareFrames_extended checksum long short] at found
    obtain rfl := List.mem_singleton.mp (List.mem_of_getElem? found)
    have computed : extendedLength data i = _ := if_pos short
    rw [computed]
    simp [extendedLengthFrame, sealFrame, uint32, kExtLenLength, kFrameFooterLength, kEtxLength, kCsLength]
    omega
  · rw [prepareFrames_divided checksum data (Nat.lt_of_not_le short) small, getElem?_numberedFrames] at found
    obtain ⟨part, there, rfl⟩ := Option.map_eq_some_iff.mp found
    have chunk : part.2.length ≤ 1024 := by
      have member : part.2 ∈ (pieces _ _).map Prod.snd := List.mem_map_of_mem (List.mem_of_getElem? there)
      rw [pieces_chunks] at member
      exact chunk_le _ _ _ member
    rw [dividedFrame_length, Nat.mod_eq_of_lt (by omega)] at declared
    rw [← declared]
    simp [dividedFrame, sealFrame]

/-- The numbers of frames have two bytes, so the headers of a message are kept if and
only if it is not divided into more than 65535 frames. -/
theorem headers_kept_iff (data : List UInt8) :
    (HeadersKept checksum data ↔
      data.length ≤ 1030 ∨ uint32 (data.length - kCmdLength) ≤ 65535 * kMaxActualDataLength) ∧
      (data.length < 2 ^ 32 → LengthsExact checksum data) := by
  refine ⟨?_, lengths_exact checksum⟩
  constructor
  · intro kept
    by_contra! many
    obtain ⟨long, many⟩ := many
    have count := length_prepareFrames_long checksum long
    rw [countFrames_spec] at count
    unfold kMaxActualDataLength at many
    obtain ⟨frame, member⟩ := List.exists_mem_of_length_pos (by omega : 0 < (prepareFrames checksum data).length)
    have total := kept.total long frame member
    have bound := decode16_lt (frame.drop 10)
    omega
  · intro few
    have count (long : 1030 < data.length) : (prepareFrames checksum data).length < 65536 := by
      rw [length_prepareFrames_long checksum long, countFrames_spec]
      unfold kMaxActualDataLength at few
      omega
    refine ⟨fun short _ => len_kept checksum short, fun long _ _ => length_kept checksum long,
      fun long i frame found => ?_, fun long frame member => ?_⟩
    · obtain ⟨inside, -⟩ := List.getElem?_eq_some_iff.mp found
      obtain ⟨command, subCommand, codebit, payload, rfl⟩ := getElem?_prepareFrames_long checksum long found
      rw [dividedFrame_number]
      exact Nat.mod_eq_of_lt (inside.trans (count long))
    · obtain ⟨i, found⟩ := List.getElem?_of_mem member
      obtain ⟨command, subCommand, codebit, payload, same⟩ := getElem?_prepareFrames_long checksum long found
      rw [same, dividedFrame_total]
      exact Nat.mod_eq_of_lt (count long)

/-- The total of a message of 65536 frames is 0. -/
theorem total_truncated : ¬ ∀ data : List UInt8, 2 < data.length → HeadersKept List.sum data := by
  intro kept
  have size : (List.replicate 67107844 (0 : UInt8)).length = 67107844 := List.length_replicate
  generalize List.replicate 67107844 (0 : UInt8) = data at size
  have long : 1030 < data.length := by omega
  have count := length_prepareFrames_long List.sum long
  rw [countFrames_spec, size] at count
  obtain ⟨frame, member⟩ := List.exists_mem_of_length_pos (count ▸ by decide : 0 < (prepareFrames List.sum data).length)
  have total := (kept data (by omega)).total long frame member
  have bound := decode16_lt (frame.drop 10)
  rw [total, count] at bound
  exact absurd bound (by decide)

end
end CpuCom.Uart
