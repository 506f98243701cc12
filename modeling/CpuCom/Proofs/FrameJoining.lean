import CpuCom.Proofs.FrameLayout

/-! How `Protocol::receive` joins the stored frames of a divided message. The last
frame keeps its trailer in the loop, because the end of `receive` strips it. -/

namespace CpuCom.Uart.Protocol

variable (checksum : List UInt8 → UInt8)

theorem stripFrame_sealed (start length stop trailer : UInt8) (data : List UInt8) :
    stripFrame (start :: length :: data ++ [stop, trailer]) = data := by
  simp [stripFrame, kStxLength, kLenLength, kCsLength, kEtxLength]

theorem joinFrames_result (context : RecvContext) (result : Bool) (count : Nat) :
    joinFrames { context with result } count = joinFrames context count := by
  induction count with
  | zero => rfl
  | succ count ih => simp only [joinFrames, ih, RecvContext.frames]

/-- The loop over the frames throws exactly where a frame is missing. -/
theorem joinFrames_isSome (context : RecvContext) (count : Nat) :
    (joinFrames context count).isSome ↔ count ≤ context.frames.length := by
  induction count with
  | zero => simp [joinFrames]
  | succ count ih =>
    simp only [joinFrames]
    cases joined : joinFrames context count with
    | none =>
      have missing : ¬ count ≤ context.frames.length := by
        intro enough
        simpa [joined] using ih.mpr enough
      simp only [Option.isSome_none, Bool.false_eq_true, false_iff]
      omega
    | some data =>
      by_cases inside : count < context.frames.length
      · simpa [List.getElem?_eq_getElem inside] using Nat.succ_le_of_lt inside
      · simpa [List.getElem?_eq_none (Nat.le_of_not_lt inside)] using Nat.lt_succ_of_le (Nat.le_of_not_lt inside)

private theorem receive_joined {context : RecvContext} {data : List UInt8} (accepted : context.result = true)
    (divided : context.transmitionType = .extendedLengthWithFrameDivision)
    (joined : joinFrames context context.totalFrames = some data) : receive context = .message (stripFrame data) := by
  rw [receive, if_pos accepted, divided]
  simp only [joined]

theorem receive_divided {context : RecvContext} {data : List UInt8}
    (divided : context.transmitionType = .extendedLengthWithFrameDivision)
    (joined : joinFrames context context.totalFrames = some data) :
    receive { context with result := true } = .message (stripFrame data) := by
  rw [← joinFrames_result context true] at joined
  exact @receive_joined { context with result := true } data rfl divided joined

/-- A divided message that is returned has as many stored frames as its total. -/
theorem total_le_of_received {context : RecvContext} {data : List UInt8}
    (divided : context.transmitionType = .extendedLengthWithFrameDivision)
    (received : receive context = .message data) :
    context.totalFrames ≤ context.frames.length ∧
      ∃ joined, joinFrames context context.totalFrames = some joined ∧ data = stripFrame joined := by
  rw [receive] at received
  split at received
  · rw [divided] at received
    cases joined : joinFrames context context.totalFrames with
    | none => simp [joined] at received
    | some bytes =>
      simp only [joined, Received.message.injEq] at received
      exact ⟨(joinFrames_isSome _ _).mp (by simp [joined]), bytes, rfl, received.symm⟩
  · cases received

theorem sole_piece_shorter {context : RecvContext} {data : List UInt8}
    (divided : context.transmitionType = .extendedLengthWithFrameDivision)
    (sole : context.completedFrames = []) (finished : context.frameNumber = sub32 context.totalFrames 1)
    (numbered : context.frameNumber < 65536) (whole : 13 ≤ context.currentFrame.length)
    (received : receive { context with result := true } = .message data) :
    data.length + 13 ≤ context.currentFrame.length := by
  obtain ⟨enough, joined, found, rfl⟩ := @total_le_of_received { context with result := true } data divided received
  simp only [RecvContext.frames, sole, List.nil_append, List.length_singleton] at enough
  have one : context.totalFrames = 1 := by
    unfold sub32 at finished
    omega
  have first : joined = joinFrame 1 0 [] context.currentFrame := by
    simpa [one, joinFrames, RecvContext.frames, sole, eq_comm] using found
  have shorter : joined.length = context.currentFrame.length - 9 := by
    rw [first, joinFrame, if_pos rfl]
    simp only [kStxLength, kLenLength, kCmdLength, kExtLenLength, kFrameNumberLength, kTotalFramesLength,
      kCsLength, kEtxLength, List.length_take, List.length_append, List.length_drop]
    omega
  simp only [stripFrame, kStxLength, kLenLength, kCsLength, kEtxLength, List.length_take, List.length_drop]
  omega

section
variable (command subCommand codebit : UInt8) (length number count total : Nat) (payload data : List UInt8)

private theorem first_joined :
    joinFrame total 0 data (dividedFrame checksum command subCommand codebit length number count payload) =
      ControlCode.stx :: ControlCode.extLen :: command :: subCommand :: codebit :: payload := by
  simp [joinFrame, dividedFrame, sealFrame, kStxLength, kLenLength, kCmdLength, kExtLenLength, kFrameNumberLength,
    kTotalFramesLength, kCsLength, kEtxLength]

private theorem middle_joined {i : Nat} (later : i ≠ 0) (unfinished : i ≠ sub32 total 1) :
    joinFrame total i data (dividedFrame checksum command subCommand codebit length number count payload) =
      data ++ payload := by
  simp [joinFrame, later, unfinished, dividedFrame, sealFrame, kStxLength, kLenLength, kCmdLength, kExtLenLength,
    kFrameNumberLength, kTotalFramesLength, kCsLength, kEtxLength]

private theorem last_joined {i : Nat} (later : i ≠ 0) (finished : i = sub32 total 1) :
    ∃ trailer, joinFrame total i data
      (dividedFrame checksum command subCommand codebit length number count payload) =
        data ++ payload ++ [ControlCode.etx, trailer] := by
  obtain ⟨trailer, shape⟩ : ∃ trailer,
      dividedFrame checksum command subCommand codebit length number count payload =
        [ControlCode.stx, ControlCode.extLen, command, subCommand, codebit, byteAt length 16, byteAt length 8,
          byteAt length 0, byteAt number 8, byteAt number 0, byteAt count 8, byteAt count 0] ++
          (payload ++ [ControlCode.etx, trailer]) := by
    refine ⟨checksum (ControlCode.extLen :: command :: subCommand :: codebit :: byteAt length 16 :: byteAt length 8 ::
      byteAt length 0 :: byteAt number 8 :: byteAt number 0 :: byteAt count 8 :: byteAt count 0 :: payload ++
      [ControlCode.etx]), ?_⟩
    simp [dividedFrame, sealFrame]
  have whole : (payload ++ [ControlCode.etx, trailer]).take (payload.length + 2) = payload ++
    [ControlCode.etx, trailer] :=
    List.take_of_length_le (by simp)
  refine ⟨trailer, ?_⟩
  simp [joinFrame, later, ← finished, shape, whole, kStxLength, kLenLength, kCmdLength, kExtLenLength,
    kFrameNumberLength,
    kTotalFramesLength]

end

section
variable {command subCommand codebit : UInt8} {payload : List UInt8} {parts : List (UInt8 × List UInt8)}
variable {context : RecvContext}

/-- Before the last frame the loop holds the header of the first frame and the
payloads so far. -/
private theorem joined_before_last (total : context.totalFrames = parts.length + 1)
    (small : parts.length + 1 < 2 ^ 32)
    (stored : context.frames =
      numberedFrames checksum command subCommand (parts.length + 1) 0 ((codebit, payload) :: parts)) (k : Nat)
    (unfinished : k < parts.length) :
    joinFrames context (k + 1) = some (ControlCode.stx :: ControlCode.extLen :: command :: subCommand :: codebit ::
      (payload ++ (parts.take k).flatMap Prod.snd)) := by
  induction k with
  | zero => simp [joinFrames, stored, numberedFrames, first_joined]
  | succ k ih =>
    have inside : k < parts.length := by omega
    have member : parts[k]? = some parts[k] := List.getElem?_eq_getElem inside
    have found : context.frames[k + 1]? = some (dividedFrame checksum command subCommand parts[k].1
        (parts[k].2.length + 12) (k + 1) (parts.length + 1) parts[k].2) := by
      rw [stored, getElem?_numberedFrames, List.getElem?_cons_succ, member]
      simp
    have notLast : k + 1 ≠ sub32 context.totalFrames 1 := by
      rw [total, sub32_of_le (by omega) small]
      omega
    rw [joinFrames, ih (by omega), found]
    simp only [middle_joined _ _ _ _ _ _ _ _ _ _ (Nat.succ_ne_zero k) notLast]
    rw [List.take_succ_eq_append_getElem inside]
    simp only [List.flatMap_append, List.flatMap_singleton, List.cons_append, List.append_assoc]

/-- A complete divided message is returned as the header of its first frame and
the payloads of all frames. -/
theorem receive_numbered {count : Nat} (counted : parts.length + 1 = count)
    (divided : context.transmitionType = .extendedLengthWithFrameDivision)
    (total : context.totalFrames = count) (several : parts ≠ []) (small : count < 2 ^ 32)
    (stored : context.frames =
      numberedFrames checksum command subCommand count 0 ((codebit, payload) :: parts)) :
    receive { context with result := true } =
      .message (command :: subCommand :: codebit :: (payload ++ parts.flatMap Prod.snd)) := by
  subst counted
  obtain ⟨before, last, rfl⟩ := List.eq_nil_or_concat' parts |>.resolve_left several
  have length : (before ++ [last]).length = before.length + 1 := by simp
  have joined := joined_before_last checksum total small stored before.length (by omega)
  have found : context.frames[before.length + 1]? = some (dividedFrame checksum command subCommand last.1
      (last.2.length + 12) (before.length + 1) ((before ++ [last]).length + 1) last.2) := by
    rw [stored, getElem?_numberedFrames, List.getElem?_cons_succ]
    simp
  have finished : before.length + 1 = sub32 context.totalFrames 1 := by
    rw [total, sub32_of_le (by omega) small]
    omega
  obtain ⟨trailer, closed⟩ := last_joined checksum command subCommand last.1 (last.2.length + 12)
    (before.length + 1) ((before ++ [last]).length + 1) context.totalFrames last.2
    (ControlCode.stx :: ControlCode.extLen :: command :: subCommand :: codebit ::
      (payload ++ ((before ++ [last]).take before.length).flatMap Prod.snd)) (Nat.succ_ne_zero before.length) finished
  have all : joinFrames context context.totalFrames = some (ControlCode.stx :: ControlCode.extLen :: command ::
      subCommand :: codebit :: (payload ++ before.flatMap Prod.snd) ++ last.2 ++ [ControlCode.etx, trailer]) := by
    rw [total, length, joinFrames, joined, found]
    simp only [closed]
    simp
  rw [receive_divided divided all]
  simpa using stripFrame_sealed ControlCode.stx ControlCode.extLen ControlCode.etx trailer
    (command :: subCommand :: codebit :: (payload ++ before.flatMap Prod.snd) ++ last.2)

end

end CpuCom.Uart.Protocol
