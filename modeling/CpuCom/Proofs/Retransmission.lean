import CpuCom.Proofs.CleanSend
import CpuCom.Proofs.CutFrames
import CpuCom.Proofs.EndToEnd
import CpuCom.Uart.Peer

/-! Messages over a line that cuts frames off. The sender writes a frame again for each
denial, and the receive takes the message as long as its attempts last. -/

namespace CpuCom.Uart.Protocol
open Interaction FiniteStateMachine

def cutLine : List (Option Nat) → List Frame → List Symbol
  | [], frames => Link.framesSymbols frames
  | none :: plan, frame :: frames => Link.frameSymbols frame ++ cutLine plan frames
  | some lost :: plan, frame :: frames =>
      Link.frameSymbols (Link.cut lost frame) ++ .silence :: cutLine plan (frame :: frames)
  | _ :: _, [] => []

/-- A frame that arrives whole, whether the plan says so or has come to its end. -/
theorem cutLine_whole {plan : List (Option Nat)} (whole : plan.head?.join = none) (frame : Frame)
    (frames : List Frame) :
    cutLine plan (frame :: frames) = Link.frameSymbols frame ++ cutLine plan.tail frames ∧
      Link.cuts (frames.length + 1) plan = Link.cuts frames.length plan.tail := by
  cases plan with
  | nil => exact ⟨by simp [cutLine, Link.framesSymbols], by simp [Link.cuts]⟩
  | cons first plan =>
    cases first with
    | none => exact ⟨rfl, rfl⟩
    | some lost => cases whole

section
variable {checksum : List UInt8 → UInt8} {context : RecvContext} {r1 : Nat} {line : List Symbol}

theorem enquiry_to_stx :
    (recvMachine checksum).ReachesOn Link.answer
      (.running .enquiry none ⟨context, r1⟩, .byte ControlCode.enq :: .silence :: line)
      (.running .stx none ⟨context, r1⟩, line) := by
  refine .step (stepOn_again rfl) ?_
  refine recv_step .ack _ rfl rfl (by decide) ?_
  exact recv_step .stx _ rfl rfl (by decide) .refl

/-- A rejected attempt that is not the last one: the receive waits for the next enquiry. -/
theorem retry_to_enquiry (left : r1 + 1 < kMaxNumberOfRecvAttempts) :
    (recvMachine checksum).ReachesOn Link.answer
      (.running .retry none ⟨context, r1⟩, .byte ControlCode.enq :: line)
      (.running .enquiry none ⟨{ context with currentFrame := [] }, r1 + 1⟩, .byte ControlCode.enq :: line) := by
  have retried : (recvHandler checksum .retry none ⟨context, r1⟩).runOn Link.answer (.byte ControlCode.enq :: line) =
      some ((⟨{ context with currentFrame := [] }, r1 + 1⟩, .event .pass), .byte ControlCode.enq :: line) := by
    simp [recvHandler, once, recvRetry, left]
  refine recv_step .repoll _ retried rfl (by decide) ?_
  refine recv_step .poll _ rfl rfl (by decide) ?_
  exact recv_step .enquiry _ rfl rfl (by decide) .refl

theorem retry_exhausted (spent : ¬ r1 + 1 < kMaxNumberOfRecvAttempts) :
    ∃ receiving, (recvMachine checksum).ReachesOn Link.answer (.running .retry none ⟨context, r1⟩, line)
      (.ended receiving, line) ∧ receive receiving.context = .nothing := by
  have retried : (recvHandler checksum .retry none ⟨context, r1⟩).runOn Link.answer line =
      some ((⟨{ context with currentFrame := [] }, r1 + 1⟩, .event .fail), line) := by
    simp [recvHandler, once, recvRetry, spent]
  refine ⟨⟨{ context with currentFrame := [], result := false }, r1 + 1⟩, ?_, rfl⟩
  refine recv_step .error _ retried rfl (by decide) ?_
  refine recv_step .end _ rfl rfl (by decide) ?_
  exact .step (@stepOn_final _ _ _ _ _ _ _ _ (recvMachine checksum) Link.answer none _ _ .pass _ _ rfl) .refl

end

/-- How a receive takes the frames of a message in turn. It awaits the next of them in
certain contexts, and denies it where it is cut off. -/
structure Receivable (checksum : List UInt8 → UInt8) (frames : List Frame) (message : List UInt8)
    (awaits : List Frame → RecvContext → Prop) : Prop where
  first : awaits [] .initial
  denies : ∀ {stored frame later context count}, frames = stored ++ frame :: later → awaits stored context →
    count < frame.length → ∃ form, Denies checksum form .stx context (frame.take count) ∧
      ∀ left, Leaves form context left → awaits stored { left with currentFrame := [] }
  piece : ∀ {stored frame next later context}, frames = stored ++ frame :: next :: later → awaits stored context →
    ∀ r1 line, ∃ after, awaits (stored ++ [frame]) after ∧ (recvMachine checksum).ReachesOn Link.answer
      (.running .enquiry none ⟨context, r1⟩, Link.frameSymbols frame ++ line) (.running .enquiry none ⟨after, r1⟩, line)
  last : ∀ {stored frame context}, frames = stored ++ [frame] → awaits stored context →
    ∀ r1 line, ∃ receiving, (recvMachine checksum).ReachesOn Link.answer
      (.running .enquiry none ⟨context, r1⟩, Link.frameSymbols frame ++ line) (.ended receiving, line) ∧
        receive receiving.context = .message message

/-- The end of a receive from this line: the message if there are attempts for all that
is denied, and nothing otherwise. -/
def EndsAs (checksum : List UInt8 → UInt8) (message : List UInt8) (denials : Nat) (rest : List Symbol)
    (start : RecvConfig × List Symbol) : Prop :=
  ∃ receiving left, (recvMachine checksum).ReachesOn Link.answer start (.ended receiving, left) ∧
    if denials < kMaxNumberOfRecvAttempts then receive receiving.context = .message message ∧ left = rest
    else receive receiving.context = .nothing

variable {checksum : List UInt8 → UInt8} {frames stored later : List Frame} {message : List UInt8}
  {awaits : List Frame → RecvContext → Prop} {context : RecvContext} {plan : List (Option Nat)} {frame : Frame}

theorem EndsAs.before {start middle : RecvConfig × List Symbol} {denials : Nat} {rest : List Symbol}
    (reached : (recvMachine checksum).ReachesOn Link.answer start middle)
    (ends : EndsAs checksum message denials rest middle) : EndsAs checksum message denials rest start := by
  obtain ⟨receiving, left, ended, received⟩ := ends
  exact ⟨receiving, left, reached.trans ended, received⟩

theorem cutLine_starts (plan : List (Option Nat)) (frame : Frame) (later : List Frame) (rest : List Symbol) :
    ∃ line, cutLine plan (frame :: later) ++ rest = .byte ControlCode.enq :: .silence :: line := by
  cases plan with
  | nil => exact ⟨_, rfl⟩
  | cons first plan =>
    cases first with
    | none => exact ⟨_, rfl⟩
    | some lost => exact ⟨_, rfl⟩

private theorem Receivable.ends_cut (receivable : Receivable checksum frames message awaits)
    (split : frames = stored ++ frame :: later) (awaiting : awaits stored context) (some : frame ≠ []) {lost r1 : Nat}
    {rest : List Symbol} (attempts : r1 < kMaxNumberOfRecvAttempts)
    (again : ∀ context, awaits stored context → r1 + 1 < kMaxNumberOfRecvAttempts →
      EndsAs checksum message (r1 + 1 + Link.cuts (later.length + 1) plan) rest
        (.running .enquiry none ⟨context, r1 + 1⟩, cutLine plan (frame :: later) ++ rest)) :
    EndsAs checksum message (r1 + (Link.cuts (later.length + 1) plan + 1)) rest
      (.running .enquiry none ⟨context, r1⟩, cutLine (.some lost :: plan) (frame :: later) ++ rest) := by
  have length := List.length_pos_of_ne_nil some
  obtain ⟨form, denies, kept⟩ := receivable.denies split awaiting (show frame.length - 1 - lost < frame.length by omega)
  obtain ⟨left, leaves, denied⟩ := denies r1 (cutLine plan (frame :: later) ++ rest)
  have reached : (recvMachine checksum).ReachesOn Link.answer
      (.running .enquiry none ⟨context, r1⟩, cutLine (.some lost :: plan) (frame :: later) ++ rest)
      (.running .retry none ⟨left, r1⟩, cutLine plan (frame :: later) ++ rest) := by
    have started := @enquiry_to_stx checksum context r1
      ((Link.cut lost frame).map .byte ++ .silence :: (cutLine plan (frame :: later) ++ rest))
    simpa [cutLine, Link.frameSymbols] using started.trans denied
  apply EndsAs.before reached
  by_cases more : r1 + 1 < kMaxNumberOfRecvAttempts
  · obtain ⟨line, shape⟩ := cutLine_starts plan frame later rest
    have next := again _ (kept left leaves) more
    rw [Nat.add_right_comm] at next
    rw [shape] at next ⊢
    exact next.before (retry_to_enquiry more)
  · obtain ⟨receiving, ended, nothing⟩ := @retry_exhausted checksum left r1 (cutLine plan (frame :: later) ++ rest) more
    refine ⟨receiving, _, ended, ?_⟩
    rw [if_neg (by omega)]
    exact nothing

@[simp] theorem cutLine_nil (plan : List (Option Nat)) : cutLine plan [] = [] := by
  cases plan with
  | nil => rfl
  | cons first plan => cases first <;> rfl

@[simp] theorem cuts_zero (plan : List (Option Nat)) : Link.cuts 0 plan = 0 := by
  cases plan <;> rfl

/-- A frame that arrives whole is the last one or is followed by the others. -/
private theorem Receivable.ends_whole (receivable : Receivable checksum frames message awaits)
    (split : frames = stored ++ frame :: later) (awaiting : awaits stored context) {r1 : Nat} {rest : List Symbol}
    (attempts : r1 < kMaxNumberOfRecvAttempts) (whole : plan.head?.join = none)
    (further : later ≠ [] → ∀ plan after, awaits (stored ++ [frame]) after →
      EndsAs checksum message (r1 + Link.cuts later.length plan) rest
        (.running .enquiry none ⟨after, r1⟩, cutLine plan later ++ rest)) :
    EndsAs checksum message (r1 + Link.cuts (later.length + 1) plan) rest
      (.running .enquiry none ⟨context, r1⟩, cutLine plan (frame :: later) ++ rest) := by
  obtain ⟨symbols, count⟩ := cutLine_whole whole frame later
  rw [symbols, count, List.append_assoc]
  cases later with
  | nil =>
    obtain ⟨receiving, ended, received⟩ := receivable.last split awaiting r1 rest
    refine ⟨receiving, rest, by simpa using ended, ?_⟩
    rw [List.length_nil, cuts_zero, Nat.add_zero, if_pos attempts]
    exact ⟨received, rfl⟩
  | cons next later =>
    obtain ⟨after, awaiting, reached⟩ := receivable.piece split awaiting r1 (cutLine plan.tail (next :: later) ++ rest)
    exact (further (List.cons_ne_nil _ _) plan.tail after awaiting).before reached

private theorem Receivable.ends_frame (receivable : Receivable checksum frames message awaits)
    (split : frames = stored ++ frame :: later) (some : frame ≠ []) {rest : List Symbol}
    (further : later ≠ [] → ∀ r1, r1 < kMaxNumberOfRecvAttempts → ∀ plan after, awaits (stored ++ [frame]) after →
      EndsAs checksum message (r1 + Link.cuts later.length plan) rest
        (.running .enquiry none ⟨after, r1⟩, cutLine plan later ++ rest))
    {r1 : Nat} (attempts : r1 < kMaxNumberOfRecvAttempts) (plan : List (Option Nat)) {context : RecvContext}
    (awaiting : awaits stored context) :
    EndsAs checksum message (r1 + Link.cuts (later.length + 1) plan) rest
      (.running .enquiry none ⟨context, r1⟩, cutLine plan (frame :: later) ++ rest) := by
  induction plan generalizing context r1 with
  | nil => exact receivable.ends_whole split awaiting attempts rfl fun remaining => further remaining r1 attempts
  | cons first plan ih =>
    cases first with
    | none => exact receivable.ends_whole split awaiting attempts rfl fun remaining => further remaining r1 attempts
    | some lost => exact receivable.ends_cut split awaiting some attempts fun _ awaiting left => ih left awaiting

theorem Receivable.ends (receivable : Receivable checksum frames message awaits) (some : ∀ frame ∈ frames, frame ≠ [])
    {r1 : Nat} (attempts : r1 < kMaxNumberOfRecvAttempts) (plan : List (Option Nat)) (rest : List Symbol)
    (split : frames = stored ++ frame :: later) (awaiting : awaits stored context) :
    EndsAs checksum message (r1 + Link.cuts (later.length + 1) plan) rest
      (.running .enquiry none ⟨context, r1⟩, cutLine plan (frame :: later) ++ rest) := by
  have present : frame ≠ [] := some frame (split ▸ List.mem_append_right _ (List.mem_cons_self ..))
  induction later generalizing stored frame context r1 plan with
  | nil => exact receivable.ends_frame split present (absurd rfl) attempts plan awaiting
  | cons next later ih =>
    refine receivable.ends_frame split present (fun _ r1 attempts plan after awaiting => ?_) attempts plan awaiting
    have split' : frames = (stored ++ [frame]) ++ next :: later := by rw [split, List.append_cons]
    exact ih attempts plan split' awaiting (some next (split' ▸ List.mem_append_right _ (List.mem_cons_self ..)))

theorem Receivable.receives (receivable : Receivable checksum frames message awaits) (some : ∀ frame ∈ frames, frame ≠ [])
    (present : frames ≠ []) (r1 : Nat) (plan : List (Option Nat)) (rest : List Symbol) :
    EndsAs checksum message (Link.cuts frames.length plan) rest (recvStart checksum r1, cutLine plan frames ++ rest) := by
  obtain ⟨frame, later, rfl⟩ := List.exists_cons_of_ne_nil present
  have attempts : 0 < kMaxNumberOfRecvAttempts := by decide
  have ends := receivable.ends some attempts plan rest (List.nil_append _).symm receivable.first
  obtain ⟨line, shape⟩ := cutLine_starts plan frame later rest
  rw [Nat.zero_add] at ends
  rw [shape] at ends ⊢
  exact ends.before (start_to_enquiry checksum r1 _ _)

private theorem sole_frame {sole : Frame} (split : [sole] = stored ++ frame :: later) :
    stored = [] ∧ frame = sole ∧ later = [] := by
  cases stored with
  | nil =>
    obtain ⟨rfl, rfl⟩ := List.cons.inj split
    exact ⟨rfl, rfl, rfl⟩
  | cons first stored => simp at split

section
variable (checksum) {data : List UInt8}

theorem regular_receivable (atLeast : 3 ≤ data.length) (atMost : data.length ≤ 251) :
    Receivable checksum [regularFrame checksum data] data fun _ context => context.currentFrame = [] where
  first := rfl
  denies := by
    intro stored frame later context count split awaiting cutOff
    obtain ⟨rfl, rfl, rfl⟩ := sole_frame split
    obtain ⟨command, subCommand, codebit, payload, rfl⟩ := exists_command atLeast
    simp only [List.length_cons] at atMost
    have length : (UInt8.ofNat (payload.length + 5)).toNat = payload.length + 5 :=
      UInt8.toNat_ofNat_of_lt' (show payload.length + 5 < 256 by omega)
    obtain ⟨code, shape⟩ : ∃ code, regularFrame checksum (command :: subCommand :: codebit :: payload) =
        ControlCode.stx :: UInt8.ofNat (payload.length + 5) :: command :: subCommand :: codebit ::
          (payload ++ [ControlCode.etx, code]) := by
      simp [regularFrame, sealFrame, kFrameFooterLength, kEtxLength, kCsLength, Nat.add_assoc]
    rw [shape] at cutOff ⊢
    exact ⟨.regular, regular_denies length (by omega) cutOff, fun _ _ => rfl⟩
  piece := by
    intro stored frame next later context split
    exact absurd (sole_frame split).2.2 (List.cons_ne_nil _ _)
  last := by
    intro stored frame context split awaiting r1 line
    obtain ⟨rfl, rfl, -⟩ := sole_frame split
    exact @regular_completes checksum context r1 line awaiting data atLeast atMost

/-- The contexts in which a frame with `EXT_LEN` is a message of its own. -/
structure Undivided (context : RecvContext) : Prop where
  empty : context.currentFrame = []
  notRegular : context.transmitionType ≠ .regular
  undivided : context.transmitionType ≠ .extendedLengthWithFrameDivision

theorem extended_receivable (atLeast : 3 ≤ data.length) (atMost : data.length ≤ 1027) :
    Receivable checksum [extendedLengthFrame checksum data] data fun _ => Undivided where
  first := ⟨rfl, TransmitionType.noConfusion, TransmitionType.noConfusion⟩
  denies := by
    intro stored frame later context count split awaiting cutOff
    obtain ⟨rfl, rfl, rfl⟩ := sole_frame split
    obtain ⟨command, subCommand, codebit, payload, rfl⟩ := exists_command atLeast
    simp only [List.length_cons] at atMost
    have declared : decode24 [byteAt (payload.length + 8) 16, byteAt (payload.length + 8) 8,
        byteAt (payload.length + 8) 0] = payload.length + 8 := by
      rw [decode24_byteAt]
      omega
    have length : uint32 (payload.length + 8) = payload.length + 8 := uint32_of_lt (by omega)
    obtain ⟨code, shape⟩ : ∃ code, extendedLengthFrame checksum (command :: subCommand :: codebit :: payload) =
        ControlCode.stx :: ControlCode.extLen :: command :: subCommand :: codebit :: byteAt (payload.length + 8) 16 ::
          byteAt (payload.length + 8) 8 :: byteAt (payload.length + 8) 0 :: (payload ++ [ControlCode.etx, code]) := by
      simp [extendedLengthFrame, sealFrame, kFrameFooterLength, kEtxLength, kCsLength, kExtLenLength, Nat.add_assoc,
        length]
    rw [shape] at cutOff ⊢
    refine ⟨.extendedLength, extended_denies awaiting.notRegular awaiting.undivided declared (by omega) cutOff, ?_⟩
    intro left leaves
    rcases leaves.type with same | extended
    · exact ⟨rfl, same ▸ awaiting.notRegular, same ▸ awaiting.undivided⟩
    · exact ⟨rfl, extended ▸ TransmitionType.noConfusion, extended ▸ TransmitionType.noConfusion⟩
  piece := by
    intro stored frame next later context split
    exact absurd (sole_frame split).2.2 (List.cons_ne_nil _ _)
  last := by
    intro stored frame context split awaiting r1 line
    obtain ⟨rfl, rfl, -⟩ := sole_frame split
    exact @extended_completes checksum context r1 line awaiting.empty data awaiting.notRegular awaiting.undivided atLeast
      atMost

/-- The contexts in which the next frame of a divided message is taken for a piece. The
first one is told by its length, the others by the form that it has set. -/
structure Dividing (stored : List Frame) (context : RecvContext) : Prop where
  empty : context.currentFrame = []
  completed : context.completedFrames = stored
  notRegular : context.transmitionType ≠ .regular
  divided : context.transmitionType = .extendedLengthWithFrameDivision ∨ stored = []

private theorem Divides.at {command subCommand codebit : UInt8} {first : List UInt8} {parts : List (UInt8 × List UInt8)}
    (divides : Divides checksum data command subCommand codebit first parts)
    (split : prepareFrames checksum data = stored ++ frame :: later) :
    ∃ part : UInt8 × List UInt8, frame = dividedFrame checksum command subCommand part.1 (part.2.length + 12) stored.length
        (parts.length + 1) part.2 ∧ part.2.length ≤ 1024 ∧ (stored = [] → part.2.length = 1024) ∧
      stored.length + later.length = parts.length := by
  have lengths := congrArg List.length split
  rw [divides.frames, length_numberedFrames, List.length_append, List.length_cons, List.length_cons] at lengths
  have found : (prepareFrames checksum data)[stored.length]? = some frame := by
    rw [split, List.getElem?_append_right (Nat.le_refl _), Nat.sub_self, List.getElem?_cons_zero]
  rw [divides.frames, getElem?_numberedFrames] at found
  obtain ⟨part, member, rfl⟩ := Option.map_eq_some_iff.mp found
  refine ⟨part, by rw [Nat.zero_add], divides.bounded part (List.mem_of_getElem? member), ?_, by omega⟩
  rintro rfl
  obtain rfl := Option.some.inj member
  exact divides.full

private theorem Divides.next {command subCommand codebit : UInt8} {first : List UInt8}
    {parts : List (UInt8 × List UInt8)} (divides : Divides checksum data command subCommand codebit first parts)
    (split : prepareFrames checksum data = stored ++ frame :: later) (dividing : Dividing stored context) (r1 : Nat)
    (line : List Symbol) :
    ∃ after, (recvMachine checksum).ReachesOn Link.answer
        (.running .enquiry none ⟨context, r1⟩, Link.frameSymbols frame ++ line) (.running .done none ⟨after, r1⟩, line) ∧
      after.completedFrames = stored ∧ after.currentFrame = frame ∧
      after.transmitionType = .extendedLengthWithFrameDivision ∧ after.frameNumber = stored.length ∧
      after.totalFrames = parts.length + 1 := by
  obtain ⟨part, shape, short, full, count⟩ := divides.at checksum split
  have few := divides.few
  have divided : context.transmitionType = .extendedLengthWithFrameDivision ∨ 1032 < part.2.length + 12 :=
    dividing.divided.imp_right fun none => by rw [full none]; decide
  have delivered := divided_delivered checksum context r1 line dividing.empty command subCommand part.1 stored.length
    (parts.length + 1) part.2 shape dividing.notRegular divided (by omega)
  refine ⟨_, delivered, dividing.completed, rfl, rfl, ?_, ?_⟩
  · change stored.length % 65536 = _
    omega
  · change (parts.length + 1) % 65536 = _
    omega

theorem divided_receivable (long : 1031 ≤ data.length) (fits : (data.length - 3 + 1023) / 1024 ≤ 65535) :
    Receivable checksum (prepareFrames checksum data) (flagged data) Dividing where
  first := ⟨rfl, rfl, TransmitionType.noConfusion, .inr rfl⟩
  denies := by
    intro stored frame later context count split dividing cutOff
    obtain ⟨command, subCommand, codebit, first, parts, divides⟩ := exists_divides checksum long fits
    obtain ⟨part, shape, short, full, -⟩ := divides.at checksum split
    have declared : decode24 [byteAt (part.2.length + 12) 16, byteAt (part.2.length + 12) 8,
        byteAt (part.2.length + 12) 0] = part.2.length + 12 := by
      rw [decode24_byteAt]
      omega
    have divided : context.transmitionType = .extendedLengthWithFrameDivision ∨ 1032 < part.2.length + 12 :=
      dividing.divided.imp_right fun none => by rw [full none]; decide
    obtain ⟨code, bytes⟩ : ∃ code, frame = ControlCode.stx :: ControlCode.extLen :: command :: subCommand :: part.1 ::
        byteAt (part.2.length + 12) 16 :: byteAt (part.2.length + 12) 8 :: byteAt (part.2.length + 12) 0 ::
        byteAt stored.length 8 :: byteAt stored.length 0 :: byteAt (parts.length + 1) 8 ::
        byteAt (parts.length + 1) 0 :: (part.2 ++ [ControlCode.etx, code]) := by
      rw [shape]
      simp [dividedFrame, sealFrame]
    rw [bytes] at cutOff ⊢
    refine ⟨.extendedLengthWithFrameDivision, divided_denies dividing.notRegular declared divided cutOff, ?_⟩
    intro left leaves
    have completed := leaves.completed.trans dividing.completed
    rcases leaves.type with same | divided
    · exact ⟨rfl, completed, same ▸ dividing.notRegular, same ▸ dividing.divided⟩
    · exact ⟨rfl, completed, divided ▸ TransmitionType.noConfusion, .inl divided⟩
  piece := by
    intro stored frame next later context split dividing r1 line
    obtain ⟨command, subCommand, codebit, first, parts, divides⟩ := exists_divides checksum long fits
    obtain ⟨after, delivered, completed, current, type, number, total⟩ := divides.next checksum split dividing r1 line
    obtain ⟨_, _, _, _, count⟩ := divides.at checksum split
    have few := divides.few
    rw [List.length_cons] at count
    have unfinished : ¬ after.frameNumber = sub32 after.totalFrames 1 := by
      rw [number, total, sub32_of_le (by omega) (by omega)]
      omega
    have continued : (recvHandler checksum .done none ⟨after, r1⟩).runOn Link.answer line =
        some ((⟨after.onFrameCompleted, r1⟩, .event .wait), line) := by
      simp [recvHandler, onContext, recvDone, type, unfinished]
    refine ⟨after.onFrameCompleted, ⟨rfl, ?_, ?_, .inl type⟩,
      delivered.trans (recv_step .enquiry _ continued rfl (by decide) .refl)⟩
    · change after.completedFrames ++ [after.currentFrame] = _
      rw [completed, current]
    · exact fun regular => TransmitionType.noConfusion (type.symm.trans regular)
  last := by
    intro stored frame context split dividing r1 line
    obtain ⟨command, subCommand, codebit, first, parts, divides⟩ := exists_divides checksum long fits
    obtain ⟨after, delivered, completed, current, type, number, total⟩ := divides.next checksum split dividing r1 line
    obtain ⟨_, _, _, _, count⟩ := divides.at checksum split
    have few := divides.few
    rw [List.length_nil] at count
    have finished : recvDone after = .pure ({ after with result := true }, .pass) := by
      have last : stored.length = sub32 (parts.length + 1) 1 := by
        rw [sub32_of_le (by omega) (by omega)]
        omega
      simp [recvDone, type, total, number, ← last]
    have whole : after.frames = numberedFrames checksum command subCommand (parts.length + 1) 0
        ((codebit, first) :: parts) := by
      rw [← divides.frames, split, RecvContext.frames, completed, current]
    have content : flagged data = command :: subCommand :: codebit :: (first ++ parts.flatMap Prod.snd) := by
      rw [← divides.content]
      exact if_pos (Nat.lt_of_lt_of_le (by decide) long)
    refine ⟨_, delivered.trans (done_to_end checksum r1 line finished), ?_⟩
    rw [content]
    exact receive_numbered checksum rfl type total divides.several (by omega) whole

end

section
variable {state : SendState} {event : Event} {sending : Sending} {device last : Link.Cutting}
  {target start middle : SendConfig × Link.Cutting} {line : List Symbol} {r2 denials : Nat} {sent : List Frame}

private theorem cut_step (next : SendState) (after : Sending)
    (ran : (sendHandler state () sending).runOn Link.transmitCut device = some ((after, .event event), last))
    (moves : sendTransition state event = next) (unfinished : state ≠ .end)
    (continued : sendMachine.ReachesOn Link.transmitCut (.running next () after, last) target) :
    sendMachine.ReachesOn Link.transmitCut (.running state () sending, device) target := by
  have moved : sendMachine.stepOn Link.transmitCut (.running state () sending, device) =
      some (.running (sendTransition state event) () after, last) := stepOn_event ran unfinished
  rw [moves] at moved
  exact .step moved continued

/-- The end of a send: true and the line filled if there are attempts for all denials,
and false otherwise. -/
def SentAs (line : List Symbol) (denials : Nat) (start : SendConfig × Link.Cutting) : Prop :=
  ∃ sending device, sendMachine.ReachesOn Link.transmitCut start (.ended sending, device) ∧
    if denials < kMaxNumberOfSendAttempts then sending.context.result = true ∧ device.line = line
    else sending.context.result = false

theorem SentAs.before (reached : sendMachine.ReachesOn Link.transmitCut start middle)
    (ends : SentAs line denials middle) : SentAs line denials start := by
  obtain ⟨sending, device, ended, answered⟩ := ends
  exact ⟨sending, device, reached.trans ended, answered⟩

private theorem write_frame {context : SendContext} {after : Link.Cutting} (found : context.currentFrame = some frame)
    (wrote : Link.transmitCut ⟨line ++ [.byte ControlCode.enq, .silence], plan, false⟩ (.write frame) =
      some (⟨.success, []⟩, after)) :
    sendMachine.ReachesOn Link.transmitCut (.running .reenquiry () ⟨context, r2⟩, ⟨line, plan, false⟩)
      (.running .ack2 () ⟨context, r2⟩, after) := by
  have written : (sendHandler .frame () ⟨context, r2⟩).runOn Link.transmitCut
      ⟨line ++ [.byte ControlCode.enq, .silence], plan, false⟩ = some ((⟨context, r2⟩, .event .pass), after) := by
    simp only [sendHandler, signal, sendFrame, found]
    exact (Program.runOn_call wrote).trans rfl
  refine cut_step .ack _ rfl rfl (by decide) ?_
  refine cut_step .frame _ rfl rfl (by decide) ?_
  exact cut_step .ack2 _ written rfl (by decide) .refl

private theorem retry_to_reenquiry {context : SendContext} (left : r2 + 1 < kMaxNumberOfSendAttempts) :
    sendMachine.ReachesOn Link.transmitCut (.running .retry () ⟨context, r2⟩, device)
      (.running .reenquiry () ⟨context, r2 + 1⟩, device) := by
  have retried : (sendHandler .retry () ⟨context, r2⟩).runOn Link.transmitCut device =
      some ((⟨context, r2 + 1⟩, .event .pass), device) := by
    by_cases sixth : (r2 + 1) % kSendAttemptsForPortReinit = 0
    · simp only [sendHandler, once, sendRetry, if_pos left, if_pos sixth]
      rfl
    · simp only [sendHandler, once, sendRetry, if_pos left, if_neg sixth]
      rfl
  refine cut_step .enquiry _ retried rfl (by decide) ?_
  exact cut_step .reenquiry _ rfl rfl (by decide) .refl

private theorem retry_given_up {context : SendContext} (spent : ¬ r2 + 1 < kMaxNumberOfSendAttempts) :
    ∃ sending, sendMachine.ReachesOn Link.transmitCut (.running .retry () ⟨context, r2⟩, device)
      (.ended sending, device) ∧ sending.context.result = false := by
  have retried : (sendHandler .retry () ⟨context, r2⟩).runOn Link.transmitCut device =
      some ((⟨context, r2 + 1⟩, .event .fail), device) := by
    simp only [sendHandler, once, sendRetry, if_neg spent]
    rfl
  refine ⟨⟨{ context with result := false }, r2 + 1⟩, ?_, rfl⟩
  refine cut_step .error _ retried rfl (by decide) ?_
  refine cut_step .end _ rfl rfl (by decide) ?_
  exact .step (@stepOn_final _ _ _ _ _ _ _ _ sendMachine Link.transmitCut () _ _ .pass _ _ rfl) .refl

/-- A frame that is cut off is denied, and costs an attempt. -/
private theorem sent_cut (split : frames = sent ++ frame :: later) {lost : Nat}
    (again : r2 + 1 < kMaxNumberOfSendAttempts → ∀ line,
      SentAs (line ++ cutLine plan (frame :: later)) (r2 + 1 + Link.cuts (later.length + 1) plan)
        (.running .reenquiry () ⟨⟨frames, sent.length, false⟩, r2 + 1⟩, ⟨line, plan, false⟩)) :
    SentAs (line ++ cutLine (some lost :: plan) (frame :: later)) (r2 + (Link.cuts (later.length + 1) plan + 1))
      (.running .reenquiry () ⟨⟨frames, sent.length, false⟩, r2⟩, ⟨line, some lost :: plan, false⟩) := by
  let filled := line ++ (Link.frameSymbols (Link.cut lost frame) ++ [.silence])
  have wrote : Link.transmitCut ⟨line ++ [.byte ControlCode.enq, .silence], some lost :: plan, false⟩ (.write frame) =
      some (⟨.success, []⟩, ⟨filled, plan, true⟩) := by
    simp [Link.transmitCut, filled, Link.frameSymbols]
  have found : SendContext.currentFrame ⟨frames, sent.length, false⟩ = some frame := by
    simp [SendContext.currentFrame, split]
  have denied : sendMachine.ReachesOn Link.transmitCut
      (.running .ack2 () ⟨⟨frames, sent.length, false⟩, r2⟩, ⟨filled, plan, true⟩)
      (.running .retry () ⟨⟨frames, sent.length, false⟩, r2⟩, ⟨filled, plan, false⟩) :=
    cut_step .retry _ rfl rfl (by decide) .refl
  apply SentAs.before ((write_frame found wrote).trans denied)
  by_cases more : r2 + 1 < kMaxNumberOfSendAttempts
  · have next := again more filled
    rw [Nat.add_right_comm] at next
    have same : filled ++ cutLine plan (frame :: later) = line ++ cutLine (some lost :: plan) (frame :: later) := by
      simp [filled, cutLine]
    rw [same] at next
    exact next.before (retry_to_reenquiry more)
  · obtain ⟨sending, ended, failed⟩ := @retry_given_up ⟨filled, plan, false⟩ r2 ⟨frames, sent.length, false⟩ more
    refine ⟨sending, _, ended, ?_⟩
    rw [if_neg (by omega)]
    exact failed

private theorem sent_whole (few : frames.length < 2 ^ 64) (split : frames = sent ++ frame :: later)
    (attempts : r2 < kMaxNumberOfSendAttempts) (whole : plan.head?.join = none)
    (further : ∀ next rest, later = next :: rest → ∀ line,
      SentAs (line ++ cutLine plan.tail later) (r2 + Link.cuts later.length plan.tail)
        (.running .reenquiry () ⟨⟨frames, sent.length + 1, false⟩, r2⟩, ⟨line, plan.tail, false⟩)) :
    SentAs (line ++ cutLine plan (frame :: later)) (r2 + Link.cuts (later.length + 1) plan)
      (.running .reenquiry () ⟨⟨frames, sent.length, false⟩, r2⟩, ⟨line, plan, false⟩) := by
  obtain ⟨symbols, count⟩ := cutLine_whole whole frame later
  let filled := line ++ Link.frameSymbols frame
  have wrote : Link.transmitCut ⟨line ++ [.byte ControlCode.enq, .silence], plan, false⟩ (.write frame) =
      some (⟨.success, []⟩, ⟨filled, plan.tail, false⟩) := by
    cases plan with
    | nil => simp [Link.transmitCut, filled, Link.frameSymbols]
    | cons first plan =>
      cases first with
      | none => simp [Link.transmitCut, filled, Link.frameSymbols]
      | some lost => cases whole
  have found : SendContext.currentFrame ⟨frames, sent.length, false⟩ = some frame := by
    simp [SendContext.currentFrame, split]
  have confirmed : sendMachine.ReachesOn Link.transmitCut
      (.running .ack2 () ⟨⟨frames, sent.length, false⟩, r2⟩, ⟨filled, plan.tail, false⟩)
      (.running .done () ⟨⟨frames, sent.length, false⟩, r2⟩, ⟨filled, plan.tail, false⟩) :=
    cut_step .done _ rfl rfl (by decide) .refl
  have more := @SendContext.hasFramesToSend_iff ⟨frames, sent.length, false⟩ (by simp [split]) few
  apply SentAs.before ((write_frame found wrote).trans confirmed)
  rw [symbols, count]
  cases later with
  | nil =>
    have last : SendContext.hasFramesToSend ⟨frames, sent.length, false⟩ = false := by
      rw [Bool.eq_false_iff, Ne, more]
      simp [split]
    have finished : (sendHandler .done () ⟨⟨frames, sent.length, false⟩, r2⟩).runOn Link.transmitCut
        ⟨filled, plan.tail, false⟩ = some ((⟨⟨frames, sent.length, true⟩, r2⟩, .event .pass),
          ⟨filled, plan.tail, false⟩) := by
      simp [sendHandler, once, sendDone, last]
    refine ⟨⟨⟨frames, sent.length, true⟩, r2⟩, ⟨filled, plan.tail, false⟩, ?_, ?_⟩
    · refine cut_step .end _ finished rfl (by decide) ?_
      exact .step (@stepOn_final _ _ _ _ _ _ _ _ sendMachine Link.transmitCut () _ _ .pass _ _ rfl) .refl
    · rw [List.length_nil, cuts_zero, Nat.add_zero, if_pos attempts]
      exact ⟨rfl, by simp [filled]⟩
  | cons next rest =>
    have unfinished : SendContext.hasFramesToSend ⟨frames, sent.length, false⟩ = true := by
      rw [more]
      simp [split]
    have continued : (sendHandler .done () ⟨⟨frames, sent.length, false⟩, r2⟩).runOn Link.transmitCut
        ⟨filled, plan.tail, false⟩ = some ((⟨⟨frames, sent.length + 1, false⟩, r2⟩, .event .wait),
          ⟨filled, plan.tail, false⟩) := by
      simp [sendHandler, once, sendDone, unfinished, SendContext.onFrameCompleted]
    have remaining := further next rest rfl filled
    rw [← List.append_assoc]
    exact remaining.before (cut_step .reenquiry _ continued rfl (by decide) .refl)

private theorem cut_frame_sent (few : frames.length < 2 ^ 64) (split : frames = sent ++ frame :: later)
    (further : ∀ next rest, later = next :: rest → ∀ r2, r2 < kMaxNumberOfSendAttempts → ∀ plan line,
      SentAs (line ++ cutLine plan later) (r2 + Link.cuts later.length plan)
        (.running .reenquiry () ⟨⟨frames, sent.length + 1, false⟩, r2⟩, ⟨line, plan, false⟩))
    (attempts : r2 < kMaxNumberOfSendAttempts) (plan : List (Option Nat)) (line : List Symbol) :
    SentAs (line ++ cutLine plan (frame :: later)) (r2 + Link.cuts (later.length + 1) plan)
      (.running .reenquiry () ⟨⟨frames, sent.length, false⟩, r2⟩, ⟨line, plan, false⟩) := by
  induction plan generalizing r2 line with
  | nil => exact sent_whole few split attempts rfl fun next rest more => further next rest more r2 attempts []
  | cons first plan ih =>
    cases first with
    | none => exact sent_whole few split attempts rfl fun next rest more => further next rest more r2 attempts plan
    | some lost => exact sent_cut split fun left line => ih left line

private theorem cut_frames_sent (few : frames.length < 2 ^ 64) (split : frames = sent ++ frame :: later)
    (attempts : r2 < kMaxNumberOfSendAttempts) (plan : List (Option Nat)) (line : List Symbol) :
    SentAs (line ++ cutLine plan (frame :: later)) (r2 + Link.cuts (later.length + 1) plan)
      (.running .reenquiry () ⟨⟨frames, sent.length, false⟩, r2⟩, ⟨line, plan, false⟩) := by
  induction later generalizing sent frame r2 plan line with
  | nil => exact cut_frame_sent few split nofun attempts plan line
  | cons next later ih =>
    refine cut_frame_sent few split (fun next rest more r2 attempts plan line => ?_) attempts plan line
    obtain ⟨rfl, rfl⟩ := List.cons.inj more
    have split' : frames = (sent ++ [frame]) ++ next :: later := by rw [split, List.append_cons]
    have remaining := ih split' attempts plan line
    rwa [List.length_append, List.length_singleton] at remaining

theorem send_cut (checksum : List UInt8 → UInt8) {data : List UInt8} (present : prepareFrames checksum data ≠ [])
    (r2 : Nat) (plan : List (Option Nat)) :
    SentAs (cutLine plan (prepareFrames checksum data)) (Link.cuts (prepareFrames checksum data).length plan)
      (sendStart checksum data r2, ⟨[], plan, false⟩) := by
  have few := length_prepareFrames_lt checksum data
  have attempts : 0 < kMaxNumberOfSendAttempts := by decide
  obtain ⟨frame, later, split⟩ := List.exists_cons_of_ne_nil present
  have sent := cut_frames_sent few (split.trans (List.nil_append _).symm) attempts plan []
  rw [List.nil_append, Nat.zero_add, ← List.length_cons, ← split] at sent
  refine sent.before (cut_step .enquiry ⟨⟨prepareFrames checksum data, 0, false⟩, 0⟩ rfl rfl (by decide) ?_)
  exact cut_step .reenquiry _ rfl rfl (by decide) .refl

end

section
variable (checksum) {data : List UInt8}

theorem frames_present (small : data.length < 2 ^ 32) : ∀ frame ∈ prepareFrames checksum data, frame ≠ [] := by
  intro frame member
  by_cases short : data.length ≤ 1030
  · by_cases regular : data.length ≤ 251
    · rw [prepareFrames_regular checksum regular, List.mem_singleton] at member
      exact member ▸ List.cons_ne_nil _ _
    · rw [prepareFrames_extended checksum (by omega) short, List.mem_singleton] at member
      exact member ▸ List.cons_ne_nil _ _
  · rw [prepareFrames_divided checksum data (by omega) small] at member
    obtain ⟨index, found⟩ := List.mem_iff_getElem?.mp member
    rw [getElem?_numberedFrames] at found
    obtain ⟨part, -, rfl⟩ := Option.map_eq_some_iff.mp found
    exact List.cons_ne_nil _ _

/-- The lengths that a receive does not misread. -/
theorem exists_receivable (atLeast : 3 ≤ data.length) (form : data.length ≤ 1027 ∨ 1031 ≤ data.length)
    (fits : (data.length - 3 + 1023) / 1024 ≤ 65535) :
    ∃ awaits, Receivable checksum (prepareFrames checksum data) (flagged data) awaits := by
  rcases form with short | long
  · have unflagged : flagged data = data := if_neg (Nat.not_lt_of_le (Nat.le_trans short (by decide)))
    rw [unflagged]
    by_cases regular : data.length ≤ 251
    · rw [prepareFrames_regular checksum regular]
      exact ⟨_, regular_receivable checksum atLeast regular⟩
    · rw [prepareFrames_extended checksum (by omega) (by omega)]
      exact ⟨_, extended_receivable checksum atLeast short⟩
  · exact ⟨_, divided_receivable checksum long fits⟩

/-- Frames cut off at any place are made good by writing them again, up to the attempts
of one receive for all frames of the message. -/
theorem cut_message_received_iff (r1 r2 : Nat) (plan : List (Option Nat)) (atLeast : 3 ≤ data.length)
    (form : data.length ≤ 1027 ∨ 1031 ≤ data.length) (fits : (data.length - 3 + 1023) / 1024 ≤ 65535) :
    (∃ line, TransmitsCut checksum r2 plan data line true ∧
        ReceivesFrom checksum r1 line (.message (flagged data)) []) ↔
      Link.cuts (prepareFrames checksum data).length plan < kMaxNumberOfRecvAttempts := by
  have present := @Cpu.prepareFrames_ne_nil checksum data (by omega)
  obtain ⟨awaits, receivable⟩ := exists_receivable checksum atLeast form fits
  obtain ⟨sending, device, ended, answered⟩ := send_cut checksum present r2 plan
  obtain ⟨receiving, left, stopped, received⟩ :=
    receivable.receives (frames_present checksum (by omega)) present r1 plan []
  rw [List.append_nil] at stopped
  constructor
  · intro ⟨line, ⟨sending', device', ended', filled, sent⟩, receives⟩
    by_contra denied
    rw [if_neg denied] at received
    obtain ⟨rfl, rfl⟩ := ended.ended_unique ended'
    by_cases attempts : Link.cuts (prepareFrames checksum data).length plan < kMaxNumberOfSendAttempts
    · rw [if_pos attempts] at answered
      rw [← filled, answered.2] at receives
      have nothing : ReceivesFrom checksum r1 (cutLine plan (prepareFrames checksum data)) .nothing left :=
        ⟨receiving, stopped, received⟩
      exact nomatch receives.unique nothing
    · rw [if_neg attempts, sent] at answered
      exact Bool.noConfusion answered
  · intro accepted
    rw [if_pos (Nat.lt_trans accepted (by decide))] at answered
    rw [if_pos accepted] at received
    obtain ⟨same, rfl⟩ := received
    exact ⟨_, ⟨sending, device, ended, answered.2, answered.1⟩, receiving, stopped, same⟩

theorem cut_three_received : ∃ line, TransmitsCut List.sum 0 [some 0, some 3] [1, 2, 3] line true ∧
    ReceivesFrom List.sum 0 line (.message (flagged [1, 2, 3])) [] :=
  (cut_message_received_iff List.sum 0 0 [some 0, some 3] (by decide) (.inl (by decide)) (by decide)).mpr (by decide)

end

end CpuCom.Uart.Protocol
