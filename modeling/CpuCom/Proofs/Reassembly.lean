import CpuCom.Interaction.Script
import CpuCom.Proofs.FrameJoining
import CpuCom.Proofs.RecvSteps

/-! Reassembly of a divided message. The receive takes the frames in the order of
their arrival and looks at the number of the last one only, so it finds all frames
exactly if each of them has come in its place. -/

namespace CpuCom.Uart.Protocol
open Interaction FiniteStateMachine

def frameNumberOf (frame : Frame) : Nat := decode16 (frame.drop 8)

def totalFramesOf (frame : Frame) : Nat := decode16 (frame.drop 10)

/-- All frames are there and carry their number and the same total. -/
def Complete (context : RecvContext) : Prop :=
  context.totalFrames ≤ context.frames.length ∧
    ∀ k, k < context.totalFrames → ∃ frame, context.frames[k]? = some frame ∧ frameNumberOf frame = k ∧
      totalFramesOf frame = context.totalFrames

/-- A frame of a divided message is accepted in its place: its number is the number
of frames stored before it, and its total is theirs. -/
def InSequence (before : RecvConfig) (_ : List (Call × Response)) (_ : RecvConfig) : Prop :=
  ∀ loop receiving, before = .running .done loop receiving →
    receiving.context.transmitionType = .extendedLengthWithFrameDivision →
      receiving.context.frameNumber = receiving.context.completedFrames.length ∧
        ∀ frame ∈ receiving.context.completedFrames, totalFramesOf frame = receiving.context.totalFrames

variable {checksum : List UInt8 → UInt8}

structure Carries (context : RecvContext) : Prop where
  long : 12 ≤ context.currentFrame.length
  number : frameNumberOf context.currentFrame = context.frameNumber
  total : totalFramesOf context.currentFrame = context.totalFrames

def Known (context : RecvContext) : RecvState → Prop
  | .len => context.currentFrame.length = 1
  | .datacmd => context.currentFrame.length = 2
  | .dataextlen => context.currentFrame.length = 5
  | .dataframenumber =>
      context.transmitionType = .extendedLengthWithFrameDivision → context.currentFrame.length = 8
  | .data => context.transmitionType = .extendedLengthWithFrameDivision → Carries context
  | .etx => context.transmitionType = .extendedLengthWithFrameDivision → Carries context
  | .cs => context.transmitionType = .extendedLengthWithFrameDivision → Carries context
  | .ack2 => context.transmitionType = .extendedLengthWithFrameDivision → Carries context
  | .done => context.transmitionType = .extendedLengthWithFrameDivision → Carries context
  | .nak => True
  | .retry => True
  | .error => True
  | .end => context.result = true → context.transmitionType = .extendedLengthWithFrameDivision →
      Carries context ∧ context.frameNumber = sub32 context.totalFrames 1
  | _ => context.currentFrame = []

/-- The frames stored so far do not claim to be the last ones. -/
structure Assembling (state : RecvState) (context : RecvContext) : Prop where
  known : Known context state
  unfinished : ∀ frame ∈ context.completedFrames, frameNumberOf frame ≠ sub32 (totalFramesOf frame) 1

def Assembled : RecvConfig → Prop
  | .running state _ receiving => (state = .end ∨ receiving.context.result = false) ∧ Assembling state receiving.context
  | .ended receiving => Assembling .end receiving.context

theorem decode16_append {bytes : List UInt8} (rest : List UInt8) (long : 2 ≤ bytes.length) :
    decode16 (bytes ++ rest) = decode16 bytes := by
  match bytes, long with
  | first :: second :: bytes, _ => rfl

theorem Carries.store {context : RecvContext} (carries : Carries context) (bytes : List UInt8) :
    Carries (context.store bytes) := by
  obtain ⟨long, number, total⟩ := carries
  have behind : (context.store bytes).currentFrame = context.currentFrame ++ bytes := rfl
  refine ⟨?_, ?_, ?_⟩
  · rw [behind, List.length_append]
    omega
  · rw [behind, frameNumberOf, List.drop_append_of_le_length (by omega),
      decode16_append _ (by rw [List.length_drop]; omega)]
    exact number
  · rw [behind, totalFramesOf, List.drop_append_of_le_length (by omega),
      decode16_append _ (by rw [List.length_drop]; omega)]
    exact total

theorem Carries.read {context : RecvContext} {fields : List UInt8} (header : context.currentFrame.length = 8)
    (four : fields.length = 4) :
    Carries { context.store fields with
      totalFrames := decode16 (fields.drop 2), frameNumber := decode16 fields } := by
  have number : (context.currentFrame ++ fields).drop 8 = fields := by
    rw [← header, List.drop_left]
  have total : (context.currentFrame ++ fields).drop 10 = fields.drop 2 := by
    rw [← number, List.drop_drop, number]
  refine ⟨?_, ?_, ?_⟩
  · simp [RecvContext.store, header, four]
  · exact congrArg decode16 number
  · exact congrArg decode16 total

theorem assembled_step {before after : RecvConfig} {trace : List (Call × Response)} (assembled : Assembled before)
    (step : (recvMachine checksum).Step before trace after) : Assembled after := by
  obtain ⟨state, loop, context, r1, rfl, move⟩ := recv_move step
  obtain ⟨pending, known, unfinished⟩ := assembled
  cases move with
  | idle => exact ⟨.inr (pending.resolve_left RecvState.noConfusion), known, unfinished⟩
  | polled locked arrived => exact ⟨.inr (pending.resolve_left RecvState.noConfusion), known, unfinished⟩
  | pollFailed failed => exact ⟨.inr (pending.resolve_left RecvState.noConfusion), trivial, unfinished⟩
  | repoll unlocked => exact ⟨.inr (pending.resolve_left RecvState.noConfusion), known, unfinished⟩
  | enquiryByte arrived => exact ⟨.inr (pending.resolve_left RecvState.noConfusion), known, unfinished⟩
  | enquired quiet => exact ⟨.inr (pending.resolve_left RecvState.noConfusion), known, unfinished⟩
  | unasked quiet nothing => exact ⟨.inr (pending.resolve_left RecvState.noConfusion), known, unfinished⟩
  | strange quiet notEnquiry notDenial => exact ⟨.inr (pending.resolve_left RecvState.noConfusion), trivial, unfinished⟩
  | enquiryFailed failed => exact ⟨.inr (pending.resolve_left RecvState.noConfusion), trivial, unfinished⟩
  | ack accepted => exact ⟨.inr (pending.resolve_left RecvState.noConfusion), known, unfinished⟩
  | ackFailed refused => exact ⟨.inr (pending.resolve_left RecvState.noConfusion), trivial, unfinished⟩
  | stx arrived code =>
    have empty : context.currentFrame = [] := known
    exact ⟨.inr (pending.resolve_left RecvState.noConfusion), by simp [Known, RecvContext.store, empty], unfinished⟩
  | lenExtended arrived code =>
    have length : context.currentFrame.length = 1 := known
    exact ⟨.inr (pending.resolve_left RecvState.noConfusion), by simp [Known, RecvContext.store, length], unfinished⟩
  | lenRegular arrived other atLeast atMost =>
    have length : context.currentFrame.length = 1 := known
    exact ⟨.inr (pending.resolve_left RecvState.noConfusion), by simp [Known, RecvContext.store, length], unfinished⟩
  | datacmd arrived =>
    have length : context.currentFrame.length = 2 := known
    exact ⟨.inr (pending.resolve_left RecvState.noConfusion), by simp [Known, RecvContext.store, length, kCmdLength],
      unfinished⟩
  | dataextlen extended arrived =>
    have length : context.currentFrame.length = 5 := known
    refine ⟨.inr (pending.resolve_left RecvState.noConfusion), ?_, unfinished⟩
    intro _
    simp [RecvContext.setExtendedLength, RecvContext.store, length, kExtLenLength]
  | dataextlenSkipped regular =>
    refine ⟨.inr (pending.resolve_left RecvState.noConfusion), ?_, unfinished⟩
    intro divided
    rw [show context.transmitionType = _ from regular] at divided
    cases divided
  | @dataframenumber loop reply divided arrived =>
    have length : context.currentFrame.length = 8 := known divided
    refine ⟨.inr (pending.resolve_left RecvState.noConfusion), ?_, unfinished⟩
    intro _
    exact .read length (Response.length_fill reply 4)
  | dataframenumberSkipped undivided =>
    exact ⟨.inr (pending.resolve_left RecvState.noConfusion), fun divided => absurd divided undivided, unfinished⟩
  | data arrived =>
      exact ⟨.inr (pending.resolve_left RecvState.noConfusion), fun divided => (known divided).store _, unfinished⟩
  | etx arrived code =>
      exact ⟨.inr (pending.resolve_left RecvState.noConfusion), fun divided => (known divided).store _, unfinished⟩
  | cs arrived right =>
      exact ⟨.inr (pending.resolve_left RecvState.noConfusion), fun divided => (known divided).store _, unfinished⟩
  | rejected reads denied =>
    refine ⟨.inr (pending.resolve_left ?_), trivial, unfinished⟩
    intro same
    rw [same] at reads
    exact reads
  | failed reads notLast failed =>
    refine ⟨.inr (pending.resolve_left ?_), trivial, unfinished⟩
    intro same
    rw [same] at reads
    exact reads
  | ack2 accepted => exact ⟨.inr (pending.resolve_left RecvState.noConfusion), known, unfinished⟩
  | ack2Failed refused => exact ⟨.inr (pending.resolve_left RecvState.noConfusion), trivial, unfinished⟩
  | nak accepted => exact ⟨.inr (pending.resolve_left RecvState.noConfusion), trivial, unfinished⟩
  | nakFailed refused => exact ⟨.inr (pending.resolve_left RecvState.noConfusion), trivial, unfinished⟩
  | retry left => exact ⟨.inr (pending.resolve_left RecvState.noConfusion), rfl, unfinished⟩
  | exhausted spent => exact ⟨.inr (pending.resolve_left RecvState.noConfusion), trivial, unfinished⟩
  | whole whole =>
    refine ⟨.inl rfl, ?_, unfinished⟩
    intro _ divided
    obtain ⟨long, number, total⟩ := known divided
    rcases whole with regular | extended | ⟨_, last⟩
    · rw [show context.transmitionType = _ from divided] at regular
      cases regular
    · rw [show context.transmitionType = _ from divided] at extended
      cases extended
    · exact ⟨⟨long, number, total⟩, last⟩
  | piece divided more =>
    obtain ⟨long, number, total⟩ := known divided
    refine ⟨.inr (pending.resolve_left RecvState.noConfusion), rfl, ?_⟩
    intro frame member
    rcases List.mem_append.mp member with earlier | current
    · exact unfinished frame earlier
    · rw [List.mem_singleton] at current
      subst current
      rwa [number, total]
  | undefined unset =>
    refine ⟨.inl rfl, ?_, unfinished⟩
    intro accepted
    rw [show context.result = _ from pending.resolve_left RecvState.noConfusion] at accepted
    cases accepted
  | error =>
    exact ⟨.inl rfl, Bool.noConfusion, unfinished⟩
  | finish unlocked => exact ⟨known, unfinished⟩

theorem assembled_run {r1 : Nat} {config : RecvConfig} {trace : List (Call × Response)}
    (run : (recvMachine checksum).Runs (recvStart checksum r1) trace config) : Assembled config := by
  apply run.invariant
  · exact ⟨.inr rfl, rfl, nofun⟩
  · intro trace middle more after assembled step _
    exact assembled_step assembled step

/-- Stored frames that have come in their places. -/
def Sequence (frames : List Frame) : Prop :=
  ∃ total, ∀ k frame, frames[k]? = some frame → frameNumberOf frame = k ∧ totalFramesOf frame = total

/-- In a run whose frames come in sequence the last frame finds all others. -/
def Sequenced : RecvConfig → Prop
  | .running .end _ receiving => receiving.context.result = true →
      receiving.context.transmitionType = .extendedLengthWithFrameDivision → Complete receiving.context
  | .running _ _ receiving => Sequence receiving.context.completedFrames
  | .ended receiving => receiving.context.result = true →
      receiving.context.transmitionType = .extendedLengthWithFrameDivision → Complete receiving.context

theorem Sequence.complete {context : RecvContext} (sequence : Sequence context.completedFrames)
    (carries : Carries context) (place : context.frameNumber = context.completedFrames.length)
    (same : ∀ frame ∈ context.completedFrames, totalFramesOf frame = context.totalFrames)
    (last : context.frameNumber = sub32 context.totalFrames 1) : Complete context := by
  obtain ⟨total, places⟩ := sequence
  have numbered : context.frameNumber < 65536 := carries.number ▸ decode16_lt _
  have counted : context.totalFrames = context.completedFrames.length + 1 := by
    unfold sub32 at last
    have small : context.totalFrames < 65536 := carries.total ▸ decode16_lt _
    omega
  refine ⟨by simp [RecvContext.frames, counted], ?_⟩
  intro k inside
  by_cases earlier : k < context.completedFrames.length
  · have found : context.completedFrames[k]? = some context.completedFrames[k] := List.getElem?_eq_getElem earlier
    refine ⟨context.completedFrames[k], ?_, (places k _ found).1, same _ (List.getElem_mem earlier)⟩
    rw [RecvContext.frames, List.getElem?_append_left earlier, found]
  · have here : k = context.completedFrames.length := by omega
    subst here
    refine ⟨context.currentFrame, ?_, carries.number.trans place, carries.total⟩
    rw [RecvContext.frames, List.getElem?_append_right (Nat.le_refl _), Nat.sub_self, List.getElem?_cons_zero]

theorem Sequence.append {context : RecvContext} (sequence : Sequence context.completedFrames)
    (carries : Carries context) (place : context.frameNumber = context.completedFrames.length)
    (same : ∀ frame ∈ context.completedFrames, totalFramesOf frame = context.totalFrames) :
    Sequence context.frames := by
  obtain ⟨total, places⟩ := sequence
  refine ⟨context.totalFrames, ?_⟩
  intro k frame found
  by_cases earlier : k < context.completedFrames.length
  · rw [RecvContext.frames, List.getElem?_append_left earlier] at found
    exact ⟨(places k frame found).1, same frame (List.mem_of_getElem? found)⟩
  · rw [RecvContext.frames, List.getElem?_append_right (Nat.le_of_not_lt earlier), List.getElem?_singleton] at found
    split at found
    · next here =>
      cases found
      have same : k = context.completedFrames.length := by omega
      exact ⟨carries.number.trans (place.trans same.symm), carries.total⟩
    · cases found

theorem sequenced_step {before after : RecvConfig} {trace : List (Call × Response)} (assembled : Assembled before)
    (sequenced : Sequenced before) (step : (recvMachine checksum).Step before trace after)
    (inSequence : InSequence before trace after) : Sequenced after := by
  obtain ⟨state, loop, context, r1, rfl, move⟩ := recv_move step
  cases move with
  | whole whole =>
    intro _ divided
    obtain ⟨place, same⟩ := inSequence _ _ rfl divided
    have carries := assembled.2.known divided
    rcases whole with regular | extended | ⟨_, last⟩
    · cases regular.symm.trans divided
    · cases extended.symm.trans divided
    · have complete : Complete context := Sequence.complete sequenced carries place same last
      exact complete
  | piece divided more =>
    obtain ⟨place, same⟩ := inSequence _ _ rfl divided
    exact Sequence.append sequenced (assembled.2.known divided) place same
  | undefined unset =>
    intro accepted
    rw [show context.result = _ from assembled.1.resolve_left nofun] at accepted
    cases accepted
  | error => exact nofun
  | finish unlocked => exact sequenced
  | rejected reads denied =>
    cases state with
    | «end» => cases reads
    | _ => exact sequenced
  | failed reads notLast failed =>
    cases state with
    | «end» => cases reads
    | _ => exact sequenced
  | _ => exact sequenced

theorem sequenced_run {r1 : Nat} {config : RecvConfig} {trace : List (Call × Response)}
    (run : (recvMachine checksum).Run InSequence (recvStart checksum r1) trace config) : Sequenced config := by
  have invariant : Assembled config ∧ Sequenced config := by
    apply run.invariant
    · exact ⟨assembled_run (.refl (recvStart checksum r1)), 0, nofun⟩
    · intro trace middle more after ⟨assembled, sequenced⟩ step inSequence
      exact ⟨assembled_step assembled step, sequenced_step assembled sequenced step inSequence⟩
  exact invariant.2

theorem end_kept {loop : Option UInt8} {receiving : Receiving} {config : RecvConfig} {trace : List (Call × Response)}
    (run : (recvMachine checksum).Runs (.running .end loop receiving) trace config) : config.data = receiving := by
  have invariant : config = .running .end loop receiving ∨ config = .ended receiving := by
    apply run.invariant
    · exact .inl rfl
    · intro trace middle more after held step _
      obtain ⟨state, loop', context, r1, rfl, move⟩ := recv_move step
      rcases held with same | same
      · cases same
        cases move with
        | finish unlocked => exact .inr rfl
        | rejected reads denied => cases reads
        | failed reads notLast failed => cases reads
      · cases same
  rcases invariant with rfl | rfl
  · rfl
  · rfl

theorem Complete.length_eq {context : RecvContext} (complete : Complete context) (positive : 0 < context.totalFrames)
    (unfinished : ∀ frame ∈ context.completedFrames, frameNumberOf frame ≠ sub32 (totalFramesOf frame) 1) :
    context.completedFrames.length + 1 = context.totalFrames := by
  obtain ⟨enough, places⟩ := complete
  obtain ⟨last, found, number, total⟩ := places (context.totalFrames - 1) (by omega)
  simp only [RecvContext.frames, List.length_append, List.length_singleton] at enough
  by_contra longer
  have inside : context.totalFrames - 1 < context.completedFrames.length := by omega
  rw [RecvContext.frames, List.getElem?_append_left inside] at found
  have small : totalFramesOf last < 65536 := decode16_lt _
  refine unfinished last (List.mem_of_getElem? found) ?_
  rw [number, total, sub32_of_le positive (by omega)]

theorem positive_total {context : RecvContext} (carries : Carries context)
    (last : context.frameNumber = sub32 context.totalFrames 1) : 0 < context.totalFrames := by
  have numbered : context.frameNumber < 65536 := carries.number ▸ decode16_lt _
  unfold sub32 at last
  omega

theorem Complete.place {context : RecvContext} (complete : Complete context) (carries : Carries context)
    (last : context.frameNumber = sub32 context.totalFrames 1)
    (unfinished : ∀ frame ∈ context.completedFrames, frameNumberOf frame ≠ sub32 (totalFramesOf frame) 1) :
    context.frameNumber = context.completedFrames.length ∧
      ∀ frame ∈ context.completedFrames, totalFramesOf frame = context.totalFrames := by
  have positive := positive_total carries last
  have length := complete.length_eq positive unfinished
  have small : context.totalFrames < 65536 := carries.total ▸ decode16_lt _
  constructor
  · rw [last, sub32_of_le positive (by omega)]
    omega
  · intro frame member
    obtain ⟨k, inside, rfl⟩ := List.getElem_of_mem member
    obtain ⟨stored, found, _, total⟩ := complete.2 k (by omega)
    rw [RecvContext.frames, List.getElem?_append_left inside, List.getElem?_eq_getElem inside] at found
    cases found
    exact total

theorem Complete.earlier_place {earlier context : RecvContext} (complete : Complete context)
    (carries : Carries context) (last : context.frameNumber = sub32 context.totalFrames 1)
    (unfinished : ∀ frame ∈ context.completedFrames, frameNumberOf frame ≠ sub32 (totalFramesOf frame) 1)
    (known : Carries earlier) (kept : earlier.frames <+: context.completedFrames) :
    earlier.frameNumber = earlier.completedFrames.length ∧
      ∀ frame ∈ earlier.completedFrames, totalFramesOf frame = earlier.totalFrames := by
  have totals := (complete.place carries last unfinished).2
  have length := complete.length_eq (positive_total carries last) unfinished
  have shorter := kept.length_le
  have member : earlier.currentFrame ∈ context.completedFrames := kept.subset (by simp [RecvContext.frames])
  constructor
  · simp only [RecvContext.frames, List.length_append, List.length_singleton] at shorter
    obtain ⟨stored, found, number, _⟩ := complete.2 earlier.completedFrames.length (by omega)
    have here : context.completedFrames[earlier.completedFrames.length]? = some earlier.currentFrame := by
      obtain ⟨later, same⟩ := kept
      rw [← same, RecvContext.frames]
      simp
    rw [RecvContext.frames, List.getElem?_append_left (by omega), here] at found
    cases found
    rw [← known.number, number]
  · intro frame earlierMember
    rw [← known.total, totals _ member]
    exact totals frame (kept.subset (List.mem_append_left _ earlierMember))

/-- The reassembly of a divided message finds all its frames, and so does not throw,
exactly in the runs whose divided frames have come in sequence. -/
theorem reassembly_complete_iff {r1 : Nat} {receiving : Receiving} {trace : List (Call × Response)}
    (run : (recvMachine checksum).Runs (recvStart checksum r1) trace (.ended receiving))
    (accepted : receiving.context.result = true)
    (divided : receiving.context.transmitionType = .extendedLengthWithFrameDivision) :
    (Complete receiving.context ∧ receive receiving.context ≠ .crashed) ↔
      (recvMachine checksum).Run InSequence (recvStart checksum r1) trace (.ended receiving) := by
  constructor
  · intro ⟨complete, _⟩
    obtain ⟨known, unfinished⟩ : Assembling .end receiving.context := assembled_run run
    obtain ⟨carries, last⟩ := known accepted divided
    apply run.meet (.refl _)
    intro earlier later passed more left reached step continued loop before same type
    subst same
    have current : Carries before.context := (assembled_run reached).2.known type
    obtain ⟨state, loop', context, r1', same, move⟩ := recv_move step
    cases same
    cases move with
    | whole whole =>
      obtain rfl := end_kept continued
      exact complete.place carries last unfinished
    | piece divided more =>
      exact complete.earlier_place carries last unfinished current (completedFrames_kept continued)
    | undefined unset => cases unset.symm.trans type
    | rejected reads denied => cases reads
    | failed reads notLast failed => cases reads
  · intro inSequence
    have complete : Complete receiving.context := sequenced_run inSequence accepted divided
    refine ⟨complete, ?_⟩
    have found := (joinFrames_isSome receiving.context receiving.context.totalFrames).mpr complete.1
    rw [receive, if_pos accepted, divided]
    cases joined : joinFrames receiving.context receiving.context.totalFrames with
    | none =>
      rw [joined] at found
      cases found
    | some data => simp

private def frameReplies (low number : UInt8) : List Response :=
  [⟨.success, [ControlCode.enq]⟩, ⟨.timeout, []⟩, ⟨.success, []⟩, ⟨.success, [ControlCode.stx]⟩,
    ⟨.success, [ControlCode.extLen]⟩, ⟨.success, [1, 2, 3]⟩, ⟨.success, [0, 4, low]⟩, ⟨.success, [0, number, 0, 2]⟩,
    ⟨.success, []⟩, ⟨.success, [ControlCode.etx]⟩, ⟨.success, [13 + low + number]⟩, ⟨.success, []⟩]

private def checkSequence : RecvConfig → List (Call × Response) → RecvConfig → Bool
  | .running .done _ receiving, _, _ =>
      decide (receiving.context.frameNumber = receiving.context.completedFrames.length ∧
        ∀ frame ∈ receiving.context.completedFrames, totalFramesOf frame = receiving.context.totalFrames)
  | _, _, _ => true

theorem two_frames_complete :
    ∃ trace receiving, (recvMachine List.sum).Runs (recvStart List.sum 0) trace (.ended receiving) ∧
      Complete receiving.context ∧ receive receiving.context ≠ .crashed := by
  have ran : ((recvMachine List.sum).checkedScript checkSequence 29 (recvStart List.sum 0)
      ([⟨.success, []⟩, ⟨.success, []⟩] ++ frameReplies 9 0 ++ frameReplies 9 1 ++ [⟨.success, []⟩])).map
        (fun result => (result.1.state?, result.1.data.context.result, result.1.data.context.transmitionType)) =
      some (none, true, .extendedLengthWithFrameDivision) := by
    decide +kernel
  obtain ⟨⟨config, trace, rest⟩, ran, same⟩ := Option.map_eq_some_iff.mp ran
  simp only [Prod.mk.injEq] at same
  obtain ⟨ended, accepted, divided⟩ := same
  have inSequence : (recvMachine List.sum).Run InSequence (recvStart List.sum 0) trace config := by
    refine (run_of_script ran).mono ?_
    intro before more after checked loop receiving same _
    subst same
    exact of_decide_eq_true checked
  cases config with
  | running state loop receiving => cases ended
  | ended receiving =>
    exact ⟨trace, receiving, inSequence.runs, (reassembly_complete_iff inSequence.runs accepted divided).mpr inSequence⟩

/-- A receive whose first frame is the second of two throws. -/
theorem second_frame_throws :
    ¬ ∀ trace receiving, (recvMachine List.sum).Runs (recvStart List.sum 0) trace (.ended receiving) →
      receiving.context.result = true →
        receiving.context.transmitionType = .extendedLengthWithFrameDivision →
          Complete receiving.context ∧ receive receiving.context ≠ .crashed := by
  intro claimed
  have ran : ((recvMachine List.sum).script 16 (recvStart List.sum 0)
      ([⟨.success, []⟩, ⟨.success, []⟩] ++ frameReplies 9 1 ++ [⟨.success, []⟩])).map
        (fun result => (result.1.state?, result.1.data.context.result, result.1.data.context.transmitionType,
          receive result.1.data.context)) =
      some (none, true, .extendedLengthWithFrameDivision, .crashed) := by
    decide +kernel
  obtain ⟨⟨config, trace, rest⟩, ran, same⟩ := Option.map_eq_some_iff.mp ran
  simp only [Prod.mk.injEq] at same
  obtain ⟨ended, accepted, divided, crashed⟩ := same
  cases config with
  | running state loop receiving => cases ended
  | ended receiving => exact (claimed trace receiving (runs_of_script ran) accepted divided).2 crashed

end CpuCom.Uart.Protocol
