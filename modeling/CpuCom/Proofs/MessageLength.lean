import CpuCom.Interaction.Script
import CpuCom.Proofs.Reassembly

/-! How long a received message is. Its callers take the command, the sub-command
and the code bit from it unchecked. A frame that is accepted holds its header and
its trailer whole, so only a divided message of a single piece, which loses its
trailer twice, can come out shorter. -/

namespace CpuCom.Uart.Protocol
open Interaction FiniteStateMachine

variable {checksum : List UInt8 → UInt8}

def floor (context : RecvContext) : RecvState → Nat
  | .len => 1
  | .datacmd => 2
  | .dataextlen => 5
  | .dataframenumber => if context.transmitionType = .regular then 5 else 8
  | .data | .etx => 2 + headerLength context.transmitionType
  | .cs => 3 + headerLength context.transmitionType
  | .ack2 | .done => 4 + headerLength context.transmitionType
  | _ => 0

structure Stored (state : RecvState) (context : RecvContext) : Prop where
  current : floor context state ≤ context.currentFrame.length
  completed : ∀ frame ∈ context.completedFrames, 14 ≤ frame.length

structure Kept (context : RecvContext) : Prop where
  completed : ∀ frame ∈ context.completedFrames, 14 ≤ frame.length
  current : context.result = true → 4 + headerLength context.transmitionType ≤ context.currentFrame.length

/-- Every frame holds what its state has read, and every accepted frame is whole. -/
def Filled : RecvConfig → Prop
  | .running .end _ receiving => Kept receiving.context
  | .running state _ receiving => Stored state receiving.context
  | .ended receiving => Kept receiving.context

theorem Stored.restart {state : RecvState} {context : RecvContext} (none : floor context state = 0)
    (completed : ∀ frame ∈ context.completedFrames, 14 ≤ frame.length) : Stored state context :=
  ⟨none ▸ Nat.zero_le _, completed⟩

theorem Stored.store {state next : RecvState} {context : RecvContext} {bytes : List UInt8}
    (stored : Stored state context)
    (more : floor context next ≤ floor context state + bytes.length) : Stored next (context.store bytes) where
  current := by
    have current := stored.current
    have same : floor (context.store bytes) next = floor context next := rfl
    rw [same, RecvContext.store, List.length_append]
    omega
  completed := stored.completed

theorem setExtendedLength_extended (context : RecvContext) (length : Nat) :
    (context.setExtendedLength length).transmitionType ≠ .regular := by
  dsimp only [RecvContext.setExtendedLength]
  split
  · exact TransmitionType.noConfusion
  · exact TransmitionType.noConfusion

theorem Filled.completed {state : RecvState} {loop : Option UInt8} {receiving : Receiving}
    (filled : Filled (.running state loop receiving)) :
    ∀ frame ∈ receiving.context.completedFrames, 14 ≤ frame.length := by
  cases state with
  | «end» => exact Kept.completed filled
  | _ => exact Stored.completed filled

theorem filled_step {before after : RecvConfig} {trace : List (Call × Response)} (typed : Typed before)
    (filled : Filled before) (step : (recvMachine checksum).Step before trace after) : Filled after := by
  obtain ⟨state, loop, context, r1, rfl, move⟩ := recv_move step
  have completed := filled.completed
  cases move with
  | stx arrived code => exact filled.store (Nat.le_refl 1)
  | lenExtended arrived code => exact filled.store (Nat.le_refl 2)
  | @lenRegular _ reply arrived other atLeast atMost =>
    have longer : Stored .datacmd (context.store [reply.byte]) := filled.store (Nat.le_refl 2)
    exact ⟨longer.current, completed⟩
  | @datacmd _ reply arrived =>
    have three : (reply.fill kCmdLength).length = 3 := reply.length_fill _
    refine filled.store ?_
    rw [three]
    exact Nat.le_refl 5
  | @dataextlen _ reply extended arrived =>
    have three : (reply.fill kExtLenLength).length = 3 := reply.length_fill _
    have five : 5 ≤ context.currentFrame.length := filled.current
    refine ⟨?_, completed⟩
    rw [floor, if_neg (setExtendedLength_extended _ _)]
    dsimp only [RecvContext.setExtendedLength, RecvContext.store]
    rw [List.length_append, three]
    exact Nat.add_le_add_right five 3
  | dataextlenSkipped regular =>
    refine ⟨?_, completed⟩
    rw [floor, if_pos regular]
    exact filled.current
  | @dataframenumber _ reply divided arrived =>
    have four : (reply.fill (kFrameNumberLength + kTotalFramesLength)).length = 4 := reply.length_fill _
    have header : 8 ≤ context.currentFrame.length := by
      have current := Stored.current filled
      rwa [floor, divided, if_neg TransmitionType.noConfusion] at current
    refine ⟨?_, completed⟩
    dsimp only [floor, RecvContext.store]
    rw [divided, List.length_append, four]
    exact Nat.add_le_add_right header 4
  | dataframenumberSkipped undivided =>
    have current := Stored.current filled
    refine ⟨?_, completed⟩
    cases type : context.transmitionType with
    | notDefinedYet => exact absurd type (typed rfl)
    | regular => simpa [floor, type, headerLength, kCmdLength] using current
    | extendedLength => simpa [floor, type, headerLength, kCmdLength, kExtLenLength] using current
    | extendedLengthWithFrameDivision => exact absurd type undivided
  | data arrived => exact filled.store (Nat.le_add_right _ _)
  | etx arrived code =>
    refine filled.store ?_
    simp only [floor, List.length_singleton]
    omega
  | cs arrived right =>
    refine filled.store ?_
    simp only [floor, List.length_singleton]
    omega
  | ack2 accepted =>
    have stored : Stored .ack2 context := filled
    exact ⟨stored.current, completed⟩
  | whole whole => exact ⟨completed, fun _ => Stored.current filled⟩
  | piece divided more =>
    refine .restart rfl ?_
    intro frame member
    rcases List.mem_append.mp member with earlier | current
    · exact completed frame earlier
    · obtain rfl := List.mem_singleton.mp current
      have long := Stored.current filled
      rwa [floor, divided] at long
  | undefined unset => exact absurd unset (typed rfl)
  | error => exact ⟨completed, Bool.noConfusion⟩
  | finish unlocked => exact filled
  | _ => exact .restart rfl completed

theorem filled_run {r1 : Nat} {config : RecvConfig} {trace : List (Call × Response)}
    (run : (recvMachine checksum).Runs (recvStart checksum r1) trace config) : Typed config ∧ Filled config := by
  apply run.invariant
  · exact ⟨Bool.noConfusion, .restart rfl nofun⟩
  · intro trace middle more after ⟨typed, filled⟩ step _
    exact ⟨typed_step typed step, filled_step typed filled step⟩

theorem length_stripFrame (data : List UInt8) : (stripFrame data).length = data.length - 4 := by
  simp only [stripFrame, kStxLength, kLenLength, kCsLength, kEtxLength, List.length_take, List.length_drop]
  omega

theorem length_joinFrame_first {total : Nat} {data : List UInt8} {frame : Frame} (whole : 14 ≤ frame.length) :
    (joinFrame total 0 data frame).length = frame.length - 9 := by
  rw [joinFrame, if_pos rfl]
  simp only [kStxLength, kLenLength, kCmdLength, kExtLenLength, kFrameNumberLength, kTotalFramesLength, kCsLength,
    kEtxLength, List.length_take, List.length_append, List.length_drop]
  omega

/-- A frame behind the first adds its data, the last one also its trailer. -/
theorem length_joinFrame_later {total i : Nat} {data : List UInt8} {frame : Frame} (later : i ≠ 0)
    (whole : 14 ≤ frame.length) :
    data.length + (if i = sub32 total 1 then 2 else 0) ≤ (joinFrame total i data frame).length := by
  rw [joinFrame, if_neg later]
  simp only [kStxLength, kLenLength, kCmdLength, kExtLenLength, kFrameNumberLength, kTotalFramesLength, kCsLength,
    kEtxLength, List.length_take, List.length_append, List.length_drop]
  split <;> omega

/-- The loop has joined at least the header of the first frame, and behind the last
frame also the trailer that `receive` is going to strip. -/
theorem length_joinFrames {context : RecvContext} (whole : ∀ frame ∈ context.frames, 14 ≤ frame.length) {i : Nat}
    {data : List UInt8} (joined : joinFrames context (i + 1) = some data) :
    5 + (if i ≠ 0 ∧ i = sub32 context.totalFrames 1 then 2 else 0) ≤ data.length := by
  induction i generalizing data with
  | zero =>
    rw [joinFrames, joinFrames] at joined
    cases found : context.frames[0]? with
    | none => simp [found] at joined
    | some frame =>
      simp only [found, Option.some.injEq] at joined
      subst joined
      have long := whole frame (List.mem_of_getElem? found)
      rw [length_joinFrame_first long, if_neg (fun later => later.1 rfl)]
      omega
  | succ i ih =>
    rw [joinFrames] at joined
    cases earlier : joinFrames context (i + 1) with
    | none => simp [earlier] at joined
    | some bytes =>
      cases found : context.frames[i + 1]? with
      | none => simp [earlier, found] at joined
      | some frame =>
        simp only [earlier, found, Option.some.injEq] at joined
        subst joined
        have long := whole frame (List.mem_of_getElem? found)
        have before := ih earlier
        have added := @length_joinFrame_later context.totalFrames (i + 1) bytes frame (Nat.succ_ne_zero i) long
        simp only [ne_eq, Nat.succ_ne_zero, not_false_eq_true, true_and]
        omega

/-- A divided message whose total is one, and whose first frame carries less than
two bytes of data. -/
def SoleShort (context : RecvContext) : Prop :=
  context.transmitionType = .extendedLengthWithFrameDivision ∧ context.totalFrames = 1 ∧
    ∃ frame, context.frames[0]? = some frame ∧ frame.length < 16

/-- No frame is accepted as the last one of such a message. -/
def SolePieceFilled (before : RecvConfig) (_ : List (Call × Response)) (_ : RecvConfig) : Prop :=
  ∀ loop receiving, before = .running .done loop receiving → receiving.context.Whole → ¬ SoleShort receiving.context

theorem divided_length {context : RecvContext} {joined : List UInt8}
    (whole : ∀ frame ∈ context.frames, 14 ≤ frame.length)
    (divided : context.transmitionType = .extendedLengthWithFrameDivision) (positive : 0 < context.totalFrames)
    (small : context.totalFrames < 2 ^ 32) (found : joinFrames context context.totalFrames = some joined) :
    3 ≤ (stripFrame joined).length ↔ ¬ SoleShort context := by
  rw [length_stripFrame]
  by_cases one : context.totalFrames = 1
  · rw [one, joinFrames, joinFrames] at found
    cases first : context.frames[0]? with
    | none => simp [first] at found
    | some frame =>
      have long := whole frame (List.mem_of_getElem? first)
      simp only [first, Option.some.injEq] at found
      subst found
      rw [length_joinFrame_first long]
      have short : SoleShort context ↔ frame.length < 16 := by
        simp [SoleShort, divided, one, first]
      rw [short]
      omega
  · obtain ⟨i, count⟩ : ∃ i, context.totalFrames = i + 2 := ⟨context.totalFrames - 2, by omega⟩
    rw [count] at found
    have joins := length_joinFrames whole found
    have last : i + 1 = sub32 context.totalFrames 1 := by
      rw [sub32_of_le positive small]
      omega
    rw [if_pos ⟨Nat.succ_ne_zero i, last⟩] at joins
    have several : ¬ SoleShort context := fun short => one short.2.1
    simp only [several, not_false_eq_true, iff_true]
    omega

/-- A message is returned with its three header bytes unless it is a short sole piece. -/
theorem length_received {context : RecvContext} {data : List UInt8} (kept : Kept context)
    (last : context.result = true → context.transmitionType = .extendedLengthWithFrameDivision →
      Carries context ∧ context.frameNumber = sub32 context.totalFrames 1)
    (received : receive context = .message data) : 3 ≤ data.length ↔ ¬ SoleShort context := by
  by_cases accepted : context.result = true
  · have long := kept.current accepted
    by_cases divided : context.transmitionType = .extendedLengthWithFrameDivision
    · obtain ⟨carries, number⟩ := last accepted divided
      obtain ⟨_, joined, found, rfl⟩ := total_le_of_received divided received
      have small : context.totalFrames < 65536 := carries.total ▸ decode16_lt _
      refine divided_length ?_ divided (positive_total carries number) (by omega) found
      intro frame member
      rcases List.mem_append.mp member with earlier | current
      · exact kept.completed frame earlier
      · obtain rfl := List.mem_singleton.mp current
        rwa [divided] at long
    · have other : ¬ SoleShort context := fun short => divided short.1
      simp only [other, not_false_eq_true, iff_true]
      rw [receive, if_pos accepted] at received
      cases type : context.transmitionType with
      | extendedLengthWithFrameDivision => exact absurd type divided
      | extendedLength =>
        simp only [type, Received.message.injEq] at received
        simp only [type, headerLength, kCmdLength, kExtLenLength] at long
        subst received
        simp only [length_stripFrame, kStxLength, kLenLength, kCmdLength, kExtLenLength, List.length_append,
          List.length_take, List.length_drop]
        omega
      | regular =>
        simp only [type, Received.message.injEq] at received
        simp only [type, headerLength, kCmdLength] at long
        subst received
        rw [length_stripFrame]
        omega
      | notDefinedYet =>
        simp only [type, Received.message.injEq] at received
        simp only [type, headerLength, kCmdLength, kExtLenLength, kFrameNumberLength, kTotalFramesLength] at long
        subst received
        rw [length_stripFrame]
        omega
  · rw [receive, if_neg accepted] at received
    cases received

/-- In a run that accepts no short sole piece no such message is left at the end. -/
def NoSoleShort : RecvConfig → Prop
  | .running .end _ receiving => receiving.context.result = true → ¬ SoleShort receiving.context
  | .running _ _ _ => True
  | .ended receiving => receiving.context.result = true → ¬ SoleShort receiving.context

theorem noSoleShort_run {r1 : Nat} {config : RecvConfig} {trace : List (Call × Response)}
    (run : (recvMachine checksum).Run SolePieceFilled (recvStart checksum r1) trace config) : NoSoleShort config := by
  have invariant : Typed config ∧ NoSoleShort config := by
    apply run.invariant
    · exact ⟨Bool.noConfusion, trivial⟩
    · intro trace middle more after ⟨typed, kept⟩ step filled
      refine ⟨typed_step typed step, ?_⟩
      obtain ⟨state, loop, context, r1, rfl, move⟩ := recv_move step
      cases move with
      | whole whole =>
        intro _ short
        exact filled loop ⟨context, r1⟩ rfl whole short
      | undefined unset => exact absurd unset (typed rfl)
      | error => exact Bool.noConfusion
      | finish unlocked => exact kept
      | _ => trivial
  exact invariant.2

/-- What a receive returns has its three header bytes exactly in the runs that
accept no short sole piece. -/
theorem header_received_iff {r1 : Nat} {receiving : Receiving} {trace : List (Call × Response)} {data : List UInt8}
    (run : (recvMachine checksum).Runs (recvStart checksum r1) trace (.ended receiving))
    (received : receive receiving.context = .message data) :
    3 ≤ data.length ↔ (recvMachine checksum).Run SolePieceFilled (recvStart checksum r1) trace (.ended receiving) := by
  have kept : Kept receiving.context := (filled_run run).2
  have assembled : Assembling .end receiving.context := assembled_run run
  rw [length_received kept assembled.known received]
  constructor
  · intro filled
    apply run.meet (.refl _)
    intro earlier later passed more left _ step continued loop before same whole short
    subst same
    obtain ⟨state, loop', context, r1', same, move⟩ := recv_move step
    cases same
    cases move with
    | whole _ =>
      obtain rfl := end_kept continued
      exact filled short
    | piece divided more =>
      obtain ⟨divided, one, _⟩ := short
      rcases whole with regular | extended | ⟨_, last⟩
      · cases divided.symm.trans regular
      · cases divided.symm.trans extended
      · exact more last
    | undefined unset => cases short.1.symm.trans unset
    | rejected reads denied => cases reads
    | failed reads notLast failed => cases reads
  · intro filled
    have none : NoSoleShort (.ended receiving) := noSoleShort_run filled
    refine none ?_
    by_contra refused
    rw [receive, if_neg refused] at received
    cases received

/-- A regular message without data. -/
theorem header_received_regular : ∃ trace receiving data,
    (recvMachine List.sum).Runs (recvStart List.sum 0) trace (.ended receiving) ∧
      receive receiving.context = .message data ∧ (3 ≤ data.length ↔
        (recvMachine List.sum).Run SolePieceFilled (recvStart List.sum 0) trace (.ended receiving)) := by
  let ok : Response := ⟨.success, []⟩
  have ran : ((recvMachine List.sum).script 20 (recvStart List.sum 0) [ok, ok, ⟨.success, [ControlCode.enq]⟩,
      ⟨.timeout, []⟩, ok, ⟨.success, [2]⟩, ⟨.success, [5]⟩, ⟨.success, [1, 2, 3]⟩, ok, ⟨.success, [3]⟩,
        ⟨.success, [14]⟩,
      ok, ok]).map (fun result => result.1) =
        some (.ended ⟨⟨[], [2, 5, 1, 2, 3, 3, 14], true, .regular, 3, 0, 0⟩, 0⟩) := by
    decide +kernel
  obtain ⟨⟨config, trace, rest⟩, scripted, rfl⟩ := Option.map_eq_some_iff.mp ran
  have run := runs_of_script scripted
  exact ⟨trace, _, [1, 2, 3], run, rfl, header_received_iff run rfl⟩

/-- The first attempt is given up after its length, which makes the form of the
message a divided one. The second attempt brings the only frame of a divided
message without data. -/
theorem header_lost :
    ¬ ∀ r1 trace receiving data, (recvMachine List.sum).Runs (recvStart List.sum r1) trace (.ended receiving) →
      receive receiving.context = .message data → 3 ≤ data.length := by
  intro claimed
  let ok : Response := ⟨.success, []⟩
  let silent : Response := ⟨.timeout, []⟩
  let header (length : List UInt8) : List Response :=
    [ok, ok, ⟨.success, [ControlCode.enq]⟩, silent, ok, ⟨.success, [ControlCode.stx]⟩, ⟨.success, [ControlCode.extLen]⟩,
      ⟨.success, [1, 2, 3]⟩, ⟨.success, length⟩]
  have ran : ((recvMachine List.sum).script 40 (recvStart List.sum 0) (header [0, 4, 9] ++ [silent, ok, ok] ++
      header [0, 0, 12] ++ [⟨.success, [0, 0, 0, 1]⟩, ok, ⟨.success, [ControlCode.etx]⟩,
        ⟨.success, [ControlCode.extLen + 22]⟩, ok, ok])).map (fun result => result.1) =
        some (.ended ⟨⟨[], [2, ControlCode.extLen, 1, 2, 3, 0, 0, 12, 0, 0, 0, 1, 3, ControlCode.extLen + 22], true,
          .extendedLengthWithFrameDivision, 10, 0, 1⟩, 1⟩) := by
    decide +kernel
  obtain ⟨⟨config, trace, rest⟩, scripted, rfl⟩ := Option.map_eq_some_iff.mp ran
  have short := claimed 0 trace _ [1] (runs_of_script scripted) rfl
  exact absurd short (by decide)

end CpuCom.Uart.Protocol
