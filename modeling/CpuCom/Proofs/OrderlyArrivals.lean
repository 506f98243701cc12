import CpuCom.Proofs.Arrivals
import CpuCom.Proofs.DividedMessage
import CpuCom.Proofs.SendOrder
import CpuCom.Proofs.SingleFrame

/-! Receives from a peer whose acknowledgements may be lost. A receive stores divided
frames in the order of their arrival, so it returns what the peer was asked to send
as long as each of them arrives behind the frames before it. -/

namespace CpuCom.Uart.Protocol
open Interaction FiniteStateMachine

section
variable (checksum : List UInt8 → UInt8) (messages : List (List UInt8))

/-- The arrivals in order for a receive that has stored these frames after that many
rejected attempts. A regular frame is always welcome, an extended one where nothing
is stored, and a divided one where exactly the frames before it are stored. Five
enquiries without a frame end a receive, and the next one starts with nothing stored. -/
inductive Orderly : List Frame → Nat → List Arrival → Prop where
  | nothing {stored r1} : Orderly stored r1 []
  | unanswered {stored r1 rest} (left : r1 + 1 < kMaxNumberOfRecvAttempts) (more : Orderly stored (r1 + 1) rest) :
      Orderly stored r1 (.enquiry :: rest)
  | givenUp {stored r1 rest} (spent : ¬ r1 + 1 < kMaxNumberOfRecvAttempts) (more : Orderly [] 0 rest) :
      Orderly stored r1 (.enquiry :: rest)
  | denial {stored r1 rest} (more : Orderly stored r1 rest) : Orderly stored r1 (.denial :: rest)
  | regular {stored r1 rest data} (asked : data ∈ messages) (atLeast : 3 ≤ data.length) (atMost : data.length ≤ 251)
      (more : Orderly [] 0 rest) : Orderly stored r1 (.frame (regularFrame checksum data) :: rest)
  | extended {r1 rest data} (asked : data ∈ messages) (atLeast : 251 < data.length) (atMost : data.length ≤ 1027)
      (more : Orderly [] 0 rest) : Orderly [] r1 (.frame (extendedLengthFrame checksum data) :: rest)
  | piece {stored r1 rest data frame next later} (asked : data ∈ messages) (long : 1031 ≤ data.length)
      (fits : (data.length - 3 + 1023) / 1024 ≤ 65535)
      (frames : prepareFrames checksum data = stored ++ frame :: next :: later)
      (more : Orderly (stored ++ [frame]) r1 rest) : Orderly stored r1 (.frame frame :: rest)
  | last {stored r1 rest data frame} (asked : data ∈ messages) (long : 1031 ≤ data.length)
      (fits : (data.length - 3 + 1023) / 1024 ≤ 65535) (frames : prepareFrames checksum data = stored ++ [frame])
      (more : Orderly [] 0 rest) : Orderly stored r1 (.frame frame :: rest)

end

structure Holding (stored : List Frame) (context : RecvContext) : Prop where
  completed : context.completedFrames = stored
  empty : context.currentFrame = []
  form : stored = [] ∧ context.transmitionType = .notDefinedYet ∨
    stored ≠ [] ∧ context.transmitionType = .extendedLengthWithFrameDivision

/-- The line as a poll sees it. -/
def quiet (line : List Symbol) : List Symbol := line.dropWhile (· = .silence)

/-- The receive waits for these arrivals, at a poll or after a stored frame. A poll
may come when some of the silence before them has passed. -/
inductive Ready (stored : List Frame) (r1 : Nat) (arrivals : List Arrival) : RecvConfig × List Symbol → Prop where
  | poll {context line} (holding : Holding stored context) (same : quiet line = quiet (Arrival.line arrivals)) :
      Ready stored r1 arrivals (.running .poll none ⟨context, r1⟩, line)
  | enquiry {context} (holding : Holding stored context) :
      Ready stored r1 arrivals (.running .enquiry none ⟨context, r1⟩, Arrival.line arrivals)

variable {checksum : List UInt8 → UInt8} {messages : List (List UInt8)} {stored : List Frame} {r1 : Nat}
  {arrivals : List Arrival} {context : RecvContext} {line : List Symbol}

theorem Holding.notRegular (holding : Holding stored context) : context.transmitionType ≠ .regular := by
  rcases holding.form with ⟨_, type⟩ | ⟨_, type⟩ <;> rw [type] <;> exact TransmitionType.noConfusion

theorem Holding.undivided (holding : Holding [] context) :
    context.transmitionType ≠ .extendedLengthWithFrameDivision := by
  rcases holding.form with ⟨_, type⟩ | ⟨some, _⟩
  · rw [type]
    exact TransmitionType.noConfusion
  · exact absurd rfl some

theorem flagged_short {data : List UInt8} (short : data.length ≤ 1030) : flagged data = data :=
  if_neg (Nat.not_lt_of_le short)

theorem line_cons (arrival : Arrival) (arrivals : List Arrival) :
    ∃ code rest, Arrival.line (arrival :: arrivals) = .silence :: .byte code :: rest := by
  cases arrival with
  | enquiry => exact ⟨_, _, rfl⟩
  | denial => exact ⟨_, _, rfl⟩
  | frame bytes => exact ⟨_, _, rfl⟩

private theorem start_to_poll (r1 : Nat) (line : List Symbol) :
    (recvMachine checksum).ReachesOn Link.answer (recvStart checksum r1, line)
    (.running .poll none ⟨.initial, 0⟩, line) := by
  change (recvMachine checksum).ReachesOn Link.answer (.running .idle none ⟨.initial, r1⟩, line) _
  exact recv_step .poll ⟨.initial, 0⟩ rfl rfl (by decide) .refl

private theorem poll_to_enquiry {code : UInt8} {rest : List Symbol} (first : quiet line = .byte code :: rest) :
    (recvMachine checksum).ReachesOn Link.answer (.running .poll none ⟨context, r1⟩, line)
      (.running .enquiry none ⟨context, r1⟩, .byte code :: rest) := by
  have polled : (recvHandler checksum .poll none ⟨context, r1⟩).runOn Link.answer line =
      some ((⟨context, r1⟩, .event .pass), .byte code :: rest) := by
    unfold quiet at first
    simp [recvHandler, signal, recvPoll, Program.runOn, Link.answer, first]
  exact recv_step .enquiry _ polled rfl (by decide) .refl

private theorem poll_waits (nothing : quiet line = []) :
    (recvMachine checksum).stepOn Link.answer (.running .poll none ⟨context, r1⟩, line) = none := by
  have waiting : (recvHandler checksum .poll none ⟨context, r1⟩).runOn Link.answer line = none := by
    unfold quiet at nothing
    simp [recvHandler, signal, recvPoll, Program.runOn, Link.answer, nothing]
  rw [stepOn_running]
  exact congrArg (Option.map _) waiting

/-- Silence where an enquiry is expected gives the lock away until the next byte. -/
private theorem silence_to_enquiry {code : UInt8} {rest : List Symbol} :
    (recvMachine checksum).ReachesOn Link.answer
      (.running .enquiry none ⟨context, r1⟩, .silence :: .byte code :: rest)
      (.running .enquiry none ⟨context, r1⟩, .byte code :: rest) := by
  refine recv_step .repoll _ rfl rfl (by decide) ?_
  refine recv_step .poll _ rfl rfl (by decide) ?_
  exact poll_to_enquiry rfl

theorem Ready.to_enquiry {arrival : Arrival} {start : RecvConfig × List Symbol}
    (ready : Ready stored r1 (arrival :: arrivals) start) :
    ∃ context, Holding stored context ∧ (recvMachine checksum).ReachesOn Link.answer start
      (.running .enquiry none ⟨context, r1⟩, (Arrival.line (arrival :: arrivals)).tail) := by
  obtain ⟨code, rest, shape⟩ := line_cons arrival arrivals
  cases ready with
  | @poll context line holding same =>
    rw [shape] at same ⊢
    exact ⟨context, holding, poll_to_enquiry same⟩
  | @enquiry context holding =>
    rw [shape]
    exact ⟨context, holding, silence_to_enquiry⟩

private theorem unanswered_to_stx :
    (recvMachine checksum).ReachesOn Link.answer
      (.running .enquiry none ⟨context, r1⟩, .byte ControlCode.enq :: .silence :: line)
      (.running .stx none ⟨context, r1⟩, line) := by
  refine .step (stepOn_again rfl) ?_
  refine recv_step .ack _ rfl rfl (by decide) ?_
  exact recv_step .stx _ rfl rfl (by decide) .refl

private theorem stx_to_retry :
    (recvMachine checksum).ReachesOn Link.answer (.running .stx none ⟨context, r1⟩, .silence :: line)
      (.running .retry none ⟨context, r1⟩, line) := by
  refine recv_step .nak _ rfl rfl (by decide) ?_
  exact recv_step .retry _ rfl rfl (by decide) .refl

/-- An enquiry without a frame is given up in the silence before the next code. At
the end of the line there is no such silence, and the receive waits. -/
private theorem Ready.to_retry {start : RecvConfig × List Symbol} {receiving : Receiving} {rest : List Symbol}
    (ready : Ready stored r1 (.enquiry :: arrivals) start)
    (ends : (recvMachine checksum).ReachesOn Link.answer start (.ended receiving, rest)) :
    ∃ context line, Holding stored context ∧ quiet line = quiet (Arrival.line arrivals) ∧
      (recvMachine checksum).ReachesOn Link.answer (.running .retry none ⟨context, r1⟩, line)
      (.ended receiving, rest) := by
  obtain ⟨context, holding, reached⟩ := @Ready.to_enquiry checksum _ _ _ _ _ ready
  have waiting := ends.to_end (reached.trans unanswered_to_stx)
  cases arrivals with
  | nil => cases ReachesOn.of_stuck rfl waiting
  | cons arrival arrivals =>
    obtain ⟨code, rest, shape⟩ := line_cons arrival arrivals
    change (recvMachine checksum).ReachesOn Link.answer (_, Arrival.line (arrival :: arrivals)) _ at waiting
    rw [shape] at waiting ⊢
    exact ⟨context, .byte code :: rest, holding, rfl, waiting.to_end stx_to_retry⟩

private theorem retry_to_poll (left : r1 + 1 < kMaxNumberOfRecvAttempts) :
    (recvMachine checksum).ReachesOn Link.answer (.running .retry none ⟨context, r1⟩, line)
      (.running .poll none ⟨{ context with currentFrame := [] }, r1 + 1⟩, line) := by
  have retried : (recvHandler checksum .retry none ⟨context, r1⟩).runOn Link.answer line =
      some ((⟨{ context with currentFrame := [] }, r1 + 1⟩, .event .pass), line) := by
    simp [recvHandler, once, recvRetry, left]
  refine recv_step .repoll _ retried rfl (by decide) ?_
  exact recv_step .poll _ rfl rfl (by decide) .refl

private theorem retry_to_end (spent : ¬ r1 + 1 < kMaxNumberOfRecvAttempts) :
    ∃ receiving, (recvMachine checksum).ReachesOn Link.answer (.running .retry none ⟨context, r1⟩, line)
      (.ended receiving, line) ∧ receive receiving.context = .nothing := by
  have retried : (recvHandler checksum .retry none ⟨context, r1⟩).runOn Link.answer line =
      some ((⟨{ context with currentFrame := [] }, r1 + 1⟩, .event .fail), line) := by
    simp [recvHandler, once, recvRetry, spent]
  refine ⟨⟨{ context with currentFrame := [], result := false }, r1 + 1⟩, ?_, rfl⟩
  refine recv_step .error _ retried rfl (by decide) ?_
  refine recv_step .end _ rfl rfl (by decide) ?_
  exact .step (@stepOn_final _ _ _ _ _ _ _ _ (recvMachine checksum) Link.answer none _ _ .pass _ _ rfl) .refl

private theorem denial_to_poll :
    (recvMachine checksum).ReachesOn Link.answer
      (.running .enquiry none ⟨context, r1⟩, .byte ControlCode.nak :: .silence :: line)
      (.running .poll none ⟨context, r1⟩, line) := by
  refine .step (stepOn_again rfl) ?_
  refine recv_step .repoll _ rfl rfl (by decide) ?_
  exact recv_step .poll _ rfl rfl (by decide) .refl

private theorem Divides.count {data : List UInt8} {frame : Frame} {later : List Frame}
    {command subCommand codebit : UInt8} {first : List UInt8} {parts : List (UInt8 × List UInt8)}
    (divides : Divides checksum data command subCommand codebit first parts)
    (frames : prepareFrames checksum data = stored ++ frame :: later) :
    stored.length + later.length = parts.length := by
  have lengths := congrArg List.length frames
  rw [divides.frames, length_numberedFrames, List.length_append, List.length_cons, List.length_cons] at lengths
  omega

/-- A frame of a divided message that arrives behind the frames before it is stored
under its own number. -/
private theorem next_delivered {data : List UInt8} {frame : Frame} {later : List Frame}
    {command subCommand codebit : UInt8}
    {first : List UInt8} {parts : List (UInt8 × List UInt8)} (holding : Holding stored context)
    (divides : Divides checksum data command subCommand codebit first parts)
    (frames : prepareFrames checksum data = stored ++ frame :: later) :
    ∃ after, (recvMachine checksum).ReachesOn Link.answer
        (.running .enquiry none ⟨context, r1⟩, Link.frameSymbols frame ++ line)
        (.running .done none ⟨after, r1⟩, line) ∧
      after.completedFrames = stored ∧ after.currentFrame = frame ∧
      after.transmitionType = .extendedLengthWithFrameDivision ∧ after.frameNumber = stored.length ∧
      after.totalFrames = parts.length + 1 := by
  have few := divides.few
  have count := divides.count frames
  have found : (prepareFrames checksum data)[stored.length]? = some frame := by
    rw [frames, List.getElem?_append_right (Nat.le_refl _), Nat.sub_self, List.getElem?_cons_zero]
  rw [divides.frames, getElem?_numberedFrames] at found
  obtain ⟨part, member, rfl⟩ := Option.map_eq_some_iff.mp found
  have short := divides.bounded part (List.mem_of_getElem? member)
  have divided : context.transmitionType = .extendedLengthWithFrameDivision ∨ 1032 < part.2.length + 12 := by
    rcases holding.form with ⟨rfl, _⟩ | ⟨_, already⟩
    · obtain rfl := Option.some.inj member
      exact .inr (by rw [divides.full]; decide)
    · exact .inl already
  have delivered :=
    divided_delivered checksum context r1 line holding.empty command subCommand part.1 (0 + stored.length)
    (parts.length + 1) part.2 rfl holding.notRegular divided (by omega)
  refine ⟨_, delivered, holding.completed, rfl, rfl, ?_, ?_⟩
  · change (0 + stored.length) % 65536 = _
    omega
  · change (parts.length + 1) % 65536 = _
    omega

theorem piece_kept {data : List UInt8} {frame next : Frame} {later : List Frame} (holding : Holding stored context)
    (long : 1031 ≤ data.length) (fits : (data.length - 3 + 1023) / 1024 ≤ 65535)
    (frames : prepareFrames checksum data = stored ++ frame :: next :: later) :
    ∃ after, Holding (stored ++ [frame]) after ∧ (recvMachine checksum).ReachesOn Link.answer
      (.running .enquiry none ⟨context, r1⟩, Link.frameSymbols frame ++ line)
      (.running .enquiry none ⟨after, r1⟩, line) := by
  obtain ⟨command, subCommand, codebit, first, parts, divides⟩ := exists_divides checksum long fits
  obtain ⟨after, delivered, completed, current, type, number, total⟩ := next_delivered holding divides frames
  have few := divides.few
  have count := divides.count frames
  rw [List.length_cons] at count
  have unfinished : ¬ after.frameNumber = sub32 after.totalFrames 1 := by
    rw [number, total, sub32_of_le (by omega) (by omega)]
    omega
  have continued : (recvHandler checksum .done none ⟨after, r1⟩).runOn Link.answer line =
      some ((⟨after.onFrameCompleted, r1⟩, .event .wait), line) := by
    simp [recvHandler, onContext, recvDone, type, unfinished]
  refine ⟨after.onFrameCompleted, ⟨?_, rfl, .inr ⟨List.concat_ne_nil _ _, type⟩⟩,
    delivered.trans (recv_step .enquiry _ continued rfl (by decide) .refl)⟩
  change after.completedFrames ++ [after.currentFrame] = _
  rw [completed, current]

theorem last_completes {data : List UInt8} {frame : Frame} (holding : Holding stored context)
    (long : 1031 ≤ data.length) (fits : (data.length - 3 + 1023) / 1024 ≤ 65535)
    (frames : prepareFrames checksum data = stored ++ [frame]) :
    ∃ receiving, (recvMachine checksum).ReachesOn Link.answer
        (.running .enquiry none ⟨context, r1⟩, Link.frameSymbols frame ++ line) (.ended receiving, line) ∧
      receive receiving.context = .message (flagged data) := by
  obtain ⟨command, subCommand, codebit, first, parts, divides⟩ := exists_divides checksum long fits
  obtain ⟨after, delivered, completed, current, type, number, total⟩ := next_delivered holding divides frames
  have few := divides.few
  have count := divides.count frames
  rw [List.length_nil] at count
  have finished : recvDone after = .pure ({ after with result := true }, .pass) := by
    have last : stored.length = sub32 (parts.length + 1) 1 := by
      rw [sub32_of_le (by omega) (by omega)]
      omega
    simp [recvDone, type, total, number, ← last]
  have whole : after.frames = numberedFrames checksum command subCommand (parts.length + 1) 0
      ((codebit, first) :: parts) := by
    rw [← divides.frames, frames, RecvContext.frames, completed, current]
  have content : flagged data = command :: subCommand :: codebit :: (first ++ parts.flatMap Prod.snd) := by
    rw [← divides.content]
    exact if_pos (Nat.lt_of_lt_of_le (by decide) long)
  refine ⟨_, delivered.trans (done_to_end checksum r1 line finished), ?_⟩
  rw [content]
  exact receive_numbered checksum rfl type total divides.several (by omega) whole

/-- No message comes out of the receive but one that was asked for, and the line it
leaves begins where the next receive expects it to. -/
def Faithful (checksum : List UInt8 → UInt8) (messages : List (List UInt8)) (result : Received (List UInt8))
    (rest : List Symbol) : Prop :=
  (∀ data, result = .message data → ∃ asked ∈ messages, data = flagged asked) ∧
    ∃ later, Orderly checksum messages [] 0 later ∧ quiet rest = quiet (Arrival.line later)

private theorem faithful_message {start : RecvConfig × List Symbol} {receiving after : Receiving} {rest : List Symbol}
    {asked : List UInt8} (ends : (recvMachine checksum).ReachesOn Link.answer start (.ended receiving, rest))
    (completes : (recvMachine checksum).ReachesOn Link.answer start (.ended after, Arrival.line arrivals))
    (received : receive after.context = .message (flagged asked)) (member : asked ∈ messages)
    (more : Orderly checksum messages [] 0 arrivals) : Faithful checksum messages (receive receiving.context) rest := by
  obtain ⟨rfl, rfl⟩ := ends.ended_unique completes
  refine ⟨?_, arrivals, more, rfl⟩
  intro data same
  rw [received] at same
  cases same
  exact ⟨asked, member, rfl⟩

/-- A receive that has stored frames in order goes on to the end of the arrivals or
returns a message that was asked for. -/
theorem orderly_received {receiving : Receiving} {rest : List Symbol}
    (orderly : Orderly checksum messages stored r1 arrivals) :
    ∀ {start}, Ready stored r1 arrivals start →
      (recvMachine checksum).ReachesOn Link.answer start (.ended receiving, rest) →
      Faithful checksum messages (receive receiving.context) rest := by
  induction orderly with
  | nothing =>
    intro start ready ends
    cases ready with
    | poll holding same => cases ReachesOn.of_stuck (poll_waits same) ends
    | enquiry holding => cases ReachesOn.of_stuck rfl ends
  | unanswered left more ih =>
    intro start ready ends
    obtain ⟨context, line, holding, same, retrying⟩ := ready.to_retry ends
    refine ih (.poll ?_ same) (retrying.to_end (retry_to_poll left))
    exact ⟨holding.completed, rfl, holding.form⟩
  | givenUp spent more ih =>
    intro start ready ends
    obtain ⟨context, line, holding, same, retrying⟩ := ready.to_retry ends
    obtain ⟨after, ended, nothing⟩ := retry_to_end spent
    obtain ⟨rfl, rfl⟩ := retrying.ended_unique ended
    refine ⟨?_, _, more, same⟩
    intro data received
    rw [nothing] at received
    cases received
  | denial more ih =>
    intro start ready ends
    obtain ⟨context, holding, reached⟩ := ready.to_enquiry
    exact ih (.poll holding rfl) (ends.to_end (reached.trans denial_to_poll))
  | @regular _ _ _ data asked atLeast atMost more ih =>
    intro start ready ends
    obtain ⟨context, holding, reached⟩ := ready.to_enquiry
    obtain ⟨after, ended, received⟩ := regular_completes checksum _ _ holding.empty atLeast atMost
    rw [← @flagged_short data (by omega)] at received
    exact faithful_message ends (reached.trans ended) received asked more
  | @extended _ _ data asked atLeast atMost more ih =>
    intro start ready ends
    obtain ⟨context, holding, reached⟩ := ready.to_enquiry
    obtain ⟨after, ended, received⟩ := extended_completes checksum _ _ holding.empty holding.notRegular
      holding.undivided (by omega) atMost
    rw [← @flagged_short data (by omega)] at received
    exact faithful_message ends (reached.trans ended) received asked more
  | piece asked long fits frames more ih =>
    intro start ready ends
    obtain ⟨context, holding, reached⟩ := ready.to_enquiry
    obtain ⟨after, holding, kept⟩ := piece_kept holding long fits frames
    exact ih (.enquiry holding) (ends.to_end (reached.trans kept))
  | last asked long fits frames more ih =>
    intro start ready ends
    obtain ⟨context, holding, reached⟩ := ready.to_enquiry
    obtain ⟨after, ended, received⟩ := last_completes holding long fits frames
    exact faithful_message ends (reached.trans ended) received asked more

theorem orderly_receives {line last : List Symbol} {results : List (Received (List UInt8))}
    (receives : Receives checksum line results last) :
    ∀ {arrivals}, Orderly checksum messages [] 0 arrivals → quiet line = quiet (Arrival.line arrivals) →
      ∀ data, .message data ∈ results → ∃ asked ∈ messages, data = flagged asked := by
  induction receives with
  | none =>
    intro arrivals orderly same data member
    cases member
  | @next r1 line result rest results last received more ih =>
    intro arrivals orderly same data member
    obtain ⟨receiving, ended, rfl⟩ := received
    have polled := ended.to_end (start_to_poll r1 line)
    obtain ⟨asked, later, orderly, rest⟩ := orderly_received orderly (.poll ⟨rfl, rfl, .inl ⟨rfl, rfl⟩⟩ same) polled
    rcases List.mem_cons.mp member with first | later
    · exact asked data first.symm
    · exact ih orderly rest data later

/-- No message is made up by the receives from a peer, whatever it reads as answers,
as long as its arrivals are in order. -/
theorem received_messages_asked {calls : List (Call × Response)} {results : List (Received (List UInt8))}
    {rest : List Symbol} (peer : Peer checksum messages calls)
    (orderly : Orderly checksum messages [] 0 (CpuCom.Uart.arrivals calls))
    (receives : Receives checksum (Link.filled calls) results rest) :
    ∀ data, .message data ∈ results → ∃ asked ∈ messages, data = flagged asked :=
  orderly_receives receives orderly (congrArg quiet (filled_arrivals peer))

private theorem first_enquiry (r1 : Nat) (arrival : Arrival) (arrivals : List Arrival) :
    ∃ context, Holding [] context ∧ (recvMachine checksum).ReachesOn Link.answer
      (recvStart checksum r1, Arrival.line (arrival :: arrivals))
      (.running .enquiry none ⟨context, 0⟩, (Arrival.line (arrival :: arrivals)).tail) := by
  have ready : Ready [] 0 (arrival :: arrivals)
      (.running .poll none ⟨.initial, 0⟩, Arrival.line (arrival :: arrivals)) := .poll ⟨rfl, rfl, .inl ⟨rfl, rfl⟩⟩ rfl
  obtain ⟨context, holding, reached⟩ := @Ready.to_enquiry checksum _ _ _ _ _ ready
  exact ⟨context, holding, (start_to_poll r1 _).trans reached⟩

/-- The acknowledgement of the first enquiry is lost. -/
private theorem first_enquiry_repeated (first last : Frame) :
    ∃ calls sending, sendMachine.Runs (.running .idle () ⟨⟨[first, last], 0, false⟩, 0⟩) calls (.ended sending) ∧
      CpuCom.Uart.arrivals calls = [.enquiry, .frame first, .frame last] := by
  let ok : Response := ⟨.success, []⟩
  let silent : Response := ⟨.timeout, []⟩
  let ack : Response := ⟨.success, [ControlCode.ack]⟩
  have lost : sendMachine.script 6 (.running .idle () ⟨⟨[first, last], 0, false⟩, 0⟩) [ok, silent, ok, silent, ok, ok] =
      some (.running .reenquiry () ⟨⟨[first, last], 0, false⟩, 1⟩,
        [(.lock, ok), (.read .immediate, silent), (.writeByte ControlCode.enq, ok), (.read kTimeout3, silent),
          (.unlock, ok), (.lock, ok)], []) := by
    with_unfolding_all rfl
  have acknowledged : sendMachine.script 4 (.running .reenquiry () ⟨⟨[first, last], 0, false⟩, 1⟩)
      [silent, ok, ack, ok, ack] = some (.running .done () ⟨⟨[first, last], 0, false⟩, 1⟩,
        [(.read .immediate, silent), (.writeByte ControlCode.enq, ok), (.read kTimeout3, ack), (.write first, ok),
          (.read kTimeout3, ack)], []) := by
    with_unfolding_all rfl
  exact ⟨_, _, ((((runs_of_script lost).append (runs_of_script acknowledged)).append
    (runs_of_script (first_frame_done first last 1))).append
    (runs_of_script (last_frame_acknowledged first last 1))).append
    (runs_of_script (last_frame_done first last 1)), rfl⟩

/-- A divided message whose first enquiry is repeated. -/
theorem divided_message_asked : ∃ data calls results rest, Peer List.sum [data] calls ∧
    Receives List.sum (Link.filled calls) results rest ∧ .message (flagged data) ∈ results ∧
    ∀ other, .message other ∈ results → ∃ asked ∈ [data], other = flagged asked := by
  obtain ⟨payload, length⟩ : ∃ payload : List UInt8, payload.length = 1028 :=
    ⟨List.replicate 1028 0, List.length_replicate⟩
  obtain ⟨first, frames⟩ := prepareFrames_two length
  generalize extendedLengthFrame List.sum (0 :: 0 :: 3 :: 0 :: 1 :: 0 :: 2 :: payload.drop 1024) = last at frames
  have long : 1031 ≤ (0 :: 0 :: 0 :: payload).length := by simp [length]
  have fits : ((0 :: 0 :: 0 :: payload).length - 3 + 1023) / 1024 ≤ 65535 := by simp [length]
  generalize 0 :: 0 :: 0 :: payload = data at frames long fits
  obtain ⟨calls, sending, run, arrived⟩ := first_enquiry_repeated first last
  rw [← frames] at run
  have peer := Peer.sent run (@Peer.idle List.sum)
  rw [List.append_nil] at peer
  obtain ⟨context, nothing, began⟩ := @first_enquiry List.sum 0 .enquiry [.frame first, .frame last]
  have again : Ready [] 1 [.frame first, .frame last] (.running .poll none ⟨{ context with currentFrame := [] }, 1⟩,
      (Arrival.line [.frame first, .frame last]).tail) :=
    .poll ⟨nothing.completed, rfl, nothing.form⟩ rfl
  obtain ⟨context, nothing, enquired⟩ := @Ready.to_enquiry List.sum _ _ _ _ _ again
  obtain ⟨after, one, kept⟩ := piece_kept nothing long fits frames
  obtain ⟨context, one, continued⟩ := @Ready.to_enquiry List.sum _ _ [] (.frame last) _ (.enquiry one)
  obtain ⟨receiving, ended, received⟩ := last_completes one long fits frames
  have retried := ((began.trans unanswered_to_stx).trans stx_to_retry).trans (retry_to_poll (by decide))
  have receives : Receives List.sum (Link.filled calls) [.message (flagged data)] [] := by
    rw [filled_arrivals peer, arrived]
    exact .next ⟨receiving, (((retried.trans enquired).trans kept).trans continued).trans ended, received⟩ .none
  have orderly : Orderly List.sum [data] [] 0 (CpuCom.Uart.arrivals calls) := by
    rw [arrived]
    have asked : data ∈ [data] := List.mem_singleton_self _
    exact .unanswered (by decide) (.piece asked long fits frames (.last asked long fits frames .nothing))
  exact ⟨data, calls, _, _, peer, receives, List.mem_singleton_self _, received_messages_asked peer orderly receives⟩

/-- The last frame of a divided message that arrives once more is a message of its own. -/
theorem last_frame_received_again :
    ¬ ∀ messages calls results rest, Peer List.sum messages calls → (∀ call ∈ calls, Link.Lossy call) →
      Receives List.sum (Link.filled calls) results rest →
      ∀ data, .message data ∈ results → ∃ asked ∈ messages, data = flagged asked := by
  intro claimed
  obtain ⟨payload, length⟩ : ∃ payload : List UInt8, payload.length = 1028 :=
    ⟨List.replicate 1028 0, List.length_replicate⟩
  obtain ⟨first, frames⟩ := prepareFrames_two length
  let data : List UInt8 := 0 :: 0 :: 0 :: payload
  let again : List UInt8 := 0 :: 0 :: 3 :: 0 :: 1 :: 0 :: 2 :: payload.drop 1024
  have long : 1031 ≤ data.length := by simp [data, length]
  have fits : (data.length - 3 + 1023) / 1024 ≤ 65535 := by simp [data, length]
  have shorter : again.length = 11 := by simp [again, length]
  have run := last_frame_repeated first (extendedLengthFrame List.sum again)
  have arrived : CpuCom.Uart.arrivals (lastRepeated first (extendedLengthFrame List.sum again)) =
      [.frame first, .frame (extendedLengthFrame List.sum again), .frame (extendedLengthFrame List.sum again)] := rfl
  have lossy : ∀ call ∈ lastRepeated first (extendedLengthFrame List.sum again), Link.Lossy call := by
    simp [lastRepeated, Link.Lossy]
  generalize lastRepeated first (extendedLengthFrame List.sum again) = calls at run arrived lossy
  rw [← frames] at run
  have peer := Peer.sent run (@Peer.idle List.sum)
  rw [List.append_nil] at peer
  have line := filled_arrivals peer
  rw [arrived] at line
  obtain ⟨context, none, began⟩ := @first_enquiry List.sum 0 (.frame first)
    [.frame (extendedLengthFrame List.sum again), .frame (extendedLengthFrame List.sum again)]
  obtain ⟨after, one, kept⟩ := piece_kept none long fits frames
  obtain ⟨context, one, continued⟩ := @Ready.to_enquiry List.sum _ _ [.frame (extendedLengthFrame List.sum again)]
    (.frame (extendedLengthFrame List.sum again)) _ (.enquiry one)
  obtain ⟨receiving, ended, received⟩ := last_completes one long fits frames
  obtain ⟨context, none, restarted⟩ := @first_enquiry List.sum 0 (.frame (extendedLengthFrame List.sum again)) []
  obtain ⟨second, closed, misread⟩ :=
    @extended_completes List.sum _ 0 [] none.empty again none.notRegular none.undivided
    (by omega) (by omega)
  have receives : Receives List.sum (Link.filled calls) [.message (flagged data), .message again] [] := by
    rw [line]
    refine .next ⟨receiving, ((began.trans kept).trans continued).trans ended, received⟩ ?_
    exact .next ⟨second, restarted.trans closed, misread⟩ .none
  obtain ⟨asked, member, same⟩ := claimed _ _ _ _ peer lossy receives again (by simp)
  obtain rfl := List.mem_singleton.mp member
  have length : (flagged data).length = data.length := by
    unfold flagged
    split
    · exact List.length_set
    · rfl
  rw [← same] at length
  omega

end CpuCom.Uart.Protocol
