import CpuCom.Interaction.Observation
import CpuCom.Proofs.RecvSteps

/-! One attempt to receive a frame, from the poll to the last acknowledgement, the
next rejection or an error. Two attempts whose contexts differ only in what an
earlier attempt has left behind go along up to the extended length of a frame, and
all the way after its form is known. -/

namespace CpuCom.Uart.Protocol
open Interaction FiniteStateMachine

/-- How an attempt ends: with a frame and the answer of `receive` if that frame
completes the message, with a rejection, or with an error. -/
inductive Verdict where
  | accepted (transmitionType : TransmitionType) (frame : Frame) (answer : Option (Received (List UInt8)))
  | rejected
  | failed

instance : DecidablePred RecvContext.Whole := fun _ => inferInstanceAs (Decidable (_ ∨ _))

def answer (context : RecvContext) : Option (Received (List UInt8)) :=
  if context.Whole then some (receive { context with result := true }) else none

def verdict : RecvConfig → Option Verdict
  | .running .done _ receiving =>
      some (.accepted receiving.context.transmitionType receiving.context.currentFrame (answer receiving.context))
  | .running .nak _ _ => some .rejected
  | .running .retry _ _ => some .rejected
  | .running .error _ _ => some .failed
  | _ => none

def renumber (context other : RecvContext) : RecvContext :=
  { context with frameNumber := other.frameNumber, totalFrames := other.totalFrames, result := other.result }

def InFrame : RecvState → Prop
  | .datacmd => True
  | .dataextlen => True
  | .dataframenumber => True
  | .data => True
  | .etx => True
  | .cs => True
  | .ack2 => True
  | .done => True
  | .nak => True
  | .error => True
  | _ => False

def AfterNumbers : RecvState → Prop
  | .data => True
  | .etx => True
  | .cs => True
  | .ack2 => True
  | .done => True
  | _ => False

/-- The states before the extended length, in which only a regular form is known. -/
def BeforeExtLen : RecvState → Prop
  | .datacmd => True
  | .dataextlen => True
  | _ => False

/-- The form of the frame is known to both, and only numbers that do not count differ. -/
structure SameForm (state : RecvState) (one two : RecvContext) : Prop where
  inFrame : InFrame state
  regular : BeforeExtLen state → two.transmitionType = .regular
  typed : two.transmitionType ≠ .notDefinedYet
  same : one = renumber two one
  settled : AfterNumbers state → two.transmitionType = .extendedLengthWithFrameDivision →
    one.frameNumber = two.frameNumber ∧ one.totalFrames = two.totalFrames

inductive Alongside : RecvConfig → RecvConfig → Prop where
  | read {state loop one two r1 other} (form : SameForm state one two) :
      Alongside (.running state loop ⟨one, r1⟩) (.running state loop ⟨two, other⟩)

variable {checksum : List UInt8 → UInt8} {context left : RecvContext} {state : RecvState} {loop : Option UInt8}

theorem answer_renumber (typed : context.transmitionType ≠ .notDefinedYet)
    (settled : context.transmitionType = .extendedLengthWithFrameDivision →
      left.frameNumber = context.frameNumber ∧ left.totalFrames = context.totalFrames) :
    answer (renumber context left) = answer context := by
  cases type : context.transmitionType with
  | notDefinedYet => exact absurd type typed
  | regular =>
    simp only [answer, renumber, RecvContext.Whole, receive, type, true_or, if_true]
  | extendedLength =>
    simp only [answer, renumber, RecvContext.Whole, receive, type, true_or, or_true, if_true]
  | extendedLengthWithFrameDivision =>
    obtain ⟨number, total⟩ := settled type
    rw [renumber, number, total]
    rfl

theorem verdict_alongside {one two : RecvConfig} (along : Alongside one two) : verdict one = verdict two := by
  obtain ⟨form⟩ := along
  rename_i state _ one two _ _
  cases state with
  | done =>
    have settled := form.settled trivial
    have same := answer_renumber form.typed settled
    rw [← form.same] at same
    rw [verdict, verdict, same, form.same]
    rfl
  | _ => rfl

variable {related : RecvConfig → RecvConfig → Prop} {one two : Receiving}

theorem alike_refl {κ ρ α : Type} (program : Program κ ρ α) : program.Alike Eq program := by
  induction program with
  | pure value => exact rfl
  | throw => trivial
  | call request next ih => exact ⟨rfl, ih⟩

theorem pass_signal {handler : CallProgram Event}
    (handled : ∀ receiving, recvHandler checksum state loop receiving = signal receiving handler)
    (unfinished : state ≠ .end)
    (follows : ∀ event, related (.running (recvTransition state event) none one)
      (.running (recvTransition state event) none two)) :
    ((recvMachine checksum).pass (.running state loop one)).Alike related
      ((recvMachine checksum).pass (.running state loop two)) := by
  change (recvHandler checksum state loop one >>= _ : CallProgram RecvConfig).Alike related
    (recvHandler checksum state loop two >>= _)
  rw [handled, handled]
  have signalled : (signal one handler : CallProgram (Receiving × Flow (Option UInt8) Event)).Alike
      (fun (first second : Receiving × Flow (Option UInt8) Event) => ∃ event, first = (one, .event event) ∧
        second = (two, .event event)) (signal two handler) := by
    apply (alike_refl handler).bind
    rintro event _ rfl
    exact ⟨event, rfl, rfl⟩
  apply signalled.bind
  rintro _ _ ⟨event, rfl, rfl⟩
  change related (if state = .end then _ else _) (if state = .end then _ else _)
  rw [if_neg unfinished, if_neg unfinished]
  exact follows event

theorem pass_onContext {handler : RecvContext → CallProgram (RecvContext × Event)}
    (handled : ∀ receiving, recvHandler checksum state loop receiving = onContext receiving handler)
    (unfinished : state ≠ .end)
    (alike : (handler one.context).Alike (fun first second => first.2 = second.2 ∧
      related (.running (recvTransition state second.2) none ⟨first.1, one.r1⟩)
        (.running (recvTransition state second.2) none ⟨second.1, two.r1⟩)) (handler two.context)) :
    ((recvMachine checksum).pass (.running state loop one)).Alike related
      ((recvMachine checksum).pass (.running state loop two)) := by
  change (recvHandler checksum state loop one >>= _ : CallProgram RecvConfig).Alike related
    (recvHandler checksum state loop two >>= _)
  rw [handled, handled]
  have worked : (onContext one handler).Alike (fun first second => ∃ before after event,
      first = (⟨before, one.r1⟩, .event event) ∧ second = (⟨after, two.r1⟩, .event event) ∧
        related (.running (recvTransition state event) none ⟨before, one.r1⟩)
          (.running (recvTransition state event) none ⟨after, two.r1⟩)) (onContext two handler) := by
    apply alike.bind
    rintro ⟨before, event⟩ ⟨after, same⟩ ⟨rfl, along⟩
    exact ⟨before, after, event, rfl, rfl, along⟩
  apply worked.bind
  rintro _ _ ⟨before, after, event, rfl, rfl, along⟩
  change related (if state = .end then _ else _) (if state = .end then _ else _)
  rw [if_neg unfinished, if_neg unfinished]
  exact along

/-- What a handler of a frame does in both contexts. -/
private abbrev Together (state : RecvState) (first second : RecvContext × Event) : Prop :=
  first.2 = second.2 ∧ SameForm (recvTransition state second.2) first.1 second.1

private theorem together_store {code : Event} {bytes : List UInt8}
    (form : SameForm state (renumber context left) context)
    (inFrame : InFrame (recvTransition state code))
    (before : BeforeExtLen (recvTransition state code) → BeforeExtLen state)
    (after : AfterNumbers (recvTransition state code) → AfterNumbers state) :
    Together state ((renumber context left).store bytes, code) (context.store bytes, code) :=
  ⟨rfl, inFrame, fun early => form.regular (before early), form.typed, rfl, fun passed => form.settled (after passed)⟩

private theorem together_denied {code : Event} (form : SameForm state (renumber context left) context)
    (inFrame : InFrame (recvTransition state code)) (before : ¬ BeforeExtLen (recvTransition state code))
    (after : ¬ AfterNumbers (recvTransition state code)) :
    Together state (renumber context left, code) (context, code) :=
  ⟨rfl, inFrame, fun early => absurd early before, form.typed, rfl, fun passed => absurd passed after⟩

private theorem recvDataCommand_together (form : SameForm .datacmd (renumber context left) context) :
    (recvDataCommand (renumber context left)).Alike (Together .datacmd) (recvDataCommand context) := by
  refine ⟨rfl, fun reply => ?_⟩
  apply together_store form
  · cases reply.result <;> trivial
  · exact fun _ => trivial
  · cases reply.result <;> exact False.elim

private theorem recvDataExtLen_together (form : SameForm .dataextlen (renumber context left) context) :
    (recvDataExtLen (renumber context left)).Alike (Together .dataextlen) (recvDataExtLen context) := by
  have regular : ¬ context.transmitionType ≠ .regular := not_not.mpr (form.regular trivial)
  rw [show recvDataExtLen (renumber context left) = pure (renumber context left, .pass) from if_neg regular,
    show recvDataExtLen context = pure (context, .pass) from if_neg regular]
  exact together_denied form trivial id id

private theorem recvDataFrameNumber_together (form : SameForm .dataframenumber (renumber context left) context) :
    (recvDataFrameNumber (renumber context left)).Alike (Together .dataframenumber) (recvDataFrameNumber context) := by
  unfold recvDataFrameNumber
  change Program.Alike _ (if context.transmitionType = .extendedLengthWithFrameDivision then _ else _) _
  split
  · refine ⟨rfl, fun reply => ?_⟩
    obtain ⟨result, bytes⟩ := reply
    cases result with
    | success => exact ⟨rfl, trivial, False.elim, form.typed, rfl, fun _ _ => ⟨rfl, rfl⟩⟩
    | timeout => exact together_store form trivial False.elim False.elim
    | error => exact together_store form trivial False.elim False.elim
  · next undivided => exact ⟨rfl, trivial, False.elim, form.typed, rfl, fun _ divided => absurd divided undivided⟩

private theorem recvData_together (form : SameForm .data (renumber context left) context) :
    (recvData (renumber context left)).Alike (Together .data) (recvData context) := by
  refine ⟨rfl, fun reply => ?_⟩
  apply together_store form
  · cases reply.result <;> trivial
  · cases reply.result <;> exact False.elim
  · exact fun _ => trivial

private theorem recvEtx_together (form : SameForm .etx (renumber context left) context) :
    (recvControlCode ControlCode.etx (renumber context left)).Alike (Together .etx)
      (recvControlCode ControlCode.etx context) := by
  refine ⟨rfl, fun reply => ?_⟩
  obtain ⟨result, bytes⟩ := reply
  cases result with
  | success =>
    dsimp only [Program.bind]
    split
    · exact together_store form trivial False.elim fun _ => trivial
    · exact together_denied form trivial id id
  | timeout => exact together_denied form trivial id id
  | error => exact together_denied form trivial id id

private theorem recvChecksum_together (form : SameForm .cs (renumber context left) context) :
    (recvChecksum checksum (renumber context left)).Alike (Together .cs) (recvChecksum checksum context) := by
  refine ⟨rfl, fun reply => ?_⟩
  obtain ⟨result, bytes⟩ := reply
  cases result with
  | success =>
    change Program.Alike _ (if Response.byte ⟨.success, bytes⟩ = checksum (context.currentFrame.drop 1) then _ else _)
      (if Response.byte ⟨.success, bytes⟩ = checksum (context.currentFrame.drop 1) then _ else _)
    split
    · exact together_store form trivial False.elim fun _ => trivial
    · exact together_denied form trivial id id
  | timeout => exact together_denied form trivial id id
  | error => exact together_denied form trivial id id

/-- Once the form is known to both, every handler up to the verdict does the same. -/
theorem alongside_alike {one two : RecvConfig} (along : Alongside one two) (underway : verdict one = none) :
    ((recvMachine checksum).pass one).Alike Alongside ((recvMachine checksum).pass two) := by
  obtain ⟨form⟩ := along
  rename_i state _ one two _ _
  obtain ⟨left, rfl⟩ : ∃ left, one = renumber two left := ⟨one, form.same⟩
  cases state with
  | datacmd =>
    apply pass_onContext (fun _ => rfl) RecvState.noConfusion
    exact (recvDataCommand_together form).mono fun _ _ together => ⟨together.1, .read together.2⟩
  | dataextlen =>
    apply pass_onContext (fun _ => rfl) RecvState.noConfusion
    exact (recvDataExtLen_together form).mono fun _ _ together => ⟨together.1, .read together.2⟩
  | dataframenumber =>
    apply pass_onContext (fun _ => rfl) RecvState.noConfusion
    exact (recvDataFrameNumber_together form).mono fun _ _ together => ⟨together.1, .read together.2⟩
  | data =>
    apply pass_onContext (fun _ => rfl) RecvState.noConfusion
    exact (recvData_together form).mono fun _ _ together => ⟨together.1, .read together.2⟩
  | etx =>
    apply pass_onContext (fun _ => rfl) RecvState.noConfusion
    exact (recvEtx_together form).mono fun _ _ together => ⟨together.1, .read together.2⟩
  | cs =>
    apply pass_onContext (fun _ => rfl) RecvState.noConfusion
    exact (recvChecksum_together form).mono fun _ _ together => ⟨together.1, .read together.2⟩
  | ack2 =>
    apply pass_signal (fun _ => rfl) RecvState.noConfusion
    intro event
    cases event with
    | pass => exact .read ⟨trivial, False.elim, form.typed, rfl, fun _ => form.settled trivial⟩
    | busy => exact .read ⟨trivial, False.elim, form.typed, rfl, False.elim⟩
    | wait => exact .read ⟨trivial, False.elim, form.typed, rfl, False.elim⟩
    | deny => exact .read ⟨trivial, False.elim, form.typed, rfl, False.elim⟩
    | fail => exact .read ⟨trivial, False.elim, form.typed, rfl, False.elim⟩
  | done => cases underway
  | nak => cases underway
  | error => cases underway
  | _ => exact form.inFrame.elim

/-- The states before the form of a frame is known, and those of a rejection. -/
def Early : RecvState → Prop
  | .poll => True
  | .repoll => True
  | .enquiry => True
  | .ack => True
  | .stx => True
  | .len => True
  | .datacmd => True
  | .nak => True
  | .retry => True
  | .error => True
  | _ => False

def fresh (frame : Frame) : RecvContext := { RecvContext.initial with currentFrame := frame }

/-- That part behind whatever else an attempt has left. -/
def stale (residue : RecvContext) (frame : Frame) : RecvContext := { residue with currentFrame := frame }

variable (residue : RecvContext)

/-- Nothing has been done yet that depends on the residue. -/
inductive Unread : RecvConfig → RecvConfig → Prop where
  | early {state loop frame r1 other} (early : Early state) :
      Unread (.running state loop ⟨stale residue frame, r1⟩) (.running state loop ⟨fresh frame, other⟩)

/-- An extended frame whose extended length comes next. -/
inductive Crossing : RecvConfig → RecvConfig → Prop where
  | extended {loop frame r1 other} :
      Crossing (.running .dataextlen loop ⟨stale residue frame, r1⟩) (.running .dataextlen loop ⟨fresh frame, other⟩)

theorem verdict_unread {one two : RecvConfig} (unread : Unread residue one two) : verdict one = verdict two := by
  obtain ⟨early⟩ := unread
  rename_i state _ _ _ _
  cases state with
  | done => exact early.elim
  | _ => rfl

variable {residue}

private theorem unread_controlCode {frame : Frame} :
    (recvControlCode ControlCode.stx (stale residue frame)).Alike (fun first second => first.2 = second.2 ∧
      ∃ more, first.1 = stale residue more ∧ second.1 = fresh more ∧ Early (recvTransition .stx second.2))
      (recvControlCode ControlCode.stx (fresh frame)) := by
  refine ⟨rfl, fun reply => ?_⟩
  obtain ⟨result, bytes⟩ := reply
  cases result with
  | success =>
    dsimp only [Program.bind]
    split
    · exact ⟨rfl, _, rfl, rfl, trivial⟩
    · exact ⟨rfl, _, rfl, rfl, trivial⟩
  | timeout => exact ⟨rfl, _, rfl, rfl, trivial⟩
  | error => exact ⟨rfl, _, rfl, rfl, trivial⟩

private theorem unread_enquiry {one two : Receiving} :
    (recvHandler checksum .enquiry loop one).Alike
    (fun first second => ∃ flow, first = (one, flow) ∧ second = (two, flow))
      (recvHandler checksum .enquiry loop two) := by
  apply (alike_refl (recvEnquiry loop)).bind
  rintro flow _ rfl
  exact ⟨flow, rfl, rfl⟩

/-- A length of a regular frame overwrites the residue, `EXT_LEN` leaves it. -/
private theorem unread_length {frame : Frame} (alone : residue.completedFrames = []) :
    (recvLength (stale residue frame)).Alike (fun first second => first.2 = second.2 ∧
      ((∃ more, first.1 = stale residue more ∧ second.1 = fresh more ∧ Early (recvTransition .len second.2)) ∨
        SameForm (recvTransition .len second.2) first.1 second.1)) (recvLength (fresh frame)) := by
  refine ⟨rfl, fun reply => ?_⟩
  obtain ⟨result, bytes⟩ := reply
  cases result with
  | success =>
    dsimp only [Program.bind]
    split
    · exact ⟨rfl, .inl ⟨_, rfl, rfl, trivial⟩⟩
    · split
      · refine ⟨rfl, .inr ⟨trivial, fun _ => rfl, TransmitionType.noConfusion, ?_, False.elim⟩⟩
        simp only [renumber, RecvContext.store, stale, fresh, RecvContext.initial, alone]
      · exact ⟨rfl, .inl ⟨_, rfl, rfl, trivial⟩⟩
  | timeout => exact ⟨rfl, .inl ⟨_, rfl, rfl, trivial⟩⟩
  | error => exact ⟨rfl, .inl ⟨_, rfl, rfl, trivial⟩⟩

private theorem unread_command {frame : Frame} :
    (recvDataCommand (stale residue frame)).Alike (fun first second => first.2 = second.2 ∧
      ∃ more, first.1 = stale residue more ∧ second.1 = fresh more) (recvDataCommand (fresh frame)) :=
  ⟨rfl, fun _ => ⟨rfl, _, rfl, rfl⟩⟩

theorem unread_alike {one two : RecvConfig} (alone : residue.completedFrames = []) (unread : Unread residue one two)
    (underway : verdict one = none) :
    ((recvMachine checksum).pass one).Alike
    (fun first second => (Unread residue first second ∨ Alongside first second) ∨
      Crossing residue first second) ((recvMachine checksum).pass two) := by
  obtain ⟨early⟩ := unread
  rename_i state loop frame _ _
  cases state with
  | poll =>
    apply pass_signal (fun _ => rfl) RecvState.noConfusion
    intro event
    cases event <;> exact .inl (.inl ⟨trivial⟩)
  | repoll =>
    apply pass_signal (fun _ => rfl) RecvState.noConfusion
    intro event
    cases event <;> exact .inl (.inl ⟨trivial⟩)
  | ack =>
    apply pass_signal (fun _ => rfl) RecvState.noConfusion
    intro event
    cases event <;> exact .inl (.inl ⟨trivial⟩)
  | stx =>
    apply pass_onContext (fun _ => rfl) RecvState.noConfusion
    apply unread_controlCode.mono
    rintro ⟨_, _⟩ ⟨_, _⟩ ⟨rfl, more, rfl, rfl, early⟩
    exact ⟨rfl, .inl (.inl ⟨early⟩)⟩
  | enquiry =>
    apply (unread_enquiry : (recvHandler checksum .enquiry loop _).Alike _ _).bind
    rintro _ _ ⟨flow, rfl, rfl⟩
    cases flow with
    | again byte => exact .inl (.inl ⟨trivial⟩)
    | event event => cases event <;> exact .inl (.inl ⟨trivial⟩)
  | len =>
    apply pass_onContext (fun _ => rfl) RecvState.noConfusion
    apply (unread_length alone).mono
    rintro ⟨_, _⟩ ⟨_, _⟩ ⟨rfl, ⟨more, rfl, rfl, early⟩ | form⟩
    · exact ⟨rfl, .inl (.inl ⟨early⟩)⟩
    · exact ⟨rfl, .inl (.inr ⟨form⟩)⟩
  | datacmd =>
    apply pass_onContext (fun _ => rfl) RecvState.noConfusion
    apply unread_command.mono
    rintro ⟨_, event⟩ ⟨_, _⟩ ⟨rfl, more, rfl, rfl⟩
    cases event with
    | pass => exact ⟨rfl, .inr ⟨⟩⟩
    | busy => exact ⟨rfl, .inl (.inl ⟨trivial⟩)⟩
    | wait => exact ⟨rfl, .inl (.inl ⟨trivial⟩)⟩
    | deny => exact ⟨rfl, .inl (.inl ⟨trivial⟩)⟩
    | fail => exact ⟨rfl, .inl (.inl ⟨trivial⟩)⟩
  | nak => cases underway
  | retry => cases underway
  | error => cases underway
  | _ => exact early.elim

end CpuCom.Uart.Protocol
