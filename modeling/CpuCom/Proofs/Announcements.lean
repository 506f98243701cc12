import CpuCom.Interaction.Presence
import CpuCom.Messaging.Client

/-! A client registers a callback in one section and sends its message after it. The
callbacks and the messages have histories of their own, that may disagree. -/

namespace CpuCom.Messaging.Client
open Interaction System
open Uart (CpuCommand)

variable {Id F : Type}

/-- What a message says about the command: to subscribe, or not to. -/
def notice (command : CpuCommand) : ClientMessage Id → Option Bool
  | .subscribe wanted => if wanted = command then some true else none
  | .unsubscribe unwanted => if unwanted = command then some false else none
  | _ => none

def sends (command : CpuCommand) : Event Id F → Option Bool
  | .calls _ (.send message) _ => notice command message
  | _ => none

/-- `subscribe` brings a callback and `unsubscribe` takes it away. -/
def registrations : Presence (Event Id F) CpuCommand where
  enters
    | .calls _ (.addCallback command _) _ => some command
    | _ => none
  leaves command
    | .calls _ (.eraseCallback erased) _ => erased = command
    | _ => False

abbrev Registered (history : List (Event Id F)) (command : CpuCommand) : Prop := registrations.Present history command

/-- The message after this part of the history is the last one about the command. -/
def LastNotice (history : List (Event Id F)) (command : CpuCommand) (before : List (Event Id F)) (subscribes : Bool) :
    Prop :=
  ∃ event after, history = before ++ event :: after ∧ sends command event = some subscribes ∧
    ∀ later ∈ after, sends command later = none

def Announced (history : List (Event Id F)) (command : CpuCommand) : Prop :=
  ∃ before, LastNotice history command before true

/-- The last message about the command is sent while the callbacks agree with it. -/
def SentInTime (history : List (Event Id F)) (command : CpuCommand) : Prop :=
  ∀ before subscribes, LastNotice history command before subscribes → (Registered before command ↔ subscribes = true)

/-- What holds after the notices, the last of which decides. -/
def Decided : List Bool → Prop → Prop
  | [], now => now
  | subscribes :: notices, _ => Decided notices (subscribes = true)

@[simp] theorem decided_nil {now : Prop} : Decided [] now ↔ now := Iff.rfl

@[simp] theorem decided_cons {subscribes : Bool} {notices : List Bool} {now : Prop} :
    Decided (subscribes :: notices) now ↔ Decided notices (subscribes = true) := Iff.rfl

theorem decided_append {first rest : List Bool} {now : Prop} :
    Decided (first ++ rest) now ↔ Decided rest (Decided first now) := by
  induction first generalizing now with
  | nil => exact Iff.rfl
  | cons subscribes first ih => exact ih

theorem Decided.mono {notices : List Bool} {now later : Prop} (decided : Decided notices now) (implies : now → later) :
    Decided notices later := by
  cases notices with
  | nil => exact implies decided
  | cons subscribes notices => exact decided

theorem decided_congr {notices : List Bool} {now later : Prop} (same : now ↔ later) :
    Decided notices now ↔ Decided notices later :=
  ⟨fun decided => decided.mono same.mp, fun decided => decided.mono same.mpr⟩

variable {history before : List (Event Id F)} {event : Event Id F} {command : CpuCommand} {subscribes : Bool}

theorem lastNotice_snoc : LastNotice (history ++ [event]) command before subscribes ↔
    before = history ∧ sends command event = some subscribes ∨
      LastNotice history command before subscribes ∧ sends command event = none := by
  constructor
  · rintro ⟨sent, after, split, said, quiet⟩
    rcases List.eq_nil_or_concat after with rfl | ⟨after, last, rfl⟩
    · obtain ⟨rfl, last⟩ := List.append_inj' split rfl
      obtain rfl := List.singleton_inj.mp last
      exact .inl ⟨rfl, said⟩
    · rw [List.concat_eq_append] at split quiet
      have split : history ++ [event] = (before ++ sent :: after) ++ [last] := by simpa using split
      obtain ⟨rfl, same⟩ := List.append_inj' split rfl
      obtain rfl := List.singleton_inj.mp same
      exact .inr ⟨⟨sent, after, rfl, said, fun later member => quiet later (List.mem_append_left _ member)⟩,
        quiet event (by simp)⟩
  · rintro (⟨rfl, said⟩ | ⟨⟨sent, after, rfl, said, quiet⟩, silent⟩)
    · exact ⟨event, [], rfl, said, by simp⟩
    · refine ⟨sent, after ++ [event], by simp, said, fun later member => ?_⟩
      rcases List.mem_append.mp member with member | member
      · exact quiet later member
      · rwa [List.mem_singleton.mp member]

theorem announced_snoc : Announced (history ++ [event]) command ↔
    match sends command event with
    | some subscribes => subscribes = true
    | none => Announced history command := by
  unfold Announced
  simp only [lastNotice_snoc]
  cases said : sends command event <;> simp

/-- What is announced is what the last message about the command says. -/
theorem announced_iff (last : LastNotice history command before subscribes) :
    Announced history command ↔ subscribes = true := by
  induction history using List.reverseRecOn with
  | nil =>
    obtain ⟨event, after, split, -⟩ := last
    simp at split
  | append_singleton history event ih =>
    rw [announced_snoc]
    rcases lastNotice_snoc.mp last with ⟨rfl, said⟩ | ⟨last, silent⟩
    · rw [said]
    · rw [silent]
      exact ih last

section
variable [LinearOrder Id] {errorCallback : Option F} {pool : (@system Id F _).Pool}

theorem mem_callbacks_perform {client : Client Id F} {index : Nat} {call : ClientCall Id F} {reply : ClientReply F} :
    command ∈ (client.perform call).2.callbacks ↔
      registrations.enters (.calls index call reply : Event Id F) = some command ∨
        command ∈ client.callbacks ∧ ¬ registrations.leaves command (.calls index call reply : Event Id F) := by
  cases call with
  | addCallback added callback =>
    by_cases there : added ∈ client.callbacks
    · by_cases same : added = command
      · subst same
        simp [perform, registrations, there]
      · simp [perform, registrations, there, same]
    · by_cases same : added = command
      · subst same
        simp [perform, registrations, there]
      · simp [perform, registrations, there, same, Std.TreeMap.mem_insertIfNew]
  | eraseCallback erased =>
    by_cases same : erased = command <;> simp [perform, registrations, Std.TreeMap.mem_erase, same]
  | fulfil answered data =>
    simp only [perform]
    split <;> simp [registrations]
  | _ => simp [perform, registrations]

theorem registered_iff (ran : system.Reaches ⟨[], initial errorCallback⟩ history pool) (command : CpuCommand) :
    command ∈ pool.shared.callbacks ↔ Registered history command := by
  induction ran with
  | refl => simp [initial]
  | step reached step ih =>
    rw [Registered, Presence.present_snoc]
    cases step with
    | begins allowed =>
      obtain rfl := allowed
      exact ih.trans ⟨fun there => .inr ⟨there, id⟩, fun there => (there.resolve_left nofun).1⟩
    | calls found due answered =>
      obtain ⟨-, rfl⟩ := Prod.mk.inj answered
      exact mem_callbacks_perform.trans (or_congr Iff.rfl (and_congr ih Iff.rfl))

def noticing (command : CpuCommand) (_ : ClientTask Id F) : Option (ClientCall Id F) → Nat
  | some (.send message) => if (notice command message).isSome then 1 else 0
  | _ => 0

omit [LinearOrder Id] in
theorem noticing_send {command : CpuCommand} {task : ClientTask Id F} {message : ClientMessage Id} {subscribes : Bool}
    (said : notice command message = some subscribes) : noticing command task (some (.send message)) = 1 := by
  rw [noticing, said]
  rfl

/-- What is registered is what has been at the last message about the command. -/
structure Settled (history : List (Event Id F)) (command : CpuCommand) : Prop where
  last : ∀ before subscribes, LastNotice history command before subscribes →
    (Registered history command ↔ Registered before command)
  silent : (∀ before subscribes, ¬ LastNotice history command before subscribes) → ¬ Registered history command

omit [LinearOrder Id] in
private theorem Settled.snoc (settled : Settled history command) (silent : sends command event = none)
    (same : Registered (history ++ [event]) command ↔ Registered history command) :
    Settled (history ++ [event]) command where
  last before subscribes last := by
    rw [lastNotice_snoc, silent] at last
    exact same.trans (settled.last before subscribes (last.resolve_left fun said => nomatch said.2).1)
  silent never := by
    rw [same]
    refine settled.silent fun before subscribes last => never before subscribes ?_
    exact lastNotice_snoc.mpr (.inr ⟨last, silent⟩)

omit [LinearOrder Id] in
private theorem registered_same (entering : registrations.enters event ≠ some command)
    (leaving : ¬ registrations.leaves command event) :
    Registered (history ++ [event]) command ↔ Registered history command := by
  rw [Registered, Presence.present_snoc]
  exact ⟨fun present => (present.resolve_left entering).1, fun present => .inr ⟨present, leaving⟩⟩

/-- A section that changes the callbacks has its message still to send. -/
theorem settled_or_noticing (ran : system.Reaches ⟨[], initial errorCallback⟩ history pool) (command : CpuCommand) :
    Settled history command ∨ 1 ≤ pool.weigh (noticing command) := by
  induction ran with
  | refl =>
    refine .inl ⟨fun before subscribes last => ?_, fun _ => Presence.not_present_nil⟩
    obtain ⟨event, after, split, -⟩ := last
    simp at split
  | @step history pool event after reached step ih =>
    cases event with
    | begins task =>
      have more := step.begun.2.1 (noticing command)
      exact ih.imp (fun settled => settled.snoc rfl (registered_same nofun id)) fun due => by omega
    | calls index call reply =>
      obtain ⟨task, due, move, -, answered, sums, -⟩ := step.called program_flows
      have waits := sums (noticing command)
      clear sums
      cases said : sends command (.calls index call reply : Event Id F) with
      | some subscribes =>
        have same : Registered (history ++ [.calls index call reply]) command ↔ Registered history command := by
          cases call with
          | send message => exact registered_same nofun id
          | _ => exact nomatch said
        refine .inl ⟨fun before other last => ?_, fun never => absurd (lastNotice_snoc.mpr (.inl ⟨rfl, said⟩))
          (never _ _)⟩
        rcases lastNotice_snoc.mp last with ⟨rfl, -⟩ | ⟨-, silent⟩
        · exact same
        · exact nomatch said.symm.trans silent
      | none =>
        have sent : noticing command task (some call) = 0 := by
          cases call with
          | send message => simp [noticing, show notice command message = none from said]
          | _ => rfl
        rw [sent] at waits
        have unchanged (same : Registered (history ++ [.calls index call reply]) command ↔ Registered history command) :
            Settled (history ++ [.calls index call reply]) command ∨ 1 ≤ after.weigh (noticing command) :=
          ih.imp (fun settled => settled.snoc said same) fun due => by omega
        cases move with
        | @subscribed wanted callback _ inserted =>
          by_cases same : wanted = command
          · right
            have announced : notice command (.subscribe wanted : ClientMessage Id) = some true := if_pos same
            rw [noticing_send announced] at waits
            omega
          · exact unchanged (registered_same (fun entering => same (Option.some.inj entering)) id)
        | @notSubscribed wanted callback _ present =>
          by_cases same : wanted = command
          · subst same
            have there : wanted ∈ pool.shared.callbacks := by
              have replied : reply = (pool.shared.perform (.addCallback wanted callback)).1 := (Prod.mk.inj answered).1
              rw [replied] at present
              by_contra absent
              simp [perform, absent] at present
            refine unchanged ⟨fun _ => (registered_iff reached wanted).mp there, fun registered => ?_⟩
            exact Presence.present_snoc.mpr (.inl rfl)
          · exact unchanged (registered_same (fun entering => same (Option.some.inj entering)) id)
        | @unsubscribed unwanted =>
          by_cases same : unwanted = command
          · right
            have announced : notice command (.unsubscribe unwanted : ClientMessage Id) = some false := if_pos same
            rw [noticing_send announced] at waits
            omega
          · exact unchanged (registered_same nofun same)
        | _ => exact unchanged (registered_same nofun id)

/-- Once all calls have returned, the callbacks and the messages agree exactly on the
commands whose last message has been sent in time. -/
theorem announced_iff_registered (ran : system.Reaches ⟨[], initial errorCallback⟩ history pool) (idle : pool.Idle)
    (command : CpuCommand) :
    (Announced history command ↔ Registered history command) ↔ SentInTime history command := by
  have settled : Settled history command := by
    refine (settled_or_noticing ran command).resolve_right fun due => ?_
    rw [idle.weigh fun _ => rfl] at due
    exact Nat.not_succ_le_zero 0 due
  constructor
  · intro agree before subscribes last
    rw [← settled.last before subscribes last, ← agree, announced_iff last]
  · intro inTime
    by_cases never : ∀ before subscribes, ¬ LastNotice history command before subscribes
    · exact ⟨fun ⟨before, last⟩ => absurd last (never before true), fun registered => absurd registered
        (settled.silent never)⟩
    · simp only [not_forall, not_not] at never
      obtain ⟨before, subscribes, last⟩ := never
      rw [announced_iff last, settled.last before subscribes last]
      exact (inTime before subscribes last).symm

end

end CpuCom.Messaging.Client
