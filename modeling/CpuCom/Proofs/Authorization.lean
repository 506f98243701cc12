import CpuCom.Proofs.ServiceSteps
import CpuCom.Service.Permissions
import Mathlib.Data.Nat.Digits.Lemmas

/-! The permission of a command belongs to no other command, and what the native part
is asked to send was permitted when it was asked for. -/

namespace CpuCom.Service
open Interaction

private def digitValue (digit : Char) : Nat := if digit.toNat < 58 then digit.toNat - 48 else digit.toNat - 55

private theorem digitValue_hexDigit : ∀ digit < 16, digitValue (hexDigit digit) = digit := by decide

/-- Leading zeros do not count. -/
private def parseHex (text : List Char) : Nat := Nat.ofDigits 16 (text.reverse.map digitValue)

private theorem parse_formatHex (number : Int32) : parseHex (formatHex number) = number.toUInt32.toNat := by
  generalize padding : List.replicate (2 - (Nat.digits 16 number.toUInt32.toNat).length) '0' = zeros
  have text : formatHex number = zeros ++ ((Nat.digits 16 number.toUInt32.toNat).map hexDigit).reverse := by
    rw [formatHex, List.leftpad, List.length_map, List.length_reverse, padding, List.map_reverse]
  have digits : ((Nat.digits 16 number.toUInt32.toNat).map hexDigit).map digitValue =
      Nat.digits 16 number.toUInt32.toNat := by
    rw [List.map_map]
    refine (List.map_congr_left fun digit member => ?_).trans (List.map_id _)
    exact digitValue_hexDigit digit (Nat.digits_lt_base (by decide) member)
  rw [parseHex, text, List.reverse_append, List.reverse_reverse, List.map_append, digits, ← padding,
    List.reverse_replicate, List.map_replicate]
  exact (Nat.ofDigits_append_replicate_zero _).trans (Nat.ofDigits_digits 16 _)

theorem formatHex_inj {number other : Int32} : formatHex number = formatHex other ↔ number = other := by
  refine ⟨fun same => ?_, congrArg formatHex⟩
  have value := congrArg parseHex same
  rw [parse_formatHex, parse_formatHex, UInt32.toNat_inj] at value
  rw [← Int32.toInt32_toUInt32 number, value, Int32.toInt32_toUInt32]

theorem length_formatHex {number : Int32} : 2 ≤ (formatHex number).length := by
  rw [formatHex, List.leftpad, List.length_append, List.length_replicate]
  omega

theorem length_formatHex_byte {number : Int32} (low : 0 ≤ number) (high : number ≤ 255) :
    (formatHex number).length = 2 := by
  have small : number.toUInt32.toNat < 16 ^ 2 := by
    have bound : number.toInt ≤ 255 := Int32.le_iff_toInt_le.mp high
    have same := Int32.cast_toNatClampNeg number low
    rw [Int32.toNat_toUInt32_of_le low]
    omega
  have digits := (Nat.digits_length_le_iff (by decide : 1 < 16) number.toUInt32.toNat).mpr small
  rw [formatHex, List.leftpad, List.length_append, List.length_replicate, List.length_map, List.length_reverse]
  omega

/-- The permission of a valid command is that of no other command, valid or not. -/
theorem permission_name_iff (command other : CpuCommand) (valid : command.isValid = true) :
    PermissionChecker.getPermissionName command = PermissionChecker.getPermissionName other ↔
      command.key = other.key := by
  obtain ⟨low, high, subLow, subHigh⟩ := of_decide_eq_true valid
  have byte := length_formatHex_byte low high
  have subByte := length_formatHex_byte subLow subHigh
  have wide := @length_formatHex other.cmd
  have subWide := @length_formatHex other.subCmd
  simp only [PermissionChecker.getPermissionName, List.append_assoc, List.append_cancel_left_eq]
  constructor
  · intro same
    have lengths := congrArg List.length same
    rw [List.length_append, List.length_append] at lengths
    obtain ⟨cmd, subCmd⟩ := List.append_inj same (by omega)
    exact Prod.ext (formatHex_inj.mp cmd) (formatHex_inj.mp subCmd)
  · intro same
    obtain ⟨cmd, subCmd⟩ := Prod.mk.inj same
    rw [cmd, subCmd]

theorem permission_name_iff_byte : (⟨10, 255, none⟩ : CpuCommand).isValid = true ∧
    (PermissionChecker.getPermissionName ⟨10, 255, none⟩ = PermissionChecker.getPermissionName ⟨160, 15, none⟩ ↔
      CpuCommand.key ⟨10, 255, none⟩ = CpuCommand.key ⟨160, 15, none⟩) :=
  ⟨by decide, permission_name_iff _ _ (by decide)⟩

/-- Commands that are not valid may share one. -/
example : PermissionChecker.getPermissionName ⟨0x123, 0x45, none⟩ =
    PermissionChecker.getPermissionName ⟨0x12, 0x345, none⟩ := by decide +kernel

variable {B : Type}

def ServiceCall.toSend : ServiceCall B → Option (Int × CpuCommand)
  | .sendCmd pid command => if command.isValid then some (pid, command) else none
  | .subscribeCB _ _ _ | .unsubscribeCB _ _ _ | .subscribeErrorCB _ _ | .unsubscribeErrorCB _ => none

def ExecutorEvent.toSend : ExecutorEvent B → Option (Int × CpuCommand)
  | .calls call => call.toSend
  | .dies _ | .binderDied _ | .runs => none

def Task.toSend : Task B → Option (Int × CpuCommand)
  | .sendCommand pid command => if command.isValid then some (pid, command) else none
  | .subscribe _ _ _ | .unsubscribe _ _ _ | .setErrorCallback _ _ | .resetErrorCallback _ | .destroyClient _ => none

@[simp] theorem toSend_task {call : ServiceCall B} : call.task.toSend = call.toSend := by
  cases call <;> rfl

def NativeCall.isSend : NativeCall → Bool
  | .send _ _ _ _ => true
  | .create _ | .destroy _ | .setErrorCallback _ _ | .subscribe _ _ _ _ | .unsubscribe _ _ _ => false

/-- The process sends it itself, or it has no client and the anonymous one sends it. -/
def SentFor (asked : Int × CpuCommand) (call : NativeCall) : Prop :=
  ∃ pid, (pid = asked.1 ∨ pid = ServiceState.anonymousClientPid) ∧
    call = .send pid asked.2.cmd asked.2.subCmd asked.2.bytes

namespace ServiceState
variable [LinearOrder B] {service before middle after : ServiceState B} {client : Nat} {command : CpuCommand}
  {listener binder : B} {pid : Int}

def sent (service : ServiceState B) : List NativeCall := (service.journal.map Prod.snd).filter NativeCall.isSend

def Anonymous (service : ServiceState B) : Prop :=
  mAnonymousClient < service.clients.next ∧ service.pid mAnonymousClient = anonymousClientPid

/-- Nothing was sent, and the anonymous client stays. -/
structure Silent (before after : ServiceState B) : Prop where
  sent : after.sent = before.sent
  anonymous : before.Anonymous → after.Anonymous

theorem Silent.refl : Silent service service := ⟨rfl, id⟩

theorem Silent.trans (first : Silent before middle) (last : Silent middle after) : Silent before after :=
  ⟨last.sent.trans first.sent, last.anonymous ∘ first.anonymous⟩

theorem Touches.anonymous (touches : Touches client before after) (anonymous : before.Anonymous) : after.Anonymous :=
  ⟨touches.next ▸ anonymous.1, (touches.pid _).trans anonymous.2⟩

theorem Touches.silent (touches : Touches client before after) (sent : after.sent = before.sent) :
    Silent before after :=
  ⟨sent, touches.anonymous⟩

theorem sent_append {native : NativeClients} {call : NativeCall} :
    ((service.journal ++ [(native, call)]).map Prod.snd).filter NativeCall.isSend =
      service.sent ++ [call].filter NativeCall.isSend := by
  rw [List.map_append, List.filter_append]
  rfl

theorem call_sent {call : NativeCall} :
    Outcome (fun after => after.sent = service.sent ++ [call].filter NativeCall.isSend) (fun _ => True)
      (service.call call) := by
  rw [ServiceState.call]
  cases service.native.perform call with
  | error fault => exact trivial
  | ok native => exact sent_append

theorem call_unsent {call : NativeCall} (other : call.isSend = false) :
    Outcome (fun after => after.sent = service.sent) (fun _ => True) (service.call call) := by
  refine call_sent.imp fun after added => added.trans ?_
  rw [List.filter_cons_of_neg (Bool.eq_false_iff.mp other), List.filter_nil, List.append_nil]

theorem addListener_silent :
    Outcome (Silent service) (fun _ => True) (service.addListener client command listener) := by
  have sent : Outcome (fun after => after.sent = service.sent) (fun _ => True)
      (service.addListener client command listener) := by
    have kept : (service.computeIfAbsent client command).2.sent = service.sent := by
      rw [computeIfAbsent]
      split <;> rfl
    rw [addListener]
    generalize service.computeIfAbsent client command = result at kept ⊢
    obtain ⟨wrapper, middle⟩ := result
    dsimp only at kept ⊢
    split
    · exact (call_unsent rfl).imp fun after same => same.trans kept
    · exact kept
  exact ((addListener_touches.fault fun _ _ => trivial).and sent).imp fun after step => step.1.1.silent step.2

theorem removeListener_silent :
    Outcome (fun result => Silent service result.2) (fun _ => True) (service.removeListener client command listener) := by
  have sent : Outcome (fun result => result.2.sent = service.sent) (fun _ => True)
      (service.removeListener client command listener) := by
    rw [removeListener]
    split
    · dsimp only
      split
      · exact (call_unsent rfl).bind fun after same => same
      · rfl
    · rfl
  exact ((removeListener_touches.fault fun _ _ => trivial).and sent).imp fun result step => step.1.silent step.2

theorem setErrorCallback_silent {callback : Option B} :
    Outcome (Silent service) (fun _ => True) (service.setErrorCallback client callback) := by
  have sent : Outcome (fun after => after.sent = service.sent) (fun _ => True)
      (service.setErrorCallback client callback) := by
    have kept : (service.newErrorWrapper callback).2.sent = service.sent := by cases callback <;> rfl
    have freed (state : ServiceState B) (old : Option Nat) : (state.destroyErrorWrapper old).sent = state.sent := by
      cases old <;> rfl
    rw [setErrorCallback]
    generalize service.newErrorWrapper callback = result at kept ⊢
    obtain ⟨wrapper, middle⟩ := result
    dsimp only at kept ⊢
    exact (call_unsent rfl).bind fun after same => (freed after _).trans (same.trans kept)
  exact ((setErrorCallback_touches.fault fun _ _ => trivial).and sent).imp fun after step => step.1.1.silent step.2

theorem destroyClient_silent {gone : Option Nat} :
    Outcome (Silent service) (fun _ => True) (service.destroyClient gone) := by
  cases gone with
  | none => exact trivial
  | some client =>
    have sent : Outcome (fun after => after.sent = service.sent) (fun _ => True)
        (service.destroyClient (some client)) := by
      rw [destroyClient]
      cases (service.client client).mBinder with
      | none => exact trivial
      | some binder =>
        dsimp only
        cases service.mDeathObservers[binder]? with
        | none => exact trivial
        | some recipient =>
          refine (unlinkToDeath_links.fault fun _ _ => trivial).bind fun unlinked leaves => ?_
          subst leaves
          exact (call_unsent rfl).bind fun after same => same
    refine ((destroyClient_destroys.fault fun _ _ => trivial).and sent).imp ?_
    rintro after ⟨⟨binder, recipient, destroys⟩, same⟩
    refine ⟨same, fun anonymous => ⟨?_, (congrFun destroys.pid _).trans anonymous.2⟩⟩
    rw [destroys.clients]
    exact anonymous.1

theorem destroyUnused_silent : Outcome (Silent service) (fun _ => True) (service.destroyUnused client) := by
  rw [destroyUnused]
  split
  · exact Silent.refl
  · exact destroyClient_silent

theorem getOrCreateClient_silent : Silent service (service.getOrCreateClient pid binder).2 := by
  rw [getOrCreateClient]
  split
  · exact .refl
  · have creates := @createClient_creates _ _ service pid binder ⟨pid⟩
    refine ⟨?_, fun anonymous => ⟨creates.next ▸ Nat.lt_succ_of_lt anonymous.1,
      (creates.older_pid anonymous.1).trans anonymous.2⟩⟩
    rw [createClient]
    dsimp only
    split <;> exact sent_append.trans (List.append_nil _)

end ServiceState

namespace Task
open ServiceState
variable [LinearOrder B] {service : ServiceState B}

/-- A task that sends nothing is silent, and one that sends sends once. -/
theorem run_sends (anonymous : service.Anonymous) (task : Task B) :
    Outcome (fun after => after.Anonymous ∧ ∃ calls, after.sent = service.sent ++ calls ∧
      List.Forall₂ SentFor task.toSend.toList calls) (fun _ => True) (task.run service) := by
  have quiet (after : ServiceState B) (silent : Silent service after) : after.Anonymous ∧ ∃ calls,
      after.sent = service.sent ++ calls ∧ List.Forall₂ SentFor ([] : List (Int × CpuCommand)) calls :=
    ⟨silent.anonymous anonymous, [], by rw [silent.sent, List.append_nil], .nil⟩
  cases task with
  | subscribe pid command listener =>
    refine Outcome.imp ?_ quiet
    have found := @getOrCreateClient_silent _ _ service listener pid
    rw [run]
    split
    · generalize service.getOrCreateClient pid listener = result at found ⊢
      obtain ⟨client, middle⟩ := result
      cases client with
      | some client => exact addListener_silent.imp fun after silent => found.trans silent
      | none => exact found
    · exact Silent.refl
  | unsubscribe pid command listener =>
    refine Outcome.imp ?_ quiet
    rw [run]
    split
    · exact removeListener_silent.bind fun removed silent => destroyUnused_silent.imp fun after last => silent.trans last
    · exact Silent.refl
  | setErrorCallback pid errorCallback =>
    refine Outcome.imp ?_ quiet
    have found := @getOrCreateClient_silent _ _ service errorCallback pid
    rw [run]
    generalize service.getOrCreateClient pid errorCallback = result at found ⊢
    obtain ⟨client, middle⟩ := result
    cases client with
    | some client => exact setErrorCallback_silent.imp fun after silent => found.trans silent
    | none => exact found
  | resetErrorCallback pid =>
    refine Outcome.imp ?_ quiet
    rw [run]
    split
    · exact setErrorCallback_silent.bind fun set silent => destroyUnused_silent.imp fun after last => silent.trans last
    · exact Silent.refl
  | destroyClient pid => exact Outcome.imp destroyClient_silent quiet
  | sendCommand pid command =>
    rw [run, toSend]
    split
    · have sender : service.pid ((service.getClient pid).getD mAnonymousClient) = pid ∨
          service.pid ((service.getClient pid).getD mAnonymousClient) = anonymousClientPid := by
        cases found : service.getClient pid with
        | some client => exact .inl (getClient_some found).2
        | none => exact .inr anonymous.2
      refine ((send_touches.fault fun _ _ => trivial).and call_sent).imp ?_
      rintro after ⟨⟨touches, -⟩, added⟩
      exact ⟨touches.anonymous anonymous, _, added, .cons ⟨_, sender, rfl⟩ .nil⟩
    · exact quiet service .refl

end Task

namespace Executor
open ServiceState
variable [LinearOrder B] {executor : Executor B}

def pendingSends (executor : Executor B) : List (Int × CpuCommand) := executor.queue.filterMap Task.toSend

/-- Some of what is pending is sent, and what comes in becomes pending. -/
def Sends (asked : List (Int × CpuCommand)) (before after : Executor B) : Prop :=
  ∃ performed calls, before.pendingSends ++ asked = performed ++ after.pendingSends ∧
    after.service.sent = before.service.sent ++ calls ∧ List.Forall₂ SentFor performed calls

theorem Sends.trans {first last : List (Int × CpuCommand)} {before middle after : Executor B}
    (one : Sends first before middle) (two : Sends last middle after) : Sends (first ++ last) before after := by
  obtain ⟨performed, calls, pending, sent, agree⟩ := one
  obtain ⟨others, more, left, also, other⟩ := two
  refine ⟨performed ++ others, calls ++ more, ?_, ?_, List.rel_append agree other⟩
  · rw [← List.append_assoc, pending, List.append_assoc, left, List.append_assoc]
  · rw [also, sent, List.append_assoc]

theorem step_sends (anonymous : executor.service.Anonymous) (event : ExecutorEvent B) :
    Outcome (fun next => next.service.Anonymous ∧ Sends event.toSend.toList executor next) (fun _ => True)
      (executor.step event) := by
  cases event with
  | calls call =>
    refine ⟨anonymous, [], [], ?_, (List.append_nil _).symm, .nil⟩
    rw [List.nil_append, pendingSends, pendingSends, List.filterMap_append, List.filterMap_cons, List.filterMap_nil,
      toSend_task, ExecutorEvent.toSend]
    cases call.toSend <;> rfl
  | dies binder => exact ⟨anonymous, [], [], List.append_nil _, (List.append_nil _).symm, .nil⟩
  | binderDied observer =>
    rw [step]
    split
    · refine ⟨anonymous, [], [], ?_, (List.append_nil _).symm, .nil⟩
      rw [List.nil_append, pendingSends, pendingSends, List.filterMap_append]
      rfl
    · exact ⟨anonymous, [], [], List.append_nil _, (List.append_nil _).symm, .nil⟩
  | runs =>
    rw [step]
    cases tasks : executor.queue with
    | nil => exact ⟨anonymous, [], [], List.append_nil _, (List.append_nil _).symm, .nil⟩
    | cons task queue =>
      refine (Task.run_sends anonymous task).bind fun after sends => ?_
      obtain ⟨kept, calls, sent, agree⟩ := sends
      refine ⟨kept, task.toSend.toList, calls, ?_, sent, agree⟩
      rw [ExecutorEvent.toSend, pendingSends, pendingSends, tasks, List.filterMap_cons]
      cases task.toSend <;> exact List.append_nil _

theorem run_sends (anonymous : executor.service.Anonymous) (events : List (ExecutorEvent B)) :
    Outcome (Sends (events.filterMap ExecutorEvent.toSend) executor) (fun _ => True) (events.foldlM step executor) := by
  induction events generalizing executor with
  | nil => exact ⟨[], [], List.append_nil _, (List.append_nil _).symm, .nil⟩
  | cons event events ih =>
    rw [List.foldlM_cons]
    refine (step_sends anonymous event).bind fun next ⟨kept, sends⟩ => (ih kept).imp fun last rest => ?_
    have both := sends.trans rest
    rw [List.filterMap_cons]
    cases asked : event.toSend with
    | none =>
      rw [asked] at both
      exact both
    | some request =>
      rw [asked] at both
      exact both

end Executor

namespace GuardedService
variable [LinearOrder B]

theorem run_admitted (service : GuardedService B) (events : List (GuardedEvent B)) :
    (events.foldlM step service).map GuardedService.executor =
      (admitted service.granted events).foldlM Executor.step service.executor := by
  have advanced (service : GuardedService B) (event : ExecutorEvent B) (events : List (GuardedEvent B))
      (ih : ∀ service : GuardedService B, (events.foldlM step service).map GuardedService.executor =
        (admitted service.granted events).foldlM Executor.step service.executor) :
      (service.advance event >>= fun next => events.foldlM step next).map GuardedService.executor =
        (event :: admitted service.granted events).foldlM Executor.step service.executor := by
    rw [advance, List.foldlM_cons]
    cases service.executor.step event with
    | error fault => rfl
    | ok executor => exact ih { service with executor }
  induction events generalizing service with
  | nil => rfl
  | cons event events ih =>
    rw [List.foldlM_cons]
    cases event with
    | calls call =>
      rw [step, admitted]
      split
      · exact advanced service _ events ih
      · exact ih service
    | grants now => exact ih { service with granted := now }
    | dies binder => exact advanced service _ events ih
    | binderDied observer => exact advanced service _ events ih
    | runs => exact advanced service _ events ih

theorem sends_admitted {granted : Granted} {events : List (GuardedEvent B)} {last : GuardedService B}
    (ran : events.foldlM step (.initial granted) = .ok last) :
    ∃ performed, (admitted granted events).filterMap ExecutorEvent.toSend =
        performed ++ last.executor.pendingSends ∧
      List.Forall₂ SentFor performed last.executor.service.sent := by
  have same := run_admitted (.initial granted) events
  have anonymous : (initial granted : GuardedService B).executor.service.Anonymous := ⟨Nat.zero_lt_one, rfl⟩
  have sends := Executor.run_sends anonymous (admitted granted events)
  rw [ran] at same
  change Except.ok last.executor = (admitted granted events).foldlM Executor.step _ at same
  rw [← same] at sends
  obtain ⟨performed, calls, pending, sent, agree⟩ := sends
  exact ⟨performed, pending, sent ▸ agree⟩

/-- Every permitted command that is valid is sent once, in the order of the calls, or
its task is still in the queue. Nothing else is sent. -/
theorem sends_permitted (granted : Granted) (events : List (GuardedEvent B)) (last : GuardedService B)
    (ran : events.foldlM step (.initial granted) = .ok last) :
    ∃ performed, (admitted granted events).filterMap ExecutorEvent.toSend =
        performed ++ last.executor.pendingSends ∧
      List.Forall₂ SentFor performed last.executor.service.sent :=
  sends_admitted ran

/-- A call before the permission is granted, one while it is, and one after it is taken back. -/
theorem revoked_unsent : ∃ last : GuardedService Nat,
    [.calls (.sendCmd 7 ⟨4, 0, none⟩), .grants fun _ _ => true, .calls (.sendCmd 7 ⟨5, 0, none⟩), .grants fun _ _ => false,
      .runs, .calls (.sendCmd 7 ⟨6, 0, none⟩)].foldlM step (initial fun _ _ => false) = .ok last ∧
    ∃ performed, [(7, ⟨5, 0, none⟩)] = performed ++ last.executor.pendingSends ∧
      List.Forall₂ SentFor performed last.executor.service.sent := by
  generalize events : ([.calls (.sendCmd 7 ⟨4, 0, none⟩), .grants fun _ _ => true, .calls (.sendCmd 7 ⟨5, 0, none⟩),
    .grants fun _ _ => false, .runs, .calls (.sendCmd 7 ⟨6, 0, none⟩)] : List (GuardedEvent Nat)) = run
  have goes : (run.foldlM step (initial fun _ _ => false)).toOption.isSome = true := by
    subst events
    decide +kernel
  cases ran : run.foldlM step (initial fun _ _ => false) with
  | error fault =>
    rw [ran] at goes
    cases goes
  | ok last =>
    have permitted := sends_permitted (fun _ _ => false) run last ran
    subst events
    exact ⟨last, rfl, permitted⟩

end GuardedService
end CpuCom.Service
