import CpuCom.Interaction.Lifting
import CpuCom.Interaction.Turns
import CpuCom.Messaging.Client
import Mathlib.Logic.Function.Basic

/-! `v2::CpuCom` with the responses that it has returned and its destructor. A response
holds the future of a promise in `m_requests`, and a weak pointer to what cancels its
request. The members of the library are destroyed one by one, and a call that needs one
of them is not answered afterwards. -/

namespace CpuCom.Messaging
open Interaction
open Uart (CpuCommand)

variable {Id F : Type}

/-- What a future sees. A promise that is destroyed without a value is broken. -/
inductive Outcome where
  | pending
  | value (data : Data)
  | broken
deriving DecidableEq

/-- The members that functions use, in the order in which they are destroyed. -/
inductive Member where
  | messenger
  | deliveryStatusCallbacks
  | cancelFunc
  | requests
  | callbacks
  | errorCallback
deriving DecidableEq

inductive LibraryCall (Id F : Type) where
  | client (call : ClientCall Id F)
  | lockCancelFunc
  | satisfyRequests
  | destroyMember (member : Member)
deriving DecidableEq

abbrev LibraryProgram (Id F : Type) := Program (LibraryCall Id F) (ClientReply F)

/-- A function of the library or a handler of its messages, `~CpuComResponse`, or `~CpuCom`. -/
inductive LibraryTask (Id F : Type) where
  | function (task : ClientTask Id F)
  | releaseResponse (id : Id)
  | destroy
deriving DecidableEq

namespace Library

/-- The response has a weak pointer only. -/
def releaseResponse (id : Id) : LibraryProgram Id F Unit := do
  let x ← Program.request .lockCancelFunc
  if x.result then (Client.cleanup id).lift .client else pure ()

def destroyMembers : List Member → LibraryProgram Id F Unit
  | [] => pure ()
  | member :: members => do
      let _ ← Program.request (.destroyMember member)
      destroyMembers members

def destroy : LibraryProgram Id F Unit := do
  let found ← Program.request .satisfyRequests
  if found.satisfied then .throw
  else destroyMembers [.messenger, .deliveryStatusCallbacks, .cancelFunc, .requests, .callbacks, .errorCallback]

def program : LibraryTask Id F → LibraryProgram Id F Unit
  | .function task => (Client.program task).lift .client
  | .releaseResponse id => releaseResponse id
  | .destroy => destroy

/-- The member that a call needs. -/
def needs : LibraryCall Id F → Option Member
  | .client (.addRequest _) | .client (.eraseRequest _) | .client (.fulfil _ _) | .satisfyRequests => some .requests
  | .client (.addCallback _ _) | .client (.eraseCallback _) | .client (.findCallback _) => some .callbacks
  | .client (.addStatusCallback _ _) | .client (.takeStatusCallback _) => some .deliveryStatusCallbacks
  | .client .readErrorCallback => some .errorCallback
  | .client (.send _) => some .messenger
  | .client (.callOnCommand _ _ _) | .client (.callDeliveryStatus _ _ _) | .client (.callError _ _ _) => none
  | .lockCancelFunc => none
  | .destroyMember member => some member

end Library

/-- The tables of the library, what the futures see, and the members that are gone. -/
structure Library (Id F : Type) [LinearOrder Id] where
  client : Client Id F
  promises : Id → Option Outcome
  destroyed : List Member

namespace Library

variable [LinearOrder Id]

def initial (errorCallback : Option F) : Library Id F := ⟨Client.initial errorCallback, fun _ => none, []⟩

/-- A promise that has no value yet gets this one. -/
def resolve (library : Library Id F) (outcome : Outcome) (resolved : Id → Prop) [DecidablePred resolved] :
    Id → Option Outcome :=
  fun id => if resolved id ∧ library.client.requests[id]? = some none then some outcome else library.promises id

/-- The reply to a call and the library after it. -/
def perform (library : Library Id F) : LibraryCall Id F → ClientReply F × Library Id F
  | .client call =>
      let (reply, client) := library.client.perform call
      let promises := match call with
        | .addRequest id => Function.update library.promises id (some .pending)
        | .eraseRequest id => library.resolve .broken (· = id)
        | .fulfil id data => library.resolve (.value data) (· = id)
        | _ => library.promises
      (reply, { library with client, promises })
  | .lockCancelFunc => ({ result := decide (.cancelFunc ∉ library.destroyed) }, library)
  | .satisfyRequests =>
      ({ satisfied := library.client.requests.toList.any (·.2.isSome) },
        { library with
          client := { library.client with requests := library.client.requests.map fun _ value => some (value.getD []) }
          promises := library.resolve (.value []) fun _ => True })
  | .destroyMember .requests =>
      ({}, { client := { library.client with requests := ∅ }
             promises := library.resolve .broken fun _ => True
             destroyed := .requests :: library.destroyed })
  | .destroyMember member => ({}, { library with destroyed := member :: library.destroyed })

/-- A call on the object by its user. -/
def OfUser : LibraryTask Id F → Prop
  | .function (.message _) => False
  | .function _ => True
  | _ => False

instance : DecidablePred (@OfUser Id F)
  | .function (.message _) | .releaseResponse _ | .destroy => .isFalse id
  | .function (.request _ _ _ _) | .function (.cancel _) | .function (.subscribe _ _) | .function (.unsubscribe _)
  | .function (.send _ _) | .function (.sendWithDeliveryStatus _ _ _ _) => .isTrue trivial

/-- The UUID that a call makes. -/
def newId : LibraryTask Id F → Option Id
  | .function task => Client.newId task
  | _ => none

/-- The request whose response a call returns. -/
def returns : LibraryTask Id F → Option Id
  | .function (.request id _ _ _) => some id
  | _ => none

/-- The user destroys each response that has been returned once at most, and the object
once at most, when its functions have returned, and calls none of them afterwards. -/
def Allows (tasks : List (Activity (@program Id F))) : LibraryTask Id F → Prop
  | .function (.message _) => True
  | .function (.cancel _) => False
  | .function task => ∀ activity ∈ tasks, activity.task ≠ .destroy ∧
      (newId activity.task ≠ none → newId activity.task ≠ Client.newId task)
  | .releaseResponse id => (∀ activity ∈ tasks, activity.task ≠ .releaseResponse id) ∧
      ∃ activity ∈ tasks, activity.Finished ∧ returns activity.task = some id
  | .destroy => ∀ activity ∈ tasks, activity.task ≠ .destroy ∧ (OfUser activity.task → activity.Finished)

instance [DecidableEq F] (tasks : List (Activity (@program Id F))) : DecidablePred (Allows tasks)
  | .function (.message _) => .isTrue trivial
  | .function (.cancel _) => .isFalse id
  | .function (.request _ _ _ _) | .function (.subscribe _ _) | .function (.unsubscribe _) | .function (.send _ _)
  | .function (.sendWithDeliveryStatus _ _ _ _) => inferInstanceAs (Decidable (∀ activity ∈ tasks, _ ∧ _))
  | .releaseResponse _ => inferInstanceAs (Decidable ((∀ activity ∈ tasks, _) ∧ _))
  | .destroy => inferInstanceAs (Decidable (∀ activity ∈ tasks, _ ∧ _))

def system : System (LibraryTask Id F) (LibraryCall Id F) (ClientReply F) (Library Id F) where
  program := program
  begins tasks before task after := after = before ∧ Allows tasks task
  answers library call reply after :=
    (∀ member, needs call = some member → member ∉ library.destroyed) ∧ (reply, after) = library.perform call

abbrev Event (Id F : Type) := Interaction.Event (LibraryTask Id F) (LibraryCall Id F) (ClientReply F)

/-- Runs of a library that has just been made. -/
def Runs (trace : List (Event Id F)) (pool : (@system Id F _).Pool) : Prop :=
  ∃ errorCallback, system.Reaches ⟨[], initial errorCallback⟩ trace pool

/-- What may begin, and the replies, to compute a run. -/
def opens [DecidableEq F] (tasks : List (Activity (@program Id F))) (library : Library Id F) (task : LibraryTask Id F) :
    Option (Library Id F) :=
  if Allows tasks task then some library else none

def replies (library : Library Id F) (call : LibraryCall Id F) (_ : Unit) : Option (ClientReply F × Library Id F) :=
  if ∀ member ∈ needs call, member ∉ library.destroyed then some (library.perform call) else none

theorem replies_allowed [DecidableEq F] :
    @System.Allowed _ _ _ _ _ (@system Id F _) opens replies where
  begins tasks shared task after opened := by
    obtain ⟨allowed, same⟩ := Option.ite_none_right_eq_some.mp opened
    exact ⟨(Option.some.inj same).symm, allowed⟩
  answers shared request choice reply after replied := by
    obtain ⟨there, same⟩ := Option.ite_none_right_eq_some.mp replied
    exact ⟨fun member needed => there member needed, (Option.some.inj same).symm⟩

abbrev play [DecidableEq F] (turns : List (Turn (LibraryTask Id F) Unit)) :
    Option (List (Event Id F) × (@system Id F _).Pool) :=
  System.play opens replies ⟨[], initial none⟩ turns

end Library
end CpuCom.Messaging
