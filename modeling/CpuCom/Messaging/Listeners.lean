import CpuCom.Interaction.Turns
import CpuCom.Messaging.Messages

/-! `impl::CpuComImpl`, the first version of the library, as far as it keeps
listeners. A function is a program whose calls are its lookup of `m_listeners`
outside the mutex, its sections under the mutex, the messages that it sends and the
listeners that it calls. -/

namespace CpuCom.Messaging
open Interaction
open Uart (CpuCommand)

variable {L : Type}

inductive SubscriptionMessage where
  | subscribe (command : CpuCommand)
  | unsubscribe (command : CpuCommand)
deriving DecidableEq

inductive ListenerCall (L : Type) where
  | find (command : CpuCommand)
  | insert (command : CpuCommand) (listener : L)
  | append (command : CpuCommand) (listener : L)
  | remove (command : CpuCommand) (listener : L)
  | copy (command : CpuCommand)
  | send (message : SubscriptionMessage)
  | callOnReceiveCommand (listener : L) (command : CpuCommand) (data : Data)
deriving DecidableEq

/-- What a call leaves in the local variables: whether the command was found, a
listener appended or the last one removed, and the listeners copied. -/
structure ListenerReply (L : Type) where
  result : Bool := false
  listeners : List L := []
deriving DecidableEq

abbrev ListenerProgram (L : Type) := Program (ListenerCall L) (ListenerReply L)

inductive ListenerTask (L : Type) where
  | subscribe (command : CpuCommand) (listener : L)
  | subscribeAll (commands : List CpuCommand) (listener : L)
  | unsubscribe (command : CpuCommand) (listener : L)
  | unsubscribeAll (commands : List CpuCommand) (listener : L)
  | notification (command : CpuCommand) (data : Data)
deriving DecidableEq

namespace Listeners

/-- `at` throws where the command has gone since it was found. -/
def subscribe (command : CpuCommand) (listener : L) : ListenerProgram L Unit := do
  let found ← Program.request (.find command)
  if found.result then
    let appended ← Program.request (.append command listener)
    if appended.result then pure () else .throw
  else
    let _ ← Program.request (.insert command listener)
    let _ ← Program.request (.send (.subscribe command))
    pure ()

def unsubscribe (command : CpuCommand) (listener : L) : ListenerProgram L Unit := do
  let last ← Program.request (.remove command listener)
  if last.result then
    let _ ← Program.request (.send (.unsubscribe command))
    pure ()
  else pure ()

/-- The overloads for lists of commands. -/
def eachCommand (body : CpuCommand → ListenerProgram L Unit) : List CpuCommand → ListenerProgram L Unit
  | [] => pure ()
  | command :: commands => do
      body command
      eachCommand body commands

def callListeners (command : CpuCommand) (data : Data) : List L → ListenerProgram L Unit
  | [] => pure ()
  | listener :: listeners => do
      let _ ← Program.request (.callOnReceiveCommand listener command data)
      callListeners command data listeners

def onNotification (command : CpuCommand) (data : Data) : ListenerProgram L Unit := do
  let copied ← Program.request (.copy command)
  callListeners command data copied.listeners

def program : ListenerTask L → ListenerProgram L Unit
  | .subscribe command listener => subscribe command listener
  | .subscribeAll commands listener => eachCommand (subscribe · listener) commands
  | .unsubscribe command listener => unsubscribe command listener
  | .unsubscribeAll commands listener => eachCommand (unsubscribe · listener) commands
  | .notification command data => onNotification command data

end Listeners

/-- `m_listeners`, the messages sent so far and the calls of listeners so far. -/
structure Listeners (L : Type) where
  table : CommandMap (List L)
  sent : List SubscriptionMessage
  called : List (L × CpuCommand × Data)

namespace Listeners

def initial : Listeners L := ⟨∅, [], []⟩

variable [DecidableEq L]

/-- The reply to a call and what it leaves. `insert` keeps a list that is there already. -/
def perform (listeners : Listeners L) : ListenerCall L → ListenerReply L × Listeners L
  | .find command => ({ result := listeners.table.contains command }, listeners)
  | .insert command listener => ({}, { listeners with table := listeners.table.insertIfNew command [listener] })
  | .append command listener =>
      match listeners.table[command]? with
      | some present =>
          ({ result := true }, { listeners with table := listeners.table.insert command (present ++ [listener]) })
      | none => ({}, listeners)
  | .remove command listener =>
      match listeners.table[command]? with
      | some present =>
          if listener ∈ present then
            if present.erase listener = [] then
              ({ result := true }, { listeners with table := listeners.table.erase command })
            else ({}, { listeners with table := listeners.table.insert command (present.erase listener) })
          else ({}, listeners)
      | none => ({}, listeners)
  | .copy command => ({ listeners := listeners.table.getD command [] }, listeners)
  | .send message => ({}, { listeners with sent := listeners.sent ++ [message] })
  | .callOnReceiveCommand listener command data =>
      ({}, { listeners with called := listeners.called ++ [(listener, command, data)] })

/-- The library answers every call at once. -/
def answer (listeners : Listeners L) (call : ListenerCall L) : Option (ListenerReply L × Listeners L) :=
  some (listeners.perform call)

/-- One thread that finishes a function before it begins the next. -/
def run (listeners : Listeners L) : List (ListenerTask L) → Option (Listeners L)
  | [] => some listeners
  | task :: tasks => ((program task).runOn answer listeners).bind fun result => run result.2 tasks

/-- Any number of functions may be under way at a time. -/
def system : System (ListenerTask L) (ListenerCall L) (ListenerReply L) (Listeners L) where
  program := program
  begins _ before _ after := after = before
  answers listeners call reply after := (reply, after) = listeners.perform call

/-- The library leaves nothing about its replies open. -/
def replies (listeners : Listeners L) (call : ListenerCall L) (_ : Unit) : Option (ListenerReply L × Listeners L) :=
  listeners.answer call

theorem replies_allowed : @System.Allowed _ _ _ _ _ (@system L _) (fun _ shared _ => some shared) replies where
  begins _ _ _ _ opened := (Option.some.inj opened).symm
  answers _ _ _ _ _ replied := (Option.some.inj replied).symm

abbrev play (turns : List (Turn (ListenerTask L) Unit)) :
    Option (List (Event (ListenerTask L) (ListenerCall L) (ListenerReply L)) × (@system L _).Pool) :=
  System.play (fun _ shared _ => some shared) replies ⟨[], initial⟩ turns

/-- What a message says about the subscription to a command. -/
def notice (command : CpuCommand) : SubscriptionMessage → Option Bool
  | .subscribe other => if other = command then some true else none
  | .unsubscribe other => if other = command then some false else none

def notices (command : CpuCommand) (messages : List SubscriptionMessage) : List Bool :=
  messages.filterMap (notice command)

theorem notices_append (command : CpuCommand) (first rest : List SubscriptionMessage) :
    notices command (first ++ rest) = notices command first ++ notices command rest := List.filterMap_append

/-- The entry of one command after a call. -/
def changed : ListenerCall L → CpuCommand → Option (List L) → Option (List L)
  | .insert command listener, other, entry => if command = other then some (entry.getD [listener]) else entry
  | .append command listener, other, entry => if command = other then entry.map (· ++ [listener]) else entry
  | .remove command listener, other, entry =>
      if command = other then
        entry.bind fun present =>
          if listener ∈ present then if present.erase listener = [] then none else some (present.erase listener)
          else some present
      else entry
  | .find _, _, entry | .copy _, _, entry | .send _, _, entry | .callOnReceiveCommand _ _ _, _, entry => entry

theorem perform_entry (listeners : Listeners L) (call : ListenerCall L) (other : CpuCommand) :
    (listeners.perform call).2.table[other]? = changed call other listeners.table[other]? := by
  cases call with
  | insert command listener =>
    rw [perform, changed, Std.TreeMap.getElem?_insertIfNew]
    by_cases same : command = other
    · subst same
      cases entry : listeners.table[command]? with
      | none => simp [Std.TreeMap.mem_iff_isSome_getElem?, entry]
      | some present => simp [Std.TreeMap.mem_iff_isSome_getElem?, entry]
    · simp [same]
  | append command listener =>
    rw [perform, changed]
    by_cases same : command = other
    · subst same
      cases entry : listeners.table[command]? with
      | none => simp [entry]
      | some present => simp
    · cases entry : listeners.table[command]? with
      | none => simp [same]
      | some present => simp [same, Std.TreeMap.getElem?_insert]
  | remove command listener =>
    rw [perform, changed]
    by_cases same : command = other
    · subst same
      cases entry : listeners.table[command]? with
      | none => simp [entry]
      | some present =>
        simp only [Option.bind_some, if_true]
        split
        · split <;> simp
        · exact entry
    · cases entry : listeners.table[command]? with
      | none => simp [same]
      | some present =>
        simp only [same, if_false]
        split
        · split <;> simp [same, Std.TreeMap.getElem?_insert, Std.TreeMap.getElem?_erase]
        · rfl
  | find command => rfl
  | copy command => rfl
  | send message => rfl
  | callOnReceiveCommand listener command data => rfl

omit [DecidableEq L] in
theorem getD_of_entry {listeners : Listeners L} {command : CpuCommand} {entry : Option (List L)}
    (found : listeners.table[command]? = entry) : listeners.table.getD command [] = entry.getD [] := by
  rw [Std.TreeMap.getD_eq_getD_getElem?, found]

/-- The messages that a call sends. -/
def sends : ListenerCall L → List SubscriptionMessage
  | .send message => [message]
  | .find _ | .insert _ _ | .append _ _ | .remove _ _ | .copy _ | .callOnReceiveCommand _ _ _ => []

theorem perform_sent (listeners : Listeners L) (call : ListenerCall L) :
    (listeners.perform call).2.sent = listeners.sent ++ sends call := by
  cases call with
  | send message => rfl
  | append command listener =>
    rw [perform, sends, List.append_nil]
    split <;> rfl
  | remove command listener =>
    rw [perform, sends, List.append_nil]
    split
    · split
      · split <;> rfl
      · rfl
    · rfl
  | find command => exact (List.append_nil _).symm
  | insert command listener => exact (List.append_nil _).symm
  | copy command => exact (List.append_nil _).symm
  | callOnReceiveCommand listener command data => exact (List.append_nil _).symm

end Listeners
end CpuCom.Messaging
