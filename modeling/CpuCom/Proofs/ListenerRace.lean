import CpuCom.Interaction.Serial
import CpuCom.Proofs.ListenerCounts

/-! Listeners under concurrency. A subscription looks its command up before it takes
the mutex, and messages go out after the mutex is released. Nothing is lost as long
as nobody comes in between. -/

namespace CpuCom.Messaging.Listeners
open Interaction System
open Uart (CpuCommand)

variable {L : Type}

abbrev Event (L : Type) := Interaction.Event (ListenerTask L) (ListenerCall L) (ListenerReply L)

def holding (command : CpuCommand) : ListenerCall L → Option (Holding L)
  | .insert other listener => if other = command then some (.hold listener) else none
  | .append other listener => if other = command then some (.hold listener) else none
  | .remove other listener => if other = command then some (.release listener) else none
  | _ => none

def holdings (command : CpuCommand) : Event L → List (Holding L)
  | .calls _ call _ => (holding command call).toList
  | .begins _ => []

section
variable [DecidableEq L]

/-- The listeners whose subscription has passed its section, less those that were
unsubscribed since. -/
def expected (command : CpuCommand) (trace : List (Event L)) : Multiset L :=
  (Held.empty.after (trace.flatMap (holdings command))).holders

/-- The daemon handles the messages in order, so the last one decides. -/
def Subscribed (listeners : Listeners L) (command : CpuCommand) : Prop :=
  (notices command listeners.sent).getLast? = some true

/-- No call throws. `handled` and `listeners`: every function has its sections, and the
listeners are those that the sections leave. `returned`: so whoever has subscribed and is
not unsubscribed is among them. Once nothing is under way and all messages are handled,
the daemon's subscriptions are those that have listeners. -/
structure NoneLost (trace : List (Event L)) (pool : (@system L _).Pool) : Prop where
  noThrow : ∀ activity ∈ pool.tasks, activity.rest ≠ .throw
  handled : ∀ command index activity, pool.tasks[index]? = some activity →
    (own index trace).filterMap (holding command ·.1) <+: operations command activity.task ∧
      (activity.Finished → (own index trace).filterMap (holding command ·.1) = operations command activity.task)
  listeners : ∀ command, (pool.shared.table.getD command [] : Multiset L) = expected command trace
  returned : ∀ activity ∈ pool.tasks, activity.Finished → ∀ command listener,
    .hold listener ∈ operations command activity.task →
    (∀ other ∈ pool.tasks, .release listener ∉ operations command other.task) →
      listener ∈ pool.shared.table.getD command []
  subscribed : pool.Idle → ∀ command, Subscribed pool.shared command ↔ pool.shared.table.getD command [] ≠ []

/-- A subscription finds its command in its section as it was in its lookup, and the
messages for a command go out in turn. -/
def Undisturbed (pool : (@system L _).Pool) : Event L → Prop
  | .calls _ (.insert command _) _ => command ∉ pool.shared.table
  | .calls _ (.append command _) _ => command ∈ pool.shared.table
  | .calls _ (.send (.subscribe command)) _ => ¬ Subscribed pool.shared command
  | .calls _ (.send (.unsubscribe command)) _ => Subscribed pool.shared command
  | _ => True

instance (listeners : Listeners L) (command : CpuCommand) : Decidable (Subscribed listeners command) :=
  inferInstanceAs (Decidable (_ = some true))

instance (pool : (@system L _).Pool) : DecidablePred (Undisturbed pool) := fun
  | .begins _ => .isTrue trivial
  | .calls _ (.insert command _) _ => inferInstanceAs (Decidable (command ∉ pool.shared.table))
  | .calls _ (.append command _) _ => inferInstanceAs (Decidable (command ∈ pool.shared.table))
  | .calls _ (.send (.subscribe command)) _ => inferInstanceAs (Decidable (¬ Subscribed pool.shared command))
  | .calls _ (.send (.unsubscribe command)) _ => inferInstanceAs (Decidable (Subscribed pool.shared command))
  | .calls _ (.find _) _ | .calls _ (.remove _ _) _ | .calls _ (.copy _) _ | .calls _ (.callOnReceiveCommand _ _ _) _ =>
      .isTrue trivial

end

/-- A program that does not throw as long as every append succeeds. -/
def Cautious : ListenerProgram L Unit → Prop
  | .pure _ => True
  | .throw => False
  | .call request next => ∀ reply, (∀ command listener, request = .append command listener → reply.result = true) →
      Cautious (next reply)

theorem Cautious.bind {program : ListenerProgram L Unit} {next : Unit → ListenerProgram L Unit}
    (cautious : Cautious program) (rest : Cautious (next ())) : Cautious (program >>= next) := by
  induction program with
  | pure value => exact rest
  | throw => exact cautious
  | call request more ih => exact fun reply appended => ih reply (cautious reply appended)

theorem subscribe_calls (command : CpuCommand) (listener : L) :
    subscribe command listener = .call (.find command) fun found =>
      if found.result then .call (.append command listener) fun appended => if appended.result then .pure () else .throw
      else .call (.insert command listener) fun _ => .call (.send (.subscribe command)) fun _ => .pure () := rfl

theorem unsubscribe_calls (command : CpuCommand) (listener : L) :
    unsubscribe command listener = .call (.remove command listener) fun last =>
      if last.result then .call (.send (.unsubscribe command)) fun _ => .pure () else .pure () := rfl

theorem cautious_subscribe (command : CpuCommand) (listener : L) : Cautious (subscribe command listener) := by
  rw [subscribe_calls]
  intro found _
  beta_reduce
  split
  · intro appended succeeds
    beta_reduce
    rw [if_pos (succeeds _ _ rfl)]
    trivial
  · exact fun _ _ _ _ => trivial

theorem cautious_unsubscribe (command : CpuCommand) (listener : L) : Cautious (unsubscribe command listener) := by
  rw [unsubscribe_calls]
  intro last _
  beta_reduce
  split
  · exact fun _ _ => trivial
  · trivial

theorem cautious_eachCommand {body : CpuCommand → ListenerProgram L Unit}
    (cautious : ∀ command, Cautious (body command))
    (commands : List CpuCommand) : Cautious (eachCommand body commands) := by
  induction commands with
  | nil => trivial
  | cons command commands ih => exact (cautious command).bind ih

theorem cautious_callListeners (command : CpuCommand) (data : Data) (listeners : List L) :
    Cautious (callListeners command data listeners) := by
  induction listeners with
  | nil => trivial
  | cons listener listeners ih => exact fun _ _ => ih

theorem cautious_program (task : ListenerTask L) : Cautious (program task) := by
  cases task with
  | subscribe command listener => exact cautious_subscribe command listener
  | subscribeAll commands listener => exact cautious_eachCommand (cautious_subscribe · listener) commands
  | unsubscribe command listener => exact cautious_unsubscribe command listener
  | unsubscribeAll commands listener => exact cautious_eachCommand (cautious_unsubscribe · listener) commands
  | notification command data => exact fun _ _ => cautious_callListeners command data _

/-- A section that makes the first or removes the last listener owes its message. -/
def owes : ListenerCall L → ListenerReply L → Option SubscriptionMessage
  | .insert command _, _ => some (.subscribe command)
  | .remove command _, reply => if reply.result then some (.unsubscribe command) else none
  | .find _, _ | .append _ _, _ | .copy _, _ | .send _, _ | .callOnReceiveCommand _ _ _, _ => none

/-- A message is sent by the task that owes it, as the next thing it does. -/
def Announces (request : ListenerCall L) (reply : ListenerReply L) (due : Option (ListenerCall L)) : Prop :=
  ∀ message, due = some (.send message) ↔ owes request reply = some message

def Quiet (due : Option (ListenerCall L)) : Prop := ∀ message, due ≠ some (.send message)

theorem announces_quiet {request : ListenerCall L} {reply : ListenerReply L} {due : Option (ListenerCall L)}
    (nothing : owes request reply = none) (quiet : Quiet due) : Announces request reply due := by
  intro message
  rw [nothing]
  exact iff_of_false (quiet message) (Option.some_ne_none _).symm

theorem announces_next {request : ListenerCall L} {reply : ListenerReply L} {due : Option (ListenerCall L)}
    (last : Announces request reply none) (quiet : Quiet due) : Announces request reply due := by
  refine announces_quiet ?_ quiet
  cases owed : owes request reply with
  | none => rfl
  | some message => exact absurd ((last message).mpr owed) (Option.some_ne_none _).symm

theorem quiet_none : Quiet (none : Option (ListenerCall L)) := fun _ => (Option.some_ne_none _).symm

theorem flows_subscribe (command : CpuCommand) (listener : L) : (subscribe command listener).Flows Announces := by
  rw [subscribe_calls]
  intro found
  beta_reduce
  by_cases known : found.result = true
  · rw [if_pos known]
    refine ⟨announces_quiet rfl fun message => by simp, fun appended => ?_⟩
    beta_reduce
    split
    · exact ⟨announces_quiet rfl quiet_none, trivial⟩
    · exact ⟨announces_quiet rfl quiet_none, trivial⟩
  · rw [if_neg known]
    refine ⟨announces_quiet rfl fun message => by simp, fun _ => ⟨fun message => by simp [owes], fun _ => ?_⟩⟩
    exact ⟨announces_quiet rfl quiet_none, trivial⟩

theorem flows_unsubscribe (command : CpuCommand) (listener : L) : (unsubscribe command listener).Flows Announces := by
  rw [unsubscribe_calls]
  intro last
  beta_reduce
  by_cases emptied : last.result = true
  · rw [if_pos emptied]
    exact ⟨fun message => by simp [owes, emptied], fun _ => ⟨announces_quiet rfl quiet_none, trivial⟩⟩
  · rw [if_neg emptied]
    exact ⟨announces_quiet (by simp [owes, emptied]) quiet_none, trivial⟩

theorem quiet_eachCommand {body : CpuCommand → ListenerProgram L Unit}
    (quiet : ∀ command (next : Unit → ListenerProgram L Unit), Quiet (body command >>= next).due)
    (commands : List CpuCommand) :
    Quiet (eachCommand body commands).due := by
  cases commands with
  | nil => exact quiet_none
  | cons command commands => exact quiet command _

theorem flows_eachCommand {body : CpuCommand → ListenerProgram L Unit}
    (flows : ∀ command, (body command).Flows Announces)
    (quiet : ∀ command (next : Unit → ListenerProgram L Unit), Quiet (body command >>= next).due)
    (commands : List CpuCommand) :
    (eachCommand body commands).Flows Announces := by
  induction commands with
  | nil => trivial
  | cons command commands ih =>
    exact (flows command).bind (fun _ => ih) fun request reply _ last => announces_next last
      (quiet_eachCommand quiet commands)

theorem quiet_callListeners (command : CpuCommand) (data : Data) (listeners : List L) :
    Quiet (callListeners command data listeners).due := by
  cases listeners with
  | nil => exact quiet_none
  | cons listener listeners => exact fun message => by simp [callListeners, Program.request_bind]

theorem flows_callListeners (command : CpuCommand) (data : Data) (listeners : List L) :
    (callListeners command data listeners).Flows Announces := by
  induction listeners with
  | nil => trivial
  | cons listener listeners ih => exact fun _ => ⟨announces_quiet rfl (quiet_callListeners command data listeners), ih⟩

theorem quiet_subscribe (command : CpuCommand) (listener : L) (next : Unit → ListenerProgram L Unit) :
    Quiet (subscribe command listener >>= next).due := by
  intro message
  rw [subscribe_calls]
  simp [Program.call_bind]

theorem quiet_unsubscribe (command : CpuCommand) (listener : L) (next : Unit → ListenerProgram L Unit) :
    Quiet (unsubscribe command listener >>= next).due := by
  intro message
  rw [unsubscribe_calls]
  simp [Program.call_bind]

theorem flows_program (task : ListenerTask L) : (program task).Flows Announces := by
  cases task with
  | subscribe command listener => exact flows_subscribe command listener
  | subscribeAll commands listener =>
    exact flows_eachCommand (flows_subscribe · listener) (quiet_subscribe · listener) commands
  | unsubscribe command listener => exact flows_unsubscribe command listener
  | unsubscribeAll commands listener =>
    exact flows_eachCommand (flows_unsubscribe · listener) (quiet_unsubscribe · listener) commands
  | notification command data =>
    exact fun copied => ⟨announces_quiet rfl (quiet_callListeners command data _), flows_callListeners command data _⟩

theorem quiet_program (task : ListenerTask L) : Quiet (program task).due := by
  cases task with
  | subscribe command listener => exact quiet_subscribe command listener .pure
  | subscribeAll commands listener => exact quiet_eachCommand (quiet_subscribe · listener) commands
  | unsubscribe command listener => exact quiet_unsubscribe command listener .pure
  | unsubscribeAll commands listener => exact quiet_eachCommand (quiet_unsubscribe · listener) commands
  | notification command data => exact fun message => by simp [program, onNotification, Program.request_bind]

theorem makes_subscribe [DecidableEq L] (command other : CpuCommand) (listener : L) :
    (subscribe other listener).Makes (holding command) (if other = command then [.hold listener] else []) := by
  rw [subscribe_calls]
  refine (Program.makes_unseen rfl).mpr fun found => ?_
  by_cases same : other = command
  · have appends : holding command (.append other listener) = some (.hold listener) := if_pos same
    have inserts : holding command (.insert other listener) = some (.hold listener) := if_pos same
    rw [if_pos same]
    split
    · refine (Program.makes_seen appends).mpr fun appended => ?_
      split
      · rfl
      · trivial
    · exact (Program.makes_seen inserts).mpr fun _ => (Program.makes_unseen rfl).mpr fun _ => rfl
  · have appends : holding command (.append other listener) = none := if_neg same
    have inserts : holding command (.insert other listener) = none := if_neg same
    rw [if_neg same]
    split
    · refine (Program.makes_unseen appends).mpr fun appended => ?_
      split
      · rfl
      · trivial
    · exact (Program.makes_unseen inserts).mpr fun _ => (Program.makes_unseen rfl).mpr fun _ => rfl

theorem makes_unsubscribe [DecidableEq L] (command other : CpuCommand) (listener : L) :
    (unsubscribe other listener).Makes (holding command) (if other = command then [.release listener] else []) := by
  have sends (last : ListenerReply L) : (if last.result then .call (.send (.unsubscribe other)) fun _ => .pure ()
      else .pure () : ListenerProgram L Unit).Makes (holding command) [] := by
    split
    · exact (Program.makes_unseen rfl).mpr fun _ => rfl
    · rfl
  rw [unsubscribe_calls]
  by_cases same : other = command
  · have removes : holding command (.remove other listener) = some (.release listener) := if_pos same
    rw [if_pos same]
    exact (Program.makes_seen removes).mpr sends
  · have removes : holding command (.remove other listener) = none := if_neg same
    rw [if_neg same]
    exact (Program.makes_unseen removes).mpr sends

theorem makes_eachCommand {view : ListenerCall L → Option (Holding L)} {body : CpuCommand → ListenerProgram L Unit}
    {expects : CpuCommand → List (Holding L)} (makes : ∀ command, (body command).Makes view (expects command))
    (commands : List CpuCommand) : (eachCommand body commands).Makes view (commands.flatMap expects) := by
  induction commands with
  | nil => rfl
  | cons command commands ih => exact (makes command).bind fun _ => ih

theorem program_makes [DecidableEq L] (command : CpuCommand) (task : ListenerTask L) :
    (program task).Makes (holding command) (operations command task) := by
  cases task with
  | subscribe other listener => exact makes_subscribe command other listener
  | subscribeAll others listener => exact makes_eachCommand (makes_subscribe command · listener) others
  | unsubscribe other listener => exact makes_unsubscribe command other listener
  | unsubscribeAll others listener => exact makes_eachCommand (makes_unsubscribe command · listener) others
  | notification other data =>
    refine (Program.makes_unseen rfl).mpr fun copied => ?_
    change (callListeners other data copied.listeners).Makes (holding command) []
    induction copied.listeners with
    | nil => rfl
    | cons listener listeners ih => exact (Program.makes_unseen rfl).mpr fun _ => ih

variable [DecidableEq L]

def owing (message : SubscriptionMessage) (_ : ListenerTask L) (due : Option (ListenerCall L)) : Nat :=
  if due = some (.send message) then 1 else 0

def told (listeners : Listeners L) (command : CpuCommand) (subscribes : Bool) : Nat :=
  (notices command listeners.sent).count subscribes

/-- A command is held by its listeners, what was told and is owed about it adds up to
whether it has any, and what was told alternates. -/
structure Follows (trace : List (Event L)) (pool : (@system L _).Pool) (command : CpuCommand) : Prop where
  holders : (pool.shared.table.getD command [] : Multiset L) = expected command trace
  filled : pool.shared.table[command]? ≠ some []
  owed : told pool.shared command true + pool.weigh (owing (.subscribe command)) =
    told pool.shared command false + pool.weigh (owing (.unsubscribe command)) +
      (pool.shared.table[command]?).isSome.toNat
  inTurn : Subscribed pool.shared command ∧ told pool.shared command true = told pool.shared command false + 1 ∨
    ¬ Subscribed pool.shared command ∧ told pool.shared command true = told pool.shared command false

variable {trace : List (Event L)} {pool after : (@system L _).Pool} {command : CpuCommand} {event : Event L}
  {index : Nat}
  {request : ListenerCall L} {reply : ListenerReply L}

theorem expected_snoc : expected command (trace ++ [event]) =
    ((Held.empty.after (trace.flatMap (holdings command))).after (holdings command event)).holders := by
  rw [expected, List.flatMap_append, Held.after_append, List.flatMap_singleton]

/-- What is about another command, or about none, changes nothing for this one. -/
theorem Follows.apart (follows : Follows trace pool command) (nothing : holdings command event = [])
    (entry : after.shared.table[command]? = pool.shared.table[command]?)
    (messages : notices command after.shared.sent = notices command pool.shared.sent)
    (same : ∀ message, notice command message ≠ none → after.weigh (owing message) = pool.weigh (owing message)) :
    Follows (trace ++ [event]) after command := by
  obtain ⟨holders, filled, owed, inTurn⟩ := follows
  refine ⟨?_, entry ▸ filled, ?_, ?_⟩
  · rw [expected_snoc, nothing, getD_of_entry entry, ← getD_of_entry rfl]
    exact holders
  · rw [told, told, messages, entry, same _ (by simp [notice]), same _ (by simp [notice])]
    exact owed
  · rw [told, told, Subscribed, messages]
    exact inTurn

/-- What a call of the library does to the commands that it is not about. -/
theorem Follows.other (follows : Follows trace pool command)
    (performed : after.shared = (pool.shared.perform request).2)
    (moved : ∀ message, after.weigh (owing message) + (if request = .send message then 1 else 0) =
      pool.weigh (owing message) + if owes request reply = some message then 1 else 0)
    (nothing : holding command request = none)
    (entry : changed request command pool.shared.table[command]? = pool.shared.table[command]?)
    (silent : ∀ message, notice command message ≠ none → request ≠ .send message ∧ owes request reply ≠ some message) :
    Follows (trace ++ [.calls index request reply]) after command := by
  refine follows.apart (congrArg Option.toList nothing) ?_ ?_ ?_
  · rw [performed, perform_entry, entry]
  · rw [performed, perform_sent, notices_append]
    cases request with
    | send message =>
      have unsaid : notice command message = none := by
        by_contra about
        exact (silent message about).1 rfl
      simp [sends, notices, unsaid]
    | _ => exact List.append_nil _
  · intro message about
    obtain ⟨unsent, unowed⟩ := silent message about
    have moved := moved message
    rwa [if_neg unsent, if_neg unowed] at moved

/-- A section of the command sends nothing, and what is owed afterwards fits its new entry. -/
theorem Follows.entered (follows : Follows trace pool command) {entry : Option (List L)}
    (left : after.shared.table[command]? = entry) (filled : entry ≠ some [])
    (counted : expected command (trace ++ [event]) = entry.getD []) (silent : after.shared.sent = pool.shared.sent)
    (owed : told pool.shared command true + after.weigh (owing (.subscribe command)) =
      told pool.shared command false + after.weigh (owing (.unsubscribe command)) + entry.isSome.toNat) :
    Follows (trace ++ [event]) after command := by
  refine ⟨?_, left ▸ filled, ?_, ?_⟩
  · rw [counted, getD_of_entry left]
  · rw [told, told, silent, left]
    exact owed
  · rw [told, told, Subscribed, silent]
    exact follows.inTurn

private theorem Follows.inserted {listener : L} (follows : Follows trace pool command)
    (performed : after.shared = (pool.shared.perform (.insert command listener)).2)
    (moved : ∀ message, after.weigh (owing message) =
      pool.weigh (owing message) + if .subscribe command = message then 1 else 0)
    (absent : command ∉ pool.shared.table) :
    Follows (trace ++ [.calls index (.insert command listener) reply]) after command := by
  have missing : pool.shared.table[command]? = none := by
    rw [Std.TreeMap.mem_iff_isSome_getElem?] at absent
    simpa using absent
  have left : after.shared.table[command]? = some [listener] := by
    rw [performed, perform_entry, missing, changed, if_pos rfl]
    rfl
  obtain ⟨holders, _, owed, _⟩ := id follows
  rw [getD_of_entry missing] at holders
  rw [missing] at owed
  refine follows.entered left (by simp) ?_ ?_ ?_
  · have here : holdings command (.calls index (.insert command listener) reply) = [.hold listener] := by
      simp [holdings, holding]
    rw [expected_snoc, here]
    change listener ::ₘ expected command trace = _
    rw [← holders]
    rfl
  · rw [performed, perform_sent, sends, List.append_nil]
  · have subscribing := moved (.subscribe command)
    have unsubscribing := moved (.unsubscribe command)
    simp at owed subscribing unsubscribing ⊢
    omega

private theorem Follows.appended {listener : L} (follows : Follows trace pool command)
    (performed : after.shared = (pool.shared.perform (.append command listener)).2)
    (moved : ∀ message, after.weigh (owing message) = pool.weigh (owing message))
    (present : command ∈ pool.shared.table) :
    Follows (trace ++ [.calls index (.append command listener) reply]) after command := by
  obtain ⟨listeners, found⟩ := Option.isSome_iff_exists.mp (Std.TreeMap.mem_iff_isSome_getElem?.mp present)
  have left : after.shared.table[command]? = some (listeners ++ [listener]) := by
    rw [performed, perform_entry, found, changed, if_pos rfl, Option.map_some]
  obtain ⟨holders, _, owed, _⟩ := id follows
  rw [getD_of_entry found] at holders
  rw [found] at owed
  refine follows.entered left (by simp) ?_ ?_ ?_
  · have here : holdings command (.calls index (.append command listener) reply) = [.hold listener] := by
      simp [holdings, holding]
    rw [expected_snoc, here]
    change listener ::ₘ expected command trace = _
    rw [← holders, Multiset.cons_coe, Option.getD_some, Multiset.coe_eq_coe]
    exact (List.perm_append_singleton listener listeners).symm
  · rw [performed, perform_sent, sends, List.append_nil]
  · rw [moved, moved]
    exact owed

/-- The listener is gone, and so is the entry if it was the last one. -/
private theorem Follows.removed {listener : L} (follows : Follows trace pool command)
    (answered : (reply, after.shared) = pool.shared.perform (.remove command listener))
    (moved : ∀ message, after.weigh (owing message) =
      pool.weigh (owing message) + if reply.result = true ∧ .unsubscribe command = message then 1 else 0) :
    Follows (trace ++ [.calls index (.remove command listener) reply]) after command := by
  have performed : after.shared = (pool.shared.perform (.remove command listener)).2 := congrArg Prod.snd answered
  have replied : reply = (pool.shared.perform (.remove command listener)).1 := congrArg Prod.fst answered
  have entry := perform_entry pool.shared (.remove command listener) command
  rw [← performed, changed, if_pos rfl] at entry
  have silent : after.shared.sent = pool.shared.sent := by
    rw [performed, perform_sent, sends, List.append_nil]
  have subscribing := moved (.subscribe command)
  have unsubscribing := moved (.unsubscribe command)
  obtain ⟨holders, filled, owed, _⟩ := id follows
  have released : expected command (trace ++ [.calls index (.remove command listener) reply]) =
      ((pool.shared.table.getD command []).erase listener : Multiset L) := by
    have here : holdings command (.calls index (.remove command listener) reply) = [.release listener] := by
      simp [holdings, holding]
    rw [expected_snoc, here, ← Multiset.coe_erase, holders]
    rfl
  cases found : pool.shared.table[command]? with
  | none =>
    have kept : reply.result = false := by
      rw [replied, perform, found]
    rw [found] at entry owed
    rw [getD_of_entry found] at released
    refine follows.entered entry (Option.some_ne_none _).symm released silent ?_
    simp [kept] at owed subscribing unsubscribing ⊢
    omega
  | some present =>
    rw [found, Option.bind_some] at entry
    rw [found] at owed
    rw [getD_of_entry found, Option.getD_some] at released
    by_cases last : present.erase listener = []
    · have member : listener ∈ present := by
        by_contra absent
        rw [List.erase_of_not_mem absent] at last
        exact filled (found.trans (congrArg some last))
      have emptied : reply.result = true := by
        rw [replied, perform, found]
        dsimp only
        rw [if_pos member, if_pos last]
      rw [if_pos member, if_pos last] at entry
      rw [last] at released
      refine follows.entered entry (Option.some_ne_none _).symm released silent ?_
      simp [emptied] at owed subscribing unsubscribing ⊢
      omega
    · have kept : reply.result = false := by
        rw [replied, perform, found]
        dsimp only
        by_cases member : listener ∈ present
        · rw [if_pos member, if_neg last]
        · rw [if_neg member]
      have left : after.shared.table[command]? = some (present.erase listener) := by
        rw [entry]
        by_cases member : listener ∈ present
        · rw [if_pos member, if_neg last]
        · rw [if_neg member, List.erase_of_not_mem member]
      refine follows.entered left (by simpa using last) released silent ?_
      simp [kept] at owed subscribing unsubscribing ⊢
      omega

/-- A message in turn tells what the last one did not. -/
private theorem Follows.sent {message : SubscriptionMessage} (follows : Follows trace pool command)
    (performed : after.shared = (pool.shared.perform (.send message)).2)
    (moved : ∀ other, after.weigh (owing other) + (if message = other then 1 else 0) = pool.weigh (owing other))
    (about : notice command message ≠ none) (undisturbed : Undisturbed pool (.calls index (.send message) reply)) :
    Follows (trace ++ [.calls index (.send message) reply]) after command := by
  obtain ⟨holders, filled, owed, inTurn⟩ := follows
  have entry : after.shared.table[command]? = pool.shared.table[command]? := by
    rw [performed, perform_entry, changed]
  have sent : notices command after.shared.sent = notices command pool.shared.sent ++ notices command [message] := by
    rw [performed, perform_sent, notices_append]
    rfl
  have subscribing := moved (.subscribe command)
  have unsubscribing := moved (.unsubscribe command)
  refine ⟨?_, entry ▸ filled, ?_, ?_⟩
  · rw [expected_snoc, getD_of_entry entry, ← getD_of_entry rfl]
    exact holders
  · rw [told, told, sent, List.count_append, List.count_append, entry]
    unfold told at owed
    cases message with
    | subscribe other =>
      have same : other = command := by simpa [notice] using about
      simp [same] at subscribing unsubscribing
      simp [notices, notice, same] at owed ⊢
      omega
    | unsubscribe other =>
      have same : other = command := by simpa [notice] using about
      simp [same] at subscribing unsubscribing
      simp [notices, notice, same] at owed ⊢
      omega
  · rw [told, told, Subscribed, sent, List.count_append, List.count_append]
    unfold told at inTurn
    cases message with
    | subscribe other =>
      obtain rfl : other = command := by simpa [notice] using about
      left
      obtain ⟨subscribed, _⟩ | ⟨_, even⟩ := inTurn
      · exact absurd subscribed undisturbed
      · simp [notices, notice] at even ⊢
        exact even
    | unsubscribe other =>
      obtain rfl : other = command := by simpa [notice] using about
      right
      obtain ⟨_, odd⟩ | ⟨unsubscribed, _⟩ := inTurn
      · simp [notices, notice] at odd ⊢
        exact odd
      · exact absurd undisturbed unsubscribed

theorem Follows.called (follows : Follows trace pool command)
    (answered : (reply, after.shared) = pool.shared.perform request)
    (moved : ∀ message, after.weigh (owing message) + (if request = .send message then 1 else 0) =
      pool.weigh (owing message) + if owes request reply = some message then 1 else 0)
    (undisturbed : Undisturbed pool (.calls index request reply)) :
    Follows (trace ++ [.calls index request reply]) after command := by
  have performed : after.shared = (pool.shared.perform request).2 := congrArg Prod.snd answered
  cases request with
  | find other => exact follows.other performed moved rfl rfl fun message _ => by simp [owes]
  | copy other => exact follows.other performed moved rfl rfl fun message _ => by simp [owes]
  | callOnReceiveCommand listener other data =>
    exact follows.other performed moved rfl rfl fun message _ => by simp [owes]
  | insert other listener =>
    by_cases same : other = command
    · subst same
      exact follows.inserted performed (by simpa [owes] using moved) undisturbed
    · refine follows.other performed moved (if_neg same) (if_neg same) fun message about => ⟨by simp, ?_⟩
      rintro ⟨rfl⟩
      exact about (if_neg same)
  | append other listener =>
    by_cases same : other = command
    · subst same
      exact follows.appended performed (by simpa [owes] using moved) undisturbed
    · exact follows.other performed moved (if_neg same) (if_neg same) fun message _ => by simp [owes]
  | remove other listener =>
    by_cases same : other = command
    · subst same
      exact follows.removed answered (by simpa [owes] using moved)
    · refine follows.other performed moved (if_neg same) (if_neg same) fun message about => ⟨by simp, ?_⟩
      intro owed
      obtain ⟨_, ⟨rfl⟩⟩ := Option.ite_none_right_eq_some.mp owed
      exact about (if_neg same)
  | send message =>
    by_cases about : notice command message = none
    · refine follows.other performed moved rfl rfl fun other about => ⟨?_, (Option.some_ne_none _).symm⟩
      rintro ⟨rfl⟩
      contradiction
    · exact follows.sent performed (by simpa [owes] using moved) about undisturbed

theorem Follows.stepped (follows : Follows trace pool command) (step : System.Step (@system L _) pool event after)
    (undisturbed : Undisturbed pool event) : Follows (trace ++ [event]) after command := by
  cases event with
  | begins task =>
    obtain ⟨same, moved, -⟩ := step.begun
    refine follows.apart rfl (by rw [same]) (by rw [same]) fun message _ => ?_
    have quiet : ¬ (system.program task).due = some (.send message) := quiet_program task message
    rw [moved, owing, if_neg quiet]
    rfl
  | calls index request reply =>
    obtain ⟨task, due, announces, -, answered, moved, -⟩ := step.called fun task => flows_program task
    refine follows.called answered (fun message => ?_) undisturbed
    have moved := moved (owing message)
    simpa only [owing, Option.some.injEq, announces message] using moved

/-- Everything under way is cautious, since every append finds its command. -/
theorem cautious_stepped (cautious : ∀ activity ∈ pool.tasks, Cautious activity.rest)
    (step : System.Step (@system L _) pool event after)
    (undisturbed : Undisturbed pool event) : ∀ activity ∈ after.tasks, Cautious activity.rest := by
  cases step with
  | begins allowed =>
    intro activity member
    rcases List.mem_append.mp member with member | member
    · exact cautious activity member
    · rw [List.mem_singleton.mp member]
      exact cautious_program _
  | @calls tasks shared index activity request next reply changed found due answered =>
    intro other member
    rcases List.mem_or_eq_of_mem_set member with member | rfl
    · exact cautious other member
    · have calling := cautious activity (List.mem_of_getElem? found)
      rw [due] at calling
      refine calling reply ?_
      rintro command listener rfl
      obtain ⟨present, found⟩ := Option.isSome_iff_exists.mp (Std.TreeMap.mem_iff_isSome_getElem?.mp undisturbed)
      have replied : reply = (shared.perform (.append command listener)).1 := congrArg Prod.fst answered
      rw [replied, perform, found]

theorem follows_initial : Follows [] (⟨[], initial⟩ : (@system L _).Pool) command :=
  ⟨rfl, (Option.some_ne_none []).symm, rfl, .inr ⟨(Option.some_ne_none true).symm, rfl⟩⟩

/-- With nothing owed the daemon has been told last what is the case. -/
theorem Follows.settled (follows : Follows trace pool command) (idle : pool.Idle) :
    Subscribed pool.shared command ↔ pool.shared.table.getD command [] ≠ [] := by
  obtain ⟨_, filled, owed, inTurn⟩ := follows
  rw [idle.weigh fun _ => rfl, idle.weigh fun _ => rfl] at owed
  cases found : pool.shared.table[command]? with
  | none =>
    rw [found] at owed
    rw [getD_of_entry found]
    obtain ⟨_, odd⟩ | ⟨unsubscribed, _⟩ := inTurn
    · simp [odd] at owed
    · simpa using unsubscribed
  | some present =>
    rw [found] at owed filled
    rw [getD_of_entry found]
    obtain ⟨subscribed, _⟩ | ⟨_, even⟩ := inTurn
    · exact iff_of_true subscribed fun none => filled (congrArg some none)
    · simp [even] at owed

structure Orderly (trace : List (Event L)) (pool : (@system L _).Pool) : Prop where
  follows : ∀ command, Follows trace pool command
  cautious : ∀ activity ∈ pool.tasks, Cautious activity.rest

theorem orderly (kept : system.Keeps Undisturbed ⟨[], (initial : Listeners L)⟩ trace pool) : Orderly trace pool := by
  refine kept.invariant ⟨fun _ => follows_initial, by simp⟩ ?_
  intro trace pool event after orderly step undisturbed
  exact ⟨fun command => (orderly.follows command).stepped step undisturbed,
    cautious_stepped orderly.cautious step undisturbed⟩

/-- What is done about a command is done by a task that is to do it. -/
private theorem operation_of_holding (reached : system.Reaches ⟨[], (initial : Listeners L)⟩ trace pool)
    {operation : Holding L} (member : operation ∈ trace.flatMap (holdings command)) :
    ∃ activity ∈ pool.tasks, operation ∈ operations command activity.task := by
  obtain ⟨event, called, means⟩ := List.mem_flatMap.mp member
  cases event with
  | begins task => exact absurd means List.not_mem_nil
  | calls index call reply =>
    obtain ⟨activity, found, made⟩ := reached.activity called
    refine ⟨activity, List.mem_of_getElem? found, (Activity.makes (program_makes command activity.task)).1.subset ?_⟩
    rw [made]
    exact List.mem_filterMap.mpr ⟨(call, reply), mem_own.mpr called, Option.mem_toList.mp means⟩

/-- No listener is lost in a run whose subscriptions and messages are undisturbed. -/
theorem none_lost (trace : List (Event L)) (pool : (@system L _).Pool)
    (kept : system.Keeps Undisturbed ⟨[], initial⟩ trace pool) : NoneLost trace pool := by
  obtain ⟨follows, cautious⟩ := orderly kept
  have reached := kept.reaches
  refine ⟨?_, ?_, fun command => (follows command).holders, ?_, fun idle command => (follows command).settled idle⟩
  · intro activity member threw
    have unthrown := cautious activity member
    rw [threw] at unthrown
    exact unthrown
  · intro command index activity found
    rw [← made_of_found reached found]
    exact Activity.makes (program_makes command activity.task)
  · intro activity member finished command listener holds unreleased
    rw [← Multiset.mem_coe, (follows command).holders]
    refine Held.mem_after (fun released => ?_) (.inr ?_)
    · obtain ⟨other, there, releases⟩ := operation_of_holding reached released
      exact unreleased other there releases
    · obtain ⟨index, found⟩ := List.mem_iff_getElem?.mp member
      rw [← (Activity.makes (program_makes command activity.task)).2 finished, made_of_found reached found] at holds
      obtain ⟨⟨call, reply⟩, called, means⟩ := List.mem_filterMap.mp holds
      exact List.mem_flatMap.mpr ⟨_, mem_own.mp called, Option.mem_toList.mpr means⟩

/-- Two subscriptions one after the other, and one that is taken back. -/
theorem none_lost_orderly : ∃ (trace : List (Event Nat)) (pool : _), system.Keeps Undisturbed ⟨[], initial⟩ trace pool ∧
    pool.Idle ∧ pool.shared.table.getD (4, 0) [] = [2] ∧ Subscribed pool.shared (4, 0) ∧ NoneLost trace pool := by
  let turns : List (Turn (ListenerTask Nat) Unit) :=
    [.begins (.subscribe (4, 0) 1), .calls 0 (), .calls 0 (), .calls 0 (),
    .begins (.subscribe (4, 0) 2), .calls 1 (), .begins (.unsubscribe (4, 0) 1), .calls 1 (), .calls 2 ()]
  have obeyed : obeys (fun _ shared _ => some shared) replies Undisturbed ⟨[], initial⟩ turns = true := by
    decide +kernel
  have checked : (play turns).any (fun result => decide (result.2.Idle ∧ result.2.shared.table.getD (4, 0) [] = [2] ∧
      Subscribed result.2.shared (4, 0))) = true := by
    decide +kernel
  obtain ⟨trace, pool, kept, checked⟩ := exists_kept replies_allowed obeyed checked
  obtain ⟨idle, listeners, subscribed⟩ := of_decide_eq_true checked
  exact ⟨trace, pool, kept, idle, listeners, subscribed, none_lost trace pool kept⟩

/-- Two threads look the same command up before either of them enters its section. -/
theorem listener_lost : ¬ ∀ (trace : List (Event Nat)) (pool : _), system.Reaches ⟨[], initial⟩ trace pool →
    NoneLost trace pool := by
  have checked :
    (play [.begins (.subscribe (4, 0) 1), .begins (.subscribe (4, 0) 2), .calls 0 (), .calls 1 (), .calls 0 (),
      .calls 1 (), .calls 0 (), .calls 1 ()]).any (fun result : List (Event Nat) × _ =>
        decide (result.2.tasks.map (·.task) = [.subscribe (4, 0) 1, .subscribe (4, 0) 2] ∧ result.2.Idle ∧
          result.2.shared.table.getD (4, 0) [] = [1])) = true := by
    decide +kernel
  obtain ⟨trace, pool, reached, checked⟩ := exists_run replies_allowed checked
  obtain ⟨tasks, idle, listeners⟩ := of_decide_eq_true checked
  intro none
  have known (activity) (member : activity ∈ pool.tasks) : activity.task ∈ [.subscribe (4, 0) 1, .subscribe (4, 0) 2] :=
    tasks ▸ List.mem_map_of_mem member
  obtain ⟨activity, member, task⟩ : ∃ activity ∈ pool.tasks, activity.task = .subscribe (4, 0) 2 :=
    List.mem_map.mp (tasks ▸ List.mem_cons_of_mem _ (List.mem_singleton_self _))
  have there := (none trace pool reached).returned activity member (idle activity member) (4, 0) 2
    (by rw [task]; exact List.mem_singleton_self _) fun other member => by
      rcases List.mem_cons.mp (known other member) with same | last
      · rw [same]
        decide
      · rw [List.mem_singleton.mp last]
        decide
  rw [listeners] at there
  exact absurd there (by decide)

end CpuCom.Messaging.Listeners
