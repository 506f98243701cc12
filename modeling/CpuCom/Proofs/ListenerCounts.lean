import CpuCom.Interaction.Holders
import CpuCom.Messaging.Listeners

/-! The listeners of one thread are reference counts. For each command the library
refines a resource that is held by its listeners, and the messages to the daemon are
the edges of that resource. -/

namespace CpuCom.Messaging.Listeners
open Interaction
open Uart (CpuCommand)

variable {L : Type}

variable [DecidableEq L]

/-- A command is held by its listeners, and its messages are the edges. Without
listeners it has no entry. -/
structure Tracks (listeners : Listeners L) (command : CpuCommand) (held : Held L) : Prop where
  holders : (listeners.table.getD command [] : Multiset L) = held.holders
  edges : notices command listeners.sent = held.edges
  filled : listeners.table[command]? ≠ some []

def Refines (listeners : Listeners L) (held : CpuCommand → Held L) : Prop :=
  ∀ command, Tracks listeners command (held command)

def operations (command : CpuCommand) : ListenerTask L → List (Holding L)
  | .subscribe other listener => if other = command then [.hold listener] else []
  | .subscribeAll others listener => others.flatMap fun other => if other = command then [.hold listener] else []
  | .unsubscribe other listener => if other = command then [.release listener] else []
  | .unsubscribeAll others listener => others.flatMap fun other => if other = command then [.release listener] else []
  | .notification _ _ => []

variable {listeners after : Listeners L} {held : CpuCommand → Held L} {command : CpuCommand} {listener : L}

theorem Refines.operated (refines : Refines listeners held) (operation : Holding L)
    (others : ∀ other, command ≠ other → after.table[other]? = listeners.table[other]? ∧
      notices other after.sent = notices other listeners.sent)
    (here : Tracks after command ((held command).step operation)) :
    Refines after fun other => (held other).after (if command = other then [operation] else []) := by
  intro other
  change Tracks after other ((held other).after (if command = other then [operation] else []))
  by_cases same : command = other
  · subst same
    rw [if_pos rfl]
    exact here
  · obtain ⟨entry, messages⟩ := others other same
    obtain ⟨holders, edges, filled⟩ := refines other
    rw [if_neg same]
    refine ⟨?_, messages.trans edges, entry ▸ filled⟩
    rw [getD_of_entry entry, ← getD_of_entry rfl]
    exact holders

theorem Refines.subscribed (refines : Refines listeners held) (command : CpuCommand) (listener : L) :
    ∃ after, (subscribe command listener).runOn answer listeners = some ((), after) ∧
      Refines after fun other => (held other).after (if command = other then [.hold listener] else []) := by
  obtain ⟨holders, edges, filled⟩ := refines command
  cases entry : listeners.table[command]? with
  | none =>
    have missing : listeners.table.contains command = false := by
      rw [Std.TreeMap.contains_eq_isSome_getElem?, entry]
      rfl
    rw [getD_of_entry entry] at holders
    have none : (held command).holders = 0 := holders.symm
    let inserted := (listeners.perform (.insert command listener)).2
    have first : inserted.table[command]? = some [listener] := by
      rw [perform_entry, entry, changed, if_pos rfl]
      rfl
    refine ⟨(inserted.perform (.send (.subscribe command))).2, ?_, refines.operated _ ?_ ?_⟩
    · simp [subscribe, Program.runOn, answer, perform, missing, inserted]
    · intro other different
      constructor
      · rw [perform_entry, perform_entry, changed, changed, if_neg different]
      · rw [perform_sent, perform_sent, notices_append, notices_append]
        simp [sends, notices, notice, different]
    · refine ⟨?_, ?_, ?_⟩
      · have kept : (inserted.perform (.send (.subscribe command))).2.table[command]? = some [listener] :=
          (perform_entry _ _ _).trans first
        rw [getD_of_entry kept, Held.step, Held.become, none]
        rfl
      · rw [perform_sent, perform_sent, notices_append, notices_append, edges]
        simp [sends, notices, notice, Held.step, Held.become, none]
      · rw [perform_entry, changed, first]
        simp
  | some present =>
    have found : listeners.table.contains command = true := by
      rw [Std.TreeMap.contains_eq_isSome_getElem?, entry]
      rfl
    rw [getD_of_entry entry, Option.getD_some] at holders
    have some : (held command).holders ≠ 0 := by
      rw [← holders]
      intro none
      rw [Multiset.coe_eq_zero] at none
      exact filled (entry.trans (congrArg Option.some none))
    refine ⟨(listeners.perform (.append command listener)).2, ?_, refines.operated _ ?_ ?_⟩
    · simp [subscribe, Program.runOn, answer, perform, found, entry]
    · intro other different
      constructor
      · rw [perform_entry, changed, if_neg different]
      · rw [perform_sent, sends, List.append_nil]
    · have longer :
          (listeners.perform (.append command listener)).2.table[command]? = Option.some (present ++ [listener]) := by
        rw [perform_entry, entry, changed, if_pos rfl, Option.map_some]
      refine ⟨?_, ?_, ?_⟩
      · rw [getD_of_entry longer, Held.step, Held.become, ← holders, Multiset.cons_coe, Option.getD_some,
          Multiset.coe_eq_coe]
        exact List.perm_append_singleton _ _
      · rw [perform_sent, sends, List.append_nil, edges]
        simp [Held.step, Held.become, some]
      · rw [longer]
        simp

theorem Refines.released (refines : Refines listeners held) {present left : List L}
    (entry : listeners.table[command]? = some present) (nonempty : left ≠ []) (same : left = present.erase listener)
    (removed : (listeners.perform (.remove command listener)).1.result = false)
    (kept : (listeners.perform (.remove command listener)).2.table[command]? = some left) :
    ∃ after, (unsubscribe command listener).runOn answer listeners = some ((), after) ∧
      Refines after fun other => (held other).after (if command = other then [.release listener] else []) := by
  obtain ⟨holders, edges, filled⟩ := refines command
  rw [getD_of_entry entry, Option.getD_some] at holders
  refine ⟨(listeners.perform (.remove command listener)).2, ?_, refines.operated _ ?_ ?_⟩
  · simp [unsubscribe, Program.runOn, answer, removed]
  · intro other different
    constructor
    · rw [perform_entry, changed, if_neg different]
    · rw [perform_sent, sends, List.append_nil]
  · have some : (held command).holders ≠ 0 := by
      rw [← holders, ne_eq, Multiset.coe_eq_zero]
      intro none
      exact filled (entry.trans (congrArg Option.some none))
    have others : (held command).holders.erase listener ≠ 0 := by
      rw [← holders, Multiset.coe_erase, ← same, ne_eq, Multiset.coe_eq_zero]
      exact nonempty
    refine ⟨?_, ?_, ?_⟩
    · rw [getD_of_entry kept, Held.step, Held.become, ← holders, Multiset.coe_erase, same, Option.getD_some]
    · rw [perform_sent, sends, List.append_nil, edges]
      simp [Held.step, Held.become, some, others]
    · rw [kept]
      simpa using nonempty

theorem Refines.unsubscribed (refines : Refines listeners held) (command : CpuCommand) (listener : L) :
    ∃ after, (unsubscribe command listener).runOn answer listeners = some ((), after) ∧
      Refines after fun other => (held other).after (if command = other then [.release listener] else []) := by
  obtain ⟨holders, edges, filled⟩ := refines command
  cases entry : listeners.table[command]? with
  | none =>
    rw [getD_of_entry entry] at holders
    have none : (held command).holders = 0 := holders.symm
    refine ⟨listeners, ?_, refines.operated _ (fun _ _ => ⟨rfl, rfl⟩) ?_⟩
    · simp [unsubscribe, Program.runOn, answer, perform, entry]
    · refine ⟨?_, ?_, filled⟩
      · rw [getD_of_entry entry, Held.step, Held.become, none]
        rfl
      · rw [edges]
        simp [Held.step, Held.become, none]
  | some present =>
    have cleared := perform_entry listeners (.remove command listener) command
    rw [entry, changed, if_pos rfl, Option.bind_some] at cleared
    by_cases member : listener ∈ present
    · rw [if_pos member] at cleared
      by_cases last : present.erase listener = []
      · rw [if_pos last] at cleared
        have removed : (listeners.perform (.remove command listener)).1.result = true := by
          rw [perform, entry]
          dsimp only
          rw [if_pos member, if_pos last]
        let without := (listeners.perform (.remove command listener)).2
        rw [getD_of_entry entry, Option.getD_some] at holders
        have alone : (held command).holders.erase listener = 0 := by
          rw [← holders, Multiset.coe_erase, last]
          rfl
        have some : (held command).holders ≠ 0 := by
          rw [← holders, ne_eq, Multiset.coe_eq_zero]
          exact List.ne_nil_of_mem member
        refine ⟨(without.perform (.send (.unsubscribe command))).2, ?_, refines.operated _ ?_ ?_⟩
        · simp [unsubscribe, Program.runOn, answer, removed, without]
        · intro other different
          constructor
          · rw [perform_entry, perform_entry, changed, changed, if_neg different]
          · rw [perform_sent, perform_sent, notices_append, notices_append]
            simp [sends, notices, notice, different]
        · have gone : (without.perform (.send (.unsubscribe command))).2.table[command]? = Option.none :=
            (perform_entry _ _ _).trans cleared
          refine ⟨?_, ?_, ?_⟩
          · rw [getD_of_entry gone, Held.step, Held.become, alone]
            rfl
          · rw [perform_sent, perform_sent, notices_append, notices_append, edges]
            simp [sends, notices, notice, Held.step, Held.become, alone, some]
          · rw [gone]
            exact (Option.some_ne_none []).symm
      · rw [if_neg last] at cleared
        refine refines.released entry last rfl ?_ cleared
        rw [perform, entry]
        dsimp only
        rw [if_pos member, if_neg last]
    · rw [if_neg member] at cleared
      have nonempty : present ≠ [] := by
        rintro rfl
        exact filled entry
      refine refines.released entry nonempty (List.erase_of_not_mem member).symm ?_ cleared
      rw [perform, entry]
      dsimp only
      rw [if_neg member]

theorem Refines.eachCommand {body : CpuCommand → ListenerProgram L Unit} {operation : Holding L}
    (single : ∀ {listeners held}, Refines listeners held → ∀ command, ∃ after,
      (body command).runOn answer listeners = some ((), after) ∧
        Refines after fun other => (held other).after (if command = other then [operation] else []))
    (refines : Refines listeners held) (commands : List CpuCommand) :
    ∃ after, (Listeners.eachCommand body commands).runOn answer listeners = some ((), after) ∧
      Refines after fun other =>
        (held other).after (commands.flatMap fun command => if command = other then [operation] else []) := by
  induction commands generalizing listeners held with
  | nil => exact ⟨listeners, rfl, refines⟩
  | cons command commands ih =>
    obtain ⟨middle, first, between⟩ := single refines command
    obtain ⟨after, rest, refined⟩ := ih between
    refine ⟨after, ?_, ?_⟩
    · rw [Listeners.eachCommand, Program.runOn_bind, first]
      exact rest
    · intro other
      have tracks : Tracks after other (((held other).after _).after _) := refined other
      rwa [← Held.after_append] at tracks

theorem callListeners_run (command : CpuCommand) (data : Data) (called : List L) :
    (callListeners command data called).runOn answer listeners =
      some ((), { listeners with
        called := listeners.called ++ called.map fun listener => (listener, command, data) }) := by
  induction called generalizing listeners with
  | nil => simp [callListeners]
  | cons listener called ih =>
    let told := { listeners with called := listeners.called ++ [(listener, command, data)] }
    have performed : answer listeners (.callOnReceiveCommand listener command data) = some ({}, told) := rfl
    rw [callListeners, Program.request_bind, Program.runOn_call performed, @ih told]
    simp [told]

/-- A notification calls the listeners of its command and changes nothing else. -/
theorem onNotification_run (listeners : Listeners L) (command : CpuCommand) (data : Data) :
    (onNotification command data).runOn answer listeners =
      some ((), { listeners with
        called := listeners.called ++ (listeners.table.getD command []).map
          fun listener => (listener, command, data) }) := by
  have performed :
    answer listeners (.copy command) = some ({ listeners := listeners.table.getD command [] }, listeners) := rfl
  rw [onNotification, Program.request_bind, Program.runOn_call performed]
  exact callListeners_run command data _

theorem Refines.program (refines : Refines listeners held) (task : ListenerTask L) :
    ∃ after, (Listeners.program task).runOn answer listeners = some ((), after) ∧
      Refines after fun other => (held other).after (operations other task) := by
  cases task with
  | subscribe command listener => exact refines.subscribed command listener
  | unsubscribe command listener => exact refines.unsubscribed command listener
  | subscribeAll commands listener =>
    exact refines.eachCommand (fun refines command => refines.subscribed command listener) commands
  | unsubscribeAll commands listener =>
    exact refines.eachCommand (fun refines command => refines.unsubscribed command listener) commands
  | notification command data =>
    refine ⟨_, onNotification_run listeners command data, ?_⟩
    intro other
    obtain ⟨holders, edges, filled⟩ := refines other
    exact ⟨holders, edges, filled⟩

theorem Refines.run (refines : Refines listeners held) (tasks : List (ListenerTask L)) :
    ∃ after, listeners.run tasks = some after ∧
      Refines after fun other => (held other).after (tasks.flatMap (operations other)) := by
  induction tasks generalizing listeners held with
  | nil => exact ⟨listeners, rfl, refines⟩
  | cons task tasks ih =>
    obtain ⟨middle, first, between⟩ := refines.program task
    obtain ⟨after, rest, refined⟩ := ih between
    refine ⟨after, ?_, ?_⟩
    · rw [Listeners.run, first]
      exact rest
    · intro other
      have tracks : Tracks after other (((held other).after _).after _) := refined other
      rwa [← Held.after_append] at tracks

/-- After any calls of one thread the listeners of each command are those that hold
it, its messages alternate beginning with a subscription, the last of them tells
whether there is a listener, and a notification calls each listener as often as it
holds. -/
theorem listeners_counted (tasks : List (ListenerTask L)) :
    ∃ after, (initial : Listeners L).run tasks = some after ∧ ∀ command,
      let holders := (Held.empty.after (tasks.flatMap (operations command))).holders
      (after.table.getD command [] : Multiset L) = holders ∧ (command ∈ after.table ↔ holders ≠ 0) ∧
        (notices command after.sent).IsChain (· ≠ ·) ∧ (notices command after.sent).head? ≠ some false ∧
        ((notices command after.sent).getLast? = some true ↔ holders ≠ 0) ∧
        ∀ data, ∃ last calls, (onNotification command data).runOn answer after = some ((), last) ∧
          last.called = after.called ++ calls ∧ (calls.map Prod.fst : Multiset L) = holders ∧
          ∀ call ∈ calls, call.2 = (command, data) := by
  have start : Refines (initial : Listeners L) fun _ => Held.empty := by
    intro command
    exact ⟨rfl, rfl, (Option.some_ne_none []).symm⟩
  obtain ⟨after, ran, refines⟩ := start.run tasks
  refine ⟨after, ran, ?_⟩
  intro command
  obtain ⟨holders, edges, filled⟩ := refines command
  obtain ⟨turns, first, last⟩ := Held.alternates_empty.after (tasks.flatMap (operations command))
  rw [← edges] at turns first last
  refine ⟨holders, ?_, turns, first, last, ?_⟩
  · rw [← holders, ne_eq, Multiset.coe_eq_zero, Std.TreeMap.getD_eq_getD_getElem?, Std.TreeMap.mem_iff_isSome_getElem?]
    cases entry : after.table[command]? with
    | none => simp
    | some present =>
      rw [entry] at filled
      simpa using filled
  · intro data
    refine ⟨_, _, onNotification_run after command data, rfl, ?_, ?_⟩
    · rw [List.map_map]
      exact (congrArg _ (List.map_id _)).trans holders
    · intro call member
      obtain ⟨listener, _, rfl⟩ := List.mem_map.mp member
      rfl

end CpuCom.Messaging.Listeners
