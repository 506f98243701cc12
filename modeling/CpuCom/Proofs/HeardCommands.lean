import CpuCom.Interaction.Pools
import CpuCom.Proofs.ListenerWiring
import CpuCom.Service.JavaThread

/-! What a listener hears. While it is left where it is, what it has heard and what is on
the way to its wrapper are the notifications of its command that have come for its process. -/

namespace CpuCom.Service
open Interaction

variable {B : Type}

def receivedOf (command : Uart.CpuCommand) (data : Messaging.Data) : Received :=
  ⟨(widen command).1, (widen command).2, data.map UInt8.toInt8⟩

/-- The calls of the wrapper for the command of the process. -/
def meant (pid : Int) (wanted : Uart.CpuCommand) (wrapper : Nat) : Int × WrapperCall → Option Received
  | (other, call) =>
      if other = pid ∧ call.command = wanted ∧ call.wrapper = wrapper then some (receivedOf call.command call.data)
      else none

def notified (wanted : Uart.CpuCommand) : Uart.CpuCommand × Messaging.Data → Option Received
  | (command, data) => if command = wanted then some (receivedOf command data) else none

def JavaThreadEvent.arrived (pid : Int) (wanted : Uart.CpuCommand) : JavaThreadEvent B → Option Received
  | .arrives other command data => if other = pid then notified wanted (command, data) else none
  | _ => none

namespace JavaThread
variable [LinearOrder B]

def heardBy (thread : JavaThread B) (pid : Int) (wanted : Uart.CpuCommand) (wrapper : Nat) (listener : B) :
    List Received :=
  thread.heard.filterMap fun (entry, who, received) =>
    if who = listener ∧ (meant pid wanted wrapper entry).isSome then some received else none

/-- What is on the way to the wrapper, and before the rest what has come first. -/
def onTheWay (thread : JavaThread B) (pid : Int) (wanted : Uart.CpuCommand) (wrapper : Nat) : List Received :=
  thread.queue.filterMap (meant pid wanted wrapper) ++
    ((thread.found pid).filterMap (fun call => meant pid wanted wrapper (pid, call)) ++
      (thread.incoming pid).filterMap (notified wanted))

/-- The listener is left where it is. -/
def Spares (pid : Int) (wanted : Uart.CpuCommand) (listener : B) (thread : JavaThread B) : JavaThreadEvent B → Prop
  | .serves event => thread.executor.Spares pid wanted listener event
  | _ => True

/-- The native part calls the wrapper of the listener. -/
structure Connected (pid : Int) (wanted : Uart.CpuCommand) (listener : B) (wrapper : Nat) (service : ServiceState B) :
    Prop where
  wired : service.Wired
  listens : service.Listens pid wanted listener wrapper

variable {thread next after : JavaThread B} {event : JavaThreadEvent B} {events : List (JavaThreadEvent B)}
  {pid other : Int} {wanted command : Uart.CpuCommand} {data : Messaging.Data} {listener : B} {wrapper place : Nat}
  {service : ServiceState B} {call : WrapperCall}

theorem Connected.callback (connected : Connected pid wanted listener wrapper service) :
    service.native.callbackOf pid wanted = some (some (.onCommand wrapper)) := by
  obtain ⟨client, there, rfl, kept, -⟩ := connected.listens
  exact connected.wired.mirrored client there wanted wrapper kept

theorem Connected.known (connected : Connected pid wanted listener wrapper service) : pid ∈ service.native.gClients := by
  obtain ⟨client, found, -⟩ := Option.bind_eq_some_iff.mp connected.callback
  exact Std.TreeMap.mem_iff_isSome_getElem?.mpr (found ▸ rfl)

theorem lookup_eq : lookup service pid command data = (service.native.callbackOf pid command).bind fun
    | some (.onCommand wrapper) => some ⟨wrapper, command, data⟩
    | _ => none := by
  rw [lookup, NativeClients.callbackOf]
  cases found : service.native.gClients[pid]? with
  | none => rw [NativeClients.onNotification, found]; rfl
  | some client =>
    rw [NativeClients.onNotification_eq found, Std.TreeMap.getD_eq_getD_getElem?, Option.bind_some]
    cases client.callbacks[command]? with
    | none => rfl
    | some callback =>
      cases callback with
      | none => rfl
      | some callback => cases callback <;> rfl

theorem Connected.looked (connected : Connected pid wanted listener wrapper service) :
    (lookup service pid command data).toList.filterMap (fun call => meant pid wanted wrapper (pid, call)) =
      (notified wanted (command, data)).toList := by
  by_cases same : command = wanted
  · subst same
    rw [lookup_eq, connected.callback]
    simp [meant, notified]
  · have missed : ∀ call ∈ lookup service pid command data, call.command ≠ wanted := by
      intro call found
      rw [lookup_eq] at found
      obtain ⟨callback, -, found⟩ := Option.bind_eq_some_iff.mp found
      split at found
      · obtain rfl := Option.some.inj found
        exact same
      · cases found
    cases found : lookup service pid command data with
    | none => simp [notified, same]
    | some call => simp [notified, meant, same, missed call found]

private theorem once_heard {listeners : List B} {received : Received} (nodup : listeners.Nodup)
    (member : listener ∈ listeners) :
    listeners.filterMap (fun who => if who = listener then some received else none) = [received] := by
  obtain ⟨first, rest, rfl⟩ := List.append_of_mem member
  obtain ⟨-, apart, others⟩ := List.nodup_append.mp nodup
  have before : ∀ who ∈ first, ¬ who = listener := fun who there => others who there listener List.mem_cons_self
  have behind : ∀ who ∈ rest, ¬ who = listener := fun who there same =>
    (List.nodup_cons.mp apart).1 (same ▸ there)
  have nothing (others : List B) (apart : ∀ who ∈ others, ¬ who = listener) :
      others.filterMap (fun who => if who = listener then some received else none) = [] :=
    List.filterMap_eq_nil_iff.mpr fun who there => if_neg (apart who there)
  rw [List.filterMap_append, nothing first before, List.filterMap_cons, if_pos rfl, nothing rest behind]
  rfl

/-- A call of the wrapper is heard by the listener, once. -/
theorem Connected.reached (connected : Connected pid wanted listener wrapper service) :
    (((service.wrapper call.wrapper).onCommand (widen call.command).1 (widen call.command).2
      (call.data.map UInt8.toInt8)).map ((other, call), ·)).filterMap (fun (entry, who, received) =>
        if who = listener ∧ (meant pid wanted wrapper entry).isSome then some received else none) =
      (meant pid wanted wrapper (other, call)).toList := by
  obtain ⟨client, -, -, -, member⟩ := connected.listens
  rw [RemoteCallbackList.onCommand, List.map_map, List.filterMap_map]
  by_cases mine : other = pid ∧ call.command = wanted ∧ call.wrapper = wrapper
  · have same : meant pid wanted wrapper (other, call) = some (receivedOf call.command call.data) := if_pos mine
    rw [same, mine.2.2]
    refine Eq.trans (congrFun (congrArg _ (funext fun who => ?_)) _)
      (once_heard (service.wrapper wrapper).nodup member)
    simp [same, receivedOf]
  · have none : meant pid wanted wrapper (other, call) = none := if_neg mine
    rw [none]
    exact List.filterMap_eq_nil_iff.mpr fun who _ => by simp [none]

private theorem filterMap_item {α β : Type} {read : α → Option β} {item : α} {items : List α} :
    (item :: items).filterMap read = (read item).toList ++ items.filterMap read := by
  rw [List.filterMap_cons]
  cases read item <;> rfl

theorem step_heard (connected : Connected pid wanted listener wrapper thread.executor.service)
    (spares : thread.Spares pid wanted listener event) :
    Outcome (fun next => Connected pid wanted listener wrapper next.executor.service ∧
      Same event.InOrder (next.heardBy pid wanted wrapper listener ++ next.onTheWay pid wanted wrapper)
        (thread.heardBy pid wanted wrapper listener ++ thread.onTheWay pid wanted wrapper ++
          (event.arrived pid wanted).toList)) (fun _ => True) (thread.step event) := by
  cases event with
  | serves event =>
    have serves : Outcome (fun executor => ServiceState.Kept pid wanted listener wrapper thread.executor.service
      executor.service) (fun _ => True) (thread.executor.step event) := Executor.step_kept connected.wired spares
    refine serves.bind fun executor kept => ?_
    have still : Connected pid wanted listener wrapper executor.service := ⟨kept.1, kept.2 connected.listens⟩
    refine ⟨still, .of_eq ?_⟩
    simp [heardBy, onTheWay, JavaThreadEvent.arrived, still.known]
  | arrives other command data =>
    rw [step]
    by_cases mine : other = pid
    · subst mine
      rw [if_pos connected.known]
      refine ⟨connected, .of_eq ?_⟩
      simp only [heardBy, onTheWay, JavaThreadEvent.arrived, Function.update_self, List.filterMap_append, filterMap_item,
        List.filterMap_nil, List.append_nil, List.append_assoc, if_true]
    · have away : (JavaThreadEvent.arrives other command data : JavaThreadEvent B).arrived pid wanted = none :=
        if_neg mine
      rw [away]
      split
      · refine ⟨connected, .of_eq ?_⟩
        simp only [heardBy, onTheWay, Function.update_of_ne (Ne.symm mine), Option.toList_none, List.append_nil]
      · exact ⟨connected, .of_eq (List.append_nil _).symm⟩
  | looks other place =>
    rw [step]
    cases came : (thread.incoming other)[place]? with
    | none => exact ⟨connected, .of_eq (List.append_nil _).symm⟩
    | some notification =>
      obtain ⟨command, data⟩ := notification
      refine ⟨connected, ?_⟩
      by_cases mine : other = pid
      · subst mine
        have taken := (same_taken came).filterMap (notified wanted)
        rw [filterMap_item, ← connected.looked] at taken
        simp only [heardBy, onTheWay, JavaThreadEvent.arrived, Function.update_self, List.filterMap_append,
          Option.toList_none, List.append_nil, List.append_assoc]
        exact (Same.of_eq rfl).append ((Same.of_eq rfl).append ((Same.of_eq rfl).append taken))
      · refine .of_eq ?_
        simp only [heardBy, onTheWay, JavaThreadEvent.arrived, Function.update_of_ne (Ne.symm mine), Option.toList_none,
          List.append_nil]
  | pushes other place =>
    rw [step]
    cases called : (thread.found other)[place]? with
    | none => exact ⟨connected, .of_eq (List.append_nil _).symm⟩
    | some call =>
      refine ⟨connected, ?_⟩
      by_cases mine : other = pid
      · subst mine
        have taken := (same_taken called).filterMap fun call => meant other wanted wrapper (other, call)
        rw [filterMap_item] at taken
        simp only [heardBy, onTheWay, JavaThreadEvent.arrived, Function.update_self, List.filterMap_append,
          filterMap_item, List.filterMap_nil, Option.toList_none, List.append_nil, List.append_assoc]
        refine (Same.of_eq rfl).append ((Same.of_eq rfl).append ?_)
        rw [← List.append_assoc]
        exact taken.append (.of_eq rfl)
      · have away : meant pid wanted wrapper (other, call) = none := if_neg fun both => mine both.1
        refine .of_eq ?_
        simp only [heardBy, onTheWay, JavaThreadEvent.arrived, Function.update_of_ne (Ne.symm mine),
          List.filterMap_append, filterMap_item, away, List.filterMap_nil, Option.toList_none, List.append_nil]
  | broadcasts place =>
    rw [step]
    cases taken : thread.queue[place]? with
    | none => exact ⟨connected, .of_eq (List.append_nil _).symm⟩
    | some entry =>
      obtain ⟨other, call⟩ := entry
      have first := (same_taken taken).filterMap (meant pid wanted wrapper)
      rw [filterMap_item, ← connected.reached] at first
      refine ⟨connected, ?_⟩
      simp only [heardBy, onTheWay, JavaThreadEvent.arrived, List.filterMap_append, Option.toList_none, List.append_nil,
        List.append_assoc]
      refine (Same.of_eq rfl).append ?_
      rw [← List.append_assoc]
      exact first.append (.of_eq rfl)

/-- After some events what has come is heard or on the way. -/
structure Heard (pid : Int) (wanted : Uart.CpuCommand) (listener : B) (wrapper : Nat) (start : JavaThread B)
    (events : List (JavaThreadEvent B)) (last : JavaThread B) : Prop where
  connected : Connected pid wanted listener wrapper last.executor.service
  same : Same (∀ event ∈ events, event.InOrder)
    (last.heardBy pid wanted wrapper listener ++ last.onTheWay pid wanted wrapper)
    (start.heardBy pid wanted wrapper listener ++ start.onTheWay pid wanted wrapper ++
      events.filterMap (·.arrived pid wanted))

theorem run_heard (connected : Connected pid wanted listener wrapper thread.executor.service)
    (spared : Guarded step (Spares pid wanted listener) thread events) :
    Outcome (Heard pid wanted listener wrapper thread events) (fun _ => True) (events.foldlM step thread) := by
  refine spared.history ⟨connected, .of_eq (List.append_nil _).symm⟩ ?_
  rintro events state event heard spares
  refine (step_heard heard.connected spares).imp ?_
  rintro next ⟨still, stepped⟩
  refine ⟨still, (stepped.mono ?_).trans ?_⟩
  · exact fun ordered => ordered event (List.mem_append_right _ List.mem_cons_self)
  · rw [List.filterMap_append, filterMap_item, List.filterMap_nil, List.append_nil, ← List.append_assoc]
    refine Same.append (heard.same.mono ?_) (.of_eq rfl)
    exact fun ordered other member => ordered other (List.mem_append_left _ member)

end JavaThread

/-- The library of the process and the Java thread go on, and take what has come first. -/
def JavaThreadEvent.GoesOn (pid : Int) : JavaThreadEvent B → Prop
  | .looks other place | .pushes other place => other = pid ∧ place = 0
  | .broadcasts place => place = 0
  | .serves _ | .arrives _ _ _ => False

namespace JavaThread
variable [LinearOrder B] {thread : JavaThread B} {pid : Int}

/-- What there is to do until everything is heard. -/
def left (thread : JavaThread B) (pid : Int) : Nat :=
  3 * (thread.incoming pid).length + 2 * (thread.found pid).length + thread.queue.length

theorem goes_on (more : thread.left pid ≠ 0) :
    ∃ event next, event.GoesOn pid ∧ thread.step event = .ok next ∧ next.left pid < thread.left pid := by
  cases came : thread.incoming pid with
  | cons notification rest =>
    obtain ⟨command, data⟩ := notification
    refine ⟨.looks pid 0, _, ⟨rfl, rfl⟩, by rw [step, came]; rfl, ?_⟩
    have one : (lookup thread.executor.service pid command data).toList.length ≤ 1 := by
      cases lookup thread.executor.service pid command data <;> simp
    simp only [left, Function.update_self, List.eraseIdx_cons_zero, List.length_append, came, List.length_cons]
    omega
  | nil =>
    cases called : thread.found pid with
    | cons call rest =>
      refine ⟨.pushes pid 0, _, ⟨rfl, rfl⟩, by rw [step, called]; rfl, ?_⟩
      simp only [left, Function.update_self, List.eraseIdx_cons_zero, List.length_append, came, called, List.length_cons,
        List.length_nil]
      omega
    | nil =>
      cases queued : thread.queue with
      | cons entry rest =>
        refine ⟨.broadcasts 0, _, rfl, by rw [step, queued]; rfl, ?_⟩
        simp only [left, List.eraseIdx_cons_zero, came, called, queued, List.length_cons, List.length_nil]
        omega
      | nil => exact absurd (by rw [left, came, called, queued]; rfl) more

theorem runs_empty : ∃ (events : List (JavaThreadEvent B)) (last : JavaThread B), (∀ event ∈ events, event.GoesOn pid) ∧
    events.foldlM step thread = .ok last ∧ last.left pid = 0 := by
  induction size : thread.left pid using Nat.strong_induction_on generalizing thread with
  | h size ih =>
    by_cases done : thread.left pid = 0
    · exact ⟨[], thread, by simp, rfl, done⟩
    · obtain ⟨event, next, moves, stepped, less⟩ := goes_on done
      obtain ⟨events, last, all, ran, none⟩ := ih (next.left pid) (size ▸ less) rfl
      refine ⟨event :: events, last, List.forall_mem_cons.mpr ⟨moves, all⟩, ?_, none⟩
      rw [List.foldlM_cons, stepped]
      exact ran

variable {events more early late : List (JavaThreadEvent B)} {start middle before after last : JavaThread B}
  {wanted : Uart.CpuCommand} {listener : B} {wrapper : Nat}

theorem goes_on_spares (moves : ∀ event ∈ more, event.GoesOn pid) :
    Guarded step (Spares pid wanted listener) thread more ∧ (∀ event ∈ more, event.InOrder) ∧
      more.filterMap (·.arrived pid wanted) = [] := by
  refine ⟨?_, fun event member => ?_, List.filterMap_eq_nil_iff.mpr fun event member => ?_⟩
  · induction more generalizing thread with
    | nil => trivial
    | cons event more ih =>
      obtain ⟨first, rest⟩ := List.forall_mem_cons.mp moves
      refine ⟨by cases event <;> first | exact trivial | exact first.elim, ?_⟩
      cases thread.step event with
      | ok next => exact ih rest
      | error fault => trivial
  · have goes := moves event member
    cases event with
    | looks other place | pushes other place => exact goes.2
    | broadcasts place => exact goes
    | serves event | arrives other command data => trivial
  · have goes := moves event member
    cases event with
    | arrives other command data => exact goes.elim
    | serves event | looks other place | pushes other place | broadcasts place => rfl

theorem Heard.all (heard : Heard pid wanted listener wrapper start events last) (none : last.left pid = 0) :
    Same (∀ event ∈ events, event.InOrder) (last.heardBy pid wanted wrapper listener)
      (start.heardBy pid wanted wrapper listener ++ start.onTheWay pid wanted wrapper ++
        events.filterMap (·.arrived pid wanted)) := by
  have came : last.incoming pid = [] := List.length_eq_zero_iff.mp (by rw [left] at none; omega)
  have called : last.found pid = [] := List.length_eq_zero_iff.mp (by rw [left] at none; omega)
  have queued : last.queue = [] := List.length_eq_zero_iff.mp (by rw [left] at none; omega)
  have nothing : last.onTheWay pid wanted wrapper = [] := by rw [onTheWay, came, called, queued]; rfl
  have same := heard.same
  rwa [nothing, List.append_nil] at same

theorem run_wired (listener : B) (ran : early.foldlM step .initial = .ok before) : before.executor.service.Wired := by
  have every : Guarded step (fun _ _ => True) (initial : JavaThread B) early := guarded_of_forall fun _ _ => trivial
  have wired : Outcome (fun thread => thread.executor.service.Wired) (fun _ => True) (early.foldlM step initial) := by
    refine every.invariant ServiceState.initial_wired fun thread event wired _ => ?_
    cases event with
    | serves event => exact (Executor.step_wired listener wired).bind fun executor kept => kept
    | arrives other command data =>
      rw [step]
      split
      · exact wired
      · exact wired
    | looks other place | pushes other place | broadcasts place =>
      rw [step]
      split
      · exact wired
      · exact wired
  rw [ran] at wired
  exact wired

/-- Once its subscription has run, the native part calls a wrapper of the listener. -/
theorem connects {command : CpuCommand} {queue : List (Task B)} (wired : thread.executor.service.Wired)
    (queued : thread.executor.queue = .subscribe pid command listener :: queue) (key : command.key = widen wanted)
    (alive : listener ∉ thread.executor.service.dead) (subscribed : thread.step (.serves .runs) = .ok middle) :
    ∃ wrapper, Connected pid wanted listener wrapper middle.executor.service := by
  have still : Outcome (fun executor => executor.service.Wired) (fun _ => True) (thread.executor.step .runs) :=
    Executor.step_wired listener wired
  have listens : Outcome (fun executor => ∃ wrapper, executor.service.Listens pid wanted listener wrapper)
      (fun _ => True) (thread.executor.step .runs) := by
    rw [Executor.step, queued]
    exact (Task.run_listens wired key alive).bind fun service listens => listens
  have both : Outcome (fun next => ∃ wrapper, Connected pid wanted listener wrapper next.executor.service)
      (fun _ => True) (thread.step (.serves .runs)) := by
    refine (still.and listens).bind ?_
    rintro executor ⟨wired, wrapper, listens⟩
    exact ⟨wrapper, wired, listens⟩
  rw [subscribed] at both
  exact both

theorem Heard.comes_through (heard : Heard pid wanted listener wrapper start events after) :
    ∃ (more : List (JavaThreadEvent B)) (last : JavaThread B), (∀ event ∈ more, event.GoesOn pid) ∧
      more.foldlM step after = .ok last ∧
      Same (∀ event ∈ events, event.InOrder) (last.heardBy pid wanted wrapper listener)
        (start.heardBy pid wanted wrapper listener ++ start.onTheWay pid wanted wrapper ++
          events.filterMap (·.arrived pid wanted)) := by
  obtain ⟨more, last, moves, went, none⟩ := @runs_empty _ _ after pid
  obtain ⟨spares, ordered, nothing⟩ := @goes_on_spares _ _ after _ _ wanted listener moves
  refine ⟨more, last, moves, went, ?_⟩
  have rest := run_heard heard.connected spares
  rw [went] at rest
  have all := rest.all none
  rw [nothing, List.append_nil] at all
  exact (all.mono fun _ => ordered).trans heard.same

/-- From its subscription on a listener hears every command that comes, once, or will hear
it when the library and the Java thread go on. -/
theorem commands_heard {command : CpuCommand} {queue : List (Task B)} (reached : early.foldlM step .initial = .ok before)
    (queued : before.executor.queue = .subscribe pid command listener :: queue) (key : command.key = widen wanted)
    (alive : listener ∉ before.executor.service.dead) (subscribed : before.step (.serves .runs) = .ok middle)
    (spared : Guarded step (Spares pid wanted listener) middle late) (ran : late.foldlM step middle = .ok after) :
    ∃ wrapper, middle.executor.service.native.callbackOf pid wanted = some (some (.onCommand wrapper)) ∧
      Same (∀ event ∈ late, event.InOrder)
        (after.heardBy pid wanted wrapper listener ++ after.onTheWay pid wanted wrapper)
        (middle.heardBy pid wanted wrapper listener ++ middle.onTheWay pid wanted wrapper ++
          late.filterMap (·.arrived pid wanted)) ∧
      ∃ (more : List (JavaThreadEvent B)) (last : JavaThread B), (∀ event ∈ more, event.GoesOn pid) ∧
        more.foldlM step after = .ok last ∧
        Same (∀ event ∈ late, event.InOrder) (last.heardBy pid wanted wrapper listener)
          (middle.heardBy pid wanted wrapper listener ++ middle.onTheWay pid wanted wrapper ++
            late.filterMap (·.arrived pid wanted)) := by
  obtain ⟨wrapper, connected⟩ := connects (run_wired listener reached) queued key alive subscribed
  have heard := run_heard connected spared
  rw [ran] at heard
  exact ⟨wrapper, connected.callback, heard.same, heard.comes_through⟩

instance : DecidablePred (thread.Spares pid wanted listener)
  | .serves event => inferInstanceAs (Decidable (thread.executor.Spares pid wanted listener event))
  | .arrives _ _ _ | .looks _ _ | .pushes _ _ | .broadcasts _ => .isTrue trivial

/-- Another listener of the process comes and goes, and a command of no listener comes. -/
theorem two_commands_heard : ∃ (after last : JavaThread Nat) (more : List (JavaThreadEvent Nat)),
    [.serves (.calls (.subscribeCB 7 ⟨4, 0, none⟩ 1)), .serves .runs,
      .serves (.calls (.subscribeCB 7 ⟨4, 0, none⟩ 2)), .arrives 7 (4, 0) [9], .serves .runs, .arrives 7 (5, 0) [1],
      .looks 7 0, .serves (.calls (.unsubscribeCB 7 ⟨4, 0, none⟩ 2)), .arrives 7 (4, 0) [8], .pushes 7 0, .looks 7 0,
      .looks 7 0, .serves .runs, .broadcasts 0].foldlM step initial = .ok after ∧
    (∀ event ∈ more, event.GoesOn 7) ∧ more.foldlM step after = .ok last ∧
    last.heardBy 7 (4, 0) 0 1 = [⟨4, 0, [9]⟩, ⟨4, 0, [8]⟩] := by
  generalize early : ([.serves (.calls (.subscribeCB 7 ⟨4, 0, none⟩ 1))] : List (JavaThreadEvent Nat)) = first
  generalize late : ([.serves (.calls (.subscribeCB 7 ⟨4, 0, none⟩ 2)), .arrives 7 (4, 0) [9], .serves .runs,
    .arrives 7 (5, 0) [1], .looks 7 0, .serves (.calls (.unsubscribeCB 7 ⟨4, 0, none⟩ 2)), .arrives 7 (4, 0) [8],
    .pushes 7 0, .looks 7 0, .looks 7 0, .serves .runs, .broadcasts 0] : List (JavaThreadEvent Nat)) = rest
  have runs : Outcome (fun before => before.executor.queue = [.subscribe 7 ⟨4, 0, none⟩ 1] ∧
      1 ∉ before.executor.service.dead ∧
      Outcome (fun middle => middle.executor.service.native.callbackOf 7 (4, 0) = some (some (.onCommand 0)) ∧
        middle.heardBy 7 (4, 0) 0 1 ++ middle.onTheWay 7 (4, 0) 0 = [] ∧
        Guarded step (Spares 7 (4, 0) 1) middle rest ∧
        Outcome (fun _ => True) (fun _ => False) (rest.foldlM step middle)) (fun _ => False)
        (before.step (.serves .runs))) (fun _ => False) (first.foldlM step (initial : JavaThread Nat)) := by
    subst early late
    decide +kernel
  obtain ⟨before, reached, queued, alive, runs⟩ := runs.exists_ok
  obtain ⟨middle, subscribed, callback, nothing, spared, runs⟩ := runs.exists_ok
  obtain ⟨after, ran, -⟩ := runs.exists_ok
  obtain ⟨wrapper, called, -, more, last, moves, went, heard⟩ :=
    commands_heard reached queued rfl alive subscribed spared ran
  obtain rfl : wrapper = 0 := by
    rw [callback] at called
    cases called
    rfl
  refine ⟨after, last, more, ?_, moves, went, ?_⟩
  · have joined : (first ++ .serves .runs :: rest).foldlM step initial = .ok after := by
      rw [List.foldlM_append, reached]
      change (before.step (.serves .runs) >>= fun next => rest.foldlM step next) = _
      rw [subscribed]
      exact ran
    subst early late
    exact joined
  · have ordered : ∀ event ∈ rest, event.InOrder := by
      subst late
      simp [JavaThreadEvent.InOrder]
    rw [heard.eq ordered, nothing]
    subst late
    rfl

end JavaThread
end CpuCom.Service
