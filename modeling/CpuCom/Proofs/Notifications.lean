import CpuCom.Proofs.FailedRequests

/-! `m_subscribers` follows the history of subscriptions, and a received command is
notified to those that it has copied. -/

namespace CpuCom.Messaging.Daemon
open Interaction System Program
open Uart (CpuCommand)

variable {S Id : Type}

/-- `onSubscribe` brings a subscription; `onUnsubscribe` and a disconnect take it away. -/
def subscriptions : Presence (Event S Id) (S × CpuCommand) where
  enters
    | .calls _ (.addSubscriber session command) _ => some (session, command)
    | _ => none
  leaves subscription
    | .calls _ (.removeSubscriber session command) _ => (session, command) = subscription
    | .calls _ (.dropSubscriber session) _ => session = subscription.1
    | _ => False

abbrev Subscribed (history : List (Event S Id)) (session : S) (command : CpuCommand) : Prop :=
  subscriptions.Present history (session, command)

def Enrols (session : S) : Event S Id → Prop
  | .calls _ (.addSubscriber subscriber _) _ => subscriber = session
  | .calls _ (.addRequest request) _ => request.session = session
  | _ => False

section
variable [LinearOrder S] [DecidableEq Id] {trace before after : List (Event S Id)} {pool : (@system S Id _ _).Pool}

theorem mem_perform_iff {daemon : Daemon S Id} {index : Nat} {call : DaemonCall S Id} {reply : DaemonReply S Id}
    {session : S} {command : CpuCommand} : session ∈ (daemon.perform call).2.subscribersOf command ↔
      subscriptions.enters (.calls index call reply) = some (session, command) ∨
        session ∈ daemon.subscribersOf command ∧ ¬ subscriptions.leaves (session, command)
          (.calls index call reply) := by
  cases call with
  | addSubscriber subscriber other =>
    by_cases same : other = command
    · subst same
      simp [perform, subscribersOf, subscriptions]
    · simp [perform, subscribersOf, subscriptions, Std.TreeMap.getD_insert, same]
  | removeSubscriber subscriber other =>
    by_cases same : other = command
    · subst same
      simp [perform, subscribersOf, subscriptions, and_comm]
    · simp [perform, subscribersOf, subscriptions, Std.TreeMap.getD_insert, same]
  | dropSubscriber subscriber =>
    cases found : daemon.subscribers[command]? with
    | none => simp [perform, subscribersOf, subscriptions, Std.TreeMap.getD_eq_getD_getElem?, found]
    | some sessions =>
      simp [perform, subscribersOf, subscriptions, Std.TreeMap.getD_eq_getD_getElem?, found, and_comm]
  | copySubscribers other =>
    have same : (daemon.subscribers.insertIfNew other ∅).getD command ∅ = daemon.subscribers.getD command ∅ := by
      rw [Std.TreeMap.getD_insertIfNew]
      split
      · rename_i new
        obtain rfl := Std.LawfulEqCmp.eq_of_compare new.1
        exact (Std.TreeMap.getD_eq_fallback new.2).symm
      · rfl
    simp [perform, subscribersOf, subscriptions, same]
  | _ => simp [perform, subscribersOf, subscriptions]

theorem subscribed_iff (ran : Runs trace pool) (session : S) (command : CpuCommand) :
    session ∈ pool.shared.subscribersOf command ↔ Subscribed trace session command := by
  induction ran with
  | refl => simp [initial, subscribersOf]
  | step reached step ih =>
    rw [Subscribed, Presence.present_snoc]
    cases step with
    | begins allowed =>
      obtain rfl := allowed
      rw [ih]
      constructor
      · intro there
        exact .inr ⟨there, id⟩
      · intro there
        rcases there with entering | ⟨there, -⟩
        · cases entering
        · exact there
    | calls found due answered =>
      obtain ⟨rfl, -⟩ := answered
      exact mem_perform_iff.trans (or_congr Iff.rfl (and_congr ih Iff.rfl))

theorem copied_iff {index : Nat} {command : CpuCommand} {reply : DaemonReply S Id}
    (ran : Runs (before ++ .calls index (.copySubscribers command) reply :: after) pool) :
    reply.subscribers.Nodup ∧ ∀ session, session ∈ reply.subscribers ↔ Subscribed before session command := by
  obtain ⟨one, two, reached, step⟩ := Reaches.event ran
  cases step with
  | @calls tasks shared _ _ _ _ _ _ found due answered =>
    rw [answered.2.resolve_left nofun]
    refine ⟨?_, fun session => Std.TreeSet.mem_toList.trans (subscribed_iff reached session command)⟩
    have apart := (shared.subscribersOf command).distinct_toList
    exact apart.imp fun different same => different (by rw [same]; exact Std.ReflCmp.compare_self)

omit [LinearOrder S] [DecidableEq Id] in
theorem not_subscribed_of_dropped {index : Nat} {session : S} {reply : DaemonReply S Id}
    (quiet : ∀ event ∈ after, ¬ Enrols session event) (command : CpuCommand) :
    ¬ Subscribed (before ++ .calls index (.dropSubscriber session) reply :: after) session command := by
  rw [List.append_cons]
  refine Presence.not_present_append ?_ ?_
  · rw [Presence.present_snoc]
    rintro (entering | ⟨-, stays⟩)
    · exact nomatch entering
    · exact stays rfl
  · intro event member entering
    apply quiet event member
    cases event with
    | begins task => exact nomatch entering
    | calls caller call answer =>
      cases call with
      | addSubscriber subscriber other => exact congrArg Prod.fst (Option.some.inj entering)
      | _ => exact nomatch entering

omit [LinearOrder S] in
theorem not_queued_of_dropped [DecidableEq S] {index : Nat} {session : S} {reply : DaemonReply S Id}
    (quiet : ∀ event ∈ after, ¬ Enrols session event) :
    ∀ entry ∈ queueAfter (before ++ .calls index (.dropRequests session) reply :: after),
      entry.2.session ≠ session := by
  rw [List.append_cons]
  induction after using List.reverseRecOn with
  | nil =>
    intro entry member
    rw [List.append_nil, queueAfter_snoc] at member
    simpa using (List.mem_filter.mp member).2
  | append_singleton after event ih =>
    intro entry member
    rw [← List.append_assoc, queueAfter_snoc] at member
    rcases requeue_subset member with member | ⟨answer, rfl⟩
    · exact ih (fun event member => quiet event (List.mem_append_left _ member)) entry member
    · exact quiet _ (List.mem_append_right _ (List.mem_singleton_self _))

/-- A disconnect has dropped the subscriptions, and then the requests. -/
theorem disconnect_drops {index : Nat} {activity : Activity (@handler S Id)} {session : S} (ran : Runs trace pool)
    (found : pool.tasks[index]? = some activity) (task : activity.task = .clientDisconnected session)
    (finished : activity.Finished) : ∃ before between after reply answer, trace =
      before ++ .calls index (.dropSubscriber session) reply ::
        (between ++ .calls index (.dropRequests session) answer :: after) := by
  have made := made_of_found ran found
  have returned := finished.returns
  rw [task] at returned
  obtain ⟨reply, rest, same, answer, last, rfl, rfl, -⟩ := returned
  rw [same] at made
  have dropped : .calls index (.dropSubscriber session) reply ∈ trace := mem_own.mp (made ▸ List.mem_cons_self)
  obtain ⟨before, after, rfl⟩ := List.mem_iff_append.mp dropped
  rw [own_at] at made
  have later : (.dropRequests session, answer) ∈ own index after := by
    cases early : own index before with
    | nil =>
      rw [early] at made
      rw [← (List.cons.inj made).2]
      exact List.mem_singleton_self _
    | cons first rest =>
      rw [early] at made
      have second := (List.cons.inj made).2
      cases rest with
      | nil => exact nomatch (List.cons.inj second).1
      | cons next rest => simp at second
  obtain ⟨between, after, rfl⟩ := List.mem_iff_append.mp (mem_own.mp later)
  exact ⟨before, between, after, reply, answer, rfl⟩

/-- The subscribers follow the history. `handled`: Subscribe, Unsubscribe and a disconnect
change them as they are to, and nothing else does. `copied`, `received` and `others`: a
received command, and nothing else, notifies those that subscribe as they are copied, each
of them once. `forgotten`: a disconnect that has finished leaves nothing of a session that
has not come again. -/
structure NotifiesSubscribers (trace : List (Event S Id)) (pool : (@system S Id _ _).Pool) : Prop where
  subscribed : ∀ session command, session ∈ pool.shared.subscribersOf command ↔ Subscribed trace session command
  handled : ∀ index activity, pool.tasks[index]? = some activity →
    (own index trace).filterMap (subscriberCall ·.1) <+: subscriberCalls activity.task ∧
      (activity.Finished → (own index trace).filterMap (subscriberCall ·.1) = subscriberCalls activity.task)
  copied : ∀ before after index command reply, trace = before ++ .calls index
    (.copySubscribers command) reply :: after →
    reply.subscribers.Nodup ∧ ∀ session, session ∈ reply.subscribers ↔ Subscribed before session command
  received : ∀ index activity command data, pool.tasks[index]? = some activity →
    activity.task = .receiveCommand command data →
    (copies (own index trace) = [] ∧ notifications (own index trace) = [] ∧ ¬ activity.Finished) ∨
      ∃ subscribers, copies (own index trace) = [(command, subscribers)] ∧
        notifications (own index trace) <+: subscribers.map (·, command, data) ∧
        (activity.Finished → notifications (own index trace) = subscribers.map (·, command, data))
  others : ∀ index activity, pool.tasks[index]? = some activity →
    (∀ command data, activity.task ≠ .receiveCommand command data) →
      copies (own index trace) = [] ∧ notifications (own index trace) = []
  forgotten : ∀ index activity session, pool.tasks[index]? = some activity →
    activity.task = .clientDisconnected session →
    activity.Finished → ∃ before after reply, trace = before ++ .calls index (.dropSubscriber session) reply :: after ∧
      ((∀ event ∈ after, ¬ Enrols session event) → (∀ command, session ∉ pool.shared.subscribersOf command) ∧
        ∀ request ∈ pool.shared.requests, request.session ≠ session)

theorem subscribers_notified (ran : Runs trace pool) : NotifiesSubscribers trace pool where
  subscribed := subscribed_iff ran
  handled index activity found := by
    rw [← made_of_found ran found]
    exact Activity.makes (handler_subscriberCalls activity.task)
  copied before after index command reply split := by
    subst split
    exact copied_iff ran
  received index activity command data found task := by
    rw [← made_of_found ran found]
    have leads : (onReceiveCommand command data).Leads activity.made activity.rest := by
      have leads := activity.leads
      rwa [task] at leads
    exact (onReceiveCommand_leads leads).notifies
  others index activity found other := by
    rw [← made_of_found ran found]
    obtain ⟨uncopied, -, silent, -⟩ := plain_calls ((handler_plain other).leads activity.leads)
    exact ⟨uncopied, silent⟩
  forgotten index activity session found task finished := by
    obtain ⟨before, between, after, reply, answer, rfl⟩ := disconnect_drops ran found task finished
    refine ⟨before, _, reply, rfl, fun quiet => ⟨?_, ?_⟩⟩
    · intro command
      rw [subscribed_iff ran]
      exact not_subscribed_of_dropped quiet command
    · intro request member
      rw [requests_eq ran] at member
      obtain ⟨entry, queued, rfl⟩ := List.mem_map.mp member
      rw [← List.cons_append, ← List.append_assoc] at queued
      exact not_queued_of_dropped (fun event member => quiet event (by simp [member])) entry queued

/-- Of two subscribers one disconnects; the other is notified. -/
theorem remaining_subscriber_notified : ∃ (trace : List (Event Nat Nat)) (pool : _), Runs trace pool ∧
    notifications (own 3 trace) = [(8, (4, 0), [9])] ∧ NotifiesSubscribers trace pool := by
  have checked :
    (play [.begins (.message 7 (.subscribe (4, 0))), .calls 0 true, .begins (.message 8 (.subscribe (4, 0))),
      .calls 1 true, .begins (.clientDisconnected 7), .calls 2 true, .calls 2 true,
        .begins (.receiveCommand (4, 0) [9]),
      .calls 3 true, .calls 3 true, .calls 3 true]).any
      (fun result : List (Event Nat Nat) × _ => decide (notifications (own 3 result.1) = [(8, (4, 0), [9])])) =
        true := by
    decide +kernel
  obtain ⟨trace, pool, ran, checked⟩ := exists_run replies_allowed checked
  exact ⟨trace, pool, ran, of_decide_eq_true checked, subscribers_notified ran⟩

end
end CpuCom.Messaging.Daemon
