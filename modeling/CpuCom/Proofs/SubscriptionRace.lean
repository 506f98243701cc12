import CpuCom.Messaging.NetworkTurns
import CpuCom.Proofs.Announcements
import CpuCom.Proofs.NetworkAccounts
import CpuCom.Proofs.Notifications

/-! The daemon follows the order of the messages, and the callbacks follow the order
of the sections. Two calls at a time may have one order each. -/

namespace CpuCom.Messaging.Network
open Interaction System Client
open Uart (CpuCommand)

variable {S Id F : Type} [LinearOrder S] [LinearOrder Id] {delivery : Delivery} {network : Network S Id F}
  {trace : List (NetworkEvent S Id F)} {session other : S} {command : CpuCommand}

def handling (session : S) : DaemonTask S Id → Option (DaemonCall S Id) → Nat
  | .message sender _, some _ => if sender = session then 1 else 0
  | _, _ => 0

def noted (session : S) (command : CpuCommand) (subscribes : Bool) : DaemonTask S Id → Option (DaemonCall S Id) → Nat
  | .message sender message, some _ => if sender = session ∧ notice command message = some subscribes then 1 else 0
  | _, _ => 0

/-- The session is in the set of the command once the handlers have returned. -/
def Handled (network : Network S Id F) (session : S) (command : CpuCommand) : Prop :=
  1 ≤ network.daemon.weigh (noted session command true) ∨
    network.daemon.weigh (noted session command false) = 0 ∧ session ∈ network.daemon.shared.subscribersOf command

/-- The session is in the set of the command once all messages are handled. -/
def Expected (network : Network S Id F) (session : S) (command : CpuCommand) : Prop :=
  Decided ((network.toDaemon session).filterMap (notice command)) (Handled network session command)

/-- The handlers of a session are one after another, and follow its messages. -/
structure Follows (trace : List (NetworkEvent S Id F)) (network : Network S Id F) (session : S) (command : CpuCommand) :
    Prop where
  alone : network.daemon.weigh (handling session) ≤ 1
  expected : Expected network session command ↔ Announced (atClient session trace) command

theorem noted_both :
    network.daemon.weigh (noted session command true) + network.daemon.weigh (noted session command false) ≤
    network.daemon.weigh (handling session) := by
  rw [← weigh_add]
  refine weigh_le fun task due => ?_
  cases task with
  | message sender message =>
    cases due with
    | none => exact Nat.le_refl 0
    | some call =>
      simp only [noted, handling]
      by_cases same : sender = session
      · cases notice command message with
        | none => simp
        | some subscribes => cases subscribes <;> simp
      · simp [same]
  | _ => exact Nat.zero_le _

omit [LinearOrder Id] in
theorem atClient_daemon {event : Daemon.Event S Id} :
    atClient session (trace ++ [.daemon event]) = atClient session trace := by
  simp [atClient]

omit [LinearOrder Id] in
theorem atClient_client {event : Client.Event Id F} :
    atClient session (trace ++ [.client other event]) =
      atClient session trace ++ if other = session then [event] else [] := by
  by_cases same : other = session <;> simp [atClient, same]

omit [LinearOrder Id] in
/-- An event that sends nothing about the command announces nothing. -/
theorem announced_of_silent {event : Client.Event Id F} (silent : other = session → sends command event = none) :
    Announced (atClient session (trace ++ [.client other event])) command ↔
      Announced (atClient session trace) command := by
  rw [atClient_client]
  split
  · rename_i same
    rw [announced_snoc, silent same]
  · rw [List.append_nil]

theorem filterMap_posted {index : Nat} {call : ClientCall Id F} {reply : ClientReply F} :
    (posted network.toDaemon session call session).filterMap (notice command) =
      (network.toDaemon session).filterMap (notice command) ++
      (sends command (.calls index call reply : Client.Event Id F)).toList := by
  cases call with
  | send message => cases said : notice command message <;> simp [posted, sends, said]
  | _ => simp [posted, sends]

private theorem Follows.same {after : Network S Id F} {event : NetworkEvent S Id F}
    (follows : Follows trace network session command)
    (queue : (after.toDaemon session).filterMap (notice command) = (network.toDaemon session).filterMap
      (notice command)) (alone : after.daemon.weigh (handling session) ≤ 1)
    (handled : Handled after session command ↔ Handled network session command)
    (announced : Announced (atClient session (trace ++ [event])) command ↔ Announced (atClient session trace) command) :
    Follows (trace ++ [event]) after session command := by
  refine ⟨alone, ?_⟩
  rw [announced, ← follows.expected]
  unfold Expected
  rw [queue]
  exact decided_congr handled

private theorem handled_called {after : Network S Id F} {task : DaemonTask S Id} {due : Option (DaemonCall S Id)}
    {call : DaemonCall S Id} {reply : DaemonReply S Id} (alone : network.daemon.weigh (handling session) ≤ 1)
    (move : DaemonMove task call reply due) (connected : ∀ session, task ≠ .clientDisconnected session)
    (shared : after.daemon.shared = (network.daemon.shared.perform call).2)
    (sums : ∀ weight,
      after.daemon.weigh weight + weight task (some call) = network.daemon.weigh weight + weight task due) :
    Handled after session command ↔ Handled network session command := by
  have both := @noted_both _ _ _ _ _ network session command
  have entering := sums (noted session command true)
  have leaving := sums (noted session command false)
  unfold Handled
  rw [shared, @Daemon.mem_perform_iff _ _ _ _ _ 0 call reply session command]
  cases move with
  | @subscribed sender wanted =>
    change _ + (if sender = session ∧ notice command (.subscribe wanted) = some true then 1 else 0) = _ + 0 at entering
    change _ + (if sender = session ∧ notice command (.subscribe wanted) = some false then 1 else 0) = _ + 0 at leaving
    by_cases same : sender = session ∧ wanted = command
    · obtain ⟨rfl, rfl⟩ := same
      simp [notice, Daemon.subscriptions] at *
      omega
    · simp [notice, same] at entering leaving
      simp [Daemon.subscriptions, entering, leaving, same]
  | @unsubscribed sender unwanted =>
    change _ + (if sender = session ∧ notice command (.unsubscribe unwanted) = some true then 1 else 0) =
      _ + 0 at entering
    change _ + (if sender = session ∧ notice command (.unsubscribe unwanted) = some false then 1 else 0) =
      _ + 0 at leaving
    by_cases same : sender = session ∧ unwanted = command
    · obtain ⟨rfl, rfl⟩ := same
      simp [notice, Daemon.subscriptions] at *
      omega
    · simp [notice, same] at entering leaving
      simp [Daemon.subscriptions, entering, leaving, same]
  | subscriberDropped => exact absurd rfl (connected _)
  | requestsDropped => exact absurd rfl (connected _)
  | _ =>
    simp [noted, notice] at entering leaving
    simp [Daemon.subscriptions, entering, leaving]

private theorem Follows.handles {message : ClientMessage Id} {rest : List (ClientMessage Id)}
    {pool : (@Daemon.system S Id _ _).Pool}
    (follows : Follows trace network session command) (taken : network.toDaemon session = message :: rest)
    (ready : network.Ready .inOrder session) (shared : pool.shared = network.daemon.shared)
    (more : ∀ weight, pool.weigh weight = network.daemon.weigh weight +
      weight (.message session message) (some (Daemon.first (.message session message)))) :
    Follows (trace ++ [.daemon (.begins (.message session message))])
      { network with daemon := pool, toDaemon := Function.update network.toDaemon session rest } session command := by
  have free : network.daemon.weigh (handling session) = 0 := by
    refine weigh_eq_zero fun activity member => ?_
    cases task : activity.task with
    | message sender message =>
      by_cases same : sender = session
      · rw [(ready activity member ⟨message, same ▸ task⟩).due]
        rfl
      · cases activity.due with
        | none => rfl
        | some call => exact if_neg same
    | _ => rfl
  have both := @noted_both _ _ _ _ _ network session command
  have entering := more (noted session command true)
  have leaving := more (noted session command false)
  have now := more (handling session)
  change pool.weigh (noted session command true) = _ +
    (if session = session ∧ notice command message = some true then 1 else 0) at entering
  change pool.weigh (noted session command false) = _ +
    (if session = session ∧ notice command message = some false then 1 else 0) at leaving
  change pool.weigh (handling session) = _ + (if session = session then 1 else 0) at now
  rw [if_pos rfl] at now
  refine ⟨by change pool.weigh (handling session) ≤ 1; omega, ?_⟩
  rw [atClient_daemon, ← follows.expected]
  unfold Expected Handled
  simp only [Function.update_self, taken, shared]
  cases said : notice command message with
  | none =>
    simp [said] at entering leaving
    simp [said, entering, leaving]
  | some subscribes =>
    rw [List.filterMap_cons_some said, decided_cons]
    refine decided_congr ?_
    cases subscribes <;> simp [said] at entering leaving ⊢ <;> omega

theorem Follows.step {event : NetworkEvent S Id F} {after : Network S Id F}
    (follows : Follows trace network session command)
    (connected : network.daemon.All fun task _ => ∀ session, task ≠ .clientDisconnected session)
    (step : Step .inOrder network event after) : Follows (trace ++ [event]) after session command := by
  cases step with
  | @received received data pool step =>
    obtain ⟨shared, more, -⟩ := step.begun
    have shared : pool.shared = network.daemon.shared := shared
    refine follows.same rfl ?_ ?_ (by rw [atClient_daemon])
    · exact (more (handling session)).trans_le follows.alone
    · unfold Handled
      rw [more, more, shared]
      exact Iff.rfl
  | @handles other message rest pool taken ready step =>
    obtain ⟨shared, more, -⟩ := step.begun
    simp only [Daemon.system_due] at more
    by_cases same : other = session
    · subst same
      exact follows.handles taken ready shared more
    · have shared : pool.shared = network.daemon.shared := shared
      have none (subscribes : Bool) : noted session command subscribes (.message other message)
          (some (Daemon.first (.message other message))) = 0 := if_neg fun both => same both.1
      refine follows.same (congrArg _ (Function.update_of_ne (Ne.symm same) _ _)) ?_ ?_ (by rw [atClient_daemon])
      · have now := more (handling session)
        have weight : handling session (.message other message) (some (Daemon.first (.message other message))) = 0 :=
          if_neg same
        rw [weight] at now
        exact now.trans_le follows.alone
      · unfold Handled
        rw [more, more, shared, none, none]
        exact Iff.rfl
  | @daemonCalls index call reply pool step =>
    obtain ⟨task, due, move, -, ⟨shared, -⟩, sums, all⟩ := step.called Daemon.handler_flows
    refine follows.same rfl ?_ ?_ (by rw [atClient_daemon])
    · have now := sums (handling session)
      have less : handling session task due ≤ handling session task (some call) := by
        cases task <;> cases due <;> simp [handling]
      have alone := follows.alone
      change pool.weigh (handling session) ≤ 1
      omega
    · exact handled_called follows.alone move (all _ connected).1 shared sums
  | @clientBegins other task pool allowed step =>
    exact follows.same rfl follows.alone Iff.rfl (announced_of_silent fun _ => rfl)
  | @clientReceives other message rest pool taken step =>
    exact follows.same rfl follows.alone Iff.rfl (announced_of_silent fun _ => rfl)
  | @clientCalls other index call reply pool step =>
    by_cases same : other = session
    · subst same
      have queue := @filterMap_posted _ _ _ _ _ network other command index call reply
      cases said : sends command (.calls index call reply : Client.Event Id F) with
      | none =>
        rw [said, Option.toList_none, List.append_nil] at queue
        exact follows.same queue follows.alone Iff.rfl (announced_of_silent fun _ => said)
      | some subscribes =>
        refine ⟨follows.alone, ?_⟩
        rw [atClient_client, if_pos rfl, announced_snoc, said]
        unfold Expected
        rw [show (posted network.toDaemon other call other).filterMap (notice command) = _ from queue, said,
          Option.toList_some,
          decided_append]
        exact Iff.rfl
    · exact follows.same (congrArg _ (posted_of_ne same)) follows.alone Iff.rfl
        (announced_of_silent fun own => absurd own same)

theorem follows (ran : Runs .inOrder trace network) (session : S) (command : CpuCommand) :
    Follows trace network session command := by
  apply ran.invariant
  · intro errorCallbacks
    refine ⟨Nat.zero_le 1, ?_⟩
    constructor
    · intro expected
      rcases expected with due | ⟨-, member⟩
      · exact absurd due (Nat.not_succ_le_zero 0)
      · simp [initial, Daemon.initial, Daemon.subscribersOf] at member
    · intro announced
      obtain ⟨before, event, after, split, -⟩ := announced
      simp [atClient] at split
  · intro trace network event after ran follows step
    exact follows.step ran.connected step

/-- The sets of the daemon have the session for the keys of its callbacks. -/
def SubscriptionsAgree (network : Network S Id F) (session : S) : Prop :=
  ∀ command, session ∈ network.daemon.shared.subscribersOf command ↔
    command ∈ (network.clients session).shared.callbacks

/-- Both sides agree about the commands whose last message has been sent in time. -/
theorem subscriptions_agree_iff (ran : Runs .inOrder trace network) (quiet : network.Quiet session) :
    SubscriptionsAgree network session ↔ ∀ command, SentInTime (atClient session trace) command := by
  refine forall_congr' fun command => ?_
  obtain ⟨errorCallback, reached⟩ := ran.client session
  rw [← announced_iff_registered reached quiet.client command, ← (follows ran session command).expected,
    registered_iff reached command]
  unfold Expected Handled
  have done (subscribes : Bool) : network.daemon.weigh (noted session command subscribes) = 0 :=
    quiet.daemon.weigh fun task => by cases task <;> rfl
  simp [quiet.toDaemon, done]

/-- One thread subscribes again while another one is between its section and its message. -/
def overtakingTurns : List (NetworkTurn (Fin 2) Nat Nat) :=
  [.clientBegins 0 (.subscribe (4, 0) (some 1)), .clientCalls 0 0, .clientCalls 0 0, .handles 0 0, .daemonCalls 0 true,
    .clientBegins 0 (.unsubscribe (4, 0)), .clientCalls 0 1, .clientBegins 0 (.subscribe (4, 0) (some 2)),
      .clientCalls 0 2,
    .clientCalls 0 2, .clientCalls 0 1, .handles 0 0, .daemonCalls 1 true, .handles 0 0, .daemonCalls 2 true]

theorem overtaken_subscription :
    ∃ (trace : List (NetworkEvent (Fin 2) Nat Nat)) (network : _), Runs .inOrder trace network ∧
    network.Quiet 0 ∧ (4, 0) ∈ (network.clients 0).shared.callbacks ∧ ¬ SubscriptionsAgree network 0 := by
  have checked : (play .inOrder (initial fun _ => none) overtakingTurns).any
      (fun result => decide (result.2.Quiet 0 ∧ (4, 0) ∈ (result.2.clients 0).shared.callbacks ∧
        0 ∉ result.2.daemon.shared.subscribersOf (4, 0))) = true := by
    decide +kernel
  obtain ⟨trace, network, ran, checked⟩ := exists_run checked
  obtain ⟨quiet, kept, lost⟩ := of_decide_eq_true checked
  exact ⟨trace, network, ran, quiet, kept, fun agree => lost ((agree (4, 0)).mpr kept)⟩

/-- The same calls, where each message goes out before the next section. -/
theorem ordered_subscription :
    ∃ (trace : List (NetworkEvent (Fin 2) Nat Nat)) (network : _), Runs .inOrder trace network ∧
    network.Quiet 0 ∧ 0 ∈ network.daemon.shared.subscribersOf (4, 0) ∧
      (SubscriptionsAgree network 0 ↔ ∀ command, SentInTime (atClient 0 trace) command) := by
  have checked : (play .inOrder (initial fun _ => none) [.clientBegins 0 (.subscribe (4, 0) (some 1)), .clientCalls 0 0,
      .clientCalls 0 0, .clientBegins 0 (.unsubscribe (4, 0)), .clientBegins 0 (.subscribe (4, 0) (some 2)),
        .clientCalls 0 1,
      .clientCalls 0 1, .handles 0 0, .daemonCalls 0 true, .clientCalls 0 2, .clientCalls 0 2, .handles 0 0,
        .daemonCalls 1 true,
      .handles 0 0, .daemonCalls 2 true]).any
      (fun result : List (NetworkEvent (Fin 2) Nat Nat) × _ =>
        decide (result.2.Quiet 0 ∧ 0 ∈ result.2.daemon.shared.subscribersOf (4, 0))) = true := by
    decide +kernel
  obtain ⟨trace, network, ran, checked⟩ := exists_run checked
  obtain ⟨quiet, kept⟩ := of_decide_eq_true checked
  exact ⟨trace, network, ran, quiet, kept, subscriptions_agree_iff ran quiet⟩

end CpuCom.Messaging.Network
