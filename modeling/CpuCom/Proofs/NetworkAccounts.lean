import CpuCom.Messaging.Network

/-! What is under way for one client, and the messages in flight for it, can be
weighed. Each kind of step changes the weight by what it moves. -/

namespace CpuCom.Messaging.Network
open Interaction System

variable {S Id F μ : Type} [LinearOrder S] [LinearOrder Id]

structure Weights (S Id F : Type) where
  client : ClientTask Id F → Option (ClientCall Id F) → Nat
  toDaemon : ClientMessage Id → Nat
  daemon : DaemonTask S Id → Option (DaemonCall S Id) → Nat
  toClient : ServerMessage Id → Nat

def weigh (weights : Weights S Id F) (session : S) (network : Network S Id F) : Nat :=
  (network.clients session).weigh weights.client + ((network.toDaemon session).map weights.toDaemon).sum +
    network.daemon.weigh weights.daemon + ((network.toClient session).map weights.toClient).sum

namespace Weights

def replied (weights : Weights S Id F) (session : S) : DaemonCall S Id → Nat
  | .send receiver message => if receiver = session then weights.toClient message else 0
  | _ => 0

def posted (weights : Weights S Id F) : ClientCall Id F → Nat
  | .send message => weights.toDaemon message
  | _ => 0

end Weights

theorem Takes.sum {delivery : Delivery} {queue rest : List μ} {message : μ} (taken : delivery.Takes queue message rest)
    (weight : μ → Nat) : (queue.map weight).sum = weight message + (rest.map weight).sum := by
  cases delivery with
  | inOrder => rw [show queue = message :: rest from taken, List.map_cons, List.sum_cons]
  | anyOrder =>
    obtain ⟨before, after, rfl, rfl⟩ := taken
    simp only [List.map_append, List.map_cons, List.sum_append, List.sum_cons]
    omega

section
variable {network : Network S Id F} {session other : S}

private theorem sum_update {queues : S → List μ} {messages : List μ} {weight : μ → Nat} :
    ((Function.update queues other messages session).map weight).sum =
      if other = session then (messages.map weight).sum else ((queues session).map weight).sum := by
  by_cases same : other = session
  · subst same
    simp
  · simp [same, Function.update_of_ne (Ne.symm same)]

private theorem sum_replied {weights : Weights S Id F} {call : DaemonCall S Id} :
    ((replied network.toClient call session).map weights.toClient).sum =
      ((network.toClient session).map weights.toClient).sum + weights.replied session call := by
  cases call with
  | send receiver message =>
    rw [replied, sum_update, Weights.replied]
    split
    · rename_i same
      subst same
      simp
    · rfl
  | _ => rfl

private theorem sum_posted {weights : Weights S Id F} {call : ClientCall Id F} :
    ((posted network.toDaemon session call session).map weights.toDaemon).sum =
      ((network.toDaemon session).map weights.toDaemon).sum + weights.posted call := by
  cases call with
  | send message => simp [posted, Weights.posted]
  | _ => rfl

theorem posted_of_ne {call : ClientCall Id F} (different : other ≠ session) :
    posted network.toDaemon other call session = network.toDaemon session := by
  cases call with
  | send message => simp [posted, Function.update_of_ne (Ne.symm different)]
  | _ => rfl

theorem clients_of_ne {pool} (different : other ≠ session) :
    Function.update network.clients other pool session = network.clients session :=
  Function.update_of_ne (Ne.symm different) ..

theorem shared_of_begins {task pool} (step : Client.system.Step (network.clients other) (.begins task) pool)
    (session : S) :
    (Function.update network.clients other pool session).shared = (network.clients session).shared := by
  by_cases same : other = session
  · subst same
    rw [Function.update_self]
    exact step.begun.1
  · rw [clients_of_ne same]

theorem weigh_received {command data} {pool} (weights : Weights S Id F) (session : S)
    (step : Daemon.system.Step network.daemon (.begins (.receiveCommand command data)) pool) :
    weigh weights session { network with daemon := pool } =
      weigh weights session network + weights.daemon (.receiveCommand command data)
        (some (.copySubscribers command)) := by
  have sums := step.begun.2.1 weights.daemon
  rw [Daemon.system_due] at sums
  simp only [weigh, sums, Daemon.first]
  omega

theorem weigh_handles {delivery : Delivery} {message rest pool} (weights : Weights S Id F) (session : S)
    (taken : delivery.Takes (network.toDaemon other) message rest)
    (step : Daemon.system.Step network.daemon (.begins (.message other message)) pool) :
    weigh weights session { network with daemon := pool, toDaemon := Function.update network.toDaemon other rest } +
        (if other = session then weights.toDaemon message else 0) =
      weigh weights session network + weights.daemon (.message other message)
        (some (Daemon.first (.message other message))) := by
  have sums := step.begun.2.1 weights.daemon
  rw [Daemon.system_due] at sums
  have queue := Takes.sum taken weights.toDaemon
  simp only [weigh, sums, sum_update]
  split
  · rename_i same
    subst same
    omega
  · omega

theorem daemon_called {index call reply pool}
    (step : Daemon.system.Step network.daemon (.calls index call reply) pool) :
    ∃ task due, DaemonMove task call reply due ∧ network.daemon.tasks[index]?.map (·.task) = some task ∧
      network.daemon.shared.Answers call reply pool.shared ∧
      (∀ (weights : Weights S Id F) session,
        weigh weights session { network with daemon := pool, toClient := replied network.toClient call } +
            weights.daemon task (some call) =
          weigh weights session network + weights.daemon task due + weights.replied session call) ∧
      ∀ holds, network.daemon.All holds → holds task (some call) ∧ (holds task due → pool.All holds) := by
  obtain ⟨task, due, move, caller, answered, sums, all⟩ := step.called Daemon.handler_flows
  refine ⟨task, due, move, caller, answered, fun weights session => ?_, all⟩
  have sums := sums weights.daemon
  simp only [weigh, sum_replied]
  omega

theorem weigh_clientBegins {task pool} (weights : Weights S Id F) (session : S)
    (step : Client.system.Step (network.clients other) (.begins task) pool) :
    weigh weights session { network with clients := Function.update network.clients other pool } =
      weigh weights session network +
        if other = session then weights.client task (some (Client.first task)) else 0 := by
  have sums := step.begun.2.1 weights.client
  rw [Client.system_due] at sums
  by_cases same : other = session
  · subst same
    simp only [weigh, Function.update_self, if_pos]
    omega
  · simp [weigh, same, Function.update_of_ne (Ne.symm same)]

theorem weigh_clientReceives {delivery : Delivery} {message rest pool} (weights : Weights S Id F) (session : S)
    (taken : delivery.Takes (network.toClient other) message rest)
    (step : Client.system.Step (network.clients other) (.begins (.message message)) pool) :
    weigh weights session { network with
          clients := Function.update network.clients other pool
          toClient := Function.update network.toClient other rest } +
        (if other = session then weights.toClient message else 0) =
      weigh weights session network +
        if other = session then weights.client (.message message) (some (Client.first (.message message))) else 0 := by
  have sums := step.begun.2.1 weights.client
  rw [Client.system_due] at sums
  have queue := Takes.sum taken weights.toClient
  by_cases same : other = session
  · subst same
    simp only [weigh, Function.update_self, if_pos]
    omega
  · simp [weigh, same, Function.update_of_ne (Ne.symm same)]

theorem client_called {index call reply pool}
    (step : Client.system.Step (network.clients session) (.calls index call reply) pool) :
    ∃ task due, ClientMove task call reply due ∧ (network.clients session).tasks[index]?.map (·.task) = some task ∧
      (reply, pool.shared) = (network.clients session).shared.perform call ∧
      (∀ weights : Weights S Id F,
        weigh weights session { network with
            clients := Function.update network.clients session pool
            toDaemon := posted network.toDaemon session call } + weights.client task (some call) =
          weigh weights session network + weights.client task due + weights.posted call) ∧
      ∀ holds, (network.clients session).All holds → holds task (some call) ∧ (holds task due → pool.All holds) := by
  obtain ⟨task, due, move, caller, answered, sums, all⟩ := step.called Client.program_flows
  refine ⟨task, due, move, caller, answered, fun weights => ?_, all⟩
  have sums := sums weights.client
  simp only [weigh, Function.update_self, sum_posted]
  omega

theorem weigh_other {call : ClientCall Id F} {pool} (weights : Weights S Id F) (different : other ≠ session) :
    weigh weights session { network with
        clients := Function.update network.clients other pool
        toDaemon := posted network.toDaemon other call } = weigh weights session network := by
  simp [weigh, posted_of_ne different, Function.update_of_ne (Ne.symm different)]

theorem Quiet.weigh {weights : Weights S Id F} (quiet : network.Quiet session)
    (noCall : ∀ task, weights.client task none = 0)
    (noHandler : ∀ task, weights.daemon task none = 0) : weigh weights session network = 0 := by
  simp [Network.weigh, quiet.daemon.weigh noHandler, quiet.client.weigh noCall, quiet.toDaemon, quiet.toClient]

/-- A handler begins with the weight of its message. -/
structure Weights.Carried (weights : Weights S Id F) (session : S) : Prop where
  received : ∀ command data, weights.daemon (.receiveCommand command data) (some (.copySubscribers command)) = 0
  handed : ∀ other message, weights.daemon (.message other message) (some (Daemon.first (.message other message))) =
    if other = session then weights.toDaemon message else 0
  delivered : ∀ message, weights.client (.message message) (some (Client.first (.message message))) =
    weights.toClient message

/-- The daemon moves the weight and keeps its amount. -/
def Weights.Conserved (weights : Weights S Id F) (session : S) : Prop :=
  ∀ task call reply due, DaemonMove task call reply due →
    weights.daemon task (some call) = weights.daemon task due + weights.replied session call

def Weights.onClient (weight : ClientTask Id F → Option (ClientCall Id F) → Nat) : Weights S Id F where
  client := weight
  toDaemon _ := 0
  daemon _ _ := 0
  toClient _ := 0

omit [LinearOrder Id] in
@[simp] theorem Weights.replied_onClient {weight : ClientTask Id F → Option (ClientCall Id F) → Nat}
    {call : DaemonCall S Id} :
    (Weights.onClient weight).replied session call = 0 := by
  cases call <;> simp [Weights.replied, Weights.onClient]

omit [LinearOrder S] [LinearOrder Id] in
@[simp] theorem Weights.posted_onClient {weight : ClientTask Id F → Option (ClientCall Id F) → Nat}
    {call : ClientCall Id F} :
    (Weights.onClient weight : Weights S Id F).posted call = 0 := by
  cases call <;> rfl

omit [LinearOrder Id] in
theorem Weights.carried_onClient {weight : ClientTask Id F → Option (ClientCall Id F) → Nat}
    (none : ∀ message, weight (.message message) (some (Client.first (.message message))) = 0) :
    (Weights.onClient weight : Weights S Id F).Carried session where
  received _ _ := rfl
  handed _ _ := by simp [Weights.onClient]
  delivered := none

omit [LinearOrder Id] in
theorem Weights.conserved_onClient {weight : ClientTask Id F → Option (ClientCall Id F) → Nat} :
    (Weights.onClient weight : Weights S Id F).Conserved session := by
  intro task call reply due _
  rw [replied_onClient]
  rfl

theorem weigh_onClient {weight : ClientTask Id F → Option (ClientCall Id F) → Nat} :
    weigh (Weights.onClient weight) session network = (network.clients session).weigh weight := by
  have none : network.daemon.weigh (Weights.onClient weight : Weights S Id F).daemon = 0 := weigh_eq_zero fun _ _ => rfl
  unfold weigh
  rw [none]
  simp [Weights.onClient]

section
variable {weights : Weights S Id F} (carried : weights.Carried session)
include carried

theorem carried_received {command data pool}
    (step : Daemon.system.Step network.daemon (.begins (.receiveCommand command data)) pool) :
    weigh weights session { network with daemon := pool } = weigh weights session network := by
  rw [weigh_received weights session step, carried.received, Nat.add_zero]

theorem carried_handles {delivery : Delivery} {message rest pool}
    (taken : delivery.Takes (network.toDaemon other) message rest)
    (step : Daemon.system.Step network.daemon (.begins (.message other message)) pool) :
    weigh weights session { network with daemon := pool, toDaemon := Function.update network.toDaemon other rest } =
      weigh weights session network := by
  have sums := weigh_handles weights session taken step
  rw [carried.handed] at sums
  omega

theorem carried_receives {delivery : Delivery} {message rest pool}
    (taken : delivery.Takes (network.toClient other) message rest)
    (step : Client.system.Step (network.clients other) (.begins (.message message)) pool) :
    weigh weights session { network with
          clients := Function.update network.clients other pool
          toClient := Function.update network.toClient other rest } = weigh weights session network := by
  have sums := weigh_clientReceives weights session taken step
  rw [carried.delivered] at sums
  omega

end

theorem conserved_calls {weights : Weights S Id F} (conserved : weights.Conserved session) {index call reply pool}
    (step : Daemon.system.Step network.daemon (.calls index call reply) pool) :
    weigh weights session { network with daemon := pool, toClient := replied network.toClient call } =
      weigh weights session network := by
  obtain ⟨task, due, move, -, -, sums, -⟩ := daemon_called step
  have sums := sums weights session
  have same := conserved task call reply due move
  omega

theorem Runs.connected {delivery : Delivery} {trace : List (NetworkEvent S Id F)} (ran : Runs delivery trace network) :
    network.daemon.All fun task _ => ∀ session, task ≠ .clientDisconnected session := by
  apply ran.invariant
  · intro errorCallbacks activity member
    exact nomatch member
  · intro trace network event after _ connected step
    cases step with
    | received step => exact step.begun.2.2 _ connected nofun
    | handles taken ready step => exact step.begun.2.2 _ connected nofun
    | @daemonCalls index call reply pool step =>
      obtain ⟨task, due, -, -, -, -, all⟩ := @daemon_called _ _ F _ _ network index call reply pool step
      obtain ⟨staying, further⟩ := all _ connected
      exact further staying
    | _ => exact connected

end
end CpuCom.Messaging.Network
