import CpuCom.Proofs.NetworkAccounts

/-! Facts about what is under way, in flight and in the tables, in view of what has
happened. They hold in every run if every move hands them on. -/

namespace CpuCom.Messaging.Network
open Interaction System

variable {S Id F : Type} [LinearOrder S] [LinearOrder Id]

structure Facts (S Id F : Type) [LinearOrder S] [LinearOrder Id] where
  call : S → ClientTask Id F → Option (ClientCall Id F) → Prop
  tables : S → Client Id F → Prop
  toDaemon : S → ClientMessage Id → Prop
  handler : DaemonTask S Id → Option (DaemonCall S Id) → Prop
  daemon : Daemon S Id → Prop
  toClient : S → ServerMessage Id → Prop

namespace Facts

structure Hold (facts : Facts S Id F) (network : Network S Id F) : Prop where
  calls : ∀ session, (network.clients session).All (facts.call session)
  tables : ∀ session, facts.tables session (network.clients session).shared
  toDaemon : ∀ session, ∀ message ∈ network.toDaemon session, facts.toDaemon session message
  handlers : network.daemon.All facts.handler
  daemon : facts.daemon network.daemon.shared
  toClient : ∀ session, ∀ message ∈ network.toClient session, facts.toClient session message

structure Implies (facts later : Facts S Id F) : Prop where
  call : ∀ session task due, facts.call session task due → later.call session task due
  tables : ∀ session client, facts.tables session client → later.tables session client
  toDaemon : ∀ session message, facts.toDaemon session message → later.toDaemon session message
  handler : ∀ task due, facts.handler task due → later.handler task due
  daemon : ∀ daemon, facts.daemon daemon → later.daemon daemon
  toClient : ∀ session message, facts.toClient session message → later.toClient session message

theorem Hold.implies {facts later : Facts S Id F} {network : Network S Id F} (hold : facts.Hold network)
    (implies : facts.Implies later) : later.Hold network where
  calls session activity member := implies.call _ _ _ (hold.calls session activity member)
  tables session := implies.tables _ _ (hold.tables session)
  toDaemon session message member := implies.toDaemon _ _ (hold.toDaemon session message member)
  handlers activity member := implies.handler _ _ (hold.handlers activity member)
  daemon := implies.daemon _ hold.daemon
  toClient session message member := implies.toClient _ _ (hold.toClient session message member)

/-- Every move hands the facts on to what it leaves. -/
structure Kept (facts : List (NetworkEvent S Id F) → Facts S Id F) : Prop where
  grows : ∀ trace event, (facts trace).Implies (facts (trace ++ [event]))
  begins : ∀ trace session task, .client session (.begins task) ∈ trace → (∀ message, task ≠ .message message) →
    (facts trace).call session task (some (Client.first task))
  delivered : ∀ trace session message, .client session (.begins (.message message)) ∈ trace →
    (facts trace).toClient session message →
      (facts trace).call session (.message message) (some (Client.first (.message message)))
  handed : ∀ trace session message, (facts trace).toDaemon session message →
    (facts trace).handler (.message session message) (some (Daemon.first (.message session message)))
  received : ∀ trace command data, .daemon (.begins (.receiveCommand command data)) ∈ trace →
    (facts trace).handler (.receiveCommand command data) (some (.copySubscribers command))
  calls : ∀ trace session index task call reply due client, .client session (.calls index call reply) ∈ trace →
    ClientMove task call reply due → (facts trace).call session task (some call) → (facts trace).tables session client →
    reply = (client.perform call).1 → (facts trace).call session task due ∧
      (facts trace).tables session (client.perform call).2 ∧
      ∀ message, call = .send message → (facts trace).toDaemon session message
  handles : ∀ trace index task call reply due daemon after, .daemon (.calls index call reply) ∈ trace →
    (begun (atDaemon trace))[index]? = some task → DaemonMove task call reply due →
      (facts trace).handler task (some call) →
    (facts trace).daemon daemon → daemon.Answers call reply after → (facts trace).handler task due ∧
      (facts trace).daemon after ∧
      ∀ receiver message, call = .send receiver message → (facts trace).toClient receiver message

theorem Takes.subset {μ : Type} {delivery : Delivery} {queue rest : List μ} {message : μ}
    (taken : delivery.Takes queue message rest) :
    message ∈ queue ∧ rest ⊆ queue := by
  cases delivery with
  | inOrder =>
    obtain rfl : queue = message :: rest := taken
    exact ⟨List.mem_cons_self, List.subset_cons_self _ _⟩
  | anyOrder =>
    obtain ⟨before, after, rfl, rfl⟩ := taken
    exact ⟨by simp, fun other member => by simp at member ⊢; tauto⟩

/-- What holds of all and of what one is updated to holds of all after it. -/
theorem forall_update {β : Type} {holds : S → β → Prop} {all : S → β} {other : S} {value : β}
    (before : ∀ session, holds session (all session))
    (updated : holds other value) : ∀ session, holds session (Function.update all other value session) := by
  rw [Function.forall_update_iff all fun session value => holds session value]
  exact ⟨updated, fun session _ => before session⟩

private theorem queue_update {μ : Type} {holds : S → μ → Prop} {queues : S → List μ} {other : S} {queue : List μ}
    (before : ∀ session, ∀ message ∈ queues session, holds session message)
    (updated : ∀ message ∈ queue, holds other message) :
    ∀ session, ∀ message ∈ Function.update queues other queue session, holds session message :=
  @forall_update S _ _ (fun session queue => ∀ message ∈ queue, holds session message) _ _ _ before updated

private theorem tables_update {holds : S → Client Id F → Prop} {clients : S → (@Client.system Id F _).Pool} {other : S}
    {pool : (@Client.system Id F _).Pool} (before : ∀ session, holds session (clients session).shared)
    (updated : holds other pool.shared) :
    ∀ session, holds session (Function.update clients other pool session).shared :=
  @forall_update S _ _
    (fun session (pool : (@Client.system Id F _).Pool) => holds session pool.shared) _ _ _ before updated

theorem Kept.step {facts : List (NetworkEvent S Id F) → Facts S Id F} (kept : Kept facts) {delivery : Delivery}
    {trace : List (NetworkEvent S Id F)} {event : NetworkEvent S Id F} {network after : Network S Id F}
    (ran : Runs delivery trace network) (hold : (facts trace).Hold network) (step : Step delivery network event after) :
    (facts (trace ++ [event])).Hold after := by
  have hold := hold.implies (kept.grows trace event)
  have happened : event ∈ trace ++ [event] := List.mem_append_right _ (List.mem_singleton_self _)
  cases step with
  | received step =>
    obtain ⟨same, -, all⟩ := step.begun
    exact { hold with
      handlers := all _ hold.handlers (by rw [Daemon.system_due]; exact kept.received _ _ _ happened)
      daemon := same ▸ hold.daemon }
  | handles taken ready step =>
    obtain ⟨same, -, all⟩ := step.begun
    obtain ⟨there, fewer⟩ := Takes.subset taken
    exact { hold with
      toDaemon := queue_update hold.toDaemon fun message member => hold.toDaemon _ message (fewer member)
      handlers := all _ hold.handlers (by rw [Daemon.system_due]; exact kept.handed _ _ _ (hold.toDaemon _ _ there))
      daemon := same ▸ hold.daemon }
  | @daemonCalls index call reply pool step =>
    obtain ⟨task, due, move, caller, answered, -, all⟩ := @daemon_called _ _ F _ _ network index call reply pool step
    have caller : (begun (atDaemon (trace ++ [.daemon (.calls index call reply)])))[index]? = some task := by
      have same : begun (atDaemon (trace ++ [.daemon (.calls index call reply)])) = begun (atDaemon trace) := by
        simp [atDaemon, begun]
      rw [same, ← ran.daemon.begun, List.getElem?_map]
      exact caller
    obtain ⟨now, further⟩ := all _ hold.handlers
    obtain ⟨due, tables, sends⟩ := kept.handles _ _ _ _ _ _ _ _ happened caller move now hold.daemon answered
    exact { hold with
      handlers := further due
      daemon := tables
      toClient := by
        cases call with
        | send receiver message =>
          refine queue_update hold.toClient fun other member => ?_
          rcases List.mem_append.mp member with member | member
          · exact hold.toClient _ _ member
          · exact List.mem_singleton.mp member ▸ sends _ _ rfl
        | _ => exact hold.toClient }
  | @clientBegins session task pool allowed step =>
    obtain ⟨same, -, all⟩ := step.begun
    have first := kept.begins _ _ _ happened fun message is => by
      subst is
      exact allowed
    have calls := all _ (hold.calls _) (by rw [Client.system_due]; exact first)
    exact { hold with
      calls := forall_update hold.calls calls
      tables := fun other => by rw [shared_of_begins step]; exact hold.tables other }
  | clientReceives taken step =>
    obtain ⟨same, -, all⟩ := step.begun
    obtain ⟨there, fewer⟩ := Takes.subset taken
    have first := kept.delivered _ _ _ happened (hold.toClient _ _ there)
    have calls := all _ (hold.calls _) (by rw [Client.system_due]; exact first)
    exact { hold with
      calls := forall_update hold.calls calls
      tables := fun other => by rw [shared_of_begins step]; exact hold.tables other
      toClient := queue_update hold.toClient fun message member => hold.toClient _ message (fewer member) }
  | @clientCalls session index call reply pool step =>
    obtain ⟨task, due, move, -, answered, -, all⟩ := client_called step
    obtain ⟨replied, shared⟩ := Prod.ext_iff.mp answered
    obtain ⟨now, further⟩ := all _ (hold.calls session)
    obtain ⟨due, tables, sends⟩ := kept.calls _ _ _ _ _ _ _ _ happened move now (hold.tables session) replied
    have shared : pool.shared = ((network.clients session).shared.perform call).2 := shared
    rw [← shared] at tables
    exact { hold with
      calls := forall_update hold.calls (further due)
      tables := tables_update hold.tables tables
      toDaemon := by
        cases call with
        | send message =>
          refine queue_update hold.toDaemon fun other member => ?_
          rcases List.mem_append.mp member with member | member
          · exact hold.toDaemon _ _ member
          · exact List.mem_singleton.mp member ▸ sends _ rfl
        | _ => exact hold.toDaemon }

theorem Kept.hold {facts : List (NetworkEvent S Id F) → Facts S Id F} (kept : Kept facts) {delivery : Delivery}
    {trace : List (NetworkEvent S Id F)} {network : Network S Id F} (ran : Runs delivery trace network)
    (tables : ∀ session errorCallback, (facts []).tables session (Client.initial errorCallback))
    (daemon : (facts []).daemon Daemon.initial) : (facts trace).Hold network := by
  obtain ⟨errorCallbacks, ran⟩ := ran
  induction ran with
  | refl => exact ⟨fun _ => nofun, fun session => tables session _, fun _ => nofun, nofun, daemon, fun _ => nofun⟩
  | step reached step ih => exact kept.step ⟨errorCallbacks, reached⟩ ih step

end Facts
end CpuCom.Messaging.Network
