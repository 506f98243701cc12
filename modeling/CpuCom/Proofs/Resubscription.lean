import CpuCom.Messaging.Reconnection
import CpuCom.Proofs.Announcements
import CpuCom.Proofs.Notifications

/-! A resumed connection subscribes again to every callback. What is left in the queue
comes before it, and about a command without a callback its last word is not to
subscribe. -/

namespace CpuCom.Messaging.Reconnection
open Interaction Client
open Uart (CpuCommand)

variable {S Id F : Type} {session : S} {command : CpuCommand} {left : List (ClientMessage Id)}

inductive Left : ClientProgram Id F Unit → List (ClientMessage Id) → Prop where
  | done : Left (.pure ()) []
  | subscribing {command : CpuCommand} {callback} : Left (Client.subscribe command callback) []
  | unsubscribing {command : CpuCommand} : Left (Client.unsubscribe command) []
  | sending {message next left} (rest : ∀ reply, Left (next reply) left) :
      Left (.call (.send message) next) (message :: left)

theorem left_resubscribe (commands : List CpuCommand) :
    Left (resubscribe commands : ClientProgram Id F Unit) (commands.map .subscribe) := by
  induction commands with
  | nil => exact .done
  | cons command commands ih => exact .sending fun _ => ih

theorem left_of_returned {program : ClientProgram Id F Unit} (running : Left program left)
    (returned : program = .pure ()) : left = [] := by
  cases running with
  | done => rfl
  | subscribing => exact nomatch returned
  | unsubscribing => exact nomatch returned
  | sending rest => exact nomatch returned

def notices (command : CpuCommand) (messages : List (ClientMessage Id)) : List Bool :=
  messages.filterMap (notice command)

@[simp] theorem notices_append (first rest : List (ClientMessage Id)) :
    notices command (first ++ rest) = notices command first ++ notices command rest := List.filterMap_append

theorem decided_resubscribed {commands : List CpuCommand} {now : Prop} :
    Decided (notices command (commands.map .subscribe : List (ClientMessage Id))) now ↔ command ∈ commands ∨ now := by
  induction commands generalizing now with
  | nil => simp [notices]
  | cons first commands ih =>
    rw [List.map_cons, ← List.singleton_append, notices_append, decided_append, ih]
    by_cases same : first = command
    · simp [notices, notice, same]
    · simp [notices, notice, same, Ne.symm same]

variable [LinearOrder S]

def fromSession (session : S) (received : List (S × ClientMessage Id)) : List (ClientMessage Id) :=
  received.filterMap fun (sender, message) => if sender = session then some message else none

@[simp] theorem fromSession_append (first rest : List (S × ClientMessage Id)) :
    fromSession session (first ++ rest) = fromSession session first ++ fromSession session rest := List.filterMap_append

private theorem split_at {μ : Type} {queue : List μ} {position : Nat} {message : μ}
    (found : queue[position]? = some message) :
    queue = queue.take position ++ message :: queue.drop (position + 1) ∧
      queue.eraseIdx position = queue.take position ++ queue.drop (position + 1) := by
  obtain ⟨inside, rfl⟩ := List.getElem?_eq_some_iff.mp found
  exact ⟨by simp, List.eraseIdx_eq_take_drop_succ ..⟩

/-- One message less, which is the first of its sender if there is none before it. -/
private theorem fromSession_erased {received : List (S × ClientMessage Id)} {position : Nat} {sender : S}
    {message : ClientMessage Id} (found : received[position]? = some (sender, message)) :
    (∀ session, sender ≠ session → fromSession session (received.eraseIdx position) = fromSession session received) ∧
      ((∀ older ∈ received.take position, older.1 ≠ sender) →
        fromSession sender received = message :: fromSession sender (received.eraseIdx position)) := by
  obtain ⟨whole, rest⟩ := split_at found
  constructor
  · intro session different
    rw [congrArg (fromSession session) whole, rest]
    simp [fromSession, different]
  · intro first
    have none : fromSession sender (received.take position) = [] := by
      refine List.filterMap_eq_nil_iff.mpr fun older member => ?_
      exact if_neg (first older member)
    rw [congrArg (fromSession sender) whole, rest, fromSession_append, fromSession_append, none]
    simp [fromSession]

variable [LinearOrder Id] {state after : Reconnection S Id F}

/-- The session is in the set of the command once everything has been sent and handled. -/
def Expected (state : Reconnection S Id F) (left : List (ClientMessage Id)) (session : S) (command : CpuCommand) :
    Prop :=
  Decided (notices command (fromSession session state.received ++ (state.outgoing ++ left)))
    (session ∈ state.daemon.subscribersOf command)

/-- `unannounced`: without a callback the last message about the command is not to
subscribe. `absent` and `present`: the daemon agrees with the callbacks in the end,
without a callback at any time and with one once the connection is resumed. `first` is
for the time before any connection. -/
structure Kept (state : Reconnection S Id F) (left : List (ClientMessage Id)) (command : CpuCommand) : Prop where
  running : Left state.running left
  unannounced : command ∉ state.client.callbacks → ¬ Decided (notices command (state.outgoing ++ left)) False
  first : state.sessions = [] → command ∈ state.client.callbacks →
    Decided (notices command (state.outgoing ++ left)) False
  absent : ∀ session, state.connection = some session → command ∉ state.client.callbacks →
    ¬ Expected state left session command
  present : ∀ session, state.connection = some session → state.resumptions = 0 → command ∈ state.client.callbacks →
    Expected state left session command
  current : ∀ session, state.connection = some session → session ∈ state.sessions
  unknown : ∀ session, session ∉ state.sessions → fromSession session state.received = [] ∧
    session ∉ state.daemon.subscribersOf command

theorem handled_message {daemon later : Daemon S Id} {sender : S} {message : ClientMessage Id}
    (ran : handled daemon (.message sender message) = some later) : session ∈ later.subscribersOf command ↔
      Decided (if sender = session then (notice command message).toList else [])
        (session ∈ daemon.subscribersOf command) := by
  have plain (same : later.subscribers = daemon.subscribers) (silent : notice command message = none) :
      session ∈ later.subscribersOf command ↔
        Decided (if sender = session then (notice command message).toList else [])
          (session ∈ daemon.subscribersOf command) := by
    rw [silent, Option.toList_none, ite_self, Daemon.subscribersOf, same]
    exact Iff.rfl
  cases message with
  | subscribe wanted =>
    obtain rfl := Option.some.inj ran
    change session ∈ (daemon.perform (.addSubscriber sender wanted)).2.subscribersOf command ↔ _
    rw [@Daemon.mem_perform_iff _ _ _ _ _ 0 _ {}]
    by_cases own : sender = session <;> by_cases same : wanted = command <;>
      simp [Daemon.subscriptions, notice, own, same]
  | unsubscribe unwanted =>
    obtain rfl := Option.some.inj ran
    change session ∈ (daemon.perform (.removeSubscriber sender unwanted)).2.subscribersOf command ↔ _
    rw [@Daemon.mem_perform_iff _ _ _ _ _ 0 _ {}]
    by_cases own : sender = session <;> by_cases same : unwanted = command <;>
      simp [Daemon.subscriptions, notice, own, same]
  | _ =>
    obtain rfl := Option.some.inj ran
    exact plain rfl rfl

theorem handled_disconnect {daemon later : Daemon S Id} {gone : S}
    (ran : handled daemon (.clientDisconnected gone) = some later) :
    session ∈ later.subscribersOf command ↔ session ∈ daemon.subscribersOf command ∧ gone ≠ session := by
  obtain rfl := Option.some.inj ran
  change session ∈ (daemon.perform (.dropSubscriber gone)).2.subscribersOf command ↔ _
  rw [@Daemon.mem_perform_iff _ _ _ _ _ 0 _ {}]
  simp [Daemon.subscriptions, eq_comm]

/-- What a function is going to send decides about its commands and no others. -/
private theorem Kept.announces {client : Client Id F} {program : ClientProgram Id F Unit} {resumptions : Nat}
    (kept : Kept state [] command) (running : Left program left)
    (decides : (∀ now, Decided (notices command left) now ↔ now) ∧
      (command ∈ client.callbacks ↔ command ∈ state.client.callbacks) ∧
        (command ∈ client.callbacks → resumptions = 0 → state.resumptions = 0) ∨
      ∀ now, Decided (notices command left) now ↔ command ∈ client.callbacks) :
    Kept { state with client, running := program, resumptions } left command := by
  have later (messages : List (ClientMessage Id)) (now : Prop) :
      Decided (notices command (messages ++ left)) now ↔
        Decided (notices command left) (Decided (notices command (messages ++ [])) now) := by
    rw [notices_append, decided_append, List.append_nil]
  rcases decides with ⟨silent, same, resumed⟩ | decides
  · have later (messages : List (ClientMessage Id)) (now : Prop) :
        Decided (notices command (messages ++ left)) now ↔ Decided (notices command (messages ++ [])) now :=
          (later messages now).trans (silent _)
    refine ⟨running, fun absent decided => ?_, fun before there => ?_, fun session up absent => ?_,
      fun session up done there => ?_, kept.current, kept.unknown⟩
    · exact kept.unannounced (fun there => absent (same.mpr there)) ((later _ _).mp decided)
    · exact (later _ _).mpr (kept.first before (same.mp there))
    · rw [Expected, ← List.append_assoc, later, List.append_assoc]
      exact kept.absent session up fun there => absent (same.mpr there)
    · rw [Expected, ← List.append_assoc, later, List.append_assoc]
      exact kept.present session up (resumed there done) (same.mp there)
  · have later (messages : List (ClientMessage Id)) (now : Prop) :
        Decided (notices command (messages ++ left)) now ↔ command ∈ client.callbacks :=
          (later messages now).trans (decides _)
    refine ⟨running, fun absent decided => absent ((later _ _).mp decided), fun _ there => (later _ _).mpr there,
      fun session up absent => ?_, fun session up _ there => ?_, kept.current, kept.unknown⟩
    · rw [Expected, ← List.append_assoc]
      exact fun expected => absurd ((later _ _).mp expected) absent
    · rw [Expected, ← List.append_assoc]
      exact (later _ _).mpr there

/-- What the thread still has to send is sent, now or later. -/
private theorem Kept.calls {request : ClientCall Id F} {next : ClientReply F → ClientProgram Id F Unit}
    (kept : Kept state left command) (due : state.running = .call request next) : ∃ rest, Kept
      { state with
        client := (state.client.perform request).2
        running := next (state.client.perform request).1
        outgoing := state.outgoing ++ posted request } rest command := by
  have running := kept.running
  rw [due] at running
  generalize same : Program.call request next = program at running
  cases running with
  | done => exact nomatch same
  | @subscribing wanted callback =>
    obtain ⟨rfl, rfl⟩ := Program.call.inj same
    simp only [posted, List.append_nil]
    by_cases there : wanted ∈ state.client.callbacks
    · have performed :
        state.client.perform (.addCallback wanted callback) = ({}, state.client) := by simp [perform, there]
      rw [performed]
      exact ⟨[], kept.announces .done (.inl ⟨fun _ => Iff.rfl, Iff.rfl, fun _ done => done⟩)⟩
    · have performed : state.client.perform (.addCallback wanted callback) =
          ({ result := true },
            { state.client with callbacks := state.client.callbacks.insertIfNew wanted callback }) := by
        simp [perform, there]
      rw [performed]
      refine ⟨[.subscribe wanted], kept.announces (.sending fun _ => .done) ?_⟩
      by_cases same : wanted = command
      · subst same
        exact .inr fun now => by simp [notices, notice]
      · exact .inl ⟨fun now => by simp [notices, notice, same], by simp [Std.TreeMap.mem_insertIfNew, same],
          fun _ done => done⟩
  | @unsubscribing unwanted =>
    obtain ⟨rfl, rfl⟩ := Program.call.inj same
    simp only [posted, List.append_nil]
    refine ⟨[.unsubscribe unwanted], kept.announces (.sending fun _ => .done) ?_⟩
    by_cases same : unwanted = command
    · subst same
      exact .inr fun now => by simp [notices, notice, perform]
    · exact .inl ⟨fun now => by simp [notices, notice, same], by simp [perform, Std.TreeMap.mem_erase, same],
        fun _ done => done⟩
  | @sending message later left rest =>
    obtain ⟨rfl, rfl⟩ := Program.call.inj same
    refine ⟨left, rest _, ?_, ?_, ?_, ?_, kept.current, kept.unknown⟩
    · simpa [posted, Client.perform] using kept.unannounced
    · simpa [posted, Client.perform] using kept.first
    · simpa [posted, Client.perform, Expected] using kept.absent
    · simpa [posted, Client.perform, Expected] using kept.present

private theorem Kept.onConnectionResumed {resumptions : Nat} (kept : Kept state [] command) :
    Kept { state with running := Client.onConnectionResumed state.client, resumptions }
      (state.client.callbacks.keys.map .subscribe) command := by
  refine kept.announces (left_resubscribe _) ?_
  by_cases there : command ∈ state.client.callbacks
  · refine .inr fun now => ?_
    rw [decided_resubscribed, Std.TreeMap.mem_keys]
    exact ⟨fun _ => there, .inl⟩
  · refine .inl ⟨fun now => ?_, Iff.rfl, fun present => absurd present there⟩
    rw [decided_resubscribed, Std.TreeMap.mem_keys]
    exact ⟨fun decided => decided.resolve_left there, .inr⟩

/-- A new session is expected where the messages that are left say so. -/
private theorem Kept.connected {resumptions : Nat} (kept : Kept state left command) (fresh : session ∉ state.sessions)
    (resumed : resumptions = 0 → state.sessions = []) :
    Kept { state with connection := some session, sessions := session :: state.sessions, resumptions }
      left command := by
  obtain ⟨quiet, out⟩ := kept.unknown session fresh
  have expected : Expected state left session command ↔ Decided (notices command (state.outgoing ++ left)) False := by
    rw [Expected, quiet, List.nil_append]
    exact decided_congr (iff_false_intro out)
  refine ⟨kept.running, kept.unannounced, nofun, ?_, ?_, ?_, fun other unknown => ?_⟩
  · intro current up absent
    obtain rfl := Option.some.inj up
    exact fun decided => kept.unannounced absent (expected.mp decided)
  · intro current up done there
    obtain rfl := Option.some.inj up
    exact expected.mpr (kept.first (resumed done) there)
  · intro current up
    obtain rfl := Option.some.inj up
    exact List.mem_cons_self
  · exact kept.unknown other fun known => unknown (List.mem_cons_of_mem _ known)

private theorem Kept.delivered {message : ClientMessage Id} {outgoing : List (ClientMessage Id)}
    (kept : Kept state left command)
    (up : state.connection = some session) (queue : state.outgoing = message :: outgoing) :
    Kept { state with outgoing, received := state.received ++ [(session, message)] } left command := by
  have same :
      Expected { state with outgoing, received := state.received ++ [(session, message)] } left session command ↔
      Expected state left session command := by
    simp [Expected, queue, fromSession]
  refine ⟨kept.running, fun absent decided => kept.unannounced absent ?_, fun none => ?_, fun current now absent => ?_,
    fun current now done there => ?_, kept.current, fun other unknown => ?_⟩
  · rw [queue, List.cons_append, ← List.singleton_append, notices_append, decided_append]
    exact decided.mono False.elim
  · have known := kept.current session up
    rw [show state.sessions = [] from none] at known
    exact nomatch known
  · obtain rfl := Option.some.inj (up.symm.trans now)
    exact fun expected => kept.absent session up absent (same.mp expected)
  · obtain rfl := Option.some.inj (up.symm.trans now)
    exact same.mpr (kept.present session up done there)
  · obtain ⟨quiet, out⟩ := kept.unknown other unknown
    have different : session ≠ other := fun same => unknown (same ▸ kept.current session up)
    exact ⟨by simpa [fromSession, different] using quiet, out⟩

/-- The daemon may go on where it leaves the session in question as it is expected. -/
private theorem Kept.handled {received : List (S × ClientMessage Id)} {daemon : Daemon S Id}
    (kept : Kept state left command) (expected : ∀ session, state.connection = some session →
      (Expected { state with received, daemon } left session command ↔ Expected state left session command))
    (unknown : ∀ session, session ∉ state.sessions → fromSession session received = [] ∧
      session ∉ daemon.subscribersOf command) :
    Kept { state with received, daemon } left command where
  running := kept.running
  unannounced := kept.unannounced
  first := kept.first
  absent session up absent := fun decided => kept.absent session up absent ((expected session up).mp decided)
  present session up done there := (expected session up).mpr (kept.present session up done there)
  current := kept.current
  unknown := unknown

/-- What is left after the drop does not end with a Subscribe about a command about
which the last message was an Unsubscribe. -/
def Tidy (state : Reconnection S Id F) : ReconnectionEvent S F → Prop
  | .drops position =>
      match state.outgoing[position]? with
      | some (.unsubscribe command) =>
          (notices command (state.outgoing.eraseIdx position)).getLast? = some true →
            (notices command state.outgoing).getLast? = some true
      | _ => True
  | _ => True

def TidyRun (state : Reconnection S Id F) : List (ReconnectionEvent S F) → Prop
  | [] => True
  | event :: events => Tidy state event ∧ ∀ after ∈ step state event, TidyRun after events

instance (state : Reconnection S Id F) (event : ReconnectionEvent S F) : Decidable (Tidy state event) := by
  unfold Tidy
  split
  · split
    · infer_instance
    · infer_instance
  · infer_instance

instance TidyRun.decidable : ∀ (state : Reconnection S Id F) (events : List (ReconnectionEvent S F)),
    Decidable (TidyRun state events)
  | _, [] => .isTrue trivial
  | state, event :: events =>
      have : DecidablePred (TidyRun · events) := fun after => TidyRun.decidable after events
      inferInstanceAs (Decidable (Tidy state event ∧ ∀ after ∈ step state event, TidyRun after events))

theorem decided_iff {notices : List Bool} : Decided notices False ↔ notices.getLast? = some true := by
  induction notices using List.reverseRecOn with
  | nil => simp
  | append_singleton notices last => simp [decided_append]

private theorem Tidy.decided {position : Nat} (tidy : Tidy state (.drops position : ReconnectionEvent S F))
    (there : position < state.outgoing.length)
    (decided : Decided (notices command (state.outgoing.eraseIdx position)) False) :
    Decided (notices command state.outgoing) False := by
  have found := List.getElem?_eq_getElem there
  generalize state.outgoing[position] = message at found
  obtain ⟨whole, rest⟩ := split_at found
  cases said : notice command message with
  | none =>
    have silent : notices command [message] = [] := by simp [notices, said]
    rw [rest, notices_append] at decided
    rw [whole, notices_append, ← List.singleton_append, notices_append, silent]
    exact decided
  | some subscribes =>
    cases subscribes with
    | true =>
      have speaks : notices command [message] = [true] := by simp [notices, said]
      rw [rest, notices_append, decided_append] at decided
      rw [whole, notices_append, ← List.singleton_append, notices_append, speaks, decided_append, decided_append]
      exact decided.mono fun _ => rfl
    | false =>
      cases message with
      | unsubscribe unwanted =>
        obtain ⟨rfl, -⟩ := Option.ite_none_right_eq_some.mp said
        simp only [Tidy, found] at tidy
        exact decided_iff.mpr (tidy (decided_iff.mp decided))
      | subscribe wanted =>
        obtain ⟨-, other⟩ := Option.ite_none_right_eq_some.mp said
        exact nomatch other
      | _ => exact nomatch said

private theorem Kept.dropped {position : Nat} (kept : Kept state left command) (down : state.connection = none)
    (lost : state.sessions ≠ []) (there : position < state.outgoing.length)
    (tidy : Tidy state (.drops position : ReconnectionEvent S F)) :
    Kept { state with outgoing := state.outgoing.eraseIdx position } left command := by
  refine ⟨kept.running, fun absent decided => kept.unannounced absent ?_, fun none => absurd none lost,
    fun session up => ?_, fun session up => ?_, kept.current, kept.unknown⟩
  · rw [notices_append, decided_append] at decided ⊢
    exact decided.mono (tidy.decided there)
  · exact nomatch down.symm.trans up
  · exact nomatch down.symm.trans up

theorem Kept.next {event : ReconnectionEvent S F} (kept : Kept state left command)
    (stepped : step state event = some after) (tidy : Tidy state event) :
    ∃ rest, Kept after rest command := by
  cases event with
  | subscribe wanted callback =>
    simp only [Reconnection.step] at stepped
    split at stepped
    · rename_i free
      obtain rfl := Option.some.inj stepped
      obtain rfl := left_of_returned kept.running free
      exact ⟨[], { kept with running := .subscribing }⟩
    · exact nomatch stepped
  | unsubscribe unwanted =>
    simp only [Reconnection.step] at stepped
    split at stepped
    · rename_i free
      obtain rfl := Option.some.inj stepped
      obtain rfl := left_of_returned kept.running free
      exact ⟨[], { kept with running := .unsubscribing }⟩
    · exact nomatch stepped
  | onConnectionResumed =>
    simp only [Reconnection.step] at stepped
    split at stepped
    · rename_i free due
      obtain rfl := Option.some.inj stepped
      obtain rfl := left_of_returned kept.running free
      exact ⟨_, kept.onConnectionResumed⟩
    · exact nomatch stepped
  | calls =>
    simp only [Reconnection.step] at stepped
    split at stepped
    · rename_i due
      obtain rfl := Option.some.inj stepped
      exact kept.calls due
    · exact nomatch stepped
  | connects session =>
    obtain ⟨first, stepped⟩ := Option.ite_none_right_eq_some.mp stepped
    obtain rfl := Option.some.inj stepped
    rw [← first]
    exact ⟨left, kept.connected (first ▸ List.not_mem_nil) fun _ => first⟩
  | loses =>
    obtain ⟨session, up, rfl⟩ := Option.map_eq_some_iff.mp stepped
    exact ⟨left, { kept with absent := nofun, present := nofun, current := nofun }⟩
  | drops position =>
    obtain ⟨⟨down, lost, there⟩, stepped⟩ := Option.ite_none_right_eq_some.mp stepped
    obtain rfl := Option.some.inj stepped
    exact ⟨left, kept.dropped down lost there tidy⟩
  | resumes session =>
    obtain ⟨⟨down, lost, fresh⟩, stepped⟩ := Option.ite_none_right_eq_some.mp stepped
    obtain rfl := Option.some.inj stepped
    exact ⟨left, kept.connected fresh nofun⟩
  | delivers =>
    simp only [Reconnection.step] at stepped
    split at stepped
    · rename_i up queue
      obtain rfl := Option.some.inj stepped
      exact ⟨left, kept.delivered up queue⟩
    · exact nomatch stepped
  | handles position =>
    obtain ⟨⟨sender, message⟩, found, stepped⟩ := Option.bind_eq_some_iff.mp stepped
    obtain ⟨first, stepped⟩ := Option.ite_none_right_eq_some.mp stepped
    obtain ⟨daemon, ran, rfl⟩ := Option.map_eq_some_iff.mp stepped
    obtain ⟨others, own⟩ := fromSession_erased found
    refine ⟨left, kept.handled (fun session up => ?_) fun session unknown => ?_⟩
    · unfold Expected
      rw [decided_congr (handled_message ran)]
      by_cases same : sender = session
      · subst same
        rw [own first, if_pos rfl, ← decided_append]
        cases said : notice command message <;> simp [notices, said]
      · rw [others session same, if_neg same]
        exact Iff.rfl
    · obtain ⟨quiet, out⟩ := kept.unknown session unknown
      have same : sender ≠ session := by
        rintro rfl
        rw [own first] at quiet
        exact nomatch quiet
      rw [others session same, handled_message ran, if_neg same]
      exact ⟨quiet, out⟩
  | discards position =>
    obtain ⟨⟨sender, message⟩, found, stepped⟩ := Option.bind_eq_some_iff.mp stepped
    obtain ⟨stale, stepped⟩ := Option.ite_none_right_eq_some.mp stepped
    obtain rfl := Option.some.inj stepped
    obtain ⟨others, -⟩ := fromSession_erased found
    refine ⟨left, kept.handled (fun session up => ?_) fun session unknown => ?_⟩
    · have same : sender ≠ session := fun same => stale (same ▸ up)
      unfold Expected
      rw [others session same]
    · obtain ⟨quiet, out⟩ := kept.unknown session unknown
      refine ⟨?_, out⟩
      rw [fromSession, List.filterMap_eq_nil_iff] at quiet ⊢
      exact fun older member => quiet older (List.mem_of_mem_eraseIdx member)
  | onClientDisconnected gone =>
    obtain ⟨⟨known, stale⟩, stepped⟩ := Option.ite_none_right_eq_some.mp stepped
    obtain ⟨daemon, ran, rfl⟩ := Option.map_eq_some_iff.mp stepped
    refine ⟨left, kept.handled (fun session up => decided_congr ?_) fun session unknown => ?_⟩
    · have same : gone ≠ session := fun same => stale (same ▸ up)
      exact (handled_disconnect ran).trans (and_iff_left same)
    · obtain ⟨quiet, out⟩ := kept.unknown session unknown
      exact ⟨quiet, fun member => out ((handled_disconnect ran).mp member).1⟩

theorem kept_of_run {events : List (ReconnectionEvent S F)} (kept : Kept state left command)
    (ran : run state events = some after) (tidy : TidyRun state events) :
    ∃ rest, Kept after rest command := by
  induction events generalizing state left with
  | nil =>
    obtain rfl := Option.some.inj ran
    exact ⟨left, kept⟩
  | cons event events ih =>
    obtain ⟨middle, stepped, ran⟩ := Option.bind_eq_some_iff.mp ran
    obtain ⟨rest, kept⟩ := kept.next stepped tidy.1
    exact ih kept ran (tidy.2 middle stepped)

theorem kept_initial (errorCallback : Option F) (command : CpuCommand) :
    Kept (initial errorCallback : Reconnection S Id F) [] command where
  running := .done
  unannounced _ := id
  first _ there := by simp [initial, Client.initial] at there
  absent := nofun
  present := nofun
  current := nofun
  unknown session _ := by simp [initial, fromSession, Daemon.initial, Daemon.subscribersOf]

/-- However often the connection has been lost, and as long as what is dropped is dropped
tidily, the sets of the daemon have its current session for the keys of the callbacks, once
all messages are handled. -/
theorem subscriptions_survive {errorCallback : Option F} {events : List (ReconnectionEvent S F)}
    (ran : run (initial errorCallback : Reconnection S Id F) events = some state)
    (tidy : TidyRun (initial errorCallback : Reconnection S Id F) events) (settled : state.Settled session)
    (command : CpuCommand) :
    session ∈ state.daemon.subscribersOf command ↔ command ∈ state.client.callbacks := by
  obtain ⟨left, kept⟩ := kept_of_run (kept_initial errorCallback command) ran tidy
  obtain rfl := left_of_returned kept.running settled.returned
  have quiet : fromSession session state.received = [] := by
    refine List.filterMap_eq_nil_iff.mpr fun received member => if_neg ?_
    rintro rfl
    exact settled.handled _ member
  have expected : Expected state [] session command ↔ session ∈ state.daemon.subscribersOf command := by
    rw [Expected, quiet, settled.sent]
    exact Iff.rfl
  rw [← expected]
  constructor
  · intro decided
    by_contra absent
    exact kept.absent session settled.up absent decided
  · exact kept.present session settled.up settled.resumed

/-- A subscription is lost with the connection and made again, and another one is taken
back while there is none. -/
theorem resumed_subscription :
    ∃ (state : Reconnection Nat Nat Nat) (events : _), run (initial none) events = some state ∧
    state.Settled 2 ∧ (2 ∈ state.daemon.subscribersOf (5, 0) ↔ (5, 0) ∈ state.client.callbacks) ∧
      2 ∈ state.daemon.subscribersOf (5, 0) ∧ 2 ∉ state.daemon.subscribersOf (4, 0) := by
  generalize history : ([.connects 1, .subscribe (4, 0) (some 1), .calls, .calls, .delivers,
    .subscribe (5, 0) (some 2), .calls, .calls, .loses, .unsubscribe (4, 0), .calls, .calls, .handles 0, .drops 1, .drops 0,
    .resumes 2, .onConnectionResumed, .calls, .onClientDisconnected 1, .delivers, .handles 0] :
      List (ReconnectionEvent Nat Nat)) = events
  have tidy : TidyRun (initial none : Reconnection Nat Nat Nat) events := by
    subst history
    decide +kernel
  have checked : (run (initial none : Reconnection Nat Nat Nat) events).any (fun state => decide
      (state.Settled 2 ∧ 2 ∈ state.daemon.subscribersOf (5, 0) ∧ 2 ∉ state.daemon.subscribersOf (4, 0))) = true := by
    subst history
    decide +kernel
  obtain ⟨state, ran, checked⟩ := (Option.any_eq_true _ _).mp checked
  obtain ⟨settled, there, gone⟩ := of_decide_eq_true checked
  exact ⟨state, events, ran, settled, subscriptions_survive ran tidy settled (5, 0), there, gone⟩

/-- A Subscribe and the Unsubscribe after it wait while there is no connection, and only the
Unsubscribe is dropped. -/
theorem dropped_unsubscribe : ¬ ∀ (events : List (ReconnectionEvent Nat Nat)) (state : Reconnection Nat Nat Nat)
    (session : Nat) (command : CpuCommand), run (initial none) events = some state → state.Settled session →
      (session ∈ state.daemon.subscribersOf command ↔ command ∈ state.client.callbacks) := by
  have checked :
    (run (initial none : Reconnection Nat Nat Nat) [.connects 1, .loses, .subscribe (4, 0) (some 1), .calls, .calls,
      .unsubscribe (4, 0), .calls, .calls, .drops 1, .resumes 2, .onConnectionResumed, .delivers, .handles 0]).any
      (fun state => decide
        (state.Settled 2 ∧ 2 ∈ state.daemon.subscribersOf (4, 0) ∧ (4, 0) ∉ state.client.callbacks)) = true := by
    decide +kernel
  obtain ⟨state, ran, checked⟩ := (Option.any_eq_true _ _).mp checked
  obtain ⟨settled, there, absent⟩ := of_decide_eq_true checked
  exact fun claimed => absent ((claimed _ state 2 (4, 0) ran settled).mp there)

end CpuCom.Messaging.Reconnection
