import CpuCom.Proofs.FreshIds
import CpuCom.Proofs.NetworkFacts
import CpuCom.Proofs.RequestTally

/-! A request moves one token from its client to the daemon and back. A cancellation
follows the token on its way to the daemon and takes it out there. -/

namespace CpuCom.Messaging.Network
open Interaction System
open Uart (CpuCommand)

variable {S Id F : Type} [LinearOrder S] [LinearOrder Id] {delivery : Delivery} {network : Network S Id F}
  {trace : List (NetworkEvent S Id F)} {session other : S} {id : Id}

def registering (id : Id) : Weights S Id F := .onClient fun task due =>
  match task, due with
  | .request new _ _ _, some (.addRequest _) => if new = id then 1 else 0
  | _, _ => 0

def sending (id : Id) : Weights S Id F := .onClient fun task due =>
  match task, due with
  | .request sent _ _ _, some (.send _) => if sent = id then 1 else 0
  | _, _ => 0

def erasing (id : Id) : Weights S Id F := .onClient fun _ due =>
  match due with
  | some (.eraseRequest erased) => if erased = id then 1 else 0
  | _ => 0

def requested (session : S) (id : Id) : Weights S Id F where
  client := (sending id : Weights S Id F).client
  toDaemon
    | .request sent _ _ _ => if sent = id then 1 else 0
    | _ => 0
  daemon task due :=
    match task, due with
    | .message sender (.request sent _ _ _), some (.addRequest _) => if sender = session ∧ sent = id then 1 else 0
    | _, _ => 0
  toClient _ := 0

def responding (session : S) (id : Id) : Weights S Id F where
  client _ due :=
    match due with
    | some (.fulfil answered _) => if answered = id then 1 else 0
    | _ => 0
  toDaemon _ := 0
  daemon _ due :=
    match due with
    | some (.send receiver (.requestResponse answered _)) => if receiver = session ∧ answered = id then 1 else 0
    | _ => 0
  toClient
    | .requestResponse answered _ => if answered = id then 1 else 0
    | _ => 0

def withdrawing (session : S) (id : Id) : Weights S Id F where
  client _ _ := 0
  toDaemon _ := 0
  daemon task due :=
    match task, due with
    | .message sender (.cancelRequest gone), some _ => if sender = session ∧ gone = id then 1 else 0
    | _, _ => 0
  toClient _ := 0

def cancelling (session : S) (id : Id) : Weights S Id F where
  client _ due :=
    match due with
    | some (.send (.cancelRequest gone)) => if gone = id then 1 else 0
    | _ => 0
  toDaemon
    | .cancelRequest gone => if gone = id then 1 else 0
    | _ => 0
  daemon := (withdrawing session id : Weights S Id F).daemon
  toClient _ := 0

theorem registering_carried : (registering id : Weights S Id F).Carried session :=
  Weights.carried_onClient fun message => by cases message <;> rfl

theorem sending_carried : (sending id : Weights S Id F).Carried session :=
  Weights.carried_onClient fun message => by cases message <;> rfl

theorem erasing_carried : (erasing id : Weights S Id F).Carried session :=
  Weights.carried_onClient fun message => by cases message <;> rfl

theorem requested_carried : (requested session id : Weights S Id F).Carried session where
  received _ _ := rfl
  handed other message := by
    cases message with
    | request sent requestCommand requestData responseCommand => simp [requested, Daemon.first, ite_and]
    | _ => exact (ite_self _).symm
  delivered message := by cases message <;> rfl

theorem responding_carried : (responding session id : Weights S Id F).Carried session where
  received _ _ := rfl
  handed other message := by cases message <;> exact (ite_self _).symm
  delivered message := by cases message <;> rfl

theorem cancelling_carried : (cancelling session id : Weights S Id F).Carried session where
  received _ _ := rfl
  handed other message := by
    cases message with
    | cancelRequest gone => simp [cancelling, withdrawing, Daemon.first, ite_and]
    | _ => exact (ite_self _).symm
  delivered message := by cases message <;> rfl

omit [LinearOrder Id] in
theorem Weights.replied_eq_zero {weights : Weights S Id F} {call : DaemonCall S Id}
    (none : ∀ message, weights.toClient message = 0) : weights.replied session call = 0 := by
  cases call <;> simp [Weights.replied, none]

theorem replied_responding {call : DaemonCall S Id} : (responding session id : Weights S Id F).replied session call =
    (responding session id : Weights S Id F).daemon (.clientDisconnected session) (some call) := by
  cases call with
  | send receiver message =>
    cases message with
    | requestResponse answered data => simp [Weights.replied, responding, ite_and]
    | _ => exact ite_self _
  | _ => rfl

def pending (client : Client Id F) (id : Id) : Nat := if id ∈ client.requests then 1 else 0

def waiting (daemon : Daemon S Id) (session : S) (id : Id) : Nat :=
  daemon.requests.countP fun request => request.id = id ∧ request.session = session

def fulfilled (session : S) (trace : List (NetworkEvent S Id F)) : List Id :=
  trace.filterMap fun
    | .client caller (.calls _ (.fulfil id _) reply) => if caller = session ∧ reply.result = true then some id else none
    | _ => none

def tally (trace : List (NetworkEvent S Id F)) (network : Network S Id F) (session : S) (id : Id) : RequestTally where
  made := weigh (makers id) session network
  registering := weigh (registering id) session network
  sending := weigh (sending id) session network
  requested := weigh (requested session id) session network
  waiting := waiting network.daemon.shared session id
  responding := weigh (responding session id) session network
  pending := pending (network.clients session).shared id
  fulfilled := (fulfilled session trace).count id
  erasing := weigh (erasing id) session network
  cancelling := weigh (cancelling session id) session network
  withdrawing := weigh (withdrawing session id) session network

/-- What an amount of each weight makes of a request. -/
def tokensOf (session : S) (id : Id) (amount : Weights S Id F → Nat) : RequestTokens where
  registering := amount (registering id)
  sending := amount (sending id)
  requested := amount (requested session id)
  responding := amount (responding session id)
  erasing := amount (erasing id)
  cancelling := amount (cancelling session id)
  withdrawing := amount (withdrawing session id)

theorem tally_balance {more : List (NetworkEvent S Id F)} {after : Network S Id F} {lost gained : Weights S Id F → Nat}
    (sums : ∀ weights, weigh weights session after + lost weights = weigh weights session network + gained weights) :
    (tally trace network session id).Balance (tokensOf session id lost) (tokensOf session id gained)
    (tally more after session id) :=
  ⟨sums _, sums _, sums _, sums _, sums _, sums _, sums _⟩

/-- No request of this id is behind its cancellation. -/
def Ordered (queue : List (ClientMessage Id)) (id : Id) : Prop :=
  queue.Pairwise fun earlier later => earlier = .cancelRequest id → ∀ requestCommand requestData responseCommand,
    later ≠ .request id requestCommand requestData responseCommand

def Unset (client : Client Id F) : Prop :=
  ∀ (id : Id) (value : Option Data), client.requests[id]? = some value → value = none

theorem pending_perform {client : Client Id F} {call : ClientCall Id F} (unset : Unset client) :
    pending (client.perform call).2 id =
      match call with
      | .addRequest new => if new = id then 1 else pending client id
      | .eraseRequest gone => if gone = id then 0 else pending client id
      | .fulfil answered _ => if answered = id then 0 else pending client id
      | _ => pending client id := by
  cases call with
  | addRequest new => by_cases same : new = id <;> simp [pending, Client.perform, Std.TreeMap.mem_insertIfNew, same]
  | eraseRequest gone => by_cases same : gone = id <;> simp [pending, Client.perform, Std.TreeMap.mem_erase, same]
  | fulfil answered data =>
    have erased :
        (client.perform (.fulfil answered data)).2 = { client with requests := client.requests.erase answered } := by
      simp only [Client.perform]
      split
      · rename_i value found
        exact nomatch unset answered (some value) found
      · rfl
      · rfl
    rw [erased]
    by_cases same : answered = id <;> simp [pending, Std.TreeMap.mem_erase, same]
  | addCallback command callback =>
    simp only [Client.perform]
    split <;> rfl
  | _ => rfl

theorem pending_le (client : Client Id F) (id : Id) : pending client id ≤ 1 := by
  unfold pending
  split <;> omega

theorem erase_reply {client : Client Id F} :
    (client.perform (.eraseRequest id)).1.result = true ↔ pending client id = 1 := by
  simp [Client.perform, pending]

theorem fulfil_reply {client : Client Id F} {data : Data} (unset : Unset client) :
    (client.perform (.fulfil id data)).1.satisfied = false ∧
      ((client.perform (.fulfil id data)).1.result = true ↔ pending client id = 1) := by
  simp only [Client.perform]
  split
  · rename_i value found
    exact nomatch unset id (some value) found
  · rename_i found
    have there : id ∈ client.requests := Std.TreeMap.mem_iff_isSome_getElem?.mpr (by rw [found]; rfl)
    simp [pending, there]
  · rename_i missing
    have absent : id ∉ client.requests := fun there => by simp [Std.TreeMap.mem_iff_isSome_getElem?, missing] at there
    simp [pending, absent]

omit [LinearOrder Id] in
theorem fulfilled_snoc {event : NetworkEvent S Id F} :
    fulfilled session (trace ++ [event]) = fulfilled session trace ++ fulfilled session [event] := List.filterMap_append

theorem countP_erased {α : Type} (counted sought : α → Bool) (elements : List α) :
    elements.countP counted = (elements.eraseP sought).countP counted +
      (elements.find? sought).toList.countP counted := by
  induction elements with
  | nil => rfl
  | cons first elements ih =>
    by_cases found : sought first = true
    · rw [List.eraseP_cons_of_pos found, List.find?_cons_of_pos found, List.countP_cons]
      simp [List.countP_singleton]
    · rw [List.eraseP_cons_of_neg found, List.find?_cons_of_neg found, List.countP_cons, List.countP_cons]
      omega

theorem waiting_cancelled {daemon : Daemon S Id} (one : waiting daemon session id ≤ 1)
    (others : ∀ other, other ≠ session → waiting daemon other id = 0) :
    waiting (daemon.perform (.cancelRequest id)).2 session id = 0 := by
  have counted := countP_erased (fun request => decide (request.id = id ∧ request.session = session))
    (fun request => decide (request.id = id)) daemon.requests
  change waiting daemon session id = waiting (daemon.perform (.cancelRequest id)).2 session id + _ at counted
  cases found : daemon.requests.find? (fun request => decide (request.id = id)) with
  | none =>
    refine Nat.eq_zero_of_le_zero (Nat.le_trans (Nat.le.intro counted.symm) (Nat.le_of_eq ?_))
    refine List.countP_eq_zero.mpr fun request member => ?_
    have missed := List.find?_eq_none.mp found request member
    simp_all
  | some request =>
    have same : request.id = id := by simpa using List.find?_some found
    have own : request.session = session := by
      by_contra different
      have none := List.countP_eq_zero.mp (others request.session different) request (List.mem_of_find?_eq_some found)
      simp [same] at none
    rw [found] at counted
    simp only [Option.toList_some, List.countP_singleton, same, own, and_self, decide_true, if_true] at counted
    omega

theorem waiting_kept {daemon : Daemon S Id} {gone : Id} (different : gone ≠ id) :
    waiting (daemon.perform (.cancelRequest gone)).2 session id = waiting daemon session id := by
  have counted := countP_erased (fun request => decide (request.id = id ∧ request.session = session))
    (fun request => decide (request.id = gone)) daemon.requests
  change waiting daemon session id = waiting (daemon.perform (.cancelRequest gone)).2 session id + _ at counted
  cases found : daemon.requests.find? (fun request => decide (request.id = gone)) with
  | none =>
    rw [found] at counted
    exact counted.symm
  | some request =>
    have same : request.id = gone := by simpa using List.find?_some found
    rw [found] at counted
    simp only [Option.toList_some, List.countP_singleton, same, different, false_and, decide_false] at counted
    exact counted.symm

private theorem tally_handled {after : Network S Id F} {task : DaemonTask S Id} {due : Option (DaemonCall S Id)}
    {index : Nat} {call : DaemonCall S Id} {reply : DaemonReply S Id}
    (kept : ∀ session, (tally trace network session id).Kept)
    (one : ∀ session, weigh (makers id) session network ≤ 1)
    (only : ∀ session other, session ≠ other →
      weigh (makers id) session network = 0 ∨ weigh (makers id) other network = 0)
    (move : DaemonMove task call reply due) (connected : ∀ session, task ≠ .clientDisconnected session)
    (answered : network.daemon.shared.Answers call reply after.daemon.shared)
    (clients : after.clients = network.clients)
    (sums : ∀ (weights : Weights S Id F) session, weigh weights session after + weights.daemon task (some call) =
      weigh weights session network + weights.daemon task due + weights.replied session call) (session : S) :
    (tally trace network session id).Move (tally (trace ++ [.daemon (.calls index call reply)]) after session id) := by
  obtain ⟨shared, replied⟩ := answered
  have made : weigh (makers id) session after = weigh (makers id) session network := by
    have sum := sums (makers id) session
    rw [makers, Weights.replied_onClient] at sum
    exact sum
  have pending :
    pending (after.clients session).shared id = pending (network.clients session).shared id := by rw [clients]
  have quiet : (fulfilled session (trace ++ [.daemon (.calls index call reply)])).count id =
      (fulfilled session trace).count id := by
    rw [fulfilled_snoc]
    exact congrArg _ (List.append_nil _)
  have still (weights : Weights S Id F) (none : ∀ message, weights.toClient message = 0) :
      weigh weights session after + weights.daemon task (some call) =
        weigh weights session network + weights.daemon task due := by
    rw [sums, Weights.replied_eq_zero none, Nat.add_zero]
  have back := sums (responding session id) session
  rw [replied_responding, Nat.add_assoc,
    Nat.add_comm ((responding session id : Weights S Id F).daemon task due)] at back
  have balance : (tally trace network session id).Balance
    (tokensOf session id fun weights : Weights S Id F => weights.daemon task (some call))
      { tokensOf session id fun weights : Weights S Id F => weights.daemon task due with
        responding := (responding session id : Weights S Id F).daemon (.clientDisconnected session) (some call) +
          (responding session id : Weights S Id F).daemon task due }
      (tally (trace ++ [.daemon (.calls index call reply)]) after session id) :=
    ⟨still _ fun _ => rfl, still _ fun _ => rfl, still _ fun _ => rfl, back, still _ fun _ => rfl, still _ fun _ => rfl,
      still _ fun _ => rfl⟩
  cases move with
  | copied notifying =>
    have waiting : waiting after.daemon.shared session id = waiting network.daemon.shared session id := by
      rw [shared]
      rfl
    cases notifying <;> exact .rest balance made waiting pending quiet
  | notified notifying =>
    have waiting : waiting after.daemon.shared session id = waiting network.daemon.shared session id := by
      rw [shared]
      rfl
    cases notifying <;> exact .rest balance made waiting pending quiet
  | @requestAdded sender added requestCommand requestData responseCommand =>
    change RequestTally.Balance _ { requested := if sender = session ∧ added = id then 1 else 0 } {} _ at balance
    have waiting : waiting after.daemon.shared session id =
        waiting network.daemon.shared session id + if sender = session ∧ added = id then 1 else 0 := by
      rw [shared]
      simp [waiting, Daemon.perform, List.countP_append, List.countP_singleton, and_comm]
    by_cases same : sender = session ∧ added = id
    · simp only [if_pos same] at balance waiting
      exact .added balance made waiting pending quiet
    · simp only [if_neg same] at balance waiting
      exact .rest balance made waiting pending quiet
  | @found command data _ request found =>
    have replied : reply = _ := replied.resolve_left (by simp)
    rw [replied] at found
    change RequestTally.Balance _ {}
      { responding := 0 + if request.session = session ∧ request.id = id then 1 else 0 } _ at balance
    have fewer := countP_erased (fun request => decide (request.id = id ∧ request.session = session))
      (fun request => decide (request.responseCommand = command)) network.daemon.shared.requests
    rw [show network.daemon.shared.requests.find? (fun request => decide (request.responseCommand = command)) =
      some request from found] at fewer
    change waiting network.daemon.shared session id =
      waiting (network.daemon.shared.perform (.takeRequest command)).2 session id + _ at fewer
    rw [← shared] at fewer
    simp only [Option.toList_some, List.countP_singleton, decide_eq_true_eq, and_comm] at fewer
    by_cases same : request.session = session ∧ request.id = id
    · simp only [if_pos same] at balance fewer
      exact .found balance made fewer pending quiet
    · simp only [if_neg same] at balance fewer
      exact .rest balance made fewer.symm pending quiet
  | @missed command data _ missed =>
    have replied : reply = _ := replied.resolve_left (by simp)
    rw [replied] at missed
    have same := countP_erased (fun request => decide (request.id = id ∧ request.session = session))
      (fun request => decide (request.responseCommand = command)) network.daemon.shared.requests
    rw [show network.daemon.shared.requests.find? (fun request => decide (request.responseCommand = command)) =
      none from missed] at same
    change waiting network.daemon.shared session id =
      waiting (network.daemon.shared.perform (.takeRequest command)).2 session id at same
    rw [← shared] at same
    exact .rest balance made same.symm pending quiet
  | @answered command data receiver returned =>
    have waiting : waiting after.daemon.shared session id = waiting network.daemon.shared session id := by
      rw [shared]
      rfl
    change RequestTally.Balance _ { responding := if receiver = session ∧ returned = id then 1 else 0 }
      { responding := if receiver = session ∧ returned = id then 1 else 0 } _ at balance
    exact .rest balance made waiting pending quiet
  | @cancelled sender cancelled =>
    change RequestTally.Balance _ ⟨0, 0, 0, 0, 0, if sender = session ∧ cancelled = id then 1 else 0,
      if sender = session ∧ cancelled = id then 1 else 0⟩ {} _ at balance
    by_cases same : cancelled = id
    · subst same
      have sent := sums (cancelling sender cancelled) sender
      rw [Weights.replied_eq_zero fun _ => rfl] at sent
      change _ + (if sender = sender ∧ cancelled = cancelled then 1 else 0) = _ + 0 + 0 at sent
      rw [if_pos ⟨rfl, rfl⟩] at sent
      have maker : 1 ≤ weigh (makers cancelled) sender network := by
        refine ((kept sender).ended ?_).2.2
        simp only [tally]
        omega
      have others (other : S) (different : other ≠ sender) :
          Network.waiting network.daemon.shared other cancelled = 0 := by
        have token := (kept other).token
        simp only [tally] at token
        have none := (only other sender different).resolve_right (Nat.ne_of_gt maker)
        omega
      by_cases own : sender = session
      · subst own
        have waiting : Network.waiting after.daemon.shared sender cancelled = 0 := by
          rw [shared]
          have token := (kept sender).token
          simp only [tally] at token
          have few := one sender
          exact waiting_cancelled (by omega) others
        simp only [and_self, if_true] at balance
        exact .withdrawn balance made waiting pending quiet
      · have before := others session (Ne.symm own)
        have waiting : Network.waiting after.daemon.shared session cancelled =
            Network.waiting network.daemon.shared session cancelled := by
          have fewer : Network.waiting after.daemon.shared session cancelled ≤
              Network.waiting network.daemon.shared session cancelled := by
            rw [shared]
            exact List.eraseP_sublist.countP_le
          omega
        simp only [own, false_and, if_false] at balance
        exact .rest balance made waiting pending quiet
    · have waiting : waiting after.daemon.shared session id = waiting network.daemon.shared session id := by
        rw [shared]
        exact waiting_kept same
      simp only [same, and_false, if_false] at balance
      exact .rest balance made waiting pending quiet
  | subscriberDropped => exact absurd rfl (connected _)
  | requestsDropped => exact absurd rfl (connected _)
  | _ =>
    have waiting : waiting after.daemon.shared session id = waiting network.daemon.shared session id := by
      rw [shared]
      rfl
    exact .rest balance made waiting pending quiet

theorem withdrawing_le :
    weigh (withdrawing session id) session network ≤ weigh (cancelling session id) session network := by
  have client : (network.clients session).weigh (withdrawing session id : Weights S Id F).client = 0 :=
    weigh_eq_zero fun _ _ => rfl
  have toDaemon : ((network.toDaemon session).map (withdrawing session id : Weights S Id F).toDaemon).sum = 0 := by
    simp [withdrawing]
  have toClient : ((network.toClient session).map (withdrawing session id : Weights S Id F).toClient).sum = 0 := by
    simp [withdrawing]
  have daemon : network.daemon.weigh (withdrawing session id : Weights S Id F).daemon =
      network.daemon.weigh (cancelling session id : Weights S Id F).daemon := rfl
  unfold weigh
  omega

private theorem tally_called {after : Network S Id F} {task : ClientTask Id F} {due : Option (ClientCall Id F)}
    {index : Nat} {call : ClientCall Id F} {reply : ClientReply F} (unset : Unset (network.clients session).shared)
    (move : ClientMove task call reply due) (replied : reply = ((network.clients session).shared.perform call).1)
    (shared : (after.clients session).shared = ((network.clients session).shared.perform call).2)
    (daemon : after.daemon = network.daemon)
    (sums : ∀ weights : Weights S Id F, weigh weights session after + weights.client task (some call) =
      weigh weights session network + weights.client task due + weights.posted call) :
    (tally trace network session id).Move
    (tally (trace ++ [.client session (.calls index call reply)]) after session id) := by
  have balance :=
    @tally_balance _ _ _ _ _ network trace session id (trace ++ [.client session (.calls index call reply)]) after
    (fun weights => weights.client task (some call)) (fun weights => weights.posted call + weights.client task due)
    (fun weights => by rw [sums, Nat.add_assoc, Nat.add_comm (weights.client task due)])
  have made := sums (makers id)
  rw [posted_makers] at made
  replace made := Nat.add_right_cancel made
  have waiting : waiting after.daemon.shared session id = waiting network.daemon.shared session id := by rw [daemon]
  have now := @pending_perform _ _ _ id _ call unset
  rw [← shared] at now
  have counted : (fulfilled session (trace ++ [.client session (.calls index call reply)])).count id =
      (fulfilled session trace).count id +
        (fulfilled session [.client session (.calls index call reply)]).count id := by
    rw [fulfilled_snoc, List.count_append]
  cases move with
  | @requested new =>
    change RequestTally.Balance _ { registering := if new = id then 1 else 0 }
      { sending := 0 + if new = id then 1 else 0, requested := 0 + if new = id then 1 else 0 } _ at balance
    by_cases same : new = id
    · subst same
      simp only [if_true, Nat.zero_add] at balance now
      exact .registered balance made waiting now counted withdrawing_le
    · simp only [same, if_false] at balance now
      exact .rest balance made waiting now counted
  | @requestSent sent =>
    change RequestTally.Balance _ { sending := if sent = id then 1 else 0, requested := if sent = id then 1 else 0 }
      { requested := if sent = id then 1 else 0 } _ at balance
    by_cases same : sent = id
    · subst same
      simp only [if_true] at balance
      exact .sent balance made waiting now counted
    · simp only [same, if_false] at balance
      exact .rest balance made waiting now counted
  | @cancelled erased _ canceled =>
    change RequestTally.Balance _ { erasing := if erased = id then 1 else 0 }
      { cancelling := 0 + if erased = id then 1 else 0 } _ at balance
    by_cases same : erased = id
    · subst same
      simp only [if_true] at balance now
      rw [replied, erase_reply] at canceled
      refine .erased ?_ made waiting now counted
      rw [show (tally trace network session erased).pending = 1 from canceled]
      exact balance
    · simp only [same, if_false] at balance now
      exact .rest balance made waiting now counted
  | @notCancelled erased _ missed =>
    change RequestTally.Balance _ { erasing := if erased = id then 1 else 0 } {} _ at balance
    by_cases same : erased = id
    · subst same
      simp only [if_true] at balance now
      have absent : pending (network.clients session).shared erased = 0 := by
        have few := pending_le (network.clients session).shared erased
        have canceled := mt erase_reply.mpr (by rw [← replied, missed]; exact Bool.false_ne_true)
        omega
      refine .erased ?_ made waiting now counted
      rw [show (tally trace network session erased).pending = 0 from absent]
      exact balance
    · simp only [same, if_false] at balance now
      exact .rest balance made waiting now counted
  | @cancelSent sent =>
    change RequestTally.Balance _ { cancelling := if sent = id then 1 else 0 }
      { cancelling := if sent = id then 1 else 0 } _ at balance
    exact .rest balance made waiting now counted
  | @fulfilled answered data =>
    change RequestTally.Balance _ { responding := if answered = id then 1 else 0 } {} _ at balance
    have counts :
      (fulfilled session [.client session (.calls index (.fulfil answered data : ClientCall Id F) reply)]).count id =
        if answered = id then pending (network.clients session).shared answered else 0 := by
      obtain ⟨-, set⟩ := @fulfil_reply _ _ _ answered _ data unset
      rw [← replied] at set
      cases result : reply.result with
      | false =>
        have absent : pending (network.clients session).shared answered ≠ 1 :=
          fun there => by simp [result] at set; exact set there
        have few := pending_le (network.clients session).shared answered
        simp only [fulfilled, List.filterMap_cons, result]
        simp
        omega
      | true =>
        rw [set.mp result]
        simp [fulfilled, result, List.count_singleton]
    rw [counts] at counted
    by_cases same : answered = id
    · subst same
      simp only [if_true] at balance now counted
      exact .answered balance made waiting now counted
    · simp only [same, if_false] at balance now counted
      exact .rest balance made waiting now counted
  | _ => exact .rest balance made waiting now counted

private theorem tally_still {after : Network S Id F} {event : NetworkEvent S Id F}
    (kept : (tally trace network session id).Kept)
    (clients : (after.clients session).shared = (network.clients session).shared)
    (daemon : after.daemon.shared = network.daemon.shared) (quiet : fulfilled session [event] = [])
    (same : ∀ weights : Weights S Id F, weights.Carried session →
      weigh weights session after = weigh weights session network)
    (meeting : 1 ≤ weigh (withdrawing session id) session after → weigh (requested session id) session network = 0) :
    (tally (trace ++ [event]) after session id).Kept := by
  have now : tally (trace ++ [event]) after session id =
      { tally trace network session id with withdrawing := weigh (withdrawing session id) session after } := by
    simp only [tally, fulfilled_snoc, quiet, List.append_nil, clients, daemon, same _ makers_carried,
      same _ registering_carried,
      same _ sending_carried, same _ requested_carried, same _ responding_carried, same _ erasing_carried,
        same _ cancelling_carried]
  rw [now]
  exact { kept with withdrawn := meeting }

private def finishedRequest (id : Id) (task : ClientTask Id F) (due : Option (ClientCall Id F)) : Nat :=
  match task, due with
  | .request made _ _ _, none => if made = id then 1 else 0
  | _, _ => 0

/-- Once a request has returned, nothing of it is left to be done at its client. -/
private theorem returned {activity : Activity (@Client.system Id F _).program}
    {requestCommand responseCommand : CpuCommand} {requestData : Data}
    (one : weigh (makers id) session network ≤ 1) (member : activity ∈ (network.clients session).tasks)
    (task : activity.task = .request id requestCommand requestData responseCommand) (finished : activity.Finished) :
    weigh (registering id) session network = 0 ∧ weigh (sending id) session network = 0 ∧
      1 ≤ weigh (makers id) session network := by
  have some : finishedRequest id activity.task activity.due ≤ (network.clients session).weigh (finishedRequest id) :=
    weigh_pos member
  rw [finished.due, task, finishedRequest, if_pos rfl] at some
  have parts : (network.clients session).weigh (registering id : Weights S Id F).client +
      (network.clients session).weigh (sending id : Weights S Id F).client +
      (network.clients session).weigh (finishedRequest id) ≤
        (network.clients session).weigh (makers id : Weights S Id F).client := by
    rw [← weigh_add, ← weigh_add]
    refine weigh_le fun task due => ?_
    cases task with
    | request made requestCommand requestData responseCommand =>
      have made : (makers id : Weights S Id F).client (.request made requestCommand requestData responseCommand) due =
          if made = id then 1 else 0 := by
        simp [makers, Weights.onClient, Client.newId]
      rw [made]
      cases due with
      | none => exact Nat.le_of_eq (Nat.zero_add _)
      | some call =>
        cases call with
        | addRequest new => exact Nat.le_refl _
        | send message => exact Nat.le_of_eq (Nat.zero_add _)
        | _ => exact Nat.zero_le _
    | _ => exact Nat.zero_le _
  rw [weigh_makers] at one ⊢
  unfold registering sending
  rw [weigh_onClient, weigh_onClient]
  unfold registering sending at parts
  simp only [Weights.onClient] at parts
  omega

structure RequestKept (trace : List (NetworkEvent S Id F)) (network : Network S Id F) (session : S) (id : Id) :
    Prop where
  tally : (tally trace network session id).Kept
  ordered : Ordered (network.toDaemon session) id

private theorem cancelling_pos (member : .cancelRequest id ∈ network.toDaemon session) :
    1 ≤ weigh (cancelling session id) session network := by
  have queue : 1 ≤ ((network.toDaemon session).map (cancelling session id : Weights S Id F).toDaemon).sum :=
    List.single_le_sum (fun _ _ => Nat.zero_le _) _ (List.mem_map.mpr ⟨_, member, if_pos rfl⟩)
  unfold weigh
  omega

/-- No request is ahead of the daemon where its cancellation is first. -/
private theorem requested_eq_zero {rest : List (ClientMessage Id)} (kept : RequestKept trace network session id)
    (taken : network.toDaemon session = .cancelRequest id :: rest) (ready : network.Ready .inOrder session) :
    weigh (requested session id) session network = 0 := by
  have cancelled : 1 ≤ weigh (cancelling session id) session network :=
    cancelling_pos (by rw [taken]; exact List.mem_cons_self)
  have posting : weigh (sending id) session network = 0 := (kept.tally.ended (Nat.le_add_left_of_le cancelled)).2.1
  have client : (network.clients session).weigh (requested session id : Weights S Id F).client ≤
      weigh (sending id) session network := by
    unfold weigh
    exact Nat.le_add_right_of_le (Nat.le_add_right_of_le (Nat.le_add_right_of_le (Nat.le_refl _)))
  have queue : ((network.toDaemon session).map (requested session id : Weights S Id F).toDaemon).sum = 0 := by
    have ordered := kept.ordered
    rw [taken] at ordered ⊢
    refine List.sum_eq_zero fun number counted => ?_
    obtain ⟨message, member, rfl⟩ := List.mem_map.mp counted
    rcases List.mem_cons.mp member with rfl | member
    · rfl
    · have other := (List.pairwise_cons.mp ordered).1 message member rfl
      cases message with
      | request sent requestCommand requestData responseCommand =>
        refine if_neg fun same => other requestCommand requestData responseCommand ?_
        rw [same]
      | _ => rfl
  have daemon : network.daemon.weigh (requested session id : Weights S Id F).daemon = 0 := by
    refine weigh_eq_zero fun activity member => ?_
    cases task : activity.task with
    | message sender message =>
      by_cases same : sender = session
      · rw [(ready activity member ⟨message, same ▸ task⟩).due]
        cases message <;> rfl
      · cases message with
        | request sent requestCommand requestData responseCommand =>
          cases activity.due with
          | none => rfl
          | some call =>
            cases call with
            | addRequest request => exact if_neg fun both => same both.1
            | _ => rfl
        | _ => rfl
    | _ => rfl
  have back : ((network.toClient session).map (requested session id : Weights S Id F).toClient).sum = 0 := by
    simp [requested]
  unfold weigh at *
  omega

private theorem tally_begun {after : Network S Id F} {task : ClientTask Id F} (allowed : network.Allows session task)
    (one : weigh (makers id) session network ≤ 1) (daemon : after.daemon = network.daemon)
    (shared : (after.clients session).shared = (network.clients session).shared)
    (sums : ∀ weights : Weights S Id F, weigh weights session after =
      weigh weights session network + weights.client task (some (Client.first task))) :
    (tally trace network session id).Move (tally (trace ++ [.client session (.begins task)]) after session id) := by
  have balance : (tally trace network session id).Balance {}
      (tokensOf session id fun weights : Weights S Id F => weights.client task (some (Client.first task)))
      (tally (trace ++ [.client session (.begins task)]) after session id) :=
    ⟨sums _, sums _, sums _, sums _, sums _, sums _, sums _⟩
  have made := sums (makers id)
  have waiting : waiting after.daemon.shared session id = waiting network.daemon.shared session id := by rw [daemon]
  have pending :
    pending (after.clients session).shared id = pending (network.clients session).shared id := by rw [shared]
  have quiet : (fulfilled session (trace ++ [.client session (.begins task)])).count id =
      (fulfilled session trace).count id := by
    rw [fulfilled_snoc]
    exact congrArg _ (List.append_nil _)
  cases task with
  | request new requestCommand requestData responseCommand =>
    change RequestTally.Balance _ {} { registering := if new = id then 1 else 0 } _ at balance
    have maker : (makers id : Weights S Id F).client (.request new requestCommand requestData responseCommand)
        (some (.addRequest new)) = if new = id then 1 else 0 := by
      simp [makers, Weights.onClient, Client.newId]
    rw [show Client.first (.request new requestCommand requestData responseCommand : ClientTask Id F) =
      .addRequest new from rfl, maker] at made
    by_cases same : new = id
    · subst same
      have none : weigh (makers new) session network = 0 := makers_eq_zero (allowed session)
      rw [if_pos rfl] at balance made
      exact .begun balance made waiting pending quiet none
    · rw [if_neg same] at balance made
      exact .rest balance made waiting pending quiet
  | cancel erased =>
    change RequestTally.Balance _ {} { erasing := if erased = id then 1 else 0 } _ at balance
    have maker : (makers id : Weights S Id F).client (.cancel erased) (some (.eraseRequest erased)) = 0 := by
      simp [makers, Weights.onClient, Client.newId]
    rw [show Client.first (.cancel erased : ClientTask Id F) = .eraseRequest erased from rfl, maker] at made
    by_cases same : erased = id
    · subst same
      obtain ⟨activity, member, ⟨requestCommand, requestData, responseCommand, task⟩, finished⟩ := allowed
      rw [if_pos rfl] at balance
      exact .released balance made waiting pending quiet (returned one member task finished)
    · rw [if_neg same] at balance
      exact .rest balance made waiting pending quiet
  | message message => exact allowed.elim
  | sendWithDeliveryStatus new command data callback =>
    have maker : (makers id : Weights S Id F).client (.sendWithDeliveryStatus new command data callback)
        (some (Client.first (.sendWithDeliveryStatus new command data callback))) = if new = id then 1 else 0 := by
      simp [makers, Weights.onClient, Client.newId]
    rw [maker] at made
    by_cases same : new = id
    · rw [if_pos same] at made
      exact .taken balance made waiting pending quiet
    · rw [if_neg same] at made
      exact .rest balance made waiting pending quiet
  | _ => exact .rest balance made waiting pending quiet

private theorem ordered_called {after : Network S Id F} {task : ClientTask Id F} {due : Option (ClientCall Id F)}
    {call : ClientCall Id F}
    {reply : ClientReply F} (kept : RequestKept trace network session id) (move : ClientMove task call reply due)
    (posting : weigh (sending id) session after + (sending id : Weights S Id F).client task (some call) =
      weigh (sending id) session network + (sending id : Weights S Id F).client task due +
        (sending id : Weights S Id F).posted call) :
    Ordered (posted network.toDaemon session call session) id := by
  cases call with
  | send message =>
    change Ordered (Function.update network.toDaemon session (network.toDaemon session ++ [message]) session) id
    rw [Function.update_self]
    refine List.pairwise_append.mpr ⟨kept.ordered, List.pairwise_singleton _ _, fun earlier early later last => ?_⟩
    rintro rfl requestCommand requestData responseCommand rfl
    obtain rfl := List.mem_singleton.mp last
    have ended := kept.tally.ended (Nat.le_add_left_of_le (cancelling_pos early))
    simp only [tally] at ended
    cases move with
    | requestSent =>
      change _ + (if id = id then 1 else 0) = _ + 0 + 0 at posting
      rw [if_pos rfl] at posting
      omega
  | _ => exact kept.ordered

theorem RequestKept.step {event : NetworkEvent S Id F} {after : Network S Id F}
    (kept : ∀ session, RequestKept trace network session id)
    (one : ∀ session, weigh (makers id) session network ≤ 1)
    (only : ∀ session other, session ≠ other →
      weigh (makers id) session network = 0 ∨ weigh (makers id) other network = 0)
    (unset : ∀ session, Unset (network.clients session).shared)
    (connected : network.daemon.All fun task _ => ∀ session, task ≠ .clientDisconnected session)
    (step : Step .inOrder network event after) (session : S) : RequestKept (trace ++ [event]) after session id := by
  cases step with
  | received step =>
    refine ⟨?_, (kept session).ordered⟩
    have meeting := weigh_received (withdrawing session id : Weights S Id F) session step
    refine tally_still (kept session).tally rfl step.begun.1 rfl
      (fun weights carried => carried_received carried step) ?_
    rw [meeting]
    exact (kept session).tally.withdrawn
  | @handles other message rest pool taken ready step =>
    have meeting := weigh_handles (withdrawing session id : Weights S Id F) session taken step
    change _ + (if other = session then 0 else 0) = _ at meeting
    rw [ite_self, Nat.add_zero] at meeting
    constructor
    · refine tally_still (kept session).tally rfl step.begun.1 rfl
        (fun weights carried => carried_handles carried taken step) ?_
      rw [meeting]
      have resting := (kept session).tally.withdrawn
      cases message with
      | cancelRequest gone =>
        by_cases same : other = session ∧ gone = id
        · obtain ⟨rfl, rfl⟩ := same
          exact fun _ => requested_eq_zero (kept other) taken ready
        · change 1 ≤ _ + (if other = session ∧ gone = id then 1 else 0) → _
          rw [if_neg same]
          exact resting
      | _ => exact resting
    · by_cases same : other = session
      · subst same
        have ordered := (kept other).ordered
        rw [show network.toDaemon other = message :: rest from taken] at ordered
        change Ordered (Function.update network.toDaemon other rest other) id
        rw [Function.update_self]
        exact (List.pairwise_cons.mp ordered).2
      · change Ordered (Function.update network.toDaemon other rest session) id
        rw [Function.update_of_ne (Ne.symm same)]
        exact (kept session).ordered
  | @daemonCalls index call reply pool step =>
    refine ⟨?_, (kept session).ordered⟩
    obtain ⟨task, due, move, -, answered, sums, all⟩ := daemon_called step
    refine (tally_handled (fun session => (kept session).tally) one only move (all _ connected).1 ?_ ?_ ?_ session).kept
      (one session)
      (kept session).tally
    · exact answered
    · rfl
    · exact sums
  | @clientBegins other task pool allowed step =>
    refine ⟨?_, (kept session).ordered⟩
    by_cases same : other = session
    · subst same
      refine (tally_begun allowed (one other) ?_ (shared_of_begins step other) fun weights => ?_).kept (one other)
        (kept other).tally
      · rfl
      rw [weigh_clientBegins weights other step, if_pos rfl]
    · have still (weights : Weights S Id F) :
        weigh weights session { network with clients := Function.update network.clients other pool } =
          weigh weights session network := by
        rw [weigh_clientBegins weights session step, if_neg same, Nat.add_zero]
      refine tally_still (kept session).tally (shared_of_begins step session) rfl rfl
        (fun weights _ => still weights) ?_
      rw [still]
      exact (kept session).tally.withdrawn
  | @clientReceives other message rest pool taken step =>
    refine ⟨?_, (kept session).ordered⟩
    have meeting := weigh_clientReceives (withdrawing session id : Weights S Id F) session taken step
    refine tally_still (kept session).tally (shared_of_begins step session) rfl rfl
      (fun weights carried => carried_receives carried taken step) ?_
    change _ + (if other = session then 0 else 0) = _ + (if other = session then 0 else 0) at meeting
    rw [Nat.add_right_cancel meeting]
    exact (kept session).tally.withdrawn
  | @clientCalls other index call reply pool step =>
    by_cases same : other = session
    · subst same
      obtain ⟨task, due, move, -, answered, sums, -⟩ := client_called step
      obtain ⟨replied, shared⟩ := Prod.mk.inj answered
      constructor
      · refine (tally_called (unset other) move replied ?_ ?_ ?_).kept (one other) (kept other).tally
        · change (Function.update network.clients other pool other).shared = _
          rw [Function.update_self]
          exact shared
        · rfl
        · exact sums
      · exact ordered_called (kept other) move (sums (sending id))
    · refine ⟨?_, ?_⟩
      · refine tally_still (kept session).tally (congrArg System.Pool.shared (clients_of_ne same)) rfl ?_
          (fun weights _ => weigh_other weights same) ?_
        · cases call with
          | fulfil answered data => simp [fulfilled, same]
          | _ => rfl
        · rw [weigh_other _ same]
          exact (kept session).tally.withdrawn
      · change Ordered (posted network.toDaemon other call session) id
        rw [posted_of_ne same]
        exact (kept session).ordered

end CpuCom.Messaging.Network
