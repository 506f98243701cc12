import CpuCom.Proofs.NetworkAccounts

/-! Every UUID is made by one call of one client. -/

namespace CpuCom.Messaging.Network
open Interaction System

variable {S Id F : Type} [LinearOrder S] [LinearOrder Id] {delivery : Delivery} {network : Network S Id F}
  {trace : List (NetworkEvent S Id F)} {session other : S} {id : Id}

def makers (id : Id) : Weights S Id F := .onClient fun task _ => if Client.newId task = some id then 1 else 0

omit [LinearOrder S] in
theorem posted_makers {call : ClientCall Id F} : (makers id : Weights S Id F).posted call = 0 := Weights.posted_onClient

theorem makers_carried : (makers id : Weights S Id F).Carried session := Weights.carried_onClient fun _ => if_neg nofun

theorem weigh_makers :
    weigh (makers id) session network = (network.clients session).weigh (makers id : Weights S Id F).client :=
  weigh_onClient

theorem makers_eq_zero (fresh : ∀ activity ∈ (network.clients session).tasks, Client.newId activity.task ≠ some id) :
    weigh (makers id) session network = 0 := by
  rw [weigh_makers]
  exact weigh_eq_zero fun activity member => if_neg (fresh activity member)

theorem fresh_of_begins {after : Network S Id F} {task : ClientTask Id F}
    (step : Step delivery network (.client session (.begins task)) after) (newId : Client.newId task = some id)
    (other : S) :
    ∀ activity ∈ (network.clients other).tasks, Client.newId activity.task ≠ some id := by
  cases step with
  | clientBegins allowed step =>
    cases task with
    | request new requestCommand requestData responseCommand => exact Option.some.inj newId ▸ allowed other
    | sendWithDeliveryStatus new command data callback => exact Option.some.inj newId ▸ allowed other
    | _ => exact nomatch newId
  | clientReceives taken step => exact nomatch newId

/-- A step that makes no id leaves its makers as they are, and one that does had none. -/
theorem makers_step {event : NetworkEvent S Id F} {after : Network S Id F} (id : Id)
    (step : Step delivery network event after) :
    (∀ session, weigh (makers id) session after = weigh (makers id) session network) ∨
      ∃ maker task, event = .client maker (.begins task) ∧ Client.newId task = some id ∧
        (∀ session, weigh (makers id) session network = 0) ∧
        ∀ session, weigh (makers id) session after = if maker = session then 1 else 0 := by
  have whole := step
  cases step with
  | received step => exact .inl fun session => carried_received makers_carried step
  | handles taken ready step => exact .inl fun session => carried_handles makers_carried taken step
  | daemonCalls step => exact .inl fun session => conserved_calls Weights.conserved_onClient step
  | @clientBegins other task pool allowed step =>
    by_cases made : Client.newId task = some id
    · have none (session : S) : weigh (makers id) session network = 0 :=
        makers_eq_zero (fresh_of_begins whole made session)
      refine .inr ⟨other, task, rfl, made, none, fun session => ?_⟩
      rw [weigh_clientBegins _ session step, none, Nat.zero_add]
      simp [makers, Weights.onClient, made]
    · refine .inl fun session => ?_
      rw [weigh_clientBegins _ session step]
      simp [makers, Weights.onClient, made]
  | clientReceives taken step => exact .inl fun session => carried_receives makers_carried taken step
  | @clientCalls other index call reply pool step =>
    refine .inl fun session => ?_
    by_cases same : other = session
    · subst same
      obtain ⟨task, due, -, -, -, weights, -⟩ := client_called step
      have weight := weights (makers id)
      rw [posted_makers] at weight
      exact Nat.add_right_cancel weight
    · exact weigh_other _ same

theorem one_maker (ran : Runs delivery trace network) (id : Id) : (∀ session, weigh (makers id) session network ≤ 1) ∧
    ∀ session other, session ≠ other → weigh (makers id) session network = 0 ∨ weigh (makers id) other network = 0 := by
  apply ran.invariant
  · intro errorCallbacks
    exact ⟨fun session => Nat.zero_le 1, fun session other _ => .inl rfl⟩
  · rintro trace network event after - ⟨one, other⟩ step
    rcases makers_step id step with same | ⟨maker, task, -, -, -, now⟩
    · simp only [same]
      exact ⟨one, other⟩
    · simp only [now]
      refine ⟨fun session => by split <;> omega, fun session other different => ?_⟩
      by_cases same : maker = session
      · exact .inr (if_neg (same ▸ different))
      · exact .inl (if_neg same)

theorem newId_unique (ran : Runs delivery trace network) {task made : ClientTask Id F}
    (begun : .client session (.begins task) ∈ trace) (begunToo : .client other (.begins made) ∈ trace)
    (newId : Client.newId task = some id) (newIdToo : Client.newId made = some id) : session = other ∧ task = made := by
  obtain ⟨errorCallbacks, ran⟩ := ran
  induction ran with
  | refl => exact nomatch begun
  | @step trace network event after reached step ih =>
    have ran : Runs delivery trace network := ⟨errorCallbacks, reached⟩
    rcases List.mem_append.mp begun with early | now <;> rcases List.mem_append.mp begunToo with earlyToo | nowToo
    · exact ih early earlyToo
    · obtain rfl := List.mem_singleton.mp nowToo
      obtain ⟨activity, there, rfl⟩ := ran.begun early
      exact absurd newId (fresh_of_begins step newIdToo session activity there)
    · obtain rfl := List.mem_singleton.mp now
      obtain ⟨activity, there, rfl⟩ := ran.begun earlyToo
      exact absurd newIdToo (fresh_of_begins step newId other activity there)
    · have same := (List.mem_singleton.mp now).trans (List.mem_singleton.mp nowToo).symm
      injection same with one two
      injection two with two
      exact ⟨one, two⟩

end CpuCom.Messaging.Network
