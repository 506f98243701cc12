import CpuCom.Messaging.Library

/-! What one call of the library leads to in its task, and what it makes of the table of
requests and of the futures of their promises. -/

namespace CpuCom.Messaging.Library
open Interaction System Program

variable {Id F : Type}

/-- What one call and its reply lead to in each task. -/
inductive LibraryMove : LibraryTask Id F → LibraryCall Id F → ClientReply F → Option (LibraryCall Id F) → Prop where
  | function {task call reply due} (move : ClientMove task call reply due) :
      LibraryMove (.function task) (.client call) reply (due.map .client)
  | locked {id reply} (alive : reply.result = true) :
      LibraryMove (.releaseResponse id) .lockCancelFunc reply (some (.client (.eraseRequest id)))
  | expired {id reply} (gone : reply.result = false) : LibraryMove (.releaseResponse id) .lockCancelFunc reply none
  | released {id call reply due} (move : ClientMove (.cancel id) call reply due) :
      LibraryMove (.releaseResponse id) (.client call) reply (due.map .client)
  | satisfied {reply} (once : reply.satisfied = false) :
      LibraryMove .destroy .satisfyRequests reply (some (.destroyMember .messenger))
  | satisfiedAgain {reply} (again : reply.satisfied = true) : LibraryMove .destroy .satisfyRequests reply none
  | member {member reply due} (next : ∀ call, due = some call → ∃ other, call = .destroyMember other) :
      LibraryMove .destroy (.destroyMember member) reply due

private theorem destroyMembers_due (members : List Member) (call : LibraryCall Id F)
    (due : (destroyMembers members : LibraryProgram Id F Unit).due = some call) : ∃ other, call = .destroyMember other := by
  cases members with
  | nil => exact nomatch due
  | cons member members => exact ⟨member, (Option.some.inj due).symm⟩

private theorem destroyMembers_flows (members : List Member) :
    (destroyMembers members : LibraryProgram Id F Unit).Flows (LibraryMove .destroy) := by
  induction members with
  | nil => trivial
  | cons member members ih => exact fun reply => ⟨.member (destroyMembers_due members), ih⟩

theorem program_flows (task : LibraryTask Id F) : (program task).Flows (LibraryMove task) := by
  cases task with
  | function task => exact (Client.program_flows task).lift fun _ _ _ => .function
  | releaseResponse id =>
    intro reply
    have cleanup : ((Client.cleanup id).lift .client : LibraryProgram Id F Unit).Flows
        (LibraryMove (.releaseResponse id)) :=
      (Client.program_flows (.cancel id)).lift fun _ _ _ => .released
    cases alive : reply.result with
    | true => simpa [Program.bind, alive] using ⟨.locked alive, cleanup⟩
    | false => simpa [Program.bind, alive] using LibraryMove.expired alive
  | destroy =>
    intro reply
    cases satisfied : reply.satisfied with
    | true => simpa [Program.bind, satisfied, Program.due, Program.Flows] using LibraryMove.satisfiedAgain satisfied
    | false => simpa [Program.bind, satisfied] using ⟨.satisfied satisfied, destroyMembers_flows _⟩

section
variable [LinearOrder Id] {library : Library Id F} {id : Id} {call : LibraryCall Id F}

def requestAfter (id : Id) (held : Option (Option Data)) : LibraryCall Id F → Option (Option Data)
  | .client (.addRequest new) => if new = id then held.or (some none) else held
  | .client (.eraseRequest gone) => if gone = id then none else held
  | .client (.fulfil answered _) => if answered = id ∧ held = some none then none else held
  | .satisfyRequests => held.map fun value => some (value.getD [])
  | .destroyMember .requests => none
  | _ => held

theorem requests_perform (library : Library Id F) (call : LibraryCall Id F) (id : Id) :
    (library.perform call).2.client.requests[id]? = requestAfter id library.client.requests[id]? call := by
  cases call with
  | client call =>
    cases call with
    | addRequest new =>
      change (library.client.requests.insertIfNew new none)[id]? = _
      rw [Std.TreeMap.getElem?_insertIfNew]
      by_cases same : new = id
      · subst same
        simp only [Std.TreeMap.mem_iff_isSome_getElem?, requestAfter]
        cases held : library.client.requests[new]? <;> simp
      · simp [requestAfter, same]
    | eraseRequest gone =>
      change (library.client.requests.erase gone)[id]? = _
      rw [Std.TreeMap.getElem?_erase]
      simp [requestAfter]
    | fulfil answered data =>
      change (library.client.perform (.fulfil answered data)).2.requests[id]? = _
      by_cases same : answered = id
      · subst same
        rcases held : library.client.requests[answered]? with _ | _ | value <;> simp [Client.perform, requestAfter, held]
      · rcases held : library.client.requests[answered]? with _ | _ | value <;>
          simp [Client.perform, requestAfter, held, same, Std.TreeMap.getElem?_erase]
    | addCallback command callback =>
      change (library.client.perform (.addCallback command callback)).2.requests[id]? = _
      simp only [Client.perform]
      split <;> rfl
    | _ => rfl
  | lockCancelFunc => rfl
  | satisfyRequests => exact Std.TreeMap.getElem?_map
  | destroyMember member =>
    cases member with
    | requests => exact Std.TreeMap.getElem?_emptyc
    | _ => rfl

/-- How a promise leaves the table. -/
inductive Settles (id : Id) : LibraryCall Id F → Outcome → Prop where
  | released : Settles id (.client (.eraseRequest id)) .broken
  | answered {data} : Settles id (.client (.fulfil id data)) (.value data)
  | dropped : Settles id (.destroyMember .requests) .broken

omit [LinearOrder Id] in
theorem Settles.ne_pending {outcome : Outcome} (settles : Settles id call outcome) : outcome ≠ .pending := by
  cases settles <;> nofun

omit [LinearOrder Id] in
theorem Settles.unadded {outcome : Outcome} (settles : Settles id call outcome) : call ≠ .client (.addRequest id) := by
  cases settles <;> nofun

inductive EntryMove (library : Library Id F) (id : Id) :
    LibraryCall Id F → Option (Option Data) → Option Outcome → Prop where
  | kept {other} (unsatisfied : library.client.requests[id]? = some none → other ≠ .satisfyRequests)
      (unadded : other ≠ .client (.addRequest id)) :
      EntryMove library id other library.client.requests[id]? (library.promises id)
  | added : EntryMove library id (.client (.addRequest id)) (library.client.requests[id]?.or (some none)) (some .pending)
  | settled {other outcome} (held : library.client.requests[id]? = some none) (settles : Settles id other outcome) :
      EntryMove library id other none (some outcome)
  | emptied (held : library.client.requests[id]? = some none) :
      EntryMove library id .satisfyRequests (some (some [])) (some (.value []))
  | cleared {other} (settled : library.client.requests[id]? ≠ some none) (unadded : other ≠ .client (.addRequest id)) :
      EntryMove library id other none (library.promises id)

private theorem settled_perform {outcome : Outcome} {resolved : Id → Prop} [DecidablePred resolved] {other : LibraryCall Id F}
    (mine : resolved id) (settles : Settles id other outcome) :
    EntryMove library id other none (library.resolve outcome resolved id) := by
  unfold resolve
  by_cases held : library.client.requests[id]? = some none
  · rw [if_pos ⟨mine, held⟩]
    exact .settled held settles
  · rw [if_neg fun both => held both.2]
    exact .cleared held settles.unadded

theorem entry_perform (library : Library Id F) (call : LibraryCall Id F) (id : Id) :
    EntryMove library id call (library.perform call).2.client.requests[id]? ((library.perform call).2.promises id) := by
  rw [requests_perform]
  cases call with
  | client call =>
    cases call with
    | addRequest new =>
      change EntryMove library id _ _ (Function.update library.promises new (some .pending) id)
      by_cases same : new = id
      · subst same
        rw [requestAfter, if_pos rfl, Function.update_self]
        exact .added
      · rw [requestAfter, if_neg same, Function.update_of_ne (Ne.symm same)]
        exact .kept (fun _ => nofun) fun added => same (by injection added with added; injection added)
    | eraseRequest gone =>
      change EntryMove library id _ _ (library.resolve .broken (· = gone) id)
      by_cases same : gone = id
      · subst same
        rw [requestAfter, if_pos rfl]
        exact settled_perform rfl .released
      · rw [requestAfter, if_neg same, resolve, if_neg fun both => same both.1.symm]
        exact .kept (fun _ => nofun) nofun
    | fulfil answered data =>
      change EntryMove library id _ _ (library.resolve (.value data) (· = answered) id)
      rw [requestAfter, resolve]
      by_cases same : answered = id ∧ library.client.requests[id]? = some none
      · obtain ⟨rfl, held⟩ := same
        rw [if_pos ⟨rfl, held⟩, if_pos ⟨rfl, held⟩]
        exact .settled held .answered
      · rw [if_neg same, if_neg fun both => same ⟨both.1.symm, both.2⟩]
        exact .kept (fun _ => nofun) nofun
    | _ => exact .kept (fun _ => nofun) nofun
  | lockCancelFunc => exact .kept (fun _ => nofun) nofun
  | satisfyRequests =>
    change EntryMove library id _ _ (library.resolve (.value []) (fun _ => True) id)
    rw [requestAfter, resolve]
    rcases held : library.client.requests[id]? with _ | _ | data
    · rw [if_neg fun both => nomatch both.2]
      exact .cleared (fun there => nomatch held.symm.trans there) nofun
    · rw [if_pos ⟨trivial, rfl⟩]
      exact .emptied held
    · rw [if_neg fun both => nomatch both.2]
      rw [Option.map_some, Option.getD_some, ← held]
      exact .kept (fun there => nomatch held.symm.trans there) nofun
  | destroyMember member =>
    cases member with
    | requests => exact @settled_perform _ _ _ _ _ .broken (fun _ => True) _ _ trivial .dropped
    | _ => exact .kept (fun _ => nofun) nofun

/-- The table of requests and what the futures see, before and after the destructor has
satisfied them. -/
structure Agrees (satisfied : Prop) (library : Library Id F) : Prop where
  awaiting : ∀ id : Id, library.client.requests[id]? = some none → library.promises id = some .pending ∧ ¬ satisfied
  pending : ∀ id : Id, library.promises id = some .pending → library.client.requests[id]? = some none
  closed : ∀ (id : Id) (data : Data), library.client.requests[id]? = some (some data) → satisfied

/-- Only a request that is not there is added, and only before the destructor. -/
theorem Agrees.perform {satisfied : Prop} (agrees : Agrees satisfied library)
    (adds : ∀ id, call = .client (.addRequest id) → library.promises id = none ∧ ¬ satisfied) :
    Agrees (satisfied ∨ call = .satisfyRequests) (library.perform call).2 := by
  have entries := entry_perform library call
  have entry (id : Id) : (
      (library.perform call).2.client.requests[id]? = some none → (library.perform call).2.promises id = some .pending ∧
        ¬ (satisfied ∨ call = .satisfyRequests)) ∧
      ((library.perform call).2.promises id = some .pending →
        (library.perform call).2.client.requests[id]? = some none) ∧
      ∀ data, (library.perform call).2.client.requests[id]? = some (some data) →
        satisfied ∨ call = .satisfyRequests := by
    have move := entries id
    revert move
    generalize (library.perform call).2.client.requests[id]? = held
    generalize (library.perform call).2.promises id = promise
    intro move
    cases move with
    | kept unsatisfied unadded =>
      refine ⟨fun held => ⟨(agrees.awaiting id held).1, fun ended => ?_⟩, agrees.pending id,
        fun data held => .inl (agrees.closed id data held)⟩
      exact ended.elim (agrees.awaiting id held).2 (unsatisfied held)
    | added =>
      obtain ⟨unmade, early⟩ := adds id rfl
      have none : library.client.requests[id]? = none := by
        rcases held : library.client.requests[id]? with _ | _ | data
        · rfl
        · exact nomatch unmade.symm.trans (agrees.awaiting id held).1
        · exact absurd (agrees.closed id data held) early
      rw [none]
      exact ⟨fun _ => ⟨rfl, fun ended => ended.elim early nofun⟩, fun _ => rfl,
        fun data held => nomatch held⟩
    | settled held settles =>
      exact ⟨nofun, fun pending => absurd (Option.some.inj pending) settles.ne_pending, nofun⟩
    | emptied held => exact ⟨nofun, nofun, fun _ _ => .inr rfl⟩
    | cleared settled unadded => exact ⟨nofun, fun pending => absurd (agrees.pending id pending) settled, nofun⟩
  exact ⟨fun id => (entry id).1, fun id => (entry id).2.1, fun id => (entry id).2.2⟩

end
end CpuCom.Messaging.Library
