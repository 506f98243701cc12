import CpuCom.Proofs.RequestMatching

/-! Requests whose write to the V-CPU fails. The queue is that of `m_requests`, with
the handler that has put each request into it, so that the requests are told apart
whatever their ids. -/

namespace CpuCom.Messaging.Daemon
open Interaction System Program
open Uart (CpuCommand)

variable {S Id : Type}

section
variable [DecidableEq S] [DecidableEq Id]

/-- A request with the number of the handler that has registered it. -/
abbrev Entry (S Id : Type) := Nat × PendingRequest S Id

def requeue (queue : List (Entry S Id)) : Event S Id → List (Entry S Id)
  | .calls index (.addRequest request) _ => queue ++ [(index, request)]
  | .calls _ (.takeRequest command) _ => queue.eraseP (·.2.responseCommand = command)
  | .calls _ (.cancelRequest id) _ => queue.eraseP (·.2.id = id)
  | .calls _ (.dropRequests session) _ => queue.filter (·.2.session ≠ session)
  | _ => queue

def queueAfter (history : List (Event S Id)) : List (Entry S Id) := history.foldl requeue []

def taken (history : List (Event S Id)) (command : CpuCommand) : Option (Entry S Id) :=
  (queueAfter history).find? (·.2.responseCommand = command)

def writeFailed (history : List (Event S Id)) (index : Nat) : Bool :=
  history.any fun
    | .calls caller (.write _ _) reply => caller = index && !reply.written
    | _ => false

def Written (history : List (Event S Id)) (index : Nat) : Prop :=
  ∃ command data reply, .calls index (.write command data) reply ∈ history ∧ reply.written = true

/-- The oldest entry of the queue whose write does not fail in the run. -/
def oldestDelivered (run before : List (Event S Id)) (command : CpuCommand) : Option (Entry S Id) :=
  ((queueAfter before).filter fun entry => !writeFailed run entry.1).find? (·.2.responseCommand = command)

def Answered (history : List (Event S Id)) (index : Nat) : Prop :=
  ∃ before after caller command reply request, history = before ++ .calls caller (.takeRequest command) reply :: after ∧
    taken before command = some (index, request)

/-- Every write that fails finds its request cancelled or dropped already. -/
def FailuresWithdrawn (run : List (Event S Id)) : Prop :=
  ∀ before after index command data reply, run = before ++ .calls index (.write command data) reply :: after →
    reply.written = false → (∀ entry ∈ queueAfter before, entry.1 ≠ index) ∧ ¬ Answered before index

@[simp] theorem queueAfter_snoc (history : List (Event S Id)) (event : Event S Id) :
    queueAfter (history ++ [event]) = requeue (queueAfter history) event := by
  simp [queueAfter]

omit [DecidableEq S] [DecidableEq Id] in
theorem writeFailed_iff {history : List (Event S Id)} {index : Nat} : writeFailed history index = true ↔
    ∃ command data reply, .calls index (.write command data) reply ∈ history ∧ reply.written = false := by
  unfold writeFailed
  rw [List.any_eq_true]
  constructor
  · rintro ⟨event, member, failed⟩
    split at failed
    · rw [Bool.and_eq_true, decide_eq_true_iff, Bool.not_eq_true'] at failed
      obtain ⟨rfl, failed⟩ := failed
      exact ⟨_, _, _, member, failed⟩
    · exact nomatch failed
  · rintro ⟨command, data, reply, member, failed⟩
    exact ⟨_, member, by simp [failed]⟩

theorem requeue_subset {queue : List (Entry S Id)} {event : Event S Id} {entry : Entry S Id}
    (member : entry ∈ requeue queue event) :
    entry ∈ queue ∨ ∃ reply, event = .calls entry.1 (.addRequest entry.2) reply := by
  unfold requeue at member
  split at member
  · rcases List.mem_append.mp member with member | last
    · exact .inl member
    · obtain rfl := List.mem_singleton.mp last
      exact .inr ⟨_, rfl⟩
  · exact .inl (List.eraseP_subset member)
  · exact .inl (List.eraseP_subset member)
  · exact .inl (List.mem_filter.mp member).1
  · exact .inl member

theorem registered_of_queued {history : List (Event S Id)} {entry : Entry S Id} (queued : entry ∈ queueAfter history) :
    ∃ reply, .calls entry.1 (.addRequest entry.2) reply ∈ history := by
  induction history using List.reverseRecOn with
  | nil => exact nomatch queued
  | append_singleton history event ih =>
    rw [queueAfter_snoc] at queued
    rcases requeue_subset queued with queued | ⟨reply, rfl⟩
    · obtain ⟨reply, member⟩ := ih queued
      exact ⟨reply, List.mem_append_left _ member⟩
    · exact ⟨reply, List.mem_append_right _ (List.mem_singleton_self _)⟩

/-- A handler that registers nothing more does not come back into the queue. -/
theorem not_queued_later {before after : List (Event S Id)} {index : Nat}
    (absent : ∀ entry ∈ queueAfter before, entry.1 ≠ index)
    (silent : ∀ request reply, .calls index (.addRequest request) reply ∉ after) :
    ∀ entry ∈ queueAfter (before ++ after), entry.1 ≠ index := by
  induction after using List.reverseRecOn with
  | nil => rwa [List.append_nil]
  | append_singleton after event ih =>
    rw [← List.append_assoc, queueAfter_snoc]
    intro entry member
    rcases requeue_subset member with member | ⟨reply, rfl⟩
    · exact ih (fun request reply member => silent request reply (List.mem_append_left _ member)) entry member
    · rintro rfl
      exact silent entry.2 reply (List.mem_append_right _ (List.mem_singleton_self _))

end

section
variable [LinearOrder S] [DecidableEq Id] {trace before after : List (Event S Id)} {pool : (@system S Id _ _).Pool}

theorem requeue_perform {daemon changed : Daemon S Id} {index : Nat} {call : DaemonCall S Id} {reply : DaemonReply S Id}
    {queue : List (Entry S Id)} (same : daemon.requests = queue.map Prod.snd)
    (answered : daemon.Answers call reply changed) :
    changed.requests = (requeue queue (.calls index call reply)).map Prod.snd := by
  obtain ⟨rfl, -⟩ := answered
  cases call with
  | addRequest request => simp [perform, requeue, same]
  | takeRequest command => simp [perform, requeue, same, List.eraseP_map, Function.comp_def]
  | cancelRequest id => simp [perform, requeue, same, List.eraseP_map, Function.comp_def]
  | dropRequests session => simp [perform, requeue, same, List.filter_map, Function.comp_def]
  | _ => exact same

theorem requests_eq (ran : Runs trace pool) : pool.shared.requests = (queueAfter trace).map Prod.snd := by
  induction ran with
  | refl => rfl
  | step reached step ih =>
    rw [queueAfter_snoc]
    cases step with
    | begins allowed =>
      obtain rfl := allowed
      exact ih
    | calls found due answered => exact requeue_perform ih answered

theorem lookup_taken {index : Nat} {command : CpuCommand} {reply : DaemonReply S Id}
    (ran : Runs (before ++ .calls index (.takeRequest command) reply :: after) pool) :
    reply.request = (taken before command).map Prod.snd := by
  obtain ⟨one, two, reached, step⟩ := Reaches.event ran
  cases step with
  | @calls tasks shared _ _ _ _ _ _ found due answered =>
    have same : shared.requests = (queueAfter before).map Prod.snd := requests_eq reached
    rw [answered.2.resolve_left nofun]
    change shared.requests.find? (·.responseCommand = command) = _
    rw [same, List.find?_map]
    rfl

omit [LinearOrder S] [DecidableEq Id] in
theorem taken_eq_oldestDelivered {run : List (Event S Id)} {command : CpuCommand} [DecidableEq S] [DecidableEq Id]
    (clear : ∀ entry, taken before command = some entry → writeFailed run entry.1 = false) :
    taken before command = oldestDelivered run before command := by
  unfold oldestDelivered
  rw [List.find?_filter]
  cases found : taken before command with
  | none =>
    unfold taken at found
    rw [List.find?_eq_none] at found
    symm
    rw [List.find?_eq_none]
    intro entry member both
    exact found entry member (of_decide_eq_true both).2
  | some entry =>
    have delivered := clear entry found
    unfold taken at found
    obtain ⟨wanted, early, late, split, first⟩ := List.find?_eq_some_iff_append.mp found
    symm
    refine List.find?_eq_some_iff_append.mpr ⟨?_, early, late, split, ?_⟩
    · simp [delivered, wanted]
    · intro other member
      have := first other member
      simp at this
      simp [this]

/-- Nothing is registered by a handler that has made a call already. -/
theorem not_registered_after {index : Nat} {call : DaemonCall S Id} {reply answer : DaemonReply S Id}
    {request : PendingRequest S Id} (ran : Runs (before ++ .calls index call reply :: after) pool) :
    .calls index (.addRequest request) answer ∉ after := by
  intro registered
  obtain ⟨activity, -, made⟩ := ran.activity (List.mem_append_right _ List.mem_cons_self)
  rw [own_at] at made
  have leads := activity.leads
  rw [made] at leads
  have later := mem_own.mpr registered
  cases early : own index before with
  | nil =>
    rw [early] at leads
    exact registers_first leads _ later request rfl
  | cons first rest =>
    rw [early] at leads
    exact registers_first leads _ (List.mem_append_right _ (List.mem_cons_of_mem _ later)) request rfl

/-- Once a withdrawn write has failed, its handler is not in the queue any more. -/
theorem not_queued_of_failed {entry : Entry S Id} (ran : Runs (before ++ after) pool)
    (withdrawn : FailuresWithdrawn (before ++ after)) (member : entry ∈ queueAfter before) :
    writeFailed before entry.1 = false := by
  by_contra failed
  obtain ⟨command, data, reply, wrote, refused⟩ := writeFailed_iff.mp (Bool.not_eq_false _ ▸ failed)
  obtain ⟨early, late, rfl⟩ := List.mem_iff_append.mp wrote
  rw [List.append_assoc] at ran withdrawn
  have absent := (withdrawn early (late ++ after) entry.1 command data reply rfl refused).1
  refine not_queued_later absent ?_ entry member rfl
  intro request answer registered
  rcases List.mem_cons.mp registered with same | later
  · exact nomatch same
  · exact not_registered_after ran (List.mem_append_left _ later)

/-- A lookup does not take an entry whose write fails, before it or after it. -/
theorem taken_delivered {index : Nat} {command : CpuCommand} {reply : DaemonReply S Id} {entry : Entry S Id}
    (ran : Runs (before ++ .calls index (.takeRequest command) reply :: after) pool)
    (withdrawn : FailuresWithdrawn (before ++ .calls index (.takeRequest command) reply :: after))
    (found : taken before command = some entry) :
    writeFailed (before ++ .calls index (.takeRequest command) reply :: after) entry.1 = false := by
  by_contra failed
  obtain ⟨sent, data, result, wrote, refused⟩ := writeFailed_iff.mp (Bool.not_eq_false _ ▸ failed)
  rcases List.mem_append.mp wrote with early | late
  · have clear := not_queued_of_failed ran withdrawn (List.mem_of_find?_eq_some found)
    rw [writeFailed_iff.mpr ⟨sent, data, result, early, refused⟩] at clear
    exact absurd clear Bool.true_eq_false.mp
  · obtain ⟨between, rest, rfl⟩ := List.mem_iff_append.mp ((List.mem_cons.mp late).resolve_left nofun)
    have unanswered :=
      (withdrawn (before ++ .calls index (.takeRequest command) reply :: between) rest entry.1 sent data
      result (by simp) refused).2
    exact unanswered ⟨before, between, index, command, reply, entry.2, rfl, found⟩

/-- A request whose write fails takes no part. `removed`: it is not in `m_requests`
once its write has returned. `looked` and `responded`: what is found, and so answered,
is the oldest request whose write does not fail, and its write has succeeded when its
handler has finished. -/
structure IgnoresFailed (trace : List (Event S Id)) (pool : (@system S Id _ _).Pool) : Prop where
  removed : ∀ before after, trace = before ++ after → ∀ entry ∈ queueAfter before, writeFailed before entry.1 = false
  looked : ∀ before after caller command reply, trace = before ++ .calls caller (.takeRequest command) reply :: after →
    reply.request = (taken before command).map Prod.snd ∧ taken before command = oldestDelivered trace before command
  responded : ∀ caller session id data reply, .calls caller (.send session (.requestResponse id data)) reply ∈ trace →
    ∃ before after command found entry, trace = before ++ .calls caller (.takeRequest command) found :: after ∧
      oldestDelivered trace before command = some entry ∧ entry.2.session = session ∧ entry.2.id = id ∧
      ∀ activity, pool.tasks[entry.1]? = some activity → activity.Finished → Written trace entry.1

private theorem responded_of_looked
    (looked : ∀ before after caller command reply, trace = before ++ .calls caller
      (.takeRequest command) reply :: after →
      taken before command = oldestDelivered trace before command) (ran : Runs trace pool) {caller : Nat}
        {session : S} {id : Id}
    {data : Data} {reply : DaemonReply S Id}
    (sent : .calls caller (.send session (.requestResponse id data)) reply ∈ trace) :
    ∃ before after command found entry, trace = before ++ .calls caller (.takeRequest command) found :: after ∧
      oldestDelivered trace before command = some entry ∧ entry.2.session = session ∧ entry.2.id = id ∧
      ∀ activity, pool.tasks[entry.1]? = some activity → activity.Finished → Written trace entry.1 := by
  obtain ⟨-, command, found, request, lookup, some, rfl, rfl⟩ := responder ran sent
  obtain ⟨before, after, split⟩ := List.mem_iff_append.mp lookup
  have took := lookup_taken (split ▸ ran)
  rw [some] at took
  obtain ⟨entry, takes, same⟩ := Option.map_eq_some_iff.mp took.symm
  have delivered := looked before after caller command found split ▸ takes
  refine ⟨before, after, command, found, entry, split, delivered, by rw [same], by rw [same], ?_⟩
  intro activity begun finished
  have clear : writeFailed trace entry.1 = false := by
    have member := List.mem_of_find?_eq_some delivered
    simpa using (List.mem_filter.mp member).2
  obtain ⟨answer, registered⟩ := registered_of_queued (List.mem_filter.mp (List.mem_of_find?_eq_some delivered)).1
  have registered : .calls entry.1 (.addRequest entry.2) answer ∈ trace := split ▸ List.mem_append_left _ registered
  obtain ⟨same, found, made⟩ := ran.activity registered
  obtain rfl := Option.some.inj (found.symm.trans begun)
  have leads := same.leads
  rw [finished, made] at leads
  obtain ⟨sought, data, result, wrote⟩ := request_written leads (mem_own.mpr registered)
  refine ⟨sought, data, result, mem_own.mp wrote, ?_⟩
  by_contra refused
  rw [writeFailed_iff.mpr ⟨sought, data, result, mem_own.mp wrote, eq_false_of_ne_true refused⟩] at clear
  exact absurd clear Bool.true_eq_false.mp

/-- The requests whose write fails take no part in exactly the runs in which every such
write finds its request withdrawn. -/
theorem failed_ignored_iff (ran : Runs trace pool) : IgnoresFailed trace pool ↔ FailuresWithdrawn trace := by
  constructor
  · intro ignores before after index command data reply split failed
    have failure : writeFailed trace index = true := writeFailed_iff.mpr ⟨command, data, reply, by simp [split], failed⟩
    constructor
    · rintro entry member rfl
      have clear :=
        ignores.removed (before ++ [.calls entry.1 (.write command data) reply]) after (by simp [split]) entry
        (by rwa [queueAfter_snoc])
      rw [writeFailed_iff.mpr ⟨command, data, reply, by simp, failed⟩] at clear
      exact absurd clear Bool.true_eq_false.mp
    · rintro ⟨early, late, caller, sought, answer, request, rfl, found⟩
      have same :=
        (ignores.looked early (late ++ .calls index (.write command data) reply :: after) caller sought answer
        (by simp [split])).2
      rw [found] at same
      have member := List.mem_of_find?_eq_some same.symm
      have clear := (List.mem_filter.mp member).2
      simp [failure] at clear
  · intro withdrawn
    have looked : ∀ before after caller command reply, trace = before ++ .calls caller
      (.takeRequest command) reply :: after →
        taken before command = oldestDelivered trace before command := by
      rintro before after caller command reply rfl
      exact taken_eq_oldestDelivered fun entry found => taken_delivered ran withdrawn found
    constructor
    · rintro before after rfl entry member
      exact not_queued_of_failed ran withdrawn member
    · intro before after caller command reply split
      exact ⟨lookup_taken (split ▸ ran), looked before after caller command reply split⟩
    · intro caller session id data reply sent
      exact responded_of_looked looked ran sent

/-- The first of two requests is not written, and takes the answer to the second. -/
def failedTurns : List (Turn (DaemonTask Nat Nat) Bool) :=
  [.begins (.message 7 (.request 1 (3, 0) [5] (4, 0))), .calls 0 true, .calls 0 false,
    .begins (.message 8 (.request 2 (3, 0) [6] (4, 0))), .calls 1 true, .calls 1 true,
    .begins (.receiveCommand (4, 0) [9]), .calls 2 true, .calls 2 true, .calls 2 true]

def failedRun : List (Event Nat Nat) :=
  [.begins (.message 7 (.request 1 (3, 0) [5] (4, 0))), .calls 0 (.addRequest ⟨1, (4, 0), 7⟩) {},
    .calls 0 (.write (3, 0) [5]) { written := false }, .begins (.message 8 (.request 2 (3, 0) [6] (4, 0))),
    .calls 1 (.addRequest ⟨2, (4, 0), 8⟩) {}, .calls 1 (.write (3, 0) [6]) { written := true },
    .begins (.receiveCommand (4, 0) [9]), .calls 2 (.copySubscribers (4, 0)) {},
    .calls 2 (.takeRequest (4, 0)) { request := some ⟨1, (4, 0), 7⟩ }, .calls 2 (.send 7 (.requestResponse 1 [9])) {}]

private theorem failedRun_runs : ∃ pool, Runs failedRun pool ∧ pool.shared.requests = [⟨2, (4, 0), 8⟩] := by
  have checked : (play failedTurns).any
      (fun result => decide (result.1 = failedRun ∧ result.2.shared.requests = [⟨2, (4, 0), 8⟩])) = true := by
    decide +kernel
  obtain ⟨trace, pool, ran, checked⟩ := exists_run replies_allowed checked
  obtain ⟨rfl, left⟩ := of_decide_eq_true checked
  exact ⟨pool, ran, left⟩

/-- The request that was not written is answered, and the one that was waits on. -/
theorem failed_request_answered :
    ∃ pool, Runs failedRun pool ∧ writeFailed failedRun 0 = true ∧ writeFailed failedRun 1 = false ∧
    responded failedRun = [1] ∧ pool.shared.requests = [⟨2, (4, 0), 8⟩] ∧ ¬ IgnoresFailed failedRun pool := by
  obtain ⟨pool, ran, left⟩ := failedRun_runs
  refine ⟨pool, ran, by decide +kernel, by decide +kernel, by decide +kernel, left, fun ignores => ?_⟩
  have same := (ignores.looked (failedRun.take 8) (failedRun.drop 9) 2 (4, 0) _ rfl).2
  exact absurd same (by decide +kernel)

/-- The first of two requests is cancelled before its write fails. -/
def withdrawnTurns : List (Turn (DaemonTask Nat Nat) Bool) :=
  [.begins (.message 7 (.request 1 (3, 0) [5] (4, 0))), .calls 0 true, .begins (.message 7 (.cancelRequest 1)),
    .calls 1 true, .calls 0 false, .begins (.message 8 (.request 2 (3, 0) [6] (4, 0))), .calls 2 true, .calls 2 true,
    .begins (.receiveCommand (4, 0) [9]), .calls 3 true, .calls 3 true, .calls 3 true]

def withdrawnRun : List (Event Nat Nat) :=
  [.begins (.message 7 (.request 1 (3, 0) [5] (4, 0))), .calls 0 (.addRequest ⟨1, (4, 0), 7⟩) {},
    .begins (.message 7 (.cancelRequest 1)), .calls 1 (.cancelRequest 1) {},
    .calls 0 (.write (3, 0) [5]) { written := false }, .begins (.message 8 (.request 2 (3, 0) [6] (4, 0))),
    .calls 2 (.addRequest ⟨2, (4, 0), 8⟩) {}, .calls 2 (.write (3, 0) [6]) { written := true },
    .begins (.receiveCommand (4, 0) [9]), .calls 3 (.copySubscribers (4, 0)) {},
    .calls 3 (.takeRequest (4, 0)) { request := some ⟨2, (4, 0), 8⟩ }, .calls 3 (.send 8 (.requestResponse 2 [9])) {}]

private def failing : Event Nat Nat → Bool
  | .calls _ (.write _ _) reply => !reply.written
  | _ => false

private theorem withdrawnRun_withdrawn : FailuresWithdrawn withdrawnRun := by
  intro before after index command data reply split failed
  have there : withdrawnRun[before.length]? = some (.calls index (.write command data) reply) := by simp [split]
  have early : before = withdrawnRun.take before.length := by simp [split]
  have inside : before.length < 12 := (List.getElem?_eq_some_iff.mp there).1
  generalize before.length = place at there early inside
  have only : ∀ place < 12, withdrawnRun[place]?.any failing = true → place = 4 := by decide +kernel
  obtain rfl := only place inside (by rw [there, Option.any_some, failing, failed, Bool.not_false])
  cases there
  subst early
  refine ⟨by decide +kernel, ?_⟩
  rintro ⟨early, late, caller, sought, answer, request, history, -⟩
  have looked : .calls caller (.takeRequest sought) answer ∈ withdrawnRun.take 4 := by simp [history]
  simp [withdrawnRun] at looked

/-- A write fails and its request is cancelled already, so the other one is answered. -/
theorem failed_request_withdrawn : ∃ pool, Runs withdrawnRun pool ∧ writeFailed withdrawnRun 0 = true ∧
    responded withdrawnRun = [2] ∧ IgnoresFailed withdrawnRun pool := by
  have checked : (play withdrawnTurns).any (fun result => decide (result.1 = withdrawnRun)) = true := by decide +kernel
  obtain ⟨trace, pool, ran, checked⟩ := exists_run replies_allowed checked
  obtain rfl := of_decide_eq_true checked
  exact ⟨pool, ran, by decide +kernel, by decide +kernel, (failed_ignored_iff ran).mpr withdrawnRun_withdrawn⟩

end
end CpuCom.Messaging.Daemon
