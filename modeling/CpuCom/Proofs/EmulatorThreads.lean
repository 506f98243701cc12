import CpuCom.Emulator.Threads
import CpuCom.Interaction.Outcome
import CpuCom.Interaction.Pools

/-! Whatever the pool takes next, every source has what it asks for done once, and by one
worker in the order in which it asks for it. -/

namespace CpuCom.Emulator
open Interaction
open Uart (CpuCommand)

def jobsOf (origin : Origin) (jobs : List (Origin × Job)) : List Job :=
  jobs.filterMap fun job => if job.1 = origin then some job.2 else none

/-- The message of a repeater after an event. The call of a repeater that is running is
ignored. -/
def EmulatorEvent.repeats (origin : Origin) (running : Option (CpuCommand × List UInt8)) :
    EmulatorEvent → Option (CpuCommand × List UInt8)
  | .calls (.repeat name command data _) =>
      if origin = .repeater name then running.or (some (command, data)) else running
  | .calls (.stoprepeat name) => if origin = .repeater name then none else running
  | .calls .stoprepeatAll => none
  | _ => running

/-- What a source asks for with an event. A repeater asks for the send of its message. -/
def EmulatorEvent.asks (config : Side → CpuConfig) (origin : Origin) (running : Option (CpuCommand × List UInt8)) :
    EmulatorEvent → List Job
  | .reads cpu inputEvent => if origin = .input cpu then (config cpu).jobs inputEvent else []
  | .calls (.send command data) => if origin = .cli then [.send command data] else []
  | .ticks name => if origin = .repeater name then running.toList.map fun message => .send message.1 message.2 else []
  | _ => []

def asked (config : Side → CpuConfig) (origin : Origin) :
    Option (CpuCommand × List UInt8) → List EmulatorEvent → List Job
  | _, [] => []
  | running, event :: events =>
      event.asks config origin running ++ asked config origin (event.repeats origin running) events

section
variable {config : Side → CpuConfig} {running : Option (CpuCommand × List UInt8)} {events : List EmulatorEvent}
  {origin : Origin} {job : Job}

theorem exists_of_mem_asked (member : job ∈ asked config origin running events) :
    ∃ event ∈ events, ∃ message, job ∈ event.asks config origin message := by
  induction events generalizing running with
  | nil => exact absurd member List.not_mem_nil
  | cons event events ih =>
    rcases List.mem_append.mp member with now | later
    · exact ⟨event, List.mem_cons_self, running, now⟩
    · obtain ⟨event, there, found⟩ := ih later
      exact ⟨event, List.mem_cons_of_mem _ there, found⟩

theorem asked_input (cpu : Side) :
    asked config (.input cpu) running events = events.flatMap (·.asks config (.input cpu) none) := by
  induction events generalizing running with
  | nil => rfl
  | cons event events ih =>
    have same : event.asks config (.input cpu) running = event.asks config (.input cpu) none := by
      cases event with
      | calls call => cases call <;> rfl
      | _ => rfl
    rw [asked, ih, same, List.flatMap_cons]

end

namespace EmulatorState

variable {config : Side → CpuConfig} {emulator next last : EmulatorState} {event : EmulatorEvent}
  {events : List EmulatorEvent} {origin other : Origin} {job : Job} {place : Nat}

/-- The jobs that are done or will be done, in the order of one worker. -/
def jobs (emulator : EmulatorState) : List (Origin × Job) := emulator.done.map Prod.fst ++ emulator.queue

def waiting (emulator : EmulatorState) : Origin → List Job
  | .input cpu => emulator.pending cpu
  | .cli | .repeater _ => []

def running (emulator : EmulatorState) : Origin → Option (CpuCommand × List UInt8)
  | .repeater name => emulator.repeaters.lookup name
  | .input _ | .cli => none

theorem jobsOf_push : jobsOf origin (emulator.push other job).jobs =
    jobsOf origin emulator.jobs ++ if other = origin then [job] else [] := by
  have jobs : (emulator.push other job).jobs = emulator.jobs ++ [(other, job)] := (List.append_assoc ..).symm
  rw [jobs, jobsOf, List.filterMap_append]
  by_cases own : other = origin <;> simp [jobsOf, own]

private theorem lookup_other {name other : List Char} {message : CpuCommand × List UInt8}
    {repeaters : List (List Char × CpuCommand × List UInt8)} (apart : name ≠ other) :
    ((other, message) :: repeaters).lookup name = repeaters.lookup name := by
  simp [List.lookup_cons, beq_eq_false_iff_ne.mpr apart]

private theorem lookup_filter {repeaters : List (List Char × CpuCommand × List UInt8)} {name stopped : List Char} :
    (repeaters.filter (·.1 ≠ stopped)).lookup name = if name = stopped then none else repeaters.lookup name := by
  induction repeaters with
  | nil => exact (ite_self _).symm
  | cons entry repeaters ih =>
    obtain ⟨first, message⟩ := entry
    rw [List.filter_cons]
    by_cases kept : first = stopped
    · rw [if_neg (by simpa using kept), ih]
      by_cases same : name = stopped
      · rw [if_pos same, if_pos same]
      · rw [if_neg same, if_neg same, lookup_other (kept ▸ same)]
    · rw [if_pos (by simpa using kept)]
      by_cases same : name = first
      · subst same
        rw [List.lookup_cons_self, List.lookup_cons_self, if_neg kept]
      · rw [lookup_other same, lookup_other same, ih]

theorem works_ok (stepped : emulator.step config (.works place) = .ok next) :
    ∃ origin job effects, emulator.queue[place]? = some (origin, job) ∧ job.run = .ok effects ∧
      next = { emulator with
        queue := emulator.queue.eraseIdx place
        done := emulator.done ++ [((origin, job), effects)] } := by
  rw [step] at stepped
  cases found : emulator.queue[place]? with
  | none =>
    rw [found] at stepped
    cases stepped
  | some entry =>
    obtain ⟨origin, job⟩ := entry
    rw [found] at stepped
    dsimp only at stepped
    cases ran : job.run with
    | error crash =>
      rw [ran] at stepped
      cases stepped
    | ok effects =>
      rw [ran] at stepped
      obtain rfl := Except.ok.inj stepped
      exact ⟨origin, job, effects, rfl, ran, rfl⟩

theorem works_jobs (stepped : emulator.step config (.works place) = .ok next) :
    Same (place = 0) next.jobs emulator.jobs := by
  obtain ⟨origin, job, effects, found, -, rfl⟩ := works_ok stepped
  simp only [jobs, List.map_append, List.map_cons, List.map_nil, List.append_assoc, List.singleton_append]
  exact (Same.of_eq rfl).append (same_taken found)

/-- A step that does no job gives a source what it asks for. -/
theorem step_given (stepped : emulator.step config event = .ok next) (idle : ∀ place, event ≠ .works place) :
    jobsOf origin next.jobs ++ next.waiting origin =
      jobsOf origin emulator.jobs ++ emulator.waiting origin ++ event.asks config origin (emulator.running origin) := by
  cases event with
  | reads cpu inputEvent =>
    rw [step] at stepped
    split at stepped
    · rename_i idle
      obtain rfl := Except.ok.inj stepped
      cases origin with
      | input side =>
        by_cases same : side = cpu
        · subst same
          simp [waiting, jobs, EmulatorEvent.asks, idle]
        · simp [waiting, jobs, EmulatorEvent.asks, same]
      | cli => simp [waiting, jobs, EmulatorEvent.asks]
      | repeater name => simp [waiting, jobs, EmulatorEvent.asks]
    · cases stepped
  | pushes cpu =>
    rw [step] at stepped
    cases pending : emulator.pending cpu with
    | nil =>
      rw [pending] at stepped
      cases stepped
    | cons job rest =>
      rw [pending] at stepped
      obtain rfl := Except.ok.inj stepped
      rw [jobsOf_push]
      cases origin with
      | input side =>
        by_cases same : side = cpu
        · subst same
          simp [waiting, jobs, push, EmulatorEvent.asks, pending]
        · have apart : cpu ≠ side := fun other => same other.symm
          simp [waiting, jobs, push, EmulatorEvent.asks, same, apart]
      | cli => simp [waiting, jobs, EmulatorEvent.asks]
      | repeater name => simp [waiting, jobs, EmulatorEvent.asks]
  | calls call =>
    obtain rfl := Except.ok.inj stepped
    cases call with
    | send command data =>
      rw [call, jobsOf_push]
      cases origin with
      | input side => simp [waiting, push, EmulatorEvent.asks]
      | cli => simp [waiting, EmulatorEvent.asks]
      | repeater name => simp [waiting, EmulatorEvent.asks]
    | «repeat» name command data interval =>
      rw [call]
      split
      · exact (List.append_nil _).symm
      · cases origin <;> simp [waiting, jobs, EmulatorEvent.asks]
    | stoprepeat name => cases origin <;> simp [waiting, jobs, call, EmulatorEvent.asks]
    | stoprepeatAll => cases origin <;> simp [waiting, jobs, call, EmulatorEvent.asks]
  | ticks name =>
    rw [step] at stepped
    cases found : emulator.repeaters.lookup name with
    | none =>
      rw [found] at stepped
      cases stepped
    | some message =>
      rw [found] at stepped
      obtain rfl := Except.ok.inj stepped
      rw [jobsOf_push]
      cases origin with
      | input side => simp [waiting, push, EmulatorEvent.asks]
      | cli => simp [waiting, EmulatorEvent.asks]
      | repeater other =>
        by_cases same : name = other
        · subst same
          simp [waiting, running, EmulatorEvent.asks, found]
        · have apart : ¬ Origin.repeater other = .repeater name := fun own => same (Origin.repeater.inj own).symm
          simp [waiting, EmulatorEvent.asks, same, apart]
  | works place => exact absurd rfl (idle place)

/-- A repeater is started, goes on and is stopped as its calls say. -/
theorem step_running (stepped : emulator.step config event = .ok next) :
    next.running origin = event.repeats origin (emulator.running origin) := by
  cases origin with
  | repeater name =>
    cases event with
    | reads cpu inputEvent =>
      rw [step] at stepped
      split at stepped
      · obtain rfl := Except.ok.inj stepped
        rfl
      · cases stepped
    | pushes cpu =>
      rw [step] at stepped
      split at stepped
      · cases stepped
      · obtain rfl := Except.ok.inj stepped
        rfl
    | calls call =>
      obtain rfl := Except.ok.inj stepped
      cases call with
      | send command data => rfl
      | «repeat» other command data interval =>
        rw [call, EmulatorEvent.repeats]
        by_cases same : other = name
        · subst same
          rw [if_pos rfl]
          cases found : emulator.repeaters.lookup other <;> simp [running, found]
        · have apart : ¬ Origin.repeater name = .repeater other := fun own => same (Origin.repeater.inj own).symm
          rw [if_neg apart]
          split
          · rfl
          · exact lookup_other (Ne.symm same)
      | stoprepeat other =>
        simp only [running, call, EmulatorEvent.repeats, lookup_filter, Origin.repeater.injEq]
      | stoprepeatAll => rfl
    | ticks other =>
      rw [step] at stepped
      split at stepped
      · cases stepped
      · obtain rfl := Except.ok.inj stepped
        rfl
    | works place =>
      obtain ⟨-, -, -, -, -, rfl⟩ := works_ok stepped
      rfl
  | _ =>
    cases event with
    | calls call => cases call <;> rfl
    | _ => rfl

theorem step_jobs (stepped : emulator.step config event = .ok next) (origin : Origin) :
    Same event.InOrder (jobsOf origin next.jobs ++ next.waiting origin)
      (jobsOf origin emulator.jobs ++ emulator.waiting origin ++
        event.asks config origin (emulator.running origin)) := by
  by_cases idle : ∀ place, event ≠ .works place
  · exact .of_eq (step_given stepped idle)
  · push Not at idle
    obtain ⟨place, rfl⟩ := idle
    have waits : next.waiting origin = emulator.waiting origin := by
      obtain ⟨-, -, -, -, -, rfl⟩ := works_ok stepped
      cases origin <;> rfl
    have silent : (EmulatorEvent.works place).asks config origin (emulator.running origin) = [] := rfl
    rw [silent, List.append_nil, waits]
    exact ((works_jobs stepped).filterMap _).append (.of_eq rfl)

/-- A run gives a source what it asks for, each once, and in order if the pool is one worker. -/
theorem run_given (ran : events.foldlM (step config) emulator = .ok last) (origin : Origin) :
    Same (OneWorker events) (jobsOf origin last.jobs ++ last.waiting origin)
      (jobsOf origin emulator.jobs ++ emulator.waiting origin ++
        asked config origin (emulator.running origin) events) := by
  induction events generalizing emulator with
  | nil =>
    obtain rfl := Except.ok.inj ran
    exact .of_eq (List.append_nil _).symm
  | cons event events ih =>
    rw [List.foldlM_cons] at ran
    cases stepped : emulator.step config event with
    | error fault =>
      rw [stepped] at ran
      cases ran
    | ok next =>
      rw [stepped] at ran
      rw [asked, ← step_running stepped, ← List.append_assoc]
      have later := (ih ran).mono fun worker : OneWorker (event :: events) => (List.forall_mem_cons.mp worker).2
      have now := (step_jobs stepped origin).mono fun worker : OneWorker (event :: events) =>
        (List.forall_mem_cons.mp worker).1
      exact later.trans (now.append (.of_eq rfl))

private theorem done_call {call : CliCall} : (emulator.call call).done = emulator.done := by
  cases call with
  | «repeat» name command data interval =>
    rw [EmulatorState.call]
    split <;> rfl
  | _ => rfl

/-- What is done has done what it does. -/
def Executed (emulator : EmulatorState) : Prop := ∀ entry ∈ emulator.done, entry.1.2.run = .ok entry.2

theorem step_executed (executed : emulator.Executed) (stepped : emulator.step config event = .ok next) :
    next.Executed := by
  cases event with
  | works place =>
    obtain ⟨origin, job, effects, -, did, rfl⟩ := works_ok stepped
    intro entry member
    rcases List.mem_append.mp member with before | now
    · exact executed entry before
    · rw [List.mem_singleton.mp now]
      exact did
  | calls call =>
    obtain rfl := Except.ok.inj stepped
    rw [Executed, done_call]
    exact executed
  | _ =>
    rw [step] at stepped
    split at stepped <;> cases stepped
    exact executed

theorem run_executed (ran : events.foldlM (step config) initial = .ok last) : last.Executed := by
  have kept : Outcome Executed (fun _ => True) (events.foldlM (step config) initial) := by
    refine (@guarded_of_forall _ _ _ _ _ _ (fun _ => True) fun _ _ => trivial).invariant
      (fun _ member => absurd member List.not_mem_nil) ?_
    intro emulator event executed _
    cases stepped : emulator.step config event with
    | error fault => exact trivial
    | ok next => exact step_executed executed stepped
  rw [ran] at kept
  exact kept

theorem given_asked (ran : events.foldlM (step config) initial = .ok last) (origin : Origin) :
    Same (OneWorker events) (jobsOf origin last.jobs ++ last.waiting origin) (asked config origin none events) := by
  have given := run_given ran origin
  have start : jobsOf origin initial.jobs ++ initial.waiting origin = [] := by cases origin <;> rfl
  have still : initial.running origin = none := by cases origin <;> rfl
  rwa [start, still] at given

/-- Every source has what it asks for done, each once: the commands that a CPU sends, the
sends of the command line, and for each tick of a repeater the message of the call that
started it. One worker does it in the order in which it is asked for. -/
theorem sources_in_order (config : Side → CpuConfig) (events : List EmulatorEvent) (last : EmulatorState)
    (ran : events.foldlM (step config) initial = .ok last) :
    (∀ origin, (jobsOf origin (last.done.map Prod.fst) ++ jobsOf origin last.queue ++ last.waiting origin).Perm
      (asked config origin none events)) ∧
    (OneWorker events → ∀ origin, jobsOf origin (last.done.map Prod.fst) ++ jobsOf origin last.queue ++
      last.waiting origin = asked config origin none events) ∧ last.Executed := by
  have split (origin : Origin) : jobsOf origin last.jobs =
      jobsOf origin (last.done.map Prod.fst) ++ jobsOf origin last.queue := List.filterMap_append
  simp only [← split]
  exact ⟨fun origin => (given_asked ran origin).perm, fun worker origin => (given_asked ran origin).eq worker,
    run_executed ran⟩

/-- A rule that answers one command of the M-CPU, all of which go on to the V-CPU. -/
private def answering : Side → CpuConfig
  | .mcpu => ⟨[⟨fun text => decide (text = commandText (0x95, 1)), [some (.send (0x95, 0x81) [0] (some .mcpu))]⟩],
      some (.resend (some .vcpu))⟩
  | .vcpu => ⟨[], some (.resend (some .mcpu))⟩

/-- A repeater is called twice. -/
private def answeringRun : List EmulatorEvent :=
  [.reads .mcpu ⟨(0x95, 1), []⟩, .pushes .mcpu, .calls (.repeat [] (1, 2) [3] 9), .calls (.repeat [] (4, 5) [6] 9),
    .ticks [], .pushes .mcpu, .works 0, .calls .stoprepeatAll, .works 0]

theorem answer_in_order : ∃ last, answeringRun.foldlM (step answering) initial = .ok last ∧
    jobsOf (.input .mcpu) (last.done.map Prod.fst) ++ jobsOf (.input .mcpu) last.queue ++ last.pending .mcpu =
      [.action (some (.send (0x95, 0x81) [0] (some .mcpu))) ⟨(0x95, 1), []⟩,
        .action (some (.resend (some .vcpu))) ⟨(0x95, 1), []⟩] ∧
    jobsOf (.repeater []) (last.done.map Prod.fst) ++ jobsOf (.repeater []) last.queue = [.send (1, 2) [3]] := by
  have goes : (answeringRun.foldlM (step answering) initial).toOption.isSome = true := by decide +kernel
  have worker : OneWorker answeringRun := by decide
  have commands : asked answering (.input .mcpu) none answeringRun =
      [.action (some (.send (0x95, 0x81) [0] (some .mcpu))) ⟨(0x95, 1), []⟩,
        .action (some (.resend (some .vcpu))) ⟨(0x95, 1), []⟩] := by decide +kernel
  have ticks : asked answering (.repeater []) none answeringRun = [.send (1, 2) [3]] := by decide +kernel
  cases ran : answeringRun.foldlM (step answering) initial with
  | error fault =>
    rw [ran] at goes
    cases goes
  | ok last =>
    have ordered := (sources_in_order answering answeringRun last ran).2.1 worker
    exact ⟨last, rfl, (ordered (.input .mcpu)).trans commands,
      (List.append_nil _).symm.trans ((ordered (.repeater [])).trans ticks)⟩

end EmulatorState
end CpuCom.Emulator
