import CpuCom.Proofs.EmulatorConfig

/-! A CPU whose file resends what no rule answers for it has all its messages passed on to
the other one, each once, and by one worker in order, whatever the rules do besides. -/

namespace CpuCom.Emulator
open Interaction
open Uart (CpuCommand)

variable {regex : String → Option (List Char → Bool)} {files : Side → Option ConfigObject} {cpu target : Side}
  {config : Side → CpuConfig} {cpuConfig : CpuConfig} {file : Option ConfigObject} {inputEvent : InputEvent}
  {type : String} {action : Action Side}

/-- Everything is resent, and no rule writes to the other CPU. -/
def Forwarding : Option ConfigObject → Prop
  | none => False
  | some value => value.defaultAction.type = some "resend" ∧ ∀ jRule ∈ value.rules, ∀ jAction ∈ jRule.actions,
      jAction.type ≠ some "resend" ∧ jAction.type ≠ some "replace"

def Unsending : Option ConfigObject → Prop
  | none => True
  | some value => value.defaultAction.type ≠ some "send" ∧ ∀ jRule ∈ value.rules, ∀ jAction ∈ jRule.actions,
      jAction.type ≠ some "send"

def Effect.message (target : Side) : Effect → Option (CpuCommand × List UInt8)
  | .write cpu command data => if cpu = target then some (command, data) else none
  | .print _ _ _ => none

def written (target : Side) (done : List ((Origin × Job) × List Effect)) : List (CpuCommand × List UInt8) :=
  done.flatMap fun entry => entry.2.filterMap (Effect.message target)

/-- What a job has a CPU written, if it does not crash. -/
def Job.writes (target : Side) (job : Job) : List (CpuCommand × List UInt8) :=
  match job.run with
  | .ok effects => effects.filterMap (Effect.message target)
  | .error _ => []

def EmulatorEvent.message (cpu : Side) : EmulatorEvent → Option (CpuCommand × List UInt8)
  | .reads side inputEvent => if side = cpu then some (inputEvent.command, inputEvent.data) else none
  | _ => none

def received (cpu : Side) (events : List EmulatorEvent) : List (CpuCommand × List UInt8) :=
  events.filterMap (EmulatorEvent.message cpu)

private theorem other_ne : cpu.other ≠ cpu := by cases cpu <;> nofun

theorem Made.other_unwritten (made : Made cpu type action) (unsent : type ≠ "resend" ∧ type ≠ "replace") :
    (Job.action (some action) inputEvent).writes cpu.other = [] := by
  cases made with
  | send => exact List.filterMap_cons_none (if_neg other_ne.symm)
  | print => rfl
  | resend => exact absurd rfl unsent.1
  | replace => exact absurd rfl unsent.2
  | nop => rfl

theorem Made.own_unwritten (made : Made cpu type action) (unsent : type ≠ "send") :
    (Job.action (some action) inputEvent).writes cpu = [] := by
  cases made with
  | send => exact absurd rfl unsent
  | print => rfl
  | resend => exact List.filterMap_cons_none (if_neg other_ne)
  | replace => exact List.filterMap_cons_none (if_neg other_ne)
  | nop => rfl

theorem createAction_resend {jAction : ActionObject} (resends : jAction.type = some "resend") :
    createAction cpu jAction = .ok (some (.resend (some cpu.other))) := by
  cases cpu <;> simp [createAction, RulesBuilder.createAction, resends, builder, Side.other]

theorem rule_action {value : ConfigObject} {rule : Rule} {made : Option (Action Side)}
    (loaded : loadCPUConfig regex cpu (some value) = .ok cpuConfig) (inside : rule ∈ cpuConfig.rules)
    (member : made ∈ rule.actions) :
    ∃ jRule ∈ value.rules, ∃ jAction ∈ jRule.actions, createAction cpu jAction = .ok made := by
  obtain ⟨jRule, there, makes⟩ := ((loadCPUConfig_ok loaded).2.2 rule).mp inside
  rcases loadRule_ok makes with ⟨-, none⟩ | ⟨bare, actions, -, each, whole⟩
  · cases none
  · obtain rfl := Option.some.inj whole
    exact ⟨jRule, there, (mapM_mem_iff each).mp member⟩

theorem forwarding_jobs (forwarding : Forwarding file) (loaded : loadCPUConfig regex cpu file = .ok cpuConfig)
    (inputEvent : InputEvent) :
    (cpuConfig.jobs inputEvent).flatMap (·.writes cpu.other) = [(inputEvent.command, inputEvent.data)] := by
  cases file with
  | none => exact forwarding.elim
  | some value =>
    obtain ⟨resends, quiet⟩ := forwarding
    have default := (loadCPUConfig_ok loaded).1.symm.trans (createAction_resend resends)
    have rules : ((cpuConfig.rules.filter (·.satisfy inputEvent)).flatMap fun rule =>
        rule.actions.map (Job.action · inputEvent)).flatMap (·.writes cpu.other) = [] := by
      refine List.flatMap_eq_nil_iff.mpr fun job pushed => ?_
      obtain ⟨rule, satisfied, pushed⟩ := List.mem_flatMap.mp pushed
      obtain ⟨made, member, rfl⟩ := List.mem_map.mp pushed
      obtain ⟨jRule, there, jAction, among, created⟩ := rule_action loaded (List.mem_of_mem_filter satisfied) member
      cases made with
      | none => rfl
      | some action =>
        obtain ⟨type, named, made⟩ := createAction_made created
        have unsent := quiet jRule there jAction among
        rw [named] at unsent
        exact made.other_unwritten ⟨fun same => unsent.1 (congrArg some same), fun same => unsent.2 (congrArg some same)⟩
    rw [CpuConfig.jobs, List.flatMap_append, rules, Except.ok.inj default]
    simp [Job.writes, Job.run, Action.execute, write, Effect.message]

theorem unsending_jobs (unsending : Unsending file) (loaded : loadCPUConfig regex cpu file = .ok cpuConfig)
    {job : Job} (asked : job ∈ cpuConfig.jobs inputEvent) : job.writes cpu = [] := by
  cases file with
  | none =>
    obtain rfl := Except.ok.inj loaded
    obtain rfl := List.mem_singleton.mp asked
    rfl
  | some value =>
    obtain ⟨jAction, made, asks, created, rfl⟩ := (mem_jobs_iff loaded).mp asked
    cases made with
    | none => rfl
    | some action =>
      obtain ⟨type, named, made⟩ := createAction_made created
      have unsent : jAction.type ≠ some "send" := by
        rcases asks with rfl | ⟨jRule, there, among, -⟩
        · exact unsending.1
        · exact unsending.2 jRule there jAction among
      rw [named] at unsent
      exact made.own_unwritten fun same => unsent (congrArg some same)

namespace EmulatorState

variable {last : EmulatorState} {events : List EmulatorEvent} {origin : Origin}

theorem written_jobsOf {done : List ((Origin × Job) × List Effect)}
    (executed : ∀ entry ∈ done, entry.1.2.run = .ok entry.2) (target : Side) (origin : Origin) :
    written target (done.filter (·.1.1 = origin)) = (jobsOf origin (done.map Prod.fst)).flatMap (·.writes target) := by
  induction done with
  | nil => rfl
  | cons entry done ih =>
    obtain ⟨here, others⟩ := List.forall_mem_cons.mp executed
    have same := ih others
    rw [written, jobsOf] at *
    by_cases own : entry.1.1 = origin
    · have writes : entry.1.2.writes target = entry.2.filterMap (Effect.message target) := by rw [Job.writes, here]
      simp [own, same, writes]
    · simp [own, same]

theorem asks_forwarded (loaded : start regex files = .ok config) (forwarding : Forwarding (files cpu))
    (events : List EmulatorEvent) :
    (asked config (.input cpu) none events).flatMap (·.writes cpu.other) = received cpu events := by
  rw [asked_input]
  induction events with
  | nil => rfl
  | cons event events ih =>
    rw [List.flatMap_cons, List.flatMap_append, ih, received, received, List.filterMap_cons]
    cases event with
    | reads side inputEvent =>
      by_cases same : side = cpu
      · subst same
        have jobs := forwarding_jobs forwarding (start_ok loaded side) inputEvent
        simp [EmulatorEvent.asks, EmulatorEvent.message, jobs]
      · have other : ¬ Origin.input cpu = .input side := fun own => same (Origin.input.inj own).symm
        simp [EmulatorEvent.asks, EmulatorEvent.message, other, same]
    | calls call => cases call <;> simp [EmulatorEvent.asks, EmulatorEvent.message]
    | _ => simp [EmulatorEvent.asks, EmulatorEvent.message]

theorem vcpu_writers (loaded : start regex files = .ok config) (unsending : Unsending (files .vcpu))
    (ran : events.foldlM (step config) initial = .ok last) {entry : (Origin × Job) × List Effect}
    (finished : entry ∈ last.done) (others : entry.1.1 ≠ .input .mcpu) :
    entry.2.filterMap (Effect.message .vcpu) = [] := by
  obtain ⟨⟨origin, job⟩, effects⟩ := entry
  have executed := run_executed ran _ finished
  have writes : job.writes .vcpu = effects.filterMap (Effect.message .vcpu) := by rw [Job.writes, executed]
  rw [← writes]
  obtain ⟨event, -, running, asks⟩ := exists_asks ran (List.mem_append_left _ (List.mem_map_of_mem finished))
  by_cases named : ∀ cpu, origin ≠ .input cpu
  · obtain ⟨command, data, rfl⟩ := send_of_asks asks named
    rfl
  · push Not at named
    obtain ⟨cpu, rfl⟩ := named
    cases cpu with
    | mcpu => exact absurd rfl others
    | vcpu =>
      obtain ⟨inputEvent, -, among⟩ := mem_asks_input.mp asks
      exact unsending_jobs unsending (start_ok loaded .vcpu) among

theorem vcpu_written (loaded : start regex files = .ok config) (unsending : Unsending (files .vcpu))
    (ran : events.foldlM (step config) initial = .ok last) :
    written .vcpu last.done = written .vcpu (last.done.filter (·.1.1 = .input .mcpu)) := by
  have silent {entry} := @vcpu_writers _ _ _ _ _ loaded unsending ran entry
  generalize last.done = done at silent
  induction done with
  | nil => rfl
  | cons entry done ih =>
    have rest := ih fun member others => silent (List.mem_cons_of_mem _ member) others
    rw [written, written, List.flatMap_cons, List.filter_cons]
    by_cases own : entry.1.1 = .input .mcpu
    · rw [if_pos (decide_eq_true own), List.flatMap_cons]
      exact congrArg (_ ++ ·) rest
    · rw [if_neg (by simpa using own), silent (List.mem_cons_self ..) own]
      exact rest

theorem input_written (loaded : start regex files = .ok config) (forwarding : Forwarding (files cpu))
    (ran : events.foldlM (step config) initial = .ok last) :
    ∃ rest, (received cpu events).Perm (written cpu.other (last.done.filter (·.1.1 = .input cpu)) ++ rest) ∧
      (OneWorker events →
        received cpu events = written cpu.other (last.done.filter (·.1.1 = .input cpu)) ++ rest) ∧
      (last.pending cpu = [] → (∀ entry ∈ last.queue, entry.1 ≠ .input cpu) → rest = []) := by
  have split : jobsOf (.input cpu) last.jobs ++ last.pending cpu = jobsOf (.input cpu) (last.done.map Prod.fst) ++
      (jobsOf (.input cpu) last.queue ++ last.pending cpu) := by
    rw [jobs, jobsOf, List.filterMap_append, List.append_assoc]
    rfl
  have given := given_asked ran (.input cpu)
  change Same _ (jobsOf _ _ ++ last.pending cpu) _ at given
  rw [split] at given
  rw [← asks_forwarded loaded forwarding, written_jobsOf (run_executed ran)]
  refine ⟨(jobsOf (.input cpu) last.queue ++ last.pending cpu).flatMap (·.writes cpu.other), ?_, fun worker => ?_,
    fun idle unqueued => ?_⟩
  · rw [← List.flatMap_append]
    exact given.perm.symm.flatMap_right _
  · rw [← given.eq worker, List.flatMap_append]
  · have empty : jobsOf (.input cpu) last.queue = [] :=
      List.filterMap_eq_nil_iff.mpr fun entry member => if_neg (unqueued entry member)
    rw [idle, empty]
    rfl

/-- The other CPU is written the messages of a forwarding one, each once, in order by one
worker, and all of them when nothing of it waits. The V-CPU is written nothing else. -/
theorem messages_forwarded (loaded : start regex files = .ok config) (cpu : Side) (forwarding : Forwarding (files cpu))
    (ran : events.foldlM (step config) initial = .ok last) :
    (∃ rest, (received cpu events).Perm (written cpu.other (last.done.filter (·.1.1 = .input cpu)) ++ rest) ∧
      (OneWorker events →
        received cpu events = written cpu.other (last.done.filter (·.1.1 = .input cpu)) ++ rest) ∧
      (last.pending cpu = [] → (∀ entry ∈ last.queue, entry.1 ≠ .input cpu) → rest = [])) ∧
    (cpu = .mcpu → Unsending (files .vcpu) →
      written .vcpu last.done = written .vcpu (last.done.filter (·.1.1 = .input .mcpu))) :=
  ⟨input_written loaded forwarding ran, fun _ unsending => vcpu_written loaded unsending ran⟩

private def patterns : String → Option (List Char → Bool)
  | "95,01" => some fun text => decide (text = "95,01".toList)
  | "..,.." => some fun text => decide (text.length = 5 ∧ text[2]? = some ',')
  | _ => none

private def printing : RuleObject := ⟨some "receive", some "..,..", [⟨some "print", [], [], "[%02x,%02x] [%s]"⟩]⟩

/-- The M-CPU is answered one command. -/
private def answeringFiles : Side → Option ConfigObject
  | .mcpu => some ⟨⟨some "resend", [], [], ""⟩,
      [⟨some "receive", some "95,01", [⟨some "send", "95,81".toList, "00".toList, ""⟩]⟩, printing]⟩
  | .vcpu => some ⟨⟨some "resend", [], [], ""⟩, [printing]⟩

private def forwardingRun : List EmulatorEvent :=
  [.reads .mcpu ⟨(0x95, 1), [7]⟩, .pushes .mcpu, .calls (.send (1, 2) [3]), .reads .vcpu ⟨(5, 0), []⟩, .pushes .mcpu,
    .works 0, .pushes .vcpu, .pushes .mcpu, .works 0, .works 0, .works 0, .works 0]

theorem answered_forwarded : ∃ config last, start patterns answeringFiles = .ok config ∧
    forwardingRun.foldlM (step config) initial = .ok last ∧ received .mcpu forwardingRun = [((0x95, 1), [7])] ∧
    received .mcpu forwardingRun = written .vcpu last.done := by
  have goes : ((start patterns answeringFiles).toOption.bind fun config =>
      (forwardingRun.foldlM (step config) initial).toOption.map fun last =>
        decide (last.pending .mcpu = [] ∧ last.queue = [])) = some true := by
    decide +kernel
  cases loaded : start patterns answeringFiles with
  | error fault =>
    rw [loaded] at goes
    cases goes
  | ok config =>
    rw [loaded] at goes
    change (Option.map _ (Except.toOption (forwardingRun.foldlM (step config) initial))) = some true at goes
    cases ran : forwardingRun.foldlM (step config) initial with
    | error fault =>
      rw [ran] at goes
      cases goes
    | ok last =>
      rw [ran] at goes
      obtain ⟨idle, empty⟩ := of_decide_eq_true (Option.some.inj goes)
      have unsending : Unsending (answeringFiles .vcpu) := ⟨by decide, by decide⟩
      have forwarding : Forwarding (answeringFiles .mcpu) := ⟨rfl, by decide⟩
      obtain ⟨⟨rest, -, ordered, whole⟩, only⟩ := messages_forwarded loaded .mcpu forwarding ran
      have messages := ordered (by decide)
      rw [whole idle (by simp [empty]), List.append_nil] at messages
      exact ⟨config, last, rfl, ran, by decide, messages.trans (only rfl unsending).symm⟩

end EmulatorState
end CpuCom.Emulator
