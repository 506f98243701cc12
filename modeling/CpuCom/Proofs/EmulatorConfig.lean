import CpuCom.Proofs.EmulatorThreads

/-! What the configuration files decide: which commands have the emulator call through a
null pointer, and which files have it pass everything on. -/

namespace CpuCom.Emulator
open Interaction
open Uart (CpuCommand)

variable {regex : String → Option (List Char → Bool)} {files : Side → Option ConfigObject} {cpu : Side}
  {config : Side → CpuConfig} {cpuConfig : CpuConfig} {value : ConfigObject} {jRule : RuleObject} {jAction : ActionObject}
  {inputEvent : InputEvent} {job : Job}

/-- The actions of a builder for a CPU, with the types they come from. -/
inductive Made (cpu : Side) : String → Action Side → Prop where
  | send {command data} : Made cpu "send" (.send command data (some cpu))
  | print {format} : Made cpu "print" (.print format)
  | resend : Made cpu "resend" (.resend (some cpu.other))
  | replace {command data} : Made cpu "replace" (.replace command data (some cpu.other))
  | nop : Made cpu "nop" .nop

private theorem other_cpu : (if (builder cpu).currentCPU = (builder cpu).vcpu then (builder cpu).mcpu else (builder cpu).vcpu) =
    some cpu.other := by
  cases cpu <;> rfl

private theorem parsed_message {make : CpuCommand → List UInt8 → Action Side} {action : Action Side}
    (created : (do
      let command ← commandFromString jAction.command (0, 0)
      let data ← dataFromString jAction.data []
      Except.ok (if command.1 && data.1 then some (make command.2 data.2) else none)) = .ok (some action)) :
    ∃ command data, action = make command data := by
  cases command : commandFromString jAction.command (0, 0) with
  | error fault =>
    rw [command] at created
    cases created
  | ok parsed =>
    rw [command] at created
    cases data : dataFromString jAction.data [] with
    | error fault =>
      rw [data] at created
      cases created
    | ok bytes =>
      rw [data] at created
      have made := Except.ok.inj created
      split at made
      · exact ⟨parsed.2, bytes.2, (Option.some.inj made).symm⟩
      · cases made

theorem createAction_made {action : Action Side} (created : createAction cpu jAction = .ok (some action)) :
    ∃ type, jAction.type = some type ∧ Made cpu type action := by
  have built : (builder cpu).createAction jAction = .ok (some action) := by
    rw [createAction] at created
    split at created
    · rename_i result made
      rw [made, Except.ok.inj created]
    · cases created
  rw [RulesBuilder.createAction, other_cpu] at built
  cases type : jAction.type with
  | none =>
    rw [type] at built
    cases built
  | some name =>
    rw [type] at built
    refine ⟨name, rfl, ?_⟩
    dsimp only at built
    split at built
    · next send =>
      obtain ⟨command, data, rfl⟩ := @parsed_message _ (.send · · (some cpu)) _ built
      exact send ▸ .send
    · split at built
      · next print =>
        obtain rfl := Option.some.inj (Except.ok.inj built)
        exact print ▸ .print
      · split at built
        · next resend =>
          obtain rfl := Option.some.inj (Except.ok.inj built)
          exact resend ▸ .resend
        · split at built
          · next replace =>
            obtain ⟨command, data, rfl⟩ := @parsed_message _ (.replace · · (some cpu.other)) _ built
            exact replace ▸ .replace
          · split at built
            · next nop =>
              obtain rfl := Option.some.inj (Except.ok.inj built)
              exact nop ▸ .nop
            · cases built

theorem createRule_actions {rule : Rule} (created : createRule regex jRule = .ok (some rule)) : rule.actions = [] := by
  rw [createRule] at created
  split at created
  · cases created
  · split at created
    · split at created
      · cases created
      · split at created
        · cases created
        · obtain rfl := Option.some.inj (Except.ok.inj created)
          rfl
    · cases created

theorem loadRule_ok {result : Option Rule} (loaded : loadRule regex cpu jRule = .ok result) :
    (createRule regex jRule = .ok none ∧ result = none) ∨
      ∃ rule actions, createRule regex jRule = .ok (some rule) ∧ jRule.actions.mapM (createAction cpu) = .ok actions ∧
        result = some ⟨rule.pattern, actions⟩ := by
  rw [loadRule] at loaded
  cases created : createRule regex jRule with
  | error fault =>
    rw [created] at loaded
    cases loaded
  | ok rule =>
    rw [created] at loaded
    cases rule with
    | none => exact .inl ⟨rfl, (Except.ok.inj loaded).symm⟩
    | some rule =>
      cases made : jRule.actions.mapM (createAction cpu) with
      | error fault =>
        simp only [made, bind, Except.bind] at loaded
        cases loaded
      | ok actions =>
        simp only [made, bind, Except.bind] at loaded
        obtain rfl := Except.ok.inj loaded
        refine .inr ⟨rule, actions, rfl, rfl, ?_⟩
        rw [createRule_actions created, List.nil_append]

theorem loadCPUConfig_ok (loaded : loadCPUConfig regex cpu (some value) = .ok cpuConfig) :
    createAction cpu value.defaultAction = .ok cpuConfig.defaultAction ∧
      (∀ jRule ∈ value.rules, ∃ result, loadRule regex cpu jRule = .ok result) ∧
      ∀ rule, rule ∈ cpuConfig.rules ↔ ∃ jRule ∈ value.rules, loadRule regex cpu jRule = .ok (some rule) := by
  rw [loadCPUConfig] at loaded
  cases created : createAction cpu value.defaultAction with
  | error fault =>
    rw [created] at loaded
    cases loaded
  | ok defaultAction =>
    rw [created] at loaded
    cases made : value.rules.mapM (loadRule regex cpu) with
    | error fault =>
      simp only [made, bind, Except.bind] at loaded
      cases loaded
    | ok rules =>
      simp only [made, bind, Except.bind] at loaded
      obtain rfl := Except.ok.inj loaded
      refine ⟨rfl, fun jRule member => mapM_all made member, fun rule => ?_⟩
      rw [List.mem_filterMap]
      simp [mapM_mem_iff made]

theorem start_ok (loaded : start regex files = .ok config) (cpu : Side) :
    loadCPUConfig regex cpu (files cpu) = .ok (config cpu) := by
  rw [start] at loaded
  cases vcpu : loadCPUConfig regex .vcpu (files .vcpu) with
  | error fault =>
    rw [vcpu] at loaded
    cases loaded
  | ok ofVcpu =>
    rw [vcpu] at loaded
    cases mcpu : loadCPUConfig regex .mcpu (files .mcpu) with
    | error fault =>
      simp only [mcpu, bind, Except.bind] at loaded
      cases loaded
    | ok ofMcpu =>
      simp only [mcpu, bind, Except.bind] at loaded
      obtain rfl := Except.ok.inj loaded
      cases cpu with
      | mcpu => exact mcpu
      | vcpu => exact vcpu

/-- The JSON objects of what is done for a command: the actions of the rules that match
it, and the default action. -/
def ConfigObject.Asks (regex : String → Option (List Char → Bool)) (value : ConfigObject) (command : CpuCommand)
    (jAction : ActionObject) : Prop :=
  jAction = value.defaultAction ∨ ∃ jRule ∈ value.rules, jAction ∈ jRule.actions ∧
    ∃ rule, createRule regex jRule = .ok (some rule) ∧ rule.pattern (commandText command) = true

theorem CpuConfig.mem_jobs : job ∈ cpuConfig.jobs inputEvent ↔ ∃ action, job = .action action inputEvent ∧
    (action = cpuConfig.defaultAction ∨ ∃ rule ∈ cpuConfig.rules, action ∈ rule.actions ∧
      rule.pattern (commandText inputEvent.command) = true) := by
  rw [CpuConfig.jobs, List.mem_append, List.mem_flatMap, List.mem_singleton]
  constructor
  · rintro (⟨rule, satisfied, pushed⟩ | rfl)
    · obtain ⟨action, member, rfl⟩ := List.mem_map.mp pushed
      obtain ⟨inside, matched⟩ := List.mem_filter.mp satisfied
      exact ⟨action, rfl, .inr ⟨rule, inside, member, matched⟩⟩
    · exact ⟨_, rfl, .inl rfl⟩
  · rintro ⟨action, rfl, rfl | ⟨rule, inside, member, matched⟩⟩
    · exact .inr rfl
    · exact .inl ⟨rule, List.mem_filter.mpr ⟨inside, matched⟩, List.mem_map.mpr ⟨action, member, rfl⟩⟩

theorem mem_jobs_iff (loaded : loadCPUConfig regex cpu (some value) = .ok cpuConfig) :
    job ∈ cpuConfig.jobs inputEvent ↔ ∃ jAction action, value.Asks regex inputEvent.command jAction ∧
      createAction cpu jAction = .ok action ∧ job = .action action inputEvent := by
  obtain ⟨default, loads, rules⟩ := loadCPUConfig_ok loaded
  rw [CpuConfig.mem_jobs]
  constructor
  · rintro ⟨action, rfl, rfl | ⟨rule, inside, member, matched⟩⟩
    · exact ⟨_, _, .inl rfl, default, rfl⟩
    · obtain ⟨jRule, there, makes⟩ := (rules rule).mp inside
      rcases loadRule_ok makes with ⟨-, none⟩ | ⟨bare, actions, created, each, whole⟩
      · cases none
      · obtain rfl := Option.some.inj whole
        obtain ⟨jAction, among, makes⟩ := (mapM_mem_iff each).mp member
        exact ⟨jAction, action, .inr ⟨jRule, there, among, bare, created, matched⟩, makes, rfl⟩
  · rintro ⟨jAction, action, rfl | ⟨jRule, there, among, bare, created, matched⟩, makes, rfl⟩
    · exact ⟨action, rfl, .inl (Except.ok.inj (makes.symm.trans default))⟩
    · obtain ⟨result, loads⟩ := loads jRule there
      rcases loadRule_ok loads with ⟨none, -⟩ | ⟨rule, actions, found, each, rfl⟩
      · cases none.symm.trans created
      · obtain rfl := Option.some.inj (Except.ok.inj (found.symm.trans created))
        refine ⟨action, rfl, .inr ⟨_, (rules _).mpr ⟨jRule, there, loads⟩, ?_, matched⟩⟩
        exact (mapM_mem_iff each).mpr ⟨jAction, among, makes⟩

theorem Made.executes {type : String} {action : Action Side} (made : Made cpu type action) (inputEvent : InputEvent) :
    ∃ effects, action.execute inputEvent = .ok effects := by
  cases made <;> exact ⟨_, rfl⟩

/-- A command for which an object makes no action. Without a file there is no default action. -/
def Trapped (regex : String → Option (List Char → Bool)) (cpu : Side) (command : CpuCommand) : Option ConfigObject → Prop
  | none => True
  | some value => ∃ jAction, value.Asks regex command jAction ∧ createAction cpu jAction = .ok none

theorem trapped_iff {file : Option ConfigObject} (loaded : loadCPUConfig regex cpu file = .ok cpuConfig) :
    Trapped regex cpu inputEvent.command file ↔ ∃ job ∈ cpuConfig.jobs inputEvent, job.run = .error .null := by
  cases file with
  | none =>
    obtain rfl := Except.ok.inj loaded
    exact ⟨fun _ => ⟨_, CpuConfig.mem_jobs.mpr ⟨none, rfl, .inl rfl⟩, rfl⟩, fun _ => trivial⟩
  | some value =>
    constructor
    · rintro ⟨jAction, asked, missing⟩
      exact ⟨_, (mem_jobs_iff loaded).mpr ⟨jAction, none, asked, missing, rfl⟩, rfl⟩
    · rintro ⟨job, member, crashes⟩
      obtain ⟨jAction, action, asked, created, rfl⟩ := (mem_jobs_iff loaded).mp member
      cases action with
      | none => exact ⟨jAction, asked, created⟩
      | some action =>
        obtain ⟨type, -, made⟩ := createAction_made created
        obtain ⟨effects, executed⟩ := made.executes inputEvent
        cases crashes.symm.trans executed

namespace EmulatorState

variable {emulator next last : EmulatorState} {event : EmulatorEvent} {events : List EmulatorEvent} {origin : Origin}

theorem mem_jobsOf {jobs : List (Origin × Job)} : job ∈ jobsOf origin jobs ↔ (origin, job) ∈ jobs := by
  rw [jobsOf, List.mem_filterMap]
  constructor
  · rintro ⟨⟨other, work⟩, member, same⟩
    split at same
    · next own =>
      obtain rfl := Option.some.inj same
      exact own ▸ member
    · cases same
  · exact fun member => ⟨_, member, if_pos rfl⟩

theorem mem_asks_input {event : EmulatorEvent} {running : Option (CpuCommand × List UInt8)} :
    job ∈ event.asks config (.input cpu) running ↔
      ∃ inputEvent, event = .reads cpu inputEvent ∧ job ∈ (config cpu).jobs inputEvent := by
  cases event with
  | reads side inputEvent =>
    rw [EmulatorEvent.asks]
    by_cases same : side = cpu
    · subst same
      simp
    · have other : ¬ Origin.input cpu = .input side := fun own => same (Origin.input.inj own).symm
      simp [other, same]
  | calls call => cases call <;> simp [EmulatorEvent.asks]
  | _ => simp [EmulatorEvent.asks]

theorem exists_asks (ran : events.foldlM (step config) initial = .ok last) (there : (origin, job) ∈ last.jobs) :
    ∃ event ∈ events, ∃ running, job ∈ event.asks config origin running :=
  exists_of_mem_asked ((given_asked ran origin).perm.subset (List.mem_append_left _ (mem_jobsOf.mpr there)))

theorem send_of_asks {running : Option (CpuCommand × List UInt8)} (asks : job ∈ event.asks config origin running)
    (named : ∀ cpu, origin ≠ .input cpu) : ∃ command data, job = .send command data := by
  rw [EmulatorEvent.asks.eq_def] at asks
  split at asks
  · rw [if_neg (named _)] at asks
    exact absurd asks List.not_mem_nil
  · obtain ⟨-, member⟩ := List.mem_ite_nil_right.mp asks
    exact ⟨_, _, List.mem_singleton.mp member⟩
  · obtain ⟨-, member⟩ := List.mem_ite_nil_right.mp asks
    obtain ⟨message, -, rfl⟩ := List.mem_map.mp member
    exact ⟨_, _, rfl⟩
  · exact absurd asks List.not_mem_nil

theorem crashing_read (ran : events.foldlM (step config) initial = .ok last) (there : (origin, job) ∈ last.jobs)
    (crashes : job.run = .error .null) :
    ∃ cpu inputEvent, .reads cpu inputEvent ∈ events ∧ job ∈ (config cpu).jobs inputEvent := by
  obtain ⟨event, member, running, asks⟩ := exists_asks ran there
  by_cases named : ∀ cpu, origin ≠ .input cpu
  · obtain ⟨command, data, rfl⟩ := send_of_asks asks named
    cases crashes
  · push Not at named
    obtain ⟨cpu, rfl⟩ := named
    obtain ⟨inputEvent, rfl, among⟩ := mem_asks_input.mp asks
    exact ⟨cpu, inputEvent, member, among⟩

theorem works_error (stepped : emulator.step config event = .error .crash) :
    ∃ origin job, (origin, job) ∈ emulator.queue ∧ job.run = .error .null := by
  cases event with
  | reads cpu inputEvent =>
    rw [step] at stepped
    split at stepped <;> cases stepped
  | pushes cpu =>
    rw [step] at stepped
    split at stepped <;> cases stepped
  | calls call => cases stepped
  | ticks name =>
    rw [step] at stepped
    split at stepped <;> cases stepped
  | works place =>
    rw [step] at stepped
    split at stepped
    · cases stepped
    · next origin job queued =>
      split at stepped
      · next crash ran =>
        cases crash
        exact ⟨origin, job, List.mem_of_getElem? queued, ran⟩
      · cases stepped

/-- The worker comes to every job that is queued. -/
theorem works_to_crash (queued : ∃ entry ∈ emulator.queue, entry.2.run = .error .null) :
    ∃ events : List EmulatorEvent, (∀ event ∈ events, event = .works 0) ∧ events.foldlM (step config) emulator = .error .crash := by
  obtain ⟨entry, member, crashes⟩ := queued
  generalize queue : emulator.queue = waiting at member
  induction waiting generalizing emulator with
  | nil => exact absurd member List.not_mem_nil
  | cons first rest ih =>
    obtain ⟨origin, job⟩ := first
    cases ran : job.run with
    | error crash =>
      refine ⟨[.works 0], fun event member => List.mem_singleton.mp member, ?_⟩
      rw [List.foldlM_cons, step, queue, List.getElem?_cons_zero]
      simp only [ran]
      rfl
    | ok effects =>
      have later : entry ∈ rest := by
        refine (List.mem_cons.mp member).resolve_left fun same => ?_
        rw [same, ran] at crashes
        cases crashes
      obtain ⟨events, works, crashed⟩ := @ih { emulator with queue := rest, done := emulator.done ++ [((origin, job), effects)] }
        rfl later
      refine ⟨.works 0 :: events, List.forall_mem_cons.mpr ⟨rfl, works⟩, ?_⟩
      rw [List.foldlM_cons, step, queue, List.getElem?_cons_zero]
      simp only [ran]
      exact crashed

theorem pushes_to_crash (waits : ∃ job ∈ emulator.pending cpu, job.run = .error .null) :
    ∃ events : List EmulatorEvent, (∀ event ∈ events, event = .pushes cpu ∨ event = .works 0) ∧
      events.foldlM (step config) emulator = .error .crash := by
  obtain ⟨job, member, crashes⟩ := waits
  generalize pending : emulator.pending cpu = jobs at member
  induction jobs generalizing emulator with
  | nil => exact absurd member List.not_mem_nil
  | cons first rest ih =>
    let pushed := { emulator with pending := Function.update emulator.pending cpu rest }.push (.input cpu) first
    have pushes (events : List EmulatorEvent) : (.pushes cpu :: events).foldlM (step config) emulator =
        events.foldlM (step config) pushed := by
      rw [List.foldlM_cons, step, pending]
      rfl
    rcases List.mem_cons.mp member with rfl | member
    · obtain ⟨events, works, crashed⟩ := @works_to_crash config pushed
        ⟨(.input cpu, job), List.mem_append_right _ (List.mem_singleton_self _), crashes⟩
      refine ⟨.pushes cpu :: events, List.forall_mem_cons.mpr ⟨.inl rfl, fun event member => .inr (works event member)⟩, ?_⟩
      rw [pushes, crashed]
    · obtain ⟨events, each, crashed⟩ := @ih pushed (Function.update_self ..) member
      refine ⟨.pushes cpu :: events, List.forall_mem_cons.mpr ⟨.inl rfl, each⟩, ?_⟩
      rw [pushes, crashed]

/-- Only a command that its file leaves without an action makes the emulator crash. Once
it is read, nothing else is needed than that its thread and the worker go on. -/
theorem crashes_iff_trapped (loaded : start regex files = .ok config) (events : List EmulatorEvent) :
    (events.foldlM (step config) initial = .error .crash →
      ∃ cpu inputEvent, .reads cpu inputEvent ∈ events ∧ Trapped regex cpu inputEvent.command (files cpu)) ∧
    ∀ last cpu inputEvent, events.foldlM (step config) initial = .ok last → .reads cpu inputEvent ∈ events →
      Trapped regex cpu inputEvent.command (files cpu) →
      ∃ more : List EmulatorEvent, (∀ event ∈ more, event = .pushes cpu ∨ event = .works 0) ∧
        (events ++ more).foldlM (step config) initial = .error .crash := by
  constructor
  · intro crashed
    obtain ⟨before, event, after, state, rfl, ran, stepped⟩ := exists_fault crashed
    obtain ⟨origin, job, queued, crashes⟩ := works_error stepped
    obtain ⟨cpu, inputEvent, member, among⟩ := crashing_read ran (List.mem_append_right _ queued) crashes
    exact ⟨cpu, inputEvent, List.mem_append_left _ member, (trapped_iff (start_ok loaded cpu)).mpr ⟨job, among, crashes⟩⟩
  · intro last cpu inputEvent ran member trapped
    obtain ⟨job, among, crashes⟩ := (trapped_iff (start_ok loaded cpu)).mp trapped
    have asked : job ∈ asked config (.input cpu) none events := by
      rw [asked_input]
      exact List.mem_flatMap.mpr ⟨_, member, mem_asks_input.mpr ⟨inputEvent, rfl, among⟩⟩
    replace asked := (given_asked ran (.input cpu)).perm.symm.subset asked
    have goes : ∃ more : List EmulatorEvent, (∀ event ∈ more, event = .pushes cpu ∨ event = .works 0) ∧
        more.foldlM (step config) last = .error .crash := by
      rcases List.mem_append.mp asked with there | waits
      · rcases List.mem_append.mp (mem_jobsOf.mp there) with done | queued
        · obtain ⟨entry, finished, same⟩ := List.mem_map.mp done
          have executed := run_executed ran entry finished
          rw [same, crashes] at executed
          cases executed
        · obtain ⟨more, works, crashed⟩ := @works_to_crash config last ⟨_, queued, crashes⟩
          exact ⟨more, fun event member => .inr (works event member), crashed⟩
      · exact pushes_to_crash ⟨job, waits, crashes⟩
    obtain ⟨more, each, crashed⟩ := goes
    refine ⟨more, each, ?_⟩
    rw [List.foldlM_append, ran]
    exact crashed

/-- Only the M-CPU has a file, and the V-CPU sends a command. -/
private def oneFile : Side → Option ConfigObject
  | .mcpu => some ⟨⟨some "resend", [], [], ""⟩, []⟩
  | .vcpu => none

theorem missing_file_crashes : ∃ config, start (fun _ => none) oneFile = .ok config ∧
    ∃ more : List EmulatorEvent, (∀ event ∈ more, event = .pushes .vcpu ∨ event = .works 0) ∧
      (EmulatorEvent.reads .vcpu ⟨(4, 0), [9]⟩ :: more).foldlM (step config) initial = .error .crash := by
  have loads : (start (fun _ => none) oneFile).toOption.isSome = true := by decide +kernel
  cases loaded : start (fun _ => none) oneFile with
  | error fault =>
    rw [loaded] at loads
    cases loads
  | ok config =>
    refine ⟨config, rfl, ?_⟩
    exact (crashes_iff_trapped loaded [.reads .vcpu ⟨(4, 0), [9]⟩]).2 _ .vcpu ⟨(4, 0), [9]⟩ rfl
      (List.mem_singleton_self _) trivial

end EmulatorState
end CpuCom.Emulator
