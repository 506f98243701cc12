import CpuCom.Emulator.CommandLine

/-! The emulator between the M-CPU and the V-CPU. Two threads read commands and push the
actions of the rules, the command line and the repeaters push sends, and the pool does
all of them. Nothing says here which of its jobs `ThreadPool` takes next; that it is one
worker that takes them in the order in which they were pushed is `OneWorker`. -/

namespace CpuCom.Emulator
open Uart (CpuCommand)

inductive Side where
  | mcpu
  | vcpu
deriving DecidableEq

/-- The one that a side talks to. -/
def Side.other : Side → Side
  | .mcpu => .vcpu
  | .vcpu => .mcpu

structure InputEvent where
  command : CpuCommand
  data : List UInt8
deriving DecidableEq

/-- What an action does: a write to a CPU, or a line of the log. -/
inductive Effect where
  | write (cpu : Side) (command : CpuCommand) (data : List UInt8)
  | print (format : String) (command : CpuCommand) (text : List Char)
deriving DecidableEq

/-- A null pointer was called through. -/
inductive Crash where
  | null
deriving DecidableEq

/-- A write to a CPU that may be null. -/
def write (cpu : Option Side) (command : CpuCommand) (data : List UInt8) : Except Crash (List Effect) :=
  match cpu with
  | none => .error .null
  | some cpu => .ok [.write cpu command data]

def Action.execute (inputEvent : InputEvent) : Action Side → Except Crash (List Effect)
  | .send command data cpu => write cpu command data
  | .print format => .ok [.print format inputEvent.command (dataText inputEvent.data)]
  | .resend cpu => write cpu inputEvent.command inputEvent.data
  | .replace command data cpu => write cpu command data
  | .nop => .ok []

/-- A rule that matches what it receives with a pattern. -/
structure Rule where
  pattern : List Char → Bool
  actions : List (Option (Action Side))

/-- Of `RuleReceive`, the only rules there are. -/
def Rule.satisfy (rule : Rule) (inputEvent : InputEvent) : Bool := rule.pattern (commandText inputEvent.command)

/-- What a rule and a file read from their JSON objects. The type and the command of a
rule are `none` where they are not strings. -/
structure RuleObject where
  type : Option String
  command : Option String
  actions : List ActionObject

structure ConfigObject where
  defaultAction : ActionObject
  rules : List RuleObject

/-- A pattern that is no regular expression, or a number that `std::stoi` throws for. -/
inductive ConfigFault where
  | regex
  | number (fault : Fault)
deriving DecidableEq

variable (regex : String → Option (List Char → Bool))

/-- The rule has no actions yet. -/
def createRule (jsonObject : RuleObject) : Except ConfigFault (Option Rule) :=
  match jsonObject.type with
  | none => .ok none
  | some type =>
      if type = "receive" then
        match jsonObject.command with
        | none => .ok none
        | some command =>
            match regex command with
            | none => .error .regex
            | some pattern => .ok (some ⟨pattern, []⟩)
      else .ok none

/-- The builder that `main` makes, once `setCurrentCPU` was called. -/
def builder (cpu : Side) : RulesBuilder Side := ⟨some .mcpu, some .vcpu, some cpu⟩

def createAction (cpu : Side) (jsonObject : ActionObject) : Except ConfigFault (Option (Action Side)) :=
  match (builder cpu).createAction jsonObject with
  | .ok action => .ok action
  | .error fault => .error (.number fault)

def loadRule (cpu : Side) (jRule : RuleObject) : Except ConfigFault (Option Rule) := do
  let rule ← createRule regex jRule
  match rule with
  | none => pure none
  | some rule =>
      let actions ← jRule.actions.mapM (createAction cpu)
      pure (some { rule with actions := rule.actions ++ actions })

/-- The rules and the default action of a CPU. -/
structure CpuConfig where
  rules : List Rule
  defaultAction : Option (Action Side)

/-- Without a file there are no rules, and what the map of default actions makes up is null. -/
def loadCPUConfig (cpu : Side) : Option ConfigObject → Except ConfigFault CpuConfig
  | none => pure ⟨[], none⟩
  | some value => do
      let defaultAction ← createAction cpu value.defaultAction
      let rules ← value.rules.mapM (loadRule regex cpu)
      pure ⟨rules.filterMap id, defaultAction⟩

/-- The configurations, that of the V-CPU first. -/
def start (files : Side → Option ConfigObject) : Except ConfigFault (Side → CpuConfig) := do
  let vcpu ← loadCPUConfig regex .vcpu (files .vcpu)
  let mcpu ← loadCPUConfig regex .mcpu (files .mcpu)
  pure fun
    | .vcpu => vcpu
    | .mcpu => mcpu

/-- What is pushed to the pool. -/
inductive Job where
  | action (action : Option (Action Side)) (inputEvent : InputEvent)
  | send (command : CpuCommand) (data : List UInt8)
deriving DecidableEq

def Job.run : Job → Except Crash (List Effect)
  | .action none _ => .error .null
  | .action (some bound) inputEvent => bound.execute inputEvent
  | .send command data => .ok [.write .mcpu command data]

/-- What the thread of a CPU pushes for a command: the actions of the rules that it
satisfies, and the default action. -/
def CpuConfig.jobs (config : CpuConfig) (inputEvent : InputEvent) : List Job :=
  ((config.rules.filter (·.satisfy inputEvent)).flatMap fun rule => rule.actions.map (.action · inputEvent)) ++
    [.action config.defaultAction inputEvent]

/-- Who has pushed a job. -/
inductive Origin where
  | input (cpu : Side)
  | cli
  | repeater (name : List Char)
deriving DecidableEq

/-- What the threads have still to push, the jobs that the pool has still to do, those it
has done with what they did, and the repeaters with what they send. -/
structure EmulatorState where
  pending : Side → List Job
  queue : List (Origin × Job)
  done : List ((Origin × Job) × List Effect)
  repeaters : List (List Char × CpuCommand × List UInt8)

inductive EmulatorEvent where
  | reads (cpu : Side) (inputEvent : InputEvent)
  | pushes (cpu : Side)
  | calls (call : CliCall)
  | ticks (name : List Char)
  | works (place : Nat)
deriving DecidableEq

/-- If a job is done, it is the one that was pushed first. -/
def EmulatorEvent.InOrder : EmulatorEvent → Prop
  | .works place => place = 0
  | _ => True

instance : ∀ event : EmulatorEvent, Decidable event.InOrder
  | .works place => inferInstanceAs (Decidable (place = 0))
  | .reads _ _ | .pushes _ | .calls _ | .ticks _ => .isTrue trivial

def OneWorker (events : List EmulatorEvent) : Prop := ∀ event ∈ events, event.InOrder

instance (events : List EmulatorEvent) : Decidable (OneWorker events) :=
  inferInstanceAs (Decidable (∀ event ∈ events, event.InOrder))

/-- The emulator crashes, or the event is not one of this state. -/
inductive EmulatorFault where
  | crash
  | impossible
deriving DecidableEq

namespace EmulatorState

def initial : EmulatorState := ⟨fun _ => [], [], [], []⟩

def push (emulator : EmulatorState) (origin : Origin) (job : Job) : EmulatorState :=
  { emulator with queue := emulator.queue ++ [(origin, job)] }

def call (emulator : EmulatorState) : CliCall → EmulatorState
  | .send command data => emulator.push .cli (.send command data)
  | .repeat name command data _ =>
      if (emulator.repeaters.lookup name).isSome then emulator
      else { emulator with repeaters := (name, command, data) :: emulator.repeaters }
  | .stoprepeat name => { emulator with repeaters := emulator.repeaters.filter (·.1 ≠ name) }
  | .stoprepeatAll => { emulator with repeaters := [] }

/-- A thread reads when it has pushed all that the last command has brought. -/
def step (config : Side → CpuConfig) (emulator : EmulatorState) : EmulatorEvent → Except EmulatorFault EmulatorState
  | .reads cpu inputEvent =>
      if emulator.pending cpu = [] then
        .ok { emulator with pending := Function.update emulator.pending cpu ((config cpu).jobs inputEvent) }
      else .error .impossible
  | .pushes cpu =>
      match emulator.pending cpu with
      | [] => .error .impossible
      | job :: jobs =>
          .ok ({ emulator with pending := Function.update emulator.pending cpu jobs }.push (.input cpu) job)
  | .calls call => .ok (emulator.call call)
  | .ticks name =>
      match emulator.repeaters.lookup name with
      | none => .error .impossible
      | some (command, data) => .ok (emulator.push (.repeater name) (.send command data))
  | .works place =>
      match emulator.queue[place]? with
      | none => .error .impossible
      | some (origin, job) =>
          match job.run with
          | .error _ => .error .crash
          | .ok effects =>
              .ok { emulator with
                queue := emulator.queue.eraseIdx place
                done := emulator.done ++ [((origin, job), effects)] }

end EmulatorState
end CpuCom.Emulator
