import CpuCom.Service.ClientManager

/-! The executor of the service, a queue of tasks with one thread. `CpuComServiceImpl`
puts a task into it for every call that is permitted, and `ClientDeathObserver` puts
one into it for every death that it is told of, some time after the death. -/

namespace CpuCom.Service

variable {B : Type}

/-- The calls of other processes, with the process that calls. -/
inductive ServiceCall (B : Type) where
  | sendCmd (pid : Int) (command : CpuCommand)
  | subscribeCB (pid : Int) (command : CpuCommand) (listener : B)
  | unsubscribeCB (pid : Int) (command : CpuCommand) (listener : B)
  | subscribeErrorCB (pid : Int) (errorCallback : B)
  | unsubscribeErrorCB (pid : Int)

def ServiceCall.task : ServiceCall B → Task B
  | .sendCmd pid command => .sendCommand pid command
  | .subscribeCB pid command listener => .subscribe pid command listener
  | .unsubscribeCB pid command listener => .unsubscribe pid command listener
  | .subscribeErrorCB pid errorCallback => .setErrorCallback pid errorCallback
  | .unsubscribeErrorCB pid => .resetErrorCallback pid

structure Executor (B : Type) [LinearOrder B] where
  service : ServiceState B
  queue : List (Task B)
  notices : List ClientDeathObserver

/-- A call comes in, a process dies, an observer is told of a death, and the thread
runs the next task. -/
inductive ExecutorEvent (B : Type) where
  | calls (call : ServiceCall B)
  | dies (binder : B)
  | binderDied (observer : ClientDeathObserver)
  | runs

namespace Executor
variable [LinearOrder B]

def initial : Executor B := ⟨.initial, [], []⟩

/-- Who is told of a death is told once, and is not linked any more. -/
def step (executor : Executor B) : ExecutorEvent B → Except Fault (Executor B)
  | .calls call => .ok { executor with queue := executor.queue ++ [call.task] }
  | .dies binder =>
      .ok { executor with
        service := executor.service.dies binder
        notices := executor.notices ++ (executor.service.links.filter (·.1 = binder)).map Prod.snd }
  | .binderDied observer =>
      if observer ∈ executor.notices then
        .ok { executor with
          queue := executor.queue ++ [.destroyClient observer.mClientPid], notices := executor.notices.erase observer }
      else .ok executor
  | .runs =>
      match executor.queue with
      | [] => .ok executor
      | task :: queue => do
          let service ← task.run executor.service
          pure { executor with service, queue }

end Executor
end CpuCom.Service
