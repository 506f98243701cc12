import CpuCom.Service.Executor

/-! Notifications on their way to the listeners of the service. The library of a process
looks for the callback of the command of each and calls it, which puts a call into the
queue of the Java thread. The Java thread calls the listeners that the wrapper has by
then. The executor goes on meanwhile. Nothing says here that the library and the thread
take what has come first before the rest; that they do is `InOrder`. -/

namespace CpuCom.Service

variable {B : Type}

/-- A call of `onCommand` of a wrapper. -/
structure WrapperCall where
  wrapper : Nat
  command : Uart.CpuCommand
  data : Messaging.Data
deriving DecidableEq

/-- The service, what has come for each process, what its library is about to call, the
queue of `gJavaThread` with the process of each call, and the listeners that it has called. -/
structure JavaThread (B : Type) [LinearOrder B] where
  executor : Executor B
  incoming : Int → List (Uart.CpuCommand × Messaging.Data)
  found : Int → List WrapperCall
  queue : List (Int × WrapperCall)
  heard : List ((Int × WrapperCall) × B × Received)

/-- The executor makes a step, a notification comes for a process, its library looks for
the callback of one and calls it, and the Java thread takes a call. -/
inductive JavaThreadEvent (B : Type) where
  | serves (event : ExecutorEvent B)
  | arrives (pid : Int) (command : Uart.CpuCommand) (data : Messaging.Data)
  | looks (pid : Int) (place : Nat)
  | pushes (pid : Int) (place : Nat)
  | broadcasts (place : Nat)

def JavaThreadEvent.InOrder : JavaThreadEvent B → Prop
  | .looks _ place | .pushes _ place | .broadcasts place => place = 0
  | .serves _ | .arrives _ _ _ => True

namespace JavaThread
variable [LinearOrder B]

def initial : JavaThread B := ⟨.initial, fun _ => [], fun _ => [], [], []⟩

/-- What the library of a process calls for a notification. -/
def lookup (service : ServiceState B) (pid : Int) (command : Uart.CpuCommand) (data : Messaging.Data) :
    Option WrapperCall :=
  (service.native.onNotification pid command data).findSome? fun
    | .callOnCommand (.onCommand wrapper) command data => some ⟨wrapper, command, data⟩
    | _ => none

/-- What is on the way to a library that is destroyed is lost with it. -/
def step (thread : JavaThread B) : JavaThreadEvent B → Except Fault (JavaThread B)
  | .serves event => do
      let executor ← thread.executor.step event
      pure { thread with
        executor, incoming := fun pid => if pid ∈ executor.service.native.gClients then thread.incoming pid else [] }
  | .arrives pid command data =>
      if pid ∈ thread.executor.service.native.gClients then
        .ok { thread with incoming := Function.update thread.incoming pid (thread.incoming pid ++ [(command, data)]) }
      else .ok thread
  | .looks pid place =>
      match (thread.incoming pid)[place]? with
      | some (command, data) =>
          .ok { thread with
            incoming := Function.update thread.incoming pid ((thread.incoming pid).eraseIdx place)
            found := Function.update thread.found pid
              (thread.found pid ++ (lookup thread.executor.service pid command data).toList) }
      | none => .ok thread
  | .pushes pid place =>
      match (thread.found pid)[place]? with
      | some call =>
          .ok { thread with
            found := Function.update thread.found pid ((thread.found pid).eraseIdx place)
            queue := thread.queue ++ [(pid, call)] }
      | none => .ok thread
  | .broadcasts place =>
      match thread.queue[place]? with
      | some (pid, call) =>
          let reached := (thread.executor.service.wrapper call.wrapper).onCommand (widen call.command).1
            (widen call.command).2 (call.data.map UInt8.toInt8)
          .ok { thread with
            queue := thread.queue.eraseIdx place, heard := thread.heard ++ reached.map ((pid, call), ·) }
      | none => .ok thread

end JavaThread
end CpuCom.Service
