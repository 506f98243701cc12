import CpuCom.Interaction.SharedLock
import CpuCom.Uart.RecvMachine

/-! One thread that sends message after message and one that receives over the
same device. `m_accessLock` is the lock that they share. -/

namespace CpuCom.Uart
open Interaction

inductive Party where
  | sender
  | receiver
deriving DecidableEq

/-- The calls that use the device need the lock, except `poll`. -/
def Call.lockUse : Call → LockUse
  | .lock => .acquire
  | .unlock => .release
  | .poll _ => .free
  | _ => .guarded

/-- The calls of a thread on the line itself: as `lockUse`, but the port is opened
and closed without the lock. -/
def Call.lineUse : Call → LockUse
  | .open => .free
  | .close => .free
  | call => call.lockUse

abbrev Task : Party → Type
  | .sender => SendConfig
  | .receiver => RecvConfig

abbrev Parties := Threads Task Call Response

namespace Protocol
variable (checksum : List UInt8 → UInt8)

/-- A party goes on with the state that its machine is in. A machine that has
ended is started again, and finds the counter that it has left. -/
inductive Enters : (party : Party) → Task party → CallProgram (Task party) → Prop where
  | send {state loop sending} :
      Enters .sender (.running state loop sending) (sendMachine.handle state loop sending)
  | sendNext {sending} (data) : Enters .sender (.ended sending) (.pure (sendStart checksum data sending.r2))
  | receive {state loop receiving} :
      Enters .receiver (.running state loop receiving) ((recvMachine checksum).handle state loop receiving)
  | receiveNext {receiving} : Enters .receiver (.ended receiving) (.pure (recvStart checksum receiving.r1))

/-- `Enters` up to the end of a first send and a first receive. -/
def enter : (party : Party) → Task party → Option (CallProgram (Task party))
  | .sender, .running state loop sending => some (sendMachine.handle state loop sending)
  | .receiver, .running state loop receiving => some ((recvMachine checksum).handle state loop receiving)
  | _, _ => none

theorem enter_sound (party : Party) (task : Task party) (next : CallProgram (Task party))
    (entered : enter checksum party task = some next) : Enters checksum party task next := by
  cases party with
  | sender =>
    cases task with
    | running state loop sending =>
      cases entered
      exact .send
    | ended sending => cases entered
  | receiver =>
    cases task with
    | running state loop receiving =>
      cases entered
      exact .receive
    | ended receiving => cases entered

/-- Both parties are about to start, whatever counters they have, and the lock is free. -/
def parties (data : List UInt8) (r1 r2 : Nat) : Parties where
  program
    | .sender => .pure (sendStart checksum data r2)
    | .receiver => .pure (recvStart checksum r1)
  holds _ := false
  locked := false

end Protocol
end CpuCom.Uart
