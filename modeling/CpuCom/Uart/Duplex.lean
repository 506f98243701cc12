import CpuCom.Interaction.Rounds
import CpuCom.Proofs.RecvAccounting
import CpuCom.Uart.Access

/-! A sender and a receiver at the two ends of a line. What the receiver writes comes to
the sender late, but in order. What comes to the receiver is arbitrary, but none of its
own calls fails. -/

namespace CpuCom.Uart
open Interaction

/-- What is left of the two programs, and the codes on their way back. -/
structure Duplex where
  sender : CallProgram SendConfig
  receiver : CallProgram RecvConfig
  toSender : List UInt8

namespace Duplex

/-- What a call puts on the line. -/
def puts : Call × Response → List UInt8
  | (.writeByte code, reply) => if reply.result = .success then [code] else []
  | (.write bytes, reply) => if reply.result = .success then bytes else []
  | _ => []

/-- A call of the sender takes from the line what it reads. Opening and closing the port
may lose some of what is there. -/
inductive Takes : Call × Response → List UInt8 → List UInt8 → Prop where
  | read {timeout reply rest} (arrived : reply.result = .success) :
      Takes (.read timeout, reply) (reply.byte :: rest) rest
  | lost {call reply dropped rest} (port : call = .open ∨ call = .close) : Takes (call, reply) (dropped ++ rest) rest
  | nothing {call reply codes} (silent : ∀ timeout, call = .read timeout → reply.result ≠ .success) :
      Takes (call, reply) codes codes

variable (checksum : List UInt8 → UInt8)

/-- The parties make their calls in any order. One that has come to its end sends its
next message, or waits for it. -/
inductive Reaches (start : Duplex) : List (Call × Response) → List (Call × Response) → Duplex → Prop where
  | start : Reaches start [] [] start
  | sends {sent received duplex request next reply rest} (reached : Reaches start sent received duplex)
      (due : duplex.sender = .call request next) (takes : Takes (request, reply) duplex.toSender rest) :
      Reaches start (sent ++ [(request, reply)]) received { duplex with sender := next reply, toSender := rest }
  | receives {sent received duplex request next reply} (reached : Reaches start sent received duplex)
      (due : duplex.receiver = .call request next) (plain : Protocol.Plain (request, reply)) :
      Reaches start sent (received ++ [(request, reply)])
        { duplex with receiver := next reply, toSender := duplex.toSender ++ puts (request, reply) }
  | sendsOn {sent received duplex task next} (reached : Reaches start sent received duplex)
      (finished : duplex.sender = .pure task) (entered : Protocol.Enters checksum .sender task next) :
      Reaches start sent received { duplex with sender := next }
  | receivesOn {sent received duplex task next} (reached : Reaches start sent received duplex)
      (finished : duplex.receiver = .pure task) (entered : Protocol.Enters checksum .receiver task next) :
      Reaches start sent received { duplex with receiver := next }

/-- Both parties are about to start, and nothing is on its way. -/
def start (data : List UInt8) (r1 r2 : Nat) : Duplex :=
  ⟨.pure (Protocol.sendStart checksum data r2), .pure (Protocol.recvStart checksum r1), []⟩

/-- What happens next, where no party has come to its end. -/
inductive Turn where
  | send (reply : Response)
  | receive (reply : Response)
  | sendOn
  | receiveOn

/-- The line after a call of the sender, which loses nothing. -/
def taken : Call → Response → List UInt8 → Option (List UInt8)
  | .read _, ⟨.success, bytes⟩, code :: rest => if code = bytes.headD 0 then some rest else none
  | .read _, ⟨.success, _⟩, [] => none
  | _, _, codes => some codes

theorem takes_of_taken {request : Call} {reply : Response} {codes rest : List UInt8}
    (took : taken request reply codes = some rest) : Takes (request, reply) codes rest := by
  unfold taken at took
  split at took
  · obtain ⟨rfl, same⟩ := Option.ite_none_right_eq_some.mp took
    exact Option.some.inj same ▸ .read rfl
  · cases took
  · next kept none =>
    obtain rfl := Option.some.inj took
    refine .nothing fun timeout read arrived => ?_
    obtain ⟨result, bytes⟩ := reply
    subst read arrived
    cases codes with
    | nil => exact none timeout bytes rfl rfl rfl
    | cons code codes => exact kept timeout bytes code codes rfl rfl rfl

/-- The calls of the sender and of the receiver so far, and what is left. -/
abbrev Progress := List (Call × Response) × List (Call × Response) × Duplex

def turn : Progress → Turn → Option Progress
  | (sent, received, duplex), .send reply =>
      match duplex.sender with
      | .call request next => (taken request reply duplex.toSender).map fun rest =>
          (sent ++ [(request, reply)], received, { duplex with sender := next reply, toSender := rest })
      | _ => none
  | (sent, received, duplex), .receive reply =>
      match duplex.receiver with
      | .call request next =>
          if Protocol.Plain (request, reply) then
            some (sent, received ++ [(request, reply)],
              { duplex with receiver := next reply, toSender := duplex.toSender ++ puts (request, reply) })
          else none
      | _ => none
  | (sent, received, duplex), .sendOn =>
      match duplex.sender with
      | .pure task => (Protocol.enter checksum .sender task).map fun next => (sent, received, { duplex with sender := next })
      | _ => none
  | (sent, received, duplex), .receiveOn =>
      match duplex.receiver with
      | .pure task =>
          (Protocol.enter checksum .receiver task).map fun next => (sent, received, { duplex with receiver := next })
      | _ => none

def play : Progress → List Turn → Option Progress
  | progress, [] => some progress
  | progress, next :: turns => (turn checksum progress next).bind fun after => play after turns

variable {checksum}

theorem reaches_of_turn {start : Duplex} {before after : Progress} {next : Turn}
    (reached : Reaches checksum start before.1 before.2.1 before.2.2) (played : turn checksum before next = some after) :
    Reaches checksum start after.1 after.2.1 after.2.2 := by
  obtain ⟨sent, received, duplex⟩ := before
  cases next with
  | send reply =>
    dsimp only [turn] at played
    split at played
    · next due =>
      obtain ⟨rest, took, rfl⟩ := Option.map_eq_some_iff.mp played
      exact reached.sends due (takes_of_taken took)
    · cases played
  | receive reply =>
    dsimp only [turn] at played
    split at played
    · next due =>
      obtain ⟨plain, same⟩ := Option.ite_none_right_eq_some.mp played
      obtain rfl := Option.some.inj same
      exact reached.receives due plain
    · cases played
  | sendOn =>
    dsimp only [turn] at played
    split at played
    · next finished =>
      obtain ⟨program, entered, rfl⟩ := Option.map_eq_some_iff.mp played
      exact reached.sendsOn finished (Protocol.enter_sound checksum .sender _ _ entered)
    · cases played
  | receiveOn =>
    dsimp only [turn] at played
    split at played
    · next finished =>
      obtain ⟨program, entered, rfl⟩ := Option.map_eq_some_iff.mp played
      exact reached.receivesOn finished (Protocol.enter_sound checksum .receiver _ _ entered)
    · cases played

theorem reaches_of_play {start : Duplex} {turns : List Turn} {before after : Progress}
    (reached : Reaches checksum start before.1 before.2.1 before.2.2) (played : play checksum before turns = some after) :
    Reaches checksum start after.1 after.2.1 after.2.2 := by
  induction turns generalizing before with
  | nil => exact Option.some.inj played ▸ reached
  | cons next turns ih =>
    obtain ⟨middle, moved, played⟩ := Option.bind_eq_some_iff.mp played
    exact ih (reaches_of_turn reached moved) played

end Duplex
end CpuCom.Uart
