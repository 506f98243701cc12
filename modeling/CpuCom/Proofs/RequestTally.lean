/-! The life of one request in numbers: what there is of it in each place, what a step
moves from place to place, and what every step keeps. -/

namespace CpuCom.Messaging.Network

@[ext] structure RequestTally where
  made : Nat
  registering : Nat
  sending : Nat
  requested : Nat
  waiting : Nat
  responding : Nat
  pending : Nat
  fulfilled : Nat
  erasing : Nat
  cancelling : Nat
  withdrawing : Nat

/-- What of a request is due or in flight. -/
structure RequestTokens where
  registering : Nat := 0
  sending : Nat := 0
  requested : Nat := 0
  responding : Nat := 0
  erasing : Nat := 0
  cancelling : Nat := 0
  withdrawing : Nat := 0

namespace RequestTally

/-- `pending` and `left`: a promise in the table has a token under way, and a token
that has not passed the daemon has a promise, or a cancellation behind it. `ended` and
`withdrawn`: nothing of the request is left on the way ahead of its cancellation. -/
structure Kept (tally : RequestTally) : Prop where
  once : tally.fulfilled + tally.pending + tally.registering ≤ tally.made
  token : tally.registering + tally.requested + tally.waiting + tally.responding ≤ tally.made
  pending : tally.pending ≤ tally.requested + tally.waiting + tally.responding
  left : tally.requested + tally.waiting ≤ tally.pending + tally.cancelling
  cancelled : 1 ≤ tally.cancelling → tally.pending = 0
  ended : 1 ≤ tally.erasing + tally.cancelling → tally.registering = 0 ∧ tally.sending = 0 ∧ 1 ≤ tally.made
  withdrawn : 1 ≤ tally.withdrawing → tally.requested = 0

/-- A step takes some tokens away and puts others there. -/
structure Balance (before : RequestTally) (lost gained : RequestTokens) (after : RequestTally) : Prop where
  registering : after.registering + lost.registering = before.registering + gained.registering
  sending : after.sending + lost.sending = before.sending + gained.sending
  requested : after.requested + lost.requested = before.requested + gained.requested
  responding : after.responding + lost.responding = before.responding + gained.responding
  erasing : after.erasing + lost.erasing = before.erasing + gained.erasing
  cancelling : after.cancelling + lost.cancelling = before.cancelling + gained.cancelling
  withdrawing : after.withdrawing + lost.withdrawing = before.withdrawing + gained.withdrawing

/-- What one step does to a request: tokens may leave a place and enter it again
(`rest`), the id may be taken for something else (`taken`), and a promise counts as
erased or answered only if it was in the table. -/
inductive Move (before after : RequestTally) : Prop where
  | rest {tokens} (balance : Balance before tokens tokens after) (made : after.made = before.made)
      (waiting : after.waiting = before.waiting) (pending : after.pending = before.pending)
      (fulfilled : after.fulfilled = before.fulfilled)
  | taken (balance : Balance before {} {} after) (made : after.made = before.made + 1)
      (waiting : after.waiting = before.waiting) (pending : after.pending = before.pending)
      (fulfilled : after.fulfilled = before.fulfilled)
  | begun (balance : Balance before {} { registering := 1 } after) (made : after.made = before.made + 1)
      (waiting : after.waiting = before.waiting) (pending : after.pending = before.pending)
      (fulfilled : after.fulfilled = before.fulfilled) (fresh : before.made = 0)
  | registered (balance : Balance before { registering := 1 } { sending := 1, requested := 1 } after)
      (made : after.made = before.made) (waiting : after.waiting = before.waiting) (pending : after.pending = 1)
      (fulfilled : after.fulfilled = before.fulfilled) (within : before.withdrawing ≤ before.cancelling)
  | sent (balance : Balance before { sending := 1, requested := 1 } { requested := 1 } after)
      (made : after.made = before.made) (waiting : after.waiting = before.waiting)
      (pending : after.pending = before.pending) (fulfilled : after.fulfilled = before.fulfilled)
  | released (balance : Balance before {} { erasing := 1 } after) (made : after.made = before.made)
      (waiting : after.waiting = before.waiting) (pending : after.pending = before.pending)
      (fulfilled : after.fulfilled = before.fulfilled)
      (returned : before.registering = 0 ∧ before.sending = 0 ∧ 1 ≤ before.made)
  | erased (balance : Balance before { erasing := 1 } { cancelling := before.pending } after)
      (made : after.made = before.made) (waiting : after.waiting = before.waiting) (pending : after.pending = 0)
      (fulfilled : after.fulfilled = before.fulfilled)
  | added (balance : Balance before { requested := 1 } {} after) (made : after.made = before.made)
      (waiting : after.waiting = before.waiting + 1) (pending : after.pending = before.pending)
      (fulfilled : after.fulfilled = before.fulfilled)
  | found (balance : Balance before {} { responding := 1 } after) (made : after.made = before.made)
      (waiting : before.waiting = after.waiting + 1) (pending : after.pending = before.pending)
      (fulfilled : after.fulfilled = before.fulfilled)
  | withdrawn (balance : Balance before { cancelling := 1, withdrawing := 1 } {} after)
      (made : after.made = before.made) (waiting : after.waiting = 0) (pending : after.pending = before.pending)
      (fulfilled : after.fulfilled = before.fulfilled)
  | answered (balance : Balance before { responding := 1 } {} after) (made : after.made = before.made)
      (waiting : after.waiting = before.waiting) (pending : after.pending = 0)
      (fulfilled : after.fulfilled = before.fulfilled + before.pending)

theorem Move.kept {before after : RequestTally} (move : Move before after) (one : before.made ≤ 1)
    (kept : before.Kept) :
    after.Kept := by
  cases move with
  | rest balance made waiting pending fulfilled =>
    have same : after = before :=
      RequestTally.ext made (Nat.add_right_cancel balance.registering) (Nat.add_right_cancel balance.sending)
        (Nat.add_right_cancel balance.requested) waiting (Nat.add_right_cancel balance.responding) pending fulfilled
        (Nat.add_right_cancel balance.erasing) (Nat.add_right_cancel balance.cancelling)
        (Nat.add_right_cancel balance.withdrawing)
    rwa [same]
  | taken balance | begun balance | registered balance | sent balance | released balance | erased balance
  | added balance | found balance
  | withdrawn balance | answered balance =>
    obtain ⟨registering, sending, requested, responding, erasing, cancelling, withdrawing⟩ := balance
    obtain ⟨once, token, entry, left, gone, ended, clear⟩ := kept
    simp only [Nat.add_zero] at registering sending requested responding erasing cancelling withdrawing
    constructor <;> omega

end RequestTally

end CpuCom.Messaging.Network
