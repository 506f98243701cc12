import CpuCom.Interaction.Outcome
import CpuCom.Interaction.Shares
import CpuCom.Service.GlobalReference

/-! The handles of a global reference. The live handles that hold a counter are what it
counts and the reference that was made with it is deleted once, when nobody holds it any
more, as long as the counter does not wrap around. -/

namespace CpuCom.Service.References
open Interaction

variable {H L V D : Type}

def holds (references : References H L V D) (this : H) : Option Nat := (references.handles this).counter

def holders (references : References H L V D) (counter : Nat) : Nat := shares references.holds references.live counter

/-- What the deleter of a reference is to be called with. The reference has the number
of the counter that was made with it. -/
def deletion (reference : Reference L V D) (counter : Nat) : Deletion V D :=
  ⟨some reference.deleter, some reference.vm, some counter⟩

/-- A handle that holds a counter also has the reference, its machine and its deleter. -/
def Complete (references : References H L V D) (handle : GlobalReference V D) : Prop :=
  ∀ counter ∈ handle.counter, ∃ reference, references.made[counter]? = some reference ∧
    handle = ⟨some reference.vm, some reference.deleter, some counter, some counter⟩

/-- The counters and the deleters, if this is how often the counters are held. -/
structure Accounted (held : Nat → Nat) (references : References H L V D) : Prop where
  counted : ∀ counter refs, references.counters.get counter = some refs → refs.toNat = held counter
  freed : ∀ counter, references.counters.get counter = none ↔ held counter = 0
  deletes : ∀ counter reference, references.made[counter]? = some reference →
    references.deleted.filter (·.value = some counter) = if held counter = 0 then [deletion reference counter] else []
  known : ∀ deletion ∈ references.deleted, ∃ counter < references.made.length, deletion.value = some counter

structure Exact (references : References H L V D) : Prop extends Accounted references.holders references where
  complete : ∀ this ∈ references.live, references.Complete (references.handles this)

/-- Every counter can count its handles. -/
def Fits (references : References H L V D) : Prop := ∀ counter, references.holders counter < UInt32.size

/-- What the handles are like, without what the counters count. -/
structure Tidy (references : References H L V D) : Prop where
  unique : references.live.Nodup
  complete : ∀ this ∈ references.live, references.Complete (references.handles this)
  paired : references.counters.next = references.made.length

structure Sound (references : References H L V D) : Prop extends Tidy references where
  accounted : Accounted references.holders references

variable {references : References H L V D} {held : Nat → Nat} {handle : GlobalReference V D} {this other : H}
  {counter : Nat}

theorem Sound.exact (sound : Sound references) : Exact references := ⟨sound.accounted, sound.complete⟩

theorem Exact.fits (exactly : Exact references) : Fits references := by
  intro counter
  cases found : references.counters.get counter with
  | none =>
    rw [(exactly.freed counter).mp found]
    decide
  | some refs =>
    rw [← exactly.counted counter refs found]
    exact refs.toNat_lt

theorem Accounted.handled (accounted : Accounted held references) {now : Nat → Nat} (same : now = held)
    {handles : H → GlobalReference V D} {live : List H} :
    Accounted now { references with handles := handles, live := live } := by
  subst same
  exact ⟨accounted.counted, accounted.freed, accounted.deletes, accounted.known⟩

theorem Accounted.allocated (accounted : Accounted held references) (holding : 0 < held counter) :
    ∃ refs, references.counters.get counter = some refs := by
  refine Option.ne_none_iff_exists'.mp fun missing => ?_
  exact Nat.ne_of_gt holding ((accounted.freed counter).mp missing)

theorem Accounted.recounted (accounted : Accounted held references) {now : Nat → Nat} {refs : UInt32}
    (others : ∀ other, other ≠ counter → now other = held other) (holding : 0 < held counter)
    (counted : refs.toNat = now counter) (still : 0 < now counter) :
    Accounted now { references with counters := references.counters.modify counter fun _ => some refs } := by
  refine ⟨fun other found here => ?_, fun other => ?_, fun other reference made => ?_, accounted.known⟩
  · by_cases same : other = counter
    · subst same
      rw [Heap.get_modify, Option.some.injEq] at here
      rw [← here, counted]
    · rw [Heap.get_modify_ne same] at here
      rw [others other same, accounted.counted other found here]
  · by_cases same : other = counter
    · subst same
      simp [Nat.ne_of_gt still]
    · rw [Heap.get_modify_ne same, others other same, accounted.freed]
  · rw [accounted.deletes other reference made]
    by_cases same : other = counter
    · subst same
      rw [if_neg (Nat.ne_of_gt holding), if_neg (Nat.ne_of_gt still)]
    · rw [others other same]

/-- A counter that nobody holds any more is deleted after its reference. -/
theorem Accounted.dropped (accounted : Accounted held references) {now : Nat → Nat} {reference : Reference L V D}
    (others : ∀ other, other ≠ counter → now other = held other) (holding : 0 < held counter)
    (gone : now counter = 0) (made : references.made[counter]? = some reference) :
    Accounted now { references with
      deleted := references.deleted ++ [deletion reference counter]
      counters := references.counters.modify counter fun _ => none } := by
  refine ⟨fun other found here => ?_, fun other => ?_, fun other found there => ?_, fun call member => ?_⟩
  · by_cases same : other = counter
    · subst same
      rw [Heap.get_modify] at here
      cases here
    · rw [Heap.get_modify_ne same] at here
      rw [others other same, accounted.counted other found here]
  · by_cases same : other = counter
    · subst same
      simp [gone]
    · rw [Heap.get_modify_ne same, others other same, accounted.freed]
  · have before := accounted.deletes other found there
    rw [List.filter_append, before]
    by_cases same : other = counter
    · subst same
      obtain rfl := Option.some.inj (made.symm.trans there)
      simp [Nat.ne_of_gt holding, gone, deletion]
    · rw [others other same]
      simp [deletion, Ne.symm same]
  · rcases List.mem_append.mp member with before | now
    · exact accounted.known call before
    · obtain rfl := List.mem_singleton.mp now
      exact ⟨counter, (List.getElem?_eq_some_iff.mp made).1, rfl⟩

theorem addReference_ok {refs : UInt32} (found : references.counters.get counter = some refs) :
    references.addReference counter =
      .ok { references with counters := references.counters.modify counter fun _ => some (refs + 1) } := by
  rw [addReference, found]

theorem Accounted.add (accounted : Accounted held references) (holding : ∀ counter ∈ handle.counter, 0 < held counter) :
    ∃ counters, references.add handle = .ok { references with counters := counters } ∧
      counters.next = references.counters.next ∧
      ((∀ counter, held counter + share handle.counter counter < UInt32.size) →
        Accounted (fun counter => held counter + share handle.counter counter)
          { references with counters := counters }) := by
  rw [References.add]
  cases mine : handle.counter with
  | none => exact ⟨references.counters, rfl, rfl, fun _ => accounted⟩
  | some counter =>
    have positive := holding counter mine
    obtain ⟨refs, found⟩ := accounted.allocated positive
    refine ⟨references.counters.modify counter fun _ => some (refs + 1), ?_, rfl, fun fits => ?_⟩
    · exact addReference_ok found
    · have below := fits counter
      rw [share_self] at below
      refine accounted.recounted (fun other different => ?_) positive ?_ ?_
      · rw [share_of_ne (by simpa using different.symm), Nat.add_zero]
      · rw [share_self, UInt32.toNat_add, accounted.counted counter refs found]
        exact Nat.mod_eq_of_lt below
      · exact Nat.add_pos_left positive _

/-- A handle that gives up its counter takes itself off, and deletes the reference if it
was the last one. -/
theorem Accounted.release (accounted : Accounted held references) (complete : references.Complete handle)
    (holding : ∀ counter ∈ handle.counter, 0 < held counter) :
    ∃ counters deleted, references.release handle =
        .ok { references with counters := counters, deleted := deleted } ∧
      counters.next = references.counters.next ∧
      Accounted (fun counter => held counter - share handle.counter counter)
        { references with counters := counters, deleted := deleted } := by
  rw [References.release]
  cases mine : handle.counter with
  | none => exact ⟨references.counters, references.deleted, rfl, rfl, accounted⟩
  | some counter =>
    have positive := holding counter mine
    obtain ⟨refs, found⟩ := accounted.allocated positive
    obtain ⟨reference, made, whole⟩ := complete counter mine
    have counted := accounted.counted counter refs found
    have less : (refs - 1).toNat = held counter - 1 := by
      rw [UInt32.toNat_sub_of_le _ _ (UInt32.le_iff_toNat_le.mpr (counted ▸ positive)), counted]
      rfl
    have others : ∀ other, other ≠ counter → held other - share (some counter) other = held other := by
      intro other different
      rw [share_of_ne (by simpa using different.symm), Nat.sub_zero]
    dsimp only
    rw [releaseReference, found]
    by_cases last : refs - 1 = 0
    · refine ⟨_, _, if_pos last, rfl, ?_⟩
      rw [Heap.modify_modify, whole]
      refine accounted.dropped others positive ?_ made
      rw [share_self, ← less, last]
      rfl
    · refine ⟨_, _, if_neg last, rfl, accounted.recounted others positive ?_ ?_⟩
      · rw [share_self, less]
      · rw [share_self, ← less]
        exact Nat.pos_of_ne_zero fun zero => last (UInt32.toNat_inj.mp zero)

theorem complete_of_none (nothing : handle.counter = none) : references.Complete handle := by
  intro counter holding
  rw [nothing] at holding
  cases holding

theorem Tidy.unheld (tidy : Tidy references) : references.holders references.made.length = 0 := by
  refine shares_eq_zero fun this here holding => ?_
  obtain ⟨reference, made, -⟩ := tidy.complete this here _ holding
  exact Nat.lt_irrefl _ (List.getElem?_eq_some_iff.mp made).1

theorem Tidy.counted (tidy : Tidy references) {counters : Heap (Option UInt32)} {deleted : List (Deletion V D)}
    (same : counters.next = references.counters.next) :
    Tidy { references with counters := counters, deleted := deleted } :=
  ⟨tidy.unique, tidy.complete, same.trans tidy.paired⟩

/-- A reference that is made leaves the handles of the others as they are. -/
theorem Tidy.made (tidy : Tidy references) (reference : Reference L V D) {counters : Heap (Option UInt32)}
    (next : counters.next = references.counters.next + 1) :
    Tidy { references with made := references.made ++ [reference], counters := counters } := by
  refine ⟨tidy.unique, fun this here counter holding => ?_, ?_⟩
  · obtain ⟨reference, before, whole⟩ := tidy.complete this here counter holding
    exact ⟨reference, (List.getElem?_append_left (List.getElem?_eq_some_iff.mp before).1).trans before, whole⟩
  · rw [next, tidy.paired, List.length_append, List.length_singleton]

/-- A new reference is held by one handle, and its counter counts it. -/
theorem Sound.referred (sound : Sound references) (reference : Reference L V D) :
    Accounted (fun counter => references.holders counter + share (some references.made.length) counter)
      { references with
        made := references.made ++ [reference]
        counters := (references.counters.alloc (some 0)).2.modify references.counters.next fun _ => some (0 + 1) } := by
  rw [sound.paired]
  have unheld := sound.unheld
  have older : ∀ {counter}, counter ≠ references.made.length →
      ((references.counters.alloc (some 0)).2.modify references.made.length fun _ => some (0 + 1)).get counter =
        references.counters.get counter ∧ share (some references.made.length) counter = 0 := by
    intro counter different
    refine ⟨?_, share_of_ne (by simpa using different.symm)⟩
    rw [Heap.get_modify_ne different, Heap.get_alloc_ne (sound.paired ▸ different)]
  obtain ⟨counted, freed, deletes, known⟩ := sound.accounted
  refine ⟨fun counter refs found => ?_, fun counter => ?_, fun counter other made => ?_, fun deletion member => ?_⟩
  · by_cases new : counter = references.made.length
    · subst new
      rw [Heap.get_modify, Option.some.injEq] at found
      rw [← found, unheld, share_self]
      rfl
    · rw [(older new).1] at found
      rw [(older new).2, counted counter refs found, Nat.add_zero]
  · by_cases new : counter = references.made.length
    · subst new
      rw [Heap.get_modify, unheld, share_self]
      simp
    · rw [(older new).1, (older new).2, Nat.add_zero, freed]
  · by_cases new : counter = references.made.length
    · subst new
      rw [unheld, share_self, if_neg (by decide)]
      refine List.filter_eq_nil_iff.mpr fun deletion member => ?_
      obtain ⟨before, less, value⟩ := known deletion member
      simp [value, Nat.ne_of_lt less]
    · have before : counter < references.made.length := by
        have inside := (List.getElem?_eq_some_iff.mp made).1
        rw [List.length_append, List.length_singleton] at inside
        exact Nat.lt_of_le_of_ne (Nat.le_of_lt_succ inside) new
      rw [List.getElem?_append_left before] at made
      rw [(older new).2, Nat.add_zero, deletes counter other made]
  · obtain ⟨counter, less, value⟩ := known deletion member
    refine ⟨counter, ?_, value⟩
    rw [List.length_append]
    exact Nat.lt_add_right _ less

theorem initial_sound : Sound (initial : References H L V D) where
  unique := .nil
  complete := by simp [initial]
  paired := rfl
  accounted := ⟨by simp [initial, Heap.empty, Heap.get], fun counter => iff_of_true rfl rfl, by simp [initial],
    by simp [initial]⟩

variable [DecidableEq H]

theorem handles_set : (references.set this handle).handles = Function.update references.handles this handle := rfl

theorem holds_set : (references.set this handle).holds = Function.update references.holds this handle.counter := by
  funext other
  rw [holds, handles_set, Function.update_apply, Function.update_apply]
  split <;> rfl

/-- A handle that changes is taken off the counter that it held and added to the one that it holds now. -/
theorem holders_set (unique : references.live.Nodup) (here : this ∈ references.live) :
    (references.set this handle).holders counter =
      references.holders counter - share (references.holds this) counter + share handle.counter counter := by
  have balance := @shares_update _ _ _ references.holds _ _ handle.counter counter _ unique here
  have least := @share_le _ _ _ references.holds _ _ counter _ here
  rw [← holds_set] at balance
  change (references.set this handle).holders counter + _ = references.holders counter + _ at balance
  change _ ≤ references.holders counter at least
  omega

theorem holders_given (unique : references.live.Nodup) (here : this ∈ references.live)
    (nothing : handle.counter = none) : (references.set this handle).holders counter =
      references.holders counter - share (references.holds this) counter := by
  rw [holders_set unique here, nothing, share_none, Nat.add_zero]

theorem holders_start (new : this ∉ references.live) :
    (references.start this handle).holders counter = references.holders counter + share handle.counter counter := by
  change shares (references.set this handle).holds _ _ = _
  rw [holds_set]
  exact shares_new new

theorem holding_of_mem (here : this ∈ references.live) (holding : references.holds this = some counter) :
    0 < references.holders counter := by
  have least := @share_le _ _ _ references.holds _ _ counter _ here
  rw [holding, share_self] at least
  exact least

theorem Sound.released (sound : Sound references) (here : this ∈ references.live) :
    ∃ counters deleted, references.release (references.handles this) =
        .ok { references with counters := counters, deleted := deleted } ∧
      counters.next = references.counters.next ∧
      Accounted (fun counter => references.holders counter - share (references.holds this) counter)
        { references with counters := counters, deleted := deleted } :=
  sound.accounted.release (sound.complete this here) fun _ => holding_of_mem here

theorem Tidy.set (tidy : Tidy references) (complete : references.Complete handle) :
    Tidy (references.set this handle) := by
  refine ⟨tidy.unique, fun other here => ?_, tidy.paired⟩
  rw [handles_set, Function.update_apply]
  split
  · exact complete
  · exact tidy.complete other here

theorem Tidy.start (tidy : Tidy references) (new : this ∉ references.live) (complete : references.Complete handle) :
    Tidy (references.start this handle) := by
  refine ⟨List.nodup_cons.mpr ⟨new, tidy.unique⟩, fun other here => ?_, tidy.paired⟩
  change references.Complete (Function.update references.handles this handle other)
  rw [Function.update_apply]
  split
  · exact complete
  · rename_i different
    exact tidy.complete other ((List.mem_cons.mp here).resolve_left different)

theorem unused_new : Outcome (fun _ => this ∉ references.live) (· = .misuse) (references.unused this) := by
  rw [unused]
  split
  · rfl
  · assumption

theorem alive_live : Outcome (fun _ => this ∈ references.live) (· = .misuse) (references.alive this) := by
  rw [alive]
  split
  · assumption
  · rfl

/-- The handle that another one is read from is as it was, even if it is the one that was set. -/
theorem handles_set_read :
    (references.set this (references.handles other)).handles other = references.handles other := by
  rw [handles_set, Function.update_apply]
  split
  · rfl
  · rfl

theorem Sound.construct (sound : Sound references) :
    Outcome (fun next => Fits next → Sound next) (· = .misuse) (references.construct this) := by
  rw [References.construct]
  refine unused_new.bind fun _ new fits => ⟨sound.start new (complete_of_none rfl), ?_⟩
  exact sound.accounted.handled (funext fun counter => holders_start new)

theorem Sound.constructFrom (sound : Sound references) {localRef : L} {vm : V} {deleter : D} :
    Outcome (fun next => Fits next → Sound next) (· = .misuse) (references.constructFrom this localRef vm deleter) := by
  rw [References.constructFrom]
  refine unused_new.bind fun _ new => ?_
  let reference : Reference L V D := ⟨localRef, vm, deleter⟩
  let made : References H L V D := { references with
    made := references.made ++ [reference]
    counters := (references.counters.alloc (some 0)).2 }
  let handle : GlobalReference V D :=
    ⟨some vm, some deleter, some references.made.length, some references.counters.next⟩
  have tidy : Tidy made := sound.made reference rfl
  have complete : made.Complete handle := by
    intro counter holding
    obtain rfl := Option.some.inj (holding.symm.trans (congrArg some sound.paired))
    exact ⟨reference, by simp [made], by simp [handle, reference, sound.paired]⟩
  have found : (made.start this handle).counters.get references.counters.next = some 0 := Heap.get_alloc
  change Outcome _ _ ((made.start this handle).addReference references.counters.next)
  rw [addReference_ok found]
  intro fits
  refine ⟨(tidy.start new complete).counted rfl, (sound.referred reference).handled (funext fun counter => ?_)⟩
  rw [← sound.paired]
  exact holders_start new

theorem Sound.copyConstruct (sound : Sound references) :
    Outcome (fun next => Fits next → Sound next) (· = .misuse) (references.copyConstruct this other) := by
  rw [References.copyConstruct]
  refine unused_new.bind fun _ new => alive_live.bind fun _ there => ?_
  have started : Accounted references.holders (references.start this (references.handles other)) :=
    sound.accounted.handled rfl
  obtain ⟨counters, added, paired, accounted⟩ := started.add fun counter holding => holding_of_mem there holding
  have count : (references.start this (references.handles other)).holders =
      fun counter => references.holders counter + share (references.holds other) counter :=
    funext fun counter => holders_start new
  dsimp only
  rw [added]
  intro fits
  refine ⟨(sound.start new (sound.complete other there)).counted paired, ?_⟩
  exact (accounted fun counter => congrFun count counter ▸ fits counter).handled count

theorem Sound.moveConstruct (sound : Sound references) :
    Outcome (fun next => Fits next → Sound next) (· = .misuse) (references.moveConstruct this other) := by
  rw [References.moveConstruct]
  refine unused_new.bind fun _ new => alive_live.bind fun _ there fits => ?_
  have started := sound.start new (sound.complete other there)
  refine ⟨started.set (complete_of_none rfl), sound.accounted.handled (funext fun counter => ?_)⟩
  rw [holders_given started.unique (List.mem_cons_of_mem _ there) rfl, holders_start new]
  change _ - share ((references.set this (references.handles other)).handles other).counter counter = _
  rw [handles_set_read]
  exact Nat.add_sub_cancel ..

theorem Sound.copyAssign (sound : Sound references) :
    Outcome (fun next => Fits next → Sound next) (· = .misuse) (references.copyAssign this other) := by
  rw [References.copyAssign]
  refine alive_live.bind fun _ here => alive_live.bind fun _ there => ?_
  split
  · rename_i different
    obtain ⟨counters, deleted, released, paired, accounted⟩ := sound.released here
    rw [released]
    have changed : Accounted (fun counter => references.holders counter - share (references.holds this) counter)
        ({ references with counters := counters, deleted := deleted }.set this (references.handles other)) :=
      accounted.handled rfl
    have still : ∀ counter ∈ references.holds other,
        0 < references.holders counter - share (references.holds this) counter := by
      intro counter holding
      rw [← @holders_given _ _ _ _ references .empty this counter _ sound.unique here rfl]
      refine holding_of_mem there ?_
      rw [holds_set, Function.update_of_ne (Ne.symm different)]
      exact holding
    obtain ⟨recounted, added, next, accounted⟩ := changed.add still
    have count : (references.set this (references.handles other)).holders = fun counter =>
        references.holders counter - share (references.holds this) counter + share (references.holds other) counter :=
      funext fun counter => holders_set sound.unique here
    change Outcome _ _ (add _ _)
    rw [added]
    intro fits
    have tidy : Tidy (references.set this (references.handles other)) := sound.set (sound.complete other there)
    exact ⟨tidy.counted (next.trans paired),
      (accounted fun counter => congrFun count counter ▸ fits counter).handled count⟩
  · exact fun _ => sound

theorem Sound.moveAssign (sound : Sound references) :
    Outcome (fun next => Fits next → Sound next) (· = .misuse) (references.moveAssign this other) := by
  rw [References.moveAssign]
  refine alive_live.bind fun _ here => alive_live.bind fun _ there => ?_
  obtain ⟨counters, deleted, released, paired, accounted⟩ := sound.released here
  rw [released]
  intro fits
  let changed := references.set this (references.handles other)
  have tidy : Tidy changed := sound.set (sound.complete other there)
  refine ⟨(tidy.set (complete_of_none rfl)).counted paired, accounted.handled (funext fun counter => ?_)⟩
  change (changed.set other (changed.handles other).moved).holders counter = _
  rw [holders_given tidy.unique there rfl, holders_set sound.unique here]
  change _ - share (changed.handles other).counter counter = _
  rw [handles_set_read]
  exact Nat.add_sub_cancel ..

theorem Sound.destruct (sound : Sound references) :
    Outcome (fun next => Fits next → Sound next) (· = .misuse) (references.destruct this) := by
  rw [References.destruct]
  refine alive_live.bind fun _ here => ?_
  obtain ⟨counters, deleted, released, paired, accounted⟩ := sound.released here
  rw [released]
  intro fits
  refine ⟨⟨sound.unique.erase this, fun other member => sound.complete other (List.mem_of_mem_erase member),
    paired.trans sound.paired⟩, accounted.handled (funext fun counter => ?_)⟩
  exact Nat.eq_sub_of_add_eq (shares_erase here)

theorem Sound.step (sound : Sound references) (operation : Operation H L V D) :
    Outcome (fun next => Fits next → Sound next) (· = .misuse) (references.step operation) := by
  cases operation with
  | construct this => exact sound.construct
  | constructFrom this localRef vm deleter => exact sound.constructFrom
  | copyConstruct this other => exact sound.copyConstruct
  | moveConstruct this other => exact sound.moveConstruct
  | copyAssign this other => exact sound.copyAssign
  | moveAssign this other => exact sound.moveAssign
  | destruct this => exact sound.destruct

/-- The handles are exact all the time if and only if no counter is ever held more
often than it can count. -/
theorem exact_iff_fits (operations : List (Operation H L V D)) :
    Throughout step Exact (· = .misuse) (initial : References H L V D) operations ↔
      Throughout step Fits (fun _ => True) (initial : References H L V D) operations := by
  constructor
  · intro throughout
    exact throughout.imp (fun _ exactly => exactly.fits) fun _ _ => trivial
  · intro fits
    exact (fits.carry initial_sound fun _ operation sound => sound.step operation).imp (fun _ sound => sound.exact)
      fun _ allowed => allowed

def copies (count : Nat) : List (Operation Nat Unit Unit Unit) :=
  .constructFrom 0 () () () :: (List.range count).map fun copy => .copyConstruct (copy + 1) 0

theorem copies_alive (count : Nat) : ∃ last : References Nat Unit Unit Unit,
    (copies count).foldlM step initial = .ok last ∧ last.live = (List.range (count + 1)).reverse ∧
      (∀ this ∈ last.live, last.holds this = some 0) ∧ ∃ refs, last.counters.get 0 = some refs := by
  induction count with
  | zero => exact ⟨_, rfl, rfl, by simp [holds, start, set, initial, Heap.empty], _, rfl⟩
  | succ count ih =>
    obtain ⟨before, ran, live, holding, refs, found⟩ := ih
    have new : count + 1 ∉ before.live := by simp [live]
    have here : 0 ∈ before.live := by simp [live]
    have mine : (before.handles 0).counter = some 0 := holding 0 here
    let next : References Nat Unit Unit Unit := { before.start (count + 1) (before.handles 0) with
      counters := before.counters.modify 0 fun _ => some (refs + 1) }
    have stepped : before.step (.copyConstruct (count + 1) 0) = .ok next := by
      rw [step, copyConstruct, unused, if_neg new, alive, if_pos here]
      dsimp only [bind, Except.bind]
      rw [add, mine]
      exact addReference_ok found
    refine ⟨next, ?_, ?_, fun this member => ?_, refs + 1, ?_⟩
    · rw [copies, List.range_succ, List.map_append, ← List.cons_append, List.foldlM_append]
      change (copies count).foldlM step initial >>= _ = _
      rw [ran]
      exact (bind_pure _).trans stepped
    · rw [List.range_succ, List.reverse_append, ← live]
      rfl
    · change (before.set (count + 1) (before.handles 0)).holds this = some 0
      rw [holds_set, Function.update_apply]
      split
      · exact mine
      · rename_i different
        exact holding this ((List.mem_cons.mp member).resolve_left different)
    · change (before.counters.modify 0 fun _ => some (refs + 1)).get 0 = _
      rw [Heap.get_modify]

/-- The last copy makes the counter start again. -/
theorem references_wrap : ¬ Throughout step Exact (· = .misuse) (initial : References Nat Unit Unit Unit)
    (copies (UInt32.size - 1)) := by
  intro throughout
  obtain ⟨last, ran, live, holding, -⟩ := copies_alive (UInt32.size - 1)
  have fits := (throughout.last ran).fits 0
  rw [holders, shares_eq_length holding, live, List.length_reverse, List.length_range] at fits
  revert fits
  decide

end CpuCom.Service.References
