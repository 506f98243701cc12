import Mathlib.Data.List.Perm.Basic

/-! Items that are taken from a pool, the first one or any other. Whatever is taken, none
is lost and none is doubled, and if it is always the first one they keep their order. -/

namespace CpuCom.Interaction

variable {α β : Type}

/-- The same items each as often, and under the condition in the same order. -/
structure Same (ordered : Prop) (first last : List α) : Prop where
  perm : first.Perm last
  eq : ordered → first = last

variable {ordered stricter : Prop} {first middle last one two : List α}

theorem Same.of_eq (same : first = last) : Same ordered first last := ⟨.of_eq same, fun _ => same⟩

theorem Same.trans (start : Same ordered first middle) (rest : Same ordered middle last) : Same ordered first last :=
  ⟨start.perm.trans rest.perm, fun holds => (start.eq holds).trans (rest.eq holds)⟩

theorem Same.mono (same : Same ordered first last) (implies : stricter → ordered) : Same stricter first last :=
  ⟨same.perm, same.eq ∘ implies⟩

theorem Same.append (start : Same ordered first last) (rest : Same ordered one two) :
    Same ordered (first ++ one) (last ++ two) :=
  ⟨start.perm.append rest.perm, fun holds => by rw [start.eq holds, rest.eq holds]⟩

theorem Same.filterMap (same : Same ordered first last) (read : α → Option β) :
    Same ordered (first.filterMap read) (last.filterMap read) :=
  ⟨same.perm.filterMap read, fun holds => by rw [same.eq holds]⟩

/-- What is taken at a place goes before the others. -/
theorem same_taken {pool : List α} {place : Nat} {item : α} (found : pool[place]? = some item) :
    Same (place = 0) (item :: pool.eraseIdx place) pool := by
  obtain ⟨inside, rfl⟩ := List.getElem?_eq_some_iff.mp found
  refine ⟨List.getElem_cons_eraseIdx_perm inside, ?_⟩
  rintro rfl
  cases pool with
  | nil => exact nomatch found
  | cons first rest => rfl

end CpuCom.Interaction
