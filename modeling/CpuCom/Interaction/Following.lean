import Mathlib.Data.List.Basic

/-! The items of a list in view of what comes before them: how many come right after
certain others, and whether each of them meets a condition on all before it. -/

namespace CpuCom.Interaction

variable {α : Type}

/-- The items related to the one before them, the first of them to `last`. -/
def following (related : Option α → α → Bool) : Option α → List α → Nat
  | _, [] => 0
  | last, item :: items => (if related last item then 1 else 0) + following related (some item) items

variable {related : Option α → α → Bool} {last : Option α} {first rest items : List α} {item : α}

theorem following_append :
    following related last (first ++ rest) =
      following related last first + following related (first.getLast?.or last) rest := by
  induction first generalizing last with
  | nil => simp [following]
  | cons item first ih =>
    rw [List.cons_append, following, following, ih, Nat.add_assoc, List.getLast?_cons]
    cases first.getLast? <;> rfl

theorem following_snoc :
    following related last (items ++ [item]) =
      following related last items + if related (items.getLast?.or last) item then 1 else 0 := by
  rw [following_append]
  rfl

theorem following_eq_zero (unrelated : ∀ last, ∀ item ∈ items, related last item = false) :
    following related last items = 0 := by
  induction items generalizing last with
  | nil => rfl
  | cons item items ih =>
    have rest : following related (some item) items = 0 :=
      ih fun other later member => unrelated other later (List.mem_cons_of_mem _ member)
    simp [following, rest, unrelated last item (List.mem_cons_self ..)]

/-- Every item meets the condition on those before it. -/
def Heeding (meets : List α → α → Prop) (items : List α) : Prop :=
  ∀ before item, before ++ [item] <+: items → meets before item

variable {meets : List α → α → Prop}

theorem heeding_nil : Heeding meets ([] : List α) := fun _ _ impossible => by simp at impossible

theorem Heeding.of_prefix (heeding : Heeding meets items) (shorter : first <+: items) : Heeding meets first :=
  fun before item inside => heeding before item (inside.trans shorter)

theorem Heeding.snoc (heeding : Heeding meets items) (met : meets items item) : Heeding meets (items ++ [item]) := by
  intro before other inside
  rcases List.prefix_concat_iff.mp inside with same | earlier
  · obtain ⟨rfl, rfl⟩ := List.append_inj' same rfl |>.imp_right List.singleton_inj.mp
    exact met
  · exact heeding before other earlier

theorem Heeding.latest (heeding : Heeding meets (items ++ [item])) : meets items item :=
  heeding items item List.prefix_rfl

/-- Items for which the condition holds wherever they come. -/
theorem Heeding.append (heeding : Heeding meets items) (always : ∀ item ∈ rest, ∀ before, meets before item) :
    Heeding meets (items ++ rest) := by
  induction rest generalizing items with
  | nil => rwa [List.append_nil]
  | cons item rest ih =>
    rw [List.append_cons]
    apply ih (heeding.snoc (always item (List.mem_cons_self ..) _))
    exact fun other later => always other (List.mem_cons_of_mem _ later)

end CpuCom.Interaction
