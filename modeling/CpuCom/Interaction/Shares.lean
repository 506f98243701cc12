import Mathlib.Data.List.Nodup
import Mathlib.Logic.Function.Basic

/-! Resources that are shared. Every holder holds one resource at most, and how often
a resource is held is counted over the list of the holders. -/

namespace CpuCom.Interaction

variable {π κ : Type} [DecidableEq κ]

/-- What one holder adds to the count. -/
def share (held : Option κ) (resource : κ) : Nat := if held = some resource then 1 else 0

def shares (holds : π → Option κ) (holders : List π) (resource : κ) : Nat :=
  holders.countP (holds · = some resource)

variable {holds : π → Option κ} {holders : List π} {holder : π} {held : Option κ} {resource : κ}

@[simp] theorem share_none : share none resource = 0 := rfl

@[simp] theorem share_self : share (some resource) resource = 1 := if_pos rfl

theorem share_of_ne (different : held ≠ some resource) : share held resource = 0 := if_neg different

theorem shares_cons : shares holds (holder :: holders) resource =
    shares holds holders resource + share (holds holder) resource := by
  rw [shares, List.countP_cons, share]
  simp only [decide_eq_true_eq]
  rfl

theorem shares_congr {others : π → Option κ} (same : ∀ holder ∈ holders, holds holder = others holder) :
    shares holds holders resource = shares others holders resource :=
  List.countP_congr fun holder member => by rw [same holder member]

theorem shares_eq_zero (unheld : ∀ holder ∈ holders, holds holder ≠ some resource) :
    shares holds holders resource = 0 :=
  List.countP_eq_zero.mpr fun holder member => by simpa using unheld holder member

theorem shares_eq_length (all : ∀ holder ∈ holders, holds holder = some resource) :
    shares holds holders resource = holders.length :=
  List.countP_eq_length.mpr fun holder member => by simpa using all holder member

variable [DecidableEq π]

theorem shares_erase (member : holder ∈ holders) :
    shares holds (holders.erase holder) resource + share (holds holder) resource = shares holds holders resource := by
  rw [← shares_cons]
  exact (List.perm_cons_erase member).symm.countP_eq _

theorem share_le (member : holder ∈ holders) : share (holds holder) resource ≤ shares holds holders resource := by
  rw [← shares_erase member]
  exact Nat.le_add_left ..

/-- A new holder. -/
theorem shares_new (new : holder ∉ holders) :
    shares (Function.update holds holder held) (holder :: holders) resource =
      shares holds holders resource + share held resource := by
  rw [shares_cons, Function.update_self]
  congr 1
  exact shares_congr fun other here => Function.update_of_ne (ne_of_mem_of_not_mem here new) ..

/-- A holder that holds something else from now on. -/
theorem shares_update (unique : holders.Nodup) (member : holder ∈ holders) :
    shares (Function.update holds holder held) holders resource + share (holds holder) resource =
      shares holds holders resource + share held resource := by
  have others : shares (Function.update holds holder held) (holders.erase holder) resource =
      shares holds (holders.erase holder) resource :=
    shares_congr fun other here => Function.update_of_ne (ne_of_mem_of_not_mem here unique.not_mem_erase) ..
  rw [← shares_erase member, ← @shares_erase _ _ _ holds _ _ resource _ member, others, Function.update_self]
  exact Nat.add_right_comm ..

end CpuCom.Interaction
