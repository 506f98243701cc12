/-! Texts of records. A separator stands between two of them, and one may end the text. -/

namespace CpuCom.Interaction

variable {α : Type} [DecidableEq α]

def records (separator : α) (text : List α) : List (List α) :=
  if (text.splitOn separator).getLast? = some [] then (text.splitOn separator).dropLast else text.splitOn separator

variable {separator : α} {text first rest : List α}

@[simp] theorem records_nil : records separator [] = [] := rfl

theorem records_last (present : text ≠ []) (absent : separator ∉ text) : records separator text = [text] := by
  rw [records, List.splitOn_eq_singleton absent, if_neg]
  simpa using present

/-- The first record, and those after the separator. -/
theorem records_append (absent : separator ∉ first) :
    records separator (first ++ separator :: rest) = first :: records separator rest := by
  have others := List.splitOn_ne_nil separator rest
  rw [records, records, List.splitOn_append_cons_self_of_not_mem absent, List.getLast?_cons_of_ne_nil others,
    List.dropLast_cons_of_ne_nil others]
  split
  · rfl
  · rfl

/-- A text is empty, or its last record, or a record before a text. -/
theorem records_induction {motive : List α → Prop} (text : List α) (nil : motive [])
    (last : ∀ text, text ≠ [] → separator ∉ text → motive text)
    (append : ∀ first rest, separator ∉ first → motive rest → motive (first ++ separator :: rest)) : motive text := by
  by_cases ended : separator ∈ text
  · obtain ⟨first, rest, rfl, absent⟩ := List.eq_append_cons_of_mem ended
    exact append first rest absent (records_induction rest nil last append)
  · by_cases empty : text = []
    · exact empty ▸ nil
    · exact last text empty ended
termination_by text.length
decreasing_by simp only [*, List.length_append, List.length_cons]; omega

/-- Texts with a separator between them. -/
def joined (separator : α) (texts : List (List α)) : List α := (texts.flatMap (· ++ [separator])).dropLast

omit [DecidableEq α] in
theorem joined_cons {texts : List (List α)} (others : texts ≠ []) :
    joined separator (first :: texts) = first ++ separator :: joined separator texts := by
  have present : texts.flatMap (· ++ [separator]) ≠ [] := by
    obtain ⟨other, rest, rfl⟩ := List.exists_cons_of_ne_nil others
    simp
  rw [joined, joined, List.flatMap_cons, List.dropLast_append_of_ne_nil present, List.append_assoc,
    List.singleton_append]

/-- Records that have been joined are found again, but for a last one that is empty. -/
theorem records_joined {texts : List (List α)} (absent : ∀ text ∈ texts, separator ∉ text)
    (last : texts.getLast? ≠ some []) : records separator (joined separator texts) = texts := by
  induction texts with
  | nil => rfl
  | cons first rest ih =>
    obtain ⟨now, later⟩ := List.forall_mem_cons.mp absent
    cases rest with
    | nil =>
      have whole : joined separator [first] = first := by simp [joined]
      rw [whole, records_last (by simpa using last) now]
    | cons second rest =>
      rw [joined_cons (List.cons_ne_nil _ _), records_append now, ih later]
      rwa [List.getLast?_cons_cons] at last

/-- An empty text at the end is lost. -/
theorem records_joined_nil {texts : List (List α)} (absent : ∀ text ∈ texts, separator ∉ text)
    (last : texts.getLast? ≠ some []) (present : texts ≠ []) :
    records separator (joined separator (texts ++ [[]])) = texts := by
  induction texts with
  | nil => exact absurd rfl present
  | cons first rest ih =>
    obtain ⟨now, later⟩ := List.forall_mem_cons.mp absent
    rw [List.cons_append, joined_cons (by simp), records_append now]
    cases rest with
    | nil => rfl
    | cons second rest =>
      rw [ih later (by rwa [List.getLast?_cons_cons] at last) (List.cons_ne_nil _ _)]

end CpuCom.Interaction
