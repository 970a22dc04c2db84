import Rtl8831.Lib.Index

/-!
# Counting what lists hold

How often an element occurs after another one has been put in or taken out,
with the difference spelled out as zero or one so that linear arithmetic can
add it up over several lists.
-/

namespace Rtl8831.Lib

open List

variable {α β : Type*} [DecidableEq α] [BEq α] [LawfulBEq α] {l : List α} {a b : α} {i : ℕ}

lemma count_cons_tally (a : α) (l : List α) (b : α) :
    (a :: l).count b = l.count b + if a = b then 1 else 0 := by
  rw [count_cons]
  simp only [beq_iff_eq]

lemma count_concat_tally (l : List α) (a b : α) :
    (l ++ [a]).count b = l.count b + if a = b then 1 else 0 := by
  rw [count_append, count_cons_tally, count_nil, Nat.zero_add]

lemma count_eraseIdx_tally (h : l[i]? = some a) (b : α) :
    l.count b = (l.eraseIdx i).count b + if a = b then 1 else 0 := by
  obtain ⟨hi, rfl⟩ := List.getElem?_eq_some_iff.1 h
  rw [← (getElem_cons_eraseIdx_perm hi).count_eq, count_cons_tally]

lemma count_erase_tally (h : a ∈ l) (b : α) :
    l.count b = (l.erase a).count b + if a = b then 1 else 0 := by
  rw [(perm_cons_erase h).count_eq, count_cons_tally]

variable (f : β → α)

lemma count_map_concat_tally (l : List β) (x : β) (b : α) :
    ((l ++ [x]).map f).count b = (l.map f).count b + if f x = b then 1 else 0 := by
  rw [map_append, map_singleton, count_concat_tally]

lemma count_map_eraseIdx_tally {l : List β} {x : β} (h : l[i]? = some x) (b : α) :
    (l.map f).count b = ((l.eraseIdx i).map f).count b + if f x = b then 1 else 0 := by
  have hmap : (l.map f)[i]? = some (f x) := by rw [getElem?_map, h, Option.map_some]
  rw [count_eraseIdx_tally hmap, eraseIdx_map]

end Rtl8831.Lib
