import Rtl8831.Lib.Index

/-!
# Tables of buckets

A table is a family of lists.  Its contents up to `n` are the elements of the first `n` buckets,
and a table is sorted when each bucket holds only what belongs into it.
-/

namespace Rtl8831.Lib.Buckets

open Function List

variable {α : Type*}

/-- The elements of the buckets below `n`. -/
def contents (n : ℕ) (table : ℕ → List α) : List α := (range n).flatMap table

variable {n : ℕ} {table : ℕ → List α} {x : α}

lemma mem_contents : x ∈ contents n table ↔ ∃ i < n, x ∈ table i := by
  simp [contents]

@[simp] lemma contents_empty : contents n (fun _ => ([] : List α)) = [] := by
  simp [contents]

lemma contents_filter (p : α → Bool) :
    contents n (fun i => (table i).filter p) = (contents n table).filter p :=
  filter_flatMap.symm

lemma flatMap_update {l : List ℕ} (hl : l.Nodup) {i : ℕ} (hi : i ∈ l) {xs : List α}
    (hxs : xs.Perm (x :: table i)) :
    (l.flatMap (update table i xs)).Perm (x :: l.flatMap table) := by
  induction l with
  | nil => simp at hi
  | cons a l ih =>
    obtain ⟨ha, hl⟩ := nodup_cons.1 hl
    rw [flatMap_cons, flatMap_cons]
    rcases eq_or_ne a i with rfl | hne
    · have hrest : l.flatMap (update table a xs) = l.flatMap table := by
        apply flatMap_congr
        intro b hb
        have hne : b ≠ a := ne_of_mem_of_not_mem hb ha
        rw [update_of_ne hne]
      rw [update_self, hrest, ← cons_append]
      exact hxs.append_right _
    · have hi : i ∈ l := (mem_cons.1 hi).resolve_left hne.symm
      rw [update_of_ne hne]
      exact ((ih hl hi).append_left _).trans perm_middle

lemma contents_update {i : ℕ} (hi : i < n) {xs : List α} (hxs : xs.Perm (x :: table i)) :
    (contents n (update table i xs)).Perm (x :: contents n table) :=
  flatMap_update nodup_range (mem_range.2 hi) hxs

def Sorted (index : α → ℕ) (table : ℕ → List α) : Prop := ∀ i, ∀ x ∈ table i, i = index x

variable {index : α → ℕ}

section

variable (h : Sorted index table)
include h

lemma Sorted.mem_iff (hx : index x < n) :
    x ∈ contents n table ↔ x ∈ table (index x) := by
  rw [mem_contents]
  constructor
  · rintro ⟨i, -, hi⟩
    exact h i x hi ▸ hi
  · intro hi
    exact ⟨_, hx, hi⟩

lemma Sorted.filter (p : α → Bool) :
    Sorted index fun i => (table i).filter p :=
  fun i x hx => h i x (mem_of_mem_filter hx)

lemma Sorted.update {i : ℕ} (hi : index x = i) {xs : List α}
    (hxs : xs.Perm (x :: table i)) : Sorted index (update table i xs) := by
  subst hi
  intro i y hy
  rcases eq_or_ne i (index x) with rfl | hne
  · rw [update_self, hxs.mem_iff, mem_cons] at hy
    rcases hy with rfl | hy
    · rfl
    · exact h _ y hy
  · rw [update_of_ne hne] at hy
    exact h i y hy

lemma Sorted.map {f : α → α} (hf : ∀ x, index (f x) = index x) :
    Sorted index fun i => (table i).map f := by
  intro i y hy
  obtain ⟨x, hx, rfl⟩ := mem_map.1 hy
  exact (h i x hx).trans (hf x).symm

lemma Sorted.filterMap {f : α → Option α}
    (hf : ∀ x y, f x = some y → index y = index x) :
    Sorted index fun i => (table i).filterMap f := by
  intro i y hy
  obtain ⟨x, hx, hxy⟩ := mem_filterMap.1 hy
  exact (h i x hx).trans (hf x y hxy).symm

lemma Sorted.nodup_keys {β : Type*} {key : α → β}
    (hkey : ∀ x y, key x = key y → index x = index y)
    (hone : ∀ i, ((table i).map key).Nodup) : ((contents n table).map key).Nodup := by
  rw [contents, map_flatMap, nodup_flatMap]
  refine ⟨fun i _ => hone i, nodup_range.imp fun {i j} hij => ?_⟩
  intro k hi hj
  obtain ⟨x, hx, rfl⟩ := mem_map.1 hi
  obtain ⟨y, hy, hxy⟩ := mem_map.1 hj
  apply hij
  rw [h i x hx, h j y hy, hkey y x hxy]

lemma Sorted.congr {index' : α → ℕ}
    (heq : ∀ i, ∀ x ∈ table i, index' x = index x) : Sorted index' table :=
  fun i x hx => (h i x hx).trans (heq i x hx).symm

end

end Rtl8831.Lib.Buckets
