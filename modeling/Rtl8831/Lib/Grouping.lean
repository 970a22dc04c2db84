import Rtl8831.Lib.Index

/-!
# Grouping by insertion

A list is grouped by a key if elements with one key follow each other, the keys
in the order in which they first appear.  Such a list is built by putting every
element behind the last one with its key, or at the end.
-/

namespace Rtl8831.Lib

open List

variable {α κ : Type*}

/-- Puts `x` behind the first element that meets `p`; without one it is lost. -/
def insertAfter (p : α → Bool) (x : α) : List α → List α
  | [] => []
  | y :: ys => if p y then y :: x :: ys else y :: insertAfter p x ys

lemma insertAfter_append {p : α → Bool} {x y : α} {pre post : List α}
    (hpre : ∀ z ∈ pre, p z = false) (hy : p y = true) :
    insertAfter p x (pre ++ y :: post) = pre ++ y :: x :: post := by
  induction pre with
  | nil => rw [nil_append, insertAfter, if_pos hy, nil_append]
  | cons z pre ih =>
    have hz := hpre z mem_cons_self
    rw [cons_append, insertAfter, hz, ih fun w hw => hpre w (mem_cons_of_mem z hw)]
    rfl

variable [DecidableEq κ]

def firsts (ks : List κ) : List κ := ks.reverse.dedup.reverse

variable {ks : List κ} {xs : List α} {k : κ} {x : α}

lemma mem_firsts : k ∈ firsts ks ↔ k ∈ ks := by
  rw [firsts, mem_reverse, mem_dedup, mem_reverse]

lemma nodup_firsts (ks : List κ) : (firsts ks).Nodup :=
  nodup_reverse.mpr (nodup_dedup _)

lemma firsts_concat_of_mem (hk : k ∈ ks) :
    firsts (ks ++ [k]) = firsts ks := by
  rw [firsts, firsts, reverse_append, reverse_singleton, singleton_append,
    dedup_cons_of_mem (mem_reverse.mpr hk)]

lemma firsts_concat_of_notMem (hk : k ∉ ks) :
    firsts (ks ++ [k]) = firsts ks ++ [k] := by
  rw [firsts, firsts, reverse_append, reverse_singleton, singleton_append,
    dedup_cons_of_notMem (fun hmem => hk (mem_reverse.mp hmem)), reverse_cons]

variable (key : α → κ)

def grouped (xs : List α) : List α :=
  (firsts (xs.map key)).flatMap fun k => xs.filter fun x => key x = k

variable {key}

lemma filter_concat_ne {k : κ} (hk : k ≠ key x) :
    ((xs ++ [x]).filter fun y => key y = k) = xs.filter fun y => key y = k := by
  have hx : ([x].filter fun y => key y = k) = [] := by
    rw [filter_eq_nil_iff]
    intro y hy
    rw [mem_singleton.mp hy, decide_eq_true_eq]
    exact hk.symm
  rw [filter_append, hx, append_nil]

lemma filter_concat_self (xs : List α) (x : α) :
    ((xs ++ [x]).filter fun y => key y = key x) = (xs.filter fun y => key y = key x) ++ [x] := by
  have hx : ([x].filter fun y => key y = key x) = [x] :=
    filter_eq_self.mpr fun y hy => by rw [mem_singleton.mp hy, decide_eq_true_eq]
  rw [filter_append, hx]

lemma flatMap_concat_ne (hks : key x ∉ ks) :
    (ks.flatMap fun k => (xs ++ [x]).filter fun y => key y = k) =
      ks.flatMap fun k => xs.filter fun y => key y = k := by
  apply flatMap_congr
  intro k hk
  apply filter_concat_ne
  rintro rfl
  exact hks hk

lemma grouped_concat_new (hx : key x ∉ xs.map key) :
    grouped key (xs ++ [x]) = grouped key xs ++ [x] := by
  have hnone : (xs.filter fun y => key y = key x) = [] := by
    rw [filter_eq_nil_iff]
    intro y hy heq
    exact hx (decide_eq_true_eq.mp heq ▸ mem_map_of_mem hy)
  unfold grouped
  rw [map_append, map_singleton, firsts_concat_of_notMem hx, flatMap_append,
    flatMap_singleton, filter_concat_self, hnone, nil_append,
    flatMap_concat_ne fun hmem => hx (mem_firsts.mp hmem)]

lemma grouped_concat_old {x y : α}
    (hy : (xs.filter fun z => key z = key x).getLast? = some y) :
    ∃ pre post, grouped key xs = pre ++ y :: post ∧
      grouped key (xs ++ [x]) = pre ++ y :: x :: post := by
  obtain ⟨hne, hlast⟩ := getLast?_eq_some_iff.mp hy
  have hmem : y ∈ xs.filter fun z => key z = key x := mem_of_getLast? hy
  obtain ⟨hyxs, hkey⟩ := mem_filter.mp hmem
  have hkx : key x ∈ xs.map key := decide_eq_true_eq.mp hkey ▸ mem_map_of_mem hyxs
  obtain ⟨before, after, hsplit⟩ := append_of_mem (mem_firsts.mpr hkx)
  have hnodup := nodup_firsts (xs.map key)
  rw [hsplit] at hnodup
  have hbefore : key x ∉ before := fun hin =>
    (nodup_append.mp hnodup).2.2 _ hin _ mem_cons_self rfl
  have hafter : key x ∉ after := (nodup_cons.mp (nodup_append.mp hnodup).2.1).1
  refine ⟨(before.flatMap fun k => xs.filter fun z => key z = k) ++ hne,
    after.flatMap fun k => xs.filter fun z => key z = k, ?_, ?_⟩
  · unfold grouped
    rw [hsplit, flatMap_append, flatMap_cons, hlast]
    simp only [append_assoc, cons_append, nil_append]
  · unfold grouped
    rw [map_append, map_singleton, firsts_concat_of_mem hkx, hsplit,
      flatMap_append, flatMap_cons, flatMap_concat_ne hbefore, flatMap_concat_ne hafter,
      filter_concat_self, hlast]
    simp only [append_assoc, cons_append, nil_append]

lemma perm_grouped (xs : List α) : (grouped key xs).Perm xs := by
  induction xs using reverseRecOn with
  | nil => exact .refl _
  | append_singleton xs x ih =>
    by_cases hx : key x ∈ xs.map key
    · obtain ⟨z, hz, hkey⟩ := mem_map.mp hx
      have hmem : z ∈ xs.filter fun z => key z = key x :=
        mem_filter.mpr ⟨hz, decide_eq_true_eq.mpr hkey⟩
      obtain ⟨y, hy⟩ := Option.ne_none_iff_exists'.mp fun hnone =>
        ne_nil_of_mem hmem (getLast?_eq_none_iff.mp hnone)
      obtain ⟨pre, post, hold, hnew⟩ := grouped_concat_old hy
      rw [hnew]
      rw [hold] at ih
      calc
        (pre ++ y :: x :: post).Perm (x :: (pre ++ y :: post)) := by
          rw [append_cons pre y post, append_cons pre y (x :: post)]
          exact perm_middle
        _ |>.Perm (x :: xs) := ih.cons x
        _ |>.Perm (xs ++ [x]) := (perm_append_singleton x xs).symm
    · rw [grouped_concat_new hx]
      exact ih.append_right [x]

lemma grouped_map {β : Type*} {key' : β → κ} {f : α → β} (hf : ∀ x, key' (f x) = key x)
    (xs : List α) : grouped key' (xs.map f) = (grouped key xs).map f := by
  unfold grouped
  have hkeys : (xs.map f).map key' = xs.map key := by
    rw [map_map]
    exact map_congr_left fun x _ => hf x
  rw [hkeys, map_flatMap]
  apply flatMap_congr
  intro k _
  rw [filter_map]
  congr 1
  apply filter_congr
  intro x _
  rw [Function.comp_apply, hf]

end Rtl8831.Lib
