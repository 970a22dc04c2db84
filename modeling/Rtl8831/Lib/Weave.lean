import Rtl8831.Lib.Index

/-!
# Inserting a list into another one

`weave due os xs` is `xs` with all of `os` inserted after each place that is due.  Where the
inserted elements can be told from the others, the result says which places were due.
-/

namespace Rtl8831.Lib

open List

variable {α : Type*}

/-- `os` is inserted behind the elements of `xs` at the places that are due. -/
def weave (due : ℕ → Bool) (os : List α) : List α → List α
  | [] => []
  | x :: xs => x :: ((if due 0 then os else []) ++ weave (fun j => due (j + 1)) os xs)

lemma weave_append (due : ℕ → Bool) (os xs ys : List α) :
    weave due os (xs ++ ys) =
      weave due os xs ++ weave (fun j => due (xs.length + j)) os ys := by
  induction xs generalizing due with
  | nil => simp [weave]
  | cons x xs ih =>
    simp only [cons_append, weave, ih, length_cons, append_assoc]
    congr 4
    funext j
    congr 1
    omega

lemma weave_congr {due due' : ℕ → Bool} {os os' xs : List α}
    (h : ∀ j < xs.length, (if due j then os else []) = if due' j then os' else []) :
    weave due os xs = weave due' os' xs := by
  induction xs generalizing due due' with
  | nil => rfl
  | cons x xs ih =>
    rw [weave, weave, h 0 (by simp)]
    congr 2
    refine ih fun j hj => h (j + 1) ?_
    simpa using hj

section Separated

variable {isOs : α → Bool}

lemma filter_weave {due : ℕ → Bool} {os xs : List α} (hos : ∀ o ∈ os, isOs o = true)
    (hxs : ∀ x ∈ xs, isOs x = false) : (weave due os xs).filter (fun x => !isOs x) = xs := by
  induction xs generalizing due with
  | nil => rfl
  | cons x xs ih =>
    have hnone : (if due 0 then os else []).filter (fun x => !isOs x) = [] := by
      rw [filter_eq_nil_iff]
      intro o ho
      split at ho
      · simp [hos o ho]
      · contradiction
    have htail := @ih (fun j => due (j + 1)) fun y hy => hxs y (mem_cons_of_mem _ hy)
    simp [weave, hxs x mem_cons_self, hnone, htail]

lemma eq_of_prefix_of_separated {os os' : List α} {x : α} {t u : List α}
    (hos : ∀ o ∈ os, isOs o = true) (hos' : ∀ o ∈ os', isOs o = true) (hx : isOs x = false)
    (hu : ∀ y, u.head? = some y → isOs y = false) (h : os ++ x :: t <+: os' ++ u) :
    os = os' ∧ x :: t <+: u := by
  induction os generalizing os' with
  | nil =>
    cases os' with
    | nil => exact ⟨rfl, h⟩
    | cons o os' =>
      obtain ⟨v, hv⟩ := h
      have hxo : x = o := by simpa using (List.cons.inj hv).1
      rw [hxo, hos' o mem_cons_self] at hx
      contradiction
  | cons o os ih =>
    cases os' with
    | nil =>
      obtain ⟨v, hv⟩ := h
      have hhead := hu o (by rw [nil_append] at hv; rw [← hv]; rfl)
      rw [hos o mem_cons_self] at hhead
      contradiction
    | cons o' os' =>
      rw [cons_append, cons_append, cons_prefix_cons] at h
      obtain ⟨rfl, htail⟩ := h
      obtain ⟨rfl, hrest⟩ := ih (fun y hy => hos y (mem_cons_of_mem _ hy))
        (fun y hy => hos' y (mem_cons_of_mem _ hy)) htail
      exact ⟨rfl, hrest⟩

lemma weave_prefix {due due' : ℕ → Bool} {os os' xs zs t : List α} {x : α}
    (hos : ∀ o ∈ os, isOs o = true) (hos' : ∀ o ∈ os', isOs o = true)
    (hxs : ∀ y ∈ xs, isOs y = false) (hx : isOs x = false) (hzs : ∀ y ∈ zs, isOs y = false)
    (h : weave due os xs ++ x :: t <+: weave due' os' zs) :
    ∀ j < xs.length, (if due j then os else []) = if due' j then os' else [] := by
  induction xs generalizing due due' zs with
  | nil => exact fun j hj => absurd hj (by simp)
  | cons y xs ih =>
    cases zs with
    | nil =>
      have hnil := prefix_nil.1 h
      simp [weave] at hnil
    | cons z zs =>
      simp only [weave, cons_append, append_assoc, cons_prefix_cons] at h
      obtain ⟨-, h⟩ := h
      -- what follows the inserted elements begins with one of `xs`, or with `x`
      obtain ⟨w, t', hw, hcons⟩ : ∃ w t', isOs w = false ∧
          weave (fun j => due (j + 1)) os xs ++ x :: t = w :: t' := by
        cases xs with
        | nil => exact ⟨x, t, hx, rfl⟩
        | cons v xs =>
          exact ⟨v, _, hxs v (by simp), by simp only [weave, cons_append]; rfl⟩
      have hhead : ∀ v, (weave (fun j => due' (j + 1)) os' zs).head? = some v →
          isOs v = false := by
        intro v hv
        cases zs with
        | nil => contradiction
        | cons v' zs =>
          obtain rfl : v' = v := by simpa [weave] using hv
          exact hzs v' (by simp)
      rw [hcons] at h
      have hmem : ∀ {c : Bool} {l : List α}, (∀ o ∈ l, isOs o = true) →
          ∀ o ∈ (if c then l else []), isOs o = true := by
        intro c l hl o ho
        split at ho
        · exact hl o ho
        · contradiction
      obtain ⟨hfirst, hrest⟩ := eq_of_prefix_of_separated (hmem hos) (hmem hos') hw hhead h
      rw [← hcons] at hrest
      intro j hj
      cases j with
      | zero => exact hfirst
      | succ j =>
        refine @ih (fun j => due (j + 1)) (fun j => due' (j + 1)) zs
          (fun v hv => hxs v (mem_cons_of_mem _ hv))
          (fun v hv => hzs v (mem_cons_of_mem _ hv)) hrest j ?_
        simpa using hj

end Separated

end Rtl8831.Lib
