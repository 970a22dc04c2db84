import Rtl8831.Lib.Index

/-!
# Arrays of optional slots

A table of `n` slots, each empty or holding one element.  `occupied` counts
the full slots, `total` adds up a weight over what they hold, and `contents`
collects the elements themselves; the lemmas say how these change when one
slot is filled or emptied.
-/

namespace Rtl8831.Lib

open Function Finset

variable {n : ℕ} {α β : Type*}

def occupied (buf : Fin n → Option α) : ℕ :=
  (univ.filter fun i => (buf i).isSome).card

def total (f : α → Multiset β) (buf : Fin n → Option α) : Multiset β :=
  ∑ i, (buf i).elim 0 f

def contents (buf : Fin n → Option α) : Multiset α :=
  total (fun a => {a}) buf

lemma occupied_le (buf : Fin n → Option α) : occupied buf ≤ n := by
  calc
    occupied buf ≤ (univ : Finset (Fin n)).card := card_filter_le _ _
    _ = n := card_fin n

variable {buf : Fin n → Option α} (f : α → Multiset β) {i : Fin n} {a : α}

@[simp] lemma total_empty :
    total f (fun _ : Fin n => (none : Option α)) = 0 := by
  simp [total]

@[simp] lemma contents_empty : contents (fun _ : Fin n => (none : Option α)) = 0 :=
  total_empty _

lemma card_contents (buf : Fin n → Option α) :
    (contents buf).card = occupied buf := by
  rw [contents, total, Multiset.card_sum, occupied, card_filter]
  apply sum_congr rfl
  intro i _
  cases buf i <;> simp

lemma occupied_eq_zero :
    occupied buf = 0 ↔ ∀ i, buf i = none := by
  simp [occupied, card_eq_zero, filter_eq_empty_iff]

lemma total_eq_slot_add (buf : Fin n → Option α) (i : Fin n) :
    total f buf = (buf i).elim 0 f + total f (update buf i none) := by
  have hrest : total f (update buf i none) =
      ∑ j ∈ univ.erase i, (buf j).elim 0 f := by
    rw [total, ← add_sum_erase _ _ (mem_univ i)]
    simp only [update_self, Option.elim_none, zero_add]
    apply sum_congr rfl
    intro j hj
    rw [update_of_ne (ne_of_mem_erase hj)]
  rw [hrest, total, ← add_sum_erase _ _ (mem_univ i)]

lemma total_update (buf : Fin n → Option α) (i : Fin n) (a : Option α) :
    (buf i).elim 0 f + total f (update buf i a) = a.elim 0 f + total f buf := by
  rw [total_eq_slot_add f (update buf i a) i, total_eq_slot_add f buf i]
  simp only [update_self, update_idem]
  rw [add_left_comm]

lemma contents_clear (h : buf i = some a) :
    contents buf = a ::ₘ contents (update buf i none) := by
  rw [contents, total_eq_slot_add _ buf i, h]
  simp [contents]

lemma contents_fill (h : buf i = none) (a : α) :
    contents (update buf i (some a)) = a ::ₘ contents buf := by
  have hself : update buf i (some a) i = some a := update_self i (some a) buf
  rw [contents_clear hself]
  simp [← h]

lemma occupied_clear (h : buf i = some a) :
    occupied buf = occupied (update buf i none) + 1 := by
  rw [← card_contents, contents_clear h, Multiset.card_cons, card_contents]

lemma occupied_fill (h : buf i = none) (a : α) :
    occupied (update buf i (some a)) = occupied buf + 1 := by
  rw [← card_contents, contents_fill h, Multiset.card_cons, card_contents]

end Rtl8831.Lib
