import Rtl8831.Lib.Index

/-!
# Circular buffers

The elements ever put into a circular buffer of `n` slots are numbered from
zero; an index is advanced before the slot it names is used, so element `i`
lives in slot `(i + 1) % n`.  `Holds` says that the slots of the elements
numbered from `lo` up to `hi` hold what the history says.
-/

namespace Rtl8831.Lib

open Function

variable {α : Type*} {n lo hi i j : ℕ} {entry : ℕ → Option α} {hist : List α}

/-- The slots of the elements from `lo` up to `hi` hold those elements. -/
def Holds (n : ℕ) (entry : ℕ → Option α) (hist : List α) (lo hi : ℕ) : Prop :=
  ∀ i, lo ≤ i → i < hi → entry ((i + 1) % n) = hist[i]?

lemma slot_ne (hij : i < j) (hj : j < i + n) : (i + 1) % n ≠ (j + 1) % n := by
  intro h
  have hdvd : n ∣ j + 1 - (i + 1) := (Nat.modEq_iff_dvd' (by omega)).1 h
  have hle : n ≤ j + 1 - (i + 1) := Nat.le_of_dvd (by omega) hdvd
  omega

lemma mod_succ_mod (i n : ℕ) : (i % n + 1) % n = (i + 1) % n := by
  rw [Nat.mod_add_mod]

lemma wrap_succ (hn : 0 < n) (i : ℕ) :
    (if n ≤ i % n + 1 then 0 else i % n + 1) = (i + 1) % n := by
  have hlt := Nat.mod_lt i hn
  split
  · have h : i % n + 1 = n := by omega
    rw [← mod_succ_mod, h, Nat.mod_self]
  · have h : i % n + 1 < n := by omega
    rw [← mod_succ_mod, Nat.mod_eq_of_lt h]

lemma inc_succ (hn : 0 < n) (i : ℕ) :
    (if (i + 1) % n = 0 then 0 else i % n + 1) = (i + 1) % n := by
  rw [← wrap_succ hn]
  split <;> split <;> simp_all

lemma Holds.empty : Holds n entry hist lo lo := by
  intro i h₁ h₂
  omega

section

variable (h : Holds n entry hist lo hi)
include h

lemma Holds.mono {lo' hi' : ℕ} (hlo : lo ≤ lo') (hhi : hi' ≤ hi) :
    Holds n entry hist lo' hi' :=
  fun i h₁ h₂ => h i (hlo.trans h₁) (h₂.trans_le hhi)

lemma Holds.append (hhi : hi ≤ hist.length) (a : α) :
    Holds n entry (hist ++ [a]) lo hi := by
  intro i h₁ h₂
  rw [h i h₁ h₂, List.getElem?_append_left (by omega)]

lemma Holds.extend (hhi : hist.length = hi) {a : α}
    (ha : entry ((hi + 1) % n) = some a) : Holds n entry (hist ++ [a]) lo (hi + 1) := by
  intro i h₁ h₂
  rcases Nat.lt_succ_iff_lt_or_eq.1 h₂ with hlt | rfl
  · exact h.append hhi.ge a i h₁ hlt
  · rw [ha, ← hhi, List.getElem?_concat_length]

lemma Holds.ahead (hroom : hi < lo + n) (a : Option α) :
    Holds n (update entry ((hi + 1) % n) a) hist lo hi := by
  intro i h₁ h₂
  rw [update_of_ne (slot_ne h₂ (by omega)), h i h₁ h₂]

lemma Holds.write (hroom : hi < lo + n) {a : α}
    (ha : hist[hi]? = some a) :
    Holds n (update entry ((hi + 1) % n) (some a)) hist lo (hi + 1) := by
  intro i h₁ h₂
  rcases Nat.lt_succ_iff_lt_or_eq.1 h₂ with hlt | rfl
  · exact h.ahead hroom (some a) i h₁ hlt
  · rw [update_self, ha]

lemma Holds.clear (hroom : hi ≤ lo + n) :
    Holds n (update entry ((lo + 1) % n) none) hist (lo + 1) hi := by
  intro i h₁ h₂
  rw [update_of_ne (slot_ne (by omega) (by omega)).symm, h i (by omega) h₂]

end

lemma take_succ_of_getElem? {a : α} (h : hist[i]? = some a) :
    hist.take (i + 1) = hist.take i ++ [a] := by
  rw [List.take_add_one, h]
  rfl

end Rtl8831.Lib
