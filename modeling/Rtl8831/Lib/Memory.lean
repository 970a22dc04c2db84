import Rtl8831.Lib.Index

/-!
# Strings of bytes in a memory

A memory is a function of the address.  It holds a string at an address; writing a string
elsewhere leaves it there.
-/

namespace Rtl8831.Lib

open List

variable {α : Type}

def bytesAt (mem : ℕ → α) (p n : ℕ) : List α := (range' p n).map mem

/-- `memcpy`, or `memmove` of bytes that have been read before. -/
def writeBytes (mem : ℕ → α) (p : ℕ) (bytes : List α) : ℕ → α :=
  fun i => if p ≤ i then bytes.getD (i - p) (mem i) else mem i

def Stores (mem : ℕ → α) (p : ℕ) (bytes : List α) : Prop := bytesAt mem p bytes.length = bytes

instance [DecidableEq α] (mem : ℕ → α) (p : ℕ) (bytes : List α) : Decidable (Stores mem p bytes) :=
  inferInstanceAs (Decidable (_ = _))

section

variable {mem mem' : ℕ → α} {p q n : ℕ} {a b bytes : List α} {x : α}

@[simp] lemma length_bytesAt : (bytesAt mem p n).length = n := by
  simp [bytesAt]

lemma bytesAt_add (m : ℕ) : bytesAt mem p (m + n) = bytesAt mem p m ++ bytesAt mem (p + m) n := by
  unfold bytesAt
  rw [← map_append, ← range'_append_1]

lemma Stores.eq (h : Stores mem p bytes) : bytesAt mem p bytes.length = bytes := h

lemma stores_bytesAt : Stores mem p (bytesAt mem p n) := by
  unfold Stores
  rw [length_bytesAt]

lemma stores_nil : Stores mem p [] := rfl

lemma stores_append : Stores mem p (a ++ b) ↔ Stores mem p a ∧ Stores mem (p + a.length) b := by
  unfold Stores
  rw [length_append, bytesAt_add]
  constructor
  · intro h
    exact append_inj h length_bytesAt
  · rintro ⟨ha, hb⟩
    rw [ha, hb]

lemma stores_cons : Stores mem p (x :: a) ↔ mem p = x ∧ Stores mem (p + 1) a := by
  unfold Stores bytesAt
  rw [length_cons, range'_succ, map_cons, cons.injEq]

lemma stores_shift : Stores (fun i => mem (p + i)) q a ↔ Stores mem (p + q) a := by
  unfold Stores bytesAt
  rw [range'_eq_map_range, range'_eq_map_range, map_map, map_map]
  simp only [Function.comp_def, Nat.add_assoc]

lemma Stores.drop (h : Stores mem p a) (hn : n ≤ a.length) : Stores mem (p + n) (a.drop n) := by
  rw [← take_append_drop n a, stores_append, length_take, Nat.min_eq_left hn] at h
  exact h.2

lemma Stores.congr (h : Stores mem p a) (hsame : ∀ i, p ≤ i → i < p + a.length → mem' i = mem i) :
    Stores mem' p a := by
  refine Eq.trans (map_congr_left fun i hi => ?_) h
  rw [mem_range'_1] at hi
  exact hsame i hi.1 hi.2

lemma writeBytes_of_lt (h : q < p) : writeBytes mem p bytes q = mem q :=
  if_neg (Nat.not_le.2 h)

lemma writeBytes_of_ge (h : p + bytes.length ≤ q) : writeBytes mem p bytes q = mem q := by
  unfold writeBytes
  rw [if_pos (by omega), getD_eq_default _ _ (by omega)]

variable (mem p bytes) in
lemma stores_writeBytes : Stores (writeBytes mem p bytes) p bytes := by
  unfold Stores bytesAt
  apply ext_getElem
  · rw [length_map, length_range']
  · intro i hi hi'
    rw [getElem_map, getElem_range']
    unfold writeBytes
    rw [if_pos (by omega), Nat.one_mul, Nat.add_sub_cancel_left, getD_eq_getElem _ _ hi']

lemma Stores.writeBytes_before (h : Stores mem q a) (hle : q + a.length ≤ p) :
    Stores (writeBytes mem p bytes) q a :=
  h.congr fun _ _ hi => writeBytes_of_lt (Nat.lt_of_lt_of_le hi hle)

lemma Stores.writeBytes_after (h : Stores mem q a) (hle : p + bytes.length ≤ q) :
    Stores (writeBytes mem p bytes) q a :=
  h.congr fun _ hi _ => writeBytes_of_ge (Nat.le_trans hle hi)

end

end Rtl8831.Lib
