import Rtl8831.Lib.Index

/-!
# Writes of a register under a mask

A setting gives values to the fields of a register that its mask selects.  Writing it
keeps the other fields, and what a register shows of a setting is lost only to a write
that selects one of its fields.
-/

namespace Rtl8831.Lib

variable {w : ℕ}

/-- Values for the bits of a register that `mask` selects. -/
structure Setting (w : ℕ) where
  opt : BitVec w
  mask : BitVec w
  deriving DecidableEq

namespace Setting

variable {a b : Setting w} {v : BitVec w}

/-- The register after the setting is written over `v`. -/
def write (a : Setting w) (v : BitVec w) : BitVec w :=
  (a.opt &&& a.mask) ||| (~~~(~~~a.opt &&& a.mask) &&& v)

def Holds (a : Setting w) (v : BitVec w) : Prop :=
  v &&& a.mask = a.opt &&& a.mask

instance (a : Setting w) (v : BitVec w) : Decidable (a.Holds v) :=
  inferInstanceAs (Decidable (_ = _))

lemma getElem_write (a : Setting w) (v : BitVec w) (i : ℕ) (hi : i < w) :
    (a.write v)[i] = if a.mask[i] then a.opt[i] else v[i] := by
  simp only [write, BitVec.getElem_or, BitVec.getElem_and, BitVec.getElem_not]
  cases a.mask[i] <;> cases a.opt[i] <;> simp

lemma holds_iff :
    a.Holds v ↔ ∀ i (hi : i < w), a.mask[i] = true → v[i] = a.opt[i] := by
  unfold Holds
  constructor
  · intro h i hi hm
    have hb : (v &&& a.mask)[i] = (a.opt &&& a.mask)[i] := by rw [h]
    rw [BitVec.getElem_and, BitVec.getElem_and, hm, Bool.and_true, Bool.and_true] at hb
    exact hb
  · intro h
    apply BitVec.eq_of_getElem_eq
    intro i hi
    rw [BitVec.getElem_and, BitVec.getElem_and]
    cases hm : a.mask[i] with
    | false => rw [Bool.and_false, Bool.and_false]
    | true => rw [h i hi hm]

lemma holds_write : a.Holds (a.write v) := by
  rw [holds_iff]
  intro i hi hm
  rw [getElem_write, if_pos hm]

lemma Holds.write_eq (h : a.Holds v) : a.write v = v := by
  apply BitVec.eq_of_getElem_eq
  intro i hi
  rw [getElem_write]
  split
  · next hm => exact ((holds_iff.1 h) i hi hm).symm
  · rfl

lemma mask_of_subset (hab : a.mask &&& b.mask = a.mask) {i : ℕ} (hi : i < w)
    (ha : a.mask[i] = true) : b.mask[i] = true := by
  have hb : (a.mask &&& b.mask)[i] = a.mask[i] := by rw [hab]
  rw [BitVec.getElem_and, ha, Bool.true_and] at hb
  exact hb

lemma mask_of_disjoint (hab : a.mask &&& b.mask = 0#w) {i : ℕ} (hi : i < w)
    (ha : a.mask[i] = true) : b.mask[i] = false := by
  have hb : (a.mask &&& b.mask)[i] = (0#w)[i] := by rw [hab]
  rw [BitVec.getElem_and, ha, Bool.true_and, BitVec.getElem_zero] at hb
  exact hb

lemma write_write_of_subset (hab : a.mask &&& b.mask = a.mask) :
    b.write (a.write v) = b.write v := by
  apply BitVec.eq_of_getElem_eq
  intro i hi
  rw [getElem_write, getElem_write, getElem_write]
  cases ha : a.mask[i] with
  | false => rfl
  | true => rw [if_pos (mask_of_subset hab hi ha), if_pos (mask_of_subset hab hi ha)]

lemma Holds.write_of_disjoint (hab : a.mask &&& b.mask = 0#w) (h : a.Holds v) :
    a.Holds (b.write v) := by
  rw [holds_iff] at h ⊢
  intro i hi hm
  rw [getElem_write, mask_of_disjoint hab hi hm]
  exact h i hi hm

end Setting

end Rtl8831.Lib
