import Rtl8831.Core.Attr
import Rtl8831.Core.IeList

/-!
# Attributes in the body of an element

Behind the OUI the body of a P2P or Wi-Fi Display element is a string of whole attributes
and a rest that does not begin with one.  The search finds the first of the attributes; in
the rest it keeps to what it computes in 16 bits.
-/

namespace Rtl8831.Core

open Lib List

/-- `len16` is the length that two bytes stand for. -/
structure Attribute (len16 : UInt8 → UInt8 → ℕ) where
  id : UInt8
  lenA : UInt8
  lenB : UInt8
  data : List UInt8
  whole : data.length = len16 lenA lenB

variable {len16 : UInt8 → UInt8 → ℕ}

def Attribute.bytes (x : Attribute len16) : List UInt8 := x.id :: x.lenA :: x.lenB :: x.data

lemma Attribute.length_bytes (x : Attribute len16) : x.bytes.length = x.data.length + 3 := rfl

def encodeAttrs (xs : List (Attribute len16)) : List UInt8 := xs.flatMap Attribute.bytes

@[simp] lemma encodeAttrs_nil : encodeAttrs ([] : List (Attribute len16)) = [] := rfl

@[simp] lemma encodeAttrs_cons (x : Attribute len16) (xs : List (Attribute len16)) :
    encodeAttrs (x :: xs) = x.bytes ++ encodeAttrs xs := rfl

@[simp] lemma encodeAttrs_append (a b : List (Attribute len16)) :
    encodeAttrs (a ++ b) = encodeAttrs a ++ encodeAttrs b :=
  flatMap_append

lemma length_le_encodeAttrs (xs : List (Attribute len16)) :
    xs.length ≤ (encodeAttrs xs).length := by
  induction xs with
  | nil => rfl
  | cons x xs ih =>
    rw [encodeAttrs_cons, length_append, length_cons, Attribute.length_bytes]
    omega

def splitAttr (len16 : UInt8 → UInt8 → ℕ) :
    List UInt8 → Option (Attribute len16 × List UInt8)
  | id :: lenA :: lenB :: s =>
    if h : len16 lenA lenB ≤ s.length then
      some (⟨id, lenA, lenB, s.take (len16 lenA lenB), by
        rw [length_take, Nat.min_eq_left h]⟩, s.drop (len16 lenA lenB))
    else none
  | _ => none

/-- The whole attributes and the rest, of which there are `k` at most. -/
def splitAttrs (len16 : UInt8 → UInt8 → ℕ) :
    ℕ → List UInt8 → List (Attribute len16) × List UInt8
  | 0, s => ([], s)
  | k + 1, s =>
    match splitAttr len16 s with
    | none => ([], s)
    | some (x, s) => (x :: (splitAttrs len16 k s).1, (splitAttrs len16 k s).2)

lemma splitAttr_some {s t : List UInt8} {x : Attribute len16}
    (h : splitAttr len16 s = some (x, t)) : s = x.bytes ++ t := by
  match s, h with
  | id :: lenA :: lenB :: s, h =>
    rw [splitAttr] at h
    split at h
    · cases h
      simp [Attribute.bytes]
    · cases h

lemma splitAttr_length {s t : List UInt8} {x : Attribute len16}
    (h : splitAttr len16 s = some (x, t)) : t.length < s.length := by
  rw [splitAttr_some h, length_append, Attribute.length_bytes]
  omega

variable (len16) in
lemma encode_splitAttrs (k : ℕ) (s : List UInt8) :
    encodeAttrs (splitAttrs len16 k s).1 ++ (splitAttrs len16 k s).2 = s := by
  induction k generalizing s with
  | zero => rfl
  | succ k ih =>
    rw [splitAttrs]
    cases hs : splitAttr len16 s with
    | none => rfl
    | some x =>
      rw [encodeAttrs_cons, append_assoc, ih]
      exact (splitAttr_some hs).symm

lemma splitAttr_rest {k : ℕ} {s : List UInt8} (hk : s.length < k) :
    splitAttr len16 (splitAttrs len16 k s).2 = none := by
  induction k generalizing s with
  | zero => exact absurd hk (Nat.not_lt_zero _)
  | succ k ih =>
    rw [splitAttrs]
    cases hs : splitAttr len16 s with
    | none => exact hs
    | some x =>
      have hlt := splitAttr_length hs
      exact ih (by omega)

def stepLen (len16 : UInt8 → UInt8 → ℕ) (s : List UInt8) : ℕ :=
  (len16 (s.getD 1 0) (s.getD 2 0) + 3) % 2 ^ 16

def Entered (len16 : UInt8 → UInt8 → ℕ) (s : List UInt8) : Prop :=
  3 ≤ s.length ∧ stepLen len16 s ≤ s.length

instance (s : List UInt8) : Decidable (Entered len16 s) := inferInstanceAs (Decidable (_ ∧ _))

/-- Through the rest the search goes from length to length.  It meets the target id just where
its length is zero, which ends the deletions. -/
def RestOk (len16 : UInt8 → UInt8 → ℕ) (target : UInt8) (r : List UInt8) : Prop :=
  ∀ s, Reached (fun s => s.drop (stepLen len16 s))
    (fun s => Entered len16 s ∧ s.getD 0 0 ≠ target) r s →
    Entered len16 s → (s.getD 0 0 = target ↔ stepLen len16 s = 0)

section

variable {mem : ℕ → UInt8} {get16 : ℕ → Reading ℕ} {n p k : ℕ} {s r : List UInt8} {target : UInt8}
  {a b xs : List (Attribute len16)} {x : Attribute len16}

lemma restOk_of_stop (h : ¬ (Entered len16 r ∧ r.getD 0 0 ≠ target))
    (hzero : Entered len16 r → stepLen len16 r = 0) : RestOk len16 target r := by
  intro s hs hent
  rcases hs.cases_head with rfl | ⟨hpass, -⟩
  · have hid : s.getD 0 0 = target := by
      by_contra hid
      exact h ⟨hent, hid⟩
    exact iff_of_true hid (hzero hent)
  · exact absurd hpass h

lemma restOk_of_pass (hid : r.getD 0 0 ≠ target) (hpos : stepLen len16 r ≠ 0)
    (h : RestOk len16 target (r.drop (stepLen len16 r))) : RestOk len16 target r := by
  intro s hs hent
  rcases hs.cases_head with rfl | ⟨-, hrest⟩
  · exact iff_of_false hid hpos
  · exact h s hrest hent

variable (hget : ∀ p, (get16 p).val = len16 (mem p) (mem (p + 1)))
include hget

variable (target) in
lemma getAttrStep_at (h : Stores mem p s) (hn : p + s.length = n) :
    (getAttrStep mem get16 n target.toNat p).val =
      if Entered len16 s then
        if s.getD 0 0 = target then .inl (some ⟨p, stepLen len16 s⟩)
        else .inr (p + stepLen len16 s)
      else .inl none := by
  rw [getAttrStep_val]
  by_cases hthree : 3 ≤ s.length
  · obtain ⟨id, lenA, lenB, t, rfl⟩ : ∃ id lenA lenB t, s = id :: lenA :: lenB :: t := by
      match s, hthree with
      | id :: lenA :: lenB :: t, _ => exact ⟨id, lenA, lenB, t, rfl⟩
    obtain ⟨hid, hrest⟩ := stores_cons.1 h
    obtain ⟨hlenA, hrest⟩ := stores_cons.1 hrest
    have hlenB := (stores_cons.1 hrest).1
    have hlen : attrLenAt get16 p = stepLen len16 (id :: lenA :: lenB :: t) := by
      unfold attrLenAt
      rw [hget, hlenA, hlenB]
      rfl
    rw [hlen, hid, getD_cons_zero]
    simp only [UInt8.toNat_inj]
    refine if_congr ?_ rfl rfl
    unfold Entered
    omega
  · have hent : ¬ Entered len16 s := fun h => hthree h.1
    rw [if_neg (by omega), if_neg hent]

lemma search_rest_of_ok (h : Stores mem p s) (hn : p + s.length = n)
    (hok : RestOk len16 target s) (hk : s.length < k) :
    ∃ r, (search (getAttrStep mem get16 n target.toNat) k p).val = some r ∧
      ∀ found ∈ r, found.len = 0 := by
  induction k generalizing p s with
  | zero => exact absurd hk (Nat.not_lt_zero _)
  | succ k ih =>
    have hstep := getAttrStep_at target hget h hn
    by_cases hent : Entered len16 s
    · rw [if_pos hent] at hstep
      have hiff := hok s .start hent
      by_cases hid : s.getD 0 0 = target
      · rw [if_pos hid] at hstep
        exact ⟨_, by rw [search_done hstep], by simpa using hiff.1 hid⟩
      · rw [if_neg hid] at hstep
        have hpos : stepLen len16 s ≠ 0 := mt hiff.2 hid
        have hle := hent.2
        rw [search_next hstep]
        refine ih (h.drop hle) ?_ (fun t ht => hok t ?_) ?_
        · rw [length_drop]
          omega
        · exact (Reached.next .start ⟨hent, hid⟩).trans ht
        · rw [length_drop]
          omega
    · rw [if_neg hent] at hstep
      exact ⟨none, by rw [search_done hstep], by simp⟩

lemma ok_of_search_rest (h : Stores mem p s) (hn : p + s.length = n) {r : Option AttrFound}
    (hr : (search (getAttrStep mem get16 n target.toNat) k p).val = some r)
    (hzero : ∀ found ∈ r, found.len = 0) : RestOk len16 target s := by
  induction k generalizing p s with
  | zero => cases hr
  | succ k ih =>
    have hstep := getAttrStep_at target hget h hn
    by_cases hent : Entered len16 s
    · rw [if_pos hent] at hstep
      by_cases hid : s.getD 0 0 = target
      · rw [if_pos hid] at hstep
        rw [search_done hstep] at hr
        cases hr
        exact restOk_of_stop (fun h => h.2 hid) fun _ => hzero _ rfl
      · rw [if_neg hid] at hstep
        have hpos : stepLen len16 s ≠ 0 := by
          intro hstay
          rw [hstay] at hstep
          rw [search_stuck hstep] at hr
          cases hr
        have hle := hent.2
        rw [search_next hstep] at hr
        refine restOk_of_pass hid hpos (ih (h.drop hle) ?_ hr)
        rw [length_drop]
        omega
    · exact restOk_of_stop (fun h => hent h.1) fun h => absurd h hent

variable (target) in
lemma getAttrStep_attribute (h : Stores mem p (x.bytes ++ s))
    (hn : p + (x.bytes ++ s).length = n) (hsmall : n < 2 ^ 16) :
    (getAttrStep mem get16 n target.toNat p).val =
      if x.id = target then .inl (some ⟨p, x.bytes.length⟩) else .inr (p + x.bytes.length) := by
  have hlen : stepLen len16 (x.bytes ++ s) = x.bytes.length := by
    have hwhole := x.whole
    have hbytes := x.length_bytes
    rw [length_append] at hn
    unfold stepLen Attribute.bytes
    simp only [cons_append, getD_cons_succ, getD_cons_zero, length_cons]
    rw [Nat.mod_eq_of_lt (by omega)]
    omega
  have hent : Entered len16 (x.bytes ++ s) := by
    unfold Entered
    rw [hlen, length_append, Attribute.length_bytes]
    omega
  rw [getAttrStep_at target hget h hn, if_pos hent, hlen]
  rfl

lemma search_attributes (h : Stores mem p (encodeAttrs xs ++ s))
    (hn : p + (encodeAttrs xs ++ s).length = n) (hsmall : n < 2 ^ 16)
    (hno : ∀ y ∈ xs, y.id ≠ target) (k : ℕ) :
    (search (getAttrStep mem get16 n target.toNat) (xs.length + k) p).val =
      (search (getAttrStep mem get16 n target.toNat) k (p + (encodeAttrs xs).length)).val := by
  induction xs generalizing p with
  | nil => simp
  | cons y xs ih =>
    rw [encodeAttrs_cons, append_assoc] at h hn
    have hstep := getAttrStep_attribute target hget h hn hsmall
    rw [if_neg (hno y (by simp))] at hstep
    rw [length_cons, Nat.add_right_comm, search_next hstep]
    rw [length_append, ← Nat.add_assoc] at hn
    simp only
    rw [ih (stores_append.1 h).2 hn fun z hz => hno z (mem_cons_of_mem _ hz),
      encodeAttrs_cons, length_append, Nat.add_assoc]

lemma search_first_attribute (h : Stores mem p (encodeAttrs (a ++ x :: b) ++ s))
    (hn : p + (encodeAttrs (a ++ x :: b) ++ s).length = n) (hsmall : n < 2 ^ 16)
    (ha : ∀ y ∈ a, y.id ≠ target) (hx : x.id = target) :
    (search (getAttrStep mem get16 n target.toNat) (a.length + 1) p).val =
      some (some ⟨p + (encodeAttrs a).length, x.bytes.length⟩) := by
  rw [encodeAttrs_append, encodeAttrs_cons, append_assoc, append_assoc] at h hn
  rw [search_attributes hget h hn hsmall ha]
  rw [length_append, ← Nat.add_assoc] at hn
  have hstep := getAttrStep_attribute target hget (stores_append.1 h).2 hn hsmall
  rw [if_pos hx] at hstep
  rw [search_done hstep]

end

end Rtl8831.Core
