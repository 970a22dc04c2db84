import Rtl8831.Core.IeSearch

/-!
# Merging P2P elements

One function announces the length of the merged element and another builds it; both walk
over the same elements.  What they do to the elements is a fold over the positions of the
walk, from which it is seen when the merged element has the bodies and the length that were
announced.
-/

namespace Rtl8831.Core

open Lib List

section

variable (mem : ℕ → UInt8)

/-! ## `rtw_get_p2p_merged_ies_len` -/

/-- A round at `i`, with the `len` so far. -/
def mergedLenStep (inLen : ℕ) (s : ℕ × ℤ) : Reading (ℤ ⊕ ℕ × ℤ) := do
  let (i, len) := s
  if i < inLen then
    let isP2p ← idOuiMatch mem wlanEidVendorSpecific (some p2pOui) i
    let length ← readByte mem (i + 1)
    let len := if isP2p then len + ((length.toNat : ℤ) - 4) else len
    pure (.inr (i + (length.toNat + 2), len))
  else pure (.inl len)

/-- An `int` that is returned as a `u32`. -/
def rtwGetP2pMergedIesLen (inLen : ℕ) : Reading (Option ℕ) := do
  let len ← search (mergedLenStep mem inLen) (inLen + 1) (0, 0)
  pure (len.map fun len => ((len + 4) % 2 ^ 32).toNat)

/-! ## `rtw_p2p_merge_ies` -/

/-- `EID;Len;OUI`. -/
def elOui : List UInt8 := [0xdd, 0x00, 0x50, 0x6f, 0x9a, 0x09]

/-- What lies before `merge_ie`, and the `u8` that is returned. -/
structure Merge where
  out : List UInt8 := elOui
  len : ℕ := 0
  deriving DecidableEq

/-- `pIE->Length - 4` as the size of a copy. -/
def copySize (length : ℕ) : ℕ := if 4 ≤ length then length - 4 else 2 ^ 32 + length - 4

/-- The bytes are written at `merge_ie`, which then moves by `pIE->Length - 4`, backwards if
this is negative. -/
def Merge.take (m : Merge) (bytes : List UInt8) (length : ℕ) : Merge where
  out := if 4 ≤ length then m.out ++ bytes else m.out.take (m.out.length + length - 4)
  len := (m.len + copySize length) % 2 ^ 8

def mergeStep (inLen : ℕ) (s : ℕ × Merge) : Reading (Merge ⊕ ℕ × Merge) := do
  let (i, m) := s
  if i < inLen then
    let isP2p ← idOuiMatch mem wlanEidVendorSpecific (some p2pOui) i
    let length ← readByte mem (i + 1)
    if isP2p then
      let bytes ← readBytes mem (i + 6) (copySize length.toNat)
      pure (.inr (i + (length.toNat + 2), m.take bytes length.toNat))
    else pure (.inr (i + (length.toNat + 2), m))
  else pure (.inl m)

/-- What is written to `merge_ie`, and the length that is returned. -/
def rtwP2pMergeIes (inLen : ℕ) : Reading (Option (List UInt8 × ℕ)) := do
  let m ← search (mergeStep mem inLen) (inLen + 1) (0, {})
  pure (m.map fun m => (m.out, m.len + 4))

/-! ## The elements of the list -/

/-- The positions of the elements from `p` on, by their declared lengths. -/
def iePositions (inLen : ℕ) : ℕ → ℕ → List ℕ
  | 0, _ => []
  | k + 1, p => if p < inLen then p :: iePositions inLen k (ieEnd mem p) else []

def ies (inLen : ℕ) : List ℕ := iePositions mem inLen (inLen + 1) 0

def IsP2pAt (p : ℕ) : Prop := GetIeExHit mem wlanEidVendorSpecific (some p2pOui) p

instance (p : ℕ) : Decidable (IsP2pAt mem p) := inferInstanceAs (Decidable (GetIeExHit ..))

/-- The attributes of the P2P element at `p`. -/
def p2pBody (p : ℕ) : List UInt8 := (range' (p + 6) (bodyLen mem p - 4)).map mem

def p2pBodies (inLen : ℕ) : List UInt8 :=
  (((ies mem inLen).filter fun p => IsP2pAt mem p).map (p2pBody mem)).flatten

/-- Both functions end and read only the list, and one element with the bodies in order behind
its header is built, in which `lengthByte` is the length announced. -/
def MergesP2p (inLen : ℕ) (lengthByte : ℕ → UInt8 → Prop) : Prop :=
  ∃ announced out returned b,
    (rtwGetP2pMergedIesLen mem inLen).val = some announced ∧
    (rtwGetP2pMergedIesLen mem inLen).Below inLen ∧
    (rtwP2pMergeIes mem inLen).val = some (out, returned) ∧
    (rtwP2pMergeIes mem inLen).Below inLen ∧
    out = [wlanEidVendorSpecific, b] ++ p2pOui ++ p2pBodies mem inLen ∧
    out.length = announced + 2 ∧ returned = announced ∧ lengthByte announced b

/-- Headers and OUIs lie in the list, each P2P element is whole and long enough for its OUI, and
the bodies have less than 256 bytes. -/
def Mergeable (inLen : ℕ) : Prop :=
  (∀ p ∈ ies mem inLen, p + 1 < inLen ∧ (mem p = wlanEidVendorSpecific → p + 6 ≤ inLen) ∧
    (IsP2pAt mem p → 4 ≤ bodyLen mem p ∧ ieEnd mem p ≤ inLen)) ∧
  (p2pBodies mem inLen).length < 2 ^ 8

variable {mem} {inLen n : ℕ}

/-! ## The walks as folds -/

lemma search_ies {A : Type} {step : ℕ × A → Reading (A ⊕ ℕ × A)} {f : ℕ → A → A}
    {below : ℕ → Prop}
    (hnext : ∀ p a, p < inLen → (step (p, a)).val = .inr (ieEnd mem p, f p a))
    (hend : ∀ p a, ¬ p < inLen → step (p, a) = pure (.inl a))
    (hbelow : ∀ p a, p < inLen → ((step (p, a)).Below n ↔ below p)) {k p : ℕ}
    (hk : inLen < p + k) (hpos : 0 < k) (a : A) :
    (search step k (p, a)).val =
        some ((iePositions mem inLen k p).foldl (fun a q => f q a) a) ∧
      ((search step k (p, a)).Below n ↔ ∀ q ∈ iePositions mem inLen k p, below q) := by
  induction k generalizing p a with
  | zero => exact absurd hpos (Nat.lt_irrefl 0)
  | succ k ih =>
    unfold iePositions
    by_cases hp : p < inLen
    · have hstep := hnext p a hp
      have hk' : inLen < ieEnd mem p + k := by
        unfold ieEnd
        omega
      obtain ⟨hval, hbel⟩ := ih hk' (by omega) (f p a)
      have hsplit : (search step (k + 1) (p, a)).Below n ↔
          (step (p, a)).Below n ∧ (search step k (ieEnd mem p, f p a)).Below n := by
        rw [search_next hstep]
        exact forall_mem_append
      rw [if_pos hp, hsplit, hbelow p a hp, hbel, search_next hstep, forall_mem_cons]
      exact ⟨hval, Iff.rfl⟩
    · have hdone : search step (k + 1) (p, a) = pure (some a) := by
        rw [search_done (by rw [hend p a hp]; rfl), hend p a hp]
        rfl
      rw [if_neg hp, hdone]
      exact ⟨rfl, by simp [Reading.below_pure]⟩

def HeaderIn (mem : ℕ → UInt8) (n p : ℕ) : Prop :=
  p + 1 < n ∧ (mem p = wlanEidVendorSpecific → p + 6 ≤ n)

variable {l : List ℕ} {p : ℕ}

lemma headerIn_iff : HeaderIn mem n p ↔
    (idOuiMatch mem wlanEidVendorSpecific (some p2pOui) p).Below n ∧ p + 1 < n := by
  have houi : (∀ o ∈ some p2pOui, o ≠ [] → p + 2 + o.length ≤ n) ↔ p + 6 ≤ n := by
    simp [p2pOui]
  rw [idOuiMatch_below_iff, houi]
  unfold HeaderIn
  constructor
  · rintro ⟨hlen, hvendor⟩
    exact ⟨⟨by omega, fun h => hvendor h.symm⟩, hlen⟩
  · rintro ⟨⟨-, hvendor⟩, hlen⟩
    exact ⟨hlen, fun h => hvendor h.symm⟩

variable (mem inLen n) in
lemma mergedLen_search :
    (rtwGetP2pMergedIesLen mem inLen).val = some (((ies mem inLen).foldl (fun len p =>
      if IsP2pAt mem p then len + ((bodyLen mem p : ℤ) - 4) else len) 0 + 4) % 2 ^ 32).toNat ∧
      ((rtwGetP2pMergedIesLen mem inLen).Below n ↔ ∀ p ∈ ies mem inLen, HeaderIn mem n p) := by
  have hnext : ∀ p len, p < inLen → (mergedLenStep mem inLen (p, len)).val =
      .inr (ieEnd mem p, if IsP2pAt mem p then len + ((bodyLen mem p : ℤ) - 4) else len) := by
    intro p len hp
    unfold mergedLenStep
    simp only
    rw [if_pos hp]
    simp only [Reading.val_bind, idOuiMatch_val_iff]
    rfl
  have hbelow : ∀ p len, p < inLen →
      ((mergedLenStep mem inLen (p, len)).Below n ↔ HeaderIn mem n p) := by
    intro p len hp
    unfold mergedLenStep
    simp only
    rw [if_pos hp, Reading.below_bind_iff, Reading.below_bind_iff, below_readByte_iff, headerIn_iff]
    simp [Reading.below_pure]
  obtain ⟨hval, hbel⟩ := search_ies hnext (fun p len hp => if_neg hp) hbelow
    (k := inLen + 1) (p := 0) (by omega) (Nat.succ_pos _) 0
  unfold rtwGetP2pMergedIesLen
  rw [Reading.val_bind, hval, Reading.below_bind_iff, hbel]
  exact ⟨rfl, and_iff_left (Reading.below_pure _ _)⟩

def mergeInto (mem : ℕ → UInt8) (m : Merge) (p : ℕ) : Merge :=
  if IsP2pAt mem p then
    m.take ((range' (p + 6) (copySize (bodyLen mem p))).map mem) (bodyLen mem p)
  else m

variable (mem inLen n) in
lemma merge_search :
    (rtwP2pMergeIes mem inLen).val = some
        (((ies mem inLen).foldl (mergeInto mem) {}).out,
          ((ies mem inLen).foldl (mergeInto mem) {}).len + 4) ∧
      ((rtwP2pMergeIes mem inLen).Below n ↔ ∀ p ∈ ies mem inLen, HeaderIn mem n p ∧
        (IsP2pAt mem p → (readBytes mem (p + 6) (copySize (bodyLen mem p))).Below n)) := by
  have hnext : ∀ p m, p < inLen →
      (mergeStep mem inLen (p, m)).val = .inr (ieEnd mem p, mergeInto mem m p) := by
    intro p m hp
    unfold mergeStep mergeInto
    simp only
    rw [if_pos hp, Reading.val_bind, Reading.val_bind]
    by_cases hit : IsP2pAt mem p
    · rw [if_pos (idOuiMatch_val_iff.2 hit), if_pos hit]
      rfl
    · rw [if_neg (mt idOuiMatch_val_iff.1 hit), if_neg hit]
      rfl
  have hbelow : ∀ p m, p < inLen → ((mergeStep mem inLen (p, m)).Below n ↔ HeaderIn mem n p ∧
      (IsP2pAt mem p → (readBytes mem (p + 6) (copySize (bodyLen mem p))).Below n)) := by
    intro p m hp
    unfold mergeStep
    simp only
    rw [if_pos hp, Reading.below_bind_iff, Reading.below_bind_iff, below_readByte_iff, headerIn_iff,
      and_assoc]
    refine and_congr_right fun _ => and_congr_right fun _ => ?_
    by_cases hit : IsP2pAt mem p
    · rw [if_pos (idOuiMatch_val_iff.2 hit), Reading.below_bind_iff]
      simp only [Reading.below_pure, and_true, hit, true_implies]
      rfl
    · rw [if_neg (mt idOuiMatch_val_iff.1 hit)]
      simp [hit, Reading.below_pure]
  obtain ⟨hval, hbel⟩ := search_ies hnext (fun p m hp => if_neg hp) hbelow
    (k := inLen + 1) (p := 0) (by omega) (Nat.succ_pos _) {}
  unfold rtwP2pMergeIes
  rw [Reading.val_bind, hval, Reading.below_bind_iff, hbel]
  exact ⟨rfl, and_iff_left (Reading.below_pure _ _)⟩

/-! ## What the folds come to -/

def LongEnough (mem : ℕ → UInt8) (l : List ℕ) : Prop := ∀ p ∈ l, IsP2pAt mem p → 4 ≤ bodyLen mem p

def bodiesOf (mem : ℕ → UInt8) (l : List ℕ) : List UInt8 :=
  ((l.filter fun p => IsP2pAt mem p).map (p2pBody mem)).flatten

lemma p2pBody_length (mem : ℕ → UInt8) (p : ℕ) : (p2pBody mem p).length = bodyLen mem p - 4 := by
  unfold p2pBody
  rw [length_map, length_range']

lemma bodiesOf_cons (p : ℕ) (l : List ℕ) : bodiesOf mem (p :: l) =
    (if IsP2pAt mem p then p2pBody mem p else []) ++ bodiesOf mem l := by
  unfold bodiesOf
  by_cases hit : IsP2pAt mem p <;> simp [hit]

lemma announced_fold (hl : LongEnough mem l) (len : ℤ) :
    l.foldl (fun len p => if IsP2pAt mem p then len + ((bodyLen mem p : ℤ) - 4) else len) len =
      len + (bodiesOf mem l).length := by
  induction l generalizing len with
  | nil => simp [bodiesOf]
  | cons p l ih =>
    have hp := hl p mem_cons_self
    rw [foldl_cons, ih fun q hq => hl q (mem_cons_of_mem _ hq), bodiesOf_cons,
      length_append]
    by_cases hit : IsP2pAt mem p
    · have hlong := hp hit
      rw [if_pos hit, if_pos hit, p2pBody_length]
      omega
    · rw [if_neg hit, if_neg hit, length_nil]
      omega

lemma mergeInto_of_long {m : Merge} {p : ℕ} (h : IsP2pAt mem p → 4 ≤ bodyLen mem p) :
    (mergeInto mem m p).out = m.out ++ (if IsP2pAt mem p then p2pBody mem p else []) ∧
      (mergeInto mem m p).len % 2 ^ 8 =
        (m.len + (if IsP2pAt mem p then p2pBody mem p else []).length) % 2 ^ 8 := by
  unfold mergeInto Merge.take
  by_cases hit : IsP2pAt mem p
  · have hsize : copySize (bodyLen mem p) = bodyLen mem p - 4 := if_pos (h hit)
    simp only [if_pos hit, if_pos (h hit), hsize, p2pBody_length]
    exact ⟨rfl, Nat.mod_mod _ _⟩
  · simp only [if_neg hit, append_nil, length_nil, Nat.add_zero]
    exact ⟨trivial, trivial⟩

lemma merge_fold (hl : LongEnough mem l) (m : Merge) :
    (l.foldl (mergeInto mem) m).out = m.out ++ bodiesOf mem l ∧
      (l.foldl (mergeInto mem) m).len % 2 ^ 8 = (m.len + (bodiesOf mem l).length) % 2 ^ 8 := by
  induction l generalizing m with
  | nil => simp [bodiesOf]
  | cons p l ih =>
    obtain ⟨hout, hlen⟩ := mergeInto_of_long (m := m) (hl p mem_cons_self)
    obtain ⟨ihout, ihlen⟩ := ih (fun q hq => hl q (mem_cons_of_mem _ hq)) (mergeInto mem m p)
    rw [foldl_cons, ihout, ihlen, hout, bodiesOf_cons, append_assoc, length_append]
    refine ⟨rfl, ?_⟩
    omega

variable (mem) in
lemma merge_len_lt (l : List ℕ) {m : Merge} (hm : m.len < 2 ^ 8) :
    (l.foldl (mergeInto mem) m).len < 2 ^ 8 := by
  induction l generalizing m with
  | nil => exact hm
  | cons p l ih =>
    apply ih
    unfold mergeInto Merge.take
    split
    · exact Nat.mod_lt _ (by decide)
    · exact hm

/-! ## When the merged element is right -/

lemma whole_of_copy (hn : n < 2 ^ 32) (hheader : HeaderIn mem n p)
    (hit : IsP2pAt mem p) (hcopy : (readBytes mem (p + 6) (copySize (bodyLen mem p))).Below n) :
    4 ≤ bodyLen mem p ∧ ieEnd mem p ≤ n := by
  have hvendor := hheader.2 hit.1.symm
  by_cases hlong : 4 ≤ bodyLen mem p
  · have hsize : copySize (bodyLen mem p) = bodyLen mem p - 4 := if_pos hlong
    refine ⟨hlong, ?_⟩
    unfold ieEnd
    by_cases hempty : bodyLen mem p = 4
    · omega
    · rw [hsize, below_readBytes_iff (by omega)] at hcopy
      omega
  · have hsize : copySize (bodyLen mem p) = 2 ^ 32 + bodyLen mem p - 4 := if_neg hlong
    rw [hsize, below_readBytes_iff (by omega)] at hcopy
    omega

lemma mergeable_of_merges {lengthByte : ℕ → UInt8 → Prop} (hn : inLen < 2 ^ 32)
    (h : MergesP2p mem inLen lengthByte) : Mergeable mem inLen := by
  obtain ⟨announced, out, returned, b, -, -, hval, hbelow, hout, hlen, hret, -⟩ := h
  obtain ⟨hmerge, hreads⟩ := merge_search mem inLen inLen
  rw [hmerge] at hval
  obtain ⟨rfl, rfl⟩ := Prod.ext_iff.1 (Option.some.inj hval)
  refine ⟨fun p hp => ?_, ?_⟩
  · obtain ⟨hheader, hcopy⟩ := hreads.1 hbelow p hp
    exact ⟨hheader.1, hheader.2, fun hit => whole_of_copy hn hheader hit (hcopy hit)⟩
  · have hlt := merge_len_lt mem (ies mem inLen) (m := {}) (by decide)
    have hsum : (p2pBodies mem inLen).length + 6 = announced + 2 := by
      rw [← hlen, hout]
      simp [p2pOui]
    simp only at hret
    omega

lemma merge_of_mergeable (h : Mergeable mem inLen) :
    (rtwGetP2pMergedIesLen mem inLen).val = some ((p2pBodies mem inLen).length + 4) ∧
      (rtwGetP2pMergedIesLen mem inLen).Below inLen ∧
      (rtwP2pMergeIes mem inLen).val =
        some (elOui ++ p2pBodies mem inLen, (p2pBodies mem inLen).length + 4) ∧
      (rtwP2pMergeIes mem inLen).Below inLen := by
  obtain ⟨hies, htotal⟩ := h
  have hlong : LongEnough mem (ies mem inLen) := fun p hp hit => ((hies p hp).2.2 hit).1
  obtain ⟨hlenVal, hlenReads⟩ := mergedLen_search mem inLen inLen
  obtain ⟨hval, hreads⟩ := merge_search mem inLen inLen
  obtain ⟨hout, hlen⟩ := merge_fold hlong {}
  have hlt := merge_len_lt mem (ies mem inLen) (m := {}) (by decide)
  have hbodies : p2pBodies mem inLen = bodiesOf mem (ies mem inLen) := rfl
  refine ⟨?_, ?_, ?_, ?_⟩
  · rw [hlenVal, announced_fold hlong, hbodies]
    congr 1
    rw [hbodies] at htotal
    omega
  · exact hlenReads.2 fun p hp => ⟨(hies p hp).1, (hies p hp).2.1⟩
  · rw [hval, hout, hbodies]
    congr 2
    rw [hbodies] at htotal
    simp only [Nat.zero_add] at hlen
    omega
  · refine hreads.2 fun p hp => ⟨⟨(hies p hp).1, (hies p hp).2.1⟩, fun hit => ?_⟩
    obtain ⟨hlong, hwhole⟩ := (hies p hp).2.2 hit
    have hsize : copySize (bodyLen mem p) = bodyLen mem p - 4 := if_pos hlong
    apply below_readBytes
    unfold ieEnd at hwhole
    omega

lemma length_byte_not_announced (hn : inLen < 2 ^ 32) :
    ¬ MergesP2p mem inLen fun announced b => b.toNat = announced := by
  intro h
  obtain ⟨-, -, hval, -⟩ := merge_of_mergeable (mergeable_of_merges hn h)
  obtain ⟨announced, out, returned, b, -, -, hval', -, hout, hlen, -, hb⟩ := h
  rw [hval] at hval'
  obtain ⟨hout', -⟩ := Prod.ext_iff.1 (Option.some.inj hval')
  simp only at hout'
  have hzero : b = 0 := by
    rw [hout] at hout'
    injection hout' with _ htail
    injection htail with hb _
    exact hb.symm
  rw [← hout', length_append] at hlen
  have hheader : elOui.length = 6 := rfl
  have hb0 : b.toNat = 0 := by
    rw [hzero]
    rfl
  omega

variable (mem) in
/-- The length byte of the merged element is never the length that is announced; all else is
right just if the elements are whole, long enough and not too many. -/
theorem p2p_merge_length_byte (inLen : UInt32) :
    ¬ MergesP2p mem inLen.toNat (fun announced b => b.toNat = announced) ∧
      (MergesP2p mem inLen.toNat (fun _ _ => True) ↔ Mergeable mem inLen.toNat) := by
  have hn : inLen.toNat < 2 ^ 32 := inLen.toNat_lt
  refine ⟨length_byte_not_announced hn, fun h => mergeable_of_merges hn h, fun h => ?_⟩
  obtain ⟨hlenVal, hlenReads, hval, hreads⟩ := merge_of_mergeable h
  refine ⟨_, _, _, 0, hlenVal, hlenReads, hval, hreads, rfl, ?_, rfl, trivial⟩
  rw [length_append]
  simp [elOui]
  omega

end

/-- One P2P element with two bytes of attributes. -/
theorem merged_length_byte_zero :
    ¬ MergesP2p (fun i => [221, 6, 0x50, 0x6f, 0x9a, 0x09, 1, 2].getD i 0) 8
      fun announced b => b.toNat = announced :=
  length_byte_not_announced (by decide)

end Rtl8831.Core
