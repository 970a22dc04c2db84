import Rtl8831.Core.AttrList
import Rtl8831.Core.P2pDelete

/-!
# Deleting the attributes of one element

The loop deletes the whole attributes with the id one after the other.  Then it is right
just if it deletes nothing of the rest and comes to an end there.
-/

namespace Rtl8831.Core

open Lib List

structure SearchesKind (oui : List UInt8) (len16 : UInt8 → UInt8 → ℕ) (ieSearch : IeSearch)
    (attrSearch : AttrSearch) : Prop where
  length : oui.length = 4
  no_vendor : wlanEidVendorSpecific ∉ oui
  ie (mem : ℕ → UInt8) (n : ℕ) (wants : IeWants) (rounds : ℕ) :
    ieSearch mem n wants rounds = getVendorIeLoop mem oui n wants rounds
  attr (mem : ℕ → UInt8) : ∃ get16 : ℕ → Reading ℕ,
    (∀ p, (get16 p).val = len16 (mem p) (mem (p + 1))) ∧
    ∀ n target rounds, attrSearch mem n target rounds =
      getAttr mem oui get16 n target.toNat rounds

def lenLe16 (lo hi : UInt8) : ℕ := hi.toNat * 256 + lo.toNat

def lenBe16 (hi lo : UInt8) : ℕ := hi.toNat * 256 + lo.toNat

lemma p2p_searchesKind : SearchesKind p2pOui lenLe16 rtwGetP2pIeLoop rtwGetP2pAttr where
  length := rfl
  no_vendor := by decide
  ie mem n wants rounds := if_neg (by omega)
  attr mem := ⟨getLe16 mem, fun _ => rfl, fun _ _ _ => rfl⟩

lemma wfd_searchesKind : SearchesKind wfdOui lenBe16 rtwGetWfdIeLoop rtwGetWfdAttr where
  length := rfl
  no_vendor := by decide
  ie mem n wants rounds := if_neg (by omega)
  attr mem := ⟨getBe16 mem, fun _ => rfl, fun _ _ _ => rfl⟩

variable {oui : List UInt8} {len16 : UInt8 → UInt8 → ℕ} {ieSearch : IeSearch}
  {attrSearch : AttrSearch}

section

variable {mem : ℕ → UInt8} {get16 : ℕ → Reading ℕ} {e : Element} {s : List UInt8} {n k : ℕ}

lemma getAttr_mono {target : ℕ} {r : Option AttrFound}
    (h : (getAttr mem oui get16 n target k).val = some r) (m : ℕ) :
    (getAttr mem oui get16 n target (k + m)).val = some r := by
  unfold getAttr at h ⊢
  by_cases hshort : n ≤ 6
  · rw [if_pos hshort] at h ⊢
    exact h
  · rw [if_neg hshort, Reading.val_bind] at h ⊢
    by_cases hkind : (idOuiMatch mem wlanEidVendorSpecific (some oui) 0).val = true
    · rw [if_pos hkind] at h ⊢
      rw [search_mono h]
      exact h
    · rw [if_neg hkind] at h ⊢
      exact h

lemma getAttr_found {target : ℕ} {found : AttrFound}
    (h : (getAttr mem oui get16 n target k).val = some (some found)) :
    6 ≤ found.pos ∧ found.pos + found.len ≤ n := by
  unfold getAttr at h
  by_cases hshort : n ≤ 6
  · rw [if_pos hshort] at h
    cases h
  · rw [if_neg hshort, Reading.val_bind] at h
    split at h
    · have hsix : ∀ p, Visits (getAttrStep mem get16 n target) 6 p → 6 ≤ p := by
        intro p hv
        induction hv with
        | refl => exact le_rfl
        | @tail u v _ hlast ih =>
          rw [getAttrStep_val] at hlast
          split_ifs at hlast
          cases hlast
          omega
      obtain ⟨p, hv, hp⟩ := search_val_visits h
      rw [getAttrStep_val] at hp
      split_ifs at hp with hfit
      · cases hp
        exact ⟨hsix p hv, hfit.2⟩
      · cases hp
    · cases h

lemma getAttr_element (houi : oui.length = 4) (h : Stores mem 0 e.bytes)
    (hid : e.id = wlanEidVendorSpecific) (hbody : e.body = oui ++ s)
    (hget : ∀ p, (get16 p).val = len16 (mem p) (mem (p + 1))) (target : UInt8) :
    (getAttr mem oui get16 e.bytes.length target.toNat (k + 1)).val =
      (search (getAttrStep mem get16 e.bytes.length target.toNat) (k + 1) 6).val := by
  obtain ⟨hmem, -, hholds⟩ := stores_element.1 h
  rw [hbody, stores_append, houi] at hholds
  have hlen : e.bytes.length = 6 + s.length := by
    rw [Element.length_bytes, hbody, length_append]
    omega
  have hkind : (idOuiMatch mem wlanEidVendorSpecific (some oui) 0).val = true := by
    refine idOuiMatch_val_iff.2 ⟨by rw [hmem, hid], fun o ho => ?_⟩
    cases ho
    exact hholds.1
  unfold getAttr
  by_cases hshort : e.bytes.length ≤ 6
  · have hnil : s.length = 0 := by omega
    have hstop : ¬ Entered len16 s := fun hent => by
      have := hent.1
      omega
    have hstep := getAttrStep_at (n := e.bytes.length) target hget hholds.2 (by omega)
    rw [if_neg hstop] at hstep
    rw [if_pos hshort, search_done hstep]
    rfl
  · rw [if_neg hshort, Reading.val_bind, if_pos hkind]

end

section

variable {s : IesBuf} {ies ie pos len i : ℕ} {w : List UInt8}

lemma removeTarget_len (ies pos : ℕ) (hle : len ≤ s.len) (hs : s.len < 2 ^ 32) :
    (removeTarget ies s pos len).len = s.len - len :=
  sub32_of_le hle hs

lemma removeTarget_remain (hpos : ies ≤ pos) (hend : pos + len ≤ ies + s.len)
    (hs : s.len < 2 ^ 32) :
    pos + sub32 s.len (pos + len - ies) + len = ies + s.len := by
  rw [sub32_of_le (by omega) hs]
  omega

lemma removeTarget_same (hpos : ies ≤ pos) (hend : pos + len ≤ ies + s.len)
    (hs : s.len < 2 ^ 32) (hi : i < pos ∨ ies + s.len ≤ i) :
    (removeTarget ies s pos len).mem i = s.mem i := by
  have hremain := removeTarget_remain hpos hend hs
  unfold removeTarget
  rcases hi with hi | hi
  · exact (writeBytes_of_lt (by omega)).trans (writeBytes_of_lt hi)
  · refine (writeBytes_of_ge ?_).trans (writeBytes_of_ge ?_)
    · rw [length_replicate]
      omega
    · rw [length_bytesAt]
      omega

lemma removeTarget_holds (hpos : ies ≤ pos) (hend : pos + len + w.length = ies + s.len)
    (hs : s.len < 2 ^ 32) (hw : Stores s.mem (pos + len) w) :
    Stores (removeTarget ies s pos len).mem pos w := by
  have hremain : sub32 s.len (pos + len - ies) = w.length := by
    rw [sub32_of_le (by omega) hs]
    omega
  unfold removeTarget
  simp only [hremain, hw.eq]
  exact (stores_writeBytes ..).writeBytes_before le_rfl

lemma removeAttr_len (ie pos : ℕ) (hle : len ≤ s.len) (hs : s.len < 2 ^ 32) :
    (removeAttr ie s pos len).len = s.len - len :=
  sub32_of_le hle hs

lemma removeAttr_same (hpos : ie + 6 ≤ pos) (hend : pos + len ≤ ie + s.len)
    (hs : s.len < 2 ^ 32) (hi : i < pos ∧ i ≠ ie + 1 ∨ ie + s.len ≤ i) :
    (removeAttr ie s pos len).mem i = s.mem i := by
  have hsame : (removeAttr ie s pos len).mem i = (removeTarget ie s pos len).mem i := by
    unfold removeAttr
    by_cases hlt : i < ie + 1
    · exact writeBytes_of_lt hlt
    · apply writeBytes_of_ge
      rw [length_singleton]
      omega
  rw [hsame]
  apply removeTarget_same (by omega) hend hs
  omega

lemma removeAttr_lenByte (hpos : ie + 6 ≤ pos) (hend : pos + len ≤ ie + s.len)
    (hs : s.len < 2 ^ 32) :
    (removeAttr ie s pos len).mem (ie + 1) = s.mem (ie + 1) - UInt8.ofNat len := by
  have hbefore : (removeTarget ie s pos len).mem (ie + 1) = s.mem (ie + 1) :=
    removeTarget_same (by omega) hend hs (Or.inl (by omega))
  unfold removeAttr
  simp only [hbefore]
  exact (stores_cons.1 (stores_writeBytes ..)).1

variable {e e' : Element} {u x : List UInt8}

variable (e') in
lemma removeAttr_element (houi : oui.length = 4) (h : Stores s.mem ie e.bytes)
    (hlen : s.len = e.bytes.length) (hbody : e.body = oui ++ (u ++ (x ++ w)))
    (hid : e'.id = e.id) (hbody' : e'.body = oui ++ (u ++ w)) :
    Stores (removeAttr ie s (ie + (6 + u.length)) x.length).mem ie e'.bytes ∧
      (removeAttr ie s (ie + (6 + u.length)) x.length).len = e'.bytes.length := by
  have hsmall := e.small
  have hlen' : e.bytes.length = e'.bytes.length + x.length := by
    rw [Element.length_bytes, Element.length_bytes, hbody, hbody']
    simp only [length_append]
    omega
  have hsize : e.bytes.length = 6 + u.length + x.length + w.length := by
    rw [Element.length_bytes, hbody]
    simp only [length_append]
    omega
  have hbytes := e.length_bytes
  obtain ⟨hmem, hbyte, hholds⟩ := stores_element.1 h
  rw [hbody, ← append_assoc] at hholds
  obtain ⟨hfront, hback⟩ := stores_append.1 hholds
  replace hback := (stores_append.1 hback).2
  rw [length_append, houi] at hback
  have hle : ie + 6 ≤ ie + (6 + u.length) := by omega
  have hend : ie + (6 + u.length) + x.length ≤ ie + s.len := by omega
  have hshort : s.len < 2 ^ 32 := by omega
  have hsame : ∀ i, i < ie + (6 + u.length) → i ≠ ie + 1 →
      (removeAttr ie s (ie + (6 + u.length)) x.length).mem i = s.mem i := fun i hi hne =>
    removeAttr_same hle hend hshort (Or.inl ⟨hi, hne⟩)
  refine ⟨stores_element.2 ⟨?_, ?_, ?_⟩, ?_⟩
  · rw [hsame ie (by omega) (by omega), hmem, hid]
  · rw [Element.length_bytes, Element.length_bytes] at hlen'
    unfold bodyLen at hbyte ⊢
    rw [removeAttr_lenByte hle hend hshort, UInt8.toNat_sub_of_le, UInt8.toNat_ofNat', hbyte,
      Nat.mod_eq_of_lt (by omega)]
    · omega
    · rw [UInt8.le_iff_toNat_le, UInt8.toNat_ofNat', hbyte, Nat.mod_eq_of_lt (by omega)]
      omega
  · rw [hbody', ← append_assoc, stores_append, length_append, houi]
    refine ⟨hfront.congr fun i hi hi' => hsame i ?_ (by omega), ?_⟩
    · rw [length_append] at hi'
      omega
    · rw [show ie + 2 + (4 + u.length) = ie + (6 + u.length) by omega] at hback ⊢
      have hmoved := removeTarget_holds (show ie ≤ ie + (6 + u.length) by omega) (by omega) hshort hback
      refine hmoved.congr fun i hi _ => ?_
      apply writeBytes_of_ge
      rw [length_singleton]
      omega
  · rw [removeAttr_len _ _ (by omega) (by omega)]
    omega

end

section

variable {s r : IesBuf} {ie k : ℕ} {target : UInt8}

lemma delAttrStep_fail
    (h : (attrSearch (fun i => s.mem (ie + i)) s.len target k).val = none) :
    (delAttrStep attrSearch k target ie s).val = .inl none := by
  unfold delAttrStep
  rw [Reading.val_bind, h]
  rfl

lemma delAttrStep_stop {res : Option AttrFound}
    (h : (attrSearch (fun i => s.mem (ie + i)) s.len target k).val = some res)
    (hzero : ∀ found ∈ res, found.len = 0) :
    (delAttrStep attrSearch k target ie s).val = .inl (some s) := by
  unfold delAttrStep
  rw [Reading.val_bind, h]
  cases res with
  | none => rfl
  | some found =>
    simp only
    rw [if_pos (hzero found rfl)]
    rfl

lemma delAttrStep_next {found : AttrFound}
    (h : (attrSearch (fun i => s.mem (ie + i)) s.len target k).val = some (some found))
    (hpos : found.len ≠ 0) :
    (delAttrStep attrSearch k target ie s).val =
      .inr (removeAttr ie s (ie + found.pos) found.len) := by
  unfold delAttrStep
  rw [Reading.val_bind, h]
  simp only
  rw [if_neg hpos]
  rfl

lemma delAttrStep_cases (s : IesBuf) (ie k : ℕ) (target : UInt8) :
    (attrSearch (fun i => s.mem (ie + i)) s.len target k).val = none ∧
      (delAttrStep attrSearch k target ie s).val = .inl none ∨
    (∃ res, (attrSearch (fun i => s.mem (ie + i)) s.len target k).val = some res ∧
      (∀ found ∈ res, found.len = 0) ∧
      (delAttrStep attrSearch k target ie s).val = .inl (some s)) ∨
    ∃ found, (attrSearch (fun i => s.mem (ie + i)) s.len target k).val = some (some found) ∧
      found.len ≠ 0 ∧ (delAttrStep attrSearch k target ie s).val =
        .inr (removeAttr ie s (ie + found.pos) found.len) := by
  cases h : (attrSearch (fun i => s.mem (ie + i)) s.len target k).val with
  | none => exact Or.inl ⟨rfl, delAttrStep_fail h⟩
  | some res =>
    by_cases hzero : ∀ found ∈ res, found.len = 0
    · exact Or.inr (Or.inl ⟨res, rfl, hzero, delAttrStep_stop h hzero⟩)
    · push Not at hzero
      obtain ⟨found, hfound, hpos⟩ := hzero
      cases hfound
      exact Or.inr (Or.inr ⟨found, rfl, hpos, delAttrStep_next h hpos⟩)

lemma delAttr_eq_some_iff : delAttr attrSearch k target ie s = some r ↔
    (search (delAttrStep attrSearch k target ie) k s).val = some (some r) :=
  Option.join_eq_some_iff

variable (hkind : SearchesKind oui len16 ieSearch attrSearch)
include hkind

lemma attrSearch_mono {mem : ℕ → UInt8} {n : ℕ} {res : Option AttrFound}
    (h : (attrSearch mem n target k).val = some res) (m : ℕ) :
    (attrSearch mem n target (k + m)).val = some res := by
  obtain ⟨get16, -, hattr⟩ := hkind.attr mem
  rw [hattr] at h ⊢
  exact getAttr_mono h m

lemma delAttr_mono (h : delAttr attrSearch k target ie s = some r) (m : ℕ) :
    delAttr attrSearch (k + m) target ie s = some r := by
  rw [delAttr_eq_some_iff] at h ⊢
  refine search_mono_step (fun s => ?_) h m
  rcases delAttrStep_cases s ie k target with
    ⟨-, hstep⟩ | ⟨res, hres, hzero, hstep⟩ | ⟨found, hfound, hpos, hstep⟩
  · exact Or.inl hstep
  · rw [hstep]
    exact Or.inr (delAttrStep_stop (attrSearch_mono hkind hres m) hzero)
  · rw [hstep]
    exact Or.inr (delAttrStep_next (attrSearch_mono hkind hfound m) hpos)

lemma delAttrStep_shrinks {t : IesBuf} (hs : s.len < 2 ^ 32)
    (h : (delAttrStep attrSearch k target ie s).val = .inr t) :
    t.len < s.len ∧ ∀ i, i < ie ∨ ie + s.len ≤ i → t.mem i = s.mem i := by
  rcases delAttrStep_cases s ie k target with
    ⟨-, hstep⟩ | ⟨res, -, -, hstep⟩ | ⟨found, hfound, hpos, hstep⟩
  · rw [hstep] at h
    cases h
  · rw [hstep] at h
    cases h
  · rw [hstep] at h
    cases h
    obtain ⟨get16, -, hattr⟩ := hkind.attr fun i => s.mem (ie + i)
    rw [hattr] at hfound
    obtain ⟨hsix, hend⟩ := getAttr_found hfound
    constructor
    · rw [removeAttr_len _ _ (by omega) hs]
      omega
    · intro i hi
      apply removeAttr_same (by omega) (by omega) hs
      omega

lemma delAttr_shrinks (hs : s.len < 2 ^ 32)
    {m : ℕ} (h : (search (delAttrStep attrSearch k target ie) m s).val = some (some r)) :
    r.len ≤ s.len ∧ ∀ i, i < ie ∨ ie + s.len ≤ i → r.mem i = s.mem i := by
  obtain ⟨t, hv, ht⟩ := search_val_visits h
  have hall : t.len ≤ s.len ∧ ∀ i, i < ie ∨ ie + s.len ≤ i → t.mem i = s.mem i := by
    clear ht
    induction hv with
    | refl => exact ⟨le_rfl, fun _ _ => rfl⟩
    | @tail u v _ hlast ih =>
      obtain ⟨hle, hsame⟩ := ih
      obtain ⟨hlt, hstep⟩ := delAttrStep_shrinks hkind (by omega) hlast
      refine ⟨by omega, fun i hi => ?_⟩
      rw [hstep i (by omega)]
      exact hsame i hi
  rcases delAttrStep_cases t ie k target with
    ⟨-, hstep⟩ | ⟨res, -, -, hstep⟩ | ⟨found, -, -, hstep⟩
  · rw [hstep] at ht
    cases ht
  · rw [hstep] at ht
    cases ht
    exact hall
  · rw [hstep] at ht
    cases ht

end

/-- `s` is the element `e`, whose body is the OUI, the attributes `xs` and the rest `rest`. -/
structure AttrElementAt (oui : List UInt8) (s : IesBuf) (ie : ℕ) (e : Element)
    (xs : List (Attribute len16)) (rest : List UInt8) : Prop where
  holds : Stores s.mem ie e.bytes
  len : s.len = e.bytes.length
  id : e.id = wlanEidVendorSpecific
  body : e.body = oui ++ (encodeAttrs xs ++ rest)

section

variable {s t r : IesBuf} {ie k m : ℕ} {target : UInt8} {e e' : Element}
  {a b xs : List (Attribute len16)} {x : Attribute len16} {rest : List UInt8}
  (hkind : SearchesKind oui len16 ieSearch attrSearch)
include hkind

lemma AttrElementAt.size (h : AttrElementAt oui s ie e xs rest) :
    s.len = 6 + (encodeAttrs xs ++ rest).length ∧ s.len < 2 ^ 8 + 2 := by
  have hsmall := e.small
  have hlen := h.len
  have hoff := hkind.length
  rw [Element.length_bytes] at hlen
  refine ⟨?_, by omega⟩
  rw [hlen, h.body, length_append]
  omega

lemma AttrElementAt.searches (h : AttrElementAt oui s ie e xs rest) (target : UInt8) :
    ∃ get16 : ℕ → Reading ℕ,
      (∀ p, (get16 p).val = len16 (s.mem (ie + p)) (s.mem (ie + (p + 1)))) ∧
      (∀ k, (attrSearch (fun i => s.mem (ie + i)) s.len target (k + 1)).val =
        (search (getAttrStep (fun i => s.mem (ie + i)) get16 s.len target.toNat) (k + 1) 6).val) ∧
      Stores (fun i => s.mem (ie + i)) 6 (encodeAttrs xs ++ rest) := by
  obtain ⟨get16, hget, hattr⟩ := hkind.attr fun i => s.mem (ie + i)
  have hholds : Stores (fun i => s.mem (ie + i)) 0 e.bytes := stores_shift.2 h.holds
  refine ⟨get16, hget, fun k => ?_, ?_⟩
  · rw [hattr, h.len]
    exact getAttr_element hkind.length hholds h.id h.body hget target
  · have hbody := (stores_element.1 hholds).2.2
    rw [h.body, stores_append, hkind.length] at hbody
    exact hbody.2

lemma AttrElementAt.round (h : AttrElementAt oui s ie e (a ++ x :: b) rest)
    (ha : ∀ y ∈ a, y.id ≠ target) (hx : x.id = target) (hk : s.len < k) :
    ∃ t e', (delAttrStep attrSearch k target ie s).val = .inr t ∧
      AttrElementAt oui t ie e' (a ++ b) rest := by
  obtain ⟨get16, hget, hattr, hholds⟩ := h.searches hkind target
  obtain ⟨hsize, hshort⟩ := h.size hkind
  have hfirst := search_first_attribute (s := rest) hget hholds hsize.symm (by omega) ha hx
  have hcount := length_le_encodeAttrs a
  have hlen : (encodeAttrs (a ++ x :: b) ++ rest).length =
      (encodeAttrs a).length + (x.bytes.length + (encodeAttrs b ++ rest).length) := by
    simp
  obtain ⟨m, rfl⟩ : ∃ m, k = a.length + m + 1 := ⟨k - (a.length + 1), by omega⟩
  have hfound : (attrSearch (fun i => s.mem (ie + i)) s.len target (a.length + m + 1)).val =
      some (some ⟨6 + (encodeAttrs a).length, x.bytes.length⟩) := by
    rw [hattr, Nat.add_right_comm, search_mono hfirst]
    exact hfirst
  have hpos : x.bytes.length ≠ 0 := Nat.succ_ne_zero _
  let e' : Element :=
    { id := e.id
      body := oui ++ (encodeAttrs (a ++ b) ++ rest)
      small := by
        have hsmall := e.small
        rw [h.body, length_append, hlen] at hsmall
        simp only [encodeAttrs_append, length_append] at hsmall ⊢
        omega }
  have hbody : e.body = oui ++ (encodeAttrs a ++ (x.bytes ++ (encodeAttrs b ++ rest))) := by
    simp [h.body]
  have hbody' : e'.body = oui ++ (encodeAttrs a ++ (encodeAttrs b ++ rest)) := by
    simp [e']
  obtain ⟨hholds', hlen'⟩ :=
    removeAttr_element e' hkind.length h.holds h.len hbody rfl hbody'
  exact ⟨_, e', delAttrStep_next hfound hpos, hholds', hlen', h.id, rfl⟩

def otherAttrs (target : UInt8) (xs : List (Attribute len16)) : List (Attribute len16) :=
  xs.filter fun x => x.id ≠ target

omit hkind in
lemma otherAttrs_of_none (h : ∀ y ∈ xs, y.id ≠ target) : otherAttrs target xs = xs := by
  unfold otherAttrs
  rw [filter_eq_self]
  simpa using h

omit hkind in
lemma otherAttrs_remove (hx : x.id = target) :
    otherAttrs target (a ++ x :: b) = otherAttrs target (a ++ b) := by
  simp [otherAttrs, hx]

lemma AttrElementAt.rounds (h : AttrElementAt oui s ie e xs rest) (hk : s.len < k) :
    ∃ t e' j, j ≤ xs.length ∧
      (∀ m, (search (delAttrStep attrSearch k target ie) (j + m) s).val =
        (search (delAttrStep attrSearch k target ie) m t).val) ∧
      AttrElementAt oui t ie e' (otherAttrs target xs) rest ∧
      t.len ≤ s.len ∧ ∀ i, i < ie ∨ ie + s.len ≤ i → t.mem i = s.mem i := by
  induction hn : xs.length generalizing s e xs with
  | zero =>
    have hxs := length_eq_zero_iff.1 hn
    subst hxs
    exact ⟨s, e, 0, le_rfl, fun m => by rw [Nat.zero_add], h, le_rfl, fun _ _ => rfl⟩
  | succ n ih =>
    rcases first_match (fun y : Attribute len16 => y.id = target) xs with
      hno | ⟨a, x, b, rfl, ha, hx⟩
    · rw [otherAttrs_of_none hno]
      exact ⟨s, e, 0, Nat.zero_le _, fun m => by rw [Nat.zero_add], h, le_rfl, fun _ _ => rfl⟩
    · obtain ⟨u, e₁, hstep, hu⟩ := h.round hkind ha hx hk
      have hshort := (h.size hkind).2
      obtain ⟨hlt, hsame⟩ := delAttrStep_shrinks hkind (by omega) hstep
      have hcount : (a ++ b).length = n := by
        simp only [length_append, length_cons] at hn ⊢
        omega
      obtain ⟨t, e', j, hj, hrun, ht, hle, hsame'⟩ := ih hu (by omega) hcount
      refine ⟨t, e', j + 1, by omega, fun m => ?_, ?_, by omega, fun i hi => ?_⟩
      · rw [Nat.add_right_comm, search_next hstep]
        exact hrun m
      · rw [otherAttrs_remove hx]
        exact ht
      · rw [hsame' i (by omega)]
        exact hsame i hi

lemma AttrElementAt.last (h : AttrElementAt oui s ie e xs rest)
    (hno : ∀ y ∈ xs, y.id ≠ target) (hk : s.len < k) :
    (RestOk len16 target rest → (delAttrStep attrSearch k target ie s).val = .inl (some s)) ∧
      ((delAttrStep attrSearch k target ie s).val = .inl (some s) → RestOk len16 target rest) := by
  obtain ⟨get16, hget, hattr, hholds⟩ := h.searches hkind target
  obtain ⟨hsize, hshort⟩ := h.size hkind
  have hwalk := search_attributes (s := rest) hget hholds hsize.symm (by omega) hno
  have hcount := length_le_encodeAttrs xs
  have hrest := (stores_append.1 hholds).2
  rw [length_append, ← Nat.add_assoc] at hsize
  obtain ⟨m, rfl⟩ : ∃ m, k = xs.length + (m + 1) := ⟨k - xs.length - 1, by omega⟩
  have hval := hattr (xs.length + m)
  rw [Nat.add_assoc, hwalk (m + 1)] at hval
  constructor
  · intro hok
    obtain ⟨res, hres, hzero⟩ := search_rest_of_ok (k := m + 1) hget hrest hsize.symm hok (by omega)
    exact delAttrStep_stop (hval.trans hres) hzero
  · intro hstop
    rcases delAttrStep_cases s ie (xs.length + (m + 1)) target with
      ⟨-, hstep⟩ | ⟨res, hres, hzero, -⟩ | ⟨found, -, -, hstep⟩
    · rw [hstop] at hstep
      cases hstep
    · exact ok_of_search_rest hget hrest hsize.symm (hval.symm.trans hres) hzero
    · rw [hstop] at hstep
      cases hstep

omit hkind in
lemma otherAttrs_ne (target : UInt8) (xs : List (Attribute len16)) :
    ∀ y ∈ otherAttrs target xs, y.id ≠ target := by
  intro y hy
  simpa using (mem_filter.1 hy).2

lemma delAttr_of_ok (h : AttrElementAt oui s ie e xs rest) (hok : RestOk len16 target rest)
    (hk : s.len < k) : ∃ r e', delAttr attrSearch k target ie s = some r ∧
      AttrElementAt oui r ie e' (otherAttrs target xs) rest ∧ r.len ≤ s.len ∧
      ∀ i, i < ie ∨ ie + s.len ≤ i → r.mem i = s.mem i := by
  obtain ⟨t, e', j, hj, hrun, ht, hle, hsame⟩ := h.rounds hkind hk
  have hend := (ht.last (k := k) hkind (otherAttrs_ne target xs) (by omega)).1 hok
  have hcount := length_le_encodeAttrs xs
  have hsize := (h.size hkind).1
  rw [length_append] at hsize
  refine ⟨t, e', ?_, ht, hle, hsame⟩
  obtain ⟨m, rfl⟩ : ∃ m, k = j + (m + 1) := ⟨k - j - 1, by omega⟩
  rw [delAttr_eq_some_iff, hrun (m + 1), search_done hend]

lemma delAttr_bound (h : AttrElementAt oui s ie e xs rest)
    (hr : delAttr attrSearch k target ie s = some r) :
    r.len ≤ 6 + (encodeAttrs (otherAttrs target xs) ++ rest).length ∧
      (r.len = 6 + (encodeAttrs (otherAttrs target xs) ++ rest).length →
        RestOk len16 target rest) ∧
      ∀ i, i < ie ∨ ie + s.len ≤ i → r.mem i = s.mem i := by
  have hshort := (h.size hkind).2
  have hmono := delAttr_mono hkind hr (s.len + 1)
  rw [delAttr_eq_some_iff] at hmono
  obtain ⟨K, hK⟩ : ∃ K, K = k + (s.len + 1) := ⟨_, rfl⟩
  rw [← hK] at hmono
  have hall := (delAttr_shrinks hkind (by omega) hmono).2
  obtain ⟨t, e', j, hj, hrun, ht, hle, -⟩ := h.rounds (k := K) hkind (by omega)
  have hsize := (ht.size hkind).1
  have hcount := length_le_encodeAttrs xs
  have hlen := (h.size hkind).1
  rw [length_append] at hlen
  obtain ⟨m, hm⟩ : ∃ m, K = j + (m + 1) := ⟨K - j - 1, by omega⟩
  have hrest := hrun (m + 1)
  rw [← hm, hmono] at hrest
  rcases delAttrStep_cases t ie K target with
    ⟨-, hstep⟩ | ⟨res, -, -, hstep⟩ | ⟨found, -, -, hstep⟩
  · rw [search_done hstep] at hrest
    cases hrest
  · rw [search_done hstep] at hrest
    cases hrest
    exact ⟨by omega, fun _ => (ht.last hkind (otherAttrs_ne target xs) (by omega)).2 hstep, hall⟩
  · have hlt := (delAttrStep_shrinks hkind (by omega) hstep).1
    rw [search_next hstep] at hrest
    have hshrinks := (delAttr_shrinks hkind (by omega) hrest.symm).1
    exact ⟨by omega, fun heq => absurd heq (by omega), hall⟩

end

end Rtl8831.Core
