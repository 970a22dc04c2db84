import Rtl8831.Core.IeEditList
import Rtl8831.Core.P2pDeleteAttr

/-!
# Deleting from a stored list of elements

The search compares four bytes behind the header of a vendor element, also where the element
is shorter: the next elements may complete the OUI.  Deleting elements is right just if that
does not happen in the list that has to be left.  Deleting attributes looks into each element
that the search finds, and goes on behind it.
-/

namespace Rtl8831.Core

open Lib List

variable {oui : List UInt8} {len16 : UInt8 → UInt8 → ℕ} {ieSearch : IeSearch}
  {attrSearch : AttrSearch}

/-- The search takes `e` for an element with the OUI. -/
def Looks (oui : List UInt8) (e : Element) (rest : List Element) : Prop :=
  e.id = wlanEidVendorSpecific ∧ oui <+: e.body ++ encode rest

instance (e : Element) (rest : List Element) : Decidable (Looks oui e rest) :=
  inferInstanceAs (Decidable (_ ∧ _))

def NoneLooks (oui : List UInt8) (es : List Element) : Prop :=
  ∀ a e b, es = a ++ e :: b → ¬ Looks oui e b

/-- What the search finds in a list that starts at `p`. -/
def firstLook (oui : List UInt8) : ℕ → List Element → Option IeFound
  | _, [] => none
  | p, e :: es =>
    if Looks oui e es then some { pos := p, ielen := some e.bytes.length }
    else firstLook oui (p + e.bytes.length) es

section

variable {mem : ℕ → UInt8} {e : Element} {a b es : List Element} {p n k : ℕ}

lemma Element.Matches.looks (h : e.Matches wlanEidVendorSpecific (some oui)) :
    Looks oui e es :=
  ⟨h.1.symm, (h.2 oui rfl).trans (prefix_append _ _)⟩

lemma firstLook_cases (oui : List UInt8) (p : ℕ) (es : List Element) :
    firstLook oui p es = none ∧ NoneLooks oui es ∨
      ∃ a e b, es = a ++ e :: b ∧ Looks oui e b ∧
        (∀ x ∈ a, ¬ x.Matches wlanEidVendorSpecific (some oui)) ∧
        firstLook oui p es =
          some { pos := p + (encode a).length, ielen := some e.bytes.length } := by
  induction es generalizing p with
  | nil => exact Or.inl ⟨rfl, fun a e b h => by simp at h⟩
  | cons x es ih =>
    by_cases hx : Looks oui x es
    · refine Or.inr ⟨[], x, es, rfl, hx, by simp, ?_⟩
      rw [firstLook, if_pos hx]
      simp
    · rw [firstLook, if_neg hx]
      rcases ih (p + x.bytes.length) with ⟨hnone, hall⟩ | ⟨a, e, b, rfl, he, ha, hfound⟩
      · refine Or.inl ⟨hnone, fun a e b hes => ?_⟩
        cases a with
        | nil =>
          cases hes
          exact hx
        | cons y a =>
          cases hes
          exact hall a e b rfl
      · refine Or.inr ⟨x :: a, e, b, rfl, he, fun y hy => ?_, ?_⟩
        · rcases mem_cons.1 hy with rfl | hy
          · exact fun hm => hx hm.looks
          · exact ha y hy
        · rw [hfound, encode_cons, length_append, Nat.add_assoc]

section

variable (houi : oui.length = 4)
include houi

lemma firstLook_short (h : (encode es).length < 6) :
    firstLook oui p es = none := by
  rcases firstLook_cases oui p es with ⟨hnone, -⟩ | ⟨a, e, b, rfl, he, -, -⟩
  · exact hnone
  · have hle := he.2.length_le
    rw [length_encode_split, Element.length_bytes] at h
    rw [length_append] at hle
    omega

lemma hit_iff_looks (h : Stores mem p (encode (e :: es)))
    (hlong : 6 ≤ (encode (e :: es)).length) :
    GetIeExHit mem wlanEidVendorSpecific (some oui) p ↔ Looks oui e es := by
  rw [encode_cons, length_append, Element.length_bytes] at hlong
  rw [encode_cons] at h
  obtain ⟨hbytes, hrest⟩ := stores_append.1 h
  obtain ⟨hid, -, hbody⟩ := stores_element.1 hbytes
  have hall : Stores mem (p + 2) (e.body ++ encode es) := by
    refine stores_append.2 ⟨hbody, ?_⟩
    rw [Element.length_bytes] at hrest
    rw [show p + 2 + e.body.length = p + (e.body.length + 2) by omega]
    exact hrest
  unfold GetIeExHit OuiFits Looks
  rw [hid, eq_comm]
  refine and_congr_right fun _ => ?_
  rw [← ouiAt_iff_prefix hall (by rw [length_append]; omega)]
  constructor
  · exact fun hfits => hfits oui rfl
  · intro hat o ho
    cases ho
    exact hat

lemma getVendorIe_list (h : Stores mem p (encode es))
    (hn : p + (encode es).length = n) (hmax : n ≤ maxIeSz) (hk : es.length < k) :
    (search (getVendorIeStep mem oui n ⟨false, true⟩) k p).val = some (firstLook oui p es) := by
  induction k generalizing p es with
  | zero => exact absurd hk (Nat.not_lt_zero _)
  | succ k ih =>
    by_cases hgo : p + 5 < n ∧ p + 5 < maxIeSz
    · cases es with
      | nil =>
        rw [encode_nil, length_nil] at hn
        omega
      | cons e es =>
        have hhit := hit_iff_looks houi h (by omega)
        rw [encode_cons] at h hn
        obtain ⟨hbytes, hrest⟩ := stores_append.1 h
        rw [length_append, ← Nat.add_assoc] at hn
        rw [firstLook]
        by_cases hlooks : Looks oui e es
        · have hlen := (stores_element.1 hbytes).2.1
          have hout : (handOut mem ⟨false, true⟩ p).val =
              ⟨p, some (bodyLen mem p + 2), none⟩ := rfl
          rw [if_pos hlooks, search_done ((getVendorIeStep_val hgo).1 (hhit.2 hlooks)), hout,
            hlen, Element.length_bytes]
        · rw [if_neg hlooks, search_next ((getVendorIeStep_val hgo).2 (mt hhit.1 hlooks)),
            ieEnd_element hbytes]
          rw [length_cons] at hk
          exact ih hrest hn (by omega)
    · rw [search_done (getVendorIeStep_stop hgo).1, firstLook_short houi (by omega)]

end

end

abbrev HasOui (oui : List UInt8) (e : Element) : Prop := e.Matches wlanEidVendorSpecific (some oui)

abbrev withoutOui (oui : List UInt8) (es : List Element) : List Element :=
  kept wlanEidVendorSpecific (some oui) es

lemma prefix_withoutOui (hno : wlanEidVendorSpecific ∉ oui) {x : List UInt8} {es : List Element}
    (h : oui <+: x ++ encode es) : oui <+: x ++ encode (withoutOui oui es) := by
  induction es generalizing x with
  | nil => exact h
  | cons e es ih =>
    rcases prefix_or_prefix_of_prefix h (prefix_append x _) with hx | ⟨t, ht⟩
    · exact hx.trans (prefix_append _ _)
    · cases t with
      | nil =>
        rw [append_nil] at ht
        rw [← ht]
        exact prefix_append _ _
      | cons c t =>
        rw [← ht, prefix_append_right_inj, encode_cons, Element.bytes, cons_append,
          cons_prefix_cons] at h
        have hid : ¬ HasOui oui e := by
          rintro ⟨hvendor, -⟩
          apply hno
          rw [← ht, hvendor, ← h.1]
          simp
        have hkeep : withoutOui oui (e :: es) = e :: withoutOui oui es := by
          simp [withoutOui, kept, hid]
        rw [hkeep, encode_cons, ← append_assoc]
        apply ih
        rw [append_assoc, ← encode_cons, ← ht, prefix_append_right_inj]
        rw [encode_cons, Element.bytes, cons_append, cons_prefix_cons]
        exact h

section

variable {mem : ℕ → UInt8} {s r : IesBuf} {ies n k j : ℕ} {e : Element} {a b es : List Element}

lemma withoutOui_remove (he : HasOui oui e) :
    withoutOui oui (a ++ e :: b) = withoutOui oui (a ++ b) := by
  simp [withoutOui, kept, he]

lemma withoutOui_split (he : ¬ HasOui oui e) :
    withoutOui oui (a ++ e :: b) = withoutOui oui a ++ e :: withoutOui oui b := by
  simp [withoutOui, kept, he]

lemma length_encode_withoutOui (oui : List UInt8) (es : List Element) :
    (encode (withoutOui oui es)).length ≤ (encode es).length :=
  ((filter_sublist).flatMap _).length_le

lemma withoutOui_of_none (h : NoneLooks oui es) : withoutOui oui es = es := by
  refine kept_of_no_match fun x hx hm => ?_
  obtain ⟨a, b, rfl⟩ := append_of_mem hx
  exact h a x b rfl hm.looks

variable (hkind : SearchesKind oui len16 ieSearch attrSearch)
include hkind

lemma ieSearch_list (h : Stores mem ies (encode es)) (hn : (encode es).length = n)
    (hmax : n ≤ maxIeSz) (hk : es.length < k) :
    (ieSearch (fun i => mem (ies + i)) (toInt32 n) ⟨false, true⟩ k).val =
      some (firstLook oui 0 es) := by
  have hshort : maxIeSz < 2 ^ 31 := by decide
  rw [toInt32_of_lt (by omega), hkind.ie]
  exact getVendorIe_list hkind.length (stores_shift.2 h) (by omega) hmax hk

lemma ieSearch_unique (h : Stores mem ies (encode es)) (hn : (encode es).length = n)
    (hmax : n ≤ maxIeSz) {res : Option IeFound}
    (hres : (ieSearch (fun i => mem (ies + i)) (toInt32 n) ⟨false, true⟩ k).val = some res) :
    res = firstLook oui 0 es := by
  have hlist := ieSearch_list hkind h hn hmax (Nat.lt_succ_self _)
  have hshort : maxIeSz < 2 ^ 31 := by decide
  rw [toInt32_of_lt (by omega), hkind.ie] at hlist hres
  exact search_val_unique hres hlist

/-- The buffer holds the list `es` from `ies` on, and nothing else. -/
structure ListIn (s : IesBuf) (ies : ℕ) (es : List Element) : Prop where
  holds : Stores s.mem ies (encode es)
  len : s.len = (encode es).length
  fits : s.len ≤ maxIeSz

omit hkind in
lemma delIeStep_stop {res : Option IeFound}
    (h : (ieSearch (fun i => s.mem (ies + i)) (toInt32 s.len) ⟨false, true⟩ k).val = some res)
    (hzero : ∀ found ∈ res, found.ielen.getD 0 = 0) :
    (delIeStep ieSearch k ies s).val = .inl (some s) := by
  unfold delIeStep
  rw [Reading.val_bind, h]
  cases res with
  | none => rfl
  | some found =>
    simp only
    rw [if_pos (hzero found rfl)]
    rfl

omit hkind in
lemma delIeStep_next {found : IeFound}
    (h : (ieSearch (fun i => s.mem (ies + i)) (toInt32 s.len) ⟨false, true⟩ k).val =
      some (some found)) (hpos : found.ielen.getD 0 ≠ 0) :
    (delIeStep ieSearch k ies s).val =
      .inr (removeTarget ies s (ies + found.pos) (found.ielen.getD 0)) := by
  unfold delIeStep
  rw [Reading.val_bind, h]
  simp only
  rw [if_neg hpos]
  rfl

omit hkind in
lemma delIeStep_done (h : (delIeStep ieSearch k ies s).val = .inl (some r)) :
    r = s ∧ ∃ res, (ieSearch (fun i => s.mem (ies + i)) (toInt32 s.len) ⟨false, true⟩ k).val =
      some res ∧ ∀ found ∈ res, found.ielen.getD 0 = 0 := by
  cases hval : (ieSearch (fun i => s.mem (ies + i)) (toInt32 s.len) ⟨false, true⟩ k).val with
  | none =>
    unfold delIeStep at h
    rw [Reading.val_bind, hval] at h
    cases h
  | some res =>
    by_cases hzero : ∀ found ∈ res, found.ielen.getD 0 = 0
    · rw [delIeStep_stop hval hzero] at h
      cases h
      exact ⟨rfl, res, rfl, hzero⟩
    · push Not at hzero
      obtain ⟨found, hfound, hpos⟩ := hzero
      cases hfound
      rw [delIeStep_next hval hpos] at h
      cases h

omit hkind in
lemma ListIn.remove (hs : ListIn s ies (a ++ e :: b)) :
    ListIn (removeTarget ies s (ies + (encode a).length) e.bytes.length) ies (a ++ b) ∧
      ∀ i < ies, (removeTarget ies s (ies + (encode a).length) e.bytes.length).mem i = s.mem i := by
  have hfits := hs.fits
  have hlen := hs.len
  have hmax : maxIeSz < 2 ^ 32 := by decide
  have hholds := hs.holds
  rw [length_encode_split] at hlen
  rw [encode_append, encode_cons] at hholds
  obtain ⟨hfront, hrest⟩ := stores_append.1 hholds
  replace hrest := (stores_append.1 hrest).2
  have hpos : ies ≤ ies + (encode a).length := by omega
  have hend : ies + (encode a).length + e.bytes.length ≤ ies + s.len := by omega
  have hshort : s.len < 2 ^ 32 := by omega
  have hsame : ∀ i < ies + (encode a).length,
      (removeTarget ies s (ies + (encode a).length) e.bytes.length).mem i = s.mem i := fun i hi =>
    removeTarget_same hpos hend hshort (Or.inl hi)
  have hnew := removeTarget_len ies (ies + (encode a).length)
    (show e.bytes.length ≤ s.len by omega) hshort
  refine ⟨⟨?_, ?_, by omega⟩, fun i hi => hsame i (by omega)⟩
  · rw [encode_append, stores_append]
    refine ⟨hfront.congr fun i _ hi => hsame i hi, ?_⟩
    exact removeTarget_holds hpos (by omega) hshort hrest
  · rw [hnew, encode_append, length_append]
    omega

lemma delIe_search (hs : ListIn s ies es) (hlooks : NoneLooks oui (withoutOui oui es))
    (hk : es.length < k) (hj : es.length < j) :
    ∃ r, (search (delIeStep ieSearch k ies) j s).val = some (some r) ∧
      ListIn r ies (withoutOui oui es) ∧ ∀ i < ies, r.mem i = s.mem i := by
  induction j generalizing s es with
  | zero => exact absurd hj (Nat.not_lt_zero _)
  | succ j ih =>
    have hval := ieSearch_list hkind hs.holds hs.len.symm hs.fits hk
    rcases firstLook_cases oui 0 es with ⟨hnone, hall⟩ | ⟨a, e, b, rfl, he, -, hfound⟩
    · rw [hnone] at hval
      rw [withoutOui_of_none hall]
      exact ⟨s, by rw [search_done (delIeStep_stop hval (by simp))], hs, fun _ _ => rfl⟩
    · have hoff : HasOui oui e := by
        by_contra hoff
        rw [withoutOui_split hoff] at hlooks
        exact hlooks _ e _ rfl ⟨he.1, prefix_withoutOui hkind.no_vendor he.2⟩
      rw [hfound] at hval
      have hstep := delIeStep_next hval (Nat.succ_ne_zero _)
      simp only [Nat.zero_add, Option.getD_some] at hstep
      obtain ⟨hnext, hsame⟩ := hs.remove
      rw [withoutOui_remove hoff] at hlooks ⊢
      simp only [length_append, length_cons] at hk hj
      obtain ⟨r, hr, hlist, hbefore⟩ := ih hnext hlooks (by rw [length_append]; omega)
        (by rw [length_append]; omega)
      refine ⟨r, by rw [search_next hstep]; exact hr, hlist, fun i hi => ?_⟩
      rw [hbefore i hi]
      exact hsame i hi

omit hkind in
lemma delIe_eq_some_iff : delIe ieSearch k ies s = some r ↔
    (search (delIeStep ieSearch k ies) k s).val = some (some r) :=
  Option.join_eq_some_iff

lemma delIe_iff (hs : ListIn s ies es) :
    (∃ rounds r, delIe ieSearch rounds ies s = some r ∧ ListIn r ies (withoutOui oui es) ∧
      ∀ i < ies, r.mem i = s.mem i) ↔ NoneLooks oui (withoutOui oui es) := by
  constructor
  · rintro ⟨rounds, r, hr, hlist, -⟩
    rw [delIe_eq_some_iff] at hr
    obtain ⟨t, -, ht⟩ := search_val_visits hr
    obtain ⟨rfl, res, hres, hzero⟩ := delIeStep_done ht
    have hfirst := ieSearch_unique hkind hlist.holds hlist.len.symm hlist.fits hres
    rcases firstLook_cases oui 0 (withoutOui oui es) with
      ⟨-, hall⟩ | ⟨a, e, b, -, -, -, hfound⟩
    · exact hall
    · rw [hfound] at hfirst
      exact absurd (hzero _ hfirst) (Nat.succ_ne_zero _)
  · intro hlooks
    obtain ⟨r, hr, hlist, hsame⟩ :=
      delIe_search hkind hs hlooks (Nat.lt_succ_self _) (Nat.lt_succ_self _)
    exact ⟨es.length + 1, r, delIe_eq_some_iff.2 hr, hlist, hsame⟩

/-- The buffer holds the list `es` behind the fixed fields. -/
structure BssStored (bss : IesBuf) (offset : ℕ) (es : List Element) : Prop where
  holds : Stores bss.mem offset (encode es)
  len : bss.len = offset + (encode es).length
  fits : bss.len ≤ maxIeSz

omit hkind in
lemma BssStored.listIn {bss : IesBuf} {offset : ℕ} (h : BssStored bss offset es) :
    ListIn ⟨bss.mem, sub32 bss.len offset⟩ offset es := by
  have hlen := h.len
  have hfits := h.fits
  have hmax : maxIeSz < 2 ^ 32 := by decide
  have hsub : sub32 bss.len offset = (encode es).length := by
    rw [sub32_of_le (by omega) (by omega)]
    omega
  exact ⟨h.holds, hsub, by simp only [hsub]; omega⟩

omit hkind in
lemma delIe_len_lt (hs : s.len < 2 ^ 32) (h : delIe ieSearch k ies s = some r) :
    r.len < 2 ^ 32 := by
  rw [delIe_eq_some_iff] at h
  obtain ⟨t, hv, ht⟩ := search_val_visits h
  obtain ⟨rfl, -⟩ := delIeStep_done ht
  rcases hv.cases_tail with rfl | ⟨u, -, hu⟩
  · exact hs
  · cases hval : (ieSearch (fun i => u.mem (ies + i)) (toInt32 u.len) ⟨false, true⟩ k).val with
    | none =>
      unfold delIeStep at hu
      rw [Reading.val_bind, hval] at hu
      cases hu
    | some res =>
      by_cases hzero : ∀ found ∈ res, found.ielen.getD 0 = 0
      · rw [delIeStep_stop hval hzero] at hu
        cases hu
      · push Not at hzero
        obtain ⟨found, hfound, hpos⟩ := hzero
        cases hfound
        rw [delIeStep_next hval hpos] at hu
        cases hu
        exact Nat.mod_lt _ (by decide)

lemma bssExDelIe_iff {bss : IesBuf} {offset : ℕ} (h : BssStored bss offset es) :
    (∃ rounds r, bssExDelIe ieSearch rounds offset bss = some r ∧
      BssStored r offset (withoutOui oui es) ∧ ∀ i < offset, r.mem i = bss.mem i) ↔
        NoneLooks oui (withoutOui oui es) := by
  have hlen := h.len
  have hfits := h.fits
  have hmax : maxIeSz < 2 ^ 32 := by decide
  have hin := h.listIn
  have hori := hin.len
  rw [← delIe_iff hkind hin]
  constructor
  · rintro ⟨rounds, r, hr, hstored, hsame⟩
    unfold bssExDelIe at hr
    simp only at hr
    cases hdel : delIe ieSearch rounds offset ⟨bss.mem, sub32 bss.len offset⟩ with
    | none =>
      rw [hdel] at hr
      cases hr
    | some r' =>
      rw [hdel] at hr
      cases hr
      have hlt := delIe_len_lt (by rw [hori]; omega) hdel
      have hnew := hstored.len
      have hnewFits := hstored.fits
      simp only at hori hnew hnewFits
      unfold sub32 at hori hnew hnewFits
      exact ⟨rounds, r', hdel, ⟨hstored.holds, by omega, by omega⟩, hsame⟩
  · rintro ⟨rounds, r', hdel, hlist, hsame⟩
    have hnew := hlist.len
    have hnewFits := hlist.fits
    refine ⟨rounds, ⟨r'.mem, sub32 bss.len (sub32 (sub32 bss.len offset) r'.len)⟩, ?_, ?_, hsame⟩
    · unfold bssExDelIe
      simp only [hdel]
    · have hle := length_encode_withoutOui oui es
      simp only at hori
      unfold sub32 at hori
      refine ⟨hlist.holds, ?_, ?_⟩
      · simp only
        unfold sub32
        omega
      · simp only
        unfold sub32
        omega

end

def attrsOf (len16 : UInt8 → UInt8 → ℕ) (e : Element) : List (Attribute len16) × List UInt8 :=
  splitAttrs len16 (e.body.length + 1) (e.body.drop 4)

lemma attrsOf_spec (houi : oui.length = 4) {e : Element} (he : HasOui oui e) :
    e.body = oui ++ (encodeAttrs (attrsOf len16 e).1 ++ (attrsOf len16 e).2) ∧
      splitAttr len16 (attrsOf len16 e).2 = none := by
  constructor
  · obtain ⟨t, ht⟩ := he.2 oui rfl
    have hdrop : e.body.drop 4 = t := by
      rw [← ht, ← houi, drop_left]
    unfold attrsOf
    rw [encode_splitAttrs, hdrop, ht]
  · apply splitAttr_rest
    rw [length_drop]
    omega

def bodyWithout (len16 : UInt8 → UInt8 → ℕ) (target : UInt8) (e : Element) : List UInt8 :=
  e.body.take 4 ++ (encodeAttrs (otherAttrs target (attrsOf len16 e).1) ++ (attrsOf len16 e).2)

lemma length_encode_otherAttrs (target : UInt8) (xs : List (Attribute len16)) :
    (encodeAttrs (otherAttrs target xs)).length ≤ (encodeAttrs xs).length :=
  ((filter_sublist).flatMap _).length_le

lemma length_bodyWithout (len16 : UInt8 → UInt8 → ℕ) (target : UInt8) (e : Element) :
    (bodyWithout len16 target e).length ≤ e.body.length := by
  have hsplit := congrArg length (encode_splitAttrs len16 (e.body.length + 1)
    (e.body.drop 4))
  have hle := length_encode_otherAttrs target (attrsOf len16 e).1
  unfold bodyWithout attrsOf at *
  simp only [length_append, length_take, length_drop] at hsplit ⊢
  omega

def withoutAttr (oui : List UInt8) (len16 : UInt8 → UInt8 → ℕ) (target : UInt8) (e : Element) :
    Element :=
  if HasOui oui e then
    { id := e.id
      body := bodyWithout len16 target e
      small := (length_bodyWithout len16 target e).trans_lt e.small }
  else e

lemma withoutAttr_of_not {target : UInt8} {e : Element} (he : ¬ HasOui oui e) :
    withoutAttr oui len16 target e = e :=
  if_neg he

lemma length_withoutAttr (oui : List UInt8) (len16 : UInt8 → UInt8 → ℕ) (target : UInt8)
    (e : Element) : (withoutAttr oui len16 target e).bytes.length ≤ e.bytes.length := by
  have hle := length_bodyWithout len16 target e
  rw [Element.length_bytes, Element.length_bytes]
  unfold withoutAttr
  split
  · simp only
    omega
  · exact le_rfl

lemma map_withoutAttr {target : UInt8} {a : List Element} (ha : ∀ x ∈ a, ¬ HasOui oui x) :
    a.map (withoutAttr oui len16 target) = a := by
  conv_rhs => rw [← map_id a]
  exact map_congr_left fun x hx => withoutAttr_of_not (ha x hx)

section

variable {bss s r : IesBuf} {st : BssExDel} {ies ie n k j : ℕ} {target : UInt8} {e : Element}
  {a b c es : List Element} {mem : ℕ → UInt8}

lemma AttrElementAt.eq_withoutAttr {e' : Element} (houi : oui.length = 4) (he : HasOui oui e)
    (h : AttrElementAt oui r ie e' (otherAttrs target (attrsOf len16 e).1) (attrsOf len16 e).2) :
    e' = withoutAttr oui len16 target e := by
  have hid := h.id.trans he.1
  have htake : e.body.take 4 = oui := by
    obtain ⟨t, ht⟩ := he.2 oui rfl
    rw [← ht, ← houi, take_left]
  have hbody := h.body
  rw [← htake] at hbody
  unfold withoutAttr
  rw [if_pos he]
  cases e'
  simp only at hid hbody
  subst hid hbody
  rfl

variable (hkind : SearchesKind oui len16 ieSearch attrSearch)
include hkind

lemma attrElementAt_of_hasOui (he : HasOui oui e) (h : Stores mem ie e.bytes) :
    AttrElementAt oui ⟨mem, e.bytes.length⟩ ie e (attrsOf len16 e).1 (attrsOf len16 e).2 :=
  ⟨h, rfl, he.1.symm, (attrsOf_spec hkind.length he).1⟩

variable (ie k target) in
lemma delAttrStep_short (hn : s.len ≤ 6) :
    (delAttrStep attrSearch k target ie s).val = .inl (some s) := by
  obtain ⟨get16, -, hattr⟩ := hkind.attr fun i => s.mem (ie + i)
  have hnone : (attrSearch (fun i => s.mem (ie + i)) s.len target k).val = some none := by
    rw [hattr, getAttr, if_pos hn]
    rfl
  exact delAttrStep_stop hnone (by simp)

section

variable (hlooks : Looks oui e b)
include hlooks

lemma short_of_looks (he : ¬ HasOui oui e) : e.bytes.length ≤ 6 := by
  by_contra hlong
  rw [Element.length_bytes] at hlong
  have hoff := hkind.length
  refine he ⟨hlooks.1.symm, fun o ho => ?_⟩
  cases ho
  exact prefix_of_prefix_length_le hlooks.2 (prefix_append _ _) (by omega)

lemma delAttr_looks_of_ok (h : Stores mem ie e.bytes)
    (hok : HasOui oui e → RestOk len16 target (attrsOf len16 e).2) (hk : e.bytes.length < k) :
    ∃ r, delAttr attrSearch k target ie ⟨mem, e.bytes.length⟩ = some r ∧
      Stores r.mem ie (withoutAttr oui len16 target e).bytes ∧
      r.len = (withoutAttr oui len16 target e).bytes.length ∧ r.len ≤ e.bytes.length ∧
      ∀ i, i < ie ∨ ie + e.bytes.length ≤ i → r.mem i = mem i := by
  by_cases he : HasOui oui e
  · obtain ⟨r, e', hr, hat, hle, hsame⟩ :=
      delAttr_of_ok hkind (attrElementAt_of_hasOui hkind he h) (hok he) hk
    have heq := hat.eq_withoutAttr hkind.length he
    subst heq
    exact ⟨r, hr, hat.holds, hat.len, hle, hsame⟩
  · have hstep := delAttrStep_short (s := ⟨mem, e.bytes.length⟩) ie k target hkind
      (short_of_looks hkind hlooks he)
    obtain ⟨k, rfl⟩ := Nat.exists_eq_succ_of_ne_zero (show k ≠ 0 by omega)
    rw [withoutAttr_of_not he]
    exact ⟨⟨mem, e.bytes.length⟩, delAttr_eq_some_iff.2 (by rw [search_done hstep]), h, rfl,
      le_rfl, fun _ _ => rfl⟩

lemma delAttr_looks_bound (h : Stores mem ie e.bytes)
    (hr : delAttr attrSearch k target ie ⟨mem, e.bytes.length⟩ = some r) :
    r.len ≤ (withoutAttr oui len16 target e).bytes.length ∧
      (r.len = (withoutAttr oui len16 target e).bytes.length → HasOui oui e →
        RestOk len16 target (attrsOf len16 e).2) ∧ r.len ≤ e.bytes.length ∧
      ∀ i, i < ie ∨ ie + e.bytes.length ≤ i → r.mem i = mem i := by
  by_cases he : HasOui oui e
  · obtain ⟨hle, hiff, hsame⟩ := delAttr_bound hkind (attrElementAt_of_hasOui hkind he h) hr
    have hlen : (withoutAttr oui len16 target e).bytes.length =
        6 + (encodeAttrs (otherAttrs target (attrsOf len16 e).1) ++ (attrsOf len16 e).2).length := by
      have hfour := (he.2 oui rfl).length_le
      have hoff := hkind.length
      rw [Element.length_bytes]
      unfold withoutAttr bodyWithout
      rw [if_pos he, length_append, length_take]
      omega
    have htotal := length_withoutAttr oui len16 target e
    rw [← hlen] at hle hiff
    exact ⟨hle, fun heq _ => hiff heq, hle.trans htotal, hsame⟩
  · have hstep := delAttrStep_short (s := ⟨mem, e.bytes.length⟩) ie k target hkind
      (short_of_looks hkind hlooks he)
    rw [delAttr_eq_some_iff] at hr
    rw [withoutAttr_of_not he]
    cases k with
    | zero => cases hr
    | succ k =>
      rw [search_done hstep] at hr
      cases hr
      exact ⟨le_rfl, fun _ h => absurd h he, le_rfl, fun _ _ => rfl⟩

end

/-- The loop has the list `c` in front of it. -/
structure DelAt (st : BssExDel) (c : List Element) : Prop where
  holds : Stores st.bss.mem st.ies (encode c)
  len : st.bss.len = st.ies + (encode c).length
  iesLen : (encode c).length = st.iesLen
  fits : st.bss.len ≤ maxIeSz

omit hkind in
lemma goOn_spec (h : Stores r.mem (ie + n) (encode b))
    (hlen : st.bss.len = ie + n + (encode b).length) (hfits : st.bss.len ≤ maxIeSz)
    (hle : r.len ≤ n) :
    (st.goOn ie n r).ies = ie + r.len ∧ DelAt (st.goOn ie n r) b ∧
      ∀ i < ie + r.len, (st.goOn ie n r).bss.mem i = r.mem i := by
  have hmax : maxIeSz < 2 ^ 32 := by decide
  have hremain : sub32 st.bss.len (ie + n) = (encode b).length := by
    rw [sub32_of_le (by omega) (by omega)]
    omega
  unfold BssExDel.goOn
  simp only [hremain]
  by_cases hsame : r.len = n
  · rw [if_neg (not_not.2 hsame), hsame]
    exact ⟨rfl, ⟨h, hlen, rfl, hfits⟩, fun _ _ => rfl⟩
  · have hnew : sub32 st.bss.len (sub32 n r.len) = ie + r.len + (encode b).length := by
      rw [sub32_of_le (a := n) hle (by omega), sub32_of_le (by omega) (by omega)]
      omega
    rw [if_pos hsame, hnew, h.eq]
    refine ⟨rfl, ⟨?_, rfl, rfl, by simp only; omega⟩, fun i hi => ?_⟩
    · exact (stores_writeBytes ..).writeBytes_before le_rfl
    · exact (writeBytes_of_lt (by omega)).trans (writeBytes_of_lt hi)

omit hkind in
lemma DelAt.split (hs : DelAt st (a ++ e :: b)) :
    Stores st.bss.mem st.ies (encode a) ∧ Stores st.bss.mem (st.ies + (encode a).length) e.bytes ∧
      Stores st.bss.mem (st.ies + (encode a).length + e.bytes.length) (encode b) ∧
      st.bss.len = st.ies + (encode a).length + e.bytes.length + (encode b).length := by
  have hlen := hs.len
  have hholds := hs.holds
  rw [length_encode_split] at hlen
  rw [encode_append, encode_cons] at hholds
  obtain ⟨hfront, hrest⟩ := stores_append.1 hholds
  obtain ⟨he, hb⟩ := stores_append.1 hrest
  exact ⟨hfront, he, hb, by omega⟩

omit hkind in
lemma bssStep_stop
    (h : (ieSearch (fun i => st.bss.mem (st.ies + i)) (toInt32 st.iesLen) ⟨false, true⟩ k).val =
      some none) :
    (bssExDelAttrStep ieSearch attrSearch k target st).val = .inl (some st.bss) := by
  unfold bssExDelAttrStep
  rw [Reading.val_bind, h]
  rfl

variable (attrSearch target) in
omit hkind in
lemma bssStep_found {pos : ℕ}
    (h : (ieSearch (fun i => st.bss.mem (st.ies + i)) (toInt32 st.iesLen) ⟨false, true⟩ k).val =
      some (some { pos := 0 + pos, ielen := some n })) :
    (bssExDelAttrStep ieSearch attrSearch k target st).val =
      match delAttr attrSearch k target (st.ies + pos) ⟨st.bss.mem, n⟩ with
      | none => .inl none
      | some r => .inr (st.goOn (st.ies + pos) n r) := by
  rw [Nat.zero_add] at h
  unfold bssExDelAttrStep
  rw [Reading.val_bind, h]
  simp only [Option.getD_some]
  cases delAttr attrSearch k target (st.ies + pos) ⟨st.bss.mem, n⟩ <;> rfl

def AttrsOk (oui : List UInt8) (len16 : UInt8 → UInt8 → ℕ) (target : UInt8) (es : List Element) :
    Prop :=
  ∀ e ∈ es, HasOui oui e → RestOk len16 target (attrsOf len16 e).2

omit hkind in
lemma attrsOk_split (ha : ∀ x ∈ a, ¬ HasOui oui x) : AttrsOk oui len16 target (a ++ e :: b) ↔
    (HasOui oui e → RestOk len16 target (attrsOf len16 e).2) ∧ AttrsOk oui len16 target b := by
  unfold AttrsOk
  constructor
  · exact fun h => ⟨h e (by simp), fun x hx => h x (by simp [hx])⟩
  · rintro ⟨he, hb⟩ x hx hm
    rcases mem_append.1 hx with hx | hx
    · exact absurd hm (ha x hx)
    · rcases mem_cons.1 hx with rfl | hx
      · exact he hm
      · exact hb x hx hm

omit hkind in
lemma noneLooks_hasOui (h : NoneLooks oui c) : ∀ x ∈ c, ¬ HasOui oui x := by
  intro x hx hm
  obtain ⟨a, b, rfl⟩ := append_of_mem hx
  exact h a x b rfl hm.looks

omit hkind in
lemma encode_map_split (ha : ∀ x ∈ a, ¬ HasOui oui x) :
    encode ((a ++ e :: b).map (withoutAttr oui len16 target)) =
      encode a ++ ((withoutAttr oui len16 target e).bytes ++
        encode (b.map (withoutAttr oui len16 target))) := by
  rw [map_append, map_cons, map_withoutAttr ha, encode_append, encode_cons]

lemma bssDel_search (hs : DelAt st c) (hok : AttrsOk oui len16 target c) (hk : maxIeSz < k)
    (hj : c.length < j) :
    ∃ r, (search (bssExDelAttrStep ieSearch attrSearch k target) j st).val = some (some r) ∧
      Stores r.mem st.ies (encode (c.map (withoutAttr oui len16 target))) ∧
      r.len = st.ies + (encode (c.map (withoutAttr oui len16 target))).length ∧
      r.len ≤ st.bss.len ∧ ∀ i < st.ies, r.mem i = st.bss.mem i := by
  induction j generalizing st c with
  | zero => exact absurd hj (Nat.not_lt_zero _)
  | succ j ih =>
    have hlen := hs.len
    have hfits := hs.fits
    have hcount := length_le_encode c
    have hiesLen := hs.iesLen
    have hval := ieSearch_list (k := k) hkind hs.holds hiesLen (by omega) (by omega)
    rcases firstLook_cases oui 0 c with ⟨hnone, hall⟩ | ⟨a, e, b, rfl, he, ha, hfound⟩
    · rw [hnone] at hval
      rw [map_withoutAttr (noneLooks_hasOui hall)]
      exact ⟨st.bss, by rw [search_done (bssStep_stop hval)], hs.holds, hlen, le_rfl,
        fun _ _ => rfl⟩
    · rw [hfound] at hval
      obtain ⟨hfront, hbytes, hrest, hsplit⟩ := hs.split
      obtain ⟨hoke, hokb⟩ := (attrsOk_split ha).1 hok
      obtain ⟨r, hr, hnew, hrlen, hle, hsame⟩ :=
        delAttr_looks_of_ok (k := k) hkind he hbytes hoke (by omega)
      have hstep := bssStep_found attrSearch target hval
      rw [hr] at hstep
      simp only at hstep
      have hback := hrest.congr fun i hi _ => hsame i (Or.inr hi)
      obtain ⟨hies, hat, hbefore⟩ := goOn_spec hback hsplit hfits hle
      have htail : b.length < j := by
        simp only [length_append, length_cons] at hj
        omega
      obtain ⟨r', hr', hholds, hlen', hle', hsame'⟩ := ih hat hokb htail
      have hnext := hat.len
      rw [hies] at hholds hlen' hsame' hnext
      have hkept : ∀ i < st.ies + (encode a).length + r.len, r'.mem i = r.mem i := by
        intro i hi
        rw [hsame' i hi]
        exact hbefore i hi
      refine ⟨r', by rw [search_next hstep]; exact hr', ?_, ?_, by omega, fun i hi => ?_⟩
      · rw [encode_map_split ha, stores_append, stores_append, ← hrlen]
        refine ⟨hfront.congr fun i _ hi => ?_, hnew.congr fun i _ hi => ?_, hholds⟩
        · rw [hkept i (by omega)]
          exact hsame i (Or.inl hi)
        · exact hkept i (by omega)
      · rw [encode_map_split ha, length_append, length_append]
        omega
      · rw [hkept i (by omega)]
        exact hsame i (Or.inl (by omega))

lemma bssDel_bound (hs : DelAt st c)
    (hr : (search (bssExDelAttrStep ieSearch attrSearch k target) j st).val = some (some r)) :
    r.len ≤ st.ies + (encode (c.map (withoutAttr oui len16 target))).length ∧
      (r.len = st.ies + (encode (c.map (withoutAttr oui len16 target))).length →
        AttrsOk oui len16 target c) := by
  induction j generalizing st c with
  | zero => cases hr
  | succ j ih =>
    have hlen := hs.len
    have hfits := hs.fits
    have hiesLen := hs.iesLen
    cases hval : (ieSearch (fun i => st.bss.mem (st.ies + i)) (toInt32 st.iesLen) ⟨false, true⟩
        k).val with
    | none =>
      have hstep : (bssExDelAttrStep ieSearch attrSearch k target st).val = .inl none := by
        unfold bssExDelAttrStep
        rw [Reading.val_bind, hval]
        rfl
      rw [search_done hstep] at hr
      cases hr
    | some res =>
      have hres := ieSearch_unique hkind hs.holds hiesLen (by omega) hval
      subst hres
      rcases firstLook_cases oui 0 c with ⟨hnone, hall⟩ | ⟨a, e, b, rfl, he, ha, hfound⟩
      · rw [hnone] at hval
        rw [search_done (bssStep_stop hval)] at hr
        cases hr
        rw [map_withoutAttr (noneLooks_hasOui hall)]
        exact ⟨hlen.le, fun _ e he hm => absurd hm (noneLooks_hasOui hall e he)⟩
      · rw [hfound] at hval
        obtain ⟨-, hbytes, hrest, hsplit⟩ := hs.split
        have hstep := bssStep_found attrSearch target hval
        cases hdel : delAttr attrSearch k target (st.ies + (encode a).length)
            ⟨st.bss.mem, e.bytes.length⟩ with
        | none =>
          rw [hdel] at hstep
          rw [search_done hstep] at hr
          cases hr
        | some u =>
          rw [hdel] at hstep
          rw [search_next hstep] at hr
          obtain ⟨hle, hoke, hleOri, hsame⟩ := delAttr_looks_bound hkind he hbytes hdel
          have hback := hrest.congr fun i hi _ => hsame i (Or.inr hi)
          obtain ⟨hies, hat, -⟩ := goOn_spec hback hsplit hfits hleOri
          obtain ⟨hbound, hokb⟩ := ih hat hr
          rw [hies] at hbound hokb
          rw [attrsOk_split ha, encode_map_split ha, length_append, length_append]
          exact ⟨by omega, fun heq => ⟨hoke (by omega), hokb (by omega)⟩⟩

lemma bssExDelAttr_iff {offset : ℕ} (h : BssStored bss offset es) :
    (∃ rounds r, bssExDelAttr ieSearch attrSearch rounds target offset bss = some r ∧
      BssStored r offset (es.map (withoutAttr oui len16 target)) ∧
        ∀ i < offset, r.mem i = bss.mem i) ↔ AttrsOk oui len16 target es := by
  have hin := h.listIn
  have hs : DelAt ⟨bss, offset, sub32 bss.len offset⟩ es := ⟨h.holds, h.len, hin.len.symm, h.fits⟩
  unfold bssExDelAttr
  simp only [Option.join_eq_some_iff]
  constructor
  · rintro ⟨rounds, r, hr, hstored, -⟩
    exact (bssDel_bound hkind hs hr).2 hstored.len
  · intro hok
    have hfits := h.fits
    have hlen := h.len
    have hcount := length_le_encode es
    have hrounds : es.length < maxIeSz + 1 := by omega
    obtain ⟨r, hr, hholds, hrlen, hle, hsame⟩ :=
      bssDel_search (k := maxIeSz + 1) hkind hs hok (Nat.lt_succ_self _) hrounds
    exact ⟨maxIeSz + 1, r, hr, ⟨hholds, hrlen, hle.trans hfits⟩, hsame⟩

end

section

variable {bss : IesBuf} {offset : ℕ} {es : List Element}

/-- Deleting elements, and deleting attributes, does what it is for just under its condition. -/
theorem p2p_delete_iff (h : BssStored bss offset es) (attrId : UInt8) :
    ((∃ rounds r, rtwDelP2pIe rounds offset ⟨bss.mem, sub32 bss.len offset⟩ = some r ∧
      ListIn r offset (withoutOui p2pOui es) ∧ ∀ i < offset, r.mem i = bss.mem i) ↔
        NoneLooks p2pOui (withoutOui p2pOui es)) ∧
    ((∃ rounds r, rtwBssExDelP2pIe rounds offset bss = some r ∧
      BssStored r offset (withoutOui p2pOui es) ∧ ∀ i < offset, r.mem i = bss.mem i) ↔
        NoneLooks p2pOui (withoutOui p2pOui es)) ∧
    ((∃ rounds r, rtwBssExDelP2pAttr rounds attrId offset bss = some r ∧
      BssStored r offset (es.map (withoutAttr p2pOui lenLe16 attrId)) ∧
        ∀ i < offset, r.mem i = bss.mem i) ↔ AttrsOk p2pOui lenLe16 attrId es) ∧
    ((∃ rounds r, rtwBssExDelWfdAttr rounds attrId offset bss = some r ∧
      BssStored r offset (es.map (withoutAttr wfdOui lenBe16 attrId)) ∧
        ∀ i < offset, r.mem i = bss.mem i) ↔ AttrsOk wfdOui lenBe16 attrId es) :=
  ⟨delIe_iff p2p_searchesKind h.listIn, bssExDelIe_iff p2p_searchesKind h,
    bssExDelAttr_iff p2p_searchesKind h, bssExDelAttr_iff wfd_searchesKind h⟩

end

def bssOf (es : List Element) : IesBuf := ⟨fun i => (encode es).getD i 0, (encode es).length⟩

def twoAttrs : List Element :=
  [⟨0, [65], by decide⟩, ⟨221, p2pOui ++ [2, 1, 0, 7, 3, 1, 0, 8], by decide⟩]

theorem p2p_delete_iff_twoAttrs :
    (∃ rounds r, rtwBssExDelP2pAttr rounds 3 0 (bssOf twoAttrs) = some r ∧
      BssStored r 0 (twoAttrs.map (withoutAttr p2pOui lenLe16 3)) ∧
        ∀ i < 0, r.mem i = (bssOf twoAttrs).mem i) ↔ AttrsOk p2pOui lenLe16 3 twoAttrs :=
  (p2p_delete_iff ⟨by decide, by decide, by decide⟩ 3).2.2.1

def endlessP2p : List Element := [⟨221, p2pOui ++ [2, 0xfd, 0xff], by decide⟩]

/-- A vendor element of three bytes, and an element whose id is the type of a P2P element. -/
def splitOui : List Element := [⟨221, [0x50, 0x6f, 0x9a], by decide⟩, ⟨9, [7], by decide⟩]

/-- Deleting an attribute from `endlessP2p` never ends, and of `splitOui` the first element is
deleted. -/
theorem p2p_delete_fails :
    (BssStored (bssOf endlessP2p) 0 endlessP2p ∧
      ¬ ∃ rounds r, rtwBssExDelP2pAttr rounds 3 0 (bssOf endlessP2p) = some r ∧
        BssStored r 0 (endlessP2p.map (withoutAttr p2pOui lenLe16 3)) ∧
          ∀ i < 0, r.mem i = (bssOf endlessP2p).mem i) ∧
    (BssStored (bssOf splitOui) 0 splitOui ∧
      ¬ ∃ rounds r, rtwBssExDelP2pIe rounds 0 (bssOf splitOui) = some r ∧
        BssStored r 0 (withoutOui p2pOui splitOui) ∧
          ∀ i < 0, r.mem i = (bssOf splitOui).mem i) := by
  have hendless : BssStored (bssOf endlessP2p) 0 endlessP2p := ⟨by decide, by decide, by decide⟩
  have hsplit : BssStored (bssOf splitOui) 0 splitOui := ⟨by decide, by decide, by decide⟩
  refine ⟨⟨hendless, fun h => ?_⟩, ⟨hsplit, fun h => ?_⟩⟩
  · have hok := (bssExDelAttr_iff p2p_searchesKind hendless).mp h
    have hrest := hok _ (mem_singleton_self _) (by decide) _ .start (by decide)
    exact absurd (hrest.mpr (by decide)) (by decide)
  · have hnone := (bssExDelIe_iff p2p_searchesKind hsplit).mp h
    exact hnone [] _ _ rfl ⟨rfl, by decide⟩

end Rtl8831.Core
