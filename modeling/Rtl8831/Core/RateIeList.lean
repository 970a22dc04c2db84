import Rtl8831.Core.IeRemove
import Rtl8831.Core.RateIe

/-!
# The rates of a well-formed list

The first element with supported rates is reduced in place.  It stays when nothing is left of
it, the other elements with rates stay as they are, and the removal of the extended rates
leaves the length two bytes too long.
-/

namespace Rtl8831.Core

open Lib List Option

/-! ## What the list should become -/

namespace Element

variable (e : Element)

def IsRates : Bool := e.id == supportedratesIe || e.id == extSupportedratesIe

def keepOnly (keep : RateKind) : Element :=
  ⟨e.id, e.body.filter keep.Has, (length_filter_le _ _).trans_lt e.small⟩

def reduced (keep : RateKind) : Option Element :=
  if e.IsRates then if (e.keepOnly keep).body = [] then none else some (e.keepOnly keep)
  else some e

def plain : UInt8 × List UInt8 :=
  (e.id, if e.IsRates then e.body.map (· &&& 0x7f) else e.body)

def withNewRate (keep : RateKind) : Element :=
  ⟨e.id, newRate keep e.body, by
    unfold newRate
    rw [length_map]
    exact (length_filter_le _ _).trans_lt e.small⟩

end Element

/-- The elements with the rates reduced to those of the mode, all of them in a mixed mode. -/
def reducedList (keep : Option RateKind) (es : List Element) : List Element :=
  match keep with
  | none => es
  | some keep => es.filterMap fun e => e.reduced keep

structure RatesReduced (mem : ℕ → UInt8) (s : BssIes) (keep : Option RateKind)
    (es : List Element) : Prop where
  list : ∃ es', IesOk s.mem s.ieLength beaconIeOffset es' ∧
    es'.map Element.plain = (reducedList keep es).map Element.plain
  before : ∀ i < beaconIeOffset, s.mem i = mem i

def otherRates (es : List Element) : List Element :=
  (es.eraseP fun e => e.id == supportedratesIe).filter Element.IsRates

/-- The first element with supported rates has some rates that stay, and they fit `new_rate`;
the other elements are not touched and need not be. -/
structure RatesFit (keep : RateKind) (es : List Element) : Prop where
  first : ∀ e ∈ es.find? fun e => e.id == supportedratesIe,
    newRate keep e.body ≠ [] ∧ (newRate keep e.body).length ≤ lengthRatesEx
  others : ∀ e ∈ otherRates es, e.body ≠ [] ∧ ∀ r ∈ e.body, keep.Has r

def FitsMode (mode dsConfig : ℕ) (es : List Element) : Prop :=
  (∀ keep ∈ (rateKeep mode dsConfig).1, RatesFit keep es) ∧
    (mode = wlanMd11b → ∀ e ∈ es, e.id ≠ extSupportedratesIe)

def UpdateReduces (s : BssIes) (mode dsConfig : ℕ) (on6g : Bool) (es : List Element) : Prop :=
  ∃ rounds u, rtwUpdateRateBymode s mode dsConfig on6g rounds = some u ∧
    RatesReduced s.mem u.ies (rateKeep mode dsConfig).1 es

/-! ## Lists and their bytes -/

section

variable {α β : Type} {f : α → Option β}

lemma append_cons_inj_iff {a b a' b' : List α} {x x' : α} (hlen : a.length = a'.length) :
    a ++ x :: b = a' ++ x' :: b' ↔ a = a' ∧ x = x' ∧ b = b' := by
  constructor
  · intro h
    obtain ⟨ha, h⟩ := append_inj h hlen
    exact ⟨ha, List.cons.inj h⟩
  · rintro ⟨rfl, rfl, rfl⟩
    rfl

lemma filterMap_eq_iff {xs : List α} {ys : List β} (hlen : xs.length = ys.length) :
    xs.filterMap f = ys ↔ xs.map f = ys.map some := by
  induction xs generalizing ys with
  | nil =>
    obtain rfl := length_eq_zero_iff.1 hlen.symm
    simp
  | cons x xs ih =>
    cases ys with
    | nil => cases hlen
    | cons y ys =>
      have hrest : xs.length = ys.length := Nat.succ.inj hlen
      cases hx : f x with
      | none =>
        have hle := length_filterMap_le f xs
        rw [filterMap_cons_none hx, map_cons, map_cons, hx]
        constructor
        · intro h
          have hcount := congrArg length h
          rw [length_cons] at hcount
          omega
        · exact fun h => absurd (List.cons.inj h).1 nofun
      | some y' =>
        rw [filterMap_cons_some hx, map_cons, map_cons, hx, List.cons.injEq,
          List.cons.injEq, Option.some.injEq, ih hrest]

end

section

variable {mem : ℕ → UInt8} {a b es es' : List Element} {e x : Element} {keep : RateKind}

lemma encode_prefix {rest : List UInt8} (h : encode es' = encode es ++ rest) :
    ∃ t, es' = es ++ t ∧ encode t = rest := by
  induction es generalizing es' with
  | nil => exact ⟨es', rfl, h⟩
  | cons e es ih =>
    cases es' with
    | nil => cases h
    | cons e' es' =>
      rw [encode_cons, encode_cons, append_assoc] at h
      unfold Element.bytes at h
      obtain ⟨hid, h⟩ := List.cons.inj h
      obtain ⟨hlen, h⟩ := List.cons.inj h
      have hsize : e'.body.length = e.body.length := by
        have hnat := congrArg UInt8.toNat hlen
        rw [UInt8.toNat_ofNat', UInt8.toNat_ofNat', Nat.mod_eq_of_lt e'.small,
          Nat.mod_eq_of_lt e.small] at hnat
        exact hnat
      obtain ⟨hbody, h⟩ := append_inj h hsize
      obtain ⟨t, rfl, ht⟩ := ih h
      have hsame : e' = e := by
        cases e
        cases e'
        simp only [Element.mk.injEq]
        exact ⟨hid, hbody⟩
      exact ⟨t, by rw [hsame, cons_append], ht⟩

lemma stores_prefix {p : ℕ} (h : Stores mem p (encode es)) (h' : Stores mem p (encode es'))
    (hle : (encode es).length ≤ (encode es').length) :
    ∃ t, es' = es ++ t ∧ (encode t).length = (encode es').length - (encode es).length := by
  have hsplit : encode es' = encode es ++
      bytesAt mem (p + (encode es).length) ((encode es').length - (encode es).length) := by
    have hadd := @bytesAt_add _ mem p ((encode es').length - (encode es).length) (encode es).length
    rw [Nat.add_sub_cancel' hle, h'.eq, h.eq] at hadd
    exact hadd
  obtain ⟨t, ht, hrest⟩ := encode_prefix hsplit
  exact ⟨t, ht, by rw [hrest, length_bytesAt]⟩

lemma stores_unique {p : ℕ} (h : Stores mem p (encode es)) (h' : Stores mem p (encode es'))
    (hlen : (encode es').length = (encode es).length) : es' = es := by
  obtain ⟨t, rfl, ht⟩ := stores_prefix h h' hlen.ge
  have hnil : t = [] := by
    by_contra hne
    have hpos := encode_pos hne
    omega
  rw [hnil, append_nil]

lemma encode_two (h : (encode es).length = 2) : ∃ e, es = [e] ∧ e.body = [] := by
  cases es with
  | nil => cases h
  | cons e es =>
    rw [encode_cons, length_append, Element.length_bytes] at h
    have hnil : es = [] := by
      by_contra hne
      have hpos := encode_pos hne
      omega
    exact ⟨e, by rw [hnil], length_eq_zero_iff.1 (by omega)⟩

/-! ## Reducing an element -/

lemma and_mask_basic (r : UInt8) : (r ||| 0x80) &&& 0x7f = r &&& 0x7f := by
  apply UInt8.toBitVec_inj.1
  rw [UInt8.toBitVec_and, UInt8.toBitVec_or, UInt8.toBitVec_and, BitVec.and_or_distrib_right]
  exact BitVec.or_zero

lemma plain_newRate (keep : RateKind) (rates : List UInt8) :
    (newRate keep rates).map (· &&& 0x7f) = (rates.filter keep.Has).map (· &&& 0x7f) := by
  unfold newRate
  rw [List.map_map]
  apply map_congr_left
  intro r _
  simp only [Function.comp_apply]
  by_cases hr : rtwIsBasicRateOfdm r
  · rw [if_pos hr]
    exact and_mask_basic r
  · rw [if_neg hr]

lemma newRate_eq_nil {rates : List UInt8} :
    newRate keep rates = [] ↔ rates.filter keep.Has = [] := by
  unfold newRate
  rw [map_eq_nil_iff]

lemma Element.reduced_of_not (h : ¬e.IsRates) : e.reduced keep = some e := if_neg h

lemma Element.reduced_eq (h : e.IsRates) : e.reduced keep =
    if (e.keepOnly keep).body = [] then none else some (e.keepOnly keep) := if_pos h

lemma Element.reduced_plain_iff : (e.reduced keep).map Element.plain = some e.plain ↔
    (e.IsRates → e.body ≠ [] ∧ ∀ r ∈ e.body, keep.Has r) := by
  by_cases hrates : e.IsRates
  · have hid : (e.keepOnly keep).IsRates := hrates
    rw [Element.reduced_eq hrates, imp_iff_right hrates]
    by_cases hempty : (e.keepOnly keep).body = []
    · rw [if_pos hempty]
      constructor
      · exact fun h => absurd h nofun
      · rintro ⟨hne, hall⟩
        exact absurd ((filter_eq_self.2 hall).symm.trans hempty) hne
    · rw [if_neg hempty, map_some, Option.some.injEq]
      unfold Element.plain
      rw [if_pos hid, if_pos hrates, Prod.mk.injEq]
      constructor
      · rintro ⟨-, hmap⟩
        have hlen := congrArg length hmap
        rw [length_map, length_map] at hlen
        have hsame : e.body.filter keep.Has = e.body :=
          filter_sublist.eq_of_length hlen
        exact ⟨fun h => hempty (hsame.trans h), filter_eq_self.1 hsame⟩
      · rintro ⟨-, hall⟩
        have hsame : (e.keepOnly keep).body = e.body := filter_eq_self.2 hall
        exact ⟨rfl, by rw [hsame]⟩
  · rw [Element.reduced_of_not hrates]
    exact iff_of_true rfl fun h => absurd h hrates

lemma Element.reduced_newRate_iff (h : e.IsRates) :
    (e.reduced keep).map Element.plain = some (e.withNewRate keep).plain ↔
      newRate keep e.body ≠ [] := by
  have hid : (e.keepOnly keep).IsRates := h
  have hid' : (e.withNewRate keep).IsRates := h
  rw [Element.reduced_eq h, ne_eq, newRate_eq_nil]
  by_cases hempty : (e.keepOnly keep).body = []
  · rw [if_pos hempty]
    exact iff_of_false nofun (not_not_intro hempty)
  · rw [if_neg hempty, map_some, Option.some.injEq]
    refine iff_of_true ?_ hempty
    unfold Element.plain
    rw [if_pos hid, if_pos hid', Prod.mk.injEq]
    exact ⟨rfl, (plain_newRate keep e.body).symm⟩

lemma supportedrates_isRates (h : e.id = supportedratesIe) : e.IsRates := by
  unfold Element.IsRates
  rw [h]
  rfl

lemma extSupportedrates_isRates (h : e.id = extSupportedratesIe) : e.IsRates := by
  unfold Element.IsRates
  rw [h]
  rfl

/-! ## Reducing a list -/

lemma reducedList_plain_iff (hlen : es.length = es'.length) :
    es'.map Element.plain = (reducedList (some keep) es).map Element.plain ↔
      es.map (fun e => (e.reduced keep).map Element.plain) =
        es'.map fun e => some e.plain := by
  unfold reducedList
  rw [map_filterMap, eq_comm, filterMap_eq_iff (by rw [length_map, hlen]), List.map_map]
  rfl

lemma mem_otherRates : x ∈ otherRates es ↔
    x ∈ es.eraseP (fun e => e.id == supportedratesIe) ∧ x.IsRates := by
  unfold otherRates
  exact mem_filter

lemma unchanged_iff (ha : ∀ x ∈ es, x.id ≠ supportedratesIe) :
    es.map Element.plain = (reducedList (some keep) es).map Element.plain ↔
      ∀ e ∈ otherRates es, e.body ≠ [] ∧ ∀ r ∈ e.body, keep.Has r := by
  have herase : es.eraseP (fun e => e.id == supportedratesIe) = es :=
    eraseP_of_forall_not (by simpa using ha)
  rw [reducedList_plain_iff rfl, map_inj_left]
  refine forall_congr' fun x => ?_
  rw [mem_otherRates, herase, Element.reduced_plain_iff, and_imp]

section

variable (ha : ∀ x ∈ a, x.id ≠ supportedratesIe) (he : e.id = supportedratesIe)
include ha he

lemma eraseP_split :
    (a ++ e :: b).eraseP (fun e => e.id == supportedratesIe) = a ++ b := by
  rw [eraseP_append_right _ (by simpa using ha), eraseP_cons_of_pos (by simpa using he)]

lemma find_split :
    (a ++ e :: b).find? (fun e => e.id == supportedratesIe) = some e := by
  rw [find?_append, find?_eq_none.2 (by simpa using ha),
    find?_cons_of_pos (by simpa using he)]
  rfl

lemma first_reduced_iff :
    (a ++ e.withNewRate keep :: b).map Element.plain =
        (reducedList (some keep) (a ++ e :: b)).map Element.plain ↔
      newRate keep e.body ≠ [] ∧
        ∀ x ∈ otherRates (a ++ e :: b), x.body ≠ [] ∧ ∀ r ∈ x.body, keep.Has r := by
  rw [reducedList_plain_iff (by simp), map_append, map_append, map_cons,
    map_cons, append_cons_inj_iff (by simp),
    Element.reduced_newRate_iff (supportedrates_isRates he), map_inj_left, map_inj_left]
  have hother : ∀ x, x ∈ otherRates (a ++ e :: b) ↔ (x ∈ a ∨ x ∈ b) ∧ x.IsRates := by
    intro x
    rw [mem_otherRates, eraseP_split ha he, mem_append]
  constructor
  · rintro ⟨hfront, hfirst, hback⟩
    refine ⟨hfirst, fun x hx => ?_⟩
    obtain ⟨hmem, hrates⟩ := (hother x).1 hx
    rcases hmem with hmem | hmem
    · exact Element.reduced_plain_iff.1 (hfront x hmem) hrates
    · exact Element.reduced_plain_iff.1 (hback x hmem) hrates
  · rintro ⟨hfirst, hall⟩
    refine ⟨fun x hx => ?_, hfirst, fun x hx => ?_⟩
    · exact Element.reduced_plain_iff.2 fun hrates => hall x ((hother x).2 ⟨Or.inl hx, hrates⟩)
    · exact Element.reduced_plain_iff.2 fun hrates => hall x ((hother x).2 ⟨Or.inr hx, hrates⟩)

end

end

/-! ## The code on a list -/

section

variable {s s' : BssIes} {a b es : List Element} {e : Element} {keep : RateKind}

lemma ieLimit_eq (h : IesOk s.mem s.ieLength beaconIeOffset es) :
    ieLimit s.ieLength = (encode es).length := by
  have hlen := h.len
  have hshort := h.short
  unfold ieLimit
  rw [Int.bmod_eq_of_le_mul_two] <;> omega

lemma filter_none (h : IesOk s.mem s.ieLength beaconIeOffset es)
    (ha : ∀ x ∈ es, x.id ≠ supportedratesIe) : rtwFilterSuppportRateie s keep = some s := by
  unfold rtwFilterSuppportRateie
  rw [ieLimit_eq h, getIe_list_none h.listAt ha]

lemma filter_first (h : IesOk s.mem s.ieLength beaconIeOffset (a ++ e :: b))
    (ha : ∀ x ∈ a, x.id ≠ supportedratesIe) (he : e.id = supportedratesIe) :
    (lengthRatesEx < (newRate keep e.body).length → rtwFilterSuppportRateie s keep = none) ∧
    ((newRate keep e.body).length ≤ lengthRatesEx →
      ∃ s', rtwFilterSuppportRateie s keep = some s' ∧
        IesOk s'.mem s'.ieLength beaconIeOffset (a ++ e.withNewRate keep :: b) ∧
        ∀ i < beaconIeOffset, s'.mem i = s.mem i) := by
  have hlen := h.len
  have hshort := h.short
  have hholds := h.holds
  have hsplit := length_encode_split (a := a) (e := e) (b := b)
  have hsplit' := length_encode_split (a := a) (e := e.withNewRate keep) (b := b)
  have hsize := e.length_bytes
  have hsize' := (e.withNewRate keep).length_bytes
  have hcount : (newRate keep e.body).length = (e.withNewRate keep).body.length := rfl
  have hle : (newRate keep e.body).length ≤ e.body.length := by
    unfold newRate
    rw [length_map]
    exact length_filter_le _ _
  rw [encode_append, encode_cons, stores_append, stores_append] at hholds
  obtain ⟨hfront, helem, hback⟩ := hholds
  obtain ⟨hid, -, hbody⟩ := stores_element.1 helem
  let p := beaconIeOffset + (encode a).length
  have hfound : (rtwGetIe s.mem beaconIeOffset supportedratesIe.toNat (ieLimit s.ieLength)).val =
      some ⟨p, e.body.length⟩ := by
    rw [ieLimit_eq h]
    exact getIe_list_first h.listAt ha he
  unfold rtwFilterSuppportRateie
  rw [hfound]
  simp only
  rw [hbody.eq]
  let mem := writeBytes (writeBytes s.mem (p + 1) [UInt8.ofNat (newRate keep e.body).length])
    (p + 2) (newRate keep e.body)
  have htail : Stores mem (p + 2 + e.body.length) (encode b) := by
    have hplace : p + 2 + e.body.length = beaconIeOffset + (encode a).length + e.bytes.length := by
      omega
    rw [hplace]
    refine (hback.writeBytes_after ?_).writeBytes_after ?_
    · rw [length_singleton]
      omega
    · omega
  have hremain : sub32 s.ieLength (p + 2 + e.body.length) = (encode b).length := by
    rw [sub32_of_le (by omega) (by omega)]
    omega
  refine ⟨fun hlong => if_pos hlong, fun hfits => ⟨_, if_neg (Nat.not_lt.2 hfits), ⟨?_, ?_, ?_⟩, ?_⟩⟩
  · simp only
    rw [hremain, htail.eq, encode_append, encode_cons, stores_append, stores_append]
    refine ⟨?_, ?_, ?_⟩
    · exact ((hfront.writeBytes_before (by omega)).writeBytes_before (by omega)).writeBytes_before
        (by omega)
    · apply Stores.writeBytes_before
      · unfold Element.bytes
        rw [stores_cons, stores_cons]
        refine ⟨?_, ?_, stores_writeBytes ..⟩
        · rw [writeBytes_of_lt (by omega), writeBytes_of_lt (by omega)]
          exact hid
        · rw [writeBytes_of_lt (by omega)]
          exact (stores_cons.1 (stores_writeBytes ..)).1
      · omega
    · have hplace : p + 2 + (newRate keep e.body).length =
          beaconIeOffset + (encode a).length + (e.withNewRate keep).bytes.length := by omega
      rw [← hplace]
      exact stores_writeBytes ..
  · simp only
    rw [sub32_of_le (by omega) (by omega)]
    omega
  · simp only
    rw [sub32_of_le (by omega) (by omega)]
    omega
  · intro i hi
    simp only
    rw [writeBytes_of_lt (by omega), writeBytes_of_lt (by omega), writeBytes_of_lt (by omega)]

end

/-! ## The whole update -/

section

variable {s : BssIes} {es es' : List Element} {keep : RateKind} {mode dsConfig : ℕ} {on6g : Bool}

structure Filtered (s s' : BssIes) (keep : RateKind) (es es' : List Element) : Prop where
  ok : IesOk s'.mem s'.ieLength beaconIeOffset es'
  before : ∀ i < beaconIeOffset, s'.mem i = s.mem i
  ids : es'.map Element.id = es.map Element.id
  shorter : s'.ieLength ≤ s.ieLength
  right_iff : es'.map Element.plain = (reducedList (some keep) es).map Element.plain ↔
    RatesFit keep es

lemma filter_spec (h : IesOk s.mem s.ieLength beaconIeOffset es) (keep : RateKind) :
    rtwFilterSuppportRateie s keep = none ∧ ¬RatesFit keep es ∨
    ∃ s' es', rtwFilterSuppportRateie s keep = some s' ∧ Filtered s s' keep es es' := by
  rcases first_match (fun x => x.id = supportedratesIe) es with hno | ⟨a, e, b, rfl, ha, he⟩
  · have hfind : es.find? (fun e => e.id == supportedratesIe) = none :=
      find?_eq_none.2 (by simpa using hno)
    refine Or.inr ⟨s, es, filter_none h hno, h, fun _ _ => rfl, rfl, le_rfl, ?_⟩
    rw [unchanged_iff hno]
    exact ⟨fun hall => ⟨by simp [hfind], hall⟩, RatesFit.others⟩
  · have hfind := find_split (b := b) ha he
    obtain ⟨hlong, hfits⟩ := @filter_first s a b e keep h ha he
    by_cases hle : (newRate keep e.body).length ≤ lengthRatesEx
    · obtain ⟨s', hs', hok, hbefore⟩ := hfits hle
      refine Or.inr ⟨s', _, hs', hok, hbefore, by simp [Element.withNewRate], ?_, ?_⟩
      · have hlen := h.len
        have hlen' := hok.len
        have hsize := length_encode_split (a := a) (e := e) (b := b)
        have hsize' := length_encode_split (a := a) (e := e.withNewRate keep) (b := b)
        have hbytes := e.length_bytes
        have hbytes' := (e.withNewRate keep).length_bytes
        have hshort : (e.withNewRate keep).body.length ≤ e.body.length := by
          unfold Element.withNewRate newRate
          rw [length_map]
          exact length_filter_le _ _
        omega
      · rw [first_reduced_iff ha he]
        constructor
        · rintro ⟨hne, hall⟩
          refine ⟨fun x hx => ?_, hall⟩
          rw [hfind, mem_some_iff] at hx
          subst hx
          exact ⟨hne, hle⟩
        · exact fun hfit => ⟨(hfit.first e (by rw [hfind]; rfl)).1, hfit.others⟩
    · refine Or.inl ⟨hlong (Nat.lt_of_not_le hle), fun hfit => hle ?_⟩
      exact (hfit.first e (by rw [hfind]; rfl)).2

lemma ratesReduced_iff {mem : ℕ → UInt8} {keep : Option RateKind}
    (h : IesOk s.mem s.ieLength beaconIeOffset es') (hbefore : ∀ i < beaconIeOffset, s.mem i = mem i) :
    RatesReduced mem s keep es ↔
      es'.map Element.plain = (reducedList keep es).map Element.plain := by
  constructor
  · rintro ⟨⟨es'', hok, hplain⟩, -⟩
    have hlen := h.len
    have hlen' := hok.len
    rw [← stores_unique h.holds hok.holds (by omega)]
    exact hplain
  · exact fun hplain => ⟨⟨es', h, hplain⟩, hbefore⟩

lemma removeExt_none (h : IesOk s.mem s.ieLength beaconIeOffset es)
    (hno : ∀ x ∈ es, x.id ≠ extSupportedratesIe) (networkIelen rounds : ℕ) :
    removeExtRates s networkIelen rounds = some s := by
  unfold removeExtRates
  rw [ieLimit_eq h, getIe_list_none h.listAt hno]

lemma removeExt_wrong {networkIelen rounds : ℕ} {r : BssIes} {mem : ℕ → UInt8}
    (h : IesOk s.mem s.ieLength beaconIeOffset es') (hids : es'.map Element.id = es.map Element.id)
    (hext : ∃ x ∈ es', x.id = extSupportedratesIe)
    (hone : es'.countP (fun e => e.id == extSupportedratesIe) ≤ 1)
    (hle : s.ieLength ≤ networkIelen) (hshort : networkIelen < 2 ^ 31)
    (hr : removeExtRates s networkIelen rounds = some r) :
    ¬RatesReduced mem r (some keep) es := by
  rcases first_match (fun x => x.id = extSupportedratesIe) es' with hno | ⟨a, e, b, rfl, ha, he⟩
  · obtain ⟨x, hx, hid⟩ := hext
    exact absurd hid (hno x hx)
  have hb : ∀ x ∈ b, x.id ≠ extSupportedratesIe := by
    rw [countP_append, countP_cons_of_pos (by simpa using he)] at hone
    have hzero : b.countP (fun e => e.id == extSupportedratesIe) = 0 := by omega
    simpa [countP_eq_zero] using hzero
  unfold removeExtRates at hr
  rw [ieLimit_eq h, getIe_list_first h.listAt ha he] at hr
  simp only at hr
  obtain ⟨u, hu, hr⟩ := bind_eq_some_iff.1 hr
  obtain rfl := Option.some.inj hr
  obtain ⟨hstores, -⟩ := removeIe_single h ha he hb hle hshort hu
  rintro ⟨⟨es'', hok, hplain⟩, -⟩
  have hlen := h.len
  have hsmall := h.short
  have hlen' := hok.len
  have hsplit := length_encode_split (a := a) (e := e) (b := b)
  have hsize := e.length_bytes
  have happend : (encode (a ++ b)).length = (encode a).length + (encode b).length := by simp
  simp only at hlen'
  rw [sub32_of_le (by omega) (by omega)] at hlen'
  -- two bytes behind the list that is left are counted, which can only be an empty element
  obtain ⟨t, rfl, ht⟩ := stores_prefix hstores hok.holds (by omega)
  obtain ⟨g, rfl, hg⟩ := encode_two (ht.trans (by omega))
  have hcount : es.length = a.length + b.length + 1 := by
    have hmap := congrArg length hids
    simp at hmap
    omega
  have hall : ∀ x ∈ es, (x.reduced keep).isSome := by
    rw [← filterMap_length_eq_length]
    have hmap := congrArg length hplain
    simp [reducedList] at hmap
    omega
  obtain ⟨x, hx, hid⟩ : ∃ x ∈ es, x.id = extSupportedratesIe := by
    have hmem : e.id ∈ es.map Element.id := by
      rw [← hids]
      simp
    obtain ⟨x, hx, hid⟩ := List.mem_map.1 hmem
    exact ⟨x, hx, hid.trans he⟩
  obtain ⟨x', hx'⟩ := isSome_iff_exists.1 (hall x hx)
  have hrates := extSupportedrates_isRates hid
  have hkept : x' = x.keepOnly keep ∧ x'.body ≠ [] := by
    rw [Element.reduced_eq hrates] at hx'
    by_cases hempty : (x.keepOnly keep).body = []
    · rw [if_pos hempty] at hx'
      cases hx'
    · rw [if_neg hempty] at hx'
      obtain rfl := Option.some.inj hx'
      exact ⟨rfl, hempty⟩
  have hid' : x'.id = extSupportedratesIe := by
    rw [hkept.1]
    exact hid
  have hmem : x'.plain ∈ (a ++ b ++ [g]).map Element.plain := by
    rw [hplain]
    exact List.mem_map_of_mem (mem_filterMap.2 ⟨x, hx, hx'⟩)
  obtain ⟨y, hy, hyx⟩ := List.mem_map.1 hmem
  have hyid : y.id = extSupportedratesIe := (congrArg Prod.fst hyx).trans hid'
  have hyg : y = g := by
    simp only [mem_append, mem_singleton] at hy
    rcases hy with (hy | hy) | hy
    · exact absurd hyid (ha y hy)
    · exact absurd hyid (hb y hy)
    · exact hy
  subst hyg
  have hbody := congrArg Prod.snd hyx
  unfold Element.plain at hbody
  simp only at hbody
  rw [if_pos (extSupportedrates_isRates hyid), if_pos (extSupportedrates_isRates hid'), hg,
    map_nil] at hbody
  exact hkept.2 (map_eq_nil_iff.1 hbody.symm)

lemma updateReduces_mixed (hkeep : (rateKeep mode dsConfig).1 = none)
    (hmode : mode ≠ wlanMd11b) (h : IesOk s.mem s.ieLength beaconIeOffset es) :
    UpdateReduces s mode dsConfig on6g es := by
  refine ⟨0, ?_⟩
  unfold rtwUpdateRateBymode
  simp only [hkeep, if_neg hmode]
  exact ⟨_, rfl, (ratesReduced_iff h fun _ _ => rfl).2 rfl⟩

lemma updateReduces_cut (hkeep : (rateKeep mode dsConfig).1 = some keep)
    (hfilter : rtwFilterSuppportRateie s keep = none) : ¬UpdateReduces s mode dsConfig on6g es := by
  rintro ⟨rounds, u, hu, -⟩
  unfold rtwUpdateRateBymode at hu
  simp only [hkeep, hfilter] at hu
  cases hu

lemma updateReduces_iff_filtered {s' : BssIes} (hkeep : (rateKeep mode dsConfig).1 = some keep)
    (hfilter : rtwFilterSuppportRateie s keep = some s') (hok : Filtered s s' keep es es')
    (hno : mode = wlanMd11b → ∀ x ∈ es', x.id ≠ extSupportedratesIe) :
    UpdateReduces s mode dsConfig on6g es ↔ RatesFit keep es := by
  have hresult : ∀ rounds, ∃ u, rtwUpdateRateBymode s mode dsConfig on6g rounds = some u ∧
      u.ies = s' := by
    intro rounds
    unfold rtwUpdateRateBymode
    simp only [hkeep, hfilter]
    by_cases hmode : mode = wlanMd11b
    · have hsame := removeExt_none hok.ok (hno hmode) s.ieLength rounds
      simp only [if_pos hmode]
      exact ⟨_, by rw [bind_eq_bind, bind_some, hsame]; rfl, rfl⟩
    · simp only [if_neg hmode]
      exact ⟨_, rfl, rfl⟩
  rw [← hok.right_iff, ← ratesReduced_iff hok.ok hok.before]
  constructor
  · rintro ⟨rounds, u, hu, hright⟩
    obtain ⟨u', hu', hies⟩ := hresult rounds
    obtain rfl := Option.some.inj (hu'.symm.trans hu)
    rw [hkeep, hies] at hright
    exact hright
  · intro hright
    obtain ⟨u, hu, hies⟩ := hresult 0
    refine ⟨0, u, hu, ?_⟩
    rw [hkeep, hies]
    exact hright

lemma updateReduces_ext {s' : BssIes} (hmode : mode = wlanMd11b)
    (hkeep : (rateKeep mode dsConfig).1 = some keep)
    (h : IesOk s.mem s.ieLength beaconIeOffset es)
    (hfilter : rtwFilterSuppportRateie s keep = some s') (hok : Filtered s s' keep es es')
    (hext : ∃ x ∈ es', x.id = extSupportedratesIe)
    (hone : es'.countP (fun e => e.id == extSupportedratesIe) ≤ 1) :
    ¬UpdateReduces s mode dsConfig on6g es := by
  rintro ⟨rounds, u, hu, hright⟩
  unfold rtwUpdateRateBymode at hu
  simp only [hkeep, hfilter, if_pos hmode] at hu
  rw [bind_eq_bind, bind_some] at hu
  obtain ⟨ies, hies, hu⟩ := bind_eq_some_iff.1 hu
  obtain rfl := Option.some.inj hu
  rw [hkeep] at hright
  exact removeExt_wrong hok.ok hok.ids hext hone hok.shorter h.short hies hright

/-- The update reduces the rates of a list that fits the mode, and of no other list that has at
most one element with extended rates. -/
theorem update_rate_iff (h : IesOk s.mem s.ieLength beaconIeOffset es) :
    (FitsMode mode dsConfig es → UpdateReduces s mode dsConfig on6g es) ∧
    ((mode = wlanMd11b → es.countP (fun e => e.id == extSupportedratesIe) ≤ 1) →
      UpdateReduces s mode dsConfig on6g es → FitsMode mode dsConfig es) := by
  unfold FitsMode
  cases hkeep : (rateKeep mode dsConfig).1 with
  | none =>
    have hmode : mode ≠ wlanMd11b := by
      rintro rfl
      exact absurd hkeep nofun
    exact ⟨fun _ => updateReduces_mixed hkeep hmode h,
      fun _ _ => ⟨nofun, fun h => absurd h hmode⟩⟩
  | some keep =>
    rcases filter_spec h keep with ⟨hcut, hunfit⟩ | ⟨s', es', hfilter, hok⟩
    · exact ⟨fun hfits => absurd (hfits.1 keep rfl) hunfit,
        fun _ hred => absurd hred (updateReduces_cut hkeep hcut)⟩
    have hid : ∀ x ∈ es', ∃ y ∈ es, y.id = x.id := by
      intro x hx
      have hmem : x.id ∈ es.map Element.id := by
        rw [← hok.ids]
        exact List.mem_map_of_mem hx
      exact List.mem_map.mp hmem
    constructor
    · rintro ⟨hfit, hno⟩
      apply (updateReduces_iff_filtered hkeep hfilter hok ?_).mpr (hfit keep rfl)
      intro hmode x hx hext
      obtain ⟨y, hy, hyx⟩ := hid x hx
      exact hno hmode y hy (hyx.trans hext)
    · intro hone hred
      have hno : mode = wlanMd11b → ∀ x ∈ es', x.id ≠ extSupportedratesIe := by
        intro hmode x hx hext
        have hcount := congrArg (countP (· == extSupportedratesIe)) hok.ids
        rw [countP_map, countP_map] at hcount
        exact updateReduces_ext hmode hkeep h hfilter hok ⟨x, hx, hext⟩
          (hcount.trans_le (hone hmode)) hred
      have hfit := (updateReduces_iff_filtered hkeep hfilter hok hno).mp hred
      refine ⟨fun keep' hkeep' => ?_, fun hmode y hy hext => ?_⟩
      · obtain rfl := Option.some.inj hkeep'
        exact hfit
      · have hmem : y.id ∈ es'.map Element.id := by
          rw [hok.ids]
          exact List.mem_map_of_mem hy
        obtain ⟨x, hx, hxy⟩ := List.mem_map.mp hmem
        exact hno hmode x hx (hxy.trans hext)

end

def cckRates : Element := ⟨supportedratesIe, [0x82, 0x84], by decide⟩

def ofdmRates : Element := ⟨extSupportedratesIe, [0x0c], by decide⟩

/-- A BSS whose elements are those of `es`. -/
def bssIesOf (es : List Element) : BssIes :=
  ⟨writeBytes (fun _ => 0) beaconIeOffset (encode es), beaconIeOffset + (encode es).length⟩

lemma bssIesOf_ok {es : List Element} (h : beaconIeOffset + (encode es).length < 2 ^ 31) :
    IesOk (bssIesOf es).mem (bssIesOf es).ieLength beaconIeOffset es :=
  ⟨stores_writeBytes .., rfl, h⟩

theorem update_rate_iff_cck :
    FitsMode wlanMd11b 1 [cckRates] ∧ UpdateReduces (bssIesOf [cckRates]) wlanMd11b 1 false [cckRates] ∧
    FitsMode wlanMd11bg 1 [cckRates, ofdmRates] := by
  have hcck : FitsMode wlanMd11b 1 [cckRates] := by
    refine ⟨fun keep hkeep => ?_, fun _ => by decide⟩
    obtain rfl : RateKind.cck = keep := Option.some.inj hkeep
    refine ⟨fun e he => ?_, fun e he => by cases he⟩
    obtain rfl : cckRates = e := Option.some.inj he
    decide
  have hok : IesOk (bssIesOf [cckRates]).mem (bssIesOf [cckRates]).ieLength beaconIeOffset [cckRates] :=
    bssIesOf_ok (by decide)
  have hmixed : UpdateReduces (bssIesOf [cckRates, ofdmRates]) wlanMd11bg 1 false
      [cckRates, ofdmRates] := updateReduces_mixed rfl (by decide) (bssIesOf_ok (by decide))
  exact ⟨hcck, (update_rate_iff hok).1 hcck,
    (update_rate_iff (bssIesOf_ok (by decide))).2 (fun h => absurd h (by decide)) hmixed⟩

/-- When the extended rates are removed, the length stays two bytes too long. -/
theorem update_rate_two_bytes_long :
    IesOk (bssIesOf [cckRates, ofdmRates]).mem (bssIesOf [cckRates, ofdmRates]).ieLength beaconIeOffset
      [cckRates, ofdmRates] ∧
    ¬UpdateReduces (bssIesOf [cckRates, ofdmRates]) wlanMd11b 1 false [cckRates, ofdmRates] := by
  have hok : IesOk (bssIesOf [cckRates, ofdmRates]).mem (bssIesOf [cckRates, ofdmRates]).ieLength
      beaconIeOffset [cckRates, ofdmRates] := bssIesOf_ok (by decide)
  refine ⟨hok, ?_⟩
  rcases filter_spec hok .cck with ⟨hcut, -⟩ | ⟨s', es', hfilter, hfiltered⟩
  · exact updateReduces_cut rfl hcut
  · have hids : es'.map Element.id = [supportedratesIe, extSupportedratesIe] := hfiltered.ids
    refine updateReduces_ext rfl rfl hok hfilter hfiltered ?_ ?_
    · have hmem : extSupportedratesIe ∈ es'.map Element.id := by
        rw [hids]
        decide
      exact List.mem_map.mp hmem
    · have hcount := congrArg (countP (· == extSupportedratesIe)) hids
      rw [countP_map] at hcount
      exact hcount.le

end Rtl8831.Core
