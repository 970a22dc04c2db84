import Rtl8831.Core.IeList
import Rtl8831.Core.Wifi

/-!
# The table of elements of a frame

`rtw_ieee802_11_parse_elems` goes over the elements of a frame body and keeps for each kind
the last one.  What lies behind the frame is whatever the memory holds there: the parser of
extension elements reads the first byte of a body that may be empty.
-/

namespace Rtl8831.Core

open Lib List

/-- The pointers of `struct rtw_ieee802_11_elems`. -/
inductive ElemField where
  | ssid
  | suppRates
  | fhParams
  | dsParams
  | cfParams
  | tim
  | ibssParams
  | challenge
  | erpInfo
  | extSuppRates
  | wpaIe
  | rsnIe
  | wme
  | wmeTspec
  | wpsIe
  | powerCap
  | suppChannels
  | mdie
  | ftie
  | timeoutInt
  | htCapabilities
  | htOperation
  | vendorHtCap
  | vhtCapabilities
  | vhtOperation
  | vhtOpModeNotify
  | heCapabilities
  | heOperation
  | rmEnCap
  | apChannelRpt
  | countryInfo
  deriving DecidableEq

/-- A pointer with its length; `none` is a NULL pointer. -/
abbrev Elems : Type := ElemField → Option IePos

inductive ParseRes where
  | parseOK
  | parseUnknown
  | parseFailed
  deriving DecidableEq

def ouiMicrosoft : ℕ := 0x0050f2

def ouiBroadcom : ℕ := 0x00904c

section

variable (mem : ℕ → UInt8)

def be24 (pos : ℕ) : ℕ :=
  65536 * (mem pos).toNat + 256 * (mem (pos + 1)).toNat + (mem (pos + 2)).toNat

/-- The pointer that `rtw_ieee802_11_parse_vendor_specific` sets; `none` is its -1. -/
def vendorField (pos elen : ℕ) : Option ElemField :=
  if elen < 4 then none
  else if be24 mem pos = ouiMicrosoft then
    if mem (pos + 3) = 1 then some .wpaIe
    else if mem (pos + 3) = 2 then
      if elen < 5 then none
      else if mem (pos + 4) = 0 ∨ mem (pos + 4) = 1 then some .wme
      else if mem (pos + 4) = 2 then some .wmeTspec
      else none
    else if mem (pos + 3) = 4 then some .wpsIe
    else none
  else if be24 mem pos = ouiBroadcom then
    if mem (pos + 3) = 0x33 then some .vendorHtCap else none
  else none

/-- The pointer that `rtw_ieee802_11_parse_ext_elems` sets, whatever the length. -/
def extField (pos : ℕ) : Option ElemField :=
  if mem pos = 35 then some .heCapabilities
  else if mem pos = 36 then some .heOperation
  else none

def fieldOfEid (id : UInt8) : Option ElemField :=
  match id with
  | 0 => some .ssid
  | 1 => some .suppRates
  | 2 => some .fhParams
  | 3 => some .dsParams
  | 4 => some .cfParams
  | 5 => some .tim
  | 6 => some .ibssParams
  | 16 => some .challenge
  | 42 => some .erpInfo
  | 50 => some .extSuppRates
  | 48 => some .rsnIe
  | 33 => some .powerCap
  | 36 => some .suppChannels
  | 54 => some .mdie
  | 55 => some .ftie
  | 56 => some .timeoutInt
  | 45 => some .htCapabilities
  | 61 => some .htOperation
  | 191 => some .vhtCapabilities
  | 192 => some .vhtOperation
  | 199 => some .vhtOpModeNotify
  | 70 => some .rmEnCap
  | 51 => some .apChannelRpt
  | 7 => some .countryInfo
  | _ => none

/-- The switch over the id of the element whose body is at `pos`. -/
def elemField (id : UInt8) (pos elen : ℕ) : Option ElemField :=
  if id = wlanEidVendorSpecific then vendorField mem pos elen
  else if id = wlanEidExtension then extField mem pos
  else fieldOfEid id

def setField (field : Option ElemField) (pos elen : ℕ) (elems : Elems) : Elems :=
  match field with
  | none => elems
  | some k => Function.update elems k (some ⟨pos, elen⟩)

/-- `unknown++`; the result of the parser of extension elements is not looked at. -/
def countUnknown (id : UInt8) (field : Option ElemField) (unknown : ℕ) : ℕ :=
  if id ≠ wlanEidExtension ∧ field = none then unknown + 1 else unknown

def parseEnd (left unknown : ℕ) : ParseRes :=
  if left ≠ 0 then .parseFailed else if unknown ≠ 0 then .parseUnknown else .parseOK

/-- `while (left >= 2)`, for at most `rounds` rounds. -/
def parseLoop : (rounds left pos : ℕ) → Elems → ℕ → ParseRes × Elems
  | 0, left, _, elems, unknown => (parseEnd left unknown, elems)
  | rounds + 1, left, pos, elems, unknown =>
    if left < 2 then (parseEnd left unknown, elems)
    else
      let id := mem pos
      let elen := bodyLen mem pos
      let left := left - 2
      if left < elen then (.parseFailed, elems)
      else
        let field := elemField mem id (pos + 2) elen
        parseLoop rounds (left - elen) (pos + 2 + elen) (setField field (pos + 2) elen elems)
          (countUnknown id field unknown)

/-- `rtw_ieee802_11_parse_elems`.  A round takes two bytes at least, so `len` rounds are
enough. -/
def rtwIeee80211ParseElems (start len : ℕ) : ParseRes × Elems :=
  parseLoop mem len len start (fun _ => none) 0

end

structure Tiles (mem : ℕ → UInt8) (start len : ℕ) (es : List Element) : Prop where
  stores : Stores mem start (encode es)
  length : (encode es).length = len

/-- The table after the elements from `pos` on. -/
def assign (mem : ℕ → UInt8) : ℕ → List Element → Elems → Elems
  | _, [], elems => elems
  | pos, e :: es, elems =>
    assign mem (pos + e.bytes.length) es
      (setField (elemField mem e.id (pos + 2) e.body.length) (pos + 2) e.body.length elems)

section

variable {mem : ℕ → UInt8} {start len pos left rounds unknown : ℕ} {elems : Elems}
  {es : List Element} {e : Element}

lemma parseLoop_tiles (h : Tiles mem pos left es) (hrounds : left ≤ rounds) :
    ∃ n, parseLoop mem rounds left pos elems unknown =
      (parseEnd 0 n, assign mem pos es elems) := by
  induction es generalizing pos left rounds elems unknown with
  | nil =>
    obtain rfl : left = 0 := h.length.symm
    cases rounds with
    | zero => exact ⟨unknown, rfl⟩
    | succ rounds => exact ⟨unknown, rfl⟩
  | cons e es ih =>
    have hlen := h.length
    rw [encode_cons, length_append, Element.length_bytes] at hlen
    have hstores := h.stores
    rw [encode_cons, stores_append] at hstores
    obtain ⟨hid, hbody, -⟩ := stores_element.1 hstores.1
    obtain ⟨rounds, rfl⟩ : ∃ k, rounds = k + 1 := ⟨rounds - 1, by omega⟩
    have hrest : Tiles mem (pos + e.bytes.length) (left - 2 - e.body.length) es :=
      ⟨hstores.2, by omega⟩
    have hpos : pos + 2 + e.body.length = pos + e.bytes.length := by
      rw [Element.length_bytes]
      omega
    have hle : left - 2 - e.body.length ≤ rounds := by omega
    rw [parseLoop, if_neg (by omega)]
    dsimp only
    rw [hid, hbody, if_neg (by omega), hpos, assign]
    exact ih hrest hle

lemma tiles_of_parseLoop (hrounds : left ≤ rounds)
    (h : (parseLoop mem rounds left pos elems unknown).1 ≠ .parseFailed) :
    ∃ es, Tiles mem pos left es := by
  induction rounds generalizing left pos elems unknown with
  | zero =>
    obtain rfl := Nat.le_zero.1 hrounds
    exact ⟨[], stores_nil, rfl⟩
  | succ rounds ih =>
    rw [parseLoop] at h
    by_cases hshort : left < 2
    · rw [if_pos hshort] at h
      have hleft : left = 0 := by
        by_contra hne
        exact h (if_pos hne)
      subst hleft
      exact ⟨[], stores_nil, rfl⟩
    · rw [if_neg hshort] at h
      dsimp only at h
      by_cases hlong : left - 2 < bodyLen mem pos
      · rw [if_pos hlong] at h
        exact absurd rfl h
      · rw [if_neg hlong] at h
        obtain ⟨es, hes⟩ := ih (by omega) h
        let e : Element := ⟨mem pos, bytesAt mem (pos + 2) (bodyLen mem pos), by
          rw [length_bytesAt]
          exact (mem (pos + 1)).toNat_lt⟩
        have hlen : e.body.length = bodyLen mem pos := length_bytesAt
        have he : Stores mem pos e.bytes :=
          stores_element.2 ⟨rfl, hlen.symm, stores_bytesAt⟩
        refine ⟨e :: es, ?_, ?_⟩
        · rw [encode_cons, stores_append, Element.length_bytes, hlen, Nat.add_comm _ 2,
            ← Nat.add_assoc]
          exact ⟨he, hes.stores⟩
        · rw [encode_cons, length_append, Element.length_bytes, hes.length, hlen]
          omega

lemma parseEnd_zero_ne (n : ℕ) : parseEnd 0 n ≠ .parseFailed := by
  unfold parseEnd
  rw [if_neg (not_not.2 rfl)]
  split
  · exact nofun
  · exact nofun

lemma parseElems_failed_iff :
    (rtwIeee80211ParseElems mem start len).1 = .parseFailed ↔ ¬∃ es, Tiles mem start len es := by
  constructor
  · rintro h ⟨es, hes⟩
    obtain ⟨n, hn⟩ := @parseLoop_tiles _ _ _ _ 0 (fun _ => none) _ hes le_rfl
    rw [rtwIeee80211ParseElems, hn] at h
    exact parseEnd_zero_ne n h
  · intro h
    by_contra hne
    exact h (tiles_of_parseLoop le_rfl hne)

lemma parseElems_assign (h : Tiles mem start len es) :
    (rtwIeee80211ParseElems mem start len).2 = assign mem start es fun _ => none := by
  obtain ⟨n, hn⟩ := @parseLoop_tiles _ _ _ _ 0 (fun _ => none) _ h le_rfl
  rw [rtwIeee80211ParseElems, hn]

end

def fieldPattern : ElemField → UInt8 × List (List UInt8)
  | .ssid => (0, [[]])
  | .suppRates => (1, [[]])
  | .fhParams => (2, [[]])
  | .dsParams => (3, [[]])
  | .cfParams => (4, [[]])
  | .tim => (5, [[]])
  | .ibssParams => (6, [[]])
  | .countryInfo => (7, [[]])
  | .challenge => (16, [[]])
  | .powerCap => (33, [[]])
  | .suppChannels => (36, [[]])
  | .erpInfo => (42, [[]])
  | .htCapabilities => (45, [[]])
  | .rsnIe => (48, [[]])
  | .extSuppRates => (50, [[]])
  | .apChannelRpt => (51, [[]])
  | .mdie => (54, [[]])
  | .ftie => (55, [[]])
  | .timeoutInt => (56, [[]])
  | .htOperation => (61, [[]])
  | .rmEnCap => (70, [[]])
  | .vhtCapabilities => (191, [[]])
  | .vhtOperation => (192, [[]])
  | .vhtOpModeNotify => (199, [[]])
  | .wpaIe => (wlanEidVendorSpecific, [[0x00, 0x50, 0xf2, 1]])
  | .wme => (wlanEidVendorSpecific, [[0x00, 0x50, 0xf2, 2, 0], [0x00, 0x50, 0xf2, 2, 1]])
  | .wmeTspec => (wlanEidVendorSpecific, [[0x00, 0x50, 0xf2, 2, 2]])
  | .wpsIe => (wlanEidVendorSpecific, [[0x00, 0x50, 0xf2, 4]])
  | .vendorHtCap => (wlanEidVendorSpecific, [[0x00, 0x90, 0x4c, 0x33]])
  | .heCapabilities => (wlanEidExtension, [[35]])
  | .heOperation => (wlanEidExtension, [[36]])

def BodyFor (k : ElemField) (body : List UInt8) : Prop :=
  ∃ p ∈ (fieldPattern k).2, p <+: body

def Element.IsFor (e : Element) (k : ElemField) : Prop :=
  e.id = (fieldPattern k).1 ∧ BodyFor k e.body

section

variable {mem : ℕ → UInt8} {pos : ℕ} {body : List UInt8} {id : UInt8} {k : ElemField}

lemma fieldOfEid_iff (hv : id ≠ wlanEidVendorSpecific) (he : id ≠ wlanEidExtension) :
    fieldOfEid id = some k ↔ id = (fieldPattern k).1 ∧ BodyFor k body := by
  constructor
  · intro h
    have hp : fieldPattern k = (id, [[]]) := by
      unfold fieldOfEid at h
      split at h
      all_goals cases h
      all_goals rfl
    unfold BodyFor
    rw [hp]
    exact ⟨rfl, [], mem_singleton_self _, nil_prefix⟩
  · rintro ⟨rfl, -⟩
    cases k
    all_goals first
      | rfl
      | exact absurd rfl hv
      | exact absurd rfl he

lemma extField_iff (h : Stores mem pos body) (hne : body ≠ []) :
    extField mem pos = some k ↔ wlanEidExtension = (fieldPattern k).1 ∧ BodyFor k body := by
  obtain ⟨a, rest, rfl⟩ := exists_cons_of_ne_nil hne
  rw [stores_cons] at h
  unfold extField
  rw [h.1]
  constructor
  · intro hk
    split_ifs at hk with h35 h36
    · cases hk
      exact ⟨rfl, [35], mem_singleton_self _, rest, by rw [h35]; rfl⟩
    · cases hk
      exact ⟨rfl, [36], mem_singleton_self _, rest, by rw [h36]; rfl⟩
  · rintro ⟨hid, p, hp, t, ht⟩
    cases k
    case heCapabilities =>
      obtain rfl := mem_singleton.1 hp
      rw [← (List.cons.inj ht).1]
      rfl
    case heOperation =>
      obtain rfl := mem_singleton.1 hp
      rw [← (List.cons.inj ht).1]
      rfl
    all_goals exact absurd hid (by decide)

lemma be24_eq_iff {a b c : UInt8} (ha : mem pos = a) (hb : mem (pos + 1) = b)
    (hc : mem (pos + 2) = c) (x y z : UInt8) :
    be24 mem pos = 65536 * x.toNat + 256 * y.toNat + z.toNat ↔ a = x ∧ b = y ∧ c = z := by
  unfold be24
  rw [ha, hb, hc, ← UInt8.toNat_inj, ← UInt8.toNat_inj, ← UInt8.toNat_inj]
  have ha := a.toNat_lt
  have hb := b.toNat_lt
  have hc := c.toNat_lt
  have hx := x.toNat_lt
  have hy := y.toNat_lt
  have hz := z.toNat_lt
  omega

lemma fieldPattern_vendor {p : List UInt8} (hid : wlanEidVendorSpecific = (fieldPattern k).1)
    (hp : p ∈ (fieldPattern k).2) : 4 ≤ p.length := by
  revert p
  cases k
  all_goals first
    | exact absurd hid (by decide)
    | decide

lemma vendorField_iff (h : Stores mem pos body) :
    vendorField mem pos body.length = some k ↔
      wlanEidVendorSpecific = (fieldPattern k).1 ∧ BodyFor k body := by
  by_cases hshort : body.length < 4
  · unfold vendorField
    rw [if_pos hshort]
    refine iff_of_false nofun ?_
    rintro ⟨hid, p, hp, hpre⟩
    have hlen := fieldPattern_vendor hid hp
    have hle := hpre.length_le
    omega
  have hlen : 4 ≤ body.length := Nat.le_of_not_lt hshort
  obtain ⟨a, b, c, d, rest, rfl⟩ : ∃ a b c d rest, body = a :: b :: c :: d :: rest := by
    rcases body with _ | ⟨a, _ | ⟨b, _ | ⟨c, _ | ⟨d, rest⟩⟩⟩⟩
    · exact absurd hlen (by simp)
    · exact absurd hlen (by simp)
    · exact absurd hlen (by simp)
    · exact absurd hlen (by simp)
    · exact ⟨a, b, c, d, rest, rfl⟩
  simp only [stores_cons] at h
  obtain ⟨ha, hb, hc, hd, hrest⟩ := h
  have hmicro : be24 mem pos = ouiMicrosoft ↔ a = 0x00 ∧ b = 0x50 ∧ c = 0xf2 :=
    be24_eq_iff ha hb hc 0x00 0x50 0xf2
  have hbroad : be24 mem pos = ouiBroadcom ↔ a = 0x00 ∧ b = 0x90 ∧ c = 0x4c :=
    be24_eq_iff ha hb hc 0x00 0x90 0x4c
  have hd' : mem (pos + 3) = d := hd
  have hsub : ∀ x t, rest = x :: t → mem (pos + 4) = x := by
    rintro x t rfl
    exact (stores_cons.1 hrest).1
  unfold vendorField
  rw [if_neg hshort, hd']
  constructor
  · intro hk
    by_cases hm : be24 mem pos = ouiMicrosoft
    · rw [if_pos hm] at hk
      obtain ⟨rfl, rfl, rfl⟩ := hmicro.1 hm
      split_ifs at hk with h1 h2 h5 hinfo htspec h4
      · cases hk
        exact ⟨rfl, _, mem_singleton_self _, rest, by rw [h1]; rfl⟩
      · obtain ⟨x, t, rfl⟩ : ∃ x t, rest = x :: t :=
          exists_cons_of_ne_nil (by rintro rfl; exact h5 (by simp))
        rw [hsub x t rfl] at hinfo
        cases hk
        rcases hinfo with rfl | rfl
        · exact ⟨rfl, [0x00, 0x50, 0xf2, 2, 0], by decide, t, by rw [h2]; rfl⟩
        · exact ⟨rfl, [0x00, 0x50, 0xf2, 2, 1], by decide, t, by rw [h2]; rfl⟩
      · obtain ⟨x, t, rfl⟩ : ∃ x t, rest = x :: t :=
          exists_cons_of_ne_nil (by rintro rfl; exact h5 (by simp))
        rw [hsub x t rfl] at htspec
        cases hk
        exact ⟨rfl, _, mem_singleton_self _, t, by rw [h2, htspec]; rfl⟩
      · cases hk
        exact ⟨rfl, _, mem_singleton_self _, rest, by rw [h4]; rfl⟩
    · rw [if_neg hm] at hk
      split_ifs at hk with hb h33
      obtain ⟨rfl, rfl, rfl⟩ := hbroad.1 hb
      cases hk
      exact ⟨rfl, _, mem_singleton_self _, rest, by rw [h33]; rfl⟩
  · rintro ⟨hid, p, hp, t, ht⟩
    cases k
    case wpaIe =>
      obtain rfl := mem_singleton.1 hp
      cases ht
      rw [if_pos (hmicro.2 ⟨rfl, rfl, rfl⟩)]
      rfl
    case wpsIe =>
      obtain rfl := mem_singleton.1 hp
      cases ht
      rw [if_pos (hmicro.2 ⟨rfl, rfl, rfl⟩)]
      rfl
    case vendorHtCap =>
      obtain rfl := mem_singleton.1 hp
      cases ht
      rw [if_neg (fun hm => absurd (hmicro.1 hm).2.1 (by decide)),
        if_pos (hbroad.2 ⟨rfl, rfl, rfl⟩)]
      rfl
    case wmeTspec =>
      obtain rfl := mem_singleton.1 hp
      cases ht
      rw [if_pos (hmicro.2 ⟨rfl, rfl, rfl⟩), hsub 2 t rfl]
      rfl
    case wme =>
      have hsubtype : ∃ x, (x = 0 ∨ x = 1) ∧ [0x00, 0x50, 0xf2, 2, x] = p := by
        rcases mem_pair.1 hp with rfl | rfl
        · exact ⟨0, Or.inl rfl, rfl⟩
        · exact ⟨1, Or.inr rfl, rfl⟩
      obtain ⟨x, hx, rfl⟩ := hsubtype
      cases ht
      rw [if_pos (hmicro.2 ⟨rfl, rfl, rfl⟩), hsub x t rfl, if_neg (by decide), if_pos rfl,
        if_neg (by simp), if_pos hx]
    all_goals exact absurd hid (by decide)

end

/-- Where the body of the element behind `a` begins. -/
def bodyAt (start : ℕ) (a : List Element) : ℕ := start + (encode a).length + 2

def Stray (mem : ℕ → UInt8) (pos : ℕ) (e : Element) (k : ElemField) : Prop :=
  e.id = wlanEidExtension ∧ e.body = [] ∧ extField mem pos = some k

def Denotes (start : ℕ) (es : List Element) (elems : Elems) : Prop :=
  ∀ k f, elems k = some f → ∃ a e b, es = a ++ e :: b ∧ e.IsFor k ∧ (∀ x ∈ b, ¬x.IsFor k) ∧
    f = ⟨bodyAt start a, e.body.length⟩

def StraysCovered (mem : ℕ → UInt8) (start : ℕ) (es : List Element) : Prop :=
  ∀ a e b k, es = a ++ e :: b → Stray mem (bodyAt start a) e k → ∃ x ∈ b, x.IsFor k

section

variable {mem : ℕ → UInt8} {start len pos : ℕ} {elems : Elems} {a b es : List Element}
  {e : Element} {k : ElemField}

lemma nil_notMem_fieldPattern (hid : wlanEidExtension = (fieldPattern k).1) :
    [] ∉ (fieldPattern k).2 := by
  revert hid
  cases k <;> decide

lemma elemField_iff (h : Stores mem pos e.body) :
    elemField mem e.id pos e.body.length = some k ↔ e.IsFor k ∨ Stray mem pos e k := by
  unfold elemField
  by_cases hv : e.id = wlanEidVendorSpecific
  · rw [if_pos hv, vendorField_iff h, Element.IsFor, hv]
    refine (or_iff_left ?_).symm
    exact fun hs => absurd (hv.symm.trans hs.1) (by decide)
  rw [if_neg hv]
  by_cases he : e.id = wlanEidExtension
  · rw [if_pos he]
    by_cases hnil : e.body = []
    · refine ⟨fun hk => Or.inr ⟨he, hnil, hk⟩, ?_⟩
      rintro (⟨hid, p, hp, hpre⟩ | hs)
      · rw [hnil, prefix_nil] at hpre
        subst hpre
        exact absurd hp (nil_notMem_fieldPattern (he.symm.trans hid))
      · exact hs.2.2
    · rw [extField_iff h hnil, Element.IsFor, he]
      exact (or_iff_left fun hs => hnil hs.2.1).symm
  · rw [if_neg he, fieldOfEid_iff hv he]
    exact (or_iff_left fun hs => he hs.1).symm

lemma Tiles.split (h : Tiles mem start len (a ++ e :: b)) :
    Stores mem (start + (encode a).length) e.bytes := by
  have hstores := h.stores
  rw [encode_append, encode_cons, stores_append, stores_append] at hstores
  exact hstores.2.1

lemma Tiles.field_iff (h : Tiles mem start len (a ++ e :: b)) :
    elemField mem e.id (bodyAt start a) e.body.length = some k ↔
      e.IsFor k ∨ Stray mem (bodyAt start a) e k :=
  elemField_iff (stores_element.1 h.split).2.2

lemma assign_append (es : List Element) (e : Element) (pos : ℕ) (elems : Elems) :
    assign mem pos (es ++ [e]) elems =
      setField (elemField mem e.id (bodyAt pos es) e.body.length) (bodyAt pos es) e.body.length
        (assign mem pos es elems) := by
  induction es generalizing pos elems with
  | nil => rfl
  | cons x es ih =>
    have hpos : bodyAt (pos + x.bytes.length) es = bodyAt pos (x :: es) := by
      unfold bodyAt
      rw [encode_cons, length_append]
      omega
    rw [cons_append, assign, ih, hpos]
    rfl

lemma setField_ne {field : Option ElemField} (h : field ≠ some k) (pos elen : ℕ)
    (elems : Elems) : setField field pos elen elems k = elems k := by
  cases field with
  | none => rfl
  | some j => exact Function.update_of_ne (fun hk => h (congrArg some hk.symm)) ..

/-- The element behind `a` sets the pointer, and none of `b` behind it does. -/
structure SetsLast (mem : ℕ → UInt8) (start : ℕ) (k : ElemField) (a : List Element) (e : Element)
    (b : List Element) : Prop where
  sets : elemField mem e.id (bodyAt start a) e.body.length = some k
  last : ∀ c x d, b = c ++ x :: d →
    elemField mem x.id (bodyAt start (a ++ e :: c)) x.body.length ≠ some k

lemma SetsLast.concat (h : SetsLast mem start k a e b) {x : Element}
    (hx : elemField mem x.id (bodyAt start (a ++ e :: b)) x.body.length ≠ some k) :
    SetsLast mem start k a e (b ++ [x]) := by
  refine ⟨h.sets, fun c y d hd => ?_⟩
  rcases eq_nil_or_concat d with rfl | ⟨d, z, rfl⟩
  · obtain ⟨rfl, hy⟩ := append_inj' hd rfl
    obtain rfl := singleton_injective hy
    exact hx
  · rw [concat_eq_append, ← cons_append, ← append_assoc] at hd
    exact h.last c y d (append_inj' hd rfl).1

lemma assign_cases (mem : ℕ → UInt8) (start : ℕ) (k : ElemField) (es : List Element) :
    (assign mem start es (fun _ => none) k = none ∧ ∀ a e b, es = a ++ e :: b →
      elemField mem e.id (bodyAt start a) e.body.length ≠ some k) ∨
    ∃ a e b, es = a ++ e :: b ∧ SetsLast mem start k a e b ∧
      assign mem start es (fun _ => none) k = some ⟨bodyAt start a, e.body.length⟩ := by
  induction es using reverseRecOn with
  | nil => exact Or.inl ⟨rfl, fun a e b h => absurd h (by simp)⟩
  | append_singleton es x ih =>
    rw [assign_append]
    by_cases hx : elemField mem x.id (bodyAt start es) x.body.length = some k
    · rw [hx]
      refine Or.inr ⟨es, x, [], rfl, ⟨hx, fun c y d hd => absurd hd (by simp)⟩, ?_⟩
      exact Function.update_self ..
    · rw [setField_ne hx]
      rcases ih with ⟨hnone, hno⟩ | ⟨a, e, b, rfl, hlast, heq⟩
      · refine Or.inl ⟨hnone, fun a e b hes => ?_⟩
        rcases eq_nil_or_concat b with rfl | ⟨b, z, rfl⟩
        · obtain ⟨rfl, hy⟩ := append_inj' hes rfl
          obtain rfl := singleton_injective hy
          exact hx
        · rw [concat_eq_append, ← cons_append, ← append_assoc] at hes
          exact hno a e b (append_inj' hes rfl).1
      · exact Or.inr ⟨a, e, b ++ [x], by simp, hlast.concat hx, heq⟩

lemma bodyAt_inj {a' b' : List Element} {e' : Element} (h : a ++ e :: b = a' ++ e' :: b')
    (hpos : bodyAt start a = bodyAt start a') : a = a' ∧ e = e' ∧ b = b' := by
  have hnil : ∀ m : List Element, (encode m).length = 0 → m = [] := fun m hm => by
    by_contra hne
    exact absurd hm (encode_pos hne).ne'
  have haa : a = a' := by
    unfold bodyAt at hpos
    rcases append_eq_append_iff.1 h with ⟨m, rfl, -⟩ | ⟨m, rfl, -⟩
    · rw [encode_append, length_append] at hpos
      rw [hnil m (by omega), append_nil]
    · rw [encode_append, length_append] at hpos
      rw [hnil m (by omega), append_nil]
  subst haa
  exact ⟨rfl, List.cons.inj (append_cancel_left h)⟩

lemma denotes_iff (h : Tiles mem start len es) :
    Denotes start es (assign mem start es fun _ => none) ↔ StraysCovered mem start es := by
  constructor
  · rintro hden a e b k rfl hstray
    rcases assign_cases mem start k (a ++ e :: b) with ⟨-, hno⟩ | ⟨a', e', b', hes, hlast, heq⟩
    · exact absurd (h.field_iff.2 (Or.inr hstray)) (hno a e b rfl)
    obtain ⟨a₁, e₁, b₁, hes₁, hfor, -, hpos⟩ := hden k _ heq
    obtain ⟨rfl, rfl, rfl⟩ := bodyAt_inj (hes.symm.trans hes₁) (congrArg IePos.pos hpos)
    have hne : e ≠ e' := by
      rintro rfl
      obtain ⟨p, hp, hpre⟩ := hfor.2
      rw [hstray.2.1, prefix_nil] at hpre
      subst hpre
      exact nil_notMem_fieldPattern (hstray.1.symm.trans hfor.1) hp
    -- the stray element does not come last, so the one that does is behind it
    rcases append_eq_append_iff.1 hes with ⟨m, rfl, hm⟩ | ⟨m, rfl, hm⟩
    · cases m with
      | nil => exact absurd (List.cons.inj hm).1 hne
      | cons x m =>
        obtain ⟨rfl, rfl⟩ := List.cons.inj hm
        exact ⟨e', by simp, hfor⟩
    · cases m with
      | nil => exact absurd (List.cons.inj hm).1.symm hne
      | cons x m =>
        obtain ⟨rfl, rfl⟩ := List.cons.inj hm
        exact absurd (h.field_iff.2 (Or.inr hstray)) (hlast.last m e b rfl)
  · intro hcov k f hf
    rcases assign_cases mem start k es with ⟨hnone, -⟩ | ⟨a, e, b, rfl, hlast, heq⟩
    · exact absurd (hnone.symm.trans hf) nofun
    have hnone : ∀ x ∈ b, ¬x.IsFor k := by
      intro x hx hfor
      obtain ⟨c, d, rfl⟩ := append_of_mem hx
      have hsplit : a ++ e :: (c ++ x :: d) = (a ++ e :: c) ++ x :: d := by simp
      rw [hsplit] at h
      exact hlast.last c x d rfl (h.field_iff.2 (Or.inl hfor))
    refine ⟨a, e, b, rfl, ?_, hnone, (Option.some.inj (heq.symm.trans hf)).symm⟩
    rcases h.field_iff.1 hlast.sets with hfor | hstray
    · exact hfor
    · obtain ⟨x, hx, hfor⟩ := hcov a e b k rfl hstray
      exact absurd hfor (hnone x hx)

/-- The parser fails just on what no elements tile, and otherwise its table is right if and
only if the empty extension elements are harmless. -/
theorem parse_elems_iff :
    ((rtwIeee80211ParseElems mem start len).1 = .parseFailed ↔ ¬∃ es, Tiles mem start len es) ∧
    ∀ es, Tiles mem start len es →
      (Denotes start es (rtwIeee80211ParseElems mem start len).2 ↔ StraysCovered mem start es) := by
  refine ⟨parseElems_failed_iff, fun es hes => ?_⟩
  rw [parseElems_assign hes]
  exact denotes_iff hes

end

def emptyExtension : Element := ⟨wlanEidExtension, [], by decide⟩

def suppChannels : Element := ⟨36, [1, 13], by decide⟩

/-- The id of the supported channels behind an empty extension element is taken for that of
the HE operation element. -/
theorem emptyExtension_is_heOperation :
    Tiles (byteAt (encode [emptyExtension, suppChannels])) 0 6 [emptyExtension, suppChannels] ∧
    ¬Denotes 0 [emptyExtension, suppChannels]
      (rtwIeee80211ParseElems (byteAt (encode [emptyExtension, suppChannels])) 0 6).2 := by
  have htiles : Tiles (byteAt (encode [emptyExtension, suppChannels])) 0 6
      [emptyExtension, suppChannels] := ⟨rfl, rfl⟩
  refine ⟨htiles, fun hden => ?_⟩
  rw [parseElems_assign htiles, denotes_iff htiles] at hden
  obtain ⟨x, hx, hfor⟩ := hden [] emptyExtension [suppChannels] .heOperation rfl ⟨rfl, rfl, rfl⟩
  obtain rfl := mem_singleton.mp hx
  exact absurd hfor.1 (by decide)

end Rtl8831.Core
