import Rtl8831.Core.Pppoe

/-!
# The round trip of the relay tag

The tags of a frame are a list; a frame has a list of tags if its bytes are their encoding and
its length field is the length of that.
-/

namespace Rtl8831.Core.Pppoe

open Lib List

structure Tag where
  type : ℕ
  body : List UInt8
  deriving DecidableEq

def Tag.header (t : Tag) : List UInt8 := htons t.type ++ htons t.body.length

def Tag.bytes (t : Tag) : List UInt8 := t.header ++ t.body

def encode (tags : List Tag) : List UInt8 := tags.flatMap Tag.bytes

def isRelay (t : Tag) : Bool := t.type == pttRelaySid

def Tag.Fits (t : Tag) : Prop := t.type < 0x10000 ∧ t.body.length < 0x10000

structure HasTags (skb : SkBuff) (tags : List Tag) : Prop where
  fits : ∀ t ∈ tags, t.Fits
  length : be16 skb.data lengthAt = (encode tags).length
  stores : Stores skb.data tagAt (encode tags)
  inside : tagAt + (encode tags).length ≤ skb.len

section

variable {mem : ℕ → UInt8} {p n : ℕ} {tags pre post : List Tag} {t : Tag} {skb : SkBuff}

@[simp] lemma length_htons (n : ℕ) : (htons n).length = 2 := rfl

@[simp] lemma length_header (t : Tag) : t.header.length = 4 := rfl

@[simp] lemma length_tagBytes (t : Tag) : t.bytes.length = 4 + t.body.length := by
  rw [Tag.bytes, length_append, length_header]

@[simp] lemma encode_nil : encode [] = [] := rfl

@[simp] lemma encode_cons (t : Tag) (tags : List Tag) :
    encode (t :: tags) = t.bytes ++ encode tags := by
  simp [encode]

@[simp] lemma encode_append (a b : List Tag) : encode (a ++ b) = encode a ++ encode b := by
  simp [encode]

lemma length_le_encode (tags : List Tag) : tags.length ≤ (encode tags).length := by
  induction tags with
  | nil => simp
  | cons t tags ih =>
    rw [encode_cons, length_append, length_tagBytes, length_cons]
    omega

lemma be16_lt (mem : ℕ → UInt8) (i : ℕ) : be16 mem i < 0x10000 := by
  have h₁ := (mem i).toNat_lt
  have h₂ := (mem (i + 1)).toNat_lt
  unfold be16
  omega

lemma be16_of_stores (h : Stores mem p (htons n)) (hn : n < 0x10000) : be16 mem p = n := by
  unfold htons at h
  rw [stores_cons, stores_cons] at h
  unfold be16
  rw [h.1, h.2.1]
  simp only [UInt8.toNat_ofNat']
  omega

variable {tag : ℕ → UInt8} {type cur length k : ℕ} {stack : ℕ → UInt8} {skb' : SkBuff}
  {mem' : ℕ → UInt8} {u v w : List UInt8} {bytes : List UInt8}

lemma be16_congr (h₀ : mem' p = mem p) (h₁ : mem' (p + 1) = mem (p + 1)) :
    be16 mem' p = be16 mem p := by
  unfold be16
  rw [h₀, h₁]

lemma stores_header (h : Stores mem p t.bytes) (ht : t.Fits) :
    be16 mem p = t.type ∧ be16 mem (p + 2) = t.body.length := by
  unfold Tag.bytes Tag.header at h
  rw [stores_append, stores_append] at h
  exact ⟨be16_of_stores h.1.1 ht.1, be16_of_stores h.1.2 ht.2⟩

/-! ### The search for a tag -/

lemma findTagFrom_some (h : Stores mem (tagAt + cur) (encode (pre ++ t :: post)))
    (hfits : ∀ x ∈ pre ++ t :: post, x.Fits) (hpre : ∀ x ∈ pre, x.type ≠ type)
    (ht : t.type = type) (hlen : cur + (encode (pre ++ t :: post)).length ≤ length)
    (hk : pre.length < k) :
    findTagFrom mem length type k cur = some (tagAt + cur + (encode pre).length) := by
  induction pre generalizing cur k with
  | nil =>
    obtain ⟨k, rfl⟩ : ∃ k', k = k' + 1 := ⟨k - 1, by simp at hk; omega⟩
    rw [nil_append, encode_cons] at h hlen
    rw [length_append, length_tagBytes] at hlen
    obtain ⟨htype, -⟩ := stores_header (stores_append.1 h).1 (hfits t (by simp))
    rw [findTagFrom, if_pos (by omega), if_pos (htype.trans ht)]
    rfl
  | cons x pre ih =>
    obtain ⟨k, rfl⟩ : ∃ k', k = k' + 1 := ⟨k - 1, by simp at hk; omega⟩
    rw [cons_append, encode_cons] at h hlen
    rw [length_append, length_tagBytes] at hlen
    obtain ⟨hx, hrest⟩ := stores_append.1 h
    obtain ⟨htype, hbody⟩ := stores_header hx (hfits x (by simp))
    have hne : be16 mem (tagAt + cur) ≠ type := by
      rw [htype]
      exact hpre x (by simp)
    rw [findTagFrom, if_pos (by omega), if_neg hne, hbody]
    have hcur : tagAt + cur + x.bytes.length = tagAt + (cur + tagHdrLen + x.body.length) := by
      rw [length_tagBytes, tagHdrLen]
      omega
    rw [hcur] at hrest
    rw [ih hrest (fun y hy => hfits y (by simp at hy ⊢; tauto)) (fun y hy => hpre y (by simp [hy]))
      (by rw [tagHdrLen]; omega) (by simpa using hk)]
    rw [encode_cons, length_append, ← hcur]
    congr 1
    omega

lemma findTagFrom_none (h : Stores mem (tagAt + cur) (encode tags))
    (hfits : ∀ x ∈ tags, x.Fits) (htags : ∀ x ∈ tags, x.type ≠ type)
    (hlen : cur + (encode tags).length = length) :
    findTagFrom mem length type k cur = none := by
  induction k generalizing cur tags with
  | zero => rfl
  | succ k ih =>
    cases tags with
    | nil =>
      simp only [encode_nil, length_nil] at hlen
      rw [findTagFrom, if_neg (by omega)]
    | cons x tags =>
      rw [encode_cons] at h hlen
      rw [length_append, length_tagBytes] at hlen
      obtain ⟨hx, hrest⟩ := stores_append.1 h
      obtain ⟨htype, hbody⟩ := stores_header hx (hfits x (by simp))
      have hne : be16 mem (tagAt + cur) ≠ type := by
        rw [htype]
        exact htags x (by simp)
      rw [findTagFrom, if_pos (by omega), if_neg hne, hbody]
      have hcur : tagAt + cur + x.bytes.length = tagAt + (cur + tagHdrLen + x.body.length) := by
        rw [length_tagBytes, tagHdrLen]
        omega
      rw [hcur] at hrest
      exact ih hrest (fun y hy => hfits y (by simp [hy])) (fun y hy => htags y (by simp [hy]))
        (by rw [tagHdrLen]; omega)

lemma HasTags.find_some (h : HasTags skb (pre ++ t :: post)) (hpre : ∀ x ∈ pre, isRelay x = false)
    (ht : isRelay t = true) :
    nat25FindPppoeTag skb.data pttRelaySid = some (tagAt + (encode pre).length) := by
  have hcount := length_le_encode (pre ++ t :: post)
  rw [length_append, length_cons] at hcount
  unfold nat25FindPppoeTag
  rw [h.length]
  refine findTagFrom_some h.stores h.fits (fun x hx heq => ?_) (by simpa [isRelay] using ht)
    (by omega) (by omega)
  have hfalse := hpre x hx
  simp [isRelay, heq] at hfalse

lemma HasTags.find_none (h : HasTags skb tags) (htags : ∀ x ∈ tags, isRelay x = false) :
    nat25FindPppoeTag skb.data pttRelaySid = none := by
  unfold nat25FindPppoeTag
  rw [h.length]
  refine findTagFrom_none h.stores h.fits (fun x hx heq => ?_) (Nat.zero_add _)
  have hfalse := htags x hx
  simp [isRelay, heq] at hfalse

/-! ### Bytes taken out and replaced -/

lemma pullAndMerge_stores (h : Stores skb.data tagAt (u ++ v ++ w))
    (hlen : tagAt + (u ++ v ++ w).length ≤ skb.len) :
    ∃ skb', skb.pullAndMerge (tagAt + u.length) v.length = some skb' ∧
      Stores skb'.data tagAt (u ++ w) ∧ skb'.len + v.length = skb.len ∧
      ∀ i < tagAt + u.length, skb'.data i = skb.data i := by
  rw [length_append, length_append] at hlen
  unfold SkBuff.pullAndMerge
  rw [if_neg (by omega)]
  refine ⟨_, rfl, ?_, by dsimp only; omega, fun i hi => writeBytes_of_lt hi⟩
  obtain ⟨huv, hw⟩ := stores_append.1 h
  obtain ⟨hu, -⟩ := stores_append.1 huv
  refine stores_append.2 ⟨hu.writeBytes_before (Nat.le_refl _), ?_⟩
  have htail : bytesAt skb.data (tagAt + u.length + v.length)
      (skb.len - (tagAt + u.length + v.length)) =
      w ++ bytesAt skb.data (tagAt + u.length + v.length + w.length)
        (skb.len - (tagAt + u.length + v.length) - w.length) := by
    have hsplit : skb.len - (tagAt + u.length + v.length) =
        w.length + (skb.len - (tagAt + u.length + v.length) - w.length) := by omega
    rw [hsplit, bytesAt_add]
    rw [length_append, ← Nat.add_assoc] at hw
    rw [hw.eq]
    congr 2
    omega
  dsimp only
  rw [htail]
  exact (stores_append.1 (stores_writeBytes ..)).1

lemma stores_replace {u v v' w : List UInt8} (h : Stores mem p (u ++ v ++ w))
    (hlen : v'.length = v.length) : Stores (writeBytes mem (p + u.length) v') p (u ++ v' ++ w) := by
  obtain ⟨huv, hw⟩ := stores_append.1 h
  obtain ⟨hu, -⟩ := stores_append.1 huv
  rw [length_append, ← Nat.add_assoc] at hw
  refine stores_append.2 ⟨stores_append.2 ⟨hu.writeBytes_before (Nat.le_refl _),
    stores_writeBytes ..⟩, ?_⟩
  rw [length_append, hlen, ← Nat.add_assoc]
  exact hw.writeBytes_after (by omega)

lemma setLength_stores (h : Stores skb.data tagAt bytes) (n : ℕ) :
    Stores (skb.setLength n).data tagAt bytes := h.writeBytes_after (Nat.le_refl _)

lemma write_be16 (h : n + 2 ≤ p) :
    be16 (skb.write p bytes).data n = be16 skb.data n :=
  be16_congr (writeBytes_of_lt (by omega)) (writeBytes_of_lt (by omega))

lemma be16_setLength (skb : SkBuff) (n : ℕ) :
    be16 (skb.setLength n).data lengthAt = n % 0x10000 :=
  be16_of_stores (stores_writeBytes ..) (Nat.mod_lt _ (by decide))

lemma setLength_data {i : ℕ} (hi : i < lengthAt) (n : ℕ) :
    (skb.setLength n).data i = skb.data i := writeBytes_of_lt hi

/-! ### What the frames should be -/

def ownTag (tags : List Tag) : Option Tag := tags.find? isRelay

def ownBody (tags : List Tag) : List UInt8 := ((ownTag tags).map Tag.body).getD []

def addedTag (mac own : List UInt8) : Tag := ⟨pttRelaySid, htons magicCode ++ mac ++ own⟩

def Retagged (skb : SkBuff) (tags : List Tag) (skb' : SkBuff) (tags' : List Tag) : Prop :=
  HasTags skb' tags' ∧ skb'.len + (encode tags).length = skb.len + (encode tags').length

structure RoundTrip (skb : SkBuff) (tags : List Tag) (skb' : SkBuff) : Prop where
  inserted : Retagged skb tags skb' (addedTag skb.sa (ownBody tags) :: tags.eraseP isRelay)
  header : ∀ i < lengthAt, skb'.data i = skb.data i
  answered : ∀ reply pre post, HasTags reply (pre ++ addedTag skb.sa (ownBody tags) :: post) →
    (∀ t ∈ pre, isRelay t = false) → (reply.code = .pado ∨ reply.code = .pads) →
    ∃ out, lookupRelayTag reply = some out ∧ out.da = skb.sa ∧
      (∀ i, 6 ≤ i → i < lengthAt → out.data i = reply.data i) ∧
      Retagged reply (pre ++ addedTag skb.sa (ownBody tags) :: post) out
        (pre ++ (ownTag tags).toList ++ post)

lemma relay_cases (tags : List Tag) :
    (ownTag tags = none ∧ ∀ t ∈ tags, isRelay t = false) ∨
      ∃ pre t post, tags = pre ++ t :: post ∧ (∀ x ∈ pre, isRelay x = false) ∧ isRelay t = true ∧
        ownTag tags = some t ∧ tags.eraseP isRelay = pre ++ post := by
  unfold ownTag
  cases hfind : tags.find? isRelay with
  | none =>
    left
    refine ⟨rfl, fun t ht => ?_⟩
    simpa using find?_eq_none.1 hfind t ht
  | some t =>
    right
    obtain ⟨ht, pre, post, rfl, hpre⟩ := find?_eq_some_iff_append.1 hfind
    have hpre : ∀ x ∈ pre, isRelay x = false := fun x hx => by simpa using hpre x hx
    refine ⟨pre, t, post, rfl, hpre, ht, rfl, ?_⟩
    rw [eraseP_append_right _ (by simpa using hpre), eraseP_cons_of_pos ht]

/-! ### The frame that goes out -/

lemma takeOldTag_spec (h : HasTags skb tags) {stack : ℕ → UInt8} {skb₁ : SkBuff}
    {tag : ℕ → UInt8} {n : ℕ} (hsome : takeOldTag skb stack = some (skb₁, tag, n)) :
    Retagged skb tags skb₁ (tags.eraseP isRelay) ∧ (∀ i < lengthAt, skb₁.data i = skb.data i) ∧
      n = (ownBody tags).length ∧ n ≤ 28 ∧ Stores tag 12 (ownBody tags) := by
  obtain ⟨hown, htags⟩ | ⟨pre, t, post, rfl, hpre, ht, hown, herase⟩ := relay_cases tags
  · rw [takeOldTag, h.find_none htags] at hsome
    cases hsome
    have herase : tags.eraseP isRelay = tags :=
      eraseP_of_forall_not fun t ht => by simp [htags t ht]
    rw [herase, ownBody, hown]
    exact ⟨⟨h, rfl⟩, fun _ _ => rfl, rfl, by simp, stores_nil⟩
  · have hfits := h.fits t (by simp)
    have hstores := h.stores
    rw [encode_append, encode_cons] at hstores
    have hat := (stores_append.1 hstores).2
    obtain ⟨-, hlen⟩ := stores_header (stores_append.1 hat).1 hfits
    rw [takeOldTag, h.find_some hpre ht] at hsome
    dsimp only at hsome
    rw [hlen] at hsome
    split_ifs at hsome with htoo
    have hinside := h.inside
    rw [← append_assoc] at hstores
    rw [encode_append, encode_cons, ← append_assoc] at hinside
    obtain ⟨skb₀, hpull, hdata, hlen₀, hsame⟩ := pullAndMerge_stores hstores hinside
    have hbytes : t.bytes.length = tagHdrLen + t.body.length := length_tagBytes t
    rw [hbytes] at hpull
    rw [hpull] at hsome
    cases hsome
    have hlengthAt : be16 skb₀.data lengthAt = (encode (pre ++ t :: post)).length := by
      rw [← h.length]
      exact be16_congr (hsame _ (by simp [lengthAt, tagAt]; omega))
        (hsame _ (by simp [lengthAt, tagAt]; omega))
    have hlt : (encode (pre ++ t :: post)).length < 0x10000 := h.length ▸ be16_lt ..
    have hsplit : (encode (pre ++ t :: post)).length =
        (encode (pre ++ post)).length + (tagHdrLen + t.body.length) := by
      rw [encode_append, encode_cons, encode_append]
      simp only [length_append, hbytes]
      omega
    rw [herase, ownBody, hown]
    refine ⟨⟨⟨fun x hx => h.fits x (by simp at hx ⊢; tauto), ?_, ?_, ?_⟩, ?_⟩, fun i hi => ?_, rfl,
      ?_, ?_⟩
    · rw [be16_setLength, hlengthAt]
      omega
    · rw [encode_append]
      exact setLength_stores hdata _
    · have hin := h.inside
      change _ ≤ skb₀.len
      omega
    · change skb₀.len + _ = _
      omega
    · exact (setLength_data hi _).trans (hsame i (by simp only [lengthAt, tagAt] at *; omega))
    · simp only [tagHdrLen, magicCodeLen, rtlRelayTagLen] at htoo
      omega
    · have hbody : Stores skb.data (tagAt + (encode pre).length + tagHdrLen) t.body := by
        have hparts := (stores_append.1 (stores_append.1 hat).1).2
        exact hparts
      rw [hbody.eq]
      exact stores_writeBytes ..

lemma bytesAt_congr (h : ∀ i, p ≤ i → i < p + n → mem' i = mem i) :
    bytesAt mem' p n = bytesAt mem p n := by
  refine map_congr_left fun i hi => ?_
  rw [mem_range'_1] at hi
  exact h i hi.1 hi.2

variable {reply : SkBuff} {mac : List UInt8} {bigEndian : Bool}

lemma length_addedTag (hmac : mac.length = 6) (own : List UInt8) :
    (addedTag mac own).body.length = 8 + own.length := by
  simp only [addedTag, length_append, length_htons, hmac]

lemma fillTag_stores {own mac : List UInt8} (h : Stores tag 12 own)
    (hmac : mac.length = 6) :
    Stores (fillTag tag own.length mac) 0 (addedTag mac own).bytes := by
  have hbytes : (addedTag mac own).bytes = (htons pttRelaySid ++
      htons (magicCodeLen + rtlRelayTagLen + own.length) ++ htons magicCode ++ mac) ++ own := by
    rw [Tag.bytes, Tag.header, length_addedTag hmac]
    simp [addedTag, magicCodeLen, rtlRelayTagLen]
  have hlen : (htons pttRelaySid ++ htons (magicCodeLen + rtlRelayTagLen + own.length) ++
      htons magicCode ++ mac).length = 12 := by simp [hmac]
  rw [hbytes, stores_append, hlen]
  exact ⟨stores_writeBytes .., h.writeBytes_after (by omega)⟩

lemma insert_cases (h : HasTags skb tags)
    (hacc : insertRelayTag bigEndian stack skb = some skb') :
    ∃ skb₁ tag, Retagged skb tags skb₁ (tags.eraseP isRelay) ∧
      (∀ i < lengthAt, skb₁.data i = skb.data i) ∧ (ownBody tags).length ≤ 28 ∧
      Stores tag 0 (addedTag skb.sa (ownBody tags)).bytes ∧
      skb₁.addPppoeTag bigEndian tag = some skb' := by
  unfold insertRelayTag at hacc
  split_ifs at hacc
  cases htake : takeOldTag skb stack with
  | none => simp [htake] at hacc
  | some r =>
    obtain ⟨skb₁, tag, n⟩ := r
    obtain ⟨htags, hsame, rfl, hshort, hown⟩ := takeOldTag_spec h htake
    simp only [htake, Option.bind_eq_bind, Option.bind_some] at hacc
    have hsa : skb₁.sa = skb.sa :=
      bytesAt_congr fun i _ hi => hsame i (by simp only [lengthAt]; omega)
    rw [hsa] at hacc
    exact ⟨skb₁, _, htags, hsame, hshort, fillTag_stores hown length_bytesAt, hacc⟩

lemma addPppoeTag_some (h : skb.addPppoeTag bigEndian tag = some skb') :
    let dataLen := host16 bigEndian tag 2 + tagHdrLen
    skb'.len = skb.len + dataLen ∧
      be16 skb'.data lengthAt = (be16 skb.data lengthAt + dataLen) % 0x10000 ∧
      (∀ i < lengthAt, skb'.data i = skb.data i) ∧
      Stores skb'.data tagAt (bytesAt tag 0 dataLen) ∧
      Stores skb'.data (tagAt + dataLen) (bytesAt skb.data tagAt (be16 skb.data lengthAt)) := by
  unfold SkBuff.addPppoeTag at h
  dsimp only at h
  split_ifs at h
  cases h
  refine ⟨rfl, ?_, fun i hi => ?_, stores_writeBytes .., ?_⟩
  · rw [write_be16 (by simp [lengthAt, tagAt])]
    exact be16_setLength ..
  · refine (writeBytes_of_lt (by simp only [lengthAt, tagAt] at *; omega)).trans ?_
    refine (setLength_data hi _).trans ?_
    exact writeBytes_of_lt (by simp only [lengthAt, tagAt] at *; omega)
  · have hmoved := stores_writeBytes skb.data (tagAt + (host16 bigEndian tag 2 + tagHdrLen))
      (bytesAt skb.data tagAt (be16 skb.data lengthAt))
    have hlength := @Stores.writeBytes_after _ _ lengthAt _ _
      (htons ((be16 skb.data lengthAt + (host16 bigEndian tag 2 + tagHdrLen)) % 0x10000)) hmoved
      (by simp only [lengthAt, tagAt, length_htons]; omega)
    exact hlength.writeBytes_after (Nat.le_of_eq (by rw [length_bytesAt]))

lemma host16_of_stores (h : Stores tag 2 (htons n))
    (hn : n < 256) : host16 bigEndian tag 2 = if bigEndian then n else 256 * n := by
  unfold htons at h
  rw [stores_cons, stores_cons] at h
  unfold host16 be16
  rw [h.1, h.2.1]
  cases bigEndian <;> simp only [UInt8.toNat_ofNat', Bool.false_eq_true, if_false, if_true] <;> omega

lemma inserted_iff (h : HasTags skb tags)
    (hacc : insertRelayTag bigEndian stack skb = some skb') :
    (Retagged skb tags skb' (addedTag skb.sa (ownBody tags) :: tags.eraseP isRelay) ↔
        bigEndian = true ∧
          (encode (addedTag skb.sa (ownBody tags) :: tags.eraseP isRelay)).length < 0x10000) ∧
      ∀ i < lengthAt, skb'.data i = skb.data i := by
  obtain ⟨skb₁, tag, ⟨htags, hlen⟩, hsame, hshort, htag, hadd⟩ := insert_cases h hacc
  obtain ⟨hlen', hlengthAt, hsame', hnew, hmoved⟩ := addPppoeTag_some hadd
  have hmac : skb.sa.length = 6 := length_bytesAt
  have hbody := length_addedTag hmac (ownBody tags)
  have hbytes := length_tagBytes (addedTag skb.sa (ownBody tags))
  have hhost : host16 bigEndian tag 2 =
      if bigEndian then 8 + (ownBody tags).length else 256 * (8 + (ownBody tags).length) := by
    refine host16_of_stores ?_ (by omega)
    rw [← hbody]
    unfold Tag.bytes Tag.header at htag
    exact (stores_append.1 (stores_append.1 htag).1).2
  have hlt : be16 skb'.data lengthAt < 0x10000 := be16_lt ..
  rw [htags.length] at hlengthAt hmoved
  have hold : bytesAt skb₁.data tagAt (encode (tags.eraseP isRelay)).length =
      encode (tags.eraseP isRelay) := htags.stores
  rw [hold] at hmoved
  refine ⟨⟨fun hinserted => ?_, ?_⟩, fun i hi => (hsame' i hi).trans (hsame i hi)⟩
  · have hlength := hinserted.1.length
    rw [encode_cons, length_append, hbytes, hbody] at hlength ⊢
    cases bigEndian with
    | true => exact ⟨rfl, by omega⟩
    | false =>
      simp only [Bool.false_eq_true, if_false] at hhost
      simp only [tagHdrLen] at hlengthAt
      omega
  · rintro ⟨rfl, hfits⟩
    rw [if_pos rfl] at hhost
    have hdata : host16 true tag 2 + tagHdrLen = (addedTag skb.sa (ownBody tags)).bytes.length := by
      rw [hbytes, hbody, hhost, tagHdrLen]
      omega
    rw [hdata] at hlen' hlengthAt hnew hmoved
    rw [htag.eq] at hnew
    rw [encode_cons, length_append] at hfits
    refine ⟨⟨fun t ht => ?_, ?_, ?_, ?_⟩, ?_⟩
    · rcases mem_cons.1 ht with rfl | ht
      · exact ⟨by simp [addedTag, pttRelaySid], by omega⟩
      · exact htags.fits t ht
    · rw [hlengthAt, encode_cons, length_append]
      omega
    · rw [encode_cons]
      exact stores_append.2 ⟨hnew, hmoved⟩
    · have hinside := htags.inside
      rw [encode_cons, length_append, hlen']
      omega
    · rw [encode_cons, length_append, hlen']
      omega

/-! ### The answer -/

lemma pull_setLength (h : Stores skb.data tagAt (u ++ v ++ w))
    (hlength : be16 skb.data lengthAt = (u ++ v ++ w).length)
    (hinside : tagAt + (u ++ v ++ w).length ≤ skb.len) :
    ∃ skb₁, skb.pullAndMerge (tagAt + u.length) v.length = some skb₁ ∧
      Stores (skb₁.setLength (be16 skb₁.data lengthAt + 0x10000 - v.length)).data tagAt (u ++ w) ∧
      be16 (skb₁.setLength (be16 skb₁.data lengthAt + 0x10000 - v.length)).data lengthAt =
        (u ++ w).length ∧
      skb₁.len + v.length = skb.len ∧
      ∀ i < lengthAt, (skb₁.setLength (be16 skb₁.data lengthAt + 0x10000 - v.length)).data i =
        skb.data i := by
  obtain ⟨skb₁, hpull, hdata, hlen, hsame⟩ := pullAndMerge_stores h hinside
  have hlt := be16_lt skb.data lengthAt
  have hlengthAt : be16 skb₁.data lengthAt = be16 skb.data lengthAt :=
    be16_congr (hsame _ (by simp only [lengthAt, tagAt]; omega))
      (hsame _ (by simp only [lengthAt, tagAt]; omega))
  refine ⟨skb₁, hpull, setLength_stores hdata _, ?_, hlen, fun i hi => ?_⟩
  · rw [be16_setLength, hlengthAt, hlength]
    simp only [length_append] at hlength ⊢
    omega
  · exact (setLength_data hi _).trans (hsame i (by simp only [lengthAt, tagAt] at *; omega))

lemma HasTags.answer {mac own : List UInt8} (hmac : mac.length = 6)
    (h : HasTags reply (pre ++ addedTag mac own :: post)) :
    let ptr := tagAt + (encode pre).length
    be16 reply.data (ptr + 2) = 8 + own.length ∧ be16 reply.data (ptr + tagHdrLen) = magicCode ∧
      bytesAt reply.data (ptr + tagHdrLen + magicCodeLen) rtlRelayTagLen = mac := by
  have hfits := h.fits (addedTag mac own) (by simp)
  have hstores := h.stores
  rw [encode_append, encode_cons] at hstores
  have hadded := (stores_append.1 (stores_append.1 hstores).2).1
  obtain ⟨-, hlen⟩ := stores_header hadded hfits
  rw [length_addedTag hmac] at hlen
  have hbody := (stores_append.1 hadded).2
  rw [length_header, addedTag] at hbody
  obtain ⟨⟨hmagic, hmacAt⟩, -⟩ := (stores_append.1 hbody).imp_left stores_append.1
  refine ⟨hlen, be16_of_stores hmagic (by decide), ?_⟩
  have heq := hmacAt.eq
  rw [hmac] at heq
  exact heq

lemma HasTags.write_da (hmac : mac.length = 6)
    (h : HasTags reply tags) :
    HasTags (reply.write 0 mac) tags ∧ bytesAt (reply.write 0 mac).data 0 6 = mac ∧
      ∀ i, 6 ≤ i → (reply.write 0 mac).data i = reply.data i := by
  have hsame : ∀ i, 6 ≤ i → (reply.write 0 mac).data i = reply.data i := by
    intro i hi
    have hdata : (reply.write 0 mac).data = writeBytes reply.data 0 mac := rfl
    rw [hdata]
    exact writeBytes_of_ge (by omega)
  refine ⟨⟨h.fits, ?_, ?_, h.inside⟩, ?_, hsame⟩
  · rw [← h.length]
    exact be16_congr (hsame _ (by decide)) (hsame _ (by decide))
  · exact h.stores.congr fun i hi _ => hsame i (Nat.le_trans (by decide) hi)
  · have heq := stores_writeBytes reply.data 0 mac
    unfold Stores at heq
    rw [hmac] at heq
    exact heq

lemma lookup_eq {mac own : List UInt8} (hmac : mac.length = 6)
    (h : HasTags reply (pre ++ addedTag mac own :: post)) (hpre : ∀ t ∈ pre, isRelay t = false)
    (hcode : reply.code = .pado ∨ reply.code = .pads) :
    let ptr := tagAt + (encode pre).length
    lookupRelayTag reply =
      if 0 < own.length then
        ((reply.write 0 mac).pullAndMerge (ptr + 4) 8).map fun skb =>
          (skb.setLength (be16 skb.data lengthAt + 0x10000 - 8)).write (ptr + 2) (htons own.length)
      else
        ((reply.write 0 mac).pullAndMerge ptr 12).map fun skb =>
          skb.setLength (be16 skb.data lengthAt + 0x10000 - 12) := by
  obtain ⟨hlen, hmagic, hda⟩ := h.answer hmac
  unfold lookupRelayTag
  rw [if_pos hcode, h.find_some hpre (by simp [isRelay, addedTag])]
  simp only [Option.bind_eq_bind, Option.bind_some, hlen, hmagic, hda, ne_eq, not_true_eq_false,
    if_false]
  rw [if_neg (by simp only [magicCodeLen, rtlRelayTagLen]; omega)]
  have hlong : magicCodeLen + rtlRelayTagLen < 8 + own.length ↔ 0 < own.length := by
    simp only [magicCodeLen, rtlRelayTagLen]
    omega
  simp only [hlong]
  by_cases hown : 0 < own.length
  · cases hpull : (reply.write 0 mac).pullAndMerge (tagAt + (encode pre).length + 4) 8 <;>
      simp [hpull, magicCodeLen, rtlRelayTagLen, tagHdrLen, hown]
  · cases hpull : (reply.write 0 mac).pullAndMerge (tagAt + (encode pre).length) 12 <;>
      simp [hpull, magicCodeLen, rtlRelayTagLen, tagHdrLen, hown]

lemma lookup_whole (hmac : mac.length = 6)
    (h : HasTags reply (pre ++ addedTag mac [] :: post)) (hpre : ∀ t ∈ pre, isRelay t = false)
    (hcode : reply.code = .pado ∨ reply.code = .pads) :
    ∃ out, lookupRelayTag reply = some out ∧ out.da = mac ∧
      (∀ i, 6 ≤ i → i < lengthAt → out.data i = reply.data i) ∧
      Retagged reply (pre ++ addedTag mac [] :: post) out (pre ++ post) := by
  obtain ⟨hwritten, hda, hsame₀⟩ := h.write_da hmac
  have hsplit : encode (pre ++ addedTag mac [] :: post) =
      encode pre ++ (addedTag mac []).bytes ++ encode post := by simp
  have hstores := hwritten.stores
  have hlength := hwritten.length
  have hinside := hwritten.inside
  rw [hsplit] at hstores hlength hinside
  obtain ⟨skb₁, hpull, hnew, hnewLength, hnewLen, hsame⟩ := pull_setLength hstores hlength hinside
  have hbytes : (addedTag mac []).bytes.length = 12 := by
    rw [length_tagBytes, length_addedTag hmac]
    rfl
  rw [hbytes] at hpull hnew hnewLength hnewLen hsame
  rw [← encode_append] at hnew hnewLength
  change _ = reply.len at hnewLen
  change _ ≤ reply.len at hinside
  rw [lookup_eq hmac h hpre hcode, hpull, if_neg (by simp), Option.map_some]
  refine ⟨_, rfl, ?_, fun i hi hi' => ?_, ⟨fun t ht => ?_, hnewLength, hnew, ?_⟩, ?_⟩
  · exact (bytesAt_congr fun i _ hi => hsame i (by simp only [lengthAt]; omega)).trans hda
  · rw [hsame i hi', hsame₀ i hi]
  · refine h.fits t ?_
    rw [mem_append] at ht ⊢
    exact ht.imp_right (mem_cons_of_mem _)
  · change _ ≤ skb₁.len
    simp only [encode_append, length_append, hbytes] at hinside ⊢
    omega
  · change skb₁.len + _ = _
    simp only [hsplit, encode_append, length_append, hbytes]
    omega

lemma lookup_rest {mac own : List UInt8} (hmac : mac.length = 6)
    (h : HasTags reply (pre ++ addedTag mac own :: post)) (hpre : ∀ t ∈ pre, isRelay t = false)
    (hcode : reply.code = .pado ∨ reply.code = .pads) (hown : own ≠ []) :
    ∃ out, lookupRelayTag reply = some out ∧ out.da = mac ∧
      (∀ i, 6 ≤ i → i < lengthAt → out.data i = reply.data i) ∧
      Retagged reply (pre ++ addedTag mac own :: post) out (pre ++ ⟨pttRelaySid, own⟩ :: post) := by
  obtain ⟨hwritten, hda, hsame₀⟩ := h.write_da hmac
  have hpos : 0 < own.length := length_pos_iff.2 hown
  have hsplit : encode (pre ++ addedTag mac own :: post) =
      (encode pre ++ (addedTag mac own).header) ++ (htons magicCode ++ mac) ++
        (own ++ encode post) := by
    simp [Tag.bytes, addedTag]
  have hencode : encode (pre ++ ⟨pttRelaySid, own⟩ :: post) =
      (encode pre ++ htons pttRelaySid) ++ htons own.length ++ (own ++ encode post) := by
    simp [Tag.bytes, Tag.header]
  have hsame_len : (encode (pre ++ ⟨pttRelaySid, own⟩ :: post)).length =
      ((encode pre ++ (addedTag mac own).header) ++ (own ++ encode post)).length := by
    rw [hencode]
    simp
    omega
  have hstores := hwritten.stores
  have hlength := hwritten.length
  have hinside := hwritten.inside
  rw [hsplit] at hstores hlength hinside
  obtain ⟨skb₁, hpull, hnew, hnewLength, hnewLen, hsame⟩ := pull_setLength hstores hlength hinside
  have hbytes : (htons magicCode ++ mac).length = 8 := by
    rw [length_append, length_htons, hmac]
  have hu : tagAt + (encode pre ++ (addedTag mac own).header).length =
      tagAt + (encode pre).length + 4 := by
    rw [length_append, length_header, Nat.add_assoc]
  rw [hbytes] at hpull hnew hnewLength hnewLen hsame
  rw [hu] at hpull
  change _ = reply.len at hnewLen
  change _ ≤ reply.len at hinside
  have hheader : (addedTag mac own).header =
      htons pttRelaySid ++ htons (addedTag mac own).body.length := rfl
  rw [hheader, ← append_assoc (encode pre)] at hnew
  have hreplace := @stores_replace _ tagAt _ _ (htons own.length) _ hnew rfl
  rw [length_append, length_htons, ← Nat.add_assoc] at hreplace
  rw [lookup_eq hmac h hpre hcode, hpull, if_pos hpos, Option.map_some]
  refine ⟨_, rfl, ?_, fun i hi hi' => ?_, ⟨fun t ht => ?_, ?_, ?_, ?_⟩, ?_⟩
  · refine (bytesAt_congr fun i _ hi => ?_).trans hda
    refine Eq.trans (writeBytes_of_lt (by simp only [tagAt]; omega)) ?_
    exact hsame i (by simp only [lengthAt]; omega)
  · refine Eq.trans (writeBytes_of_lt (by simp only [tagAt, lengthAt] at *; omega)) ?_
    rw [hsame i hi', hsame₀ i hi]
  · have hadded := (h.fits (addedTag mac own) (by simp)).2
    rw [length_addedTag hmac] at hadded
    rw [mem_append, mem_cons] at ht
    rcases ht with ht | rfl | ht
    · exact h.fits t (mem_append_left _ ht)
    · exact ⟨show pttRelaySid < 0x10000 by decide, show own.length < 0x10000 by omega⟩
    · exact h.fits t (mem_append_right _ (mem_cons_of_mem _ ht))
  · rw [write_be16 (by simp only [tagAt, lengthAt]; omega), hsame_len]
    exact hnewLength
  · rw [hencode]
    exact hreplace
  · change _ ≤ skb₁.len
    rw [hsame_len]
    simp only [length_append, hbytes] at hinside ⊢
    omega
  · change skb₁.len + _ = _
    rw [hsame_len, hsplit]
    simp only [length_append, hbytes]
    omega

lemma ownTag_type (h : ownTag tags = some t) : t = ⟨pttRelaySid, t.body⟩ := by
  have ht := find?_some h
  obtain ⟨type, body⟩ := t
  simp only [isRelay, beq_iff_eq] at ht
  rw [ht]

def bareAnswer (mac : List UInt8) : SkBuff :=
  ⟨writeBytes (writeBytes (fun i => if i = codeAt then 0x07 else 0) lengthAt (htons 12)) tagAt
    (addedTag mac []).bytes, 32, 0⟩

lemma bareAnswer_spec (hmac : mac.length = 6) :
    HasTags (bareAnswer mac) [addedTag mac []] ∧ (bareAnswer mac).code = .pado := by
  have hbody := length_addedTag hmac []
  have hencode : encode [addedTag mac []] = (addedTag mac []).bytes := by simp
  have hbytes : (addedTag mac []).bytes.length = 12 := by
    rw [length_tagBytes, hbody]
    rfl
  have hcode : (bareAnswer mac).data codeAt = 0x07 := by
    dsimp only [bareAnswer]
    rw [writeBytes_of_lt (by decide), writeBytes_of_lt (by decide), if_pos rfl]
  refine ⟨⟨fun t ht => ?_, ?_, ?_, ?_⟩, ?_⟩
  · rw [mem_singleton] at ht
    subst ht
    exact ⟨show pttRelaySid < 0x10000 by decide, by rw [hbody]; decide⟩
  · rw [hencode, hbytes]
    refine be16_of_stores ?_ (by decide)
    exact (stores_writeBytes ..).writeBytes_before (by decide)
  · rw [hencode]
    exact stores_writeBytes ..
  · rw [hencode, hbytes]
    exact Nat.le_refl 32
  · rw [SkBuff.code, hcode]
    rfl

lemma not_answered_of_empty (ht : ownTag tags = some t) (hempty : t.body = []) :
    ¬RoundTrip skb tags skb' := by
  intro h
  have hmac : skb.sa.length = 6 := length_bytesAt
  have hown : ownBody tags = [] := by simp [ownBody, ht, hempty]
  obtain ⟨hreply, hcode⟩ := bareAnswer_spec hmac
  obtain ⟨out, hout, -, -, htags, -⟩ := h.answered (bareAnswer skb.sa) [] []
    (by rw [hown]; exact hreply) (by simp) (.inl hcode)
  obtain ⟨out', hout', -, -, htags', -⟩ := @lookup_whole [] [] _ _ hmac hreply
    (by simp) (.inl hcode)
  obtain rfl : out = out' := Option.some.inj (hout.symm.trans hout')
  have hlength := htags.length.symm.trans htags'.length
  simp [ht, hempty] at hlength

/-- The round trip works just on a big-endian host, for a frame whose length stays in its field
and whose own relay tag is not empty. -/
theorem relay_round_trip (bigEndian : Bool) (stack : ℕ → UInt8) {skb' : SkBuff}
    (h : HasTags skb tags) (hacc : insertRelayTag bigEndian stack skb = some skb') :
    RoundTrip skb tags skb' ↔
      bigEndian = true ∧
        (encode (addedTag skb.sa (ownBody tags) :: tags.eraseP isRelay)).length < 0x10000 ∧
        ∀ t, ownTag tags = some t → t.body ≠ [] := by
  have hmac : skb.sa.length = 6 := length_bytesAt
  obtain ⟨hinserted, hheader⟩ := inserted_iff h hacc
  constructor
  · intro htrip
    obtain ⟨hbig, hfits⟩ := hinserted.mp htrip.inserted
    exact ⟨hbig, hfits, fun t ht hempty => not_answered_of_empty ht hempty htrip⟩
  · rintro ⟨hbig, hfits, hnonempty⟩
    refine ⟨hinserted.mpr ⟨hbig, hfits⟩, hheader, fun reply pre post hreply hpre hcode => ?_⟩
    cases hown : ownTag tags with
    | none =>
      have hbody : ownBody tags = [] := by simp [ownBody, hown]
      rw [hbody] at hreply ⊢
      have hwhole := lookup_whole hmac hreply hpre hcode
      simpa using hwhole
    | some t =>
      have hbody : ownBody tags = t.body := by simp [ownBody, hown]
      rw [hbody] at hreply ⊢
      have hrest := lookup_rest hmac hreply hpre hcode (hnonempty t hown)
      rw [← ownTag_type hown] at hrest
      simpa using hrest

end

section

/-- A `PADI` with a service name and a relay tag. -/
def padiFrame (tailroom : ℕ) : SkBuff :=
  ⟨fun i => ([0xff, 0xff, 0xff, 0xff, 0xff, 0xff, 2, 0, 0, 0, 0, 1, 0x88, 0x63, 0x11, 0x09, 0, 0,
    0, 10, 1, 1, 0, 0, 1, 0x10, 0, 2, 7, 8] : List UInt8).getD i 0, 60, tailroom⟩

lemma padiFrame_tags (tailroom : ℕ) :
    HasTags (padiFrame tailroom) [⟨0x0101, []⟩, ⟨pttRelaySid, [7, 8]⟩] := by
  refine ⟨?_, rfl, rfl, ?_⟩
  · intro t ht
    simp only [mem_cons, not_mem_nil, or_false] at ht
    rcases ht with rfl | rfl
    · exact ⟨by decide, by decide⟩
    · exact ⟨by decide, by decide⟩
  · change 20 + 10 ≤ 60
    omega

theorem relay_round_trip_padi :
    ∃ skb', insertRelayTag true (fun _ => 0) (padiFrame 128) = some skb' ∧
      RoundTrip (padiFrame 128) [⟨0x0101, []⟩, ⟨pttRelaySid, [7, 8]⟩] skb' := by
  refine ⟨_, rfl, ?_⟩
  refine (relay_round_trip true (fun _ => 0) (padiFrame_tags 128) rfl).mpr ⟨rfl, by decide, ?_⟩
  intro t ht
  cases ht
  exact cons_ne_nil _ _

/-- On a little-endian host the frame grows by 2564 bytes. -/
theorem relay_tag_little_endian :
    ∃ skb', insertRelayTag false (fun _ => 0) (padiFrame 4096) = some skb' ∧
      ¬RoundTrip (padiFrame 4096) [⟨0x0101, []⟩, ⟨pttRelaySid, [7, 8]⟩] skb' := by
  refine ⟨_, rfl, fun h => ?_⟩
  exact absurd h.inserted.2 (by decide)

end

end Rtl8831.Core.Pppoe
