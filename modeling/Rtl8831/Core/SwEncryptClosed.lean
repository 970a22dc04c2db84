import Rtl8831.Core.SwEncrypt

/-!
# Whether software encryption fails closed

A fragment is sealed when its request holds the header, the IV and the
ciphertext with ICV or MIC, and decryption gives back the plaintext.  All
requests of a frame are sealed exactly if no step on the way fails.
-/

namespace Rtl8831.Core

open List

/-! ## Fragments -/

/-- A fragment as it comes to `core_wlan_sw_encrypt`: header, IV, plaintext and
the room for ICV or MIC, in the buffers of its request. -/
structure SwFrag (e : SwEnv) where
  hdr : List UInt8
  iv : List UInt8
  plain : List UInt8
  tail : List UInt8
  pieces : TxBufs
  hdr_length : hdr.length = e.hdrlen
  iv_length : iv.length = e.encrypt.ivLen
  tail_length : tail.length = e.encrypt.icvLen
  addr2 : getAddr2 hdr = e.ta
  pieces_eq : pieces.flatten = hdr ++ iv ++ plain ++ tail

variable {e : SwEnv}

def SwFrag.sealedHdr (f : SwFrag e) : List UInt8 :=
  match e.encrypt with
  | .aes | .ccmp256 => setIsWep f.hdr
  | _ => f.hdr

def SwFrag.cipher (cr : SwCrypto) (f : SwFrag e) : List UInt8 × List UInt8 :=
  let p := f.sealedHdr ++ f.iv
  match e.encrypt with
  | .aes | .ccmp256 =>
    cr.ccmAe (e.key.take e.encrypt.keyLen) e.encrypt.icvLen (ccmpNonce p f.iv)
      (aeadAad e.spp true p) f.plain
  | .gcmp | .gcmp256 =>
    cr.gcmAe (e.key.take e.encrypt.keyLen) (gcmpNonce p f.iv) (aeadAad e.spp false p) f.plain
  | _ =>
    let ks := cr.rc4 (rc4Key cr e e.ta f.iv)
    (arcfourEncrypt ks 0 f.plain,
      arcfourEncrypt ks f.plain.length (icvBytes (cr.crc32 f.plain)))

def SwFrag.trailer (cr : SwCrypto) (f : SwFrag e) : List UInt8 :=
  match e.encrypt with
  | .aes | .ccmp256 | .gcmp | .gcmp256 => (f.cipher cr).2
  | _ => icvBytes (cr.crc32 f.plain)

structure SwFrag.Sealed (cr : SwCrypto) (f : SwFrag e) (req : List UInt8) : Prop where
  bytes : req = f.sealedHdr ++ f.iv ++ (f.cipher cr).1 ++ (f.cipher cr).2
  opens : swDecrypt cr e req = some (f.sealedHdr ++ f.iv ++ f.plain ++ f.trailer cr)

def FailsClosed (cr : SwCrypto) (frags : List (SwFrag e)) : Option (List TxBufs) → Prop
  | none => True
  | some reqs => List.Forall₂ (fun f req => SwFrag.Sealed cr f req.flatten) frags reqs

structure NoFault (e : SwEnv) (n : ℕ) (mergeOk cipherOk : ℕ → Bool) : Prop where
  merge : ∀ i < n, mergeOk i = true
  cipher : e.encrypt.hasCcmpHeader = true → ∀ i < n, cipherOk i = true
  wep : e.encrypt = .wep40 ∨ e.encrypt = .wep104 → e.fwAuth = false

/-! ## Bytes -/

section Bytes

variable {a b c d : List UInt8}

lemma take_parts : (a ++ b ++ c ++ d).take (a.length + b.length) = a ++ b := by
  rw [append_assoc (a ++ b), ← length_append, take_left]

lemma drop_parts : (a ++ b ++ c ++ d).drop (a.length + b.length) = c ++ d := by
  rw [append_assoc (a ++ b), ← length_append, drop_left]

lemma slice_parts_second : slice (a ++ b ++ c ++ d) a.length b.length = b := by
  rw [slice, append_assoc, append_assoc, drop_left, take_left]

lemma slice_parts_third : slice (a ++ b ++ c ++ d) (a.length + b.length) c.length = c := by
  rw [slice, drop_parts, take_left]

variable {p q : List UInt8} (ks : ℕ → UInt8) (n : ℕ)

lemma arcfourEncrypt_append (p q : List UInt8) :
    arcfourEncrypt ks n (p ++ q) = arcfourEncrypt ks n p ++ arcfourEncrypt ks (n + p.length) q := by
  simp only [arcfourEncrypt, mapIdx_append]
  congr 1
  congr 1
  funext i x
  rw [Nat.add_assoc, Nat.add_comm i]

@[simp] lemma length_arcfourEncrypt (p : List UInt8) :
    (arcfourEncrypt ks n p).length = p.length := length_mapIdx

@[simp] lemma arcfourEncrypt_twice (p : List UInt8) :
    arcfourEncrypt ks n (arcfourEncrypt ks n p) = p := by
  unfold arcfourEncrypt
  rw [mapIdx_mapIdx]
  apply ext_getElem
  · simp
  · intro i h₁ h₂
    simp [UInt8.xor_assoc]

lemma setIsWep_append (h : 2 ≤ p.length) :
    setIsWep (p ++ q) = setIsWep p ++ q := by
  have hbyte : byteAt (p ++ q) 1 = byteAt p 1 := by
    unfold byteAt
    rw [getD_append _ _ _ _ (by omega)]
  unfold setIsWep
  rw [hbyte, take_append_of_le_length (by omega), drop_append_of_le_length h]
  simp only [append_assoc]

lemma length_setIsWep {p : List UInt8} (h : 2 ≤ p.length) : (setIsWep p).length = p.length := by
  simp only [setIsWep, length_append, length_take, length_drop,
    length_singleton]
  omega

lemma getAddr2_append (h : 24 ≤ p.length) : getAddr2 (p ++ q) = getAddr2 p := by
  unfold getAddr2 slice
  rw [drop_append_of_le_length (by omega), take_append_of_le_length]
  simp only [length_drop]
  omega

lemma aeadAad_append (spp wep : Bool) {p q : List UInt8} (h : 32 ≤ p.length) :
    aeadAad spp wep (p ++ q) = aeadAad spp wep p := by
  unfold aeadAad
  rw [take_append_of_le_length h]

lemma pnBytes_append (h : 8 ≤ p.length) : pnBytes (p ++ q) = pnBytes p := by
  have hbyte : ∀ i < 8, byteAt (p ++ q) i = byteAt p i := by
    intro i hi
    unfold byteAt
    rw [getD_append _ _ _ _ (by omega)]
  simp only [pnBytes, hbyte _ (by decide : 7 < 8), hbyte _ (by decide : 6 < 8),
    hbyte _ (by decide : 5 < 8), hbyte _ (by decide : 4 < 8), hbyte _ (by decide : 1 < 8),
    hbyte _ (by decide : 0 < 8)]

lemma ccmpNonce_append {p q iv r : List UInt8} (h : 32 ≤ p.length) (hiv : 8 ≤ iv.length) :
    ccmpNonce (p ++ q) (iv ++ r) = ccmpNonce p iv := by
  unfold ccmpNonce
  rw [take_append_of_le_length h, pnBytes_append hiv]

lemma gcmpNonce_append {p q iv r : List UInt8} (h : 32 ≤ p.length) (hiv : 8 ≤ iv.length) :
    gcmpNonce (p ++ q) (iv ++ r) = gcmpNonce p iv := by
  unfold gcmpNonce
  rw [take_append_of_le_length h, pnBytes_append hiv]

lemma overwrite_of_length_eq (h : q.length = p.length) : overwrite p q = q := by
  unfold overwrite
  rw [take_of_length_le h.le, drop_eq_nil_of_le h.ge, append_nil]

lemma overwrite_append {p q r : List UInt8} (h : q.length = p.length) :
    overwrite (p ++ r) q = q ++ r := by
  unfold overwrite
  rw [take_of_length_le (by rw [length_append]; omega), h, drop_left]

end Bytes

/-! ## One fragment -/

namespace SwFrag

variable {cr : SwCrypto} (f : SwFrag e)

lemma pieces_length : f.pieces.flatten.length =
    e.hdrlen + e.encrypt.ivLen + f.plain.length + e.encrypt.icvLen := by
  rw [f.pieces_eq]
  simp only [length_append, f.hdr_length, f.iv_length, f.tail_length]

lemma hdr_ge : 24 ≤ f.hdr.length := by
  rw [f.hdr_length]
  exact e.hdrlen_ge

lemma take_pieces : f.pieces.flatten.take (e.hdrlen + e.encrypt.ivLen) = f.hdr ++ f.iv := by
  rw [f.pieces_eq, ← f.hdr_length, ← f.iv_length, take_parts]

lemma slice_plain : slice f.pieces.flatten (e.hdrlen + e.encrypt.ivLen)
    (f.pieces.flatten.length - e.hdrlen - e.encrypt.ivLen - e.encrypt.icvLen) = f.plain := by
  have hlen : f.pieces.flatten.length - e.hdrlen - e.encrypt.ivLen - e.encrypt.icvLen =
      f.plain.length := by
    rw [f.pieces_length]
    omega
  rw [hlen, f.pieces_eq, ← f.hdr_length, ← f.iv_length, slice_parts_third]

lemma slice_iv : slice f.pieces.flatten e.hdrlen e.encrypt.ivLen = f.iv := by
  rw [f.pieces_eq, ← f.hdr_length, ← f.iv_length, slice_parts_second]

/-! ### RC4 -/

lemma rc4Encrypt_pieces (hicv : e.encrypt.icvLen = 4) :
    rc4Encrypt cr e f.pieces.flatten = f.hdr ++ f.iv ++
      arcfourEncrypt (cr.rc4 (rc4Key cr e e.ta f.iv)) 0 (f.plain ++ icvBytes (cr.crc32 f.plain)) := by
  have hplain := f.slice_plain
  have hlen := f.pieces_length
  have hsub : f.pieces.flatten.length - (e.hdrlen + e.encrypt.ivLen) - e.encrypt.icvLen =
      f.plain.length := by omega
  rw [Nat.sub_sub (f.pieces.flatten.length), hsub] at hplain
  have hdrop : f.pieces.flatten.drop (e.hdrlen + e.encrypt.ivLen + f.plain.length + 4) = [] := by
    apply drop_eq_nil_of_le
    omega
  simp only [rc4Encrypt, hsub, hplain, f.slice_iv, f.take_pieces, hdrop, append_nil]
  rw [arcfourEncrypt_append, Nat.zero_add]
  simp only [append_assoc]

lemma rc4Decrypt_sealed :
    rc4Decrypt cr e (f.hdr ++ f.iv ++
      arcfourEncrypt (cr.rc4 (rc4Key cr e e.ta f.iv)) 0 (f.plain ++ icvBytes (cr.crc32 f.plain))) =
      some (f.hdr ++ f.iv ++ f.plain ++ icvBytes (cr.crc32 f.plain)) := by
  have haddr (q : List UInt8) : getAddr2 (f.hdr ++ f.iv ++ q) = e.ta := by
    rw [append_assoc, getAddr2_append f.hdr_ge, f.addr2]
  have hiv (q : List UInt8) : slice (f.hdr ++ f.iv ++ q) e.hdrlen e.encrypt.ivLen = f.iv := by
    have h := @slice_parts_second f.hdr f.iv q []
    rwa [append_nil, f.hdr_length, f.iv_length] at h
  have hoff : e.hdrlen + e.encrypt.ivLen = (f.hdr ++ f.iv).length := by
    rw [length_append, f.hdr_length, f.iv_length]
  have hicv : (icvBytes (cr.crc32 f.plain)).length = 4 := rfl
  have hsub : (f.plain ++ icvBytes (cr.crc32 f.plain)).length - 4 = f.plain.length := by
    rw [length_append, hicv, Nat.add_sub_cancel]
  simp only [rc4Decrypt, haddr, hiv, hoff, drop_left, take_left, arcfourEncrypt_twice,
    hsub, ne_eq, not_true_eq_false, and_false, ↓reduceIte]
  rw [append_assoc _ f.plain]

/-! ### CCMP and GCMP -/

variable {p ct mic : List UInt8}

lemma overwrite_sealed (hp : p.length = e.hdrlen)
    (hct : ct.length = f.plain.length) (hmic : mic.length = e.encrypt.icvLen) :
    overwrite f.pieces.flatten (p ++ f.iv ++ ct ++ mic) = p ++ f.iv ++ ct ++ mic := by
  apply overwrite_of_length_eq
  rw [f.pieces_length]
  simp only [length_append, hp, f.iv_length, hct, hmic]

lemma open_parts (hp : p.length = e.hdrlen)
    (hiv : e.encrypt.ivLen = 8) (hct : ct.length = f.plain.length)
    (hmic : mic.length = e.encrypt.icvLen) :
    (p ++ f.iv ++ ct ++ mic).drop e.hdrlen = f.iv ++ (ct ++ mic) ∧
      ((p ++ f.iv ++ ct ++ mic).drop e.hdrlen).length - 8 - e.encrypt.icvLen = ct.length ∧
      slice (f.iv ++ (ct ++ mic)) 8 ct.length = ct ∧ (f.iv ++ (ct ++ mic)).drop (8 + ct.length) = mic ∧
      (p ++ f.iv ++ ct ++ mic).take (e.hdrlen + 8) = p ++ f.iv ∧
      overwrite ((p ++ f.iv ++ ct ++ mic).drop (e.hdrlen + 8)) f.plain = f.plain ++ mic := by
  have hivl : f.iv.length = 8 := f.iv_length.trans hiv
  have hdrop : (p ++ f.iv ++ ct ++ mic).drop e.hdrlen = f.iv ++ (ct ++ mic) := by
    rw [← hp]
    simp only [append_assoc, drop_left]
  refine ⟨hdrop, ?_, ?_, ?_, ?_, ?_⟩
  · rw [hdrop]
    simp only [length_append, hivl, hmic]
    omega
  · rw [slice, ← hivl, drop_left, take_left]
  · rw [← append_assoc, ← hivl, ← length_append, drop_left]
  · rw [← hp, ← hivl, take_parts]
  · rw [← hp, ← hivl, drop_parts, overwrite_append hct.symm]

lemma aead_leading {p q : List UInt8} (hp : p.length = e.hdrlen) (hiv : e.encrypt.ivLen = 8)
    (spp wep : Bool) :
    aeadAad spp wep (p ++ f.iv ++ q) = aeadAad spp wep (p ++ f.iv) ∧
      ccmpNonce (p ++ f.iv ++ q) (f.iv ++ q) = ccmpNonce (p ++ f.iv) f.iv ∧
      gcmpNonce (p ++ f.iv ++ q) (f.iv ++ q) = gcmpNonce (p ++ f.iv) f.iv := by
  have hivl : f.iv.length = 8 := f.iv_length.trans hiv
  have hlong : 32 ≤ (p ++ f.iv).length := by
    rw [length_append, hp, hivl]
    have := e.hdrlen_ge
    omega
  exact ⟨aeadAad_append _ _ hlong, ccmpNonce_append hlong hivl.ge, gcmpNonce_append hlong hivl.ge⟩

lemma rtwCcmpEncrypt_pieces (hcr : cr.Correct) (hiv : e.encrypt.ivLen = 8) {p : List UInt8}
    (hp : setIsWep f.hdr = p) :
    rtwCcmpEncrypt cr e true f.pieces.flatten = p ++ f.iv ++
      (cr.ccmAe (e.key.take e.encrypt.keyLen) e.encrypt.icvLen (ccmpNonce (p ++ f.iv) f.iv)
        (aeadAad e.spp true (p ++ f.iv)) f.plain).1 ++
      (cr.ccmAe (e.key.take e.encrypt.keyLen) e.encrypt.icvLen (ccmpNonce (p ++ f.iv) f.iv)
        (aeadAad e.spp true (p ++ f.iv)) f.plain).2 := by
  have hge := f.hdr_ge
  have hhdr : p.length = e.hdrlen := by
    rw [← hp, length_setIsWep (by omega), f.hdr_length]
  have htake : setIsWep (f.pieces.flatten.take (e.hdrlen + 8)) = p ++ f.iv := by
    rw [← hiv, f.take_pieces, setIsWep_append (by omega), hp]
  have hdrop : (p ++ f.iv).drop e.hdrlen = f.iv := by rw [← hhdr, drop_left]
  have hplain := f.slice_plain
  rw [hiv] at hplain
  simp only [rtwCcmpEncrypt, htake, hdrop, hiv, hplain, ↓reduceIte]
  exact f.overwrite_sealed hhdr (hcr.ccm_length ..) (hcr.ccm_mic ..)

lemma rtwCcmpDecrypt_of_open (hp : p.length = e.hdrlen)
    (hiv : e.encrypt.ivLen = 8) (hct : ct.length = f.plain.length)
    (hmic : mic.length = e.encrypt.icvLen)
    (hopen : cr.ccmAd (e.key.take e.encrypt.keyLen) e.encrypt.icvLen (ccmpNonce (p ++ f.iv) f.iv)
      (aeadAad e.spp true (p ++ f.iv)) ct mic = some f.plain) :
    rtwCcmpDecrypt cr e (p ++ f.iv ++ ct ++ mic) = some (p ++ f.iv ++ f.plain ++ mic) := by
  obtain ⟨hdrop, hlen, hslice, hlast, htake, hover⟩ := f.open_parts hp hiv hct hmic
  have hpre := @aead_leading _ f _ (ct ++ mic) hp hiv e.spp true
  rw [← append_assoc (p ++ f.iv)] at hpre
  have hlong : ¬ (f.iv ++ (ct ++ mic)).length < 8 + e.encrypt.icvLen := by
    simp only [length_append, f.iv_length, hiv, hmic]
    omega
  rw [hdrop] at hlen
  simp only [rtwCcmpDecrypt, hdrop, hlen, hslice, hlast, htake, hover, hpre.1, hpre.2.1, hlong,
    ↓reduceIte, hopen, Option.map_some]
  rw [append_assoc (p ++ f.iv)]

lemma rtwGcmpEncrypt_pieces (hcr : cr.Correct) (hiv : e.encrypt.ivLen = 8)
    (hicv : e.encrypt.icvLen = 16) :
    rtwGcmpEncrypt cr e true f.pieces.flatten = f.hdr ++ f.iv ++
      (cr.gcmAe (e.key.take e.encrypt.keyLen) (gcmpNonce (f.hdr ++ f.iv) f.iv)
        (aeadAad e.spp false (f.hdr ++ f.iv)) f.plain).1 ++
      (cr.gcmAe (e.key.take e.encrypt.keyLen) (gcmpNonce (f.hdr ++ f.iv) f.iv)
        (aeadAad e.spp false (f.hdr ++ f.iv)) f.plain).2 := by
  have htake : f.pieces.flatten.take (e.hdrlen + 8) = f.hdr ++ f.iv := by rw [← hiv, f.take_pieces]
  have hdrop : (f.hdr ++ f.iv).drop e.hdrlen = f.iv := by rw [← f.hdr_length, drop_left]
  have hplain := f.slice_plain
  rw [hiv] at hplain
  simp only [rtwGcmpEncrypt, htake, hdrop, hiv, hplain, ↓reduceIte]
  exact f.overwrite_sealed f.hdr_length (hcr.gcm_length ..) ((hcr.gcm_mic ..).trans hicv.symm)

lemma rtwGcmpDecrypt_of_open {ct mic : List UInt8} (hiv : e.encrypt.ivLen = 8)
    (hicv : e.encrypt.icvLen = 16) (hct : ct.length = f.plain.length) (hmic : mic.length = 16)
    (hopen : cr.gcmAd (e.key.take e.encrypt.keyLen) (gcmpNonce (f.hdr ++ f.iv) f.iv)
      (aeadAad e.spp false (f.hdr ++ f.iv)) ct mic = some f.plain) :
    rtwGcmpDecrypt cr e (f.hdr ++ f.iv ++ ct ++ mic) = some (f.hdr ++ f.iv ++ f.plain ++ mic) := by
  obtain ⟨hdrop, hlen, hslice, hlast, htake, hover⟩ :=
    f.open_parts f.hdr_length hiv hct (hmic.trans hicv.symm)
  have hpre := @aead_leading _ f _ (ct ++ mic) f.hdr_length hiv e.spp false
  rw [← append_assoc (f.hdr ++ f.iv)] at hpre
  have hlong : ¬ (f.iv ++ (ct ++ mic)).length < 8 + 16 := by
    simp only [length_append, f.iv_length, hiv, hmic]
    omega
  rw [hdrop, hicv] at hlen
  simp only [rtwGcmpDecrypt, hdrop, hlen, hslice, hlast, htake, hover, hpre.1, hpre.2.2, hlong,
    ↓reduceIte, hopen, Option.map_some]
  rw [append_assoc (f.hdr ++ f.iv)]

lemma sealed_rc4 (h : e.encrypt = .wep40 ∨ e.encrypt = .wep104 ∨ e.encrypt = .tkip)
    (hwep : e.encrypt = .wep40 ∨ e.encrypt = .wep104 → e.fwAuth = false) (ok : Bool) :
    f.Sealed cr (encryptFrame cr e ok f.pieces.flatten) := by
  have hicv : e.encrypt.icvLen = 4 := by
    rcases h with h | h | h <;> rw [h] <;> rfl
  have hframe : encryptFrame cr e ok f.pieces.flatten = rc4Encrypt cr e f.pieces.flatten := by
    rcases h with h | h | h <;> simp [encryptFrame, h, hwep]
  have hopen (req : List UInt8) : swDecrypt cr e req = rc4Decrypt cr e req := by
    rcases h with h | h | h <;> simp only [swDecrypt, h]
  have hhdr : f.sealedHdr = f.hdr := by
    rcases h with h | h | h <;> simp only [sealedHdr, h]
  have htrailer : f.trailer cr = icvBytes (cr.crc32 f.plain) := by
    rcases h with h | h | h <;> simp only [trailer, h]
  have hcipher : f.cipher cr = (arcfourEncrypt (cr.rc4 (rc4Key cr e e.ta f.iv)) 0 f.plain,
      arcfourEncrypt (cr.rc4 (rc4Key cr e e.ta f.iv)) f.plain.length
        (icvBytes (cr.crc32 f.plain))) := by
    rcases h with h | h | h <;> simp only [cipher, h]
  have hbytes := @f.rc4Encrypt_pieces _ cr hicv
  constructor
  · rw [hframe, hbytes, hhdr, hcipher, arcfourEncrypt_append, Nat.zero_add]
    simp only [append_assoc]
  · rw [hframe, hbytes, hopen, hhdr, htrailer]
    exact f.rc4Decrypt_sealed

lemma sealed_ccmp (hcr : cr.Correct) (h : e.encrypt = .aes ∨ e.encrypt = .ccmp256) :
    f.Sealed cr (encryptFrame cr e true f.pieces.flatten) := by
  have hiv : e.encrypt.ivLen = 8 := by
    rcases h with h | h <;> rw [h] <;> rfl
  have hframe : encryptFrame cr e true f.pieces.flatten =
      rtwCcmpEncrypt cr e true f.pieces.flatten := by
    rcases h with h | h <;> simp only [encryptFrame, h]
  have hopen (req : List UInt8) : swDecrypt cr e req = rtwCcmpDecrypt cr e req := by
    rcases h with h | h <;> simp only [swDecrypt, h]
  have hhdr : f.sealedHdr = setIsWep f.hdr := by
    rcases h with h | h <;> simp only [sealedHdr, h]
  have htrailer : f.trailer cr = (f.cipher cr).2 := by
    rcases h with h | h <;> simp only [trailer, h]
  have hcipher : f.cipher cr = cr.ccmAe (e.key.take e.encrypt.keyLen) e.encrypt.icvLen
      (ccmpNonce (f.sealedHdr ++ f.iv) f.iv) (aeadAad e.spp true (f.sealedHdr ++ f.iv)) f.plain := by
    rcases h with h | h <;> simp only [cipher, h]
  have hbytes := f.rtwCcmpEncrypt_pieces hcr hiv hhdr.symm
  rw [← hcipher] at hbytes
  have hlen : f.sealedHdr.length = e.hdrlen := by
    rw [hhdr, length_setIsWep (by have := f.hdr_ge; omega), f.hdr_length]
  refine ⟨hframe.trans hbytes, ?_⟩
  rw [hframe, hbytes, hopen, htrailer]
  apply f.rtwCcmpDecrypt_of_open hlen hiv
  · rw [hcipher, hcr.ccm_length]
  · rw [hcipher, hcr.ccm_mic]
  · rw [hcipher, hcr.ccm_opens]

lemma sealed_gcmp (hcr : cr.Correct) (h : e.encrypt = .gcmp ∨ e.encrypt = .gcmp256) :
    f.Sealed cr (encryptFrame cr e true f.pieces.flatten) := by
  have hiv : e.encrypt.ivLen = 8 := by
    rcases h with h | h <;> rw [h] <;> rfl
  have hicv : e.encrypt.icvLen = 16 := by
    rcases h with h | h <;> rw [h] <;> rfl
  have hframe : encryptFrame cr e true f.pieces.flatten =
      rtwGcmpEncrypt cr e true f.pieces.flatten := by
    rcases h with h | h <;> simp only [encryptFrame, h]
  have hopen (req : List UInt8) : swDecrypt cr e req = rtwGcmpDecrypt cr e req := by
    rcases h with h | h <;> simp only [swDecrypt, h]
  have hhdr : f.sealedHdr = f.hdr := by
    rcases h with h | h <;> simp only [sealedHdr, h]
  have htrailer : f.trailer cr = (f.cipher cr).2 := by
    rcases h with h | h <;> simp only [trailer, h]
  have hcipher : f.cipher cr = cr.gcmAe (e.key.take e.encrypt.keyLen)
      (gcmpNonce (f.sealedHdr ++ f.iv) f.iv) (aeadAad e.spp false (f.sealedHdr ++ f.iv)) f.plain := by
    rcases h with h | h <;> simp only [cipher, h]
  rw [hhdr] at hcipher
  have hbytes := f.rtwGcmpEncrypt_pieces hcr hiv hicv
  rw [← hcipher] at hbytes
  constructor
  · rw [hframe, hbytes, hhdr]
  · rw [hframe, hbytes, hopen, hhdr, htrailer]
    apply f.rtwGcmpDecrypt_of_open hiv hicv
    · rw [hcipher, hcr.gcm_length]
    · rw [hcipher, hcr.gcm_mic]
    · rw [hcipher, hcr.gcm_opens]

lemma sealed_encryptFrame (hcr : cr.Correct) {ok : Bool}
    (hok : e.encrypt.hasCcmpHeader = true → ok = true)
    (hwep : e.encrypt = .wep40 ∨ e.encrypt = .wep104 → e.fwAuth = false) :
    f.Sealed cr (encryptFrame cr e ok f.pieces.flatten) := by
  have hsw := e.isSw
  by_cases hrc4 : e.encrypt = .wep40 ∨ e.encrypt = .wep104 ∨ e.encrypt = .tkip
  · exact f.sealed_rc4 hrc4 hwep ok
  · have haead : e.encrypt.hasCcmpHeader = true := by
      cases henc : e.encrypt <;> simp_all [SecurityType.isSw, SecurityType.hasCcmpHeader]
    rw [hok haead]
    by_cases hccmp : e.encrypt = .aes ∨ e.encrypt = .ccmp256
    · exact f.sealed_ccmp hcr hccmp
    · apply f.sealed_gcmp hcr
      cases henc : e.encrypt <;> simp_all [SecurityType.hasCcmpHeader]

/-! ### A fragment that was not encrypted -/

def nullCrypto (x : UInt8) (crc : ℕ) : SwCrypto where
  rc4 _ _ := 0
  crc32 _ := crc
  tkipKey key _ _ := key
  ccmAe _ m _ _ p := (p, replicate m x)
  ccmAd _ m _ _ c mic := if mic = replicate m x then some c else none
  gcmAe _ _ _ p := (p, replicate 16 x)
  gcmAd _ _ _ c mic := if mic = replicate 16 x then some c else none

lemma nullCrypto_correct (x : UInt8) (crc : ℕ) : (nullCrypto x crc).Correct := by
  constructor <;> intros <;> simp [nullCrypto]

lemma arcfourEncrypt_zero (n : ℕ) (p : List UInt8) : arcfourEncrypt (fun _ => 0) n p = p := by
  apply ext_getElem
  · simp
  · intro i h₁ h₂
    simp [arcfourEncrypt]

lemma exists_replicate_ne {n : ℕ} (hn : n ≠ 0) (l : List UInt8) :
    ∃ x : UInt8, l ≠ replicate n x := by
  by_cases h : l = replicate n 0
  · refine ⟨1, ?_⟩
    rw [h]
    simp [hn]
  · exact ⟨0, h⟩

lemma exists_icvBytes_ne (l : List UInt8) : ∃ crc : ℕ, l ≠ icvBytes crc := by
  by_cases h : l = icvBytes 0
  · refine ⟨1, ?_⟩
    rw [h]
    decide
  · exact ⟨0, h⟩

lemma exists_not_sealed : ∃ cr : SwCrypto, cr.Correct ∧ ¬ f.Sealed cr f.pieces.flatten := by
  have hne : e.encrypt.icvLen ≠ 0 := by
    have hsw := e.isSw
    cases henc : e.encrypt <;> simp_all [SecurityType.isSw, SecurityType.icvLen]
  obtain ⟨x, hx⟩ := exists_replicate_ne hne f.tail
  obtain ⟨crc, hcrc⟩ := exists_icvBytes_ne f.tail
  refine ⟨nullCrypto x crc, nullCrypto_correct x crc, fun hs => ?_⟩
  have hmic : (f.cipher (nullCrypto x crc)).2.length = e.encrypt.icvLen ∧
      f.tail ≠ (f.cipher (nullCrypto x crc)).2 := by
    have hsw := e.isSw
    cases henc : e.encrypt <;>
      simp_all [SecurityType.isSw, SecurityType.icvLen, cipher, nullCrypto, arcfourEncrypt_zero] <;>
      rfl
  apply hmic.2
  have hbytes := hs.bytes
  rw [f.pieces_eq] at hbytes
  exact append_inj_right' hbytes (f.tail_length.trans hmic.1.symm)

end SwFrag

/-! ## All fragments -/

lemma mergeTxreqToOnePiece_flatten (mergeOk : ℕ → Bool) (i : ℕ) (reqs : List TxBufs) :
    (mergeTxreqToOnePiece mergeOk i reqs).1.map flatten = reqs.map flatten := by
  induction reqs generalizing i with
  | nil => rfl
  | cons r rs ih =>
    unfold mergeTxreqToOnePiece
    by_cases h : mergeOk i = true
    · rw [if_pos h]
      simp [ih]
    · rw [if_neg h]

variable {mergeOk : ℕ → Bool}

lemma mergeTxreqToOnePiece_ok {i : ℕ} {reqs : List TxBufs}
    (h : ∀ j < reqs.length, mergeOk (i + j) = true) :
    mergeTxreqToOnePiece mergeOk i reqs = (reqs.map fun r => [r.flatten], true) := by
  induction reqs generalizing i with
  | nil => rfl
  | cons r rs ih =>
    have hi : mergeOk i = true := h 0 (by simp)
    have hrest : ∀ j < rs.length, mergeOk (i + 1 + j) = true := by
      intro j hj
      rw [Nat.add_right_comm]
      exact h (j + 1) (by simpa using hj)
    unfold mergeTxreqToOnePiece
    rw [if_pos hi, ih hrest]
    rfl

lemma mergeTxreqToOnePiece_fails {i j : ℕ} {reqs : List TxBufs}
    (hj : j < reqs.length) (h : mergeOk (i + j) = false) :
    (mergeTxreqToOnePiece mergeOk i reqs).2 = false := by
  induction reqs generalizing i j with
  | nil => simp at hj
  | cons r rs ih =>
    unfold mergeTxreqToOnePiece
    by_cases hi : mergeOk i = true
    · rw [if_pos hi]
      cases j with
      | zero => simp_all
      | succ j =>
        apply ih (by simpa using hj)
        rwa [Nat.add_right_comm]
    · rw [if_neg hi]

lemma xmitframeSwencrypt_merged (cr : SwCrypto) (e : SwEnv) (cipherOk : ℕ → Bool) (i : ℕ)
    (reqs : List TxBufs) :
    xmitframeSwencrypt cr e cipherOk i (reqs.map fun r => [r.flatten]) =
      reqs.mapIdx fun j r => [encryptFrame cr e (cipherOk (i + j)) r.flatten] := by
  induction reqs generalizing i with
  | nil => rfl
  | cons r rs ih =>
    simp only [map_cons, xmitframeSwencrypt, ih, mapIdx_cons, Nat.add_zero]
    congr 1
    congr 1
    funext j r'
    rw [Nat.add_right_comm, Nat.add_assoc]

lemma coreWlanSwEncrypt_ok {cr : SwCrypto} {mergeOk cipherOk : ℕ → Bool} {reqs : List TxBufs}
    (h : ∀ i < reqs.length, mergeOk i = true) :
    coreWlanSwEncrypt cr e mergeOk cipherOk reqs =
      reqs.mapIdx fun i r => [encryptFrame cr e (cipherOk i) r.flatten] := by
  have hmerge := @mergeTxreqToOnePiece_ok mergeOk 0 reqs (by simpa using h)
  simp only [coreWlanSwEncrypt, hmerge, ↓reduceIte, xmitframeSwencrypt_merged, Nat.zero_add]

lemma failsClosed_merged_iff {cr : SwCrypto} {mergeOk cipherOk : ℕ → Bool}
    {frags : List (SwFrag e)} (h : ∀ i < frags.length, mergeOk i = true) :
    FailsClosed cr frags (coreTxPreparePhl cr e true mergeOk cipherOk (frags.map SwFrag.pieces)) ↔
      ∀ i (hi : i < frags.length),
        (frags.get ⟨i, hi⟩).Sealed cr
          (encryptFrame cr e (cipherOk i) (frags.get ⟨i, hi⟩).pieces.flatten) := by
  have hok : ∀ i < (frags.map SwFrag.pieces).length, mergeOk i = true := by simpa using h
  simp only [coreTxPreparePhl, ↓reduceIte, FailsClosed, coreWlanSwEncrypt_ok hok,
    forall₂_iff_get]
  simp

/-- A frame fails closed under every cipher exactly if it is not handed to PHL or
no step fails. -/
theorem sw_encrypt_fails_closed_iff (e : SwEnv) (prepOk : Bool) (mergeOk cipherOk : ℕ → Bool)
    (frags : List (SwFrag e)) (hne : frags ≠ []) :
    (∀ cr : SwCrypto, cr.Correct →
        FailsClosed cr frags
          (coreTxPreparePhl cr e prepOk mergeOk cipherOk (frags.map SwFrag.pieces))) ↔
      prepOk = false ∨ NoFault e frags.length mergeOk cipherOk := by
  cases prepOk with
  | false => exact iff_of_true (fun _ _ => trivial) (.inl rfl)
  | true =>
    constructor
    · intro h
      have hpos : 0 < frags.length := length_pos_of_ne_nil hne
      have hmerge : ∀ i < frags.length, mergeOk i = true := by
        intro i hi
        by_contra hbad
        obtain ⟨cr, hcr, hno⟩ := (frags.get ⟨0, hpos⟩).exists_not_sealed
        apply hno
        -- the first request goes out as it was built
        have hfail := @mergeTxreqToOnePiece_fails mergeOk 0 i (frags.map SwFrag.pieces)
          (by simpa using hi) (by simpa using hbad)
        have hflat := mergeTxreqToOnePiece_flatten mergeOk 0 (frags.map SwFrag.pieces)
        have hall := h cr hcr
        simp only [coreTxPreparePhl, ↓reduceIte, FailsClosed, coreWlanSwEncrypt, hfail,
          Bool.false_eq_true] at hall
        obtain ⟨hlen, hget⟩ := forall₂_iff_get.mp hall
        have hfirst := hget 0 hpos (hlen ▸ hpos)
        have hsame := congrArg (fun l : List (List UInt8) => l[0]?) hflat
        simp only [getElem?_map, getElem?_eq_getElem hpos,
          getElem?_eq_getElem (hlen ▸ hpos : 0 < (mergeTxreqToOnePiece mergeOk 0
            (frags.map SwFrag.pieces)).1.length), Option.map_some, Option.some.injEq] at hsame
        simp only [get_eq_getElem] at hfirst ⊢
        rwa [hsame] at hfirst
      have hone (cr : SwCrypto) (hcr : cr.Correct) :=
        (failsClosed_merged_iff hmerge).mp (h cr hcr)
      refine .inr ⟨hmerge, ?_, ?_⟩
      · intro haead i hi
        by_contra hbad
        obtain ⟨cr, hcr, hno⟩ := (frags.get ⟨i, hi⟩).exists_not_sealed
        apply hno
        have hi' := hone cr hcr i hi
        rw [Bool.eq_false_of_not_eq_true hbad] at hi'
        have hsame : encryptFrame cr e false (frags.get ⟨i, hi⟩).pieces.flatten =
            (frags.get ⟨i, hi⟩).pieces.flatten := by
          cases henc : e.encrypt <;>
            simp_all [SecurityType.hasCcmpHeader, encryptFrame, rtwCcmpEncrypt, rtwGcmpEncrypt]
        rwa [hsame] at hi'
      · intro hwep
        by_contra hbad
        obtain ⟨cr, hcr, hno⟩ := (frags.get ⟨0, hpos⟩).exists_not_sealed
        apply hno
        have hi' := hone cr hcr 0 hpos
        have hsame : encryptFrame cr e (cipherOk 0) (frags.get ⟨0, hpos⟩).pieces.flatten =
            (frags.get ⟨0, hpos⟩).pieces.flatten := by
          rcases hwep with hwep | hwep <;> simp [encryptFrame, hwep, hbad]
        rwa [hsame] at hi'
    · rintro (hprep | hno) cr hcr
      · cases hprep
      · rw [failsClosed_merged_iff hno.merge]
        intro i hi
        exact (frags.get ⟨i, hi⟩).sealed_encryptFrame hcr (fun ha => hno.cipher ha i hi) hno.wep

def ccmpEnv : SwEnv where
  encrypt := .aes
  key := replicate 16 7
  ta := replicate 6 2
  hdrlen := 24
  isSw := rfl
  hdrlen_ge := le_rfl

def ccmpFrag : SwFrag ccmpEnv where
  hdr := [8, 0x41, 0, 0] ++ replicate 6 1 ++ replicate 6 2 ++ replicate 8 0
  iv := [1, 0, 0, 32, 0, 0, 0, 0]
  plain := [0x55, 0x66]
  tail := replicate 8 0
  pieces := [[8, 0x41, 0, 0] ++ replicate 6 1 ++ replicate 6 2 ++ replicate 8 0 ++
    [1, 0, 0, 32, 0, 0, 0, 0], [0x55, 0x66], replicate 8 0]
  hdr_length := rfl
  iv_length := rfl
  tail_length := rfl
  addr2 := rfl
  pieces_eq := rfl

theorem sw_encrypt_one_fragment :
    [ccmpFrag] ≠ [] ∧ ∀ cr : SwCrypto, cr.Correct →
      FailsClosed cr [ccmpFrag]
        (coreTxPreparePhl cr ccmpEnv true (fun _ => true) (fun _ => true) [ccmpFrag.pieces]) :=
  ⟨by simp, (sw_encrypt_fails_closed_iff ccmpEnv true _ _ [ccmpFrag] (by simp)).mpr
    (.inr ⟨fun _ _ => rfl, fun _ _ _ => rfl, fun _ => rfl⟩)⟩

/-- Without a buffer to merge into, the protected frame is handed to PHL with its
plaintext. -/
theorem sw_encrypt_sends_plaintext :
    getPrivacy ccmpFrag.hdr = true ∧
      (∀ cr, coreTxPreparePhl cr ccmpEnv true (fun _ => false) (fun _ => true) [ccmpFrag.pieces] =
        some [ccmpFrag.pieces]) ∧
      ¬ ∀ cr : SwCrypto, cr.Correct →
        FailsClosed cr [ccmpFrag]
          (coreTxPreparePhl cr ccmpEnv true (fun _ => false) (fun _ => true) [ccmpFrag.pieces]) := by
  refine ⟨by decide, fun _ => rfl, fun h => ?_⟩
  obtain ⟨cr, hcr, hno⟩ := ccmpFrag.exists_not_sealed
  have hall : List.Forall₂ (fun f req => SwFrag.Sealed cr f (flatten req)) [ccmpFrag]
      [ccmpFrag.pieces] := h cr hcr
  obtain ⟨hfirst, -⟩ := forall₂_cons.mp hall
  exact hno hfirst

end Rtl8831.Core
