import Rtl8831.Core.MgmtProtect
import Rtl8831.Core.XmitFrag

/-!
# Group-addressed management frames with a MIC

`rtw_mgmt_xmitframe_coalesce` puts a management MIC element behind a group-addressed robust
management frame, `rtw_bip_verify` takes the frame.  The verifier is given two lengths: the
packet number of the nonce is found from `pkt_len`, the element from `flen`.
-/

namespace Rtl8831.Core

open List

/-! ## The verifier with both lengths -/

/-- The nonce of `_bip_gcmp_protect`, for a frame that ends at `len`. -/
def bipNonceAt (frame : List UInt8) (len : ℕ) : List UInt8 :=
  getAddr2 frame ++ (slice frame (len - 16 - 6) 6).reverse

def rtwCalculateBipMicAt (bc : BipCrypto) (gmcs : BipCipher) (frame : List UInt8) (len : ℕ)
    (key data : List UInt8) : Option (List UInt8) :=
  match gmcs with
  | .cmac128 => bc.omac1 (key.take 16) data
  | .cmac256 => bc.omac1 (key.take 32) data
  | .gmac128 => bc.gmac (key.take 16) (bipNonceAt frame len) data
  | .gmac256 => bc.gmac (key.take 32) (bipNonceAt frame len) data
  | .other => none

/-- `pktLen` is a `u16`; `flen` is the length of the frame. -/
def rtwBipVerifyAt (bc : BipCrypto) (link : BipLink) (frame : List UInt8) (pktLen ipn : ℕ)
    (bdecrypted mallocOk : Bool) : BipVerdict × ℕ :=
  let flen := frame.length
  let micLen := link.cipher.micLen
  if flen < 24 then (.handled, ipn)
  else if flen - 24 < micLen then (.handled, ipn)
  else
    let mme := flen - link.cipher.mmeLen
    if byteAt frame mme ≠ 76 then (.handled, ipn)
    else if le16At frame (mme + 2) ≠ link.keyid then (.fail, ipn)
    else if le48At frame (mme + 4) ≤ ipn then (.fail, ipn)
    else if bdecrypted then (.success, le48At frame (mme + 4))
    else if !mallocOk then (.fail, ipn)
    else
      match rtwCalculateBipMicAt bc link.cipher frame (pktLen % 2 ^ 16) link.key
          (bipAad micLen frame) with
      | none => (.fail, ipn)
      | some mic =>
        if mic.take micLen = frame.drop (flen - micLen) then (.success, le48At frame (mme + 4))
        else (.fail, ipn)

/-! ## The builder -/

def le64 (n : ℕ) : List UInt8 := (range 8).map fun i => UInt8.ofNat (n / 256 ^ i)

/-- What the call leaves: the frame and the packet number, where it gets a MIC element. -/
inductive MgmtCoalesce where
  /-- The frame is sent as it is. -/
  | plain
  /-- The frame is encrypted, or dropped, as a unicast or a group privacy frame. -/
  | cipher
  | fail
  | bip (frame : List UInt8) (txpn : ℕ)

/-- `sw_encrypt` and `hw_decrypted` -/
structure SwCrypt where
  swEncrypt : Bool
  hwDecrypted : Bool

/-- `pattrib->bswenc`; the cipher of a link with a BIP key is not zero. -/
def bswenc (sw : SwCrypt) (gmcs : BipCipher) : Bool :=
  if sw.swEncrypt || !sw.hwDecrypted then true else decide (gmcs ≠ .cmac128)

/-- `mme_cont`, of which `mme_clen` bytes are used. -/
def mmeCont (keyid txpn : ℕ) : List UInt8 :=
  [UInt8.ofNat keyid, 0] ++ le64 txpn ++ replicate 14 0

def mmeClen (gmcs : BipCipher) : ℕ := if gmcs = .cmac128 then 16 else 24

def withMme (link : BipLink) (frame : List UInt8) (txpn : ℕ) : List UInt8 :=
  frame ++ [76, UInt8.ofNat (mmeClen link.cipher)] ++
    (mmeCont link.keyid txpn).take (mmeClen link.cipher)

/-- The part for a broadcast robust management frame; `txpn` is `dot11wBIPtxpn`. -/
def bipCoalesce (bc : BipCrypto) (link : BipLink) (sw : SwCrypt) (frame : List UInt8)
    (txpn : ℕ) : MgmtCoalesce :=
  if !link.installed then .plain
  else
    let txpn := (txpn + 1) % 2 ^ 64
    let pframe := withMme link frame txpn
    let micLen := link.cipher.micLen
    if !bswenc sw link.cipher then .bip (pframe.take (pframe.length - micLen)) txpn
    else
      let aad := [byteAt pframe 0, byteAt pframe 1 &&& 0xc7] ++ slice pframe 4 18 ++
        pframe.drop 24
      match rtwCalculateBipMicAt bc link.cipher pframe pframe.length link.key aad with
      | none => .fail
      | some mic => .bip (pframe.take (pframe.length - micLen) ++ mic.take micLen) txpn

/-- `mallocOk` tells whether there is memory for `BIP_AAD`. -/
def rtwMgmtXmitframeCoalesce (bc : BipCrypto) (link : BipLink) (sw : SwCrypt) (mallocOk : Bool)
    (frame : List UInt8) (txpn : ℕ) : MgmtCoalesce :=
  let subtype := getFrameSubType frame
  let category := byteAt frame 24
  if subtype ≠ wifiDeauth ∧ subtype ≠ wifiDisassoc ∧ subtype ≠ wifiAction then .plain
  else if subtype = wifiAction ∧ categoryIsNonRobust category then .plain
  else if !isMcast (getAddr1 frame) then .cipher
  else if !mallocOk then .fail
  else if subtype = wifiAction ∧ categoryIsGroupPrivacy category then .cipher
  else bipCoalesce bc link sw frame txpn

/-! ## The frame with its element -/

section

variable {link : BipLink} {frame mic : List UInt8} {txpn n i : ℕ}

def ipnBytes (n : ℕ) : List UInt8 := (range 6).map fun i => UInt8.ofNat (n / 256 ^ i)

def mmeHead (link : BipLink) (n : ℕ) : List UInt8 :=
  [76, UInt8.ofNat (mmeClen link.cipher), UInt8.ofNat link.keyid, 0] ++ ipnBytes n

lemma length_mmeHead : (mmeHead link n).length = 10 := rfl

variable (gmcs : BipCipher) {b : UInt8} {ipn : ℕ} {bdecrypted : Bool}

lemma micLen_cases :
    gmcs.mmeLen = gmcs.micLen + 10 ∧ mmeClen gmcs = gmcs.micLen + 8 ∧
      (gmcs.micLen = 8 ∨ gmcs.micLen = 16) := by
  cases gmcs <;> decide

/-- What stands in the place of the MIC when it is computed: zeros, and the bytes of the packet
number that do not fit the element. -/
def micField (gmcs : BipCipher) (n : ℕ) : List UInt8 :=
  ([UInt8.ofNat (n / 256 ^ 6), UInt8.ofNat (n / 256 ^ 7)] ++ replicate 14 0).take gmcs.micLen

lemma micField_zero (hn : n < 2 ^ 48) :
    micField gmcs n = replicate gmcs.micLen 0 := by
  have hsix : n / 256 ^ 6 = 0 := Nat.div_eq_of_lt hn
  have hseven : n / 256 ^ 7 = 0 := Nat.div_eq_of_lt (hn.trans (by decide))
  unfold micField
  rw [hsix, hseven]
  cases gmcs <;> rfl

lemma length_micField : (micField gmcs n).length = gmcs.micLen := by
  unfold micField
  rw [length_take]
  cases gmcs <;> rfl

lemma withMme_eq : withMme link frame n =
    frame ++ mmeHead link n ++ micField link.cipher n := by
  obtain ⟨-, hclen, -⟩ := micLen_cases link.cipher
  have hle : le64 n = ipnBytes n ++ [UInt8.ofNat (n / 256 ^ 6), UInt8.ofNat (n / 256 ^ 7)] := rfl
  have hcont : mmeCont link.keyid n = ([UInt8.ofNat link.keyid, 0] ++ ipnBytes n) ++
      ([UInt8.ofNat (n / 256 ^ 6), UInt8.ofNat (n / 256 ^ 7)] ++ replicate 14 0) := by
    unfold mmeCont
    rw [hle]
    simp only [append_assoc]
  have htake : (mmeCont link.keyid n).take (link.cipher.micLen + 8) =
      ([UInt8.ofNat link.keyid, 0] ++ ipnBytes n) ++ micField link.cipher n := by
    rw [hcont, Nat.add_comm]
    exact @take_length_add_append UInt8 ([UInt8.ofNat link.keyid, 0] ++ ipnBytes n)
      ([UInt8.ofNat (n / 256 ^ 6), UInt8.ofNat (n / 256 ^ 7)] ++ replicate 14 0)
      link.cipher.micLen
  unfold withMme
  rw [hclen, htake]
  unfold mmeHead
  rw [hclen]
  simp only [append_assoc, cons_append, nil_append]

/-! ## Reading the element -/

lemma byteAt_append_add (a b : List UInt8) (i : ℕ) : byteAt (a ++ b) (a.length + i) = byteAt b i := by
  unfold byteAt
  rw [getD_append_right _ _ _ _ (Nat.le_add_right _ _), Nat.add_sub_cancel_left]

lemma byteAt_append_lt {a b : List UInt8} (hi : i < a.length) :
    byteAt (a ++ b) i = byteAt a i := by
  unfold byteAt
  exact getD_append _ _ _ _ hi

lemma mme_id : byteAt (frame ++ mmeHead link n ++ mic) frame.length = 76 := by
  rw [append_assoc]
  exact byteAt_append_add frame _ 0

lemma mme_keyid (hkeyid : link.keyid < 2 ^ 8) :
    le16At (frame ++ mmeHead link n ++ mic) (frame.length + 2) = link.keyid := by
  have hbyte : (UInt8.ofNat link.keyid).toNat = link.keyid := by
    rw [UInt8.toNat_ofNat']
    exact Nat.mod_eq_of_lt hkeyid
  have hlow : byteAt (mmeHead link n ++ mic) 2 = UInt8.ofNat link.keyid := rfl
  have hhigh : byteAt (mmeHead link n ++ mic) 3 = 0 := rfl
  unfold le16At
  rw [append_assoc, Nat.add_assoc, byteAt_append_add, byteAt_append_add, hlow, hhigh, hbyte]
  rfl

lemma mme_ipn : le48At (frame ++ mmeHead link n ++ mic) (frame.length + 4) = n % 2 ^ 48 := by
  have hbyte : ∀ i < 6, byteAt (frame ++ mmeHead link n ++ mic) (frame.length + (4 + i)) =
      UInt8.ofNat (n / 256 ^ i) := by
    intro i hi
    rw [append_assoc, byteAt_append_add]
    interval_cases i <;> rfl
  have hnat : ∀ i < 6, (byteAt (frame ++ mmeHead link n ++ mic) (frame.length + (4 + i))).toNat =
      n / 256 ^ i % 256 := by
    intro i hi
    rw [hbyte i hi, UInt8.toNat_ofNat']
  have h0 := hnat 0 (by decide)
  have h1 := hnat 1 (by decide)
  have h2 := hnat 2 (by decide)
  have h3 := hnat 3 (by decide)
  have h4 := hnat 4 (by decide)
  have h5 := hnat 5 (by decide)
  unfold le48At le16At
  simp only [Nat.add_assoc] at h0 h1 h2 h3 h4 h5 ⊢
  norm_num at h0 h1 h2 h3 h4 h5 ⊢
  rw [h0, h1, h2, h3, h4, h5]
  omega

lemma mme_mic (hmic : mic.length = n) :
    (frame ++ mmeHead link txpn ++ mic).drop
      ((frame ++ mmeHead link txpn ++ mic).length - n) = mic := by
  rw [length_append, hmic, Nat.add_sub_cancel, drop_left]

section

variable (hframe : 24 ≤ frame.length)
include hframe

lemma mme_nonce (hmic : mic.length = 16) :
    bipNonceAt (frame ++ mmeHead link n ++ mic) (frame ++ mmeHead link n ++ mic).length =
      getAddr2 frame ++ (ipnBytes n).reverse := by
  have haddr : getAddr2 (frame ++ mmeHead link n ++ mic) = getAddr2 frame := by
    unfold getAddr2
    rw [append_assoc]
    exact slice_append_left _ _ (by omega)
  have hplace : (frame ++ mmeHead link n ++ mic).length - 16 - 6 = frame.length + 4 := by
    rw [length_append, length_append, length_mmeHead, hmic]
    omega
  have hpn : slice (frame ++ mmeHead link n ++ mic) (frame.length + 4) 6 = ipnBytes n := by
    unfold slice
    rw [append_assoc, drop_length_add_append]
    rfl
  unfold bipNonceAt
  rw [haddr, hplace, hpn]

lemma mme_aad (hmic : mic.length = n) :
    bipAad n (frame ++ mmeHead link txpn ++ mic) =
      [byteAt frame 0, byteAt frame 1 &&& 0xc7] ++ slice frame 4 18 ++
        (frame.drop 24 ++ mmeHead link txpn) ++ replicate n 0 := by
  have hbyte : ∀ i < 24, byteAt (frame ++ mmeHead link txpn ++ mic) i = byteAt frame i := by
    intro i hi
    rw [append_assoc]
    exact byteAt_append_lt (by omega)
  have haddrs : slice (frame ++ mmeHead link txpn ++ mic) 4 18 = slice frame 4 18 := by
    rw [append_assoc]
    exact slice_append_left _ _ (by omega)
  have hbody : slice (frame ++ mmeHead link txpn ++ mic) 24
      ((frame ++ mmeHead link txpn ++ mic).length - 24 - n) =
        frame.drop 24 ++ mmeHead link txpn := by
    have hlen : (frame ++ mmeHead link txpn ++ mic).length - 24 - n =
        (frame.drop 24 ++ mmeHead link txpn).length := by
      simp only [length_append, length_drop, length_mmeHead, hmic]
      omega
    unfold slice
    rw [drop_append_of_le_length (by rw [length_append]; omega),
      drop_append_of_le_length hframe, hlen, take_left]
  unfold bipAad
  rw [hbyte 0 (by decide), hbyte 1 (by decide), haddrs, hbody]

lemma withMme_aad (hn : n < 2 ^ 48) :
    [byteAt (withMme link frame n) 0, byteAt (withMme link frame n) 1 &&& 0xc7] ++
        slice (withMme link frame n) 4 18 ++ (withMme link frame n).drop 24 =
      bipAad link.cipher.micLen (withMme link frame n) := by
  have hzero := micField_zero link.cipher hn
  rw [withMme_eq, hzero, mme_aad hframe (length_replicate ..)]
  have hbyte : ∀ i < 24, byteAt (frame ++ mmeHead link n ++
      replicate link.cipher.micLen 0) i = byteAt frame i := by
    intro i hi
    rw [append_assoc]
    exact byteAt_append_lt (by omega)
  have haddrs : slice (frame ++ mmeHead link n ++ replicate link.cipher.micLen 0) 4 18 =
      slice frame 4 18 := by
    rw [append_assoc]
    exact slice_append_left _ _ (by omega)
  rw [hbyte 0 (by decide), hbyte 1 (by decide), haddrs,
    drop_append_of_le_length (by rw [length_append]; omega),
    drop_append_of_le_length hframe]
  simp only [append_assoc]

end

/-! ## The frame in transit -/

lemma byteAt_set (hframe : 24 ≤ frame.length) :
    byteAt (frame.set 1 b) i = if i = 1 then b else byteAt frame i := by
  unfold byteAt
  by_cases hi : i = 1
  · subst hi
    rw [if_pos rfl, getD_eq_getElem _ _ (by rw [length_set]; omega),
      getElem_set_self]
  · rw [if_neg hi, getD_eq_getElem?_getD, getD_eq_getElem?_getD,
      getElem?_set_ne (Ne.symm hi)]

lemma slice_set {k : ℕ} (hk : 2 ≤ k) : slice (frame.set 1 b) k n = slice frame k n := by
  unfold slice
  rw [drop_set_of_lt (by omega)]

variable {bc : BipCrypto}

lemma bipMicAt_set {mic' key : List UInt8} (hframe : 24 ≤ frame.length)
    (hb : b &&& 0xc7 = byteAt frame 1 &&& 0xc7) (hmic : mic.length = link.cipher.micLen)
    (hmic' : mic'.length = link.cipher.micLen) :
    rtwCalculateBipMicAt bc link.cipher (frame.set 1 b ++ mmeHead link n ++ mic)
        (frame.set 1 b ++ mmeHead link n ++ mic).length key
        (bipAad link.cipher.micLen (frame.set 1 b ++ mmeHead link n ++ mic)) =
      rtwCalculateBipMicAt bc link.cipher (frame ++ mmeHead link n ++ mic')
        (frame ++ mmeHead link n ++ mic').length key
        (bipAad link.cipher.micLen (frame ++ mmeHead link n ++ mic')) := by
  have hset : 24 ≤ (frame.set 1 b).length := by
    rw [length_set]
    exact hframe
  have haad : bipAad link.cipher.micLen (frame.set 1 b ++ mmeHead link n ++ mic) =
      bipAad link.cipher.micLen (frame ++ mmeHead link n ++ mic') := by
    rw [mme_aad hset hmic, mme_aad hframe hmic', byteAt_set hframe, byteAt_set hframe,
      slice_set (by decide), drop_set_of_lt (by decide), if_neg (by decide), if_pos rfl, hb]
  have hnonce : link.cipher.micLen = 16 →
      bipNonceAt (frame.set 1 b ++ mmeHead link n ++ mic)
          (frame.set 1 b ++ mmeHead link n ++ mic).length =
        bipNonceAt (frame ++ mmeHead link n ++ mic') (frame ++ mmeHead link n ++ mic').length := by
    intro hlen
    rw [mme_nonce hset (hmic.trans hlen), mme_nonce hframe (hmic'.trans hlen)]
    unfold getAddr2
    rw [slice_set (by decide)]
  rw [haad]
  unfold rtwCalculateBipMicAt
  cases hcipher : link.cipher with
  | cmac128 => rfl
  | cmac256 => rfl
  | gmac128 => rw [hnonce (by rw [hcipher]; rfl)]
  | gmac256 => rw [hnonce (by rw [hcipher]; rfl)]
  | other => rfl

/-! ## Protection and verification -/

structure BipFrame (frame : List UInt8) : Prop where
  header : 24 ≤ frame.length
  group : isMcast (getAddr1 frame) = true
  robust : getFrameSubType frame = wifiDeauth ∨ getFrameSubType frame = wifiDisassoc ∨
    getFrameSubType frame = wifiAction ∧ categoryIsNonRobust (byteAt frame 24) = false ∧
      categoryIsGroupPrivacy (byteAt frame 24) = false

structure BipCrypto.Works (bc : BipCrypto) : Prop where
  omac1 : ∀ key data, ∃ mic, bc.omac1 key data = some mic ∧ mic.length = 16
  gmac : ∀ key nonce data, ∃ mic, bc.gmac key nonce data = some mic ∧ mic.length = 16

lemma BipCrypto.Works.computes (h : bc.Works) (hcipher : link.cipher ≠ .other)
    (frame : List UInt8) (len : ℕ) (key data : List UInt8) :
    ∃ mic, rtwCalculateBipMicAt bc link.cipher frame len key data = some mic ∧
      mic.length = 16 := by
  unfold rtwCalculateBipMicAt
  cases hlink : link.cipher with
  | cmac128 => exact h.omac1 _ _
  | cmac256 => exact h.omac1 _ _
  | gmac128 => exact h.gmac _ _ _
  | gmac256 => exact h.gmac _ _ _
  | other => exact absurd hlink hcipher

lemma BipFrame.coalesce (h : BipFrame frame) (link : BipLink) (sw : SwCrypt) :
    rtwMgmtXmitframeCoalesce bc link sw true frame txpn = bipCoalesce bc link sw frame txpn := by
  unfold rtwMgmtXmitframeCoalesce
  simp only
  rcases h.robust with hsub | hsub | ⟨hsub, hrobust, hprivacy⟩
  · rw [hsub, if_neg (by decide), if_neg (by simp [wifiDeauth, wifiAction]), h.group]
    simp [wifiDeauth, wifiAction]
  · rw [hsub, if_neg (by decide), if_neg (by simp [wifiDisassoc, wifiAction]), h.group]
    simp [wifiDisassoc, wifiAction]
  · rw [hsub, hrobust, hprivacy, h.group]
    simp [wifiDeauth, wifiDisassoc, wifiAction]

variable (frame) in
lemma bipCoalesce_sent (hbc : bc.Works) (hcipher : link.cipher ≠ .other)
    (hinstalled : link.installed = true) {sw : SwCrypt} (hsw : bswenc sw link.cipher = true)
    (htxpn : txpn < 2 ^ 48) :
    ∃ mic, mic.length = link.cipher.micLen ∧
      bipCoalesce bc link sw frame txpn =
        .bip (frame ++ mmeHead link (txpn + 1) ++ mic) (txpn + 1) ∧
      ∃ full, mic = full.take link.cipher.micLen ∧
        rtwCalculateBipMicAt bc link.cipher (withMme link frame (txpn + 1))
          (withMme link frame (txpn + 1)).length link.key
          ([byteAt (withMme link frame (txpn + 1)) 0,
              byteAt (withMme link frame (txpn + 1)) 1 &&& 0xc7] ++
            slice (withMme link frame (txpn + 1)) 4 18 ++
            (withMme link frame (txpn + 1)).drop 24) = some full := by
  obtain ⟨full, hfull, hlen⟩ := hbc.computes hcipher (withMme link frame (txpn + 1))
    (withMme link frame (txpn + 1)).length link.key
    ([byteAt (withMme link frame (txpn + 1)) 0,
        byteAt (withMme link frame (txpn + 1)) 1 &&& 0xc7] ++
      slice (withMme link frame (txpn + 1)) 4 18 ++ (withMme link frame (txpn + 1)).drop 24)
  obtain ⟨-, -, hsize⟩ := micLen_cases link.cipher
  have hfield := length_micField (n := txpn + 1) link.cipher
  have hhead : (withMme link frame (txpn + 1)).take
      ((withMme link frame (txpn + 1)).length - link.cipher.micLen) =
        frame ++ mmeHead link (txpn + 1) := by
    rw [withMme_eq, length_append, hfield, Nat.add_sub_cancel, take_left]
  refine ⟨full.take link.cipher.micLen, ?_, ?_, full, rfl, hfull⟩
  · rw [length_take]
    omega
  · unfold bipCoalesce
    rw [Nat.mod_eq_of_lt (show txpn + 1 < 2 ^ 64 by omega)]
    simp only [hinstalled, hsw, Bool.not_true, Bool.false_eq_true, if_false, hfull, hhead]

lemma mme_parts (frame : List UInt8) (hkeyid : link.keyid < 2 ^ 8)
    (hmic : mic.length = link.cipher.micLen) (hn : n < 2 ^ 48) :
    (frame ++ mmeHead link n ++ mic).length = frame.length + link.cipher.mmeLen ∧
      (frame ++ mmeHead link n ++ mic).length - link.cipher.mmeLen = frame.length ∧
      byteAt (frame ++ mmeHead link n ++ mic) frame.length = 76 ∧
      le16At (frame ++ mmeHead link n ++ mic) (frame.length + 2) = link.keyid ∧
      le48At (frame ++ mmeHead link n ++ mic) (frame.length + 4) = n := by
  obtain ⟨hmme, -, -⟩ := micLen_cases link.cipher
  have htotal : (frame ++ mmeHead link n ++ mic).length =
      frame.length + link.cipher.mmeLen := by
    rw [length_append, length_append, length_mmeHead, hmic]
    omega
  exact ⟨htotal, by omega, mme_id, mme_keyid hkeyid, mme_ipn.trans (Nat.mod_eq_of_lt hn)⟩

lemma bipVerify_fresh {full : List UInt8}
    (hframe : 24 ≤ frame.length) (hkeyid : link.keyid < 2 ^ 8)
    (hmic : mic.length = link.cipher.micLen) (hn : n < 2 ^ 48) (hipn : ipn < n)
    (hlen : (frame ++ mmeHead link n ++ mic).length < 2 ^ 16)
    (hfull : rtwCalculateBipMicAt bc link.cipher (frame ++ mmeHead link n ++ mic)
      (frame ++ mmeHead link n ++ mic).length link.key
      (bipAad link.cipher.micLen (frame ++ mmeHead link n ++ mic)) = some full)
    (htake : full.take link.cipher.micLen = mic) :
    rtwBipVerifyAt bc link (frame ++ mmeHead link n ++ mic)
      (frame ++ mmeHead link n ++ mic).length ipn bdecrypted true = (.success, n) := by
  obtain ⟨hmme, -, -⟩ := micLen_cases link.cipher
  obtain ⟨htotal, hplace, hid, hkey, hpn⟩ := mme_parts frame hkeyid hmic hn
  have hend := @mme_mic link frame mic n link.cipher.micLen hmic
  unfold rtwBipVerifyAt
  simp only
  rw [if_neg (by omega), if_neg (by omega), hplace, hid, hkey, hpn, if_neg (by simp),
    if_neg (by simp), if_neg (by omega), Nat.mod_eq_of_lt hlen, hfull]
  simp only [Bool.not_true, Bool.false_eq_true, if_false]
  rw [htake, if_pos hend.symm, ite_self]

lemma bipVerify_replay (hframe : 24 ≤ frame.length)
    (hkeyid : link.keyid < 2 ^ 8) (hmic : mic.length = link.cipher.micLen) (hn : n < 2 ^ 48)
    (hipn : n ≤ ipn) :
    rtwBipVerifyAt bc link (frame ++ mmeHead link n ++ mic)
      (frame ++ mmeHead link n ++ mic).length ipn bdecrypted true = (.fail, ipn) := by
  obtain ⟨hmme, -, -⟩ := micLen_cases link.cipher
  obtain ⟨htotal, hplace, hid, hkey, hpn⟩ := mme_parts frame hkeyid hmic hn
  unfold rtwBipVerifyAt
  simp only
  rw [if_neg (by omega), if_neg (by omega), hplace, hid, hkey, hpn, if_neg (by simp),
    if_neg (by simp), if_pos hipn]

/-- A frame that is protected in software is accepted whatever has become of its unprotected
bits, once, and without its element it is the frame that was to be sent. -/
theorem bip_protect_verify (hbc : bc.Works) (hinstalled : link.installed = true)
    (hcipher : link.cipher ≠ .other) (hkeyid : link.keyid < 2 ^ 8) {sw : SwCrypt}
    (hsw : bswenc sw link.cipher = true) (hframe : BipFrame frame)
    (hlen : frame.length + link.cipher.mmeLen < 2 ^ 16) (htxpn : txpn < 2 ^ 48) :
    ∃ sent, rtwMgmtXmitframeCoalesce bc link sw true frame txpn = .bip sent (txpn + 1) ∧
      ∀ b bdecrypted, b &&& 0xc7 = byteAt sent 1 &&& 0xc7 →
        ((sent.set 1 b).take ((sent.set 1 b).length - link.cipher.mmeLen)).drop 24 =
          frame.drop 24 ∧
        ∀ ipn < (txpn + 1) % 2 ^ 48,
          rtwBipVerifyAt bc link (sent.set 1 b) (sent.set 1 b).length ipn bdecrypted true =
            (.success, (txpn + 1) % 2 ^ 48) ∧
          rtwBipVerifyAt bc link (sent.set 1 b) (sent.set 1 b).length ((txpn + 1) % 2 ^ 48)
            bdecrypted true = (.fail, (txpn + 1) % 2 ^ 48) := by
  obtain ⟨hmme, -, -⟩ := micLen_cases link.cipher
  obtain ⟨mic, hmic, hsent, full, htake, hfull⟩ :=
    bipCoalesce_sent frame hbc hcipher hinstalled hsw htxpn
  have hheader := hframe.header
  refine ⟨_, (hframe.coalesce link sw).trans hsent, fun b bdecrypted hb => ?_⟩
  have hset : (frame ++ mmeHead link (txpn + 1) ++ mic).set 1 b =
      frame.set 1 b ++ mmeHead link (txpn + 1) ++ mic := by
    rw [append_assoc, set_append_left _ _ (by omega), ← append_assoc]
  have hbyte : byteAt (frame ++ mmeHead link (txpn + 1) ++ mic) 1 = byteAt frame 1 := by
    rw [append_assoc]
    exact byteAt_append_lt (by omega)
  have htotal : (frame.set 1 b ++ mmeHead link (txpn + 1) ++ mic).length =
      frame.length + link.cipher.mmeLen := by
    rw [length_append, length_append, length_mmeHead, hmic, length_set]
    omega
  have hheader' : 24 ≤ (frame.set 1 b).length := by
    rw [length_set]
    exact hheader
  rw [hbyte] at hb
  rw [hset]
  refine ⟨?_, fun ipn hipn => ?_⟩
  · have hkeep : (frame.set 1 b ++ mmeHead link (txpn + 1) ++ mic).length - link.cipher.mmeLen =
        (frame.set 1 b).length := by
      rw [length_set]
      omega
    rw [hkeep, append_assoc, take_left, drop_set_of_lt (by decide)]
  · have hn : txpn + 1 < 2 ^ 48 := by
      by_contra hge
      obtain rfl : txpn = 2 ^ 48 - 1 := by omega
      exact absurd hipn (Nat.not_lt_zero _)
    rw [Nat.mod_eq_of_lt hn] at hipn ⊢
    rw [withMme_aad hheader hn, withMme_eq, ← bipMicAt_set hheader hb hmic
      (length_micField link.cipher)] at hfull
    exact ⟨bipVerify_fresh hheader' hkeyid hmic hn hipn (by omega) hfull htake.symm,
      bipVerify_replay hheader' hkeyid hmic hn le_rfl⟩

end

def deauthFrame : List UInt8 :=
  [0xc0, 0x00, 0x00, 0x00, 0xff, 0xff, 0xff, 0xff, 0xff, 0xff, 0x02, 0x00, 0x00, 0x00, 0x00, 0x01,
    0x02, 0x00, 0x00, 0x00, 0x00, 0x01, 0x10, 0x00, 0x03, 0x00]

def deauthMic : List UInt8 :=
  [0xe1, 0xaa, 0x85, 0x0e, 0x2a, 0xec, 0xea, 0xdc, 0x8b, 0xa1, 0x21, 0x73, 0x66, 0xce, 0x70, 0xa0]

def deauthCrypto : BipCrypto := ⟨fun _ _ => some deauthMic, fun _ _ _ => some deauthMic⟩

def deauthLink : BipLink := ⟨true, .cmac128, (range 16).map UInt8.ofNat, 4⟩

lemma deauthFrame_bip : BipFrame deauthFrame := ⟨by decide, by decide, Or.inl (by decide)⟩

theorem bip_protect_verify_deauth : ∃ sent,
    rtwMgmtXmitframeCoalesce deauthCrypto deauthLink ⟨true, false⟩ true deauthFrame 0 = .bip sent 1 ∧
    rtwBipVerifyAt deauthCrypto deauthLink (sent.set 1 0x08) (sent.set 1 0x08).length 0 false true =
      (.success, 1) := by
  have hworks : deauthCrypto.Works :=
    ⟨fun _ _ => ⟨deauthMic, rfl, rfl⟩, fun _ _ _ => ⟨deauthMic, rfl, rfl⟩⟩
  obtain ⟨sent, hsent, hverify⟩ := @bip_protect_verify deauthLink deauthFrame 0 deauthCrypto
    hworks rfl (by decide) (by decide) ⟨true, false⟩ rfl deauthFrame_bip (by decide) (by decide)
  refine ⟨sent, hsent, ((hverify 0x08 false ?_).2 0 (by decide)).1⟩
  obtain ⟨mic, -, hsent', -⟩ := @bipCoalesce_sent deauthLink deauthFrame 0 deauthCrypto hworks
    (by decide) rfl ⟨true, false⟩ rfl (by decide)
  have heq := hsent.symm.trans ((deauthFrame_bip.coalesce deauthLink _).trans hsent')
  obtain rfl := (MgmtCoalesce.bip.inj heq).1
  have hmask : (0x08 : UInt8) &&& 0xc7 = 0x00 &&& 0xc7 := by decide
  exact hmask

end Rtl8831.Core
