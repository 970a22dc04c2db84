import Rtl8831.Core.RecvPath

/-!
# Protected management frames

`validate_mgmt_protect` decides which management frames a link with a BIP key
takes from a station with management frame protection.  Group-addressed frames
are checked by `rtw_bip_verify`, protected ones by `decryptor`.
-/

namespace Rtl8831.Core

open List

/-! ## The integrity check of group-addressed frames -/

/-- `dot11wCipher`; `other` is anything that `rtw_calculate_bip_mic` refuses. -/
inductive BipCipher
  | cmac128
  | gmac128
  | gmac256
  | cmac256
  | other
  deriving DecidableEq

def BipCipher.micLen : BipCipher → ℕ
  | .cmac128 => 8
  | _ => 16

/-- `mme_offset` -/
def BipCipher.mmeLen : BipCipher → ℕ
  | .cmac128 => 18
  | _ => 26

/-- `omac1_aes_128`, `omac1_aes_256` and `aes_gmac`, which may fail. -/
structure BipCrypto where
  omac1 : List UInt8 → List UInt8 → Option (List UInt8)
  gmac : List UInt8 → List UInt8 → List UInt8 → Option (List UInt8)

/-- The nonce of `_bip_gcmp_protect`: the second address, then the six bytes in
front of the MIC, last one first. -/
def bipNonce (frame : List UInt8) : List UInt8 :=
  getAddr2 frame ++ (slice frame (frame.length - 16 - 6) 6).reverse

def rtwCalculateBipMic (bc : BipCrypto) (gmcs : BipCipher) (frame key data : List UInt8) :
    Option (List UInt8) :=
  match gmcs with
  | .cmac128 => bc.omac1 (key.take 16) data
  | .cmac256 => bc.omac1 (key.take 32) data
  | .gmac128 => bc.gmac (key.take 16) (bipNonce frame) data
  | .gmac256 => bc.gmac (key.take 32) (bipNonce frame) data
  | .other => none

/-- `BIP_AAD`: the frame control field without retry, power management and more
data, the addresses, the body, and zeros for the MIC. -/
def bipAad (micLen : ℕ) (frame : List UInt8) : List UInt8 :=
  [byteAt frame 0, byteAt frame 1 &&& 0xc7] ++ slice frame 4 18 ++
    slice frame 24 (frame.length - 24 - micLen) ++ replicate micLen 0

def bipMicOk (bc : BipCrypto) (gmcs : BipCipher) (key frame : List UInt8) : Bool :=
  match rtwCalculateBipMic bc gmcs frame key (bipAad gmcs.micLen frame) with
  | none => false
  | some mic => decide (mic.take gmcs.micLen = frame.drop (frame.length - gmcs.micLen))

def le48At (p : List UInt8) (i : ℕ) : ℕ :=
  le16At p i + 65536 * le16At p (i + 2) + 4294967296 * le16At p (i + 4)

/-- `_SUCCESS`, `_FAIL` and `RTW_RX_HANDLED` -/
inductive BipVerdict
  | success
  | fail
  | handled
  deriving DecidableEq

/-- What a link knows of BIP: `binstallBIPkey`, the cipher, the key in use and
its number. -/
structure BipLink where
  installed : Bool
  cipher : BipCipher
  key : List UInt8
  keyid : ℕ

abbrev LenDiff := ℕ × ℕ

/-- `rtw_bip_verify`, with the IPN it leaves and the differences it computes. -/
def rtwBipVerify (bc : BipCrypto) (link : BipLink) (frame : List UInt8) (ipn : ℕ)
    (bdecrypted mallocOk : Bool) : BipVerdict × ℕ × List LenDiff :=
  let flen := frame.length
  let micLen := link.cipher.micLen
  if flen < 24 then (.handled, ipn, [])
  else if flen - 24 < micLen then (.handled, ipn, [(flen, 24)])
  else
    let lens := [(flen, 24), (flen, link.cipher.mmeLen), (flen - 24, micLen), (flen, micLen)]
    let mme := flen - link.cipher.mmeLen
    if byteAt frame mme ≠ 76 then (.handled, ipn, lens)
    else if le16At frame (mme + 2) ≠ link.keyid then (.fail, ipn, lens)
    else if le48At frame (mme + 4) ≤ ipn then (.fail, ipn, lens)
    else if bdecrypted then (.success, le48At frame (mme + 4), lens)
    else if !mallocOk then (.fail, ipn, lens)
    else if bipMicOk bc link.cipher link.key frame then
      (.success, le48At frame (mme + 4), lens)
    else (.fail, ipn, lens)

/-! ## Management frames -/

def wifiDisassoc : ℕ := 0xa0

def wifiDeauth : ℕ := 0xc0

def wifiAction : ℕ := 0xd0

def categoryIsGroupPrivacy (cat : UInt8) : Bool := cat = 13 || cat = 14

def categoryIsNonRobust (cat : UInt8) : Bool :=
  cat = 4 || cat = 7 || cat = 11 || cat = 15 || cat = 21 || cat = 127

def categoryIsRobust (cat : UInt8) : Bool := !categoryIsNonRobust cat

structure MgmtSta where
  mfp : Bool
  pairwiseKeyInstalled : Bool
  dot118021XPrivacy : SecurityType

/-- Where `validate_mgmt_protect` goes with an unprotected frame. -/
inductive MgmtGate
  | exit
  | fail
  | bipVerify
  deriving DecidableEq

def mgmtGate (sta : MgmtSta) (frame : List UInt8) : MgmtGate :=
  let subtype := getFrameSubType frame
  let category := if subtype = wifiAction then byteAt frame 24 else 0xff
  if isMcast (getAddr1 frame) then
    if subtype = wifiAction ∧ categoryIsGroupPrivacy category then .fail
    else if subtype = wifiAction ∧ categoryIsRobust category then .bipVerify
    else if subtype = wifiDeauth ∨ subtype = wifiDisassoc then .bipVerify
    else .exit
  else if subtype = wifiDeauth ∨ subtype = wifiDisassoc then .fail
  else if subtype = wifiAction ∧ categoryIsRobust category ∧ sta.pairwiseKeyInstalled then .fail
  else .exit

/-- The attributes set for `decryptor`. -/
def mgmtCipher (sta : MgmtSta) (f : RecvFrame) : RecvFrame :=
  { f with
    attrib :=
      { f.attrib with
        encrypt := sta.dot118021XPrivacy
        hdrlen := 24
        ivLen := sta.dot118021XPrivacy.ivLen
        icvLen := sta.dot118021XPrivacy.icvLen
        ra := getAddr1 f.data
        ta := getAddr2 f.data } }

def decryptLens (f : RecvFrame) : List LenDiff :=
  if f.attrib.encrypt ≠ .noPrivacy ∧ f.attrib.bdecrypted = false then
    match f.attrib.encrypt with
    | .wep40 | .wep104 | .tkip =>
      [(f.data.length, f.attrib.hdrlen + f.attrib.ivLen),
        (f.data.length - f.attrib.hdrlen - f.attrib.ivLen, 4)]
    | .aes | .ccmp256 | .gcmp | .gcmp256 => [(f.data.length, f.attrib.hdrlen)]
    | _ => []
  else []

/-- The `n` bytes behind the IV moved over it. -/
def dropIv (iv n : ℕ) (data : List UInt8) : List UInt8 :=
  data.take 24 ++ overwrite (data.drop 24) (slice data (24 + iv) n)

structure MgmtResult where
  success : Bool
  data : List UInt8
  pktLen : ℕ
  ipn : ℕ
  lens : List LenDiff

/-- The part for protected frames; `left` is what a failed decryption leaves in
the buffer.  `pkt_len` is the length of the frame, a 14-bit field of the
receive descriptor. -/
def mgmtDecrypt (cr : Crypto) (left : RecvFrame → List UInt8) (sta : MgmtSta) (ipn : ℕ)
    (mallocOk : Bool) (f : RecvFrame) : MgmtResult :=
  let g := mgmtCipher sta f
  let iv := g.attrib.ivLen
  let icv := g.attrib.icvLen
  let pktLen := f.data.length
  let dataLen := (pktLen + 2 ^ 32 - (24 + iv + icv)) % 2 ^ 32
  if !mallocOk then ⟨false, f.data, pktLen, ipn, [(pktLen, 24 + iv + icv)]⟩
  else
    let after := decryptor cr g
    let data := (after.map RecvFrame.data).getD (left g)
    { success := after.isSome
      data := dropIv iv dataLen data
      pktLen := (pktLen + 2 ^ 16 - (iv + icv)) % 2 ^ 16
      ipn
      lens := (pktLen, 24 + iv + icv) :: (pktLen, iv + icv) :: decryptLens g }

def validateMgmtProtect (bc : BipCrypto) (cr : Crypto) (left : RecvFrame → List UInt8)
    (link : BipLink) (sta : Option MgmtSta) (ipn : ℕ) (mallocOk : Bool) (f : RecvFrame) :
    MgmtResult :=
  let keep (success : Bool) : MgmtResult := ⟨success, f.data, f.data.length, ipn, []⟩
  if !link.installed then keep true
  else
    match sta.filter MgmtSta.mfp with
    | none => keep (!getPrivacy f.data)
    | some sta =>
      if getPrivacy f.data then mgmtDecrypt cr left sta ipn mallocOk f
      else
        match mgmtGate sta f.data with
        | .exit => keep true
        | .fail => keep false
        | .bipVerify =>
          let r := rtwBipVerify bc link f.data ipn f.attrib.bdecrypted mallocOk
          ⟨decide (r.1 = .success), f.data, f.data.length, r.2.1, r.2.2⟩

/-! ## What is asked of it -/

def mgmtRobust (frame : List UInt8) : Bool :=
  decide (getFrameSubType frame = wifiDeauth) || decide (getFrameSubType frame = wifiDisassoc) ||
    decide (getFrameSubType frame = wifiAction) && categoryIsRobust (byteAt frame 24)

structure MmeValid (bc : BipCrypto) (link : BipLink) (ipn : ℕ) (frame : List UInt8) : Prop where
  inside : 24 + link.cipher.mmeLen ≤ frame.length
  elementId : byteAt frame (frame.length - link.cipher.mmeLen) = 76
  elementLen : (byteAt frame (frame.length - link.cipher.mmeLen + 1)).toNat =
    link.cipher.mmeLen - 2
  keyid : le16At frame (frame.length - link.cipher.mmeLen + 2) = link.keyid
  fresh : ipn < le48At frame (frame.length - link.cipher.mmeLen + 4)
  mic : bipMicOk bc link.cipher link.key frame = true

section

variable (bc : BipCrypto) (cr : Crypto) (left : RecvFrame → List UInt8) (link : BipLink)
  (sta : MgmtSta) (ipn : ℕ) (mallocOk : Bool) (f : RecvFrame)

structure MgmtProtected (r : MgmtResult) : Prop where
  unicast : r.success = true → mgmtRobust r.data = true → isMcast (getAddr1 f.data) = false →
    sta.pairwiseKeyInstalled = true →
    getPrivacy f.data = true ∧ (decryptor cr (mgmtCipher sta f)).isSome = true
  group : r.success = true → mgmtRobust r.data = true → isMcast (getAddr1 f.data) = true →
    MmeValid bc link ipn f.data
  ipnKept : r.ipn ≠ ipn → r.success = true ∧ mgmtRobust f.data = true ∧
    isMcast (getAddr1 f.data) = true ∧ MmeValid bc link ipn f.data
  noWrap : ∀ d ∈ r.lens, d.2 ≤ d.1
  kept : getPrivacy f.data = true → (decryptor cr (mgmtCipher sta f)).isSome = false →
    r.data = f.data ∧ r.pktLen = f.data.length

/-- A frame that `rtw_bip_verify` takes: it looks as if an element stood at the
end, and the hardware or the MIC vouches for it. -/
structure MmeTaken : Prop where
  long : 24 + link.cipher.micLen ≤ f.data.length
  elementId : byteAt f.data (f.data.length - link.cipher.mmeLen) = 76
  keyid : le16At f.data (f.data.length - link.cipher.mmeLen + 2) = link.keyid
  fresh : ipn < le48At f.data (f.data.length - link.cipher.mmeLen + 4)
  vouched : f.attrib.bdecrypted = true ∨
    mallocOk = true ∧ bipMicOk bc link.cipher link.key f.data = true

def mgmtPlain : Option (List UInt8) :=
  (decryptor cr (mgmtCipher sta f)).map fun g =>
    dropIv sta.dot118021XPrivacy.ivLen
      ((f.data.length + 2 ^ 32 -
        (24 + sta.dot118021XPrivacy.ivLen + sta.dot118021XPrivacy.icvLen)) % 2 ^ 32) g.data

structure MgmtSafe : Prop where
  long : getPrivacy f.data = true →
    24 + sta.dot118021XPrivacy.ivLen + sta.dot118021XPrivacy.icvLen ≤ f.data.length
  decrypts : getPrivacy f.data = true → mallocOk = true → (mgmtPlain cr sta f).isSome = true
  unicast : getPrivacy f.data = true → mallocOk = true → isMcast (getAddr1 f.data) = true →
    ∀ d, mgmtPlain cr sta f = some d → mgmtRobust d = true → MmeValid bc link ipn f.data
  element : getPrivacy f.data = false → mgmtGate sta f.data = .bipVerify →
    MmeTaken bc link ipn mallocOk f →
    24 + link.cipher.mmeLen ≤ f.data.length ∧
      (byteAt f.data (f.data.length - link.cipher.mmeLen + 1)).toNat = link.cipher.mmeLen - 2 ∧
      bipMicOk bc link.cipher link.key f.data = true

end

/-! ### `rtw_bip_verify` -/

section

variable {bc : BipCrypto} {cr : Crypto} {left : RecvFrame → List UInt8} {link : BipLink}
  {sta : MgmtSta} {ipn : ℕ} {mallocOk : Bool} {f : RecvFrame}

lemma BipCipher.mmeLen_le (c : BipCipher) : c.mmeLen ≤ 24 + c.micLen := by
  cases c <;> decide

lemma rtwBipVerify_cases :
    MmeTaken bc link ipn mallocOk f ∧
        (rtwBipVerify bc link f.data ipn f.attrib.bdecrypted mallocOk).1 = .success ∨
      ¬ MmeTaken bc link ipn mallocOk f ∧
        (rtwBipVerify bc link f.data ipn f.attrib.bdecrypted mallocOk).1 ≠ .success ∧
        (rtwBipVerify bc link f.data ipn f.attrib.bdecrypted mallocOk).2.1 = ipn := by
  dsimp only [rtwBipVerify]
  by_cases h24 : f.data.length < 24
  · rw [if_pos h24]
    exact .inr ⟨fun h => absurd h.long (by omega), by simp, rfl⟩
  rw [if_neg h24]
  by_cases hmic : f.data.length - 24 < link.cipher.micLen
  · rw [if_pos hmic]
    exact .inr ⟨fun h => absurd h.long (by omega), by simp, rfl⟩
  rw [if_neg hmic]
  by_cases hid : byteAt f.data (f.data.length - link.cipher.mmeLen) = 76
  · rw [if_neg (not_not.2 hid)]
    by_cases hkey : le16At f.data (f.data.length - link.cipher.mmeLen + 2) = link.keyid
    · rw [if_neg (not_not.2 hkey)]
      by_cases hipn : le48At f.data (f.data.length - link.cipher.mmeLen + 4) ≤ ipn
      · rw [if_pos hipn]
        exact .inr ⟨fun h => absurd h.fresh (by omega), by simp, rfl⟩
      rw [if_neg hipn]
      have htaken (hv : f.attrib.bdecrypted = true ∨
          mallocOk = true ∧ bipMicOk bc link.cipher link.key f.data = true) :
          MmeTaken bc link ipn mallocOk f := ⟨by omega, hid, hkey, by omega, hv⟩
      by_cases hdec : f.attrib.bdecrypted = true
      · rw [if_pos hdec]
        exact .inl ⟨htaken (.inl hdec), rfl⟩
      rw [if_neg hdec]
      by_cases hmalloc : mallocOk = true
      · rw [if_neg (by simpa using hmalloc)]
        by_cases hok : bipMicOk bc link.cipher link.key f.data = true
        · rw [if_pos hok]
          exact .inl ⟨htaken (.inr ⟨hmalloc, hok⟩), rfl⟩
        · rw [if_neg hok]
          refine .inr ⟨fun h => ?_, by simp, rfl⟩
          exact h.vouched.elim hdec fun hv => hok hv.2
      · rw [if_pos (by simpa using hmalloc)]
        refine .inr ⟨fun h => ?_, by simp, rfl⟩
        exact h.vouched.elim hdec fun hv => hmalloc hv.1
    · rw [if_pos hkey]
      exact .inr ⟨fun h => hkey h.keyid, by simp, rfl⟩
  · rw [if_pos hid]
    exact .inr ⟨fun h => hid h.elementId, by simp, rfl⟩

lemma rtwBipVerify_noWrap :
    ∀ d ∈ (rtwBipVerify bc link f.data ipn f.attrib.bdecrypted mallocOk).2.2, d.2 ≤ d.1 := by
  have hmme := link.cipher.mmeLen_le
  dsimp only [rtwBipVerify]
  by_cases h24 : f.data.length < 24
  · rw [if_pos h24]
    simp
  rw [if_neg h24]
  by_cases hmic : f.data.length - 24 < link.cipher.micLen
  · rw [if_pos hmic]
    simpa using Nat.le_of_not_lt h24
  rw [if_neg hmic]
  have hall : ∀ d ∈ [(f.data.length, 24), (f.data.length, link.cipher.mmeLen),
      (f.data.length - 24, link.cipher.micLen), (f.data.length, link.cipher.micLen)],
      d.2 ≤ d.1 := by
    simp only [mem_cons, not_mem_nil, or_false, forall_eq_or_imp, forall_eq]
    omega
  repeat' split
  all_goals exact hall

/-! ### The ways of a frame -/

variable {frame : List UInt8}

lemma mgmtGate_bipVerify (h : mgmtGate sta frame = .bipVerify) :
    isMcast (getAddr1 frame) = true ∧ mgmtRobust frame = true := by
  by_cases hm : isMcast (getAddr1 frame) = true
  · refine ⟨hm, ?_⟩
    by_cases ha : getFrameSubType frame = wifiAction
    · by_contra hr
      simp [mgmtGate, mgmtRobust, hm, ha, wifiAction, wifiDeauth, wifiDisassoc] at h hr
      simp only [hr, Bool.false_eq_true, ↓reduceIte] at h
      split at h
      · cases h
      · cases h
    · by_contra hr
      simp_all [mgmtGate, mgmtRobust]
  · by_cases ha : getFrameSubType frame = wifiAction <;> grind [mgmtGate]

lemma mgmtGate_exit (h : mgmtGate sta frame = .exit)
    (hr : mgmtRobust frame = true) :
    isMcast (getAddr1 frame) = false ∧ sta.pairwiseKeyInstalled = false := by
  by_cases ha : getFrameSubType frame = wifiAction
  · have hrobust : categoryIsRobust (byteAt frame 24) = true := by
      simpa [mgmtRobust, ha, wifiAction, wifiDeauth, wifiDisassoc] using hr
    grind [mgmtGate]
  · have hde : getFrameSubType frame = wifiDeauth ∨ getFrameSubType frame = wifiDisassoc := by
      simpa [mgmtRobust, ha] using hr
    grind [mgmtGate]

lemma ivLen_pos_of_decryptor_none {g : RecvFrame} (h : decryptor cr g = none) :
    0 < g.attrib.encrypt.ivLen := by
  unfold decryptor at h
  split at h
  · cases hc : g.attrib.encrypt <;> simp_all [SecurityType.ivLen]
  · cases h

lemma decryptLens_noWrap
    (hlong : 24 + sta.dot118021XPrivacy.ivLen + sta.dot118021XPrivacy.icvLen ≤ f.data.length) :
    ∀ d ∈ decryptLens (mgmtCipher sta f), d.2 ≤ d.1 := by
  unfold decryptLens
  change ∀ d ∈ if sta.dot118021XPrivacy ≠ .noPrivacy ∧ f.attrib.bdecrypted = false then _ else _, _
  split
  · change ∀ d ∈ (match sta.dot118021XPrivacy with
      | .wep40 | .wep104 | .tkip => [(f.data.length, 24 + sta.dot118021XPrivacy.ivLen),
          (f.data.length - 24 - sta.dot118021XPrivacy.ivLen, 4)]
      | .aes | .ccmp256 | .gcmp | .gcmp256 => [(f.data.length, 24)]
      | _ => []), d.2 ≤ d.1
    cases hc : sta.dot118021XPrivacy <;>
      simp only [hc, SecurityType.ivLen, SecurityType.icvLen] at hlong <;>
      simp [SecurityType.ivLen] <;> omega
  · simp

end

lemma validateMgmtProtect_mfp (bc : BipCrypto) (cr : Crypto) (left : RecvFrame → List UInt8)
    {link : BipLink} {sta : MgmtSta} (hbip : link.installed = true) (hmfp : sta.mfp = true)
    (ipn : ℕ) (mallocOk : Bool) (f : RecvFrame) :
    validateMgmtProtect bc cr left link (some sta) ipn mallocOk f =
      if getPrivacy f.data then mgmtDecrypt cr left sta ipn mallocOk f
      else
        match mgmtGate sta f.data with
        | .exit => ⟨true, f.data, f.data.length, ipn, []⟩
        | .fail => ⟨false, f.data, f.data.length, ipn, []⟩
        | .bipVerify =>
          let r := rtwBipVerify bc link f.data ipn f.attrib.bdecrypted mallocOk
          ⟨decide (r.1 = .success), f.data, f.data.length, r.2.1, r.2.2⟩ := by
  unfold validateMgmtProtect
  simp [hbip, Option.filter, hmfp]

section

variable {bc : BipCrypto} {cr : Crypto} {left : RecvFrame → List UInt8} {link : BipLink}
  {sta : MgmtSta} {ipn : ℕ} {mallocOk : Bool} {f : RecvFrame}

lemma mgmtDecrypt_protected_iff (hp : getPrivacy f.data = true) :
    MgmtProtected bc cr link sta ipn f (mgmtDecrypt cr left sta ipn mallocOk f) ↔
      MgmtSafe bc cr link sta ipn mallocOk f := by
  cases hmalloc : mallocOk with
  | false =>
    constructor
    · intro h
      exact ⟨fun _ => h.noWrap _ (mem_singleton_self _), fun _ hm => (by cases hm),
        fun _ hm => (by cases hm), fun hn => by simp [hp] at hn⟩
    · intro h
      refine ⟨fun hs => (by cases hs), fun hs => (by cases hs), fun hi => absurd rfl hi, ?_,
        fun _ _ => ⟨rfl, rfl⟩⟩
      intro d hd
      rw [mem_singleton.1 hd]
      exact h.long hp
  | true =>
    cases hdec : decryptor cr (mgmtCipher sta f) with
    | none =>
      have hiv : 0 < sta.dot118021XPrivacy.ivLen := ivLen_pos_of_decryptor_none hdec
      constructor
      · intro h
        have hlen : (f.data.length + 2 ^ 16 - (sta.dot118021XPrivacy.ivLen +
            sta.dot118021XPrivacy.icvLen)) % 2 ^ 16 = f.data.length :=
          (h.kept hp (by rw [hdec]; rfl)).2
        have hle : sta.dot118021XPrivacy.ivLen ≤ 18 ∧ sta.dot118021XPrivacy.icvLen ≤ 16 := by
          cases sta.dot118021XPrivacy <;> decide
        omega
      · intro h
        have hsome := h.decrypts hp rfl
        simp [mgmtPlain, hdec] at hsome
    | some g =>
      have hplain : mgmtPlain cr sta f =
          some (mgmtDecrypt cr left sta ipn true f).data := by
        simp only [mgmtPlain, mgmtDecrypt, hdec]
        rfl
      have hok : (mgmtDecrypt cr left sta ipn true f).success = true := by
        simp only [mgmtDecrypt, hdec]
        rfl
      constructor
      · intro h
        refine ⟨fun _ => h.noWrap _ mem_cons_self, fun _ _ => (by rw [hplain]; rfl), ?_,
          fun hn => by simp [hp] at hn⟩
        intro _ _ hm d hd hr
        obtain rfl := Option.some.inj (hplain.symm.trans hd)
        exact h.group hok hr hm
      · intro h
        refine ⟨fun _ _ _ _ => ⟨hp, (by rw [hdec]; rfl)⟩, ?_, fun hi => absurd rfl hi, ?_, ?_⟩
        · intro _ hr hm
          exact h.unicast hp rfl hm _ hplain hr
        · have hlong := h.long hp
          intro d hd
          rcases mem_cons.1 hd with rfl | hd
          · exact hlong
          rcases mem_cons.1 hd with rfl | hd
          · change sta.dot118021XPrivacy.ivLen + sta.dot118021XPrivacy.icvLen ≤ f.data.length
            omega
          · exact decryptLens_noWrap hlong d hd
        · intro _ hnone
          rw [hdec] at hnone
          cases hnone

lemma bipVerify_protected_iff (hp : getPrivacy f.data = false)
    (hgate : mgmtGate sta f.data = .bipVerify) :
    MgmtProtected bc cr link sta ipn f
        ⟨decide ((rtwBipVerify bc link f.data ipn f.attrib.bdecrypted mallocOk).1 = .success),
          f.data, f.data.length, (rtwBipVerify bc link f.data ipn f.attrib.bdecrypted mallocOk).2.1,
          (rtwBipVerify bc link f.data ipn f.attrib.bdecrypted mallocOk).2.2⟩ ↔
      MgmtSafe bc cr link sta ipn mallocOk f := by
  obtain ⟨hm, hr⟩ := mgmtGate_bipVerify hgate
  constructor
  · intro h
    refine ⟨fun hp' => (by simp [hp] at hp'), fun hp' => (by simp [hp] at hp'),
      fun hp' => (by simp [hp] at hp'), ?_⟩
    intro _ _ htaken
    rcases @rtwBipVerify_cases bc link ipn mallocOk f with ⟨-, hs⟩ | ⟨hno, -⟩
    · have hv := h.group (by simp [hs]) hr hm
      exact ⟨hv.inside, hv.elementLen, hv.mic⟩
    · exact absurd htaken hno
  · intro h
    have hvalid (ht : MmeTaken bc link ipn mallocOk f) : MmeValid bc link ipn f.data := by
      obtain ⟨hin, hlen, hmic⟩ := h.element hp hgate ht
      exact ⟨hin, ht.elementId, hlen, ht.keyid, ht.fresh, hmic⟩
    rcases @rtwBipVerify_cases bc link ipn mallocOk f with ⟨ht, hs⟩ | ⟨-, hs, hi⟩
    · exact ⟨fun _ _ hu => (by simp [hm] at hu), fun _ _ _ => hvalid ht,
        fun _ => ⟨by simp [hs], hr, hm, hvalid ht⟩, rtwBipVerify_noWrap, fun hp' => by simp [hp] at hp'⟩
    · exact ⟨fun hs' => (by simp [hs] at hs'), fun hs' => (by simp [hs] at hs'), fun hi' => absurd hi hi',
        rtwBipVerify_noWrap, fun hp' => by simp [hp] at hp'⟩

end

/-- On a link with a BIP key, `validate_mgmt_protect` keeps the promise for a
frame of a station with management frame protection exactly if the frame is
safe. -/
theorem mgmt_protect_iff (bc : BipCrypto) (cr : Crypto) (left : RecvFrame → List UInt8)
    (link : BipLink) (sta : MgmtSta) (ipn : ℕ) (mallocOk : Bool) (f : RecvFrame)
    (hbip : link.installed = true) (hmfp : sta.mfp = true) :
    MgmtProtected bc cr link sta ipn f
        (validateMgmtProtect bc cr left link (some sta) ipn mallocOk f) ↔
      MgmtSafe bc cr link sta ipn mallocOk f := by
  rw [validateMgmtProtect_mfp bc cr left hbip hmfp]
  cases hp : getPrivacy f.data with
  | true =>
    rw [if_pos rfl]
    exact mgmtDecrypt_protected_iff hp
  | false =>
    rw [if_neg (by decide)]
    have hsafe (hgate : mgmtGate sta f.data ≠ .bipVerify) :
        MgmtSafe bc cr link sta ipn mallocOk f :=
      ⟨fun hp' => (by simp [hp] at hp'), fun hp' => (by simp [hp] at hp'),
        fun hp' => (by simp [hp] at hp'), fun _ hg => absurd hg hgate⟩
    cases hgate : mgmtGate sta f.data with
    | exit =>
      refine iff_of_true ?_ (hsafe (by simp [hgate]))
      refine ⟨?_, ?_, fun hi => absurd rfl hi, by simp, fun hp' => by simp [hp] at hp'⟩
      · intro _ hr _ hkey
        rw [(mgmtGate_exit hgate hr).2] at hkey
        cases hkey
      · intro _ hr hm
        rw [(mgmtGate_exit hgate hr).1] at hm
        cases hm
    | fail =>
      refine iff_of_true ?_ (hsafe (by simp [hgate]))
      exact ⟨fun hs => (by cases hs), fun hs => (by cases hs), fun hi => absurd rfl hi, by simp,
        fun hp' => by simp [hp] at hp'⟩
    | bipVerify => exact bipVerify_protected_iff hp hgate

/-- A deauthentication frame that the hardware has decrypted. -/
theorem mgmt_protect_hw_decrypted :
    ∃ (link : BipLink) (sta : MgmtSta) (f : RecvFrame), link.installed = true ∧ sta.mfp = true ∧
      getPrivacy f.data = true ∧ ∀ bc cr left, MgmtProtected bc cr link sta 0 f
        (validateMgmtProtect bc cr left link (some sta) 0 true f) := by
  let frame : RecvFrame :=
    { attrib := { bdecrypted := true }, psta := some 0, keytrack := 0, room := 0
      data := [0xc0, 0x40] ++ replicate 30 0 ++ [3, 0] ++ replicate 8 0 }
  refine ⟨⟨true, .cmac128, [], 4⟩, ⟨true, true, .aes⟩, frame, rfl, rfl, by decide, ?_⟩
  intro bc cr left
  apply (mgmt_protect_iff bc cr left _ _ 0 true frame rfl rfl).mpr
  have hm : isMcast (getAddr1 frame.data) = false := by decide
  have hp : getPrivacy frame.data = true := by decide
  refine ⟨fun _ => by decide, fun _ _ => rfl, fun _ _ hm' => ?_, fun hp' => ?_⟩
  · rw [hm] at hm'
    cases hm'
  · rw [hp] at hp'
    cases hp'

/-- A protected group-addressed frame on a link without a group key: decryption
fails, and the body is moved over the IV all the same. -/
theorem mgmt_protect_rewrites :
    ¬ ∀ bc cr left link sta ipn mallocOk f, link.installed = true → sta.mfp = true →
      MgmtProtected bc cr link sta ipn f
        (validateMgmtProtect bc cr left link (some sta) ipn mallocOk f) := by
  intro h
  let frame : RecvFrame :=
    { attrib := {}, psta := some 0, keytrack := 0, room := 0
      data := [0xc0, 0x40, 0, 0] ++ replicate 6 255 ++ replicate 22 0 ++ [3, 0] ++
        replicate 8 0 }
  have hkept := (h ⟨fun _ _ => none, fun _ _ _ => none⟩ ⟨fun _ => none, fun _ => false⟩
    RecvFrame.data ⟨true, .cmac128, [], 4⟩ ⟨true, true, .aes⟩ 0 true frame rfl rfl).kept
    (by decide) (by decide)
  exact absurd hkept.2 (by decide)

end Rtl8831.Core
