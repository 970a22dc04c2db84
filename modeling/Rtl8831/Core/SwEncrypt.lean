import Rtl8831.Core.Xmit

/-!
# Software encryption

`core_wlan_sw_encrypt` merges the buffers of each request into one and lets
`xmitframe_swencrypt` encrypt it in place.  Either step may fail, and nobody
looks at what it returns.
-/

namespace Rtl8831.Core

/-- `rc4` is the key stream of `arcfour_init` and `arcfour_byte`, `tkipKey` the
key mixing of `phase1` and `phase2` from the key, the transmitter and the IV.
AES-CCM takes key, MIC length, nonce and additional data; AES-GCM has one MIC
length. -/
structure SwCrypto where
  rc4 : List UInt8 → ℕ → UInt8
  crc32 : List UInt8 → ℕ
  tkipKey : List UInt8 → List UInt8 → List UInt8 → List UInt8
  ccmAe : List UInt8 → ℕ → List UInt8 → List UInt8 → List UInt8 → List UInt8 × List UInt8
  ccmAd : List UInt8 → ℕ → List UInt8 → List UInt8 → List UInt8 → List UInt8 →
    Option (List UInt8)
  gcmAe : List UInt8 → List UInt8 → List UInt8 → List UInt8 → List UInt8 × List UInt8
  gcmAd : List UInt8 → List UInt8 → List UInt8 → List UInt8 → List UInt8 → Option (List UInt8)

structure SwCrypto.Correct (cr : SwCrypto) : Prop where
  ccm_length : ∀ k m n a p, (cr.ccmAe k m n a p).1.length = p.length
  ccm_mic : ∀ k m n a p, (cr.ccmAe k m n a p).2.length = m
  ccm_opens : ∀ k m n a p, cr.ccmAd k m n a (cr.ccmAe k m n a p).1 (cr.ccmAe k m n a p).2 = some p
  gcm_length : ∀ k n a p, (cr.gcmAe k n a p).1.length = p.length
  gcm_mic : ∀ k n a p, (cr.gcmAe k n a p).2.length = 16
  gcm_opens : ∀ k n a p, cr.gcmAd k n a (cr.gcmAe k n a p).1 (cr.gcmAe k n a p).2 = some p

/-- `arcfour_encrypt` from place `n` of the key stream on. -/
def arcfourEncrypt (ks : ℕ → UInt8) (n : ℕ) (src : List UInt8) : List UInt8 :=
  src.mapIdx fun i b => b ^^^ ks (n + i)

def icvBytes (crc : ℕ) : List UInt8 :=
  [UInt8.ofNat crc, UInt8.ofNat (crc / 256), UInt8.ofNat (crc / 65536),
    UInt8.ofNat (crc / 16777216)]

/-- The ciphers of `xmitframe_swencrypt`. -/
def SecurityType.isSw : SecurityType → Bool
  | .wep40 | .wep104 | .tkip | .aes | .ccmp256 | .gcmp | .gcmp256 => true
  | _ => false

def SecurityType.keyLen : SecurityType → ℕ
  | .ccmp256 | .gcmp256 => 32
  | _ => 16

/-- What encryption reads besides the frame: the cipher, the key, the
transmitter, the length of the header, whether A-MSDUs are signalled and
protected, and whether the state is `WIFI_FW_AUTH_STATE`. -/
structure SwEnv where
  encrypt : SecurityType
  key : List UInt8
  ta : List UInt8
  hdrlen : ℕ
  spp : Bool := false
  fwAuth : Bool := false
  isSw : encrypt.isSw = true
  hdrlen_ge : 24 ≤ hdrlen

/-- `ccmp_aad_nonce` and `gcmp_aad_nonce` up to the nonce; `wep` says whether
the protected bit is forced.  No more than 32 bytes are read. -/
def aeadAad (spp wep : Bool) (frame : List UInt8) : List UInt8 :=
  let hdr := frame.take 32
  let fc := le16At hdr 0
  let isData := fc &&& 12 = 8
  let qos := isData ∧ fc.testBit 7 = true
  let addr4 := fc.testBit 8 && fc.testBit 9
  let fc := if isData then fc &&& 0xff8f else fc
  let fc := if qos then fc &&& 0x7fff else fc
  let fc := fc &&& 0xc7ff
  let fc := if wep then fc ||| 0x4000 else fc
  le16Bytes fc ++ slice hdr 4 18 ++ le16Bytes (le16At hdr 22 &&& 15) ++
    (if addr4 then slice hdr 24 6 else []) ++
    if qos then [byteAt hdr (if addr4 then 30 else 24) &&& (if spp then 0x8f else 0x0f), 0] else []

def pnBytes (iv : List UInt8) : List UInt8 :=
  [byteAt iv 7, byteAt iv 6, byteAt iv 5, byteAt iv 4, byteAt iv 1, byteAt iv 0]

def ccmpNonce (frame iv : List UInt8) : List UInt8 :=
  let hdr := frame.take 32
  let fc := le16At hdr 0
  let flags := if fc &&& 12 = 8 then
      if fc.testBit 7 then byteAt hdr (if fc.testBit 8 && fc.testBit 9 then 30 else 24) &&& 0x0f
      else 0
    else if fc &&& 12 = 0 then 0x10 else 0
  flags :: slice hdr 10 6 ++ pnBytes iv

def gcmpNonce (frame iv : List UInt8) : List UInt8 := slice (frame.take 32) 10 6 ++ pnBytes iv

/-- `frame_control |= WLAN_FC_ISWEP` -/
def setIsWep (p : List UInt8) : List UInt8 := p.take 1 ++ [byteAt p 1 ||| 0x40] ++ p.drop 2

def rc4Key (cr : SwCrypto) (e : SwEnv) (ta iv : List UInt8) : List UInt8 :=
  if e.encrypt = .tkip then cr.tkipKey e.key ta iv else iv.take 3 ++ e.key

/-- `rtw_wep_encrypt` and `rtw_tkip_encrypt` for one fragment. -/
def rc4Encrypt (cr : SwCrypto) (e : SwEnv) (frame : List UInt8) : List UInt8 :=
  let iv := slice frame e.hdrlen e.encrypt.ivLen
  let off := e.hdrlen + e.encrypt.ivLen
  let length := frame.length - off - e.encrypt.icvLen
  let payload := slice frame off length
  let ks := cr.rc4 (rc4Key cr e e.ta iv)
  frame.take off ++ arcfourEncrypt ks 0 payload ++
    arcfourEncrypt ks length (icvBytes (cr.crc32 payload)) ++ frame.drop (off + length + 4)

/-- `_rtw_ccmp_encrypt` with `ccmp_encrypt` or `ccmp_256_encrypt`; `ok` says
whether a buffer is found and the primitive succeeds. -/
def rtwCcmpEncrypt (cr : SwCrypto) (e : SwEnv) (ok : Bool) (frame : List UInt8) : List UInt8 :=
  let plen := frame.length - e.hdrlen - e.encrypt.ivLen - e.encrypt.icvLen
  let crypt := setIsWep (frame.take (e.hdrlen + 8))
  let r := cr.ccmAe (e.key.take e.encrypt.keyLen) e.encrypt.icvLen
    (ccmpNonce crypt (crypt.drop e.hdrlen)) (aeadAad e.spp true crypt)
    (slice frame (e.hdrlen + 8) plen)
  if ok then overwrite frame (crypt ++ r.1 ++ r.2) else frame

/-- `_rtw_gcmp_encrypt` with `gcmp_encrypt` -/
def rtwGcmpEncrypt (cr : SwCrypto) (e : SwEnv) (ok : Bool) (frame : List UInt8) : List UInt8 :=
  let plen := frame.length - e.hdrlen - e.encrypt.ivLen - e.encrypt.icvLen
  let crypt := frame.take (e.hdrlen + 8)
  let r := cr.gcmAe (e.key.take e.encrypt.keyLen) (gcmpNonce crypt (crypt.drop e.hdrlen))
    (aeadAad e.spp false crypt) (slice frame (e.hdrlen + 8) plen)
  if ok then overwrite frame (crypt ++ r.1 ++ r.2) else frame

/-- The switch of `xmitframe_swencrypt`, for one fragment.  While the station
authenticates, `rtw_wep_encrypt` works on another buffer. -/
def encryptFrame (cr : SwCrypto) (e : SwEnv) (ok : Bool) (frame : List UInt8) : List UInt8 :=
  match e.encrypt with
  | .wep40 | .wep104 => if e.fwAuth then frame else rc4Encrypt cr e frame
  | .tkip => rc4Encrypt cr e frame
  | .aes | .ccmp256 => rtwCcmpEncrypt cr e ok frame
  | .gcmp | .gcmp256 => rtwGcmpEncrypt cr e ok frame
  | _ => frame

abbrev TxBufs := List (List UInt8)

/-- `merge_txreq_to_one_piece`, from request `i` on. -/
def mergeTxreqToOnePiece (mergeOk : ℕ → Bool) : ℕ → List TxBufs → List TxBufs × Bool
  | _, [] => ([], true)
  | i, r :: rs =>
    if mergeOk i then
      let t := mergeTxreqToOnePiece mergeOk (i + 1) rs
      ([r.flatten] :: t.1, t.2)
    else (r :: rs, false)

/-- `xmitframe_swencrypt`, from request `i` on; only the first buffer of a
request is looked at. -/
def xmitframeSwencrypt (cr : SwCrypto) (e : SwEnv) (cipherOk : ℕ → Bool) :
    ℕ → List TxBufs → List TxBufs
  | _, [] => []
  | i, [] :: rs => [] :: xmitframeSwencrypt cr e cipherOk (i + 1) rs
  | i, (piece :: rest) :: rs =>
    (encryptFrame cr e (cipherOk i) piece :: rest) :: xmitframeSwencrypt cr e cipherOk (i + 1) rs

def coreWlanSwEncrypt (cr : SwCrypto) (e : SwEnv) (mergeOk cipherOk : ℕ → Bool)
    (reqs : List TxBufs) : List TxBufs :=
  let m := mergeTxreqToOnePiece mergeOk 0 reqs
  if m.2 then xmitframeSwencrypt cr e cipherOk 0 m.1 else m.1

/-- The end of `core_tx_prepare_phl`: `prepOk` says whether the requests were
built and TKIP has its MIC key.  Without a result nothing is handed to PHL. -/
def coreTxPreparePhl (cr : SwCrypto) (e : SwEnv) (prepOk : Bool) (mergeOk cipherOk : ℕ → Bool)
    (reqs : List TxBufs) : Option (List TxBufs) :=
  if prepOk then some (coreWlanSwEncrypt cr e mergeOk cipherOk reqs) else none

/-- `rtw_wep_decrypt` and `rtw_tkip_decrypt`: the latter checks the ICV. -/
def rc4Decrypt (cr : SwCrypto) (e : SwEnv) (frame : List UInt8) : Option (List UInt8) :=
  let iv := slice frame e.hdrlen e.encrypt.ivLen
  let off := e.hdrlen + e.encrypt.ivLen
  let payload := arcfourEncrypt (cr.rc4 (rc4Key cr e (getAddr2 frame) iv)) 0 (frame.drop off)
  let length := payload.length
  if e.encrypt = .tkip ∧
      icvBytes (cr.crc32 (payload.take (length - 4))) ≠ payload.drop (length - 4) then none
  else some (frame.take off ++ payload)

/-- `_rtw_ccmp_decrypt` with `ccmp_decrypt` or `ccmp_256_decrypt` -/
def rtwCcmpDecrypt (cr : SwCrypto) (e : SwEnv) (frame : List UInt8) : Option (List UInt8) :=
  let data := frame.drop e.hdrlen
  let mlen := data.length - 8 - e.encrypt.icvLen
  if data.length < 8 + e.encrypt.icvLen then none
  else
    (cr.ccmAd (e.key.take e.encrypt.keyLen) e.encrypt.icvLen (ccmpNonce frame data)
      (aeadAad e.spp true frame) (slice data 8 mlen) (data.drop (8 + mlen))).map fun plain =>
        frame.take (e.hdrlen + 8) ++ overwrite (frame.drop (e.hdrlen + 8)) plain

/-- `_rtw_gcmp_decrypt` with `gcmp_decrypt` -/
def rtwGcmpDecrypt (cr : SwCrypto) (e : SwEnv) (frame : List UInt8) : Option (List UInt8) :=
  let data := frame.drop e.hdrlen
  let mlen := data.length - 8 - 16
  if data.length < 8 + 16 then none
  else
    (cr.gcmAd (e.key.take e.encrypt.keyLen) (gcmpNonce frame data) (aeadAad e.spp false frame)
      (slice data 8 mlen) (data.drop (8 + mlen))).map fun plain =>
        frame.take (e.hdrlen + 8) ++ overwrite (frame.drop (e.hdrlen + 8)) plain

/-- The decryption that `decryptor` selects, with the same key. -/
def swDecrypt (cr : SwCrypto) (e : SwEnv) (frame : List UInt8) : Option (List UInt8) :=
  match e.encrypt with
  | .wep40 | .wep104 | .tkip => rc4Decrypt cr e frame
  | .aes | .ccmp256 => rtwCcmpDecrypt cr e frame
  | .gcmp | .gcmp256 => rtwGcmpDecrypt cr e frame
  | _ => some frame

end Rtl8831.Core
