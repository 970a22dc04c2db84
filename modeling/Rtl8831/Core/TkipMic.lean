import Rtl8831.Core.AmsduList
import Rtl8831.Core.Xmit
import Rtl8831.Lib.Michael

/-!
# The MIC of TKIP

`rtw_secmicappend` takes the message byte by byte, in pieces of any length.  On transmission the
pieces are the buffers of the first request; on reception they are parts of the received frame.
-/

namespace Rtl8831.Core

open Lib List Michael

structure MicData where
  k0 : UInt32
  k1 : UInt32
  l : UInt32
  r : UInt32
  m : UInt32
  nBytesInM : ℕ

def rol32 (a n : UInt32) : UInt32 := (a <<< n) ||| ((a >>> (32 - n)) &&& ((1 <<< n) - 1))

def ror32 (a n : UInt32) : UInt32 := rol32 a (32 - n)

def secmicgetuint32 (p : List UInt8) : UInt32 :=
  (range 4).foldl (fun res i => res ||| ((byteAt p i).toUInt32 <<< UInt32.ofNat (8 * i))) 0

def secmicputuint32 (val : UInt32) : List UInt8 :=
  (range 4).map fun i => (val >>> UInt32.ofNat (8 * i)).toUInt8

def secmicclear (d : MicData) : MicData := { d with l := d.k0, r := d.k1, nBytesInM := 0, m := 0 }

def secmicsetkey (key : List UInt8) : MicData :=
  secmicclear ⟨secmicgetuint32 key, secmicgetuint32 (key.drop 4), 0, 0, 0, 0⟩

def secmicappendbyte (d : MicData) (b : UInt8) : MicData :=
  let m := d.m ||| (b.toUInt32 <<< UInt32.ofNat (8 * d.nBytesInM))
  let n := d.nBytesInM + 1
  if 4 ≤ n then
    let l := d.l ^^^ m
    let r := d.r ^^^ rol32 l 17
    let l := l + r
    let r := r ^^^ (((l &&& 0xff00ff00) >>> 8) ||| ((l &&& 0x00ff00ff) <<< 8))
    let l := l + r
    let r := r ^^^ rol32 l 3
    let l := l + r
    let r := r ^^^ ror32 l 2
    { d with l := l + r, r, m := 0, nBytesInM := 0 }
  else { d with m, nBytesInM := n }

def secmicappend (d : MicData) (src : List UInt8) : MicData := src.foldl secmicappendbyte d

/-- The zeros that `rtw_secgetmic` appends until the word is full, `k` of them at most. -/
def fillWord : ℕ → MicData → MicData
  | 0, d => d
  | k + 1, d => if d.nBytesInM = 0 then d else fillWord k (secmicappendbyte d 0)

def secgetmic (d : MicData) : List UInt8 :=
  let d := fillWord 4 (secmicappend d [0x5a, 0, 0, 0, 0])
  secmicputuint32 d.l ++ secmicputuint32 d.r

def micKey (key : List UInt8) : UInt32 × UInt32 :=
  (secmicgetuint32 key, secmicgetuint32 (key.drop 4))

def micBytes (mic : UInt32 × UInt32) : List UInt8 :=
  secmicputuint32 mic.1 ++ secmicputuint32 mic.2

section

variable {d : MicData} {key msg src src' : List UInt8}

lemma rol32_eq (a : UInt32) {n : UInt32} (h : n = 17 ∨ n = 3 ∨ n = 30) :
    rol32 a n = rotl a n := by
  have hlt := a.toNat_lt
  unfold rol32 rotl
  congr 1
  rw [← UInt32.toNat_inj, UInt32.toNat_and]
  rcases h with rfl | rfl | rfl
  · exact (Nat.and_two_pow_sub_one_eq_mod _ 17).trans (Nat.mod_eq_of_lt (by simp; omega))
  · exact (Nat.and_two_pow_sub_one_eq_mod _ 3).trans (Nat.mod_eq_of_lt (by simp; omega))
  · exact (Nat.and_two_pow_sub_one_eq_mod _ 30).trans (Nat.mod_eq_of_lt (by simp; omega))

lemma secmicappend_append :
    secmicappend d (src ++ src') = secmicappend (secmicappend d src) src' := foldl_append

lemma secmicappend_flatten (pieces : List (List UInt8)) :
    secmicappend d pieces.flatten = pieces.foldl secmicappend d := by
  induction pieces generalizing d with
  | nil => rfl
  | cons p pieces ih => rw [flatten_cons, secmicappend_append, ih, foldl_cons]

section

variable (h : d.nBytesInM < 4)
include h

lemma nBytesInM_appendbyte (b : UInt8) :
    (secmicappendbyte d b).nBytesInM = (d.nBytesInM + 1) % 4 := by
  unfold secmicappendbyte
  simp only
  split
  · simp only
    omega
  · simp only
    omega

lemma nBytesInM_append (src : List UInt8) :
    (secmicappend d src).nBytesInM = (d.nBytesInM + src.length) % 4 := by
  induction src generalizing d with
  | nil => exact (Nat.mod_eq_of_lt h).symm
  | cons b src ih =>
    have hbyte := nBytesInM_appendbyte h b
    rw [secmicappend, foldl_cons, ← secmicappend, ih (by omega), hbyte, length_cons]
    omega

lemma fillWord_eq {k : ℕ} (hk : (4 - d.nBytesInM) % 4 ≤ k) :
    fillWord k d = secmicappend d (replicate ((4 - d.nBytesInM) % 4) 0) := by
  induction k generalizing d with
  | zero =>
    rw [Nat.le_zero.1 hk]
    rfl
  | succ k ih =>
    rw [fillWord]
    by_cases hzero : d.nBytesInM = 0
    · rw [if_pos hzero, hzero]
      rfl
    · have hbyte := nBytesInM_appendbyte h 0
      rw [if_neg hzero, ih (by omega) (by omega)]
      rw [show (4 - d.nBytesInM) % 4 =
        (4 - (secmicappendbyte d 0).nBytesInM) % 4 + 1 by omega, replicate_succ]
      rfl

end

lemma secmicappend_word (hm : d.m = 0) (hn : d.nBytesInM = 0) (b₀ b₁ b₂ b₃ : UInt8) :
    secmicappend d [b₀, b₁, b₂, b₃] =
      { d with
        l := (absorb (d.l, d.r) (word b₀ b₁ b₂ b₃)).1
        r := (absorb (d.l, d.r) (word b₀ b₁ b₂ b₃)).2 } := by
  obtain ⟨k0, k1, l, r, m, n⟩ := d
  subst hm
  subst hn
  have hror (a : UInt32) : ror32 a 2 = rotl a 30 := rol32_eq a (by decide)
  have hfirst : (0 : UInt32) ||| (b₀.toUInt32 <<< UInt32.ofNat (8 * 0)) = b₀.toUInt32 := by
    simp
  unfold secmicappend absorb block word xswap
  simp only [foldl_cons, foldl_nil, secmicappendbyte, hfirst, hror,
    rol32_eq _ (Or.inl rfl), rol32_eq _ (Or.inr (Or.inl rfl))]
  rfl

lemma secmicappend_words (hm : d.m = 0) (hn : d.nBytesInM = 0) (hlen : src.length % 4 = 0) :
    secmicappend d src =
      { d with
        l := ((words src).foldl absorb (d.l, d.r)).1
        r := ((words src).foldl absorb (d.l, d.r)).2 } := by
  induction src using words.induct generalizing d with
  | case1 b₀ b₁ b₂ b₃ rest ih =>
    have hsplit : b₀ :: b₁ :: b₂ :: b₃ :: rest = [b₀, b₁, b₂, b₃] ++ rest := rfl
    have hrest : rest.length % 4 = 0 := by
      simp only [length_cons] at hlen
      omega
    rw [words, foldl_cons, hsplit, secmicappend_append, secmicappend_word hm hn]
    exact ih hm hn hrest
  | case2 src hshort =>
    rcases src with _ | ⟨b₀, _ | ⟨b₁, _ | ⟨b₂, _ | ⟨b₃, rest⟩⟩⟩⟩
    · rfl
    · cases hlen
    · cases hlen
    · cases hlen
    · exact (hshort b₀ b₁ b₂ b₃ rest rfl).elim

lemma secgetmic_append :
    secgetmic (secmicappend (secmicsetkey key) msg) = micBytes (Michael.mic (micKey key) msg) := by
  have hstart : (secmicsetkey key).nBytesInM = 0 := rfl
  have hmsg : (secmicappend (secmicsetkey key) msg).nBytesInM = msg.length % 4 := by
    rw [nBytesInM_append (by omega), hstart, Nat.zero_add]
  have hpadded : (secmicappend (secmicappend (secmicsetkey key) msg) [0x5a, 0, 0, 0, 0]).nBytesInM =
      (msg.length + 5) % 4 := by
    rw [nBytesInM_append (by omega), hmsg]
    simp only [length_cons, length_nil]
    omega
  have hpad : msg ++ ([0x5a, 0, 0, 0, 0] ++
      replicate ((4 - (msg.length + 5) % 4) % 4) 0) = pad msg := by
    unfold pad
    rw [show 7 - msg.length % 4 = 4 + (4 - (msg.length + 5) % 4) % 4 by omega,
      replicate_add]
    rfl
  unfold secgetmic
  simp only
  rw [fillWord_eq (by omega) (by omega), hpadded, ← secmicappend_append, ← secmicappend_append,
    hpad, secmicappend_words rfl rfl (length_pad_mod msg)]
  rfl

lemma secmicputuint32_inj {v w : UInt32} (h : secmicputuint32 v = secmicputuint32 w) : v = w := by
  have hv := v.toNat_lt
  have hw := w.toNat_lt
  have hlist (u : UInt32) : secmicputuint32 u =
      [(u >>> 0).toUInt8, (u >>> 8).toUInt8, (u >>> 16).toUInt8, (u >>> 24).toUInt8] := rfl
  rw [hlist, hlist] at h
  simp only [List.cons.injEq, ← UInt8.toNat_inj, UInt32.toNat_toUInt8, UInt32.toNat_shiftRight,
    Nat.shiftRight_eq_div_pow] at h
  rw [← UInt32.toNat_inj]
  simp at h
  omega

lemma micBytes_inj {s t : UInt32 × UInt32} (h : micBytes s = micBytes t) : s = t := by
  obtain ⟨hl, hr⟩ := append_inj h rfl
  exact Prod.ext (secmicputuint32_inj hl) (secmicputuint32_inj hr)

end

/-- The MIC keys for transmission: those for groups, and that of the receiving station. -/
structure TxMicKeys where
  grptxmickey : ℕ → List UInt8
  grpKeyid : ℕ
  tkiptxmickey : List UInt8

def TxMicKeys.select (keys : TxMicKeys) (a : TxAttrib) : List UInt8 :=
  if isMcast a.ra then keys.grptxmickey keys.grpKeyid else keys.tkiptxmickey

/-- `priority` -/
def txMicPriority (a : TxAttrib) : List UInt8 :=
  [UInt8.ofNat (if a.qosEn then a.priority else 0), 0, 0, 0]

/-- The buffers of the first request that `core_wlan_fill_tkip_mic` takes: all but the first and
the last one. -/
def micPieces (reqs : List (List (List UInt8))) : List (List UInt8) := (reqs.headD []).tail.dropLast

def micLlc (a : TxAttrib) (reqs : List (List (List UInt8))) : List UInt8 :=
  slice ((reqs.headD []).headD []) (a.hdrlen + a.ivLen) 8

def storeMic (mic : List UInt8) (reqs : List (List (List UInt8))) : List (List (List UInt8)) :=
  reqs.modifyLast fun req => req.modifyLast fun tail => mic ++ tail.drop 8

def coreWlanFillTkipMic (keys : TxMicKeys) (a : TxAttrib) (reqs : List (List (List UInt8))) :
    Option (List (List (List UInt8))) :=
  if a.encrypt = .tkip then
    if keys.select a = replicate 16 0 then none
    else
      let d := secmicsetkey (keys.select a)
      let d := secmicappend d (macBytes a.dst)
      let d := secmicappend d (macBytes a.src)
      let d := secmicappend d (txMicPriority a)
      let d := secmicappend d (micLlc a reqs)
      let d := (micPieces reqs).foldl secmicappend d
      some (storeMic (secgetmic d) reqs)
  else some reqs

/-- What `core_wlan_fill_tkip_mic` computes the MIC of. -/
def micFed (a : TxAttrib) (reqs : List (List (List UInt8))) : List UInt8 :=
  macBytes a.dst ++ (macBytes a.src ++ (txMicPriority a ++ (micLlc a reqs ++
    (micPieces reqs).flatten)))

lemma coreWlanFillTkipMic_some {keys : TxMicKeys} {a : TxAttrib}
    {reqs out : List (List (List UInt8))} (htkip : a.encrypt = .tkip)
    (h : coreWlanFillTkipMic keys a reqs = some out) :
    out = storeMic (micBytes (Michael.mic (micKey (keys.select a)) (micFed a reqs))) reqs := by
  unfold coreWlanFillTkipMic at h
  rw [if_pos htkip] at h
  split at h
  · cases h
  · rw [← secgetmic_append, micFed]
    simp only [secmicappend_append, secmicappend_flatten]
    exact (Option.some.inj h).symm

/-- The keys with which the MIC is checked: whether those for groups are installed, which of them
the frame names, which one is in use, and that of the sending station. -/
structure RxMicKeys where
  grprxmickey : ℕ → List UInt8
  binstallGrpkey : Bool
  keyIndex : ℕ
  mlmeKeyIndex : ℕ
  tkiprxmickey : List UInt8

def RxMicKeys.select (keys : RxMicKeys) (a : RxAttrib) : List UInt8 :=
  if isMcast a.ra then keys.grprxmickey keys.keyIndex else keys.tkiprxmickey

/-- What `recvframe_chkmic` does: its result, whether eight bytes are pulled off the tail, whether
the group key is noted as checked, and whether an error is reported. -/
structure ChkMic where
  res : Bool
  pullTail : Bool := true
  bcheckGrpkey : Bool := false
  micErr : Bool := false

section

variable (mem : ℕ → UInt8)

def seccalctkipmic (key : List UInt8) (header data dataLen : ℕ) (pri : UInt8) :
    Reading (List UInt8) := do
  let flags ← readByte mem (header + 1)
  let toDs := flags.toNat.testBit 0
  let frDs := flags.toNat.testBit 1
  let da ← readBytes mem (header + if toDs then 16 else 4) 6
  let sa ← readBytes mem (header + if frDs then if toDs then 24 else 16 else 10) 6
  let body ← readBytes mem data dataLen
  let d := secmicsetkey key
  let d := secmicappend d da
  let d := secmicappend d sa
  let d := secmicappend d [pri, 0, 0, 0]
  pure (secgetmic (secmicappend d body))

/-- `datalen`, in 32 bits. -/
def micDataLen (frameLen : ℕ) (a : RxAttrib) : ℕ :=
  u32 (frameLen - a.hdrlen - a.ivLen - a.icvLen - 8)

/-- `recvframe_chkmic` on the memory of the frame; `psta` tells whether there is a station. -/
def recvframeChkmicAt (frameLen : ℕ) (a : RxAttrib) (psta : Bool) (keys : RxMicKeys) :
    Reading ChkMic :=
  if a.encrypt ≠ .tkip then pure { res := true, pullTail := false }
  else if psta = false then pure { res := true }
  else if isMcast a.ra = true ∧ keys.binstallGrpkey = false then
    pure { res := false, pullTail := false }
  else do
    let payload := a.hdrlen + a.ivLen
    let miccode ← seccalctkipmic mem (keys.select a) 0 payload (micDataLen frameLen a)
      (UInt8.ofNat a.priority)
    let framemic ← readBytes mem (payload + micDataLen frameLen a) 8
    let otherKey := isMcast a.ra && decide (keys.keyIndex ≠ keys.mlmeKeyIndex)
    pure
      { res := decide (miccode = framemic)
        bcheckGrpkey := decide (miccode = framemic) && isMcast a.ra
        micErr := decide (miccode ≠ framemic) && a.bdecrypted && !otherKey }

end

theorem recvframeChkmic_eq {cr : Crypto} {f : RecvFrame} {psta : Bool} {keys : RxMicKeys}
    (hok : cr.micOk f =
      (recvframeChkmicAt (byteAt f.data) f.data.length f.attrib psta keys).val.res) :
    recvframeChkmic cr f =
      let r := (recvframeChkmicAt (byteAt f.data) f.data.length f.attrib psta keys).val
      if r.res then some (if r.pullTail then recvframePullTail f 8 else f) else none := by
  unfold recvframeChkmic
  rw [hok]
  unfold recvframeChkmicAt
  by_cases htkip : f.attrib.encrypt = .tkip
  · rw [if_pos htkip, if_neg (not_not.mpr htkip)]
    split
    · rfl
    · split
      · rfl
      · rfl
  · rw [if_neg htkip, if_pos htkip]
    rfl

end Rtl8831.Core
