import Rtl8831.Core.Xmit

/-!
# Fragments that are sent and received

The requests for the fragments of one MSDU against reassembly on the other
side.  The header of every fragment is built anew, with a sequence number of
its own and the fragment number zero, so that only an MSDU in one piece comes
through.
-/

namespace Rtl8831.Core

open Lib List

lemma slice_append (xs ys : List UInt8) (i n : ℕ) :
    slice (xs ++ ys) i n = slice xs i n ++ slice ys (i - xs.length) (n - (xs.length - i)) := by
  simp only [slice, drop_append, take_append, length_drop]

lemma slice_append_left (p q : List UInt8) {k n : ℕ} (h : k + n ≤ p.length) :
    slice (p ++ q) k n = slice p k n := by
  rw [slice, slice, drop_append_of_le_length (by omega), take_append_of_le_length]
  rw [length_drop]
  omega

variable {r : List (List UInt8)} (p : List UInt8) (i : ℕ) (bytes : List UInt8)

@[simp] lemma slice_zero : slice p i 0 = [] := by
  simp [slice]

@[simp] lemma pktListAppend_flatten :
    (pktListAppend bytes).flatten = bytes := by
  unfold pktListAppend
  split_ifs with h
  · rw [h]
    rfl
  · simp

lemma fillPages_spec (pages : List (List UInt8)) (remSz offset : ℕ) :
    (fillPages pages remSz offset).1.flatten = slice pages.flatten offset remSz ∧
    (fillPages pages remSz offset).2.1 = remSz - (pages.flatten.length - offset) ∧
    ((fillPages pages remSz offset).2.1 = 0 ∨
      (fillPages pages remSz offset).2.2 = offset - pages.flatten.length) := by
  induction pages generalizing remSz offset with
  | nil => simp [fillPages, slice]
  | cons page rest ih =>
    simp only [fillPages, flatten_cons, length_append]
    rw [slice_append]
    by_cases hoff : offset < page.length
    · rw [if_pos hoff]
      by_cases hrem : remSz < page.length - offset
      · rw [if_pos hrem]
        have hzero : remSz - (page.length - offset) = 0 := by omega
        refine ⟨?_, ?_, Or.inl rfl⟩
        · rw [hzero, slice_zero, append_nil, pktListAppend_flatten]
        · dsimp only
          omega
      · rw [if_neg hrem]
        obtain ⟨hlist, hleft, hnext⟩ := ih (remSz - (page.length - offset)) 0
        have hpage : slice page offset remSz = page.drop offset := by
          apply take_of_length_le
          rw [length_drop]
          omega
        refine ⟨?_, ?_, ?_⟩
        · rw [flatten_append, pktListAppend_flatten, hlist, hpage, Nat.sub_eq_zero_of_le hoff.le]
        · rw [hleft, Nat.sub_zero, Nat.sub_sub, Nat.sub_add_comm hoff.le]
        · refine hnext.imp id fun h => ?_
          rw [h, Nat.zero_sub, Nat.sub_eq_zero_of_le (hoff.le.trans (Nat.le_add_right _ _))]
    · rw [if_neg hoff]
      obtain ⟨hlist, hleft, hnext⟩ := ih remSz (offset - page.length)
      have hpage : slice page offset remSz = [] := by
        rw [slice, drop_eq_nil_of_le (not_lt.1 hoff), take_nil]
      have hsize : page.length - offset = 0 := by omega
      refine ⟨?_, ?_, ?_⟩
      · rw [hlist, hpage, hsize, nil_append, Nat.sub_zero]
      · rw [hleft, Nat.sub_sub_right _ (not_lt.1 hoff), Nat.add_comm]
      · exact hnext.imp id fun h => h.trans (Nat.sub_sub _ _ _)

lemma fillTxreqListPart_spec (p : SkbPart) (remSz offset : ℕ) :
    (fillTxreqListPart p remSz offset).1.flatten = slice p.bytes offset remSz ∧
    (fillTxreqListPart p remSz offset).2.1 = remSz - (p.bytes.length - offset) ∧
    ((fillTxreqListPart p remSz offset).2.1 = 0 ∨
      (fillTxreqListPart p remSz offset).2.2 = offset - p.bytes.length) := by
  simp only [fillTxreqListPart, SkbPart.bytes, length_append]
  rw [slice_append]
  by_cases hoff : offset < p.head.length
  · rw [if_pos hoff]
    obtain ⟨hlist, hleft, hnext⟩ :=
      fillPages_spec p.pages (remSz - min (p.head.length - offset) remSz) 0
    have hhead : slice p.head offset (min (p.head.length - offset) remSz) =
        slice p.head offset remSz := by
      simp only [slice]
      rw [take_eq_take_iff, length_drop]
      omega
    have hrem : remSz - min (p.head.length - offset) remSz =
        remSz - (p.head.length - offset) := by omega
    refine ⟨?_, ?_, ?_⟩
    · rw [flatten_append, pktListAppend_flatten, hlist, hhead, hrem,
        Nat.sub_eq_zero_of_le hoff.le]
    · rw [hleft, hrem, Nat.sub_zero, Nat.sub_sub, Nat.sub_add_comm hoff.le]
    · refine hnext.imp id fun h => ?_
      rw [h, Nat.zero_sub, Nat.sub_eq_zero_of_le (hoff.le.trans (Nat.le_add_right _ _))]
  · rw [if_neg hoff]
    obtain ⟨hlist, hleft, hnext⟩ := fillPages_spec p.pages remSz (offset - p.head.length)
    have hhead : slice p.head offset remSz = [] := by
      rw [slice, drop_eq_nil_of_le (not_lt.1 hoff), take_nil]
    have hsize : p.head.length - offset = 0 := by omega
    refine ⟨?_, ?_, ?_⟩
    · rw [hlist, hhead, hsize, nil_append, Nat.sub_zero]
    · rw [hleft, Nat.sub_sub_right _ (not_lt.1 hoff), Nat.add_comm]
    · exact hnext.imp id fun h => h.trans (Nat.sub_sub _ _ _)

lemma fillTxreqListParts_flatten (parts : List SkbPart) (remSz offset : ℕ) :
    (fillTxreqListParts parts remSz offset).flatten =
      slice (parts.map SkbPart.bytes).flatten offset remSz := by
  induction parts generalizing remSz offset with
  | nil => simp [fillTxreqListParts, slice]
  | cons p rest ih =>
    obtain ⟨hlist, hleft, hnext⟩ := fillTxreqListPart_spec p remSz offset
    simp only [fillTxreqListParts, map_cons, flatten_cons]
    rw [flatten_append, ih, hlist, slice_append, ← hleft]
    -- once nothing more is requested, the offset does not matter
    rcases hnext with hzero | hoffset
    · rw [hzero, slice_zero, slice_zero]
    · rw [hoffset]

lemma fillTxreqListSkb_flatten (skb : Skb) (reqSz offset : ℕ) :
    (fillTxreqListSkb skb reqSz offset).flatten = slice skb.bytes offset reqSz := by
  simp only [fillTxreqListSkb, fillTxreqListParts_flatten]
  split_ifs
  · simp [SkbPart.bytes]
  · simp [Skb.bytes]

@[simp] lemma poke_length :
    (poke p i bytes).length = p.length := by
  simp only [poke, length_take, length_append, length_drop]
  omega

lemma hdrOpt_length (cfg : TxCfg) (om : Bool) (a : TxAttrib) :
    (hdrOpt cfg om a).length = a.hdrlen - 24 := by
  simp only [hdrOpt]
  split_ifs <;> simp

lemma WlanHdr.bytes_length (h : WlanHdr) : h.bytes.length = 24 + h.opt.length := by
  simp [WlanHdr.bytes, macBytes, le16Bytes]
  omega

lemma WlanHdr.flags_spec (h : WlanHdr) :
    h.flags < 256 ∧ h.flags / 4 % 2 = h.mfrag.toNat := by
  have h1 := Bool.toNat_le h.toDs
  have h2 := Bool.toNat_le h.frDs
  have h3 := Bool.toNat_le h.mfrag
  have h4 := Bool.toNat_le h.mdata
  have h5 := Bool.toNat_le h.privacy
  have h6 := Bool.toNat_le h.order
  unfold WlanHdr.flags
  omega

lemma WlanHdr.getFragNum_bytes (h : WlanHdr) (rest : List UInt8) :
    getFragNum (h.bytes ++ rest) = 0 := by
  have hlow : byteAt (h.bytes ++ rest) 22 = UInt8.ofNat (16 * (h.seqNum % 4096)) := rfl
  have hhigh : byteAt (h.bytes ++ rest) 23 = UInt8.ofNat (16 * (h.seqNum % 4096) / 256) := rfl
  apply Fin.ext
  simp only [getFragNum, le16At, hlow, hhigh, Fin.ofNat, UInt8.toNat_ofNat', Fin.val_zero]
  omega

lemma WlanHdr.getMFrag_bytes (h : WlanHdr) (rest : List UInt8) :
    getMFrag (h.bytes ++ rest) = h.mfrag := by
  have hlow : byteAt (h.bytes ++ rest) 0 = UInt8.ofNat h.subtype := rfl
  have hhigh : byteAt (h.bytes ++ rest) 1 = UInt8.ofNat h.flags := rfl
  obtain ⟨hlt, hbit⟩ := h.flags_spec
  have htest : le16At (h.bytes ++ rest) 0 / 2 ^ 10 % 2 = h.mfrag.toNat := by
    simp only [le16At, hlow, hhigh, UInt8.toNat_ofNat']
    omega
  rw [getMFrag, Nat.testBit_eq_decide_div_mod_eq, htest]
  cases h.mfrag <;> rfl

lemma makeWlanhdr_attrib (cfg : TxCfg) (c : TxCounters) (a : TxAttrib) :
    ∃ seqnum ampduEn, (makeWlanhdr cfg c a).2.1 = { a with seqnum, ampduEn } := by
  simp only [makeWlanhdr]
  split
  · exact ⟨a.seqnum, a.ampduEn, rfl⟩
  · exact ⟨_, _, rfl⟩

lemma makeWlanhdr_opt (cfg : TxCfg) (c : TxCounters) (a : TxAttrib) :
    (makeWlanhdr cfg c a).2.2.opt = hdrOpt cfg (omPending cfg c) a := by
  simp only [makeWlanhdr]
  split <;> rfl

lemma fillHeads_length (cfg : TxCfg) (n k idx : ℕ) (c : TxCounters) (a : TxAttrib) :
    (fillHeads cfg n k idx c a).2.2.length = k := by
  induction k generalizing idx c a with
  | zero => rfl
  | succ k ih => simp [fillHeads, ih]

variable {cfg : TxCfg} {c : TxCounters} {m : TxMsdu} {reqs : List (List (List UInt8))}

lemma fillHeads_mem {n k idx : ℕ} {c : TxCounters} {a : TxAttrib}
    {head : List UInt8} (h : head ∈ (fillHeads cfg n k idx c a).2.2) :
    ∃ (hdr : WlanHdr) (rest : List UInt8), head = hdr.bytes ++ rest := by
  induction k generalizing idx c a with
  | zero => simp [fillHeads] at h
  | succ k ih =>
    simp only [fillHeads] at h
    rcases mem_cons.1 h with rfl | h
    · exact ⟨_, _, append_assoc _ _ _⟩
    · exact ih h

lemma perfrag_length (a : TxAttrib) (skb : Skb) (fragPerfr n k idx offset : ℕ) :
    (perfrag a skb fragPerfr n k idx offset).length = k := by
  induction k generalizing idx offset with
  | zero => rfl
  | succ k ih => simp [perfrag, ih]

/-- An MSDU with the attributes of `update_attrib`; lengths of headers are
`u8` there. -/
structure TxMsdu where
  attrib : TxAttrib
  skb : Skb
  single : attrib.amsdu = false
  hdrlen_ge : 24 ≤ attrib.hdrlen
  hdrlen_lt : attrib.hdrlen < 256
  ivLen_lt : attrib.ivLen < 256
  icvLen_lt : attrib.icvLen < 256
  clear : attrib.encrypt = .noPrivacy → attrib.ivLen = 0 ∧ attrib.icvLen = 0
  len_ge : 14 ≤ skb.len
  len_lt : skb.len < 2 ^ 31
  pktlen : attrib.pktlen = skb.len - 14

/-- The requests for the fragments; `none` if there are too many. -/
def txRequests (cfg : TxCfg) (c : TxCounters) (m : TxMsdu) : Option (List (List (List UInt8))) :=
  let paras := getWlFragParas cfg.fragLen m.attrib
  (fillTxreqPktPerfragTxos m.attrib m.skb paras.1 paras.2).map
    (txPktLists (coreWlanFillHead cfg paras.2 c m.attrib).2.2)

def TxMsdu.hwIcv (m : TxMsdu) : ℕ :=
  if m.attrib.encrypt ≠ .noPrivacy ∧ m.attrib.bswenc = false then m.attrib.icvLen else 0

def TxMsdu.airLen (m : TxMsdu) (req : List (List UInt8)) : ℕ :=
  req.flatten.length + m.hwIcv + rtwSzFcs

def TxMsdu.rxFrame (m : TxMsdu) (room : ℕ) (req : List (List UInt8)) : RecvFrame :=
  let p := req.flatten
  { attrib :=
      { ra := getAddr1 p, ta := getAddr2 p, toFrDs := getToFrDs p, seqNum := getSequence p
        fragNum := getFragNum p, mfrag := getMFrag p, privacy := getPrivacy p
        hdrlen := m.attrib.hdrlen, ivLen := m.attrib.ivLen, icvLen := m.attrib.icvLen
        encrypt := m.attrib.encrypt, bdecrypted := true }
    psta := some 0
    keytrack := 0
    data := p ++ replicate m.hwIcv 0
    room }

def TxMsdu.received (m : TxMsdu) (f : RecvFrame) : List UInt8 :=
  f.payload.take (f.payload.length - micLen m.attrib)

def defragged : DefragPriv → List RecvFrame → List RecvFrame
  | _, [] => []
  | st, f :: fs =>
    let r := recvframeChkDefrag st f
    (if r.2.1 = .continue then r.2.2.toList else []) ++ defragged r.1 fs

structure FragmentsRoundTrip (m : TxMsdu) (fragLen : ℕ) (reqs : List (List (List UInt8))) :
    Prop where
  sameSeq : ∀ r ∈ reqs, ∀ r' ∈ reqs, getSequence r.flatten = getSequence r'.flatten
  fragNums : ∀ (i : ℕ) (r : List (List UInt8)), reqs[i]? = some r → (getFragNum r.flatten : ℕ) = i
  moreFrag : ∀ (i : ℕ) (r : List (List UInt8)), reqs[i]? = some r →
    getMFrag r.flatten = decide (i + 1 < reqs.length)
  fits : ∀ r ∈ reqs, m.airLen r ≤ fragLen
  joined : ∀ room, m.skb.len ≤ room →
    ∃ out, defragged (DefragPriv.init (fun _ => 0) none) (reqs.map (m.rxFrame room)) = [out] ∧
      m.received out = putSnap m.attrib.etherType ++ m.skb.bytes.drop 14

section

variable (h : txRequests cfg c m = some reqs)
include h

variable {fragPerfr n : ℕ}

lemma txRequests_eq (hparas : getWlFragParas cfg.fragLen m.attrib = (fragPerfr, n)) :
    reqs = txPktLists (fillHeads cfg n n 0 c m.attrib).2.2
      (perfrag m.attrib m.skb fragPerfr n n 0 14) := by
  simp only [txRequests, fillTxreqPktPerfragTxos, hparas] at h
  split_ifs at h
  · cases h
  · exact (Option.some.inj h).symm

lemma txRequests_length (hparas : getWlFragParas cfg.fragLen m.attrib = (fragPerfr, n)) : reqs.length = n := by
  rw [txRequests_eq h hparas]
  simp only [txPktLists, length_zipWith, perfrag_length, fillHeads_length, Nat.min_self]

lemma txRequests_fragNum
    {r : List (List UInt8)} (hr : r ∈ reqs) : getFragNum r.flatten = 0 := by
  rw [txRequests_eq h rfl, txPktLists] at hr
  obtain ⟨i, hi⟩ := mem_iff_getElem?.1 hr
  obtain ⟨head, frag, hhead, -, rfl⟩ := getElem?_zipWith_eq_some.1 hi
  obtain ⟨hdr, rest, rfl⟩ := fillHeads_mem (mem_of_getElem? hhead)
  rw [cons_append, flatten_cons, append_assoc]
  exact hdr.getFragNum_bytes _

end

def TxMsdu.wlanHdr (cfg : TxCfg) (c : TxCounters) (m : TxMsdu) : WlanHdr :=
  { (makeWlanhdr cfg c m.attrib).2.2 with mfrag := false }

def TxMsdu.iv (cfg : TxCfg) (c : TxCounters) (m : TxMsdu) : List UInt8 :=
  let r := makeWlanhdr cfg c m.attrib
  ((if r.2.1.ivLen ≠ 0 then updateAttribSecIvInfo r.1 r.2.1 else (r.1, [])).2 ++
    replicate r.2.1.ivLen 0).take r.2.1.ivLen

lemma TxMsdu.iv_length (cfg : TxCfg) (c : TxCounters) (m : TxMsdu) :
    (m.iv cfg c).length = m.attrib.ivLen := by
  obtain ⟨seqnum, ampduEn, ha⟩ := makeWlanhdr_attrib cfg c m.attrib
  simp only [TxMsdu.iv, ha, length_take, length_append, length_replicate]
  omega

lemma TxMsdu.wlanHdr_length (cfg : TxCfg) (c : TxCounters) (m : TxMsdu) :
    (m.wlanHdr cfg c).bytes.length = m.attrib.hdrlen := by
  have hopt : (m.wlanHdr cfg c).opt.length = m.attrib.hdrlen - 24 := by
    rw [← hdrOpt_length cfg _ m.attrib, ← makeWlanhdr_opt cfg c m.attrib]
    rfl
  rw [WlanHdr.bytes_length, hopt]
  have hge := m.hdrlen_ge
  omega

def TxMsdu.tailLen (m : TxMsdu) : ℕ :=
  micLen m.attrib + if m.attrib.encrypt ≠ .noPrivacy ∧ m.attrib.bswenc = true then m.attrib.icvLen else 0

lemma TxMsdu.fillHeads_one (cfg : TxCfg) (c : TxCounters) (m : TxMsdu) :
    (fillHeads cfg 1 1 0 c m.attrib).2.2 =
      [(m.wlanHdr cfg c).bytes ++ m.iv cfg c ++ putSnap m.attrib.etherType] := by
  obtain ⟨seqnum, ampduEn, ha⟩ := makeWlanhdr_attrib cfg c m.attrib
  have hsnap : (if True ∧ (makeWlanhdr cfg c m.attrib).2.1.amsdu = false then
      putSnap (makeWlanhdr cfg c m.attrib).2.1.etherType else []) =
        putSnap m.attrib.etherType := by
    rw [if_pos ⟨trivial, by rw [ha]; exact m.single⟩, ha]
  simp only [fillHeads]
  rw [hsnap]
  rfl

lemma TxMsdu.perfrag_one (m : TxMsdu) (fragPerfr : ℕ) :
    perfrag m.attrib m.skb fragPerfr 1 1 0 14 =
      [(fillTxreqListSkb m.skb (m.skb.len - 14) 14, m.tailLen)] := by
  have hsz : u32 (m.skb.len - (14 : ℕ)) = m.skb.len - 14 := by
    have hge := m.len_ge
    have hlt := m.len_lt
    unfold u32
    omega
  simp only [perfrag, TxMsdu.tailLen, ↓reduceIte, zero_add, hsz]

lemma txRequests_single (h : txRequests cfg c m = some reqs) {fragPerfr : ℕ}
    (hparas : getWlFragParas cfg.fragLen m.attrib = (fragPerfr, 1)) :
    ∃ r, reqs = [r] ∧ r.flatten = (m.wlanHdr cfg c).bytes ++
      (m.iv cfg c ++ (putSnap m.attrib.etherType ++ (m.skb.bytes.drop 14 ++
        replicate m.tailLen 0))) := by
  have heq := txRequests_eq h hparas
  rw [m.fillHeads_one, m.perfrag_one] at heq
  refine ⟨_, heq, ?_⟩
  have hpayload : slice m.skb.bytes 14 (m.skb.len - 14) = m.skb.bytes.drop 14 := by
    apply take_of_length_le
    rw [length_drop, Skb.len]
  simp only [flatten_cons, flatten_append, pktListAppend_flatten,
    fillTxreqListSkb_flatten, hpayload, append_assoc, cons_append]

lemma TxMsdu.tailLen_add_hwIcv (m : TxMsdu) :
    m.tailLen + m.hwIcv = micLen m.attrib + m.attrib.icvLen := by
  simp only [TxMsdu.tailLen, TxMsdu.hwIcv]
  by_cases henc : m.attrib.encrypt = .noPrivacy
  · simp [henc, (m.clear henc).2]
  · cases m.attrib.bswenc <;> simp [henc]

lemma TxMsdu.airLen_single (hr : r.flatten = (m.wlanHdr cfg c).bytes ++
      (m.iv cfg c ++ (putSnap m.attrib.etherType ++ (m.skb.bytes.drop 14 ++
        replicate m.tailLen 0)))) :
    m.airLen r = m.attrib.hdrlen + m.attrib.ivLen + rtwSzLlc + m.attrib.pktlen +
      micLen m.attrib + m.attrib.icvLen + rtwSzFcs := by
  have hsnap : (putSnap m.attrib.etherType).length = rtwSzLlc := length_putSnap _
  have hlen : (m.skb.bytes.drop 14).length = m.attrib.pktlen := by
    rw [length_drop, m.pktlen, Skb.len]
  have hicv := m.tailLen_add_hwIcv
  rw [TxMsdu.airLen, hr]
  simp only [length_append, length_replicate, m.wlanHdr_length, m.iv_length, hsnap, hlen]
  omega

lemma TxMsdu.paras_of_fits (m : TxMsdu) (hfrag : cfg.fragLen < 2 ^ 32)
    (hfits : m.attrib.hdrlen + m.attrib.ivLen + rtwSzLlc + m.attrib.pktlen +
      micLen m.attrib + m.attrib.icvLen + rtwSzFcs ≤ cfg.fragLen) :
    ∃ fragPerfr, getWlFragParas cfg.fragLen m.attrib = (fragPerfr, 1) := by
  have hiv : (if m.attrib.encrypt ≠ .noPrivacy then m.attrib.ivLen else 0) = m.attrib.ivLen := by
    split_ifs with henc
    · rfl
    · exact (m.clear (not_not.1 henc)).1.symm
  have hicv : (if m.attrib.encrypt ≠ .noPrivacy then m.attrib.icvLen else 0) =
      m.attrib.icvLen := by
    split_ifs with henc
    · rfl
    · exact (m.clear (not_not.1 henc)).2.symm
  have hle : ¬u32 (cfg.fragLen - ↑(m.attrib.hdrlen + m.attrib.ivLen) -
        ↑(rtwSzFcs + m.attrib.icvLen)) <
      u32 (m.attrib.pktlen + rtwSzLlc + micLen m.attrib) := by
    have hmic : micLen m.attrib ≤ 8 := by
      unfold micLen
      split_ifs <;> omega
    simp only [rtwSzLlc, rtwSzFcs] at hfits ⊢
    unfold u32
    omega
  simp only [getWlFragParas, hiv, hicv, m.single, Bool.false_eq_true, ↓reduceIte, if_neg hle]
  exact ⟨_, rfl⟩

lemma take_length_sub (xs : List UInt8) (n : ℕ) :
    (xs ++ replicate n 0).take ((xs ++ replicate n 0).length - n) = xs := by
  apply take_left'
  rw [length_append, length_replicate]
  omega

lemma RecvFrame.payload_eq {f : RecvFrame} {front body icv : List UInt8}
    (hdata : f.data = front ++ (body ++ icv)) (hfront : front.length = f.attrib.hdrlen + f.attrib.ivLen)
    (hicv : icv.length = f.attrib.icvLen) : f.payload = body := by
  have hlen : f.data.length - f.attrib.icvLen = (front ++ body).length := by
    rw [hdata, ← hicv, ← append_assoc, length_append, Nat.add_sub_cancel]
  rw [RecvFrame.payload, hlen, hdata, ← append_assoc, take_left, ← hfront, drop_left]

lemma TxMsdu.received_single (hr : r.flatten = (m.wlanHdr cfg c).bytes ++
      (m.iv cfg c ++ (putSnap m.attrib.etherType ++ (m.skb.bytes.drop 14 ++
        replicate m.tailLen 0)))) (room : ℕ) :
    m.received (m.rxFrame room r) = putSnap m.attrib.etherType ++ m.skb.bytes.drop 14 := by
  have hzeros : replicate m.tailLen (0 : UInt8) ++ replicate m.hwIcv 0 =
      replicate (micLen m.attrib) 0 ++ replicate m.attrib.icvLen 0 := by
    rw [← replicate_add, ← replicate_add, m.tailLen_add_hwIcv]
  have hdata : (m.rxFrame room r).data = ((m.wlanHdr cfg c).bytes ++ m.iv cfg c) ++
      (((putSnap m.attrib.etherType ++ m.skb.bytes.drop 14) ++
        replicate (micLen m.attrib) 0) ++ replicate m.attrib.icvLen 0) := by
    simp only [TxMsdu.rxFrame, hr, append_assoc, hzeros]
  have hfront : ((m.wlanHdr cfg c).bytes ++ m.iv cfg c).length =
      m.attrib.hdrlen + m.attrib.ivLen := by
    rw [length_append, m.wlanHdr_length, m.iv_length]
  have hpayload : (m.rxFrame room r).payload =
      (putSnap m.attrib.etherType ++ m.skb.bytes.drop 14) ++
        replicate (micLen m.attrib) 0 :=
    RecvFrame.payload_eq hdata hfront (length_replicate ..)
  rw [TxMsdu.received, hpayload]
  exact take_length_sub _ (micLen m.attrib)

lemma recvframeChkDefrag_whole {st : DefragPriv} {f : RecvFrame} (hmf : f.attrib.mfrag = false)
    (hnum : f.attrib.fragNum = 0) : recvframeChkDefrag st f = (st, .continue, some f) := by
  have hfrag : isFragment f = false := by simp [isFragment, hmf, hnum]
  have htrack : trackKey st f = f := by
    unfold trackKey
    cases defragSta st f <;> simp [hfrag]
  simp [recvframeChkDefrag, hmf, hnum, hfrag, htrack]

lemma FragmentsRoundTrip.length_eq_one {fragLen : ℕ} {reqs : List (List (List UInt8))}
    (h : FragmentsRoundTrip m fragLen reqs)
    (hreqs : txRequests cfg c m = some reqs) : reqs.length = 1 := by
  rcases reqs with _ | ⟨r, _ | ⟨r', rest⟩⟩
  · obtain ⟨out, hout, -⟩ := h.joined m.skb.len le_rfl
    simp [defragged] at hout
  · rfl
  · have hmem : r' ∈ r :: r' :: rest := mem_cons_of_mem _ mem_cons_self
    have hnum := h.fragNums 1 r' rfl
    rw [txRequests_fragNum hreqs hmem] at hnum
    simp at hnum

/-- The fragments of an MSDU make the round trip if and only if it is sent in
one piece, for all its headers and trailers fit in the threshold. -/
theorem tx_fragments_round_trip_iff (cfg : TxCfg) (c : TxCounters) (m : TxMsdu)
    (hfrag : cfg.fragLen < 2 ^ 32) (reqs : List (List (List UInt8)))
    (hreqs : txRequests cfg c m = some reqs) :
    FragmentsRoundTrip m cfg.fragLen reqs ↔
      m.attrib.hdrlen + m.attrib.ivLen + rtwSzLlc + m.attrib.pktlen + micLen m.attrib +
        m.attrib.icvLen + rtwSzFcs ≤ cfg.fragLen := by
  constructor
  · intro htrip
    obtain ⟨fragPerfr, n, hparas⟩ : ∃ fragPerfr n,
        getWlFragParas cfg.fragLen m.attrib = (fragPerfr, n) := ⟨_, _, rfl⟩
    rw [← txRequests_length hreqs hparas, htrip.length_eq_one hreqs] at hparas
    obtain ⟨r, rfl, hr⟩ := txRequests_single hreqs hparas
    rw [← m.airLen_single hr]
    exact htrip.fits r mem_cons_self
  · intro hfits
    obtain ⟨fragPerfr, hparas⟩ := m.paras_of_fits hfrag hfits
    obtain ⟨r, rfl, hr⟩ := txRequests_single hreqs hparas
    have hnum : getFragNum r.flatten = 0 := txRequests_fragNum hreqs mem_cons_self
    have hmf : getMFrag r.flatten = false := by
      rw [hr]
      exact (m.wlanHdr cfg c).getMFrag_bytes _
    refine ⟨?_, ?_, ?_, ?_, ?_⟩
    · intro r₁ h₁ r₂ h₂
      rw [mem_singleton.mp h₁, mem_singleton.mp h₂]
    · intro i r' hi
      obtain ⟨rfl, rfl⟩ : i = 0 ∧ r' = r := by
        cases i with
        | zero => exact ⟨rfl, (Option.some.inj hi).symm⟩
        | succ i => simp at hi
      rw [hnum]
      rfl
    · intro i r' hi
      obtain ⟨rfl, rfl⟩ : i = 0 ∧ r' = r := by
        cases i with
        | zero => exact ⟨rfl, (Option.some.inj hi).symm⟩
        | succ i => simp at hi
      rw [hmf]
      rfl
    · intro r' h'
      rw [mem_singleton.mp h', m.airLen_single hr]
      exact hfits
    · intro room _
      refine ⟨m.rxFrame room r, ?_, m.received_single hr room⟩
      simp only [map_cons, map_nil, defragged]
      rw [recvframeChkDefrag_whole hmf hnum]
      rfl

def openTxCfg (fragLen : ℕ) : TxCfg where
  mode := .sta
  macAddr := [2, 0, 0, 0, 0, 1]
  bssid := [2, 0, 0, 0, 0, 2]
  qosOption := false
  acmMask := 0
  auth := .openSystem
  privacyAlgrthm := .noPrivacy
  grpPrivacy := .noPrivacy
  privacyKeyIndex := 0
  grpKeyid := 0
  busetkipkey := true
  swEncrypt := false
  hwDecrypted := true
  hwFormHdr := false
  hwSecIv := false
  hwTxSearchKey := true
  omNormalTx := false
  fragLen := fragLen
  band24G := false
  cckTxRate := false
  fixRate := none
  dataFb := true
  fixBw := none
  txscEnable := false
  stas :=
    [{ macAddr := [2, 0, 0, 0, 0, 2], macid := 0, asoc := true, qosOption := false
       ieee8021xBlocked := false, dot118021XPrivacy := .noPrivacy, hwDecrypted := true
       htcEn := false, htc := fun _ => [], aggEnable := fun _ => false, numAmpdu := 0
       secCamIdx := fun _ _ => 0, phy := {} }]

def zeroCounters : TxCounters where
  txseqTid := fun _ _ => 0
  baStartingSeqctrl := fun _ _ => 0
  dot11txpn := fun _ => 0
  omTxCnt := 0

/-- An IP packet of `n` zero bytes to the access point. -/
def openMsdu (n : ℕ) (hn : n < 2 ^ 16) : TxMsdu where
  attrib :=
    { etherType := 0x0800, dst := [2, 0, 0, 0, 0, 2], src := [2, 0, 0, 0, 0, 1]
      ra := [2, 0, 0, 0, 0, 2], ta := [2, 0, 0, 0, 0, 1], psta := some 0, pktlen := n }
  skb :=
    { first := { head := [2, 0, 0, 0, 0, 2, 2, 0, 0, 0, 0, 1, 8, 0] ++ replicate n 0 } }
  single := rfl
  hdrlen_ge := (by decide : 23 < 24)
  hdrlen_lt := (by decide : 24 < 256)
  ivLen_lt := (by decide : 0 < 256)
  icvLen_lt := (by decide : 0 < 256)
  clear := fun _ => ⟨rfl, rfl⟩
  len_ge := by simp [Skb.len, Skb.bytes, SkbPart.bytes]
  len_lt := by
    simp [Skb.len, Skb.bytes, SkbPart.bytes]
    omega
  pktlen := by simp [Skb.len, Skb.bytes, SkbPart.bytes]

/-- A packet of 300 bytes is sent as two fragments of number zero. -/
theorem tx_fragments_not_numbered :
    ¬∀ reqs, txRequests (openTxCfg 256) zeroCounters (openMsdu 300 (by decide)) = some reqs →
      FragmentsRoundTrip (openMsdu 300 (by decide)) (openTxCfg 256).fragLen reqs := by
  intro h
  have hparas : getWlFragParas (openTxCfg 256).fragLen (openMsdu 300 (by decide)).attrib =
      (228, 2) := by decide
  obtain ⟨reqs, hreqs⟩ : ∃ reqs,
      txRequests (openTxCfg 256) zeroCounters (openMsdu 300 (by decide)) = some reqs := by
    simp only [txRequests, hparas, fillTxreqPktPerfragTxos, rtwMaxFragNum]
    exact ⟨_, rfl⟩
  have hone := (h reqs hreqs).length_eq_one hreqs
  rw [txRequests_length hreqs hparas] at hone
  contradiction

theorem tx_fragments_round_trip_small :
    ∃ reqs, txRequests (openTxCfg 2346) zeroCounters (openMsdu 100 (by decide)) = some reqs ∧
      FragmentsRoundTrip (openMsdu 100 (by decide)) (openTxCfg 2346).fragLen reqs :=
  ⟨_, rfl, (tx_fragments_round_trip_iff _ _ _ (by decide) _ rfl).mpr (by decide)⟩

end Rtl8831.Core
