import Rtl8831.Core.XmitFrag
import Rtl8831.Core.XmitShortcut

/-!
# When the TX shortcut agrees with the full path

An entry is made from the attributes of one packet.  The request for a later
packet differs from that of the full path where the attributes differ that
the shortcut does not look at, where the full path would take a packet
number, and where the header left in a request buffer is not that of the
entry.
-/

namespace Rtl8831.Core

open Lib List Option

/-! ## Attributes -/

variable {cfg : TxCfg} (p : List UInt8) {pkt : TxPkt} {a : TxAttrib} {sta : TxSta} {fragLen : ℕ}
  {i : ℕ} (c : TxCounters)

lemma updateAttrib_eq_some :
    updateAttrib cfg pkt = some a ↔
      ∃ idx sta sec, cfg.getStainfo (txRa cfg pkt) = some idx ∧ cfg.stas[idx]? = some sta ∧
        sta.asoc = true ∧ updateAttribSecInfo cfg sta pkt (isMcast (txRa cfg pkt)) = some sec ∧
        a = txAttrib cfg pkt idx sta sec := by
  rw [updateAttrib]
  constructor
  · intro h
    obtain ⟨idx, hidx, h⟩ := bind_eq_some_iff.1 h
    obtain ⟨sta, hsta, h⟩ := bind_eq_some_iff.1 h
    by_cases hasoc : sta.asoc = false
    · rw [if_pos hasoc] at h
      cases h
    · rw [if_neg hasoc] at h
      obtain ⟨sec, hsec, ha⟩ := map_eq_some_iff.1 h
      exact ⟨idx, sta, sec, hidx, hsta, Bool.eq_true_of_not_eq_false hasoc, hsec, ha.symm⟩
  · rintro ⟨idx, sta, sec, hidx, hsta, hasoc, hsec, rfl⟩
    rw [hidx, bind_some, hsta, bind_some, hasoc, if_neg (by decide), hsec]
    rfl

lemma getStainfo_macAddr {addr : List UInt8} {idx : ℕ}
    (h : cfg.getStainfo addr = some idx) (hone : isMcast addr = false) :
    cfg.stas[idx]?.map TxSta.macAddr = some addr := by
  rw [TxCfg.getStainfo, hone, if_neg Bool.false_ne_true] at h
  obtain ⟨hlt, hmac, -⟩ := findIdx?_eq_some_iff_getElem.1 h
  rw [getElem?_eq_getElem hlt, map_some, of_decide_eq_true hmac]

lemma updateAttribSecInfo_ip {pkt pkt' : TxPkt} (bmcast : Bool)
    (h : pkt.etherType = 0x0800) (h' : pkt'.etherType = 0x0800) :
    updateAttribSecInfo cfg sta pkt' bmcast = updateAttribSecInfo cfg sta pkt bmcast := by
  simp [updateAttribSecInfo, txCipher, h, h']

lemma updateAttribSecInfo_tkip {pkt : TxPkt} {bmcast : Bool}
    {sec : TxSec} (h : updateAttribSecInfo cfg sta pkt bmcast = some sec)
    (hsw : sec.bswenc = false) : sec.encrypt ≠ .tkip := by
  rw [updateAttribSecInfo] at h
  obtain ⟨c, -, h⟩ := bind_eq_some_iff.1 h
  rw [txSec] at h
  split_ifs at h
  all_goals
    obtain rfl := Option.some.inj h
    rintro (hc : c.1 = .tkip)
    simp [hc] at hsw

lemma updateAttribSecInfo_ivLen {pkt : TxPkt} {bmcast : Bool}
    {sec : TxSec} (h : updateAttribSecInfo cfg sta pkt bmcast = some sec) :
    sec.ivLen = if (!sec.bswenc && sec.encrypt.zeroHdrlen && cfg.hwFormHdr) = true then 0
      else sec.encrypt.ivLen := by
  rw [updateAttribSecInfo] at h
  obtain ⟨c, -, h⟩ := bind_eq_some_iff.1 h
  rw [txSec] at h
  by_cases htkip : c.1 = .tkip ∧ cfg.busetkipkey = false
  · rw [if_pos htkip] at h
    cases h
  · rw [if_neg htkip] at h
    obtain rfl := Option.some.inj h
    rfl

lemma updateAttrib_seqSta (h : updateAttrib cfg pkt = some a) :
    ∃ i, a.psta = some i ∧ seqSta cfg a = some i := by
  obtain ⟨idx, sta, sec, hidx, hsta, hasoc, -, rfl⟩ := updateAttrib_eq_some.1 h
  refine ⟨idx, rfl, ?_⟩
  simp [seqSta, txAttrib, hidx, hsta, hasoc]

lemma updateAttrib_again {pkt pkt' : TxPkt} {a : TxAttrib}
    (h : updateAttrib cfg pkt = some a) (hip : pkt.etherType = 0x0800)
    (hip' : pkt'.etherType = 0x0800) (hdst : slice pkt'.bytes 0 6 = slice pkt.bytes 0 6)
    (hsrc : slice pkt'.bytes 6 6 = slice pkt.bytes 6 6) (hdhcp : pkt'.dhcpPkt = pkt.dhcpPkt)
    (hup : ∀ sta, txPriority cfg sta pkt = a.priority → txPriority cfg sta pkt' = a.priority) :
    updateAttrib cfg pkt' =
      some { a with pktlen := pkt'.skb.len - 14, icmpPkt := pkt'.icmpPkt } := by
  obtain ⟨idx, sta, sec, hidx, hsta, hasoc, hsec, rfl⟩ := updateAttrib_eq_some.1 h
  have hra : txRa cfg pkt' = txRa cfg pkt := by
    rw [txRa, txRa, hdst]
  have hprio : txPriority cfg sta pkt' = txPriority cfg sta pkt := hup sta rfl
  rw [updateAttrib_eq_some, hra]
  refine ⟨idx, sta, sec, hidx, hsta, hasoc, ?_, ?_⟩
  · rw [updateAttribSecInfo_ip _ hip hip', hsec]
  · simp only [txAttrib, chkHtcEn, hip, hip', hdst, hsrc, hra, hdhcp, hprio]

/-! ## Bytes of a packet -/

lemma byteAt_slice {k n i : ℕ} (hi : i < n) :
    byteAt (slice p k n) i = byteAt p (k + i) := by
  simp [byteAt, slice, getD_eq_getElem?_getD, hi]

lemma slice_slice {k n i m : ℕ} (h : i + m ≤ n) :
    slice (slice p k n) i m = slice p (k + i) m := by
  rw [slice, slice, drop_take, take_take, drop_drop, slice]
  congr 1
  omega

namespace TxPkt

lemma slice_bytes (pkt : TxPkt) {k n : ℕ} (h : k + n ≤ 14) :
    slice pkt.bytes k n = slice pkt.skb.first.head k n := by
  rw [bytes, Skb.bytes, SkbPart.bytes, append_assoc]
  exact slice_append_left _ _ (h.trans pkt.ethHdr)

lemma etherType_eq (pkt : TxPkt) : pkt.etherType = be16At (slice pkt.skb.first.head 6 8) 6 := by
  rw [← pkt.slice_bytes (by decide), be16At, byteAt_slice _ (by decide), byteAt_slice _ (by decide)]
  rfl

def Linear (pkt : TxPkt) : Prop := pkt.skb.first.pages = [] ∧ pkt.skb.fragList = []

variable {pkt : TxPkt}

lemma Linear.bytes (h : pkt.Linear) : pkt.bytes = pkt.skb.first.head := by
  simp [TxPkt.bytes, Skb.bytes, SkbPart.bytes, h.1, h.2]

lemma Linear.len (h : pkt.Linear) : pkt.skb.len = pkt.skb.first.head.length :=
  congrArg length h.bytes

def tos (pkt : TxPkt) : UInt8 := byteAt pkt.skb.first.head 15

lemma Linear.userPriority (h : pkt.Linear) (hip : pkt.etherType = 0x0800)
    (hlen : 16 ≤ pkt.skb.first.head.length) : pkt.userPriority = tosToUp pkt.tos := by
  rw [TxPkt.userPriority, if_pos hip, h.bytes, tos]
  congr 1
  have hget : 1 < ((pkt.skb.first.head.drop 14).take 20).length := by
    rw [length_take, length_drop]
    omega
  rw [byteAt, pktfileRead, getD_append _ _ _ _ hget]
  simp [byteAt, getD_eq_getElem?_getD]

end TxPkt

/-! ## One fragment -/

lemma u32_lt (x : ℤ) : u32 x < 4294967296 := by
  rw [u32]
  omega

lemma getWlFragParas_one {a : TxAttrib} (hone : a.amsdu = false)
    (hlen : a.pktlen + rtwSzLlc + micLen a < 2 ^ 31) :
    (getWlFragParas fragLen a).2 = 1 ↔
      a.pktlen + rtwSzLlc + micLen a ≤ (getWlFragParas fragLen a).1 := by
  simp only [rtwSzLlc] at hlen
  have htotal : u32 ((a.pktlen : ℤ) + rtwSzLlc + micLen a) = a.pktlen + rtwSzLlc + micLen a := by
    rw [u32, rtwSzLlc]
    omega
  have hfrag : (getWlFragParas fragLen a).1 < 4294967296 := u32_lt _
  simp only [getWlFragParas, hone, Bool.false_eq_true, if_false] at hfrag ⊢
  rw [htotal]
  generalize u32 _ = n at hfrag ⊢
  by_cases hle : a.pktlen + rtwSzLlc + micLen a ≤ n
  · simp [Nat.not_lt.2 hle, hle]
  · rw [if_pos (Nat.lt_of_not_le hle)]
    refine iff_of_false ?_ hle
    simp only [rtwSzLlc] at hle ⊢
    have hsum : u32 (((a.pktlen + 8 + micLen a : ℕ) : ℤ) + (n : ℤ) - 1) =
        a.pktlen + 8 + micLen a + n - 1 := by
      rw [u32]
      omega
    rw [hsum]
    intro hdiv
    rcases Nat.eq_zero_or_pos n with rfl | hpos
    · simp at hdiv
    · have htwo : 2 ≤ (a.pktlen + 8 + micLen a + n - 1) / n := by
        rw [Nat.le_div_iff_mul_le hpos]
        omega
      omega

lemma getWlFragParas_hit {a a' : TxAttrib} {len : ℕ} (hone : a.amsdu = false)
    (hlen : a.pktlen + rtwSzLlc + micLen a < 2 ^ 31) (hfrag : (getWlFragParas fragLen a).2 = 1)
    (hhit : len ≤ fragLenTxsc fragLen a) (hge : 14 ≤ len) (hlt : len < 2 ^ 31)
    (hmic : micLen a = 0) (ha' : a' = { a with pktlen := len - 14, icmpPkt := a'.icmpPkt }) :
    (getWlFragParas fragLen a').2 = 1 := by
  have hfits := (getWlFragParas_one hone hlen).1 hfrag
  have hsz : (getWlFragParas fragLen a').1 = (getWlFragParas fragLen a).1 := by rw [ha']; rfl
  have hmic' : micLen a' = 0 := by rw [ha']; exact hmic
  have hpkt' : a'.pktlen = len - 14 := by rw [ha']
  have hone' : a'.amsdu = false := by rw [ha']; exact hone
  have hlt' : (getWlFragParas fragLen a).1 < 4294967296 := u32_lt _
  rw [fragLenTxsc] at hhit
  simp only [rtwSzLlc, hmic] at hlen hfits hhit
  have htotal : u32 ((a.pktlen : ℤ) + (8 : ℕ) + (0 : ℕ)) = a.pktlen + 8 := by
    rw [u32]
    omega
  rw [htotal] at hhit
  have hroom : u32 (((getWlFragParas fragLen a).1 : ℤ) - (((a.pktlen + 8 : ℕ) : ℤ) - a.pktlen)) =
      (getWlFragParas fragLen a).1 - 8 := by
    rw [u32]
    omega
  rw [hroom] at hhit
  rw [getWlFragParas_one hone' (by rw [hpkt', hmic', rtwSzLlc]; omega), hsz, hpkt', hmic', rtwSzLlc]
  omega

lemma fillTxreqListSkb_linear (h : pkt.Linear)
    (hlen : 14 < pkt.skb.first.head.length) :
    fillTxreqListSkb pkt.skb (pkt.skb.len - 14) 14 = [pkt.skb.first.head.drop 14] := by
  have hparts : ¬6 < pkt.skb.totalFragNr := by simp [Skb.totalFragNr, h.1, h.2]
  have hne : pkt.skb.first.head.drop 14 ≠ [] := by
    rw [Ne, drop_eq_nil_iff]
    omega
  rw [fillTxreqListSkb, if_neg hparts, h.2, h.len]
  simp only [fillTxreqListParts, fillTxreqListPart, h.1, hlen, if_true, fillPages, append_nil,
    min_self, slice]
  rw [take_of_length_le (by rw [length_drop]), pktListAppend, if_neg hne]

/-! ## The HT control field -/

/-- What `rtw_he_fill_htc` leaves in the header of a frame to station `i`. -/
def htcField (cfg : TxCfg) (om : Bool) (i : ℕ) : List UInt8 :=
  poke (replicate 4 0) 0 ((cfg.stas[i]?.elim [] fun sta => sta.htc om).take 4)

lemma poke_append (q z bytes : List UInt8) :
    poke (q ++ z) q.length bytes = q ++ poke z 0 bytes := by
  rw [poke, poke, take_left, drop_append, length_append, append_assoc,
    take_length_add_append, drop_eq_nil_of_le (Nat.le_add_right _ _)]
  simp

lemma htcField_length (cfg : TxCfg) (om : Bool) (i : ℕ) : (htcField cfg om i).length = 4 := by
  simp only [htcField, poke, length_take, length_append, length_drop,
    length_replicate]
  omega

lemma hdrOpt_htc (cfg : TxCfg) {a : TxAttrib} {i : ℕ} (horder : a.order = true)
    (hlen : a.hdrlen = 30) (hpsta : a.psta = some i) :
    ∃ qos : List UInt8, qos.length = 2 ∧ ∀ om, hdrOpt cfg om a = qos ++ htcField cfg om i := by
  have hopt : ∀ q : Bool, ∃ qos : List UInt8, qos.length = 2 ∧ ∀ bytes,
      poke (if q then poke (replicate 6 0) 0 (le16Bytes (qosControl a))
        else replicate 6 0) 2 bytes = qos ++ poke (replicate 4 0) 0 bytes := by
    intro q
    refine ⟨if q then le16Bytes (qosControl a) else [0, 0], ?_, fun bytes => ?_⟩
    · cases q <;> rfl
    · rw [← poke_append]
      cases q <;> rfl
  cases hmode : cfg.mode with
  | sta =>
    obtain ⟨qos, hqos, h⟩ := hopt cfg.qosOption
    refine ⟨qos, hqos, fun om => ?_⟩
    simp only [hdrOpt, hmode, horder, hlen, hpsta, if_true]
    exact h _
  | ap =>
    obtain ⟨qos, hqos, h⟩ := hopt a.qosEn
    refine ⟨qos, hqos, fun om => ?_⟩
    simp only [hdrOpt, hmode, horder, hlen, hpsta, if_true]
    exact h _

lemma WlanHdr.slice_opt (h : WlanHdr) (rest : List UInt8) (k n : ℕ) :
    slice (h.bytes ++ rest) (24 + k) n = slice (h.opt ++ rest) k n := by
  rw [WlanHdr.bytes, append_assoc, slice, ← drop_drop, drop_left', slice]
  simp [macBytes, le16Bytes]

/-! ## The full path for one fragment -/

lemma makeWlanhdr_seq (h : seqSta cfg a = some i) :
    (makeWlanhdr cfg c a).2 =
      ({ a with
          seqnum := (c.txseqTid i a.priority + 1) % 4096
          ampduEn := a.ampduEn && !snLess ((c.txseqTid i a.priority + 1) % 4096)
            (c.baStartingSeqctrl i (a.priority % 16)) },
        { frameHdr cfg (omPending cfg c) a with
          seqNum := (c.txseqTid i a.priority + 1) % 4096 }) := by
  have hom : ∀ c' : TxCounters, c' = (if (a.order && omPending cfg c) = true then
      { c with omTxCnt := c.omTxCnt - 1 } else c) → c'.txseqTid = c.txseqTid ∧
      c'.baStartingSeqctrl = c.baStartingSeqctrl := by
    rintro c' rfl
    split_ifs <;> exact ⟨rfl, rfl⟩
  obtain ⟨hseq, hba⟩ := hom _ rfl
  simp only [makeWlanhdr, h, hseq, hba]

def headIv (c : TxCounters) (a : TxAttrib) : List UInt8 :=
  ((if a.ivLen ≠ 0 then updateAttribSecIvInfo c a else (c, [])).2 ++
    replicate a.ivLen 0).take a.ivLen

lemma headIv_eq {c : TxCounters} {a : TxAttrib} (h : a.ivLen = 0 ∨ a.encrypt = .sms4) :
    headIv c a = replicate a.ivLen 0 := by
  have hnil : (if a.ivLen ≠ 0 then updateAttribSecIvInfo c a else (c, [])).2 = [] := by
    rcases h with h | h
    · rw [if_neg (not_not.2 h)]
    · have hiv : (updateAttribSecIvInfo c a).2 = [] := by
        rw [updateAttribSecIvInfo, h]
        cases a.psta <;> rfl
      rw [apply_ite Prod.snd, hiv, ite_self]
  rw [headIv, hnil, nil_append, take_of_length_le (length_replicate).le]

lemma coreWlanFillHead_one (hseq : seqSta cfg a = some i) (hone : a.amsdu = false) :
    coreWlanFillHead cfg 1 c a =
      ((if a.ivLen ≠ 0 then updateAttribSecIvInfo (makeWlanhdr cfg c a).1 (makeWlanhdr cfg c a).2.1
          else ((makeWlanhdr cfg c a).1, [])).1,
        (makeWlanhdr cfg c a).2.1,
        [(makeWlanhdr cfg c a).2.2.bytes ++
          headIv (makeWlanhdr cfg c a).1 (makeWlanhdr cfg c a).2.1 ++ putSnap a.etherType]) := by
  simp only [coreWlanFillHead, fillHeads, headIv, makeWlanhdr_seq c hseq, hone]
  simp [frameHdr]

lemma fillTxreqMdata_eq (cfg : TxCfg) (dozing : Bool) (c : TxCounters) (a : TxAttrib) :
    ∃ iv, (fillTxreqMdata cfg dozing c a).2 = mdataOf cfg dozing iv a ∧
      (pnInMdata cfg a = false → iv = none) := by
  rw [fillTxreqMdata]
  by_cases h : pnInMdata cfg a = true
  · rw [if_pos h]
    refine ⟨_, rfl, fun hno => ?_⟩
    rw [hno] at h
    cases h
  · rw [if_neg h]
    exact ⟨none, rfl, fun _ => rfl⟩

lemma txFullPath_one {dozing : Bool} {c : TxCounters} {pkt : TxPkt} {a : TxAttrib}
    {i : ℕ} (hattr : updateAttrib cfg pkt = some a) (hfrag : (getWlFragParas cfg.fragLen a).2 = 1)
    (hseq : seqSta cfg a = some i) (hiv : a.ivLen = 0 ∨ a.encrypt = .sms4)
    (hpn : pnInMdata cfg a = false) (hone : a.amsdu = false) (hmic : micLen a = 0)
    (hsw : a.bswenc = false) (hlin : pkt.Linear) (hlen : 14 < pkt.skb.first.head.length) :
    let hdr := (makeWlanhdr cfg c a).2.2
    let a' := (makeWlanhdr cfg c a).2.1
    let pktList := [hdr.bytes ++ replicate a.ivLen 0 ++ putSnap a.etherType,
      pkt.skb.first.head.drop 14]
    (txFullPath cfg dozing c pkt).2 =
      some (a', [⟨{ mdataOf cfg dozing none a' with pktlen := totalLen pktList }, pktList⟩]) := by
  have hsz : u32 ((pkt.skb.len : ℤ) - (14 : ℕ)) = pkt.skb.len - 14 := by
    have hlt := pkt.len_lt
    have hl := hlin.len
    rw [u32]
    omega
  have hfrags : fillTxreqPktPerfragTxos a pkt.skb (getWlFragParas cfg.fragLen a).1 1 =
      some [([pkt.skb.first.head.drop 14], 0)] := by
    rw [fillTxreqPktPerfragTxos, if_neg (by decide)]
    simp only [perfrag, zero_add, if_true, hsz, hmic, hsw, fillTxreqListSkb_linear hlin hlen]
    simp
  have hattrib : (makeWlanhdr cfg c a).2.1.ivLen = a.ivLen ∧
      (makeWlanhdr cfg c a).2.1.encrypt = a.encrypt ∧
      pnInMdata cfg (makeWlanhdr cfg c a).2.1 = false := by
    rw [makeWlanhdr_seq c hseq]
    exact ⟨rfl, rfl, hpn⟩
  obtain ⟨hivLen, hencrypt, hpn'⟩ := hattrib
  have hhead := coreWlanFillHead_one c hseq hone
  rw [headIv_eq (by rw [hivLen, hencrypt]; exact hiv), hivLen] at hhead
  simp only [txFullPath, hattr, hfrag, hfrags, hhead]
  rw [fillTxreqMdata, hpn', if_neg Bool.false_ne_true]
  simp [txPktLists, pktListAppend, withMdata]

/-! ## Sequence numbers in a header -/

lemma setSeqNum_length (n : ℕ) : (setSeqNum p n).length = p.length := by
  simp only [setSeqNum, poke, le16Bytes, length_take, length_append, length_drop,
    length_cons, length_nil]
  omega

lemma setSeqNum_append {pre : List UInt8} (h : pre.length = 22) (x y : UInt8)
    (post : List UInt8) (n : ℕ) :
    setSeqNum (pre ++ x :: y :: post) n =
      pre ++ le16Bytes (x.toNat % 16 + 16 * (n % 4096)) ++ post := by
  have hx : byteAt (pre ++ x :: y :: post) 22 = x := by
    simp [byteAt, getD_eq_getElem?_getD, h]
  have hy : byteAt (pre ++ x :: y :: post) 23 = y := by
    simp [byteAt, getD_eq_getElem?_getD, getElem?_append_right, h]
  have hlow : (x.toNat + 256 * y.toNat) % 16 = x.toNat % 16 := by omega
  rw [setSeqNum, le16At, hx, hy, hlow, poke, take_left' h]
  have hdrop : (pre ++ x :: y :: post).drop (22 + (le16Bytes (x.toNat % 16 +
      16 * (n % 4096))).length) = post := by
    rw [show 22 + (le16Bytes _).length = pre.length + 2 by rw [h]; rfl, drop_append]
    simp
  rw [hdrop, take_of_length_le]
  simp only [length_append, length_cons, le16Bytes, length_nil]
  omega

lemma exists_split_seqNum {p : List UInt8} (h : 24 ≤ p.length) :
    ∃ pre x y post, p = pre ++ x :: y :: post ∧ pre.length = 22 := by
  refine ⟨p.take 22, p[22], p[23], p.drop 24, ?_, ?_⟩
  · rw [getElem_cons_drop, getElem_cons_drop, take_append_drop]
  · rw [length_take]
    omega

lemma setSeqNum_setSeqNum {p : List UInt8} (h : 24 ≤ p.length) (m n : ℕ) :
    setSeqNum (setSeqNum p m) n = setSeqNum p n := by
  obtain ⟨pre, x, y, post, rfl, hpre⟩ := exists_split_seqNum h
  rw [setSeqNum_append hpre, le16Bytes, append_assoc]
  simp only [cons_append, nil_append]
  rw [setSeqNum_append hpre, setSeqNum_append hpre, UInt8.toNat_ofNat']
  congr 3
  omega

lemma take_setSeqNum {p : List UInt8} {len : ℕ} (h : 24 ≤ p.length) (hlen : 24 ≤ len) (n : ℕ) :
    (setSeqNum p n).take len = setSeqNum (p.take len) n := by
  obtain ⟨pre, x, y, post, rfl, hpre⟩ := exists_split_seqNum h
  obtain ⟨k, rfl⟩ := Nat.exists_eq_add_of_le hlen
  have htake : ∀ u v : UInt8, (pre ++ u :: v :: post).take (24 + k) =
      pre ++ u :: v :: post.take k := by
    intro u v
    rw [show 24 + k = pre.length + (k + 2) by omega, take_length_add_append]
    rfl
  rw [setSeqNum_append hpre, htake, setSeqNum_append hpre, le16Bytes, append_assoc,
    append_assoc]
  exact htake _ _

lemma setSeqNum_bytes (h : WlanHdr) (m n : ℕ) (rest : List UInt8) :
    setSeqNum ({ h with seqNum := m }.bytes ++ rest) n = { h with seqNum := n }.bytes ++ rest := by
  have hsplit : ∀ k, { h with seqNum := k }.bytes ++ rest =
      ([UInt8.ofNat h.subtype, UInt8.ofNat h.flags, 0, 0] ++ macBytes h.addr1 ++ macBytes h.addr2 ++
        macBytes h.addr3) ++ UInt8.ofNat (16 * (k % 4096)) ::
          UInt8.ofNat (16 * (k % 4096) / 256) :: (h.opt ++ rest) := by
    intro k
    simp [WlanHdr.bytes, WlanHdr.flags, le16Bytes]
  rw [hsplit m, hsplit n, setSeqNum_append (by simp [macBytes]), UInt8.toNat_ofNat', le16Bytes]
  have hzero : 16 * (m % 4096) % 2 ^ 8 % 16 = 0 := by omega
  rw [hzero, zero_add]
  simp

end Rtl8831.Core
