import Rtl8831.Core.XmitShortcutSpec

/-!
# The TX shortcut along a run

Every entry in use was made from a packet whose attributes are those of its
station.  For a packet that fits the entry the shortcut builds the request of
the full path.
-/

namespace Rtl8831.Core

open Lib List

/-- Entry `e` of station `i` was made from `pkt` with attributes `a`. -/
structure MadeFrom (cfg : TxCfg) (i : ℕ) (e : TxscEntry) (pkt : TxPkt) (a : TxAttrib) : Prop where
  attr : updateAttrib cfg pkt = some a
  psta : a.psta = some i
  ip : a.etherType = 0x0800
  qos : a.qosEn = true
  ampdu : a.ampduEn = true
  single : isMcast a.ra = false
  dhcp : a.dhcpPkt = false
  hw : a.bswenc = false
  frags : (getWlFragParas cfg.fragLen a).2 = 1
  ethdr : e.ethdr = slice pkt.skb.first.head 0 14
  fragLen : e.fragLen = fragLenTxsc cfg.fragLen a
  wlhdr : ∃ om seq iv, e.wlhdr =
      { frameHdr cfg om a with seqNum := seq }.bytes ++ iv ++ putSnap a.etherType ∧
    (a.ivLen = 0 ∨ a.encrypt = .sms4 → iv = replicate a.ivLen 0)
  mdata : ∃ dozing iv seq len, e.mdata =
      { mdataOf cfg dozing iv { a with seqnum := seq } with pktlen := len } ∧
    (pnInMdata cfg a = false → iv = none)

namespace MadeFrom

variable {cfg : TxCfg} {i : ℕ} {e : TxscEntry} {pkt : TxPkt} {a : TxAttrib}

section

variable (h : MadeFrom cfg i e pkt a)
include h

lemma attr_eq :
    ∃ sta sec, cfg.getStainfo (txRa cfg pkt) = some i ∧ cfg.stas[i]? = some sta ∧
      updateAttribSecInfo cfg sta pkt (isMcast (txRa cfg pkt)) = some sec ∧
      a = txAttrib cfg pkt i sta sec := by
  obtain ⟨idx, sta, sec, hidx, hsta, -, hsec, ha⟩ := updateAttrib_eq_some.mp h.attr
  have hi : idx = i := by
    have hpsta := h.psta
    rw [ha] at hpsta
    exact Option.some.inj hpsta
  subst hi
  exact ⟨sta, sec, hidx, hsta, hsec, ha⟩

lemma seqSta_eq : seqSta cfg a = some i := by
  obtain ⟨j, hj, hseq⟩ := updateAttrib_seqSta h.attr
  rw [hseq, ← hj, h.psta]

lemma not_bc : a.ra ≠ [255, 255, 255, 255, 255, 255] := by
  intro hra
  have hsingle := h.single
  rw [hra] at hsingle
  exact absurd hsingle (by decide)

lemma tid_eq : e.mdata.tid = a.priority := by
  obtain ⟨dozing, iv, seq, len, hm, -⟩ := h.mdata
  simp [hm, mdataOf, h.single, h.not_bc]

lemma aCtrlBsr_eq :
    e.mdata.aCtrlBsr = if a.order then some true else none := by
  obtain ⟨dozing, iv, seq, len, hm, -⟩ := h.mdata
  rw [hm]
  rfl

lemma hwEnc_eq :
    e.mdata.secHwEnc = a.hwEnc ∧ e.mdata.secType = if a.hwEnc then a.encrypt else .noPrivacy := by
  obtain ⟨dozing, iv, seq, len, hm, -⟩ := h.mdata
  rw [hm]
  exact ⟨rfl, rfl⟩

lemma hdrlen_eq (horder : a.order = true) : a.hdrlen = 30 := by
  have hqos := h.qos
  obtain ⟨sta, sec, -, -, -, rfl⟩ := h.attr_eq
  simp only [txAttrib] at horder hqos ⊢
  rw [if_pos horder, if_pos hqos]

lemma mic_eq : micLen a = 0 := by
  obtain ⟨sta, sec, -, -, hsec, rfl⟩ := h.attr_eq
  have htkip : sec.encrypt ≠ .tkip := updateAttribSecInfo_tkip hsec h.hw
  exact if_neg htkip

end


end MadeFrom

/-- The packet agrees with the one that entry `j` of station `i` was made
from in what the full path looks at, it needs no packet number, it is not
behind the block ack window, and request buffer `b` holds the header of the
entry if the shortcut believes so. -/
structure TxscFits (cfg : TxCfg) (st : TxscState) (i j : ℕ) (pkt : TxPkt) (b : ℕ) : Prop where
  linear : pkt.Linear
  len : 16 ≤ pkt.skb.first.head.length
  dst : cfg.mode = .sta →
    slice pkt.skb.first.head 0 6 = slice ((st.sta i).entry j).ethdr 0 6
  tid : tosToUp pkt.tos = ((st.sta i).entry j).mdata.tid
  acm : cfg.mode = .sta → cfg.acmMask ≠ 0 →
    qosAcm cfg.acmMask (tosToUp pkt.tos) = tosToUp pkt.tos
  dhcp : pkt.dhcpPkt = false
  window : snLess ((st.counters.txseqTid i (tosToUp pkt.tos) + 1) % 4096)
    (st.counters.baStartingSeqctrl i (tosToUp pkt.tos)) = false
  pn : ((st.sta i).entry j).mdata.secHwEnc = true → ((st.sta i).entry j).mdata.secType ≠ .sms4 →
    (((st.sta i).entry j).mdata.secType.zeroHdrlen = true → cfg.hwFormHdr = true) ∧
      (cfg.hwFormHdr = true → cfg.hwSecIv = true)
  htc : ((st.sta i).entry j).mdata.aCtrlBsr = some true →
    slice ((st.sta i).entry j).wlhdr 26 4 = htcField cfg (omPending cfg st.counters) i
  buf : (st.buf b).macid = ((st.sta i).entry j).mdata.macid → (st.buf b).txscId = j →
    setSeqNum ((st.buf b).head.take ((st.sta i).entry j).wlhdr.length) 0 =
      setSeqNum ((st.sta i).entry j).wlhdr 0

lemma txscSta_macAddr {cfg : TxCfg} {st : TxscState} {da : List UInt8} {i : ℕ}
    (hap : cfg.mode = .ap) (h : txscSta cfg st da = some i) :
    cfg.stas[i]?.map TxSta.macAddr = some da := by
  rw [txscSta, hap] at h
  rcases Option.or_eq_some_iff.mp h with hc | ⟨-, hs⟩
  · exact of_decide_eq_true (Option.filter_eq_some_iff.mp hc).2
  · by_cases hm : isMcast da = true
    · rw [if_pos hm] at hs
      cases hs
    · rw [if_neg hm] at hs
      exact getStainfo_macAddr hs (Bool.eq_false_of_not_eq_true hm)

section

variable {cfg : TxCfg} {st st₀ : TxscState} {i j b : ℕ} {pkt pkt' : TxPkt} {a : TxAttrib}

section

variable (h : MadeFrom cfg i ((st.sta i).entry j) pkt a)
include h

lemma MadeFrom.dst_eq
    (hfits : TxscFits cfg st i j pkt' b)
    (hsta : txscSta cfg st₀ (slice pkt'.skb.first.head 0 6) = some i) :
    slice pkt'.bytes 0 6 = slice pkt.bytes 0 6 := by
  rw [pkt'.slice_bytes (by decide), pkt.slice_bytes (by decide)]
  by_cases hmode : cfg.mode = .sta
  · rw [hfits.dst hmode, h.ethdr, slice_slice _ (by decide)]
  · have hap : cfg.mode = .ap := by
      cases hm : cfg.mode with
      | ap => rfl
      | sta => exact absurd hm hmode
    obtain ⟨sta, sec, hidx, -, -, ha⟩ := h.attr_eq
    have hsingle : isMcast (txRa cfg pkt) = false := by
      have hra := h.single
      rwa [ha] at hra
    have hmac := txscSta_macAddr hap hsta
    rw [getStainfo_macAddr hidx hsingle] at hmac
    rw [← Option.some.inj hmac, txRa, hap]
    exact pkt.slice_bytes (by decide)

lemma MadeFrom.ip_eq :
    pkt.etherType = 0x0800 := by
  obtain ⟨sta, sec, -, -, -, ha⟩ := h.attr_eq
  have hip := h.ip
  rwa [ha] at hip

lemma MadeFrom.dhcp_eq :
    pkt.dhcpPkt = false := by
  obtain ⟨sta, sec, -, -, -, ha⟩ := h.attr_eq
  have hdhcp := h.dhcp
  rwa [ha] at hdhcp

lemma MadeFrom.hit
    (hhit : txscHit pkt' ((st.sta i).entry j) = true) :
    slice pkt'.bytes 6 6 = slice pkt.bytes 6 6 ∧ pkt'.etherType = 0x0800 ∧
      pkt'.skb.len ≤ fragLenTxsc cfg.fragLen a := by
  obtain ⟨hkey, hlen⟩ := (Bool.and_eq_true _ _).mp hhit
  have hkey : slice pkt'.skb.first.head 6 8 = slice pkt.skb.first.head 6 8 := by
    rw [of_decide_eq_true hkey, h.ethdr, slice_slice _ (by decide)]
  refine ⟨?_, ?_, ?_⟩
  · rw [pkt'.slice_bytes (by decide), pkt.slice_bytes (by decide)]
    have hsrc : ∀ p : List UInt8, slice p 6 6 = slice (slice p 6 8) 0 6 := by
      intro p
      rw [slice_slice p (by decide)]
    rw [hsrc, hkey, ← hsrc]
  · rw [pkt'.etherType_eq, hkey, ← pkt.etherType_eq, h.ip_eq]
  · rw [← h.fragLen]
    exact of_decide_eq_true hlen

lemma MadeFrom.pn
    (hfits : TxscFits cfg st i j pkt' b) :
    pnInMdata cfg a = false ∧ (a.ivLen = 0 ∨ a.encrypt = .sms4) := by
  have hpn := hfits.pn
  obtain ⟨henc, htype⟩ := h.hwEnc_eq
  rw [htype, henc] at hpn
  have hhw : a.hwEnc = decide (a.encrypt ≠ .noPrivacy) := by
    rw [TxAttrib.hwEnc, h.hw]
    exact Bool.and_true _
  obtain ⟨sta, sec, -, -, hsec, ha⟩ := h.attr_eq
  have hiv := updateAttribSecInfo_ivLen hsec
  have hsw : sec.bswenc = false := by
    have hbsw := h.hw
    rwa [ha] at hbsw
  have hlen : a.ivLen = sec.ivLen := by rw [ha]; rfl
  have hcipher : a.encrypt = sec.encrypt := by rw [ha]; rfl
  rw [← hlen, ← hcipher, hsw] at hiv
  by_cases hplain : a.encrypt = .noPrivacy
  · refine ⟨by simp [pnInMdata, hhw, hplain], Or.inl ?_⟩
    rw [hiv, hplain]
    rfl
  · have hon : a.hwEnc = true := by rw [hhw]; exact decide_eq_true hplain
    rw [hon, if_pos rfl] at hpn
    by_cases hsms : a.encrypt = .sms4
    · exact ⟨by simp [pnInMdata, hsms], Or.inr hsms⟩
    · obtain ⟨hzero, hform⟩ := hpn rfl hsms
      constructor
      · cases hf : cfg.hwFormHdr with
        | false => simp [pnInMdata, hf]
        | true => simp [pnInMdata, hform hf]
      · left
        cases hz : a.encrypt.zeroHdrlen with
        | true => rw [hiv, hz, hzero hz]; rfl
        | false =>
          rw [hiv, hz]
          revert hplain hsms hz
          cases a.encrypt <;> simp [SecurityType.zeroHdrlen, SecurityType.ivLen]

lemma MadeFrom.updateAttrib_fits
    (hfits : TxscFits cfg st i j pkt' b)
    (hsta : txscSta cfg st₀ (slice pkt'.skb.first.head 0 6) = some i)
    (hhit : txscHit pkt' ((st.sta i).entry j) = true) :
    updateAttrib cfg pkt' =
      some { a with pktlen := pkt'.skb.len - 14, icmpPkt := pkt'.icmpPkt } := by
  obtain ⟨hsrc, hip, -⟩ := h.hit hhit
  refine updateAttrib_again h.attr h.ip_eq hip (h.dst_eq hfits hsta) hsrc ?_ ?_
  · rw [hfits.dhcp, h.dhcp_eq]
  · intro sta hprio
    have hup : pkt'.userPriority = a.priority := by
      rw [hfits.linear.userPriority hip hfits.len, hfits.tid, h.tid_eq]
    have hacm := hfits.acm
    rw [hfits.tid, h.tid_eq] at hacm
    rw [txPriority] at hprio ⊢
    by_cases hqos : useQos cfg sta = true
    · rw [if_pos hqos, hup]
      by_cases hmask : cfg.mode = .sta ∧ cfg.acmMask ≠ 0
      · rw [if_pos hmask, hacm hmask.1 hmask.2]
      · rw [if_neg hmask]
    · rw [if_neg hqos] at hprio ⊢
      exact hprio

end


lemma TxscFits.head_eq (hfits : TxscFits cfg st i j pkt' b) (seq : ℕ)
    (hlen : 24 ≤ ((st.sta i).entry j).wlhdr.length) :
    (if (st.buf b).macid = ((st.sta i).entry j).mdata.macid ∧ (st.buf b).txscId = j then
        setSeqNum (st.buf b).head seq
      else copyTo (st.buf b).head (setSeqNum ((st.sta i).entry j).wlhdr seq)).take
        ((st.sta i).entry j).wlhdr.length =
      setSeqNum ((st.sta i).entry j).wlhdr seq := by
  by_cases hprev : (st.buf b).macid = ((st.sta i).entry j).mdata.macid ∧ (st.buf b).txscId = j
  · have hbuf := hfits.buf hprev.1 hprev.2
    have hlong : ((st.buf b).head.take ((st.sta i).entry j).wlhdr.length).length =
        ((st.sta i).entry j).wlhdr.length := by
      rw [← setSeqNum_length _ 0, hbuf, setSeqNum_length]
    have hhead : 24 ≤ (st.buf b).head.length := by
      rw [length_take] at hlong
      omega
    rw [if_pos hprev, take_setSeqNum hhead hlen,
      ← setSeqNum_setSeqNum (by rw [hlong]; exact hlen) 0, hbuf, setSeqNum_setSeqNum hlen]
  · rw [if_neg hprev, copyTo, take_left' (setSeqNum_length _ _)]

lemma MadeFrom.frameHdr_eq {om : Bool} {seq : ℕ} {rest : List UInt8}
    (h : MadeFrom cfg i ((st.sta i).entry j) pkt a) (hfits : TxscFits cfg st i j pkt' b)
    (hwl : ((st.sta i).entry j).wlhdr =
      { frameHdr cfg om a with seqNum := seq }.bytes ++ rest) :
    frameHdr cfg om a = frameHdr cfg (omPending cfg st.counters) a := by
  have hopt : hdrOpt cfg om a = hdrOpt cfg (omPending cfg st.counters) a := by
    cases horder : a.order with
    | false => simp [hdrOpt, horder]
    | true =>
      have hhtc := hfits.htc (by rw [h.aCtrlBsr_eq, if_pos horder])
      obtain ⟨qos, hqos, hfield⟩ := hdrOpt_htc cfg horder (h.hdrlen_eq horder) h.psta
      have hslice : slice ((st.sta i).entry j).wlhdr 26 4 = htcField cfg om i := by
        rw [hwl, WlanHdr.slice_opt _ _ 2]
        simp only [frameHdr, hfield]
        rw [slice, append_assoc, drop_left' hqos, take_left' (htcField_length _ _ _)]
      rw [hfield, hfield, ← hslice, hhtc]
  rw [frameHdr, hopt, frameHdr]

lemma TxscFits.payload_eq (hfits : TxscFits cfg st i j pkt' b) :
    ((pkt'.skb.first.head ++ pkt'.behind).drop 14 ++ replicate (pkt'.skb.len - 14) 0).take
      (pkt'.skb.len - 14) = pkt'.skb.first.head.drop 14 := by
  have hge := hfits.len
  rw [hfits.linear.len, drop_append_of_le_length (by omega), append_assoc,
    take_left' length_drop]

lemma TxscFits.tos_eq (hfits : TxscFits cfg st i j pkt' b) :
    byteAt (pkt'.skb.first.head ++ pkt'.behind) 15 = pkt'.tos := by
  have hge := hfits.len
  rw [byteAt, getD_append _ _ _ _ (by omega)]
  rfl

lemma MadeFrom.mdata_eq (h : MadeFrom cfg i ((st.sta i).entry j) pkt a)
    (hpn : pnInMdata cfg a = false) (dozing : Bool) (seq len : ℕ) (icmp : Bool) (total : ℕ) :
    { mdataOf cfg dozing none { a with pktlen := len, icmpPkt := icmp, seqnum := seq } with
        pktlen := total } =
      { ((st.sta i).entry j).mdata with
        tid := a.priority, cat := cvtTidToCat a.priority, swSeq := seq, pktlen := total } := by
  obtain ⟨dozing', iv, seq', len', hm, hnone⟩ := h.mdata
  rw [hm, hnone hpn]
  have hbc := h.not_bc
  simp [mdataOf, h.single, hbc, TxAttrib.hwEnc, pnInMdata, getSecurityCamId, TxAttrib.lowRate]

section

variable (h : MadeFrom cfg i ((st.sta i).entry j) pkt a) (hfits : TxscFits cfg st i j pkt' b)
include h hfits

lemma MadeFrom.prio_eq : tosToUp pkt'.tos = a.priority := by
  rw [hfits.tid, h.tid_eq]

lemma MadeFrom.makeWlanhdr_fits (len : ℕ) (icmp : Bool) :
    (makeWlanhdr cfg st.counters { a with pktlen := len, icmpPkt := icmp }).2 =
      ({ a with
          pktlen := len, icmpPkt := icmp
          seqnum := (st.counters.txseqTid i a.priority + 1) % 4096 },
        { frameHdr cfg (omPending cfg st.counters) a with
          seqNum := (st.counters.txseqTid i a.priority + 1) % 4096 }) := by
  have hprio := h.prio_eq hfits
  have hsmall : a.priority % 16 = a.priority := by
    have h256 := pkt'.tos.toNat_lt
    rw [← hprio, tosToUp]
    omega
  have hwin := hfits.window
  rw [hprio] at hwin
  have hseq : seqSta cfg { a with pktlen := len, icmpPkt := icmp } = some i := h.seqSta_eq
  rw [makeWlanhdr_seq _ hseq]
  simp only [hsmall, hwin, Bool.not_false, Bool.and_true]
  rfl

lemma MadeFrom.request_eq :
    let seq := (st.counters.txseqTid i a.priority + 1) % 4096
    let pktList := [{ frameHdr cfg (omPending cfg st.counters) a with seqNum := seq }.bytes ++
      replicate a.ivLen 0 ++ putSnap a.etherType, pkt'.skb.first.head.drop 14]
    (txscApplyScCachedEntry st i j pkt' b).2 =
      ⟨{ ((st.sta i).entry j).mdata with
          tid := a.priority, cat := cvtTidToCat a.priority, swSeq := seq
          pktlen := totalLen pktList }, pktList⟩ := by
  intro seq pktList
  obtain ⟨om, seq', iv, hwl, hiv⟩ := h.wlhdr
  rw [append_assoc] at hwl
  have hhdr : setSeqNum ((st.sta i).entry j).wlhdr seq =
      { frameHdr cfg (omPending cfg st.counters) a with seqNum := seq }.bytes ++
        replicate a.ivLen 0 ++ putSnap a.etherType := by
    rw [← h.frameHdr_eq hfits hwl, hwl, hiv (h.pn hfits).2, setSeqNum_bytes, ← append_assoc]
  have hlen : 24 ≤ ((st.sta i).entry j).wlhdr.length := by
    rw [hwl, length_append, WlanHdr.bytes_length]
    omega
  have hhead := hfits.head_eq seq hlen
  simp only [txscApplyScCachedEntry, hfits.tos_eq, h.prio_eq hfits, hfits.payload_eq,
    setSeqNum_length]
  rw [hhead, hhdr]

lemma MadeFrom.agrees
    (hsta : txscSta cfg st₀ (slice pkt'.skb.first.head 0 6) = some i)
    (hhit : txscHit pkt' ((st.sta i).entry j) = true) (dozing : Bool) :
    (txFullPath cfg dozing st.counters pkt').2.map Prod.snd =
      some [(txscApplyScCachedEntry st i j pkt' b).2] := by
  obtain ⟨hpn, hiv⟩ := h.pn hfits
  have hattr := h.updateAttrib_fits hfits hsta hhit
  have hge := hfits.len
  have hone : a.amsdu = false ∧ a.pktlen = pkt.skb.len - 14 := by
    obtain ⟨sta, sec, -, -, -, rfl⟩ := h.attr_eq
    exact ⟨rfl, rfl⟩
  have hfrag : (getWlFragParas cfg.fragLen
      { a with pktlen := pkt'.skb.len - 14, icmpPkt := pkt'.icmpPkt }).2 = 1 := by
    have hlt := pkt.len_lt
    have heth := pkt.ethHdr
    have hlen : pkt.skb.first.head.length ≤ pkt.skb.len := by
      simp [Skb.len, Skb.bytes, SkbPart.bytes]
    refine getWlFragParas_hit hone.1 ?_ h.frags (h.hit hhit).2.2 ?_ pkt'.len_lt h.mic_eq rfl
    · rw [h.mic_eq, hone.2, rtwSzLlc]
      omega
    · rw [hfits.linear.len]
      omega
  have hfull := @txFullPath_one cfg dozing st.counters pkt' _ i hattr hfrag h.seqSta_eq hiv hpn hone.1
    h.mic_eq h.hw hfits.linear (by omega)
  rw [h.makeWlanhdr_fits hfits] at hfull
  rw [hfull, h.request_eq hfits, ← h.mdata_eq hpn dozing]
  rfl

end


end

end Rtl8831.Core
