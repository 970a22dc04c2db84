import Rtl8831.Core.Xmit

/-!
# Attributes and meta data of a packet

`update_attrib`, `fill_txreq_mdata`, and with them the requests that the full
path of `rtw_core_tx` builds for a packet.  The MIC of TKIP and encryption in
software are not part of it.
-/

namespace Rtl8831.Core

/-- A packet given to `rtw_core_tx`, with its Ethernet header in the linear
part; `behind` is the memory after that part.  The arrays are what local
buffers of `update_attrib` and `set_qos` hold before they are filled, and the
two flags what `parsing_eapol_packet` and the clock say about EAPOL. -/
structure TxPkt where
  skb : Skb
  behind : List UInt8 := []
  ipArray : List UInt8 := []
  udpArray : List UInt8 := []
  ipHdrArray : List UInt8 := []
  eapolPlain : Bool := false
  eapol44 : Bool := false
  ethHdr : 14 ≤ skb.first.head.length
  len_lt : skb.len < 2 ^ 31

/-- `_rtw_pktfile_read` of `n` bytes into an array. -/
def pktfileRead (rest : List UInt8) (n : ℕ) (array : List UInt8) : List UInt8 :=
  rest.take n ++ array.drop (rest.take n).length

namespace TxPkt

def bytes (pkt : TxPkt) : List UInt8 := pkt.skb.bytes

def etherType (pkt : TxPkt) : ℕ := be16At pkt.bytes 12

def ip (pkt : TxPkt) : List UInt8 := pktfileRead (pkt.bytes.drop 14) 20 pkt.ipArray

def icmpPkt (pkt : TxPkt) : Bool :=
  decide (pkt.etherType = 0x0800) && decide (byteAt pkt.ip 9 = 1)

/-- Options of the IP header are skipped by `GET_IPV4_IHL(ip) - 20` bytes,
an unsigned number, which leaves nothing to read. -/
def udp (pkt : TxPkt) : List UInt8 :=
  let rest := if 20 < (byteAt pkt.ip 0).toNat % 16 * 4 then [] else pkt.bytes.drop 34
  pktfileRead rest 24 pkt.udpArray

def dhcpPkt (pkt : TxPkt) : Bool :=
  decide (pkt.etherType = 0x0800) && decide (byteAt pkt.ip 9 = 17) &&
    decide ((be16At pkt.udp 0 = 68 ∧ be16At pkt.udp 2 = 67) ∨
      (be16At pkt.udp 0 = 67 ∧ be16At pkt.udp 2 = 68)) &&
    decide (282 < pkt.skb.len - 14)

end TxPkt

/-- `tos_to_up` with the mapping rule "tos". -/
def tosToUp (tos : UInt8) : ℕ := tos.toNat / 32

def qosAcm (acmMask priority : ℕ) : ℕ :=
  match priority with
  | 0 | 3 => if acmMask.testBit 1 then 1 else priority
  | 4 | 5 => if acmMask.testBit 2 then 0 else priority
  | 6 | 7 => if acmMask.testBit 3 then 5 else priority
  | _ => priority

/-- The user priority in `set_qos`. -/
def TxPkt.userPriority (pkt : TxPkt) : ℕ :=
  if pkt.etherType = 0x0800 then
    tosToUp (byteAt (pktfileRead (pkt.bytes.drop 14) 20 pkt.ipHdrArray) 1)
  else 0

/-- The ciphers for which `hw_security_zero_hdrlen` is set. -/
def SecurityType.zeroHdrlen : SecurityType → Bool
  | .wep40 | .wep104 | .tkip | .aes | .gcmp | .gcmp256 | .ccmp256 => true
  | _ => false

structure TxSec where
  encrypt : SecurityType
  keyIdx : ℕ
  ivLen : ℕ
  icvLen : ℕ
  bswenc : Bool

/-- The cipher and the key index in `update_attrib_sec_info`. -/
def txCipher (cfg : TxCfg) (sta : TxSta) (pkt : TxPkt) (bmcast : Bool) :
    Option (SecurityType × ℕ) :=
  let eapol := pkt.etherType = 0x888e
  if sta.ieee8021xBlocked = true ∨ (eapol ∧ pkt.eapolPlain = true) then
    if eapol then some (.noPrivacy, 0) else none
  else
    let encrypt := getEncryAlgo cfg.auth cfg.privacyAlgrthm cfg.grpPrivacy sta.dot118021XPrivacy
      .noPrivacy bmcast
    let keyIdx := match cfg.auth with
      | .openSystem | .shared | .auto => cfg.privacyKeyIndex
      | .ieee8021X => if bmcast then cfg.grpKeyid else 0
      | _ => 0
    let plain := (encrypt = .wep40 ∨ encrypt = .wep104) ∧ eapol
    some (if plain then .noPrivacy else encrypt, keyIdx)

/-- The rest of `update_attrib_sec_info`, for a cipher. -/
def txSec (cfg : TxCfg) (sta : TxSta) (bmcast eapol44 : Bool) (encrypt : SecurityType)
    (keyIdx : ℕ) : Option TxSec :=
  if encrypt = .tkip ∧ cfg.busetkipkey = false then none
  else
    let hwDecrypted := if bmcast then cfg.hwDecrypted else sta.hwDecrypted
    let bswenc := decide (encrypt ≠ .noPrivacy) &&
      (cfg.swEncrypt || !hwDecrypted || decide (encrypt = .tkip) || eapol44)
    let zero := !bswenc && encrypt.zeroHdrlen && cfg.hwFormHdr
    some ⟨encrypt, keyIdx, if zero then 0 else encrypt.ivLen, encrypt.icvLen, bswenc⟩

def updateAttribSecInfo (cfg : TxCfg) (sta : TxSta) (pkt : TxPkt) (bmcast : Bool) :
    Option TxSec :=
  (txCipher cfg sta pkt bmcast).bind fun c =>
    txSec cfg sta bmcast (decide (pkt.etherType = 0x888e) && pkt.eapol44) c.1 c.2

def useQos (cfg : TxCfg) (sta : TxSta) : Bool :=
  match cfg.mode with
  | .sta => cfg.qosOption
  | .ap => sta.qosOption

def txPriority (cfg : TxCfg) (sta : TxSta) (pkt : TxPkt) : ℕ :=
  if useQos cfg sta then
    if cfg.mode = .sta ∧ cfg.acmMask ≠ 0 then qosAcm cfg.acmMask pkt.userPriority
    else pkt.userPriority
  else 0

def chkHtcEn (sta : TxSta) (pkt : TxPkt) : Bool :=
  sta.htcEn && !(decide (pkt.etherType = 0x888e) || decide (pkt.etherType = 0x0806) || pkt.dhcpPkt)

def txRa (cfg : TxCfg) (pkt : TxPkt) : List UInt8 :=
  match cfg.mode with
  | .sta => cfg.bssid
  | .ap => slice pkt.bytes 0 6

def txAttrib (cfg : TxCfg) (pkt : TxPkt) (idx : ℕ) (sta : TxSta) (sec : TxSec) : TxAttrib :=
  let qos := useQos cfg sta
  let order := chkHtcEn sta pkt
  { etherType := pkt.etherType, dst := slice pkt.bytes 0 6, src := slice pkt.bytes 6 6
    ra := txRa cfg pkt, ta := cfg.macAddr, psta := some idx, macId := sta.macid
    pktlen := pkt.skb.len - 14, icmpPkt := pkt.icmpPkt, dhcpPkt := pkt.dhcpPkt
    encrypt := sec.encrypt, keyIdx := sec.keyIdx, ivLen := sec.ivLen, icvLen := sec.icvLen
    bswenc := sec.bswenc
    hdrlen := if order then (if sta.qosOption then 30 else 28) else if qos then 26 else 24
    subtype := if qos then 0x88 else 8
    qosEn := sta.qosOption, priority := txPriority cfg sta pkt, order
    ampduEn := sta.aggEnable (txPriority cfg sta pkt), phy := sta.phy }

/-- `update_attrib`, after `rtw_ap_addr_resolve` for an access point. -/
def updateAttrib (cfg : TxCfg) (pkt : TxPkt) : Option TxAttrib :=
  (cfg.getStainfo (txRa cfg pkt)).bind fun idx => cfg.stas[idx]?.bind fun sta =>
    if sta.asoc = false then none
    else (updateAttribSecInfo cfg sta pkt (isMcast (txRa cfg pkt))).map (txAttrib cfg pkt idx sta)

/-- `enum rtw_phl_ring_cat`, for data frames. -/
inductive RingCat
  | tid (n : ℕ)
  | hiq
  deriving DecidableEq

def cvtTidToCat (tid : ℕ) : RingCat := .tid (if tid < 8 then tid else 0)

/-- `struct rtw_t_meta_data`, without what is the same for all data frames.
A field that `fill_txreq_mdata` may leave as it finds it is optional. -/
structure MetaData where
  macid : ℕ := 0
  hdrLen : ℕ := 0
  swSeq : ℕ := 0
  hwSecIv : Bool := false
  secHwEnc : Bool := false
  secType : SecurityType := .noPrivacy
  secKeyid : Option ℕ := none
  iv : Option (List UInt8) := none
  forceKeyEn : Option Bool := none
  secCamIdx : Option ℕ := none
  ampduEn : Bool := false
  bk : Bool := false
  maxAggNum : Option ℕ := none
  disDataRateFb : Bool := false
  cckLowestRate : Bool := false
  rtsEn : Bool := false
  cts2self : Bool := false
  hwRtsEn : Bool := false
  fBw : ℕ := 0
  fGiLtf : Bool := false
  mc : Bool := false
  bc : Bool := false
  aCtrlBsr : Option Bool := none
  cat : RingCat := .tid 0
  tid : ℕ := 0
  userateSel : Bool := false
  fRate : Option ℕ := none
  fStbc : Bool := false
  fLdpc : Bool := false
  pktlen : ℕ := 0
  deriving DecidableEq

def TxAttrib.hwEnc (a : TxAttrib) : Bool := decide (a.encrypt ≠ .noPrivacy) && !a.bswenc

/-- Whether `fill_txreq_mdata` takes a packet number. -/
def pnInMdata (cfg : TxCfg) (a : TxAttrib) : Bool :=
  a.hwEnc && cfg.hwFormHdr && decide (a.encrypt ≠ .sms4) && !cfg.hwSecIv

def getSecurityCamId (cfg : TxCfg) (a : TxAttrib) : ℕ :=
  let group := isMcast a.ra && !(decide (a.encrypt = .wep40) || decide (a.encrypt = .wep104))
  let sta := (cfg.getStainfo (if isMcast a.ra then cfg.bssid else a.ra)).bind fun i => cfg.stas[i]?
  sta.elim 0 fun sta => sta.secCamIdx a.keyIdx group

def TxAttrib.lowRate (a : TxAttrib) : Bool :=
  decide (a.etherType = 0x888e) || decide (a.etherType = 0x0806) || a.dhcpPkt

def rtwDataRateOfdm6 : ℕ := 4

/-- What `fill_txreq_mdata` fills in, but for the length; `dozing` says that
some station sleeps. -/
def mdataOf (cfg : TxCfg) (dozing : Bool) (iv : Option (List UInt8)) (a : TxAttrib) : MetaData :=
  let sta := a.psta.bind fun i => cfg.stas[i]?
  let mc := isMcast a.ra
  let bc := decide (a.ra = List.replicate 6 255)
  let hiq := (mc || bc) && dozing
  { macid := a.macId, hdrLen := a.hdrlen / 2, swSeq := a.seqnum, hwSecIv := cfg.hwSecIv
    secHwEnc := a.hwEnc
    secType := if a.hwEnc then a.encrypt else .noPrivacy
    secKeyid := if pnInMdata cfg a then some a.keyIdx else none
    iv
    forceKeyEn := if a.hwEnc then some (!cfg.hwTxSearchKey) else none
    secCamIdx := if a.hwEnc && !cfg.hwTxSearchKey then some (getSecurityCamId cfg a) else none
    ampduEn := a.ampduEn, bk := !a.ampduEn
    maxAggNum := if a.ampduEn then some (sta.elim 0 TxSta.numAmpdu) else none
    disDataRateFb := !a.lowRate && cfg.fixRate.isSome && !cfg.dataFb
    cckLowestRate := cfg.band24G
    rtsEn := a.phy.rtsen, cts2self := a.phy.cts2self, hwRtsEn := a.phy.hwRtsEn
    fBw := if a.lowRate then 0 else cfg.fixBw.getD a.phy.bwmode
    fGiLtf := if a.lowRate then a.phy.sgi else cfg.fixRate.elim a.phy.sgi Prod.snd
    mc, bc
    aCtrlBsr := if a.order then some true else none
    cat := if hiq then .hiq else cvtTidToCat a.priority
    tid := if hiq then 0 else a.priority
    userateSel := a.lowRate || cfg.fixRate.isSome
    fRate := if a.lowRate then some (if cfg.cckTxRate then 0 else rtwDataRateOfdm6)
      else cfg.fixRate.map Prod.fst
    fStbc := a.phy.stbc, fLdpc := a.phy.ldpc }

/-- `fill_txreq_mdata`, but for the length. -/
def fillTxreqMdata (cfg : TxCfg) (dozing : Bool) (c : TxCounters) (a : TxAttrib) :
    TxCounters × MetaData :=
  if pnInMdata cfg a then
    let pn := a.psta.elim 0 c.dot11txpn
    ((updateAttribSecIvInfo c a).1, mdataOf cfg dozing (some ((List.range 6).map (tsc pn))) a)
  else (c, mdataOf cfg dozing none a)

/-- `struct rtw_xmit_req`: meta data and list of buffers. -/
structure XmitReq where
  mdata : MetaData
  pktList : List (List UInt8)
  deriving DecidableEq

def totalLen (pktList : List (List UInt8)) : ℕ := pktList.flatten.length

/-- The meta data is copied to all requests of a frame; what the first one
says about the length is overwritten on the way. -/
def withMdata (m : MetaData) : List (List (List UInt8)) → List XmitReq
  | [] => []
  | l :: ls =>
    ⟨{ m with pktlen := totalLen ((l :: ls).getLast (List.cons_ne_nil l ls)) }, l⟩ ::
      ls.map fun l => ⟨{ m with pktlen := totalLen l }, l⟩

/-- `core_tx_update_xmitframe` and `core_tx_prepare_phl`: the attributes and
the requests, if there are any. -/
def txFullPath (cfg : TxCfg) (dozing : Bool) (c : TxCounters) (pkt : TxPkt) :
    TxCounters × Option (TxAttrib × List XmitReq) :=
  match updateAttrib cfg pkt with
  | none => (c, none)
  | some a =>
    let paras := getWlFragParas cfg.fragLen a
    match fillTxreqPktPerfragTxos a pkt.skb paras.1 paras.2 with
    | none => (c, none)
    | some frags =>
      let r := coreWlanFillHead cfg paras.2 c a
      let m := fillTxreqMdata cfg dozing r.1 r.2.1
      (m.1, some (r.2.1, withMdata m.2 (txPktLists r.2.2 frags)))

end Rtl8831.Core
