import Rtl8831.Core.RecvPath

/-!
# Building transmit requests

The header of a data frame, its fragments and their lists of buffers:
`rtw_make_wlanhdr`, `core_wlan_fill_head`, `get_wl_frag_paras` and
`fill_txreq_pkt_perfrag_txos`.  A `u32` is a natural number, and differences
of them are taken modulo `2 ^ 32`.
-/

namespace Rtl8831.Core

/-! ## Packets -/

/-- The data of one `struct sk_buff`: the linear part and the pages. -/
structure SkbPart where
  head : List UInt8
  pages : List (List UInt8) := []

/-- A packet from the network stack: a first buffer and those of its
`frag_list`. -/
structure Skb where
  first : SkbPart
  fragList : List SkbPart := []

def SkbPart.bytes (p : SkbPart) : List UInt8 := p.head ++ p.pages.flatten

def Skb.bytes (skb : Skb) : List UInt8 := skb.first.bytes ++ (skb.fragList.map SkbPart.bytes).flatten

/-- `skb->len` -/
def Skb.len (skb : Skb) : ℕ := skb.bytes.length

def Skb.totalFragNr (skb : Skb) : ℕ :=
  1 + skb.first.pages.length + (skb.fragList.map fun p => 1 + p.pages.length).sum

/-- `PKT_LIST_APPEND`: nothing is listed for no bytes. -/
def pktListAppend (bytes : List UInt8) : List (List UInt8) := if bytes = [] then [] else [bytes]

/-- The pages in `_fill_txreq_list_skb`, with the size still requested and
the offset still to be skipped. -/
def fillPages : List (List UInt8) → ℕ → ℕ → List (List UInt8) × ℕ × ℕ
  | [], remSz, offset => ([], remSz, offset)
  | page :: rest, remSz, offset =>
    if offset < page.length then
      if remSz < page.length - offset then (pktListAppend (slice page offset remSz), 0, offset)
      else
        let r := fillPages rest (remSz - (page.length - offset)) 0
        (pktListAppend (page.drop offset) ++ r.1, r.2)
    else fillPages rest remSz (offset - page.length)

/-- `_fill_txreq_list_skb` -/
def fillTxreqListPart (p : SkbPart) (remSz offset : ℕ) : List (List UInt8) × ℕ × ℕ :=
  if offset < p.head.length then
    let n := min (p.head.length - offset) remSz
    let r := fillPages p.pages (remSz - n) 0
    (pktListAppend (slice p.head offset n) ++ r.1, r.2)
  else fillPages p.pages remSz (offset - p.head.length)

def fillTxreqListParts : List SkbPart → ℕ → ℕ → List (List UInt8)
  | [], _, _ => []
  | p :: rest, remSz, offset =>
    let r := fillTxreqListPart p remSz offset
    r.1 ++ fillTxreqListParts rest r.2.1 r.2.2

/-- `fill_txreq_list_skb`; a packet of too many parts is made linear. -/
def fillTxreqListSkb (skb : Skb) (reqSz offset : ℕ) : List (List UInt8) :=
  let skb := if 6 < skb.totalFragNr then { first := { head := skb.bytes } } else skb
  fillTxreqListParts (skb.first :: skb.fragList) reqSz offset

/-! ## Adapter and stations -/

/-- What `update_attrib_phy_info` takes from a station. -/
structure PhyInfo where
  rtsen : Bool := false
  cts2self : Bool := false
  hwRtsEn : Bool := false
  eosp : Bool := false
  bwmode : ℕ := 0
  sgi : Bool := false
  ldpc : Bool := false
  stbc : Bool := false
  deriving DecidableEq

/-- What transmission reads of a `struct sta_info`.  `aggEnable` says whether
a TID may be aggregated, `htcEn` whether an HT control field is added,
`secCamIdx` where a key is, as a group key or not.  `htc` is what
`rtw_he_fill_htc` writes, with an operating mode or without. -/
structure TxSta where
  macAddr : List UInt8
  macid : ℕ
  asoc : Bool
  qosOption : Bool
  ieee8021xBlocked : Bool
  dot118021XPrivacy : SecurityType
  hwDecrypted : Bool
  htcEn : Bool
  htc : Bool → List UInt8
  aggEnable : ℕ → Bool
  numAmpdu : ℕ
  secCamIdx : ℕ → Bool → ℕ
  phy : PhyInfo

structure TxCfg where
  mode : MlmeMode
  macAddr : List UInt8
  bssid : List UInt8
  qosOption : Bool
  acmMask : ℕ
  auth : AuthAlg
  privacyAlgrthm : SecurityType
  grpPrivacy : SecurityType
  privacyKeyIndex : ℕ
  grpKeyid : ℕ
  busetkipkey : Bool
  swEncrypt : Bool
  hwDecrypted : Bool
  hwFormHdr : Bool
  hwSecIv : Bool
  hwTxSearchKey : Bool
  omNormalTx : Bool
  fragLen : ℕ
  band24G : Bool
  cckTxRate : Bool
  fixRate : Option (ℕ × Bool)
  dataFb : Bool
  fixBw : Option ℕ
  txscEnable : Bool
  stas : List TxSta

def TxCfg.getStainfo (cfg : TxCfg) (addr : List UInt8) : Option ℕ :=
  let addr := if isMcast addr then List.replicate 6 255 else addr
  cfg.stas.findIdx? fun s => s.macAddr = addr

/-- The counters of the stations: sequence numbers by TID, the start of the
block ack window by TID, and packet numbers; and for how many more frames an
operating mode is announced. -/
structure TxCounters where
  txseqTid : ℕ → ℕ → ℕ
  baStartingSeqctrl : ℕ → ℕ → ℕ
  dot11txpn : ℕ → ℕ
  omTxCnt : ℕ

/-- `struct pkt_attrib` -/
structure TxAttrib where
  etherType : ℕ := 0
  dst : List UInt8 := []
  src : List UInt8 := []
  ra : List UInt8 := []
  ta : List UInt8 := []
  psta : Option ℕ := none
  macId : ℕ := 0
  pktlen : ℕ := 0
  icmpPkt : Bool := false
  dhcpPkt : Bool := false
  encrypt : SecurityType := .noPrivacy
  keyIdx : ℕ := 0
  ivLen : ℕ := 0
  icvLen : ℕ := 0
  bswenc : Bool := false
  hdrlen : ℕ := 24
  subtype : ℕ := 8
  qosEn : Bool := false
  priority : ℕ := 0
  order : Bool := false
  mdata : Bool := false
  ampduEn : Bool := false
  amsdu : Bool := false
  phy : PhyInfo := {}
  seqnum : ℕ := 0

/-! ## The header -/

def le16Bytes (n : ℕ) : List UInt8 := [UInt8.ofNat n, UInt8.ofNat (n / 256)]

def macBytes (addr : List UInt8) : List UInt8 := (List.range 6).map (byteAt addr)

/-- `bytes` written into the buffer `p` at offset `i`. -/
def poke (p : List UInt8) (i : ℕ) (bytes : List UInt8) : List UInt8 :=
  (p.take i ++ bytes ++ p.drop (i + bytes.length)).take p.length

/-- An IEEE 802.11 header; `opt` is what follows the sequence control field. -/
structure WlanHdr where
  subtype : ℕ
  toDs : Bool
  frDs : Bool
  mfrag : Bool
  mdata : Bool
  privacy : Bool
  order : Bool
  addr1 : List UInt8
  addr2 : List UInt8
  addr3 : List UInt8
  seqNum : ℕ
  opt : List UInt8

def WlanHdr.flags (h : WlanHdr) : ℕ :=
  h.toDs.toNat + 2 * h.frDs.toNat + 4 * h.mfrag.toNat + 32 * h.mdata.toNat + 64 * h.privacy.toNat +
    128 * h.order.toNat

def WlanHdr.bytes (h : WlanHdr) : List UInt8 :=
  [UInt8.ofNat h.subtype, UInt8.ofNat h.flags, 0, 0] ++ macBytes h.addr1 ++ macBytes h.addr2 ++
    macBytes h.addr3 ++ le16Bytes (16 * (h.seqNum % 4096)) ++ h.opt

def qosControl (a : TxAttrib) : ℕ :=
  a.priority % 16 + 16 * a.phy.eosp.toNat + 128 * a.amsdu.toNat

/-- Whether `rtw_he_fill_htc` announces an operating mode. -/
def omPending (cfg : TxCfg) (c : TxCounters) : Bool := cfg.omNormalTx && decide (c.omTxCnt ≠ 0)

/-- What `rtw_make_wlanhdr` writes behind the sequence control field. -/
def hdrOpt (cfg : TxCfg) (om : Bool) (a : TxAttrib) : List UInt8 :=
  let qosOption := match cfg.mode with
    | .sta => cfg.qosOption
    | .ap => a.qosEn
  let opt := List.replicate (a.hdrlen - 24) 0
  let opt := if qosOption then poke opt 0 (le16Bytes (qosControl a)) else opt
  if a.order then
    poke opt (a.hdrlen - 28)
      (((a.psta.bind fun sta => cfg.stas[sta]?).elim [] fun sta => sta.htc om).take 4)
  else opt

def setTid (f : ℕ → ℕ → ℕ) (sta tid n : ℕ) : ℕ → ℕ → ℕ :=
  Function.update f sta (Function.update (f sta) tid n)

def snLess (a b : ℕ) : Bool := decide (2048 ≤ ((a : ℤ) - b) % 4096)

/-- The station whose counters `rtw_make_wlanhdr` uses, if it gets that far. -/
def seqSta (cfg : TxCfg) (a : TxAttrib) : Option ℕ := do
  let sta ← cfg.getStainfo a.ra
  if a.psta ≠ some sta then none
  else if (cfg.stas[sta]?.elim false TxSta.asoc) then some sta else none

def frameHdr (cfg : TxCfg) (om : Bool) (a : TxAttrib) : WlanHdr :=
  let isSta := decide (cfg.mode = .sta)
  { subtype := a.subtype, toDs := isSta, frDs := !isSta, mfrag := false, mdata := a.mdata
    privacy := decide (a.encrypt ≠ .noPrivacy), order := a.order
    addr1 := if isSta then cfg.bssid else a.dst
    addr2 := if isSta then a.ta else cfg.bssid
    addr3 := if isSta then a.dst else a.src
    seqNum := 0, opt := hdrOpt cfg om a }

/-- `rtw_make_wlanhdr`; the result is not looked at by its caller. -/
def makeWlanhdr (cfg : TxCfg) (c : TxCounters) (a : TxAttrib) : TxCounters × TxAttrib × WlanHdr :=
  let om := omPending cfg c
  let c := if a.order && om then { c with omTxCnt := c.omTxCnt - 1 } else c
  let hdr := frameHdr cfg om a
  match seqSta cfg a with
  | none => (c, a, hdr)
  | some sta =>
    let seqnum := (c.txseqTid sta a.priority + 1) % 4096
    let c := { c with txseqTid := setTid c.txseqTid sta a.priority seqnum }
    let txSeq := c.baStartingSeqctrl sta (a.priority % 16)
    -- whether to aggregate is decided anew by the start of the window
    let behind := snLess seqnum txSeq
    let c := if a.ampduEn && !behind then
        { c with
          baStartingSeqctrl :=
            setTid c.baStartingSeqctrl sta (a.priority % 16) ((seqnum + 1) % 4096) }
      else c
    (c, { a with seqnum, ampduEn := a.ampduEn && !behind }, { hdr with seqNum := seqnum })

/-! ## Security headers -/

def nextPn (encrypt : SecurityType) (pn : ℕ) : ℕ :=
  match encrypt with
  | .wep40 | .wep104 => if pn = 0xffffff then 0 else pn + 1
  | .tkip | .aes | .gcmp | .gcmp256 | .ccmp256 => if pn = 0xffffffffffff then 0 else pn + 1
  | _ => pn

/-- Byte `i` of a packet number, `TSC0` to `TSC5`. -/
def tsc (pn i : ℕ) : UInt8 := UInt8.ofNat (pn / 256 ^ i)

/-- `WEP_IV`, `TKIP_IV`, `AES_IV` and `GCMP_IV` -/
def ivBytes (encrypt : SecurityType) (pn keyIdx : ℕ) : List UInt8 :=
  match encrypt with
  | .wep40 | .wep104 => [tsc pn 0, tsc pn 1, tsc pn 2, UInt8.ofNat (keyIdx % 4 * 64)]
  | .tkip =>
    [tsc pn 1, (tsc pn 1 ||| 0x20) &&& 0x7f, tsc pn 0, UInt8.ofNat (32 + keyIdx % 4 * 64),
      tsc pn 2, tsc pn 3, tsc pn 4, tsc pn 5]
  | .aes | .gcmp | .gcmp256 | .ccmp256 =>
    [tsc pn 0, tsc pn 1, 0, UInt8.ofNat (32 + keyIdx % 4 * 64), tsc pn 2, tsc pn 3, tsc pn 4,
      tsc pn 5]
  | _ => []

/-- `update_attrib_sec_iv_info`: the counters and the IV. -/
def updateAttribSecIvInfo (c : TxCounters) (a : TxAttrib) : TxCounters × List UInt8 :=
  match a.psta with
  | none => (c, [])
  | some sta =>
    let pn := nextPn a.encrypt (c.dot11txpn sta)
    let isWep := a.encrypt = .wep40 ∨ a.encrypt = .wep104
    let keyIdx := if isWep ∨ isMcast a.ra = true then a.keyIdx else 0
    ({ c with dot11txpn := Function.update c.dot11txpn sta pn }, ivBytes a.encrypt pn keyIdx)

def putSnap (hProto : ℕ) : List UInt8 :=
  [0xaa, 0xaa, 3] ++ (if hProto = 0x8137 ∨ hProto = 0x80f3 then [0, 0, 0xf8] else [0, 0, 0]) ++
    be16Bytes hProto

lemma length_putSnap (hProto : ℕ) : (putSnap hProto).length = 8 := by
  unfold putSnap
  split
  · rfl
  · rfl

/-! ## Fragments -/

def u32 (x : ℤ) : ℕ := (x % 4294967296).toNat

def rtwMaxFragNum : ℕ := 10

def rtwSzLlc : ℕ := 8

def rtwSzFcs : ℕ := 4

def micLen (a : TxAttrib) : ℕ := if a.encrypt = .tkip then 8 else 0

/-- `get_wl_frag_paras` for a packet of the network stack: the payload of a
fragment, and how many of them there are. -/
def getWlFragParas (fragLen : ℕ) (a : TxAttrib) : ℕ × ℕ :=
  let wlHead := a.hdrlen + if a.encrypt ≠ .noPrivacy then a.ivLen else 0
  let wlTail := rtwSzFcs + if a.encrypt ≠ .noPrivacy then a.icvLen else 0
  let payloadFragsz := u32 (fragLen - wlHead - wlTail)
  let payloadTotalsz := u32 (a.pktlen + rtwSzLlc + micLen a)
  let wlFragNum :=
    if a.amsdu then 1
    else if payloadFragsz < payloadTotalsz then
      u32 (payloadTotalsz + payloadFragsz - 1) / payloadFragsz
    else 1
  (payloadFragsz, wlFragNum)

/-- `frag_len_txsc`, what is left of a fragment for the payload. -/
def fragLenTxsc (fragLen : ℕ) (a : TxAttrib) : ℕ :=
  u32 ((getWlFragParas fragLen a).1 - (u32 (a.pktlen + rtwSzLlc + micLen a) - a.pktlen))

/-- The payload of fragment `idx` of `n`, and what is left behind it for MIC
and ICV, in the loop of `fill_txreq_pkt_perfrag_txos`. -/
def perfrag (a : TxAttrib) (skb : Skb) (fragPerfr n : ℕ) :
    ℕ → ℕ → ℕ → List (List (List UInt8) × ℕ)
  | 0, _, _ => []
  | k + 1, idx, payloadOffset =>
    let isLast := idx + 1 = n
    let payloadSz := if isLast then u32 (skb.len - payloadOffset)
      else if idx = 0 then u32 (fragPerfr - rtwSzLlc) else fragPerfr
    let wlanTail := (if isLast then micLen a else 0) +
      if a.encrypt ≠ .noPrivacy ∧ a.bswenc = true then a.icvLen else 0
    (fillTxreqListSkb skb payloadSz payloadOffset, wlanTail) ::
      perfrag a skb fragPerfr n k (idx + 1) (u32 (payloadOffset + payloadSz))

def fillTxreqPktPerfragTxos (a : TxAttrib) (skb : Skb) (fragPerfr n : ℕ) :
    Option (List (List (List UInt8) × ℕ)) :=
  if rtwMaxFragNum < n then none else some (perfrag a skb fragPerfr n n 0 14)

/-- The loop of `core_wlan_fill_head`: the headers from fragment `idx` on. -/
def fillHeads (cfg : TxCfg) (n : ℕ) :
    ℕ → ℕ → TxCounters → TxAttrib → TxCounters × TxAttrib × List (List UInt8)
  | 0, _, c, a => (c, a, [])
  | k + 1, idx, c, a =>
    let r := makeWlanhdr cfg c a
    let hdr := { r.2.2 with mfrag := decide (idx + 1 ≠ n) }
    let a := r.2.1
    let s := if a.ivLen ≠ 0 then updateAttribSecIvInfo r.1 a else (r.1, [])
    let iv := (s.2 ++ List.replicate a.ivLen 0).take a.ivLen
    let llc := if idx = 0 ∧ a.amsdu = false then putSnap a.etherType else []
    let rest := fillHeads cfg n k (idx + 1) s.1 a
    (rest.1, rest.2.1, (hdr.bytes ++ iv ++ llc) :: rest.2.2)

def coreWlanFillHead (cfg : TxCfg) (n : ℕ) (c : TxCounters) (a : TxAttrib) :
    TxCounters × TxAttrib × List (List UInt8) :=
  fillHeads cfg n n 0 c a

def txPktLists (heads : List (List UInt8)) (frags : List (List (List UInt8) × ℕ)) :
    List (List (List UInt8)) :=
  List.zipWith (fun head frag => head :: frag.1 ++ pktListAppend (List.replicate frag.2 0)) heads
    frags

end Rtl8831.Core
