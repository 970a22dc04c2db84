import Rtl8831.Lib.Index

/-!
# The RX descriptor

A bulk-in transfer holds descriptors followed by their packets.  `mem` is the
buffer of the transfer: what lies behind the received length is whatever the
buffer held before, and the parser may read it.  Addresses are offsets from the
start of the buffer.  The host is on USB, so that a descriptor starts where its
buffer starts.
-/

namespace Rtl8831.Phl.RxWd

/-- `LE_BITS_TO_4BYTE(start, off, len)`. -/
def leBitsTo4Byte (mem : ℕ → UInt8) (start off len : ℕ) : ℕ :=
  ((mem start).toNat + 256 * (mem (start + 1)).toNat + 65536 * (mem (start + 2)).toNat +
    16777216 * (mem (start + 3)).toNat) / 2 ^ off % 2 ^ len

lemma leBitsTo4Byte_lt (mem : ℕ → UInt8) (start off len : ℕ) :
    leBitsTo4Byte mem start off len < 2 ^ len := Nat.mod_lt _ (Nat.two_pow_pos len)

/-- `struct rtw_r_meta_data`, as far as the descriptor fills it. -/
structure RMetaData where
  pktlen : ℕ
  shift : ℕ
  bbSel : ℕ
  macInfoVld : ℕ
  rpktType : ℕ
  drvInfoSize : ℕ
  longRxd : ℕ
  wlHdIvLen : ℕ
  ppduType : ℕ
  ppduCnt : ℕ
  ampdu : ℕ
  srEn : ℕ
  userId : ℕ
  rxRate : ℕ
  rxGiLtf : ℕ
  nonSrgPpdu : ℕ
  interPpdu : ℕ
  bw : ℕ
  freerunCnt : ℕ
  a1Match : ℕ
  swDec : ℕ
  hwDec : ℕ
  ampduEndPkt : ℕ
  amsdu : ℕ
  amsduCut : ℕ
  lastMsdu : ℕ
  bypass : ℕ
  crc32 : ℕ
  icverr : ℕ
  magicWake : ℕ
  unicastWake : ℕ
  patternWake : ℕ
  getChInfo : ℕ
  rxStatistics : ℕ
  patternIdx : ℕ
  targetIdc : ℕ
  chksumOfldEn : ℕ
  withLlc : ℕ
  frameType : ℕ
  mc : ℕ
  bc : ℕ
  moreData : ℕ
  moreFrag : ℕ
  pwrBit : ℕ
  qos : ℕ
  tid : ℕ
  eosp : ℕ
  htc : ℕ
  qNull : ℕ
  seq : ℕ
  fragNum : ℕ
  secCamIdx : ℕ
  addrCam : ℕ
  addrCamVld : ℕ
  macid : ℕ
  rxPlId : ℕ
  addrFwdEn : ℕ
  rxPlMatch : ℕ
  macAddr : Fin 6 → UInt8
  secType : ℕ

/-- The meta data of a packet that `phl_release_phl_rx` has cleared. -/
def RMetaData.cleared : RMetaData :=
  { pktlen := 0, shift := 0, bbSel := 0, macInfoVld := 0, rpktType := 0, drvInfoSize := 0,
    longRxd := 0, wlHdIvLen := 0, ppduType := 0, ppduCnt := 0, ampdu := 0, srEn := 0, userId := 0,
    rxRate := 0, rxGiLtf := 0, nonSrgPpdu := 0, interPpdu := 0, bw := 0, freerunCnt := 0,
    a1Match := 0, swDec := 0, hwDec := 0, ampduEndPkt := 0, amsdu := 0, amsduCut := 0,
    lastMsdu := 0, bypass := 0, crc32 := 0, icverr := 0, magicWake := 0, unicastWake := 0,
    patternWake := 0, getChInfo := 0, rxStatistics := 0, patternIdx := 0, targetIdc := 0,
    chksumOfldEn := 0, withLlc := 0, frameType := 0, mc := 0, bc := 0, moreData := 0,
    moreFrag := 0, pwrBit := 0, qos := 0, tid := 0, eosp := 0, htc := 0, qNull := 0, seq := 0,
    fragNum := 0, secCamIdx := 0, addrCam := 0, addrCamVld := 0, macid := 0, rxPlId := 0,
    addrFwdEn := 0, rxPlMatch := 0, macAddr := fun _ => 0, secType := 0 }

/-- A pointer to a reorder session: its station and TID, and which of the sessions that
were set up there. -/
structure SessionRef where
  macid : ℕ
  tid : Fin 16
  gen : ℕ
  deriving DecidableEq

/-- `struct rtw_rxsc_cache_entry` -/
structure RxscEntry where
  cachedRxMacid : ℕ
  cachedRxTid : ℕ
  cachedRxPpduCnt : ℕ
  cachedRxSeq : ℕ
  cachedR : Option SessionRef
  deriving DecidableEq

def phlMacidMaxNum : ℕ := 256

def pktTWifi : ℕ := 0

def pktTPpduStatus : ℕ := 1

section Parse

variable (mem : ℕ → UInt8) (desc : ℕ)

def parseHead (m : RMetaData) : RMetaData :=
  { m with
    pktlen := leBitsTo4Byte mem desc 0 14
    shift := leBitsTo4Byte mem desc 14 2
    bbSel := leBitsTo4Byte mem desc 22 1
    macInfoVld := leBitsTo4Byte mem desc 23 1
    rpktType := leBitsTo4Byte mem desc 24 4
    drvInfoSize := leBitsTo4Byte mem desc 28 3
    longRxd := leBitsTo4Byte mem desc 31 1 }

def parsePpdu (m : RMetaData) : RMetaData :=
  { m with
    wlHdIvLen := leBitsTo4Byte mem desc 16 6
    ppduType := leBitsTo4Byte mem (desc + 4) 0 4
    ppduCnt := leBitsTo4Byte mem (desc + 4) 4 3
    ampdu := leBitsTo4Byte mem (desc + 12) 3 1 }

def parseShort (m : RMetaData) : RMetaData :=
  { m with
    srEn := leBitsTo4Byte mem (desc + 4) 7 1
    userId := leBitsTo4Byte mem (desc + 4) 8 8
    rxRate := leBitsTo4Byte mem (desc + 4) 16 9
    rxGiLtf := leBitsTo4Byte mem (desc + 4) 25 3
    nonSrgPpdu := leBitsTo4Byte mem (desc + 4) 28 1
    interPpdu := leBitsTo4Byte mem (desc + 4) 29 1
    bw := leBitsTo4Byte mem (desc + 4) 30 2
    freerunCnt := leBitsTo4Byte mem (desc + 8) 0 32
    a1Match := leBitsTo4Byte mem (desc + 12) 0 1
    swDec := leBitsTo4Byte mem (desc + 12) 1 1
    hwDec := leBitsTo4Byte mem (desc + 12) 2 1
    ampduEndPkt := leBitsTo4Byte mem (desc + 12) 4 1
    amsdu := leBitsTo4Byte mem (desc + 12) 5 1
    amsduCut := leBitsTo4Byte mem (desc + 12) 6 1
    lastMsdu := leBitsTo4Byte mem (desc + 12) 7 1
    bypass := leBitsTo4Byte mem (desc + 12) 8 1
    crc32 := leBitsTo4Byte mem (desc + 12) 9 1
    icverr := leBitsTo4Byte mem (desc + 12) 10 1
    magicWake := leBitsTo4Byte mem (desc + 12) 11 1
    unicastWake := leBitsTo4Byte mem (desc + 12) 12 1
    patternWake := leBitsTo4Byte mem (desc + 12) 13 1
    getChInfo := leBitsTo4Byte mem (desc + 12) 14 1
    rxStatistics := leBitsTo4Byte mem (desc + 12) 15 1
    patternIdx := leBitsTo4Byte mem (desc + 12) 16 5
    targetIdc := leBitsTo4Byte mem (desc + 12) 21 3
    chksumOfldEn := leBitsTo4Byte mem (desc + 12) 24 1
    withLlc := leBitsTo4Byte mem (desc + 12) 25 1 }

def parseLong (m : RMetaData) : RMetaData :=
  { m with
    frameType := leBitsTo4Byte mem (desc + 16) 0 2
    mc := leBitsTo4Byte mem (desc + 16) 2 1
    bc := leBitsTo4Byte mem (desc + 16) 3 1
    moreData := leBitsTo4Byte mem (desc + 16) 4 1
    moreFrag := leBitsTo4Byte mem (desc + 16) 5 1
    pwrBit := leBitsTo4Byte mem (desc + 16) 6 1
    qos := leBitsTo4Byte mem (desc + 16) 7 1
    tid := leBitsTo4Byte mem (desc + 16) 8 4
    eosp := leBitsTo4Byte mem (desc + 16) 12 1
    htc := leBitsTo4Byte mem (desc + 16) 13 1
    qNull := leBitsTo4Byte mem (desc + 16) 14 1
    seq := leBitsTo4Byte mem (desc + 16) 16 12
    fragNum := leBitsTo4Byte mem (desc + 16) 28 4
    secCamIdx := leBitsTo4Byte mem (desc + 20) 0 8
    addrCam := leBitsTo4Byte mem (desc + 20) 8 8
    addrCamVld := leBitsTo4Byte mem (desc + 20) 28 1
    macid :=
      if leBitsTo4Byte mem (desc + 20) 28 1 = 0 then 0xFF else leBitsTo4Byte mem (desc + 20) 16 8
    rxPlId := leBitsTo4Byte mem (desc + 20) 24 4
    addrFwdEn := leBitsTo4Byte mem (desc + 20) 29 1
    rxPlMatch := leBitsTo4Byte mem (desc + 20) 30 1
    macAddr := fun i => mem (desc + 24 + i)
    secType := leBitsTo4Byte mem (desc + 28) 17 4 }

/-- What `_hal_check_rxsc_rdy_8851b` reads in every case. -/
def parseRxscKey (m : RMetaData) : RMetaData :=
  { m with
    tid := leBitsTo4Byte mem (desc + 16) 8 4
    macid := leBitsTo4Byte mem (desc + 20) 16 8
    seq := leBitsTo4Byte mem (desc + 16) 16 12
    mc := leBitsTo4Byte mem (desc + 16) 2 1
    bc := leBitsTo4Byte mem (desc + 16) 3 1
    htc := leBitsTo4Byte mem (desc + 16) 13 1 }

def parseRxscHit (m : RMetaData) : RMetaData :=
  { m with
    rxRate := leBitsTo4Byte mem (desc + 4) 16 9
    amsdu := leBitsTo4Byte mem (desc + 12) 5 1
    crc32 := leBitsTo4Byte mem (desc + 12) 9 1
    icverr := leBitsTo4Byte mem (desc + 12) 10 1
    swDec := leBitsTo4Byte mem (desc + 12) 1 1
    pwrBit := leBitsTo4Byte mem (desc + 16) 6 1
    qNull := leBitsTo4Byte mem (desc + 16) 14 1
    frameType := leBitsTo4Byte mem (desc + 16) 0 2 }

def RxscRdy (e : RxscEntry) (m : RMetaData) : Prop :=
  m.ampdu ≠ 0 ∧ e.cachedRxMacid = m.macid ∧ e.cachedRxPpduCnt = m.ppduCnt ∧
    e.cachedRxTid = m.tid ∧ (e.cachedRxSeq + 1) % 4096 = m.seq

instance (e : RxscEntry) (m : RMetaData) : Decidable (RxscRdy e m) :=
  inferInstanceAs (Decidable (_ ∧ _ ∧ _ ∧ _ ∧ _))

/-- `_hal_check_rxsc_rdy_8851b`; `true` for `RTW_HAL_STATUS_SUCCESS`. -/
def halCheckRxscRdy (e : RxscEntry) (m : RMetaData) : RxscEntry × RMetaData × Bool :=
  let m := parseRxscKey mem desc m
  if RxscRdy e m then ({ e with cachedRxSeq := m.seq }, parseRxscHit mem desc m, true)
  else ({ e with cachedRxMacid := phlMacidMaxNum }, m, false)

def parseFull (m : RMetaData) : RMetaData :=
  let m := parseShort mem desc m
  if m.longRxd = 1 then parseLong mem desc m else m

/-- `_hal_parsing_rx_wd_8851b`, where `rxsc` tells whether `PHL_RXSC_AMPDU` is set. -/
def halParsingRxWdDesc (rxsc : Bool) (e : RxscEntry) (m : RMetaData) :
    RxscEntry × RMetaData × Bool :=
  let m := parseHead mem desc m
  if m.rpktType = pktTWifi ∨ m.rpktType = pktTPpduStatus then
    let m := parsePpdu mem desc m
    if rxsc ∧ e.cachedRxMacid ≠ phlMacidMaxNum ∧ m.rpktType = pktTWifi then
      match halCheckRxscRdy mem desc e m with
      | (e, m, true) => (e, m, true)
      | (e, m, false) => (e, parseFull mem desc m, decide (m.pktlen ≠ 0))
    else (e, parseFull mem desc m, decide (m.pktlen ≠ 0))
  else (e, m, decide (m.pktlen ≠ 0))

end Parse

/-- `RX_DESC_L_SIZE_8851B` or `RX_DESC_S_SIZE_8851B` -/
def descSize (m : RMetaData) : ℕ := if m.longRxd = 0 then 16 else 32

/-- Where the packet of a descriptor at `desc` starts. -/
def pktStart (desc : ℕ) (m : RMetaData) : ℕ :=
  let shift := (m.shift * 2 + m.drvInfoSize * 8 + descSize m) % 256
  if m.macInfoVld = 1 ∧ m.rpktType ≠ pktTPpduStatus then desc + shift + 4 else desc + shift

inductive RxType where
  | wifi
  | ppduStatus
  | channelInfo
  | txRpt
  | txWpReleaseHost
  | dfsRpt
  | c2h
  | max
  deriving DecidableEq

/-- `struct rtw_phl_rx_pkt` with the one packet of its list. -/
structure RxPkt where
  type : RxType
  mdata : RMetaData
  virAddr : ℕ
  length : ℕ

/-- The type that `hal_handle_rx_buffer_8851b` gives to the packets of a kind,
where DFS reports may be left out of the build. -/
def rxType (dfs : Bool) (rpktType : ℕ) (old : RxType) : RxType :=
  match rpktType with
  | 0 => .wifi
  | 1 => .ppduStatus
  | 2 => .channelInfo
  | 6 => .txRpt
  | 7 => .txWpReleaseHost
  | 8 => if dfs then .dfsRpt else old
  | 10 => .c2h
  | _ => old

structure Build where
  rxscAmpdu : Bool
  dfs : Bool
  usbRxAggregation : Bool
  csumOffloadRx : Bool

/-- `hal_parsing_rx_wd_8851b`: where the packet starts and how long it is. -/
def halParsingRxWd (b : Build) (mem : ℕ → UInt8) (e : RxscEntry) (buf : ℕ) (m : RMetaData) :
    RxscEntry × RMetaData × Option (ℕ × ℕ) :=
  match halParsingRxWdDesc mem buf b.rxscAmpdu e m with
  | (e, m, true) => (e, m, some (pktStart buf m, m.pktlen % 65536))
  | (e, m, false) => (e, m, none)

/-- `hal_handle_rx_buffer_8851b`; `none` for a failure. -/
def halHandleRxBuffer (b : Build) (mem : ℕ → UInt8) (e : RxscEntry) (buf bufLen : ℕ) (rx : RxPkt) :
    RxscEntry × Option RxPkt :=
  match halParsingRxWd b mem e buf rx.mdata with
  | (e, _, none) => (e, none)
  | (e, m, some (pkt, len)) =>
    if buf + bufLen < pkt + len then (e, none)
    else (e, some ⟨rxType b.dfs m.rpktType rx.type, m, pkt, len⟩)

end Rtl8831.Phl.RxWd
