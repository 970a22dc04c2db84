import Rtl8831.Lib.Index

/-!
# Aggregation of TX requests for USB

A pass of the TX handler copies requests of one ring, each behind its WD, into a
bulk-out buffer until a limit of the buffer, of the bus or of the chip is met.
With `CONFIG_PHL_USB_TX_PADDING_CHK` a first pass over the ring predicts the last
request, so that eight bytes can be put into it when the length would otherwise
be a multiple of the bulk size.

Positions in a ring are counted from its first outstanding request.
-/

namespace Rtl8831.Phl

namespace UsbTx

/-- `tx_buf_size`, the length of the buffers of `idle_txbuf_list`. -/
def txBufSize : ℕ := 20480

/-- `tx_mgnt_buf_size`, the length of the buffers of `mgmt_txbuf_list`. -/
def txMgntBufSize : ℕ := 1536

def pktOffsetDummy : ℕ := 8

/-- `WD_BODY_LEN` and `WD_INFO_LEN`. -/
def wdBodyLen : ℕ := 24
def wdInfoLen : ℕ := 24

def txpktsizeMsk : ℕ := 0x3fff

def dataCh11 : ℕ := 11

def maxDmaTxaggMsk : ℕ := 15

/-- `enum rtw_packet_type`. -/
inductive PktType
  | data
  | mgnt
  | h2c
  | ctrl
  | fwdl
  | max
  deriving DecidableEq

/-- `struct rtw_pkt_buf_list`; `virAddr` tells whether there is an address. -/
structure PktBuf where
  virAddr : Bool
  length : ℕ
  length_lt : length < 2 ^ 16

structure XmitReq where
  type : PktType
  wdinfoEn : Bool
  usbPktOfst : Bool
  pktList : List PktBuf
  pktCnt_lt : pktList.length < 2 ^ 8

inductive UsbSpeed
  | full
  | high
  | super
  deriving DecidableEq

/-- `enum rtw_phl_ring_cat`, as far as the buffers tell the categories apart. -/
inductive RingCat
  | tid
  | mgnt
  | hiq
  deriving DecidableEq

structure Cfg where
  paddingChk : Bool
  speed : UsbSpeed
  maxBulkoutWdNum : ℕ
  cat : RingCat
  dmaCh : ℕ

/-- `_ALIGN(_len, 8)`. -/
def align8 (n : ℕ) : ℕ := (n + 7) / 8 * 8

/-- `usb_bulkout_size`. -/
def UsbSpeed.bulkSize : UsbSpeed → ℕ
  | .full => 64
  | .high => 512
  | .super => 1024

def UsbSpeed.shiftOffset (s : UsbSpeed) : ℕ :=
  if s.bulkSize = 1024 then 10 else if s.bulkSize = 512 then 9 else 6

/-- `buf_len` of the buffer that `_phl_tx_flow_ctrl_usb` takes for the ring. -/
def Cfg.bufLen (c : Cfg) : ℕ := if c.cat = .mgnt then txMgntBufSize else txBufSize

namespace XmitReq

variable (r : XmitReq)

/-- `total_len`: the length of the packet list. -/
def totalLen : ℕ := (r.pktList.map PktBuf.length).sum

/-- `mac_txdesc_len_8851b`. -/
def wdLen : ℕ :=
  if r.type ≠ .h2c ∧ r.type ≠ .fwdl ∧ r.wdinfoEn then wdBodyLen + wdInfoLen else wdBodyLen

/-- `mdata.pktlen`, as the handler sets it. -/
def pktlen : ℕ := r.totalLen % 2 ^ 16

/-- `mac_build_txdesc_8851b` succeeds. -/
def wdOk (dmaCh : ℕ) : Bool :=
  match r.type with
  | .data => dmaCh ≤ dataCh11 ∧ r.pktlen ≤ txpktsizeMsk ∧ r.pktlen ≠ 0
  | .mgnt | .h2c | .fwdl => r.pktlen ≤ txpktsizeMsk ∧ r.pktlen ≠ 0
  | .ctrl | .max => false

def dummy : ℕ := if r.usbPktOfst then pktOffsetDummy else 0

def payload : ℕ := ((r.pktList.filter PktBuf.virAddr).map PktBuf.length).sum

def len : ℕ := r.wdLen + r.dummy + r.payload

end XmitReq

/-- `_phl_prepare_tx_usb`: what it adds to `*packet_len`, `none` if it fails. -/
def phlPrepareTxUsb (dmaCh : ℕ) (r : XmitReq) : Option ℕ :=
  if r.wdOk dmaCh then some (r.wdLen + r.dummy + r.payload) else none

/-- The locals of `_phl_handle_xmit_ring_usb`: the offset at which it writes and
the counters. -/
structure Agg where
  txBufData : ℕ
  packetLen : ℕ
  txLen : ℕ
  aggCnt : ℕ
  trascAggCnt : ℕ
  trascIdx : ℕ

namespace Agg

def init : Agg := ⟨0, 0, 0, 0, 0, 0⟩

variable (c : Cfg) (g : Agg) (r : XmitReq)

def gap : ℕ := align8 g.packetLen - g.packetLen

def noRoom (wdLen : ℕ) : Prop :=
  (if c.paddingChk then txBufSize - pktOffsetDummy else txBufSize) <
    align8 (wdLen + r.totalLen) + g.txLen

def bulkEnd (wdLen : ℕ) : Prop :=
  r.type = .data ∧ g.txLen ≠ 0 ∧ (g.txLen + wdLen + g.gap) % c.speed.bulkSize = 0

instance (wdLen : ℕ) : Decidable (noRoom c g r wdLen) := inferInstanceAs (Decidable (_ < _))

instance (wdLen : ℕ) : Decidable (bulkEnd c g r wdLen) := inferInstanceAs (Decidable (_ ∧ _ ∧ _))

def place : Agg :=
  if r.type = .data then
    { g with txBufData := g.txBufData + align8 g.packetLen, txLen := g.txLen + g.gap }
  else g

def put : Agg :=
  let g := g.place r
  { g with
    packetLen := r.len
    txLen := g.txLen + r.len
    aggCnt := g.aggCnt + 1
    trascAggCnt := g.trascAggCnt + 1 }

def trasc : Agg :=
  if g.trascIdx ≠ g.txLen >>> c.speed.shiftOffset then
    { g with trascIdx := g.txLen >>> c.speed.shiftOffset % 256, trascAggCnt := 0 }
  else g

def full : Prop := c.maxBulkoutWdNum ≤ g.trascAggCnt ∨ g.aggCnt = maxDmaTxaggMsk

instance : Decidable (full c g) := inferInstanceAs (Decidable (_ ∨ _))

end Agg

structure Copy where
  pos : ℕ
  start : ℕ
  len : ℕ
  deriving DecidableEq

/-- The ring, the locals and what was done: `phlIdx` counts the requests that are
taken out. -/
structure Xmit where
  entry : ℕ → Option XmitReq
  phlIdx : ℕ
  phlNextIdx : ℕ
  agg : Agg
  pstatus : Bool
  copied : List Copy
  recycled : List ℕ

/-- The plan that the padding check makes: the last request and whether a dummy
goes into it. -/
structure Plan where
  lastIdx : Option ℕ
  isDummy : Bool

/-- The request at `aggCnt` is given the extra offset. -/
def Plan.marks (p : Plan) (aggCnt : ℕ) : Bool := p.isDummy && p.lastIdx = some aggCnt

def Plan.mark (p : Plan) (aggCnt : ℕ) (r : XmitReq) : XmitReq :=
  if p.marks aggCnt then { r with usbPktOfst := true } else r

def Plan.wdLen (p : Plan) (aggCnt : ℕ) (r : XmitReq) : ℕ :=
  r.wdLen + if p.marks aggCnt then pktOffsetDummy else 0

section

variable (c : Cfg) (p : Plan)

/-- The body of the loop, with whether it goes on; `more` is `0 != req_busy` after
the request. -/
def xmitBody (more : Bool) (s : Xmit) : Xmit × Bool :=
  let rptr := s.phlNextIdx
  match s.entry rptr with
  | none => (s, false)
  | some r =>
    let wdLen := p.wdLen s.agg.aggCnt r
    let r := p.mark s.agg.aggCnt r
    let s := { s with entry := Function.update s.entry rptr (some r) }
    if s.agg.noRoom c r wdLen then (s, false)
    else if s.agg.bulkEnd c r wdLen then (s, false)
    else
      match phlPrepareTxUsb c.dmaCh r with
      | none =>
        ({ s with
            phlIdx := rptr + 1
            pstatus := false
            recycled := s.recycled ++ [rptr]
            agg := { s.agg.place r with packetLen := 0 } }, false)
      | some len =>
        let s := { s with
          phlIdx := rptr + 1
          pstatus := true
          copied := s.copied ++ [⟨rptr, (s.agg.place r).txBufData, len⟩]
          recycled := s.recycled ++ [rptr]
          agg := s.agg.put r }
        if r.type ≠ .data then (s, false)
        else
          let s := { s with agg := s.agg.trasc c }
          if s.agg.full c then (s, false)
          else ({ s with phlNextIdx := if more then rptr + 1 else rptr }, true)

/-- The loop with `req_busy` requests left. -/
def xmitLoop : ℕ → Xmit → Xmit
  | 0, s => s
  | busy + 1, s =>
    match xmitBody c p (busy ≠ 0) s with
    | (s, true) => xmitLoop busy s
    | (s, false) => s

def Xmit.start (entry : ℕ → Option XmitReq) : Xmit :=
  ⟨entry, 0, 0, Agg.init, false, [], []⟩

end

/-- The locals of `_usb_tx_agg_preprocess`. -/
structure Pre where
  cnt : ℕ
  txLen : ℕ
  packetLen : ℕ
  trascAggCnt : ℕ
  trascIdx : ℕ

namespace Pre

def init : Pre := ⟨0, 0, 0, 0, 0⟩

variable (c : Cfg) (q : Pre) (r : XmitReq)

def gap : ℕ := align8 q.packetLen - q.packetLen

def stops : Prop :=
  txBufSize - pktOffsetDummy < align8 (r.wdLen + r.totalLen) + q.txLen ∨
    (q.txLen + r.wdLen + q.gap) % c.speed.bulkSize = 0

instance : Decidable (stops c q r) := inferInstanceAs (Decidable (_ ∨ _))

/-- The request is counted, but not `cnt` itself. -/
def put : Pre :=
  let txLen := q.txLen + q.gap + (r.wdLen + r.totalLen)
  let q := { q with
    packetLen := r.wdLen + r.totalLen
    txLen := txLen
    trascAggCnt := q.trascAggCnt + 1 }
  if q.trascIdx ≠ txLen >>> c.speed.shiftOffset then
    { q with trascIdx := txLen >>> c.speed.shiftOffset % 256, trascAggCnt := 0 }
  else q

def full : Prop := c.maxBulkoutWdNum ≤ q.trascAggCnt ∨ q.cnt + 1 = maxDmaTxaggMsk

instance : Decidable (full c q) := inferInstanceAs (Decidable (_ ∨ _))

/-- `(cnt) ? (cnt - 1) : (IDX_NONE)`. -/
def prev : Option ℕ := if q.cnt ≠ 0 then some (q.cnt - 1) else none

end Pre

section

variable (c : Cfg) (entry : ℕ → Option XmitReq)

/-- The loop of the check, with `*last_idx` where it is set there. -/
def preLoop : ℕ → Pre → Option ℕ × Pre
  | 0, q => (none, q)
  | left + 1, q =>
    match entry q.cnt with
    | none => (q.prev, q)
    | some r =>
      if q.stops c r then (q.prev, q)
      else
        let q := q.put c r
        if q.full c then (some q.cnt, q)
        else
          let q := { q with cnt := q.cnt + 1 }
          if r.type ≠ .data then (none, q) else preLoop left q

def usbTxAggPreprocess (busy : ℕ) : Plan :=
  let (lastIdx, q) := preLoop c entry busy Pre.init
  { lastIdx := if lastIdx = none ∧ q.txLen ≠ 0 then some (q.cnt - 1) else lastIdx
    isDummy := q.txLen ≠ 0 ∧ q.txLen % c.speed.bulkSize = 0 }

def plan (busy : ℕ) : Plan :=
  if c.paddingChk then usbTxAggPreprocess c entry busy else ⟨none, false⟩

/-- `_phl_handle_xmit_ring_usb`, up to the result of `os_usb_tx`. -/
def phlHandleXmitRingUsb (busy : ℕ) : Xmit :=
  xmitLoop c (plan c entry busy) busy (Xmit.start entry)

/-- The length that is handed to `os_usb_tx`. -/
def Xmit.submitted (s : Xmit) : Option ℕ := if s.pstatus then some s.agg.txLen else none

end

end UsbTx

end Rtl8831.Phl
