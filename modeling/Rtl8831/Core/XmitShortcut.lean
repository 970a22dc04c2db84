import Rtl8831.Core.XmitAttrib

/-!
# The TX shortcut

With `CONFIG_CORE_TXSC` a station keeps the headers and meta data of up to
eight earlier packets.  A packet with the source address and EtherType of one
of them is sent with what is kept, without `update_attrib`,
`core_wlan_fill_head` and `fill_txreq_mdata`.
-/

namespace Rtl8831.Core

open Lib Function

structure TxscEntry where
  isUsed : Bool := false
  ethdr : List UInt8 := List.replicate 14 0
  wlhdr : List UInt8 := []
  mdata : MetaData := {}
  fragLen : ℕ := 0

def coreTxscEntryNum : ℕ := 8

/-- The shortcut fields of a `struct sta_info`. -/
structure TxscSta where
  cacheNum : ℕ := 0
  curIdx : ℕ := 0
  cacheIdx : ℕ := 0
  entry : ℕ → TxscEntry := fun _ => {}

/-- What `USE_PREV_WLHDR_BUF` remembers of a request buffer. -/
structure TxreqBuf where
  macid : ℕ := 0xff
  txscId : ℕ := 0xff
  head : List UInt8 := []

structure TxscState where
  counters : TxCounters
  asleep : ℕ → Bool
  sta : ℕ → TxscSta := fun _ => {}
  staCached : Option ℕ := none
  buf : ℕ → TxreqBuf := fun _ => {}

/-- `enum txsc_action_type`, before an entry is made. -/
inductive TxscAction
  | none
  | skip
  | apply (sta idx : ℕ)
  deriving DecidableEq

namespace TxscState

def setSta (st : TxscState) (i : ℕ) (t : TxscSta) : TxscState :=
  { st with sta := update st.sta i t }

def setBuf (st : TxscState) (b : ℕ) (x : TxreqBuf) : TxscState :=
  { st with buf := update st.buf b x }

def dozing (cfg : TxCfg) (st : TxscState) : Bool := (List.range cfg.stas.length).any st.asleep

end TxscState

/-- The station in `txsc_get_sc_entry`. -/
def txscSta (cfg : TxCfg) (st : TxscState) (da : List UInt8) : Option ℕ :=
  let cached := st.staCached.filter fun i => decide (cfg.stas[i]?.map TxSta.macAddr = some da)
  cached.or (if isMcast da then none
    else match cfg.mode with
      | .ap => cfg.getStainfo da
      | .sta => cfg.getStainfo cfg.bssid)

/-- Whether an entry is taken for a packet: source and EtherType agree, and
the packet is not too long. -/
def txscHit (pkt : TxPkt) (e : TxscEntry) : Bool :=
  decide (slice pkt.skb.first.head 6 8 = slice e.ethdr 6 8) && decide (pkt.skb.len ≤ e.fragLen)

def txscGetScEntry (cfg : TxCfg) (st : TxscState) (pkt : TxPkt) : TxscState × TxscAction :=
  if cfg.txscEnable = false then (st, .none)
  else
    match txscSta cfg st (slice pkt.skb.first.head 0 6) with
    | none => (st, .none)
    | some i =>
      let t := st.sta i
      if st.asleep i then (st, .skip)
      else if t.cacheNum = 0 then (st, .none)
      else
        let st := { st with staCached := some i }
        if txscHit pkt (t.entry t.cacheIdx) then (st, .apply i t.cacheIdx)
        else
          match (List.range coreTxscEntryNum).find? fun j =>
              decide (j ≠ t.cacheIdx) && (t.entry j).isUsed && txscHit pkt (t.entry j) with
          | some j => (st.setSta i { t with cacheIdx := j }, .apply i j)
          | none => (st, .none)

def setSeqNum (p : List UInt8) (num : ℕ) : List UInt8 :=
  poke p 22 (le16Bytes (le16At p 22 % 16 + 16 * (num % 4096)))

/-- The buffer `old` with `bytes` copied to its start. -/
def copyTo (old bytes : List UInt8) : List UInt8 := bytes ++ old.drop bytes.length

/-- `txsc_apply_sc_cached_entry` for entry `j` of station `i`, with request
buffer `b`; `hw_seq_mode` is zero in all meta data. -/
def txscApplyScCachedEntry (st : TxscState) (i j : ℕ) (pkt : TxPkt) (b : ℕ) :
    TxscState × XmitReq :=
  let t := st.sta i
  let e := t.entry j
  let priority := tosToUp (byteAt (pkt.skb.first.head ++ pkt.behind) 15)
  let c := st.counters
  let seq := (c.txseqTid i priority + 1) % 4096
  let e := { e with wlhdr := setSeqNum e.wlhdr seq }
  let x := st.buf b
  let head := if x.macid = e.mdata.macid ∧ x.txscId = j then setSeqNum x.head seq
    else copyTo x.head e.wlhdr
  let len := pkt.skb.len - 14
  let payload := (((pkt.skb.first.head ++ pkt.behind).drop 14) ++ List.replicate len 0).take len
  let pktList := [head.take e.wlhdr.length, payload]
  let st := { st with counters := { c with txseqTid := setTid c.txseqTid i priority seq } }
  let st := st.setSta i { t with entry := update t.entry j e }
  (st.setBuf b ⟨e.mdata.macid, j, head⟩,
    { mdata :=
        { e.mdata with
          tid := priority, cat := cvtTidToCat priority, swSeq := seq, pktlen := totalLen pktList }
      pktList })

/-- `txsc_add_sc_check`: whether the packet makes an entry. -/
def txscAddScCheck (cfg : TxCfg) (act : TxscAction) (nrFrags : ℕ) (a : TxAttrib) : Bool :=
  cfg.txscEnable && decide (nrFrags ≤ 1) && !a.bswenc && decide (act = .none) && a.qosEn &&
    a.ampduEn && decide (a.etherType = 0x0800) && !isMcast a.ra && !a.icmpPkt && !a.dhcpPkt

def txscPrepareScEntry (st : TxscState) (i : ℕ) (pkt : TxPkt) (fragLen : ℕ) (req : XmitReq) :
    TxscState :=
  let t := st.sta i
  let e : TxscEntry :=
    { isUsed := true, ethdr := slice pkt.skb.first.head 0 14, wlhdr := req.pktList.headD []
      mdata := req.mdata, fragLen }
  { st.setSta i
      { cacheNum := min (t.cacheNum + 1) coreTxscEntryNum
        curIdx := (t.curIdx + 1) % coreTxscEntryNum
        cacheIdx := t.curIdx
        entry := update t.entry t.curIdx e } with
    staCached := some i }

def txscSlowPath (cfg : TxCfg) (st : TxscState) (act : TxscAction) (pkt : TxPkt) (b : ℕ) :
    TxscState :=
  let r := txFullPath cfg (st.dozing cfg) st.counters pkt
  let st := { st with counters := r.1 }
  match r.2 with
  | none => st
  | some (a, reqs) =>
    let heads := (reqs.map fun req => req.pktList.headD []).flatten
    let st := st.setBuf b { head := copyTo (st.buf b).head heads }
    match reqs, a.psta with
    | req :: _, some i =>
      if txscAddScCheck cfg act reqs.length a then
        txscPrepareScEntry st i pkt (fragLenTxsc cfg.fragLen a) req
      else st
    | _, _ => st

/-- A packet with the request buffer that `get_txreq_buffer` finds for it, or
a station that goes to sleep or wakes up. -/
inductive TxscEvent
  | tx (pkt : TxPkt) (buf : Option ℕ)
  | sleep (sta : ℕ) (asleep : Bool)

/-- `rtw_core_tx` -/
def txscStep (cfg : TxCfg) (st : TxscState) : TxscEvent → TxscState
  | .sleep i asleep => { st with asleep := update st.asleep i asleep }
  | .tx pkt buf =>
    let r := txscGetScEntry cfg st pkt
    match buf, r.2 with
    | none, _ => r.1
    | some b, .apply i j => (txscApplyScCachedEntry r.1 i j pkt b).1
    | some b, act => txscSlowPath cfg r.1 act pkt b

end Rtl8831.Core
