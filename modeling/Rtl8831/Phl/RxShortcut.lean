import Rtl8831.Phl.Reorder
import Rtl8831.Phl.RxDeagg

/-!
# The short cut for received A-MPDUs

With `PHL_RXSC_AMPDU` a packet that a reorder session hands up at once is remembered:
station, TID, PPDU counter, sequence number and session.  The parser consults the entry
for the packets of later transfers, and reads fewer fields of one that continues it.  The
reorder step consults the same entry, and moves the head of the remembered session on.

A transfer is parsed whole.  The packets found wait in `pending`, and are handled one at
a time and in any order: this covers the grouping of packets into transfers as well as the
packets that are held back for a status report.
-/

namespace Rtl8831.Phl.RxShortcut

open Function

open RxWd (RxscEntry RMetaData Build SessionRef phlMacidMaxNum)
open RxDeagg (phlGetSingleRx Piece)

structure Cfg where
  build : Build
  com : PhlCom

structure Transfer where
  mem : ℕ → UInt8
  len : UInt32
  avail : ℕ → Bool

def Transfer.query (t : Transfer) (i : ℕ) : Option RxWd.RxPkt :=
  if t.avail i then some ⟨.max, .cleared, 0, 0⟩ else none

/-- The sessions of a station that is not there are all absent.  `gen` counts what was set
up or freed at a place; a write through a pointer to a freed session is a stray one. -/
structure World where
  rxscEntry : RxscEntry
  sessions : ℕ → Fin 16 → Option Session
  gen : ℕ → Fin 16 → ℕ
  pending : List RxWd.RxPkt
  handled : ℕ
  effects : List Effects
  strayWrites : ℕ

def toMpdu (id : ℕ) (rx : RxWd.RxPkt) : RxPkt where
  id := id
  seq := Fin.ofNat 4096 rx.mdata.seq
  tid := rx.mdata.tid
  macid := rx.mdata.macid
  addrCamVld := decide (rx.mdata.addrCamVld ≠ 0)
  bc := decide (rx.mdata.bc ≠ 0)
  mc := decide (rx.mdata.mc ≠ 0)
  qos := decide (rx.mdata.qos ≠ 0)
  qNull := decide (rx.mdata.qNull ≠ 0)
  moreFrag := decide (rx.mdata.moreFrag ≠ 0)
  fragNum := rx.mdata.fragNum
  amsduCut := decide (rx.mdata.amsduCut ≠ 0)
  lastMsdu := decide (rx.mdata.lastMsdu ≠ 0)
  length := rx.length

section Reorder

variable (com : PhlCom) (w : World)

def staOf (macid : ℕ) : StaInfo := ⟨macid, w.sessions macid⟩

/-- `r->head_seq_num = seq_inc(r->head_seq_num)` through a pointer. -/
def advance (ref : SessionRef) : World :=
  match w.sessions ref.macid ref.tid with
  | some s =>
    if w.gen ref.macid ref.tid = ref.gen then
      let s := { s with rx := { s.rx with headSeqNum := seqInc s.rx.headSeqNum } }
      { w with
        sessions := update w.sessions ref.macid
          (update (w.sessions ref.macid) ref.tid (some s)) }
    else { w with strayWrites := w.strayWrites + 1 }
  | none => { w with strayWrites := w.strayWrites + 1 }

def phlRxscCacheCheck : World × Bool :=
  if w.rxscEntry.cachedRxMacid ≠ phlMacidMaxNum then
    match w.rxscEntry.cachedR with
    | some ref => (advance w ref, true)
    | none => ({ w with rxscEntry := { w.rxscEntry with cachedRxMacid := phlMacidMaxNum } }, false)
  else (w, false)

def directTid (pkt : RxPkt) (storeTime curTime : ℕ) : Option (Fin 16) := do
  let pkt ← removeFcs com pkt
  let tid ← reorderTid com (staOf w pkt.macid) pkt
  let s ← w.sessions pkt.macid tid
  if !s.rx.started && seqLess pkt.seq s.rx.headSeqNum then none
  else if (manageStaReorderBuf s.rx pkt storeTime curTime).1 then none
  else some tid

/-- `_phl_rxsc_cache_entry` for a packet that is handed up at once. -/
def phlRxscCacheEntry (rx : RxWd.RxPkt) (tid : Option (Fin 16)) : RxscEntry :=
  match tid with
  | none => w.rxscEntry
  | some tid =>
    { cachedRxMacid := rx.mdata.macid
      cachedRxTid := rx.mdata.tid
      cachedRxPpduCnt := rx.mdata.ppduCnt
      cachedRxSeq := rx.mdata.seq
      cachedR := some ⟨rx.mdata.macid, tid, w.gen rx.mdata.macid tid⟩ }

/-- `phl_rx_reorder` without the short cut. -/
def normalReorder (rxsc : Bool) (rx : RxWd.RxPkt) (storeTime curTime : ℕ) : World :=
  let pkt := toMpdu w.handled rx
  let out := rxReorder com (staOf w pkt.macid) pkt storeTime curTime
  { w with
    rxscEntry :=
      if rxsc then phlRxscCacheEntry w rx (directTid com w pkt storeTime curTime)
      else w.rxscEntry
    sessions := update w.sessions pkt.macid out.1.tidRx
    handled := w.handled + 1
    effects := w.effects ++ [out.2] }

def phlRxReorder (rxsc : Bool) (rx : RxWd.RxPkt) (storeTime curTime : ℕ) : World :=
  if rxsc = false ∨ com.sniffer = true then normalReorder com w rxsc rx storeTime curTime
  else
    match removeFcs com (toMpdu w.handled rx) with
    | none => normalReorder com w rxsc rx storeTime curTime
    | some pkt =>
      match phlRxscCacheCheck w with
      | (w, true) =>
        { w with handled := w.handled + 1, effects := w.effects ++ [{ frames := [pkt] }] }
      | (w, false) => normalReorder com w rxsc rx storeTime curTime

end Reorder

inductive Event where
  | transfer (t : Transfer)
  | handle (i storeTime curTime : ℕ)
  | session (macid : ℕ) (e : RxEvent)

/-- A packet comes as `handle`. -/
def isRx : RxEvent → Bool
  | .rx _ _ _ => true
  | _ => false

def touches : RxEvent → Fin 16 → Bool
  | .start _ baPolicy tid _ allocOk, t => decide (tid = t ∧ baPolicy = 0) && allocOk
  | .stop tid, t => decide (tid = t)
  | .free, _ => true
  | _, _ => false

/-- Only the end of a session by `rtw_phl_stop_rx_ba_session` takes it out of the entry. -/
def forget (w : World) (macid : ℕ) : RxEvent → RxscEntry
  | .stop tid =>
    match w.rxscEntry.cachedR with
    | some ref =>
      if ref.macid = macid ∧ (ref.tid : ℕ) = tid ∧ w.gen ref.macid ref.tid = ref.gen ∧
          (w.sessions ref.macid ref.tid).isSome then
        { w.rxscEntry with cachedR := none }
      else w.rxscEntry
    | none => w.rxscEntry
  | _ => w.rxscEntry

def step (rxsc : Bool) (c : Cfg) (w : World) : Event → World
  | .transfer t =>
    match phlGetSingleRx { c.build with rxscAmpdu := rxsc } t.mem t.query w.rxscEntry t.len
        (t.len.toNat + 1) with
    | none => w
    | some s =>
      { w with rxscEntry := s.rxscEntry, pending := w.pending ++ s.rxList.map Piece.rx }
  | .handle i storeTime curTime =>
    match w.pending[i]? with
    | none => w
    | some rx =>
      let w := { w with pending := w.pending.eraseIdx i }
      if rx.type = .wifi then phlRxReorder c.com w rxsc rx storeTime curTime else w
  | .session macid e =>
    let out := handle c.com (staOf w macid) e
    if isRx e then w
    else
      { w with
        rxscEntry := forget w macid e
        sessions := update w.sessions macid out.1.tidRx
        gen := update w.gen macid fun t =>
          if touches e t then w.gen macid t + 1 else w.gen macid t
        effects := w.effects ++ [out.2] }

def World.init : World where
  rxscEntry :=
    { cachedRxMacid := phlMacidMaxNum, cachedRxTid := 0, cachedRxPpduCnt := 0, cachedRxSeq := 0,
      cachedR := none }
  sessions := fun _ _ => none
  gen := fun _ _ => 0
  pending := []
  handled := 0
  effects := []
  strayWrites := 0

/-- What the rest of the driver sees: the packets with their meta data, what became of
those handled, and the sessions. -/
structure Outcome where
  sessions : ℕ → Fin 16 → Option Session
  pending : List RxWd.RxPkt
  handled : ℕ
  effects : List Effects
  strayWrites : ℕ

def World.outcome (w : World) : Outcome :=
  ⟨w.sessions, w.pending, w.handled, w.effects, w.strayWrites⟩

end Rtl8831.Phl.RxShortcut
