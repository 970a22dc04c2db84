import Rtl8831.Core.Xmit

/-!
# Transmit frames and request buffers

`rtw_core_tx` takes an `xmit_frame` and a buffer of requests from their free
queues; `core_tx_free_xmitframe` gives both back, once it has been called as
often as the frame has requests.  Frames, buffers and packets are numbered.
Software A-MSDU, the TX shortcut and WDS are not part of this build.
-/

namespace Rtl8831.Core

open Lib

/-- What `struct xmit_frame` says about its release. -/
structure XmitFrame where
  txreqCnt : ℕ := 0
  txfreeCnt : ℕ := 0
  pkt : Option ℕ := none
  ptxreqBuf : Option ℕ := none
  deriving DecidableEq

/-- A request: the frame in its `os_priv`, the buffer it lies in, and the
packet whose data it lists. -/
structure TxReq where
  osPriv : ℕ
  txreqBuf : ℕ
  skb : ℕ
  deriving DecidableEq

/-- The free queues with their counters, the frames, the requests in the TX
ring and those of frames in a sleep queue, how many packets there were so
far, and those given back to the system. -/
structure XmitPool where
  freeXmitQueue : List ℕ
  freeXmitframeCnt : ℕ
  freeTxreqQueue : List ℕ
  freeTxreqCnt : ℕ
  frame : ℕ → XmitFrame
  fragLen : ℕ
  ring : List TxReq
  sleepQ : List TxReq
  skbCnt : ℕ
  completed : List ℕ

/-- What happens to one frame on its way: its attributes, if
`update_attrib` finds them, whether the TKIP MIC key is all zero, whether the
station sleeps, and for which of its fragments the ring is full. -/
structure TxFate where
  attrib : Option TxAttrib
  micKeyNull : Bool := false
  sleeping : Bool := false
  ringFull : ℕ → Bool := fun _ => false

/-- What `rtw_br_client_tx` does to a packet: whether it is replaced by a
copy, and whether it is refused. -/
structure BrFate where
  replaced : Bool := false
  fails : Bool := false

/-- A copy for one station, and whether `rtw_skb_copy` succeeds. -/
structure TxCopy where
  copied : Bool
  fate : TxFate

/-- What `rtw_ap_addr_resolve` makes of a packet: it is too short, it goes to
one receiver, or it is to be sent to each of some stations. -/
inductive ApResolve
  | fail
  | single
  | bmcToUc (copies : List TxCopy)

inductive TxRoute
  | sta (bridge : Option BrFate)
  | ap (resolve : ApResolve)

structure TxPacket where
  route : TxRoute
  fate : TxFate

namespace XmitPool

def init (nFrames nBufs fragLen : ℕ) : XmitPool where
  freeXmitQueue := List.range nFrames
  freeXmitframeCnt := nFrames
  freeTxreqQueue := List.range nBufs
  freeTxreqCnt := nBufs
  frame _ := {}
  fragLen := fragLen
  ring := []
  sleepQ := []
  skbCnt := 0
  completed := []

def setFrame (s : XmitPool) (f : ℕ) (x : XmitFrame) : XmitPool :=
  { s with frame := Function.update s.frame f x }

variable (s : XmitPool) (f : ℕ)

@[simp] lemma setFrame_self (x : XmitFrame) :
    (s.setFrame f x).frame f = x := by
  simp [setFrame]

lemma setFrame_of_ne {f g : ℕ} (x : XmitFrame) (h : g ≠ f) :
    (s.setFrame f x).frame g = s.frame g := by
  simp [setFrame, h]

@[simp] lemma setFrame_setFrame (x y : XmitFrame) :
    (s.setFrame f x).setFrame f y = s.setFrame f y := by
  simp [setFrame]

def newSkb (s : XmitPool) : ℕ × XmitPool := (s.skbCnt, { s with skbCnt := s.skbCnt + 1 })

def rtwOsPktComplete (s : XmitPool) (skb : ℕ) : XmitPool :=
  { s with completed := s.completed ++ [skb] }

/-- `core_tx_init_xmitframe`; `pkt` is not touched. -/
def coreTxInitXmitframe (s : XmitPool) (f : ℕ) : XmitPool :=
  s.setFrame f { pkt := (s.frame f).pkt }

def coreTxAllocXmitframe (s : XmitPool) : Option (ℕ × XmitPool) :=
  match s.freeXmitQueue with
  | [] => none
  | f :: q =>
    some (f, coreTxInitXmitframe
      { s with freeXmitQueue := q, freeXmitframeCnt := s.freeXmitframeCnt - 1 } f)

/-- `rtw_list_delete` and `rtw_list_insert_tail` for the frame's buffer. -/
def putTxreqBuf (s : XmitPool) : Option ℕ → XmitPool
  | none => s
  | some b =>
    { s with
      freeTxreqQueue := s.freeTxreqQueue.erase b ++ [b]
      freeTxreqCnt := s.freeTxreqCnt + 1 }

/-- `rtw_os_xmit_complete`, up to the frame's own field. -/
def rtwOsXmitComplete (s : XmitPool) : Option ℕ → XmitPool
  | none => s
  | some skb => s.rtwOsPktComplete skb

/-- `core_tx_free_xmitframe`; `ptxreq_buf` stays as it is. -/
def coreTxFreeXmitframe (s : XmitPool) (f : ℕ) : XmitPool :=
  let x := { s.frame f with txfreeCnt := (s.frame f).txfreeCnt + 1 }
  if x.txfreeCnt < x.txreqCnt then s.setFrame f x
  else
    let s := (s.putTxreqBuf x.ptxreqBuf).rtwOsXmitComplete x.pkt
    let s := s.setFrame f { x with pkt := none }
    { s with
      freeXmitQueue := s.freeXmitQueue.erase f ++ [f]
      freeXmitframeCnt := s.freeXmitframeCnt + 1 }

def getTxreqBuffer (s : XmitPool) : Option (ℕ × XmitPool) :=
  match s.freeTxreqQueue with
  | [] => none
  | b :: q => some (b, { s with freeTxreqQueue := q, freeTxreqCnt := s.freeTxreqCnt - 1 })

/-- `core_wlan_fill_txreq_pre`: `txreq_cnt` is set before there is a buffer. -/
def coreWlanFillTxreqPre (s : XmitPool) (f : ℕ) (a : TxAttrib) : Bool × XmitPool :=
  let n := (getWlFragParas s.fragLen a).2
  if rtwMaxFragNum < n then (false, s)
  else
    let s := s.setFrame f { s.frame f with txreqCnt := n }
    match s.getTxreqBuffer with
    | none => (false, s)
    | some (b, s) => (true, s.setFrame f { s.frame f with ptxreqBuf := some b })

def coreTxPreparePhl (s : XmitPool) (f : ℕ) (a : TxAttrib) (micKeyNull : Bool) : Bool × XmitPool :=
  let r := s.coreWlanFillTxreqPre f a
  if r.1 = false then r
  else if a.encrypt = .tkip ∧ micKeyNull = true then (false, r.2)
  else r

/-- The requests of a frame, as `fill_txreq_others` leaves them. -/
def reqOf (s : XmitPool) (f : ℕ) : TxReq :=
  ⟨f, (s.frame f).ptxreqBuf.getD 0, (s.frame f).pkt.getD 0⟩

/-- The loop of `core_tx_call_phl`, from fragment `idx` on. -/
def addTxReqs (s : XmitPool) (r : TxReq) (full : ℕ → Bool) : ℕ → ℕ → Bool × XmitPool
  | 0, _ => (true, s)
  | k + 1, idx =>
    if full idx then (false, s) else addTxReqs { s with ring := s.ring ++ [r] } r full k (idx + 1)

def coreTxCallPhl (s : XmitPool) (f : ℕ) (full : ℕ → Bool) : Bool × XmitPool :=
  s.addTxReqs (s.reqOf f) full (s.frame f).txreqCnt 0

/-- The labels `abort_tx_per_packet` and `abort_core_tx`, with a frame. -/
def abortTx (s : XmitPool) (f skb : ℕ) : Bool × XmitPool :=
  let s := if (s.frame f).pkt = none then s.rtwOsPktComplete skb else s
  (false, s.coreTxFreeXmitframe f)

def coreTxPerPacket (s : XmitPool) (f skb : ℕ) (t : TxFate) : Bool × XmitPool :=
  let s := s.setFrame f { s.frame f with pkt := some skb }
  match t.attrib with
  | none => s.abortTx f skb
  | some a =>
    let r := s.coreTxPreparePhl f a t.micKeyNull
    if r.1 = false then r.2.abortTx f skb
    else if t.sleeping then
      let reqs := List.replicate (r.2.frame f).txreqCnt (r.2.reqOf f)
      (true, { r.2 with sleepQ := r.2.sleepQ ++ reqs })
    else
      let c := r.2.coreTxCallPhl f t.ringFull
      if c.1 then c else c.2.abortTx f skb

/-- `core_br_client_tx`: whether it goes on, and with which packet. -/
def coreBrClientTx (s : XmitPool) (f skb : ℕ) : Option BrFate → Bool × ℕ × XmitPool
  | none => (true, skb, s)
  | some b =>
    let r := if b.replaced then (s.rtwOsPktComplete skb).newSkb else (skb, s)
    if b.fails then (false, r.1, r.2.coreTxFreeXmitframe f) else (true, r)

def nrXmitframe : ℕ := 1256

/-- `rtw_ap_data_bmc_to_uc`: a frame for each station as long as there are
any, and whether they were too few. -/
def rtwApDataBmcToUc (s : XmitPool) : List TxCopy → List (ℕ × TxCopy) × Bool × XmitPool
  | [] => ([], false, s)
  | c :: cs =>
    match s.coreTxAllocXmitframe with
    | none => ([], true, s)
    | some (f, s) =>
      let r := s.rtwApDataBmcToUc cs
      ((f, c) :: r.1, r.2)

/-- The loop of `rtw_core_tx` over the frames for single stations; if the
original is not needed, the last of them takes its packet. -/
def sendCopies (s : XmitPool) (f : ℕ) (oriNoNeed : Bool) : List (ℕ × TxCopy) → XmitPool
  | [] => s
  | (g, c) :: rest =>
    if oriNoNeed ∧ rest = [] then
      let skb := (s.frame f).pkt.getD 0
      let s := s.setFrame f { s.frame f with pkt := none }
      (s.coreTxPerPacket g skb c.fate).2.sendCopies f oriNoNeed rest
    else if c.copied then
      let r := s.newSkb
      (r.2.coreTxPerPacket g r.1 c.fate).2.sendCopies f oriNoNeed rest
    else (s.coreTxFreeXmitframe g).sendCopies f oriNoNeed rest

def rtwCoreTx (s : XmitPool) (skb : ℕ) (t : TxPacket) : Bool × XmitPool :=
  match s.coreTxAllocXmitframe with
  | none => (false, s.rtwOsPktComplete skb)
  | some (f, s) =>
    match t.route with
    | .sta bridge =>
      let r := s.coreBrClientTx f skb bridge
      if r.1 = false then r.2.2.abortTx f r.2.1 else r.2.2.coreTxPerPacket f r.2.1 t.fate
    | .ap .fail => s.abortTx f skb
    | .ap .single =>
      (s.setFrame f { s.frame f with pkt := some skb }).coreTxPerPacket f skb t.fate
    | .ap (.bmcToUc copies) =>
      let s := s.setFrame f { s.frame f with pkt := some skb }
      if nrXmitframe / 4 < s.freeXmitframeCnt then
        let r := s.rtwApDataBmcToUc copies
        let s := r.2.2.sendCopies f (!r.2.1) r.1
        if r.2.1 then s.coreTxPerPacket f skb t.fate else (true, s.coreTxFreeXmitframe f)
      else s.coreTxPerPacket f skb t.fate

/-- `rtw_core_tx_recycle` for the request at place `i` of the ring. -/
def rtwCoreTxRecycle (s : XmitPool) (i : ℕ) : XmitPool :=
  match s.ring[i]? with
  | none => s
  | some r => { s with ring := s.ring.eraseIdx i }.coreTxFreeXmitframe r.osPriv

end XmitPool

inductive TxEvent
  | tx (t : TxPacket)
  | recycle (i : ℕ)

def XmitPool.step (s : XmitPool) : TxEvent → XmitPool
  | .tx t => (s.newSkb.2.rtwCoreTx s.newSkb.1 t).2
  | .recycle i => s.rtwCoreTxRecycle i

end Rtl8831.Core
