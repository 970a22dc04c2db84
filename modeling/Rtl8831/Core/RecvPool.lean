import Rtl8831.Core.Defrag

/-!
# Receive frames

`rtw_core_rx_process` takes a `recv_frame` from the free queue for every
packet of PHL.  The frame goes back when the packet is dropped or indicated,
or it is linked into the `defrag_q` of a station.  Frames and PHL buffers are
numbered; what the steps on the way find out about a packet is part of the
packet.
-/

namespace Rtl8831.Core

open Lib

/-- A fragment, for `recvframe_chk_defrag`: the station whose queue takes it
and whether `recvframe_defrag` joins what is there with the last one. -/
structure FragFate where
  sta : Option ℕ := none
  mfrag : Bool := false
  fragNum : Fin 16 := 0
  joins : Bool := false

/-- A management frame: whether `validate_mgmt_protect` lets it pass, and the
stations that `mgt_dispatcher` removes. -/
structure MgntFate where
  protectFails : Bool := false
  frag : FragFate := {}
  freedStas : List ℕ := []

/-- The ways through `rtw_core_rx_data_post_process`. -/
inductive PostFate
  | amsdu
  | noAct
  | badHeader
  | forwarded
  | refused
  | noPkt
  | indicated

structure DataFate where
  valid : Bool := true
  decrypts : Bool := true
  frag : FragFate := {}
  micOk : Bool := true
  portOpen : Bool := true
  post : PostFate := .indicated

/-- What `validate_recv_frame` finds. -/
inductive RxFate
  | badVersion
  | ctrl
  | mgnt (m : MgntFate)
  | data (d : DataFate)

/-- A group-addressed frame is also given to the other interfaces; `copied`
says whether there is a copy of the packet. -/
structure CloneFate where
  copied : Bool
  fate : RxFate

/-- What one turn of `rtw_core_rx_process` meets: whether PHL has a packet,
whether a buffer is found for it, the other interfaces, whether
`rtw_core_update_recvframe` refuses it for another reason, whether it is
broken or the interface down, and whether the shortcut or the test mode takes
it. -/
structure RxPacket where
  req : Bool := true
  pktFails : Bool := false
  clones : List CloneFate := []
  updateFails : Bool := false
  broken : Bool := false
  shortcut : Bool := false
  mp : Bool := false
  fate : RxFate

/-- The free queue with its counter, the frames linked in a `defrag_q` with
the station, in order, the PHL buffer of each frame, how many PHL buffers
there were so far and which went back.  `misfreed` notes every frame that was
freed while it was linked somewhere. -/
structure RecvPool where
  freeRecvQueue : List ℕ
  freeRecvframeCnt : ℕ
  linked : List (ℕ × ℕ)
  rxReq : ℕ → Option ℕ
  rxReqCnt : ℕ
  returnedRxbuf : List ℕ
  misfreed : List ℕ

namespace RecvPool

def init (nFrames : ℕ) : RecvPool where
  freeRecvQueue := List.range nFrames
  freeRecvframeCnt := nFrames
  linked := []
  rxReq _ := none
  rxReqCnt := 0
  returnedRxbuf := []
  misfreed := []

/-- The `defrag_q` of a station. -/
def defragQ (s : RecvPool) (sta : ℕ) : List ℕ :=
  (s.linked.filter fun x => decide (x.1 = sta)).map Prod.snd

def rtwAllocRecvframe (s : RecvPool) : RecvPool × Option ℕ :=
  match s.freeRecvQueue with
  | [] => (s, none)
  | f :: q =>
    ({ s with
        freeRecvQueue := q
        freeRecvframeCnt := s.freeRecvframeCnt - 1
        rxReq := Function.update s.rxReq f none }, some f)

/-- `rtw_free_recvframe`, which unlinks the frame from whatever queue it is
in. -/
def recycle (s : RecvPool) (f : ℕ) : RecvPool :=
  { s with
    freeRecvQueue := s.freeRecvQueue.erase f ++ [f]
    freeRecvframeCnt := s.freeRecvframeCnt + 1
    linked := s.linked.filter fun x => decide (x.2 ≠ f)
    returnedRxbuf := s.returnedRxbuf ++ (s.rxReq f).toList }

/-- `rtw_free_recvframe` by the owner of a frame; nothing happens for `NULL`. -/
def rtwFreeRecvframe (s : RecvPool) : Option ℕ → RecvPool
  | none => s
  | some f =>
    { s.recycle f with
      misfreed := if f ∈ s.freeRecvQueue ∨ f ∈ s.linked.map Prod.snd then f :: s.misfreed
        else s.misfreed }

/-- `rtw_free_recvframe_queue`; the queue is the owner of its frames. -/
def rtwFreeRecvframeQueue (s : RecvPool) (sta : ℕ) : RecvPool :=
  (s.defragQ sta).foldl recycle s

def recvframeDefrag (s : RecvPool) (sta : ℕ) (joins : Bool) : RecvPool × Option ℕ :=
  match s.defragQ sta with
  | [] => (s, none)
  | pf :: _ =>
    let s := { s with linked := s.linked.filter fun x => decide (x.2 ≠ pf) }
    if joins then (s.rtwFreeRecvframeQueue sta, some pf)
    else ((s.rtwFreeRecvframe (some pf)).rtwFreeRecvframeQueue sta, none)

/-- `recvframe_chk_defrag` for frame `f`: the verdict, and what is in
`*pprecv_frame` afterwards. -/
def recvframeChkDefrag (s : RecvPool) (f : ℕ) (x : FragFate) : RecvPool × CoreRx × Option ℕ :=
  if x.mfrag then
    match x.sta with
    | none => (s, .drop, some f)
    | some sta =>
      let s := if x.fragNum = 0 then s.rtwFreeRecvframeQueue sta else s
      ({ s with linked := s.linked ++ [(sta, f)] }, .defrag, some f)
  else if x.fragNum ≠ 0 then
    match x.sta with
    | none => (s, .drop, some f)
    | some sta =>
      let r := { s with linked := s.linked ++ [(sta, f)] }.recvframeDefrag sta x.joins
      (r.1, if r.2 = none then .drop else .continue, r.2)
  else (s, .continue, some f)

/-- `validate_recv_mgnt_frame`; `rtw_free_stainfo` empties the queue of a
station. -/
def validateRecvMgntFrame (s : RecvPool) (f : ℕ) (m : MgntFate) : RecvPool × Option ℕ :=
  if m.protectFails then (s, some f)
  else
    let r := s.recvframeChkDefrag f m.frag
    if r.2.1 ≠ .continue then (r.1, r.2.2)
    else (m.freedStas.foldl rtwFreeRecvframeQueue r.1, r.2.2)

/-- `validate_recv_frame`: whether to go on, and the frame. -/
def validateRecvFrame (s : RecvPool) (f : ℕ) : RxFate → RecvPool × Bool × Option ℕ
  | .badVersion => (s, false, some f)
  | .ctrl => (s, false, some f)
  | .mgnt m =>
    let r := s.validateRecvMgntFrame f m
    (r.1, false, r.2)
  | .data d => (s, d.valid, some f)

def rxDataPreProcess (s : RecvPool) (f : ℕ) (d : DataFate) : RecvPool × CoreRx × Option ℕ :=
  if d.decrypts = false then (s, .drop, some f)
  else
    let r := s.recvframeChkDefrag f d.frag
    if r.2.1 ≠ .continue then r
    else if d.micOk = false ∨ d.portOpen = false then (r.1, .drop, r.2.2)
    else r

/-- `rtw_core_rx_data_post_process`: whether it is done, and the frame. -/
def rxDataPostProcess (s : RecvPool) (f : ℕ) : PostFate → RecvPool × Bool × Option ℕ
  | .amsdu => (s.rtwFreeRecvframe (some f), true, none)
  | .noAct => (s, false, some f)
  | .badHeader => (s, false, some f)
  | .forwarded => (s.rtwFreeRecvframe (some f), true, none)
  | .refused => (s, false, some f)
  | .noPkt => (s.rtwFreeRecvframe (some f), false, none)
  | .indicated => (s.rtwFreeRecvframe (some f), true, some f)

/-- One turn of the loop in `rtw_mi_buddy_clone_bcmc_packet`.  What becomes of
the pointer in `validate_recv_frame` is not seen here. -/
def cloneBcmcPacket (s : RecvPool) (c : CloneFate) : RecvPool :=
  let r := s.rtwAllocRecvframe
  match r.2 with
  | none => r.1
  | some f =>
    let s := if c.copied then (r.1.validateRecvFrame f c.fate).1 else r.1
    s.rtwFreeRecvframe (some f)

def rxFrame (s : RecvPool) (f : ℕ) (fate : RxFate) : RecvPool :=
  let v := s.validateRecvFrame f fate
  match v.2.2, fate with
  | some f, .data d =>
    if v.2.1 = false then v.1.rtwFreeRecvframe (some f)
    else
      let r := v.1.rxDataPreProcess f d
      match r.2.1, r.2.2 with
      | .defrag, _ => r.1
      | .continue, some f =>
        let p := r.1.rxDataPostProcess f d.post
        if p.2.1 then p.1 else p.1.rtwFreeRecvframe p.2.2
      | _, frame => r.1.rtwFreeRecvframe frame
  | frame, _ => v.1.rtwFreeRecvframe frame

/-- One turn of `rtw_core_rx_process`. -/
def rtwCoreRxProcess (s : RecvPool) (p : RxPacket) : RecvPool :=
  let a := s.rtwAllocRecvframe
  match a.2 with
  | none => a.1
  | some f =>
    if p.req = false then a.1.rtwFreeRecvframe (some f)
    else
      let req := s.rxReqCnt
      let s := { a.1 with rxReqCnt := req + 1 }
      let s := if p.pktFails then s else p.clones.foldl cloneBcmcPacket s
      let s := { s with rxReq := Function.update s.rxReq f (some req) }
      if p.pktFails || p.updateFails || p.broken || p.shortcut || p.mp then
        s.rtwFreeRecvframe (some f)
      else s.rxFrame f p.fate

inductive Event
  | rx (p : RxPacket)
  | freeSta (sta : ℕ)

def step (s : RecvPool) : Event → RecvPool
  | .rx p => s.rtwCoreRxProcess p
  | .freeSta sta => s.rtwFreeRecvframeQueue sta

end RecvPool

end Rtl8831.Core
