import Rtl8831.Lib.Run
import Rtl8831.Phl.RxWd

/-!
# Frames that wait for their PPDU status

With `CONFIG_RX_PSTS_PER_PKT` a received frame may be kept in a queue of its band
and PPDU counter until the status report of the PPDU arrives, which is then copied
into the frame.  The queue is handed up when the report is there, when the counter
changes, or when the receive path is paused.

Functions return the frames they give to `rx_handle_normal`, in the order they do;
`waited` tells the frames that come from a queue from those handed up at once.
-/

namespace Rtl8831.Phl.PpduSts

open Function

open RxWd (RMetaData)

inductive HwBand where
  | band0
  | band1
  deriving DecidableEq

/-- `struct rtw_phl_ppdu_phy_info` without sniffer and channel information -/
structure PhyInfo where
  isValid : Bool
  isPktWithData : Bool
  rssi : ℕ
  rssiPath : Fin 4 → ℕ
  txBf : ℕ
  frameType : ℕ
  snrFdAvg : ℕ
  snrFd : Fin 4 → ℕ
  snrTdAvg : ℕ
  snrTd : Fin 4 → ℕ
  isDrvinfoVld : Bool
  signalStrength : ℕ
  chIdx : ℕ
  rxsc : ℕ

/-- A received frame; `hdrType` is the type its 802.11 header gives. -/
structure Frame where
  id : ℕ
  mdata : RMetaData
  phyInfo : PhyInfo
  hdrType : ℕ

/-- A status report, with what other parts hold when it is handled: the averages of
`rssi_stat.ma_rssi` by frame type, and the channel of the band. -/
structure Report where
  mdata : RMetaData
  phyInfo : PhyInfo
  maRssi : ℕ → ℕ
  curCh : ℕ

/-- `struct rtw_phl_ppdu_sts_info`; `frames` are the queues of `sts_ent`. -/
structure Info where
  frames : HwBand → Fin 8 → List Frame
  curPpduCnt : HwBand → Fin 8
  enPpduSts : HwBand → Bool
  enPstsPerPkt : Bool
  pstsAmpdu : Bool
  ppduStsFilter : ℕ
  enFakePsts : Bool

/-- A call of `rx_handle_normal`. -/
structure Indication where
  band : HwBand
  frame : Frame
  waited : Bool

def bandOf (m : RMetaData) : HwBand := if m.bbSel > 0 then .band1 else .band0

/-- `_phl_rx_proc_frame_list`: pop the first frame until the queue is empty. -/
def rxProcFrameList (band : HwBand) : List Frame → List Indication
  | [] => []
  | f :: queue => ⟨band, f, true⟩ :: rxProcFrameList band queue

section Info

variable (s : Info)

def setQueue (band : HwBand) (i : Fin 8) (queue : List Frame) : Info :=
  { s with frames := update s.frames band (update (s.frames band) i queue) }

def procEntry (band : HwBand) (i : Fin 8) : Info × List Indication :=
  if s.frames band i = [] then (s, [])
  else (setQueue s band i [], rxProcFrameList band (s.frames band i))

def procBand (s : Info) (band : HwBand) : List (Fin 8) → Info × List Indication
  | [] => (s, [])
  | i :: counters =>
    let (s, out) := procEntry s band i
    let (s, rest) := procBand s band counters
    (s, out ++ rest)

def PassesFilter (f : Frame) : Prop :=
  f.mdata.longRxd = 1 ∧ s.ppduStsFilter.testBit f.mdata.frameType = true

instance (f : Frame) : Decidable (PassesFilter s f) := inferInstanceAs (Decidable (_ ∧ _))

/-- The checks that frames and reports both pass first: the counter, if there are queues. -/
def counterOf (m : RMetaData) : Option (Fin 8) :=
  if s.enPstsPerPkt = false then none
  else if h : m.ppduCnt < 8 then
    if s.enPpduSts (bandOf m) = false then none else some ⟨m.ppduCnt, h⟩
  else none

def startPpdu (band : HwBand) (cnt : Fin 8) (f : Frame) : Info × List Indication × Bool :=
  let (s, out) := procBand s band (List.finRange 8)
  let ret := decide (PassesFilter s f)
  let s := if ret then setQueue s band cnt [f] else s
  ({ s with curPpduCnt := update s.curPpduCnt band cnt }, out, ret)

/-- `phl_rx_proc_wait_phy_sts`; the last part is `true` if the frame waits. -/
def rxProcWaitPhySts (f : Frame) : Info × List Indication × Bool :=
  let band := bandOf f.mdata
  match counterOf s f.mdata with
  | none => (s, [], false)
  | some cnt =>
    if s.curPpduCnt band ≠ cnt then startPpdu s band cnt f
    else if PassesFilter s f then
      (setQueue s band cnt (s.frames band cnt ++ [f]), [], true)
    else (s, [], false)

def rxCopyPhySts (src dest : PhyInfo) : PhyInfo :=
  { dest with
    isValid := src.isValid
    isPktWithData := src.isPktWithData
    rssi := src.rssi
    rssiPath := src.rssiPath
    snrFd := src.snrFd
    snrTd := src.snrTd
    txBf := src.txBf
    frameType := src.frameType
    snrFdAvg := src.snrFdAvg
    snrTdAvg := src.snrTdAvg }

def updatePhyInfo (src : PhyInfo) (f : Frame) : Frame :=
  { f with phyInfo := if f.phyInfo.isDrvinfoVld then rxCopyPhySts src f.phyInfo else src }

def fakePsts (r : Report) (f : Frame) (info : PhyInfo) : PhyInfo :=
  if info.isValid = false ∧ s.enFakePsts then
    if f.phyInfo.isDrvinfoVld then
      { info with
        rssi := f.phyInfo.signalStrength
        rssiPath := fun _ => f.phyInfo.signalStrength
        isValid := true }
    else
      { info with
        rssi := r.maRssi f.mdata.frameType
        rssiPath := fun _ => r.maRssi f.mdata.frameType
        chIdx := r.curCh
        isValid := true }
  else info

def IsFor (r : Report) (f : Frame) : Prop :=
  r.phyInfo.isPktWithData = true ∧ f.mdata.rxRate = r.mdata.rxRate ∧ f.mdata.bw = r.mdata.bw ∧
    f.mdata.rxGiLtf = r.mdata.rxGiLtf ∧ f.mdata.ppduType = r.mdata.ppduType

instance (r : Report) (f : Frame) : Decidable (IsFor r f) :=
  inferInstanceAs (Decidable (_ ∧ _ ∧ _ ∧ _ ∧ _))

/-- The frames of the current queue with the status of the report, if it is for them. -/
def attach (r : Report) (cnt : Fin 8) (f : Frame) (queue : List Frame) : List Frame :=
  let info := fakePsts s r f { r.phyInfo with frameType := f.hdrType }
  if cnt = s.curPpduCnt (bandOf r.mdata) ∧ IsFor r f then
    updatePhyInfo info f :: (if s.pstsAmpdu then queue.map (updatePhyInfo info) else queue)
  else f :: queue

/-- `phl_rx_proc_phy_sts`; the last part is `true` for `RTW_PHL_STATUS_SUCCESS`. -/
def rxProcPhySts (r : Report) : Info × List Indication × Bool :=
  let band := bandOf r.mdata
  let cur := s.curPpduCnt band
  match counterOf s r.mdata with
  | none => (s, [], false)
  | some cnt =>
    match s.frames band cur with
    | [] => (s, [], true)
    | f :: queue =>
      (setQueue s band cur [], rxProcFrameList band (attach s r cnt f queue), false)

def handlePpduStsQ : Info × List Indication :=
  let (s, out0) := procBand s .band0 (List.finRange 8)
  let (s, out1) := procBand s .band1 (List.finRange 8)
  (s, out0 ++ out1)

end Info

/-- What reaches the receive path: a WIFI frame, a status report, a pause of the receive
path, and the switch of the reports of a band. -/
inductive Event where
  | wifi (f : Frame)
  | ppduSts (r : Report)
  | queuedRx
  | enPpduSts (band : HwBand) (en : Bool)

/-- The state, the calls of `rx_handle_normal`, and for each band the names of the frames
that were made to wait, in the order they arrived. -/
structure World where
  info : Info
  indicated : List Indication
  held : HwBand → List ℕ

/-- One packet of `phl_rx_process_usb`, or one of the other events. -/
def step (w : World) : Event → World
  | .wifi f =>
    match rxProcWaitPhySts w.info f with
    | (s, out, true) =>
      { info := s
        indicated := w.indicated ++ out
        held := update w.held (bandOf f.mdata) (w.held (bandOf f.mdata) ++ [f.id]) }
    | (s, out, false) =>
      { w with info := s, indicated := w.indicated ++ out ++ [⟨bandOf f.mdata, f, false⟩] }
  | .ppduSts r =>
    let (s, out, _) := rxProcPhySts w.info r
    { w with info := s, indicated := w.indicated ++ out }
  | .queuedRx =>
    let (s, out) := handlePpduStsQ w.info
    { w with info := s, indicated := w.indicated ++ out }
  | .enPpduSts band en =>
    { w with info := { w.info with enPpduSts := update w.info.enPpduSts band en } }

/-- What `rtw_phl_init_ppdu_sts_para` and the build choose before receiving starts. -/
structure Para where
  enPstsPerPkt : Bool
  pstsAmpdu : Bool
  rxFltr : ℕ
  enFakePsts : Bool
  enPpduSts : HwBand → Bool

def World.init (p : Para) : World where
  info :=
    { frames := fun _ _ => []
      curPpduCnt := fun _ => 0
      enPpduSts := p.enPpduSts
      enPstsPerPkt := p.enPstsPerPkt
      pstsAmpdu := p.pstsAmpdu
      ppduStsFilter := p.rxFltr
      enFakePsts := p.enFakePsts }
  indicated := []
  held := fun _ => []

end Rtl8831.Phl.PpduSts
