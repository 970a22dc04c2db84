import Rtl8831.Lib.Run

/-!
# Pausing and resuming the data path

`phl_data_ctrler` pauses and resumes the software TX and RX paths for the
modules that ask for it.  Each path has a status, which the handler of the
path moves from the stop request to the pause, and a bitmap of the modules
that hold the pause.
-/

namespace Rtl8831.Phl

inductive Path where
  | tx
  | rx
deriving DecidableEq

/-- `PHL_TX_STATUS_*` and `PHL_RX_STATUS_*`. -/
inductive SwSts where
  | idle
  | running
  | stopInprogress
  | swPause
deriving DecidableEq

/-- The modules that ask for the data path; `other` is any module without a bit. -/
inductive CtrlModule where
  | phyMgnt
  | ser
  | powerMgnt
  | mrc
  | ecsa
  | other
deriving DecidableEq

/-- `_phl_get_ctrl_mdl`: the bit of a module. -/
def phlGetCtrlMdl : CtrlModule → BitVec 8
  | .phyMgnt => 1
  | .ser => 2
  | .powerMgnt => 4
  | .mrc => 8
  | .ecsa => 16
  | .other => 0

inductive CtrlStatus where
  | success
  | failure
  | cmdTimeout
deriving DecidableEq

/-- `enum data_ctrl_err_code`, written to the buffer of the message. -/
inductive CtrlErr where
  | swTxPauseFail
  | swTxPausePollto
  | swRxPauseFail
  | swRxPausePollto
  | hwTrxPauseFail
  | swTxResumeFail
  | swRxResumeFail
  | hwTrxResumeFail
deriving DecidableEq

structure SwPath where
  sts : SwSts
  pauseId : BitVec 8
deriving DecidableEq

structure Datapath where
  path : Path → SwPath
  isHwTrxPause : Bool

/-- What a pause meets outside: whether the handler of the path can be
scheduled, and which handlers run while the pause polls. -/
structure PauseEnv where
  scheduled : Bool
  callbacks : List Path
deriving DecidableEq

namespace Datapath

variable (s : Datapath) (p : Path)

def init : Datapath where
  path := fun _ => { sts := .idle, pauseId := 0 }
  isHwTrxPause := false

def setSts (sts : SwSts) : Datapath :=
  { s with path := Function.update s.path p { s.path p with sts := sts } }

def setPauseId (pauseId : BitVec 8) : Datapath :=
  { s with path := Function.update s.path p { s.path p with pauseId := pauseId } }

/-- The end of `_phl_tx_callback_usb` and `_phl_rx_callback_usb`: a requested
stop is acknowledged. -/
def callback : Datapath :=
  if (s.path p).sts = .stopInprogress then s.setSts p .swPause else s

def callbacks (ps : List Path) : Datapath := ps.foldl callback s

/-- `_phl_sw_tx_resume` and `_phl_sw_rx_resume`; `notify` says whether the
handler can be scheduled. -/
def swResume (id : CtrlModule) (notify : Bool) : Datapath × CtrlStatus :=
  let ctrlMdl := phlGetCtrlMdl id
  if (s.path p).sts = .idle then (s.setSts p .running, .success)
  else if (s.path p).pauseId &&& ctrlMdl ≠ ctrlMdl then (s, .failure)
  else
    let s := s.setPauseId p ((s.path p).pauseId &&& ~~~ctrlMdl)
    if (s.path p).pauseId ≠ 0 then (s, .success)
    else (s.setSts p .running, if notify then .success else .failure)

/-- `_phl_sw_tx_pause` and `_phl_sw_rx_pause`. -/
def swPause (id : CtrlModule) (env : PauseEnv) : Datapath × CtrlStatus :=
  let ctrlMdl := phlGetCtrlMdl id
  if (s.path p).sts = .swPause ∨ (s.path p).sts = .stopInprogress then
    (s.setPauseId p ((s.path p).pauseId ||| ctrlMdl), .success)
  else
    let s := s.setSts p .stopInprogress
    if env.scheduled then
      let s := s.callbacks env.callbacks
      let status := if (s.path p).sts = .swPause then CtrlStatus.success else CtrlStatus.cmdTimeout
      -- the bit is set whether the poll saw the pause or not
      (s.setPauseId p ((s.path p).pauseId ||| ctrlMdl), status)
    else (s, .failure)

def phlSwTxResume := s.swResume .tx
def phlSwRxResume := s.swResume .rx
def phlSwTxPause := s.swPause .tx
def phlSwRxPause := s.swPause .rx

/-- `_phl_hw_trx_rst_resume`; `hal` is the outcome of the recovery step. -/
def phlHwTrxRstResume (hal : Bool) : Datapath × CtrlStatus :=
  if hal then ({ s with isHwTrxPause := false }, .success) else (s, .failure)

def phlHwTrxPause (hal : Bool) : Datapath × CtrlStatus :=
  if hal then ({ s with isHwTrxPause := true }, .success) else (s, .failure)

def phlTrxSwPause (id : CtrlModule) (tx rx : PauseEnv) : Datapath × CtrlStatus :=
  match s.phlSwTxPause id tx with
  | (s, .success) => s.phlSwRxPause id rx
  | failed => failed

def phlTrxSwResume (id : CtrlModule) (tx rx : Bool) : Datapath × CtrlStatus :=
  match s.phlSwTxResume id tx with
  | (s, .success) => s.phlSwRxResume id rx
  | failed => failed

/-- `_phl_trx_pause_w_rst`, with the error code it leaves in the message. -/
def phlTrxPauseWRst (id : CtrlModule) (tx : PauseEnv) (hal : Bool) (rx : PauseEnv) :
    Datapath × CtrlStatus × Option CtrlErr :=
  match s.phlSwTxPause id tx with
  | (s, .cmdTimeout) => (s, .cmdTimeout, some .swTxPausePollto)
  | (s, .failure) => (s, .failure, some .swTxPauseFail)
  | (s, .success) =>
    match s.phlHwTrxPause hal with
    | (s, .success) =>
      match s.phlSwRxPause id rx with
      | (s, .success) => (s, .success, none)
      | (s, .cmdTimeout) => (s, .cmdTimeout, some .swRxPausePollto)
      | (s, .failure) => (s, .failure, some .swRxPauseFail)
    | (s, failed) => (s, failed, some .hwTrxPauseFail)

def phlTrxResumeWRst (id : CtrlModule) (rx hal tx : Bool) :
    Datapath × CtrlStatus × Option CtrlErr :=
  match s.phlSwRxResume id rx with
  | (s, .success) =>
    match s.phlHwTrxRstResume hal with
    | (s, .success) =>
      match s.phlSwTxResume id tx with
      | (s, .success) => (s, .success, none)
      | (s, failed) => (s, failed, some .swTxResumeFail)
    | (s, failed) => (s, failed, some .hwTrxResumeFail)
  | (s, failed) => (s, failed, some .swRxResumeFail)

end Datapath

/-- `enum phl_data_ctl_cmd`, each command with what its calls meet outside. -/
inductive DataCtl where
  | hwTrxRstResume (hal : Bool)
  | hwTrxPause (hal : Bool)
  | swTxResume (notify : Bool)
  | swRxResume (notify : Bool)
  | swTxPause (env : PauseEnv)
  | swRxPause (env : PauseEnv)
  | swTxReset
  | swRxReset
  | trxSwPause (tx rx : PauseEnv)
  | trxSwResume (tx rx : Bool)
  | trxPauseWRst (tx : PauseEnv) (hal : Bool) (rx : PauseEnv)
  | trxResumeWRst (rx hal tx : Bool)
deriving DecidableEq

/-- `phl_data_ctrler`.  The resets clear statistics only. -/
def Datapath.phlDataCtrler (s : Datapath) (id : CtrlModule) : DataCtl → Datapath × CtrlStatus
  | .hwTrxRstResume hal => s.phlHwTrxRstResume hal
  | .hwTrxPause hal => s.phlHwTrxPause hal
  | .swTxResume notify => s.phlSwTxResume id notify
  | .swRxResume notify => s.phlSwRxResume id notify
  | .swTxPause env => s.phlSwTxPause id env
  | .swRxPause env => s.phlSwRxPause id env
  | .swTxReset => (s, .success)
  | .swRxReset => (s, .success)
  | .trxSwPause tx rx => s.phlTrxSwPause id tx rx
  | .trxSwResume tx rx => s.phlTrxSwResume id tx rx
  | .trxPauseWRst tx hal rx =>
    let (s, status, _) := s.phlTrxPauseWRst id tx hal rx
    (s, status)
  | .trxResumeWRst rx hal tx =>
    let (s, status, _) := s.phlTrxResumeWRst id rx hal tx
    (s, status)

inductive DataEvent where
  | ctrl (id : CtrlModule) (cmd : DataCtl)
  | callback (p : Path)
deriving DecidableEq

def Datapath.step (s : Datapath) : DataEvent → Datapath
  | .ctrl id cmd => (s.phlDataCtrler id cmd).1
  | .callback p => s.callback p

end Rtl8831.Phl
