import Rtl8831.Phl.ChanCtx

/-!
# The scan command

`phl_cmd_scan.c` runs a scan as a foreground command of the dispatcher of each
band it uses.  The command waits for the token of the band, is granted it, and
then drives itself by messages it sends to its own handler and by a timer; it
ends by giving the token back, or by an abort.  `phl_cmd_dispatcher.c` decides
which of its messages are delivered.

One request is modelled, with the driver's own channel switching (not
`SCAN_MD_FW`) and a caller that gave `scan_complete`.  What the dispatchers, the
clock and the channel list come up with are inputs of the events.  A message that
was cancelled reaches nobody and is left out of the queue at once; the rest may be
delivered in any order.
-/

namespace Rtl8831.Phl

/-- The messages of `PHL_FG_MDL_SCAN`.  `abortEnd` is the `MSG_EVT_SCAN_END` of
`_cmd_abort_notify`, which reaches no handler but calls `_cmd_abort_notify_cb`
when it is recycled. -/
inductive ScanMsg
  | scanStart
  | listenStateExpire
  | swchStart
  | swchDone
  | scanEnd
  | abortEnd
  deriving DecidableEq

/-- Where the token request of a band is: not there, in `token_req_wait_q`, or
`cur_cmd_req`. -/
inductive Token
  | idle
  | waiting
  | granted
  deriving DecidableEq

/-- What `free_req_info` of the request stands in `token_op_q` for. -/
inductive TokenOp
  | free
  | cancel
  deriving DecidableEq

/-- What the dispatcher answers to a message it could queue: it does, it has no
idle message, or the device is gone. -/
inductive SendRes
  | success
  | resource
  | unexpected
  deriving DecidableEq

inductive ScanResult
  | cancel
  | abort
  | complete
  deriving DecidableEq

/-- What the request has on one band: in the dispatcher, in its `cmd_scan_ctrl`,
in `param->state` and in the hardware. -/
structure ScanBand where
  token : Token := .idle
  /-- `REQ_STATUS_CANCEL` of the request. -/
  reqCancel : Bool := false
  op : Option TokenOp := none
  msgs : List ScanMsg := []
  shallStop : Bool := false
  /-- `DISPR_STARTED` has been cleared. -/
  stopped : Bool := false
  /-- `sctrl->token` is a handle. -/
  hdl : Bool := false
  timer : Bool := false
  /-- `sctrl->scan_ch` is a channel of mode `BACKOP_MODE`. -/
  backOp : Bool := false
  acquire : Bool := false
  started : Bool := false
  dfIo : Bool := false
  ended : Bool := false
  /-- `tx_pause[PAUSE_RSON_NOR_SCAN]` of the band. -/
  txPaused : Bool := false
  /-- `rx_fltr_opt_mode` of the band is `RX_FLTR_OPT_MODE_SCAN`. -/
  rxScan : Bool := false
  /-- How often a scan start has set, and a scan end has undone, the two. -/
  starts : ℕ := 0
  undos : ℕ := 0
  deriving DecidableEq

/-- How far `rtw_phl_cmd_scan_request` has come. -/
inductive Submit
  | idle
  | first
  | second
  | accepted
  | refused
  deriving DecidableEq

/-- `struct rtw_phl_scan_param`.  `first` is the band of `sctrl[0]`; with
`twoBands` (`_cmd_scan_dbcc_policy`) `sctrl[1]` is on the other one. -/
structure Scan where
  first : HwBand
  twoBands : Bool
  /-- The channel list made for the band has channels. -/
  hasChannels : HwBand → Bool
  sctrlNum : ℕ := 0
  submit : Submit := .idle
  band : HwBand → ScanBand := fun _ => {}
  /-- Calls of `scan_complete`, and `param->result`. -/
  callbacks : ℕ := 0
  result : Option ScanResult := none

/-! ## The dispatcher of a band -/

namespace ScanBand

/-- `dispr_send_msg` lets the command send while it is the running request. -/
def canSend (x : ScanBand) : Bool :=
  !x.stopped && !x.shallStop && decide (x.token = .granted) && !x.reqCancel

def disprSendMsg (x : ScanBand) (m : ScanMsg) (ok : Bool) : ScanBand :=
  if x.canSend && ok then { x with msgs := x.msgs ++ [m] } else x

/-- `cur_req_hdl` hands a message to the running request only. -/
def handles (x : ScanBand) : Bool :=
  decide (x.token = .granted) && !x.reqCancel

def disprFreeToken (x : ScanBand) : Bool × ScanBand :=
  if x.stopped || decide (x.token ≠ .granted) || !x.hdl then (false, x)
  else
    let x := { x with reqCancel := true }
    if x.op.isSome then (false, x) else (true, { x with op := some .free })

/-- `dispr_cancel_token_req`, after which the caller forgets the handle. -/
def disprCancelTokenReq (x : ScanBand) : ScanBand :=
  let queues := !x.stopped && x.hdl && decide (x.token ≠ .idle) && x.op.isNone
  { x with op := if queues then some .cancel else x.op, hdl := false }

def pushBackIdleReq (x : ScanBand) : ScanBand :=
  { x with token := .idle, reqCancel := false }

def cmdScanStart (x : ScanBand) : ScanBand :=
  { x with txPaused := true, rxScan := true, starts := x.starts + 1 }

/-- The part of `_cmd_scan_end` that works on the band. -/
def cmdScanEnd (x : ScanBand) : ScanBand :=
  let x := { x with backOp := false, timer := false }
  if x.started then
    -- without IO only the software record of the TX pause is cleared
    if x.dfIo then { x with txPaused := false, undos := x.undos + 1 }
    else { x with txPaused := false, rxScan := false, undos := x.undos + 1 }
  else x

/-- The channel switch of `MSG_EVT_SWCH_START`: TX is let through on the op
channels and held on the others. -/
def switchTo (x : ScanBand) (backOp : Bool) : ScanBand :=
  let paused :=
    if !backOp && x.backOp then true
    else if backOp && !x.backOp then false
    else x.txPaused
  { x with txPaused := paused, backOp := backOp, timer := true }

end ScanBand

namespace Scan

def second (s : Scan) : HwBand :=
  match s.first with
  | .band0 => .band1
  | .band1 => .band0

def num (s : Scan) : ℕ := if s.twoBands then 2 else 1

def modify (s : Scan) (b : HwBand) (f : ScanBand → ScanBand) : Scan :=
  { s with band := Function.update s.band b (f (s.band b)) }

/-- `phl_cmd_scan_ctrl` finds a `cmd_scan_ctrl` for the band. -/
def scanCtrl (s : Scan) (b : HwBand) : Bool :=
  decide ((if b = s.first then 0 else 1) < s.sctrlNum)

/-- `TEST_SCAN_FLAGS(param->state, CMD_SCAN_END)`. -/
def anyEnded (s : Scan) : Bool :=
  (s.band .band0).ended || (s.band .band1).ended

def indicates (s : Scan) : Bool :=
  !(decide (1 < s.sctrlNum) && !s.anyEnded)

/-- `_cmd_scan_req_deinit` and `scan_complete`. -/
def scanComplete (s : Scan) (indicate : Bool) : Scan :=
  if indicate then { s with sctrlNum := 0, callbacks := s.callbacks + 1 } else s

/-! ## Ending a scan on a band -/

def cmdScanEnd (s : Scan) (b : HwBand) : Scan :=
  let indicate := s.indicates
  let s := s.modify b fun x => { x with ended := true }
  let s := if s.scanCtrl b then s.modify b ScanBand.cmdScanEnd else s
  s.scanComplete indicate

def cmdAbortNotifyCb (s : Scan) (b : HwBand) (cannotIo : Bool) : Scan :=
  (s.modify b fun x => { x with dfIo := x.dfIo || cannotIo }).cmdScanEnd b

/-- `_cmd_abort_notify`.  A dispatcher that stops refuses every message. -/
def cmdAbortNotify (s : Scan) (b : HwBand) (r : SendRes) : Scan :=
  let x := s.band b
  if x.acquire then
    let s := { s with result := some .cancel }
    if !s.scanCtrl b then s.cmdAbortNotifyCb b false
    else
      match if x.stopped || x.shallStop then .unexpected else r with
      | .success => s.modify b fun x => { x with msgs := x.msgs ++ [.abortEnd] }
      | .resource => s.cmdAbortNotifyCb b false
      | .unexpected => s.cmdAbortNotifyCb b true
  else
    let indicate := s.indicates
    let s := s.modify b fun x => { x with ended := true }
    { s with result := some .abort }.scanComplete indicate

/-- `phl_disp_eng_free_token` and, if it succeeds, `_cmd_scan_end`. -/
def freeAndEnd (s : Scan) (b : HwBand) (prepare : Scan → Scan) : Scan :=
  let (ok, x) := (s.band b).disprFreeToken
  let s := s.modify b fun _ => x
  if ok then (prepare s).cmdScanEnd b else s

/-! ## The handlers of the command -/

def cmdScanFailEvHdlr (s : Scan) (b : HwBand) (m : ScanMsg) (cannotIo send : Bool) : Scan :=
  if !s.scanCtrl b then s
  else
    match m with
    | .scanStart | .listenStateExpire | .swchStart | .swchDone =>
      s.modify b fun x => x.disprSendMsg .scanEnd send
    | .scanEnd =>
      s.freeAndEnd b fun s => s.modify b fun x => { x with dfIo := x.dfIo || cannotIo }
    | .abortEnd => s

/-- What the handler of a message meets: `max_scan_time` is over, the listen
state is extended or probing goes on, `_cmd_scan_select_chnl` has another channel
(and whether it is an op channel), and the dispatcher takes the next message. -/
structure Handling where
  late : Bool := false
  extend : Bool := false
  next : Option Bool := none
  send : Bool := true
  deriving DecidableEq

def cmdScanHdlInternalEvt (s : Scan) (b : HwBand) (m : ScanMsg) (h : Handling) : Scan :=
  if h.late then s.cmdScanFailEvHdlr b m false h.send
  else if !s.scanCtrl b then s
  else
    match m with
    | .scanStart =>
      s.modify b fun x =>
        { x.cmdScanStart with started := true }.disprSendMsg .swchStart h.send
    | .listenStateExpire =>
      s.modify b fun x =>
        if h.extend then { x with timer := true } else x.disprSendMsg .swchStart h.send
    | .swchStart =>
      s.modify b fun x =>
        match h.next with
        | none => x.disprSendMsg .scanEnd h.send
        | some backOp => (x.switchTo backOp).disprSendMsg .swchDone h.send
    | .swchDone => s
    | .scanEnd => s.freeAndEnd b fun s => { s with result := some .complete }
    | .abortEnd => s

def cmdScanTimer (s : Scan) (b : HwBand) (send : Bool) : Scan :=
  s.modify b fun x => x.disprSendMsg .listenStateExpire send

/-- `dispr_process_token_req` makes the waiting request the running one and calls
`_phl_cmd_scan_req_acquired`; if that fails the request is deregistered. -/
def phlCmdScanReqAcquired (s : Scan) (b : HwBand) (late send : Bool) : Scan :=
  let s := s.modify b fun x => { x with token := .granted }
  if late || !s.scanCtrl b || !((s.band b).canSend && send) then
    (s.cmdAbortNotify b .success).modify b ScanBand.pushBackIdleReq
  else
    s.modify b fun x => { x with msgs := x.msgs ++ [.scanStart], acquire := true }

/-! ## What the dispatcher does with the request -/

/-- `deregister_cur_cmd_req`: the messages of the request are cancelled before
the abort is notified. -/
def deregisterCurCmdReq (s : Scan) (b : HwBand) (notify : Bool) (r : SendRes) : Scan :=
  let s := s.modify b fun x => { x with msgs := [] }
  let s := if notify then s.cmdAbortNotify b r else s
  s.modify b ScanBand.pushBackIdleReq

/-- `_handle_token_op_info` on the entry of the request. -/
def handleTokenOpInfo (s : Scan) (b : HwBand) (r : SendRes) : Scan :=
  let t :=
    match (s.band b).op with
    | none => s
    | some .free => if (s.band b).token = Token.granted then s.deregisterCurCmdReq b false r else s
    | some .cancel =>
      match (s.band b).token with
      | .idle => s
      | .waiting => (s.cmdAbortNotify b r).modify b ScanBand.pushBackIdleReq
      | .granted => s.deregisterCurCmdReq b true r
  t.modify b fun x => { x with op := none }

/-- How a message leaves the queue: to the handler; to the handler as failed by
another module; or unseen, cancelled for want of IO, because another message of
the sender is pending, or for another reason. -/
inductive Delivery
  | handled (h : Handling)
  | failed (cannotIo send : Bool)
  | cannotIo
  | clrSndr (send : Bool)
  | cancelled
  deriving DecidableEq

/-- `msg_dispatch` or `push_back_idle_msg` on the message at place `i`. -/
def deliver (s : Scan) (b : HwBand) (i : ℕ) (how : Delivery) : Scan :=
  match (s.band b).msgs[i]? with
  | none => s
  | some m =>
    let s := s.modify b fun x => { x with msgs := x.msgs.eraseIdx i }
    let handles := (s.band b).handles
    match m, how with
    | .abortEnd, .failed cannotIo _ => s.cmdAbortNotifyCb b cannotIo
    | .abortEnd, .cannotIo => s.cmdAbortNotifyCb b true
    | .abortEnd, _ => s.cmdAbortNotifyCb b false
    | m, .handled h => if handles then s.cmdScanHdlInternalEvt b m h else s
    | m, .failed cannotIo send => if handles then s.cmdScanFailEvHdlr b m cannotIo send else s
    -- `_cmd_scan_timer_notify_cb` sends the message again
    | .listenStateExpire, .clrSndr send => s.cmdScanTimer b send
    | _, _ => s

def threadStopPriorHdl (s : Scan) (b : HwBand) : Scan :=
  s.modify b fun x =>
    if x.stopped then x
    else { x with stopped := true, reqCancel := x.reqCancel || decide (x.token ≠ .idle) }

/-- `clear_waiting_msg` recycles what is left in the queue. -/
def clearWaitingMsg (s : Scan) (b : HwBand) : Scan :=
  let aborts := decide (ScanMsg.abortEnd ∈ (s.band b).msgs)
  let s := s.modify b fun x => { x with msgs := [] }
  if aborts then s.cmdAbortNotifyCb b false else s

/-- `clear_wating_req`. -/
def clearWaitingReq (s : Scan) (b : HwBand) : Scan :=
  if (s.band b).token = .waiting then
    (s.cmdAbortNotify b .unexpected).modify b ScanBand.pushBackIdleReq
  else s

def threadLeaveHdl (s : Scan) (b : HwBand) : Scan :=
  let t := if (s.band b).token = .granted then s.deregisterCurCmdReq b true .unexpected else s
  ((t.clearWaitingMsg b).clearWaitingReq b).modify b fun x => { x with op := none }

/-! ## The requests -/

/-- `rtw_phl_cmd_scan_request` up to `_phl_cmd_scan_req_submit`. -/
def scanReqInit (s : Scan) (ok : Bool) : Scan :=
  if ok then { s with sctrlNum := s.num, submit := .first } else { s with submit := .refused }

/-- `phl_disp_eng_add_token_req` on the dispatcher of the band. -/
def addTokenReq (s : Scan) (b : HwBand) : Scan :=
  s.modify b fun x => { x with token := .waiting, hdl := true }

def canAdd (s : Scan) (b : HwBand) : Bool :=
  !(s.band b).stopped && !(s.band b).shallStop

/-- One round of the loop of `_phl_cmd_scan_req_submit`. -/
def scanReqSubmit (s : Scan) (ok : Bool) : Scan :=
  match s.submit with
  | .first =>
    if s.hasChannels s.first && !(s.canAdd s.first && ok) then
      { s with sctrlNum := 0, submit := .refused }
    else
      let t :=
        if s.hasChannels s.first then s.addTokenReq s.first
        else s.modify s.first fun x => { x with ended := true }
      { t with submit := if 1 < t.sctrlNum then .second else .accepted }
  | .second =>
    let t :=
      if s.hasChannels s.second && (s.canAdd s.second && ok) then s.addTokenReq s.second
      else s.modify s.second fun x => { x with ended := true }
    { t with submit := .accepted }
  | _ => s

def rtwPhlCmdScanCancel (s : Scan) : Scan :=
  let s := if 0 < s.sctrlNum then s.modify s.first ScanBand.disprCancelTokenReq else s
  if 1 < s.sctrlNum then s.modify s.second ScanBand.disprCancelTokenReq else s

/-! ## Runs -/

inductive Event
  | request (init : Bool)
  | submit (add : Bool)
  | cancel
  | grant (b : HwBand) (late send : Bool)
  | deliver (b : HwBand) (i : ℕ) (how : Delivery)
  | timer (b : HwBand) (send : Bool)
  | tokenOp (b : HwBand) (r : SendRes)
  | shallStop (b : HwBand)
  | stop (b : HwBand)
  | leave (b : HwBand)
  deriving DecidableEq

def step (s : Scan) : Event → Scan
  | .request init => if s.submit = .idle then s.scanReqInit init else s
  | .submit add => s.scanReqSubmit add
  | .cancel => s.rtwPhlCmdScanCancel
  | .grant b late send =>
    if (s.band b).token = .waiting ∧ (s.band b).stopped = false ∧ (s.band b).shallStop = false
    then s.phlCmdScanReqAcquired b late send
    else s
  | .deliver b i how => s.deliver b i how
  | .timer b send =>
    if (s.band b).timer then
      (s.modify b fun x => { x with timer := false }).cmdScanTimer b send
    else s
  | .tokenOp b r => if (s.band b).stopped then s else s.handleTokenOpInfo b r
  | .shallStop b => s.modify b fun x => { x with shallStop := true }
  | .stop b => s.threadStopPriorHdl b
  | .leave b => if (s.band b).stopped then s.threadLeaveHdl b else s

def init (first : HwBand) (twoBands : Bool) (hasChannels : HwBand → Bool) : Scan where
  first := first
  twoBands := twoBands
  hasChannels := hasChannels

end Scan
end Rtl8831.Phl
