import Rtl8831.Lib.Run
import Rtl8831.Phl.ChanCtx

/-!
# The command tokens of the dispatchers

The token part of `phl_cmd_dispatcher.c`: foreground commands ask for the token of
a band, the shared thread of the dispatchers grants it in the order of asking, and
the holder gives it back or is aborted.  Requests live in a pool of slots; what
callers want done to a slot is queued as an operation, through one of two nodes
embedded in the slot, and carried out by the thread.

The thread can be interrupted wherever it calls back a command, so that a callback
may itself call the dispatcher, or another thread may meanwhile: the callbacks are
the places of `Pc`, and a run is any interleaving of calls with turns of the thread.
Messages appear only as the ones that an abort callback sends.
-/

namespace Rtl8831.Phl.CmdDispr

def maxCmdReqNum : ℕ := 8

inductive TokenOpType
  | addCmdReq
  | freeCmdReq
  | cancelCmdReq
  | renewCmdReq
  deriving DecidableEq

/-- `struct phl_token_op_info`; a zeroed one has no type. -/
structure TokenOpInfo where
  used : Bool := false
  type : Option TokenOpType := none
  data : ℕ := 0
  deriving DecidableEq

/-- The nodes that `token_op_q` links: two in each request slot, one of the dispatcher. -/
inductive OpNode
  | addReqInfo (i : ℕ)
  | freeReqInfo (i : ℕ)
  | renewReqInfo
  deriving DecidableEq

structure ReqStatus where
  enq : Bool := false
  run : Bool := false
  cancel : Bool := false
  lastPermit : Bool := false
  prepare : Bool := false
  deriving DecidableEq

/-- As `pop_front_wait_req` leaves it. -/
def ReqStatus.prepared (s : ReqStatus) : ReqStatus := { s with prepare := true, enq := false }

/-- As `register_cur_cmd_req` leaves it. -/
def ReqStatus.running (s : ReqStatus) : ReqStatus := { s with run := true, prepare := false }

/-- `struct phl_cmd_token_req`: whether `opt` is `FG_CMD_OPT_EXCLUSIVE`, and which
request it is, counted in the order of their addition. -/
structure CmdTokenReq where
  exclusive : Bool := false
  ticket : ℕ := 0
  deriving DecidableEq

structure TokenReqEx where
  status : ReqStatus := {}
  req : CmdTokenReq := {}
  addReqInfo : TokenOpInfo := {}
  freeReqInfo : TokenOpInfo := {}
  deriving DecidableEq

/-- What becomes of a request: added, `acquired` called, and its end. -/
inductive ReqEvent
  | added
  | acquired
  | freed
  | aborted
  | failed
  deriving DecidableEq

/-- `enum dispatcher_status`, as far as tokens depend on it. -/
structure DisprStatus where
  started : Bool := false
  shallStop : Bool := false
  notifyIdle : Bool := false
  waitAbortMsgDone : Bool := false
  clearance : Bool := false
  exclusiveUse : Bool := false
  deriving DecidableEq

/-- `struct cmd_dispatcher`, with the number of abort messages on their way, and
the history of the requests. -/
structure Dispr where
  status : DisprStatus := {}
  tokenReqExPool : ℕ → TokenReqEx := fun _ => {}
  tokenReqWaitQ : List ℕ := []
  tokenReqIdleQ : List ℕ := []
  tokenOpQ : List OpNode := []
  tokenCnt : ℕ := 0
  curCmdReq : Option ℕ := none
  renewReqInfo : TokenOpInfo := {}
  abortMsgs : ℕ := 0
  added : ℕ := 0
  granted : List ℕ := []
  hist : ℕ → List ReqEvent := fun _ => []
  freeAsked : List ℕ := []
  cancelAsked : List ℕ := []
  /-- Requests that `dispr_thread_leave_hdl` has aborted. -/
  stopAborted : List ℕ := []

namespace Dispr

def ticket (d : Dispr) (i : ℕ) : ℕ := (d.tokenReqExPool i).req.ticket

def modifyReq (d : Dispr) (i : ℕ) (f : TokenReqEx → TokenReqEx) : Dispr :=
  { d with tokenReqExPool := Function.update d.tokenReqExPool i (f (d.tokenReqExPool i)) }

def setReqStatus (d : Dispr) (i : ℕ) (f : ReqStatus → ReqStatus) : Dispr :=
  d.modifyReq i fun r => { r with status := f r.status }

def note (d : Dispr) (t : ℕ) (e : ReqEvent) : Dispr :=
  { d with hist := Function.update d.hist t (d.hist t ++ [e]) }

/-! ## The request queues -/

/-- `pop_front_idle_req`: status, request and both nodes of the slot are zeroed. -/
def popFrontIdleReq (d : Dispr) : Option (ℕ × Dispr) :=
  match d.tokenReqIdleQ with
  | [] => none
  | i :: q => some (i, { d.modifyReq i (fun _ => {}) with tokenReqIdleQ := q })

def pushBackIdleReq (d : Dispr) (i : ℕ) : Dispr :=
  { d.setReqStatus i (fun _ => {}) with tokenReqIdleQ := d.tokenReqIdleQ ++ [i] }

def popFrontWaitReq (d : Dispr) : Option (ℕ × Dispr) :=
  match d.tokenReqWaitQ with
  | [] => none
  | i :: q =>
    some (i, { d.setReqStatus i ReqStatus.prepared with tokenReqWaitQ := q })

def frontReqWithExclusiveOpt (d : Dispr) : Bool :=
  match d.tokenReqWaitQ with
  | [] => false
  | i :: _ => (d.tokenReqExPool i).req.exclusive

def pushBackWaitReq (d : Dispr) (i : ℕ) : Dispr :=
  { d.setReqStatus i (fun s => { s with enq := true }) with
    tokenReqWaitQ := d.tokenReqWaitQ ++ [i] }

/-- `register_cur_cmd_req` up to the call of `acquired`. -/
def registerCurCmdReq (d : Dispr) (i : ℕ) : Dispr :=
  let d := d.setReqStatus i ReqStatus.running
  { d.note (d.ticket i) .acquired with
    curCmdReq := some i, tokenCnt := d.tokenCnt + 1, granted := d.granted ++ [d.ticket i] }

/-! ## The operation queue -/

def opInfo (d : Dispr) : OpNode → TokenOpInfo
  | .addReqInfo i => (d.tokenReqExPool i).addReqInfo
  | .freeReqInfo i => (d.tokenReqExPool i).freeReqInfo
  | .renewReqInfo => d.renewReqInfo

def setOpInfo (d : Dispr) (n : OpNode) (info : TokenOpInfo) : Dispr :=
  match n with
  | .addReqInfo i => d.modifyReq i fun r => { r with addReqInfo := info }
  | .freeReqInfo i => d.modifyReq i fun r => { r with freeReqInfo := info }
  | .renewReqInfo => { d with renewReqInfo := info }

/-- Callers have asked for an operation on the request in slot `i`. -/
def noteAsked (d : Dispr) (type : TokenOpType) (i : ℕ) : Dispr :=
  { d with
    freeAsked := if type = .freeCmdReq then d.freeAsked ++ [d.ticket i] else d.freeAsked
    cancelAsked := if type = .cancelCmdReq then d.cancelAsked ++ [d.ticket i] else d.cancelAsked }

/-- `push_back_token_op_info`, which `dispr_enqueue_token_op_info` only calls. -/
def pushBackTokenOpInfo (d : Dispr) (n : OpNode) (type : TokenOpType) (data : ℕ) : Bool × Dispr :=
  if (d.opInfo n).used then (false, d)
  else
    (true, { (d.setOpInfo n ⟨true, some type, data⟩).noteAsked type data with
      tokenOpQ := d.tokenOpQ ++ [n] })

def enqueueRenew (d : Dispr) : Dispr :=
  (d.pushBackTokenOpInfo .renewReqInfo .renewCmdReq 0xff).2

def popFrontTokenOpInfo (d : Dispr) : Option (OpNode × Dispr) :=
  match d.tokenOpQ with
  | [] => none
  | n :: q => some (n, { d with tokenOpQ := q })

/-- `info->used = false` after the operation. -/
def opDone (d : Dispr) (n : OpNode) : Dispr :=
  d.setOpInfo n { d.opInfo n with used := false }

/-! ## Calls -/

inductive Status
  | success
  | pending
  | failure
  | resource
  | unexpectedError
  deriving DecidableEq

/-- `dispr_add_token_req` of a request that passes `chk_cmd_req_ops`. -/
def addTokenReq (d : Dispr) (exclusive : Bool) : Status × Dispr :=
  if !d.status.started || d.status.shallStop then (.unexpectedError, d)
  else
    match d.popFrontIdleReq with
    | none => (.resource, d)
    | some (i, d) =>
      let d := d.modifyReq i fun r => { r with req := ⟨exclusive, d.added⟩ }
      let d := (d.note d.added .added).pushBackWaitReq i
      let d := { d with added := d.added + 1 }
      let stat := if d.tokenOpQ = [] ∧ d.tokenCnt = 0 then Status.success else .pending
      (stat, (d.pushBackTokenOpInfo (.addReqInfo i) .addCmdReq i).2)

/-- `dispr_cancel_token_req` of the slot that the handle names. -/
def cancelTokenReq (d : Dispr) (i : ℕ) : Status × Dispr :=
  if !d.status.started then (.unexpectedError, d)
  else if maxCmdReqNum ≤ i then (.failure, d)
  else
    let s := (d.tokenReqExPool i).status
    if !s.enq && !s.run && !s.prepare then (.failure, d)
    else
      let (ok, d) := d.pushBackTokenOpInfo (.freeReqInfo i) .cancelCmdReq i
      (if ok then .success else .failure, d)

def freeToken (d : Dispr) (i : ℕ) : Status × Dispr :=
  if !d.status.started then (.unexpectedError, d)
  else if d.curCmdReq = none ∨ d.tokenCnt = 0 ∨ maxCmdReqNum ≤ i then (.failure, d)
  else
    let s := (d.tokenReqExPool i).status
    if !s.run && !s.prepare then (.failure, d)
    else
      let d := d.setReqStatus i fun s => { s with cancel := true }
      let (ok, d) := d.pushBackTokenOpInfo (.freeReqInfo i) .freeCmdReq i
      (if ok then .success else .failure, d)

/-- `dispr_send_msg` by a foreground module with `MSG_OPT_SEND_IN_ABORT`: during the
abort callback of the current request this is an abort message. -/
def sendInAbort (d : Dispr) : Dispr :=
  if !d.status.started || d.status.shallStop then d
  else
    match d.curCmdReq with
    | none => d
    | some i =>
      if (d.tokenReqExPool i).status.lastPermit then
        { d with status.waitAbortMsgDone := true, abortMsgs := d.abortMsgs + 1 }
      else d

def cancelAllCmdReq (d : Dispr) : Dispr :=
  { d with tokenReqExPool := fun i =>
      let r := d.tokenReqExPool i
      if i < maxCmdReqNum ∧ r.status ≠ {} then { r with status := { r.status with cancel := true } }
      else r }

def threadStopPrior (d : Dispr) : Dispr :=
  if d.status.started then { d with status.started := false }.cancelAllCmdReq else d

/-- `dispr_thread_stop_post_hdl` and `dispr_start` after it; `obj->status &= 0x7F`
keeps `DISPR_SHALL_STOP`. -/
def restart (d : Dispr) : Dispr :=
  { d with
    status := { d.status with
      started := true, notifyIdle := true, waitAbortMsgDone := false, clearance := false,
      exclusiveUse := false }
    tokenReqExPool := fun _ => {}, tokenReqWaitQ := [],
    tokenReqIdleQ := List.range maxCmdReqNum, tokenOpQ := [], tokenCnt := 0,
    renewReqInfo := {}, abortMsgs := 0 }

end Dispr

/-! ## Two dispatchers and their thread -/

def other : HwBand → HwBand
  | .band0 => .band1
  | .band1 => .band0

/-- Where the shared thread is: between the rounds of `share_thread_hdl`, between two
operations of `token_op_hanler`, in a callback of the request in slot `i` while it
handles node `n`, or somewhere in `dispr_thread_leave_hdl`. -/
inductive Pc
  | loop
  | ops (b : HwBand)
  | acquired (b : HwBand) (i : ℕ) (n : OpNode)
  | abortWait (b : HwBand) (i : ℕ) (n : OpNode)
  | abortCur (b : HwBand) (n : OpNode)
  | leaveCur (b : HwBand)
  | leaveMsgs (b : HwBand)
  | leaveReqs (b : HwBand)
  | leaveAbort (b : HwBand) (i : ℕ)
  | down
  deriving DecidableEq

structure Engine where
  phyNum : ℕ
  dispr : HwBand → Dispr
  pc : Pc := .loop

namespace Engine

/-- `_disp_eng_get_dispr_by_idx` finds the band. -/
def has (w : Engine) (b : HwBand) : Bool :=
  match b with
  | .band0 => decide (1 ≤ w.phyNum)
  | .band1 => decide (2 ≤ w.phyNum)

def modify (w : Engine) (b : HwBand) (f : Dispr → Dispr) : Engine :=
  { w with dispr := Function.update w.dispr b (f (w.dispr b)) }

def goto (w : Engine) (pc : Pc) : Engine := { w with pc := pc }

/-! ## Clearance -/

def clearanceAcquire (w : Engine) (b : HwBand) : Engine :=
  if w.has b then w.modify b fun d => { d with status.clearance := true } else w

def clearanceRelease (w : Engine) (b : HwBand) : Engine :=
  if w.has b then w.modify b fun d => { d with status.clearance := false }.enqueueRenew else w

def exclusiveReady (w : Engine) (b : HwBand) : Engine :=
  if w.has b && !(w.dispr b).status.exclusiveUse then
    w.modify b fun d => { d with status.exclusiveUse := true }.enqueueRenew
  else w

def cmdTokenComplete (w : Engine) (b : HwBand) : Engine :=
  if w.phyNum < 2 then w
  else
    let w :=
      if (w.dispr b).status.exclusiveUse then
        (w.modify b fun d => { d with status.exclusiveUse := false }).clearanceRelease (other b)
      else w
    if (w.dispr b).status.clearance then w.exclusiveReady (other b) else w

def onAbortMsgComplete (w : Engine) (b : HwBand) : Engine :=
  let w := w.modify b fun d =>
    { d with abortMsgs := d.abortMsgs - 1, status.waitAbortMsgDone := false }
  (w.cmdTokenComplete b).modify b Dispr.enqueueRenew

/-! ## The current request -/

/-- What `deregister_cur_cmd_req` does before it notifies slot `i`. -/
def deregisterNotify (w : Engine) (b : HwBand) (i : ℕ) : Engine :=
  w.modify b fun d =>
    (d.setReqStatus i fun s => { s with run := false, lastPermit := true }).note (d.ticket i) .aborted

/-- What `deregister_cur_cmd_req` does last. -/
def deregisterComplete (w : Engine) (b : HwBand) : Engine :=
  if (w.dispr b).status.waitAbortMsgDone then w else w.cmdTokenComplete b

/-- What `deregister_cur_cmd_req` does after it has notified slot `i`, or has not. -/
def deregisterCurCmdReq (w : Engine) (b : HwBand) (i : ℕ) : Engine :=
  (w.modify b fun d =>
    { d.pushBackIdleReq i with tokenCnt := d.tokenCnt - 1, curCmdReq := none }).deregisterComplete b

def endOp (w : Engine) (b : HwBand) (n : OpNode) : Engine :=
  (w.modify b fun d => d.opDone n).goto (.ops b)

/-- `dispr_process_token_req`, up to the call of `acquired` if it grants the token. -/
def processTokenReq (w : Engine) (b : HwBand) (n : OpNode) : Engine :=
  let d := w.dispr b
  if !d.status.started then w.endOp b n
  else if d.status.shallStop then w.endOp b n
  else if 0 < d.tokenCnt then w.endOp b n
  else if d.status.waitAbortMsgDone then w.endOp b n
  else if d.status.clearance then (w.exclusiveReady (other b)).endOp b n
  else if d.frontReqWithExclusiveOpt && !d.status.exclusiveUse then
    (w.clearanceAcquire (other b)).endOp b n
  else
    match d.popFrontWaitReq with
    | none => (w.modify b fun d => { d with status.notifyIdle := true }).endOp b n
    | some (i, d) =>
      let d := { d with status.notifyIdle := false }
      (w.modify b fun _ => d.registerCurCmdReq i).goto (.acquired b i n)

/-! ## Operations -/

def handleTokenOpInfo (w : Engine) (b : HwBand) (n : OpNode) : Engine :=
  let info := (w.dispr b).opInfo n
  match info.type with
  | some .renewCmdReq => w.processTokenReq b n
  | some .addCmdReq => w.processTokenReq b n
  | some .freeCmdReq =>
    if maxCmdReqNum ≤ info.data then w.endOp b n
    else if !((w.dispr b).tokenReqExPool info.data).status.run then w.endOp b n
    else
      match (w.dispr b).curCmdReq with
      | none => (w.deregisterComplete b).processTokenReq b n
      | some i =>
        let w := w.modify b fun d => d.note (d.ticket i) .freed
        (w.deregisterCurCmdReq b i).processTokenReq b n
  | some .cancelCmdReq =>
    if maxCmdReqNum ≤ info.data then w.endOp b n
    else
      let w := w.modify b fun d => d.setReqStatus info.data fun s => { s with cancel := true }
      let s := ((w.dispr b).tokenReqExPool info.data).status
      if s.enq then
        (w.modify b fun d =>
          { d with tokenReqWaitQ := d.tokenReqWaitQ.erase info.data }.note
            (d.ticket info.data) .aborted).goto (.abortWait b info.data n)
      else if s.run then
        match (w.dispr b).curCmdReq with
        | none => (w.deregisterComplete b).processTokenReq b n
        | some i => (w.deregisterNotify b i).goto (.abortCur b n)
      else w.endOp b n
  | none => w.endOp b n

/-- `token_op_hanler` is entered. -/
def tokenOpHanler (w : Engine) (b : HwBand) : Engine :=
  let d := w.dispr b
  if d.status.clearance && d.tokenOpQ.isEmpty && decide (d.tokenCnt = 0) then w.exclusiveReady (other b)
  else w.goto (.ops b)

/-- One round of the loop of `token_op_hanler`. -/
def nextTokenOp (w : Engine) (b : HwBand) : Engine :=
  match (w.dispr b).popFrontTokenOpInfo with
  | none => w.goto .loop
  | some (n, d) => (w.modify b fun _ => d).handleTokenOpInfo b n

/-! ## The end of the thread -/

/-- `dispr_thread_leave_hdl` is entered. -/
def threadLeave (w : Engine) (b : HwBand) : Engine :=
  match (w.dispr b).curCmdReq with
  | none => (w.deregisterComplete b).goto (.leaveMsgs b)
  | some i =>
    let w := w.modify b fun d => { d with stopAborted := d.stopAborted ++ [d.ticket i] }
    (w.deregisterNotify b i).goto (.leaveCur b)

/-- One round of `clear_waiting_msg`, which recycles the abort messages. -/
def clearWaitingMsg (w : Engine) (b : HwBand) : Engine :=
  if (w.dispr b).abortMsgs = 0 then w.goto (.leaveReqs b) else w.onAbortMsgComplete b

/-- One round of `clear_wating_req`, up to the call of `abort`. -/
def clearWatingReq (w : Engine) (b : HwBand) : Engine :=
  if (w.dispr b).tokenReqIdleQ.length = maxCmdReqNum then
    if b = .band0 ∧ 2 ≤ w.phyNum then w.threadLeave .band1 else w.goto .down
  else
    match (w.dispr b).popFrontWaitReq with
    | none => w
    | some (i, d) =>
      (w.modify b fun _ =>
        { d.note (d.ticket i) .aborted with
          stopAborted := d.stopAborted ++ [d.ticket i] }).goto (.leaveAbort b i)

/-! ## Runs -/

inductive Call
  | add (b : HwBand) (exclusive : Bool)
  | cancel (b : HwBand) (i : ℕ)
  | free (b : HwBand) (i : ℕ)
  | sendInAbort (b : HwBand)
  | shallStop (b : HwBand)
  | stopPrior (b : HwBand)
  deriving DecidableEq

/-- A call from anywhere; the thread enters the token part of a band, takes a turn
(returns from the callback it is in, in which `fail` is what `acquired` answers, or
goes on with its loop), recycles an abort message, leaves, or is started again. -/
inductive Event
  | call (c : Call)
  | enter (b : HwBand)
  | turn (fail : Bool)
  | abortMsgDone (b : HwBand)
  | leave
  | restart
  deriving DecidableEq

def call (w : Engine) : Call → Engine
  | .add b exclusive => w.modify b fun d => (d.addTokenReq exclusive).2
  | .cancel b i => w.modify b fun d => (d.cancelTokenReq i).2
  | .free b i => w.modify b fun d => (d.freeToken i).2
  | .sendInAbort b => w.modify b Dispr.sendInAbort
  | .shallStop b => w.modify b fun d => { d with status.shallStop := true }
  | .stopPrior b => w.modify b Dispr.threadStopPrior

def turn (w : Engine) (fail : Bool) : Engine :=
  match w.pc with
  | .ops b => w.nextTokenOp b
  | .acquired b i n =>
    if fail then
      let w := w.modify b fun d =>
        (d.setReqStatus i fun s => { s with run := false }).note (d.ticket i) .failed
      (w.deregisterCurCmdReq b i).processTokenReq b n
    else w.endOp b n
  | .abortWait b i n => (w.modify b fun d => d.pushBackIdleReq i).endOp b n
  | .abortCur b n =>
    match (w.dispr b).curCmdReq with
    | none => (w.deregisterComplete b).processTokenReq b n
    | some i => (w.deregisterCurCmdReq b i).processTokenReq b n
  | .leaveCur b =>
    match (w.dispr b).curCmdReq with
    | none => (w.deregisterComplete b).goto (.leaveMsgs b)
    | some i => (w.deregisterCurCmdReq b i).goto (.leaveMsgs b)
  | .leaveMsgs b => w.clearWaitingMsg b
  | .leaveReqs b => w.clearWatingReq b
  | .leaveAbort b i => (w.modify b fun d => d.pushBackIdleReq i).goto (.leaveReqs b)
  | .loop => w
  | .down => w

def start (w : Engine) : Engine :=
  let w := { w with
    dispr := fun b => if w.has b then (w.dispr b).restart else w.dispr b, pc := .loop }
  if w.phyNum = 1 then w.modify .band0 fun d => { d with status.exclusiveUse := true } else w

def init (phyNum : ℕ) : Engine :=
  { phyNum := phyNum, dispr := fun _ => {} : Engine }.start

def step (w : Engine) : Event → Engine
  | .call c => w.call c
  | .enter b => if w.pc = .loop ∧ (w.dispr b).status.started then w.tokenOpHanler b else w
  | .turn fail => w.turn fail
  | .abortMsgDone b => if w.pc = .loop ∧ 0 < (w.dispr b).abortMsgs then w.onAbortMsgComplete b else w
  | .leave =>
    if w.pc = .loop ∧ w.has .band0 ∧
        !(w.dispr .band0).status.started ∧ !(w.dispr .band1).status.started then
      w.threadLeave .band0
    else w
  | .restart => if w.pc = .down then w.start else w

end Engine

end Rtl8831.Phl.CmdDispr
