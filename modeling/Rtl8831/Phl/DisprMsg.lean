import Rtl8831.Lib.Run

/-!
# The messages of a dispatcher

The message part of `phl_cmd_dispatcher.c`: a message is put into a slot of a pool,
waits, is fed by the thread to the modules of its notify map, first in the
pre-protocol and then in the post-protocol phase, may be pended in between, and gives
its slot back after its completion routine.

The thread can be interrupted wherever it calls back a module, a completion routine
or a command, so that the callback itself or another thread may meanwhile call the
dispatcher: the callbacks are the places of `Pc`, and a run is any interleaving of
calls with turns of the thread.  Of the command tokens only the current request is
kept, which the thread may register and deregister whenever it handles tokens.
-/

namespace Rtl8831.Phl.DisprMsg

open Function

def maxPhlMsgNum : ℕ := 24

/-- `PHL_BK_MDL_END`, the number of bits of a bitmap. -/
def bkMdlEnd : ℕ := 128

def phlMdlPhyMgnt : ℕ := 1
def msgEvtMax : ℕ := 0x7fff
def msgEvtPhyOn : ℕ := 1
def msgEvtPhyIdle : ℕ := 2
def msgEvtDevCannotIo : ℕ := 60
def msgEvtDevResumeIo : ℕ := 61

/-- `enum phl_bk_module_priority`. -/
inductive MdlPriority
  | role
  | optional
  | mandatory
  deriving DecidableEq

/-- `_get_mdl_priority`; `none` is `PHL_MDL_PRI_MAX`. -/
def getMdlPriority (id : ℕ) : Option MdlPriority :=
  if id < 10 then none
  else if id ≤ 40 then some .role
  else if id ≤ 70 then some .mandatory
  else if id ≤ 127 then some .optional
  else none

def isDisprCtrl (id : ℕ) : Bool := decide (id < 10)

/-- `u8 bitmap[MODL_MASK_LEN]`. -/
abbrev Bitmap := Finset ℕ

def addBitmapBit (b : Bitmap) (ids : List ℕ) : Bitmap :=
  ids.foldl (fun b id => if id < bkMdlEnd then insert id b else b) b

def clrBitmapBit (b : Bitmap) (ids : List ℕ) : Bitmap :=
  ids.foldl (fun b id => b.erase id) b

@[simp] lemma mem_addBitmapBit {b : Bitmap} {ids : List ℕ} {id : ℕ} :
    id ∈ addBitmapBit b ids ↔ id ∈ b ∨ id ∈ ids ∧ id < bkMdlEnd := by
  rw [addBitmapBit]
  induction ids generalizing b with
  | nil => simp
  | cons i ids ih =>
    rw [List.foldl_cons, ih, List.mem_cons]
    by_cases hi : i < bkMdlEnd
    · rw [if_pos hi, Finset.mem_insert]
      constructor
      · rintro ((rfl | h) | h)
        · exact .inr ⟨.inl rfl, hi⟩
        · exact .inl h
        · exact .inr ⟨.inr h.1, h.2⟩
      · rintro (h | ⟨rfl | h, hlt⟩)
        · exact .inl (.inr h)
        · exact .inl (.inl rfl)
        · exact .inr ⟨h, hlt⟩
    · rw [if_neg hi]
      constructor
      · rintro (h | h)
        · exact .inl h
        · exact .inr ⟨.inr h.1, h.2⟩
      · rintro (h | ⟨rfl | h, hlt⟩)
        · exact .inl h
        · exact absurd hlt hi
        · exact .inr ⟨h, hlt⟩

@[simp] lemma mem_clrBitmapBit {b : Bitmap} {ids : List ℕ} {id : ℕ} :
    id ∈ clrBitmapBit b ids ↔ id ∈ b ∧ id ∉ ids := by
  rw [clrBitmapBit]
  induction ids generalizing b with
  | nil => simp
  | cons i ids ih =>
    rw [List.foldl_cons, ih, Finset.mem_erase, List.mem_cons, not_or]
    tauto

lemma lt_of_getMdlPriority {id : ℕ} {p : MdlPriority} (h : getMdlPriority id = some p) :
    id < bkMdlEnd := by
  by_contra hge
  rw [bkMdlEnd, Nat.not_lt] at hge
  rw [getMdlPriority, if_neg (by omega), if_neg (by omega), if_neg (by omega),
    if_neg (by omega)] at h
  cases h

inductive MdlRet
  | success
  | fail
  | ignore
  | pending
  | cannotIo
  deriving DecidableEq

def MdlRet.stop (r : MdlRet) : Bool := decide (r ≠ .success ∧ r ≠ .ignore)

structure MsgStatus where
  enq : Bool := false
  run : Bool := false
  notifyComplete : Bool := false
  cancel : Bool := false
  prePhase : Bool := false
  fail : Bool := false
  ownerBkMdl : Bool := false
  ownerReq : Bool := false
  clrSndrMsgIfPending : Bool := false
  pending : Bool := false
  forAbort : Bool := false
  pendingDuringCannotIo : Bool := false
  deriving DecidableEq

/-- What `push_back_wait_msg`, `insert_msg_by_priority` and `push_back_pending_msg` make
of the status. -/
def MsgStatus.queued (s : MsgStatus) : MsgStatus := { s with enq := true, run := false }

/-- As `pop_front_wait_msg` leaves it. -/
def MsgStatus.taken (s : MsgStatus) : MsgStatus :=
  { s with run := true, enq := false, pending := false }

/-- `msg_id`: the sender, the event and the `MSG_INDC` flags. -/
structure MsgId where
  mdlId : ℕ := 0
  evtId : ℕ := 0
  indcPrePhase : Bool := false
  indcFail : Bool := false
  indcCancel : Bool := false
  indcCannotIo : Bool := false
  indcClrSndr : Bool := false
  deriving DecidableEq

inductive Notice
  | mdl (pre : Bool) (id : ℕ) (ret : MdlRet)
  | req (id : ℕ)
  deriving DecidableEq

/-- `struct phl_dispr_msg_ex`, with the message it holds (counted in the order of the
sends), what has been notified of it, and the modules of its notify map, in their
order, that have been registered ever since it was first dispatched. -/
structure MsgEx where
  status : MsgStatus := {}
  msg : MsgId := {}
  premap : Bitmap := ∅
  postmap : Bitmap := ∅
  completion : Bool := false
  module : Option ℕ := none
  ticket : ℕ := 0
  log : List Notice := []
  owed : Option (List ℕ) := none

/-- The map that `get_msg_bitmap` chooses. -/
def MsgEx.map (ex : MsgEx) (pre : Bool) : Bitmap := if pre then ex.premap else ex.postmap

/-- As `dispr_send_msg` leaves a message that it refuses after all. -/
def MsgEx.refused (ex : MsgEx) : MsgEx :=
  { ex with
    msg := { ex.msg with indcFail := true }
    status := { ex.status with notifyComplete := false } }

/-- As `dispr_send_msg` queues a message. -/
def MsgEx.accepted (ex : MsgEx) (abort : Bool) : MsgEx :=
  { ex with status := { ex.status with forAbort := abort, prePhase := true } }

structure Module where
  id : ℕ
  started : Bool := false
  deriving DecidableEq

/-- `struct phl_msg_attribute`; a null `id_arr` is `none`. -/
structure MsgAttr where
  skipNotifyOptMdl : Bool := false
  blistPresent : Bool := false
  clrSndrMsgIfPending : Bool := false
  sendInAbort : Bool := false
  pendingDuringCannotIo : Bool := false
  idArr : Option (List ℕ) := none
  len : ℕ := 0
  completion : Bool := false
  deriving DecidableEq

/-- The current request: its module and its `enum cmd_req_status`. -/
structure CmdReq where
  moduleId : ℕ
  run : Bool := true
  cancel : Bool := false
  lastPermit : Bool := false
  deriving DecidableEq

def Module.stopped (m : Module) : Module := { m with started := false }

/-- `REQ_STATUS_CANCEL` is set. -/
def CmdReq.cancelled (r : CmdReq) : CmdReq := { r with cancel := true }

/-- `REQ_STATUS_LAST_PERMIT` is set. -/
def CmdReq.unloading (r : CmdReq) : CmdReq := { r with lastPermit := true }

/-- `enum dispatcher_status`, as far as messages depend on it. -/
structure DisprStatus where
  started : Bool := false
  ctrlPresent : Bool := false
  shallStop : Bool := false
  cannotIo : Bool := false
  clrPendMsg : Bool := false
  waitAbortMsgDone : Bool := false
  deriving DecidableEq

/-- What becomes of a message: its send has returned, its completion routine is called,
its slot is idle. -/
inductive MsgEvent
  | accepted
  | refused
  | completed
  | idle
  deriving DecidableEq

inductive Outcome
  | done
  | failed
  | cancelled
  | invalidBitmap
  deriving DecidableEq

/-- The record of a recycled message; `order` is the order of the modules then. -/
structure Finished where
  ticket : ℕ
  outcome : Outcome
  log : List Notice
  owed : List ℕ
  order : List ℕ
  deriving DecidableEq

/-- Whom `feed_mdl_msg` is called for, and the modules that come after. -/
inductive Walk
  | ctrl
  | pre (rest : List Module)
  | post (rest : List Module)
  deriving DecidableEq

/-- Where the thread is: before an iteration of `dispr_thread_loop_hdl`, in its token
part, in a callback for the message in slot `i`, or in `dispr_thread_leave_hdl`.  In
`complete` and `abort` it is told whether the thread leaves. -/
inductive Pc
  | loop
  | tokens
  | acquired
  | abort (leaving : Bool)
  | feed (i : ℕ) (m : Module) (walk : Walk)
  | failOwner (i : ℕ)
  | failReq (i : ℕ)
  | curReq (i : ℕ)
  | complete (i : ℕ) (leaving : Bool)
  | leaveMsgs
  | leaveWaiting
  | down
  deriving DecidableEq

/-- `struct cmd_dispatcher`, with the place of its thread and what has happened to its
messages. -/
structure Dispr where
  status : DisprStatus := {}
  msgExPool : ℕ → MsgEx := fun _ => {}
  msgIdleQ : List ℕ := []
  msgWaitQ : List ℕ := []
  msgPendQ : List ℕ := []
  moduleQ : MdlPriority → List Module := fun _ => []
  bitmap : Bitmap := ∅
  basemap : Bitmap := ∅
  pendingEvtId : ℕ → ℕ := fun _ => msgEvtMax
  exclusiveMdl : Option ℕ := none
  curCmdReq : Option CmdReq := none
  pc : Pc := .loop
  sent : ℕ := 0
  routine : ℕ → Bool := fun _ => false
  hist : ℕ → List MsgEvent := fun _ => []
  finished : List Finished := []

namespace Dispr

def goto (d : Dispr) (pc : Pc) : Dispr := { d with pc := pc }

def modifyMsg (d : Dispr) (i : ℕ) (f : MsgEx → MsgEx) : Dispr :=
  { d with msgExPool := update d.msgExPool i (f (d.msgExPool i)) }

def setStatus (d : Dispr) (i : ℕ) (f : MsgStatus → MsgStatus) : Dispr :=
  d.modifyMsg i fun ex => { ex with status := f ex.status }

def setMsgId (d : Dispr) (i : ℕ) (f : MsgId → MsgId) : Dispr :=
  d.modifyMsg i fun ex => { ex with msg := f ex.msg }

def note (d : Dispr) (t : ℕ) (e : MsgEvent) : Dispr :=
  { d with hist := update d.hist t (d.hist t ++ [e]) }

def setCurPendingEvt (d : Dispr) (mdl evt : ℕ) : Dispr :=
  { d with pendingEvtId := update d.pendingEvtId mdl evt }

/-! ## The message queues -/

def popFrontIdleMsg (d : Dispr) : Option (ℕ × Dispr) :=
  match d.msgIdleQ with
  | [] => none
  | i :: q => some (i, { d.modifyMsg i (fun _ => {}) with msgIdleQ := q })

/-- `push_back_idle_msg` behind the completion routine. -/
def pushIdle (d : Dispr) (i : ℕ) : Dispr :=
  let ex := d.msgExPool i
  let d := if ex.status.forAbort then { d with status.waitAbortMsgDone := false } else d
  let d := d.setStatus i fun _ => {}
  let d :=
    if d.pendingEvtId ex.msg.mdlId = ex.msg.evtId then d.setCurPendingEvt ex.msg.mdlId msgEvtMax
    else d
  let d := d.setMsgId i fun _ => {}
  { d.note ex.ticket .idle with msgIdleQ := d.msgIdleQ ++ [i] }

def afterIdle (d : Dispr) (leaving : Bool) : Dispr :=
  d.goto (if leaving then .leaveWaiting else .loop)

/-- `push_back_idle_msg`, called by the thread. -/
def pushBackIdleMsg (d : Dispr) (i : ℕ) (leaving : Bool) : Dispr :=
  let ex := d.msgExPool i
  if ex.status.notifyComplete && ex.completion then
    let d :=
      if ex.status.cancel then d.setMsgId i fun m => { m with indcCancel := true } else d
    (d.note ex.ticket .completed).goto (.complete i leaving)
  else (d.pushIdle i).afterIdle leaving

def popFrontWaitMsg (d : Dispr) : Option (ℕ × Dispr) :=
  match d.msgWaitQ with
  | [] => none
  | i :: q =>
    some (i, { d.setStatus i MsgStatus.taken with msgWaitQ := q })

def pushBackWaitMsg (d : Dispr) (i : ℕ) : Dispr :=
  { d.setStatus i MsgStatus.queued with msgWaitQ := d.msgWaitQ ++ [i] }

/-- `is_higher_priority` of a message of the controller section. -/
def insertMsgByPriority (d : Dispr) (i : ℕ) : Dispr :=
  let ctrl (j : ℕ) : Bool := isDisprCtrl (d.msgExPool j).msg.mdlId
  let before := d.msgWaitQ.takeWhile fun j => !(ctrl i && !ctrl j)
  let behind := d.msgWaitQ.dropWhile fun j => !(ctrl i && !ctrl j)
  { d.setStatus i MsgStatus.queued with msgWaitQ := before ++ i :: behind }

def pushBackPendingMsg (d : Dispr) (i : ℕ) : Dispr :=
  let ex := d.msgExPool i
  let d := d.setStatus i MsgStatus.queued
  let d :=
    if ex.status.clrSndrMsgIfPending then d.setCurPendingEvt ex.msg.mdlId ex.msg.evtId else d
  { d with msgPendQ := d.msgPendQ ++ [i] }

def requeue (d : Dispr) (i : ℕ) : Dispr :=
  if isDisprCtrl (d.msgExPool i).msg.mdlId then d.insertMsgByPriority i else d.pushBackWaitMsg i

def clearPendingMsg (d : Dispr) : Dispr :=
  if d.status.clrPendMsg then
    d.msgPendQ.foldl requeue { d with status.clrPendMsg := false, msgPendQ := [] }
  else d

/-! ## Cancelling -/

def cancelMsg (d : Dispr) (i : ℕ) : Dispr :=
  d.modifyMsg i fun ex =>
    { ex with premap := ∅, postmap := ∅, status := { ex.status with cancel := true } }

def cancelRunningMsg (d : Dispr) : Dispr :=
  (List.range maxPhlMsgNum).foldl
    (fun d i => if (d.msgExPool i).status.run then d.cancelMsg i else d) d

def isSpecialMsg (d : Dispr) (i : ℕ) : Bool :=
  let m := (d.msgExPool i).msg
  d.status.cannotIo &&
    (decide (d.exclusiveMdl = some m.mdlId) || decide (m.evtId = msgEvtDevCannotIo) ||
      decide (m.evtId = msgEvtDevResumeIo) || decide (m.evtId = msgEvtPhyOn) ||
      decide (m.evtId = msgEvtPhyIdle))

def isMsgCanceled (d : Dispr) (i : ℕ) : Bool × Dispr :=
  let ex := d.msgExPool i
  let evt := d.pendingEvtId ex.msg.mdlId
  if !d.status.started || ex.status.cancel then (true, d)
  else if evt ≠ msgEvtMax ∧ evt ≠ ex.msg.evtId then
    (true, (d.setMsgId i fun m => { m with indcClrSndr := true }).setStatus i
      fun s => { s with cancel := true })
  else if d.status.shallStop then
    (true, (d.setMsgId i fun m => { m with indcCannotIo := true }).setStatus i
      fun s => { s with cancel := true })
  else if d.status.cannotIo then
    if d.isSpecialMsg i then (false, d.setMsgId i fun m => { m with indcCannotIo := true })
    else if !ex.status.pendingDuringCannotIo then
      (true, (d.setMsgId i fun m => { m with indcCannotIo := true }).setStatus i
        fun s => { s with cancel := true })
    else (false, d.setStatus i fun s => { s with pending := true })
  else (false, d)

/-! ## Modules -/

/-- The order of `msg_pre_phase_hdl`. -/
def preOrder (d : Dispr) : List Module :=
  [MdlPriority.mandatory, .optional, .role].flatMap d.moduleQ

/-- The order of `msg_post_phase_hdl`. -/
def postOrder (d : Dispr) : List Module :=
  [MdlPriority.role, .optional, .mandatory].flatMap fun p => (d.moduleQ p).reverse

def modifyQ (d : Dispr) (p : MdlPriority) (f : List Module → List Module) : Dispr :=
  { d with moduleQ := update d.moduleQ p (f (d.moduleQ p)) }

def forget (d : Dispr) (gone : ℕ → Bool) : Dispr :=
  { d with msgExPool := fun i =>
      { d.msgExPool i with owed := (d.msgExPool i).owed.map (·.filter fun id => !gone id) } }

def addModule (d : Dispr) (p : MdlPriority) (id : ℕ) : Dispr :=
  { d with
    bitmap := addBitmapBit d.bitmap [id]
    basemap := if p = .optional then d.basemap else addBitmapBit d.basemap [id] }

/-- `dispr_register_module`, where the operations of the module succeed. -/
def registerModule (d : Dispr) (id : ℕ) : Dispr :=
  match getMdlPriority id with
  | none => d
  | some p =>
    if id ∈ d.bitmap then d
    else if d.status.started then
      (d.modifyQ p fun q => q ++ [{ id := id, started := true }]).addModule p id
    else d.modifyQ p fun q => q ++ [{ id := id }]

def deregisterModule (d : Dispr) (id : ℕ) : Dispr :=
  match getMdlPriority id with
  | none => d
  | some p =>
    if (d.moduleQ p).any fun m => decide (m.id = id) then
      { d.modifyQ p (fun q => q.eraseP fun m => decide (m.id = id)) with
        bitmap := clrBitmapBit d.bitmap [id]
        basemap := clrBitmapBit d.basemap [id] }.forget fun j => decide (j = id)
    else d

/-- `bk_module_start` of one module of the queues, unless it fails. -/
def startModule (fails : ℕ → Bool) (d : Dispr) (p : MdlPriority) (m : Module) : Dispr :=
  if m.started || fails m.id then d
  else
    (d.modifyQ p fun q => q.map fun n => if n.id = m.id then { n with started := true } else n).addModule
      p m.id

def moduleStart (d : Dispr) (fails : ℕ → Bool) : Dispr :=
  if d.status.started then
    [MdlPriority.role, .optional, .mandatory].foldl
      (fun d p => (d.moduleQ p).foldl (fun d m => d.startModule fails p m) d) d
  else d

def moduleStop (d : Dispr) : Dispr :=
  if d.status.started then
    { d with
      moduleQ := fun p => (d.moduleQ p).map Module.stopped
      bitmap := clrBitmapBit d.bitmap (d.preOrder.map Module.id)
      basemap := clrBitmapBit d.basemap (d.preOrder.map Module.id) }.forget fun _ => true
  else d

/-! ## Dispatching -/

def recycle (d : Dispr) (i : ℕ) (outcome : Outcome) : Dispr :=
  let ex := d.msgExPool i
  let record : Finished := ⟨ex.ticket, outcome, ex.log, ex.owed.getD [], d.preOrder.map Module.id⟩
  { d with finished := d.finished ++ [record] }.pushBackIdleMsg i false

/-- `MSG_REDIRECT_CHK` and what is behind the labels it goes to. -/
def redirectChk (d : Dispr) (i : ℕ) (k : Dispr → Dispr) : Dispr :=
  let s := (d.msgExPool i).status
  if s.fail || s.cancel then d.recycle i (if s.fail then .failed else .cancelled)
  else if s.pending then (d.pushBackPendingMsg i).goto .loop
  else k d

/-- What `get_msg_bitmap` does to the message. -/
def getMsgBitmap (d : Dispr) (i : ℕ) : Dispr :=
  d.modifyMsg i fun ex => { ex with msg := { ex.msg with indcPrePhase := ex.status.prePhase } }

def invalidBitmap (d : Dispr) (i : ℕ) : Dispr :=
  (d.setStatus i fun s => { s with cancel := true }).recycle i .invalidBitmap

/-- `cur_req_hdl` calls the current request for the message in slot `i`. -/
def reqToNotify (d : Dispr) (i : ℕ) : Option ℕ :=
  match d.curCmdReq with
  | none => none
  | some r =>
    if !r.run || r.cancel then none
    else if (d.msgExPool i).status.forAbort then none
    else some r.moduleId

/-- The end of `msg_dispatch`, behind the post phase, where `bitmap` points to the map
of the phase `pre`. -/
def postPhaseDone (d : Dispr) (i : ℕ) (pre : Bool) : Dispr :=
  d.redirectChk i fun d =>
    if MsgEx.map (d.msgExPool i) pre = ∅ then
      match d.reqToNotify i with
      | none => d.recycle i .done
      | some r => (d.modifyMsg i fun ex => { ex with log := ex.log ++ [.req r] }).goto (.curReq i)
    else d.invalidBitmap i

/-- `msg_post_phase_hdl` from a module on, up to the next `feed_mdl_msg`. -/
def msgPostPhaseHdl (d : Dispr) (i : ℕ) : List Module → Dispr
  | [] => d.postPhaseDone i false
  | m :: rest =>
    if m.id ∈ (d.msgExPool i).postmap ∧ m.started then d.goto (.feed i m (.post rest))
    else d.msgPostPhaseHdl i rest

/-- `msg_dispatch` from the post phase on. -/
def postPhase (d : Dispr) (i : ℕ) (pre : Bool) : Dispr :=
  if MsgEx.map (d.msgExPool i) pre = ∅ then d.postPhaseDone i pre
  else d.msgPostPhaseHdl i d.postOrder

/-- `msg_dispatch` behind the pre phase. -/
def prePhaseDone (d : Dispr) (i : ℕ) : Dispr :=
  d.redirectChk i fun d =>
    if (d.msgExPool i).premap = ∅ then
      ((d.setStatus i fun s => { s with prePhase := false }).getMsgBitmap i).postPhase i false
    else d.invalidBitmap i

/-- `msg_pre_phase_hdl` from a module on, up to the next `feed_mdl_msg`. -/
def msgPrePhaseHdl (d : Dispr) (i : ℕ) : List Module → Dispr
  | [] => d.prePhaseDone i
  | m :: rest =>
    if m.id ∈ (d.msgExPool i).premap ∧ m.started then d.goto (.feed i m (.pre rest))
    else d.msgPrePhaseHdl i rest

/-- `msg_dispatch` behind the notification of the controller. -/
def ctrlDone (d : Dispr) (i : ℕ) : Dispr :=
  d.redirectChk i fun d =>
    let ex := d.msgExPool i
    if ex.msg.indcPrePhase ∧ ex.premap ≠ ∅ then d.msgPrePhaseHdl i d.preOrder
    else d.postPhase i ex.status.prePhase

def msgDispatch (d : Dispr) (i : ℕ) : Dispr :=
  (d.getMsgBitmap i).redirectChk i fun d =>
    if d.status.ctrlPresent then d.goto (.feed i ⟨phlMdlPhyMgnt, true⟩ .ctrl) else d.ctrlDone i

/-- Both `_and_bitmaps` of `dispr_thread_loop_hdl`; at the first dispatch this is the
notify map. -/
def andBitmaps (d : Dispr) (i : ℕ) : Dispr :=
  d.modifyMsg i fun ex =>
    { ex with
      premap := ex.premap ∩ d.bitmap
      postmap := ex.postmap ∩ d.bitmap
      owed := some (ex.owed.getD
        ((d.preOrder.map Module.id).filter fun id => decide (id ∈ ex.premap ∩ d.bitmap))) }

/-- The message part of `dispr_thread_loop_hdl`. -/
def handleMsg (d : Dispr) : Dispr :=
  match d.popFrontWaitMsg with
  | none => d.goto .loop
  | some (i, d) =>
    match d.isMsgCanceled i with
    | (true, d) => d.recycle i .cancelled
    | (false, d) => (d.andBitmaps i).msgDispatch i

/-! ## What a module answers -/

def logNotice (d : Dispr) (i : ℕ) (m : Module) (walk : Walk) (ret : MdlRet) : Dispr :=
  match walk with
  | .ctrl => d
  | .pre _ => d.modifyMsg i fun ex => { ex with log := ex.log ++ [.mdl true m.id ret] }
  | .post _ => d.modifyMsg i fun ex => { ex with log := ex.log ++ [.mdl false m.id ret] }

def clrModuleBit (d : Dispr) (i : ℕ) (m : Module) : Dispr :=
  d.modifyMsg i fun ex =>
    if ex.msg.indcPrePhase then { ex with premap := clrBitmapBit ex.premap [m.id] }
    else { ex with postmap := clrBitmapBit ex.postmap [m.id] }

/-- `notify_msg_fail` behind the notification of the owner. -/
def notifyFailReq (d : Dispr) (i : ℕ) : Dispr :=
  if (d.msgExPool i).status.ownerReq && (d.reqToNotify i).isSome then d.goto (.failReq i)
  else d.redirectChk i id

def notifyMsgFail (d : Dispr) (i : ℕ) (ret : MdlRet) : Dispr :=
  let d := d.modifyMsg i fun ex =>
    { ex with
      status := { ex.status with fail := true }
      msg := { ex.msg with
        indcFail := true, indcCannotIo := ex.msg.indcCannotIo || decide (ret = .cannotIo) } }
  let ex := d.msgExPool i
  if ex.status.ownerBkMdl &&
      (isDisprCtrl ex.msg.mdlId || decide (∃ id ∈ ex.module, id ∈ d.bitmap)) then
    d.goto (.failOwner i)
  else d.notifyFailReq i

/-- The walk goes on behind `feed_mdl_msg`. -/
def fedNext (d : Dispr) (i : ℕ) : Walk → Dispr
  | .ctrl => d.ctrlDone i
  | .pre rest => d.msgPrePhaseHdl i rest
  | .post rest => d.msgPostPhaseHdl i rest

/-- `feed_mdl_msg` behind the handler of the module. -/
def fed (d : Dispr) (i : ℕ) (m : Module) (walk : Walk) (ret : MdlRet) : Dispr :=
  let d := d.logNotice i m walk ret
  match ret with
  | .fail => d.notifyMsgFail i ret
  | .cannotIo => d.notifyMsgFail i ret
  | .pending => (d.setStatus i fun s => { s with pending := true }).redirectChk i id
  | .success => (d.clrModuleBit i m).fedNext i walk
  | .ignore => (d.clrModuleBit i m).fedNext i walk

/-! ## The current request -/

/-- One round of the loop over the pool in `deregister_cur_cmd_req`. -/
def cancelMsgOf (mdl : ℕ) (d : Dispr) (i : ℕ) : Dispr :=
  if mdl = (d.msgExPool i).msg.mdlId then
    let d := (d.setStatus i fun s => { s with ownerReq := false }).cancelMsg i
    if (d.msgExPool i).status.pending then
      { d with status.clrPendMsg := true }.clearPendingMsg
    else d
  else d

/-- `deregister_cur_cmd_req` up to the notification. -/
def deregisterCurCmdReq (d : Dispr) (r : CmdReq) : Dispr :=
  (List.range maxPhlMsgNum).foldl (cancelMsgOf r.moduleId)
    { d with curCmdReq := some { r with run := false } }

/-- `deregister_cur_cmd_req` behind it, with `push_back_idle_req`. -/
def dropCurCmdReq (d : Dispr) : Dispr :=
  match d.curCmdReq with
  | none => d
  | some r => { d.setCurPendingEvt r.moduleId msgEvtMax with curCmdReq := none }

/-- `deregister_cur_cmd_req` with notification, up to the call of `abort`. -/
def abortCurCmdReq (d : Dispr) (r : CmdReq) (leaving : Bool) : Dispr :=
  let d := d.deregisterCurCmdReq r
  { d with curCmdReq := d.curCmdReq.map CmdReq.unloading }.goto (.abort leaving)

/-! ## Calls -/

/-- `set_msg_bitmap` and `set_msg_custom_bitmap`; the two maps are the same. -/
def sendMap (d : Dispr) (attr : Option MsgAttr) (mdl : ℕ) : Bitmap :=
  let own (b : Bitmap) : Bitmap := if mdl ∈ d.bitmap then addBitmapBit b [mdl] else b
  let b := own d.bitmap
  match attr with
  | none => b
  | some a =>
    let b := if a.skipNotifyOptMdl then d.basemap else b
    let ids := (a.idArr.getD []).take a.len
    own (if a.blistPresent then clrBitmapBit b ids else addBitmapBit b ids)

def getModuleById (d : Dispr) (id : ℕ) : Option ℕ :=
  if isDisprCtrl id then if d.status.ctrlPresent then some phlMdlPhyMgnt else none
  else if id ∈ d.bitmap then (d.preOrder.find? fun m => decide (m.id = id)).map Module.id
  else none

/-- `get_cur_cmd_req_id`; `none` is `PHL_MDL_ID_MAX`. -/
def getCurCmdReqId (d : Dispr) : Option ℕ :=
  match d.curCmdReq with
  | none => none
  | some r => if !r.run || r.cancel then none else some r.moduleId

def lastPermit (d : Dispr) : Bool := d.curCmdReq.any CmdReq.lastPermit

inductive Status
  | success
  | failure
  | resource
  | invalidParam
  | unexpectedError
  deriving DecidableEq

def newStatus (d : Dispr) (mdl : ℕ) (attr : Option MsgAttr) : MsgStatus :=
  let own := (d.getModuleById mdl).isSome
  { notifyComplete := attr.any MsgAttr.completion
    clrSndrMsgIfPending := attr.any MsgAttr.clrSndrMsgIfPending
    pendingDuringCannotIo := attr.any MsgAttr.pendingDuringCannotIo
    ownerBkMdl := own
    ownerReq := !own &&
      (decide (d.getCurCmdReqId = some mdl) || (d.getCurCmdReqId.isNone && d.lastPermit)) }

/-- The message in slot `i` as `dispr_send_msg` fills it in. -/
def newMsg (d : Dispr) (mdl evt : ℕ) (attr : Option MsgAttr) : MsgEx :=
  { status := d.newStatus mdl attr
    msg := { mdlId := mdl, evtId := evt }
    premap := d.sendMap attr mdl
    postmap := d.sendMap attr mdl
    completion := attr.any MsgAttr.completion
    module := d.getModuleById mdl
    ticket := d.sent }

/-- The slot that `dispr_send_msg` has taken holds the message. -/
def fillMsg (d : Dispr) (i mdl evt : ℕ) (attr : Option MsgAttr) : Dispr :=
  let ex := d.newMsg mdl evt attr
  { d.modifyMsg i (fun _ => ex) with
    sent := d.sent + 1, routine := update d.routine d.sent ex.completion }

def refuseMsg (d : Dispr) (i : ℕ) : Dispr :=
  let d := d.modifyMsg i MsgEx.refused
  (d.note (d.msgExPool i).ticket .refused).pushIdle i

/-- The message is queued; `abort` tells whether it is one of an abort notification. -/
def acceptMsg (d : Dispr) (i : ℕ) (abort : Bool) : Dispr :=
  let d := if abort then { d with status.waitAbortMsgDone := true } else d
  let d := d.modifyMsg i fun ex => ex.accepted abort
  let d := d.note (d.msgExPool i).ticket .accepted
  if isDisprCtrl (d.msgExPool i).msg.mdlId then d.insertMsgByPriority i else d.pushBackWaitMsg i

/-- `dispr_send_msg`, with the slot its handle names. -/
def sendMsg (d : Dispr) (mdl evt : ℕ) (attr : Option MsgAttr) : Status × Option ℕ × Dispr :=
  let cur := d.getCurCmdReqId
  if !d.status.started then (.unexpectedError, none, d)
  else if d.status.shallStop then (.unexpectedError, none, d)
  else if attr.any fun a => a.idArr.isNone && decide (0 < a.len) then (.invalidParam, none, d)
  else if !isDisprCtrl mdl && decide (mdl ∉ d.bitmap) &&
      ((cur.isSome && decide (cur ≠ some mdl)) || (cur.isNone && !d.lastPermit)) then
    (.invalidParam, none, d)
  else
    match d.popFrontIdleMsg with
    | none => (.resource, none, d)
    | some (i, d) =>
      let d := d.fillMsg i mdl evt attr
      let forReq := (d.msgExPool i).status.ownerReq && d.lastPermit
      if forReq && !attr.any MsgAttr.sendInAbort then (.failure, none, d.refuseMsg i)
      else (.success, some i, d.acceptMsg i forReq)

/-- `dispr_cancel_msg` of the slot that a valid handle names. -/
def cancel (d : Dispr) (i : ℕ) : Status × Dispr :=
  if !d.status.started then (.unexpectedError, d)
  else if maxPhlMsgNum ≤ i then (.failure, d)
  else
    let s := (d.msgExPool i).status
    if !s.enq && !s.run then (.failure, d) else (.success, d.cancelMsg i)

def clrPendingMsg (d : Dispr) : Dispr := { d with status.clrPendMsg := true }

def notifyDevIoStatus (d : Dispr) (mdl : ℕ) (allowIo : Bool) : Dispr :=
  if allowIo then
    if d.status.cannotIo then
      let d := { d with status.cannotIo := false, exclusiveMdl := none }
      (d.sendMsg phlMdlPhyMgnt msgEvtDevResumeIo (some {})).2.2.clrPendingMsg
    else d
  else if d.status.cannotIo then d
  else
    let d := { d with status.cannotIo := true, exclusiveMdl := some mdl }
    (d.sendMsg phlMdlPhyMgnt msgEvtDevCannotIo (some {})).2.2

def notifyShallStop (d : Dispr) : Dispr :=
  if d.status.shallStop then d else { d with status.shallStop := true }.clrPendingMsg

def threadStopPrior (d : Dispr) : Dispr :=
  if d.status.started then
    { d with
      status.started := false, status.ctrlPresent := false
      curCmdReq := d.curCmdReq.map CmdReq.cancelled }.cancelRunningMsg
  else d

/-- `dispr_thread_stop_post_hdl` and `dispr_start` after it; `ctrl` tells whether the
controller starts. -/
def start (d : Dispr) (ctrl : Bool) : Dispr :=
  { d with
    status := { d.status with
      started := true, ctrlPresent := ctrl, clrPendMsg := false, waitAbortMsgDone := false }
    msgExPool := fun _ => {}, msgIdleQ := List.range maxPhlMsgNum, msgWaitQ := [], msgPendQ := []
    pendingEvtId := fun _ => msgEvtMax, exclusiveMdl := none, pc := .loop }

/-! ## Runs -/

inductive Call
  | sendMsg (mdl evt : ℕ) (attr : Option MsgAttr)
  | cancelMsg (i : ℕ)
  | clrPendingMsg
  | notifyDevIoStatus (mdl : ℕ) (allowIo : Bool)
  | notifyShallStop
  | threadStopPrior
  /-- `dispr_free_token` marks the current request. -/
  | freeToken
  /-- A request other than the current one goes back to the idle ones. -/
  | dropReq (mdl : ℕ)
  deriving DecidableEq

/-- A module may be registered or deregistered unless the thread walks over the modules. -/
inductive ModuleCall
  | register (id : ℕ)
  | deregister (id : ℕ)
  | start (fails : List ℕ)
  | stop
  deriving DecidableEq

inductive Event
  | call (c : Call)
  | module (c : ModuleCall)
  /-- The thread goes on from where it is; a callback it is in answers `ret`. -/
  | turn (ret : MdlRet)
  /-- In its token part the thread registers a request of module `mdl`, -/
  | acquire (mdl : ℕ)
  /-- or deregisters the current one, with or without notification. -/
  | deregister (notify : Bool)
  | leave
  | restart (ctrl : Bool)
  deriving DecidableEq

def Event.isTurn : Event → Bool
  | .turn _ => true
  | _ => false

def Event.isRestart : Event → Bool
  | .restart _ => true
  | _ => false

def call (d : Dispr) : Call → Dispr
  | .sendMsg mdl evt attr => (d.sendMsg mdl evt attr).2.2
  | .cancelMsg i => (d.cancel i).2
  | .clrPendingMsg => d.clrPendingMsg
  | .notifyDevIoStatus mdl allowIo => d.notifyDevIoStatus mdl allowIo
  | .notifyShallStop => d.notifyShallStop
  | .threadStopPrior => d.threadStopPrior
  | .freeToken => { d with curCmdReq := d.curCmdReq.map CmdReq.cancelled }
  | .dropReq mdl => d.setCurPendingEvt mdl msgEvtMax

def walking (d : Dispr) : Bool :=
  match d.pc with
  | .feed _ _ _ => true
  | .failOwner _ => true
  | _ => false

def moduleCall (d : Dispr) : ModuleCall → Dispr
  | .register id => if d.preOrder.any fun m => decide (m.id = id) then d else d.registerModule id
  | .deregister id => d.deregisterModule id
  | .start fails => d.moduleStart fun id => decide (id ∈ fails)
  | .stop => d.moduleStop

/-- The first inner loop of `clear_waiting_msg`. -/
def waitPendingMsg (d : Dispr) : Dispr :=
  d.msgPendQ.foldl pushBackWaitMsg { d with msgPendQ := [] }

def clearWaitingMsg (d : Dispr) : Dispr :=
  match d.popFrontWaitMsg with
  | none => d.goto .leaveMsgs
  | some (i, d) => d.pushBackIdleMsg i true

def turn (d : Dispr) (ret : MdlRet) : Dispr :=
  match d.pc with
  | .loop => if d.status.started then d.clearPendingMsg.goto .tokens else d
  | .tokens => d.handleMsg
  | .acquired =>
    if ret = .fail then
      match d.curCmdReq with
      | none => d.goto .tokens
      | some r => (d.deregisterCurCmdReq r).dropCurCmdReq.goto .tokens
    else d.goto .tokens
  | .abort leaving => d.dropCurCmdReq.goto (if leaving then .leaveMsgs else .tokens)
  | .feed i m walk => d.fed i m walk ret
  | .failOwner i => d.notifyFailReq i
  | .failReq i => d.redirectChk i id
  | .curReq i => d.recycle i .done
  | .complete i leaving =>
    ((d.setStatus i fun s => { s with notifyComplete := false }).pushIdle i).afterIdle leaving
  | .leaveMsgs =>
    if d.msgIdleQ.length = maxPhlMsgNum then d.goto .down
    else d.waitPendingMsg.goto .leaveWaiting
  | .leaveWaiting => d.clearWaitingMsg
  | .down => d

def step (d : Dispr) : Event → Dispr
  | .call c => d.call c
  | .module c => if d.walking then d else d.moduleCall c
  | .turn ret => d.turn ret
  | .acquire mdl =>
    if d.pc = .tokens ∧ d.curCmdReq = none then
      { d with curCmdReq := some { moduleId := mdl } }.goto .acquired
    else d
  | .deregister notify =>
    match d.curCmdReq with
    | none => d
    | some r =>
      if d.pc = .tokens then
        if notify then d.abortCurCmdReq r false
        else (d.deregisterCurCmdReq r).dropCurCmdReq.goto .tokens
      else d
  | .leave =>
    if d.pc = .loop ∧ d.status.started = false then
      match d.curCmdReq with
      | none => d.goto .leaveMsgs
      | some r => d.abortCurCmdReq r true
    else d
  | .restart ctrl => if d.pc = .down then d.start ctrl else d

/-- A dispatcher that has been started with the modules `ids`. -/
def init (ids : List ℕ) : Dispr :=
  let d : Dispr := ids.foldl (fun d id => moduleCall d (.register id)) {}
  (d.start true).moduleStart fun _ => false

end Dispr

end Rtl8831.Phl.DisprMsg
