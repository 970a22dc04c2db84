import Rtl8831.Phl.DisprMsg
import Rtl8831.Phl.DisprTokenRun

/-!
# Handles of messages and requests

A handle that `dispr_send_msg` or `dispr_add_token_req` returns is a valid bit and the
number of a slot.  Callers keep handles after the message or the request is over, so a
handle is followed here by the message or the request it was returned for: as long as
the slot is not taken again, and no operation on it is still under way when it is, what
is done through a handle concerns nobody else.
-/

namespace Rtl8831.Phl

open Function

open Lib (run Guarded)

namespace DisprMsg

/-- A dispatcher, and for each message, counted in the order of the sends, the slot in
the handle that was returned for it. -/
structure Client where
  dispr : Dispr
  hdl : ℕ → Option ℕ := fun _ => none

namespace Client

variable {s : Client} {t i : ℕ}

/-- What happens to a dispatcher; a message may also be sent without asking for a handle,
but it is cancelled through one. -/
inductive Event
  | other (e : Dispr.Event)
  | send (mdl evt : ℕ) (attr : Option MsgAttr)
  | cancel (t : ℕ)

def cancels : Dispr.Event → Bool
  | .call (.cancelMsg _) => true
  | _ => false

def step (s : Client) : Event → Client
  | .other e => if cancels e then s else { s with dispr := s.dispr.step e }
  | .send mdl evt attr =>
    let (_, hdl, d) := s.dispr.sendMsg mdl evt attr
    { dispr := d, hdl := if hdl.isSome then update s.hdl s.dispr.sent hdl else s.hdl }
  | .cancel t =>
    match s.hdl t with
    | none => s
    | some i => { s with dispr := s.dispr.call (.cancelMsg i) }

def OwnSlot (s : Client) : Event → Prop
  | .cancel t => ∀ i, s.hdl t = some i →
      ((s.dispr.msgExPool i).status.enq = false ∧ (s.dispr.msgExPool i).status.run = false) ∨
        (s.dispr.msgExPool i).ticket = t
  | _ => True

structure CancelsOnly (s : Client) (t : ℕ) : Prop where
  slots : ∀ j, (s.dispr.msgExPool j).ticket ≠ t →
    (s.step (.cancel t)).dispr.msgExPool j = s.dispr.msgExPool j
  idle : (s.step (.cancel t)).dispr.msgIdleQ = s.dispr.msgIdleQ
  wait : (s.step (.cancel t)).dispr.msgWaitQ = s.dispr.msgWaitQ
  pend : (s.step (.cancel t)).dispr.msgPendQ = s.dispr.msgPendQ

lemma cancelsOnly_of_own (h : s.OwnSlot (.cancel t)) : s.CancelsOnly t := by
  have hsame (heq : s.step (.cancel t) = s) : s.CancelsOnly t := by
    constructor
    · intro j _
      rw [heq]
    all_goals rw [heq]
  cases hi : s.hdl t with
  | none => exact hsame (by simp only [step, hi])
  | some i =>
  have hstep : s.step (.cancel t) = { s with dispr := (s.dispr.cancel i).2 } := by
    simp only [step, hi, Dispr.call]
  have hkeep (heq : (s.dispr.cancel i).2 = s.dispr) : s.CancelsOnly t := by
    apply hsame
    rw [hstep, heq]
  by_cases hstarted : s.dispr.status.started = true
  swap
  · exact hkeep (by rw [Dispr.cancel, if_pos (by simpa using hstarted)])
  by_cases hrange : maxPhlMsgNum ≤ i
  · exact hkeep (by rw [Dispr.cancel, if_neg (by simpa using hstarted), if_pos hrange])
  by_cases hlive : (!(s.dispr.msgExPool i).status.enq && !(s.dispr.msgExPool i).status.run) = true
  · exact hkeep (by rw [Dispr.cancel, if_neg (by simpa using hstarted), if_neg hrange, if_pos hlive])
  have hcancel : (s.dispr.cancel i).2 = s.dispr.cancelMsg i := by
    rw [Dispr.cancel, if_neg (by simpa using hstarted), if_neg hrange, if_neg hlive]
  rw [hcancel] at hstep
  constructor
  rotate_left
  · rw [hstep]
    rfl
  · rw [hstep]
    rfl
  · rw [hstep]
    rfl
  intro j hj
  rw [hstep]
  rcases h i hi with ⟨henq, hrun⟩ | hticket
  · rw [henq, hrun] at hlive
    exact absurd rfl hlive
  · have hji : j ≠ i := by
      rintro rfl
      exact hj hticket
    exact update_of_ne hji _ _

end Client

end DisprMsg

namespace CmdDispr

/-- The dispatchers and, for each request of a band, counted in the order of their
addition, the slot in the handle that was returned for it; and the requests whose
handles `dispr_free_token` and `dispr_cancel_token_req` have been called with. -/
structure Client where
  engine : Engine
  hdl : HwBand → ℕ → Option ℕ := fun _ _ => none
  freedBy : HwBand → List ℕ := fun _ => []
  cancelledBy : HwBand → List ℕ := fun _ => []

namespace Client

variable {s : Client} {b c : HwBand} {t i : ℕ}

inductive Event
  | other (e : Engine.Event)
  | add (b : HwBand) (exclusive : Bool)
  | cancel (b : HwBand) (t : ℕ)
  | free (b : HwBand) (t : ℕ)

def byHandle : Engine.Event → Bool
  | .call (.add _ _) => true
  | .call (.cancel _ _) => true
  | .call (.free _ _) => true
  | _ => false

/-- The slot that `dispr_add_token_req` returns, if it takes one. -/
def newSlot (d : Dispr) : Option ℕ :=
  if !d.status.started || d.status.shallStop then none else d.tokenReqIdleQ.head?

def call (s : Client) (c : Engine.Call) : Client := { s with engine := s.engine.call c }

def step (s : Client) : Event → Client
  | .other e => if byHandle e then s else { s with engine := s.engine.step e }
  | .add b exclusive =>
    let d := s.engine.dispr b
    let hdl := if (newSlot d).isSome then update (s.hdl b) d.added (newSlot d) else s.hdl b
    { s with hdl := update s.hdl b hdl }.call (.add b exclusive)
  | .cancel b t =>
    match s.hdl b t with
    | none => s
    | some i =>
      { s with cancelledBy := update s.cancelledBy b (s.cancelledBy b ++ [t]) }.call
        (.cancel b i)
  | .free b t =>
    match s.hdl b t with
    | none => s
    | some i =>
      { s with freedBy := update s.freedBy b (s.freedBy b ++ [t]) }.call (.free b i)

def init (phyNum : ℕ) : Client := { engine := .init phyNum }

/-- The request in slot `i` runs or is about to. -/
def busy (d : Dispr) (i : ℕ) : Bool :=
  (d.tokenReqExPool i).status.run || (d.tokenReqExPool i).status.prepare

/-- A handle is used while its slot is idle (or, where a token is freed, at least does not
run) or still holds its request, and no slot is taken again while an operation on it is
under way. -/
def OwnSlot (s : Client) : Event → Prop
  | .add b _ => (s.engine.dispr b).FreshSlot (s.engine.pc.hold b).op
  | .cancel b t => ∀ i, s.hdl b t = some i →
      ((s.engine.dispr b).tokenReqExPool i).status.enq = false ∧ busy (s.engine.dispr b) i = false ∨
        (s.engine.dispr b).ticket i = t
  | .free b t => ∀ i, s.hdl b t = some i →
      busy (s.engine.dispr b) i = false ∨ (s.engine.dispr b).ticket i = t
  | .other _ => True

end Client

namespace Dispr

variable {d : Dispr} {i : ℕ}

def asks (d : Dispr) : List ℕ × List ℕ := (d.freeAsked, d.cancelAsked)

lemma asks_enqueueRenew (d : Dispr) : d.enqueueRenew.asks = d.asks := by
  dsimp only [enqueueRenew, pushBackTokenOpInfo]
  split <;> rfl

lemma asks_opDone (d : Dispr) (n : OpNode) : (d.opDone n).asks = d.asks := by
  cases n <;> rfl

lemma asks_addTokenReq (d : Dispr) (exclusive : Bool) : (d.addTokenReq exclusive).2.asks = d.asks := by
  rw [addTokenReq_eq]
  split
  · rfl
  split
  · rfl
  · dsimp only [pushBackTokenOpInfo]
    split <;> rfl

lemma cancelTokenReq_eq (d : Dispr) (i : ℕ) : (d.cancelTokenReq i).2 = d ∨
    ((d.tokenReqExPool i).status.enq = true ∨ Client.busy d i = true) ∧
      (d.cancelTokenReq i).2 =
        (d.pushBackTokenOpInfo (.freeReqInfo i) .cancelCmdReq i).2 := by
  dsimp only [cancelTokenReq]
  split
  · exact .inl rfl
  split
  · exact .inl rfl
  split
  · exact .inl rfl
  · next hlive =>
    refine .inr ⟨?_, rfl⟩
    rw [Client.busy]
    revert hlive
    cases (d.tokenReqExPool i).status.enq <;> cases (d.tokenReqExPool i).status.run <;>
      cases (d.tokenReqExPool i).status.prepare <;> simp

lemma freeToken_eq (d : Dispr) (i : ℕ) : (d.freeToken i).2 = d ∨
    Client.busy d i = true ∧
      (d.freeToken i).2 = ((d.setReqStatus i fun s => { s with cancel := true }).pushBackTokenOpInfo
        (.freeReqInfo i) .freeCmdReq i).2 := by
  dsimp only [freeToken]
  split
  · exact .inl rfl
  split
  · exact .inl rfl
  split
  · exact .inl rfl
  · next hlive =>
    refine .inr ⟨?_, rfl⟩
    rw [Client.busy]
    revert hlive
    cases (d.tokenReqExPool i).status.run <;> cases (d.tokenReqExPool i).status.prepare <;> simp

lemma pushBack_freeReqInfo (d : Dispr) (i : ℕ) (type : TokenOpType) :
    (∀ j, j ≠ i → (d.pushBackTokenOpInfo (.freeReqInfo i) type i).2.tokenReqExPool j =
      d.tokenReqExPool j) ∧
    (∀ t ∈ (d.pushBackTokenOpInfo (.freeReqInfo i) type i).2.freeAsked,
      t ∈ d.freeAsked ∨ type = .freeCmdReq ∧ t = d.ticket i) ∧
    (∀ t ∈ (d.pushBackTokenOpInfo (.freeReqInfo i) type i).2.cancelAsked,
      t ∈ d.cancelAsked ∨ type = .cancelCmdReq ∧ t = d.ticket i) := by
  dsimp only [pushBackTokenOpInfo]
  split
  · exact ⟨fun _ _ => rfl, fun _ ht => .inl ht, fun _ ht => .inl ht⟩
  · have hticket : (d.setOpInfo (.freeReqInfo i) ⟨true, some type, i⟩).ticket i = d.ticket i := by
      simp [ticket, setOpInfo, modifyReq]
    refine ⟨fun j hj => update_of_ne hj _ _, fun t ht => ?_, fun t ht => ?_⟩
    · dsimp only [noteAsked] at ht
      split at ht
      · next htype =>
        rcases List.mem_append.1 ht with ht | ht
        · exact .inl ht
        · rw [hticket] at ht
          exact .inr ⟨htype, List.mem_singleton.1 ht⟩
      · exact .inl ht
    · dsimp only [noteAsked] at ht
      split at ht
      · next htype =>
        rcases List.mem_append.1 ht with ht | ht
        · exact .inl ht
        · rw [hticket] at ht
          exact .inr ⟨htype, List.mem_singleton.1 ht⟩
      · exact .inl ht

end Dispr

namespace Engine

variable {w : Engine} {b c : HwBand} {n : OpNode} {i : ℕ}

def asks (w : Engine) (c : HwBand) : List ℕ × List ℕ := (w.dispr c).asks

lemma asks_modify (w : Engine) (b : HwBand) {f : Dispr → Dispr}
    (hf : (f (w.dispr b)).asks = (w.dispr b).asks) : (w.modify b f).asks = w.asks := by
  funext c
  by_cases hc : c = b
  · subst hc
    rw [asks, dispr_modify_self]
    exact hf
  · rw [asks, dispr_modify_of_ne w f hc]
    rfl

lemma asks_modify_goto (w : Engine) (b : HwBand) {f : Dispr → Dispr} (pc : Pc)
    (hf : (f (w.dispr b)).asks = (w.dispr b).asks) : ((w.modify b f).goto pc).asks = w.asks :=
  asks_modify w b hf

lemma asks_clearanceAcquire (w : Engine) (b : HwBand) : (w.clearanceAcquire b).asks = w.asks := by
  dsimp only [clearanceAcquire]
  split
  · exact asks_modify w b rfl
  · rfl

lemma asks_clearanceRelease (w : Engine) (b : HwBand) : (w.clearanceRelease b).asks = w.asks := by
  dsimp only [clearanceRelease]
  split
  · exact asks_modify w b (Dispr.asks_enqueueRenew _)
  · rfl

lemma asks_exclusiveReady (w : Engine) (b : HwBand) : (w.exclusiveReady b).asks = w.asks := by
  dsimp only [exclusiveReady]
  split
  · exact asks_modify w b (Dispr.asks_enqueueRenew _)
  · rfl

lemma asks_cmdTokenComplete (w : Engine) (b : HwBand) : (w.cmdTokenComplete b).asks = w.asks := by
  have hready (v : Engine) : (if (v.dispr b).status.clearance then v.exclusiveReady (other b)
      else v).asks = v.asks := by
    split
    · exact asks_exclusiveReady v _
    · rfl
  dsimp only [cmdTokenComplete]
  split
  · rfl
  refine (hready _).trans ?_
  split
  · exact (asks_clearanceRelease _ _).trans (asks_modify w b rfl)
  · rfl

lemma asks_deregisterComplete (w : Engine) (b : HwBand) :
    (w.deregisterComplete b).asks = w.asks := by
  dsimp only [deregisterComplete]
  split
  · rfl
  · exact asks_cmdTokenComplete w b

lemma asks_deregisterCurCmdReq (w : Engine) (b : HwBand) (i : ℕ) :
    (w.deregisterCurCmdReq b i).asks = w.asks :=
  (asks_deregisterComplete _ b).trans (asks_modify w b rfl)

lemma asks_endOp (w : Engine) (b : HwBand) (n : OpNode) : (w.endOp b n).asks = w.asks :=
  asks_modify_goto w b _ (Dispr.asks_opDone _ n)

lemma asks_processTokenReq (w : Engine) (b : HwBand) (n : OpNode) :
    (w.processTokenReq b n).asks = w.asks := by
  dsimp only [processTokenReq]
  split
  · exact asks_endOp w b n
  split
  · exact asks_endOp w b n
  split
  · exact asks_endOp w b n
  split
  · exact asks_endOp w b n
  split
  · exact (asks_endOp _ b n).trans (asks_exclusiveReady w _)
  split
  · exact (asks_endOp _ b n).trans (asks_clearanceAcquire w _)
  split
  · exact (asks_endOp _ b n).trans (asks_modify w b rfl)
  next i d hpop =>
  dsimp only [Dispr.popFrontWaitReq] at hpop
  split at hpop
  · cases hpop
  · cases hpop
    exact asks_modify_goto w b _ rfl

lemma asks_handleTokenOpInfo (w : Engine) (b : HwBand) (n : OpNode) :
    (w.handleTokenOpInfo b n).asks = w.asks := by
  dsimp only [handleTokenOpInfo]
  split
  · exact asks_processTokenReq w b n
  · exact asks_processTokenReq w b n
  · split
    · exact asks_endOp w b n
    split
    · exact asks_endOp w b n
    split
    · exact (asks_processTokenReq _ b n).trans (asks_deregisterComplete w b)
    · refine (asks_processTokenReq _ b n).trans ((asks_deregisterCurCmdReq _ b _).trans ?_)
      exact asks_modify w b rfl
  · split
    · exact asks_endOp w b n
    generalize hv : (w.modify b fun d =>
      d.setReqStatus ((w.dispr b).opInfo n).data fun s => { s with cancel := true }) = v
    have hset : v.asks = w.asks := by
      rw [← hv]
      exact asks_modify w b rfl
    split
    · exact (asks_modify_goto v b _ rfl).trans hset
    split
    · split
      · exact ((asks_processTokenReq _ b n).trans (asks_deregisterComplete v b)).trans hset
      · exact (asks_modify_goto v b _ rfl).trans hset
    · exact (asks_endOp v b n).trans hset
  · exact asks_endOp w b n

lemma asks_nextTokenOp (w : Engine) (b : HwBand) : (w.nextTokenOp b).asks = w.asks := by
  dsimp only [nextTokenOp, Dispr.popFrontTokenOpInfo]
  cases hq : (w.dispr b).tokenOpQ with
  | nil => rfl
  | cons n q => exact (asks_handleTokenOpInfo _ b n).trans (asks_modify w b rfl)

lemma asks_threadLeave (w : Engine) (b : HwBand) : (w.threadLeave b).asks = w.asks := by
  dsimp only [threadLeave]
  split
  · exact asks_deregisterComplete w b
  · exact (asks_modify_goto _ b _ rfl).trans (asks_modify w b rfl)

lemma asks_onAbortMsgComplete (w : Engine) (b : HwBand) :
    (w.onAbortMsgComplete b).asks = w.asks :=
  (asks_modify _ b (Dispr.asks_enqueueRenew _)).trans
    ((asks_cmdTokenComplete _ b).trans (asks_modify w b rfl))

lemma asks_turn (w : Engine) (fail : Bool) : (w.turn fail).asks = w.asks := by
  dsimp only [turn]
  split
  · exact asks_nextTokenOp w _
  · next b i n _ =>
    split
    · refine (asks_processTokenReq _ b n).trans ((asks_deregisterCurCmdReq _ b i).trans ?_)
      exact asks_modify w b rfl
    · exact asks_endOp w b n
  · next b i n _ => exact (asks_endOp _ b n).trans (asks_modify w b rfl)
  · next b n _ =>
    split
    · exact (asks_processTokenReq _ b n).trans (asks_deregisterComplete w b)
    · exact (asks_processTokenReq _ b n).trans (asks_deregisterCurCmdReq w b _)
  · next b _ =>
    split
    · exact asks_deregisterComplete w b
    · exact asks_deregisterCurCmdReq w b _
  · next b _ =>
    dsimp only [clearWaitingMsg]
    split
    · rfl
    · exact asks_onAbortMsgComplete w b
  · next b _ =>
    dsimp only [clearWatingReq]
    split
    · split
      · exact asks_threadLeave w _
      · rfl
    split
    · rfl
    next i d hpop =>
    dsimp only [Dispr.popFrontWaitReq] at hpop
    split at hpop
    · cases hpop
    · cases hpop
      exact asks_modify_goto w b _ rfl
  · next b i _ => exact asks_modify_goto w b _ rfl
  · rfl
  · rfl

lemma asks_start (w : Engine) : w.start.asks = w.asks := by
  have hkeep : asks { w with
      dispr := fun b => if w.has b then (w.dispr b).restart else w.dispr b, pc := .loop } =
      w.asks := by
    funext c
    dsimp only [asks]
    split <;> rfl
  dsimp only [start]
  split
  · exact (asks_modify _ _ rfl).trans hkeep
  · exact hkeep

lemma asks_step (w : Engine) {e : Event} (he : Client.byHandle e = false) :
    (w.step e).asks = w.asks := by
  cases e with
  | call c =>
    cases c with
    | add b exclusive => cases he
    | cancel b i => cases he
    | free b i => cases he
    | sendInAbort b =>
      refine asks_modify w b ?_
      dsimp only [Dispr.sendInAbort]
      split
      · rfl
      split
      · rfl
      split <;> rfl
    | shallStop b => exact asks_modify (f := fun d => { d with status.shallStop := true }) w b rfl
    | stopPrior b =>
      refine asks_modify w b ?_
      dsimp only [Dispr.threadStopPrior]
      split <;> rfl
  | enter b =>
    dsimp only [step]
    split
    · dsimp only [tokenOpHanler]
      split
      · exact asks_exclusiveReady w _
      · rfl
    · rfl
  | turn fail => exact asks_turn w fail
  | abortMsgDone b =>
    dsimp only [step]
    split
    · exact asks_onAbortMsgComplete w b
    · rfl
  | leave =>
    dsimp only [step]
    split
    · exact asks_threadLeave w _
    · rfl
  | restart =>
    dsimp only [step]
    split
    · exact asks_start w
    · rfl

end Engine

namespace Client

variable {s : Client} {b c : HwBand} {t i j : ℕ}

structure Inv (s : Client) : Prop where
  engine : s.engine.Inv
  freed : ∀ b, ∀ t ∈ (s.engine.dispr b).freeAsked, t ∈ s.freedBy b
  cancelled : ∀ b, ∀ t ∈ (s.engine.dispr b).cancelAsked, t ∈ s.cancelledBy b

lemma Inv.of_asks {s' : Client} (h : s.Inv) (hengine : s'.engine.Inv)
    (hasks : s'.engine.asks = s.engine.asks) (hfreed : s'.freedBy = s.freedBy)
    (hcancelled : s'.cancelledBy = s.cancelledBy) : s'.Inv := by
  refine ⟨hengine, fun b t ht => ?_, fun b t ht => ?_⟩
  · have heq : (s'.engine.dispr b).freeAsked = (s.engine.dispr b).freeAsked :=
      congrArg Prod.fst (congrFun hasks b)
    rw [heq] at ht
    rw [hfreed]
    exact h.freed b t ht
  · have heq : (s'.engine.dispr b).cancelAsked = (s.engine.dispr b).cancelAsked :=
      congrArg Prod.snd (congrFun hasks b)
    rw [heq] at ht
    rw [hcancelled]
    exact h.cancelled b t ht

lemma mem_update_append {l : HwBand → List ℕ} (c : HwBand) {u : ℕ} (h : u ∈ l c) :
    u ∈ update l b (l b ++ [t]) c := by
  by_cases hc : c = b
  · subst hc
    rw [update_self]
    exact List.mem_append_left _ h
  · rwa [update_of_ne hc]

lemma Inv.of_call {f : Dispr → Dispr} {s' : Client} (h : s.Inv) (hengine : s'.engine.Inv)
    (hdispr : s'.engine = s.engine.modify b f)
    (hfreed : ∀ c, ∀ u ∈ s.freedBy c, u ∈ s'.freedBy c)
    (hcancelled : ∀ c, ∀ u ∈ s.cancelledBy c, u ∈ s'.cancelledBy c)
    (hfree : ∀ u ∈ (f (s.engine.dispr b)).freeAsked,
      u ∈ (s.engine.dispr b).freeAsked ∨ u ∈ s'.freedBy b)
    (hcancel : ∀ u ∈ (f (s.engine.dispr b)).cancelAsked,
      u ∈ (s.engine.dispr b).cancelAsked ∨ u ∈ s'.cancelledBy b) : s'.Inv := by
  refine ⟨hengine, fun c u hu => ?_, fun c u hu => ?_⟩
  · rw [hdispr] at hu
    by_cases hc : c = b
    · subst hc
      rw [Engine.dispr_modify_self] at hu
      rcases hfree u hu with hu | hu
      · exact hfreed c u (h.freed c u hu)
      · exact hu
    · rw [Engine.dispr_modify_of_ne _ _ hc] at hu
      exact hfreed c u (h.freed c u hu)
  · rw [hdispr] at hu
    by_cases hc : c = b
    · subst hc
      rw [Engine.dispr_modify_self] at hu
      rcases hcancel u hu with hu | hu
      · exact hcancelled c u (h.cancelled c u hu)
      · exact hu
    · rw [Engine.dispr_modify_of_ne _ _ hc] at hu
      exact hcancelled c u (h.cancelled c u hu)

lemma self_mem_update (l : HwBand → List ℕ) (b : HwBand) (t : ℕ) :
    t ∈ update l b (l b ++ [t]) b := by
  rw [update_self]
  exact List.mem_append_right _ (List.mem_singleton.2 rfl)

lemma inv_cancel (h : s.Inv) (hown : s.OwnSlot (.cancel b t)) : (s.step (.cancel b t)).Inv := by
  dsimp only [step]
  split
  · exact h
  next i hi =>
  have hengine : (s.engine.call (.cancel b i)).Inv := Engine.inv_call h.engine (.cancel b i) trivial
  refine h.of_call (f := fun d => (d.cancelTokenReq i).2) hengine rfl (fun _ _ hu => hu)
    (fun c _ hu => mem_update_append c hu) (fun u hu => ?_) fun u hu => ?_
  all_goals
    rcases Dispr.cancelTokenReq_eq (s.engine.dispr b) i with heq | ⟨hlive, heq⟩
    · rw [heq] at hu
      exact .inl hu
    rw [heq] at hu
  · rcases (Dispr.pushBack_freeReqInfo _ i .cancelCmdReq).2.1 u hu with hu | ⟨htype, -⟩
    · exact .inl hu
    · cases htype
  · rcases (Dispr.pushBack_freeReqInfo _ i .cancelCmdReq).2.2 u hu with hu | ⟨-, hu⟩
    · exact .inl hu
    · rcases hown i hi with ⟨henq, hbusy⟩ | hticket
      · rw [henq, hbusy] at hlive
        simp at hlive
      · rw [hu, hticket]
        exact .inr (self_mem_update _ b t)

lemma inv_free (h : s.Inv) (hown : s.OwnSlot (.free b t)) : (s.step (.free b t)).Inv := by
  dsimp only [step]
  split
  · exact h
  next i hi =>
  have hengine : (s.engine.call (.free b i)).Inv := Engine.inv_call h.engine (.free b i) trivial
  refine h.of_call (f := fun d => (d.freeToken i).2) hengine rfl
    (fun c _ hu => mem_update_append c hu) (fun _ _ hu => hu) (fun u hu => ?_) fun u hu => ?_
  all_goals
    rcases Dispr.freeToken_eq (s.engine.dispr b) i with heq | ⟨hlive, heq⟩
    · rw [heq] at hu
      exact .inl hu
    rw [heq] at hu
  · rcases (Dispr.pushBack_freeReqInfo _ i .freeCmdReq).2.1 u hu with hu | ⟨-, hu⟩
    · exact .inl hu
    · rcases hown i hi with hbusy | hticket
      · rw [hbusy] at hlive
        cases hlive
      · have hsame : ((s.engine.dispr b).setReqStatus i fun s => { s with cancel := true }).ticket i =
            (s.engine.dispr b).ticket i := by
          simp [Dispr.ticket, Dispr.setReqStatus, Dispr.modifyReq]
        rw [hu, hsame, hticket]
        exact .inr (self_mem_update _ b t)
  · rcases (Dispr.pushBack_freeReqInfo _ i .freeCmdReq).2.2 u hu with hu | ⟨htype, -⟩
    · exact .inl hu
    · cases htype

lemma inv_step (h : s.Inv) {e : Event} (hown : s.OwnSlot e) : (s.step e).Inv := by
  cases e with
  | other e =>
    dsimp only [step]
    cases he : byHandle e with
    | true =>
      rw [if_pos rfl]
      exact h
    | false =>
      rw [if_neg Bool.false_ne_true]
      have hfresh : s.engine.FreshSlots e := by
        cases e with
        | call c =>
          cases c with
          | add b exclusive => cases he
          | _ => trivial
        | _ => trivial
      exact h.of_asks (Engine.inv_step h.engine e hfresh) (Engine.asks_step _ he) rfl rfl
  | add b exclusive =>
    have hengine : (s.engine.call (.add b exclusive)).Inv :=
      Engine.inv_call h.engine (.add b exclusive) hown
    refine h.of_asks hengine ?_ rfl rfl
    exact Engine.asks_modify (f := fun d => (d.addTokenReq exclusive).2) _ b
      (Dispr.asks_addTokenReq _ _)
  | cancel b t => exact inv_cancel h hown
  | free b t => exact inv_free h hown

lemma inv_init (phyNum : ℕ) : (init phyNum).Inv := by
  have hasks : (Engine.init phyNum).asks = fun _ => ([], []) := Engine.asks_start _
  refine ⟨Engine.inv_init phyNum, fun b t ht => ?_, fun b t ht => ?_⟩
  · have heq : ((Engine.init phyNum).dispr b).freeAsked = [] :=
      congrArg Prod.fst (congrFun hasks b)
    rw [show ((init phyNum).engine.dispr b).freeAsked = [] from heq] at ht
    exact ht
  · have heq : ((Engine.init phyNum).dispr b).cancelAsked = [] :=
      congrArg Prod.snd (congrFun hasks b)
    rw [show ((init phyNum).engine.dispr b).cancelAsked = [] from heq] at ht
    exact ht

def subject : Event → Option (HwBand × ℕ)
  | .cancel b t => some (b, t)
  | .free b t => some (b, t)
  | _ => none

def ActsOnly (s : Client) (e : Event) : Prop :=
  ∀ b t c j, subject e = some (b, t) → (c = b → (s.engine.dispr c).ticket j ≠ t) →
    ((s.step e).engine.dispr c).tokenReqExPool j = (s.engine.dispr c).tokenReqExPool j

lemma actsOnly_of_own {e : Event} (hown : s.OwnSlot e) : s.ActsOnly e := by
  intro b t c j hsubject hj
  have hmodify {f : Dispr → Dispr}
      (hf : c = b → (f (s.engine.dispr b)).tokenReqExPool j = (s.engine.dispr b).tokenReqExPool j) :
      ((s.engine.modify b f).dispr c).tokenReqExPool j = (s.engine.dispr c).tokenReqExPool j := by
    by_cases hc : c = b
    · subst hc
      rw [Engine.dispr_modify_self]
      exact hf rfl
    · rw [Engine.dispr_modify_of_ne _ _ hc]
  cases e with
  | cancel b' t' =>
    cases hsubject
    dsimp only [step]
    split
    · rfl
    next i hi =>
    refine hmodify (f := fun d => (d.cancelTokenReq i).2) fun hc => ?_
    subst hc
    rcases Dispr.cancelTokenReq_eq (s.engine.dispr c) i with heq | ⟨hlive, heq⟩
    · exact congrArg (fun d : Dispr => d.tokenReqExPool j) heq
    rcases hown i hi with ⟨henq, hbusy⟩ | hticket
    · rw [henq, hbusy] at hlive
      simp at hlive
    · rw [heq]
      refine (Dispr.pushBack_freeReqInfo _ i .cancelCmdReq).1 j ?_
      rintro rfl
      exact hj rfl hticket
  | free b' t' =>
    cases hsubject
    dsimp only [step]
    split
    · rfl
    next i hi =>
    refine hmodify (f := fun d => (d.freeToken i).2) fun hc => ?_
    subst hc
    rcases Dispr.freeToken_eq (s.engine.dispr c) i with heq | ⟨hlive, heq⟩
    · exact congrArg (fun d : Dispr => d.tokenReqExPool j) heq
    rcases hown i hi with hbusy | hticket
    · rw [hbusy] at hlive
      cases hlive
    · have hji : j ≠ i := by
        rintro rfl
        exact hj rfl hticket
      rw [heq, (Dispr.pushBack_freeReqInfo _ i .freeCmdReq).1 j hji]
      exact update_of_ne hji _ _
  | other e => cases hsubject
  | add b exclusive => cases hsubject

structure OwnEnds (s : Client) (b : HwBand) : Prop where
  freed : ∀ t, .freed ∈ (s.engine.dispr b).hist t → t ∈ s.freedBy b
  aborted : ∀ t, .aborted ∈ (s.engine.dispr b).hist t →
    t ∈ s.cancelledBy b ∨ t ∈ (s.engine.dispr b).stopAborted

lemma Inv.ownEnds (h : s.Inv) (hb : s.engine.has b = true) : s.OwnEnds b := by
  have hlife := Engine.lifecycle_of_lawful (h.engine.lawful b hb)
  refine ⟨fun t ht => h.freed b t (hlife.freed t ht), fun t ht => ?_⟩
  rcases hlife.aborted t ht with ht | ht
  · exact .inl (h.cancelled b t ht)
  · exact .inr ht

end Client

end CmdDispr

/-- In runs that meet the condition, what is done through the handle of a message or a
request concerns no other one, at once and when its operation is carried out. -/
theorem handles_affect_own {ids : List ℕ} {ms : List DisprMsg.Client.Event} {phyNum : ℕ}
    {rs : List CmdDispr.Client.Event}
    (hms : Guarded DisprMsg.Client.step DisprMsg.Client.OwnSlot ⟨.init ids, fun _ => none⟩ ms)
    (hrs : Guarded CmdDispr.Client.step CmdDispr.Client.OwnSlot (.init phyNum) rs) :
    (∀ xs t ys, ms = xs ++ .cancel t :: ys →
      (run DisprMsg.Client.step ⟨.init ids, fun _ => none⟩ xs).CancelsOnly t) ∧
    (∀ xs e ys, rs = xs ++ e :: ys → (run CmdDispr.Client.step (.init phyNum) xs).ActsOnly e) ∧
    ∀ b, (run CmdDispr.Client.step (.init phyNum) rs).engine.has b = true →
      (run CmdDispr.Client.step (.init phyNum) rs).OwnEnds b := by
  refine ⟨fun xs t ys heq => ?_, fun xs e ys heq => ?_, fun b hb => ?_⟩
  · subst heq
    exact DisprMsg.Client.cancelsOnly_of_own hms.split.2
  · subst heq
    exact CmdDispr.Client.actsOnly_of_own hrs.split.2
  · have hstep (s : CmdDispr.Client) (e : CmdDispr.Client.Event) (h : s.Inv) (he : s.OwnSlot e) :
        (s.step e).Inv := CmdDispr.Client.inv_step h he
    have hinv := Guarded.invariant hstep (CmdDispr.Client.inv_init phyNum) hrs
    exact hinv.ownEnds hb

/-- A message and a request are cancelled through their handles. -/
theorem handles_affect_own_cancel :
    ∃ (ms : List DisprMsg.Client.Event) (rs : List CmdDispr.Client.Event),
      Guarded DisprMsg.Client.step DisprMsg.Client.OwnSlot ⟨.init [], fun _ => none⟩ ms ∧
      Guarded CmdDispr.Client.step CmdDispr.Client.OwnSlot (.init 1) rs ∧
      (∀ xs t ys, ms = xs ++ .cancel t :: ys →
        (run DisprMsg.Client.step ⟨.init [], fun _ => none⟩ xs).CancelsOnly t) ∧
      (∀ xs e ys, rs = xs ++ e :: ys → (run CmdDispr.Client.step (.init 1) xs).ActsOnly e) ∧
      (run CmdDispr.Client.step (.init 1) rs).OwnEnds .band0 ∧
      ((run CmdDispr.Client.step (.init 1) rs).engine.dispr .band0).hist 0 =
        [.added, .acquired, .aborted] := by
  have hms : Guarded DisprMsg.Client.step DisprMsg.Client.OwnSlot ⟨.init [], fun _ => none⟩
      [.send 1 1 none, .cancel 0] := by
    refine ⟨trivial, fun i hi => ?_, trivial⟩
    have heq : some 0 = some i := hi
    cases heq
    exact .inr rfl
  have hrs : Guarded CmdDispr.Client.step CmdDispr.Client.OwnSlot (.init 1)
      [.add .band0 false, .cancel .band0 0, .other (.enter .band0), .other (.turn false),
        .other (.turn false), .other (.turn false), .other (.turn false)] := by
    refine ⟨fun _ _ i q _ => ?_, fun i hi => ?_, trivial, trivial, trivial, trivial, trivial, trivial⟩
    · change _ ∉ ([] : List CmdDispr.OpNode) ∧ _ ∉ ([] : List CmdDispr.OpNode)
      simp
    · have heq : some 0 = some i := hi
      cases heq
      exact .inr rfl
  obtain ⟨hmsg, hreq, hends⟩ := handles_affect_own hms hrs
  exact ⟨_, _, hms, hrs, hmsg, hreq, hends .band0 (by decide), by decide⟩

/-- Request 0 is granted and freed; seven requests later its slot is taken by request 8,
which is aborted when `dispr_cancel_token_req` is called with the handle of request 0. -/
theorem stale_handle_aborts_later_request :
    ∃ rs, .aborted ∈ ((run CmdDispr.Client.step (.init 1) rs).engine.dispr .band0).hist 8 ∧
      (run CmdDispr.Client.step (.init 1) rs).cancelledBy .band0 = [0] ∧
      ¬ (run CmdDispr.Client.step (.init 1) rs).OwnEnds .band0 := by
  let add : CmdDispr.Client.Event := .add .band0 false
  let turn : CmdDispr.Client.Event := .other (.turn false)
  refine ⟨[add, .other (.enter .band0), turn, turn, .free .band0 0, turn, turn, add, add, add, add,
    add, add, add, add, .cancel .band0 0, .other (.enter .band0)] ++ List.replicate 10 turn,
    by decide, by decide, fun h => ?_⟩
  rcases h.aborted 8 (by decide) with hmem | hmem
  · revert hmem
    decide
  · revert hmem
    decide

end Rtl8831.Phl
