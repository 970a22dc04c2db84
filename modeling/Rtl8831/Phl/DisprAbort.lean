import Rtl8831.Phl.DisprTokenRun

/-!
# The abort barrier

While messages of an abort callback are outstanding no token is granted, as long as
each of them is recycled before the next one is sent: `DISPR_WAIT_ABORT_MSG_DONE` is
one flag for all of them.  Once the last one is recycled, an operation is queued by
which the thread grants the token to the request that waits first.
-/

namespace Rtl8831.Phl.CmdDispr

open List

open Lib (run Guarded)

namespace Dispr

variable {d d' d'' : Dispr} {held : Bool} {n : OpNode} {i : ℕ}

/-- The flag stands for outstanding abort messages, and the node that renews a request
is in use exactly while it is linked or in the hand of the thread. -/
structure Barrier (d : Dispr) (held : Bool) : Prop where
  waits : d.status.started = true → 0 < d.abortMsgs → d.status.waitAbortMsgDone = true
  linked : d.tokenOpQ.count .renewReqInfo + held.toNat = d.renewReqInfo.used.toNat
  typed : d.renewReqInfo.used = true → d.renewReqInfo.type = some .renewCmdReq

structure Still (d d' : Dispr) : Prop where
  ops : d.tokenOpQ <+: d'.tokenOpQ
  granted : d'.granted = d.granted
  started : d'.status.started = d.status.started
  waitAbort : d'.status.waitAbortMsgDone = d.status.waitAbortMsgDone
  barrier : ∀ {held : Bool}, d.Barrier held → d'.Barrier held

lemma Still.refl (d : Dispr) : Still d d := ⟨prefix_rfl, rfl, rfl, rfl, fun h => h⟩

lemma Still.trans (h : Still d d') (k : Still d' d'') : Still d d'' :=
  ⟨h.ops.trans k.ops, k.granted.trans h.granted, k.started.trans h.started,
    k.waitAbort.trans h.waitAbort, fun hb => k.barrier (h.barrier hb)⟩

def grants (d : Dispr) : List ℕ × List OpNode × TokenOpInfo × ℕ × Bool × Bool :=
  (d.granted, d.tokenOpQ, d.renewReqInfo, d.abortMsgs, d.status.started,
    d.status.waitAbortMsgDone)

lemma Still.of_eq (h : d'.grants = d.grants) : Still d d' := by
  obtain ⟨hgranted, hops, hrenew, hmsgs, hstarted, hwait⟩ :
      d'.granted = d.granted ∧ d'.tokenOpQ = d.tokenOpQ ∧ d'.renewReqInfo = d.renewReqInfo ∧
        d'.abortMsgs = d.abortMsgs ∧ d'.status.started = d.status.started ∧
        d'.status.waitAbortMsgDone = d.status.waitAbortMsgDone := by
    simpa only [grants, Prod.mk.injEq] using h
  refine ⟨by rw [hops], hgranted, hstarted, hwait, fun h => ⟨fun hs hm => ?_, ?_, ?_⟩⟩
  · rw [hwait]
    exact h.waits (by rwa [hstarted] at hs) (by rwa [hmsgs] at hm)
  · rw [hops, hrenew]
    exact h.linked
  · rw [hrenew]
    exact h.typed

lemma still_setOpInfo (d : Dispr) (hn : n ≠ .renewReqInfo) (info : TokenOpInfo) :
    Still d (d.setOpInfo n info) := by
  cases n with
  | addReqInfo i => exact .of_eq rfl
  | freeReqInfo i => exact .of_eq rfl
  | renewReqInfo => exact absurd rfl hn

lemma still_pushBackTokenOpInfo (d : Dispr) (n : OpNode) {type : TokenOpType}
    (htype : n = .renewReqInfo → type = .renewCmdReq) (data : ℕ) :
    Still d (d.pushBackTokenOpInfo n type data).2 := by
  dsimp only [pushBackTokenOpInfo]
  split
  · exact .refl d
  next hused =>
  by_cases hn : n = .renewReqInfo
  · subst hn
    rw [htype rfl]
    refine ⟨prefix_append _ _, rfl, rfl, rfl, fun h => ⟨h.waits, ?_, fun _ => rfl⟩⟩
    have hlinked := h.linked
    rw [show d.renewReqInfo.used = false from Bool.not_eq_true _ ▸ hused] at hlinked
    change (d.tokenOpQ ++ [OpNode.renewReqInfo]).count .renewReqInfo + _ = 1
    rw [count_append, count_singleton_self]
    rw [Bool.toNat_false] at hlinked
    omega
  · have hset := still_setOpInfo d hn ⟨true, some type, data⟩
    have hops : (d.setOpInfo n ⟨true, some type, data⟩).tokenOpQ = d.tokenOpQ :=
      tokenOpQ_setOpInfo d n _
    refine ⟨prefix_append _ _, hset.granted, hset.started, hset.waitAbort, fun h => ?_⟩
    have hbar := hset.barrier h
    refine ⟨hbar.waits, ?_, hbar.typed⟩
    have hcount : (d.tokenOpQ ++ [n]).count .renewReqInfo = d.tokenOpQ.count .renewReqInfo := by
      rw [count_append, count_singleton, if_neg (by simpa using hn), Nat.add_zero]
    change (d.tokenOpQ ++ [n]).count .renewReqInfo + _ = _
    rw [hcount, ← hops]
    exact hbar.linked

lemma still_enqueueRenew (d : Dispr) : Still d d.enqueueRenew :=
  still_pushBackTokenOpInfo d _ (fun _ => rfl) _

lemma Barrier.opDone (h : d.Barrier (decide (n = .renewReqInfo))) :
    (d.opDone n).Barrier false := by
  cases n with
  | addReqInfo i => exact ⟨h.waits, h.linked, h.typed⟩
  | freeReqInfo i => exact ⟨h.waits, h.linked, h.typed⟩
  | renewReqInfo =>
    refine ⟨h.waits, ?_, nofun⟩
    have hlinked := h.linked
    have hle : d.renewReqInfo.used.toNat ≤ 1 := Bool.toNat_le _
    rw [decide_eq_true rfl, Bool.toNat_true] at hlinked
    change d.tokenOpQ.count .renewReqInfo + false.toNat = 0
    rw [Bool.toNat_false]
    omega

lemma Barrier.pop {q : List OpNode} (h : d.Barrier false) (hq : d.tokenOpQ = n :: q) :
    Barrier { d with tokenOpQ := q } (decide (n = .renewReqInfo)) := by
  refine ⟨h.waits, ?_, h.typed⟩
  have hlinked := h.linked
  rw [hq, count_cons] at hlinked
  rw [← hlinked]
  by_cases hn : n = .renewReqInfo
  · subst hn
    simp
  · simp [hn]

/-! ## Calls -/

structure Called (d d' : Dispr) : Prop where
  ops : d.tokenOpQ <+: d'.tokenOpQ
  granted : d'.granted = d.granted
  started : d'.status.started = true → d.status.started = true
  barrier : ∀ {held : Bool}, d.Barrier held → d'.Barrier held

lemma Still.called (h : Still d d') : Called d d' :=
  ⟨h.ops, h.granted, fun hs => by rwa [h.started] at hs, h.barrier⟩

lemma called_addTokenReq (d : Dispr) (exclusive : Bool) :
    Called d (d.addTokenReq exclusive).2 := by
  have heq := addTokenReq_eq d exclusive
  split at heq
  · rw [heq]
    exact (Still.refl d).called
  cases hidle : d.tokenReqIdleQ with
  | nil =>
    rw [hidle] at heq
    rw [heq]
    exact (Still.refl d).called
  | cons i q =>
    rw [hidle] at heq
    rw [heq]
    have hreq : Still d (d.withReq i q exclusive) := .of_eq rfl
    exact (hreq.trans (still_pushBackTokenOpInfo _ (.addReqInfo i) nofun _)).called

lemma called_cancelTokenReq (d : Dispr) (i : ℕ) : Called d (d.cancelTokenReq i).2 := by
  dsimp only [cancelTokenReq]
  split
  · exact (Still.refl d).called
  split
  · exact (Still.refl d).called
  split
  · exact (Still.refl d).called
  · exact (still_pushBackTokenOpInfo d (.freeReqInfo i) nofun _).called

lemma called_freeToken (d : Dispr) (i : ℕ) : Called d (d.freeToken i).2 := by
  dsimp only [freeToken]
  split
  · exact (Still.refl d).called
  split
  · exact (Still.refl d).called
  split
  · exact (Still.refl d).called
  · have hset : Still d (d.setReqStatus i fun s => { s with cancel := true }) := .of_eq rfl
    exact (hset.trans (still_pushBackTokenOpInfo _ (.freeReqInfo i) nofun _)).called

lemma called_sendInAbort (d : Dispr) : Called d d.sendInAbort := by
  dsimp only [sendInAbort]
  split
  · exact (Still.refl d).called
  split
  · exact (Still.refl d).called
  split
  · exact ⟨prefix_rfl, rfl, fun h => h, fun h => ⟨fun _ _ => rfl, h.linked, h.typed⟩⟩
  · exact (Still.refl d).called

lemma called_threadStopPrior (d : Dispr) : Called d d.threadStopPrior := by
  dsimp only [threadStopPrior]
  split
  · exact ⟨prefix_rfl, rfl, nofun, fun h => ⟨nofun, h.linked, h.typed⟩⟩
  · exact (Still.refl d).called

end Dispr

namespace Engine

variable {w w' w'' : Engine} {b c : HwBand} {n : OpNode} {i : ℕ}

open Dispr (Barrier)

def Still (w w' : Engine) : Prop := ∀ c, Dispr.Still (w.dispr c) (w'.dispr c)

lemma Still.refl (w : Engine) : Still w w := fun _ => .refl _

lemma Still.trans (h : Still w w') (k : Still w' w'') : Still w w'' :=
  fun c => (h c).trans (k c)

lemma still_modify (w : Engine) (b : HwBand) {f : Dispr → Dispr}
    (hf : Dispr.Still (w.dispr b) (f (w.dispr b))) : Still w (w.modify b f) := by
  intro c
  by_cases hc : c = b
  · subst hc
    rw [dispr_modify_self]
    exact hf
  · rw [dispr_modify_of_ne w f hc]
    exact .refl _

lemma still_goto (w : Engine) (pc : Pc) : Still w (w.goto pc) := fun _ => .refl _

/-! ## The other dispatcher -/

lemma still_clearanceAcquire (w : Engine) (b : HwBand) : Still w (w.clearanceAcquire b) := by
  dsimp only [clearanceAcquire]
  split
  · exact still_modify w b (.of_eq rfl)
  · exact .refl w

lemma still_renew (w : Engine) (b : HwBand) {f : Dispr → Dispr}
    (hf : Dispr.Still (w.dispr b) (f (w.dispr b))) :
    Still w (w.modify b fun d => (f d).enqueueRenew) :=
  still_modify w b (hf.trans (Dispr.still_enqueueRenew _))

lemma still_clearanceRelease (w : Engine) (b : HwBand) : Still w (w.clearanceRelease b) := by
  dsimp only [clearanceRelease]
  split
  · exact still_renew w b (f := fun d => { d with status.clearance := false }) (.of_eq rfl)
  · exact .refl w

lemma still_exclusiveReady (w : Engine) (b : HwBand) : Still w (w.exclusiveReady b) := by
  dsimp only [exclusiveReady]
  split
  · exact still_renew w b (f := fun d => { d with status.exclusiveUse := true }) (.of_eq rfl)
  · exact .refl w

lemma still_cmdTokenComplete (w : Engine) (b : HwBand) : Still w (w.cmdTokenComplete b) := by
  have hready (v : Engine) :
      Still v (if (v.dispr b).status.clearance then v.exclusiveReady (other b) else v) := by
    split
    · exact still_exclusiveReady v _
    · exact .refl v
  dsimp only [cmdTokenComplete]
  split
  · exact .refl w
  refine Still.trans ?_ (hready _)
  split
  · exact (still_modify w b (.of_eq rfl)).trans (still_clearanceRelease _ _)
  · exact .refl w

lemma still_deregisterComplete (w : Engine) (b : HwBand) :
    Still w (w.deregisterComplete b) := by
  dsimp only [deregisterComplete]
  split
  · exact .refl w
  · exact still_cmdTokenComplete w b

lemma still_deregisterCurCmdReq (w : Engine) (b : HwBand) (i : ℕ) :
    Still w (w.deregisterCurCmdReq b i) :=
  (still_modify w b (.of_eq rfl)).trans (still_deregisterComplete _ b)

lemma still_deregisterNotify (w : Engine) (b : HwBand) (i : ℕ) :
    Still w (w.deregisterNotify b i) := still_modify w b (.of_eq rfl)

/-! ## The thread at work -/

/-- Each dispatcher keeps the barrier while the thread has `x` in hand. -/
def Barred (w : Engine) (x : HwBand → Bool) : Prop := ∀ c, (w.dispr c).Barrier (x c)

def renewHeld (pc : Pc) (c : HwBand) : Bool := decide ((pc.hold c).op = some .renewReqInfo)

def inHand (b : HwBand) (n : OpNode) (c : HwBand) : Bool :=
  decide (c = b ∧ n = .renewReqInfo)

lemma renewHeld_op {pc : Pc} {y : Hold} (hpc : pc.hold = Hold.on b y) (hop : y.op = some n) :
    renewHeld pc = inHand b n := by
  funext c
  rw [renewHeld, inHand, hpc, decide_eq_decide]
  by_cases hc : c = b
  · subst hc
    rw [Hold.on, Function.update_self, hop, Option.some_inj]
    exact ⟨fun h => ⟨rfl, h⟩, fun h => h.2⟩
  · rw [Hold.on, Function.update_of_ne hc]
    exact ⟨by simp, fun h => absurd h.1 hc⟩

lemma Still.barred {x : HwBand → Bool} (h : Still w w') (hb : w.Barred x) : w'.Barred x :=
  fun c => (h c).barrier (hb c)

structure Braced (w : Engine) : Prop where
  barred : w.Barred (renewHeld w.pc)
  stopped : w.pc.leaving = true → ∀ c, (w.dispr c).status.started = false

structure Moved (w w' : Engine) : Prop where
  ops : ∀ c, (w.dispr c).tokenOpQ <+: (w'.dispr c).tokenOpQ
  granted : ∀ c, (w'.dispr c).granted = (w.dispr c).granted ∨
    (w.dispr c).status.started = true ∧ (w.dispr c).status.waitAbortMsgDone = false
  braced : w'.Braced

lemma Still.moved (h : Still w w') (hb : w'.Braced) : Moved w w' :=
  ⟨fun c => (h c).ops, fun c => .inl (h c).granted, hb⟩

lemma Still.trans_moved (h : Still w w') (k : Moved w' w'') : Moved w w'' := by
  refine ⟨fun c => (h c).ops.trans (k.ops c), fun c => ?_, k.braced⟩
  rcases k.granted c with hg | hg
  · exact .inl (hg.trans (h c).granted)
  · rw [(h c).started, (h c).waitAbort] at hg
    exact .inr hg

lemma renewHeld_none {pc : Pc} (h : ∀ c, (pc.hold c).op = none) : renewHeld pc = fun _ => false := by
  funext c
  rw [renewHeld, h c]
  rfl

lemma moved_goto {p : Pc} (hb : w.Barred (renewHeld p)) (hp : p.leaving = false) :
    Moved w (w.goto p) := by
  refine (still_goto w p).moved ⟨hb, fun hl => ?_⟩
  rw [show (w.goto p).pc = p from rfl, hp] at hl
  cases hl

lemma opDone_quiet (d : Dispr) (n : OpNode) :
    (d.opDone n).tokenOpQ = d.tokenOpQ ∧ (d.opDone n).granted = d.granted := by
  cases n <;> exact ⟨rfl, rfl⟩

lemma moved_endOp (hb : w.Barred (inHand b n)) : Moved w (w.endOp b n) := by
  have hops (c : HwBand) : ((w.endOp b n).dispr c).tokenOpQ = (w.dispr c).tokenOpQ ∧
      ((w.endOp b n).dispr c).granted = (w.dispr c).granted := by
    by_cases hc : c = b
    · subst hc
      rw [endOp, dispr_goto, dispr_modify_self]
      exact opDone_quiet _ n
    · rw [endOp, dispr_goto, dispr_modify_of_ne w _ hc]
      exact ⟨rfl, rfl⟩
  refine ⟨fun c => by rw [(hops c).1], fun c => .inl (hops c).2, fun c => ?_, nofun⟩
  have hbar := hb c
  by_cases hc : c = b
  · subst hc
    rw [inHand, decide_eq_decide.2 (and_iff_right rfl)] at hbar
    rw [endOp, dispr_goto, dispr_modify_self]
    exact hbar.opDone
  · rw [inHand, decide_eq_false fun h => hc h.1] at hbar
    rw [endOp, dispr_goto, dispr_modify_of_ne w _ hc]
    exact hbar

/-- The state in which `dispr_process_token_req` grants the token. -/
structure Grantable (d : Dispr) (i : ℕ) : Prop where
  started : d.status.started = true
  running : d.status.shallStop = false
  free : d.tokenCnt = 0
  complete : d.status.waitAbortMsgDone = false
  clear : d.status.clearance = false
  first : d.tokenReqWaitQ.head? = some i
  ready : (d.tokenReqExPool i).req.exclusive = true → d.status.exclusiveUse = true

lemma moved_processTokenReq (hb : w.Barred (inHand b n)) : Moved w (w.processTokenReq b n) := by
  dsimp only [processTokenReq]
  split
  · exact moved_endOp hb
  next hstarted =>
  split
  · exact moved_endOp hb
  split
  · exact moved_endOp hb
  split
  · exact moved_endOp hb
  next hwait =>
  split
  · have hready := still_exclusiveReady w (other b)
    exact hready.trans_moved (moved_endOp (hready.barred hb))
  split
  · have hacquire := still_clearanceAcquire w (other b)
    exact hacquire.trans_moved (moved_endOp (hacquire.barred hb))
  split
  · have hidle : Still w (w.modify b fun d => { d with status.notifyIdle := true }) :=
      still_modify w b (.of_eq rfl)
    exact hidle.trans_moved (moved_endOp (hidle.barred hb))
  next i d hpop =>
  dsimp only [Dispr.popFrontWaitReq] at hpop
  split at hpop
  · cases hpop
  cases hpop
  have hheld : renewHeld (.acquired b i n) = inHand b n := renewHeld_op rfl rfl
  rw [← hheld] at hb
  refine ⟨fun c => ?_, fun c => ?_, fun c => ?_, nofun⟩
  · by_cases hc : c = b
    · subst hc
      rw [dispr_goto, dispr_modify_self]
      exact prefix_rfl
    · rw [dispr_goto, dispr_modify_of_ne w _ hc]
  · by_cases hc : c = b
    · subst hc
      exact .inr ⟨by simpa using hstarted, by simpa using hwait⟩
    · rw [dispr_goto, dispr_modify_of_ne w _ hc]
      exact .inl rfl
  · have hbar := hb c
    by_cases hc : c = b
    · subst hc
      rw [dispr_goto, dispr_modify_self]
      exact ⟨hbar.waits, hbar.linked, hbar.typed⟩
    · rw [dispr_goto, dispr_modify_of_ne w _ hc]
      exact hbar

lemma processTokenReq_grants (h : Grantable (w.dispr b) i) :
    ((w.processTokenReq b n).dispr b).granted =
      (w.dispr b).granted ++ [(w.dispr b).ticket i] := by
  obtain ⟨q, hq⟩ : ∃ q, (w.dispr b).tokenReqWaitQ = i :: q := by
    cases hw : (w.dispr b).tokenReqWaitQ with
    | nil =>
      have hfirst := h.first
      rw [hw] at hfirst
      cases hfirst
    | cons j q =>
      have hfirst := h.first
      rw [hw] at hfirst
      cases hfirst
      exact ⟨q, rfl⟩
  have hexclusive : ((w.dispr b).frontReqWithExclusiveOpt &&
      !(w.dispr b).status.exclusiveUse) = false := by
    rw [Dispr.frontReqWithExclusiveOpt, hq]
    dsimp only
    cases hex : ((w.dispr b).tokenReqExPool i).req.exclusive with
    | false => rfl
    | true =>
      rw [h.ready hex]
      rfl
  have hfree : ¬ 0 < (w.dispr b).tokenCnt := by
    rw [h.free]
    exact Nat.lt_irrefl 0
  have hpop : (w.dispr b).popFrontWaitReq = some (i, { (w.dispr b).setReqStatus i
      ReqStatus.prepared with tokenReqWaitQ := q }) := by
    rw [Dispr.popFrontWaitReq, hq]
  have hticket (d : Dispr) (f : ReqStatus → ReqStatus) :
      (d.setReqStatus i f).ticket i = d.ticket i := by
    simp [Dispr.ticket, Dispr.setReqStatus, Dispr.modifyReq]
  dsimp only [processTokenReq]
  rw [h.started, h.running, if_neg hfree, h.complete, h.clear, hexclusive, hpop]
  simp only [Bool.not_true, Bool.false_eq_true, if_false, dispr_goto, dispr_modify_self]
  refine congrArg (fun t => (w.dispr b).granted ++ [t]) ?_
  exact (hticket _ _).trans (hticket _ _)

lemma Moved.process (h : Still w w') (hb : w.Barred (inHand b n)) :
    Moved w (w'.processTokenReq b n) :=
  h.trans_moved (moved_processTokenReq (h.barred hb))

lemma moved_handleTokenOpInfo (hb : w.Barred (inHand b n)) :
    Moved w (w.handleTokenOpInfo b n) := by
  dsimp only [handleTokenOpInfo]
  split
  · exact moved_processTokenReq hb
  · exact moved_processTokenReq hb
  · split
    · exact moved_endOp hb
    split
    · exact moved_endOp hb
    split
    · exact .process (still_deregisterComplete w b) hb
    · exact .process ((still_modify w b (.of_eq rfl)).trans (still_deregisterCurCmdReq _ b _)) hb
  · split
    · exact moved_endOp hb
    generalize hv : (w.modify b fun d =>
      d.setReqStatus ((w.dispr b).opInfo n).data fun s => { s with cancel := true }) = v
    have hset : Still w v := by
      rw [← hv]
      exact still_modify w b (.of_eq rfl)
    refine hset.trans_moved ?_
    have hbv := hset.barred hb
    split
    · have hout := still_modify v b (f := fun d =>
        { d with tokenReqWaitQ := d.tokenReqWaitQ.erase ((w.dispr b).opInfo n).data }.note
          (d.ticket ((w.dispr b).opInfo n).data) .aborted) (.of_eq rfl)
      refine hout.trans_moved (moved_goto ?_ rfl)
      rw [renewHeld_op (n := n) rfl rfl]
      exact hout.barred hbv
    split
    · split
      · exact .process (still_deregisterComplete v b) hbv
      · next i _ =>
        have hnotify := still_deregisterNotify v b i
        refine hnotify.trans_moved (moved_goto ?_ rfl)
        rw [renewHeld_op (n := n) rfl rfl]
        exact hnotify.barred hbv
    · exact moved_endOp hbv
  · exact moved_endOp hb

/-! ## Turns -/

lemma barred_of_op (h : w.Braced) {y : Hold} (hpc : w.pc.hold = Hold.on b y)
    (hop : y.op = some n) : w.Barred (inHand b n) := by
  rw [← renewHeld_op hpc hop]
  exact h.barred

lemma barred_of_none (h : w.Braced) (hpc : ∀ c, (w.pc.hold c).op = none) :
    w.Barred fun _ => false := by
  rw [← renewHeld_none hpc]
  exact h.barred

lemma hold_on_op_none {y : Hold} (hop : y.op = none) (c : HwBand) : (Hold.on b y c).op = none := by
  by_cases hc : c = b
  · subst hc
    rw [Hold.on, Function.update_self, hop]
  · rw [Hold.on, Function.update_of_ne hc]

lemma moved_leave {p : Pc} (h : Still w w') (hb : w.Barred fun _ => false)
    (hp : ∀ c, (p.hold c).op = none) (hs : ∀ c, (w.dispr c).status.started = false) :
    Moved w (w'.goto p) := by
  refine (h.trans (still_goto w' p)).moved ⟨?_, fun _ c => ?_⟩
  · rw [show (w'.goto p).pc = p from rfl, renewHeld_none hp]
    exact h.barred hb
  · exact (h c).started.trans (hs c)

lemma moved_threadLeave (hb : w.Barred fun _ => false)
    (hs : ∀ c, (w.dispr c).status.started = false) : Moved w (w.threadLeave b) := by
  dsimp only [threadLeave]
  split
  · exact moved_leave (still_deregisterComplete w b) hb (fun _ => rfl) hs
  · exact moved_leave ((still_modify w b (.of_eq rfl)).trans (still_deregisterNotify _ b _)) hb
      (hold_on_op_none rfl) hs

lemma moved_onAbortMsgComplete (h : w.Braced)
    (hlast : (w.dispr b).status.started = true → (w.dispr b).abortMsgs ≤ 1) :
    (w.onAbortMsgComplete b).Braced ∧ ∀ c,
      (w.dispr c).tokenOpQ <+: ((w.onAbortMsgComplete b).dispr c).tokenOpQ ∧
      ((w.onAbortMsgComplete b).dispr c).granted = (w.dispr c).granted := by
  have hpc : (w.onAbortMsgComplete b).pc = w.pc := (harmless_onAbortMsgComplete b).quiet w |>.pc
  generalize hv : (w.modify b fun d =>
    { d with abortMsgs := d.abortMsgs - 1, status.waitAbortMsgDone := false }) = v
  have hrest : Still v (w.onAbortMsgComplete b) := by
    rw [← hv]
    exact (still_cmdTokenComplete _ b).trans (still_modify _ b (Dispr.still_enqueueRenew _))
  have hvc (c : HwBand) : (v.dispr c).tokenOpQ = (w.dispr c).tokenOpQ ∧
      (v.dispr c).granted = (w.dispr c).granted ∧
      (v.dispr c).status.started = (w.dispr c).status.started := by
    rw [← hv]
    by_cases hc : c = b
    · subst hc
      rw [dispr_modify_self]
      exact ⟨rfl, rfl, rfl⟩
    · rw [dispr_modify_of_ne w _ hc]
      exact ⟨rfl, rfl, rfl⟩
  have hbar : v.Barred (renewHeld w.pc) := by
    intro c
    have hold := h.barred c
    rw [← hv]
    by_cases hc : c = b
    · subst hc
      rw [dispr_modify_self]
      refine ⟨fun hs hm => ?_, hold.linked, hold.typed⟩
      have := hlast hs
      change 0 < (w.dispr c).abortMsgs - 1 at hm
      omega
    · rw [dispr_modify_of_ne w _ hc]
      exact hold
  refine ⟨⟨?_, fun hl c => ?_⟩, fun c => ⟨?_, ?_⟩⟩
  · rw [hpc]
    exact hrest.barred hbar
  · rw [hpc] at hl
    rw [(hrest c).started, (hvc c).2.2]
    exact h.stopped hl c
  · rw [← (hvc c).1]
    exact (hrest c).ops
  · rw [(hrest c).granted, (hvc c).2.1]

lemma moved_clearWatingReq (hb : w.Barred fun _ => false) (h : w.Braced)
    (hs : ∀ c, (w.dispr c).status.started = false) : Moved w (w.clearWatingReq b) := by
  dsimp only [clearWatingReq]
  split
  · split
    · exact moved_threadLeave hb hs
    · exact moved_leave (Still.refl w) hb (fun _ => rfl) hs
  split
  · exact (Still.refl w).moved h
  next i d hpop =>
  dsimp only [Dispr.popFrontWaitReq] at hpop
  split at hpop
  · cases hpop
  cases hpop
  exact moved_leave (still_modify w b (.of_eq rfl)) hb (hold_on_op_none rfl) hs

lemma moved_turn (h : w.Braced) (hops : ∀ b, w.pc ≠ .ops b) (fail : Bool) :
    Moved w (w.turn fail) := by
  dsimp only [turn]
  split
  · next b hpc => exact absurd hpc (hops b)
  · next b i n hpc =>
    have hb := barred_of_op (n := n) h (by rw [hpc]; rfl) rfl
    split
    · exact .process ((still_modify w b (.of_eq rfl)).trans (still_deregisterCurCmdReq _ b i)) hb
    · exact moved_endOp hb
  · next b i n hpc =>
    have hb := barred_of_op (n := n) h (by rw [hpc]; rfl) rfl
    have hpush : Still w (w.modify b fun d => d.pushBackIdleReq i) := still_modify w b (.of_eq rfl)
    exact hpush.trans_moved (moved_endOp (hpush.barred hb))
  · next b n hpc =>
    have hb := barred_of_op (n := n) h (by rw [hpc]; rfl) rfl
    split
    · exact .process (still_deregisterComplete w b) hb
    · exact .process (still_deregisterCurCmdReq w b _) hb
  · next b hpc =>
    have hb := barred_of_none h (by rw [hpc]; exact hold_on_op_none rfl)
    have hs := h.stopped (by rw [hpc]; rfl)
    split
    · exact moved_leave (still_deregisterComplete w b) hb (fun _ => rfl) hs
    · exact moved_leave (still_deregisterCurCmdReq w b _) hb (fun _ => rfl) hs
  · next b hpc =>
    have hb := barred_of_none h (by rw [hpc]; exact fun _ => rfl)
    have hs := h.stopped (by rw [hpc]; rfl)
    dsimp only [clearWaitingMsg]
    split
    · exact moved_leave (Still.refl w) hb (fun _ => rfl) hs
    · obtain ⟨hbraced, hquiet⟩ := moved_onAbortMsgComplete (b := b) h fun hstarted => by
        rw [hs b] at hstarted
        cases hstarted
      exact ⟨fun c => (hquiet c).1, fun c => .inl (hquiet c).2, hbraced⟩
  · next b hpc =>
    exact moved_clearWatingReq (barred_of_none h (by rw [hpc]; exact fun _ => rfl)) h
      (h.stopped (by rw [hpc]; rfl))
  · next b i hpc =>
    exact moved_leave (still_modify w b (.of_eq rfl))
      (barred_of_none h (by rw [hpc]; exact hold_on_op_none rfl)) (fun _ => rfl)
      (h.stopped (by rw [hpc]; rfl))
  · exact (Still.refl w).moved h
  · exact (Still.refl w).moved h

lemma moved_nextTokenOp (h : w.Braced) (hpc : w.pc = .ops b) {q : List OpNode}
    (hq : (w.dispr b).tokenOpQ = n :: q) :
    Moved (w.modify b fun d => { d with tokenOpQ := q }) (w.nextTokenOp b) := by
  have heq : w.nextTokenOp b =
      (w.modify b fun _ => { w.dispr b with tokenOpQ := q }).handleTokenOpInfo b n := by
    simp only [nextTokenOp, Dispr.popFrontTokenOpInfo, hq]
  rw [heq]
  apply moved_handleTokenOpInfo
  have hb := barred_of_none h (by rw [hpc]; exact fun _ => rfl)
  intro c
  by_cases hc : c = b
  · subst hc
    rw [dispr_modify_self, inHand, decide_eq_decide.2 (and_iff_right rfl)]
    exact (hb c).pop hq
  · rw [dispr_modify_of_ne w _ hc, inHand, decide_eq_false fun h => hc h.1]
    exact hb c

/-! ## Steps -/

def LastRecycled (w : Engine) : Event → Prop
  | .abortMsgDone b => w.pc = .loop → (w.dispr b).status.started = true →
      (w.dispr b).abortMsgs ≤ 1
  | _ => True

def Event.isTurn : Event → Bool
  | .turn _ => true
  | _ => false

structure Progress (w w' : Engine) (turn : Bool) (c : HwBand) : Prop where
  ops : (w.dispr c).tokenOpQ <+: (w'.dispr c).tokenOpQ ∨
    turn = true ∧ w.pc = .ops c ∧ (w.dispr c).tokenOpQ.tail <+: (w'.dispr c).tokenOpQ
  granted : (w'.dispr c).granted = (w.dispr c).granted ∨
    (w.dispr c).status.started = true ∧ (w.dispr c).status.waitAbortMsgDone = false

lemma Moved.progress (h : Moved w w') (turn : Bool) (c : HwBand) : Progress w w' turn c :=
  ⟨.inl (h.ops c), h.granted c⟩

section

variable (h : w.Braced)
include h

lemma turn_progress (fail : Bool) :
    (w.turn fail).Braced ∧ ∀ c, Progress w (w.turn fail) true c := by
  by_cases hops : ∀ b, w.pc ≠ .ops b
  · have hmoved := moved_turn h hops fail
    exact ⟨hmoved.braced, hmoved.progress _⟩
  rw [not_forall] at hops
  obtain ⟨b, hpc⟩ := hops
  rw [not_not] at hpc
  have hturn : w.turn fail = w.nextTokenOp b := by simp only [turn, hpc]
  rw [hturn]
  cases hq : (w.dispr b).tokenOpQ with
  | nil =>
    have hloop : w.nextTokenOp b = w.goto .loop := by
      simp only [nextTokenOp, Dispr.popFrontTokenOpInfo, hq]
    rw [hloop]
    have hmoved := moved_goto (p := .loop) (barred_of_none h (by rw [hpc]; exact fun _ => rfl)) rfl
    exact ⟨hmoved.braced, hmoved.progress _⟩
  | cons n q =>
    have hmoved := moved_nextTokenOp h hpc hq
    refine ⟨hmoved.braced, fun c => ?_⟩
    have hops := hmoved.ops c
    have hgranted := hmoved.granted c
    by_cases hc : c = b
    · subst hc
      rw [dispr_modify_self] at hops hgranted
      refine ⟨.inr ⟨rfl, hpc, ?_⟩, hgranted⟩
      rw [hq]
      exact hops
    · rw [dispr_modify_of_ne w _ hc] at hops hgranted
      exact ⟨.inl hops, hgranted⟩

lemma still_braced (hs : Still w w') (hpc : w'.pc = w.pc) : w'.Braced := by
  refine ⟨?_, fun hl c => ?_⟩
  · rw [hpc]
    exact hs.barred h.barred
  · rw [hpc] at hl
    exact (hs c).started.trans (h.stopped hl c)

lemma called_progress {f : Dispr → Dispr}
    (hf : Dispr.Called (w.dispr b) (f (w.dispr b))) :
    (w.modify b f).Braced ∧ ∀ c, Progress w (w.modify b f) false c := by
  have hother {c : HwBand} (hc : c ≠ b) : (w.modify b f).dispr c = w.dispr c :=
    dispr_modify_of_ne w f hc
  have hself : (w.modify b f).dispr b = f (w.dispr b) := dispr_modify_self w b f
  refine ⟨⟨fun c => ?_, fun hl c => ?_⟩, fun c => ?_⟩
  · by_cases hc : c = b
    · subst hc
      rw [hself]
      exact hf.barrier (h.barred c)
    · rw [hother hc]
      exact h.barred c
  · by_cases hc : c = b
    · subst hc
      rw [hself]
      by_contra hs
      rw [Bool.not_eq_false] at hs
      have hstarted := hf.started hs
      rw [h.stopped hl c] at hstarted
      cases hstarted
    · rw [hother hc]
      exact h.stopped hl c
  · by_cases hc : c = b
    · subst hc
      refine ⟨.inl ?_, .inl ?_⟩
      · rw [hself]
        exact hf.ops
      · rw [hself]
        exact hf.granted
    · refine ⟨.inl ?_, .inl ?_⟩
      · rw [hother hc]
      · rw [hother hc]

lemma call_progress (c : Call) :
    (w.call c).Braced ∧ ∀ b, Progress w (w.call c) false b := by
  cases c with
  | add b exclusive =>
    exact called_progress (f := fun d => (d.addTokenReq exclusive).2) h
      (Dispr.called_addTokenReq _ _)
  | cancel b i =>
    exact called_progress (f := fun d => (d.cancelTokenReq i).2) h (Dispr.called_cancelTokenReq _ i)
  | free b i =>
    exact called_progress (f := fun d => (d.freeToken i).2) h (Dispr.called_freeToken _ i)
  | sendInAbort b => exact called_progress h (Dispr.called_sendInAbort _)
  | shallStop b =>
    have hstill : Dispr.Still (w.dispr b) { w.dispr b with status.shallStop := true } :=
      .of_eq rfl
    exact called_progress (f := fun d => { d with status.shallStop := true }) h hstill.called
  | stopPrior b => exact called_progress h (Dispr.called_threadStopPrior _)

/-- Every step but a restart keeps the barrier, takes no operation but the first of the
band the thread works on, and grants nothing where an abort message is waited for. -/
lemma step_progress {e : Event} (he : w.LastRecycled e) (hrestart : e ≠ .restart) :
    (w.step e).Braced ∧ ∀ c, Progress w (w.step e) e.isTurn c := by
  have hsame (turn : Bool) : w.Braced ∧ ∀ c, Progress w w turn c :=
    ⟨h, ((Still.refl w).moved h).progress turn⟩
  cases e with
  | call c => exact call_progress h c
  | enter b =>
    dsimp only [step]
    split
    · next hpc =>
      dsimp only [tokenOpHanler]
      split
      · have hready := still_exclusiveReady w (other b)
        have hb := still_braced h hready ((harmless_exclusiveReady (other b)).quiet w).pc
        exact ⟨hb, (hready.moved hb).progress _⟩
      · have hmoved := moved_goto (p := .ops b)
          (barred_of_none h (by rw [hpc.1]; exact fun _ => rfl)) rfl
        exact ⟨hmoved.braced, hmoved.progress _⟩
    · exact hsame _
  | turn fail => exact turn_progress h fail
  | abortMsgDone b =>
    dsimp only [step]
    split
    · next hpc =>
      obtain ⟨hb, hquiet⟩ := moved_onAbortMsgComplete h (he hpc.1)
      exact ⟨hb, fun c => ⟨.inl (hquiet c).1, .inl (hquiet c).2⟩⟩
    · exact hsame _
  | leave =>
    dsimp only [step]
    split
    · next hpc =>
      have hs (c : HwBand) : (w.dispr c).status.started = false := by
        cases c with
        | band0 => simpa using hpc.2.2.1
        | band1 => simpa using hpc.2.2.2
      have hmoved : Moved w (w.threadLeave .band0) :=
        moved_threadLeave (barred_of_none h (by rw [hpc.1]; exact fun _ => rfl)) hs
      exact ⟨hmoved.braced, hmoved.progress _⟩
    · exact hsame _
  | restart => exact absurd rfl hrestart

end

lemma braced_start (h : ∀ c, w.has c = false → (w.dispr c).Barrier false) : w.start.Braced := by
  have hbar (c : HwBand) : (if w.has c then (w.dispr c).restart else w.dispr c).Barrier false := by
    cases hc : w.has c with
    | false =>
      rw [if_neg Bool.false_ne_true]
      exact h c hc
    | true =>
      rw [if_pos rfl]
      exact ⟨fun _ hm => absurd hm (Nat.lt_irrefl 0), rfl, nofun⟩
  dsimp only [start]
  split
  · refine ⟨fun c => ?_, nofun⟩
    by_cases hc : c = .band0
    · subst hc
      rw [dispr_modify_self]
      exact ⟨(hbar _).waits, (hbar _).linked, (hbar _).typed⟩
    · rw [dispr_modify_of_ne _ _ hc]
      exact hbar c
  · exact ⟨hbar, nofun⟩

lemma braced_init (phyNum : ℕ) : (init phyNum).Braced :=
  braced_start fun _ _ => ⟨nofun, rfl, nofun⟩

lemma granted_restart (w : Engine) (c : HwBand) :
    ((w.step .restart).dispr c).granted = (w.dispr c).granted := by
  dsimp only [step]
  split
  · dsimp only [start]
    have hkeep : (if w.has c then (w.dispr c).restart else w.dispr c).granted =
        (w.dispr c).granted := by
      split <;> rfl
    split
    · by_cases hc : c = .band0
      · subst hc
        rw [dispr_modify_self]
        exact hkeep
      · rw [dispr_modify_of_ne _ _ hc]
        exact hkeep
    · exact hkeep
  · rfl

lemma braced_step (h : w.Braced) {e : Event} (he : w.LastRecycled e) : (w.step e).Braced := by
  by_cases hrestart : e = .restart
  · subst hrestart
    dsimp only [step]
    split
    · next hpc =>
      have hb := barred_of_none h (by rw [hpc]; exact fun _ => rfl)
      exact braced_start fun c _ => hb c
    · exact h
  · exact (step_progress h he hrestart).1

/-! ## The barrier -/

lemma granted_of_outstanding (h : w.Braced) {e : Event} (he : w.LastRecycled e)
    (hm : (w.dispr c).abortMsgs ≠ 0) : ((w.step e).dispr c).granted = (w.dispr c).granted := by
  by_cases hrestart : e = .restart
  · subst hrestart
    exact granted_restart w c
  rcases ((step_progress h he hrestart).2 c).granted with hg | ⟨hs, hw⟩
  · exact hg
  · have hwait := (h.barred c).waits hs (Nat.pos_of_ne_zero hm)
    rw [hw] at hwait
    cases hwait

lemma used_setRenew (d : Dispr) : .renewReqInfo ∈ d.enqueueRenew.tokenOpQ ∨
    d.renewReqInfo.used = true := by
  dsimp only [Dispr.enqueueRenew, Dispr.pushBackTokenOpInfo]
  cases hused : d.renewReqInfo.used with
  | true => exact .inr rfl
  | false =>
    rw [show (d.opInfo .renewReqInfo).used = false from hused, if_neg Bool.false_ne_true]
    exact .inl (mem_append_right _ (mem_singleton.2 rfl))

lemma renew_linked (h : w.Braced) (hpc : w.pc = .loop) (hm : (w.dispr b).abortMsgs = 1) :
    .renewReqInfo ∈ ((w.step (.abortMsgDone b)).dispr b).tokenOpQ := by
  have hlast : w.LastRecycled (.abortMsgDone b) := fun _ _ => Nat.le_of_eq hm
  have hb := braced_step h hlast
  have hstep : w.step (.abortMsgDone b) = w.onAbortMsgComplete b := by
    rw [step, if_pos ⟨hpc, by rw [hm]; exact Nat.one_pos⟩]
  have hpc' : (w.onAbortMsgComplete b).pc = .loop :=
    ((harmless_onAbortMsgComplete b).quiet w).pc.trans hpc
  rw [hstep] at hb ⊢
  have hbar := barred_of_none hb (by rw [hpc']; exact fun _ => rfl) b
  dsimp only [onAbortMsgComplete] at hbar ⊢
  rw [dispr_modify_self] at hbar ⊢
  rcases used_setRenew _ with hmem | hused
  · exact hmem
  · have hlinked := hbar.linked
    have hused' : (Dispr.enqueueRenew (((w.modify b fun d =>
        { d with abortMsgs := d.abortMsgs - 1, status.waitAbortMsgDone := false }).cmdTokenComplete
          b).dispr b)).renewReqInfo.used = true := by
      dsimp only [Dispr.enqueueRenew, Dispr.pushBackTokenOpInfo]
      split
      · exact hused
      · rfl
    rw [hused', Bool.toNat_false, Bool.toNat_true] at hlinked
    exact count_pos_iff.1 (by omega)

/-- The thread takes the operation that renews a request, and grants the token to the
request that waits first, if it may be granted. -/
def Renews (w : Engine) (b : HwBand) (fail : Bool) : Prop :=
  w.pc = .ops b ∧ (w.dispr b).tokenOpQ.head? = some .renewReqInfo ∧
    ∀ i, Grantable (w.dispr b) i → ((w.step (.turn fail)).dispr b).granted =
      (w.dispr b).granted ++ [(w.dispr b).ticket i]

lemma renews_of_head (h : w.Braced) (hpc : w.pc = .ops b)
    (hq : (w.dispr b).tokenOpQ.head? = some .renewReqInfo) (fail : Bool) : w.Renews b fail := by
  refine ⟨hpc, hq, fun i hi => ?_⟩
  obtain ⟨q, hq⟩ := head?_eq_some_iff.1 hq
  have hbar := h.barred b
  have hused : (w.dispr b).renewReqInfo.used = true := by
    have hlinked := hbar.linked
    rw [hq, count_cons_self] at hlinked
    have hle : (w.dispr b).renewReqInfo.used.toNat ≤ 1 := Bool.toNat_le _
    by_contra hne
    rw [Bool.not_eq_true] at hne
    rw [hne, Bool.toNat_false] at hlinked
    omega
  have hturn : w.step (.turn fail) =
      (w.modify b fun _ => { w.dispr b with tokenOpQ := q }).handleTokenOpInfo b .renewReqInfo := by
    simp only [step, turn, hpc, nextTokenOp, Dispr.popFrontTokenOpInfo, hq]
  generalize hv : (w.modify b fun _ => { w.dispr b with tokenOpQ := q }) = v at hturn
  have hvb : v.dispr b = { w.dispr b with tokenOpQ := q } := by
    rw [← hv, dispr_modify_self]
  have htype : ((v.dispr b).opInfo .renewReqInfo).type = some .renewCmdReq := by
    rw [hvb]
    exact hbar.typed hused
  have hhandle : v.handleTokenOpInfo b .renewReqInfo = v.processTokenReq b .renewReqInfo := by
    simp only [handleTokenOpInfo, htype]
  have hgrant : Grantable (v.dispr b) i := by
    rw [hvb]
    exact ⟨hi.started, hi.running, hi.free, hi.complete, hi.clear, hi.first, hi.ready⟩
  rw [hturn, hhandle, processTokenReq_grants hgrant, hvb]
  rfl

lemma renew_kept {fs : List Event} (h : w.Braced) (hfs : Guarded step LastRecycled w fs)
    (hrestart : .restart ∉ fs) (hmem : .renewReqInfo ∈ (w.dispr b).tokenOpQ) :
    .renewReqInfo ∈ ((run step w fs).dispr b).tokenOpQ ∨
      ∃ xs fail ys, fs = xs ++ .turn fail :: ys ∧ (run step w xs).Renews b fail := by
  induction fs generalizing w with
  | nil => exact .inl hmem
  | cons e fs ih =>
    rw [mem_cons, not_or] at hrestart
    obtain ⟨hb, hprogress⟩ := step_progress h hfs.1 (Ne.symm hrestart.1)
    by_cases hstay : .renewReqInfo ∈ ((w.step e).dispr b).tokenOpQ
    · rcases ih hb hfs.2 hrestart.2 hstay with hrun | ⟨xs, fail, ys, heq, hrenews⟩
      · exact .inl hrun
      · exact .inr ⟨e :: xs, fail, ys, by rw [heq, cons_append], hrenews⟩
    · right
      rcases (hprogress b).ops with hops | ⟨hturn, hpc, htail⟩
      · exact absurd (hops.subset hmem) hstay
      cases hq : (w.dispr b).tokenOpQ with
      | nil =>
        rw [hq] at hmem
        cases hmem
      | cons n q =>
        rw [hq] at hmem htail
        rcases mem_cons.1 hmem with heq | hmem
        · have hhead : (w.dispr b).tokenOpQ.head? = some .renewReqInfo := by rw [hq, heq]; rfl
          cases e with
          | turn fail => exact ⟨[], fail, fs, rfl, renews_of_head h hpc hhead fail⟩
          | _ => cases hturn
        · exact absurd (htail.subset hmem) hstay

/-- In such a run no step grants a request to a dispatcher with abort messages
outstanding, and once the last one is recycled the thread comes to grant the request
that waits first. -/
theorem abort_messages_hold_grants {phyNum : ℕ} {es : List Event}
    (hes : Guarded step LastRecycled (init phyNum) es) :
    (∀ xs e ys c, es = xs ++ e :: ys → ((run step (init phyNum) xs).dispr c).abortMsgs ≠ 0 →
      ((step (run step (init phyNum) xs) e).dispr c).granted =
        ((run step (init phyNum) xs).dispr c).granted) ∧
    ∀ xs b ys, es = xs ++ .abortMsgDone b :: ys → .restart ∉ ys →
      (run step (init phyNum) xs).pc = .loop →
      ((run step (init phyNum) xs).dispr b).abortMsgs = 1 →
      .renewReqInfo ∈ ((run step (init phyNum) es).dispr b).tokenOpQ ∨
        ∃ us fail vs, ys = us ++ .turn fail :: vs ∧
          (run step (init phyNum) (xs ++ .abortMsgDone b :: us)).Renews b fail := by
  have hstep (w : Engine) (e : Event) (h : w.Braced) (he : w.LastRecycled e) :
      (w.step e).Braced := braced_step h he
  refine ⟨fun xs e ys c heq hm => ?_, fun xs b ys heq hrestart hpc hm => ?_⟩
  · subst heq
    obtain ⟨hxs, he⟩ := hes.split
    exact granted_of_outstanding (Guarded.invariant hstep (braced_init phyNum) hxs) he hm
  · subst heq
    obtain ⟨hxs, he⟩ := hes.split
    have hb := Guarded.invariant hstep (braced_init phyNum) hxs
    have hys := hes.suffix
    have hkept := renew_kept (b := b) (hstep _ _ hb he) hys hrestart (renew_linked hb hpc hm)
    rw [Lib.run_append, Lib.run_cons]
    rcases hkept with hmem | ⟨us, fail, vs, heq, hrenews⟩
    · exact .inl hmem
    · refine .inr ⟨us, fail, vs, heq, ?_⟩
      rw [Lib.run_append, Lib.run_cons]
      exact hrenews

/-- A request is aborted and its callback sends one message; once that is recycled the
next request is granted. -/
theorem abort_messages_hold_grants_one :
    ∃ es, Guarded step LastRecycled (init 1) es ∧
      ((run step (init 1) es).dispr .band0).granted = [0, 1] ∧
      ((∀ xs e ys c, es = xs ++ e :: ys → ((run step (init 1) xs).dispr c).abortMsgs ≠ 0 →
        ((step (run step (init 1) xs) e).dispr c).granted =
          ((run step (init 1) xs).dispr c).granted) ∧
      ∀ xs b ys, es = xs ++ .abortMsgDone b :: ys → .restart ∉ ys →
        (run step (init 1) xs).pc = .loop →
        ((run step (init 1) xs).dispr b).abortMsgs = 1 →
        .renewReqInfo ∈ ((run step (init 1) es).dispr b).tokenOpQ ∨
          ∃ us fail vs, ys = us ++ .turn fail :: vs ∧
            (run step (init 1) (xs ++ .abortMsgDone b :: us)).Renews b fail) := by
  have hes : Guarded step LastRecycled (init 1)
      [.call (.add .band0 false), .enter .band0, .turn false, .turn false, .turn false,
        .call (.cancel .band0 0), .enter .band0, .turn false, .call (.sendInAbort .band0),
        .turn false, .turn false, .call (.add .band0 false), .enter .band0, .turn false,
        .turn false, .abortMsgDone .band0, .enter .band0, .turn false] := by
    refine ⟨trivial, trivial, trivial, trivial, trivial, trivial, trivial, trivial, trivial,
      trivial, trivial, trivial, trivial, trivial, trivial, fun _ _ => ?_, trivial, trivial, trivial⟩
    decide
  exact ⟨_, hes, by decide, abort_messages_hold_grants hes⟩

/-- The callback sends two messages: after the first is recycled the next request is
granted although the second is outstanding. -/
theorem first_of_two_releases_grant :
    ∃ es fail, ((run step (init 1) es).dispr .band0).abortMsgs = 1 ∧
      ((step (run step (init 1) es) (.turn fail)).dispr .band0).granted ≠
        ((run step (init 1) es).dispr .band0).granted := by
  refine ⟨[.call (.add .band0 false), .enter .band0, .turn false, .turn false, .turn false,
    .call (.cancel .band0 0), .enter .band0, .turn false, .call (.sendInAbort .band0),
    .call (.sendInAbort .band0), .turn false, .turn false, .call (.add .band0 false),
    .abortMsgDone .band0, .enter .band0], false, ?_⟩
  decide

end Engine

end Rtl8831.Phl.CmdDispr
