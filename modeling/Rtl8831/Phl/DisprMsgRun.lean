import Rtl8831.Phl.DisprMsgSlots

/-!
# No message is lost

The slots are conserved by calls, by what the thread does with the current request and
when it leaves, so after every run.  Once the thread leaves, sends are refused, and
every turn brings it closer to the state in which all slots are idle.
-/

namespace Rtl8831.Phl.DisprMsg

open Function List

open Lib (run run_invariant)

namespace Dispr

variable {d d' : Dispr} {hand : List ℕ} {c : Option ℕ} {i : ℕ}

/-! ## Sends -/

lemma Conserved.idle_not_live {q : List ℕ} (h : d.Conserved hand c)
    (hq : d.msgIdleQ = i :: q) : i ∉ d.live hand := by
  have hnodup := h.slots.nodup_iff.2 nodup_range
  rw [hq, cons_append, nodup_cons, mem_append, not_or] at hnodup
  exact hnodup.1.2

structure Sent (d d' : Dispr) (i : ℕ) (ex : MsgEx) (es : List MsgEvent) : Prop where
  pool : d'.msgExPool = update d.msgExPool i ex
  ticket : ex.ticket = d.sent
  wait : d'.msgWaitQ = d.msgWaitQ
  pend : d'.msgPendQ = d.msgPendQ
  sent : d'.sent = d.sent + 1
  routine : d'.routine = update d.routine d.sent ex.completion
  hist : d'.hist = update d.hist d.sent es

namespace Sent

variable {ex : MsgEx} {es : List MsgEvent}

lemma pool_of_ne (f : Sent d d' i ex es) {j : ℕ} (hj : j ≠ i) :
    d'.msgExPool j = d.msgExPool j := by
  rw [f.pool, update_of_ne hj]

lemma pool_self (f : Sent d d' i ex es) : d'.msgExPool i = ex := by
  rw [f.pool, update_self]

lemma alive (f : Sent d d' i ex es) (h : d.Conserved hand c) (hi : i ∉ d.live hand) {j : ℕ}
    (hj : j ∈ d.live hand) : d'.Live c j ∧ d'.ticket j = d.ticket j := by
  have hji : j ≠ i := by
    rintro rfl
    exact hi hj
  have hlive := h.alive j hj
  have hne : d.ticket j ≠ d.sent := Nat.ne_of_lt hlive.sent
  have ht : d'.ticket j = d.ticket j := congrArg MsgEx.ticket (f.pool_of_ne hji)
  refine ⟨⟨?_, ?_, ?_, ?_, ?_⟩, ht⟩
  · rw [ht, f.sent]
    exact Nat.lt_succ_of_lt hlive.sent
  · rw [ht, f.hist, update_of_ne hne]
    exact hlive.hist
  · rw [ht, f.routine, update_of_ne hne, f.pool_of_ne hji]
    exact hlive.routine
  · rw [f.pool_of_ne hji]
    exact hlive.notify
  · rw [f.pool_of_ne hji]
    exact hlive.running

lemma live_eq (f : Sent d d' i ex es) : d'.live hand = d.live hand := by
  rw [live, live, f.wait, f.pend]

lemma tickets (f : Sent d d' i ex es) (h : d.Conserved hand c) (hi : i ∉ d.live hand) :
    (d.live hand).map d'.ticket = (d.live hand).map d.ticket :=
  map_congr_left fun _ hj => (f.alive h hi hj).2

lemma closed (f : Sent d d' i ex es) (h : d.Conserved hand c) {t : ℕ} (ht : t < d'.sent)
    (hne : t ≠ d.sent) (hnot : t ∉ (d.live hand).map d.ticket) :
    Closed (d'.routine t) (d'.hist t) := by
  rw [f.sent] at ht
  rw [f.routine, f.hist, update_of_ne hne, update_of_ne hne]
  exact h.closed t (by omega) hnot

lemma unborn (f : Sent d d' i ex es) (h : d.Conserved hand c) {t : ℕ} (ht : d'.sent ≤ t) :
    d'.hist t = [] := by
  rw [f.sent] at ht
  rw [f.hist, update_of_ne (by omega)]
  exact h.unborn t (by omega)

end Sent

lemma Conserved.accept {q : List ℕ} {x : MsgEx} (h : d.Conserved hand c)
    (hq : d.msgIdleQ = i :: q) (f : Sent d d' i x [.accepted]) (hidle : d'.msgIdleQ = q)
    (hnotify : x.status.notifyComplete = x.completion) (hc : c ≠ some i) :
    d'.Conserved (i :: hand) c := by
  have hi := h.idle_not_live hq
  have hperm : (d'.live (i :: hand)).Perm (i :: d.live hand) := by
    rw [live, f.wait, f.pend]
    exact perm_middle
  have hself : d'.ticket i = d.sent := by rw [ticket, f.pool_self, f.ticket]
  have hmap : ((d'.live (i :: hand)).map d'.ticket).Perm
      (d.sent :: (d.live hand).map d.ticket) := by
    refine (hperm.map _).trans ?_
    rw [map_cons, hself, f.tickets h hi]
  have hnew : d.sent ∉ (d.live hand).map d.ticket := by
    intro hmem
    obtain ⟨j, hj, heq⟩ := mem_map.1 hmem
    exact Nat.ne_of_lt (h.alive j hj).sent heq
  refine ⟨?_, ?_, fun j hj => ?_, fun t ht hnot => ?_, fun t ht => f.unborn h ht⟩
  · rw [hidle]
    refine (hperm.append_left q).trans ?_
    refine perm_middle.trans ?_
    rw [← cons_append, ← hq]
    exact h.slots
  · exact hmap.nodup_iff.2 (nodup_cons.2 ⟨hnew, h.tickets⟩)
  · rcases mem_cons.1 (hperm.mem_iff.1 hj) with heq | hmem
    · rw [heq]
      refine ⟨?_, ?_, ?_, ?_, fun hci => absurd hci hc⟩
      · rw [hself, f.sent]
        exact Nat.lt_succ_self _
      · rw [hself, f.hist, update_self, if_neg hc]
      · rw [hself, f.routine, update_self, f.pool_self]
      · rw [f.pool_self]
        exact hnotify
    · exact (f.alive h hi hmem).1
  · rw [hmap.mem_iff, mem_cons, not_or] at hnot
    exact f.closed h ht hnot.1 hnot.2

lemma Conserved.refuse {q : List ℕ} {x : MsgEx} (h : d.Conserved hand c)
    (hq : d.msgIdleQ = i :: q) (f : Sent d d' i x [.refused, .idle])
    (hidle : d'.msgIdleQ = q ++ [i]) : d'.Conserved hand c := by
  have hi := h.idle_not_live hq
  refine ⟨?_, ?_, fun j hj => ?_, fun t ht hnot => ?_, fun t ht => f.unborn h ht⟩
  · rw [hidle, f.live_eq]
    refine List.Perm.trans (List.Perm.append_right _ ?_) h.slots
    rw [hq]
    exact perm_append_singleton i q
  · rw [f.live_eq, f.tickets h hi]
    exact h.tickets
  · rw [f.live_eq] at hj
    exact (f.alive h hi hj).1
  · rw [f.live_eq, f.tickets h hi] at hnot
    by_cases hnew : t = d.sent
    · rw [hnew, f.hist, update_self]
      exact .refused
    · exact f.closed h ht hnew hnot

/-- Slot `i` has been taken for a message and filled in. -/
structure Filled (d d' : Dispr) (i : ℕ) (ex : MsgEx) : Prop where
  pool : d'.msgExPool = update d.msgExPool i ex
  ticket : ex.ticket = d.sent
  notify : ex.status.notifyComplete = ex.completion
  wait : d'.msgWaitQ = d.msgWaitQ
  pend : d'.msgPendQ = d.msgPendQ
  sent : d'.sent = d.sent + 1
  routine : d'.routine = update d.routine d.sent ex.completion
  hist : d'.hist = d.hist

lemma filled_fillMsg (d : Dispr) (i : ℕ) (q : List ℕ) (mdl evt : ℕ) (attr : Option MsgAttr) :
    ∃ ex, Filled d
      (fillMsg { d.modifyMsg i (fun _ => {}) with msgIdleQ := q } i mdl evt attr) i ex :=
  ⟨_, ⟨update_idem .., rfl, rfl, rfl, rfl, rfl, rfl, rfl⟩⟩

lemma Conserved.refuseMsg {d₀ : Dispr} {q : List ℕ} {ex : MsgEx} (h : d₀.Conserved hand c)
    (hq : d₀.msgIdleQ = i :: q) (f : Filled d₀ d i ex) (hidle : d.msgIdleQ = q) :
    (d.refuseMsg i).Conserved hand c := by
  have hpool : d.msgExPool i = ex := by rw [f.pool, update_self]
  have hself : (d.modifyMsg i MsgEx.refused).msgExPool i = ex.refused := by
    rw [pool_modifyMsg, if_pos rfl, hpool]
  have hticket : ((d.modifyMsg i MsgEx.refused).note ex.ticket .refused).ticket i = d₀.sent :=
    (congrArg MsgEx.ticket hself).trans f.ticket
  obtain ⟨hsent, hroutine, hhist, hidle', hwait, hpend⟩ := pushIdle_rest
    ((d.modifyMsg i MsgEx.refused).note ex.ticket .refused) i
  have heq : d.refuseMsg i = ((d.modifyMsg i MsgEx.refused).note ex.ticket .refused).pushIdle i := by
    dsimp only [Dispr.refuseMsg]
    rw [hself]
    rfl
  rw [heq]
  refine h.refuse hq (x := { ex with status := {}, msg := {} }) ⟨?_, f.ticket,
    hwait.trans f.wait, hpend.trans f.pend, hsent.trans f.sent, hroutine.trans f.routine, ?_⟩
    (hidle'.trans (congrArg (· ++ [i]) hidle))
  · funext j
    rw [pool_pushIdle, update_apply]
    dsimp only [note]
    split
    · rw [hself]
      rfl
    · next hj => rw [pool_modifyMsg, if_neg hj, f.pool, update_of_ne hj]
  · rw [hhist]
    funext t
    rw [hticket, hist_note, hist_note, hist_note, f.ticket, if_pos rfl, update_apply]
    dsimp only [modifyMsg]
    split
    · rw [f.hist, h.unborn d₀.sent le_rfl]
      rfl
    · rw [f.hist]

lemma Conserved.acceptMsg {d₀ : Dispr} {q : List ℕ} {ex : MsgEx} (h : d₀.Conserved hand c)
    (hq : d₀.msgIdleQ = i :: q) (f : Filled d₀ d i ex) (hidle : d.msgIdleQ = q)
    (hc : c ≠ some i) (abort : Bool) : (d.acceptMsg i abort).Conserved hand c := by
  have hpool : d.msgExPool i = ex := by rw [f.pool, update_self]
  have hticket : ((d.modifyMsg i fun ex => ex.accepted abort).msgExPool i).ticket = ex.ticket := by
    rw [pool_modifyMsg, if_pos rfl, hpool]
    rfl
  have haccept (s : DisprStatus) : Conserved
      ({ d.modifyMsg i fun ex => ex.accepted abort with status := s }.note ex.ticket .accepted)
        (i :: hand) c := by
    refine h.accept hq (x := ex.accepted abort)
      ⟨?_, f.ticket, f.wait, f.pend, f.sent, f.routine, ?_⟩ hidle f.notify hc
    · change update d.msgExPool i ((d.msgExPool i).accepted abort) = _
      rw [hpool, f.pool, update_idem]
    · change update d.hist ex.ticket (d.hist ex.ticket ++ [.accepted]) = _
      rw [f.ticket, f.hist, h.unborn d₀.sent le_rfl]
      rfl
  have hqueue {e : Dispr} (he : e.Conserved (i :: hand) c) :
      (if isDisprCtrl (e.msgExPool i).msg.mdlId then e.insertMsgByPriority i
        else e.pushBackWaitMsg i).Conserved hand c := by
    split
    · exact he.insertMsgByPriority
    · exact he.pushBackWaitMsg
  dsimp only [Dispr.acceptMsg]
  cases abort with
  | true =>
    have hdone := hqueue (haccept { d.status with waitAbortMsgDone := true })
    rw [← hticket] at hdone
    exact hdone
  | false =>
    have hdone := hqueue (haccept d.status)
    rw [← hticket] at hdone
    exact hdone

lemma Conserved.sendMsg (h : d.Conserved hand c) (hc : ∀ k, c = some k → k ∈ hand)
    (mdl evt : ℕ) (attr : Option MsgAttr) : (d.sendMsg mdl evt attr).2.2.Conserved hand c := by
  dsimp only [Dispr.sendMsg]
  split
  · exact h
  split
  · exact h
  split
  · exact h
  split
  · exact h
  dsimp only [popFrontIdleMsg]
  cases hq : d.msgIdleQ with
  | nil => exact h
  | cons i q =>
    dsimp only
    have hci : c ≠ some i := fun hci =>
      h.idle_not_live hq (mem_append_right _ (hc i hci))
    obtain ⟨ex, hfill⟩ := filled_fillMsg d i q mdl evt attr
    split
    · exact h.refuseMsg hq hfill rfl
    · exact h.acceptMsg hq hfill rfl hci _

/-! ## Calls -/

/-- What a call may do: it conserves the slots, the thread stays where it is, nothing is
started, and the queues of a dispatcher that is not started do not change. -/
structure Called (d d' : Dispr) : Prop where
  conserved : ∀ {hand : List ℕ} {c : Option ℕ}, (∀ k, c = some k → k ∈ hand) →
    d.Conserved hand c → d'.Conserved hand c
  pc : d'.pc = d.pc
  started : d'.status.started = true → d.status.started = true
  stopped : d.status.started = false → d'.msgIdleQ = d.msgIdleQ ∧ d'.msgWaitQ = d.msgWaitQ ∧
    d'.msgPendQ = d.msgPendQ

lemma Called.refl (d : Dispr) : Called d d := ⟨fun _ h => h, rfl, fun h => h, fun _ => ⟨rfl, rfl, rfl⟩⟩

lemma Called.of_same (hs : SameMsgs d d') (hpc : d'.pc = d.pc)
    (hstarted : d'.status.started = true → d.status.started = true) (hq : d'.queues = d.queues) :
    Called d d' :=
  ⟨fun _ h => h.same hs hq, hpc, hstarted,
    fun _ => ⟨hs.idle, congrArg Prod.fst hq, congrArg Prod.snd hq⟩⟩

lemma Called.trans {d'' : Dispr} (h : Called d d') (k : Called d' d'') : Called d d'' := by
  refine ⟨fun hc hd => k.conserved hc (h.conserved hc hd), k.pc.trans h.pc,
    fun hs => h.started (k.started hs), fun hs => ?_⟩
  obtain ⟨hidle, hwait, hpend⟩ := h.stopped hs
  have hs' : d'.status.started = false := by
    by_contra hne
    rw [Bool.not_eq_false] at hne
    rw [h.started hne] at hs
    cases hs
  obtain ⟨hidle', hwait', hpend'⟩ := k.stopped hs'
  exact ⟨hidle'.trans hidle, hwait'.trans hwait, hpend'.trans hpend⟩

lemma pc_pushIdle (d : Dispr) (i : ℕ) :
    (d.pushIdle i).pc = d.pc ∧ (d.pushIdle i).status.started = d.status.started := by
  dsimp only [pushIdle]
  split <;> split <;> exact ⟨rfl, rfl⟩

lemma pc_acceptMsg (d : Dispr) (i : ℕ) (abort : Bool) :
    (d.acceptMsg i abort).pc = d.pc ∧ (d.acceptMsg i abort).status.started = d.status.started := by
  dsimp only [acceptMsg]
  cases abort with
  | true => rw [if_pos rfl]; split <;> exact ⟨rfl, rfl⟩
  | false => rw [if_neg Bool.false_ne_true]; split <;> exact ⟨rfl, rfl⟩

lemma called_sendMsg (d : Dispr) (mdl evt : ℕ) (attr : Option MsgAttr) :
    Called d (d.sendMsg mdl evt attr).2.2 := by
  refine ⟨fun hc h => h.sendMsg hc mdl evt attr, ?_, ?_, fun hs => ?_⟩
  · dsimp only [sendMsg, popFrontIdleMsg]
    repeat' split
    all_goals first | rfl | skip
    all_goals
      next hpop _ =>
      cases hidle : d.msgIdleQ with
      | nil =>
        rw [hidle] at hpop
        cases hpop
      | cons i q =>
        rw [hidle] at hpop
        cases hpop
        first
        | exact (pc_pushIdle _ _).1
        | exact (pc_acceptMsg _ _ _).1
  · dsimp only [sendMsg]
    split
    · exact fun h => h
    · next hstarted =>
      intro _
      rwa [Bool.not_eq_true, Bool.not_eq_eq_eq_not, Bool.not_false] at hstarted
  · dsimp only [sendMsg]
    rw [hs, if_pos (by rfl)]
    exact ⟨rfl, rfl, rfl⟩

lemma called_clrPendingMsg (d : Dispr) : Called d d.clrPendingMsg := .of_same (.pool rfl rfl) rfl id rfl

lemma called_notifyDevIoStatus (d : Dispr) (mdl : ℕ) (allowIo : Bool) :
    Called d (d.notifyDevIoStatus mdl allowIo) := by
  dsimp only [notifyDevIoStatus]
  split
  · split
    · have hnote : Called d { d with status.cannotIo := false, exclusiveMdl := none } :=
        .of_same (.pool rfl rfl) rfl id rfl
      refine hnote.trans ?_
      exact (called_sendMsg _ _ _ _).trans (called_clrPendingMsg _)
    · exact .refl d
  · split
    · exact .refl d
    · have hnote : Called d { d with status.cannotIo := true, exclusiveMdl := some mdl } :=
        .of_same (.pool rfl rfl) rfl id rfl
      exact hnote.trans (called_sendMsg _ _ _ _)

lemma called_foldl {f : Dispr → ℕ → Dispr} (hf : ∀ d i, Called d (f d i)) (l : List ℕ)
    (d : Dispr) : Called d (l.foldl f d) := by
  induction l generalizing d with
  | nil => exact .refl d
  | cons i l ih => exact (hf d i).trans (ih _)

lemma called_cancelMsg (d : Dispr) (i : ℕ) : Called d (d.cancelMsg i) :=
  .of_same (.update i rfl rfl rfl rfl rfl) rfl id rfl

lemma called_cancelRunningMsg (d : Dispr) : Called d d.cancelRunningMsg := by
  refine called_foldl (fun d i => ?_) _ d
  split
  · exact called_cancelMsg d i
  · exact .refl d

lemma called_call (d : Dispr) (c : Call) : Called d (d.call c) := by
  cases c with
  | sendMsg mdl evt attr => exact called_sendMsg d mdl evt attr
  | cancelMsg i =>
    dsimp only [call, cancel]
    split
    · exact .refl d
    split
    · exact .refl d
    split
    · exact .refl d
    · exact called_cancelMsg d i
  | clrPendingMsg => exact called_clrPendingMsg d
  | notifyDevIoStatus mdl allowIo => exact called_notifyDevIoStatus d mdl allowIo
  | notifyShallStop =>
    dsimp only [call, notifyShallStop]
    split
    · exact .refl d
    · exact .of_same (.pool rfl rfl) rfl id rfl
  | threadStopPrior =>
    dsimp only [call, threadStopPrior]
    split
    · have hstop : Called d { d with
          status.started := false, status.ctrlPresent := false
          curCmdReq := d.curCmdReq.map CmdReq.cancelled } := .of_same (.pool rfl rfl) rfl nofun rfl
      exact hstop.trans (called_cancelRunningMsg _)
    · exact .refl d
  | freeToken => exact .of_same (.pool rfl rfl) rfl id rfl
  | dropReq mdl => exact .of_same (.pool rfl rfl) rfl id rfl

/-! ## Modules -/

structure Aside (d d' : Dispr) : Prop where
  same : SameMsgs d d'
  pc : d'.pc = d.pc
  status : d'.status = d.status
  queues : d'.queues = d.queues

lemma Aside.refl (d : Dispr) : Aside d d := ⟨.refl d, rfl, rfl, rfl⟩

lemma Aside.trans {d'' : Dispr} (h : Aside d d') (k : Aside d' d'') : Aside d d'' :=
  ⟨h.same.trans k.same, k.pc.trans h.pc, k.status.trans h.status, k.queues.trans h.queues⟩

lemma Aside.called (h : Aside d d') : Called d d' :=
  .of_same h.same h.pc (fun hs => by rwa [h.status] at hs) h.queues

lemma aside_foldl {α : Type} {f : Dispr → α → Dispr} (hf : ∀ d a, Aside d (f d a))
    (l : List α) (d : Dispr) : Aside d (l.foldl f d) := by
  induction l generalizing d with
  | nil => exact .refl d
  | cons a l ih => exact (hf d a).trans (ih _)

lemma aside_startModule (fails : ℕ → Bool) (p : MdlPriority) (d : Dispr) (m : Module) :
    Aside d (d.startModule fails p m) := by
  dsimp only [startModule]
  split
  · exact .refl d
  · exact ⟨.pool rfl rfl, rfl, rfl, rfl⟩

lemma aside_moduleStart (d : Dispr) (fails : ℕ → Bool) : Aside d (d.moduleStart fails) := by
  dsimp only [moduleStart]
  split
  · exact aside_foldl (fun d p => aside_foldl (aside_startModule fails p) _ d) _ d
  · exact .refl d

lemma aside_moduleCall (d : Dispr) (c : ModuleCall) : Aside d (d.moduleCall c) := by
  cases c with
  | register id =>
    dsimp only [moduleCall, registerModule]
    split
    · exact .refl d
    split
    · exact .refl d
    split
    · exact .refl d
    split
    · exact ⟨.pool rfl rfl, rfl, rfl, rfl⟩
    · exact ⟨.pool rfl rfl, rfl, rfl, rfl⟩
  | deregister id =>
    dsimp only [moduleCall, deregisterModule]
    split
    · exact .refl d
    split
    · exact ⟨⟨fun _ => rfl, fun _ => rfl, fun _ => rfl, rfl, rfl, rfl, rfl⟩, rfl, rfl, rfl⟩
    · exact .refl d
  | start fails => exact aside_moduleStart d _
  | stop =>
    dsimp only [moduleCall, moduleStop]
    split
    · exact ⟨⟨fun _ => rfl, fun _ => rfl, fun _ => rfl, rfl, rfl, rfl, rfl⟩, rfl, rfl, rfl⟩
    · exact .refl d

/-! ## The current request -/

lemma pc_requeue (d : Dispr) (i : ℕ) :
    (d.requeue i).pc = d.pc ∧ (d.requeue i).status = d.status := by
  dsimp only [requeue]
  split <;> exact ⟨rfl, rfl⟩

lemma foldl_queue_pc {f : Dispr → ℕ → Dispr}
    (hf : ∀ d i, (f d i).pc = d.pc ∧ (f d i).status = d.status) (l : List ℕ) (d : Dispr) :
    (l.foldl f d).pc = d.pc ∧ (l.foldl f d).status = d.status := by
  induction l generalizing d with
  | nil => exact ⟨rfl, rfl⟩
  | cons i l ih => exact ⟨(ih _).1.trans (hf d i).1, (ih _).2.trans (hf d i).2⟩

lemma clearPendingMsg_started (d : Dispr) :
    d.clearPendingMsg.status.started = d.status.started := by
  dsimp only [clearPendingMsg]
  split
  · rw [(foldl_queue_pc pc_requeue _ _).2]
  · rfl

lemma Conserved.cancelMsgOf (h : d.Conserved hand c) (mdl i : ℕ) :
    (cancelMsgOf mdl d i).Conserved hand c := by
  dsimp only [Dispr.cancelMsgOf]
  split
  · have hcancel : ((d.setStatus i fun s => { s with ownerReq := false }).cancelMsg i).Conserved
        hand c := by
      have howner : (d.setStatus i fun s => { s with ownerReq := false }).Conserved hand c :=
        h.same (.update i rfl rfl rfl rfl rfl) rfl
      exact howner.same (.update i rfl rfl rfl rfl rfl) rfl
    split
    · apply Conserved.clearPendingMsg
      exact hcancel.same (.pool rfl rfl) rfl
    · exact hcancel
  · exact h

lemma cancelMsgOf_started (mdl : ℕ) (d : Dispr) (i : ℕ) :
    (cancelMsgOf mdl d i).status.started = d.status.started := by
  dsimp only [cancelMsgOf]
  split
  · split
    · rw [clearPendingMsg_started]
      rfl
    · rfl
  · rfl

lemma Conserved.deregisterCurCmdReq (h : d.Conserved hand c) (r : CmdReq) :
    (d.deregisterCurCmdReq r).Conserved hand c := by
  have hfold (l : List ℕ) {d : Dispr} (hd : d.Conserved hand c) :
      (l.foldl (Dispr.cancelMsgOf r.moduleId) d).Conserved hand c := by
    induction l generalizing d with
    | nil => exact hd
    | cons i l ih => exact ih (hd.cancelMsgOf r.moduleId i)
  exact hfold _ (h.same (.pool rfl rfl) rfl)

lemma deregisterCurCmdReq_started (d : Dispr) (r : CmdReq) :
    (d.deregisterCurCmdReq r).status.started = d.status.started := by
  have hfold (l : List ℕ) (d : Dispr) :
      (l.foldl (cancelMsgOf r.moduleId) d).status.started = d.status.started := by
    induction l generalizing d with
    | nil => rfl
    | cons i l ih => exact (ih _).trans (cancelMsgOf_started r.moduleId d i)
  exact hfold _ _

lemma Conserved.dropCurCmdReq (h : d.Conserved hand c) : d.dropCurCmdReq.Conserved hand c := by
  dsimp only [Dispr.dropCurCmdReq]
  split
  · exact h
  · exact h.same (.pool rfl rfl) rfl

lemma dropCurCmdReq_started (d : Dispr) :
    d.dropCurCmdReq.status.started = d.status.started := by
  dsimp only [dropCurCmdReq]
  split <;> rfl

lemma settled_abortCurCmdReq (h : d.Conserved [] none) (r : CmdReq) (leaving : Bool) :
    (d.abortCurCmdReq r leaving).Settled :=
  (h.deregisterCurCmdReq r).same (.pool rfl rfl) rfl

/-! ## Runs -/

/-- The slots are conserved; the thread leaves a dispatcher that is not started, and the
queues that `clear_waiting_msg` has emptied stay so. -/
structure Inv (d : Dispr) : Prop where
  settled : d.Settled
  stopped : d.pc.leaving = true → d.status.started = false
  drained : d.pc = .leaveWaiting ∨ (∃ i, d.pc = .complete i true) → d.msgPendQ = []
  ended : d.pc = .down → d.msgWaitQ = [] ∧ d.msgPendQ = []

lemma Handled.inv (h : d.Handled) : d.Inv := by
  have hne {p : Pc} (hp : p.leaving = true) (hpc : d.pc = p) : False := by
    have hl := h.2
    rw [hpc, hp] at hl
    cases hl
  refine ⟨h.1, fun hl => (hne hl rfl).elim, ?_, fun hpc => (hne rfl hpc).elim⟩
  rintro (hpc | ⟨i, hpc⟩)
  · exact (hne rfl hpc).elim
  · exact (hne rfl hpc).elim

lemma Settled.at {p : Pc} (h : d.Settled) (hpc : d.pc = p) : d.Conserved p.hand p.completing := by
  rw [← hpc]
  exact h

lemma completing_mem_hand (p : Pc) : ∀ k, p.completing = some k → k ∈ p.hand := by
  intro k hk
  cases p with
  | complete i l =>
    cases hk
    exact mem_singleton.2 rfl
  | _ => cases hk

lemma Called.inv (f : Called d d') (h : d.Inv) : d'.Inv := by
  have hstopped (hl : d'.pc.leaving = true) : d.status.started = false :=
    h.stopped (by rwa [f.pc] at hl)
  refine ⟨?_, fun hl => ?_, fun hpc => ?_, fun hpc => ?_⟩
  · have hs := f.conserved (completing_mem_hand d.pc) h.settled
    rw [← f.pc] at hs
    exact hs
  · by_contra hne
    rw [Bool.not_eq_false] at hne
    have := f.started hne
    rw [hstopped hl] at this
    cases this
  · rw [f.pc] at hpc
    have hl : d.pc.leaving = true := by
      rcases hpc with hpc | ⟨i, hpc⟩
      · rw [hpc]
        rfl
      · rw [hpc]
        rfl
    rw [(f.stopped (h.stopped hl)).2.2]
    exact h.drained hpc
  · rw [f.pc] at hpc
    obtain ⟨-, hwait, hpend⟩ := f.stopped (h.stopped (by rw [hpc]; rfl))
    rw [hwait, hpend]
    exact h.ended hpc

lemma inv_goto {p : Pc} (h : d.Conserved p.hand p.completing) (hp : p.leaving = false) :
    (d.goto p).Inv := (handled_goto h hp).inv

lemma inv_leave {p : Pc} (h : d.Conserved p.hand p.completing)
    (hs : d.status.started = false)
    (hp : p = .leaveWaiting ∨ (∃ i, p = .complete i true) → d.msgPendQ = [])
    (hdown : p ≠ .down) : (d.goto p).Inv :=
  ⟨settled_goto h, fun _ => hs, hp, fun hpc => absurd hpc hdown⟩

lemma inv_leaveMsgsPc (h : d.Conserved [] none) (hs : d.status.started = false) :
    (d.goto .leaveMsgs).Inv := by
  refine inv_leave (p := .leaveMsgs) h hs ?_ nofun
  rintro (hp | ⟨i, hp⟩)
  · cases hp
  · cases hp

lemma pushBackIdleMsg_rest (d : Dispr) (i : ℕ) (leaving : Bool) :
    (d.pushBackIdleMsg i leaving).status.started = d.status.started ∧
      (d.pushBackIdleMsg i leaving).msgPendQ = d.msgPendQ := by
  dsimp only [pushBackIdleMsg]
  split
  · split <;> exact ⟨rfl, rfl⟩
  · exact ⟨(pc_pushIdle d i).2, (pushIdle_rest d i).2.2.2.2.2⟩

lemma pushBackIdleMsg_not_down (d : Dispr) (i : ℕ) (leaving : Bool) :
    (d.pushBackIdleMsg i leaving).pc ≠ .down := by
  dsimp only [pushBackIdleMsg]
  split
  · exact nofun
  · cases leaving <;> exact nofun

lemma inv_clearWaitingMsg (h : d.Inv) (hpc : d.pc = .leaveWaiting) : d.clearWaitingMsg.Inv := by
  have hs : d.status.started = false := h.stopped (by rw [hpc]; rfl)
  have hpend := h.drained (.inl hpc)
  have hcons := h.settled.at hpc
  dsimp only [clearWaitingMsg]
  split
  · exact inv_leaveMsgsPc hcons hs
  · next i d₁ hpop =>
    have htaken := hcons.popFrontWaitMsg hpop
    dsimp only [popFrontWaitMsg] at hpop
    split at hpop
    · cases hpop
    cases hpop
    obtain ⟨hsettled, hleaving⟩ := settled_pushBackIdleMsg htaken true
    obtain ⟨hstarted, hpend'⟩ := pushBackIdleMsg_rest { d.setStatus i MsgStatus.taken with
      msgWaitQ := _ } i true
    refine ⟨hsettled, fun _ => hstarted.trans hs, fun _ => hpend'.trans hpend, fun hdown => ?_⟩
    exact absurd hdown (pushBackIdleMsg_not_down _ i true)

lemma pushIdle_setStatus (d : Dispr) (i : ℕ) {f : MsgStatus → MsgStatus}
    (hf : ∀ s, (f s).forAbort = s.forAbort) : (d.setStatus i f).pushIdle i = d.pushIdle i := by
  simp only [pushIdle, setStatus, setMsgId, modifyMsg, update_self, hf]
  split <;> simp only [update_self, update_idem]

lemma inv_complete {leaving : Bool} (h : d.Inv) (hpc : d.pc = .complete i leaving)
    (ret : MdlRet) : (d.turn ret).Inv := by
  have hcons := h.settled.at hpc
  have hlive := hcons.alive i (mem_append_right _ (mem_singleton.2 rfl))
  have hidle : (d.pushIdle i).Conserved [] none := by
    refine hcons.pushIdle (.inr rfl) ?_
    have hhist : d.hist (d.ticket i) = [.accepted, .completed] :=
      hlive.hist.trans (by simp [Pc.completing])
    rw [hlive.routine, hhist, hlive.running rfl]
    exact .notified
  have hturn : d.turn ret = (d.pushIdle i).afterIdle leaving := by
    simp only [turn, hpc]
    exact congrArg (afterIdle · leaving) (pushIdle_setStatus d i fun _ => rfl)
  rw [hturn]
  cases leaving with
  | true =>
    refine inv_leave (p := .leaveWaiting) hidle ?_ (fun _ => ?_) nofun
    · rw [(pc_pushIdle d i).2]
      exact h.stopped (by rw [hpc]; rfl)
    · rw [(pushIdle_rest d i).2.2.2.2.2]
      exact h.drained (.inr ⟨i, hpc⟩)
  | false => exact inv_goto (p := .loop) hidle rfl

lemma Conserved.waitPendingMsg (h : d.Conserved [] none) :
    d.waitPendingMsg.Conserved [] none :=
  .foldl_queue Conserved.pushBackWaitMsg (h.takePend (.pool rfl rfl) rfl rfl)

lemma inv_leaveMsgs (h : d.Inv) (hpc : d.pc = .leaveMsgs) (ret : MdlRet) :
    (d.turn ret).Inv := by
  have hs : d.status.started = false := h.stopped (by rw [hpc]; rfl)
  have hcons := h.settled.at hpc
  simp only [turn, hpc]
  split
  · next hlen =>
    have hempty := hcons.slots.length_eq
    rw [length_append, hlen, length_range, live, length_append,
      length_append] at hempty
    refine ⟨settled_goto (p := .down) hcons, fun _ => hs, ?_, fun _ => ⟨?_, ?_⟩⟩
    · rintro (hp | ⟨i, hp⟩)
      · cases hp
      · cases hp
    · exact length_eq_zero_iff.1 (show d.msgWaitQ.length = 0 by omega)
    · exact length_eq_zero_iff.1 (show d.msgPendQ.length = 0 by omega)
  · obtain ⟨-, hstatus⟩ := foldl_queue_pc (f := pushBackWaitMsg) (fun _ _ => ⟨rfl, rfl⟩)
      d.msgPendQ { d with msgPendQ := [] }
    refine inv_leave (p := .leaveWaiting) hcons.waitPendingMsg ?_ (fun _ => ?_) (by simp)
    · rw [waitPendingMsg, hstatus]
      exact hs
    · have hpend (l : List ℕ) (e : Dispr) : (l.foldl pushBackWaitMsg e).msgPendQ = e.msgPendQ := by
        induction l generalizing e with
        | nil => rfl
        | cons i l ih => exact ih _
      exact hpend _ _

lemma inv_turn (h : d.Inv) (ret : MdlRet) : (d.turn ret).Inv := by
  cases hpc : d.pc with
  | loop =>
    have hcons := h.settled.at hpc
    simp only [turn, hpc]
    split
    · exact inv_goto (p := .tokens) hcons.clearPendingMsg rfl
    · exact h
  | tokens =>
    simp only [turn, hpc]
    exact (handled_handleMsg (h.settled.at hpc)).inv
  | acquired =>
    have hcons := h.settled.at hpc
    simp only [turn, hpc]
    split
    · split
      · exact inv_goto (p := .tokens) hcons rfl
      · exact inv_goto (p := .tokens) (hcons.deregisterCurCmdReq _).dropCurCmdReq rfl
    · exact inv_goto (p := .tokens) hcons rfl
  | abort leaving =>
    have hcons := h.settled.at hpc
    simp only [turn, hpc]
    cases leaving with
    | true =>
      refine inv_leaveMsgsPc hcons.dropCurCmdReq ?_
      rw [dropCurCmdReq_started]
      exact h.stopped (by rw [hpc]; rfl)
    | false => exact inv_goto (p := .tokens) hcons.dropCurCmdReq rfl
  | feed i m walk =>
    simp only [turn, hpc]
    exact (handled_fed (h.settled.at hpc) m walk ret).inv
  | failOwner i =>
    have hcons := h.settled.at hpc
    simp only [turn, hpc, notifyFailReq]
    split
    · exact inv_goto (p := .failReq i) hcons rfl
    · exact (handled_redirectChk hcons ⟨h.settled, by rw [id, hpc]; rfl⟩).inv
  | failReq i =>
    simp only [turn, hpc]
    exact (handled_redirectChk (h.settled.at hpc) ⟨h.settled, by rw [id, hpc]; rfl⟩).inv
  | curReq i =>
    simp only [turn, hpc]
    exact (handled_recycle (h.settled.at hpc) _).inv
  | complete i leaving => exact inv_complete h hpc ret
  | leaveMsgs => exact inv_leaveMsgs h hpc ret
  | leaveWaiting =>
    simp only [turn, hpc]
    exact inv_clearWaitingMsg h hpc
  | down =>
    simp only [turn, hpc]
    exact h

lemma inv_start (h : d.Conserved [] none) (hover : d.msgWaitQ = [] ∧ d.msgPendQ = [])
    (ctrl : Bool) : (d.start ctrl).Inv := by
  have hlive : d.live [] = [] := by simp [live, hover]
  have hstart : (d.start ctrl).live [] = [] := rfl
  refine Handled.inv ⟨⟨?_, ?_, ?_, fun t ht _ => ?_, h.unborn⟩, rfl⟩
  · exact List.Perm.of_eq (append_nil _)
  · exact nodup_nil
  · exact fun i hi => absurd hi not_mem_nil
  · exact h.closed t ht (by rw [hlive]; exact not_mem_nil)

lemma inv_step (h : d.Inv) (e : Event) : (d.step e).Inv := by
  cases e with
  | call c => exact (called_call d c).inv h
  | module c =>
    dsimp only [step]
    split
    · exact h
    · exact (aside_moduleCall d c).called.inv h
  | turn ret => exact inv_turn h ret
  | acquire mdl =>
    dsimp only [step]
    split
    · next hpc =>
      have hcons : d.Conserved [] none := h.settled.at hpc.1
      exact inv_goto (p := .acquired) (hcons.same (.pool rfl rfl) rfl) rfl
    · exact h
  | deregister notify =>
    dsimp only [step]
    split
    · exact h
    next r _ =>
    split
    · next hpc =>
      have hcons := h.settled.at hpc
      split
      · exact Handled.inv ⟨settled_abortCurCmdReq hcons r false, rfl⟩
      · exact inv_goto (p := .tokens) (hcons.deregisterCurCmdReq r).dropCurCmdReq rfl
    · exact h
  | leave =>
    dsimp only [step]
    split
    · next hpc =>
      have hcons := h.settled.at hpc.1
      split
      · exact inv_leaveMsgsPc hcons hpc.2
      · next r _ =>
        refine ⟨settled_abortCurCmdReq hcons r true, fun _ => ?_, ?_, nofun⟩
        · exact (deregisterCurCmdReq_started d r).trans hpc.2
        · rintro (hp | ⟨i, hp⟩)
          · cases hp
          · cases hp
    · exact h
  | restart ctrl =>
    dsimp only [step]
    split
    · next hpc => exact inv_start (h.settled.at hpc) (h.ended hpc) ctrl
    · exact h

lemma inv_init (ids : List ℕ) : (init ids).Inv := by
  have hregister := aside_foldl (fun d id => aside_moduleCall d (.register id)) ids {}
  have hsent := hregister.same.sent
  have hhist := hregister.same.hist
  generalize hd : ids.foldl (fun d id => moduleCall d (.register id)) {} = d₀ at hsent hhist
  have hstart : (d₀.start true).Inv := by
    refine Handled.inv ⟨⟨?_, nodup_nil, fun i hi => absurd hi not_mem_nil,
      fun t ht _ => ?_, fun t _ => ?_⟩, rfl⟩
    · exact List.Perm.of_eq (append_nil _)
    · change t < d₀.sent at ht
      rw [hsent] at ht
      exact absurd ht (Nat.not_lt_zero t)
    · exact congrFun hhist t
  rw [init, hd]
  exact (aside_moduleStart _ _).called.inv hstart

/-! ## The thread leaves -/

/-- How many turns the thread may still take at a place, with `k` slots that are not
idle. -/
def Pc.rank (k : ℕ) : Pc → ℕ
  | .abort _ => 4 * k + 3
  | .leaveMsgs => 4 * k + 1
  | .leaveWaiting => if k = 0 then 2 else 4 * k
  | .complete _ _ => 4 * k - 1
  | _ => 0

def busy (d : Dispr) : ℕ := maxPhlMsgNum - d.msgIdleQ.length

def leaveRank (d : Dispr) : ℕ := Pc.rank d.busy d.pc

lemma leaveRank_le (d : Dispr) : d.leaveRank ≤ 99 := by
  have hk : d.busy ≤ 24 := Nat.sub_le _ _
  rw [leaveRank]
  cases d.pc with
  | leaveWaiting =>
    dsimp only [Pc.rank]
    split <;> omega
  | _ =>
    dsimp only [Pc.rank]
    omega

lemma Called.leaveRank (f : Called d d') (hs : d.status.started = false) :
    d'.leaveRank = d.leaveRank := by
  rw [Dispr.leaveRank, Dispr.leaveRank, busy, busy, f.pc, (f.stopped hs).1]

lemma busy_eq (h : d.Conserved hand c) :
    d.busy = d.msgWaitQ.length + d.msgPendQ.length + hand.length := by
  have hlen := h.slots.length_eq
  simp only [live, length_append, length_range] at hlen
  rw [busy]
  omega

lemma idle_foldl (l : List ℕ) (d : Dispr) :
    (l.foldl pushBackWaitMsg d).msgIdleQ = d.msgIdleQ := by
  induction l generalizing d with
  | nil => rfl
  | cons i l ih => exact ih _

lemma leaveRank_pushIdle (d : Dispr) (i : ℕ) (hk : 0 < d.busy) :
    ((d.pushIdle i).afterIdle true).leaveRank < 4 * d.busy - 1 := by
  have hidle : ((d.pushIdle i).afterIdle true).busy = d.busy - 1 := by
    have hq : ((d.pushIdle i).afterIdle true).msgIdleQ = d.msgIdleQ ++ [i] :=
      (pushIdle_rest d i).2.2.2.1
    rw [busy, busy, hq, length_append, length_singleton]
    omega
  rw [leaveRank, hidle]
  change (if d.busy - 1 = 0 then 2 else 4 * (d.busy - 1)) < 4 * d.busy - 1
  split <;> omega

lemma leaveRank_turn (h : d.Inv) (hl : d.pc.leaving = true) (hdown : d.pc ≠ .down)
    (ret : MdlRet) : (d.turn ret).leaveRank < d.leaveRank ∧ (d.turn ret).pc.leaving = true := by
  cases hpc : d.pc with
  | abort leaving =>
    rw [hpc] at hl
    have hleaving : leaving = true := hl
    have hidle : (d.turn ret).busy = d.busy := by
      simp only [turn, hpc, dropCurCmdReq, busy]
      split <;> rfl
    have hpc' : (d.turn ret).pc = .leaveMsgs := by
      simp only [turn, hpc, hleaving, goto, if_true]
    rw [leaveRank, leaveRank, hidle, hpc', hpc]
    refine ⟨?_, rfl⟩
    dsimp only [Pc.rank]
    omega
  | leaveMsgs =>
    by_cases hlen : d.msgIdleQ.length = maxPhlMsgNum
    · have hturn : d.turn ret = d.goto .down := by simp only [turn, hpc, if_pos hlen]
      rw [hturn, leaveRank, leaveRank, hpc]
      exact ⟨Nat.succ_pos _, rfl⟩
    · have hturn : d.turn ret = d.waitPendingMsg.goto .leaveWaiting := by
        simp only [turn, hpc, if_neg hlen]
      have hidle : (d.waitPendingMsg.goto .leaveWaiting).busy = d.busy := by
        rw [busy, busy]
        exact congrArg (fun q : List ℕ => maxPhlMsgNum - q.length) (idle_foldl _ _)
      have hk := busy_eq (h.settled.at hpc)
      have hcount := (h.settled.at hpc).slots.length_eq
      rw [hturn, leaveRank, leaveRank, hidle, hpc]
      refine ⟨?_, rfl⟩
      have hpos : d.busy ≠ 0 := by
        intro hzero
        simp only [live, length_append, length_range] at hcount
        apply hlen
        omega
      change (if d.busy = 0 then 2 else 4 * d.busy) < 4 * d.busy + 1
      rw [if_neg hpos]
      exact Nat.lt_succ_self _
  | leaveWaiting =>
    have hk := busy_eq (h.settled.at hpc)
    have hturn : d.turn ret = d.clearWaitingMsg := by simp only [turn, hpc]
    rw [hturn, leaveRank, leaveRank, hpc]
    dsimp only [clearWaitingMsg, popFrontWaitMsg]
    cases hq : d.msgWaitQ with
    | nil =>
      rw [hq, h.drained (.inl hpc)] at hk
      have hzero : d.busy = 0 := hk
      refine ⟨?_, rfl⟩
      change 4 * d.busy + 1 < if d.busy = 0 then 2 else 4 * d.busy
      rw [hzero]
      decide
    | cons i q =>
      have hpos : 0 < d.busy := by
        rw [hk, hq, length_cons]
        omega
      have hrank : Pc.rank d.busy .leaveWaiting = 4 * d.busy := if_neg (Nat.ne_of_gt hpos)
      rw [hrank]
      dsimp only [pushBackIdleMsg]
      split
      · refine ⟨?_, rfl⟩
        have hcomplete (e : Dispr) (he : e.msgIdleQ = d.msgIdleQ) :
            (e.goto (.complete i true)).leaveRank < 4 * d.busy := by
          have hb : (e.goto (.complete i true)).busy = d.busy :=
            congrArg (fun q : List ℕ => maxPhlMsgNum - q.length) he
          rw [leaveRank, hb]
          change 4 * d.busy - 1 < 4 * d.busy
          omega
        apply hcomplete
        split <;> rfl
      · refine ⟨?_, rfl⟩
        have hlt := leaveRank_pushIdle { d.setStatus i MsgStatus.taken with msgWaitQ := q } i hpos
        exact Nat.lt_of_lt_of_le hlt (Nat.sub_le _ _)
  | complete i leaving =>
    rw [hpc] at hl
    have hleaving : leaving = true := hl
    subst hleaving
    have hk := busy_eq (h.settled.at hpc)
    have hpos : 0 < d.busy := by
      rw [hk]
      exact Nat.succ_pos _
    have hturn : d.turn ret = (d.pushIdle i).afterIdle true := by
      simp only [turn, hpc]
      exact congrArg (afterIdle · true) (pushIdle_setStatus d i fun _ => rfl)
    rw [hturn]
    refine ⟨?_, rfl⟩
    have hlt := leaveRank_pushIdle d i hpos
    have hrank : d.leaveRank = 4 * d.busy - 1 := by
      rw [leaveRank, hpc]
      rfl
    rw [hrank]
    exact hlt
  | down => exact absurd hpc hdown
  | _ =>
    rw [hpc] at hl
    cases hl

lemma leaveRank_step (h : d.Inv) (hl : d.pc.leaving = true) {e : Event}
    (hturn : e.isTurn = false) (hrestart : e.isRestart = false) :
    (d.step e).pc = d.pc ∧ (d.step e).leaveRank = d.leaveRank := by
  have hs := h.stopped hl
  cases e with
  | call c => exact ⟨(called_call d c).pc, (called_call d c).leaveRank hs⟩
  | module c =>
    have hcalled := (aside_moduleCall d c).called
    dsimp only [step]
    split
    · exact ⟨rfl, rfl⟩
    · exact ⟨hcalled.pc, hcalled.leaveRank hs⟩
  | turn ret => cases hturn
  | acquire mdl =>
    dsimp only [step]
    split
    · next hpc =>
      rw [hpc.1] at hl
      cases hl
    · exact ⟨rfl, rfl⟩
  | deregister notify =>
    dsimp only [step]
    split
    · exact ⟨rfl, rfl⟩
    split
    · next hpc =>
      rw [hpc] at hl
      cases hl
    · exact ⟨rfl, rfl⟩
  | leave =>
    dsimp only [step]
    split
    · next hpc =>
      rw [hpc.1] at hl
      cases hl
    · exact ⟨rfl, rfl⟩
  | restart ctrl => cases hrestart

lemma down_step (hdown : d.pc = .down) {e : Event} (h : d.Inv)
    (hrestart : e.isRestart = false) : (d.step e).pc = .down := by
  cases hturn : e.isTurn with
  | true =>
    cases e with
    | turn ret => simp only [step, turn, hdown]
    | _ => cases hturn
  | false =>
    rw [(leaveRank_step h (by rw [hdown]; rfl) hturn hrestart).1]
    exact hdown

lemma down_run {es : List Event} (hdown : d.pc = .down) (h : d.Inv)
    (hes : ∀ e ∈ es, e.isRestart = false) : (run step d es).pc = .down := by
  induction es generalizing d with
  | nil => exact hdown
  | cons e es ih =>
    exact ih (down_step hdown h (hes e mem_cons_self)) (inv_step h e)
      fun e he => hes e (mem_cons_of_mem _ he)

lemma leave_ends {es : List Event} (h : d.Inv) (hl : d.pc.leaving = true)
    (hes : ∀ e ∈ es, e.isRestart = false) (hturns : d.leaveRank < es.countP Event.isTurn) :
    (run step d es).pc = .down := by
  induction es generalizing d with
  | nil => exact absurd hturns (Nat.not_lt_zero _)
  | cons e es ih =>
    have hrestart := hes e mem_cons_self
    have hrest : ∀ e ∈ es, e.isRestart = false := fun e he => hes e (mem_cons_of_mem _ he)
    have hinv := inv_step h e
    by_cases hdown : d.pc = .down
    · exact down_run (d := d.step e) (down_step hdown h hrestart) hinv hrest
    cases hturn : e.isTurn with
    | true =>
      rw [countP_cons_of_pos hturn] at hturns
      cases e with
      | turn ret =>
        obtain ⟨hlt, hl'⟩ := leaveRank_turn h hl hdown ret
        apply ih hinv hl' hrest
        exact Nat.lt_of_lt_of_le hlt (Nat.le_of_lt_succ hturns)
      | _ => cases hturn
    | false =>
      rw [countP_cons_of_neg (by rw [hturn]; exact Bool.false_ne_true)] at hturns
      obtain ⟨hpc, hrank⟩ := leaveRank_step h hl hturn hrestart
      apply ih hinv ?_ hrest
      · rwa [hrank]
      · rwa [hpc]

/-! ## Conservation -/

/-- What the history of the `t`-th send may be: the message is in a slot that is not
idle, or the send is over. -/
def Accounted (d : Dispr) (t : ℕ) : Prop :=
  (∃ i ∈ d.live d.pc.hand, d.ticket i = t ∧
    (d.hist t = [.accepted] ∨
      d.hist t = [.accepted, .completed] ∧ d.pc.completing = some i ∧ d.routine t = true)) ∨
  (t ∉ (d.live d.pc.hand).map d.ticket ∧ Closed (d.routine t) (d.hist t))

/-- Each slot is in one place, every send is accounted for, no two messages share a
slot's place, and a dispatcher whose thread is gone has idle slots only. -/
structure MessagesConserved (d : Dispr) : Prop where
  slots : (d.msgIdleQ ++ d.msgWaitQ ++ d.msgPendQ ++ d.pc.hand).Perm (range maxPhlMsgNum)
  tickets : ((d.live d.pc.hand).map d.ticket).Nodup
  accounted : ∀ t < d.sent, d.Accounted t
  down : d.pc = .down → d.msgIdleQ.Perm (range maxPhlMsgNum) ∧
    ∀ t < d.sent, Closed (d.routine t) (d.hist t)

lemma Inv.messagesConserved (h : d.Inv) : d.MessagesConserved := by
  have hcons : d.Conserved d.pc.hand d.pc.completing := h.settled
  refine ⟨?_, hcons.tickets, fun t ht => ?_, fun hdown => ?_⟩
  · have hslots := hcons.slots
    rwa [live, ← append_assoc, ← append_assoc] at hslots
  · by_cases hmem : t ∈ (d.live d.pc.hand).map d.ticket
    · obtain ⟨i, hi, heq⟩ := mem_map.1 hmem
      have hlive := hcons.alive i hi
      refine .inl ⟨i, hi, heq, ?_⟩
      have hhist := hlive.hist
      have hroutine := hlive.routine
      rw [heq] at hhist hroutine
      by_cases hc : d.pc.completing = some i
      · rw [if_pos hc] at hhist
        exact .inr ⟨hhist, hc, hroutine.trans (hlive.running hc)⟩
      · rw [if_neg hc] at hhist
        exact .inl hhist
    · exact .inr ⟨hmem, hcons.closed t ht hmem⟩
  · obtain ⟨hwait, hpend⟩ := h.ended hdown
    have hnone : d.live d.pc.hand = [] := by
      rw [live, hwait, hpend, hdown]
      rfl
    refine ⟨?_, fun t ht => hcons.closed t ht ?_⟩
    · have hslots := hcons.slots
      rwa [hnone, append_nil] at hslots
    · rw [hnone]
      exact not_mem_nil

/-- After every run all slots and all sends are accounted for, and once the thread has
begun to leave, a hundred of its turns are enough to find every slot idle, whatever is
called in between. -/
theorem messages_conserved (ids : List ℕ) (es : List Event) :
    (run step (init ids) es).MessagesConserved ∧
      ((run step (init ids) es).pc.leaving = true → ∀ fs : List Event,
        (∀ e ∈ fs, e.isRestart = false) → 100 ≤ fs.countP Event.isTurn →
          (run step (init ids) (es ++ fs)).pc = .down) := by
  have hstep (d : Dispr) (e : Event) (h : d.Inv) : (d.step e).Inv := inv_step h e
  have hinv : (run step (init ids) es).Inv := run_invariant hstep (inv_init ids) es
  refine ⟨hinv.messagesConserved, fun hl fs hfs hturns => ?_⟩
  rw [Lib.run_append]
  apply leave_ends hinv hl hfs
  exact Nat.lt_of_le_of_lt (leaveRank_le _) hturns

end Dispr

end Rtl8831.Phl.DisprMsg
