import Rtl8831.Phl.DisprTokenRun

/-!
# Exclusive commands

A dispatcher whose first waiting request is exclusive sets `DISPR_CLEARANCE` on the
other one, which answers with `DISPR_EXCLUSIVE_USE` once it has no command; both flags
fall when the exclusive command is complete.  What the two dispatchers show of
themselves to this handshake is kept apart from the rest of their state.
-/

namespace Rtl8831.Phl.CmdDispr

open Option

open Lib (run Guarded)

/-- What the handshake depends on: flags of the dispatcher, whether its current request
is exclusive, and whether the first waiting one is. -/
structure View where
  started : Bool
  clearance : Bool
  exclusiveUse : Bool
  waitAbort : Bool
  cur : Option Bool
  front : Bool

namespace View

def Claims (v : View) : Prop :=
  v.front = true ∨ v.cur = some true ∨ v.exclusiveUse = true ∧ v.waitAbort = true

/-- What `a` relies on and does to `b`. -/
structure Ok (a b : View) : Prop where
  use : a.exclusiveUse = true → b.clearance = true ∧ b.cur = none
  excl : a.cur = some true → a.exclusiveUse = true
  clear : a.started = true → b.clearance = true → a.Claims ∧ a.cur ≠ some false
  one : a.clearance = true → b.clearance = false

variable {a b : View}

/-! ## Steps of the handshake -/

/-- The flags that `cmd_token_complete` of `a` leaves. -/
def complete (a b : View) : View × View :=
  let (a, b) :=
    if a.exclusiveUse then ({ a with exclusiveUse := false }, { b with clearance := false })
    else (a, b)
  (a, if a.clearance then { b with exclusiveUse := true } else b)

lemma ok_complete (hcur : a.cur = none)
    (huse : a.exclusiveUse = true → b.clearance = true ∧ b.cur = none)
    (hclear : a.started = true → b.clearance = true → a.exclusiveUse = false → a.Claims)
    (hone : a.clearance = true → b.clearance = false) (hb : b.Ok a) :
    (complete a b).1.Ok (complete a b).2 ∧ (complete a b).2.Ok (complete a b).1 := by
  obtain ⟨hbuse, hbexcl, hbclear, hbone⟩ := hb
  cases hu : a.exclusiveUse with
  | false =>
    cases hc : a.clearance with
    | false =>
      simp only [complete, hu, hc, Bool.false_eq_true, if_false]
      refine ⟨⟨huse, fun h => ?_, fun hs h => ⟨hclear hs h hu, ?_⟩, hone⟩,
        ⟨hbuse, hbexcl, hbclear, hbone⟩⟩
      · rw [hcur] at h
        cases h
      · rw [hcur]
        exact nofun
    | true =>
      simp only [complete, hu, hc, Bool.false_eq_true, if_false, if_true]
      refine ⟨⟨fun h => ?_, fun h => ?_, fun hs h => ?_, hone⟩, ⟨fun _ => ⟨hc, hcur⟩, fun _ => rfl,
        fun hs h => ⟨?_, (hbclear hs h).2⟩, hbone⟩⟩
      · rw [hu] at h
        cases h
      · rw [hcur] at h
        cases h
      · rw [hone hc] at h
        cases h
      · rcases (hbclear hs h).1 with hf | hf | hf
        · exact .inl hf
        · exact .inr (.inl hf)
        · exact .inr (.inr ⟨rfl, hf.2⟩)
  | true =>
    have hac : a.clearance = false := by
      cases hc : a.clearance with
      | false => rfl
      | true =>
        have := (huse hu).1
        rw [hone hc] at this
        cases this
    simp only [complete, hu, hac, Bool.false_eq_true, if_false, if_true]
    refine ⟨⟨nofun, fun h => ?_, nofun, fun _ => rfl⟩, ⟨fun h => ?_, hbexcl, fun _ h => ?_, nofun⟩⟩
    · rw [hcur] at h
      cases h
    · have := (hbuse h).1
      rw [hac] at this
      cases this
    · cases h

section

variable (ha : a.Ok b) (hb : b.Ok a)
include ha hb

lemma Ok.deregister :
    if a.waitAbort then ({ a with cur := none }).Ok b ∧ b.Ok { a with cur := none }
    else (complete { a with cur := none } b).1.Ok (complete { a with cur := none } b).2 ∧
      (complete { a with cur := none } b).2.Ok (complete { a with cur := none } b).1 := by
  have hb' : b.Ok { a with cur := none } :=
    ⟨fun h => ⟨(hb.use h).1, rfl⟩, hb.excl, hb.clear, hb.one⟩
  split
  · next hwait =>
    refine ⟨⟨ha.use, nofun, fun hs h => ⟨?_, nofun⟩, ha.one⟩, hb'⟩
    rcases (ha.clear hs h).1 with hf | hf | hf
    · exact .inl hf
    · exact .inr (.inr ⟨ha.excl hf, hwait⟩)
    · exact .inr (.inr hf)
  · refine ok_complete rfl ha.use (fun hs h hu => ?_) ha.one hb'
    rcases (ha.clear hs h).1 with hf | hf | hf
    · exact .inl hf
    · have := ha.excl hf
      rw [show a.exclusiveUse = false from hu] at this
      cases this
    · rw [show a.exclusiveUse = false from hu] at hf
      cases hf.1

lemma Ok.abortDone (hcur : a.cur = none) :
    (complete { a with waitAbort := false } b).1.Ok (complete { a with waitAbort := false } b).2 ∧
      (complete { a with waitAbort := false } b).2.Ok
        (complete { a with waitAbort := false } b).1 := by
  refine ok_complete hcur ha.use (fun hs h hu => ?_) ha.one
    ⟨hb.use, hb.excl, hb.clear, hb.one⟩
  rcases (ha.clear hs h).1 with hf | hf | hf
  · exact .inl hf
  · exact .inr (.inl hf)
  · rw [show a.exclusiveUse = false from hu] at hf
    cases hf.1

lemma Ok.ready (hclear : a.clearance = true)
    (hcur : a.cur = none) :
    a.Ok { b with exclusiveUse := true } ∧ ({ b with exclusiveUse := true }).Ok a := by
  refine ⟨⟨ha.use, ha.excl, ha.clear, ha.one⟩,
    ⟨fun _ => ⟨hclear, hcur⟩, fun _ => rfl, fun hs h => ⟨?_, (hb.clear hs h).2⟩, hb.one⟩⟩
  rcases (hb.clear hs h).1 with hf | hf | hf
  · exact .inl hf
  · exact .inr (.inl hf)
  · exact .inr (.inr ⟨rfl, hf.2⟩)

lemma Ok.acquire (hfront : a.front = true)
    (hcur : a.cur = none) (hclear : a.clearance = false) (huse : a.exclusiveUse = false) :
    a.Ok { b with clearance := true } ∧ ({ b with clearance := true }).Ok a := by
  refine ⟨⟨fun h => ?_, ha.excl, fun _ _ => ⟨.inl hfront, ?_⟩, fun h => ?_⟩,
    ⟨hb.use, hb.excl, hb.clear, fun _ => hclear⟩⟩
  · rw [huse] at h
    cases h
  · rw [hcur]
    exact nofun
  · rw [hclear] at h
    cases h

lemma Ok.grant (f : Bool) (hs : a.started = true)
    (hcur : a.cur = none) (hwait : a.waitAbort = false) (hclear : a.clearance = false)
    (huse : a.front = true → a.exclusiveUse = true) :
    ({ a with cur := some a.front, front := f }).Ok b ∧
      b.Ok { a with cur := some a.front, front := f } := by
  have hfront (h : b.clearance = true) : a.front = true := by
    rcases (ha.clear hs h).1 with hf | hf | hf
    · exact hf
    · rw [hcur] at hf
      cases hf
    · rw [hwait] at hf
      cases hf.2
  refine ⟨⟨ha.use, fun h => huse (Option.some.inj h), fun _ h => ?_, ha.one⟩,
    ⟨fun h => ?_, hb.excl, hb.clear, hb.one⟩⟩
  · have hf := hfront h
    refine ⟨.inr (.inl (congrArg some hf)), fun h' => ?_⟩
    rw [show some a.front = some true from congrArg some hf] at h'
    cases h'
  · have := (hb.use h).1
    rw [hclear] at this
    cases this

lemma Ok.front (f : Bool)
    (hf : a.started = true → b.clearance = true → a.front = true → f = true ∨
      a.cur = some true ∨ a.exclusiveUse = true ∧ a.waitAbort = true) :
    ({ a with front := f }).Ok b ∧ b.Ok { a with front := f } := by
  refine ⟨⟨ha.use, ha.excl, fun hs h => ⟨?_, (ha.clear hs h).2⟩, ha.one⟩,
    ⟨hb.use, hb.excl, hb.clear, hb.one⟩⟩
  rcases (ha.clear hs h).1 with hf' | hf' | hf'
  · exact hf hs h hf'
  · exact .inr (.inl hf')
  · exact .inr (.inr hf')

lemma Ok.sendInAbort :
    ({ a with waitAbort := true }).Ok b ∧ b.Ok { a with waitAbort := true } := by
  refine ⟨⟨ha.use, ha.excl, fun hs h => ⟨?_, (ha.clear hs h).2⟩, ha.one⟩,
    ⟨hb.use, hb.excl, hb.clear, hb.one⟩⟩
  rcases (ha.clear hs h).1 with hf | hf | hf
  · exact .inl hf
  · exact .inr (.inl hf)
  · exact .inr (.inr ⟨hf.1, rfl⟩)

lemma Ok.stop :
    ({ a with started := false }).Ok b ∧ b.Ok { a with started := false } :=
  ⟨⟨ha.use, ha.excl, nofun, ha.one⟩, ⟨hb.use, hb.excl, hb.clear, hb.one⟩⟩

end

end View

namespace Dispr

variable {d d' : Dispr} {i : ℕ} {n : OpNode}

def exclusive (d : Dispr) (i : ℕ) : Bool := (d.tokenReqExPool i).req.exclusive

def view (d : Dispr) : View :=
  ⟨d.status.started, d.status.clearance, d.status.exclusiveUse, d.status.waitAbortMsgDone,
    d.curCmdReq.map d.exclusive, d.frontReqWithExclusiveOpt⟩

lemma front_congr (hwait : d'.tokenReqWaitQ = d.tokenReqWaitQ)
    (hexcl : ∀ i ∈ d.tokenReqWaitQ, d'.exclusive i = d.exclusive i) :
    d'.frontReqWithExclusiveOpt = d.frontReqWithExclusiveOpt := by
  dsimp only [frontReqWithExclusiveOpt]
  rw [hwait]
  cases hq : d.tokenReqWaitQ with
  | nil => rfl
  | cons i q => exact hexcl i (by rw [hq]; exact List.mem_cons_self)

lemma view_congr (hstatus : d'.status = d.status) (hcur : d'.curCmdReq = d.curCmdReq)
    (hwait : d'.tokenReqWaitQ = d.tokenReqWaitQ) (hexcl : d'.exclusive = d.exclusive) :
    d'.view = d.view := by
  have hfront : d'.frontReqWithExclusiveOpt = d.frontReqWithExclusiveOpt :=
    front_congr hwait fun i _ => congrFun hexcl i
  simp only [view, hstatus, hcur, hexcl, hfront]

lemma exclusive_modifyReq (d : Dispr) (i : ℕ) (f : TokenReqEx → TokenReqEx)
    (hf : (f (d.tokenReqExPool i)).req = (d.tokenReqExPool i).req) :
    (d.modifyReq i f).exclusive = d.exclusive := by
  funext j
  simp only [exclusive, pool_modifyReq]
  split
  · next hj => rw [hj, hf]
  · rfl

lemma exclusive_setReqStatus (d : Dispr) (i : ℕ) (f : ReqStatus → ReqStatus) :
    (d.setReqStatus i f).exclusive = d.exclusive := exclusive_modifyReq d i _ rfl

lemma exclusive_setOpInfo (d : Dispr) (n : OpNode) (info : TokenOpInfo) :
    (d.setOpInfo n info).exclusive = d.exclusive := by
  cases n with
  | addReqInfo i => exact exclusive_modifyReq d i (fun r => { r with addReqInfo := info }) rfl
  | freeReqInfo i => exact exclusive_modifyReq d i (fun r => { r with freeReqInfo := info }) rfl
  | renewReqInfo => rfl

lemma view_setReqStatus (d : Dispr) (i : ℕ) (f : ReqStatus → ReqStatus) :
    (d.setReqStatus i f).view = d.view :=
  view_congr rfl rfl rfl (exclusive_setReqStatus d i f)

lemma view_note (d : Dispr) (t : ℕ) (e : ReqEvent) : (d.note t e).view = d.view := rfl

lemma view_pushBackIdleReq (d : Dispr) (i : ℕ) : (d.pushBackIdleReq i).view = d.view :=
  view_congr rfl rfl rfl (exclusive_setReqStatus d i fun _ => {})

lemma view_opDone (d : Dispr) (n : OpNode) : (d.opDone n).view = d.view :=
  view_congr (opDone_status d n) (frame_setOpInfo d n _).cur (frame_setOpInfo d n _).wait
    (exclusive_setOpInfo d n _)

lemma view_pushBackTokenOpInfo (d : Dispr) (n : OpNode) (type : TokenOpType) (data : ℕ) :
    (d.pushBackTokenOpInfo n type data).2.view = d.view := by
  obtain ⟨hwait, hcur, -, hstatus⟩ := pushBackTokenOpInfo_quiet d n type data
  refine view_congr hstatus hcur hwait ?_
  dsimp only [pushBackTokenOpInfo]
  split
  · rfl
  · exact exclusive_setOpInfo d n _

lemma view_enqueueRenew (d : Dispr) : d.enqueueRenew.view = d.view :=
  view_pushBackTokenOpInfo ..

lemma view_registerCurCmdReq (hpop : d.popFrontWaitReq = some (i, d')) :
    ∃ f, ({ d' with status.notifyIdle := false }.registerCurCmdReq i).view =
      { d.view with cur := some d.view.front, front := f } := by
  dsimp only [popFrontWaitReq] at hpop
  split at hpop
  · cases hpop
  next j q hq =>
  cases hpop
  have hfront : d.frontReqWithExclusiveOpt = d.exclusive i := by
    rw [frontReqWithExclusiveOpt, hq]
    rfl
  have hexcl : exclusive (registerCurCmdReq
      { d.setReqStatus i ReqStatus.prepared with
        status := { d.status with notifyIdle := false }, tokenReqWaitQ := q } i) = d.exclusive :=
    (exclusive_setReqStatus _ i ReqStatus.running).trans
      (exclusive_setReqStatus d i ReqStatus.prepared)
  have hcur := congrArg some ((congrFun hexcl i).trans hfront.symm)
  exact ⟨_, congrArg (fun c => View.mk _ _ _ _ c _) hcur⟩

end Dispr

lemma other_other (b : HwBand) : other (other b) = b := by cases b <;> rfl

lemma other_ne (b : HwBand) : other b ≠ b := by cases b <;> exact nofun

namespace Engine

variable {w w' : Engine} {b c : HwBand} {n : OpNode} {i : ℕ}

/-! ## The handshake in the engine -/

structure Clear (w : Engine) : Prop where
  num : w.phyNum = 2
  ok : ∀ b, (w.dispr b).view.Ok (w.dispr (other b)).view

lemma Clear.has (h : w.Clear) (b : HwBand) : w.has b = true := by
  cases b <;> simp [Engine.has, h.num]

lemma Clear.of_views (hnum : w'.phyNum = 2) (b : HwBand) {va vb : View}
    (ha : (w'.dispr b).view = va) (hb : (w'.dispr (other b)).view = vb)
    (hok : va.Ok vb ∧ vb.Ok va) : w'.Clear := by
  refine ⟨hnum, fun c => ?_⟩
  by_cases hc : c = b
  · rw [hc, ha, hb]
    exact hok.1
  · have hcb : c = other b := by cases b <;> cases c <;> first | rfl | exact absurd rfl hc
    rw [hcb, other_other, ha, hb]
    exact hok.2

lemma Clear.both (h : w.Clear) (b : HwBand) :
    (w.dispr b).view.Ok (w.dispr (other b)).view ∧ (w.dispr (other b)).view.Ok (w.dispr b).view := by
  refine ⟨h.ok b, ?_⟩
  have hok := h.ok (other b)
  rwa [other_other] at hok

lemma Clear.modify (h : w.Clear) {f : Dispr → Dispr}
    (hf : (f (w.dispr b)).view = (w.dispr b).view) : (w.modify b f).Clear := by
  refine .of_views h.num b ?_ ?_ (h.both b)
  · rw [dispr_modify_self, hf]
  · rw [dispr_modify_of_ne w f (other_ne b)]

lemma Clear.goto (h : w.Clear) (pc : Pc) : (w.goto pc).Clear := ⟨h.num, h.ok⟩

lemma Clear.own (h : w.Clear) {f : Dispr → Dispr} {va : View}
    (hf : (f (w.dispr b)).view = va)
    (hok : va.Ok (w.dispr (other b)).view ∧ (w.dispr (other b)).view.Ok va) :
    (w.modify b f).Clear := by
  refine .of_views h.num b ?_ ?_ hok
  · rw [dispr_modify_self, hf]
  · rw [dispr_modify_of_ne w f (other_ne b)]

section

variable (hhas : w.has (other b) = true)
include hhas

lemma views_exclusiveReady :
    ((w.exclusiveReady (other b)).dispr b).view = (w.dispr b).view ∧
      ((w.exclusiveReady (other b)).dispr (other b)).view =
        { (w.dispr (other b)).view with exclusiveUse := true } := by
  dsimp only [exclusiveReady]
  split
  · rw [dispr_modify_of_ne _ _ (other_ne b).symm, dispr_modify_self, Dispr.view_enqueueRenew]
    exact ⟨rfl, rfl⟩
  · next huse =>
    rw [hhas, Bool.true_and, Bool.not_eq_true, Bool.not_eq_eq_eq_not, Bool.not_false] at huse
    refine ⟨rfl, ?_⟩
    simp only [Dispr.view, huse]

lemma views_clearanceAcquire :
    ((w.clearanceAcquire (other b)).dispr b).view = (w.dispr b).view ∧
      ((w.clearanceAcquire (other b)).dispr (other b)).view =
        { (w.dispr (other b)).view with clearance := true } := by
  rw [clearanceAcquire, if_pos hhas, dispr_modify_of_ne _ _ (other_ne b).symm, dispr_modify_self]
  exact ⟨rfl, rfl⟩

lemma views_clearanceRelease :
    ((w.clearanceRelease (other b)).dispr b).view = (w.dispr b).view ∧
      ((w.clearanceRelease (other b)).dispr (other b)).view =
        { (w.dispr (other b)).view with clearance := false } := by
  rw [clearanceRelease, if_pos hhas, dispr_modify_of_ne _ _ (other_ne b).symm, dispr_modify_self,
    Dispr.view_enqueueRenew]
  exact ⟨rfl, rfl⟩

end

lemma num_cmdTokenComplete (w : Engine) (b : HwBand) :
    (w.cmdTokenComplete b).phyNum = w.phyNum := by
  dsimp only [cmdTokenComplete, clearanceRelease, exclusiveReady]
  repeat' split
  all_goals rfl

lemma views_cmdTokenComplete (hnum : w.phyNum = 2) (b : HwBand) :
    ((w.cmdTokenComplete b).dispr b).view =
        (View.complete (w.dispr b).view (w.dispr (other b)).view).1 ∧
      ((w.cmdTokenComplete b).dispr (other b)).view =
        (View.complete (w.dispr b).view (w.dispr (other b)).view).2 := by
  have hhas {w : Engine} (hw : w.phyNum = 2) (b : HwBand) : w.has b = true := by
    cases b <;> simp [Engine.has, hw]
  have hready {w : Engine} (hw : w.phyNum = 2) :
      ((if (w.dispr b).status.clearance then w.exclusiveReady (other b) else w).dispr b).view =
          (w.dispr b).view ∧
        ((if (w.dispr b).status.clearance then w.exclusiveReady (other b) else w).dispr
            (other b)).view =
          if (w.dispr b).view.clearance then { (w.dispr (other b)).view with exclusiveUse := true }
          else (w.dispr (other b)).view := by
    by_cases hc : (w.dispr b).status.clearance = true
    · rw [if_pos hc, if_pos (show (w.dispr b).view.clearance = true from hc)]
      exact views_exclusiveReady (hhas hw (other b))
    · rw [if_neg hc, if_neg (show ¬(w.dispr b).view.clearance = true from hc)]
      exact ⟨rfl, rfl⟩
  dsimp only [cmdTokenComplete]
  rw [if_neg (by omega)]
  by_cases hu : (w.dispr b).status.exclusiveUse = true
  · rw [if_pos hu]
    have hw : ((w.modify b fun d => { d with status.exclusiveUse := false }).clearanceRelease
        (other b)).phyNum = 2 := by
      dsimp only [clearanceRelease]
      split <;> exact hnum
    obtain ⟨hra, hrb⟩ := views_clearanceRelease (b := b)
      (hhas (w := w.modify b fun d => { d with status.exclusiveUse := false }) hnum (other b))
    rw [dispr_modify_self] at hra
    rw [dispr_modify_of_ne _ _ (other_ne b)] at hrb
    obtain ⟨ha, hb⟩ := hready hw
    rw [hra] at ha hb
    rw [hrb] at hb
    rw [ha, hb]
    rw [View.complete, if_pos (show (w.dispr b).view.exclusiveUse = true from hu)]
    exact ⟨rfl, rfl⟩
  · rw [if_neg hu]
    obtain ⟨ha, hb⟩ := hready hnum
    rw [ha, hb]
    rw [View.complete, if_neg (show ¬(w.dispr b).view.exclusiveUse = true from hu)]
    exact ⟨rfl, rfl⟩

def Counted (w : Engine) (b : HwBand) : Prop :=
  (w.dispr b).tokenCnt = (w.dispr b).curCmdReq.toList.length

lemma cur_of_counted (h : w.Counted b) (hcnt : ¬0 < (w.dispr b).tokenCnt) :
    (w.dispr b).curCmdReq = none := by
  cases hc : (w.dispr b).curCmdReq with
  | none => rfl
  | some i =>
    rw [Counted, hc, toList_some, List.length_singleton] at h
    omega

/-! ## The thread at work -/

section

variable (h : w.Clear)
include h

lemma clear_endOp : (w.endOp b n).Clear :=
  (h.modify (Dispr.view_opDone _ n)).goto _

lemma clear_exclusiveReady (hclear : (w.dispr b).status.clearance = true)
    (hcur : (w.dispr b).curCmdReq = none) : (w.exclusiveReady (other b)).Clear := by
  have hnum : (w.exclusiveReady (other b)).phyNum = 2 :=
    ((harmless_exclusiveReady (other b)).quiet w).num.trans h.num
  obtain ⟨ha, hb⟩ := views_exclusiveReady (b := b) (h.has (other b))
  refine .of_views hnum b ha hb ((h.both b).1.ready (h.both b).2 hclear ?_)
  simp [Dispr.view, hcur]

lemma clear_processTokenReq (hcount : w.Counted b) :
    (w.processTokenReq b n).Clear := by
  dsimp only [processTokenReq]
  split
  · exact clear_endOp h
  next hstarted =>
  split
  · exact clear_endOp h
  split
  · exact clear_endOp h
  next hcnt =>
  have hcur := cur_of_counted hcount hcnt
  have hview : (w.dispr b).view.cur = none := by simp [Dispr.view, hcur]
  split
  · exact clear_endOp h
  next hwait =>
  split
  · next hclear => exact clear_endOp (clear_exclusiveReady h hclear hcur)
  next hclear =>
  rw [Bool.not_eq_true] at hwait hclear
  split
  · next hfront =>
    rw [Bool.and_eq_true, Bool.not_eq_eq_eq_not, Bool.not_true] at hfront
    obtain ⟨ha, hb⟩ := views_clearanceAcquire (b := b) (h.has (other b))
    have hnum : (w.clearanceAcquire (other b)).phyNum = 2 :=
      ((harmless_clearanceAcquire (other b)).quiet w).num.trans h.num
    exact clear_endOp (.of_views hnum b ha hb
      ((h.both b).1.acquire (h.both b).2 hfront.1 hview hclear hfront.2))
  next hfront =>
  split
  · exact clear_endOp (h.modify rfl)
  next i d hpop =>
  obtain ⟨f, hf⟩ := Dispr.view_registerCurCmdReq hpop
  refine (h.own hf ((h.both b).1.grant (h.both b).2 f ?_ hview hwait hclear fun hfr => ?_)).goto _
  · rwa [Bool.not_eq_true, Bool.not_eq_eq_eq_not, Bool.not_false] at hstarted
  · rw [Bool.and_eq_true, not_and] at hfront
    have huse := hfront hfr
    rwa [Bool.not_eq_true, Bool.not_eq_eq_eq_not, Bool.not_false] at huse

lemma clear_deregisterCurCmdReq (hcount : w.Counted b)
    (hcur : (w.dispr b).curCmdReq = some i) :
    (w.deregisterCurCmdReq b i).Clear ∧ (w.deregisterCurCmdReq b i).Counted b := by
  have hquiet := (harmless_deregisterComplete b).quiet (w.modify b fun d =>
    { d.pushBackIdleReq i with tokenCnt := d.tokenCnt - 1, curCmdReq := none })
  constructor
  · have hok := (h.both b).1.deregister (h.both b).2
    have hview : Dispr.view { (w.dispr b).pushBackIdleReq i with
        tokenCnt := (w.dispr b).tokenCnt - 1, curCmdReq := none } =
          { (w.dispr b).view with cur := none } := by
      rw [← Dispr.view_pushBackIdleReq (w.dispr b) i]
      rfl
    dsimp only [deregisterCurCmdReq, deregisterComplete]
    rw [dispr_modify_self]
    split
    · next hwait =>
      rw [if_pos (show (w.dispr b).view.waitAbort = true from hwait)] at hok
      exact h.own hview hok
    · next hwait =>
      rw [if_neg (show ¬(w.dispr b).view.waitAbort = true from hwait)] at hok
      obtain ⟨ha, hb⟩ := views_cmdTokenComplete (w := w.modify b fun d =>
        { d.pushBackIdleReq i with tokenCnt := d.tokenCnt - 1, curCmdReq := none }) h.num b
      rw [dispr_modify_self, hview, dispr_modify_of_ne _ _ (other_ne b)] at ha hb
      exact .of_views ((num_cmdTokenComplete _ b).trans h.num) b ha hb hok
  · rw [Counted, hcur, toList_some, List.length_singleton] at hcount
    rw [Counted, deregisterCurCmdReq, hquiet.cnt, hquiet.cur, dispr_modify_self]
    change (w.dispr b).tokenCnt - 1 = 0
    rw [hcount]

lemma clear_deregisterComplete (hcur : (w.dispr b).curCmdReq = none) :
    (w.deregisterComplete b).Clear := by
  have hok := (h.both b).1.deregister (h.both b).2
  have hview : { (w.dispr b).view with cur := none } = (w.dispr b).view := by
    simp [Dispr.view, hcur]
  rw [hview] at hok
  dsimp only [deregisterComplete]
  split
  · exact h
  · next hwait =>
    rw [if_neg (show ¬(w.dispr b).view.waitAbort = true from hwait)] at hok
    obtain ⟨ha, hb⟩ := views_cmdTokenComplete h.num b
    exact .of_views ((num_cmdTokenComplete _ b).trans h.num) b ha hb hok

lemma clear_onAbortMsgComplete (hcur : (w.dispr b).curCmdReq = none) :
    (w.onAbortMsgComplete b).Clear := by
  have hok := (h.both b).1.abortDone (h.both b).2 (by simp [Dispr.view, hcur])
  obtain ⟨ha, hb⟩ := views_cmdTokenComplete (w := w.modify b fun d =>
    { d with abortMsgs := d.abortMsgs - 1, status.waitAbortMsgDone := false }) h.num b
  rw [dispr_modify_self, dispr_modify_of_ne _ _ (other_ne b)] at ha hb
  have hdone : ((w.modify b fun d => { d with
      abortMsgs := d.abortMsgs - 1, status.waitAbortMsgDone := false }).cmdTokenComplete b).Clear :=
    .of_views ((num_cmdTokenComplete _ b).trans h.num) b ha hb hok
  exact hdone.modify (Dispr.view_enqueueRenew _)

end

lemma counted_deregisterComplete (hcount : w.Counted b) :
    (w.deregisterComplete b).Counted b := by
  have hquiet := (harmless_deregisterComplete b).quiet w
  rw [Counted, hquiet.cnt, hquiet.cur]
  exact hcount

/-- A cancelled request that waits is not the exclusive one at the front for which the
other dispatcher is held, unless another exclusive one follows it. -/
def KeepsClaim (w : Engine) (b : HwBand) (i : ℕ) : Prop :=
  (w.dispr (other b)).status.clearance = true → (w.dispr b).curCmdReq = none →
    ¬((w.dispr b).status.exclusiveUse = true ∧ (w.dispr b).status.waitAbortMsgDone = true) →
    (w.dispr b).tokenReqWaitQ.head? = some i →
    ∃ j, (w.dispr b).tokenReqWaitQ[1]? = some j ∧ (w.dispr b).exclusive j = true

lemma Clear.erase (h : w.Clear) (hkeep : w.KeepsClaim b i) {f : Dispr → Dispr}
    (hf : (f (w.dispr b)).view =
      Dispr.view { w.dispr b with tokenReqWaitQ := (w.dispr b).tokenReqWaitQ.erase i }) :
    (w.modify b f).Clear := by
  refine h.own (hf.trans rfl) ((h.both b).1.front (h.both b).2 _ fun hs hclear hfront => ?_)
  have hcur := ((h.both b).1.clear hs hclear).2
  cases hc : (w.dispr b).curCmdReq with
  | some j =>
    right
    left
    simp only [Dispr.view, hc, map_some] at hcur ⊢
    cases he : (w.dispr b).exclusive j with
    | true => rfl
    | false => exact absurd (congrArg some he) hcur
  | none =>
    by_cases huse : (w.dispr b).status.exclusiveUse = true ∧
        (w.dispr b).status.waitAbortMsgDone = true
    · exact .inr (.inr huse)
    left
    have hkept := hkeep hclear hc huse
    change (w.dispr b).frontReqWithExclusiveOpt = true at hfront
    cases hq : (w.dispr b).tokenReqWaitQ with
    | nil =>
      rw [Dispr.frontReqWithExclusiveOpt, hq] at hfront
      cases hfront
    | cons j q =>
      rw [hq] at hkept
      by_cases hij : j = i
      · obtain ⟨k, hk, hexcl⟩ := hkept (congrArg some hij)
        rw [hij, List.erase_cons_head]
        cases q with
        | nil => cases hk
        | cons l q =>
          cases hk
          exact hexcl
      · rw [List.erase_cons_tail (by simpa using hij)]
        rw [Dispr.frontReqWithExclusiveOpt, hq] at hfront
        exact hfront

lemma clear_handleTokenOpInfo (h : w.Clear) (hcount : w.Counted b)
    (hkeep : ((w.dispr b).opInfo n).type = some .cancelCmdReq →
      ((w.dispr b).tokenReqExPool ((w.dispr b).opInfo n).data).status.enq = true →
      w.KeepsClaim b ((w.dispr b).opInfo n).data) : (w.handleTokenOpInfo b n).Clear := by
  dsimp only [handleTokenOpInfo]
  split
  · exact clear_processTokenReq h hcount
  · exact clear_processTokenReq h hcount
  · split
    · exact clear_endOp h
    split
    · exact clear_endOp h
    split
    · next hcur =>
      exact clear_processTokenReq (clear_deregisterComplete h hcur)
        (counted_deregisterComplete hcount)
    · next i hcur =>
      have hnote : (w.modify b fun d => d.note (d.ticket i) .freed).Clear := h.modify rfl
      have hcount' : (w.modify b fun d => d.note (d.ticket i) .freed).Counted b := by
        rw [Counted, dispr_modify_self]
        exact hcount
      obtain ⟨hclear, hcounted⟩ := clear_deregisterCurCmdReq hnote hcount'
        (by rw [dispr_modify_self]; exact hcur)
      exact clear_processTokenReq hclear hcounted
  · next htype =>
    split
    · exact clear_endOp h
    have hset : (w.modify b fun d => d.setReqStatus ((w.dispr b).opInfo n).data
        fun s => { s with cancel := true }).Clear := h.modify (Dispr.view_setReqStatus _ _ _)
    have hcounted : (w.modify b fun d => d.setReqStatus ((w.dispr b).opInfo n).data
        fun s => { s with cancel := true }).Counted b := by
      rw [Counted, dispr_modify_self]
      exact hcount
    split
    · next henq =>
      rw [dispr_modify_self, Dispr.status_setReqStatus, if_pos rfl] at henq
      have hkept := hkeep htype henq
      refine (hset.erase (i := ((w.dispr b).opInfo n).data) ?_ rfl).goto _
      intro hc hcur huse hhead
      rw [dispr_modify_of_ne _ _ (other_ne b)] at hc
      rw [dispr_modify_self] at hcur huse hhead ⊢
      rw [Dispr.exclusive_setReqStatus]
      exact hkept hc hcur huse hhead
    split
    · split
      · next hcur =>
        exact clear_processTokenReq (clear_deregisterComplete hset hcur)
          (counted_deregisterComplete hcounted)
      · next i hcur =>
        refine (hset.modify ?_).goto _
        exact (Dispr.view_note _ _ _).trans (Dispr.view_setReqStatus _ i _)
    · exact clear_endOp hset
  · exact clear_endOp h

/-! ## Turns of the thread -/

lemma counted_of_inv (h : w.Inv) (hc : w.Clear) (b : HwBand) : w.Counted b :=
  (h.lawful b (hc.has b)).queues.count

def NextKeepsClaim (w : Engine) (b : HwBand) : Prop :=
  ∀ n q, (w.dispr b).tokenOpQ = n :: q →
    ((w.dispr b).opInfo n).type = some .cancelCmdReq →
    ((w.dispr b).tokenReqExPool ((w.dispr b).opInfo n).data).status.enq = true →
    w.KeepsClaim b ((w.dispr b).opInfo n).data

section

variable (hc : w.Clear)
include hc

lemma clear_nextTokenOp (hcount : w.Counted b) (hkeep : w.NextKeepsClaim b) :
    (w.nextTokenOp b).Clear := by
  dsimp only [nextTokenOp, Dispr.popFrontTokenOpInfo]
  cases hq : (w.dispr b).tokenOpQ with
  | nil => exact hc.goto _
  | cons n q =>
    have hinfo (m : OpNode) : ({ w.dispr b with tokenOpQ := q } : Dispr).opInfo m =
        (w.dispr b).opInfo m := by cases m <;> rfl
    refine clear_handleTokenOpInfo (hc.modify rfl) ?_ ?_
    · rw [Counted, dispr_modify_self]
      exact hcount
    · rw [dispr_modify_self, hinfo]
      intro htype henq hclear hcur huse hhead
      rw [dispr_modify_of_ne _ _ (other_ne b)] at hclear
      rw [dispr_modify_self] at hcur huse hhead ⊢
      exact hkeep n q hq htype henq hclear hcur huse hhead

lemma clear_deregisterNotify (i : ℕ) : (w.deregisterNotify b i).Clear :=
  hc.modify ((Dispr.view_note _ _ _).trans (Dispr.view_setReqStatus _ i _))

lemma clear_threadLeave : (w.threadLeave b).Clear := by
  dsimp only [threadLeave]
  split
  · next hcur => exact (clear_deregisterComplete hc hcur).goto _
  · next i _ =>
    have hstop : (w.modify b fun d =>
        { d with stopAborted := d.stopAborted ++ [d.ticket i] }).Clear := hc.modify rfl
    exact (clear_deregisterNotify hstop i).goto _

lemma clear_clearWatingReq (hs : (w.dispr b).status.started = false) :
    (w.clearWatingReq b).Clear := by
  dsimp only [clearWatingReq, Dispr.popFrontWaitReq]
  split
  · split
    · exact clear_threadLeave hc
    · exact hc.goto _
  cases hq : (w.dispr b).tokenReqWaitQ with
  | nil => exact hc
  | cons i q =>
    have hview : Dispr.view { (w.dispr b).setReqStatus i ReqStatus.prepared with
        tokenReqWaitQ := q } = { (w.dispr b).view with
          front := Dispr.frontReqWithExclusiveOpt
            { (w.dispr b).setReqStatus i ReqStatus.prepared with tokenReqWaitQ := q } } := by
      simp only [Dispr.view]
      congr 2
      exact Dispr.exclusive_setReqStatus _ i _
    refine (hc.own hview ((hc.both b).1.front (hc.both b).2 _ fun hstarted => ?_)).goto _
    rw [show (w.dispr b).view.started = false from hs] at hstarted
    cases hstarted

end

lemma clear_turn (h : w.Inv) (hc : w.Clear) (fail : Bool)
    (hkeep : ∀ b, w.pc = .ops b → w.NextKeepsClaim b) : (w.turn fail).Clear := by
  have hcount (b : HwBand) : w.Counted b := counted_of_inv h hc b
  dsimp only [turn]
  split
  · next b hpc => exact clear_nextTokenOp hc (hcount b) (hkeep b hpc)
  · next b i n hpc =>
    split
    · have hfail : (w.modify b fun d =>
          (d.setReqStatus i fun s => { s with run := false }).note (d.ticket i) .failed).Clear :=
        hc.modify ((Dispr.view_note _ _ _).trans (Dispr.view_setReqStatus _ i _))
      obtain ⟨hclear, hcounted⟩ := clear_deregisterCurCmdReq (b := b) (i := i) hfail
        (by rw [Counted, dispr_modify_self]; exact hcount b)
        (by rw [dispr_modify_self]; exact h.cur b i n hpc)
      exact clear_processTokenReq hclear hcounted
    · exact clear_endOp hc
  · next b i n _ => exact clear_endOp (hc.modify (Dispr.view_pushBackIdleReq _ i))
  · next b n _ =>
    split
    · next hcur =>
      exact clear_processTokenReq (clear_deregisterComplete hc hcur)
        (counted_deregisterComplete (hcount b))
    · next i hcur =>
      obtain ⟨hclear, hcounted⟩ := clear_deregisterCurCmdReq hc (hcount b) hcur
      exact clear_processTokenReq hclear hcounted
  · next b _ =>
    split
    · next hcur => exact (clear_deregisterComplete hc hcur).goto _
    · next i hcur => exact (clear_deregisterCurCmdReq hc (hcount b) hcur).1.goto _
  · next b hpc =>
    dsimp only [clearWaitingMsg]
    split
    · exact hc.goto _
    · exact clear_onAbortMsgComplete hc (h.gone b 0 (.inl hpc))
  · next b hpc => exact clear_clearWatingReq hc (h.stopped (by rw [hpc]; rfl) b)
  · next b i _ => exact (hc.modify (Dispr.view_pushBackIdleReq _ i)).goto _
  · exact hc
  · exact hc

/-! ## Calls -/

lemma clear_addTokenReq (hc : w.Clear) (hq : (w.dispr b).Queues (w.pc.hold b).slot)
    (exclusive : Bool) : (w.call (.add b exclusive)).Clear := by
  have hsame (hsame : ((w.dispr b).addTokenReq exclusive).2 = w.dispr b) :
      (w.call (.add b exclusive)).Clear :=
    hc.modify (f := fun d => (d.addTokenReq exclusive).2) (congrArg Dispr.view hsame)
  have heq := Dispr.addTokenReq_eq (w.dispr b) exclusive
  split at heq
  · exact hsame heq
  cases hidle : (w.dispr b).tokenReqIdleQ with
  | nil =>
    rw [hidle] at heq
    exact hsame heq
  | cons i q =>
    rw [hidle] at heq
    dsimp only at heq
    obtain ⟨hwait, hcur⟩ := hq.front_idle hidle
    have hother (j : ℕ) (hj : j ≠ i) :
        ((w.dispr b).withReq i q exclusive).exclusive j = (w.dispr b).exclusive j := by
      simp [Dispr.exclusive, Dispr.withReq, hj]
    have hcurView : ((w.dispr b).withReq i q exclusive).curCmdReq.map
        ((w.dispr b).withReq i q exclusive).exclusive =
          (w.dispr b).curCmdReq.map (w.dispr b).exclusive := by
      change (w.dispr b).curCmdReq.map _ = _
      cases hc : (w.dispr b).curCmdReq with
      | none => rfl
      | some j =>
        rw [map_some, map_some, hother j]
        rintro rfl
        exact hcur hc
    have hview : ((w.dispr b).addTokenReq exclusive).2.view = { (w.dispr b).view with
        front := ((w.dispr b).withReq i q exclusive).frontReqWithExclusiveOpt } := by
      rw [heq, Dispr.view_pushBackTokenOpInfo]
      exact congrArg (fun c => View.mk _ _ _ _ c _) hcurView
    refine hc.own (f := fun d => (d.addTokenReq exclusive).2) hview
      ((hc.both b).1.front (hc.both b).2 _ fun _ _ hfront => .inl ?_)
    -- the first waiting request was exclusive, so there was one, and it is first still
    change (w.dispr b).frontReqWithExclusiveOpt = true at hfront
    cases hw : (w.dispr b).tokenReqWaitQ with
    | nil =>
      rw [Dispr.frontReqWithExclusiveOpt, hw] at hfront
      cases hfront
    | cons j q' =>
      have hji : j ≠ i := by
        rintro rfl
        exact hwait (by simp [hw])
      have hfirst : ((w.dispr b).withReq i q exclusive).tokenReqWaitQ = j :: (q' ++ [i]) := by
        rw [← List.cons_append, ← hw]
        rfl
      rw [Dispr.frontReqWithExclusiveOpt, hw] at hfront
      rw [Dispr.frontReqWithExclusiveOpt, hfirst]
      exact (hother j hji).trans hfront

lemma clear_call (h : w.Inv) (hc : w.Clear) (c : Call) : (w.call c).Clear := by
  cases c with
  | add b exclusive => exact clear_addTokenReq hc (h.lawful b (hc.has b)).queues exclusive
  | cancel b i =>
    refine hc.modify (f := fun d => (d.cancelTokenReq i).2) ?_
    dsimp only [Dispr.cancelTokenReq]
    split
    · rfl
    split
    · rfl
    split
    · rfl
    · exact Dispr.view_pushBackTokenOpInfo ..
  | free b i =>
    refine hc.modify (f := fun d => (d.freeToken i).2) ?_
    dsimp only [Dispr.freeToken]
    split
    · rfl
    split
    · rfl
    split
    · rfl
    · exact (Dispr.view_pushBackTokenOpInfo ..).trans (Dispr.view_setReqStatus _ i _)
  | sendInAbort b =>
    have heq : (w.dispr b).sendInAbort = w.dispr b ∨ (w.dispr b).sendInAbort.view =
        { (w.dispr b).view with waitAbort := true } := by
      dsimp only [Dispr.sendInAbort]
      split
      · exact .inl rfl
      split
      · exact .inl rfl
      split
      · exact .inr rfl
      · exact .inl rfl
    rcases heq with heq | heq
    · exact hc.modify (congrArg Dispr.view heq)
    · exact hc.own heq ((hc.both b).1.sendInAbort (hc.both b).2)
  | shallStop b => exact hc.modify (f := fun d => { d with status.shallStop := true }) rfl
  | stopPrior b =>
    by_cases hs : (w.dispr b).status.started = true
    · have hexcl (d : Dispr) : d.cancelAllCmdReq.exclusive = d.exclusive := by
        funext i
        dsimp only [Dispr.exclusive, Dispr.cancelAllCmdReq]
        split <;> rfl
      have hview : (w.dispr b).threadStopPrior.view =
          { (w.dispr b).view with started := false } := by
        rw [Dispr.threadStopPrior, if_pos hs]
        exact Dispr.view_congr (d := { w.dispr b with status.started := false }) rfl rfl rfl
          (hexcl _)
      exact hc.own hview ((hc.both b).1.stop (hc.both b).2)
    · refine hc.modify (f := Dispr.threadStopPrior) ?_
      rw [Dispr.threadStopPrior, if_neg hs]

/-! ## Runs -/

lemma clear_start (hnum : w.phyNum = 2) (hcur : ∀ b, (w.dispr b).curCmdReq = none) :
    w.start.Clear := by
  have hhas (b : HwBand) : w.has b = true := by cases b <;> simp [Engine.has, hnum]
  have hview (b : HwBand) : (w.start.dispr b).view = ⟨true, false, false, false, none, false⟩ := by
    dsimp only [start]
    rw [if_neg (by omega)]
    change Dispr.view (if w.has b = true then (w.dispr b).restart else w.dispr b) = _
    rw [if_pos (hhas b)]
    simp only [Dispr.view, Dispr.restart, hcur b]
    rfl
  refine ⟨?_, fun b => ?_⟩
  · dsimp only [start]
    rw [if_neg (by omega)]
    exact hnum
  · rw [hview, hview]
    constructor <;> simp

def ClearSteps (w : Engine) : Event → Prop
  | .turn _ => ∀ b, w.pc = .ops b → w.NextKeepsClaim b
  | .abortMsgDone b => (w.dispr b).curCmdReq = none
  | _ => True

def ExclusiveSteps (w : Engine) (e : Event) : Prop := w.FreshSlots e ∧ w.ClearSteps e

lemma clear_step (h : w.Inv) (hc : w.Clear) (e : Event) (he : w.ClearSteps e) :
    (w.step e).Clear := by
  cases e with
  | call c => exact clear_call h hc c
  | enter b =>
    dsimp only [step]
    split
    · dsimp only [tokenOpHanler]
      split
      · next hidle =>
        rw [Bool.and_eq_true, Bool.and_eq_true, decide_eq_true_eq] at hidle
        refine clear_exclusiveReady hc hidle.1.1 (cur_of_counted (counted_of_inv h hc b) ?_)
        omega
      · exact hc.goto _
    · exact hc
  | turn fail => exact clear_turn h hc fail he
  | abortMsgDone b =>
    dsimp only [step]
    split
    · exact clear_onAbortMsgComplete hc he
    · exact hc
  | leave =>
    dsimp only [step]
    split
    · exact clear_threadLeave hc
    · exact hc
  | restart =>
    dsimp only [step]
    split
    · next hpc =>
      exact clear_start hc.num fun b => (h.ended b (hc.has b) (by rw [hpc]; rfl)).2
    · exact hc

def Claiming (d : Dispr) : Prop :=
  d.frontReqWithExclusiveOpt = true ∨ (∃ i, d.curCmdReq = some i ∧ d.exclusive i = true) ∨
    d.status.exclusiveUse = true ∧ d.status.waitAbortMsgDone = true

/-- While an exclusive command of band `b` holds its token, the other band has none, and
only for a claim of band `b`, once started, is the other dispatcher held. -/
structure Exclusion (w : Engine) (b : HwBand) : Prop where
  alone : ∀ i, (w.dispr b).curCmdReq = some i → (w.dispr b).exclusive i = true →
    (w.dispr (other b)).curCmdReq = none
  claimed : (w.dispr b).status.started = true →
    (w.dispr (other b)).status.clearance = true → Claiming (w.dispr b)

lemma Clear.exclusion (h : w.Clear) (b : HwBand) : w.Exclusion b := by
  have hok := h.ok b
  refine ⟨fun i hcur hexcl => ?_, fun hs hclear => ?_⟩
  · have hview : (w.dispr b).view.cur = some true := by simp [Dispr.view, hcur, hexcl]
    have hnone := (hok.use (hok.excl hview)).2
    exact map_eq_none_iff.1 hnone
  · rcases (hok.clear hs hclear).1 with hfront | hcur | huse
    · exact .inl hfront
    · obtain ⟨i, hi, hexcl⟩ := map_eq_some_iff.1 hcur
      exact .inr (.inl ⟨i, hi, hexcl⟩)
    · exact .inr (.inr huse)

theorem exclusive_commands_exclude {es : List Event}
    (hes : Guarded step ExclusiveSteps (init 2) es) (b : HwBand) :
    (run step (init 2) es).Exclusion b := by
  have hstep : ∀ w e, w.Inv ∧ w.Clear → ExclusiveSteps w e → (step w e).Inv ∧ (step w e).Clear :=
    fun _ e hw he => ⟨inv_step hw.1 e he.1, clear_step hw.1 hw.2 e he.2⟩
  have hinit : (init 2).Inv ∧ (init 2).Clear := ⟨inv_init 2, clear_start rfl fun _ => rfl⟩
  exact (Guarded.invariant hstep hinit hes).2.exclusion b

/-- Band 0 asks for an exclusive command, band 1 is cleared and answers, and the token is
granted. -/
theorem exclusive_commands_exclude_granted :
    ∃ es, Guarded step ExclusiveSteps (init 2) es ∧
      ((run step (init 2) es).dispr .band0).curCmdReq = some 0 ∧
      ((run step (init 2) es).dispr .band0).exclusive 0 = true ∧
      ((run step (init 2) es).dispr .band1).status.clearance = true ∧
      (run step (init 2) es).Exclusion .band0 := by
  have hfresh (i : ℕ) (q : List ℕ) : OpNode.addReqInfo i ∉ ([] : List OpNode) ++ [] ∧
      OpNode.freeReqInfo i ∉ ([] : List OpNode) ++ [] := by simp
  have hes : Guarded step ExclusiveSteps (init 2)
      [.call (.add .band0 true), .enter .band0, .turn false, .turn false, .enter .band1,
        .enter .band0, .turn false] := by
    refine ⟨⟨fun _ _ i q _ => hfresh i q, trivial⟩, ⟨trivial, trivial⟩, ⟨trivial, ?_⟩,
      ⟨trivial, ?_⟩, ⟨trivial, trivial⟩, ⟨trivial, trivial⟩, ⟨trivial, ?_⟩, trivial⟩
    · rintro b hb n q hq htype
      cases hb
      cases hq
      cases htype
    · rintro b hb n q hq htype
      cases hb
      cases hq
    · rintro b hb n q hq htype
      cases hb
      cases hq
      cases htype
  exact ⟨_, hes, by decide, by decide, by decide, exclusive_commands_exclude hes .band0⟩

/-- An exclusive request of band 0 is cancelled while it waits for band 1 to be clear:
band 1 stays held, and what it is asked for afterwards never runs. -/
theorem cancelled_exclusive_blocks_other_band :
    ∃ es, ((run step (init 2) es).dispr .band0).status.started = true ∧
      ((run step (init 2) es).dispr .band0).tokenReqWaitQ = [] ∧
      ((run step (init 2) es).dispr .band0).curCmdReq = none ∧
      ((run step (init 2) es).dispr .band0).tokenOpQ = [] ∧
      ((run step (init 2) es).dispr .band0).abortMsgs = 0 ∧
      ((run step (init 2) es).dispr .band1).status.clearance = true ∧
      ((run step (init 2) es).dispr .band1).tokenReqWaitQ ≠ [] ∧
      ((run step (init 2) es).dispr .band1).curCmdReq = none ∧
      ((run step (init 2) es).dispr .band1).tokenOpQ = [] ∧
      ¬(run step (init 2) es).Exclusion .band0 := by
  refine ⟨[.call (.add .band1 false), .enter .band1, .turn false, .turn false, .turn false,
    .call (.add .band0 true), .enter .band0, .turn false, .turn false,
    .call (.cancel .band0 0), .enter .band0, .turn false, .turn false, .turn false,
    .call (.free .band1 0), .enter .band1, .turn false, .turn false,
    .call (.add .band1 false), .enter .band1, .turn false, .turn false,
    .enter .band0, .turn false, .turn false], by decide, by decide, by decide, by decide, by decide,
    by decide, by decide, by decide, by decide, fun h => ?_⟩
  rcases h.claimed (by decide) (by decide) with hfront | ⟨i, hcur, -⟩ | ⟨-, hwait⟩
  · exact absurd hfront (by decide)
  · exact absurd hcur.symm (some_ne_none i)
  · exact absurd hwait (by decide)

end Engine

end Rtl8831.Phl.CmdDispr
