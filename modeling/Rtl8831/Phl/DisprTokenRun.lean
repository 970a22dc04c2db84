import Rtl8831.Phl.DisprTokenInv

/-!
# The life of command requests

The facts of `DisprTokenInv` hold of every dispatcher of the engine after every run
in which no addition takes a slot with an operation under way: its two nodes would be
zeroed while they are linked.
-/

namespace Rtl8831.Phl.CmdDispr

open Function

open Lib (run Guarded)

/-- Only the dispatcher of band `b` has something in hand. -/
def Hold.on (b : HwBand) (x : Hold) : HwBand → Hold := update (fun _ => {}) b x

namespace Pc

def hold : Pc → HwBand → Hold
  | .acquired b _ n => Hold.on b { op := some n }
  | .abortWait b i n => Hold.on b { slot := some i, op := some n }
  | .abortCur b n => Hold.on b { ending := some .aborted, op := some n }
  | .leaveCur b => Hold.on b { ending := some .aborted }
  | .leaveAbort b i => Hold.on b { slot := some i }
  | _ => fun _ => {}

def band : Pc → Option HwBand
  | .loop => none
  | .ops b => some b
  | .acquired b _ _ => some b
  | .abortWait b _ _ => some b
  | .abortCur b _ => some b
  | .leaveCur b => some b
  | .leaveMsgs b => some b
  | .leaveReqs b => some b
  | .leaveAbort b _ => some b
  | .down => none

def leaving : Pc → Bool
  | .leaveCur _ => true
  | .leaveMsgs _ => true
  | .leaveReqs _ => true
  | .leaveAbort _ _ => true
  | .down => true
  | _ => false

/-- The thread has left the dispatcher of band `b`. -/
def passed (pc : Pc) (b : HwBand) : Bool :=
  match pc with
  | .down => true
  | pc => pc.leaving && decide (pc.band = some (other b)) && decide (b = .band0)

lemma leaving_of_passed {pc : Pc} {b : HwBand} (h : pc.passed b = true) :
    pc.leaving = true := by
  cases pc <;> first | rfl | simp [passed, leaving] at h

lemma passed_iff {pc : Pc} {b c : HwBand} (hband : pc.band = some c) :
    pc.passed b = true ↔ pc.leaving = true ∧ c = other b ∧ b = .band0 := by
  cases pc with
  | down => cases hband
  | loop => cases hband
  | _ =>
    cases hband
    simp [passed, leaving, band]

end Pc

namespace Engine

variable {w : Engine} {x : HwBand → Hold} {b c : HwBand} {n : OpNode} {i : ℕ}

def AllLawful (w : Engine) (x : HwBand → Hold) : Prop :=
  ∀ b, w.has b = true → (w.dispr b).Lawful (x b)

def Over (d : Dispr) : Prop := d.tokenReqWaitQ = [] ∧ d.curCmdReq = none

def Absent (w : Engine) : Prop := ∀ b, w.has b = false → (w.dispr b).status.started = false

structure Inv (w : Engine) : Prop where
  lawful : w.AllLawful w.pc.hold
  absent : w.Absent
  band : ∀ b, w.pc.band = some b → w.has b = true
  cur : ∀ b i n, w.pc = .acquired b i n → (w.dispr b).curCmdReq = some i
  stopped : w.pc.leaving = true → ∀ b, (w.dispr b).status.started = false
  gone : ∀ b i, w.pc = .leaveMsgs b ∨ w.pc = .leaveReqs b ∨ w.pc = .leaveAbort b i →
    (w.dispr b).curCmdReq = none
  ended : ∀ b, w.has b = true → w.pc.passed b = true → Over (w.dispr b)

/-! ## Updates of one dispatcher -/

@[simp] lemma has_modify (w : Engine) (b c : HwBand) (f : Dispr → Dispr) :
    (w.modify b f).has c = w.has c := by cases c <;> rfl

@[simp] lemma has_goto (w : Engine) (pc : Pc) (c : HwBand) :
    (w.goto pc).has c = w.has c := by cases c <;> rfl

@[simp] lemma dispr_modify_self (w : Engine) (b : HwBand) (f : Dispr → Dispr) :
    (w.modify b f).dispr b = f (w.dispr b) := update_self ..

lemma dispr_modify_of_ne (w : Engine) (f : Dispr → Dispr) (h : c ≠ b) :
    (w.modify b f).dispr c = w.dispr c := update_of_ne h ..

@[simp] lemma dispr_goto (w : Engine) (pc : Pc) : (w.goto pc).dispr = w.dispr := rfl

lemma AllLawful.modify {y : HwBand → Hold} (h : w.AllLawful x) {f : Dispr → Dispr}
    (hf : w.has b = true → (f (w.dispr b)).Lawful (y b)) (hy : ∀ c, c ≠ b → y c = x c) :
    (w.modify b f).AllLawful y := by
  intro c hc
  rw [has_modify] at hc
  by_cases hcb : c = b
  · subst hcb
    rw [dispr_modify_self]
    exact hf hc
  · rw [dispr_modify_of_ne w f hcb, hy c hcb]
    exact h c hc

lemma AllLawful.keep (h : w.AllLawful x) {f : Dispr → Dispr}
    (hf : ∀ d y, d.Lawful y → (f d).Lawful y) : (w.modify b f).AllLawful x :=
  h.modify (fun hb => hf _ _ (h b hb)) fun _ _ => rfl

lemma AllLawful.move {y z : Hold} (h : w.AllLawful (Hold.on b y)) {f : Dispr → Dispr}
    (hf : w.has b = true → (w.dispr b).Lawful y → (f (w.dispr b)).Lawful z) :
    (w.modify b f).AllLawful (Hold.on b z) := by
  refine h.modify (fun hb => ?_) fun c hc => by simp [Hold.on, hc]
  have hold := h b hb
  simp only [Hold.on, update_self] at hold ⊢
  exact hf hb hold

lemma Hold.on_empty (b : HwBand) : Hold.on b {} = fun _ => {} := by
  funext c
  by_cases hc : c = b
  · subst hc
    simp [Hold.on]
  · simp [Hold.on, hc]

/-! ## What touches the other dispatcher -/

structure Quiet (w w' : Engine) : Prop where
  num : w'.phyNum = w.phyNum
  pc : w'.pc = w.pc
  wait : ∀ b, (w'.dispr b).tokenReqWaitQ = (w.dispr b).tokenReqWaitQ
  cur : ∀ b, (w'.dispr b).curCmdReq = (w.dispr b).curCmdReq
  cnt : ∀ b, (w'.dispr b).tokenCnt = (w.dispr b).tokenCnt
  started : ∀ b, (w'.dispr b).status.started = (w.dispr b).status.started

lemma Quiet.refl (w : Engine) : Quiet w w :=
  ⟨rfl, rfl, fun _ => rfl, fun _ => rfl, fun _ => rfl, fun _ => rfl⟩

lemma Quiet.trans {w₁ w₂ w₃ : Engine} (h : Quiet w₁ w₂) (k : Quiet w₂ w₃) : Quiet w₁ w₃ :=
  ⟨k.num.trans h.num, k.pc.trans h.pc, fun b => (k.wait b).trans (h.wait b),
    fun b => (k.cur b).trans (h.cur b), fun b => (k.cnt b).trans (h.cnt b),
    fun b => (k.started b).trans (h.started b)⟩

lemma Quiet.has {w w' : Engine} (h : Quiet w w') (b : HwBand) : w'.has b = w.has b := by
  cases b <;> simp only [Engine.has, h.num]

lemma quiet_modify (w : Engine) (b : HwBand) {f : Dispr → Dispr}
    (hwait : (f (w.dispr b)).tokenReqWaitQ = (w.dispr b).tokenReqWaitQ)
    (hcur : (f (w.dispr b)).curCmdReq = (w.dispr b).curCmdReq)
    (hcnt : (f (w.dispr b)).tokenCnt = (w.dispr b).tokenCnt)
    (hstarted : (f (w.dispr b)).status.started = (w.dispr b).status.started) :
    Quiet w (w.modify b f) := by
  refine ⟨rfl, rfl, fun c => ?_, fun c => ?_, fun c => ?_, fun c => ?_⟩ <;>
  · by_cases hc : c = b
    · subst hc
      rwa [dispr_modify_self]
    · rw [dispr_modify_of_ne w f hc]

structure Harmless (f : Engine → Engine) : Prop where
  quiet : ∀ w, Quiet w (f w)
  lawful : ∀ w x, w.AllLawful x → (f w).AllLawful x

lemma Harmless.both {f : Engine → Engine} (hf : Harmless f) (h : w.AllLawful x) :
    (f w).AllLawful x ∧ Quiet w (f w) := ⟨hf.lawful w x h, hf.quiet w⟩

variable (d : Dispr) {f g : Engine → Engine} {p : Pc}

lemma Harmless.comp (hf : Harmless f) (hg : Harmless g) :
    Harmless fun w => g (f w) :=
  ⟨fun w => (hf.quiet w).trans (hg.quiet (f w)), fun w x h => hg.lawful _ x (hf.lawful w x h)⟩

lemma harmless_id : Harmless fun w => w := ⟨fun w => .refl w, fun _ _ h => h⟩

lemma Harmless.ite {p : Engine → Prop} [DecidablePred p]
    (hf : Harmless f) (hg : Harmless g) : Harmless fun w => if p w then f w else g w := by
  refine ⟨fun w => ?_, fun w x h => ?_⟩
  · split
    · exact hf.quiet w
    · exact hg.quiet w
  · split
    · exact hf.lawful w x h
    · exact hg.lawful w x h

lemma harmless_renew (b : HwBand) (s : DisprStatus → DisprStatus)
    (hs : ∀ t, (s t).started = t.started) :
    Harmless fun w => w.modify b fun d => { d with status := s d.status }.enqueueRenew := by
  refine ⟨fun w => ?_, fun w x h => h.keep fun d y hd => (hd.setStatus _).enqueueRenew⟩
  obtain ⟨hwait, hcur, hcnt, hstatus⟩ := Dispr.pushBackTokenOpInfo_quiet
    { w.dispr b with status := s (w.dispr b).status } .renewReqInfo .renewCmdReq 0xff
  refine quiet_modify w b hwait hcur hcnt ?_
  exact (congrArg DisprStatus.started hstatus).trans (hs _)

lemma harmless_status (b : HwBand) (s : DisprStatus → DisprStatus)
    (hs : ∀ t, (s t).started = t.started) :
    Harmless fun w => w.modify b fun d => { d with status := s d.status } :=
  ⟨fun w => quiet_modify w b rfl rfl rfl (hs _), fun _ _ h => h.keep fun _ _ hd => hd.setStatus _⟩

lemma harmless_clearanceAcquire (b : HwBand) : Harmless fun w => w.clearanceAcquire b :=
  (harmless_status b (fun s => { s with clearance := true }) fun _ => rfl).ite harmless_id

lemma harmless_clearanceRelease (b : HwBand) : Harmless fun w => w.clearanceRelease b :=
  (harmless_renew b (fun s => { s with clearance := false }) fun _ => rfl).ite harmless_id

lemma harmless_exclusiveReady (b : HwBand) : Harmless fun w => w.exclusiveReady b :=
  (harmless_renew b (fun s => { s with exclusiveUse := true }) fun _ => rfl).ite harmless_id

lemma harmless_cmdTokenComplete (b : HwBand) : Harmless fun w => w.cmdTokenComplete b := by
  have huse : Harmless fun w => w.modify b fun d => { d with status.exclusiveUse := false } :=
    harmless_status b (fun s => { s with exclusiveUse := false }) fun _ => rfl
  have hrelease : Harmless fun w => if (w.dispr b).status.exclusiveUse then
      (w.modify b fun d => { d with status.exclusiveUse := false }).clearanceRelease (other b)
      else w := (huse.comp (harmless_clearanceRelease (other b))).ite harmless_id
  have hready : Harmless fun w => if (w.dispr b).status.clearance then
      w.exclusiveReady (other b) else w := (harmless_exclusiveReady (other b)).ite harmless_id
  exact harmless_id.ite (hrelease.comp hready)

lemma harmless_onAbortMsgComplete (b : HwBand) : Harmless fun w => w.onAbortMsgComplete b := by
  have hmsgs : Harmless fun w => w.modify b fun d =>
      { d with abortMsgs := d.abortMsgs - 1, status.waitAbortMsgDone := false } :=
    ⟨fun w => quiet_modify w b rfl rfl rfl rfl, fun _ _ h => h.keep fun d _ hd =>
      (hd.setAbortMsgs (d.abortMsgs - 1)).setStatus { d.status with waitAbortMsgDone := false }⟩
  exact (hmsgs.comp (harmless_cmdTokenComplete b)).comp
    (harmless_renew b (fun s => s) fun _ => rfl)

lemma harmless_deregisterComplete (b : HwBand) : Harmless fun w => w.deregisterComplete b :=
  harmless_id.ite (harmless_cmdTokenComplete b)

/-! ## The thread at work -/

lemma Quiet.absent {w w' : Engine} (h : Quiet w w') (ha : w.Absent) : w'.Absent := by
  intro b hb
  rw [h.started]
  exact ha b (h.has b ▸ hb)

lemma Absent.modify (ha : w.Absent) {f : Dispr → Dispr}
    (hf : (f (w.dispr b)).status.started = true → (w.dispr b).status.started = true) :
    (w.modify b f).Absent := by
  intro c hc
  rw [has_modify] at hc
  by_cases hcb : c = b
  · subst hcb
    rw [dispr_modify_self]
    by_contra hstarted
    rw [Bool.not_eq_false] at hstarted
    rw [ha c hc] at hf
    exact Bool.false_ne_true (hf hstarted)
  · rw [dispr_modify_of_ne w f hcb]
    exact ha c hc

lemma inv_goto (h : w.AllLawful p.hold) (ha : w.Absent)
    (hband : ∀ b, p.band = some b → w.has b = true)
    (hcur : ∀ b i n, p = .acquired b i n → (w.dispr b).curCmdReq = some i)
    (hleave : p.leaving = false) : (w.goto p).Inv := by
  refine ⟨fun b hb => h b (by rwa [has_goto] at hb), fun b hb => ha b (by rwa [has_goto] at hb),
    fun b hb => by rw [has_goto]; exact hband b hb, hcur, ?_, ?_, ?_⟩
  · intro hl
    rw [show (w.goto p).pc = p from rfl, hleave] at hl
    cases hl
  · rintro b i (hpc | hpc | hpc)
    all_goals
      rw [show (w.goto p).pc = p from rfl] at hpc
      rw [hpc] at hleave
      cases hleave
  · intro b _ hp
    have hl := Pc.leaving_of_passed hp
    rw [show (w.goto p).pc = p from rfl, hleave] at hl
    cases hl

lemma inv_endOp (h : w.AllLawful (Hold.on b { op := some n })) (ha : w.Absent)
    (hb : w.has b = true) : (w.endOp b n).Inv := by
  refine inv_goto (p := .ops b) ?_ (ha.modify fun hs => ?_) ?_ (fun _ _ _ hpc => nomatch hpc) rfl
  · have hmove := h.move (z := {}) (f := fun d => d.opDone n) fun _ hd => hd.opDone rfl
    rw [Hold.on_empty] at hmove
    exact hmove
  · rwa [Dispr.opDone_status] at hs
  · rintro c hc
    cases hc
    rw [has_modify]
    exact hb

lemma inv_processTokenReq (h : w.AllLawful (Hold.on b { op := some n })) (ha : w.Absent)
    (hb : w.has b = true) : (w.processTokenReq b n).Inv := by
  dsimp only [processTokenReq]
  split
  · exact inv_endOp h ha hb
  split
  · exact inv_endOp h ha hb
  split
  · exact inv_endOp h ha hb
  next hcnt =>
  split
  · exact inv_endOp h ha hb
  split
  · obtain ⟨hlaw, hquiet⟩ := (harmless_exclusiveReady (other b)).both h
    exact inv_endOp hlaw (hquiet.absent ha) ((hquiet.has b).trans hb)
  split
  · obtain ⟨hlaw, hquiet⟩ := (harmless_clearanceAcquire (other b)).both h
    exact inv_endOp hlaw (hquiet.absent ha) ((hquiet.has b).trans hb)
  split
  · refine inv_endOp (h.keep fun d y hd => hd.setStatus _) (ha.modify fun hs => hs) ?_
    rw [has_modify]
    exact hb
  next i d hpop =>
  have hlaw : (w.dispr b).Lawful { op := some n } := by
    have hon := h b hb
    rwa [Hold.on, update_self] at hon
  have hcur : (w.dispr b).curCmdReq = none := by
    have hcount := hlaw.queues.count
    cases hc : (w.dispr b).curCmdReq with
    | none => rfl
    | some j =>
      rw [hc] at hcount
      simp only [Option.toList_some, List.length_cons, List.length_nil] at hcount
      omega
  have htaken := Dispr.taken_of_popFrontWaitReq hpop
  have hreg := (hlaw.registerCurCmdReq rfl rfl htaken hcur).setStatus
    { d.status with notifyIdle := false }
  refine inv_goto (p := .acquired b i n) ?_ (ha.modify fun hs => ?_) ?_ ?_ rfl
  · exact h.move fun _ _ => hreg
  · dsimp only [Dispr.popFrontWaitReq] at hpop
    split at hpop
    · cases hpop
    · cases hpop
      exact hs
  · rintro c hc
    cases hc
    rw [has_modify]
    exact hb
  · rintro c j m hpc
    cases hpc
    rw [dispr_modify_self]
    rfl

lemma lawful_deregisterCurCmdReq {r : ReqEvent} {y : Hold} (h : w.AllLawful (Hold.on b y))
    (hb : w.has b = true) (ha : w.Absent) (hslot : y.slot = none) (hend : y.ending = some r)
    (hr : Ended [.added, .acquired, r]) (hcur : (w.dispr b).curCmdReq = some i) :
    (w.deregisterCurCmdReq b i).AllLawful (Hold.on b { y with ending := none }) ∧
      (w.deregisterCurCmdReq b i).Absent ∧ (w.deregisterCurCmdReq b i).has b = true ∧
      ((w.deregisterCurCmdReq b i).dispr b).curCmdReq = none ∧
      ∀ c, ((w.deregisterCurCmdReq b i).dispr c).status.started = (w.dispr c).status.started ∧
        ((w.deregisterCurCmdReq b i).has c = w.has c) ∧
        (c ≠ b → ((w.deregisterCurCmdReq b i).dispr c).tokenReqWaitQ = (w.dispr c).tokenReqWaitQ ∧
          ((w.deregisterCurCmdReq b i).dispr c).curCmdReq = (w.dispr c).curCmdReq) := by
  have hmove := h.move (z := { y with ending := none }) (f := fun d =>
    { d.pushBackIdleReq i with tokenCnt := d.tokenCnt - 1, curCmdReq := none })
    fun _ hd => hd.endCur hslot hend hr hcur
  obtain ⟨hlaw, hquiet⟩ := (harmless_deregisterComplete b).both hmove
  refine ⟨hlaw, hquiet.absent (ha.modify fun hs => hs), ?_, ?_, fun c => ⟨?_, ?_, fun hcb => ⟨?_, ?_⟩⟩⟩
  · rw [deregisterCurCmdReq, hquiet.has, has_modify]
    exact hb
  · rw [deregisterCurCmdReq, hquiet.cur, dispr_modify_self]
  · rw [deregisterCurCmdReq, hquiet.started]
    by_cases hcb : c = b
    · subst hcb
      rw [dispr_modify_self]
      rfl
    · rw [dispr_modify_of_ne _ _ hcb]
  · rw [deregisterCurCmdReq, hquiet.has, has_modify]
  · rw [deregisterCurCmdReq, hquiet.wait, dispr_modify_of_ne _ _ hcb]
  · rw [deregisterCurCmdReq, hquiet.cur, dispr_modify_of_ne _ _ hcb]

lemma lawful_deregisterNotify {y : Hold} (h : w.AllLawful (Hold.on b y)) (hend : y.ending = none)
    (hcur : (w.dispr b).curCmdReq = some i)
    (hask : (w.dispr b).ticket i ∈ (w.dispr b).cancelAsked ∨
      (w.dispr b).ticket i ∈ (w.dispr b).stopAborted) :
    (w.deregisterNotify b i).AllLawful (Hold.on b { y with ending := some .aborted }) := by
  refine h.move fun _ hd => ?_
  have hset := hd.setReqStatus i (f := fun s => { s with run := false, lastPermit := true })
    (fun hs => hs) (fun hr => by cases hr)
  have hnote := hset.noteEnd (r := .aborted) hend hcur (fun heq => nomatch heq) fun _ => by
    rw [Dispr.ticket_setReqStatus]
    exact hask
  rwa [Dispr.ticket_setReqStatus] at hnote

lemma deregisterComplete_inv (h : w.AllLawful (Hold.on b { op := some n })) (ha : w.Absent)
    (hb : w.has b = true) : ((w.deregisterComplete b).processTokenReq b n).Inv := by
  obtain ⟨hlaw, hquiet⟩ := (harmless_deregisterComplete b).both h
  exact inv_processTokenReq hlaw (hquiet.absent ha) ((hquiet.has b).trans hb)

lemma inv_handleTokenOpInfo (h : w.AllLawful (Hold.on b { op := some n })) (ha : w.Absent)
    (hb : w.has b = true) : (w.handleTokenOpInfo b n).Inv := by
  have hd : (w.dispr b).Lawful { op := some n } := by
    have hon := h b hb
    rwa [Hold.on, update_self] at hon
  have hask := hd.ops.asked n (by simp)
  dsimp only [handleTokenOpInfo]
  split
  · exact inv_processTokenReq h ha hb
  · exact inv_processTokenReq h ha hb
  · next htype =>
    split
    · exact inv_endOp h ha hb
    split
    · exact inv_endOp h ha hb
    next hrun =>
    split
    · exact deregisterComplete_inv h ha hb
    next i hcur =>
    rw [Bool.not_eq_true, Bool.not_eq_eq_eq_not, Bool.not_false] at hrun
    have hdata := hd.queues.run _ hrun
    rw [hcur] at hdata
    have hfree : (w.dispr b).ticket i ∈ (w.dispr b).freeAsked := by
      cases n with
      | addReqInfo j =>
        rw [show _ = _ from hask] at htype
        cases htype
      | renewReqInfo =>
        rw [show _ = _ from hask] at htype
        cases htype
      | freeReqInfo j =>
        obtain ⟨hj, ⟨-, hmem⟩ | ⟨hcancel, -⟩⟩ := hask
        · rw [Option.some.inj hdata, hj]
          exact hmem
        · rw [hcancel] at htype
          cases htype
    have hnote : (w.modify b fun d => d.note (d.ticket i) .freed).AllLawful
        (Hold.on b { ending := some .freed, op := some n }) :=
      h.move fun _ hd => hd.noteEnd rfl hcur (fun _ => hfree) fun heq => nomatch heq
    obtain ⟨hlaw, habs, hhas, -, -⟩ := lawful_deregisterCurCmdReq hnote
      (by rw [has_modify]; exact hb) (ha.modify fun hs => hs) rfl rfl .freed
      (by rw [dispr_modify_self]; exact hcur)
    exact inv_processTokenReq hlaw habs hhas
  · next htype =>
    split
    · exact inv_endOp h ha hb
    have hcancel : ∃ j, n = .freeReqInfo j ∧ ((w.dispr b).opInfo n).data = j ∧
        (w.dispr b).ticket j ∈ (w.dispr b).cancelAsked := by
      cases n with
      | addReqInfo j =>
        rw [show _ = _ from hask] at htype
        cases htype
      | renewReqInfo =>
        rw [show _ = _ from hask] at htype
        cases htype
      | freeReqInfo j =>
        obtain ⟨hj, ⟨hfree, -⟩ | ⟨-, hmem⟩⟩ := hask
        · rw [hfree] at htype
          cases htype
        · exact ⟨j, rfl, hj, hmem⟩
    obtain ⟨j, -, hj, hmem⟩ := hcancel
    have hset : (w.modify b fun d => d.setReqStatus ((w.dispr b).opInfo n).data
        fun s => { s with cancel := true }).AllLawful (Hold.on b { op := some n }) :=
      h.keep fun d y hd => hd.setReqStatus _ (fun hs => hs) fun hr => hr
    have habs : (w.modify b fun d => d.setReqStatus ((w.dispr b).opInfo n).data
        fun s => { s with cancel := true }).Absent := ha.modify fun hs => hs
    rw [hj] at hset habs ⊢
    generalize hw' : (w.modify b fun d => d.setReqStatus j fun s => { s with cancel := true }) = w'
      at hset habs ⊢
    have hb' : w'.has b = true := by rw [← hw', has_modify]; exact hb
    have hd' : (w'.dispr b).Lawful { op := some n } := by
      have hon := hset b hb'
      rwa [Hold.on, update_self] at hon
    have hask' : (w'.dispr b).ticket j ∈ (w'.dispr b).cancelAsked := by
      rw [← hw', dispr_modify_self, Dispr.ticket_setReqStatus]
      exact hmem
    split
    · next henq =>
      refine inv_goto (p := .abortWait b j n) ?_ (habs.modify fun hs => hs) ?_
        (fun _ _ _ hpc => nomatch hpc) rfl
      · exact hset.move fun _ hd =>
          hd.removeWaiting rfl (hd'.queues.enq j nofun henq) (.inl hask')
      · rintro c hc
        cases hc
        rw [has_modify]
        exact hb'
    split
    · next hrun =>
      split
      · exact deregisterComplete_inv hset habs hb'
      next i hcur =>
      have hij : j = i := by
        have hrun' := hd'.queues.run j hrun
        rw [hcur] at hrun'
        exact (Option.some.inj hrun').symm
      subst hij
      refine inv_goto (p := .abortCur b n) ?_ (habs.modify fun hs => hs) ?_
        (fun _ _ _ hpc => nomatch hpc) rfl
      · exact lawful_deregisterNotify hset rfl hcur (.inl hask')
      · rintro c hc
        cases hc
        rw [deregisterNotify, has_modify]
        exact hb'
    · exact inv_endOp hset habs hb'
  · exact inv_endOp h ha hb

/-! ## The thread leaves -/

def Stopped (w : Engine) : Prop := ∀ b, (w.dispr b).status.started = false

lemma Quiet.stopped {w w' : Engine} (h : Quiet w w') (hs : w.Stopped) : w'.Stopped :=
  fun b => (h.started b).trans (hs b)

lemma Stopped.absent (hs : w.Stopped) : w.Absent := fun b _ => hs b

lemma Stopped.modify (hs : w.Stopped) {f : Dispr → Dispr}
    (hf : (f (w.dispr b)).status.started = (w.dispr b).status.started) :
    (w.modify b f).Stopped := by
  intro c
  by_cases hcb : c = b
  · subst hcb
    rw [dispr_modify_self, hf]
    exact hs c
  · rw [dispr_modify_of_ne w f hcb]
    exact hs c

/-- The dispatcher that the thread leaves before that of band `b` is done with. -/
def Before (w : Engine) (b : HwBand) : Prop := b = .band1 → Over (w.dispr .band0)

lemma Before.modify (h : w.Before b) (f : Dispr → Dispr) : (w.modify b f).Before b := by
  rintro rfl
  rw [dispr_modify_of_ne w f (by decide)]
  exact h rfl

lemma Quiet.before {w w' : Engine} (h : Quiet w w') (hb : w.Before b) : w'.Before b := by
  intro hb1
  exact ⟨(h.wait _).trans (hb hb1).1, (h.cur _).trans (hb hb1).2⟩

lemma inv_leave (h : w.AllLawful p.hold) (hs : w.Stopped) (hb : w.has b = true)
    (hbefore : w.Before b) (hband : p.band = some b) (hleave : p.leaving = true)
    (hgone : ∀ c i, p = .leaveMsgs c ∨ p = .leaveReqs c ∨ p = .leaveAbort c i →
      (w.dispr c).curCmdReq = none) : (w.goto p).Inv := by
  refine ⟨fun c hc => h c (by rwa [has_goto] at hc), fun c _ => hs c, ?_, ?_, fun _ => hs, hgone, ?_⟩
  · intro c hc
    rw [show (w.goto p).pc = p from rfl, hband] at hc
    cases hc
    rw [has_goto]
    exact hb
  · intro c i n hpc
    rw [show (w.goto p).pc = p from rfl] at hpc
    subst hpc
    cases hleave
  · intro c _ hp
    rw [show (w.goto p).pc = p from rfl] at hp
    obtain ⟨-, rfl, rfl⟩ := (Pc.passed_iff hband).1 hp
    exact hbefore rfl

lemma inv_threadLeave (h : w.AllLawful fun _ => {}) (hs : w.Stopped) (hb : w.has b = true)
    (hbefore : w.Before b) : (w.threadLeave b).Inv := by
  dsimp only [threadLeave]
  split
  · next hcur =>
    obtain ⟨hlaw, hquiet⟩ := (harmless_deregisterComplete b).both h
    refine inv_leave hlaw (hquiet.stopped hs) ((hquiet.has b).trans hb) (hquiet.before hbefore)
      rfl rfl ?_
    rintro c i (hpc | hpc | hpc)
    · cases hpc
      rw [hquiet.cur]
      exact hcur
    · cases hpc
    · cases hpc
  · next i hcur =>
    rw [← Hold.on_empty b] at h
    have hstop : (w.modify b fun d =>
        { d with stopAborted := d.stopAborted ++ [d.ticket i] }).AllLawful (Hold.on b {}) :=
      h.keep fun d y hd => hd.noteStopped (d.ticket i)
    refine inv_leave (p := .leaveCur b) ?_ ?_ ?_ ?_ rfl rfl ?_
    · refine lawful_deregisterNotify hstop rfl (by rw [dispr_modify_self]; exact hcur) (.inr ?_)
      rw [dispr_modify_self]
      exact List.mem_append_right _ (List.mem_singleton.2 rfl)
    · exact (hs.modify rfl).modify rfl
    · rw [deregisterNotify, has_modify, has_modify]
      exact hb
    · exact (hbefore.modify _).modify _
    · rintro c j (hpc | hpc | hpc)
      · cases hpc
      · cases hpc
      · cases hpc

lemma before_of_inv (h : w.Inv) (hb : w.pc.band = some b) (hl : w.pc.leaving = true) :
    w.Before b := by
  rintro rfl
  have hhas := h.band _ hb
  refine h.ended .band0 ?_ ?_
  · simp only [has, decide_eq_true_eq] at hhas ⊢
    omega
  · exact (Pc.passed_iff hb).2 ⟨hl, rfl, rfl⟩

lemma inv_leaveCur (h : w.Inv) (hpc : w.pc = .leaveCur b) : (w.turn false).Inv := by
  have hb : w.has b = true := h.band b (by rw [hpc]; rfl)
  have hs : w.Stopped := h.stopped (by rw [hpc]; rfl)
  have hbefore : w.Before b := before_of_inv h (by rw [hpc]; rfl) (by rw [hpc]; rfl)
  have hlaw := h.lawful
  rw [hpc] at hlaw
  simp only [turn, hpc]
  split
  · next hcur =>
    have hnone : w.AllLawful fun _ => {} := by
      intro c hc
      have hold := hlaw c hc
      by_cases hcb : c = b
      · subst hcb
        simp only [Pc.hold, Hold.on, update_self] at hold
        exact hold.noCur hcur
      · simp only [Pc.hold, Hold.on, update_of_ne hcb] at hold
        exact hold
    obtain ⟨hlaw', hquiet⟩ := (harmless_deregisterComplete b).both hnone
    refine inv_leave hlaw' (hquiet.stopped hs) ((hquiet.has b).trans hb) (hquiet.before hbefore)
      rfl rfl ?_
    rintro c i (hpc' | hpc' | hpc')
    · cases hpc'
      rw [hquiet.cur]
      exact hcur
    · cases hpc'
    · cases hpc'
  · next i hcur =>
    obtain ⟨hlaw', -, hhas, hnone, hrest⟩ := lawful_deregisterCurCmdReq hlaw hb hs.absent rfl rfl
      .aborted hcur
    have hon : (w.deregisterCurCmdReq b i).AllLawful (Hold.on b {}) := hlaw'
    rw [Hold.on_empty] at hon
    refine inv_leave (p := .leaveMsgs b) hon (fun c => ((hrest c).1).trans (hs c)) hhas ?_ rfl rfl ?_
    · rintro rfl
      have hold := hbefore rfl
      obtain ⟨hwait, hcur0⟩ := (hrest .band0).2.2 (by decide)
      exact ⟨hwait.trans hold.1, hcur0.trans hold.2⟩
    · rintro c j (hpc' | hpc' | hpc')
      · cases hpc'
        exact hnone
      · cases hpc'
      · cases hpc'

lemma Inv.quiet {w' : Engine} (h : w.Inv) (hlaw : w'.AllLawful w.pc.hold) (hq : Quiet w w') :
    w'.Inv := by
  refine ⟨?_, hq.absent h.absent, ?_, ?_, ?_, ?_, ?_⟩
  · rw [hq.pc]
    exact hlaw
  · intro b hb
    rw [hq.has]
    exact h.band b (hq.pc ▸ hb)
  · intro b i n hpc
    rw [hq.cur]
    exact h.cur b i n (hq.pc ▸ hpc)
  · intro hl
    exact hq.stopped (h.stopped (hq.pc ▸ hl))
  · intro b i hpc
    rw [hq.cur]
    exact h.gone b i (hq.pc ▸ hpc)
  · intro b hb hp
    obtain ⟨hwait, hcur⟩ := h.ended b (hq.has b ▸ hb) (hq.pc ▸ hp)
    exact ⟨(hq.wait b).trans hwait, (hq.cur b).trans hcur⟩

lemma inv_clearWaitingMsg (h : w.Inv) (hpc : w.pc = .leaveMsgs b) :
    (w.clearWaitingMsg b).Inv := by
  have hlaw := h.lawful
  dsimp only [clearWaitingMsg]
  split
  · rw [hpc] at hlaw
    refine inv_leave (p := .leaveReqs b) hlaw (h.stopped (by rw [hpc]; rfl))
      (h.band b (by rw [hpc]; rfl)) (before_of_inv h (by rw [hpc]; rfl) (by rw [hpc]; rfl)) rfl rfl ?_
    rintro c i (hpc' | hpc' | hpc')
    · cases hpc'
    · cases hpc'
      exact h.gone b 0 (.inl hpc)
    · cases hpc'
  · obtain ⟨hlaw', hquiet⟩ := (harmless_onAbortMsgComplete b).both hlaw
    exact h.quiet hlaw' hquiet

lemma inv_down (h : w.AllLawful fun _ => {}) (hs : w.Stopped)
    (hover : ∀ b, w.has b = true → Over (w.dispr b)) : (w.goto .down).Inv := by
  refine ⟨fun c hc => h c (by rwa [has_goto] at hc), fun c _ => hs c, fun c hc => (by cases hc),
    fun c i n hc => (by cases hc), fun _ => hs, ?_, fun c hc _ => hover c (by rwa [has_goto] at hc)⟩
  rintro c i (hpc | hpc | hpc)
  · cases hpc
  · cases hpc
  · cases hpc

lemma inv_clearWatingReq (h : w.Inv) (hpc : w.pc = .leaveReqs b) : (w.clearWatingReq b).Inv := by
  have hlaw := h.lawful
  have hb : w.has b = true := h.band b (by rw [hpc]; rfl)
  have hs : w.Stopped := h.stopped (by rw [hpc]; rfl)
  have hbefore : w.Before b := before_of_inv h (by rw [hpc]; rfl) (by rw [hpc]; rfl)
  rw [hpc] at hlaw
  dsimp only [clearWatingReq]
  split
  · next hlen =>
    have hover : Over (w.dispr b) := (hlaw b hb).over hlen
    split
    · next hband =>
      obtain ⟨rfl, hphy⟩ := hband
      refine inv_threadLeave hlaw hs ?_ fun _ => hover
      simp only [has, decide_eq_true_eq]
      exact hphy
    · next hband =>
      refine inv_down hlaw hs fun c hc => ?_
      by_cases hcb : c = b
      · exact hcb ▸ hover
      · cases b with
        | band0 =>
          cases c with
          | band0 => exact absurd rfl hcb
          | band1 =>
            simp only [has, decide_eq_true_eq] at hc
            exact absurd ⟨rfl, hc⟩ hband
        | band1 =>
          cases c with
          | band0 => exact hbefore rfl
          | band1 => exact absurd rfl hcb
  split
  · exact h
  next i d hpop =>
  have hcur := h.gone b 0 (.inr (.inl hpc))
  have hd : (w.dispr b).Lawful {} := hlaw b hb
  have htaken := Dispr.taken_of_popFrontWaitReq hpop
  refine inv_leave (p := .leaveAbort b i) ?_ (hs.modify ?_) ?_ (hbefore.modify _) rfl rfl ?_
  · have hnone : w.AllLawful (Hold.on b {}) := by
      rw [Hold.on_empty]
      exact hlaw
    exact hnone.move fun _ hd => hd.clearWaiting rfl hpop
  · dsimp only [Dispr.popFrontWaitReq] at hpop
    split at hpop
    · cases hpop
    · cases hpop
      rfl
  · rw [has_modify]
    exact hb
  · rintro c j (hpc' | hpc' | hpc')
    · cases hpc'
    · cases hpc'
    · cases hpc'
      rw [dispr_modify_self]
      exact htaken.cur.trans hcur

/-! ## Turns of the thread -/

section

variable (h : w.Inv)
include h

lemma inv_nextTokenOp (hpc : w.pc = .ops b) : (w.nextTokenOp b).Inv := by
  have hb : w.has b = true := h.band b (by rw [hpc]; rfl)
  have hlaw := h.lawful
  rw [hpc] at hlaw
  dsimp only [nextTokenOp]
  split
  · exact inv_goto (p := .loop) hlaw h.absent (fun _ hc => nomatch hc)
      (fun _ _ _ hpc => nomatch hpc) rfl
  · next n d hpop =>
    refine inv_handleTokenOpInfo ?_ (h.absent.modify fun hs => ?_) (by rw [has_modify]; exact hb)
    · have hnone : w.AllLawful (Hold.on b {}) := by
        rw [Hold.on_empty]
        exact hlaw
      exact hnone.move fun _ hd => hd.popFrontTokenOpInfo rfl hpop
    · dsimp only [Dispr.popFrontTokenOpInfo] at hpop
      split at hpop
      · cases hpop
      · cases hpop
        exact hs

lemma inv_acquired (hpc : w.pc = .acquired b i n) (fail : Bool) :
    (w.turn fail).Inv := by
  have hb : w.has b = true := h.band b (by rw [hpc]; rfl)
  have hcur := h.cur b i n hpc
  have hlaw := h.lawful
  rw [hpc] at hlaw
  simp only [turn, hpc]
  split
  · have hnote : (w.modify b fun d =>
        (d.setReqStatus i fun s => { s with run := false }).note (d.ticket i) .failed).AllLawful
          (Hold.on b { ending := some .failed, op := some n }) := by
      refine hlaw.move fun _ hd => ?_
      have hset := hd.setReqStatus i (f := fun s => { s with run := false })
        (fun hs => hs) (fun hr => by cases hr)
      have hnote := hset.noteEnd (r := .failed) rfl hcur (fun heq => nomatch heq)
        fun heq => nomatch heq
      rwa [Dispr.ticket_setReqStatus] at hnote
    obtain ⟨hlaw', habs, hhas, -, -⟩ := lawful_deregisterCurCmdReq hnote
      (by rw [has_modify]; exact hb) (h.absent.modify fun hs => hs) rfl rfl .failed
      (by rw [dispr_modify_self]; exact hcur)
    exact inv_processTokenReq hlaw' habs hhas
  · exact inv_endOp hlaw h.absent hb

lemma inv_abortWait (hpc : w.pc = .abortWait b i n) : (w.turn false).Inv := by
  have hb : w.has b = true := h.band b (by rw [hpc]; rfl)
  have hlaw := h.lawful
  rw [hpc] at hlaw
  simp only [turn, hpc]
  refine inv_endOp ?_ (h.absent.modify fun hs => hs) (by rw [has_modify]; exact hb)
  exact hlaw.move fun _ hd => hd.pushBackIdleReq rfl

lemma inv_abortCur (hpc : w.pc = .abortCur b n) : (w.turn false).Inv := by
  have hb : w.has b = true := h.band b (by rw [hpc]; rfl)
  have hlaw := h.lawful
  rw [hpc] at hlaw
  simp only [turn, hpc]
  split
  · next hcur =>
    refine deregisterComplete_inv ?_ h.absent hb
    intro c hc
    have hold := hlaw c hc
    by_cases hcb : c = b
    · subst hcb
      simp only [Pc.hold, Hold.on, update_self] at hold ⊢
      exact hold.noCur hcur
    · simp only [Pc.hold, Hold.on, update_of_ne hcb] at hold ⊢
      exact hold
  · next i hcur =>
    obtain ⟨hlaw', habs, hhas, -, -⟩ := lawful_deregisterCurCmdReq hlaw hb h.absent rfl rfl
      .aborted hcur
    exact inv_processTokenReq hlaw' habs hhas

lemma inv_leaveAbort (hpc : w.pc = .leaveAbort b i) : (w.turn false).Inv := by
  have hb : w.has b = true := h.band b (by rw [hpc]; rfl)
  have hs : w.Stopped := h.stopped (by rw [hpc]; rfl)
  have hbefore : w.Before b := before_of_inv h (by rw [hpc]; rfl) (by rw [hpc]; rfl)
  have hlaw := h.lawful
  rw [hpc] at hlaw
  simp only [turn, hpc]
  refine inv_leave (p := .leaveReqs b) ?_ (hs.modify rfl) (by rw [has_modify]; exact hb)
    (hbefore.modify _) rfl rfl ?_
  · have hmove := hlaw.move (z := {}) (f := fun d => d.pushBackIdleReq i)
      fun _ hd => hd.pushBackIdleReq rfl
    rw [Hold.on_empty] at hmove
    exact hmove
  · rintro c j (hpc' | hpc' | hpc')
    · cases hpc'
    · cases hpc'
      rw [dispr_modify_self]
      exact h.gone b i (.inr (.inr hpc))
    · cases hpc'

lemma inv_turn (fail : Bool) : (w.turn fail).Inv := by
  cases hpc : w.pc with
  | loop =>
    simp only [turn, hpc]
    exact h
  | ops b =>
    simp only [turn, hpc]
    exact inv_nextTokenOp h hpc
  | acquired b i n => exact inv_acquired h hpc fail
  | abortWait b i n =>
    have hturn := inv_abortWait h hpc
    simp only [turn, hpc] at hturn ⊢
    exact hturn
  | abortCur b n =>
    have hturn := inv_abortCur h hpc
    simp only [turn, hpc] at hturn ⊢
    exact hturn
  | leaveCur b =>
    have hturn := inv_leaveCur h hpc
    simp only [turn, hpc] at hturn ⊢
    exact hturn
  | leaveMsgs b =>
    simp only [turn, hpc]
    exact inv_clearWaitingMsg h hpc
  | leaveReqs b =>
    simp only [turn, hpc]
    exact inv_clearWatingReq h hpc
  | leaveAbort b i =>
    have hturn := inv_leaveAbort h hpc
    simp only [turn, hpc] at hturn ⊢
    exact hturn
  | down =>
    simp only [turn, hpc]
    exact h

end

/-! ## Calls -/

structure Called (d d' : Dispr) : Prop where
  cur : d'.curCmdReq = d.curCmdReq
  started : d'.status.started = true → d.status.started = true
  wait : d.status.started = false → d'.tokenReqWaitQ = d.tokenReqWaitQ

lemma Called.refl : Called d d := ⟨rfl, fun h => h, fun _ => rfl⟩

lemma called_addTokenReq (exclusive : Bool) :
    Called d (d.addTokenReq exclusive).2 := by
  rw [Dispr.addTokenReq_eq]
  split
  · exact .refl d
  next hok =>
  have hstarted : d.status.started = true := by
    simp only [Bool.or_eq_true, Bool.not_eq_eq_eq_not, Bool.not_true, not_or,
      Bool.not_eq_false] at hok
    exact hok.1
  split
  · exact .refl d
  · next i q hq =>
    obtain ⟨-, hcur, -, -⟩ := Dispr.pushBackTokenOpInfo_quiet (d.withReq i q exclusive)
      (.addReqInfo i) .addCmdReq i
    exact ⟨hcur, fun _ => hstarted, fun hs => by rw [hs] at hstarted; cases hstarted⟩

lemma called_pushBackTokenOpInfo (n : OpNode) (type : TokenOpType) (data : ℕ) :
    Called d (d.pushBackTokenOpInfo n type data).2 := by
  obtain ⟨hwait, hcur, -, hstatus⟩ := Dispr.pushBackTokenOpInfo_quiet d n type data
  exact ⟨hcur, fun hs => by rwa [hstatus] at hs, fun _ => hwait⟩

lemma called_cancelTokenReq (i : ℕ) : Called d (d.cancelTokenReq i).2 := by
  dsimp only [Dispr.cancelTokenReq]
  split
  · exact .refl d
  split
  · exact .refl d
  split
  · exact .refl d
  · exact called_pushBackTokenOpInfo ..

lemma called_freeToken (i : ℕ) : Called d (d.freeToken i).2 := by
  dsimp only [Dispr.freeToken]
  split
  · exact .refl d
  split
  · exact .refl d
  split
  · exact .refl d
  · have h := called_pushBackTokenOpInfo (d.setReqStatus i fun s => { s with cancel := true })
      (.freeReqInfo i) .freeCmdReq i
    exact ⟨h.cur, h.started, h.wait⟩

lemma called_sendInAbort : Called d d.sendInAbort := by
  dsimp only [Dispr.sendInAbort]
  split
  · exact .refl d
  split
  · exact .refl d
  split
  · exact ⟨rfl, fun h => h, fun _ => rfl⟩
  · exact .refl d

lemma called_threadStopPrior : Called d d.threadStopPrior := by
  dsimp only [Dispr.threadStopPrior]
  split
  · exact ⟨rfl, fun h => (by cases h), fun _ => rfl⟩
  · exact .refl d

lemma inv_modify_call (h : w.Inv) {f : Dispr → Dispr} (hf : Called (w.dispr b) (f (w.dispr b)))
    (hlaw : w.has b = true → (f (w.dispr b)).Lawful (w.pc.hold b)) : (w.modify b f).Inv := by
  have hcur (c : HwBand) : ((w.modify b f).dispr c).curCmdReq = (w.dispr c).curCmdReq := by
    by_cases hcb : c = b
    · subst hcb
      rw [dispr_modify_self]
      exact hf.cur
    · rw [dispr_modify_of_ne w f hcb]
  have hstopped (hs : w.Stopped) : (w.modify b f).Stopped := by
    intro c
    by_cases hcb : c = b
    · subst hcb
      rw [dispr_modify_self]
      by_contra hstarted
      rw [Bool.not_eq_false] at hstarted
      have := hf.started hstarted
      rw [hs c] at this
      cases this
    · rw [dispr_modify_of_ne w f hcb]
      exact hs c
  refine ⟨h.lawful.modify hlaw fun _ _ => rfl, h.absent.modify hf.started,
    fun c hc => by rw [has_modify]; exact h.band c hc, fun c i n hpc => ?_,
    fun hl => hstopped (h.stopped hl), fun c i hpc => ?_, fun c hc hp => ?_⟩
  · rw [hcur]
    exact h.cur c i n hpc
  · rw [hcur]
    exact h.gone c i hpc
  · rw [has_modify] at hc
    obtain ⟨hwait, hnone⟩ := h.ended c hc hp
    refine ⟨?_, (hcur c).trans hnone⟩
    by_cases hcb : c = b
    · subst hcb
      rw [dispr_modify_self, hf.wait (h.stopped (Pc.leaving_of_passed hp) c)]
      exact hwait
    · rw [dispr_modify_of_ne w f hcb]
      exact hwait

def FreshSlots (w : Engine) : Event → Prop
  | .call (.add b _) => (w.dispr b).FreshSlot (w.pc.hold b).op
  | _ => True

lemma inv_call (h : w.Inv) (c : Call) (hfresh : w.FreshSlots (.call c)) : (w.call c).Inv := by
  cases c with
  | add b exclusive =>
    exact inv_modify_call (f := fun d => (d.addTokenReq exclusive).2) h (called_addTokenReq _ _)
      fun hb => (h.lawful b hb).addTokenReq hfresh exclusive
  | cancel b i =>
    exact inv_modify_call (f := fun d => (d.cancelTokenReq i).2) h (called_cancelTokenReq _ i)
      fun hb => (h.lawful b hb).cancelTokenReq i
  | free b i =>
    exact inv_modify_call (f := fun d => (d.freeToken i).2) h (called_freeToken _ i)
      fun hb => (h.lawful b hb).freeToken i
  | sendInAbort b =>
    exact inv_modify_call h (called_sendInAbort _) fun hb => (h.lawful b hb).sendInAbort
  | shallStop b =>
    exact inv_modify_call (f := fun d => { d with status.shallStop := true }) h
      ⟨rfl, fun hs => hs, fun _ => rfl⟩ fun hb => (h.lawful b hb).setStatus _
  | stopPrior b =>
    exact inv_modify_call h (called_threadStopPrior _) fun hb => (h.lawful b hb).threadStopPrior

/-! ## Runs -/

lemma inv_start (hhist : ∀ b, w.has b = true → ∃ e, (w.dispr b).History e)
    (hover : ∀ b, w.has b = true → Over (w.dispr b)) (ha : w.Absent) : w.start.Inv := by
  have hlaw (b : HwBand) (hb : w.has b = true) : (w.dispr b).restart.Lawful {} := by
    obtain ⟨e, he⟩ := hhist b hb
    exact he.restart (hover b hb).1 (hover b hb).2
  have hpc : w.start.pc = .loop := by
    dsimp only [start]
    split <;> rfl
  have hhas (b : HwBand) : w.start.has b = w.has b := by
    dsimp only [start]
    split
    · rw [has_modify]
      cases b <;> rfl
    · cases b <;> rfl
  have hdispr (b : HwBand) (hb : w.has b = true) :
      (w.start.dispr b).Lawful {} := by
    dsimp only [start]
    split
    · by_cases hb0 : b = .band0
      · subst hb0
        rw [dispr_modify_self]
        dsimp only
        rw [if_pos hb]
        exact (hlaw _ hb).setStatus { (w.dispr .band0).restart.status with exclusiveUse := true }
      · rw [dispr_modify_of_ne _ _ hb0]
        dsimp only
        rw [if_pos hb]
        exact hlaw b hb
    · dsimp only
      rw [if_pos hb]
      exact hlaw b hb
  refine ⟨fun b hb => ?_, fun b hb => ?_, fun b hb => ?_, fun b i n hb => ?_, fun hl => ?_,
    fun b i hb => ?_, fun b _ hp => ?_⟩
  · rw [hpc]
    exact hdispr b (hhas b ▸ hb)
  · rw [hhas] at hb
    dsimp only [start]
    split
    · next hphy =>
      have hb1 : b ≠ .band0 := by
        rintro rfl
        simp [has, hphy] at hb
      rw [dispr_modify_of_ne _ _ hb1]
      dsimp only
      rw [hb]
      exact ha b hb
    · dsimp only
      rw [hb]
      exact ha b hb
  · rw [hpc] at hb
    cases hb
  · rw [hpc] at hb
    cases hb
  · rw [hpc] at hl
    cases hl
  · rw [hpc] at hb
    rcases hb with hb | hb | hb
    · cases hb
    · cases hb
    · cases hb
  · rw [hpc] at hp
    cases hp

lemma history_empty : Dispr.History {} none where
  order := List.Pairwise.nil
  below := nofun
  last := nofun
  unborn := fun _ _ => rfl
  waits := nofun
  current := nofun
  ended := fun t ht => absurd ht (Nat.not_lt_zero t)
  acquired := fun _ => ⟨nofun, nofun⟩
  freed := nofun
  aborted := nofun

lemma inv_init (phyNum : ℕ) : (init phyNum).Inv :=
  inv_start (fun _ _ => ⟨none, history_empty⟩) (fun _ _ => ⟨rfl, rfl⟩) fun _ _ => rfl

lemma inv_step (h : w.Inv) (e : Event) (hfresh : w.FreshSlots e) :
    (w.step e).Inv := by
  cases e with
  | call c => exact inv_call h c hfresh
  | enter b =>
    dsimp only [step]
    split
    · next hpc =>
      have hb : w.has b = true := by
        by_contra hb
        rw [Bool.not_eq_true] at hb
        have hstarted := hpc.2
        rw [h.absent b hb] at hstarted
        cases hstarted
      dsimp only [tokenOpHanler]
      split
      · obtain ⟨hlaw, hquiet⟩ := (harmless_exclusiveReady (other b)).both h.lawful
        exact h.quiet hlaw hquiet
      · have hlaw := h.lawful
        rw [hpc.1] at hlaw
        refine inv_goto (p := .ops b) hlaw h.absent ?_ (fun _ _ _ hc => nomatch hc) rfl
        rintro c hc
        cases hc
        exact hb
    · exact h
  | turn fail => exact inv_turn h fail
  | abortMsgDone b =>
    dsimp only [step]
    split
    · obtain ⟨hlaw, hquiet⟩ := (harmless_onAbortMsgComplete b).both h.lawful
      exact h.quiet hlaw hquiet
    · exact h
  | leave =>
    dsimp only [step]
    split
    · next hpc =>
      have hlaw := h.lawful
      rw [hpc.1] at hlaw
      refine inv_threadLeave hlaw (fun b => ?_) hpc.2.1 fun hb => nomatch hb
      cases b with
      | band0 => simpa using hpc.2.2.1
      | band1 => simpa using hpc.2.2.2
    · exact h
  | restart =>
    dsimp only [step]
    split
    · next hpc =>
      refine inv_start (fun b hb => ⟨_, (h.lawful b hb).history⟩) (fun b hb => ?_) h.absent
      exact h.ended b hb (by rw [hpc]; rfl)
    · exact h

/-- What the property says of a dispatcher from which the thread has `slot` in hand, in
the abort callback of a request that waited, and whose current request ends as `ending`. -/
structure TokenLifecycle (d : Dispr) (x : Hold) : Prop where
  /-- The token count tells whether there is a current request. -/
  token : d.tokenCnt = if d.curCmdReq.isSome then 1 else 0
  /-- Every slot is idle, waiting, current or in hand, and only once. -/
  slots : (d.tokenReqIdleQ ++ d.tokenReqWaitQ ++ d.curCmdReq.toList ++ x.slot.toList).Perm
    (List.range maxCmdReqNum)
  /-- `acquired` is called in the order of addition, at most once for a request. -/
  fifo : d.granted.Pairwise (· < ·)
  /-- Nothing granted is newer than anything that still waits. -/
  oldest : ∀ g ∈ d.granted, ∀ t ∈ d.waiting, g < t
  acquired : ∀ t, t ∈ d.granted ↔ .acquired ∈ d.hist t
  unborn : ∀ t, d.added ≤ t → d.hist t = []
  waits : ∀ t ∈ d.waiting, d.hist t = [.added]
  current : ∀ i, d.curCmdReq = some i →
    d.hist (d.ticket i) = .added :: .acquired :: x.ending.toList
  /-- A request that neither waits nor is current has come to exactly one end. -/
  ended : ∀ t < d.added, t ∉ d.waiting → (∀ i, d.curCmdReq = some i → t ≠ d.ticket i) →
    Ended (d.hist t)
  freed : ∀ t, .freed ∈ d.hist t → t ∈ d.freeAsked
  aborted : ∀ t, .aborted ∈ d.hist t → t ∈ d.cancelAsked ∨ t ∈ d.stopAborted

lemma lifecycle_of_lawful {d : Dispr} {y : Hold} (h : d.Lawful y) : TokenLifecycle d y where
  token := by
    rw [h.queues.count]
    cases d.curCmdReq <;> rfl
  slots := h.queues.slots
  fifo := (List.pairwise_append.1 h.history.order).1
  oldest := fun g hg t ht => (List.pairwise_append.1 h.history.order).2.2 g hg t ht
  acquired := fun t => (h.history.acquired t).symm
  unborn := h.history.unborn
  waits := h.history.waits
  current := h.history.current
  ended := h.history.ended
  freed := h.history.freed
  aborted := h.history.aborted

/-- After every such run each dispatcher keeps the life cycle, `clear_wating_req` never
waits for a slot that cannot come, and nothing is left once the thread is down. -/
theorem token_requests_end_once {phyNum : ℕ} {es : List Event}
    (hes : Guarded step FreshSlots (init phyNum) es) (b : HwBand)
    (hb : (run step (init phyNum) es).has b = true) :
    TokenLifecycle ((run step (init phyNum) es).dispr b)
        ((run step (init phyNum) es).pc.hold b) ∧
      ((run step (init phyNum) es).pc = .leaveReqs b →
        ((run step (init phyNum) es).dispr b).tokenReqIdleQ.length = maxCmdReqNum ∨
          ((run step (init phyNum) es).dispr b).tokenReqWaitQ ≠ []) ∧
      ((run step (init phyNum) es).pc = .down →
        ((run step (init phyNum) es).dispr b).tokenReqWaitQ = [] ∧
          ((run step (init phyNum) es).dispr b).curCmdReq = none) := by
  have hstep : ∀ w e, Inv w → FreshSlots w e → Inv (step w e) := fun _ e hw he => inv_step hw e he
  have hinv : (run step (init phyNum) es).Inv := Guarded.invariant hstep (inv_init phyNum) hes
  refine ⟨lifecycle_of_lawful (hinv.lawful b hb), fun hpc => ?_, fun hpc => ?_⟩
  · have hslots := (hinv.lawful b hb).queues.slots.length_eq
    have hcur := hinv.gone b 0 (.inr (.inl hpc))
    rw [hpc, hcur] at hslots
    by_contra hspin
    rw [not_or, not_not] at hspin
    rw [hspin.2] at hslots
    apply hspin.1
    simpa [Pc.hold] using hslots
  · exact hinv.ended b hb (by rw [hpc]; rfl)

/-- A request is granted and given back. -/
theorem token_requests_end_once_freed :
    ∃ es, Guarded step FreshSlots (init 1) es ∧
      ((run step (init 1) es).dispr .band0).hist 0 = [.added, .acquired, .freed] ∧
      TokenLifecycle ((run step (init 1) es).dispr .band0) ((run step (init 1) es).pc.hold .band0) := by
  have hes : Guarded step FreshSlots (init 1)
      [.call (.add .band0 false), .enter .band0, .turn false, .turn false,
        .call (.free .band0 0), .turn false] := by
    refine ⟨fun _ _ i q _ => ?_, trivial, trivial, trivial, trivial, trivial, trivial⟩
    change _ ∉ ([] : List OpNode) ∧ _ ∉ ([] : List OpNode)
    simp
  exact ⟨_, hes, by decide, (token_requests_end_once hes .band0 (by decide)).1⟩

/-- A request whose `acquired` fails is neither freed nor aborted, and one that is
aborted while it waits stands in no queue meanwhile. -/
theorem failed_acquire_ends_request :
    (∃ es, Guarded step FreshSlots (init 1) es ∧
      0 ∈ ((run step (init 1) es).dispr .band0).granted ∧
      ((run step (init 1) es).dispr .band0).curCmdReq = none ∧
      .freed ∉ ((run step (init 1) es).dispr .band0).hist 0 ∧
      .aborted ∉ ((run step (init 1) es).dispr .band0).hist 0) ∧
    ∃ es, Guarded step FreshSlots (init 1) es ∧
      1 ∉ ((run step (init 1) es).dispr .band0).tokenReqIdleQ ∧
      1 ∉ ((run step (init 1) es).dispr .band0).tokenReqWaitQ ∧
      ((run step (init 1) es).dispr .band0).curCmdReq = some 0 := by
  refine ⟨⟨[.call (.add .band0 false), .enter .band0, .turn false, .turn true], ?_, by decide⟩,
    ⟨[.call (.add .band0 false), .enter .band0, .turn false, .turn false, .turn false,
      .call (.add .band0 false), .call (.cancel .band0 1), .enter .band0, .turn false,
      .turn false], ?_, by decide⟩⟩
  · refine ⟨fun _ _ i q _ => ?_, trivial, trivial, trivial, trivial⟩
    change _ ∉ ([] : List OpNode) ∧ _ ∉ ([] : List OpNode)
    simp
  · refine ⟨fun _ _ i q _ => ?_, trivial, trivial, trivial, trivial, fun _ _ i q _ => ?_, trivial,
      trivial, trivial, trivial, trivial⟩
    · change _ ∉ ([] : List OpNode) ∧ _ ∉ ([] : List OpNode)
      simp
    · change _ ∉ ([] : List OpNode) ∧ _ ∉ ([] : List OpNode)
      simp

end Engine

end Rtl8831.Phl.CmdDispr
