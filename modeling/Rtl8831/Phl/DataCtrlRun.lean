import Rtl8831.Phl.DataCtrl

/-!
# Who holds a pause of the data path

What one request can do to a path is listed once; that a path is paused exactly
while some module holds it, and that only the last holder starts it again,
follow case by case.
-/

namespace Rtl8831.Phl

open Lib

def SwSts.paused : SwSts → Bool
  | .stopInprogress | .swPause => true
  | .idle | .running => false

namespace SwPath

variable {a b c : SwPath} {id : CtrlModule}

def Owned (a : SwPath) : Prop := a.sts.paused = true ↔ a.pauseId ≠ 0

def Acked (a b : SwPath) : Prop :=
  b = a ∨ a.sts = .stopInprogress ∧ b = { a with sts := .swPause }

def PausedBy (id : CtrlModule) (a b : SwPath) : Prop :=
  b.pauseId = a.pauseId ||| phlGetCtrlMdl id ∧ b.sts.paused = true

inductive Change (id : CtrlModule) (a b : SwPath) : Prop where
  | acked (h : Acked a b)
  | paused (h : PausedBy id a b) (held : a.sts.paused = true ∨ id ≠ .other)
  | started (hidle : a.sts = .idle) (h : b = { a with sts := .running })
  | shared (h : b = { a with pauseId := a.pauseId &&& ~~~phlGetCtrlMdl id }) (held : b.pauseId ≠ 0)
  | last (holds : a.pauseId &&& phlGetCtrlMdl id = phlGetCtrlMdl id)
      (alone : a.pauseId &&& ~~~phlGetCtrlMdl id = 0) (h : b = { sts := .running, pauseId := 0 })

lemma Acked.refl (a : SwPath) : Acked a a := .inl rfl

lemma Acked.pauseId (h : Acked a b) : b.pauseId = a.pauseId := by
  rcases h with rfl | ⟨-, rfl⟩ <;> rfl

lemma Acked.paused (h : Acked a b) : b.sts.paused = a.sts.paused := by
  rcases h with rfl | ⟨hs, rfl⟩
  · rfl
  · rw [hs]
    rfl

lemma Acked.trans (h₁ : Acked a b) (h₂ : Acked b c) : Acked a c := by
  rcases h₁ with rfl | ⟨hs, rfl⟩
  · exact h₂
  · rcases h₂ with rfl | ⟨hs', -⟩
    · exact .inr ⟨hs, rfl⟩
    · cases hs'

lemma Acked.pausedBy (h₁ : Acked a b) (h₂ : PausedBy id b c) : PausedBy id a c :=
  ⟨by rw [h₂.1, h₁.pauseId], h₂.2⟩

lemma PausedBy.acked (h₁ : PausedBy id a b) (h₂ : Acked b c) : PausedBy id a c :=
  ⟨by rw [h₂.pauseId, h₁.1], by rw [h₂.paused, h₁.2]⟩

lemma getCtrlMdl_ne_zero (h : id ≠ .other) : phlGetCtrlMdl id ≠ 0 := by
  cases id <;> first | decide | exact absurd rfl h

lemma or_ne_zero {x y : BitVec 8} (h : x ≠ 0 ∨ y ≠ 0) : x ||| y ≠ 0 := by
  intro hor
  obtain ⟨hx, hy⟩ := BitVec.or_eq_zero_iff.1 hor
  exact h.elim (absurd hx) (absurd hy)

lemma eq_flag {x f : BitVec 8} (hf : x &&& f = f) (hrest : x &&& ~~~f = 0) : x = f := by
  calc
    x = x &&& f ||| x &&& ~~~f := by
      ext i hi
      simp only [BitVec.getElem_or, BitVec.getElem_and, BitVec.getElem_not]
      cases x[i] <;> cases f[i] <;> rfl
    _ = f := by
      rw [hf, hrest]
      exact BitVec.or_zero

lemma Change.owned (h : Change id a b) (ha : a.Owned) : b.Owned := by
  cases h with
  | acked h =>
    unfold Owned
    rw [h.pauseId, h.paused]
    exact ha
  | paused h held =>
    have hne : b.pauseId ≠ 0 := by
      rw [h.1]
      exact or_ne_zero (held.imp ha.1 getCtrlMdl_ne_zero)
    exact iff_of_true h.2 hne
  | started hidle h =>
    have hzero : a.pauseId = 0 := by
      by_contra hne
      have := ha.2 hne
      rw [hidle] at this
      cases this
    subst h
    simp [Owned, SwSts.paused, hzero]
  | shared h held =>
    have hne : a.pauseId ≠ 0 := by
      intro hzero
      apply held
      rw [h, hzero]
      exact BitVec.zero_and
    refine iff_of_true ?_ held
    rw [h]
    exact ha.2 hne
  | last holds alone h =>
    subst h
    simp [Owned, SwSts.paused]

lemma Change.last_holder (h : Change id a b) (ha : a.Owned) (hpaused : a.sts.paused = true)
    (hrun : b.sts = .running) :
    a.pauseId = phlGetCtrlMdl id ∧ id ≠ .other ∧ b.pauseId = 0 := by
  cases h with
  | acked h =>
    have := h.paused
    rw [hrun, hpaused] at this
    cases this
  | paused h held =>
    have := h.2
    rw [hrun] at this
    cases this
  | started hidle h =>
    rw [hidle] at hpaused
    cases hpaused
  | shared h held =>
    rw [h] at hrun
    rw [hrun] at hpaused
    cases hpaused
  | last holds alone h =>
    have hflag := eq_flag holds alone
    refine ⟨hflag, ?_, by rw [h]⟩
    rintro rfl
    exact ha.1 hpaused hflag

end SwPath

namespace Datapath

variable {s : Datapath} {p q : Path} {id : CtrlModule}

open SwPath

@[simp] lemma setSts_self (sts : SwSts) :
    (s.setSts p sts).path p = { s.path p with sts := sts } := by
  simp [setSts]

@[simp] lemma setPauseId_self (pauseId : BitVec 8) :
    (s.setPauseId p pauseId).path p = { s.path p with pauseId := pauseId } := by
  simp [setPauseId]

lemma setSts_of_ne (h : q ≠ p) (sts : SwSts) : (s.setSts p sts).path q = s.path q := by
  simp [setSts, h]

lemma setPauseId_of_ne (h : q ≠ p) (pauseId : BitVec 8) :
    (s.setPauseId p pauseId).path q = s.path q := by
  simp [setPauseId, h]

lemma callback_acked (s : Datapath) (p q : Path) : Acked (s.path q) ((s.callback p).path q) := by
  unfold callback
  split
  case isFalse => exact Acked.refl _
  case isTrue hs =>
    by_cases hq : q = p
    · subst hq
      exact .inr ⟨hs, setSts_self _⟩
    · rw [setSts_of_ne hq]
      exact Acked.refl _

lemma callbacks_acked (s : Datapath) (ps : List Path) (q : Path) :
    Acked (s.path q) ((s.callbacks ps).path q) := by
  induction ps generalizing s with
  | nil => exact Acked.refl _
  | cons p ps ih => exact (s.callback_acked p q).trans (ih (s.callback p))

def Grants (s : Datapath) (p : Path) (id : CtrlModule) (env : PauseEnv) : Prop :=
  (s.path p).sts.paused = true ∨ id ≠ .other ∧ env.scheduled = true

instance (s : Datapath) (p : Path) (id : CtrlModule) (env : PauseEnv) :
    Decidable (s.Grants p id env) :=
  inferInstanceAs (Decidable (_ ∨ _))

lemma Grants.of_acked {t : Datapath} {env : PauseEnv} (h : s.Grants p id env)
    (hack : Acked (s.path p) (t.path p)) : t.Grants p id env := by
  unfold Grants
  rw [hack.paused]
  exact h

lemma paused_iff {sts : SwSts} :
    sts.paused = true ↔ sts = .swPause ∨ sts = .stopInprogress := by
  cases sts <;> simp [SwSts.paused]

lemma swPause_pausedBy {env : PauseEnv} (h : s.Grants p id env) :
    PausedBy id (s.path p) ((s.swPause p id env).1.path p) := by
  unfold swPause
  dsimp only
  split
  case isTrue hp =>
    rw [setPauseId_self]
    exact ⟨rfl, paused_iff.2 hp⟩
  case isFalse hp =>
    obtain ⟨-, hsched⟩ := h.resolve_left (mt paused_iff.1 hp)
    rw [if_pos hsched]
    dsimp only
    have hack := (s.setSts p .stopInprogress).callbacks_acked env.callbacks p
    rw [setSts_self] at hack
    rw [setPauseId_self]
    exact ⟨by rw [hack.pauseId], hack.paused⟩

lemma swPause_acked (env : PauseEnv) (hq : q ≠ p) :
    Acked (s.path q) ((s.swPause p id env).1.path q) := by
  unfold swPause
  dsimp only
  split
  · rw [setPauseId_of_ne hq]
    exact Acked.refl _
  · split
    · have hack := (s.setSts p .stopInprogress).callbacks_acked env.callbacks q
      rw [setSts_of_ne hq] at hack
      dsimp only
      rwa [setPauseId_of_ne hq]
    · rw [setSts_of_ne hq]
      exact Acked.refl _

lemma swResume_change (s : Datapath) (p : Path) (id : CtrlModule) (notify : Bool) :
    Change id (s.path p) ((s.swResume p id notify).1.path p) := by
  unfold swResume
  dsimp only
  split
  case isTrue hidle => exact .started hidle (setSts_self _)
  case isFalse =>
    split
    case isTrue => exact .acked (Acked.refl _)
    case isFalse hholds =>
      rw [setPauseId_self]
      split
      case isTrue hne => exact .shared (setPauseId_self _) (by rwa [setPauseId_self])
      case isFalse halone =>
        have hzero : (s.path p).pauseId &&& ~~~phlGetCtrlMdl id = 0 := not_not.1 halone
        refine .last (not_not.1 hholds) hzero ?_
        rw [setSts_self, setPauseId_self, hzero]

lemma swResume_of_ne (s : Datapath) (id : CtrlModule) (notify : Bool) (hq : q ≠ p) :
    (s.swResume p id notify).1.path q = s.path q := by
  unfold swResume
  dsimp only
  split
  · exact setSts_of_ne hq _
  · split
    · rfl
    · split
      · exact setPauseId_of_ne hq _
      · rw [setSts_of_ne hq, setPauseId_of_ne hq]

end Datapath

def DataCtl.pausePaths : DataCtl → List Path
  | .swTxPause _ => [.tx]
  | .swRxPause _ => [.rx]
  | .trxSwPause _ _ | .trxPauseWRst _ _ _ => [.tx, .rx]
  | _ => []

def DataCtl.isPause : DataCtl → Bool
  | .hwTrxPause _ | .swTxPause _ | .swRxPause _ | .trxSwPause _ _ | .trxPauseWRst _ _ _ => true
  | _ => false

def DataCtl.resumes (p : Path) : DataCtl → Bool
  | .swTxResume _ => decide (p = .tx)
  | .swRxResume _ => decide (p = .rx)
  | .trxSwResume _ _ | .trxResumeWRst _ _ _ => true
  | _ => false

namespace Datapath

variable {s : Datapath} {p q : Path} {id : CtrlModule}

open SwPath

def Granted (s : Datapath) : DataEvent → Prop
  | .ctrl id (.swTxPause env) => s.Grants .tx id env
  | .ctrl id (.swRxPause env) => s.Grants .rx id env
  | .ctrl id (.trxSwPause tx rx) | .ctrl id (.trxPauseWRst tx _ rx) =>
    s.Grants .tx id tx ∧ s.Grants .rx id rx
  | _ => True

/-- What a pause request leaves behind: on the paths it has not come to, at most
the handlers have run; on the others the pause stands. -/
structure Standing (id : CtrlModule) (paths : List Path) (s t : Datapath) : Prop where
  each : ∀ p, Acked (s.path p) (t.path p) ∨ p ∈ paths ∧ PausedBy id (s.path p) (t.path p)
  first : ∀ p ∈ paths.head?, PausedBy id (s.path p) (t.path p)

variable {cmd : DataCtl} {t : Datapath} {tx rx : PauseEnv} {env : PauseEnv}

lemma standing_single (h : s.Grants p id env) :
    Standing id [p] s (s.swPause p id env).1 := by
  refine ⟨fun q => ?_, ?_⟩
  · by_cases hq : q = p
    · subst hq
      exact .inr ⟨List.mem_singleton_self _, swPause_pausedBy h⟩
    · exact .inl (swPause_acked env hq)
  · rintro q hq
    obtain rfl : p = q := by simpa using hq
    exact swPause_pausedBy h

lemma Standing.cut (h : Standing id [.tx] s t) : Standing id [.tx, .rx] s t where
  each := fun p => (h.each p).imp_right fun hp => ⟨by simp [List.mem_singleton.1 hp.1], hp.2⟩
  first := h.first

lemma Standing.both {t u : Datapath} (h : Standing id [.tx] s t)
    (htx : Acked (t.path .tx) (u.path .tx)) (hrx : PausedBy id (t.path .rx) (u.path .rx)) :
    Standing id [.tx, .rx] s u := by
  have hfirst : PausedBy id (s.path .tx) (u.path .tx) := (h.first .tx rfl).acked htx
  have hsecond : PausedBy id (s.path .rx) (u.path .rx) := by
    rcases h.each .rx with hack | ⟨hmem, -⟩
    · exact hack.pausedBy hrx
    · simp at hmem
  refine ⟨fun p => ?_, ?_⟩
  · cases p with
    | tx => exact .inr ⟨by simp, hfirst⟩
    | rx => exact .inr ⟨by simp, hsecond⟩
  · intro p hp
    obtain rfl : Path.tx = p := by simpa using hp
    exact hfirst

lemma swPause_rx_both (h : Standing id [.tx] s t)
    (hg : s.Grants .rx id env) : Standing id [.tx, .rx] s (t.swPause .rx id env).1 := by
  have hack : Acked (s.path .rx) (t.path .rx) := by
    rcases h.each .rx with hack | ⟨hmem, -⟩
    · exact hack
    · simp at hmem
  exact h.both (swPause_acked env (by decide)) (swPause_pausedBy (hg.of_acked hack))

lemma Standing.hw (h : Standing id [.tx] s t) (hal : Bool) :
    Standing id [.tx] s (t.phlHwTrxPause hal).1 := by
  cases hal
  · exact h
  · exact ⟨h.each, h.first⟩

lemma trxSwPause_standing (htx : s.Grants .tx id tx)
    (hrx : s.Grants .rx id rx) : Standing id [.tx, .rx] s (s.phlTrxSwPause id tx rx).1 := by
  have h := standing_single htx
  unfold phlTrxSwPause phlSwTxPause phlSwRxPause
  split
  case h_1 t heq =>
    rw [heq] at h
    exact swPause_rx_both h hrx
  case h_2 => exact h.cut

lemma trxPauseWRst_standing {hal : Bool} (htx : s.Grants .tx id tx)
    (hrx : s.Grants .rx id rx) : Standing id [.tx, .rx] s (s.phlTrxPauseWRst id tx hal rx).1 := by
  have h := standing_single htx
  unfold phlTrxPauseWRst phlSwTxPause phlSwRxPause
  split
  case h_1 t heq =>
    rw [heq] at h
    exact h.cut
  case h_2 t heq =>
    rw [heq] at h
    exact h.cut
  case h_3 t heq =>
    rw [heq] at h
    have hhw := h.hw hal
    split
    case h_1 u heq =>
      rw [heq] at hhw
      have hboth := swPause_rx_both hhw hrx
      split <;> rename_i heq <;> rw [heq] at hboth <;> exact hboth
    case h_2 heq =>
      rw [heq] at hhw
      exact hhw.cut

lemma pause_standing (hg : s.Granted (.ctrl id cmd)) (hp : cmd.isPause = true) :
    Standing id cmd.pausePaths s (s.phlDataCtrler id cmd).1 := by
  cases cmd with
  | hwTrxPause hal =>
    refine ⟨fun p => .inl ?_, by simp [DataCtl.pausePaths]⟩
    cases hal <;> exact Acked.refl _
  | swTxPause env => exact standing_single hg
  | swRxPause env => exact standing_single hg
  | trxSwPause tx rx => exact trxSwPause_standing hg.1 hg.2
  | trxPauseWRst tx hal rx => exact trxPauseWRst_standing hg.1 hg.2
  | _ => cases hp

lemma granted_held (hg : s.Granted (.ctrl id cmd)) (hp : p ∈ cmd.pausePaths) :
    (s.path p).sts.paused = true ∨ id ≠ .other := by
  have hgrants : ∃ env, s.Grants p id env := by
    cases cmd with
    | swTxPause env | swRxPause env =>
      obtain rfl := List.mem_singleton.1 hp
      exact ⟨env, hg⟩
    | trxSwPause tx rx | trxPauseWRst tx hal rx =>
      cases p with
      | tx => exact ⟨tx, hg.1⟩
      | rx => exact ⟨rx, hg.2⟩
    | _ => cases hp
  obtain ⟨env, h⟩ := hgrants
  exact h.imp_right And.left

lemma trxSwResume_change (tx rx : Bool) (p : Path) :
    Change id (s.path p) ((s.phlTrxSwResume id tx rx).1.path p) := by
  have hfirst := s.swResume_change .tx id tx
  have hother := s.swResume_of_ne id tx (p := .tx) (q := .rx) (by decide)
  unfold phlTrxSwResume phlSwTxResume phlSwRxResume
  split
  case h_1 t heq =>
    rw [heq] at hfirst hother
    cases p with
    | tx =>
      rw [t.swResume_of_ne id rx (by decide)]
      exact hfirst
    | rx =>
      rw [← hother]
      exact t.swResume_change .rx id rx
  case h_2 =>
    cases p with
    | tx => exact hfirst
    | rx =>
      rw [hother]
      exact .acked (Acked.refl _)

lemma hwTrxRstResume_path (hal : Bool) : (s.phlHwTrxRstResume hal).1.path = s.path := by
  cases hal <;> rfl

lemma trxResumeWRst_change (rx hal tx : Bool) (p : Path) :
    Change id (s.path p) ((s.phlTrxResumeWRst id rx hal tx).1.path p) := by
  have hfirst := s.swResume_change .rx id rx
  have hother := s.swResume_of_ne id rx (p := .rx) (q := .tx) (by decide)
  have hearly : ∀ t : Datapath, t.path .rx = (s.swResume .rx id rx).1.path .rx →
      t.path .tx = s.path .tx → Change id (s.path p) (t.path p) := by
    intro t hrx htx
    cases p with
    | tx =>
      rw [htx]
      exact .acked (Acked.refl _)
    | rx =>
      rw [hrx]
      exact hfirst
  unfold phlTrxResumeWRst phlSwTxResume phlSwRxResume
  split
  case h_1 t heq =>
    have hhw := t.hwTrxRstResume_path hal
    rw [heq] at hearly hother
    split
    case h_1 u heq' =>
      rw [heq'] at hhw
      have hlast : Change id (s.path p) ((u.swResume .tx id tx).1.path p) := by
        cases p with
        | tx =>
          rw [← hother, ← hhw]
          exact u.swResume_change .tx id tx
        | rx =>
          rw [u.swResume_of_ne id tx (by decide), hhw]
          have hrx := hfirst
          rw [heq] at hrx
          exact hrx
      split <;> rename_i heq'' <;> rw [heq''] at hlast <;> exact hlast
    case h_2 heq' =>
      rw [heq'] at hhw
      exact hearly _ (congrFun hhw _) ((congrFun hhw _).trans hother)
  case h_2 heq =>
    rw [heq] at hearly hother
    exact hearly _ rfl hother

lemma ctrl_change (hg : s.Granted (.ctrl id cmd)) (p : Path) :
    Change id (s.path p) ((s.phlDataCtrler id cmd).1.path p) := by
  cases hpause : cmd.isPause with
  | true =>
    rcases (pause_standing hg hpause).each p with hack | ⟨hmem, hpaused⟩
    · exact .acked hack
    · exact .paused hpaused (granted_held hg hmem)
  | false =>
    cases cmd with
    | hwTrxRstResume hal =>
      change Change id _ ((s.phlHwTrxRstResume hal).1.path p)
      rw [hwTrxRstResume_path]
      exact .acked (Acked.refl _)
    | swTxResume notify | swRxResume notify =>
      cases p <;> first
        | exact s.swResume_change _ id notify
        | (refine .acked (.inl ?_)
           exact s.swResume_of_ne id notify (by decide))
    | swTxReset | swRxReset => exact .acked (Acked.refl _)
    | trxSwResume tx rx => exact trxSwResume_change tx rx p
    | trxResumeWRst rx hal tx => exact trxResumeWRst_change rx hal tx p
    | _ => cases hpause

lemma resumes_of_running (hg : s.Granted (.ctrl id cmd))
    (hpaused : (s.path p).sts.paused = true)
    (hrun : ((s.phlDataCtrler id cmd).1.path p).sts = .running) : cmd.resumes p = true := by
  have hmoved : (s.phlDataCtrler id cmd).1.path p ≠ s.path p := by
    intro h
    rw [h] at hrun
    rw [hrun] at hpaused
    cases hpaused
  cases hpause : cmd.isPause with
  | true =>
    have hstill : ((s.phlDataCtrler id cmd).1.path p).sts.paused = true := by
      rcases (pause_standing hg hpause).each p with hack | ⟨-, h⟩
      · rw [hack.paused, hpaused]
      · exact h.2
    rw [hrun] at hstill
    cases hstill
  | false =>
    cases cmd with
    | hwTrxRstResume hal => exact absurd (congrFun (s.hwTrxRstResume_path hal) p) hmoved
    | swTxResume notify | swRxResume notify =>
      cases p <;> first
        | rfl
        | exact absurd (s.swResume_of_ne id notify (by decide)) hmoved
    | swTxReset | swRxReset => exact absurd rfl hmoved
    | trxSwResume tx rx | trxResumeWRst rx hal tx => rfl
    | _ => cases hpause

def AllOwned (s : Datapath) : Prop := ∀ p, (s.path p).Owned

lemma AllOwned.step (s : Datapath) (e : DataEvent) (h : s.AllOwned) (hg : s.Granted e) :
    (s.step e).AllOwned := by
  intro p
  cases e with
  | ctrl id cmd => exact (ctrl_change hg p).owned (h p)
  | callback q =>
    have hchange : Change .other (s.path p) ((s.callback q).path p) :=
      .acked (s.callback_acked q p)
    exact hchange.owned (h p)

/-- A run in which power save and the recovery hold TX, both pauses are seen, and the
two give it back one after the other. -/
def handOver : List DataEvent :=
  [.ctrl .phyMgnt (.trxSwResume true true),
    .ctrl .powerMgnt (.swTxPause { scheduled := true, callbacks := [.tx] }),
    .ctrl .ser (.trxSwPause { scheduled := true, callbacks := [] }
      { scheduled := true, callbacks := [] }),
    .callback .rx,
    .ctrl .powerMgnt (.swTxResume true)]

end Datapath

end Rtl8831.Phl
