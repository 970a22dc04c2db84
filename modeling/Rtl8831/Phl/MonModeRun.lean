import Rtl8831.Phl.MonMode

/-!
# The option recorded and the option shown

The option recorded for a band is the one last set for it, sniffer mode apart.  Outside
monitor mode the register shows the option; while the band is in monitor mode the sniffer
bit is set, and only an option that clears it brings the register back.
-/

namespace Rtl8831.Phl.MonMode

open Lib Function

/-- Writing the option clears `B_AX_SNIFFER_MODE`. -/
def ClearsSniffer (mode : RxFltrOptMode) : Prop :=
  (optReq mode).mask.snifferMode = true ∧ (optReq mode).ctrl.snifferMode = false

instance (mode : RxFltrOptMode) : Decidable (ClearsSniffer mode) :=
  inferInstanceAs (Decidable (_ ∧ _))

lemma setting_sniffer : (optReq .sniffer).setting = ⟨1#32, 1#32⟩ := by decide

lemma sniffer_mask_subset {mode : RxFltrOptMode} (h : ClearsSniffer mode) :
    (optReq .sniffer).setting.mask &&& (optReq mode).setting.mask =
      (optReq .sniffer).setting.mask := by
  revert h
  cases mode <;> decide

lemma optReq_mask_acptCrcErr (mode : RxFltrOptMode) (enable : Bool) :
    (optReq mode).setting.mask &&& (acptCrcErrReq enable).setting.mask = 0#32 := by
  cases mode <;> cases enable <;> decide

def ShowsOption (mode : RxFltrOptMode) (reg : BitVec 32) : Prop :=
  (optReq mode).setting.Holds reg ∧ reg[0] = false

instance (mode : RxFltrOptMode) (reg : BitVec 32) : Decidable (ShowsOption mode reg) :=
  inferInstanceAs (Decidable (_ ∧ _))

section

variable {mode : RxFltrOptMode} {reg : BitVec 32}

lemma getElem_write_sniffer : ((optReq .sniffer).setting.write reg)[0] = true := by
  rw [Setting.getElem_write]
  exact if_pos (by decide)

lemma ClearsSniffer.shows (h : ClearsSniffer mode)
    (hreg : (optReq mode).setting.Holds reg) : ShowsOption mode reg := by
  refine ⟨hreg, ?_⟩
  have hbit : (optReq mode).setting.mask[0] = true ∧ (optReq mode).setting.opt[0] = false := by
    revert h
    cases mode <;> decide
  rw [Setting.holds_iff.1 hreg 0 (by decide) hbit.1, hbit.2]

lemma write_write_sniffer (h : ClearsSniffer mode ∨ reg[0] = true)
    (hreg : (optReq mode).setting.Holds reg) :
    (optReq mode).setting.write ((optReq .sniffer).setting.write reg) = reg := by
  rcases h with h | h
  · rw [Setting.write_write_of_subset (sniffer_mask_subset h), hreg.write_eq]
  · have hsniff : (optReq .sniffer).setting.Holds reg := by
      rw [Setting.holds_iff]
      intro i hi hm
      rw [setting_sniffer, BitVec.getElem_one] at hm
      obtain rfl : i = 0 := of_decide_eq_true hm
      rw [setting_sniffer, h]
      exact (BitVec.getElem_one hi).symm
    rw [hsniff.write_eq, hreg.write_eq]

lemma getElem_write_of_not_clears (h : ¬ClearsSniffer mode) (hmode : mode ≠ .sniffer) :
    ((optReq mode).setting.write reg)[0] = reg[0] := by
  rw [Setting.getElem_write]
  refine if_neg ?_
  revert h hmode
  cases mode <;> decide

end

structure BandInv (last : RxFltrOptMode) (b : Band) : Prop where
  saved : b.rxFltrOptMode = last
  ne_sniffer : last ≠ .sniffer
  ne_restore : last ≠ .restore
  shown : b.monitorMode = false → (optReq last).setting.Holds b.rxFltrOpt
  sniffing : b.monitorMode = true → b.rxFltrOpt[0] = true

section

variable {last mode : RxFltrOptMode} {b : Band} {macEn : Bool}

lemma setRxfltrOpt_sniffer (h : b.monitorMode = false) :
    b.rtwHalSetRxfltrOptByMode true .sniffer =
      ({ b with
          rxFltrOpt := (optReq .sniffer).setting.write b.rxFltrOpt
          monitorMode := true }, true) := by
  simp [Band.rtwHalSetRxfltrOptByMode, rtwHalMacSetRxfltrOptByMode, macSetRxFltrOpt, h]

lemma setRxfltrOpt_restore (h : b.monitorMode = true) :
    b.rtwHalSetRxfltrOptByMode true .restore =
      ({ b with
          rxFltrOpt := (optReq b.rxFltrOptMode).setting.write b.rxFltrOpt
          monitorMode := false }, true) := by
  simp [Band.rtwHalSetRxfltrOptByMode, rtwHalMacSetRxfltrOptByMode, macSetRxFltrOpt, h]

lemma setRxfltrOpt_recorded (h : b.monitorMode = true) (hs : mode ≠ .sniffer)
    (hr : mode ≠ .restore) :
    b.rtwHalSetRxfltrOptByMode macEn mode = ({ b with rxFltrOptMode := mode }, true) := by
  simp [Band.rtwHalSetRxfltrOptByMode, h, hs, hr]

lemma setRxfltrOpt_normal (h : b.monitorMode = false) (hs : mode ≠ .sniffer)
    (hr : mode ≠ .restore) :
    b.rtwHalSetRxfltrOptByMode true mode =
      ({ b with
          rxFltrOpt := (optReq mode).setting.write b.rxFltrOpt
          monitorMode := false
          rxFltrOptMode := mode }, true) := by
  simp [Band.rtwHalSetRxfltrOptByMode, rtwHalMacSetRxfltrOptByMode, macSetRxFltrOpt, h, hs, hr]

lemma setRxfltrOpt_cases (macEn : Bool) (mode : RxFltrOptMode) (b : Band) :
    b.rtwHalSetRxfltrOptByMode macEn mode = (b, false) ∨
    (mode = .sniffer ∧ b.monitorMode = false ∧ macEn = true) ∨
    (mode = .restore ∧ b.monitorMode = true ∧ macEn = true) ∨
    (mode ≠ .sniffer ∧ mode ≠ .restore ∧ (b.monitorMode = true ∨ macEn = true)) := by
  by_cases hs : mode = .sniffer
  · subst hs
    cases hm : b.monitorMode with
    | true => left; simp [Band.rtwHalSetRxfltrOptByMode, hm]
    | false =>
      cases macEn with
      | true => right; left; exact ⟨rfl, rfl, rfl⟩
      | false =>
        left
        simp [Band.rtwHalSetRxfltrOptByMode, rtwHalMacSetRxfltrOptByMode, macSetRxFltrOpt, hm]
  by_cases hr : mode = .restore
  · subst hr
    cases hm : b.monitorMode with
    | false => left; simp [Band.rtwHalSetRxfltrOptByMode, hm]
    | true =>
      cases macEn with
      | true => right; right; left; exact ⟨rfl, rfl, rfl⟩
      | false =>
        left
        simp [Band.rtwHalSetRxfltrOptByMode, rtwHalMacSetRxfltrOptByMode, macSetRxFltrOpt, hm]
  · cases hm : b.monitorMode with
    | true => exact .inr (.inr (.inr ⟨hs, hr, .inl rfl⟩))
    | false =>
      cases macEn with
      | true => exact .inr (.inr (.inr ⟨hs, hr, .inr rfl⟩))
      | false =>
        left
        simp [Band.rtwHalSetRxfltrOptByMode, rtwHalMacSetRxfltrOptByMode, macSetRxFltrOpt,
          hm, hs, hr]

/-- The option last set after a call for `mode` that reports `ok`. -/
def lastOption (mode : RxFltrOptMode) (ok : Bool) (last : RxFltrOptMode) : RxFltrOptMode :=
  if ok = true ∧ mode ≠ .sniffer ∧ mode ≠ .restore then mode else last

lemma BandInv.setRxfltrOpt (macEn : Bool) (mode : RxFltrOptMode) (h : BandInv last b) :
    BandInv (lastOption mode (b.rtwHalSetRxfltrOptByMode macEn mode).2 last)
      (b.rtwHalSetRxfltrOptByMode macEn mode).1 := by
  obtain heq | ⟨rfl, hm, rfl⟩ | ⟨rfl, hm, rfl⟩ | ⟨hs, hr, hen⟩ :=
    setRxfltrOpt_cases macEn mode b
  · rw [heq]
    have hlast : lastOption mode false last = last := if_neg (by simp)
    rw [hlast]
    exact h
  · rw [setRxfltrOpt_sniffer hm]
    have hlast : lastOption .sniffer true last = last := if_neg (by simp)
    rw [hlast]
    exact ⟨h.saved, h.ne_sniffer, h.ne_restore, nofun, fun _ => getElem_write_sniffer⟩
  · rw [setRxfltrOpt_restore hm]
    have hlast : lastOption .restore true last = last := if_neg (by simp)
    rw [hlast, h.saved]
    exact ⟨rfl, h.ne_sniffer, h.ne_restore, fun _ => Setting.holds_write, nofun⟩
  · have hlast : lastOption mode true last = mode := if_pos ⟨rfl, hs, hr⟩
    cases hm : b.monitorMode with
    | true =>
      rw [setRxfltrOpt_recorded hm hs hr, hlast]
      refine ⟨rfl, hs, hr, fun hf => ?_, h.sniffing⟩
      exact absurd (hm.symm.trans hf) (by decide)
    | false =>
      obtain rfl : macEn = true := hen.resolve_left (by simp [hm])
      rw [setRxfltrOpt_normal hm hs hr, hlast]
      exact ⟨rfl, hs, hr, fun _ => Setting.holds_write, nofun⟩

lemma BandInv.acptCrcErrPkt (macEn enable : Bool) (h : BandInv last b) :
    BandInv last (b.rtwHalAcptCrcErrPkt macEn enable).1 := by
  cases macEn with
  | false => exact h
  | true =>
    have hbit : ((acptCrcErrReq enable).setting.write b.rxFltrOpt)[0] = b.rxFltrOpt[0] := by
      rw [Setting.getElem_write]
      refine if_neg ?_
      cases enable <;> decide
    refine ⟨h.saved, h.ne_sniffer, h.ne_restore, fun hm => ?_, fun hm => ?_⟩
    · exact (h.shown hm).write_of_disjoint (optReq_mask_acptCrcErr last enable)
    · exact hbit.trans (h.sniffing hm)

lemma BandInv.cfgPpduStsFltr (macEn : Bool) (fltr : ℕ) (h : BandInv last b) :
    BandInv last (b.rtwHalCfgPpduStsFltr macEn fltr).1 := by
  cases macEn <;> exact ⟨h.saved, h.ne_sniffer, h.ne_restore, h.shown, h.sniffing⟩

lemma BandInv.restored (h : BandInv last b) (hclear : ClearsSniffer last)
    (hm : b.monitorMode = false) : ShowsOption last b.rxFltrOpt :=
  hclear.shows (h.shown hm)

lemma BandInv.restore_shows_iff (h : BandInv last b) (hm : b.monitorMode = true) :
    ShowsOption last (b.rtwHalSetRxfltrOptByMode true .restore).1.rxFltrOpt ↔
      ClearsSniffer last := by
  rw [setRxfltrOpt_restore hm, h.saved]
  constructor
  · intro hshow
    by_contra hclear
    have hbit := hshow.2
    rw [getElem_write_of_not_clears hclear h.ne_sniffer, h.sniffing hm] at hbit
    exact absurd hbit (by decide)
  · intro hclear
    exact hclear.shows Setting.holds_write

end

/-- `last` are the options last set. -/
def Inv (last : PpduSts.HwBand → RxFltrOptMode) (s : PhlInfo) : Prop :=
  ∀ band, BandInv (last band) (s.band band)

section

variable {last : PpduSts.HwBand → RxFltrOptMode} {s : PhlInfo} {band : PpduSts.HwBand} {l : Rlink}

@[simp] lemma onBand_band_self (s : PhlInfo) (band : PpduSts.HwBand) (r : Band × Bool) :
    (onBand s band r).1.band band = r.1 := update_self ..

lemma onBand_band_ne {b : PpduSts.HwBand} (r : Band × Bool) (h : b ≠ band) :
    (onBand s band r).1.band b = s.band b := update_of_ne h ..

lemma Inv.onBand {mode : RxFltrOptMode} {r : Band × Bool} (h : Inv last s)
    (hr : BandInv mode r.1) : Inv (update last band mode) (onBand s band r).1 := by
  intro b
  by_cases hb : b = band
  · subst hb
    rw [update_self, onBand_band_self]
    exact hr
  · rw [update_of_ne hb, onBand_band_ne r hb]
    exact h b

lemma Inv.onBand_same {r : Band × Bool} (h : Inv last s) (hr : BandInv (last band) r.1) :
    Inv last (MonMode.onBand s band r).1 := by
  have hinv : Inv (update last band (last band)) (MonMode.onBand s band r).1 := h.onBand hr
  rwa [update_eq_self] at hinv

lemma lastOption_of_special {mode m : RxFltrOptMode} {ok : Bool}
    (h : mode = .sniffer ∨ mode = .restore) : lastOption mode ok m = m := by
  refine if_neg ?_
  rintro ⟨-, hs, hr⟩
  exact h.elim hs hr

lemma Inv.enterMonMode (macEn : Bool) (band : PpduSts.HwBand) (h : Inv last s) :
    Inv last (rtwHalEnterMonMode macEn band s).1 := by
  have hb := (h band).setRxfltrOpt macEn .sniffer
  rw [lastOption_of_special (.inl rfl)] at hb
  exact Inv.onBand_same (s := { s with bbSnif := true }) h hb

lemma Inv.leaveMonMode (macEn : Bool) (band : PpduSts.HwBand) (h : Inv last s) :
    Inv last (rtwHalLeaveMonMode macEn band s).1 := by
  have hb := (h band).setRxfltrOpt macEn .restore
  rw [lastOption_of_special (.inr rfl)] at hb
  exact Inv.onBand_same (s := { s with bbSnif := false }) h hb

lemma Inv.rxfltrType (active : PpduSts.HwBand → List LinkId) (refused : Option ℕ) (l : Rlink)
    (mode : RxfltrTypeMode) (h : Inv last s) :
    Inv last (rtwPhlMrSetRxfltrTypeByMode active refused l mode s).1 := by
  refine Inv.onBand_same (s := { s with cap := _ }) h ?_
  obtain ⟨hsaved, hsniff, hrest, hshown, hsn⟩ := h l.hwBand
  exact ⟨hsaved, hsniff, hrest, hshown, hsn⟩

lemma Inv.leaveDone (restoreEn : ℕ → Bool) (done : List Rlink) (h : Inv last s) :
    Inv last (leaveDone restoreEn done s) := by
  induction done generalizing s with
  | nil => exact h
  | cons l done ih => exact ih (h.leaveMonMode _ _)

lemma Inv.enterDone (monEn : ℕ → Bool) (done : List Rlink) (h : Inv last s) :
    Inv last (enterDone monEn done s) := by
  induction done generalizing s with
  | nil => exact h
  | cons l done ih => exact ih (h.enterMonMode _ _)

variable (env : EnterEnv)

lemma Inv.enterLink (idx : ℕ) (l : Rlink) (h : Inv last s) :
    Inv last (enterLink env idx l s).1 := by
  unfold MonMode.enterLink
  have hmon := h.enterMonMode (env.monEn l.hwBand) l.hwBand
  split
  · next s₁ heq => rw [heq] at hmon; exact hmon
  next s₁ heq =>
  rw [heq] at hmon
  have htype := hmon.rxfltrType env.active (env.typeRefused l.hwBand) l .monitor
  split
  · next s₂ heq => rw [heq] at htype; exact htype.leaveMonMode _ _
  next s₂ heq =>
  rw [heq] at htype
  have hfcs : Inv last (rtwHalSetAppendFcs true s₂).1 := htype
  split
  · next s₃ heq => rw [heq] at hfcs; exact hfcs
  next s₃ heq =>
  rw [heq] at hfcs
  have hcrc := hfcs.onBand_same ((hfcs l.hwBand).acptCrcErrPkt (env.crcEn l.hwBand) true)
  split
  · next s₄ heq => rw [heq] at hcrc; exact hcrc
  next s₄ heq =>
  rw [heq] at hcrc
  have hppdu := hcrc.onBand_same ((hcrc l.hwBand).cfgPpduStsFltr (env.ppduEn l.hwBand) 0)
  split
  · next s₅ heq => rw [heq] at hppdu; exact hppdu
  · next s₅ heq => rw [heq] at hppdu; exact hppdu

lemma Inv.enterLinks (done links : List Rlink) (h : Inv last s) :
    Inv last (enterLinks env done links s).1 := by
  induction links generalizing done s with
  | nil => exact h
  | cons l links ih =>
    unfold MonMode.enterLinks
    split
    · exact ih _ h
    · have hl := h.enterLink env done.length l
      split
      · next s₁ heq => rw [heq] at hl; exact ih _ hl
      · next s₁ heq => rw [heq] at hl; exact hl.leaveDone _ _
      · next s₁ _ heq => rw [heq] at hl; exact hl

lemma Inv.enter (links : List Rlink) (h : Inv last s) :
    Inv last (rtwPhlEnterMonMode env links s).1 := by
  unfold rtwPhlEnterMonMode
  have hlinks := h.enterLinks env [] links
  split
  · exact h
  · split
    · next s₁ heq => rw [heq] at hlinks; exact hlinks
    · exact hlinks

lemma Inv.leaveLink (env : LeaveEnv) (idx : ℕ) (l : Rlink) (h : Inv last s) :
    Inv last (leaveLink env idx l s).1 := by
  unfold MonMode.leaveLink
  have hcrc := h.onBand_same ((h l.hwBand).acptCrcErrPkt (env.crcEn idx) false)
  split
  · next s₁ heq => rw [heq] at hcrc; exact hcrc
  next s₁ heq =>
  rw [heq] at hcrc
  have hfcs : Inv last (rtwHalSetAppendFcs false s₁).1 := hcrc
  have htype := hfcs.rxfltrType env.active (env.typeRefused idx) l .roleInit
  dsimp only
  split
  · next s₂ heq => rw [heq] at htype; exact htype
  next s₂ heq =>
  rw [heq] at htype
  have hppdu := htype.onBand_same
    ((htype l.hwBand).cfgPpduStsFltr (env.ppduEn idx) halPpduHasCrcOk)
  split
  · next s₃ heq => rw [heq] at hppdu; exact hppdu
  next s₃ heq =>
  rw [heq] at hppdu
  have hleave := hppdu.leaveMonMode (env.restoreEn idx) l.hwBand
  split
  · next s₄ heq => rw [heq] at hleave; exact hleave
  · next s₄ heq => rw [heq] at hleave; exact hleave

lemma Inv.leaveLinks (env : LeaveEnv) (done links : List Rlink) (h : Inv last s) :
    Inv last (leaveLinks env done links s).1 := by
  induction links generalizing done s with
  | nil => exact h
  | cons l links ih =>
    unfold MonMode.leaveLinks
    have hl := h.leaveLink env done.length l
    split
    · next s₁ heq => rw [heq] at hl; exact ih _ hl
    · next s₁ heq => rw [heq] at hl; exact hl.enterDone _ _
    · next s₁ _ _ heq => rw [heq] at hl; exact hl

lemma Inv.leave (env : LeaveEnv) (links : List Rlink) (h : Inv last s) :
    Inv last (rtwPhlLeaveMonMode env links s).1 := by
  unfold rtwPhlLeaveMonMode
  have hlinks := h.leaveLinks env [] links
  split
  · exact h
  · split
    · next s₁ heq => rw [heq] at hlinks; exact hlinks
    · exact hlinks

end

/-!
## What leaving monitor mode and a failed entry restore

Monitor mode is left with the option last set, which the register shows when the option
clears the sniffer bit.  A failed entry is undone when it is the type filter of the first
link that fails; every other failure of a step leaves something of it behind.
-/

open List

section

variable {last : PpduSts.HwBand → RxFltrOptMode} {s : PhlInfo} {l : Rlink} {b : Band}

lemma monitorMode_of_ne (h : b.rtwHalGetRxfltrOptMode ≠ .sniffer) : b.monitorMode = false := by
  cases hm : b.monitorMode with
  | false => rfl
  | true => exact absurd (if_pos hm) h

/-! ## An entry all of whose calls pass -/

structure EnterEnv.Passes (env : EnterEnv) (band : PpduSts.HwBand) : Prop where
  mon : env.monEn band = true
  type : env.typeRefused band = none
  crc : env.crcEn band = true
  ppdu : env.ppduEn band = true

instance (env : EnterEnv) (band : PpduSts.HwBand) : Decidable (env.Passes band) :=
  decidable_of_iff
    (env.monEn band = true ∧ env.typeRefused band = none ∧ env.crcEn band = true ∧
      env.ppduEn band = true)
    ⟨fun ⟨h₁, h₂, h₃, h₄⟩ => ⟨h₁, h₂, h₃, h₄⟩, fun ⟨h₁, h₂, h₃, h₄⟩ => ⟨h₁, h₂, h₃, h₄⟩⟩

variable (active : PpduSts.HwBand → List LinkId) {env : EnterEnv} (refused : Option ℕ)

lemma setRxfltrType_eq (l : Rlink)
    (mode : RxfltrTypeMode) (s : PhlInfo) :
    ∃ cap typFltr, rtwPhlMrSetRxfltrTypeByMode active refused l mode s =
      ({ s with
          cap := update s.cap l.id cap
          band := update s.band l.hwBand { s.band l.hwBand with typFltr } },
        refused.isNone) := by
  unfold rtwPhlMrSetRxfltrTypeByMode
  cases refused with
  | none => exact ⟨_, _, Eq.refl (onBand { s with cap := update s.cap l.id _ } _ _)⟩
  | some n => exact ⟨_, _, Eq.refl (onBand { s with cap := update s.cap l.id _ } _ _)⟩

def SameMonitor (s s' : PhlInfo) : Prop :=
  ∀ band, (s'.band band).monitorMode = (s.band band).monitorMode

lemma SameMonitor.trans {s₁ s₂ s₃ : PhlInfo} (h : SameMonitor s₁ s₂) (h' : SameMonitor s₂ s₃) :
    SameMonitor s₁ s₃ := fun band => (h' band).trans (h band)

lemma onBand_sameMonitor {r : Band × Bool} {band : PpduSts.HwBand}
    (hr : r.1.monitorMode = (s.band band).monitorMode) : SameMonitor s (onBand s band r).1 := by
  intro b
  by_cases hb : b = band
  · subst hb
    rw [onBand_band_self, hr]
  · rw [onBand_band_ne r hb]

lemma setRxfltrType_sameMonitor (l : Rlink) (mode : RxfltrTypeMode) (s : PhlInfo) :
    SameMonitor s (rtwPhlMrSetRxfltrTypeByMode active refused l mode s).1 := by
  obtain ⟨cap, typFltr, heq⟩ := setRxfltrType_eq active refused l mode s
  intro band
  rw [heq]
  dsimp only
  by_cases hb : band = l.hwBand
  · subst hb
    rw [update_self]
  · rw [update_of_ne hb]

lemma setRxfltrType_snd (l : Rlink) (mode : RxfltrTypeMode) (s : PhlInfo) :
    (rtwPhlMrSetRxfltrTypeByMode active refused l mode s).2 = refused.isNone := by
  obtain ⟨cap, typFltr, heq⟩ := setRxfltrType_eq active refused l mode s
  rw [heq]

lemma acptCrcErrPkt_sameMonitor (macEn enable : Bool) (band : PpduSts.HwBand) (s : PhlInfo) :
    SameMonitor s (onBand s band ((s.band band).rtwHalAcptCrcErrPkt macEn enable)).1 := by
  apply onBand_sameMonitor
  cases macEn <;> rfl

lemma acptCrcErrPkt_snd (macEn enable : Bool) (b : Band) :
    (b.rtwHalAcptCrcErrPkt macEn enable).2 = macEn := by
  cases macEn <;> rfl

lemma cfgPpduStsFltr_sameMonitor (macEn : Bool) (fltr : ℕ) (band : PpduSts.HwBand) (s : PhlInfo) :
    SameMonitor s (onBand s band ((s.band band).rtwHalCfgPpduStsFltr macEn fltr)).1 := by
  apply onBand_sameMonitor
  cases macEn <;> rfl

lemma cfgPpduStsFltr_snd (macEn : Bool) (fltr : ℕ) (b : Band) :
    (b.rtwHalCfgPpduStsFltr macEn fltr).2 = macEn := by
  cases macEn <;> rfl

lemma eq_of_snd {σ τ : Type*} {p : σ × τ} {t : τ} (h : p.2 = t) : p = (p.1, t) :=
  Prod.ext rfl h

lemma enterMonMode_snd {band : PpduSts.HwBand} (hm : (s.band band).monitorMode = false) :
    (rtwHalEnterMonMode true band s).2 = true := by
  rw [rtwHalEnterMonMode, setRxfltrOpt_sniffer hm]
  rfl

lemma enterMonMode_monitor {band b : PpduSts.HwBand} (hm : (s.band band).monitorMode = false) :
    ((rtwHalEnterMonMode true band s).1.band b).monitorMode =
      (decide (b = band) || (s.band b).monitorMode) := by
  rw [rtwHalEnterMonMode, setRxfltrOpt_sniffer hm]
  by_cases hb : b = band
  · subst hb
    rw [onBand_band_self, decide_eq_true rfl, Bool.true_or]
  · rw [onBand_band_ne _ hb, decide_eq_false hb, Bool.false_or]

lemma enterLink_passes (idx : ℕ) (hm : (s.band l.hwBand).monitorMode = false)
    (henv : env.Passes l.hwBand) :
    ∃ s', enterLink env idx l s = (s', none) ∧
      ∀ b, (s'.band b).monitorMode = (decide (b = l.hwBand) || (s.band b).monitorMode) := by
  unfold enterLink
  rw [henv.mon, henv.crc, henv.ppdu, eq_of_snd (enterMonMode_snd hm)]
  set s₁ := (rtwHalEnterMonMode true l.hwBand s).1 with hs₁
  have htype := setRxfltrType_snd env.active (env.typeRefused l.hwBand) l .monitor s₁
  rw [henv.type] at htype ⊢
  dsimp only
  rw [eq_of_snd htype]
  dsimp only [Option.isNone_none]
  have hsame := setRxfltrType_sameMonitor env.active none l .monitor s₁
  set s₂ := (rtwPhlMrSetRxfltrTypeByMode env.active none l .monitor s₁).1
  refine ⟨_, rfl, fun b => ?_⟩
  rw [← enterMonMode_monitor hm, ← hs₁, ← hsame b]
  exact ((acptCrcErrPkt_sameMonitor true true l.hwBand { s₂ with appendFcs := true }).trans
    (cfgPpduStsFltr_sameMonitor true 0 l.hwBand _)) b

lemma getRxfltrOptMode_eq_sniffer {mode : RxFltrOptMode} (h : BandInv mode b) :
    b.rtwHalGetRxfltrOptMode = .sniffer ↔ b.monitorMode = true := by
  unfold Band.rtwHalGetRxfltrOptMode
  cases b.monitorMode with
  | true => exact iff_of_true rfl rfl
  | false => exact iff_of_false (h.saved.trans_ne h.ne_sniffer) (by decide)

lemma enterLinks_success (done : List Rlink) {links : List Rlink} (hinv : Inv last s)
    (henv : ∀ l ∈ links, (s.band l.hwBand).monitorMode = false → env.Passes l.hwBand) :
    (enterLinks env done links s).2 = .success := by
  induction links generalizing done s with
  | nil => rfl
  | cons l links ih =>
    unfold enterLinks
    split
    · exact ih _ hinv fun l' hl' => henv l' (mem_cons_of_mem l hl')
    · next hmode =>
        have hm := monitorMode_of_ne hmode
        obtain ⟨s', heq, hs'⟩ := enterLink_passes done.length hm
          (henv l mem_cons_self hm)
        have hinv' := hinv.enterLink env done.length l
        rw [heq] at hinv' ⊢
        refine ih _ hinv' fun l' hl' hm' => henv l' (mem_cons_of_mem l hl') ?_
        rw [hs', Bool.or_eq_false_iff] at hm'
        exact hm'.2

/-! ## A failure at the first link -/

lemma enterLinks_skip {done skipped links : List Rlink} (hinv : Inv last s)
    (hskip : ∀ l ∈ skipped, (s.band l.hwBand).monitorMode = true) :
    enterLinks env done (skipped ++ links) s =
      enterLinks env (skipped.reverse ++ done) links s := by
  induction skipped generalizing done with
  | nil => rfl
  | cons l skipped ih =>
    have hmode := (getRxfltrOptMode_eq_sniffer (hinv l.hwBand)).2
      (hskip l mem_cons_self)
    rw [cons_append, enterLinks, if_pos hmode,
      ih fun l' hl' => hskip l' (mem_cons_of_mem l hl'), reverse_cons,
      append_assoc, singleton_append]

lemma enterLink_type_refused {idx : ℕ} (hinv : Inv last s)
    (hm : (s.band l.hwBand).monitorMode = false) (hmon : env.monEn l.hwBand = true)
    (htype : env.typeRefused l.hwBand ≠ none) (hrestore : env.restoreEn idx = true)
    (hsnif : s.bbSnif = false)
    (hclear : ClearsSniffer (last l.hwBand) ∨ (s.band l.hwBand).rxFltrOpt[0] = true) :
    ∃ cap typFltr, enterLink env idx l s =
      ({ s with
          cap := update s.cap l.id cap
          band := update s.band l.hwBand { s.band l.hwBand with typFltr } },
        some .rxfltrType) := by
  obtain ⟨n, hn⟩ := Option.ne_none_iff_exists'.1 htype
  unfold enterLink
  rw [hmon, hn, hrestore, eq_of_snd (enterMonMode_snd hm)]
  obtain ⟨cap, typFltr, heq⟩ := setRxfltrType_eq env.active (some n) l .monitor
    (rtwHalEnterMonMode true l.hwBand s).1
  dsimp only
  rw [heq]
  dsimp only [Option.isNone_some]
  refine ⟨cap, typFltr, ?_⟩
  rw [rtwHalEnterMonMode, setRxfltrOpt_sniffer hm]
  unfold rtwHalLeaveMonMode
  dsimp only [onBand]
  rw [update_self, update_self]
  rw [setRxfltrOpt_restore rfl]
  dsimp only
  rw [(hinv l.hwBand).saved, write_write_sniffer hclear ((hinv l.hwBand).shown hm),
    update_idem, update_idem, hsnif, hm]

/-- What has to stand after a call of `rtw_phl_enter_mon_mode`: a failure leaves the state
as it was, less what the call of the HAL that failed has written itself. -/
def Restored (s s' : PhlInfo) : EnterStatus → Prop
  | .success => True
  | .failed l .rxfltrType =>
    ∃ cap typFltr, s' = { s with
      cap := update s.cap l.id cap
      band := update s.band l.hwBand { s.band l.hwBand with typFltr } }
  | .failed l .ppduSts =>
    ∃ ppduStsFilter, s' = { s with
      band := update s.band l.hwBand { s.band l.hwBand with ppduStsFilter } }
  | _ => s' = s

/-- When a failed entry is undone: it is refused, all calls for the bands not yet in monitor
mode pass, the type filter of the first of these bands is refused and monitor mode can be
left again, or the first link cannot even be put into sniffer mode and the baseband is there
already. -/
def EnterOk (env : EnterEnv) (links : List Rlink) (s : PhlInfo) : Prop :=
  s.drvMode ≠ .normal ∨
  (∀ l ∈ links, (s.band l.hwBand).monitorMode = false → env.Passes l.hwBand) ∨
  (∃ skipped l rest, links = skipped ++ l :: rest ∧
    (∀ l' ∈ skipped, (s.band l'.hwBand).monitorMode = true) ∧
    (s.band l.hwBand).monitorMode = false ∧ env.monEn l.hwBand = true ∧
    env.typeRefused l.hwBand ≠ none ∧ env.restoreEn skipped.length = true ∧
    s.bbSnif = false ∧
    (ClearsSniffer (s.band l.hwBand).rxFltrOptMode ∨ (s.band l.hwBand).rxFltrOpt[0] = true)) ∨
  (∃ l rest, links = l :: rest ∧ (s.band l.hwBand).monitorMode = false ∧
    env.monEn l.hwBand = false ∧ s.bbSnif = true)

lemma enterMonMode_off {band : PpduSts.HwBand} (hm : (s.band band).monitorMode = false)
    (hsnif : s.bbSnif = true) : rtwHalEnterMonMode false band s = (s, false) := by
  have hset : (s.band band).rtwHalSetRxfltrOptByMode false .sniffer = (s.band band, false) := by
    simp [Band.rtwHalSetRxfltrOptByMode, rtwHalMacSetRxfltrOptByMode, macSetRxFltrOpt, hm]
  rw [rtwHalEnterMonMode, hset, onBand, ← hsnif]
  dsimp only
  rw [update_eq_self]

lemma enter_restored (h : Inv last s) {env : EnterEnv} {links : List Rlink}
    (hok : EnterOk env links s) :
    Restored s (rtwPhlEnterMonMode env links s).1 (rtwPhlEnterMonMode env links s).2 := by
  unfold rtwPhlEnterMonMode
  by_cases hdrv : s.drvMode ≠ .normal
  · rw [if_pos hdrv]
    rfl
  rw [if_neg hdrv]
  rcases hok with hmode | hpass | ⟨skipped, l, rest, rfl, hskip, hm, hmon, htype, hrest, hsnif, hclear⟩
    | ⟨l, rest, rfl, hm, hmon, hsnif⟩
  · exact absurd hmode hdrv
  · rw [eq_of_snd (enterLinks_success [] h hpass)]
    trivial
  · have hmode := (getRxfltrOptMode_eq_sniffer (h l.hwBand)).not.2 (by rw [hm]; decide)
    rw [(h l.hwBand).saved] at hclear
    rw [enterLinks_skip h hskip, enterLinks, if_neg hmode, append_nil, length_reverse]
    obtain ⟨cap, typFltr, heq⟩ := enterLink_type_refused h hm hmon htype hrest hsnif hclear
    rw [heq]
    exact ⟨cap, typFltr, rfl⟩
  · have hmode := (getRxfltrOptMode_eq_sniffer (h l.hwBand)).not.2 (by rw [hm]; decide)
    rw [enterLinks, if_neg hmode, enterLink, hmon, enterMonMode_off hm hsnif]
    rfl

/-! ## Leaving -/

/-- The CMAC is enabled in every call for the link `idx` but the undoing of others. -/
structure LeaveEnv.Passes (env : LeaveEnv) (idx : ℕ) : Prop where
  crc : env.crcEn idx = true
  type : env.typeRefused idx = none
  ppdu : env.ppduEn idx = true
  restore : env.restoreEn idx = true

lemma leaveMonMode_monitor (macEn : Bool) (band b : PpduSts.HwBand) (s : PhlInfo)
    (h : (s.band b).monitorMode = false) :
    ((rtwHalLeaveMonMode macEn band s).1.band b).monitorMode = false := by
  unfold rtwHalLeaveMonMode
  by_cases hb : b = band
  · subst hb
    rw [onBand_band_self, Band.rtwHalSetRxfltrOptByMode, if_pos (.inr ⟨rfl, h⟩)]
    exact h
  · rw [onBand_band_ne _ hb]
    exact h

lemma leaveMonMode_success {macEn : Bool} {band : PpduSts.HwBand}
    (h : (rtwHalLeaveMonMode macEn band s).2 = true) :
    macEn = true ∧ ((rtwHalLeaveMonMode macEn band s).1.band band).monitorMode = false := by
  unfold rtwHalLeaveMonMode at h ⊢
  rw [onBand_band_self]
  have hok : ((s.band band).rtwHalSetRxfltrOptByMode macEn .restore).2 = true := h
  obtain heq | ⟨hmode, -⟩ | ⟨-, hm, rfl⟩ | ⟨-, hr, -⟩ :=
    setRxfltrOpt_cases macEn .restore (s.band band)
  · rw [heq] at hok
    exact absurd hok Bool.false_ne_true
  · exact absurd hmode (by decide)
  · exact ⟨rfl, by rw [setRxfltrOpt_restore hm]⟩
  · exact absurd rfl hr

lemma leaveLink_success {env : LeaveEnv} {idx : ℕ} (h : (leaveLink env idx l s).2 = none) :
    env.Passes idx ∧ ∀ b, (b = l.hwBand ∨ (s.band b).monitorMode = false) →
      ((leaveLink env idx l s).1.band b).monitorMode = false := by
  revert h
  unfold leaveLink
  have hsame₁ := acptCrcErrPkt_sameMonitor (env.crcEn idx) false l.hwBand s
  have hcrc := acptCrcErrPkt_snd (env.crcEn idx) false (s.band l.hwBand)
  split
  · exact nofun
  next s₁ heq =>
  rw [heq] at hsame₁
  have hcrc₁ : env.crcEn idx = true := hcrc.symm.trans (congrArg Prod.snd heq)
  dsimp only
  have hsame₂ := setRxfltrType_sameMonitor env.active (env.typeRefused idx) l .roleInit
    (rtwHalSetAppendFcs false s₁).1
  have htype := setRxfltrType_snd env.active (env.typeRefused idx) l .roleInit
    (rtwHalSetAppendFcs false s₁).1
  split
  · exact nofun
  next s₂ heq =>
  rw [heq] at hsame₂ htype
  have htype₁ : env.typeRefused idx = none := Option.isNone_iff_eq_none.1 htype.symm
  have hsame₃ := cfgPpduStsFltr_sameMonitor (env.ppduEn idx) halPpduHasCrcOk l.hwBand s₂
  have hppdu := cfgPpduStsFltr_snd (env.ppduEn idx) halPpduHasCrcOk (s₂.band l.hwBand)
  split
  · exact nofun
  next s₃ heq =>
  rw [heq] at hsame₃
  have hppdu₁ : env.ppduEn idx = true := hppdu.symm.trans (congrArg Prod.snd heq)
  have hkeep := fun b => leaveMonMode_monitor (env.restoreEn idx) l.hwBand b s₃
  split
  · exact nofun
  next s₄ heq =>
  rw [heq] at hkeep
  rintro -
  obtain ⟨hrest, hself⟩ := leaveMonMode_success (congrArg Prod.snd heq)
  rw [heq] at hself
  refine ⟨⟨hcrc₁, htype₁, hppdu₁, hrest⟩, ?_⟩
  rintro b (rfl | hb)
  · exact hself
  · apply hkeep
    rw [hsame₃, hsame₂]
    exact (hsame₁ b).trans hb

lemma leaveLinks_success {env : LeaveEnv} (done links : List Rlink) {s : PhlInfo}
    (h : (leaveLinks env done links s).2 = true) :
    (∀ i < links.length, env.Passes (done.length + i)) ∧
      ∀ b, ((∃ l ∈ links, l.hwBand = b) ∨ (s.band b).monitorMode = false) →
        ((leaveLinks env done links s).1.band b).monitorMode = false := by
  induction links generalizing done s with
  | nil =>
    refine ⟨nofun, ?_⟩
    rintro b (⟨l, hl, -⟩ | hb)
    · exact absurd hl not_mem_nil
    · exact hb
  | cons l links ih =>
    revert h
    unfold leaveLinks
    split
    · next s₁ heq =>
        intro h
        obtain ⟨hpass, hleft⟩ := leaveLink_success (congrArg Prod.snd heq)
        rw [heq] at hleft
        obtain ⟨hpasses, hout⟩ := ih _ h
        refine ⟨fun i hi => ?_, ?_⟩
        · cases i with
          | zero => exact hpass
          | succ i =>
            have hidx := hpasses i (Nat.lt_of_succ_lt_succ hi)
            rwa [length_cons, Nat.add_right_comm] at hidx
        · rintro b (⟨l', hl', rfl⟩ | hb)
          · rcases mem_cons.1 hl' with rfl | hmem
            · exact hout _ (.inr (hleft _ (.inl rfl)))
            · exact hout _ (.inl ⟨l', hmem, rfl⟩)
          · exact hout b (.inr (hleft b (.inr hb)))
    · exact nofun
    · exact nofun

/-- When leaving monitor mode brings the filter back: the call is refused, a call of the
HAL fails, or the option recorded for every band clears the sniffer bit. -/
def LeaveOk (env : LeaveEnv) (links : List Rlink) (s : PhlInfo) : Prop :=
  s.drvMode = .sniffer → (∀ i < links.length, env.Passes i) →
    ∀ l ∈ links, ClearsSniffer (s.band l.hwBand).rxFltrOptMode

lemma leave_success {env : LeaveEnv} {links : List Rlink}
    (h : (rtwPhlLeaveMonMode env links s).2 = true) :
    s.drvMode = .sniffer ∧ (∀ i < links.length, env.Passes i) ∧
      ∀ l ∈ links,
        ((rtwPhlLeaveMonMode env links s).1.band l.hwBand).monitorMode = false := by
  revert h
  unfold rtwPhlLeaveMonMode
  by_cases hdrv : s.drvMode = .sniffer
  · rw [if_neg (not_not.2 hdrv)]
    split
    · next s₁ heq =>
        intro h
        obtain ⟨hpass, hout⟩ := leaveLinks_success [] links (congrArg Prod.snd heq)
        rw [heq] at hout
        refine ⟨hdrv, fun i hi => ?_, fun l hl => hout _ (.inl ⟨l, hl, rfl⟩)⟩
        have hidx := hpass i hi
        rwa [length_nil, Nat.zero_add] at hidx
    · next hne =>
        intro h
        exact absurd (eq_of_snd h) (hne _)
  · rw [if_pos hdrv]
    exact nofun

end

/-! ## Runs -/

/-- `mode` of `scanSet` is the byte that the scan passes; the links of `enter` and `leave`
are those of the role. -/
inductive Call where
  | setOpt (macEn : Bool) (band : PpduSts.HwBand) (mode : RxFltrOptMode)
  | scanSet (macEn : Bool) (band : PpduSts.HwBand) (offChannel : Bool) (mode : ℕ)
  | enter (env : EnterEnv) (links : List Rlink)
  | leave (env : LeaveEnv) (links : List Rlink)

/-- The state with the options last set with success, `SNIFFER` and `RESTORE` apart. -/
structure Trace where
  phl : PhlInfo
  last : PpduSts.HwBand → RxFltrOptMode

namespace Call

def exec (s : PhlInfo) : Call → PhlInfo × Bool
  | .setOpt macEn band mode => onBand s band ((s.band band).rtwHalSetRxfltrOptByMode macEn mode)
  | .scanSet macEn band offChannel mode => rtwHalScanSetRxfltrByMode macEn band offChannel mode s
  | .enter env links =>
    match rtwPhlEnterMonMode env links s with
    | (s, .success) => (s, true)
    | (s, _) => (s, false)
  | .leave env links => rtwPhlLeaveMonMode env links s

def option (s : PhlInfo) : Call → Option (PpduSts.HwBand × RxFltrOptMode)
  | .setOpt _ band mode => some (band, mode)
  | .scanSet _ band offChannel mode => some (band, if offChannel then .scan else s.fltrMode mode)
  | .enter .. => none
  | .leave .. => none

/-- The record of the options last set after a call that reports `ok`. -/
def record (s : PhlInfo) (last : PpduSts.HwBand → RxFltrOptMode) (ok : Bool) (c : Call) :
    PpduSts.HwBand → RxFltrOptMode :=
  match c.option s with
  | none => last
  | some (band, mode) => update last band (lastOption mode ok (last band))

/-- What has to stand after a call: a band that has left monitor mode shows the option last
set for it, and a failed entry has left nothing behind. -/
def Restores (t : Trace) : Call → Prop
  | .enter env links =>
    Restored t.phl (rtwPhlEnterMonMode env links t.phl).1 (rtwPhlEnterMonMode env links t.phl).2
  | .leave env links =>
    (rtwPhlLeaveMonMode env links t.phl).2 = true → ∀ l ∈ links,
      let b := (rtwPhlLeaveMonMode env links t.phl).1.band l.hwBand
      b.monitorMode = false ∧ ShowsOption (t.last l.hwBand) b.rxFltrOpt
  | c => ∀ band, c.option t.phl = some (band, .restore) → (c.exec t.phl).2 = true →
      let b := (c.exec t.phl).1.band band
      b.monitorMode = false ∧ ShowsOption (t.last band) b.rxFltrOpt

def Ok (s : PhlInfo) : Call → Prop
  | .enter env links => EnterOk env links s
  | .leave env links => LeaveOk env links s
  | c => ∀ band, c.option s = some (band, .restore) → (s.band band).monitorMode = true →
      ClearsSniffer (s.band band).rxFltrOptMode

end Call

def Trace.step (t : Trace) (c : Call) : Trace where
  phl := (c.exec t.phl).1
  last := c.record t.phl t.last (c.exec t.phl).2

def Started (s : PhlInfo) : Prop :=
  ∀ band, (s.band band).monitorMode = false ∧ BandInv (s.band band).rxFltrOptMode (s.band band)

def Trace.start (s : PhlInfo) : Trace where
  phl := s
  last := fun band => (s.band band).rxFltrOptMode

section

variable {t : Trace} {s : PhlInfo} {c : Call} {band : PpduSts.HwBand} {mode : RxFltrOptMode}

lemma exec_option (h : c.option s = some (band, mode)) :
    ∃ macEn fltrMode, c.exec s = onBand { s with fltrMode } band
      ((s.band band).rtwHalSetRxfltrOptByMode macEn mode) := by
  cases c with
  | setOpt macEn b m =>
    obtain ⟨rfl, rfl⟩ := Prod.mk.inj (Option.some.inj h)
    exact ⟨macEn, s.fltrMode, rfl⟩
  | scanSet macEn b off i =>
    obtain ⟨rfl, rfl⟩ := Prod.mk.inj (Option.some.inj h)
    cases off with
    | true => exact ⟨macEn, _, rfl⟩
    | false => exact ⟨macEn, s.fltrMode, rfl⟩
  | enter env links => exact absurd h nofun
  | leave env links => exact absurd h nofun

section

variable (h : Inv t.last t.phl)
include h

lemma inv_step (c : Call) : Inv (t.step c).last (t.step c).phl := by
  unfold Trace.step Call.record
  dsimp only
  cases hopt : c.option t.phl with
  | some p =>
    obtain ⟨band, mode⟩ := p
    obtain ⟨macEn, fltrMode, heq⟩ := exec_option hopt
    rw [heq]
    exact Inv.onBand (s := { t.phl with fltrMode }) h ((h band).setRxfltrOpt macEn mode)
  | none =>
    cases c with
    | setOpt macEn b m => exact absurd hopt nofun
    | scanSet macEn b off i => exact absurd hopt nofun
    | leave env links => exact h.leave env links
    | enter env links =>
      have hent := h.enter env links
      unfold Call.exec
      dsimp only
      split
      · next s₁ heq => rw [heq] at hent; exact hent
      · next s₁ _ _ heq => rw [heq] at hent; exact hent

lemma restores_restore (hopt : c.option t.phl = some (band, .restore))
    (hok : (t.phl.band band).monitorMode = true →
      ClearsSniffer (t.phl.band band).rxFltrOptMode)
    (hsucc : (c.exec t.phl).2 = true) :
    ((c.exec t.phl).1.band band).monitorMode = false ∧
      ShowsOption (t.last band) ((c.exec t.phl).1.band band).rxFltrOpt := by
  obtain ⟨macEn, fltrMode, heq⟩ := exec_option hopt
  rw [heq] at hsucc ⊢
  rw [onBand_band_self]
  obtain hsame | ⟨hmode, -⟩ | ⟨-, hm, rfl⟩ | ⟨-, hr, -⟩ :=
    setRxfltrOpt_cases macEn .restore (t.phl.band band)
  · rw [hsame] at hsucc
    exact absurd hsucc Bool.false_ne_true
  · exact absurd hmode (by decide)
  · refine ⟨by rw [setRxfltrOpt_restore hm], ((h band).restore_shows_iff hm).2 ?_⟩
    rw [← (h band).saved]
    exact hok hm
  · exact absurd rfl hr

lemma restores_of_ok (hok : c.Ok t.phl) : c.Restores t := by
  cases c with
  | setOpt macEn b m =>
    intro band hopt hsucc
    exact restores_restore h hopt (hok band hopt) hsucc
  | scanSet macEn b off i =>
    intro band hopt hsucc
    exact restores_restore h hopt (hok band hopt) hsucc
  | enter env links => exact enter_restored h hok
  | leave env links =>
    intro hsucc l hl
    obtain ⟨hdrv, hpass, hout⟩ := leave_success hsucc
    have hclear := hok hdrv hpass l hl
    rw [(h l.hwBand).saved] at hclear
    exact ⟨hout l hl, (h.leave env links l.hwBand).restored hclear (hout l hl)⟩

end

lemma Started.inv (h : Started s) : Inv (Trace.start s).last (Trace.start s).phl :=
  fun band => (h band).2

/-- In a run whose calls meet the condition, monitor mode is left with the option last set
and a failed entry leaves nothing behind. -/
theorem mon_mode_restores (hs : Started s) {calls : List Call}
    (hok : Guarded Trace.step (fun t c => c.Ok t.phl) (Trace.start s) calls) :
    Guarded Trace.step (fun t c => c.Restores t) (Trace.start s) calls :=
  hok.steps (fun _ c h _ => inv_step h c) (fun _ _ h hc => restores_of_ok h hc) hs.inv

end

/-! ## A driver with one role -/

def startedBand : Band where
  rxFltrOptMode := .staNormal
  monitorMode := false
  rxFltrOpt := (optReq .staNormal).setting.write 0
  typFltr := fun _ _ => .drop
  enPpduSts := true
  ppduStsFilter := halPpduHasCrcOk
  ppduStat := ⟨true, halPpduHasCrcOk⟩

def startedPhl : PhlInfo where
  drvMode := .normal
  bbSnif := false
  appendFcs := false
  band := fun _ => startedBand
  cap := fun _ _ _ => .drop
  fltrMode := fun _ => .staNormal

lemma started_startedPhl : Started startedPhl :=
  fun _ => ⟨rfl, ⟨rfl, nofun, nofun, fun _ => Setting.holds_write, nofun⟩⟩

def band0Only : EnterEnv where
  active := fun _ => []
  monEn := fun band => decide (band = .band0)
  typeRefused := fun band => if band = .band0 then none else some 0
  crcEn := fun band => decide (band = .band0)
  ppduEn := fun band => decide (band = .band0)
  restoreEn := fun _ => true

def allOn : LeaveEnv where
  active := fun _ => []
  crcEn := fun _ => true
  typeRefused := fun _ => none
  ppduEn := fun _ => true
  restoreEn := fun _ => true
  monEn := fun _ => true

def link0 : Rlink := ⟨(0, 0), .band0⟩
def link1 : Rlink := ⟨(0, 1), .band1⟩

/-- The second link cannot be put into sniffer mode; the frames of the first keep their
check sequence. -/
theorem append_fcs_left_on :
    ¬∀ s, Started s → ∀ calls,
      Guarded Trace.step (fun t c => c.Restores t) (Trace.start s) calls := by
  intro h
  have hres := (h startedPhl started_startedPhl [.enter band0Only [link0, link1]]).1
  have heq : (rtwPhlEnterMonMode band0Only [link0, link1] startedPhl).1 = startedPhl := hres
  exact Bool.noConfusion (congrArg PhlInfo.appendFcs heq)

/-- Monitor mode is entered, the band becomes that of an AP, and monitor mode is left. -/
theorem mon_mode_restores_ap :
    Guarded Trace.step (fun t c => c.Restores t) (Trace.start startedPhl)
      [.enter band0Only [link0], .setOpt true .band0 .apNormal, .leave allOn [link0]] := by
  apply mon_mode_restores started_startedPhl
  refine ⟨.inr (.inl fun l hl _ => ?_), ?_, fun _ _ l hl => ?_, trivial⟩
  · obtain rfl := mem_singleton.1 hl
    decide
  · exact fun band hopt => absurd hopt (by rintro ⟨⟩)
  · obtain rfl := mem_singleton.1 hl
    decide

end Rtl8831.Phl.MonMode
