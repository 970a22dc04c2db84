import Rtl8831.Lib.Checked
import Rtl8831.Phl.BcnTrack

/-!
# Durations of the slots of two roles

Two roles share one radio (multi-channel concurrency).  The durations that they
asked for are turned into slots of an interval, which a Bluetooth slot may share,
by four functions, one for each mode.  Each of them computes in `u16`, and for
each the exact condition is given under which no value is truncated, nothing is
divided by zero and the slots fit their roles and fill the interval.
-/

namespace Rtl8831.Phl.Mcc

open Lib Lib.Checked
open BcnTrack (tu)

abbrev U16 := Fin (2 ^ 16)

def earlyTxBcnT : ℕ := 10
def earlyRxBcnT : ℕ := 5
def minRxBcnT : ℕ := 10
def minGoStaOffsetT : ℕ := 15
def minClientDur : ℕ := earlyRxBcnT + minRxBcnT
def minApDur : ℕ := earlyTxBcnT + minGoStaOffsetT - earlyRxBcnT
def mccDurNonspecific : ℕ := 0xff
def btDurMax2ws : ℕ := 33

structure DurLimInfo where
  enable : Bool
  maxTob : U16
  maxToa : U16
  maxDur : U16

structure DurInfo where
  dur : U16
  durLimit : DurLimInfo

/-- What the duration decisions read of a `rtw_phl_mcc_role`. -/
structure Role where
  isAp : Bool
  durInfo : DurInfo

/-- `phl_mcc_dur_lim_req_info`: the slot in which a role has to be absent, in microseconds. -/
structure DurLimReqInfo where
  enable : Bool
  startT : ℕ
  dur : ℕ
  intvl : ℕ
  intvl_lt : intvl < 2 ^ 32
  dur_lt : dur < 2 ^ 32

/-- `_mcc_fill_dur_lim_info`; the time after a beacon is truncated before it is compared. -/
def mccFillDurLimInfo (bcnIntvl : U16) (durReq : DurLimReqInfo) (durLim : DurLimInfo) :
    DurLimInfo :=
  let maxToa := durReq.startT % (bcnIntvl * tu) % 2 ^ 16
  let room := (durReq.intvl + 2 ^ 32 - durReq.dur) % 2 ^ 32
  if ¬ durReq.enable ∨ bcnIntvl * tu ≠ durReq.intvl ∨ room ≤ maxToa ∨ maxToa = 0 then
    { durLim with enable := false }
  else
    { enable := true
      maxTob := Fin.ofNat (2 ^ 16) (room / tu - maxToa / tu)
      maxToa := Fin.ofNat (2 ^ 16) (maxToa / tu)
      maxDur := Fin.ofNat (2 ^ 16) (room / tu) }

inductive CoexMode
  | none
  | btMaster
  | wifiMaster
  | btWifiBalance
  deriving DecidableEq

def DurInfo.Allows (i : DurInfo) (d : ℕ) : Prop :=
  i.durLimit.enable = true → d ≤ i.durLimit.maxDur

instance (i : DurInfo) (d : ℕ) : Decidable (i.Allows d) :=
  inferInstanceAs (Decidable (_ → _))

def Role.minDur (r : Role) : ℕ := if r.isAp then minApDur else minClientDur

structure Role.Suits (r : Role) (d : ℕ) : Prop where
  min_le : r.minDur ≤ d
  allows : r.durInfo.Allows d

variable {d : ℕ × ℕ} {i : DurInfo} (r : Role)

lemma Role.minDur_eq : r.minDur = if r.isAp then 20 else 15 := rfl

lemma Role.minDur_pos : 0 < r.minDur := by
  rw [minDur_eq]
  split <;> omega

/-! ## The decisions -/

/-- `_mcc_set_dur_for_2_clients_mode` up to the minimum of a client. -/
def askedDurs (durI1 durI2 : DurInfo) (mccIntvl : U16) : Checked (ℕ × ℕ) := do
  let (dur1, dur2) ←
    if (durI1.dur : ℕ) = mccDurNonspecific then do
      pure (← store 16 ((mccIntvl : ℕ) - (durI2.dur : ℕ)), (durI2.dur : ℕ))
    else do
      pure ((durI1.dur : ℕ), ← store 16 ((mccIntvl : ℕ) - (durI1.dur : ℕ)))
  if dur1 < minClientDur then do
    pure (minClientDur, ← store 16 ((mccIntvl : ℕ) - minClientDur))
  else if dur2 < minClientDur then do
    pure (← store 16 ((mccIntvl : ℕ) - minClientDur), minClientDur)
  else pure (dur1, dur2)

def limitDurs (durI1 durI2 : DurInfo) (mccIntvl : U16) (dur1 dur2 : ℕ) : Checked (ℕ × ℕ) := do
  let max1 : ℕ := durI1.durLimit.maxDur
  let max2 : ℕ := durI2.durLimit.maxDur
  let (dur1, dur2) ←
    if durI1.durLimit.enable ∧ max1 ≠ 0 ∧ max1 < dur1 then do
      pure (max1, ← store 16 ((mccIntvl : ℕ) - max1))
    else pure (dur1, dur2)
  if durI2.durLimit.enable ∧ max2 ≠ 0 ∧ max2 < dur2 then do
    pure (← store 16 ((mccIntvl : ℕ) - max2), max2)
  else pure (dur1, dur2)

def mccSetDurFor2ClientsMode (durI1 durI2 : DurInfo) (mccIntvl : U16) : Checked (ℕ × ℕ) := do
  let (dur1, dur2) ← askedDurs durI1 durI2 mccIntvl
  limitDurs durI1 durI2 mccIntvl dur1 dur2

/-- `_mcc_set_dur_for_ap_client_mode`; the bound for the AP is computed in `int`. -/
def mccSetDurForApClientMode (apDur clientDur mccIntvl : U16) : Checked (ℕ × ℕ) := do
  let ap ←
    if (apDur : ℕ) = mccDurNonspecific then store 16 ((mccIntvl : ℕ) - (clientDur : ℕ))
    else pure (apDur : ℕ)
  let ap ←
    if ap < minApDur then pure minApDur
    else if (ap : ℤ) > (mccIntvl : ℕ) - (minClientDur : ℤ) then
      store 16 ((mccIntvl : ℕ) - minClientDur)
    else pure ap
  pure (ap, ← store 16 ((mccIntvl : ℕ) - (ap : ℤ)))

/-- The minimum and the maximum of a role in `_mcc_adjust_dur_for_2g_mcc_2role_bt`. -/
structure Bounds where
  min : ℕ
  max : ℕ

def Role.bounds (r : Role) (mccIntvl : U16) : Bounds :=
  ⟨r.minDur, if r.durInfo.durLimit.enable then r.durInfo.durLimit.maxDur else mccIntvl⟩

def Bounds.Contains (b : Bounds) (d : ℕ) : Prop := b.min ≤ d ∧ d ≤ b.max

instance (b : Bounds) (d : ℕ) : Decidable (b.Contains d) := inferInstanceAs (Decidable (_ ∧ _))

/-- The second half of a round: the share of the first role moved into its
bounds, then that of the second, at the cost of the first. -/
def splitWifi (b1 b2 : Bounds) (wifiDur d1 : ℕ) : Checked (ℕ × ℕ) := do
  let d1 := if d1 < b1.min then b1.min else if b1.max < d1 then b1.max else d1
  let d2 ← store 16 ((wifiDur : ℤ) - d1)
  if d2 < b2.min then pure (← store 16 ((wifiDur : ℤ) - b2.min), b2.min)
  else if b2.max < d2 then pure (← store 16 ((wifiDur : ℤ) - b2.max), b2.max)
  else pure (d1, d2)

def adjustRound (b1 b2 : Bounds) (mccIntvl : U16) (btDur d1 d2 : ℕ) : Checked (ℕ × ℕ) := do
  let wifiDur ← store 16 ((mccIntvl : ℕ) - (btDur : ℤ))
  let share ← div (d1 * 100) (d1 + d2)
  let d1 ← store 16 ((share * wifiDur / 100 : ℕ) : ℤ)
  splitWifi b1 b2 wifiDur d1

structure Adjusted where
  dur1 : ℕ
  dur2 : ℕ
  btDur : ℕ
  deriving DecidableEq

/-- `n` rounds of the loop; `none` if none of them gave durations in their bounds. -/
def adjustLoop (b1 b2 : Bounds) (mccIntvl : U16) :
    ℕ → ℕ → ℕ → ℕ → Checked (Option Adjusted)
  | 0, _, _, _ => pure none
  | n + 1, btDur, d1, d2 => do
    let (d1, d2) ← adjustRound b1 b2 mccIntvl btDur d1 d2
    if b1.Contains d1 ∧ b2.Contains d2 then pure (some ⟨d1, d2, btDur⟩)
    else do
      let btDur ← store 16 ((btDur : ℤ) - (1 : ℕ))
      adjustLoop b1 b2 mccIntvl n btDur d1 d2

def mccAdjustDurFor2gMcc2roleBt (role1 role2 : Role) (mccIntvl btDur : U16) :
    Checked (Option Adjusted) :=
  adjustLoop (role1.bounds mccIntvl) (role2.bounds mccIntvl) mccIntvl mccIntvl btDur
    role1.durInfo.dur role2.durInfo.dur

def Keeps2Band (coexMode : CoexMode) (roleNon2g : Role) (btDur : U16) : Prop :=
  (btDur : ℕ) ≤ roleNon2g.durInfo.dur ∨ ¬ roleNon2g.durInfo.Allows btDur ∨ coexMode ≠ .btMaster

instance (coexMode : CoexMode) (roleNon2g : Role) (btDur : U16) :
    Decidable (Keeps2Band coexMode roleNon2g btDur) :=
  inferInstanceAs (Decidable (_ ∨ _ ∨ _))

/-- `_mcc_adjust_dur_for_2_band_mcc_2role_bt`: the durations of the role on 2.4 GHz
and of the other one, whose slot the Bluetooth slot lies in. -/
def mccAdjustDurFor2BandMcc2roleBt (coexMode : CoexMode) (role2g roleNon2g : Role)
    (mccIntvl btDur : U16) : Checked (ℕ × ℕ) :=
  let lim2g := role2g.durInfo.durLimit
  if Keeps2Band coexMode roleNon2g btDur then
    pure ((role2g.durInfo.dur : ℕ), (roleNon2g.durInfo.dur : ℕ))
  else do
    let dur2g ← store 16 ((mccIntvl : ℕ) - (btDur : ℕ))
    if lim2g.enable ∧ (lim2g.maxDur : ℕ) < dur2g then
      pure ((lim2g.maxDur : ℕ), ← store 16 ((mccIntvl : ℕ) - (lim2g.maxDur : ℕ)))
    else pure (dur2g, (btDur : ℕ))

/-! ## Two clients -/

def asked (durI1 durI2 : DurInfo) : ℕ :=
  if (durI1.dur : ℕ) = mccDurNonspecific then durI2.dur else durI1.dur

structure ClientsFit (durI1 durI2 : DurInfo) (mccIntvl : ℕ) : Prop where
  asked_le : asked durI1 durI2 ≤ mccIntvl
  two_min : 2 * minClientDur ≤ mccIntvl
  allows1 : durI1.Allows minClientDur
  allows2 : durI2.Allows minClientDur
  fill : durI1.durLimit.enable = true → durI2.durLimit.enable = true →
    mccIntvl ≤ (durI1.durLimit.maxDur : ℕ) + durI2.durLimit.maxDur

structure ClientSlots (durI1 durI2 : DurInfo) (mccIntvl : ℕ) (d : ℕ × ℕ) : Prop where
  first : (Role.mk false durI1).Suits d.1
  second : (Role.mk false durI2).Suits d.2
  fill : d.1 + d.2 = mccIntvl

lemma suits_client_iff {d : ℕ} :
    (Role.mk false i).Suits d ↔ 15 ≤ d ∧ (i.durLimit.enable = true → d ≤ i.durLimit.maxDur) :=
  ⟨fun h => ⟨h.min_le, h.allows⟩, fun h => ⟨h.1, h.2⟩⟩

variable {ap client : DurInfo} {durI1 durI2 : DurInfo} {mccIntvl : ℕ} {b1 b2 : Bounds}

lemma clientSlots_iff :
    ClientSlots durI1 durI2 mccIntvl d ↔
      (Role.mk false durI1).Suits d.1 ∧ (Role.mk false durI2).Suits d.2 ∧
        d.1 + d.2 = mccIntvl :=
  ⟨fun h => ⟨h.first, h.second, h.fill⟩, fun h => ⟨h.1, h.2.1, h.2.2⟩⟩

lemma clientsFit_iff :
    ClientsFit durI1 durI2 mccIntvl ↔
      asked durI1 durI2 ≤ mccIntvl ∧ 30 ≤ mccIntvl ∧
        (durI1.durLimit.enable = true → 15 ≤ (durI1.durLimit.maxDur : ℕ)) ∧
        (durI2.durLimit.enable = true → 15 ≤ (durI2.durLimit.maxDur : ℕ)) ∧
        (durI1.durLimit.enable = true → durI2.durLimit.enable = true →
          mccIntvl ≤ (durI1.durLimit.maxDur : ℕ) + durI2.durLimit.maxDur) :=
  ⟨fun h => ⟨h.1, h.2, h.3, h.4, h.5⟩, fun h => ⟨h.1, h.2.1, h.2.2.1, h.2.2.2.1, h.2.2.2.2⟩⟩

def wantedDur (durI1 durI2 : DurInfo) (mccIntvl : ℕ) : ℕ :=
  if (durI1.dur : ℕ) = mccDurNonspecific then mccIntvl - durI2.dur else durI1.dur

def keepMin (mccIntvl d : ℕ) : ℕ := max 15 (min (mccIntvl - 15) d)

lemma keepMin_bounds (d : ℕ) (h : 30 ≤ mccIntvl) :
    15 ≤ keepMin mccIntvl d ∧ 15 ≤ mccIntvl - keepMin mccIntvl d ∧
      keepMin mccIntvl d + (mccIntvl - keepMin mccIntvl d) = mccIntvl := by
  unfold keepMin
  omega

lemma raise_iff {mccIntvl d1 d2 : ℕ} {Q : ℕ × ℕ → Prop} (hfill : d1 + d2 = mccIntvl)
    (room : ∀ d, Q d → 30 ≤ mccIntvl) :
    (if d1 < 15 then 15 ≤ mccIntvl ∧ Q (15, mccIntvl - 15)
      else if d2 < 15 then 15 ≤ mccIntvl ∧ Q (mccIntvl - 15, 15) else Q (d1, d2)) ↔
      30 ≤ mccIntvl ∧ Q (keepMin mccIntvl d1, mccIntvl - keepMin mccIntvl d1) := by
  by_cases hI : 30 ≤ mccIntvl
  · split_ifs with h1 h2
    · have hk : keepMin mccIntvl d1 = 15 := by unfold keepMin; omega
      rw [hk]
      exact and_congr_left fun _ => ⟨fun _ => hI, fun _ => by omega⟩
    · have hk : keepMin mccIntvl d1 = mccIntvl - 15 := by unfold keepMin; omega
      have hk' : mccIntvl - (mccIntvl - 15) = 15 := by omega
      rw [hk, hk']
      exact and_congr_left fun _ => ⟨fun _ => hI, fun _ => by omega⟩
    · have hk : keepMin mccIntvl d1 = d1 := by unfold keepMin; omega
      have hk' : mccIntvl - d1 = d2 := by omega
      rw [hk, hk', and_iff_right hI]
  · refine iff_of_false ?_ fun h => hI h.1
    split_ifs
    · exact fun h => hI (room _ h.2)
    · exact fun h => hI (room _ h.2)
    · exact fun h => hI (room _ h)

lemma askedDurs_meets_iff {mccIntvl : U16} {Q : ℕ × ℕ → Prop}
    (room : ∀ d, Q d → 30 ≤ (mccIntvl : ℕ)) :
    (askedDurs durI1 durI2 mccIntvl).Meets Q ↔
      asked durI1 durI2 ≤ mccIntvl ∧ 30 ≤ (mccIntvl : ℕ) ∧
        Q (keepMin mccIntvl (wantedDur durI1 durI2 mccIntvl),
          mccIntvl - keepMin mccIntvl (wantedDur durI1 durI2 mccIntvl)) := by
  have hI : (mccIntvl : ℕ) < 2 ^ 16 := mccIntvl.isLt
  simp only [askedDurs, meets_bind, meets_ite, meets_pure, meets_store_sub hI, asked, wantedDur,
    show minClientDur = 15 from rfl]
  by_cases hdur : (durI1.dur : ℕ) = mccDurNonspecific
  · simp only [if_pos hdur]
    exact and_congr_right fun hle => raise_iff (by omega) room
  · simp only [if_neg hdur]
    exact and_congr_right fun hle => raise_iff (by omega) room

lemma limitDurs_meets_iff {mccIntvl : U16} {dur1 dur2 : ℕ}
    (h1 : 15 ≤ dur1) (h2 : 15 ≤ dur2) (hfill : dur1 + dur2 = mccIntvl) :
    (limitDurs durI1 durI2 mccIntvl dur1 dur2).Meets (ClientSlots durI1 durI2 mccIntvl) ↔
      (durI1.durLimit.enable = true → 15 ≤ (durI1.durLimit.maxDur : ℕ)) ∧
        (durI2.durLimit.enable = true → 15 ≤ (durI2.durLimit.maxDur : ℕ)) ∧
        (durI1.durLimit.enable = true → durI2.durLimit.enable = true →
          mccIntvl ≤ (durI1.durLimit.maxDur : ℕ) + durI2.durLimit.maxDur) := by
  have hI : (mccIntvl : ℕ) < 2 ^ 16 := mccIntvl.isLt
  simp only [limitDurs, meets_bind, meets_ite, meets_pure, meets_store_sub hI, clientSlots_iff,
    suits_client_iff]
  cases durI1.durLimit.enable <;> cases durI2.durLimit.enable <;>
    simp only [Bool.false_eq_true, true_and, false_and, and_true, iff_true, if_false,
      forall_const, false_imp_iff]
  · omega
  · split_ifs <;> omega
  · split_ifs <;> omega
  · split_ifs <;> omega

lemma mccSetDurFor2ClientsMode_meets_iff (durI1 durI2 : DurInfo) (mccIntvl : U16) :
    (mccSetDurFor2ClientsMode durI1 durI2 mccIntvl).Meets (ClientSlots durI1 durI2 mccIntvl) ↔
      ClientsFit durI1 durI2 mccIntvl := by
  rw [clientsFit_iff, mccSetDurFor2ClientsMode, meets_bind, askedDurs_meets_iff]
  · refine and_congr_right fun _ => and_congr_right fun hI => ?_
    obtain ⟨h1, h2, hfill⟩ := keepMin_bounds (wantedDur durI1 durI2 mccIntvl) hI
    exact limitDurs_meets_iff h1 h2 hfill
  · intro d h
    obtain ⟨slots, hslots⟩ := h.exists
    obtain ⟨h1, h2, hfill⟩ := clientSlots_iff.1 hslots
    have := h1.min_le
    have := h2.min_le
    simp only [Role.minDur_eq, Bool.false_eq_true, if_false] at *
    omega

/-! ## An access point and a client -/

structure ApClientSlots (ap client : DurInfo) (mccIntvl : ℕ) (d : ℕ × ℕ) : Prop where
  ap : (Role.mk true ap).Suits d.1
  client : (Role.mk false client).Suits d.2
  fill : d.1 + d.2 = mccIntvl

structure ApClientFit (ap client : DurInfo) (mccIntvl : ℕ) : Prop where
  client_le : (ap.dur : ℕ) = mccDurNonspecific → (client.dur : ℕ) ≤ mccIntvl
  two_min : minApDur + minClientDur ≤ mccIntvl
  ap_min : ap.Allows minApDur
  ap_wanted : ap.Allows (wantedDur ap client mccIntvl) ∨ ap.Allows (mccIntvl - minClientDur)
  client_rest : client.Allows (mccIntvl - minApDur) ∨
    client.Allows (mccIntvl - wantedDur ap client mccIntvl) ∧ client.Allows minClientDur

lemma apClientSlots_iff :
    ApClientSlots ap client mccIntvl d ↔
      (20 ≤ d.1 ∧ ap.Allows d.1) ∧ (15 ≤ d.2 ∧ client.Allows d.2) ∧ d.1 + d.2 = mccIntvl :=
  ⟨fun h => ⟨⟨h.1.min_le, h.1.allows⟩, ⟨h.2.min_le, h.2.allows⟩, h.3⟩,
    fun h => ⟨⟨h.1.1, h.1.2⟩, ⟨h.2.1.1, h.2.1.2⟩, h.2.2⟩⟩

lemma apClientFit_iff :
    ApClientFit ap client mccIntvl ↔
      ((ap.dur : ℕ) = mccDurNonspecific → (client.dur : ℕ) ≤ mccIntvl) ∧ 35 ≤ mccIntvl ∧
        ap.Allows 20 ∧
        (ap.Allows (wantedDur ap client mccIntvl) ∨ ap.Allows (mccIntvl - 15)) ∧
        (client.Allows (mccIntvl - 20) ∨
          client.Allows (mccIntvl - wantedDur ap client mccIntvl) ∧ client.Allows 15) :=
  ⟨fun h => ⟨h.1, h.2, h.3, h.4, h.5⟩, fun h => ⟨h.1, h.2.1, h.2.2.1, h.2.2.2.1, h.2.2.2.2⟩⟩

lemma ApClientSlots.two_min_le (h : ApClientSlots ap client mccIntvl d) : 35 ≤ mccIntvl := by
  have := apClientSlots_iff.1 h
  omega

lemma DurInfo.allows_max (i : DurInfo) (a b : ℕ) :
    i.Allows (max a b) ↔ i.Allows a ∧ i.Allows b := by
  simp only [DurInfo.Allows, Nat.max_le, imp_and]

lemma DurInfo.allows_min (i : DurInfo) (a b : ℕ) :
    i.Allows (min a b) ↔ i.Allows a ∨ i.Allows b := by
  have hmin : ∀ c, min a b ≤ c ↔ a ≤ c ∨ b ≤ c := fun c => by omega
  simp only [DurInfo.Allows, hmin, imp_or]

lemma apClientSlots_clamp_iff {mccIntvl wanted d : ℕ}
    (hI : 35 ≤ mccIntvl) (hd : d = max 20 (min (mccIntvl - 15) wanted)) :
    ApClientSlots ap client mccIntvl (d, mccIntvl - d) ↔
      ap.Allows 20 ∧ (ap.Allows wanted ∨ ap.Allows (mccIntvl - 15)) ∧
        (client.Allows (mccIntvl - 20) ∨
          client.Allows (mccIntvl - wanted) ∧ client.Allows 15) := by
  have hrest : mccIntvl - d = min (mccIntvl - 20) (max (mccIntvl - wanted) 15) := by omega
  have hbounds : 20 ≤ d ∧ 15 ≤ mccIntvl - d ∧ d + (mccIntvl - d) = mccIntvl := by omega
  rw [apClientSlots_iff, and_iff_right hbounds.1, and_iff_right hbounds.2.1, hrest,
    DurInfo.allows_min, DurInfo.allows_max, ← hrest, and_iff_left hbounds.2.2, hd,
    DurInfo.allows_max, DurInfo.allows_min, and_assoc, or_comm (a := ap.Allows (mccIntvl - 15))]

lemma clamp_iff {mccIntvl wanted : ℕ} :
    (if wanted < 20 then 20 ≤ mccIntvl ∧ ApClientSlots ap client mccIntvl (20, mccIntvl - 20)
      else if (wanted : ℤ) > (mccIntvl : ℤ) - (15 : ℕ) then
        15 ≤ mccIntvl ∧ mccIntvl - 15 ≤ mccIntvl ∧
          ApClientSlots ap client mccIntvl (mccIntvl - 15, mccIntvl - (mccIntvl - 15))
      else wanted ≤ mccIntvl ∧ ApClientSlots ap client mccIntvl (wanted, mccIntvl - wanted)) ↔
      35 ≤ mccIntvl ∧ ap.Allows 20 ∧ (ap.Allows wanted ∨ ap.Allows (mccIntvl - 15)) ∧
        (client.Allows (mccIntvl - 20) ∨
          client.Allows (mccIntvl - wanted) ∧ client.Allows 15) := by
  by_cases hI : 35 ≤ mccIntvl
  · rw [and_iff_right hI]
    split_ifs with h1 h2
    · rw [and_iff_right (by omega)]
      exact apClientSlots_clamp_iff hI (by omega)
    · rw [and_iff_right (by omega), and_iff_right (by omega)]
      exact apClientSlots_clamp_iff hI (by omega)
    · rw [and_iff_right (by omega)]
      exact apClientSlots_clamp_iff hI (by omega)
  · refine iff_of_false ?_ fun h => hI h.1
    split_ifs
    · exact fun h => hI h.2.two_min_le
    · exact fun h => hI h.2.2.two_min_le
    · exact fun h => hI h.2.two_min_le

lemma mccSetDurForApClientMode_meets_iff (ap client : DurInfo) (mccIntvl : U16) :
    (mccSetDurForApClientMode ap.dur client.dur mccIntvl).Meets
      (ApClientSlots ap client mccIntvl) ↔ ApClientFit ap client mccIntvl := by
  have hI : (mccIntvl : ℕ) < 2 ^ 16 := mccIntvl.isLt
  simp only [mccSetDurForApClientMode, meets_bind, meets_ite, meets_pure, meets_store_sub hI,
    show minClientDur = 15 from rfl, show minApDur = 20 from rfl, apClientFit_iff, wantedDur]
  by_cases hdur : (ap.dur : ℕ) = mccDurNonspecific
  · simp only [forall_const, hdur]
    exact and_congr_right fun _ => clamp_iff
  · simp only [hdur, false_imp_iff, true_and]
    exact clamp_iff

/-! ## Two roles and Bluetooth on 2.4 GHz -/

/-- Two slots in their bounds can share `wifiDur`. -/
structure Bounds.Room (b1 b2 : Bounds) (wifiDur : ℕ) : Prop where
  first : b1.min ≤ b1.max
  second : b2.min ≤ b2.max
  min_le : b1.min + b2.min ≤ wifiDur
  le_max : wifiDur ≤ b1.max + b2.max

/-- Whatever share of the time the first role has at the start, the two slots fill the
time, and they are in their bounds if that is possible. -/
structure Split (b1 b2 : Bounds) (wifiDur : ℕ) (d : ℕ × ℕ) : Prop where
  fill : d.1 + d.2 = wifiDur
  contains_iff : b1.Contains d.1 ∧ b2.Contains d.2 ↔ b1.Room b2 wifiDur

lemma split_mk {wifiDur d1 d2 : ℕ} (hfill : d1 + d2 = wifiDur)
    (hin : b1.min ≤ d1 ∧ d1 ≤ b1.max ∧ b2.min ≤ d2 ∧ d2 ≤ b2.max ↔
      b1.min ≤ b1.max ∧ b2.min ≤ b2.max ∧ b1.min + b2.min ≤ wifiDur ∧
        wifiDur ≤ b1.max + b2.max) : Split b1 b2 wifiDur (d1, d2) := by
  refine ⟨hfill, ?_⟩
  constructor
  · rintro ⟨⟨h1, h2⟩, h3, h4⟩
    have := hin.1 ⟨h1, h2, h3, h4⟩
    exact ⟨this.1, this.2.1, this.2.2.1, this.2.2.2⟩
  · rintro ⟨h1, h2, h3, h4⟩
    have := hin.2 ⟨h1, h2, h3, h4⟩
    exact ⟨⟨this.1, this.2.1⟩, this.2.2⟩

lemma splitWifi_meets_iff {wifiDur d1 : ℕ} {Q : ℕ × ℕ → Prop} {R : Prop}
    (hw : wifiDur < 2 ^ 16) (hd1 : d1 ≤ wifiDur)
    (hQ : b1.min ≤ wifiDur → b2.min ≤ wifiDur → ∀ d, Split b1 b2 wifiDur d → (Q d ↔ R)) :
    (splitWifi b1 b2 wifiDur d1).Meets Q ↔ b1.min ≤ wifiDur ∧ b2.min ≤ wifiDur ∧ R := by
  simp only [splitWifi, meets_bind, meets_ite, meets_pure, meets_store_sub hw]
  generalize hc : (if d1 < b1.min then b1.min else if b1.max < d1 then b1.max else d1) = c
  have hle : c ≤ wifiDur ↔ b1.min ≤ wifiDur := by
    rw [← hc]
    split_ifs <;> omega
  rw [hle]
  refine and_congr_right fun h1 => ?_
  have hcw : c ≤ wifiDur := hle.2 h1
  -- The second slot is what the first one leaves, moved into its own bounds.
  split_ifs with h2 h3
  · refine and_congr_right fun h4 => hQ h1 h4 _ (split_mk (by omega) ?_)
    split_ifs at hc <;> omega
  · rw [hQ h1 (by omega) _ (split_mk (by omega) _), and_iff_right (by omega),
      and_iff_right (by omega)]
    split_ifs at hc <;> omega
  · rw [hQ h1 (by omega) _ (split_mk (by omega) _), and_iff_right (by omega)]
    split_ifs at hc <;> omega

structure RoundOk (b1 b2 : Bounds) (mccIntvl : U16) (btDur d1 d2 : ℕ) : Prop where
  asked_pos : 0 < d1 + d2
  bt_le : btDur ≤ mccIntvl
  first : b1.min ≤ mccIntvl - btDur
  second : b2.min ≤ mccIntvl - btDur

lemma adjustRound_meets_iff {mccIntvl : U16} {btDur d1 d2 : ℕ}
    {Q : ℕ × ℕ → Prop} {R : Prop}
    (hQ : RoundOk b1 b2 mccIntvl btDur d1 d2 →
      ∀ d, Split b1 b2 (mccIntvl - btDur) d → (Q d ↔ R)) :
    (adjustRound b1 b2 mccIntvl btDur d1 d2).Meets Q ↔
      RoundOk b1 b2 mccIntvl btDur d1 d2 ∧ R := by
  have hI : (mccIntvl : ℕ) < 2 ^ 16 := mccIntvl.isLt
  have hw : mccIntvl - btDur < 2 ^ 16 := by omega
  have hshare : d1 * 100 / (d1 + d2) * (mccIntvl - btDur) / 100 ≤ mccIntvl - btDur := by
    have h100 : d1 * 100 / (d1 + d2) ≤ 100 := by
      apply Nat.div_le_of_le_mul
      omega
    exact Nat.div_le_of_le_mul (Nat.mul_le_mul_right _ h100)
  have hs : d1 * 100 / (d1 + d2) * (mccIntvl - btDur) / 100 < 2 ^ 16 := by omega
  simp only [adjustRound, meets_bind, meets_store_sub hI, meets_div, meets_store_natCast hs]
  calc
    _ ↔ btDur ≤ mccIntvl ∧ d1 + d2 ≠ 0 ∧
          b1.min ≤ mccIntvl - btDur ∧ b2.min ≤ mccIntvl - btDur ∧ R :=
      and_congr_right fun hbt => and_congr_right fun hpos =>
        splitWifi_meets_iff hw hshare fun h1 h2 => hQ ⟨Nat.pos_of_ne_zero hpos, hbt, h1, h2⟩
    _ ↔ RoundOk b1 b2 mccIntvl btDur d1 d2 ∧ R := by
      constructor
      · rintro ⟨hbt, hpos, h1, h2, hR⟩
        exact ⟨⟨Nat.pos_of_ne_zero hpos, hbt, h1, h2⟩, hR⟩
      · rintro ⟨hok, hR⟩
        exact ⟨hok.bt_le, Nat.ne_of_gt hok.asked_pos, hok.first, hok.second, hR⟩

structure BoundedSlots (b1 b2 : Bounds) (mccIntvl : ℕ) (a : Adjusted) : Prop where
  first : b1.Contains a.dur1
  second : b2.Contains a.dur2
  fill : a.dur1 + a.dur2 + a.btDur = mccIntvl

/-- Two slots in their bounds can share what some Bluetooth slot up to `btDur` leaves. -/
structure Bounds.RoomUpTo (b1 b2 : Bounds) (mccIntvl btDur : ℕ) : Prop where
  first : b1.min ≤ b1.max
  second : b2.min ≤ b2.max
  min_le : b1.min + b2.min ≤ mccIntvl
  le_max : mccIntvl - btDur ≤ b1.max + b2.max

lemma shrink_iff {mccIntvl n btDur : ℕ} {P : Prop} (hbt : btDur ≤ mccIntvl)
    (hroom : ¬ b1.Room b2 (mccIntvl - btDur)) (hP : 1 ≤ btDur → P) :
    (1 ≤ btDur ∧ (n = 0 ∨ P ∧ (n ≤ btDur - 1 ∨ b1.RoomUpTo b2 mccIntvl (btDur - 1)))) ↔
      n + 1 ≤ btDur ∨ b1.RoomUpTo b2 mccIntvl btDur := by
  constructor
  · rintro ⟨hpos, hn | ⟨-, hn | hup⟩⟩
    · exact Or.inl (by omega)
    · exact Or.inl (by omega)
    · have := hup.le_max
      exact Or.inr ⟨hup.first, hup.second, hup.min_le, by omega⟩
  · rintro (hn | hup)
    · exact ⟨by omega, Or.inr ⟨hP (by omega), Or.inl (by omega)⟩⟩
    · have hlow : mccIntvl - btDur < b1.min + b2.min := by
        by_contra hle
        exact hroom ⟨hup.first, hup.second, by omega, hup.le_max⟩
      have h1 := hup.first
      have h2 := hup.second
      have h3 := hup.min_le
      have hpos : 1 ≤ btDur := by omega
      exact ⟨hpos, Or.inr ⟨hP hpos, Or.inr ⟨h1, h2, h3, by omega⟩⟩⟩

/-- The Bluetooth slot shrinks by one in each round.  With no room for the two others
at any length it would shrink below zero, unless the rounds end before. -/
lemma adjustLoop_meets_iff {mccIntvl : U16} (h1 : 0 < b1.min)
    {n btDur d1 d2 : ℕ} :
    (adjustLoop b1 b2 mccIntvl n btDur d1 d2).Meets
        (fun r => ∀ a ∈ r, BoundedSlots b1 b2 mccIntvl a) ↔
      n = 0 ∨ RoundOk b1 b2 mccIntvl btDur d1 d2 ∧
        (n ≤ btDur ∨ b1.RoomUpTo b2 mccIntvl btDur) := by
  induction n generalizing btDur d1 d2 with
  | zero => simp [adjustLoop]
  | succ n ih =>
    rw [adjustLoop, meets_bind, adjustRound_meets_iff (R := n + 1 ≤ btDur ∨
      b1.RoomUpTo b2 mccIntvl btDur)]
    · simp
    rintro ⟨-, hbt, hb1, hb2⟩ ⟨d1', d2'⟩ ⟨hfill, hin⟩
    simp only [meets_ite]
    split_ifs with hc
    · have hroom := hin.1 hc
      have hmin := hroom.min_le
      have hup : b1.RoomUpTo b2 mccIntvl btDur :=
        ⟨hroom.first, hroom.second, by omega, hroom.le_max⟩
      refine iff_of_true (meets_pure.2 ?_) (Or.inr hup)
      rintro a ha
      cases ha
      exact ⟨hc.1, hc.2, by dsimp only at hfill ⊢; omega⟩
    · have hroom : ¬ b1.Room b2 (mccIntvl - btDur) := fun h => hc (hin.2 h)
      have hbt16 : btDur < 2 ^ 16 := Nat.lt_of_le_of_lt hbt mccIntvl.isLt
      rw [meets_bind, meets_store_sub hbt16, ih]
      have hok : 1 ≤ btDur → RoundOk b1 b2 mccIntvl (btDur - 1) d1' d2' := fun _ =>
        ⟨by dsimp only at hfill; omega, by omega, by omega, by omega⟩
      exact shrink_iff hbt hroom hok

structure BtSlots (role1 role2 : Role) (mccIntvl : ℕ) (a : Adjusted) : Prop where
  first : role1.Suits a.dur1
  second : role2.Suits a.dur2
  fill : a.dur1 + a.dur2 + a.btDur = mccIntvl

lemma Role.suits_iff {r : Role} {mccIntvl : U16} {d : ℕ} (hd : d ≤ mccIntvl) :
    r.Suits d ↔ (r.bounds mccIntvl).Contains d := by
  have hmax : d ≤ (r.bounds mccIntvl).max ↔ r.durInfo.Allows d := by
    unfold bounds DurInfo.Allows
    cases r.durInfo.durLimit.enable
    · simpa using hd
    · simp
  exact ⟨fun h => ⟨h.min_le, hmax.2 h.allows⟩, fun h => ⟨h.1, hmax.1 h.2⟩⟩

lemma btSlots_iff {role1 role2 : Role} {mccIntvl : U16} {a : Adjusted} :
    BtSlots role1 role2 mccIntvl a ↔
      BoundedSlots (role1.bounds mccIntvl) (role2.bounds mccIntvl) mccIntvl a := by
  constructor
  · rintro ⟨h1, h2, h3⟩
    exact ⟨(Role.suits_iff (by omega)).1 h1, (Role.suits_iff (by omega)).1 h2, h3⟩
  · rintro ⟨h1, h2, h3⟩
    exact ⟨(Role.suits_iff (by omega)).2 h1, (Role.suits_iff (by omega)).2 h2, h3⟩

/-- There is room in the interval for the two slots at some length of the Bluetooth
slot, and at the length that was asked for there is room for each of the minima. -/
structure AdjustFit (role1 role2 : Role) (mccIntvl btDur : U16) : Prop where
  start : RoundOk (role1.bounds mccIntvl) (role2.bounds mccIntvl) mccIntvl btDur
    role1.durInfo.dur role2.durInfo.dur
  room : (role1.bounds mccIntvl).RoomUpTo (role2.bounds mccIntvl) mccIntvl btDur

lemma mccAdjustDurFor2gMcc2roleBt_meets_iff (role1 role2 : Role) (mccIntvl btDur : U16) :
    (mccAdjustDurFor2gMcc2roleBt role1 role2 mccIntvl btDur).Meets
        (fun r => ∀ a ∈ r, BtSlots role1 role2 mccIntvl a) ↔
      (mccIntvl : ℕ) = 0 ∨ AdjustFit role1 role2 mccIntvl btDur := by
  have hmin : 0 < (role1.bounds mccIntvl).min := role1.minDur_pos
  simp only [btSlots_iff]
  rw [mccAdjustDurFor2gMcc2roleBt, adjustLoop_meets_iff hmin]
  refine or_congr_right ⟨?_, fun h => ⟨h.start, Or.inr h.room⟩⟩
  rintro ⟨hok, hrounds | hroom⟩
  · have := hok.first
    omega
  · exact ⟨hok, hroom⟩

/-! ## Two roles on two bands -/

structure BandSlots (role2g roleNon2g : Role) (mccIntvl : ℕ) (d : ℕ × ℕ) : Prop where
  on2g : role2g.Suits d.1
  non2g : roleNon2g.Suits d.2
  fill : d.1 + d.2 = mccIntvl

structure BandFit (role2g roleNon2g : Role) (mccIntvl btDur : ℕ) : Prop where
  bt_le : btDur ≤ mccIntvl
  adjusted : role2g.durInfo.Allows (mccIntvl - btDur) →
    role2g.minDur ≤ mccIntvl - btDur ∧ roleNon2g.Suits btDur
  limited : ¬ role2g.durInfo.Allows (mccIntvl - btDur) →
    role2g.minDur ≤ role2g.durInfo.durLimit.maxDur ∧
      roleNon2g.Suits (mccIntvl - role2g.durInfo.durLimit.maxDur)

lemma not_allows_iff {d : ℕ} :
    ¬ i.Allows d ↔ i.durLimit.enable = true ∧ (i.durLimit.maxDur : ℕ) < d := by
  rw [DurInfo.Allows, Classical.not_imp, Nat.not_le]

lemma mccAdjustDurFor2BandMcc2roleBt_meets_iff (coexMode : CoexMode) (role2g roleNon2g : Role)
    (mccIntvl btDur : U16) :
    (mccAdjustDurFor2BandMcc2roleBt coexMode role2g roleNon2g mccIntvl btDur).Meets
        (BandSlots role2g roleNon2g mccIntvl) ↔
      if Keeps2Band coexMode roleNon2g btDur then
        BandSlots role2g roleNon2g mccIntvl (role2g.durInfo.dur, roleNon2g.durInfo.dur)
      else BandFit role2g roleNon2g mccIntvl btDur := by
  have hI : (mccIntvl : ℕ) < 2 ^ 16 := mccIntvl.isLt
  unfold mccAdjustDurFor2BandMcc2roleBt
  split_ifs with hkeep
  · rw [meets_pure]
  simp only [meets_bind, meets_ite, meets_pure, meets_store_sub hI, ← not_allows_iff]
  constructor
  · rintro ⟨hbt, h⟩
    refine ⟨hbt, fun hall => ?_, fun hall => ?_⟩
    · rw [if_neg (not_not.2 hall)] at h
      exact ⟨h.on2g.min_le, h.non2g⟩
    · rw [if_pos hall] at h
      exact ⟨h.2.on2g.min_le, h.2.non2g⟩
  · rintro ⟨hbt, hadj, hlim⟩
    refine ⟨hbt, ?_⟩
    by_cases hall : role2g.durInfo.Allows (mccIntvl - btDur)
    · obtain ⟨hmin, hnon⟩ := hadj hall
      rw [if_neg (not_not.2 hall)]
      exact ⟨⟨hmin, hall⟩, hnon, by omega⟩
    · obtain ⟨hmin, hnon⟩ := hlim hall
      obtain ⟨-, hlt⟩ := not_allows_iff.1 hall
      rw [if_pos hall]
      exact ⟨by omega, ⟨hmin, fun _ => Nat.le_refl _⟩, hnon, by omega⟩

end Rtl8831.Phl.Mcc
