import Rtl8831.Lib.Periodic
import Rtl8831.Phl.Noa

/-!
# The next start of something periodic

A TWT agreement and a NoA schedule start at a time and come back after each interval; the
driver computes the next start from a time that it has read from the hardware.
-/

namespace Rtl8831.Phl.NextStart

open Lib Noa

/-- The 64-bit time of two halves. -/
def word (h l : UInt32) : ℕ := h.toNat * 2 ^ 32 + l.toNat

def halves (t : UInt64) : UInt32 × UInt32 :=
  (UInt32.ofNat (t.toNat / 2 ^ 32), UInt32.ofNat (t.toNat % 2 ^ 32))

/-- What `phl_twt_get_target_wake_time` reads of `struct rtw_phl_twt_info`; the exponent has
five bits on the air. -/
structure TwtInfo where
  twtWakeIntExp : BitVec 5
  twtWakeIntMantissa : UInt16
  targetWakeTimeH : UInt32
  targetWakeTimeL : UInt32

def TwtInfo.interval (i : TwtInfo) : ℕ := i.twtWakeIntMantissa.toNat * 2 ^ i.twtWakeIntExp.toNat

/-- `_twt_calc_intvl`; the product is kept in 32 bits. -/
def TwtInfo.calcIntvl (i : TwtInfo) : UInt32 := UInt32.ofNat i.interval

def ignoreCfgId : UInt8 := 0xFF

/-- `struct rtw_phl_twt_get_twt_i`; the offset is in ms. -/
structure GetTwtI where
  id : UInt8
  offset : UInt16

inductive Outcome
  | failure
  | divZero
  | success (tsfH tsfL : UInt32)
  deriving DecidableEq

section

variable (twtSup twtInit : Bool) (tsf : Option (UInt32 × UInt32))
  (getConfigById : UInt8 → Option TwtInfo) (g : GetTwtI)

def phlTwtGetTargetWakeTime : Outcome :=
  if twtSup = false ∨ twtInit = false then .failure
  else
    match tsf with
    | none => .failure
    | some (tsfH, tsfL) =>
      let curTsf := UInt64.ofNat (word tsfH tsfL)
      let tgtTsf := curTsf + UInt64.ofNat (g.offset.toNat * 1000)
      if g.id = ignoreCfgId then .success (halves tgtTsf).1 (halves tgtTsf).2
      else
        match getConfigById g.id with
        | none => .failure
        | some i =>
          let refTsf := UInt64.ofNat (word i.targetWakeTimeH i.targetWakeTimeL)
          let intvl := i.calcIntvl.toUInt64
          if intvl = 0 then .divZero
          else
            let difTsf := tgtTsf - refTsf
            let tgtTsf := tgtTsf - difTsf % intvl + intvl
            .success (halves tgtTsf).1 (halves tgtTsf).2

end

/-- `_phl_p2pps_calc_next_noa_s_time`; `none` is a division by zero. -/
def calcNextNoaSTime (rptTsfH rptTsfL : UInt32) (origDesc : NoaDesc) : Option NoaDesc :=
  let oldSt := UInt64.ofNat (word origDesc.startTH origDesc.startTL)
  let deltaT := UInt64.ofNat (word rptTsfH rptTsfL) - oldSt
  let interval := origDesc.interval.toUInt64
  if interval = 0 then none
  else
    let newSt := oldSt + (deltaT / interval + 1) * interval
    some { origDesc with startTH := (halves newSt).1, startTL := (halves newSt).2 }

/-- The first time after `ref` that is a whole number of intervals from `start`. -/
def IsNext (start ref interval t : ℕ) : Prop :=
  IsLeast {x : ℤ | (ref : ℤ) < x ∧ (interval : ℤ) ∣ x - start} t

lemma word_lt (h l : UInt32) : word h l < 2 ^ 64 := by
  have hh := h.toNat_lt
  have hl := l.toNat_lt
  unfold word
  omega

lemma word_halves (t : UInt64) : word (halves t).1 (halves t).2 = t.toNat := by
  have ht := t.toNat_lt
  have hh : (UInt32.ofNat (t.toNat / 2 ^ 32)).toNat = t.toNat / 2 ^ 32 :=
    UInt32.toNat_ofNat'.trans (Nat.mod_eq_of_lt (by omega))
  have hl : (UInt32.ofNat (t.toNat % 2 ^ 32)).toNat = t.toNat % 2 ^ 32 :=
    UInt32.toNat_ofNat'.trans (Nat.mod_eq_of_lt (by omega))
  unfold word halves
  rw [hh, hl]
  omega

lemma isNext_iff {start ref interval t : ℕ} (hpos : 0 < interval) :
    IsNext start ref interval t ↔ (t : ℤ) = nextStart interval start ref := by
  have hleast : IsLeast {x : ℤ | (ref : ℤ) < x ∧ (interval : ℤ) ∣ x - start}
      (nextStart interval start ref) := isLeast_nextStart (by exact_mod_cast hpos)
  refine ⟨fun h => h.unique hleast, fun h => ?_⟩
  rw [IsNext, h]
  exact hleast

variable {r s p : UInt64}

lemma toNat_step (hp : p ≠ 0) :
    (r - (r - s) % p + p).toNat =
      (r.toNat + (p.toNat - (r - s).toNat % p.toNat)) % 2 ^ 64 := by
  have hpos : 0 < p.toNat := Nat.pos_of_ne_zero fun h => hp (UInt64.toNat_inj.1 h)
  have hlt := Nat.mod_lt (r - s).toNat hpos
  have hbound := p.toNat_lt
  have hr := r.toNat_lt
  rw [UInt64.toNat_add, UInt64.toNat_sub, UInt64.toNat_mod]
  omega

/-- The step is right just if it does not leave the 64 bits, and a start that is still to come
does no harm because the interval divides the 64-bit range. -/
lemma step_isNext_iff (hp : p ≠ 0) :
    IsNext s.toNat r.toNat p.toNat (r - (r - s) % p + p).toNat ↔
      nextStart p.toNat s.toNat r.toNat < 2 ^ 64 ∧
        (s.toNat ≤ r.toNat ∨ p.toNat ∣ 2 ^ 64) := by
  have hpos : 0 < p.toNat := Nat.pos_of_ne_zero fun h => hp (UInt64.toNat_inj.1 h)
  have hlt := Nat.mod_lt (r - s).toNat hpos
  have hr := r.toNat_lt
  have hs := s.toNat_lt
  have hp64 := p.toNat_lt
  have hnext := nextStart_bounds (S := s.toNat) (R := r.toNat) (P := p.toNat) (by omega)
  have hdif : (r - s).toNat = (2 ^ 64 - s.toNat + r.toNat) % 2 ^ 64 := UInt64.toNat_sub r s
  have hcast : ((r.toNat + (p.toNat - (r - s).toNat % p.toNat) : ℕ) : ℤ) =
      r.toNat + (p.toNat - ((r - s).toNat : ℤ) % p.toNat) := by
    push_cast [hlt.le]
    rfl
  have hdvd : (p.toNat : ℤ) ∣ (r - s).toNat - ((r.toNat : ℤ) - s.toNat) ↔
      s.toNat ≤ r.toNat ∨ p.toNat ∣ 2 ^ 64 := by
    by_cases hle : s.toNat ≤ r.toNat
    · have hzero : ((r - s).toNat : ℤ) - ((r.toNat : ℤ) - s.toNat) = 0 := by omega
      rw [hzero]
      exact iff_of_true (dvd_zero _) (.inl hle)
    · have hwrap : ((r - s).toNat : ℤ) - ((r.toNat : ℤ) - s.toNat) = ((2 ^ 64 : ℕ) : ℤ) := by
        push_cast
        omega
      rw [hwrap, Int.natCast_dvd_natCast, or_iff_right hle]
  rw [isNext_iff hpos, toNat_step hp, ← hdvd, ← sub_emod_eq_nextStart_iff, ← hcast]
  generalize r.toNat + (p.toNat - (r - s).toNat % p.toNat) = t at hcast
  have hbound : (t : ℤ) ≤ r.toNat + p.toNat := by
    rw [hcast]
    have := Int.emod_nonneg ((r - s).toNat : ℤ) (b := p.toNat) (by omega)
    omega
  by_cases hfit : t < 2 ^ 64
  · rw [Nat.mod_eq_of_lt hfit]
    constructor
    · intro h
      exact ⟨by omega, h⟩
    · exact fun h => h.2
  · refine iff_of_false ?_ ?_
    · omega
    · omega

/-- The NoA start is moved on by whole intervals, which comes to the same. -/
lemma start_add_eq_step : s + ((r - s) / p + 1) * p = r - (r - s) % p + p := by
  have hdiv : (r - s) % p + p * ((r - s) / p) = r - s :=
    UInt64.toNat_inj.1 (by
      have hlt := (r - s).toNat_lt
      have hsplit := Nat.mod_add_div (r - s).toNat p.toNat
      rw [UInt64.toNat_add, UInt64.toNat_mod, UInt64.toNat_mul, UInt64.toNat_div,
        Nat.add_mod_mod, hsplit, Nat.mod_eq_of_lt hlt])
  have hrem : (r - s) % p = r - s - p * ((r - s) / p) := by
    grind
  grind

section

variable {getConfigById : UInt8 → Option TwtInfo} {g : GetTwtI} {i : TwtInfo}

lemma TwtInfo.toNat_calcIntvl (i : TwtInfo) : i.calcIntvl.toNat = i.interval % 2 ^ 32 :=
  UInt32.toNat_ofNat'

lemma phlTwtGetTargetWakeTime_eq {tsfH tsfL : UInt32} (hid : g.id ≠ ignoreCfgId)
    (hconfig : getConfigById g.id = some i) (hintvl : i.calcIntvl.toUInt64 ≠ 0)
    {r : UInt64} (hr : r = UInt64.ofNat (word tsfH tsfL) + UInt64.ofNat (g.offset.toNat * 1000)) :
    phlTwtGetTargetWakeTime true true (some (tsfH, tsfL)) getConfigById g =
      let t := r - (r - UInt64.ofNat (word i.targetWakeTimeH i.targetWakeTimeL)) %
        i.calcIntvl.toUInt64 + i.calcIntvl.toUInt64
      .success (halves t).1 (halves t).2 := by
  rw [phlTwtGetTargetWakeTime, if_neg (by decide), hr]
  dsimp only
  rw [if_neg hid, hconfig]
  exact if_neg hintvl

lemma calcNextNoaSTime_eq {h l : UInt32} {d : NoaDesc} (hintvl : d.interval.toUInt64 ≠ 0)
    {r s : UInt64} (hr : r = UInt64.ofNat (word h l))
    (hs : s = UInt64.ofNat (word d.startTH d.startTL)) :
    calcNextNoaSTime h l d =
      let t := r - (r - s) % d.interval.toUInt64 + d.interval.toUInt64
      some { d with startTH := (halves t).1, startTL := (halves t).2 } := by
  rw [calcNextNoaSTime, ← start_add_eq_step, hr, hs]
  exact if_neg hintvl

lemma exists_success_iff {t : UInt64} {Q : ℕ → Prop} :
    (∃ h l, Outcome.success (halves t).1 (halves t).2 = .success h l ∧ Q (word h l)) ↔
      Q t.toNat := by
  constructor
  · rintro ⟨h, l, heq, hq⟩
    cases heq
    rwa [word_halves] at hq
  · exact fun hq => ⟨_, _, rfl, (word_halves t).symm ▸ hq⟩

lemma toNat_ofNat_word (h l : UInt32) : (UInt64.ofNat (word h l)).toNat = word h l :=
  UInt64.toNat_ofNat'.trans (Nat.mod_eq_of_lt (word_lt h l))

end

/-- The target time for an agreement, in the order in which it can go wrong: no interval, a
truncated one, a time past the offset that leaves 64 bits, and the step itself. -/
lemma target_wake_time_iff {getConfigById : UInt8 → Option TwtInfo} {g : GetTwtI} {i : TwtInfo}
    (hid : g.id ≠ ignoreCfgId) (hconfig : getConfigById g.id = some i) (tsfH tsfL : UInt32) :
    (∃ h l, phlTwtGetTargetWakeTime true true (some (tsfH, tsfL)) getConfigById g = .success h l ∧
        i.calcIntvl.toNat = i.interval ∧
        IsNext (word i.targetWakeTimeH i.targetWakeTimeL)
          (word tsfH tsfL + g.offset.toNat * 1000) i.interval (word h l)) ↔
      (0 < i.interval ∧ i.interval < 2 ^ 32) ∧
        nextStart i.interval (word i.targetWakeTimeH i.targetWakeTimeL)
          (word tsfH tsfL + g.offset.toNat * 1000 : ℕ) < 2 ^ 64 ∧
        (word i.targetWakeTimeH i.targetWakeTimeL ≤ word tsfH tsfL + g.offset.toNat * 1000 ∨
          i.interval ∣ 2 ^ 64) := by
  have hcalc := i.toNat_calcIntvl
  have hto : i.calcIntvl.toUInt64.toNat = i.calcIntvl.toNat := UInt32.toNat_toUInt64 _
  by_cases hfits : 0 < i.interval ∧ i.interval < 2 ^ 32
  · have hkept : i.calcIntvl.toNat = i.interval := hcalc.trans (Nat.mod_eq_of_lt hfits.2)
    have hne : i.calcIntvl.toUInt64 ≠ 0 := fun h => by
      rw [h, hkept] at hto
      exact hfits.1.ne hto
    have hoff := g.offset.toNat_lt
    have hwo : (UInt64.ofNat (g.offset.toNat * 1000)).toNat = g.offset.toNat * 1000 :=
      UInt64.toNat_ofNat'.trans (Nat.mod_eq_of_lt (by omega))
    obtain ⟨r, hr⟩ : ∃ r, r = UInt64.ofNat (word tsfH tsfL) +
        UInt64.ofNat (g.offset.toNat * 1000) := ⟨_, rfl⟩
    rw [phlTwtGetTargetWakeTime_eq hid hconfig hne hr,
      @exists_success_iff _ (fun t => i.calcIntvl.toNat = i.interval ∧
        IsNext (word i.targetWakeTimeH i.targetWakeTimeL)
          (word tsfH tsfL + g.offset.toNat * 1000) i.interval t),
      and_iff_right hkept, and_iff_right hfits]
    by_cases hwrap : word tsfH tsfL + g.offset.toNat * 1000 < 2 ^ 64
    · have hto64 : r.toNat = word tsfH tsfL + g.offset.toNat * 1000 := by
        rw [hr, UInt64.toNat_add, toNat_ofNat_word, hwo, Nat.mod_eq_of_lt hwrap]
      have hstep := step_isNext_iff (r := r)
        (s := UInt64.ofNat (word i.targetWakeTimeH i.targetWakeTimeL)) hne
      rwa [hto64, hto, hkept, toNat_ofNat_word] at hstep
    · -- No time of 64 bits comes after the offset.
      refine iff_of_false (fun h => ?_) (fun h => ?_)
      · have hlt := h.1.1
        have hbound := UInt64.toNat_lt (r - (r - UInt64.ofNat (word i.targetWakeTimeH
          i.targetWakeTimeL)) % i.calcIntvl.toUInt64 + i.calcIntvl.toUInt64)
        omega
      · have hlt := (nextStart_bounds (S := word i.targetWakeTimeH i.targetWakeTimeL)
          (R := (word tsfH tsfL + g.offset.toNat * 1000 : ℕ)) (P := i.interval)
          (by exact_mod_cast hfits.1)).1
        omega
  · refine iff_of_false ?_ (fun h => hfits h.1)
    rintro ⟨h, l, hout, hkept, hnext⟩
    have hpos : i.interval ≠ 0 := fun hzero => by
      have hdiv : i.calcIntvl.toUInt64 = 0 :=
        UInt64.toNat_inj.1 (hto.trans (hkept.trans hzero))
      rw [phlTwtGetTargetWakeTime, if_neg (by decide)] at hout
      dsimp only at hout
      rw [if_neg hid, hconfig] at hout
      dsimp only at hout
      rw [if_pos hdiv] at hout
      cases hout
    have hbound := i.calcIntvl.toNat_lt
    exact hfits ⟨by omega, by omega⟩

lemma next_noa_start_iff (origDesc : NoaDesc) (tsfH tsfL : UInt32) :
    (∃ d, calcNextNoaSTime tsfH tsfL origDesc = some d ∧
        IsNext (word origDesc.startTH origDesc.startTL) (word tsfH tsfL)
          origDesc.interval.toNat (word d.startTH d.startTL)) ↔
      0 < origDesc.interval.toNat ∧
        nextStart origDesc.interval.toNat (word origDesc.startTH origDesc.startTL)
          (word tsfH tsfL) < 2 ^ 64 ∧
        (word origDesc.startTH origDesc.startTL ≤ word tsfH tsfL ∨
          origDesc.interval.toNat ∣ 2 ^ 64) := by
  have hto : origDesc.interval.toUInt64.toNat = origDesc.interval.toNat := UInt32.toNat_toUInt64 _
  by_cases hzero : origDesc.interval.toUInt64 = 0
  · have hnone : calcNextNoaSTime tsfH tsfL origDesc = none := if_pos hzero
    have hno : ¬ 0 < origDesc.interval.toNat := by
      rw [← hto, hzero]
      exact lt_irrefl 0
    rw [hnone]
    exact iff_of_false (fun ⟨_, h, _⟩ => by cases h) (fun h => hno h.1)
  · have hpos : 0 < origDesc.interval.toNat :=
      Nat.pos_of_ne_zero fun h => hzero (UInt64.toNat_inj.1 (hto.trans h))
    have hstep := step_isNext_iff (r := UInt64.ofNat (word tsfH tsfL))
      (s := UInt64.ofNat (word origDesc.startTH origDesc.startTL)) hzero
    rw [toNat_ofNat_word, toNat_ofNat_word, hto] at hstep
    rw [calcNextNoaSTime_eq hzero rfl rfl, ← hstep]
    simp only [Option.some.injEq, exists_eq_left', word_halves, hpos, true_and]

/-- For every time of the hardware, every agreement and every NoA descriptor: the interval of an
agreement is not truncated and the time returned for it is the next start after the offset,
just if the interval is neither zero nor too long for 32 bits, the next start fits 64 bits, and
the original start has passed or the interval is a power of two; and likewise for NoA. -/
theorem next_start_iff (getConfigById : UInt8 → Option TwtInfo) (g : GetTwtI) (i : TwtInfo)
    (origDesc : NoaDesc) (tsfH tsfL : UInt32) (hid : g.id ≠ ignoreCfgId)
    (hconfig : getConfigById g.id = some i) :
    ((∃ h l, phlTwtGetTargetWakeTime true true (some (tsfH, tsfL)) getConfigById g = .success h l ∧
        i.calcIntvl.toNat = i.interval ∧
        IsNext (word i.targetWakeTimeH i.targetWakeTimeL)
          (word tsfH tsfL + g.offset.toNat * 1000) i.interval (word h l)) ↔
      (0 < i.interval ∧ i.interval < 2 ^ 32) ∧
        nextStart i.interval (word i.targetWakeTimeH i.targetWakeTimeL)
          (word tsfH tsfL + g.offset.toNat * 1000 : ℕ) < 2 ^ 64 ∧
        (word i.targetWakeTimeH i.targetWakeTimeL ≤ word tsfH tsfL + g.offset.toNat * 1000 ∨
          i.interval ∣ 2 ^ 64)) ∧
    ((∃ d, calcNextNoaSTime tsfH tsfL origDesc = some d ∧
        IsNext (word origDesc.startTH origDesc.startTL) (word tsfH tsfL)
          origDesc.interval.toNat (word d.startTH d.startTL)) ↔
      0 < origDesc.interval.toNat ∧
        nextStart origDesc.interval.toNat (word origDesc.startTH origDesc.startTL)
          (word tsfH tsfL) < 2 ^ 64 ∧
        (word origDesc.startTH origDesc.startTL ≤ word tsfH tsfL ∨
          origDesc.interval.toNat ∣ 2 ^ 64)) :=
  ⟨target_wake_time_iff hid hconfig tsfH tsfL, next_noa_start_iff origDesc tsfH tsfL⟩

theorem next_start_once :
    ((∃ h l, phlTwtGetTargetWakeTime true true (some (0, 20)) (fun _ => some ⟨0, 3, 0, 10⟩) ⟨0, 0⟩ =
        .success h l ∧ (TwtInfo.mk 0 3 0 10).calcIntvl.toNat = (TwtInfo.mk 0 3 0 10).interval ∧
        IsNext (word 0 10) (word 0 20 + (0 : UInt16).toNat * 1000) (TwtInfo.mk 0 3 0 10).interval
          (word h l)) ↔
      (0 < (TwtInfo.mk 0 3 0 10).interval ∧ (TwtInfo.mk 0 3 0 10).interval < 2 ^ 32) ∧
        nextStart (TwtInfo.mk 0 3 0 10).interval (word 0 10)
          (word 0 20 + (0 : UInt16).toNat * 1000 : ℕ) < 2 ^ 64 ∧
        (word 0 10 ≤ word 0 20 + (0 : UInt16).toNat * 1000 ∨
          (TwtInfo.mk 0 3 0 10).interval ∣ 2 ^ 64)) :=
  (next_start_iff (fun _ => some ⟨0, 3, 0, 10⟩) ⟨0, 0⟩ ⟨0, 3, 0, 10⟩ {} 0 20 (by decide) rfl).1

/-- The interval of mantissa 2 and exponent 31 comes out as zero, and the next start of an
agreement that begins at 100 is not found at time 0. -/
theorem next_start_wrong :
    (TwtInfo.mk 31 2 0 0).calcIntvl.toNat ≠ (TwtInfo.mk 31 2 0 0).interval ∧
      phlTwtGetTargetWakeTime true true (some (0, 0)) (fun _ => some ⟨31, 2, 0, 0⟩) ⟨0, 0⟩ =
        .divZero ∧
      ∃ h l, phlTwtGetTargetWakeTime true true (some (0, 0)) (fun _ => some ⟨0, 3, 0, 101⟩) ⟨0, 0⟩ =
        .success h l ∧ ¬ IsNext 101 0 3 (word h l) := by
  refine ⟨by decide, by decide, ?_⟩
  refine ⟨0, 1, by decide, fun h => ?_⟩
  have hstart : (3 : ℤ) ∣ (1 : ℤ) - 101 := h.1.2
  revert hstart
  decide

end Rtl8831.Phl.NextStart
