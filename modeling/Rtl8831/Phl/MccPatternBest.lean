import Rtl8831.Phl.MccPattern

/-!
# The best split of two slots

A split is feasible if the four times fill the two slots, put the beacons at their
offset, leave time for both beacons and keep the limits.  For given slots and a given
offset the feasible splits are those of an interval of times before the reference
beacon, and the sum of their squared differences falls and then rises.
-/

namespace Rtl8831.Phl.Mcc

open Lib

/-- `gap` is the time between the two slots, in the order in which they hold the beacons. -/
structure Feasible (refDur anoDur : DurInfo) (gap offset : ℤ) (q : BcnSplit) : Prop where
  ref_eq : q.tobR + q.toaR = (refDur.dur : ℕ)
  ano_eq : q.tobA + q.toaA = (anoDur.dur : ℕ)
  offset_eq : q.toaR + gap + q.tobA = offset
  early_r : (earlyRxBcnT : ℤ) ≤ q.tobR
  early_a : (earlyRxBcnT : ℤ) ≤ q.tobA
  min_r : (minRxBcnT : ℤ) ≤ q.toaR
  min_a : (minRxBcnT : ℤ) ≤ q.toaA
  limit_r : refDur.durLimit.enable = true →
    q.tobR ≤ (refDur.durLimit.maxTob : ℕ) ∧ q.toaR ≤ (refDur.durLimit.maxToa : ℕ)
  limit_a : anoDur.durLimit.enable = true →
    q.tobA ≤ (anoDur.durLimit.maxTob : ℕ) ∧ q.toaA ≤ (anoDur.durLimit.maxToa : ℕ)

structure Optimal (refDur anoDur : DurInfo) (gap offset : ℤ) (q : BcnSplit) : Prop where
  feasible : Feasible refDur anoDur gap offset q
  least : ∀ q', Feasible refDur anoDur gap offset q' → q.sum ≤ q'.sum

structure Fits16 (refDur anoDur : DurInfo) (gap offset : ℤ) : Prop where
  ref_lt : (refDur.dur : ℕ) < 8192
  ano_lt : (anoDur.dur : ℕ) < 8192
  gap_abs : |gap| < 8192
  offset_abs : |offset| < 8192
  limit_r : (refDur.durLimit.maxTob : ℕ) < 32768 ∧ (refDur.durLimit.maxToa : ℕ) < 32768
  limit_a : (anoDur.durLimit.maxTob : ℕ) < 32768 ∧ (anoDur.durLimit.maxToa : ℕ) < 32768
  sum_lt : ∀ q, Feasible refDur anoDur gap offset q → q.sum < 32768

lemma s16_eq {z : ℤ} (hlo : -(32768) ≤ z) (hhi : z < 32768) : s16 z = z := by
  apply Int.bmod_eq_of_le
  · omega
  · omega

lemma BcnSplit.sum_nonneg (q : BcnSplit) : 0 ≤ q.sum := by
  unfold sum
  have h := fun z : ℤ => mul_self_nonneg z
  have h1 := h (q.tobR - q.toaR)
  have h2 := h (q.tobR - q.tobA)
  have h3 := h (q.tobR - q.toaA)
  have h4 := h (q.toaR - q.tobA)
  have h5 := h (q.toaR - q.toaA)
  have h6 := h (q.tobA - q.toaA)
  omega

section

variable (refDur anoDur : DurInfo) (gap offset : ℤ)

/-- The split with `tobR` before the reference beacon. -/
def splitAt (tobR : ℤ) : BcnSplit where
  tobR := tobR
  toaR := (refDur.dur : ℕ) - tobR
  tobA := offset - gap - ((refDur.dur : ℕ) - tobR)
  toaA := (anoDur.dur : ℕ) - (offset - gap - ((refDur.dur : ℕ) - tobR))

def DurInfo.capTob (i : DurInfo) : ℤ :=
  if i.durLimit.enable then (i.durLimit.maxTob : ℕ) else 65536

def DurInfo.capToa (i : DurInfo) : ℤ :=
  if i.durLimit.enable then (i.durLimit.maxToa : ℕ) else 65536

/-- How much longer the time before the other beacon is than that before the reference
beacon. -/
def shift : ℤ := offset - gap - (refDur.dur : ℕ)

def leastTobR : ℤ :=
  max (max 5 ((refDur.dur : ℕ) - refDur.capToa))
    (max (5 - shift refDur gap offset)
      ((anoDur.dur : ℕ) - shift refDur gap offset - anoDur.capToa))

def greatestTobR : ℤ :=
  min (min ((refDur.dur : ℕ) - 10) refDur.capTob)
    (min ((anoDur.dur : ℕ) - shift refDur gap offset - 10)
      (anoDur.capTob - shift refDur gap offset))

variable {refDur anoDur gap offset}

variable {i : DurInfo} {overTob : Probe} {x : ℤ}

lemma DurInfo.le_cap_iff {tob toa : ℤ} (htob : tob < 65536) (htoa : toa < 65536) :
    tob ≤ i.capTob ∧ toa ≤ i.capToa ↔ (i.durLimit.enable = true →
      tob ≤ (i.durLimit.maxTob : ℕ) ∧ toa ≤ (i.durLimit.maxToa : ℕ)) := by
  unfold capTob capToa
  cases i.durLimit.enable
  · simp only [Bool.false_eq_true, if_false, false_imp_iff, iff_true]
    omega
  · simp

lemma Feasible.eq_splitAt {q : BcnSplit} (h : Feasible refDur anoDur gap offset q) :
    q = splitAt refDur anoDur gap offset q.tobR := by
  obtain ⟨tobR, toaR, tobA, toaA⟩ := q
  have h1 := h.ref_eq
  have h2 := h.ano_eq
  have h3 := h.offset_eq
  dsimp only at h1 h2 h3
  simp only [splitAt, BcnSplit.mk.injEq, true_and]
  omega

lemma feasible_splitAt_iff :
    Feasible refDur anoDur gap offset (splitAt refDur anoDur gap offset x) ↔
      leastTobR refDur anoDur gap offset ≤ x ∧ x ≤ greatestTobR refDur anoDur gap offset := by
  have hr := refDur.dur.isLt
  have ha := anoDur.dur.isLt
  unfold leastTobR greatestTobR
  simp only [max_le_iff, le_min_iff]
  constructor
  · rintro ⟨-, -, -, h1, h2, h3, h4, h5, h6⟩
    rw [← DurInfo.le_cap_iff] at h5 h6
    · simp only [splitAt, shift, earlyRxBcnT, minRxBcnT] at *
      omega
    all_goals
      simp only [splitAt, earlyRxBcnT, minRxBcnT] at *
      omega
  · rintro ⟨⟨⟨h1, h2⟩, h3, h4⟩, ⟨h5, h6⟩, h7, h8⟩
    simp only [shift] at *
    refine ⟨?_, ?_, ?_, ?_, ?_, ?_, ?_, ?_, ?_⟩
    case refine_8 | refine_9 =>
      rw [← DurInfo.le_cap_iff]
      all_goals
        simp only [splitAt]
        omega
    all_goals
      simp only [splitAt, earlyRxBcnT, minRxBcnT]
      omega

variable (refDur anoDur gap offset)

lemma splitAt_sum_succ (x : ℤ) :
    (splitAt refDur anoDur gap offset (x + 1)).sum = (splitAt refDur anoDur gap offset x).sum +
      8 * (4 * x + 2 - ((refDur.dur : ℕ) + (anoDur.dur : ℕ) - 2 * shift refDur gap offset)) := by
  simp only [splitAt, BcnSplit.sum, shift]
  ring

lemma splitAt_sum_valley : Valley fun x => (splitAt refDur anoDur gap offset x).sum := by
  intro x h
  have h1 := splitAt_sum_succ refDur anoDur gap offset x
  have h2 := splitAt_sum_succ refDur anoDur gap offset (x + 1)
  rw [add_assoc] at h2
  dsimp only at h ⊢
  norm_num at h2
  omega

def plainStep (overTob : Probe) (x : ℤ) : Probe :=
  let toaR : ℤ := (refDur.dur : ℕ) - x
  let tobA : ℤ := offset - gap - toaR
  let toaA : ℤ := (anoDur.dur : ℕ) - tobA
  if toaR < 10 then .stop
  else if refDur.capTob < x then overTob
  else if refDur.capToa < toaR then .skip
  else if tobA < 5 then .skip
  else if toaA < 10 then .stop
  else if anoDur.capTob < tobA ∨ anoDur.capToa < toaA then .skip
  else .cost (BcnSplit.mk x toaR tobA toaA).sum

variable {refDur anoDur gap offset}

lemma capTob_lt_iff {tob : ℤ} (h : (i.durLimit.maxTob : ℕ) < 32768)
    (htob : tob ≤ 65536) :
    (i.durLimit.enable = true ∧ s16 (i.durLimit.maxTob : ℕ) < tob) ↔ i.capTob < tob := by
  rw [s16_eq (by omega) (by omega), DurInfo.capTob]
  cases i.durLimit.enable
  · simp only [Bool.false_eq_true, false_and, if_false, false_iff]
    omega
  · simp

lemma capToa_lt_iff {toa : ℤ} (h : (i.durLimit.maxToa : ℕ) < 32768)
    (htoa : toa ≤ 65536) :
    (i.durLimit.enable = true ∧ s16 (i.durLimit.maxToa : ℕ) < toa) ↔ i.capToa < toa := by
  rw [s16_eq (by omega) (by omega), DurInfo.capToa]
  cases i.durLimit.enable
  · simp only [Bool.false_eq_true, false_and, if_false, false_iff]
    omega
  · simp

lemma searchStep_eq_plainStep (h : Fits16 refDur anoDur gap offset) {tobAOf : ℤ → ℤ}
    (hof : ∀ y : ℤ, 0 ≤ y → y < 8192 → s16 (tobAOf y) = offset - gap - y)
    (overTob : Probe) {x : ℤ} (hx : 5 ≤ x) (hx' : x < 16384) :
    searchStep overTob refDur anoDur tobAOf x =
      plainStep refDur anoDur gap offset overTob x := by
  obtain ⟨hr, ha, hg, ho, hlr, hla, hsum⟩ := h
  rw [abs_lt] at hg ho
  have htoaR : s16 (s16 (refDur.dur : ℕ) - x) = (refDur.dur : ℕ) - x := by
    rw [s16_eq (z := (refDur.dur : ℕ)) (by omega) (by omega), s16_eq (by omega) (by omega)]
  unfold searchStep plainStep
  simp only [htoaR, earlyRxBcnT, minRxBcnT, Nat.cast_ofNat]
  clear htoaR
  by_cases h1 : (refDur.dur : ℕ) - x < 10
  · rw [if_pos h1, if_pos h1]
  rw [if_neg h1, if_neg h1, hof _ (by omega) (by omega)]
  simp only [capTob_lt_iff hlr.1 (show x ≤ 65536 by omega),
    capToa_lt_iff hlr.2 (show (refDur.dur : ℕ) - x ≤ 65536 by omega)]
  by_cases h2 : refDur.capTob < x
  · rw [if_pos h2, if_pos h2]
  by_cases h3 : refDur.capToa < (refDur.dur : ℕ) - x
  · rw [if_neg h2, if_neg h2, if_pos h3, if_pos h3]
  rw [if_neg h2, if_neg h2, if_neg h3, if_neg h3]
  by_cases h4 : offset - gap - ((refDur.dur : ℕ) - x) < 5
  · rw [if_pos h4, if_pos h4]
  have htoaA : s16 (s16 (anoDur.dur : ℕ) - (offset - gap - ((refDur.dur : ℕ) - x))) =
      (anoDur.dur : ℕ) - (offset - gap - ((refDur.dur : ℕ) - x)) := by
    rw [s16_eq (z := (anoDur.dur : ℕ)) (by omega) (by omega), s16_eq (by omega) (by omega)]
  rw [if_neg h4, if_neg h4, htoaA]
  clear htoaA
  by_cases h5 : (anoDur.dur : ℕ) - (offset - gap - ((refDur.dur : ℕ) - x)) < 10
  · rw [if_pos h5, if_pos h5]
  rw [if_neg h5, if_neg h5]
  have hlimit := or_congr
    (capTob_lt_iff hla.1 (show offset - gap - ((refDur.dur : ℕ) - x) ≤ 65536 by omega))
    (capToa_lt_iff hla.2
      (show (anoDur.dur : ℕ) - (offset - gap - ((refDur.dur : ℕ) - x)) ≤ 65536 by omega))
  rw [← and_or_left] at hlimit
  by_cases h6 : anoDur.capTob < offset - gap - ((refDur.dur : ℕ) - x) ∨
      anoDur.capToa < (anoDur.dur : ℕ) - (offset - gap - ((refDur.dur : ℕ) - x))
  · rw [if_pos (hlimit.2 h6), if_pos h6]
  rw [if_neg fun hl => h6 (hlimit.1 hl), if_neg h6]
  have hfeasible : Feasible refDur anoDur gap offset (splitAt refDur anoDur gap offset x) := by
    rw [feasible_splitAt_iff]
    unfold leastTobR greatestTobR shift
    simp only [max_le_iff, le_min_iff]
    omega
  have hlt := hsum _ hfeasible
  have h0 := (splitAt refDur anoDur gap offset x).sum_nonneg
  exact congrArg Probe.cost (s16_eq (z := (splitAt refDur anoDur gap offset x).sum) (by omega) hlt)

lemma plainStep_cost_iff (hover : ∀ s, overTob ≠ .cost s) {x s : ℤ}
    (hx : 5 ≤ x) :
    plainStep refDur anoDur gap offset overTob x = .cost s ↔
      (leastTobR refDur anoDur gap offset ≤ x ∧ x ≤ greatestTobR refDur anoDur gap offset) ∧
        (splitAt refDur anoDur gap offset x).sum = s := by
  unfold plainStep leastTobR greatestTobR shift
  simp only [max_le_iff, le_min_iff]
  split_ifs with h1 h2 h3 h4 h5 h6
  · exact iff_of_false nofun fun h => by omega
  · exact iff_of_false (hover s) fun h => by omega
  · exact iff_of_false nofun fun h => by omega
  · exact iff_of_false nofun fun h => by omega
  · exact iff_of_false nofun fun h => by omega
  · exact iff_of_false nofun fun h => by omega
  · rw [Probe.cost.injEq]
    exact (and_iff_right (by omega)).symm

lemma plainStep_skip (hx : 5 ≤ x)
    (hlo : x < leastTobR refDur anoDur gap offset)
    (hhi : leastTobR refDur anoDur gap offset ≤ greatestTobR refDur anoDur gap offset) :
    plainStep refDur anoDur gap offset overTob x = .skip := by
  have hx' := hlo.trans_le hhi
  unfold leastTobR at hlo
  unfold greatestTobR at hx'
  unfold plainStep
  simp only [lt_min_iff, lt_max_iff, shift] at hlo hx' ⊢
  split_ifs with h1 h2 h3 h4 h5 h6
  · omega
  · omega
  · rfl
  · rfl
  · omega
  · rfl
  · omega

variable (refDur anoDur gap offset)

def sumAt (x : ℤ) : ℤ := (splitAt refDur anoDur gap offset x).sum

variable {refDur anoDur gap offset}

lemma search_profile (h : Fits16 refDur anoDur gap offset) {tobAOf : ℤ → ℤ}
    (hof : ∀ y : ℤ, 0 ≤ y → y < 8192 → s16 (tobAOf y) = offset - gap - y)
    {overTob : Probe} (hover : ∀ s, overTob ≠ .cost s)
    (hle : leastTobR refDur anoDur gap offset ≤ greatestTobR refDur anoDur gap offset) :
    Profile (searchStep overTob refDur anoDur tobAOf) (sumAt refDur anoDur gap offset)
      (((refDur.dur : ℕ) + anoDur.dur) % 65536 - 5) 5
      (leastTobR refDur anoDur gap offset) (greatestTobR refDur anoDur gap offset) := by
  have hr := h.ref_lt
  have ha := h.ano_lt
  have hlo5 : 5 ≤ leastTobR refDur anoDur gap offset :=
    (le_max_left _ _).trans (le_max_left _ _)
  have hhi : greatestTobR refDur anoDur gap offset ≤ (refDur.dur : ℕ) - 10 :=
    (min_le_left _ _).trans (min_le_left _ _)
  have hstep : ∀ y : ℤ, 5 ≤ y → y < 16384 → searchStep overTob refDur anoDur tobAOf y =
      plainStep refDur anoDur gap offset overTob y :=
    fun y h5 hlt => searchStep_eq_plainStep h hof overTob h5 hlt
  refine ⟨hlo5, hle, fun y h5 hlt => ?_, fun y h1 h2 => ?_, fun y hlt hn s hs => ?_⟩
  · rw [hstep y h5 (by omega)]
    exact plainStep_skip h5 hlt hle
  · rw [hstep y (by omega) (by omega), plainStep_cost_iff hover (by omega)]
    exact ⟨⟨h1, h2⟩, rfl⟩
  · rw [hstep y (by omega) (by omega), plainStep_cost_iff hover (by omega)] at hs
    omega

lemma search_none (h : Fits16 refDur anoDur gap offset) {tobAOf : ℤ → ℤ}
    (hof : ∀ y : ℤ, 0 ≤ y → y < 8192 → s16 (tobAOf y) = offset - gap - y)
    {overTob : Probe} (hover : ∀ s, overTob ≠ .cost s)
    (hlt : greatestTobR refDur anoDur gap offset < leastTobR refDur anoDur gap offset) :
    (search overTob refDur anoDur tobAOf).2 = 0 := by
  have hr := h.ref_lt
  have ha := h.ano_lt
  apply scan_snd_of_noCost
  intro y h5 hn s hs
  rw [searchStep_eq_plainStep h hof overTob h5 (by simp only [earlyRxBcnT] at hn; omega),
    plainStep_cost_iff hover h5] at hs
  omega

end

end Rtl8831.Phl.Mcc
