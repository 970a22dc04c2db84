import Rtl8831.Phl.MccPatternSearch

/-!
# The beacon offsets of a pattern

Each order of the slots can be used for the beacon offsets in a range, whose ends are
computed from the corners of the feasible times.  In the order of the worst case the
beacon of the other role is looked for two slots later, and an offset out of range
stands for one that is smaller by the beacon interval.
-/

namespace Rtl8831.Phl.Mcc

open Lib

section

variable (refDur anoDur : DurInfo)

def leastToaR : ℤ := max 10 ((refDur.dur : ℕ) - refDur.capTob)

def greatestToaR : ℤ := min (((refDur.dur : ℕ) : ℤ) - 5) refDur.capToa

def leastTobA : ℤ := max 5 ((anoDur.dur : ℕ) - anoDur.capToa)

def greatestTobA : ℤ := min (((anoDur.dur : ℕ) : ℤ) - 10) anoDur.capTob

lemma exists_feasible_iff_offset {gap offset : ℤ} :
    (∃ q, Feasible refDur anoDur gap offset q) ↔
      (leastToaR refDur ≤ greatestToaR refDur ∧ leastTobA anoDur ≤ greatestTobA anoDur) ∧
        leastToaR refDur + leastTobA anoDur ≤ offset - gap ∧
        offset - gap ≤ greatestToaR refDur + greatestTobA anoDur := by
  have hsubMin : ∀ d c : ℤ, d - min (d - 5) c = max 5 (d - c) := by omega
  have hmaxSub : ∀ a s c : ℤ, max 5 (a - c) - s = max (5 - s) (a - s - c) := by omega
  have hsubMax : ∀ d c : ℤ, d - max 10 (d - c) = min (d - 10) c := by omega
  have hminSub : ∀ a s c : ℤ, min (a - 10) c - s = min (a - s - 10) (c - s) := by omega
  have hleast : leastTobR refDur anoDur gap offset =
      max (refDur.dur - greatestToaR refDur) (leastTobA anoDur - shift refDur gap offset) := by
    rw [leastTobR, greatestToaR, leastTobA, hsubMin, hmaxSub]
  have hgreatest : greatestTobR refDur anoDur gap offset =
      min (refDur.dur - leastToaR refDur) (greatestTobA anoDur - shift refDur gap offset) := by
    rw [greatestTobR, leastToaR, greatestTobA, hsubMax, hminSub]
  rw [exists_feasible_iff, hleast, hgreatest, Int.max_le, Int.le_min, Int.le_min, shift]
  omega

end

lemma exists_feasible_unlimited_iff {refDur anoDur : U16} {gap offset : ℤ} :
    (∃ q, Feasible (unlimited refDur) (unlimited anoDur) gap offset q) ↔
      15 ≤ (refDur : ℕ) ∧ 15 ≤ (anoDur : ℕ) ∧ 15 ≤ offset - gap ∧
        offset - gap ≤ (refDur : ℕ) + (anoDur : ℕ) - 15 := by
  rw [exists_feasible_iff, leastTobR_unlimited, greatestTobR_unlimited]
  omega

def RangeExact (refDur anoDur : DurInfo) (gap : ℤ) (range : ℤ × ℤ) : Prop :=
  ∀ offset : U16, range.1 ≤ (offset : ℕ) ∧ ((offset : ℕ) : ℤ) ≤ range.2 ↔
    ∃ q, Feasible refDur anoDur gap (offset : ℕ) q

lemma mccGetOffsetRangeFor2wslot1btslotP1_eq {refDur anoDur : U16} (hr : (refDur : ℕ) < 8192)
    (ha : (anoDur : ℕ) < 8192) :
    mccGetOffsetRangeFor2wslot1btslotP1 (s16 (refDur : ℕ)) (s16 (anoDur : ℕ)) =
      (min ((refDur : ℕ) : ℤ) 15, max ((anoDur : ℕ) : ℤ) ((refDur : ℕ) + (anoDur : ℕ) - 15)) := by
  simp (disch := omega) only [mccGetOffsetRangeFor2wslot1btslotP1, mccGetOffsetFor2Wslot1BtslotP1,
    earlyRxBcnT, minRxBcnT, s16_eq, Prod.mk.injEq]
  constructor
  · split_ifs <;> omega
  · split_ifs <;> omega

lemma mccGetOffsetRangeFor2wslot1btslotP2_eq {refDur anoDur btDur : U16}
    (hr : (refDur : ℕ) < 8192) (ha : (anoDur : ℕ) < 8192) (hb : (btDur : ℕ) < 8192) :
    mccGetOffsetRangeFor2wslot1btslotP2 (s16 (refDur : ℕ)) (s16 (anoDur : ℕ))
        (s16 (btDur : ℕ)) =
      (min ((refDur : ℕ) : ℤ) (anoDur : ℕ) + (btDur : ℕ),
        max 0 (((refDur : ℕ) : ℤ) + (anoDur : ℕ) - 15 + (btDur : ℕ))) := by
  simp (disch := omega) only [mccGetOffsetRangeFor2wslot1btslotP2, mccGetOffsetFor2Wslot1BtslotP2,
    earlyRxBcnT, minRxBcnT, s16_eq, Prod.mk.injEq]
  constructor
  · split_ifs <;> omega
  · split_ifs <;> omega

section

variable {refDur anoDur : DurInfo} {gap lo hi : ℤ}

lemma rangeExact_iff_of_room (hlo : 0 ≤ lo) (hle : lo ≤ hi) (hhi : hi < 65536) (hgap : 0 ≤ gap)
    (hmax : gap + greatestToaR refDur + greatestTobA anoDur < 65536)
    (hr : leastToaR refDur ≤ greatestToaR refDur) (ha : leastTobA anoDur ≤ greatestTobA anoDur) :
    RangeExact refDur anoDur gap (lo, hi) ↔
      lo = gap + leastToaR refDur + leastTobA anoDur ∧
        hi = gap + greatestToaR refDur + greatestTobA anoDur := by
  have hmin : 0 ≤ leastToaR refDur ∧ 0 ≤ leastTobA anoDur := by
    unfold leastToaR leastTobA
    omega
  have hat : ∀ z : ℤ, 0 ≤ z → z < 65536 → ∃ offset : U16, ((offset : ℕ) : ℤ) = z :=
    fun z h0 h1 => ⟨⟨z.toNat, by omega⟩, by simp only; omega⟩
  simp only [RangeExact, exists_feasible_iff_offset]
  constructor
  · intro h
    obtain ⟨o1, h1⟩ := hat lo hlo (by omega)
    obtain ⟨o2, h2⟩ := hat hi (by omega) hhi
    obtain ⟨o3, h3⟩ := hat (gap + leastToaR refDur + leastTobA anoDur) (by omega) (by omega)
    obtain ⟨o4, h4⟩ := hat (gap + greatestToaR refDur + greatestTobA anoDur) (by omega) hmax
    have e1 := h o1
    have e2 := h o2
    have e3 := h o3
    have e4 := h o4
    omega
  · rintro ⟨rfl, rfl⟩ offset
    omega

lemma rangeExact_iff_of_no_room (hlo : 0 ≤ lo) (hlt : lo < 65536)
    (h : greatestToaR refDur < leastToaR refDur ∨ greatestTobA anoDur < leastTobA anoDur) :
    RangeExact refDur anoDur gap (lo, hi) ↔ hi < lo := by
  simp only [RangeExact, exists_feasible_iff_offset]
  constructor
  · intro hall
    have := hall ⟨lo.toNat, by omega⟩
    simp only at this
    omega
  · intro hempty offset
    omega

end

def TimesReach (refDur anoDur : DurInfo) (least : ℤ) : Prop :=
  leastToaR refDur + leastTobA anoDur = least ∧
    greatestToaR refDur + greatestTobA anoDur =
      ((refDur.dur : ℕ) : ℤ) + (anoDur.dur : ℕ) - 15

/-- A range is exact: the limits leave the ends of the range, or no split is feasible in
slots that are too short, and the range is empty. -/
def RangeFits (refDur anoDur : DurInfo) (least : ℤ) (range : ℤ × ℤ) : Prop :=
  if 15 ≤ (refDur.dur : ℕ) ∧ 15 ≤ (anoDur.dur : ℕ) then TimesReach refDur anoDur least
  else range.2 < range.1

lemma rangeExact_iff {refDur anoDur : DurInfo} {gap least lo hi : ℤ}
    (hr : (refDur.dur : ℕ) < 8192) (ha : (anoDur.dur : ℕ) < 8192) (hgap : 0 ≤ gap)
    (hgap' : gap < 8192) (hlo : 0 ≤ lo) (hlt : lo < 65536)
    (hleast : 15 ≤ (refDur.dur : ℕ) → 15 ≤ (anoDur.dur : ℕ) →
      least ≤ (refDur.dur : ℕ) ∧ least ≤ (anoDur.dur : ℕ) ∧ lo = gap + least ∧
        hi = gap + ((refDur.dur : ℕ) + (anoDur.dur : ℕ) - 15)) :
    RangeExact refDur anoDur gap (lo, hi) ↔ RangeFits refDur anoDur least (lo, hi) := by
  unfold RangeFits TimesReach
  have hbounds : 10 ≤ leastToaR refDur ∧ 5 ≤ leastTobA anoDur ∧
      greatestToaR refDur ≤ ((refDur.dur : ℕ) : ℤ) - 5 ∧
      greatestTobA anoDur ≤ ((anoDur.dur : ℕ) : ℤ) - 10 :=
    ⟨le_max_left _ _, le_max_left _ _, min_le_left _ _, min_le_left _ _⟩
  by_cases hroom : leastToaR refDur ≤ greatestToaR refDur ∧
      leastTobA anoDur ≤ greatestTobA anoDur
  · rw [if_pos (by omega)]
    obtain ⟨h1, h2, rfl, rfl⟩ := hleast (by omega) (by omega)
    rw [rangeExact_iff_of_room hlo (by omega) (by omega) hgap (by omega) hroom.1 hroom.2]
    omega
  · rw [rangeExact_iff_of_no_room hlo hlt (by omega)]
    split_ifs with hlong
    · obtain ⟨h1, h2, rfl, rfl⟩ := hleast hlong.1 hlong.2
      refine iff_of_false (by omega) fun hreach => hroom ?_
      obtain ⟨hl, hg⟩ := hreach
      omega
    · rfl

lemma rangeP1_exact_iff (refDur anoDur : DurInfo) (hr : (refDur.dur : ℕ) < 8192)
    (ha : (anoDur.dur : ℕ) < 8192) :
    RangeExact refDur anoDur 0 (mccGetOffsetRangeFor2wslot1btslotP1 (s16 (refDur.dur : ℕ))
        (s16 (anoDur.dur : ℕ))) ↔
      RangeFits refDur anoDur 15 (min ((refDur.dur : ℕ) : ℤ) 15,
        max ((anoDur.dur : ℕ) : ℤ) ((refDur.dur : ℕ) + (anoDur.dur : ℕ) - 15)) := by
  rw [mccGetOffsetRangeFor2wslot1btslotP1_eq hr ha]
  exact rangeExact_iff hr ha le_rfl (by omega) (by omega) (by omega) fun h1 h2 => by omega

lemma rangeP2_exact_iff (refDur anoDur : DurInfo) (btDur : U16) (hr : (refDur.dur : ℕ) < 8192)
    (ha : (anoDur.dur : ℕ) < 8192) (hb : (btDur : ℕ) < 8192) :
    RangeExact refDur anoDur (btDur : ℕ) (mccGetOffsetRangeFor2wslot1btslotP2
        (s16 (refDur.dur : ℕ)) (s16 (anoDur.dur : ℕ)) (s16 (btDur : ℕ))) ↔
      RangeFits refDur anoDur (min ((refDur.dur : ℕ) : ℤ) (anoDur.dur : ℕ))
        (min ((refDur.dur : ℕ) : ℤ) (anoDur.dur : ℕ) + (btDur : ℕ),
          max 0 (((refDur.dur : ℕ) : ℤ) + (anoDur.dur : ℕ) - 15 + (btDur : ℕ))) := by
  rw [mccGetOffsetRangeFor2wslot1btslotP2_eq hr ha hb]
  exact rangeExact_iff hr ha (by omega) (by omega) (by omega) (by omega) fun h1 h2 => by omega

lemma mccGetOffsetRangeFor2ClientsWorsecase_eq {refDur anoDur refBcnIntvl : U16}
    (hr : (refDur : ℕ) < 256) (ha : (anoDur : ℕ) < 256)
    (hB : (refBcnIntvl : ℕ) = handleBcnIntvl) :
    mccGetOffsetRangeFor2ClientsWorsecase (s16 (refDur : ℕ)) (s16 (anoDur : ℕ)) refBcnIntvl =
      (min ((refDur : ℕ) : ℤ) 15 + (refDur : ℕ) + (anoDur : ℕ) - 200,
        max ((anoDur : ℕ) : ℤ) ((refDur : ℕ) + (anoDur : ℕ) - 15) + (refDur : ℕ) +
          (anoDur : ℕ) - 200) := by
  rw [handleBcnIntvl] at hB
  simp (disch := omega) only [mccGetOffsetRangeFor2ClientsWorsecase,
    mccGetOffsetFor2ClientsWorsecase, earlyRxBcnT, minRxBcnT, s16_eq, Prod.mk.injEq]
  constructor
  · split_ifs <;> omega
  · split_ifs <;> omega

def worsecaseGap (refDur anoDur refBcnIntvl : U16) : ℤ :=
  (refDur : ℕ) + (anoDur : ℕ) - 2 * (refBcnIntvl : ℕ)

/-- An optimal split for the offset or, if there is none, for the one that is smaller by
the beacon interval; none only if neither has a feasible split. -/
def WorsecaseSettles (refDur anoDur offset refBcnIntvl : U16) : Option BcnSplit → Prop
  | some q =>
    Optimal (unlimited refDur) (unlimited anoDur) (worsecaseGap refDur anoDur refBcnIntvl)
        (offset : ℕ) q ∨
      (∀ q', ¬ Feasible (unlimited refDur) (unlimited anoDur)
        (worsecaseGap refDur anoDur refBcnIntvl) (offset : ℕ) q') ∧
      Optimal (unlimited refDur) (unlimited anoDur) (worsecaseGap refDur anoDur refBcnIntvl)
        ((offset : ℕ) - (refBcnIntvl : ℕ)) q
  | none =>
    (∀ q, ¬ Feasible (unlimited refDur) (unlimited anoDur)
      (worsecaseGap refDur anoDur refBcnIntvl) (offset : ℕ) q) ∧
    ∀ q, ¬ Feasible (unlimited refDur) (unlimited anoDur)
      (worsecaseGap refDur anoDur refBcnIntvl) ((offset : ℕ) - (refBcnIntvl : ℕ)) q

def WorsecaseAt (refDur anoDur refBcnIntvl : U16) (offset : ℤ) : Prop :=
  (∃ q, Feasible (unlimited refDur) (unlimited anoDur) (worsecaseGap refDur anoDur refBcnIntvl)
    offset q) ∧ ¬ CanBeEqual refDur anoDur (worsecaseGap refDur anoDur refBcnIntvl) offset

/-- Nothing that the worst case computes leaves 16 bits, and the four times fit `u8`. -/
structure FitsWorsecase (refDur anoDur offset refBcnIntvl : U16) : Prop where
  ref_lt : (refDur : ℕ) < 256
  ano_lt : (anoDur : ℕ) < 256
  offset_lt : (offset : ℕ) < 228
  fits : Fits16 (unlimited refDur) (unlimited anoDur) (worsecaseGap refDur anoDur refBcnIntvl)
    (offset : ℕ)
  fits_before : Fits16 (unlimited refDur) (unlimited anoDur)
    (worsecaseGap refDur anoDur refBcnIntvl) ((offset : ℕ) - (refBcnIntvl : ℕ))

def InWorsecaseRange (refDur anoDur : ℕ) (offset : ℤ) : Prop :=
  min (refDur : ℤ) 15 + refDur + anoDur - 200 ≤ offset ∧
    offset ≤ max (anoDur : ℤ) (refDur + anoDur - 15) + refDur + anoDur - 200

def TakesDifference (refDur anoDur : ℕ) (offset : ℤ) : Prop :=
  min (refDur : ℤ) 15 + refDur + anoDur - 200 ≤ 100 - offset ∧
    min (refDur : ℤ) 15 + refDur + anoDur - 200 ≤
      max (anoDur : ℤ) (refDur + anoDur - 15) + refDur + anoDur - 200

instance (refDur anoDur : ℕ) (offset : ℤ) : Decidable (InWorsecaseRange refDur anoDur offset) :=
  inferInstanceAs (Decidable (_ ∧ _))

instance (refDur anoDur : ℕ) (offset : ℤ) : Decidable (TakesDifference refDur anoDur offset) :=
  inferInstanceAs (Decidable (_ ∧ _))

section

variable {refDur anoDur offset refBcnIntvl : U16}

section

variable (hB : (refBcnIntvl : ℕ) = 100)
include hB

lemma worsecase_hof (hr : (refDur : ℕ) < 256)
    (ha : (anoDur : ℕ) < 256) {o : ℤ} (ho : -8192 < o) (ho' : o < 8192) (y : ℤ) (h0 : 0 ≤ y)
    (h1 : y < 8192) :
    s16 (o + 2 * (refBcnIntvl : ℕ) - y - (((refDur : ℕ) + anoDur) % 65536 : ℕ)) =
      o - worsecaseGap refDur anoDur refBcnIntvl - y := by
  unfold worsecaseGap
  rw [s16_eq (by omega) (by omega)]
  omega

lemma worsecase_stored
    (h : FitsWorsecase refDur anoDur offset refBcnIntvl) {o : ℤ}
    (hfits : Fits16 (unlimited refDur) (unlimited anoDur)
      (worsecaseGap refDur anoDur refBcnIntvl) o) :
    Optimal (unlimited refDur) (unlimited anoDur) (worsecaseGap refDur anoDur refBcnIntvl) o
        (storedBeforeEnd refDur anoDur fun toaR =>
          o + 2 * (refBcnIntvl : ℕ) - toaR - (((refDur : ℕ) + anoDur) % 65536 : ℕ)) ↔
      WorsecaseAt refDur anoDur refBcnIntvl o := by
  have ho := hfits.offset_abs
  rw [abs_lt] at ho
  have hiff := storedBeforeEnd_optimal_iff hfits h.ref_lt h.ano_lt
    (worsecase_hof hB h.ref_lt h.ano_lt ho.1 ho.2)
  constructor
  · intro hopt
    have hex : ∃ q, Feasible (unlimited refDur) (unlimited anoDur)
        (worsecaseGap refDur anoDur refBcnIntvl) o q := ⟨_, hopt.feasible⟩
    exact ⟨hex, (hiff hex).1 hopt⟩
  · rintro ⟨hex, hne⟩
    exact (hiff hex).2 hne

lemma worsecase_stored_offset (hr : (refDur : ℕ) < 256)
    (ha : (anoDur : ℕ) < 256) {o o' : ℤ} (ho : -8192 < o) (ho' : o < 8192)
    (hq : Feasible (unlimited refDur) (unlimited anoDur)
      (worsecaseGap refDur anoDur refBcnIntvl) o'
      (storedBeforeEnd refDur anoDur fun toaR =>
        o + 2 * (refBcnIntvl : ℕ) - toaR - (((refDur : ℕ) + anoDur) % 65536 : ℕ))) :
    256 ∣ o' - o := by
  have heq := hq.offset_eq
  have hend := @scan_fst_bounds (searchStep .stop (unlimited refDur) (unlimited anoDur)
    fun toaR => o + 2 * (refBcnIntvl : ℕ) - toaR - (((refDur : ℕ) + anoDur) % 65536 : ℕ))
    (((refDur : ℕ) + anoDur) % 65536 - 5) 5 0 0
  change 5 ≤ (search .stop (unlimited refDur) (unlimited anoDur) _).1 ∧
    (search .stop (unlimited refDur) (unlimited anoDur) _).1 ≤ _ at hend
  unfold storedBeforeEnd at heq
  generalize (search .stop (unlimited refDur) (unlimited anoDur) fun toaR =>
    o + 2 * (refBcnIntvl : ℕ) - toaR - (((refDur : ℕ) + anoDur) % 65536 : ℕ)).1 = e at *
  have hlow : -32768 ≤ o + 2 * (refBcnIntvl : ℕ) - ((refDur : ℕ) - (e - 1)) -
      (((refDur : ℕ) + anoDur) % 65536 : ℕ) := by omega
  have hhigh : o + 2 * (refBcnIntvl : ℕ) - ((refDur : ℕ) - (e - 1)) -
      (((refDur : ℕ) + anoDur) % 65536 : ℕ) < 32768 := by omega
  have hx : s16 (e - 1) = e - 1 := s16_eq (by omega) (by omega)
  have htoaR : s16 (s16 (refDur : ℕ) - (e - 1)) = (refDur : ℕ) - (e - 1) := by
    rw [s16_eq (z := (refDur : ℕ)) (by omega) (by omega), s16_eq (by omega) (by omega)]
  have htobA := s16_eq hlow hhigh
  simp only [hx, splitOf, htoaR, htobA, u8] at heq
  clear hx htoaR htobA
  unfold worsecaseGap at heq
  omega

lemma not_feasible_of_not_inRange {o : ℤ}
    (h : ¬ InWorsecaseRange refDur anoDur o) (q : BcnSplit) :
    ¬ Feasible (unlimited refDur) (unlimited anoDur)
      (worsecaseGap refDur anoDur refBcnIntvl) o q := by
  intro hq
  have hex := exists_feasible_unlimited_iff.1 ⟨q, hq⟩
  unfold worsecaseGap at hex
  unfold InWorsecaseRange at h
  omega

end

def WorsecaseOk (refDur anoDur offset refBcnIntvl : U16) : Prop :=
  if (refBcnIntvl : ℕ) = 100 then
    if InWorsecaseRange refDur anoDur (offset : ℕ) then
      WorsecaseAt refDur anoDur refBcnIntvl (offset : ℕ)
    else if TakesDifference refDur anoDur (offset : ℕ) then
      (offset : ℕ) = 100 ∧ WorsecaseAt refDur anoDur refBcnIntvl 0
    else ¬ InWorsecaseRange refDur anoDur ((offset : ℕ) - 100) ∨
      ¬ (15 ≤ (refDur : ℕ) ∧ 15 ≤ (anoDur : ℕ))
  else WorsecaseSettles refDur anoDur offset refBcnIntvl none

lemma mccCalc2ClientsWorsecasePattern_settles_iff (refDur anoDur offset refBcnIntvl : U16)
    (h : (refBcnIntvl : ℕ) = 100 → FitsWorsecase refDur anoDur offset refBcnIntvl) :
    WorsecaseSettles refDur anoDur offset refBcnIntvl
        (mccCalc2ClientsWorsecasePattern refDur anoDur offset refBcnIntvl) ↔
      WorsecaseOk refDur anoDur offset refBcnIntvl := by
  unfold WorsecaseOk mccCalc2ClientsWorsecasePattern
  by_cases hB : (refBcnIntvl : ℕ) = 100
  · replace h := h hB
    have hr := h.ref_lt
    have ha := h.ano_lt
    have ho := h.offset_lt
    rw [if_pos hB]
    simp only [mccGetOffsetRangeFor2ClientsWorsecase_eq hr ha hB, handleBcnIntvl]
    rw [if_neg (not_not.2 hB)]
    have hoff : s16 (offset : ℕ) = (offset : ℕ) := s16_eq (by omega) (by omega)
    have hdiff : s16 ((refBcnIntvl : ℕ) - (offset : ℕ)) = 100 - (offset : ℕ) := by
      rw [hB]
      exact s16_eq (by omega) (by omega)
    rw [hoff, hdiff]
    change WorsecaseSettles refDur anoDur offset refBcnIntvl
      (if InWorsecaseRange refDur anoDur (offset : ℕ) then some (storedBeforeEnd refDur anoDur
          fun toaR => (offset : ℕ) + 2 * (refBcnIntvl : ℕ) - toaR -
            (((refDur : ℕ) + anoDur) % 65536 : ℕ))
        else if TakesDifference refDur anoDur (offset : ℕ) then
          some (storedBeforeEnd refDur anoDur fun toaR =>
            100 - (offset : ℕ) + 2 * (refBcnIntvl : ℕ) - toaR -
              (((refDur : ℕ) + anoDur) % 65536 : ℕ))
        else none) ↔ _
    split_ifs with hin hdif
    · refine (or_iff_left ?_).trans (worsecase_stored hB h h.fits)
      rintro ⟨hnone, hopt⟩
      refine absurd (exists_feasible_unlimited_iff.2 ?_) (not_exists.2 hnone)
      have hshort := exists_feasible_unlimited_iff.1 ⟨_, hopt.feasible⟩
      unfold worsecaseGap
      unfold InWorsecaseRange at hin
      omega
    · have hnone := not_feasible_of_not_inRange hB hin
      refine (or_iff_right fun hopt => hnone _ hopt.feasible).trans ?_
      rw [and_iff_right hnone]
      by_cases ho100 : (offset : ℕ) = 100
      · have hzero : ((offset : ℕ) : ℤ) - (refBcnIntvl : ℕ) = 0 := by omega
        have hzero' : 100 - ((offset : ℕ) : ℤ) = 0 := by omega
        rw [hzero, hzero', and_iff_right ho100]
        exact worsecase_stored hB h (hzero ▸ h.fits_before)
      · refine iff_of_false (fun hopt => ?_) fun hat => ho100 hat.1
        have hdvd := worsecase_stored_offset hB hr ha (by omega) (by omega) hopt.feasible
        omega
    · have hnone := not_feasible_of_not_inRange hB hin
      refine (and_iff_right hnone).trans ?_
      rw [← not_exists, exists_feasible_unlimited_iff]
      unfold InWorsecaseRange worsecaseGap
      omega
  · rw [if_neg hB]
    simp only [handleBcnIntvl]
    rw [if_pos hB]

end

lemma fits16_of_short {refDur anoDur : U16} {gap offset : ℤ}
    (hshort : (refDur : ℕ) + anoDur ≤ 104) (hgap : |gap| < 8192) (hoffset : |offset| < 8192) :
    Fits16 (unlimited refDur) (unlimited anoDur) gap offset := by
  refine ⟨by simp only [unlimited]; omega, by simp only [unlimited]; omega, hgap, hoffset,
    by simp [unlimited], by simp [unlimited], fun q hq => ?_⟩
  obtain ⟨h1, h2, -, h3, h4, h5, h6, -, -⟩ := hq
  simp only [unlimited, earlyRxBcnT, minRxBcnT] at h1 h2 h3 h4 h5 h6
  have htotal : q.sum = 3 * ((q.tobR + q.toaR + q.tobA + q.toaA) *
      (q.tobR + q.toaR + q.tobA + q.toaA)) - 8 * (q.tobR * q.toaR + q.tobR * q.tobA +
      q.tobR * q.toaA + q.toaR * q.tobA + q.toaR * q.toaA + q.tobA * q.toaA) := by
    rw [BcnSplit.sum]
    ring
  have hsquare : (q.tobR + q.toaR + q.tobA + q.toaA) *
      (q.tobR + q.toaR + q.tobA + q.toaA) ≤ 104 * 104 :=
    mul_le_mul (by omega) (by omega) (by omega) (by omega)
  have h1R : 0 ≤ q.tobR := by omega
  have h2R : 0 ≤ q.toaR := by omega
  have h1A : 0 ≤ q.tobA := by omega
  have h2A : 0 ≤ q.toaA := by omega
  have e1 := mul_nonneg h1R h2R
  have e2 := mul_nonneg h1R h1A
  have e3 := mul_nonneg h1R h2A
  have e4 := mul_nonneg h2R h1A
  have e5 := mul_nonneg h2R h2A
  have e6 := mul_nonneg h1A h2A
  omega

/-- Where nothing overflows, the exact condition for each search and each range; `r` and `a`
are slots without limits. -/
theorem pattern_search (refDur anoDur : DurInfo) (r a offset btDur refBcnIntvl : U16) :
    (Fits16 refDur anoDur 0 (offset : ℕ) →
      (Settles refDur anoDur 0 (offset : ℕ) (mccCalculate2WrolePattern refDur anoDur offset) ↔
        NeverRises refDur anoDur 0 (offset : ℕ))) ∧
    (Fits16 refDur anoDur 0 (offset : ℕ) →
      (Settles refDur anoDur 0 (offset : ℕ)
          (mccCalculate2wslot1btslotPattern1 refDur anoDur offset) ↔
        NeverRises refDur anoDur 0 (offset : ℕ))) ∧
    (Fits16 refDur anoDur (btDur : ℕ) (offset : ℕ) →
      (Settles refDur anoDur (btDur : ℕ) (offset : ℕ)
          (mccCalculate2wslot1btslotPattern2 refDur anoDur offset btDur) ↔
        (∀ q, ¬ Feasible refDur anoDur (btDur : ℕ) (offset : ℕ) q) ∨
          (btDur : ℕ) = 0 ∧ NeverRises refDur anoDur 0 (offset : ℕ))) ∧
    (Fits16 (unlimited r) (unlimited a) 0 (offset : ℕ) → (r : ℕ) < 256 → (a : ℕ) < 256 →
      (Optimal (unlimited r) (unlimited a) 0 (offset : ℕ)
          (mccCalculate2ClientsPattern r a offset) ↔
        (∃ q, Feasible (unlimited r) (unlimited a) 0 (offset : ℕ) q) ∧
          ¬ CanBeEqual r a 0 (offset : ℕ))) ∧
    (((refBcnIntvl : ℕ) = 100 → FitsWorsecase r a offset refBcnIntvl) →
      (WorsecaseSettles r a offset refBcnIntvl
          (mccCalc2ClientsWorsecasePattern r a offset refBcnIntvl) ↔
        WorsecaseOk r a offset refBcnIntvl)) ∧
    ((refDur.dur : ℕ) < 8192 → (anoDur.dur : ℕ) < 8192 →
      (RangeExact refDur anoDur 0 (mccGetOffsetRangeFor2wslot1btslotP1 (s16 (refDur.dur : ℕ))
          (s16 (anoDur.dur : ℕ))) ↔
        RangeFits refDur anoDur 15 (min ((refDur.dur : ℕ) : ℤ) 15,
          max ((anoDur.dur : ℕ) : ℤ) ((refDur.dur : ℕ) + (anoDur.dur : ℕ) - 15)))) ∧
    ((refDur.dur : ℕ) < 8192 → (anoDur.dur : ℕ) < 8192 → (btDur : ℕ) < 8192 →
      (RangeExact refDur anoDur (btDur : ℕ) (mccGetOffsetRangeFor2wslot1btslotP2
          (s16 (refDur.dur : ℕ)) (s16 (anoDur.dur : ℕ)) (s16 (btDur : ℕ))) ↔
        RangeFits refDur anoDur (min ((refDur.dur : ℕ) : ℤ) (anoDur.dur : ℕ))
          (min ((refDur.dur : ℕ) : ℤ) (anoDur.dur : ℕ) + (btDur : ℕ),
            max 0 (((refDur.dur : ℕ) : ℤ) + (anoDur.dur : ℕ) - 15 + (btDur : ℕ))))) :=
  ⟨mccCalculate2WrolePattern_settles_iff _ _ _,
    mccCalculate2wslot1btslotPattern1_settles_iff _ _ _,
    mccCalculate2wslot1btslotPattern2_settles_iff _ _ _ _,
    mccCalculate2ClientsPattern_optimal_iff _ _ _,
    mccCalc2ClientsWorsecasePattern_settles_iff _ _ _ _, rangeP1_exact_iff _ _,
    rangeP2_exact_iff _ _ _⟩

theorem pattern_search_fifty :
    (Settles (unlimited 50) (unlimited 50) 0 50
        (mccCalculate2WrolePattern (unlimited 50) (unlimited 50) 50) ↔
      NeverRises (unlimited 50) (unlimited 50) 0 50) ∧
    (Settles (unlimited 50) (unlimited 50) 0 50
        (mccCalculate2wslot1btslotPattern1 (unlimited 50) (unlimited 50) 50) ↔
      NeverRises (unlimited 50) (unlimited 50) 0 50) ∧
    (Settles (unlimited 40) (unlimited 40) 20 50
        (mccCalculate2wslot1btslotPattern2 (unlimited 40) (unlimited 40) 50 20) ↔
      (∀ q, ¬ Feasible (unlimited 40) (unlimited 40) 20 50 q) ∨
        20 = 0 ∧ NeverRises (unlimited 40) (unlimited 40) 0 50) ∧
    (Optimal (unlimited 50) (unlimited 50) 0 50 (mccCalculate2ClientsPattern 50 50 50) ↔
      (∃ q, Feasible (unlimited 50) (unlimited 50) 0 50 q) ∧ ¬ CanBeEqual 50 50 0 50) ∧
    (WorsecaseSettles 52 52 50 100 (mccCalc2ClientsWorsecasePattern 52 52 50 100) ↔
      WorsecaseOk 52 52 50 100) ∧
    (RangeExact (unlimited 40) (unlimited 40) 0
        (mccGetOffsetRangeFor2wslot1btslotP1 (s16 40) (s16 40)) ↔
      RangeFits (unlimited 40) (unlimited 40) 15 (min 40 15, max 40 (40 + 40 - 15))) ∧
    (RangeExact (unlimited 40) (unlimited 40) 20
        (mccGetOffsetRangeFor2wslot1btslotP2 (s16 40) (s16 40) (s16 20)) ↔
      RangeFits (unlimited 40) (unlimited 40) (min 40 40)
        (min 40 40 + 20, max 0 (40 + 40 - 15 + 20))) := by
  obtain ⟨h1, h2, -, h4, -, -, -⟩ := pattern_search (unlimited 50) (unlimited 50) 50 50 50 0 100
  obtain ⟨-, -, h3, -, h5, h6, h7⟩ := pattern_search (unlimited 40) (unlimited 40) 52 52 50 20 100
  refine ⟨h1 ?_, h2 ?_, h3 ?_, h4 ?_ ?_ ?_, h5 ?_, h6 ?_ ?_, h7 ?_ ?_ ?_⟩
  case refine_1 | refine_2 | refine_3 | refine_4 =>
    exact fits16_of_short (by decide) (by decide) (by decide)
  case refine_7 =>
    exact fun _ => ⟨by decide, by decide, by decide,
      fits16_of_short (by decide) (by decide) (by decide),
      fits16_of_short (by decide) (by decide) (by decide)⟩
  all_goals decide

/-- Feasible splits that are better than what is stored, splits that are stored without
being feasible, and an offset that is missing in its range. -/
theorem pattern_search_misses :
    (Feasible (unlimited 50) (unlimited 50) 0 50 ⟨25, 25, 25, 25⟩ ∧
      mccCalculate2WrolePattern (unlimited 50) (unlimited 50) 50 = some ⟨27, 23, 27, 23⟩ ∧
      mccCalculate2ClientsPattern 50 50 50 = ⟨26, 24, 26, 24⟩) ∧
    (mccCalculate2wslot1btslotPattern2 (unlimited 40) (unlimited 40) 50 20 =
        some ⟨26, 14, 36, 4⟩ ∧
      ¬ Feasible (unlimited 40) (unlimited 40) 20 50 ⟨26, 14, 36, 4⟩) ∧
    (mccCalc2ClientsWorsecasePattern 60 40 85 100 = some ⟨4, 56, 59, 237⟩ ∧
      ∃ q, Feasible (unlimited 60) (unlimited 40) (worsecaseGap 60 40 100) (85 - 100) q) ∧
    (mccGetOffsetRangeFor2wslot1btslotP2 40 40 20 = (60, 85) ∧
      Feasible (unlimited 40) (unlimited 40) 20 40 ⟨30, 10, 10, 30⟩) := by
  refine ⟨⟨?_, ?_, ?_⟩, ⟨?_, fun h => ?_⟩, ⟨?_, ⟨5, 55, 30, 10⟩, ?_⟩, ?_, ?_⟩
  case refine_1 | refine_7 | refine_9 =>
    exact ⟨by decide, by decide, by decide, by decide, by decide, by decide, by decide, nofun,
      nofun⟩
  case refine_5 => exact absurd h.offset_eq (by decide)
  all_goals decide

end Rtl8831.Phl.Mcc
