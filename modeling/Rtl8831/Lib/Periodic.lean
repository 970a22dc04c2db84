import Rtl8831.Lib.Index

/-!
# Windows that come back in every period

A window of length `D` that starts at `a` and at every multiple of the period `P`
before and after it.
-/

namespace Rtl8831.Lib

def InWindow (P a D t : ℤ) : Prop := (t - a) % P < D

instance (P a D t : ℤ) : Decidable (InWindow P a D t) := inferInstanceAs (Decidable (_ < _))

variable {P a b D t : ℤ}

lemma inWindow_congr (h : P ∣ b - a) : InWindow P a D t ↔ InWindow P b D t := by
  have hmod : (t - a) % P = (t - b) % P := by
    rw [Int.emod_eq_emod_iff_emod_sub_eq_zero]
    have hsub : t - a - (t - b) = b - a := by ring
    rw [hsub]
    exact Int.emod_eq_zero_of_dvd h
  rw [InWindow, hmod, InWindow]

lemma inWindow_iff (ha : 0 ≤ a) (hD : 0 ≤ D) (hP : a + D ≤ P) (hpos : 0 < P) :
    InWindow P a D t ↔ a ≤ t % P ∧ t % P < a + D := by
  have h0 := Int.emod_nonneg t hpos.ne'
  have h1 := Int.emod_lt_of_pos t hpos
  have hmod : (t - a) % P = (t % P - a) % P := by rw [Int.emod_sub_emod]
  rw [InWindow, hmod]
  by_cases hle : a ≤ t % P
  · rw [Int.emod_eq_of_lt (by omega) (by omega)]
    omega
  · have hwrap : (t % P - a) % P = t % P - a + P := by
      rw [← Int.add_emod_right, Int.emod_eq_of_lt (by omega) (by omega)]
    rw [hwrap]
    omega

lemma window_compl_of_dvd (hD : D ≤ P) (hpos : 0 < P) (h : P ∣ b - (a + D)) (t : ℤ) :
    InWindow P b (P - D) t ↔ ¬ InWindow P a D t := by
  rw [← inWindow_congr h, InWindow, InWindow]
  have h0 := Int.emod_nonneg (t - a) hpos.ne'
  have h1 := Int.emod_lt_of_pos (t - a) hpos
  rw [show t - (a + D) = t - a - D by ring, ← Int.emod_sub_emod]
  by_cases hle : D ≤ (t - a) % P
  · by_cases hneg : 0 ≤ D
    · rw [Int.emod_eq_of_lt (by omega) (by omega)]
      omega
    · have := Int.emod_lt_of_pos ((t - a) % P - D) hpos
      omega
  · rw [← Int.add_emod_right, Int.emod_eq_of_lt (by omega) (by omega)]
    omega

lemma window_compl_iff (hD : 0 < D) (hP : D < P) :
    (∀ t, InWindow P b (P - D) t ↔ ¬ InWindow P a D t) ↔ P ∣ b - (a + D) := by
  have hpos : 0 < P := hD.trans hP
  refine ⟨fun h => ?_, fun h => window_compl_of_dvd hP.le hpos h⟩
  -- At the end of the window the other one has begun, and just before it has not.
  have hend := (h (a + D)).2 (by
    rw [InWindow, show a + D - a = D by ring, Int.emod_eq_of_lt hD.le hP]
    exact lt_irrefl D)
  have hlast := mt (h (a + D - 1)).1 (by
    rw [not_not, InWindow, show a + D - 1 - a = D - 1 by ring,
      Int.emod_eq_of_lt (by omega) (by omega)]
    omega)
  rw [InWindow] at hend hlast
  have h0 := Int.emod_nonneg (a + D - b) hpos.ne'
  have hzero : (a + D - b) % P = 0 := by
    by_contra hne
    have hstep : (a + D - 1 - b) % P = (a + D - b) % P - 1 := by
      rw [show a + D - 1 - b = a + D - b - 1 by ring, ← Int.emod_sub_emod,
        Int.emod_eq_of_lt (by omega) (by omega)]
    omega
  rw [← Int.dvd_neg, show -(b - (a + D)) = a + D - b by ring]
  exact Int.dvd_of_emod_eq_zero hzero

/-- The first time after `R` that is a whole number of periods `P` from `S`. -/
def nextStart (P S R : ℤ) : ℤ := R + (P - (R - S) % P)

variable {S R : ℤ}

lemma nextStart_bounds (hP : 0 < P) :
    R < nextStart P S R ∧ nextStart P S R ≤ R + P := by
  have h0 := Int.emod_nonneg (R - S) hP.ne'
  have h1 := Int.emod_lt_of_pos (R - S) hP
  unfold nextStart
  omega

lemma dvd_nextStart_sub (P S R : ℤ) : P ∣ nextStart P S R - S := by
  have hsplit : nextStart P S R - S = P * ((R - S) / P + 1) := by
    have hdiv := Int.emod_add_mul_ediv (R - S) P
    rw [nextStart, Int.mul_add]
    omega
  rw [hsplit]
  exact Int.dvd_mul_right P _

lemma isLeast_nextStart (hP : 0 < P) :
    IsLeast {t | R < t ∧ P ∣ t - S} (nextStart P S R) := by
  refine ⟨⟨(nextStart_bounds hP).1, dvd_nextStart_sub P S R⟩, ?_⟩
  rintro t ⟨hlt, hdvd⟩
  by_contra hless
  have hdiff : P ∣ nextStart P S R - t := by
    have hsub := Int.dvd_sub (dvd_nextStart_sub P S R) hdvd
    rwa [show nextStart P S R - S - (t - S) = nextStart P S R - t by ring] at hsub
  have hle := Int.le_of_dvd (by omega) hdiff
  have hbound := (nextStart_bounds (S := S) (R := R) hP).2
  omega

/-- What is left of a period is the distance to the next start, if it is counted from a time
that is a whole number of periods from `S`. -/
lemma sub_emod_eq_nextStart_iff {S R d : ℤ} :
    R + (P - d % P) = nextStart P S R ↔ P ∣ d - (R - S) := by
  have hsame : R + (P - d % P) = nextStart P S R ↔ d % P = (R - S) % P := by
    unfold nextStart
    omega
  rw [hsame, Int.emod_eq_emod_iff_emod_sub_eq_zero, Int.dvd_iff_emod_eq_zero]

end Rtl8831.Lib
