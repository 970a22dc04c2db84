import Rtl8831.Phl.MccPatternBest

/-!
# What the searches find

The functions that keep the last candidate find the best split exactly if the sum
never rises on the way through the feasible splits, since the candidate is set before
the sums are compared.  Those that step back from the end of the loop find it unless
the four times can be equal, since the sum `0` stands for "not set".
-/

namespace Rtl8831.Phl.Mcc

open Lib

section

variable {refDur anoDur : DurInfo} {gap offset : ℤ}

lemma exists_feasible_iff : (∃ q, Feasible refDur anoDur gap offset q) ↔
    leastTobR refDur anoDur gap offset ≤ greatestTobR refDur anoDur gap offset := by
  constructor
  · rintro ⟨q, hq⟩
    rw [hq.eq_splitAt, feasible_splitAt_iff] at hq
    omega
  · intro h
    exact ⟨_, feasible_splitAt_iff.2 ⟨le_rfl, h⟩⟩

lemma optimal_splitAt_iff {x : ℤ} :
    Optimal refDur anoDur gap offset (splitAt refDur anoDur gap offset x) ↔
      Best (sumAt refDur anoDur gap offset) (leastTobR refDur anoDur gap offset)
        (greatestTobR refDur anoDur gap offset) x := by
  constructor
  · rintro ⟨hq, hleast⟩
    obtain ⟨h1, h2⟩ := feasible_splitAt_iff.1 hq
    exact ⟨h1, h2, fun y hy1 hy2 => hleast _ (feasible_splitAt_iff.2 ⟨hy1, hy2⟩)⟩
  · rintro ⟨h1, h2, hleast⟩
    refine ⟨feasible_splitAt_iff.2 ⟨h1, h2⟩, fun q hq => ?_⟩
    have hmem := hq
    rw [hq.eq_splitAt, feasible_splitAt_iff] at hmem
    rw [hq.eq_splitAt]
    exact hleast _ hmem.1 hmem.2

lemma splitOf_eq (h : Fits16 refDur anoDur gap offset) {tobAOf : ℤ → ℤ}
    (hof : ∀ y : ℤ, 0 ≤ y → y < 8192 → s16 (tobAOf y) = offset - gap - y) {x : ℤ}
    (hlo : leastTobR refDur anoDur gap offset ≤ x)
    (hhi : x ≤ greatestTobR refDur anoDur gap offset) :
    splitOf refDur.dur anoDur.dur tobAOf x = splitAt refDur anoDur gap offset x := by
  have hr := h.ref_lt
  have ha := h.ano_lt
  have hq := feasible_splitAt_iff.2 ⟨hlo, hhi⟩
  have h1 := hq.early_r
  have h2 := hq.early_a
  have h3 := hq.min_r
  have h4 := hq.min_a
  simp only [splitAt, earlyRxBcnT, minRxBcnT] at h1 h2 h3 h4
  have htoaR : s16 (s16 (refDur.dur : ℕ) - x) = (refDur.dur : ℕ) - x := by
    rw [s16_eq (z := (refDur.dur : ℕ)) (by omega) (by omega), s16_eq (by omega) (by omega)]
  have htoaA : s16 (s16 (anoDur.dur : ℕ) - (offset - gap - ((refDur.dur : ℕ) - x))) =
      (anoDur.dur : ℕ) - (offset - gap - ((refDur.dur : ℕ) - x)) := by
    rw [s16_eq (z := (anoDur.dur : ℕ)) (by omega) (by omega), s16_eq (by omega) (by omega)]
  have htobA := hof ((refDur.dur : ℕ) - x) (by omega) (by omega)
  simp only [splitOf, splitAt, htoaR, htobA, htoaA]

end

def Settles (refDur anoDur : DurInfo) (gap offset : ℤ) : Option BcnSplit → Prop
  | some q => Optimal refDur anoDur gap offset q
  | none => ∀ q, ¬ Feasible refDur anoDur gap offset q

def NeverRises (refDur anoDur : DurInfo) (gap offset : ℤ) : Prop :=
  ∀ q q', Feasible refDur anoDur gap offset q → Feasible refDur anoDur gap offset q' →
    q'.tobR = q.tobR + 1 → q'.sum ≤ q.sum

section

variable {refDur anoDur : DurInfo} {gap offset : ℤ}

lemma neverRises_iff : NeverRises refDur anoDur gap offset ↔
    ∀ y, leastTobR refDur anoDur gap offset ≤ y → y < greatestTobR refDur anoDur gap offset →
      sumAt refDur anoDur gap offset (y + 1) ≤ sumAt refDur anoDur gap offset y := by
  constructor
  · intro h y h1 h2
    exact h _ _ (feasible_splitAt_iff.2 ⟨h1, h2.le⟩)
      (feasible_splitAt_iff.2 ⟨by omega, by omega⟩) rfl
  · intro h q q' hq hq' hsucc
    have h1 := hq
    have h2 := hq'
    rw [hq.eq_splitAt, feasible_splitAt_iff] at h1
    rw [hq'.eq_splitAt, feasible_splitAt_iff] at h2
    rw [hq.eq_splitAt, hq'.eq_splitAt, hsucc]
    exact h q.tobR h1.1 (by omega)

lemma sumAt_valley : Valley (sumAt refDur anoDur gap offset) :=
  splitAt_sum_valley refDur anoDur gap offset

lemma sumAt_nonneg (x : ℤ) : 0 ≤ sumAt refDur anoDur gap offset x :=
  BcnSplit.sum_nonneg _

lemma rounds_lt (h : Fits16 refDur anoDur gap offset) :
    greatestTobR refDur anoDur gap offset - 5 <
      ((((refDur.dur : ℕ) + anoDur.dur) % 65536 - 5 : ℕ) : ℤ) := by
  have hr := h.ref_lt
  have ha := h.ano_lt
  have hhi : greatestTobR refDur anoDur gap offset ≤ (refDur.dur : ℕ) - 10 :=
    (min_le_left _ _).trans (min_le_left _ _)
  omega

lemma search_cand (h : Fits16 refDur anoDur gap offset) {tobAOf : ℤ → ℤ}
    (hof : ∀ y : ℤ, 0 ≤ y → y < 8192 → s16 (tobAOf y) = offset - gap - y)
    {overTob : Probe} (hover : ∀ s, overTob ≠ .cost s)
    (hle : leastTobR refDur anoDur gap offset ≤ greatestTobR refDur anoDur gap offset) :
    leastTobR refDur anoDur gap offset ≤ (search overTob refDur anoDur tobAOf).2 ∧
      (search overTob refDur anoDur tobAOf).2 ≤ greatestTobR refDur anoDur gap offset ∧
      (Optimal refDur anoDur gap offset (splitAt refDur anoDur gap offset
          (search overTob refDur anoDur tobAOf).2) ↔
        NeverRises refDur anoDur gap offset) := by
  have p := search_profile h hof hover hle
  obtain ⟨⟨hlo, hhi⟩, -⟩ := @p.mem _ _ _ _ _ _ 0 sumAt_valley (rounds_lt h)
  refine ⟨hlo, hhi, ?_⟩
  rw [optimal_splitAt_iff, neverRises_iff]
  exact p.best_snd_iff sumAt_valley (rounds_lt h)

lemma five_le_leastTobR : 5 ≤ leastTobR refDur anoDur gap offset :=
  (le_max_left _ _).trans (le_max_left _ _)

lemma settles_cand_iff (h : Fits16 refDur anoDur gap offset) {tobAOf : ℤ → ℤ}
    (hof : ∀ y : ℤ, 0 ≤ y → y < 8192 → s16 (tobAOf y) = offset - gap - y)
    {overTob : Probe} (hover : ∀ s, overTob ≠ .cost s) :
    Settles refDur anoDur gap offset
        (if (search overTob refDur anoDur tobAOf).2 = 0 then none
          else some (splitOf refDur.dur anoDur.dur tobAOf
            (search overTob refDur anoDur tobAOf).2)) ↔
      NeverRises refDur anoDur gap offset := by
  by_cases hle : leastTobR refDur anoDur gap offset ≤ greatestTobR refDur anoDur gap offset
  · obtain ⟨hlo, hhi, hbest⟩ := search_cand h hof hover hle
    have hcand : (search overTob refDur anoDur tobAOf).2 ≠ 0 := by
      have := @five_le_leastTobR refDur anoDur gap offset
      omega
    rw [if_neg hcand, splitOf_eq h hof hlo hhi]
    exact hbest
  · rw [if_pos (search_none h hof hover (not_le.1 hle))]
    have hnone := mt exists_feasible_iff.1 hle
    push Not at hnone
    exact iff_of_true hnone fun q _ hq => absurd hq (hnone q)

end

lemma stop_ne_cost (s : ℤ) : Probe.stop ≠ .cost s := nofun

lemma offset_sub_eq {offset : ℕ} (ho : offset < 8192) {y : ℤ} (h0 : 0 ≤ y) (h1 : y < 8192) :
    s16 (s16 offset - y) = offset - 0 - y := by
  rw [s16_eq (z := (offset : ℤ)) (by omega) (by omega), s16_eq (by omega) (by omega), sub_zero]

lemma mccCalculate2WrolePattern_settles_iff (refDur anoDur : DurInfo) (offset : U16)
    (h : Fits16 refDur anoDur 0 (offset : ℕ)) :
    Settles refDur anoDur 0 (offset : ℕ) (mccCalculate2WrolePattern refDur anoDur offset) ↔
      NeverRises refDur anoDur 0 (offset : ℕ) := by
  have ho : (offset : ℕ) < 8192 := by
    have := h.offset_abs
    rw [abs_lt] at this
    omega
  exact settles_cand_iff h (fun y h0 h1 => offset_sub_eq ho h0 h1) nofun

lemma mccCalculate2wslot1btslotPattern1_settles_iff (refDur anoDur : DurInfo) (offset : U16)
    (h : Fits16 refDur anoDur 0 (offset : ℕ)) :
    Settles refDur anoDur 0 (offset : ℕ) (mccCalculate2wslot1btslotPattern1 refDur anoDur offset) ↔
      NeverRises refDur anoDur 0 (offset : ℕ) := by
  have ho : (offset : ℕ) < 8192 := by
    have := h.offset_abs
    rw [abs_lt] at this
    omega
  exact settles_cand_iff h (fun y h0 h1 => offset_sub_eq ho h0 h1) nofun

lemma mccCalculate2wslot1btslotPattern2_settles_iff (refDur anoDur : DurInfo)
    (offset btDur : U16) (h : Fits16 refDur anoDur (btDur : ℕ) (offset : ℕ)) :
    Settles refDur anoDur (btDur : ℕ) (offset : ℕ)
        (mccCalculate2wslot1btslotPattern2 refDur anoDur offset btDur) ↔
      (∀ q, ¬ Feasible refDur anoDur (btDur : ℕ) (offset : ℕ) q) ∨
        (btDur : ℕ) = 0 ∧ NeverRises refDur anoDur 0 (offset : ℕ) := by
  have hdur := h.ref_lt
  have hgap := h.gap_abs
  have ho := h.offset_abs
  rw [abs_lt] at hgap ho
  have hof : ∀ y : ℤ, 0 ≤ y → y < 8192 →
      s16 (s16 (offset : ℕ) - y - s16 (btDur : ℕ)) = (offset : ℕ) - (btDur : ℕ) - y := by
    intro y h0 h1
    rw [s16_eq (z := (offset : ℕ)) (by omega) (by omega),
      s16_eq (z := (btDur : ℕ)) (by omega) (by omega), s16_eq (by omega) (by omega)]
    ring
  unfold mccCalculate2wslot1btslotPattern2
  by_cases hle : leastTobR refDur anoDur (btDur : ℕ) (offset : ℕ) ≤
      greatestTobR refDur anoDur (btDur : ℕ) (offset : ℕ)
  · obtain ⟨hlo, hhi, hbest⟩ := search_cand h hof stop_ne_cost hle
    have hnot : ¬ ∀ q, ¬ Feasible refDur anoDur (btDur : ℕ) (offset : ℕ) q := by
      push Not
      exact exists_feasible_iff.2 hle
    generalize (search .stop refDur anoDur fun toaR =>
      s16 (offset : ℕ) - toaR - s16 (btDur : ℕ)).2 = cand at *
    have hcand : cand ≠ 0 := by
      have := @five_le_leastTobR refDur anoDur (btDur : ℕ) (offset : ℕ)
      omega
    rw [if_neg hcand, or_iff_right hnot]
    by_cases hbt : (btDur : ℕ) = 0
    · have hz : ((btDur : ℕ) : ℤ) = 0 := by omega
      rw [hz] at h hlo hhi hbest ⊢
      rw [splitOf_eq h (fun y h0 h1 => offset_sub_eq (by omega) h0 h1) hlo hhi, Settles, hbest,
        and_iff_right hbt]
    · refine iff_of_false (fun hopt => ?_) fun hb => hbt hb.1
      -- The other beacon would be early by the length of the Bluetooth slot.
      have heq := hopt.feasible.offset_eq
      have hmin := (feasible_splitAt_iff.2 ⟨hlo, hhi⟩).min_r
      simp only [splitAt, minRxBcnT] at hmin
      have h5 := @five_le_leastTobR refDur anoDur (btDur : ℕ) (offset : ℕ)
      have htoaR : s16 (s16 (refDur.dur : ℕ) - cand) = (refDur.dur : ℕ) - cand := by
        rw [s16_eq (z := (refDur.dur : ℕ)) (by omega) (by omega), s16_eq (by omega) (by omega)]
      have htobA := @offset_sub_eq offset (by omega) _
        (show 0 ≤ (refDur.dur : ℕ) - cand by omega) (by omega)
      simp only [splitOf, htoaR, htobA] at heq
      omega
  · rw [if_pos (search_none h hof stop_ne_cost (not_le.1 hle))]
    have hnone := mt exists_feasible_iff.1 hle
    push Not at hnone
    exact iff_of_true hnone (Or.inl hnone)

section

variable {refDur anoDur : U16} {gap offset : ℤ}

lemma leastTobR_unlimited : leastTobR (unlimited refDur) (unlimited anoDur) gap offset =
    max 5 (5 - (offset - gap - (refDur : ℕ))) := by
  have hr := refDur.isLt
  have ha := anoDur.isLt
  simp only [leastTobR, DurInfo.capToa, unlimited, shift, Bool.false_eq_true, if_false]
  omega

lemma greatestTobR_unlimited : greatestTobR (unlimited refDur) (unlimited anoDur) gap offset =
    min (((refDur : ℕ) : ℤ) - 10) ((anoDur : ℕ) - (offset - gap - (refDur : ℕ)) - 10) := by
  have hr := refDur.isLt
  have ha := anoDur.isLt
  simp only [greatestTobR, DurInfo.capTob, unlimited, shift, Bool.false_eq_true, if_false]
  omega

lemma searchStep_stop (h : Fits16 (unlimited refDur) (unlimited anoDur) gap offset)
    {tobAOf : ℤ → ℤ}
    (hof : ∀ y : ℤ, 0 ≤ y → y < 8192 → s16 (tobAOf y) = offset - gap - y)
    (hle : leastTobR (unlimited refDur) (unlimited anoDur) gap offset ≤
      greatestTobR (unlimited refDur) (unlimited anoDur) gap offset) :
    searchStep .stop (unlimited refDur) (unlimited anoDur) tobAOf
      (greatestTobR (unlimited refDur) (unlimited anoDur) gap offset + 1) = .stop := by
  have hr : (refDur : ℕ) < 8192 := h.ref_lt
  have ha : (anoDur : ℕ) < 8192 := h.ano_lt
  have hlo := @leastTobR_unlimited refDur anoDur gap offset
  have hhi := @greatestTobR_unlimited refDur anoDur gap offset
  generalize leastTobR (unlimited refDur) (unlimited anoDur) gap offset = lo at *
  generalize greatestTobR (unlimited refDur) (unlimited anoDur) gap offset = hi at *
  rw [searchStep_eq_plainStep h hof .stop (by omega) (by omega)]
  simp only [plainStep, DurInfo.capTob, DurInfo.capToa, unlimited, Bool.false_eq_true, if_false]
  split_ifs
  · rfl
  · rfl
  · omega
  · omega
  · rfl
  · omega
  · omega

def CanBeEqual (refDur anoDur : ℕ) (gap offset : ℤ) : Prop :=
  anoDur = refDur ∧ offset - gap = refDur ∧ Even refDur ∧ 20 < refDur

instance (refDur anoDur : ℕ) (gap offset : ℤ) : Decidable (CanBeEqual refDur anoDur gap offset) :=
  inferInstanceAs (Decidable (_ ∧ _ ∧ _ ∧ _))

lemma BcnSplit.sum_eq_zero_iff {q : BcnSplit} :
    q.sum = 0 ↔ q.tobR = q.toaR ∧ q.tobR = q.tobA ∧ q.tobR = q.toaA := by
  constructor
  · intro h
    have hsq := fun z : ℤ => mul_self_nonneg z
    have h1 := hsq (q.tobR - q.toaR)
    have h2 := hsq (q.tobR - q.tobA)
    have h3 := hsq (q.tobR - q.toaA)
    have h4 := hsq (q.toaR - q.tobA)
    have h5 := hsq (q.toaR - q.toaA)
    have h6 := hsq (q.tobA - q.toaA)
    unfold sum at h
    refine ⟨sub_eq_zero.1 (mul_self_eq_zero.1 ?_), sub_eq_zero.1 (mul_self_eq_zero.1 ?_),
      sub_eq_zero.1 (mul_self_eq_zero.1 ?_)⟩ <;> omega
  · rintro ⟨h1, h2, h3⟩
    simp only [sum, ← h1, ← h2, ← h3, sub_self, mul_zero, add_zero]

lemma sumAt_eq_zero_iff {x : ℤ} : sumAt (unlimited refDur) (unlimited anoDur) gap offset x = 0 ↔
    2 * x = (refDur : ℕ) ∧ offset - gap = (refDur : ℕ) ∧ anoDur = refDur := by
  rw [sumAt, BcnSplit.sum_eq_zero_iff, Fin.ext_iff]
  simp only [splitAt, unlimited]
  omega

lemma search_before_end (h : Fits16 (unlimited refDur) (unlimited anoDur) gap offset)
    {tobAOf : ℤ → ℤ}
    (hof : ∀ y : ℤ, 0 ≤ y → y < 8192 → s16 (tobAOf y) = offset - gap - y)
    (hle : leastTobR (unlimited refDur) (unlimited anoDur) gap offset ≤
      greatestTobR (unlimited refDur) (unlimited anoDur) gap offset) {x : ℤ}
    (hx : (search .stop (unlimited refDur) (unlimited anoDur) tobAOf).1 - 1 = x) :
    (leastTobR (unlimited refDur) (unlimited anoDur) gap offset ≤ x ∧
        x ≤ greatestTobR (unlimited refDur) (unlimited anoDur) gap offset) ∧
      (Optimal (unlimited refDur) (unlimited anoDur) gap offset
          (splitAt (unlimited refDur) (unlimited anoDur) gap offset x) ↔
        ¬ CanBeEqual refDur anoDur gap offset) := by
  have p := search_profile h hof stop_ne_cost hle
  have hstop := searchStep_stop h hof hle
  obtain ⟨-, hmem⟩ := @p.mem _ _ _ _ _ _ 0 sumAt_valley (rounds_lt h)
  subst hx
  refine ⟨hmem hstop, ?_⟩
  rw [optimal_splitAt_iff]
  refine (p.best_fst_iff sumAt_valley sumAt_nonneg (rounds_lt h) hstop).trans ?_
  have hlo := @leastTobR_unlimited refDur anoDur gap offset
  have hhi := @greatestTobR_unlimited refDur anoDur gap offset
  simp only [sumAt_eq_zero_iff, CanBeEqual]
  constructor
  · rintro hzero ⟨heq, hoff, ⟨k, hk⟩, hlt⟩
    have := hzero k (by omega) (by omega) ⟨by omega, hoff, Fin.ext heq⟩
    omega
  · rintro hne y h1 h2 ⟨hy, hoff, heq⟩
    refine absurd ⟨congrArg Fin.val heq, hoff, ⟨y.toNat, by omega⟩, ?_⟩ hne
    rw [Fin.ext_iff] at heq
    omega

lemma storedBeforeEnd_optimal_iff
    (h : Fits16 (unlimited refDur) (unlimited anoDur) gap offset)
    (hr : (refDur : ℕ) < 256) (ha : (anoDur : ℕ) < 256) {tobAOf : ℤ → ℤ}
    (hof : ∀ y : ℤ, 0 ≤ y → y < 8192 → s16 (tobAOf y) = offset - gap - y)
    (hex : ∃ q, Feasible (unlimited refDur) (unlimited anoDur) gap offset q) :
    Optimal (unlimited refDur) (unlimited anoDur) gap offset
      (storedBeforeEnd refDur anoDur tobAOf) ↔ ¬ CanBeEqual refDur anoDur gap offset := by
  obtain ⟨⟨hlo, hhi⟩, hopt⟩ := search_before_end h hof (exists_feasible_iff.1 hex) rfl
  rw [← hopt]
  have hq := feasible_splitAt_iff.2 ⟨hlo, hhi⟩
  unfold storedBeforeEnd
  generalize (search .stop (unlimited refDur) (unlimited anoDur) tobAOf).1 - 1 = x at *
  have hr' : (unlimited refDur).dur = refDur := rfl
  have ha' : (unlimited anoDur).dur = anoDur := rfl
  have h1 := hq.early_r
  have h2 := hq.early_a
  have h3 := hq.min_r
  have h4 := hq.min_a
  have hsplit := splitOf_eq h hof hlo hhi
  simp only [splitAt, earlyRxBcnT, minRxBcnT, hr', ha'] at h1 h2 h3 h4 hsplit
  have hx : s16 x = x := s16_eq (by omega) (by omega)
  have hu8 : ∀ z : ℤ, 0 ≤ z → z < 256 → u8 z = z := fun z h0 h1 => Int.emod_eq_of_lt h0 h1
  simp only [hx, hsplit]
  rw [hu8 _ (by omega) (by omega), hu8 _ (by omega) (by omega), hu8 _ (by omega) (by omega),
    hu8 _ (by omega) (by omega)]
  rfl

end

lemma mccCalculate2ClientsPattern_optimal_iff (refDur anoDur offset : U16)
    (h : Fits16 (unlimited refDur) (unlimited anoDur) 0 (offset : ℕ))
    (hr : (refDur : ℕ) < 256) (ha : (anoDur : ℕ) < 256) :
    Optimal (unlimited refDur) (unlimited anoDur) 0 (offset : ℕ)
        (mccCalculate2ClientsPattern refDur anoDur offset) ↔
      (∃ q, Feasible (unlimited refDur) (unlimited anoDur) 0 (offset : ℕ) q) ∧
        ¬ CanBeEqual refDur anoDur 0 (offset : ℕ) := by
  have ho : (offset : ℕ) < 8192 := by
    have := h.offset_abs
    rw [abs_lt] at this
    omega
  have hiff := storedBeforeEnd_optimal_iff h hr ha (fun y h0 h1 => offset_sub_eq ho h0 h1)
  constructor
  · intro hopt
    have hex : ∃ q, Feasible (unlimited refDur) (unlimited anoDur) 0 (offset : ℕ) q :=
      ⟨_, hopt.feasible⟩
    exact ⟨hex, (hiff hex).1 hopt⟩
  · rintro ⟨hex, hne⟩
    exact (hiff hex).2 hne

end Rtl8831.Phl.Mcc
