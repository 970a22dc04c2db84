import Rtl8831.Lib.Index

/-!
# Searches that end at the first rise of a cost

A search goes from one candidate to the next.  A candidate is skipped, ends the
search, or has a cost; a cost above the last one ends the search too, unless the
last one is `0`, the value for "not set".  The result is the place where the search
ended and the last candidate with a cost.

For a cost that keeps rising once it rises, on an interval of candidates, it is said
exactly when the last candidate is the best one, and when the place before the end is.
-/

namespace Rtl8831.Lib

inductive Probe
  | stop
  | skip
  | cost (s : ℤ)

def scan (f : ℤ → Probe) : ℕ → ℤ → ℤ → ℤ → ℤ × ℤ
  | 0, x, _, cand => (x, cand)
  | n + 1, x, last, cand =>
    match f x with
    | .stop => (x, cand)
    | .skip => scan f n (x + 1) last cand
    | .cost s => if last ≠ 0 ∧ last < s then (x, x) else scan f n (x + 1) s x

variable {f : ℤ → Probe} {S : ℤ → ℤ} {n : ℕ} {x lo hi m last cand : ℤ}

lemma scan_succ : scan f (n + 1) x last cand =
    match f x with
    | .stop => (x, cand)
    | .skip => scan f n (x + 1) last cand
    | .cost s => if last ≠ 0 ∧ last < s then (x, x) else scan f n (x + 1) s x :=
  rfl

lemma scan_of_skip (h : f x = .skip) :
    scan f (n + 1) x last cand = scan f n (x + 1) last cand := by
  rw [scan_succ, h]

lemma scan_of_stop (h : f x = .stop) : scan f (n + 1) x last cand = (x, cand) := by
  rw [scan_succ, h]

lemma scan_of_rise {s : ℤ} (h : f x = .cost s) (h0 : last ≠ 0) (hlt : last < s) :
    scan f (n + 1) x last cand = (x, x) := by
  rw [scan_succ, h]
  exact if_pos ⟨h0, hlt⟩

lemma scan_of_cost {s : ℤ} (h : f x = .cost s) (hle : last = 0 ∨ s ≤ last) :
    scan f (n + 1) x last cand = scan f n (x + 1) s x := by
  rw [scan_succ, h]
  refine if_neg ?_
  rintro ⟨h0, hlt⟩
  omega

lemma scan_fst_bounds : x ≤ (scan f n x last cand).1 ∧ (scan f n x last cand).1 ≤ x + n := by
  induction n generalizing x last cand with
  | zero => simp [scan]
  | succ n ih =>
    rw [scan_succ]
    have hnext := fun last cand : ℤ => @ih (x + 1) last cand
    cases f x with
    | stop => simp only; omega
    | skip =>
      have := hnext last cand
      simp only
      omega
    | cost s =>
      have := hnext s x
      simp only
      split_ifs
      · simp only
        omega
      · omega

lemma scan_snd_of_noCost (h : ∀ y, x ≤ y → y < x + n → ∀ s, f y ≠ .cost s) :
    (scan f n x last cand).2 = cand := by
  induction n generalizing x with
  | zero => rfl
  | succ n ih =>
    cases hx : f x with
    | stop => rw [scan_of_stop hx]
    | skip =>
      rw [scan_of_skip hx]
      exact ih fun y hy hlt => h y (by omega) (by omega)
    | cost s => exact absurd hx (h x le_rfl (by omega) s)

lemma scan_skips (k : ℕ) (h : ∀ y, x ≤ y → y < x + k → f y = .skip) :
    scan f (k + n) x last cand = scan f n (x + k) last cand := by
  induction k generalizing x with
  | zero => simp
  | succ k ih =>
    rw [Nat.add_right_comm, scan_of_skip (h x le_rfl (by omega)),
      ih fun y hy hlt => h y (by omega) (by omega)]
    congr 1
    push_cast
    ring

lemma scan_descends (k : ℕ)
    (h : ∀ y, x < y → y ≤ x + k → f y = .cost (S y) ∧ S y ≤ S (y - 1)) :
    scan f (k + n) (x + 1) (S x) x = scan f n (x + k + 1) (S (x + k)) (x + k) := by
  induction k generalizing x with
  | zero => simp
  | succ k ih =>
    obtain ⟨hcost, hle⟩ := h (x + 1) (by omega) (by omega)
    rw [add_sub_cancel_right] at hle
    rw [Nat.add_right_comm, scan_of_cost hcost (Or.inr hle),
      ih fun y hy hlt => h y (by omega) (by omega)]
    have hx : x + 1 + (k : ℤ) = x + ((k + 1 : ℕ) : ℤ) := by
      push_cast
      ring
    rw [hx]

structure Profile (f : ℤ → Probe) (S : ℤ → ℤ) (n : ℕ) (x lo hi : ℤ) : Prop where
  start_le : x ≤ lo
  le : lo ≤ hi
  skip : ∀ y, x ≤ y → y < lo → f y = .skip
  cost : ∀ y, lo ≤ y → y ≤ hi → f y = .cost (S y)
  rest : ∀ y, hi < y → y < x + n → ∀ s, f y ≠ .cost s

lemma Profile.scan_to (p : Profile f S n x lo hi) (hlo : lo ≤ m) (hm : m ≤ hi)
    (hdesc : ∀ y, lo < y → y ≤ m → S y ≤ S (y - 1)) (hn : m - x < n) :
    ∃ n' : ℕ, (n : ℤ) = n' + (m + 1 - x) ∧
      scan f n x 0 cand = scan f n' (m + 1) (S m) m := by
  obtain ⟨k, hk⟩ := Int.eq_ofNat_of_zero_le (show 0 ≤ lo - x by have := p.start_le; omega)
  obtain ⟨j, hj⟩ := Int.eq_ofNat_of_zero_le (show 0 ≤ m - lo by omega)
  obtain ⟨n', hn'⟩ := Int.eq_ofNat_of_zero_le (show 0 ≤ n - (m + 1 - x) by omega)
  refine ⟨n', by omega, ?_⟩
  have hfuel : n = k + ((j + n') + 1) := by omega
  have hklo : x + (k : ℤ) = lo := by omega
  have hjm : lo + (j : ℤ) = m := by omega
  rw [hfuel, scan_skips k fun y hy hlt => p.skip y hy (by omega), hklo,
    scan_of_cost (p.cost lo le_rfl (by omega)) (Or.inl rfl),
    scan_descends j fun y hy hle => ⟨p.cost y (by omega) (by omega), hdesc y hy (by omega)⟩, hjm]

lemma Profile.scan_end (p : Profile f S n x lo hi) {k : ℕ} (hk : hi + 1 + k = x + n) (cand : ℤ) :
    (scan f k (hi + 1) last cand).2 = cand ∧
      (f (hi + 1) = .stop → (scan f k (hi + 1) last cand).1 = hi + 1) := by
  refine ⟨scan_snd_of_noCost fun y hy hlt => p.rest y (by omega) (by omega), fun hstop => ?_⟩
  cases k with
  | zero => rfl
  | succ k => rw [scan_of_stop hstop]

def Valley (S : ℤ → ℤ) : Prop := ∀ y, S y < S (y + 1) → S (y + 1) < S (y + 2)

structure Turn (S : ℤ → ℤ) (lo hi m : ℤ) : Prop where
  lo_le : lo ≤ m
  le_hi : m ≤ hi
  falls : ∀ y, lo < y → y ≤ m → S y ≤ S (y - 1)
  rises : ∀ y, m < y → y ≤ hi → S (y - 1) < S y

lemma Valley.exists_turn (hS : Valley S) (hle : lo ≤ hi) : ∃ m, Turn S lo hi m := by
  obtain ⟨k, hk⟩ := Int.eq_ofNat_of_zero_le (show 0 ≤ hi - lo by omega)
  have hhi : hi = lo + k := by omega
  subst hhi
  clear hle hk
  induction k with
  | zero => exact ⟨lo, le_rfl, by simp, fun y h1 h2 => by omega, fun y h1 h2 => by omega⟩
  | succ k ih =>
    obtain ⟨m, h1, h2, hfalls, hrises⟩ := ih
    have htop : lo + ((k + 1 : ℕ) : ℤ) = lo + k + 1 := by
      push_cast
      ring
    rw [htop]
    by_cases hlast : S (lo + k) < S (lo + k + 1)
    · refine ⟨m, h1, by omega, hfalls, fun y hy hle => ?_⟩
      by_cases hy' : y ≤ lo + k
      · exact hrises y hy hy'
      · obtain rfl : y = lo + k + 1 := by omega
        rwa [add_sub_cancel_right]
    · -- The cost does not rise at the end, so it has not risen before.
      have hm : m = lo + k := by
        by_contra hne
        have hup := hrises (lo + k) (by omega) le_rfl
        have := hS (lo + k - 1) (by rwa [sub_add_cancel])
        rw [sub_add_cancel, show lo + k - 1 + 2 = lo + (k : ℤ) + 1 by ring] at this
        exact hlast this
      refine ⟨lo + k + 1, by omega, le_rfl, fun y hy hle => ?_, fun y hy hle => by omega⟩
      by_cases hy' : y ≤ lo + k
      · exact hfalls y hy (by omega)
      · obtain rfl : y = lo + k + 1 := by omega
        rw [add_sub_cancel_right]
        omega

lemma Turn.le_of_le (t : Turn S lo hi m) (k : ℕ) (hk : lo ≤ m - k) : S m ≤ S (m - k) := by
  induction k with
  | zero => simp
  | succ k ih =>
    have hprev := ih (by omega)
    have hstep := t.falls (m - k) (by omega) (by omega)
    have hk' : m - (k : ℤ) - 1 = m - ((k + 1 : ℕ) : ℤ) := by
      push_cast
      ring
    rw [hk'] at hstep
    omega

lemma Turn.lt_of_lt (t : Turn S lo hi m) (k : ℕ) (hk : m + (k + 1 : ℕ) ≤ hi) :
    S m < S (m + (k + 1 : ℕ)) := by
  induction k with
  | zero => simpa using t.rises (m + 1) (by omega) (by omega)
  | succ k ih =>
    have hprev := ih (by omega)
    have hstep := t.rises (m + (k + 1 + 1 : ℕ)) (by omega) hk
    have hk' : m + ((k + 1 + 1 : ℕ) : ℤ) - 1 = m + ((k + 1 : ℕ) : ℤ) := by
      push_cast
      ring
    rw [hk'] at hstep
    omega

lemma Turn.lt (t : Turn S lo hi m) {y : ℤ} (h1 : m < y) (h2 : y ≤ hi) : S m < S y := by
  obtain ⟨k, hk⟩ := Int.eq_ofNat_of_zero_le (show 0 ≤ y - m - 1 by omega)
  obtain rfl : y = m + (k + 1 : ℕ) := by omega
  exact t.lt_of_lt k h2

lemma Turn.le (t : Turn S lo hi m) {y : ℤ} (h1 : lo ≤ y) (h2 : y ≤ hi) : S m ≤ S y := by
  by_cases hy : y ≤ m
  · obtain ⟨k, hk⟩ := Int.eq_ofNat_of_zero_le (show 0 ≤ m - y by omega)
    obtain rfl : y = m - k := by omega
    exact t.le_of_le k h1
  · exact (t.lt (by omega) h2).le

structure Best (S : ℤ → ℤ) (lo hi x : ℤ) : Prop where
  lo_le : lo ≤ x
  le_hi : x ≤ hi
  least : ∀ y, lo ≤ y → y ≤ hi → S x ≤ S y

lemma Turn.best (t : Turn S lo hi m) : Best S lo hi m :=
  ⟨t.lo_le, t.le_hi, fun _ h1 h2 => t.le h1 h2⟩

lemma Turn.not_best (t : Turn S lo hi m) {y : ℤ} (h : m < y) : ¬ Best S lo hi y := by
  intro hb
  have h1 := t.lt h hb.le_hi
  have h2 := hb.least m t.lo_le t.le_hi
  omega

/-- Where the search ends: behind the interval, if the cost does not rise before, and
otherwise at the first rise, or at the next one if the lowest cost is `0`. -/
lemma Profile.scan_eq (p : Profile f S n x lo hi) (t : Turn S lo hi m) (hn : hi - x < n) :
    (m = hi ∨ S m = 0 ∧ m + 1 = hi →
      (scan f n x 0 cand).2 = hi ∧ (f (hi + 1) = .stop → (scan f n x 0 cand).1 = hi + 1)) ∧
    (m < hi → S m ≠ 0 → scan f n x 0 cand = (m + 1, m + 1)) ∧
    (m + 1 < hi → S m = 0 → scan f n x 0 cand = (m + 2, m + 2)) := by
  have hle := t.le_hi
  have hm' : m - x < n := by omega
  obtain ⟨n', hn', hscan⟩ := @p.scan_to _ _ _ _ _ _ m cand t.lo_le t.le_hi t.falls hm'
  rw [hscan]
  have hm := t.lo_le
  refine ⟨?_, fun hlt hne => ?_, fun hlt heq => ?_⟩
  · rintro (rfl | ⟨heq, rfl⟩)
    · exact p.scan_end (by omega) m
    · obtain ⟨k, rfl⟩ : ∃ k, n' = k + 1 := ⟨n' - 1, by omega⟩
      rw [scan_of_cost (p.cost (m + 1) (by omega) (by omega)) (Or.inl heq)]
      exact p.scan_end (by omega) (m + 1)
  · obtain ⟨k, rfl⟩ : ∃ k, n' = k + 1 := ⟨n' - 1, by omega⟩
    exact scan_of_rise (p.cost (m + 1) (by omega) (by omega)) hne
      (t.lt (by omega) (by omega))
  · obtain ⟨k, rfl⟩ : ∃ k, n' = k + 1 + 1 := ⟨n' - 2, by omega⟩
    have hup := t.lt (y := m + 1) (by omega) (by omega)
    have hup' := t.rises (m + 1 + 1) (by omega) (by omega)
    rw [add_sub_cancel_right] at hup'
    rw [scan_of_cost (p.cost (m + 1) (by omega) (by omega)) (Or.inl heq),
      scan_of_rise (p.cost (m + 1 + 1) (by omega) (by omega)) (by omega) hup', add_assoc]
    rfl

lemma Profile.mem (p : Profile f S n x lo hi) (hS : Valley S) (hn : hi - x < n) :
    (lo ≤ (scan f n x 0 cand).2 ∧ (scan f n x 0 cand).2 ≤ hi) ∧
      (f (hi + 1) = .stop →
        lo ≤ (scan f n x 0 cand).1 - 1 ∧ (scan f n x 0 cand).1 - 1 ≤ hi) := by
  obtain ⟨m, t⟩ := hS.exists_turn p.le
  obtain ⟨hend, hrise, hzero⟩ := @p.scan_eq _ _ _ _ _ _ m cand t hn
  have h1 := t.lo_le
  have h2 := t.le_hi
  by_cases hm : m = hi ∨ S m = 0 ∧ m + 1 = hi
  · obtain ⟨hsnd, hfst⟩ := hend hm
    refine ⟨by omega, fun hstop => ?_⟩
    rw [hfst hstop]
    omega
  · by_cases hS0 : S m = 0
    · rw [hzero (by omega) hS0]
      exact ⟨by dsimp only; omega, fun _ => by dsimp only; omega⟩
    · rw [hrise (by omega) hS0]
      exact ⟨by dsimp only; omega, fun _ => by dsimp only; omega⟩

lemma Profile.best_snd_iff (p : Profile f S n x lo hi) (hS : Valley S) (hn : hi - x < n) :
    Best S lo hi (scan f n x 0 cand).2 ↔ ∀ y, lo ≤ y → y < hi → S (y + 1) ≤ S y := by
  obtain ⟨m, t⟩ := hS.exists_turn p.le
  obtain ⟨hend, hrise, hzero⟩ := @p.scan_eq _ _ _ _ _ _ m cand t hn
  have hle := t.le_hi
  by_cases hm : m = hi
  · rw [(hend (Or.inl hm)).1, ← hm]
    refine iff_of_true (hm ▸ t.best) fun y h1 h2 => ?_
    have := t.falls (y + 1) (by omega) (by omega)
    rwa [add_sub_cancel_right] at this
  · refine iff_of_false ?_ fun h => ?_
    · by_cases hS0 : S m = 0
      · by_cases hlast : m + 1 = hi
        · rw [(hend (Or.inr ⟨hS0, hlast⟩)).1]
          exact t.not_best (by omega)
        · rw [hzero (by omega) hS0]
          exact t.not_best (by dsimp only; omega)
      · rw [hrise (by omega) hS0]
        exact t.not_best (by dsimp only; omega)
    · have h1 := h m t.lo_le (by omega)
      have h2 := t.lt (y := m + 1) (by omega) (by omega)
      omega

lemma Profile.best_fst_iff (p : Profile f S n x lo hi) (hS : Valley S) (h0 : ∀ y, 0 ≤ S y)
    (hn : hi - x < n) (hstop : f (hi + 1) = .stop) :
    Best S lo hi ((scan f n x 0 cand).1 - 1) ↔
      ∀ y, lo ≤ y → y < hi → S y = 0 → S (y + 1) = 0 := by
  obtain ⟨m, t⟩ := hS.exists_turn p.le
  obtain ⟨hend, hrise, hzero⟩ := @p.scan_eq _ _ _ _ _ _ m cand t hn
  have hle := t.le_hi
  by_cases hm : m = hi
  · rw [(hend (Or.inl hm)).2 hstop, add_sub_cancel_right, ← hm]
    refine iff_of_true (hm ▸ t.best) fun y h1 h2 hy => ?_
    have hfall := t.falls (y + 1) (by omega) (by omega)
    rw [add_sub_cancel_right] at hfall
    have := h0 (y + 1)
    omega
  · by_cases hS0 : S m = 0
    · refine iff_of_false ?_ fun h => ?_
      · by_cases hlast : m + 1 = hi
        · rw [(hend (Or.inr ⟨hS0, hlast⟩)).2 hstop]
          exact t.not_best (by omega)
        · rw [hzero (by omega) hS0]
          exact t.not_best (by dsimp only; omega)
      · have h1 := h m t.lo_le (by omega) hS0
        have h2 := t.lt (y := m + 1) (by omega) (by omega)
        omega
    · rw [hrise (by omega) hS0]
      dsimp only
      rw [add_sub_cancel_right]
      refine iff_of_true t.best fun y h1 h2 hy => ?_
      have hleast := t.le h1 h2.le
      have := h0 m
      omega

end Rtl8831.Lib
