import Rtl8831.Lib.Index

/-!
# Selection sort

The entries below `n` of a table are sorted by a key, the largest first: each place in turn
is swapped with the first largest one behind it.
-/

namespace Rtl8831.Lib

open List

variable {α κ : Type*} [LinearOrder κ] (key : α → κ) (n : ℕ)

def laterMax (a : ℕ → α) (pos j : ℕ) : ℕ := if key (a pos) < key (a j) then j else pos

/-- The place that `i` is swapped with. -/
def maxFrom (a : ℕ → α) (i : ℕ) : ℕ := (range' (i + 1) (n - 1 - i)).foldl (laterMax key a) i

def sortPlace (a : ℕ → α) (i : ℕ) : ℕ → α := fun k => a (Equiv.swap i (maxFrom key n a i) k)

def selectionSort (a : ℕ → α) : ℕ → α := (range (n - 1)).foldl (sortPlace key n) a

variable {key n} {a : ℕ → α} {i : ℕ}

lemma foldl_laterMax (js : List ℕ) (pos : ℕ) :
    js.foldl (laterMax key a) pos ∈ pos :: js ∧
      ∀ j ∈ pos :: js, key (a j) ≤ key (a (js.foldl (laterMax key a) pos)) := by
  induction js generalizing pos with
  | nil => exact ⟨mem_cons_self, fun j hj => (mem_singleton.1 hj ▸ le_refl _)⟩
  | cons j js ih =>
    obtain ⟨hmem, hle⟩ := ih (laterMax key a pos j)
    have hstep : laterMax key a pos j = pos ∨ laterMax key a pos j = j := by
      unfold laterMax
      split_ifs
      · exact .inr rfl
      · exact .inl rfl
    have hpos : key (a pos) ≤ key (a (laterMax key a pos j)) ∧
        key (a j) ≤ key (a (laterMax key a pos j)) := by
      unfold laterMax
      split_ifs with hlt
      · exact ⟨hlt.le, le_refl _⟩
      · exact ⟨le_refl _, not_lt.1 hlt⟩
    have hhead := hle _ mem_cons_self
    rw [foldl_cons]
    constructor
    · rcases mem_cons.1 hmem with heq | htail
      · rw [heq]
        rcases hstep with hs | hs
        · rw [hs]
          exact mem_cons_self
        · rw [hs]
          exact mem_cons_of_mem _ mem_cons_self
      · exact mem_cons_of_mem _ (mem_cons_of_mem _ htail)
    · intro k hk
      rcases mem_cons.1 hk with rfl | hk
      · exact hpos.1.trans hhead
      rcases mem_cons.1 hk with rfl | hk
      · exact hpos.2.trans hhead
      · exact hle k (mem_cons_of_mem _ hk)

lemma maxFrom_spec (hi : i < n) :
    (i ≤ maxFrom key n a i ∧ maxFrom key n a i < n) ∧
      ∀ j, i ≤ j → j < n → key (a j) ≤ key (a (maxFrom key n a i)) := by
  obtain ⟨hmem, hle⟩ := @foldl_laterMax _ _ _ key a (range' (i + 1) (n - 1 - i)) i
  have hplaces : ∀ j, j ∈ i :: range' (i + 1) (n - 1 - i) ↔ i ≤ j ∧ j < n := by
    intro j
    rw [mem_cons, mem_range'_1]
    omega
  exact ⟨(hplaces _).1 hmem, fun j hij hj => hle j ((hplaces j).2 ⟨hij, hj⟩)⟩

lemma perm_swap {j : ℕ} (hi : i < n) (hj : j < n) :
    ((range n).map fun k => a (Equiv.swap i j k)).Perm ((range n).map a) := by
  have hswap : ((range n).map (Equiv.swap i j)).Perm (range n) := by
    refine (perm_ext_iff_of_nodup ?_ nodup_range).2 fun k => ?_
    · exact nodup_range.map (Equiv.swap i j).injective
    · simp only [mem_map, mem_range]
      constructor
      · rintro ⟨m, hm, rfl⟩
        by_cases h1 : m = i
        · rw [h1, Equiv.swap_apply_left]
          exact hj
        by_cases h2 : m = j
        · rw [h2, Equiv.swap_apply_right]
          exact hi
        · rw [Equiv.swap_apply_of_ne_of_ne h1 h2]
          exact hm
      · intro hk
        refine ⟨Equiv.swap i j k, ?_, Equiv.swap_apply_self i j k⟩
        by_cases h1 : k = i
        · rw [h1, Equiv.swap_apply_left]
          exact hj
        by_cases h2 : k = j
        · rw [h2, Equiv.swap_apply_right]
          exact hi
        · rw [Equiv.swap_apply_of_ne_of_ne h1 h2]
          exact hk
  have hmap := hswap.map a
  rwa [map_map] at hmap

/-- The places below `i` are sorted, and nothing behind them is larger. -/
def SortedTo (key : α → κ) (n : ℕ) (a : ℕ → α) (i : ℕ) : Prop :=
  ∀ j k, j < i → j < k → k < n → key (a k) ≤ key (a j)

lemma SortedTo.sortPlace (h : SortedTo key n a i) (hi : i < n) :
    SortedTo key n (sortPlace key n a i) (i + 1) := by
  obtain ⟨⟨hle, hlt⟩, hmax⟩ := @maxFrom_spec _ _ _ key _ a _ hi
  unfold Lib.sortPlace
  generalize maxFrom key n a i = m at hle hlt hmax
  have hfix : ∀ k, k < i → Equiv.swap i m k = k := fun k hk =>
    Equiv.swap_apply_of_ne_of_ne (by omega) (by omega)
  have hrest : ∀ k, i ≤ k → k < n → i ≤ Equiv.swap i m k ∧ Equiv.swap i m k < n := by
    intro k hik hk
    rcases eq_or_ne k i with rfl | h1
    · rw [Equiv.swap_apply_left]
      omega
    rcases eq_or_ne k m with rfl | h2
    · rw [Equiv.swap_apply_right]
      omega
    · rw [Equiv.swap_apply_of_ne_of_ne h1 h2]
      omega
  intro j k hj hjk hk
  change key (a (Equiv.swap i m k)) ≤ key (a (Equiv.swap i m j))
  rcases Nat.lt_succ_iff_lt_or_eq.1 hj with hlti | rfl
  · rw [hfix j hlti]
    by_cases hki : k < i
    · rw [hfix k hki]
      exact h j k hlti hjk hk
    · obtain ⟨h1, h2⟩ := hrest k (by omega) hk
      exact h j _ hlti (by omega) h2
  · rw [Equiv.swap_apply_left]
    obtain ⟨h1, h2⟩ := hrest k (by omega) hk
    exact hmax _ h1 h2

lemma selectionSort_spec (key : α → κ) (n : ℕ) (a : ℕ → α) :
    ((range n).map (selectionSort key n a)).Perm ((range n).map a) ∧
      SortedTo key n (selectionSort key n a) n := by
  have hrun : ∀ m, m ≤ n - 1 →
      ((range n).map ((range m).foldl (sortPlace key n) a)).Perm ((range n).map a) ∧
        SortedTo key n ((range m).foldl (sortPlace key n) a) m := by
    intro m
    induction m with
    | zero => exact fun _ => ⟨.refl _, fun j _ hj => absurd hj (Nat.not_lt_zero j)⟩
    | succ m ih =>
      intro hm
      obtain ⟨hperm, hsorted⟩ := ih (by omega)
      rw [range_succ, foldl_append]
      obtain ⟨⟨-, hlt⟩, -⟩ := @maxFrom_spec _ _ _ key n
        ((range m).foldl (sortPlace key n) a) m (by omega)
      exact ⟨(perm_swap (by omega) hlt).trans hperm, hsorted.sortPlace (by omega)⟩
  obtain ⟨hperm, hsorted⟩ := hrun (n - 1) (Nat.le_refl _)
  exact ⟨hperm, fun j k hj hjk hk => hsorted j k (by omega) hjk hk⟩

end Rtl8831.Lib
