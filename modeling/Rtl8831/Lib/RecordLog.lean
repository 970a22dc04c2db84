import Rtl8831.Lib.Index

/-!
# Logs of records in a memory

A log is read record by record: `rd i x` gives the position behind the record
at `i` and the state `x` after it.  A memory that has grown behind the last
record reads the same up to there, and a loop over the records unrolls along
the log.
-/

namespace Rtl8831.Lib

variable {σ τ ρ : Type*} {rd : ℕ → σ → Option (ℕ × σ)} {k i j : ℕ} {x y : σ}

/-- Reading `k` records from `i` on leads from `x` at `i` to `y` at `j`. -/
inductive Replays (rd : ℕ → σ → Option (ℕ × σ)) : ℕ → ℕ → σ → ℕ → σ → Prop
  | nil (i : ℕ) (x : σ) : Replays rd 0 i x i x
  | snoc {k i : ℕ} {x : σ} {j : ℕ} {y : σ} {j' : ℕ} {y' : σ} :
      Replays rd k i x j y → rd j y = some (j', y') → Replays rd (k + 1) i x j' y'

lemma Replays.add_le (hrd : ∀ i x p, rd i x = some p → i < p.1)
    (h : Replays rd k i x j y) : i + k ≤ j := by
  induction h with
  | nil => exact Nat.le_refl _
  | snoc _ hread ih =>
    have hlt := hrd _ _ _ hread
    exact Nat.le_trans (Nat.succ_le_succ ih) hlt

lemma Replays.le_of_read {n : ℕ} (hrd : ∀ i x p, rd i x = some p → p.1 ≤ n)
    (h : Replays rd k i x j y) : k = 0 ∨ j ≤ n := by
  cases h with
  | nil => exact .inl rfl
  | snoc _ hread => exact .inr (hrd _ _ _ hread)

lemma Replays.congr {r : ℕ → σ → Option (ℕ × σ)}
    (hrd : ∀ i x p, rd i x = some p → i < p.1) (h : Replays rd k i x j y)
    (hagree : ∀ i x p, p.1 ≤ j → rd i x = some p → r i x = some p) :
    Replays r k i x j y := by
  induction h with
  | nil => exact .nil _ _
  | snoc _ hread ih =>
    refine .snoc (ih fun i x p hp hx => ?_) (hagree _ _ _ (Nat.le_refl _) hread)
    exact hagree i x p (Nat.le_trans hp (Nat.le_of_lt (hrd _ _ _ hread))) hx

lemma Replays.positions {r : ℕ → τ → Option (ℕ × τ)}
    (hrd : ∀ i x p x', rd i x = some p → ∃ y', r i x' = some (p.1, y'))
    (h : Replays rd k i x j y) (x' : τ) : ∃ y', Replays r k i x' j y' := by
  induction h with
  | nil => exact ⟨x', .nil _ _⟩
  | snoc _ hread ih =>
    obtain ⟨y', hy'⟩ := ih
    obtain ⟨z', hz'⟩ := hrd _ _ _ y' hread
    exact ⟨z', hy'.snoc hz'⟩

lemma Replays.loop {f : ℕ → ℕ → σ → ρ}
    (hloop : ∀ fuel i x p, rd i x = some p → f (fuel + 1) i x = f fuel p.1 p.2)
    (h : Replays rd k i x j y) (fuel : ℕ) : f (fuel + k) i x = f fuel j y := by
  induction h generalizing fuel with
  | nil => rfl
  | @snoc k _ _ _ _ _ _ _ hread ih =>
    calc f (fuel + (k + 1)) _ _
        = f (fuel + 1 + k) _ _ := by rw [Nat.add_right_comm, Nat.add_assoc]
      _ = f (fuel + 1) _ _ := ih (fuel + 1)
      _ = f fuel _ _ := hloop _ _ _ _ hread

end Rtl8831.Lib
