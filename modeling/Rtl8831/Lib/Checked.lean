import Rtl8831.Lib.Index

/-!
# Arithmetic with its faults recorded

A value that is computed in the integers and stored in a variable of `w` bits
is truncated; a division by zero has no result.  A checked computation goes on
with the truncated value, as the machine does, and records that it did not fit.
`Meets` is its weakest precondition: no fault, and a result with a property.
The rules for it are equivalences, so that a precondition found with them is
the exact one.
-/

namespace Rtl8831.Lib

variable {α β : Type}

/-- `value` is `none` after a division by zero. -/
structure Checked (α : Type) where
  value : Option α
  fits : Bool
  deriving DecidableEq

namespace Checked

instance : Monad Checked where
  pure a := ⟨some a, true⟩
  bind x f :=
    match x.value with
    | none => ⟨none, x.fits⟩
    | some a => ⟨(f a).value, x.fits && (f a).fits⟩

def store (w : ℕ) (z : ℤ) : Checked ℕ :=
  ⟨some (z % 2 ^ w).toNat, decide (0 ≤ z ∧ z < 2 ^ w)⟩

def div (a b : ℕ) : Checked ℕ := ⟨if b = 0 then none else some (a / b), true⟩

/-- The computation ends without a fault and its result has the property `Q`. -/
def Meets (x : Checked α) (Q : α → Prop) : Prop :=
  x.fits = true ∧ ∃ a, x.value = some a ∧ Q a

@[simp] lemma meets_pure {a : α} {Q : α → Prop} : (pure a : Checked α).Meets Q ↔ Q a := by
  constructor
  · rintro ⟨-, b, hb, hQ⟩
    rwa [Option.some.inj hb]
  · intro hQ
    exact ⟨rfl, a, rfl, hQ⟩

variable {x : Checked α}

@[simp] lemma meets_bind {f : α → Checked β} {Q : β → Prop} :
    (x >>= f).Meets Q ↔ x.Meets fun a => (f a).Meets Q := by
  rcases x with ⟨value, fits⟩
  cases value with
  | none =>
    constructor
    · rintro ⟨-, b, hb, -⟩
      exact absurd hb (by simp [bind])
    · rintro ⟨-, a, ha, -⟩
      exact absurd ha (by simp)
  | some a =>
    have hfits : ((⟨some a, fits⟩ : Checked α) >>= f).fits = (fits && (f a).fits) := rfl
    have hvalue : ((⟨some a, fits⟩ : Checked α) >>= f).value = (f a).value := rfl
    constructor
    · rintro ⟨hb, hQ⟩
      rw [hfits, Bool.and_eq_true] at hb
      rw [hvalue] at hQ
      exact ⟨hb.1, a, rfl, hb.2, hQ⟩
    · rintro ⟨hf, b, hb, hb', hQ⟩
      cases hb
      refine ⟨?_, ?_⟩
      · rw [hfits, Bool.and_eq_true]
        exact ⟨hf, hb'⟩
      · rw [hvalue]
        exact hQ

lemma meets_ite {p : Prop} [Decidable p] {x y : Checked α} {Q : α → Prop} :
    (if p then x else y).Meets Q ↔ if p then x.Meets Q else y.Meets Q := by
  by_cases hp : p <;> simp only [hp, if_true, if_false]

lemma Meets.exists {Q : α → Prop} (h : x.Meets Q) : ∃ a, Q a :=
  h.2.imp fun _ ha => ha.2

lemma meets_store_natCast {w n : ℕ} {Q : ℕ → Prop} (hn : n < 2 ^ w) :
    (store w n).Meets Q ↔ Q n := by
  have hz : (n : ℤ) < 2 ^ w := by exact_mod_cast hn
  have hvalue : ((n : ℤ) % 2 ^ w).toNat = n := by
    rw [Int.emod_eq_of_lt (by omega) hz, Int.toNat_natCast]
  constructor
  · rintro ⟨-, a, ha, hQ⟩
    rwa [← Option.some.inj ha, hvalue] at hQ
  · intro hQ
    refine ⟨decide_eq_true ⟨by omega, hz⟩, n, ?_, hQ⟩
    rw [store, hvalue]

lemma meets_store_sub {w a b : ℕ} {Q : ℕ → Prop} (ha : a < 2 ^ w) :
    (store w ((a : ℤ) - b)).Meets Q ↔ b ≤ a ∧ Q (a - b) := by
  by_cases hab : b ≤ a
  · rw [← Int.ofNat_sub hab, meets_store_natCast (by omega)]
    exact ⟨fun hQ => ⟨hab, hQ⟩, fun h => h.2⟩
  · constructor
    · rintro ⟨hf, -⟩
      have := of_decide_eq_true hf
      omega
    · intro h
      exact absurd h.1 hab

lemma meets_div {a b : ℕ} {Q : ℕ → Prop} : (div a b).Meets Q ↔ b ≠ 0 ∧ Q (a / b) := by
  by_cases hb : b = 0
  · simp [Meets, div, hb]
  · simp [Meets, div, hb]

end Checked

end Rtl8831.Lib
