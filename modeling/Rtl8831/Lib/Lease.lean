import Rtl8831.Lib.Index

/-!
# Resources that are leased to holders

Each key may have one slot of a store of limited size.  It gets the slot with its first holder
and gives it back with its last one, so that the store contains what is held and nothing else.
The operations are those of one key; the lemmas say that each of them keeps the table sound.
-/

namespace Rtl8831.Lib

open Function

/-- `holders`: who holds the key; `slot`: where the store has it; `store`: what a slot has. -/
structure Lease (κ ρ τ : Type*) where
  holders : κ → List τ
  slot : κ → Option ρ
  store : ρ → Option κ

namespace Lease

variable {κ ρ τ : Type*}

structure Sound (L : Lease κ ρ τ) : Prop where
  stored : ∀ k r, L.slot k = some r ↔ L.store r = some k
  held : ∀ k, L.slot k = none ↔ L.holders k = []
  nodup : ∀ k, (L.holders k).Nodup

variable [DecidableEq κ] [DecidableEq ρ] [DecidableEq τ]

/-- The first holder of a key, which gets the slot `r`. -/
def acquire (L : Lease κ ρ τ) (k : κ) (r : ρ) (x : τ) : Lease κ ρ τ where
  holders := update L.holders k [x]
  slot := update L.slot k (some r)
  store := update L.store r (some k)

def join (L : Lease κ ρ τ) (k : κ) (x : τ) : Lease κ ρ τ :=
  { L with holders := update L.holders k (x :: L.holders k) }

def leave (L : Lease κ ρ τ) (k : κ) (x : τ) : Lease κ ρ τ :=
  { L with holders := update L.holders k ((L.holders k).erase x) }

/-- All holders of the keys in `s` are gone, and the slots of these keys are free again. -/
def release (L : Lease κ ρ τ) (s : κ → Bool) : Lease κ ρ τ where
  holders k := if s k then [] else L.holders k
  slot k := if s k then none else L.slot k
  store r := (L.store r).filter fun k => !s k

variable {L : Lease κ ρ τ} {k : κ} {r : ρ} {x : τ}

omit [DecidableEq κ] [DecidableEq ρ] [DecidableEq τ] in
lemma Sound.slot_inj (h : L.Sound) {k' : κ} (hk : L.slot k = some r)
    (hk' : L.slot k' = some r) : k = k' := by
  have hstore : some k = some k' := ((h.stored k r).1 hk).symm.trans ((h.stored k' r).1 hk')
  exact Option.some.inj hstore

omit [DecidableEq τ] in
lemma Sound.acquire (h : L.Sound) (hk : L.slot k = none) (hr : L.store r = none) (x : τ) :
    (L.acquire k r x).Sound where
  stored k' r' := by
    by_cases hkk : k' = k
    · subst hkk
      by_cases hrr : r' = r
      · subst hrr
        simp [Lease.acquire]
      · have hne : L.store r' ≠ some k' := by
          rw [Ne, ← h.stored, hk]
          exact (Option.some_ne_none r').symm
        simpa [Lease.acquire, hrr, Ne.symm hrr] using hne
    · by_cases hrr : r' = r
      · subst hrr
        have hne : L.slot k' ≠ some r' := by
          rw [Ne, h.stored, hr]
          exact (Option.some_ne_none k').symm
        simpa [Lease.acquire, hkk, Ne.symm hkk] using hne
      · simpa [Lease.acquire, hkk, hrr] using h.stored k' r'
  held k' := by
    by_cases hkk : k' = k
    · subst hkk
      simp [Lease.acquire]
    · simpa [Lease.acquire, hkk] using h.held k'
  nodup k' := by
    by_cases hkk : k' = k
    · subst hkk
      simp [Lease.acquire]
    · simpa [Lease.acquire, hkk] using h.nodup k'

omit [DecidableEq ρ] [DecidableEq τ] in
lemma Sound.join (h : L.Sound) (hk : L.slot k ≠ none) (hx : x ∉ L.holders k) :
    (L.join k x).Sound where
  stored := h.stored
  held k' := by
    by_cases hkk : k' = k
    · subst hkk
      simpa [Lease.join] using hk
    · simpa [Lease.join, hkk] using h.held k'
  nodup k' := by
    by_cases hkk : k' = k
    · subst hkk
      simpa [Lease.join] using ⟨hx, h.nodup k'⟩
    · simpa [Lease.join, hkk] using h.nodup k'

omit [DecidableEq ρ] in
lemma Sound.leave (h : L.Sound) (hk : L.slot k ≠ none) (hx : (L.holders k).erase x ≠ []) :
    (L.leave k x).Sound where
  stored := h.stored
  held k' := by
    by_cases hkk : k' = k
    · subst hkk
      simp [Lease.leave, hk, hx]
    · simpa [Lease.leave, hkk] using h.held k'
  nodup k' := by
    by_cases hkk : k' = k
    · subst hkk
      simpa [Lease.leave] using (h.nodup k').erase x
    · simpa [Lease.leave, hkk] using h.nodup k'

omit [DecidableEq κ] [DecidableEq ρ] [DecidableEq τ] in
lemma slot_of_release {s : κ → Bool} (h : (L.release s).slot k = some r) :
    L.slot k = some r := by
  cases hs : s k with
  | true => simp [Lease.release, hs] at h
  | false => simpa [Lease.release, hs] using h

omit [DecidableEq κ] [DecidableEq ρ] [DecidableEq τ] in
lemma Sound.release (h : L.Sound) (s : κ → Bool) : (L.release s).Sound where
  stored k r := by
    cases hs : s k with
    | true =>
      simp only [Lease.release, hs, if_true, Option.filter_eq_some_iff]
      simp
    | false =>
      have hiff := h.stored k r
      simp only [Lease.release, hs, Bool.false_eq_true, if_false, Option.filter_eq_some_iff]
      simpa using hiff
  held k := by
    cases hs : s k with
    | true => simp [Lease.release, hs]
    | false => simpa [Lease.release, hs] using h.held k
  nodup k := by
    cases hs : s k with
    | true => simp [Lease.release, hs]
    | false => simpa [Lease.release, hs] using h.nodup k

end Lease

end Rtl8831.Lib
