import Rtl8831.Lib.Index

/-!
# Computations that read a memory

A result comes with the addresses that were read to get it, in order.  A search goes from
position to position until a step ends it; it reads what the steps at the positions it
visits read.
-/

namespace Rtl8831.Lib

open List

variable {α β σ : Type}

structure Reading (α : Type) where
  val : α
  reads : List ℕ

namespace Reading

instance : Monad Reading where
  pure a := ⟨a, []⟩
  bind x f := ⟨(f x.val).val, x.reads ++ (f x.val).reads⟩

variable (a : α) (x : Reading α) (f : α → Reading β)

@[simp] lemma val_pure : (pure a : Reading α).val = a := rfl

@[simp] lemma reads_pure : (pure a : Reading α).reads = [] := rfl

@[simp] lemma val_bind : (x >>= f).val = (f x.val).val := rfl

@[simp] lemma reads_bind :
    (x >>= f).reads = x.reads ++ (f x.val).reads := rfl

@[simp] lemma val_ite (p : Prop) [Decidable p] (x y : Reading α) :
    (if p then x else y).val = if p then x.val else y.val := by
  split <;> rfl

@[simp] lemma reads_ite (p : Prop) [Decidable p] (x y : Reading α) :
    (if p then x else y).reads = if p then x.reads else y.reads := by
  split <;> rfl

/-- Only addresses below `limit` are read. -/
def Below (x : Reading α) (limit : ℕ) : Prop := ∀ a ∈ x.reads, a < limit

lemma below_pure (limit : ℕ) : (pure a : Reading α).Below limit :=
  fun _ ha => absurd ha not_mem_nil

lemma below_bind_iff {x : Reading α} {f : α → Reading β} {limit : ℕ} :
    (x >>= f).Below limit ↔ x.Below limit ∧ (f x.val).Below limit := by
  unfold Below
  rw [reads_bind]
  exact forall_mem_append

lemma below_congr {x : Reading α} {y : Reading β} {limit : ℕ} (h : x.reads = y.reads) :
    x.Below limit ↔ y.Below limit := by
  unfold Below
  rw [h]

lemma below_ite_pure_iff {p : Prop} [Decidable p] {x : Reading α} {a : α} {limit : ℕ} :
    (if p then x else pure a).Below limit ↔ (p → x.Below limit) := by
  by_cases hp : p
  · rw [if_pos hp]
    exact ⟨fun h _ => h, fun h => h hp⟩
  · rw [if_neg hp]
    exact ⟨fun _ h => absurd h hp, fun _ => below_pure a limit⟩

lemma val_ite_pure_false {p : Prop} [Decidable p] {x : Reading Bool} :
    (if p then x else pure false).val = true ↔ p ∧ x.val = true := by
  by_cases hp : p <;> simp [hp]

end Reading

def readByte (mem : ℕ → UInt8) (i : ℕ) : Reading UInt8 := ⟨mem i, [i]⟩

def readBytes (mem : ℕ → UInt8) (i n : ℕ) : Reading (List UInt8) :=
  ⟨(range' i n).map mem, range' i n⟩

-- The values are not rewritten definitionally: a condition on one has to take its instance along.
variable (mem : ℕ → UInt8) (i n : ℕ)

@[simp] lemma val_readByte (i : ℕ) : (readByte mem i).val = mem i := (rfl)

@[simp] lemma reads_readByte (i : ℕ) : (readByte mem i).reads = [i] := rfl

@[simp] lemma val_readBytes :
    (readBytes mem i n).val = (range' i n).map mem := (rfl)

@[simp] lemma reads_readBytes :
    (readBytes mem i n).reads = range' i n := rfl

lemma below_readByte_iff {mem : ℕ → UInt8} {i limit : ℕ} :
    (readByte mem i).Below limit ↔ i < limit := by
  simp [Reading.Below]

lemma below_readBytes_iff {mem : ℕ → UInt8} {i n limit : ℕ} (hn : 0 < n) :
    (readBytes mem i n).Below limit ↔ i + n ≤ limit := by
  simp only [Reading.Below, reads_readBytes, mem_range'_1]
  constructor
  · intro h
    have := h (i + n - 1) ⟨by omega, by omega⟩
    omega
  · rintro h a ⟨-, ha⟩
    omega

lemma below_readBytes {mem : ℕ → UInt8} {i n limit : ℕ} (h : i + n ≤ limit) :
    (readBytes mem i n).Below limit := by
  intro a ha
  have := (mem_range'_1.1 ha).2
  omega

/-- A step ends the search with a result or goes on from another state; `none` if it takes
more than `k` steps. -/
def search (step : σ → Reading (β ⊕ σ)) : ℕ → σ → Reading (Option β)
  | 0, _ => pure none
  | k + 1, s => do
    match ← step s with
    | .inl b => pure (some b)
    | .inr t => search step k t

/-- The search comes from `s` to `t`. -/
def Visits (step : σ → Reading (β ⊕ σ)) : σ → σ → Prop :=
  Relation.ReflTransGen fun s t => (step s).val = .inr t

section Search

variable {step : σ → Reading (β ⊕ σ)} {s t : σ} {k limit : ℕ} {b : β}

lemma search_done (h : (step s).val = .inl b) (k : ℕ) :
    search step (k + 1) s = ⟨some b, (step s).reads⟩ := by
  have hrest : search step (k + 1) s = ⟨some b, (step s).reads ++ []⟩ := by
    simp only [search, bind, h]
    rfl
  rw [hrest, append_nil]

lemma search_next (h : (step s).val = .inr t) (k : ℕ) :
    search step (k + 1) s =
      ⟨(search step k t).val, (step s).reads ++ (search step k t).reads⟩ := by
  simp only [search, bind, h]

lemma search_next_below_iff (h : (step s).val = .inr t) :
    (search step (k + 1) s).Below limit ↔ (step s).Below limit ∧ (search step k t).Below limit := by
  rw [search_next h]
  exact forall_mem_append

lemma search_val_visits (h : (search step k s).val = some b) :
    ∃ t, Visits step s t ∧ (step t).val = .inl b := by
  induction k generalizing s with
  | zero => cases h
  | succ k ih =>
    cases hs : (step s).val with
    | inl c =>
      rw [search_done hs] at h
      cases h
      exact ⟨s, .refl, hs⟩
    | inr t =>
      rw [search_next hs] at h
      obtain ⟨u, hu, hb⟩ := ih h
      exact ⟨u, .head hs hu, hb⟩

lemma exists_search_eq (hv : Visits step s t) (hb : (step t).val = .inl b) :
    ∃ k, (search step k s).val = some b := by
  induction hv using Relation.ReflTransGen.head_induction_on with
  | refl => exact ⟨1, by rw [search_done hb]⟩
  | head hs _ ih =>
    obtain ⟨k, hk⟩ := ih
    exact ⟨k + 1, by rw [search_next hs]; exact hk⟩

lemma search_mono (h : (search step k s).val = some b) (n : ℕ) :
    search step (k + n) s = search step k s := by
  induction k generalizing s with
  | zero => cases h
  | succ k ih =>
    rw [Nat.succ_add]
    cases hs : (step s).val with
    | inl c => rw [search_done hs, search_done hs]
    | inr t =>
      rw [search_next hs] at h
      rw [search_next hs, search_next hs, ih h]

variable {k' : ℕ} {b' : β}

lemma search_unique (h : (search step k s).val = some b)
    (h' : (search step k' s).val = some b') : search step k s = search step k' s := by
  rw [← search_mono h k', ← search_mono h' k, Nat.add_comm]

lemma search_val_unique (h : (search step k s).val = some b)
    (h' : (search step k' s).val = some b') : b = b' := by
  have hval := congrArg Reading.val (search_unique h h')
  rw [h, h'] at hval
  exact Option.some.inj hval

lemma search_stuck (h : (step s).val = .inr s) (k : ℕ) : (search step k s).val = none := by
  induction k with
  | zero => rfl
  | succ k ih =>
    rw [search_next h]
    exact ih

lemma search_mono_step {step step' : σ → Reading (Option β ⊕ σ)} {s : σ} {k : ℕ} {b : β}
    (h : ∀ s, (step s).val = .inl none ∨ (step' s).val = (step s).val)
    (hb : (search step k s).val = some (some b)) (n : ℕ) :
    (search step' (k + n) s).val = some (some b) := by
  induction k generalizing s with
  | zero => cases hb
  | succ k ih =>
    rw [Nat.add_right_comm]
    cases hs : (step s).val with
    | inl c =>
      rw [search_done hs] at hb
      cases hb
      rcases h s with hnone | hsame
      · rw [hs] at hnone
        cases hnone
      · rw [search_done (hsame.trans hs)]
    | inr t =>
      rw [search_next hs] at hb
      rcases h s with hnone | hsame
      · rw [hs] at hnone
        cases hnone
      · rw [search_next (hsame.trans hs)]
        exact ih hb

lemma search_below_iff (h : (search step k s).val = some b) :
    (search step k s).Below limit ↔ ∀ t, Visits step s t → (step t).Below limit := by
  induction k generalizing s with
  | zero => cases h
  | succ k ih =>
    cases hs : (step s).val with
    | inl c =>
      rw [Reading.below_congr (y := step s) (by rw [search_done hs])]
      constructor
      · intro hbelow t ht
        rcases ht.cases_head with rfl | ⟨u, hu, -⟩
        · exact hbelow
        · rw [hs] at hu
          cases hu
      · exact fun hall => hall s .refl
    | inr t =>
      have hnext : (search step k t).val = some b := by
        rw [search_next hs] at h
        exact h
      rw [search_next_below_iff hs, ih hnext]
      constructor
      · rintro ⟨hfirst, hrest⟩ u hu
        rcases hu.cases_head with rfl | ⟨v, hv, hvu⟩
        · exact hfirst
        · rw [hs] at hv
          cases hv
          exact hrest u hvu
      · exact fun hall => ⟨hall s .refl, fun u hu => hall u (.head hs hu)⟩

lemma search_val_iff (h : ∃ c, (search step k s).val = some c) :
    (search step k s).val = some b ↔ ∃ t, Visits step s t ∧ (step t).val = .inl b := by
  constructor
  · exact search_val_visits
  · rintro ⟨t, ht, hb⟩
    obtain ⟨c, hc⟩ := h
    obtain ⟨k', hk'⟩ := exists_search_eq ht hb
    rw [search_unique hc hk']
    exact hk'

/-- A search ends, reads only below `limit` and has a result with `ok`, just if a state that it
comes to ends it, the steps at the states that it comes to read below `limit`, and each of them
that ends the search has a result with `ok`. -/
lemma search_ends_below_iff {ok : β → Prop} :
    (∃ k b, (search step k s).val = some b ∧ (search step k s).Below limit ∧ ok b) ↔
      (∃ t b, Visits step s t ∧ (step t).val = .inl b) ∧
        ∀ t, Visits step s t → (step t).Below limit ∧ ∀ b, (step t).val = .inl b → ok b := by
  constructor
  · rintro ⟨k, b, hb, hbelow, hok⟩
    obtain ⟨t, ht, htb⟩ := search_val_visits hb
    refine ⟨⟨t, b, ht, htb⟩, fun u hu => ⟨(search_below_iff hb).1 hbelow u hu, ?_⟩⟩
    intro c hc
    have hsame := (search_val_iff ⟨b, hb⟩).2 ⟨u, hu, hc⟩
    rw [hb] at hsame
    cases hsame
    exact hok
  · rintro ⟨⟨t, b, ht, htb⟩, hall⟩
    obtain ⟨k, hk⟩ := exists_search_eq ht htb
    exact ⟨k, b, hk, (search_below_iff hk).2 fun u hu => (hall u hu).1, (hall t ht).2 b htb⟩

lemma Visits.before_end {u : σ} (hu : Visits step s u) (ht : Visits step s t)
    (hb : (step t).val = .inl b) : Visits step u t := by
  have hunique : Relator.RightUnique fun s t => (step s).val = .inr t := by
    intro a b c hab hac
    rw [hab] at hac
    cases hac
    rfl
  rcases Relation.ReflTransGen.total_of_right_unique hunique hu ht with h | h
  · exact h
  · rcases Relation.ReflTransGen.cases_head h with rfl | ⟨v, hv, -⟩
    · exact .refl
    · rw [hb] at hv
      cases hv

lemma search_ends (μ : σ → ℕ)
    (hstep : ∀ u t, Visits step s u → (step u).val = .inr t → μ t < μ u) (hk : μ s < k) :
    ∃ b, (search step k s).val = some b := by
  induction k generalizing s with
  | zero => exact absurd hk (Nat.not_lt_zero _)
  | succ k ih =>
    cases hs : (step s).val with
    | inl b => exact ⟨b, by rw [search_done hs]⟩
    | inr t =>
      have hlt := hstep s t .refl hs
      rw [search_next hs]
      apply ih (fun u v hu hv => hstep u v (.head hs hu) hv)
      omega

end Search

/-- What a walk from `start` comes to; it goes on to the `next` behind what it `passes`. -/
inductive Reached (next : σ → σ) (passes : σ → Prop) (start : σ) : σ → Prop
  | start : Reached next passes start start
  | next {p : σ} : Reached next passes start p → passes p → Reached next passes start (next p)

section Reached

variable {next : σ → σ} {passes passes' : σ → Prop} {start p q : σ}

lemma Reached.trans (hp : Reached next passes start p) (hq : Reached next passes p q) :
    Reached next passes start q := by
  induction hq with
  | start => exact hp
  | next _ hpass ih => exact .next ih hpass

lemma Reached.weaken (h : ∀ p, passes p → passes' p) (hp : Reached next passes start p) :
    Reached next passes' start p := by
  induction hp with
  | start => exact .start
  | next _ hpass ih => exact .next ih (h _ hpass)

lemma visits_iff_reached {step : σ → Reading (β ⊕ σ)}
    (hstep : ∀ p q, (step p).val = .inr q ↔ passes p ∧ q = next p) :
    Visits step start p ↔ Reached next passes start p := by
  constructor
  · intro hv
    induction hv with
    | refl => exact .start
    | tail _ hlast ih =>
      obtain ⟨hpass, rfl⟩ := (hstep _ _).1 hlast
      exact .next ih hpass
  · intro hr
    induction hr with
    | start => exact .refl
    | next _ hpass ih => exact .tail ih ((hstep _ _).2 ⟨hpass, rfl⟩)

lemma exists_end_iff {step : σ → Reading (β ⊕ σ)}
    (hstep : ∀ p q, (step p).val = .inr q ↔ passes p ∧ q = next p) :
    (∃ p b, Visits step start p ∧ (step p).val = .inl b) ↔
      ∃ p, Reached next passes start p ∧ ¬ passes p := by
  refine exists_congr fun p => ?_
  rw [exists_and_left, visits_iff_reached hstep]
  refine and_congr_right fun _ => ?_
  cases hp : (step p).val with
  | inl b =>
    have hno : ¬ passes p := fun hpass => by
      have := (hstep p _).2 ⟨hpass, rfl⟩
      rw [hp] at this
      cases this
    simp [hno]
  | inr q =>
    have hpass := ((hstep p q).1 hp).1
    simp [hpass]

lemma exists_reached_end (μ : σ → ℕ)
    (hstep : ∀ p, Reached next passes start p → passes p → μ (next p) < μ p) :
    ∃ p, Reached next passes start p ∧ ¬ passes p := by
  have hfrom : ∀ n p, μ p = n → Reached next passes start p →
      ∃ q, Reached next passes start q ∧ ¬ passes q := by
    intro n
    induction n using Nat.strongRecOn with
    | ind n ih =>
      rintro p rfl hp
      by_cases hpass : passes p
      · exact ih _ (hstep p hp hpass) _ rfl (.next hp hpass)
      · exact ⟨p, hp, hpass⟩
  exact hfrom _ start rfl .start

lemma Reached.cases_head (hq : Reached next passes start q) :
    q = start ∨ passes start ∧ Reached next passes (next start) q := by
  induction hq with
  | start => exact Or.inl rfl
  | next _ hpass ih =>
    rcases ih with rfl | ⟨hfirst, hrest⟩
    · exact Or.inr ⟨hpass, .start⟩
    · exact Or.inr ⟨hfirst, .next hrest hpass⟩

lemma Reached.before_end (hp : Reached next passes start p) (hq : Reached next passes start q)
    (hend : ¬ passes q) : Reached next passes p q := by
  induction hp with
  | start => exact hq
  | next _ hpass ih =>
    rcases ih.cases_head with rfl | ⟨-, hrest⟩
    · exact absurd hpass hend
    · exact hrest

lemma Reached.end_unique (hp : Reached next passes start p) (hq : Reached next passes start q)
    (hpend : ¬ passes p) (hqend : ¬ passes q) : p = q := by
  rcases (hp.before_end hq hqend).cases_head with h | ⟨h, -⟩
  · exact h.symm
  · exact absurd h hpend

end Reached

end Rtl8831.Lib
