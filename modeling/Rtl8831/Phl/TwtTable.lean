import Rtl8831.Lib.Run
import Rtl8831.Phl.Twt

/-!
# Agreements and configs

The invariant of the table, and what it means to take entries of a station out of it.  A config
that a call gave to its caller (a new one, or one that lost its last entry) stays in use without
an agreement until a station is added to it or it is freed.
-/

namespace Rtl8831.Phl.Twt

variable {σ ρ : Type*}

def Config.Holds (c : Config σ ρ) (sta : σ) (type : NegoType) (id : UInt8) : Prop :=
  ⟨sta, id⟩ ∈ c.staQueue ∧ c.negoType.agreementType = type.agreementType

instance [DecidableEq σ] (c : Config σ ρ) (sta : σ) (type : NegoType) (id : UInt8) :
    Decidable (c.Holds sta type id) :=
  inferInstanceAs (Decidable (_ ∧ _))

def Config.Single (c : Config σ ρ) (sta : σ) : Prop :=
  ∀ x ∈ c.staQueue, ∀ y ∈ c.staQueue, x.sta = sta → y.sta = sta → x = y

def Config.view (c : Config σ ρ) : Option (Config σ ρ) := if c.state = .free then none else some c

structure World (σ ρ : Type*) where
  ring : Ring σ ρ
  handed : Fin configNum → Bool

structure Config.Sound (wrole : σ → ρ) (c : Config σ ρ) (i : Fin configNum) (handed : Bool) :
    Prop where
  free : c.state = .free → c.staQueue = []
  inUse : c.state ≠ .free ↔ c.staQueue ≠ [] ∨ handed = true
  empty : handed = true → c.staQueue = []
  twtId : c.state ≠ .free → c.twtId = i
  role : ∀ x ∈ c.staQueue, c.role = some (wrole x.sta)
  nodup : c.staQueue.Nodup

structure World.Inv (wrole : σ → ρ) (w : World σ ρ) : Prop where
  sound : ∀ i, (w.ring i).Sound wrole i (w.handed i)
  unique : ∀ i j x, x ∈ (w.ring i).staQueue → x ∈ (w.ring j).staQueue →
    (w.ring i).negoType.agreementType = (w.ring j).negoType.agreementType → i = j

variable {wrole : σ → ρ} {ring ring' : Ring σ ρ} {handed handed' : Fin configNum → Bool}
  {i : Fin configNum} {c : Config σ ρ}

lemma Config.view_eq_none : c.view = none ↔ c.state = .free := by
  by_cases h : c.state = .free
  · simp [view, h]
  · simp [view, h]

lemma Config.view_of_ne (h : c.state ≠ .free) : c.view = some c := if_neg h

lemma Config.Sound.of_free (hs : c.state = .free) (hq : c.staQueue = []) :
    c.Sound wrole i false where
  free _ := hq
  inUse := by simp [hs, hq]
  empty h := absurd h Bool.false_ne_true
  twtId h := absurd hs h
  role x hx := by
    rw [hq] at hx
    exact absurd hx List.not_mem_nil
  nodup := by
    rw [hq]
    exact List.nodup_nil

lemma Config.Sound.of_handed (hs : c.state ≠ .free) (hq : c.staQueue = [])
    (hid : c.twtId = i) : c.Sound wrole i true where
  free h := absurd h hs
  inUse := by simp [hs]
  empty _ := hq
  twtId _ := hid
  role x hx := by
    rw [hq] at hx
    exact absurd hx List.not_mem_nil
  nodup := by
    rw [hq]
    exact List.nodup_nil

lemma Config.Sound.of_used (hs : c.state ≠ .free) (hq : c.staQueue ≠ [])
    (hid : c.twtId = i) (hrole : ∀ x ∈ c.staQueue, c.role = some (wrole x.sta))
    (hnodup : c.staQueue.Nodup) : c.Sound wrole i false where
  free h := absurd h hs
  inUse := by simp [hs, hq]
  empty h := absurd h Bool.false_ne_true
  twtId _ := hid
  role := hrole
  nodup := hnodup

lemma Config.Sound.not_free_of_mem {held : Bool} (h : c.Sound wrole i held) {x : StaInfo σ}
    (hx : x ∈ c.staQueue) : c.state ≠ .free :=
  h.inUse.2 (.inl (List.ne_nil_of_mem hx))

lemma Config.Sound.not_handed_of_mem {held : Bool} (h : c.Sound wrole i held) {x : StaInfo σ}
    (hx : x ∈ c.staQueue) : held = false := by
  by_contra hne
  rw [h.empty (by simpa using hne)] at hx
  exact List.not_mem_nil hx

namespace World

section

variable (h : Inv wrole ⟨ring, handed⟩)
include h

lemma Inv.shrink
    (hsound : ∀ i, (ring' i).Sound wrole i (handed' i))
    (hsub : ∀ i, ∀ x ∈ (ring' i).staQueue,
      x ∈ (ring i).staQueue ∧ (ring' i).negoType = (ring i).negoType) :
    Inv wrole ⟨ring', handed'⟩ where
  sound := hsound
  unique i j x hi hj ht := by
    obtain ⟨hi', hti⟩ := hsub i x hi
    obtain ⟨hj', htj⟩ := hsub j x hj
    exact h.unique i j x hi' hj' (by rw [← hti, ← htj]; exact ht)

lemma Inv.update {held : Bool} (hc : c.Sound wrole i held)
    (hnew : ∀ x ∈ c.staQueue, ∀ j, j ≠ i → x ∈ (ring j).staQueue →
      c.negoType.agreementType ≠ (ring j).negoType.agreementType) :
    Inv wrole ⟨Function.update ring i c, Function.update handed i held⟩ where
  sound j := by
    by_cases hj : j = i
    · subst hj
      simpa using hc
    · simpa [Function.update_of_ne hj] using h.sound j
  unique j k x hj hk ht := by
    by_cases hji : j = i
    · by_cases hki : k = i
      · exact hji.trans hki.symm
      · subst hji
        simp only [Function.update_self, Function.update_of_ne hki] at hj hk ht
        exact absurd ht (hnew x hj k hki hk)
    · by_cases hki : k = i
      · subst hki
        simp only [Function.update_self, Function.update_of_ne hji] at hj hk ht
        exact absurd ht.symm (hnew x hk j hji hj)
      · simp only [Function.update_of_ne hji, Function.update_of_ne hki] at hj hk ht
        exact h.unique j k x hj hk ht

lemma Inv.update_empty {held : Bool} (hc : c.Sound wrole i held)
    (hq : c.staQueue = []) :
    Inv wrole ⟨Function.update ring i c, Function.update handed i held⟩ :=
  h.update hc fun x hx => by
    rw [hq] at hx
    exact absurd hx List.not_mem_nil

lemma Inv.holds_unique {type : NegoType} {id : UInt8}
    {i j : Fin configNum} (hi : (ring i).Holds sta type id) (hj : (ring j).Holds sta type id) :
    i = j :=
  h.unique i j _ hi.1 hj.1 (hi.2.trans hj.2.symm)

lemma Inv.not_handed (hfree : (ring i).state = .free) :
    handed i = false := by
  by_contra hne
  exact (h.sound i).inUse.2 (.inr (by simpa using hne)) hfree

lemma Inv.add {sta : σ} {id : UInt8} (hused : (ring i).state ≠ .free)
    (hrole : (ring i).role = some (wrole sta))
    (hnew : ∀ j, ¬ (ring j).Holds sta (ring i).negoType id) :
    Inv wrole ⟨Function.update ring i ((ring i).setQueue ((ring i).staQueue ++ [⟨sta, id⟩])),
      Function.update handed i false⟩ := by
  have hs := h.sound i
  refine h.update (.of_used hused (by simp [Config.setQueue]) (hs.twtId hused) ?_ ?_) ?_
  · intro x hx
    rcases List.mem_append.1 hx with hx | hx
    · exact hs.role x hx
    · obtain rfl := List.mem_singleton.1 hx
      exact hrole
  · refine List.nodup_append.2 ⟨hs.nodup, List.nodup_singleton _, ?_⟩
    intro x hx y hy hxy
    obtain rfl := List.mem_singleton.1 hy
    rw [hxy] at hx
    exact hnew i ⟨hx, rfl⟩
  · intro x hx j hji hj ht
    rcases List.mem_append.1 hx with hx | hx
    · exact hji (h.unique i j x hx hj ht).symm
    · obtain rfl := List.mem_singleton.1 hx
      exact hnew j ⟨hj, ht.symm⟩

end


end World

end Rtl8831.Phl.Twt
