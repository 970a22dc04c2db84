import Rtl8831.Core.AidAlloc

/-!
# AIDs over runs

The AIDs that stations have are the entries of the table.  That they are no more than allowed
holds as long as the search does not find a free AID before it has counted the held ones.
-/

namespace Rtl8831.Core.Aid

open Lib Function Finset

section

variable {Sta Phl : Type} {c : AidConf} {s : StaPriv Sta Phl}
  {sta : Sta} {phl : Phl} {i j : ℕ} {op : StaOp Sta Phl} {ops : List (StaOp Sta Phl)}

lemma aidAt_pos : 0 < aidAt c s i := Nat.succ_pos _

lemma aidAt_le (hc : 0 < c.maxAid) : aidAt c s i ≤ c.maxAid := Nat.mod_lt _ hc

lemma aidAt_injOn (hstart : 1 ≤ s.startedAid) :
    Set.InjOn (fun i => aidAt c s i - 1) (Finset.range c.maxAid : Set ℕ) := by
  intro i hi j hj h
  simp only [coe_range, Set.mem_Iio] at hi hj
  unfold aidAt at h
  simp only [Nat.add_sub_cancel] at h
  have hi' : i + s.startedAid - 1 = i + (s.startedAid - 1) := by omega
  have hj' : j + s.startedAid - 1 = j + (s.startedAid - 1) := by omega
  rw [hi', hj'] at h
  have hmod : i % c.maxAid = j % c.maxAid := Nat.ModEq.add_right_cancel' _ h
  rw [Nat.mod_eq_of_lt hi, Nat.mod_eq_of_lt hj] at hmod
  exact hmod

/-- All AIDs that the search looks at first are held, up to `n` of them. -/
def FirstHeld (c : AidConf) (s : StaPriv Sta Phl) (n : ℕ) : Prop :=
  ∀ i < n, s.staAid (aidAt c s i - 1) ≠ none

inductive LoopEnd (c : AidConf) (s : StaPriv Sta Phl) : ℕ × ℕ → Prop
  | free (i : ℕ) : i < c.maxAid → s.staAid (aidAt c s i - 1) = none → FirstHeld c s i →
      LoopEnd c s (i, i)
  | limit (i : ℕ) : c.maxNumSta ≤ i + 1 → FirstHeld c s (i + 1) → LoopEnd c s (i, i + 1)
  | last : FirstHeld c s c.maxAid → LoopEnd c s (c.maxAid, c.maxAid)

lemma FirstHeld.succ (h : FirstHeld c s i) (hi : s.staAid (aidAt c s i - 1) ≠ none) :
    FirstHeld c s (i + 1) := by
  intro j hj
  rcases Nat.lt_succ_iff_lt_or_eq.1 hj with hlt | rfl
  · exact h j hlt
  · exact hi

lemma aidLoop_end {rounds : ℕ} (h : FirstHeld c s i) (hsum : rounds + i = c.maxAid) :
    LoopEnd c s (aidLoop c s rounds i i) := by
  induction rounds generalizing i with
  | zero =>
    obtain rfl : i = c.maxAid := by omega
    exact .last h
  | succ rounds ih =>
    unfold aidLoop
    split_ifs with hfree hlimit
    · exact .free i (by omega) hfree h
    · exact .limit i hlimit (h.succ hfree)
    · exact ih (h.succ hfree) (by omega)

lemma foundAid_cases (c : AidConf) (s : StaPriv Sta Phl) :
    (∃ i < min c.maxAid c.maxNumSta, s.staAid (aidAt c s i - 1) = none ∧ FirstHeld c s i ∧
      foundAid c s = aidAt c s i) ∨
    foundAid c s = 0 ∧ FirstHeld c s (min c.maxAid c.maxNumSta) := by
  have hend : LoopEnd c s (aidLoop c s c.maxAid 0 0) :=
    aidLoop_end (fun i hi => absurd hi (Nat.not_lt_zero i)) (Nat.add_zero _)
  unfold foundAid
  cases hloop : aidLoop c s c.maxAid 0 0 with
  | mk i usedCnt =>
    rw [hloop] at hend
    simp only
    cases hend with
    | free _ hlt hfree hfirst =>
      by_cases hlimit : c.maxNumSta ≤ i
      · rw [if_pos (Or.inr hlimit)]
        exact Or.inr ⟨rfl, fun j hj => hfirst j (by omega)⟩
      · rw [if_neg (by omega)]
        exact Or.inl ⟨i, by omega, hfree, hfirst, rfl⟩
    | limit _ hle hfirst =>
      rw [if_pos (Or.inr hle)]
      exact Or.inr ⟨rfl, fun j hj => hfirst j (by omega)⟩
    | last hfirst =>
      rw [if_pos (Or.inl le_rfl)]
      exact Or.inr ⟨rfl, fun j hj => hfirst j (by omega)⟩

lemma foundAid_eq_zero_iff :
    foundAid c s = 0 ↔ FirstHeld c s (min c.maxAid c.maxNumSta) := by
  rcases foundAid_cases c s with ⟨i, hi, hfree, -, hfound⟩ | ⟨hzero, hfirst⟩
  · rw [hfound]
    exact iff_of_false (Nat.succ_ne_zero _) fun hfirst => hfirst i hi hfree
  · exact iff_of_true hzero hfirst

lemma mem_held {a : ℕ} : a ∈ held c s ↔ a < c.maxAid ∧ s.staAid a ≠ none := by
  unfold held
  rw [mem_filter, mem_range, Option.isSome_iff_ne_none]

lemma FirstHeld.le_card {n : ℕ} (h : FirstHeld c s n) (hn : n ≤ c.maxAid)
    (hstart : 1 ≤ s.startedAid) : n ≤ (held c s).card := by
  rw [← card_range n]
  apply card_le_card_of_injOn fun i => aidAt c s i - 1
  · intro i hi
    have hi' := mem_range.1 hi
    rw [mem_coe, mem_held]
    refine ⟨?_, h i hi'⟩
    simp only
    have hle := aidAt_le (s := s) (i := i) (show 0 < c.maxAid by omega)
    have hpos := aidAt_pos (c := c) (s := s) (i := i)
    omega
  · apply (aidAt_injOn hstart).mono
    intro i hi
    rw [mem_coe, mem_range] at hi ⊢
    omega

def Full (c : AidConf) (s : StaPriv Sta Phl) : Prop :=
  c.maxNumSta ≤ (held c s).card ∨ ∀ a < c.maxAid, s.staAid a ≠ none

lemma full_of_foundAid (h : foundAid c s = 0) (hstart : 1 ≤ s.startedAid) : Full c s := by
  have hfirst := foundAid_eq_zero_iff.1 h
  have hcard := hfirst.le_card (Nat.min_le_left _ _) hstart
  by_cases hle : c.maxNumSta ≤ c.maxAid
  · rw [Nat.min_eq_right hle] at hcard
    exact Or.inl hcard
  · rw [Nat.min_eq_left (by omega)] at hcard
    refine Or.inr fun a ha => ?_
    have hall : held c s = Finset.range c.maxAid := by
      apply eq_of_subset_of_card_le (filter_subset _ _)
      rw [card_range]
      exact hcard
    exact (mem_held.1 (hall ▸ mem_range.2 ha)).2

def SearchOk (c : AidConf) (s : StaPriv Sta Phl) : Prop :=
  c.maxNumSta ≤ (held c s).card → FirstHeld c s (min c.maxAid c.maxNumSta)

lemma foundAid_right_iff (hstart : 1 ≤ s.startedAid) :
    (foundAid c s = 0 ↔ Full c s) ↔ SearchOk c s := by
  constructor
  · exact fun h hle => foundAid_eq_zero_iff.1 (h.2 (Or.inl hle))
  · intro hok
    refine ⟨fun h => full_of_foundAid h hstart, ?_⟩
    rintro (hle | hall)
    · exact foundAid_eq_zero_iff.2 (hok hle)
    · apply foundAid_eq_zero_iff.2
      intro i hi
      apply hall
      have hle := aidAt_le (s := s) (i := i) (show 0 < c.maxAid by omega)
      have hpos := aidAt_pos (c := c) (s := s) (i := i)
      omega

end

section

variable {Sta Phl : Type} {c : AidConf} {s : StaPriv Sta Phl}
  {sta : Sta} {phl : Phl} {op : StaOp Sta Phl} {ops : List (StaOp Sta Phl)}

structure AidInv (c : AidConf) (s : StaPriv Sta Phl) : Prop where
  single : ∀ x y p, s.phlSta x = some p → s.phlSta y = some p → x = y
  unused : ∀ p, (∀ x, s.phlSta x ≠ some p) → s.aid p = 0
  range : ∀ x, aidOf s x ≤ c.maxAid
  holder : ∀ a x, s.staAid a = some x ↔ aidOf s x = a + 1
  start : 1 ≤ s.startedAid ∧ s.startedAid ≤ c.maxAid

def AidOk (c : AidConf) (s : StaPriv Sta Phl) : StaOp Sta Phl → Prop
  | .allocStainfo _ _ => True
  | .assocReq sta => ∀ p, s.phlSta sta = some p → s.aid p = 0 → SearchOk c s
  | .freeStainfo sta apState => aidOf s sta = 0 ∨ aidOf s sta < 2 ^ 8 ∧ apState = true

lemma aidOf_some (h : s.phlSta sta = some phl) : aidOf s sta = s.aid phl := by
  unfold aidOf
  rw [h]

lemma aidOf_none (h : s.phlSta sta = none) : aidOf s sta = 0 := by
  unfold aidOf
  rw [h]

lemma AidInv.init {start : ℕ} (hstart : 1 ≤ start ∧ start ≤ c.maxAid) :
    AidInv c (init start : StaPriv Sta Phl) where
  single := nofun
  unused _ _ := rfl
  range _ := Nat.zero_le _
  holder _ _ := iff_of_false nofun nofun
  start := hstart

lemma AidInv.congr {t : StaPriv Sta Phl} (h : AidInv c s)
    (hsingle : ∀ x y p, t.phlSta x = some p → t.phlSta y = some p → x = y)
    (hunused : ∀ p, (∀ x, t.phlSta x ≠ some p) → t.aid p = 0)
    (haid : ∀ x, aidOf t x = aidOf s x) (htable : t.staAid = s.staAid)
    (hstart : t.startedAid = s.startedAid) : AidInv c t where
  single := hsingle
  unused := hunused
  range x := by
    rw [haid]
    exact h.range x
  holder a x := by
    rw [haid, htable]
    exact h.holder a x
  start := by
    rw [hstart]
    exact h.start

variable [DecidableEq Sta] [DecidableEq Phl]

lemma AidInv.allocStainfo (h : AidInv c s) (hfree : s.phlSta sta = none)
    (hnew : ∀ x, s.phlSta x ≠ some phl) :
    AidInv c (step c s (.allocStainfo sta phl)) := by
  have hupdate : ∀ x, (step c s (.allocStainfo sta phl)).phlSta x =
      if x = sta then some phl else s.phlSta x := fun x => update_apply ..
  apply h.congr
  · intro x y p hx hy
    rw [hupdate] at hx hy
    split_ifs at hx hy with hxs hys hys
    · rw [hxs, hys]
    · exact absurd (hx ▸ hy) (hnew y)
    · exact absurd (hy ▸ hx) (hnew x)
    · exact h.single x y p hx hy
  · intro p hp
    apply h.unused
    intro x hx
    have hne : x ≠ sta := by
      rintro rfl
      rw [hfree] at hx
      cases hx
    apply hp x
    rw [hupdate, if_neg hne]
    exact hx
  · intro x
    by_cases hx : x = sta
    · subst hx
      rw [aidOf_none hfree]
      have hsome : (step c s (.allocStainfo x phl)).phlSta x = some phl := by
        rw [hupdate, if_pos rfl]
      rw [aidOf_some hsome]
      exact h.unused phl hnew
    · unfold aidOf
      rw [hupdate, if_neg hx]
      rfl
  · rfl
  · rfl

lemma aidOf_update {aids : ℕ → Option Sta} {start a : ℕ} {x : Sta} (h : AidInv c s)
    (hsta : s.phlSta sta = some phl) :
    aidOf { s with aid := update s.aid phl a, staAid := aids, startedAid := start } x =
      if x = sta then a else aidOf s x := by
  by_cases hx : x = sta
  · subst hx
    rw [if_pos rfl]
    unfold aidOf
    simp only [hsta, update_self]
  · rw [if_neg hx]
    unfold aidOf
    cases hp : s.phlSta x with
    | none => rfl
    | some p =>
      have hne : p ≠ phl := by
        rintro rfl
        exact hx (h.single x sta p hp hsta)
      simp only [update_of_ne hne]

variable {apState : Bool} {start a : ℕ}

lemma AidInv.give (h : AidInv c s) (hsta : s.phlSta sta = some phl)
    (hzero : s.aid phl = 0) (hpos : 0 < a) (hle : a ≤ c.maxAid)
    (hfree : s.staAid (a - 1) = none) (hstart : 1 ≤ start ∧ start ≤ c.maxAid) :
    AidInv c { s with
      aid := update s.aid phl a
      staAid := update s.staAid (a - 1) (some sta)
      startedAid := start } where
  single := h.single
  unused p hp := by
    have hne : p ≠ phl := by
      rintro rfl
      exact hp sta hsta
    simp only [update_of_ne hne]
    exact h.unused p hp
  range x := by
    rw [aidOf_update h hsta]
    split_ifs
    · exact hle
    · exact h.range x
  holder b x := by
    rw [aidOf_update h hsta]
    simp only
    by_cases hb : b = a - 1
    · subst hb
      rw [update_self, Option.some.injEq]
      split_ifs with hx
      · exact iff_of_true hx.symm (by omega)
      · refine iff_of_false (fun heq => hx heq.symm) fun heq => ?_
        rw [← h.holder, hfree] at heq
        cases heq
    · rw [update_of_ne hb, h.holder]
      split_ifs with hx
      · subst hx
        rw [aidOf_some hsta, hzero]
        exact iff_of_false (by omega) (by omega)
      · rfl
  start := hstart

omit [DecidableEq Sta] in
lemma onAssocReq_cases (c : AidConf) (s : StaPriv Sta Phl) (sta : Sta) :
    onAssocReq c s sta = s ∨ ∃ phl, s.phlSta sta = some phl ∧ s.aid phl = 0 ∧
      onAssocReq c s sta = rtwAidAlloc c s sta phl := by
  unfold onAssocReq
  cases hsta : s.phlSta sta with
  | none => exact Or.inl rfl
  | some phl =>
    simp only
    by_cases hpos : 0 < s.aid phl
    · rw [if_pos hpos]
      exact Or.inl rfl
    · rw [if_neg hpos]
      exact Or.inr ⟨phl, rfl, by omega, rfl⟩

omit [DecidableEq Sta] in
lemma rtwAidAlloc_cases (h : AidInv c s) (hzero : s.aid phl = 0) :
    foundAid c s = 0 ∧ rtwAidAlloc c s sta phl = s ∨
    ∃ a start, foundAid c s = a ∧ 0 < a ∧ a ≤ c.maxAid ∧ s.staAid (a - 1) = none ∧
      (1 ≤ start ∧ start ≤ c.maxAid) ∧ (c.rrAid = false → start = s.startedAid) ∧
      rtwAidAlloc c s sta phl = { s with
        aid := update s.aid phl a
        staAid := update s.staAid (a - 1) (some sta)
        startedAid := start } := by
  have hmax : 0 < c.maxAid := by
    have hstart := h.start
    omega
  rcases foundAid_cases c s with ⟨i, -, hfree, -, hfound⟩ | ⟨hfound, -⟩
  · refine Or.inr ⟨aidAt c s i, if c.rrAid then aidAt c s i % c.maxAid + 1 else s.startedAid,
      hfound, aidAt_pos, aidAt_le hmax, hfree, ?_, ?_, ?_⟩
    · split_ifs
      · exact ⟨Nat.succ_pos _, Nat.mod_lt _ hmax⟩
      · exact h.start
    · intro hrr
      rw [hrr]
      exact if_neg Bool.false_ne_true
    · unfold rtwAidAlloc
      rw [hfound]
      exact if_neg (Nat.succ_ne_zero _)
  · refine Or.inl ⟨hfound, ?_⟩
    have hupdate : update s.aid phl 0 = s.aid := by
      rw [← hzero, update_eq_self]
    unfold rtwAidAlloc
    rw [hfound]
    simp only [if_true]
    rw [hupdate]

lemma AidInv.assocReq (h : AidInv c s) : AidInv c (step c s (.assocReq sta)) := by
  have heq : step c s (.assocReq sta) = onAssocReq c s sta := rfl
  rw [heq]
  rcases onAssocReq_cases c s sta with hsame | ⟨phl, hsta, hzero, halloc⟩
  · rw [hsame]
    exact h
  · rw [halloc]
    rcases @rtwAidAlloc_cases _ _ c s sta phl _ h hzero with
      ⟨-, hsame⟩ | ⟨a, start, -, hpos, hle, hfree, hstart, -, hgive⟩
    · rw [hsame]
      exact h
    · rw [hgive]
      exact h.give hsta hzero hpos hle hfree hstart

lemma freeStainfo_eq (h : AidInv c s) (hsta : s.phlSta sta = some phl)
    (hok : AidOk c s (.freeStainfo sta apState)) :
    ∃ table, rtwFreeStainfo s sta apState =
        { s with
          phlSta := update s.phlSta sta none
          aid := update s.aid phl 0
          staAid := table } ∧
      ∀ a, table a = if aidOf s sta = a + 1 then none else s.staAid a := by
  unfold rtwFreeStainfo
  rw [hsta]
  simp only
  rw [← aidOf_some hsta]
  by_cases hzero : aidOf s sta = 0
  · refine ⟨s.staAid, ?_, fun a => (if_neg (by omega)).symm⟩
    have hupdate : update s.aid phl 0 = s.aid := by
      rw [← hzero, aidOf_some hsta, update_eq_self]
    unfold freeCoreStainfo
    rw [hzero, if_neg (by simp), hupdate]
  · rcases hok with hzero' | ⟨hsmall, hap⟩
    · exact absurd hzero' hzero
    obtain ⟨a, ha⟩ : ∃ a, aidOf s sta = a + 1 := ⟨aidOf s sta - 1, by omega⟩
    have hentry : s.staAid (aidOf s sta % 2 ^ 8 - 1) = some sta := by
      rw [Nat.mod_eq_of_lt hsmall, ha, Nat.add_sub_cancel]
      exact (h.holder a sta).2 ha
    refine ⟨update s.staAid a none, ?_, fun b => ?_⟩
    · unfold freeCoreStainfo
      rw [if_pos ⟨by rw [Nat.mod_eq_of_lt hsmall]; exact hzero, hap⟩, if_pos hentry, hsta,
        Nat.mod_eq_of_lt hsmall, ha, Nat.add_sub_cancel]
    · rw [update_apply, ha]
      simp only [Nat.add_right_cancel_iff, eq_comm]

lemma AidInv.freeStainfo (h : AidInv c s)
    (hok : AidOk c s (.freeStainfo sta apState)) :
    AidInv c (step c s (.freeStainfo sta apState)) := by
  have heq : step c s (.freeStainfo sta apState) = rtwFreeStainfo s sta apState := rfl
  rw [heq]
  cases hsta : s.phlSta sta with
  | none =>
    unfold rtwFreeStainfo
    rw [hsta]
    exact h
  | some phl =>
    obtain ⟨table, hfree, htable⟩ := freeStainfo_eq h hsta hok
    rw [hfree]
    have haid : ∀ x, aidOf { s with
        phlSta := update s.phlSta sta none
        aid := update s.aid phl 0
        staAid := table } x = if x = sta then 0 else aidOf s x := by
      intro x
      by_cases hx : x = sta
      · subst hx
        rw [if_pos rfl]
        apply aidOf_none
        exact update_self ..
      · rw [if_neg hx]
        unfold aidOf
        simp only [update_of_ne hx]
        cases hp : s.phlSta x with
        | none => rfl
        | some p =>
          have hne : p ≠ phl := by
            rintro rfl
            exact hx (h.single x sta p hp hsta)
          simp only [update_of_ne hne]
    refine ⟨?_, ?_, ?_, ?_, h.start⟩
    · intro x y p hx hy
      simp only [update_apply] at hx hy
      split_ifs at hx hy
      exact h.single x y p hx hy
    · intro p hp
      simp only
      by_cases hpp : p = phl
      · rw [hpp, update_self]
      · rw [update_of_ne hpp]
        apply h.unused
        intro x hx
        have hne : x ≠ sta := by
          rintro rfl
          exact hpp (Option.some.inj (hx.symm.trans hsta))
        apply hp x
        simp only [update_of_ne hne]
        exact hx
    · intro x
      rw [haid]
      split_ifs
      · exact Nat.zero_le _
      · exact h.range x
    · intro a x
      rw [haid]
      simp only [htable]
      by_cases ha : aidOf s sta = a + 1
      · rw [if_pos ha]
        refine iff_of_false nofun ?_
        split_ifs with hx
        · exact not_false
        · intro hxa
          have hsame : some x = some sta :=
            ((h.holder a x).2 hxa).symm.trans ((h.holder a sta).2 ha)
          exact hx (Option.some.inj hsame)
      · rw [if_neg ha, h.holder]
        split_ifs with hx
        · subst hx
          exact iff_of_false ha not_false
        · rfl

lemma AidInv.step (h : AidInv c s) (hposs : Possible s op) (hok : AidOk c s op) :
    AidInv c (step c s op) := by
  cases op with
  | allocStainfo sta phl => exact h.allocStainfo hposs.1 hposs.2
  | assocReq sta => exact h.assocReq
  | freeStainfo sta apState => exact h.freeStainfo hok

omit [DecidableEq Sta] in
lemma held_give : (held c { s with
      aid := update s.aid phl a
      staAid := update s.staAid (a - 1) (some sta)
      startedAid := start }).card ≤ (held c s).card + 1 := by
  refine (card_le_card fun b hb => ?_).trans (card_insert_le (a - 1) (held c s))
  rw [mem_held] at hb
  rw [mem_insert, mem_held]
  by_cases hba : b = a - 1
  · exact Or.inl hba
  · simp only [update_of_ne hba] at hb
    exact Or.inr hb

lemma limit_step (h : AidInv c s) (hle : (held c s).card ≤ c.maxNumSta)
    (hok : AidOk c s op) : (held c (step c s op)).card ≤ c.maxNumSta := by
  cases op with
  | allocStainfo sta phl => exact hle
  | assocReq sta =>
    have heq : step c s (.assocReq sta) = onAssocReq c s sta := rfl
    rw [heq]
    rcases onAssocReq_cases c s sta with hsame | ⟨phl, hsta, hzero, halloc⟩
    · rw [hsame]
      exact hle
    · rw [halloc]
      rcases @rtwAidAlloc_cases _ _ c s sta phl _ h hzero with
        ⟨-, hsame⟩ | ⟨a, start, hfound, hpos, -, -, -, -, hgive⟩
      · rw [hsame]
        exact hle
      · have hroom : (held c s).card < c.maxNumSta := by
          by_contra hfull
          have hzero' := foundAid_eq_zero_iff.2 (hok phl hsta hzero (by omega))
          omega
        rw [hgive]
        exact (held_give).trans hroom
  | freeStainfo sta apState =>
    have heq : step c s (.freeStainfo sta apState) = rtwFreeStainfo s sta apState := rfl
    rw [heq]
    cases hsta : s.phlSta sta with
    | none =>
      unfold rtwFreeStainfo
      rw [hsta]
      exact hle
    | some phl =>
      obtain ⟨table, hfree, htable⟩ := freeStainfo_eq h hsta hok
      rw [hfree]
      refine (card_le_card fun a ha => ?_).trans hle
      rw [mem_held] at ha ⊢
      refine ⟨ha.1, fun hnone => ha.2 ?_⟩
      simp only [htable]
      split_ifs
      · rfl
      · exact hnone

structure AidsRight (c : AidConf) (s : StaPriv Sta Phl) : Prop where
  range : ∀ x, aidOf s x ≠ 0 →
    aidOf s x ≤ c.maxAid ∧ s.staAid (aidOf s x - 1) = some x
  alone : ∀ x y, aidOf s x ≠ 0 → aidOf s x = aidOf s y → x = y
  start : 1 ≤ s.startedAid ∧ s.startedAid ≤ c.maxAid
  holders : ∀ a ∈ held c s, ∃ x, aidOf s x = a + 1
  limit : (held c s).card ≤ c.maxNumSta

/-- `rtw_aid_alloc`, where a request calls it, returns zero just if it has to. -/
def ReturnsRight (c : AidConf) (s : StaPriv Sta Phl) (op : StaOp Sta Phl) : Prop :=
  ∀ sta phl, op = .assocReq sta → s.phlSta sta = some phl → s.aid phl = 0 →
    (foundAid c s = 0 ↔ Full c s)

omit [DecidableEq Sta] [DecidableEq Phl] in
lemma AidInv.right (h : AidInv c s) (hle : (held c s).card ≤ c.maxNumSta) : AidsRight c s where
  range x hx := by
    refine ⟨h.range x, (h.holder _ x).2 ?_⟩
    omega
  alone x y hx hxy := by
    have hxs : s.staAid (aidOf s x - 1) = some x := (h.holder _ x).2 (by omega)
    have hys : s.staAid (aidOf s x - 1) = some y := (h.holder _ y).2 (by omega)
    exact Option.some.inj (hxs.symm.trans hys)
  start := h.start
  holders a ha := by
    obtain ⟨x, hx⟩ := Option.ne_none_iff_exists'.1 (mem_held.1 ha).2
    exact ⟨x, (h.holder a x).1 hx⟩
  limit := hle

omit [DecidableEq Sta] [DecidableEq Phl] in
lemma returnsRight_iff (h : AidInv c s) : ReturnsRight c s (.assocReq sta) ↔
    AidOk c s (.assocReq sta) := by
  constructor
  · exact fun hright p hp hzero => (foundAid_right_iff h.start.1).1 (hright sta p rfl hp hzero)
  · rintro hok x p hx hp hzero
    obtain rfl : sta = x := StaOp.assocReq.inj hx
    exact (foundAid_right_iff h.start.1).2 (hok p hp hzero)

def AmongFirst (c : AidConf) (s : StaPriv Sta Phl) : Prop :=
  ∀ a, s.staAid a ≠ none → ∃ i < min c.maxAid c.maxNumSta, a = aidAt c s i - 1

omit [DecidableEq Sta] [DecidableEq Phl] in
lemma AmongFirst.searchOk (h : AmongFirst c s) : SearchOk c s := by
  intro hle
  let first := (Finset.range (min c.maxAid c.maxNumSta)).image fun i => aidAt c s i - 1
  have hsub : held c s ⊆ first := by
    intro a ha
    obtain ⟨i, hi, rfl⟩ := h a (mem_held.1 ha).2
    exact mem_image.2 ⟨i, mem_range.2 hi, rfl⟩
  have hcard : first.card ≤ min c.maxAid c.maxNumSta :=
    card_image_le.trans_eq (card_range _)
  have hall : held c s = first := by
    apply eq_of_subset_of_card_le hsub
    omega
  intro i hi
  have hmem : aidAt c s i - 1 ∈ held c s := by
    rw [hall]
    exact mem_image.2 ⟨i, mem_range.2 hi, rfl⟩
  exact (mem_held.1 hmem).2

def FreesOk (c : AidConf) (s : StaPriv Sta Phl) : StaOp Sta Phl → Prop
  | .assocReq _ => True
  | op => AidOk c s op

omit [DecidableEq Sta] [DecidableEq Phl] in
lemma AmongFirst.aidOk (h : AmongFirst c s) (hfrees : FreesOk c s op) : AidOk c s op := by
  cases op with
  | allocStainfo sta phl => trivial
  | assocReq sta => exact fun _ _ _ => h.searchOk
  | freeStainfo sta apState => exact hfrees

lemma AmongFirst.step (hfirst : AmongFirst c s) (h : AidInv c s) (hrr : c.rrAid = false)
    (hok : AidOk c s op) : AmongFirst c (step c s op) := by
  cases op with
  | allocStainfo sta phl => exact hfirst
  | assocReq sta =>
    have heq : Aid.step c s (.assocReq sta) = onAssocReq c s sta := rfl
    rw [heq]
    rcases onAssocReq_cases c s sta with hsame | ⟨phl, hsta, hzero, halloc⟩
    · rw [hsame]
      exact hfirst
    · rw [halloc]
      rcases @rtwAidAlloc_cases _ _ c s sta phl _ h hzero with
        ⟨-, hsame⟩ | ⟨a, start, hfound, hpos, -, -, -, hsame, hgive⟩
      · rw [hsame]
        exact hfirst
      · rw [hgive, hsame hrr]
        intro b hb
        have hplace : ∀ i, aidAt c { s with
            aid := update s.aid phl a
            staAid := update s.staAid (a - 1) (some sta)
            startedAid := s.startedAid } i = aidAt c s i := fun _ => rfl
        simp only [hplace]
        by_cases hba : b = a - 1
        · rcases foundAid_cases c s with ⟨i, hi, -, -, hi'⟩ | ⟨hnone, -⟩
          · exact ⟨i, hi, by rw [hba, ← hfound, hi']⟩
          · omega
        · simp only [update_of_ne hba] at hb
          exact hfirst b hb
  | freeStainfo sta apState =>
    have heq : Aid.step c s (.freeStainfo sta apState) = rtwFreeStainfo s sta apState := rfl
    rw [heq]
    cases hsta : s.phlSta sta with
    | none =>
      unfold rtwFreeStainfo
      rw [hsta]
      exact hfirst
    | some phl =>
      obtain ⟨table, hfree, htable⟩ := freeStainfo_eq h hsta hok
      rw [hfree]
      intro a ha
      refine hfirst a fun hnone => ha ?_
      simp only [htable]
      split_ifs
      · rfl
      · exact hnone

lemma guarded_of_fixed (hrr : c.rrAid = false) (hfirst : AmongFirst c s) (h : AidInv c s)
    (hposs : Guarded (step c) Possible s ops) (hfrees : Guarded (step c) (FreesOk c) s ops) :
    Guarded (step c) (AidOk c) s ops := by
  induction ops generalizing s with
  | nil => trivial
  | cons op ops ih =>
    have hok := hfirst.aidOk hfrees.1
    exact ⟨hok, ih (hfirst.step h hrr hok) (h.step hposs.1 hok) hposs.2 hfrees.2⟩

/-- The AIDs are right in every run whose calls keep them right; without round robin the requests
do, and with it a request is answered rightly just if it does. -/
theorem aid_run {start : ℕ} (hstart : 1 ≤ start ∧ start ≤ c.maxAid)
    (hposs : Guarded (step c) Possible (init start : StaPriv Sta Phl) ops) :
    (Guarded (step c) (AidOk c) (init start) ops →
      AidsRight c (run (step c) (init start) ops) ∧
      Guarded (step c) (ReturnsRight c) (init start) ops ∧
      ∀ sta, ReturnsRight c (run (step c) (init start) ops) (.assocReq sta) ↔
        AidOk c (run (step c) (init start) ops) (.assocReq sta)) ∧
    (c.rrAid = false → Guarded (step c) (FreesOk c) (init start) ops →
      Guarded (step c) (AidOk c) (init start) ops) := by
  have hinit : AidInv c (init start : StaPriv Sta Phl) := AidInv.init hstart
  have hempty : held c (init start : StaPriv Sta Phl) = ∅ := filter_false _
  refine ⟨fun hok => ?_, fun hrr hfrees => ?_⟩
  · have hboth := hposs.and hok
    have hstep : ∀ (s : StaPriv Sta Phl) op, (AidInv c s ∧ (held c s).card ≤ c.maxNumSta) →
        (Possible s op ∧ AidOk c s op) →
        (AidInv c (step c s op) ∧ (held c (step c s op)).card ≤ c.maxNumSta) :=
      fun s op hs hop => ⟨hs.1.step hop.1 hop.2, limit_step hs.1 hs.2 hop.2⟩
    have hs : AidInv c (init start : StaPriv Sta Phl) ∧
        (held c (init start : StaPriv Sta Phl)).card ≤ c.maxNumSta :=
      ⟨hinit, by rw [hempty]; exact Nat.zero_le _⟩
    obtain ⟨hinv, hlimit⟩ := Guarded.invariant hstep hs hboth
    refine ⟨hinv.right hlimit, ?_, fun sta => returnsRight_iff hinv⟩
    refine Guarded.steps hstep (fun s op hs hop => ?_) hs hboth
    cases op with
    | allocStainfo sta phl => exact fun _ _ hx => absurd hx nofun
    | assocReq sta => exact (returnsRight_iff hs.1).mpr hop.2
    | freeStainfo sta apState => exact fun _ _ hx => absurd hx nofun
  · exact guarded_of_fixed hrr (fun a ha => absurd rfl ha) hinit hposs hfrees

end

def oneAllowed : AidConf := ⟨4, 1, true⟩

theorem aid_run_oneAllowed :
    AidsRight oneAllowed (run (step oneAllowed) (init 1 : StaPriv (Fin 2) (Fin 2))
      [.allocStainfo 0 0, .assocReq 0, .freeStainfo 0 true]) := by
  have hposs : Guarded (step oneAllowed) Possible (init 1 : StaPriv (Fin 2) (Fin 2))
      [.allocStainfo 0 0, .assocReq 0, .freeStainfo 0 true] := 
    ⟨⟨rfl, by decide⟩, trivial, trivial, trivial⟩
  refine ((aid_run (by decide) hposs).1 ⟨trivial, ?_, ?_, trivial⟩).1
  · intro p _ _ hle
    exact absurd hle (by decide)
  · exact Or.inr (by decide)

/-- With round robin a second station gets an AID where only one may. -/
theorem roundRobin_over_limit :
    Guarded (step oneAllowed) Possible (init 1 : StaPriv (Fin 2) (Fin 2))
      [.allocStainfo 0 0, .assocReq 0, .allocStainfo 1 1, .assocReq 1] ∧
    ¬AidsRight oneAllowed (run (step oneAllowed) (init 1 : StaPriv (Fin 2) (Fin 2))
      [.allocStainfo 0 0, .assocReq 0, .allocStainfo 1 1, .assocReq 1]) := by
  refine ⟨⟨⟨rfl, by decide⟩, trivial, ⟨rfl, by decide⟩, trivial, trivial⟩, fun hright => ?_⟩
  have hlimit := hright.limit
  exact absurd hlimit (by decide)

end Rtl8831.Core.Aid
