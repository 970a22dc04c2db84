import Rtl8831.Phl.TxSched

/-!
# What is scheduled

A round merges the statuses it has collected into one list, each of them once:
the rings for management and for high priority come first, the others are
grouped by traffic id in the order of the stations.  Nothing of a round is left
in the plans, so that the next one does not depend on it.
-/

namespace Rtl8831.Phl

open Function List

namespace TxSched

open Lib (insertAfter firsts grouped)

/-! ## The statuses of a station -/

/-- The statuses that `_phl_check_tring_list` takes from the pool, and what it
leaves there. -/
def found (a : ℕ) (t : TringList) : List RingCat → List ℕ → List RingStatus × List ℕ
  | [], idle => ([], idle)
  | c :: cs, idle =>
    match checkRingStatus a t c idle with
    | (none, idle) => found a t cs idle
    | (some x, idle) => (x :: (found a t cs idle).1, (found a t cs idle).2)

lemma checkRingStatus_cat {a : ℕ} {t : TringList} {c : RingCat} {idle rest : List ℕ}
    {x : RingStatus} (hx : checkRingStatus a t c idle = (some x, rest)) :
    x.cat = c ∧ idle = x.slot :: rest := by
  unfold checkRingStatus at hx
  dsimp only at hx
  split_ifs at hx
  · exact nomatch (Prod.mk.inj hx).1
  · cases idle with
    | nil => exact nomatch (Prod.mk.inj hx).1
    | cons k ks =>
      obtain ⟨hx, hrest⟩ := Prod.mk.inj hx
      rw [← Option.some.inj hx, hrest]
      exact ⟨rfl, rfl⟩

lemma checkRingStatus_none {a : ℕ} {t : TringList} {c : RingCat} {idle rest : List ℕ}
    (hx : checkRingStatus a t c idle = (none, rest)) : rest = idle := by
  unfold checkRingStatus at hx
  dsimp only at hx
  split_ifs at hx
  · exact (Prod.mk.inj hx).2.symm
  · cases idle with
    | nil => exact (Prod.mk.inj hx).2.symm
    | cons k ks => exact nomatch (Prod.mk.inj hx).1

variable {t t' : TringList} {x : RingStatus} {ps : List (List RingStatus)} {s s' : State} (a : ℕ)
  {s₀ : State}

lemma found_spec (t : TringList) (cs : List RingCat) (idle : List ℕ) :
    ((found a t cs idle).1.map RingStatus.cat).Sublist cs ∧
      (found a t cs idle).1.map RingStatus.slot ++ (found a t cs idle).2 = idle := by
  induction cs generalizing idle with
  | nil => exact ⟨.slnil, rfl⟩
  | cons c cs ih =>
    rw [found]
    rcases hx : checkRingStatus a t c idle with ⟨_ | x, rest⟩
    · obtain rfl := checkRingStatus_none hx
      exact ⟨(ih rest).1.cons c, (ih rest).2⟩
    · obtain ⟨rfl, rfl⟩ := checkRingStatus_cat hx
      exact ⟨(ih rest).1.cons_cons _, congrArg (List.cons x.slot) (ih rest).2⟩

structure SameRings (t t' : TringList) : Prop where
  band : t'.band = t.band
  wmm : t'.wmm = t.wmm
  port : t'.port = t.port
  phlIdx : ∀ c, (t'.ring c).phlIdx = (t.ring c).phlIdx
  coreIdx : ∀ c, (t'.ring c).coreIdx = (t.ring c).coreIdx

lemma SameRings.refl (t : TringList) : SameRings t t := ⟨rfl, rfl, rfl, fun _ => rfl, fun _ => rfl⟩

lemma SameRings.checkRingStatus (h : SameRings t t') (a : ℕ) (c : RingCat)
    (idle : List ℕ) : TxSched.checkRingStatus a t' c idle = TxSched.checkRingStatus a t c idle := by
  unfold TxSched.checkRingStatus
  dsimp only
  rw [h.band, h.wmm, h.port, h.phlIdx, h.coreIdx]

lemma SameRings.found (h : SameRings t t') (a : ℕ) (cs : List RingCat)
    (idle : List ℕ) : TxSched.found a t' cs idle = TxSched.found a t cs idle := by
  induction cs generalizing idle with
  | nil => rfl
  | cons c cs ih =>
    rw [TxSched.found, TxSched.found, h.checkRingStatus]
    rcases TxSched.checkRingStatus a t c idle with ⟨_ | x, rest⟩
    · exact ih rest
    · dsimp only
      rw [ih rest]

lemma SameRings.next (h : SameRings t t') (c : RingCat) (p : TxPlan) :
    SameRings t
      { t' with ring := update t'.ring c (nextIdx (t'.ring c)), plan := p } where
  band := h.band
  wmm := h.wmm
  port := h.port
  phlIdx c' := by
    dsimp only
    by_cases hc : c' = c
    · rw [hc, update_self]
      exact h.phlIdx c
    · rw [update_of_ne hc]
      exact h.phlIdx c'
  coreIdx c' := by
    dsimp only
    by_cases hc : c' = c
    · rw [hc, update_self]
      exact h.coreIdx c
    · rw [update_of_ne hc]
      exact h.coreIdx c'

lemma checkRing_foldl {t : TringList} (cs : List RingCat) {t' : TringList}
    (h : SameRings t t') (idle : List ℕ) :
    SameRings t (cs.foldl (checkRing a) (t', idle)).1 ∧
      (cs.foldl (checkRing a) (t', idle)).1.plan =
        (found a t cs idle).1.foldl (fun p x => sortRingByTid x p) t'.plan ∧
      (cs.foldl (checkRing a) (t', idle)).2 = (found a t cs idle).2 := by
  induction cs generalizing t' idle with
  | nil => exact ⟨h, rfl, rfl⟩
  | cons c cs ih =>
    rw [foldl_cons, checkRing, found]
    dsimp only
    rw [h.checkRingStatus]
    rcases checkRingStatus a t c idle with ⟨_ | x, rest⟩
    · exact ih h rest
    · exact ih (h.next c _) rest

/-! ## The order in a plan -/

def RingCat.isData : RingCat → Bool
  | .tid _ => true
  | .mgnt => false
  | .hiq => false

def heads (xs : List RingStatus) : List RingStatus := xs.filter fun x => !x.cat.isData

def data (xs : List RingStatus) : List RingStatus :=
  (xs.filter fun x => x.cat.isData ∧ x.cat ≠ .tid 1 ∧ x.cat ≠ .tid 2).reverse ++
    (xs.filter fun x => x.cat = .tid 2) ++ xs.filter fun x => x.cat = .tid 1

def planOf (xs : List RingStatus) : TxPlan where
  sleep := false
  hasMgnt := xs.any fun x => x.cat = .mgnt
  hasHiq := xs.any fun x => x.cat = .hiq
  sortedRing := (xs.filter fun x => x.cat ≠ .tid 1 ∧ x.cat ≠ .tid 2).reverse ++
    (xs.filter fun x => x.cat = .tid 2) ++ xs.filter fun x => x.cat = .tid 1

lemma filter_concat {p : RingStatus → Bool} {xs : List RingStatus} {x : RingStatus} :
    (xs ++ [x]).filter p = xs.filter p ++ if p x then [x] else [] := by
  rw [filter_append, filter_singleton]
  cases p x <;> rfl

variable {xs : List RingStatus} (tring : ℕ → TringList)

lemma sortRingByTid_planOf (hone : (xs.filter fun x => x.cat = .tid 1).length ≤ 1) :
    sortRingByTid x (planOf xs) = planOf (xs ++ [x]) := by
  unfold sortRingByTid planOf
  dsimp only
  rw [filter_concat, filter_concat, filter_concat, any_append, any_append]
  by_cases h1 : x.cat = .tid 1
  · simp [h1]
  by_cases h2 : x.cat = .tid 2
  · rw [if_neg h1, if_pos h2]
    cases hlast : xs.filter fun x => decide (x.cat = .tid 1) with
    | nil =>
      rw [append_nil]
      split
      · simp [h2]
      · next y hend =>
        have hy : y.cat ≠ .tid 1 := by
          rcases mem_append.mp (mem_of_getLast? hend) with hmem | hmem
          · have hne := (mem_filter.mp (mem_reverse.mp hmem)).2
            exact (decide_eq_true_eq.mp hne).1
          · have heq := decide_eq_true_eq.mp (mem_filter.mp hmem).2
            rw [heq]
            decide
        rw [if_neg hy]
        simp [h2]
    | cons y ys =>
      rw [hlast, length_cons] at hone
      obtain rfl : ys = [] := length_eq_zero_iff.mp (by omega)
      have hy : y.cat = .tid 1 := by
        have hmem : y ∈ xs.filter fun x => decide (x.cat = .tid 1) := by
          rw [hlast]
          exact mem_singleton_self y
        exact decide_eq_true_eq.mp (mem_filter.mp hmem).2
      rw [getLast?_concat]
      simp [h2, hy]
  · simp [h1, h2]

lemma foldl_sortRingByTid (hxs : (xs.map RingStatus.cat).Nodup) :
    xs.foldl (fun p x => sortRingByTid x p) initTxPlan = planOf xs := by
  induction xs using reverseRecOn with
  | nil => rfl
  | append_singleton xs x ih =>
    rw [map_append] at hxs
    have hnodup := (nodup_append.mp hxs).1
    have hone : (xs.filter fun x => x.cat = .tid 1).length ≤ 1 := by
      have hcount := nodup_iff_count_le_one.mp hnodup (.tid 1)
      rw [count_eq_countP, countP_map, countP_eq_length_filter] at hcount
      exact hcount
    rw [foldl_append, ih hnodup]
    exact sortRingByTid_planOf hone

lemma split_heads (hxs : (xs.map RingStatus.cat).Sublist RingCat.all) :
    ∃ ys zs, xs = ys ++ zs ∧ (∀ x ∈ ys, x.cat.isData = true) ∧
      (zs.map RingStatus.cat).Sublist [.mgnt, .hiq] := by
  obtain ⟨l₁, l₂, hl, h₁, h₂⟩ := sublist_append_iff.mp hxs
  obtain ⟨ys, zs, rfl, rfl, rfl⟩ := map_eq_append_iff.mp hl
  refine ⟨ys, zs, rfl, fun x hx => ?_, h₂⟩
  obtain ⟨t, -, ht⟩ := mem_map.mp (h₁.subset (mem_map_of_mem hx))
  rw [← ht]
  rfl

lemma isData_of_heads {zs : List RingStatus} (hzs : (zs.map RingStatus.cat).Sublist [.mgnt, .hiq])
    {x : RingStatus} (hx : x ∈ zs) : x.cat = .mgnt ∨ x.cat = .hiq := by
  have hmem := hzs.subset (mem_map_of_mem hx)
  rcases mem_cons.mp hmem with heq | hmem
  · exact .inl heq
  · exact .inr (mem_singleton.mp hmem)

lemma heads_append {ys zs : List RingStatus} (hys : ∀ x ∈ ys, x.cat.isData = true)
    (hzs : (zs.map RingStatus.cat).Sublist [.mgnt, .hiq]) : heads (ys ++ zs) = zs := by
  have hnone : ys.filter (fun x => !x.cat.isData) = [] :=
    filter_eq_nil_iff.mpr fun x hx => by simp [hys x hx]
  have hall : zs.filter (fun x => !x.cat.isData) = zs := by
    refine filter_eq_self.mpr fun x hx => ?_
    rcases isData_of_heads hzs hx with heq | heq <;> rw [heq] <;> rfl
  rw [heads, filter_append, hnone, hall, nil_append]

lemma sortedRing_planOf (hxs : (xs.map RingStatus.cat).Sublist RingCat.all) :
    (planOf xs).sortedRing = (heads xs).reverse ++ data xs := by
  obtain ⟨ys, zs, rfl, hys, hzs⟩ := split_heads hxs
  have hothers : (ys ++ zs).filter (fun x => x.cat ≠ .tid 1 ∧ x.cat ≠ .tid 2) =
      (ys ++ zs).filter (fun x => x.cat.isData ∧ x.cat ≠ .tid 1 ∧ x.cat ≠ .tid 2) ++ zs := by
    have hleft : ys.filter (fun x => x.cat ≠ .tid 1 ∧ x.cat ≠ .tid 2) =
        ys.filter (fun x => x.cat.isData ∧ x.cat ≠ .tid 1 ∧ x.cat ≠ .tid 2) := by
      refine filter_congr fun x hx => ?_
      rw [hys x hx]
      simp
    have hright : zs.filter (fun x => x.cat ≠ .tid 1 ∧ x.cat ≠ .tid 2) = zs := by
      refine filter_eq_self.mpr fun x hx => ?_
      rcases isData_of_heads hzs hx with heq | heq <;> rw [heq] <;> decide
    have hnone : zs.filter (fun x => x.cat.isData ∧ x.cat ≠ .tid 1 ∧ x.cat ≠ .tid 2) = [] := by
      refine filter_eq_nil_iff.mpr fun x hx => ?_
      rcases isData_of_heads hzs hx with heq | heq <;> rw [heq] <;> decide
    rw [filter_append, filter_append, hleft, hright, hnone, append_nil]
  unfold planOf data
  dsimp only
  rw [hothers, heads_append hys hzs, reverse_append]
  simp only [append_assoc]

lemma firstToHead_planOf (hxs : (xs.map RingStatus.cat).Sublist RingCat.all) (result : List RingStatus) :
    let p := planOf xs
    let h := if p.hasHiq then firstToHead p result else (p, result)
    let m := if p.hasMgnt then firstToHead h.1 h.2 else h
    m.1.sortedRing = data xs ∧ m.2 = heads xs ++ result := by
  have hsorted := sortedRing_planOf hxs
  have hhiq : (planOf xs).hasHiq = (heads xs).any fun x => x.cat = .hiq := by
    unfold planOf heads
    dsimp only
    rw [any_filter]
    congr 1
    funext x
    cases x.cat <;> rfl
  have hmgnt : (planOf xs).hasMgnt = (heads xs).any fun x => x.cat = .mgnt := by
    unfold planOf heads
    dsimp only
    rw [any_filter]
    congr 1
    funext x
    cases x.cat <;> rfl
  obtain ⟨ys, zs, rfl, hys, hzs⟩ := split_heads hxs
  rw [heads_append hys hzs] at hsorted hhiq hmgnt ⊢
  dsimp only
  rw [hhiq, hmgnt]
  generalize planOf (ys ++ zs) = p at hsorted
  generalize data (ys ++ zs) = ds at hsorted
  rcases zs with _ | ⟨x, _ | ⟨y, zs⟩⟩
  · exact ⟨hsorted, rfl⟩
  · rcases isData_of_heads hzs mem_cons_self with heq | heq <;>
      simp [firstToHead, hsorted, heq]
  · -- both are there
    have heq := hzs.eq_of_length_le (by simp)
    obtain ⟨hx, heq⟩ := List.cons.inj heq
    obtain ⟨hy, heq⟩ := List.cons.inj heq
    obtain rfl := map_eq_nil_iff.mp heq
    simp [firstToHead, hsorted, hx, hy]

/-! ## The merged list -/

def order (ps : List (List RingStatus)) : List RingStatus :=
  ps.reverse.flatMap heads ++ grouped (fun x => x.cat.toTid) (ps.flatMap data)

/-- What the flow control knows when the statuses `ds` for traffic ids are in. -/
structure Placed (hs ds : List RingStatus) (s : List RingStatus × (Fin 8 → Option ℕ)) : Prop where
  result : s.1 = hs ++ grouped (fun x => x.cat.toTid) ds
  entry : ∀ t, s.2 t = ((ds.filter fun x => x.cat.toTid = t).getLast?).map RingStatus.slot

lemma Placed.placeRing {hs ds : List RingStatus} {s : List RingStatus × (Fin 8 → Option ℕ)}
    (h : Placed hs ds s) (hslots : ((hs ++ ds).map RingStatus.slot).Nodup) (x : RingStatus) :
    Placed hs (ds ++ [x]) (TxSched.placeRing s x) where
  result := by
    unfold TxSched.placeRing
    dsimp only
    rw [h.entry, h.result]
    cases hlast : (ds.filter fun y => y.cat.toTid = x.cat.toTid).getLast? with
    | none =>
      have hnew : x.cat.toTid ∉ ds.map fun y => y.cat.toTid := by
        intro hmem
        obtain ⟨y, hy, heq⟩ := mem_map.mp hmem
        have hin : y ∈ ds.filter fun y => y.cat.toTid = x.cat.toTid :=
          mem_filter.mpr ⟨hy, decide_eq_true_eq.mpr heq⟩
        rw [getLast?_eq_none_iff.mp hlast] at hin
        exact not_mem_nil hin
      rw [Lib.grouped_concat_new hnew, ← append_assoc]
      rfl
    | some y =>
      obtain ⟨pre, post, hold, hnew⟩ := Lib.grouped_concat_old hlast
      have hperm : ((hs ++ grouped (fun x => x.cat.toTid) ds).map RingStatus.slot).Nodup :=
        (((Lib.perm_grouped ds).append_left hs).map RingStatus.slot).nodup_iff.mpr hslots
      rw [hold, ← append_assoc, map_append, map_cons] at hperm
      have hpre : ∀ z ∈ hs ++ pre, decide (z.slot = y.slot) = false := by
        intro z hz
        rw [decide_eq_false_iff_not]
        exact fun heq => (nodup_append.mp hperm).2.2 _ (mem_map_of_mem hz) _
          mem_cons_self heq
      rw [hold, hnew, ← append_assoc, ← append_assoc]
      exact Lib.insertAfter_append hpre (decide_eq_true rfl)
  entry t := by
    unfold TxSched.placeRing
    dsimp only
    by_cases ht : t = x.cat.toTid
    · rw [ht, update_self, Lib.filter_concat_self, getLast?_concat]
      rfl
    · have hsame : ((ds ++ [x]).filter fun y => y.cat.toTid = t) =
          ds.filter fun y => y.cat.toTid = t := Lib.filter_concat_ne ht
      rw [update_of_ne ht, hsame, h.entry]

lemma Placed.foldl {hs ds xs : List RingStatus} {s : List RingStatus × (Fin 8 → Option ℕ)}
    (h : Placed hs ds s) (hslots : ((hs ++ (ds ++ xs)).map RingStatus.slot).Nodup) :
    Placed hs (ds ++ xs) (xs.foldl TxSched.placeRing s) := by
  induction xs generalizing ds s with
  | nil =>
    rw [append_nil]
    exact h
  | cons x xs ih =>
    have hsub : (hs ++ ds).Sublist (hs ++ (ds ++ x :: xs)) :=
      (sublist_append_left ds _).append_left hs
    rw [append_cons] at hslots ⊢
    exact ih (h.placeRing (hslots.sublist (by
      rw [← append_cons]
      exact hsub.map _)) x) hslots

/-- The flow control after the statuses `ps` of some stations. -/
def Merged (s₀ : State) (ps : List (List RingStatus)) (s : State × (Fin 8 → Option ℕ)) : Prop :=
  Placed (ps.reverse.flatMap heads) (ps.flatMap data) (s.1.fctrlResult, s.2) ∧
    s.1.idle = s₀.idle ∧ s.1.tRingList = s₀.tRingList

lemma data_perm (hxs : (xs.map RingStatus.cat).Sublist RingCat.all) :
    (heads xs ++ data xs).Perm xs := by
  have hsort : ((heads xs).reverse ++ data xs).Perm xs := by
    rw [← sortedRing_planOf hxs]
    unfold planOf
    dsimp only
    have h1 : (xs.filter (fun x => x.cat = .tid 2) ++ xs.filter fun x => x.cat = .tid 1).Perm
        (xs.filter fun x => !decide (x.cat ≠ .tid 1 ∧ x.cat ≠ .tid 2)) := by
      have h2 : xs.filter (fun x => x.cat = .tid 2) =
          (xs.filter fun x => !decide (x.cat ≠ .tid 1 ∧ x.cat ≠ .tid 2)).filter
            fun x => x.cat = .tid 2 := by
        rw [filter_filter]
        refine filter_congr fun x _ => ?_
        by_cases heq : x.cat = .tid 2 <;> simp [heq]
      have h1 : xs.filter (fun x => x.cat = .tid 1) =
          (xs.filter fun x => !decide (x.cat ≠ .tid 1 ∧ x.cat ≠ .tid 2)).filter
            fun x => !decide (x.cat = .tid 2) := by
        rw [filter_filter]
        refine filter_congr fun x _ => ?_
        by_cases heq : x.cat = .tid 1
        · simp [heq]
        · by_cases heq2 : x.cat = .tid 2 <;> simp [heq, heq2]
      rw [h1, h2]
      exact filter_append_perm _ _
    rw [append_assoc]
    exact ((reverse_perm _).append h1).trans (filter_append_perm _ xs)
  exact ((reverse_perm (heads xs)).symm.append_right _).trans hsort

lemma heads_data_perm (hps : ∀ xs ∈ ps, (xs.map RingStatus.cat).Sublist RingCat.all) :
    (ps.reverse.flatMap heads ++ ps.flatMap data).Perm ps.flatten := by
  induction ps with
  | nil => exact .refl _
  | cons xs ps ih =>
    have hrest := ih fun ys hys => hps ys (mem_cons_of_mem xs hys)
    have hxs := data_perm (hps xs mem_cons_self)
    rw [perm_iff_count] at hrest hxs ⊢
    intro x
    have h1 := hrest x
    have h2 := hxs x
    rw [count_append] at h1 h2
    rw [reverse_cons, flatMap_append, flatMap_singleton, flatMap_cons,
      flatten_cons, count_append, count_append, count_append,
      count_append]
    omega

lemma Merged.flowStation {ps : List (List RingStatus)}
    {s : State × (Fin 8 → Option ℕ)} (h : Merged s₀ ps s) {a : ℕ} {xs : List RingStatus}
    (hxs : (xs.map RingStatus.cat).Sublist RingCat.all) (hplan : (s.1.tring a).plan = planOf xs)
    (hslots : (((ps ++ [xs]).flatten).map RingStatus.slot).Nodup)
    (hps : ∀ ys ∈ ps, (ys.map RingStatus.cat).Sublist RingCat.all) :
    Merged s₀ (ps ++ [xs]) (TxSched.flowStation s a) ∧
      ((TxSched.flowStation s a).1.tring a).plan = initTxPlan ∧
      SameRings (s.1.tring a) ((TxSched.flowStation s a).1.tring a) ∧
      ∀ b, b ≠ a → (TxSched.flowStation s a).1.tring b = s.1.tring b := by
  obtain ⟨hplaced, hidle, hlist⟩ := h
  obtain ⟨hsorted, hresult⟩ := firstToHead_planOf hxs s.1.fctrlResult
  unfold TxSched.flowStation
  rw [hplan]
  have hsleep : (planOf xs).sleep = false := rfl
  dsimp only at hsorted hresult ⊢
  rw [hsleep, if_neg Bool.false_ne_true, hsorted, hresult]
  have hperm := @heads_data_perm (ps ++ [xs]) fun ys hys => by
    rcases mem_append.mp hys with hys | hys
    · exact hps ys hys
    · rw [mem_singleton.mp hys]
      exact hxs
  have hnodup := (hperm.map RingStatus.slot).nodup_iff.mpr hslots
  rw [reverse_append, reverse_singleton, singleton_append, flatMap_cons,
    flatMap_append, flatMap_singleton] at hnodup
  have hbefore : Placed (heads xs ++ ps.reverse.flatMap heads) (ps.flatMap data)
      (heads xs ++ s.1.fctrlResult, s.2) := by
    have hres : s.1.fctrlResult = _ := hplaced.result
    refine ⟨?_, hplaced.entry⟩
    dsimp only
    rw [hres, append_assoc]
  have hafter := hbefore.foldl hnodup
  refine ⟨⟨?_, ?_, hlist⟩, ?_, ?_, ?_⟩
  · rw [reverse_append, reverse_singleton, singleton_append, flatMap_cons,
      flatMap_append, flatMap_singleton]
    exact hafter
  · unfold resetTxPlan
    dsimp only
    rw [update_self, map_nil, append_nil]
    exact hidle
  · unfold resetTxPlan
    dsimp only
    rw [update_self]
  · unfold resetTxPlan
    dsimp only
    rw [update_self, update_self]
    exact ⟨rfl, rfl, rfl, fun _ => rfl, fun _ => rfl⟩
  · intro b hb
    unfold resetTxPlan
    dsimp only
    rw [update_of_ne hb, update_of_ne hb]

lemma Merged.foldl {g : ℕ → List RingStatus}
    (hg : ∀ a, ((g a).map RingStatus.cat).Sublist RingCat.all) {done sta : List ℕ}
    {s : State × (Fin 8 → Option ℕ)} (h : Merged s₀ (done.map g) s) (hnodup : sta.Nodup)
    (hplan : ∀ a ∈ sta, (s.1.tring a).plan = planOf (g a))
    (hslots : ((((done ++ sta).map g).flatten).map RingStatus.slot).Nodup) :
    Merged s₀ ((done ++ sta).map g) (sta.foldl TxSched.flowStation s) ∧
      (∀ a ∈ sta, ((sta.foldl TxSched.flowStation s).1.tring a).plan = initTxPlan) ∧
      ∀ a, a ∉ sta → (sta.foldl TxSched.flowStation s).1.tring a = s.1.tring a := by
  induction sta generalizing done s with
  | nil =>
    rw [append_nil]
    exact ⟨h, fun a ha => absurd ha not_mem_nil, fun _ _ => rfl⟩
  | cons a sta ih =>
    obtain ⟨ha, hnodup⟩ := nodup_cons.mp hnodup
    rw [append_cons] at hslots ⊢
    have hfirst : ((((done.map g) ++ [g a]).flatten).map RingStatus.slot).Nodup := by
      rw [map_append, flatten_append, map_append, map_append] at hslots
      exact (nodup_append.mp hslots).1
    obtain ⟨hmerged, hdone, -, hothers⟩ := h.flowStation (hg a) (hplan a mem_cons_self)
      hfirst fun ys hys => by
        obtain ⟨b, -, rfl⟩ := mem_map.mp hys
        exact hg b
    have hmerged' : Merged s₀ ((done ++ [a]).map g) (TxSched.flowStation s a) := by
      rw [map_append]
      exact hmerged
    obtain ⟨hall, hplans, hrest⟩ := ih hmerged' hnodup (fun b hb => by
      rw [hothers b (ne_of_mem_of_not_mem hb ha)]
      exact hplan b (mem_cons_of_mem a hb)) hslots
    refine ⟨hall, fun b hb => ?_, fun b hb => ?_⟩
    · rcases mem_cons.mp hb with rfl | hb
      · rw [foldl_cons, hrest b ha]
        exact hdone
      · exact hplans b hb
    · obtain ⟨hne, hb⟩ := not_or.mp (mt mem_cons.mpr hb)
      rw [foldl_cons, hrest b hb]
      exact hothers b hne

/-! ## A round -/

def foundAll (tring : ℕ → TringList) : List ℕ → List ℕ → List (List RingStatus) × List ℕ
  | [], idle => ([], idle)
  | a :: as, idle =>
    let x := found a (tring a) RingCat.all idle
    (x.1 :: (foundAll tring as x.2).1, (foundAll tring as x.2).2)

lemma foundAll_slots (as idle : List ℕ) :
    (((foundAll tring as idle).1.flatten).map RingStatus.slot) ++ (foundAll tring as idle).2 =
      idle := by
  induction as generalizing idle with
  | nil => rfl
  | cons a as ih =>
    rw [foundAll]
    dsimp only
    rw [flatten_cons, map_append, append_assoc, ih]
    exact (found_spec a (tring a) RingCat.all idle).2

lemma foundAll_congr {tring tring' : ℕ → TringList} {as : List ℕ}
    (h : ∀ a ∈ as, SameRings (tring a) (tring' a)) (idle : List ℕ) :
    foundAll tring' as idle = foundAll tring as idle := by
  induction as generalizing idle with
  | nil => rfl
  | cons a as ih =>
    rw [foundAll, foundAll, (h a mem_cons_self).found, ih fun b hb => h b (mem_cons_of_mem a hb)]

/-- The state after the stations `as` have been looked at; `g` are their
statuses. -/
structure Collected (s₀ s : State) (as : List ℕ) (g : ℕ → List RingStatus) : Prop where
  found : (foundAll s₀.tring as s₀.idle).1 = as.map g
  cats : ∀ a, ((g a).map RingStatus.cat).Sublist RingCat.all
  plans : ∀ a ∈ as, (s.tring a).plan = planOf (g a) ∧ SameRings (s₀.tring a) (s.tring a)
  others : ∀ a, a ∉ as → s.tring a = s₀.tring a
  idle : s.idle = (foundAll s₀.tring as s₀.idle).2
  tRingList : s.tRingList = s₀.tRingList
  fctrlResult : s.fctrlResult = s₀.fctrlResult

lemma sortedRing_eq_nil (hxs : (xs.map RingStatus.cat).Sublist RingCat.all) :
    (planOf xs).sortedRing = [] ↔ xs = [] := by
  have hperm : (planOf xs).sortedRing.Perm xs := by
    rw [sortedRing_planOf hxs]
    exact ((reverse_perm (heads xs)).append_right _).trans (data_perm hxs)
  constructor
  · intro hnil
    rw [hnil] at hperm
    exact nil_perm.mp hperm
  · rintro rfl
    rfl

lemma all_nodup : RingCat.all.Nodup := by decide

lemma collected_foldl {s : State} {as : List ℕ} (hnodup : as.Nodup)
    (hplans : ∀ a ∈ as, (s.tring a).plan = initTxPlan) (sta : List ℕ) :
    ∃ g, Collected s (as.foldl (fun s a => checkTringList a s) (s, sta)).1 as g ∧
      (as.foldl (fun s a => checkTringList a s) (s, sta)).2 =
        sta ++ as.filter fun a => g a ≠ [] := by
  induction as generalizing s sta with
  | nil =>
    exact ⟨fun _ => [], ⟨rfl, fun _ => nil_sublist _, fun a ha => absurd ha not_mem_nil,
      fun _ _ => rfl, rfl, rfl, rfl⟩, (append_nil sta).symm⟩
  | cons a as ih =>
    obtain ⟨ha, hnodup⟩ := nodup_cons.mp hnodup
    obtain ⟨hsame, hplan, hidle⟩ := checkRing_foldl a RingCat.all (.refl (s.tring a)) s.idle
    have hcats := (found_spec a (s.tring a) RingCat.all s.idle).1
    rw [hplans a mem_cons_self, foldl_sortRingByTid (all_nodup.sublist hcats)] at hplan
    rw [foldl_cons, checkTringList]
    dsimp only
    rw [hplan]
    generalize RingCat.all.foldl (checkRing a) (s.tring a, s.idle) = r at hsame hplan hidle
    have hother : ∀ b, b ≠ a → update s.tring a r.1 b = s.tring b := fun b hb =>
      update_of_ne hb ..
    obtain ⟨g, hg, hsta⟩ := ih
      (s := { s with tring := update s.tring a r.1, idle := r.2 }) hnodup
      (fun b hb => by
        dsimp only
        rw [hother b (ne_of_mem_of_not_mem hb ha)]
        exact hplans b (mem_cons_of_mem a hb))
      (if (planOf (found a (s.tring a) RingCat.all s.idle).1).sortedRing = [] then sta
        else sta ++ [a])
    have hcongr : foundAll (update s.tring a r.1) as r.2 = foundAll s.tring as r.2 :=
      foundAll_congr (fun b hb => by
        rw [hother b (ne_of_mem_of_not_mem hb ha)]
        exact .refl _) r.2
    have hfound := hg.found
    have hrest := hg.idle
    dsimp only at hfound hrest
    rw [hcongr] at hfound hrest
    have hold : ∀ b ∈ as, update g a (found a (s.tring a) RingCat.all s.idle).1 b = g b :=
      fun b hb => update_of_ne (ne_of_mem_of_not_mem hb ha) ..
    have hnew : update g a (found a (s.tring a) RingCat.all s.idle).1 a =
        (found a (s.tring a) RingCat.all s.idle).1 := update_self ..
    refine ⟨update g a (found a (s.tring a) RingCat.all s.idle).1,
      ⟨?_, ?_, ?_, ?_, ?_, hg.tRingList, hg.fctrlResult⟩, ?_⟩
    · rw [foundAll, map_cons, hnew, map_congr_left hold, ← hfound, hidle]
    · intro b
      by_cases hb : b = a
      · rw [hb, hnew]
        exact hcats
      · rw [update_of_ne hb]
        exact hg.cats b
    · intro b hb
      rcases mem_cons.mp hb with rfl | hb
      · rw [hnew, hg.others b ha]
        dsimp only
        rw [update_self]
        exact ⟨hplan, hsame⟩
      · obtain ⟨h1, h2⟩ := hg.plans b hb
        dsimp only at h2
        rw [hother b (ne_of_mem_of_not_mem hb ha)] at h2
        rw [hold b hb]
        exact ⟨h1, h2⟩
    · intro b hb
      obtain ⟨hne, hb⟩ := not_or.mp (mt mem_cons.mpr hb)
      rw [hg.others b hb]
      exact hother b hne
    · rw [hrest, foundAll, hidle]
    · rw [hsta, filter_cons, hnew]
      have hfilter : as.filter (fun b => decide
          (update g a (found a (s.tring a) RingCat.all s.idle).1 b ≠ [])) =
            as.filter fun b => decide (g b ≠ []) :=
        filter_congr fun b hb => by rw [hold b hb]
      rw [hfilter]
      by_cases hnil : (found a (s.tring a) RingCat.all s.idle).1 = []
      · rw [if_pos ((sortedRing_eq_nil hcats).mpr hnil), if_neg (by simp [hnil])]
      · rw [if_neg (mt (sortedRing_eq_nil hcats).mp hnil), if_pos (by simp [hnil]),
          append_assoc]
        rfl

structure Inv (s : State) : Prop where
  plans : ∀ a ∈ s.tRingList, (s.tring a).plan = initTxPlan
  trings : s.tRingList.Nodup
  pool : s.idle.Nodup
  result : s.fctrlResult = []

lemma Inv.init : Inv (TxSched.init tring) where
  plans a ha := absurd ha not_mem_nil
  trings := nodup_nil
  pool := by
    unfold TxSched.init
    dsimp only
    exact nodup_range
  result := rfl

def looked (useOnetxring : Bool) (s : State) : List ℕ :=
  if useOnetxring then s.tRingList.take 1 else s.tRingList

/-- A round, in terms of the statuses `g` of the stations. -/
structure Round (s : State) (as : List ℕ) (c : State × List ℕ) (s' : State)
    (g : ℕ → List RingStatus) : Prop where
  collected : Collected s c.1 as g
  sta : c.2 = as.filter fun a => g a ≠ []
  result : s'.fctrlResult = order (c.2.map g)
  idle : s'.idle = c.1.idle
  tRingList : s'.tRingList = s.tRingList
  plans : ∀ a ∈ s.tRingList, (s'.tring a).plan = initTxPlan
  slots : ((((c.2).map g).flatten.map RingStatus.slot) ++ c.1.idle).Perm s.idle

lemma flatMap_filter_ne_nil {β : Type*} {f : List RingStatus → List β} (hf : f [] = [])
    (g : ℕ → List RingStatus) (as : List ℕ) :
    ((as.filter fun a => g a ≠ []).map g).flatMap f = (as.map g).flatMap f := by
  induction as with
  | nil => rfl
  | cons a as ih =>
    rw [filter_cons]
    by_cases ha : g a = []
    · rw [if_neg (by simp [ha]), ih, map_cons, flatMap_cons, ha, hf, nil_append]
    · rw [if_pos (by simp [ha]), map_cons, map_cons, flatMap_cons,
        flatMap_cons, ih]

lemma Inv.round {s : State} (h : Inv s) (useOnetxring : Bool) :
    ∃ g, Round s (looked useOnetxring s) (checkXmitRingResource useOnetxring s)
      (schedule useOnetxring s) g := by
  have hsub : (looked useOnetxring s).Sublist s.tRingList := by
    unfold looked
    split_ifs
    · exact take_sublist _ _
    · exact .refl _
  have hnodup := h.trings.sublist hsub
  obtain ⟨g, hg, hsta⟩ := collected_foldl hnodup (fun a ha => h.plans a (hsub.subset ha)) []
  rw [nil_append] at hsta
  change Collected s (checkXmitRingResource useOnetxring s).1 _ g at hg
  change (checkXmitRingResource useOnetxring s).2 = _ at hsta
  unfold schedule phlTxFlowCtrl
  generalize checkXmitRingResource useOnetxring s = c at hg hsta
  have hall := foundAll_slots s.tring (looked useOnetxring s) s.idle
  have hflat : (c.2.map g).flatten = ((looked useOnetxring s).map g).flatten := by
    rw [hsta, ← flatMap_id, ← flatMap_id]
    exact flatMap_filter_ne_nil rfl g _
  rw [hg.found, ← hg.idle, ← hflat] at hall
  have hslots : ((c.2.map g).flatten.map RingStatus.slot).Nodup := by
    have hidle := h.pool
    rw [← hall] at hidle
    exact (nodup_append.mp hidle).1
  have hstart : Merged c.1 (([] : List ℕ).map g) (c.1, fun _ => none) := by
    refine ⟨⟨?_, fun _ => rfl⟩, rfl, rfl⟩
    exact hg.fctrlResult.trans h.result
  have hin : ∀ a ∈ c.2, a ∈ looked useOnetxring s := by
    intro a ha
    rw [hsta] at ha
    exact (mem_filter.mp ha).1
  obtain ⟨hmerged, hdone, hrest⟩ := @Merged.foldl _ _ hg.cats _ c.2 _ hstart
    (hsta ▸ hnodup.filter _) (fun a ha => (hg.plans a (hin a ha)).1) hslots
  refine ⟨g, hg, hsta, hmerged.1.result, hmerged.2.1, hmerged.2.2.trans hg.tRingList, ?_,
    .of_eq hall⟩
  intro a ha
  by_cases hac : a ∈ c.2
  · exact hdone a hac
  · rw [hrest a hac]
    by_cases hal : a ∈ looked useOnetxring s
    · have hnil : g a = [] := by
        by_contra hne
        refine hac ?_
        rw [hsta]
        exact mem_filter.mpr ⟨hal, decide_eq_true hne⟩
      rw [(hg.plans a hal).1, hnil]
      rfl
    · rw [hg.others a hal]
      exact h.plans a ha

lemma order_perm (hps : ∀ xs ∈ ps, (xs.map RingStatus.cat).Sublist RingCat.all) :
    (order ps).Perm ps.flatten :=
  ((Lib.perm_grouped (ps.flatMap data)).append_left _).trans (heads_data_perm hps)

lemma Round.perm {as : List ℕ} {c : State × List ℕ} {g : ℕ → List RingStatus}
    (h : Round s as c s' g) : s'.fctrlResult.Perm (c.2.map g).flatten := by
  rw [h.result]
  apply order_perm
  intro xs hxs
  obtain ⟨a, -, rfl⟩ := mem_map.mp hxs
  exact h.collected.cats a

lemma Inv.step {s : State} (h : Inv s) (e : Event) : Inv (TxSched.step s e) := by
  cases e with
  | link a band wmm port ring =>
    unfold TxSched.step
    dsimp only
    split_ifs with ha
    · exact h
    · refine ⟨fun b hb => ?_, ?_, h.pool, h.result⟩
      · dsimp only at hb ⊢
        by_cases hba : b = a
        · rw [hba, update_self]
        · rw [update_of_ne hba]
          exact h.plans b ((mem_append.mp hb).resolve_right (mt mem_singleton.mp hba))
      · exact nodup_append.mpr ⟨h.trings, nodup_singleton a, fun b hb x hx heq =>
          ha (mem_singleton.mp hx ▸ heq ▸ hb)⟩
  | unlink a =>
    exact ⟨fun b hb => h.plans b (mem_of_mem_erase hb), h.trings.erase a, h.pool, h.result⟩
  | move a c r =>
    refine ⟨fun b hb => ?_, h.trings, h.pool, h.result⟩
    unfold TxSched.step
    dsimp only
    by_cases hba : b = a
    · rw [hba, update_self]
      exact h.plans a (hba ▸ hb)
    · rw [update_of_ne hba]
      exact h.plans b hb
  | round useOnetxring released =>
    obtain ⟨g, hg⟩ := h.round useOnetxring
    have hall : ((schedule useOnetxring s).fctrlResult.map RingStatus.slot ++
        (schedule useOnetxring s).idle).Nodup := by
      rw [hg.idle]
      exact (((hg.perm.map RingStatus.slot).append_right _).trans hg.slots).nodup_iff.mpr h.pool
    unfold TxSched.step
    refine ⟨fun a ha => ?_, ?_, ?_, rfl⟩
    · dsimp only at ha
      rw [hg.tRingList] at ha
      exact hg.plans a ha
    · dsimp only
      rw [hg.tRingList]
      exact h.trings
    · exact (perm_append_comm.nodup_iff.mp hall).sublist
        (filter_sublist.append_left _)

lemma Inv.run (es : List Event) :
    Inv (Lib.run TxSched.step (TxSched.init tring) es) :=
  Lib.run_invariant (fun _ e h => h.step e) (Inv.init tring) es

/-! ## The groups -/

lemma isData_of_mem_data (hx : x ∈ data xs) :
    ∃ t, x.cat = .tid t := by
  rcases mem_append.mp hx with hx | hx
  · rcases mem_append.mp hx with hx | hx
    · have hdata := (decide_eq_true_eq.mp (mem_filter.mp (mem_reverse.mp hx)).2).1
      cases hcat : x.cat with
      | tid t => exact ⟨t, rfl⟩
      | mgnt =>
        rw [hcat] at hdata
        exact nomatch hdata
      | hiq =>
        rw [hcat] at hdata
        exact nomatch hdata
    · exact ⟨2, decide_eq_true_eq.mp (mem_filter.mp hx).2⟩
  · exact ⟨1, decide_eq_true_eq.mp (mem_filter.mp hx).2⟩

lemma cat_of_mem_heads (hx : x ∈ heads xs) (t : Fin 8) :
    x.cat ≠ .tid t := by
  intro hcat
  have hno := (mem_filter.mp hx).2
  rw [hcat] at hno
  exact nomatch hno

lemma filter_plan (xs : List RingStatus) (t : Fin 8) :
    ((heads xs).reverse ++ data xs).filter (fun x => x.cat = .tid t) =
      (data xs).filter fun x => x.cat.toTid = t := by
  have hnone : (heads xs).reverse.filter (fun x => decide (x.cat = .tid t)) = [] := by
    refine filter_eq_nil_iff.mpr fun x hx heq => ?_
    exact cat_of_mem_heads (mem_reverse.mp hx) t (decide_eq_true_eq.mp heq)
  rw [filter_append, hnone, nil_append]
  refine filter_congr fun x hx => ?_
  obtain ⟨u, hu⟩ := isData_of_mem_data hx
  rw [hu]
  exact decide_eq_decide.mpr ⟨fun heq => RingCat.tid.inj heq, fun heq => congrArg RingCat.tid heq⟩

/-! ## Rounds do not depend on each other -/

structure SameView (s s' : State) : Prop where
  tRingList : s'.tRingList = s.tRingList
  rings : ∀ a ∈ s.tRingList, SameRings (s.tring a) (s'.tring a)
  idle : s'.idle.length = s.idle.length

def forget (x : RingStatus) : RingStatus := { x with slot := 0 }

lemma found_forget {t t' : TringList} (h : SameRings t t') (cs : List RingCat)
    {idle idle' : List ℕ} (hlen : idle'.length = idle.length) :
    (found a t' cs idle').1.map forget = (found a t cs idle).1.map forget ∧
      (found a t' cs idle').2.length = (found a t cs idle).2.length := by
  rw [h.found]
  induction cs generalizing idle idle' with
  | nil => exact ⟨rfl, hlen⟩
  | cons c cs ih =>
    rw [found, found]
    unfold checkRingStatus
    dsimp only
    split_ifs
    · exact ih hlen
    · rcases idle with _ | ⟨k, ks⟩
      · rw [length_nil, length_eq_zero_iff] at hlen
        rw [hlen]
        exact ⟨rfl, rfl⟩
      · rcases idle' with _ | ⟨k', ks'⟩
        · exact nomatch hlen
        · obtain ⟨h1, h2⟩ := ih (Nat.succ.inj hlen)
          exact ⟨congrArg (List.cons _) h1, h2⟩

lemma foundAll_forget {tring tring' : ℕ → TringList} {as : List ℕ}
    (h : ∀ a ∈ as, SameRings (tring a) (tring' a)) {idle idle' : List ℕ}
    (hlen : idle'.length = idle.length) :
    (foundAll tring' as idle').1.map (map forget) =
      (foundAll tring as idle).1.map (map forget) := by
  induction as generalizing idle idle' with
  | nil => rfl
  | cons a as ih =>
    obtain ⟨hfirst, hrest⟩ := found_forget a (h a mem_cons_self) RingCat.all hlen
    rw [foundAll, foundAll, map_cons, map_cons, hfirst,
      ih (fun b hb => h b (mem_cons_of_mem a hb)) hrest]

lemma heads_forget (xs : List RingStatus) : heads (xs.map forget) = (heads xs).map forget := by
  unfold heads
  rw [filter_map]
  rfl

lemma data_forget (xs : List RingStatus) : data (xs.map forget) = (data xs).map forget := by
  unfold data
  rw [filter_map, filter_map, filter_map, map_append, map_append,
    map_reverse]
  rfl

lemma order_forget (ps : List (List RingStatus)) :
    order (ps.map (map forget)) = (order ps).map forget := by
  unfold order
  have hdata : (ps.map (map forget)).flatMap data = (ps.flatMap data).map forget := by
    rw [flatMap_map, map_flatMap]
    exact flatMap_congr fun xs _ => data_forget xs
  have hheads : (ps.map (map forget)).reverse.flatMap heads =
      (ps.reverse.flatMap heads).map forget := by
    rw [← map_reverse, flatMap_map, map_flatMap]
    exact flatMap_congr fun xs _ => heads_forget xs
  rw [hdata, hheads, map_append]
  congr 1
  exact Lib.grouped_map (fun _ => rfl) _

lemma order_filter (g : ℕ → List RingStatus) (as : List ℕ) :
    order ((as.filter fun a => g a ≠ []).map g) = order (as.map g) := by
  unfold order
  have hheads : ((as.filter fun a => g a ≠ []).map g).reverse.flatMap heads =
      (as.map g).reverse.flatMap heads := by
    rw [← map_reverse, ← map_reverse, ← filter_reverse]
    exact flatMap_filter_ne_nil rfl g as.reverse
  rw [hheads, flatMap_filter_ne_nil rfl g as]

lemma Round.forget {c : State × List ℕ} {as : List ℕ} {g : ℕ → List RingStatus}
    (h : Round s as c s' g) : s'.fctrlResult.map TxSched.forget =
      order ((foundAll s.tring as s.idle).1.map (map TxSched.forget)) := by
  rw [order_forget, h.result, h.sta, order_filter, h.collected.found]

lemma SameView.looked (h : SameView s s') (useOnetxring : Bool) :
    TxSched.looked useOnetxring s' = TxSched.looked useOnetxring s := by
  unfold TxSched.looked
  rw [h.tRingList]

lemma looked_subset (useOnetxring : Bool) (s : State) : looked useOnetxring s ⊆ s.tRingList := by
  unfold looked
  split_ifs
  · exact take_subset _ _
  · exact List.Subset.refl _

/-- After every run, a round hands on every status that it has collected once,
those for management and high priority before the others, and these grouped by
traffic id in the order of the stations; the rest of the pool stays as it is.
The result is the same after every other run that leaves the same in the rings. -/
theorem tx_schedule_right (es : List Event) (useOnetxring : Bool) :
    let s := Lib.run step (init tring) es
    let c := checkXmitRingResource useOnetxring s
    let s' := phlTxFlowCtrl c.1 c.2
    let collected := c.2.flatMap fun a => (c.1.tring a).plan.sortedRing
    s'.fctrlResult.Perm collected ∧ (s'.fctrlResult.map RingStatus.slot).Nodup ∧
    s'.idle = c.1.idle ∧ (collected.map RingStatus.slot ++ c.1.idle).Perm s.idle ∧
    (∃ (hs : List RingStatus) (tids : List (Fin 8)), s'.fctrlResult = hs ++
        tids.flatMap (fun t => collected.filter fun x => x.cat = .tid t) ∧
      tids.Nodup ∧ ∀ x ∈ hs, ∀ t, x.cat ≠ .tid t) ∧
    ∀ tring' es', SameView s (Lib.run step (init tring') es') →
      (schedule useOnetxring (Lib.run step (init tring') es')).fctrlResult.map forget =
        s'.fctrlResult.map forget := by
  intro s c s' collected
  have hinv : Inv s := Inv.run tring es
  obtain ⟨g, hg⟩ := hinv.round useOnetxring
  have hplan : ∀ a ∈ c.2, (c.1.tring a).plan.sortedRing = (heads (g a)).reverse ++ data (g a) := by
    intro a ha
    have hsta : c.2 = _ := hg.sta
    rw [hsta] at ha
    rw [(hg.collected.plans a (mem_filter.mp ha).1).1]
    exact sortedRing_planOf (hg.collected.cats a)
  have hcollected : collected = c.2.flatMap fun a => (heads (g a)).reverse ++ data (g a) :=
    flatMap_congr hplan
  have hperm : collected.Perm (c.2.map g).flatten := by
    rw [hcollected, ← flatMap_def]
    exact List.Perm.flatMap_left _ fun a _ =>
      ((reverse_perm _).append_right _).trans (data_perm (hg.collected.cats a))
  have hslots : (collected.map RingStatus.slot ++ c.1.idle).Perm s.idle :=
    ((hperm.map RingStatus.slot).append_right _).trans hg.slots
  have hresult : s'.fctrlResult.Perm collected := hg.perm.trans hperm.symm
  refine ⟨hresult, ?_, hg.idle, hslots, ?_, ?_⟩
  · refine (hresult.map RingStatus.slot).nodup_iff.mpr ?_
    exact (nodup_append.mp (hslots.nodup_iff.mpr hinv.pool)).1
  · refine ⟨(c.2.map g).reverse.flatMap heads,
      firsts (((c.2.map g).flatMap data).map fun x => x.cat.toTid), ?_, Lib.nodup_firsts _, ?_⟩
    · have hres : s'.fctrlResult = order (c.2.map g) := hg.result
      rw [hres]
      unfold order grouped
      congr 1
      refine flatMap_congr fun t _ => ?_
      rw [hcollected, flatMap_map, filter_flatMap, filter_flatMap]
      exact flatMap_congr fun a _ => (filter_plan (g a) t).symm
    · intro x hx t
      obtain ⟨xs, -, hx⟩ := mem_flatMap.mp hx
      exact cat_of_mem_heads hx t
  · intro tring' es' hview
    obtain ⟨g', hg'⟩ := (Inv.run tring' es').round useOnetxring
    have hres : s'.fctrlResult.map forget = _ := hg.forget
    rw [hres, hg'.forget, hview.looked, foundAll_forget
      (fun a ha => hview.rings a (looked_subset useOnetxring s ha)) hview.idle]

def someRings : RingCat → TxRing
  | .tid t => if t = 0 ∨ t = 2 then ⟨3, 1, 0⟩ else ⟨0, 0, 0⟩
  | .mgnt => ⟨2, 1, 0⟩
  | .hiq => ⟨0, 0, 0⟩

def twoStations : List Event := [.link 7 0 0 0 someRings, .link 9 0 0 1 someRings]

def noRings (_ : ℕ) : TringList := ⟨0, 0, 0, fun _ => ⟨0, 0, 0⟩, initTxPlan⟩

lemma forall_cat {P : RingCat → Prop} (h : ∀ c ∈ RingCat.all, P c) (c : RingCat) : P c := by
  apply h
  rcases c with t | _ | _
  · exact mem_append_left _ (mem_map_of_mem (mem_finRange t))
  · decide
  · decide

set_option maxRecDepth 20000 in
theorem tx_schedule_right_again :
    (schedule false (Lib.run step (init noRings)
      (twoStations ++ [.round false fun _ => true]))).fctrlResult.map (fun x => (x.sta, x.cat)) =
        [(9, .mgnt), (7, .mgnt), (7, .tid 0), (9, .tid 0), (7, .tid 2), (9, .tid 2)] := by
  have hview : SameView (Lib.run step (init noRings) twoStations)
      (Lib.run step (init noRings) (twoStations ++ [.round false fun _ => true])) := by
    refine ⟨by decide, fun a ha => ?_, by decide⟩
    have hcases : a = 7 ∨ a = 9 := by
      rcases mem_cons.mp ha with heq | ha
      · exact .inl heq
      · exact .inr (mem_singleton.mp ha)
    rcases hcases with rfl | rfl
    · refine ⟨?_, ?_, ?_, forall_cat ?_, forall_cat ?_⟩ <;> decide
    · refine ⟨?_, ?_, ?_, forall_cat ?_, forall_cat ?_⟩ <;> decide
  have hsame := (tx_schedule_right noRings twoStations false).2.2.2.2.2 noRings _ hview
  have hview : ∀ xs : List RingStatus, xs.map (fun x => (x.sta, x.cat)) =
      (xs.map forget).map fun x => (x.sta, x.cat) := fun xs => by rw [map_map]; rfl
  rw [hview, hsame]
  decide

end TxSched

end Rtl8831.Phl
