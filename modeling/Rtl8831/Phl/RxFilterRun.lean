import Rtl8831.Phl.RxFilter

/-!
# The target of a frame as a join

What a call sets is the least upper bound of what the links ask for, and the register
entries show exactly what was set.  Nothing is recomputed when a role stops.
-/

namespace Rtl8831.Phl.RxFilter

open Lib List Function

section Registers

variable {w : BitVec 32} {i j : Fin 16} {t : Target}

lemma entry_setTypFltrOpt : ∀ t i, entry (setTypFltrOpt t) i = t := by
  intro t
  cases t <;> decide

lemma shiftRight_setClrWor2 (w v : BitVec 32) (i j : Fin 16) :
    (setClrWor2 w v (2 * i.val) >>> (2 * j.val)) &&& 3#32 =
      if j = i then v &&& 3#32 else (w >>> (2 * j.val)) &&& 3#32 := by
  have three : ∀ k, (3#32).getLsbD k = decide (k < 2) := by
    intro k
    by_cases hk : k < 32
    · revert k
      decide
    · rw [BitVec.getLsbD_of_ge _ _ (by omega)]
      simp only [Bool.false_eq, decide_eq_false_iff_not]
      omega
  apply BitVec.eq_of_getLsbD_eq
  intro k hk
  simp only [setClrWor2, BitVec.getLsbD_and, BitVec.getLsbD_ushiftRight, BitVec.getLsbD_or,
    BitVec.getLsbD_not, BitVec.getLsbD_shiftLeft, three]
  by_cases hk2 : k < 2
  · have hw : 2 * j.val + k < 32 := by omega
    split_ifs with hij
    · subst hij
      have hsub : 2 * j.val + k - 2 * j.val = k := by omega
      have hle : ¬ 2 * j.val + k < 2 * j.val := by omega
      simp [hw, hk2, hsub, hle, BitVec.getLsbD_and, three]
    · have hne : j.val ≠ i.val := fun h => hij (Fin.ext h)
      have hout : 2 * j.val + k < 2 * i.val ∨ ¬ 2 * j.val + k - 2 * i.val < 2 := by omega
      rcases hout with h | h <;> simp [hw, hk2, h, BitVec.getLsbD_and, three]
  · split_ifs <;> simp [hk2, BitVec.getLsbD_and, three]

lemma entry_setTypsbtypFltrOpt (w : BitVec 32) (i j : Fin 16) (t : Target) :
    entry (setTypsbtypFltrOpt w i t) j = if j = i then t else entry w j := by
  have hsh : (i.val &&& 0xf) * 2 = 2 * i.val := by
    revert i
    decide
  unfold entry setTypsbtypFltrOpt
  rw [hsh, shiftRight_setClrWor2]
  by_cases hij : j = i
  · rw [if_pos hij, if_pos hij]
    cases t <;> decide
  · rw [if_neg hij, if_neg hij]

variable (cap : Fin 16 → Option Target)

lemma entry_setStypes_aux (j : Fin 16) (l : List (Fin 16)) :
    ∀ w, entry (l.foldl (setStype cap) w) j = if j ∈ l then (cap j).getD (entry w j) else entry w j := by
  induction l with
  | nil => simp
  | cons i l ih =>
    intro w
    rw [foldl_cons, ih]
    by_cases hj : j = i
    · subst hj
      cases hc : cap j with
      | none => simp [setStype, hc]
      | some t => simp [setStype, hc, entry_setTypsbtypFltrOpt]
    · cases hc : cap i with
      | none => simp [setStype, hc, hj]
      | some t => simp [setStype, hc, hj, entry_setTypsbtypFltrOpt]

lemma entry_setStypes (w : BitVec 32) (j : Fin 16) :
    entry (setStypes cap w) j = (cap j).getD (entry w j) := by
  rw [setStypes, entry_setStypes_aux, if_pos (mem_finRange j)]

lemma typeSet_some {chk : Option Target} {l : List (Option Target)} {t : Target}
    (h : typeSet chk l = some t) : (∀ c, chk = some c → c = t) ∧ ∀ o ∈ l, o = some t := by
  induction l generalizing chk with
  | nil => simp_all [typeSet]
  | cons o l ih =>
    cases o with
    | none => cases chk <;> simp [typeSet] at h
    | some a =>
      cases chk with
      | none =>
        obtain ⟨ha, hl⟩ := ih h
        simpa [ha a rfl] using hl
      | some c =>
        simp only [typeSet] at h
        split_ifs at h with hac
        obtain ⟨ha, hl⟩ := ih h
        simpa [ha a rfl, ← hac] using hl

lemma setRxfltrByStype_on (w : BitVec 32) :
    (setRxfltrByStype true cap w).1 = true ∧
      ∀ j, entry (setRxfltrByStype true cap w).2 j = (cap j).getD (entry w j) := by
  unfold setRxfltrByStype
  split
  · rename_i t ht
    refine ⟨rfl, fun j => ?_⟩
    have hj := (typeSet_some ht).2 (cap j) (mem_map.2 ⟨j, mem_finRange j, rfl⟩)
    rw [if_pos rfl, entry_setTypFltrOpt, hj]
    rfl
  · exact ⟨rfl, entry_setStypes cap w⟩

lemma setRxfltrByStype_off (w : BitVec 32) :
    (setRxfltrByStype false cap w).2 = w := by
  unfold setRxfltrByStype
  split <;> rfl

lemma setRxfltrByStypeAll_on (cap : CapToSet) (reg : PktType → BitVec 32) :
    (setRxfltrByStypeAll true cap reg).1 = true ∧ ∀ ty j,
      entry ((setRxfltrByStypeAll true cap reg).2 ty) j = (cap ty j).getD (entry (reg ty) j) := by
  have hon := fun ty => setRxfltrByStype_on (cap ty) (reg ty)
  simp only [setRxfltrByStypeAll, update_of_ne, ne_eq, reduceCtorEq, not_false_eq_true,
    (hon _).1, Bool.true_eq_false, if_false, true_and]
  intro ty j
  cases ty <;> simp [(hon _).2]

lemma setRxfltrByStypeAll_off (cap : CapToSet) (reg : PktType → BitVec 32) :
    (setRxfltrByStypeAll false cap reg).2 = reg := by
  unfold setRxfltrByStypeAll
  simp only [setRxfltrByStype_off, update_eq_self]
  split_ifs <;> rfl

end Registers

section Join

variable {S T : Set Target} {o o' o'' : Option Target} {ty : PktType} {i : Fin 16}

/-- A target that is set becomes the least upper bound of itself and of `S`. -/
def Joins (S : Set Target) (o o' : Option Target) : Prop :=
  (o = none ∧ o' = none) ∨ ∃ t t', o = some t ∧ o' = some t' ∧ IsLUB (insert t S) t'

lemma joins_refl (o : Option Target) : Joins ∅ o o := by
  cases o with
  | none => exact .inl ⟨rfl, rfl⟩
  | some t => exact .inr ⟨t, t, rfl, rfl, by simp⟩

lemma isLUB_insert_union {t u v : Target} (h : IsLUB (insert t S) u)
    (h' : IsLUB (insert u T) v) : IsLUB (insert t (S ∪ T)) v := by
  have hub : upperBounds (insert t (S ∪ T)) = upperBounds (insert u T) := by
    ext x
    rw [← Set.insert_union, upperBounds_union, upperBounds_insert u T]
    constructor
    · rintro ⟨hx, hT⟩
      exact ⟨h.2 hx, hT⟩
    · rintro ⟨hx, hT⟩
      exact ⟨fun y hy => (h.1 hy).trans hx, hT⟩
  exact (isLUB_congr hub).2 h'

lemma Joins.trans (h : Joins S o o') (h' : Joins T o' o'') : Joins (S ∪ T) o o'' := by
  rcases h with ⟨rfl, rfl⟩ | ⟨t, u, rfl, rfl, hu⟩
  · rcases h' with ⟨-, rfl⟩ | ⟨t, u, ht, -⟩
    · exact .inl ⟨rfl, rfl⟩
    · contradiction
  · rcases h' with ⟨hn, -⟩ | ⟨t', v, ht', rfl, hv⟩
    · contradiction
    · obtain rfl := Option.some.inj ht'
      exact .inr ⟨t, v, rfl, rfl, isLUB_insert_union hu hv⟩

lemma joins_dcsnAll (chk : TypeCap) (cur : CapToSet) :
    Joins {chk ty i} (cur ty i) (dcsnAll chk cur ty i) := by
  unfold dcsnAll
  cases cur ty i with
  | none => exact .inl ⟨rfl, rfl⟩
  | some t =>
    refine .inr ⟨t, _, rfl, rfl, ?_⟩
    rw [rxfltrTargetDcsn_eq, max_comm]
    exact isLUB_pair

lemma joins_foldl {α : Type} {f : CapToSet → α → CapToSet} {S : α → Set Target}
    (hf : ∀ c a, Joins (S a) (c ty i) (f c a ty i)) (l : List α) (c : CapToSet) :
    Joins {t | ∃ a ∈ l, t ∈ S a} (c ty i) (l.foldl f c ty i) := by
  induction l generalizing c with
  | nil => simpa using joins_refl (c ty i)
  | cons a l ih =>
    have hset : {t | ∃ x ∈ a :: l, t ∈ S x} = S a ∪ {t | ∃ x ∈ l, t ∈ S x} := by
      ext t
      simp
    rw [hset]
    exact (hf c a).trans (ih (f c a))

end Join

variable {n : ℕ} {R : Roles n} {s : State n} {b : HwBand} {ty : PktType} {i : Fin 16}

namespace State

def others (R : Roles n) (s : State n) (r : Fin n) (l : ℕ) (ty : PktType) (i : Fin 16) :
    Set Target :=
  {t | ∃ r' l', l' < R.rlinkNum r' ∧ R.hwBand r' l' = R.hwBand r l ∧ s.active r' = true ∧
    ¬ (r' = r ∧ l' = l) ∧ s.cap r' l' ty i = t}

lemma joins_rxFilterType (s : State n) (r : Fin n) (l : ℕ) (c : CapToSet) :
    Joins (s.others R r l ty i) (c ty i) (s.rxFilterType R r l c ty i) := by
  -- what one link adds, and what one role adds
  let link (r' : Fin n) (l' : ℕ) : Set Target :=
    {t | R.hwBand r' l' = R.hwBand r l ∧ ¬ (r' = r ∧ l' = l) ∧ s.cap r' l' ty i = t}
  let role (r' : Fin n) : Set Target :=
    {t | s.active r' = true ∧ ∃ l' ∈ range (R.rlinkNum r'), t ∈ link r' l'}
  have hset : s.others R r l ty i = {t | ∃ r' ∈ finRange n, t ∈ role r'} := by
    ext t
    constructor
    · rintro ⟨r', l', hl, hb, ha, hne, ht⟩
      exact ⟨r', mem_finRange r', ha, l', mem_range.2 hl, hb, hne, ht⟩
    · rintro ⟨r', -, ha, l', hl, hb, hne, ht⟩
      exact ⟨r', l', mem_range.1 hl, hb, ha, hne, ht⟩
  rw [hset]
  refine joins_foldl (fun c r' => ?_) _ c
  by_cases hmap : r' ∉ R.roleMap (R.hwBand r l)
  · have hempty : role r' = ∅ := by
      ext t
      simp only [Set.mem_empty_iff_false, iff_false]
      rintro ⟨-, l', hl, hb, -⟩
      exact hmap (hb ▸ R.mem_roleMap r' l' (mem_range.1 hl))
    rw [if_pos hmap, hempty]
    exact joins_refl _
  rw [if_neg hmap]
  by_cases hact : s.active r' = false
  · have hempty : role r' = ∅ := by
      ext t
      simp [role, hact]
    rw [if_pos hact, hempty]
    exact joins_refl _
  have hrole : role r' = {t | ∃ l' ∈ range (R.rlinkNum r'), t ∈ link r' l'} := by
    ext t
    simp [role, hact]
  rw [if_neg hact, hrole]
  refine joins_foldl (fun c l' => ?_) _ c
  by_cases hb : R.hwBand r' l' ≠ R.hwBand r l
  · have hempty : link r' l' = ∅ := by
      ext t
      simp [link, hb]
    rw [if_pos hb, hempty]
    exact joins_refl _
  rw [if_neg hb]
  by_cases hself : r' = r ∧ l' = l
  · have hempty : link r' l' = ∅ := by
      ext t
      simp [link, hself]
    rw [if_pos hself, hempty]
    exact joins_refl _
  have hlink : link r' l' = {s.cap r' l' ty i} := by
    ext t
    simp only [link, Set.mem_singleton_iff]
    exact ⟨fun h => h.2.2.symm, fun h => ⟨not_not.1 hb, hself, h.symm⟩⟩
  rw [if_neg hself, hlink]
  exact joins_dcsnAll _ _

lemma target_call (s : State n) (r : Fin n) (l : ℕ) {mode : Mode} {c : CapToSet}
    (hc : mode.sets = some c) (ty : PktType) (i : Fin 16) :
    let s' := s.step R (.call r l mode true)
    (c ty i = none → s'.target (R.hwBand r l) ty i = s.target (R.hwBand r l) ty i) ∧
      ∀ t, c ty i = some t →
        IsLUB (insert t (s.others R r l ty i)) (s'.target (R.hwBand r l) ty i) := by
  intro s'
  have hothers : (s.keep r l c).others R r l ty i = s.others R r l ty i := by
    ext t
    constructor
    · rintro ⟨r', l', hl, hb, ha, hne, ht⟩
      exact ⟨r', l', hl, hb, ha, hne, by simpa [keep, hne] using ht⟩
    · rintro ⟨r', l', hl, hb, ha, hne, ht⟩
      exact ⟨r', l', hl, hb, ha, hne, by simpa [keep, hne] using ht⟩
  have hjoin := @joins_rxFilterType _ R ty i (s.keep r l c) r l c
  have htarget : s'.target (R.hwBand r l) ty i =
      ((s.keep r l c).rxFilterType R r l c ty i).getD (s.target (R.hwBand r l) ty i) := by
    simp only [s', step, setRxfltrTypeByMode, hc, target, update_self]
    exact (setRxfltrByStypeAll_on _ _).2 ty i
  rw [htarget]
  rcases hjoin with ⟨h, h'⟩ | ⟨t, t', h, h', hlub⟩
  · exact ⟨fun _ => by simp [h'], fun t ht => by simp [h] at ht⟩
  · refine ⟨fun hn => by simp [h] at hn, fun u hu => ?_⟩
    rw [h] at hu
    obtain rfl := Option.some.inj hu
    rwa [h', ← hothers]

end State

namespace Event

def Sets (R : Roles n) (b : HwBand) (ty : PktType) (i : Fin 16) : Event n → Prop
  | .setActive .. => False
  | .call r l mode _ => R.hwBand r l = b ∧ ∃ c, mode.sets = some c ∧ c ty i ≠ none

def Moves (R : Roles n) (b : HwBand) : Event n → Prop
  | .setActive r _ => ∃ l < R.rlinkNum r, R.hwBand r l = b
  | .call .. => False

end Event

namespace State

lemma target_other_band (s : State n) (r : Fin n) (l : ℕ) (mode : Mode) (macEn : Bool)
    (hb : R.hwBand r l ≠ b) : (s.step R (.call r l mode macEn)).target b = s.target b := by
  simp only [step, setRxfltrTypeByMode]
  cases mode.sets with
  | none => rfl
  | some c =>
    funext ty i
    simp only [target, update_of_ne hb.symm]
    rfl

lemma target_unset (s : State n) {e : Event n} (he : ¬ e.Sets R b ty i) :
    (s.step R e).target b ty i = s.target b ty i := by
  cases e with
  | setActive r v => rfl
  | call r l mode macEn =>
    by_cases hb : R.hwBand r l = b
    · subst hb
      cases hc : mode.sets with
      | none => simp only [step, setRxfltrTypeByMode, hc]
      | some c =>
        cases macEn with
        | false =>
          simp only [step, setRxfltrTypeByMode, hc, setRxfltrByStypeAll_off, target,
            update_eq_self]
          rfl
        | true =>
          refine (s.target_call r l hc ty i).1 ?_
          by_contra hne
          exact he ⟨rfl, c, hc, hne⟩
    · rw [s.target_other_band r l mode macEn hb]

lemma requests_unset (s : State n) {e : Event n} (he : ¬ e.Sets R b ty i) (hm : ¬ e.Moves R b) :
    (s.step R e).requests R b ty i = s.requests R b ty i := by
  -- the link keeps its place and what it asks for
  have hkeep : ∀ r l, l < R.rlinkNum r → R.hwBand r l = b →
      (s.step R e).active r = s.active r ∧ (s.step R e).cap r l ty i = s.cap r l ty i := by
    intro r l hl hb
    cases e with
    | setActive r' v =>
      refine ⟨update_of_ne ?_ _ _, rfl⟩
      rintro rfl
      exact hm ⟨l, hl, hb⟩
    | call r' l' mode macEn =>
      simp only [step, setRxfltrTypeByMode]
      cases hc : mode.sets with
      | none => exact ⟨rfl, rfl⟩
      | some c =>
        refine ⟨rfl, ?_⟩
        simp only [keep]
        split_ifs with hself
        · obtain ⟨rfl, rfl⟩ := hself
          have hn : c ty i = none := by
            by_contra hne
            exact he ⟨hb, c, hc, hne⟩
          simp [hn]
        · rfl
  ext t
  constructor
  · rintro ⟨r, l, hl, hb, ha, ht⟩
    obtain ⟨hact, hcap⟩ := hkeep r l hl hb
    exact ⟨r, l, hl, hb, hact ▸ ha, hcap ▸ ht⟩
  · rintro ⟨r, l, hl, hb, ha, ht⟩
    obtain ⟨hact, hcap⟩ := hkeep r l hl hb
    exact ⟨r, l, hl, hb, hact ▸ ha, hcap ▸ ht⟩

variable {es : List (Event n)}

lemma target_unset_run (he : ∀ e ∈ es, ¬ e.Sets R b ty i) :
    ∀ s : State n, (run (step R) s es).target b ty i = s.target b ty i := by
  induction es with
  | nil => exact fun _ => rfl
  | cons e es ih =>
    intro s
    rw [run_cons, ih fun e' h => he e' (mem_cons_of_mem _ h)]
    exact s.target_unset (he e mem_cons_self)

lemma requests_unset_run (he : ∀ e ∈ es, ¬ e.Sets R b ty i)
    (hm : ∀ e ∈ es, ¬ e.Moves R b) :
    ∀ s : State n, (run (step R) s es).requests R b ty i = s.requests R b ty i := by
  induction es with
  | nil => exact fun _ => rfl
  | cons e es ih =>
    intro s
    rw [run_cons, ih (fun e' h => he e' (mem_cons_of_mem _ h)) fun e' h =>
      hm e' (mem_cons_of_mem _ h)]
    exact s.requests_unset (he e mem_cons_self) (hm e mem_cons_self)

lemma isLUB_call (s : State n) {r : Fin n} {l : ℕ} {mode : Mode} (hl : l < R.rlinkNum r)
    (ha : s.active r = true) (hs : (Event.call r l mode true).Sets R b ty i) :
    IsLUB ((s.step R (.call r l mode true)).requests R b ty i)
      ((s.step R (.call r l mode true)).target b ty i) := by
  obtain ⟨rfl, c, hc, hne⟩ := hs
  obtain ⟨t, ht⟩ := Option.ne_none_iff_exists'.1 hne
  have hset : (s.step R (.call r l mode true)).requests R (R.hwBand r l) ty i =
      insert t (s.others R r l ty i) := by
    ext u
    simp only [step, setRxfltrTypeByMode, hc]
    constructor
    · rintro ⟨r', l', hl', hb', ha', hu⟩
      by_cases hself : r' = r ∧ l' = l
      · left
        simpa [keep, hself, ht] using hu.symm
      · right
        exact ⟨r', l', hl', hb', ha', hself, by simpa [keep, hself] using hu⟩
    · rintro (rfl | ⟨r', l', hl', hb', ha', hself, hu⟩)
      · exact ⟨r, l, hl, rfl, ha, by simp [keep, ht]⟩
      · exact ⟨r', l', hl', hb', ha', by simpa [keep, hself] using hu⟩
  rw [hset]
  exact (s.target_call r l hc ty i).2 t ht

/-- The target of a subtype is the one of the initialisation until a call for the band sets
it.  From the last such call on it is the strongest that the active links of the band asked
for at that call, and while no role with a link on the band is started or stopped, the
strongest that they ask for.  A call for one band leaves the other alone. -/
theorem rx_filter_join (R : Roles n) (es : List (Event n)) (b : HwBand) (ty : PktType)
    (i : Fin 16) :
    ((∀ e ∈ es, ¬ e.Sets R b ty i) →
        (run (step R) init es).target b ty i = if ty = .ctrl then .drop else .toHost) ∧
      (∀ xs r l mode ys, es = xs ++ .call r l mode true :: ys →
        (Event.call r l mode true).Sets R b ty i → l < R.rlinkNum r →
        (run (step R) init xs).active r = true → (∀ e ∈ ys, ¬ e.Sets R b ty i) →
          IsLUB ((run (step R) init (xs ++ [.call r l mode true])).requests R b ty i)
              ((run (step R) init es).target b ty i) ∧
            ((∀ e ∈ ys, ¬ e.Moves R b) →
              IsLUB ((run (step R) init es).requests R b ty i)
                ((run (step R) init es).target b ty i))) ∧
      ∀ r l mode macEn, R.hwBand r l ≠ b →
        (step R (run (step R) init es) (.call r l mode macEn)).target b =
          (run (step R) init es).target b := by
  refine ⟨fun he => ?_, ?_, fun r l mode macEn hb => target_other_band _ r l mode macEn hb⟩
  · rw [target_unset_run he]
    exact entry_setTypFltrOpt _ i
  · rintro xs r l mode ys rfl hs hl ha he
    have hcall := isLUB_call (run (step R) init xs) hl ha hs
    rw [run_append, run_append, run_cons, run_cons, run_nil, target_unset_run he]
    refine ⟨hcall, fun hm => ?_⟩
    rwa [requests_unset_run he hm]

def staAndAp : Roles 2 where
  rlinkNum := fun _ => 1
  hwBand := fun _ _ => .band0
  roleMap := fun _ => Finset.univ
  mem_roleMap := fun _ _ _ => Finset.mem_univ _

/-- After the access point has stopped, PS-Poll frames still go to the host, though only the
station is active, and asks for none. -/
theorem rx_filter_stale :
    let s := run (step staAndAp) init
      [.setActive 0 true, .call 0 0 .roleInit true, .setActive 1 true, .call 1 0 .roleInit true,
        .call 1 0 .apConn true, .setActive 1 false]
    s.target .band0 .ctrl psPoll = .toHost ∧ s.requests staAndAp .band0 .ctrl psPoll = {.drop} ∧
      ¬ IsLUB (s.requests staAndAp .band0 .ctrl psPoll) (s.target .band0 .ctrl psPoll) := by
  intro s
  have htarget : s.target .band0 .ctrl psPoll = .toHost := by decide
  have hrequests : s.requests staAndAp .band0 .ctrl psPoll = {.drop} := by
    ext t
    constructor
    · rintro ⟨r, l, hl, -, ha, ht⟩
      obtain rfl : l = 0 := Nat.lt_one_iff.mp hl
      fin_cases r
      · exact ht.symm
      · exact absurd ha (by decide)
    · rintro rfl
      exact ⟨0, 0, Nat.one_pos, rfl, by decide, by decide⟩
  refine ⟨htarget, hrequests, ?_⟩
  rw [htarget, hrequests]
  intro h
  exact absurd (isLUB_singleton.unique h) (by decide)

end State

end Rtl8831.Phl.RxFilter
