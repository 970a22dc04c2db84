import Rtl8831.Lib.Run
import Rtl8831.Phl.BcnTrack

/-!
# The arithmetic of beacon tracking

The rings and the drifts are right after every sequence of beacons and
watchdogs; the box plot, the histogram and the timeout are where the drifts are
small enough for sixteen bits and far enough from the end of the interval.
-/

namespace Rtl8831.Phl

open List Option

namespace BcnTrack

/-! ## Sorting -/

section Sorting

variable {l p s : List ℕ} {n : ℕ}

lemma bubble_zero (l : List ℕ) : bubble 0 l = l := by
  rw [bubble]
  exact fun _ _ _ _ h => (nomatch h)

lemma bubble_append (n : ℕ) (hp : p.length = n + 1) (s : List ℕ) :
    ∃ q m, bubble n (p ++ s) = q ++ m :: s ∧ (q ++ [m]).Perm p ∧ ∀ x ∈ q, x ≤ m := by
  induction n generalizing p with
  | zero =>
    obtain ⟨a, rfl⟩ := length_eq_one_iff.1 hp
    exact ⟨[], a, bubble_zero _, .refl _, fun x hx => (nomatch hx)⟩
  | succ n ih =>
    match p, hp with
    | a :: b :: p, hp =>
      have hlen : p.length = n := by simpa using hp
      have hpass : bubble (n + 1) (a :: b :: p ++ s) =
          if b < a then b :: bubble n (a :: p ++ s) else a :: bubble n (b :: p ++ s) := rfl
      rw [hpass]
      by_cases hlt : b < a
      · obtain ⟨q, m, hq, hperm, hle⟩ := ih (p := a :: p) (by simp [hlen])
        have ham : a ≤ m := by
          have hmem : a ∈ q ++ [m] := hperm.mem_iff.2 (mem_cons_self ..)
          rcases mem_append.1 hmem with h | h
          · exact hle a h
          · exact Nat.le_of_eq (mem_singleton.1 h)
        refine ⟨b :: q, m, ?_, ?_, fun x hx => ?_⟩
        · rw [if_pos hlt, hq]
          rfl
        · exact (hperm.cons b).trans (.swap a b p)
        · rcases mem_cons.1 hx with rfl | hx
          · omega
          · exact hle x hx
      · obtain ⟨q, m, hq, hperm, hle⟩ := ih (p := b :: p) (by simp [hlen])
        have hbm : b ≤ m := by
          have hmem : b ∈ q ++ [m] := hperm.mem_iff.2 (mem_cons_self ..)
          rcases mem_append.1 hmem with h | h
          · exact hle b h
          · exact Nat.le_of_eq (mem_singleton.1 h)
        refine ⟨a :: q, m, ?_, hperm.cons a, fun x hx => ?_⟩
        · rw [if_neg hlt, hq]
          rfl
        · rcases mem_cons.1 hx with rfl | hx
          · omega
          · exact hle x hx

lemma passes_spec (l : List ℕ) {k : ℕ} (hk : k < l.length) :
    ∃ pre suf, (range' 1 k).foldl (fun l idx => bubble (l.length - idx) l) l = pre ++ suf ∧
      suf.length = k ∧ (pre ++ suf).Perm l ∧ suf.Pairwise (· ≤ ·) ∧
      ∀ x ∈ pre, ∀ y ∈ suf, x ≤ y := by
  induction k with
  | zero =>
    refine ⟨l, [], ?_, rfl, ?_, .nil, fun _ _ y hy => (nomatch hy)⟩
    · rw [append_nil]
      rfl
    · rw [append_nil]
  | succ k ih =>
    obtain ⟨pre, suf, hfold, hlen, hperm, hsorted, hle⟩ := ih (Nat.lt_of_succ_lt hk)
    have htotal : pre.length + k = l.length := by
      rw [← hperm.length_eq, length_append, hlen]
    obtain ⟨q, m, hq, hqm, hqle⟩ := bubble_append (p := pre) (l.length - (k + 1)) (by omega) suf
    have hmle : ∀ y ∈ suf, m ≤ y := fun y hy =>
      hle m (hqm.mem_iff.1 (mem_append_right q (mem_singleton_self m))) y hy
    refine ⟨q, m :: suf, ?_, by rw [length_cons, hlen], ?_, ?_, fun x hx y hy => ?_⟩
    · rw [range'_concat, foldl_append, hfold, foldl_cons, foldl_nil,
        hperm.length_eq, Nat.one_mul, Nat.add_comm 1 k]
      exact hq
    · have hfront : (q ++ m :: suf).Perm (pre ++ suf) := by
        rw [append_cons]
        exact hqm.append_right suf
      exact hfront.trans hperm
    · exact pairwise_cons.2 ⟨hmle, hsorted⟩
    · have hx' : x ∈ pre := hqm.mem_iff.1 (mem_append_left [m] hx)
      rcases mem_cons.1 hy with rfl | hy
      · exact hqle x hx
      · exact hle x hx' y hy

lemma dataSorting_spec (l : List ℕ) :
    (dataSorting l).Perm l ∧ (dataSorting l).Pairwise (· ≤ ·) := by
  unfold dataSorting
  match l with
  | [] => exact ⟨.refl _, .nil⟩
  | a :: l =>
    obtain ⟨pre, suf, hfold, hlen, hperm, hsorted, hle⟩ :=
      passes_spec (a :: l) (k := (a :: l).length - 1) (by simp)
    rw [hfold]
    refine ⟨hperm, ?_⟩
    have hone : pre.length = 1 := by
      have htotal := hperm.length_eq
      rw [length_append, hlen, length_cons] at htotal
      omega
    obtain ⟨x, rfl⟩ := length_eq_one_iff.1 hone
    exact pairwise_cons.2 ⟨fun y hy => hle x (mem_singleton_self x) y hy, hsorted⟩

end Sorting

/-! ## The history -/

/-- A ring that grows up to `cap` entries and then wraps. -/
structure RingOk (num idx cap : ℕ) : Prop where
  num_le : num ≤ cap
  idx_lt : num ≠ 0 → idx < num
  empty : num = 0 → idx = 0
  growing : num < cap → num = 0 ∨ idx + 1 = num

lemma RingOk.init (cap : ℕ) : RingOk 0 0 cap where
  num_le := Nat.zero_le cap
  idx_lt h := absurd rfl h
  empty _ := rfl
  growing _ := .inl rfl

variable {num idx cap : ℕ}

lemma RingOk.store (h : RingOk num idx cap) (hcap : 0 < cap)
    (hbyte : cap < 256) :
    RingOk (if num < cap then num + 1 else num) (getFidx num idx cap) cap := by
  have hle := h.num_le
  have hempty := h.empty
  have hidx := h.idx_lt
  have hgrow := h.growing
  by_cases hnum : num = 0
  · have hfirst : getFidx num idx cap = 0 := by
      rw [getFidx, if_pos hnum, hempty hnum]
    rw [hfirst, hnum, if_pos hcap]
    exact
      { num_le := hcap
        idx_lt := fun _ => Nat.one_pos
        empty := fun _ => rfl
        growing := fun _ => .inr rfl }
  · have hnext : (idx + 1) % 256 = idx + 1 := by
      apply Nat.mod_eq_of_lt
      have := hidx hnum
      omega
    have hidx := hidx hnum
    have hfull : num < cap → idx + 1 = num := fun h => (hgrow h).resolve_left hnum
    unfold getFidx
    rw [if_neg hnum, hnext]
    by_cases hlt : num < cap
    · have hlast := hfull hlt
      rw [if_pos hlt, if_neg (by omega), hlast]
      exact
        { num_le := hlt
          idx_lt := fun _ => Nat.lt_succ_self num
          empty := fun h0 => absurd h0 (Nat.succ_ne_zero num)
          growing := fun _ => .inr rfl }
    · have hslot : (if cap ≤ idx + 1 then 0 else idx + 1) < num := by
        split_ifs <;> omega
      rw [if_neg hlt]
      exact
        { num_le := hle
          idx_lt := fun _ => hslot
          empty := fun h0 => absurd h0 hnum
          growing := fun h => absurd h hlt }

lemma RingOk.getBidx_lt {num idx cap i : ℕ} (h : RingOk num idx cap) (hbyte : cap < 256)
    (hi : i < num) : getBidx num i < num := by
  have hle := h.num_le
  unfold getBidx
  split_ifs with h0
  · have hwrap : (num + 255) % 256 = num - 1 := by omega
    omega
  · omega

lemma RingOk.iterate_lt (h : RingOk num idx cap) (hbyte : cap < 256)
    (hnum : num ≠ 0) (k : ℕ) : (getBidx num)^[k] idx < num := by
  induction k with
  | zero => exact h.idx_lt hnum
  | succ k ih =>
    rw [Function.iterate_succ_apply']
    exact h.getBidx_lt hbyte ih

section Offset

variable {b : ℕ} {l : LongInfo}

lemma minTbtt_eq (x y b : ℕ) : minTbtt x y b = x ∨ minTbtt x y b = y := by
  unfold minTbtt
  dsimp only
  split_ifs
  all_goals first | exact .inl rfl | exact .inr rfl

lemma minTbtt_le {x y n : ℕ} (hx : x ≤ n) (hy : y ≤ n) (b : ℕ) : minTbtt x y b ≤ n := by
  rcases minTbtt_eq x y b with h | h
  · rw [h]; exact hx
  · rw [h]; exact hy

section

variable (hl : ∀ k, l.tbtt k < b * tu)
include hl

lemma pairLoop_le (c n idx : ℕ) {o : ℕ} (ho : o ≤ b * tu) :
    pairLoop b l c n idx o ≤ b * tu := by
  induction n generalizing idx o with
  | zero => exact ho
  | succ n ih =>
    have hfirst : (if o = b * tu then l.tbtt c else minTbtt o (l.tbtt c) b) ≤ b * tu := by
      split_ifs
      · exact (hl c).le
      · exact minTbtt_le ho (hl c).le b
    unfold pairLoop
    dsimp only
    by_cases h1 : l.idx = getBidx l.num idx
    · rw [if_pos h1]
      exact ho
    rw [if_neg h1]
    split_ifs at hfirst ⊢
    all_goals apply ih
    all_goals first | exact ho | exact minTbtt_le hfirst (hl _).le b

lemma offsetLoop_le (n c : ℕ) {o : ℕ} (ho : o ≤ b * tu) :
    offsetLoop b l n c o ≤ b * tu := by
  induction n generalizing c o with
  | zero => exact ho
  | succ n ih =>
    unfold offsetLoop
    apply ih
    exact pairLoop_le hl c _ c ho

lemma singleLoop_lt {o : Offset} (ho : o.offset < b * tu) :
    (singleLoop b l o).offset < b * tu := by
  unfold singleLoop
  generalize range l.num = ks
  induction ks generalizing o with
  | nil => exact ho
  | cons k ks ih =>
    rw [foldl_cons]
    apply ih
    split_ifs
    · exact hl k
    · exact ho
    · exact ho

lemma upBcnOffsetInfo_lt {o : Offset} (ho : o.offset < b * tu) :
    (upBcnOffsetInfo b l o).offset < b * tu := by
  have hpos : 0 < b * tu := by omega
  have hpairs := offsetLoop_le hl l.num l.idx le_rfl
  have hchosen : (if l.num = 1 then ⟨l.tbtt l.idx, .low⟩
      else if offsetLoop b l l.num l.idx (b * tu) ≠ b * tu then
        ⟨if o.offset ≠ minTbtt (offsetLoop b l l.num l.idx (b * tu)) o.offset b then
          offsetLoop b l l.num l.idx (b * tu) else o.offset, .high⟩
      else singleLoop b l o : Offset).offset < b * tu := by
    split_ifs
    · exact hl l.idx
    · dsimp only
      omega
    · exact ho
    · exact singleLoop_lt hl ho
  unfold upBcnOffsetInfo
  dsimp only
  split_ifs at hchosen ⊢
  all_goals first | exact hpos | exact hchosen

end

end Offset

/-- What holds of the history of a station whose access point has interval `b`. -/
structure Kept (b : ℕ) (i : BcnInfo) : Prop where
  short : RingOk i.short.num i.short.idx maxShortInfoBcnNum
  long : RingOk i.long.num i.long.idx maxLongInfoBcnNum
  mod_lt : ∀ k, i.short.mod k < b
  tbtt_lt : ∀ k, i.long.tbtt k < b * tu
  offset_lt : i.offset.offset < b * tu
  min_lt : i.short.min < b
  max_lt : i.short.max < b
  intvl : i.short.num ≠ 0 → i.bcnIntvl = b
  counted : i.numPerWatchdog ≠ 0 → i.short.num ≠ 0

lemma kept_clean {b : ℕ} (hb : 0 < b) : Kept b clean where
  short := .init _
  long := .init _
  mod_lt _ := hb
  tbtt_lt _ := Nat.mul_pos hb (by decide)
  offset_lt := Nat.mul_pos hb (by decide)
  min_lt := hb
  max_lt := hb
  intvl h := absurd rfl h
  counted h := absurd rfl h

lemma mod_lt_intvl {b : ℕ} (hb : 0 < b) (t : ℕ) : t % (b * tu) / tu % 2 ^ 16 < b := by
  have htu : 0 < tu := by decide
  have hmod : t % (b * tu) / tu < b := by
    apply Nat.div_lt_of_lt_mul
    rw [Nat.mul_comm tu b]
    exact Nat.mod_lt t (Nat.mul_pos hb htu)
  exact (Nat.mod_le _ _).trans_lt hmod

lemma kept_staUpRxBcn {b : ℕ} {i : BcnInfo} {e : Beacon} (h : Kept b i)
    (he : e.bcnIntvl.toNat = b) : Kept b (staUpRxBcn i e) := by
  unfold staUpRxBcn
  by_cases hl : e.linked = false
  · rw [if_pos hl]
    exact h
  by_cases h0 : e.bcnIntvl = 0
  · rw [if_neg hl, if_pos h0]
    exact h
  rw [if_neg hl, if_neg h0]
  have hb : 0 < b := by
    rw [← he]
    apply Nat.pos_of_ne_zero
    intro hz
    exact h0 (UInt16.toNat_inj.1 hz)
  have hstart : Kept b (if errorTsfDetect i e then clean else i) := by
    split_ifs
    · exact kept_clean hb
    · exact h
  generalize (if errorTsfDetect i e then clean else i) = j at hstart ⊢
  have htbtt : ∀ k, (Function.update j.long.tbtt (getFidx j.long.num j.long.idx maxLongInfoBcnNum)
      (calcTbtt e.tsf.toNat (appTsfTOf e.band) b)) k < b * tu := by
    intro k
    rw [Function.update_apply]
    split_ifs
    · exact Nat.mod_lt _ (Nat.mul_pos hb (by decide))
    · exact hstart.tbtt_lt k
  have hmod := mod_lt_intvl hb e.tsf.toNat
  have hmin := hstart.min_lt
  have hmax := hstart.max_lt
  dsimp only [storeBcnLongInfo, storeBcnShortInfo]
  rw [he]
  exact
    { short := hstart.short.store (by decide) (by decide)
      long := hstart.long.store (by decide) (by decide)
      mod_lt := by
        intro k
        dsimp only
        rw [Function.update_apply]
        split_ifs
        · exact hmod
        · exact hstart.mod_lt k
      tbtt_lt := htbtt
      offset_lt := upBcnOffsetInfo_lt htbtt hstart.offset_lt
      min_lt := by
        dsimp only
        split_ifs <;> omega
      max_lt := by
        dsimp only
        split_ifs <;> omega
      intvl := fun _ => rfl
      counted := by
        intro _
        dsimp only
        have := hstart.short.num_le
        split_ifs with hlt
        · exact Nat.succ_ne_zero _
        · have : 0 < maxShortInfoBcnNum := by decide
          omega }

lemma kept_bcnWatchdogSw {b : ℕ} {i : BcnInfo} (h : Kept b i) (band : Band) (latSen : Bool) :
    Kept b (bcnWatchdogSw i band latSen) := by
  unfold bcnWatchdogSw
  split_ifs
  · exact h
  · exact { h with counted := fun h0 => absurd rfl h0 }

def Event.OfIntvl (b : ℕ) : Event → Prop
  | .beacon e => e.bcnIntvl.toNat = b
  | .watchdog _ _ => True

lemma kept_run {b : ℕ} (hb : 0 < b) {es : List Event} (hes : ∀ e ∈ es, e.OfIntvl b) :
    Kept b (Lib.run step clean es) := by
  induction es using reverseRecOn with
  | nil => exact kept_clean hb
  | append_singleton es e ih =>
    have hbefore := ih fun e' he' => hes e' (mem_append_left _ he')
    have hlast := hes e (mem_append_right es (mem_singleton_self e))
    rw [Lib.run_append, Lib.run_cons, Lib.run_nil]
    cases e with
    | beacon e => exact kept_staUpRxBcn hbefore hlast
    | watchdog band latSen => exact kept_bcnWatchdogSw hbefore band latSen

/-! ## The drifts -/

def drifts (b : ℕ) (i : BcnInfo) : List ℕ :=
  ((range i.short.num).map fun k =>
    (((i.short.mod k : ℤ) - tbttOf i) % (b : ℤ)).toNat).insertionSort (· ≤ ·)

lemma length_drifts (b : ℕ) (i : BcnInfo) : (drifts b i).length = i.short.num := by
  unfold drifts
  rw [length_insertionSort, length_map, length_range]

lemma sorted_drifts (b : ℕ) (i : BcnInfo) : (drifts b i).Pairwise (· ≤ ·) :=
  pairwise_insertionSort (· ≤ ·) _

lemma drifts_lt {b : ℕ} (hb : 0 < b) (i : BcnInfo) : ∀ x ∈ drifts b i, x < b := by
  intro x hx
  unfold drifts at hx
  rw [(perm_insertionSort (· ≤ ·) _).mem_iff] at hx
  obtain ⟨k, -, rfl⟩ := List.mem_map.1 hx
  have hb' : (0 : ℤ) < b := by exact_mod_cast hb
  have hlt := Int.emod_lt_of_pos ((i.short.mod k : ℤ) - tbttOf i) hb'
  omega

lemma calcBcnDrift_eq {m t b : ℕ} (hm : m < b) (ht : t < b) (hb : b < 2 ^ 16) :
    calcBcnDrift m t b = (((m : ℤ) - t) % (b : ℤ)).toNat := by
  unfold calcBcnDrift
  split_ifs with h
  · have hdrift : ((m : ℤ) - t) % (b : ℤ) = (m : ℤ) - t + b := by
      rw [← Int.add_emod_right, Int.emod_eq_of_lt (by omega) (by omega)]
    omega
  · rw [Int.emod_eq_of_lt (by omega) (by omega)]
    omega

lemma tbttOf_lt {b : ℕ} {i : BcnInfo} (h : Kept b i) : tbttOf i < b := by
  have hdiv : i.offset.offset / tu < b := by
    apply Nat.div_lt_of_lt_mul
    rw [Nat.mul_comm tu b]
    exact h.offset_lt
  exact (Nat.mod_le _ _).trans_lt hdiv

lemma getBcnDrift_eq {b : ℕ} {i : BcnInfo} (h : Kept b i) (hb : b < 2 ^ 16) :
    getBcnDrift i = drifts b i := by
  have hmap : ((range i.short.num).map fun k =>
        calcBcnDrift (i.short.mod k) (tbttOf i) i.bcnIntvl) =
      (range i.short.num).map fun k =>
        (((i.short.mod k : ℤ) - tbttOf i) % (b : ℤ)).toNat := by
    apply map_congr_left
    intro k hk
    have hnum : i.short.num ≠ 0 := by
      have := mem_range.1 hk
      omega
    rw [h.intvl hnum]
    exact calcBcnDrift_eq (h.mod_lt k) (tbttOf_lt h) hb
  unfold getBcnDrift drifts
  rw [hmap]
  generalize (range i.short.num).map _ = l
  obtain ⟨hperm, hsorted⟩ := dataSorting_spec l
  exact (hperm.trans (perm_insertionSort (· ≤ ·) l).symm).eq_of_pairwise'
    hsorted (pairwise_insertionSort (· ≤ ·) l)

/-! ## The box plot -/

section Box

variable {d : List ℕ} {w : Width}

lemma quartile_word (d : List ℕ) (k : ℕ) :
    quartile .word d k = (quartile .exact d k).map (· % 2 ^ 16) := by
  unfold quartile
  dsimp only [Width.trunc]
  split_ifs
  · cases d[d.length * k / 4 - 1]? with
    | none => rfl
    | some x =>
      cases d[d.length * k / 4]? with
      | none => rfl
      | some y =>
        simp only [bind_some, map_some, Option.some.injEq]
        omega
  · cases d[d.length * k / 4]? with
    | none => rfl
    | some x => rfl

/-- A quartile lies between the two values at its place, or is the one at it. -/
lemma quartile_between {k q : ℕ} (hsort : d.Pairwise (· ≤ ·))
    (hq : quartile .exact d k = some q) :
    ∃ i j x y, d.length * k / 4 - 1 ≤ i ∧ j ≤ d.length * k / 4 ∧ d[i]? = some x ∧
      d[j]? = some y ∧ 10 * x ≤ q ∧ q ≤ 10 * y := by
  unfold quartile at hq
  dsimp only [Width.trunc] at hq
  split_ifs at hq
  · obtain ⟨x, hx, hq⟩ := bind_eq_some_iff.1 hq
    obtain ⟨y, hy, rfl⟩ := map_eq_some_iff.1 hq
    refine ⟨_, _, x, y, Nat.le_refl _, Nat.le_refl _, hx, hy, ?_⟩
    obtain ⟨hj, rfl⟩ := List.getElem?_eq_some_iff.1 hy
    obtain ⟨hi, rfl⟩ := List.getElem?_eq_some_iff.1 hx
    have hle : d[d.length * k / 4 - 1] ≤ d[d.length * k / 4] :=
      (sortedLE_iff_pairwise.2 hsort).getElem_le_getElem_of_le (Nat.sub_le _ 1)
    omega
  · obtain ⟨x, hx, rfl⟩ := map_eq_some_iff.1 hq
    exact ⟨_, _, x, x, Nat.sub_le _ 1, Nat.le_refl _, hx, hx, by omega⟩

lemma quartiles_le {q r : ℕ} (hsort : d.Pairwise (· ≤ ·)) (hd : 4 ≤ d.length)
    (hq : quartile .exact d 1 = some q) (hr : quartile .exact d 3 = some r) : q ≤ r := by
  obtain ⟨-, j, -, y, -, hj, -, hy, -, hqy⟩ := quartile_between hsort hq
  obtain ⟨i, -, x, -, hi, -, hx, -, hxr, -⟩ := quartile_between hsort hr
  obtain ⟨hlj, rfl⟩ := List.getElem?_eq_some_iff.1 hy
  obtain ⟨hli, rfl⟩ := List.getElem?_eq_some_iff.1 hx
  have hle : d[j] ≤ d[i] :=
    (sortedLE_iff_pairwise.2 hsort).getElem_le_getElem_of_le (by omega)
  omega

lemma distBoxPlot_exact {p : BoxPlot} (hp : distBoxPlot .exact d = some p) :
    p.max ∈ d ∧ quartile .exact d 1 = some p.q1 ∧ quartile .exact d 3 = some p.q3 ∧
      p.outlierH = (p.q3 + p.temp) / 10 := by
  unfold distBoxPlot at hp
  obtain ⟨x, -, hp⟩ := bind_eq_some_iff.1 hp
  obtain ⟨y, hy, hp⟩ := bind_eq_some_iff.1 hp
  obtain ⟨q, hq, hp⟩ := bind_eq_some_iff.1 hp
  obtain ⟨r, hr, rfl⟩ := map_eq_some_iff.1 hp
  exact ⟨mem_of_getElem? hy, hq, hr, rfl⟩

lemma distBoxPlot_word {p : BoxPlot} (hsort : d.Pairwise (· ≤ ·)) (hd : 4 ≤ d.length)
    (hp : distBoxPlot .exact d = some p) :
    distBoxPlot .word d = some p ↔ p.q3 < 2 ^ 16 ∧ p.temp < 2 ^ 16 := by
  unfold distBoxPlot at hp ⊢
  obtain ⟨x, hx, hp⟩ := bind_eq_some_iff.1 hp
  obtain ⟨y, hy, hp⟩ := bind_eq_some_iff.1 hp
  obtain ⟨q, hq, hp⟩ := bind_eq_some_iff.1 hp
  obtain ⟨r, hr, rfl⟩ := map_eq_some_iff.1 hp
  have hqr := quartiles_le hsort hd hq hr
  rw [hx, hy, quartile_word, hq, quartile_word, hr]
  simp only [bind_some, map_some, Option.some.injEq]
  constructor
  · intro h
    have h3 : r % 2 ^ 16 = r := congrArg BoxPlot.q3 h
    have htemp : 3 * Width.word.sub (r % 2 ^ 16) (q % 2 ^ 16) / 2 % 2 ^ 16 = 3 * (r - q) / 2 :=
      congrArg BoxPlot.temp h
    dsimp only [Width.trunc, Width.sub] at htemp ⊢
    omega
  · intro h
    obtain ⟨hr16, ht16⟩ : r < 2 ^ 16 ∧ 3 * (r - q) / 2 < 2 ^ 16 := h
    have h1 : q % 2 ^ 16 = q := Nat.mod_eq_of_lt (by omega)
    have h3 : r % 2 ^ 16 = r := Nat.mod_eq_of_lt hr16
    have hiqr : Width.word.sub r q = Width.exact.sub r q := by
      dsimp only [Width.sub]
      omega
    have htemp : Width.word.trunc (3 * Width.exact.sub r q / 2) =
        Width.exact.trunc (3 * Width.exact.sub r q / 2) := Nat.mod_eq_of_lt ht16
    have hfence : Width.word.trunc ((r + Width.exact.trunc (3 * Width.exact.sub r q / 2)) / 10) =
        Width.exact.trunc ((r + Width.exact.trunc (3 * Width.exact.sub r q / 2)) / 10) := by
      apply Nat.mod_eq_of_lt
      dsimp only [Width.trunc, Width.sub]
      omega
    rw [h1, h3, hiqr, htemp, hfence]

end Box

/-! ## The histogram -/

lemma binTh_word {s : ShortInfo} {j : ℕ} (h : s.min + 30 < 2 ^ 16) (hj : j < maxNumBin) :
    binTh .word s j = binTh .exact s j := by
  unfold binTh binWidth
  have : j < 6 := hj
  exact Nat.mod_eq_of_lt (by omega)

lemma getBcnHistogram_word {s : ShortInfo} (hnum : s.num ≠ 0) (hmax : s.max < 2 ^ 16) :
    getBcnHistogram .word s = getBcnHistogram .exact s ↔ s.min + 30 < 2 ^ 16 := by
  constructor
  · intro h
    have hlast := congrArg (fun h : Histogram => h.upper[5]?) h
    have hword : (s.min + 5 * (5 + 1)) % 2 ^ 16 < 2 ^ 16 := Nat.mod_lt _ (by decide)
    have hends : (if s.max < (s.min + 5 * (5 + 1)) % 2 ^ 16 then (s.min + 5 * (5 + 1)) % 2 ^ 16
        else s.max) = if s.max < s.min + 5 * (5 + 1) then s.min + 5 * (5 + 1) else s.max := by
      simpa [getBcnHistogram, maxNumBin, binTh, binWidth, Width.trunc, hnum] using hlast
    by_contra hlarge
    rw [if_pos (by omega : s.max < s.min + 5 * (5 + 1))] at hends
    split_ifs at hends <;> omega
  · intro h
    have hbin : binOf .word s = binOf .exact s := by
      funext m
      unfold binOf
      congr 1
      apply find?_congr
      intro j hj
      rw [binTh_word h ((mem_range.1 hj).trans (by decide))]
    unfold getBcnHistogram
    rw [hbin]
    congr 1
    apply map_congr_left
    intro j hj
    rw [binTh_word h (mem_range.1 hj)]

lemma getBcnHistogramBandary_lt {b : ℕ} {s : ShortInfo} (hmin : s.min < b) (hmax : s.max < b)
    (pct : ℕ) : getBcnHistogramBandary (getBcnHistogram .exact s) pct < b + 30 := by
  have hupper : ∀ u ∈ (getBcnHistogram .exact s).upper, u < b + 30 := by
    intro u hu
    obtain ⟨j, hj, rfl⟩ := List.mem_map.1 hu
    have hj : j < 6 := mem_range.1 hj
    have hth : binTh .exact s j = s.min + 5 * (j + 1) := rfl
    split_ifs <;> omega
  have hloop : ∀ (bins : List (ℕ × ℕ)) (tgt num : ℕ), (∀ p ∈ bins, p.1 < b + 30) →
      bandaryLoop tgt num bins < b + 30 := by
    intro bins tgt
    induction bins with
    | nil => exact fun _ _ => Nat.add_pos_right b (by decide)
    | cons p bins ih =>
      intro num hbins
      unfold bandaryLoop
      split_ifs
      · exact hbins p (mem_cons_self ..)
      · exact ih _ fun q hq => hbins q (mem_cons_of_mem p hq)
  exact hloop _ _ _ fun p hp => hupper p.1 (of_mem_zip hp).1

/-! ## The timeout -/

/-- A delay of `x` time units ends in the interval, or so far behind it that the
word of the timeout wraps. -/
def InTime (b rx e x : ℕ) : Prop := x + e < b ∨ 2 ^ 16 ≤ x + e + rx

def Timely (b : ℕ) (i : BcnInfo) (band : Band) (latSen : Bool) : Prop :=
  let ok := InTime b (getRxBcnT i band) (if latSen then 5 else 0)
  let num := i.short.num
  if i.numPerWatchdog < wdogBcn b 30 ∨ num < 4 then ok (b * 80 / 100)
  else ∃ p ∈ distBoxPlot .exact (drifts b i),
    if num * 30 / 100 ≤ p.outlierNum then ok p.max
    else if i.numPerWatchdog < wdogBcn b 70 then
      if num < wdogBcn b 80 then ok (p.max + 5)
      else if num - num * 80 / 100 < p.outlierNum then ok ((p.max + p.outlierH) / 2)
      else ok (p.outlierH + 5)
    else if num = maxShortInfoBcnNum ∧ 80 ≤ getBcnAvgRssi i.short 5 then
      getBcnDistPct i.short 0 < 90 → ok (calcBcnDrift
        (getBcnHistogramBandary (getBcnHistogram .exact i.short) 80) (tbttOf i) b)
    else ∀ x ∈ (drifts b i)[num * 80 / 100]?, ok x

structure Fits (b : ℕ) (i : BcnInfo) (band : Band) (latSen : Bool) : Prop where
  bins : i.short.min + 30 < 2 ^ 16
  quartiles : 4 ≤ i.short.num →
    ∃ p ∈ distBoxPlot .exact (drifts b i), p.q3 < 2 ^ 16 ∧ p.temp < 2 ^ 16
  timely : Timely b i band latSen

structure Meaningful (b : ℕ) (i : BcnInfo) (band : Band) (latSen : Bool) : Prop where
  histogram : getBcnHistogram .word i.short = getBcnHistogram .exact i.short
  boxPlot : 4 ≤ i.short.num → ∃ p, distBoxPlot .word (getBcnDrift i) = some p ∧
    distBoxPlot .exact (getBcnDrift i) = some p
  timeout : ∃ t, calcBcnTracking .word i band latSen = some t ∧ t < b + getRxBcnT i band

section Timeout

variable {b : ℕ} {i : BcnInfo} (band : Band) (latSen : Bool)

lemma calcBcnTracking_word {x : ℕ} {c : Bool} (h : trackingBase .word i = some (x, c)) :
    calcBcnTracking .word i band latSen =
      some ((x + getRxBcnT i band + if c ∧ latSen then 5 else 0) % 2 ^ 16) := by
  unfold calcBcnTracking
  rw [h]
  dsimp only [map_some, Width.trunc]
  split_ifs
  · rw [Nat.mod_add_mod]
  · rfl

lemma timeout_lt_iff {x y : ℕ} (h : trackingBase .word i = some (x, true))
    (hxy : x % 2 ^ 16 = y % 2 ^ 16) (hy : y + 5 < b + 2 ^ 16) :
    (∃ t, calcBcnTracking .word i band latSen = some t ∧ t < b + getRxBcnT i band) ↔
      InTime b (getRxBcnT i band) (if latSen then 5 else 0) y := by
  have hcode := calcBcnTracking_word band latSen h
  generalize getRxBcnT i band = rx at hcode ⊢
  have he : (if true ∧ latSen then 5 else 0) = if latSen then 5 else 0 := by
    cases latSen <;> rfl
  rw [he] at hcode
  have he5 : (if latSen then 5 else 0) ≤ 5 := by
    split_ifs <;> decide
  generalize (if latSen then 5 else 0) = e at hcode he5 ⊢
  have hsum : (x + rx + e) % 2 ^ 16 = (y + rx + e) % 2 ^ 16 := by omega
  rw [hcode, hsum]
  unfold InTime
  constructor
  · rintro ⟨t, ht, hlt⟩
    rw [← Option.some.inj ht] at hlt
    omega
  · intro hin
    refine ⟨_, rfl, ?_⟩
    omega

lemma trackingBase_word (h : Kept b i) (hb : b < 2 ^ 16) (hnum : i.short.num ≠ 0) :
    trackingBase .word i =
      if i.numPerWatchdog < wdogBcn b 30 ∨ i.short.num < 4 then some (b * 80 / 100, true)
      else (distBoxPlot .word (drifts b i)).bind (trackingOf .word i (drifts b i)) := by
  unfold trackingBase
  dsimp only
  rw [getBcnDrift_eq h hb, h.intvl hnum]
  by_cases hfew : i.numPerWatchdog < wdogBcn b 30
  · rw [if_pos hfew, if_pos (.inl hfew)]
  · rw [if_neg hfew]
    by_cases hfour : i.short.num < 4
    · rw [if_pos hfour, if_pos (.inr hfour)]
    · rw [if_neg hfour, if_neg (not_or.2 ⟨hfew, hfour⟩)]

lemma timely_iff (h : Kept b i) (hb0 : 0 < b) (hb : b < 2 ^ 16) (hnum : i.short.num ≠ 0)
    (hhist : getBcnHistogram .word i.short = getBcnHistogram .exact i.short)
    (hbox : 4 ≤ i.short.num → ∃ p ∈ distBoxPlot .exact (drifts b i),
      distBoxPlot .word (drifts b i) = some p ∧ p.q3 < 2 ^ 16 ∧ p.temp < 2 ^ 16) :
    (∃ t, calcBcnTracking .word i band latSen = some t ∧ t < b + getRxBcnT i band) ↔
      Timely b i band latSen := by
  have hbase := trackingBase_word h hb hnum
  unfold Timely
  dsimp only
  by_cases hfew : i.numPerWatchdog < wdogBcn b 30 ∨ i.short.num < 4
  · rw [if_pos hfew] at hbase ⊢
    exact timeout_lt_iff band latSen hbase rfl (by omega)
  rw [if_neg hfew] at hbase ⊢
  obtain ⟨p, hp, hword, hq3, htemp⟩ := hbox (by omega)
  rw [hword, bind_some] at hbase
  obtain ⟨hmax, -, -, houtlier⟩ := distBoxPlot_exact hp
  have hmax := drifts_lt hb0 i p.max hmax
  have hlen := length_drifts b i
  have honly : ∀ P : BoxPlot → Prop, (∃ p ∈ distBoxPlot .exact (drifts b i), P p) ↔ P p := by
    intro P
    constructor
    · rintro ⟨q, hq, hP⟩
      rw [mem_unique hp hq]
      exact hP
    · exact fun hP => ⟨p, hp, hP⟩
  rw [honly]
  have hout : ∀ x y, trackingBase .word i = some (x, true) → x % 2 ^ 16 = y % 2 ^ 16 →
      y + 5 < b + 2 ^ 16 → _ := fun _ _ => timeout_lt_iff band latSen
  generalize (if latSen then 5 else 0) = e at hout ⊢
  unfold trackingOf at hbase
  dsimp only at hbase
  rw [h.intvl hnum, hhist] at hbase
  split_ifs at hbase ⊢ with hdisp hmid hshort hmany hstrong hperfect
  · exact hout _ _ hbase rfl (by omega)
  · exact hout _ _ hbase (Nat.mod_mod _ _) (by omega)
  · exact hout _ _ hbase (Nat.mod_mod _ _) (by omega)
  · exact hout _ _ hbase (Nat.mod_mod _ _) (by omega)
  · -- nothing but the allowance is left of a perfect reception
    have hcode := calcBcnTracking_word band latSen hbase
    constructor
    · exact fun _ hlt => absurd hperfect (Nat.not_le.2 hlt)
    · refine fun _ => ⟨_, hcode, ?_⟩
      have := Nat.mod_le (0 + getRxBcnT i band + if false ∧ latSen then 5 else 0) (2 ^ 16)
      simp only [Bool.false_eq_true, false_and, if_false] at this ⊢
      omega
  · have hbound := getBcnHistogramBandary_lt h.min_lt h.max_lt 80
    have htbtt := tbttOf_lt h
    have hdelay : calcBcnDrift (getBcnHistogramBandary (getBcnHistogram .exact i.short) 80)
        (tbttOf i) b < b + 30 := by
      unfold calcBcnDrift
      split_ifs <;> omega
    rw [hout _ _ hbase rfl (by omega)]
    exact ⟨fun hin _ => hin, fun hin => hin (by omega)⟩
  · have hidx : i.short.num * 80 / 100 < (drifts b i).length := by omega
    rw [getElem?_eq_getElem hidx, map_some] at hbase
    have hdrift := drifts_lt hb0 i _ (getElem_mem hidx)
    rw [hout _ _ hbase rfl (by omega), getElem?_eq_getElem hidx]
    constructor
    · intro hin x hx
      rw [← Option.some.inj hx]
      exact hin
    · exact fun hin => hin _ rfl

lemma meaningful_iff (h : Kept b i) (hb0 : 0 < b) (hb : b < 2 ^ 16) (hnum : i.short.num ≠ 0) :
    Meaningful b i band latSen ↔ Fits b i band latSen := by
  have hhist := getBcnHistogram_word hnum (h.max_lt.trans hb)
  have hdrift := getBcnDrift_eq h hb
  have hsort := sorted_drifts b i
  have hlen := length_drifts b i
  constructor
  · rintro ⟨hexact, hplot, hout⟩
    have hbox : 4 ≤ i.short.num → ∃ p ∈ distBoxPlot .exact (drifts b i),
        distBoxPlot .word (drifts b i) = some p ∧ p.q3 < 2 ^ 16 ∧ p.temp < 2 ^ 16 := by
      intro hfour
      obtain ⟨p, hword, hp⟩ := hplot hfour
      rw [hdrift] at hword hp
      exact ⟨p, hp, hword, (distBoxPlot_word hsort (by omega) hp).1 hword⟩
    refine ⟨hhist.1 hexact, fun hfour => ?_, (timely_iff band latSen h hb0 hb hnum hexact hbox).1 hout⟩
    obtain ⟨p, hp, -, hfit⟩ := hbox hfour
    exact ⟨p, hp, hfit⟩
  · rintro ⟨hbins, hquart, htimely⟩
    have hexact := hhist.2 hbins
    have hbox : 4 ≤ i.short.num → ∃ p ∈ distBoxPlot .exact (drifts b i),
        distBoxPlot .word (drifts b i) = some p ∧ p.q3 < 2 ^ 16 ∧ p.temp < 2 ^ 16 := by
      intro hfour
      obtain ⟨p, hp, hfit⟩ := hquart hfour
      exact ⟨p, hp, (distBoxPlot_word hsort (by omega) hp).2 hfit, hfit⟩
    refine ⟨hexact, fun hfour => ?_, (timely_iff band latSen h hb0 hb hnum hexact hbox).2 htimely⟩
    obtain ⟨p, hp, hword, -⟩ := hbox hfour
    rw [hdrift]
    exact ⟨p, hword, hp⟩

end Timeout

/-! ## Every run -/

def RingInRange (num idx cap : ℕ) : Prop :=
  num ≤ cap ∧ idx < cap ∧ (num ≠ 0 → ∀ k, (getBidx num)^[k] idx < num)

lemma RingOk.inRange (h : RingOk num idx cap) (hcap : 0 < cap)
    (hbyte : cap < 256) : RingInRange num idx cap := by
  refine ⟨h.num_le, ?_, fun hnum k => h.iterate_lt hbyte hnum k⟩
  have hle := h.num_le
  by_cases hnum : num = 0
  · rw [h.empty hnum]
    exact hcap
  · have := h.idx_lt hnum
    omega

/-- After every sequence of beacons and watchdogs the rings are in range and the
drifts are the sorted distances; the watchdog that follows is right exactly when
the drifts fit. -/
theorem tracking_right_iff (b : UInt16) (hb : b ≠ 0) (es : List Event)
    (hes : ∀ e ∈ es, e.OfIntvl b.toNat) :
    let i := Lib.run step clean es
    RingInRange i.short.num i.short.idx maxShortInfoBcnNum ∧
    RingInRange i.long.num i.long.idx maxLongInfoBcnNum ∧
    getBcnDrift i = drifts b.toNat i ∧
    ∀ band latSen, i.numPerWatchdog ≠ 0 →
      (Meaningful b.toNat i band latSen ↔ Fits b.toNat i band latSen) := by
  intro i
  have hpos : 0 < b.toNat := by
    apply Nat.pos_of_ne_zero
    exact fun hz => hb (UInt16.toNat_inj.mp hz)
  have hword : b.toNat < 2 ^ 16 := b.toNat_lt
  have hkept := kept_run hpos hes
  refine ⟨hkept.short.inRange (by decide) (by decide), hkept.long.inRange (by decide) (by decide),
    getBcnDrift_eq hkept hword, fun band latSen hwdog => ?_⟩
  exact meaningful_iff band latSen hkept hpos hword (hkept.counted hwdog)

/-- One beacon of each interval, `ds` time units after its start. -/
def beaconsAt (b : UInt16) (ds : List ℕ) : List Event :=
  ds.zipIdx.map fun p => .beacon
    { linked := true, bcnIntvl := b, band := .on24G
      tsf := .ofNat ((b.toNat * (p.2 + 1) + p.1) * tu + 384)
      rssi := 60, pktLen := 300, rate := 4, passing := .ofNat b.toNat }

theorem tracking_right_iff_jitter :
    let i := Lib.run step clean (beaconsAt 100 [99, 98, 20, 40, 60, 80])
    RingInRange i.short.num i.short.idx maxShortInfoBcnNum ∧
    RingInRange i.long.num i.long.idx maxLongInfoBcnNum ∧
    getBcnDrift i = drifts 100 i ∧
    ∀ band latSen, i.numPerWatchdog ≠ 0 →
      (Meaningful 100 i band latSen ↔ Fits 100 i band latSen) := by
  refine tracking_right_iff 100 (by decide) (beaconsAt 100 [99, 98, 20, 40, 60, 80])
    fun e he => ?_
  obtain ⟨p, -, rfl⟩ := List.mem_map.mp he
  rfl

/-- A beacon just before the time they are due is nearly an interval late; with
an interval of ten thousand the quartiles wrap. -/
theorem late_beacon_exceeds_interval :
    let jitter := Lib.run step clean (beaconsAt 100 [99, 98, 20, 40, 60, 80])
    let dispersed := Lib.run step clean (beaconsAt 10000 [0, 2000, 4000, 6000, 8000, 9900])
    jitter.numPerWatchdog = 6 ∧ getRxBcnT jitter .on24G = 1 ∧
    calcBcnTracking .word jitter .on24G false = some 105 ∧
    ¬Meaningful 100 jitter .on24G false ∧
    dispersed.numPerWatchdog = 6 ∧ ¬Meaningful 10000 dispersed .on24G false := by
  intro jitter dispersed
  have hout : calcBcnTracking .word jitter .on24G false = some 105 := by decide
  refine ⟨by decide, by decide, hout, fun h => ?_, by decide, fun h => ?_⟩
  · obtain ⟨t, ht, hlt⟩ := h.timeout
    rw [hout] at ht
    rw [← Option.some.inj ht] at hlt
    exact absurd hlt (by decide)
  · obtain ⟨p, hword, hexact⟩ := h.boxPlot (by decide)
    have hdiffer : distBoxPlot .word (getBcnDrift dispersed) ≠
        distBoxPlot .exact (getBcnDrift dispersed) := by
      set_option maxRecDepth 20000 in decide
    exact hdiffer (hword.trans hexact.symm)

end BcnTrack

end Rtl8831.Phl
