import Rtl8831.Phl.ScanSeq

/-!
# Which channels a scan chooses

Until the list is filled again the calls give the list with the operating channels behind the
channels whose turn it is.  What is counted starts one higher in each repetition, and the
operating channels come out backwards, so that the sequence is the promised one only where
neither matters.
-/

namespace Rtl8831.Phl.ScanSeq

open Lib Function List Param

variable {P : Param} {b b' : HwBand} {i j : Fin 2} {now fuel : ℕ} {c : Ctls} {s : State}
  {t t' : Sctrl} {x : Node} {xs : List Node}

/-! ### One channel -/

def Node.counts (x : Node) : Bool := decide (x.scanMode = .normal ∨ x.scanMode = .p2pListen)

def turn (P : Param) (x : Node) (idx : ℤ) : Bool :=
  decide (x.scanMode = .normal ∧ (idx + 2) % (P.chIntv : ℤ) = 0)

def nextIdx (x : Node) (idx : ℤ) : ℤ := if x.counts then idx + 1 else idx

def drain (P : Param) (b : HwBand) : ℤ → List Node → List Node
  | _, [] => []
  | idx, x :: xs =>
    x :: ((if turn P x idx then (P.ops b).reverse else []) ++ drain P b (nextIdx x idx) xs)

lemma enqueueOpch_eq (t : Sctrl) (ops : List Node) :
    t.enqueueOpch ops =
      { t with chlist := ops.reverse ++ t.chlist, cnt := t.cnt + ops.length } := by
  unfold Sctrl.enqueueOpch
  induction ops generalizing t with
  | nil => rfl
  | cons x ops ih =>
    rw [foldl_cons, ih]
    simp only [Sctrl.pushFirst, reverse_cons, append_assoc, singleton_append,
      length_cons]
    congr 1
    omega

lemma foldl_push (t : Sctrl) (xs : List Node) :
    xs.foldl Sctrl.push t = { t with chlist := t.chlist ++ xs, cnt := t.cnt + xs.length } := by
  induction xs generalizing t with
  | nil => simp
  | cons x xs ih =>
    rw [foldl_cons, ih]
    simp only [Sctrl.push, append_assoc, singleton_append, length_cons]
    congr 1
    omega

structure Popped (P : Param) (b : HwBand) (x : Node) (t t' : Sctrl) : Prop where
  chIdx : t'.chIdx = nextIdx x t.chIdx
  chlist : t'.chlist = (if turn P x t.chIdx then (P.ops b).reverse else []) ++ t.chlist
  cnt : t.cnt = t.chlist.length → t'.cnt = t'.chlist.length
  rpt : t'.rpt = t.rpt
  isCck : t'.isCck = t.isCck
  safe : x.scanMode = .normal → P.ops b ≠ [] → P.chIntv ≠ 0

lemma mode_of_ops (hmode : P.mode ≠ .timer) (hops : P.ops b ≠ []) : P.mode = .cnt := by
  unfold Param.ops at hops
  cases hm : P.mode with
  | none => simp [hm] at hops
  | cnt => rfl
  | timer => exact absurd hm hmode

lemma popped_spec (hmode : P.mode ≠ .timer) (h : P.popped b now x t = some t') :
    Popped P b x t t' := by
  have hidle : x.counts = false → t' = t → Popped P b x t t' := by
    rintro hc rfl
    have hmode : x.scanMode ≠ .normal := by
      intro hn
      simp [Node.counts, hn] at hc
    refine ⟨by simp [nextIdx, hc], ?_, id, rfl, rfl, fun hn => absurd hn hmode⟩
    rw [turn, decide_eq_false (fun hn => hmode hn.1)]
    rfl
  unfold popped at h
  split at h
  · next hn =>
      dsimp only at h
      have hcount : x.counts = true := by simp [Node.counts, hn]
      have hidx : nextIdx x t.chIdx = t.chIdx + 1 := by simp [nextIdx, hcount]
      by_cases hops : P.ops b = []
      · rw [if_neg fun hc => hc.1 hops, if_neg fun hc => hc.1 hops] at h
        obtain rfl := Option.some.inj h
        exact ⟨hidx.symm, by simp [hops], id, rfl, rfl, fun _ hne => absurd hops hne⟩
      · have hcnt := mode_of_ops hmode hops
        rw [if_pos ⟨hops, hcnt⟩] at h
        by_cases hzero : P.chIntv = 0
        · rw [if_pos hzero] at h
          contradiction
        rw [if_neg hzero] at h
        have hturn : turn P x t.chIdx = decide ((t.chIdx + 1 + 1) % (P.chIntv : ℤ) = 0) := by
          rw [turn, Int.add_assoc]
          simp [hn]
        by_cases hdue : (t.chIdx + 1 + 1) % (P.chIntv : ℤ) = 0
        · rw [if_pos hdue, enqueueOpch_eq] at h
          obtain rfl := Option.some.inj h
          refine ⟨hidx.symm, ?_, ?_, rfl, rfl, fun _ _ => hzero⟩
          · rw [hturn, decide_eq_true hdue]
            rfl
          · intro hc
            simp [hc, Nat.add_comm]
        · rw [if_neg hdue] at h
          obtain rfl := Option.some.inj h
          refine ⟨hidx.symm, ?_, id, rfl, rfl, fun _ _ => hzero⟩
          rw [hturn, decide_eq_false hdue]
          rfl
  · next hp =>
      have hnot : ¬ (P.ops b ≠ [] ∧ P.mode = .timer) := fun hc => hmode hc.2
      rw [if_neg hnot] at h
      obtain rfl := Option.some.inj h
      have hcount : x.counts = true := by simp [Node.counts, hp]
      have hturn : turn P x t.chIdx = false := by
        rw [turn, decide_eq_false]
        rintro ⟨hn, -⟩
        rw [hp] at hn
        contradiction
      refine ⟨by simp [nextIdx, hcount], by simp [hturn], id, rfl, rfl, fun hn => ?_⟩
      rw [hp] at hn
      contradiction
  · next hn hp =>
      refine hidle ?_ (Option.some.inj h).symm
      simpa [Node.counts] using ⟨hn, hp⟩

lemma popped_isSome (hmode : P.mode ≠ .timer)
    (hsafe : x.scanMode = .normal → P.ops b ≠ [] → P.chIntv ≠ 0) :
    ∃ t', P.popped b now x t = some t' := by
  unfold popped
  split
  · next hn =>
      dsimp only
      by_cases hops : P.ops b = []
      · rw [if_neg fun hc => hc.1 hops, if_neg fun hc => hc.1 hops]
        exact ⟨_, rfl⟩
      · rw [if_pos ⟨hops, mode_of_ops hmode hops⟩, if_neg (hsafe hn hops)]
        split_ifs <;> exact ⟨_, rfl⟩
  · exact ⟨_, rfl⟩
  · exact ⟨_, rfl⟩

/-! ### One call -/

lemma pop_cons {y : Node} (h : t.chlist = y :: xs) (hcnt : t.cnt = t.chlist.length) :
    t.pop = some (y, { t with chlist := xs, cnt := xs.length }) := by
  rw [h, length_cons] at hcnt
  simp [Sctrl.pop, h, hcnt]

lemma pop_nil (h : t.chlist = []) : t.pop = none := by
  simp [Sctrl.pop, h]

def Param.Aligned (P : Param) : Prop := P.twoBands = true → P.first = .band0

lemma sctrlIdx_eq_bandIdx (ha : P.Aligned) (htwo : P.twoBands = true)
    (hi : P.sctrlIdx b = some i) : bandIdx b = i := by
  have hfirst := ha htwo
  cases b <;> simp_all [sctrlIdx, bandIdx]

lemma sctrlIdx_eq_zero (htwo : P.twoBands = false) (hi : P.sctrlIdx b = some i) : i = 0 := by
  unfold sctrlIdx at hi
  split_ifs at hi with hb
  · exact (Option.some.inj hi).symm
  · rw [htwo] at *
    contradiction

lemma updateChlist_aligned (ha : P.Aligned) (hi : P.sctrlIdx b = some i)
    (hempty : (c i).chlist = []) (hcnt : (c i).cnt = 0)
    (hidle : P.twoBands = false → ∀ j, (c j).chlist = [])
    (hcck : (c i).isCck = decide (P.cckPhy = b)) :
    P.updateChlist (bandIdx b) (c i).isCck c =
      update c i
        { c i with chlist := P.listed b, cnt := (P.listed b).length } := by
  have hsame : ∀ j, (c j).chlist = [] → (c j).initListHead = c j := by
    intro j hj
    simp [Sctrl.initListHead, ← hj]
  cases htwo : P.twoBands with
  | true =>
    rw [sctrlIdx_eq_bandIdx ha htwo hi]
    simp only [updateChlist, htwo, hsame i hempty, if_true, update_eq_self,
      foldl_push, hempty, hcnt, listed, hcck, nil_append, Nat.zero_add]
  | false =>
    have hzero := sctrlIdx_eq_zero htwo hi
    subst hzero
    simp only [updateChlist, htwo, hsame _ (hidle htwo _), update_eq_self,
      foldl_push, hempty, hcnt, listed, nil_append, Nat.zero_add, Bool.false_eq_true,
      if_false]

lemma selectChnl_cons (b : HwBand) (now fuel : ℕ) (h : (c i).chlist = x :: xs)
    (hcnt : (c i).cnt = (c i).chlist.length) :
    selectChnl P b i now (fuel + 1) c =
      (P.popped b now x { c i with chlist := xs, cnt := xs.length }).map fun t =>
        .chosen x (update c i t) := by
  rw [selectChnl, pop_cons h hcnt]

lemma selectChnl_nil (h : (c i).chlist = []) :
    selectChnl P b i now (fuel + 1) c =
      if 0 < (c i).rpt then
        let c := P.updateChlist (bandIdx b) (c i).isCck c
        selectChnl P b i now fuel (update c i
          { c i with chIdx := 0, rpt := if (c i).rpt = 255 then 255 else (c i).rpt - 1 })
      else some (.ended c) := by
  rw [selectChnl, pop_nil h]

lemma selectChnl_ended (h : (c i).chlist = []) (hrpt : (c i).rpt = 0) :
    selectChnl P b i now (fuel + 1) c = some (.ended c) := by
  rw [selectChnl_nil h]
  simp [hrpt]

lemma selectChnl_again (now fuel : ℕ) (ha : P.Aligned) (hi : P.sctrlIdx b = some i)
    (hempty : (c i).chlist = []) (hcnt : (c i).cnt = 0)
    (hidle : P.twoBands = false → ∀ j, (c j).chlist = [])
    (hcck : (c i).isCck = decide (P.cckPhy = b)) (hrpt : (c i).rpt ≠ 0) :
    selectChnl P b i now (fuel + 1) c =
      selectChnl P b i now fuel (update c i
        { c i with
          chlist := P.listed b
          cnt := (P.listed b).length
          chIdx := 0
          rpt := if (c i).rpt = 255 then 255 else (c i).rpt - 1 }) := by
  rw [selectChnl_nil hempty, if_pos (by omega), updateChlist_aligned ha hi hempty hcnt hidle hcck]
  simp

section

variable (hne : bandIdx b ≠ i) (htwo : P.twoBands = true)
include hne htwo

lemma updateChlist_other (cck : Bool) :
    P.updateChlist (bandIdx b) cck c i = c i := by
  simp [updateChlist, htwo, hne.symm]

lemma selectChnl_other
    (hempty : (c i).chlist = []) (p : Pick) (h : selectChnl P b i now fuel c = some p) :
    ∃ c', p = .ended c' := by
  induction fuel generalizing c with
  | zero => contradiction
  | succ fuel ih =>
    rw [selectChnl_nil hempty] at h
    by_cases hrpt : 0 < (c i).rpt
    · rw [if_pos hrpt] at h
      refine ih ?_ h
      simp [updateChlist_other hne htwo, hempty]
    · rw [if_neg hrpt] at h
      exact ⟨c, (Option.some.inj h).symm⟩

/-- A scan that starts on the second band and is repeated for ever gets no channel and does not
return once its list is empty: the list that is filled again is the other one. -/
theorem selectChnl_stuck
    (hempty : (c i).chlist = []) (hrpt : (c i).rpt = 255) :
    selectChnl P b i now fuel c = none := by
  induction fuel generalizing c with
  | zero => rfl
  | succ fuel ih =>
    rw [selectChnl_nil hempty, if_pos (by omega)]
    refine ih ?_ ?_
    · simp [updateChlist_other hne htwo, hempty]
    · simp [updateChlist_other hne htwo, hrpt]

end

theorem selectChnl_stuck_band1 :
    selectChnl ⟨[], 255, .none, 0, 0, .band1, true, .band0, fun _ => [], le_rfl⟩ .band1 0 7 9
      (fun _ => { rpt := 255 }) = none :=
  selectChnl_stuck (by decide) rfl rfl rfl

/-! ### The calls for a band -/

def actual (P : Param) (b : HwBand) : ℕ → List Node
  | 0 => []
  | R + 1 => actual P b R ++ drain P b (if R = 0 then -1 else 0) (P.listed b)

structure Standing (P : Param) (b : HwBand) (i : Fin 2) (s : State) (R : ℕ) : Prop where
  pos : 1 ≤ R
  rpt : P.rpt ≠ 255 → (s.ctl i).rpt + R = P.rpt + 1
  forever : P.rpt = 255 → (s.ctl i).rpt = 255
  seq : s.picked b ++ drain P b (s.ctl i).chIdx (s.ctl i).chlist = actual P b R
  cnt : (s.ctl i).cnt = (s.ctl i).chlist.length
  isCck : (s.ctl i).isCck = decide (P.cckPhy = b)
  safe : ∀ x ∈ s.picked b, x.scanMode = .normal → P.ops b ≠ [] → P.chIntv ≠ 0
  ended : s.ended b = true → (s.ctl i).rpt = 0 ∧ (s.ctl i).chlist = []

lemma ops_scanMode (hx : x ∈ P.ops b) : x.scanMode = .backOp := by
  unfold Param.ops at hx
  split at hx
  · contradiction
  · obtain ⟨k, -, rfl⟩ := List.mem_map.1 hx
    rfl

lemma drain_ops {os : List Node} (hos : ∀ x ∈ os, x.scanMode = .backOp) (idx : ℤ) :
    drain P b idx (os ++ xs) = os ++ drain P b idx xs := by
  induction os with
  | nil => rfl
  | cons x os ih =>
    have hx := hos x mem_cons_self
    have hturn : turn P x idx = false := by
      rw [turn, decide_eq_false]
      rintro ⟨hn, -⟩
      rw [hx] at hn
      contradiction
    have hidx : nextIdx x idx = idx := by simp [nextIdx, Node.counts, hx]
    rw [cons_append, drain, hturn, hidx, ih fun y hy => hos y (mem_cons_of_mem _ hy)]
    rfl

lemma Popped.drain_eq (h : Popped P b x t t') :
    drain P b t.chIdx (x :: t.chlist) = x :: drain P b t'.chIdx t'.chlist := by
  rw [drain, h.chIdx, h.chlist]
  congr 1
  split
  · rw [drain_ops]
    intro y hy
    exact ops_scanMode (mem_reverse.1 hy)
  · rfl

variable {R : ℕ} {s' : State} {α : Type*} (N : ℕ)

lemma Standing.chosen (h : Standing P b i s R) (hxs : (s.ctl i).chlist = x :: xs)
    (hpop : Popped P b x { s.ctl i with chlist := xs, cnt := xs.length } t) :
    Standing P b i
      { s with
        ctl := update s.ctl i t
        picked := update s.picked b (s.picked b ++ [x]) } R where
  pos := h.pos
  rpt := fun hr => by simpa [hpop.rpt] using h.rpt hr
  forever := fun hr => by simpa [hpop.rpt] using h.forever hr
  seq := by
    have hd := hpop.drain_eq
    dsimp only at hd
    have hseq := h.seq
    rw [hxs, hd] at hseq
    simpa using hseq
  cnt := by simpa using hpop.cnt rfl
  isCck := by simpa [hpop.isCck] using h.isCck
  safe := by
    intro y hy hn hops
    simp only [update_self, mem_append, mem_singleton] at hy
    rcases hy with hy | rfl
    · exact h.safe y hy hn hops
    · exact hpop.safe hn hops
  ended := by
    intro he
    rw [(h.ended he).2] at hxs
    contradiction

lemma Standing.again (h : Standing P b i s R) (hempty : (s.ctl i).chlist = [])
    (hrpt : (s.ctl i).rpt ≠ 0) :
    Standing P b i
      { s with ctl := update s.ctl i { s.ctl i with
          chlist := P.listed b
          cnt := (P.listed b).length
          chIdx := 0
          rpt := if (s.ctl i).rpt = 255 then 255 else (s.ctl i).rpt - 1 } } (R + 1) where
  pos := by omega
  rpt := by
    intro hr
    have hsum := h.rpt hr
    have hpos := h.pos
    have hle := P.rpt_le
    simp only [update_self]
    split
    · omega
    · omega
  forever := fun hr => by simp [h.forever hr]
  seq := by
    have hseq := h.seq
    rw [hempty, drain, append_nil] at hseq
    have hpos := h.pos
    simp [actual, hseq, show R ≠ 0 by omega]
  cnt := by simp
  isCck := by simpa using h.isCck
  safe := h.safe
  ended := fun he => absurd (h.ended he).1 hrpt

lemma mem_drain {idx : ℤ} (h : x ∈ drain P b idx xs) : x ∈ xs ∨ x ∈ P.ops b := by
  induction xs generalizing idx with
  | nil => exact .inl h
  | cons y xs ih =>
    rw [drain, mem_cons, mem_append] at h
    rcases h with rfl | h | h
    · exact .inl mem_cons_self
    · split at h
      · exact .inr (mem_reverse.1 h)
      · contradiction
    · exact (ih h).imp (mem_cons_of_mem _) id

lemma mem_actual (h : x ∈ actual P b R) : x ∈ P.listed b ∨ x ∈ P.ops b := by
  induction R with
  | zero => contradiction
  | succ R ih => exact (mem_append.1 h).elim ih mem_drain

def Uncountable (P : Param) (b : HwBand) : Prop :=
  P.ops b ≠ [] ∧ P.chIntv = 0 ∧ ∃ x ∈ P.listed b, x.scanMode = .normal

lemma uncountable_of_popped (hmode : P.mode ≠ .timer) (h : P.popped b now x t = none)
    (hx : x ∈ P.listed b ∨ x ∈ P.ops b) : Uncountable P b := by
  by_contra hc
  have hsafe : x.scanMode = .normal → P.ops b ≠ [] → P.chIntv ≠ 0 := by
    intro hn hops hz
    refine hc ⟨hops, hz, x, ?_, hn⟩
    rcases hx with hx | hx
    · exact hx
    · rw [ops_scanMode hx] at hn
      contradiction
  obtain ⟨t', ht'⟩ := @popped_isSome P b now t x hmode hsafe
  rw [h] at ht'
  contradiction

lemma Standing.mem (h : Standing P b i s R) (hxs : (s.ctl i).chlist = x :: xs) :
    x ∈ P.listed b ∨ x ∈ P.ops b := by
  refine mem_actual (R := R) ?_
  rw [← h.seq, hxs, drain]
  simp

inductive Called (P : Param) (b : HwBand) (i : Fin 2) (s s' : State) : Prop
  | failed (h : s' = { s with failed := true }) (hc : Uncountable P b)
  | chosen (x : Node) (t : Sctrl) (R : ℕ)
      (h : s' = { s with
        ctl := update s.ctl i t
        picked := update s.picked b (s.picked b ++ [x]) })
      (hstand : Standing P b i s' R)
  | ended (h : s' = { s with ended := update s.ended b true })
      (hend : (s.ctl i).rpt = 0 ∧ (s.ctl i).chlist = [])

lemma step_eq (hi : P.sctrlIdx b = some i) {r : Option Pick}
    (hr : selectChnl P b i now ((s.ctl i).rpt + 2) s.ctl = r) :
    step P s (b, now) = s.after b r := by
  subst hr
  simp [step, hi]

lemma step_called_cons (now : ℕ) {R : ℕ} (hmode : P.mode ≠ .timer) (hi : P.sctrlIdx b = some i)
    (h : Standing P b i s R) (hlist : (s.ctl i).chlist = x :: xs) :
    Uncountable P b ∧ step P s (b, now) = { s with failed := true } ∨
      ∃ t, step P s (b, now) = { s with
          ctl := update s.ctl i t
          picked := update s.picked b (s.picked b ++ [x]) } ∧
        Standing P b i (step P s (b, now)) R := by
  have hsel := selectChnl_cons (P := P) b now ((s.ctl i).rpt + 1) hlist h.cnt
  cases hpop : P.popped b now x { s.ctl i with chlist := xs, cnt := xs.length } with
  | none =>
    rw [hpop] at hsel
    exact .inl ⟨uncountable_of_popped hmode hpop (h.mem hlist), step_eq hi hsel⟩
  | some t =>
    rw [hpop] at hsel
    have hresult := step_eq hi hsel
    refine .inr ⟨t, hresult, ?_⟩
    rw [hresult]
    exact h.chosen hlist (popped_spec hmode hpop)

lemma step_called (now : ℕ) {R : ℕ} (hmode : P.mode ≠ .timer) (hi : P.sctrlIdx b = some i)
    (ha : P.Aligned ∨ (s.ctl i).rpt = 0) (hne : P.listed b ≠ []) (h : Standing P b i s R)
    (hidle : P.twoBands = false → ∀ j, j ≠ 0 → (s.ctl j).chlist = []) :
    Called P b i s (step P s (b, now)) := by
  cases hlist : (s.ctl i).chlist with
  | cons x xs =>
    rcases step_called_cons now hmode hi h hlist with ⟨hc, hs⟩ | ⟨t, hs, hstand⟩
    · exact .failed hs hc
    · exact .chosen x t R hs hstand
  | nil =>
    by_cases hrpt : (s.ctl i).rpt = 0
    · exact .ended (step_eq hi (selectChnl_ended hlist hrpt)) ⟨hrpt, hlist⟩
    · have hcnt : (s.ctl i).cnt = 0 := by rw [h.cnt, hlist, length_nil]
      have hall : P.twoBands = false → ∀ j, (s.ctl j).chlist = [] := by
        intro htwo j
        by_cases hj : j = 0
        · rw [hj, ← sctrlIdx_eq_zero htwo hi]
          exact hlist
        · exact hidle htwo j hj
      have hagain := selectChnl_again now ((s.ctl i).rpt + 1)
        (ha.resolve_right hrpt) hi hlist hcnt hall h.isCck hrpt
      obtain ⟨x, xs, hx⟩ := exists_cons_of_ne_nil hne
      have hnext := h.again hlist hrpt
      generalize hfull : update s.ctl i { s.ctl i with
          chlist := P.listed b
          cnt := (P.listed b).length
          chIdx := 0
          rpt := if (s.ctl i).rpt = 255 then 255 else (s.ctl i).rpt - 1 } = c at hagain hnext
      have hlist' : (c i).chlist = x :: xs := by simp [← hfull, hx]
      have hsel := selectChnl_cons (P := P) b now (s.ctl i).rpt hlist' hnext.cnt
      rw [← hagain] at hsel
      cases hpop : P.popped b now x { c i with chlist := xs, cnt := xs.length } with
      | none =>
        rw [hpop] at hsel
        exact .failed (step_eq hi hsel) (uncountable_of_popped hmode hpop (hnext.mem hlist'))
      | some t =>
        rw [hpop] at hsel
        have hresult := step_eq hi hsel
        have hchosen := hnext.chosen hlist' (popped_spec hmode hpop)
        simp only [State.after, Option.map_some, ← hfull, update_idem] at hresult
        refine .chosen x t (R + 1) hresult ?_
        rw [hresult]
        simpa [← hfull] using hchosen

/-! ### Both bands -/

structure Inv (P : Param) (s : State) : Prop where
  stand : ∀ b i, P.sctrlIdx b = some i → P.listed b ≠ [] → ∃ R, Standing P b i s R
  cnt : ∀ i, (s.ctl i).cnt = (s.ctl i).chlist.length
  idle : P.twoBands = false → ∀ j, j ≠ 0 → (s.ctl j).chlist = []

lemma sctrlIdx_inj (hi : P.sctrlIdx b = some i) (hj : P.sctrlIdx b' = some j) (hb : b' ≠ b) :
    j ≠ i := by
  unfold sctrlIdx at hi hj
  split_ifs at hi hj with h1 h2 h3
  · exact absurd (h2.trans h1.symm) hb
  · obtain rfl := Option.some.inj hi
    obtain rfl := Option.some.inj hj
    decide
  · obtain rfl := Option.some.inj hi
    obtain rfl := Option.some.inj hj
    decide
  · cases hf : P.first <;> cases b <;> cases b' <;> simp_all

lemma Standing.congr (h : Standing P b i s R) (hctl : s'.ctl i = s.ctl i)
    (hpicked : s'.picked b = s.picked b) (hended : s'.ended b = s.ended b) :
    Standing P b i s' R where
  pos := h.pos
  rpt := hctl ▸ h.rpt
  forever := hctl ▸ h.forever
  seq := by rw [hctl, hpicked, h.seq]
  cnt := hctl ▸ h.cnt
  isCck := hctl ▸ h.isCck
  safe := hpicked ▸ h.safe
  ended := by
    rw [hctl, hended]
    exact h.ended

lemma Called.inv (h : Inv P s) (hi : P.sctrlIdx b = some i)
    (hcall : Called P b i s s') (hok : s'.failed = false) : Inv P s' := by
  cases hcall with
  | failed hs =>
    rw [hs] at hok
    contradiction
  | chosen x t R hs hstand =>
    refine ⟨fun b' j hj hne => ?_, fun j => ?_, fun htwo j hj => ?_⟩
    · by_cases hb : b' = b
      · subst hb
        obtain rfl := Option.some.inj (hi.symm.trans hj)
        exact ⟨R, hstand⟩
      · obtain ⟨R', hR'⟩ := h.stand b' j hj hne
        refine ⟨R', hR'.congr ?_ ?_ ?_⟩
        · rw [hs]
          exact update_of_ne (sctrlIdx_inj hi hj hb) _ _
        · rw [hs]
          exact update_of_ne hb _ _
        · rw [hs]
    · by_cases hji : j = i
      · exact hji ▸ hstand.cnt
      · rw [hs]
        simpa [hji] using h.cnt j
    · rw [hs]
      have hji : j ≠ i := fun hji => hj (hji.trans (sctrlIdx_eq_zero htwo hi))
      simpa [hji] using h.idle htwo j hj
  | ended hs hend =>
    subst hs
    refine ⟨fun b' j hj hne => ?_, h.cnt, h.idle⟩
    obtain ⟨R, hR⟩ := h.stand b' j hj hne
    by_cases hb : b' = b
    · subst hb
      obtain rfl := Option.some.inj (hi.symm.trans hj)
      exact ⟨R, ⟨hR.pos, hR.rpt, hR.forever, hR.seq, hR.cnt, hR.isCck, hR.safe, fun _ => hend⟩⟩
    · exact ⟨R, hR.congr rfl rfl (update_of_ne hb _ _)⟩

lemma sctrlIdx_bandOf (htwo : P.twoBands = true) (i : Fin 2) :
    P.sctrlIdx (P.bandOf i) = some i := by
  cases hf : P.first <;> fin_cases i <;> simp [sctrlIdx, bandOf, hf, htwo]

lemma bandOf_of_sctrlIdx (hi : P.sctrlIdx b = some i) : P.bandOf i = b := by
  unfold sctrlIdx at hi
  split_ifs at hi with hb htwo
  · obtain rfl := Option.some.inj hi
    simp [bandOf, hb]
  · obtain rfl := Option.some.inj hi
    cases hf : P.first <;> cases b <;> simp_all [bandOf]

def filled (P : Param) (b : HwBand) : Sctrl where
  chlist := P.listed b
  cnt := (P.listed b).length
  rpt := P.rpt
  isCck := decide (P.cckPhy = b)

lemma init_ctl (hi : P.sctrlIdx b = some i) : (init P).ctl i = filled P b := by
  have hb := bandOf_of_sctrlIdx hi
  cases htwo : P.twoBands with
  | true =>
    fin_cases i
    · have hb' : P.bandOf 0 = b := hb
      simp [init, htwo, updateChlist, foldl_push, filled, listed, hb',
        Sctrl.initListHead]
    · have hb' : P.bandOf 1 = b := hb
      simp [init, htwo, updateChlist, foldl_push, filled, listed, hb',
        Sctrl.initListHead]
  | false =>
    obtain rfl := sctrlIdx_eq_zero htwo hi
    simp [init, htwo, updateChlist, foldl_push, filled, listed, hb,
      Sctrl.initListHead]

lemma init_idle (htwo : P.twoBands = false) (hj : j ≠ 0) :
    (init P).ctl j = { rpt := P.rpt } := by
  simp [init, htwo, updateChlist, hj]

lemma standing_init (hi : P.sctrlIdx b = some i) : Standing P b i (init P) 1 where
  pos := le_refl 1
  rpt := fun hr => by rw [init_ctl hi]; rfl
  forever := fun hr => by rw [init_ctl hi]; exact hr
  seq := by rw [init_ctl hi]; rfl
  cnt := by rw [init_ctl hi]; rfl
  isCck := by rw [init_ctl hi]; rfl
  safe := fun x hx => by contradiction
  ended := fun he => by contradiction

lemma inv_init : Inv P (init P) where
  stand := fun _ _ hi _ => ⟨1, standing_init hi⟩
  cnt := by
    intro i
    cases htwo : P.twoBands with
    | true => rw [init_ctl (sctrlIdx_bandOf htwo i), filled]
    | false =>
      by_cases hi : i = 0
      · rw [hi, init_ctl (b := P.first) (by simp [sctrlIdx]), filled]
      · rw [init_idle htwo hi]
        rfl
  idle := by
    intro htwo j hj
    rw [init_idle htwo hj]

/-! ### The promise -/

/-- The list repeated, with the operating channels behind each `chIntv` channels. -/
def expected (P : Param) (b : HwBand) (N : ℕ) : List Node :=
  weave (fun p => decide (P.chIntv ∣ p + 1)) (P.ops b) (replicate N (P.listed b)).flatten

/-- What is promised of a scan in a state: the calls return; the lists have the length that is
counted; and what was chosen for a band is a beginning of the promised sequence, and all of it
if the scan has ended. -/
structure Right (P : Param) (s : State) : Prop where
  returned : s.failed = false
  cnt : ∀ i, (s.ctl i).cnt = (s.ctl i).chlist.length
  seq : ∀ b, Submitted P b → ∃ N, (P.rpt ≠ 255 → N = P.rpt + 1) ∧ s.picked b <+: expected P b N
  ended : ∀ b, Submitted P b → s.ended b = true →
    P.rpt ≠ 255 ∧ s.picked b = expected P b (P.rpt + 1)

def Partitioned (P : Param) : Prop :=
  P.twoBands = true →
    (((init P).ctl 0).chlist ++ ((init P).ctl 1).chlist).Perm P.nodes ∧
      ∀ b i k c, P.sctrlIdx b = some i → .ch k c ∈ ((init P).ctl i).chlist →
        (c.band = .on24G ↔ P.cckPhy = b)

def Promised (P : Param) : Prop :=
  Partitioned P ∧ ∀ es, Guarded (step P) (Legal P) (init P) es → Right P (run (step P) (init P) es)

lemma partitioned (P : Param) : Partitioned P := by
  intro htwo
  have hch : ∀ x ∈ P.nodes, ∃ k c, x = .ch k c := by
    intro x hx
    obtain ⟨c, -, rfl⟩ := List.mem_map.1 hx
    exact ⟨c.2, c.1, rfl⟩
  have hkeeps : ∀ (b : HwBand) k c, keeps (P.cckPhy = b) (.ch k c) = true →
      (c.band = .on24G ↔ P.cckPhy = b) := by
    intro b k c hk
    have hmax := c.band_ne
    cases hb : c.band <;> by_cases hcck : P.cckPhy = b <;> simp_all [keeps]
  constructor
  · rw [init_ctl (sctrlIdx_bandOf htwo 0), init_ctl (sctrlIdx_bandOf htwo 1)]
    simp only [filled, listed, htwo, if_true]
    have hnot : ∀ x ∈ P.nodes, keeps (P.cckPhy = P.bandOf 1) x =
        !keeps (P.cckPhy = P.bandOf 0) x := by
      intro x hx
      obtain ⟨k, c, rfl⟩ := hch x hx
      have hmax := c.band_ne
      cases hf : P.first <;> cases hc : P.cckPhy <;> cases hb : c.band <;>
        simp_all [keeps, bandOf]
    rw [filter_congr hnot]
    exact filter_append_perm _ _
  · intro b i k c hi hmem
    rw [init_ctl hi] at hmem
    simp only [filled, listed, htwo, if_true, mem_filter] at hmem
    exact hkeeps b k c hmem.2

/-! ### When the sequences agree -/

lemma listed_isOp (hx : x ∈ P.listed b) : x.isOp = false := by
  have hnodes : x ∈ P.nodes := by
    unfold listed at hx
    split at hx
    · exact (mem_filter.1 hx).1
    · exact hx
  obtain ⟨c, -, rfl⟩ := List.mem_map.1 hnodes
  rfl

lemma ops_isOp (hx : x ∈ P.ops b) : x.isOp = true := by
  unfold Param.ops at hx
  split at hx
  · contradiction
  · obtain ⟨k, -, rfl⟩ := List.mem_map.1 hx
    rfl

lemma rounds_isOp {N : ℕ} (hx : x ∈ (replicate N (P.listed b)).flatten) :
    x.isOp = false := by
  obtain ⟨l, hl, hx⟩ := mem_flatten.1 hx
  rw [eq_of_mem_replicate hl] at hx
  exact listed_isOp hx

/-- Whether the operating channels are put behind a channel of the list in a repetition: what
is counted are the channels up to it that are scanned or listened on, and one more in each
repetition. -/
def due (P : Param) (b : HwBand) (r j : ℕ) : Bool :=
  match (P.listed b)[j]? with
  | some x =>
    decide (x.scanMode = .normal ∧
      P.chIntv ∣ ((P.listed b).take (j + 1)).countP Node.counts + if r = 0 then 0 else 1)
  | none => false

def Ok (P : Param) (b : HwBand) : Prop :=
  (P.twoBands = true → P.first = .band0 ∨ P.rpt = 0) ∧
    (P.ops b = [] ∨
      (P.chIntv ≠ 0 ∨ ∀ x ∈ P.listed b, x.scanMode ≠ .normal) ∧
        ∀ r j, (P.rpt ≠ 255 → r ≤ P.rpt) → j < (P.listed b).length →
          (due P b r j = true ↔ P.chIntv ∣ r * (P.listed b).length + j + 1) ∧
            (due P b r j = true → (P.ops b).length ≤ 1))

lemma drain_eq_weave (idx : ℤ) (xs : List Node) :
    drain P b idx xs = weave
      (fun j => match xs[j]? with
        | some x => decide (x.scanMode = .normal ∧
            (idx + (xs.take (j + 1)).countP Node.counts + 1) % (P.chIntv : ℤ) = 0)
        | none => false)
      (P.ops b).reverse xs := by
  induction xs generalizing idx with
  | nil => rfl
  | cons x xs ih =>
    rw [drain, weave, ih]
    congr 2
    · congr 1
      simp only [getElem?_cons_zero, turn]
      by_cases hn : x.scanMode = .normal
      · have hcount : x.counts = true := by simp [Node.counts, hn]
        simp [hn, hcount, show idx + 1 + 1 = idx + 2 by omega]
      · simp [hn]
    · congr 1
      funext j
      simp only [getElem?_cons_succ, take_succ_cons]
      cases xs[j]? with
      | none => rfl
      | some y =>
        dsimp only
        congr 3
        cases hc : x.counts with
        | true =>
          have hsucc : (x :: xs.take (j + 1)).countP Node.counts =
              (xs.take (j + 1)).countP Node.counts + 1 := by simp [hc]
          have hsum : idx + 1 + (xs.take (j + 1)).countP Node.counts + 1 =
              idx + ((xs.take (j + 1)).countP Node.counts + 1 : ℕ) + 1 := by omega
          rw [hsucc, nextIdx, if_pos hc, hsum]
        | false =>
          have hsame : (x :: xs.take (j + 1)).countP Node.counts =
              (xs.take (j + 1)).countP Node.counts := by simp [hc]
          rw [hsame, nextIdx, hc]
          simp

lemma drain_listed (r : ℕ) :
    drain P b (if r = 0 then -1 else 0) (P.listed b) =
      weave (due P b r) (P.ops b).reverse (P.listed b) := by
  rw [drain_eq_weave]
  congr 1
  funext j
  unfold due
  cases (P.listed b)[j]? with
  | none => rfl
  | some x =>
    dsimp only
    congr 2
    rw [eq_iff_iff, ← Int.dvd_iff_emod_eq_zero]
    by_cases hr : r = 0
    · rw [if_pos hr, if_pos hr]
      have hsum : (-1 : ℤ) + ((P.listed b).take (j + 1)).countP Node.counts + 1 =
          (((P.listed b).take (j + 1)).countP Node.counts + 0 : ℕ) := by omega
      rw [hsum, Int.natCast_dvd_natCast]
    · rw [if_neg hr, if_neg hr]
      have hsum : (0 : ℤ) + ((P.listed b).take (j + 1)).countP Node.counts + 1 =
          (((P.listed b).take (j + 1)).countP Node.counts + 1 : ℕ) := by omega
      rw [hsum, Int.natCast_dvd_natCast]

lemma length_flatten_replicate (xs : List α) :
    (replicate N xs).flatten.length = N * xs.length := by
  simp [length_flatten]

lemma actual_eq_weave (hne : P.listed b ≠ []) (R : ℕ) :
    actual P b R =
      weave (fun p => due P b (p / (P.listed b).length) (p % (P.listed b).length))
        (P.ops b).reverse (replicate R (P.listed b)).flatten := by
  induction R with
  | zero => rfl
  | succ R ih =>
    have hpos : 0 < (P.listed b).length := length_pos_of_ne_nil hne
    rw [actual, ih, drain_listed, replicate_succ', flatten_append, weave_append,
      length_flatten_replicate]
    simp only [flatten_cons, flatten_nil, append_nil]
    congr 1
    refine weave_congr fun j hj => ?_
    rw [Nat.mul_comm R, Nat.mul_add_div hpos, Nat.mul_add_mod, Nat.div_eq_of_lt hj,
      Nat.mod_eq_of_lt hj, Nat.add_zero]

lemma actual_mono {R R' : ℕ} (h : R ≤ R') : actual P b R <+: actual P b R' := by
  induction R', h using Nat.le_induction with
  | base => exact prefix_refl _
  | succ R' _ ih => exact ih.trans (prefix_append _ _)

lemma expected_mono {N N' : ℕ} (h : N ≤ N') : expected P b N <+: expected P b N' := by
  obtain ⟨k, rfl⟩ := Nat.exists_eq_add_of_le h
  rw [expected, expected, replicate_add, flatten_append, weave_append]
  exact prefix_append _ _

lemma reverse_ops_eq_iff : (P.ops b).reverse = P.ops b ↔ (P.ops b).length ≤ 1 := by
  constructor
  · intro h
    unfold Param.ops at h ⊢
    split at h
    · next hm => simp [hm]
    · next hm =>
        rw [if_neg hm, length_map, length_range]
        by_contra hlong
        have hget := congrArg (fun l => l[0]?) h
        simp [show 0 < (P.backOpCh b).length by omega] at hget
        omega
  · intro h
    match hops : P.ops b with
    | [] => rfl
    | [x] => rfl
    | x :: y :: l => simp [hops] at h

lemma inserted_eq_iff (hops : P.ops b ≠ []) (d : Bool) (m : ℕ) :
    ((if d then (P.ops b).reverse else []) = if decide (P.chIntv ∣ m) then P.ops b else []) ↔
      (d = true ↔ P.chIntv ∣ m) ∧ (d = true → (P.ops b).length ≤ 1) := by
  cases d with
  | true =>
    by_cases hm : P.chIntv ∣ m
    · simp [hm, reverse_ops_eq_iff]
    · simp [hm, hops]
  | false =>
    by_cases hm : P.chIntv ∣ m
    · simp [hm, Ne.symm hops]
    · simp [hm]

lemma actual_eq_expected (hne : P.listed b ≠ []) (hok : Ok P b) {R : ℕ}
    (hR : P.rpt ≠ 255 → R ≤ P.rpt + 1) : actual P b R = expected P b R := by
  rw [actual_eq_weave hne, expected]
  refine weave_congr fun p hp => ?_
  rcases hok.2 with hops | ⟨-, hdue⟩
  · simp [hops]
  · by_cases hops : P.ops b = []
    · simp [hops]
    have hpos : 0 < (P.listed b).length := length_pos_of_ne_nil hne
    rw [length_flatten_replicate] at hp
    have hr : p / (P.listed b).length < R := Nat.div_lt_of_lt_mul (by rwa [Nat.mul_comm])
    have h := hdue (p / (P.listed b).length) (p % (P.listed b).length)
      (fun h255 => by have := hR h255; omega) (Nat.mod_lt _ hpos)
    rw [Nat.div_add_mod'] at h
    exact (inserted_eq_iff hops _ _).2 h

lemma right_of_inv (hinv : Inv P s) (hok : ∀ b, Submitted P b → Ok P b)
    (hret : s.failed = false) : Right P s where
  returned := hret
  cnt := hinv.cnt
  seq := by
    intro b hb
    obtain ⟨i, hi⟩ := Option.isSome_iff_exists.1 hb.1
    obtain ⟨R, hR⟩ := hinv.stand b i hi hb.2
    have hle : P.rpt ≠ 255 → R ≤ P.rpt + 1 := fun h => by have := hR.rpt h; omega
    have hpre : s.picked b <+: expected P b R := by
      rw [← actual_eq_expected hb.2 (hok b hb) hle, ← hR.seq]
      exact prefix_append _ _
    by_cases h255 : P.rpt = 255
    · exact ⟨R, fun hne => absurd h255 hne, hpre⟩
    · exact ⟨P.rpt + 1, fun _ => rfl, hpre.trans (expected_mono (hle h255))⟩
  ended := by
    intro b hb hend
    obtain ⟨i, hi⟩ := Option.isSome_iff_exists.1 hb.1
    obtain ⟨R, hR⟩ := hinv.stand b i hi hb.2
    obtain ⟨hzero, hnil⟩ := hR.ended hend
    have h255 : P.rpt ≠ 255 := by
      intro h
      have := hR.forever h
      omega
    have hRn : R = P.rpt + 1 := by
      have := hR.rpt h255
      omega
    refine ⟨h255, ?_⟩
    have hseq := hR.seq
    rw [hnil, drain, append_nil] at hseq
    rw [hseq, hRn]
    exact actual_eq_expected hb.2 (hok b hb) fun _ => le_refl _

lemma aligned_or (hok : Ok P b) : P.Aligned ∨ P.rpt = 0 := by
  by_cases hr : P.rpt = 0
  · exact .inr hr
  · exact .inl fun htwo => (hok.1 htwo).resolve_right hr

lemma Standing.aligned_or (h : Standing P b i s R) (ha : P.Aligned ∨ P.rpt = 0) :
    P.Aligned ∨ (s.ctl i).rpt = 0 := by
  refine ha.imp id fun hr => ?_
  have hsum := h.rpt (by omega)
  have hpos := h.pos
  omega

lemma promised_of_ok (hmode : P.mode ≠ .timer) (hok : ∀ b, Submitted P b → Ok P b) :
    Promised P := by
  refine ⟨partitioned P, fun es hes => ?_⟩
  have hinv := @Guarded.invariant _ _ _ _ (fun s => Inv P s ∧ s.failed = false) ?_ _ _
    ⟨inv_init, ?_⟩ hes
  · exact right_of_inv hinv.1 hok hinv.2
  · rintro s ⟨b, now⟩ ⟨hinv, hret⟩ hb
    obtain ⟨i, hi⟩ := Option.isSome_iff_exists.1 hb.1
    obtain ⟨R, hR⟩ := hinv.stand b i hi hb.2
    have hcall := step_called now hmode hi (hR.aligned_or (aligned_or (hok b hb))) hb.2 hR
      hinv.idle
    have hgoes : (step P s (b, now)).failed = false := by
      cases hcall with
      | failed hs hc =>
        obtain ⟨hops, hz, x, hx, hn⟩ := hc
        rcases (hok b hb).2 with h | ⟨hint, -⟩
        · exact absurd h hops
        · rcases hint with h | h
          · exact absurd hz h
          · exact absurd hn (h x hx)
      | chosen x t R hs _ =>
        rw [hs]
        exact hret
      | ended hs _ =>
        rw [hs]
        exact hret
    exact ⟨hcall.inv hinv hi hgoes, hgoes⟩
  · unfold init
    split <;> rfl

/-! ### Calls for one band only -/

def after (P : Param) (b : HwBand) (m : ℕ) : State :=
  run (step P) (init P) (replicate m (b, 0))

lemma after_succ (m : ℕ) : after P b (m + 1) = step P (after P b m) (b, 0) := by
  rw [after, replicate_succ', run_append]
  rfl

lemma right_after (h : Promised P) (hb : Submitted P b) (m : ℕ) : Right P (after P b m) := by
  refine h.2 _ ?_
  generalize init P = s
  induction m generalizing s with
  | zero => trivial
  | succ m ih => exact ⟨hb, ih _⟩

lemma first_round (hmode : P.mode ≠ .timer) (h : Promised P) (hb : Submitted P b)
    (hi : P.sctrlIdx b = some i) (m : ℕ) (hm : m ≤ (actual P b 1).length) :
    Standing P b i (after P b m) 1 ∧ ((after P b m).picked b).length = m := by
  induction m with
  | zero => exact ⟨standing_init hi, rfl⟩
  | succ m ih =>
    obtain ⟨hstand, hlen⟩ := ih (by omega)
    have hret := (right_after h hb (m + 1)).returned
    rw [after_succ] at hret ⊢
    cases hlist : ((after P b m).ctl i).chlist with
    | nil =>
      have hseq := hstand.seq
      rw [hlist, drain, append_nil] at hseq
      rw [hseq] at hlen
      omega
    | cons x xs =>
      rcases step_called_cons 0 hmode hi hstand hlist with ⟨-, hs⟩ | ⟨t, hs, hnext⟩
      · rw [hs] at hret
        contradiction
      · refine ⟨hnext, ?_⟩
        rw [hs]
        simp [hlen]

lemma filter_expected :
    (expected P b N).filter (fun x => !x.isOp) = (replicate N (P.listed b)).flatten :=
  filter_weave (fun _ => ops_isOp) fun _ => rounds_isOp

lemma chlist_eq_nil_of_picked (h : Standing P b i s R)
    (hlen : (s.picked b).length = (actual P b R).length) : (s.ctl i).chlist = [] := by
  cases hlist : (s.ctl i).chlist with
  | nil => rfl
  | cons x xs =>
    have hseq := congrArg length h.seq
    rw [hlist, drain, length_append, length_cons] at hseq
    omega

lemma aligned_of_promised (hmode : P.mode ≠ .timer) (h : Promised P) (hb : Submitted P b)
    (htwo : P.twoBands = true) : P.first = .band0 ∨ P.rpt = 0 := by
  by_contra hnot
  rw [not_or] at hnot
  obtain ⟨i, hi⟩ := Option.isSome_iff_exists.1 hb.1
  have hother : bandIdx b ≠ i := by
    have hfirst : P.first = .band1 := by
      cases hf : P.first
      · exact absurd hf hnot.1
      · rfl
    have hband := bandOf_of_sctrlIdx hi
    intro heq
    cases b <;> subst heq <;> simp [bandOf, bandIdx, hfirst] at hband
  obtain ⟨hstand, hlen⟩ := first_round hmode h hb hi _ (le_refl _)
  have hnil := chlist_eq_nil_of_picked hstand hlen
  have hseq := hstand.seq
  rw [hnil, drain, append_nil] at hseq
  have hright := right_after h hb ((actual P b 1).length + 1)
  rw [after_succ] at hright
  cases hsel : selectChnl P b i 0 (((after P b (actual P b 1).length).ctl i).rpt + 2)
      (after P b (actual P b 1).length).ctl with
  | none =>
    have hret := hright.returned
    rw [step_eq hi hsel] at hret
    contradiction
  | some pick =>
    obtain ⟨c', rfl⟩ := selectChnl_other hother htwo hnil pick hsel
    have hend := (hright.ended b hb (by rw [step_eq hi hsel]; simp [State.after])).2
    rw [step_eq hi hsel] at hend
    simp only [State.after] at hend
    rw [hseq] at hend
    -- one round of the list is not several
    have hcount := congrArg (fun l => (l.filter fun x => !x.isOp).length) hend
    have hone : (actual P b 1).filter (fun x => !x.isOp) = P.listed b := by
      rw [actual_eq_weave hb.2, filter_weave (fun o ho => ops_isOp (mem_reverse.1 ho))
        fun _ => rounds_isOp]
      simp
    rw [hone, filter_expected, length_flatten_replicate] at hcount
    have hpos : 0 < (P.listed b).length := length_pos_of_ne_nil hb.2
    have hrpt : 0 < P.rpt := Nat.pos_of_ne_zero hnot.2
    have hmul : (P.rpt + 1) * (P.listed b).length =
        P.rpt * (P.listed b).length + (P.listed b).length := Nat.succ_mul _ _
    have hmore : 0 < P.rpt * (P.listed b).length := Nat.mul_pos hrpt hpos
    omega

lemma after_standing (hmode : P.mode ≠ .timer) (h : Promised P) (hb : Submitted P b)
    (hi : P.sctrlIdx b = some i) (m : ℕ) :
    Inv P (after P b m) ∧ ((after P b m).picked b).length ≤ m ∧
      (((after P b m).picked b).length = m ∨ (after P b m).ended b = true) := by
  have ha : P.Aligned ∨ P.rpt = 0 := by
    by_cases hr : P.rpt = 0
    · exact .inr hr
    · exact .inl fun htwo => (aligned_of_promised hmode h hb htwo).resolve_right hr
  induction m with
  | zero => exact ⟨inv_init, le_refl 0, .inl rfl⟩
  | succ m ih =>
    obtain ⟨hinv, hle, hlen⟩ := ih
    obtain ⟨R, hR⟩ := hinv.stand b i hi hb.2
    have hcall := step_called 0 hmode hi (hR.aligned_or ha) hb.2 hR hinv.idle
    have hret := (right_after h hb (m + 1)).returned
    rw [after_succ] at hret ⊢
    refine ⟨hcall.inv hinv hi hret, ?_⟩
    cases hcall with
    | failed hs =>
      rw [hs] at hret
      contradiction
    | chosen x t R' hs hstand =>
      have hnew : ((step P (after P b m) (b, 0)).picked b).length =
          ((after P b m).picked b).length + 1 := by
        rw [hs]
        simp
      have hend : (step P (after P b m) (b, 0)).ended b = (after P b m).ended b := by rw [hs]
      rw [hnew, hend]
      exact ⟨by omega, hlen.imp (congrArg (· + 1)) id⟩
    | ended hs hend =>
      rw [hs]
      exact ⟨hle.trans (Nat.le_succ m), .inr (update_self _ _ _)⟩

lemma eq_of_prefix_of_length {xs ys : List α} (h : xs <+: ys)
    (hlen : ys.length ≤ xs.length) : xs = ys :=
  h.eq_of_length (le_antisymm h.length_le hlen)

section

variable (hmode : P.mode ≠ .timer) (h : Promised P) (hb : Submitted P b)
include hmode h hb

section

variable (hi : P.sctrlIdx b = some i)
include hi

lemma picked_rounds {R : ℕ} (hR : P.rpt ≠ 255 → R ≤ P.rpt + 1) :
    (after P b (actual P b R).length).picked b = actual P b R := by
  obtain ⟨hinv, hle, hlen⟩ := after_standing hmode h hb hi (actual P b R).length
  obtain ⟨R', hR'⟩ := hinv.stand b i hi hb.2
  have hpre : (after P b (actual P b R).length).picked b <+: actual P b R' := by
    rw [← hR'.seq]
    exact prefix_append _ _
  rcases hlen with hlen | hend
  · rcases Nat.le_total R R' with hRR | hRR
    · refine List.IsPrefix.eq_of_length ?_ hlen
      exact prefix_of_prefix_length_le hpre (actual_mono hRR) hlen.le
    · exact eq_of_prefix_of_length (hpre.trans (actual_mono hRR)) hlen.ge
  · obtain ⟨hzero, hnil⟩ := hR'.ended hend
    have h255 : P.rpt ≠ 255 := by
      intro h255
      have := hR'.forever h255
      omega
    have hsum := hR'.rpt h255
    have hseq := hR'.seq
    rw [hnil, drain, append_nil] at hseq
    rw [hseq] at hle ⊢
    have hRle := hR h255
    exact (eq_of_prefix_of_length (actual_mono (by omega)) hle).symm

lemma actual_eq_of_promised (h255 : P.rpt ≠ 255) :
    actual P b (P.rpt + 1) = expected P b (P.rpt + 1) := by
  obtain ⟨hinv, -, hlen⟩ := after_standing hmode h hb hi ((actual P b (P.rpt + 1)).length + 1)
  have hright := right_after h hb ((actual P b (P.rpt + 1)).length + 1)
  rcases hlen with hlen | hend
  · obtain ⟨R', hR'⟩ := hinv.stand b i hi hb.2
    have hsum := hR'.rpt h255
    have hseq := congrArg length hR'.seq
    have hmono := (actual_mono (P := P) (b := b) (show R' ≤ P.rpt + 1 by omega)).length_le
    rw [length_append] at hseq
    omega
  · have hexp := (hright.ended b hb hend).2
    rw [← hexp]
    obtain ⟨R', hR'⟩ := hinv.stand b i hi hb.2
    obtain ⟨hzero, hnil⟩ := hR'.ended hend
    have hseq := hR'.seq
    rw [hnil, drain, append_nil] at hseq
    have hsum := hR'.rpt h255
    rw [hseq, show R' = P.rpt + 1 by omega]

lemma inserted_of_promised {r : ℕ} (hr : P.rpt ≠ 255 → r ≤ P.rpt) :
    ∀ p < (r + 1) * (P.listed b).length,
      (if due P b (p / (P.listed b).length) (p % (P.listed b).length) then (P.ops b).reverse
        else []) = if decide (P.chIntv ∣ p + 1) then P.ops b else [] := by
  obtain ⟨x, xs, hx⟩ := exists_cons_of_ne_nil hb.2
  have hxop : x.isOp = false := listed_isOp (P := P) (b := b) (by simp [hx])
  have hrev : ∀ o ∈ (P.ops b).reverse, o.isOp = true :=
    fun o ho => ops_isOp (mem_reverse.1 ho)
  by_cases h255 : P.rpt = 255
  · have hpicked := picked_rounds hmode h hb hi (R := r + 2) fun hne => absurd h255 hne
    obtain ⟨N, -, hN⟩ := (right_after h hb (actual P b (r + 2)).length).seq b hb
    have hnext : actual P b (r + 2) = actual P b (r + 1) ++ drain P b 0 (P.listed b) := by
      simp [actual]
    rw [hpicked, hnext, actual_eq_weave hb.2, hx, drain, ← hx] at hN
    rw [← length_flatten_replicate]
    exact weave_prefix hrev (fun _ => ops_isOp) (fun _ => rounds_isOp) hxop
      (fun _ => rounds_isOp) hN
  · have heq := actual_eq_of_promised hmode h hb hi h255
    rw [actual_eq_weave hb.2] at heq
    have hlast : weave (fun p => due P b (p / (P.listed b).length) (p % (P.listed b).length))
        (P.ops b).reverse (replicate (P.rpt + 1) (P.listed b)).flatten ++ [x] <+:
        weave (fun p => decide (P.chIntv ∣ p + 1)) (P.ops b)
          ((replicate (P.rpt + 1) (P.listed b)).flatten ++ [x]) := by
      rw [heq, weave_append, expected, weave]
      exact (prefix_append_right_inj _).2 (cons_prefix_cons.2 ⟨rfl, nil_prefix⟩)
    have hall := weave_prefix hrev (fun _ => ops_isOp) (fun _ => rounds_isOp) hxop ?_ hlast
    · intro p hp
      refine hall p ?_
      rw [length_flatten_replicate]
      exact hp.trans_le (Nat.mul_le_mul_right _ (by have := hr h255; omega))
    · intro y hy
      rcases mem_append.1 hy with hy | hy
      · exact rounds_isOp hy
      · rw [mem_singleton.1 hy]
        exact hxop

end

lemma ok_of_promised :
    Ok P b := by
  obtain ⟨i, hi⟩ := Option.isSome_iff_exists.1 hb.1
  refine ⟨aligned_of_promised hmode h hb, ?_⟩
  by_cases hops : P.ops b = []
  · exact .inl hops
  refine .inr ⟨?_, ?_⟩
  · by_contra hnot
    push Not at hnot
    obtain ⟨hz, x, hx, hn⟩ := hnot
    obtain ⟨hinv, -⟩ := after_standing hmode h hb hi (actual P b 1).length
    obtain ⟨R, hR⟩ := hinv.stand b i hi hb.2
    have hpicked := picked_rounds hmode h hb hi (R := 1) fun _ => by omega
    refine hR.safe x ?_ hn hops hz
    rw [hpicked, actual_eq_weave hb.2]
    refine (mem_filter (p := fun x => !x.isOp)).1 ?_ |>.1
    rw [filter_weave (fun o ho => ops_isOp (mem_reverse.1 ho)) fun _ => rounds_isOp]
    simpa using hx
  · intro r j hr hj
    have hpos : 0 < (P.listed b).length := length_pos_of_ne_nil hb.2
    have hp : r * (P.listed b).length + j < (r + 1) * (P.listed b).length := by
      rw [Nat.succ_mul]
      omega
    have hins := inserted_of_promised hmode h hb hi hr _ hp
    rw [Nat.mul_comm r, Nat.mul_add_div hpos, Nat.mul_add_mod, Nat.div_eq_of_lt hj,
      Nat.mod_eq_of_lt hj, Nat.add_zero, ← Nat.mul_comm r] at hins
    exact (inserted_eq_iff hops _ _).1 hins

end

/-- The calls keep the promise exactly if the condition holds for each band that is scanned. -/
theorem select_chnl_promised_iff (P : Param) (hmode : P.mode ≠ .timer) :
    Promised P ↔ ∀ b, Submitted P b → Ok P b :=
  ⟨fun h _ hb => ok_of_promised hmode h hb, promised_of_ok hmode⟩

def eachChannel : Param where
  ch := [⟨.on24G, 1, .normal, by decide⟩, ⟨.on24G, 6, .normal, by decide⟩,
    ⟨.on24G, 11, .normal, by decide⟩]
  rpt := 1
  mode := .cnt
  chIntv := 1
  offChDur := 0
  first := .band0
  twoBands := false
  cckPhy := .band0
  backOpCh := fun _ => [36]
  rpt_le := by decide

theorem select_chnl_promised_each : eachChannel.mode ≠ .timer ∧ Promised eachChannel := by
  refine ⟨by decide, (select_chnl_promised_iff eachChannel (by decide)).mpr fun b _ => ?_⟩
  refine ⟨fun h => absurd h (by decide), .inr ⟨.inl (by decide), fun r j _ hj => ?_⟩⟩
  have hone : ∀ m, eachChannel.chIntv ∣ m := Nat.one_dvd
  refine ⟨⟨fun _ => hone _, fun _ => ?_⟩, fun _ => le_refl 1⟩
  have hlist : eachChannel.listed b = eachChannel.nodes := rfl
  have hnormal : ∀ x ∈ eachChannel.nodes, x.scanMode = .normal := by decide
  unfold due
  rw [hlist] at hj ⊢
  rw [getElem?_eq_getElem hj]
  exact decide_eq_true ⟨hnormal _ (getElem_mem hj), hone _⟩

def everySecond : Param :=
  { eachChannel with chIntv := 2, rpt := 0, backOpCh := fun _ => [36, 149], rpt_le := by decide }

theorem select_chnl_backwards :
    ((run (step everySecond) (init everySecond) (replicate 4 (.band0, 0))).picked .band0).map
        Node.isOp = [false, false, true, true] ∧
      ¬ Promised everySecond := by
  refine ⟨by decide, fun h => ?_⟩
  have hright := right_after h (b := .band0) ⟨rfl, by decide⟩ 6
  exact absurd (hright.ended .band0 ⟨rfl, by decide⟩ (by decide)).2 (by decide)

end Rtl8831.Phl.ScanSeq
