import Rtl8831.Phl.UsbTx

/-!
# What a pass of the TX handler sends

The locals of the loop are a function of the requests that it has passed.  In
terms of these the pass takes the longest run of requests from the front of the
ring that the limits admit, and it fails if the WD of one of them cannot be
built.
-/

namespace Rtl8831.Phl

open Function List

namespace UsbTx

section

variable (c : Cfg) (p : Plan) (entry : ℕ → Option XmitReq)

/-- The locals behind the first `j` requests. -/
def aggAt : ℕ → Agg
  | 0 => Agg.init
  | j + 1 =>
    match entry j with
    | none => aggAt j
    | some r => ((aggAt j).put (p.mark j r)).trasc c

/-- Where the request at `j` is written. -/
def copyAt (j : ℕ) : Copy :=
  match entry j with
  | none => ⟨j, 0, 0⟩
  | some r => ⟨j, ((aggAt c p entry j).place (p.mark j r)).txBufData, (p.mark j r).len⟩

def copies (n : ℕ) : List Copy := (range n).map (copyAt c p entry)

/-- The limits of the buffer and of the bus admit the request at `j`. -/
def Joins (j : ℕ) : Prop :=
  ∃ r, entry j = some r ∧ ¬(aggAt c p entry j).noRoom c (p.mark j r) (p.wdLen j r) ∧
    ¬(aggAt c p entry j).bulkEnd c (p.mark j r) (p.wdLen j r)

/-- The loop goes on behind the request at `j`. -/
def Continues (j : ℕ) : Prop :=
  ∃ r, entry j = some r ∧ r.wdOk c.dmaCh ∧ r.type = .data ∧ ¬(aggAt c p entry (j + 1)).full c

def Visited (busy j : ℕ) : Prop :=
  j < busy ∧ ∀ i < j, Joins c p entry i ∧ Continues c p entry i

/-- The pass comes to the request at `j` and has room for it. -/
def Reached (busy j : ℕ) : Prop := Visited c p entry busy j ∧ Joins c p entry j

/-- The pass writes the request at `j`. -/
def Written (busy j : ℕ) : Prop :=
  Reached c p entry busy j ∧ ∃ r, entry j = some r ∧ r.wdOk c.dmaCh

end

variable {c : Cfg} {p : Plan} {entry : ℕ → Option XmitReq} {busy left j n : ℕ} {s : Xmit}
  {r : XmitReq}

@[simp] lemma mark_type (p : Plan) (j : ℕ) (r : XmitReq) : (p.mark j r).type = r.type := by
  unfold Plan.mark
  split <;> rfl

@[simp] lemma mark_pktList (p : Plan) (j : ℕ) (r : XmitReq) :
    (p.mark j r).pktList = r.pktList := by
  unfold Plan.mark
  split <;> rfl

@[simp] lemma mark_wdinfoEn (p : Plan) (j : ℕ) (r : XmitReq) :
    (p.mark j r).wdinfoEn = r.wdinfoEn := by
  unfold Plan.mark
  split <;> rfl

@[simp] lemma mark_totalLen (p : Plan) (j : ℕ) (r : XmitReq) :
    (p.mark j r).totalLen = r.totalLen := by
  unfold XmitReq.totalLen
  rw [mark_pktList]

@[simp] lemma mark_wdLen (p : Plan) (j : ℕ) (r : XmitReq) : (p.mark j r).wdLen = r.wdLen := by
  unfold XmitReq.wdLen
  rw [mark_type, mark_wdinfoEn]

@[simp] lemma mark_payload (p : Plan) (j : ℕ) (r : XmitReq) :
    (p.mark j r).payload = r.payload := by
  unfold XmitReq.payload
  rw [mark_pktList]

@[simp] lemma mark_wdOk (p : Plan) (j : ℕ) (r : XmitReq) (dmaCh : ℕ) :
    (p.mark j r).wdOk dmaCh = r.wdOk dmaCh := by
  unfold XmitReq.wdOk XmitReq.pktlen
  rw [mark_type, mark_totalLen]

lemma aggAt_succ (h : entry j = some r) :
    aggAt c p entry (j + 1) = ((aggAt c p entry j).put (p.mark j r)).trasc c := by
  rw [aggAt, h]

@[simp] lemma Agg.trasc_txLen (c : Cfg) (g : Agg) : (g.trasc c).txLen = g.txLen := by
  unfold Agg.trasc
  split <;> rfl

@[simp] lemma Agg.trasc_packetLen (c : Cfg) (g : Agg) :
    (g.trasc c).packetLen = g.packetLen := by
  unfold Agg.trasc
  split <;> rfl

@[simp] lemma Agg.trasc_txBufData (c : Cfg) (g : Agg) :
    (g.trasc c).txBufData = g.txBufData := by
  unfold Agg.trasc
  split <;> rfl

@[simp] lemma Agg.trasc_aggCnt (c : Cfg) (g : Agg) : (g.trasc c).aggCnt = g.aggCnt := by
  unfold Agg.trasc
  split <;> rfl

@[simp] lemma Agg.place_aggCnt (g : Agg) (r : XmitReq) : (g.place r).aggCnt = g.aggCnt := by
  unfold Agg.place
  split <;> rfl

lemma Agg.put_aggCnt (g : Agg) (r : XmitReq) : (g.put r).aggCnt = g.aggCnt + 1 := by
  show (g.place r).aggCnt + 1 = _
  rw [Agg.place_aggCnt]

lemma aggAt_aggCnt (h : ∀ i < j, ∃ r, entry i = some r) : (aggAt c p entry j).aggCnt = j := by
  induction j with
  | zero => rfl
  | succ j ih =>
    obtain ⟨r, hr⟩ := h j (Nat.lt_succ_self j)
    rw [aggAt_succ hr, Agg.trasc_aggCnt, Agg.put_aggCnt,
      ih fun i hi => h i (by omega)]

lemma copies_succ (h : entry j = some r) :
    copies c p entry (j + 1) = copies c p entry j ++
      [⟨j, ((aggAt c p entry j).place (p.mark j r)).txBufData, (p.mark j r).len⟩] := by
  unfold copies
  rw [range_succ, map_append, map_singleton]
  have hcopy : copyAt c p entry j =
      ⟨j, ((aggAt c p entry j).place (p.mark j r)).txBufData, (p.mark j r).len⟩ := by
    unfold copyAt
    rw [h]
  rw [hcopy]

lemma Visited.written (h : Visited c p entry busy j) {i : ℕ} (hi : i < j) :
    Written c p entry busy i := by
  obtain ⟨hjoin, r, hr, hok, -⟩ := h.2 i hi
  exact ⟨⟨⟨by have := h.1; omega, fun k hk => h.2 k (by omega)⟩, hjoin⟩, r, hr, hok⟩

section Body

variable {more : Bool}

lemma xmitBody_none (h : s.entry s.phlNextIdx = none) : xmitBody c p more s = (s, false) := by
  unfold xmitBody
  dsimp only
  rw [h]

lemma xmitBody_stop (h : s.entry s.phlNextIdx = some r)
    (hstop : s.agg.noRoom c (p.mark s.agg.aggCnt r) (p.wdLen s.agg.aggCnt r) ∨
      s.agg.bulkEnd c (p.mark s.agg.aggCnt r) (p.wdLen s.agg.aggCnt r)) :
    xmitBody c p more s = ({ s with
      entry := update s.entry s.phlNextIdx (some (p.mark s.agg.aggCnt r)) }, false) := by
  unfold xmitBody
  dsimp only
  rw [h]
  dsimp only
  split
  · rfl
  · rw [if_pos (hstop.resolve_left ‹_›)]

lemma xmitBody_fail (h : s.entry s.phlNextIdx = some r)
    (hroom : ¬s.agg.noRoom c (p.mark s.agg.aggCnt r) (p.wdLen s.agg.aggCnt r))
    (hend : ¬s.agg.bulkEnd c (p.mark s.agg.aggCnt r) (p.wdLen s.agg.aggCnt r))
    (hok : ¬r.wdOk c.dmaCh) :
    xmitBody c p more s = ({ s with
      entry := update s.entry s.phlNextIdx (some (p.mark s.agg.aggCnt r))
      phlIdx := s.phlNextIdx + 1
      pstatus := false
      recycled := s.recycled ++ [s.phlNextIdx]
      agg := { s.agg.place (p.mark s.agg.aggCnt r) with packetLen := 0 } }, false) := by
  unfold xmitBody phlPrepareTxUsb
  dsimp only
  rw [h]
  dsimp only
  rw [if_neg hroom, if_neg hend, mark_wdOk, if_neg hok]

def Xmit.sent (p : Plan) (s : Xmit) (r : XmitReq) : Xmit :=
  { s with
    entry := update s.entry s.phlNextIdx (some (p.mark s.agg.aggCnt r))
    phlIdx := s.phlNextIdx + 1
    pstatus := true
    copied := s.copied ++ [⟨s.phlNextIdx, (s.agg.place (p.mark s.agg.aggCnt r)).txBufData,
      (p.mark s.agg.aggCnt r).len⟩]
    recycled := s.recycled ++ [s.phlNextIdx]
    agg := s.agg.put (p.mark s.agg.aggCnt r) }

lemma xmitBody_put (h : s.entry s.phlNextIdx = some r)
    (hroom : ¬s.agg.noRoom c (p.mark s.agg.aggCnt r) (p.wdLen s.agg.aggCnt r))
    (hend : ¬s.agg.bulkEnd c (p.mark s.agg.aggCnt r) (p.wdLen s.agg.aggCnt r))
    (hok : r.wdOk c.dmaCh) :
    xmitBody c p more s =
      if r.type ≠ .data then (s.sent p r, false)
      else if ((s.sent p r).agg.trasc c).full c then
        ({ s.sent p r with agg := (s.sent p r).agg.trasc c }, false)
      else
        ({ s.sent p r with
            agg := (s.sent p r).agg.trasc c
            phlNextIdx := if more then s.phlNextIdx + 1 else s.phlNextIdx }, true) := by
  unfold xmitBody phlPrepareTxUsb
  dsimp only
  rw [h]
  dsimp only
  rw [if_neg hroom, if_neg hend, mark_wdOk, if_pos hok, mark_type]
  rfl

end Body

/-- The loop is behind the first `j` requests, with `left` more to come. -/
structure At (c : Cfg) (p : Plan) (entry : ℕ → Option XmitReq) (left j : ℕ) (s : Xmit) :
    Prop where
  next : left ≠ 0 → s.phlNextIdx = j
  agg : s.agg = aggAt c p entry j
  phlIdx : s.phlIdx = j
  pstatus : s.pstatus = decide (j ≠ 0)
  copied : s.copied = copies c p entry j
  recycled : s.recycled = range j
  behind : ∀ i < j, s.entry i = (entry i).map (p.mark i)
  ahead : ∀ i, j ≤ i → s.entry i = entry i
  passed : ∀ i < j, Joins c p entry i ∧ Continues c p entry i

/-- The pass has written the first `n` requests. -/
structure Result (c : Cfg) (p : Plan) (entry : ℕ → Option XmitReq) (busy n : ℕ) (s : Xmit) :
    Prop where
  written : ∀ i < n, Written c p entry busy i
  rest : ¬Written c p entry busy n
  copied : s.copied = copies c p entry n
  recycled : s.recycled = range s.phlIdx
  fails : Reached c p entry busy n → s.pstatus = false ∧ s.phlIdx = n + 1
  sends : ¬Reached c p entry busy n →
    s.pstatus = decide (n ≠ 0) ∧ s.phlIdx = n ∧ s.agg.txLen = (aggAt c p entry n).txLen
  behind : ∀ i < n, s.entry i = (entry i).map (p.mark i)
  seen : Visited c p entry busy n → s.entry n = (entry n).map (p.mark n)
  unseen : ¬Visited c p entry busy n → s.entry n = entry n
  ahead : ∀ i, n < i → s.entry i = entry i

lemma At.ends (h : At c p entry left j s) {f : ℕ → Option XmitReq}
    (hv : left ≠ 0 → ¬Joins c p entry j) (hbehind : ∀ i < j, f i = s.entry i)
    (hahead : ∀ i, j < i → f i = s.entry i) (hf : left ≠ 0 → f j = (entry j).map (p.mark j))
    (hf' : left = 0 → f j = entry j) :
    Result c p entry (j + left) j { s with entry := f } where
  written i hi := by
    obtain ⟨hjoin, r, hr, hok, -⟩ := h.passed i hi
    exact ⟨⟨⟨by omega, fun k hk => h.passed k (by omega)⟩, hjoin⟩, r, hr, hok⟩
  rest hw := by
    have hlt := hw.1.1.1
    exact hv (by omega) hw.1.2
  copied := h.copied
  recycled := h.recycled.trans (congrArg range h.phlIdx.symm)
  fails hr := by
    have hlt := hr.1.1
    exact absurd hr.2 (hv (by omega))
  sends _ := ⟨h.pstatus, h.phlIdx, congrArg Agg.txLen h.agg⟩
  behind i hi := (hbehind i hi).trans (h.behind i hi)
  seen hvis := by
    have hlt := hvis.1
    exact hf (by omega)
  unseen hvis := by
    refine hf' (Nat.eq_zero_of_not_pos fun hpos => hvis ⟨by omega, h.passed⟩)
  ahead i hi := (hahead i hi).trans (h.ahead i (by omega))

lemma At.puts (h : At c p entry (left + 1) j s) (hr : entry j = some r)
    (hjoin : Joins c p entry j) (hok : r.wdOk c.dmaCh) :
    Written c p entry (j + (left + 1)) j :=
  ⟨⟨⟨by omega, h.passed⟩, hjoin⟩, r, hr, hok⟩

lemma xmitLoop_spec (h : At c p entry left j s) :
    ∃ n, Result c p entry (j + left) n (xmitLoop c p left s) := by
  induction left generalizing j s with
  | zero =>
    refine ⟨j, ?_⟩
    exact h.ends (fun h0 => absurd rfl h0) (fun _ _ => rfl) (fun _ _ => rfl)
      (fun h0 => absurd rfl h0) (fun _ => h.ahead j (Nat.le_refl j))
  | succ left ih =>
    have hnext : s.phlNextIdx = j := h.next (Nat.succ_ne_zero left)
    have hentry : s.entry j = entry j := h.ahead j (Nat.le_refl j)
    have hcnt : s.agg.aggCnt = j := by
      rw [h.agg]
      exact aggAt_aggCnt fun i hi => by
        obtain ⟨r, hr, -⟩ := (h.passed i hi).1
        exact ⟨r, hr⟩
    rw [xmitLoop]
    cases hr : entry j with
    | none =>
      rw [xmitBody_none (by rw [hnext, hentry, hr])]
      refine ⟨j, h.ends (f := s.entry) (fun _ ⟨r, hr', _⟩ => ?_) (fun _ _ => rfl)
        (fun _ _ => rfl) (fun _ => ?_) (fun h0 => absurd h0 (Nat.succ_ne_zero left))⟩
      · rw [hr] at hr'
        exact nomatch hr'
      · rw [hentry, hr]
        rfl
    | some r =>
      have hread : s.entry s.phlNextIdx = some r := by rw [hnext, hentry, hr]
      have hbehind : ∀ i < j,
          update s.entry s.phlNextIdx (some (p.mark s.agg.aggCnt r)) i = s.entry i :=
        fun i hi => update_of_ne (by omega) ..
      have hahead : ∀ i, j < i →
          update s.entry s.phlNextIdx (some (p.mark s.agg.aggCnt r)) i = s.entry i :=
        fun i hi => update_of_ne (by omega) ..
      have hself : update s.entry s.phlNextIdx (some (p.mark s.agg.aggCnt r)) j =
          (entry j).map (p.mark j) := by
        rw [hnext, hcnt, update_self, hr]
        rfl
      by_cases hstop : s.agg.noRoom c (p.mark s.agg.aggCnt r) (p.wdLen s.agg.aggCnt r) ∨
          s.agg.bulkEnd c (p.mark s.agg.aggCnt r) (p.wdLen s.agg.aggCnt r)
      · rw [xmitBody_stop hread hstop]
        refine ⟨j, h.ends (fun _ ⟨r', hr', hroom, hend⟩ => ?_) hbehind hahead (fun _ => hself)
          (fun h0 => absurd h0 (Nat.succ_ne_zero left))⟩
        rw [hr, Option.some.injEq] at hr'
        subst hr'
        rw [hcnt, h.agg] at hstop
        exact hstop.elim hroom hend
      obtain ⟨hroom, hend⟩ := not_or.1 hstop
      have hjoin : Joins c p entry j := by
        rw [hcnt, h.agg] at hroom hend
        exact ⟨r, hr, hroom, hend⟩
      have hvis : Visited c p entry (j + (left + 1)) j := ⟨by omega, h.passed⟩
      by_cases hok : r.wdOk c.dmaCh
      · -- the request is written, and the loop may go on
        have hwritten : ∀ i < j + 1, Written c p entry (j + (left + 1)) i := by
          intro i hi
          rcases Nat.lt_succ_iff_lt_or_eq.1 hi with hi | rfl
          · exact hvis.written hi
          · exact h.puts hr hjoin hok
        have hagg : (s.sent p r).agg.trasc c = aggAt c p entry (j + 1) := by
          rw [aggAt_succ hr, ← h.agg, ← hcnt]
          rfl
        have hcopied : (s.sent p r).copied = copies c p entry (j + 1) := by
          rw [copies_succ hr, ← h.copied, ← h.agg]
          show s.copied ++ [⟨s.phlNextIdx, _, _⟩] = _
          rw [hcnt, hnext]
        have hrec : (s.sent p r).recycled = range (j + 1) := by
          show s.recycled ++ [s.phlNextIdx] = _
          rw [h.recycled, hnext, range_succ]
        have hold : ∀ i < j + 1, (s.sent p r).entry i = (entry i).map (p.mark i) := by
          intro i hi
          rcases Nat.lt_succ_iff_lt_or_eq.1 hi with hi | rfl
          · exact (hbehind i hi).trans (h.behind i hi)
          · exact hself
        have hnew : ∀ i, j < i → (s.sent p r).entry i = entry i :=
          fun i hi => (hahead i hi).trans (h.ahead i (by omega))
        rw [xmitBody_put hread hroom hend hok]
        -- a pass that ends here has not come to the request at `j + 1`
        have hlast : ∀ g : Agg, g.txLen = (aggAt c p entry (j + 1)).txLen →
            ¬Continues c p entry j →
            Result c p entry (j + (left + 1)) (j + 1) { s.sent p r with agg := g } := by
          intro g hg hcont
          have hunseen : ¬Visited c p entry (j + (left + 1)) (j + 1) :=
            fun hv => hcont (hv.2 j (Nat.lt_succ_self j)).2
          refine ⟨hwritten, fun hw => hunseen hw.1.1, hcopied, ?_,
            fun hreach => absurd hreach.1 hunseen, fun _ => ⟨?_, ?_, hg⟩, hold,
            fun hv => absurd hv hunseen, fun _ => hnew _ (Nat.lt_succ_self j),
            fun i hi => hnew i (by omega)⟩
          · show _ = range (s.phlNextIdx + 1)
            rw [hnext]
            exact hrec
          · exact (decide_eq_true (Nat.succ_ne_zero j)).symm
          · show s.phlNextIdx + 1 = _
            rw [hnext]
        by_cases hdata : r.type = .data
        · rw [if_neg (not_not.2 hdata), hagg]
          by_cases hfull : (aggAt c p entry (j + 1)).full c
          · rw [if_pos hfull]
            refine ⟨j + 1, hlast _ rfl fun ⟨r', hr', _, _, hfull'⟩ => hfull' hfull⟩
          · rw [if_neg hfull]
            dsimp only
            have hcount : j + (left + 1) = j + 1 + left := by omega
            rw [hcount]
            refine ih ⟨fun hleft => ?_, rfl, ?_, ?_, hcopied, hrec, hold, ?_, fun i hi => ?_⟩
            · show (if decide (left ≠ 0) = true then s.phlNextIdx + 1 else s.phlNextIdx) = _
              rw [if_pos (decide_eq_true hleft), hnext]
            · show s.phlNextIdx + 1 = _
              rw [hnext]
            · exact (decide_eq_true (Nat.succ_ne_zero j)).symm
            · exact fun i hi => hnew i hi
            · rcases Nat.lt_succ_iff_lt_or_eq.1 hi with hi | rfl
              · exact h.passed i hi
              · exact ⟨hjoin, r, hr, hok, hdata, hfull⟩
        · rw [if_pos hdata]
          refine ⟨j + 1, hlast _ ?_ fun ⟨r', hr', _, hdata', _⟩ => ?_⟩
          · rw [← hagg, Agg.trasc_txLen]
            rfl
          · rw [hr, Option.some.injEq] at hr'
            exact hdata (hr' ▸ hdata')
      · rw [xmitBody_fail hread hroom hend hok]
        refine ⟨j, fun i hi => hvis.written hi, fun ⟨_, r', hr', hok'⟩ => ?_, h.copied, ?_,
          fun _ => ⟨rfl, ?_⟩, fun hreach => absurd ⟨hvis, hjoin⟩ hreach,
          fun i hi => (hbehind i hi).trans (h.behind i hi), fun _ => hself,
          fun hunseen => absurd hvis hunseen,
          fun i hi => (hahead i hi).trans (h.ahead i (by omega))⟩
        · rw [hr, Option.some.injEq] at hr'
          exact hok (hr' ▸ hok')
        · show s.recycled ++ [s.phlNextIdx] = range (s.phlNextIdx + 1)
          rw [h.recycled, hnext, range_succ]
        · show s.phlNextIdx + 1 = _
          rw [hnext]

lemma phlHandleXmitRingUsb_spec (c : Cfg) (entry : ℕ → Option XmitReq) (busy : ℕ) :
    ∃ n, Result c (plan c entry busy) entry busy n (phlHandleXmitRingUsb c entry busy) := by
  have hstart : At c (plan c entry busy) entry busy 0 (Xmit.start entry) :=
    ⟨fun _ => rfl, rfl, rfl, rfl, rfl, rfl, fun _ hi => absurd hi (Nat.not_lt_zero _),
      fun _ _ => rfl, fun _ hi => absurd hi (Nat.not_lt_zero _)⟩
  have h := xmitLoop_spec hstart
  rw [Nat.zero_add] at h
  exact h

end UsbTx

end Rtl8831.Phl
