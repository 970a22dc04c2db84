import Rtl8831.Phl.UsbTxLayout

/-!
# The padding check

The check before a pass counts the requests as the pass would.  The two disagree
where a dummy moves the payload of the last request so that its WD ends a bulk
transaction, where a request of another type follows a data request, and where a
WD cannot be built.
-/

namespace Rtl8831.Phl

namespace UsbTx

section

variable (c : Cfg) (entry : ℕ → Option XmitReq)

/-- The locals of the check before the request at `j`. -/
def preAt : ℕ → Pre
  | 0 => Pre.init
  | j + 1 =>
    match entry j with
    | none => preAt j
    | some r => { (preAt j).put c r with cnt := (preAt j).cnt + 1 }

/-- The check accepts the request at `j`. -/
def PreJoins (j : ℕ) : Prop := ∃ r, entry j = some r ∧ ¬(preAt c entry j).stops c r

/-- The check goes on behind the request at `j`. -/
def PreContinues (j : ℕ) : Prop :=
  ∃ r, entry j = some r ∧ r.type = .data ∧ ¬((preAt c entry j).put c r).full c

def PreVisited (busy j : ℕ) : Prop :=
  j < busy ∧ ∀ i < j, PreJoins c entry i ∧ PreContinues c entry i

/-- The check counts the request at `j`. -/
def Predicted (busy j : ℕ) : Prop := PreVisited c entry busy j ∧ PreJoins c entry j

end

variable {c : Cfg} {p : Plan} {entry : ℕ → Option XmitReq} {busy left j n : ℕ} {s : Xmit}
  {r : XmitReq} {q : Pre} {g : Agg}

lemma preAt_succ (h : entry j = some r) : preAt c entry (j + 1) =
    { (preAt c entry j).put c r with cnt := (preAt c entry j).cnt + 1 } := by
  rw [preAt, h]

@[simp] lemma Pre.put_cnt (c : Cfg) (q : Pre) (r : XmitReq) : (q.put c r).cnt = q.cnt := by
  unfold Pre.put
  dsimp only
  split <;> rfl

@[simp] lemma Pre.put_txLen (c : Cfg) (q : Pre) (r : XmitReq) :
    (q.put c r).txLen = q.txLen + q.gap + (r.wdLen + r.totalLen) := by
  unfold Pre.put
  dsimp only
  split <;> rfl

lemma preAt_cnt (h : ∀ i < j, ∃ r, entry i = some r) : (preAt c entry j).cnt = j := by
  induction j with
  | zero => rfl
  | succ j ih =>
    obtain ⟨r, hr⟩ := h j (Nat.lt_succ_self j)
    rw [preAt_succ hr]
    exact congrArg (· + 1) (ih fun i hi => h i (by omega))

lemma PreVisited.predicted (h : PreVisited c entry busy j) {i : ℕ} (hi : i < j) :
    Predicted c entry busy i := by
  have hlt := h.1
  exact ⟨⟨by omega, fun k hk => h.2 k (by omega)⟩, (h.2 i hi).1⟩

lemma txLen_pos (hr : entry j = some r) : (preAt c entry (j + 1)).txLen ≠ 0 := by
  have hpos := wdLen_pos r
  rw [preAt_succ hr]
  show ((preAt c entry j).put c r).txLen ≠ 0
  rw [Pre.put_txLen]
  omega

/-- The last of `n` requests. -/
def lastOf (n : ℕ) : Option ℕ := if n ≠ 0 then some (n - 1) else none

/-- The check has counted the first `n` requests. -/
structure PreResult (c : Cfg) (entry : ℕ → Option XmitReq) (busy n : ℕ) (o : Option ℕ × Pre) :
    Prop where
  predicted : ∀ i < n, Predicted c entry busy i
  rest : ¬Predicted c entry busy n
  txLen : o.2.txLen = (preAt c entry n).txLen
  last : o.1 = lastOf n ∨ o.1 = none ∧ o.2.cnt = n

lemma preLoop_spec (hpass : ∀ i < j, PreJoins c entry i ∧ PreContinues c entry i) :
    ∃ n, PreResult c entry (j + left) n (preLoop c entry left (preAt c entry j)) := by
  induction left generalizing j with
  | zero =>
    have hcnt : (preAt c entry j).cnt = j := preAt_cnt fun i hi => by
      obtain ⟨r, hr, -⟩ := (hpass i hi).1
      exact ⟨r, hr⟩
    exact ⟨j, fun i hi => ⟨⟨by omega, fun l hl => hpass l (by omega)⟩, (hpass i hi).1⟩,
      fun h => absurd h.1.1 (by omega), rfl, .inr ⟨rfl, hcnt⟩⟩
  | succ left ih =>
    have hcnt : (preAt c entry j).cnt = j := preAt_cnt fun i hi => by
      obtain ⟨r, hr, -⟩ := (hpass i hi).1
      exact ⟨r, hr⟩
    have hbefore : ∀ i < j, Predicted c entry (j + (left + 1)) i := fun i hi =>
      ⟨⟨by omega, fun l hl => hpass l (by omega)⟩, (hpass i hi).1⟩
    have hprev : (preAt c entry j).prev = lastOf j := by
      unfold Pre.prev lastOf
      rw [hcnt]
    rw [preLoop, hcnt]
    cases hr : entry j with
    | none =>
      refine ⟨j, hbefore, fun ⟨_, r, hr', _⟩ => ?_, rfl, .inl hprev⟩
      rw [hr] at hr'
      exact nomatch hr'
    | some r =>
      dsimp only
      by_cases hstop : (preAt c entry j).stops c r
      · rw [if_pos hstop]
        refine ⟨j, hbefore, fun ⟨_, r', hr', hnot⟩ => ?_, rfl, .inl hprev⟩
        rw [hr, Option.some.injEq] at hr'
        exact hnot (hr' ▸ hstop)
      rw [if_neg hstop]
      have hjoin : PreJoins c entry j := ⟨r, hr, hstop⟩
      have hcounted : ∀ i < j + 1, Predicted c entry (j + (left + 1)) i := by
        intro i hi
        rcases Nat.lt_succ_iff_lt_or_eq.1 hi with hi | rfl
        · exact hbefore i hi
        · exact ⟨⟨by omega, hpass⟩, hjoin⟩
      have hends : ¬PreContinues c entry j → ¬Predicted c entry (j + (left + 1)) (j + 1) :=
        fun hnot hp => hnot (hp.1.2 j (Nat.lt_succ_self j)).2
      by_cases hfull : ((preAt c entry j).put c r).full c
      · rw [if_pos hfull]
        refine ⟨j + 1, hcounted, hends fun ⟨r', hr', _, hnot⟩ => ?_, ?_, .inl ?_⟩
        · rw [hr, Option.some.injEq] at hr'
          exact hnot (hr' ▸ hfull)
        · rw [preAt_succ hr]
        · dsimp only
          rw [Pre.put_cnt, hcnt]
          exact (if_pos (Nat.succ_ne_zero j)).symm
      have hsucc : { (preAt c entry j).put c r with cnt := j + 1 } = preAt c entry (j + 1) := by
        rw [preAt_succ hr, hcnt]
      rw [if_neg hfull, Pre.put_cnt, hcnt, hsucc]
      by_cases hdata : r.type = .data
      · rw [if_neg (not_not.2 hdata)]
        have hpass' : ∀ i < j + 1, PreJoins c entry i ∧ PreContinues c entry i := by
          intro i hi
          rcases Nat.lt_succ_iff_lt_or_eq.1 hi with hi | rfl
          · exact hpass i hi
          · exact ⟨hjoin, r, hr, hdata, hfull⟩
        have hcount : j + (left + 1) = j + 1 + left := by omega
        rw [hcount]
        exact ih hpass'
      · rw [if_pos hdata]
        refine ⟨j + 1, hcounted, hends fun ⟨r', hr', hdata', _⟩ => ?_, rfl, .inr ⟨rfl, ?_⟩⟩
        · rw [hr, Option.some.injEq] at hr'
          exact hdata (hr' ▸ hdata')
        · rw [← hsucc]

lemma usbTxAggPreprocess_spec (c : Cfg) (entry : ℕ → Option XmitReq) (busy : ℕ) :
    ∃ n, (∀ i < n, Predicted c entry busy i) ∧ ¬Predicted c entry busy n ∧
      (usbTxAggPreprocess c entry busy).lastIdx = lastOf n ∧
      ((usbTxAggPreprocess c entry busy).isDummy = true ↔
        n ≠ 0 ∧ (preAt c entry n).txLen % c.speed.bulkSize = 0) := by
  obtain ⟨n, h⟩ := @preLoop_spec c entry busy 0
    fun _ hi => absurd hi (Nat.not_lt_zero _)
  rw [Nat.zero_add] at h
  change PreResult c entry busy n (preLoop c entry busy Pre.init) at h
  have hzero : (preAt c entry n).txLen ≠ 0 ↔ n ≠ 0 := by
    cases n with
    | zero => exact iff_of_false (fun h0 => h0 rfl) (fun h0 => h0 rfl)
    | succ n =>
      obtain ⟨-, r, hr, -⟩ := h.predicted n (Nat.lt_succ_self n)
      exact iff_of_true (txLen_pos hr) (Nat.succ_ne_zero n)
  rcases hpre : preLoop c entry busy Pre.init with ⟨last, q⟩
  rw [hpre] at h
  obtain ⟨hpred, hrest, htx, hlast⟩ := h
  dsimp only at htx hlast
  rw [← htx] at hzero
  refine ⟨n, hpred, hrest, ?_, ?_⟩
  · unfold usbTxAggPreprocess
    rw [hpre]
    dsimp only
    rcases hlast with rfl | ⟨rfl, hcnt⟩
    · refine if_neg fun ⟨hnone, hne⟩ => ?_
      unfold lastOf at hnone
      rw [if_pos (hzero.1 hne)] at hnone
      exact nomatch hnone
    · rw [hcnt]
      unfold lastOf
      by_cases hn : n = 0
      · rw [if_neg fun h => hzero.1 h.2 hn, if_neg (not_not.2 hn)]
      · rw [if_pos ⟨rfl, hzero.2 hn⟩, if_pos hn]
  · unfold usbTxAggPreprocess
    rw [hpre]
    dsimp only
    rw [decide_eq_true_iff, hzero, htx]

def Fresh (entry : ℕ → Option XmitReq) : Prop :=
  ∀ j r, entry j = some r → r.usbPktOfst = false ∧ ∀ b ∈ r.pktList, b.virAddr = true

lemma Fresh.payload (h : Fresh entry) (hr : entry j = some r) : r.payload = r.totalLen := by
  unfold XmitReq.payload XmitReq.totalLen
  rw [List.filter_eq_self.2 (h j r hr).2]

def dummyLen (p : Plan) (j : ℕ) : ℕ := if p.marks j then pktOffsetDummy else 0

lemma Fresh.len (h : Fresh entry) (hr : entry j = some r) :
    (p.mark j r).len = r.wdLen + r.totalLen + dummyLen p j := by
  unfold XmitReq.len
  rw [mark_wdLen, mark_payload, h.payload hr]
  have hdummy : (p.mark j r).dummy = dummyLen p j := by
    unfold XmitReq.dummy Plan.mark dummyLen
    split
    · rfl
    · rw [(h j r hr).1]
      rfl
  omega

/-- The pass counts as the check, but for `d` bytes. -/
structure Agrees (d : ℕ) (g : Agg) (q : Pre) : Prop where
  txLen : g.txLen = q.txLen + d
  packetLen : g.packetLen = q.packetLen + d
  trascAggCnt : g.trascAggCnt = q.trascAggCnt
  trascIdx : g.trascIdx = q.trascIdx

variable (sp : UsbSpeed) {a : ℕ} {d : ℕ}

lemma shift_dummy (h : a % sp.bulkSize = 0) :
    (a + pktOffsetDummy) >>> sp.shiftOffset = a >>> sp.shiftOffset := by
  cases sp <;>
    simp only [UsbSpeed.bulkSize, UsbSpeed.shiftOffset, pktOffsetDummy, Nat.shiftRight_eq_div_pow,
      reduceIte, Nat.reduceEqDiff, Nat.reducePow] at * <;>
    omega

lemma Agg.put_trascIdx (g : Agg) (r : XmitReq) : (g.put r).trascIdx = g.trascIdx := by
  show (g.place r).trascIdx = _
  unfold Agg.place
  split <;> rfl

lemma Agg.put_trascAggCnt (g : Agg) (r : XmitReq) :
    (g.put r).trascAggCnt = g.trascAggCnt + 1 := by
  show (g.place r).trascAggCnt + 1 = _
  unfold Agg.place
  split <;> rfl

lemma Agrees.put (h : Agrees 0 g q) (hfresh : Fresh entry) (hr : entry j = some r)
    (hdata : r.type = .data)
    (hd : p.marks j = true → (q.put c r).txLen % c.speed.bulkSize = 0) :
    Agrees (dummyLen p j) ((g.put (p.mark j r)).trasc c) (q.put c r) := by
  have htx : (g.put (p.mark j r)).txLen = (q.put c r).txLen + dummyLen p j := by
    rw [put_txLen, Pre.put_txLen, hfresh.len hr]
    unfold Agg.place
    rw [if_pos ((mark_type ..).trans hdata)]
    show g.txLen + (align8 g.packetLen - g.packetLen) + _ =
      q.txLen + (align8 q.packetLen - q.packetLen) + _ + _
    rw [h.txLen, h.packetLen, Nat.add_zero, Nat.add_zero]
    omega
  have hshift : (g.put (p.mark j r)).txLen >>> c.speed.shiftOffset =
      (q.put c r).txLen >>> c.speed.shiftOffset := by
    rw [htx]
    unfold dummyLen
    by_cases hm : p.marks j = true
    · rw [if_pos hm]
      exact shift_dummy c.speed (hd hm)
    · rw [if_neg hm, Nat.add_zero]
  have hpkt : (g.put (p.mark j r)).packetLen = (q.put c r).packetLen + dummyLen p j := by
    have hq : (q.put c r).packetLen = r.wdLen + r.totalLen := by
      unfold Pre.put
      dsimp only
      split <;> rfl
    rw [hq]
    exact hfresh.len hr
  refine ⟨?_, ?_, ?_, ?_⟩
  · rw [Agg.trasc_txLen, htx]
  · rw [Agg.trasc_packetLen, hpkt]
  · unfold Agg.trasc
    rw [hshift, Agg.put_trascIdx, h.trascIdx, Pre.put_txLen]
    unfold Pre.put
    dsimp only
    split
    · rfl
    · show (g.put (p.mark j r)).trascAggCnt = q.trascAggCnt + 1
      rw [Agg.put_trascAggCnt, h.trascAggCnt]
  · unfold Agg.trasc
    rw [hshift, Agg.put_trascIdx, h.trascIdx, Pre.put_txLen]
    unfold Pre.put
    dsimp only
    split
    · rfl
    · show (g.put (p.mark j r)).trascIdx = q.trascIdx
      rw [Agg.put_trascIdx, h.trascIdx]

lemma agrees_at (hfresh : Fresh entry)
    (h : ∀ i < j, ∃ r, entry i = some r ∧ r.type = .data ∧ p.marks i = false) :
    Agrees 0 (aggAt c p entry j) (preAt c entry j) := by
  induction j with
  | zero => exact ⟨rfl, rfl, rfl, rfl⟩
  | succ j ih =>
    obtain ⟨r, hr, hdata, hmark⟩ := h j (Nat.lt_succ_self j)
    have hstep := (ih fun i hi => h i (by omega)).put (c := c) (p := p) hfresh hr hdata
      fun hm => absurd (hmark.symm.trans hm) Bool.false_ne_true
    have hzero : dummyLen p j = 0 := by
      unfold dummyLen
      rw [hmark, if_neg Bool.false_ne_true]
    rw [hzero] at hstep
    rw [aggAt_succ hr, preAt_succ hr]
    exact ⟨hstep.txLen, hstep.packetLen, hstep.trascAggCnt, hstep.trascIdx⟩

lemma agrees_succ (hfresh : Fresh entry)
    (h : ∀ i < j, ∃ r, entry i = some r ∧ r.type = .data ∧ p.marks i = false)
    (hr : entry j = some r) (hdata : r.type = .data)
    (hd : p.marks j = true → (preAt c entry (j + 1)).txLen % c.speed.bulkSize = 0) :
    Agrees (dummyLen p j) (aggAt c p entry (j + 1)) (preAt c entry (j + 1)) := by
  rw [preAt_succ hr] at hd
  have hstep := (agrees_at (c := c) hfresh h).put hfresh hr hdata hd
  rw [aggAt_succ hr, preAt_succ hr]
  exact ⟨hstep.txLen, hstep.packetLen, hstep.trascAggCnt, hstep.trascIdx⟩

lemma align8_dummy (a : ℕ) : align8 (a + pktOffsetDummy) = align8 a + pktOffsetDummy := by
  unfold align8 pktOffsetDummy
  omega

lemma wdLen_mod (r : XmitReq) (sp : UsbSpeed) : r.wdLen % sp.bulkSize ≠ 0 := by
  unfold XmitReq.wdLen
  cases sp <;> split <;> decide

lemma eight_dvd (sp : UsbSpeed) (h : a % sp.bulkSize = 0) : 8 ∣ a := by
  cases sp <;> simp only [UsbSpeed.bulkSize] at h <;> omega

lemma preAt_align (c : Cfg) (entry : ℕ → Option XmitReq) (j : ℕ) :
    (preAt c entry j).txLen + (preAt c entry j).gap = align8 (preAt c entry j).txLen := by
  have hregion : ∃ b, 8 ∣ b ∧ (preAt c entry j).txLen = b + (preAt c entry j).packetLen := by
    induction j with
    | zero => exact ⟨0, Nat.dvd_zero 8, rfl⟩
    | succ j ih =>
      obtain ⟨b, hb, hlen⟩ := ih
      cases hr : entry j with
      | none =>
        rw [preAt, hr]
        exact ⟨b, hb, hlen⟩
      | some r =>
        have hle := le_align8 (preAt c entry j).packetLen
        have hput : ((preAt c entry j).put c r).packetLen = r.wdLen + r.totalLen := by
          unfold Pre.put
          dsimp only
          split <;> rfl
        refine ⟨b + align8 (preAt c entry j).packetLen, Nat.dvd_add hb (dvd_align8 _), ?_⟩
        rw [preAt_succ hr]
        show ((preAt c entry j).put c r).txLen = _ + ((preAt c entry j).put c r).packetLen
        rw [Pre.put_txLen, hput, hlen]
        unfold Pre.gap
        omega
  obtain ⟨b, hb, hlen⟩ := hregion
  have hle := le_align8 (preAt c entry j).packetLen
  rw [hlen, align8_add hb]
  unfold Pre.gap
  omega

lemma not_bulkEnd (h : (preAt c entry j).txLen % c.speed.bulkSize = 0) (r : XmitReq) :
    ((preAt c entry j).txLen + r.wdLen + (preAt c entry j).gap) % c.speed.bulkSize ≠ 0 := by
  have halign := preAt_align c entry j
  have hself : align8 (preAt c entry j).txLen = (preAt c entry j).txLen := by
    have hdvd := eight_dvd c.speed h
    unfold align8
    omega
  have hgap : (preAt c entry j).gap = 0 := by omega
  rw [hgap, Nat.add_zero, Nat.add_mod, h, Nat.zero_add, Nat.mod_mod]
  exact wdLen_mod r c.speed

lemma Agrees.noRoom_iff (h : Agrees d g q) (hpad : c.paddingChk = true) :
    g.noRoom c (p.mark j r) (p.wdLen j r) ↔
      txBufSize - pktOffsetDummy < align8 (r.wdLen + dummyLen p j + r.totalLen) + (q.txLen + d) := by
  unfold Agg.noRoom
  rw [if_pos hpad, mark_totalLen, h.txLen]
  rfl

lemma Agrees.bulkEnd_iff (h : Agrees d g q) :
    g.bulkEnd c (p.mark j r) (p.wdLen j r) ↔ r.type = .data ∧ q.txLen + d ≠ 0 ∧
      (q.txLen + d + (r.wdLen + dummyLen p j) +
        (align8 (q.packetLen + d) - (q.packetLen + d))) % c.speed.bulkSize = 0 := by
  unfold Agg.bulkEnd Agg.gap
  rw [mark_type, h.txLen, h.packetLen]
  rfl

lemma room_dummy {e w : ℕ} (hroom : align8 w + e ≤ txBufSize - pktOffsetDummy)
    (h : (align8 e + w) % sp.bulkSize = 0) :
    align8 (w + pktOffsetDummy) + e ≤ txBufSize - pktOffsetDummy := by
  rw [align8_dummy]
  have h64 : (align8 e + w) % 64 = 0 := by
    cases sp <;> simp only [UsbSpeed.bulkSize] at h <;> omega
  unfold align8 txBufSize pktOffsetDummy at *
  omega

lemma full_iff (h : Agrees n (aggAt c p entry (j + 1)) (preAt c entry (j + 1)))
    (hsome : ∀ i < j + 1, ∃ r, entry i = some r) (hr : entry j = some r) :
    (aggAt c p entry (j + 1)).full c ↔ ((preAt c entry j).put c r).full c := by
  unfold Agg.full Pre.full
  rw [h.trascAggCnt, aggAt_aggCnt hsome, Pre.put_cnt, preAt_cnt fun i hi => hsome i (by omega),
    preAt_succ hr]

/-- What the check says of the pass: the last request, whether its length calls
for a dummy, and that the request with the dummy is sent. -/
structure PaddingRight (c : Cfg) (entry : ℕ → Option XmitReq) (busy : ℕ) (s : Xmit) : Prop where
  last : ∀ j, (usbTxAggPreprocess c entry busy).lastIdx = some j ↔
    s.submitted ≠ none ∧ s.copied.length = j + 1
  isDummy : ∀ len, s.submitted = some len →
    ((usbTxAggPreprocess c entry busy).isDummy = true ↔
      (len - if (usbTxAggPreprocess c entry busy).isDummy then pktOffsetDummy else 0) %
        c.speed.bulkSize = 0)
  padded : ∀ len, s.submitted = some len → len % c.speed.bulkSize ≠ 0
  sent : ∀ j r, s.entry j = some r → r.usbPktOfst = true →
    s.submitted ≠ none ∧ j < s.copied.length

/-- The WDs of the requests that are counted can be built; a request of another
type behind data requests is counted as the pass writes it; and the dummy does
not move the payload of the last request to a bulk boundary. -/
structure Predictable (c : Cfg) (entry : ℕ → Option XmitReq) (busy : ℕ) : Prop where
  wdOk : ∀ j r, Predicted c entry busy j → entry j = some r → r.wdOk c.dmaCh
  other : ∀ j r, PreVisited c entry busy j → entry j = some r → j ≠ 0 → r.type ≠ .data →
    align8 (r.wdLen + r.totalLen) + (preAt c entry j).txLen ≤ txBufSize - pktOffsetDummy →
    ((preAt c entry j).txLen + r.wdLen + (preAt c entry j).gap) % c.speed.bulkSize ≠ 0 ∧
      (((preAt c entry j).txLen + (r.wdLen + r.totalLen)) % c.speed.bulkSize = 0 ↔
        (align8 (preAt c entry j).txLen + (r.wdLen + r.totalLen)) % c.speed.bulkSize = 0)
  dummy : ∀ j r, Predicted c entry busy j → ¬Predicted c entry busy (j + 1) →
    entry j = some r → j ≠ 0 → r.type = .data →
    (align8 (preAt c entry j).txLen + (r.wdLen + r.totalLen)) % c.speed.bulkSize = 0 →
    r.totalLen % c.speed.bulkSize ≠ pktOffsetDummy

lemma preAt_txLen_succ (hr : entry j = some r) : (preAt c entry (j + 1)).txLen =
    align8 (preAt c entry j).txLen + (r.wdLen + r.totalLen) := by
  rw [preAt_succ hr]
  show ((preAt c entry j).put c r).txLen = _
  rw [Pre.put_txLen, preAt_align]

/-- A plan whose dummy, if it has one, is for the last of the `n` requests. -/
structure Follows (c : Cfg) (p : Plan) (entry : ℕ → Option XmitReq) (busy n : ℕ) : Prop where
  predicted : ∀ i < n, Predicted c entry busy i
  rest : ¬Predicted c entry busy n
  marks : ∀ j, p.marks j = true ↔ j + 1 = n ∧ (preAt c entry n).txLen % c.speed.bulkSize = 0

namespace Follows

variable (hf : Follows c p entry busy n)
include hf

lemma unmarked (hj : j + 1 < n) : p.marks j = false := by
  cases hm : p.marks j with
  | false => rfl
  | true =>
    have h := ((hf.marks j).1 hm).1
    omega

lemma data_before (hj : j < n) :
    ∀ i < j, ∃ r, entry i = some r ∧ r.type = .data ∧ p.marks i = false := by
  intro i hi
  obtain ⟨r, hr, hdata, -⟩ := ((hf.predicted j hj).1.2 i hi).2
  exact ⟨r, hr, hdata, hf.unmarked (by omega)⟩

lemma entry_some (hj : j ≤ n) : ∀ i < j, ∃ r, entry i = some r := by
  intro i hi
  obtain ⟨-, r, hr, -⟩ := hf.predicted i (by omega)
  exact ⟨r, hr⟩

lemma agrees (hfresh : Fresh entry) (hj : j < n) (hr : entry j = some r)
    (hdata : r.type = .data) :
    Agrees (dummyLen p j) (aggAt c p entry (j + 1)) (preAt c entry (j + 1)) :=
  agrees_succ hfresh (hf.data_before hj) hr hdata fun hm => by
    obtain ⟨rfl, hmod⟩ := (hf.marks j).1 hm
    exact hmod

lemma full_iff (hfresh : Fresh entry) (hj : j < n) (hr : entry j = some r)
    (hdata : r.type = .data) :
    (aggAt c p entry (j + 1)).full c ↔ ((preAt c entry j).put c r).full c :=
  UsbTx.full_iff (hf.agrees hfresh hj hr hdata) (hf.entry_some hj) hr

lemma joins_iff (hpad : c.paddingChk = true) (hfresh : Fresh entry) (hj : j < n)
    (hr : entry j = some r) :
    Joins c p entry j ↔ ¬(p.marks j = true ∧ r.type = .data ∧ j ≠ 0 ∧
      r.totalLen % c.speed.bulkSize = pktOffsetDummy) := by
  have hagree : Agrees 0 (aggAt c p entry j) (preAt c entry j) :=
    agrees_at hfresh (hf.data_before hj)
  have hjoin : Joins c p entry j ↔
      ¬(aggAt c p entry j).noRoom c (p.mark j r) (p.wdLen j r) ∧
        ¬(aggAt c p entry j).bulkEnd c (p.mark j r) (p.wdLen j r) := by
    constructor
    · rintro ⟨r', hr', h⟩
      rw [hr, Option.some.injEq] at hr'
      exact hr' ▸ h
    · exact fun h => ⟨r, hr, h⟩
  obtain ⟨-, r', hr', hstops⟩ := hf.predicted j hj
  rw [hr, Option.some.injEq] at hr'
  subst hr'
  obtain ⟨hroom, hbulk⟩ := not_or.1 hstops
  have halign := preAt_align c entry j
  have hzero : (preAt c entry j).txLen = 0 ↔ j = 0 := by
    cases j with
    | zero => exact iff_of_true rfl rfl
    | succ j =>
      obtain ⟨r', hr'⟩ := hf.entry_some hj.le j (Nat.lt_succ_self j)
      exact iff_of_false (txLen_pos hr') (Nat.succ_ne_zero j)
  rw [hjoin, hagree.noRoom_iff hpad, hagree.bulkEnd_iff, Nat.add_zero, Nat.add_zero]
  by_cases hm : p.marks j = true
  · -- the last request, with the dummy
    obtain ⟨rfl, hmod⟩ := (hf.marks j).1 hm
    rw [preAt_txLen_succ hr] at hmod
    have hdummy : dummyLen p j = pktOffsetDummy := if_pos hm
    have hwd : r.wdLen + pktOffsetDummy + r.totalLen = r.wdLen + r.totalLen + pktOffsetDummy := by
      omega
    have hfits : ¬txBufSize - pktOffsetDummy <
        align8 (r.wdLen + dummyLen p j + r.totalLen) + (preAt c entry j).txLen := by
      rw [hdummy, hwd]
      exact Nat.not_lt_of_le (room_dummy c.speed (Nat.le_of_not_lt hroom) hmod)
    have hend : ((preAt c entry j).txLen + (r.wdLen + dummyLen p j) +
        (align8 (preAt c entry j).packetLen - (preAt c entry j).packetLen)) % c.speed.bulkSize = 0 ↔
        r.totalLen % c.speed.bulkSize = pktOffsetDummy := by
      rw [hdummy]
      change ((preAt c entry j).txLen + (r.wdLen + pktOffsetDummy) + (preAt c entry j).gap) % _ = 0 ↔ _
      have hsum : (preAt c entry j).txLen + (r.wdLen + pktOffsetDummy) + (preAt c entry j).gap =
          align8 (preAt c entry j).txLen + r.wdLen + pktOffsetDummy := by omega
      rw [hsum]
      cases hs : c.speed <;> rw [hs] at hmod <;>
        simp only [UsbSpeed.bulkSize, pktOffsetDummy] at * <;> omega
    rw [hend]
    constructor
    · rintro ⟨-, h⟩ ⟨-, hdata, hj0, htotal⟩
      exact h ⟨hdata, fun h0 => hj0 (hzero.1 h0), htotal⟩
    · exact fun h => ⟨hfits, fun ⟨hdata, hj0, htotal⟩ =>
        h ⟨hm, hdata, fun h0 => hj0 (hzero.2 h0), htotal⟩⟩
  · have hdummy : dummyLen p j = 0 := if_neg hm
    rw [hdummy, Nat.add_zero]
    exact iff_of_true ⟨hroom, fun ⟨_, _, h⟩ => hbulk h⟩ fun h => hm h.1

lemma visited (hfresh : Fresh entry) (hj : j < n)
    (hjoins : ∀ i < j, Joins c p entry i)
    (hok : ∀ i < j, ∀ r, entry i = some r → r.wdOk c.dmaCh) : Visited c p entry busy j := by
  refine ⟨(hf.predicted j hj).1.1, fun i hi => ⟨hjoins i hi, ?_⟩⟩
  obtain ⟨r, hr, hdata, hfull⟩ := ((hf.predicted j hj).1.2 i hi).2
  exact ⟨r, hr, hok i hi r hr, hdata,
    fun h => hfull ((hf.full_iff hfresh (by omega) hr hdata).1 h)⟩

lemma not_reached (hpad : c.paddingChk = true) (hfresh : Fresh entry)
    (hother : ∀ r, PreVisited c entry busy n → entry n = some r → n ≠ 0 → r.type ≠ .data →
      align8 (r.wdLen + r.totalLen) + (preAt c entry n).txLen ≤ txBufSize - pktOffsetDummy →
      ((preAt c entry n).txLen + r.wdLen + (preAt c entry n).gap) % c.speed.bulkSize ≠ 0) :
    ¬Reached c p entry busy n := by
  rintro ⟨hvis, r, hr, hroom, hend⟩
  have hprevis : PreVisited c entry busy n := by
    refine ⟨hvis.1, fun i hi => ⟨(hf.predicted i hi).2, ?_⟩⟩
    obtain ⟨r, hr, -, hdata, hfull⟩ := (hvis.2 i hi).2
    exact ⟨r, hr, hdata, fun h => hfull ((hf.full_iff hfresh hi hr hdata).2 h)⟩
  -- the locals agree but for a dummy in the last request
  have hagree : ∃ d, Agrees d (aggAt c p entry n) (preAt c entry n) ∧
      ((preAt c entry n).txLen % c.speed.bulkSize ≠ 0 → d = 0) := by
    cases n with
    | zero => exact ⟨0, ⟨rfl, rfl, rfl, rfl⟩, fun _ => rfl⟩
    | succ m =>
      obtain ⟨r', hr', -, hdata', -⟩ := (hvis.2 m (Nat.lt_succ_self m)).2
      refine ⟨_, hf.agrees hfresh (Nat.lt_succ_self m) hr' hdata', fun hne => if_neg fun hm => ?_⟩
      exact hne ((hf.marks m).1 hm).2
  obtain ⟨d, hagree, hd⟩ := hagree
  have hdummy : dummyLen p n = 0 := if_neg fun hm => by
    have h := ((hf.marks n).1 hm).1
    omega
  rw [hagree.noRoom_iff hpad, hdummy, Nat.add_zero] at hroom
  refine hf.rest ⟨hprevis, r, hr, not_or.2 ⟨by omega, fun hbulk => ?_⟩⟩
  by_cases hmod : (preAt c entry n).txLen % c.speed.bulkSize = 0
  · exact not_bulkEnd hmod r hbulk
  · have hn : n ≠ 0 := by
      rintro rfl
      exact hmod (Nat.zero_mod _)
    obtain ⟨m, rfl⟩ := Nat.exists_eq_succ_of_ne_zero hn
    obtain ⟨r', hr'⟩ := hf.entry_some (Nat.le_refl _) m (Nat.lt_succ_self m)
    rw [hd hmod] at hagree hroom
    rw [hagree.bulkEnd_iff, hdummy, Nat.add_zero, Nat.add_zero, Nat.add_zero] at hend
    by_cases hdata : r.type = .data
    · exact hend ⟨hdata, txLen_pos hr', hbulk⟩
    · exact hother r hprevis hr hn hdata (by omega) hbulk

end Follows

lemma plan_follows (c : Cfg) (hpad : c.paddingChk = true) (entry : ℕ → Option XmitReq)
    (busy : ℕ) : ∃ n, Follows c (plan c entry busy) entry busy n ∧
      (plan c entry busy).lastIdx = lastOf n ∧
      ((plan c entry busy).isDummy = true ↔
        n ≠ 0 ∧ (preAt c entry n).txLen % c.speed.bulkSize = 0) := by
  have hplan : plan c entry busy = usbTxAggPreprocess c entry busy := if_pos hpad
  obtain ⟨n, hpred, hrest, hlast, hdummy⟩ := usbTxAggPreprocess_spec c entry busy
  rw [hplan]
  refine ⟨n, ⟨hpred, hrest, fun j => ?_⟩, hlast, hdummy⟩
  unfold Plan.marks
  rw [Bool.and_eq_true, hdummy, decide_eq_true_iff, hlast]
  unfold lastOf
  constructor
  · rintro ⟨⟨hn, hmod⟩, hj⟩
    rw [if_pos hn, Option.some.injEq] at hj
    exact ⟨by omega, hmod⟩
  · rintro ⟨rfl, hmod⟩
    exact ⟨⟨Nat.succ_ne_zero j, hmod⟩, if_pos (Nat.succ_ne_zero j)⟩

lemma Result.eq_of_written {n' : ℕ} (h : Result c p entry busy n s)
    (hw : ∀ i < n', Written c p entry busy i) (hrest : ¬Written c p entry busy n') : n = n' := by
  rcases Nat.lt_trichotomy n n' with hlt | heq | hgt
  · exact absurd (hw n hlt) h.rest
  · exact heq
  · exact absurd (h.written n' hgt) hrest

lemma Follows.txLen (hf : Follows c p entry busy (j + 1)) (hfresh : Fresh entry)
    (hr : entry j = some r) : (aggAt c p entry (j + 1)).txLen =
      (if r.type = .data then align8 (preAt c entry j).txLen else (preAt c entry j).txLen) +
        (r.wdLen + r.totalLen) + dummyLen p j := by
  by_cases hdata : r.type = .data
  · rw [if_pos hdata, (hf.agrees hfresh (Nat.lt_succ_self j) hr hdata).txLen, preAt_txLen_succ hr]
  · have hagree : Agrees 0 (aggAt c p entry j) (preAt c entry j) :=
      agrees_at hfresh (hf.data_before (Nat.lt_succ_self j))
    rw [if_neg hdata, aggAt_succ hr, Agg.trasc_txLen, put_txLen, hfresh.len hr,
      place_other _ (fun ht => hdata ((mark_type ..).symm.trans ht)), hagree.txLen]
    omega

lemma mod_dummy (h : a % sp.bulkSize = 0) :
    (a + pktOffsetDummy) % sp.bulkSize ≠ 0 := by
  cases sp <;> simp only [UsbSpeed.bulkSize, pktOffsetDummy] at * <;> omega

lemma Predictable.paddingRight (h : Predictable c entry busy) (hpad : c.paddingChk = true)
    (hfresh : Fresh entry) : PaddingRight c entry busy (phlHandleXmitRingUsb c entry busy) := by
  have hplan : plan c entry busy = usbTxAggPreprocess c entry busy := if_pos hpad
  obtain ⟨n, hf, hlast, hdummy⟩ := plan_follows c hpad entry busy
  obtain ⟨n', hres⟩ := phlHandleXmitRingUsb_spec c entry busy
  have hwritten : ∀ j < n, Written c (plan c entry busy) entry busy j := by
    intro j
    induction j using Nat.strong_induction_on with
    | _ j ih =>
      intro hj
      obtain ⟨-, r, hr, -⟩ := hf.predicted j hj
      have hvis : Visited c (plan c entry busy) entry busy j := by
        refine hf.visited hfresh hj (fun i hi => (ih i hi (by omega)).1.2) fun i hi r' hr' => ?_
        exact h.wdOk i r' (hf.predicted i (by omega)) hr'
      refine ⟨⟨hvis, (hf.joins_iff hpad hfresh hj hr).2 ?_⟩, r, hr,
        h.wdOk j r (hf.predicted j hj) hr⟩
      rintro ⟨hm, hdata, hj0, htotal⟩
      obtain ⟨rfl, hmod⟩ := (hf.marks j).1 hm
      rw [preAt_txLen_succ hr] at hmod
      exact h.dummy j r (hf.predicted j hj) hf.rest hr hj0 hdata hmod htotal
  have hreach : ¬Reached c (plan c entry busy) entry busy n :=
    hf.not_reached hpad hfresh fun r hvis hr hn hother hroom =>
      (h.other n r hvis hr hn hother hroom).1
  obtain rfl := hres.eq_of_written hwritten fun hw => hreach hw.1
  obtain ⟨hps, -, htx⟩ := hres.sends hreach
  have hsub : ∀ len, (phlHandleXmitRingUsb c entry busy).submitted = some len →
      n' ≠ 0 ∧ len = (aggAt c (plan c entry busy) entry n').txLen := by
    intro len hlen
    unfold Xmit.submitted at hlen
    rw [hps, htx] at hlen
    by_cases hn : n' = 0
    · rw [if_neg (by simpa using hn)] at hlen
      exact nomatch hlen
    · rw [if_pos (decide_eq_true hn), Option.some.injEq] at hlen
      exact ⟨hn, hlen.symm⟩
  have hsome : n' ≠ 0 → (phlHandleXmitRingUsb c entry busy).submitted ≠ none := by
    intro hn
    unfold Xmit.submitted
    rw [hps, if_pos (decide_eq_true hn)]
    exact fun h => nomatch h
  -- the length without the dummy is a multiple where the predicted length is
  have hbase : ∀ len, (phlHandleXmitRingUsb c entry busy).submitted = some len → ∃ base,
      len = base + (if (plan c entry busy).isDummy then pktOffsetDummy else 0) ∧
        ((plan c entry busy).isDummy = true ↔ base % c.speed.bulkSize = 0) := by
    intro len hlen
    obtain ⟨hn, rfl⟩ := hsub len hlen
    obtain ⟨m, rfl⟩ := Nat.exists_eq_succ_of_ne_zero hn
    obtain ⟨hvis, r, hr, hstops⟩ := hf.predicted m (Nat.lt_succ_self m)
    have hmarks : dummyLen (plan c entry busy) m =
        if (plan c entry busy).isDummy then pktOffsetDummy else 0 := by
      unfold dummyLen
      refine if_congr ?_ rfl rfl
      rw [hf.marks, hdummy]
      exact ⟨fun ⟨_, hmod⟩ => ⟨hn, hmod⟩, fun ⟨_, hmod⟩ => ⟨rfl, hmod⟩⟩
    refine ⟨_, (hf.txLen hfresh hr).trans (by rw [hmarks]), ?_⟩
    have hiff : (plan c entry busy).isDummy = true ↔
        (align8 (preAt c entry m).txLen + (r.wdLen + r.totalLen)) % c.speed.bulkSize = 0 := by
      rw [hdummy, preAt_txLen_succ hr]
      exact and_iff_right hn
    rw [hiff]
    by_cases hdata : r.type = .data
    · rw [if_pos hdata]
    · rw [if_neg hdata]
      by_cases hm : m = 0
      · subst hm
        have hzero : align8 (preAt c entry 0).txLen = (preAt c entry 0).txLen := by
          rw [preAt]
          decide
        rw [hzero]
      · have hroom := (not_or.1 hstops).1
        exact (h.other m r hvis hr hm hdata (Nat.le_of_not_lt hroom)).2.symm
  refine ⟨fun j => ?_, fun len hlen => ?_, fun len hlen => ?_, fun j r hr hofst => ?_⟩
  · rw [← hplan, hlast, hres.copied, length_copies]
    unfold lastOf
    constructor
    · intro hj
      by_cases hn : n' = 0
      · rw [if_neg (not_not.2 hn)] at hj
        exact nomatch hj
      · rw [if_pos hn, Option.some.injEq] at hj
        exact ⟨hsome hn, by omega⟩
    · rintro ⟨-, rfl⟩
      exact if_pos (Nat.succ_ne_zero j)
  · obtain ⟨base, hlen', hiff⟩ := hbase len hlen
    rw [← hplan, hlen', Nat.add_sub_cancel]
    exact hiff
  · obtain ⟨base, hlen', hiff⟩ := hbase len hlen
    rw [hlen']
    by_cases hd : (plan c entry busy).isDummy = true
    · rw [if_pos hd]
      exact mod_dummy c.speed (hiff.1 hd)
    · rw [if_neg hd, Nat.add_zero]
      exact fun hmod => hd (hiff.2 hmod)
  · -- only the last request is marked, and it is written
    have hj : j < n' := by
      by_contra hge
      have hmark : (entry j).map ((plan c entry busy).mark j) = entry j := by
        have hm : ¬(plan c entry busy).marks j = true := fun hm => by
          have := ((hf.marks j).1 hm).1
          omega
        cases hr' : entry j with
        | none => rfl
        | some r' =>
          rw [Option.map_some]
          unfold Plan.mark
          rw [if_neg hm]
      have horig : entry j = some r := by
        rcases Nat.lt_or_eq_of_le (Nat.le_of_not_lt hge) with hlt | rfl
        · rw [← hres.ahead j hlt, hr]
        · by_cases hvis : Visited c (plan c entry busy) entry busy n'
          · rw [← hmark, ← hres.seen hvis, hr]
          · rw [← hres.unseen hvis, hr]
      rw [(hfresh j r horig).1] at hofst
      exact Bool.false_ne_true hofst
    rw [hres.copied, length_copies]
    exact ⟨hsome (by omega), hj⟩

def padded : Cfg := ⟨true, .high, 8, .tid, 0⟩

/-- The payload of the second request starts at a bulk boundary once it is moved by
the dummy. -/
def movedRing : ℕ → Option XmitReq :=
  ringOf [request .data 408 (by decide), request .data 520 (by decide)]

lemma ringOf_fresh {l : List XmitReq}
    (h : ∀ r ∈ l, r.usbPktOfst = false ∧ ∀ b ∈ r.pktList, b.virAddr = true) : Fresh (ringOf l) :=
  fun _ r hr => h r (List.mem_of_getElem? hr)

def fullRing : ℕ → Option XmitReq := ringOf [request .data 464 (by decide)]

end UsbTx

end Rtl8831.Phl
