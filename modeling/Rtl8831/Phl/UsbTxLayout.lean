import Rtl8831.Phl.UsbTxRun

/-!
# The layout of an aggregate

Only a data request is moved behind the one before it, so a request of another
type overwrites it.  The room is checked against the size of the buffers of the
data rings, whichever ring the buffer was taken for.
-/

namespace Rtl8831.Phl

open List

namespace UsbTx

variable {c : Cfg} {p : Plan} {entry : ℕ → Option XmitReq} {busy j n : ℕ} {s : Xmit}
  {r : XmitReq}

variable (g : Agg) (a : ℕ) {i : ℕ}

lemma le_align8 : a ≤ align8 a := by
  unfold align8
  omega

lemma dvd_align8 : 8 ∣ align8 a := Nat.dvd_mul_left ..

lemma align8_add {a : ℕ} (h : 8 ∣ a) (b : ℕ) : align8 (a + b) = a + align8 b := by
  unfold align8
  omega

lemma align8_mono {a b : ℕ} (h : a ≤ b) : align8 a ≤ align8 b := by
  unfold align8
  omega

lemma payload_le (r : XmitReq) : r.payload ≤ r.totalLen :=
  (filter_sublist.map _).sum_le_sum fun _ _ => Nat.zero_le _

lemma wdLen_pos (r : XmitReq) : 0 < r.wdLen := by
  unfold XmitReq.wdLen
  split <;> decide

lemma len_pos (r : XmitReq) : 0 < r.len := by
  have h := wdLen_pos r
  unfold XmitReq.len
  omega

lemma put_txLen (r : XmitReq) : (g.put r).txLen = (g.place r).txLen + r.len := rfl

lemma put_txBufData (r : XmitReq) : (g.put r).txBufData = (g.place r).txBufData := rfl

lemma place_data {g : Agg} (hdvd : 8 ∣ g.txBufData) (hlen : g.txLen = g.txBufData + g.packetLen)
    (h : r.type = .data) :
    (g.place r).txBufData = align8 g.txLen ∧ (g.place r).txLen = align8 g.txLen := by
  have hle := le_align8 g.packetLen
  rw [hlen, align8_add hdvd]
  unfold Agg.place
  rw [if_pos h]
  refine ⟨rfl, ?_⟩
  show g.txLen + (align8 g.packetLen - g.packetLen) = _
  omega

lemma place_other (h : r.type ≠ .data) : g.place r = g := if_neg h

lemma le_place_txLen (r : XmitReq) : g.txLen ≤ (g.place r).txLen := by
  unfold Agg.place
  split
  · exact Nat.le_add_right ..
  · exact Nat.le_refl _

lemma aggAt_txLen_le (j : ℕ) : (aggAt c p entry j).txLen ≤ (aggAt c p entry (j + 1)).txLen := by
  cases hr : entry j with
  | none => rw [aggAt, hr]
  | some r =>
    rw [aggAt_succ hr, Agg.trasc_txLen, put_txLen]
    exact (le_place_txLen _ _).trans (Nat.le_add_right ..)

lemma aggAt_txLen_mono (h : i ≤ j) :
    (aggAt c p entry i).txLen ≤ (aggAt c p entry j).txLen := by
  induction h with
  | refl => exact Nat.le_refl _
  | step _ ih => exact ih.trans (aggAt_txLen_le _)

lemma aggAt_region (h : ∀ i < j, Continues c p entry i) :
    8 ∣ (aggAt c p entry j).txBufData ∧
      (aggAt c p entry j).txLen =
        (aggAt c p entry j).txBufData + (aggAt c p entry j).packetLen := by
  induction j with
  | zero => exact ⟨Nat.dvd_zero 8, rfl⟩
  | succ j ih =>
    obtain ⟨hdvd, hlen⟩ := ih fun i hi => h i (by omega)
    obtain ⟨r, hr, -, hdata, -⟩ := h j (Nat.lt_succ_self j)
    obtain ⟨hbuf, htx⟩ := place_data hdvd hlen ((mark_type p j r).trans hdata)
    rw [aggAt_succ hr, Agg.trasc_txBufData, Agg.trasc_txLen, Agg.trasc_packetLen, put_txLen,
      put_txBufData, hbuf, htx]
    exact ⟨dvd_align8 _, rfl⟩

lemma Visited.place_data (h : Visited c p entry busy j) (hdata : r.type = .data) :
    ((aggAt c p entry j).place r).txBufData = align8 (aggAt c p entry j).txLen ∧
      ((aggAt c p entry j).place r).txLen = align8 (aggAt c p entry j).txLen := by
  obtain ⟨hdvd, hlen⟩ := aggAt_region fun i hi => (h.2 i hi).2
  exact UsbTx.place_data hdvd hlen hdata

lemma copyAt_eq (hr : entry j = some r) : copyAt c p entry j =
    ⟨j, ((aggAt c p entry j).place (p.mark j r)).txBufData, (p.mark j r).len⟩ := by
  unfold copyAt
  rw [hr]

@[simp] lemma copyAt_pos (c : Cfg) (p : Plan) (entry : ℕ → Option XmitReq) (j : ℕ) :
    (copyAt c p entry j).pos = j := by
  unfold copyAt
  split <;> rfl

lemma length_copies (c : Cfg) (p : Plan) (entry : ℕ → Option XmitReq) (n : ℕ) :
    (copies c p entry n).length = n := by
  rw [copies, length_map, length_range]

lemma getElem_copies (h : i < (copies c p entry n).length) :
    (copies c p entry n)[i] = copyAt c p entry i := by
  simp only [copies, getElem_map, getElem_range]

def InBuf (c : Cfg) (s : Xmit) : Prop := ∀ k ∈ s.copied, k.start + k.len ≤ c.bufLen

/-- The room of the first `j` requests, each with its alignment. -/
def room (p : Plan) (entry : ℕ → Option XmitReq) (j : ℕ) : ℕ :=
  ∑ i ∈ Finset.range j, align8 ((entry i).elim 0 fun r => (p.mark i r).len)

lemma align8_txLen (h : ∀ i < j, Continues c p entry i) :
    align8 (aggAt c p entry j).txLen = room p entry j := by
  induction j with
  | zero =>
    unfold room
    rw [Finset.range_zero, Finset.sum_empty, aggAt]
    decide
  | succ j ih =>
    have hbefore : ∀ i < j, Continues c p entry i := fun i hi => h i (by omega)
    obtain ⟨r, hr, -, hdata, -⟩ := h j (Nat.lt_succ_self j)
    obtain ⟨hdvd, hlen⟩ := aggAt_region hbefore
    rw [aggAt_succ hr, Agg.trasc_txLen, put_txLen,
      (place_data hdvd hlen ((mark_type p j r).trans hdata)).2, align8_add (dvd_align8 _),
      ih hbefore]
    unfold room
    rw [Finset.sum_range_succ, hr]
    rfl

lemma Visited.start (h : Visited c p entry busy j) (hr : entry j = some r) :
    (copyAt c p entry j).start = room p entry (if r.type = .data then j else j - 1) := by
  rw [copyAt_eq hr]
  dsimp only
  by_cases hdata : r.type = .data
  · rw [if_pos hdata, (h.place_data ((mark_type ..).trans hdata)).1,
      align8_txLen fun i hi => (h.2 i hi).2]
  · rw [if_neg hdata, place_other _ (fun ht => hdata ((mark_type ..).symm.trans ht))]
    cases j with
    | zero => rfl
    | succ j =>
      obtain ⟨r', hr', -, hdata', -⟩ := (h.2 j (Nat.lt_succ_self j)).2
      have hbefore : Visited c p entry busy j :=
        ⟨by have := h.1; omega, fun i hi => h.2 i (by omega)⟩
      rw [aggAt_succ hr', Agg.trasc_txBufData, put_txBufData,
        (hbefore.place_data ((mark_type ..).trans hdata')).1,
        align8_txLen fun i hi => (hbefore.2 i hi).2]
      rfl

lemma Written.le_txBufSize (h : Written c p entry busy j) (hr : entry j = some r)
    (hofst : c.paddingChk = false → (p.mark j r).usbPktOfst = false) :
    (copyAt c p entry j).start + (copyAt c p entry j).len ≤ txBufSize := by
  obtain ⟨⟨hvis, r', hr', hroom, -⟩, -⟩ := h
  rw [hr, Option.some.injEq] at hr'
  subst hr'
  have hpay : r.payload ≤ r.totalLen := payload_le r
  have hdummy : (p.mark j r).dummy ≤ 8 := by
    unfold XmitReq.dummy
    split <;> decide
  have hlen : (p.mark j r).len = r.wdLen + (p.mark j r).dummy + r.payload := by
    unfold XmitReq.len
    rw [mark_wdLen, mark_payload]
  have hwd : r.wdLen ≤ p.wdLen j r := Nat.le_add_right ..
  have hle := le_align8 (p.wdLen j r + r.totalLen)
  -- the check, in either build, leaves room for the dummy
  have hcheck : align8 (p.wdLen j r + r.totalLen) + (aggAt c p entry j).txLen +
      (p.mark j r).dummy ≤ txBufSize ∧ 8 ∣ txBufSize - (p.mark j r).dummy := by
    unfold Agg.noRoom at hroom
    rw [mark_totalLen] at hroom
    cases hpad : c.paddingChk with
    | true =>
      rw [hpad, if_pos rfl] at hroom
      refine ⟨by unfold txBufSize pktOffsetDummy at *; omega, ?_⟩
      unfold XmitReq.dummy
      split <;> decide
    | false =>
      rw [hpad, if_neg Bool.false_ne_true] at hroom
      have hzero : (p.mark j r).dummy = 0 := by
        unfold XmitReq.dummy
        rw [hofst hpad]
        rfl
      rw [hzero]
      exact ⟨by omega, by decide⟩
  obtain ⟨hfit, hsize⟩ := hcheck
  rw [copyAt_eq hr, hlen]
  dsimp only
  by_cases hdata : r.type = .data
  · rw [(hvis.place_data ((mark_type ..).trans hdata)).1]
    have hal := dvd_align8 (p.wdLen j r + r.totalLen)
    have hmono : align8 (aggAt c p entry j).txLen ≤
        align8 (txBufSize - (p.mark j r).dummy - align8 (p.wdLen j r + r.totalLen)) :=
      align8_mono (by omega)
    have hself : align8 (txBufSize - (p.mark j r).dummy - align8 (p.wdLen j r + r.totalLen)) =
        txBufSize - (p.mark j r).dummy - align8 (p.wdLen j r + r.totalLen) := by
      unfold align8 at *
      omega
    omega
  · rw [place_other _ (fun ht => hdata ((mark_type ..).symm.trans ht))]
    obtain ⟨-, htx⟩ := aggAt_region fun i hi => (hvis.2 i hi).2
    omega

lemma plan_marks_false (h : c.paddingChk = false) (j : ℕ) :
    (plan c entry busy).marks j = false := by
  unfold plan
  rw [h, if_neg Bool.false_ne_true]
  rfl

/-- The buffer is never overrun for a data ring.  For the management ring it is
not exactly if the requests that the pass admits end within the smaller buffer. -/
theorem usb_tx_in_buf_iff (c : Cfg) (entry : ℕ → Option XmitReq) (busy : ℕ)
    (hofst : c.paddingChk = false → ∀ j r, entry j = some r → r.usbPktOfst = false) :
    InBuf c (phlHandleXmitRingUsb c entry busy) ↔
      (c.cat = .mgnt → ∀ j r, Written c (plan c entry busy) entry busy j → entry j = some r →
        room (plan c entry busy) entry (if r.type = .data then j else j - 1) +
          ((plan c entry busy).mark j r).len ≤ txMgntBufSize) := by
  obtain ⟨n, hres⟩ := phlHandleXmitRingUsb_spec c entry busy
  have hmem : ∀ k, k ∈ (phlHandleXmitRingUsb c entry busy).copied ↔
      ∃ j < n, copyAt c (plan c entry busy) entry j = k := by
    intro k
    rw [hres.copied, copies, mem_map]
    simp only [mem_range]
  have hlt : ∀ j, Written c (plan c entry busy) entry busy j → j < n := by
    intro j hj
    by_contra hge
    rcases Nat.lt_or_eq_of_le (Nat.le_of_not_lt hge) with hnj | rfl
    · exact hres.rest (hj.1.1.written hnj)
    · exact hres.rest hj
  constructor
  · intro h hcat j r hw hr
    have hk := h _ ((hmem _).mpr ⟨j, hlt j hw, rfl⟩)
    rw [hw.1.1.start hr, copyAt_eq hr] at hk
    unfold Cfg.bufLen at hk
    rw [if_pos hcat] at hk
    exact hk
  · intro h k hk
    obtain ⟨j, hj, rfl⟩ := (hmem k).mp hk
    have hw := hres.written j hj
    obtain ⟨-, r, hr, -⟩ := hw
    have hw := hres.written j hj
    unfold Cfg.bufLen
    by_cases hcat : c.cat = .mgnt
    · rw [if_pos hcat, hw.1.1.start hr, copyAt_eq hr]
      exact h hcat j r hw hr
    · rw [if_neg hcat]
      refine hw.le_txBufSize hr fun hpad => ?_
      unfold Plan.mark
      rw [plan_marks_false hpad, if_neg Bool.false_ne_true]
      exact hofst hpad j r hr

/-- A request with one buffer of `n` bytes. -/
def request (type : PktType) (n : ℕ) (h : n < 2 ^ 16) : XmitReq :=
  ⟨type, true, false, [⟨true, n, h⟩], show 1 < 2 ^ 8 by decide⟩

def ringOf (l : List XmitReq) (j : ℕ) : Option XmitReq := l[j]?

def highSpeed (cat : RingCat) : Cfg := ⟨false, .high, 8, cat, 8⟩

theorem usb_tx_in_buf_iff_data :
    InBuf (highSpeed .tid) (phlHandleXmitRingUsb (highSpeed .tid)
      (ringOf [request .data 1500 (by decide), request .data 1500 (by decide)]) 2) := by
  refine (usb_tx_in_buf_iff (highSpeed .tid) _ 2 fun _ j r hr => ?_).mpr fun h => nomatch h
  rcases mem_pair.mp (mem_of_getElem? hr) with rfl | rfl <;> rfl

/-- A management request of 1500 bytes and its WD do not fit. -/
theorem mgnt_buffer_overrun :
    ¬InBuf (highSpeed .mgnt)
      (phlHandleXmitRingUsb (highSpeed .mgnt) (ringOf [request .mgnt 1500 (by decide)]) 1) := by
  intro h
  exact absurd (h ⟨0, 0, 1548⟩ (by decide)) (by decide)

def XmitReq.unmarked (r : XmitReq) : XmitReq := { r with usbPktOfst := false }

/-- What is taken out of the ring is what was written, in order, in disjoint
regions on 8-byte boundaries that end where the transfer does; the rest stays. -/
structure Laid (entry : ℕ → Option XmitReq) (s : Xmit) : Prop where
  pos : s.copied.map Copy.pos = range s.phlIdx
  recycled : s.recycled = range s.phlIdx
  whole : ∀ k ∈ s.copied, ∃ r, s.entry k.pos = some r ∧ k.len = r.len
  aligned : ∀ k ∈ s.copied, 8 ∣ k.start
  disjoint : s.copied.Pairwise fun k k' => k.start + k.len ≤ k'.start
  submitted : s.submitted = s.copied.getLast?.map fun k => k.start + k.len
  rest : ∀ j, s.phlIdx ≤ j → (s.entry j).map XmitReq.unmarked = (entry j).map XmitReq.unmarked

lemma unmarked_mark (p : Plan) (j : ℕ) (r : XmitReq) :
    (p.mark j r).unmarked = r.unmarked := by
  unfold Plan.mark
  split <;> rfl

lemma Visited.region (h : Visited c p entry busy j) (hr : entry j = some r)
    (hdata : j = 0 ∨ r.type = .data) :
    8 ∣ (copyAt c p entry j).start ∧ (aggAt c p entry j).txLen ≤ (copyAt c p entry j).start ∧
      (aggAt c p entry (j + 1)).txLen =
        (copyAt c p entry j).start + (copyAt c p entry j).len := by
  rw [aggAt_succ hr, Agg.trasc_txLen, put_txLen, copyAt_eq hr]
  dsimp only
  by_cases ht : r.type = .data
  · obtain ⟨hbuf, htx⟩ := h.place_data ((mark_type p j r).trans ht)
    rw [hbuf, htx]
    exact ⟨dvd_align8 _, le_align8 _, rfl⟩
  · obtain rfl := hdata.resolve_right ht
    rw [place_other _ (fun ht' => ht ((mark_type ..).symm.trans ht')), aggAt]
    exact ⟨Nat.dvd_zero 8, Nat.le_refl 0, rfl⟩

lemma Result.laid (h : Result c p entry busy n s)
    (hgood : ∀ j r, Reached c p entry busy j → entry j = some r →
      r.wdOk c.dmaCh ∧ (j = 0 ∨ r.type = .data)) : Laid entry s := by
  have hreach : ¬Reached c p entry busy n := by
    intro hreach
    obtain ⟨r, hr, -⟩ := hreach.2
    exact h.rest ⟨hreach, r, hr, (hgood n r hreach hr).1⟩
  obtain ⟨hps, hidx, htx⟩ := h.sends hreach
  have hregion : ∀ i < n, ∃ r, entry i = some r ∧ 8 ∣ (copyAt c p entry i).start ∧
      (aggAt c p entry i).txLen ≤ (copyAt c p entry i).start ∧
      (aggAt c p entry (i + 1)).txLen =
        (copyAt c p entry i).start + (copyAt c p entry i).len := by
    intro i hi
    obtain ⟨hri, r, hr, -⟩ := h.written i hi
    exact ⟨r, hr, hri.1.region hr (hgood i r hri hr).2⟩
  have hmem : ∀ k ∈ s.copied, ∃ i < n, copyAt c p entry i = k := by
    intro k hk
    rw [h.copied, copies, mem_map] at hk
    obtain ⟨i, hi, rfl⟩ := hk
    exact ⟨i, mem_range.1 hi, rfl⟩
  refine ⟨?_, h.recycled, fun k hk => ?_, fun k hk => ?_, ?_, ?_, fun i hi => ?_⟩
  · rw [h.copied, hidx, copies, map_map]
    exact (map_congr_left fun i _ => copyAt_pos c p entry i).trans (map_id _)
  · obtain ⟨i, hi, rfl⟩ := hmem k hk
    obtain ⟨r, hr, -⟩ := hregion i hi
    refine ⟨p.mark i r, ?_, ?_⟩
    · rw [copyAt_pos, h.behind i hi, hr]
      rfl
    · rw [copyAt_eq hr]
  · obtain ⟨i, hi, rfl⟩ := hmem k hk
    obtain ⟨r, hr, hdvd, -⟩ := hregion i hi
    exact hdvd
  · rw [h.copied, pairwise_iff_getElem]
    intro i k hi hk hik
    rw [getElem_copies, getElem_copies]
    rw [length_copies] at hi hk
    obtain ⟨-, -, -, -, hend⟩ := hregion i hi
    obtain ⟨-, -, -, hstart, -⟩ := hregion k hk
    have hmono : (aggAt c p entry (i + 1)).txLen ≤ (aggAt c p entry k).txLen :=
      aggAt_txLen_mono hik
    omega
  · unfold Xmit.submitted
    rw [hps, htx, h.copied]
    cases n with
    | zero => rfl
    | succ m =>
      obtain ⟨r, hr, -, -, hend⟩ := hregion m (Nat.lt_succ_self m)
      rw [if_pos (decide_eq_true (Nat.succ_ne_zero m)), copies_succ hr, ← copyAt_eq hr,
        getLast?_concat, hend]
      rfl
  · rw [hidx] at hi
    rcases Nat.lt_or_eq_of_le hi with hlt | rfl
    · rw [h.ahead i hlt]
    · by_cases hvis : Visited c p entry busy n
      · rw [h.seen hvis, Option.map_map]
        congr 1
        funext r
        exact unmarked_mark p n r
      · rw [h.unseen hvis]

/-- A pass lays out what it takes exactly if the WD of every request that it comes
to can be built and only the first may be no data request. -/
theorem usb_tx_laid_iff (c : Cfg) (entry : ℕ → Option XmitReq) (busy : ℕ) :
    Laid entry (phlHandleXmitRingUsb c entry busy) ↔
      ∀ j r, Reached c (plan c entry busy) entry busy j → entry j = some r →
        r.wdOk c.dmaCh ∧ (j = 0 ∨ r.type = .data) := by
  obtain ⟨n, hres⟩ := phlHandleXmitRingUsb_spec c entry busy
  refine ⟨fun h j r hreach hr => ?_, hres.laid⟩
  have hlen : (phlHandleXmitRingUsb c entry busy).phlIdx = n := by
    have hpos := congrArg length h.pos
    rw [length_map, length_range, hres.copied, length_copies] at hpos
    exact hpos.symm
  have hok : r.wdOk c.dmaCh := by
    by_contra hbad
    have hnot : ¬Written c (plan c entry busy) entry busy j := by
      rintro ⟨-, r', hr', hok'⟩
      rw [hr, Option.some.injEq] at hr'
      exact hbad (hr' ▸ hok')
    have hjn : j = n := by
      rcases Nat.lt_trichotomy j n with hlt | heq | hgt
      · exact absurd (hres.written j hlt) hnot
      · exact heq
      · exact absurd (hreach.1.written hgt) hres.rest
    subst hjn
    have hidx := (hres.fails hreach).2
    omega
  refine ⟨hok, ?_⟩
  by_contra hbad
  obtain ⟨hj, hother⟩ := not_or.mp hbad
  obtain ⟨i, rfl⟩ := Nat.exists_eq_succ_of_ne_zero hj
  have hw : Written c (plan c entry busy) entry busy (i + 1) := ⟨hreach, r, hr, hok⟩
  have hin : i + 1 < n := by
    by_contra hge
    rcases Nat.lt_or_eq_of_le (Nat.le_of_not_lt hge) with hlt | rfl
    · exact hres.rest (hreach.1.written hlt)
    · exact hres.rest hw
  -- the request starts where the one before it starts
  obtain ⟨r', hr', -, hdata', -⟩ := (hreach.1.2 i (Nat.lt_succ_self i)).2
  have hstart : (copyAt c (plan c entry busy) entry (i + 1)).start =
      (copyAt c (plan c entry busy) entry i).start := by
    rw [copyAt_eq hr, copyAt_eq hr']
    dsimp only
    rw [place_other _ (fun ht => hother ((mark_type ..).symm.trans ht)), aggAt_succ hr',
      Agg.trasc_txBufData, put_txBufData]
  have hdis := h.disjoint
  rw [hres.copied, pairwise_iff_getElem] at hdis
  have hlt := hdis i (i + 1) (by rw [length_copies]; omega) (by rw [length_copies]; omega)
    (Nat.lt_succ_self i)
  rw [getElem_copies, getElem_copies, hstart] at hlt
  have hpos : 0 < (copyAt c (plan c entry busy) entry i).len := by
    rw [copyAt_eq hr']
    exact len_pos _
  omega

/-- A management request behind a data request overwrites it. -/
theorem other_type_overwrites :
    ¬Laid (ringOf [request .data 100 (by decide), request .mgnt 100 (by decide)])
      (phlHandleXmitRingUsb (highSpeed .tid)
        (ringOf [request .data 100 (by decide), request .mgnt 100 (by decide)]) 2) := by
  intro h
  have hcopied : (phlHandleXmitRingUsb (highSpeed .tid)
      (ringOf [request .data 100 (by decide), request .mgnt 100 (by decide)]) 2).copied =
      [⟨0, 0, 148⟩, ⟨1, 0, 148⟩] := by decide
  have hdis := h.disjoint
  rw [hcopied] at hdis
  exact absurd (rel_of_pairwise_cons hdis (mem_singleton_self _)) (by decide)

end UsbTx

end Rtl8831.Phl
