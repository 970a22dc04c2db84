import Rtl8831.Core.XmitPoolLedger

/-!
# Conservation of transmit frames

`core_tx_per_packet`, `rtw_core_tx` and `rtw_core_tx_recycle` keep the ledger
of frames, buffers and packets, as long as no frame of several fragments is
given up before its last one and the bridge refuses no packet.
-/

namespace Rtl8831.Core

open Lib XmitPool Multiset

/-! ## Frames that are counted out right -/

def TxFate.noMicKey (t : TxFate) (a : TxAttrib) : Prop :=
  a.encrypt = .tkip ∧ t.micKeyNull = true

instance (t : TxFate) (a : TxAttrib) : Decidable (t.noMicKey a) :=
  inferInstanceAs (Decidable (_ ∧ _))

/-- A frame of several fragments, if it is sent at all, finds a buffer and its
MIC key, and the ring is not full before its last fragment. -/
def TxFate.Fits (t : TxFate) (fragLen bufs : ℕ) : Prop :=
  ∀ a, t.attrib = some a → (getWlFragParas fragLen a).2 ≤ rtwMaxFragNum →
    (getWlFragParas fragLen a).2 = 1 ∨
      1 < (getWlFragParas fragLen a).2 ∧ bufs ≠ 0 ∧ ¬t.noMicKey a ∧
        (t.sleeping = true ∨ ∀ j < (getWlFragParas fragLen a).2, t.ringFull j = true →
          j + 1 = (getWlFragParas fragLen a).2)

/-- Whether the frame is still busy when `core_tx_per_packet` returns. -/
def TxFate.keeps (t : TxFate) (fragLen bufs : ℕ) : Bool :=
  t.attrib.elim false fun a =>
    decide ((getWlFragParas fragLen a).2 ≤ rtwMaxFragNum ∧ bufs ≠ 0 ∧ ¬t.noMicKey a ∧
      (t.sleeping = true ∨ 1 < (getWlFragParas fragLen a).2 ∨ t.ringFull 0 = false))

def FitAll (fragLen : ℕ) : ℕ → List TxFate → Prop
  | _, [] => True
  | bufs, t :: ts =>
    t.Fits fragLen bufs ∧
      FitAll fragLen (if t.keeps fragLen bufs then bufs - 1 else bufs) ts

/-- The copies for which `core_tx_per_packet` is called. -/
def sentCopies (oriNoNeed : Bool) : List TxCopy → List TxFate
  | [] => []
  | c :: cs =>
    if (oriNoNeed = true ∧ cs = []) ∨ c.copied = true then c.fate :: sentCopies oriNoNeed cs
    else sentCopies oriNoNeed cs

def TxPacket.fates (s : XmitPool) (t : TxPacket) : List TxFate :=
  match s.freeXmitQueue, t.route with
  | [], _ | _, .ap .fail => []
  | _, .sta _ | _, .ap .single => [t.fate]
  | _ :: q, .ap (.bmcToUc copies) =>
    if nrXmitframe / 4 < q.length then
      if q.length < copies.length then sentCopies false (copies.take q.length) ++ [t.fate]
      else sentCopies true copies
    else [t.fate]

def TxPacket.Fits (s : XmitPool) (t : TxPacket) : Prop :=
  (∀ b, t.route = .sta (some b) → s.freeXmitQueue ≠ [] → b.fails = false) ∧
    FitAll s.fragLen s.freeTxreqQueue.length (t.fates s)

def TxEvent.Fits (s : XmitPool) : TxEvent → Prop
  | .tx t => t.Fits s
  | .recycle _ => True

namespace XmitPool

variable {nFrames nBufs : ℕ} {s : XmitPool} {busy : Multiset TxReq}
  {F : Multiset (ℕ × XmitFrame)} {B K : Multiset ℕ} {f k : ℕ} {o : Option ℕ}

/-! ## `core_tx_per_packet` -/

variable {a : TxAttrib} {t : TxFate} {s' : XmitPool}

lemma fillTxreqPre_many (hn : rtwMaxFragNum < (getWlFragParas s.fragLen a).2) :
    s.coreWlanFillTxreqPre f a = (false, s) := by
  rw [coreWlanFillTxreqPre]
  dsimp only
  rw [if_pos hn]

lemma fillTxreqPre_noBuffer (hn : (getWlFragParas s.fragLen a).2 ≤ rtwMaxFragNum)
    (hq : s.freeTxreqQueue = []) :
    s.coreWlanFillTxreqPre f a =
      (false, s.setFrame f { s.frame f with txreqCnt := (getWlFragParas s.fragLen a).2 }) := by
  rw [coreWlanFillTxreqPre]
  dsimp only
  rw [if_neg (Nat.not_lt.2 hn), getTxreqBuffer, show (s.setFrame f _).freeTxreqQueue = [] from hq]

lemma Ledger.fillTxreqPre {b : ℕ} {q : List ℕ}
    (h : Ledger nFrames nBufs s ⟨(f, { pkt := some k }) ::ₘ F, B, K⟩ busy)
    (hn : (getWlFragParas s.fragLen a).2 ≤ rtwMaxFragNum) (hq : s.freeTxreqQueue = b :: q) :
    (s.coreWlanFillTxreqPre f a).1 = true ∧
      Ledger nFrames nBufs (s.coreWlanFillTxreqPre f a).2
        ⟨(f, ⟨(getWlFragParas s.fragLen a).2, 0, some k, some b⟩) ::ₘ F, b ::ₘ B, K⟩ busy := by
  have hset := h.setFrame { txreqCnt := (getWlFragParas s.fragLen a).2, pkt := some k }
  obtain ⟨s', hget, hbuf, hframe⟩ := hset.getBuf (b := b) (q := q) hq
  have hx := hbuf.frame_eq
  rw [coreWlanFillTxreqPre]
  dsimp only
  rw [if_neg (Nat.not_lt.2 hn), h.frame_eq]
  dsimp only
  rw [hget]
  dsimp only
  rw [hx]
  exact ⟨rfl, hbuf.setFrame _⟩

lemma preparePhl_fail {mic : Bool} {s' : XmitPool}
    (hpre : s.coreWlanFillTxreqPre f a = (false, s')) :
    s.coreTxPreparePhl f a mic = (false, s') := by
  rw [coreTxPreparePhl, hpre]
  rfl

lemma preparePhl_noMicKey (hpre : s.coreWlanFillTxreqPre f a = (true, s')) (hmic : t.noMicKey a) :
    s.coreTxPreparePhl f a t.micKeyNull = (false, s') := by
  rw [coreTxPreparePhl, hpre]
  dsimp only
  rw [if_neg (by decide)]
  exact if_pos hmic

lemma preparePhl_ok (hpre : s.coreWlanFillTxreqPre f a = (true, s')) (hmic : ¬t.noMicKey a) :
    s.coreTxPreparePhl f a t.micKeyNull = (true, s') := by
  rw [coreTxPreparePhl, hpre]
  dsimp only
  rw [if_neg (by decide)]
  exact if_neg hmic

lemma perPacket_fail (hat : t.attrib = some a)
    (hprep : (s.setFrame f { s.frame f with pkt := some k }).coreTxPreparePhl f a t.micKeyNull =
      (false, s')) :
    s.coreTxPerPacket f k t = s'.abortTx f k := by
  rw [coreTxPerPacket, hat]
  dsimp only
  rw [hprep]
  rfl

lemma perPacket_ok (hat : t.attrib = some a)
    (hprep : (s.setFrame f { s.frame f with pkt := some k }).coreTxPreparePhl f a t.micKeyNull =
      (true, s')) :
    s.coreTxPerPacket f k t = if t.sleeping then
        (true, { s' with
          sleepQ := s'.sleepQ ++ List.replicate (s'.frame f).txreqCnt (s'.reqOf f) })
      else if (s'.coreTxCallPhl f t.ringFull).1 then s'.coreTxCallPhl f t.ringFull
      else (s'.coreTxCallPhl f t.ringFull).2.abortTx f k := by
  rw [coreTxPerPacket, hat]
  dsimp only
  rw [hprep]
  rfl

lemma Ledger.park {n b : ℕ}
    (h : Ledger nFrames nBufs s ⟨(f, ⟨n, 0, some k, some b⟩) ::ₘ F, b ::ₘ B, k ::ₘ K⟩ busy)
    (hn : 0 < n) :
    Ledger nFrames nBufs
      { s with sleepQ := s.sleepQ ++ List.replicate (s.frame f).txreqCnt (s.reqOf f) } ⟨F, B, K⟩
      (⟨f, b, k⟩ ::ₘ busy) := by
  have hx := h.frame_eq
  rw [reqOf_eq hx rfl rfl, hx]
  refine Ledger.submit h hn rfl rfl (zero_add n) rfl ?_
  rw [live, ← coe_add, coe_replicate, live]
  exact (add_assoc _ _ _).symm

lemma keeps_eq {a : TxAttrib} (hat : t.attrib = some a) (fragLen bufs : ℕ) :
    t.keeps fragLen bufs = true ↔
      (getWlFragParas fragLen a).2 ≤ rtwMaxFragNum ∧ bufs ≠ 0 ∧ ¬t.noMicKey a ∧
        (t.sleeping = true ∨ 1 < (getWlFragParas fragLen a).2 ∨ t.ringFull 0 = false) := by
  rw [TxFate.keeps, hat, Option.elim_some, decide_eq_true_iff]

lemma Ledger.perPacket (h : Ledger nFrames nBufs s ⟨(f, { pkt := o }) ::ₘ F, B, k ::ₘ K⟩ busy)
    (hfits : t.Fits s.fragLen s.freeTxreqQueue.length) :
    (¬t.keeps s.fragLen s.freeTxreqQueue.length = true ∧
        Ledger nFrames nBufs (s.coreTxPerPacket f k t).2 ⟨F, B, K⟩ busy) ∨
      (t.keeps s.fragLen s.freeTxreqQueue.length = true ∧
        ∃ r, Ledger nFrames nBufs (s.coreTxPerPacket f k t).2 ⟨F, B, K⟩ (r ::ₘ busy)) := by
  have hset := h.setFrame { pkt := some k }
  have hx : { s.frame f with pkt := some k } = ({ pkt := some k } : XmitFrame) := by
    rw [h.frame_eq]
  cases hat : t.attrib with
  | none =>
    left
    rw [coreTxPerPacket, hat, hx]
    refine ⟨by simp [TxFate.keeps, hat], ?_⟩
    exact Ledger.abort (x := { pkt := some k }) (by simpa using hset) (Or.inl rfl) (Nat.zero_le _)
  | some a =>
    specialize hfits a hat
    rw [keeps_eq hat]
    rcases Nat.lt_or_ge rtwMaxFragNum (getWlFragParas s.fragLen a).2 with hmany | hn
    · -- too many fragments: `txreq_cnt` is still zero
      left
      rw [perPacket_fail hat (preparePhl_fail (fillTxreqPre_many hmany)), hx]
      refine ⟨fun hk => Nat.not_lt.2 hk.1 hmany, ?_⟩
      exact Ledger.abort (x := { pkt := some k }) (by simpa using hset) (Or.inl rfl)
        (Nat.zero_le _)
    specialize hfits hn
    have hpos : 0 < (getWlFragParas s.fragLen a).2 := by omega
    cases hq : s.freeTxreqQueue with
    | nil =>
      left
      have hone : (getWlFragParas s.fragLen a).2 = 1 := by
        rcases hfits with hone | ⟨-, hbufs, -⟩
        · exact hone
        · exact absurd (by rw [hq]; rfl) hbufs
      rw [perPacket_fail hat (preparePhl_fail (fillTxreqPre_noBuffer hn hq)), setFrame_self,
        setFrame_setFrame, hx]
      refine ⟨fun hk => hk.2.1 rfl, Ledger.abort
        (x := ⟨(getWlFragParas s.fragLen a).2, 0, some k, none⟩) ?_ (Or.inl rfl) hone.le⟩
      rw [refs_none, zero_add]
      exact h.setFrame ⟨(getWlFragParas s.fragLen a).2, 0, some k, none⟩
    | cons b q =>
      obtain ⟨hok, hpre⟩ := Ledger.fillTxreqPre (a := a) hset hn hq
      rw [← hx] at hok hpre
      have hpair := Prod.ext (y := (true, _)) hok rfl
      by_cases hmic : t.noMicKey a
      · left
        have hone : (getWlFragParas s.fragLen a).2 = 1 := by
          rcases hfits with hone | ⟨-, -, hkey, -⟩
          · exact hone
          · exact absurd hmic hkey
        rw [perPacket_fail hat (preparePhl_noMicKey hpair hmic)]
        refine ⟨fun hk => hk.2.2.1 hmic, Ledger.abort
          (x := ⟨(getWlFragParas s.fragLen a).2, 0, some k, some b⟩) ?_ (Or.inl rfl) hone.le⟩
        exact hpre
      rw [perPacket_ok hat (preparePhl_ok hpair hmic)]
      by_cases hsleep : t.sleeping = true
      · right
        rw [if_pos hsleep]
        exact ⟨⟨hn, by simp, hmic, Or.inl hsleep⟩, _, hpre.park hpos⟩
      · rw [if_neg hsleep]
        have hfull : ∀ j < (getWlFragParas s.fragLen a).2, t.ringFull j = true →
            j + 1 = (getWlFragParas s.fragLen a).2 := by
          rcases hfits with hone | ⟨-, -, -, hring⟩
          · intro j hj _
            omega
          · exact hring.resolve_left hsleep
        rcases hpre.callPhl hpos hfull with ⟨hone, hfail, hledger⟩ | ⟨hin, hledger⟩
        · left
          refine ⟨?_, hledger⟩
          rintro ⟨-, -, -, hs | hlt | hfree⟩
          · exact hsleep hs
          · exact hlt.ne' hone
          · exact Bool.false_ne_true (hfree.symm.trans hfail)
        · right
          exact ⟨⟨hn, by simp, hmic, Or.inr hin⟩, _, hledger⟩

/-! ## The fragmentation threshold stays as it is -/

@[simp] lemma putTxreqBuf_fragLen (s : XmitPool) (o : Option ℕ) :
    (s.putTxreqBuf o).fragLen = s.fragLen := by
  cases o <;> rfl

@[simp] lemma rtwOsXmitComplete_fragLen (s : XmitPool) (o : Option ℕ) :
    (s.rtwOsXmitComplete o).fragLen = s.fragLen := by
  cases o <;> rfl

@[simp] lemma setFrame_fragLen (s : XmitPool) (f : ℕ) (x : XmitFrame) :
    (s.setFrame f x).fragLen = s.fragLen := rfl

@[simp] lemma setFrame_freeTxreqQueue (s : XmitPool) (f : ℕ) (x : XmitFrame) :
    (s.setFrame f x).freeTxreqQueue = s.freeTxreqQueue := rfl

@[simp] lemma coreTxFreeXmitframe_fragLen (s : XmitPool) (f : ℕ) :
    (s.coreTxFreeXmitframe f).fragLen = s.fragLen := by
  rw [coreTxFreeXmitframe]
  dsimp only
  split_ifs <;> simp

@[simp] lemma abortTx_fragLen (s : XmitPool) (f k : ℕ) :
    (s.abortTx f k).2.fragLen = s.fragLen := by
  rw [abortTx]
  dsimp only
  split_ifs <;> simp [rtwOsPktComplete]

@[simp] lemma coreTxPreparePhl_fragLen (s : XmitPool) (f : ℕ) (a : TxAttrib) (mic : Bool) :
    (s.coreTxPreparePhl f a mic).2.fragLen = s.fragLen := by
  have hpre : (s.coreWlanFillTxreqPre f a).2.fragLen = s.fragLen := by
    rcases Nat.lt_or_ge rtwMaxFragNum (getWlFragParas s.fragLen a).2 with hmany | hn
    · rw [fillTxreqPre_many hmany]
    cases hq : s.freeTxreqQueue with
    | nil => rw [fillTxreqPre_noBuffer hn hq, setFrame_fragLen]
    | cons b q =>
      simp [coreWlanFillTxreqPre, getTxreqBuffer, Nat.not_lt.2 hn, hq]
  rw [coreTxPreparePhl]
  split_ifs <;> exact hpre

lemma coreTxPerPacket_fragLen (s : XmitPool) (f k : ℕ) (t : TxFate) :
    (s.coreTxPerPacket f k t).2.fragLen = s.fragLen := by
  rw [coreTxPerPacket]
  dsimp only
  cases t.attrib with
  | none => simp
  | some a =>
    dsimp only
    have hcall : ∀ s' : XmitPool, (s'.coreTxCallPhl f t.ringFull).2.fragLen = s'.fragLen := by
      intro s'
      obtain ⟨m, heq, -⟩ := addTxReqs_spec s' (s'.reqOf f) t.ringFull (s'.frame f).txreqCnt 0
      rw [coreTxCallPhl, heq]
    split_ifs <;> simp [hcall]

/-! ## `rtw_core_tx` -/

lemma Ledger.perPacket_rest {ts : List TxFate}
    (h : Ledger nFrames nBufs s ⟨(f, { pkt := o }) ::ₘ F, B, k ::ₘ K⟩ busy)
    (hfit : FitAll s.fragLen s.freeTxreqQueue.length (t :: ts)) :
    ∃ busy', Ledger nFrames nBufs (s.coreTxPerPacket f k t).2 ⟨F, B, K⟩ busy' ∧
      FitAll (s.coreTxPerPacket f k t).2.fragLen
        (s.coreTxPerPacket f k t).2.freeTxreqQueue.length ts := by
  obtain ⟨hfits, hrest⟩ := hfit
  have hlen := h.length_txreq
  rw [coreTxPerPacket_fragLen]
  rcases h.perPacket hfits with ⟨hk, hledger⟩ | ⟨hk, r, hledger⟩
  · refine ⟨busy, hledger, ?_⟩
    have hlen' := hledger.length_txreq
    rw [if_neg hk] at hrest
    convert hrest using 1
    dsimp only at hlen hlen'
    omega
  · refine ⟨r ::ₘ busy, hledger, ?_⟩
    have hlen' := hledger.length_txreq
    rw [if_pos hk] at hrest
    convert hrest using 1
    rw [card_cons] at hlen'
    dsimp only at hlen hlen'
    omega

lemma Ledger.bmcToUc (copies : List TxCopy) (h : Ledger nFrames nBufs s ⟨F, B, K⟩ busy) :
    let r := s.rtwApDataBmcToUc copies
    Ledger nFrames nBufs r.2.2
        ⟨((r.1.map fun x => (x.1, ({} : XmitFrame)) : List _) : Multiset _) + F, B, K⟩ busy ∧
      r.1.map Prod.snd = copies.take s.freeXmitQueue.length ∧
      r.2.1 = decide (s.freeXmitQueue.length < copies.length) ∧
      r.2.2.freeTxreqQueue = s.freeTxreqQueue ∧ r.2.2.fragLen = s.fragLen := by
  induction copies generalizing s F with
  | nil => simpa [rtwApDataBmcToUc] using h
  | cons c cs ih =>
    cases hq : s.freeXmitQueue with
    | nil =>
      have halloc : s.coreTxAllocXmitframe = none := by rw [coreTxAllocXmitframe, hq]
      simpa [rtwApDataBmcToUc, halloc] using h
    | cons g q =>
      obtain ⟨s', halloc, hledger, hxmit, htxreq, hlen⟩ := h.alloc hq
      obtain ⟨hl, htake, hneed, htx, hfr⟩ := ih hledger
      rw [hxmit] at htake hneed
      simp only [rtwApDataBmcToUc, halloc]
      refine ⟨?_, ?_, ?_, htx.trans htxreq, hfr.trans hlen⟩
      · convert hl using 2
        rw [List.map_cons, ← cons_coe, cons_add, add_cons]
      · rw [List.map_cons, htake, List.length_cons, List.take_succ_cons]
      · rw [hneed]
        simp

def pending (frames : List (ℕ × TxCopy)) : Multiset (ℕ × XmitFrame) :=
  (frames.map fun x => (x.1, ({} : XmitFrame)) : List _)

lemma pending_cons (x : ℕ × TxCopy) (frames : List (ℕ × TxCopy)) :
    pending (x :: frames) = (x.1, {}) ::ₘ pending frames := rfl

lemma Ledger.sendCopies {ori : Bool} {frames : List (ℕ × TxCopy)} {more : List TxFate}
    (h : Ledger nFrames nBufs s ⟨(f, { pkt := some k }) ::ₘ pending frames, 0, {k}⟩ busy)
    (hfit : FitAll s.fragLen s.freeTxreqQueue.length
      (sentCopies ori (frames.map Prod.snd) ++ more)) :
    ∃ busy', Ledger nFrames nBufs (s.sendCopies f ori frames)
        (if ori = true ∧ frames ≠ [] then ⟨{(f, {})}, 0, 0⟩ else ⟨{(f, { pkt := some k })}, 0, {k}⟩)
        busy' ∧
      FitAll (s.sendCopies f ori frames).fragLen (s.sendCopies f ori frames).freeTxreqQueue.length
        more := by
  induction frames generalizing s busy with
  | nil =>
    rw [if_neg fun hc => hc.2 rfl]
    exact ⟨busy, h, hfit⟩
  | cons x rest ih =>
    obtain ⟨g, c⟩ := x
    rw [pending_cons] at h
    rw [List.map_cons, sentCopies] at hfit
    rw [XmitPool.sendCopies]
    by_cases hlast : ori = true ∧ rest = []
    · -- the last copy takes the packet of the original frame
      obtain ⟨rfl, rfl⟩ := hlast
      rw [if_pos ⟨rfl, rfl⟩, if_pos ⟨rfl, List.cons_ne_nil _ _⟩, h.frame_eq]
      rw [if_pos (Or.inl ⟨rfl, rfl⟩)] at hfit
      have hset := h.setFrame {}
      rw [cons_swap] at hset
      exact hset.perPacket_rest hfit
    · have hiff : (ori = true ∧ (g, c) :: rest ≠ []) ↔ (ori = true ∧ rest ≠ []) :=
        ⟨fun hori => ⟨hori.1, fun hnil => hlast ⟨hori.1, hnil⟩⟩,
          fun hori => ⟨hori.1, List.cons_ne_nil _ _⟩⟩
      rw [if_neg hlast, if_congr hiff rfl rfl]
      rw [cons_swap] at h
      cases hc : c.copied with
      | true =>
        rw [if_pos (Or.inr hc)] at hfit
        have hskb := h.newSkb
        obtain ⟨busy', hledger, hrest⟩ := hskb.perPacket_rest hfit
        exact ih hledger hrest
      | false =>
        have hnot : ¬((ori = true ∧ rest.map Prod.snd = []) ∨ c.copied = true) := by
          rintro (⟨hori, hnil⟩ | hcopied)
          · exact hlast ⟨hori, List.map_eq_nil_iff.1 hnil⟩
          · exact Bool.false_ne_true (hc.symm.trans hcopied)
        rw [if_neg hnot] at hfit
        rw [if_neg Bool.false_ne_true]
        have hfree : Ledger nFrames nBufs (s.coreTxFreeXmitframe g)
            ⟨(f, { pkt := some k }) ::ₘ pending rest, 0, {k}⟩ busy :=
          Ledger.freeLast (x := {}) (by simpa using h) (Nat.zero_le _)
        refine ih hfree ?_
        rw [coreTxFreeXmitframe_fragLen]
        convert hfit using 1
        have hbefore := h.length_txreq
        have hafter := hfree.length_txreq
        dsimp only at hbefore hafter
        omega

lemma Ledger.brClient {b : BrFate} (hb : b.fails = false)
    (h : Ledger nFrames nBufs s ⟨F, B, k ::ₘ K⟩ busy) :
    ∃ k', (s.coreBrClientTx f k (some b)).1 = true ∧ (s.coreBrClientTx f k (some b)).2.1 = k' ∧
      Ledger nFrames nBufs (s.coreBrClientTx f k (some b)).2.2 ⟨F, B, k' ::ₘ K⟩ busy ∧
      (s.coreBrClientTx f k (some b)).2.2.fragLen = s.fragLen ∧
      (s.coreBrClientTx f k (some b)).2.2.freeTxreqQueue = s.freeTxreqQueue := by
  rw [coreBrClientTx, hb, if_neg Bool.false_ne_true]
  cases b.replaced with
  | false => exact ⟨k, rfl, rfl, h, rfl, rfl⟩
  | true => exact ⟨_, rfl, rfl, h.complete.newSkb, rfl, rfl⟩

lemma Ledger.toEach {copies : List TxCopy} {t : TxFate}
    (h : Ledger nFrames nBufs s ⟨(f, { pkt := some k }) ::ₘ 0, 0, {k}⟩ busy)
    (hfit : FitAll s.fragLen s.freeTxreqQueue.length
      (if s.freeXmitQueue.length < copies.length then
        sentCopies false (copies.take s.freeXmitQueue.length) ++ [t] else sentCopies true copies)) :
    let r := s.rtwApDataBmcToUc copies
    let s' := r.2.2.sendCopies f (!r.2.1) r.1
    ∃ busy', Ledger nFrames nBufs
      (if r.2.1 then s'.coreTxPerPacket f k t else (true, s'.coreTxFreeXmitframe f)).2
      Held.none busy' := by
  obtain ⟨hledger, htake, hneed, htxreq, hlen⟩ := h.bmcToUc copies
  dsimp only at hledger htake hneed htxreq hlen ⊢
  rw [← hlen, ← htxreq] at hfit
  generalize s.rtwApDataBmcToUc copies = r at hledger htake hneed htxreq hlen hfit ⊢
  rw [add_cons, add_zero] at hledger
  rw [hneed]
  by_cases hfew : s.freeXmitQueue.length < copies.length
  · rw [if_pos hfew, ← htake] at hfit
    rw [decide_eq_true hfew, if_pos rfl]
    obtain ⟨busy', hout, hrest⟩ := hledger.sendCopies hfit
    rw [if_neg (by simp)] at hout
    obtain ⟨busy'', hout', -⟩ := Ledger.perPacket_rest (o := some k) hout hrest
    exact ⟨busy'', hout'⟩
  · have hall : copies.take s.freeXmitQueue.length = copies := List.take_of_length_le (by omega)
    rw [if_neg hfew, ← hall, ← htake, ← List.append_nil (sentCopies true _)] at hfit
    rw [decide_eq_false hfew, if_neg Bool.false_ne_true]
    obtain ⟨busy', hout, -⟩ := hledger.sendCopies hfit
    refine ⟨busy', ?_⟩
    split_ifs at hout
    · exact Ledger.freeLast (x := {}) hout (Nat.zero_le _)
    · exact Ledger.freeLast (x := { pkt := some k }) hout (Nat.zero_le _)

lemma Ledger.coreTx {t : TxPacket} (h : Ledger nFrames nBufs s ⟨0, 0, {k}⟩ busy)
    (hfits : t.Fits s) : ∃ busy', Ledger nFrames nBufs (s.rtwCoreTx k t).2 Held.none busy' := by
  obtain ⟨hbridge, hfit⟩ := hfits
  rw [TxPacket.fates] at hfit
  rw [rtwCoreTx]
  cases hq : s.freeXmitQueue with
  | nil =>
    have halloc : s.coreTxAllocXmitframe = none := by rw [coreTxAllocXmitframe, hq]
    rw [halloc]
    exact ⟨busy, Ledger.complete h⟩
  | cons f q =>
    obtain ⟨s', halloc, hledger, hxmit, htxreq, hlen⟩ := h.alloc hq
    have hcnt := hledger.xmitCnt
    rw [hxmit] at hcnt
    rw [halloc]
    rw [hq] at hfit
    rw [← hlen, ← htxreq] at hfit
    dsimp only
    cases hroute : t.route with
    | sta bridge =>
      rw [hroute] at hfit
      cases bridge with
      | none =>
        obtain ⟨busy', hout, -⟩ := hledger.perPacket_rest hfit
        exact ⟨busy', hout⟩
      | some b =>
        have hb := hbridge b hroute (by rw [hq]; exact List.cons_ne_nil _ _)
        obtain ⟨k', hok, hk', hbr, hbrLen, hbrBuf⟩ := hledger.brClient (f := f) hb
        dsimp only
        rw [hok, if_neg (by decide), hk']
        rw [← hbrLen, ← hbrBuf] at hfit
        obtain ⟨busy', hout, -⟩ := hbr.perPacket_rest hfit
        exact ⟨busy', hout⟩
    | ap resolve =>
      rw [hroute] at hfit
      cases resolve with
      | fail =>
        exact ⟨busy, Ledger.abort (x := {}) (by simpa using hledger) (Or.inr rfl)
          (Nat.zero_le _)⟩
      | single =>
        have hset := hledger.setFrame { pkt := some k }
        dsimp only
        rw [hledger.frame_eq]
        obtain ⟨busy', hout, -⟩ := hset.perPacket_rest hfit
        exact ⟨busy', hout⟩
      | bmcToUc copies =>
        have hset := hledger.setFrame { pkt := some k }
        dsimp only at hfit ⊢
        rw [hledger.frame_eq, show (s'.setFrame f _).freeXmitframeCnt = q.length from hcnt]
        by_cases hmany : nrXmitframe / 4 < q.length
        · rw [if_pos hmany] at hfit ⊢
          rw [← hxmit] at hfit
          exact hset.toEach hfit
        · rw [if_neg hmany] at hfit ⊢
          obtain ⟨busy', hout, -⟩ := hset.perPacket_rest hfit
          exact ⟨busy', hout⟩

end XmitPool

/-! ## Whole runs -/

/-- The counters are right, and every frame, buffer and packet is back,
once, exactly if no request of it is in the ring or parked. -/
structure Conserved (nFrames nBufs : ℕ) (s : XmitPool) : Prop where
  freeXmitframeCnt : s.freeXmitframeCnt = s.freeXmitQueue.length
  freeTxreqCnt : s.freeTxreqCnt = s.freeTxreqQueue.length
  xmitframe : ∀ f < nFrames,
    s.freeXmitQueue.count f = if f ∈ s.live.map TxReq.osPriv then 0 else 1
  txreqBuf : ∀ b < nBufs,
    s.freeTxreqQueue.count b = if b ∈ s.live.map TxReq.txreqBuf then 0 else 1
  skb : ∀ k < s.skbCnt, s.completed.count k = if k ∈ s.live.map TxReq.skb then 0 else 1

section Counting

variable {live busy : Multiset TxReq} {free : List ℕ} {n : ℕ} (g : TxReq → ℕ)

lemma count_free (hsum : (free : Multiset ℕ) + busy.map g = Multiset.range n)
    (hmem : ∀ r, r ∈ live ↔ r ∈ busy) {a : ℕ} (ha : a < n) :
    free.count a = if a ∈ live.map g then 0 else 1 := by
  have hone : free.count a + (busy.map g).count a = 1 := by
    rw [← coe_count, ← count_add, hsum]
    exact Multiset.count_eq_one_of_mem (Multiset.nodup_range n) (Multiset.mem_range.2 ha)
  have hiff : a ∈ live.map g ↔ a ∈ busy.map g := by simp only [Multiset.mem_map, hmem]
  by_cases hin : a ∈ busy.map g
  · rw [if_pos (hiff.2 hin)]
    have hpos := count_pos.2 hin
    omega
  · rw [if_neg (hiff.not.2 hin)]
    have hzero := Multiset.count_eq_zero.2 hin
    omega

end Counting

lemma XmitPool.Ledger.conserved {nFrames nBufs : ℕ} {s : XmitPool} {busy : Multiset TxReq}
    (h : Ledger nFrames nBufs s Held.none busy) : Conserved nFrames nBufs s := by
  have hmem : ∀ r, r ∈ s.live ↔ r ∈ busy := fun r =>
    ⟨h.live_busy r, fun hr => count_pos.1 (h.busy_live r hr)⟩
  constructor
  · exact h.xmitCnt
  · exact h.txreqCnt
  · intro f hf
    apply count_free TxReq.osPriv _ hmem hf
    simpa [Held.none] using h.frames
  · intro b hb
    apply count_free TxReq.txreqBuf _ hmem hb
    simpa [Held.none] using h.bufs
  · intro k hk
    apply count_free TxReq.skb _ hmem hk
    simpa [Held.none] using h.skbs

lemma XmitPool.Ledger.step {nFrames nBufs : ℕ} {s : XmitPool} {busy : Multiset TxReq}
    {e : TxEvent} (h : Ledger nFrames nBufs s Held.none busy) (hfits : e.Fits s) :
    ∃ busy', Ledger nFrames nBufs (s.step e) Held.none busy' := by
  cases e with
  | tx t =>
    have hskb := Ledger.newSkb h
    exact hskb.coreTx hfits
  | recycle i => exact h.recycle i

/-- In every run whose packets fit, however many fail and in whatever order
the requests leave the ring, nothing is lost and nothing is given back twice. -/
theorem tx_frames_conserved (nFrames nBufs fragLen : ℕ) (es : List TxEvent)
    (hfits : Guarded XmitPool.step (fun s e => e.Fits s) (XmitPool.init nFrames nBufs fragLen) es) :
    Conserved nFrames nBufs (run XmitPool.step (XmitPool.init nFrames nBufs fragLen) es) := by
  have hledger : ∃ busy, Ledger nFrames nBufs
      (run XmitPool.step (XmitPool.init nFrames nBufs fragLen) es) Held.none busy := by
    refine @Guarded.invariant _ _ _ _ (fun s => ∃ busy, Ledger nFrames nBufs s Held.none busy) ?_ _ _
      ⟨0, ledger_init nFrames nBufs fragLen⟩ hfits
    rintro s e ⟨busy, h⟩ he
    exact h.step he
  obtain ⟨busy, h⟩ := hledger
  exact h.conserved

def twoFragments : TxAttrib := { pktlen := 300 }

/-- Two fragments of which the ring takes one, its release, and a packet
without attributes. -/
def refusedLast : List TxEvent :=
  [.tx ⟨.sta none, { attrib := some twoFragments, ringFull := fun k => decide (k = 1) }⟩,
    .recycle 0, .tx ⟨.sta none, { attrib := none }⟩]

theorem tx_frames_conserved_refused :
    (run XmitPool.step (XmitPool.init 2 1 256) (refusedLast.take 1)).ring.length = 1 ∧
      Conserved 2 1 (run XmitPool.step (XmitPool.init 2 1 256) refusedLast) := by
  refine ⟨by decide, tx_frames_conserved 2 1 256 refusedLast
    ⟨⟨?_, ?_, trivial⟩, trivial, ⟨?_, ?_, trivial⟩, trivial⟩⟩
  · rintro b ⟨⟩
  · rintro a ⟨⟩ -
    exact Or.inr ⟨by decide, by decide, by decide, Or.inr (by decide)⟩
  · rintro b ⟨⟩
  · rintro a ⟨⟩

/-- A packet that the bridge refuses counts its frame twice; two fragments
without a buffer lose theirs. -/
theorem tx_frames_not_conserved :
    ¬Conserved 1 1 (run XmitPool.step (XmitPool.init 1 1 256)
        [.tx ⟨.sta (some { fails := true }), { attrib := none }⟩]) ∧
      ¬Conserved 1 0 (run XmitPool.step (XmitPool.init 1 0 256)
        [.tx ⟨.sta none, { attrib := some twoFragments }⟩]) := by
  constructor
  · intro h
    exact absurd h.freeXmitframeCnt (by decide)
  · intro h
    exact absurd (h.xmitframe 0 Nat.one_pos) (by decide)

end Rtl8831.Core
