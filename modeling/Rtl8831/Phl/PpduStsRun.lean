import Rtl8831.Phl.PpduSts

/-!
# No waiting frame is lost or overtaken

Of the queues of a band only that of the current counter ever holds a frame.  So what
the band hands up from its queues, followed by what waits, is what was made to wait, in
the order of arrival: each function takes frames from the front and adds at the end.
-/

namespace Rtl8831.Phl.PpduSts

open Lib Function List

variable {s : Info} {band b : HwBand} {out : List Indication}

def Idle (s : Info) : Prop :=
  ∀ band i, i ≠ s.curPpduCnt band → s.frames band i = []

def waiting (s : Info) (band : HwBand) : List ℕ :=
  (s.frames band (s.curPpduCnt band)).map Frame.id

def waitedIds (band : HwBand) (out : List Indication) : List ℕ :=
  (out.filter fun x => x.waited && decide (x.band = band)).map fun x => x.frame.id

@[simp] lemma waitedIds_nil (band : HwBand) : waitedIds band [] = [] := rfl

@[simp] lemma waitedIds_append (band : HwBand) (xs ys : List Indication) :
    waitedIds band (xs ++ ys) = waitedIds band xs ++ waitedIds band ys := by
  rw [waitedIds, filter_append, map_append, waitedIds, waitedIds]

@[simp] lemma waitedIds_direct (band b : HwBand) (f : Frame) :
    waitedIds band [⟨b, f, false⟩] = [] := rfl

lemma waitedIds_rxProcFrameList (band : HwBand) (queue : List Frame) :
    waitedIds band (rxProcFrameList band queue) = queue.map Frame.id := by
  induction queue with
  | nil => rfl
  | cons f queue ih =>
    rw [rxProcFrameList, waitedIds, filter_cons_of_pos (by simp), map_cons,
      map_cons]
    exact congrArg (f.id :: ·) ih

lemma waitedIds_rxProcFrameList_ne (h : b ≠ band) (queue : List Frame) :
    waitedIds b (rxProcFrameList band queue) = [] := by
  induction queue with
  | nil => rfl
  | cons f queue ih =>
    rw [rxProcFrameList, waitedIds, filter_cons_of_neg (by simpa using h.symm)]
    exact ih

@[simp] lemma setQueue_frames (s : Info) (band : HwBand) (i : Fin 8) (queue : List Frame) :
    (setQueue s band i queue).frames band i = queue := by
  simp only [setQueue, update_self]

lemma setQueue_frames_ne (s : Info) {band b : HwBand} {i j : Fin 8} (queue : List Frame)
    (h : b = band → j ≠ i) : (setQueue s band i queue).frames b j = s.frames b j := by
  by_cases hb : b = band
  · subst hb
    simp only [setQueue, update_self, update_of_ne (h rfl)]
  · simp only [setQueue, update_of_ne hb]

lemma waiting_setQueue (s : Info) (band : HwBand) (queue : List Frame) :
    waiting (setQueue s band (s.curPpduCnt band) queue) band = queue.map Frame.id :=
  congrArg (map Frame.id) (setQueue_frames s band (s.curPpduCnt band) queue)

lemma waiting_setQueue_ne (s : Info) (i : Fin 8) (queue : List Frame) (h : b ≠ band) :
    waiting (setQueue s band i queue) b = waiting s b :=
  congrArg (map Frame.id) (setQueue_frames_ne s queue fun heq => absurd heq h)

lemma Idle.setQueue (h : Idle s) (band : HwBand) (queue : List Frame) :
    Idle (setQueue s band (s.curPpduCnt band) queue) := by
  intro b i hi
  by_cases hb : b = band ∧ i = s.curPpduCnt band
  · exact absurd (hb.1 ▸ hb.2) hi
  · rw [setQueue_frames_ne s queue fun heq hcur => hb ⟨heq, hcur⟩]
    exact h b i hi

/-- A call hands up frames from the front of what waits, and adds `new` at the end. -/
structure Moves (s : Info) (out : List Indication) (s' : Info) (new : HwBand → List ℕ) : Prop where
  idle : Idle s'
  order : ∀ band, waitedIds band out ++ waiting s' band = waiting s band ++ new band

lemma Moves.refl (h : Idle s) : Moves s [] s fun _ => [] :=
  ⟨h, fun _ => by rw [waitedIds_nil, nil_append, append_nil]⟩

lemma Moves.trans {s₁ s₂ : Info} {out₁ out₂ : List Indication} {new : HwBand → List ℕ}
    (h₁ : Moves s out₁ s₁ fun _ => []) (h₂ : Moves s₁ out₂ s₂ new) :
    Moves s (out₁ ++ out₂) s₂ new where
  idle := h₂.idle
  order band := by
    rw [waitedIds_append, append_assoc, h₂.order, ← append_assoc, h₁.order,
      append_nil]

lemma Moves.flush (h : Idle s) (band : HwBand) {queue : List Frame}
    (hids : queue.map Frame.id = waiting s band) :
    Moves s (rxProcFrameList band queue) (setQueue s band (s.curPpduCnt band) []) fun _ => [] where
  idle := h.setQueue band []
  order b := by
    rw [append_nil]
    by_cases hb : b = band
    · subst hb
      rw [waitedIds_rxProcFrameList, hids, waiting_setQueue]
      exact append_nil _
    · rw [waitedIds_rxProcFrameList_ne hb, waiting_setQueue_ne s _ [] hb]
      rfl

lemma procEntry_moves (h : Idle s) (band : HwBand) (i : Fin 8) :
    Moves s (procEntry s band i).2 (procEntry s band i).1 fun _ => [] := by
  rw [procEntry]
  split_ifs with hempty
  · exact Moves.refl h
  · have hcur : i = s.curPpduCnt band := not_imp_comm.1 (h band i) hempty
    subst hcur
    exact Moves.flush h band rfl

lemma procBand_moves (h : Idle s) (band : HwBand) (counters : List (Fin 8)) :
    Moves s (procBand s band counters).2 (procBand s band counters).1 fun _ => [] := by
  induction counters generalizing s with
  | nil => exact Moves.refl h
  | cons i counters ih =>
    have hentry := procEntry_moves h band i
    exact hentry.trans (ih hentry.idle)

lemma procEntry_frames (s : Info) (band : HwBand) (i : Fin 8) :
    (procEntry s band i).1.frames band i = [] ∧
      (∀ j, s.frames band j = [] → (procEntry s band i).1.frames band j = []) ∧
      (∀ b ≠ band, (procEntry s band i).1.frames b = s.frames b) ∧
      (procEntry s band i).1.curPpduCnt = s.curPpduCnt := by
  rw [procEntry]
  split_ifs with hempty
  · exact ⟨hempty, fun _ hj => hj, fun _ _ => rfl, rfl⟩
  · refine ⟨setQueue_frames s band i [], fun j hj => ?_, fun b hb => ?_, rfl⟩
    · by_cases hij : j = i
      · rw [hij]
        exact setQueue_frames s band i []
      · exact (setQueue_frames_ne s [] fun _ => hij).trans hj
    · funext j
      exact setQueue_frames_ne s [] fun heq => absurd heq hb

lemma procBand_frames (s : Info) (band : HwBand) (counters : List (Fin 8)) :
    (∀ i, i ∈ counters ∨ s.frames band i = [] → (procBand s band counters).1.frames band i = []) ∧
      (∀ b ≠ band, (procBand s band counters).1.frames b = s.frames b) ∧
      (procBand s band counters).1.curPpduCnt = s.curPpduCnt := by
  induction counters generalizing s with
  | nil =>
    refine ⟨fun i hi => ?_, fun _ _ => rfl, rfl⟩
    rcases hi with hi | hi
    · exact absurd hi not_mem_nil
    · exact hi
  | cons i counters ih =>
    obtain ⟨hself, hkeep, hother, hcur⟩ := procEntry_frames s band i
    obtain ⟨hrest, hrestOther, hrestCur⟩ := ih (procEntry s band i).1
    refine ⟨fun j hj => hrest j ?_, fun b hb => (hrestOther b hb).trans (hother b hb),
      hrestCur.trans hcur⟩
    rcases hj with hj | hj
    · rcases mem_cons.1 hj with rfl | hj
      · exact .inr hself
      · exact .inl hj
    · exact .inr (hkeep j hj)

lemma procBand_all (s : Info) (band : HwBand) (i : Fin 8) :
    (procBand s band (finRange 8)).1.frames band i = [] :=
  (procBand_frames s band _).1 i (.inl (mem_finRange i))

def joins (f : Frame) (ret : Bool) (band : HwBand) : List ℕ :=
  if ret = true ∧ band = bandOf f.mdata then [f.id] else []

lemma Moves.newPpdu (h : Idle s) (f : Frame) (cnt : Fin 8) {ret : Bool}
    (hempty : ∀ i, s.frames (bandOf f.mdata) i = []) {s' : Info}
    (hs' : s' = if ret then setQueue s (bandOf f.mdata) cnt [f] else s) :
    Moves s [] { s' with curPpduCnt := update s'.curPpduCnt (bandOf f.mdata) cnt }
      (joins f ret) := by
  have hcur : s'.curPpduCnt = s.curPpduCnt := by
    rw [hs']
    split_ifs <;> rfl
  have hself : s'.frames (bandOf f.mdata) cnt = if ret then [f] else [] := by
    rw [hs']
    split_ifs
    · exact setQueue_frames s _ cnt [f]
    · exact hempty cnt
  have hkeep : ∀ b i, (b = bandOf f.mdata → i ≠ cnt) → s'.frames b i = s.frames b i := by
    intro b i hi
    rw [hs']
    split_ifs
    · exact setQueue_frames_ne s [f] hi
    · rfl
  refine ⟨fun b i hi => ?_, fun b => ?_⟩
  · dsimp only at hi ⊢
    by_cases hb : b = bandOf f.mdata
    · subst hb
      rw [update_self] at hi
      rw [hkeep _ i fun _ => hi]
      exact hempty i
    · rw [update_of_ne hb, hcur] at hi
      rw [hkeep b i fun heq => absurd heq hb]
      exact h b i hi
  · rw [waitedIds_nil, nil_append, waiting, joins]
    dsimp only
    by_cases hb : b = bandOf f.mdata
    · subst hb
      have hnil : waiting s (bandOf f.mdata) = [] := congrArg (map Frame.id) (hempty _)
      rw [update_self, hself, hnil, nil_append]
      cases ret with
      | true => rw [if_pos rfl, if_pos ⟨rfl, rfl⟩, map_singleton]
      | false => rw [if_neg Bool.false_ne_true, if_neg fun hf => absurd hf.1 Bool.false_ne_true,
          map_nil]
    · rw [update_of_ne hb, hcur, hkeep b _ fun heq => absurd heq hb,
        if_neg fun hf => hb hf.2, append_nil]
      rfl

lemma joins_false (f : Frame) : joins f false = fun _ => [] := by
  funext band
  exact if_neg fun hf => absurd hf.1 Bool.false_ne_true

section

variable (h : Idle s)
include h

lemma startPpdu_new (f : Frame) (cnt : Fin 8) :
    Moves (procBand s (bandOf f.mdata) (finRange 8)).1 []
      (startPpdu s (bandOf f.mdata) cnt f).1 (joins f (startPpdu s (bandOf f.mdata) cnt f).2.2) :=
  @Moves.newPpdu _ (procBand_moves h (bandOf f.mdata) (finRange 8)).idle f cnt
    (decide (PassesFilter (procBand s (bandOf f.mdata) (finRange 8)).1 f))
    (procBand_all s (bandOf f.mdata)) _ rfl

lemma startPpdu_moves (f : Frame) (cnt : Fin 8) :
    Moves s (startPpdu s (bandOf f.mdata) cnt f).2.1 (startPpdu s (bandOf f.mdata) cnt f).1
      (joins f (startPpdu s (bandOf f.mdata) cnt f).2.2) := by
  have hband := procBand_moves h (bandOf f.mdata) (finRange 8)
  have htrans := hband.trans (startPpdu_new h f cnt)
  rw [append_nil] at htrans
  exact htrans

lemma Moves.join (f : Frame) :
    Moves s [] (setQueue s (bandOf f.mdata) (s.curPpduCnt (bandOf f.mdata))
      (s.frames (bandOf f.mdata) (s.curPpduCnt (bandOf f.mdata)) ++ [f])) (joins f true) where
  idle := h.setQueue _ _
  order b := by
    rw [waitedIds_nil, nil_append, joins]
    by_cases hb : b = bandOf f.mdata
    · subst hb
      rw [waiting_setQueue, map_append, map_singleton, if_pos ⟨rfl, rfl⟩]
      rfl
    · rw [waiting_setQueue_ne s _ _ hb, if_neg fun hf => hb hf.2, append_nil]

lemma rxProcWaitPhySts_moves (f : Frame) :
    Moves s (rxProcWaitPhySts s f).2.1 (rxProcWaitPhySts s f).1
      (joins f (rxProcWaitPhySts s f).2.2) := by
  have hstay : Moves s [] s (joins f false) := by
    rw [joins_false]
    exact Moves.refl h
  rw [rxProcWaitPhySts]
  cases counterOf s f.mdata with
  | none => exact hstay
  | some cnt =>
    dsimp only
    split_ifs with hcur hpass
    · exact startPpdu_moves h f cnt
    · rw [← not_not.1 hcur]
      exact Moves.join h f
    · exact hstay

end

lemma updatePhyInfo_id (info : PhyInfo) (f : Frame) : (updatePhyInfo info f).id = f.id := rfl

lemma attach_ids (s : Info) (r : Report) (cnt : Fin 8) (f : Frame) (queue : List Frame) :
    (attach s r cnt f queue).map Frame.id = (f :: queue).map Frame.id := by
  rw [attach]
  split_ifs
  · rw [map_cons, map_cons, updatePhyInfo_id, map_map]
    rfl
  · rfl
  · rfl

lemma rxProcPhySts_moves (h : Idle s) (r : Report) :
    Moves s (rxProcPhySts s r).2.1 (rxProcPhySts s r).1 fun _ => [] := by
  rw [rxProcPhySts]
  cases counterOf s r.mdata with
  | none => exact Moves.refl h
  | some cnt =>
    dsimp only
    cases hq : s.frames (bandOf r.mdata) (s.curPpduCnt (bandOf r.mdata)) with
    | nil => exact Moves.refl h
    | cons f queue =>
      refine Moves.flush h (bandOf r.mdata) ?_
      rw [attach_ids, waiting, hq]

lemma handlePpduStsQ_moves (h : Idle s) :
    Moves s (handlePpduStsQ s).2 (handlePpduStsQ s).1 fun _ => [] := by
  have hband := procBand_moves h .band0 (finRange 8)
  exact hband.trans (procBand_moves hband.idle .band1 (finRange 8))

structure Kept (w : World) : Prop where
  idle : Idle w.info
  order : ∀ band, waitedIds band w.indicated ++ waiting w.info band = w.held band

lemma Kept.init (p : Para) : Kept (World.init p) := ⟨fun _ _ _ => rfl, fun _ => rfl⟩

lemma Kept.moves {w w' : World} (h : Kept w) {new : HwBand → List ℕ}
    (hm : Moves w.info out w'.info new)
    (hout : ∀ band, waitedIds band w'.indicated = waitedIds band w.indicated ++ waitedIds band out)
    (hheld : ∀ band, w'.held band = w.held band ++ new band) : Kept w' where
  idle := hm.idle
  order band := by
    rw [hout, append_assoc, hm.order, ← append_assoc, h.order, hheld]

variable {w : World}

lemma Kept.step (h : Kept w) (e : Event) : Kept (PpduSts.step w e) := by
  cases e with
  | wifi f =>
    have hm := rxProcWaitPhySts_moves h.idle f
    rw [PpduSts.step]
    rcases hres : rxProcWaitPhySts w.info f with ⟨s', out, ret⟩
    rw [hres] at hm
    cases ret with
    | true =>
      refine h.moves hm (fun band => waitedIds_append band _ _) fun band => ?_
      dsimp only
      rw [joins]
      by_cases hb : band = bandOf f.mdata
      · subst hb
        rw [update_self, if_pos ⟨rfl, rfl⟩]
      · rw [update_of_ne hb, if_neg fun hf => hb hf.2, append_nil]
    | false =>
      refine h.moves hm (fun band => ?_) fun band => ?_
      · dsimp only
        rw [waitedIds_append, waitedIds_append, waitedIds_direct, append_nil]
      · rw [joins_false]
        exact (append_nil _).symm
  | ppduSts r =>
    exact h.moves (rxProcPhySts_moves h.idle r) (fun band => waitedIds_append band _ _)
      fun band => (append_nil _).symm
  | queuedRx =>
    exact h.moves (handlePpduStsQ_moves h.idle) (fun band => waitedIds_append band _ _)
      fun band => (append_nil _).symm
  | enPpduSts band en => exact ⟨h.idle, h.order⟩

def Flushes (s : Info) (band : HwBand) : Event → Prop
  | .wifi f => bandOf f.mdata = band ∧ ∃ cnt, counterOf s f.mdata = some cnt ∧
      s.curPpduCnt band ≠ cnt
  | .ppduSts r => bandOf r.mdata = band ∧ ∃ cnt, counterOf s r.mdata = some cnt
  | .queuedRx => True
  | .enPpduSts _ _ => False

lemma Moves.handsUp {s' : Info} {new : HwBand → List ℕ} (h : Moves s out s' new)
    (hw : waiting s' band = new band) : waitedIds band out = waiting s band := by
  have horder := h.order band
  rw [hw] at horder
  exact append_cancel_right horder

lemma startPpdu_handsUp (h : Idle s) (f : Frame) (cnt : Fin 8) :
    waitedIds (bandOf f.mdata) (startPpdu s (bandOf f.mdata) cnt f).2.1 =
      waiting s (bandOf f.mdata) := by
  refine (startPpdu_moves h f cnt).handsUp ?_
  have hnil : waiting (procBand s (bandOf f.mdata) (finRange 8)).1 (bandOf f.mdata) = [] :=
    congrArg (map Frame.id) (procBand_all s (bandOf f.mdata) _)
  have horder := (startPpdu_new h f cnt).order (bandOf f.mdata)
  rw [waitedIds_nil, nil_append, hnil, nil_append] at horder
  exact horder

lemma rxProcPhySts_handsUp (h : Idle s) (r : Report) {cnt : Fin 8}
    (hcnt : counterOf s r.mdata = some cnt) :
    waitedIds (bandOf r.mdata) (rxProcPhySts s r).2.1 = waiting s (bandOf r.mdata) := by
  refine (rxProcPhySts_moves h r).handsUp ?_
  rw [rxProcPhySts, hcnt]
  dsimp only
  cases hq : s.frames (bandOf r.mdata) (s.curPpduCnt (bandOf r.mdata)) with
  | nil => exact congrArg (map Frame.id) hq
  | cons f queue => exact waiting_setQueue s (bandOf r.mdata) []

lemma handlePpduStsQ_handsUp (h : Idle s) (band : HwBand) :
    waitedIds band (handlePpduStsQ s).2 = waiting s band := by
  have hempty : ∀ i, (handlePpduStsQ s).1.frames band i = [] := by
    intro i
    cases band with
    | band0 =>
      have hother := (procBand_frames (procBand s .band0 (finRange 8)).1 .band1
        (finRange 8)).2.1 .band0 (by decide)
      exact (congrFun hother i).trans (procBand_all s .band0 i)
    | band1 => exact procBand_all (procBand s .band0 (finRange 8)).1 .band1 i
  refine (handlePpduStsQ_moves h).handsUp ?_
  rw [waiting, hempty, map_nil]

lemma Kept.flushed (h : Kept w) {e : Event} (hf : Flushes w.info band e) :
    waitedIds band (PpduSts.step w e).indicated = w.held band := by
  rw [← h.order band]
  cases e with
  | wifi f =>
    obtain ⟨rfl, cnt, hcnt, hcur⟩ := hf
    have hup := startPpdu_handsUp h.idle f cnt
    have hwait : rxProcWaitPhySts w.info f = startPpdu w.info (bandOf f.mdata) cnt f := by
      rw [rxProcWaitPhySts, hcnt]
      exact if_pos hcur
    rw [PpduSts.step, hwait]
    rcases hres : startPpdu w.info (bandOf f.mdata) cnt f with ⟨s', out, ret⟩
    rw [hres] at hup
    cases ret with
    | true =>
      dsimp only
      rw [waitedIds_append, hup]
    | false =>
      dsimp only
      rw [waitedIds_append, waitedIds_append, waitedIds_direct, append_nil, hup]
  | ppduSts r =>
    obtain ⟨rfl, cnt, hcnt⟩ := hf
    rw [← rxProcPhySts_handsUp h.idle r hcnt]
    exact waitedIds_append _ _ _
  | queuedRx =>
    rw [← handlePpduStsQ_handsUp h.idle band]
    exact waitedIds_append _ _ _
  | enPpduSts b en => exact hf.elim

/-- In every run each band hands up the frames it made wait exactly once and in the order
of arrival, holds at most the queue of its current counter, and keeps nothing behind once
a report, a new counter or a pause has come. -/
theorem ppdu_sts_keeps_frames (p : Para) (es : List Event) :
    let w := run step (World.init p) es
    (∀ band i, i ≠ w.info.curPpduCnt band → w.info.frames band i = []) ∧
      (∀ band, waitedIds band w.indicated ++ waiting w.info band = w.held band) ∧
      ∀ e band, Flushes w.info band e → waitedIds band (step w e).indicated = w.held band := by
  have h : Kept (run step (World.init p) es) :=
    @run_invariant World Event step Kept (fun w e hw => Kept.step hw e) _ (Kept.init p) es
  exact ⟨h.idle, h.order, fun e band hf => h.flushed hf⟩

end Rtl8831.Phl.PpduSts
