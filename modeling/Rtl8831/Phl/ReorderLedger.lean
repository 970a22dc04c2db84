import Rtl8831.Phl.Reorder

/-!
# No packet is lost in the reorder buffers

A packet handed to `phl_rx_reorder` is put on the frame list, given back to
the RX ring, or kept in a slot.  Each function is shown to keep the balance
of what it took over against what it handed on, and the balance is then
carried over whole runs of a station.  Nothing here depends on sequence
numbers: a slot is only ever filled when it is empty.
-/

namespace Rtl8831.Phl

open Lib Multiset

section Ring

variable {n : ℕ} [NeZero n]

omit [NeZero n] in
lemma releaseReorderFrame_balance (r : TidAmpduRx n) (i : Fin n) :
    contents r.reorderBuf = ((releaseReorderFrame r i).2 : Multiset RxPkt) +
      contents (releaseReorderFrame r i).1.reorderBuf := by
  unfold releaseReorderFrame
  cases h : r.reorderBuf i with
  | none => simp
  | some pkt => simpa using contents_clear h

lemma releaseTimedOut_balance (curTime k j skipped : ℕ) (r : TidAmpduRx n) :
    contents r.reorderBuf = ((releaseTimedOut curTime k j skipped r).2.2 : Multiset RxPkt) +
      contents (releaseTimedOut curTime k j skipped r).2.1.reorderBuf := by
  induction k generalizing j skipped r with
  | zero => simp [releaseTimedOut]
  | succ k ih =>
    simp only [releaseTimedOut]
    cases hj : r.reorderBuf (reorderIndex j) with
    | none => exact ih (j + 1) (skipped + 1) r
    | some pkt =>
      dsimp only
      split_ifs
      · simp
      · rw [releaseReorderFrame_balance r (reorderIndex j), ← coe_add, add_assoc]
        congr 1
        exact ih (j + 1) 0 { (releaseReorderFrame r (reorderIndex j)).1 with
          headSeqNum := ((releaseReorderFrame r (reorderIndex j)).1.headSeqNum + skipped) % 4096 }

lemma releaseReady_balance (k : ℕ) (r : TidAmpduRx n) :
    contents r.reorderBuf = ((releaseReady k r).2 : Multiset RxPkt) +
      contents (releaseReady k r).1.reorderBuf := by
  induction k generalizing r with
  | zero => simp [releaseReady]
  | succ k ih =>
    simp only [releaseReady]
    cases hj : r.reorderBuf (reorderIndex r.headSeqNum) with
    | none => simp
    | some pkt =>
      dsimp only
      rw [releaseReorderFrame_balance r (reorderIndex r.headSeqNum), ← coe_add,
        add_assoc, ← ih]

lemma releaseUpTo_balance (head k : ℕ) (r : TidAmpduRx n) :
    contents r.reorderBuf = ((releaseUpTo head k r).2 : Multiset RxPkt) +
      contents (releaseUpTo head k r).1.reorderBuf := by
  induction k generalizing r with
  | zero => simp [releaseUpTo]
  | succ k ih =>
    simp only [releaseUpTo]
    split_ifs with h
    · dsimp only
      rw [releaseReorderFrame_balance r (reorderIndex r.headSeqNum), ← coe_add,
        add_assoc, ← ih]
    · simp

lemma reorderRelease_balance (r : TidAmpduRx n) (curTime : ℕ) :
    contents r.reorderBuf = ((reorderRelease r curTime).2.2 : Multiset RxPkt) +
      contents (reorderRelease r curTime).2.1.reorderBuf := by
  simp only [reorderRelease, reorderReleaseLoops]
  split_ifs
  · exact releaseTimedOut_balance curTime _ _ _ r
  · exact releaseReady_balance n r

lemma makeRoom_balance (r : TidAmpduRx n) (seq : ℕ) :
    contents r.reorderBuf = ((makeRoom r seq).2 : Multiset RxPkt) +
      contents (makeRoom r seq).1.reorderBuf := by
  unfold makeRoom
  split_ifs
  · exact releaseUpTo_balance _ _ r
  · simp

omit [NeZero n] in
lemma wakeUp_reorderBuf (r : TidAmpduRx n) (seq : ℕ) :
    (wakeUp r seq).reorderBuf = r.reorderBuf := by
  unfold wakeUp
  split_ifs <;> rfl

/-- The packets a call of `phl_manage_sta_reorder_buf` answers for: those
stored before and the new one.  The caller keeps the new one on `false`. -/
lemma placeMpdu_balance (r : TidAmpduRx n) (pkt : RxPkt) (storeTime curTime : ℕ) :
    pkt ::ₘ contents r.reorderBuf =
      ((placeMpdu r pkt storeTime curTime).2.2.frames : Multiset RxPkt) +
        ((placeMpdu r pkt storeTime curTime).2.2.recycled : Multiset RxPkt) +
        (if (placeMpdu r pkt storeTime curTime).1 then 0 else {pkt}) +
        contents (placeMpdu r pkt storeTime curTime).2.1.reorderBuf := by
  have hroom := makeRoom_balance r pkt.seq
  rcases placeMpdu_cases r pkt storeTime curTime with
    ⟨-, heq⟩ | ⟨-, -, -, heq⟩ | ⟨hempty, -, heq⟩
  · rw [heq, hroom]
    simp only [coe_singleton, ↓reduceIte, add_zero, ← singleton_add]
    abel
  · rw [heq, hroom]
    simp only [coe_nil, add_zero, Bool.false_eq_true, ↓reduceIte,
      ← singleton_add]
    abel
  · have hstore : contents (store (makeRoom r pkt.seq).1 pkt storeTime).reorderBuf =
        pkt ::ₘ contents (makeRoom r pkt.seq).1.reorderBuf := contents_fill hempty pkt
    have hrel := reorderRelease_balance (store (makeRoom r pkt.seq).1 pkt storeTime) curTime
    rw [hstore, ← singleton_add] at hrel
    rw [heq, hroom, ← singleton_add, add_left_comm, hrel]
    simp only [coe_nil, add_zero, ↓reduceIte, ← coe_add]
    abel

lemma manageStaReorderBuf_balance (r : TidAmpduRx n) (pkt : RxPkt) (storeTime curTime : ℕ) :
    pkt ::ₘ contents r.reorderBuf =
      ((manageStaReorderBuf r pkt storeTime curTime).2.2.frames : Multiset RxPkt) +
        ((manageStaReorderBuf r pkt storeTime curTime).2.2.recycled : Multiset RxPkt) +
        (if (manageStaReorderBuf r pkt storeTime curTime).1 then 0 else {pkt}) +
        contents (manageStaReorderBuf r pkt storeTime curTime).2.1.reorderBuf := by
  rcases manageStaReorderBuf_cases r pkt storeTime curTime with
    ⟨-, -, heq⟩ | ⟨-, -, heq⟩ | ⟨-, -, heq⟩
  · simp [heq]
  · simp [heq, wakeUp_reorderBuf]
  · have hplace := placeMpdu_balance (wakeUp { r with started := true } pkt.seq) pkt
      storeTime curTime
    rwa [wakeUp_reorderBuf, ← heq] at hplace

omit [NeZero n] in
lemma tidAmpduRxFree_balance (r : TidAmpduRx n) :
    (tidAmpduRxFree r : Multiset RxPkt) = contents r.reorderBuf := by
  have hflat : ∀ l : List (Fin n), (l.filterMap r.reorderBuf : Multiset RxPkt) =
      (l.map fun i => (r.reorderBuf i).elim 0 (fun a => ({a} : Multiset RxPkt))).sum := by
    intro l
    induction l with
    | nil => rfl
    | cons i l ih =>
      rw [List.map_cons, List.sum_cons, ← ih]
      cases h : r.reorderBuf i <;> simp [h]
  rw [tidAmpduRxFree, hflat, contents, total, List.sum_ofFn.symm, List.ofFn_eq_map]

end Ring

def StaInfo.held (sta : StaInfo) : Multiset RxPkt :=
  total (fun s => contents s.rx.reorderBuf) sta.tidRx

def ids (pkts : List RxPkt) : List ℕ := pkts.map RxPkt.id

def heldIds (sta : StaInfo) : Multiset ℕ := sta.held.map RxPkt.id

/-- The packet an event hands to `phl_rx_reorder`. -/
def arrived : RxEvent → List ℕ
  | .rx pkt _ _ => [pkt.id]
  | _ => []

lemma held_update (sta : StaInfo) (tid : Fin 16) {s : Session} (h : sta.tidRx tid = some s)
    (s' : Session) :
    contents s.rx.reorderBuf +
        StaInfo.held { sta with tidRx := Function.update sta.tidRx tid (some s') } =
      contents s'.rx.reorderBuf + sta.held := by
  have hup := total_update (fun s : Session => contents s.rx.reorderBuf) sta.tidRx tid (some s')
  rwa [h] at hup

lemma freeSession_balance (sta : StaInfo) (tid : Fin 16) :
    (freeSession sta tid : Multiset RxPkt) =
      (sta.tidRx tid).elim 0 fun s => contents s.rx.reorderBuf := by
  unfold freeSession
  cases sta.tidRx tid with
  | none => rfl
  | some s => exact tidAmpduRxFree_balance s.rx

lemma coe_flatMap_finRange {α : Type*} (f : Fin 16 → List α) :
    (((List.finRange 16).flatMap f : List α) : Multiset α) =
      ∑ tid, (f tid : Multiset α) := by
  have hsum : ∀ l : List (Fin 16), ((l.flatMap f : List α) : Multiset α) =
      (l.map fun tid => (f tid : Multiset α)).sum := by
    intro l
    induction l with
    | nil => rfl
    | cons t l ih => rw [List.flatMap_cons, ← coe_add, ih, List.map_cons, List.sum_cons]
  rw [hsum, List.sum_ofFn.symm, List.ofFn_eq_map]

lemma freeRxReorder_balance (sta : StaInfo) :
    ((freeRxReorder sta).2.recycled : Multiset RxPkt) = sta.held := by
  rw [freeRxReorder, coe_flatMap_finRange]
  exact Finset.sum_congr rfl fun tid _ => freeSession_balance sta tid

lemma releaseSessions_balance (sta : StaInfo) (curTime : Fin 16 → ℕ) :
    sta.held = ((releaseSessions sta curTime).2.frames : Multiset RxPkt) +
      (releaseSessions sta curTime).1.held := by
  simp only [releaseSessions, coe_flatMap_finRange, StaInfo.held, total]
  rw [← Finset.sum_add_distrib]
  apply Finset.sum_congr rfl
  intro tid _
  cases sta.tidRx tid with
  | none => rfl
  | some s => exact reorderRelease_balance s.rx (curTime tid)

lemma rxBar_balance (sta : StaInfo) (tid seq : ℕ) :
    sta.held = ((rxBar sta tid seq).2.frames : Multiset RxPkt) + (rxBar sta tid seq).1.held := by
  unfold rxBar
  split_ifs with htid
  · cases hs : sta.tidRx ⟨tid, htid⟩ with
    | none => simp
    | some s =>
      dsimp only
      split_ifs
      · simp
      · have hrel : contents s.rx.reorderBuf =
            ((releaseReorderFrames s.rx seq).2 : Multiset RxPkt) +
              contents (releaseReorderFrames s.rx seq).1.reorderBuf :=
          releaseUpTo_balance seq _ s.rx
        have hup := held_update sta ⟨tid, htid⟩ hs
          { s with rx := (releaseReorderFrames s.rx seq).1 }
        rw [hrel, add_right_comm, add_comm] at hup
        exact (add_left_cancel hup).symm
  · simp

lemma startRxBaSession_balance (sta : StaInfo) (ssn policy : UInt16) (tid : ℕ) (size : UInt16)
    (ok : Bool) :
    sta.held = ((startRxBaSession sta ssn policy tid size ok).2.recycled : Multiset RxPkt) +
      (startRxBaSession sta ssn policy tid size ok).1.held := by
  unfold startRxBaSession
  split_ifs with htid
  · simp
  · simp
  · have hnew : contents (newSession ssn size).rx.reorderBuf = 0 := contents_empty
    have hup := total_update (fun s : Session => contents s.rx.reorderBuf) sta.tidRx ⟨tid, htid⟩
      (some (newSession ssn size))
    rw [← freeSession_balance, Option.elim_some, hnew, zero_add] at hup
    exact hup.symm
  · simp

lemma stopRxBaSession_balance (sta : StaInfo) (tid : ℕ) :
    sta.held = ((stopRxBaSession sta tid).2.recycled : Multiset RxPkt) +
      (stopRxBaSession sta tid).1.held := by
  unfold stopRxBaSession
  split_ifs with htid
  · rw [freeSession_balance]
    exact total_eq_slot_add _ sta.tidRx ⟨tid, htid⟩
  · simp

lemma removeFcs_id {com : PhlCom} {pkt pkt' : RxPkt} (h : removeFcs com pkt = some pkt') :
    pkt'.id = pkt.id := by
  unfold removeFcs at h
  split_ifs at h <;> (cases h; rfl)

lemma rebalance {p : RxPkt} {c c' h h' f g k : Multiset RxPkt}
    (hman : p ::ₘ c = f + g + k + c') (hup : c + h' = c' + h) :
    p ::ₘ h = f + g + k + h' := by
  have hsum : c + p ::ₘ h = c + (f + g + k + h') := by
    calc
      c + p ::ₘ h = (p ::ₘ c) + h := by
        rw [← singleton_add, ← singleton_add]
        abel
      _ = f + g + k + (c' + h) := by rw [hman, add_assoc]
      _ = c + (f + g + k + h') := by
        rw [← hup]
        abel
  exact add_left_cancel hsum

lemma rxReorder_balance (com : PhlCom) (sta : StaInfo) (pkt : RxPkt) (storeTime curTime : ℕ) :
    pkt.id ::ₘ heldIds sta =
      (ids (rxReorder com sta pkt storeTime curTime).2.frames : Multiset ℕ) +
        (ids (rxReorder com sta pkt storeTime curTime).2.recycled : Multiset ℕ) +
        heldIds (rxReorder com sta pkt storeTime curTime).1 := by
  unfold rxReorder
  split_ifs
  · simp [ids]
  · cases hfcs : removeFcs com pkt with
    | none => simp [ids]
    | some pkt' =>
      have hid := removeFcs_id hfcs
      dsimp only
      cases reorderTid com sta pkt' with
      | none => simp [ids, hid]
      | some tid =>
        dsimp only
        cases hs : sta.tidRx tid with
        | none => simp [ids, hid]
        | some s =>
          have hup := held_update sta tid hs
            { s with rx := (manageStaReorderBuf s.rx pkt' storeTime curTime).2.1 }
          have hman := manageStaReorderBuf_balance s.rx pkt' storeTime curTime
          have hpkt := rebalance hman hup
          have hids := congrArg (Multiset.map RxPkt.id) hpkt
          dsimp only
          cases hkeep : (manageStaReorderBuf s.rx pkt' storeTime curTime).1 with
          | true =>
            simp only [hkeep, ↓reduceIte, add_zero, Multiset.map_cons,
              Multiset.map_add, hid] at hids
            simpa [heldIds, ids] using hids
          | false =>
            simp only [hkeep, Bool.false_eq_true, ↓reduceIte, Multiset.map_cons,
              Multiset.map_add, Multiset.map_singleton, hid] at hids
            simp only [Bool.false_eq_true, ↓reduceIte, ids, List.map_append,
              ← coe_add, heldIds, hids]
            simp only [List.map_cons, List.map_nil, hid, coe_singleton,
              map_coe]
            abel

lemma handle_balance (com : PhlCom) (sta : StaInfo) (e : RxEvent) :
    (arrived e : Multiset ℕ) + heldIds sta =
      (ids (handle com sta e).2.frames : Multiset ℕ) +
        (ids (handle com sta e).2.recycled : Multiset ℕ) + heldIds (handle com sta e).1 := by
  have hmap : ∀ l : List RxPkt, (ids l : Multiset ℕ) = (l : Multiset RxPkt).map RxPkt.id :=
    fun _ => rfl
  cases e with
  | start ssn policy tid size ok =>
    have h := startRxBaSession_balance sta ssn policy tid size ok
    have hf : (startRxBaSession sta ssn policy tid size ok).2.frames = [] := by
      unfold startRxBaSession
      split_ifs <;> rfl
    simp only [arrived, handle, heldIds, hmap, hf]
    simpa using congrArg (Multiset.map RxPkt.id) h
  | rx pkt storeTime curTime =>
    simpa [arrived, handle] using rxReorder_balance com sta pkt storeTime curTime
  | bar tid seq =>
    have h := rxBar_balance sta tid seq.toNat
    have hr : (rxBar sta tid seq.toNat).2.recycled = [] := by
      unfold rxBar
      split_ifs with htid
      · cases sta.tidRx ⟨tid, htid⟩ with
        | none => rfl
        | some s => dsimp only; split_ifs <;> rfl
      · rfl
    simp only [arrived, handle, heldIds, hmap, hr]
    simpa using congrArg (Multiset.map RxPkt.id) h
  | timer curTime =>
    have h := releaseSessions_balance sta curTime
    simp only [arrived, handle, heldIds, hmap]
    simpa [releaseSessions] using congrArg (Multiset.map RxPkt.id) h
  | flush curTime =>
    have h := releaseSessions_balance sta curTime
    simp only [arrived, handle, heldIds, hmap]
    simpa [releaseSessions] using congrArg (Multiset.map RxPkt.id) h
  | sleep =>
    have h : (notifyReorderSleep sta).held = sta.held := by
      unfold StaInfo.held total
      refine Finset.sum_congr rfl fun tid _ => ?_
      simp only [notifyReorderSleep]
      cases sta.tidRx tid <;> rfl
    simp [arrived, handle, heldIds, ids, h]
  | stop tid =>
    have h := stopRxBaSession_balance sta tid
    have hf : (stopRxBaSession sta tid).2.frames = [] := by
      unfold stopRxBaSession
      split_ifs <;> rfl
    simp only [arrived, handle, heldIds, hmap, hf]
    simpa using congrArg (Multiset.map RxPkt.id) h
  | free =>
    have h := freeRxReorder_balance sta
    have hnone : (freeRxReorder sta).1.held = 0 := total_empty _
    simp only [arrived, handle, heldIds, hmap, hnone, h]
    simp [freeRxReorder]

/-- A station with the addresses handed to `phl_rx_reorder`, put on a frame
list and given back to the RX ring so far. -/
structure Ledger where
  sta : StaInfo
  handed : List ℕ
  delivered : List ℕ
  recycled : List ℕ

def Ledger.init (macid : ℕ) : Ledger := ⟨StaInfo.init macid, [], [], []⟩

def ledgerStep (com : PhlCom) (w : Ledger) (e : RxEvent) : Ledger where
  sta := (handle com w.sta e).1
  handed := w.handed ++ arrived e
  delivered := w.delivered ++ ids (handle com w.sta e).2.frames
  recycled := w.recycled ++ ids (handle com w.sta e).2.recycled

def Balanced (w : Ledger) : Prop :=
  (w.handed : Multiset ℕ) =
    (w.delivered : Multiset ℕ) + (w.recycled : Multiset ℕ) + heldIds w.sta

lemma balanced_step (com : PhlCom) (w : Ledger) (e : RxEvent) (h : Balanced w) :
    Balanced (ledgerStep com w e) := by
  have he := handle_balance com w.sta e
  unfold Balanced at h ⊢
  simp only [ledgerStep, ← coe_add]
  calc
    (w.handed : Multiset ℕ) + (arrived e : Multiset ℕ) =
        (w.delivered : Multiset ℕ) + w.recycled + ((arrived e : Multiset ℕ) + heldIds w.sta) := by
      rw [h]
      abel
    _ = _ := by
      rw [he]
      abel

lemma balanced_run (com : PhlCom) (macid : ℕ) (es : List RxEvent) :
    Balanced (run (ledgerStep com) (Ledger.init macid) es) := by
  refine run_invariant (fun w e h => balanced_step com w e h) ?_ es
  simp [Balanced, Ledger.init, StaInfo.init, heldIds, StaInfo.held]

/-- Why an arrival may be given back: it is too short for its FCS, its
sequence number precedes the head, or its slot is taken. -/
def Refused (com : PhlCom) (sta : StaInfo) (pkt : RxPkt) : Prop :=
  removeFcs com pkt = none ∨
    ∃ pkt' tid s, removeFcs com pkt = some pkt' ∧ reorderTid com sta pkt' = some tid ∧
      sta.tidRx tid = some s ∧
      (seqLess pkt'.seq (wakeUp { s.rx with started := true } pkt'.seq).headSeqNum = true ∨
        ∃ q, (makeRoom (wakeUp { s.rx with started := true } pkt'.seq) pkt'.seq).1.reorderBuf
          (reorderIndex pkt'.seq) = some q)

lemma rxReorder_recycled {com : PhlCom} {sta : StaInfo} {pkt : RxPkt} {storeTime curTime : ℕ}
    (h : (rxReorder com sta pkt storeTime curTime).2.recycled ≠ []) :
    ids (rxReorder com sta pkt storeTime curTime).2.recycled = [pkt.id] ∧
      Refused com sta pkt := by
  unfold rxReorder at h ⊢
  split_ifs at h ⊢
  · simp at h
  · cases hfcs : removeFcs com pkt with
    | none => exact ⟨rfl, Or.inl hfcs⟩
    | some pkt' =>
      have hid := removeFcs_id hfcs
      simp only [hfcs] at h ⊢
      cases htid : reorderTid com sta pkt' with
      | none => simp [htid] at h
      | some tid =>
        simp only [htid] at h ⊢
        cases hs : sta.tidRx tid with
        | none => simp [hs] at h
        | some s =>
          simp only [hs] at h ⊢
          have hrec : (manageStaReorderBuf s.rx pkt' storeTime curTime).2.2.recycled ≠ [] := by
            split_ifs at h <;> exact h
          rcases manageStaReorderBuf_cases s.rx pkt' storeTime curTime with
            ⟨-, -, heq⟩ | ⟨-, hless, heq⟩ | ⟨-, -, heq⟩
          · simp [heq] at hrec
          · rw [heq]
            exact ⟨by simp [ids, hid],
              Or.inr ⟨pkt', tid, s, hfcs, htid, hs, Or.inl hless⟩⟩
          · rcases placeMpdu_cases (wakeUp { s.rx with started := true } pkt'.seq) pkt'
              storeTime curTime with ⟨hq, hpl⟩ | ⟨-, -, -, hpl⟩ | ⟨-, -, hpl⟩
            · rw [heq, hpl]
              exact ⟨by simp [ids, hid],
                Or.inr ⟨pkt', tid, s, hfcs, htid, hs, Or.inr hq⟩⟩
            · simp [heq, hpl] at hrec
            · simp [heq, hpl] at hrec

lemma stop_clears (sta : StaInfo) (tid : Fin 16) :
    (stopRxBaSession sta tid).1.tidRx tid = none ∧
      (ids (stopRxBaSession sta tid).2.recycled : Multiset ℕ) =
        ((sta.tidRx tid).elim 0 fun s => contents s.rx.reorderBuf).map RxPkt.id := by
  have htid : (tid : ℕ) < 16 := tid.isLt
  simp only [stopRxBaSession, dif_pos htid, ← freeSession_balance]
  exact ⟨by simp, rfl⟩

end Rtl8831.Phl
