import Rtl8831.Core.RecvPool

/-!
# Where every receive frame is

Each frame is free, held by the function that is running, or linked in the
`defrag_q` of a station, and each PHL buffer has gone back or belongs to a
frame that has not.
-/

namespace Rtl8831.Core

open Lib Multiset Function

namespace RecvPool

def queued (s : RecvPool) : Multiset ℕ := (s.linked.map Prod.snd : List ℕ)

/-- `held` are the frames of the running function, `loose` the PHL buffers
that have no frame yet. -/
structure Ledger (nFrames : ℕ) (s : RecvPool) (held loose : Multiset ℕ) : Prop where
  cnt : s.freeRecvframeCnt = s.freeRecvQueue.length
  frames : (s.freeRecvQueue : Multiset ℕ) + held + s.queued = Multiset.range nFrames
  bufs : (s.returnedRxbuf : Multiset ℕ) + (held + s.queued).filterMap s.rxReq + loose =
    Multiset.range s.rxReqCnt
  owned : s.misfreed = []

variable {nFrames : ℕ} {s : RecvPool} {held loose : Multiset ℕ} {f sta : ℕ}

lemma Ledger.nodup (h : Ledger nFrames s held loose) :
    ((s.freeRecvQueue : Multiset ℕ) + held + s.queued).Nodup := by
  rw [h.frames]
  exact Multiset.nodup_range nFrames

lemma Ledger.held_fresh (h : Ledger nFrames s (f ::ₘ held) loose) :
    f ∉ s.freeRecvQueue ∧ f ∉ held ∧ f ∉ s.queued := by
  have hnd := h.nodup
  simp only [add_cons, cons_add, Multiset.nodup_cons, mem_add,
    mem_coe, not_or] at hnd
  exact ⟨hnd.1.1.1, hnd.1.1.2, hnd.1.2⟩

lemma ledger_init (nFrames : ℕ) : Ledger nFrames (init nFrames) 0 0 where
  cnt := by simp [init]
  frames := by simp [init, queued, Multiset.range]
  bufs := by simp [init, queued]
  owned := rfl

/-! ## Operations -/

lemma filterMap_update {req : ℕ → Option ℕ} {M : Multiset ℕ} (hf : f ∉ M) (x : Option ℕ) :
    M.filterMap (update req f x) = M.filterMap req := by
  induction M using Multiset.induction with
  | empty => rfl
  | cons g M ih =>
    obtain ⟨hne, hM⟩ := not_or.1 (Multiset.mem_cons.not.1 hf)
    rw [Multiset.filterMap_cons, Multiset.filterMap_cons, ih hM,
      update_of_ne (Ne.symm hne)]

lemma Ledger.alloc (h : Ledger nFrames s held loose) :
    (s.rtwAllocRecvframe = (s, none)) ∨
      ∃ f, s.rtwAllocRecvframe.2 = some f ∧ s.rtwAllocRecvframe.1.rxReqCnt = s.rxReqCnt ∧
        Ledger nFrames s.rtwAllocRecvframe.1 (f ::ₘ held) loose := by
  rw [rtwAllocRecvframe]
  cases hq : s.freeRecvQueue with
  | nil => exact Or.inl rfl
  | cons f q =>
    refine Or.inr ⟨f, rfl, rfl, ?_⟩
    have hframes := h.frames
    have hnd := h.nodup
    rw [hq, ← cons_coe] at hframes hnd
    have hfree : f ∉ held + s.queued := by
      simp only [cons_add, Multiset.nodup_cons, mem_add, not_or] at hnd
      simp only [mem_add, not_or]
      exact ⟨hnd.1.1.2, hnd.1.2⟩
    constructor
    · simp [h.cnt, hq]
    · rw [← hframes]
      rw [add_cons, cons_add, cons_add, cons_add]
      rfl
    · have hbufs := h.bufs
      rw [cons_add]
      dsimp only [queued] at hbufs hfree ⊢
      rw [Multiset.filterMap_cons_none _ _ (update_self f none s.rxReq),
        filterMap_update hfree]
      exact hbufs
    · exact h.owned

section

variable (h : Ledger nFrames s (f ::ₘ held) loose)
include h

lemma Ledger.recycle :
    Ledger nFrames (s.recycle f) held loose := by
  obtain ⟨hfree, hheld, hlinked⟩ := h.held_fresh
  have hsame : (s.linked.filter fun x => decide (x.2 ≠ f)) = s.linked := by
    refine List.filter_eq_self.2 fun x hx => decide_eq_true ?_
    rintro rfl
    exact hlinked (mem_coe.2 (List.mem_map_of_mem hx))
  have hframes := h.frames
  have hbufs := h.bufs
  rw [cons_add, Multiset.filterMap_cons] at hbufs
  constructor
  · simp [RecvPool.recycle, h.cnt, List.erase_of_not_mem hfree]
  · simp only [RecvPool.recycle, queued, hsame, List.erase_of_not_mem hfree, ← coe_add,
      coe_singleton] at hframes ⊢
    rw [← hframes, ← singleton_add]
    abel
  · simp only [RecvPool.recycle, queued, hsame, ← coe_add] at hbufs ⊢
    rw [← hbufs]
    cases s.rxReq f with
    | none => simp
    | some r =>
      simp only [Option.toList_some, coe_singleton, Option.map_some, Option.getD_some]
      abel
  · exact h.owned

lemma Ledger.freeRecvframe :
    Ledger nFrames (s.rtwFreeRecvframe (some f)) held loose := by
  obtain ⟨hfree, -, hlinked⟩ := h.held_fresh
  have howned : ¬(f ∈ s.freeRecvQueue ∨ f ∈ s.linked.map Prod.snd) := by
    rintro (hf | hf)
    · exact hfree hf
    · exact hlinked hf
  have hput := h.recycle
  refine ⟨hput.cnt, hput.frames, hput.bufs, ?_⟩
  simp only [rtwFreeRecvframe, if_neg howned]
  exact h.owned

lemma Ledger.link (sta : ℕ) :
    Ledger nFrames { s with linked := s.linked ++ [(sta, f)] } held loose := by
  have hqueued : queued { s with linked := s.linked ++ [(sta, f)] } = s.queued + {f} := by
    simp [queued, ← coe_add]
  have hframes := h.frames
  have hbufs := h.bufs
  rw [← singleton_add] at hframes hbufs
  refine ⟨h.cnt, ?_, ?_, h.owned⟩
  · rw [hqueued, ← hframes]
    dsimp only
    abel
  · rw [hqueued, ← hbufs]
    dsimp only
    congr 3
    abel

end

section

variable (h : Ledger nFrames s held loose)
include h

lemma Ledger.unlink (hf : f ∈ s.queued) :
    Ledger nFrames { s with linked := s.linked.filter fun x => decide (x.2 ≠ f) } (f ::ₘ held)
      loose := by
  have hnd : (s.linked.map Prod.snd).Nodup := (nodup_add.1 h.nodup).2.1
  have herase : ((s.linked.filter fun x => decide (x.2 ≠ f)).map Prod.snd) =
      (s.linked.map Prod.snd).erase f := by
    rw [hnd.erase_eq_filter, List.filter_map]
    congr 1
    refine List.filter_congr fun x _ => ?_
    simp [bne, beq_eq_decide]
  have hqueued : f ::ₘ queued { s with linked := s.linked.filter fun x => decide (x.2 ≠ f) } =
      s.queued := by
    simp only [queued]
    rw [herase, ← coe_erase]
    exact cons_erase hf
  have hframes := h.frames
  have hbufs := h.bufs
  rw [← hqueued, ← singleton_add] at hframes hbufs
  rw [← singleton_add]
  refine ⟨h.cnt, ?_, ?_, h.owned⟩
  · rw [← hframes]
    dsimp only
    abel
  · rw [← hbufs]
    dsimp only
    congr 3
    abel

lemma Ledger.recycle_linked (hf : f ∈ s.queued) :
    Ledger nFrames (s.recycle f) held loose := by
  have hput := (h.unlink hf).recycle
  simpa [RecvPool.recycle, List.filter_filter] using hput

lemma Ledger.foldl_recycle {fs : List ℕ} (hnd : fs.Nodup)
    (hfs : ∀ f ∈ fs, f ∈ s.queued) : Ledger nFrames (fs.foldl RecvPool.recycle s) held loose := by
  induction fs generalizing s with
  | nil => exact h
  | cons f fs ih =>
    obtain ⟨hf, hnd⟩ := List.nodup_cons.1 hnd
    refine ih (h.recycle_linked (hfs f List.mem_cons_self)) hnd fun g hg => ?_
    have hne : g ≠ f := fun heq => hf (heq ▸ hg)
    have hgs := hfs g (List.mem_cons_of_mem f hg)
    simp only [queued, RecvPool.recycle, mem_coe, List.mem_map, List.mem_filter] at hgs ⊢
    obtain ⟨x, hx, rfl⟩ := hgs
    exact ⟨x, ⟨hx, decide_eq_true hne⟩, rfl⟩

lemma Ledger.freeQueue (sta : ℕ) :
    Ledger nFrames (s.rtwFreeRecvframeQueue sta) held loose := by
  have hsub : (s.defragQ sta).Sublist (s.linked.map Prod.snd) := List.filter_sublist.map Prod.snd
  refine h.foldl_recycle (((nodup_add.1 h.nodup).2.1 :).sublist hsub) ?_
  intro f hf
  exact hsub.subset hf

end

lemma Ledger.freeOpt {x : Option ℕ} (h : Ledger nFrames s ((x.toList : Multiset ℕ) + held) loose) :
    Ledger nFrames (s.rtwFreeRecvframe x) held loose := by
  cases x with
  | none => simpa [rtwFreeRecvframe] using h
  | some f =>
    apply Ledger.freeRecvframe
    simpa using h

/-! ## Fragments -/

lemma Ledger.defrag (h : Ledger nFrames s held loose) (sta : ℕ) (joins : Bool) :
    Ledger nFrames (s.recvframeDefrag sta joins).1
      (((s.recvframeDefrag sta joins).2.toList : Multiset ℕ) + held) loose := by
  rw [recvframeDefrag]
  cases hq : s.defragQ sta with
  | nil => simpa using h
  | cons pf rest =>
    have hmem : pf ∈ s.queued := by
      have hin : pf ∈ s.defragQ sta := hq ▸ List.mem_cons_self
      exact (List.filter_sublist.map Prod.snd).subset hin
    have hheld := h.unlink hmem
    cases joins with
    | true => simpa using hheld.freeQueue sta
    | false => simpa using (hheld.freeRecvframe).freeQueue sta

lemma Ledger.chkDefrag (h : Ledger nFrames s (f ::ₘ held) loose) (x : FragFate) :
    ((s.recvframeChkDefrag f x).2.1 = .defrag ∧ x.mfrag = true ∧ x.sta ≠ none ∧
      Ledger nFrames (s.recvframeChkDefrag f x).1 held loose) ∨
    ((s.recvframeChkDefrag f x).2.1 ≠ .defrag ∧
      ((s.recvframeChkDefrag f x).2.1 = .continue → (s.recvframeChkDefrag f x).2.2 ≠ none) ∧
      Ledger nFrames (s.recvframeChkDefrag f x).1
        (((s.recvframeChkDefrag f x).2.2.toList : Multiset ℕ) + held) loose) := by
  have hkeep : Ledger nFrames s (((some f).toList : Multiset ℕ) + held) loose := by simpa using h
  rw [recvframeChkDefrag]
  by_cases hmore : x.mfrag = true
  · rw [if_pos hmore]
    cases hsta : x.sta with
    | none => exact Or.inr ⟨nofun, nofun, hkeep⟩
    | some sta =>
      refine Or.inl ⟨rfl, hmore, nofun, ?_⟩
      dsimp only
      by_cases hzero : x.fragNum = 0
      · rw [if_pos hzero]
        exact (h.freeQueue sta).link sta
      · rw [if_neg hzero]
        exact h.link sta
  · rw [if_neg hmore]
    by_cases hzero : x.fragNum = 0
    · rw [if_neg (not_not.2 hzero)]
      exact Or.inr ⟨nofun, nofun, hkeep⟩
    · rw [if_pos hzero]
      cases hsta : x.sta with
      | none => exact Or.inr ⟨nofun, nofun, hkeep⟩
      | some sta =>
        dsimp only
        refine Or.inr ⟨?_, ?_, (h.link sta).defrag sta x.joins⟩
        · split_ifs <;> exact nofun
        · intro hret hnone
          rw [if_pos hnone] at hret
          cases hret

/-! ## Frames -/

end RecvPool

/-! ## Management frames -/

def FragFate.queues (x : FragFate) : Bool := x.mfrag && x.sta.isSome

def FragFate.handled (x : FragFate) : Bool :=
  (x.mfrag || decide (x.fragNum ≠ 0)) && x.sta.isSome

/-- The frame is a management frame that passes `validate_mgmt_protect` and
whose fragment is of the given kind. -/
def RxFate.isMgnt (kind : FragFate → Bool) : RxFate → Bool
  | .mgnt m => !m.protectFails && kind m.frag
  | _ => false

lemma isMgnt_mgnt {kind : FragFate → Bool} {m : MgntFate}
    (h : (RxFate.mgnt m).isMgnt kind = false) : m.protectFails = true ∨ kind m.frag = false := by
  cases hprotect : m.protectFails with
  | true => exact Or.inl rfl
  | false => simpa [RxFate.isMgnt, hprotect] using h

/-- The packet gets to `validate_recv_frame`. -/
def RxPacket.validated (p : RxPacket) : Bool :=
  p.req && !(p.pktFails || p.updateFails || p.broken || p.shortcut || p.mp)

structure RxPacket.Fits (p : RxPacket) (s : RecvPool) : Prop where
  single : s.freeRecvQueue ≠ [] → p.validated = true → p.fate.isMgnt FragFate.queues = false
  clones : 2 ≤ s.freeRecvQueue.length → p.req = true → p.pktFails = false →
    ∀ c ∈ p.clones, c.copied = true → c.fate.isMgnt FragFate.handled = false

namespace RecvPool

variable {nFrames : ℕ} {s : RecvPool} {held loose : Multiset ℕ} {f sta : ℕ}

lemma Ledger.foldl_freeQueue (h : Ledger nFrames s held loose) (stas : List ℕ) :
    Ledger nFrames (stas.foldl rtwFreeRecvframeQueue s) held loose := by
  induction stas generalizing s with
  | nil => exact h
  | cons sta stas ih => exact ih (h.freeQueue sta)

lemma Ledger.validateMgnt (h : Ledger nFrames s (f ::ₘ held) loose) {m : MgntFate}
    (hm : m.protectFails = true ∨ m.frag.queues = false) :
    Ledger nFrames (s.validateRecvMgntFrame f m).1
      (((s.validateRecvMgntFrame f m).2.toList : Multiset ℕ) + held) loose := by
  rw [validateRecvMgntFrame]
  by_cases hprotect : m.protectFails = true
  · rw [if_pos hprotect]
    simpa using h
  · rw [if_neg hprotect]
    have hqueues := hm.resolve_left hprotect
    rcases h.chkDefrag m.frag with ⟨-, hmore, hsta, -⟩ | ⟨-, -, hledger⟩
    · simp [FragFate.queues, hmore, Option.isSome_iff_ne_none.2 hsta] at hqueues
    · dsimp only
      split_ifs
      · exact hledger
      · exact hledger.foldl_freeQueue m.freedStas

lemma validateMgnt_frame {m : MgntFate} (hm : m.protectFails = true ∨ m.frag.handled = false) :
    (s.validateRecvMgntFrame f m).2 = some f := by
  rw [validateRecvMgntFrame]
  by_cases hprotect : m.protectFails = true
  · rw [if_pos hprotect]
  · rw [if_neg hprotect]
    have hframe : (s.recvframeChkDefrag f m.frag).2.2 = some f := by
      have hhandled := hm.resolve_left hprotect
      rw [recvframeChkDefrag]
      by_cases hmore : m.frag.mfrag = true
      · rw [if_pos hmore]
        cases m.frag.sta <;> rfl
      · rw [if_neg hmore]
        by_cases hzero : m.frag.fragNum = 0
        · rw [if_neg (not_not.2 hzero)]
        · have hsta : m.frag.sta = none := by
            simpa [FragFate.handled, hmore, hzero] using hhandled
          rw [if_pos hzero, hsta]
    dsimp only
    split_ifs <;> exact hframe

lemma Ledger.validate (h : Ledger nFrames s (f ::ₘ held) loose) {fate : RxFate}
    (hfate : fate.isMgnt FragFate.queues = false) :
    Ledger nFrames (s.validateRecvFrame f fate).1
      (((s.validateRecvFrame f fate).2.2.toList : Multiset ℕ) + held) loose := by
  cases fate with
  | badVersion => simpa [validateRecvFrame] using h
  | ctrl => simpa [validateRecvFrame] using h
  | mgnt m => exact h.validateMgnt (isMgnt_mgnt hfate)
  | data d => simpa [validateRecvFrame] using h

lemma Ledger.clone (h : Ledger nFrames s held loose) {c : CloneFate}
    (hc : s.freeRecvQueue ≠ [] → c.copied = true → c.fate.isMgnt FragFate.handled = false) :
    Ledger nFrames (s.cloneBcmcPacket c) held loose := by
  rw [cloneBcmcPacket]
  rcases h.alloc with hnone | ⟨f, hf, -, hheld⟩
  · rw [hnone]
    exact h
  · simp only [hf]
    have hq : s.freeRecvQueue ≠ [] := by
      intro hnil
      rw [rtwAllocRecvframe, hnil] at hf
      cases hf
    cases hcopied : c.copied with
    | false =>
      rw [if_neg Bool.false_ne_true]
      exact hheld.freeRecvframe
    | true =>
      rw [if_pos rfl]
      have hfate := hc hq hcopied
      apply Ledger.freeRecvframe
      cases hkind : c.fate with
      | badVersion => exact hheld
      | ctrl => exact hheld
      | data d => exact hheld
      | mgnt m =>
        rw [hkind] at hfate
        have hm := isMgnt_mgnt hfate
        have hqueues : m.protectFails = true ∨ m.frag.queues = false := by
          refine hm.imp_right fun hhandled => ?_
          cases hmore : m.frag.mfrag <;> simp_all [FragFate.handled, FragFate.queues]
        have hledger := hheld.validateMgnt hqueues
        rw [validateMgnt_frame hm] at hledger
        simpa [validateRecvFrame] using hledger

section

variable (h : Ledger nFrames s (f ::ₘ held) loose)
include h

lemma Ledger.post (post : PostFate) :
    Ledger nFrames (s.rxDataPostProcess f post).1
      (if (s.rxDataPostProcess f post).2.1 then held
        else ((s.rxDataPostProcess f post).2.2.toList : Multiset ℕ) + held) loose := by
  cases post with
  | noAct => simpa [rxDataPostProcess] using h
  | badHeader => simpa [rxDataPostProcess] using h
  | refused => simpa [rxDataPostProcess] using h
  | _ => simpa [rxDataPostProcess] using h.freeRecvframe

lemma Ledger.pre (d : DataFate) :
    ((s.rxDataPreProcess f d).2.1 = .defrag ∧
      Ledger nFrames (s.rxDataPreProcess f d).1 held loose) ∨
    ((s.rxDataPreProcess f d).2.1 ≠ .defrag ∧
      Ledger nFrames (s.rxDataPreProcess f d).1
        (((s.rxDataPreProcess f d).2.2.toList : Multiset ℕ) + held) loose) := by
  rw [rxDataPreProcess]
  by_cases hdec : d.decrypts = false
  · rw [if_pos hdec]
    exact Or.inr ⟨nofun, by simpa using h⟩
  · rw [if_neg hdec]
    rcases h.chkDefrag d.frag with ⟨hret, -, -, hledger⟩ | ⟨hret, -, hledger⟩
    · have hne : (s.recvframeChkDefrag f d.frag).2.1 ≠ .continue := by
        rw [hret]
        exact nofun
      dsimp only
      rw [if_pos hne]
      exact Or.inl ⟨hret, hledger⟩
    · dsimp only
      split_ifs
      · exact Or.inr ⟨hret, hledger⟩
      · exact Or.inr ⟨nofun, hledger⟩
      · exact Or.inr ⟨hret, hledger⟩

lemma Ledger.data (d : DataFate) :
    Ledger nFrames (s.rxFrame f (.data d)) held loose := by
  cases hvalid : d.valid with
  | false =>
    simp only [rxFrame, validateRecvFrame, hvalid, if_true]
    exact h.freeRecvframe
  | true =>
    simp only [rxFrame, validateRecvFrame, hvalid, Bool.true_eq_false, if_false]
    have hspec := h.pre d
    generalize s.rxDataPreProcess f d = r at hspec ⊢
    obtain ⟨s', ret, frame⟩ := r
    rcases hspec with ⟨hret, hledger⟩ | ⟨hret, hledger⟩
    · dsimp only at hret
      rw [hret]
      exact hledger
    · cases ret with
      | defrag => exact absurd rfl hret
      | drop => exact hledger.freeOpt
      | «continue» =>
        cases frame with
        | none => exact hledger.freeOpt
        | some g =>
          have hheld : Ledger nFrames s' (g ::ₘ held) loose := by simpa using hledger
          have hpost := hheld.post d.post
          dsimp only
          split_ifs with hdone
          · rwa [if_pos hdone] at hpost
          · rw [if_neg hdone] at hpost
            exact hpost.freeOpt

lemma Ledger.rxFrame {fate : RxFate}
    (hfate : fate.isMgnt FragFate.queues = false) :
    Ledger nFrames (s.rxFrame f fate) held loose := by
  cases fate with
  | data d => exact h.data d
  | mgnt m =>
    have hledger := h.validate hfate
    simp only [RecvPool.rxFrame]
    cases hv : (s.validateRecvFrame f (.mgnt m)).2.2 with
    | none =>
      rw [hv] at hledger
      exact hledger.freeOpt
    | some g =>
      rw [hv] at hledger
      exact hledger.freeOpt
  | _ => exact h.freeRecvframe

end

lemma Ledger.setRxReq {req : ℕ} (h : Ledger nFrames s (f ::ₘ held) (req ::ₘ loose))
    (hnone : s.rxReq f = none) :
    Ledger nFrames { s with rxReq := update s.rxReq f (some req) } (f ::ₘ held) loose := by
  obtain ⟨-, hheld, hlinked⟩ := h.held_fresh
  have hbufs := h.bufs
  rw [cons_add, Multiset.filterMap_cons_none _ _ hnone] at hbufs
  refine ⟨h.cnt, h.frames, ?_, h.owned⟩
  have hnot : f ∉ held + s.queued := by
    simp only [mem_add, not_or]
    exact ⟨hheld, hlinked⟩
  rw [cons_add, Multiset.filterMap_cons_some _ _ _ (update_self f _ s.rxReq)]
  dsimp only [queued] at hbufs hnot ⊢
  rw [filterMap_update hnot, ← hbufs, ← singleton_add, ← singleton_add]
  abel

/-! ## PHL buffers stay with their frames -/

lemma rtwFreeRecvframe_rxReq (s : RecvPool) (x : Option ℕ) :
    (s.rtwFreeRecvframe x).rxReq = s.rxReq := by
  cases x <;> rfl

lemma rtwFreeRecvframeQueue_rxReq (s : RecvPool) (sta : ℕ) :
    (s.rtwFreeRecvframeQueue sta).rxReq = s.rxReq := by
  rw [rtwFreeRecvframeQueue]
  generalize s.defragQ sta = fs
  induction fs generalizing s with
  | nil => rfl
  | cons f fs ih => exact ih (s.recycle f)

lemma recvframeDefrag_rxReq (s : RecvPool) (sta : ℕ) (joins : Bool) :
    (s.recvframeDefrag sta joins).1.rxReq = s.rxReq := by
  rw [recvframeDefrag]
  cases s.defragQ sta with
  | nil => rfl
  | cons pf rest => cases joins <;> exact rtwFreeRecvframeQueue_rxReq _ sta

lemma recvframeChkDefrag_rxReq (s : RecvPool) (f : ℕ) (x : FragFate) :
    (s.recvframeChkDefrag f x).1.rxReq = s.rxReq := by
  rw [recvframeChkDefrag]
  cases x.sta with
  | none => split_ifs <;> rfl
  | some sta =>
    by_cases hmore : x.mfrag = true
    · rw [if_pos hmore]
      by_cases hzero : x.fragNum = 0
      · simp only [if_pos hzero]
        exact rtwFreeRecvframeQueue_rxReq s sta
      · simp only [if_neg hzero]
    · rw [if_neg hmore]
      by_cases hzero : x.fragNum = 0
      · rw [if_neg (not_not.2 hzero)]
      · rw [if_pos hzero]
        exact recvframeDefrag_rxReq _ sta x.joins

lemma validateRecvFrame_rxReq (s : RecvPool) (f : ℕ) (fate : RxFate) :
    (s.validateRecvFrame f fate).1.rxReq = s.rxReq := by
  cases fate with
  | mgnt m =>
    have hfold : ∀ (stas : List ℕ) (s : RecvPool),
        (stas.foldl rtwFreeRecvframeQueue s).rxReq = s.rxReq := by
      intro stas
      induction stas with
      | nil => exact fun _ => rfl
      | cons sta stas ih => exact fun s => (ih _).trans (rtwFreeRecvframeQueue_rxReq s sta)
    simp only [validateRecvFrame, validateRecvMgntFrame]
    split_ifs
    · rfl
    · exact recvframeChkDefrag_rxReq s f m.frag
    · exact (hfold _ _).trans (recvframeChkDefrag_rxReq s f m.frag)
  | _ => rfl

variable {c : CloneFate}

lemma cloneBcmcPacket_rxReq (hf : f ∉ s.freeRecvQueue) :
    (s.cloneBcmcPacket c).rxReq f = s.rxReq f := by
  rw [cloneBcmcPacket, rtwAllocRecvframe]
  cases hq : s.freeRecvQueue with
  | nil => rfl
  | cons g q =>
    have hne : f ≠ g := by
      rintro rfl
      exact hf (hq ▸ List.mem_cons_self)
    dsimp only
    rw [rtwFreeRecvframe_rxReq, apply_ite RecvPool.rxReq, validateRecvFrame_rxReq, ite_self]
    exact update_of_ne hne none s.rxReq

/-! ## Packets -/

lemma cloneBcmcPacket_empty (hq : s.freeRecvQueue = []) :
    s.cloneBcmcPacket c = s := by
  rw [cloneBcmcPacket, rtwAllocRecvframe, hq]

lemma Ledger.clones (h : Ledger nFrames s (f ::ₘ held) loose) {cs : List CloneFate}
    (hcs : s.freeRecvQueue ≠ [] → ∀ c ∈ cs, c.copied = true →
      c.fate.isMgnt FragFate.handled = false) :
    Ledger nFrames (cs.foldl cloneBcmcPacket s) (f ::ₘ held) loose ∧
      (cs.foldl cloneBcmcPacket s).rxReq f = s.rxReq f := by
  induction cs generalizing s with
  | nil => exact ⟨h, rfl⟩
  | cons c cs ih =>
    rw [List.foldl_cons]
    by_cases hq : s.freeRecvQueue = []
    · rw [cloneBcmcPacket_empty hq]
      exact ih h fun hne => absurd hq hne
    · have hclone := h.clone fun _ => hcs hq c List.mem_cons_self
      obtain ⟨hledger, hreq⟩ := ih hclone fun _ c' hc' => hcs hq c' (List.mem_cons_of_mem c hc')
      exact ⟨hledger, hreq.trans (cloneBcmcPacket_rxReq h.held_fresh.1)⟩

lemma Ledger.newRxReq (h : Ledger nFrames s held 0) :
    Ledger nFrames { s with rxReqCnt := s.rxReqCnt + 1 } held {s.rxReqCnt} := by
  refine ⟨h.cnt, h.frames, ?_, h.owned⟩
  have hbufs := h.bufs
  rw [add_zero] at hbufs
  rw [Multiset.range_succ, ← hbufs, ← singleton_add]
  exact add_comm _ _

lemma rtwAllocRecvframe_eq (hf : s.rtwAllocRecvframe.2 = some f) :
    s.freeRecvQueue = f :: s.rtwAllocRecvframe.1.freeRecvQueue ∧
      s.rtwAllocRecvframe.1.rxReq f = none := by
  rw [rtwAllocRecvframe] at hf ⊢
  cases hq : s.freeRecvQueue with
  | nil =>
    rw [hq] at hf
    cases hf
  | cons g q =>
    rw [hq] at hf
    cases hf
    exact ⟨rfl, update_self f none s.rxReq⟩

lemma Ledger.coreRxProcess (h : Ledger nFrames s 0 0) {p : RxPacket} (hp : p.Fits s) :
    Ledger nFrames (s.rtwCoreRxProcess p) 0 0 := by
  rw [rtwCoreRxProcess]
  rcases h.alloc with hnone | ⟨f, hf, hcnt, hheld⟩
  · rw [hnone]
    exact h
  obtain ⟨hq, hfresh⟩ := rtwAllocRecvframe_eq hf
  have hne : s.freeRecvQueue ≠ [] := by
    rw [hq]
    exact List.cons_ne_nil _ _
  simp only [hf]
  generalize s.rtwAllocRecvframe.1 = s₁ at hcnt hheld hq hfresh ⊢
  by_cases hreq : p.req = false
  · rw [if_pos hreq]
    exact hheld.freeRecvframe
  rw [if_neg hreq]
  have hreq : p.req = true := Bool.eq_true_of_not_eq_false hreq
  rw [← hcnt]
  -- the PHL buffer has no frame while the other interfaces are served
  have hclones : p.pktFails = false → s₁.freeRecvQueue ≠ [] → ∀ c ∈ p.clones, c.copied = true →
      c.fate.isMgnt FragFate.handled = false := by
    intro hpkt hne₁
    refine hp.clones ?_ hreq hpkt
    have hpos := List.length_pos_iff.2 hne₁
    rw [hq, List.length_cons]
    omega
  generalize hs₂ : (if p.pktFails = true then { s₁ with rxReqCnt := s₁.rxReqCnt + 1 }
    else p.clones.foldl cloneBcmcPacket { s₁ with rxReqCnt := s₁.rxReqCnt + 1 }) = s₂
  have hserved : Ledger nFrames s₂ (f ::ₘ 0) {s₁.rxReqCnt} ∧ s₂.rxReq f = none := by
    rw [← hs₂]
    cases hpkt : p.pktFails with
    | true => exact ⟨hheld.newRxReq, hfresh⟩
    | false =>
      obtain ⟨hledger, hsame⟩ := hheld.newRxReq.clones (hclones hpkt)
      exact ⟨hledger, hsame.trans hfresh⟩
  obtain ⟨hledger, hnone⟩ := hserved
  have hset := hledger.setRxReq hnone
  split_ifs with hout
  · exact hset.freeRecvframe
  · refine hset.rxFrame (hp.single hne ?_)
    rw [RxPacket.validated, hreq, Bool.eq_false_of_not_eq_true hout]
    rfl

lemma Ledger.step (h : Ledger nFrames s 0 0) {e : Event}
    (he : ∀ p, e = .rx p → p.Fits s) : Ledger nFrames (s.step e) 0 0 := by
  cases e with
  | rx p => exact h.coreRxProcess (he p rfl)
  | freeSta sta => exact h.freeQueue sta

/-! ## Conservation -/

/-- The counter is right; every frame is in the free queue or linked once,
not both; every PHL buffer has gone back once or belongs to one linked
frame; and no frame was freed while it was linked or free. -/
structure Conserved (nFrames : ℕ) (s : RecvPool) : Prop where
  freeRecvframeCnt : s.freeRecvframeCnt = s.freeRecvQueue.length
  recvframe : ∀ f < nFrames, s.freeRecvQueue.count f + (s.linked.map Prod.snd).count f = 1
  rxbuf : ∀ r < s.rxReqCnt,
    s.returnedRxbuf.count r + ((s.linked.map Prod.snd).filterMap s.rxReq).count r = 1
  owned : s.misfreed = []

lemma Ledger.conserved (h : Ledger nFrames s 0 0) : Conserved nFrames s := by
  constructor
  · exact h.cnt
  · intro f hf
    have hcount := congrArg (Multiset.count f) h.frames
    rw [Multiset.count_eq_one_of_mem (Multiset.nodup_range nFrames) (Multiset.mem_range.2 hf)]
      at hcount
    simpa [queued] using hcount
  · intro r hr
    have hcount := congrArg (Multiset.count r) h.bufs
    rw [Multiset.count_eq_one_of_mem (Multiset.nodup_range s.rxReqCnt) (Multiset.mem_range.2 hr)]
      at hcount
    simpa [queued] using hcount
  · exact h.owned

end RecvPool

/-- In every run, whatever fails for a packet, as long as no management frame
is put into a queue of fragments, or given as a fragment to several
interfaces. -/
theorem rx_frames_conserved (nFrames : ℕ) (es : List RecvPool.Event)
    (hfits : Guarded RecvPool.step (fun s e => ∀ p, e = .rx p → p.Fits s) (RecvPool.init nFrames)
      es) :
    RecvPool.Conserved nFrames (run RecvPool.step (RecvPool.init nFrames) es) := by
  have hledger : RecvPool.Ledger nFrames (run RecvPool.step (RecvPool.init nFrames) es) 0 0 :=
    @Guarded.invariant _ _ _ _ (fun s => RecvPool.Ledger nFrames s 0 0)
      (fun _ _ h he => RecvPool.Ledger.step h he) _ _ (RecvPool.ledger_init nFrames) hfits
  exact hledger.conserved

/-- Two fragments of station 7 that are joined, the second after a broken
frame, and a deauthentication by which the station is removed. -/
def joinedAndRemoved : List RecvPool.Event :=
  [.rx { fate := .data { frag := { sta := some 7, mfrag := true } } },
    .rx { broken := true, fate := .data {} },
    .rx { fate := .data { frag := { sta := some 7, fragNum := 1, joins := true } } },
    .rx { fate := .mgnt { freedStas := [7] } }]

theorem rx_frames_conserved_joined :
    (run RecvPool.step (RecvPool.init 2) (joinedAndRemoved.take 2)).linked = [(7, 0)] ∧
      RecvPool.Conserved 2 (run RecvPool.step (RecvPool.init 2) joinedAndRemoved) := by
  refine ⟨by decide, rx_frames_conserved 2 joinedAndRemoved ⟨?_, ?_, ?_, ?_, trivial⟩⟩
  all_goals
    rintro p ⟨⟩
    constructor
    · intro _ _
      rfl
    · intro _ _ _ c hc
      cases hc

/-- A first fragment of a management frame is freed while it is linked; a
last one that another interface gets too is freed twice. -/
theorem rx_frames_not_conserved :
    ¬RecvPool.Conserved 2 (run RecvPool.step (RecvPool.init 2)
        [.rx { fate := .mgnt { frag := { sta := some 7, mfrag := true } } }]) ∧
      ¬RecvPool.Conserved 2 (run RecvPool.step (RecvPool.init 2)
        [.rx { clones := [⟨true, .mgnt { frag := { sta := some 7, fragNum := 1 } }⟩]
               fate := .mgnt { frag := { sta := some 7, fragNum := 1 } } }]) := by
  constructor
  · intro h
    exact absurd h.owned (by decide)
  · intro h
    exact absurd h.freeRecvframeCnt (by decide)

end Rtl8831.Core
