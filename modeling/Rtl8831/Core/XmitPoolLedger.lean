import Rtl8831.Core.XmitPool

/-!
# Where every transmit frame is

Each frame, request buffer and packet is free, held by the function that is
running, or in use by requests that are in the ring or in a sleep queue.  The
ledger says so with three equations of multisets; every operation moves
entries between their sides.
-/

namespace Rtl8831.Core

open Lib Multiset

namespace XmitPool

def live (s : XmitPool) : Multiset TxReq := (s.ring : Multiset TxReq) + s.sleepQ

/-- What the running function holds: frames with their contents, buffers and
packets. -/
structure Held where
  frames : Multiset (ℕ × XmitFrame)
  bufs : Multiset ℕ
  skbs : Multiset ℕ

def Held.none : Held := ⟨0, 0, 0⟩

/-- `busy` has one entry for every frame with live requests. -/
structure Ledger (nFrames nBufs : ℕ) (s : XmitPool) (held : Held) (busy : Multiset TxReq) :
    Prop where
  xmitCnt : s.freeXmitframeCnt = s.freeXmitQueue.length
  txreqCnt : s.freeTxreqCnt = s.freeTxreqQueue.length
  frames : (s.freeXmitQueue : Multiset ℕ) + held.frames.map Prod.fst + busy.map TxReq.osPriv =
    Multiset.range nFrames
  bufs : (s.freeTxreqQueue : Multiset ℕ) + held.bufs + busy.map TxReq.txreqBuf =
    Multiset.range nBufs
  skbs : (s.completed : Multiset ℕ) + held.skbs + busy.map TxReq.skb = Multiset.range s.skbCnt
  free_pkt : ∀ f ∈ s.freeXmitQueue, (s.frame f).pkt = Option.none
  held_frame : ∀ x ∈ held.frames, s.frame x.1 = x.2
  live_busy : ∀ r ∈ s.live, r ∈ busy
  busy_live : ∀ r ∈ busy, 0 < s.live.count r
  busy_frame : ∀ r ∈ busy, (s.frame r.osPriv).pkt = some r.skb ∧
    (s.frame r.osPriv).ptxreqBuf = some r.txreqBuf ∧
    (s.frame r.osPriv).txfreeCnt + s.live.count r = (s.frame r.osPriv).txreqCnt

variable {nFrames nBufs : ℕ} {s : XmitPool} {held : Held} {busy : Multiset TxReq}
  {F : Multiset (ℕ × XmitFrame)} {B K : Multiset ℕ} {f b k : ℕ} {x y : XmitFrame}

/-! ## No frame stands twice -/

section

variable (h : Ledger nFrames nBufs s held busy)
include h

lemma Ledger.frames_nodup :
    ((s.freeXmitQueue : Multiset ℕ) + held.frames.map Prod.fst +
      busy.map TxReq.osPriv).Nodup := by
  rw [h.frames]
  exact Multiset.nodup_range nFrames

lemma Ledger.bufs_nodup :
    ((s.freeTxreqQueue : Multiset ℕ) + held.bufs + busy.map TxReq.txreqBuf).Nodup := by
  rw [h.bufs]
  exact Multiset.nodup_range nBufs

lemma Ledger.busy_nodup : busy.Nodup :=
  Multiset.Nodup.of_map TxReq.osPriv (nodup_add.1 h.frames_nodup).2.1

end

lemma Ledger.held_fresh (h : Ledger nFrames nBufs s ⟨(f, x) ::ₘ F, B, K⟩ busy) :
    f ∉ s.freeXmitQueue ∧ (∀ z ∈ F, z.1 ≠ f) ∧ ∀ r ∈ busy, r.osPriv ≠ f := by
  have hnd := h.frames_nodup
  simp only [Multiset.map_cons, add_cons, cons_add, Multiset.nodup_cons,
    mem_add, mem_coe, Multiset.mem_map, not_or, not_exists, not_and] at hnd
  exact ⟨hnd.1.1.1, hnd.1.1.2, hnd.1.2⟩

section

variable (h : Ledger nFrames nBufs s held busy)
include h

lemma Ledger.busy_eq {q r : TxReq} (hq : q ∈ busy)
    (hr : r ∈ busy) (heq : q.osPriv = r.osPriv) : q = r :=
  Multiset.inj_on_of_nodup_map (nodup_add.1 h.frames_nodup).2.1 q hq r hr heq

lemma Ledger.busy_fresh {r : TxReq} (hr : r ∈ busy) :
    r.osPriv ∉ s.freeXmitQueue ∧ ∀ z ∈ held.frames, z.1 ≠ r.osPriv := by
  have hmem : r.osPriv ∈ busy.map TxReq.osPriv := Multiset.mem_map_of_mem _ hr
  have hnot := Multiset.disjoint_right.1 (nodup_add.1 h.frames_nodup).2.2 hmem
  simp only [mem_add, mem_coe, Multiset.mem_map, not_or, not_exists,
    not_and] at hnot
  exact hnot

lemma Ledger.length_txreq :
    s.freeTxreqQueue.length + held.bufs.card + busy.card = nBufs := by
  have hcard := congrArg card h.bufs
  simpa using hcard

end

/-! ## Operations -/

lemma ledger_init (nFrames nBufs fragLen : ℕ) :
    Ledger nFrames nBufs (init nFrames nBufs fragLen) Held.none 0 where
  xmitCnt := by simp [init]
  txreqCnt := by simp [init]
  frames := by simp [init, Held.none, Multiset.range]
  bufs := by simp [init, Held.none, Multiset.range]
  skbs := by simp [init, Held.none]
  free_pkt _ _ := rfl
  held_frame x hx := by simp [Held.none] at hx
  live_busy r hr := by simp [init, live] at hr
  busy_live r hr := by simp at hr
  busy_frame r hr := by simp at hr

lemma Ledger.setFrame (h : Ledger nFrames nBufs s ⟨(f, x) ::ₘ F, B, K⟩ busy) (y : XmitFrame) :
    Ledger nFrames nBufs (s.setFrame f y) ⟨(f, y) ::ₘ F, B, K⟩ busy := by
  obtain ⟨hfree, hheld, hbusy⟩ := h.held_fresh
  constructor
  · exact h.xmitCnt
  · exact h.txreqCnt
  · have hframes := h.frames
    rw [Multiset.map_cons] at hframes ⊢
    exact hframes
  · exact h.bufs
  · exact h.skbs
  · intro g hg
    have hgf : g ≠ f := fun heq => hfree (heq ▸ hg)
    rw [setFrame_of_ne s y hgf]
    exact h.free_pkt g hg
  · intro z hz
    rcases Multiset.mem_cons.1 hz with rfl | hz
    · exact setFrame_self s f y
    · rw [setFrame_of_ne s y (hheld z hz)]
      exact h.held_frame z (Multiset.mem_cons_of_mem hz)
  · exact h.live_busy
  · exact h.busy_live
  · intro r hr
    rw [setFrame_of_ne s y (hbusy r hr)]
    exact h.busy_frame r hr

lemma Ledger.frame_eq (h : Ledger nFrames nBufs s ⟨(f, x) ::ₘ F, B, K⟩ busy) :
    s.frame f = x :=
  h.held_frame (f, x) (Multiset.mem_cons_self _ _)

lemma Ledger.newSkb (h : Ledger nFrames nBufs s ⟨F, B, K⟩ busy) :
    Ledger nFrames nBufs s.newSkb.2 ⟨F, B, s.newSkb.1 ::ₘ K⟩ busy where
  xmitCnt := h.xmitCnt
  txreqCnt := h.txreqCnt
  frames := h.frames
  bufs := h.bufs
  skbs := by
    have hskbs := h.skbs
    simp only [XmitPool.newSkb, Multiset.range_succ, add_cons, cons_add] at hskbs ⊢
    rw [hskbs]
  free_pkt := h.free_pkt
  held_frame := h.held_frame
  live_busy := h.live_busy
  busy_live := h.busy_live
  busy_frame := h.busy_frame

lemma Ledger.complete (h : Ledger nFrames nBufs s ⟨F, B, k ::ₘ K⟩ busy) :
    Ledger nFrames nBufs (s.rtwOsPktComplete k) ⟨F, B, K⟩ busy where
  xmitCnt := h.xmitCnt
  txreqCnt := h.txreqCnt
  frames := h.frames
  bufs := h.bufs
  skbs := by
    rw [rtwOsPktComplete, ← h.skbs, ← coe_add, coe_singleton,
      ← singleton_add]
    dsimp only
    abel
  free_pkt := h.free_pkt
  held_frame := h.held_frame
  live_busy := h.live_busy
  busy_live := h.busy_live
  busy_frame := h.busy_frame

variable {s' : XmitPool} {o : Option ℕ} {q : List ℕ} {r : TxReq}

lemma Ledger.alloc (h : Ledger nFrames nBufs s ⟨F, B, K⟩ busy)
    (hq : s.freeXmitQueue = f :: q) :
    ∃ s', s.coreTxAllocXmitframe = some (f, s') ∧
      Ledger nFrames nBufs s' ⟨(f, {}) ::ₘ F, B, K⟩ busy ∧ s'.freeXmitQueue = q ∧
      s'.freeTxreqQueue = s.freeTxreqQueue ∧ s'.fragLen = s.fragLen := by
  have halloc : s.coreTxAllocXmitframe = some (f, coreTxInitXmitframe
      { s with freeXmitQueue := q, freeXmitframeCnt := s.freeXmitframeCnt - 1 } f) := by
    rw [coreTxAllocXmitframe, hq]
  refine ⟨_, halloc, ?_, rfl, rfl, rfl⟩
  have hpkt : (s.frame f).pkt = Option.none := h.free_pkt f (by simp [hq])
  -- off the queue, with what it held before
  have htaken : Ledger nFrames nBufs
      { s with freeXmitQueue := q, freeXmitframeCnt := s.freeXmitframeCnt - 1 }
      ⟨(f, s.frame f) ::ₘ F, B, K⟩ busy := by
    constructor
    · have hcnt := h.xmitCnt
      rw [hq, List.length_cons] at hcnt
      exact Nat.sub_eq_of_eq_add hcnt
    · exact h.txreqCnt
    · rw [← h.frames, hq, ← cons_coe]
      simp only [Multiset.map_cons, add_cons, cons_add]
    · exact h.bufs
    · exact h.skbs
    · exact fun g hg => h.free_pkt g (hq ▸ List.mem_cons_of_mem f hg)
    · intro z hz
      rcases Multiset.mem_cons.1 hz with rfl | hz
      · rfl
      · exact h.held_frame z hz
    · exact h.live_busy
    · exact h.busy_live
    · exact h.busy_frame
  have hset := htaken.setFrame { pkt := (s.frame f).pkt }
  rw [hpkt] at hset
  rw [coreTxInitXmitframe, hpkt]
  exact hset

lemma Ledger.getBuf (h : Ledger nFrames nBufs s ⟨F, B, K⟩ busy)
    (hq : s.freeTxreqQueue = b :: q) :
    ∃ s', s.getTxreqBuffer = some (b, s') ∧ Ledger nFrames nBufs s' ⟨F, b ::ₘ B, K⟩ busy ∧
      s'.frame = s.frame := by
  have hget : s.getTxreqBuffer =
      some (b, { s with freeTxreqQueue := q, freeTxreqCnt := s.freeTxreqCnt - 1 }) := by
    rw [getTxreqBuffer, hq]
  refine ⟨_, hget, ?_, rfl⟩
  constructor
  · exact h.xmitCnt
  · have hcnt := h.txreqCnt
    rw [hq, List.length_cons] at hcnt
    exact Nat.sub_eq_of_eq_add hcnt
  · exact h.frames
  · rw [← h.bufs, hq, ← cons_coe]
    simp only [add_cons, cons_add]
  · exact h.skbs
  · exact h.free_pkt
  · exact h.held_frame
  · exact h.live_busy
  · exact h.busy_live
  · exact h.busy_frame

/-! ## Releasing a frame -/

def refs (o : Option ℕ) : Multiset ℕ := o.elim 0 fun n => {n}

@[simp] lemma refs_none : refs none = 0 := rfl

@[simp] lemma refs_some (n : ℕ) : refs (some n) = {n} := rfl

lemma Ledger.putBuf (h : Ledger nFrames nBufs s ⟨F, refs o + B, K⟩ busy) :
    Ledger nFrames nBufs (s.putTxreqBuf o) ⟨F, B, K⟩ busy := by
  cases o with
  | none => simpa [refs, putTxreqBuf] using h
  | some b =>
    have hb : b ∉ s.freeTxreqQueue := by
      have hnd := h.bufs_nodup
      simp only [refs_some, singleton_add, add_cons,
        cons_add, Multiset.nodup_cons, mem_add, mem_coe, not_or] at hnd
      exact hnd.1.1.1
    constructor
    · exact h.xmitCnt
    · simp [putTxreqBuf, List.erase_of_not_mem hb, h.txreqCnt]
    · exact h.frames
    · rw [← h.bufs, putTxreqBuf, List.erase_of_not_mem hb, ← coe_add,
        coe_singleton, refs_some]
      dsimp only
      abel
    · exact h.skbs
    · exact h.free_pkt
    · exact h.held_frame
    · exact h.live_busy
    · exact h.busy_live
    · exact h.busy_frame

lemma Ledger.completeOpt (h : Ledger nFrames nBufs s ⟨F, B, refs o + K⟩ busy) :
    Ledger nFrames nBufs (s.rtwOsXmitComplete o) ⟨F, B, K⟩ busy := by
  cases o with
  | none => simpa [refs, rtwOsXmitComplete] using h
  | some k => exact Ledger.complete h

lemma Ledger.freeLast
    (h : Ledger nFrames nBufs s ⟨(f, x) ::ₘ F, refs x.ptxreqBuf + B, refs x.pkt + K⟩ busy)
    (hlast : x.txreqCnt ≤ x.txfreeCnt + 1) :
    Ledger nFrames nBufs (s.coreTxFreeXmitframe f) ⟨F, B, K⟩ busy := by
  have hx := h.frame_eq
  rw [coreTxFreeXmitframe, hx]
  dsimp only
  rw [if_neg (by omega)]
  have hset := h.putBuf.completeOpt.setFrame { x with txfreeCnt := x.txfreeCnt + 1, pkt := none }
  generalize hs' : ((s.putTxreqBuf x.ptxreqBuf).rtwOsXmitComplete x.pkt).setFrame f
    { x with txfreeCnt := x.txfreeCnt + 1, pkt := none } = s' at hset ⊢
  obtain ⟨hfree', -, -⟩ := hset.held_fresh
  constructor
  · simp [List.erase_of_not_mem hfree', hset.xmitCnt]
  · exact hset.txreqCnt
  · rw [← hset.frames, List.erase_of_not_mem hfree', ← coe_add, coe_singleton,
      Multiset.map_cons, ← singleton_add]
    dsimp only
    abel
  · exact hset.bufs
  · exact hset.skbs
  · intro g hg
    rw [List.erase_of_not_mem hfree', List.mem_append, List.mem_singleton] at hg
    rcases hg with hg | rfl
    · exact hset.free_pkt g hg
    · exact congrArg XmitFrame.pkt hset.frame_eq
  · exact fun z hz => hset.held_frame z (Multiset.mem_cons_of_mem hz)
  · exact hset.live_busy
  · exact hset.busy_live
  · exact hset.busy_frame

/-! ## Requests -/

lemma Ledger.submit {m : ℕ}
    (h : Ledger nFrames nBufs s ⟨(f, x) ::ₘ F, b ::ₘ B, k ::ₘ K⟩ busy) (hm : 0 < m)
    (hpkt : x.pkt = some k) (hbuf : x.ptxreqBuf = some b) (hcnt : x.txfreeCnt + m = x.txreqCnt)
    (hs' : s' = { s with ring := s'.ring, sleepQ := s'.sleepQ })
    (hlive : s'.live = s.live + Multiset.replicate m ⟨f, b, k⟩) :
    Ledger nFrames nBufs s' ⟨F, B, K⟩ (⟨f, b, k⟩ ::ₘ busy) := by
  obtain ⟨-, -, hbusy⟩ := h.held_fresh
  have hx := h.frame_eq
  have hnew : (⟨f, b, k⟩ : TxReq) ∉ busy := fun hmem => hbusy _ hmem rfl
  have hzero : s.live.count ⟨f, b, k⟩ = 0 :=
    Multiset.count_eq_zero.2 fun hmem => hnew (h.live_busy _ hmem)
  have hother : ∀ r ∈ busy, s'.live.count r = s.live.count r := by
    intro r hr
    rw [hlive, count_add, Multiset.count_replicate, if_neg, add_zero]
    rintro rfl
    exact hnew hr
  have hself : s'.live.count ⟨f, b, k⟩ = m := by
    rw [hlive, count_add, hzero, Multiset.count_replicate_self, zero_add]
  have hframe : s'.frame = s.frame := by rw [hs']
  constructor
  · rw [hs']
    exact h.xmitCnt
  · rw [hs']
    exact h.txreqCnt
  · rw [← h.frames, hs']
    simp only [Multiset.map_cons, add_cons, cons_add]
  · rw [← h.bufs, hs']
    simp only [Multiset.map_cons, add_cons, cons_add]
  · have hskbs := h.skbs
    rw [hs', ← hskbs]
    simp only [Multiset.map_cons, add_cons, cons_add]
  · rw [hs']
    exact h.free_pkt
  · rw [hframe]
    exact fun z hz => h.held_frame z (Multiset.mem_cons_of_mem hz)
  · intro r hr
    rw [hlive, mem_add] at hr
    rcases hr with hr | hr
    · exact Multiset.mem_cons_of_mem (h.live_busy r hr)
    · rw [Multiset.eq_of_mem_replicate hr]
      exact Multiset.mem_cons_self _ _
  · intro r hr
    rcases Multiset.mem_cons.1 hr with rfl | hr
    · rw [hself]
      exact hm
    · rw [hother r hr]
      exact h.busy_live r hr
  · intro r hr
    rw [hframe]
    rcases Multiset.mem_cons.1 hr with rfl | hr
    · rw [hx, hself]
      exact ⟨hpkt, hbuf, hcnt⟩
    · rw [hother r hr]
      exact h.busy_frame r hr

lemma Ledger.takeLast (h : Ledger nFrames nBufs s ⟨F, B, K⟩ (r ::ₘ busy)) (hone : s.live.count r = 1)
    (hs' : s' = { s with ring := s'.ring, sleepQ := s'.sleepQ }) (hlive : s.live = r ::ₘ s'.live) :
    Ledger nFrames nBufs s'
      ⟨(r.osPriv, s.frame r.osPriv) ::ₘ F, r.txreqBuf ::ₘ B, r.skb ::ₘ K⟩ busy := by
  have hnew : r ∉ busy := (Multiset.nodup_cons.1 h.busy_nodup).1
  have hgone : s'.live.count r = 0 := by
    rw [hlive, Multiset.count_cons_self] at hone
    omega
  have hother : ∀ q ∈ busy, s'.live.count q = s.live.count q := by
    intro q hq
    rw [hlive, Multiset.count_cons_of_ne]
    rintro rfl
    exact hnew hq
  have hframe : s'.frame = s.frame := by rw [hs']
  constructor
  · rw [hs']
    exact h.xmitCnt
  · rw [hs']
    exact h.txreqCnt
  · rw [← h.frames, hs']
    simp only [Multiset.map_cons, add_cons, cons_add]
  · rw [← h.bufs, hs']
    simp only [Multiset.map_cons, add_cons, cons_add]
  · have hskbs := h.skbs
    rw [hs', ← hskbs]
    simp only [Multiset.map_cons, add_cons, cons_add]
  · rw [hs']
    exact h.free_pkt
  · intro z hz
    rw [hframe]
    rcases Multiset.mem_cons.1 hz with rfl | hz
    · rfl
    · exact h.held_frame z hz
  · intro q hq
    have hmem : q ∈ r ::ₘ busy := h.live_busy q (by rw [hlive]; exact Multiset.mem_cons_of_mem hq)
    rcases Multiset.mem_cons.1 hmem with rfl | hmem
    · exact absurd hq (Multiset.count_eq_zero.1 hgone)
    · exact hmem
  · intro q hq
    rw [hother q hq]
    exact h.busy_live q (Multiset.mem_cons_of_mem hq)
  · intro q hq
    rw [hframe, hother q hq]
    exact h.busy_frame q (Multiset.mem_cons_of_mem hq)

lemma Ledger.takeMore (h : Ledger nFrames nBufs s ⟨F, B, K⟩ busy)
    (hr : r ∈ busy) (hmore : 1 < s.live.count r)
    (hs' : s' = { s with ring := s'.ring, sleepQ := s'.sleepQ }) (hlive : s.live = r ::ₘ s'.live) :
    Ledger nFrames nBufs (s'.coreTxFreeXmitframe r.osPriv) ⟨F, B, K⟩ busy := by
  obtain ⟨hpkt, hbuf, hcnt⟩ := h.busy_frame r hr
  obtain ⟨hfree, hheld⟩ := h.busy_fresh hr
  have hframe : s'.frame = s.frame := by rw [hs']
  have hcount : s'.live.count r + 1 = s.live.count r := by
    rw [hlive, Multiset.count_cons_self]
  obtain ⟨y, hy⟩ : ∃ y : XmitFrame, y = { s.frame r.osPriv with
      txfreeCnt := (s.frame r.osPriv).txfreeCnt + 1 } := ⟨_, rfl⟩
  have hrel : s'.coreTxFreeXmitframe r.osPriv = s'.setFrame r.osPriv y := by
    rw [coreTxFreeXmitframe, hframe, hy]
    dsimp only
    rw [if_pos (by omega)]
  have hother : ∀ g, g ≠ r.osPriv → (s'.setFrame r.osPriv y).frame g = s.frame g := by
    intro g hg
    rw [← hframe]
    exact setFrame_of_ne s' y hg
  have hkeep : (s'.setFrame r.osPriv y).live = s'.live := rfl
  rw [hrel]
  constructor
  · rw [hs']
    exact h.xmitCnt
  · rw [hs']
    exact h.txreqCnt
  · rw [← h.frames, hs']
    rfl
  · rw [← h.bufs, hs']
    rfl
  · rw [hs']
    exact h.skbs
  · intro g hg
    have hg' : g ∈ s.freeXmitQueue := by
      rw [hs'] at hg
      exact hg
    rw [hother g fun hgr => hfree (hgr ▸ hg')]
    exact h.free_pkt g hg'
  · intro z hz
    rw [hother z.1 (hheld z hz)]
    exact h.held_frame z hz
  · intro q hq
    rw [hkeep] at hq
    exact h.live_busy q (by rw [hlive]; exact Multiset.mem_cons_of_mem hq)
  · intro q hq
    rw [hkeep]
    by_cases hqr : q = r
    · subst hqr
      omega
    · have hpos := h.busy_live q hq
      rwa [hlive, Multiset.count_cons_of_ne hqr] at hpos
  · intro q hq
    rw [hkeep]
    by_cases hqr : q = r
    · subst hqr
      rw [setFrame_self, hy]
      exact ⟨hpkt, hbuf, by dsimp only; omega⟩
    · have hne : q.osPriv ≠ r.osPriv := fun heq => hqr (h.busy_eq hq hr heq)
      have hcq : s'.live.count q = s.live.count q := by
        rw [hlive, Multiset.count_cons_of_ne hqr]
      rw [hother q.osPriv hne, hcq]
      exact h.busy_frame q hq

lemma live_eraseIdx {i : ℕ} {r : TxReq} (hr : s.ring[i]? = some r) :
    s.live = r ::ₘ ({ s with ring := s.ring.eraseIdx i } : XmitPool).live := by
  obtain ⟨hi, rfl⟩ := List.getElem?_eq_some_iff.1 hr
  have hperm : s.ring.Perm (s.ring[i] :: s.ring.eraseIdx i) :=
    (List.getElem_cons_eraseIdx_perm hi).symm
  rw [live, live, ← cons_add, cons_coe, coe_eq_coe.2 hperm]

lemma Ledger.recycle (h : Ledger nFrames nBufs s Held.none busy) (i : ℕ) :
    ∃ busy', Ledger nFrames nBufs (s.rtwCoreTxRecycle i) Held.none busy' := by
  rw [rtwCoreTxRecycle]
  cases hi : s.ring[i]? with
  | none => exact ⟨busy, h⟩
  | some r =>
    dsimp only
    have hlive := live_eraseIdx hi
    have hr : r ∈ busy := h.live_busy r (by rw [hlive]; exact Multiset.mem_cons_self _ _)
    by_cases hone : s.live.count r = 1
    · obtain ⟨hpkt, hbuf, hcnt⟩ := h.busy_frame r hr
      obtain ⟨rest, rfl⟩ := exists_cons_of_mem hr
      have htake := Ledger.takeLast h hone rfl hlive
      refine ⟨rest, Ledger.freeLast (x := s.frame r.osPriv) ?_ (by omega)⟩
      rw [hpkt, hbuf]
      exact htake
    · have hpos := h.busy_live r hr
      exact ⟨busy, Ledger.takeMore h hr (by omega) rfl hlive⟩

/-! ## One frame -/

lemma addTxReqs_spec (s : XmitPool) (r : TxReq) (full : ℕ → Bool) (n idx : ℕ) :
    ∃ m, (s.addTxReqs r full n idx).2 = { s with ring := s.ring ++ List.replicate m r } ∧
      (((s.addTxReqs r full n idx).1 = true ∧ m = n) ∨
        ((s.addTxReqs r full n idx).1 = false ∧ m < n ∧ full (idx + m) = true)) ∧
      ∀ j < m, full (idx + j) = false := by
  induction n generalizing s idx with
  | zero => exact ⟨0, by simp [addTxReqs], Or.inl ⟨rfl, rfl⟩, by simp⟩
  | succ n ih =>
    rw [addTxReqs]
    cases hidx : full idx with
    | true => exact ⟨0, by simp, Or.inr ⟨rfl, Nat.succ_pos n, hidx⟩, by simp⟩
    | false =>
      rw [if_neg Bool.false_ne_true]
      obtain ⟨m, heq, hres, hbefore⟩ := ih { s with ring := s.ring ++ [r] } (idx + 1)
      refine ⟨m + 1, ?_, ?_, ?_⟩
      · rw [heq, List.replicate_succ, List.append_assoc, List.singleton_append]
      · rcases hres with ⟨hok, rfl⟩ | ⟨hfail, hm, hfull⟩
        · exact Or.inl ⟨hok, rfl⟩
        · exact Or.inr ⟨hfail, Nat.succ_lt_succ hm, by rwa [← add_assoc, add_right_comm]⟩
      · intro j hj
        cases j with
        | zero => exact hidx
        | succ j =>
          have hj' := hbefore j (Nat.lt_of_succ_lt_succ hj)
          rwa [add_right_comm, add_assoc] at hj'

lemma Ledger.abort
    (h : Ledger nFrames nBufs s ⟨(f, x) ::ₘ F, refs x.ptxreqBuf + B, k ::ₘ K⟩ busy)
    (hpkt : x.pkt = some k ∨ x.pkt = none) (hlast : x.txreqCnt ≤ x.txfreeCnt + 1) :
    Ledger nFrames nBufs (s.abortTx f k).2 ⟨F, B, K⟩ busy := by
  rw [abortTx, h.frame_eq]
  rcases hpkt with hpkt | hpkt
  · rw [hpkt, if_neg (Option.some_ne_none k)]
    refine Ledger.freeLast (x := x) ?_ hlast
    rw [hpkt]
    exact h
  · rw [hpkt, if_pos rfl]
    refine Ledger.freeLast (x := x) ?_ hlast
    rw [hpkt, refs_none, zero_add]
    exact h.complete

lemma reqOf_eq (hx : s.frame f = x) (hpkt : x.pkt = some k) (hbuf : x.ptxreqBuf = some b) :
    s.reqOf f = ⟨f, b, k⟩ := by
  rw [reqOf, hx, hpkt, hbuf]
  rfl

lemma Ledger.callPhl {n : ℕ} {full : ℕ → Bool}
    (h : Ledger nFrames nBufs s ⟨(f, ⟨n, 0, some k, some b⟩) ::ₘ F, b ::ₘ B, k ::ₘ K⟩ busy)
    (hn : 0 < n) (hfull : ∀ j < n, full j = true → j + 1 = n) :
    let c := s.coreTxCallPhl f full
    let s' := (if c.1 then c else c.2.abortTx f k).2
    (n = 1 ∧ full 0 = true ∧ Ledger nFrames nBufs s' ⟨F, B, K⟩ busy) ∨
      ((1 < n ∨ full 0 = false) ∧ Ledger nFrames nBufs s' ⟨F, B, K⟩ (⟨f, b, k⟩ ::ₘ busy)) := by
  have hx := h.frame_eq
  rw [coreTxCallPhl, reqOf_eq hx rfl rfl, hx]
  dsimp only
  obtain ⟨m, heq, hres, hbefore⟩ := addTxReqs_spec s ⟨f, b, k⟩ full n 0
  simp only [zero_add] at hres hbefore
  have hlive : ∀ y, ({ s.setFrame f y with ring := s.ring ++ List.replicate m ⟨f, b, k⟩ } :
      XmitPool).live = (s.setFrame f y).live + Multiset.replicate m ⟨f, b, k⟩ := by
    intro y
    rw [live, ← coe_add, coe_replicate, live]
    exact add_right_comm _ _ _
  rcases hres with ⟨hok, rfl⟩ | ⟨hfail, hm, hat⟩
  · -- all of them are in the ring
    rw [hok, if_pos rfl, heq]
    refine Or.inr ⟨Or.inr (hbefore 0 hn), Ledger.submit h hn rfl rfl (zero_add m) rfl ?_⟩
    have hl := hlive (s.frame f)
    rwa [show s.setFrame f (s.frame f) = s by simp [XmitPool.setFrame]] at hl
  · have hlast : m + 1 = n := hfull m hm hat
    rw [hfail, if_neg Bool.false_ne_true, heq]
    rcases Nat.eq_zero_or_pos m with rfl | hpos
    · -- the only one is refused
      refine Or.inl ⟨hlast.symm, hat, ?_⟩
      rw [List.replicate_zero, List.append_nil]
      exact Ledger.abort h (Or.inl rfl) (by dsimp only; omega)
    · -- the release stands in for the one that was refused
      have hset := h.setFrame ⟨n, 1, some k, some b⟩
      have habort : (abortTx { s with ring := s.ring ++ List.replicate m ⟨f, b, k⟩ } f k).2 =
          { s.setFrame f ⟨n, 1, some k, some b⟩ with
            ring := s.ring ++ List.replicate m ⟨f, b, k⟩ } := by
        rw [abortTx]
        dsimp only
        rw [hx, if_neg (Option.some_ne_none k), coreTxFreeXmitframe]
        dsimp only
        rw [hx, if_pos (by dsimp only; omega)]
        rfl
      rw [habort]
      exact Or.inr ⟨Or.inl (by omega),
        Ledger.submit hset hpos rfl rfl (by dsimp only; omega) rfl (hlive _)⟩

end XmitPool

end Rtl8831.Core
