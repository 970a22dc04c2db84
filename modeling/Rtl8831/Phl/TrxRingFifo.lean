import Rtl8831.Phl.TrxRing

/-!
# The rings are bounded queues

The indices count the requests modulo the ring size.  The invariants say which
slots hold which requests while one side is between two of its accesses; the
counts the other side takes meanwhile are out of date on the safe side.
-/

namespace Rtl8831.Phl

open Lib List

variable {α : Type*} {N : RingSize}

lemma u16_of_lt {x : ℕ} (h : x < 65536) : u16 x = x := by
  unfold u16
  omega

@[simp] lemma u16_mod (i : ℕ) : u16 ((i % N.num : ℕ) : ℤ) = i % N.num :=
  u16_of_lt (N.mod_lt_u16 i)

namespace TxRing

variable {s : TxRing α}

/-- What a call of `rtw_phl_add_tx_req` relies on between its accesses. -/
def CoreInv (N : RingSize) (s : TxRing α) : Prop :=
  match s.core with
  | some (.room _) => s.added.length + 1 < s.consumed.length + N.num
  | some (.indexed txReq) => 0 < s.added.length ∧ s.added[s.added.length - 1]? = some txReq
  | _ => True

def PhlInv (N : RingSize) (s : TxRing α) : Prop :=
  match s.phl with
  | .idle => True
  | .checking => s.core = none
  | .checked reqBusy => s.core = none ∧ s.consumed.length + reqBusy ≤ s.written ∧
      (reqBusy ≠ 0 → s.phlNextIdx = (s.consumed.length + 1) % N.num)
  | .handling reqBusy => s.consumed.length + reqBusy ≤ s.written ∧ 0 < reqBusy ∧
      s.phlNextIdx = (s.consumed.length + 1) % N.num
  | .loaded reqBusy rptr txReq => s.consumed.length + reqBusy ≤ s.written ∧ 0 < reqBusy ∧
      s.phlNextIdx = rptr ∧ rptr = (s.consumed.length + 1) % N.num ∧
      txReq = s.added[s.consumed.length]?
  | .prepared reqBusy rptr txReq _ => s.consumed.length + reqBusy ≤ s.written ∧ 0 < reqBusy ∧
      s.phlNextIdx = rptr ∧ rptr = (s.consumed.length + 1) % N.num ∧
      s.added[s.consumed.length]? = some txReq
  | .sent reqBusy rptr => s.consumed.length + reqBusy ≤ s.written ∧
      s.phlNextIdx = rptr ∧ rptr = s.consumed.length % N.num

structure Inv (N : RingSize) (s : TxRing α) : Prop where
  order : s.consumed = s.added.take s.consumed.length
  written : s.consumed.length ≤ s.written
  room : s.added.length < s.consumed.length + N.num
  coreIdx : s.coreIdx = s.added.length % N.num
  phlIdx : s.phlIdx = s.consumed.length % N.num
  nextIdx : s.phlNextIdx < N.num
  holds : Holds N.num s.entry s.added s.consumed.length s.written
  core : s.CoreInv N
  phl : s.PhlInv N

lemma written_le (s : TxRing α) : s.written ≤ s.added.length := by
  unfold written
  split <;> omega

lemma written_of_none (h : s.core = none) : s.written = s.added.length := by
  simp [written, h]

lemma Inv.init (N : RingSize) : (TxRing.init α).Inv N where
  order := rfl
  written := Nat.zero_le _
  room := by simpa [TxRing.init] using N.pos
  coreIdx := (Nat.zero_mod _).symm
  phlIdx := (Nat.zero_mod _).symm
  nextIdx := N.pos
  holds := Holds.empty
  core := trivial
  phl := trivial

lemma Inv.le (h : s.Inv N) : s.consumed.length ≤ s.added.length :=
  h.written.trans s.written_le

lemma Inv.availWptr (h : s.Inv N) :
    phlCalcAvailWptr (u16 s.phlIdx) s.coreIdx N.bndy = N.num - 1 - s.outstanding := by
  rw [h.phlIdx, h.coreIdx, u16_mod, N.calcAvailWptr_eq h.le h.room]
  rfl

lemma Inv.availRptr (h : s.Inv N) :
    phlCalcAvailRptr (u16 s.phlIdx) s.coreIdx N.bndy = s.outstanding := by
  rw [h.phlIdx, h.coreIdx, u16_mod, N.calcAvailRptr_eq h.le h.room]
  rfl

lemma PhlInv.congr {t : TxRing α} (h : s.PhlInv N) (hphl : t.phl = s.phl)
    (hcore : s.core = none → t.core = none ∨ t.unlocked = true ∨ s.unlocked = true)
    (hnext : t.phlNextIdx = s.phlNextIdx) (hconsumed : t.consumed = s.consumed)
    (hwritten : s.written ≤ t.written)
    (hadded : ∀ i < s.written, t.added[i]? = s.added[i]?) : t.PhlInv N := by
  unfold PhlInv at h ⊢
  rw [hphl, hnext, hconsumed]
  cases hs : s.phl with
  | idle => trivial
  | checking =>
    rw [hs] at h hphl
    simpa [unlocked, hs, hphl, h] using hcore
  | checked k =>
    rw [hs] at h hphl
    obtain ⟨hnone, hle, hidx⟩ := h
    exact ⟨by simpa [unlocked, hs, hphl, hnone] using hcore, hle.trans hwritten, hidx⟩
  | handling k =>
    rw [hs] at h
    exact ⟨h.1.trans hwritten, h.2⟩
  | loaded k rptr txReq =>
    rw [hs] at h
    obtain ⟨hle, hpos, hidx, hrptr, hreq⟩ := h
    exact ⟨hle.trans hwritten, hpos, hidx, hrptr, by rw [hreq, hadded _ (by omega)]⟩
  | prepared k rptr txReq ok =>
    rw [hs] at h
    obtain ⟨hle, hpos, hidx, hrptr, hreq⟩ := h
    exact ⟨hle.trans hwritten, hpos, hidx, hrptr, by rw [hadded _ (by omega), hreq]⟩
  | sent k rptr =>
    rw [hs] at h
    exact ⟨h.1.trans hwritten, h.2⟩

lemma Inv.core_only (h : s.Inv N) {core : Option (AddTxReq α)}
    (hw : s.written = s.added.length)
    (hw' : TxRing.written { s with core := core } = s.added.length)
    (hlock : s.core = none → core = none ∨ s.unlocked = true)
    (hcore : CoreInv N { s with core := core }) : Inv N { s with core := core } where
  order := h.order
  written := by
    rw [hw']
    exact h.le
  room := h.room
  coreIdx := h.coreIdx
  phlIdx := h.phlIdx
  nextIdx := h.nextIdx
  holds := by
    rw [hw', ← hw]
    exact h.holds
  core := hcore
  phl := h.phl.congr rfl (fun hs => (hlock hs).imp_right .inr) rfl rfl (by rw [hw, hw'])
    (fun _ _ => rfl)

lemma core_eq_none_of_unlocked (h : s.unlocked = true) : s.core = none := by
  simp only [unlocked, Bool.and_eq_true, Option.isNone_iff_eq_none] at h
  exact h.1

section

variable (h : s.Inv N)
include h

lemma Inv.add (txReq : α) : (s.step N (.add txReq)).Inv N := by
  rw [step]
  by_cases hfree : s.unlocked = true
  · rw [if_pos hfree]
    have hw := s.written_of_none (core_eq_none_of_unlocked hfree)
    exact h.core_only hw rfl (fun _ => .inr hfree) trivial
  · rw [if_neg hfree]
    exact h

lemma Inv.addTxReq : (s.addTxReq N).Inv N := by
  have hcore := h.core
  unfold TxRing.addTxReq
  unfold CoreInv at hcore
  split
  case h_1 => exact h
  case h_2 txReq heq =>
    have hw : s.written = s.added.length := by simp [TxRing.written, heq]
    dsimp only
    split
    case isTrue hres =>
      rw [h.availWptr, outstanding] at hres
      have hle := h.le
      have hroom : s.added.length + 1 < s.consumed.length + N.num := by omega
      exact h.core_only hw rfl (by simp [heq]) hroom
    case isFalse => exact h.core_only hw rfl (by simp [heq]) trivial
  case h_3 txReq heq =>
    have hw : s.written = s.added.length := by simp [TxRing.written, heq]
    rw [heq] at hcore
    have hw' : (s.added ++ [txReq]).length - 1 = s.written := by simp [hw]
    exact
      { order := by
          rw [take_append_of_le_length h.le]
          exact h.order
        written := h.written.trans_eq hw'.symm
        room := by simpa using hcore
        coreIdx := by simp [h.coreIdx]
        phlIdx := h.phlIdx
        nextIdx := h.nextIdx
        holds := by
          have hholds := h.holds.append s.written_le txReq
          rwa [← hw'] at hholds
        core := by simp [CoreInv]
        phl := by
          refine h.phl.congr rfl (by simp [heq]) rfl rfl hw'.ge ?_
          intro i hi
          rw [hw] at hi
          exact getElem?_append_left hi }
  case h_4 txReq heq =>
    rw [heq] at hcore
    obtain ⟨hpos, hlast⟩ := hcore
    have hw : s.written = s.added.length - 1 := by simp [TxRing.written, heq]
    have hslot : s.coreIdx = (s.written + 1) % N.num := by
      rw [h.coreIdx, hw, Nat.sub_add_cancel hpos]
    have hlen : s.written + 1 = s.added.length := by omega
    have hroom := h.room
    exact
      { h with
        written := h.le
        holds := by
          have hholds := h.holds.write (by omega) (hw ▸ hlast)
          rw [← hslot, hlen] at hholds
          exact hholds
        core := trivial
        phl := h.phl.congr rfl (by simp [heq]) rfl rfl s.written_le (fun _ _ => rfl) }
  case h_5 status heq =>
    have hw : s.written = s.added.length := by simp [TxRing.written, heq]
    exact h.core_only hw rfl (by simp [heq]) trivial

lemma Inv.phl_only {next : ℕ} {phl : TxHandler α} (hnext : next < N.num)
    (hphl : PhlInv N { s with phlNextIdx := next, phl := phl }) :
    Inv N { s with phlNextIdx := next, phl := phl } :=
  { h with nextIdx := hnext, phl := hphl }

lemma Inv.txCallback (choice : TxChoice) : (s.txCallback N choice).Inv N := by
  have hphl := h.phl
  unfold TxRing.txCallback
  unfold PhlInv at hphl
  split
  case h_1 =>
    split
    case isTrue hfree =>
      have hnone := core_eq_none_of_unlocked hfree
      exact h.phl_only h.nextIdx hnone
    case isFalse => exact h
  case h_2 heq =>
    rw [heq] at hphl
    dsimp only
    split
    case isTrue => exact h.phl_only h.nextIdx ⟨hphl, h.written, fun h => absurd rfl h⟩
    case isFalse hsome =>
      have hnext : (if N.num ≤ u16 s.phlIdx + 1 then 0 else u16 s.phlIdx + 1) =
          (s.consumed.length + 1) % N.num := by
        rw [h.phlIdx, u16_mod, wrap_succ N.pos]
      rw [h.availRptr, hnext]
      have hw := s.written_of_none hphl
      have hle := h.le
      have hbusy : s.consumed.length + s.outstanding ≤ s.written := by
        rw [hw, outstanding]
        omega
      have hphl' : PhlInv N { s with
          phlNextIdx := (s.consumed.length + 1) % N.num, phl := .checked s.outstanding } :=
        ⟨hphl, hbusy, fun _ => rfl⟩
      exact h.phl_only (N.mod_lt _) hphl'
  case h_3 k heq =>
    rw [heq] at hphl
    split
    case isTrue hk => exact h.phl_only h.nextIdx ⟨hphl.2.1, by omega, hphl.2.2 hk.1⟩
    case isFalse => exact h.phl_only h.nextIdx trivial
  case h_4 k heq =>
    rw [heq] at hphl
    obtain ⟨hle, hpos, hidx⟩ := hphl
    have hread := h.holds s.consumed.length le_rfl (by omega)
    apply h.phl_only h.nextIdx
    rw [hidx, u16_mod, hread]
    exact ⟨hle, hpos, rfl, rfl, rfl⟩
  case h_5 => exact h.phl_only h.nextIdx trivial
  case h_6 k rptr txReq heq =>
    rw [heq] at hphl
    obtain ⟨hle, hpos, hidx, hrptr, hreq⟩ := hphl
    split
    · exact h.phl_only h.nextIdx trivial
    · exact h.phl_only h.nextIdx ⟨hle, hpos, hidx, hrptr, hreq.symm⟩
    · exact h.phl_only h.nextIdx ⟨hle, hpos, hidx, hrptr, hreq.symm⟩
  case h_7 k rptr txReq ok heq =>
    rw [heq] at hphl
    obtain ⟨hle, hpos, hidx, hrptr, hreq⟩ := hphl
    have hlen : (s.consumed ++ [txReq]).length = s.consumed.length + 1 := by simp
    have hroom := h.room
    have hcore := h.core
    exact
      { order := by
          rw [hlen, take_succ_of_getElem? hreq, ← h.order]
        written := by
          rw [hlen]
          change s.consumed.length + 1 ≤ s.written
          omega
        room := by
          rw [hlen]
          exact hroom.trans (by omega)
        coreIdx := h.coreIdx
        phlIdx := by rw [hlen, hrptr]
        nextIdx := h.nextIdx
        holds := by
          rw [hlen]
          exact h.holds.mono (Nat.le_succ _) le_rfl
        core := by
          unfold CoreInv at hcore ⊢
          dsimp only
          rw [hlen]
          split at hcore
          · exact hcore.trans (by omega)
          · exact hcore
          · trivial
        phl := by
          cases ok with
          | false => trivial
          | true =>
            refine ⟨?_, hidx, ?_⟩
            · rw [hlen]
              change s.consumed.length + 1 + (k - 1) ≤ s.written
              omega
            · rw [hlen, hrptr] }
  case h_8 k rptr heq =>
    rw [heq] at hphl
    obtain ⟨hle, hidx, hrptr⟩ := hphl
    split
    case isTrue hk =>
      have hnext : (if N.num ≤ rptr + 1 then 0 else s.phlNextIdx + 1) =
          (s.consumed.length + 1) % N.num := by
        rw [hidx, hrptr, wrap_succ N.pos]
      rw [hnext]
      exact h.phl_only (N.mod_lt _) ⟨hle, by omega, rfl⟩
    case isFalse => exact h.phl_only h.nextIdx trivial

lemma Inv.step (e : TxEvent α) : (s.step N e).Inv N := by
  cases e with
  | add txReq => exact h.add txReq
  | core => exact h.addTxReq
  | phl choice => exact h.txCallback choice

end

lemma step_grows (s : TxRing α) (e : TxEvent α) :
    s.added <+: (s.step N e).added ∧ s.written ≤ (s.step N e).written := by
  cases e with
  | add txReq =>
    by_cases hfree : s.unlocked = true
    · rw [step, if_pos hfree]
      exact ⟨prefix_rfl, s.written_le⟩
    · rw [step, if_neg hfree]
      exact ⟨prefix_rfl, le_rfl⟩
  | core =>
    rw [step, TxRing.addTxReq]
    split
    · exact ⟨prefix_rfl, le_rfl⟩
    · dsimp only
      split <;> exact ⟨prefix_rfl, s.written_le⟩
    · refine ⟨prefix_append _ _, s.written_le.trans ?_⟩
      simp [TxRing.written]
    · exact ⟨prefix_rfl, s.written_le⟩
    · exact ⟨prefix_rfl, s.written_le⟩
  | phl choice =>
    have hadded : (s.txCallback N choice).added = s.added := by
      unfold TxRing.txCallback
      repeat' (first | rfl | split | dsimp only)
    have hcore : (s.txCallback N choice).core = s.core := by
      unfold TxRing.txCallback
      repeat' (first | rfl | split | dsimp only)
    have hwritten : (s.txCallback N choice).written = s.written := by
      rw [TxRing.written, hadded, hcore, TxRing.written]
    rw [step, hadded, hwritten]
    exact ⟨prefix_rfl, le_rfl⟩

/-- What makes the ring a queue of at most `N - 1` requests. -/
structure Fifo (N : RingSize) (s : TxRing α) : Prop where
  coreIdx_lt : s.coreIdx < N.num
  phlIdx_lt : s.phlIdx < N.num
  phlNextIdx_lt : s.phlNextIdx < N.num
  avail : phlCalcAvailWptr (u16 s.phlIdx) s.coreIdx N.bndy +
    phlCalcAvailRptr (u16 s.phlIdx) s.coreIdx N.bndy = N.num - 1
  outstanding_le : s.outstanding ≤ N.num - 1
  /-- `rtw_phl_add_tx_req` finds no room exactly when `N - 1` requests are outstanding. -/
  full : ∀ txReq, s.core = some (.start txReq) →
    ((s.addTxReq N).core = some (.finished .resource) ↔ s.outstanding = N.num - 1)
  order : s.consumed <+: s.added
  slots : Holds N.num s.entry s.added s.consumed.length s.written
  /-- No step touches the slot of a request that is outstanding after it. -/
  kept : ∀ e i, (s.step N e).consumed.length ≤ i → i < s.written →
    (s.step N e).entry ((i + 1) % N.num) = s.entry ((i + 1) % N.num)

lemma Inv.full (h : s.Inv N) {txReq : α} (hcore : s.core = some (.start txReq)) :
    (s.addTxReq N).core = some (.finished .resource) ↔ s.outstanding = N.num - 1 := by
  have hres := h.availWptr
  have hroom := h.room
  have hle := h.le
  have hlt : s.outstanding < N.num := by
    rw [outstanding]
    omega
  unfold TxRing.addTxReq
  rw [hcore]
  dsimp only
  split
  case isTrue hpos =>
    have hne : s.outstanding ≠ N.num - 1 := by omega
    simp [hne]
  case isFalse hzero =>
    have heq : s.outstanding = N.num - 1 := by omega
    simp [heq]

lemma consumed_le_step (s : TxRing α) (e : TxEvent α) :
    s.consumed.length ≤ (s.step N e).consumed.length := by
  cases e with
  | add txReq =>
    rw [step]
    by_cases hfree : s.unlocked = true
    · rw [if_pos hfree]
    · rw [if_neg hfree]
  | core =>
    rw [step, TxRing.addTxReq]
    repeat' (first | exact le_rfl | split | dsimp only)
  | phl choice =>
    rw [step, TxRing.txCallback]
    repeat' (first | exact le_rfl | exact (prefix_append _ _).length_le | split | dsimp only)

lemma Inv.kept (h : s.Inv N) (e : TxEvent α) {i : ℕ}
    (hlo : (s.step N e).consumed.length ≤ i) (hhi : i < s.written) :
    (s.step N e).entry ((i + 1) % N.num) = s.entry ((i + 1) % N.num) := by
  obtain ⟨⟨l, hl⟩, hwritten⟩ := s.step_grows (N := N) e
  have hlen := s.written_le
  rw [(h.step e).holds i hlo (hhi.trans_le hwritten),
    h.holds i ((s.consumed_le_step e).trans hlo) hhi, ← hl,
    getElem?_append_left (by omega)]

lemma Inv.fifo (h : s.Inv N) : s.Fifo N where
  coreIdx_lt := by
    rw [h.coreIdx]
    exact N.mod_lt _
  phlIdx_lt := by
    rw [h.phlIdx]
    exact N.mod_lt _
  phlNextIdx_lt := h.nextIdx
  avail := by
    have hroom := h.room
    have hle := h.le
    rw [h.availWptr, h.availRptr, outstanding]
    omega
  outstanding_le := by
    have hroom := h.room
    have hle := h.le
    rw [outstanding]
    omega
  full := fun _ hcore => h.full hcore
  order := by
    rw [h.order]
    exact take_prefix _ _
  slots := h.holds
  kept := fun e _ hlo hhi => h.kept e hlo hhi

end TxRing

namespace RxRing

variable {s : RxRing α}

def taken (s : RxRing α) : ℕ :=
  match s.core with
  | some (.cleared _ _) => s.returned.length + 1
  | _ => s.returned.length

/-- What a call of `_phl_add_rx_pkt` relies on between its accesses. -/
def PhlInv (N : RingSize) (s : RxRing α) : Prop :=
  match s.phl with
  | some (.sampled _ wptr) => wptr = s.added.length % N.num
  | some (.room _ wptr) => wptr = (s.added.length + 1) % N.num ∧
      s.added.length + 1 < s.returned.length + N.num
  | some (.stored recvpkt wptr) => wptr = (s.added.length + 1) % N.num ∧
      s.added.length + 1 < s.returned.length + N.num ∧ s.entry wptr = some recvpkt
  | _ => True

/-- What a call of `rtw_phl_query_rx_pkt` relies on between its accesses. -/
def CoreInv (N : RingSize) (s : RxRing α) : Prop :=
  match s.core with
  | some (.sampled wptr) => ∃ k, s.returned.length ≤ k ∧ k ≤ s.added.length ∧ wptr = k % N.num
  | some (.ready rptr) => rptr = (s.returned.length + 1) % N.num ∧
      s.returned.length < s.added.length
  | some (.loaded rptr recvpkt) | some (.cleared rptr recvpkt) =>
    rptr = (s.returned.length + 1) % N.num ∧ s.returned.length < s.added.length ∧
      recvpkt = s.added[s.returned.length]?
  | _ => True

structure Inv (N : RingSize) (s : RxRing α) : Prop where
  order : s.returned = (s.added.take s.returned.length).map some
  le : s.returned.length ≤ s.added.length
  room : s.added.length < s.returned.length + N.num
  phlIdx : s.phlIdx = s.added.length % N.num
  coreIdx : s.coreIdx = s.returned.length % N.num
  holds : Holds N.num s.entry s.added s.taken s.added.length
  phl : s.PhlInv N
  core : s.CoreInv N

lemma Inv.init (N : RingSize) : (RxRing.init α).Inv N where
  order := rfl
  le := le_rfl
  room := by simpa [RxRing.init] using N.pos
  phlIdx := (Nat.zero_mod _).symm
  coreIdx := (Nat.zero_mod _).symm
  holds := Holds.empty
  phl := trivial
  core := trivial

lemma le_taken (s : RxRing α) : s.returned.length ≤ s.taken := by
  unfold taken
  split <;> omega

lemma Inv.availWptr (h : s.Inv N) :
    phlCalcAvailWptr (u16 s.coreIdx) (s.added.length % N.num) N.bndy =
      N.num - 1 - s.outstanding := by
  rw [h.coreIdx, u16_mod, N.calcAvailWptr_eq h.le h.room]
  rfl

variable {t : RxRing α}

lemma CoreInv.grow (h : s.CoreInv N) (hcore : t.core = s.core)
    (hreturned : t.returned = s.returned) (hadded : s.added <+: t.added) : t.CoreInv N := by
  have hle := hadded.length_le
  unfold CoreInv at h ⊢
  rw [hcore, hreturned]
  split at h
  case h_1 =>
    obtain ⟨k, hk₁, hk₂, hk₃⟩ := h
    exact ⟨k, hk₁, hk₂.trans hle, hk₃⟩
  case h_2 => exact ⟨h.1, h.2.trans_le hle⟩
  case h_3 =>
    refine ⟨h.1, h.2.1.trans_le hle, ?_⟩
    obtain ⟨l, hl⟩ := hadded
    rw [h.2.2, ← hl, getElem?_append_left h.2.1]
  case h_4 =>
    refine ⟨h.1, h.2.1.trans_le hle, ?_⟩
    obtain ⟨l, hl⟩ := hadded
    rw [h.2.2, ← hl, getElem?_append_left h.2.1]
  case h_5 => trivial

lemma Inv.phl_only (h : s.Inv N) {phl : Option (AddRxPkt α)}
    (hphl : PhlInv N { s with phl := phl }) : Inv N { s with phl := phl } :=
  { h with phl := hphl }

lemma Inv.addRxPkt (h : s.Inv N) : (s.addRxPkt N).Inv N := by
  have hphl := h.phl
  unfold RxRing.addRxPkt
  unfold PhlInv at hphl
  split
  case h_1 => exact h
  case h_2 recvpkt heq =>
    have hidx : u16 s.phlIdx = s.added.length % N.num := by rw [h.phlIdx, u16_mod]
    exact h.phl_only hidx
  case h_3 recvpkt wptr heq =>
    rw [heq] at hphl
    dsimp only at hphl ⊢
    subst hphl
    split
    case isTrue => exact h.phl_only trivial
    case isFalse hres =>
      rw [h.availWptr, outstanding] at hres
      have hle := h.le
      have hroom : s.added.length + 1 < s.returned.length + N.num := by omega
      rw [wrap_succ N.pos]
      exact h.phl_only ⟨rfl, hroom⟩
  case h_4 recvpkt wptr heq =>
    rw [heq] at hphl
    obtain ⟨rfl, hroom⟩ := hphl
    have htaken := s.le_taken
    have hr := h.room
    exact
      { h with
        holds := h.holds.ahead (by omega) _
        phl := ⟨rfl, hroom, Function.update_self _ _ _⟩ }
  case h_5 recvpkt wptr heq =>
    rw [heq] at hphl
    obtain ⟨rfl, hroom, hentry⟩ := hphl
    have hlen : (s.added ++ [recvpkt]).length = s.added.length + 1 := by simp
    exact
      { order := by
          rw [take_append_of_le_length h.le]
          exact h.order
        le := h.le.trans (by simp)
        room := by simpa using hroom
        phlIdx := by
          rw [hlen, h.phlIdx, ite_not, inc_succ N.pos]
        coreIdx := h.coreIdx
        holds := by
          rw [hlen]
          exact h.holds.extend rfl hentry
        phl := trivial
        core := h.core.grow rfl rfl (prefix_append _ _) }
  case h_6 => exact h.phl_only trivial

lemma Inv.core_only (h : s.Inv N) {core : Option (QueryRxPkt α)}
    (htaken : RxRing.taken { s with core := core } = s.taken)
    (hcore : CoreInv N { s with core := core }) : Inv N { s with core := core } :=
  { h with
    holds := by
      rw [htaken]
      exact h.holds
    core := hcore }

lemma PhlInv.clear (h : s.PhlInv N) (hlt : s.returned.length < s.added.length)
    (hroom : s.added.length < s.returned.length + N.num) (core : Option (QueryRxPkt α)) :
    PhlInv N { s with
      entry := Function.update s.entry ((s.returned.length + 1) % N.num) none, core := core } := by
  unfold PhlInv at h ⊢
  dsimp only
  split at h
  case h_1 => exact h
  case h_2 => exact h
  case h_3 recvpkt wptr _ =>
    obtain ⟨rfl, hr, hentry⟩ := h
    refine ⟨rfl, hr, ?_⟩
    rw [Function.update_of_ne (slot_ne hlt hroom).symm, hentry]
  case h_4 => trivial

lemma PhlInv.advance (h : s.PhlInv N) (hphl : t.phl = s.phl)
    (hadded : t.added = s.added) (hentry : t.entry = s.entry)
    (hreturned : s.returned.length ≤ t.returned.length) : t.PhlInv N := by
  unfold PhlInv at h ⊢
  rw [hphl, hadded, hentry]
  split at h
  case h_1 => exact h
  case h_2 => exact ⟨h.1, h.2.trans_le (by omega)⟩
  case h_3 => exact ⟨h.1, h.2.1.trans_le (by omega), h.2.2⟩
  case h_4 => trivial

lemma Inv.queryRxPkt (h : s.Inv N) : (s.queryRxPkt N).Inv N := by
  have hcore := h.core
  unfold RxRing.queryRxPkt
  unfold CoreInv at hcore
  split
  case h_1 => exact h
  case h_2 heq =>
    have hidx : u16 s.phlIdx = s.added.length % N.num := by rw [h.phlIdx, u16_mod]
    exact h.core_only (by simp [taken, heq]) ⟨s.added.length, h.le, le_rfl, hidx⟩
  case h_3 wptr heq =>
    rw [heq] at hcore
    obtain ⟨k, hk₁, hk₂, rfl⟩ := hcore
    have htaken : s.taken = s.returned.length := by simp [taken, heq]
    have hroom := h.room
    dsimp only
    rw [h.coreIdx, u16_mod, N.calcAvailRptr_eq hk₁ (by omega)]
    split
    case isTrue hres =>
      have hlt : s.returned.length < s.added.length := by omega
      rw [← h.coreIdx]
      refine h.core_only htaken.symm ⟨?_, hlt⟩
      rw [h.coreIdx, wrap_succ N.pos]
    case isFalse =>
      rw [← h.coreIdx]
      exact h.core_only htaken.symm trivial
  case h_4 rptr heq =>
    rw [heq] at hcore
    obtain ⟨rfl, hlt⟩ := hcore
    have htaken : s.taken = s.returned.length := by simp [taken, heq]
    have hread := h.holds s.returned.length htaken.le hlt
    exact h.core_only htaken.symm ⟨rfl, hlt, hread⟩
  case h_5 rptr recvpkt heq =>
    rw [heq] at hcore
    obtain ⟨rfl, hlt, hpkt⟩ := hcore
    have htaken : s.taken = s.returned.length := by simp [taken, heq]
    have hroom := h.room
    have hholds := h.holds
    rw [htaken] at hholds
    exact
      { h with
        holds := hholds.clear hroom.le
        phl := h.phl.clear hlt hroom _
        core := ⟨rfl, hlt, hpkt⟩ }
  case h_6 rptr recvpkt heq =>
    rw [heq] at hcore
    obtain ⟨rfl, hlt, hpkt⟩ := hcore
    have hlen : (s.returned ++ [recvpkt]).length = s.returned.length + 1 := by simp
    have htaken : s.taken = s.returned.length + 1 := by simp [taken, heq]
    have hroom := h.room
    have hget : s.added[s.returned.length]? = some (s.added.get ⟨_, hlt⟩) :=
      getElem?_eq_getElem _
    exact
      { order := by
          rw [hlen, take_succ_of_getElem? hget, map_append, ← h.order, hpkt, hget]
          rfl
        le := by rw [hlen]; exact hlt
        room := by
          rw [hlen]
          exact hroom.trans (by omega)
        phlIdx := h.phlIdx
        coreIdx := by
          rw [hlen, h.coreIdx, inc_succ N.pos]
        holds := by
          have hholds := h.holds
          rw [htaken, ← hlen] at hholds
          exact hholds
        phl := h.phl.advance rfl rfl rfl (by simp)
        core := trivial }

lemma Inv.step (h : s.Inv N) (e : RxRingEvent α) : (s.step N e).Inv N := by
  cases e with
  | add recvpkt =>
    by_cases hfree : s.phl.isNone = true
    · rw [RxRing.step, if_pos hfree]
      exact h.phl_only trivial
    · rw [RxRing.step, if_neg hfree]
      exact h
  | phl => exact h.addRxPkt
  | query =>
    by_cases hfree : s.core.isNone = true
    · rw [RxRing.step, if_pos hfree]
      have hnone := Option.isNone_iff_eq_none.1 hfree
      exact h.core_only (by simp [taken, hnone]) trivial
    · rw [RxRing.step, if_neg hfree]
      exact h
  | core => exact h.queryRxPkt

lemma step_grows (s : RxRing α) (e : RxRingEvent α) :
    s.added <+: (s.step N e).added ∧ s.taken ≤ (s.step N e).taken := by
  cases e with
  | add recvpkt =>
    rw [step]
    split <;> exact ⟨prefix_rfl, le_rfl⟩
  | phl =>
    rw [step, RxRing.addRxPkt]
    repeat' (first
      | exact ⟨prefix_rfl, le_rfl⟩ | exact ⟨prefix_append _ _, le_rfl⟩
      | split | dsimp only)
  | query =>
    by_cases hfree : s.core.isNone = true
    · have hnone := Option.isNone_iff_eq_none.1 hfree
      rw [step, if_pos hfree]
      exact ⟨prefix_rfl, by simp [taken, hnone]⟩
    · rw [step, if_neg hfree]
      exact ⟨prefix_rfl, le_rfl⟩
  | core =>
    rw [step, RxRing.queryRxPkt]
    split
    case h_1 => exact ⟨prefix_rfl, le_rfl⟩
    case h_3 heq =>
      dsimp only
      split <;> exact ⟨prefix_rfl, by simp [taken, heq]⟩
    all_goals exact ⟨prefix_rfl, by simp_all [taken]⟩

/-- What makes the ring a queue of at most `N - 1` packets. -/
structure Fifo (N : RingSize) (s : RxRing α) : Prop where
  coreIdx_lt : s.coreIdx < N.num
  phlIdx_lt : s.phlIdx < N.num
  avail : phlCalcAvailWptr (u16 s.coreIdx) (u16 s.phlIdx) N.bndy +
    phlCalcAvailRptr (u16 s.coreIdx) (u16 s.phlIdx) N.bndy = N.num - 1
  outstanding_le : s.outstanding ≤ N.num - 1
  /-- `_phl_add_rx_pkt`, at its read of `core_idx`, finds no room exactly when
  `N - 1` packets are outstanding. -/
  full : ∀ recvpkt wptr, s.phl = some (.sampled recvpkt wptr) →
    ((s.addRxPkt N).phl = some (.finished .resource) ↔ s.outstanding = N.num - 1)
  order : s.returned <+: s.added.map some
  slots : Holds N.num s.entry s.added s.taken s.added.length
  /-- No step touches the slot of a packet that is still to be taken after it. -/
  kept : ∀ e i, (s.step N e).taken ≤ i → i < s.added.length →
    (s.step N e).entry ((i + 1) % N.num) = s.entry ((i + 1) % N.num)

lemma Inv.full (h : s.Inv N) {recvpkt : α} {wptr : ℕ}
    (hphl : s.phl = some (.sampled recvpkt wptr)) :
    (s.addRxPkt N).phl = some (.finished .resource) ↔ s.outstanding = N.num - 1 := by
  have hres := h.availWptr
  have hroom := h.room
  have hle := h.le
  have hlt : s.outstanding < N.num := by
    rw [outstanding]
    omega
  have hwptr : wptr = s.added.length % N.num := by
    have hinv := h.phl
    rw [PhlInv, hphl] at hinv
    exact hinv
  unfold RxRing.addRxPkt
  rw [hphl]
  dsimp only
  rw [hwptr]
  split
  case isTrue hzero =>
    have heq : s.outstanding = N.num - 1 := by omega
    simp [heq]
  case isFalse hpos =>
    have hne : s.outstanding ≠ N.num - 1 := by omega
    simp [hne]

lemma Inv.kept (h : s.Inv N) (e : RxRingEvent α) {i : ℕ}
    (hlo : (s.step N e).taken ≤ i) (hhi : i < s.added.length) :
    (s.step N e).entry ((i + 1) % N.num) = s.entry ((i + 1) % N.num) := by
  obtain ⟨⟨l, hl⟩, htaken⟩ := s.step_grows (N := N) e
  have hhi' : i < (s.step N e).added.length := by
    rw [← hl, length_append]
    omega
  rw [(h.step e).holds i hlo hhi', h.holds i (htaken.trans hlo) hhi, ← hl,
    getElem?_append_left hhi]

lemma Inv.fifo (h : s.Inv N) : s.Fifo N where
  coreIdx_lt := by
    rw [h.coreIdx]
    exact N.mod_lt _
  phlIdx_lt := by
    rw [h.phlIdx]
    exact N.mod_lt _
  avail := by
    have hroom := h.room
    have hle := h.le
    rw [h.phlIdx, h.coreIdx, u16_mod, u16_mod, N.calcAvailWptr_eq h.le h.room,
      N.calcAvailRptr_eq h.le h.room]
    omega
  outstanding_le := by
    have hroom := h.room
    have hle := h.le
    rw [outstanding]
    omega
  full := fun _ _ hphl => h.full hphl
  order := by
    rw [h.order]
    exact ( take_prefix _ _).map some
  slots := h.holds
  kept := fun e _ hlo hhi => h.kept e hlo hhi

end RxRing

/-- Both rings are bounded queues in every state that any interleaving of their
producers and their consumer reaches. -/
theorem trx_rings_are_bounded_fifos (α : Type*) (N : RingSize) :
    (∀ es : List (TxEvent α), (run (TxRing.step N) (TxRing.init α) es).Fifo N) ∧
      ∀ es : List (RxRingEvent α), (run (RxRing.step N) (RxRing.init α) es).Fifo N := by
  constructor
  · intro es
    have hstep : ∀ (s : TxRing α) (e : TxEvent α), s.Inv N → (s.step N e).Inv N :=
      fun _ e h => h.step e
    exact (run_invariant hstep (TxRing.Inv.init N) es).fifo
  · intro es
    have hstep : ∀ (s : RxRing α) (e : RxRingEvent α), s.Inv N → (s.step N e).Inv N :=
      fun _ e h => h.step e
    exact (run_invariant hstep (RxRing.Inv.init N) es).fifo

end Rtl8831.Phl
