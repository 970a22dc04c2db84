import Rtl8831.Phl.Reorder

/-!
# The window of the reorder buffer

All distances are measured from the head.  A stored packet lies in its own
slot (`Sound`) and inside the window (`Windowed`).  Each release loop moves the
head by some distance and keeps only packets at or above it (`Moved`), which
keeps the window; the scan for timed-out packets does so when the slots are
aligned with the sequence numbers (`Aligned`) or nothing has timed out.
-/

namespace Rtl8831.Phl

open Lib Function

/-- How far ahead of `h` a packet lies. -/
def off (h : ℕ) (p : RxPkt) : ℕ := seqSub p.seq h

section Arithmetic

lemma seqSub_self (a : ℕ) : seqSub a a = 0 := by
  unfold seqSub
  omega

lemma seqSub_add {s h h' a : ℕ} (hh : h' % 4096 = (h + a) % 4096) (ha : a ≤ seqSub s h) :
    seqSub s h' = seqSub s h - a := by
  unfold seqSub at *
  omega

lemma seqSub_of_modEq {s h h' : ℕ} (hh : h' % 4096 = h % 4096) : seqSub s h' = seqSub s h := by
  unfold seqSub
  omega

lemma add_seqSub_modEq (s h : ℕ) : (h + seqSub s h) % 4096 = s % 4096 := by
  unfold seqSub
  omega

lemma add_seqSub_of_le {s h : ℕ} (hs : s < 4096) (hle : h ≤ s) : h + seqSub s h = s := by
  unfold seqSub
  omega

end Arithmetic

section Ring

variable {n : ℕ} [NeZero n]

structure Sound (r : TidAmpduRx n) : Prop where
  count : r.storedMpduNum = occupied r.reorderBuf
  slot : ∀ i p, r.reorderBuf i = some p → i = reorderIndex p.seq

omit [NeZero n] in
def Windowed (r : TidAmpduRx n) : Prop :=
  ∀ i p, r.reorderBuf i = some p → off r.headSeqNum p < n

omit [NeZero n] in
/-- Slots follow sequence numbers around the ring: either the buffer size
divides the sequence space, or nothing stored has wrapped below the head. -/
def Aligned (r : TidAmpduRx n) : Prop :=
  n ∣ 4096 ∨ ∀ i p, r.reorderBuf i = some p → r.headSeqNum ≤ p.seq

variable {buf : Fin n → Option RxPkt} {h d : ℕ} {v : ℕ} {a b : ℕ}

lemma reorderIndex_eq : (reorderIndex a : Fin n) = reorderIndex b ↔ a % n = b % n := by
  simp [reorderIndex, Fin.ext_iff, Fin.ofNat]

variable {r : TidAmpduRx n}

lemma Aligned.index (ha : Aligned r) {i : Fin n} {p : RxPkt}
    (hp : r.reorderBuf i = some p) :
    (reorderIndex p.seq : Fin n) = reorderIndex (r.headSeqNum + off r.headSeqNum p) := by
  rw [reorderIndex_eq]
  rcases ha with hdvd | hle
  · have hmod : r.headSeqNum + off r.headSeqNum p ≡ p.seq [MOD 4096] := add_seqSub_modEq _ _
    exact (hmod.of_dvd hdvd).symm
  · rw [off, add_seqSub_of_le p.seq.isLt (hle i p hp)]

/-! ## Soundness needs no side condition -/

omit [NeZero n] in
lemma occupied_pos_of_some {i : Fin n} {p : RxPkt}
    (h : buf i = some p) : occupied buf ≠ 0 := by
  intro h0
  have hnone := occupied_eq_zero.1 h0 i
  simp [h] at hnone

omit [NeZero n] in
lemma stored_dec (hn : n < 65536) {i : Fin n} {p : RxPkt}
    (h : buf i = some p) :
    (occupied buf + 65535) % 65536 = occupied (update buf i none) := by
  have hclear := occupied_clear h
  have hle := occupied_le buf
  omega

lemma Sound.releaseReorderFrame (hn : n < 65536) (hs : Sound r)
    (i : Fin n) : Sound (releaseReorderFrame r i).1 := by
  unfold Phl.releaseReorderFrame
  cases h : r.reorderBuf i with
  | none => exact ⟨hs.count, hs.slot⟩
  | some p =>
    refine ⟨?_, ?_⟩
    · change (r.storedMpduNum + 65535) % 65536 = _
      rw [hs.count]
      exact stored_dec hn h
    · intro j q hj
      by_cases hji : j = i
      · subst hji
        simp at hj
      · exact hs.slot j q (by simpa [update_of_ne hji] using hj)

lemma Sound.setHead (hs : Sound r) (h : ℕ) :
    Sound { r with headSeqNum := h } := ⟨hs.count, hs.slot⟩

section

variable (hn : n < 65536) (hs : Sound r)
include hn hs

lemma Sound.releaseTimedOut
    (curTime k j skipped : ℕ) : Sound (releaseTimedOut curTime k j skipped r).2.1 := by
  induction k generalizing j skipped r with
  | zero => exact hs
  | succ k ih =>
    simp only [Phl.releaseTimedOut]
    cases hj : r.reorderBuf (reorderIndex j) with
    | none => exact ih hs (j + 1) (skipped + 1)
    | some p =>
      dsimp only
      split_ifs
      · exact hs
      · exact ih ((hs.releaseReorderFrame hn _).setHead _) (j + 1) 0

lemma Sound.releaseReady (k : ℕ) :
    Sound (releaseReady k r).1 := by
  induction k generalizing r with
  | zero => exact hs
  | succ k ih =>
    simp only [Phl.releaseReady]
    cases r.reorderBuf (reorderIndex r.headSeqNum) with
    | none => exact hs
    | some p => exact ih (hs.releaseReorderFrame hn _)

lemma Sound.releaseUpTo (h k : ℕ) :
    Sound (releaseUpTo h k r).1 := by
  induction k generalizing r with
  | zero => exact hs
  | succ k ih =>
    simp only [Phl.releaseUpTo]
    split_ifs
    · exact ih (hs.releaseReorderFrame hn _)
    · exact hs

lemma Sound.releaseReorderFrames (h : ℕ) :
    Sound (releaseReorderFrames r h).1 :=
  (hs.releaseUpTo hn h _).setHead h

lemma Sound.reorderRelease (curTime : ℕ) :
    Sound (reorderRelease r curTime).2.1 := by
  simp only [Phl.reorderRelease, reorderReleaseLoops]
  split_ifs
  · exact hs.releaseTimedOut hn curTime _ _ _
  · exact hs.releaseReady hn n

lemma Sound.makeRoom (seq : ℕ) :
    Sound (makeRoom r seq).1 := by
  unfold Phl.makeRoom
  split_ifs
  · exact hs.releaseReorderFrames hn _
  · exact hs

lemma Sound.store {pkt : RxPkt}
    (h : r.reorderBuf (reorderIndex pkt.seq) = none) (storeTime : ℕ) :
    Sound (store r pkt storeTime) := by
  have hfill := occupied_fill h pkt
  have hle := occupied_le (update r.reorderBuf (reorderIndex pkt.seq) (some pkt))
  refine ⟨?_, ?_⟩
  · change (r.storedMpduNum + 1) % 65536 = _
    rw [hs.count]
    exact (Nat.mod_eq_of_lt (by omega)).trans hfill.symm
  · intro i p hp
    by_cases hi : i = reorderIndex pkt.seq
    · subst hi
      have hpkt : pkt = p := by simpa [Phl.store] using hp
      rw [hpkt]
    · exact hs.slot i p (by simpa [Phl.store, update_of_ne hi] using hp)

end

/-! ## How far the head moves -/

def MaskedHead (r : TidAmpduRx n) : Prop := r.headSeqNum < 4096 ∨ n ∣ 4096

/-- The head has moved by `a`, and what is still stored lay at or above its
new place. -/
structure Moved (r r' : TidAmpduRx n) (a : ℕ) : Prop where
  head : r'.headSeqNum % 4096 = (r.headSeqNum + a) % 4096
  kept : ∀ i p, r'.reorderBuf i = some p → r.reorderBuf i = some p ∧ a ≤ off r.headSeqNum p

omit [NeZero n] in
lemma Moved.refl (r : TidAmpduRx n) : Moved r r 0 := ⟨rfl, fun _ _ h => ⟨h, Nat.zero_le _⟩⟩

omit [NeZero n] in
lemma Moved.off_eq {r r' : TidAmpduRx n} {a : ℕ} (h : Moved r r' a) {p : RxPkt}
    (hp : a ≤ off r.headSeqNum p) : off r'.headSeqNum p = off r.headSeqNum p - a :=
  seqSub_add h.head hp

omit [NeZero n] in
lemma Moved.trans {r r' r'' : TidAmpduRx n} {a b : ℕ} (h : Moved r r' a) (h' : Moved r' r'' b) :
    Moved r r'' (a + b) := by
  refine ⟨?_, ?_⟩
  · have h1 := h.head
    have h2 := h'.head
    omega
  · intro i p hp
    obtain ⟨hp', hb⟩ := h'.kept i p hp
    obtain ⟨hp'', ha⟩ := h.kept i p hp'
    rw [h.off_eq ha] at hb
    exact ⟨hp'', by omega⟩

omit [NeZero n] in
lemma Moved.windowed {r r' : TidAmpduRx n} {a : ℕ} (h : Moved r r' a) (hw : Windowed r) :
    Windowed r' := by
  intro i p hp
  obtain ⟨hp', ha⟩ := h.kept i p hp
  have hlt := hw i p hp'
  rw [h.off_eq ha]
  omega

lemma reorderIndex_mod {h : ℕ} (hm : h < 4096 ∨ n ∣ 4096) :
    (reorderIndex (h % 4096) : Fin n) = reorderIndex h := by
  rw [reorderIndex_eq]
  rcases hm with hlt | hdvd
  · rw [Nat.mod_eq_of_lt hlt]
  · exact Nat.mod_mod_of_dvd h hdvd

omit [NeZero n] in
lemma off_eq_zero_iff {h : ℕ} {p : RxPkt} : off h p = 0 ↔ (p.seq : ℕ) = h % 4096 := by
  have hseq := p.seq.isLt
  unfold off seqSub
  omega

lemma Sound.slot_head (hs : Sound r) (hm : MaskedHead r) {i : Fin n}
    {p : RxPkt} (hp : r.reorderBuf i = some p) (h0 : off r.headSeqNum p = 0) :
    i = reorderIndex r.headSeqNum := by
  rw [hs.slot i p hp, off_eq_zero_iff.1 h0, reorderIndex_mod hm]

omit [NeZero n] in
lemma releaseReorderFrame_head (r : TidAmpduRx n) (i : Fin n) :
    (releaseReorderFrame r i).1.headSeqNum = seqInc r.headSeqNum := by
  unfold releaseReorderFrame
  cases r.reorderBuf i <;> rfl

omit [NeZero n] in
lemma releaseReorderFrame_buf (r : TidAmpduRx n) (i : Fin n) :
    (releaseReorderFrame r i).1.reorderBuf = update r.reorderBuf i none := by
  unfold releaseReorderFrame
  cases h : r.reorderBuf i with
  | none => exact (update_eq_self_iff.2 h.symm).symm
  | some p => rfl

omit [NeZero n] in
lemma releaseReorderFrame_kept {i j : Fin n} {p : RxPkt}
    (h : (releaseReorderFrame r i).1.reorderBuf j = some p) :
    j ≠ i ∧ r.reorderBuf j = some p := by
  rw [releaseReorderFrame_buf] at h
  by_cases hji : j = i
  · subst hji
    simp at h
  · exact ⟨hji, by rwa [update_of_ne hji] at h⟩

lemma releaseHead_moved (hs : Sound r) (hm : MaskedHead r) :
    Moved r (releaseReorderFrame r (reorderIndex r.headSeqNum)).1 1 := by
  refine ⟨?_, ?_⟩
  · rw [releaseReorderFrame_head]
    simp [seqInc]
  · intro i p hp
    obtain ⟨hne, hp'⟩ := releaseReorderFrame_kept hp
    refine ⟨hp', Nat.one_le_iff_ne_zero.2 ?_⟩
    intro h0
    exact hne (hs.slot_head hm hp' h0)

omit [NeZero n] in
lemma releaseReorderFrame_masked (r : TidAmpduRx n) (i : Fin n) :
    MaskedHead (releaseReorderFrame r i).1 := by
  left
  rw [releaseReorderFrame_head]
  exact Nat.mod_lt _ (by decide)

lemma releaseReady_moved (hn : n < 65536) (hs : Sound r)
    (hm : MaskedHead r) (k : ℕ) :
    MaskedHead (releaseReady k r).1 ∧ ∃ a ≤ k, Moved r (releaseReady k r).1 a := by
  induction k generalizing r with
  | zero => exact ⟨hm, 0, le_rfl, Moved.refl r⟩
  | succ k ih =>
    simp only [releaseReady]
    cases r.reorderBuf (reorderIndex r.headSeqNum) with
    | none => exact ⟨hm, 0, Nat.zero_le _, Moved.refl r⟩
    | some p =>
      have hstep := releaseHead_moved hs hm
      obtain ⟨hm', a, hak, ha⟩ := ih (hs.releaseReorderFrame hn _)
        (releaseReorderFrame_masked r (reorderIndex r.headSeqNum))
      exact ⟨hm', 1 + a, by omega, hstep.trans ha⟩

lemma releaseReady_of_none (h : r.reorderBuf (reorderIndex r.headSeqNum) = none) (k : ℕ) :
    releaseReady k r = (r, []) := by
  cases k with
  | zero => rfl
  | succ k => simp only [releaseReady, h]

lemma releaseReady_drains {k : ℕ} (hk : occupied r.reorderBuf ≤ k) :
    (releaseReady k r).1.reorderBuf (reorderIndex (releaseReady k r).1.headSeqNum) = none := by
  induction k generalizing r with
  | zero => exact occupied_eq_zero.1 (Nat.le_zero.1 hk) _
  | succ k ih =>
    simp only [releaseReady]
    cases h : r.reorderBuf (reorderIndex r.headSeqNum) with
    | none => exact h
    | some p =>
      apply ih
      have hclear := occupied_clear h
      rw [releaseReorderFrame_buf]
      omega

lemma seqLess_of_ahead {h v k : ℕ} (hk : seqSub v h = k + 1) (hle : k + 1 ≤ 2047) :
    seqLess h v = true := by
  rw [seqLess_iff]
  unfold seqSub at *
  omega

lemma ahead_of_seqLess {h v : ℕ} (hless : seqLess h v = true) :
    1 ≤ seqSub v h ∧ seqSub v h ≤ 2047 := by
  rw [seqLess_iff] at hless
  unfold seqSub at *
  omega

lemma seqSub_seqInc {v h k : ℕ} (hk : seqSub v h = k + 1) : seqSub v (seqInc h) = k := by
  unfold seqSub seqInc at *
  omega

lemma releaseUpTo_moved (hn : n < 65536) (hs : Sound r) (hm : MaskedHead r)
    {v k : ℕ} (hk : seqSub v r.headSeqNum = k) (hle : k ≤ 2047) :
    ∃ a ≤ k, Moved r (releaseUpTo v k r).1 a ∧
      (a = k ∨ (releaseUpTo v k r).1.storedMpduNum = 0) := by
  induction k generalizing r with
  | zero => exact ⟨0, le_rfl, Moved.refl r, Or.inl rfl⟩
  | succ k ih =>
    simp only [releaseUpTo]
    by_cases hstored : r.storedMpduNum = 0
    · rw [if_neg (by simp [hstored])]
      exact ⟨0, Nat.zero_le _, Moved.refl r, Or.inr hstored⟩
    · rw [if_pos ⟨seqLess_of_ahead hk hle, hstored⟩]
      have hstep := releaseHead_moved hs hm
      have hk' : seqSub v (releaseReorderFrame r (reorderIndex r.headSeqNum)).1.headSeqNum
          = k := by
        rw [releaseReorderFrame_head]
        exact seqSub_seqInc hk
      obtain ⟨a, hak, ha, hend⟩ := ih (hs.releaseReorderFrame hn _)
        (releaseReorderFrame_masked r _) hk' (by omega)
      exact ⟨1 + a, by omega, hstep.trans ha, hend.imp (by omega) id⟩

/-- Moving the head to `v` by `phl_release_reorder_frames` keeps the window,
either because `v` is ahead or because what is stored is in its window too. -/
def HeadMoveOk (r : TidAmpduRx n) (v : ℕ) : Prop :=
  seqLess r.headSeqNum v = true ∨ ∀ i p, r.reorderBuf i = some p → off v p < n

lemma releaseReorderFrames_sub {r : TidAmpduRx n} {i : Fin n} {p : RxPkt}
    (hp : (releaseReorderFrames r v).1.reorderBuf i = some p) : r.reorderBuf i = some p := by
  simp only [releaseReorderFrames] at hp
  generalize seqSub v r.headSeqNum = k at hp
  induction k generalizing r with
  | zero => exact hp
  | succ k ih =>
    simp only [releaseUpTo] at hp
    split_ifs at hp
    · exact (releaseReorderFrame_kept (ih hp)).2
    · exact hp

lemma releaseReorderFrames_moved (hn : n < 65536) (hs : Sound r)
    (hm : MaskedHead r) {v : ℕ} (hless : seqLess r.headSeqNum v = true) :
    Moved r (releaseReorderFrames r v).1 (seqSub v r.headSeqNum) := by
  have hahead := ahead_of_seqLess hless
  obtain ⟨a, hak, ha, hend⟩ := releaseUpTo_moved hn hs hm rfl hahead.2
  have hsound := hs.releaseUpTo hn v (seqSub v r.headSeqNum)
  refine ⟨?_, ?_⟩
  · exact (add_seqSub_modEq v r.headSeqNum).symm
  · intro i p hp
    obtain ⟨hp', hap⟩ := ha.kept i p hp
    rcases hend with heq | hempty
    · exact ⟨hp', heq ▸ hap⟩
    · rw [hsound.count] at hempty
      exact absurd hempty (occupied_pos_of_some hp)

lemma releaseUpTo_stop (hstop : seqLess r.headSeqNum v = false ∨ r.storedMpduNum = 0) (k : ℕ) :
    releaseUpTo v k r = (r, []) := by
  cases k with
  | zero => rfl
  | succ k =>
    simp only [releaseUpTo]
    rcases hstop with h | h <;> simp [h]

lemma releaseReorderFrames_stop (hstop : seqLess r.headSeqNum v = false ∨ r.storedMpduNum = 0) :
    releaseReorderFrames r v = ({ r with headSeqNum := v }, []) := by
  simp only [releaseReorderFrames, releaseUpTo_stop hstop]

lemma Windowed.releaseReorderFrames (hn : n < 65536) (hs : Sound r)
    (hm : MaskedHead r) (hw : Windowed r) {v : ℕ} (hok : HeadMoveOk r v) :
    Windowed (releaseReorderFrames r v).1 := by
  cases hless : seqLess r.headSeqNum v with
  | true => exact (releaseReorderFrames_moved hn hs hm hless).windowed hw
  | false =>
    rcases hok with hless' | hin
    · rw [hless] at hless'
      contradiction
    · rw [releaseReorderFrames_stop (Or.inl hless)]
      exact hin

/-! ## The scan for timed-out packets -/

omit [NeZero n] in
def NoneTimedOut (r : TidAmpduRx n) (curTime : ℕ) : Prop :=
  ∀ i p, r.reorderBuf i = some p → notTimedOut (r.reorderTime i) curTime = true

lemma releaseTimedOut_idle {curTime : ℕ} (hnone : NoneTimedOut r curTime)
    (k j : ℕ) {skipped : ℕ} (hskipped : skipped ≠ 0) :
    (releaseTimedOut curTime k j skipped r).2 = (r, []) := by
  induction k generalizing j skipped with
  | zero => rfl
  | succ k ih =>
    simp only [releaseTimedOut]
    cases hj : r.reorderBuf (reorderIndex j) with
    | none => exact ih (j + 1) (Nat.succ_ne_zero skipped)
    | some p =>
      dsimp only
      rw [if_pos ⟨hskipped, hnone _ _ hj⟩]

/-- Packets less than `a` ahead of `h`, in the order of their distance. -/
structure InOrder (h : ℕ) (frames : List RxPkt) (a : ℕ) : Prop where
  below : ∀ p ∈ frames, off h p < a
  ordered : frames.Pairwise fun p q => off h p < off h q

/-- Packets handed up from the slots while the head moved by `a`. -/
structure Delivered (r : TidAmpduRx n) (frames : List RxPkt) (a : ℕ) : Prop where
  source : ∀ p ∈ frames, ∃ i, r.reorderBuf i = some p
  inOrder : InOrder r.headSeqNum frames a

omit [NeZero n] in
/-- The slots hold what lies `d` or more ahead of `h`, each packet as many
slots after that of `h` as it is ahead. -/
structure Remaining (h d : ℕ) (r : TidAmpduRx n) [NeZero n] : Prop where
  index : ∀ i p, r.reorderBuf i = some p → i = reorderIndex (h + off h p)
  lt : ∀ i p, r.reorderBuf i = some p → off h p < n
  le : ∀ i p, r.reorderBuf i = some p → d ≤ off h p

lemma Remaining.setHead {r : TidAmpduRx n} (hr : Remaining h d r) (v : ℕ) :
    Remaining h d { r with headSeqNum := v } := ⟨hr.index, hr.lt, hr.le⟩

lemma Remaining.off_iff {r : TidAmpduRx n} (hr : Remaining h d r) (hd : d < n)
    {i : Fin n} {p : RxPkt} (hp : r.reorderBuf i = some p) :
    off h p = d ↔ i = reorderIndex (h + d) := by
  constructor
  · rintro rfl
    exact hr.index i p hp
  · intro hi
    have hidx := (hr.index i p hp).symm.trans hi
    rw [reorderIndex_eq] at hidx
    have hmod : off h p ≡ d [MOD n] := Nat.ModEq.add_left_cancel' h hidx
    exact hmod.eq_of_lt_of_lt (hr.lt i p hp) hd

lemma Remaining.next {r r' : TidAmpduRx n} (hr : Remaining h d r) (hd : d < n)
    (hsub : ∀ i p, r'.reorderBuf i = some p → r.reorderBuf i = some p)
    (hgone : r'.reorderBuf (reorderIndex (h + d)) = none) : Remaining h (d + 1) r' := by
  refine ⟨fun i p hp => hr.index i p (hsub i p hp), fun i p hp => hr.lt i p (hsub i p hp), ?_⟩
  intro i p hp
  have hle := hr.le i p (hsub i p hp)
  refine Nat.lt_of_le_of_ne hle ?_
  intro heq
  have hi := (hr.off_iff hd (hsub i p hp)).1 heq.symm
  rw [hi, hgone] at hp
  contradiction

lemma releaseTimedOut_spec (curTime h : ℕ) {k d skipped : ℕ}
    (hr : Remaining h d r) (hkd : k + d = n) (hskipped : skipped ≤ d)
    (hhead : (r.headSeqNum + skipped) % 4096 = (h + d) % 4096) :
    ∃ a, d ≤ a + skipped ∧ a ≤ n ∧
      (releaseTimedOut curTime k (h + d) skipped r).2.1.headSeqNum % 4096 = (h + a) % 4096 ∧
      (∀ i p, (releaseTimedOut curTime k (h + d) skipped r).2.1.reorderBuf i = some p →
        r.reorderBuf i = some p ∧ a ≤ off h p) ∧
      (∀ p ∈ (releaseTimedOut curTime k (h + d) skipped r).2.2,
        (∃ i, r.reorderBuf i = some p) ∧ off h p < a) ∧
      (releaseTimedOut curTime k (h + d) skipped r).2.2.Pairwise fun p q => off h p < off h q := by
  induction k generalizing r d skipped with
  | zero =>
    refine ⟨d - skipped, by omega, by omega, ?_, ?_, by simp [releaseTimedOut],
      by simp [releaseTimedOut]⟩
    · simp only [releaseTimedOut]
      omega
    · intro i p hp
      have hle := hr.le i p hp
      exact ⟨hp, by omega⟩
  | succ k ih =>
    have hdn : d < n := by omega
    simp only [releaseTimedOut]
    cases hj : r.reorderBuf (reorderIndex (h + d)) with
    | none =>
      have hnext := hr.next hdn (fun _ _ hp => hp) hj
      obtain ⟨a, hda, han, hout⟩ := ih hnext (by omega) (Nat.succ_le_succ hskipped)
        (by omega)
      exact ⟨a, by omega, han, hout⟩
    | some p =>
      dsimp only
      split_ifs with hwait
      · have hhead' : r.headSeqNum % 4096 = (h + (d - skipped)) % 4096 := by omega
        refine ⟨d - skipped, by omega, by omega, hhead', ?_, by simp, by simp⟩
        intro i q hq
        have hle := hr.le i q hq
        exact ⟨hq, by omega⟩
      · have hoff : off h p = d := (hr.off_iff hdn hj).2 rfl
        have hsub : ∀ i q, (releaseReorderFrame r (reorderIndex (h + d))).1.reorderBuf i
            = some q → r.reorderBuf i = some q := fun i q hq =>
          (releaseReorderFrame_kept hq).2
        have hgone : (releaseReorderFrame r (reorderIndex (h + d))).1.reorderBuf
            (reorderIndex (h + d)) = none := by
          rw [releaseReorderFrame_buf, update_self]
        have hframes : (releaseReorderFrame r (reorderIndex (h + d))).2 = [p] := by
          simp only [releaseReorderFrame, hj]
        have hnext := hr.next hdn hsub hgone
        have hhead' : (((releaseReorderFrame r (reorderIndex (h + d))).1.headSeqNum + skipped)
            % 4096 + 0) % 4096 = (h + (d + 1)) % 4096 := by
          rw [releaseReorderFrame_head, seqInc]
          omega
        obtain ⟨a, hda, han, hhd, hkept, hdel, hord⟩ := ih
          (hnext.setHead _) (by omega) (Nat.zero_le (d + 1)) hhead'
        refine ⟨a, by omega, han, hhd, ?_, ?_, ?_⟩
        · intro i q hq
          obtain ⟨hq', ha⟩ := hkept i q hq
          exact ⟨hsub i q hq', ha⟩
        · intro q hq
          rw [hframes] at hq
          rcases List.mem_cons.1 hq with rfl | hq
          · exact ⟨⟨_, hj⟩, by omega⟩
          · obtain ⟨⟨i, hi⟩, hlt⟩ := hdel q hq
            exact ⟨⟨i, hsub i q hi⟩, hlt⟩
        · rw [hframes]
          refine List.pairwise_cons.2 ⟨?_, hord⟩
          intro q hq
          obtain ⟨⟨i, hi⟩, -⟩ := hdel q hq
          have hle := hnext.le i q hi
          omega

lemma Remaining.ofAligned (hs : Sound r) (hw : Windowed r) (ha : Aligned r)
    (hempty : r.reorderBuf (reorderIndex r.headSeqNum) = none) :
    Remaining r.headSeqNum 1 r := by
  have hindex : ∀ i p, r.reorderBuf i = some p →
      i = reorderIndex (r.headSeqNum + off r.headSeqNum p) := fun i p hp =>
    (hs.slot i p hp).trans (ha.index hp)
  refine ⟨hindex, hw, ?_⟩
  intro i p hp
  refine Nat.one_le_iff_ne_zero.2 ?_
  intro h0
  have hi := hindex i p hp
  rw [h0, Nat.add_zero] at hi
  rw [hi, hempty] at hp
  contradiction

lemma releaseTimedOut_moved (hs : Sound r) (hw : Windowed r) (ha : Aligned r)
    (hempty : r.reorderBuf (reorderIndex r.headSeqNum) = none) (curTime : ℕ) :
    ∃ a ≤ n, Moved r (releaseTimedOut curTime (n - 1) (r.headSeqNum + 1) 1 r).2.1 a ∧
      Delivered r (releaseTimedOut curTime (n - 1) (r.headSeqNum + 1) 1 r).2.2 a := by
  have hn := Nat.one_le_iff_ne_zero.2 (NeZero.ne n)
  obtain ⟨a, -, han, hhead, hkept, hdel, hord⟩ :=
    releaseTimedOut_spec curTime r.headSeqNum (Remaining.ofAligned hs hw ha hempty)
      (Nat.sub_add_cancel hn) le_rfl rfl
  exact ⟨a, han, ⟨hhead, hkept⟩, ⟨fun p hp => (hdel p hp).1, fun p hp => (hdel p hp).2, hord⟩⟩

lemma MaskedHead.releaseTimedOut (hm : MaskedHead r)
    (curTime k j skipped : ℕ) : MaskedHead (releaseTimedOut curTime k j skipped r).2.1 := by
  induction k generalizing j skipped r with
  | zero => exact hm
  | succ k ih =>
    simp only [Phl.releaseTimedOut]
    cases hj : r.reorderBuf (reorderIndex j) with
    | none => exact ih hm (j + 1) (skipped + 1)
    | some p =>
      dsimp only
      split_ifs
      · exact hm
      · exact ih (Or.inl (Nat.mod_lt _ (by decide))) (j + 1) 0

/-! ## The invariant -/

structure InPlace (r : TidAmpduRx n) : Prop where
  sound : Sound r
  windowed : Windowed r
  masked : MaskedHead r
  single : n = 1 → ∀ i, r.reorderBuf i = none

def ScanOk (r : TidAmpduRx n) (curTime : ℕ) : Prop :=
  4096 ≤ n ∨ Aligned r ∨ NoneTimedOut r curTime

omit [NeZero n] in
lemma windowed_of_large (hn : 4096 ≤ n) (r : TidAmpduRx n) : Windowed r := fun _ p _ =>
  (seqSub_lt p.seq r.headSeqNum).trans_le hn

lemma reorderRelease_snd (r : TidAmpduRx n) (curTime : ℕ) :
    (reorderRelease r curTime).2 = (reorderReleaseLoops r curTime).2 := rfl

lemma reorderRelease_single (hs : Sound r) (h1 : n = 1) (curTime : ℕ)
    (i : Fin n) : (reorderRelease r curTime).2.1.reorderBuf i = none := by
  subst h1
  have hall : ∀ r : TidAmpduRx 1, ∀ i j : Fin 1, r.reorderBuf j = none → r.reorderBuf i = none :=
    fun r i j h => Subsingleton.elim i j ▸ h
  rw [reorderRelease_snd, reorderReleaseLoops]
  split_ifs with hscan
  · have hcount : occupied r.reorderBuf = 0 :=
      occupied_eq_zero.2 fun j => hall r j _ hscan.1
    exact absurd (hs.count.trans hcount) hscan.2
  · exact hall _ i _ (releaseReady_drains (occupied_le r.reorderBuf))

lemma reorderRelease_inPlace (hn : n < 65536) (hs : Sound r)
    (hw : Windowed r) (hm : MaskedHead r) {curTime : ℕ} (hok : ScanOk r curTime) :
    InPlace (reorderRelease r curTime).2.1 := by
  have hsound := hs.reorderRelease hn curTime
  refine ⟨hsound, ?_, ?_, fun h1 => reorderRelease_single hs h1 curTime⟩
  · rcases hok with hlarge | halign | hnone
    · exact windowed_of_large hlarge _
    · rw [reorderRelease_snd, reorderReleaseLoops]
      split_ifs with hscan
      · obtain ⟨a, -, hmoved, -⟩ :=
          releaseTimedOut_moved hs hw halign hscan.1 curTime
        exact hmoved.windowed hw
      · obtain ⟨-, a, -, hmoved⟩ := releaseReady_moved hn hs hm n
        exact hmoved.windowed hw
    · rw [reorderRelease_snd, reorderReleaseLoops]
      split_ifs with hscan
      · rw [releaseTimedOut_idle hnone _ _ one_ne_zero]
        exact hw
      · obtain ⟨-, a, -, hmoved⟩ := releaseReady_moved hn hs hm n
        exact hmoved.windowed hw
  · rw [reorderRelease_snd, reorderReleaseLoops]
    split_ifs
    · exact hm.releaseTimedOut curTime _ _ _
    · exact (releaseReady_moved hn hs hm n).1

/-! ## An arriving packet -/

omit [NeZero n] in
lemma not_seqLess_iff : seqLess a b = false ↔ seqSub a b ≤ 2048 := by
  rw [Bool.eq_false_iff, Ne, seqLess_iff, not_lt]

omit [NeZero n] in
lemma off_lt_of_inside {h : ℕ} {pkt : RxPkt}
    (hnew : seqLess pkt.seq h = false) (hin : seqLess pkt.seq ((h + n) % 65536) = true) :
    off h pkt < n := by
  rw [not_seqLess_iff] at hnew
  rw [seqLess_iff] at hin
  unfold off seqSub at *
  omega

omit [NeZero n] in
lemma off_room_lt (hn0 : n ≠ 0) (pkt : RxPkt) : off (seqInc (seqSub pkt.seq n)) pkt < n := by
  unfold off seqInc seqSub
  omega

omit [NeZero n] in
lemma room_ahead {h : ℕ} {pkt : RxPkt} (hsmall : n < 2048)
    (hnew : seqLess pkt.seq h = false) (hout : seqLess pkt.seq ((h + n) % 65536) = false) :
    n ≤ off h pkt ∧ seqSub (seqInc (seqSub pkt.seq n)) h + n = off h pkt + 1 := by
  rw [not_seqLess_iff] at hnew hout
  unfold off seqInc seqSub at *
  omega

lemma makeRoom_off {pkt : RxPkt}
    (hnew : seqLess pkt.seq r.headSeqNum = false) :
    off (makeRoom r pkt.seq).1.headSeqNum pkt < n := by
  unfold makeRoom
  cases hin : seqLess pkt.seq ((r.headSeqNum + n) % 65536) with
  | true => exact off_lt_of_inside hnew hin
  | false => exact off_room_lt (NeZero.ne n) pkt

lemma makeRoom_moved (hn : n < 65536) (h : InPlace r) (hsmall : n < 2048)
    {pkt : RxPkt} (hnew : seqLess pkt.seq r.headSeqNum = false) :
    ∃ a, (a = 0 ∨ a + n = off r.headSeqNum pkt + 1) ∧ Moved r (makeRoom r pkt.seq).1 a := by
  unfold makeRoom
  cases hin : seqLess pkt.seq ((r.headSeqNum + n) % 65536) with
  | true => exact ⟨0, Or.inl rfl, Moved.refl r⟩
  | false =>
    obtain ⟨hfar, hroom⟩ := room_ahead hsmall hnew hin
    have hd : off r.headSeqNum pkt ≤ 2048 := not_seqLess_iff.1 hnew
    refine ⟨_, Or.inr hroom, ?_⟩
    simp only [Bool.not_false, ↓reduceIte]
    by_cases h1 : n = 1
    · -- at distance 2048 the loop is not entered, but nothing is stored
      have hempty : r.storedMpduNum = 0 := h.sound.count.trans (occupied_eq_zero.2 (h.single h1))
      rw [releaseReorderFrames_stop (Or.inr hempty)]
      refine ⟨(add_seqSub_modEq _ _).symm, ?_⟩
      intro i p hp
      rw [h.single h1 i] at hp
      contradiction
    · have hn0 := NeZero.ne n
      have hless : seqLess r.headSeqNum (seqInc (seqSub pkt.seq n)) = true := by
        obtain ⟨k, hk⟩ : ∃ k, seqSub (seqInc (seqSub pkt.seq n)) r.headSeqNum = k + 1 :=
          Nat.exists_eq_succ_of_ne_zero (by omega)
        exact seqLess_of_ahead hk (by omega)
      exact releaseReorderFrames_moved hn h.sound h.masked hless

lemma MaskedHead.makeRoom (hm : MaskedHead r) (seq : ℕ) :
    MaskedHead (makeRoom r seq).1 := by
  unfold Phl.makeRoom
  split_ifs
  · exact Or.inl (Nat.mod_lt _ (by decide))
  · exact hm

omit [NeZero n] in
lemma eq_none_of_sub {x y : Option RxPkt} (hsub : ∀ p, x = some p → y = some p)
    (hy : y = none) : x = none := by
  cases x with
  | none => rfl
  | some p =>
    have hp := hsub p rfl
    rw [hy] at hp
    contradiction

lemma InPlace.makeRoom (hn : n < 65536) (h : InPlace r)
    (hsize : n < 2048 ∨ 4096 ≤ n) {pkt : RxPkt} (hnew : seqLess pkt.seq r.headSeqNum = false) :
    InPlace (makeRoom r pkt.seq).1 := by
  have hsound := h.sound.makeRoom hn pkt.seq
  have hmasked := h.masked.makeRoom pkt.seq
  rcases hsize with hsmall | hlarge
  · obtain ⟨a, -, hmoved⟩ := makeRoom_moved hn h hsmall hnew
    refine ⟨hsound, hmoved.windowed h.windowed, hmasked, ?_⟩
    intro h1 i
    exact eq_none_of_sub (fun p hp => (hmoved.kept i p hp).1) (h.single h1 i)
  · exact ⟨hsound, windowed_of_large hlarge _, hmasked, fun h1 => by omega⟩

lemma store_some {pkt p : RxPkt} {storeTime : ℕ} {i : Fin n}
    (hp : (store r pkt storeTime).reorderBuf i = some p) :
    (p = pkt ∧ (store r pkt storeTime).reorderTime i = storeTime) ∨
      (r.reorderBuf i = some p ∧ (store r pkt storeTime).reorderTime i = r.reorderTime i) := by
  by_cases hi : i = reorderIndex pkt.seq
  · subst hi
    have hpkt : pkt = p := by simpa [store] using hp
    exact Or.inl ⟨hpkt.symm, by simp [store]⟩
  · exact Or.inr ⟨by simpa [store, update_of_ne hi] using hp,
      by simp [store, update_of_ne hi]⟩

/-- The scan that follows the arrival of `pkt` does no harm: what is stored
and the packet itself are aligned, or nothing has timed out. -/
def PlaceOk (r : TidAmpduRx n) (pkt : RxPkt) (storeTime curTime : ℕ) : Prop :=
  4096 ≤ n ∨ n ∣ 4096 ∨
    (r.headSeqNum ≤ pkt.seq ∧ ∀ i p, r.reorderBuf i = some p → r.headSeqNum ≤ p.seq) ∨
    (NoneTimedOut r curTime ∧ notTimedOut storeTime curTime = true)

lemma makeRoom_time (r : TidAmpduRx n) (seq : ℕ) :
    (makeRoom r seq).1.reorderTime = r.reorderTime := by
  have hframe : ∀ (r : TidAmpduRx n) i, (releaseReorderFrame r i).1.reorderTime = r.reorderTime := by
    intro r i
    unfold releaseReorderFrame
    cases r.reorderBuf i <;> rfl
  have hloop : ∀ v k (r : TidAmpduRx n), (releaseUpTo v k r).1.reorderTime = r.reorderTime := by
    intro v k
    induction k with
    | zero => exact fun r => rfl
    | succ k ih =>
      intro r
      simp only [releaseUpTo]
      split_ifs
      · exact (ih _).trans (hframe r _)
      · rfl
  unfold makeRoom
  split_ifs
  · exact hloop _ _ r
  · rfl

omit [NeZero n] in
lemma Moved.le_seq {r r' : TidAmpduRx n} {a : ℕ} (h : Moved r r' a) (hm' : r'.headSeqNum < 4096)
    {p : RxPkt} (hp : r.headSeqNum ≤ p.seq) (ha : a ≤ off r.headSeqNum p) :
    r'.headSeqNum ≤ p.seq := by
  have hadd := add_seqSub_of_le p.seq.isLt hp
  have hhead := h.head
  unfold off at ha
  omega

lemma PlaceOk.scanOk (hn : n < 65536) (h : InPlace r)
    (hsize : n < 2048 ∨ 4096 ≤ n) {pkt : RxPkt} {storeTime curTime : ℕ}
    (hnew : seqLess pkt.seq r.headSeqNum = false) (hok : PlaceOk r pkt storeTime curTime) :
    ScanOk (store (makeRoom r pkt.seq).1 pkt storeTime) curTime := by
  rcases hsize with hsmall | hlarge
  swap
  · exact Or.inl hlarge
  obtain ⟨a, ha, hmoved⟩ := makeRoom_moved hn h hsmall hnew
  rcases hok with hlarge | hdvd | ⟨hle, hstored⟩ | ⟨hnone, hfresh⟩
  · exact Or.inl hlarge
  · exact Or.inr (Or.inl (Or.inl hdvd))
  · refine Or.inr (Or.inl (Or.inr ?_))
    have hlt : (makeRoom r pkt.seq).1.headSeqNum < 4096 ∨
        (makeRoom r pkt.seq).1.headSeqNum = r.headSeqNum := by
      unfold makeRoom
      split_ifs
      · exact Or.inl (Nat.mod_lt _ (by decide))
      · exact Or.inr rfl
    have hlt' : (makeRoom r pkt.seq).1.headSeqNum < 4096 := by
      have hseq := pkt.seq.isLt
      omega
    intro i p hp
    rcases store_some hp with ⟨rfl, -⟩ | ⟨hp', -⟩
    · have hn0 := NeZero.ne n
      exact hmoved.le_seq hlt' hle (by omega)
    · obtain ⟨hpr, hap⟩ := hmoved.kept i p hp'
      exact hmoved.le_seq hlt' (hstored i p hpr) hap
  · refine Or.inr (Or.inr ?_)
    intro i p hp
    rcases store_some hp with ⟨rfl, htime⟩ | ⟨hp', htime⟩
    · rw [htime]
      exact hfresh
    · rw [htime, makeRoom_time]
      exact hnone i p (hmoved.kept i p hp').1

lemma InPlace.placeMpdu (hn : n < 65536) (h : InPlace r)
    (hsize : n < 2048 ∨ 4096 ≤ n) {pkt : RxPkt} {storeTime curTime : ℕ}
    (hnew : seqLess pkt.seq r.headSeqNum = false) (hok : PlaceOk r pkt storeTime curTime) :
    InPlace (placeMpdu r pkt storeTime curTime).2.1 := by
  have hroom := h.makeRoom hn hsize hnew
  have hoff := makeRoom_off hnew
  rcases placeMpdu_cases r pkt storeTime curTime with
    ⟨-, heq⟩ | ⟨-, -, hempty, heq⟩ | ⟨hslot, -, heq⟩
  · rwa [heq]
  · rw [heq]
    have hnone := occupied_eq_zero.1 (hroom.sound.count.symm.trans hempty)
    refine ⟨hroom.sound.setHead _, ?_, Or.inl (Nat.mod_lt _ (by decide)), fun _ => hnone⟩
    intro i p hp
    rw [hnone i] at hp
    contradiction
  · rw [heq]
    refine reorderRelease_inPlace hn (hroom.sound.store hn hslot storeTime) ?_ hroom.masked
      (hok.scanOk hn h hsize hnew)
    intro i p hp
    rcases store_some hp with ⟨rfl, -⟩ | ⟨hp', -⟩
    · exact hoff
    · exact hroom.windowed i p hp'

end Ring

end Rtl8831.Phl
