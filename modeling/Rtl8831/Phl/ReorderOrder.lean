import Rtl8831.Phl.ReorderSession

/-!
# The order in which a session hands packets up

Positions in the sequence space are unwrapped along a run: each step adds the
distance the head has moved.  A step that meets `OrderOk` hands up packets in
the order of their distance from the head, all of them below the head it
leaves, so the positions handed up over a whole run increase strictly.
-/

namespace Rtl8831.Phl

open Lib List Option

section Ring

variable {n : ℕ} [NeZero n]

lemma InOrder.nil (h a : ℕ) : InOrder h [] a := ⟨by simp, List.Pairwise.nil⟩

lemma InOrder.append {h h' a b : ℕ} {xs ys : List RxPkt} (hx : InOrder h xs a)
    (hh : h' % 4096 = (h + a) % 4096) (hy : InOrder h' ys b) (hle : ∀ p ∈ ys, a ≤ off h p) :
    InOrder h (xs ++ ys) (a + b) := by
  have hoff : ∀ p ∈ ys, off h' p = off h p - a := fun p hp => seqSub_add hh (hle p hp)
  refine ⟨?_, pairwise_append.2 ⟨hx.ordered, ?_, ?_⟩⟩
  · intro p hp
    rcases mem_append.1 hp with hp | hp
    · exact (hx.below p hp).trans_le (Nat.le_add_right a b)
    · have hlt := hy.below p hp
      rw [hoff p hp] at hlt
      omega
  · refine hy.ordered.imp_of_mem ?_
    intro p q hp hq hlt
    have hap := hle p hp
    have haq := hle q hq
    rw [hoff p hp, hoff q hq] at hlt
    omega
  · intro p hp q hq
    exact (hx.below p hp).trans_le (hle q hq)

omit [NeZero n] in
lemma Delivered.trans {r r' : TidAmpduRx n} {a b : ℕ} {xs ys : List RxPkt}
    (hx : Delivered r xs a) (hmoved : Moved r r' a) (hy : Delivered r' ys b) :
    Delivered r (xs ++ ys) (a + b) := by
  have hkept : ∀ p ∈ ys, ∃ i, r.reorderBuf i = some p ∧ a ≤ off r.headSeqNum p := by
    intro p hp
    obtain ⟨i, hi⟩ := hy.source p hp
    exact ⟨i, hmoved.kept i p hi⟩
  refine ⟨?_, hx.inOrder.append hmoved.head hy.inOrder fun p hp => (hkept p hp).choose_spec.2⟩
  intro p hp
  rcases mem_append.1 hp with hp | hp
  · exact hx.source p hp
  · exact ⟨_, (hkept p hp).choose_spec.1⟩

/-! ## Slots without a second owner -/

/-- No sequence number from `h` up to the packet's, within a buffer's length,
has the packet's slot. -/
def SlotClear (n : ℕ) [NeZero n] (h : ℕ) (p : RxPkt) : Prop :=
  ∀ k, 0 < k → k < n → k ≤ off h p →
    (reorderIndex (seqSub p.seq k) : Fin n) ≠ reorderIndex p.seq

def Clear (r : TidAmpduRx n) : Prop :=
  ∀ i p, r.reorderBuf i = some p → SlotClear n r.headSeqNum p

lemma slotClear_of_dvd (hdvd : n ∣ 4096) (h : ℕ) (p : RxPkt) : SlotClear n h p := by
  intro k hk hkn _ heq
  rw [reorderIndex_eq] at heq
  have hmod : seqSub p.seq k + k ≡ p.seq [MOD n] := by
    have h4096 : seqSub p.seq k + k ≡ p.seq [MOD 4096] := by
      unfold seqSub Nat.ModEq
      omega
    exact h4096.of_dvd hdvd
  have hzero : k ≡ 0 [MOD n] := by
    apply Nat.ModEq.add_left_cancel' (seqSub p.seq k)
    exact hmod.trans (show seqSub p.seq k ≡ p.seq [MOD n] from heq).symm
  have hk0 : k = 0 := hzero.eq_of_lt_of_lt hkn (by omega)
  omega

lemma Moved.slotClear {r r' : TidAmpduRx n} {a : ℕ} (hmoved : Moved r r' a) {p : RxPkt}
    (ha : a ≤ off r.headSeqNum p) (hc : SlotClear n r.headSeqNum p) :
    SlotClear n r'.headSeqNum p := by
  intro k hk hkn hle
  rw [hmoved.off_eq ha] at hle
  exact hc k hk hkn (by omega)

lemma Moved.clear {r r' : TidAmpduRx n} {a : ℕ} (hmoved : Moved r r' a) (hc : Clear r) :
    Clear r' := by
  intro i p hp
  obtain ⟨hp', ha⟩ := hmoved.kept i p hp
  exact hmoved.slotClear ha (hc i p hp')

variable {r : TidAmpduRx n}

lemma Clear.off_head (hs : Sound r) (hw : Windowed r) (hm : MaskedHead r)
    (hc : Clear r) {p : RxPkt} (hp : r.reorderBuf (reorderIndex r.headSeqNum) = some p) :
    off r.headSeqNum p = 0 := by
  by_contra hne
  have hback : seqSub p.seq (off r.headSeqNum p) = r.headSeqNum % 4096 := by
    have hseq := p.seq.isLt
    unfold off seqSub
    omega
  refine hc _ p hp _ (Nat.pos_of_ne_zero hne) (hw _ p hp) le_rfl ?_
  rw [hback, reorderIndex_mod hm]
  exact hs.slot _ p hp

/-! ## The release loops -/

lemma releaseHead_delivered (hs : Sound r) (hw : Windowed r)
    (hm : MaskedHead r) (hc : Clear r) :
    Delivered r (releaseReorderFrame r (reorderIndex r.headSeqNum)).2 1 := by
  unfold releaseReorderFrame
  cases hp : r.reorderBuf (reorderIndex r.headSeqNum) with
  | none => exact ⟨by simp, InOrder.nil _ _⟩
  | some p =>
    have hoff := hc.off_head hs hw hm hp
    refine ⟨?_, ?_, by simp⟩
    · intro q hq
      rw [mem_singleton.1 hq]
      exact ⟨_, hp⟩
    · intro q hq
      rw [mem_singleton.1 hq, hoff]
      exact Nat.one_pos

section

variable (hn : n < 65536) (hs : Sound r) (hw : Windowed r)
include hn hs hw

section

variable (hm : MaskedHead r) (hc : Clear r)
include hm hc

lemma releaseReady_delivered (k : ℕ) :
    ∃ a ≤ k, Moved r (releaseReady k r).1 a ∧ Delivered r (releaseReady k r).2 a := by
  induction k generalizing r with
  | zero => exact ⟨0, le_rfl, Moved.refl r, by simp [releaseReady], InOrder.nil _ _⟩
  | succ k ih =>
    simp only [releaseReady]
    cases hp : r.reorderBuf (reorderIndex r.headSeqNum) with
    | none => exact ⟨0, Nat.zero_le _, Moved.refl r, by simp, InOrder.nil _ _⟩
    | some p =>
      have hstep := releaseHead_moved hs hm
      have hdel := releaseHead_delivered hs hw hm hc
      obtain ⟨a, hak, hmoved, hrest⟩ := ih (hs.releaseReorderFrame hn _) (hstep.windowed hw)
        (releaseReorderFrame_masked r _) (hstep.clear hc)
      exact ⟨1 + a, by omega, hstep.trans hmoved, hdel.trans hstep hrest⟩

lemma releaseUpTo_delivered (v k : ℕ) :
    Delivered r (releaseUpTo v k r).2 k := by
  induction k generalizing r with
  | zero => exact ⟨by simp [releaseUpTo], InOrder.nil _ _⟩
  | succ k ih =>
    simp only [releaseUpTo]
    split_ifs
    · have hstep := releaseHead_moved hs hm
      have hrest := ih (hs.releaseReorderFrame hn _) (hstep.windowed hw)
        (releaseReorderFrame_masked r _) (hstep.clear hc)
      have hall := (releaseHead_delivered hs hw hm hc).trans hstep hrest
      rwa [Nat.add_comm] at hall
    · exact ⟨by simp, InOrder.nil _ _⟩

lemma reorderRelease_delivered {curTime : ℕ}
    (hscan : Aligned r ∨ NoneTimedOut r curTime) :
    ∃ a ≤ n, Moved r (reorderRelease r curTime).2.1 a ∧
      Delivered r (reorderRelease r curTime).2.2 a := by
  rw [reorderRelease_snd, reorderReleaseLoops]
  split_ifs with hempty
  · rcases hscan with halign | hnone
    · exact releaseTimedOut_moved hs hw halign hempty.1 curTime
    · rw [releaseTimedOut_idle hnone _ _ one_ne_zero]
      exact ⟨0, Nat.zero_le _, Moved.refl r, by simp, InOrder.nil _ _⟩
  · exact releaseReady_delivered hn hs hw hm hc n

end

end

/-! ## One session event -/

/-- The head moves on by less than half the sequence space, and what is
handed up lies, in order, between the old head and the new one. -/
def StepInOrder (h h' : ℕ) (frames : List RxPkt) : Prop :=
  seqSub h' h < 2048 ∧ InOrder h frames (seqSub h' h)

variable {h h' a : ℕ}

lemma seqSub_eq_of_head (hh : h' % 4096 = (h + a) % 4096) (ha : a < 4096) :
    seqSub h' h = a := by
  unfold seqSub
  omega

lemma StepInOrder.of_moved {frames : List RxPkt} (ha : a < 2048)
    (hh : h' % 4096 = (h + a) % 4096) (hord : InOrder h frames a) : StepInOrder h h' frames := by
  have hadv := seqSub_eq_of_head hh (by omega)
  exact ⟨hadv ▸ ha, hadv.symm ▸ hord⟩

lemma StepInOrder.idle (h : ℕ) : StepInOrder h h [] :=
  StepInOrder.of_moved (by decide) rfl (InOrder.nil h 0)

/-- The head does not travel half the sequence space: the packet is less than
2047 ahead, or its arrival empties the buffer of all that is older and it has
to wait itself. -/
def ReachOk (r : TidAmpduRx n) (pkt : RxPkt) (storeTime curTime : ℕ) : Prop :=
  off r.headSeqNum pkt ≤ 2046 ∨
    (2 ≤ n ∧ 2 * n ≤ off r.headSeqNum pkt + 1 ∧ notTimedOut storeTime curTime = true)

def OrderOk (r : TidAmpduRx n) : SessionEvent → Prop
  | .rx pkt storeTime curTime =>
    (seqLess pkt.seq r.headSeqNum = true ∧ r.started = true) ∨
    (seqLess pkt.seq r.headSeqNum = false ∧ Clear r ∧ SlotClear n r.headSeqNum pkt ∧
      PlaceOk r pkt storeTime curTime ∧ ReachOk r pkt storeTime curTime)
  | .bar seq =>
    seqLess seq r.headSeqNum = true ∨
    ((seq < 4096 ∨ n ∣ 4096) ∧ seqSub seq r.headSeqNum ≠ 2048 ∧ Clear r)
  | .release curTime => Clear r ∧ (Aligned r ∨ NoneTimedOut r curTime)
  | .sleep => False

lemma releaseReorderFrames_delivered (hn : n < 65536) (h : InPlace r)
    (hc : Clear r) (v : ℕ) :
    Delivered r (releaseReorderFrames r v).2 (seqSub v r.headSeqNum) :=
  releaseUpTo_delivered hn h.sound h.windowed h.masked hc v _

lemma makeRoom_delivered (hn : n < 65536) (h : InPlace r)
    (hsmall : n < 2048) (hc : Clear r) {pkt : RxPkt}
    (hnew : seqLess pkt.seq r.headSeqNum = false) :
    ∃ a, (a = 0 ∨ a + n = off r.headSeqNum pkt + 1) ∧ Moved r (makeRoom r pkt.seq).1 a ∧
      Delivered r (makeRoom r pkt.seq).2 a := by
  obtain ⟨a, ha, hmoved⟩ := makeRoom_moved hn h hsmall hnew
  refine ⟨a, ha, hmoved, ?_⟩
  have hd : off r.headSeqNum pkt ≤ 2048 := not_seqLess_iff.1 hnew
  have hn0 := NeZero.ne n
  have hadv := seqSub_eq_of_head hmoved.head (by omega)
  unfold makeRoom at hadv ⊢
  split_ifs at hadv ⊢
  · exact hadv ▸ releaseReorderFrames_delivered hn h hc _
  · exact ⟨by simp, InOrder.nil _ _⟩

lemma placeMpdu_far {pkt : RxPkt} {storeTime curTime a : ℕ}
    (h : InPlace r) (hn1 : 2 ≤ n) (hfar : 2 * n ≤ off r.headSeqNum pkt + 1)
    (hfresh : notTimedOut storeTime curTime = true) (hclear : SlotClear n r.headSeqNum pkt)
    (hmoved : Moved r (makeRoom r pkt.seq).1 a) (ha : a + n = off r.headSeqNum pkt + 1)
    (hm : MaskedHead (makeRoom r pkt.seq).1) :
    (reorderRelease (store (makeRoom r pkt.seq).1 pkt storeTime) curTime).2 =
      (store (makeRoom r pkt.seq).1 pkt storeTime, []) := by
  have hgone : ∀ i, (makeRoom r pkt.seq).1.reorderBuf i = none := by
    intro i
    cases hi : (makeRoom r pkt.seq).1.reorderBuf i with
    | none => rfl
    | some p =>
      obtain ⟨hp, hap⟩ := hmoved.kept i p hi
      have hlt := h.windowed i p hp
      omega
  have hoff := hmoved.off_eq (show a ≤ off r.headSeqNum pkt by omega)
  have hback : seqSub pkt.seq (n - 1) = (makeRoom r pkt.seq).1.headSeqNum % 4096 := by
    have hseq := pkt.seq.isLt
    unfold off seqSub at *
    omega
  have hne : (reorderIndex (makeRoom r pkt.seq).1.headSeqNum : Fin n) ≠ reorderIndex pkt.seq := by
    rw [← reorderIndex_mod hm, ← hback]
    exact hclear (n - 1) (by omega) (by omega) (by omega)
  have hempty : (store (makeRoom r pkt.seq).1 pkt storeTime).reorderBuf
      (reorderIndex (store (makeRoom r pkt.seq).1 pkt storeTime).headSeqNum) = none := by
    simp only [store, Function.update_of_ne hne]
    exact hgone _
  have hnone : NoneTimedOut (store (makeRoom r pkt.seq).1 pkt storeTime) curTime := by
    intro i p hp
    rcases store_some hp with ⟨-, htime⟩ | ⟨hp', -⟩
    · rw [htime]
      exact hfresh
    · rw [hgone i] at hp'
      contradiction
  rw [reorderRelease_snd, reorderReleaseLoops]
  split_ifs with hscan
  · exact releaseTimedOut_idle hnone _ _ one_ne_zero
  · exact releaseReady_of_none hempty n

lemma placeMpdu_stored (hn : n < 65536) (h : InPlace r) (hsmall : n < 2048)
    (hc : Clear r) {pkt : RxPkt} {storeTime curTime : ℕ} (hclear : SlotClear n r.headSeqNum pkt)
    (hnew : seqLess pkt.seq r.headSeqNum = false) (hplace : PlaceOk r pkt storeTime curTime)
    {a : ℕ} (hle : a ≤ off r.headSeqNum pkt) (hmoved : Moved r (makeRoom r pkt.seq).1 a)
    (hdel : Delivered r (makeRoom r pkt.seq).2 a)
    (hslot : (makeRoom r pkt.seq).1.reorderBuf (reorderIndex pkt.seq) = none) :
    ∃ b ≤ n, (reorderRelease (store (makeRoom r pkt.seq).1 pkt storeTime) curTime).2.1.headSeqNum
        % 4096 = (r.headSeqNum + (a + b)) % 4096 ∧
      InOrder r.headSeqNum ((makeRoom r pkt.seq).2 ++
        (reorderRelease (store (makeRoom r pkt.seq).1 pkt storeTime) curTime).2.2) (a + b) := by
  have hroom := h.makeRoom hn (Or.inl hsmall) hnew
  have hwin : Windowed (store (makeRoom r pkt.seq).1 pkt storeTime) := by
    intro i p hp
    rcases store_some hp with ⟨rfl, -⟩ | ⟨hp', -⟩
    · exact makeRoom_off hnew
    · exact hroom.windowed i p hp'
  have hcl : Clear (store (makeRoom r pkt.seq).1 pkt storeTime) := by
    intro i p hp
    rcases store_some hp with ⟨rfl, -⟩ | ⟨hp', -⟩
    · exact hmoved.slotClear hle hclear
    · exact hmoved.clear hc i p hp'
  have hscan : Aligned (store (makeRoom r pkt.seq).1 pkt storeTime) ∨
      NoneTimedOut (store (makeRoom r pkt.seq).1 pkt storeTime) curTime := by
    rcases hplace.scanOk hn h (Or.inl hsmall) hnew with hlarge | hok
    · omega
    · exact hok
  obtain ⟨b, hb, hmoved', hdel'⟩ := reorderRelease_delivered hn
    (hroom.sound.store hn hslot storeTime) hwin hroom.masked hcl hscan
  refine ⟨b, hb, ?_, ?_⟩
  · have h1 := hmoved.head
    have h2 : _ = ((makeRoom r pkt.seq).1.headSeqNum + b) % 4096 := hmoved'.head
    omega
  · refine hdel.inOrder.append hmoved.head hdel'.inOrder ?_
    intro p hp
    obtain ⟨i, hi⟩ := hdel'.source p hp
    rcases store_some hi with ⟨rfl, -⟩ | ⟨hi', -⟩
    · exact hle
    · exact (hmoved.kept i p hi').2

lemma placeMpdu_inOrder (hn : n < 65536) (h : InPlace r) (hsmall : n < 2048)
    (hc : Clear r) {pkt : RxPkt} {storeTime curTime : ℕ} (hclear : SlotClear n r.headSeqNum pkt)
    (hnew : seqLess pkt.seq r.headSeqNum = false) (hplace : PlaceOk r pkt storeTime curTime)
    (hreach : ReachOk r pkt storeTime curTime) :
    StepInOrder r.headSeqNum (placeMpdu r pkt storeTime curTime).2.1.headSeqNum
      (if (placeMpdu r pkt storeTime curTime).1 then
        (placeMpdu r pkt storeTime curTime).2.2.frames
      else (placeMpdu r pkt storeTime curTime).2.2.frames ++ [pkt]) := by
  obtain ⟨a, ha, hmoved, hdel⟩ := makeRoom_delivered hn h hsmall hc hnew
  have hd : off r.headSeqNum pkt ≤ 2048 := not_seqLess_iff.1 hnew
  have hn0 := NeZero.ne n
  have hle : a ≤ off r.headSeqNum pkt := by omega
  rcases placeMpdu_cases r pkt storeTime curTime with
    ⟨-, heq⟩ | ⟨-, hseq, hempty, heq⟩ | ⟨hslot, -, heq⟩
  · rw [heq]
    have hlt : a < 2048 := by
      rcases hreach with h1 | ⟨h1, -, -⟩ <;> omega
    exact StepInOrder.of_moved hlt hmoved.head hdel.inOrder
  · rw [heq]
    have hoff : off (makeRoom r pkt.seq).1.headSeqNum pkt = 0 := by
      rw [off, ← hseq]
      exact seqSub_self _
    rw [hmoved.off_eq hle] at hoff
    have hlt : a + 1 < 2048 := by
      rcases hreach with h1 | ⟨h1, -, -⟩ <;> omega
    have hhead : seqInc (makeRoom r pkt.seq).1.headSeqNum % 4096 =
        (r.headSeqNum + (a + 1)) % 4096 := by
      have h1 := hmoved.head
      unfold seqInc
      omega
    refine StepInOrder.of_moved hlt hhead (hdel.inOrder.append hmoved.head ⟨?_, ?_⟩ ?_)
    · intro p hp
      rw [mem_singleton.1 hp, hmoved.off_eq hle]
      omega
    · simp
    · intro p hp
      rw [mem_singleton.1 hp]
      exact hle
  · rw [heq]
    obtain ⟨b, hb, hhead, hord⟩ :=
      placeMpdu_stored hn h hsmall hc hclear hnew hplace hle hmoved hdel hslot
    rcases ha with rfl | ha
    · exact StepInOrder.of_moved (by omega) hhead hord
    · rcases hreach with hnear | ⟨hn1, hfar, hfresh⟩
      · exact StepInOrder.of_moved (by omega) hhead hord
      · have hstay := placeMpdu_far h hn1 hfar hfresh hclear hmoved ha
          (h.masked.makeRoom pkt.seq)
        simp only [hstay, append_nil, ↓reduceIte]
        exact StepInOrder.of_moved (by omega) hmoved.head hdel.inOrder

omit [NeZero n] in
lemma wakeUp_awake (hawake : r.sleep = false) (seq : ℕ) :
    wakeUp r seq = r := by
  simp [wakeUp, hawake]

lemma sessionStep_inOrder (hn : n < 65536) (h : InPlace r)
    (hsmall : n < 2048) (hawake : r.sleep = false) {ev : SessionEvent} (hok : OrderOk r ev) :
    StepInOrder r.headSeqNum (sessionStep r ev).1.headSeqNum (sessionStep r ev).2 := by
  cases ev with
  | rx pkt storeTime curTime =>
    have hwake : wakeUp { r with started := true } pkt.seq = { r with started := true } :=
      by rw [wakeUp_started, wakeUp_awake hawake]
    rcases manageStaReorderBuf_cases r pkt storeTime curTime with
      ⟨hs, hless, heq⟩ | ⟨-, hless, heq⟩ | ⟨-, hnew, heq⟩
    · rcases hok with ⟨-, hs'⟩ | ⟨hnew, -⟩
      · simp [hs] at hs'
      · simp [hless] at hnew
    · simp only [sessionStep, heq, hwake]
      exact StepInOrder.idle _
    · rw [hwake] at hnew heq
      rcases hok with ⟨hold, -⟩ | ⟨-, hc, hclear, hplace, hreach⟩
      · rw [hold] at hnew
        contradiction
      · simp only [sessionStep, heq]
        have hstart : InPlace { r with started := true } :=
          ⟨⟨h.sound.count, h.sound.slot⟩, h.windowed, h.masked, h.single⟩
        exact placeMpdu_inOrder hn hstart hsmall hc hclear hnew hplace hreach
  | bar seq =>
    simp only [sessionStep]
    split_ifs with hold
    · exact StepInOrder.idle _
    · rcases hok with hold' | ⟨-, hne, hc⟩
      · contradiction
      · have hd : seqSub seq r.headSeqNum ≤ 2048 := not_seqLess_iff.1 (by simpa using hold)
        refine StepInOrder.of_moved (by omega) ?_
          (releaseReorderFrames_delivered hn h hc seq).inOrder
        exact (add_seqSub_modEq seq r.headSeqNum).symm
  | release curTime =>
    obtain ⟨a, ha, hmoved, hdel⟩ :=
      reorderRelease_delivered hn h.sound h.windowed h.masked hok.1 hok.2
    exact StepInOrder.of_moved (by omega) hmoved.head hdel.inOrder
  | sleep => exact hok.elim

lemma OrderOk.windowOk (h : InPlace r) (hawake : r.sleep = false)
    {ev : SessionEvent} (hok : OrderOk r ev) : WindowOk r ev := by
  cases ev with
  | rx pkt storeTime curTime =>
    refine Or.inr ⟨fun hs => by simp [hawake] at hs, ?_⟩
    rw [wakeUp_awake hawake]
    rcases hok with ⟨hold, -⟩ | ⟨-, -, -, hplace, -⟩
    · exact Or.inl hold
    · exact Or.inr hplace
  | bar seq =>
    rcases hok with hold | ⟨hmask, hne, -⟩
    · exact Or.inl hold
    · cases hold : seqLess seq r.headSeqNum with
      | true => exact Or.inl hold
      | false =>
        refine Or.inr ⟨hmask, ?_⟩
        have hd := not_seqLess_iff.1 hold
        cases hk : seqSub seq r.headSeqNum with
        | zero =>
          refine Or.inr fun i p hp => ?_
          have hmod := add_seqSub_modEq seq r.headSeqNum
          rw [hk, Nat.add_zero] at hmod
          rw [off, seqSub_of_modEq hmod.symm]
          exact h.windowed i p hp
        | succ k => exact Or.inl (seqLess_of_ahead hk (by omega))
  | release curTime => exact Or.inr hok.2
  | sleep => trivial

/-! ## Sessions stay awake -/

omit [NeZero n] in
@[simp] lemma releaseReorderFrame_sleep (r : TidAmpduRx n) (i : Fin n) :
    (releaseReorderFrame r i).1.sleep = r.sleep := by
  unfold releaseReorderFrame
  cases r.reorderBuf i <;> rfl

@[simp] lemma releaseTimedOut_sleep (curTime k j skipped : ℕ) (r : TidAmpduRx n) :
    (releaseTimedOut curTime k j skipped r).2.1.sleep = r.sleep := by
  induction k generalizing j skipped r with
  | zero => rfl
  | succ k ih =>
    simp only [releaseTimedOut]
    cases r.reorderBuf (reorderIndex j) with
    | none => exact ih (j + 1) (skipped + 1) r
    | some p =>
      dsimp only
      split_ifs
      · rfl
      · exact (ih _ _ _).trans (releaseReorderFrame_sleep r _)

@[simp] lemma releaseReady_sleep (k : ℕ) (r : TidAmpduRx n) :
    (releaseReady k r).1.sleep = r.sleep := by
  induction k generalizing r with
  | zero => rfl
  | succ k ih =>
    simp only [releaseReady]
    cases r.reorderBuf (reorderIndex r.headSeqNum) with
    | none => rfl
    | some p => exact (ih _).trans (releaseReorderFrame_sleep r _)

@[simp] lemma releaseReorderFrames_sleep (r : TidAmpduRx n) (v : ℕ) :
    (releaseReorderFrames r v).1.sleep = r.sleep := by
  have hloop : ∀ k (r : TidAmpduRx n), (releaseUpTo v k r).1.sleep = r.sleep := by
    intro k
    induction k with
    | zero => exact fun r => rfl
    | succ k ih =>
      intro r
      simp only [releaseUpTo]
      split_ifs
      · exact (ih _).trans (releaseReorderFrame_sleep r _)
      · rfl
  exact hloop _ r

@[simp] lemma reorderRelease_sleep (r : TidAmpduRx n) (curTime : ℕ) :
    (reorderRelease r curTime).2.1.sleep = r.sleep := by
  rw [reorderRelease_snd, reorderReleaseLoops]
  split_ifs <;> simp

@[simp] lemma placeMpdu_sleep (r : TidAmpduRx n) (pkt : RxPkt) (storeTime curTime : ℕ) :
    (placeMpdu r pkt storeTime curTime).2.1.sleep = r.sleep := by
  have hroom : (makeRoom r pkt.seq).1.sleep = r.sleep := by
    unfold makeRoom
    split_ifs <;> simp
  rcases placeMpdu_cases r pkt storeTime curTime with
    ⟨-, heq⟩ | ⟨-, -, -, heq⟩ | ⟨-, -, heq⟩ <;> simp [heq, hroom, store]

lemma sessionStep_awake (hawake : r.sleep = false) {ev : SessionEvent}
    (hok : OrderOk r ev) : (sessionStep r ev).1.sleep = false := by
  cases ev with
  | rx pkt storeTime curTime =>
    have hwake : (wakeUp { r with started := true } pkt.seq).sleep = false := by
      rw [wakeUp_started, wakeUp_awake hawake]
      exact hawake
    simp only [sessionStep]
    rcases manageStaReorderBuf_cases r pkt storeTime curTime with
      ⟨-, -, heq⟩ | ⟨-, -, heq⟩ | ⟨-, -, heq⟩
    · rw [heq]
      exact hawake
    · rw [heq]
      exact hwake
    · rw [heq, placeMpdu_sleep]
      exact hwake
  | bar seq =>
    simp only [sessionStep]
    split_ifs <;> simp [hawake]
  | release curTime => simp [sessionStep, hawake]
  | sleep => exact hok.elim

end Ring

/-! ## Whole runs -/

def deliveredBy (com : PhlCom) (tid : Fin 16) (sta : StaInfo) (e : RxEvent) : List RxPkt :=
  match sta.tidRx tid, sessionEvent com sta tid e with
  | some s, some ev => (sessionStep s.rx ev).2
  | _, _ => []

def headOf (tid : Fin 16) (sta : StaInfo) : ℕ :=
  (sta.tidRx tid).elim 0 fun s => s.rx.headSeqNum

/-- The unwrapped positions of the packets a run hands up from the session:
`base` is the position of its head. -/
def positions (com : PhlCom) (tid : Fin 16) : ℕ → StaInfo → List RxEvent → List ℕ
  | _, _, [] => []
  | base, sta, e :: es =>
    (deliveredBy com tid sta e).map (fun p => base + off (headOf tid sta) p) ++
      positions com tid
        (base + seqSub (headOf tid (staStep com sta e)) (headOf tid sta)) (staStep com sta e) es

variable {tid : Fin 16} {sta : StaInfo} {e : RxEvent}

lemma releaseSessions_sublist {tid : Fin 16} {s : Session}
    (hs : sta.tidRx tid = some s) (curTime : Fin 16 → ℕ) :
    (sessionStep s.rx (.release (curTime tid))).2.Sublist (releaseSessions sta curTime).2.frames := by
  have hmem : tid ∈ finRange 16 := mem_finRange tid
  obtain ⟨xs, ys, hxy⟩ := append_of_mem hmem
  simp only [releaseSessions, hxy, flatMap_append, flatMap_cons, hs, map_some,
    elim_some, sessionStep]
  exact (sublist_append_left _ _).trans (sublist_append_right _ _)

variable (com : PhlCom)

lemma deliveredBy_sublist (tid : Fin 16) (sta : StaInfo) (e : RxEvent) :
    (deliveredBy com tid sta e).Sublist (handle com sta e).2.frames := by
  cases hs : sta.tidRx tid with
  | none => simp [deliveredBy, hs]
  | some s =>
    cases hev : sessionEvent com sta tid e with
    | none => simp [deliveredBy, hs, hev]
    | some ev =>
      simp only [deliveredBy, hs, hev]
      cases e with
      | rx pkt storeTime curTime =>
        simp only [sessionEvent, ite_none_left_eq_some] at hev
        obtain ⟨hsniff, hev⟩ := hev
        obtain ⟨pkt', hfcs, hev⟩ := bind_eq_some_iff.1 hev
        obtain ⟨htid, hev⟩ := ite_none_right_eq_some.1 hev
        cases hev
        simp only [handle, rxReorder, hsniff, hfcs, htid, hs, sessionStep,
          Bool.false_eq_true, ↓reduceIte]
        split_ifs <;> exact List.Sublist.refl _
      | bar tid' seq =>
        simp only [sessionEvent, ite_none_right_eq_some] at hev
        obtain ⟨rfl, hev⟩ := hev
        cases hev
        simp only [handle, rxBar, tid.isLt, ↓reduceDIte, Fin.eta, hs, sessionStep]
        split_ifs <;> exact List.Sublist.refl _
      | timer curTime =>
        cases hev
        exact releaseSessions_sublist hs curTime
      | flush curTime =>
        cases hev
        exact releaseSessions_sublist hs curTime
      | sleep =>
        cases hev
        simp [sessionStep]
      | start ssn policy tid' size ok => simp [sessionEvent] at hev
      | stop tid' => simp [sessionEvent] at hev
      | free => simp [sessionEvent] at hev

def Ongoing (tid : Fin 16) : RxEvent → Prop
  | .start _ _ tid' _ _ => tid' ≠ tid
  | .stop tid' => tid' ≠ tid
  | .free => False
  | .sleep => False
  | _ => True

def DeliveryOk (com : PhlCom) (tid : Fin 16) (sta : StaInfo) (e : RxEvent) : Prop :=
  Ongoing tid e ∧ ∀ s ev, sta.tidRx tid = some s → sessionEvent com sta tid e = some ev →
    OrderOk s.rx ev

structure Session.Orderly (s : Session) : Prop where
  small : s.bufSize < 2048
  rx : InPlace s.rx
  awake : s.rx.sleep = false

lemma staStep_isSome (ho : Ongoing tid e) (hs : (sta.tidRx tid).isSome) :
    ((staStep com sta e).tidRx tid).isSome := by
  have hupdate : ∀ (t : Fin 16) (s : Session),
      ((Function.update sta.tidRx t (some s)) tid).isSome := by
    intro t s
    by_cases heq : tid = t
    · simp [heq]
    · simpa [Function.update_of_ne heq] using hs
  cases e with
  | start ssn policy tid' size ok =>
    simp only [staStep, handle, startRxBaSession]
    split_ifs
    · exact hs
    · exact hs
    · exact hupdate _ _
    · exact hs
  | rx pkt storeTime curTime =>
    simp only [staStep, handle, rxReorder]
    split_ifs
    · exact hs
    · split
      · exact hs
      · split
        · exact hs
        · split
          · exact hs
          · split_ifs <;> exact hupdate _ _
  | bar tid' seq =>
    simp only [staStep, handle, rxBar]
    split_ifs
    · split
      · exact hs
      · split_ifs
        · exact hs
        · exact hupdate _ _
    · exact hs
  | timer curTime => simpa [staStep, handle, releaseSessions] using hs
  | flush curTime => simpa [staStep, handle, releaseSessions] using hs
  | sleep => exact ho.elim
  | stop tid' =>
    simp only [staStep, handle, stopRxBaSession]
    split_ifs with htid
    · have hne : tid ≠ ⟨tid', htid⟩ := fun h => ho (by rw [h])
      simpa [Function.update_of_ne hne] using hs
    · exact hs
  | free => exact ho.elim

lemma staStep_ongoing {s : Session}
    (ho : Ongoing tid e) (hs : sta.tidRx tid = some s) :
    (staStep com sta e).tidRx tid = some (s.advance (sessionEvent com sta tid e)) := by
  obtain ⟨s', hs'⟩ := isSome_iff_exists.1
    (staStep_isSome com ho (by rw [hs]; rfl))
  rcases staStep_session hs' with ⟨ssn, size, rfl, -⟩ | ⟨s₀, hs₀, rfl⟩
  · exact absurd rfl ho
  · rw [hs] at hs₀
    cases hs₀
    exact hs'

lemma staStep_orderly {com : PhlCom} {tid : Fin 16} {sta : StaInfo} {e : RxEvent}
    (h : ∃ s, sta.tidRx tid = some s ∧ s.Orderly) (hok : DeliveryOk com tid sta e) :
    (∃ s, (staStep com sta e).tidRx tid = some s ∧ s.Orderly) ∧
    StepInOrder (headOf tid sta) (headOf tid (staStep com sta e)) (deliveredBy com tid sta e) := by
  obtain ⟨s, hs, hord⟩ := h
  have hs' := staStep_ongoing com hok.1 hs
  simp only [headOf, deliveredBy, hs, hs', elim_some]
  cases hev : sessionEvent com sta tid e with
  | none => exact ⟨⟨s, rfl, hord⟩, StepInOrder.idle _⟩
  | some ev =>
    have hev' := hok.2 s ev hs hev
    refine ⟨⟨_, rfl, hord.small, ?_, sessionStep_awake hord.awake hev'⟩, ?_⟩
    · exact hord.rx.sessionStep s.bufSize_lt (Or.inl hord.small)
        (hev'.windowOk hord.rx hord.awake)
    · exact sessionStep_inOrder s.bufSize_lt hord.rx hord.small hord.awake hev'

lemma le_positions {com : PhlCom} {tid : Fin 16} {base : ℕ} {sta : StaInfo}
    {es : List RxEvent} {x : ℕ} (hx : x ∈ positions com tid base sta es) : base ≤ x := by
  induction es generalizing base sta with
  | nil => simp [positions] at hx
  | cons e es ih =>
    rcases mem_append.1 hx with hx | hx
    · obtain ⟨p, -, rfl⟩ := mem_map.1 hx
      exact Nat.le_add_right _ _
    · exact (Nat.le_add_right _ _).trans (ih hx)

lemma positions_increasing {com : PhlCom} {tid : Fin 16} {sta : StaInfo} {es : List RxEvent}
    (h : ∃ s, sta.tidRx tid = some s ∧ s.Orderly)
    (hok : Guarded (staStep com) (DeliveryOk com tid) sta es) (base : ℕ) :
    (positions com tid base sta es).Pairwise (· < ·) := by
  induction es generalizing base sta with
  | nil => exact List.Pairwise.nil
  | cons e es ih =>
    obtain ⟨hnext, hstep⟩ := staStep_orderly h hok.1
    refine pairwise_append.2 ⟨?_, ih hnext hok.2 _, ?_⟩
    · refine pairwise_map.2 (hstep.2.ordered.imp ?_)
      intro p q hlt
      exact Nat.add_lt_add_left hlt base
    · intro x hx y hy
      obtain ⟨p, hp, rfl⟩ := mem_map.1 hx
      exact (Nat.add_lt_add_left (hstep.2.below p hp) base).trans_le (le_positions hy)

/-- From its start on, a session with fewer than 2048 slots hands packets up
in order and never moves its head back, in every run whose steps meet
`DeliveryOk`. -/
theorem reorder_delivery_order (sta : StaInfo) (tid : Fin 16)
    (ssn size : UInt16) (hsize : appliedSize size < 2048)
    (hssn : ssn.toNat < 4096 ∨ appliedSize size ∣ 4096) (es : List RxEvent)
    (hok : Guarded (staStep com) (DeliveryOk com tid)
      (staStep com sta (.start ssn 0 tid size true)) es) :
    (∀ xs e ys, es = xs ++ e :: ys →
      let sta' := run (staStep com) (staStep com sta (.start ssn 0 tid size true)) xs
      (deliveredBy com tid sta' e).Sublist (handle com sta' e).2.frames ∧
      StepInOrder (headOf tid sta') (headOf tid (staStep com sta' e))
        (deliveredBy com tid sta' e)) ∧
    (positions com tid 0 (staStep com sta (.start ssn 0 tid size true)) es).Pairwise (· < ·) := by
  let inv (sta : StaInfo) : Prop := ∃ s, sta.tidRx tid = some s ∧ s.Orderly
  have hstart : inv (staStep com sta (.start ssn 0 tid size true)) := by
    refine ⟨newSession ssn size, ?_, hsize, inPlace_alloc hssn, rfl⟩
    simp [staStep, handle, startRxBaSession]
  have hstep : ∀ sta e, inv sta → DeliveryOk com tid sta e → inv (staStep com sta e) :=
    fun sta e h he => (staStep_orderly h he).1
  refine ⟨?_, positions_increasing hstart hok 0⟩
  rintro xs e ys rfl
  obtain ⟨hxs, he⟩ := hok.split
  exact ⟨deliveredBy_sublist com tid _ e, (staStep_orderly (hxs.invariant hstep hstart) he).2⟩

/-- A block-ack request exactly 2048 ahead of the head is obeyed, and the
head moves by half the sequence space. -/
theorem reorder_bar_half_space :
    ¬∀ xs e ys, [RxEvent.rx (qosPkt 1 0) 0 0, .bar 0 2049] = xs ++ e :: ys →
      let sta' := run (staStep plainCom)
        (staStep plainCom (StaInfo.init 0) (.start 0 0 0 64 true)) xs
      StepInOrder (headOf 0 sta') (headOf 0 (staStep plainCom sta' e))
        (deliveredBy plainCom 0 sta' e) := by
  intro h
  have hstep := h [.rx (qosPkt 1 0) 0 0] (.bar 0 2049) [] rfl
  exact absurd hstep.1 (by decide)

theorem reorder_delivery_run :
    (positions plainCom 0 0 (staStep plainCom (StaInfo.init 0) (.start 0 0 0 64 true))
      [.rx (qosPkt 1 1) 0 0, .rx (qosPkt 2 0) 0 0]).Pairwise (· < ·) := by
  refine (reorder_delivery_order plainCom (StaInfo.init 0) 0 0 64 (by decide) (Or.inl (by decide))
    [.rx (qosPkt 1 1) 0 0, .rx (qosPkt 2 0) 0 0] ⟨⟨trivial, ?_⟩, ⟨trivial, ?_⟩, trivial⟩).2
  all_goals
    intro s ev hs hev
    cases hs
    cases hev
    refine Or.inr ⟨by decide, fun i p _ => slotClear_of_dvd (by decide) _ p,
      slotClear_of_dvd (by decide) _ _, Or.inr (Or.inl (by decide)), Or.inl (by decide)⟩

end Rtl8831.Phl
