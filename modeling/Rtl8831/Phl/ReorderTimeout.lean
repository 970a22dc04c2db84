import Rtl8831.Phl.ReorderWindow

/-!
# What a timeout releases

The loops of `phl_reorder_release` end, and hand up exactly the packets that
are reached from the head without passing a hole or, if the head itself is
missing, by passing holes only in front of packets that have timed out.
-/

namespace Rtl8831.Phl

open Lib Function

section Ring

variable {n : ℕ} [NeZero n]

/-! ## The loops end -/

/-- The `for` loop of `phl_reorder_release` with its own index and condition;
`none` is to run out of fuel. -/
def scanLoop (curTime : ℕ) (index : Fin n) :
    (fuel : ℕ) → (j : Fin n) → (skipped : ℕ) → TidAmpduRx n →
      Option (Bool × TidAmpduRx n × List RxPkt)
  | 0, _, _, _ => none
  | fuel + 1, j, skipped, r =>
    if j = index then some (false, r, [])
    else
      match r.reorderBuf j with
      | none => scanLoop curTime index fuel (reorderIndex (j + 1)) (skipped + 1) r
      | some _ =>
        if skipped ≠ 0 ∧ notTimedOut (r.reorderTime j) curTime then some (true, r, [])
        else
          let a := releaseReorderFrame r j
          (scanLoop curTime index fuel (reorderIndex (j + 1)) 0
            { a.1 with headSeqNum := (a.1.headSeqNum + skipped) % 4096 }).map
              fun b => (b.1, b.2.1, a.2 ++ b.2.2)

/-- The `while` loop, with fuel. -/
def readyLoop : (fuel : ℕ) → TidAmpduRx n → Option (TidAmpduRx n × List RxPkt)
  | 0, _ => none
  | fuel + 1, r =>
    match r.reorderBuf (reorderIndex r.headSeqNum) with
    | none => some (r, [])
    | some _ =>
      let a := releaseReorderFrame r (reorderIndex r.headSeqNum)
      (readyLoop fuel a.1).map fun b => (b.1, a.2 ++ b.2)

/-- `phl_reorder_release` over the loops with fuel. -/
def phlReorderRelease (fuel : ℕ) (r : TidAmpduRx n) (curTime : ℕ) :
    Option (Bool × TidAmpduRx n × List RxPkt) :=
  let index : Fin n := reorderIndex r.headSeqNum
  (if r.reorderBuf index = none ∧ r.storedMpduNum ≠ 0 then
    scanLoop curTime index fuel (reorderIndex (index + 1)) 1 r
  else (readyLoop fuel r).map fun a => (false, a)).map fun a =>
    ((a.1 || decide (a.2.1.storedMpduNum ≠ 0)) && !a.2.1.removed, a.2)

lemma reorderIndex_succ (m : ℕ) :
    (reorderIndex ((reorderIndex m : Fin n) + 1 : ℕ) : Fin n) = reorderIndex (m + 1) := by
  rw [reorderIndex_eq]
  exact Nat.mod_add_mod m n 1

lemma reorderIndex_add_eq {h d : ℕ} (h0 : 0 < d) (hd : d ≤ n) :
    (reorderIndex (h + d) : Fin n) = reorderIndex h ↔ d = n := by
  rw [reorderIndex_eq]
  constructor
  · intro heq
    have hmod : d ≡ 0 [MOD n] := Nat.ModEq.add_left_cancel' h heq
    exact Nat.le_antisymm hd (Nat.le_of_dvd h0 ((Nat.modEq_zero_iff_dvd).1 hmod))
  · rintro rfl
    exact Nat.add_mod_right h d

lemma scanLoop_eq (curTime h : ℕ) {k d skipped fuel : ℕ} {r : TidAmpduRx n} (h0 : 0 < d)
    (hkd : k + d = n) (hfuel : k < fuel) :
    scanLoop curTime (reorderIndex h) fuel (reorderIndex (h + d)) skipped r =
      some (releaseTimedOut curTime k (h + d) skipped r) := by
  induction k generalizing d skipped fuel r with
  | zero =>
    obtain ⟨fuel, rfl⟩ := Nat.exists_eq_succ_of_ne_zero hfuel.ne'
    rw [scanLoop, if_pos ((reorderIndex_add_eq h0 (by omega)).2 (by omega)), releaseTimedOut]
  | succ k ih =>
    obtain ⟨fuel, rfl⟩ := Nat.exists_eq_succ_of_ne_zero (Nat.ne_of_gt (Nat.zero_lt_of_lt hfuel))
    have hne : (reorderIndex (h + d) : Fin n) ≠ reorderIndex h := by
      rw [Ne, reorderIndex_add_eq h0 (by omega)]
      omega
    have hnext : ∀ skipped (r : TidAmpduRx n), scanLoop curTime (reorderIndex h) fuel
        (reorderIndex ((reorderIndex (h + d) : Fin n) + 1 : ℕ)) skipped r =
          some (releaseTimedOut curTime k (h + d + 1) skipped r) := by
      intro skipped r
      rw [reorderIndex_succ]
      exact ih (Nat.succ_pos d) (by omega) (by omega)
    rw [scanLoop, if_neg hne, releaseTimedOut]
    cases r.reorderBuf (reorderIndex (h + d)) with
    | none => exact hnext _ _
    | some p =>
      dsimp only
      split_ifs
      · rfl
      · rw [hnext]
        rfl

lemma readyLoop_eq {k fuel : ℕ} {r : TidAmpduRx n} (hk : occupied r.reorderBuf ≤ k)
    (hfuel : k < fuel) : readyLoop fuel r = some (releaseReady k r) := by
  induction k generalizing fuel r with
  | zero =>
    obtain ⟨fuel, rfl⟩ := Nat.exists_eq_succ_of_ne_zero hfuel.ne'
    rw [readyLoop, occupied_eq_zero.1 (Nat.le_zero.1 hk) _, releaseReady]
  | succ k ih =>
    obtain ⟨fuel, rfl⟩ := Nat.exists_eq_succ_of_ne_zero (Nat.ne_of_gt (Nat.zero_lt_of_lt hfuel))
    rw [readyLoop, releaseReady]
    cases hp : r.reorderBuf (reorderIndex r.headSeqNum) with
    | none => rfl
    | some p =>
      have hclear := occupied_clear hp
      dsimp only
      rw [ih _ (by omega)]
      · rfl
      · rw [releaseReorderFrame_buf]
        omega

lemma phlReorderRelease_eq {fuel : ℕ} (hfuel : n < fuel) (r : TidAmpduRx n) (curTime : ℕ) :
    phlReorderRelease fuel r curTime = some (reorderRelease r curTime) := by
  have hn := Nat.pos_of_ne_zero (NeZero.ne n)
  unfold phlReorderRelease reorderRelease reorderReleaseLoops
  dsimp only
  split_ifs with hscan
  · rw [reorderIndex_succ, scanLoop_eq curTime _ one_pos (Nat.sub_add_cancel hn) (by omega)]
    rfl
  · rw [readyLoop_eq (occupied_le r.reorderBuf) hfuel]
    rfl

/-! ## What is due -/

omit [NeZero n] in
def Stored (r : TidAmpduRx n) (p : RxPkt) : Prop := ∃ i, r.reorderBuf i = some p

def TimedOut (r : TidAmpduRx n) (curTime : ℕ) (p : RxPkt) : Prop :=
  notTimedOut (r.reorderTime (reorderIndex p.seq)) curTime = false

def HoleBefore (r : TidAmpduRx n) (p : RxPkt) : Prop :=
  off r.headSeqNum p ≠ 0 ∧ ∀ g, Stored r g → off r.headSeqNum g + 1 ≠ off r.headSeqNum p

def Reachable (r : TidAmpduRx n) (curTime : ℕ) (p : RxPkt) : Prop :=
  Stored r p ∧ ∀ q, Stored r q → off r.headSeqNum q ≤ off r.headSeqNum p →
    HoleBefore r q → TimedOut r curTime q

def Due (r : TidAmpduRx n) (curTime : ℕ) (p : RxPkt) : Prop :=
  Reachable r curTime p ∧
    (r.reorderBuf (reorderIndex r.headSeqNum) = none ∨
      ∀ q, Stored r q → off r.headSeqNum q ≤ off r.headSeqNum p → ¬HoleBefore r q)

/-- A hole before `q` in the middle of a loop, which is `d` ahead of `h`; `hole`
says whether the last slot was empty. -/
def Gap (h d : ℕ) (hole : Prop) (r : TidAmpduRx n) (q : RxPkt) : Prop :=
  (off h q = d → hole) ∧ (off h q ≠ d → ∀ g, Stored r g → off h g + 1 ≠ off h q)

/-- Every packet up to `p` that has a hole before it meets `ok`. -/
def DueFrom (h d : ℕ) (hole : Prop) (ok : RxPkt → Prop) (r : TidAmpduRx n) (p : RxPkt) : Prop :=
  Stored r p ∧ ∀ q, Stored r q → off h q ≤ off h p → Gap h d hole r q → ok q

section

variable {h d : ℕ} {hole : Prop} {ok : RxPkt → Prop} {r : TidAmpduRx n} {p : RxPkt}

lemma Remaining.slot_of_off (hr : Remaining h d r) (hd : d < n) (hp : Stored r p)
    (hoff : off h p = d) : r.reorderBuf (reorderIndex (h + d)) = some p := by
  obtain ⟨i, hi⟩ := hp
  rw [← (hr.off_iff hd hi).1 hoff]
  exact hi

lemma Remaining.off_ne_of_empty (hr : Remaining h d r) (hd : d < n)
    (hnone : r.reorderBuf (reorderIndex (h + d)) = none) (hp : Stored r p) : off h p ≠ d := by
  intro hoff
  have hsome := hr.slot_of_off hd hp hoff
  rw [hnone] at hsome
  contradiction

lemma Remaining.le_of_stored (hr : Remaining h d r) (hp : Stored r p) : d ≤ off h p := by
  obtain ⟨i, hi⟩ := hp
  exact hr.le i p hi

lemma dueFrom_skip (hr : Remaining h d r) (hd : d < n)
    (hnone : r.reorderBuf (reorderIndex (h + d)) = none) :
    DueFrom h d hole ok r p ↔ DueFrom h (d + 1) True ok r p := by
  have hgap : ∀ q, Stored r q → (Gap h d hole r q ↔ Gap h (d + 1) True r q) := by
    intro q hq
    have hne := hr.off_ne_of_empty hd hnone hq
    constructor
    · exact fun hg => ⟨fun _ => trivial, fun _ => hg.2 hne⟩
    · refine fun hg => ⟨fun heq => absurd heq hne, fun _ g hg' heq => ?_⟩
      by_cases hoff : off h q = d + 1
      · exact hr.off_ne_of_empty hd hnone hg' (by omega)
      · exact hg.2 hoff g hg' heq
  refine and_congr_right fun _ => forall_congr' fun q => forall_congr' fun hq => ?_
  rw [hgap q hq]

section

variable (hr : Remaining h d r) (hd : d < n) (hp : r.reorderBuf (reorderIndex (h + d)) = some p)
include hr hd hp

lemma dueFrom_stop (hhole : hole) (hok : ¬ok p) (q : RxPkt) :
    ¬DueFrom h d hole ok r q := by
  have hoff : off h p = d := (hr.off_iff hd hp).2 rfl
  intro hq
  have hle := hr.le_of_stored hq.1
  exact hok (hq.2 p ⟨_, hp⟩ (by omega) ⟨fun _ => hhole, fun hne => absurd hoff hne⟩)

lemma stored_release (v : ℕ) (q : RxPkt) :
    Stored { (releaseReorderFrame r (reorderIndex (h + d))).1 with headSeqNum := v } q ↔
      Stored r q ∧ q ≠ p := by
  unfold Stored
  dsimp only
  rw [releaseReorderFrame_buf]
  constructor
  · rintro ⟨i, hi⟩
    by_cases heq : i = reorderIndex (h + d)
    · rw [heq, update_self] at hi
      contradiction
    · rw [update_of_ne heq] at hi
      refine ⟨⟨i, hi⟩, ?_⟩
      rintro rfl
      exact heq ((hr.off_iff hd hi).1 ((hr.off_iff hd hp).2 rfl))
  · rintro ⟨⟨i, hi⟩, hne⟩
    refine ⟨i, ?_⟩
    rw [update_of_ne]
    · exact hi
    · rintro rfl
      exact hne (Option.some.inj (hi.symm.trans hp))

lemma dueFrom_release {r' : TidAmpduRx n} (hok : hole → ok p)
    (hr' : ∀ q, Stored r' q ↔ Stored r q ∧ q ≠ p) (q : RxPkt) :
    DueFrom h d hole ok r q ↔ q = p ∨ DueFrom h (d + 1) False ok r' q := by
  have hoff : off h p = d := (hr.off_iff hd hp).2 rfl
  have hself : ∀ g, Stored r g → off h g = d → g = p := fun g hg heq =>
    Option.some.inj ((hr.slot_of_off hd hg heq).symm.trans hp)
  have hgap : ∀ g, Stored r' g → (Gap h d hole r g ↔ Gap h (d + 1) False r' g) := by
    intro g hg
    obtain ⟨hg, hne⟩ := (hr' g).1 hg
    have hgd : off h g ≠ d := fun heq => hne (hself g hg heq)
    constructor
    · intro hgap
      refine ⟨fun heq => hgap.2 hgd p ⟨_, hp⟩ (by omega), fun _ f hf => ?_⟩
      exact hgap.2 hgd f ((hr' f).1 hf).1
    · intro hgap
      refine ⟨fun heq => absurd heq hgd, fun _ f hf heq => ?_⟩
      have hgd1 : off h g ≠ d + 1 := hgap.1
      have hfp : f ≠ p := by
        rintro rfl
        omega
      exact hgap.2 hgd1 f ((hr' f).2 ⟨hf, hfp⟩) heq
  constructor
  · rintro ⟨hq, hall⟩
    by_cases heq : q = p
    · exact .inl heq
    · refine .inr ⟨(hr' q).2 ⟨hq, heq⟩, fun g hg hle hgap' => ?_⟩
      exact hall g ((hr' g).1 hg).1 hle ((hgap g hg).2 hgap')
  · rintro (rfl | ⟨hq, hall⟩)
    · refine ⟨⟨_, hp⟩, fun g hg hle hgap' => ?_⟩
      have hge := hr.le_of_stored hg
      obtain rfl := hself g hg (by omega)
      exact hok (hgap'.1 hoff)
    · refine ⟨((hr' q).1 hq).1, fun g hg hle hgap' => ?_⟩
      by_cases heq : g = p
      · rw [heq] at hgap' ⊢
        exact hok (hgap'.1 hoff)
      · have hg' := (hr' g).2 ⟨hg, heq⟩
        exact hall g hg' hle ((hgap g hg').1 hgap')

end

lemma not_dueFrom_empty (hr : Remaining h d r) (hd : d < n)
    (hnone : r.reorderBuf (reorderIndex (h + d)) = none) (q : RxPkt) :
    ¬DueFrom h d hole (fun _ => False) r q := by
  intro hdue
  generalize hm : off h q = m
  induction m using Nat.strong_induction_on generalizing q with
  | _ m ih =>
    apply hdue.2 q hdue.1 le_rfl
    refine ⟨fun heq => absurd heq (hr.off_ne_of_empty hd hnone hdue.1), fun _ g hg heq => ?_⟩
    refine ih (off h g) (by omega) g ⟨hg, fun f hf hle hgap => ?_⟩ rfl
    exact hdue.2 f hf (by omega) hgap

end

/-! ## What is released -/

/-- The packets that are `due` have been handed up in the order in which they
lie ahead of `h`, and the head is behind the last of them. -/
structure Releases (h : ℕ) (r : TidAmpduRx n) (due : RxPkt → Prop)
    (out : TidAmpduRx n × List RxPkt) : Prop where
  mem : ∀ p, p ∈ out.2 ↔ due p
  ordered : out.2.Pairwise fun p q => off h p < off h q
  head : out.1.headSeqNum = out.2.getLast?.elim r.headSeqNum fun p => seqInc p.seq
  slots : ∀ i p, out.1.reorderBuf i = some p ↔ r.reorderBuf i = some p ∧ p ∉ out.2

section

variable {h d : ℕ} {r : TidAmpduRx n} {p : RxPkt} {due due' : RxPkt → Prop}

omit [NeZero n] in
lemma Releases.stop (hdue : ∀ p, ¬due p) : Releases h r due (r, []) where
  mem p := iff_of_false List.not_mem_nil (hdue p)
  ordered := .nil
  head := rfl
  slots _ _ := (and_iff_left List.not_mem_nil).symm

lemma Releases.cons {out : TidAmpduRx n × List RxPkt} (hr : Remaining h d r) (hd : d < n)
    (hp : r.reorderBuf (reorderIndex (h + d)) = some p)
    (hdue : ∀ q, due q ↔ q = p ∨ due' q) (hstored : ∀ q, due' q → Stored r q ∧ q ≠ p)
    (hout : Releases h
      { (releaseReorderFrame r (reorderIndex (h + d))).1 with headSeqNum := seqInc p.seq } due' out) :
    Releases h r due (out.1, p :: out.2) where
  mem q := by
    rw [List.mem_cons, hout.mem, hdue]
  ordered := by
    refine List.pairwise_cons.2 ⟨fun q hq => ?_, hout.ordered⟩
    obtain ⟨hst, hne⟩ := hstored q ((hout.mem q).1 hq)
    have hoff : off h p = d := (hr.off_iff hd hp).2 rfl
    have hle := hr.le_of_stored hst
    refine lt_of_le_of_ne (hoff.trans_le hle) fun heq => hne ?_
    exact Option.some.inj ((hr.slot_of_off hd hst (by omega)).symm.trans hp)
  head := by
    rw [hout.head]
    cases hlast : out.2.getLast? with
    | none =>
      rw [List.getLast?_eq_none_iff.1 hlast]
      rfl
    | some q => rw [List.getLast?_cons, hlast]; rfl
  slots i q := by
    rw [hout.slots]
    dsimp only
    rw [releaseReorderFrame_buf, List.mem_cons, not_or]
    by_cases hi : i = reorderIndex (h + d)
    · rw [hi, update_self, hp]
      refine iff_of_false (fun hno => nomatch hno.1) fun hno => ?_
      exact hno.2.1 (Option.some.inj hno.1).symm
    · rw [update_of_ne hi]
      refine and_congr_right fun hq => (and_iff_right ?_).symm
      rintro rfl
      exact hi ((hr.off_iff hd hq).1 ((hr.off_iff hd hp).2 rfl))

end

/-! ## The loops -/

section

variable {h d : ℕ} {r : TidAmpduRx n}

lemma seqInc_of_off {h d v : ℕ} {p : RxPkt} (hp : off h p = d)
    (hv : v % 4096 = (h + d) % 4096) : seqInc v = seqInc p.seq := by
  have hmod : (h + off h p) % 4096 = (p.seq : ℕ) % 4096 := add_seqSub_modEq _ _
  unfold seqInc
  omega

lemma not_stored_of_le (hr : Remaining h d r) (hd : n ≤ d) (p : RxPkt) : ¬Stored r p := by
  rintro ⟨i, hi⟩
  have hlt := hr.lt i p hi
  have hle := hr.le i p hi
  omega

lemma releaseTimedOut_releases (hn : n < 65536) (hs : Sound r) (curTime : ℕ) {k skipped : ℕ}
    (hr : Remaining h d r) (hkd : k + d = n)
    (hhead : (r.headSeqNum + skipped) % 4096 = (h + d) % 4096) :
    Releases h r (DueFrom h d (skipped ≠ 0) (TimedOut r curTime) r)
      (releaseTimedOut curTime k (h + d) skipped r).2 := by
  induction k generalizing d skipped r with
  | zero => exact .stop fun p hp => not_stored_of_le hr (by omega) p hp.1
  | succ k ih =>
    have hd : d < n := by omega
    rw [releaseTimedOut]
    cases hj : r.reorderBuf (reorderIndex (h + d)) with
    | none =>
      have hskip := @ih _ _ hs (skipped + 1) (hr.next hd (fun _ _ hp => hp) hj)
        (by omega) (by omega)
      have htrue : (skipped + 1 ≠ 0) = True := eq_true (Nat.succ_ne_zero skipped)
      rw [htrue] at hskip
      have hdue : DueFrom h d (skipped ≠ 0) (TimedOut r curTime) r =
          DueFrom h (d + 1) True (TimedOut r curTime) r :=
        funext fun p => propext (dueFrom_skip hr hd hj)
      rw [hdue]
      exact hskip
    | some p =>
      have hslot : reorderIndex p.seq = (reorderIndex (h + d) : Fin n) := (hs.slot _ p hj).symm
      dsimp only
      split_ifs with hwait
      · refine .stop (dueFrom_stop hr hd hj hwait.1 ?_)
        unfold TimedOut
        rw [hslot, hwait.2]
        decide
      · have hok : skipped ≠ 0 → TimedOut r curTime p := by
          intro hne
          unfold TimedOut
          rw [hslot]
          exact Bool.eq_false_iff.2 fun htime => hwait ⟨hne, htime⟩
        have hoff : off h p = d := (hr.off_iff hd hj).2 rfl
        have hnew : ((releaseReorderFrame r (reorderIndex (h + d))).1.headSeqNum + skipped)
            % 4096 = seqInc p.seq := by
          rw [releaseReorderFrame_head, ← seqInc_of_off hoff hhead]
          unfold seqInc
          omega
        have hframes : (releaseReorderFrame r (reorderIndex (h + d))).2 = [p] := by
          unfold releaseReorderFrame
          rw [hj]
        have htime : (releaseReorderFrame r (reorderIndex (h + d))).1.reorderTime =
            r.reorderTime := by
          unfold releaseReorderFrame
          rw [hj]
        have hgone : (releaseReorderFrame r (reorderIndex (h + d))).1.reorderBuf
            (reorderIndex (h + d)) = none := by
          rw [releaseReorderFrame_buf, update_self]
        have hnext := hr.next hd (fun i q hq => (releaseReorderFrame_kept hq).2) hgone
        have hst := stored_release hr hd hj (seqInc p.seq)
        rw [hnew, hframes]
        have hrest := @ih _ _
          ((hs.releaseReorderFrame hn (reorderIndex (h + d))).setHead (seqInc p.seq)) 0
          (hnext.setHead (seqInc p.seq)) (by omega) (by
            dsimp only
            rw [← seqInc_of_off hoff hhead, seqInc]
            omega)
        rw [ne_self_iff_false] at hrest
        refine Releases.cons hr hd hj (dueFrom_release hr hd hj hok hst) ?_ ?_
        · exact fun q hq => (hst q).1 hq.1
        · have hsame : TimedOut { (releaseReorderFrame r (reorderIndex (h + d))).1 with
              headSeqNum := seqInc p.seq } curTime = TimedOut r curTime := by
            unfold TimedOut
            dsimp only
            rw [htime]
          rw [hsame] at hrest
          exact hrest

lemma Remaining.head_slot (hr : Remaining h d r) (hm : MaskedHead r)
    (halign : n ∣ 4096 ∨ h < 4096 ∧ ∀ i p, r.reorderBuf i = some p → h ≤ p.seq)
    (hhead : r.headSeqNum % 4096 = (h + d) % 4096) {p : RxPkt} {i : Fin n}
    (hp : r.reorderBuf i = some p) :
    (reorderIndex r.headSeqNum : Fin n) = reorderIndex (h + d) := by
  rcases halign with hdvd | ⟨hh, hle⟩
  · rw [← reorderIndex_mod (.inr hdvd), hhead, reorderIndex_mod (.inr hdvd)]
  · have hseq : h + off h p = p.seq := add_seqSub_of_le p.seq.isLt (hle i p hp)
    have hlt : h + d < 4096 := by
      have hd := hr.le i p hp
      have hmax := p.seq.isLt
      omega
    rw [← reorderIndex_mod hm, hhead, Nat.mod_eq_of_lt hlt]

lemma releaseReady_releases (hn : n < 65536) (hs : Sound r) {k : ℕ} (hr : Remaining h d r)
    (hm : MaskedHead r)
    (halign : n ∣ 4096 ∨ h < 4096 ∧ ∀ i p, r.reorderBuf i = some p → h ≤ p.seq)
    (hhead : r.headSeqNum % 4096 = (h + d) % 4096) (hk : occupied r.reorderBuf ≤ k) :
    Releases h r (DueFrom h d False (fun _ => False) r) (releaseReady k r) := by
  induction k generalizing d r with
  | zero =>
    refine .stop fun p hp => ?_
    obtain ⟨i, hi⟩ := hp.1
    rw [occupied_eq_zero.1 (Nat.le_zero.1 hk) i] at hi
    contradiction
  | succ k ih =>
    rw [releaseReady]
    cases hj : r.reorderBuf (reorderIndex r.headSeqNum) with
    | none =>
      refine .stop fun q hq => ?_
      obtain ⟨i, hi⟩ := hq.1
      have hd : d < n := (hr.le i q hi).trans_lt (hr.lt i q hi)
      rw [hr.head_slot hm halign hhead hi] at hj
      exact not_dueFrom_empty hr hd hj q hq
    | some p =>
      have hd : d < n := (hr.le _ p hj).trans_lt (hr.lt _ p hj)
      have hclear := occupied_clear hj
      rw [hr.head_slot hm halign hhead hj] at hj hclear ⊢
      have hoff : off h p = d := (hr.off_iff hd hj).2 rfl
      have hframes : (releaseReorderFrame r (reorderIndex (h + d))).2 = [p] := by
        unfold releaseReorderFrame
        rw [hj]
      have hnew : (releaseReorderFrame r (reorderIndex (h + d))).1 =
          { (releaseReorderFrame r (reorderIndex (h + d))).1 with
            headSeqNum := seqInc p.seq } := by
        rw [← seqInc_of_off hoff hhead, ← releaseReorderFrame_head r (reorderIndex (h + d))]
      have hgone : (releaseReorderFrame r (reorderIndex (h + d))).1.reorderBuf
          (reorderIndex (h + d)) = none := by
        rw [releaseReorderFrame_buf, update_self]
      have hst := stored_release hr hd hj (seqInc p.seq)
      have hrest := ih (hs.releaseReorderFrame hn (reorderIndex (h + d)))
        (hr.next hd (fun i q hq => (releaseReorderFrame_kept hq).2) hgone)
        (releaseReorderFrame_masked r _)
        (halign.imp_right fun ha => ⟨ha.1, fun i q hq =>
          ha.2 i q (releaseReorderFrame_kept hq).2⟩)
        (by
          rw [releaseReorderFrame_head, seqInc]
          omega)
        (by
          rw [releaseReorderFrame_buf]
          omega)
      dsimp only
      rw [hframes]
      rw [hnew] at hrest ⊢
      refine Releases.cons hr hd hj (dueFrom_release hr hd hj False.elim hst) ?_ hrest
      exact fun q hq => (hst q).1 hq.1

end

/-! ## The call -/

section

variable {r : TidAmpduRx n} {curTime : ℕ}

lemma Aligned.remaining (ha : Aligned r) (hs : Sound r) (hw : Windowed r) :
    Remaining r.headSeqNum 0 r where
  index i p hp := (hs.slot i p hp).trans (ha.index hp)
  lt := hw
  le _ _ _ := Nat.zero_le _

lemma due_iff_scan (hr : Remaining r.headSeqNum 1 r)
    (hempty : r.reorderBuf (reorderIndex r.headSeqNum) = none) (p : RxPkt) :
    Due r curTime p ↔ DueFrom r.headSeqNum 1 ((1 : ℕ) ≠ 0) (TimedOut r curTime) r p := by
  have hgap : ∀ q, Stored r q → (HoleBefore r q ↔ Gap r.headSeqNum 1 ((1 : ℕ) ≠ 0) r q) := by
    intro q hq
    have hle := hr.le_of_stored hq
    constructor
    · exact fun hhole => ⟨fun _ => one_ne_zero, fun _ => hhole.2⟩
    · intro hgap
      refine ⟨by omega, fun g hg heq => ?_⟩
      have hg1 := hr.le_of_stored hg
      exact hgap.2 (by omega) g hg heq
  unfold Due Reachable DueFrom
  rw [and_iff_left (.inl hempty)]
  refine and_congr_right fun _ => forall_congr' fun q => forall_congr' fun hq => ?_
  rw [hgap q hq]

lemma due_iff_ready (hfull : r.reorderBuf (reorderIndex r.headSeqNum) ≠ none) (p : RxPkt) :
    Due r curTime p ↔ DueFrom r.headSeqNum 0 False (fun _ => False) r p := by
  unfold Due Reachable DueFrom
  rw [or_iff_right hfull]
  constructor
  · exact fun hdue => ⟨hdue.1.1, fun q hq hle hgap => hdue.2 q hq hle ⟨hgap.1, hgap.2 hgap.1⟩⟩
  · intro hdue
    have hnone : ∀ q, Stored r q → off r.headSeqNum q ≤ off r.headSeqNum p → ¬HoleBefore r q :=
      fun q hq hle hhole => hdue.2 q hq hle ⟨hhole.1, fun _ => hhole.2⟩
    exact ⟨⟨hdue.1, fun q hq hle hhole => absurd hhole (hnone q hq hle)⟩, hnone⟩

lemma reorderRelease_releases (hn : n < 65536) (hs : Sound r) (hw : Windowed r)
    (hm : MaskedHead r) (ha : Aligned r) :
    Releases r.headSeqNum r (Due r curTime) (reorderRelease r curTime).2 := by
  have hr := ha.remaining hs hw
  rw [reorderRelease_snd, reorderReleaseLoops]
  by_cases hempty : r.reorderBuf (reorderIndex r.headSeqNum) = none
  · by_cases hstored : r.storedMpduNum = 0
    · rw [if_neg fun hscan => hscan.2 hstored, releaseReady_of_none hempty]
      refine .stop fun p hp => ?_
      obtain ⟨i, hi⟩ := hp.1.1
      rw [occupied_eq_zero.1 (hs.count.symm.trans hstored) i] at hi
      contradiction
    · have hr1 := Remaining.ofAligned hs hw ha hempty
      have hdue : Due r curTime =
          DueFrom r.headSeqNum 1 ((1 : ℕ) ≠ 0) (TimedOut r curTime) r :=
        funext fun p => propext (due_iff_scan hr1 hempty p)
      rw [if_pos ⟨hempty, hstored⟩, hdue]
      exact releaseTimedOut_releases hn hs curTime hr1
        (Nat.sub_add_cancel (Nat.pos_of_ne_zero (NeZero.ne n))) rfl
  · have halign : n ∣ 4096 ∨
        r.headSeqNum < 4096 ∧ ∀ i p, r.reorderBuf i = some p → r.headSeqNum ≤ p.seq := by
      rcases ha with hdvd | hle
      · exact .inl hdvd
      · exact hm.symm.imp_right fun hlt => ⟨hlt, hle⟩
    have hdue : Due r curTime = DueFrom r.headSeqNum 0 False (fun _ => False) r :=
      funext fun p => propext (due_iff_ready hempty p)
    rw [if_neg fun hscan => hempty hscan.1, hdue]
    exact releaseReady_releases hn hs hr hm halign rfl (occupied_le r.reorderBuf)

end

/-- `phl_reorder_release` ends and, from a buffer whose slots follow the sequence
numbers, hands up exactly what is due; a packet that has not timed out stays
behind a hole. -/
theorem reorder_timeout_release (hn : n < 65536) (r : TidAmpduRx n) (hs : Sound r)
    (hw : Windowed r) (hm : MaskedHead r) (ha : Aligned r) (curTime : ℕ) :
    ∃ out, (∀ fuel, n < fuel → phlReorderRelease fuel r curTime = some out) ∧
      Releases r.headSeqNum r (Due r curTime) out.2 ∧ Sound out.2.1 ∧
      ∀ p, Stored r p → HoleBefore r p → ¬TimedOut r curTime p → Stored out.2.1 p := by
  have hrel : Releases r.headSeqNum r (Due r curTime) (reorderRelease r curTime).2 :=
    reorderRelease_releases hn hs hw hm ha
  refine ⟨_, fun fuel hfuel => phlReorderRelease_eq hfuel r curTime, hrel,
    hs.reorderRelease hn curTime, ?_⟩
  rintro p ⟨i, hi⟩ hhole htime
  refine ⟨i, (hrel.slots i p).mpr ⟨hi, fun hmem => htime ?_⟩⟩
  exact ((hrel.mem p).mp hmem).1.2 p ⟨i, hi⟩ le_rfl hhole

end Ring

/-! ## Two packets and a hole -/

/-- A packet of TID 0 with the sequence number `seq`. -/
def mpdu (seq : Fin 4096) : RxPkt where
  id := seq
  seq := seq
  tid := 0
  macid := 0
  addrCamVld := true
  bc := false
  mc := false
  qos := true
  qNull := false
  moreFrag := false
  fragNum := 0
  amsduCut := false
  lastMsdu := true
  length := 100

/-- Packets 0 and 2 have been stored at time 0; the head is `head`. -/
def twoStored (head : Fin 4096) : TidAmpduRx 4 where
  reorderBuf i := if i = 2 then some (mpdu 2) else if i = 0 ∧ head = 0 then some (mpdu 0) else none
  reorderTime _ := 0
  headSeqNum := head
  storedMpduNum := if head = 0 then 2 else 1
  started := true
  removed := false
  sleep := false

variable {head : Fin 4096}

lemma twoStored_some {i : Fin 4} {p : RxPkt}
    (hp : (twoStored head).reorderBuf i = some p) :
    i = 2 ∧ p = mpdu 2 ∨ i = 0 ∧ head = 0 ∧ p = mpdu 0 := by
  unfold twoStored at hp
  dsimp only at hp
  split_ifs at hp with h2 h0
  · exact .inl ⟨h2, (Option.some.inj hp).symm⟩
  · exact .inr ⟨h0.1, h0.2, (Option.some.inj hp).symm⟩

lemma twoStored_inPlace (hhead : head ≤ 1) :
    Sound (twoStored head) ∧ Windowed (twoStored head) := by
  have hval : head = 0 ∨ head = 1 := by omega
  refine ⟨⟨?_, fun i p hp => ?_⟩, fun i p hp => ?_⟩
  · rcases hval with rfl | rfl <;> decide
  · rcases twoStored_some hp with ⟨rfl, rfl⟩ | ⟨rfl, -, rfl⟩ <;> decide
  · rcases twoStored_some hp with ⟨rfl, rfl⟩ | ⟨rfl, rfl, rfl⟩
    · rcases hval with rfl | rfl <;> decide
    · decide

/-- With packet 1 missing at the head, packet 2 is handed up after the timeout. -/
theorem reorder_timeout_release_hole :
    ∃ out, (∀ fuel, 4 < fuel → phlReorderRelease fuel (twoStored 1) 1000 = some out) ∧
      mpdu 2 ∈ out.2.2 := by
  obtain ⟨hs, hw⟩ := @twoStored_inPlace 1 le_rfl
  obtain ⟨out, hout, -⟩ := reorder_timeout_release (by decide) (twoStored 1) hs hw
    (.inl (by decide)) (.inl (by decide)) 1000
  refine ⟨out, hout, ?_⟩
  have h5 := hout 5 (by decide)
  have hframes : (phlReorderRelease 5 (twoStored 1) 1000).map (·.2.2) = some [mpdu 2] := by decide
  rw [h5] at hframes
  have hlist : out.2.2 = [mpdu 2] := Option.some.inj hframes
  rw [hlist]
  exact List.mem_singleton.mpr rfl

/-- With packet 0 at the head, packet 2 stays although it has timed out. -/
theorem timed_out_packet_stays :
    Sound (twoStored 0) ∧ Windowed (twoStored 0) ∧ Aligned (twoStored 0) ∧
      Reachable (twoStored 0) 1000 (mpdu 2) ∧
      (phlReorderRelease 5 (twoStored 0) 1000).map (·.2.2) = some [mpdu 0] := by
  obtain ⟨hs, hw⟩ := @twoStored_inPlace 0 (by decide)
  refine ⟨hs, hw, .inl (by decide), ⟨⟨2, rfl⟩, fun q _ _ _ => ?_⟩, by decide⟩
  have htime : notTimedOut 0 1000 = false := by decide
  exact htime

end Rtl8831.Phl
