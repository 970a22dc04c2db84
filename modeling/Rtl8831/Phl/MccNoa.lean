import Rtl8831.Lib.Periodic
import Rtl8831.Phl.MccDur
import Rtl8831.Phl.TbttSync

/-!
# The notice of absence of an access point

An access point that shares the radio announces when it is away: from a start in
its own timer, for a duration, in every interval.  The slots of a schedule follow
one another from the start of the schedule, in the timer of the reference role.
An announcement is exact if the access point is away at the announced times and at
no others.
-/

namespace Rtl8831.Phl.Mcc

open Lib
open BcnTrack (tu)

/-! ## Schedules -/

inductive Owner
  | ref
  | ano
  | bt
  deriving DecidableEq

/-- An entry of `slot_order`. -/
structure Slot where
  owner : Owner
  slot : ℕ

def slotsDur (slots : List Slot) : ℕ := (slots.map Slot.slot).sum

/-- The orders in which the slots are filled in: without Bluetooth, with its slot at the
end (pattern 1) and with its slot between the two others (pattern 2). -/
inductive Layout
  | refAno
  | refAnoBt
  | refBtAno
  deriving DecidableEq

def Layout.before (l : Layout) (refDur btDur : ℕ) : List Slot :=
  match l with
  | .refAno => [⟨.ref, refDur⟩]
  | .refAnoBt => [⟨.ref, refDur⟩]
  | .refBtAno => [⟨.ref, refDur⟩, ⟨.bt, btDur⟩]

def Layout.after (l : Layout) (btDur : ℕ) : List Slot :=
  match l with
  | .refAno => []
  | .refAnoBt => [⟨.bt, btDur⟩]
  | .refBtAno => []

def Layout.slots (l : Layout) (refDur anoDur btDur : ℕ) : List Slot :=
  l.before refDur btDur ++ ⟨.ano, anoDur⟩ :: l.after btDur

/-- The owner of the slot that time `t` of an interval lies in. -/
def slotAt : List Slot → ℤ → Option Owner
  | [], _ => none
  | s :: slots, t =>
    if t < (s.slot * tu : ℕ) then some s.owner else slotAt slots (t - (s.slot * tu : ℕ))

structure BtInfo where
  btDur : U16
  btSeg0 : U16
  btSeg1 : U16
  btSegNum : ℕ
  addBtRole : Bool

/-- What the announcement reads of `phl_mcc_info`; the start of the schedule is in the
timer of the reference role. -/
structure MccInfo where
  tsfHigh : ℕ
  tsfLow : ℕ
  mccIntvl : U16
  refIsAp : Bool
  refDur : U16
  anoDur : U16
  btInfo : BtInfo
  tsfHigh_lt : tsfHigh < 2 ^ 32
  tsfLow_lt : tsfLow < 2 ^ 32

structure Noa where
  startTH : ℕ
  startTL : ℕ
  dur : ℕ
  interval : ℕ
  cnt : ℕ
  deriving DecidableEq

def MccInfo.mccStart (m : MccInfo) : ℕ := m.tsfHigh <<< 32 ||| m.tsfLow

def noaOf (noaStart : ℕ) (mccIntvl dur : U16) : Noa where
  startTH := noaStart >>> 32
  startTL := noaStart % 2 ^ 32
  dur := (((mccIntvl : ℕ) - (dur : ℤ)) % 2 ^ 16).toNat
  interval := mccIntvl
  cnt := 255

/-- The part of the interval that is taken for the slots behind the other role; `none`
is the error for a number of segments. -/
def BtInfo.tail (bt : BtInfo) : Option ℕ :=
  if bt.addBtRole then
    if bt.btSegNum = 1 then some bt.btSeg0
    else if bt.btSegNum = 2 then some bt.btSeg1
    else none
  else some 0

/-- `_tdmra_calc_noa_2wrole`; `ports` are the timers of the reference role and the other
one, if they could be read.  The start is computed in a `u64`. -/
def tdmraCalcNoa2wrole (m : MccInfo) (ports : Option (ℕ × ℕ)) : Option Noa :=
  if m.refIsAp then
    some (noaOf ((m.mccStart + m.refDur * tu) % 2 ^ 64) m.mccIntvl m.refDur)
  else do
    let (tsfRef, tsfAno) ← ports
    let tail ← m.btInfo.tail
    let noaStart : ℤ := m.mccStart + m.mccIntvl * tu - tail * tu - tsfRef + tsfAno
    pure (noaOf (noaStart % 2 ^ 64).toNat m.mccIntvl m.anoDur)

def tdmraCalcNoa1wrole (m : MccInfo) : Noa :=
  noaOf ((m.mccStart + m.refDur * tu) % 2 ^ 64) m.mccIntvl m.refDur

/-! ## Exactness -/

def Noa.start (n : Noa) : ℕ := n.startTH * 2 ^ 32 + n.startTL

/-- The time from the start of the schedule, when the timer of the AP is `clock`, to the
announced start, by a signed comparison of timers. -/
def Noa.startFrom (n : Noa) (clock : ℤ) : ℤ := Int.bmod (n.start - clock) (2 ^ 64)

/-- The AP is announced to be absent `t` after the start of the schedule. -/
def Noa.Absent (n : Noa) (clock t : ℤ) : Prop :=
  InWindow ((n.interval * tu : ℕ) : ℤ) (n.startFrom clock) (n.dur * tu : ℕ) t

/-- The announced times are those outside the slots of `ap`, in every period. -/
def Noa.Exact (n : Noa) (clock : ℤ) (slots : List Slot) (ap : Owner) : Prop :=
  ∀ t : ℤ, n.Absent clock t ↔ slotAt slots (t % (slotsDur slots * tu : ℕ)) ≠ some ap

@[simp] lemma slotsDur_nil : slotsDur [] = 0 := rfl

@[simp] lemma slotsDur_cons (s : Slot) (slots : List Slot) :
    slotsDur (s :: slots) = s.slot + slotsDur slots := rfl

lemma slotsDur_append (xs ys : List Slot) : slotsDur (xs ++ ys) = slotsDur xs + slotsDur ys := by
  simp [slotsDur]

lemma slotAt_ne {slots : List Slot} {o : Owner} (h : ∀ s ∈ slots, s.owner ≠ o) (t : ℤ) :
    slotAt slots t ≠ some o := by
  induction slots generalizing t with
  | nil => exact Option.some_ne_none o |>.symm
  | cons s slots ih =>
    rw [slotAt]
    split_ifs
    · exact fun heq => h s List.mem_cons_self (Option.some.inj heq)
    · exact ih (fun s' hs' => h s' (List.mem_cons_of_mem s hs')) _

lemma slotAt_eq_some_iff {pre post : List Slot} {s : Slot} (hpre : ∀ x ∈ pre, x.owner ≠ s.owner)
    (hpost : ∀ x ∈ post, x.owner ≠ s.owner) (t : ℤ) (ht : 0 ≤ t) :
    slotAt (pre ++ s :: post) t = some s.owner ↔
      ((slotsDur pre * tu : ℕ) : ℤ) ≤ t ∧ t < (slotsDur pre * tu : ℕ) + (s.slot * tu : ℕ) := by
  induction pre generalizing t with
  | nil =>
    rw [List.nil_append, slotAt]
    split_ifs with h
    · simp only [slotsDur_nil, Nat.zero_mul, true_iff]
      omega
    · have := slotAt_ne hpost (t - (s.slot * tu : ℕ))
      simp only [slotsDur_nil, Nat.zero_mul, this, false_iff]
      omega
  | cons x pre ih =>
    have hx := hpre x List.mem_cons_self
    have hdur : slotsDur (x :: pre) * tu = x.slot * tu + slotsDur pre * tu := by
      rw [slotsDur_cons, Nat.add_mul]
    rw [List.cons_append, slotAt, hdur]
    split_ifs with h
    · simp only [Option.some.injEq, hx, false_iff]
      omega
    · rw [ih (fun y hy => hpre y (List.mem_cons_of_mem x hy)) _ (by omega)]
      omega

lemma noaOf_start {noaStart : ℕ} (mccIntvl dur : U16) :
    (noaOf noaStart mccIntvl dur).start = noaStart := by
  change noaStart >>> 32 * 2 ^ 32 + noaStart % 2 ^ 32 = noaStart
  rw [Nat.shiftRight_eq_div_pow]
  omega

lemma noaOf_dur {noaStart : ℕ} {mccIntvl dur : U16} (h : (dur : ℕ) ≤ mccIntvl) :
    (noaOf noaStart mccIntvl dur).dur = mccIntvl - dur := by
  change (((mccIntvl : ℕ) - (dur : ℤ)) % 2 ^ 16).toNat = (mccIntvl : ℕ) - dur
  omega

section

variable {pre post : List Slot} {s : Slot} {mccIntvl dur : U16} {noaStart : ℕ} {clock e : ℤ}

section

variable (hpre : ∀ x ∈ pre, x.owner ≠ s.owner)
  (hpost : ∀ x ∈ post, x.owner ≠ s.owner)
  (hdur : s.slot = dur)
include hpre hpost hdur

section

variable (hfill : slotsDur (pre ++ s :: post) = mccIntvl)
  (hstart : (noaOf noaStart mccIntvl dur).startFrom clock = e * tu)
include hfill hstart

/-- In a schedule with one slot for the AP, an announcement that starts `e` time units
after the schedule is about two windows. -/
lemma exact_iff_windows
    (hpos : 0 < (mccIntvl : ℕ)) :
    (noaOf noaStart mccIntvl dur).Exact clock (pre ++ s :: post) s.owner ↔ ∀ t : ℤ,
      InWindow ((mccIntvl : ℕ) * tu) (e * tu) ((mccIntvl : ℕ) * tu - (dur : ℕ) * tu) t ↔
        ¬ InWindow ((mccIntvl : ℕ) * tu) (slotsDur pre * tu) ((dur : ℕ) * tu) t := by
  have hsum : slotsDur pre + dur ≤ mccIntvl := by
    rw [slotsDur_append, slotsDur_cons, hdur] at hfill
    omega
  have hle : (dur : ℕ) ≤ mccIntvl := by omega
  have hrest : ((mccIntvl - dur : ℕ) * tu : ℕ) = ((mccIntvl : ℕ) * tu - (dur : ℕ) * tu : ℤ) := by
    rw [Nat.sub_mul, Int.ofNat_sub (Nat.mul_le_mul_right tu hle)]
    push_cast
    rfl
  refine forall_congr' fun t => ?_
  have hP : (0 : ℤ) < (mccIntvl : ℕ) * tu := by
    exact_mod_cast Nat.mul_pos hpos (by decide)
  have hslot : slotAt (pre ++ s :: post) (t % ((mccIntvl : ℕ) * tu)) ≠ some s.owner ↔
      ¬ InWindow ((mccIntvl : ℕ) * tu) (slotsDur pre * tu) ((dur : ℕ) * tu) t := by
    rw [not_iff_not, slotAt_eq_some_iff hpre hpost _ (Int.emod_nonneg t hP.ne'), hdur]
    push_cast
    refine (inWindow_iff ?_ ?_ ?_ hP).symm
    · exact_mod_cast Nat.zero_le (slotsDur pre * tu)
    · exact_mod_cast Nat.zero_le (dur * tu)
    · exact_mod_cast (Nat.add_mul _ _ tu).symm.trans_le (Nat.mul_le_mul_right tu hsum)
  rw [Noa.Absent, hstart, noaOf_dur hle, hrest, hfill]
  push_cast
  rw [hslot]
  rfl

lemma noaOf_exact_of_end
    (hpos : 0 < (mccIntvl : ℕ)) (he : e = slotsDur pre + (dur : ℕ)) :
    (noaOf noaStart mccIntvl dur).Exact clock (pre ++ s :: post) s.owner := by
  have hle : (dur : ℕ) ≤ mccIntvl := by
    rw [slotsDur_append, slotsDur_cons, hdur] at hfill
    omega
  rw [exact_iff_windows hpre hpost hdur hfill hstart hpos]
  apply window_compl_of_dvd
  · exact_mod_cast Nat.mul_le_mul_right tu hle
  · exact_mod_cast Nat.mul_pos hpos (by decide)
  · rw [he, Int.add_mul, Int.sub_self]
    exact Int.dvd_zero _

lemma noaOf_exact_iff
    (hpos : 0 < (dur : ℕ)) (hlt : (dur : ℕ) < mccIntvl) :
    (noaOf noaStart mccIntvl dur).Exact clock (pre ++ s :: post) s.owner ↔
      ((mccIntvl : ℕ) : ℤ) ∣ e - (slotsDur pre + (dur : ℕ)) := by
  have htu : (tu : ℤ) ≠ 0 := by decide
  rw [exact_iff_windows hpre hpost hdur hfill hstart (by omega), window_compl_iff,
    ← Int.add_mul, ← Int.sub_mul, Int.mul_dvd_mul_iff_right htu]
  · exact_mod_cast Nat.mul_pos hpos (by decide)
  · exact_mod_cast Nat.mul_lt_mul_of_pos_right hlt (by decide)

end

end

end

/-! ## Two roles -/

structure TwoRoleSchedule where
  info : MccInfo
  layout : Layout
  ref_pos : 0 < (info.refDur : ℕ)
  ano_pos : 0 < (info.anoDur : ℕ)
  fill : slotsDur (layout.slots info.refDur info.anoDur info.btInfo.btDur) = info.mccIntvl

namespace TwoRoleSchedule

variable (s : TwoRoleSchedule)

def slots : List Slot :=
  s.layout.slots s.info.refDur s.info.anoDur s.info.btInfo.btDur

def ap : Owner := if s.info.refIsAp then .ref else .ano

/-- The timer of the AP at the start of the schedule; the timers of the two roles keep the
difference that was read. -/
def apClock (ports : Option (ℕ × ℕ)) : ℤ :=
  if s.info.refIsAp then s.info.mccStart
  else s.info.mccStart - (ports.map fun p => (p.1 : ℤ) - p.2).getD 0

def NoaExact (ports : Option (ℕ × ℕ)) : Prop :=
  ∀ noa ∈ tdmraCalcNoa2wrole s.info ports, noa.Exact (s.apClock ports) s.slots s.ap

lemma ano_ne (l : Layout) (refDur btDur : ℕ) :
    (∀ x ∈ l.before refDur btDur, x.owner ≠ .ano) ∧ ∀ x ∈ l.after btDur, x.owner ≠ .ano := by
  cases l <;> simp [Layout.before, Layout.after]

lemma slots_ref : ∃ post : List Slot, (∀ x ∈ post, x.owner ≠ .ref) ∧
    s.slots = [] ++ ⟨.ref, s.info.refDur⟩ :: post := by
  unfold slots Layout.slots
  cases s.layout
  · exact ⟨[⟨.ano, _⟩], by simp, rfl⟩
  · exact ⟨[⟨.ano, _⟩, ⟨.bt, _⟩], by simp, rfl⟩
  · exact ⟨[⟨.bt, _⟩, ⟨.ano, _⟩], by simp, rfl⟩

lemma fill_eq : slotsDur (s.layout.before s.info.refDur s.info.btInfo.btDur) + s.info.anoDur +
    slotsDur (s.layout.after s.info.btInfo.btDur) = s.info.mccIntvl := by
  rw [← s.fill, Layout.slots, slotsDur_append, slotsDur_cons, Nat.add_assoc]

lemma refDur_le_before :
    s.info.refDur ≤ slotsDur (s.layout.before s.info.refDur s.info.btInfo.btDur) := by
  cases s.layout <;> simp [Layout.before]

end TwoRoleSchedule

lemma startFrom_eq {noaStart : ℕ} {mccIntvl dur : U16} {clock e : ℤ}
    (hstart : (noaStart : ℤ) = (clock + e) % 2 ^ 64) (hlo : -(2 ^ 63) ≤ e) (hhi : e < 2 ^ 63) :
    (noaOf noaStart mccIntvl dur).startFrom clock = e := by
  have hmod : ((clock + e) % 2 ^ 64 - clock).bmod (2 ^ 64) = (clock + e - clock).bmod (2 ^ 64) :=
    Int.emod_sub_bmod (clock + e) (2 ^ 64)
  rw [Noa.startFrom, noaOf_start, hstart, hmod, add_sub_cancel_left]
  apply Int.bmod_eq_of_le
  · omega
  · omega

lemma mul_tu_lt (d : U16) : (d : ℕ) * tu < 2 ^ 26 :=
  Nat.mul_lt_mul_of_pos_right d.isLt (by decide)

namespace TwoRoleSchedule

variable (s : TwoRoleSchedule)

lemma noaExact_of_refIsAp (hap : s.info.refIsAp = true) (ports : Option (ℕ × ℕ)) :
    s.NoaExact ports := by
  obtain ⟨post, hpost, hslots⟩ := s.slots_ref
  have hlt : (s.info.refDur : ℕ) < s.info.mccIntvl := by
    have := s.fill_eq
    have := s.refDur_le_before
    have := s.ano_pos
    omega
  intro noa hnoa
  rw [tdmraCalcNoa2wrole, if_pos hap] at hnoa
  obtain rfl := Option.some.inj hnoa
  have hclock : s.apClock ports = s.info.mccStart := if_pos hap
  have hap' : s.ap = .ref := if_pos hap
  have htu := mul_tu_lt s.info.refDur
  rw [hap', hslots]
  refine noaOf_exact_of_end (e := (s.info.refDur : ℕ)) (s := ⟨.ref, s.info.refDur⟩)
    (by simp) hpost rfl ?_ ?_ (by omega) (by simp)
  · rw [← hslots]
    exact s.fill
  · apply startFrom_eq
    · rw [hclock]
      push_cast
      rfl
    · omega
    · exact_mod_cast htu.trans (by decide)

lemma mem_calc_iff {m : MccInfo} (hap : m.refIsAp = false) (tsfRef tsfAno : ℕ) (noa : Noa) :
    noa ∈ tdmraCalcNoa2wrole m (some (tsfRef, tsfAno)) ↔ ∃ tail ∈ m.btInfo.tail,
      noaOf (((m.mccStart + m.mccIntvl * tu - tail * tu - tsfRef + tsfAno : ℤ)) % 2 ^ 64).toNat
        m.mccIntvl m.anoDur = noa := by
  rw [tdmraCalcNoa2wrole, hap, if_neg Bool.false_ne_true]
  cases m.btInfo.tail <;> simp

lemma tail_lt {bt : BtInfo} {tail : ℕ} (h : tail ∈ bt.tail) : tail < 2 ^ 16 := by
  unfold BtInfo.tail at h
  split_ifs at h
  · obtain rfl := Option.some.inj h
    exact bt.btSeg0.isLt
  · obtain rfl := Option.some.inj h
    exact bt.btSeg1.isLt
  · exact absurd h (Option.not_mem_none tail)
  · obtain rfl := Option.some.inj h
    decide

lemma noaOf_exact_iff_tail (hap : s.info.refIsAp = false) {tsfRef tsfAno tail : ℕ}
    (ht : tail < 2 ^ 16) :
    (noaOf (((s.info.mccStart + s.info.mccIntvl * tu - tail * tu - tsfRef + tsfAno : ℤ)) %
        2 ^ 64).toNat s.info.mccIntvl s.info.anoDur).Exact
      (s.apClock (some (tsfRef, tsfAno))) s.slots s.ap ↔
      tail ≡ slotsDur (s.layout.after s.info.btInfo.btDur) [MOD s.info.mccIntvl] := by
  have hclock : s.apClock (some (tsfRef, tsfAno)) = s.info.mccStart - ((tsfRef : ℤ) - tsfAno) := by
    rw [apClock, hap, if_neg Bool.false_ne_true]
    rfl
  have hap' : s.ap = .ano := by
    rw [ap, hap, if_neg Bool.false_ne_true]
  have hfill := s.fill_eq
  have hlt : (s.info.anoDur : ℕ) < s.info.mccIntvl := by
    have := s.refDur_le_before
    have := s.ref_pos
    omega
  have hne := ano_ne s.layout s.info.refDur s.info.btInfo.btDur
  rw [hap', slots, Layout.slots,
    noaOf_exact_iff (e := s.info.mccIntvl - tail) (s := ⟨.ano, s.info.anoDur⟩) hne.1 hne.2 rfl
      s.fill ?_ s.ano_pos hlt, Nat.modEq_iff_dvd]
  · have hrest : ((s.info.mccIntvl : ℕ) : ℤ) - tail -
        (slotsDur (s.layout.before s.info.refDur s.info.btInfo.btDur) + (s.info.anoDur : ℕ)) =
        slotsDur (s.layout.after s.info.btInfo.btDur) - tail := by
      omega
    rw [hrest]
  · have hmin := mul_tu_lt s.info.mccIntvl
    have hmax : tail * tu < 2 ^ 26 := Nat.mul_lt_mul_of_pos_right ht (by decide)
    have he : (((s.info.mccIntvl : ℕ) : ℤ) - tail) * tu =
        (s.info.mccIntvl * tu : ℕ) - (tail * tu : ℕ) := by
      push_cast
      ring
    apply startFrom_eq
    · rw [hclock, Int.toNat_of_nonneg (Int.emod_nonneg _ (by decide))]
      ring_nf
    · omega
    · omega

lemma noaExact_iff_tail (hap : s.info.refIsAp = false) (tsfRef tsfAno : ℕ) :
    s.NoaExact (some (tsfRef, tsfAno)) ↔ ∀ tail ∈ s.info.btInfo.tail,
      tail ≡ slotsDur (s.layout.after s.info.btInfo.btDur) [MOD s.info.mccIntvl] := by
  simp only [NoaExact, mem_calc_iff hap]
  constructor
  · intro h tail htail
    exact (s.noaOf_exact_iff_tail hap (tail_lt htail)).1 (h _ ⟨tail, htail, rfl⟩)
  · rintro h noa ⟨tail, htail, rfl⟩
    exact (s.noaOf_exact_iff_tail hap (tail_lt htail)).2 (h tail htail)

lemma noaExact_iff (ports : Option (ℕ × ℕ)) :
    s.NoaExact ports ↔ s.info.refIsAp = true ∨ ports = none ∨ ∀ tail ∈ s.info.btInfo.tail,
      tail ≡ slotsDur (s.layout.after s.info.btInfo.btDur) [MOD s.info.mccIntvl] := by
  cases hap : s.info.refIsAp with
  | true => exact iff_of_true (s.noaExact_of_refIsAp hap ports) (Or.inl rfl)
  | false =>
    rcases ports with _ | ⟨tsfRef, tsfAno⟩
    · refine iff_of_true ?_ (Or.inr (Or.inl rfl))
      intro noa hnoa
      rw [tdmraCalcNoa2wrole, hap] at hnoa
      exact absurd hnoa (Option.not_mem_none noa)
    · rw [s.noaExact_iff_tail hap]
      simp

end TwoRoleSchedule

/-! ## One role and Bluetooth -/

structure OneRoleSchedule where
  info : MccInfo
  intvl_pos : 0 < (info.mccIntvl : ℕ)
  fill : (info.refDur : ℕ) + info.btInfo.btDur = info.mccIntvl

namespace OneRoleSchedule

variable (s : OneRoleSchedule)

def slots : List Slot := [⟨.ref, s.info.refDur⟩, ⟨.bt, s.info.btInfo.btDur⟩]

lemma noa_exact : (tdmraCalcNoa1wrole s.info).Exact s.info.mccStart s.slots .ref := by
  have htu := mul_tu_lt s.info.refDur
  refine @noaOf_exact_of_end [] [⟨.bt, s.info.btInfo.btDur⟩] ⟨.ref, s.info.refDur⟩ _ _ _ _
    (s.info.refDur : ℕ) (by simp) (by simp) rfl ?_ ?_ s.intvl_pos (by simp)
  · simpa using s.fill
  · apply startFrom_eq
    · push_cast
      rfl
    · omega
    · exact_mod_cast htu.trans (by decide)

end OneRoleSchedule

/-! ## The decisions and the announcement -/

/-- When the decisions are free of faults and fit the roles, mode by mode, and when the
announcement is exact. -/
theorem durations_and_noa (durI1 durI2 ap client : DurInfo) (role1 role2 role2g roleNon2g : Role)
    (coexMode : CoexMode) (mccIntvl btDur : U16) (s : TwoRoleSchedule) (ports : Option (ℕ × ℕ))
    (t : OneRoleSchedule) :
    ((mccSetDurFor2ClientsMode durI1 durI2 mccIntvl).Meets
        (ClientSlots durI1 durI2 mccIntvl) ↔ ClientsFit durI1 durI2 mccIntvl) ∧
    ((mccSetDurForApClientMode ap.dur client.dur mccIntvl).Meets
        (ApClientSlots ap client mccIntvl) ↔ ApClientFit ap client mccIntvl) ∧
    ((mccAdjustDurFor2gMcc2roleBt role1 role2 mccIntvl btDur).Meets
        (fun r => ∀ a ∈ r, BtSlots role1 role2 mccIntvl a) ↔
      (mccIntvl : ℕ) = 0 ∨ AdjustFit role1 role2 mccIntvl btDur) ∧
    ((mccAdjustDurFor2BandMcc2roleBt coexMode role2g roleNon2g mccIntvl btDur).Meets
        (BandSlots role2g roleNon2g mccIntvl) ↔
      if Keeps2Band coexMode roleNon2g btDur then
        BandSlots role2g roleNon2g mccIntvl (role2g.durInfo.dur, roleNon2g.durInfo.dur)
      else BandFit role2g roleNon2g mccIntvl btDur) ∧
    (s.NoaExact ports ↔
      s.info.refIsAp = true ∨ ports = none ∨ ∀ tail ∈ s.info.btInfo.tail,
        tail ≡ slotsDur (s.layout.after s.info.btInfo.btDur) [MOD s.info.mccIntvl]) ∧
    (tdmraCalcNoa1wrole t.info).Exact t.info.mccStart t.slots .ref :=
  ⟨mccSetDurFor2ClientsMode_meets_iff .., mccSetDurForApClientMode_meets_iff ..,
    mccAdjustDurFor2gMcc2roleBt_meets_iff .., mccAdjustDurFor2BandMcc2roleBt_meets_iff ..,
    s.noaExact_iff ports, t.noa_exact⟩

/-- A client and an AP that share an interval of 100 with Bluetooth between their slots. -/
def btBetween : TwoRoleSchedule where
  info :=
    { tsfHigh := 0, tsfLow := 0, mccIntvl := 100, refIsAp := false, refDur := 40, anoDur := 40
      btInfo := ⟨20, 20, 0, 1, true⟩
      tsfHigh_lt := (by decide : 0 < 4294967296)
      tsfLow_lt := (by decide : 0 < 4294967296) }
  layout := .refBtAno
  ref_pos := by decide
  ano_pos := by decide
  fill := by decide

/-- Two clients that ask for 40 of an interval of 30 get 40 and `30 - 40` in 16 bits, and
the AP whose slot comes behind Bluetooth is announced to be away from the middle of it. -/
theorem asked_over_interval :
    (mccSetDurFor2ClientsMode ⟨40, false, 0, 0, 0⟩ ⟨40, false, 0, 0, 0⟩ 30 =
      ⟨some (40, 65526), false⟩) ∧
    ¬ (mccSetDurFor2ClientsMode ⟨40, false, 0, 0, 0⟩ ⟨40, false, 0, 0, 0⟩ 30).Meets
      (ClientSlots ⟨40, false, 0, 0, 0⟩ ⟨40, false, 0, 0, 0⟩ 30) ∧
    ¬ btBetween.NoaExact (some (0, 0)) := by
  refine ⟨by decide, ?_, ?_⟩
  · rintro ⟨hfits, -⟩
    exact absurd hfits (by decide)
  · rw [btBetween.noaExact_iff]
    decide

end Rtl8831.Phl.Mcc
