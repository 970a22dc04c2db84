import Rtl8831.Phl.BcnTrack
import Rtl8831.Phl.StaPool

/-!
# Synchronisation of beacon times

The beacons of a target role are placed `sync_ofst` time units behind those of a
source role, by a difference between the two timers.  The source's last beacon
time is computed from its timer and the offset that was learned; the instant to
be matched is kept in a `u64`, which wraps while the source's timer is young.
-/

namespace Rtl8831.Phl

namespace TbttSync

open BcnTrack (tu)

/-- What the functions read of a role and its link: the type, the interval of
its own beacons, and of its self station the interval and the offset (in
microseconds) of the beacons that it hears. -/
structure RoleLink where
  type : StaPool.RoleType
  bcnCmnInterval : ℕ
  asocCapInterval : ℕ
  offset : ℕ
  asocCapInterval_lt : asocCapInterval < 2 ^ 16
  offset_lt : offset < 2 ^ 32

def isApCategory (t : StaPool.RoleType) : Bool := t = .ap ∨ t = .p2pGo ∨ t = .vap

def isClientCategory (t : StaPool.RoleType) : Bool := t = .station ∨ t = .p2pGc ∨ t = .tdls

def phlRoleGetBcnIntvl (r : RoleLink) : ℕ :=
  if isApCategory r.type then r.bcnCmnInterval % 2 ^ 16
  else if isClientCategory r.type then r.asocCapInterval
  else 0

/-- `phl_calc_offset_from_tbtt`; `none` is its failure. -/
def phlCalcOffsetFromTbtt (r : RoleLink) (curT : ℕ) : Option ℕ :=
  let bOfst := r.offset / tu
  let bIntvl := phlRoleGetBcnIntvl r
  if bIntvl = 0 then none
  else
    let mod := curT % (bIntvl * tu) / tu % 2 ^ 32
    some (if mod < bOfst then (mod + (bIntvl + 2 ^ 64 - bOfst) % 2 ^ 64) % 2 ^ 64 % 2 ^ 16
      else (mod - bOfst) % 2 ^ 16)

/-- `rtw_phl_tbtt_sync`: `*diff_t`, from the two words of the source's timer, if
they could be read, and the answer of `rtw_hal_tsf_sync`. -/
def rtwPhlTbttSync (src tgt : RoleLink) (syncOfst : ℕ) (getTsf : Option (ℕ × ℕ)) (syncOk : Bool) :
    Option ℕ :=
  match getTsf with
  | none => none
  | some (tsfH, tsfL) =>
    let bcnIntvl := phlRoleGetBcnIntvl tgt
    if bcnIntvl = 0 then none
    else
      let tsf := tsfH <<< 32 ||| tsfL
      let ofst := (phlCalcOffsetFromTbtt src tsf).getD 0
      let tgtTsf := (tsf + syncOfst * tu + (2 ^ 64 - ofst * tu)) % 2 ^ 64
      let diffTsf := (bcnIntvl * tu - tgtTsf % (bcnIntvl * tu)) / tu
      if syncOk then some (diffTsf % 2 ^ 16) else none

/-- Beacons are due `b` time units into every interval; `t` is the last such time
up to `tsf`, which may lie before the start of the timer. -/
structure IsLatestTbtt (intvl b : ℕ) (tsf t : ℤ) : Prop where
  le : t ≤ tsf
  lt : tsf < t + intvl * tu
  grid : ∃ k : ℤ, t = (b + k * intvl) * tu

variable (r : RoleLink)

lemma phlRoleGetBcnIntvl_lt : phlRoleGetBcnIntvl r < 2 ^ 16 := by
  unfold phlRoleGetBcnIntvl
  split_ifs
  · exact Nat.mod_lt _ (by decide)
  · exact r.asocCapInterval_lt
  · decide

/-- How many time units `s` lies behind the last beacon time. -/
def elapsed (intvl b s : ℕ) : ℤ := ((s : ℤ) - b) % intvl

lemma elapsed_eq {intvl b s ofst : ℕ} (hlt : ofst < intvl) {k : ℤ}
    (hk : (s : ℤ) = b + k * intvl + ofst) : elapsed intvl b s = ofst := by
  have hs : (s : ℤ) - b = ofst + k * intvl := by rw [hk]; ring
  rw [elapsed, hs, Int.add_mul_emod_self_right]
  exact Int.emod_eq_of_lt (Int.natCast_nonneg _) (Int.ofNat_lt.2 hlt)

lemma phlCalcOffsetFromTbtt_spec (tsf : ℕ)
    (hoff : r.offset < phlRoleGetBcnIntvl r * tu) :
    ∃ ofst, phlCalcOffsetFromTbtt r tsf = some ofst ∧ ofst < phlRoleGetBcnIntvl r ∧
      ∃ k : ℤ, ((tsf / tu : ℕ) : ℤ) = (r.offset / tu : ℕ) + k * phlRoleGetBcnIntvl r + ofst := by
  have hlt := phlRoleGetBcnIntvl_lt r
  unfold phlCalcOffsetFromTbtt
  generalize phlRoleGetBcnIntvl r = intvl at hoff hlt ⊢
  have hb : r.offset / tu < intvl := Nat.div_lt_of_lt_mul (by rwa [Nat.mul_comm])
  generalize r.offset / tu = b at hb ⊢
  have hmod : tsf % (intvl * tu) / tu % 2 ^ 32 = tsf / tu % intvl := by
    have hmlt : tsf / tu % intvl < intvl := Nat.mod_lt _ (Nat.zero_lt_of_lt hb)
    rw [Nat.mod_mul_left_div_self, Nat.mod_eq_of_lt (by omega)]
  have hdiv := Nat.div_add_mod' (tsf / tu) intvl
  have ha : tsf / tu % intvl < intvl := Nat.mod_lt _ (Nat.zero_lt_of_lt hb)
  dsimp only
  rw [if_neg (Nat.ne_zero_of_lt hb), hmod]
  generalize tsf / tu % intvl = a at ha hdiv ⊢
  generalize tsf / tu / intvl = q at hdiv
  refine ⟨_, rfl, ?_⟩
  split_ifs with hab
  · -- the last beacon time is in the interval before
    have hval : (a + (intvl + 2 ^ 64 - b) % 2 ^ 64) % 2 ^ 64 % 2 ^ 16 = a + (intvl - b) := by
      omega
    rw [hval]
    refine ⟨by omega, (q : ℤ) - 1, ?_⟩
    rw [← hdiv]
    push_cast [hb.le]
    ring
  · have hval : (a - b) % 2 ^ 16 = a - b := Nat.mod_eq_of_lt (by omega)
    rw [hval]
    refine ⟨by omega, q, ?_⟩
    rw [← hdiv]
    push_cast [Nat.le_of_not_lt hab]
    ring

def lost (tsf : ℕ) : ℤ := if tsf % tu = 0 then 0 else 1

lemma exact_offset_lt {m x : ℕ} (hm : 0 < m) (hx : x < tu) :
    ((m * tu - x) / tu : ℕ) = (m : ℤ) - if x = 0 then 0 else 1 := by
  unfold tu at *
  split_ifs with h0
  · rw [h0, Nat.sub_zero, Nat.mul_div_cancel _ (by decide), sub_zero]
  · omega

/-- The difference brings the instant `u` time units (of which `x` microseconds
are left over) to a multiple of the interval. -/
lemma diff_spec {intvl u x : ℕ} (hintvl : intvl ≠ 0) (hx : x < tu) :
    (((intvl * tu - (u * tu + x) % (intvl * tu)) / tu : ℕ) : ℤ) =
      intvl * (1 + (u / intvl : ℕ)) - u - (if x = 0 then 0 else 1) := by
  have hmod : (u * tu + x) % (intvl * tu) = u % intvl * tu + x := by
    have hdiv : (u * tu + x) / tu = u := by
      unfold tu at *
      omega
    have hrest : (u * tu + x) % tu = x := by
      unfold tu at *
      omega
    rw [Nat.mul_comm intvl tu, Nat.mod_mul, hdiv, hrest, Nat.mul_comm, Nat.add_comm]
  have hlt : u % intvl < intvl := Nat.mod_lt _ (Nat.pos_of_ne_zero hintvl)
  have hsub : intvl * tu - (u * tu + x) % (intvl * tu) = (intvl - u % intvl) * tu - x := by
    rw [hmod, Nat.sub_mul]
    omega
  have hu : (u : ℤ) = u % intvl + intvl * (u / intvl) := (Int.emod_add_mul_ediv u intvl).symm
  rw [hsub, exact_offset_lt (Nat.sub_pos_of_lt hlt) hx, Nat.cast_sub hlt.le]
  push_cast
  linarith

lemma tgtTsf_eq {tsf sync ofst : ℕ} (hofst : ofst < 2 ^ 16) :
    ∃ u : ℕ, (tsf + sync * tu + (2 ^ 64 - ofst * tu)) % 2 ^ 64 = u * tu + tsf % tu ∧
      (u : ℤ) = (tsf / tu : ℕ) + sync - ofst -
        (tsf + (sync - ofst) * tu : ℤ) / 2 ^ 64 * 2 ^ 54 := by
  unfold tu
  refine ⟨(tsf + sync * 1024 + (2 ^ 64 - ofst * 1024)) % 2 ^ 64 / 1024, by omega, ?_⟩
  push_cast
  omega

/-- The difference of the timers that `rtw_phl_tbtt_sync` computes is right: the
source's last beacon time is found, and `sync_ofst` time units behind it the
target's timer is at a multiple of its interval, to within one time unit. -/
def SyncRight (src tgt : RoleLink) (sync tsfH tsfL : ℕ) : Prop :=
  ∃ ofst t, phlCalcOffsetFromTbtt src (tsfH * 2 ^ 32 + tsfL) = some ofst ∧
    ofst < phlRoleGetBcnIntvl src ∧
    IsLatestTbtt (phlRoleGetBcnIntvl src) (src.offset / tu) (tsfH * 2 ^ 32 + tsfL : ℕ) t ∧
    ofst = (((tsfH * 2 ^ 32 + tsfL : ℕ) : ℤ) - t) / tu ∧
    ∃ diff, rtwPhlTbttSync src tgt sync (some (tsfH, tsfL)) true = some diff ∧
      ∃ m : ℤ, |t + sync * tu + diff * tu - m * (phlRoleGetBcnIntvl tgt * tu)| ≤ tu

/-- The instant to be matched does not leave the range of a `u64`, or `2 ^ 64`
microseconds are a multiple of the target's interval, to within the rounding. -/
def WrapHarmless (src tgt : RoleLink) (sync tsf : ℕ) : Prop :=
  let ofst := elapsed (phlRoleGetBcnIntvl src) (src.offset / tu) (tsf / tu)
  ∃ m : ℤ, |(tsf + (sync - ofst) * tu) / 2 ^ 64 * 2 ^ 54 - lost tsf -
    m * phlRoleGetBcnIntvl tgt| ≤ 1

lemma wrapHarmless_of_range {src tgt : RoleLink} {sync tsf : ℕ}
    (hlo : elapsed (phlRoleGetBcnIntvl src) (src.offset / tu) (tsf / tu) * tu ≤ tsf + sync * tu)
    (hhi : tsf + sync * tu <
      2 ^ 64 + elapsed (phlRoleGetBcnIntvl src) (src.offset / tu) (tsf / tu) * tu) :
    WrapHarmless src tgt sync tsf := by
  refine ⟨0, ?_⟩
  have hzero : (tsf + (sync - elapsed (phlRoleGetBcnIntvl src) (src.offset / tu) (tsf / tu)) * tu)
      / 2 ^ 64 = 0 := by
    apply Int.ediv_eq_zero_of_lt <;> linarith
  rw [hzero, zero_mul, zero_mul, sub_zero, zero_sub, abs_neg]
  unfold lost
  split_ifs <;> decide

lemma abs_mul_tu_le (a : ℤ) : |a * tu| ≤ tu ↔ |a| ≤ 1 := by
  have htu : (0 : ℤ) < tu := by decide
  rw [abs_mul, abs_of_pos htu]
  exact mul_le_iff_le_one_left htu

lemma eq_of_elapsed {tsf ofst : ℕ} {t c : ℤ} (ht : t = c * tu) (hofst : ofst = ((tsf : ℤ) - t) / tu) :
    c = (tsf / tu : ℕ) - ofst := by
  unfold tu at *
  omega

theorem tbtt_sync_right_iff (src tgt : RoleLink) (sync tsfH tsfL : ℕ)
    (hl : tsfL < 2 ^ 32) (hoff : src.offset < phlRoleGetBcnIntvl src * tu)
    (htgt : phlRoleGetBcnIntvl tgt ≠ 0) :
    SyncRight src tgt sync tsfH tsfL ↔ WrapHarmless src tgt sync (tsfH * 2 ^ 32 + tsfL) := by
  have hword : tsfH <<< 32 ||| tsfL = tsfH * 2 ^ 32 + tsfL := by
    rw [← Nat.shiftLeft_add_eq_or_of_lt hl, Nat.shiftLeft_eq]
  unfold SyncRight WrapHarmless
  generalize tsfH * 2 ^ 32 + tsfL = tsf at hword ⊢
  obtain ⟨ofst, hcalc, hlt, k, hk⟩ := phlCalcOffsetFromTbtt_spec src tsf hoff
  have hofst := hlt.trans (phlRoleGetBcnIntvl_lt src)
  obtain ⟨u, hu, huval⟩ := @tgtTsf_eq tsf sync ofst hofst
  have hx : tsf % tu < tu := Nat.mod_lt _ (by decide)
  have hdiff := diff_spec (u := u) htgt hx
  have htsf : (tsf : ℤ) = (tsf / tu : ℕ) * tu + (tsf % tu : ℕ) := by
    rw [← Nat.cast_mul, ← Nat.cast_add, Nat.div_add_mod']
  have hlost : lost tsf = if tsf % tu = 0 then 0 else 1 := rfl
  rw [← hlost] at hdiff
  rw [elapsed_eq hlt hk]
  generalize hD : (phlRoleGetBcnIntvl tgt * tu - (u * tu + tsf % tu) %
    (phlRoleGetBcnIntvl tgt * tu)) / tu = diff at hdiff
  have hsync : rtwPhlTbttSync src tgt sync (some (tsfH, tsfL)) true = some diff := by
    have hle : diff ≤ phlRoleGetBcnIntvl tgt := by
      rw [← hD]
      apply Nat.div_le_of_le_mul
      rw [Nat.mul_comm tu]
      exact Nat.sub_le _ _
    have hdiff16 : diff % 2 ^ 16 = diff :=
      Nat.mod_eq_of_lt (hle.trans_lt (phlRoleGetBcnIntvl_lt tgt))
    unfold rtwPhlTbttSync
    dsimp only
    rw [if_neg htgt, if_pos rfl, hword, hcalc, Option.getD_some, hu, hD, hdiff16]
  -- what is left over, in time units
  have hsum : ∀ m : ℤ, ((tsf / tu : ℕ) - ofst : ℤ) * tu + sync * tu + diff * tu -
      m * (phlRoleGetBcnIntvl tgt * tu) =
        ((tsf + (sync - ofst) * tu : ℤ) / 2 ^ 64 * 2 ^ 54 - lost tsf -
          (m - 1 - (u / phlRoleGetBcnIntvl tgt : ℕ)) * phlRoleGetBcnIntvl tgt) * tu := by
    intro m
    rw [hdiff]
    linear_combination (-(tu : ℤ)) * huval
  constructor
  · rintro ⟨ofst', t, hofst', -, hlatest, helapsed, diff', hdiff', m, hm⟩
    obtain rfl := Option.some.inj (hcalc.symm.trans hofst')
    obtain rfl := Option.some.inj (hsync.symm.trans hdiff')
    obtain ⟨k', hk'⟩ := hlatest.grid
    rw [hk', eq_of_elapsed hk' helapsed, hsum m, abs_mul_tu_le] at hm
    exact ⟨_, hm⟩
  · rintro ⟨m, hm⟩
    refine ⟨ofst, ((tsf / tu : ℕ) - ofst : ℤ) * tu, hcalc, hlt, ⟨?_, ?_, k, ?_⟩, ?_, diff, hsync,
      m + 1 + (u / phlRoleGetBcnIntvl tgt : ℕ), ?_⟩
    · rw [htsf]
      unfold tu
      omega
    · rw [htsf]
      have hlt' : (ofst : ℤ) + 1 ≤ phlRoleGetBcnIntvl src := by exact_mod_cast hlt
      have htu : (0 : ℤ) ≤ tu := by decide
      have hmul := mul_le_mul_of_nonneg_right hlt' htu
      have hx' : ((tsf % tu : ℕ) : ℤ) < tu := by exact_mod_cast hx
      linarith
    · rw [hk]
      ring
    · rw [htsf]
      unfold tu at *
      omega
    · rw [hsum, abs_mul_tu_le]
      have hm' : m + 1 + ((u / phlRoleGetBcnIntvl tgt : ℕ) : ℤ) - 1 -
          (u / phlRoleGetBcnIntvl tgt : ℕ) = m := by ring
      rw [hm']
      exact hm

def client (offset : ℕ) (hoffset : offset < 2 ^ 32) : RoleLink where
  type := .station
  bcnCmnInterval := 0
  asocCapInterval := 100
  offset := offset
  asocCapInterval_lt := by decide
  offset_lt := hoffset

def accessPoint : RoleLink where
  type := .ap
  bcnCmnInterval := 100
  asocCapInterval := 0
  offset := 0
  asocCapInterval_lt := by decide
  offset_lt := by decide

theorem tbtt_sync_right_iff_later :
    SyncRight (client (50 * tu) (by decide)) accessPoint 50 0 1000000 := by
  apply (tbtt_sync_right_iff _ _ 50 0 1000000 (by decide) (by decide) (by decide)).mpr
  exact wrapHarmless_of_range (by decide) (by decide)

/-- While the source's timer is before its first beacon time, the target is
placed 16 time units off. -/
theorem young_timer_wraps : ¬SyncRight (client (50 * tu) (by decide)) accessPoint 0 0 0 := by
  rintro ⟨ofst, t, hcalc, -, hlatest, hofst, diff, hdiff, m, hm⟩
  have hcalc' : phlCalcOffsetFromTbtt (client (50 * tu) (by decide)) 0 = some 50 := by decide
  have hdiff' : rtwPhlTbttSync (client (50 * tu) (by decide)) accessPoint 0 (some (0, 0)) true =
      some 66 := by decide
  obtain rfl := Option.some.inj (hcalc'.symm.trans hcalc)
  obtain rfl := Option.some.inj (hdiff'.symm.trans hdiff)
  obtain ⟨k, hk⟩ := hlatest.grid
  have hintvl : phlRoleGetBcnIntvl accessPoint = 100 := by decide
  rw [hk, eq_of_elapsed hk hofst, hintvl] at hm
  unfold tu at hm
  rw [abs_le] at hm
  omega

end TbttSync

end Rtl8831.Phl
