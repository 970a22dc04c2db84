import Rtl8831.Lib.Scan
import Rtl8831.Phl.MccDur

/-!
# Where the beacons lie in the slots of two roles

The slots of two roles are laid so that the beacons of both are heard: a slot is split
into the time before the beacon (`tob`) and the time from the beacon on (`toa`).  Five
functions search the split in which the four times differ least, each for its own order
of the slots.  They walk through the times before the reference beacon, compute in
`s16`, and stop when the sum of the squared differences rises.
-/

namespace Rtl8831.Phl.Mcc

open Lib

def handleBcnIntvl : ℕ := 100

/-- A value stored in an `s16`. -/
def s16 (z : ℤ) : ℤ := Int.bmod z (2 ^ 16)

/-- A value cast to `u8`. -/
def u8 (z : ℤ) : ℤ := z % 2 ^ 8

/-- The four times of `rtw_phl_mcc_pattern`. -/
structure BcnSplit where
  tobR : ℤ
  toaR : ℤ
  tobA : ℤ
  toaA : ℤ
  deriving DecidableEq

def BcnSplit.sum (q : BcnSplit) : ℤ :=
  (q.tobR - q.toaR) * (q.tobR - q.toaR) + (q.tobR - q.tobA) * (q.tobR - q.tobA) +
    (q.tobR - q.toaA) * (q.tobR - q.toaA) + (q.toaR - q.tobA) * (q.toaR - q.tobA) +
    (q.toaR - q.toaA) * (q.toaR - q.toaA) + (q.tobA - q.toaA) * (q.tobA - q.toaA)

def unlimited (dur : U16) : DurInfo := ⟨dur, ⟨false, 0, 0, 0⟩⟩

/-- One round of the loops.  `overTob` is what a `tob_r` above its limit does, and `tobAOf`
gives `tob_a` from `toa_r`. -/
def searchStep (overTob : Probe) (refDur anoDur : DurInfo) (tobAOf : ℤ → ℤ) (tobR : ℤ) : Probe :=
  let limR := refDur.durLimit
  let limA := anoDur.durLimit
  let toaR := s16 (s16 (refDur.dur : ℕ) - tobR)
  if toaR < (minRxBcnT : ℤ) then .stop
  else if limR.enable ∧ s16 (limR.maxTob : ℕ) < tobR then overTob
  else if limR.enable ∧ s16 (limR.maxToa : ℕ) < toaR then .skip
  else
    let tobA := s16 (tobAOf toaR)
    if tobA < (earlyRxBcnT : ℤ) then .skip
    else
      let toaA := s16 (s16 (anoDur.dur : ℕ) - tobA)
      if toaA < (minRxBcnT : ℤ) then .stop
      else if limA.enable ∧ (s16 (limA.maxTob : ℕ) < tobA ∨ s16 (limA.maxToa : ℕ) < toaA) then
        .skip
      else .cost (s16 (BcnSplit.mk tobR toaR tobA toaA).sum)

/-- `tob_r` when the loop ends, and `tob_r_cand`; `tob_r` stays below `d_r` and does not
overflow. -/
def search (overTob : Probe) (refDur anoDur : DurInfo) (tobAOf : ℤ → ℤ) : ℤ × ℤ :=
  scan (searchStep overTob refDur anoDur tobAOf)
    (((refDur.dur : ℕ) + anoDur.dur) % 2 ^ 16 - earlyRxBcnT) earlyRxBcnT 0 0

/-- The split with a given `tob_r`, as the functions compute it after the loop. -/
def splitOf (refDur anoDur : U16) (tobAOf : ℤ → ℤ) (tobR : ℤ) : BcnSplit :=
  let toaR := s16 (s16 (refDur : ℕ) - tobR)
  let tobA := s16 (tobAOf toaR)
  ⟨tobR, toaR, tobA, s16 (s16 (anoDur : ℕ) - tobA)⟩

/-- `_mcc_calculate_2_wrole_pattern`; `none` leaves the split to the negotiation. -/
def mccCalculate2WrolePattern (refDur anoDur : DurInfo) (offset : U16) : Option BcnSplit :=
  let tobAOf := fun toaR => s16 (offset : ℕ) - toaR
  let tobRCand := (search .skip refDur anoDur tobAOf).2
  if tobRCand = 0 then none else some (splitOf refDur.dur anoDur.dur tobAOf tobRCand)

def mccCalculate2wslot1btslotPattern1 (refDur anoDur : DurInfo) (offset : U16) : Option BcnSplit :=
  let tobAOf := fun toaR => s16 (offset : ℕ) - toaR
  let tobRCand := (search .stop refDur anoDur tobAOf).2
  if tobRCand = 0 then none else some (splitOf refDur.dur anoDur.dur tobAOf tobRCand)

/-- `_mcc_calculate_2wslot_1btslot_pattern2`; after the loop `bt_dur` is not taken off. -/
def mccCalculate2wslot1btslotPattern2 (refDur anoDur : DurInfo) (offset btDur : U16) :
    Option BcnSplit :=
  let tobRCand :=
    (search .stop refDur anoDur fun toaR => s16 (offset : ℕ) - toaR - s16 (btDur : ℕ)).2
  if tobRCand = 0 then none
  else some (splitOf refDur.dur anoDur.dur (fun toaR => s16 (offset : ℕ) - toaR) tobRCand)

/-- What `_mcc_calculate_2_clients_pattern` and `_mcc_calc_2_clients_worsecase_pattern` store
after their loop. -/
def storedBeforeEnd (refDur anoDur : U16) (tobAOf : ℤ → ℤ) : BcnSplit :=
  let tobR := s16 ((search .stop (unlimited refDur) (unlimited anoDur) tobAOf).1 - 1)
  let q := splitOf refDur anoDur tobAOf tobR
  ⟨u8 q.tobR, u8 q.toaR, u8 q.tobA, u8 q.toaA⟩

/-- `_mcc_calculate_2_clients_pattern`, which always stores a split. -/
def mccCalculate2ClientsPattern (refDur anoDur offset : U16) : BcnSplit :=
  storedBeforeEnd refDur anoDur fun toaR => s16 (offset : ℕ) - toaR

def mccGetOffsetFor2Wslot1BtslotP1 (durR tobR tobA : ℤ) : ℤ := s16 (durR - tobR + tobA)

def mccGetOffsetFor2Wslot1BtslotP2 (durR btDur tobR tobA : ℤ) : ℤ :=
  s16 (durR - tobR + btDur + tobA)

/-- `_mcc_get_offset_range_for_2wslot_1btslot_p1`: the least and the greatest offset. -/
def mccGetOffsetRangeFor2wslot1btslotP1 (refDur anoDur : ℤ) : ℤ × ℤ :=
  let offsetOf := mccGetOffsetFor2Wslot1BtslotP1 refDur
  let bcnMin := offsetOf earlyRxBcnT earlyRxBcnT
  let bcnMax := offsetOf earlyRxBcnT (s16 (anoDur - minRxBcnT))
  let min1 := offsetOf (s16 (refDur - minRxBcnT)) earlyRxBcnT
  let max1 := offsetOf (s16 (refDur - minRxBcnT)) (s16 (anoDur - minRxBcnT))
  (if min1 < bcnMin then min1 else bcnMin, if max1 > bcnMax then max1 else bcnMax)

/-- `_mcc_get_offset_range_for_2wslot_1btslot_p2`; the fourth corner is stored in `min1`, and
`max1` stays `0`. -/
def mccGetOffsetRangeFor2wslot1btslotP2 (refDur anoDur btDur : ℤ) : ℤ × ℤ :=
  let offsetOf := mccGetOffsetFor2Wslot1BtslotP2 refDur btDur
  let bcnMin := offsetOf earlyRxBcnT earlyRxBcnT
  let bcnMax := offsetOf earlyRxBcnT (s16 (anoDur - minRxBcnT))
  let min1 := offsetOf (s16 (refDur - minRxBcnT)) (s16 (anoDur - minRxBcnT))
  let max1 := 0
  (if min1 < bcnMin then min1 else bcnMin, if max1 > bcnMax then max1 else bcnMax)

def mccGetOffsetFor2ClientsWorsecase (refDur anoDur : ℤ) (refBcnIntvl : U16)
    (toaRef tobAno : ℤ) : ℤ :=
  s16 (toaRef + tobAno + refDur + anoDur - 2 * (refBcnIntvl : ℕ))

def mccGetOffsetRangeFor2ClientsWorsecase (refDur anoDur : ℤ) (refBcnIntvl : U16) : ℤ × ℤ :=
  let offsetOf := mccGetOffsetFor2ClientsWorsecase refDur anoDur refBcnIntvl
  let min1 := offsetOf minRxBcnT earlyRxBcnT
  let max1 := offsetOf minRxBcnT (s16 (anoDur - minRxBcnT))
  let min2 := offsetOf (s16 (refDur - earlyRxBcnT)) earlyRxBcnT
  let max2 := offsetOf (s16 (refDur - earlyRxBcnT)) (s16 (anoDur - minRxBcnT))
  (if min1 < min2 then min1 else min2, if max1 > max2 then max1 else max2)

/-- `_mcc_calc_2_clients_worsecase_pattern`: an offset out of range is replaced by its
difference to the beacon interval, which is only compared with the least offset. -/
def mccCalc2ClientsWorsecasePattern (refDur anoDur offset refBcnIntvl : U16) : Option BcnSplit :=
  let mccIntvl : ℕ := ((refDur : ℕ) + anoDur) % 2 ^ 16
  let calculate := fun bcnsOffset : ℤ =>
    storedBeforeEnd refDur anoDur fun toaR =>
      bcnsOffset + 2 * (refBcnIntvl : ℕ) - toaR - mccIntvl
  if (refBcnIntvl : ℕ) ≠ handleBcnIntvl then none
  else
    let (offsetMin, offsetMax) := mccGetOffsetRangeFor2ClientsWorsecase (s16 (refDur : ℕ))
      (s16 (anoDur : ℕ)) refBcnIntvl
    if offsetMin ≤ s16 (offset : ℕ) ∧ s16 (offset : ℕ) ≤ offsetMax then
      some (calculate (s16 (offset : ℕ)))
    else
      let bcnsOffset := s16 ((refBcnIntvl : ℕ) - s16 (offset : ℕ))
      if offsetMin ≤ bcnsOffset ∧ offsetMin ≤ offsetMax then some (calculate bcnsOffset) else none

end Rtl8831.Phl.Mcc
