import Rtl8831.Lib.Run

/-!
# Association identifiers

`rtw_aid_alloc` looks for a free AID from `started_aid` on.  It counts the AIDs that are held
only as far as it has to look.
-/

namespace Rtl8831.Core.Aid

open Lib Function

/-- `max_aid`, `max_num_sta` and `rr_aid` -/
structure AidConf where
  maxAid : ℕ
  maxNumSta : ℕ
  rrAid : Bool

/-- What `struct sta_priv` has about AIDs, which stations have a `phl_sta`, and the AIDs of
these. -/
structure StaPriv (Sta Phl : Type) where
  phlSta : Sta → Option Phl
  aid : Phl → ℕ
  staAid : ℕ → Option Sta
  startedAid : ℕ

section

variable {Sta Phl : Type} [DecidableEq Sta] [DecidableEq Phl] (c : AidConf) (s : StaPriv Sta Phl)

/-- The AID that the loop looks at for `i`. -/
def aidAt (i : ℕ) : ℕ := (i + s.startedAid - 1) % c.maxAid + 1

/-- The loop, for at most `rounds` rounds; the last `i` and `used_cnt`. -/
def aidLoop : (rounds i usedCnt : ℕ) → ℕ × ℕ
  | 0, i, usedCnt => (i, usedCnt)
  | rounds + 1, i, usedCnt =>
    if s.staAid (aidAt c s i - 1) = none then (i, usedCnt)
    else if c.maxNumSta ≤ usedCnt + 1 then (i, usedCnt + 1)
    else aidLoop rounds (i + 1) (usedCnt + 1)

def foundAid : ℕ :=
  let (i, usedCnt) := aidLoop c s c.maxAid 0 0
  if c.maxAid ≤ i ∨ c.maxNumSta ≤ usedCnt then 0 else aidAt c s i

/-- `phl` is the `phl_sta` of `sta`. -/
def rtwAidAlloc (sta : Sta) (phl : Phl) : StaPriv Sta Phl :=
  let aid := foundAid c s
  let s := { s with aid := update s.aid phl aid }
  if aid = 0 then s
  else
    { s with
      staAid := update s.staAid (aid - 1) (some sta)
      startedAid := if c.rrAid then aid % c.maxAid + 1 else s.startedAid }

def onAssocReq (sta : Sta) : StaPriv Sta Phl :=
  match s.phlSta sta with
  | none => s
  | some phl => if 0 < s.aid phl then s else rtwAidAlloc c s sta phl

/-- What `_rtw_free_core_stainfo` does about the AID, which it gets as a byte; `apState` is
`pmlmeinfo->state == _HW_STATE_AP_`. -/
def freeCoreStainfo (sta : Sta) (aid : ℕ) (apState : Bool) : StaPriv Sta Phl :=
  if aid ≠ 0 ∧ apState then
    if s.staAid (aid - 1) = some sta then
      { s with
        staAid := update s.staAid (aid - 1) none
        aid := match s.phlSta sta with
          | none => s.aid
          | some phl => update s.aid phl 0 }
    else s
  else s

/-- A station without a `phl_sta` has no AID to give back. -/
def rtwFreeStainfo (sta : Sta) (apState : Bool) : StaPriv Sta Phl :=
  match s.phlSta sta with
  | none => s
  | some phl =>
    let s := freeCoreStainfo s sta (s.aid phl % 2 ^ 8) apState
    { s with phlSta := update s.phlSta sta none }

inductive StaOp (Sta Phl : Type) where
  /-- `rtw_alloc_stainfo` gets `phl` from the PHL. -/
  | allocStainfo (sta : Sta) (phl : Phl)
  | assocReq (sta : Sta)
  | freeStainfo (sta : Sta) (apState : Bool)

def step : StaOp Sta Phl → StaPriv Sta Phl
  | .allocStainfo sta phl => { s with phlSta := update s.phlSta sta (some phl) }
  | .assocReq sta => onAssocReq c s sta
  | .freeStainfo sta apState => rtwFreeStainfo s sta apState

omit [DecidableEq Sta] [DecidableEq Phl] in
def Possible : StaOp Sta Phl → Prop
  | .allocStainfo sta phl => s.phlSta sta = none ∧ ∀ x, s.phlSta x ≠ some phl
  | _ => True

def aidOf (sta : Sta) : ℕ :=
  match s.phlSta sta with
  | none => 0
  | some phl => s.aid phl

def held : Finset ℕ := {a ∈ Finset.range c.maxAid | (s.staAid a).isSome}

def init (startedAid : ℕ) : StaPriv Sta Phl := ⟨fun _ => none, fun _ => 0, fun _ => none, startedAid⟩

end

end Rtl8831.Core.Aid
