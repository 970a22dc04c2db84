import Rtl8831.Lib.Run

/-!
# Where received frames go

Each link asks for a target of each frame type and subtype.  A call of
`rtw_phl_mr_set_rxfltr_type_by_mode` joins what the calling link asks for with what the
other active links of its band ask for, and writes the registers of the band.
-/

namespace Rtl8831.Phl.RxFilter

open Lib Function

inductive Target
  | drop
  | toHost
  | toWlcpu
  deriving DecidableEq

def Target.val : Target → ℕ
  | .drop => 0
  | .toHost => 1
  | .toWlcpu => 2

lemma Target.val_injective : Function.Injective Target.val := by
  intro a b h
  cases a <;> cases b <;> first | rfl | exact absurd h (by decide)

instance : LinearOrder Target := LinearOrder.lift' Target.val Target.val_injective

/-- `enum rtw_packet_type`, as far as it is filtered. -/
inductive PktType
  | ctrl
  | mgnt
  | data
  deriving DecidableEq

inductive HwBand
  | band0
  | band1
  deriving DecidableEq

/-- The targets that a link asks for: `struct rxfltr_type_cap`. -/
abbrev TypeCap := PktType → Fin 16 → Target

/-- The targets to set, with none where `set` is false: `struct rxfltr_type_cap_to_set`. -/
abbrev CapToSet := PktType → Fin 16 → Option Target

def rxfltrTargetDcsn (chk cur : Target) : Target :=
  match chk with
  | .drop => cur
  | .toHost => if cur = .drop then .toHost else cur
  | .toWlcpu => .toWlcpu

lemma rxfltrTargetDcsn_eq (chk cur : Target) : rxfltrTargetDcsn chk cur = max chk cur := by
  cases chk <;> cases cur <;> rfl

/-- `_phl_mr_rxfltr_target_dcsn_ctrl`, `_mgnt` and `_data`. -/
def dcsnAll (chk : TypeCap) (cur : CapToSet) : CapToSet :=
  fun ty i => (cur ty i).map (rxfltrTargetDcsn (chk ty i))

def vhtHeNdpa : Fin 16 := 5
def bar : Fin 16 := 8
def psPoll : Fin 16 := 10
def ack : Fin 16 := 13
def trigger : Fin 16 := 2

/-- `enum rtw_rxfltr_type_mode`, with what its cases look at: whether trigger frames go to
the host for the link, and the stations of the link. -/
inductive Mode
  | monitor
  | roleInit
  | staConn (heTf : Bool)
  | staDisConn
  | apConn
  | apDisConn (staCnt : ℕ)
  | chanInfoEn
  | chanInfoDis
  | other
  deriving DecidableEq

/-- `PHL_MR_SET_RXFLTR_TYPE_CTRL`, `_MGNT` and `_DATA`. -/
def setType (ty : PktType) (t : Target) (c : CapToSet) : CapToSet :=
  fun ty' i => if ty' = ty then some t else c ty' i

/-- `PHL_MR_SET_RXFLTR_STYPE_CTRL` -/
def setStypeCtrl (i : Fin 16) (t : Target) (c : CapToSet) : CapToSet :=
  fun ty' i' => if ty' = .ctrl ∧ i' = i then some t else c ty' i'

def nothing : CapToSet := fun _ _ => none

def Mode.sets : Mode → Option CapToSet
  | .monitor =>
    some (setType .data .toHost (setType .mgnt .toHost (setType .ctrl .toHost nothing)))
  | .roleInit =>
    some (setType .data .toHost (setType .mgnt .toHost (setType .ctrl .drop nothing)))
  | .staConn heTf =>
    let c := setStypeCtrl bar .toHost (setStypeCtrl vhtHeNdpa .toHost nothing)
    some (if heTf then setStypeCtrl trigger .toHost c else c)
  | .staDisConn => some (setType .ctrl .drop nothing)
  | .apConn =>
    some (setStypeCtrl psPoll .toHost
      (setStypeCtrl bar .toHost (setStypeCtrl vhtHeNdpa .toHost nothing)))
  | .apDisConn staCnt =>
    some (if staCnt < 2 then setType .ctrl .drop nothing else nothing)
  | .chanInfoEn => some (setStypeCtrl ack .toHost nothing)
  | .chanInfoDis => some (setType .ctrl .drop nothing)
  | .other => none

section Registers

/-- `SET_CLR_WOR2` with the mask of an entry. -/
def setClrWor2 (w v : BitVec 32) (sh : ℕ) : BitVec 32 :=
  (w &&& ~~~(3#32 <<< sh)) ||| ((v &&& 3#32) <<< sh)

/-- `enum mac_ax_fwd_target` of a target. -/
def fwdTarget : Target → BitVec 32
  | .drop => 0
  | .toHost => 1
  | .toWlcpu => 2

def entry (w : BitVec 32) (i : Fin 16) : Target :=
  if (w >>> (2 * i.val)) &&& 3#32 = 2#32 then .toWlcpu
  else if (w >>> (2 * i.val)) &&& 3#32 = 1#32 then .toHost
  else .drop

def setTypFltrOpt : Target → BitVec 32
  | .drop => 0x00000000
  | .toHost => 0x55555555
  | .toWlcpu => 0xAAAAAAAA

def setTypsbtypFltrOpt (w : BitVec 32) (i : Fin 16) (t : Target) : BitVec 32 :=
  setClrWor2 w (fwdTarget t) ((i.val &&& 0xf) * 2)

/-- The first loop of `rtw_hal_set_rxfltr_by_stype_ctrl`, `_mgnt` and `_data`: the target
when all subtypes are set to one. -/
def typeSet : Option Target → List (Option Target) → Option Target
  | chk, [] => chk
  | _, none :: _ => none
  | none, some t :: cs => typeSet (some t) cs
  | some chk, some t :: cs => if t = chk then typeSet (some t) cs else none

def setStype (cap : Fin 16 → Option Target) (w : BitVec 32) (i : Fin 16) : BitVec 32 :=
  match cap i with
  | some t => setTypsbtypFltrOpt w i t
  | none => w

def setStypes (cap : Fin 16 → Option Target) (w : BitVec 32) : BitVec 32 :=
  (List.finRange 16).foldl (setStype cap) w

/-- `rtw_hal_set_rxfltr_by_stype_ctrl`, `_mgnt` and `_data`: whether it succeeds, and the
register.  With the CMAC of the band off, the first write fails. -/
def setRxfltrByStype (macEn : Bool) (cap : Fin 16 → Option Target) (w : BitVec 32) :
    Bool × BitVec 32 :=
  match typeSet none ((List.finRange 16).map cap) with
  | some t => if macEn then (true, setTypFltrOpt t) else (false, w)
  | none =>
    if macEn then (true, setStypes cap w)
    else ((List.finRange 16).all fun i => (cap i).isNone, w)

def setRxfltrByStypeAll (macEn : Bool) (cap : CapToSet) (reg : PktType → BitVec 32) :
    Bool × (PktType → BitVec 32) :=
  let ctrl := setRxfltrByStype macEn (cap .ctrl) (reg .ctrl)
  let reg := update reg .ctrl ctrl.2
  if ctrl.1 = false then (false, reg)
  else
    let mgnt := setRxfltrByStype macEn (cap .mgnt) (reg .mgnt)
    let reg := update reg .mgnt mgnt.2
    if mgnt.1 = false then (false, reg)
    else
      let data := setRxfltrByStype macEn (cap .data) (reg .data)
      (data.1, update reg .data data.2)

end Registers

/-- The roles and the bands of their links; a role is in the map of each band it has a
link on. -/
structure Roles (n : ℕ) where
  rlinkNum : Fin n → ℕ
  hwBand : Fin n → ℕ → HwBand
  roleMap : HwBand → Finset (Fin n)
  mem_roleMap : ∀ r l, l < rlinkNum r → r ∈ roleMap (hwBand r l)

variable {n : ℕ}

structure State (n : ℕ) where
  active : Fin n → Bool
  cap : Fin n → ℕ → TypeCap
  reg : HwBand → PktType → BitVec 32

inductive Event (n : ℕ)
  /-- a role is started or stopped -/
  | setActive (r : Fin n) (v : Bool)
  /-- a call for a link, with the CMAC of its band on or off -/
  | call (r : Fin n) (l : ℕ) (mode : Mode) (macEn : Bool)

namespace State

def rxFilterType (R : Roles n) (s : State n) (r : Fin n) (l : ℕ) (capS : CapToSet) : CapToSet :=
  (List.finRange n).foldl (fun c r' =>
    if r' ∉ R.roleMap (R.hwBand r l) then c
    else if s.active r' = false then c
    else (List.range (R.rlinkNum r')).foldl (fun c l' =>
      if R.hwBand r' l' ≠ R.hwBand r l then c
      else if r' = r ∧ l' = l then c
      else dcsnAll (s.cap r' l') c) c) capS

def keep (s : State n) (r : Fin n) (l : ℕ) (sets : CapToSet) : State n :=
  { s with
    cap := fun r' l' =>
      if r' = r ∧ l' = l then fun ty i => (sets ty i).getD (s.cap r l ty i) else s.cap r' l' }

def setRxfltrTypeByMode (R : Roles n) (s : State n) (r : Fin n) (l : ℕ) (mode : Mode)
    (macEn : Bool) : Bool × State n :=
  match mode.sets with
  | none => (false, s)
  | some sets =>
    let s := s.keep r l sets
    let b := R.hwBand r l
    let set := setRxfltrByStypeAll macEn (s.rxFilterType R r l sets) (s.reg b)
    (set.1, { s with reg := update s.reg b set.2 })

def step (R : Roles n) (s : State n) : Event n → State n
  | .setActive r v => { s with active := update s.active r v }
  | .call r l mode macEn => (s.setRxfltrTypeByMode R r l mode macEn).2

/-- No role is active, no link has asked for anything, and the registers are those of
`RX_FLTR_TYPE_MODE_HAL_INIT`. -/
def init : State n where
  active := fun _ => false
  cap := fun _ _ _ _ => .drop
  reg := fun _ ty => setTypFltrOpt (if ty = .ctrl then .drop else .toHost)

def target (s : State n) (b : HwBand) (ty : PktType) (i : Fin 16) : Target := entry (s.reg b ty) i

def requests (R : Roles n) (s : State n) (b : HwBand) (ty : PktType) (i : Fin 16) : Set Target :=
  {t | ∃ r l, l < R.rlinkNum r ∧ R.hwBand r l = b ∧ s.active r = true ∧ s.cap r l ty i = t}

end State

end Rtl8831.Phl.RxFilter
