import Rtl8831.Lib.Run
import Rtl8831.Phl.TbttSync

/-!
# The links of a multi-link device

An MLD keeps its stations in a table in the order in which they were linked, and
a station points back to its MLD.  Nothing clears that pointer: unlinking leaves
it, and an MLD is given back without a look at the stations that point to it.
-/

namespace Rtl8831.Phl

open Function

namespace MldLink

open StaPool (MacAddr RoleType)
open TbttSync (isApCategory isClientCategory)

def rtwRlinkMax : ℕ := 2

def phlMaxMldNum : ℕ := 128

structure Role where
  type : RoleType
  macAddr : MacAddr
  rlinkNum : ℕ
  rlinkNum_le : rlinkNum ≤ rtwRlinkMax

/-- `enum rtw_device_type`. -/
inductive DevType
  | inactive
  | legacy
  | mld
  deriving DecidableEq

structure Mld where
  wrole : ℕ
  macAddr : MacAddr
  type : DevType
  staNum : ℕ
  phlSta : ℕ → Option ℕ

/-- The MLDs, the MLD of each station and the queues of MLDs.  When a station was
last linked is kept for the statements only. -/
structure State where
  mld : ℕ → Mld
  staMld : ℕ → Option ℕ
  free : List ℕ
  assoc : ℕ → List ℕ
  linkedAt : ℕ → ℕ
  clock : ℕ

def init : State where
  mld _ := ⟨0, 0, .inactive, 0, fun _ => none⟩
  staMld _ := none
  free := List.range phlMaxMldNum
  assoc _ := []
  linkedAt _ := 0
  clock := 0

section

variable (role : ℕ → Role) (s : State)

def setMld (m : ℕ) (d : Mld) : State := { s with mld := update s.mld m d }

/-- `_phl_self_mld_chk`: the answer and the address that it leaves. -/
def phlSelfMldChk (r : Role) (a : MacAddr) : Bool × MacAddr :=
  match r.type with
  | .station | .p2pGc => (true, r.macAddr)
  | .ap | .mesh | .p2pGo | .tdls => (r.macAddr = a, a)
  | _ => (false, a)

def phlLinkMldStainfo (m x lidx : ℕ) : State :=
  { s with
    mld := update s.mld m
      { s.mld m with phlSta := update (s.mld m).phlSta lidx (some x) }
    staMld := update s.staMld x (some m) }

/-- A new link at `lidx`, after which there are `lidx + 1`. -/
def linkAt (m x lidx : ℕ) : State :=
  let s := phlLinkMldStainfo s m x lidx
  { s with
    mld := update s.mld m { s.mld m with staNum := lidx + 1 }
    linkedAt := update s.linkedAt x s.clock
    clock := s.clock + 1 }

def rtwPhlLinkMldStainfo (m x : ℕ) : State × Bool :=
  let mld := s.mld m
  let wrole := role mld.wrole
  if mld.type = .inactive then (s, false)
  else if wrole.rlinkNum ≤ mld.staNum then (s, false)
  -- an earlier station of a legacy device is overwritten
  else if mld.type = .legacy then (linkAt s m x 0, true)
  else if isApCategory wrole.type then (linkAt s m x mld.staNum, true)
  else if isClientCategory wrole.type then (linkAt s m x mld.staNum, true)
  else (s, true)

/-- The stations from `lidx + 1` on move one place down, `n` of them. -/
def shift (m lidx n : ℕ) : State :=
  (List.range' (lidx + 1) n).foldl
    (fun s i =>
      match (s.mld m).phlSta i with
      | some y => phlLinkMldStainfo s m y (i - 1)
      | none => s) s

def rtwPhlUnlinkMldStainfo (m x : ℕ) : State :=
  let num := (s.mld m).staNum
  match (List.range num).find? (fun lidx => (s.mld m).phlSta lidx = some x) with
  | none => s
  | some lidx =>
    let s := shift s m lidx (num - (lidx + 1))
    setMld s m { s.mld m with
      phlSta := update (s.mld m).phlSta (num - 1) none
      staNum := num - 1 }

def rtwPhlGetMldSelf (r : ℕ) : Option ℕ := (s.assoc r).head?

def rtwPhlGetMldByAddr (r : ℕ) (a : MacAddr) : Option ℕ :=
  (s.assoc r).find? (fun m => (s.mld m).macAddr = a)

/-- The MLD of `r` for the address, if there is one; a client has a single one,
whose address changes. -/
def existing (r : ℕ) (a : MacAddr) : Option (ℕ × Mld) :=
  let self := if (role r).type = .station ∨ (role r).type = .p2pGc then
      if a = MacAddr.broadcast then none else rtwPhlGetMldSelf s r
    else none
  match self with
  | some m => some (m, { s.mld m with macAddr := a })
  | none => (rtwPhlGetMldByAddr s r a).map fun m => (m, s.mld m)

def phlAllocMld (r : ℕ) (a : MacAddr) (type : DevType) : State × Option ℕ :=
  match existing role s r a with
  | some (m, d) => (setMld s m d, some m)
  | none =>
    match s.free with
    | [] => (s, none)
    | m :: free =>
      ({ s with
          mld := update s.mld m ⟨r, a, type, 0, fun _ => none⟩
          free := free
          assoc := update s.assoc r (s.assoc r ++ [m]) }, some m)

def giveBack (m : ℕ) : State :=
  { s with
    mld := update s.mld m { s.mld m with type := .inactive }
    free := s.free ++ [m] }

/-- The MLD of the role itself, which `phl_free_mld` leaves alone. -/
def IsSelf (m : ℕ) : Prop :=
  (s.mld m).macAddr ≠ MacAddr.broadcast ∧
    (phlSelfMldChk (role (s.mld m).wrole) (s.mld m).macAddr).1 = true

instance (m : ℕ) : Decidable (IsSelf role s m) := inferInstanceAs (Decidable (_ ∧ _))

/-- `phl_free_mld` of an MLD that is on the queue of its role. -/
def phlFreeMld (m : ℕ) : State :=
  let r := (s.mld m).wrole
  if IsSelf role s m then
    setMld s m { s.mld m with macAddr := (phlSelfMldChk (role r) (s.mld m).macAddr).2 }
  else giveBack { s with assoc := update s.assoc r ((s.assoc r).erase m) } m

def phlWifiRoleFreeMld (r : ℕ) : State :=
  (s.assoc r).foldl giveBack { s with assoc := update s.assoc r [] }

end

inductive Event
  | link (m x : ℕ)
  | unlink (m x : ℕ)
  | alloc (r : ℕ) (a : MacAddr) (type : DevType)
  | free (m : ℕ)
  | roleFree (r : ℕ)

def step (role : ℕ → Role) (s : State) : Event → State
  | .link m x => (rtwPhlLinkMldStainfo role s m x).1
  | .unlink m x => rtwPhlUnlinkMldStainfo s m x
  | .alloc r a type => (phlAllocMld role s r a type).1
  | .free m => phlFreeMld role s m
  | .roleFree r => phlWifiRoleFreeMld s r

end MldLink

end Rtl8831.Phl
