import Rtl8831.Core.Wifi
import Rtl8831.Lib.Buckets

/-!
# The stations of the core

A `sta_info` is in the free queue or in a bucket of the hash table.  The bucket is that of the
peer or that of the own address, depending on the type of the role.
-/

namespace Rtl8831.Core.StaTable

open Function

def numSta : ℕ := 32

/-- `PHL_RTYPE_...` -/
inductive RoleType where
  | none
  | station
  | ap
  | vap
  | adhoc
  | adhocMaster
  | mesh
  | monitor
  | p2pDevice
  | p2pGc
  | p2pGo
  | tdls
  | nan
  deriving DecidableEq

abbrev Addr : Type := List UInt8

/-- The table is searched with an index below `NUM_STA`, a power of two. -/
def wifiMacHash (mac : Addr) : ℕ :=
  let x := mac.foldl (fun x b => (x <<< 2) ^^^ b.toNat) 0
  (x ^^^ (x >>> 8)) % numSta

structure Role where
  type : RoleType
  macAddr : Addr

def RoleType.ownBucket : RoleType → Bool
  | .none | .station | .adhoc | .p2pDevice | .p2pGc => true
  | _ => false

/-- The index in `_rtw_alloc_core_stainfo`. -/
def allocIndex (role : Role) (hwaddr : Addr) : ℕ :=
  if role.type.ownBucket then wifiMacHash role.macAddr else wifiMacHash hwaddr

/-- The index in `_rtw_get_stainfo`; `network` is the address of the joined network. -/
def getIndex (role : Role) (network linkAddr : Addr) : ℕ :=
  if isMcast linkAddr then wifiMacHash role.macAddr
  else if role.type.ownBucket then wifiMacHash role.macAddr
  else if role.type = .tdls then
    if linkAddr = network then wifiMacHash role.macAddr else wifiMacHash linkAddr
  else wifiMacHash linkAddr

/-- The free queue, the buckets, `asoc_sta_count`, the `phl_sta` of each station and its
address; `hwaddr` is the address that a station was allocated for. -/
structure Table (Sta Phl : Type) where
  freeStaQueue : List Sta
  staHash : ℕ → List Sta
  asocStaCount : ℕ
  phlSta : Sta → Option Phl
  macAddr : Phl → Addr
  hwaddr : Sta → Addr

section

variable {Sta Phl : Type} [DecidableEq Sta] [DecidableEq Phl] (role : Role) (s : Table Sta Phl)

/-- `_rtw_alloc_core_stainfo`; a station that is taken is cleared. -/
def allocCoreStainfo (hwaddr : Addr) : Option Sta × Table Sta Phl :=
  match s.freeStaQueue with
  | [] => (none, s)
  | sta :: rest =>
    let index := allocIndex role hwaddr
    (some sta,
      { s with
        freeStaQueue := rest
        staHash := update s.staHash index (s.staHash index ++ [sta])
        asocStaCount := s.asocStaCount + 1
        phlSta := update s.phlSta sta none
        hwaddr := update s.hwaddr sta hwaddr })

/-- What is kept of `_rtw_free_core_stainfo`: the station leaves its bucket for the queue. -/
def freeCoreStainfo (sta : Sta) : Table Sta Phl :=
  { s with
    freeStaQueue := s.freeStaQueue ++ [sta]
    staHash := fun index => (s.staHash index).filter (· ≠ sta)
    asocStaCount := s.asocStaCount - 1 }

/-- The PHL has given `phl` for an address. -/
def setPhl (sta : Sta) (phl : Phl) (hwaddr : Addr) : Table Sta Phl :=
  { s with
    phlSta := update s.phlSta sta (some phl)
    macAddr := update s.macAddr phl hwaddr }

/-- `rtw_alloc_stainfo`, with what the PHL gives; `none` stands for an access through NULL. -/
def rtwAllocStainfo (hwaddr : Addr) (phl : Option Phl) : Option (Table Sta Phl) :=
  match allocCoreStainfo role s hwaddr with
  | (none, _) => none
  | (some sta, s) =>
    match phl with
    | none => some s
    | some phl => some (setPhl s sta phl hwaddr)

def rtwAllocStainfoSw (hwaddr : Addr) (phl : Option Phl) : Table Sta Phl :=
  match allocCoreStainfo role s hwaddr with
  | (none, s) => s
  | (some sta, s) =>
    match phl with
    | none => freeCoreStainfo s sta
    | some phl => setPhl s sta phl hwaddr

def phlFree (phl : Phl) : Table Sta Phl :=
  if role.type = .station ∨ role.type = .p2pGc then
    { s with macAddr := update s.macAddr phl role.macAddr }
  else s

def rtwFreeStainfo (sta : Sta) : Option (Table Sta Phl) :=
  match s.phlSta sta with
  | none => none
  | some phl =>
    let s := phlFree role (freeCoreStainfo s sta) phl
    some { s with phlSta := update s.phlSta sta none }

/-- `rtw_free_stainfo_sw`; `phlOk` tells whether the PHL reports success. -/
def rtwFreeStainfoSw (sta : Sta) (phlOk : Bool) : Table Sta Phl :=
  match s.phlSta sta with
  | none => freeCoreStainfo s sta
  | some phl =>
    let s := phlFree role (freeCoreStainfo s sta) phl
    if phlOk then { s with phlSta := update s.phlSta sta none } else s

def hashed : List Sta := Lib.Buckets.contents numSta s.staHash

/-- The second loop of `rtw_free_all_stainfo`; the `mld` of each station is read first. -/
def freeListed : List Sta → Table Sta Phl → Option (Table Sta Phl)
  | [], s => some s
  | sta :: rest, s => do
    let s ← rtwFreeStainfo role s sta
    freeListed rest s

/-- `rtw_is_self_stainfo`; `selfs` has the self stations of the links. -/
def isSelf (selfs : List (Option Phl)) (sta : Sta) : Bool := decide (s.phlSta sta ∈ selfs)

def rtwFreeAllStainfo (selfs : List (Option Phl)) : Option (Table Sta Phl) :=
  if s.asocStaCount = 1 then some s
  else
    let list := (hashed s).filter fun sta => !isSelf s selfs sta
    freeListed role list
      { s with staHash := fun index => (s.staHash index).filter (isSelf s selfs) }

/-- `_rtw_get_stainfo` for an address that the search for an MLD leaves as it is; `self` is what
`rtw_phl_get_stainfo_self` returns for the primary link. -/
def rtwGetStainfo (network : Addr) (self : Option Phl) (linkAddr : Addr) : Option Sta :=
  if isMcast linkAddr ∧ self = none then none
  else
    (s.staHash (getIndex role network linkAddr)).find? fun sta =>
      match s.phlSta sta with
      | none => false
      | some phl =>
        (isMcast linkAddr && decide (self = some phl)) || decide (s.macAddr phl = linkAddr)

inductive TableOp (Sta Phl : Type) where
  | allocCore (hwaddr : Addr)
  | alloc (hwaddr : Addr) (phl : Option Phl)
  | allocSw (hwaddr : Addr) (phl : Option Phl)
  | free (sta : Sta)
  | freeSw (sta : Sta) (phlOk : Bool)
  | freeAll (selfs : List (Option Phl))

def runOp : TableOp Sta Phl → Option (Table Sta Phl)
  | .allocCore hwaddr => some (allocCoreStainfo role s hwaddr).2
  | .alloc hwaddr phl => rtwAllocStainfo role s hwaddr phl
  | .allocSw hwaddr phl => some (rtwAllocStainfoSw role s hwaddr phl)
  | .free sta => rtwFreeStainfo role s sta
  | .freeSw sta phlOk => some (rtwFreeStainfoSw role s sta phlOk)
  | .freeAll selfs => rtwFreeAllStainfo role s selfs

/-- A call under the role as it then is; after an access through NULL there is no table. -/
def step (s : Option (Table Sta Phl)) (call : Role × TableOp Sta Phl) : Option (Table Sta Phl) :=
  s.bind fun s => runOp call.1 s call.2

/-- `_rtw_init_sta_priv`: all stations of the pool are free. -/
def init (pool : List Sta) (macAddr : Phl → Addr) : Table Sta Phl :=
  ⟨pool, fun _ => [], 0, fun _ => none, macAddr, fun _ => []⟩

end

end Rtl8831.Core.StaTable
