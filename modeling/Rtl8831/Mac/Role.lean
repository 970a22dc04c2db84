import Rtl8831.Lib.Keyed

/-!
# The MAC role table and its CAMs

`role.c` keeps a node for every macid, in the free pool or in the role list.
A role in the list has an entry of the address CAM and one of the BSSID CAM
(`addr_cam.c`), the latter shared by the roles of one BSSID and band, and up
to seven key slots that refer to entries of the security CAM
(`security_cam.c`).  Firmware calls may fail; what each of them answers is
part of the call.
-/

namespace Rtl8831.Mac

open Lib

/-! ## The security CAM -/

/-- `struct sec_cam_entry_t`, with what it points to. -/
structure SecCamEntry where
  valid : Bool := false
  macid : ℕ := 0
  keyId : ℕ := 0
  keyType : ℕ := 0
  encType : ℕ := 0
  extKey : Bool := false
  sppMode : Bool := false
  key : Fin 4 → ℕ := fun _ => 0

/-- `m_security_cam_hal` with `clear`: the last word of the key is left. -/
def SecCamEntry.clear (e : SecCamEntry) : SecCamEntry :=
  { key := fun i => if i.val < 3 then 0 else e.key i }

/-- A key slot of the address CAM: `sec_ent_valid`, `sec_ent_keyid`, `sec_ent`. -/
structure SecEnt where
  valid : Bool := false
  keyid : ℕ := 0
  ent : ℕ := 0
  deriving DecidableEq

/-! ## Roles -/

/-- The part of `struct mac_ax_addr_cam_info` that is not copied from the role. -/
structure AddrCamInfo where
  valid : Bool := false
  addrCamIdx : ℕ := 0
  bssidCamIdx : ℕ := 0
  secEntMode : ℕ := 0
  secEnt : Fin 7 → SecEnt := fun _ => {}

structure BssidCamInfo where
  valid : Bool := false
  bssidCamIdx : ℕ := 0
  deriving DecidableEq

inductive NetType
  | noLink
  | adhoc
  | infra
  | ap
  deriving DecidableEq

inductive SelfRole
  | client
  | ap
  | apClient
  deriving DecidableEq

inductive UpdMode
  | create
  | remove
  | typeChange
  | infoChange
  | conDisconn
  | bandSw
  | fwRestore
  deriving DecidableEq

/-- `struct mac_ax_role_info`, with the fields the role functions read.
`bssidMsk` is `mask_sel == MAC_AX_BSSID_MSK`, `virt` is
`wifi_role == MAC_AX_WIFI_ROLE_VIRTUAL`. -/
structure RoleInfo where
  macid : ℕ
  band : ℕ
  bssid : Fin 6 → ℕ
  selfMac : Fin 6 → ℕ
  targetMac : Fin 6 → ℕ
  netType : NetType := .infra
  selfRole : SelfRole := .client
  virt : Bool := false
  isMulEnt : Bool := false
  updMode : UpdMode := .create
  disconn : Bool := true
  wmm : ℕ := 0
  bssidMsk : Bool := false
  addrMask : ℕ := 0
  secEntMode : ℕ := 0
  dbccRole : Bool := false
  a : AddrCamInfo := {}
  b : BssidCamInfo := {}

/-- `struct mac_role_tbl`; `node` is its address. -/
structure Role where
  node : ℕ
  macid : ℕ
  info : RoleInfo

/-- `struct mac_ax_hw_info`, with `SEC_CAM_ENTRY_NUM`.  `noBand1` is one of the
chips 8852B, 8851B and 8852BT. -/
structure HwInfo where
  macidNum : ℕ
  macidNum_le : macidNum ≤ 256
  bssidNum : ℕ
  secCamNum : ℕ
  noBand1 : Bool

/-- The tables of the adapter.  `hwBssid` tells which entries of the BSSID CAM
the hardware was last told to be valid. -/
structure Adapter where
  list : List Role := []
  pool : List Role := []
  hwBssid : ℕ → Bool := fun _ => false
  secCam : ℕ → SecCamEntry := fun _ => {}
  nextCamStorageIdx : ℕ := 0

inductive Ret
  | success
  | bufAlloc
  | funcInput
  | samacid
  | noItem
  | macidFull
  | roleInitFail
  | fw
  | addrCamFull
  | bssidCamFull
  | noRole
  | dbcc
  | wrongKeyType
  | secCamFull
  | keyNotExist
  | addrCamKeyFull
  deriving DecidableEq

/-- What the calls out of the role code answer.  Without `fwReady` the firmware
calls are skipped and the CAMs are written directly. -/
structure Out where
  fwReady : Bool := true
  macidPause : Bool := true
  dbccAdd : Bool := true
  dbccMove : Bool := true
  dbccRm : Bool := true
  fwRole : Bool := true
  joinInfo : Bool := true
  h2cAddrCam : Bool := true
  h2cSecCam : Bool := true

namespace Adapter

def roleSrch (s : Adapter) (macid : ℕ) : Option Role :=
  lookupKey Role.macid macid s.list

def srchByAddrCam (list : List Role) (i : ℕ) : Option Role :=
  list.find? fun r => decide (r.info.a.addrCamIdx = i) && r.info.a.valid

def srchByBssid (list : List Role) (i : ℕ) : Option Role :=
  list.find? fun r => decide (r.info.b.bssidCamIdx = i) && r.info.a.valid

/-- The checks of `role_info_valid` on the request alone. -/
def infoChecks (hw : HwInfo) (info : RoleInfo) : Bool :=
  let groupBitClear :=
    (decide (info.netType ≠ .ap) && !(info.selfMac 0).testBit 0) ||
      (decide (info.netType = .ap) && !(info.bssid 0).testBit 0)
  !decide (info.netType = .infra ∧ (info.selfRole = .ap ∨ info.selfRole = .apClient)) &&
    !decide (info.netType = .ap ∧ info.selfRole = .client) &&
    !decide (info.selfRole = .ap ∧ info.netType = .ap ∧
      (info.selfMac ≠ info.bssid ∨ info.targetMac ≠ info.bssid)) &&
    !decide (info.isMulEnt = groupBitClear) &&
    !decide (hw.noBand1 ∧ (info.wmm ≥ 2 ∨ info.band = 1)) &&
    !decide (info.band ≥ 2)

def roleInfoValid (hw : HwInfo) (s : Adapter) (info : RoleInfo) (add : Bool) : Ret :=
  if add && !info.disconn then .funcInput
  else if add && decide (info.updMode ≠ .create) then .funcInput
  else if add && (s.roleSrch info.macid).isSome then .samacid
  else if !add && decide (info.updMode = .create) then .funcInput
  else if !add && (s.roleSrch info.macid).isNone then .noItem
  else if infoChecks hw info then .success
  else .funcInput

/-- `role_info_init`: what it derives of the CAM contents kept here. -/
def roleInfoInit (info : RoleInfo) : RoleInfo :=
  { info with
    a := { info.a with secEntMode := info.secEntMode }
    b := { info.b with valid := true } }

def secInfoInit (info : RoleInfo) : RoleInfo :=
  { info with a := { info.a with secEnt := fun _ => {} } }

/-! ## Entries of the address and BSSID CAM -/

def findAvailAddrCam (hw : HwInfo) (list : List Role) : Option ℕ :=
  (List.range hw.macidNum).find? fun i => (srchByAddrCam list i).isNone

/-- The number of leading bytes of the BSSID that are compared; a mask counts
by its set bits. -/
def cmpLen (info : RoleInfo) : ℕ :=
  if info.bssidMsk then (List.range 8).countP fun i => info.addrMask.testBit i else 6

/-- `info` shares the entry of a role with `info'`: its own mask decides. -/
def bssidHit (info info' : RoleInfo) : Bool :=
  decide (∀ i : Fin 6, i.val < cmpLen info → info.bssid i = info'.bssid i) &&
    decide (info.band = info'.band)

/-- The loop of `find_avail_bssid_cam_entry`: the entry of the first hit, else
the first entry without a role. -/
def bssidLoop (list : List Role) (info : RoleInfo) : Option ℕ → List ℕ → Option ℕ
  | free, [] => free
  | free, i :: is =>
    match srchByBssid list i with
    | some r =>
      if bssidHit info r.info then some r.info.a.bssidCamIdx else bssidLoop list info free is
    | none => bssidLoop list info (free.or (some i)) is

def findAvailBssidCam (hw : HwInfo) (list : List Role) (info : RoleInfo) : Option ℕ :=
  bssidLoop list info none (List.range hw.bssidNum)

def setBssidIdx (info : RoleInfo) (k : ℕ) : RoleInfo :=
  { info with a := { info.a with bssidCamIdx := k }, b := { info.b with bssidCamIdx := k } }

/-- `change_addr_cam_info` and the update after it.  The index is reset before
the search; `list` is what the search looks at. -/
def updBssid (hw : HwInfo) (out : Out) (list : List Role) (info : RoleInfo) (hwBssid : ℕ → Bool) :
    Ret × RoleInfo × (ℕ → Bool) :=
  match findAvailBssidCam hw list info with
  | none => (.bssidCamFull, setBssidIdx info hw.bssidNum, hwBssid)
  | some k =>
    if out.fwReady ∧ ¬out.h2cAddrCam then (.fw, setBssidIdx info k, hwBssid)
    else (.success, setBssidIdx info k, Function.update hwBssid k info.b.valid)

/-- `mac_upd_addr_cam` with `ADD`, for a role that is not in the list yet. -/
def updAddrCamAdd (hw : HwInfo) (out : Out) (s : Adapter) (info : RoleInfo) :
    Ret × RoleInfo × (ℕ → Bool) :=
  match findAvailAddrCam hw s.list with
  | none => (.addrCamFull, info, s.hwBssid)
  | some i => updBssid hw out s.list { info with a := { info.a with addrCamIdx := i % 256 } } s.hwBssid

def setInfo (s : Adapter) (node : ℕ) (f : RoleInfo → RoleInfo) : Adapter :=
  { s with list := modifyKey Role.node node (fun r => { r with info := f r.info }) s.list }

/-- `mac_upd_addr_cam` with `CHG`, for a role of the list. -/
def updAddrCamChg (hw : HwInfo) (out : Out) (s : Adapter) (role : Role) : Ret × Adapter :=
  let searched := (s.setInfo role.node fun i => setBssidIdx i hw.bssidNum).list
  let (ret, info, hwBssid) := updBssid hw out searched role.info s.hwBssid
  (ret, { (s.setInfo role.node fun _ => info) with hwBssid := hwBssid })

/-! ## Adding a role -/

/-- `role_add_fail`: the node goes back to the pool.  With `dbcc_role` set the
result of `dbcc_wmm_rm_macid` takes the place of the error. -/
def roleAddFail (out : Out) (s : Adapter) (role : Role) (ret : Ret) : Ret × Adapter :=
  (if role.info.dbccRole then (if out.dbccRm then .success else .dbcc) else ret,
    { s with pool := s.pool ++ [role] })

/-- `_add_role` once the node `role` is filled in. -/
def addRoleFw (hw : HwInfo) (out : Out) (s : Adapter) (role : Role) : Ret × Adapter :=
  if !role.info.virt && !role.info.isMulEnt && out.fwReady && !out.fwRole then
    roleAddFail out s role .fw
  -- the node is in neither list from here on
  else if decide (role.info.selfRole = .ap) && out.fwReady && !out.joinInfo then (.fw, s)
  else
    match updAddrCamAdd hw out s role.info with
    | (.addrCamFull, info, _) => roleAddFail out s { role with info := info } .addrCamFull
    | (.bssidCamFull, info, _) => roleAddFail out s { role with info := info } .bssidCamFull
    | (_, info, hwBssid) =>
      (.success, { s with list := s.list ++ [{ role with info := info }], hwBssid := hwBssid })

/-- The information `_add_role` stores in the node. -/
def addInfo (info : RoleInfo) : RoleInfo :=
  roleInfoInit (secInfoInit { info with a := { info.a with valid := true } })

def addRole (hw : HwInfo) (out : Out) (s : Adapter) (info : RoleInfo) : Ret × Adapter :=
  match s.pool with
  | [] => (.bufAlloc, s)
  | role :: pool =>
    let s₀ := { s with pool := pool }
    if roleInfoValid hw s info true ≠ .success then
      roleAddFail out s₀ role (roleInfoValid hw s info true)
    else if s.list.length > hw.macidNum then roleAddFail out s₀ role .macidFull
    -- `role_init`
    else if !out.macidPause then roleAddFail out s₀ role .roleInitFail
    else if info.dbccRole && !out.dbccAdd then
      roleAddFail out s₀ { role with macid := info.macid } .roleInitFail
    else addRoleFw hw out s₀ { role with macid := info.macid, info := addInfo info }

/-! ## Changing a role -/

/-- `disconnect_flush_key`: the entries of the valid slots are cleared. -/
def disconnectFlushKey (hw : HwInfo) (s : Adapter) (info : RoleInfo) : Adapter :=
  { s with secCam := fun i =>
      if i < hw.secCamNum ∧ ∃ k, (info.a.secEnt k).valid = true ∧ (info.a.secEnt k).ent = i then
        (s.secCam i).clear
      else s.secCam i }

def secInfoDeinit (hw : HwInfo) (s : Adapter) (role : Role) : Adapter :=
  (s.disconnectFlushKey hw role.info).setInfo role.node fun i =>
    { i with a := { i.a with secEntMode := 0, secEnt := fun _ => {} } }

def joinFails (out : Out) : Bool := out.fwReady && !out.joinInfo

/-- The steps of `_change_role` for each `upd_mode`, up to the CAM update. -/
def changeSteps (hw : HwInfo) (out : Out) (s : Adapter) (role : Role) : Option Ret × Adapter :=
  let info := role.info
  match info.updMode with
  | .typeChange =>
    if info.selfRole = .ap ∧ joinFails out then (some .fw, s) else (none, s)
  | .remove =>
    if !info.virt && !info.isMulEnt && out.fwReady && !out.fwRole then (some .fw, s) else (none, s)
  | .fwRestore =>
    if !info.virt && !info.isMulEnt && out.fwReady && !out.fwRole then (some .fw, s)
    else if info.selfRole = .ap ∧ joinFails out then (some .fw, s) else (none, s)
  | .conDisconn =>
    let s' := if info.disconn then s.secInfoDeinit hw role else s
    if joinFails out then (some .fw, s') else (none, s')
  | .infoChange | .bandSw =>
    if info.selfRole ≠ .client ∧ joinFails out then (some .fw, s) else (none, s)
  | .create => (some .success, s)

/-- The information `_change_role` stores: the request, with the CAM contents of
the role. -/
def changeInfo (role : Role) (info : RoleInfo) : RoleInfo :=
  roleInfoInit { info with a := role.info.a, b := role.info.b, dbccRole := role.info.dbccRole }

def changeRole (hw : HwInfo) (out : Out) (s : Adapter) (info : RoleInfo) : Ret × Adapter :=
  if roleInfoValid hw s info false ≠ .success then (roleInfoValid hw s info false, s)
  else
    match s.roleSrch info.macid with
    | none => (.noItem, s)
    | some role =>
      if info.updMode = .bandSw ∧ ¬role.info.dbccRole then (.funcInput, s)
      else if info.updMode = .bandSw ∧ ¬out.dbccMove then (.dbcc, s)
      else
        let role' : Role := { role with info := changeInfo role info }
        let s₁ := s.setInfo role.node fun _ => role'.info
        match changeSteps hw out s₁ role' with
        | (some ret, s₂) => (ret, s₂)
        | (none, s₂) =>
          match lookupKey Role.node role.node s₂.list with
          | some role₂ => updAddrCamChg hw out s₂ role₂
          | none => (.noItem, s₂)

/-! ## Removing roles -/

def roleReturn (s : Adapter) (role : Role) : Adapter :=
  { s with
    list := eraseKey Role.node role.node s.list
    pool := s.pool ++ [role] }

/-- The marks `_remove_role` puts on the role before it calls `_change_role`. -/
def removeMark (info : RoleInfo) : RoleInfo :=
  { info with a := { info.a with valid := false }, updMode := .remove, disconn := true }

def removeRole (hw : HwInfo) (out : Out) (s : Adapter) (macid : ℕ) : Ret × Adapter :=
  match s.roleSrch macid with
  | none => (.noRole, s)
  | some role =>
    let s₁ := s.setInfo role.node removeMark
    let info : RoleInfo :=
      if (srchByBssid s₁.list role.info.a.bssidCamIdx).isNone then
        { removeMark role.info with b := { role.info.b with valid := false } }
      else removeMark role.info
    match (s₁.setInfo role.node fun _ => info).changeRole hw out info with
    | (.success, s₂) =>
      match lookupKey Role.node role.node s₂.list with
      | none => (.noRole, s₂)
      | some role₂ =>
        if role₂.info.dbccRole then
          let role₃ : Role := { role₂ with info := { role₂.info with dbccRole := false } }
          let s₃ := s₂.setInfo role.node fun _ => role₃.info
          if !out.dbccRm then (.dbcc, s₃) else (.success, s₃.roleReturn role₃)
        else (.success, s₂.roleReturn role₂)
    | (ret, s₂) => (ret, s₂)

def removeRoleSoft (s : Adapter) (macid : ℕ) : Ret × Adapter :=
  match s.roleSrch macid with
  | none => (.noRole, s)
  | some role => (.success, s.roleReturn role)

/-- The loop of `_remove_role_by_band` over the roles of the list; `outs` gives
the answers for each macid. -/
def removeLoop (hw : HwInfo) (outs : ℕ → Out) (band : ℕ) (sw : Bool) :
    List Role → Adapter → Ret × Adapter
  | [], s => (.success, s)
  | r :: rs, s =>
    if band = r.info.band then
      match if sw then s.removeRoleSoft r.macid else s.removeRole hw (outs r.macid) r.macid with
      | (.success, s') => removeLoop hw outs band sw rs s'
      | (.noRole, s') => removeLoop hw outs band sw rs s'
      | (ret, s') => (ret, s')
    else removeLoop hw outs band sw rs s

def removeRoleByBand (hw : HwInfo) (outs : ℕ → Out) (s : Adapter) (band : ℕ) (sw : Bool) :
    Ret × Adapter :=
  removeLoop hw outs band sw s.list s

end Adapter
end Rtl8831.Mac
