import Rtl8831.Mac.RoleTable

/-!
# Keys in the address and security CAM

`security_cam.c`: a key takes a free entry of the security CAM and a slot of
the role's address CAM entry, in the range that its type has in the mode of
the role.  Both CAMs are written through calls that may fail.
-/

namespace Rtl8831.Mac

open Lib

/-- `enum SEC_CAM_KEY_TYPE`; the type itself is a byte of the caller. -/
def keyTypeUni : ℕ := 0
def keyTypeGroup : ℕ := 1
def keyTypeBip : ℕ := 2

/-- `struct mac_ax_sec_cam_info`, as the caller fills it in. -/
structure KeyInfo where
  type : ℕ
  extKey : Bool := false
  sppMode : Bool := false
  key : Fin 4 → ℕ

def hwSupportEncTypeNum : ℕ := 10

/-- `check_key_index`, with `ADDR_CAM_SEC_MODE_ZERO` to `_THREE` as numbers. -/
def checkKeyIndex (mode keyType i : ℕ) : Bool :=
  if mode = 0 ∨ mode = 1 then decide (keyType = keyTypeUni ∧ i ≤ 6)
  else if mode = 2 then
    decide ((keyType = keyTypeUni ∧ i ≤ 1) ∨ (keyType = keyTypeGroup ∧ 2 ≤ i ∧ i ≤ 4) ∨
      (keyType = keyTypeBip ∧ 5 ≤ i ∧ i ≤ 6))
  else if mode = 3 then
    decide ((keyType = keyTypeUni ∧ i ≤ 1) ∨ (keyType = keyTypeGroup ∧ 2 ≤ i ∧ i ≤ 5) ∨
      (keyType = keyTypeBip ∧ i = 6))
  else false

/-- `decide_key_index`; `none` is `MACWNGKEYTYPE`. -/
def decideKeyIndex (mode keyType : ℕ) : Option ℕ :=
  if mode = 0 ∨ mode = 1 then
    if keyType = keyTypeGroup ∨ keyType = keyTypeBip then none else some 0
  else if mode = 2 then
    some (if keyType = keyTypeGroup then 2 else if keyType = keyTypeBip then 5 else 0)
  else if mode = 3 then
    some (if keyType = keyTypeGroup then 2 else if keyType = keyTypeBip then 6 else 0)
  else some 0

/-- The search for the slot in `insert_key_to_addr_cam` and
`delete_key_from_addr_cam`: the first slot from `decide_key_index` on that
meets `p`, else `absent`; it must lie in the range of the type. -/
def findKeyIndex (info : RoleInfo) (keyType : ℕ) (p : SecEnt → Bool) (absent : Ret) :
    Except Ret (Fin 7) :=
  match decideKeyIndex info.a.secEntMode keyType with
  | none => .error .wrongKeyType
  | some keyIndex =>
    match (List.finRange 7).find? fun k => decide (keyIndex ≤ k.val) && p (info.a.secEnt k) with
    | none => .error absent
    | some k =>
      if checkKeyIndex info.a.secEntMode keyType k.val then .ok k else .error .addrCamKeyFull

def setSecEnt (info : RoleInfo) (k : Fin 7) (e : SecEnt) : RoleInfo :=
  { info with a := { info.a with secEnt := Function.update info.a.secEnt k e } }

namespace Adapter

/-- `decide_sec_cam_index`: the first free entry from the storage index on. -/
def decideSecCamIndex (hw : HwInfo) (s : Adapter) : Option ℕ :=
  ((List.range hw.secCamNum).map fun j => (s.nextCamStorageIdx + j) % hw.secCamNum).find? fun i =>
    !(s.secCam i).valid

def mSecurityCamHal (hw : HwInfo) (s : Adapter) (i : ℕ) (e : SecCamEntry) : Adapter :=
  if hw.secCamNum ≤ i then s else { s with secCam := Function.update s.secCam i e }

/-- Slot `k` of the role is written, and the address CAM updated.  Of the
answers only `MACBSSIDCAMFL` is taken for a failure. -/
def writeSlot (hw : HwInfo) (out : Out) (s : Adapter) (role : Role) (k : Fin 7) (e : SecEnt) :
    Ret × Adapter :=
  let info := setSecEnt role.info k e
  let (ret, s') := updAddrCamChg hw out (s.setInfo role.node fun _ => info) { role with info := info }
  (if ret = .bssidCamFull then .bssidCamFull else .success, s')

def insertKeyToAddrCam (hw : HwInfo) (out : Out) (s : Adapter) (role : Role)
    (keyType keyId i : ℕ) : Ret × Adapter :=
  match findKeyIndex role.info keyType (fun e => !e.valid) .addrCamKeyFull with
  | .error ret => (ret, s)
  | .ok k => s.writeSlot hw out role k { valid := true, keyid := keyId, ent := i }

/-- `delete_key_from_addr_cam`, with the entry of the security CAM it returns. -/
def deleteKeyFromAddrCam (hw : HwInfo) (out : Out) (s : Adapter) (role : Role)
    (keyType keyId : ℕ) : Ret × ℕ × Adapter :=
  match findKeyIndex role.info keyType (fun e => decide (e.keyid = keyId) && e.valid)
      .keyNotExist with
  | .error ret => (ret, 0, s)
  | .ok k =>
    let (ret, s') := s.writeSlot hw out role k {}
    (ret, (role.info.a.secEnt k).ent, s')

/-- `mac_sta_add_key`; `out.h2cSecCam` is what `mac_upd_sec_infotbl` answers. -/
def macStaAddKey (hw : HwInfo) (out : Out) (s : Adapter) (info : KeyInfo)
    (macid keyId keyType : ℕ) : Ret × Adapter :=
  if info.type > hwSupportEncTypeNum then (.wrongKeyType, s)
  else
    match s.roleSrch macid with
    | none => (.noRole, s)
    | some role =>
      match s.decideSecCamIndex hw with
      | none => (.secCamFull, s)
      | some i =>
        let s₁ := { s with nextCamStorageIdx := (i + 1) % hw.secCamNum }
        match s₁.insertKeyToAddrCam hw out role keyType keyId i with
        | (.success, s₂) =>
          if !out.h2cSecCam then (.fw, s₂)
          else
            (.success, s₂.mSecurityCamHal hw i
              { valid := true, macid := macid, keyId := keyId, keyType := keyType,
                encType := info.type, extKey := info.extKey, sppMode := info.sppMode,
                key := info.key })
        | (ret, s₂) => (ret, s₂)

def macStaDelKey (hw : HwInfo) (out : Out) (s : Adapter) (macid keyId keyType : ℕ) :
    Ret × Adapter :=
  match s.roleSrch macid with
  | none => (.noRole, s)
  | some role =>
    match s.deleteKeyFromAddrCam hw out role keyType keyId with
    | (.success, i, s₁) =>
      if !out.h2cSecCam then (.fw, s₁)
      else (.success, s₁.mSecurityCamHal hw i (s₁.secCam i).clear)
    | (ret, _, s₁) => (ret, s₁)

inductive KeyOp
  | addKey (out : Out) (info : KeyInfo) (macid keyId keyType : ℕ)
  | delKey (out : Out) (macid keyId keyType : ℕ)
  | flush (macid : ℕ)
  | role (op : RoleOp)

def keyCall (hw : HwInfo) (s : Adapter) : KeyOp → Ret × Adapter
  | .addKey out info macid keyId keyType => s.macStaAddKey hw out info macid keyId keyType
  | .delKey out macid keyId keyType => s.macStaDelKey hw out macid keyId keyType
  | .flush macid =>
    match s.roleSrch macid with
    | none => (.noRole, s)
    | some role => (.success, s.disconnectFlushKey hw role.info)
  | .role op => s.call hw op

def keyStep (hw : HwInfo) (s : Adapter) (op : KeyOp) : Adapter := (s.keyCall hw op).2

variable {hw : HwInfo} {out : Out} {s : Adapter} {info : RoleInfo}

lemma decideSecCamIndex_spec {i : ℕ} (h : s.decideSecCamIndex hw = some i) :
    i < hw.secCamNum ∧ (s.secCam i).valid = false := by
  have hmem := List.mem_of_find?_eq_some h
  obtain ⟨j, hj, rfl⟩ := List.mem_map.1 hmem
  have hpos : 0 < hw.secCamNum := (Nat.zero_le j).trans_lt (List.mem_range.1 hj)
  exact ⟨Nat.mod_lt _ hpos, by simpa using List.find?_some h⟩

variable {keyType : ℕ} {p : SecEnt → Bool}

lemma findKeyIndex_spec {absent : Ret} {k : Fin 7}
    (h : findKeyIndex info keyType p absent = .ok k) :
    p (info.a.secEnt k) = true ∧ checkKeyIndex info.a.secEntMode keyType k.val = true := by
  unfold findKeyIndex at h
  split at h
  · cases h
  · split at h
    · cases h
    · rename_i hfind
      split at h
      · rename_i hchk
        cases h
        have hp := List.find?_some hfind
        rw [Bool.and_eq_true] at hp
        exact ⟨hp.2, hchk⟩
      · cases h

lemma findKeyIndex_error {absent ret : Ret}
    (h : findKeyIndex info keyType p absent = .error ret) (habsent : absent ≠ .success) :
    ret ≠ .success := by
  rintro rfl
  unfold findKeyIndex at h
  split at h
  · cases h
  · split at h
    · cases h
      exact habsent rfl
    · split at h <;> cases h

lemma writeSlot_eq (hw : HwInfo) (out : Out) (s : Adapter) (role : Role) (k : Fin 7) (e : SecEnt) :
    ∃ idx hwb, (s.writeSlot hw out role k e).2 =
        { (s.setInfo role.node fun _ => setBssidIdx (setSecEnt role.info k e) idx) with
          hwBssid := hwb } ∧
      ((s.writeSlot hw out role k e).1 = .success ↔ (findAvailBssidCam hw
        (eraseKey Role.node role.node s.list) role.info).isSome = true) := by
  have herase : eraseKey Role.node role.node
      (s.setInfo role.node fun _ => setSecEnt role.info k e).list =
      eraseKey Role.node role.node s.list := eraseKey_modifyKey fun _ => rfl
  have hsearch : findAvailBssidCam hw (eraseKey Role.node role.node s.list)
      (setSecEnt role.info k e) =
      findAvailBssidCam hw (eraseKey Role.node role.node s.list) role.info :=
    findAvailBssidCam_congr fun _ => rfl
  unfold writeSlot
  dsimp only
  rw [updAddrCamChg_eq]
  dsimp only
  rw [herase, hsearch]
  simp only [setInfo_setInfo]
  cases findAvailBssidCam hw (eraseKey Role.node role.node s.list) role.info with
  | none => exact ⟨hw.bssidNum, s.hwBssid, rfl, by simp⟩
  | some idx =>
    dsimp only
    by_cases hh2c : out.fwReady = true ∧ ¬out.h2cAddrCam = true
    · simp only [if_pos hh2c]
      exact ⟨idx, s.hwBssid, rfl, by simp⟩
    · simp only [if_neg hh2c]
      exact ⟨idx, _, rfl, by simp⟩

end Adapter
end Rtl8831.Mac
