import Rtl8831.Mac.KeyTable

/-!
# Keys of the roles over whole runs

The condition on each operation, what it keeps and promises, and the result
for every run of key and role operations that meet it.
-/

namespace Rtl8831.Mac

open Lib List

variable {hw : HwInfo} {out : Out} {s s' : Adapter} {info : RoleInfo} {role : Role}

namespace Adapter

def keySlots (r : Role) : ℕ × ℕ × (Fin 7 → SecEnt) := (r.node, r.macid, r.info.a.secEnt)

def KeysUnchanged (s s' : Adapter) : Prop :=
  s'.list.map keySlots = s.list.map keySlots ∧ s'.secCam = s.secCam

lemma KeysOk.congr (h : s.KeysOk hw) (hlist : s'.list = s.list)
    (hpool : (s'.pool.map Role.node).Nodup ∧
      ∀ n ∈ s'.pool.map Role.node, n ∈ s.pool.map Role.node)
    (hsec : s'.secCam = s.secCam) : s'.KeysOk hw where
  node_nodup := by
    have hall := h.node_nodup
    rw [map_append, nodup_append] at hall ⊢
    rw [hlist]
    exact ⟨hall.1, hpool.1, fun a ha b hb => hall.2.2 a ha b (hpool.2 b hb)⟩
  macid_nodup := hlist ▸ h.macid_nodup
  macid_eq := hlist ▸ h.macid_eq
  slot_ok := by
    rw [hlist, hsec]
    exact h.slot_ok
  slot_inj := hlist ▸ h.slot_inj
  entry_ref := by
    rw [hlist, hsec]
    exact h.entry_ref
  freed := hsec ▸ h.freed

lemma KeysOk.same (h : s.KeysOk hw) (hlist : s'.list = s.list) (hpool : s'.pool = s.pool)
    (hsec : s'.secCam = s.secCam) : s'.KeysOk hw := by
  apply h.congr hlist ?_ hsec
  have hall := h.node_nodup
  rw [map_append] at hall
  rw [hpool]
  exact ⟨hall.of_append_right, fun _ hn => hn⟩

/-- The condition on `mac_sta_add_key`: once the slot is chosen the updates of
both CAMs succeed. -/
def AddKeyOk (hw : HwInfo) (out : Out) (s : Adapter) (info : KeyInfo) (macid keyType : ℕ) : Prop :=
  info.type ≤ hwSupportEncTypeNum → (s.decideSecCamIndex hw).isSome = true →
    ∀ role, s.roleSrch macid = some role →
      (findKeyIndex role.info keyType (fun e => !e.valid) .addrCamKeyFull).toBool = true →
        (findAvailBssidCam hw (eraseKey Role.node role.node s.list) role.info).isSome = true ∧
          out.h2cSecCam = true

instance (info : KeyInfo) (macid keyType : ℕ) : Decidable (AddKeyOk hw out s info macid keyType) :=
  inferInstanceAs (Decidable (_ → _ → ∀ role ∈ s.roleSrch macid, _ → _))

/-- The condition on `mac_sta_del_key`: once the slot is found the updates of
both CAMs succeed, and the last word of the key is 0. -/
def DelKeyOk (hw : HwInfo) (out : Out) (s : Adapter) (macid keyId keyType : ℕ) : Prop :=
  ∀ role, s.roleSrch macid = some role →
    ∀ k ∈ (findKeyIndex role.info keyType (fun e => decide (e.keyid = keyId) && e.valid)
        .keyNotExist).toOption,
      (findAvailBssidCam hw (eraseKey Role.node role.node s.list) role.info).isSome = true ∧
        out.h2cSecCam = true ∧ (s.secCam (role.info.a.secEnt k).ent).key 3 = 0

instance (macid keyId keyType : ℕ) : Decidable (DelKeyOk hw out s macid keyId keyType) :=
  inferInstanceAs (Decidable (∀ role ∈ s.roleSrch macid, _))

lemma KeysOk.macStaAddKey (h : s.KeysOk hw) {key : KeyInfo} {macid keyId keyType : ℕ}
    (hok : AddKeyOk hw out s key macid keyType) :
    (s.macStaAddKey hw out key macid keyId keyType).2.KeysOk hw ∧
      ((s.macStaAddKey hw out key macid keyId keyType).1 ≠ .success →
        KeysUnchanged s (s.macStaAddKey hw out key macid keyId keyType).2) := by
  rw [Adapter.macStaAddKey]
  by_cases htype : key.type > hwSupportEncTypeNum
  · rw [if_pos htype]
    exact ⟨h, fun _ => ⟨rfl, rfl⟩⟩
  rw [if_neg htype]
  cases hsrch : s.roleSrch macid with
  | none => exact ⟨h, fun _ => ⟨rfl, rfl⟩⟩
  | some role =>
    obtain ⟨hrole, hmacid⟩ := mem_of_lookupKey hsrch
    dsimp only
    cases hidx : s.decideSecCamIndex hw with
    | none => exact ⟨h, fun _ => ⟨rfl, rfl⟩⟩
    | some i =>
      obtain ⟨hi, hfree⟩ := decideSecCamIndex_spec hidx
      dsimp only
      rw [insertKeyToAddrCam]
      cases hslot : findKeyIndex role.info keyType (fun e => !e.valid) .addrCamKeyFull with
      | error ret =>
        have hret : ret ≠ .success := findKeyIndex_error hslot (by simp)
        have hres : KeysOk hw { s with nextCamStorageIdx := (i + 1) % hw.secCamNum } ∧
            KeysUnchanged s { s with nextCamStorageIdx := (i + 1) % hw.secCamNum } :=
          ⟨h.same rfl rfl rfl, rfl, rfl⟩
        cases ret with
        | success => exact absurd rfl hret
        | _ => exact ⟨hres.1, fun _ => hres.2⟩
      | ok k =>
        obtain ⟨hfound, hh2c⟩ := hok (Nat.le_of_not_lt htype) (by rw [hidx]; rfl) role hsrch
          (by rw [hslot]; rfl)
        obtain ⟨hempty, hchk⟩ := findKeyIndex_spec hslot
        dsimp only
        obtain ⟨idx, hwb, hst, hret⟩ := writeSlot_eq hw out
          { s with nextCamStorageIdx := (i + 1) % hw.secCamNum } role k
          { valid := true, keyid := keyId, ent := i }
        have hsucc := hret.2 hfound
        generalize writeSlot hw out { s with nextCamStorageIdx := (i + 1) % hw.secCamNum }
          role k { valid := true, keyid := keyId, ent := i } = res at hst hsucc
        obtain ⟨ret, s₂⟩ := res
        obtain rfl : ret = .success := hsucc
        obtain rfl : s₂ = _ := hst
        dsimp only
        rw [hh2c, Bool.not_true, if_neg (by simp), mSecurityCamHal, if_neg (by omega)]
        refine ⟨?_, fun hne => absurd rfl hne⟩
        exact h.addSlot hrole (by simpa using hempty) hi hfree rfl rfl rfl rfl hmacid.symm rfl
          hchk

lemma KeysOk.macStaDelKey (h : s.KeysOk hw) {macid keyId keyType : ℕ}
    (hok : DelKeyOk hw out s macid keyId keyType) :
    (s.macStaDelKey hw out macid keyId keyType).2.KeysOk hw ∧
      ((s.macStaDelKey hw out macid keyId keyType).1 ≠ .success →
        KeysUnchanged s (s.macStaDelKey hw out macid keyId keyType).2) := by
  rw [Adapter.macStaDelKey]
  cases hsrch : s.roleSrch macid with
  | none => exact ⟨h, fun _ => ⟨rfl, rfl⟩⟩
  | some role =>
    obtain ⟨hrole, -⟩ := mem_of_lookupKey hsrch
    dsimp only
    rw [deleteKeyFromAddrCam]
    cases hslot : findKeyIndex role.info keyType (fun e => decide (e.keyid = keyId) && e.valid)
        .keyNotExist with
    | error ret =>
      have hret : ret ≠ .success := findKeyIndex_error hslot (by simp)
      cases ret with
      | success => exact absurd rfl hret
      | _ => exact ⟨h, fun _ => ⟨rfl, rfl⟩⟩
    | ok k =>
      obtain ⟨hfound, hh2c, hlast⟩ := hok role hsrch k (by rw [hslot]; rfl)
      have hvalid := (findKeyIndex_spec hslot).1
      rw [Bool.and_eq_true] at hvalid
      have hlt := (h.slot_ok role hrole k hvalid.2).lt
      dsimp only
      obtain ⟨idx, hwb, hst, hret⟩ := writeSlot_eq hw out s role k {}
      have hsucc := hret.2 hfound
      generalize s.writeSlot hw out role k {} = res at hst hsucc
      obtain ⟨ret, s₁⟩ := res
      obtain rfl : ret = .success := hsucc
      obtain rfl : s₁ = _ := hst
      dsimp only
      rw [hh2c, Bool.not_true, if_neg (by simp), mSecurityCamHal, if_neg (by omega)]
      refine ⟨?_, fun hne => absurd rfl hne⟩
      exact h.dropSlot hrole hvalid.2 rfl rfl rfl hlast

/-- The condition on `disconnect_flush_key` called by itself: the role has no keys. -/
def FlushOk (s : Adapter) (macid : ℕ) : Prop :=
  ∀ role, s.roleSrch macid = some role → NoKeys role.info

instance (macid : ℕ) : Decidable (FlushOk s macid) :=
  inferInstanceAs (Decidable (∀ role ∈ s.roleSrch macid, _))

lemma disconnectFlushKey_noKeys (h : NoKeys info) : s.disconnectFlushKey hw info = s := by
  have hcam : (s.disconnectFlushKey hw info).secCam = s.secCam := by
    funext i
    simp only [disconnectFlushKey]
    rw [if_neg]
    rintro ⟨-, k, hk, -⟩
    rw [h k] at hk
    cases hk
  exact congrArg (fun cam => { s with secCam := cam }) hcam

lemma KeysOk.addRole (h : s.KeysOk hw) (out : Out) (info : RoleInfo) :
    (s.addRole hw out info).2.KeysOk hw := by
  have hcase := addRole_cases hw out s info
  have hall := h.node_nodup
  rw [map_append] at hall
  have hpoolnd := hall.of_append_right
  generalize s.addRole hw out info = res at hcase
  cases hcase with
  | refused hun hlist hsec =>
    apply h.congr hlist ?_ hsec
    exact ⟨hun.2.1.nodup_iff.2 hpoolnd, fun _ hn => hun.2.1.mem_iff.1 hn⟩
  | lost _ _ hlist hpool hsec =>
    apply h.congr hlist ?_ hsec
    exact ⟨hpoolnd.sublist hpool, fun _ hn => hpool.subset hn⟩
  | @accepted node pool i k hwb hreach _ hpool _ _ _ =>
    simp only [addReaches, Bool.and_eq_true, decide_eq_true_eq] at hreach
    obtain ⟨hsrch, -⟩ := roleInfoValid_add hreach.1.1.1.1.2
    -- the new role has no keys
    have hempty : ∀ l, ((addedInfo info i k).a.secEnt l).valid = false := fun _ => rfl
    set role : Role := { node with macid := info.macid, info := addedInfo info i k } with hrole
    have hmem : ∀ x, x ∈ s.list ++ [role] → x ∈ s.list ∨ x = role := by
      intro x hx
      rcases mem_append.1 hx with hx | hx
      · exact .inl hx
      · exact .inr (mem_singleton.1 hx)
    constructor
    · refine List.Perm.nodup_iff ?_ |>.1 h.node_nodup
      rw [hpool]
      simp [hrole]
    · change ((s.list ++ [role]).map Role.macid).Nodup
      rw [map_append, nodup_append]
      refine ⟨h.macid_nodup, by simp, ?_⟩
      rintro a ha b hb rfl
      obtain ⟨t, ht, rfl⟩ := mem_map.1 ha
      rw [map_singleton, mem_singleton] at hb
      have hfound : s.roleSrch info.macid = some t := by
        change t.macid = info.macid at hb
        rw [← hb]
        exact lookupKey_of_mem h.macid_nodup ht
      rw [hsrch] at hfound
      cases hfound
    · intro x hx
      rcases hmem x hx with hx | rfl
      · exact h.macid_eq x hx
      · rfl
    · intro x hx l hl
      rcases hmem x hx with hx | rfl
      · exact h.slot_ok x hx l hl
      · cases (hempty l).symm.trans hl
    · intro x hx y hy l m hl hm hent
      rcases hmem x hx with hx | rfl
      · rcases hmem y hy with hy | rfl
        · exact h.slot_inj x hx y hy l m hl hm hent
        · cases (hempty m).symm.trans hm
      · cases (hempty l).symm.trans hl
    · intro j hj
      obtain ⟨r, hr, hk⟩ := h.entry_ref j hj
      exact ⟨r, mem_append_left _ hr, hk⟩
    · exact h.freed

/-- The condition on `mac_change_role`: the keys fit the new mode, or on a
disconnection their last words are 0. -/
def ChangeKeysOk (hw : HwInfo) (out : Out) (s : Adapter) (info : RoleInfo) : Prop :=
  ∀ role, s.roleSrch info.macid = some role → changeReaches hw out s role info = true →
    if deinits info then
      ∀ k, (role.info.a.secEnt k).valid = true →
        (s.secCam (role.info.a.secEnt k).ent).key 3 = 0
    else ModeFits s.secCam role.info info.secEntMode

instance : Decidable (ChangeKeysOk hw out s info) :=
  inferInstanceAs (Decidable (∀ role ∈ s.roleSrch info.macid, _ = true → if deinits info = true then _ else _))

lemma KeysOk.changed (h : s.KeysOk hw) (hok : ChangeKeysOk hw out s info)
    (hsrch : s.roleSrch info.macid = some role) (hreach : changeReaches hw out s role info = true)
    {j : RoleInfo} (hj : ∃ i b, j = { storedInfo (changeInfo role info) with
      a := { (storedInfo (changeInfo role info)).a with bssidCamIdx := i }, b := b })
    (hwb : ℕ → Bool) : (changed hw s role.node (changeInfo role info) j hwb).KeysOk hw := by
  obtain ⟨hrole, hmacid⟩ := mem_of_lookupKey hsrch
  obtain ⟨i, b, rfl⟩ := hj
  have hcond := hok role hsrch hreach
  have hd : deinits (changeInfo role info) = deinits info := rfl
  cases hdeinit : deinits info with
  | true =>
    rw [hdeinit, if_pos rfl] at hcond
    have hst : storedInfo (changeInfo role info) = { changeInfo role info with
        a := { (changeInfo role info).a with secEntMode := 0, secEnt := fun _ => {} } } := by
      rw [storedInfo, hd, hdeinit, if_pos rfl]
    rw [hst]
    refine h.flushed hrole rfl rfl ?_ hmacid.symm (fun _ => rfl) hcond
    change flushedCam hw s (changeInfo role info) = _
    rw [flushedCam, hd, hdeinit, if_pos rfl]
    rfl
  | false =>
    rw [hdeinit, if_neg (by simp)] at hcond
    have hst : storedInfo (changeInfo role info) = changeInfo role info := by
      rw [storedInfo, hd, hdeinit]
      rfl
    rw [hst]
    refine h.setMode hrole rfl rfl ?_ hmacid.symm rfl hcond
    change flushedCam hw s (changeInfo role info) = _
    rw [flushedCam, hd, hdeinit]
    rfl

lemma KeysOk.changeRole (h : s.KeysOk hw) (hok : ChangeKeysOk hw out s info) :
    (s.changeRole hw out info).2.KeysOk hw := by
  have hcase := changeRole_cases hw out info h.list_nodup
  generalize s.changeRole hw out info = res at hcase
  cases hcase with
  | refused _ _ => exact h
  | stopped hsrch hreach _ => exact h.changed hok hsrch hreach ⟨_, _, rfl⟩ _
  | full hsrch hreach _ _ => exact h.changed hok hsrch hreach ⟨_, _, rfl⟩ _
  | unsent hsrch hreach _ _ _ => exact h.changed hok hsrch hreach ⟨_, _, rfl⟩ _
  | sent hsrch hreach _ _ _ => exact h.changed hok hsrch hreach ⟨_, _, rfl⟩ _

lemma NoKeys.modeFits (h : NoKeys info) (cam : ℕ → SecCamEntry) (mode : ℕ) :
    ModeFits cam info mode := by
  intro k hk
  rw [h k] at hk
  cases hk

lemma KeysOk.erase (h : s.KeysOk hw) (hr : role ∈ s.list) (hno : NoKeys role.info) {role' : Role}
    (hnode : role'.node = role.node)
    (hlist : s'.list = eraseKey Role.node role.node s.list) (hpool : s'.pool = s.pool ++ [role'])
    (hsec : s'.secCam = s.secCam) : s'.KeysOk hw := by
  have hmem : ∀ x ∈ s'.list, x ∈ s.list := by
    intro x hx
    rw [hlist] at hx
    exact (mem_eraseKey.1 hx).1
  constructor
  · have hperm := ((perm_eraseKey h.list_nodup hr).map Role.node).append_right
      (s.pool.map Role.node)
    have hall := h.node_nodup
    rw [map_append, ← hperm.nodup_iff] at hall
    refine List.Perm.nodup_iff ?_ |>.1 hall
    rw [hlist, hpool]
    simp only [map_append, map_cons, map_nil, hnode, ← append_assoc]
    exact (perm_append_singleton _ _).symm
  · rw [hlist]
    exact h.macid_nodup.sublist (filter_sublist.map _)
  · exact fun x hx => h.macid_eq x (hmem x hx)
  · intro x hx k hk
    rw [hsec]
    exact h.slot_ok x (hmem x hx) k hk
  · exact fun x hx y hy => h.slot_inj x (hmem x hx) y (hmem y hy)
  · intro i hi
    rw [hsec] at hi
    obtain ⟨r, hrm, k, hk, hent⟩ := h.entry_ref i hi
    refine ⟨r, ?_, k, hk, hent⟩
    rw [hlist]
    refine mem_eraseKey.2 ⟨hrm, fun hne => ?_⟩
    obtain rfl := eq_of_key_eq h.list_nodup hrm hr hne
    rw [hno k] at hk
    cases hk
  · rw [hsec]
    exact h.freed

/-- The condition on `mac_remove_role`: the role has no keys, or the removal
fails and its keys fit the mode that `role_info_init` then sets. -/
def RemoveKeysOk (hw : HwInfo) (out : Out) (s : Adapter) (macid : ℕ) : Prop :=
  ∀ role, s.roleSrch macid = some role → NoKeys role.info ∨
    ¬RemoveOk hw out s macid ∧ ModeFits s.secCam role.info role.info.secEntMode

instance (macid : ℕ) : Decidable (RemoveKeysOk hw out s macid) :=
  inferInstanceAs (Decidable (∀ role ∈ s.roleSrch macid, _ ∨ _))

lemma KeysOk.removeRole (h : s.KeysOk hw) {macid : ℕ} (hok : RemoveKeysOk hw out s macid) :
    (s.removeRole hw out macid).2.KeysOk hw := by
  have hcase := removeRole_cases hw out macid h.list_nodup (by
    intro role hsrch
    obtain ⟨hrole, hmacid⟩ := mem_of_lookupKey hsrch
    rw [h.macid_eq role hrole, hmacid])
  generalize s.removeRole hw out macid = res at hcase
  cases hcase with
  | missing _ => exact h
  | @failed role ret j hwb hsrch hret hmacid hsec hmode hbad =>
    obtain ⟨hrole, -⟩ := mem_of_lookupKey hsrch
    have hfits : ModeFits s.secCam role.info j.a.secEntMode := by
      rcases hok role hsrch with hno | ⟨-, hfits⟩
      · exact hno.modeFits _ _
      · rcases hmode with hmode | hmode
        · rw [hmode]
          exact fun k hk => (h.slot_ok role hrole k hk).keyType_ok
        · rw [hmode]
          exact hfits
    refine h.setMode hrole rfl rfl rfl ?_ hsec hfits
    exact hmacid.trans (h.macid_eq role hrole)
  | removed hsrch hrm hnode _ =>
    obtain ⟨hrole, -⟩ := mem_of_lookupKey hsrch
    have hno := (hok _ hsrch).resolve_right fun hand => hand.1 hrm
    exact h.erase hrole hno hnode rfl rfl rfl

lemma KeysOk.removeRoleSoft (h : s.KeysOk hw) {macid : ℕ} (hok : FlushOk s macid) :
    (s.removeRoleSoft macid).2.KeysOk hw := by
  rw [Adapter.removeRoleSoft]
  cases hsrch : s.roleSrch macid with
  | none => exact h
  | some role => exact h.erase (mem_of_lookupKey hsrch).1 (hok role hsrch) rfl rfl rfl rfl

/-- The condition on each removal of `mac_remove_role_by_band`. -/
def RmKeysOk (hw : HwInfo) (outs : ℕ → Out) (sw : Bool) (s : Adapter) (macid : ℕ) : Prop :=
  if sw then FlushOk s macid else RemoveKeysOk hw (outs macid) s macid

instance (outs : ℕ → Out) (sw : Bool) (macid : ℕ) : Decidable (RmKeysOk hw outs sw s macid) :=
  inferInstanceAs (Decidable (if sw = true then _ else _))

lemma KeysOk.rmRole (h : s.KeysOk hw) {outs : ℕ → Out} {sw : Bool} {macid : ℕ}
    (hok : RmKeysOk hw outs sw s macid) : (rmRole hw outs sw s macid).2.KeysOk hw := by
  cases sw with
  | true => exact h.removeRoleSoft hok
  | false => exact h.removeRole hok

def KeyOpOk (hw : HwInfo) (s : Adapter) : KeyOp → Prop
  | .addKey out info macid _ keyType => AddKeyOk hw out s info macid keyType
  | .delKey out macid keyId keyType => DelKeyOk hw out s macid keyId keyType
  | .flush macid => FlushOk s macid
  | .role (.add _ _) => True
  | .role (.change out info) => ChangeKeysOk hw out s info
  | .role (.remove out macid) => RemoveKeysOk hw out s macid
  | .role (.removeByBand outs band sw) => LoopOk (RmKeysOk hw outs sw) hw outs band sw s.list s

instance : ∀ op, Decidable (KeyOpOk hw s op)
  | .addKey out info macid _ keyType =>
    inferInstanceAs (Decidable (AddKeyOk hw out s info macid keyType))
  | .delKey out macid keyId keyType =>
    inferInstanceAs (Decidable (DelKeyOk hw out s macid keyId keyType))
  | .flush macid => inferInstanceAs (Decidable (FlushOk s macid))
  | .role (.add _ _) => instDecidableTrue
  | .role (.change out info) => inferInstanceAs (Decidable (ChangeKeysOk hw out s info))
  | .role (.remove out macid) => inferInstanceAs (Decidable (RemoveKeysOk hw out s macid))
  | .role (.removeByBand outs band sw) =>
    inferInstanceAs (Decidable (LoopOk (RmKeysOk hw outs sw) hw outs band sw s.list s))

/-- A failed `mac_sta_add_key` or `mac_sta_del_key` leaves both tables. -/
def KeyPromise (hw : HwInfo) (s : Adapter) : KeyOp → Prop
  | .addKey out info macid keyId keyType =>
    (s.macStaAddKey hw out info macid keyId keyType).1 ≠ .success →
      KeysUnchanged s (s.macStaAddKey hw out info macid keyId keyType).2
  | .delKey out macid keyId keyType =>
    (s.macStaDelKey hw out macid keyId keyType).1 ≠ .success →
      KeysUnchanged s (s.macStaDelKey hw out macid keyId keyType).2
  | .flush _ => True
  | .role _ => True

lemma KeysOk.step (h : s.KeysOk hw) {op : KeyOp} (hok : s.KeyOpOk hw op) :
    (s.keyStep hw op).KeysOk hw ∧ s.KeyPromise hw op := by
  cases op with
  | addKey out info macid keyId keyType => exact h.macStaAddKey hok
  | delKey out macid keyId keyType => exact h.macStaDelKey hok
  | flush macid =>
    refine ⟨?_, trivial⟩
    rw [keyStep, keyCall]
    cases hsrch : s.roleSrch macid with
    | none => exact h
    | some role =>
      dsimp only
      rw [disconnectFlushKey_noKeys (hok role hsrch)]
      exact h
  | role op =>
    refine ⟨?_, trivial⟩
    cases op with
    | add out info => exact h.addRole out info
    | change out info => exact h.changeRole hok
    | remove out macid => exact h.removeRole hok
    | removeByBand outs band sw =>
      exact LoopOk.invariant (fun _ _ hs hmacid => hs.rmRole hmacid) h hok

lemma keysOk_init (hw : HwInfo) : (roleTblInit hw).KeysOk hw where
  node_nodup := (tableOk_init hw).perm.nodup_iff.2 nodup_range
  macid_nodup := nodup_nil
  macid_eq := by simp [roleTblInit]
  slot_ok := by simp [roleTblInit]
  slot_inj := by simp [roleTblInit]
  entry_ref := by simp [roleTblInit]
  freed := by simp [roleTblInit]

lemma KeysOk.no_entry (h : s.KeysOk hw) (macid : ℕ) (hsrch : s.roleSrch macid = none) (i : ℕ)
    (hi : (s.secCam i).valid = true) : (s.secCam i).macid ≠ macid := by
  obtain ⟨r, hr, k, hk, rfl⟩ := h.entry_ref i hi
  rw [(h.slot_ok r hr k hk).macid_eq]
  rintro rfl
  rw [Adapter.roleSrch, lookupKey_of_mem h.macid_nodup hr] at hsrch
  cases hsrch

/-- Over every run of key and role operations that meet their condition, slots
and entries belong together in every state, a failed add or delete leaves both
tables, and a role that is gone has no entry. -/
theorem key_tables_sound (hw : HwInfo) (ops : List KeyOp)
    (h : Guarded (keyStep hw) (KeyOpOk hw) (roleTblInit hw) ops) :
    (run (keyStep hw) (roleTblInit hw) ops).KeysOk hw ∧
      (∀ macid, (run (keyStep hw) (roleTblInit hw) ops).roleSrch macid = none →
        ∀ i, ((run (keyStep hw) (roleTblInit hw) ops).secCam i).valid = true →
          ((run (keyStep hw) (roleTblInit hw) ops).secCam i).macid ≠ macid) ∧
      ∀ xs op ys, ops = xs ++ op :: ys →
        (run (keyStep hw) (roleTblInit hw) xs).KeyPromise hw op := by
  have hkeys : ∀ xs, Guarded (keyStep hw) (KeyOpOk hw) (roleTblInit hw) xs →
      (run (keyStep hw) (roleTblInit hw) xs).KeysOk hw := fun xs hxs =>
    hxs.invariant (fun _ _ hs hok => (hs.step hok).1) (keysOk_init hw)
  refine ⟨hkeys ops h, (hkeys ops h).no_entry, ?_⟩
  rintro xs op ys rfl
  obtain ⟨hxs, hop⟩ := h.split
  exact ((hkeys xs hxs).step hop).2

/-- A role gets a pairwise and a group key, a third one finds no slot; it changes
its wmm, gives up the group key, disconnects and is removed. -/
theorem key_tables_sound_run :
    ∃ (hw : HwInfo) (ops : List KeyOp),
      (run (keyStep hw) (roleTblInit hw) ops).KeysOk hw ∧
      (run (keyStep hw) (roleTblInit hw) ops).list.map keySlots =
        [(0, 0, Function.update (fun _ => {}) 0 { valid := true, keyid := 0, ent := 0 })] ∧
      (run (keyStep hw) (roleTblInit hw) (ops ++ [.role (.change {}
        { macid := 0, band := 0, bssid := fun _ => 2, selfMac := fun _ => 4, targetMac := fun _ => 2,
          updMode := .conDisconn }), .role (.remove {} 0)])).KeysOk hw ∧
      (run (keyStep hw) (roleTblInit hw) (ops ++ [.role (.change {}
        { macid := 0, band := 0, bssid := fun _ => 2, selfMac := fun _ => 4, targetMac := fun _ => 2,
          updMode := .conDisconn }), .role (.remove {} 0)])).list.map keySlots = [] := by
  let hw : HwInfo := ⟨4, by decide, 4, 8, false⟩
  let sta : RoleInfo := { macid := 0, band := 0, bssid := fun _ => 2, selfMac := fun _ => 4,
                          targetMac := fun _ => 2, secEntMode := 2 }
  let key : KeyInfo := { type := 3, key := fun i => if i.val < 3 then 5 else 0 }
  let ops : List KeyOp := [.role (.add {} sta), .addKey {} key 0 0 keyTypeUni,
    .addKey {} key 0 1 keyTypeGroup, .addKey {} key 0 2 9,
    .role (.change {} { sta with updMode := .infoChange, wmm := 1 }), .delKey {} 0 1 keyTypeGroup]
  have h : Guarded (keyStep hw) (KeyOpOk hw) (roleTblInit hw) ops :=
    ⟨by decide, by decide, by decide, by decide, by decide, by decide, trivial⟩
  have hall : Guarded (keyStep hw) (KeyOpOk hw) (roleTblInit hw) (ops ++ [.role (.change {}
      { macid := 0, band := 0, bssid := fun _ => 2, selfMac := fun _ => 4, targetMac := fun _ => 2,
        updMode := .conDisconn }), .role (.remove {} 0)]) :=
    ⟨by decide, by decide, by decide, by decide, by decide, by decide, by decide, by decide, trivial⟩
  exact ⟨hw, ops, (key_tables_sound hw ops h).1, by decide, (key_tables_sound hw _ hall).1,
    by decide⟩

/-- A role is added, gets a key and is removed, and nothing fails: the entry of
the key stays valid. -/
theorem removed_role_leaves_key :
    ¬ ∀ (hw : HwInfo) (ops : List KeyOp),
      (run (keyStep hw) (roleTblInit hw) ops).KeysOk hw ∧
        ∀ xs op ys, ops = xs ++ op :: ys →
          (run (keyStep hw) (roleTblInit hw) xs).KeyPromise hw op := by
  intro h
  have hkeys := (h ⟨4, by decide, 4, 8, false⟩
    [.role (.add {} { macid := 0, band := 0, bssid := fun _ => 2, selfMac := fun _ => 4,
                      targetMac := fun _ => 2 }),
      .addKey {} { type := 6, key := fun _ => 7 } 0 0 keyTypeUni, .role (.remove {} 0)]).1
  have hgone := hkeys.no_entry 0 (by rfl) 0 (by decide)
  revert hgone
  decide

end Adapter
end Rtl8831.Mac
