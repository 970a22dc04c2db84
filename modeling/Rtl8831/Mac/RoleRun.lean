import Rtl8831.Mac.RoleInv

/-!
# The role table over whole runs

What each of the four calls does to the table, the condition under which it
keeps the invariant and its promise on failure, and the result for every run
of calls that meet it.
-/

namespace Rtl8831.Mac

open Lib List Function

variable {hw : HwInfo} {out : Out} {s : Adapter} {info : RoleInfo} {nodes : List ℕ}

namespace Adapter

def alloc (r : Role) : ℕ × ℕ × Bool × ℕ × ℕ :=
  (r.node, r.macid, r.info.a.valid, r.info.a.addrCamIdx, r.info.a.bssidCamIdx)

def Unchanged (s s' : Adapter) : Prop :=
  s'.list.map alloc = s.list.map alloc ∧ (s'.pool.map Role.node).Perm (s.pool.map Role.node) ∧
    s'.hwBssid = s.hwBssid

lemma Unchanged.refl (s : Adapter) : Unchanged s s := ⟨rfl, List.Perm.refl _, rfl⟩

lemma bssidLoop_congr {l l' : List Role} {is : List ℕ}
    (h : ∀ i ∈ is, srchByBssid l i = srchByBssid l' i) (free : Option ℕ) :
    bssidLoop l info free is = bssidLoop l' info free is := by
  induction is generalizing free with
  | nil => rfl
  | cons i is ih =>
    have hrest : ∀ j ∈ is, srchByBssid l j = srchByBssid l' j :=
      fun j hj => h j (mem_cons_of_mem _ hj)
    rw [bssidLoop, bssidLoop, h i mem_cons_self]
    split
    · rw [ih hrest]
    · rw [ih hrest]

lemma findAvailBssidCam_congr {i j : RoleInfo} {list : List Role}
    (h : ∀ x, bssidHit i x = bssidHit j x) :
    findAvailBssidCam hw list i = findAvailBssidCam hw list j := by
  have hloop : ∀ is free, bssidLoop list i free is = bssidLoop list j free is := by
    intro is
    induction is with
    | nil => exact fun _ => rfl
    | cons k is ih =>
      intro free
      rw [bssidLoop, bssidLoop]
      split
      · rw [h, ih]
      · rw [ih]
  exact hloop _ _

lemma findAvailBssidCam_searched (s : Adapter) (node : ℕ) (info : RoleInfo) :
    findAvailBssidCam hw (s.setInfo node fun i => setBssidIdx i hw.bssidNum).list info =
      findAvailBssidCam hw (eraseKey Role.node node s.list) info := by
  apply bssidLoop_congr
  intro i hi
  apply find?_modifyKey
  intro x _
  have hne : hw.bssidNum ≠ i := (mem_range.1 hi).ne'
  simp [setBssidIdx, hne]

lemma updAddrCamChg_eq (s : Adapter) (role : Role) :
    updAddrCamChg hw out s role =
      match findAvailBssidCam hw (eraseKey Role.node role.node s.list) role.info with
      | none => (.bssidCamFull, s.setInfo role.node fun _ => setBssidIdx role.info hw.bssidNum)
      | some k =>
        if out.fwReady ∧ ¬out.h2cAddrCam then
          (.fw, s.setInfo role.node fun _ => setBssidIdx role.info k)
        else
          (.success, { (s.setInfo role.node fun _ => setBssidIdx role.info k) with
            hwBssid := update s.hwBssid k role.info.b.valid }) := by
  rw [updAddrCamChg, updBssid, findAvailBssidCam_searched]
  cases findAvailBssidCam hw (eraseKey Role.node role.node s.list) role.info with
  | none => rfl
  | some k =>
    dsimp only
    split <;> rfl

lemma setInfo_setInfo (s : Adapter) (node : ℕ) (f g : RoleInfo → RoleInfo) :
    (s.setInfo node f).setInfo node g = s.setInfo node fun i => g (f i) := by
  simp only [setInfo]
  rw [modifyKey_modifyKey]
  exact fun _ => rfl

lemma roleSrch_setInfo (s : Adapter) (node macid : ℕ) (f : RoleInfo → RoleInfo) :
    (s.setInfo node f).roleSrch macid = (s.roleSrch macid).map fun r =>
      if r.node = node then { r with info := f r.info } else r := by
  apply lookupKey_map
  intro x
  by_cases hx : x.node = node <;> simp [hx]

lemma lookup_setInfo {role : Role} (hn : (s.list.map Role.node).Nodup) (hr : role ∈ s.list)
    (f : RoleInfo → RoleInfo) :
    lookupKey Role.node role.node (s.setInfo role.node f).list =
      some { role with info := f role.info } := by
  have hmap : lookupKey Role.node role.node (s.setInfo role.node f).list =
      (lookupKey Role.node role.node s.list).map fun r =>
        if r.node = role.node then { r with info := f r.info } else r := by
    apply lookupKey_map
    intro x
    by_cases hx : x.node = role.node <;> simp [hx]
  rw [hmap, lookupKey_of_mem hn hr]
  simp

/-- `_add_role` gets as far as `mac_h2c_join_info`. -/
def addReaches (hw : HwInfo) (out : Out) (s : Adapter) (info : RoleInfo) : Bool :=
  !s.pool.isEmpty && decide (roleInfoValid hw s info true = .success) &&
    decide (s.list.length ≤ hw.macidNum) && out.macidPause && !(info.dbccRole && !out.dbccAdd) &&
    !(!info.virt && !info.isMulEnt && out.fwReady && !out.fwRole)

def joinLost (out : Out) (info : RoleInfo) : Bool :=
  decide (info.selfRole = .ap) && joinFails out

/-- The information of a role added with entries `i` and `k`. -/
def addedInfo (info : RoleInfo) (i k : ℕ) : RoleInfo :=
  setBssidIdx { addInfo info with a := { (addInfo info).a with addrCamIdx := i % 256 } } k

lemma infoChecks_addedInfo (hw : HwInfo) (info : RoleInfo) (i k : ℕ) :
    infoChecks hw (addedInfo info i k) = infoChecks hw info := by
  cases info
  rfl

/-- What `_add_role` can end in. -/
inductive AddCase (hw : HwInfo) (out : Out) (s : Adapter) (info : RoleInfo) :
    Ret × Adapter → Prop
  | refused {ret : Ret} {s' : Adapter} (hun : Unchanged s s') (hlist : s'.list = s.list)
      (hsec : s'.secCam = s.secCam) : AddCase hw out s info (ret, s')
  | lost {s' : Adapter} (hreach : addReaches hw out s info = true)
      (hjoin : joinLost out info = true) (hlist : s'.list = s.list)
      (hpool : (s'.pool.map Role.node).Sublist (s.pool.map Role.node))
      (hsec : s'.secCam = s.secCam) : AddCase hw out s info (.fw, s')
  | accepted {node : Role} {pool : List Role} {i k : ℕ} {hwb : ℕ → Bool}
      (hreach : addReaches hw out s info = true) (hjoin : joinLost out info = false)
      (hpool : s.pool = node :: pool) (hi : findAvailAddrCam hw s.list = some i)
      (hk : findAvailBssidCam hw s.list (addInfo info) = some k)
      (hhw : hwb = if out.fwReady ∧ ¬out.h2cAddrCam then s.hwBssid
        else update s.hwBssid k true) :
      AddCase hw out s info (.success, { s with
        list := s.list ++ [{ node with macid := info.macid, info := addedInfo info i k }]
        pool := pool
        hwBssid := hwb })

variable {role role' : Role} {pool : List Role} {list : List Role}

lemma addCase_fail (hpool : s.pool = role :: pool)
    (hnode : role'.node = role.node) (ret : Ret) :
    AddCase hw out s info (roleAddFail out { s with pool := pool } role' ret) := by
  apply AddCase.refused
  · refine ⟨rfl, ?_, rfl⟩
    simp only [hpool, map_append, map_cons, map_nil, hnode]
    exact perm_append_singleton _ _
  · rfl
  · rfl

lemma addRoleFw_cases (hpool : s.pool = role :: pool)
    (hrole : role' = { role with macid := info.macid, info := addInfo info })
    (hvalid : roleInfoValid hw s info true = .success) (hlen : s.list.length ≤ hw.macidNum)
    (hpause : out.macidPause = true) (hdbcc : (info.dbccRole && !out.dbccAdd) = false) :
    AddCase hw out s info (addRoleFw hw out { s with pool := pool } role') := by
  have hnode : role'.node = role.node := by rw [hrole]
  have hinfo : role'.info = addInfo info := by rw [hrole]
  have hmacid : role'.macid = info.macid := by rw [hrole]
  rw [addRoleFw, hinfo]
  by_cases hfw : (!(addInfo info).virt && !(addInfo info).isMulEnt && out.fwReady &&
      !out.fwRole) = true
  · rw [if_pos hfw]
    exact addCase_fail hpool hnode _
  rw [if_neg hfw]
  have hreach : addReaches hw out s info = true := by
    simp only [addReaches, hpool, hvalid, hpause, hdbcc, hlen, isEmpty_cons, Bool.not_false,
      decide_true, Bool.true_and, Bool.not_eq_true']
    exact Bool.eq_false_iff.2 hfw
  by_cases hjoin : (decide ((addInfo info).selfRole = .ap) && out.fwReady && !out.joinInfo) = true
  · rw [if_pos hjoin]
    rw [Bool.and_assoc] at hjoin
    refine .lost hreach hjoin rfl ?_ rfl
    rw [hpool, map_cons]
    exact sublist_cons_self _ _
  rw [if_neg hjoin, updAddrCamAdd]
  rw [Bool.and_assoc] at hjoin
  cases hi : findAvailAddrCam hw s.list with
  | none =>
    refine addCase_fail hpool ?_ _
    exact hnode
  | some i =>
    have hsame : findAvailBssidCam hw s.list
        { addInfo info with a := { (addInfo info).a with addrCamIdx := i % 256 } } =
        findAvailBssidCam hw s.list (addInfo info) := findAvailBssidCam_congr fun _ => rfl
    dsimp only
    rw [updBssid, hsame]
    cases hk : findAvailBssidCam hw s.list (addInfo info) with
    | none =>
      refine addCase_fail hpool ?_ _
      exact hnode
    | some k =>
      dsimp only
      by_cases hh2c : out.fwReady ∧ ¬out.h2cAddrCam
      · rw [if_pos hh2c, hnode, hmacid]
        exact .accepted hreach (Bool.eq_false_iff.2 hjoin) hpool hi hk (by rw [if_pos hh2c])
      · rw [if_neg hh2c, hnode, hmacid]
        exact .accepted hreach (Bool.eq_false_iff.2 hjoin) hpool hi hk (by
          rw [if_neg hh2c]
          rfl)

lemma addRole_cases (hw : HwInfo) (out : Out) (s : Adapter) (info : RoleInfo) :
    AddCase hw out s info (s.addRole hw out info) := by
  rw [addRole]
  cases hpool : s.pool with
  | nil => exact .refused (.refl s) rfl rfl
  | cons role pool =>
    dsimp only
    by_cases hvalid : roleInfoValid hw s info true = .success
    swap
    · rw [if_pos hvalid]
      exact addCase_fail hpool rfl _
    rw [if_neg (not_not.2 hvalid)]
    by_cases hlen : s.list.length > hw.macidNum
    · rw [if_pos hlen]
      exact addCase_fail hpool rfl _
    rw [if_neg hlen]
    cases hpause : out.macidPause with
    | false => exact addCase_fail hpool rfl _
    | true =>
      rw [if_neg (by simp)]
      cases hdbcc : info.dbccRole && !out.dbccAdd with
      | true =>
        refine addCase_fail hpool ?_ _
        rfl
      | false =>
        exact addRoleFw_cases hpool rfl hvalid (Nat.le_of_not_lt hlen) hpause hdbcc

lemma findAvailAddrCam_spec (h : Holds hw list) {i : ℕ}
    (hi : findAvailAddrCam hw list = some i) :
    i < hw.macidNum ∧ i % 256 = i ∧ ∀ t ∈ list, t.info.a.addrCamIdx ≠ i := by
  have hmem := mem_range.1 (mem_of_find?_eq_some hi)
  have hnone : (srchByAddrCam list i).isNone = true := by simpa using find?_some hi
  refine ⟨hmem, Nat.mod_eq_of_lt (hmem.trans_le hw.macidNum_le), ?_⟩
  intro t ht heq
  have := find?_eq_none.1 (Option.isNone_iff_eq_none.1 hnone) t ht
  simp [heq, (h t ht).1] at this

lemma roleInfoValid_add (h : roleInfoValid hw s info true = .success) :
    s.roleSrch info.macid = none ∧ infoChecks hw info = true := by
  unfold roleInfoValid at h
  split at h
  · cases h
  · split at h
    · cases h
    · split at h
      · cases h
      · rename_i hsrch
        simp at hsrch h
        exact ⟨hsrch, h⟩

/-- The condition on `mac_add_role`: past the checks, the join command of an AP
does not fail, and the mask of the new role fits the others'. -/
def AddOk (hw : HwInfo) (out : Out) (s : Adapter) (info : RoleInfo) : Prop :=
  addReaches hw out s info = true → joinLost out info = false ∧
    ((findAvailAddrCam hw s.list).isNone = true ∨
      (findAvailBssidCam hw s.list info).isNone = true ∨ MaskAgrees info s.list)

instance : Decidable (AddOk hw out s info) := inferInstanceAs (Decidable (_ = true → _))

lemma TableOk.addRole (h : s.TableOk hw nodes) (hok : AddOk hw out s info) :
    (s.addRole hw out info).2.TableOk hw nodes ∧
      ((s.addRole hw out info).1 ≠ .success → Unchanged s (s.addRole hw out info).2) := by
  have hcase := addRole_cases hw out s info
  generalize s.addRole hw out info = res at hcase
  cases hcase with
  | refused hun hlist _ => exact ⟨h.congr hlist hun.2.1, fun _ => hun⟩
  | lost hreach hjoin _ _ _ =>
    rw [(hok hreach).1] at hjoin
    cases hjoin
  | @accepted node pool i k hwb hreach hjoin hpool hi hk hhw =>
    refine ⟨?_, fun hne => absurd rfl hne⟩
    have hsame : findAvailBssidCam hw s.list (addInfo info) = findAvailBssidCam hw s.list info :=
      findAvailBssidCam_congr fun _ => rfl
    have hmask : MaskAgrees info s.list := by
      rcases (hok hreach).2 with hnone | hnone | hmask
      · simp [hi] at hnone
      · simp [← hsame, hk] at hnone
      · exact hmask
    obtain ⟨hilt, himod, hfresh⟩ := findAvailAddrCam_spec h.holds hi
    obtain ⟨hklt, hshare⟩ := findAvailBssidCam_spec h.holds hmask (hsame ▸ hk)
    simp only [addReaches, Bool.and_eq_true, decide_eq_true_eq] at hreach
    obtain ⟨hsrch, hchk⟩ := roleInfoValid_add hreach.1.1.1.1.2
    have hnodes : s.pool.map Role.node = node.node :: pool.map Role.node := by rw [hpool]; rfl
    refine h.append hnodes ?_ ?_ ?_ ?_ ?_ ?_ ?_ ?_ ?_ ?_ hwb
    · rfl
    · exact hsrch
    · rfl
    · exact (infoChecks_addedInfo hw info i k).trans hchk
    · rfl
    · rfl
    · exact hklt
    · change i % 256 < hw.macidNum
      rwa [himod]
    · change ∀ t ∈ s.list, t.info.a.addrCamIdx ≠ i % 256
      rwa [himod]
    · exact hshare

def fwRoleFails (out : Out) (info : RoleInfo) : Bool :=
  !info.virt && !info.isMulEnt && out.fwReady && !out.fwRole

/-- `_change_role` returns before it updates the CAM. -/
def stepsFail (out : Out) (info : RoleInfo) : Bool :=
  match info.updMode with
  | .typeChange => decide (info.selfRole = .ap) && joinFails out
  | .remove => fwRoleFails out info
  | .fwRestore => fwRoleFails out info || (decide (info.selfRole = .ap) && joinFails out)
  | .conDisconn => joinFails out
  | .infoChange | .bandSw => decide (info.selfRole ≠ .client) && joinFails out
  | .create => true

def deinits (info : RoleInfo) : Bool := decide (info.updMode = .conDisconn) && info.disconn

def storedInfo (info : RoleInfo) : RoleInfo :=
  if deinits info then { info with a := { info.a with secEntMode := 0, secEnt := fun _ => {} } }
  else info

def flushedCam (hw : HwInfo) (s : Adapter) (info : RoleInfo) : ℕ → SecCamEntry :=
  if deinits info then (s.disconnectFlushKey hw info).secCam else s.secCam

/-- The state of a change whose role ends with `info'`. -/
def changed (hw : HwInfo) (s : Adapter) (node : ℕ) (info info' : RoleInfo) (hwb : ℕ → Bool) :
    Adapter :=
  { (s.setInfo node fun _ => info') with hwBssid := hwb, secCam := flushedCam hw s info }

lemma changeSteps_eq (s : Adapter) (role : Role) (info : RoleInfo) :
    changeSteps hw out (s.setInfo role.node fun _ => info) { role with info := info } =
      (if stepsFail out info then some (if info.updMode = .create then .success else .fw) else none,
        changed hw s role.node info (storedInfo info) s.hwBssid) := by
  have hkeep : deinits info = false →
      s.setInfo role.node (fun _ => info) = changed hw s role.node info (storedInfo info) s.hwBssid := by
    intro hd
    simp [changed, storedInfo, flushedCam, hd, setInfo]
  have hdeinit : deinits info = true →
      (s.setInfo role.node fun _ => info).secInfoDeinit hw { role with info := info } =
        changed hw s role.node info (storedInfo info) s.hwBssid := by
    intro hd
    have hlist := congrArg Adapter.list (setInfo_setInfo s role.node (fun _ => info) fun i =>
      { i with a := { i.a with secEntMode := 0, secEnt := fun _ => {} } })
    simp only [secInfoDeinit, changed, storedInfo, flushedCam, hd, if_true]
    simp only [setInfo, disconnectFlushKey] at hlist ⊢
    rw [hlist]
  by_cases hm : info.updMode = .conDisconn
  · simp only [changeSteps, stepsFail, hm]
    cases hd : deinits info with
    | true =>
      have hdis : info.disconn = true := by simpa [deinits, hm] using hd
      simp only [hdis, if_true, hdeinit hd]
      cases joinFails out <;> simp
    | false =>
      have hdis : info.disconn = false := by simpa [deinits, hm] using hd
      simp only [hdis, hkeep hd]
      cases joinFails out <;> simp
  · have hd : deinits info = false := by simp [deinits, hm]
    rw [hkeep hd]
    cases hu : info.updMode with
    | conDisconn => exact absurd hu hm
    | create => simp [changeSteps, stepsFail, hu]
    | remove =>
      simp only [changeSteps, stepsFail, hu, fwRoleFails]
      split <;> simp_all
    | typeChange =>
      simp only [changeSteps, stepsFail, hu]
      split <;> simp_all
    | infoChange =>
      simp only [changeSteps, stepsFail, hu]
      split <;> simp_all
    | bandSw =>
      simp only [changeSteps, stepsFail, hu]
      split <;> simp_all
    | fwRestore =>
      simp only [changeSteps, stepsFail, hu, fwRoleFails]
      split
      · simp_all
      · split <;> simp_all

/-- `_change_role` gets past its checks for `role`. -/
def changeReaches (hw : HwInfo) (out : Out) (s : Adapter) (role : Role) (info : RoleInfo) : Bool :=
  decide (roleInfoValid hw s info false = .success) &&
    !(decide (info.updMode = .bandSw) && (!role.info.dbccRole || !out.dbccMove))

/-- What `_change_role` can end in. -/
inductive ChangeCase (hw : HwInfo) (out : Out) (s : Adapter) (info : RoleInfo) :
    Ret × Adapter → Prop
  | refused {ret : Ret} (hret : ret ≠ .success) (hno : ∀ role,
      s.roleSrch info.macid = some role → changeReaches hw out s role info = false) :
      ChangeCase hw out s info (ret, s)
  | stopped {role : Role} (hsrch : s.roleSrch info.macid = some role)
      (hreach : changeReaches hw out s role info = true)
      (hfail : stepsFail out (changeInfo role info) = true) :
      ChangeCase hw out s info (.fw, changed hw s role.node (changeInfo role info)
        (storedInfo (changeInfo role info)) s.hwBssid)
  | full {role : Role} (hsrch : s.roleSrch info.macid = some role)
      (hreach : changeReaches hw out s role info = true)
      (hfail : stepsFail out (changeInfo role info) = false)
      (hk : findAvailBssidCam hw (eraseKey Role.node role.node s.list) info = none) :
      ChangeCase hw out s info (.bssidCamFull, changed hw s role.node (changeInfo role info)
        (setBssidIdx (storedInfo (changeInfo role info)) hw.bssidNum) s.hwBssid)
  | unsent {role : Role} {k : ℕ} (hsrch : s.roleSrch info.macid = some role)
      (hreach : changeReaches hw out s role info = true)
      (hfail : stepsFail out (changeInfo role info) = false)
      (hk : findAvailBssidCam hw (eraseKey Role.node role.node s.list) info = some k)
      (hh2c : out.fwReady = true ∧ ¬out.h2cAddrCam = true) :
      ChangeCase hw out s info (.fw, changed hw s role.node (changeInfo role info)
        (setBssidIdx (storedInfo (changeInfo role info)) k) s.hwBssid)
  | sent {role : Role} {k : ℕ} (hsrch : s.roleSrch info.macid = some role)
      (hreach : changeReaches hw out s role info = true)
      (hfail : stepsFail out (changeInfo role info) = false)
      (hk : findAvailBssidCam hw (eraseKey Role.node role.node s.list) info = some k)
      (hh2c : ¬(out.fwReady = true ∧ ¬out.h2cAddrCam = true)) :
      ChangeCase hw out s info (.success, changed hw s role.node (changeInfo role info)
        (setBssidIdx (storedInfo (changeInfo role info)) k) (update s.hwBssid k true))

lemma roleInfoValid_change (h : roleInfoValid hw s info false = .success) :
    info.updMode ≠ .create ∧ infoChecks hw info = true := by
  simp only [roleInfoValid, Bool.false_and, Bool.not_false, Bool.true_and, decide_eq_true_eq] at h
  by_cases hc : info.updMode = .create
  · simp [hc] at h
  · refine ⟨hc, ?_⟩
    by_contra hchk
    simp [hc, hchk] at h
    split at h <;> cases h

lemma storedInfo_bssid (info info' : RoleInfo) :
    bssidHit (storedInfo info) info' = bssidHit info info' := by
  unfold storedInfo
  split <;> rfl

lemma setInfo_changed (s : Adapter) (node : ℕ) (i j j' : RoleInfo) (hwb : ℕ → Bool) :
    ((changed hw s node i j hwb).setInfo node fun _ => j') = changed hw s node i j' hwb := by
  have hlist := congrArg Adapter.list (setInfo_setInfo s node (fun _ => j) fun _ => j')
  simp only [changed, setInfo] at hlist ⊢
  rw [hlist]

lemma storedInfo_valid (role : Role) (info : RoleInfo) :
    (storedInfo (changeInfo role info)).b.valid = true := by
  unfold storedInfo
  split <;> rfl

lemma changeRole_cases (hw : HwInfo) (out : Out) (info : RoleInfo)
    (hn : (s.list.map Role.node).Nodup) :
    ChangeCase hw out s info (s.changeRole hw out info) := by
  rw [changeRole]
  by_cases hvalid : roleInfoValid hw s info false = .success
  swap
  · rw [if_pos hvalid]
    refine .refused hvalid ?_
    simp [changeReaches, hvalid]
  rw [if_neg (not_not.2 hvalid)]
  cases hsrch : s.roleSrch info.macid with
  | none => exact .refused (by simp) (by simp [hsrch])
  | some role =>
    have hrole := (mem_of_lookupKey hsrch).1
    dsimp only
    by_cases hb : info.updMode = .bandSw ∧ ¬role.info.dbccRole = true
    · rw [if_pos hb]
      refine .refused (by simp) ?_
      simp [changeReaches, hsrch, hb.1, hb.2]
    rw [if_neg hb]
    by_cases hm : info.updMode = .bandSw ∧ ¬out.dbccMove = true
    · rw [if_pos hm]
      refine .refused (by simp) ?_
      simp [changeReaches, hsrch, hm.1, hm.2]
    rw [if_neg hm, changeSteps_eq]
    have hreach : changeReaches hw out s role info = true := by
      simp only [changeReaches, hvalid, decide_true, Bool.true_and, Bool.not_eq_true',
        Bool.and_eq_false_iff, decide_eq_false_iff_not, Bool.or_eq_false_iff]
      by_cases hsw : info.updMode = .bandSw
      · right
        exact ⟨by simpa [hsw] using hb, by simpa [hsw] using hm⟩
      · exact .inl hsw
    have hcreate : (changeInfo role info).updMode ≠ .create := (roleInfoValid_change hvalid).1
    cases hfail : stepsFail out (changeInfo role info) with
    | true =>
      rw [if_pos rfl, if_neg hcreate]
      exact .stopped hsrch hreach hfail
    | false =>
      have hlook : lookupKey Role.node role.node (changed hw s role.node (changeInfo role info)
          (storedInfo (changeInfo role info)) s.hwBssid).list =
          some { role with info := storedInfo (changeInfo role info) } :=
        lookup_setInfo hn hrole fun _ => storedInfo (changeInfo role info)
      have herase : eraseKey Role.node role.node (changed hw s role.node (changeInfo role info)
          (storedInfo (changeInfo role info)) s.hwBssid).list =
          eraseKey Role.node role.node s.list := eraseKey_modifyKey fun _ => rfl
      have hcongr : ∀ l, findAvailBssidCam hw l (storedInfo (changeInfo role info)) =
          findAvailBssidCam hw l info := fun l =>
        findAvailBssidCam_congr fun x => storedInfo_bssid _ x
      simp only [if_false, Bool.false_eq_true, hlook]
      rw [updAddrCamChg_eq]
      simp only [herase, hcongr, storedInfo_valid, setInfo_changed]
      cases hk : findAvailBssidCam hw (eraseKey Role.node role.node s.list) info with
      | none => exact .full hsrch hreach hfail hk
      | some k =>
        dsimp only
        by_cases hh2c : out.fwReady = true ∧ ¬out.h2cAddrCam = true
        · rw [if_pos hh2c]
          exact .unsent hsrch hreach hfail hk hh2c
        · rw [if_neg hh2c]
          exact .sent hsrch hreach hfail hk hh2c

lemma storedInfo_eq (info : RoleInfo) : ∃ m e,
    storedInfo info = { info with a := { info.a with secEntMode := m, secEnt := e } } := by
  unfold storedInfo
  split
  · exact ⟨_, _, rfl⟩
  · exact ⟨info.a.secEntMode, info.a.secEnt, rfl⟩

def KeepsShare (others : List Role) (old new : RoleInfo) : Prop :=
  ∀ t ∈ others, SameBssid new t.info ↔ SameBssid old t.info

instance (others : List Role) (old new : RoleInfo) : Decidable (KeepsShare others old new) :=
  inferInstanceAs (Decidable (∀ t ∈ others, _))

/-- The condition on `mac_change_role`.  When it fails after it has stored the
new information, that must not matter for the allocation. -/
def ChangeOk (hw : HwInfo) (out : Out) (s : Adapter) (info : RoleInfo) : Prop :=
  ∀ role, s.roleSrch info.macid = some role → changeReaches hw out s role info = true →
    if stepsFail out (changeInfo role info) then
      KeepsShare (eraseKey Role.node role.node s.list) role.info info
    else
      ∃ k, findAvailBssidCam hw (eraseKey Role.node role.node s.list) info = some k ∧
        if out.fwReady = true ∧ ¬out.h2cAddrCam = true then
          k = role.info.a.bssidCamIdx ∧
            KeepsShare (eraseKey Role.node role.node s.list) role.info info
        else MaskAgrees info (eraseKey Role.node role.node s.list)

instance : Decidable (ChangeOk hw out s info) :=
  inferInstanceAs (Decidable (∀ role ∈ s.roleSrch info.macid,
    changeReaches hw out s role info = true →
      if stepsFail out (changeInfo role info) then
        KeepsShare (eraseKey Role.node role.node s.list) role.info info
      else
        ∃ k ∈ findAvailBssidCam hw (eraseKey Role.node role.node s.list) info, _))

lemma Holds.erase (h : Holds hw list) (node : ℕ) :
    Holds hw (eraseKey Role.node node list) :=
  fun r hr => h r (mem_eraseKey.1 hr).1

section

variable (h : s.TableOk hw nodes)
include h

lemma TableOk.changed (hn : nodes.Nodup) {role : Role}
    (hsrch : s.roleSrch info.macid = some role) (hreach : changeReaches hw out s role info = true)
    {k : ℕ} (hk : k < hw.bssidNum) (hshare : ∀ t ∈ eraseKey Role.node role.node s.list,
      k = t.info.a.bssidCamIdx ↔ SameBssid info t.info) (hwb : ℕ → Bool) :
    (changed hw s role.node (changeInfo role info)
      (setBssidIdx (storedInfo (changeInfo role info)) k) hwb).TableOk hw nodes := by
  obtain ⟨hrole, hmacid⟩ := h.srch_iff.1 hsrch
  obtain ⟨m, e, hst⟩ := storedInfo_eq (changeInfo role info)
  have hchk : infoChecks hw info = true := by
    simp only [changeReaches, Bool.and_eq_true, decide_eq_true_eq] at hreach
    exact (roleInfoValid_change hreach.1).2
  rw [hst]
  refine TableOk.congr (s := s.setInfo role.node fun _ => _) ?_ rfl (List.Perm.refl _)
  apply h.replace hn hrole
  · exact hmacid.symm
  · rw [← hchk]
    rfl
  · exact (h.holds role hrole).1
  · rfl
  · exact hk
  · rfl
  · intro t ht hne
    exact hshare t (mem_eraseKey.2 ⟨ht, hne⟩)

lemma unchanged_changed (hn : nodes.Nodup) {role : Role}
    (hrole : role ∈ s.list) {i j : RoleInfo} (hj : alloc { role with info := j } = alloc role) :
    Unchanged s (changed hw s role.node i j s.hwBssid) := by
  refine ⟨?_, List.Perm.refl _, rfl⟩
  simp only [changed, setInfo, modifyKey, map_map]
  apply map_congr_left
  intro x hx
  by_cases hk : x.node = role.node
  · obtain rfl := eq_of_key_eq (h.node_nodup hn) hx hrole hk
    simpa using hj
  · simp [hk]

lemma TableOk.changed_kept (hn : nodes.Nodup) {role : Role}
    (hsrch : s.roleSrch info.macid = some role) (hreach : changeReaches hw out s role info = true)
    (hkeep : KeepsShare (eraseKey Role.node role.node s.list) role.info info) :
    (Adapter.changed hw s role.node (changeInfo role info) (setBssidIdx
        (storedInfo (changeInfo role info)) role.info.a.bssidCamIdx) s.hwBssid).TableOk hw nodes ∧
      Unchanged s (Adapter.changed hw s role.node (changeInfo role info) (setBssidIdx
        (storedInfo (changeInfo role info)) role.info.a.bssidCamIdx) s.hwBssid) := by
  obtain ⟨hrole, -⟩ := h.srch_iff.1 hsrch
  constructor
  · apply h.changed hn hsrch hreach (h.holds role hrole).2.2
    intro t ht
    obtain ⟨hmem, hne⟩ := mem_eraseKey.1 ht
    rw [hkeep t ht]
    exact h.share_iff role hrole t hmem (Ne.symm hne)
  · obtain ⟨m, e, hst⟩ := storedInfo_eq (changeInfo role info)
    apply unchanged_changed h hn hrole
    rw [hst]
    rfl

lemma TableOk.setBssidIdx_stored {role : Role}
    (hrole : role ∈ s.list) (info : RoleInfo) :
    setBssidIdx (storedInfo (changeInfo role info)) role.info.a.bssidCamIdx =
      storedInfo (changeInfo role info) := by
  obtain ⟨m, e, hst⟩ := storedInfo_eq (changeInfo role info)
  have hb := (h.holds role hrole).2.1
  rw [hst]
  simp only [setBssidIdx, changeInfo, roleInfoInit]
  rw [← hb]

lemma TableOk.changeRole (hn : nodes.Nodup)
    (hok : ChangeOk hw out s info) :
    (s.changeRole hw out info).2.TableOk hw nodes ∧
      ((s.changeRole hw out info).1 ≠ .success → Unchanged s (s.changeRole hw out info).2) := by
  have hcase := changeRole_cases hw out info (h.node_nodup hn)
  generalize s.changeRole hw out info = res at hcase
  cases hcase with
  | refused _ _ => exact ⟨h, fun _ => .refl s⟩
  | @stopped role hsrch hreach hfail =>
    have hkeep := hok role hsrch hreach
    rw [if_pos hfail] at hkeep
    obtain ⟨htab, hun⟩ := h.changed_kept hn hsrch hreach hkeep
    rw [h.setBssidIdx_stored (h.srch_iff.1 hsrch).1] at htab hun
    exact ⟨htab, fun _ => hun⟩
  | @full role hsrch hreach hfail hk =>
    have hno := hok role hsrch hreach
    simp [hfail, hk] at hno
  | @unsent role k hsrch hreach hfail hk hh2c =>
    have hkeep := hok role hsrch hreach
    rw [hfail, if_neg (by simp)] at hkeep
    obtain ⟨k', hk', hkeep⟩ := hkeep
    rw [hk, Option.some_inj] at hk'
    rw [if_pos hh2c, ← hk'] at hkeep
    obtain ⟨rfl, hkeep⟩ := hkeep
    obtain ⟨htab, hun⟩ := h.changed_kept hn hsrch hreach hkeep
    exact ⟨htab, fun _ => hun⟩
  | @sent role k hsrch hreach hfail hk hh2c =>
    have hmask := hok role hsrch hreach
    rw [hfail, if_neg (by simp)] at hmask
    obtain ⟨k', hk', hmask⟩ := hmask
    rw [if_neg hh2c] at hmask
    obtain ⟨hklt, hshare⟩ := findAvailBssidCam_spec (h.holds.erase role.node) hmask hk
    exact ⟨h.changed hn hsrch hreach hklt hshare _, fun hne => absurd rfl hne⟩

end

/-- The condition on `mac_remove_role`: every step succeeds once the role is
marked. -/
def RemoveOk (hw : HwInfo) (out : Out) (s : Adapter) (macid : ℕ) : Prop :=
  ∀ role, s.roleSrch macid = some role → fwRoleFails out role.info = false ∧
    (findAvailBssidCam hw (eraseKey Role.node role.node s.list) role.info).isSome = true ∧
    ¬(out.fwReady = true ∧ ¬out.h2cAddrCam = true) ∧
    (role.info.dbccRole = true → out.dbccRm = true)

instance (macid : ℕ) : Decidable (RemoveOk hw out s macid) :=
  inferInstanceAs (Decidable (∀ role ∈ s.roleSrch macid, _))

/-- The state of a removal that got as far as the CAM update: `j` is stored. -/
def marked (s : Adapter) (node : ℕ) (j : RoleInfo) (hwb : ℕ → Bool) : Adapter :=
  { (s.setInfo node fun _ => j) with hwBssid := hwb }

lemma setInfo_marked (s : Adapter) (node : ℕ) (j j' : RoleInfo) (hwb : ℕ → Bool) :
    ((marked s node j hwb).setInfo node fun _ => j') = marked s node j' hwb := by
  have hlist := congrArg Adapter.list (setInfo_setInfo s node (fun _ => j) fun _ => j')
  simp only [marked, setInfo] at hlist ⊢
  rw [hlist]

lemma roleReturn_marked (hnode : role'.node = role.node) (j : RoleInfo)
    (hwb : ℕ → Bool) :
    (marked s role.node j hwb).roleReturn role' =
      { s with
        list := eraseKey Role.node role.node s.list
        pool := s.pool ++ [role']
        hwBssid := hwb } := by
  have hlist : eraseKey Role.node role.node
      (modifyKey Role.node role.node (fun r => { r with info := j }) s.list) =
      eraseKey Role.node role.node s.list := eraseKey_modifyKey fun _ => rfl
  simp only [marked, setInfo, roleReturn, hnode]
  rw [hlist]

/-- What `_remove_role` can end in. -/
inductive RemoveCase (hw : HwInfo) (out : Out) (s : Adapter) (macid : ℕ) : Ret × Adapter → Prop
  | missing (hsrch : s.roleSrch macid = none) : RemoveCase hw out s macid (.noRole, s)
  | failed {role : Role} {ret : Ret} {j : RoleInfo} {hwb : ℕ → Bool}
      (hsrch : s.roleSrch macid = some role) (hret : ret ≠ .success)
      (hmacid : j.macid = role.info.macid) (hsec : j.a.secEnt = role.info.a.secEnt)
      (hmode : j.a.secEntMode = role.info.a.secEntMode ∨ j.a.secEntMode = role.info.secEntMode)
      (hbad : infoChecks hw role.info = true → ¬RemoveOk hw out s macid) :
      RemoveCase hw out s macid (ret, marked s role.node j hwb)
  | removed {role role' : Role} {k : ℕ} (hsrch : s.roleSrch macid = some role)
      (hok : RemoveOk hw out s macid) (hnode : role'.node = role.node)
      (hk : findAvailBssidCam hw (eraseKey Role.node role.node s.list) role.info = some k) :
      RemoveCase hw out s macid (.success, { s with
        list := eraseKey Role.node role.node s.list
        pool := s.pool ++ [role']
        hwBssid := update s.hwBssid k true })

lemma removeRole_finish (out : Out) (hn : (s.list.map Role.node).Nodup) {macid k : ℕ} {role : Role}
    (hsrch : s.roleSrch macid = some role) {j : RoleInfo} (hmacid : j.macid = role.info.macid)
    (hsec : j.a.secEnt = role.info.a.secEnt) (hmode : j.a.secEntMode = role.info.secEntMode)
    (hdbcc : j.dbccRole = role.info.dbccRole) (hfw : fwRoleFails out role.info = false)
    (hk : findAvailBssidCam hw (eraseKey Role.node role.node s.list) role.info = some k)
    (hh2c : ¬(out.fwReady = true ∧ ¬out.h2cAddrCam = true)) :
    RemoveCase hw out s macid
      (let s₂ := marked s role.node j (update s.hwBssid k true)
      match lookupKey Role.node role.node s₂.list with
      | none => (.noRole, s₂)
      | some role₂ =>
        if role₂.info.dbccRole then
          let role₃ : Role := { role₂ with info := { role₂.info with dbccRole := false } }
          let s₃ := s₂.setInfo role.node fun _ => role₃.info
          if !out.dbccRm then (.dbcc, s₃) else (.success, s₃.roleReturn role₃)
        else (.success, s₂.roleReturn role₂)) := by
  have hlook : lookupKey Role.node role.node
      (marked s role.node j (update s.hwBssid k true)).list =
      some { role with info := j } :=
    lookup_setInfo hn (mem_of_lookupKey hsrch).1 fun _ => j
  have hsent : (role.info.dbccRole = true → out.dbccRm = true) → RemoveOk hw out s macid := by
    intro hrm r hr
    obtain rfl : role = r := Option.some.inj (hsrch.symm.trans hr)
    exact ⟨hfw, by rw [hk]; rfl, hh2c, hrm⟩
  dsimp only
  rw [hlook]
  dsimp only
  by_cases hd : j.dbccRole = true
  · rw [if_pos hd, setInfo_marked]
    cases hrm : out.dbccRm with
    | false =>
      refine .failed hsrch ?_ hmacid hsec (.inr hmode) ?_
      · simp
      · intro _ hok
        have hrm' := (hok role hsrch).2.2.2 (hdbcc ▸ hd)
        rw [hrm] at hrm'
        cases hrm'
    | true =>
      simp only [Bool.not_true, Bool.false_eq_true, if_false]
      rw [roleReturn_marked (by rfl)]
      refine .removed hsrch (hsent fun _ => hrm) ?_ hk
      rfl
  · rw [if_neg hd, roleReturn_marked (by rfl)]
    refine .removed hsrch (hsent fun hdbcc' => absurd (hdbcc.trans hdbcc') hd) ?_ hk
    rfl

/-- The role as `_change_role` gets it from `_remove_role`. -/
def removeInfo (info : RoleInfo) (v : Bool) : RoleInfo :=
  { removeMark info with b := { info.b with valid := v } }

lemma removeRole_change (hn : (s.list.map Role.node).Nodup) {macid : ℕ} {role : Role}
    (hsrch : s.roleSrch macid = some role) (heq : role.info.macid = macid) (v : Bool) :
    RemoveCase hw out s macid
      (match (s.setInfo role.node fun _ => removeInfo role.info v).changeRole hw out
          (removeInfo role.info v) with
      | (.success, s₂) =>
        match lookupKey Role.node role.node s₂.list with
        | none => (.noRole, s₂)
        | some role₂ =>
          if role₂.info.dbccRole then
            let role₃ : Role := { role₂ with info := { role₂.info with dbccRole := false } }
            let s₃ := s₂.setInfo role.node fun _ => role₃.info
            if !out.dbccRm then (.dbcc, s₃) else (.success, s₃.roleReturn role₃)
          else (.success, s₂.roleReturn role₂)
      | (ret, s₂) => (ret, s₂)) := by
  set M := removeInfo role.info v with hM
  have hrole := (mem_of_lookupKey hsrch).1
  have hnodes : ((s.setInfo role.node fun _ => M).list.map Role.node).Nodup := by
    have hmap : (s.setInfo role.node fun _ => M).list.map Role.node = s.list.map Role.node :=
      map_key_modifyKey fun _ => rfl
    rwa [hmap]
  have hfound : (s.setInfo role.node fun _ => M).roleSrch M.macid =
      some { role with info := M } := by
    have hm : M.macid = macid := heq
    rw [hm, roleSrch_setInfo, hsrch]
    simp
  have herase : eraseKey Role.node role.node (s.setInfo role.node fun _ => M).list =
      eraseKey Role.node role.node s.list := eraseKey_modifyKey fun _ => rfl
  have hsearch : ∀ l, findAvailBssidCam hw l M = findAvailBssidCam hw l role.info := fun l =>
    findAvailBssidCam_congr fun _ => rfl
  have hchanged : ∀ i j hwb, deinits i = false →
      Adapter.changed hw (s.setInfo role.node fun _ => M) role.node i j hwb =
        marked s role.node j hwb := by
    intro i j hwb hd
    have hlist := congrArg Adapter.list (setInfo_setInfo s role.node (fun _ => M) fun _ => j)
    simp only [Adapter.changed, marked, flushedCam, hd, setInfo] at hlist ⊢
    rw [hlist]
    rfl
  have hreachM : infoChecks hw role.info = true →
      changeReaches hw out (s.setInfo role.node fun _ => M) { role with info := M } M = true := by
    intro hchk
    have hchkM : infoChecks hw M = true := hchk
    have hupd : M.updMode = .remove := rfl
    simp [changeReaches, roleInfoValid, hfound, hchkM, hupd]
  set i := changeInfo { role with info := M } M with hi
  have hstored : storedInfo i = i := rfl
  have hcase := changeRole_cases hw out M hnodes
  generalize (s.setInfo role.node fun _ => M).changeRole hw out M = res at hcase
  cases hcase with
  | @refused ret hret hno =>
    have hfail : RemoveCase hw out s macid (ret, marked s role.node M s.hwBssid) := by
      refine .failed hsrch hret ?_ ?_ (.inl ?_) ?_
      · rfl
      · rfl
      · rfl
      · intro hchk
        have hreach := hno _ hfound
        rw [hreachM hchk] at hreach
        cases hreach
    cases ret with
    | success => exact absurd rfl hret
    | _ => exact hfail
  | @stopped r hr hreach hfail =>
    obtain rfl : { role with info := M } = r := Option.some.inj (hfound.symm.trans hr)
    change RemoveCase hw out s macid (.fw, Adapter.changed hw _ role.node i (storedInfo i) _)
    rw [hchanged i _ _ rfl]
    refine .failed hsrch ?_ ?_ ?_ (.inr ?_) ?_
    · simp
    · rfl
    · rfl
    · rfl
    · intro _ hok
      have hno : fwRoleFails out role.info = false := (hok role hsrch).1
      have hyes : fwRoleFails out role.info = true := hfail
      rw [hno] at hyes
      cases hyes
  | @full r hr hreach hfail hk =>
    obtain rfl : { role with info := M } = r := Option.some.inj (hfound.symm.trans hr)
    change RemoveCase hw out s macid
      (.bssidCamFull, Adapter.changed hw _ role.node i (setBssidIdx (storedInfo i) _) _)
    rw [hchanged i _ _ rfl]
    refine .failed hsrch ?_ ?_ ?_ (.inr ?_) ?_
    · simp
    · rfl
    · rfl
    · rfl
    · intro _ hok
      have hsome := (hok role hsrch).2.1
      dsimp only at hk
      rw [herase, hsearch] at hk
      rw [hk] at hsome
      cases hsome
  | @unsent r k hr hreach hfail hk hh2c =>
    obtain rfl : { role with info := M } = r := Option.some.inj (hfound.symm.trans hr)
    change RemoveCase hw out s macid
      (.fw, Adapter.changed hw _ role.node i (setBssidIdx (storedInfo i) _) _)
    rw [hchanged i _ _ rfl]
    refine .failed hsrch ?_ ?_ ?_ (.inr ?_) ?_
    · simp
    · rfl
    · rfl
    · rfl
    · exact fun _ hok => (hok role hsrch).2.2.1 hh2c
  | @sent r k hr hreach hfail hk hh2c =>
    obtain rfl : { role with info := M } = r := Option.some.inj (hfound.symm.trans hr)
    dsimp only at hk
    rw [herase, hsearch] at hk
    have hfin := removeRole_finish out hn hsrch (j := setBssidIdx (storedInfo i) k)
      (by rfl) (by rfl) (by rfl) (by rfl) hfail hk hh2c
    have hst := hchanged i (setBssidIdx (storedInfo i) k) (update s.hwBssid k true) rfl
    dsimp only at hfin ⊢
    rw [← hst] at hfin
    exact hfin

lemma removeRole_cases (hw : HwInfo) (out : Out) (macid : ℕ) (hn : (s.list.map Role.node).Nodup)
    (heq : ∀ role, s.roleSrch macid = some role → role.info.macid = macid) :
    RemoveCase hw out s macid (s.removeRole hw out macid) := by
  rw [removeRole]
  cases hsrch : s.roleSrch macid with
  | none => exact .missing hsrch
  | some role =>
    dsimp only
    rw [setInfo_setInfo]
    by_cases hb : (srchByBssid (s.setInfo role.node removeMark).list
        role.info.a.bssidCamIdx).isNone = true
    · rw [if_pos hb]
      exact removeRole_change hn hsrch (heq role hsrch) false
    · rw [if_neg hb]
      exact removeRole_change hn hsrch (heq role hsrch) role.info.b.valid

section

variable (h : s.TableOk hw nodes) (hn : nodes.Nodup)
include h hn

lemma eraseKey_node_eq {role : Role}
    (hrole : role ∈ s.list) :
    eraseKey Role.node role.node s.list = eraseKey Role.macid role.macid s.list := by
  apply filter_congr
  intro x hx
  have hiff : x.node = role.node ↔ x.macid = role.macid := by
    constructor
    · intro heq
      rw [eq_of_key_eq (h.node_nodup hn) hx hrole heq]
    · intro heq
      rw [eq_of_key_eq h.macid_nodup hx hrole heq]
  simp [hiff]

lemma TableOk.removeRole {macid : ℕ}
    (hok : RemoveOk hw out s macid) :
    (s.removeRole hw out macid).2.TableOk hw nodes ∧
      ((s.removeRole hw out macid).1 ≠ .success → Unchanged s (s.removeRole hw out macid).2) ∧
      ((s.removeRole hw out macid).1 = .success ∨ (s.removeRole hw out macid).1 = .noRole) ∧
      (s.removeRole hw out macid).2.list = eraseKey Role.macid macid s.list := by
  have hcase := removeRole_cases hw out macid (h.node_nodup hn) (by
    intro role hsrch
    obtain ⟨hrole, hmacid⟩ := h.srch_iff.1 hsrch
    rw [h.macid_eq role hrole, hmacid])
  generalize s.removeRole hw out macid = res at hcase
  cases hcase with
  | missing hsrch =>
    exact ⟨h, fun _ => .refl s, .inr rfl, (eraseKey_of_lookupKey_none hsrch).symm⟩
  | failed hsrch _ _ _ _ hbad => exact absurd hok (hbad (h.checked _ (h.srch_iff.1 hsrch).1))
  | removed hsrch _ hnode _ =>
    obtain ⟨hrole, rfl⟩ := h.srch_iff.1 hsrch
    refine ⟨?_, fun hne => absurd rfl hne, .inl rfl, eraseKey_node_eq h hn hrole⟩
    apply h.erase hn hrole hnode
    · rfl
    · rfl

lemma TableOk.removeRoleSoft (macid : ℕ) :
    (s.removeRoleSoft macid).2.TableOk hw nodes ∧
      ((s.removeRoleSoft macid).1 = .success ∨ (s.removeRoleSoft macid).1 = .noRole) ∧
      (s.removeRoleSoft macid).2.list = eraseKey Role.macid macid s.list := by
  unfold Adapter.removeRoleSoft
  cases hsrch : s.roleSrch macid with
  | none =>
    exact ⟨h, .inr rfl, (eraseKey_of_lookupKey_none hsrch).symm⟩
  | some role =>
    obtain ⟨hrole, rfl⟩ := h.srch_iff.1 hsrch
    refine ⟨?_, .inl rfl, eraseKey_node_eq h hn hrole⟩
    apply h.erase hn hrole rfl
    · rfl
    · rfl

end

end Adapter
end Rtl8831.Mac
