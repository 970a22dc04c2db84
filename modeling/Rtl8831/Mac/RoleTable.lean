import Rtl8831.Mac.RoleRun

/-!
# The role table over whole runs

The loop of `_remove_role_by_band`, the calls as one step function, and what
holds in every state of a run whose calls meet their condition.
-/

namespace Rtl8831.Mac

open Lib List

variable {hw : HwInfo} {out : Out} {s : Adapter} {info : RoleInfo} {nodes : List ℕ}

namespace Adapter

/-- What the loop calls for each role: `_remove_role_soft` or `_remove_role`. -/
def rmRole (hw : HwInfo) (outs : ℕ → Out) (sw : Bool) (s : Adapter) (macid : ℕ) : Ret × Adapter :=
  if sw then s.removeRoleSoft macid else s.removeRole hw (outs macid) macid

/-- Every removal of the loop meets `ok` in the state it is made in. -/
def LoopOk (ok : Adapter → ℕ → Prop) (hw : HwInfo) (outs : ℕ → Out) (band : ℕ) (sw : Bool) :
    List Role → Adapter → Prop
  | [], _ => True
  | r :: rs, s =>
    if band = r.info.band then
      ok s r.macid ∧
        ((rmRole hw outs sw s r.macid).1 = .success ∨ (rmRole hw outs sw s r.macid).1 = .noRole →
          LoopOk ok hw outs band sw rs (rmRole hw outs sw s r.macid).2)
    else LoopOk ok hw outs band sw rs s

instance decidableLoopOk (ok : Adapter → ℕ → Prop) [∀ s macid, Decidable (ok s macid)]
    (hw : HwInfo) (outs : ℕ → Out) (band : ℕ) (sw : Bool) :
    ∀ rs s, Decidable (LoopOk ok hw outs band sw rs s)
  | [], _ => instDecidableTrue
  | r :: rs, s =>
    have := decidableLoopOk ok hw outs band sw rs
    inferInstanceAs (Decidable (if band = r.info.band then ok s r.macid ∧ (_ → LoopOk ok hw outs
      band sw rs (rmRole hw outs sw s r.macid).2) else LoopOk ok hw outs band sw rs s))

section Loop

variable {ok : Adapter → ℕ → Prop} {outs : ℕ → Out} {band : ℕ} {sw : Bool} {rs : List Role}

variable {r : Role}

lemma removeLoop_cons :
    removeLoop hw outs band sw (r :: rs) s =
      if band = r.info.band then
        match rmRole hw outs sw s r.macid with
        | (.success, s') => removeLoop hw outs band sw rs s'
        | (.noRole, s') => removeLoop hw outs band sw rs s'
        | (ret, s') => (ret, s')
      else removeLoop hw outs band sw rs s :=
  rfl

lemma removeLoop_goes (hband : band = r.info.band)
    (hret : (rmRole hw outs sw s r.macid).1 = .success ∨
      (rmRole hw outs sw s r.macid).1 = .noRole) :
    removeLoop hw outs band sw (r :: rs) s =
      removeLoop hw outs band sw rs (rmRole hw outs sw s r.macid).2 := by
  rw [removeLoop_cons, if_pos hband]
  generalize rmRole hw outs sw s r.macid = res at hret
  obtain ⟨ret, s'⟩ := res
  rcases hret with rfl | rfl <;> rfl

lemma removeLoop_stops (hband : band = r.info.band)
    (hret : ¬((rmRole hw outs sw s r.macid).1 = .success ∨
      (rmRole hw outs sw s r.macid).1 = .noRole)) :
    removeLoop hw outs band sw (r :: rs) s = rmRole hw outs sw s r.macid := by
  rw [removeLoop_cons, if_pos hband]
  generalize rmRole hw outs sw s r.macid = res at hret
  obtain ⟨ret, s'⟩ := res
  cases ret <;> simp at hret ⊢

lemma removeLoop_skips (hband : band ≠ r.info.band) :
    removeLoop hw outs band sw (r :: rs) s = removeLoop hw outs band sw rs s := by
  rw [removeLoop_cons, if_neg hband]

lemma LoopOk.invariant {p : Adapter → Prop}
    (hstep : ∀ s macid, p s → ok s macid → p (rmRole hw outs sw s macid).2)
    (hs : p s) (h : LoopOk ok hw outs band sw rs s) :
    p (removeLoop hw outs band sw rs s).2 := by
  induction rs generalizing s with
  | nil => exact hs
  | cons r rs ih =>
    rw [LoopOk] at h
    by_cases hband : band = r.info.band
    · rw [if_pos hband] at h
      have hr := hstep s r.macid hs h.1
      by_cases hret : (rmRole hw outs sw s r.macid).1 = .success ∨
          (rmRole hw outs sw s r.macid).1 = .noRole
      · rw [removeLoop_goes hband hret]
        exact ih hr (h.2 hret)
      · rwa [removeLoop_stops hband hret]
    · rw [if_neg hband] at h
      rw [removeLoop_skips hband]
      exact ih hs h

def RmOk (hw : HwInfo) (outs : ℕ → Out) (sw : Bool) (s : Adapter) (macid : ℕ) : Prop :=
  sw = false → RemoveOk hw (outs macid) s macid

instance (macid : ℕ) : Decidable (RmOk hw outs sw s macid) :=
  inferInstanceAs (Decidable (sw = false → _))

section

variable (h : s.TableOk hw nodes) (hn : nodes.Nodup)
include h hn

lemma TableOk.rmRole {macid : ℕ}
    (hok : RmOk hw outs sw s macid) :
    (rmRole hw outs sw s macid).2.TableOk hw nodes ∧
      ((rmRole hw outs sw s macid).1 = .success ∨ (rmRole hw outs sw s macid).1 = .noRole) ∧
      (rmRole hw outs sw s macid).2.list = eraseKey Role.macid macid s.list := by
  cases sw with
  | true => exact h.removeRoleSoft hn macid
  | false =>
    obtain ⟨htab, -, hret⟩ := h.removeRole hn (hok rfl)
    exact ⟨htab, hret⟩

lemma TableOk.removeLoop
    (hrs : ∀ r ∈ rs, r ∈ s.list) (hnd : (rs.map Role.macid).Nodup)
    (hok : LoopOk (RmOk hw outs sw) hw outs band sw rs s) :
    (removeLoop hw outs band sw rs s).1 = .success ∧
      (removeLoop hw outs band sw rs s).2.list =
        s.list.filter fun x => !decide (x.info.band = band ∧ x.macid ∈ rs.map Role.macid) := by
  induction rs generalizing s with
  | nil =>
    refine ⟨rfl, ?_⟩
    rw [eq_comm]
    apply filter_eq_self.2
    simp
  | cons r rs ih =>
    rw [map_cons, nodup_cons] at hnd
    rw [LoopOk] at hok
    have hr := hrs r mem_cons_self
    by_cases hband : band = r.info.band
    · rw [if_pos hband] at hok
      obtain ⟨htab, hret, hlist⟩ := h.rmRole hn hok.1
      rw [removeLoop_goes hband hret]
      have hmem : ∀ x ∈ rs, x ∈ (Adapter.rmRole hw outs sw s r.macid).2.list := by
        intro x hx
        rw [hlist]
        refine mem_eraseKey.2 ⟨hrs x (mem_cons_of_mem _ hx), ?_⟩
        intro heq
        exact hnd.1 (heq ▸ mem_map_of_mem hx)
      obtain ⟨hsucc, hrest⟩ := ih htab hmem hnd.2 (hok.2 hret)
      refine ⟨hsucc, ?_⟩
      rw [hrest, hlist, eraseKey, filter_filter]
      apply filter_congr
      intro x hx
      by_cases hx' : x.macid = r.macid
      · obtain rfl := eq_of_key_eq h.macid_nodup hx hr hx'
        simp [hband]
      · simp [hx']
    · rw [if_neg hband] at hok
      rw [removeLoop_skips hband]
      obtain ⟨hsucc, hrest⟩ := ih h (fun x hx => hrs x (mem_cons_of_mem _ hx)) hnd.2 hok
      refine ⟨hsucc, ?_⟩
      rw [hrest]
      apply filter_congr
      intro x hx
      by_cases hx' : x.macid = r.macid
      · obtain rfl := eq_of_key_eq h.macid_nodup hx hr hx'
        simp [Ne.symm hband]
      · simp [hx']

lemma TableOk.removeRoleByBand
    (hok : LoopOk (RmOk hw outs sw) hw outs band sw s.list s) :
    (s.removeRoleByBand hw outs band sw).2.TableOk hw nodes ∧
      (s.removeRoleByBand hw outs band sw).1 = .success ∧
      (s.removeRoleByBand hw outs band sw).2.list =
        s.list.filter fun x => decide (x.info.band ≠ band) := by
  obtain ⟨hsucc, hlist⟩ := h.removeLoop hn (fun _ hr => hr) h.macid_nodup hok
  refine ⟨?_, hsucc, ?_⟩
  · exact hok.invariant (p := TableOk hw nodes) (fun _ _ hs hmacid => (hs.rmRole hn hmacid).1) h
  · rw [Adapter.removeRoleByBand, hlist]
    apply filter_congr
    intro x hx
    have hmem : x.macid ∈ s.list.map Role.macid := mem_map_of_mem hx
    simp [hmem]

end

end Loop

def Used (list : List Role) (k : ℕ) : Prop := ∃ r ∈ list, r.info.a.bssidCamIdx = k

instance (list : List Role) (k : ℕ) : Decidable (Used list k) :=
  inferInstanceAs (Decidable (∃ r ∈ list, _))

def Marked (s : Adapter) : Prop := ∀ k, s.hwBssid k = true ↔ Used s.list k

lemma Unchanged.marked {s' : Adapter} (h : Unchanged s s') (hm : s.Marked) : s'.Marked := by
  intro k
  have hidx := congrArg (map fun x => x.2.2.2.2) h.1
  simp only [map_map] at hidx
  have hused : ∀ list, Used list k ↔
      k ∈ list.map ((fun x : ℕ × ℕ × Bool × ℕ × ℕ => x.2.2.2.2) ∘ alloc) := fun list =>
    mem_map.symm
  rw [h.2.2, hm k, hused, hused, hidx]

variable {list : List Role} {role : Role}

lemma used_append {r : Role} {k : ℕ} :
    Used (list ++ [r]) k ↔ Used list k ∨ r.info.a.bssidCamIdx = k := by
  simp [Used, or_and_right, exists_or]

lemma used_of_erase {k : ℕ}
    (hn : (list.map Role.node).Nodup) (hr : role ∈ list) :
    Used list k ↔ Used (eraseKey Role.node role.node list) k ∨ role.info.a.bssidCamIdx = k := by
  constructor
  · rintro ⟨x, hx, rfl⟩
    by_cases hk : x.node = role.node
    · exact .inr (by rw [eq_of_key_eq hn hx hr hk])
    · exact .inl ⟨x, mem_eraseKey.2 ⟨hx, hk⟩, rfl⟩
  · rintro (⟨x, hx, rfl⟩ | rfl)
    · exact ⟨x, (mem_eraseKey.1 hx).1, rfl⟩
    · exact ⟨role, hr, rfl⟩

lemma used_setInfo {i : RoleInfo} {k : ℕ} (hn : (s.list.map Role.node).Nodup)
    (hr : role ∈ s.list) :
    Used (s.setInfo role.node fun _ => i).list k ↔
      Used (eraseKey Role.node role.node s.list) k ∨ i.a.bssidCamIdx = k := by
  constructor
  · rintro ⟨x, hx, rfl⟩
    rcases (mem_modifyKey hn hr).1 hx with rfl | hx
    · exact .inr rfl
    · exact .inl ⟨x, mem_eraseKey.2 hx, rfl⟩
  · rintro (⟨x, hx, rfl⟩ | rfl)
    · exact ⟨x, (mem_modifyKey hn hr).2 (.inr (mem_eraseKey.1 hx)), rfl⟩
    · exact ⟨_, (mem_modifyKey hn hr).2 (.inl rfl), rfl⟩

lemma update_true_iff {f : ℕ → Bool} {k j : ℕ} :
    Function.update f k true j = true ↔ f j = true ∨ k = j := by
  by_cases hj : j = k
  · subst hj
    simp
  · simp [hj, Ne.symm hj]

/-- The condition on `mac_add_role`: the firmware takes the entry, or has it. -/
def AddMarks (hw : HwInfo) (out : Out) (s : Adapter) (info : RoleInfo) : Prop :=
  out.fwReady = true ∧ ¬out.h2cAddrCam = true →
    ∀ k, findAvailBssidCam hw s.list info = some k → Used s.list k

instance : Decidable (AddMarks hw out s info) :=
  inferInstanceAs (Decidable (_ ∧ _ → ∀ k ∈ findAvailBssidCam hw s.list info, _))

/-- The condition on `mac_change_role`: the role stays with its entry, or others do. -/
def ChangeMarks (hw : HwInfo) (s : Adapter) (info : RoleInfo) : Prop :=
  ∀ role, s.roleSrch info.macid = some role →
    findAvailBssidCam hw (eraseKey Role.node role.node s.list) info =
        some role.info.a.bssidCamIdx ∨
      Used (eraseKey Role.node role.node s.list) role.info.a.bssidCamIdx

/-- The condition on `mac_remove_role`: others stay with the entry of the role,
and with the one the search finds. -/
def RemoveMarks (hw : HwInfo) (s : Adapter) (macid : ℕ) : Prop :=
  ∀ role, s.roleSrch macid = some role →
    Used (eraseKey Role.node role.node s.list) role.info.a.bssidCamIdx ∧
      ∀ k, findAvailBssidCam hw (eraseKey Role.node role.node s.list) role.info = some k →
        Used (eraseKey Role.node role.node s.list) k

instance : Decidable (ChangeMarks hw s info) :=
  inferInstanceAs (Decidable (∀ role ∈ s.roleSrch info.macid, _))

instance (macid : ℕ) : Decidable (RemoveMarks hw s macid) :=
  inferInstanceAs (Decidable (∀ role ∈ s.roleSrch macid, Used _ _ ∧
    ∀ k ∈ findAvailBssidCam hw (eraseKey Role.node role.node s.list) role.info, _))

lemma addRole_marked (hm : s.Marked) (hok : AddOk hw out s info)
    (hmarks : AddMarks hw out s info) : (s.addRole hw out info).2.Marked := by
  have hcase := addRole_cases hw out s info
  generalize s.addRole hw out info = res at hcase
  cases hcase with
  | refused hun _ _ => exact hun.marked hm
  | lost hreach hjoin _ _ _ =>
    rw [(hok hreach).1] at hjoin
    cases hjoin
  | @accepted node pool i k hwb hreach hjoin hpool hi hk hhw =>
    intro j
    have hsame : findAvailBssidCam hw s.list (addInfo info) = findAvailBssidCam hw s.list info :=
      findAvailBssidCam_congr fun _ => rfl
    change hwb j = true ↔ _
    rw [hhw, used_append]
    change _ ↔ Used s.list j ∨ k = j
    by_cases hh2c : out.fwReady = true ∧ ¬out.h2cAddrCam = true
    · have hused := hmarks hh2c k (hsame ▸ hk)
      rw [if_pos hh2c, hm j]
      constructor
      · exact .inl
      · rintro (hj | rfl)
        · exact hj
        · exact hused
    · rw [if_neg hh2c, update_true_iff, hm j]

lemma TableOk.changeRole_marked (h : s.TableOk hw nodes) (hn : nodes.Nodup) (hm : s.Marked)
    (hok : ChangeOk hw out s info) (hmarks : ChangeMarks hw s info) :
    (s.changeRole hw out info).2.Marked := by
  have hnd := h.node_nodup hn
  have hfailed := (h.changeRole hn hok).2
  have hcase := changeRole_cases hw out info hnd
  generalize s.changeRole hw out info = res at hcase hfailed
  cases hcase with
  | refused hret _ => exact hm
  | stopped _ _ _ => exact (hfailed (by simp)).marked hm
  | full _ _ _ _ => exact (hfailed (by simp)).marked hm
  | unsent _ _ _ _ _ => exact (hfailed (by simp)).marked hm
  | @sent role k hsrch hreach hfail hk hh2c =>
    obtain ⟨hrole, -⟩ := h.srch_iff.1 hsrch
    intro j
    change Function.update s.hwBssid k true j = true ↔
      Used (s.setInfo role.node fun _ => _).list j
    rw [update_true_iff, hm j, used_setInfo hnd hrole, used_of_erase hnd hrole]
    change _ ↔ _ ∨ k = j
    have hold := hmarks role hsrch
    rw [hk, Option.some_inj] at hold
    constructor
    · rintro ((hj | rfl) | rfl)
      · exact .inl hj
      · exact hold.symm
      · exact .inr rfl
    · rintro (hj | rfl)
      · exact .inl (.inl hj)
      · exact .inr rfl

lemma TableOk.removeRole_marked (h : s.TableOk hw nodes) (hn : nodes.Nodup) (hm : s.Marked)
    {macid : ℕ} (hok : RemoveOk hw out s macid) (hmarks : RemoveMarks hw s macid) :
    (s.removeRole hw out macid).2.Marked := by
  have hnd := h.node_nodup hn
  have hcase := removeRole_cases hw out macid hnd (by
    intro role hsrch
    obtain ⟨hrole, hmacid⟩ := h.srch_iff.1 hsrch
    rw [h.macid_eq role hrole, hmacid])
  generalize s.removeRole hw out macid = res at hcase
  cases hcase with
  | missing _ => exact hm
  | failed hsrch _ _ _ _ hbad => exact absurd hok (hbad (h.checked _ (h.srch_iff.1 hsrch).1))
  | @removed role role' k hsrch _ hnode hk =>
    obtain ⟨hrole, -⟩ := h.srch_iff.1 hsrch
    obtain ⟨hold, hfound⟩ := hmarks role hsrch
    intro j
    change Function.update s.hwBssid k true j = true ↔ Used (eraseKey Role.node role.node s.list) j
    rw [update_true_iff, hm j, used_of_erase hnd hrole]
    constructor
    · rintro ((hj | rfl) | rfl)
      · exact hj
      · exact hold
      · exact hfound k hk
    · exact fun hj => .inl (.inl hj)

def RmMarks (hw : HwInfo) (sw : Bool) (s : Adapter) (macid : ℕ) : Prop :=
  if sw then ∀ role, s.roleSrch macid = some role →
    Used (eraseKey Role.node role.node s.list) role.info.a.bssidCamIdx
  else RemoveMarks hw s macid

instance (sw : Bool) (macid : ℕ) : Decidable (RmMarks hw sw s macid) :=
  inferInstanceAs (Decidable (if sw then ∀ role ∈ s.roleSrch macid, _ else _))

lemma TableOk.rmRole_marked (h : s.TableOk hw nodes) (hn : nodes.Nodup) (hm : s.Marked)
    {outs : ℕ → Out} {sw : Bool} {macid : ℕ} (hok : RmOk hw outs sw s macid)
    (hmarks : RmMarks hw sw s macid) : (Adapter.rmRole hw outs sw s macid).2.Marked := by
  cases sw with
  | false => exact h.removeRole_marked hn hm (hok rfl) hmarks
  | true =>
    change (s.removeRoleSoft macid).2.Marked
    unfold Adapter.removeRoleSoft
    cases hsrch : s.roleSrch macid with
    | none => exact hm
    | some role =>
      obtain ⟨hrole, -⟩ := h.srch_iff.1 hsrch
      intro j
      change s.hwBssid j = true ↔ Used (eraseKey Role.node role.node s.list) j
      rw [hm j, used_of_erase (h.node_nodup hn) hrole]
      constructor
      · rintro (hj | rfl)
        · exact hj
        · exact hmarks role hsrch
      · exact .inl

inductive RoleOp
  | add (out : Out) (info : RoleInfo)
  | change (out : Out) (info : RoleInfo)
  | remove (out : Out) (macid : ℕ)
  | removeByBand (outs : ℕ → Out) (band : ℕ) (sw : Bool)

/-- `mac_add_role`, `mac_change_role`, `mac_remove_role`, `mac_remove_role_by_band`. -/
def call (hw : HwInfo) (s : Adapter) : RoleOp → Ret × Adapter
  | .add out info => s.addRole hw out info
  | .change out info => s.changeRole hw out info
  | .remove out macid => s.removeRole hw out macid
  | .removeByBand outs band sw => s.removeRoleByBand hw outs band sw

def roleStep (hw : HwInfo) (s : Adapter) (op : RoleOp) : Adapter := (s.call hw op).2

/-- A node as `role_alloc` makes it. -/
def roleAlloc (node : ℕ) : Role :=
  { node := node
    macid := 0
    info := { macid := 0, band := 0, bssid := fun _ => 0, selfMac := fun _ => 0,
              targetMac := fun _ => 0, netType := .noLink, disconn := false } }

def roleTblInit (hw : HwInfo) : Adapter := { pool := (range hw.macidNum).map roleAlloc }

/-- The condition on a call: it does not fail past the point where it has
changed the table, and a mask does not blur the BSSIDs in use. -/
def CallOk (hw : HwInfo) (s : Adapter) : RoleOp → Prop
  | .add out info => AddOk hw out s info
  | .change out info => ChangeOk hw out s info
  | .remove out macid => RemoveOk hw out s macid
  | .removeByBand outs band sw => LoopOk (RmOk hw outs sw) hw outs band sw s.list s

def CallMarks (hw : HwInfo) (s : Adapter) : RoleOp → Prop
  | .add out info => AddMarks hw out s info
  | .change _ info => ChangeMarks hw s info
  | .remove _ macid => RemoveMarks hw s macid
  | .removeByBand outs band sw =>
    LoopOk (fun s macid => RmOk hw outs sw s macid ∧ RmMarks hw sw s macid) hw outs band sw s.list s

instance : ∀ op, Decidable (CallOk hw s op)
  | .add out info => inferInstanceAs (Decidable (AddOk hw out s info))
  | .change out info => inferInstanceAs (Decidable (ChangeOk hw out s info))
  | .remove out macid => inferInstanceAs (Decidable (RemoveOk hw out s macid))
  | .removeByBand outs band sw =>
    inferInstanceAs (Decidable (LoopOk (RmOk hw outs sw) hw outs band sw s.list s))

instance : ∀ op, Decidable (CallMarks hw s op)
  | .add out info => inferInstanceAs (Decidable (AddMarks hw out s info))
  | .change _ info => inferInstanceAs (Decidable (ChangeMarks hw s info))
  | .remove _ macid => inferInstanceAs (Decidable (RemoveMarks hw s macid))
  | .removeByBand outs band sw => inferInstanceAs (Decidable (LoopOk
      (fun s macid => RmOk hw outs sw s macid ∧ RmMarks hw sw s macid) hw outs band sw s.list s))

def CallPromise (hw : HwInfo) (s : Adapter) (op : RoleOp) : Prop :=
  ((s.call hw op).1 ≠ .success → Unchanged s (s.call hw op).2) ∧
    ∀ outs band sw, op = .removeByBand outs band sw →
      (s.call hw op).2.list = s.list.filter fun x => decide (x.info.band ≠ band)

lemma TableOk.call (h : s.TableOk hw nodes) (hn : nodes.Nodup) {op : RoleOp}
    (hok : s.CallOk hw op) : (s.roleStep hw op).TableOk hw nodes ∧ s.CallPromise hw op := by
  cases op with
  | add out info =>
    obtain ⟨htab, hfail⟩ := h.addRole hok
    exact ⟨htab, hfail, by simp⟩
  | change out info =>
    obtain ⟨htab, hfail⟩ := h.changeRole hn hok
    exact ⟨htab, hfail, by simp⟩
  | remove out macid =>
    obtain ⟨htab, hfail, -⟩ := h.removeRole hn hok
    exact ⟨htab, hfail, by simp⟩
  | removeByBand outs band sw =>
    obtain ⟨htab, hsucc, hlist⟩ := h.removeRoleByBand hn hok
    refine ⟨htab, fun hne => absurd hsucc hne, ?_⟩
    rintro _ _ _ ⟨⟩
    exact hlist

lemma TableOk.call_marked (h : s.TableOk hw nodes) (hn : nodes.Nodup) (hm : s.Marked)
    {op : RoleOp} (hok : s.CallOk hw op) (hmarks : s.CallMarks hw op) :
    (s.roleStep hw op).Marked := by
  cases op with
  | add out info => exact addRole_marked hm hok hmarks
  | change out info => exact h.changeRole_marked hn hm hok hmarks
  | remove out macid => exact h.removeRole_marked hn hm hok hmarks
  | removeByBand outs band sw =>
    have hboth : (s.removeRoleByBand hw outs band sw).2.TableOk hw nodes ∧
        (s.removeRoleByBand hw outs band sw).2.Marked := by
      refine LoopOk.invariant (p := fun t => t.TableOk hw nodes ∧ t.Marked) ?_ ⟨h, hm⟩ hmarks
      rintro t macid ⟨ht, htm⟩ ⟨hrm, hrmm⟩
      exact ⟨(ht.rmRole hn hrm).1, ht.rmRole_marked hn htm hrm hrmm⟩
    exact hboth.2

lemma tableOk_init (hw : HwInfo) : (roleTblInit hw).TableOk hw (range hw.macidNum) where
  perm := by
    have hnodes : (Role.node ∘ roleAlloc) = id := rfl
    simp [roleTblInit, hnodes]
  macid_nodup := nodup_nil
  macid_eq := by simp [roleTblInit]
  checked := by simp [roleTblInit]
  holds := by simp [roleTblInit, Holds]
  addr_lt := by simp [roleTblInit]
  addr_ne := by simp [roleTblInit]
  share_iff := by simp [roleTblInit]

/-- Over every run of calls that meet their condition the table is sound in
every state, a failed call leaves it, and a removal by band takes exactly the
roles of the band.  The marks of the BSSID CAM are right as long as the calls
also meet theirs. -/
theorem role_table_sound (hw : HwInfo) (ops : List RoleOp)
    (h : Guarded (roleStep hw) (CallOk hw) (roleTblInit hw) ops) :
    (run (roleStep hw) (roleTblInit hw) ops).TableOk hw (range hw.macidNum) ∧
      (∀ xs op ys, ops = xs ++ op :: ys →
        (run (roleStep hw) (roleTblInit hw) xs).CallPromise hw op) ∧
      (Guarded (roleStep hw) (CallMarks hw) (roleTblInit hw) ops →
        (run (roleStep hw) (roleTblInit hw) ops).Marked) := by
  have hn : (range hw.macidNum).Nodup := nodup_range
  have htab : ∀ xs, Guarded (roleStep hw) (CallOk hw) (roleTblInit hw) xs →
      (run (roleStep hw) (roleTblInit hw) xs).TableOk hw (range hw.macidNum) := fun xs hxs =>
    hxs.invariant (fun _ _ hs hok => (hs.call hn hok).1) (tableOk_init hw)
  refine ⟨htab ops h, ?_, ?_⟩
  · rintro xs op ys rfl
    obtain ⟨hxs, hop⟩ := h.split
    exact ((htab xs hxs).call hn hop).2
  · intro hmarks
    have hboth : Guarded (roleStep hw) (fun s op => s.CallOk hw op ∧ s.CallMarks hw op)
        (roleTblInit hw) ops := h.and hmarks
    have hstep : ∀ (s : Adapter) op, (s.TableOk hw (range hw.macidNum) ∧ s.Marked) →
        (s.CallOk hw op ∧ s.CallMarks hw op) →
        (s.roleStep hw op).TableOk hw (range hw.macidNum) ∧ (s.roleStep hw op).Marked :=
      fun _ _ hs hok => ⟨(hs.1.call hn hok.1).1, hs.1.call_marked hn hs.2 hok.1 hok.2⟩
    exact (hboth.invariant hstep ⟨tableOk_init hw, by simp [Marked, Used, roleTblInit]⟩).2

/-- An AP and its station share an entry, a second AP works on the other band, a
change of the first AP fails, the station goes; then band 0 is cleared. -/
theorem role_table_sound_run :
    ∃ (hw : HwInfo) (ops : List RoleOp),
      (run (roleStep hw) (roleTblInit hw) ops).Marked ∧
      (run (roleStep hw) (roleTblInit hw) ops).list.map alloc =
        [(0, 0, true, 0, 0), (2, 2, true, 2, 1)] ∧
      (run (roleStep hw) (roleTblInit hw) (ops ++ [.removeByBand (fun _ => {}) 0 false])).TableOk hw
        (range hw.macidNum) ∧
      (run (roleStep hw) (roleTblInit hw)
        (ops ++ [.removeByBand (fun _ => {}) 0 false])).list.map alloc = [(2, 2, true, 2, 1)] := by
  let hw : HwInfo := ⟨4, by decide, 4, 8, false⟩
  let mac (n : ℕ) : Fin 6 → ℕ := fun i => if i = 5 then n else 2
  let ap : RoleInfo := { macid := 0, band := 0, bssid := mac 1, selfMac := mac 1,
                         targetMac := mac 1, netType := .ap, selfRole := .ap }
  let sta : RoleInfo := { ap with macid := 1, targetMac := mac 7, selfRole := .apClient }
  let ops : List RoleOp := [.add {} ap, .add {} sta, .add {} { ap with macid := 2, band := 1 },
    .change { joinInfo := false } { ap with updMode := .infoChange }, .remove {} 1]
  have h : Guarded (roleStep hw) (CallOk hw) (roleTblInit hw) ops :=
    ⟨by decide, by decide, by decide, by decide, by decide, trivial⟩
  have hmarks : Guarded (roleStep hw) (CallMarks hw) (roleTblInit hw) ops :=
    ⟨by decide, by decide, by decide, by decide, by decide, trivial⟩
  have hall : Guarded (roleStep hw) (CallOk hw) (roleTblInit hw)
      (ops ++ [.removeByBand (fun _ => {}) 0 false]) :=
    ⟨by decide, by decide, by decide, by decide, by decide, by decide, trivial⟩
  exact ⟨hw, ops, (role_table_sound hw ops h).2.2 hmarks, by decide,
    (role_table_sound hw _ hall).1, by decide⟩

/-- A role is added and removed, and nothing fails: its entry of the BSSID CAM
stays valid, with no role to use it. -/
theorem removed_role_leaves_bssid :
    ¬ ∀ (hw : HwInfo) (ops : List RoleOp),
      (run (roleStep hw) (roleTblInit hw) ops).TableOk hw (range hw.macidNum) ∧
        (∀ xs op ys, ops = xs ++ op :: ys →
          (run (roleStep hw) (roleTblInit hw) xs).CallPromise hw op) ∧
        (run (roleStep hw) (roleTblInit hw) ops).Marked := by
  intro h
  have hmarked := (h ⟨4, by decide, 4, 8, false⟩
    [.add {} { macid := 0, band := 0, bssid := fun _ => 2, selfMac := fun _ => 4,
               targetMac := fun _ => 2 },
      .remove {} 0]).2.2 0
  revert hmarked
  decide

end Adapter
end Rtl8831.Mac
