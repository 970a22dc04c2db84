import Rtl8831.Lib.Run
import Rtl8831.Mac.Role

/-!
# The role table invariant

`TableOk` says where the nodes are, that macids and address CAM entries are not
used twice, and which roles share an entry of the BSSID CAM.  Each of the three
ways the list changes (a role is appended, replaced or taken out) keeps it.
-/

namespace Rtl8831.Mac

open Lib List

variable {hw : HwInfo} {out : Out} {s : Adapter} {info : RoleInfo}

namespace Adapter

def SameBssid (i j : RoleInfo) : Prop :=
  i.band = j.band ∧ ∀ k : Fin 6, k.val < min (cmpLen i) (cmpLen j) → i.bssid k = j.bssid k

instance (i j : RoleInfo) : Decidable (SameBssid i j) := inferInstanceAs (Decidable (_ ∧ _))

lemma SameBssid.symm {i j : RoleInfo} (h : SameBssid i j) : SameBssid j i :=
  ⟨h.1.symm, fun k hk => (h.2 k (min_comm (cmpLen i) _ ▸ hk)).symm⟩

/-- The mask of `info` tells the roles of a list apart as their entries do. -/
def MaskAgrees (info : RoleInfo) (list : List Role) : Prop :=
  ∀ r ∈ list, (bssidHit info r.info = true ↔ SameBssid info r.info) ∧
    ∀ t ∈ list, bssidHit info r.info = true →
      (bssidHit info t.info = true ↔ t.info.a.bssidCamIdx = r.info.a.bssidCamIdx)

instance (info : RoleInfo) (list : List Role) : Decidable (MaskAgrees info list) :=
  inferInstanceAs (Decidable (∀ r ∈ list, _))

variable {list : List Role}

lemma bssidLoop_spec {free : Option ℕ} {is : List ℕ} {k : ℕ}
    (h : bssidLoop list info free is = some k) :
    (∃ i ∈ is, ∃ r, srchByBssid list i = some r ∧ bssidHit info r.info = true ∧
        k = r.info.a.bssidCamIdx) ∨
      ((free = some k ∨ (k ∈ is ∧ srchByBssid list k = none)) ∧
        ∀ i ∈ is, ∀ r, srchByBssid list i = some r → bssidHit info r.info = false) := by
  induction is generalizing free with
  | nil => exact .inr ⟨.inl h, by simp⟩
  | cons i is ih =>
    rw [bssidLoop] at h
    cases hs : srchByBssid list i with
    | none =>
      rw [hs] at h
      rcases ih h with ⟨j, hj, r, hr⟩ | ⟨hfree, hno⟩
      · exact .inl ⟨j, mem_cons_of_mem _ hj, r, hr⟩
      · refine .inr ⟨?_, ?_⟩
        · rcases hfree with hfree | ⟨hk, hnone⟩
          · cases free with
            | none =>
              obtain rfl : i = k := by simpa using hfree
              exact .inr ⟨mem_cons_self, hs⟩
            | some f => exact .inl hfree
          · exact .inr ⟨mem_cons_of_mem _ hk, hnone⟩
        · intro j hj r hr
          rcases mem_cons.1 hj with rfl | hj
          · rw [hs] at hr
            cases hr
          · exact hno j hj r hr
    | some r =>
      rw [hs] at h
      dsimp only at h
      by_cases hit : bssidHit info r.info = true
      · rw [if_pos hit] at h
        exact .inl ⟨i, mem_cons_self, r, hs, hit, (Option.some.inj h).symm⟩
      · rw [if_neg hit] at h
        rcases ih h with ⟨j, hj, t, ht⟩ | ⟨hfree, hno⟩
        · exact .inl ⟨j, mem_cons_of_mem _ hj, t, ht⟩
        · refine .inr ⟨?_, ?_⟩
          · rcases hfree with hfree | ⟨hk, hnone⟩
            · exact .inl hfree
            · exact .inr ⟨mem_cons_of_mem _ hk, hnone⟩
          · intro j hj t ht
            rcases mem_cons.1 hj with rfl | hj
            · rw [hs] at ht
              cases ht
              exact Bool.eq_false_iff.2 hit
            · exact hno j hj t ht

def Holds (hw : HwInfo) (list : List Role) : Prop :=
  ∀ r ∈ list, r.info.a.valid = true ∧ r.info.b.bssidCamIdx = r.info.a.bssidCamIdx ∧
    r.info.a.bssidCamIdx < hw.bssidNum

lemma srchByBssid_of_mem (h : Holds hw list) {r : Role} (hr : r ∈ list) :
    ∃ t ∈ list, srchByBssid list r.info.a.bssidCamIdx = some t ∧
      t.info.a.bssidCamIdx = r.info.a.bssidCamIdx := by
  cases hs : srchByBssid list r.info.a.bssidCamIdx with
  | none =>
    have := find?_eq_none.1 hs r hr
    obtain ⟨hv, hb, -⟩ := h r hr
    simp [hv, hb] at this
  | some t =>
    have ht := mem_of_find?_eq_some hs
    have hp := find?_some hs
    simp only [Bool.and_eq_true, decide_eq_true_eq] at hp
    exact ⟨t, ht, rfl, (h t ht).2.1.symm.trans hp.1⟩

lemma findAvailBssidCam_spec (h : Holds hw list)
    (hmask : MaskAgrees info list) {k : ℕ} (hk : findAvailBssidCam hw list info = some k) :
    k < hw.bssidNum ∧ ∀ t ∈ list, k = t.info.a.bssidCamIdx ↔ SameBssid info t.info := by
  rcases bssidLoop_spec hk with ⟨i, -, r, hs, hit, rfl⟩ | ⟨hfree, hno⟩
  · have hr := mem_of_find?_eq_some hs
    refine ⟨(h r hr).2.2, ?_⟩
    intro t ht
    rw [← (hmask t ht).1, (hmask r hr).2 t ht hit, eq_comm]
  · obtain ⟨hk, hnone⟩ := hfree.resolve_left (by simp)
    refine ⟨mem_range.1 hk, ?_⟩
    intro t ht
    constructor
    · rintro rfl
      obtain ⟨_, _, hsome, _⟩ := srchByBssid_of_mem h ht
      rw [hnone] at hsome
      cases hsome
    · intro hsame
      have hit := (hmask t ht).1.2 hsame
      obtain ⟨r, hr, hs, hidx⟩ := srchByBssid_of_mem h ht
      have hrange : t.info.a.bssidCamIdx ∈ range hw.bssidNum :=
        mem_range.2 (h t ht).2.2
      have hitr := ((hmask t ht).2 r hr hit).2 hidx
      rw [hno _ hrange r hs] at hitr
      cases hitr

/-- The role list, the pool and the allocations agree; `nodes` are the nodes
made at start-up. -/
structure TableOk (hw : HwInfo) (nodes : List ℕ) (s : Adapter) : Prop where
  perm : ((s.list ++ s.pool).map Role.node).Perm nodes
  macid_nodup : (s.list.map Role.macid).Nodup
  macid_eq : ∀ r ∈ s.list, r.info.macid = r.macid
  checked : ∀ r ∈ s.list, infoChecks hw r.info = true
  holds : Holds hw s.list
  addr_lt : ∀ r ∈ s.list, r.info.a.addrCamIdx < hw.macidNum
  addr_ne : ∀ r ∈ s.list, ∀ t ∈ s.list, r.node ≠ t.node →
    r.info.a.addrCamIdx ≠ t.info.a.addrCamIdx
  share_iff : ∀ r ∈ s.list, ∀ t ∈ s.list, r.node ≠ t.node →
    (r.info.a.bssidCamIdx = t.info.a.bssidCamIdx ↔ SameBssid r.info t.info)

namespace TableOk

variable {nodes : List ℕ} {r role : Role}

section

variable (h : s.TableOk hw nodes)
include h

lemma node_nodup (hn : nodes.Nodup) : (s.list.map Role.node).Nodup := by
  have hall : ((s.list ++ s.pool).map Role.node).Nodup := h.perm.nodup_iff.2 hn
  rw [map_append] at hall
  exact hall.of_append_left

lemma srch_iff {macid : ℕ} :
    s.roleSrch macid = some r ↔ r ∈ s.list ∧ r.macid = macid := by
  constructor
  · exact mem_of_lookupKey
  · rintro ⟨hr, rfl⟩
    exact lookupKey_of_mem h.macid_nodup hr

lemma congr {s' : Adapter} (hl : s'.list = s.list)
    (hp : (s'.pool.map Role.node).Perm (s.pool.map Role.node)) : s'.TableOk hw nodes where
  perm := by
    have := h.perm
    rw [map_append] at this ⊢
    rw [hl]
    exact (hp.append_left _).trans this
  macid_nodup := hl ▸ h.macid_nodup
  macid_eq := hl ▸ h.macid_eq
  checked := hl ▸ h.checked
  holds := hl ▸ h.holds
  addr_lt := hl ▸ h.addr_lt
  addr_ne := hl ▸ h.addr_ne
  share_iff := hl ▸ h.share_iff

lemma append {pool : List Role} {node : ℕ}
    (hpool : s.pool.map Role.node = node :: pool.map Role.node) (hnode : role.node = node)
    (hmacid : s.roleSrch role.macid = none) (heq : role.info.macid = role.macid)
    (hchk : infoChecks hw role.info = true) (hvalid : role.info.a.valid = true)
    (hb : role.info.b.bssidCamIdx = role.info.a.bssidCamIdx)
    (hlt : role.info.a.bssidCamIdx < hw.bssidNum)
    (haddr : role.info.a.addrCamIdx < hw.macidNum)
    (hfresh : ∀ t ∈ s.list, t.info.a.addrCamIdx ≠ role.info.a.addrCamIdx)
    (hshare : ∀ t ∈ s.list, role.info.a.bssidCamIdx = t.info.a.bssidCamIdx ↔
      SameBssid role.info t.info) (hwb : ℕ → Bool) :
    { s with list := s.list ++ [role], pool := pool, hwBssid := hwb }.TableOk hw nodes where
  perm := by
    refine List.Perm.trans ?_ h.perm
    simp only [map_append, map_cons, map_nil, hpool, hnode]
    simp
  macid_nodup := by
    rw [map_append, nodup_append]
    refine ⟨h.macid_nodup, by simp, ?_⟩
    rintro a ha b hb rfl
    obtain ⟨t, ht, rfl⟩ := mem_map.1 ha
    rw [map_singleton, mem_singleton] at hb
    have := h.srch_iff.2 ⟨ht, hb⟩
    rw [hmacid] at this
    cases this
  macid_eq := by
    intro r hr
    rcases mem_append.1 hr with hr | hr
    · exact h.macid_eq r hr
    · rw [mem_singleton.1 hr, heq]
  checked := by
    intro r hr
    rcases mem_append.1 hr with hr | hr
    · exact h.checked r hr
    · rw [mem_singleton.1 hr, hchk]
  holds := by
    intro r hr
    rcases mem_append.1 hr with hr | hr
    · exact h.holds r hr
    · rw [mem_singleton.1 hr]
      exact ⟨hvalid, hb, hlt⟩
  addr_lt := by
    intro r hr
    rcases mem_append.1 hr with hr | hr
    · exact h.addr_lt r hr
    · rwa [mem_singleton.1 hr]
  addr_ne := by
    intro r hr t ht hne
    rcases mem_append.1 hr with hr | hr <;> rcases mem_append.1 ht with ht | ht
    · exact h.addr_ne r hr t ht hne
    · rw [mem_singleton.1 ht]
      exact hfresh r hr
    · rw [mem_singleton.1 hr]
      exact (hfresh t ht).symm
    · rw [mem_singleton.1 hr, mem_singleton.1 ht] at hne
      exact absurd rfl hne
  share_iff := by
    intro r hr t ht hne
    rcases mem_append.1 hr with hr | hr <;> rcases mem_append.1 ht with ht | ht
    · exact h.share_iff r hr t ht hne
    · rw [mem_singleton.1 ht, eq_comm, hshare r hr]
      exact ⟨SameBssid.symm, SameBssid.symm⟩
    · rw [mem_singleton.1 hr]
      exact hshare t ht
    · rw [mem_singleton.1 hr, mem_singleton.1 ht] at hne
      exact absurd rfl hne

lemma replace (hn : nodes.Nodup) (hr : r ∈ s.list) {info : RoleInfo}
    (heq : info.macid = r.macid) (hchk : infoChecks hw info = true)
    (hvalid : info.a.valid = true) (hb : info.b.bssidCamIdx = info.a.bssidCamIdx)
    (hlt : info.a.bssidCamIdx < hw.bssidNum) (haddr : info.a.addrCamIdx = r.info.a.addrCamIdx)
    (hshare : ∀ t ∈ s.list, t.node ≠ r.node →
      (info.a.bssidCamIdx = t.info.a.bssidCamIdx ↔ SameBssid info t.info)) :
    (s.setInfo r.node fun _ => info).TableOk hw nodes := by
  have hnd := h.node_nodup hn
  have hmem : ∀ x, x ∈ (s.setInfo r.node fun _ => info).list ↔
      x = { r with info := info } ∨ (x ∈ s.list ∧ x.node ≠ r.node) := fun x =>
    mem_modifyKey hnd hr
  have hnodes : (s.setInfo r.node fun _ => info).list.map Role.node = s.list.map Role.node :=
    map_key_modifyKey fun _ => rfl
  have hmacids : (s.setInfo r.node fun _ => info).list.map Role.macid = s.list.map Role.macid := by
    simp only [setInfo, modifyKey, map_map]
    apply map_congr_left
    intro x _
    by_cases hx : x.node = r.node <;> simp [hx]
  refine ⟨?_, ?_, ?_, ?_, ?_, ?_, ?_, ?_⟩
  · rw [map_append, hnodes, ← map_append]
    exact h.perm
  · rw [hmacids]
    exact h.macid_nodup
  · intro x hx
    rcases (hmem x).1 hx with rfl | ⟨hx, -⟩
    · exact heq
    · exact h.macid_eq x hx
  · intro x hx
    rcases (hmem x).1 hx with rfl | ⟨hx, -⟩
    · exact hchk
    · exact h.checked x hx
  · intro x hx
    rcases (hmem x).1 hx with rfl | ⟨hx, -⟩
    · exact ⟨hvalid, hb, hlt⟩
    · exact h.holds x hx
  · intro x hx
    rcases (hmem x).1 hx with rfl | ⟨hx, -⟩
    · exact haddr ▸ h.addr_lt r hr
    · exact h.addr_lt x hx
  · intro x hx t ht hne
    rcases (hmem x).1 hx with rfl | ⟨hx, hxr⟩ <;> rcases (hmem t).1 ht with rfl | ⟨ht, htr⟩
    · exact absurd rfl hne
    · exact haddr ▸ h.addr_ne r hr t ht (Ne.symm htr)
    · exact haddr ▸ h.addr_ne x hx r hr hxr
    · exact h.addr_ne x hx t ht hne
  · intro x hx t ht hne
    rcases (hmem x).1 hx with rfl | ⟨hx, hxr⟩ <;> rcases (hmem t).1 ht with rfl | ⟨ht, htr⟩
    · exact absurd rfl hne
    · exact hshare t ht htr
    · change x.info.a.bssidCamIdx = info.a.bssidCamIdx ↔ SameBssid x.info info
      rw [eq_comm, hshare x hx hxr]
      exact ⟨SameBssid.symm, SameBssid.symm⟩
    · exact h.share_iff x hx t ht hne

lemma erase (hn : nodes.Nodup) (hr : r ∈ s.list)
    (hrole : role.node = r.node) {s' : Adapter}
    (hlist : s'.list = eraseKey Role.node r.node s.list) (hpool : s'.pool = s.pool ++ [role]) :
    s'.TableOk hw nodes := by
  have hmem : ∀ x ∈ s'.list, x ∈ s.list := by
    intro x hx
    rw [hlist] at hx
    exact (mem_eraseKey.1 hx).1
  refine ⟨?_, ?_, fun x hx => h.macid_eq x (hmem x hx), fun x hx => h.checked x (hmem x hx),
    fun x hx => h.holds x (hmem x hx), fun x hx => h.addr_lt x (hmem x hx),
    fun x hx t ht => h.addr_ne x (hmem x hx) t (hmem t ht),
    fun x hx t ht => h.share_iff x (hmem x hx) t (hmem t ht)⟩
  · have hall := h.perm
    rw [map_append] at hall
    have hperm := ((perm_eraseKey (h.node_nodup hn) hr).map Role.node).append_right
      (s.pool.map Role.node)
    refine List.Perm.trans ?_ (hperm.trans hall)
    rw [hlist, hpool, map_append, map_append, map_singleton, hrole,
      ← append_assoc]
    exact perm_append_singleton _ _
  · rw [hlist]
    exact h.macid_nodup.sublist (filter_sublist.map _)

end

end TableOk
end Adapter
end Rtl8831.Mac
