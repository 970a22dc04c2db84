import Rtl8831.Mac.SecurityCam

/-!
# Key references over whole runs

`KeysOk` ties the valid slots of the roles to the valid entries of the
security CAM.  Every operation rewrites one role and the entries it owns, so
one lemma about that carries all of them.
-/

namespace Rtl8831.Mac

open Lib Function

variable {hw : HwInfo} {out : Out} {s s' : Adapter} {info : RoleInfo} {role : Role}

namespace Adapter

/-- Slot `k` of the role refers to an entry of its own. -/
structure SlotOk (hw : HwInfo) (cam : ℕ → SecCamEntry) (macid : ℕ) (info : RoleInfo)
    (k : Fin 7) : Prop where
  lt : (info.a.secEnt k).ent < hw.secCamNum
  valid : (cam (info.a.secEnt k).ent).valid = true
  macid_eq : (cam (info.a.secEnt k).ent).macid = macid
  keyId_eq : (cam (info.a.secEnt k).ent).keyId = (info.a.secEnt k).keyid
  keyType_ok : checkKeyIndex info.a.secEntMode (cam (info.a.secEnt k).ent).keyType k.val = true

structure KeysOk (hw : HwInfo) (s : Adapter) : Prop where
  node_nodup : ((s.list ++ s.pool).map Role.node).Nodup
  macid_nodup : (s.list.map Role.macid).Nodup
  macid_eq : ∀ r ∈ s.list, r.info.macid = r.macid
  slot_ok : ∀ r ∈ s.list, ∀ k, (r.info.a.secEnt k).valid = true →
    SlotOk hw s.secCam r.macid r.info k
  slot_inj : ∀ r ∈ s.list, ∀ t ∈ s.list, ∀ k l, (r.info.a.secEnt k).valid = true →
    (t.info.a.secEnt l).valid = true → (r.info.a.secEnt k).ent = (t.info.a.secEnt l).ent →
    r = t ∧ k = l
  entry_ref : ∀ i, (s.secCam i).valid = true → ∃ r ∈ s.list, ∃ k,
    (r.info.a.secEnt k).valid = true ∧ (r.info.a.secEnt k).ent = i
  freed : ∀ i, (s.secCam i).valid = false → ∀ w, (s.secCam i).key w = 0

/-- The role refers to entry `i`. -/
def Refers (info : RoleInfo) (i : ℕ) : Prop :=
  ∃ k, (info.a.secEnt k).valid = true ∧ (info.a.secEnt k).ent = i

instance (info : RoleInfo) (i : ℕ) : Decidable (Refers info i) :=
  inferInstanceAs (Decidable (∃ _, _))

def NoKeys (info : RoleInfo) : Prop := ∀ k, (info.a.secEnt k).valid = false

instance (info : RoleInfo) : Decidable (NoKeys info) := inferInstanceAs (Decidable (∀ _, _))

def ModeFits (cam : ℕ → SecCamEntry) (info : RoleInfo) (mode : ℕ) : Prop :=
  ∀ k, (info.a.secEnt k).valid = true →
    checkKeyIndex mode (cam (info.a.secEnt k).ent).keyType k.val = true

instance (cam : ℕ → SecCamEntry) (info : RoleInfo) (mode : ℕ) :
    Decidable (ModeFits cam info mode) := inferInstanceAs (Decidable (∀ _, _ = true → _))

namespace KeysOk

section

variable (h : s.KeysOk hw)
include h

lemma list_nodup : (s.list.map Role.node).Nodup := by
  have hall := h.node_nodup
  rw [List.map_append] at hall
  exact hall.of_append_left

lemma refers_inj {r t : Role} (hr : r ∈ s.list) (ht : t ∈ s.list) {i : ℕ}
    (hri : Refers r.info i) (hti : Refers t.info i) : r = t := by
  obtain ⟨k, hk, rfl⟩ := hri
  obtain ⟨l, hl, hent⟩ := hti
  exact (h.slot_inj r hr t ht k l hk hl hent.symm).1

lemma refers_valid {r : Role} (hr : r ∈ s.list) {i : ℕ}
    (hri : Refers r.info i) : (s.secCam i).valid = true := by
  obtain ⟨k, hk, rfl⟩ := hri
  exact (h.slot_ok r hr k hk).valid

lemma replace (hr : role ∈ s.list)
    (hlist : s'.list = (s.setInfo role.node fun _ => info).list) (hpool : s'.pool = s.pool)
    (hmacid : info.macid = role.macid)
    (hother : ∀ i, ¬Refers role.info i → ¬Refers info i → s'.secCam i = s.secCam i)
    (hown : ∀ k, (info.a.secEnt k).valid = true → SlotOk hw s'.secCam role.macid info k)
    (hinj : ∀ k l, (info.a.secEnt k).valid = true → (info.a.secEnt l).valid = true →
      (info.a.secEnt k).ent = (info.a.secEnt l).ent → k = l)
    (hfresh : ∀ i, Refers info i → Refers role.info i ∨ (s.secCam i).valid = false)
    (hleft : ∀ i, (s'.secCam i).valid = true → Refers role.info i → Refers info i)
    (hfreed : ∀ i, (s'.secCam i).valid = false → ∀ w, (s'.secCam i).key w = 0) :
    s'.KeysOk hw := by
  have hnd := h.list_nodup
  have hmem : ∀ x, x ∈ s'.list ↔ x = { role with info := info } ∨ (x ∈ s.list ∧ x.node ≠ role.node) := by
    intro x
    rw [hlist]
    exact mem_modifyKey hnd hr
  have hnodes : s'.list.map Role.node = s.list.map Role.node := by
    rw [hlist]
    exact map_key_modifyKey fun _ => rfl
  have hmacids : s'.list.map Role.macid = s.list.map Role.macid := by
    rw [hlist]
    simp only [setInfo, modifyKey, List.map_map]
    apply List.map_congr_left
    intro x _
    by_cases hx : x.node = role.node <;> simp [hx]
  -- the entries of the other roles are not touched
  have hapart : ∀ x ∈ s.list, x.node ≠ role.node → ∀ i, Refers x.info i →
      ¬Refers role.info i ∧ ¬Refers info i := by
    intro x hx hne i hi
    have hnot : ¬Refers role.info i := fun hri => hne (by rw [h.refers_inj hx hr hi hri])
    refine ⟨hnot, fun hnew => ?_⟩
    rcases hfresh i hnew with hold | hfree
    · exact hnot hold
    · rw [h.refers_valid hx hi] at hfree
      cases hfree
  constructor
  · rw [List.map_append, hnodes, hpool, ← List.map_append]
    exact h.node_nodup
  · rw [hmacids]
    exact h.macid_nodup
  · intro x hx
    rcases (hmem x).1 hx with rfl | ⟨hx, -⟩
    · exact hmacid
    · exact h.macid_eq x hx
  · intro x hx k hk
    rcases (hmem x).1 hx with rfl | ⟨hx, hne⟩
    · exact hown k hk
    · obtain ⟨hnot, hnot'⟩ := hapart x hx hne _ ⟨k, hk, rfl⟩
      have hold := h.slot_ok x hx k hk
      have hsame := hother _ hnot hnot'
      exact ⟨hold.lt, hsame ▸ hold.valid, hsame ▸ hold.macid_eq, hsame ▸ hold.keyId_eq,
        hsame ▸ hold.keyType_ok⟩
  · intro x hx y hy k l hk hl hent
    rcases (hmem x).1 hx with rfl | ⟨hx, hxne⟩ <;> rcases (hmem y).1 hy with rfl | ⟨hy, hyne⟩
    · exact ⟨rfl, hinj k l hk hl hent⟩
    · exact absurd ⟨k, hk, hent⟩ (hapart y hy hyne _ ⟨l, hl, rfl⟩).2
    · exact absurd ⟨l, hl, hent.symm⟩ (hapart x hx hxne _ ⟨k, hk, rfl⟩).2
    · exact h.slot_inj x hx y hy k l hk hl hent
  · intro i hi
    by_cases hnew : Refers info i
    · obtain ⟨k, hk⟩ := hnew
      exact ⟨_, (hmem _).2 (.inl rfl), k, hk⟩
    · have hold : ¬Refers role.info i := fun hold => hnew (hleft i hi hold)
      rw [hother i hold hnew] at hi
      obtain ⟨x, hx, k, hk⟩ := h.entry_ref i hi
      refine ⟨x, (hmem x).2 (.inr ⟨hx, ?_⟩), k, hk⟩
      intro hne
      have hxr : x = role := eq_of_key_eq hnd hx hr hne
      exact hold (hxr ▸ ⟨k, hk⟩)
  · exact hfreed

lemma setMode (hr : role ∈ s.list)
    (hlist : s'.list = (s.setInfo role.node fun _ => info).list) (hpool : s'.pool = s.pool)
    (hsec : s'.secCam = s.secCam) (hmacid : info.macid = role.macid)
    (hslots : info.a.secEnt = role.info.a.secEnt)
    (hfits : ModeFits s.secCam role.info info.a.secEntMode) : s'.KeysOk hw := by
  have hrefers : ∀ i, Refers info i ↔ Refers role.info i := by
    intro i
    rw [Refers, Refers, hslots]
  apply h.replace hr hlist hpool hmacid
  · exact fun i _ _ => by rw [hsec]
  · intro k hk
    rw [hslots] at hk
    have hold := h.slot_ok role hr k hk
    rw [hsec]
    exact ⟨by rw [hslots]; exact hold.lt, by rw [hslots]; exact hold.valid,
      by rw [hslots]; exact hold.macid_eq, by rw [hslots]; exact hold.keyId_eq,
      by rw [hslots]; exact hfits k hk⟩
  · intro k l hk hl hent
    rw [hslots] at hk hl hent
    exact (h.slot_inj role hr role hr k l hk hl hent).2
  · exact fun i hi => .inl ((hrefers i).1 hi)
  · exact fun i _ hi => (hrefers i).2 hi
  · rw [hsec]
    exact h.freed

end

lemma clear_key {e : SecCamEntry} (h : e.key 3 = 0) (w : Fin 4) : e.clear.key w = 0 := by
  by_cases hw : w.val < 3
  · simp [SecCamEntry.clear, hw]
  · have hw' : w = 3 := Fin.ext (by omega)
    subst hw'
    simpa [SecCamEntry.clear] using h

section

variable (h : s.KeysOk hw) (hr : role ∈ s.list)
include h hr

lemma flushed
    (hlist : s'.list = (s.setInfo role.node fun _ => info).list) (hpool : s'.pool = s.pool)
    (hsec : s'.secCam = (s.disconnectFlushKey hw role.info).secCam)
    (hmacid : info.macid = role.macid) (hslots : ∀ k, (info.a.secEnt k).valid = false)
    (hlast : ∀ k, (role.info.a.secEnt k).valid = true →
      (s.secCam (role.info.a.secEnt k).ent).key 3 = 0) : s'.KeysOk hw := by
  have hnone : ∀ i, ¬Refers info i := by
    rintro i ⟨k, hk, -⟩
    rw [hslots k] at hk
    cases hk
  have hcam : ∀ i, s'.secCam i = if Refers role.info i then (s.secCam i).clear else s.secCam i := by
    intro i
    rw [hsec]
    simp only [disconnectFlushKey]
    by_cases hi : Refers role.info i
    · have hlt : i < hw.secCamNum := by
        obtain ⟨k, hk, rfl⟩ := hi
        exact (h.slot_ok role hr k hk).lt
      rw [if_pos ⟨hlt, hi⟩, if_pos hi]
    · rw [if_neg fun hand => hi hand.2, if_neg hi]
  apply h.replace hr hlist hpool hmacid
  · intro i hold _
    rw [hcam, if_neg hold]
  · intro k hk
    rw [hslots k] at hk
    cases hk
  · intro k l hk
    rw [hslots k] at hk
    cases hk
  · exact fun i hi => absurd hi (hnone i)
  · intro i hi hold
    rw [hcam, if_pos hold] at hi
    cases hi
  · intro i hi w
    rw [hcam] at hi ⊢
    by_cases hold : Refers role.info i
    · rw [if_pos hold]
      obtain ⟨k, hk, rfl⟩ := hold
      exact clear_key (hlast k hk) w
    · rw [if_neg hold] at hi ⊢
      exact h.freed i hi w

lemma addSlot {k : Fin 7} {i idx keyId : ℕ}
    {e : SecCamEntry} (hslot : (role.info.a.secEnt k).valid = false) (hi : i < hw.secCamNum)
    (hfree : (s.secCam i).valid = false)
    (hlist : s'.list = (s.setInfo role.node fun _ =>
      setBssidIdx (setSecEnt role.info k { valid := true, keyid := keyId, ent := i }) idx).list)
    (hpool : s'.pool = s.pool) (hsec : s'.secCam = update s.secCam i e)
    (hvalid : e.valid = true) (hmacid : e.macid = role.macid) (hkey : e.keyId = keyId)
    (hchk : checkKeyIndex role.info.a.secEntMode e.keyType k.val = true) : s'.KeysOk hw := by
  set new := setBssidIdx (setSecEnt role.info k { valid := true, keyid := keyId, ent := i }) idx
    with hnew
  have hat : new.a.secEnt k = { valid := true, keyid := keyId, ent := i } := by
    simp [hnew, setBssidIdx, setSecEnt]
  have helse : ∀ l, l ≠ k → new.a.secEnt l = role.info.a.secEnt l := by
    intro l hl
    simp [hnew, setBssidIdx, setSecEnt, hl]
  have hapart : ∀ l, (role.info.a.secEnt l).valid = true → (role.info.a.secEnt l).ent ≠ i := by
    rintro l hl rfl
    rw [(h.slot_ok role hr l hl).valid] at hfree
    cases hfree
  have hmode : new.a.secEntMode = role.info.a.secEntMode := rfl
  apply h.replace hr hlist hpool
  · exact h.macid_eq role hr
  · intro j _ hj
    have hne : j ≠ i := by
      rintro rfl
      exact hj ⟨k, by rw [hat], by rw [hat]⟩
    rw [hsec, update_of_ne hne]
  · intro l hl
    by_cases hlk : l = k
    · subst hlk
      constructor <;> rw [hat]
      · exact hi
      · rw [hsec, update_self, hvalid]
      · rw [hsec, update_self, hmacid]
      · rw [hsec, update_self, hkey]
      · rw [hsec, update_self, hmode]
        exact hchk
    · rw [helse l hlk] at hl
      have hold := h.slot_ok role hr l hl
      have hsame : s'.secCam (role.info.a.secEnt l).ent = s.secCam (role.info.a.secEnt l).ent := by
        rw [hsec, update_of_ne (hapart l hl)]
      constructor <;> rw [helse l hlk]
      · exact hold.lt
      · rw [hsame]
        exact hold.valid
      · rw [hsame]
        exact hold.macid_eq
      · rw [hsame]
        exact hold.keyId_eq
      · rw [hsame, hmode]
        exact hold.keyType_ok
  · intro l m hl hm hent
    by_cases hlk : l = k <;> by_cases hmk : m = k
    · rw [hlk, hmk]
    · rw [helse m hmk] at hm hent
      rw [hlk, hat] at hent
      exact absurd hent.symm (hapart m hm)
    · rw [helse l hlk] at hl hent
      rw [hmk, hat] at hent
      exact absurd hent (hapart l hl)
    · rw [helse l hlk] at hl hent
      rw [helse m hmk] at hm hent
      exact (h.slot_inj role hr role hr l m hl hm hent).2
  · rintro j ⟨l, hl, rfl⟩
    by_cases hlk : l = k
    · rw [hlk, hat]
      exact .inr hfree
    · rw [helse l hlk] at hl ⊢
      exact .inl ⟨l, hl, rfl⟩
  · rintro j _ ⟨l, hl, rfl⟩
    have hlk : l ≠ k := by
      rintro rfl
      rw [hslot] at hl
      cases hl
    exact ⟨l, by rw [helse l hlk]; exact hl, by rw [helse l hlk]⟩
  · intro j hj w
    by_cases hji : j = i
    · rw [hsec, hji, update_self, hvalid] at hj
      cases hj
    · rw [hsec, update_of_ne hji] at hj ⊢
      exact h.freed j hj w

lemma dropSlot {k : Fin 7} {idx : ℕ}
    (hslot : (role.info.a.secEnt k).valid = true)
    (hlist : s'.list = (s.setInfo role.node fun _ =>
      setBssidIdx (setSecEnt role.info k {}) idx).list)
    (hpool : s'.pool = s.pool)
    (hsec : s'.secCam = update s.secCam (role.info.a.secEnt k).ent
      (s.secCam (role.info.a.secEnt k).ent).clear)
    (hlast : (s.secCam (role.info.a.secEnt k).ent).key 3 = 0) : s'.KeysOk hw := by
  set new := setBssidIdx (setSecEnt role.info k {}) idx with hnew
  have hat : (new.a.secEnt k).valid = false := by simp [hnew, setBssidIdx, setSecEnt]
  have helse : ∀ l, l ≠ k → new.a.secEnt l = role.info.a.secEnt l := by
    intro l hl
    simp [hnew, setBssidIdx, setSecEnt, hl]
  have hvalid : ∀ l, (new.a.secEnt l).valid = true → l ≠ k := by
    rintro l hl rfl
    rw [hat] at hl
    cases hl
  have hapart : ∀ l, l ≠ k → (role.info.a.secEnt l).valid = true →
      (role.info.a.secEnt l).ent ≠ (role.info.a.secEnt k).ent := fun l hlk hl hent =>
    hlk (h.slot_inj role hr role hr l k hl hslot hent).2
  have hmode : new.a.secEntMode = role.info.a.secEntMode := rfl
  apply h.replace hr hlist hpool
  · exact h.macid_eq role hr
  · intro j hj _
    have hne : j ≠ (role.info.a.secEnt k).ent := by
      rintro rfl
      exact hj ⟨k, hslot, rfl⟩
    rw [hsec, update_of_ne hne]
  · intro l hl
    have hlk := hvalid l hl
    rw [helse l hlk] at hl
    have hold := h.slot_ok role hr l hl
    have hsame : s'.secCam (role.info.a.secEnt l).ent = s.secCam (role.info.a.secEnt l).ent := by
      rw [hsec, update_of_ne (hapart l hlk hl)]
    constructor <;> rw [helse l hlk]
    · exact hold.lt
    · rw [hsame]
      exact hold.valid
    · rw [hsame]
      exact hold.macid_eq
    · rw [hsame]
      exact hold.keyId_eq
    · rw [hsame, hmode]
      exact hold.keyType_ok
  · intro l m hl hm hent
    have hlk := hvalid l hl
    have hmk := hvalid m hm
    rw [helse l hlk] at hl hent
    rw [helse m hmk] at hm hent
    exact (h.slot_inj role hr role hr l m hl hm hent).2
  · rintro j ⟨l, hl, rfl⟩
    have hlk := hvalid l hl
    rw [helse l hlk] at hl ⊢
    exact .inl ⟨l, hl, rfl⟩
  · rintro j hj ⟨l, hl, rfl⟩
    by_cases hlk : l = k
    · rw [hlk, hsec, update_self] at hj
      cases hj
    · exact ⟨l, by rw [helse l hlk]; exact hl, by rw [helse l hlk]⟩
  · intro j hj w
    by_cases hjk : j = (role.info.a.secEnt k).ent
    · rw [hsec, hjk, update_self]
      exact clear_key hlast w
    · rw [hsec, update_of_ne hjk] at hj ⊢
      exact h.freed j hj w

end

end KeysOk
end Adapter
end Rtl8831.Mac
