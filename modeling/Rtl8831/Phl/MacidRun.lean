import Rtl8831.Lib.Run
import Rtl8831.Phl.Macid

/-!
# Consistency of the macids

Which id an allocation picks is described once for all strategies; from it every
allocation keeps the maps, the groups and the tables consistent, and so does the
release of a macid that is not the broadcast id of its role and link.
-/

namespace Rtl8831.Phl

open Function Finset List

namespace Macid

/-- No id behind `max_num` can be computed: on a device with several links the
groups end there, but for the id that stands for a failure. -/
def DevCap.Fit (c : DevCap) : Prop :=
  c.maxLinkNum = rtwOneLink ∨
    c.maxMldNum ≤ c.maxNum ∧
      (c.maxMldNum * c.maxLinkNum ≤ c.maxNum + 1 ∨ c.maxMldNum = 1)

def Reserved (c : DevCap) (id : ℕ) : Prop := id < c.maxMldNum * max 1 c.maxLinkNum

def Marked (mc : MacidCtl) (o : Option ℕ) (g : ℕ) : Prop :=
  if o = none then g ∈ mc.usedLegacyMap ∧ g ∉ mc.usedMldMap
  else g ∈ mc.usedMldMap ∧ g ∉ mc.usedLegacyMap

structure Grouped (c : DevCap) (s : State) : Prop where
  marked : ∀ i ∈ s.live, Reserved c (s.stas i).macid →
    Marked s.ctl (s.stas i).mld ((s.stas i).macid % c.maxMldNum)
  reserved : ∀ i ∈ s.live, (s.stas i).mld ≠ none ∨ c.maxLinkNum = 0 →
    Reserved c (s.stas i).macid
  owned : ∀ i ∈ s.live, ∀ j ∈ s.live, Reserved c (s.stas i).macid →
    Reserved c (s.stas j).macid →
    (s.stas i).macid % c.maxMldNum = (s.stas j).macid % c.maxMldNum →
    (s.stas i).mld = (s.stas j).mld
  holder : ∀ g, g ∈ s.ctl.usedMldMap ∨ g ∈ s.ctl.usedLegacyMap →
    ∃ i ∈ s.live, Reserved c (s.stas i).macid ∧ (s.stas i).macid % c.maxMldNum = g

structure Core (c : DevCap) (s : State) : Prop where
  below : ∀ i ∈ s.live, (s.stas i).macid < c.maxNum
  held : ∀ i ∈ s.live, s.ctl.sta (s.stas i).macid = some i
  holds : ∀ u i, s.ctl.sta u = some i → i ∈ s.live ∧ (s.stas i).macid = u
  used : ∀ u, u ∈ s.ctl.usedMap ↔ ∃ i ∈ s.live, (s.stas i).macid = u
  roles : ∀ r u, u ∈ s.ctl.wifiRoleUsedmap r ↔
    ∃ i ∈ s.live, (s.stas i).macid = u ∧ (s.stas i).wrole = r
  bmc : ∀ u, u ∈ s.ctl.bmcMap ↔ ∃ i ∈ s.live, (s.stas i).macid = u ∧ (s.stas i).bmc = true
  unmarked : c.maxLinkNum = rtwOneLink → s.ctl.usedMldMap = ∅ ∧ s.ctl.usedLegacyMap = ∅
  grouped : c.maxLinkNum ≠ rtwOneLink → Grouped c s

structure Inv (c : DevCap) (s : State) : Prop extends Core c s where
  wroleBmc : ∀ r l, s.ctl.wroleBmc r l = c.maxNum ∨
    ∃ i ∈ s.live, (s.stas i).macid = s.ctl.wroleBmc r l ∧ (s.stas i).wrole = r ∧
      (s.stas i).rlink = l ∧ (s.stas i).bmc = true

section

variable {c : DevCap} {s : State} {i j : ℕ}

lemma Core.init (c : DevCap) : Core c (init c) where
  below _ h := absurd h (notMem_empty _)
  held _ h := absurd h (notMem_empty _)
  holds _ _ h := nomatch h
  used u := iff_of_false (notMem_empty u) fun ⟨_, h, _⟩ => absurd h (notMem_empty _)
  roles _ u := iff_of_false (notMem_empty u) fun ⟨_, h, _⟩ => absurd h (notMem_empty _)
  bmc u := iff_of_false (notMem_empty u) fun ⟨_, h, _⟩ => absurd h (notMem_empty _)
  unmarked _ := ⟨rfl, rfl⟩
  grouped _ :=
    { marked := fun _ h => absurd h (notMem_empty _)
      reserved := fun _ h => absurd h (notMem_empty _)
      owned := fun _ h => absurd h (notMem_empty _)
      holder := fun _ h => h.elim (fun h => absurd h (notMem_empty _))
        fun h => absurd h (notMem_empty _) }

lemma Core.unique (h : Core c s) (hi : i ∈ s.live) (hj : j ∈ s.live)
    (hij : (s.stas i).macid = (s.stas j).macid) : i = j := by
  have hheld := h.held i hi
  rw [hij, h.held j hj] at hheld
  exact (Option.some.inj hheld).symm

lemma Core.used_lt (h : Core c s) {u : ℕ} (hu : u ∈ s.ctl.usedMap) : u < c.maxNum := by
  obtain ⟨i, hi, rfl⟩ := (h.used u).1 hu
  exact h.below i hi

variable {o : Option ℕ} {g : ℕ} {mc : MacidCtl} {ids : List ℕ}

lemma firstUnused_some {id : ℕ}
    (h : firstUnused mc ids = some id) : id ∈ ids ∧ id ∉ mc.usedMap :=
  ⟨mem_of_find?_eq_some h, by simpa using find?_some h⟩

lemma groupIds_eq (hc : c.maxMldNum * c.maxLinkNum ≤ c.maxNum + 1 ∨ c.maxMldNum = 1)
    (hg : g < c.maxMldNum) :
    groupIds c g = (List.range c.maxLinkNum).map fun l => g + c.maxMldNum * l := by
  unfold groupIds
  apply map_congr_left
  intro l hl
  have hl := List.mem_range.1 hl
  apply Nat.mod_eq_of_lt
  have hnum : c.maxNum ≤ 256 := c.maxNum_le
  have hlink := c.maxLinkNum_lt
  rcases hc with hc | hc
  · have hrow : c.maxMldNum * l + c.maxMldNum ≤ c.maxMldNum * c.maxLinkNum := by
      rw [← Nat.mul_succ]
      exact Nat.mul_le_mul_left _ hl
    omega
  · rw [hc] at hg ⊢
    omega

lemma reserved_of_mem {g id : ℕ}
    (hc : c.maxMldNum * c.maxLinkNum ≤ c.maxNum + 1 ∨ c.maxMldNum = 1) (hg : g < c.maxMldNum)
    (hid : id ∈ groupIds c g) : Reserved c id ∧ id % c.maxMldNum = g := by
  rw [groupIds_eq hc hg] at hid
  obtain ⟨l, hl, rfl⟩ := List.mem_map.1 hid
  have hrow : c.maxMldNum * l + c.maxMldNum ≤ c.maxMldNum * c.maxLinkNum := by
    rw [← Nat.mul_succ]
    exact Nat.mul_le_mul_left _ (List.mem_range.1 hl)
  have hmax : c.maxMldNum * c.maxLinkNum ≤ c.maxMldNum * max 1 c.maxLinkNum :=
    Nat.mul_le_mul_left _ (Nat.le_max_right 1 _)
  refine ⟨?_, by rw [Nat.add_mul_mod_self_left, Nat.mod_eq_of_lt hg]⟩
  unfold Reserved
  omega

lemma Core.group_pick (h : Core c s) {g id : ℕ}
    (hc : c.maxMldNum * c.maxLinkNum ≤ c.maxNum + 1 ∨ c.maxMldNum = 1) (hg : g < c.maxMldNum)
    (hpick : firstUnused s.ctl (groupIds c g) = some id) :
    id ∉ s.ctl.usedMap ∧ (id ≠ c.maxNum → id < c.maxNum) ∧ Reserved c id ∧ id % c.maxMldNum = g := by
  obtain ⟨hmem, hfree⟩ := firstUnused_some hpick
  refine ⟨hfree, fun hne => ?_, reserved_of_mem hc hg hmem⟩
  rw [groupIds_eq hc hg] at hpick
  unfold firstUnused at hpick
  rw [find?_map] at hpick
  obtain ⟨l, hl, rfl⟩ := Option.map_eq_some_iff.1 hpick
  obtain ⟨-, hlink, hbefore⟩ := find?_range_eq_some.1 hl
  have hlink := List.mem_range.1 hlink
  have hrow : c.maxMldNum * l + c.maxMldNum ≤ c.maxMldNum * c.maxLinkNum := by
    rw [← Nat.mul_succ]
    exact Nat.mul_le_mul_left _ hlink
  rcases hc with hc | hc
  · omega
  · -- with a single group every id up to this one is used
    by_contra hlarge
    rw [hc] at hg hne hlarge
    have hused : c.maxNum ∈ s.ctl.usedMap := by
      have := hbefore c.maxNum (by omega)
      rw [hc] at this
      simpa [Nat.lt_one_iff.1 hg] using this
    exact absurd (h.used_lt hused) (Nat.lt_irrefl _)

lemma Grouped.no_holder (h : Grouped c s) {g : ℕ} (hmld : g ∉ s.ctl.usedMldMap)
    (hleg : g ∉ s.ctl.usedLegacyMap) :
    ∀ i ∈ s.live, Reserved c (s.stas i).macid → (s.stas i).macid % c.maxMldNum ≠ g := by
  rintro i hi hres rfl
  have hmark := h.marked i hi hres
  unfold Marked at hmark
  split_ifs at hmark
  · exact hleg hmark.1
  · exact hmld hmark.1

lemma reserved_of_lt (hg : g < c.maxMldNum) : Reserved c g := by
  have hmax : c.maxMldNum * 1 ≤ c.maxMldNum * max 1 c.maxLinkNum :=
    Nat.mul_le_mul_left _ (Nat.le_max_left 1 _)
  unfold Reserved
  omega

/-- What every strategy does: `r` is the control block it leaves and the id. -/
structure Picked (c : DevCap) (s : State) (o : Option ℕ) (r : MacidCtl × ℕ) : Prop where
  frame : r.1 = { s.ctl with
    usedMldMap := r.1.usedMldMap, usedLegacyMap := r.1.usedLegacyMap }
  failed : r.2 = c.maxNum → r.1 = s.ctl
  fresh : r.2 ≠ c.maxNum → r.2 ∉ s.ctl.usedMap ∧ r.2 < c.maxNum
  onlyNew : ∀ g, g ∈ r.1.usedMldMap ∨ g ∈ r.1.usedLegacyMap →
    (g ∈ s.ctl.usedMldMap ∨ g ∈ s.ctl.usedLegacyMap) ∨
      c.maxLinkNum ≠ rtwOneLink ∧ g = r.2 % c.maxMldNum ∧ Reserved c r.2
  marks : ∀ g, g ∈ s.ctl.usedMldMap ∨ g ∈ s.ctl.usedLegacyMap →
    (g ∈ r.1.usedMldMap ↔ g ∈ s.ctl.usedMldMap) ∧
      (g ∈ r.1.usedLegacyMap ↔ g ∈ s.ctl.usedLegacyMap)
  grouped : r.2 ≠ c.maxNum → c.maxLinkNum ≠ rtwOneLink → Reserved c r.2 →
    Marked r.1 o (r.2 % c.maxMldNum) ∧
      ∀ i ∈ s.live, Reserved c (s.stas i).macid →
        (s.stas i).macid % c.maxMldNum = r.2 % c.maxMldNum → (s.stas i).mld = o
  reserved : r.2 ≠ c.maxNum → c.maxLinkNum ≠ rtwOneLink → o ≠ none ∨ c.maxLinkNum = 0 →
    Reserved c r.2

lemma Picked.fail (c : DevCap) (s : State) (o : Option ℕ) : Picked c s o (s.ctl, c.maxNum) where
  frame := rfl
  failed _ := rfl
  fresh h := absurd rfl h
  onlyNew _ h := .inl h
  marks _ _ := ⟨.rfl, .rfl⟩
  grouped h := absurd rfl h
  reserved h := absurd rfl h

lemma Picked.oneLink (hlink : c.maxLinkNum = rtwOneLink) {id : ℕ}
    (hfresh : id ∉ s.ctl.usedMap) (hlt : id ≠ c.maxNum → id < c.maxNum) :
    Picked c s o (s.ctl, id) where
  frame := rfl
  failed _ := rfl
  fresh h := ⟨hfresh, hlt h⟩
  onlyNew _ h := .inl h
  marks _ _ := ⟨.rfl, .rfl⟩
  grouped _ h := absurd hlink h
  reserved _ h := absurd hlink h

lemma Picked.ofGroup {g id : ℕ} (h : Core c s)
    (hc : c.maxMldNum * c.maxLinkNum ≤ c.maxNum + 1 ∨ c.maxMldNum = 1) (hg : g < c.maxMldNum)
    (hpick : firstUnused s.ctl (groupIds c g) = some id) (hmark : Marked s.ctl o g)
    (hown : ∀ i ∈ s.live, Reserved c (s.stas i).macid →
      (s.stas i).macid % c.maxMldNum = g → (s.stas i).mld = o) :
    Picked c s o (s.ctl, id) := by
  obtain ⟨hfree, hlt, hres, hmod⟩ := h.group_pick hc hg hpick
  exact
    { frame := rfl
      failed := fun _ => rfl
      fresh := fun hne => ⟨hfree, hlt hne⟩
      onlyNew := fun _ h => .inl h
      marks := fun _ _ => ⟨.rfl, .rfl⟩
      grouped := by
        intro _ _ _
        dsimp only
        rw [hmod]
        exact ⟨hmark, hown⟩
      reserved := fun _ _ _ => hres }

lemma Picked.newGroup (h : Core c s)
    (hlink : c.maxLinkNum ≠ rtwOneLink) (hnum : c.maxMldNum ≤ c.maxNum) (hg : g < c.maxMldNum)
    (hmld : g ∉ s.ctl.usedMldMap) (hleg : g ∉ s.ctl.usedLegacyMap)
    (hmc : mc = if o = none then { s.ctl with usedLegacyMap := insert g s.ctl.usedLegacyMap }
      else { s.ctl with usedMldMap := insert g s.ctl.usedMldMap }) :
    Picked c s o (mc, g) := by
  have hmod : g % c.maxMldNum = g := Nat.mod_eq_of_lt hg
  have hnone := (h.grouped hlink).no_holder hmld hleg
  have hfresh : g ∉ s.ctl.usedMap := by
    intro hu
    obtain ⟨i, hi, heq⟩ := (h.used g).1 hu
    apply hnone i hi
    · rw [heq]
      exact reserved_of_lt hg
    · rw [heq, hmod]
  refine
    { frame := ?_
      failed := fun h => absurd h (hg.trans_le hnum).ne
      fresh := fun _ => ⟨hfresh, hg.trans_le hnum⟩
      onlyNew := fun g' hg' => ?_
      marks := fun g' hg' => ?_
      grouped := fun _ _ _ => ⟨?_, fun i hi hres heq => absurd (heq.trans hmod) (hnone i hi hres)⟩
      reserved := fun _ _ _ => reserved_of_lt hg }
  · rw [hmc]
    split_ifs <;> rfl
  · dsimp only at hg' ⊢
    rw [hmod]
    by_cases heq : g' = g
    · exact .inr ⟨hlink, heq, reserved_of_lt hg⟩
    · left
      rw [hmc] at hg'
      split_ifs at hg'
      · exact hg'.imp_right fun h => mem_of_mem_insert_of_ne h heq
      · exact hg'.imp_left fun h => mem_of_mem_insert_of_ne h heq
  · have hne : g' ≠ g := by
      rintro rfl
      exact hg'.elim hmld hleg
    rw [hmc]
    split_ifs
    · exact ⟨.rfl, mem_insert.trans (or_iff_right hne)⟩
    · exact ⟨mem_insert.trans (or_iff_right hne), .rfl⟩
  · dsimp only
    unfold Marked
    rw [hmc, hmod]
    split_ifs
    · exact ⟨Finset.mem_insert_self g _, hmld⟩
    · exact ⟨Finset.mem_insert_self g _, hleg⟩

lemma getD_pick {o : Option ℕ} {mc : MacidCtl}
    (hnone : Picked c s o (s.ctl, c.maxNum))
    (hsome : ∀ id, firstUnused mc ids = some id → Picked c s o (s.ctl, id)) :
    Picked c s o (s.ctl, (firstUnused mc ids).getD c.maxNum) := by
  cases hfirst : firstUnused mc ids with
  | none => exact hnone
  | some id => exact hsome id hfirst

lemma picked_range (hlink : c.maxLinkNum = rtwOneLink) (o : Option ℕ) :
    Picked c s o (s.ctl, (firstUnused s.ctl (List.range c.maxNum)).getD c.maxNum) := by
  apply getD_pick (.fail c s o)
  intro id hid
  obtain ⟨hmem, hfree⟩ := firstUnused_some hid
  exact .oneLink hlink hfree fun _ => List.mem_range.1 hmem

lemma picked_mldMain (h : Core c s) (hc : c.Fit) (m : ℕ) :
    Picked c s (some m) (allocMldMacid c s.ctl c.maxNum) := by
  unfold allocMldMacid
  rw [if_pos rfl]
  split_ifs with hlink
  · exact picked_range hlink _
  · obtain ⟨hnum, -⟩ := hc.resolve_left hlink
    split
    · next mid hfind =>
      have hmid := List.mem_range.1 (mem_of_find?_eq_some hfind)
      have hfree : mid ∉ s.ctl.usedMldMap ∧ mid ∉ s.ctl.usedLegacyMap := by
        simpa using find?_some hfind
      exact .newGroup h hlink hnum hmid hfree.1 hfree.2 rfl
    · exact .fail c s _

lemma picked_mldLink (h : Core c s) (hc : c.Fit) {m k : ℕ} (hk : k ∈ s.live)
    (hm : (s.stas k).mld = some m) (h0 : c.maxMldNum ≠ 0) :
    Picked c s (some m) (allocMldMacid c s.ctl (s.stas k).macid) := by
  have hlt := h.below k hk
  have hg : (s.stas k).macid % c.maxMldNum < c.maxMldNum :=
    Nat.mod_lt _ (Nat.pos_of_ne_zero h0)
  unfold allocMldMacid
  rw [if_neg (by omega)]
  apply getD_pick (.fail c s _)
  intro id hid
  by_cases hlink : c.maxLinkNum = rtwOneLink
  · obtain ⟨hmem, hfree⟩ := firstUnused_some hid
    apply Picked.oneLink hlink hfree
    intro _
    obtain ⟨l, hl, rfl⟩ := List.mem_map.1 hmem
    rw [hlink, rtwOneLink] at hl
    have hl0 : l = 0 := Nat.lt_one_iff.1 (List.mem_range.1 hl)
    rw [hl0, Nat.mul_zero, Nat.add_zero]
    exact (Nat.mod_le _ _).trans_lt ((Nat.mod_le _ _).trans_lt hlt)
  · obtain ⟨-, hrows⟩ := hc.resolve_left hlink
    have hgroup := h.grouped hlink
    have hres := hgroup.reserved k hk (.inl (by rw [hm]; exact Option.some_ne_none m))
    have hmark := hgroup.marked k hk hres
    rw [hm] at hmark
    refine .ofGroup h hrows hg hid hmark fun i hi hresi heq => ?_
    rw [← hm]
    exact hgroup.owned i hi k hk hresi hres heq

lemma legacyLoop_spec (mc : MacidCtl) (mids : List ℕ) (avail : ℕ) :
    (∀ id, (legacyLoop c mc mids avail).1 = some id → ∃ g ∈ mids, g ∉ mc.usedMldMap ∧
      g ∈ mc.usedLegacyMap ∧ firstUnused mc (groupIds c g) = some id) ∧
    ((legacyLoop c mc mids avail).2 = avail ∨
      (legacyLoop c mc mids avail).2 ∈ mids ∧
      (legacyLoop c mc mids avail).2 ∉ mc.usedMldMap ∧
      (legacyLoop c mc mids avail).2 ∉ mc.usedLegacyMap) := by
  induction mids generalizing avail with
  | nil => exact ⟨fun _ h => (nomatch h), .inl rfl⟩
  | cons mid mids ih =>
    have hlift : ∀ a, (∀ id, (legacyLoop c mc mids a).1 = some id → ∃ g ∈ mid :: mids,
        g ∉ mc.usedMldMap ∧ g ∈ mc.usedLegacyMap ∧
          firstUnused mc (groupIds c g) = some id) ∧
        ((legacyLoop c mc mids a).2 = a ∨ (legacyLoop c mc mids a).2 ∈ mid :: mids ∧
          (legacyLoop c mc mids a).2 ∉ mc.usedMldMap ∧
          (legacyLoop c mc mids a).2 ∉ mc.usedLegacyMap) := by
      intro a
      obtain ⟨hfound, havail⟩ := ih a
      refine ⟨fun id hid => ?_, havail.imp_right fun h => ⟨List.mem_cons_of_mem mid h.1, h.2⟩⟩
      obtain ⟨g, hg, hrest⟩ := hfound id hid
      exact ⟨g, List.mem_cons_of_mem mid hg, hrest⟩
    unfold legacyLoop
    by_cases hmld : mid ∈ mc.usedMldMap
    · rw [if_pos hmld]
      exact hlift avail
    rw [if_neg hmld]
    by_cases hleg : mid ∈ mc.usedLegacyMap
    · rw [if_neg (not_not.2 hleg)]
      split
      · next id hid =>
        refine ⟨fun id' h => ⟨mid, List.mem_cons_self .., hmld, hleg, ?_⟩, .inl rfl⟩
        rw [hid]
        exact h
      · exact hlift avail
    · rw [if_pos hleg]
      by_cases hfirst : avail = c.maxNum
      · rw [if_pos hfirst]
        obtain ⟨hfound, havail⟩ := hlift mid
        refine ⟨hfound, .inr ?_⟩
        rcases havail with h | h
        · rw [h]
          exact ⟨List.mem_cons_self .., hmld, hleg⟩
        · exact h
      · rw [if_neg hfirst]
        exact hlift avail

lemma picked_open (hc : c.maxMldNum * c.maxLinkNum ≤ c.maxNum + 1 ∨ c.maxMldNum = 1) {id : ℕ}
    (hid : firstUnused s.ctl (openIds c) = some id) :
    Picked c s none (s.ctl, id) := by
  obtain ⟨hmem, hfree⟩ := firstUnused_some hid
  have hrsvd : rsvdMacid c = c.maxMldNum * c.maxLinkNum := by
    have hnum : c.maxNum ≤ 256 := c.maxNum_le
    have hlink := c.maxLinkNum_lt
    apply Nat.mod_eq_of_lt
    rcases hc with hc | hc
    · omega
    · rw [hc]
      omega
  unfold openIds at hmem
  split_ifs at hmem with hopen
  · rw [hrsvd] at hopen hmem
    obtain ⟨hge, hlt⟩ := mem_range'_1.1 hmem
    have hrows : max 1 c.maxLinkNum = c.maxLinkNum := by
      apply Nat.max_eq_right
      exact Nat.pos_of_mul_pos_left hopen.1
    have hout : ¬Reserved c id := by
      unfold Reserved
      rw [hrows]
      omega
    exact
      { frame := rfl
        failed := fun _ => rfl
        fresh := fun _ => ⟨hfree, by omega⟩
        onlyNew := fun _ h => .inl h
        marks := fun _ _ => ⟨.rfl, .rfl⟩
        grouped := fun _ _ hres => absurd hres hout
        reserved := by
          rintro - - (ho | h0)
          · exact absurd rfl ho
          · rw [h0, Nat.mul_zero] at hopen
            exact absurd hopen.1 (Nat.lt_irrefl 0) }
  · exact absurd hmem not_mem_nil

lemma picked_legacy (h : Core c s) (hc : c.Fit) :
    Picked c s none (allocLegacyMacid c s.ctl) := by
  unfold allocLegacyMacid
  split_ifs with hlink
  · exact picked_range hlink _
  obtain ⟨hnum, hrows⟩ := hc.resolve_left hlink
  have hgroup := h.grouped hlink
  split
  · next id hid => exact picked_open hrows hid
  obtain ⟨hfound, havail⟩ := legacyLoop_spec (c := c) s.ctl (List.range c.maxMldNum) c.maxNum
  split
  · next id avail hloop =>
    rw [hloop] at hfound
    obtain ⟨g, hg, hmld, hleg, hid⟩ := hfound id rfl
    refine .ofGroup h hrows (List.mem_range.1 hg) hid ⟨hleg, hmld⟩ fun i hi hres heq => ?_
    have hmark := hgroup.marked i hi hres
    rw [heq] at hmark
    unfold Marked at hmark
    split_ifs at hmark with hown
    · exact hown
    · exact absurd hmark.1 hmld
  · next avail hloop =>
    rw [hloop] at havail
    split_ifs with hnone
    · rw [hnone]
      exact .fail c s _
    · obtain ⟨hg, hmld, hleg⟩ := havail.resolve_left hnone
      exact .newGroup h hlink hnum (List.mem_range.1 hg) hmld hleg rfl

end

section

variable {c : DevCap} {s : State} {i : ℕ}

variable {stas : ℕ → Sta} {live : Finset ℕ} {mld : Option ℕ} {r : MacidCtl × ℕ} {mc : MacidCtl}
  {id : ℕ}

lemma Marked.mono {o : Option ℕ} {g : ℕ} (h : Marked s.ctl o g)
    (hmarks : ∀ g, g ∈ s.ctl.usedMldMap ∨ g ∈ s.ctl.usedLegacyMap →
      (g ∈ mc.usedMldMap ↔ g ∈ s.ctl.usedMldMap) ∧
        (g ∈ mc.usedLegacyMap ↔ g ∈ s.ctl.usedLegacyMap)) : Marked mc o g := by
  unfold Marked at h ⊢
  split_ifs at h ⊢
  · obtain ⟨hmld, hleg⟩ := hmarks g (.inr h.1)
    exact ⟨hleg.2 h.1, fun hg => h.2 (hmld.1 hg)⟩
  · obtain ⟨hmld, hleg⟩ := hmarks g (.inl h.1)
    exact ⟨hmld.2 h.1, fun hg => h.2 (hleg.1 hg)⟩

lemma exists_mem_insert (hi : i ∉ live) (st : Sta)
    (P : Sta → Prop) :
    (∃ j ∈ insert i live, P (update stas i st j)) ↔ P st ∨ ∃ j ∈ live, P (stas j) := by
  constructor
  · rintro ⟨j, hj, hP⟩
    rcases mem_insert.1 hj with rfl | hj
    · rw [update_self] at hP
      exact .inl hP
    · rw [update_of_ne (ne_of_mem_of_not_mem hj hi)] at hP
      exact .inr ⟨j, hj, hP⟩
  · rintro (hP | ⟨j, hj, hP⟩)
    · refine ⟨i, Finset.mem_insert_self i live, ?_⟩
      rw [update_self]
      exact hP
    · refine ⟨j, Finset.mem_insert_of_mem hj, ?_⟩
      rw [update_of_ne (ne_of_mem_of_not_mem hj hi)]
      exact hP

lemma exists_mem_erase (st : Sta) (P : Sta → Prop) :
    (∃ j ∈ live.erase i, P (update stas i st j)) ↔
      ∃ j ∈ live, j ≠ i ∧ P (stas j) := by
  constructor
  · rintro ⟨j, hj, hP⟩
    obtain ⟨hne, hj⟩ := mem_erase.1 hj
    rw [update_of_ne hne] at hP
    exact ⟨j, hj, hne, hP⟩
  · rintro ⟨j, hj, hne, hP⟩
    refine ⟨j, mem_erase.2 ⟨hne, hj⟩, ?_⟩
    rw [update_of_ne hne]
    exact hP

lemma Core.fail (h : Core c s) (hi : i ∉ s.live) (st : Sta) :
    Core c { s with stas := update s.stas i st } := by
  have hold : ∀ j ∈ s.live, update s.stas i st j = s.stas j := fun j hj =>
    update_of_ne (ne_of_mem_of_not_mem hj hi) st s.stas
  have hsame : ∀ P : Sta → Prop,
      (∃ j ∈ s.live, P (update s.stas i st j)) ↔ ∃ j ∈ s.live, P (s.stas j) := by
    intro P
    refine exists_congr fun j => and_congr_right fun hj => ?_
    rw [hold j hj]
  refine
    { below := fun j hj => ?_
      held := fun j hj => ?_
      holds := fun u j hu => ?_
      used := fun u => ?_
      roles := fun k u => ?_
      bmc := fun u => ?_
      unmarked := h.unmarked
      grouped := fun hlink => ?_ }
  · dsimp only
    rw [hold j hj]
    exact h.below j hj
  · dsimp only
    rw [hold j hj]
    exact h.held j hj
  · obtain ⟨hj, heq⟩ := h.holds u j hu
    dsimp only
    rw [hold j hj]
    exact ⟨hj, heq⟩
  · rw [hsame fun st => st.macid = u]
    exact h.used u
  · rw [hsame fun st => st.macid = u ∧ st.wrole = k]
    exact h.roles k u
  · rw [hsame fun st => st.macid = u ∧ st.bmc = true]
    exact h.bmc u
  · have hgroup := h.grouped hlink
    refine
      { marked := fun j hj hres => ?_
        reserved := fun j hj ho => ?_
        owned := fun j hj k hk hresj hresk heq => ?_
        holder := fun g hg => ?_ }
    · dsimp only at hres ⊢
      rw [hold j hj] at hres ⊢
      exact hgroup.marked j hj hres
    · dsimp only at ho ⊢
      rw [hold j hj] at ho ⊢
      exact hgroup.reserved j hj ho
    · dsimp only at hresj hresk heq ⊢
      rw [hold j hj] at hresj heq ⊢
      rw [hold k hk] at hresk heq ⊢
      exact hgroup.owned j hj k hk hresj hresk heq
    · rw [hsame fun st => Reserved c st.macid ∧ st.macid % c.maxMldNum = g]
      exact hgroup.holder g hg

lemma Reserved.ne_zero (h : Reserved c id) : c.maxMldNum ≠ 0 := by
  intro h0
  unfold Reserved at h
  rw [h0, Nat.zero_mul] at h
  exact Nat.not_lt_zero _ h

lemma Picked.same (hp : Picked c s mld r) :
    r.1.usedMap = s.ctl.usedMap ∧ r.1.sta = s.ctl.sta ∧
      r.1.wifiRoleUsedmap = s.ctl.wifiRoleUsedmap ∧ r.1.bmcMap = s.ctl.bmcMap := by
  rw [hp.frame]
  exact ⟨rfl, rfl, rfl, rfl⟩

lemma Picked.unmarked (hp : Picked c s mld r)
    (hlink : c.maxLinkNum = rtwOneLink) (hmld : s.ctl.usedMldMap = ∅)
    (hleg : s.ctl.usedLegacyMap = ∅) : r.1.usedMldMap = ∅ ∧ r.1.usedLegacyMap = ∅ := by
  have hnone : ∀ g, ¬(g ∈ r.1.usedMldMap ∨ g ∈ r.1.usedLegacyMap) := by
    intro g hg
    rcases hp.onlyNew g hg with hg | hg
    · rw [hmld, hleg] at hg
      exact hg.elim (notMem_empty g) (notMem_empty g)
    · exact hg.1 hlink
  exact ⟨eq_empty_of_forall_notMem fun g hg => hnone g (.inl hg),
    eq_empty_of_forall_notMem fun g hg => hnone g (.inr hg)⟩

/-- The control block after the id `r.2` has been given to the station. -/
def grant (i : ℕ) (st : Sta) (r : MacidCtl × ℕ) : MacidCtl :=
  { r.1 with
    usedMap := insert r.2 r.1.usedMap
    wifiRoleUsedmap := update r.1.wifiRoleUsedmap st.wrole
      (insert r.2 (r.1.wifiRoleUsedmap st.wrole))
    sta := update r.1.sta r.2 (some i)
    bmcMap := if st.bmc then insert r.2 r.1.bmcMap else r.1.bmcMap
    wroleBmc :=
      if st.bmc then
        update r.1.wroleBmc st.wrole
          (update (r.1.wroleBmc st.wrole) st.rlink r.2)
      else r.1.wroleBmc }

lemma Core.grant (h : Core c s) (hi : i ∉ s.live) (st : Sta) {r : MacidCtl × ℕ}
    (hp : Picked c s st.mld r) (hr : r.2 ≠ c.maxNum) (hst : st.macid = r.2) :
    Core c { ctl := grant i st r, stas := update s.stas i st,
             live := insert i s.live } := by
  obtain ⟨hfresh, hlt⟩ := hp.fresh hr
  have hold : ∀ j ∈ s.live, update s.stas i st j = s.stas j := fun j hj =>
    update_of_ne (ne_of_mem_of_not_mem hj hi) st s.stas
  have hnew : update s.stas i st i = st := update_self i st s.stas
  have hne : ∀ j ∈ s.live, (s.stas j).macid ≠ r.2 := by
    intro j hj heq
    exact hfresh ((h.used r.2).2 ⟨j, hj, heq⟩)
  obtain ⟨hused, hsta, hrole, hbmc⟩ := hp.same
  refine
    { below := fun j hj => ?_
      held := fun j hj => ?_
      holds := fun u j hu => ?_
      used := fun u => ?_
      roles := fun k u => ?_
      bmc := fun u => ?_
      unmarked := fun hlink => ?_
      grouped := fun hlink => ?_ }
  · dsimp only
    rcases mem_insert.1 hj with rfl | hj
    · rw [hnew, hst]
      exact hlt
    · rw [hold j hj]
      exact h.below j hj
  · dsimp only [Macid.grant]
    rcases mem_insert.1 hj with rfl | hj
    · rw [hnew, hst, update_self]
    · rw [hold j hj, update_of_ne (hne j hj), hsta]
      exact h.held j hj
  · dsimp only [Macid.grant] at hu ⊢
    by_cases heq : u = r.2
    · rw [heq, update_self] at hu
      rw [← Option.some.inj hu, hnew, heq]
      exact ⟨Finset.mem_insert_self i _, hst⟩
    · rw [update_of_ne heq, hsta] at hu
      obtain ⟨hj, hju⟩ := h.holds u j hu
      rw [hold j hj]
      exact ⟨Finset.mem_insert_of_mem hj, hju⟩
  · dsimp only [Macid.grant]
    rw [exists_mem_insert hi st fun st => st.macid = u, mem_insert, hst, hused, h.used u,
      eq_comm]
  · dsimp only [Macid.grant]
    rw [exists_mem_insert hi st fun st => st.macid = u ∧ st.wrole = k, hst, hrole, ← h.roles k u]
    by_cases hk : k = st.wrole
    · rw [hk, update_self, mem_insert]
      apply or_congr_left
      exact ⟨fun hu => ⟨hu.symm, rfl⟩, fun hu => hu.1.symm⟩
    · rw [update_of_ne hk]
      exact (or_iff_right fun hu => hk hu.2.symm).symm
  · dsimp only [Macid.grant]
    rw [exists_mem_insert hi st fun st => st.macid = u ∧ st.bmc = true, hst, hbmc, ← h.bmc u]
    split_ifs with hb
    · rw [mem_insert]
      apply or_congr_left
      exact ⟨fun hu => ⟨hu.symm, hb⟩, fun hu => hu.1.symm⟩
    · exact (or_iff_right fun hu => hb hu.2).symm
  · dsimp only [Macid.grant]
    obtain ⟨hmld, hleg⟩ := h.unmarked hlink
    exact hp.unmarked hlink hmld hleg
  · have hgroup := h.grouped hlink
    have hmark := fun hres => (hp.grouped hr hlink hres).1
    have hown := fun hres => (hp.grouped hr hlink hres).2
    refine
      { marked := fun j hj hres => ?_
        reserved := fun j hj ho => ?_
        owned := fun j hj k hk hresj hresk heq => ?_
        holder := fun g hg => ?_ }
    · dsimp only at hres ⊢
      change Marked r.1 _ _
      rcases mem_insert.1 hj with rfl | hj
      · rw [hnew] at hres ⊢
        rw [hst] at hres ⊢
        exact hmark hres
      · rw [hold j hj] at hres ⊢
        exact (hgroup.marked j hj hres).mono hp.marks
    · dsimp only at ho ⊢
      rcases mem_insert.1 hj with rfl | hj
      · rw [hnew] at ho ⊢
        rw [hst]
        exact hp.reserved hr hlink ho
      · rw [hold j hj] at ho ⊢
        exact hgroup.reserved j hj ho
    · dsimp only at hresj hresk heq ⊢
      rcases mem_insert.1 hj with rfl | hlive
      · rcases mem_insert.1 hk with rfl | hlivek
        · rfl
        · rw [hnew] at hresj heq ⊢
          rw [hold k hlivek] at hresk heq ⊢
          rw [hst] at hresj heq
          exact (hown hresj k hlivek hresk heq.symm).symm
      · rw [hold j hlive] at hresj heq ⊢
        rcases mem_insert.1 hk with rfl | hlivek
        · rw [hnew] at hresk heq ⊢
          rw [hst] at hresk heq
          exact hown hresk j hlive hresj heq
        · rw [hold k hlivek] at hresk heq ⊢
          exact hgroup.owned j hlive k hlivek hresj hresk heq
    · dsimp only [Macid.grant] at hg ⊢
      rw [exists_mem_insert hi st fun st => Reserved c st.macid ∧ st.macid % c.maxMldNum = g]
      rcases hp.onlyNew g hg with hg | ⟨-, hg, hres⟩
      · exact .inr (hgroup.holder g hg)
      · rw [hst]
        exact .inl ⟨hres, hg.symm⟩

lemma mem_groupIds (hc : c.maxMldNum * c.maxLinkNum ≤ c.maxNum + 1 ∨ c.maxMldNum = 1)
    (h0 : c.maxMldNum ≠ 0) (hlink : c.maxLinkNum ≠ 0) (hid : Reserved c id) :
    id ∈ groupIds c (id % c.maxMldNum) := by
  have hpos := Nat.pos_of_ne_zero h0
  rw [groupIds_eq hc (Nat.mod_lt _ hpos)]
  refine List.mem_map.2 ⟨id / c.maxMldNum, List.mem_range.2 ?_, Nat.mod_add_div id _⟩
  unfold Reserved at hid
  rw [Nat.max_eq_right (Nat.pos_of_ne_zero hlink)] at hid
  exact Nat.div_lt_of_lt_mul hid

lemma Core.marks_kept (h : Core c s) (hc : c.Fit) (hlink : c.maxLinkNum ≠ rtwOneLink)
    (hi : i ∈ s.live) {j : ℕ} (hj : j ∈ s.live) (hji : j ≠ i) (hres : Reserved c (s.stas j).macid)
    (hfree : ∀ id ∈ groupIds c ((s.stas i).macid % c.maxMldNum),
      id ∉ s.ctl.usedMap.erase (s.stas i).macid) :
    (s.stas j).macid % c.maxMldNum ≠ (s.stas i).macid % c.maxMldNum := by
  obtain ⟨-, hrows⟩ := hc.resolve_left hlink
  have hne : (s.stas j).macid ≠ (s.stas i).macid := fun heq => hji (h.unique hj hi heq)
  intro heq
  have h0 : c.maxMldNum ≠ 0 := by
    rintro h0
    unfold Reserved at hres
    rw [h0, Nat.zero_mul] at hres
    exact Nat.not_lt_zero _ hres
  by_cases hlink0 : c.maxLinkNum = 0
  · -- every group has one id only
    have hresi := (h.grouped hlink).reserved i hi (.inr hlink0)
    unfold Reserved at hres hresi
    rw [hlink0, Nat.max_eq_left (Nat.zero_le 1), Nat.mul_one] at hres hresi
    rw [Nat.mod_eq_of_lt hres, Nat.mod_eq_of_lt hresi] at heq
    exact hne heq
  · have hmem := mem_groupIds hrows h0 hlink0 hres
    rw [heq] at hmem
    exact hfree _ hmem (mem_erase.2 ⟨hne, (h.used _).2 ⟨j, hj, rfl⟩⟩)

lemma releaseMacid_spec {st : Sta} (hlt : st.macid < c.maxNum)
    (hmem : st.macid ∈ mc.usedMap) :
    ∃ mld leg, releaseMacid c mc st =
      { usedMap := mc.usedMap.erase st.macid
        usedMldMap := mld
        usedLegacyMap := leg
        bmcMap := if st.bmc then mc.bmcMap.erase st.macid else mc.bmcMap
        wifiRoleUsedmap := update mc.wifiRoleUsedmap st.wrole
          ((mc.wifiRoleUsedmap st.wrole).erase st.macid)
        wroleBmc := mc.wroleBmc
        sta := update mc.sta st.macid none } ∧
      (c.maxMldNum ≠ 0 ∧
          (∀ id ∈ groupIds c (st.macid % c.maxMldNum), id ∉ mc.usedMap.erase st.macid) →
        mld = mc.usedMldMap.erase (st.macid % c.maxMldNum) ∧
          leg = mc.usedLegacyMap.erase (st.macid % c.maxMldNum)) ∧
      (¬(c.maxMldNum ≠ 0 ∧
          ∀ id ∈ groupIds c (st.macid % c.maxMldNum), id ∉ mc.usedMap.erase st.macid) →
        mld = mc.usedMldMap ∧ leg = mc.usedLegacyMap) := by
  unfold releaseMacid
  rw [if_neg (Nat.not_le.2 hlt), if_neg (not_not.2 hmem)]
  dsimp only
  generalize (if st.bmc = true then mc.bmcMap.erase st.macid else mc.bmcMap) = b
  split_ifs with hfree
  · exact ⟨_, _, rfl, fun _ => ⟨rfl, rfl⟩, fun h => absurd hfree h⟩
  · exact ⟨_, _, rfl, fun h => absurd h hfree, fun _ => ⟨rfl, rfl⟩⟩

lemma Core.release (h : Core c s) (hc : c.Fit) (hi : i ∈ s.live) :
    Core c (releaseStep c s i) := by
  have hlt := h.below i hi
  have hmem : (s.stas i).macid ∈ s.ctl.usedMap := (h.used _).2 ⟨i, hi, rfl⟩
  have hne : ∀ j ∈ s.live, j ≠ i → (s.stas j).macid ≠ (s.stas i).macid := fun j hj hji heq =>
    hji (h.unique hj hi heq)
  have hold : ∀ j, j ∈ s.live.erase i → j ∈ s.live ∧ j ≠ i ∧ (releaseStep c s i).stas j = s.stas j :=
    fun j hj => by
      obtain ⟨hji, hj⟩ := mem_erase.1 hj
      exact ⟨hj, hji, update_of_ne hji _ s.stas⟩
  have hsome : ∀ P : Sta → Prop, (∃ j ∈ (releaseStep c s i).live, P ((releaseStep c s i).stas j)) ↔
      ∃ j ∈ s.live, j ≠ i ∧ P (s.stas j) := fun P => exists_mem_erase _ P
  obtain ⟨mld, leg, hctl, hmld, hleg, hsub, hclear⟩ : ∃ mld leg, (releaseStep c s i).ctl =
      { usedMap := s.ctl.usedMap.erase (s.stas i).macid
        usedMldMap := mld
        usedLegacyMap := leg
        bmcMap := if (s.stas i).bmc then s.ctl.bmcMap.erase (s.stas i).macid else s.ctl.bmcMap
        wifiRoleUsedmap := update s.ctl.wifiRoleUsedmap (s.stas i).wrole
          ((s.ctl.wifiRoleUsedmap (s.stas i).wrole).erase (s.stas i).macid)
        wroleBmc := s.ctl.wroleBmc
        sta := update s.ctl.sta (s.stas i).macid none } ∧
      (∀ j ∈ s.live, j ≠ i → c.maxLinkNum ≠ rtwOneLink → Reserved c (s.stas j).macid →
        ((s.stas j).macid % c.maxMldNum ∈ mld ↔
          (s.stas j).macid % c.maxMldNum ∈ s.ctl.usedMldMap)) ∧
      (∀ j ∈ s.live, j ≠ i → c.maxLinkNum ≠ rtwOneLink → Reserved c (s.stas j).macid →
        ((s.stas j).macid % c.maxMldNum ∈ leg ↔
          (s.stas j).macid % c.maxMldNum ∈ s.ctl.usedLegacyMap)) ∧
      (mld ⊆ s.ctl.usedMldMap ∧ leg ⊆ s.ctl.usedLegacyMap) ∧
      (c.maxMldNum ≠ 0 → (s.stas i).macid % c.maxMldNum ∈ mld ∨
          (s.stas i).macid % c.maxMldNum ∈ leg →
        ∃ id ∈ groupIds c ((s.stas i).macid % c.maxMldNum),
          id ∈ s.ctl.usedMap.erase (s.stas i).macid) := by
    obtain ⟨mld, leg, hctl, hidle, hbusy⟩ := releaseMacid_spec hlt hmem
    refine ⟨mld, leg, hctl, ?_⟩
    by_cases hfree : c.maxMldNum ≠ 0 ∧ ∀ id ∈ groupIds c ((s.stas i).macid % c.maxMldNum),
        id ∉ s.ctl.usedMap.erase (s.stas i).macid
    · obtain ⟨rfl, rfl⟩ := hidle hfree
      have hgne : ∀ j ∈ s.live, j ≠ i → c.maxLinkNum ≠ rtwOneLink →
          Reserved c (s.stas j).macid →
          (s.stas j).macid % c.maxMldNum ≠ (s.stas i).macid % c.maxMldNum :=
        fun j hj hji hlink hres => h.marks_kept hc hlink hi hj hji hres hfree.2
      refine ⟨fun j hj hji hlink hres => ?_, fun j hj hji hlink hres => ?_,
        ⟨Finset.erase_subset _ _, Finset.erase_subset _ _⟩, fun _ hmark => ?_⟩
      · exact mem_erase.trans (and_iff_right (hgne j hj hji hlink hres))
      · exact mem_erase.trans (and_iff_right (hgne j hj hji hlink hres))
      · exact (hmark.elim (notMem_erase _ _) (notMem_erase _ _)).elim
    · obtain ⟨rfl, rfl⟩ := hbusy hfree
      refine ⟨fun _ _ _ _ _ => .rfl, fun _ _ _ _ _ => .rfl,
        ⟨Finset.Subset.refl _, Finset.Subset.refl _⟩, fun h0 _ => ?_⟩
      have hsome := not_and.1 hfree h0
      push Not at hsome
      exact hsome
  refine
    { below := fun j hj => ?_
      held := fun j hj => ?_
      holds := fun u j hu => ?_
      used := fun u => ?_
      roles := fun k u => ?_
      bmc := fun u => ?_
      unmarked := fun hlink => ?_
      grouped := fun hlink => ?_ }
  · obtain ⟨hj, -, heq⟩ := hold j hj
    rw [heq]
    exact h.below j hj
  · obtain ⟨hj, hji, heq⟩ := hold j hj
    rw [heq, hctl]
    dsimp only
    rw [update_of_ne (hne j hj hji)]
    exact h.held j hj
  · rw [hctl] at hu
    dsimp only at hu
    by_cases heq : u = (s.stas i).macid
    · rw [heq, update_self] at hu
      exact nomatch hu
    · rw [update_of_ne heq] at hu
      obtain ⟨hj, hju⟩ := h.holds u j hu
      have hji : j ≠ i := by
        rintro rfl
        exact heq hju.symm
      have hj' : j ∈ s.live.erase i := mem_erase.2 ⟨hji, hj⟩
      rw [(hold j hj').2.2]
      exact ⟨hj', hju⟩
  · rw [hsome fun st => st.macid = u, hctl, mem_erase, h.used u]
    constructor
    · rintro ⟨hu, j, hj, rfl⟩
      exact ⟨j, hj, fun hji => hu (by rw [hji]), rfl⟩
    · rintro ⟨j, hj, hji, rfl⟩
      exact ⟨hne j hj hji, j, hj, rfl⟩
  · rw [hsome fun st => st.macid = u ∧ st.wrole = k, hctl]
    dsimp only
    by_cases hk : k = (s.stas i).wrole
    · rw [hk, update_self, mem_erase, h.roles]
      constructor
      · rintro ⟨hu, j, hj, rfl, hrole⟩
        exact ⟨j, hj, fun hji => hu (by rw [hji]), rfl, hrole⟩
      · rintro ⟨j, hj, hji, rfl, hrole⟩
        exact ⟨hne j hj hji, j, hj, rfl, hrole⟩
    · rw [update_of_ne hk, h.roles]
      constructor
      · rintro ⟨j, hj, hu, hrole⟩
        exact ⟨j, hj, fun hji => hk (by rw [← hrole, hji]), hu, hrole⟩
      · rintro ⟨j, hj, -, hu, hrole⟩
        exact ⟨j, hj, hu, hrole⟩
  · rw [hsome fun st => st.macid = u ∧ st.bmc = true, hctl]
    dsimp only
    split_ifs with hb
    · rw [mem_erase, h.bmc]
      constructor
      · rintro ⟨hu, j, hj, rfl, hbj⟩
        exact ⟨j, hj, fun hji => hu (by rw [hji]), rfl, hbj⟩
      · rintro ⟨j, hj, hji, rfl, hbj⟩
        exact ⟨hne j hj hji, j, hj, rfl, hbj⟩
    · rw [h.bmc]
      constructor
      · rintro ⟨j, hj, hu, hbj⟩
        exact ⟨j, hj, fun hji => hb (by rw [← hji]; exact hbj), hu, hbj⟩
      · rintro ⟨j, hj, -, hu, hbj⟩
        exact ⟨j, hj, hu, hbj⟩
  · rw [hctl]
    obtain ⟨hmld0, hleg0⟩ := h.unmarked hlink
    exact ⟨subset_empty.1 (hmld0 ▸ hsub.1), subset_empty.1 (hleg0 ▸ hsub.2)⟩
  · have hgroup := h.grouped hlink
    refine
      { marked := fun j hj hres => ?_
        reserved := fun j hj ho => ?_
        owned := fun j hj k hk hresj hresk heq => ?_
        holder := fun g hg => ?_ }
    · obtain ⟨hj, hji, heq⟩ := hold j hj
      rw [heq] at hres ⊢
      have hmark := hgroup.marked j hj hres
      unfold Marked at hmark ⊢
      rw [hctl]
      dsimp only
      rw [hmld j hj hji hlink hres, hleg j hj hji hlink hres]
      exact hmark
    · obtain ⟨hj, -, heq⟩ := hold j hj
      rw [heq] at ho ⊢
      exact hgroup.reserved j hj ho
    · obtain ⟨hj, -, heqj⟩ := hold j hj
      obtain ⟨hk, -, heqk⟩ := hold k hk
      rw [heqj] at hresj heq ⊢
      rw [heqk] at hresk heq ⊢
      exact hgroup.owned j hj k hk hresj hresk heq
    · rw [hctl] at hg
      rw [hsome fun st => Reserved c st.macid ∧ st.macid % c.maxMldNum = g]
      obtain ⟨j, hj, hres, hjg⟩ := hgroup.holder g (hg.imp (hsub.1 ·) (hsub.2 ·))
      by_cases hji : j = i
      · -- the group keeps its mark because of another station
        rw [hji] at hjg hres
        rw [← hjg] at hg ⊢
        have h0 := hres.ne_zero
        obtain ⟨id, hid, hused⟩ := hclear h0 hg
        obtain ⟨hne', hused⟩ := mem_erase.1 hused
        obtain ⟨k, hk, rfl⟩ := (h.used id).1 hused
        obtain ⟨hresk, hmod⟩ := reserved_of_mem (hc.resolve_left hlink).2
          (Nat.mod_lt _ (Nat.pos_of_ne_zero h0)) hid
        exact ⟨k, hk, fun hki => hne' (by rw [hki]), hresk, hmod⟩
      · exact ⟨j, hj, hji, hres, hjg⟩

lemma allocStep_spec (i wrole rlink : ℕ) (bmc : Bool) {req : Request} {r : MacidCtl × ℕ}
    (hr : r = if req.dtype = .mld then allocMldMacid c s.ctl (mainIdOf c s req)
      else allocLegacyMacid c s.ctl) (hp : Picked c s req.mld r) :
    r.2 = c.maxNum ∧ allocStep c s i wrole rlink bmc req =
        { s with stas := update s.stas i ⟨wrole, rlink, bmc, req.mld, c.maxNum⟩ } ∨
      r.2 ≠ c.maxNum ∧ allocStep c s i wrole rlink bmc req =
        { ctl := grant i ⟨wrole, rlink, bmc, req.mld, r.2⟩ r
          stas := update s.stas i ⟨wrole, rlink, bmc, req.mld, r.2⟩
          live := insert i s.live } := by
  unfold allocStep allocMacid
  dsimp only
  rw [← hr]
  by_cases hmax : r.2 = c.maxNum
  · rw [if_pos hmax, if_pos hmax, hp.failed hmax, hmax]
    exact .inl ⟨rfl, rfl⟩
  · rw [if_neg hmax, if_neg hmax]
    exact .inr ⟨hmax, rfl⟩

/-- A further link is asked for on a device with groups, and no station is
released whose macid is the broadcast id of its role and link. -/
def Safe (c : DevCap) (s : State) : Event → Prop
  | .alloc _ _ _ _ (.mldLink _ _) => c.maxMldNum ≠ 0
  | .alloc _ _ _ _ .legacy => True
  | .alloc _ _ _ _ (.mldMain _) => True
  | .release i => s.ctl.wroleBmc (s.stas i).wrole (s.stas i).rlink ≠ (s.stas i).macid

instance (c : DevCap) (s : State) : ∀ e, Decidable (Safe c s e)
  | .alloc _ _ _ _ (.mldLink _ _) => inferInstanceAs (Decidable (_ ≠ _))
  | .alloc _ _ _ _ .legacy => inferInstanceAs (Decidable True)
  | .alloc _ _ _ _ (.mldMain _) => inferInstanceAs (Decidable True)
  | .release _ => inferInstanceAs (Decidable (_ ≠ _))

lemma picked_of_legal (h : Core c s) (hc : c.Fit) {wrole : Option ℕ} {rlink : ℕ} {bmc : Bool}
    {req : Request} (hl : Legal s (.alloc i wrole rlink bmc req))
    (hs : Safe c s (.alloc i wrole rlink bmc req)) :
    i ∉ s.live ∧ Picked c s req.mld
      (if req.dtype = .mld then allocMldMacid c s.ctl (mainIdOf c s req)
        else allocLegacyMacid c s.ctl) := by
  cases req with
  | legacy => exact ⟨hl, picked_legacy h hc⟩
  | mldMain m => exact ⟨hl, picked_mldMain h hc m⟩
  | mldLink m k => exact ⟨hl.1, picked_mldLink h hc hl.2.1 hl.2.2 hs⟩

lemma Inv.grant (h : Inv c s) (hi : i ∉ s.live) (st : Sta) {r : MacidCtl × ℕ}
    (hp : Picked c s st.mld r) (hr : r.2 ≠ c.maxNum) (hst : st.macid = r.2) :
    Inv c { ctl := grant i st r, stas := update s.stas i st,
            live := insert i s.live } where
  toCore := h.toCore.grant hi st hp hr hst
  wroleBmc k l := by
    have hwbmc : r.1.wroleBmc = s.ctl.wroleBmc := by rw [hp.frame]
    have hlift : s.ctl.wroleBmc k l = c.maxNum ∨ ∃ j ∈ insert i s.live,
        (update s.stas i st j).macid = s.ctl.wroleBmc k l ∧
        (update s.stas i st j).wrole = k ∧
        (update s.stas i st j).rlink = l ∧
        (update s.stas i st j).bmc = true := by
      rw [exists_mem_insert hi st fun st => st.macid = s.ctl.wroleBmc k l ∧ st.wrole = k ∧
        st.rlink = l ∧ st.bmc = true]
      exact (h.wroleBmc k l).imp_right .inr
    dsimp only [Macid.grant]
    rw [hwbmc]
    split_ifs with hb
    · by_cases hk : k = st.wrole
      · rw [hk, update_self]
        by_cases hl : l = st.rlink
        · rw [hl, update_self]
          refine .inr ⟨i, Finset.mem_insert_self i _, ?_⟩
          rw [update_self]
          exact ⟨hst, rfl, rfl, hb⟩
        · rw [update_of_ne hl, ← hk]
          exact hlift
      · rw [update_of_ne hk]
        exact hlift
    · exact hlift

lemma Inv.fail (h : Inv c s) (hi : i ∉ s.live) (st : Sta) :
    Inv c { s with stas := update s.stas i st } where
  toCore := h.toCore.fail hi st
  wroleBmc k l := by
    refine (h.wroleBmc k l).imp_right ?_
    rintro ⟨j, hj, hu⟩
    refine ⟨j, hj, ?_⟩
    dsimp only
    rw [update_of_ne (ne_of_mem_of_not_mem hj hi)]
    exact hu

lemma wroleBmc_releaseMacid (mc : MacidCtl) (st : Sta) :
    (releaseMacid c mc st).wroleBmc = mc.wroleBmc := by
  unfold releaseMacid
  dsimp only
  by_cases hmax : c.maxNum ≤ st.macid
  · rw [if_pos hmax]
  by_cases hused : st.macid ∉ mc.usedMap
  · rw [if_neg hmax, if_pos hused]
  rw [if_neg hmax, if_neg hused]
  split_ifs <;> rfl

lemma Inv.release (h : Inv c s) (hc : c.Fit) (hi : i ∈ s.live)
    (hsafe : s.ctl.wroleBmc (s.stas i).wrole (s.stas i).rlink ≠ (s.stas i).macid) :
    Inv c (releaseStep c s i) where
  toCore := h.toCore.release hc hi
  wroleBmc k l := by
    have hkeep : (releaseStep c s i).ctl.wroleBmc = s.ctl.wroleBmc := wroleBmc_releaseMacid _ _
    rw [hkeep]
    refine (h.wroleBmc k l).imp_right ?_
    rintro ⟨j, hj, hu, hk, hl, hb⟩
    refine (exists_mem_erase _ fun st => st.macid = s.ctl.wroleBmc k l ∧ st.wrole = k ∧
      st.rlink = l ∧ st.bmc = true).2 ⟨j, hj, ?_, hu, hk, hl, hb⟩
    rintro rfl
    rw [hk, hl] at hsafe
    exact hsafe hu.symm

lemma Inv.step (h : Inv c s) (hc : c.Fit) {e : Event} (hl : Legal s e) (hs : Safe c s e) :
    Inv c (step c s e) := by
  cases e with
  | release i => exact h.release hc hl hs
  | alloc i wrole rlink bmc req =>
    obtain ⟨hi, hp⟩ := picked_of_legal h.toCore hc hl hs
    cases wrole with
    | none => exact h
    | some wrole =>
      change Inv c (allocStep c s i wrole rlink bmc req)
      rcases allocStep_spec i wrole rlink bmc rfl hp with ⟨-, heq⟩ | ⟨hr, heq⟩
      · rw [heq]
        exact h.fail hi _
      · rw [heq]
        exact h.grant hi _ hp hr rfl

structure Consistent (c : DevCap) (s : State) : Prop where
  below : ∀ i ∈ s.live, (s.stas i).macid < c.maxNum
  held : ∀ i ∈ s.live, s.ctl.sta (s.stas i).macid = some i
  used : ∀ u, u ∈ s.ctl.usedMap ↔ ∃! i, i ∈ s.live ∧ (s.stas i).macid = u
  roles : ∀ u, (u ∈ s.ctl.usedMap ↔ ∃ r, u ∈ s.ctl.wifiRoleUsedmap r) ∧
    ∀ r r', u ∈ s.ctl.wifiRoleUsedmap r → u ∈ s.ctl.wifiRoleUsedmap r' → r = r'
  groups : ∀ i ∈ s.live, ∀ j ∈ s.live, (s.stas i).macid < c.maxMldNum * c.maxLinkNum →
    (s.stas j).macid < c.maxMldNum * c.maxLinkNum →
    (s.stas i).macid % c.maxMldNum = (s.stas j).macid % c.maxMldNum →
    (s.stas i).mld = (s.stas j).mld
  wroleBmc : ∀ r l, s.ctl.wroleBmc r l = c.maxNum ∨
    s.ctl.wroleBmc r l ∈ s.ctl.bmcMap ∧
      ∃ i ∈ s.live, (s.stas i).macid = s.ctl.wroleBmc r l ∧ (s.stas i).wrole = r ∧
        (s.stas i).rlink = l

lemma Inv.consistent (h : Inv c s) : Consistent c s where
  below := h.below
  held := h.held
  used u := by
    rw [h.used u]
    constructor
    · rintro ⟨i, hi, hu⟩
      exact ⟨i, ⟨hi, hu⟩, fun j hj => h.unique hj.1 hi (hj.2.trans hu.symm)⟩
    · rintro ⟨i, hi, -⟩
      exact ⟨i, hi⟩
  roles u := by
    constructor
    · rw [h.used u]
      constructor
      · rintro ⟨i, hi, hu⟩
        exact ⟨(s.stas i).wrole, (h.roles _ u).2 ⟨i, hi, hu, rfl⟩⟩
      · rintro ⟨r, hr⟩
        obtain ⟨i, hi, hu, -⟩ := (h.roles r u).1 hr
        exact ⟨i, hi, hu⟩
    · intro r r' hr hr'
      obtain ⟨i, hi, hu, rfl⟩ := (h.roles r u).1 hr
      obtain ⟨j, hj, hu', rfl⟩ := (h.roles r' u).1 hr'
      rw [h.unique hi hj (hu.trans hu'.symm)]
  groups i hi j hj hresi hresj heq := by
    have hmax : c.maxMldNum * c.maxLinkNum ≤ c.maxMldNum * max 1 c.maxLinkNum :=
      Nat.mul_le_mul_left _ (Nat.le_max_right 1 _)
    by_cases hlink : c.maxLinkNum = rtwOneLink
    · -- with one link a group is a single id
      rw [hlink, rtwOneLink, Nat.mul_one] at hresi hresj
      rw [Nat.mod_eq_of_lt hresi, Nat.mod_eq_of_lt hresj] at heq
      rw [h.unique hi hj heq]
    · exact (h.grouped hlink).owned i hi j hj (hresi.trans_le hmax) (hresj.trans_le hmax) heq
  wroleBmc r l := by
    refine (h.wroleBmc r l).imp_right ?_
    rintro ⟨i, hi, hu, hr, hl, hb⟩
    exact ⟨(h.bmc _).2 ⟨i, hi, hu, hb⟩, i, hi, hu, hr, hl⟩

/-- In every run whose steps are safe, on a device whose groups fit, the macids
are consistent. -/
theorem macids_consistent (c : DevCap) (hc : c.Fit) (es : List Event)
    (hes : Lib.Guarded (step c) (fun s e => Legal s e ∧ Safe c s e) (init c) es) :
    Consistent c (Lib.run (step c) (init c) es) := by
  have h : Inv c (Lib.run (step c) (init c) es) :=
    hes.invariant (fun _ _ h hok => h.step hc hok.1 hok.2) ⟨Core.init c, fun _ _ => .inl rfl⟩
  exact h.consistent

end

def twoLinks : DevCap where
  maxNum := 16
  maxMldNum := 4
  maxLinkNum := 2
  maxNum_le := by decide
  maxMldNum_lt := by decide
  maxLinkNum_lt := by decide

theorem macids_consistent_twoLinks :
    Consistent twoLinks (Lib.run (step twoLinks) (init twoLinks)
      [.alloc 0 (some 0) 0 false (.mldMain 7), .alloc 1 (some 0) 1 false (.mldLink 7 0),
        .alloc 2 (some 1) 0 true .legacy, .release 0]) := by
  apply macids_consistent twoLinks (.inr (by decide))
  exact ⟨⟨by decide, trivial⟩, ⟨by decide, by decide⟩, ⟨by decide, trivial⟩,
    ⟨by decide, by decide⟩, trivial⟩

/-- The broadcast id of a link outlives the station that has held it. -/
theorem released_bmc_id_stays :
    let es : List Event := [.alloc 0 (some 0) 0 true .legacy, .release 0]
    Lib.Guarded (step twoLinks) Legal (init twoLinks) es ∧
      ¬Consistent twoLinks (Lib.run (step twoLinks) (init twoLinks) es) := by
  refine ⟨⟨by decide, by decide, trivial⟩, fun h => ?_⟩
  rcases h.wroleBmc 0 0 with hmax | ⟨hmem, -⟩
  · exact absurd hmax (by decide)
  · exact absurd hmem (by decide)

end Macid

end Rtl8831.Phl
