import Rtl8831.Phl.MacidRun
import Rtl8831.Phl.StaPool

/-!
# Conservation of the stations

Every station is on one queue, whatever is allocated, fails and is freed.  An
allocation that fails because of the hardware undoes what it has done unless the
self station of the link is new or a station that existed is not its self
station.
-/

namespace Rtl8831.Phl

open Function List Finset

namespace StaPool

open Macid (MacidCtl Sta Core Picked Reserved)

/-! ## Macids that are given back at once -/

structure SameMaps (mc mc' : MacidCtl) : Prop where
  used : mc'.usedMap = mc.usedMap
  mld : mc'.usedMldMap = mc.usedMldMap
  legacy : mc'.usedLegacyMap = mc.usedLegacyMap
  bmc : mc'.bmcMap = mc.bmcMap
  roles : mc'.wifiRoleUsedmap = mc.wifiRoleUsedmap
  sta : mc'.sta = mc.sta

lemma SameMaps.refl (mc : MacidCtl) : SameMaps mc mc := ⟨rfl, rfl, rfl, rfl, rfl, rfl⟩

section Maps

variable {c : Macid.DevCap} {s : Macid.State} {i : ℕ} {st : Sta} {r : MacidCtl × ℕ}

lemma marked_of_used (h : Core c s) (hc : c.Fit) (hlink : c.maxLinkNum ≠ Macid.rtwOneLink)
    (h0 : c.maxMldNum ≠ 0) {id m : ℕ} (hid : id ∈ Macid.groupIds c (m % c.maxMldNum))
    (hused : id ∈ s.ctl.usedMap) :
    m % c.maxMldNum ∈ s.ctl.usedMldMap ∨ m % c.maxMldNum ∈ s.ctl.usedLegacyMap := by
  obtain ⟨hres, hmod⟩ := Macid.reserved_of_mem (hc.resolve_left hlink).2
    (Nat.mod_lt m (Nat.pos_of_ne_zero h0)) hid
  obtain ⟨j, hj, rfl⟩ := (h.used id).1 hused
  have hmark := (h.grouped hlink).marked j hj hres
  rw [hmod] at hmark
  unfold Macid.Marked at hmark
  split_ifs at hmark
  · exact .inr hmark.1
  · exact .inl hmark.1

section

variable (h : Core c s) (hc : c.Fit) (hp : Picked c s st.mld r)
include h hc hp

section

variable (hr : r.2 ≠ c.maxNum)
include hr

lemma used_of_marked (hlink : c.maxLinkNum ≠ Macid.rtwOneLink)
    (hmark : r.2 % c.maxMldNum ∈ s.ctl.usedMldMap ∨ r.2 % c.maxMldNum ∈ s.ctl.usedLegacyMap) :
    c.maxMldNum ≠ 0 ∧ ∃ id ∈ Macid.groupIds c (r.2 % c.maxMldNum), id ∈ s.ctl.usedMap := by
  obtain ⟨j, hj, hres, hmod⟩ := (h.grouped hlink).holder _ hmark
  have hused : (s.stas j).macid ∈ s.ctl.usedMap := (h.used _).2 ⟨j, hj, rfl⟩
  have h0 := hres.ne_zero
  refine ⟨h0, ?_⟩
  by_cases hlink0 : c.maxLinkNum = 0
  · -- a group is a single id then, and the one that is free
    have hresr := hp.reserved hr hlink (.inr hlink0)
    unfold Reserved at hres hresr
    rw [hlink0, Nat.max_eq_left (Nat.zero_le 1), Nat.mul_one] at hres hresr
    rw [Nat.mod_eq_of_lt hres, Nat.mod_eq_of_lt hresr] at hmod
    rw [hmod] at hused
    exact absurd hused (hp.fresh hr).1
  · have hmem := Macid.mem_groupIds (hc.resolve_left hlink).2 h0 hlink0 hres
    rw [hmod] at hmem
    exact ⟨_, hmem, hused⟩

lemma marks_restored :
    (c.maxMldNum ≠ 0 ∧ (∀ id ∈ Macid.groupIds c (r.2 % c.maxMldNum), id ∉ s.ctl.usedMap) →
      r.1.usedMldMap.erase (r.2 % c.maxMldNum) = s.ctl.usedMldMap ∧
        r.1.usedLegacyMap.erase (r.2 % c.maxMldNum) = s.ctl.usedLegacyMap) ∧
    (¬(c.maxMldNum ≠ 0 ∧ ∀ id ∈ Macid.groupIds c (r.2 % c.maxMldNum), id ∉ s.ctl.usedMap) →
      r.1.usedMldMap = s.ctl.usedMldMap ∧ r.1.usedLegacyMap = s.ctl.usedLegacyMap) := by
  by_cases hlink : c.maxLinkNum = Macid.rtwOneLink
  · obtain ⟨hmld, hleg⟩ := h.unmarked hlink
    obtain ⟨hmld', hleg'⟩ := hp.unmarked hlink hmld hleg
    rw [hmld, hleg, hmld', hleg']
    exact ⟨fun _ => ⟨erase_empty _, erase_empty _⟩, fun _ => ⟨rfl, rfl⟩⟩
  constructor
  · rintro ⟨h0, hfree⟩
    have hunmarked : ¬(r.2 % c.maxMldNum ∈ s.ctl.usedMldMap ∨
        r.2 % c.maxMldNum ∈ s.ctl.usedLegacyMap) := by
      intro hmark
      obtain ⟨-, id, hid, hused⟩ := used_of_marked h hc hp hr hlink hmark
      exact hfree id hid hused
    have hold : ∀ g, g ≠ r.2 % c.maxMldNum → g ∈ r.1.usedMldMap ∨ g ∈ r.1.usedLegacyMap →
        g ∈ s.ctl.usedMldMap ∨ g ∈ s.ctl.usedLegacyMap := fun g hne hg =>
      (hp.onlyNew g hg).resolve_right fun hnew => hne hnew.2.1
    constructor
    · ext g
      rw [mem_erase]
      constructor
      · rintro ⟨hne, hg⟩
        exact (hp.marks g (hold g hne (.inl hg))).1.1 hg
      · intro hg
        exact ⟨fun heq => hunmarked (heq ▸ .inl hg), (hp.marks g (.inl hg)).1.2 hg⟩
    · ext g
      rw [mem_erase]
      constructor
      · rintro ⟨hne, hg⟩
        exact (hp.marks g (hold g hne (.inr hg))).2.1 hg
      · intro hg
        exact ⟨fun heq => hunmarked (heq ▸ .inr hg), (hp.marks g (.inr hg)).2.2 hg⟩
  · intro hbusy
    have hold : ∀ g, g ∈ r.1.usedMldMap ∨ g ∈ r.1.usedLegacyMap →
        g ∈ s.ctl.usedMldMap ∨ g ∈ s.ctl.usedLegacyMap := by
      intro g hg
      rcases hp.onlyNew g hg with hg | ⟨-, rfl, hres⟩
      · exact hg
      · have h0 := hres.ne_zero
        have hsome := not_and.1 hbusy h0
        push Not at hsome
        obtain ⟨id, hid, hused⟩ := hsome
        exact marked_of_used h hc hlink h0 hid hused
    constructor
    · ext g
      exact ⟨fun hg => (hp.marks g (hold g (.inl hg))).1.1 hg,
        fun hg => (hp.marks g (.inl hg)).1.2 hg⟩
    · ext g
      exact ⟨fun hg => (hp.marks g (hold g (.inr hg))).2.1 hg,
        fun hg => (hp.marks g (.inr hg)).2.2 hg⟩

lemma sameMaps_release_grant (hst : st.macid = r.2) :
    SameMaps s.ctl (Macid.releaseMacid c (Macid.grant i st r) st) := by
  obtain ⟨hfresh, hlt⟩ := hp.fresh hr
  obtain ⟨hused, hsta, hrole, hbmc⟩ := hp.same
  have hnosta : s.ctl.sta r.2 = none := by
    by_contra hsome
    obtain ⟨j, hj⟩ := Option.ne_none_iff_exists'.1 hsome
    obtain ⟨hlive, heq⟩ := h.holds _ j hj
    exact hfresh ((h.used _).2 ⟨j, hlive, heq⟩)
  have hnorole : r.2 ∉ s.ctl.wifiRoleUsedmap st.wrole := by
    intro hmem
    obtain ⟨j, hj, heq, -⟩ := (h.roles _ _).1 hmem
    exact hfresh ((h.used _).2 ⟨j, hj, heq⟩)
  have hnobmc : r.2 ∉ s.ctl.bmcMap := by
    intro hmem
    obtain ⟨j, hj, heq, -⟩ := (h.bmc _).1 hmem
    exact hfresh ((h.used _).2 ⟨j, hj, heq⟩)
  have hback : (insert r.2 r.1.usedMap).erase r.2 = s.ctl.usedMap := by
    rw [hused]
    exact erase_insert hfresh
  have hrolemap : update (update r.1.wifiRoleUsedmap st.wrole
      (insert r.2 (r.1.wifiRoleUsedmap st.wrole))) st.wrole
      ((update r.1.wifiRoleUsedmap st.wrole
        (insert r.2 (r.1.wifiRoleUsedmap st.wrole)) st.wrole).erase r.2) =
      s.ctl.wifiRoleUsedmap := by
    rw [update_self, update_idem, hrole, erase_insert hnorole,
      update_eq_self]
  have hstamap : update (update r.1.sta r.2 (some i)) r.2 none = s.ctl.sta := by
    rw [update_idem, hsta, ← hnosta, update_eq_self]
  have hbmcmap : (if st.bmc = true then
      (if st.bmc = true then insert r.2 r.1.bmcMap else r.1.bmcMap).erase r.2
      else if st.bmc = true then insert r.2 r.1.bmcMap else r.1.bmcMap) = s.ctl.bmcMap := by
    by_cases hb : st.bmc = true
    · rw [if_pos hb, if_pos hb, hbmc]
      exact erase_insert hnobmc
    · rw [if_neg hb, if_neg hb, hbmc]
  obtain ⟨hidle, hbusy⟩ := marks_restored h hc hp hr
  have hmem : r.2 ∈ (Macid.grant i st r).usedMap := Finset.mem_insert_self _ _
  rw [← hst] at hmem hlt
  obtain ⟨mld, leg, hctl, hmarks, hkept⟩ := Macid.releaseMacid_spec hlt hmem
  rw [hctl]
  dsimp only [Macid.grant] at hmarks hkept ⊢
  rw [hst] at hmarks hkept ⊢
  rw [hback] at hmarks hkept ⊢
  have hmarks : mld = s.ctl.usedMldMap ∧ leg = s.ctl.usedLegacyMap := by
    by_cases hfree : c.maxMldNum ≠ 0 ∧
        ∀ id ∈ Macid.groupIds c (r.2 % c.maxMldNum), id ∉ s.ctl.usedMap
    · rw [(hmarks hfree).1, (hmarks hfree).2]
      exact hidle hfree
    · rw [(hkept hfree).1, (hkept hfree).2]
      exact hbusy hfree
  exact ⟨rfl, hmarks.1, hmarks.2, hbmcmap, hrolemap, hstamap⟩

end

end

end Maps

/-! ## Queues -/

structure StaQueue.Ok (q : StaQueue) : Prop where
  nodup : q.queue.Nodup
  cnt : q.cnt = q.queue.length

namespace StaQueue

variable {q : StaQueue} {i : ℕ}

lemma Ok.enqueue (h : q.Ok) (hi : i ∉ q.queue) : (q.enqueue i).Ok where
  nodup := by
    refine nodup_append'.2 ⟨h.nodup, nodup_singleton i, ?_⟩
    rw [List.disjoint_singleton]
    exact hi
  cnt := by
    unfold StaQueue.enqueue
    rw [length_append, length_singleton, h.cnt]

section

variable (h : q.Ok) (hi : i ∈ q.queue)
include h hi

lemma Ok.del_eq : q.del i = ⟨q.queue.erase i, q.cnt - 1⟩ := by
  have hpos : q.cnt ≠ 0 := by
    rw [h.cnt]
    exact Nat.ne_of_gt (length_pos_of_mem hi)
  exact if_neg hpos

lemma Ok.del : (q.del i).Ok := by
  rw [h.del_eq hi]
  exact
    { nodup := h.nodup.erase i
      cnt := by
        rw [length_erase_of_mem hi, h.cnt] }

lemma Ok.mem_del (j : ℕ) :
    j ∈ (q.del i).queue ↔ j ≠ i ∧ j ∈ q.queue := by
  rw [h.del_eq hi]
  exact h.nodup.mem_erase_iff

end

lemma Ok.dequeue (h : q.Ok) {q' : StaQueue} (hq : q.dequeue = some (i, q')) :
    i ∈ q.queue ∧ q' = q.del i ∧ q.queue = i :: q'.queue := by
  unfold StaQueue.dequeue at hq
  split at hq
  · exact nomatch hq
  · next j is hlist =>
    obtain ⟨rfl, rfl⟩ := Prod.mk.inj (Option.some.inj hq)
    have hmem : j ∈ q.queue := by
      rw [hlist]
      exact List.mem_cons_self ..
    refine ⟨hmem, ?_, hlist⟩
    rw [h.del_eq hmem, hlist, erase_cons_head]

lemma Ok.del_enqueue (h : q.Ok) (hi : i ∉ q.queue) : (q.enqueue i).del i = q := by
  have hmem : i ∈ (q.enqueue i).queue := mem_append_right _ (List.mem_singleton_self i)
  rw [(h.enqueue hi).del_eq hmem]
  have hlist : (q.queue ++ [i]).erase i = q.queue := by
    rw [erase_append_right _ hi, erase_cons_head, append_nil]
  unfold StaQueue.enqueue
  dsimp only
  rw [hlist]
  rfl

lemma mem_enqueue (j : ℕ) : j ∈ (q.enqueue i).queue ↔ j ∈ q.queue ∨ j = i := by
  unfold StaQueue.enqueue
  rw [mem_append, List.mem_singleton]

end StaQueue

lemma assoc_setAssoc (p : Pool) (r l : ℕ) (q : StaQueue) (r' l' : ℕ) :
    (setAssoc p r l q).assoc r' l' = if r' = r ∧ l' = l then q else p.assoc r' l' := by
  unfold setAssoc
  dsimp only
  by_cases hr : r' = r
  · rw [hr, update_self]
    by_cases hl : l' = l
    · rw [hl, update_self, if_pos ⟨rfl, rfl⟩]
    · rw [update_of_ne hl, if_neg fun h => hl h.2]
  · rw [update_of_ne hr, if_neg fun h => hr h.1]

/-! ## The invariant -/

structure PoolInv (e : Env) (p : Pool) : Prop where
  core : Core e.cap p.mac
  lt : ∀ i ∈ p.mac.live, i < phlMaxStaNum
  free : ∀ i, i ∈ p.free.queue ↔ i < phlMaxStaNum ∧ i ∉ p.mac.live
  assoc : ∀ r l i, i ∈ (p.assoc r l).queue ↔
    i ∈ p.mac.live ∧ (p.mac.stas i).wrole = r ∧ (p.mac.stas i).rlink = l
  freeOk : p.free.Ok
  assocOk : ∀ r l, (p.assoc r l).Ok
  addrs : ∀ i ∈ p.mac.live, ∀ j ∈ p.mac.live, (p.mac.stas i).wrole = (p.mac.stas j).wrole →
    (p.mac.stas i).rlink = (p.mac.stas j).rlink → p.addr i = p.addr j → i = j
  bmc : ∀ i ∈ p.mac.live, ((p.mac.stas i).bmc = true ↔ p.addr i = MacAddr.broadcast)
  entry : ∀ i ∈ p.mac.live, p.addr i = MacAddr.broadcast →
    p.mac.ctl.wroleBmc (p.mac.stas i).wrole (p.mac.stas i).rlink = (p.mac.stas i).macid
  single : ∀ i ∈ p.mac.live, ∀ j ∈ p.mac.live, (p.mac.stas i).wrole = (p.mac.stas j).wrole →
    (p.mac.stas i).rlink = (p.mac.stas j).rlink →
    (e.role (p.mac.stas i).wrole).type = .station ∨ (e.role (p.mac.stas i).wrole).type = .p2pGc →
    p.addr i ≠ MacAddr.broadcast → p.addr j ≠ MacAddr.broadcast → i = j
  rings : ∀ m, m ∈ p.rings ↔ m ∈ p.mac.ctl.usedMap ∧ (e.useOnetxring = true → m = 0)
  ringsNodup : p.rings.Nodup

lemma PoolInv.init (e : Env) : PoolInv e (init e) where
  core := Core.init e.cap
  lt _ h := absurd h (notMem_empty _)
  free _ := List.mem_range.trans (and_iff_left (notMem_empty _)).symm
  assoc _ _ i := iff_of_false not_mem_nil fun h => absurd h.1 (notMem_empty i)
  freeOk := ⟨nodup_range, length_range.symm⟩
  assocOk _ _ := ⟨nodup_nil, rfl⟩
  addrs _ h := absurd h (notMem_empty _)
  bmc _ h := absurd h (notMem_empty _)
  entry _ h := absurd h (notMem_empty _)
  single _ h := absurd h (notMem_empty _)
  rings m := iff_of_false not_mem_nil fun h => absurd h.1 (notMem_empty m)
  ringsNodup := nodup_nil

section

variable {e : Env} {p : Pool} {i : ℕ}

lemma PoolInv.frame (h : PoolInv e p) {p' : Pool} (hcore : Core e.cap p'.mac)
    (hlive : p'.mac.live = p.mac.live)
    (hstas : ∀ j ∈ p.mac.live, p'.mac.stas j = p.mac.stas j)
    (haddr : ∀ j ∈ p.mac.live, p'.addr j = p.addr j)
    (hentry : ∀ j ∈ p.mac.live, p.addr j = MacAddr.broadcast →
      p'.mac.ctl.wroleBmc (p.mac.stas j).wrole (p.mac.stas j).rlink =
        p.mac.ctl.wroleBmc (p.mac.stas j).wrole (p.mac.stas j).rlink)
    (hused : p'.mac.ctl.usedMap = p.mac.ctl.usedMap) (hassoc : p'.assoc = p.assoc)
    (hfree : ∀ j, j ∈ p'.free.queue ↔ j ∈ p.free.queue) (hfreeOk : p'.free.Ok)
    (hrings : p'.rings = p.rings) : PoolInv e p' where
  core := hcore
  lt := by
    rw [hlive]
    exact h.lt
  free j := by
    rw [hfree, hlive]
    exact h.free j
  assoc r l j := by
    rw [hassoc, h.assoc, hlive]
    refine and_congr_right fun hj => ?_
    rw [hstas j hj]
  freeOk := hfreeOk
  assocOk := by
    rw [hassoc]
    exact h.assocOk
  addrs j hj k hk := by
    rw [hlive] at hj hk
    rw [hstas j hj, hstas k hk, haddr j hj, haddr k hk]
    exact h.addrs j hj k hk
  bmc j hj := by
    rw [hlive] at hj
    rw [hstas j hj, haddr j hj]
    exact h.bmc j hj
  entry j hj := by
    rw [hlive] at hj
    rw [hstas j hj, haddr j hj]
    intro hb
    rw [hentry j hj hb]
    exact h.entry j hj hb
  single j hj k hk := by
    rw [hlive] at hj hk
    rw [hstas j hj, hstas k hk, haddr j hj, haddr k hk]
    exact h.single j hj k hk
  rings := by
    rw [hrings, hused]
    exact h.rings
  ringsNodup := by
    rw [hrings]
    exact h.ringsNodup

lemma PoolInv.active (h : PoolInv e p) (f : ℕ → Bool) : PoolInv e { p with active := f } :=
  h.frame h.core rfl (fun _ _ => rfl) (fun _ _ => rfl) (fun _ _ _ => rfl) rfl rfl (fun _ => .rfl)
    h.freeOk rfl

lemma PoolInv.setAddr (h : PoolInv e p) (hi : i ∈ p.mac.live) {a : MacAddr}
    (ha : a ≠ MacAddr.broadcast) (hold : p.addr i ≠ MacAddr.broadcast)
    (hfresh : ∀ j ∈ p.mac.live, (p.mac.stas j).wrole = (p.mac.stas i).wrole →
      (p.mac.stas j).rlink = (p.mac.stas i).rlink → p.addr j = a → j = i) :
    PoolInv e (setAddr p i a) := by
  have hsame : StaPool.setAddr p i a = { p with addr := update p.addr i a } := by
    have hbmc : { p.mac.stas i with bmc := decide (a = MacAddr.broadcast) } = p.mac.stas i := by
      have hfalse : (p.mac.stas i).bmc = false :=
        Bool.eq_false_iff.2 fun hb => hold ((h.bmc i hi).1 hb)
      rw [decide_eq_false ha, ← hfalse]
    unfold StaPool.setAddr
    rw [hbmc, update_eq_self]
  rw [hsame]
  have haddr : ∀ j, j ≠ i → update p.addr i a j = p.addr j := fun j hj =>
    update_of_ne hj a p.addr
  have hself : update p.addr i a i = a := update_self i a p.addr
  exact
    { core := h.core
      lt := h.lt
      free := h.free
      assoc := h.assoc
      freeOk := h.freeOk
      assocOk := h.assocOk
      addrs := by
        intro j hj k hk hr hl heq
        dsimp only at hj hk hr hl heq
        by_cases hji : j = i
        · by_cases hki : k = i
          · rw [hji, hki]
          · rw [hji, hself, haddr k hki] at heq
            rw [hji] at hr hl
            exact absurd (hfresh k hk hr.symm hl.symm heq.symm) hki
        · by_cases hki : k = i
          · rw [hki, hself, haddr j hji] at heq
            rw [hki] at hr hl
            exact absurd (hfresh j hj hr hl heq) hji
          · rw [haddr j hji, haddr k hki] at heq
            exact h.addrs j hj k hk hr hl heq
      bmc := by
        intro j hj
        dsimp only at hj ⊢
        by_cases hji : j = i
        · rw [hji, hself, h.bmc i hi]
          exact iff_of_false hold ha
        · rw [haddr j hji]
          exact h.bmc j hj
      entry := by
        intro j hj hb
        dsimp only at hj hb ⊢
        by_cases hji : j = i
        · rw [hji, hself] at hb
          exact absurd hb ha
        · rw [haddr j hji] at hb
          exact h.entry j hj hb
      single := by
        intro j hj k hk hr hl htype hbj hbk
        dsimp only at hj hk hr hl htype hbj hbk
        have hold' : ∀ m, update p.addr i a m ≠ MacAddr.broadcast →
            p.addr m ≠ MacAddr.broadcast := by
          intro m hm
          by_cases hmi : m = i
          · rw [hmi]
            exact hold
          · rw [haddr m hmi] at hm
            exact hm
        exact h.single j hj k hk hr hl htype (hold' j hbj) (hold' k hbk)
      rings := h.rings
      ringsNodup := h.ringsNodup }

/-! ## Giving a station back -/

lemma usedMap_releaseStep (h : Core e.cap p.mac) (hi : i ∈ p.mac.live) :
    (Macid.releaseStep e.cap p.mac i).ctl.usedMap =
      p.mac.ctl.usedMap.erase (p.mac.stas i).macid := by
  obtain ⟨mld, leg, hctl, -⟩ :=
    Macid.releaseMacid_spec (h.below i hi) ((h.used _).2 ⟨i, hi, rfl⟩)
  unfold Macid.releaseStep
  dsimp only
  rw [hctl]

lemma PoolInv.recycle (h : PoolInv e p) (hc : e.cap.Fit) (hi : i ∈ p.mac.live) :
    PoolInv e (recycle e p i) ∧ (recycle e p i).mac.live = p.mac.live.erase i := by
  have hmem : i ∈ (p.assoc (p.mac.stas i).wrole (p.mac.stas i).rlink).queue :=
    (h.assoc _ _ i).2 ⟨hi, rfl, rfl⟩
  have hnotfree : i ∉ p.free.queue := fun hf => ((h.free i).1 hf).2 hi
  have hstas : ∀ j ∈ p.mac.live.erase i, (StaPool.recycle e p i).mac.stas j = p.mac.stas j :=
    fun j hj => update_of_ne (mem_erase.1 hj).1 _ p.mac.stas
  have hlive : ∀ j ∈ p.mac.live.erase i, j ∈ p.mac.live := fun j hj => Finset.mem_of_mem_erase hj
  have hbmc : (StaPool.recycle e p i).mac.ctl.wroleBmc = p.mac.ctl.wroleBmc :=
    Macid.wroleBmc_releaseMacid _ _
  refine ⟨?_, rfl⟩
  exact
    { core := h.core.release hc hi
      lt := fun j hj => h.lt j (hlive j hj)
      free := by
        intro j
        refine (StaQueue.mem_enqueue j).trans ?_
        change j ∈ p.free.queue ∨ j = i ↔ _ ∧ j ∉ p.mac.live.erase i
        rw [h.free j, mem_erase]
        constructor
        · rintro (⟨hlt, hj⟩ | rfl)
          · exact ⟨hlt, fun hj' => hj hj'.2⟩
          · exact ⟨h.lt _ hi, fun hj' => hj'.1 rfl⟩
        · rintro ⟨hlt, hj⟩
          by_cases hji : j = i
          · exact .inr hji
          · exact .inl ⟨hlt, fun hj' => hj ⟨hji, hj'⟩⟩
      assoc := by
        intro r l j
        change j ∈ ((StaPool.setAssoc p _ _ _).assoc r l).queue ↔ j ∈ p.mac.live.erase i ∧ _
        rw [assoc_setAssoc]
        constructor
        · intro hj
          have hjp : j ≠ i ∧ j ∈ (p.assoc r l).queue := by
            split_ifs at hj with hown
            · obtain ⟨rfl, rfl⟩ := hown
              exact ((h.assocOk _ _).mem_del hmem j).1 hj
            · refine ⟨?_, hj⟩
              rintro rfl
              obtain ⟨-, hr, hl⟩ := (h.assoc _ _ _).1 hj
              exact hown ⟨hr.symm, hl.symm⟩
          obtain ⟨hl, hrole⟩ := (h.assoc r l j).1 hjp.2
          have hj' := mem_erase.2 ⟨hjp.1, hl⟩
          rw [hstas j hj']
          exact ⟨hj', hrole⟩
        · rintro ⟨hj, hrole⟩
          rw [hstas j hj] at hrole
          have hjp : j ∈ (p.assoc r l).queue := (h.assoc r l j).2 ⟨hlive j hj, hrole⟩
          split_ifs with hown
          · obtain ⟨rfl, rfl⟩ := hown
            exact ((h.assocOk _ _).mem_del hmem j).2 ⟨(mem_erase.1 hj).1, hjp⟩
          · exact hjp
      freeOk := h.freeOk.enqueue hnotfree
      assocOk := by
        intro r l
        change ((StaPool.setAssoc p _ _ _).assoc r l).Ok
        rw [assoc_setAssoc]
        split_ifs
        · exact (h.assocOk _ _).del hmem
        · exact h.assocOk r l
      addrs := by
        intro j hj k hk
        rw [hstas j hj, hstas k hk]
        exact h.addrs j (hlive j hj) k (hlive k hk)
      bmc := by
        intro j hj
        rw [hstas j hj]
        exact h.bmc j (hlive j hj)
      entry := by
        intro j hj hb
        rw [hstas j hj, hbmc]
        exact h.entry j (hlive j hj) hb
      single := by
        intro j hj k hk
        rw [hstas j hj, hstas k hk]
        exact h.single j (hlive j hj) k (hlive k hk)
      rings := by
        intro m
        change m ∈ p.rings.erase (p.mac.stas i).macid ↔
          m ∈ (Macid.releaseStep e.cap p.mac i).ctl.usedMap ∧ _
        rw [usedMap_releaseStep h.core hi, h.ringsNodup.mem_erase_iff, h.rings m,
          mem_erase, and_assoc]
      ringsNodup := h.ringsNodup.erase _ }

lemma PoolInv.chkAddr (h : PoolInv e p) (hi : i ∈ p.mac.live) (hself : IsSelf e p i) :
    PoolInv e (chkAddr e p i) := by
  obtain ⟨hold, hchk⟩ := hself
  unfold StaPool.chkAddr
  have hstation : (e.role (p.mac.stas i).wrole).type = .station ∨
      (e.role (p.mac.stas i).wrole).type = .p2pGc → PoolInv e (StaPool.setAddr p i
        ((e.role (p.mac.stas i).wrole).macAddr (p.mac.stas i).rlink)) := by
    intro htype
    apply h.setAddr hi ((e.role _).macAddr_ne _) hold
    intro j hj hr hl heq
    rw [← hr] at htype
    apply h.single j hj i hi hr hl htype _ hold
    rw [heq]
    exact (e.role _).macAddr_ne _
  have hsame : PoolInv e (StaPool.setAddr p i (p.addr i)) := by
    apply h.setAddr hi hold hold
    exact fun j hj hr hl heq => h.addrs j hj i hi hr hl heq
  unfold selfStainfoChk at hchk ⊢
  cases htype : (e.role (p.mac.stas i).wrole).type
  case station => exact hstation (.inl htype)
  case p2pGc => exact hstation (.inr htype)
  all_goals exact hsame

section

variable (h : PoolInv e p) (hc : e.cap.Fit)
include h hc

lemma PoolInv.freeStainfoSw (hi : i ∈ p.mac.live) :
    PoolInv e (freeStainfoSw e p i) := by
  unfold StaPool.freeStainfoSw
  split_ifs with hself
  · exact h.chkAddr hi hself
  · exact (h.recycle hc hi).1

lemma PoolInv.freeStainfo (hi : i ∈ p.mac.live) :
    PoolInv e (freeStainfo e p i) := by
  unfold StaPool.freeStainfo
  unfold freeStainfoHw
  split_ifs with hself
  · exact (h.chkAddr hi hself).freeStainfoSw hc hi
  · exact (h.active _).freeStainfoSw hc hi

lemma PoolInv.freeFirst (r l : ℕ) :
    PoolInv e (freeFirst e p r l) := by
  unfold StaPool.freeFirst
  split
  · exact h
  · next i q hq =>
    obtain ⟨hmem, hdel, -⟩ := (h.assocOk r l).dequeue hq
    obtain ⟨hi, hr, hl⟩ := (h.assoc r l i).1 hmem
    have hrecycle := ((h.active (update p.active i false)).recycle hc hi).1
    unfold StaPool.recycle at hrecycle
    dsimp only at hrecycle
    rw [hr, hl, ← hdel] at hrecycle
    exact hrecycle

lemma PoolInv.wifiRoleFreeStainfo (r : ℕ) :
    PoolInv e (wifiRoleFreeStainfo e p r) := by
  have hdrain : ∀ l n (p : Pool), PoolInv e p →
      PoolInv e ((fun p => StaPool.freeFirst e p r l)^[n] p) := by
    intro l n
    induction n with
    | zero => exact fun _ h => h
    | succ n ih => exact fun p h => ih _ (h.freeFirst hc r l)
  unfold StaPool.wifiRoleFreeStainfo
  generalize List.range (e.role r).rlinkNum = ls
  induction ls generalizing p with
  | nil => exact h
  | cons l ls ih => exact ih (hdrain l _ p h)

end

end

/-! ## A new station -/

structure Unchanged (p p' : Pool) : Prop where
  free : p'.free.queue.Perm p.free.queue
  freeCnt : p'.free.cnt = p.free.cnt
  assoc : p'.assoc = p.assoc
  maps : SameMaps p.mac.ctl p'.mac.ctl
  rings : p'.rings = p.rings

def LegalReq (p : Pool) : Macid.Request → Prop
  | .legacy => True
  | .mldMain _ => True
  | .mldLink m k => k ∈ p.mac.live ∧ (p.mac.stas k).mld = some m

def SafeReq (e : Env) : Macid.Request → Prop
  | .legacy => True
  | .mldMain _ => True
  | .mldLink _ _ => e.cap.maxMldNum ≠ 0

instance (p : Pool) : ∀ req, Decidable (LegalReq p req)
  | .legacy => inferInstanceAs (Decidable True)
  | .mldMain _ => inferInstanceAs (Decidable True)
  | .mldLink _ _ => inferInstanceAs (Decidable (_ ∈ _ ∧ _ = _))

instance (e : Env) : ∀ req, Decidable (SafeReq e req)
  | .legacy => inferInstanceAs (Decidable True)
  | .mldMain _ => inferInstanceAs (Decidable True)
  | .mldLink _ _ => inferInstanceAs (Decidable (_ ≠ _))

section

variable {e : Env} {p : Pool} {i r l : ℕ} {a : MacAddr} {req : Macid.Request} (ringOk : Bool)

/-- The three ends of `_phl_alloc_stainfo_sw`. -/
inductive RingEnd (e : Env) (p : Pool) (i r l : ℕ) (a : MacAddr) (req : Macid.Request) :
    Pool × Bool → Prop
  | failed (mac : Macid.State) (hcore : Core e.cap mac) (hlive : mac.live = p.mac.live)
      (hstas : ∀ j, j ≠ i → mac.stas j = p.mac.stas j)
      (hmaps : SameMaps p.mac.ctl mac.ctl)
      (hentry : ∀ r' l', r' = r ∧ l' = l ∧ a = MacAddr.broadcast ∨
        mac.ctl.wroleBmc r' l' = p.mac.ctl.wroleBmc r' l') :
      RingEnd e p i r l a req ({ p with mac := mac }, false)
  | done (m : ℕ) (mac : Macid.State) (rings : List ℕ) (hcore : Core e.cap mac)
      (hlive : mac.live = insert i p.mac.live)
      (hstas : mac.stas =
        update p.mac.stas i ⟨r, l, decide (a = MacAddr.broadcast), req.mld, m⟩)
      (hfresh : m ∉ p.mac.ctl.usedMap)
      (hused : mac.ctl.usedMap = insert m p.mac.ctl.usedMap)
      (hback : SameMaps p.mac.ctl (Macid.releaseStep e.cap mac i).ctl)
      (hnew : a = MacAddr.broadcast → mac.ctl.wroleBmc r l = m)
      (hentry : ∀ r' l', r' = r ∧ l' = l ∧ a = MacAddr.broadcast ∨
        mac.ctl.wroleBmc r' l' = p.mac.ctl.wroleBmc r' l')
      (hrings : rings = p.rings ++ [m] ∧ (e.useOnetxring = true → m = 0) ∨
        rings = p.rings ∧ ¬(e.useOnetxring = true → m = 0)) :
      RingEnd e p i r l a req ({ p with mac := mac, rings := rings }, true)

lemma wroleBmc_grant (st : Sta) (q : MacidCtl × ℕ) (r' l' : ℕ) :
    (Macid.grant i st q).wroleBmc r' l' =
      if r' = st.wrole ∧ l' = st.rlink ∧ st.bmc = true then q.2 else q.1.wroleBmc r' l' := by
  unfold Macid.grant
  dsimp only
  by_cases hb : st.bmc = true
  · rw [if_pos hb]
    by_cases hr : r' = st.wrole
    · rw [hr, update_self]
      by_cases hl : l' = st.rlink
      · rw [hl, update_self, if_pos ⟨rfl, rfl, hb⟩]
      · rw [update_of_ne hl, if_neg fun h => hl h.2.1]
    · rw [update_of_ne hr, if_neg fun h => hr h.1]
  · rw [if_neg hb, if_neg fun h => hb h.2.2]

lemma allocMacidRing_eq {mac : Macid.State} {m : ℕ}
    (hmac : Macid.allocStep e.cap p.mac i r l (decide (a = MacAddr.broadcast)) req = mac)
    (hm : (mac.stas i).macid = m) :
    allocMacidRing e p i r l a req ringOk =
      if m = e.cap.maxNum then ({ p with mac := mac }, false)
      else if m ≠ 0 ∧ e.useOnetxring then ({ p with mac := mac }, true)
      else if ringOk then ({ p with mac := mac, rings := p.rings ++ [m] }, true)
      else ({ p with mac := Macid.releaseStep e.cap mac i }, false) := by
  subst hmac hm
  rfl

lemma allocMacidRing_end (h : Core e.cap p.mac) (hc : e.cap.Fit) (hi : i ∉ p.mac.live)
    (hlegal : LegalReq p req) (hsafe : SafeReq e req) :
    RingEnd e p i r l a req (allocMacidRing e p i r l a req ringOk) := by
  have hpick : ∃ q, q = (if req.dtype = .mld then
        Macid.allocMldMacid e.cap p.mac.ctl (Macid.mainIdOf e.cap p.mac req)
      else Macid.allocLegacyMacid e.cap p.mac.ctl) ∧ Picked e.cap p.mac req.mld q := by
    refine ⟨_, rfl, ?_⟩
    cases req with
    | legacy => exact Macid.picked_legacy h hc
    | mldMain m => exact Macid.picked_mldMain h hc m
    | mldLink m k => exact Macid.picked_mldLink h hc hlegal.1 hlegal.2 hsafe
  obtain ⟨q, hq, hp⟩ := hpick
  rcases Macid.allocStep_spec i r l (decide (a = MacAddr.broadcast)) hq hp with
    ⟨-, heq⟩ | ⟨hr, heq⟩
  · rw [allocMacidRing_eq ringOk heq (congrArg Sta.macid (update_self ..)), if_pos rfl]
    exact .failed _ (h.fail hi _) rfl (fun j hj => update_of_ne hj _ _) (.refl _)
      fun _ _ => .inr rfl
  · have hself : update p.mac.stas i
        (⟨r, l, decide (a = MacAddr.broadcast), req.mld, q.2⟩ : Sta) i =
        ⟨r, l, decide (a = MacAddr.broadcast), req.mld, q.2⟩ := update_self ..
    have hgrant := h.grant hi ⟨r, l, decide (a = MacAddr.broadcast), req.mld, q.2⟩ hp hr rfl
    have hrestored : SameMaps p.mac.ctl (Macid.releaseStep e.cap
        { ctl := Macid.grant i ⟨r, l, decide (a = MacAddr.broadcast), req.mld, q.2⟩ q
          stas := update p.mac.stas i
            ⟨r, l, decide (a = MacAddr.broadcast), req.mld, q.2⟩
          live := insert i p.mac.live } i).ctl := by
      unfold Macid.releaseStep
      dsimp only
      rw [hself]
      exact sameMaps_release_grant h hc hp hr rfl
    have hframe := hp.frame
    have hbmc : q.1.wroleBmc = p.mac.ctl.wroleBmc := by rw [hframe]
    have hused : q.1.usedMap = p.mac.ctl.usedMap := by rw [hframe]
    have hentry : ∀ r' l', r' = r ∧ l' = l ∧ a = MacAddr.broadcast ∨
        (Macid.grant i ⟨r, l, decide (a = MacAddr.broadcast), req.mld, q.2⟩ q).wroleBmc r' l' =
          p.mac.ctl.wroleBmc r' l' := by
      intro r' l'
      rw [wroleBmc_grant, hbmc]
      by_cases hnew : r' = r ∧ l' = l ∧ decide (a = MacAddr.broadcast) = true
      · exact .inl ⟨hnew.1, hnew.2.1, of_decide_eq_true hnew.2.2⟩
      · exact .inr (if_neg hnew)
    have hnew : a = MacAddr.broadcast →
        (Macid.grant i ⟨r, l, decide (a = MacAddr.broadcast), req.mld, q.2⟩ q).wroleBmc r l =
          q.2 := by
      intro ha
      rw [wroleBmc_grant]
      exact if_pos ⟨rfl, rfl, decide_eq_true ha⟩
    rw [allocMacidRing_eq ringOk heq (congrArg Sta.macid hself), if_neg hr]
    have hdone := fun rings hrings => RingEnd.done q.2 _ rings hgrant rfl rfl (hp.fresh hr).1
      (by rw [← hused]; rfl) hrestored hnew hentry hrings
    by_cases hone : q.2 ≠ 0 ∧ e.useOnetxring = true
    · rw [if_pos hone]
      exact hdone _ (.inr ⟨rfl, fun himp => hone.1 (himp hone.2)⟩)
    rw [if_neg hone]
    cases ringOk with
    | true =>
      rw [if_pos rfl]
      refine hdone _ (.inl ⟨rfl, fun hring => ?_⟩)
      by_contra h0
      exact hone ⟨h0, hring⟩
    | false =>
      rw [if_neg Bool.false_ne_true]
      refine .failed _ (hgrant.release hc (Finset.mem_insert_self i _)) ?_ ?_ hrestored ?_
      · exact erase_insert hi
      · intro j hj
        exact (update_of_ne hj _ _).trans (update_of_ne hj _ _)
      · intro r' l'
        have hkeep := Macid.wroleBmc_releaseMacid (c := e.cap)
          (Macid.grant i ⟨r, l, decide (a = MacAddr.broadcast), req.mld, q.2⟩ q)
          (update p.mac.stas i
            ⟨r, l, decide (a = MacAddr.broadcast), req.mld, q.2⟩ i)
        exact (hentry r' l').imp_right fun heq' => (congrFun (congrFun hkeep r') l').trans heq'

end

section

variable {e : Env} {p : Pool} {r l : ℕ} {a : MacAddr} {req : Macid.Request} (ringOk : Bool)

lemma PoolInv.lookup_none (h : PoolInv e p) (hnone : lookup e p r l a = none) :
    (∀ j ∈ p.mac.live, (p.mac.stas j).wrole = r → (p.mac.stas j).rlink = l → p.addr j ≠ a) ∧
    (WantsSelf e r a →
      ∀ j ∈ p.mac.live, (p.mac.stas j).wrole = r → (p.mac.stas j).rlink ≠ l) := by
  have hself : WantsSelf e r a → getStainfoSelf p r l = none := by
    intro hwants
    unfold lookup at hnone
    rw [if_pos hwants] at hnone
    exact (Option.or_eq_none_iff.1 hnone).1
  have haddr : getStainfoByAddr e p r l a = none := by
    unfold lookup at hnone
    split_ifs at hnone with hwants
    · exact (Option.or_eq_none_iff.1 hnone).2
    · exact hnone
  constructor
  · rintro j hj hr hl rfl
    unfold getStainfoByAddr at haddr
    by_cases hb : p.addr j = MacAddr.broadcast
    · have hentry := h.entry j hj hb
      rw [hr, hl] at hentry
      rw [if_pos hb, hentry, if_neg (Nat.not_le.2 (h.core.below j hj)), h.core.held j hj] at haddr
      exact nomatch haddr
    · rw [if_neg hb] at haddr
      have hmem := (h.assoc r l j).2 ⟨hj, hr, hl⟩
      exact find?_eq_none.1 haddr j hmem (decide_eq_true (.inl rfl))
  · intro hwants j hj hr hl
    have hempty := head?_eq_none_iff.1 (hself hwants)
    have hmem := (h.assoc r l j).2 ⟨hj, hr, hl⟩
    rw [hempty] at hmem
    exact not_mem_nil hmem

structure Made (e : Env) (p : Pool) (r l : ℕ) (a : MacAddr) (p' : Pool) (i : ℕ) : Prop where
  fresh : i ∈ p.free.queue
  live : i ∈ p'.mac.live
  addr : p'.addr i = a
  wrole : (p'.mac.stas i).wrole = r
  rlink : (p'.mac.stas i).rlink = l
  undone : Unchanged p (recycle e p' i)

lemma newStainfo_spec (h : PoolInv e p) (hc : e.cap.Fit) (hlegal : LegalReq p req)
    (hsafe : SafeReq e req) (hnone : lookup e p r l a = none) :
    PoolInv e (newStainfo e p r l a req ringOk).1 ∧
    ((newStainfo e p r l a req ringOk).2 = none →
      Unchanged p (newStainfo e p r l a req ringOk).1) ∧
    ∀ i, (newStainfo e p r l a req ringOk).2 = some i →
      Made e p r l a (newStainfo e p r l a req ringOk).1 i := by
  obtain ⟨hno, hnoself⟩ := h.lookup_none hnone
  unfold newStainfo
  split
  · refine ⟨h, fun _ => ⟨.refl _, rfl, rfl, .refl _, rfl⟩, fun i hi => nomatch hi⟩
  next i q hq =>
  obtain ⟨hmem, hdel, hlist⟩ := h.freeOk.dequeue hq
  obtain ⟨hlt, hi⟩ := (h.free i).1 hmem
  have hqOk : q.Ok := hdel ▸ h.freeOk.del hmem
  have hmemq : ∀ j, j ∈ q.queue ↔ j ≠ i ∧ j ∈ p.free.queue := by
    rw [hdel]
    exact h.freeOk.mem_del hmem
  have hiq : i ∉ q.queue := fun hi' => ((hmemq i).1 hi').1 rfl
  have hcnt : q.cnt + 1 = p.free.cnt := by
    rw [hqOk.cnt, h.freeOk.cnt, hlist, length_cons]
  have hrotated : (q.queue ++ [i]).Perm p.free.queue := by
    rw [hlist]
    exact perm_append_singleton i q.queue
  have hne : ∀ j ∈ p.mac.live, j ≠ i := fun j hj => ne_of_mem_of_not_mem hj hi
  have haddr : ∀ j ∈ p.mac.live, update p.addr i a j = p.addr j := fun j hj =>
    update_of_ne (hne j hj) a p.addr
  have hend := allocMacidRing_end (e := e)
    (p := { p with free := q, addr := update p.addr i a }) (i := i) (r := r) (l := l)
    (a := a) ringOk h.core hc hi hlegal hsafe
  dsimp only
  generalize allocMacidRing e { p with free := q, addr := update p.addr i a } i r l a req
    ringOk = s at hend
  cases hend with
  | failed mac hcore hlive hstas hmaps hentry =>
    dsimp only at hlive hstas hmaps hentry ⊢
    rw [if_neg Bool.false_ne_true]
    refine ⟨?_, fun _ => ⟨hrotated, hcnt, rfl, hmaps, rfl⟩, fun i hi => nomatch hi⟩
    refine h.frame hcore hlive (fun j hj => hstas j (hne j hj)) haddr ?_ hmaps.used rfl ?_
      (hqOk.enqueue hiq) rfl
    · intro j hj hb
      rcases hentry (p.mac.stas j).wrole (p.mac.stas j).rlink with ⟨hr, hl, ha⟩ | hsame
      · exact absurd (hb.trans ha.symm) (hno j hj hr hl)
      · exact hsame
    · exact fun j => hrotated.mem_iff
  | done m mac rings hcore hlive hstas hfresh hused hback hnew hentry hrings =>
    dsimp only at hlive hstas hfresh hused hback hentry hrings ⊢
    rw [if_pos rfl]
    have hself : mac.stas i = ⟨r, l, decide (a = MacAddr.broadcast), req.mld, m⟩ := by
      rw [hstas]
      exact update_self ..
    have hold : ∀ j ∈ p.mac.live, mac.stas j = p.mac.stas j := by
      intro j hj
      rw [hstas]
      exact update_of_ne (hne j hj) _ _
    have hilive : i ∈ mac.live := by
      rw [hlive]
      exact Finset.mem_insert_self i _
    have hnotassoc : ∀ r l, i ∉ (p.assoc r l).queue := fun r l hmem =>
      hi ((h.assoc r l i).1 hmem).1
    have hmring : m ∉ p.rings := fun hm => hfresh ((h.rings m).1 hm).1
    have hringsback : rings.erase m = p.rings := by
      rcases hrings with ⟨heq, -⟩ | ⟨heq, -⟩
      · rw [heq, erase_append_right _ hmring, erase_cons_head, append_nil]
      · rw [heq, erase_of_not_mem hmring]
    have hundone : Unchanged p (recycle e (setAssoc
        { p with
          mac := mac, rings := rings, free := q, addr := update p.addr i a }
        r l ((p.assoc r l).enqueue i)) i) := by
      have hassoc : setAssoc (setAssoc p r l ((p.assoc r l).enqueue i)) r l
          (((setAssoc p r l ((p.assoc r l).enqueue i)).assoc r l).del i) = p := by
        rw [assoc_setAssoc, if_pos ⟨rfl, rfl⟩, (h.assocOk r l).del_enqueue (hnotassoc r l)]
        unfold setAssoc
        dsimp only
        rw [update_self, update_idem, update_idem,
          update_eq_self, update_eq_self]
      have hassoc' := congrArg Pool.assoc hassoc
      unfold StaPool.recycle
      dsimp only [setAssoc, phlFreeStainfoSw] at hassoc' ⊢
      rw [hself]
      exact ⟨hrotated, hcnt, hassoc', hback, hringsback⟩
    have hmade : Made e p r l a (setAssoc
        { p with
          mac := mac, rings := rings, free := q, addr := update p.addr i a }
        r l ((p.assoc r l).enqueue i)) i :=
      { fresh := hmem
        live := hilive
        addr := by
          change update p.addr i a i = a
          exact update_self i a p.addr
        wrole := congrArg Sta.wrole hself
        rlink := congrArg Sta.rlink hself
        undone := hundone }
    refine ⟨?_, fun hn => (nomatch hn), ?_⟩
    · have hcases : ∀ j ∈ mac.live, j = i ∨ j ∈ p.mac.live := by
        intro j hj
        rw [hlive] at hj
        exact mem_insert.1 hj
      have haddri : update p.addr i a i = a := update_self i a p.addr
      exact
        { core := hcore
          lt := by
            intro j hj
            rcases hcases j hj with rfl | hj
            · exact hlt
            · exact h.lt j hj
          free := by
            intro j
            change j ∈ q.queue ↔ _ ∧ j ∉ mac.live
            rw [hmemq j, h.free j, hlive, mem_insert]
            constructor
            · rintro ⟨hji, hjlt, hj⟩
              exact ⟨hjlt, fun hj' => hj'.elim hji hj⟩
            · rintro ⟨hjlt, hj⟩
              exact ⟨fun hji => hj (.inl hji), hjlt, fun hj' => hj (.inr hj')⟩
          assoc := by
            intro r' l' j
            rw [assoc_setAssoc]
            change _ ↔ j ∈ mac.live ∧ (mac.stas j).wrole = r' ∧ (mac.stas j).rlink = l'
            have hjp : j ∈ (p.assoc r' l').queue ↔ j ∈ p.mac.live ∧
                (mac.stas j).wrole = r' ∧ (mac.stas j).rlink = l' := by
              rw [h.assoc r' l' j]
              refine and_congr_right fun hj => ?_
              rw [hold j hj]
            constructor
            · intro hj
              have hj' : j = i ∧ r' = r ∧ l' = l ∨ j ∈ (p.assoc r' l').queue := by
                split_ifs at hj with hown
                · obtain ⟨rfl, rfl⟩ := hown
                  rcases (StaQueue.mem_enqueue j).1 hj with hj | rfl
                  · exact .inr hj
                  · exact .inl ⟨rfl, rfl, rfl⟩
                · exact .inr hj
              rcases hj' with ⟨rfl, rfl, rfl⟩ | hj
              · rw [hself]
                exact ⟨hilive, rfl, rfl⟩
              · obtain ⟨hj, hrole⟩ := hjp.1 hj
                rw [hlive]
                exact ⟨Finset.mem_insert_of_mem hj, hrole⟩
            · rintro ⟨hj, hr, hl⟩
              rcases hcases j hj with rfl | hj
              · rw [hself] at hr hl
                rw [if_pos ⟨hr.symm, hl.symm⟩]
                exact (StaQueue.mem_enqueue j).2 (.inr rfl)
              · have hmem' := hjp.2 ⟨hj, hr, hl⟩
                split_ifs with hown
                · obtain ⟨rfl, rfl⟩ := hown
                  exact (StaQueue.mem_enqueue j).2 (.inl hmem')
                · exact hmem'
          freeOk := hqOk
          assocOk := by
            intro r' l'
            rw [assoc_setAssoc]
            split_ifs
            · exact (h.assocOk r l).enqueue (hnotassoc r l)
            · exact h.assocOk r' l'
          addrs := by
            intro j hj k hk
            change (mac.stas j).wrole = (mac.stas k).wrole → (mac.stas j).rlink =
              (mac.stas k).rlink → update p.addr i a j = update p.addr i a k → _
            rcases hcases j hj with rfl | hjl
            · rcases hcases k hk with rfl | hkl
              · exact fun _ _ _ => rfl
              · rw [hself, hold k hkl, haddri, haddr k hkl]
                exact fun hr hl heq => absurd heq.symm (hno k hkl hr.symm hl.symm)
            · rcases hcases k hk with rfl | hkl
              · rw [hself, hold j hjl, haddri, haddr j hjl]
                exact fun hr hl heq => absurd heq (hno j hjl hr hl)
              · rw [hold j hjl, hold k hkl, haddr j hjl, haddr k hkl]
                exact h.addrs j hjl k hkl
          bmc := by
            intro j hj
            change (mac.stas j).bmc = true ↔ update p.addr i a j = _
            rcases hcases j hj with rfl | hj
            · rw [hself, haddri]
              exact decide_eq_true_iff
            · rw [hold j hj, haddr j hj]
              exact h.bmc j hj
          entry := by
            intro j hj
            change update p.addr i a j = _ →
              mac.ctl.wroleBmc (mac.stas j).wrole (mac.stas j).rlink = (mac.stas j).macid
            rcases hcases j hj with rfl | hj
            · rw [hself, haddri]
              exact hnew
            · rw [hold j hj, haddr j hj]
              intro hb
              rcases hentry (p.mac.stas j).wrole (p.mac.stas j).rlink with ⟨hr, hl, ha⟩ | hsame
              · exact absurd (hb.trans ha.symm) (hno j hj hr hl)
              · rw [hsame]
                exact h.entry j hj hb
          single := by
            intro j hj k hk
            change (mac.stas j).wrole = (mac.stas k).wrole → (mac.stas j).rlink =
              (mac.stas k).rlink → (e.role (mac.stas j).wrole).type = _ ∨
                (e.role (mac.stas j).wrole).type = _ → update p.addr i a j ≠ _ →
              update p.addr i a k ≠ _ → j = k
            rcases hcases j hj with rfl | hjl
            · rcases hcases k hk with rfl | hkl
              · exact fun _ _ _ _ _ => rfl
              · rw [hself, hold k hkl, haddri]
                exact fun hr hl htype ha _ => absurd hl.symm (hnoself ⟨htype, ha⟩ k hkl hr.symm)
            · rcases hcases k hk with rfl | hkl
              · rw [hself, hold j hjl, haddri]
                intro hr hl htype _ ha
                rw [hr] at htype
                exact absurd hl (hnoself ⟨htype, ha⟩ j hjl hr)
              · rw [hold j hjl, hold k hkl, haddr j hjl, haddr k hkl]
                exact h.single j hjl k hkl
          rings := by
            intro n
            change n ∈ rings ↔ n ∈ mac.ctl.usedMap ∧ _
            rw [hused, mem_insert]
            rcases hrings with ⟨heq, hm⟩ | ⟨heq, hm⟩
            · rw [heq, mem_append, List.mem_singleton, h.rings n]
              constructor
              · rintro (⟨hn, hone⟩ | rfl)
                · exact ⟨.inr hn, hone⟩
                · exact ⟨.inl rfl, hm⟩
              · rintro ⟨rfl | hn, hone⟩
                · exact .inr rfl
                · exact .inl ⟨hn, hone⟩
            · rw [heq, h.rings n]
              constructor
              · exact fun hn => ⟨.inr hn.1, hn.2⟩
              · rintro ⟨rfl | hn, hone⟩
                · exact absurd hone hm
                · exact ⟨hn, hone⟩
          ringsNodup := by
            change rings.Nodup
            rcases hrings with ⟨heq, -⟩ | ⟨heq, -⟩
            · rw [heq]
              refine nodup_append'.2 ⟨h.ringsNodup, nodup_singleton m, ?_⟩
              rw [List.disjoint_singleton]
              exact hmring
            · rw [heq]
              exact h.ringsNodup }
    · intro j hj
      obtain rfl : i = j := Option.some.inj hj
      exact hmade

end

/-! ## The calls -/

section

variable {e : Env} {p : Pool} {r l : ℕ} {a : MacAddr} {req : Macid.Request} (ringOk : Bool)

def SafeSelf (e : Env) (p : Pool) (r l : ℕ) (a : MacAddr) : Prop :=
  WantsSelf e r a → ∀ i ∈ getStainfoSelf p r l, p.addr i ≠ MacAddr.broadcast

lemma PoolInv.lookup_live (h : PoolInv e p) {i : ℕ} (hi : lookup e p r l a = some i) :
    i ∈ p.mac.live := by
  have haddr : getStainfoByAddr e p r l a = some i → i ∈ p.mac.live := by
    intro hfound
    unfold getStainfoByAddr at hfound
    split_ifs at hfound with hb hmax
    · exact (h.core.holds _ i hfound).1
    · exact ((h.assoc r l i).1 (mem_of_find?_eq_some hfound)).1
  unfold lookup at hi
  split_ifs at hi with hwants
  · rcases Option.or_eq_some_iff.1 hi with hself | ⟨-, hfound⟩
    · exact ((h.assoc r l i).1 (mem_of_mem_head? hself)).1
    · exact haddr hfound
  · exact haddr hi

lemma PoolInv.rewriteSelf (h : PoolInv e p) {i : ℕ} (hwants : WantsSelf e r a)
    (hi : getStainfoSelf p r l = some i) (hsafe : SafeSelf e p r l a) :
    PoolInv e (StaPool.setAddr p i a) := by
  obtain ⟨hlive, hr, hl⟩ := (h.assoc r l i).1 (mem_of_mem_head? hi)
  apply h.setAddr hlive hwants.2 (hsafe hwants i hi)
  intro j hj hrj hlj heq
  apply h.single j hj i hlive hrj hlj
  · rw [hrj, hr]
    exact hwants.1
  · rw [heq]
    exact hwants.2
  · exact hsafe hwants i hi

lemma PoolInv.phlAllocStainfoSw (h : PoolInv e p) (hc : e.cap.Fit) (hlegal : LegalReq p req)
    (hreq : SafeReq e req) (hself : SafeSelf e p r l a) :
    PoolInv e (phlAllocStainfoSw e p r l a req ringOk).1 ∧
    ∀ i, (StaPool.phlAllocStainfoSw e p r l a req ringOk).2 = some i →
      i ∈ (StaPool.phlAllocStainfoSw e p r l a req ringOk).1.mac.live := by
  unfold StaPool.phlAllocStainfoSw
  split
  · next i hi =>
    have hlive := h.lookup_live hi
    split_ifs with hwants
    · refine ⟨h.rewriteSelf hwants.1 hwants.2 hself, fun j hj => ?_⟩
      rw [← Option.some.inj hj]
      exact hlive
    · refine ⟨h, fun j hj => ?_⟩
      rw [← Option.some.inj hj]
      exact hlive
  · next hnone =>
    obtain ⟨hinv, -, hmade⟩ := newStainfo_spec ringOk h hc hlegal hreq hnone
    exact ⟨hinv, fun i hi => (hmade i hi).live⟩

lemma PoolInv.allocStainfo (h : PoolInv e p) (hc : e.cap.Fit) (hlegal : LegalReq p req)
    (hreq : SafeReq e req) (hself : SafeSelf e p r l a) (hw : HwAnswer) :
    PoolInv e (allocStainfo e p r l a req ringOk hw).1 := by
  obtain ⟨hinv, hlive⟩ := h.phlAllocStainfoSw ringOk hc hlegal hreq hself
  unfold StaPool.allocStainfo
  dsimp only
  split
  · exact hinv
  · next i hi =>
    split_ifs
    · exact hinv
    · cases hw with
      | ok => exact hinv.active _
      | addFails => exact hinv.freeStainfoSw hc (hlive i hi)
      | ofldFails => exact (hinv.active _).freeStainfoSw hc (hlive i hi)

def HwFits (e : Env) (p : Pool) (r l : ℕ) (a : MacAddr) : Prop :=
  match lookup e p r l a with
  | some i => IsSelf e p i
  | none => ¬(a ≠ MacAddr.broadcast ∧ (selfStainfoChk e r l a).1 = true)

lemma Unchanged.chkAddr {p' : Pool} {i : ℕ} (h : Unchanged p p') :
    Unchanged p (chkAddr e p' i) :=
  ⟨h.free, h.freeCnt, h.assoc, ⟨h.maps.used, h.maps.mld, h.maps.legacy, h.maps.bmc, h.maps.roles,
    h.maps.sta⟩, h.rings⟩

lemma unchanged_freeStainfoSw_iff {i : ℕ} {p' : Pool} (h : PoolInv e p)
    (h' : PoolInv e p') (hi : i ∈ p.mac.live) (hi' : i ∈ p'.mac.live) (hc : e.cap.Fit)
    (hsame : Unchanged p p') : Unchanged p (freeStainfoSw e p' i) ↔ IsSelf e p' i := by
  unfold freeStainfoSw
  split_ifs with hself
  · exact iff_of_true hsame.chkAddr hself
  · refine iff_of_false (fun hback => ?_) hself
    obtain ⟨hinv, hlive⟩ := h'.recycle hc hi'
    have hmem := (h.assoc (p.mac.stas i).wrole (p.mac.stas i).rlink i).2 ⟨hi, rfl, rfl⟩
    rw [← hback.assoc] at hmem
    have hgone := ((hinv.assoc _ _ i).1 hmem).1
    rw [hlive] at hgone
    exact notMem_erase i _ hgone

lemma Made.unchanged_iff {i : ℕ} {p' : Pool} (hmade : Made e p r l a p' i)
    (h' : PoolInv e p') (f : ℕ → Bool) : Unchanged p (freeStainfoSw e { p' with active := f } i) ↔
      ¬(a ≠ MacAddr.broadcast ∧ (selfStainfoChk e r l a).1 = true) := by
  have hself : IsSelf e { p' with active := f } i ↔
      a ≠ MacAddr.broadcast ∧ (selfStainfoChk e r l a).1 = true := by
    unfold IsSelf
    dsimp only
    rw [hmade.addr, hmade.wrole, hmade.rlink]
  rw [← hself]
  unfold freeStainfoSw
  split_ifs with hchk
  · refine iff_of_false (fun hback => ?_) (not_not.2 hchk)
    have hmem : i ∈ p'.free.queue := hback.free.mem_iff.2 hmade.fresh
    exact ((h'.free i).1 hmem).2 hmade.live
  · exact iff_of_true ⟨hmade.undone.free, hmade.undone.freeCnt, hmade.undone.assoc,
      hmade.undone.maps, hmade.undone.rings⟩ hchk

lemma phlAllocStainfoSw_fails (h : PoolInv e p) (hc : e.cap.Fit) (hlegal : LegalReq p req)
    (hreq : SafeReq e req) (hnone : (phlAllocStainfoSw e p r l a req ringOk).2 = none) :
    Unchanged p (phlAllocStainfoSw e p r l a req ringOk).1 := by
  unfold phlAllocStainfoSw at hnone ⊢
  split at hnone
  · exact nomatch hnone
  · next hlook =>
    exact (newStainfo_spec ringOk h hc hlegal hreq hlook).2.1 hnone

lemma allocStainfo_fails_iff (h : PoolInv e p) (hc : e.cap.Fit) (hlegal : LegalReq p req)
    (hreq : SafeReq e req) (hself : SafeSelf e p r l a) (hw : HwAnswer)
    (hnone : (allocStainfo e p r l a req ringOk hw).2 = none) :
    Unchanged p (allocStainfo e p r l a req ringOk hw).1 ↔
      (phlAllocStainfoSw e p r l a req ringOk).2 = none ∨ HwFits e p r l a := by
  by_cases hsw : (phlAllocStainfoSw e p r l a req ringOk).2 = none
  · have hcall : allocStainfo e p r l a req ringOk hw =
        phlAllocStainfoSw e p r l a req ringOk := by
      unfold allocStainfo
      dsimp only
      rw [hsw]
    rw [hcall]
    exact iff_of_true (phlAllocStainfoSw_fails ringOk h hc hlegal hreq hsw) (.inl hsw)
  obtain ⟨i, hi⟩ := Option.ne_none_iff_exists'.1 hsw
  obtain ⟨hinv, hlive⟩ := h.phlAllocStainfoSw ringOk hc hlegal hreq hself
  have hfail : ∃ f, (allocStainfo e p r l a req ringOk hw).1 =
      freeStainfoSw e { (phlAllocStainfoSw e p r l a req ringOk).1 with active := f } i := by
    unfold allocStainfo at hnone ⊢
    dsimp only at hnone ⊢
    rw [hi] at hnone ⊢
    dsimp only at hnone ⊢
    split_ifs at hnone ⊢ with hactive
    · exact absurd (hi.symm.trans hnone) (Option.some_ne_none i)
    · cases hw with
      | ok => exact nomatch hnone
      | addFails => exact ⟨_, rfl⟩
      | ofldFails => exact ⟨_, rfl⟩
  obtain ⟨f, hf⟩ := hfail
  rw [hf, or_iff_right hsw]
  unfold HwFits
  cases hlook : lookup e p r l a with
  | none =>
    have hnew : phlAllocStainfoSw e p r l a req ringOk = newStainfo e p r l a req ringOk := by
      unfold phlAllocStainfoSw
      rw [hlook]
    rw [hnew] at hi ⊢
    obtain ⟨hinv', -, hmade⟩ := newStainfo_spec ringOk h hc hlegal hreq hlook
    exact (hmade i hi).unchanged_iff hinv' f
  | some j =>
    have hj := h.lookup_live hlook
    have hsome : phlAllocStainfoSw e p r l a req ringOk =
        (if WantsSelf e r a ∧ getStainfoSelf p r l = some j then setAddr p j a else p,
          some j) := by
      unfold phlAllocStainfoSw
      rw [hlook]
    rw [hsome] at hi hinv ⊢
    obtain rfl : j = i := Option.some.inj hi
    dsimp only at hinv ⊢
    by_cases hwants : WantsSelf e r a ∧ getStainfoSelf p r l = some j
    · rw [if_pos hwants] at hinv ⊢
      have hsame : Unchanged p { setAddr p j a with active := f } :=
        ⟨.refl _, rfl, rfl, ⟨rfl, rfl, rfl, rfl, rfl, rfl⟩, rfl⟩
      rw [unchanged_freeStainfoSw_iff h (hinv.active f) hj hj hc hsame]
      obtain ⟨-, hr, hl⟩ := (h.assoc r l j).1 (mem_of_mem_head? hwants.2)
      have htype : ∀ x, (selfStainfoChk e r l x).1 = true := by
        intro x
        unfold selfStainfoChk
        rcases hwants.1.1 with htype | htype
        · rw [htype]
        · rw [htype]
      have hkind : IsSelf e { setAddr p j a with active := f } j := by
        have hst : (setAddr p j a).mac.stas j =
            { p.mac.stas j with bmc := decide (a = MacAddr.broadcast) } :=
          update_self ..
        have haddr : (setAddr p j a).addr j = a := update_self ..
        unfold IsSelf
        dsimp only
        rw [haddr, hst]
        dsimp only
        rw [hr, hl]
        exact ⟨hwants.1.2, htype a⟩
      refine iff_of_true hkind ⟨hself hwants.1 j hwants.2, ?_⟩
      rw [hr, hl]
      exact htype _
    · rw [if_neg hwants] at hinv ⊢
      have hsame : Unchanged p { p with active := f } :=
        ⟨.refl _, rfl, rfl, .refl _, rfl⟩
      exact unchanged_freeStainfoSw_iff h (hinv.active f) hj hj hc hsame

end

/-! ## Every run -/

def Legal (p : Pool) : Event → Prop
  | .allocSw _ _ _ req _ => LegalReq p req
  | .alloc _ _ _ req _ _ => LegalReq p req
  | .free i => i ∈ p.mac.live
  | .roleFree _ => True
  | .linkMld _ _ => True

def Safe (e : Env) (p : Pool) : Event → Prop
  | .allocSw r l a req _ => SafeReq e req ∧ SafeSelf e p r l a
  | .alloc r l a req _ _ => SafeReq e req ∧ SafeSelf e p r l a
  | .free _ => True
  | .roleFree _ => True
  | .linkMld _ _ => True

lemma PoolInv.step {e : Env} {p : Pool} (h : PoolInv e p) (hc : e.cap.Fit) {ev : Event}
    (hlegal : Legal p ev) (hsafe : Safe e p ev) : PoolInv e (step e p ev) := by
  cases ev with
  | allocSw r l a req ringOk => exact (h.phlAllocStainfoSw ringOk hc hlegal hsafe.1 hsafe.2).1
  | alloc r l a req ringOk hw => exact h.allocStainfo ringOk hc hlegal hsafe.1 hsafe.2 hw
  | free i => exact h.freeStainfo hc hlegal
  | roleFree r => exact h.wifiRoleFreeStainfo hc r
  | linkMld i a =>
    exact h.frame h.core rfl (fun _ _ => rfl) (fun _ _ => rfl) (fun _ _ _ => rfl) rfl rfl
      (fun _ => .rfl) h.freeOk rfl

structure Consistent (e : Env) (p : Pool) : Prop where
  once : ∀ i, i < phlMaxStaNum ↔
    (i ∈ p.free.queue ∨ i ∈ (p.assoc (p.mac.stas i).wrole (p.mac.stas i).rlink).queue)
  exclusive : ∀ i r l, i ∈ (p.assoc r l).queue →
    i ∉ p.free.queue ∧ (p.mac.stas i).wrole = r ∧ (p.mac.stas i).rlink = l
  nodup : p.free.queue.Nodup ∧ ∀ r l, (p.assoc r l).queue.Nodup
  cnt : p.free.cnt = p.free.queue.length ∧ ∀ r l, (p.assoc r l).cnt = (p.assoc r l).queue.length
  macid : ∀ i, (∃ r l, i ∈ (p.assoc r l).queue) ↔ (p.mac.stas i).macid < e.cap.maxNum ∧
    (p.mac.stas i).macid ∈ p.mac.ctl.usedMap ∧ p.mac.ctl.sta (p.mac.stas i).macid = some i
  addrs : ∀ r l, ∀ i ∈ (p.assoc r l).queue, ∀ j ∈ (p.assoc r l).queue,
    p.addr i = p.addr j → i = j

lemma PoolInv.consistent {e : Env} {p : Pool} (h : PoolInv e p) : Consistent e p where
  once i := by
    constructor
    · intro hlt
      by_cases hi : i ∈ p.mac.live
      · exact .inr ((h.assoc _ _ i).2 ⟨hi, rfl, rfl⟩)
      · exact .inl ((h.free i).2 ⟨hlt, hi⟩)
    · rintro (hi | hi)
      · exact ((h.free i).1 hi).1
      · exact h.lt i ((h.assoc _ _ i).1 hi).1
  exclusive i r l hi := by
    obtain ⟨hlive, hrole⟩ := (h.assoc r l i).1 hi
    exact ⟨fun hf => ((h.free i).1 hf).2 hlive, hrole⟩
  nodup := ⟨h.freeOk.nodup, fun r l => (h.assocOk r l).nodup⟩
  cnt := ⟨h.freeOk.cnt, fun r l => (h.assocOk r l).cnt⟩
  macid i := by
    constructor
    · rintro ⟨r, l, hi⟩
      have hlive := ((h.assoc r l i).1 hi).1
      exact ⟨h.core.below i hlive, (h.core.used _).2 ⟨i, hlive, rfl⟩, h.core.held i hlive⟩
    · rintro ⟨-, -, hsta⟩
      exact ⟨_, _, (h.assoc _ _ i).2 ⟨(h.core.holds _ i hsta).1, rfl, rfl⟩⟩
  addrs r l i hi j hj heq := by
    obtain ⟨hi, hri, hli⟩ := (h.assoc r l i).1 hi
    obtain ⟨hj, hrj, hlj⟩ := (h.assoc r l j).1 hj
    exact h.addrs i hi j hj (hri.trans hrj.symm) (hli.trans hlj.symm) heq

/-- After every run whose steps are safe the stations are consistent, and an
allocation that fails then leaves everything as it was exactly if it fails before
the hardware is asked or the failure of the hardware is undone. -/
theorem stations_conserved (e : Env) (hc : e.cap.Fit) (es : List Event)
    (hes : Lib.Guarded (step e) (fun p ev => Legal p ev ∧ Safe e p ev) (init e) es) :
    let p := Lib.run (step e) (init e) es
    Consistent e p ∧
    ∀ r l a req ringOk, LegalReq p req → SafeReq e req → SafeSelf e p r l a →
      ((phlAllocStainfoSw e p r l a req ringOk).2 = none →
        Unchanged p (phlAllocStainfoSw e p r l a req ringOk).1) ∧
      ∀ hw, (allocStainfo e p r l a req ringOk hw).2 = none →
        (Unchanged p (allocStainfo e p r l a req ringOk hw).1 ↔
          (phlAllocStainfoSw e p r l a req ringOk).2 = none ∨ HwFits e p r l a) := by
  intro p
  have h : PoolInv e p :=
    hes.invariant (fun _ _ h hok => h.step hc hok.1 hok.2) (PoolInv.init e)
  refine ⟨h.consistent, fun r l a req ringOk hlegal hreq hself => ⟨?_, fun hw hnone => ?_⟩⟩
  · exact phlAllocStainfoSw_fails ringOk h hc hlegal hreq
  · exact allocStainfo_fails_iff ringOk h hc hlegal hreq hself hw hnone

def clientAndAp : Env where
  cap := Macid.twoLinks
  role r :=
    { type := if r = 0 then .station else .ap
      rlinkNum := 1
      macAddr := fun _ => 5
      macAddr_ne := fun _ => by decide }
  useOnetxring := false
  mbssidVap := false

def refusedRun : List Event :=
  [.alloc 0 0 5 .legacy true .ok, .alloc 1 0 MacAddr.broadcast .legacy true .ok,
    .alloc 1 0 7 .legacy true .addFails, .free 1]

theorem stations_conserved_clientAndAp :
    let p := Lib.run (step clientAndAp) (init clientAndAp) refusedRun
    Consistent clientAndAp p ∧
      Unchanged p (allocStainfo clientAndAp p 1 0 9 .legacy true .ofldFails).1 := by
  intro p
  have hlive : 1 ∈ (Lib.run (step clientAndAp) (init clientAndAp)
      (refusedRun.take 3)).mac.live := by decide
  have hnew : lookup clientAndAp p 1 0 9 = none := by decide
  have h := stations_conserved clientAndAp (.inr (by decide)) refusedRun
    ⟨⟨trivial, trivial, fun _ => by decide⟩,
      ⟨trivial, trivial, fun hwants => absurd hwants (by decide)⟩,
      ⟨trivial, trivial, fun hwants => absurd hwants (by decide)⟩, ⟨hlive, trivial⟩, trivial⟩
  refine ⟨h.1, ?_⟩
  apply ((h.2 1 0 9 .legacy true trivial trivial ?_).2 .ofldFails ?_).mpr
  · right
    unfold HwFits
    rw [hnew]
    decide
  · exact fun hwants => absurd hwants (by decide)
  · decide

/-- The self station of a client stays when the hardware refuses it. -/
theorem refused_self_station_stays :
    (allocStainfo clientAndAp (init clientAndAp) 0 0 5 .legacy true .addFails).2 = none ∧
      ¬Unchanged (init clientAndAp)
        (allocStainfo clientAndAp (init clientAndAp) 0 0 5 .legacy true .addFails).1 := by
  refine ⟨by decide, fun h => ?_⟩
  exact absurd h.freeCnt (by decide)

end StaPool

end Rtl8831.Phl
