import Rtl8831.Phl.ChanCtx

/-!
# The channel-context invariant

`HwBandCtl.Shape` says that the queue, the role maps, the links, the band map
and its counters of one HW band agree; `HwBandCtl.Sound` adds the operation
mode.  Each change of the queue keeps `Shape` under its own side conditions,
and the requests and releases are put together from these changes.
-/

namespace Rtl8831.Phl

open Lib

variable {n : ℕ} {cap : DevCap}

namespace HwBandCtl

def opModeOf : List (ChanCtx n) → MrOpMode
  | [] => .none
  | [c] => if c.roleMap.card = 1 then .swr else .scc
  | _ => .mcc

structure Shape (cap : DevCap) (b : HwBandCtl n) : Prop where
  cnt_eq : b.cnt = b.queue.length
  length_le : b.queue.length ≤ 2
  nodup : (b.queue.map ChanCtx.addr).Nodup
  nonempty : ∀ c ∈ b.queue, c.roleMap.Nonempty
  link_iff : ∀ r a, (b.rlink r).chanctx = some a ↔
    ∃ c ∈ b.queue, c.addr = a ∧ r ∈ c.roleMap
  rc_eq : ∀ k, b.rc k = b.queue.countP fun c => decide (c.chanDef.ccBand = some k)
  map_iff : ∀ k, k ∈ b.bandMap ↔ 0 < b.rc k
  mcc_of_two : b.queue.length = 2 → cap.mccSup = true

/-- What is promised of a band: `Shape`, role maps without a common role, and
the operation mode. -/
structure Sound (cap : DevCap) (b : HwBandCtl n) : Prop extends Shape cap b where
  opMode_eq : b.opMode = opModeOf b.queue
  disjoint : b.queue.Pairwise fun c d => Disjoint c.roleMap d.roleMap

namespace Shape

variable {b : HwBandCtl n} {c : ChanCtx n} {f : ChanCtx n → ChanCtx n}

section

variable (h : b.Shape cap)
include h

section

variable (hc : c ∈ b.queue)
include hc

lemma link_of_mem {r : Fin n} (hr : r ∈ c.roleMap) :
    (b.rlink r).chanctx = some c.addr :=
  (h.link_iff r c.addr).2 ⟨c, hc, rfl, hr⟩

lemma mem_of_link {r : Fin n}
    (hr : (b.rlink r).chanctx = some c.addr) : r ∈ c.roleMap := by
  obtain ⟨d, hd, hda, hrd⟩ := (h.link_iff r c.addr).1 hr
  rwa [← eq_of_key_eq h.nodup hd hc hda]

lemma eq_of_mem_mem {d : ChanCtx n} (hd : d ∈ b.queue)
    {r : Fin n} (hrc : r ∈ c.roleMap) (hrd : r ∈ d.roleMap) : c = d := by
  have hlinks := (h.link_of_mem hc hrc).symm.trans (h.link_of_mem hd hrd)
  exact eq_of_key_eq h.nodup hc hd (Option.some.inj hlinks)

end

lemma ctxAt_link {r : Fin n} {a : ℕ} (hr : (b.rlink r).chanctx = some a) :
    ∃ c ∈ b.queue, c.addr = a ∧ r ∈ c.roleMap ∧ b.ctxAt a = some c := by
  obtain ⟨c, hc, rfl, hrc⟩ := (h.link_iff r a).1 hr
  exact ⟨c, hc, rfl, hrc, lookupKey_of_mem h.nodup hc⟩

lemma pairwise_disjoint :
    b.queue.Pairwise fun c d => Disjoint c.roleMap d.roleMap := by
  have hne : b.queue.Pairwise fun c d => c.addr ≠ d.addr := List.pairwise_map.1 h.nodup
  apply hne.imp_of_mem
  intro c d hc hd hcd
  rw [Finset.disjoint_left]
  intro r hrc hrd
  exact hcd (congrArg ChanCtx.addr (h.eq_of_mem_mem hc hd hrc hrd))

lemma sound (hop : b.opMode = opModeOf b.queue) : b.Sound cap :=
  ⟨h, hop, h.pairwise_disjoint⟩

lemma setOpMode (m : MrOpMode) : { b with opMode := m }.Shape cap :=
  ⟨h.1, h.2, h.3, h.4, h.5, h.6, h.7, h.8⟩

lemma modify {b' : HwBandCtl n} (hc : c ∈ b.queue)
    (haddr : ∀ x, (f x).addr = x.addr) (hband : (f c).chanDef.ccBand = c.chanDef.ccBand)
    (hne : (f c).roleMap.Nonempty)
    (hqueue : b'.queue = modifyKey ChanCtx.addr c.addr f b.queue)
    (hframe : b'.cnt = b.cnt ∧ b'.rc = b.rc ∧ b'.bandMap = b.bandMap)
    (hin : ∀ r ∈ (f c).roleMap, (b'.rlink r).chanctx = some c.addr)
    (hout : ∀ r ∉ (f c).roleMap, (b'.rlink r).chanctx ≠ some c.addr)
    (hrest : ∀ r, ∀ a ≠ c.addr, (b'.rlink r).chanctx = some a ↔ (b.rlink r).chanctx = some a) :
    b'.Shape cap where
  cnt_eq := by rw [hframe.1, hqueue, length_modifyKey, h.cnt_eq]
  length_le := by rw [hqueue, length_modifyKey]; exact h.length_le
  nodup := by rw [hqueue, map_key_modifyKey haddr]; exact h.nodup
  nonempty := by
    intro x hx
    rw [hqueue] at hx
    rcases (mem_modifyKey h.nodup hc).1 hx with rfl | ⟨hx, -⟩
    · exact hne
    · exact h.nonempty x hx
  link_iff := by
    intro r a
    rw [hqueue]
    simp only [mem_modifyKey h.nodup hc]
    by_cases ha : a = c.addr
    · subst ha
      constructor
      · intro hr
        have hmem : r ∈ (f c).roleMap := by
          by_contra hmem
          exact hout r hmem hr
        exact ⟨f c, .inl rfl, haddr c, hmem⟩
      · rintro ⟨x, rfl | ⟨-, hne⟩, hxa, hr⟩
        · exact hin r hr
        · exact absurd hxa hne
    · rw [hrest r a ha, h.link_iff]
      constructor
      · rintro ⟨x, hx, rfl, hr⟩
        exact ⟨x, .inr ⟨hx, ha⟩, rfl, hr⟩
      · rintro ⟨x, rfl | ⟨hx, -⟩, hxa, hr⟩
        · exact absurd (hxa.symm.trans (haddr c)) ha
        · exact ⟨x, hx, hxa, hr⟩
  rc_eq := by
    intro k
    rw [hframe.2.1, hqueue, h.rc_eq k, countP_modifyKey]
    intro x hx hk
    rw [eq_of_key_eq h.nodup hx hc hk, hband]
  map_iff := by rw [hframe.2.1, hframe.2.2]; exact h.map_iff
  mcc_of_two := by rw [hqueue, length_modifyKey]; exact h.mcc_of_two

lemma queue_cases :
    b.queue = [] ∨ (∃ c, b.queue = [c]) ∨ ∃ c d, b.queue = [c, d] := by
  have hle := h.length_le
  cases hq : b.queue with
  | nil => exact .inl rfl
  | cons c cs =>
    cases cs with
    | nil => exact .inr (.inl ⟨c, rfl⟩)
    | cons d ds =>
      refine .inr (.inr ⟨c, d, ?_⟩)
      rw [hq, List.length_cons, List.length_cons] at hle
      rw [List.length_eq_zero_iff.1 (show ds.length = 0 by omega)]

lemma rc_nonneg (k : CcBand) : 0 ≤ b.rc k := by
  rw [h.rc_eq k]
  exact Int.natCast_nonneg _

end

variable {b' : HwBandCtl n} {r : Fin n}

lemma append (h : b.Shape cap) (hfree : (b.rlink r).chanctx = none) (hc : c.roleMap = {r})
    (hfresh : c.addr ∉ b.queue.map ChanCtx.addr) (hlen : b.queue.length ≤ 1)
    (hmcc : b.queue.length = 1 → cap.mccSup = true)
    (hqueue : b'.queue = b.queue ++ [c]) (hcnt : b'.cnt = b.cnt + 1)
    (hlink : ∀ x, (b'.rlink x).chanctx = if x = r then some c.addr else (b.rlink x).chanctx)
    (hrc : ∀ k, b'.rc k = b.rc k + if c.chanDef.ccBand = some k then 1 else 0)
    (hmap : ∀ k, k ∈ b'.bandMap ↔ c.chanDef.ccBand = some k ∨ k ∈ b.bandMap) :
    b'.Shape cap where
  cnt_eq := by rw [hcnt, hqueue, h.cnt_eq]; simp
  length_le := by rw [hqueue, List.length_append]; simpa using hlen
  nodup := by
    rw [hqueue, List.map_append, List.nodup_append]
    refine ⟨h.nodup, by simp, ?_⟩
    rintro a ha d hd rfl
    rw [List.map_singleton, List.mem_singleton] at hd
    exact hfresh (hd ▸ ha)
  nonempty := by
    intro x hx
    rw [hqueue] at hx
    rcases List.mem_append.1 hx with hx | hx
    · exact h.nonempty x hx
    · rw [List.mem_singleton.1 hx, hc]
      exact Finset.singleton_nonempty r
  link_iff := by
    intro x a
    rw [hqueue, hlink]
    by_cases hx : x = r
    · subst hx
      rw [if_pos rfl]
      constructor
      · intro ha
        exact ⟨c, by simp, Option.some.inj ha, by simp [hc]⟩
      · rintro ⟨d, hd, hda, hxd⟩
        rcases List.mem_append.1 hd with hd | hd
        · rw [h.link_of_mem hd hxd] at hfree
          cases hfree
        · rw [← hda, List.mem_singleton.1 hd]
    · rw [if_neg hx, h.link_iff]
      constructor
      · rintro ⟨d, hd, hda, hxd⟩
        exact ⟨d, List.mem_append_left _ hd, hda, hxd⟩
      · rintro ⟨d, hd, hda, hxd⟩
        rcases List.mem_append.1 hd with hd | hd
        · exact ⟨d, hd, hda, hxd⟩
        · rw [List.mem_singleton.1 hd, hc, Finset.mem_singleton] at hxd
          exact absurd hxd hx
  rc_eq := by
    intro k
    rw [hrc, hqueue, List.countP_append, h.rc_eq k]
    by_cases hk : c.chanDef.ccBand = some k <;> simp [hk]
  map_iff := by
    intro k
    rw [hmap, hrc, h.map_iff k]
    have := h.rc_nonneg k
    by_cases hk : c.chanDef.ccBand = some k
    · simp only [hk, true_or, if_true, true_iff]
      omega
    · simp [hk]
  mcc_of_two := by
    intro h2
    apply hmcc
    rw [hqueue, List.length_append] at h2
    simpa using h2

lemma erase (h : b.Shape cap) (hc : c ∈ b.queue) (hr : c.roleMap = {r})
    (hqueue : b'.queue = eraseKey ChanCtx.addr c.addr b.queue) (hcnt : b'.cnt = b.cnt - 1)
    (hlink : ∀ x, (b'.rlink x).chanctx = if x = r then none else (b.rlink x).chanctx)
    (hrc : ∀ k, b'.rc k = b.rc k - if c.chanDef.ccBand = some k then 1 else 0)
    (hmap : ∀ k, k ∈ b'.bandMap ↔ k ∈ b.bandMap ∧ b'.rc k ≠ 0) :
    b'.Shape cap where
  cnt_eq := by
    have := length_eraseKey h.nodup hc
    rw [hcnt, hqueue, h.cnt_eq]
    omega
  length_le := by
    have := length_eraseKey h.nodup hc
    have := h.length_le
    rw [hqueue]
    omega
  nodup := by
    rw [hqueue]
    exact nodup_eraseKey h.nodup
  nonempty := by
    intro x hx
    rw [hqueue] at hx
    exact h.nonempty x (mem_eraseKey.1 hx).1
  link_iff := by
    intro x a
    rw [hqueue, hlink]
    simp only [mem_eraseKey]
    by_cases hx : x = r
    · subst hx
      rw [if_pos rfl]
      constructor
      · intro ha
        cases ha
      · rintro ⟨d, ⟨hd, hda⟩, -, hxd⟩
        have hlc := h.link_of_mem hc (hr ▸ Finset.mem_singleton_self x)
        have hld := h.link_of_mem hd hxd
        exact absurd (Option.some.inj (hld.symm.trans hlc)) hda
    · rw [if_neg hx, h.link_iff]
      constructor
      · rintro ⟨d, hd, hda, hxd⟩
        refine ⟨d, ⟨hd, ?_⟩, hda, hxd⟩
        intro hdc
        rw [eq_of_key_eq h.nodup hd hc hdc, hr, Finset.mem_singleton] at hxd
        exact hx hxd
      · rintro ⟨d, ⟨hd, -⟩, hda, hxd⟩
        exact ⟨d, hd, hda, hxd⟩
  rc_eq := by
    intro k
    have := countP_eraseKey (fun d : ChanCtx n => decide (d.chanDef.ccBand = some k)) h.nodup hc
    rw [hrc, hqueue, h.rc_eq k, this]
    by_cases hk : c.chanDef.ccBand = some k <;> simp [hk]
  map_iff := by
    intro k
    have hcount := countP_eraseKey (fun d : ChanCtx n => decide (d.chanDef.ccBand = some k)) h.nodup hc
    have hk := hrc k
    rw [hmap, h.map_iff k, hk, h.rc_eq k, hcount]
    by_cases hcb : c.chanDef.ccBand = some k
    · simp only [hcb, decide_true, if_true]
      omega
    · simp [hcb]
  mcc_of_two := by
    intro h2
    have := length_eraseKey h.nodup hc
    have := h.length_le
    rw [hqueue] at h2
    omega

end Shape

/-! ## What the primitives change -/

@[simp] lemma setLink_chanctx (b : HwBandCtl n) (r : Fin n) (p : Option ℕ) (x : Fin n) :
    ((b.setLink r p).rlink x).chanctx = if x = r then p else (b.rlink x).chanctx := by
  by_cases hx : x = r
  · subst hx
    simp [setLink]
  · simp [setLink, hx]

@[simp] lemma setLink_chandef (b : HwBandCtl n) (r : Fin n) (p : Option ℕ) (x : Fin n) :
    ((b.setLink r p).rlink x).chandef = (b.rlink x).chandef := by
  by_cases hx : x = r
  · subst hx
    simp [setLink]
  · simp [setLink, hx]

lemma ccBandMapSet_known (b : HwBandCtl n) {d : ChanDef} (hd : d.unknown = false) :
    (ccBandMapSet false b d).1 = false ∧
      (∀ k, (ccBandMapSet false b d).2.rc k =
        b.rc k + if d.ccBand = some k then 1 else 0) ∧
      (∀ k, k ∈ (ccBandMapSet false b d).2.bandMap ↔ d.ccBand = some k ∨ k ∈ b.bandMap) ∧
      (ccBandMapSet false b d).2.queue = b.queue ∧ (ccBandMapSet false b d).2.cnt = b.cnt ∧
      (ccBandMapSet false b d).2.rlink = b.rlink := by
  unfold ccBandMapSet
  cases hk : d.ccBand with
  | none => simp [hd]
  | some c =>
    refine ⟨rfl, ?_, ?_, rfl, rfl, rfl⟩
    · intro k
      by_cases hkc : c = k
      · subst hkc
        simp
      · simp [hkc, Ne.symm hkc]
    · intro k
      simp [eq_comm]

lemma ctxDel_spec (b : HwBandCtl n) (c : ChanCtx n) (hcnt : b.cnt ≠ 0) :
    (b.ctxDel c).queue = eraseKey ChanCtx.addr c.addr b.queue ∧
      (b.ctxDel c).cnt = b.cnt - 1 ∧ (b.ctxDel c).rlink = b.rlink ∧
      (∀ k, (b.ctxDel c).rc k = b.rc k - if c.chanDef.ccBand = some k then 1 else 0) ∧
      ((∀ k, k ∈ b.bandMap → b.rc k ≠ 0) → ∀ k, k ∈ (b.ctxDel c).bandMap ↔
        k ∈ b.bandMap ∧ (b.ctxDel c).rc k ≠ 0) := by
  have hcnt' : (b.ccBandMapClr c.chanDef).cnt = b.cnt := by
    unfold ccBandMapClr
    split <;> rfl
  unfold ctxDel
  dsimp only
  rw [if_pos (hcnt' ▸ hcnt)]
  unfold ccBandMapClr
  cases hk : c.chanDef.ccBand with
  | none => simp +contextual
  | some m =>
    refine ⟨rfl, rfl, rfl, ?_, ?_⟩
    · intro k
      by_cases hkm : m = k
      · subst hkm
        simp
      · simp [hkm, Ne.symm hkm]
    · intro hpos k
      by_cases hkm : k = m
      · subst hkm
        by_cases h0 : b.rc k - 1 = 0 <;> simp [h0]
      · by_cases h0 : b.rc m - 1 = 0
        · simpa [h0, hkm] using hpos k
        · simpa [h0, hkm] using hpos k

/-! ## Making and joining a context -/

def roomFor (cap : DevCap) (b : HwBandCtl n) (new : ChanDef) : Bool :=
  match b.queue with
  | [] => true
  | [c] => cap.mccSup && !dbccInstead cap new c.chanDef
  | _ => false

/-- A new context can be made for `new`. -/
def creates (cap : DevCap) (b : HwBandCtl n) (new : ChanDef) (alloc : Option ℕ) : Bool :=
  (b.kmemAlloc alloc).isSome && !new.unknown && b.roomFor cap new

/-- The request of a link without a context is met: by a context it can be
grouped with, or by a new one. -/
def accepts (cap : DevCap) (b : HwBandCtl n) (r : Fin n) (new : ChanDef) (alloc : Option ℕ) : Bool :=
  (b.rlink r).chanctx.isNone &&
    (b.queue.any (fun c => c.chanDef.isChbwGrouped new) || b.creates cap new alloc)

def declines (cap : DevCap) (b : HwBandCtl n) (new : ChanDef) (alloc : Option ℕ) : Bool :=
  !b.queue.any (fun c => c.chanDef.isChbwGrouped new) &&
    (b.kmemAlloc alloc == none || !b.roomFor cap new)

variable {b : HwBandCtl n} {r : Fin n} {new : ChanDef} {alloc : Option ℕ}

lemma kmemAlloc_fresh {a : ℕ} (h : b.kmemAlloc alloc = some a) :
    a ∉ b.queue.map ChanCtx.addr := by
  have := (Option.filter_eq_some_iff.1 h).2
  exact of_decide_eq_true this

lemma roomFor_length (h : b.roomFor cap new = true) :
    b.queue.length ≤ 1 ∧ (b.queue.length = 1 → cap.mccSup = true) := by
  unfold roomFor at h
  split at h
  · simp_all
  · simp_all
  · cases h

lemma Shape.create (h : b.Shape cap) (hfree : (b.rlink r).chanctx = none) {a : ℕ}
    (halloc : b.kmemAlloc alloc = some a) (hknown : new.unknown = false)
    (hroom : b.roomFor cap new = true) :
    ∃ b', b.ctxCreate false r new alloc = (true, false, b') ∧ b'.Shape cap ∧
      b'.queue = b.queue ++ [{ addr := a, chanDef := new, roleMap := {r} }] ∧
      ∀ x, (b'.rlink x).chandef = (b.rlink x).chandef := by
  obtain ⟨hlen, hmcc⟩ := roomFor_length hroom
  have hfresh := kmemAlloc_fresh halloc
  have hcnt : ¬ b.cnt + 1 > 2 := by
    rw [h.cnt_eq]
    omega
  let c₀ : ChanCtx n := { addr := a, chanDef := new }
  let b₀ : HwBandCtl n := { b with queue := b.queue ++ [c₀], cnt := b.cnt + 1 }
  obtain ⟨hst, hrc, hmap, hqueue, hc, hrl⟩ := ccBandMapSet_known b₀ hknown
  have hset : ((ccBandMapSet false b₀ new).2.rmapSet r c₀).2.queue =
      b.queue ++ [{ addr := a, chanDef := new, roleMap := {r} }] := by
    rw [rmapSet, if_neg (by simp [c₀])]
    change modifyKey ChanCtx.addr c₀.addr _ (ccBandMapSet false b₀ new).2.queue = _
    rw [hqueue]
    exact modifyKey_append hfresh
  have hrest : ∀ x, (((ccBandMapSet false b₀ new).2.rmapSet r c₀).2.rlink x).chanctx =
        (if x = r then some a else (b.rlink x).chanctx) ∧
      (((ccBandMapSet false b₀ new).2.rmapSet r c₀).2.rlink x).chandef = (b.rlink x).chandef := by
    intro x
    rw [rmapSet, if_neg (by simp [c₀])]
    refine ⟨?_, ?_⟩
    · rw [setLink_chanctx, hrl]
    · rw [setLink_chandef, hrl]
  refine ⟨((ccBandMapSet false b₀ new).2.rmapSet r c₀).2, ?_, ?_, hset, fun x => (hrest x).2⟩
  · simp [ctxCreate, halloc, ctxAdd, hcnt, b₀, c₀, hst]
  · apply h.append hfree (c := { addr := a, chanDef := new, roleMap := {r} }) rfl hfresh hlen hmcc
      hset ?_ (fun x => (hrest x).1)
    · exact hrc
    · exact hmap
    · exact hc

lemma ccBand_adjust (d g : ChanDef) : (d.adjust g).ccBand = g.ccBand := by
  rw [ChanDef.adjust, apply_ite ChanDef.ccBand]
  exact ite_self _

lemma Shape.join (new : ChanDef) (h : b.Shape cap) (hfree : (b.rlink r).chanctx = none)
    {c : ChanCtx n} (hc : c ∈ b.queue) :
    ∃ b', b.addGrouped cap r new c = (⟨true, new.adjust c.chanDef, b'.opMode⟩, b') ∧
      b'.Shape cap ∧ b'.opMode = opModeOf b'.queue ∧
      b'.queue = modifyKey ChanCtx.addr c.addr (fun x => { x with
        chanDef := new.adjust c.chanDef, roleMap := insert r x.roleMap }) b.queue ∧
      ∀ x, (b'.rlink x).chandef = (b.rlink x).chandef := by
  have hr : r ∉ c.roleMap := by
    intro hr
    rw [h.link_of_mem hc hr] at hfree
    cases hfree
  let f : ChanCtx n → ChanCtx n := fun x => { x with
    chanDef := new.adjust c.chanDef, roleMap := insert r x.roleMap }
  let b₁ : HwBandCtl n := { b with
    queue := modifyKey ChanCtx.addr c.addr f b.queue }.setLink r (some c.addr)
  have hb₁ : b₁.Shape cap := by
    refine h.modify hc (f := f) (fun _ => rfl) (ccBand_adjust _ _) (Finset.insert_nonempty _ _) rfl
      ⟨rfl, rfl, rfl⟩ ?_ ?_ ?_
    · intro x hx
      rw [setLink_chanctx]
      by_cases hxr : x = r
      · rw [if_pos hxr]
      · rw [if_neg hxr]
        exact h.link_of_mem hc (Finset.mem_of_mem_insert_of_ne hx hxr)
    · intro x hx
      rw [Finset.mem_insert, not_or] at hx
      rw [setLink_chanctx, if_neg hx.1]
      exact fun hlink => hx.2 (h.mem_of_link hc hlink)
    · intro x a ha
      rw [setLink_chanctx]
      by_cases hxr : x = r
      · subst hxr
        simp [hfree, Ne.symm ha]
      · rw [if_neg hxr]
  have hset : ({ b with queue := modifyKey ChanCtx.addr c.addr (fun x => { x with
      chanDef := new.adjust c.chanDef }) b.queue } : HwBandCtl n).rmapSet r c = (true, b₁) := by
    rw [rmapSet, if_neg hr]
    dsimp only
    rw [modifyKey_modifyKey]
    exact fun _ => rfl
  have hchandef : ∀ x, (b₁.rlink x).chandef = (b.rlink x).chandef := fun x => setLink_chandef _ _ _ _
  have hcard : (insert r c.roleMap).card ≠ 1 := by
    rw [Finset.card_insert_of_notMem hr]
    have := Finset.card_pos.2 (h.nonempty c hc)
    omega
  rw [addGrouped, hset]
  obtain hq | ⟨d, hq⟩ | ⟨d, e, hq⟩ := h.queue_cases
  · simp [hq] at hc
  · obtain rfl : c = d := by simpa [hq] using hc
    have hcnt : b.cnt = 1 := by simp [h.cnt_eq, hq]
    have hq₁ : b₁.queue = [f c] := by
      change modifyKey ChanCtx.addr c.addr f b.queue = _
      simp [hq, modifyKey]
    dsimp only
    rw [if_pos hcnt]
    refine ⟨{ b₁ with opMode := .scc }, rfl, hb₁.setOpMode _, ?_, rfl, hchandef⟩
    simp [opModeOf, hq₁, f, hcard]
  · have hcnt : b.cnt = 2 := by simp [h.cnt_eq, hq]
    have hmcc : cap.mccSup = true := h.mcc_of_two (by simp [hq])
    have hq₁ : b₁.queue = modifyKey ChanCtx.addr c.addr f [d, e] := by
      change modifyKey ChanCtx.addr c.addr f b.queue = _
      rw [hq]
    dsimp only
    rw [if_neg (by omega), if_pos ⟨hcnt, hmcc⟩]
    refine ⟨{ b₁ with opMode := .mcc }, rfl, hb₁.setOpMode _, ?_, rfl, hchandef⟩
    simp [opModeOf, hq₁, modifyKey]

/-! ## Requests -/

inductive Joined (b : HwBandCtl n) (r : Fin n) (new : ChanDef) : List (ChanCtx n) → Prop
  | grouped (c : ChanCtx n) (hc : b.queue.find? (fun c => c.chanDef.isChbwGrouped new) = some c) :
      Joined b r new (modifyKey ChanCtx.addr c.addr (fun x => { x with
        chanDef := new.adjust c.chanDef, roleMap := insert r x.roleMap }) b.queue)
  | created (a : ℕ) (hc : b.queue.find? (fun c => c.chanDef.isChbwGrouped new) = none) :
      Joined b r new (b.queue ++ [{ addr := a, chanDef := new, roleMap := {r} }])

lemma addCreate_sound (h : b.Shape cap) (hfree : (b.rlink r).chanctx = none)
    (hnew : b.creates cap new alloc = true) (m : MrOpMode)
    (hm : ∀ c, c.roleMap = {r} → m = opModeOf (b.queue ++ [c])) :
    ∃ a b', b.addCreate m false r new alloc = (⟨true, new, m⟩, false, b') ∧ b'.Sound cap ∧
      b'.queue = b.queue ++ [{ addr := a, chanDef := new, roleMap := {r} }] ∧
      ∀ x, (b'.rlink x).chandef = (b.rlink x).chandef := by
  simp only [creates, Bool.and_eq_true, Bool.not_eq_true', Option.isSome_iff_exists] at hnew
  obtain ⟨⟨⟨a, ha⟩, hknown⟩, hroom⟩ := hnew
  obtain ⟨b', hcreate, hb', hqueue, hchandef⟩ := h.create hfree ha hknown hroom
  refine ⟨a, { b' with opMode := m }, ?_, ?_, hqueue, hchandef⟩
  · rw [addCreate, hcreate]
  · apply (hb'.setOpMode m).sound
    change m = opModeOf b'.queue
    rw [hqueue]
    exact hm _ rfl

lemma chanctxAdd_accepts (h : b.Shape cap) (hacc : b.accepts cap r new alloc = true) :
    ∃ res b', b.chanctxAdd cap false r new alloc = (res, false, b') ∧ res.grouped = true ∧
      b'.Sound cap ∧ Joined b r new b'.queue ∧
      ∀ x, (b'.rlink x).chandef = (b.rlink x).chandef := by
  rw [accepts, Bool.and_eq_true, Bool.or_eq_true, Option.isNone_iff_eq_none] at hacc
  obtain ⟨hfree, hacc⟩ := hacc
  have h₀ := h.setOpMode .none
  cases hfind : b.queue.find? (fun c => c.chanDef.isChbwGrouped new) with
  | some c =>
    have hc := List.mem_of_find?_eq_some hfind
    have hcnt : b.cnt ≠ 0 := by
      rw [h.cnt_eq]
      have := List.length_pos_of_mem hc
      omega
    obtain ⟨b', hadd, hb', hop, hqueue, hchandef⟩ := h₀.join new hfree hc
    refine ⟨⟨true, new.adjust c.chanDef, b'.opMode⟩, b', ?_, rfl, hb'.sound hop, ?_, hchandef⟩
    · rw [chanctxAdd]
      dsimp only
      rw [if_neg hcnt, hfind]
      dsimp only
      rw [hadd]
    · rw [hqueue]
      exact .grouped c hfind
  | none =>
    have hany : b.queue.any (fun c => c.chanDef.isChbwGrouped new) = false := by
      rw [List.any_eq_false]
      exact List.find?_eq_none.1 hfind
    have hnew : b.creates cap new alloc = true := by simpa [hany] using hacc
    have hroom : b.roomFor cap new = true := by
      rw [creates, Bool.and_eq_true] at hnew
      exact hnew.2
    obtain hq | ⟨c, hq⟩ | ⟨c, d, hq⟩ := h.queue_cases
    · have hcnt : b.cnt = 0 := by simp [h.cnt_eq, hq]
      obtain ⟨a, b', hadd, hb', hqueue, hchandef⟩ := addCreate_sound h₀ hfree hnew .swr (by
        intro c hc
        simp [hq, opModeOf, hc])
      refine ⟨⟨true, new, .swr⟩, b', ?_, rfl, hb', ?_, hchandef⟩
      · rw [chanctxAdd]
        dsimp only
        rw [if_pos hcnt, hadd]
      · rw [hqueue]
        exact .created a hfind
    · have hcnt : b.cnt = 1 := by simp [h.cnt_eq, hq]
      have hmcc : cap.mccSup = true ∧ dbccInstead cap new c.chanDef = false := by
        simpa [roomFor, hq] using hroom
      obtain ⟨a, b', hadd, hb', hqueue, hchandef⟩ := addCreate_sound h₀ hfree hnew .mcc (by
        intro c hc
        simp [hq, opModeOf])
      refine ⟨⟨true, new, .mcc⟩, b', ?_, rfl, hb', ?_, hchandef⟩
      · rw [chanctxAdd]
        dsimp only
        rw [if_neg (by omega), hfind]
        dsimp only
        rw [if_neg (by omega), if_neg (by simp [hq, hmcc.2]), if_pos hmcc.1, hadd]
      · rw [hqueue]
        exact .created a hfind
    · simp [roomFor, hq] at hroom

lemma chanctxAdd_declines (h : b.Shape cap) (hdec : b.declines cap new alloc = true) :
    ∃ res, b.chanctxAdd cap false r new alloc = (res, false, { b with opMode := .none }) ∧
      res.grouped = false := by
  rw [declines, Bool.and_eq_true, Bool.not_eq_true', List.any_eq_false] at hdec
  obtain ⟨hany, hdec⟩ := hdec
  have hfind : b.queue.find? (fun c => c.chanDef.isChbwGrouped new) = none :=
    List.find?_eq_none.2 hany
  have hcreate : b.kmemAlloc alloc = none → ∀ m,
      { b with opMode := .none }.addCreate m false r new alloc =
        (⟨false, new, .none⟩, false, { b with opMode := .none }) := by
    intro ha m
    have ha₀ : { b with opMode := .none }.kmemAlloc alloc = none := ha
    rw [addCreate, ctxCreate, ha₀]
  rw [chanctxAdd]
  dsimp only
  rw [hfind]
  obtain hq | ⟨c, hq⟩ | ⟨c, d, hq⟩ := h.queue_cases
  · have hcnt : b.cnt = 0 := by simp [h.cnt_eq, hq]
    have ha : b.kmemAlloc alloc = none := by simpa [roomFor, hq] using hdec
    rw [if_pos hcnt, hcreate ha]
    exact ⟨_, rfl, rfl⟩
  · have hcnt : b.cnt = 1 := by simp [h.cnt_eq, hq]
    rw [if_neg (by omega)]
    dsimp only
    rw [if_neg (by omega)]
    by_cases hdb : dbccInstead cap new c.chanDef = true
    · rw [if_pos (by simp [hq, hdb])]
      exact ⟨_, rfl, rfl⟩
    · rw [if_neg (by simp [hq, hdb])]
      by_cases hmcc : cap.mccSup = true
      · have ha : b.kmemAlloc alloc = none := by simpa [roomFor, hq, hdb, hmcc] using hdec
        rw [if_pos hmcc, hcreate ha]
        exact ⟨_, rfl, rfl⟩
      · rw [if_neg hmcc]
        exact ⟨_, rfl, rfl⟩
  · have hcnt : b.cnt = 2 := by simp [h.cnt_eq, hq]
    rw [if_neg (by omega)]
    dsimp only
    rw [if_pos (by omega)]
    exact ⟨_, rfl, rfl⟩

/-! ## Releases -/

/-- The release of `r` meets its condition: it was alone on its context, or the
links left agree on a channel of the same sub-band, or they do not agree and
the operation mode stays as it is. -/
def delOk (b : HwBandCtl n) (r : Fin n) : Bool :=
  match (b.rlink r).chanctx.bind b.ctxAt with
  | none => true
  | some c =>
    if c.roleMap.card = 1 then true
    else
      match b.chandefSync (c.roleMap.erase r) with
      | some d => decide (d.ccBand = c.chanDef.ccBand)
      | none => decide (¬(b.queue.length = 1 ∧ c.roleMap.card = 2))

/-- The update of `r`'s context stays in the sub-band. -/
def uptOk (b : HwBandCtl n) (r : Fin n) : Bool :=
  match (b.rlink r).chanctx.bind b.ctxAt with
  | none => true
  | some c =>
    match b.chandefSync c.roleMap with
    | some d => decide (d.ccBand = c.chanDef.ccBand)
    | none => true

lemma delOpMode_sound (h : b.Shape cap) : b.delOpMode.Sound cap ∧
    b.delOpMode.queue = b.queue ∧ b.delOpMode.rlink = b.rlink := by
  rw [delOpMode]
  obtain hq | ⟨c, hq⟩ | ⟨c, d, hq⟩ := h.queue_cases
  · have hcnt : b.cnt = 0 := by simp [h.cnt_eq, hq]
    rw [if_pos hcnt]
    refine ⟨(h.setOpMode _).sound ?_, rfl, rfl⟩
    simp [hq, opModeOf]
  · have hcnt : b.cnt = 1 := by simp [h.cnt_eq, hq]
    have hhead : b.queue.head? = some c := by rw [hq]; rfl
    rw [if_neg (by omega), if_pos hcnt, hhead]
    refine ⟨(h.setOpMode _).sound ?_, rfl, rfl⟩
    simp [hq, opModeOf]
  · have hcnt : b.cnt = 2 := by simp [h.cnt_eq, hq]
    rw [if_neg (by omega), if_neg (by omega), if_pos hcnt]
    refine ⟨(h.setOpMode _).sound ?_, rfl, rfl⟩
    simp [hq, opModeOf]

lemma chandefSync_congr {b b' : HwBandCtl n} (h : ∀ x, (b'.rlink x).chandef = (b.rlink x).chandef)
    (roles : Finset (Fin n)) : b'.chandefSync roles = b.chandefSync roles := by
  simp only [chandefSync, h]

lemma Shape.release_last (h : b.Shape cap) {c : ChanCtx n} (hc : c ∈ b.queue)
    (hr : c.roleMap = {r}) :
    ((b.rmapClr r c.addr).ctxDel c).Shape cap ∧
      ((b.rmapClr r c.addr).ctxDel c).queue = eraseKey ChanCtx.addr c.addr b.queue ∧
      (((b.rmapClr r c.addr).ctxDel c).rlink r).chanctx = none ∧
      ∀ x, (((b.rmapClr r c.addr).ctxDel c).rlink x).chandef = (b.rlink x).chandef := by
  have hcnt : (b.rmapClr r c.addr).cnt ≠ 0 := by
    change b.cnt ≠ 0
    rw [h.cnt_eq]
    have := List.length_pos_of_mem hc
    omega
  obtain ⟨hqueue, hcnt', hrl, hrc, hmap⟩ := ctxDel_spec (b.rmapClr r c.addr) c hcnt
  have herase : ((b.rmapClr r c.addr).ctxDel c).queue = eraseKey ChanCtx.addr c.addr b.queue := by
    rw [hqueue]
    exact eraseKey_modifyKey fun _ => rfl
  refine ⟨h.erase hc hr herase hcnt' ?_ hrc (hmap ?_), herase, ?_, ?_⟩
  · intro x
    rw [hrl]
    exact setLink_chanctx _ _ _ _
  · intro k hk
    have := (h.map_iff k).1 hk
    exact this.ne'
  · rw [hrl, rmapClr, setLink_chanctx, if_pos rfl]
  · intro x
    rw [hrl]
    exact setLink_chandef _ _ _ _

lemma Shape.leave (h : b.Shape cap) {c : ChanCtx n} (hc : c ∈ b.queue) (hr : r ∈ c.roleMap)
    (hne : (c.roleMap.erase r).Nonempty) : (b.rmapClr r c.addr).Shape cap := by
  refine h.modify hc (f := fun x => { x with roleMap := x.roleMap.erase r }) (fun _ => rfl) rfl hne
    rfl ⟨rfl, rfl, rfl⟩ ?_ ?_ ?_
  · intro x hx
    obtain ⟨hxr, hx⟩ := Finset.mem_erase.1 hx
    rw [rmapClr, setLink_chanctx, if_neg hxr]
    exact h.link_of_mem hc hx
  · intro x hx
    rw [rmapClr, setLink_chanctx]
    by_cases hxr : x = r
    · simp [hxr]
    · rw [if_neg hxr]
      intro hlink
      exact hx (Finset.mem_erase.2 ⟨hxr, h.mem_of_link hc hlink⟩)
  · intro x a ha
    rw [rmapClr, setLink_chanctx]
    by_cases hxr : x = r
    · subst hxr
      simp [h.link_of_mem hc hr, Ne.symm ha]
    · rw [if_neg hxr]

lemma Shape.redefine (h : b.Shape cap) {c : ChanCtx n} (hc : c ∈ b.queue) {d : ChanDef}
    (hd : d.ccBand = c.chanDef.ccBand) :
    { b with queue := modifyKey ChanCtx.addr c.addr (fun x => { x with chanDef := d }) b.queue }.Shape
      cap := by
  refine h.modify hc (f := fun x => { x with chanDef := d }) (fun _ => rfl) hd (h.nonempty c hc)
    rfl ⟨rfl, rfl, rfl⟩ ?_ ?_ ?_
  · exact fun x hx => h.link_of_mem hc hx
  · exact fun x hx hlink => hx (h.mem_of_link hc hlink)
  · exact fun x a _ => Iff.rfl

lemma opModeOf_congr {q q' : List (ChanCtx n)}
    (h : q.map ChanCtx.roleMap = q'.map ChanCtx.roleMap) : opModeOf q = opModeOf q' := by
  match q, q' with
  | [], [] => rfl
  | [], _ :: _ => simp at h
  | _ :: _, [] => simp at h
  | [c], [d] =>
    have hcd : c.roleMap = d.roleMap := by simpa using h
    simp [opModeOf, hcd]
  | [_], _ :: _ :: _ => simp at h
  | _ :: _ :: _, [_] => simp at h
  | _ :: _ :: _, _ :: _ :: _ => rfl

lemma opModeOf_redefine (q : List (ChanCtx n)) (a : ℕ) (d : ChanDef) :
    opModeOf (modifyKey ChanCtx.addr a (fun x => { x with chanDef := d }) q) = opModeOf q := by
  apply opModeOf_congr
  rw [modifyKey, List.map_map]
  apply List.map_congr_left
  intro x _
  by_cases hx : x.addr = a <;> simp [hx]

inductive Left (b : HwBandCtl n) (r : Fin n) : List (ChanCtx n) → Prop
  | none (h : (b.rlink r).chanctx = none) : Left b r b.queue
  | last (c : ChanCtx n) (hc : c ∈ b.queue) (hr : c.roleMap = {r}) :
      Left b r (eraseKey ChanCtx.addr c.addr b.queue)
  | shared (c : ChanCtx n) (hc : c ∈ b.queue) (hr : r ∈ c.roleMap) (hcard : c.roleMap.card ≠ 1)
      (d : ChanDef) : Left b r (modifyKey ChanCtx.addr c.addr (fun x => { x with
        chanDef := d, roleMap := x.roleMap.erase r }) b.queue)

lemma opModeOf_leave (h : b.Shape cap) {c : ChanCtx n} (hc : c ∈ b.queue) (hr : r ∈ c.roleMap)
    (hcard : c.roleMap.card ≠ 1) (hne : ¬(b.queue.length = 1 ∧ c.roleMap.card = 2)) :
    opModeOf (b.rmapClr r c.addr).queue = opModeOf b.queue := by
  change opModeOf (modifyKey ChanCtx.addr c.addr _ b.queue) = _
  obtain hq | ⟨d, hq⟩ | ⟨d, e, hq⟩ := h.queue_cases
  · simp [hq] at hc
  · obtain rfl : c = d := by simpa [hq] using hc
    have hpos := Finset.card_pos.2 ⟨r, hr⟩
    have hcard' : (c.roleMap.erase r).card ≠ 1 := by
      rw [Finset.card_erase_of_mem hr]
      have : c.roleMap.card ≠ 2 := fun h2 => hne ⟨by simp [hq], h2⟩
      omega
    rw [hq]
    simp only [modifyKey, List.map_cons, List.map_nil, if_true, opModeOf, hcard, hcard', if_false]
  · rw [hq]
    rfl

lemma Shape.chandefUpt_mem (h : b.Shape cap) {c : ChanCtx n} (hc : c ∈ b.queue) :
    b.chandefUpt c.addr =
      match b.chandefSync c.roleMap with
      | none => (false, b)
      | some d => (true, { b with
          queue := modifyKey ChanCtx.addr c.addr (fun x => { x with chanDef := d }) b.queue }) := by
  have hat : b.ctxAt c.addr = some c := lookupKey_of_mem h.nodup hc
  cases hsync : b.chandefSync c.roleMap with
  | none => simp only [HwBandCtl.chandefUpt, hat, hsync]
  | some d => simp only [HwBandCtl.chandefUpt, hat, hsync]

lemma Sound.chanctxDel (h : b.Sound cap) (hok : b.delOk r = true) :
    (b.chanctxDel r).Sound cap ∧ ((b.chanctxDel r).rlink r).chanctx = none ∧
      Left b r (b.chanctxDel r).queue ∧
      ∀ x, ((b.chanctxDel r).rlink x).chandef = (b.rlink x).chandef := by
  rw [HwBandCtl.chanctxDel]
  cases hlink : (b.rlink r).chanctx with
  | none => exact ⟨h, hlink, .none hlink, fun _ => rfl⟩
  | some a =>
    obtain ⟨c, hc, rfl, hr, hat⟩ := h.ctxAt_link hlink
    have hpos := Finset.card_pos.2 ⟨r, hr⟩
    have hlen := List.length_pos_of_mem hc
    have hcnt := h.cnt_eq
    have hle := h.length_le
    simp only [hat]
    rw [if_neg (by omega), if_neg (by omega)]
    by_cases hone : c.roleMap.card = 1
    · rw [if_pos hone]
      obtain ⟨x, hx⟩ := Finset.card_eq_one.1 hone
      obtain rfl : r = x := by simpa [hx] using hr
      obtain ⟨hshape, hqueue, hnone, hchandef⟩ := h.release_last hc hx
      obtain ⟨hsound, hq, hrl⟩ := delOpMode_sound hshape
      rw [hq, hrl, hqueue]
      exact ⟨hsound, hnone, .last c hc hx, hchandef⟩
    · rw [if_neg hone]
      have hne : (c.roleMap.erase r).Nonempty := by
        rw [← Finset.card_pos, Finset.card_erase_of_mem hr]
        omega
      have hleave := h.leave hc hr hne
      let c' : ChanCtx n := { c with roleMap := c.roleMap.erase r }
      have hc' : c' ∈ (b.rmapClr r c.addr).queue := by
        change c' ∈ modifyKey ChanCtx.addr c.addr _ b.queue
        exact (mem_modifyKey h.nodup hc).2 (.inl rfl)
      have hupt := hleave.chandefUpt_mem hc'
      have hnone : ((b.rmapClr r c.addr).rlink r).chanctx = none := by
        rw [rmapClr, setLink_chanctx, if_pos rfl]
      have hchandef : ∀ x, ((b.rmapClr r c.addr).rlink x).chandef = (b.rlink x).chandef :=
        fun x => setLink_chandef _ _ _ _
      have hsync : (b.rmapClr r c.addr).chandefSync c'.roleMap =
          b.chandefSync (c.roleMap.erase r) := chandefSync_congr hchandef _
      simp only [delOk, hlink, Option.bind_some, hat, if_neg hone] at hok
      rw [hsync] at hupt
      cases hs : b.chandefSync (c.roleMap.erase r) with
      | none =>
        rw [hs] at hok hupt
        rw [hupt]
        refine ⟨hleave.sound ?_, hnone, ?_, hchandef⟩
        · rw [opModeOf_leave h.toShape hc hr hone (of_decide_eq_true hok)]
          exact h.opMode_eq
        · have hsame : (b.rmapClr r c.addr).queue = modifyKey ChanCtx.addr c.addr (fun x => { x with
              chanDef := c.chanDef, roleMap := x.roleMap.erase r }) b.queue := by
            apply modifyKey_congr
            intro x hx hk
            rw [eq_of_key_eq h.nodup hx hc hk]
          rw [hsame]
          exact .shared c hc hr hone c.chanDef
      | some d =>
        rw [hs] at hok hupt
        rw [hupt]
        obtain ⟨hsound, hq, hrl⟩ := delOpMode_sound (hleave.redefine hc' (of_decide_eq_true hok))
        rw [hq, hrl]
        refine ⟨hsound, hnone, ?_, hchandef⟩
        change Left b r (modifyKey ChanCtx.addr c.addr _ (modifyKey ChanCtx.addr c.addr _ b.queue))
        rw [modifyKey_modifyKey]
        · exact .shared c hc hr hone d
        · exact fun _ => rfl

lemma Sound.chandefUpt (h : b.Sound cap) (hok : b.uptOk r = true) {a : ℕ}
    (hlink : (b.rlink r).chanctx = some a) : (b.chandefUpt a).2.Sound cap := by
  obtain ⟨c, hc, rfl, hr, hat⟩ := h.ctxAt_link hlink
  rw [h.chandefUpt_mem hc]
  simp only [uptOk, hlink, Option.bind_some, hat] at hok
  cases hs : b.chandefSync c.roleMap with
  | none => exact h
  | some d =>
    rw [hs] at hok
    apply (h.redefine hc (of_decide_eq_true hok)).sound
    exact h.opMode_eq.trans (opModeOf_redefine _ _ _).symm

/-! ## The context of a link -/

def view (c : ChanCtx n) : ChanDef × Finset (Fin n) := (c.chanDef, c.roleMap)

def linkCtx (b : HwBandCtl n) (r : Fin n) : Option (ChanDef × Finset (Fin n)) :=
  ((b.rlink r).chanctx.bind b.ctxAt).map view

lemma Shape.linkCtx_iff (h : b.Shape cap) {p : ChanDef × Finset (Fin n)} :
    b.linkCtx r = some p ↔ r ∈ p.2 ∧ p ∈ b.queue.map view := by
  rw [linkCtx, List.mem_map]
  constructor
  · intro hp
    cases hlink : (b.rlink r).chanctx with
    | none => simp [hlink] at hp
    | some a =>
      obtain ⟨c, hc, rfl, hr, hat⟩ := h.ctxAt_link hlink
      obtain rfl : view c = p := by simpa [hlink, hat] using hp
      exact ⟨hr, c, hc, rfl⟩
  · rintro ⟨hr, c, hc, rfl⟩
    have hat : b.ctxAt c.addr = some c := lookupKey_of_mem h.nodup hc
    simp [h.link_of_mem hc hr, hat]

lemma linkCtx_congr {b b' : HwBandCtl n} (h : b.Shape cap) (h' : b'.Shape cap)
    (hq : ∀ p, p ∈ b'.queue.map view ↔ p ∈ b.queue.map view) (r : Fin n) :
    b'.linkCtx r = b.linkCtx r := by
  apply Option.ext
  intro p
  rw [h.linkCtx_iff, h'.linkCtx_iff, hq]

end HwBandCtl

end Rtl8831.Phl
