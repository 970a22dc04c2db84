import Rtl8831.Lib.Run
import Rtl8831.Phl.ChanCtxInv

/-!
# Channel contexts over whole runs

The condition under which a call on the channel contexts keeps both bands
sound and keeps what it promises on failure, and the result for every run
whose calls meet it.
-/

namespace Rtl8831.Phl

open Lib List

variable {n : ℕ} {cap : DevCap}

namespace MrCtl

open HwBandCtl

structure Sound (cap : DevCap) (s : MrCtl n) : Prop where
  set_ok : s.setFailed = false
  bands : ∀ i, (s.bands i).Sound cap

def Contract (cap : DevCap) (s : MrCtl n) : Op n → Prop
  | .add i r new env => (s.rtwChanctxAdd cap i r new env).1 = false →
      (s.rtwChanctxAdd cap i r new env).2 = s
  | .chg i r new env env' => (s.chandefChg cap i r new env env').1 = false → ∀ j x,
      ((s.chandefChg cap i r new env env').2.bands j).linkCtx x = (s.bands j).linkCtx x
  | _ => True

/-- The recovery of a failed change gives the link its context back: `b₁` is the
band after the release, `d` the link's own channel. -/
def restores (cap : DevCap) (b b₁ : HwBandCtl n) (i : HwBand) (r : Fin n) (new d : ChanDef)
    (env env' : AddEnv) : Bool :=
  match (b.rlink r).chanctx.bind b.ctxAt with
  | none =>
    (addRefused i new env || b.queue.isEmpty) &&
      (addRefused i d env' || (b.queue.isEmpty && b.kmemAlloc env'.alloc == none))
  | some c =>
    !addRefused i d env' &&
      if c.roleMap.card = 1 then
        !b₁.queue.any (fun x => x.chanDef.isChbwGrouped d) && b₁.creates cap d env'.alloc &&
          decide (d = c.chanDef)
      else
        match b₁.queue.find? (fun x => x.chanDef.isChbwGrouped d) with
        | some c₁ => decide (c₁.addr = c.addr ∧ d.adjust c₁.chanDef = c.chanDef)
        | none => false

def chgOk (cap : DevCap) (b : HwBandCtl n) (i : HwBand) (r : Fin n) (new : ChanDef)
    (env env' : AddEnv) : Bool :=
  let b₁ := b.chanctxDel r
  b.delOk r &&
    ((!addRefused i new env && b₁.accepts cap r new env.alloc) ||
      ((addRefused i new env || b₁.declines cap new env.alloc) &&
        restores cap b b₁ i r new (b.rlink r).chandef env env'))

def opOk (cap : DevCap) (s : MrCtl n) : Op n → Bool
  | .add i r new env =>
    addRefused i new env || (s.bands i).accepts cap r new env.alloc ||
      ((s.bands i).queue.isEmpty && (s.bands i).kmemAlloc env.alloc == none)
  | .del i r => (s.bands i).delOk r
  | .delNoSelf i => decide ((s.bands i).queue.length ≠ 1)
  | .free i => (s.bands i).queue.isEmpty
  | .chg i r new env env' => chgOk cap (s.bands i) i r new env env'
  | .upt i r => (s.bands i).uptOk r
  | .setChandef _ _ _ => true

lemma Sound.setBand {s : MrCtl n} (h : s.Sound cap) (i : HwBand) {b : HwBandCtl n}
    (hb : b.Sound cap) : (s.setBand i b).Sound cap := by
  refine ⟨h.set_ok, ?_⟩
  intro j
  by_cases hj : j = i
  · subst hj
    simpa [MrCtl.setBand] using hb
  · simpa [MrCtl.setBand, hj] using h.bands j

lemma setBand_self (s : MrCtl n) (i : HwBand) : s.setBand i (s.bands i) = s := by
  simp [setBand]

@[simp] lemma setBand_bands (s : MrCtl n) (i : HwBand) (b : HwBandCtl n) :
    (s.setBand i b).bands i = b := by
  simp [setBand]

variable {s : MrCtl n} {i : HwBand} {r : Fin n} {new : ChanDef} {env : AddEnv}

lemma rtwChanctxAdd_refused (h : addRefused i new env = true) :
    s.rtwChanctxAdd cap i r new env = (false, s) := by
  rw [rtwChanctxAdd, if_pos h]

lemma rtwChanctxAdd_accepts (hset : s.setFailed = false) (hb : (s.bands i).Shape cap)
    (hopen : addRefused i new env = false) (hacc : (s.bands i).accepts cap r new env.alloc = true) :
    ∃ b', s.rtwChanctxAdd cap i r new env = (true, s.setBand i b') ∧ b'.Sound cap ∧
      Joined (s.bands i) r new b'.queue := by
  obtain ⟨res, b', hadd, hres, hsound, hjoined, -⟩ := chanctxAdd_accepts hb hacc
  refine ⟨b', ?_, hsound, hjoined⟩
  rw [rtwChanctxAdd, if_neg (by simp [hopen]), hset, hadd]
  simp [hres, MrCtl.setBand, hset]

lemma rtwChanctxAdd_declines (hset : s.setFailed = false) (hb : (s.bands i).Shape cap)
    (hopen : addRefused i new env = false) (hdec : (s.bands i).declines cap new env.alloc = true) :
    s.rtwChanctxAdd cap i r new env =
      (false, s.setBand i { s.bands i with opMode := .none }) := by
  obtain ⟨res, hadd, hres⟩ := chanctxAdd_declines (r := r) hb hdec
  rw [rtwChanctxAdd, if_neg (by simp [hopen]), hset, hadd]
  simp [hres, MrCtl.setBand, hset]

lemma reset_empty (h : (s.bands i).Sound cap) (hq : (s.bands i).queue = []) :
    s.setBand i { s.bands i with opMode := .none } = s := by
  have hop : (s.bands i).opMode = .none := by rw [h.opMode_eq, hq]; rfl
  conv_rhs => rw [← setBand_self s i]
  rw [← hop]

variable {b : HwBandCtl n} {c : ChanCtx n} {env' : AddEnv}

lemma declines_empty {alloc : Option ℕ} (hq : b.queue = [])
    (ha : b.kmemAlloc alloc = none) : b.declines cap new alloc = true := by
  simp [declines, hq, ha]

lemma Sound.add (h : s.Sound cap) (hok : s.opOk cap (.add i r new env) = true) :
    (s.step cap (.add i r new env)).Sound cap ∧ s.Contract cap (.add i r new env) := by
  change (s.rtwChanctxAdd cap i r new env).2.Sound cap ∧ (_ → _)
  cases hopen : addRefused i new env with
  | true =>
    rw [rtwChanctxAdd_refused hopen]
    exact ⟨h, fun _ => rfl⟩
  | false =>
    simp only [opOk, hopen, Bool.false_or, Bool.or_eq_true, Bool.and_eq_true,
      List.isEmpty_iff, beq_iff_eq] at hok
    rcases hok with hacc | ⟨hq, ha⟩
    · obtain ⟨b', hadd, hb', -⟩ := rtwChanctxAdd_accepts h.set_ok (h.bands i).toShape hopen hacc
      rw [hadd]
      exact ⟨h.setBand i hb', by simp⟩
    · rw [rtwChanctxAdd_declines h.set_ok (h.bands i).toShape hopen (declines_empty hq ha),
        reset_empty (h.bands i) hq]
      exact ⟨h, fun _ => rfl⟩

lemma pairs_recreated (h : b.Shape cap) (hc : c ∈ b.queue)
    {c' : ChanCtx n} (hview : view c' = view c) (p : ChanDef × Finset (Fin n)) :
    p ∈ (eraseKey ChanCtx.addr c.addr b.queue ++ [c']).map view ↔ p ∈ b.queue.map view := by
  simp only [map_append, mem_append, mem_map, mem_eraseKey, map_cons,
    map_nil, mem_singleton]
  constructor
  · rintro (⟨x, ⟨hx, -⟩, rfl⟩ | rfl)
    · exact ⟨x, hx, rfl⟩
    · exact ⟨c, hc, hview.symm⟩
  · rintro ⟨x, hx, rfl⟩
    by_cases hk : x.addr = c.addr
    · rw [eq_of_key_eq h.nodup hx hc hk]
      exact .inr hview.symm
    · exact .inl ⟨x, ⟨hx, hk⟩, rfl⟩

lemma queue_rejoined (h : b.Shape cap) (hc : c ∈ b.queue)
    (hr : r ∈ c.roleMap) (d : ChanDef) :
    modifyKey ChanCtx.addr c.addr (fun x => { x with
        chanDef := c.chanDef, roleMap := insert r x.roleMap })
      (modifyKey ChanCtx.addr c.addr (fun x => { x with
        chanDef := d, roleMap := x.roleMap.erase r }) b.queue) = b.queue := by
  rw [modifyKey_modifyKey]
  · have hid : modifyKey ChanCtx.addr c.addr id b.queue = b.queue := by simp [modifyKey]
    conv_rhs => rw [← hid]
    apply modifyKey_congr
    intro x hx hk
    rw [eq_of_key_eq h.nodup hx hc hk]
    simp [Finset.insert_erase hr]
  · exact fun _ => rfl

lemma linkCtx_recovered {b b₁ b' : HwBandCtl n} {c : ChanCtx n} {d : ChanDef} {env' : AddEnv}
    (h : b.Shape cap) (h' : b'.Shape cap) (hc : c ∈ b.queue) (hr : r ∈ c.roleMap)
    (hat : (b.rlink r).chanctx.bind b.ctxAt = some c) (hleft : Left b r b₁.queue)
    (hjoined : Joined b₁ r d b'.queue)
    (hres : restores cap b b₁ i r new d env env' = true) (x : Fin n) :
    b'.linkCtx x = b.linkCtx x := by
  apply linkCtx_congr h h'
  simp only [restores, hat, Bool.and_eq_true] at hres
  generalize hq₁ : b₁.queue = q₁ at hleft
  generalize hq' : b'.queue = q' at hjoined
  cases hleft with
  | none hnone => simp [hnone] at hat
  | last e he hre =>
    obtain rfl : e = c := h.eq_of_mem_mem he hc (by simp [hre]) hr
    rw [if_pos (by simp [hre])] at hres
    simp only [Bool.and_eq_true, decide_eq_true_eq] at hres
    obtain ⟨-, ⟨hany, -⟩, rfl⟩ := hres
    cases hjoined with
    | grouped c₁ hc₁ =>
      simp only [Bool.not_eq_true', any_eq_false] at hany
      rw [find?_eq_none.2 hany] at hc₁
      cases hc₁
    | created a _ =>
      rw [hq₁]
      intro p
      apply pairs_recreated h hc
      simp [view, hre]
  | shared e he hre hcard g =>
    obtain rfl : e = c := h.eq_of_mem_mem he hc hre hr
    rw [if_neg hcard] at hres
    cases hjoined with
    | grouped c₁ hc₁ =>
      rw [hc₁] at hres
      obtain ⟨haddr, hadj⟩ := of_decide_eq_true hres.2
      rw [haddr, hadj, hq₁, queue_rejoined h hc hr]
      exact fun p => Iff.rfl
    | created a hc₁ =>
      rw [hc₁] at hres
      cases hres.2

lemma rtwChanctxAdd_turned_down (h : s.Sound cap)
    (hdec : (addRefused i new env || (s.bands i).declines cap new env.alloc) = true) :
    ∃ m, s.rtwChanctxAdd cap i r new env = (false, s.setBand i { s.bands i with opMode := m }) := by
  cases hopen : addRefused i new env with
  | true =>
    refine ⟨(s.bands i).opMode, ?_⟩
    rw [rtwChanctxAdd_refused hopen]
    exact congrArg _ (setBand_self s i).symm
  | false =>
    rw [hopen, Bool.false_or] at hdec
    exact ⟨.none, rtwChanctxAdd_declines h.set_ok (h.bands i).toShape hopen hdec⟩

lemma chg_without_context (h : s.Sound cap)
    (hlink : ((s.bands i).rlink r).chanctx = none)
    (hdec : (addRefused i new env || (s.bands i).declines cap new env.alloc) = true)
    (hres : restores cap (s.bands i) (s.bands i) i r new ((s.bands i).rlink r).chandef env env' = true) :
    s.chandefChg cap i r new env env' = (false, s) := by
  have hdel : s.rtwChanctxDel i r = s := by
    rw [rtwChanctxDel, chanctxDel, hlink]
    exact setBand_self s i
  simp only [restores, hlink, Option.bind_none, Bool.and_eq_true, Bool.or_eq_true,
    List.isEmpty_iff, beq_iff_eq] at hres
  have hnot : ∀ (d : ChanDef) (e : AddEnv), (addRefused i d e = true ∨
      ((s.bands i).queue = [] ∧ (s.bands i).kmemAlloc e.alloc = none)) →
      s.rtwChanctxAdd cap i r d e = (false, s) := by
    rintro d e hd
    cases hopen : addRefused i d e with
    | true => exact rtwChanctxAdd_refused hopen
    | false =>
      obtain ⟨hq, ha⟩ := hd.resolve_left (by simp [hopen])
      rw [rtwChanctxAdd_declines h.set_ok (h.bands i).toShape hopen (declines_empty hq ha),
        reset_empty (h.bands i) hq]
  have hfirst : s.rtwChanctxAdd cap i r new env = (false, s) := by
    apply hnot
    rcases hres.1 with hopen | hq
    · exact .inl hopen
    · rcases Bool.or_eq_true_iff.1 hdec with hopen | hdec
      · exact .inl hopen
      · refine .inr ⟨hq, ?_⟩
        simpa [declines, hq, roomFor] using hdec
  rw [chandefChg, hdel, hfirst]
  dsimp only
  rw [hnot _ _ hres.2]

lemma restores_accepts {b b₁ : HwBandCtl n} {c : ChanCtx n} {d : ChanDef} {env' : AddEnv}
    (hat : (b.rlink r).chanctx.bind b.ctxAt = some c) (hnone : (b₁.rlink r).chanctx = none)
    (hres : restores cap b b₁ i r new d env env' = true) :
    addRefused i d env' = false ∧ b₁.accepts cap r d env'.alloc = true := by
  simp only [restores, hat, Bool.and_eq_true, Bool.not_eq_true'] at hres
  obtain ⟨hopen, hres⟩ := hres
  refine ⟨hopen, ?_⟩
  rw [accepts, hnone, Option.isNone_none, Bool.true_and]
  by_cases hcard : c.roleMap.card = 1
  · rw [if_pos hcard, Bool.and_eq_true, Bool.and_eq_true] at hres
    rw [hres.1.2, Bool.or_true]
  · rw [if_neg hcard] at hres
    cases hfind : b₁.queue.find? (fun x => x.chanDef.isChbwGrouped d) with
    | none => simp [hfind] at hres
    | some c₁ =>
      have hc₁ : c₁.chanDef.isChbwGrouped d = true := by simpa using find?_some hfind
      have hany : b₁.queue.any (fun x => x.chanDef.isChbwGrouped d) = true :=
        any_eq_true.2 ⟨c₁, mem_of_find?_eq_some hfind, hc₁⟩
      rw [hany, Bool.true_or]

section

variable (h : s.Sound cap)
include h

lemma Sound.chg
    (hok : s.opOk cap (.chg i r new env env') = true) :
    (s.step cap (.chg i r new env env')).Sound cap ∧ s.Contract cap (.chg i r new env env') := by
  change (s.chandefChg cap i r new env env').2.Sound cap ∧ (_ → _)
  have hb := h.bands i
  simp only [opOk, chgOk, Bool.and_eq_true, Bool.or_eq_true, Bool.not_eq_true'] at hok
  obtain ⟨hdel, hok⟩ := hok
  obtain ⟨hb₁, hnone, hleft, hchandef⟩ := hb.chanctxDel hdel
  have hs₁ : (s.rtwChanctxDel i r).Sound cap := h.setBand i hb₁
  have hband : (s.rtwChanctxDel i r).bands i = (s.bands i).chanctxDel r := setBand_bands _ _ _
  rcases hok with ⟨hopen, hacc⟩ | ⟨hdec, hres⟩
  · obtain ⟨b', hadd, hb', -⟩ := rtwChanctxAdd_accepts (s := s.rtwChanctxDel i r) hs₁.set_ok
      (hband ▸ hb₁.toShape) hopen (hband ▸ hacc)
    rw [chandefChg, hadd]
    exact ⟨hs₁.setBand i hb', by simp⟩
  · cases hlink : ((s.bands i).rlink r).chanctx with
    | none =>
      have hsame : (s.bands i).chanctxDel r = s.bands i := by rw [chanctxDel, hlink]
      rw [hsame] at hdec hres
      rw [chg_without_context h hlink (Bool.or_eq_true_iff.2 hdec) hres]
      exact ⟨h, fun _ _ _ => rfl⟩
    | some a =>
      obtain ⟨c, hc, rfl, hr, hat⟩ := hb.ctxAt_link hlink
      have hctx : ((s.bands i).rlink r).chanctx.bind (s.bands i).ctxAt = some c := by
        rw [hlink, Option.bind_some, hat]
      obtain ⟨m, hadd⟩ := rtwChanctxAdd_turned_down (r := r) hs₁
        (hband ▸ Bool.or_eq_true_iff.2 hdec)
      rw [hband] at hadd
      let b₂ : HwBandCtl n := { (s.bands i).chanctxDel r with opMode := m }
      let s₂ : MrCtl n := (s.rtwChanctxDel i r).setBand i b₂
      have hband₂ : s₂.bands i = b₂ := setBand_bands _ _ _
      have hd : ((s₂.bands i).rlink r).chandef = ((s.bands i).rlink r).chandef := by
        rw [hband₂]
        exact hchandef r
      obtain ⟨hopen, hacc⟩ := restores_accepts hctx hnone hres
      have hshape₂ : (s₂.bands i).Shape cap := by
        rw [hband₂]
        exact hb₁.toShape.setOpMode m
      have hacc₂ : (s₂.bands i).accepts cap r ((s.bands i).rlink r).chandef env'.alloc = true := by
        rw [hband₂]
        exact hacc
      obtain ⟨b', hadd', hb', hjoined⟩ :=
        rtwChanctxAdd_accepts (s := s₂) hs₁.set_ok hshape₂ hopen hacc₂
      have hchg : s.chandefChg cap i r new env env' = (false, s.setBand i b') := by
        rw [chandefChg, hadd]
        change (false, (s₂.rtwChanctxAdd cap i r ((s₂.bands i).rlink r).chandef env').2) = _
        rw [hd, hadd']
        simp [s₂, MrCtl.setBand, rtwChanctxDel]
      rw [hchg]
      refine ⟨h.setBand i hb', ?_⟩
      intro _ j x
      by_cases hj : j = i
      · subst hj
        have hleft₂ : Left (s.bands j) r b₂.queue := hleft
        rw [setBand_bands]
        rw [hband₂] at hjoined
        exact linkCtx_recovered hb.toShape hb'.toShape hc hr hctx hleft₂ hjoined hres x
      · simp [MrCtl.setBand, hj]

lemma Sound.delNoSelf (hok : s.opOk cap (.delNoSelf i) = true) :
    (s.step cap (.delNoSelf i)).Sound cap := by
  apply h.setBand
  have hb := h.bands i
  have hne : (s.bands i).queue.length ≠ 1 := of_decide_eq_true hok
  have hcnt := hb.cnt_eq
  rw [chanctxDelNoSelf]
  split
  · exact hb
  · split
    · exact hb
    · rw [if_neg (by omega)]
      exact hb

lemma Sound.free (hok : s.opOk cap (.free i) = true) :
    (s.step cap (.free i)).Sound cap := by
  apply h.setBand
  have hb := h.bands i
  have hq : (s.bands i).queue = [] := List.isEmpty_iff.1 hok
  have hcnt : (s.bands i).cnt = 0 := by rw [hb.cnt_eq, hq]; rfl
  rw [chanctxFree, if_pos hcnt]
  exact hb

lemma Sound.setChandef (d : ChanDef) :
    (s.step cap (.setChandef i r d)).Sound cap := by
  apply h.setBand
  have hb := h.bands i
  have hlink : ∀ x, (Function.update (s.bands i).rlink r
      { (s.bands i).rlink r with chandef := d } x).chanctx = ((s.bands i).rlink x).chanctx := by
    intro x
    by_cases hx : x = r
    · subst hx
      simp
    · simp [hx]
  exact {
    cnt_eq := hb.cnt_eq
    length_le := hb.length_le
    nodup := hb.nodup
    nonempty := hb.nonempty
    link_iff := by
      intro x a
      rw [hlink]
      exact hb.link_iff x a
    rc_eq := hb.rc_eq
    map_iff := hb.map_iff
    mcc_of_two := hb.mcc_of_two
    opMode_eq := hb.opMode_eq
    disjoint := hb.disjoint }

lemma Sound.step (op : Op n) (hok : s.opOk cap op = true) :
    (s.step cap op).Sound cap ∧ s.Contract cap op := by
  cases op with
  | add i r new env => exact h.add hok
  | del i r => exact ⟨h.setBand i ((h.bands i).chanctxDel hok).1, trivial⟩
  | delNoSelf i => exact ⟨h.delNoSelf hok, trivial⟩
  | free i => exact ⟨h.free hok, trivial⟩
  | chg i r new env env' => exact h.chg hok
  | upt i r =>
    refine ⟨?_, trivial⟩
    rw [MrCtl.step]
    cases hlink : ((s.bands i).rlink r).chanctx with
    | none => exact h
    | some a => exact h.setBand i ((h.bands i).chandefUpt hok hlink)
  | setChandef i r d => exact ⟨h.setChandef d, trivial⟩

end

lemma sound_init (chandef : HwBand → Fin n → ChanDef) : (init chandef).Sound cap := by
  refine ⟨rfl, fun i => ?_⟩
  constructor
  · constructor <;> simp [init]
  · rfl
  · simp [init]

/-- Over every run of requests and releases whose calls meet the condition, both
bands are sound in every state, a failed request changed nothing, and a failed
change of channel gave every link its context back. -/
theorem chanctx_sound (cap : DevCap) (chandef : HwBand → Fin n → ChanDef) (ops : List (Op n))
    (h : Guarded (step cap) (fun s op => s.opOk cap op = true) (init chandef) ops) :
    (run (step cap) (init chandef) ops).Sound cap ∧
      ∀ xs op ys, ops = xs ++ op :: ys → (run (step cap) (init chandef) xs).Contract cap op := by
  refine ⟨h.invariant (fun _ op hs hok => (hs.step op hok).1) (sound_init _), ?_⟩
  rintro xs op ys rfl
  obtain ⟨hxs, hop⟩ := h.split
  have hs : (run (step cap) (init chandef) xs).Sound cap :=
    hxs.invariant (fun _ op hs hok => (hs.step op hok).1) (sound_init _)
  exact (hs.step op hop).2

/-- Two roles share channel 36, a third takes channel 6 under MCC; its change to
channel 1 fails for want of memory and gives it channel 6 back. -/
theorem chanctx_sound_run :
    ∃ (chandef : HwBand → Fin 3 → ChanDef) (ops : List (Op 3)),
      (run (step { mccSup := true }) (init chandef) ops).Sound { mccSup := true } ∧
      ((run (step { mccSup := true }) (init chandef) ops).bands .band0).opMode = .mcc ∧
      ((run (step { mccSup := true }) (init chandef) ops).bands .band0).linkCtx 2 =
        some (⟨.on24G, 6, .w20, .noExt⟩, {2}) := by
  let d36 : ChanDef := ⟨.on5G, 36, .w80, .upper⟩
  let d6 : ChanDef := ⟨.on24G, 6, .w20, .noExt⟩
  let chandef : HwBand → Fin 3 → ChanDef := fun _ r => if r = 2 then d6 else d36
  let ops : List (Op 3) := [.add .band0 0 d36 ⟨false, some 1⟩, .add .band0 1 d36 ⟨false, none⟩,
    .add .band0 2 d6 ⟨false, some 2⟩,
    .chg .band0 2 ⟨.on24G, 1, .w20, .noExt⟩ ⟨false, none⟩ ⟨false, some 3⟩]
  have h : Guarded (step { mccSup := true }) (fun s op => s.opOk { mccSup := true } op = true)
      (init chandef) ops := ⟨by decide, by decide, by decide, by decide, trivial⟩
  exact ⟨chandef, ops, (chanctx_sound { mccSup := true } chandef ops h).1, by decide, by decide⟩

/-- Channels 36 and 149 are in use when channel 6 is refused: the band is left
with two contexts and no operation mode. -/
theorem chanctx_refused_resets_mode :
    ¬ ∀ (cap : DevCap) (chandef : HwBand → Fin 3 → ChanDef) (ops : List (Op 3)),
      (run (step cap) (init chandef) ops).Sound cap := by
  intro h
  have hop := ((h { mccSup := true } (fun _ _ => ⟨.on5G, 36, .w20, .noExt⟩)
    [.add .band0 0 ⟨.on5G, 36, .w20, .noExt⟩ ⟨false, some 1⟩,
      .add .band0 1 ⟨.on5G, 149, .w20, .noExt⟩ ⟨false, some 2⟩,
      .add .band0 2 ⟨.on24G, 6, .w20, .noExt⟩ ⟨false, some 3⟩]).bands .band0).opMode_eq
  revert hop
  decide

end MrCtl
end Rtl8831.Phl
