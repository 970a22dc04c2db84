import Rtl8831.Lib.Run
import Rtl8831.Phl.ChanCtx

/-!
# The check of a channel before it is requested

`rtw_phl_chanctx_chk_by_band` walks the queue of a band as `phl_chanctx_add` does, to
tell beforehand whether a channel can be taken and in which operation mode.  It knows
the band, but neither the role nor what the allocator has to offer.
-/

namespace Rtl8831.Phl

open Lib List

variable {n : ℕ}

namespace HwBandCtl

/-- `rtw_phl_chanctx_chk_by_band`: whether the channel is acceptable, and `sugg_opmode`.
Without a channel only the mode is told. -/
def chanctxChkByBand (cap : DevCap) (isDb : Bool) (b : HwBandCtl n) (new : Option ChanDef) :
    Bool × MrOpMode :=
  match new with
  | some new =>
    if new.chan = 0 then (false, .none)
    else if b.cnt = 0 then (true, .swr)
    else if b.queue.any (fun c => c.chanDef.isChbwGrouped new) then
      (true, if b.cnt = 1 then .scc else if b.cnt = 2 ∧ cap.mccSup then .mcc else .none)
    else if b.cnt ≥ 2 then
      (false, if cap.dbcc && !cap.mcmbSkipDbcc && cap.dbccSup then .dbcc else .none)
    else if b.queue.getLast?.any (fun c => dbccInstead cap new c.chanDef) then (false, .dbcc)
    else if cap.mccSup then (true, .mcc)
    else (false, .none)
  | none =>
    (false, if isDb = false then b.opMode
      else if cap.dbcc ∧ b.opMode = .none then .dbcc else .none)

def target (b : HwBandCtl n) (new : ChanDef) : Option (ChanCtx n) :=
  if b.cnt = 0 then none else b.queue.find? fun c => c.chanDef.isChbwGrouped new

/-- The role is not yet on the context its request is grouped with, and if there is none,
a context can be made. -/
def admits (failed : Bool) (b : HwBandCtl n) (r : Fin n) (new : ChanDef) (alloc : Option ℕ) :
    Bool :=
  match b.target new with
  | some c => decide (r ∉ c.roleMap)
  | none => (b.kmemAlloc alloc).isSome && decide (b.cnt ≤ 1) && !failed && !new.unknown

variable {cap : DevCap} {failed isDb : Bool} {b : HwBandCtl n} {r : Fin n} {new : ChanDef}
  {alloc : Option ℕ}

def Placed (b : HwBandCtl n) (r : Fin n) (d : ChanDef) : Prop :=
  ∃ c ∈ b.queue, (b.rlink r).chanctx = some c.addr ∧ r ∈ c.roleMap ∧ c.chanDef = d

lemma ccBandMapSet_failed (b : HwBandCtl n) (d : ChanDef) :
    (ccBandMapSet failed b d).1 = (failed || d.unknown) := by
  obtain ⟨band, chan, bw, offset⟩ := d
  unfold ccBandMapSet ChanDef.unknown ChanDef.ccBand
  cases band with
  | on24G => simp
  | on5G => cases ccBand5G chan <;> simp
  | on6G => cases ccBand6G chan <;> simp
  | max => simp

lemma ccBandMapSet_frame (b : HwBandCtl n) (d : ChanDef) :
    (ccBandMapSet failed b d).2.queue = b.queue ∧ (ccBandMapSet failed b d).2.rlink = b.rlink := by
  unfold ccBandMapSet
  split <;> exact ⟨rfl, rfl⟩

lemma ctxCreate_fst : (b.ctxCreate failed r new alloc).1 =
    ((b.kmemAlloc alloc).isSome && decide (b.cnt ≤ 1) && !failed && !new.unknown) := by
  unfold ctxCreate
  cases b.kmemAlloc alloc with
  | none => rfl
  | some a =>
    simp only [ctxAdd, Option.isSome_some, Bool.true_and]
    by_cases hcnt : b.cnt ≤ 1
    · have hroom : ¬ b.cnt + 1 > 2 := by omega
      simp only [if_neg hroom, ccBandMapSet_failed]
      cases failed <;> cases new.unknown <;> simp [hcnt]
    · have hfull : b.cnt + 1 > 2 := by omega
      rw [if_pos hfull, decide_eq_false hcnt]
      rfl

lemma ctxCreate_placed (h : (b.ctxCreate failed r new alloc).1 = true) :
    (b.ctxCreate failed r new alloc).2.2.Placed r new := by
  unfold ctxCreate at h ⊢
  cases hk : b.kmemAlloc alloc with
  | none => simp [hk] at h
  | some a =>
    simp only [hk] at h ⊢
    split_ifs at h ⊢ with hok
    unfold ctxAdd at hok ⊢
    dsimp only at hok ⊢
    split_ifs at hok ⊢ with hcnt
    obtain ⟨hqueue, -⟩ := @ccBandMapSet_frame _ failed
      { b with queue := b.queue ++ [⟨a, new, ∅⟩], cnt := b.cnt + 1 } new
    refine ⟨⟨a, new, {r}⟩, ?_, by simp [rmapSet, setLink], by simp, rfl⟩
    simp only [rmapSet, Finset.notMem_empty, if_false, setLink, hqueue, modifyKey,
      map_append, mem_append]
    exact .inr (by simp)

variable {c : ChanCtx n} (m : MrOpMode)

lemma addCreate_fst :
    (b.addCreate m failed r new alloc).1.grouped = (b.ctxCreate failed r new alloc).1 := by
  unfold addCreate
  split
  · rename_i h
    rw [h]
  · rename_i h
    rw [h]

lemma addCreate_placed {m : MrOpMode} (h : (b.ctxCreate failed r new alloc).1 = true) :
    ((b.addCreate m failed r new alloc).1 = ⟨true, new, m⟩ ∧
      (b.addCreate m failed r new alloc).2.2.opMode = m) ∧
        (b.addCreate m failed r new alloc).2.2.Placed r new := by
  have hp := ctxCreate_placed h
  unfold addCreate
  split
  · rename_i hc
    rw [hc] at hp
    exact ⟨⟨rfl, rfl⟩, hp⟩
  · rename_i hc
    rw [hc] at h
    cases h

lemma rmapSet_placed {d : ChanDef} {b₁ : HwBandCtl n} (hc : c ∈ b.queue)
    (hr : r ∉ c.roleMap)
    (hq : b₁.queue = modifyKey ChanCtx.addr c.addr (fun x => { x with chanDef := d }) b.queue)
    (m : MrOpMode) : Placed { (b₁.rmapSet r c).2 with opMode := m } r d := by
  refine ⟨⟨c.addr, d, insert r c.roleMap⟩, ?_, ?_, by simp, rfl⟩
  · simp only [rmapSet, if_neg hr, setLink, hq, modifyKey, map_map, mem_map]
    exact ⟨c, hc, by simp⟩
  · simp [rmapSet, hr, setLink]

lemma rmapSet_fst (hr : r ∉ c.roleMap) (b : HwBandCtl n) :
    b.rmapSet r c = (true, (b.rmapSet r c).2) := by
  simp [rmapSet, hr]

lemma addGrouped_placed (hc : c ∈ b.queue) (hr : r ∉ c.roleMap) :
    ((b.addGrouped cap r new c).1.grouped = true ∧
      (b.addGrouped cap r new c).1.suggOpmode =
        if b.cnt = 1 then .scc else if b.cnt = 2 ∧ cap.mccSup then .mcc else .none) ∧
      (b.opMode = .none →
        (b.addGrouped cap r new c).2.opMode = (b.addGrouped cap r new c).1.suggOpmode) ∧
      (b.addGrouped cap r new c).2.Placed r (b.addGrouped cap r new c).1.newChdef := by
  unfold addGrouped
  simp only
  rw [rmapSet_fst hr]
  dsimp only
  split_ifs with h1 h2
  · exact ⟨⟨rfl, rfl⟩, fun _ => rfl, rmapSet_placed hc hr rfl _⟩
  · exact ⟨⟨rfl, rfl⟩, fun _ => rfl, rmapSet_placed hc hr rfl _⟩
  · refine ⟨⟨rfl, rfl⟩, fun hop => ?_, rmapSet_placed hc hr rfl _⟩
    simp [rmapSet, hr, setLink, hop]

lemma addGrouped_refused (hr : r ∈ c.roleMap) :
    (b.addGrouped cap r new c).1.grouped = false := by
  simp [addGrouped, rmapSet, hr]

structure Predicts (chk : Bool × MrOpMode) (admitted : Bool) (r : Fin n)
    (add : AddRes × Bool × HwBandCtl n) : Prop where
  grouped_iff : add.1.grouped = true ↔ chk.1 = true ∧ admitted = true
  sugg_eq : add.1.grouped = true ∨ chk.1 = false → add.1.suggOpmode = chk.2
  opMode_eq : add.1.grouped = true → add.2.2.opMode = chk.2
  placed : add.1.grouped = true → add.2.2.Placed r add.1.newChdef

lemma predicts_create : Predicts (true, m)
    ((b.kmemAlloc alloc).isSome && decide (b.cnt ≤ 1) && !failed && !new.unknown) r
    (b.addCreate m failed r new alloc) := by
  have hgrouped := (@addCreate_fst n failed b r new alloc m).trans ctxCreate_fst
  have hplaced : (b.addCreate m failed r new alloc).1.grouped = true →
      ((b.addCreate m failed r new alloc).1 = ⟨true, new, m⟩ ∧
        (b.addCreate m failed r new alloc).2.2.opMode = m) ∧
          (b.addCreate m failed r new alloc).2.2.Placed r new :=
    fun h => addCreate_placed ((addCreate_fst m).symm.trans h)
  constructor
  · rw [hgrouped]
    simp
  · intro h
    rw [(hplaced (h.resolve_right Bool.noConfusion)).1.1]
  · intro h
    exact (hplaced h).1.2
  · intro h
    rw [(hplaced h).1.1]
    exact (hplaced h).2

lemma predicts_refused {m : MrOpMode} {d : ChanDef} {st : Bool × HwBandCtl n} (admitted : Bool) :
    Predicts (false, m) admitted r (⟨false, d, m⟩, st) := by
  constructor <;> simp

lemma chanctxAdd_predicted (hchan : new.chan ≠ 0) :
    Predicts (b.chanctxChkByBand cap isDb (some new)) (b.admits failed r new alloc) r
      (b.chanctxAdd cap failed r new alloc) := by
  unfold chanctxChkByBand chanctxAdd admits target
  dsimp only
  rw [if_neg hchan]
  by_cases hcnt : b.cnt = 0
  · simp only [if_pos hcnt]
    exact @predicts_create n failed { b with opMode := .none } r new alloc .swr
  simp only [if_neg hcnt]
  cases hfind : b.queue.find? fun c => c.chanDef.isChbwGrouped new with
  | some c =>
    have hmem := mem_of_find?_eq_some hfind
    have hany : b.queue.any (fun c => c.chanDef.isChbwGrouped new) = true :=
      any_eq_true.2 ⟨c, hmem, by simpa using find?_some hfind⟩
    rw [if_pos hany]
    dsimp only
    by_cases hr : r ∈ c.roleMap
    · have href := @addGrouped_refused n cap { b with opMode := .none } r new c hr
      constructor <;> simp [href, hr]
    · obtain ⟨⟨hg, hs⟩, ho, hp⟩ :=
        @addGrouped_placed n cap { b with opMode := .none } r new c hmem hr
      refine ⟨?_, fun _ => hs, fun _ => (ho rfl).trans hs, fun _ => hp⟩
      simp [hg, hr]
  | none =>
    have hany : ¬ b.queue.any (fun c => c.chanDef.isChbwGrouped new) = true := by
      rw [any_eq_true]
      rintro ⟨c, hc, hgrouped⟩
      exact find?_eq_none.1 hfind c hc hgrouped
    rw [if_neg hany]
    dsimp only
    by_cases htwo : b.cnt ≥ 2
    · simp only [if_pos htwo]
      exact predicts_refused _
    simp only [if_neg htwo]
    split_ifs
    · exact predicts_refused _
    · exact @predicts_create n failed { b with opMode := .none } r new alloc .mcc
    · exact predicts_refused _

/-- The first band once role `0` is on channel 36 with 80 MHz. -/
def oneContext : HwBandCtl 3 :=
  (run (MrCtl.step { mccSup := true }) (MrCtl.init fun _ _ => ⟨.on5G, 36, .w80, .upper⟩)
    [.add .band0 0 ⟨.on5G, 36, .w80, .upper⟩ ⟨false, some 1⟩]).bands .band0

end HwBandCtl
end Rtl8831.Phl
