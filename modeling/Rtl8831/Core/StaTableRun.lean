import Rtl8831.Core.StaTable
import Rtl8831.Lib.Run

/-!
# The station table over runs

The stations of the pool are divided among the free queue, the buckets, and a list of those that
`rtw_free_all_stainfo` has unlinked and not yet freed.  A station is found again as long as its
PHL station carries the address that it was allocated for.
-/

namespace Rtl8831.Core.StaTable

open Function List

open Lib (run Guarded)
open Lib.Buckets (Sorted)

variable {Sta Phl : Type}

/-- The stations of `out` are unlinked and not yet freed. -/
structure Partition (pool out : List Sta) (s : Table Sta Phl) : Prop where
  perm : (s.freeStaQueue ++ (hashed s ++ out)).Perm pool
  count : s.asocStaCount = (hashed s).length + out.length

/-- The stations of the table and of `out` can be told apart by their PHL stations. -/
structure Linked (role : Role) (selfSta : Option Phl) (out : List Sta) (s : Table Sta Phl) :
    Prop where
  sorted : Sorted (fun x => allocIndex role (s.hwaddr x)) s.staHash
  addr : ∀ x ∈ hashed s, ∀ p, s.phlSta x = some p →
    s.macAddr p = s.hwaddr x ∧ isMcast (s.hwaddr x) = false ∧
      (selfSta = some p → allocIndex role (s.hwaddr x) = wifiMacHash role.macAddr)
  distinct : ∀ x ∈ hashed s ++ out, ∀ y ∈ hashed s ++ out, ∀ p,
    s.phlSta x = some p → s.phlSta y = some p → x = y

variable {pool out : List Sta} {role : Role} {selfSta : Option Phl} {s : Table Sta Phl}

lemma Partition.nodup (h : Partition pool out s) (hpool : pool.Nodup) :
    (s.freeStaQueue ++ (hashed s ++ out)).Nodup := h.perm.nodup_iff.2 hpool

lemma Partition.not_hashed (h : Partition pool out s) (hpool : pool.Nodup) {x : Sta}
    (hx : x ∈ s.freeStaQueue) : x ∉ hashed s ++ out :=
  fun hx' => disjoint_of_nodup_append (h.nodup hpool) hx hx'

variable (macAddr : Phl → Addr)

lemma init_partition : Partition pool [] (init pool macAddr) := by
  constructor <;> simp [init, hashed]

lemma init_linked : Linked role selfSta [] (init pool macAddr) := by
  constructor <;> simp [init, hashed, Sorted]

lemma wifiMacHash_lt (mac : Addr) : wifiMacHash mac < numSta := Nat.mod_lt _ (by decide)

lemma allocIndex_lt (role : Role) (hwaddr : Addr) : allocIndex role hwaddr < numSta := by
  unfold allocIndex
  split <;> exact wifiMacHash_lt _

/-! ### A station is taken -/

section

variable [DecidableEq Sta]

def taken (role : Role) (s : Table Sta Phl) (sta : Sta) (rest : List Sta) (hwaddr : Addr) :
    Table Sta Phl :=
  { s with
    freeStaQueue := rest
    staHash := Function.update s.staHash (allocIndex role hwaddr)
      (s.staHash (allocIndex role hwaddr) ++ [sta])
    asocStaCount := s.asocStaCount + 1
    phlSta := Function.update s.phlSta sta none
    hwaddr := Function.update s.hwaddr sta hwaddr }

variable {sta : Sta} {s' : Table Sta Phl}

lemma allocCoreStainfo_cons {rest : List Sta} (h : s.freeStaQueue = sta :: rest)
    (hwaddr : Addr) :
    allocCoreStainfo role s hwaddr = (some sta, taken role s sta rest hwaddr) := by
  simp [allocCoreStainfo, h, taken]

lemma allocCoreStainfo_nil (h : s.freeStaQueue = []) (hwaddr : Addr) :
    allocCoreStainfo role s hwaddr = (none, s) := by
  simp [allocCoreStainfo, h]

lemma hashed_taken (sta : Sta) (rest : List Sta) (hwaddr : Addr) :
    (hashed (taken role s sta rest hwaddr)).Perm (sta :: hashed s) :=
  Lib.Buckets.contents_update (allocIndex_lt role hwaddr) (perm_append_singleton _ _)

lemma Partition.taken (h : Partition pool [] s) {sta : Sta} {rest : List Sta}
    (hq : s.freeStaQueue = sta :: rest) (hwaddr : Addr) :
    Partition pool [] (taken role s sta rest hwaddr) := by
  have hhashed := @hashed_taken _ _ role s _ sta rest hwaddr
  constructor
  · have hperm := h.perm
    rw [hq] at hperm
    rw [append_nil] at hperm ⊢
    exact ((hhashed.append_left rest).trans perm_middle).trans hperm
  · rw [hhashed.length_eq]
    simp [StaTable.taken, h.count]

lemma Linked.taken (h : Linked role selfSta [] s) (hp : Partition pool [] s) (hpool : pool.Nodup)
    {sta : Sta} {rest : List Sta} (hq : s.freeStaQueue = sta :: rest) (hwaddr : Addr) :
    Linked role selfSta [] (taken role s sta rest hwaddr) := by
  have hnew : sta ∉ hashed s := by
    simpa using hp.not_hashed hpool (x := sta) (by simp [hq])
  have hold : ∀ x ∈ hashed (StaTable.taken role s sta rest hwaddr), x = sta ∨ x ∈ hashed s :=
    fun x hx => mem_cons.1 ((hashed_taken sta rest hwaddr).mem_iff.1 hx)
  have hne : ∀ x ∈ hashed s, x ≠ sta := fun x hx => ne_of_mem_of_not_mem hx hnew
  -- the new station has no PHL half yet
  have hphl : ∀ x ∈ hashed (StaTable.taken role s sta rest hwaddr), ∀ p,
      (StaTable.taken role s sta rest hwaddr).phlSta x = some p →
      x ∈ hashed s ∧ s.phlSta x = some p := by
    intro x hx p hxp
    rcases hold x hx with rfl | hx
    · simp [StaTable.taken] at hxp
    · have hsame : (StaTable.taken role s sta rest hwaddr).phlSta x = s.phlSta x :=
        update_of_ne (hne x hx) _ _
      exact ⟨hx, hsame ▸ hxp⟩
  have hhw : ∀ x ∈ hashed s,
      (StaTable.taken role s sta rest hwaddr).hwaddr x = s.hwaddr x :=
    fun x hx => update_of_ne (hne x hx) _ _
  constructor
  · have hindex : allocIndex role ((StaTable.taken role s sta rest hwaddr).hwaddr sta) =
        allocIndex role hwaddr := by simp [StaTable.taken]
    have hsorted : Sorted (fun x => allocIndex role
        ((StaTable.taken role s sta rest hwaddr).hwaddr x)) s.staHash := by
      apply h.sorted.congr
      intro i x hx
      have hi : i < numSta := h.sorted i x hx ▸ allocIndex_lt role _
      rw [hhw x (Lib.Buckets.mem_contents.2 ⟨i, hi, hx⟩)]
    exact hsorted.update hindex (perm_append_singleton _ _)
  · intro x hx p hxp
    obtain ⟨hx, hxp⟩ := hphl x hx p hxp
    rw [hhw x hx]
    exact h.addr x hx p hxp
  · intro x hx y hy p hxp hyp
    rw [append_nil] at hx hy
    obtain ⟨hx, hxp⟩ := hphl x hx p hxp
    obtain ⟨hy, hyp⟩ := hphl y hy p hyp
    exact h.distinct x (by simpa using hx) y (by simpa using hy) p hxp hyp

variable [DecidableEq Phl]

lemma Linked.setPhl (h : Linked role selfSta [] s) {sta : Sta} {phl : Phl}
    (hfresh : ∀ y ∈ hashed s, s.phlSta y ≠ some phl) (hmcast : isMcast (s.hwaddr sta) = false)
    (hself : selfSta = some phl → allocIndex role (s.hwaddr sta) = wifiMacHash role.macAddr) :
    Linked role selfSta [] (setPhl s sta phl (s.hwaddr sta)) := by
  have hold : ∀ x ∈ hashed s, ∀ p, (StaTable.setPhl s sta phl (s.hwaddr sta)).phlSta x = some p →
      x = sta ∧ p = phl ∨ x ≠ sta ∧ p ≠ phl ∧ s.phlSta x = some p := by
    intro x hx p hxp
    rcases eq_or_ne x sta with rfl | hne
    · left
      simpa [StaTable.setPhl, eq_comm] using hxp
    · right
      have hsame : (StaTable.setPhl s sta phl (s.hwaddr sta)).phlSta x = s.phlSta x :=
        update_of_ne hne _ _
      rw [hsame] at hxp
      refine ⟨hne, ?_, hxp⟩
      rintro rfl
      exact hfresh x hx hxp
  constructor
  · exact h.sorted
  · intro x hx p hxp
    obtain ⟨rfl, rfl⟩ | ⟨-, hp, hxp⟩ := hold x hx p hxp
    · exact ⟨update_self _ _ _, hmcast, hself⟩
    · have hmac : (StaTable.setPhl s sta phl (s.hwaddr sta)).macAddr p = s.macAddr p :=
        update_of_ne hp _ _
      rw [hmac]
      exact h.addr x hx p hxp
  · intro x hx y hy p hxp hyp
    rw [append_nil] at hx hy
    obtain ⟨rfl, rfl⟩ | ⟨-, hp, hxp⟩ := hold x hx p hxp
    · obtain ⟨rfl, -⟩ | ⟨-, hp, -⟩ := hold y hy p hyp
      · rfl
      · exact absurd rfl hp
    · obtain ⟨rfl, rfl⟩ | ⟨-, -, hyp⟩ := hold y hy p hyp
      · exact absurd rfl hp
      · exact h.distinct x (mem_append_left _ hx) y (mem_append_left _ hy) p hxp hyp

/-! ### Stations are freed -/

/-- The table without those of its stations that `keep` leaves out. -/
def unlink (keep : Sta → Bool) (s : Table Sta Phl) : Table Sta Phl :=
  { s with staHash := fun index => (s.staHash index).filter keep }

omit [DecidableEq Sta] [DecidableEq Phl] in
lemma hashed_unlink (keep : Sta → Bool) : hashed (unlink keep s) = (hashed s).filter keep :=
  Lib.Buckets.contents_filter keep

omit [DecidableEq Sta] [DecidableEq Phl] in
lemma Partition.unlink (h : Partition pool [] s) (keep : Sta → Bool) :
    Partition pool ((hashed s).filter fun x => !keep x) (unlink keep s) := by
  have hsplit : ((hashed s).filter keep ++ (hashed s).filter fun x => !keep x).Perm (hashed s) := by
    simpa using filter_append_perm keep (hashed s)
  constructor
  · rw [hashed_unlink]
    have hperm := h.perm
    rw [append_nil] at hperm
    exact (hsplit.append_left _).trans hperm
  · rw [hashed_unlink, ← length_append, hsplit.length_eq]
    simpa [StaTable.unlink] using h.count

omit [DecidableEq Sta] [DecidableEq Phl] in
lemma Linked.unlink (h : Linked role selfSta [] s) (keep : Sta → Bool) :
    Linked role selfSta ((hashed s).filter fun x => !keep x) (unlink keep s) := by
  have hsub : ∀ x ∈ hashed (StaTable.unlink keep s) ++ (hashed s).filter (fun x => !keep x),
      x ∈ hashed s ++ [] := by
    intro x hx
    rw [hashed_unlink, mem_append] at hx
    rw [append_nil]
    exact hx.elim mem_of_mem_filter mem_of_mem_filter
  constructor
  · exact h.sorted.filter keep
  · intro x hx
    rw [hashed_unlink] at hx
    exact h.addr x (mem_of_mem_filter hx)
  · intro x hx y hy
    exact h.distinct x (hsub x hx) y (hsub y hy)

structure Freed (s : Table Sta Phl) (sta : Sta) (s' : Table Sta Phl) : Prop where
  freeStaQueue : s'.freeStaQueue = s.freeStaQueue ++ [sta]
  staHash : s'.staHash = fun index => (s.staHash index).filter (· ≠ sta)
  asocStaCount : s'.asocStaCount = s.asocStaCount - 1
  hwaddr : s'.hwaddr = s.hwaddr
  phlSta : ∀ y ≠ sta, s'.phlSta y = s.phlSta y
  macAddr : ∀ p, s.phlSta sta ≠ some p → s'.macAddr p = s.macAddr p

omit [DecidableEq Phl] in
lemma freeCoreStainfo_freed (s : Table Sta Phl) (sta : Sta) : Freed s sta (freeCoreStainfo s sta) :=
  ⟨rfl, rfl, rfl, rfl, fun _ _ => rfl, fun _ _ => rfl⟩

lemma phlFree_freed {phl : Phl} (h : s.phlSta sta = some phl) :
    Freed s sta (phlFree role (freeCoreStainfo s sta) phl) := by
  unfold phlFree
  split
  · refine ⟨rfl, rfl, rfl, rfl, fun _ _ => rfl, fun p hp => ?_⟩
    have hne : p ≠ phl := fun hpp => hp (hpp ▸ h)
    exact update_of_ne hne _ _
  · exact freeCoreStainfo_freed s sta

omit [DecidableEq Phl] in
lemma Freed.clear (h : Freed s sta s') :
    Freed s sta { s' with phlSta := Function.update s'.phlSta sta none } :=
  { h with
    phlSta := fun y hy => (update_of_ne hy _ _).trans (h.phlSta y hy) }

lemma rtwFreeStainfo_freed (h : s.phlSta sta ≠ none) :
    ∃ s', rtwFreeStainfo role s sta = some s' ∧ Freed s sta s' := by
  obtain ⟨phl, hphl⟩ := Option.ne_none_iff_exists'.1 h
  refine ⟨_, ?_, (@phlFree_freed _ _ role _ _ _ _ _ hphl).clear⟩
  simp [rtwFreeStainfo, hphl]

lemma rtwFreeStainfoSw_freed (sta : Sta) (phlOk : Bool) :
    Freed s sta (rtwFreeStainfoSw role s sta phlOk) := by
  unfold rtwFreeStainfoSw
  split
  · exact freeCoreStainfo_freed s sta
  · rename_i phl hphl
    have hfreed := @phlFree_freed _ _ role _ _ _ _ _ hphl
    cases phlOk with
    | false => exact hfreed
    | true => exact hfreed.clear

omit [DecidableEq Phl] in
lemma Freed.of_unlink (h : Freed s sta s') :
    Freed (unlink (· ≠ sta) s) sta s' :=
  { h with
    staHash := by
      rw [h.staHash]
      simp [unlink] }

omit [DecidableEq Phl] in
lemma Freed.hashed (h : Freed s sta s')
    (hx : sta ∉ hashed s) : hashed s' = hashed s := by
  have hfilter : StaTable.hashed s' = (StaTable.hashed s).filter (· ≠ sta) := by
    rw [StaTable.hashed, h.staHash]
    exact Lib.Buckets.contents_filter _
  rw [hfilter, filter_eq_self]
  intro y hy
  simpa using ne_of_mem_of_not_mem hy hx

omit [DecidableEq Phl] in
lemma Freed.partition (h : Freed s sta s')
    (hp : Partition pool (sta :: out) s) (hx : sta ∉ StaTable.hashed s) :
    Partition pool out s' := by
  constructor
  · have hperm := hp.perm
    rw [h.freeStaQueue, h.hashed hx, append_assoc, singleton_append]
    exact (perm_middle.symm.append_left _).trans hperm
  · rw [h.asocStaCount, h.hashed hx, hp.count, length_cons]
    omega

omit [DecidableEq Phl] in
lemma Freed.linked (h : Freed s sta s')
    (hl : Linked role selfSta (sta :: out) s) (hx : sta ∉ StaTable.hashed s ++ out) :
    Linked role selfSta out s' := by
  rw [mem_append, not_or] at hx
  have hhashed := h.hashed hx.1
  have hne : ∀ y ∈ StaTable.hashed s' ++ out, y ≠ sta := by
    intro y hy
    rw [hhashed, mem_append] at hy
    exact hy.elim (fun hy => ne_of_mem_of_not_mem hy hx.1) fun hy => ne_of_mem_of_not_mem hy hx.2
  have hsub : ∀ y ∈ StaTable.hashed s' ++ out, y ∈ StaTable.hashed s ++ sta :: out := by
    intro y hy
    rw [hhashed, mem_append] at hy
    rw [mem_append, mem_cons]
    exact hy.imp_right Or.inr
  have hleft : ∀ y ∈ StaTable.hashed s', y ∈ StaTable.hashed s' ++ out :=
    fun y hy => mem_append_left _ hy
  constructor
  · rw [h.hwaddr, h.staHash]
    exact hl.sorted.filter _
  · intro y hy p hyp
    rw [h.phlSta y (hne y (hleft y hy))] at hyp
    -- no other station has the PHL station that may get a new address
    have hother : s.phlSta sta ≠ some p := fun hp => hne y (hleft y hy)
      (hl.distinct y (hsub y (hleft y hy)) sta (by simp) p hyp hp)
    rw [h.macAddr p hother, h.hwaddr]
    exact hl.addr y (hhashed ▸ hy) p hyp
  · intro y hy z hz p hyp hzp
    rw [h.phlSta y (hne y hy)] at hyp
    rw [h.phlSta z (hne z hz)] at hzp
    exact hl.distinct y (hsub y hy) z (hsub z hz) p hyp hzp

omit [DecidableEq Phl] in
lemma filter_eq_single {l : List Sta} (hl : l.Nodup) {x : Sta} (hx : x ∈ l) :
    (l.filter fun y => !decide (y ≠ x)) = [x] := by
  have hcount : l.count x = 1 := count_eq_one_of_mem hl hx
  have hpred : (fun y => !decide (y ≠ x)) = (· == x) := by
    funext y
    simp only [ne_eq, decide_not, Bool.not_not]
    rfl
  rw [hpred, filter_beq, hcount, replicate_one]

omit [DecidableEq Phl] in
lemma Freed.of_hashed (h : Freed s sta s')
    (hp : Partition pool [] s) (hpool : pool.Nodup) (hx : sta ∈ StaTable.hashed s) :
    Partition pool [] s' ∧
      ∀ role selfSta, Linked role selfSta [] s → Linked role selfSta [] s' := by
  have hnodup : (StaTable.hashed s).Nodup := by
    simpa using (nodup_append.1 (hp.nodup hpool)).2.1
  have hsingle := filter_eq_single hnodup hx
  have hgone : sta ∉ StaTable.hashed (unlink (· ≠ sta) s) := by
    rw [hashed_unlink]
    simp
  have hpart := hp.unlink (· ≠ sta)
  rw [hsingle] at hpart
  refine ⟨h.of_unlink.partition hpart hgone, fun role selfSta hl => ?_⟩
  have hlink := hl.unlink (· ≠ sta)
  rw [hsingle] at hlink
  exact h.of_unlink.linked hlink (by simpa using hgone)

lemma freeListed_keeps {list : List Sta} (hp : Partition pool list s) (hpool : pool.Nodup)
    (hphl : ∀ x ∈ list, s.phlSta x ≠ none) (role' : Role) :
    ∃ s', freeListed role' list s = some s' ∧ Partition pool [] s' ∧ hashed s' = hashed s ∧
      (∀ x ∈ hashed s, s'.phlSta x = s.phlSta x) ∧
      ∀ role selfSta, Linked role selfSta list s → Linked role selfSta [] s' := by
  induction list generalizing s with
  | nil => exact ⟨s, rfl, hp, rfl, fun _ _ => rfl, fun _ _ hl => hl⟩
  | cons sta rest ih =>
    have hnodup := (nodup_append.1 (hp.nodup hpool)).2.1
    have hnot : sta ∉ StaTable.hashed s ++ rest := by
      have hperm : (StaTable.hashed s ++ sta :: rest).Perm
        (sta :: (StaTable.hashed s ++ rest)) := perm_middle
      exact (nodup_cons.1 (hperm.nodup_iff.1 hnodup)).1
    rw [mem_append, not_or] at hnot
    obtain ⟨t, ht, hfreed⟩ := @rtwFreeStainfo_freed _ _ role' _ _ _ _ (hphl sta (by simp))
    have hrest : ∀ x ∈ rest, t.phlSta x ≠ none := by
      intro x hx
      rw [hfreed.phlSta x (ne_of_mem_of_not_mem hx hnot.2)]
      exact hphl x (mem_cons_of_mem _ hx)
    obtain ⟨s', hs', hpart, hhashed, hsame, hlink⟩ := ih (hfreed.partition hp hnot.1) hrest
    rw [hfreed.hashed hnot.1] at hhashed hsame
    refine ⟨s', ?_, hpart, hhashed, ?_, fun role selfSta hl => ?_⟩
    · rw [freeListed, ht]
      exact hs'
    · intro x hx
      rw [hsame x hx, hfreed.phlSta x (ne_of_mem_of_not_mem hx hnot.1)]
    · exact hlink role selfSta (hfreed.linked hl (by simpa using hnot))

/-! ### One call -/

def Fails (s : Table Sta Phl) : TableOp Sta Phl → Prop
  | .allocCore _ => s.freeStaQueue = []
  | .alloc _ phl | .allocSw _ phl => s.freeStaQueue = [] ∨ phl = none
  | _ => False

structure SameTable (s s' : Table Sta Phl) : Prop where
  freeStaQueue : s'.freeStaQueue.Perm s.freeStaQueue
  staHash : ∀ index < numSta, s'.staHash index = s.staHash index
  asocStaCount : s'.asocStaCount = s.asocStaCount
  macAddr : s'.macAddr = s.macAddr
  phlSta : ∀ x ∈ hashed s, s'.phlSta x = s.phlSta x
  hwaddr : ∀ x ∈ hashed s, s'.hwaddr x = s.hwaddr x

/-- `rtw_alloc_stainfo` must not fail, only stations of the table are freed, and those that are
freed through the PHL have a PHL half. -/
def SafeOk (s : Table Sta Phl) : TableOp Sta Phl → Prop
  | .alloc hwaddr phl => ¬Fails s (.alloc hwaddr phl)
  | .free sta => sta ∈ hashed s ∧ s.phlSta sta ≠ none
  | .freeSw sta _ => sta ∈ hashed s
  | .freeAll selfs =>
    s.asocStaCount = 1 ∨ ∀ x ∈ hashed s, isSelf s selfs x = false → s.phlSta x ≠ none
  | _ => True

/-- What the PHL gives is no station of the table, and it is the self station of the role only in
a role that has no other or for the own address; no station is allocated for a group. -/
def FreshOk (role : Role) (selfSta : Option Phl) (s : Table Sta Phl) : TableOp Sta Phl → Prop
  | .alloc hwaddr (some phl) | .allocSw hwaddr (some phl) =>
    (∀ y ∈ hashed s, s.phlSta y ≠ some phl) ∧ isMcast hwaddr = false ∧
      (selfSta = some phl → role.type.ownBucket ∨ hwaddr = role.macAddr)
  | _ => True

structure Kept (pool : List Sta) (call : Role × TableOp Sta Phl) (s s' : Table Sta Phl) :
    Prop where
  partition : Partition pool [] s'
  fails : Fails s call.2 → SameTable s s'
  halves : (∀ hwaddr, call.2 ≠ .allocCore hwaddr) → (∀ x ∈ hashed s, s.phlSta x ≠ none) →
    ∀ x ∈ hashed s', s'.phlSta x ≠ none
  linked : ∀ role selfSta, call.1 = role → FreshOk role selfSta s call.2 →
    Linked role selfSta [] s → Linked role selfSta [] s'

omit [DecidableEq Sta] [DecidableEq Phl] in
lemma SameTable.refl (s : Table Sta Phl) : SameTable s s :=
  ⟨.rfl, fun _ _ => rfl, rfl, rfl, fun _ _ => rfl, fun _ _ => rfl⟩

omit [DecidableEq Sta] [DecidableEq Phl] in
lemma kept_refl (h : Partition pool [] s) (call : Role × TableOp Sta Phl) : Kept pool call s s :=
  ⟨h, fun _ => .refl s, fun _ hs => hs, fun _ _ _ _ hl => hl⟩

omit [DecidableEq Phl] in
lemma kept_allocCore (h : Partition pool [] s) (hpool : pool.Nodup) (r : Role) (hwaddr : Addr) :
    Kept pool (r, .allocCore hwaddr) s (allocCoreStainfo r s hwaddr).2 := by
  cases hq : s.freeStaQueue with
  | nil =>
    rw [allocCoreStainfo_nil hq]
    exact kept_refl h _
  | cons sta rest =>
    rw [allocCoreStainfo_cons hq]
    refine ⟨h.taken hq hwaddr, ?_, ?_, ?_⟩
    · intro hf
      simp [Fails, hq] at hf
    · intro hne
      exact absurd rfl (hne hwaddr)
    · rintro role selfSta rfl - hl
      exact hl.taken h hpool hq hwaddr

omit [DecidableEq Phl] in
lemma taken_phlSta (h : Partition pool [] s) (hpool : pool.Nodup) {sta : Sta} {rest : List Sta}
    (hq : s.freeStaQueue = sta :: rest) (r : Role) (hwaddr : Addr) {x : Sta} (hx : x ∈ hashed s) :
    (taken r s sta rest hwaddr).phlSta x = s.phlSta x ∧
      (taken r s sta rest hwaddr).hwaddr x = s.hwaddr x := by
  have hnew : sta ∉ hashed s := by
    simpa using h.not_hashed hpool (x := sta) (by simp [hq])
  have hne : x ≠ sta := ne_of_mem_of_not_mem hx hnew
  exact ⟨update_of_ne hne _ _, update_of_ne hne _ _⟩

lemma kept_given (h : Partition pool [] s) (hpool : pool.Nodup) {sta : Sta} {rest : List Sta}
    (hq : s.freeStaQueue = sta :: rest) (r : Role) {hwaddr : Addr} {phl : Phl}
    {op : TableOp Sta Phl} (hop : op = .alloc hwaddr (some phl) ∨ op = .allocSw hwaddr (some phl)) :
    Kept pool (r, op) s (setPhl (taken r s sta rest hwaddr) sta phl hwaddr) := by
  have hpart := @Partition.taken _ _ _ r _ _ h _ _ hq hwaddr
  have hmem : ∀ x ∈ hashed (taken r s sta rest hwaddr), x = sta ∨ x ∈ hashed s :=
    fun x hx => mem_cons.1 ((hashed_taken sta rest hwaddr).mem_iff.1 hx)
  refine ⟨⟨hpart.perm, hpart.count⟩, ?_, ?_, ?_⟩
  · intro hf
    rcases hop with rfl | rfl <;> simp [Fails, hq] at hf
  · intro _ hs x hx
    rcases eq_or_ne x sta with rfl | hne
    · simp [setPhl]
    · have hx := (hmem x hx).resolve_left hne
      have hphl : (setPhl (taken r s sta rest hwaddr) sta phl hwaddr).phlSta x =
          (taken r s sta rest hwaddr).phlSta x := update_of_ne hne _ _
      rw [hphl, (taken_phlSta h hpool hq r hwaddr hx).1]
      exact hs x hx
  · rintro role selfSta rfl hfresh hl
    obtain ⟨hfresh, hmcast, hself⟩ : (∀ y ∈ hashed s, s.phlSta y ≠ some phl) ∧
        isMcast hwaddr = false ∧
          (selfSta = some phl → r.type.ownBucket ∨ hwaddr = r.macAddr) := by
      rcases hop with rfl | rfl <;> exact hfresh
    have haddr : (taken r s sta rest hwaddr).hwaddr sta = hwaddr := update_self _ _ _
    have hset := @Linked.setPhl _ _ _ _ _ _ _ (hl.taken h hpool hq hwaddr) sta phl
    rw [haddr] at hset
    refine hset ?_ hmcast ?_
    · intro y hy
      rcases hmem y hy with rfl | hy
      · simp [taken]
      · rw [(taken_phlSta h hpool hq r hwaddr hy).1]
        exact hfresh y hy
    · intro hs
      unfold allocIndex
      rcases hself hs with hown | rfl
      · simp [hown]
      · simp

omit [DecidableEq Phl] in
lemma kept_rolledBack (h : Partition pool [] s) (hpool : pool.Nodup) {sta : Sta}
    {rest : List Sta} (hq : s.freeStaQueue = sta :: rest) (r : Role) (hwaddr : Addr) :
    Kept pool (r, .allocSw hwaddr none) s (freeCoreStainfo (taken r s sta rest hwaddr) sta) := by
  have hpart := @Partition.taken _ _ _ r _ _ h _ _ hq hwaddr
  have hperm := @hashed_taken _ _ r s _ sta rest hwaddr
  have hsta : sta ∈ hashed (taken r s sta rest hwaddr) := hperm.mem_iff.2 (by simp)
  have hnew : sta ∉ hashed s := by
    simpa using h.not_hashed hpool (x := sta) (by simp [hq])
  have hfreed := freeCoreStainfo_freed (taken r s sta rest hwaddr) sta
  obtain ⟨hpart', hlinked⟩ := hfreed.of_hashed hpart hpool hsta
  have hbucket : ∀ index < numSta,
      (freeCoreStainfo (taken r s sta rest hwaddr) sta).staHash index = s.staHash index := by
    intro index hi
    have hnot : sta ∉ s.staHash index := fun hmem => hnew (Lib.Buckets.mem_contents.2 ⟨_, hi, hmem⟩)
    have hfilter : (s.staHash index).filter (· ≠ sta) = s.staHash index := by
      rw [filter_eq_self]
      intro y hy
      simpa using ne_of_mem_of_not_mem hy hnot
    change (Function.update s.staHash _ _ index).filter _ = _
    rcases eq_or_ne index (allocIndex r hwaddr) with rfl | hne
    · rw [update_self, filter_append, hfilter]
      simp
    · rw [update_of_ne hne, hfilter]
  have hsame : hashed (freeCoreStainfo (taken r s sta rest hwaddr) sta) = hashed s :=
    flatMap_congr fun index hi => hbucket index (mem_range.1 hi)
  refine ⟨hpart', ?_, ?_, ?_⟩
  · intro _
    refine ⟨?_, hbucket, rfl, rfl, fun x hx => ?_, fun x hx => ?_⟩
    · rw [hq]
      exact perm_append_singleton _ _
    · exact (taken_phlSta h hpool hq r hwaddr hx).1
    · exact (taken_phlSta h hpool hq r hwaddr hx).2
  · intro _ hs x hx
    rw [hsame] at hx
    have hphl : (freeCoreStainfo (taken r s sta rest hwaddr) sta).phlSta x = s.phlSta x :=
      (taken_phlSta h hpool hq r hwaddr hx).1
    rw [hphl]
    exact hs x hx
  · rintro role selfSta rfl - hl
    exact hlinked r selfSta (hl.taken h hpool hq hwaddr)

omit [DecidableEq Phl] in
lemma kept_freed (h : Partition pool [] s) (hpool : pool.Nodup) {sta : Sta}
    (hsta : sta ∈ hashed s) {s' : Table Sta Phl} (hfreed : Freed s sta s') (r : Role)
    {op : TableOp Sta Phl} (hop : ¬Fails s op) : Kept pool (r, op) s s' := by
  obtain ⟨hpart, hlinked⟩ := hfreed.of_hashed h hpool hsta
  refine ⟨hpart, fun hf => absurd hf hop, ?_, ?_⟩
  · intro _ hs x hx
    have hfilter : hashed s' = (hashed s).filter (· ≠ sta) := by
      rw [hashed, hfreed.staHash]
      exact Lib.Buckets.contents_filter _
    rw [hfilter, mem_filter] at hx
    rw [hfreed.phlSta x (by simpa using hx.2)]
    exact hs x hx.1
  · rintro role selfSta - - hl
    exact hlinked role selfSta hl

lemma kept_freeAll (h : Partition pool [] s) (hpool : pool.Nodup) (r : Role)
    {selfs : List (Option Phl)} (hok : SafeOk s (.freeAll selfs)) :
    ∃ s', rtwFreeAllStainfo r s selfs = some s' ∧ Kept pool (r, .freeAll selfs) s s' := by
  rw [rtwFreeAllStainfo]
  split_ifs with hcount
  · exact ⟨s, rfl, kept_refl h _⟩
  · have hphl : ∀ x ∈ (hashed s).filter (fun x => !isSelf s selfs x), s.phlSta x ≠ none := by
      intro x hx
      obtain ⟨hx, hself⟩ := mem_filter.1 hx
      exact hok.resolve_left hcount x hx (by simpa using hself)
    obtain ⟨s', hs', hpart, hhashed, hsame, hlink⟩ :=
      freeListed_keeps (h.unlink (isSelf s selfs)) hpool hphl r
    rw [hashed_unlink] at hhashed hsame
    refine ⟨s', hs', hpart, False.elim, ?_, ?_⟩
    · intro _ hs x hx
      rw [hhashed] at hx
      rw [hsame x hx]
      exact hs x (mem_of_mem_filter hx)
    · rintro role selfSta - - hl
      exact hlink role selfSta (hl.unlink (isSelf s selfs))

lemma runOp_kept (h : Partition pool [] s) (hpool : pool.Nodup) (r : Role) (op : TableOp Sta Phl)
    (hok : SafeOk s op) : ∃ s', runOp r s op = some s' ∧ Kept pool (r, op) s s' := by
  cases op with
  | allocCore hwaddr => exact ⟨_, rfl, kept_allocCore h hpool r hwaddr⟩
  | alloc hwaddr phl =>
    simp only [SafeOk, Fails, not_or] at hok
    obtain ⟨hq, hphl⟩ := hok
    obtain ⟨sta, rest, hq⟩ := exists_cons_of_ne_nil hq
    obtain ⟨phl, rfl⟩ := Option.ne_none_iff_exists'.1 hphl
    refine ⟨_, ?_, kept_given h hpool hq r (.inl rfl)⟩
    rw [runOp, rtwAllocStainfo, allocCoreStainfo_cons hq]
  | allocSw hwaddr phl =>
    refine ⟨_, rfl, ?_⟩
    cases hq : s.freeStaQueue with
    | nil =>
      rw [rtwAllocStainfoSw, allocCoreStainfo_nil hq]
      exact kept_refl h _
    | cons sta rest =>
      rw [rtwAllocStainfoSw, allocCoreStainfo_cons hq]
      cases phl with
      | none => exact kept_rolledBack h hpool hq r hwaddr
      | some phl => exact kept_given h hpool hq r (.inr rfl)
  | free sta =>
    obtain ⟨hsta, hphl⟩ := hok
    obtain ⟨s', hs', hfreed⟩ := @rtwFreeStainfo_freed _ _ r _ _ _ _ hphl
    exact ⟨s', hs', kept_freed h hpool hsta hfreed r id⟩
  | freeSw sta phlOk =>
    exact ⟨_, rfl, kept_freed h hpool hok (rtwFreeStainfoSw_freed sta phlOk) r id⟩
  | freeAll selfs => exact kept_freeAll h hpool r hok

/-! ### The search -/

omit [DecidableEq Sta] [DecidableEq Phl] in
lemma getIndex_eq_allocIndex {network addr : Addr} (hmcast : isMcast addr = false)
    (htdls : ¬(role.type = .tdls ∧ addr = network ∧ wifiMacHash role.macAddr ≠ wifiMacHash addr)) :
    getIndex role network addr = allocIndex role addr := by
  unfold getIndex allocIndex
  rw [hmcast, if_neg Bool.false_ne_true]
  split_ifs with hown htype haddr
  · rfl
  · by_contra hne
    exact htdls ⟨htype, haddr, hne⟩
  · rfl
  · rfl

/-- What the search has to return: a station that was allocated for the address, the self station
for a group, and nothing when the table has none. -/
def Found (role : Role) (network : Addr) (selfSta : Option Phl) (s : Table Sta Phl) (addr : Addr) :
    Prop :=
  let wanted := fun x => s.phlSta x ≠ none ∧
    if isMcast addr then s.phlSta x = selfSta else s.hwaddr x = addr
  match rtwGetStainfo role s network selfSta addr with
  | some x => x ∈ hashed s ∧ wanted x
  | none => ∀ x ∈ hashed s, ¬wanted x

omit [DecidableEq Sta] in
lemma found_unicast (hl : Linked role selfSta [] s) {network addr : Addr}
    (hmcast : isMcast addr = false)
    (htdls : ¬(role.type = .tdls ∧ addr = network ∧ wifiMacHash role.macAddr ≠ wifiMacHash addr)) :
    Found role network selfSta s addr := by
  have hindex := getIndex_eq_allocIndex hmcast htdls
  simp only [Found, hmcast, Bool.false_eq_true, if_false]
  cases hget : rtwGetStainfo role s network selfSta addr with
  | some x =>
    simp only [rtwGetStainfo, hmcast, Bool.false_eq_true, false_and, if_false, hindex] at hget
    have hx : x ∈ hashed s :=
      Lib.Buckets.mem_contents.2 ⟨_, allocIndex_lt role addr, mem_of_find?_eq_some hget⟩
    have hpred := find?_some hget
    cases hphl : s.phlSta x with
    | none => simp [hphl] at hpred
    | some p =>
      have hmac : s.macAddr p = addr := by simpa [hphl] using hpred
      exact ⟨hx, by simp [hphl], (hl.addr x hx p hphl).1.symm.trans hmac⟩
  | none =>
    simp only [rtwGetStainfo, hmcast, Bool.false_eq_true, false_and, if_false, hindex,
      find?_eq_none] at hget
    rintro x hx ⟨hphl, rfl⟩
    have hbucket := (hl.sorted.mem_iff (allocIndex_lt role (s.hwaddr x))).1 hx
    obtain ⟨p, hp⟩ := Option.ne_none_iff_exists'.1 hphl
    have hnot := hget x hbucket
    simp [hp, (hl.addr x hx p hp).1] at hnot

omit [DecidableEq Sta] in
lemma found_group (hl : Linked role selfSta [] s) {network addr : Addr}
    (hmcast : isMcast addr = true) : Found role network selfSta s addr := by
  have hindex : getIndex role network addr = wifiMacHash role.macAddr := by simp [getIndex, hmcast]
  simp only [Found, hmcast, if_true]
  cases selfSta with
  | none =>
    have hget : rtwGetStainfo role s network none addr = none := by simp [rtwGetStainfo, hmcast]
    rw [hget]
    rintro x - ⟨hne, heq⟩
    exact hne heq
  | some self =>
    cases hget : rtwGetStainfo role s network (some self) addr with
    | some x =>
      simp only [rtwGetStainfo, hmcast, reduceCtorEq, and_false, if_false, hindex] at hget
      have hx : x ∈ hashed s := Lib.Buckets.mem_contents.2
        ⟨_, wifiMacHash_lt _, mem_of_find?_eq_some hget⟩
      have hpred := find?_some hget
      cases hphl : s.phlSta x with
      | none => simp [hphl] at hpred
      | some p =>
        obtain ⟨hmac, hgroup, -⟩ := hl.addr x hx p hphl
        have hor : self = p ∨ s.macAddr p = addr := by simpa [hphl] using hpred
        refine ⟨hx, by simp [hphl], ?_⟩
        rcases hor with rfl | rfl
        · exact hphl
        · rw [hmac, hgroup] at hmcast
          exact absurd hmcast Bool.false_ne_true
    | none =>
      simp only [rtwGetStainfo, hmcast, reduceCtorEq, and_false, if_false, hindex,
        find?_eq_none] at hget
      rintro x hx ⟨-, hphl⟩
      have hbucket := (hl.sorted.mem_iff (allocIndex_lt role (s.hwaddr x))).1 hx
      rw [(hl.addr x hx self hphl).2.2 rfl] at hbucket
      have hnot := hget x hbucket
      simp [hphl] at hnot

/-! ### Runs -/

def On (ok : Table Sta Phl → Role × TableOp Sta Phl → Prop) (s : Option (Table Sta Phl))
    (call : Role × TableOp Sta Phl) : Prop := ∀ t ∈ s, ok t call

def Safe : Option (Table Sta Phl) → Role × TableOp Sta Phl → Prop := On fun s call => SafeOk s call.2

def Fresh (role : Role) (selfSta : Option Phl) :
    Option (Table Sta Phl) → Role × TableOp Sta Phl → Prop :=
  On fun s call => call.1 = role ∧ FreshOk role selfSta s call.2

/-- What holds after the calls of `calls`. -/
structure Reached (pool : List Sta) (macAddr : Phl → Addr) (calls : List (Role × TableOp Sta Phl))
    (s : Table Sta Phl) : Prop where
  partition : Partition pool [] s
  halves : (∀ call ∈ calls, ∀ hwaddr, call.2 ≠ .allocCore hwaddr) →
    ∀ x ∈ hashed s, s.phlSta x ≠ none
  linked : ∀ role selfSta, Guarded step (Fresh role selfSta) (some (init pool macAddr)) calls →
    Linked role selfSta [] s

lemma run_reached (hpool : pool.Nodup) (macAddr : Phl → Addr)
    {calls : List (Role × TableOp Sta Phl)}
    (h : Guarded step Safe (some (init pool macAddr)) calls) :
    ∃ s, run step (some (init pool macAddr)) calls = some s ∧ Reached pool macAddr calls s := by
  refine @Guarded.history _ _ _ _ (fun calls s => ∃ t, s = some t ∧ Reached pool macAddr calls t) _
    ⟨_, rfl, init_partition macAddr, by simp [init, hashed], fun _ _ _ => init_linked macAddr⟩ ?_ _ h
  rintro xs call ⟨t, ht, hreached⟩ hok
  obtain ⟨t', ht', hkept⟩ := runOp_kept hreached.partition hpool call.1 call.2 (hok t ht)
  refine ⟨t', ?_, hkept.partition, ?_, ?_⟩
  · rw [ht]
    exact ht'
  · intro hcore
    apply hkept.halves (hcore call (by simp))
    exact hreached.halves fun c hc => hcore c (by simp [hc])
  · intro role selfSta hfresh
    obtain ⟨hxs, hlast⟩ := hfresh.split
    obtain ⟨hrole, hfreshOk⟩ := hlast t ht
    exact hkept.linked role selfSta hrole hfreshOk (hreached.linked role selfSta hxs)

/-- In a run under the condition each station of the pool is free or in one bucket, the count is
right, failed allocations change nothing, no station lacks its PHL half, and while the role stays
the same the search returns what was allocated. -/
theorem sta_table_run (hpool : pool.Nodup) (macAddr : Phl → Addr)
    (calls : List (Role × TableOp Sta Phl))
    (h : Guarded step Safe (some (init pool macAddr)) calls) :
    ∃ s, run step (some (init pool macAddr)) calls = some s ∧
      (s.freeStaQueue ++ hashed s).Perm pool ∧
      s.asocStaCount = (hashed s).length ∧
      Guarded step (fun s call => ∃ t t', s = some t ∧ step s call = some t' ∧
        (Fails t call.2 → SameTable t t')) (some (init pool macAddr)) calls ∧
      ((∀ call ∈ calls, ∀ hwaddr, call.2 ≠ .allocCore hwaddr) →
        ∀ x ∈ hashed s, s.phlSta x ≠ none) ∧
      ∀ role selfSta, Guarded step (Fresh role selfSta) (some (init pool macAddr)) calls →
        ∀ network addr,
          ¬(isMcast addr = false ∧ role.type = .tdls ∧ addr = network ∧
            wifiMacHash role.macAddr ≠ wifiMacHash addr) →
          Found role network selfSta s addr := by
  obtain ⟨s, hs, hreached⟩ := run_reached hpool macAddr h
  refine ⟨s, hs, ?_, ?_, ?_, hreached.halves, ?_⟩
  · simpa using hreached.partition.perm
  · simpa using hreached.partition.count
  · refine @Guarded.steps _ _ _ _ _ (fun s => ∃ t, s = some t ∧ Partition pool [] t) ?_ ?_ _ _
      ⟨_, rfl, init_partition macAddr⟩ h
    · rintro _ call ⟨t, rfl, ht⟩ hok
      obtain ⟨t', ht', hkept⟩ := runOp_kept ht hpool call.1 call.2 (hok t rfl)
      exact ⟨t', ht', hkept.partition⟩
    · rintro _ call ⟨t, rfl, ht⟩ hok
      obtain ⟨t', ht', hkept⟩ := runOp_kept ht hpool call.1 call.2 (hok t rfl)
      exact ⟨t, t', rfl, ht', hkept.fails⟩
  · intro role selfSta hfresh network addr haddr
    have hl := hreached.linked role selfSta hfresh
    cases hmcast : isMcast addr with
    | true => exact found_group hl hmcast
    | false => exact found_unicast hl hmcast fun htdls => haddr ⟨hmcast, htdls⟩

end

section

def apRole : Role := ⟨.ap, [0, 0, 0, 0, 0, 1]⟩

def peer : Addr := [0, 0, 0, 0, 0, 2]

theorem sta_table_run_ap :
    ∃ s, run step (some (init [0, 1] fun _ : ℕ => []))
        [(apRole, .alloc apRole.macAddr (some 0)), (apRole, .allocSw peer (some 1))] = some s ∧
      (s.freeStaQueue ++ hashed s).Perm [0, 1] ∧ s.asocStaCount = (hashed s).length ∧
      ∀ addr, Found apRole [] (some 0) s addr := by
  have hsafe : Guarded step Safe (some (init [0, 1] fun _ : ℕ => []))
      [(apRole, .alloc apRole.macAddr (some 0)), (apRole, .allocSw peer (some 1))] := by
    refine ⟨?_, ?_, trivial⟩
    · rintro _ ⟨rfl⟩
      simp [SafeOk, Fails, init]
    · rintro _ -
      trivial
  have hfresh : Guarded step (Fresh apRole (some 0)) (some (init [0, 1] fun _ : ℕ => []))
      [(apRole, .alloc apRole.macAddr (some 0)), (apRole, .allocSw peer (some 1))] := by
    refine ⟨?_, ?_, trivial⟩
    · rintro _ ⟨rfl⟩
      refine ⟨rfl, by decide, by decide, fun _ => .inr rfl⟩
    · rintro _ ⟨rfl⟩
      refine ⟨rfl, by decide, by decide, by decide⟩
  obtain ⟨s, hs, hperm, hcount, -, -, hfound⟩ :=
    sta_table_run (by decide) (fun _ : ℕ => []) _ hsafe
  refine ⟨s, hs, hperm, hcount, fun addr => ?_⟩
  apply hfound apRole (some 0) hfresh
  rintro ⟨-, htype, -⟩
  exact absurd htype (by decide)

/-- The station that the PHL refuses stays in the table, and freeing it reads through NULL, as
does an allocation when no station is free. -/
theorem alloc_refused_stays :
    (∃ s, step (some (init [0, 1] fun _ : ℕ => [])) (apRole, .alloc peer none) = some s ∧
      ¬SameTable (init [0, 1] fun _ : ℕ => []) s ∧ rtwGetStainfo apRole s [] (some 0) peer = none ∧
      step (some s) (apRole, .free 0) = none) ∧
    step (some (init [] fun _ : ℕ => [])) (apRole, .alloc (peer) (some 0)) =
      (none : Option (Table ℕ ℕ)) := by
  refine ⟨⟨_, rfl, ?_, by decide, rfl⟩, rfl⟩
  intro h
  exact absurd h.asocStaCount (by decide)

end

end Rtl8831.Core.StaTable
