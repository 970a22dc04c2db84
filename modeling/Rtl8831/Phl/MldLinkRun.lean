import Rtl8831.Phl.MldLink

/-!
# The link table after every run

As long as a station is only linked while no MLD lists it, and an MLD is only
given back when no station points to it, the table of every MLD is in order and
every pointer leads to an MLD in use.
-/

namespace Rtl8831.Phl

open Function List

namespace MldLink

open StaPool (MacAddr)
open TbttSync (isApCategory isClientCategory)

variable {role : ℕ → Role} {s : State} {m m' x : ℕ} {l : List ℕ}

def InUse (s : State) (m : ℕ) : Prop := m ∈ s.assoc (s.mld m).wrole

instance (s : State) (m : ℕ) : Decidable (InUse s m) := inferInstanceAs (Decidable (_ ∈ _))

def Lists (s : State) (m x : ℕ) : Prop := ∃ i < (s.mld m).staNum, (s.mld m).phlSta i = some x

/-- The table of an MLD holds the stations of `l`. -/
structure Table (s : State) (m : ℕ) (l : List ℕ) : Prop where
  num : (s.mld m).staNum = l.length
  sta : ∀ i, (s.mld m).phlSta i = l[i]?
  back : ∀ x ∈ l, s.staMld x = some m
  order : l.Pairwise (s.linkedAt · < s.linkedAt ·)
  past : ∀ x ∈ l, s.linkedAt x < s.clock
  le : l.length ≤ rtwRlinkMax
  legacy : (s.mld m).type = .legacy → l.length ≤ 1

lemma Table.lists_iff (h : Table s m l) : Lists s m x ↔ x ∈ l := by
  constructor
  · rintro ⟨i, -, hi⟩
    rw [h.sta] at hi
    exact mem_of_getElem? hi
  · intro hx
    obtain ⟨i, hi, rfl⟩ := mem_iff_getElem.1 hx
    refine ⟨i, h.num ▸ hi, ?_⟩
    rw [h.sta]
    exact getElem?_eq_getElem hi

lemma Table.congr (h : Table s m l) {s' : State} (hnum : (s'.mld m).staNum = (s.mld m).staNum)
    (hsta : (s'.mld m).phlSta = (s.mld m).phlSta)
    (htype : (s'.mld m).type = .legacy → (s.mld m).type = .legacy)
    (hback : ∀ x ∈ l, s'.staMld x = s.staMld x) (hat : ∀ x ∈ l, s'.linkedAt x = s.linkedAt x)
    (hclock : s.clock ≤ s'.clock) : Table s' m l where
  num := hnum.trans h.num
  sta i := by rw [hsta, h.sta]
  back x hx := (hback x hx).trans (h.back x hx)
  order := by
    refine h.order.imp_of_mem fun {x y} hx hy hlt => ?_
    rw [hat x hx, hat y hy]
    exact hlt
  past x hx := by
    rw [hat x hx]
    exact (h.past x hx).trans_le hclock
  le := h.le
  legacy ht := h.legacy (htype ht)

/-- What holds in every state: each MLD has a table, what is in use is on the
queue of its role, and every pointer is to an MLD in use. -/
structure Inv (s : State) : Prop where
  table : ∀ m, ∃ l, Table s m l
  ptr : ∀ x m, s.staMld x = some m → InUse s m
  idle : ∀ m, ¬InUse s m → (s.mld m).type = .inactive
  role : ∀ r, ∀ m ∈ s.assoc r, (s.mld m).wrole = r
  assocNodup : ∀ r, (s.assoc r).Nodup
  freeNodup : s.free.Nodup
  free : ∀ m ∈ s.free, ¬InUse s m

lemma Inv.back (h : Inv s) (hx : Lists s m x) : s.staMld x = some m := by
  obtain ⟨l, hl⟩ := h.table m
  exact hl.back x (hl.lists_iff.1 hx)

lemma Inv.not_lists (h : Inv s) (hx : s.staMld x = none) (m : ℕ) : ¬Lists s m x := by
  intro hl
  rw [h.back hl] at hx
  exact nomatch hx

lemma Inv.init : Inv init where
  table _ := ⟨[], rfl, fun _ => rfl, fun _ h => (nomatch h), .nil, fun _ h => (nomatch h),
    Nat.zero_le _, fun _ => Nat.zero_le _⟩
  ptr _ _ h := (nomatch h)
  idle _ _ := rfl
  role _ _ h := (nomatch h)
  assocNodup _ := .nil
  freeNodup := nodup_range
  free _ _ h := (nomatch h)

/-! ## Linking -/

@[simp] lemma linkAt_staMld (s : State) (m x k : ℕ) :
    (linkAt s m x k).staMld = update s.staMld x (some m) := rfl

@[simp] lemma linkAt_linkedAt (s : State) (m x k : ℕ) :
    (linkAt s m x k).linkedAt = update s.linkedAt x s.clock := rfl

lemma linkAt_mld (s : State) (m x k : ℕ) :
    (linkAt s m x k).mld = update s.mld m
      { s.mld m with phlSta := update (s.mld m).phlSta k (some x), staNum := k + 1 } := by
  simp [linkAt, phlLinkMldStainfo]

lemma linkAt_wrole (s : State) (m x k m' : ℕ) :
    ((linkAt s m x k).mld m').wrole = (s.mld m').wrole := by
  rw [linkAt_mld]
  by_cases hm : m' = m
  · subst hm
    rw [update_self]
  · rw [update_of_ne hm]

lemma linkAt_inUse (s : State) (m x k m' : ℕ) : InUse (linkAt s m x k) m' ↔ InUse s m' := by
  unfold InUse
  rw [linkAt_wrole]
  rfl

lemma linkAt_type (s : State) (m x k m' : ℕ) :
    ((linkAt s m x k).mld m').type = (s.mld m').type := by
  rw [linkAt_mld]
  by_cases hm : m' = m
  · subst hm
    rw [update_self]
  · rw [update_of_ne hm]

variable {l' : List ℕ} (q : List ℕ)

lemma Table.linkAt (h : Table s m (l ++ l')) (hx : x ∉ l)
    (htail : l'.length ≤ 1) (hle : l.length < rtwRlinkMax)
    (hlegacy : (s.mld m).type = .legacy → l = []) :
    Table (linkAt s m x l.length) m (l ++ [x]) where
  num := by simp [linkAt_mld]
  sta i := by
    rw [linkAt_mld, update_self]
    dsimp only
    by_cases hi : i = l.length
    · subst hi
      simp
    · rw [update_of_ne hi, h.sta, getElem?_append, getElem?_append]
      by_cases hlt : i < l.length
      · rw [if_pos hlt, if_pos hlt]
      · rw [if_neg hlt, if_neg hlt, getElem?_eq_none (by omega),
          getElem?_eq_none (by simp; omega)]
  back y hy := by
    rw [linkAt_staMld]
    rcases mem_append.1 hy with hy | hy
    · have hne : y ≠ x := fun heq => hx (heq ▸ hy)
      rw [update_of_ne hne]
      exact h.back y (mem_append_left _ hy)
    · rw [mem_singleton.1 hy, update_self]
  order := by
    have hkeep : ∀ y ∈ l, (MldLink.linkAt s m x l.length).linkedAt y = s.linkedAt y := by
      intro y hy
      have hne : y ≠ x := fun heq => hx (heq ▸ hy)
      rw [linkAt_linkedAt, update_of_ne hne]
    rw [pairwise_append]
    refine ⟨?_, pairwise_singleton _ _, fun y hy z hz => ?_⟩
    · refine (pairwise_append.1 h.order).1.imp_of_mem fun {y z} hy hz hlt => ?_
      rw [hkeep y hy, hkeep z hz]
      exact hlt
    · rw [mem_singleton.1 hz, hkeep y hy, linkAt_linkedAt, update_self]
      exact h.past y (mem_append_left _ hy)
  past y hy := by
    show _ < s.clock + 1
    rw [linkAt_linkedAt]
    by_cases hyx : y = x
    · rw [hyx, update_self]
      exact Nat.lt_succ_self _
    · rw [update_of_ne hyx]
      rcases mem_append.1 hy with hy | hy
      · exact (h.past y (mem_append_left _ hy)).trans (Nat.lt_succ_self _)
      · exact absurd (mem_singleton.1 hy) hyx
  le := by
    rw [length_append]
    exact hle
  legacy ht := by
    rw [linkAt_type] at ht
    rw [hlegacy ht]
    exact Nat.le_refl 1

lemma Inv.linkAt (h : Inv s) (ht : Table s m (l ++ l')) (hm : InUse s m)
    (hx : x ∉ l) (hother : ∀ m', Lists s m' x → m' = m) (htail : l'.length ≤ 1)
    (hle : l.length < rtwRlinkMax) (hlegacy : (s.mld m).type = .legacy → l = []) :
    Inv (linkAt s m x l.length) where
  table m' := by
    by_cases hm' : m' = m
    · subst hm'
      exact ⟨_, ht.linkAt hx htail hle hlegacy⟩
    · obtain ⟨k, hk⟩ := h.table m'
      have hxk : ∀ y ∈ k, y ≠ x := fun y hy heq =>
        hm' (hother m' (hk.lists_iff.2 (heq ▸ hy)))
      refine ⟨k, hk.congr ?_ ?_ ?_ ?_ ?_ (Nat.le_succ _)⟩
      · rw [linkAt_mld, update_of_ne hm']
      · rw [linkAt_mld, update_of_ne hm']
      · rw [linkAt_type]
        exact id
      · intro y hy
        rw [linkAt_staMld, update_of_ne (hxk y hy)]
      · intro y hy
        rw [linkAt_linkedAt, update_of_ne (hxk y hy)]
  ptr y m' hy := by
    rw [linkAt_inUse]
    rw [linkAt_staMld] at hy
    by_cases hyx : y = x
    · rw [hyx, update_self, Option.some.injEq] at hy
      exact hy ▸ hm
    · rw [update_of_ne hyx] at hy
      exact h.ptr y m' hy
  idle m' hm' := by
    rw [linkAt_inUse] at hm'
    rw [linkAt_type]
    exact h.idle m' hm'
  role r m' hm' := by
    rw [linkAt_wrole]
    exact h.role r m' hm'
  assocNodup := h.assocNodup
  freeNodup := h.freeNodup
  free m' hm' := by
    rw [linkAt_inUse]
    exact h.free m' hm'

/-- `rtw_phl_link_mld_stainfo` leaves everything alone. -/
def NoEffect (role : ℕ → Role) (s : State) (m : ℕ) : Prop :=
  (s.mld m).type = .inactive ∨ (role (s.mld m).wrole).rlinkNum ≤ (s.mld m).staNum ∨
    (s.mld m).type = .mld ∧ isApCategory (role (s.mld m).wrole).type = false ∧
      isClientCategory (role (s.mld m).wrole).type = false

def SafeLink (role : ℕ → Role) (s : State) (m x : ℕ) : Prop :=
  NoEffect role s m ∨ ∀ m', Lists s m' x → m' = m ∧ (s.mld m).type = .legacy

lemma Inv.rtwPhlLinkMldStainfo (h : Inv s) (hsafe : SafeLink role s m x) :
    Inv (rtwPhlLinkMldStainfo role s m x).1 := by
  have hlinks : ∀ {t : State × Bool}, t = (MldLink.linkAt s m x (s.mld m).staNum, true) →
      (s.mld m).staNum < (role (s.mld m).wrole).rlinkNum → (s.mld m).type = .mld →
      ¬NoEffect role s m → Inv t.1 := by
    rintro t rfl hnum htype hno
    obtain ⟨l, hl⟩ := h.table m
    have hother := hsafe.resolve_left hno
    have hin : InUse s m := by
      by_contra hout
      rw [h.idle m hout] at htype
      exact absurd htype (by decide)
    have hle := (role (s.mld m).wrole).rlinkNum_le
    have hxl : x ∉ l := fun hx => by
      have hleg := (hother m (hl.lists_iff.2 hx)).2
      rw [htype] at hleg
      exact absurd hleg (by decide)
    rw [hl.num]
    rw [hl.num] at hnum
    refine Inv.linkAt h (?_ : Table s m (l ++ [])) hin hxl (fun m' hm' => (hother m' hm').1) (Nat.zero_le 1)
      (by omega) ?_
    · rw [append_nil]
      exact hl
    · intro hleg
      rw [htype] at hleg
      exact absurd hleg (by decide)
  unfold MldLink.rtwPhlLinkMldStainfo
  dsimp only
  split
  · exact h
  rename_i hact
  split
  · exact h
  rename_i hroom
  split
  · rename_i hleg
    obtain ⟨l, hl⟩ := h.table m
    have hin : InUse s m := by
      by_contra hout
      exact hact (h.idle m hout)
    refine Inv.linkAt h (l := []) hl hin not_mem_nil (fun m' hm' => ?_) (hl.legacy hleg)
      (by decide) (fun _ => rfl)
    rcases hsafe with (hno | hno | ⟨hno, -⟩) | hother
    · exact absurd hno hact
    · exact absurd hno hroom
    · rw [hleg] at hno
      exact absurd hno (by decide)
    · exact (hother m' hm').1
  · rename_i hleg
    have htype : (s.mld m).type = .mld := by
      cases ht : (s.mld m).type with
      | inactive => exact absurd ht hact
      | legacy => exact absurd ht hleg
      | mld => rfl
    split
    · rename_i hap
      refine hlinks rfl (by omega) htype ?_
      rintro (hno | hno | ⟨-, hno, -⟩)
      · exact hact hno
      · exact hroom hno
      · rw [hno] at hap
        exact absurd hap (by decide)
    · split
      · rename_i hcl
        refine hlinks rfl (by omega) htype ?_
        rintro (hno | hno | ⟨-, -, hno⟩)
        · exact hact hno
        · exact hroom hno
        · rw [hno] at hcl
          exact absurd hcl (by decide)
      · exact h

/-! ## Unlinking -/

lemma setMld_self (s : State) (m : ℕ) (d : Mld) : (setMld s m d).mld m = d :=
  update_self ..

lemma setMld_of_ne (s : State) (d : Mld) (h : m' ≠ m) : (setMld s m d).mld m' = s.mld m' :=
  update_of_ne h ..

lemma Inv.setMld (h : Inv s) {d : Mld} (ht : Table (setMld s m d) m l)
    (hrole : d.wrole = (s.mld m).wrole) (htype : d.type = (s.mld m).type) :
    Inv (setMld s m d) := by
  have hwrole : ∀ m', ((MldLink.setMld s m d).mld m').wrole = (s.mld m').wrole := by
    intro m'
    by_cases hm : m' = m
    · rw [hm, setMld_self, hrole]
    · rw [setMld_of_ne s d hm]
  have huse : ∀ m', InUse (MldLink.setMld s m d) m' ↔ InUse s m' := by
    intro m'
    unfold InUse
    rw [hwrole]
    rfl
  refine ⟨fun m' => ?_, fun y m' hy => ?_, fun m' hm' => ?_, fun r m' hm' => ?_, h.assocNodup,
    h.freeNodup, fun m' hm' => ?_⟩
  · by_cases hm : m' = m
    · exact ⟨l, hm ▸ ht⟩
    · obtain ⟨k, hk⟩ := h.table m'
      refine ⟨k, hk.congr ?_ ?_ ?_ (fun _ _ => rfl) (fun _ _ => rfl) (Nat.le_refl _)⟩
      · rw [setMld_of_ne s d hm]
      · rw [setMld_of_ne s d hm]
      · rw [setMld_of_ne s d hm]
        exact id
  · exact (huse m').2 (h.ptr y m' hy)
  · have hidle := h.idle m' (fun hin => hm' ((huse m').2 hin))
    by_cases hm : m' = m
    · rw [hm, setMld_self, htype, ← hm, hidle]
    · rw [setMld_of_ne s d hm, hidle]
  · exact (hwrole m').trans (h.role r m' hm')
  · rw [huse]
    exact h.free m' hm'

lemma shift_eq (h : Table s m l) {lidx n : ℕ} (hn : lidx + n < l.length) :
    shift s m lidx n = setMld s m { s.mld m with
      phlSta := fun i => if lidx ≤ i ∧ i < lidx + n then l[i + 1]? else l[i]? } := by
  induction n with
  | zero =>
    have hsame : (fun i => if lidx ≤ i ∧ i < lidx + 0 then l[i + 1]? else l[i]?) =
        (s.mld m).phlSta := by
      funext i
      rw [if_neg (by omega), h.sta]
    rw [hsame]
    show s = { s with mld := update s.mld m (s.mld m) }
    rw [update_eq_self]
  | succ n ih =>
    have hlt : lidx + 1 + n < l.length := by omega
    have hread : (if lidx ≤ lidx + 1 + n ∧ lidx + 1 + n < lidx + n
        then l[lidx + 1 + n + 1]? else l[lidx + 1 + n]?) = some l[lidx + 1 + n] := by
      rw [if_neg (by omega), getElem?_eq_getElem hlt]
    have hstep {y : ℕ} (hy : ((shift s m lidx n).mld m).phlSta (lidx + 1 + n) = some y) :
        shift s m lidx (n + 1) =
          phlLinkMldStainfo (shift s m lidx n) m y (lidx + 1 + n - 1) := by
      unfold shift at hy ⊢
      rw [range'_1_concat, foldl_append, foldl_cons, foldl_nil, hy]
    have hback : update s.staMld l[lidx + 1 + n] (some m) = s.staMld := by
      rw [← h.back _ (getElem_mem hlt), update_eq_self]
    have htable : update
        (fun i => if lidx ≤ i ∧ i < lidx + n then l[i + 1]? else l[i]?)
        (lidx + 1 + n - 1) (some l[lidx + 1 + n]) =
        fun i => if lidx ≤ i ∧ i < lidx + (n + 1) then l[i + 1]? else l[i]? := by
      funext i
      by_cases hi : i = lidx + 1 + n - 1
      · subst hi
        rw [update_self, if_pos (by omega), ← getElem?_eq_getElem hlt]
        congr 1
        omega
      · rw [update_of_ne hi]
        by_cases hin : lidx ≤ i ∧ i < lidx + n
        · rw [if_pos hin, if_pos (by omega)]
        · rw [if_neg hin, if_neg (by omega)]
    rw [hstep (by rw [ih (by omega), setMld_self]; exact hread), ih (by omega)]
    simp only [phlLinkMldStainfo, MldLink.setMld, update_self, update_idem,
      hback, htable]

lemma Table.eraseIdx (h : Table s m l) {lidx : ℕ} (hi : lidx < l.length) :
    Table (setMld s m { s.mld m with
      phlSta := update (fun i => if lidx ≤ i ∧ i < lidx + (l.length - (lidx + 1))
        then l[i + 1]? else l[i]?) (l.length - 1) none
      staNum := l.length - 1 }) m (l.eraseIdx lidx) where
  num := by rw [setMld_self, length_eraseIdx_of_lt hi]
  sta i := by
    rw [setMld_self, getElem?_eraseIdx]
    dsimp only
    by_cases hlast : i = l.length - 1
    · subst hlast
      rw [update_self, if_neg (by omega), getElem?_eq_none (by omega)]
    · rw [update_of_ne hlast]
      by_cases hlt : i < lidx
      · rw [if_pos hlt, if_neg (by omega)]
      · rw [if_neg hlt]
        by_cases hin : i < lidx + (l.length - (lidx + 1))
        · rw [if_pos ⟨by omega, hin⟩]
        · rw [if_neg (by omega), getElem?_eq_none (by omega),
            getElem?_eq_none (by omega)]
  back x hx := h.back x (mem_of_mem_eraseIdx hx)
  order := h.order.sublist (eraseIdx_sublist _ _)
  past x hx := h.past x (mem_of_mem_eraseIdx hx)
  le := (length_eraseIdx_le _ _).trans h.le
  legacy ht := by
    rw [setMld_self] at ht
    exact (length_eraseIdx_le _ _).trans (h.legacy ht)

lemma Inv.rtwPhlUnlinkMldStainfo (h : Inv s) (m x : ℕ) : Inv (rtwPhlUnlinkMldStainfo s m x) := by
  obtain ⟨l, hl⟩ := h.table m
  unfold MldLink.rtwPhlUnlinkMldStainfo
  dsimp only
  split
  · exact h
  · rename_i lidx hfind
    have hlt : lidx < l.length := by
      have hmem := mem_range.1 (mem_of_find?_eq_some hfind)
      rwa [hl.num] at hmem
    rw [hl.num, shift_eq hl (by omega), setMld_self]
    have hcollapse : ∀ d d', MldLink.setMld (MldLink.setMld s m d) m d' = MldLink.setMld s m d' := by
      intro d d'
      unfold MldLink.setMld
      rw [update_idem]
    rw [hcollapse]
    exact h.setMld (hl.eraseIdx hlt) rfl rfl

/-! ## Allocation -/

lemma Inv.setAddr (h : Inv s) (m : ℕ) (a : MacAddr) :
    Inv (MldLink.setMld s m { s.mld m with macAddr := a }) := by
  obtain ⟨l, hl⟩ := h.table m
  refine h.setMld (hl.congr ?_ ?_ ?_ (fun _ _ => rfl) (fun _ _ => rfl) (Nat.le_refl _)) rfl rfl
  · rw [setMld_self]
  · rw [setMld_self]
  · rw [setMld_self]
    exact id

lemma existing_eq {r : ℕ} {a : MacAddr} {d : Mld} (h : existing role s r a = some (m, d)) :
    ∃ a', d = { s.mld m with macAddr := a' } := by
  unfold existing at h
  dsimp only at h
  split at h
  · rw [Option.some.injEq, Prod.mk.injEq] at h
    obtain ⟨rfl, rfl⟩ := h
    exact ⟨a, rfl⟩
  · obtain ⟨m', -, heq⟩ := Option.map_eq_some_iff.1 h
    rw [Prod.mk.injEq] at heq
    obtain ⟨rfl, rfl⟩ := heq
    exact ⟨_, rfl⟩

lemma Inv.phlAllocMld (h : Inv s) (r : ℕ) (a : MacAddr) (type : DevType) :
    Inv (phlAllocMld role s r a type).1 := by
  unfold MldLink.phlAllocMld
  split
  · rename_i m d hex
    obtain ⟨a', rfl⟩ := existing_eq hex
    exact h.setAddr m a'
  split
  · exact h
  rename_i m free hfree
  have hout : ¬InUse s m := h.free m (hfree ▸ mem_cons_self)
  have hnodup := hfree ▸ h.freeNodup
  have hnot : ∀ r', m ∉ s.assoc r' := by
    intro r' hm
    have hrole := h.role r' m hm
    exact hout (show m ∈ s.assoc (s.mld m).wrole by rwa [hrole])
  -- the others are in use as before
  have huse : ∀ m', m' ≠ m → (m' ∈ update s.assoc r (s.assoc r ++ [m])
      (s.mld m').wrole ↔ InUse s m') := by
    intro m' hm'
    unfold InUse
    by_cases hr : (s.mld m').wrole = r
    · rw [hr, update_self, mem_append, mem_singleton]
      exact or_iff_left hm'
    · rw [update_of_ne hr]
  refine ⟨fun m' => ?_, fun y m' hy => ?_, fun m' hm' => ?_, fun r' m' hm' => ?_, fun r' => ?_,
    (nodup_cons.1 hnodup).2, fun m' hm' => ?_⟩
  · by_cases hm : m' = m
    · subst hm
      refine ⟨[], ?_, ?_, fun _ h => (nomatch h), .nil, fun _ h => (nomatch h), Nat.zero_le _,
        fun _ => Nat.zero_le _⟩
      · dsimp only
        rw [update_self]
        rfl
      · intro i
        dsimp only
        rw [update_self]
        rfl
    · obtain ⟨k, hk⟩ := h.table m'
      refine ⟨k, hk.congr ?_ ?_ ?_ (fun _ _ => rfl) (fun _ _ => rfl) (Nat.le_refl _)⟩ <;>
        dsimp only <;> rw [update_of_ne hm]
      exact id
  · have hne : m' ≠ m := fun heq => hout (heq ▸ h.ptr y m' hy)
    unfold InUse
    dsimp only
    rw [update_of_ne hne]
    exact (huse m' hne).2 (h.ptr y m' hy)
  · by_cases hm : m' = m
    · subst hm
      refine absurd ?_ hm'
      unfold InUse
      dsimp only
      rw [update_self, update_self]
      exact mem_append_right _ (mem_singleton_self _)
    · unfold InUse at hm'
      dsimp only at hm' ⊢
      rw [update_of_ne hm] at hm' ⊢
      exact h.idle m' (fun hin => hm' ((huse m' hm).2 hin))
  · dsimp only at hm' ⊢
    by_cases hr : r' = r
    · subst hr
      rw [update_self, mem_append, mem_singleton] at hm'
      rcases hm' with hm' | rfl
      · have hne : m' ≠ m := fun heq => hnot r' (heq ▸ hm')
        rw [update_of_ne hne]
        exact h.role r' m' hm'
      · rw [update_self]
    · rw [update_of_ne hr] at hm'
      have hne : m' ≠ m := fun heq => hnot r' (heq ▸ hm')
      rw [update_of_ne hne]
      exact h.role r' m' hm'
  · dsimp only
    by_cases hr : r' = r
    · subst hr
      rw [update_self]
      refine (h.assocNodup r').append (nodup_singleton m) fun y hy hy' => ?_
      exact hnot r' (mem_singleton.1 hy' ▸ hy)
    · rw [update_of_ne hr]
      exact h.assocNodup r'
  · have hne : m' ≠ m := fun heq => (nodup_cons.1 hnodup).1 (heq ▸ hm')
    unfold InUse
    dsimp only
    rw [update_of_ne hne, huse m' hne]
    exact h.free m' (hfree ▸ mem_cons_of_mem _ hm')

/-! ## Freeing -/

lemma giveBack_mld (s : State) (m : ℕ) :
    (q.foldl giveBack s).mld m =
      if m ∈ q then { s.mld m with type := .inactive } else s.mld m := by
  induction q generalizing s with
  | nil => rw [if_neg not_mem_nil, foldl_nil]
  | cons y q ih =>
    rw [foldl_cons, ih]
    unfold giveBack
    dsimp only
    by_cases hm : m = y
    · subst hm
      rw [update_self, if_pos mem_cons_self, ite_self]
    · rw [update_of_ne hm]
      by_cases hq : m ∈ q
      · rw [if_pos hq, if_pos (mem_cons_of_mem _ hq)]
      · rw [if_neg hq, if_neg (fun h => (mem_cons.1 h).elim hm hq)]

lemma giveBack_rest (s : State) :
    (q.foldl giveBack s).free = s.free ++ q ∧ (q.foldl giveBack s).assoc = s.assoc ∧
      (q.foldl giveBack s).staMld = s.staMld ∧ (q.foldl giveBack s).linkedAt = s.linkedAt ∧
      (q.foldl giveBack s).clock = s.clock := by
  induction q generalizing s with
  | nil => exact ⟨(append_nil _).symm, rfl, rfl, rfl, rfl⟩
  | cons y q ih =>
    obtain ⟨hfree, hrest⟩ := ih (giveBack s y)
    refine ⟨?_, hrest⟩
    rw [foldl_cons, hfree]
    show (s.free ++ [y]) ++ q = _
    rw [append_assoc, singleton_append]

lemma Inv.release (h : Inv s) {r : ℕ} {q rest : List ℕ} (hq : (s.assoc r).Perm (q ++ rest))
    (hptr : ∀ m ∈ q, ∀ x, s.staMld x ≠ some m) :
    Inv (q.foldl giveBack { s with assoc := update s.assoc r rest }) := by
  have hnodup := hq.nodup_iff.1 (h.assocNodup r)
  obtain ⟨hq1, hq2, hdisj⟩ := nodup_append.1 hnodup
  have hmemq : ∀ m ∈ q, m ∈ s.assoc r := fun m hm =>
    hq.mem_iff.2 (mem_append_left _ hm)
  have husedq : ∀ m ∈ q, InUse s m := fun m hm => by
    unfold InUse
    rw [h.role r m (hmemq m hm)]
    exact hmemq m hm
  obtain ⟨hfree, hassoc, hsta, hat, hclock⟩ :=
    giveBack_rest q { s with assoc := update s.assoc r rest }
  have hmld := giveBack_mld q { s with assoc := update s.assoc r rest }
  have hkeep : ∀ m, ((q.foldl giveBack { s with assoc := update s.assoc r rest }).mld
      m).wrole = (s.mld m).wrole := by
    intro m
    rw [hmld]
    split <;> rfl
  -- exactly those of `q` are no longer in use
  have huse : ∀ m, InUse (q.foldl giveBack { s with assoc := update s.assoc r rest }) m ↔
      InUse s m ∧ m ∉ q := by
    intro m
    unfold InUse
    rw [hkeep, hassoc]
    dsimp only
    by_cases hr : (s.mld m).wrole = r
    · rw [hr, update_self, hq.mem_iff, mem_append]
      constructor
      · exact fun hm => ⟨.inr hm, fun hm' => hdisj m hm' m hm rfl⟩
      · exact fun ⟨hm, hm'⟩ => hm.resolve_left hm'
    · rw [update_of_ne hr]
      exact ⟨fun hm => ⟨hm, fun hm' => hr (h.role r m (hmemq m hm'))⟩, fun hm => hm.1⟩
  refine ⟨fun m => ?_, fun y m hy => ?_, fun m hm => ?_, fun r' m hm => ?_, fun r' => ?_, ?_,
    fun m hm => ?_⟩
  · obtain ⟨l, hl⟩ := h.table m
    refine ⟨l, hl.congr ?_ ?_ ?_ (fun x _ => ?_) (fun x _ => ?_) (Nat.le_of_eq hclock.symm)⟩
    · rw [hmld]
      split <;> rfl
    · rw [hmld]
      split <;> rfl
    · rw [hmld]
      split
      · exact fun heq => (nomatch heq)
      · exact id
    · rw [hsta]
    · rw [hat]
  · rw [hsta] at hy
    exact (huse m).2 ⟨h.ptr y m hy, fun hm => hptr m hm y hy⟩
  · rw [hmld]
    by_cases hmq : m ∈ q
    · rw [if_pos hmq]
    · rw [if_neg hmq]
      exact h.idle m fun hin => hm ((huse m).2 ⟨hin, hmq⟩)
  · rw [hkeep]
    rw [hassoc] at hm
    dsimp only at hm
    by_cases hr : r' = r
    · subst hr
      rw [update_self] at hm
      exact h.role r' m (hq.mem_iff.2 (mem_append_right _ hm))
    · rw [update_of_ne hr] at hm
      exact h.role r' m hm
  · rw [hassoc]
    dsimp only
    by_cases hr : r' = r
    · subst hr
      rw [update_self]
      exact hq2
    · rw [update_of_ne hr]
      exact h.assocNodup r'
  · rw [hfree]
    exact h.freeNodup.append hq1 fun m hm hmq => h.free m hm (husedq m hmq)
  · rw [hfree] at hm
    rw [huse]
    rcases mem_append.1 hm with hm | hm
    · exact fun hin => h.free m hm hin.1
    · exact fun hin => hin.2 hm

def SafeFree (role : ℕ → Role) (s : State) (m : ℕ) : Prop :=
  InUse s m ∧ (IsSelf role s m ∨ ∀ x, s.staMld x ≠ some m)

lemma Inv.phlFreeMld (h : Inv s) (hsafe : SafeFree role s m) : Inv (phlFreeMld role s m) := by
  unfold MldLink.phlFreeMld
  dsimp only
  by_cases hself : IsSelf role s m
  · rw [if_pos hself]
    exact h.setAddr m _
  · rw [if_neg hself]
    refine h.release (q := [m]) (perm_cons_erase hsafe.1) fun m' hm' => ?_
    rw [mem_singleton.1 hm']
    exact hsafe.2.resolve_left hself

lemma Inv.phlWifiRoleFreeMld (h : Inv s) {r : ℕ}
    (hsafe : ∀ m ∈ s.assoc r, ∀ x, s.staMld x ≠ some m) : Inv (phlWifiRoleFreeMld s r) := by
  refine h.release (?_ : (s.assoc r).Perm (s.assoc r ++ [])) hsafe
  rw [append_nil]

/-! ## Every run -/

def Safe (role : ℕ → Role) (s : State) : Event → Prop
  | .link m x => SafeLink role s m x
  | .unlink _ _ => True
  | .alloc _ _ _ => True
  | .free m => SafeFree role s m
  | .roleFree r => ∀ m ∈ s.assoc r, ∀ x, s.staMld x ≠ some m

lemma Inv.step (h : Inv s) {ev : Event} (hsafe : Safe role s ev) : Inv (step role s ev) := by
  cases ev with
  | link m x => exact h.rtwPhlLinkMldStainfo hsafe
  | unlink m x => exact h.rtwPhlUnlinkMldStainfo m x
  | alloc r a type => exact h.phlAllocMld r a type
  | free m => exact h.phlFreeMld hsafe
  | roleFree r => exact h.phlWifiRoleFreeMld hsafe

/-- The tables list their stations in the order in which they were linked, once
each, and no station but a listed one points to an MLD that is given out next. -/
structure LinkTable (s : State) : Prop where
  num : ∀ m, (s.mld m).staNum ≤ rtwRlinkMax
  listed : ∀ m, ∀ i < (s.mld m).staNum, ∃ x, (s.mld m).phlSta i = some x ∧ s.staMld x = some m
  order : ∀ m i j x y, i < j → (s.mld m).phlSta i = some x → (s.mld m).phlSta j = some y →
    x ≠ y ∧ s.linkedAt x < s.linkedAt y
  empty : ∀ m i, (s.mld m).staNum ≤ i → (s.mld m).phlSta i = none
  unlisted : ∀ x, (∀ m, InUse s m → ¬Lists s m x) → ∀ m ∈ s.free, s.staMld x ≠ some m

lemma Inv.linkTable (h : Inv s) : LinkTable s where
  num m := by
    obtain ⟨l, hl⟩ := h.table m
    rw [hl.num]
    exact hl.le
  listed m i hi := by
    obtain ⟨l, hl⟩ := h.table m
    rw [hl.num] at hi
    exact ⟨l[i], by rw [hl.sta, getElem?_eq_getElem hi], hl.back _ (getElem_mem hi)⟩
  order m i j x y hij hx hy := by
    obtain ⟨l, hl⟩ := h.table m
    rw [hl.sta] at hx hy
    obtain ⟨hi, rfl⟩ := List.getElem?_eq_some_iff.1 hx
    obtain ⟨hj, rfl⟩ := List.getElem?_eq_some_iff.1 hy
    have hlt := pairwise_iff_getElem.1 hl.order i j hi hj hij
    refine ⟨fun heq => ?_, hlt⟩
    rw [heq] at hlt
    exact absurd hlt (Nat.lt_irrefl _)
  empty m i hi := by
    obtain ⟨l, hl⟩ := h.table m
    rw [hl.num] at hi
    rw [hl.sta, getElem?_eq_none hi]
  unlisted x _ m hm heq := h.free m hm (h.ptr x m heq)

theorem link_table (role : ℕ → Role) (es : List Event)
    (hes : Lib.Guarded (step role) (Safe role) init es) :
    LinkTable (Lib.run (step role) init es) :=
  (hes.invariant (fun _ _ h hok => h.step hok) Inv.init).linkTable

def accessPoint : ℕ → Role := fun _ => ⟨.ap, 1, 2, Nat.le_refl 2⟩

def twoLinks : List Event :=
  [.alloc 0 7 .mld, .link 0 5, .link 0 6, .unlink 0 5, .alloc 0 8 .legacy, .free 1]

theorem link_table_twoLinks : LinkTable (Lib.run (step accessPoint) init twoLinks) := by
  have h1 : Inv (Lib.run (step accessPoint) init (twoLinks.take 1)) :=
    @Inv.step accessPoint _ Inv.init _ (show Safe accessPoint init (.alloc 0 7 .mld) from trivial)
  have hsafe1 : SafeLink accessPoint (Lib.run (step accessPoint) init (twoLinks.take 1)) 0 5 :=
    .inr fun m hm => absurd hm (h1.not_lists rfl m)
  have h2 : Inv (Lib.run (step accessPoint) init (twoLinks.take 2)) :=
    h1.step (show Safe accessPoint _ (.link 0 5) from hsafe1)
  have hsafe2 : SafeLink accessPoint (Lib.run (step accessPoint) init (twoLinks.take 2)) 0 6 :=
    .inr fun m hm => absurd hm (h2.not_lists rfl m)
  have hsta : (Lib.run (step accessPoint) init (twoLinks.take 5)).staMld =
      update (update (update (fun _ => none) 5 (some 0)) 6 (some 0))
        6 (some 0) := rfl
  have hsafe5 : SafeFree accessPoint (Lib.run (step accessPoint) init (twoLinks.take 5)) 1 := by
    refine ⟨by decide, .inr fun x => ?_⟩
    rw [hsta, update_idem]
    by_cases h6 : x = 6
    · subst h6
      decide
    · rw [update_of_ne h6]
      by_cases h5 : x = 5
      · subst h5
        decide
      · rw [update_of_ne h5]
        exact nofun
  exact link_table accessPoint twoLinks
    ⟨trivial, hsafe1, hsafe2, trivial, trivial, hsafe5, trivial⟩

/-- A station that was unlinked points to an MLD on the free queue. -/
theorem unlinked_station_points_back :
    ¬LinkTable (Lib.run (step accessPoint) init
      [.alloc 0 7 .mld, .link 0 5, .unlink 0 5, .free 0]) := by
  intro h
  refine h.unlisted 5 (fun m hm => ?_) 0 (by decide) (by decide)
  have hassoc : (Lib.run (step accessPoint) init
      [.alloc 0 7 .mld, .link 0 5, .unlink 0 5, .free 0]).assoc =
      update (update (fun _ => []) 0 [0]) 0 [] := rfl
  unfold InUse at hm
  rw [hassoc, update_idem, update_eq_self_iff.mpr rfl] at hm
  exact absurd hm not_mem_nil

end MldLink

end Rtl8831.Phl
