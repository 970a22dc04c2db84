import Rtl8831.Core.Wds

/-!
# The cache of received mesh frames

A bucket holds its pairs newest first.  The walk over a bucket counts the entries that have not
expired and removes the one that fills the bucket before it is compared with the frame.
-/

namespace Rtl8831.Core.MeshCache

open Wds (MacAddr timeAfter)
open Function List

def rtwMrcBuckets : UInt32 := 256

def rtwMrcQueueMaxLen : ℕ := 4

/-- `RTW_MRC_TIMEOUT_MS` in the kernel's ticks. -/
structure Timeout where
  ticks : ℕ
  lt : ticks < 2 ^ 63

structure Entry where
  expTime : UInt64
  seqnum : UInt32
  msa : MacAddr
  deriving DecidableEq

abbrev Pair := MacAddr × UInt32

def Entry.pair (e : Entry) : Pair := (e.msa, e.seqnum)

/-- The list heads of `struct rtw_mrc`. -/
abbrev Mrc := UInt8 → List Entry

/-- The number of a pair's bucket, `seq & mrc->idx_mask`. -/
def idx (x : Pair) : UInt8 := (x.2 &&& (rtwMrcBuckets - 1)).toUInt8

/-- The loop of `rtw_mrc_check`: what it leaves of the list, and whether it met the pair. -/
def walk (now : UInt64) (x : Pair) : ℕ → List Entry → List Entry × Bool
  | _, [] => ([], false)
  | entries, p :: l =>
    if timeAfter now p.expTime || entries + 1 = rtwMrcQueueMaxLen then walk now x entries l
    else if p.pair = x then (p :: l, true)
    else Prod.map (p :: ·) id (walk now x (entries + 1) l)

def rtwMrcCheck (t : Timeout) (allocated : Bool) (now : UInt64) (x : Pair) (m : Mrc) : ℤ × Mrc :=
  match walk now x 0 (m (idx x)) with
  | (l, true) => (-1, update m (idx x) l)
  | (l, false) =>
    if allocated then (0, update m (idx x) (⟨now + .ofNat t.ticks, x.2, x.1⟩ :: l))
    else (0, update m (idx x) l)

/-- The entries of a list that have not expired. -/
def live (now : UInt64) (l : List Entry) : List Entry := l.filter fun p => !timeAfter now p.expTime

section Walk

variable {now : UInt64} {x : Pair} {p : Entry} {l : List Entry} {entries : ℕ}

lemma live_cons_expired (hp : timeAfter now p.expTime = true) : live now (p :: l) = live now l := by
  simp [live, hp]

lemma live_cons_alive (hp : timeAfter now p.expTime = false) :
    live now (p :: l) = p :: live now l := by simp [live, hp]

/-- What is compared with the frame, if the loop has counted `entries`. -/
def compared (now : UInt64) (entries : ℕ) (l : List Entry) : List Entry :=
  (live now l).take (rtwMrcQueueMaxLen - 1 - entries)

/-- A bucket without the pair keeps what was compared; otherwise only entries in front of the
pair go, and only those that have expired. -/
lemma walk_spec (hentries : entries < rtwMrcQueueMaxLen) :
    (x ∉ (compared now entries l).map Entry.pair ∧
      walk now x entries l = (compared now entries l, false)) ∨
    (x ∈ (compared now entries l).map Entry.pair ∧
      ∃ l', walk now x entries l = (l', true) ∧ l'.Sublist l ∧
        ∀ f, f <+: l → live now f = f → f <+: l') := by
  induction l generalizing entries with
  | nil => exact .inl ⟨by simp [compared, live], by simp [compared, live, walk]⟩
  | cons p l ih =>
    cases hp : timeAfter now p.expTime with
    | true =>
      have hlive : compared now entries (p :: l) = compared now entries l := by
        rw [compared, live_cons_expired hp, compared]
      have hwalk : walk now x entries (p :: l) = walk now x entries l := by simp [walk, hp]
      rw [hlive, hwalk]
      refine (ih hentries).imp_right fun ⟨hx, l', hl', hsub, hkeep⟩ =>
        ⟨hx, l', hl', hsub.cons p, fun f hf hfl => ?_⟩
      cases f with
      | nil => exact nil_prefix
      | cons q f =>
        obtain ⟨rfl, -⟩ := cons_prefix_cons.1 hf
        have hq : q ∈ live now (q :: f) := hfl.symm ▸ mem_cons_self
        simp [live, hp] at hq
    | false =>
      rcases (Nat.le_of_lt_succ hentries).eq_or_lt with rfl | hlt
      · have hwalk : walk now x 3 (p :: l) = walk now x 3 l := by
          simp [walk, rtwMrcQueueMaxLen]
        rw [hwalk]
        simpa [compared, rtwMrcQueueMaxLen] using @ih 3 hentries
      · have hcompared : compared now entries (p :: l) = p :: compared now (entries + 1) l := by
          have hroom : 0 < rtwMrcQueueMaxLen - 1 - entries := Nat.sub_pos_of_lt hlt
          rw [compared, live_cons_alive hp, compared, Nat.sub_add_eq, take_cons hroom]
        have hfull : ¬entries + 1 = rtwMrcQueueMaxLen := (Nat.succ_lt_succ hlt).ne
        rw [hcompared]
        by_cases hx : p.pair = x
        · exact .inr ⟨by simp [hx], p :: l, by simp [walk, hp, hfull, hx], .refl _, fun f hf _ => hf⟩
        · have hwalk : walk now x entries (p :: l) =
              Prod.map (p :: ·) id (walk now x (entries + 1) l) := by
            simp [walk, hp, hfull, hx]
          rw [hwalk]
          rcases ih (Nat.succ_lt_succ hlt) with ⟨hn, hl⟩ | ⟨hm, l', hl', hsub, hkeep⟩
          · exact .inl ⟨by simpa [Ne.symm hx] using hn, by rw [hl]; rfl⟩
          · refine .inr ⟨mem_cons_of_mem _ hm, p :: l', by rw [hl']; rfl, hsub.cons_cons p,
              fun f hf hfl => ?_⟩
            cases f with
            | nil => exact nil_prefix
            | cons q f =>
              obtain ⟨rfl, hfl'⟩ := cons_prefix_cons.1 hf
              rw [live_cons_alive hp] at hfl
              exact cons_prefix_cons.2 ⟨rfl, hkeep f hfl' (cons.inj hfl).2⟩

lemma compared_sublist : (compared now entries l).Sublist l :=
  (take_sublist _ _).trans filter_sublist

lemma take_prefix_compared {f : List Entry} (hf : f <+: l) (hlive : live now f = f) :
    f.take 3 <+: compared now 0 l := by
  have hfilter : live now f <+: live now l := hf.filter _
  rw [hlive] at hfilter
  exact hfilter.take 3

end Walk

/-- A frame that the cache let pass, and when. -/
structure Accepted where
  pair : Pair
  time : ℕ
  deriving DecidableEq

def Accepted.entry (t : Timeout) (a : Accepted) : Entry :=
  ⟨.ofNat a.time + .ofNat t.ticks, a.pair.2, a.pair.1⟩

/-- The cache, the clock, and what each bucket has accepted, newest first. -/
structure World where
  now : ℕ
  mrc : Mrc
  log : UInt8 → List Accepted

/-- A frame arrives `wait` ticks after the one before it. -/
structure Frame where
  wait : ℕ
  pair : Pair

/-- The other pairs that were accepted since `x` was. -/
def othersSince (x : Pair) (log : List Accepted) : Finset Pair :=
  ((log.map Accepted.pair).takeWhile (· ≠ x)).toFinset

namespace World

variable {t : Timeout} {w : World} {f : Frame}

def check (t : Timeout) (w : World) (f : Frame) : ℤ × Mrc :=
  rtwMrcCheck t true (.ofNat (w.now + f.wait)) f.pair w.mrc

def receive (t : Timeout) (w : World) (f : Frame) : World where
  now := w.now + f.wait
  mrc := (w.check t f).2
  log := if (w.check t f).1 = 0 then
    update w.log (idx f.pair) (⟨f.pair, w.now + f.wait⟩ :: w.log (idx f.pair)) else w.log

def run (t : Timeout) (start : ℕ) (frames : List Frame) : World :=
  frames.foldl (receive t) ⟨start, fun _ => [], fun _ => []⟩

/-- The pair of the frame was accepted less than the timeout ago. -/
def Recent (t : Timeout) (w : World) (f : Frame) : Prop :=
  ∃ a ∈ w.log (idx f.pair), a.pair = f.pair ∧ w.now + f.wait < a.time + t.ticks

def others (w : World) (f : Frame) : ℕ := (othersSince f.pair (w.log (idx f.pair))).card

def BucketsOk (m : Mrc) : Prop :=
  ∀ i, (m i).length ≤ rtwMrcQueueMaxLen ∧ ((m i).map Entry.pair).Nodup ∧
    ∀ p ∈ m i, idx p.pair = i

/-- What is asked of the cache, and of the answer to a further frame. -/
def Decaches (t : Timeout) (w : World) (f : Frame) : Prop :=
  BucketsOk w.mrc ∧
    (f.pair ∉ (w.log (idx f.pair)).map Accepted.pair → (w.check t f).1 = 0) ∧
      (w.Recent t f → w.others f < rtwMrcQueueMaxLen → (w.check t f).1 ≠ 0)

end World

/-- What one bucket keeps: what it accepted recently stands in front of it, up to its length. -/
structure BucketInv (t : Timeout) (now : ℕ) (i : UInt8) (l : List Entry) (log : List Accepted) :
    Prop where
  length_le : l.length ≤ rtwMrcQueueMaxLen
  nodup : (l.map Entry.pair).Nodup
  idx_eq : ∀ p ∈ l, idx p.pair = i
  accepted : l.map Entry.pair ⊆ log.map Accepted.pair
  sorted : log.Pairwise fun a b => b.time ≤ a.time
  past : ∀ a ∈ log, a.time ≤ now
  front : ∀ g, g <+: log → g.length ≤ rtwMrcQueueMaxLen → (∀ a ∈ g, now < a.time + t.ticks) →
    g.map (Accepted.entry t) <+: l

lemma live_entry {t : Timeout} {now : ℕ} {g : List Accepted} (hpast : ∀ a ∈ g, a.time ≤ now)
    (hfresh : ∀ a ∈ g, now < a.time + t.ticks) :
    live (.ofNat now) (g.map (Accepted.entry t)) = g.map (Accepted.entry t) := by
  refine filter_eq_self.2 fun p hp => ?_
  obtain ⟨a, ha, rfl⟩ := mem_map.1 hp
  have hle := hpast a ha
  have hlt := hfresh a ha
  have ht := t.lt
  simp only [Accepted.entry, timeAfter, UInt64.toNat_sub, UInt64.toNat_add, UInt64.toNat_ofNat',
    Bool.not_eq_true', decide_eq_false_iff_not, not_le]
  omega

lemma map_pair_entry (t : Timeout) (g : List Accepted) :
    (g.map (Accepted.entry t)).map Entry.pair = g.map Accepted.pair := by
  rw [map_map]
  rfl

namespace BucketInv

variable {t : Timeout} {now now' : ℕ} {i : UInt8} {l l' : List Entry} {log : List Accepted}
  {x : Pair}

lemma nil (t : Timeout) (now : ℕ) (i : UInt8) : BucketInv t now i [] [] where
  length_le := Nat.zero_le _
  nodup := nodup_nil
  idx_eq := by simp
  accepted := List.Subset.refl _
  sorted := List.Pairwise.nil
  past := by simp
  front := by simp

section

variable (h : BucketInv t now i l log)
include h

lemma later (hnow : now ≤ now') : BucketInv t now' i l log :=
  { h with
    past := fun a ha => (h.past a ha).trans hnow
    front := fun g hg hlen hfresh => h.front g hg hlen fun a ha => hnow.trans_lt (hfresh a ha) }

lemma live_prefix {g : List Accepted} (hg : g <+: log)
    (hfresh : ∀ a ∈ g, now < a.time + t.ticks) :
    live (.ofNat now) (g.map (Accepted.entry t)) = g.map (Accepted.entry t) :=
  live_entry (fun a ha => h.past a (hg.subset ha)) hfresh

lemma refuse (hsub : l'.Sublist l)
    (hkeep : ∀ f, f <+: l → live (.ofNat now) f = f → f <+: l') : BucketInv t now i l' log :=
  { h with
    length_le := hsub.length_le.trans h.length_le
    nodup := h.nodup.sublist (hsub.map _)
    idx_eq := fun p hp => h.idx_eq p (hsub.subset hp)
    accepted := fun _ hx => h.accepted ((hsub.map _).subset hx)
    front := fun g hg hlen hfresh =>
      hkeep _ (h.front g hg hlen hfresh) (h.live_prefix hg hfresh) }

end

lemma accept (h : BucketInv t now (idx x) l log)
    (hx : x ∉ (compared (.ofNat now) 0 l).map Entry.pair) :
    BucketInv t now (idx x) (Accepted.entry t ⟨x, now⟩ :: compared (.ofNat now) 0 l)
      (⟨x, now⟩ :: log) where
  length_le := Nat.succ_le_succ (length_take_le _ _)
  nodup := nodup_cons.2 ⟨hx, h.nodup.sublist (compared_sublist.map _)⟩
  idx_eq := forall_mem_cons.2 ⟨rfl, fun p hp => h.idx_eq p (compared_sublist.subset hp)⟩
  accepted := cons_subset_cons _ fun _ hy => h.accepted ((compared_sublist.map _).subset hy)
  sorted := pairwise_cons.2 ⟨h.past, h.sorted⟩
  past := forall_mem_cons.2 ⟨le_rfl, h.past⟩
  front g hg hlen hfresh := by
    cases g with
    | nil => exact nil_prefix
    | cons a g =>
      obtain ⟨rfl, hlog⟩ := cons_prefix_cons.1 hg
      have hfresh' := (forall_mem_cons.1 hfresh).2
      have hlen' : (g.map (Accepted.entry t)).length ≤ 3 := by
        simpa using Nat.le_of_succ_le_succ hlen
      have hfront := h.front g hlog (Nat.le_of_succ_le hlen) hfresh'
      have hcompared := take_prefix_compared hfront (h.live_prefix hlog hfresh')
      rw [take_of_length_le hlen'] at hcompared
      exact cons_prefix_cons.2 ⟨rfl, hcompared⟩

/-- With fewer others accepted since, a pair accepted recently stands behind them in its bucket. -/
lemma recent_front (h : BucketInv t now i l log)
    (hx : ∃ a ∈ log, a.pair = x ∧ now < a.time + t.ticks)
    (hcard : (othersSince x log).card < rtwMrcQueueMaxLen) :
    ∃ g a, a.pair = x ∧ x ∉ g.map Accepted.pair ∧ g.length = (othersSince x log).card ∧
      (g ++ [a]).map (Accepted.entry t) <+: l ∧
        live (.ofNat now) ((g ++ [a]).map (Accepted.entry t)) =
          (g ++ [a]).map (Accepted.entry t) := by
  obtain ⟨a₀, ha₀, rfl, hrecent⟩ := hx
  obtain ⟨_, _, hlog, hnot⟩ := eq_append_cons_of_mem (mem_map_of_mem (f := Accepted.pair) ha₀)
  obtain ⟨g, r, rfl, rfl, hr⟩ := map_eq_append_iff.1 hlog
  obtain ⟨a, r, rfl, ha, -⟩ := map_eq_cons_iff.1 hr
  have hothers : othersSince a₀.pair (g ++ a :: r) = (g.map Accepted.pair).toFinset := by
    rw [othersSince, map_append, takeWhile_append_of_pos, map_cons]
    · simp [ha]
    · exact fun y hy => decide_eq_true (ne_of_mem_of_not_mem hy hnot)
  have hlead : g ++ [a] <+: g ++ a :: r := ⟨r, by simp⟩
  have hlatest : now < a.time + t.ticks := by
    have hsorted := (pairwise_append.1 h.sorted).2.1
    rcases mem_append.1 ha₀ with hg | hr
    · exact absurd (mem_map_of_mem hg) hnot
    · rcases mem_cons.1 hr with rfl | hr
      · exact hrecent
      · have hle := (pairwise_cons.1 hsorted).1 a₀ hr
        omega
  have hfresh : ∀ b ∈ g ++ [a], now < b.time + t.ticks := by
    have hsorted := (pairwise_append.1 (h.sorted.sublist hlead.sublist)).2.2
    intro b hb
    rcases mem_append.1 hb with hg | hb
    · have hle := hsorted b hg a (mem_singleton_self a)
      omega
    · rwa [mem_singleton.1 hb]
  -- the first of them, up to the length of a bucket, are different pairs
  have hfront := h.front ((g ++ [a]).take rtwMrcQueueMaxLen) (( take_prefix _ _).trans hlead)
    (length_take_le _ _) fun b hb => hfresh b (mem_of_mem_take hb)
  have hnodup := h.nodup.sublist (hfront.map Entry.pair).sublist
  rw [map_pair_entry] at hnodup
  rw [hothers] at hcard ⊢
  have hlen : g.length < rtwMrcQueueMaxLen := by
    by_contra hge
    rw [take_append_of_le_length (not_lt.1 hge)] at hnodup
    have hsubset : ((g.take rtwMrcQueueMaxLen).map Accepted.pair).toFinset ⊆
        (g.map Accepted.pair).toFinset := by
      intro y hy
      simp only [mem_toFinset] at hy ⊢
      exact ((take_sublist _ _).map _).subset hy
    have hle := Finset.card_le_card hsubset
    rw [toFinset_card_of_nodup hnodup, length_map, length_take,
      Nat.min_eq_left (not_lt.1 hge)] at hle
    exact absurd hcard (not_lt.2 hle)
  have hshort : (g ++ [a]).length ≤ rtwMrcQueueMaxLen := by rwa [length_append]
  rw [take_of_length_le hshort] at hfront hnodup
  rw [map_append] at hnodup
  refine ⟨g, a, ha, hnot, ?_, hfront, h.live_prefix hlead hfresh⟩
  rw [toFinset_card_of_nodup (nodup_append.1 hnodup).1, length_map]

lemma refuses_iff (h : BucketInv t now i l log)
    (hx : ∃ a ∈ log, a.pair = x ∧ now < a.time + t.ticks)
    (hcard : (othersSince x log).card < rtwMrcQueueMaxLen) :
    x ∈ (compared (.ofNat now) 0 l).map Entry.pair ↔
      (othersSince x log).card ≠ rtwMrcQueueMaxLen - 1 := by
  obtain ⟨g, a, rfl, hnot, hlen, hfront, hlive⟩ := h.recent_front hx hcard
  rw [← hlen] at hcard ⊢
  constructor
  · rintro hmem hfull
    have hall : (g ++ [a]).map (Accepted.entry t) = l := by
      refine hfront.eq_of_length_le (h.length_le.trans_eq ?_)
      simp [hfull, rtwMrcQueueMaxLen]
    have hg : (g.map (Accepted.entry t)).length = rtwMrcQueueMaxLen - 1 - 0 := by simpa using hfull
    rw [compared, ← hall, hlive, map_append, take_left' hg, map_pair_entry] at hmem
    exact hnot hmem
  · intro hne
    have hlead := take_prefix_compared hfront hlive
    have hfew : ((g ++ [a]).map (Accepted.entry t)).length ≤ 3 := by
      simp only [rtwMrcQueueMaxLen] at hcard hne
      simp only [length_map, length_append, length_singleton]
      omega
    rw [take_of_length_le hfew] at hlead
    refine (hlead.map Entry.pair).subset ?_
    rw [map_pair_entry]
    exact mem_map_of_mem (mem_append_right g (mem_singleton_self a))

end BucketInv

namespace World

variable {t : Timeout} {w : World} {f : Frame}

/-- The answer, and what becomes of the cache. -/
lemma check_cases (t : Timeout) (w : World) (f : Frame) :
    let l := w.mrc (idx f.pair)
    let c := compared (.ofNat (w.now + f.wait)) 0 l
    (f.pair ∉ c.map Entry.pair ∧ w.check t f = (0, update w.mrc (idx f.pair)
      (Accepted.entry t ⟨f.pair, w.now + f.wait⟩ :: c))) ∨
    (f.pair ∈ c.map Entry.pair ∧ ∃ l', w.check t f = (-1, update w.mrc (idx f.pair) l') ∧
      l'.Sublist l ∧ ∀ g, g <+: l → live (.ofNat (w.now + f.wait)) g = g → g <+: l') := by
  have hwalk := @walk_spec (.ofNat (w.now + f.wait)) f.pair (w.mrc (idx f.pair)) 0 (by decide)
  refine hwalk.imp ?_ ?_
  · rintro ⟨hx, hwalk⟩
    exact ⟨hx, by rw [check, rtwMrcCheck, hwalk]; rfl⟩
  · rintro ⟨hx, l', hwalk, hrest⟩
    exact ⟨hx, l', by rw [check, rtwMrcCheck, hwalk], hrest⟩

lemma accepts_iff : (w.check t f).1 = 0 ↔
    f.pair ∉ (compared (.ofNat (w.now + f.wait)) 0 (w.mrc (idx f.pair))).map Entry.pair := by
  rcases w.check_cases t f with ⟨hx, hcheck⟩ | ⟨hx, l', hcheck, -⟩
  · simp only [hcheck, hx, not_false_eq_true]
  · rw [hcheck]
    exact iff_of_false (by simp) (not_not_intro hx)

def Inv (t : Timeout) (w : World) : Prop := ∀ i, BucketInv t w.now i (w.mrc i) (w.log i)

lemma Inv.receive (h : w.Inv t) (f : Frame) : (w.receive t f).Inv t := by
  have hlater : ∀ i, BucketInv t (w.now + f.wait) i (w.mrc i) (w.log i) :=
    fun i => (h i).later (Nat.le_add_right _ _)
  intro i
  rcases w.check_cases t f with ⟨hx, hcheck⟩ | ⟨-, l', hcheck, hsub, hkeep⟩
  · simp only [World.receive, hcheck, if_true]
    rcases eq_or_ne i (idx f.pair) with rfl | hi
    · rw [update_self, update_self]
      exact (hlater _).accept hx
    · rw [update_of_ne hi, update_of_ne hi]
      exact hlater i
  · have hne : (-1 : ℤ) ≠ 0 := by decide
    simp only [World.receive, hcheck, if_neg hne]
    rcases eq_or_ne i (idx f.pair) with rfl | hi
    · rw [update_self]
      exact (hlater _).refuse hsub hkeep
    · rw [update_of_ne hi]
      exact hlater i

lemma run_inv (t : Timeout) (start : ℕ) (frames : List Frame) : (run t start frames).Inv t := by
  induction frames using reverseRecOn with
  | nil => exact fun i => .nil t start i
  | append_singleton frames f ih =>
    rw [run, foldl_append]
    exact ih.receive f

lemma Inv.bucketsOk (h : w.Inv t) : BucketsOk w.mrc :=
  fun i => ⟨(h i).length_le, (h i).nodup, (h i).idx_eq⟩

lemma Inv.accepts_new (h : w.Inv t)
    (hnew : f.pair ∉ (w.log (idx f.pair)).map Accepted.pair) : (w.check t f).1 = 0 :=
  accepts_iff.2 fun hx => hnew ((h _).accepted ((compared_sublist.map _).subset hx))

end World

open World

/-- A pair accepted recently is let pass again if it is the last that its bucket holds. -/
theorem decaches_iff (t : Timeout) (start : ℕ) (frames : List Frame) (f : Frame) :
    (run t start frames).Decaches t f ↔
      ¬((run t start frames).Recent t f ∧
        (run t start frames).others f = rtwMrcQueueMaxLen - 1) := by
  have h := run_inv t start frames
  have hlater := (h (idx f.pair)).later (Nat.le_add_right _ f.wait)
  constructor
  · rintro ⟨-, -, hrefuse⟩ ⟨hrecent, hothers⟩
    have hlt : (run t start frames).others f < rtwMrcQueueMaxLen := by
      rw [hothers]
      decide
    refine hrefuse hrecent hlt (accepts_iff.mpr fun hx => ?_)
    exact (hlater.refuses_iff hrecent hlt).mp hx hothers
  · intro hnot
    refine ⟨h.bucketsOk, h.accepts_new, fun hrecent hlt haccept => ?_⟩
    have hne := fun hothers => hnot ⟨hrecent, hothers⟩
    exact accepts_iff.mp haccept ((hlater.refuses_iff hrecent hlt).mpr hne)

/-- Within one tick a source sends four frames to one bucket and the first of them again. -/
theorem not_decaches : ¬(run ⟨750, by decide⟩ 0 [⟨0, 0, 0⟩, ⟨0, 0, 256⟩, ⟨0, 0, 512⟩,
    ⟨0, 0, 768⟩]).Decaches ⟨750, by decide⟩ ⟨0, 0, 0⟩ := by
  rintro ⟨-, -, hrefuse⟩
  exact hrefuse ⟨⟨(0, 0), 0⟩, by decide, rfl, by decide⟩ (by decide) (by decide)

end Rtl8831.Core.MeshCache
