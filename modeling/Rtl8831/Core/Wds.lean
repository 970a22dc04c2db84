import Rtl8831.Lib.Keyed
import Rtl8831.Lib.Run

/-!
# The tables of WDS paths and of proxied group senders

Each table is a hash table with a counter, which is raised before an entry exists and lowered
where one is freed.
-/

namespace Rtl8831.Core.Wds

open Lib List Function

abbrev MacAddr := Fin 6 → UInt8

def isMcast (a : MacAddr) : Bool := a 0 &&& 1 ≠ 0

def rtwWdsMaxPaths : ℕ := 1024

/-- `struct rtw_wds_path`, and `struct rtw_wds_gptr` with no next hop. -/
structure Entry (δ : Type) where
  dst : MacAddr
  nextHop : δ
  lastUpdate : UInt64
  deriving DecidableEq

structure Table (δ : Type) where
  num : ℤ
  entries : List (Entry δ)
  deriving DecidableEq

/-- What the allocation of an entry and its insertion answer. -/
inductive Answer
  | noMem
  | insertErr
  | ok
  deriving DecidableEq

inductive Ret
  | notSupp
  | noSpc
  | noMem
  | insertErr
  | found
  | added
  deriving DecidableEq

def timeAfter (a b : UInt64) : Bool := 2 ^ 63 ≤ (b - a).toNat

section

variable {δ : Type}

namespace Table

def empty : Table δ := ⟨0, []⟩

variable (t : Table δ)

def lookup (dst : MacAddr) : Option (Entry δ) := lookupKey Entry.dst dst t.entries

/-- What `rtw_wds_path_add` and `rtw_wds_gptr_add` have in common. -/
def add (dst : MacAddr) (nextHop : δ) (now : UInt64) (a : Answer) : Ret × Table δ :=
  if t.num = rtwWdsMaxPaths then (.noSpc, t)
  else
    let t := { t with num := t.num + 1 }
    match a with
    | .noMem => (.noMem, t)
    | .insertErr => (.insertErr, t)
    | .ok =>
      match t.lookup dst with
      | some _ => (.found, t)
      | none => (.added, { t with entries := ⟨dst, nextHop, now⟩ :: t.entries })

/-- `__rtw_wds_path_del` and `__rtw_wds_gptr_del` -/
def del (e : Entry δ) : Table δ := ⟨t.num - 1, eraseKey Entry.dst e.dst t.entries⟩

/-- A walk over the table that deletes the entries with `p`. -/
def flush (p : Entry δ → Bool) : Table δ :=
  t.entries.foldl (fun t e => if p e then t.del e else t) t

def expire (now expiry : UInt64) : Table δ := t.flush fun e => timeAfter now (e.lastUpdate + expiry)

end Table

def rtwWdsPathAdd (own : MacAddr) (t : Table δ) (dst : MacAddr) (nextHop : δ) (now : UInt64)
    (a : Answer) : Ret × Table δ :=
  if dst = own then (.notSupp, t)
  else if isMcast dst then (.notSupp, t)
  else
    match t.add dst nextHop now a with
    | (.found, t) =>
      (.found, { t with entries := modifyKey Entry.dst dst (fun e => { e with nextHop }) t.entries })
    | (ret, t) => (ret, t)

def rtwWdsPathDel (t : Table δ) (addr : MacAddr) : Table δ :=
  match t.lookup addr with
  | none => t
  | some e => t.del e

end

def rtwTxWdsGptrUpdate (t : Table Unit) (src : MacAddr) (now : UInt64) (a : Answer) : Table Unit :=
  match t.lookup src with
  | none => (t.add src () now a).2
  | some _ =>
    { t with entries := modifyKey Entry.dst src (fun e => { e with lastUpdate := now }) t.entries }

/-- The address of the interface, and the ticks of a second. -/
structure Env where
  own : MacAddr
  hz : UInt64

/-- The tables of an interface; `latest` is the next hop of the latest add to a destination, if
it has not been flushed since. -/
structure World (σ : Type) where
  paths : Table σ
  gptrs : Table Unit
  latest : MacAddr → Option σ

inductive Event (σ : Type)
  | pathAdd (dst : MacAddr) (nextHop : σ) (now : UInt64) (a : Answer)
  | pathDel (addr : MacAddr)
  | flushByNexthop (sta : σ)
  | flushByIface
  | pathExpire (now : UInt64)
  | gptrUpdate (src : MacAddr) (now : UInt64) (a : Answer)
  | gptrExpire (now : UInt64)

section

variable {σ : Type}

def init : World σ := ⟨.empty, .empty, fun _ => none⟩

variable [DecidableEq σ] (env : Env)

def step (w : World σ) : Event σ → World σ
  | .pathAdd dst nextHop now a =>
    let (ret, paths) := rtwWdsPathAdd env.own w.paths dst nextHop now a
    { w with
      paths
      latest := if ret = .found ∨ ret = .added then update w.latest dst (some nextHop)
        else w.latest }
  | .pathDel addr => { w with paths := rtwWdsPathDel w.paths addr }
  | .flushByNexthop sta =>
    { w with
      paths := w.paths.flush fun e => e.nextHop = sta
      latest := fun d => if w.latest d = some sta then none else w.latest d }
  | .flushByIface => { w with paths := w.paths.flush fun _ => true }
  | .pathExpire now => { w with paths := w.paths.expire now (600 * env.hz) }
  | .gptrUpdate src now a => { w with gptrs := rtwTxWdsGptrUpdate w.gptrs src now a }
  | .gptrExpire now => { w with gptrs := w.gptrs.expire now (2 * env.hz) }

end

namespace Table

variable {δ : Type} {t t' : Table δ}

structure Ok (t : Table δ) : Prop where
  keys : (t.entries.map Entry.dst).Nodup
  counted : t.entries.length ≤ t.num
  max : t.num ≤ rtwWdsMaxPaths

/-- How much the counter is too high. -/
def drift (t : Table δ) : ℤ := t.num - t.entries.length

structure Shrinks (t t' : Table δ) : Prop where
  ok : t'.Ok
  drift : t'.drift = t.drift
  mem : ∀ e ∈ t'.entries, e ∈ t.entries

lemma Ok.refl (h : t.Ok) : Shrinks t t := ⟨h, rfl, fun _ he => he⟩

lemma Shrinks.trans {t'' : Table δ} (h : Shrinks t t') (h' : Shrinks t' t'') : Shrinks t t'' :=
  ⟨h'.ok, h'.drift.trans h.drift, fun e he => h.mem e (h'.mem e he)⟩

lemma Ok.empty : (empty : Table δ).Ok :=
  ⟨nodup_nil, le_refl 0, Int.natCast_nonneg rtwWdsMaxPaths⟩

lemma Ok.del (h : t.Ok) {e : Entry δ} (he : e ∈ t.entries) : Shrinks t (t.del e) := by
  have hlen : (eraseKey Entry.dst e.dst t.entries).length + 1 = t.entries.length :=
    (length_eraseKey h.keys he).symm
  refine ⟨⟨nodup_eraseKey h.keys, ?_, ?_⟩, ?_, fun e' he' => (mem_eraseKey.1 he').1⟩
  · have := h.counted
    simp only [Table.del]
    omega
  · have := h.max
    simp only [Table.del]
    omega
  · simp only [drift, Table.del]
    omega

lemma Ok.flush (h : t.Ok) (p : Entry δ → Bool) :
    Shrinks t (t.flush p) ∧ ∀ e ∈ (t.flush p).entries, p e = false := by
  have hwalk : ∀ (l : List (Entry δ)) (t' : Table δ), Shrinks t t' → (l.map Entry.dst).Nodup →
      (∀ e ∈ l, e ∈ t'.entries) → (∀ e ∈ t'.entries, e ∈ l ∨ p e = false) →
      Shrinks t (l.foldl (fun t e => if p e then t.del e else t) t') ∧
        ∀ e ∈ (l.foldl (fun t e => if p e then t.del e else t) t').entries, p e = false := by
    intro l
    induction l with
    | nil => exact fun t' ht _ _ hleft => ⟨ht, fun e he => (hleft e he).resolve_left not_mem_nil⟩
    | cons e l ih =>
      intro t' ht hnodup hsub hleft
      rw [map_cons, nodup_cons] at hnodup
      rw [foldl_cons]
      have he := hsub e mem_cons_self
      by_cases hp : p e = true
      · rw [if_pos hp]
        refine ih _ (ht.trans (ht.ok.del he)) hnodup.2 ?_ ?_
        · intro e' he'
          refine mem_eraseKey.2 ⟨hsub e' (mem_cons_of_mem e he'), fun hkey => hnodup.1 ?_⟩
          exact hkey ▸ mem_map_of_mem he'
        · intro e' he'
          obtain ⟨hmem, hne⟩ := mem_eraseKey.1 he'
          rcases hleft e' hmem with hcons | hno
          · rcases mem_cons.1 hcons with rfl | hl
            · exact absurd rfl hne
            · exact .inl hl
          · exact .inr hno
      · rw [if_neg hp]
        refine ih _ ht hnodup.2 (fun e' he' => hsub e' (mem_cons_of_mem e he')) ?_
        intro e' he'
        rcases hleft e' he' with hcons | hno
        · rcases mem_cons.1 hcons with rfl | hl
          · exact .inr (Bool.eq_false_iff.2 hp)
          · exact .inl hl
        · exact .inr hno
  exact hwalk t.entries t h.refl h.keys (fun _ he => he) fun _ he => .inl he

def Leaks (t : Table δ) (dst : MacAddr) (a : Answer) : Prop :=
  t.num ≠ rtwWdsMaxPaths ∧ ¬ (a = .ok ∧ t.lookup dst = none)

lemma Ok.raised (h : t.Ok) (hnum : t.num ≠ rtwWdsMaxPaths) :
    ({ t with num := t.num + 1 } : Table δ).Ok :=
  ⟨h.keys, h.counted.trans (Int.le_add_one (le_refl _)),
    Int.add_one_le_of_lt (lt_of_le_of_ne h.max hnum)⟩

lemma Ok.inserted (h : t.Ok) (hnum : t.num ≠ rtwWdsMaxPaths) {e : Entry δ}
    (hlook : t.lookup e.dst = none) : (⟨t.num + 1, e :: t.entries⟩ : Table δ).Ok := by
  refine ⟨nodup_cons.2 ⟨notMem_of_lookupKey hlook, h.keys⟩, ?_, (h.raised hnum).max⟩
  have := h.counted
  simp only [length_cons]
  omega

lemma drift_modify (t : Table δ) (dst : MacAddr) (f : Entry δ → Entry δ) :
    ({ t with entries := modifyKey Entry.dst dst f t.entries } : Table δ).drift = t.drift := by
  simp only [drift, length_modifyKey]

lemma Ok.modified (h : t.Ok) (dst : MacAddr) {f : Entry δ → Entry δ}
    (hf : ∀ e, (f e).dst = e.dst) :
    ({ t with entries := modifyKey Entry.dst dst f t.entries } : Table δ).Ok := by
  refine ⟨?_, ?_, h.max⟩
  · rw [map_key_modifyKey hf]
    exact h.keys
  · rw [length_modifyKey]
    exact h.counted

structure Added (t : Table δ) (e : Entry δ) (a : Answer) (r : Ret × Table δ) : Prop where
  ok : r.2.Ok
  le : t.drift ≤ r.2.drift
  same : r.2.drift = t.drift ↔ ¬ t.Leaks e.dst a
  made : r.1 = .added → r.2.entries = e :: t.entries
  kept : r.1 ≠ .added → r.2.entries = t.entries
  space : r.1 = .noSpc ↔ t.num = rtwWdsMaxPaths
  ret : r.1 ≠ .notSupp

lemma Ok.leaked (h : t.Ok) (hnum : t.num ≠ rtwWdsMaxPaths) {e : Entry δ} {a : Answer}
    (hl : ¬ (a = .ok ∧ t.lookup e.dst = none)) {ret : Ret}
    (hret : ret = .noMem ∨ ret = .insertErr ∨ ret = .found) :
    t.Added e a (ret, { t with num := t.num + 1 }) := by
  have hadded : ret ≠ .added := by rintro rfl; simp at hret
  have hdrift : ({ t with num := t.num + 1 } : Table δ).drift = t.drift + 1 := by
    simp only [drift]
    omega
  refine ⟨h.raised hnum, ?_, ?_, fun hr => absurd hr hadded, fun _ => rfl, iff_of_false ?_ hnum, ?_⟩
  · rw [hdrift]
    exact Int.le_add_one (le_refl _)
  · rw [hdrift]
    exact iff_of_false (by omega) fun hno => hno ⟨hnum, hl⟩
  · rintro rfl
    simp at hret
  · rintro rfl
    simp at hret

lemma Ok.add (h : t.Ok) (dst : MacAddr) (nextHop : δ) (now : UInt64) (a : Answer) :
    t.Added ⟨dst, nextHop, now⟩ a (t.add dst nextHop now a) := by
  rw [Table.add]
  by_cases hnum : t.num = rtwWdsMaxPaths
  · rw [if_pos hnum]
    exact ⟨h, le_refl _, iff_of_true rfl fun hl => hl.1 hnum, Ret.noConfusion,
      fun _ => rfl, iff_of_true rfl hnum,
      Ret.noConfusion⟩
  rw [if_neg hnum]
  cases a with
  | noMem => exact h.leaked hnum (fun hl => by cases hl.1) (.inl rfl)
  | insertErr => exact h.leaked hnum (fun hl => by cases hl.1) (.inr (.inl rfl))
  | ok =>
    cases hlook : t.lookup dst with
    | some e =>
      have hadd := h.leaked (e := ⟨dst, nextHop, now⟩) (a := .ok) hnum
        (fun hl => by cases hlook.symm.trans hl.2) (.inr (.inr rfl))
      change t.Added _ _ (match t.lookup dst with | some _ => _ | none => _)
      rw [hlook]
      exact hadd
    | none =>
      have hdrift : (⟨t.num + 1, ⟨dst, nextHop, now⟩ :: t.entries⟩ : Table δ).drift = t.drift := by
        simp only [drift, length_cons]
        omega
      change t.Added _ _ (match t.lookup dst with | some _ => _ | none => _)
      rw [hlook]
      exact ⟨h.inserted hnum hlook, hdrift.ge, iff_of_true hdrift fun hl => hl.2 ⟨rfl, hlook⟩,
        fun _ => rfl, fun hne => absurd rfl hne, iff_of_false Ret.noConfusion hnum,
        Ret.noConfusion⟩

end Table

section

variable {σ : Type}

def Latest (w : World σ) : Prop := ∀ e ∈ w.paths.entries, w.latest e.dst = some e.nextHop

structure Inv (w : World σ) : Prop where
  paths : w.paths.Ok
  gptrs : w.gptrs.Ok
  latest : Latest w

def Keeps (own : MacAddr) (w : World σ) : Event σ → Prop
  | .pathAdd dst _ _ a => dst = own ∨ isMcast dst = true ∨ ¬ w.paths.Leaks dst a
  | .gptrUpdate src _ a => w.gptrs.lookup src = none → ¬ w.gptrs.Leaks src a
  | _ => True

def World.drift (w : World σ) : ℤ := w.paths.drift + w.gptrs.drift

structure Stepped (w w' : World σ) (keeps : Prop) : Prop where
  inv : Inv w'
  le : w.drift ≤ w'.drift
  same : w'.drift = w.drift ↔ keeps

variable {w : World σ}

section

variable (h : Inv w)
include h

lemma Stepped.refused {keeps : Prop} (hk : keeps) : Stepped w w keeps :=
  ⟨h, le_refl _, iff_of_true rfl hk⟩

lemma Stepped.shrunk {t : Table σ} (ht : w.paths.Shrinks t) {latest}
    (hlatest : ∀ e ∈ t.entries, w.latest e.dst = some e.nextHop → latest e.dst = some e.nextHop) :
    Stepped w { w with paths := t, latest } True :=
  ⟨⟨ht.ok, h.gptrs, fun e he => hlatest e he (h.latest e (ht.mem e he))⟩,
    (congrArg (· + w.gptrs.drift) ht.drift).ge,
    iff_of_true (congrArg (· + w.gptrs.drift) ht.drift) trivial⟩

lemma Stepped.gptrs {t : Table Unit} {keeps : Prop} (hok : t.Ok)
    (hle : w.gptrs.drift ≤ t.drift) (hsame : t.drift = w.gptrs.drift ↔ keeps) :
    Stepped w { w with gptrs := t } keeps :=
  ⟨⟨h.paths, hok, h.latest⟩, Int.add_le_add_left hle _, by
    rw [← hsame]
    simp only [World.drift]
    omega⟩

lemma Inv.pathDel (addr : MacAddr) : w.paths.Shrinks (rtwWdsPathDel w.paths addr) := by
  rw [rtwWdsPathDel]
  cases hlook : w.paths.lookup addr with
  | none => exact h.paths.refl
  | some e => exact h.paths.del (mem_of_lookupKey hlook).1

lemma Inv.gptrUpdate (src : MacAddr) (now : UInt64) (a : Answer) :
    Stepped w { w with gptrs := rtwTxWdsGptrUpdate w.gptrs src now a }
      (w.gptrs.lookup src = none → ¬ w.gptrs.Leaks src a) := by
  rw [rtwTxWdsGptrUpdate]
  cases hlook : w.gptrs.lookup src with
  | none =>
    have hadd := h.gptrs.add src () now a
    exact .gptrs h hadd.ok hadd.le (hadd.same.trans (by simp))
  | some e =>
    have hsame := w.gptrs.drift_modify src fun e => { e with lastUpdate := now }
    exact .gptrs h (h.gptrs.modified src fun _ => rfl) hsame.ge
      (iff_of_true hsame fun hnone => by cases hnone)

/-- The next hop is changed in the entry that is found, and goes into the one that is made. -/
lemma Inv.pathAdd (own dst : MacAddr) (nextHop : σ) (now : UInt64) (a : Answer) :
    Stepped w
      { w with
        paths := (rtwWdsPathAdd own w.paths dst nextHop now a).2
        latest := if (rtwWdsPathAdd own w.paths dst nextHop now a).1 = .found ∨
          (rtwWdsPathAdd own w.paths dst nextHop now a).1 = .added then
          update w.latest dst (some nextHop) else w.latest }
      (Keeps own w (.pathAdd dst nextHop now a)) := by
  rw [rtwWdsPathAdd]
  by_cases hown : dst = own
  · rw [if_pos hown]
    exact .refused h (.inl hown)
  by_cases hmcast : isMcast dst = true
  · rw [if_neg hown, if_pos hmcast]
    exact .refused h (.inr (.inl hmcast))
  rw [if_neg hown, if_neg hmcast]
  have hkeeps : Keeps own w (.pathAdd dst nextHop now a) ↔ ¬ w.paths.Leaks dst a := by
    simp [Keeps, hown, hmcast]
  have hadd := h.paths.add dst nextHop now a
  generalize w.paths.add dst nextHop now a = r at hadd
  obtain ⟨ret, t⟩ := r
  have hle : w.drift ≤ t.drift + w.gptrs.drift := Int.add_le_add_right hadd.le _
  have hsame : t.drift + w.gptrs.drift = w.drift ↔ Keeps own w (.pathAdd dst nextHop now a) :=
    by
    rw [hkeeps, ← hadd.same]
    simp only [World.drift]
    omega
  have hother : ∀ e ∈ w.paths.entries, e.dst ≠ dst →
      update w.latest dst (some nextHop) e.dst = some e.nextHop := by
    intro e he hne
    rw [update_of_ne hne, h.latest e he]
  cases ret with
  | notSupp => exact absurd rfl hadd.ret
  | noSpc | noMem | insertErr =>
    exact ⟨⟨hadd.ok, h.gptrs, fun e he => h.latest e (hadd.kept Ret.noConfusion ▸ he)⟩, hle,
      hsame⟩
  | found =>
    have hdrift := t.drift_modify dst fun e => { e with nextHop := nextHop }
    have hentries : t.entries = w.paths.entries := hadd.kept Ret.noConfusion
    refine ⟨⟨hadd.ok.modified dst fun _ => rfl, h.gptrs, ?_⟩, ?_, ?_⟩
    · intro e he
      obtain ⟨e', he', rfl⟩ := mem_map.1 he
      by_cases hdst : e'.dst = dst
      · rw [if_pos hdst]
        exact (congrArg _ hdst).trans (update_self dst _ _)
      · rw [if_neg hdst]
        exact hother e' (hentries ▸ he') hdst
    · exact hle.trans_eq (congrArg (· + w.gptrs.drift) hdrift).symm
    · rw [← hsame, ← hdrift]
      rfl
  | added =>
    refine ⟨⟨hadd.ok, h.gptrs, fun e he => ?_⟩, hle, hsame⟩
    have hentries : t.entries = ⟨dst, nextHop, now⟩ :: w.paths.entries := hadd.made rfl
    have hkeys := hadd.ok.keys
    rw [hentries, map_cons, nodup_cons] at hkeys
    rw [hentries] at he
    rcases mem_cons.1 he with rfl | hold
    · exact update_self dst _ _
    · refine hother e hold fun hdst => hkeys.1 ?_
      exact mem_map.2 ⟨e, hold, hdst⟩

end

lemma inv_init : Inv (init : World σ) :=
  ⟨.empty, .empty, fun _ he => absurd he not_mem_nil⟩

structure Right (own : MacAddr) (w : World σ) : Prop where
  paths : w.paths.num = w.paths.entries.length ∧ w.paths.entries.length ≤ rtwWdsMaxPaths
  gptrs : w.gptrs.num = w.gptrs.entries.length ∧ w.gptrs.entries.length ≤ rtwWdsMaxPaths
  once : (w.paths.entries.map Entry.dst).Nodup ∧ (w.gptrs.entries.map Entry.dst).Nodup
  latest : Latest w
  pathSpace : ∀ dst nextHop now a, dst ≠ own → isMcast dst = false →
    ((rtwWdsPathAdd own w.paths dst nextHop now a).1 = .noSpc ↔
      w.paths.entries.length = rtwWdsMaxPaths)
  gptrSpace : ∀ src now a, ((w.gptrs.add src () now a).1 = .noSpc ↔
    w.gptrs.entries.length = rtwWdsMaxPaths)

lemma rtwWdsPathAdd_noSpc (h : Inv w) {own dst : MacAddr} (hown : dst ≠ own)
    (hmcast : isMcast dst = false) (nextHop : σ) (now : UInt64) (a : Answer) :
    (rtwWdsPathAdd own w.paths dst nextHop now a).1 = .noSpc ↔ w.paths.num = rtwWdsMaxPaths := by
  have hadd := (h.paths.add dst nextHop now a).space
  rw [rtwWdsPathAdd, if_neg hown, if_neg (by rw [hmcast]; decide)]
  generalize w.paths.add dst nextHop now a = r at hadd
  obtain ⟨ret, t⟩ := r
  cases ret <;> exact hadd

lemma Inv.right_iff (h : Inv w) (own : MacAddr) : Right own w ↔ w.drift = 0 := by
  have hp := h.paths.counted
  have hpmax := h.paths.max
  have hg := h.gptrs.counted
  have hgmax := h.gptrs.max
  simp only [World.drift, Table.drift]
  refine ⟨fun hr => ?_, fun hz => ?_⟩
  · have hpaths := hr.paths.1
    have hgptrs := hr.gptrs.1
    omega
  · refine ⟨by omega, by omega, ⟨h.paths.keys, h.gptrs.keys⟩, h.latest, ?_, ?_⟩
    · intro dst nextHop now a hown hmcast
      rw [rtwWdsPathAdd_noSpc h hown hmcast]
      omega
    · intro src now a
      rw [(h.gptrs.add src () now a).space]
      omega

variable [DecidableEq σ] (env : Env)

lemma Inv.step (h : Inv w) (ev : Event σ) :
    Stepped w (step env w ev) (Keeps env.own w ev) := by
  cases ev with
  | pathAdd dst nextHop now a => exact h.pathAdd env.own dst nextHop now a
  | pathDel addr => exact .shrunk h (h.pathDel addr) fun _ _ hl => hl
  | flushByNexthop sta =>
    obtain ⟨hshrinks, hleft⟩ := h.paths.flush fun e => e.nextHop = sta
    refine .shrunk h hshrinks fun e he hl => ?_
    have hne : e.nextHop ≠ sta := of_decide_eq_false (hleft e he)
    rw [hl, if_neg fun heq => hne (Option.some.inj heq)]
  | flushByIface => exact .shrunk h (h.paths.flush fun _ => true).1 fun _ _ hl => hl
  | pathExpire now => exact .shrunk h (h.paths.flush _).1 fun _ _ hl => hl
  | gptrUpdate src now a => exact h.gptrUpdate src now a
  | gptrExpire now =>
    have hshrinks := (h.gptrs.flush fun e => timeAfter now (e.lastUpdate + 2 * env.hz)).1
    exact .gptrs h hshrinks.ok hshrinks.drift.ge (iff_of_true hshrinks.drift trivial)

/-- For every sequence of adds, deletions, flushes and expiries of both tables: the tables are
right in the state that is reached if and only if each add on the way that reserved a place made
an entry, that is, met no failed allocation, no failed insertion and no entry that was there. -/
theorem tables_right_iff (es : List (Event σ)) :
    Right env.own (run (step env) init es) ↔ Guarded (step env) (Keeps env.own) init es := by
  have hinv : Inv (run (step env) (init : World σ) es) :=
    run_invariant (fun _ ev h => (h.step env ev).inv) inv_init es
  rw [hinv.right_iff env.own]
  exact (guarded_iff_measure World.drift (fun _ ev h => (h.step env ev).inv)
    (fun _ ev h => (h.step env ev).le) (fun _ ev h => (h.step env ev).same) inv_init es).symm

/-- One allocation that fails leaves a path counted that is not in the table. -/
theorem tables_wrong :
    ¬ Right (fun _ => 0) (run (step ⟨fun _ => 0, 100⟩) (init : World ℕ)
      [.pathAdd (fun _ => 2) 7 0 .noMem]) := by
  intro h
  have hnum := h.paths.1
  revert hnum
  decide

end

end Rtl8831.Core.Wds
