import Rtl8831.Core.Wds

/-!
# Mesh paths, proxied destinations and the known gates

The paths to gates are listed a second time, with a count and the gate of the largest address.
`mpaths` is raised before a path exists, and lowered where an entry of either table is freed.
-/

namespace Rtl8831.Core.Mesh

open Lib List
open Wds (MacAddr timeAfter Answer Ret)

def rtwMeshMaxMpaths : ℤ := 1024

/-- What `be32_to_cpu` and `be16_to_cpu` read. -/
def be (l : List UInt8) : ℕ := l.foldl (fun n b => 256 * n + b.toNat) 0

def rtwMacaddrIsLarger (a b : MacAddr) : Bool :=
  let va := be [a 0, a 1, a 2, a 3]
  let vb := be [b 0, b 1, b 2, b 3]
  if vb < va then true
  else if va < vb then false
  else be [b 4, b 5] < be [a 4, a 5]

structure MeshPath (σ : Type) where
  dst : MacAddr
  nextHop : Option σ
  expTime : UInt64
  resolving : Bool
  fixed : Bool
  isGate : Bool
  gateAsked : Bool
  gateAnnInt : UInt32
  gateTimeout : UInt64

/-- An entry of `mpp_paths`, which is never a gate and has no flags. -/
structure MppPath where
  dst : MacAddr
  mpp : MacAddr
  expTime : UInt64

structure Gates where
  knownGates : List MacAddr
  numGates : ℤ
  maxAddrGate : Option MacAddr
  isLargerThanSelf : Bool

namespace Gates

variable (own : MacAddr) (g : Gates) (dst : MacAddr)

/-- A list with a gate in it has a `max_addr_gate`. -/
def add : Gates :=
  let g' := { g with knownGates := dst :: g.knownGates, numGates := g.numGates + 1 }
  if g.numGates = 0 ∨ g.maxAddrGate.any (rtwMacaddrIsLarger dst) then
    { g' with maxAddrGate := some dst, isLargerThanSelf := rtwMacaddrIsLarger dst own }
  else g'

def search (l : List MacAddr) : Option MacAddr :=
  l.foldl (fun m gate => if m.all (rtwMacaddrIsLarger gate) then some gate else m) none

def del : Gates :=
  let knownGates := g.knownGates.erase dst
  let g' := { g with knownGates, numGates := g.numGates - 1 }
  if g.numGates = 1 then { g' with maxAddrGate := none, isLargerThanSelf := false }
  else if g.maxAddrGate = some dst then
    { g' with
      maxAddrGate := search knownGates
      isLargerThanSelf := (search knownGates).any fun m => rtwMacaddrIsLarger m own }
  else g'

end Gates

/-- `leaked` counts the places that were reserved and no path was made for, and `mppFreed` the
entries of `mpp_paths` that were freed. -/
structure MeshInfo (σ : Type) where
  meshPaths : List (MeshPath σ)
  mppPaths : List MppPath
  mpaths : ℤ
  gates : Gates
  leaked : ℕ
  mppFreed : ℕ

structure Env where
  own : MacAddr
  hz : UInt64
  msToSystime : UInt32 → UInt64
  pathGateTimeoutFactor : UInt32

namespace MeshInfo

variable {σ : Type}

def init : MeshInfo σ := ⟨[], [], 0, ⟨[], 0, none, false⟩, 0, 0⟩

variable (env : Env) (w : MeshInfo σ)

def path (dst : MacAddr) : Option (MeshPath σ) := lookupKey MeshPath.dst dst w.meshPaths

def mppPath (dst : MacAddr) : Option MppPath := lookupKey MppPath.dst dst w.mppPaths

def set (dst : MacAddr) (f : MeshPath σ → MeshPath σ) : MeshInfo σ :=
  { w with meshPaths := modifyKey MeshPath.dst dst f w.meshPaths }

def rtwMeshPathAdd (dst : MacAddr) (now : UInt64) (a : Answer) : Ret × MeshInfo σ :=
  if dst = env.own ∨ Wds.isMcast dst then (.notSupp, w)
  else if w.mpaths = rtwMeshMaxMpaths then (.noSpc, w)
  else
    let lost := { w with mpaths := w.mpaths + 1, leaked := w.leaked + 1 }
    match a, w.path dst with
    | .noMem, _ => (.noMem, lost)
    | .insertErr, _ => (.insertErr, lost)
    | .ok, some _ => (.found, lost)
    | .ok, none =>
      (.added, { w with
        meshPaths := ⟨dst, none, now, false, false, false, false, 0, 0⟩ :: w.meshPaths
        mpaths := w.mpaths + 1 })

def rtwMeshPathAddGate (p : MeshPath σ) (now : UInt64) : MeshInfo σ :=
  let gateTimeout := now + env.msToSystime (env.pathGateTimeoutFactor * p.gateAnnInt)
  if p.isGate then w.set p.dst fun p => { p with gateTimeout }
  else
    { w.set p.dst fun p => { p with gateTimeout, isGate := true } with
      gates := w.gates.add env.own p.dst }

def rtwMeshGateDel (p : MeshPath σ) : MeshInfo σ :=
  if p.isGate then
    { w.set p.dst fun p => { p with isGate := false } with gates := w.gates.del env.own p.dst }
  else w

/-- `__rtw_mesh_path_del` -/
def del (p : MeshPath σ) : MeshInfo σ :=
  { w with
    meshPaths := eraseKey MeshPath.dst p.dst w.meshPaths
    gates := (w.rtwMeshGateDel env p).gates
    mpaths := w.mpaths - 1 }

def mppDel (e : MppPath) : MeshInfo σ :=
  { w with
    mppPaths := eraseKey MppPath.dst e.dst w.mppPaths
    mpaths := w.mpaths - 1
    mppFreed := w.mppFreed + 1 }

/-- The entries are gone through as they are when the walk comes to them. -/
def walk (f : MeshInfo σ → MeshPath σ → MeshInfo σ) : MeshInfo σ :=
  (w.meshPaths.map MeshPath.dst).foldl (fun w d => (w.path d).elim w (f w)) w

def mppFlush (p : MppPath → Bool) : MeshInfo σ :=
  (w.mppPaths.map MppPath.dst).foldl
    (fun w d => (w.mppPath d).elim w fun e => if p e then w.mppDel e else w) w

def expirePath (now : UInt64) (w : MeshInfo σ) (p : MeshPath σ) : MeshInfo σ :=
  if p.resolving = false ∧ p.fixed = false ∧ timeAfter now (p.expTime + 600 * env.hz) then
    w.del env p
  else if p.isGate = true ∧ timeAfter now p.gateTimeout then
    if p.gateAsked then w.rtwMeshGateDel env p
    else
      w.set p.dst fun p =>
        { p with gateAsked := true, gateTimeout := now + env.msToSystime p.gateAnnInt }
  else w

/-- The proxied sender of a frame, in `rtw_mesh_rx_msdu_act_check`. -/
def rxProxied (sa msa : MacAddr) (now : UInt64) (a : Answer) : MeshInfo σ :=
  match w.mppPath sa with
  | some _ =>
    { w with
      mppPaths :=
        modifyKey MppPath.dst sa (fun e => { e with mpp := msa, expTime := now }) w.mppPaths }
  | none =>
    if sa = env.own ∨ Wds.isMcast sa ∨ a ≠ .ok then w
    else { w with mppPaths := ⟨sa, msa, now⟩ :: w.mppPaths }

/-- What an announcement or a request of a root says of its being a gate. -/
def gateAnn (gateAnnInt : UInt32) (isGate : Bool) (now : UInt64) (p : MeshPath σ) :
    MeshInfo σ :=
  if isGate then
    let f (p : MeshPath σ) := { p with gateAnnInt, gateAsked := false }
    (w.set p.dst f).rtwMeshPathAddGate env (f p) now
  else w.rtwMeshGateDel env p

/-- A reply of the gate that was asked. -/
def gateReply (isGate : Bool) (p : MeshPath σ) : MeshInfo σ :=
  if p.gateAsked then
    let f (p : MeshPath σ) := { p with gateAsked := false }
    if isGate then w.set p.dst f else (w.set p.dst f).rtwMeshGateDel env (f p)
  else w

end MeshInfo

/-- `pathSet` is any other change of a path, by path selection. -/
inductive Event (σ : Type)
  | pathAdd (dst : MacAddr) (now : UInt64) (a : Answer)
  | pathSet (dst : MacAddr) (nextHop : Option σ) (expTime : UInt64) (resolving fixed : Bool)
  | rxProxied (sa msa : MacAddr) (now : UInt64) (a : Answer)
  | gateAnn (dst : MacAddr) (interval : UInt32) (isGate : Bool) (now : UInt64)
  | gateReply (dst : MacAddr) (isGate : Bool)
  | pathDel (addr : MacAddr)
  | flushByNexthop (sta : σ)
  | flushByIface
  | expire (now : UInt64)

def step {σ : Type} [DecidableEq σ] (env : Env) (w : MeshInfo σ) : Event σ → MeshInfo σ
  | .pathAdd dst now a => (w.rtwMeshPathAdd env dst now a).2
  | .pathSet dst nextHop expTime resolving fixed =>
    w.set dst fun p => { p with nextHop, expTime, resolving, fixed }
  | .rxProxied sa msa now a => w.rxProxied env sa msa now a
  | .gateAnn dst interval isGate now => (w.path dst).elim w (w.gateAnn env interval isGate now)
  | .gateReply dst isGate => (w.path dst).elim w (w.gateReply env isGate)
  | .pathDel addr =>
    let w := w.mppFlush fun e => e.mpp = addr
    (w.path addr).elim w (w.del env)
  | .flushByNexthop sta => w.walk fun w p => if p.nextHop = some sta then w.del env p else w
  | .flushByIface => (w.walk (MeshInfo.del env)).mppFlush fun _ => true
  | .expire now =>
    (w.walk (MeshInfo.expirePath env now)).mppFlush fun e => timeAfter now (e.expTime + 600 * env.hz)

/-- The address as one number. -/
def val (a : MacAddr) : ℕ := be [a 0, a 1, a 2, a 3, a 4, a 5]

variable {a b : MacAddr}

lemma rtwMacaddrIsLarger_iff :
    rtwMacaddrIsLarger a b = true ↔ val b < val a := by
  have ha := (a 4).toNat_lt
  have ha' := (a 5).toNat_lt
  have hb := (b 4).toNat_lt
  have hb' := (b 5).toNat_lt
  simp only [rtwMacaddrIsLarger, val, be, foldl_cons, foldl_nil]
  split_ifs <;> simp <;> omega

lemma not_rtwMacaddrIsLarger_iff :
    rtwMacaddrIsLarger a b = false ↔ val a ≤ val b := by
  rw [Bool.eq_false_iff, Ne, rtwMacaddrIsLarger_iff, not_lt]

namespace Gates

variable {own : MacAddr} {g : Gates} {is is' : MacAddr → Prop} {dst : MacAddr}

/-- The gates listed are those with `is`, and no other has a larger address than the gate kept. -/
structure Ok (own : MacAddr) (g : Gates) (is : MacAddr → Prop) : Prop where
  once : g.knownGates.Nodup
  listed : ∀ d, d ∈ g.knownGates ↔ is d
  num : g.numGates = g.knownGates.length
  none : g.maxAddrGate = none ↔ g.knownGates = []
  max : ∀ m, g.maxAddrGate = some m →
    m ∈ g.knownGates ∧ ∀ d ∈ g.knownGates, rtwMacaddrIsLarger d m = false
  larger : g.isLargerThanSelf = g.maxAddrGate.any fun m => rtwMacaddrIsLarger m own

lemma Ok.congr (h : g.Ok own is) (his : ∀ d, is d ↔ is' d) : g.Ok own is' :=
  funext (fun d => propext (his d)) ▸ h

lemma search_eq_argmax (l : List MacAddr) : search l = l.argmax val := by
  rw [search, argmax]
  congr 1
  funext m gate
  cases m with
  | none => rfl
  | some m => simp only [argAux, Option.all_some, rtwMacaddrIsLarger_iff]

lemma Ok.add (h : g.Ok own is) (hd : ¬ is dst) :
    (g.add own dst).Ok own fun d => d = dst ∨ is d := by
  have honce := nodup_cons.2 ⟨fun hmem => hd ((h.listed dst).1 hmem), h.once⟩
  have hnum : g.numGates + 1 = (dst :: g.knownGates).length := by
    rw [h.num, length_cons, Nat.cast_succ]
  have hlisted (d : MacAddr) : d ∈ dst :: g.knownGates ↔ d = dst ∨ is d := by
    rw [mem_cons, h.listed]
  have hempty : g.numGates = 0 ↔ g.knownGates = [] := by
    rw [h.num, Nat.cast_eq_zero, length_eq_zero_iff]
  rw [Gates.add]
  split_ifs with hmax
  · refine ⟨honce, hlisted, hnum, by simp, ?_, rfl⟩
    rintro m ⟨⟩
    refine ⟨mem_cons_self, fun d hmem => not_rtwMacaddrIsLarger_iff.2 ?_⟩
    rcases mem_cons.1 hmem with rfl | hold
    · exact le_rfl
    · rcases hmax with hzero | hany
      · rw [hempty.1 hzero] at hold
        cases hold
      · obtain ⟨m, hm, hlt⟩ := (Option.any_eq_true _ _).1 hany
        have hle := not_rtwMacaddrIsLarger_iff.1 ((h.max m hm).2 d hold)
        exact hle.trans (rtwMacaddrIsLarger_iff.1 hlt).le
  · obtain ⟨hne, hany⟩ := not_or.1 hmax
    refine ⟨honce, hlisted, hnum, ?_, fun m hm => ?_, h.larger⟩
    · exact iff_of_false (fun hnone => hne (hempty.2 (h.none.1 hnone))) (cons_ne_nil _ _)
    · obtain ⟨hold, hle⟩ := h.max m hm
      refine ⟨mem_cons_of_mem dst hold, fun d hd => ?_⟩
      rcases mem_cons.1 hd with rfl | hd
      · exact Bool.eq_false_iff.2 fun hlt => hany ((Option.any_eq_true _ _).2 ⟨m, hm, hlt⟩)
      · exact hle d hd

lemma Ok.del (h : g.Ok own is) (hd : is dst) :
    (g.del own dst).Ok own fun d => d ≠ dst ∧ is d := by
  have hmem := (h.listed dst).2 hd
  have honce := h.once.erase dst
  have hlisted (d : MacAddr) : d ∈ g.knownGates.erase dst ↔ d ≠ dst ∧ is d := by
    rw [h.once.mem_erase_iff, h.listed]
  have hlen := length_erase_of_mem hmem
  have hpos := length_pos_of_mem hmem
  have hold := h.num
  have hnum : g.numGates - 1 = (g.knownGates.erase dst).length := by omega
  rw [Gates.del]
  split_ifs with hone hmax
  · have hnil : g.knownGates.erase dst = [] := by
      rw [← length_eq_zero_iff]
      omega
    exact ⟨honce, hlisted, hnum, iff_of_true rfl hnil, nofun, rfl⟩
  · refine ⟨honce, hlisted, hnum, ?_, fun m hm => ?_, rfl⟩
    · rw [search_eq_argmax, argmax_eq_none]
    · rw [search_eq_argmax] at hm
      exact ⟨argmax_mem hm, fun d hd => not_rtwMacaddrIsLarger_iff.2 (le_of_mem_argmax hd hm)⟩
  · refine ⟨honce, hlisted, hnum, iff_of_false ?_ ?_, fun m hm => ?_, h.larger⟩
    · rw [h.none]
      exact ne_nil_of_mem hmem
    · change g.knownGates.erase dst ≠ []
      rw [Ne, ← length_eq_zero_iff]
      omega
    · obtain ⟨hold, hle⟩ := h.max m hm
      refine ⟨(h.once.mem_erase_iff).2 ⟨fun heq => hmax (heq ▸ hm), hold⟩, fun d hd => ?_⟩
      exact hle d (mem_of_mem_erase hd)

end Gates

namespace MeshInfo

variable {σ : Type} {env : Env} {w : MeshInfo σ} {p : MeshPath σ} {dst : MacAddr}

def IsGate (w : MeshInfo σ) (dst : MacAddr) : Prop := ∃ p, w.path dst = some p ∧ p.isGate = true

/-- What the tables, the counter and the gates have in common in every state. -/
structure Inv (own : MacAddr) (w : MeshInfo σ) : Prop where
  paths : (w.meshPaths.map MeshPath.dst).Nodup
  mppPaths : (w.mppPaths.map MppPath.dst).Nodup
  gates : w.gates.Ok own w.IsGate
  counted : w.mpaths + w.mppFreed = w.meshPaths.length + w.leaked ∧ w.mpaths ≤ rtwMeshMaxMpaths

lemma path_set {f : MeshPath σ → MeshPath σ} (hf : ∀ p, (f p).dst = p.dst) (d : MacAddr) :
    (w.set dst f).path d = if d = dst then (w.path d).map f else w.path d :=
  lookupKey_modifyKey hf

lemma path_set_self (hp : w.path p.dst = some p) {f : MeshPath σ → MeshPath σ}
    (hf : ∀ p, (f p).dst = p.dst) : (w.set p.dst f).path (f p).dst = some (f p) := by
  rw [path_set hf, if_pos (hf p), hf, hp, Option.map_some]

lemma isGate_set (hp : w.path p.dst = some p) {f : MeshPath σ → MeshPath σ}
    (hf : ∀ p, (f p).dst = p.dst) (d : MacAddr) :
    (w.set p.dst f).IsGate d ↔ if d = p.dst then (f p).isGate = true else w.IsGate d := by
  simp only [IsGate, path_set hf]
  by_cases hd : d = p.dst
  · simp [hd, hp]
  · simp [hd]

lemma isGate_of_path (hp : w.path dst = some p) : w.IsGate dst ↔ p.isGate = true := by
  simp [IsGate, hp]

lemma dst_of_path (hp : w.path dst = some p) : p.dst = dst := (mem_of_lookupKey hp).2

section

variable (h : w.Inv env.own)
include h

variable {f : MeshPath σ → MeshPath σ}

/-- A change of one path, with the gates as they have to be for it. -/
lemma Inv.change (hf : ∀ p, (f p).dst = p.dst) {g : Gates}
    (hg : g.Ok env.own (w.set dst f).IsGate) : ({ w.set dst f with gates := g }).Inv env.own :=
  ⟨(map_key_modifyKey hf).symm ▸ h.paths, h.mppPaths, hg, by
    simpa only [MeshInfo.set, length_modifyKey] using h.counted⟩

lemma Inv.set (hf : ∀ p, (f p).dst = p.dst ∧ (f p).isGate = p.isGate) :
    (w.set dst f).Inv env.own := by
  refine h.change (fun p => (hf p).1) (h.gates.congr fun d => ?_)
  simp only [IsGate, path_set fun p => (hf p).1]
  by_cases hd : d = dst
  · simp [hd, (hf _).2]
  · simp [hd]

lemma Inv.addGate (hp : w.path p.dst = some p) (now : UInt64) :
    (w.rtwMeshPathAddGate env p now).Inv env.own := by
  rw [rtwMeshPathAddGate]
  split_ifs with hgate
  · exact h.set fun _ => ⟨rfl, rfl⟩
  · refine h.change (by exact fun _ => rfl) ((h.gates.add ?_).congr fun d => ?_)
    · rwa [isGate_of_path hp]
    · rw [isGate_set hp (by exact fun _ => rfl)]
      by_cases hd : d = p.dst <;> simp [hd]

lemma Inv.gates_del (hp : w.path p.dst = some p) :
    (w.rtwMeshGateDel env p).gates.Ok env.own fun d => d ≠ p.dst ∧ w.IsGate d := by
  rw [rtwMeshGateDel]
  split_ifs with hgate
  · exact h.gates.del ((isGate_of_path hp).2 hgate)
  · refine h.gates.congr fun d => (and_iff_right_of_imp ?_).symm
    rintro his rfl
    exact hgate ((isGate_of_path hp).1 his)

lemma Inv.gateDel (hp : w.path p.dst = some p) :
    (w.rtwMeshGateDel env p).Inv env.own := by
  have hgates := h.gates_del hp
  rw [rtwMeshGateDel] at hgates ⊢
  split_ifs at hgates ⊢ with hgate
  · refine h.change (by exact fun _ => rfl) (hgates.congr fun d => ?_)
    rw [isGate_set hp (by exact fun _ => rfl)]
    by_cases hd : d = p.dst <;> simp [hd]
  · exact h

lemma Inv.del (hp : w.path p.dst = some p) : (w.del env p).Inv env.own := by
  have hlen := length_eraseKey h.paths (mem_of_lookupKey hp).1
  have hcounted := h.counted
  refine ⟨nodup_eraseKey h.paths, h.mppPaths, (h.gates_del hp).congr fun d => ?_, ?_⟩
  · simp only [IsGate, MeshInfo.path, MeshInfo.del, lookupKey_eraseKey]
    by_cases hd : d = p.dst
    · simp [hd]
    · simp [hd]
  · simp only [MeshInfo.del]
    omega

lemma Inv.mppDel (e : MppPath) : (w.mppDel e).Inv env.own := by
  have hcounted := h.counted
  refine ⟨h.paths, nodup_eraseKey h.mppPaths, h.gates, ?_⟩
  simp only [MeshInfo.mppDel]
  omega

lemma Inv.elim {f : MeshPath σ → MeshInfo σ}
    (hf : ∀ p, w.path p.dst = some p → (f p).Inv env.own) :
    ((w.path dst).elim w f).Inv env.own := by
  cases hp : w.path dst with
  | none => exact h
  | some p =>
    obtain rfl := dst_of_path hp
    exact hf p hp

lemma Inv.walk {f : MeshInfo σ → MeshPath σ → MeshInfo σ}
    (hf : ∀ w p, w.Inv env.own → w.path p.dst = some p → (f w p).Inv env.own) :
    (w.walk f).Inv env.own := by
  rw [MeshInfo.walk]
  generalize w.meshPaths.map MeshPath.dst = l
  induction l generalizing w with
  | nil => exact h
  | cons d l ih => exact ih (h.elim fun p => hf w p h)

lemma Inv.mppFlush (p : MppPath → Bool) :
    (w.mppFlush p).Inv env.own := by
  rw [MeshInfo.mppFlush]
  generalize w.mppPaths.map MppPath.dst = l
  induction l generalizing w with
  | nil => exact h
  | cons d l ih =>
    refine ih ?_
    change ((w.mppPath d).elim w fun e => if p e then w.mppDel e else w).Inv env.own
    cases w.mppPath d with
    | none => exact h
    | some e =>
      rw [Option.elim_some]
      split_ifs
      · exact h.mppDel e
      · exact h

lemma Inv.leak (hne : w.mpaths ≠ rtwMeshMaxMpaths) :
    ({ w with mpaths := w.mpaths + 1, leaked := w.leaked + 1 } : MeshInfo σ).Inv env.own := by
  have hcounted := h.counted
  refine ⟨h.paths, h.mppPaths, h.gates, ?_⟩
  dsimp only
  omega

lemma Inv.pathAdd (dst : MacAddr) (now : UInt64) (a : Answer) :
    (w.rtwMeshPathAdd env dst now a).2.Inv env.own := by
  rw [rtwMeshPathAdd]
  split_ifs with hdst hmax
  · exact h
  · exact h
  cases a with
  | noMem | insertErr => exact h.leak hmax
  | ok =>
    dsimp only
    cases hp : w.path dst with
    | some p => exact h.leak hmax
    | none =>
      have hcounted := h.counted
      refine ⟨nodup_cons.2 ⟨notMem_of_lookupKey hp, h.paths⟩, h.mppPaths,
        h.gates.congr fun d => ?_, ?_⟩
      · simp only [IsGate, MeshInfo.path, lookupKey_cons]
        by_cases hd : dst = d
        · subst hd
          rw [MeshInfo.path] at hp
          simp [hp]
        · simp [hd]
      · simp only [length_cons]
        omega

lemma Inv.rxProxied (sa msa : MacAddr) (now : UInt64) (a : Answer) :
    (w.rxProxied env sa msa now a).Inv env.own := by
  rw [MeshInfo.rxProxied]
  cases he : w.mppPath sa with
  | some e =>
    refine ⟨h.paths, ?_, h.gates, h.counted⟩
    rw [map_key_modifyKey (by exact fun _ => rfl)]
    exact h.mppPaths
  | none =>
    dsimp only
    split_ifs
    · exact h
    · exact ⟨h.paths, nodup_cons.2 ⟨notMem_of_lookupKey he, h.mppPaths⟩, h.gates, h.counted⟩

lemma Inv.gateAnn (hp : w.path p.dst = some p) (interval : UInt32)
    (isGate : Bool) (now : UInt64) : (w.gateAnn env interval isGate now p).Inv env.own := by
  rw [MeshInfo.gateAnn]
  split_ifs
  · exact (h.set (by exact fun _ => ⟨rfl, rfl⟩)).addGate
      (path_set_self hp (by exact fun _ => rfl)) now
  · exact h.gateDel hp

lemma Inv.gateReply (hp : w.path p.dst = some p) (isGate : Bool) :
    (w.gateReply env isGate p).Inv env.own := by
  have hset : (w.set p.dst fun p => { p with gateAsked := false }).Inv env.own :=
    h.set fun _ => ⟨rfl, rfl⟩
  rw [MeshInfo.gateReply]
  split_ifs
  · exact hset
  · exact hset.gateDel (path_set_self hp (by exact fun _ => rfl))
  · exact h

lemma Inv.expirePath (hp : w.path p.dst = some p) (now : UInt64) :
    (MeshInfo.expirePath env now w p).Inv env.own := by
  rw [MeshInfo.expirePath]
  split_ifs
  · exact h.del hp
  · exact h.gateDel hp
  · exact h.set fun _ => ⟨rfl, rfl⟩
  · exact h

end

lemma inv_init : (init : MeshInfo σ).Inv env.own := by
  refine ⟨nodup_nil, nodup_nil, ⟨nodup_nil, fun d => ?_, rfl, iff_of_true rfl rfl, nofun, rfl⟩,
    ⟨rfl, (by decide : (0 : ℤ) ≤ rtwMeshMaxMpaths)⟩⟩
  simp [IsGate, path, init, lookupKey]

lemma Inv.step [DecidableEq σ] (h : w.Inv env.own) (e : Event σ) :
    (Mesh.step env w e).Inv env.own := by
  cases e with
  | pathAdd dst now a => exact h.pathAdd dst now a
  | pathSet dst nextHop expTime resolving fixed => exact h.set fun _ => ⟨rfl, rfl⟩
  | rxProxied sa msa now a => exact h.rxProxied sa msa now a
  | gateAnn dst interval isGate now => exact h.elim fun _ hp => h.gateAnn hp interval isGate now
  | gateReply dst isGate => exact h.elim fun _ hp => h.gateReply hp isGate
  | pathDel addr => exact (h.mppFlush _).elim fun _ hp => (h.mppFlush _).del hp
  | flushByNexthop sta =>
    refine h.walk fun w p h hp => ?_
    split_ifs
    · exact h.del hp
    · exact h
  | flushByIface => exact (h.walk fun _ _ h hp => h.del hp).mppFlush _
  | expire now => exact (h.walk fun _ _ h hp => h.expirePath hp now).mppFlush _

/-- For every sequence of adds, changes, gate announcements, deletions, flushes and expiries: a
destination is at most once in each table; the gates are the paths marked as one, counted, and
with one of the largest address kept; the counter is the number of paths, more by one for each
place reserved for no path and less by one for each proxied entry that was freed; and it decides
when an add is refused. -/
theorem mesh_tables_sound [DecidableEq σ] (env : Env) (es : List (Event σ)) :
    let w := run (Mesh.step env) init es
    w.Inv env.own ∧ ∀ dst now a, (w.rtwMeshPathAdd env dst now a).1 = .noSpc ↔
      dst ≠ env.own ∧ Wds.isMcast dst = false ∧
        w.meshPaths.length + w.leaked = rtwMeshMaxMpaths + w.mppFreed := by
  intro w
  have hinv : w.Inv env.own := run_invariant (fun _ e h => h.step e) inv_init es
  refine ⟨hinv, fun dst now a => ?_⟩
  have hcounted := hinv.counted
  rw [rtwMeshPathAdd]
  split_ifs with hdst hmax
  · exact iff_of_false nofun fun h => hdst.elim h.1 fun hm => absurd (hm.symm.trans h.2.1) nofun
  · refine iff_of_true rfl ⟨fun h => hdst (.inl h), ?_, ?_⟩
    · exact Bool.eq_false_iff.2 fun h => hdst (.inr h)
    · omega
  · refine iff_of_false ?_ fun h => hmax (by omega)
    cases a with
    | noMem | insertErr => exact nofun
    | ok => cases hp : w.path dst <;> simp

end MeshInfo

end Rtl8831.Core.Mesh
