import Rtl8831.Lib.Keyed
import Rtl8831.Phl.DisprMsg

/-!
# The registry of background modules

`dispr_register_module`, `dispr_deregister_module` and the starting and stopping of
modules in `phl_cmd_dispatcher.c`.  A module is linked into the queue of its priority
before it is initialised, and its bit is set only when it has been started; a run whose
registrations succeed and bring new identifiers keeps queues and bitmaps in step, and
no other run does.
-/

namespace Rtl8831.Phl.DisprRegistry

open Function List

open Lib (run Guarded)
open DisprMsg (MdlPriority getMdlPriority Bitmap addBitmapBit clrBitmapBit bkMdlEnd)

/-- `struct phl_bk_module`; `live` tells whether its memory is still allocated. -/
structure BkModule where
  id : ℕ
  init : Bool := false
  started : Bool := false
  live : Bool := true
  deriving DecidableEq

namespace BkModule

/-- `bk_module_init`, where `ret` tells whether `ops.init` succeeds. -/
def bkModuleInit (m : BkModule) (ret : Bool) : Bool × BkModule :=
  if m.init then (false, m) else if ret then (true, { m with init := true }) else (false, m)

def bkModuleDeinit (m : BkModule) : BkModule := { m with init := false }

/-- `bk_module_start`, where `ret` tells whether `ops.start` succeeds. -/
def bkModuleStart (m : BkModule) (ret : Bool) : Bool × BkModule :=
  if !m.init || m.started then (false, m)
  else if ret then (true, { m with started := true })
  else (false, m)

/-- `bk_module_stop`; the flag is cleared whatever `ops.stop` answers. -/
def bkModuleStop (m : BkModule) : BkModule := { m with started := false }

/-- `_os_mem_free`; nothing is said of what the memory holds then. -/
def free (m : BkModule) : BkModule := { m with live := false }

end BkModule

/-- The part of `struct cmd_dispatcher` that modules concern; `init` and `started` are
`DISPR_INIT` and `DISPR_STARTED`. -/
structure CmdDispatcher where
  init : Bool := true
  started : Bool := false
  moduleQ : MdlPriority → List BkModule := fun _ => []
  bitmap : Bitmap := ∅
  basemap : Bitmap := ∅

/-- What the surroundings answer to `dispr_register_module`: whether `chk_module_ops`
accepts the operations, memory is there, and `ops.init` and `ops.start` succeed. -/
structure Answers where
  opsOk : Bool := true
  alloc : Bool := true
  init : Bool := true
  start : Bool := true
  deriving DecidableEq

namespace CmdDispatcher

/-- `pq_push` to the tail. -/
def push (d : CmdDispatcher) (p : MdlPriority) (m : BkModule) : CmdDispatcher :=
  { d with moduleQ := update d.moduleQ p (d.moduleQ p ++ [m]) }

def addBits (d : CmdDispatcher) (p : MdlPriority) (id : ℕ) : CmdDispatcher :=
  { d with
    bitmap := addBitmapBit d.bitmap [id]
    basemap := if p = .optional then d.basemap else addBitmapBit d.basemap [id] }

def passes (d : CmdDispatcher) (id : ℕ) (a : Answers) : Bool :=
  d.init && a.opsOk && decide (id ∉ d.bitmap) && a.alloc

/-- `dispr_register_module`.  The module is linked before it is initialised, and what
becomes of it then is done in its place in the queue. -/
def registerModule (d : CmdDispatcher) (id : ℕ) (a : Answers) : Bool × CmdDispatcher :=
  match getMdlPriority id with
  | none => (false, d)
  | some p =>
    if !d.passes id a then (false, d)
    else
      match ({ id := id } : BkModule).bkModuleInit a.init with
      | (false, m) => (false, d.push p m.bkModuleDeinit.free)
      | (true, m) =>
        if d.started then
          match m.bkModuleStart a.start with
          | (false, m) => (false, d.push p m.bkModuleDeinit.free)
          | (true, m) => (true, (d.push p m).addBits p id)
        else (true, d.push p m)

def deregisterModule (d : CmdDispatcher) (id : ℕ) : Bool × CmdDispatcher :=
  match getMdlPriority id with
  | none => (false, d)
  | some p =>
    if !d.init then (false, d)
    else if (d.moduleQ p).any fun m => decide (m.id = id) then
      (true, { d with
        moduleQ := update d.moduleQ p ((d.moduleQ p).eraseP fun m => decide (m.id = id))
        bitmap := clrBitmapBit d.bitmap [id]
        basemap := clrBitmapBit d.basemap [id] })
    else (false, d)

/-- The modules of a queue that `dispr_module_start` starts. -/
def starting (d : CmdDispatcher) (ret : ℕ → Bool) (p : MdlPriority) : List ℕ :=
  ((d.moduleQ p).filter fun m => (m.bkModuleStart (ret m.id)).1).map BkModule.id

def moduleStart (d : CmdDispatcher) (ret : ℕ → Bool) : CmdDispatcher :=
  if d.started then
    { d with
      moduleQ := fun p => (d.moduleQ p).map fun m => (m.bkModuleStart (ret m.id)).2
      bitmap := addBitmapBit d.bitmap
        ([MdlPriority.role, .optional, .mandatory].flatMap (d.starting ret))
      basemap := addBitmapBit d.basemap
        ([MdlPriority.role, .mandatory].flatMap (d.starting ret)) }
  else d

def queued (d : CmdDispatcher) : List BkModule :=
  [MdlPriority.role, .optional, .mandatory].flatMap d.moduleQ

def moduleStop (d : CmdDispatcher) : CmdDispatcher :=
  if d.started then
    { d with
      moduleQ := fun p => (d.moduleQ p).map BkModule.bkModuleStop
      bitmap := clrBitmapBit d.bitmap (d.queued.map BkModule.id)
      basemap := clrBitmapBit d.basemap (d.queued.map BkModule.id) }
  else d

/-! ## Runs -/

inductive Event
  | register (id : ℕ) (a : Answers)
  | deregister (id : ℕ)
  | disprStart
  | moduleStart (ret : ℕ → Bool)
  | moduleStop
  | disprStop

def step (d : CmdDispatcher) : Event → CmdDispatcher
  | .register id a => (d.registerModule id a).2
  | .deregister id => (d.deregisterModule id).2
  | .disprStart => { d with started := true }
  | .moduleStart ret => d.moduleStart ret
  | .moduleStop => d.moduleStop
  | .disprStop => { d with started := false }

structure Consistent (d : CmdDispatcher) : Prop where
  unique : (d.queued.map BkModule.id).Nodup
  live : ∀ m ∈ d.queued, m.live = true ∧ m.init = true
  bitmap : ∀ id, id ∈ d.bitmap ↔ ∃ m ∈ d.queued, m.id = id ∧ m.started = true
  basemap : ∀ id, id ∈ d.basemap ↔ id ∈ d.bitmap ∧ getMdlPriority id ≠ some .optional

def Refuses (d : CmdDispatcher) : Event → Prop
  | .register id a => (d.registerModule id a).1 = false
  | _ => False

def Sound : CmdDispatcher → List Event → Prop
  | d, [] => d.Consistent
  | d, e :: es => d.Consistent ∧
      (d.Refuses e → (d.step e).moduleQ = d.moduleQ ∧ (d.step e).bitmap = d.bitmap ∧
        (d.step e).basemap = d.basemap) ∧ Sound (d.step e) es

/-- A registration that gets past the checks initialises its module, starts it if the
dispatcher has been started, and brings an identifier that no queued module has. -/
def Meets (d : CmdDispatcher) : Event → Prop
  | .register id a => getMdlPriority id ≠ none → d.passes id a = true →
      a.init = true ∧ (d.started = true → a.start = true) ∧ id ∉ d.queued.map BkModule.id
  | _ => True

/-! ## Queues -/

variable {d : CmdDispatcher} {id : ℕ} {p : MdlPriority} {m : BkModule} {a : Answers}

def Homes (d : CmdDispatcher) : Prop :=
  ∀ p, ∀ m ∈ d.moduleQ p, getMdlPriority m.id = some p

structure Inv (d : CmdDispatcher) : Prop where
  consistent : d.Consistent
  homes : d.Homes

lemma mem_queued : m ∈ d.queued ↔ ∃ p, m ∈ d.moduleQ p := by
  simp only [queued, flatMap_cons, flatMap_nil, append_nil, mem_append]
  constructor
  · rintro (h | h | h)
    · exact ⟨_, h⟩
    · exact ⟨_, h⟩
    · exact ⟨_, h⟩
  · rintro ⟨p, h⟩
    cases p with
    | role => exact .inl h
    | optional => exact .inr (.inl h)
    | mandatory => exact .inr (.inr h)

lemma queued_push (d : CmdDispatcher) (p : MdlPriority) (m : BkModule) :
    (d.push p m).queued.Perm (m :: d.queued) := by
  cases p with
  | role =>
    simp only [queued, push, flatMap_cons, flatMap_nil, append_nil,
      update_self, ne_eq, reduceCtorEq, not_false_eq_true, update_of_ne,
      append_assoc]
    exact perm_middle
  | optional =>
    simp only [queued, push, flatMap_cons, flatMap_nil, append_nil,
      update_self, ne_eq, reduceCtorEq, not_false_eq_true, update_of_ne,
      append_assoc]
    refine List.Perm.trans (List.Perm.append_left _ ?_) perm_middle
    simp
  | mandatory =>
    simp only [queued, push, flatMap_cons, flatMap_nil, append_nil,
      update_self, ne_eq, reduceCtorEq, not_false_eq_true, update_of_ne,
      ← append_assoc]
    exact perm_append_singleton m _

lemma homes_push (h : d.Homes) (hp : getMdlPriority m.id = some p) : (d.push p m).Homes := by
  intro q n hn
  by_cases hq : q = p
  · subst hq
    dsimp only [push] at hn
    rw [update_self, mem_append, mem_singleton] at hn
    rcases hn with hn | rfl
    · exact h q n hn
    · exact hp
  · dsimp only [push] at hn
    rw [update_of_ne hq] at hn
    exact h q n hn

/-! ## Registration -/

lemma inv_push {d' : CmdDispatcher} (h : d.Inv) (hp : getMdlPriority m.id = some p)
    (hnew : m.id ∉ d.queued.map BkModule.id) (hlive : m.live = true ∧ m.init = true)
    (hq : d'.moduleQ = (d.push p m).moduleQ)
    (hbitmap : ∀ id, id ∈ d'.bitmap ↔ id ∈ d.bitmap ∨ m.id = id ∧ m.started = true)
    (hbasemap : ∀ id, id ∈ d'.basemap ↔
      id ∈ d.basemap ∨ (m.id = id ∧ m.started = true) ∧ p ≠ .optional) : d'.Inv := by
  have hqueued : d'.queued.Perm (m :: d.queued) := by
    rw [queued, hq]
    exact queued_push d p m
  refine ⟨⟨?_, ?_, fun id => ?_, fun id => ?_⟩, ?_⟩
  · rw [(hqueued.map _).nodup_iff, map_cons, nodup_cons]
    exact ⟨hnew, h.consistent.unique⟩
  · intro n hn
    rcases mem_cons.1 (hqueued.mem_iff.1 hn) with rfl | hn
    · exact hlive
    · exact h.consistent.live n hn
  · rw [hbitmap, h.consistent.bitmap]
    constructor
    · rintro (⟨n, hn, hid⟩ | hid)
      · exact ⟨n, hqueued.mem_iff.2 (mem_cons_of_mem _ hn), hid⟩
      · exact ⟨m, hqueued.mem_iff.2 mem_cons_self, hid⟩
    · rintro ⟨n, hn, hid⟩
      rcases mem_cons.1 (hqueued.mem_iff.1 hn) with rfl | hn
      · exact .inr hid
      · exact .inl ⟨n, hn, hid⟩
  · rw [hbasemap, hbitmap, h.consistent.basemap]
    constructor
    · rintro (⟨hb, ho⟩ | ⟨hid, ho⟩)
      · exact ⟨.inl hb, ho⟩
      · refine ⟨.inr hid, fun heq => ho ?_⟩
        rw [← hid.1, hp] at heq
        exact Option.some.inj heq
    · rintro ⟨hb | hid, ho⟩
      · exact .inl ⟨hb, ho⟩
      · refine .inr ⟨hid, fun heq => ho ?_⟩
        rw [← hid.1, hp, heq]
  · have hhomes := homes_push h.homes hp
    rw [Homes, ← hq] at hhomes
    exact hhomes

lemma not_consistent_push {e : CmdDispatcher} (hq : e.moduleQ = (d.push p m).moduleQ)
    (hm : m.live = false ∨ m.id ∈ d.queued.map BkModule.id) : ¬ e.Consistent := by
  intro h
  have hqueued : e.queued.Perm (m :: d.queued) := by
    rw [queued, hq]
    exact queued_push d p m
  rcases hm with hm | hm
  · have hlive := (h.live m (hqueued.mem_iff.2 mem_cons_self)).1
    rw [hm] at hlive
    cases hlive
  · have hunique := (hqueued.map BkModule.id).nodup_iff.1 h.unique
    rw [map_cons, nodup_cons] at hunique
    exact hunique.1 hm

lemma registerModule_rejected (h : getMdlPriority id = none ∨ d.passes id a = false) :
    d.registerModule id a = (false, d) := by
  rw [registerModule]
  split
  · rfl
  · next p hp =>
    rcases h with h | h
    · rw [hp] at h
      cases h
    · rw [h]
      rfl

lemma register_iff (h : d.Inv) (hp : getMdlPriority id = some p)
    (hpass : d.passes id a = true) :
    (d.Meets (.register id a) → (d.registerModule id a).1 = true ∧ (d.step (.register id a)).Inv) ∧
      ((d.step (.register id a)).Consistent → d.Meets (.register id a)) := by
  have hmeets : d.Meets (.register id a) ↔
      a.init = true ∧ (d.started = true → a.start = true) ∧ id ∉ d.queued.map BkModule.id := by
    refine ⟨fun hm => hm ?_ hpass, fun hm _ _ => hm⟩
    rw [hp]
    exact nofun
  have hbit : id < bkMdlEnd := DisprMsg.lt_of_getMdlPriority hp
  rw [hmeets]
  cases hinit : a.init with
  | false =>
    have hreg : d.registerModule id a = (false, d.push p { id := id, live := false }) := by
      simp only [registerModule, hp, hpass, hinit, BkModule.bkModuleInit]
      rfl
    refine ⟨fun hm => absurd hm.1 Bool.false_ne_true, fun hc => ?_⟩
    rw [step, hreg] at hc
    exact absurd hc (not_consistent_push rfl (.inl rfl))
  | true =>
  cases hstarted : d.started with
  | false =>
    have hreg : d.registerModule id a = (true, d.push p { id := id, init := true }) := by
      simp only [registerModule, hp, hpass, hinit, hstarted, BkModule.bkModuleInit]
      rfl
    rw [step, hreg]
    refine ⟨fun hm => ⟨rfl, ?_⟩, fun hc => ⟨rfl, nofun, fun hmem => ?_⟩⟩
    · refine inv_push h hp hm.2.2 ⟨rfl, rfl⟩ rfl (fun j => ?_) (fun j => ?_)
      · simp [push]
      · simp [push]
    · exact not_consistent_push (e := d.push p { id := id, init := true }) rfl (.inr hmem) hc
  | true =>
  cases hstart : a.start with
  | false =>
    have hreg : d.registerModule id a = (false, d.push p { id := id, live := false }) := by
      simp only [registerModule, hp, hpass, hinit, hstarted, hstart, BkModule.bkModuleInit,
        BkModule.bkModuleStart]
      rfl
    refine ⟨fun hm => absurd (hm.2.1 rfl) Bool.false_ne_true, fun hc => ?_⟩
    rw [step, hreg] at hc
    exact absurd hc (not_consistent_push rfl (.inl rfl))
  | true =>
    have hreg : d.registerModule id a =
        (true, (d.push p { id := id, init := true, started := true }).addBits p id) := by
      simp only [registerModule, hp, hpass, hinit, hstarted, hstart, BkModule.bkModuleInit,
        BkModule.bkModuleStart]
      rfl
    rw [step, hreg]
    refine ⟨fun hm => ⟨rfl, ?_⟩, fun hc => ⟨rfl, fun _ => rfl, fun hmem => ?_⟩⟩
    · refine inv_push h hp hm.2.2 ⟨rfl, rfl⟩ rfl (fun j => ?_) (fun j => ?_)
      · simp only [addBits, push, DisprMsg.mem_addBitmapBit, mem_singleton]
        constructor
        · rintro (hj | ⟨rfl, -⟩)
          · exact .inl hj
          · exact .inr ⟨rfl, trivial⟩
        · rintro (hj | ⟨rfl, -⟩)
          · exact .inl hj
          · exact .inr ⟨rfl, hbit⟩
      · by_cases ho : p = .optional
        · simp [addBits, push, ho]
        · simp only [addBits, push, if_neg ho, DisprMsg.mem_addBitmapBit, mem_singleton]
          constructor
          · rintro (hj | ⟨rfl, -⟩)
            · exact .inl hj
            · exact .inr ⟨⟨rfl, trivial⟩, ho⟩
          · rintro (hj | ⟨⟨rfl, -⟩, -⟩)
            · exact .inl hj
            · exact .inr ⟨rfl, hbit⟩
    · exact not_consistent_push
        (e := (d.push p { id := id, init := true, started := true }).addBits p id) rfl
        (.inr hmem) hc

/-! ## The other calls -/

lemma inv_deregister (h : d.Inv) (id : ℕ) : (d.deregisterModule id).2.Inv := by
  rw [deregisterModule]
  split
  · exact h
  next p hp =>
  split
  · exact h
  split
  · have hnodup : ((d.moduleQ p).map BkModule.id).Nodup := by
      refine h.consistent.unique.sublist (List.Sublist.map _ ?_)
      cases p with
      | role => exact sublist_append_left _ _
      | optional => exact (sublist_append_left _ _).trans (sublist_append_right _ _)
      | mandatory =>
        refine List.Sublist.trans ?_ (sublist_append_right _ _)
        refine List.Sublist.trans ?_ (sublist_append_right _ _)
        exact sublist_append_left _ _
    have hother {q : MdlPriority} (hq : q ≠ p) :
        d.moduleQ q = Lib.eraseKey BkModule.id id (d.moduleQ q) := by
      symm
      apply Lib.eraseKey_of_notMem
      intro hmem
      obtain ⟨n, hn, rfl⟩ := mem_map.1 hmem
      rw [h.homes q n hn] at hp
      exact hq (Option.some.inj hp)
    have hmoduleQ : update d.moduleQ p
        ((d.moduleQ p).eraseP fun m => decide (m.id = id)) =
          fun q => Lib.eraseKey BkModule.id id (d.moduleQ q) := by
      funext q
      by_cases hq : q = p
      · subst hq
        rw [update_self, Lib.eraseP_eq_eraseKey hnodup]
      · rw [update_of_ne hq]
        exact hother hq
    rw [hmoduleQ]
    have hqueued (d' : CmdDispatcher)
        (hd : d'.moduleQ = fun q => Lib.eraseKey BkModule.id id (d.moduleQ q)) :
        d'.queued = Lib.eraseKey BkModule.id id d.queued := by
      simp only [queued, hd, Lib.eraseKey, flatMap_cons, flatMap_nil, append_nil,
        filter_append]
    refine ⟨⟨?_, ?_, fun j => ?_, fun j => ?_⟩, fun q n hn => ?_⟩
    · rw [hqueued _ rfl]
      exact Lib.nodup_eraseKey h.consistent.unique
    · intro n hn
      rw [hqueued _ rfl] at hn
      exact h.consistent.live n (Lib.mem_eraseKey.1 hn).1
    · rw [hqueued _ rfl]
      simp only [DisprMsg.mem_clrBitmapBit, h.consistent.bitmap, Lib.mem_eraseKey,
        mem_singleton]
      constructor
      · rintro ⟨⟨n, hn, rfl, hs⟩, hne⟩
        exact ⟨n, ⟨hn, hne⟩, rfl, hs⟩
      · rintro ⟨n, ⟨hn, hne⟩, rfl, hs⟩
        exact ⟨⟨n, hn, rfl, hs⟩, hne⟩
    · simp only [DisprMsg.mem_clrBitmapBit, h.consistent.basemap]
      tauto
    · exact h.homes q n (Lib.mem_eraseKey.1 hn).1
  · exact h

lemma queued_moduleStop (hs : d.started = true) :
    d.moduleStop.queued = d.queued.map BkModule.bkModuleStop := by
  simp only [queued, moduleStop, hs, if_true, flatMap_cons, flatMap_nil,
    append_nil, map_append]

lemma inv_moduleStop (h : d.Inv) : d.moduleStop.Inv := by
  by_cases hs : d.started = true
  · have hqueued := queued_moduleStop hs
    have hbits : d.moduleStop.bitmap = clrBitmapBit d.bitmap (d.queued.map BkModule.id) ∧
        d.moduleStop.basemap = clrBitmapBit d.basemap (d.queued.map BkModule.id) := by
      rw [moduleStop, if_pos hs]
      exact ⟨rfl, rfl⟩
    have hempty (j : ℕ) : j ∉ d.moduleStop.bitmap := by
      rw [hbits.1, DisprMsg.mem_clrBitmapBit, h.consistent.bitmap]
      rintro ⟨⟨n, hn, rfl, -⟩, hnot⟩
      exact hnot (mem_map_of_mem hn)
    refine ⟨⟨?_, fun n hn => ?_, fun j => ?_, fun j => ?_⟩, fun q n hn => ?_⟩
    · rw [hqueued, map_map]
      exact h.consistent.unique
    · rw [hqueued] at hn
      obtain ⟨m, hm, rfl⟩ := mem_map.1 hn
      exact h.consistent.live m hm
    · refine ⟨fun hj => (hempty j hj).elim, ?_⟩
      rintro ⟨n, hn, -, hstarted⟩
      rw [hqueued] at hn
      obtain ⟨m, hm, rfl⟩ := mem_map.1 hn
      cases hstarted
    · rw [hbits.1, hbits.2, DisprMsg.mem_clrBitmapBit, DisprMsg.mem_clrBitmapBit,
        h.consistent.basemap]
      tauto
    · rw [moduleStop, if_pos hs] at hn
      obtain ⟨m, hm, rfl⟩ := mem_map.1 hn
      exact h.homes q m hm
  · rw [moduleStop, if_neg hs]
    exact h

lemma bkModuleStart_eq (hm : m.init = true) (ret : Bool) :
    m.bkModuleStart ret = (!m.started && ret, { m with started := m.started || ret }) := by
  obtain ⟨id, init, started, live⟩ := m
  cases hm
  cases started <;> cases ret <;> rfl

lemma mem_starting (h : d.Inv) {ret : ℕ → Bool} :
    id ∈ d.starting ret p ↔
      ∃ m ∈ d.moduleQ p, m.id = id ∧ m.started = false ∧ ret id = true := by
  simp only [starting, mem_map, mem_filter]
  constructor
  · rintro ⟨m, ⟨hm, hs⟩, rfl⟩
    rw [bkModuleStart_eq (h.consistent.live m (mem_queued.2 ⟨p, hm⟩)).2, Bool.and_eq_true,
      Bool.not_eq_eq_eq_not, Bool.not_true] at hs
    exact ⟨m, hm, rfl, hs⟩
  · rintro ⟨m, hm, rfl, hs⟩
    refine ⟨m, ⟨hm, ?_⟩, rfl⟩
    rw [bkModuleStart_eq (h.consistent.live m (mem_queued.2 ⟨p, hm⟩)).2, hs.1, hs.2]
    rfl

lemma inv_moduleStart (h : d.Inv) (ret : ℕ → Bool) : (d.moduleStart ret).Inv := by
  rw [moduleStart]
  split
  · have hinit {m : BkModule} (hm : m ∈ d.queued) : m.init = true := (h.consistent.live m hm).2
    have hqueued (d' : CmdDispatcher)
        (hd : d'.moduleQ = fun p => (d.moduleQ p).map fun m => (m.bkModuleStart (ret m.id)).2) :
        d'.queued = d.queued.map fun m => (m.bkModuleStart (ret m.id)).2 := by
      simp only [queued, hd, flatMap_cons, flatMap_nil, append_nil,
        map_append]
    have hbit {p : MdlPriority} {j : ℕ} (hj : j ∈ d.starting ret p) :
        j < bkMdlEnd ∧ getMdlPriority j = some p := by
      obtain ⟨m, hm, rfl, -⟩ := (mem_starting h).1 hj
      have hp := h.homes p m hm
      exact ⟨DisprMsg.lt_of_getMdlPriority hp, hp⟩
    have hstarting (j : ℕ) : (∃ p, j ∈ d.starting ret p) ↔
        ∃ m ∈ d.queued, m.id = j ∧ m.started = false ∧ ret j = true := by
      simp only [mem_starting h, mem_queued]
      constructor
      · rintro ⟨p, m, hm, hrest⟩
        exact ⟨m, ⟨p, hm⟩, hrest⟩
      · rintro ⟨m, ⟨p, hm⟩, hrest⟩
        exact ⟨p, m, hm, hrest⟩
    have hbitmap (j : ℕ) : j ∈ addBitmapBit d.bitmap
        ([MdlPriority.role, .optional, .mandatory].flatMap (d.starting ret)) ↔
          j ∈ d.bitmap ∨ ∃ p, j ∈ d.starting ret p := by
      simp only [DisprMsg.mem_addBitmapBit, mem_flatMap, mem_cons, not_mem_nil,
        or_false]
      constructor
      · rintro (hj | ⟨⟨p, -, hj⟩, -⟩)
        · exact .inl hj
        · exact .inr ⟨p, hj⟩
      · rintro (hj | ⟨p, hj⟩)
        · exact .inl hj
        · refine .inr ⟨⟨p, ?_, hj⟩, (hbit hj).1⟩
          cases p <;> simp
    refine ⟨⟨?_, ?_, fun j => ?_, fun j => ?_⟩, fun q n hn => ?_⟩
    · rw [hqueued _ rfl, map_map]
      have hid : d.queued.map (BkModule.id ∘ fun m => (m.bkModuleStart (ret m.id)).2) =
          d.queued.map BkModule.id := by
        apply map_congr_left
        intro m hm
        rw [comp_apply, bkModuleStart_eq (hinit hm)]
      rw [hid]
      exact h.consistent.unique
    · intro n hn
      rw [hqueued _ rfl] at hn
      obtain ⟨m, hm, rfl⟩ := mem_map.1 hn
      rw [bkModuleStart_eq (hinit hm)]
      exact h.consistent.live m hm
    · rw [hqueued _ rfl, hbitmap, hstarting, h.consistent.bitmap]
      constructor
      · rintro (⟨m, hm, rfl, hs⟩ | ⟨m, hm, rfl, -, hr⟩)
        · refine ⟨_, mem_map_of_mem hm, ?_, ?_⟩
          · rw [bkModuleStart_eq (hinit hm)]
          · rw [bkModuleStart_eq (hinit hm), hs]
            rfl
        · refine ⟨_, mem_map_of_mem hm, ?_, ?_⟩
          · rw [bkModuleStart_eq (hinit hm)]
          · rw [bkModuleStart_eq (hinit hm), hr, Bool.or_true]
      · rintro ⟨n, hn, rfl, hs⟩
        obtain ⟨m, hm, rfl⟩ := mem_map.1 hn
        rw [bkModuleStart_eq (hinit hm)] at hs ⊢
        cases hstarted : m.started with
        | true => exact .inl ⟨m, hm, rfl, hstarted⟩
        | false =>
          rw [hstarted] at hs
          exact .inr ⟨m, hm, rfl, hstarted, hs⟩
    · rw [hbitmap]
      simp only [DisprMsg.mem_addBitmapBit, mem_flatMap, mem_cons, not_mem_nil,
        or_false, h.consistent.basemap]
      constructor
      · rintro (⟨hj, ho⟩ | ⟨⟨p, hp, hj⟩, -⟩)
        · exact ⟨.inl hj, ho⟩
        · refine ⟨.inr ⟨p, hj⟩, ?_⟩
          rw [(hbit hj).2]
          rcases hp with rfl | rfl
          · simp
          · simp
      · rintro ⟨hj | ⟨p, hj⟩, ho⟩
        · exact .inl ⟨hj, ho⟩
        · refine .inr ⟨⟨p, ?_, hj⟩, (hbit hj).1⟩
          rw [(hbit hj).2] at ho
          cases p with
          | role => exact .inl rfl
          | optional => exact absurd rfl ho
          | mandatory => exact .inr rfl
    · obtain ⟨m, hm, rfl⟩ := mem_map.1 hn
      rw [bkModuleStart_eq (hinit (mem_queued.2 ⟨q, hm⟩))]
      exact h.homes q m hm
  · exact h

/-! ## Soundness of runs -/

lemma inv_step (h : d.Inv) {e : Event} (he : d.Meets e) : (d.step e).Inv := by
  cases e with
  | register id a =>
    cases hp : getMdlPriority id with
    | none =>
      rw [step, registerModule_rejected (.inl hp)]
      exact h
    | some p =>
      cases hpass : d.passes id a with
      | false =>
        rw [step, registerModule_rejected (.inr hpass)]
        exact h
      | true => exact ((register_iff h hp hpass).1 he).2
  | deregister id => exact inv_deregister h id
  | disprStart => exact ⟨⟨h.consistent.unique, h.consistent.live, h.consistent.bitmap,
    h.consistent.basemap⟩, h.homes⟩
  | moduleStart ret => exact inv_moduleStart h ret
  | moduleStop => exact inv_moduleStop h
  | disprStop => exact ⟨⟨h.consistent.unique, h.consistent.live, h.consistent.bitmap,
    h.consistent.basemap⟩, h.homes⟩

lemma meets_of_consistent (h : d.Inv) {e : Event} (hc : (d.step e).Consistent) : d.Meets e := by
  cases e with
  | register id a =>
    intro hp hpass
    obtain ⟨p, hp⟩ := Option.ne_none_iff_exists'.1 hp
    exact (register_iff h hp hpass).2 hc (by rw [hp]; exact nofun) hpass
  | _ => trivial

lemma refused_keeps (h : d.Inv) {e : Event} (he : d.Meets e) (hr : d.Refuses e) :
    d.step e = d := by
  cases e with
  | register id a =>
    cases hp : getMdlPriority id with
    | none => rw [step, registerModule_rejected (.inl hp)]
    | some p =>
      cases hpass : d.passes id a with
      | false => rw [step, registerModule_rejected (.inr hpass)]
      | true =>
        rw [Refuses, ((register_iff h hp hpass).1 he).1] at hr
        cases hr
  | _ => exact hr.elim

lemma Sound.consistent {es : List Event} (h : d.Sound es) : d.Consistent := by
  cases es with
  | nil => exact h
  | cons e es => exact h.1

lemma sound_iff (h : d.Inv) (es : List Event) : d.Sound es ↔ Guarded step Meets d es := by
  induction es generalizing d with
  | nil => exact ⟨fun _ => trivial, fun _ => h.consistent⟩
  | cons e es ih =>
    constructor
    · rintro ⟨-, -, hrest⟩
      have he := meets_of_consistent h hrest.consistent
      exact ⟨he, (ih (inv_step h he)).1 hrest⟩
    · rintro ⟨he, hrest⟩
      refine ⟨h.consistent, fun hr => ?_, (ih (inv_step h he)).2 hrest⟩
      rw [refused_keeps h he hr]
      exact ⟨rfl, rfl, rfl⟩

lemma inv_init : Inv {} := by
  refine ⟨⟨nodup_nil, nofun, fun id => ?_, fun id => ?_⟩, nofun⟩
  · refine ⟨fun h => absurd h (Finset.notMem_empty _), ?_⟩
    rintro ⟨m, hm, -⟩
    cases hm
  · exact ⟨fun h => absurd h (Finset.notMem_empty _), fun h => absurd h.1 (Finset.notMem_empty _)⟩

/-- A run keeps queues and bitmaps in step, and its failing registrations change
nothing, exactly if each of its registrations meets the condition. -/
theorem module_registry_sound (es : List Event) :
    Sound {} es ↔ Guarded step Meets {} es := sound_iff inv_init es

/-- The operations of the module fail: it is freed and stays linked. -/
theorem failed_init_leaves_module :
    ¬ (step {} (.register 41 { init := false })).Consistent ∧
      (registerModule {} 41 { init := false }).1 = false ∧
      (step {} (.register 41 { init := false })).queued ≠ queued {} := by
  refine ⟨fun h => ?_, by decide, by decide⟩
  have hlive := (h.live { id := 41, live := false } (by decide)).1
  cases hlive

end CmdDispatcher

end Rtl8831.Phl.DisprRegistry
