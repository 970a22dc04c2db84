import Rtl8831.Lib.Run
import Rtl8831.Phl.Noa

/-!
# What a call does to the NoA table

Only the id 0 is ever given to a descriptor that the firmware accepts: a second descriptor gets
the id 0 again, or an id that the firmware does not have.  So the table can describe the firmware
only as long as one descriptor is active at a time, which is the invariant here.
-/

namespace Rtl8831.Phl.Noa

open Lib Function List

inductive Op
  | update (d : NoaDesc) (r : UpdateReply)
  | pauseAll (r : Tag → Reply)
  | resumeAll (r : ResumeReply)
  | disableAll (r : Tag → Reply) (tog : Bool)

namespace State

def init : State := ⟨0, false, fun _ => {}, [], false⟩

def step (s : State) : Op → State
  | .update d r => (noaUpdate s d r).2
  | .pauseAll r => noaPauseAll s r
  | .resumeAll r => noaResumeAll s r
  | .disableAll r tog => noaDisableAll s r tog

/-- The table mirrors the firmware: the count is that of the active descriptors, which have
different ids; they are those of the table that are enabled and have an id, while NoA is not
paused, and none while it is paused; and the toggle report is on while a descriptor is
enabled. -/
structure Mirrors (s : State) : Prop where
  count : s.enDescNum = s.fw.length
  ids : (s.fw.map Prod.snd).Nodup
  table : ∀ t id, (t, id) ∈ s.fw ↔ s.paused = false ∧ (s.noaDesc t).enable = true ∧
    (s.noaDesc t).noaId ≠ noaidNone ∧ (s.noaDesc t).noaId = id
  quiet : s.paused = true → s.fw = []
  tog : s.tog = true ↔ ∃ t, (s.noaDesc t).enable = true

def Should (s : State) (r : ResumeReply) (t : Tag) : Prop :=
  (s.noaDesc t).enable = true ∧ shouldActivate (s.noaDesc t) (r.mr t) = true

/-- What a call promises besides: a change that is requested while NoA is paused is recorded;
and to resume activates those descriptors that should be activated and are accepted. -/
def Kept (s : State) : Op → Prop
  | .update d r => s.paused = true → (noaUpdate s d r).2.fw = s.fw ∧
      (noaUpdate s d r).2.noaDesc =
        Function.update s.noaDesc d.tag (if d.enable = true then d else {})
  | .resumeAll r => s.paused = true → (noaResumeAll s r).paused = false ∧
      ∀ t, (∃ id, (t, id) ∈ (noaResumeAll s r).fw) ↔ s.Should r t ∧ r.enable t = .done
  | _ => True

def Right (s : State) (op : Op) : Prop := (s.step op).Mirrors ∧ s.Kept op

/-- The condition of `phl_noa_update` with a descriptor to enable.  The toggle report can be
turned on if it has to be; the active descriptor that is replaced can be disabled; and a
descriptor that is to be activated is not accepted while another one is active, nor accepted
late. -/
def EnableOk (s : State) (d : NoaDesc) (r : UpdateReply) : Prop :=
  ((∀ t, (s.noaDesc t).enable = false) → r.tog = true) ∧
  (s.paused = false → s.enToFw d.tag = true → r.disable = .done) ∧
  (s.paused = false → shouldActivate d r.mr = true →
    r.enable ≠ .late ∧ (r.enable = .done → ∀ t, t ≠ d.tag → s.enToFw t = false))

/-- The condition of `phl_noa_update` with a descriptor to disable.  It is not removed late; and
if it was the last one that is enabled and is cleared, the toggle report can be turned off. -/
def DisableOk (s : State) (d : NoaDesc) (r : UpdateReply) : Prop :=
  (s.paused = false → s.enToFw d.tag = true → r.disable ≠ .late) ∧
  ((s.noaDesc d.tag).enable = true → (∀ t, t ≠ d.tag → (s.noaDesc t).enable = false) →
    (s.paused = false → s.enToFw d.tag = true → r.disable = .done) → r.tog = true)

/-- The condition of `phl_p2pps_noa_disable_all`.  The active descriptor can be disabled, and the
toggle report can be turned off if it has to be; or both are refused. -/
def DisableAllOk (s : State) (r : Tag → Reply) (tog : Bool) : Prop :=
  ((s.paused = false → ∀ t, s.enToFw t = true → r t = .done) ∧
    ((∃ t, (s.noaDesc t).enable = true) → tog = true)) ∨
  (s.paused = false ∧ (∃ t, s.enToFw t = true ∧ r t = .refused) ∧ tog = false)

def Ok (s : State) : Op → Prop
  | .update d r => if d.enable = true then s.EnableOk d r else s.DisableOk d r
  | .pauseAll r => s.paused = false → ∀ t, s.enToFw t = true → r t = .done
  | .resumeAll r => s.paused = true →
      (∀ t, s.Should r t → r.enable t ≠ .late) ∧
      ∀ t t', s.Should r t → r.enable t = .done → s.Should r t' → r.enable t' = .done → t = t'
  | .disableAll r tog => s.DisableAllOk r tog

structure Inv (s : State) : Prop where
  mirrors : s.Mirrors
  one : s.fw = [] ∨ ∃ t, s.fw = [(t, 0)]

structure Core (s : State) : Prop where
  count : s.enDescNum = s.fw.length
  one : s.fw = [] ∨ ∃ t, s.fw = [(t, 0)]
  mem : ∀ t, (t, (0 : UInt8)) ∈ s.fw ↔ s.paused = false ∧ s.enToFw t = true
  zero : s.paused = false → ∀ t, s.enToFw t = true → (s.noaDesc t).noaId = 0

variable {s s' : State} {t : Tag} {d : NoaDesc}

lemma enToFw_iff :
    s.enToFw t = true ↔ (s.noaDesc t).noaId ≠ noaidNone ∧ (s.noaDesc t).enable = true := by
  simp [enToFw]

lemma fw_zero (hone : s.fw = [] ∨ ∃ t, s.fw = [(t, 0)]) {id : UInt8} (hmem : (t, id) ∈ s.fw) :
    id = 0 := by
  rcases hone with hfw | ⟨t', hfw⟩
  · rw [hfw] at hmem
    exact absurd hmem not_mem_nil
  · rw [hfw, mem_singleton] at hmem
    exact congrArg Prod.snd hmem

lemma Inv.core (h : s.Inv) : s.Core where
  count := h.mirrors.count
  one := h.one
  mem t := by
    rw [h.mirrors.table, enToFw_iff]
    constructor
    · rintro ⟨hp, hen, hne, -⟩
      exact ⟨hp, hne, hen⟩
    · rintro ⟨hp, hne, hen⟩
      have hmem := (h.mirrors.table t _).2 ⟨hp, hen, hne, rfl⟩
      exact ⟨hp, hen, hne, fw_zero h.one hmem⟩
  zero hp t ht := by
    obtain ⟨hne, hen⟩ := enToFw_iff.1 ht
    exact fw_zero h.one ((h.mirrors.table t _).2 ⟨hp, hen, hne, rfl⟩)

section

variable (h : s.Core)
include h

lemma Core.active (hp : s.paused = false) (ht : s.enToFw t = true) :
    s.fw = [(t, 0)] ∧ (s.noaDesc t).noaId = 0 ∧ s.enDescNum = 1 := by
  have hmem := (h.mem t).2 ⟨hp, ht⟩
  rcases h.one with hfw | ⟨t', hfw⟩
  · rw [hfw] at hmem
    exact absurd hmem not_mem_nil
  · rw [hfw, mem_singleton] at hmem
    obtain rfl : t = t' := congrArg Prod.fst hmem
    exact ⟨hfw, h.zero hp t ht, by rw [h.count, hfw]; rfl⟩

lemma Core.unique (hp : s.paused = false) {t' : Tag}
    (ht : s.enToFw t = true) (ht' : s.enToFw t' = true) : t = t' := by
  have hfw := (h.active hp ht).1
  rw [(h.active hp ht').1] at hfw
  exact (congrArg Prod.fst (cons.inj hfw).1).symm

lemma Core.idle (hidle : s.paused = false → ∀ t, s.enToFw t = false) :
    s.fw = [] ∧ s.enDescNum = 0 := by
  have hfw : s.fw = [] := by
    rcases h.one with hfw | ⟨t, hfw⟩
    · exact hfw
    · have hmem : (t, (0 : UInt8)) ∈ s.fw := by
        rw [hfw]
        exact mem_singleton_self _
      obtain ⟨hp, ht⟩ := (h.mem t).1 hmem
      rw [hidle hp t] at ht
      exact absurd ht Bool.false_ne_true
  exact ⟨hfw, by rw [h.count, hfw]; rfl⟩

lemma Core.paused (hp : s.paused = true) : s.fw = [] ∧ s.enDescNum = 0 :=
  h.idle fun hf => absurd (hp.symm.trans hf) Bool.noConfusion

lemma Core.inv (htog : s.tog = true ↔ ∃ t, (s.noaDesc t).enable = true) :
    s.Inv where
  mirrors :=
    { count := h.count
      ids := by
        rcases h.one with hfw | ⟨t, hfw⟩
        · rw [hfw]
          exact nodup_nil
        · rw [hfw]
          exact nodup_singleton _
      table := by
        intro t id
        constructor
        · intro hmem
          obtain rfl := fw_zero h.one hmem
          obtain ⟨hp, ht⟩ := (h.mem t).1 hmem
          obtain ⟨hne, hen⟩ := enToFw_iff.1 ht
          exact ⟨hp, hen, hne, h.zero hp t ht⟩
        · rintro ⟨hp, hen, hne, rfl⟩
          have ht := enToFw_iff.2 ⟨hne, hen⟩
          rw [h.zero hp t ht]
          exact (h.mem t).2 ⟨hp, ht⟩
      quiet := fun hp => (h.paused hp).1
      tog := htog }
  one := h.one

lemma Core.setTog (tog : Bool) : ({ s with tog } : State).Core :=
  ⟨h.count, h.one, h.mem, h.zero⟩

end

lemma inv_init : init.Inv := by
  have hcore : init.Core := by
    refine ⟨rfl, .inl rfl, fun t => ?_, fun _ t ht => ?_⟩
    · simp [init, enToFw]
    · simp [init, enToFw] at ht
  exact hcore.inv (by simp [init])

variable {mr : Bool} {clear : Bool} (t' : Tag)

@[simp] lemma noaDesc_setDesc :
    (s.setDesc t d).noaDesc t' = if t' = t then d else s.noaDesc t' :=
  update_apply ..

lemma enToFw_congr (h : s'.noaDesc t = s.noaDesc t) : s'.enToFw t = s.enToFw t := by
  rw [enToFw, enToFw, h]

@[simp] lemma enToFw_clear :
    (s.clearDesc t).enToFw t' = if t' = t then false else s.enToFw t' := by
  by_cases ht : t' = t
  · simp [clearDesc, enToFw, ht]
  · simp [clearDesc, enToFw, ht]

lemma noaDisable_paused (hp : s.paused = true) (r : Reply) :
    noaDisable s t true r = (.success, s.clearDesc t) :=
  if_pos (by rw [hp]; rfl)

lemma noaDisable_inactive (hp : (s.paused && clear) = false)
    (ht : s.enToFw t = false) (r : Reply) :
    noaDisable s t clear r = (.success, s.clearIf clear t) := by
  rw [noaDisable, if_neg (by rw [hp]; exact Bool.false_ne_true),
    if_neg (by rw [ht]; exact Bool.false_ne_true)]

lemma noaDisable_active (hp : (s.paused && clear) = false)
    (ht : s.enToFw t = true) (hid : (s.noaDesc t).noaId = 0) (hen : s.enDescNum = 1)
    (r : Reply) :
    noaDisable s t clear r = match r with
      | .done => (.success, ({ s with fw := [], enDescNum := 0 } : State).clearIf clear t)
      | .refused => (.failure, s)
      | .late => (.failure, { s with fw := [] }) := by
  have hact : p2pAct (s.noaDesc t).noaId r = r := by
    rw [p2pAct, hid]
    exact if_neg (by decide)
  have hfw : s.fwDisabled (s.noaDesc t).noaId = [] := if_pos hen
  rw [noaDisable, if_neg (by rw [hp]; exact Bool.false_ne_true), if_pos ht, hact, hfw]
  cases r with
  | done => simp [decreaseDesc, hen]
  | refused => rfl
  | late => rfl

/-- What is left after the descriptor of `t` was disabled and cleared. -/
structure Cleared (s s' : State) (t : Tag) : Prop where
  desc : s'.noaDesc = Function.update s.noaDesc t {}
  paused : s'.paused = s.paused
  tog : s'.tog = s.tog
  count : s'.enDescNum = s'.fw.length
  fw : s'.fw = if s.paused = false ∧ s.enToFw t = true then [] else s.fw

lemma cleared_noaDisable (hs : s.Core) {r : Reply}
    (hr : s.paused = false → s.enToFw t = true → r = .done) :
    s.Cleared (noaDisable s t true r).2 t := by
  cases hp : s.paused with
  | true =>
    rw [noaDisable_paused hp]
    exact ⟨rfl, rfl, rfl, hs.count, by
      rw [if_neg fun hc => by rw [hp] at hc; exact Bool.noConfusion hc.1]; rfl⟩
  | false =>
    have hpc : (s.paused && true) = false := by rw [hp]; rfl
    cases ht : s.enToFw t with
    | false =>
      rw [noaDisable_inactive hpc ht]
      exact ⟨rfl, rfl, rfl, hs.count, by
        rw [if_neg fun hc => by rw [ht] at hc; exact Bool.noConfusion hc.2]; rfl⟩
    | true =>
      obtain ⟨-, hid, hen⟩ := hs.active hp ht
      rw [noaDisable_active hpc ht hid hen, hr hp ht]
      exact ⟨rfl, rfl, rfl, rfl, by rw [if_pos ⟨hp, ht⟩]; rfl⟩

lemma assignNoaid_zero (h : s.enDescNum = 0) : assignNoaid s = 0 := if_pos h

lemma noaEnable_paused (hp : s.paused = true) (mr : Bool) (r : Reply) (macidUp : Bool) :
    noaEnable s t d mr r macidUp = (.success, s.setDesc t d) :=
  if_pos hp

lemma setNoaId_setDesc (noaId : UInt8) :
    (s.setDesc t d).setNoaId t noaId = s.setDesc t { d with noaId } := by
  have hself : (s.setDesc t d).noaDesc t = d := update_self ..
  rw [setNoaId, hself, setDesc, setDesc, setDesc, update_idem]

lemma noaEnable_not_should (hp : s.paused = false)
    (hd : shouldActivate d mr = false) (r : Reply) (macidUp : Bool) :
    (noaEnable s t d mr r macidUp).2 = s.setDesc t { d with noaId := noaidNone } := by
  have hself : (s.setDesc t d).noaDesc t = d := update_self ..
  have hstep : noaEnable s t d mr r macidUp =
      (.success, (s.setDesc t d).setNoaId t noaidNone) := by
    rw [noaEnable, if_neg (by rw [setDesc, hp]; exact Bool.false_ne_true), hself,
      if_neg (by rw [hd]; exact Bool.false_ne_true)]
  rw [hstep, setNoaId_setDesc]

section

variable (hp : s.paused = false) (hd : shouldActivate d mr = true)
include hp hd

lemma noaEnable_sent
    (r : Reply) (macidUp : Bool) :
    (noaEnable s t d mr r macidUp).2 =
      match p2pAct (assignNoaid (s.setDesc t d)) r with
      | .done => { (s.setDesc t { d with noaId := assignNoaid (s.setDesc t d) }).increaseDesc with
          fw := s.fw ++ [(t, assignNoaid (s.setDesc t d))] }
      | .refused => s.setDesc t { d with noaId := noaidNone }
      | .late => { s.setDesc t { d with noaId := noaidNone } with
          fw := s.fw ++ [(t, assignNoaid (s.setDesc t d))] } := by
  have hself : (s.setDesc t d).noaDesc t = d := update_self ..
  rw [noaEnable, if_neg (by rw [setDesc, hp]; exact Bool.false_ne_true), hself, if_pos hd]
  simp only [setNoaId_setDesc]
  cases p2pAct (assignNoaid (s.setDesc t d)) r <;> rfl

lemma noaEnable_refused (macidUp : Bool) :
    (noaEnable s t d mr .refused macidUp).2 = s.setDesc t { d with noaId := noaidNone } := by
  have hact : p2pAct (assignNoaid (s.setDesc t d)) .refused = .refused := by
    rw [p2pAct, ite_self]
  rw [noaEnable_sent hp hd, hact]

lemma noaEnable_done
    (hen : s.enDescNum = 0) (hfw : s.fw = []) (macidUp : Bool) :
    (noaEnable s t d mr .done macidUp).2 =
      { s.setDesc t { d with noaId := 0 } with enDescNum := 1, fw := [(t, 0)] } := by
  have hzero : assignNoaid (s.setDesc t d) = 0 := assignNoaid_zero hen
  rw [noaEnable_sent hp hd, hzero, hfw]
  have hact : p2pAct 0 .done = .done := by decide
  rw [hact]
  simp [increaseDesc, setDesc, hen]

end

lemma Core.of_same (h : s.Core) (hcount : s'.enDescNum = s.enDescNum) (hfw : s'.fw = s.fw)
    (hp : s'.paused = s.paused)
    (hdesc : s.paused = false → ∀ t, s'.enToFw t = s.enToFw t ∧
      (s.enToFw t = true → s'.noaDesc t = s.noaDesc t)) : s'.Core where
  count := by rw [hcount, hfw, h.count]
  one := hfw ▸ h.one
  mem t := by
    rw [hfw, hp, h.mem]
    constructor
    · rintro ⟨hf, ht⟩
      exact ⟨hf, ((hdesc hf t).1).trans ht⟩
    · rintro ⟨hf, ht⟩
      exact ⟨hf, ((hdesc hf t).1).symm.trans ht⟩
  zero hf t ht := by
    rw [hp] at hf
    rw [(hdesc hf t).1] at ht
    rw [(hdesc hf t).2 ht]
    exact h.zero hf t ht

lemma Core.setDesc (h : s.Core)
    (ht : s.paused = false → s.enToFw t = false ∧ (s.setDesc t d).enToFw t = false) :
    (s.setDesc t d).Core := by
  refine (h.of_same rfl rfl rfl ?_ : (s.setDesc t d).Core)
  intro hp t'
  by_cases htt : t' = t
  · subst htt
    obtain ⟨hbefore, hafter⟩ := ht hp
    exact ⟨hafter.trans hbefore.symm, fun hact => absurd (hact.symm.trans hbefore) Bool.noConfusion⟩
  · have hsame : (s.setDesc t d).noaDesc t' = s.noaDesc t' := update_of_ne htt ..
    exact ⟨enToFw_congr hsame, fun _ => hsame⟩

lemma Cleared.enToFw (h : s.Cleared s' t) (t' : Tag) :
    s'.enToFw t' = if t' = t then false else s.enToFw t' := by
  rw [← enToFw_clear]
  exact enToFw_congr (congrFun h.desc t')

lemma Cleared.core (h : s.Cleared s' t) (hs : s.Core) : s'.Core where
  count := h.count
  one := by
    rw [h.fw]
    by_cases hc : s.paused = false ∧ s.enToFw t = true
    · exact .inl (if_pos hc)
    · rw [if_neg hc]
      exact hs.one
  mem t' := by
    rw [h.fw, h.paused, h.enToFw]
    by_cases hc : s.paused = false ∧ s.enToFw t = true
    · rw [if_pos hc]
      refine iff_of_false not_mem_nil ?_
      rintro ⟨-, ht'⟩
      by_cases htt : t' = t
      · rw [if_pos htt] at ht'
        exact absurd ht' Bool.false_ne_true
      · rw [if_neg htt] at ht'
        exact htt (hs.unique hc.1 ht' hc.2)
    · rw [if_neg hc, hs.mem]
      by_cases htt : t' = t
      · rw [if_pos htt, htt]
        exact iff_of_false hc fun hf => absurd hf.2 Bool.false_ne_true
      · rw [if_neg htt]
  zero hp t' ht' := by
    rw [h.paused] at hp
    rw [h.enToFw] at ht'
    by_cases htt : t' = t
    · rw [if_pos htt] at ht'
      exact absurd ht' Bool.false_ne_true
    · rw [if_neg htt] at ht'
      rw [h.desc, update_of_ne htt]
      exact hs.zero hp t' ht'

structure Enabled (s s' : State) (t : Tag) (d : NoaDesc) : Prop where
  core : s'.Core
  paused : s'.paused = s.paused
  tog : s'.tog = s.tog
  other : ∀ t', t' ≠ t → s'.noaDesc t' = s.noaDesc t'
  own : ∃ noaId, s'.noaDesc t = { d with noaId }

lemma enToFw_none : (s.setDesc t { d with noaId := noaidNone }).enToFw t = false := by
  simp [enToFw]

lemma Core.refused (h : s.Core) (ht : s.paused = false → s.enToFw t = false) :
    s.Enabled (s.setDesc t { d with noaId := noaidNone }) t d where
  core := h.setDesc fun hp => ⟨ht hp, enToFw_none⟩
  paused := rfl
  tog := rfl
  other _ htt := update_of_ne htt ..
  own := ⟨noaidNone, update_self ..⟩

lemma Core.enabled (h : s.Core) (hd : d.enable = true)
    (ht : s.paused = false → s.enToFw t = false) {mr : Bool} {r : Reply}
    (hr : s.paused = false → shouldActivate d mr = true →
      r ≠ .late ∧ (r = .done → ∀ t', s.enToFw t' = false)) (macidUp : Bool) :
    s.Enabled (noaEnable s t d mr r macidUp).2 t d := by
  cases hp : s.paused with
  | true =>
    rw [noaEnable_paused hp]
    exact
      { core := h.setDesc fun hf => absurd (hp.symm.trans hf) Bool.noConfusion
        paused := rfl
        tog := rfl
        other := fun t' htt => update_of_ne htt ..
        own := ⟨d.noaId, update_self ..⟩ }
  | false =>
    cases hsh : shouldActivate d mr with
    | false =>
      rw [noaEnable_not_should hp hsh]
      exact h.refused ht
    | true =>
      obtain ⟨hlate, hdone⟩ := hr hp hsh
      cases r with
      | refused =>
        rw [noaEnable_refused hp hsh]
        exact h.refused ht
      | late => exact absurd rfl hlate
      | done =>
        have hidle := hdone rfl
        obtain ⟨hfw, hen⟩ := h.idle fun _ => hidle
        rw [noaEnable_done hp hsh hen hfw]
        have hact : ∀ t', (s.setDesc t { d with noaId := 0 }).enToFw t' =
            decide (t' = t) := by
          intro t'
          by_cases htt : t' = t
          · subst htt
            have hne : (0 : UInt8) ≠ noaidNone := by decide
            simp [State.enToFw, hd, hne]
          · have hsame : (s.setDesc t { d with noaId := 0 }).noaDesc t' = s.noaDesc t' :=
              update_of_ne htt ..
            rw [enToFw_congr hsame, hidle, decide_eq_false htt]
        refine
          { core := ⟨rfl, .inr ⟨t, rfl⟩, fun t' => ?_, fun _ t' ht' => ?_⟩
            paused := rfl
            tog := rfl
            other := fun t' htt => update_of_ne htt ..
            own := ⟨0, update_self ..⟩ }
        · change (t', (0 : UInt8)) ∈ [(t, (0 : UInt8))] ↔ s.paused = false ∧
            (s.setDesc t { d with noaId := 0 }).enToFw t' = true
          rw [hact, mem_singleton, Prod.mk.injEq, decide_eq_true_eq]
          exact ⟨fun hm => ⟨hp, hm.1⟩, fun hm => ⟨hm.2, rfl⟩⟩
        · change (s.setDesc t { d with noaId := 0 }).enToFw t' = true at ht'
          rw [hact, decide_eq_true_eq] at ht'
          subst ht'
          have hown : (s.setDesc t' { d with noaId := 0 }).noaDesc t' =
              { d with noaId := 0 } := update_self ..
          exact congrArg NoaDesc.noaId hown

lemma isAllDisable_iff : s.isAllDisable = true ↔ ∀ t, (s.noaDesc t).enable = false := by
  rw [isAllDisable, all_eq_true]
  constructor
  · intro h t
    simpa using h t t.mem_all
  · intro h t _
    simpa using h t

lemma Inv.togOn (h : s.Inv) {tog : Bool}
    (htog : (∀ t, (s.noaDesc t).enable = false) → tog = true) :
    (if s.isAllDisable then s.togEnable tog else s) = { s with tog := true } := by
  by_cases hall : s.isAllDisable = true
  · rw [if_pos hall, htog (isAllDisable_iff.1 hall)]
    rfl
  · rw [if_neg hall]
    have hsome : ∃ t, (s.noaDesc t).enable = true := by
      by_contra hno
      apply hall
      rw [isAllDisable_iff]
      intro t
      by_contra hne
      exact hno ⟨t, by simpa using hne⟩
    have hon : s.tog = true := h.mirrors.tog.2 hsome
    rw [← hon]

lemma Inv.updateEnable (h : s.Inv) (hd : d.enable = true) {r : UpdateReply}
    (hok : s.EnableOk d r) : (noaUpdate s d r).2.Inv := by
  obtain ⟨htog, hdis, hen⟩ := hok
  have hstep : (noaUpdate s d r).2 = (noaEnable (noaDisable
      (if s.isAllDisable then s.togEnable r.tog else s) d.tag true r.disable).2 d.tag d r.mr
        r.enable r.macidUp).2 := by
    rw [noaUpdate, if_pos hd]
  rw [hstep, h.togOn htog]
  have hs : ({ s with tog := true } : State).Core := h.core.setTog true
  have hcleared := cleared_noaDisable (t := d.tag) hs hdis
  have hown : (noaDisable { s with tog := true } d.tag true r.disable).2.enToFw d.tag = false := by
    rw [hcleared.enToFw, if_pos rfl]
  have hafter := @Core.enabled _ d.tag d (hcleared.core hs) hd (fun _ => hown) r.mr r.enable
    (by
      intro hp hsh
      rw [hcleared.paused] at hp
      obtain ⟨hlate, hothers⟩ := hen hp hsh
      refine ⟨hlate, fun hdone t' => ?_⟩
      rw [hcleared.enToFw]
      by_cases htt : t' = d.tag
      · rw [if_pos htt]
      · rw [if_neg htt]
        exact hothers hdone t' htt) r.macidUp
  obtain ⟨noaId, hdesc⟩ := hafter.own
  apply hafter.core.inv
  rw [hafter.tog, hcleared.tog]
  exact iff_of_true rfl ⟨d.tag, by rw [hdesc]; exact hd⟩

lemma Cleared.enable (h : s.Cleared s' t) (t' : Tag) :
    (s'.noaDesc t').enable = if t' = t then false else (s.noaDesc t').enable := by
  rw [h.desc]
  by_cases htt : t' = t
  · subst htt
    rw [update_self, if_pos rfl]
  · rw [update_of_ne htt, if_neg htt]

lemma Cleared.inv (h : s.Cleared s' t) (hs : s.Inv) {tog : Bool}
    (htog : (s.noaDesc t).enable = true → (∀ t', t' ≠ t → (s.noaDesc t').enable = false) →
      tog = true) : (if s'.isAllDisable then s'.togDisable tog else s').Inv := by
  have hcore := h.core hs.core
  by_cases hall : s'.isAllDisable = true
  · rw [if_pos hall]
    have hnone := isAllDisable_iff.1 hall
    have hothers : ∀ t', t' ≠ t → (s.noaDesc t').enable = false := by
      intro t' htt
      have hoff := hnone t'
      rwa [h.enable, if_neg htt] at hoff
    have hoff : (s'.togDisable tog) = { s' with tog := false } := by
      cases ht : (s.noaDesc t).enable with
      | true =>
        rw [htog ht hothers]
        rfl
      | false =>
        have hnotog : s'.tog = false := by
          rw [h.tog, Bool.eq_false_iff, Ne, hs.mirrors.tog]
          rintro ⟨t', ht'⟩
          by_cases htt : t' = t
          · rw [htt, ht] at ht'
            exact Bool.false_ne_true ht'
          · rw [hothers t' htt] at ht'
            exact Bool.false_ne_true ht'
        cases tog with
        | true => rfl
        | false =>
          change s' = { s' with tog := false }
          rw [← hnotog]
    rw [hoff]
    apply (hcore.setTog false).inv
    refine iff_of_false Bool.false_ne_true ?_
    rintro ⟨t', ht'⟩
    exact Bool.false_ne_true ((hnone t').symm.trans ht')
  · rw [if_neg hall]
    apply hcore.inv
    have hsome : ∃ t', (s'.noaDesc t').enable = true := by
      by_contra hno
      apply hall
      rw [isAllDisable_iff]
      intro t'
      by_contra hne
      exact hno ⟨t', by simpa using hne⟩
    obtain ⟨t', ht'⟩ := hsome
    refine iff_of_true ?_ ⟨t', ht'⟩
    rw [h.tog, hs.mirrors.tog]
    rw [h.enable] at ht'
    by_cases htt : t' = t
    · rw [if_pos htt] at ht'
      exact absurd ht' Bool.false_ne_true
    · rw [if_neg htt] at ht'
      exact ⟨t', ht'⟩

lemma noaUpdate_disable (hd : d.enable = false) {r : UpdateReply} : (noaUpdate s d r).2 =
    if (noaDisable s d.tag true r.disable).2.isAllDisable then
      (noaDisable s d.tag true r.disable).2.togDisable r.tog
    else (noaDisable s d.tag true r.disable).2 := by
  rw [noaUpdate, if_neg (by rw [hd]; exact Bool.false_ne_true)]

lemma Inv.updateDisable (h : s.Inv) (hd : d.enable = false) {r : UpdateReply}
    (hok : s.DisableOk d r) : (noaUpdate s d r).2.Inv := by
  obtain ⟨hlate, htog⟩ := hok
  rw [noaUpdate_disable hd]
  by_cases hc : s.paused = false → s.enToFw d.tag = true → r.disable = .done
  · exact (cleared_noaDisable h.core hc).inv h fun hen hothers => htog hen hothers hc
  · -- the active descriptor is refused, and stays as it is
    simp only [not_forall] at hc
    obtain ⟨hp, ht, hne⟩ := hc
    obtain ⟨-, hid, hen⟩ := h.core.active hp ht
    have hpc : (s.paused && true) = false := by rw [hp]; rfl
    have hstay : (noaDisable s d.tag true r.disable).2 = s := by
      rw [noaDisable_active hpc ht hid hen]
      cases hr : r.disable with
      | done => exact absurd hr hne
      | refused => rfl
      | late => exact absurd hr (hlate hp ht)
    have hall : ¬ s.isAllDisable = true := by
      rw [isAllDisable_iff]
      intro hno
      exact Bool.false_ne_true ((hno d.tag).symm.trans (enToFw_iff.1 ht).2)
    rw [hstay, if_neg hall]
    exact h

lemma kept_update (d : NoaDesc) (r : UpdateReply) : s.Kept (.update d r) := by
  intro hp
  cases hd : d.enable with
  | true =>
    have htog : ∀ tog, (if s.isAllDisable then s.togEnable tog else s) =
        { s with tog := (if s.isAllDisable then s.togEnable tog else s).tog } := by
      intro tog
      cases s.isAllDisable <;> cases tog <;> rfl
    have hstep : (noaUpdate s d r).2 = (noaEnable (noaDisable
        (if s.isAllDisable then s.togEnable r.tog else s) d.tag true r.disable).2 d.tag d r.mr
          r.enable r.macidUp).2 := by
      rw [noaUpdate, if_pos hd]
    rw [hstep, htog]
    generalize (if s.isAllDisable then s.togEnable r.tog else s).tog = tog
    rw [noaDisable_paused (s := { s with tog }) hp,
      noaEnable_paused (s := ({ s with tog } : State).clearDesc d.tag) hp, if_pos rfl]
    exact ⟨rfl, update_idem ..⟩
  | false =>
    rw [noaUpdate_disable hd, noaDisable_paused hp, if_neg Bool.false_ne_true]
    cases (s.clearDesc d.tag).isAllDisable <;> cases r.tog <;> exact ⟨rfl, rfl⟩

lemma Core.pauseAll (h : s.Core) {r : Tag → Reply}
    (hok : s.paused = false → ∀ t, s.enToFw t = true → r t = .done) :
    (noaPauseAll s r).Core ∧ (noaPauseAll s r).noaDesc = s.noaDesc ∧
      (noaPauseAll s r).tog = s.tog := by
  cases hp : s.paused with
  | true =>
    rw [noaPauseAll, if_pos hp]
    exact ⟨h, rfl, rfl⟩
  | false =>
    have hrun : noaPauseAll s r =
        run (fun s t => (noaDisable s t false (r t)).2) { s with paused := true } Tag.all := by
      rw [noaPauseAll, if_neg (by rw [hp]; exact Bool.false_ne_true)]
      rfl
    have hpass : ∀ s' : State, ∀ t', s'.enToFw t' = false →
        (noaDisable s' t' false (r t')).2 = s' := by
      intro s' t' ht'
      rw [noaDisable_inactive (Bool.and_false _) ht']
      rfl
    rw [hrun]
    by_cases hact : ∃ t, s.enToFw t = true
    · obtain ⟨t, ht⟩ := hact
      obtain ⟨-, hid, hen⟩ := h.active hp ht
      have hother : ∀ t', t' ≠ t → s.enToFw t' = false := by
        intro t' htt
        by_contra hne
        exact htt (h.unique hp (by simpa using hne) ht)
      have hone : (noaDisable { s with paused := true } t false (r t)).2 =
          { s with paused := true, fw := [], enDescNum := 0 } := by
        rw [noaDisable_active (s := { s with paused := true }) (Bool.and_false _) ht hid hen,
          hok hp t ht]
        rfl
      rw [run_single Tag.nodup_all t.mem_all (fun t' htt =>
        hpass { s with paused := true } t' (hother t' htt)), hone]
      · exact ⟨⟨rfl, .inl rfl, fun _ => iff_of_false not_mem_nil fun hf =>
          absurd hf.1 Bool.noConfusion, fun hf => absurd hf Bool.noConfusion⟩, rfl, rfl⟩
      · intro t' htt
        rw [hone]
        exact hpass _ t' (hother t' htt)
    · have hnone : ∀ t, s.enToFw t = false := by
        intro t
        by_contra hne
        exact hact ⟨t, by simpa using hne⟩
      obtain ⟨hfw, hen⟩ := h.idle fun _ => hnone
      rw [run_idle fun t' _ => hpass { s with paused := true } t' (hnone t')]
      refine ⟨⟨h.count, h.one, fun t => ?_, fun hf => absurd hf Bool.noConfusion⟩, rfl, rfl⟩
      change (t, (0 : UInt8)) ∈ s.fw ↔ _
      rw [hfw]
      exact iff_of_false not_mem_nil fun hf => absurd hf.1 Bool.noConfusion

lemma Inv.pauseAll (h : s.Inv) {r : Tag → Reply}
    (hok : s.paused = false → ∀ t, s.enToFw t = true → r t = .done) :
    (noaPauseAll s r).Inv := by
  obtain ⟨hcore, hdesc, htog⟩ := h.core.pauseAll hok
  apply hcore.inv
  rw [hdesc, htog]
  exact h.mirrors.tog

end State

end Rtl8831.Phl.Noa
