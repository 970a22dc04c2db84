import Rtl8831.Phl.NoaStep

/-!
# The NoA table mirrors the firmware

What the loops over the five descriptors do, and what holds in a run of calls that all meet their
conditions.
-/

namespace Rtl8831.Phl.Noa

open Lib List

namespace State

variable {s s' : State} {t : Tag} {d : NoaDesc} {p : List Tag}

section Resume

variable {r : ResumeReply}

def comes (s : State) (r : ResumeReply) (t : Tag) : Bool :=
  (s.noaDesc t).enable && shouldActivate (s.noaDesc t) (r.mr t) && decide (r.enable t = .done)

lemma comes_iff : s.comes r t = true ↔ s.Should r t ∧ r.enable t = .done := by
  simp [comes, Should]

/-- Where the loop stands after the descriptors of `p`. -/
structure Resumed (s : State) (r : ResumeReply) (p : List Tag) (s' : State) : Prop where
  paused : s'.paused = false
  tog : s'.tog = s.tog
  desc : ∀ t, s'.noaDesc t = if t ∈ p ∧ (s.noaDesc t).enable = true then
    { s.noaDesc t with noaId := if s.comes r t then 0 else noaidNone } else s.noaDesc t
  fw : s'.fw = (p.filter (s.comes r)).map fun t => (t, 0)
  count : s'.enDescNum = s'.fw.length

lemma Resumed.desc_concat (h : s.Resumed r p s') (hen : (s.noaDesc t).enable = true)
    {noaId : UInt8} (hid : noaId = if s.comes r t then 0 else noaidNone) (t' : Tag) :
    (s'.setDesc t { s.noaDesc t with noaId }).noaDesc t' =
      if t' ∈ p ++ [t] ∧ (s.noaDesc t').enable = true then
        { s.noaDesc t' with noaId := if s.comes r t' then 0 else noaidNone }
      else s.noaDesc t' := by
  rw [noaDesc_setDesc]
  by_cases htt : t' = t
  · subst htt
    rw [if_pos rfl, if_pos ⟨by simp, hen⟩, hid]
  · rw [if_neg htt, h.desc]
    simp [htt]

lemma Resumed.skipped (h : s.Resumed r p s') (hen : (s.noaDesc t).enable = true)
    (hc : s.comes r t = false) :
    s.Resumed r (p ++ [t]) (s'.setDesc t { s.noaDesc t with noaId := noaidNone }) where
  paused := h.paused
  tog := h.tog
  desc := h.desc_concat hen (by rw [hc]; rfl)
  fw := by
    rw [filter_append, filter_singleton, hc]
    exact h.fw.trans (by simp)
  count := h.count

lemma Resumed.step (h : s.Resumed r p s') (ht : t ∉ p)
    (hlate : s.Should r t → r.enable t ≠ .late)
    (hfirst : s.comes r t = true → ∀ t' ∈ p, s.comes r t' = false) :
    s.Resumed r (p ++ [t]) (resumeDesc r s' t) := by
  have hown : s'.noaDesc t = s.noaDesc t := by
    rw [h.desc, if_neg fun hc => ht hc.1]
  rw [resumeDesc, hown]
  cases hen : (s.noaDesc t).enable with
  | false =>
    rw [if_neg Bool.false_ne_true]
    have hc : s.comes r t = false := by simp [comes, hen]
    refine ⟨h.paused, h.tog, fun t' => ?_, ?_, h.count⟩
    · rw [h.desc]
      by_cases htt : t' = t
      · subst htt
        simp [hen]
      · simp [htt]
    · rw [filter_append, filter_singleton, hc]
      exact h.fw.trans (by simp)
  | true =>
    rw [if_pos rfl]
    cases hsh : shouldActivate (s.noaDesc t) (r.mr t) with
    | false =>
      rw [noaEnable_not_should h.paused hsh]
      exact h.skipped hen (by simp [comes, hsh])
    | true =>
      cases hr : r.enable t with
      | late => exact absurd hr (hlate ⟨hen, hsh⟩)
      | refused =>
        rw [noaEnable_refused h.paused hsh]
        exact h.skipped hen (by simp [comes, hr])
      | done =>
        have hc : s.comes r t = true := comes_iff.2 ⟨⟨hen, hsh⟩, hr⟩
        have hnil : p.filter (s.comes r) = [] := by
          rw [filter_eq_nil_iff]
          intro t' ht'
          rw [hfirst hc t' ht']
          exact Bool.false_ne_true
        have hfw : s'.fw = [] := by
          rw [h.fw, hnil]
          rfl
        rw [noaEnable_done h.paused hsh (by rw [h.count, hfw]; rfl) hfw]
        refine ⟨h.paused, h.tog, h.desc_concat hen (by rw [hc]; rfl), ?_, rfl⟩
        rw [filter_append, hnil, filter_singleton, hc]
        rfl

lemma resumed_run (h : s.Core) (hp : s.paused = true)
    (hlate : ∀ t, s.Should r t → r.enable t ≠ .late)
    (hone : ∀ t t', s.comes r t = true → s.comes r t' = true → t = t') (hnodup : p.Nodup) :
    s.Resumed r p (run (resumeDesc r) { s with paused := false } p) := by
  induction p using reverseRecOn with
  | nil =>
    obtain ⟨hfw, hen⟩ := h.paused hp
    exact ⟨rfl, rfl, fun t => (if_neg fun hc => not_mem_nil hc.1).symm, hfw, h.count⟩
  | append_singleton p t ih =>
    have hnodup' := nodup_append.1 hnodup
    have ht : t ∉ p := fun ht => hnodup'.2.2 t ht t (mem_singleton_self t) rfl
    rw [run_append]
    refine (ih hnodup'.1).step ht (hlate t) fun hc t' ht' => ?_
    by_contra hne
    have heq := hone t t' hc (by simpa using hne)
    exact ht (heq ▸ ht')

section

variable (h : s.Resumed r Tag.all s')
include h

lemma Resumed.enToFw (t : Tag) :
    s'.enToFw t = true ↔ s.comes r t = true := by
  have hzero : (0 : UInt8) ≠ noaidNone := by decide
  rw [enToFw_iff, h.desc]
  cases hen : (s.noaDesc t).enable with
  | false => simp [comes, hen]
  | true =>
    rw [if_pos ⟨t.mem_all, rfl⟩]
    cases hc : s.comes r t with
    | false => simp
    | true => simp [hzero, hen]

lemma Resumed.core
    (hone : ∀ t t', s.comes r t = true → s.comes r t' = true → t = t') : s'.Core where
  count := h.count
  one := by
    by_cases hsome : ∃ t, s.comes r t = true
    · obtain ⟨t, ht⟩ := hsome
      refine .inr ⟨t, ?_⟩
      have hfilter : Tag.all.filter (s.comes r) = Tag.all.filter fun t' => decide (t' = t) := by
        apply filter_congr
        intro t' _
        cases hc : s.comes r t' with
        | false => exact (decide_eq_false fun htt => by rw [htt, ht] at hc; cases hc).symm
        | true => exact (decide_eq_true (hone t' t hc ht)).symm
      rw [h.fw, hfilter]
      cases t <;> rfl
    · refine .inl ?_
      have hfilter : Tag.all.filter (s.comes r) = [] := by
        rw [filter_eq_nil_iff]
        exact fun t _ ht => hsome ⟨t, ht⟩
      rw [h.fw, hfilter]
      rfl
  mem t := by
    rw [h.enToFw, h.fw]
    constructor
    · intro hmem
      obtain ⟨t', ht', heq⟩ := mem_map.1 hmem
      obtain rfl : t' = t := congrArg Prod.fst heq
      exact ⟨h.paused, (mem_filter.1 ht').2⟩
    · rintro ⟨-, hc⟩
      exact mem_map.2 ⟨t, mem_filter.2 ⟨t.mem_all, hc⟩, rfl⟩
  zero _ t ht := by
    have hc := (h.enToFw t).1 ht
    have hen := (comes_iff.1 hc).1.1
    rw [h.desc, if_pos ⟨t.mem_all, hen⟩, hc]
    rfl

lemma Resumed.enable (t : Tag) :
    (s'.noaDesc t).enable = (s.noaDesc t).enable := by
  rw [h.desc]
  split_ifs <;> rfl

end

lemma Inv.resumeAll (h : s.Inv) (hok : s.Ok (.resumeAll r)) :
    (noaResumeAll s r).Inv ∧ s.Kept (.resumeAll r) := by
  cases hp : s.paused with
  | false =>
    have hf : ¬ s.paused = true := by rw [hp]; exact Bool.false_ne_true
    have hstep : noaResumeAll s r = s := if_neg hf
    rw [hstep]
    exact ⟨h, fun ht => absurd ht hf⟩
  | true =>
    obtain ⟨hlate, hone⟩ := hok hp
    have hone' : ∀ t t', s.comes r t = true → s.comes r t' = true → t = t' := by
      intro t t' ht ht'
      obtain ⟨hs, hr⟩ := comes_iff.1 ht
      obtain ⟨hs', hr'⟩ := comes_iff.1 ht'
      exact hone t t' hs hr hs' hr'
    have hstep : noaResumeAll s r = run (resumeDesc r) { s with paused := false } Tag.all :=
      if_pos hp
    have hrun := resumed_run h.core hp hlate hone' Tag.nodup_all
    rw [← hstep] at hrun
    have hcore := hrun.core hone'
    refine ⟨hcore.inv ?_, fun _ => ⟨hrun.paused, fun t => ?_⟩⟩
    · rw [hrun.tog, h.mirrors.tog]
      exact exists_congr fun t => by rw [hrun.enable]
    · rw [← comes_iff, ← hrun.enToFw]
      constructor
      · rintro ⟨id, hid⟩
        rw [fw_zero hcore.one hid] at hid
        exact ((hcore.mem t).1 hid).2
      · intro ht
        exact ⟨0, (hcore.mem t).2 ⟨hrun.paused, ht⟩⟩

end Resume

section DisableAll

variable {r : Tag → Reply}

def Ends (s : State) (r : Tag → Reply) (t : Tag) : Prop :=
  s.paused = false ∧ s.enToFw t = true ∧ r t = .done

def goes (s : State) (r : Tag → Reply) (t : Tag) : Bool :=
  s.paused || !s.enToFw t || decide (r t = .done)

instance (t : Tag) : Decidable (s.Ends r t) := inferInstanceAs (Decidable (_ ∧ _ ∧ _))

/-- Where the loop stands after the descriptors of `p`. -/
structure Disabled (s : State) (r : Tag → Reply) (p : List Tag) (s' : State) : Prop where
  paused : s'.paused = s.paused
  tog : s'.tog = s.tog
  desc : ∀ t, s'.noaDesc t =
    if t ∈ p ∧ (s.noaDesc t).enable = true ∧ s.goes r t = true then {} else s.noaDesc t
  fw : s'.fw = if ∃ t ∈ p, s.Ends r t then [] else s.fw
  count : s'.enDescNum = s'.fw.length

section

variable (h : s.Disabled r p s')
include h

lemma Disabled.desc_cleared (hen : (s.noaDesc t).enable = true)
    (hg : s.goes r t = true) (t' : Tag) :
    (s'.clearDesc t).noaDesc t' =
      if t' ∈ p ++ [t] ∧ (s.noaDesc t').enable = true ∧ s.goes r t' = true then {}
      else s.noaDesc t' := by
  rw [clearDesc, noaDesc_setDesc]
  by_cases htt : t' = t
  · subst htt
    rw [if_pos rfl, if_pos ⟨by simp, hen, hg⟩]
  · rw [if_neg htt, h.desc]
    simp [htt]

lemma Disabled.desc_kept
    (hk : ¬ ((s.noaDesc t).enable = true ∧ s.goes r t = true)) (t' : Tag) :
    s'.noaDesc t' =
      if t' ∈ p ++ [t] ∧ (s.noaDesc t').enable = true ∧ s.goes r t' = true then {}
      else s.noaDesc t' := by
  rw [h.desc]
  by_cases htt : t' = t
  · subst htt
    rw [if_neg fun hc => hk hc.2, if_neg fun hc => hk hc.2]
  · simp [htt]

lemma Disabled.fw_concat (hno : ¬ s.Ends r t) :
    s'.fw = if ∃ t' ∈ p ++ [t], s.Ends r t' then [] else s.fw := by
  have hiff : (∃ t' ∈ p ++ [t], s.Ends r t') ↔ ∃ t' ∈ p, s.Ends r t' := by
    constructor
    · rintro ⟨t', ht', hends⟩
      rcases mem_append.1 ht' with ht' | ht'
      · exact ⟨t', ht', hends⟩
      · exact absurd (mem_singleton.1 ht' ▸ hends) hno
    · rintro ⟨t', ht', hends⟩
      exact ⟨t', mem_append_left _ ht', hends⟩
  rw [h.fw]
  by_cases hc : ∃ t' ∈ p, s.Ends r t'
  · rw [if_pos hc, if_pos (hiff.2 hc)]
  · rw [if_neg hc, if_neg (hc ∘ hiff.1)]

lemma Disabled.step (hs : s.Core) (ht : t ∉ p)
    (hlate : s.paused = false → s.enToFw t = true → r t ≠ .late) :
    s.Disabled r (p ++ [t]) (disableDesc r s' t) := by
  have hown : s'.noaDesc t = s.noaDesc t := by
    rw [h.desc, if_neg fun hc => ht hc.1]
  rw [disableDesc, hown]
  cases hen : (s.noaDesc t).enable with
  | false =>
    rw [if_neg Bool.false_ne_true]
    have hno : ¬ s.Ends r t := by
      rintro ⟨-, hact, -⟩
      exact Bool.false_ne_true (hen.symm.trans (enToFw_iff.1 hact).2)
    exact ⟨h.paused, h.tog, h.desc_kept fun hc => Bool.false_ne_true (hen.symm.trans hc.1),
      h.fw_concat hno, h.count⟩
  | true =>
    rw [if_pos rfl]
    cases hp : s.paused with
    | true =>
      rw [noaDisable_paused (h.paused.trans hp)]
      have hno : ¬ s.Ends r t := fun hc => absurd (hp.symm.trans hc.1) Bool.noConfusion
      exact ⟨h.paused, h.tog, h.desc_cleared hen (by simp [goes, hp]), h.fw_concat hno,
        h.count⟩
    | false =>
      have hpc : (s'.paused && true) = false := by
        rw [h.paused, hp]
        rfl
      cases hact : s.enToFw t with
      | false =>
        rw [noaDisable_inactive hpc ((enToFw_congr hown).trans hact)]
        have hno : ¬ s.Ends r t := fun hc => absurd (hact.symm.trans hc.2.1) Bool.noConfusion
        exact ⟨h.paused, h.tog, h.desc_cleared hen (by simp [goes, hact]), h.fw_concat hno,
          h.count⟩
      | true =>
        obtain ⟨hfw, hid, -⟩ := hs.active hp hact
        have hbefore : ¬ ∃ t' ∈ p, s.Ends r t' := by
          rintro ⟨t', ht', -, hact', -⟩
          exact ht (hs.unique hp hact hact' ▸ ht')
        have hfw' : s'.fw = [(t, 0)] := by rw [h.fw, if_neg hbefore, hfw]
        have hen' : s'.enDescNum = 1 := by rw [h.count, hfw']; rfl
        rw [noaDisable_active hpc ((enToFw_congr hown).trans hact)
          ((congrArg NoaDesc.noaId hown).trans hid) hen']
        cases hr : r t with
        | done =>
          have hends : s.Ends r t := ⟨hp, hact, hr⟩
          refine ⟨h.paused, h.tog, h.desc_cleared hen (by simp [goes, hr]), ?_, rfl⟩
          rw [if_pos ⟨t, by simp, hends⟩]
          rfl
        | refused =>
          have hno : ¬ s.Ends r t := by
            rintro ⟨-, -, hdone⟩
            rw [hr] at hdone
            cases hdone
          have hg : s.goes r t = false := by simp [goes, hp, hact, hr]
          exact ⟨h.paused, h.tog, h.desc_kept fun hc => absurd (hg.symm.trans hc.2)
            Bool.noConfusion, h.fw_concat hno, h.count⟩
        | late => exact absurd hr (hlate hp hact)

end

lemma disabled_run (hs : s.Core)
    (hlate : s.paused = false → ∀ t, s.enToFw t = true → r t ≠ .late) (hnodup : p.Nodup) :
    s.Disabled r p (run (disableDesc r) s p) := by
  induction p using reverseRecOn with
  | nil =>
    exact ⟨rfl, rfl, fun t => (if_neg fun hc => not_mem_nil hc.1).symm,
      (if_neg fun ⟨_, ht, _⟩ => not_mem_nil ht).symm, hs.count⟩
  | append_singleton p t ih =>
    have hnodup' := nodup_append.1 hnodup
    have ht : t ∉ p := fun ht => hnodup'.2.2 t ht t (mem_singleton_self t) rfl
    rw [run_append]
    exact (ih hnodup'.1).step hs ht fun hp => hlate hp t

lemma Disabled.inv_cleared (h : s.Disabled r Tag.all s') (hs : s.Inv)
    (hdone : s.paused = false → ∀ t, s.enToFw t = true → r t = .done) {tog : Bool}
    (htog : (∃ t, (s.noaDesc t).enable = true) → tog = true) :
    (State.togDisable { s' with paused := false } tog).Inv := by
  have hoff : ∀ t, (s'.noaDesc t).enable = false := by
    intro t
    rw [h.desc]
    cases hen : (s.noaDesc t).enable with
    | false =>
      rw [if_neg fun hc => Bool.false_ne_true hc.2.1]
      exact hen
    | true =>
      have hg : s.goes r t = true := by
        cases hp : s.paused with
        | true => simp [goes, hp]
        | false =>
          cases hact : s.enToFw t with
          | false => simp [goes, hact]
          | true => simp [goes, hdone hp t hact]
      rw [if_pos ⟨t.mem_all, rfl, hg⟩]
  have hinactive : ∀ t, s'.enToFw t = false := by
    intro t
    simp [enToFw, hoff t]
  have hfw : s'.fw = [] := by
    rw [h.fw]
    by_cases hc : ∃ t ∈ Tag.all, s.Ends r t
    · rw [if_pos hc]
    · rw [if_neg hc]
      refine (hs.core.idle fun hp t => ?_).1
      by_contra hact
      have hact' : s.enToFw t = true := by simpa using hact
      exact hc ⟨t, t.mem_all, hp, hact', hdone hp t hact'⟩
  have hcore : ({ s' with paused := false, tog := false } : State).Core := by
    refine ⟨h.count, .inl hfw, fun t => ?_, fun _ t ht => ?_⟩
    · change (t, (0 : UInt8)) ∈ s'.fw ↔ _ ∧ s'.enToFw t = true
      rw [hfw, hinactive t]
      exact iff_of_false not_mem_nil fun hf => Bool.false_ne_true hf.2
    · exact absurd ((hinactive t).symm.trans ht) Bool.noConfusion
  have hend : State.togDisable { s' with paused := false } tog =
      { s' with paused := false, tog := false } := by
    cases tog with
    | true => rfl
    | false =>
      have hnotog : s'.tog = false := by
        rw [h.tog, Bool.eq_false_iff, Ne, hs.mirrors.tog]
        exact fun hsome => Bool.false_ne_true (htog hsome)
      exact congrArg (fun b => ({ s' with paused := false, tog := b } : State)) hnotog
  rw [hend]
  apply hcore.inv
  refine iff_of_false Bool.false_ne_true ?_
  rintro ⟨t, ht⟩
  exact Bool.false_ne_true ((hoff t).symm.trans ht)

lemma Disabled.inv_refused (h : s.Disabled r Tag.all s') (hs : s.Inv) (hp : s.paused = false)
    (hact : s.enToFw t = true) (hr : r t = .refused) :
    (State.togDisable { s' with paused := false } false).Inv := by
  have hkept : s'.noaDesc t = s.noaDesc t := by
    have hg : s.goes r t = false := by simp [goes, hp, hact, hr]
    rw [h.desc, if_neg fun hc => absurd (hg.symm.trans hc.2.2) Bool.noConfusion]
  have hends : ¬ ∃ t' ∈ Tag.all, s.Ends r t' := by
    rintro ⟨t', -, -, hact', hdone⟩
    rw [← hs.core.unique hp hact hact', hr] at hdone
    cases hdone
  have hfw : s'.fw = s.fw := by rw [h.fw, if_neg hends]
  have hcore : ({ s' with paused := false } : State).Core := by
    refine (hs.core.of_same (by rw [h.count, hfw, hs.core.count]) hfw hp.symm ?_ :
      ({ s' with paused := false } : State).Core)
    intro _ t'
    by_cases htt : t' = t
    · subst htt
      exact ⟨enToFw_congr hkept, fun _ => hkept⟩
    · have hoff : s.enToFw t' = false := by
        by_contra hne
        exact htt (hs.core.unique hp (by simpa using hne) hact)
      refine ⟨?_, fun hf => absurd (hoff.symm.trans hf) Bool.noConfusion⟩
      change s'.enToFw t' = _
      rw [hoff, State.enToFw, h.desc]
      by_cases hc : t' ∈ Tag.all ∧ (s.noaDesc t').enable = true ∧ s.goes r t' = true
      · rw [if_pos hc]
        rfl
      · rw [if_neg hc]
        exact hoff
  apply hcore.inv
  change s'.tog = true ↔ ∃ t, (s'.noaDesc t).enable = true
  have hen := (enToFw_iff.1 hact).2
  rw [h.tog, hs.mirrors.tog]
  exact iff_of_true ⟨t, hen⟩ ⟨t, by rw [hkept]; exact hen⟩

lemma Inv.disableAll (h : s.Inv) {tog : Bool} (hok : s.DisableAllOk r tog) :
    (noaDisableAll s r tog).Inv := by
  have hstep : noaDisableAll s r tog = State.togDisable
      { run (disableDesc r) s Tag.all with paused := false } tog := rfl
  rw [hstep]
  rcases hok with ⟨hdone, htog⟩ | ⟨hp, ⟨t, hact, hr⟩, rfl⟩
  · have hrun := disabled_run (r := r) h.core (fun hp t ht => by rw [hdone hp t ht]; decide)
      Tag.nodup_all
    exact hrun.inv_cleared h hdone htog
  · have hrun := disabled_run (r := r) h.core (fun hp t' ht' => by
      rw [← h.core.unique hp hact ht', hr]
      decide) Tag.nodup_all
    exact hrun.inv_refused h hp hact hr

end DisableAll

lemma Inv.step (h : s.Inv) {op : Op} (hok : s.Ok op) : (s.step op).Inv ∧ s.Kept op := by
  cases op with
  | update d r =>
    refine ⟨?_, kept_update d r⟩
    cases hd : d.enable with
    | true => exact h.updateEnable hd (by rwa [Ok, if_pos hd] at hok)
    | false =>
      have hne : ¬ d.enable = true := by rw [hd]; exact Bool.false_ne_true
      exact h.updateDisable hd (by rwa [Ok, if_neg hne] at hok)
  | pauseAll r => exact ⟨h.pauseAll hok, trivial⟩
  | resumeAll r => exact h.resumeAll hok
  | disableAll r tog => exact ⟨h.disableAll hok, trivial⟩

/-- In every run of calls that all meet their conditions, the table mirrors the firmware after
each call, changes while NoA is paused are recorded, and to resume activates what should be
activated. -/
theorem noa_table_mirrors (ops : List Op) (h : Guarded step Ok init ops) :
    (run step init ops).Mirrors ∧ Guarded step Right init ops := by
  have hinv : (run step init ops).Inv :=
    @Guarded.invariant _ _ step Ok Inv (fun _ _ hs hok => (hs.step hok).1) _ _ inv_init h
  refine ⟨hinv.mirrors, ?_⟩
  exact @Guarded.steps _ _ step Ok Right Inv (fun _ _ hs hok => (hs.step hok).1)
    (fun _ _ hs hok => ⟨(hs.step hok).1.mirrors, (hs.step hok).2⟩) _ _ inv_init h

def pausedRun : List Op :=
  [.update { enable := true, tag := .go } {}, .pauseAll fun _ => .done, .resumeAll {},
    .update { tag := .go } {}]

theorem noa_table_mirrors_paused :
    (run step init pausedRun).Mirrors ∧ Guarded step Right init pausedRun := by
  refine noa_table_mirrors pausedRun ⟨?_, ?_, ?_, ?_, trivial⟩
  · exact ⟨fun _ => rfl, fun _ _ => rfl, fun _ _ => ⟨by decide, fun _ t _ => by cases t <;> rfl⟩⟩
  · exact fun _ _ _ => rfl
  · refine fun _ => ⟨fun _ _ h => Reply.noConfusion h, fun t t' ht _ ht' _ => ?_⟩
    cases t <;> cases t' <;> first | rfl | exact absurd ht.1 (by decide) |
      exact absurd ht'.1 (by decide)
  · exact ⟨fun _ _ => by decide, fun _ _ _ => rfl⟩

/-- Two descriptors are active at the same time, both with the id 0. -/
theorem noa_ids_collide : ¬ ∀ ops : List Op, (run step init ops).Mirrors := by
  intro h
  have hids := (h [.update { enable := true, tag := .go } {},
    .update { enable := true, tag := .gc } {}]).ids
  exact absurd hids (by decide)

end State

end Rtl8831.Phl.Noa
