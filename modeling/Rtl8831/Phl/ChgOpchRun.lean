import Rtl8831.Phl.ChgOpch

/-!
# Who frees the parameter of a channel change

While the start message does not lose its place to the end message, the parameter has one
owner at a time: the caller, the end message once it is sent, or the start message once
the caller has told it that the end message could not be sent.
-/

namespace Rtl8831.Phl.ChgOpch

open Lib List

variable {β : Type} [DecidableEq β] {s : Sys β} {m m' : Msg} {b : β}

namespace Dispatcher

variable (d : Dispatcher)

lemma popFrontWaitMsg_perm (h : d.running = none) : d.popFrontWaitMsg.msgs.Perm d.msgs := by
  obtain ⟨running, wait, pend⟩ := d
  subst h
  cases wait <;> exact List.Perm.refl _

lemma pushBackPendingMsg_perm : d.pushBackPendingMsg.msgs.Perm d.msgs := by
  obtain ⟨running, wait, pend⟩ := d
  simp only [pushBackPendingMsg, msgs, Option.toList_none, nil_append]
  rw [append_assoc running.toList, ← append_assoc]
  exact perm_append_comm

lemma clearPendingMsg_perm : d.clearPendingMsg.msgs.Perm d.msgs := by
  simp [clearPendingMsg, msgs]

lemma recycle_msgs {m : Msg} (h : d.running = some m) : d.msgs = m :: d.recycle.msgs := by
  simp [msgs, recycle, h]

lemma pushBackWaitMsg_perm (m : Msg) : (d.pushBackWaitMsg m).msgs.Perm (m :: d.msgs) := by
  simp only [pushBackWaitMsg, msgs, append_assoc, singleton_append]
  rw [← append_assoc, ← append_assoc]
  exact perm_middle

end Dispatcher

namespace Sys

structure Once (s : Sys β) : Prop where
  nodup : ∀ b, (s.dispr b).msgs.Nodup
  band : ∀ {m b c}, m ∈ (s.dispr b).msgs → m ∈ (s.dispr c).msgs → b = c

lemma dispr_modify (s : Sys β) (b c : β) (f : Dispatcher → Dispatcher) :
    (s.modify b f).dispr c = if c = b then f (s.dispr b) else s.dispr c := by
  by_cases h : c = b
  · subst h
    simp [modify]
  · simp [modify, h]

section Queues

variable {f : Dispatcher → Dispatcher}

lemma mem_modify (hf : (f (s.dispr b)).msgs.Perm (s.dispr b).msgs) (c : β) :
    m ∈ ((s.modify b f).dispr c).msgs ↔ m ∈ (s.dispr c).msgs := by
  rw [dispr_modify]
  split_ifs with hc
  · rw [hf.mem_iff, hc]
  · rfl

lemma out_modify (hf : (f (s.dispr b)).msgs.Perm (s.dispr b).msgs) :
    (s.modify b f).Out m ↔ s.Out m :=
  exists_congr (mem_modify hf)

lemma Once.modify (h : s.Once) (hf : (f (s.dispr b)).msgs.Perm (s.dispr b).msgs) :
    (s.modify b f).Once := by
  refine ⟨fun c => ?_, fun {m c c'} hm hm' => ?_⟩
  · rw [dispr_modify]
    split_ifs
    · exact hf.nodup_iff.2 (h.nodup b)
    · exact h.nodup c
  · rw [mem_modify hf] at hm hm'
    exact h.band hm hm'

lemma mem_send (c : β) : m' ∈ ((s.modify b (·.pushBackWaitMsg m)).dispr c).msgs ↔
    (m' = m ∧ c = b) ∨ m' ∈ (s.dispr c).msgs := by
  rw [dispr_modify]
  split_ifs with hc
  · rw [((s.dispr b).pushBackWaitMsg_perm m).mem_iff, mem_cons, hc]
    simp
  · simp [hc]

lemma out_send : (s.modify b (·.pushBackWaitMsg m)).Out m' ↔ m' = m ∨ s.Out m' := by
  simp only [Out, mem_send]
  constructor
  · rintro ⟨c, ⟨rfl, -⟩ | h⟩
    · exact .inl rfl
    · exact .inr ⟨c, h⟩
  · rintro (rfl | ⟨c, h⟩)
    · exact ⟨b, .inl ⟨rfl, rfl⟩⟩
    · exact ⟨c, .inr h⟩

lemma Once.send (h : s.Once) (hm : ¬ s.Out m) : (s.modify b (·.pushBackWaitMsg m)).Once := by
  refine ⟨fun c => ?_, fun {m' c c'} hc hc' => ?_⟩
  · rw [dispr_modify]
    split_ifs
    · refine ((s.dispr b).pushBackWaitMsg_perm m).nodup_iff.2 (nodup_cons.2 ⟨?_, h.nodup b⟩)
      exact fun hb => hm ⟨b, hb⟩
    · exact h.nodup c
  · rw [mem_send] at hc hc'
    rcases hc with ⟨rfl, rfl⟩ | hc <;> rcases hc' with ⟨hm', rfl⟩ | hc'
    · rfl
    · exact absurd ⟨c', hc'⟩ hm
    · exact absurd ⟨c, hm' ▸ hc⟩ hm
    · exact h.band hc hc'

section

variable (h : s.Once) (hr : (s.dispr b).running = some m)
include h hr

lemma mem_recycle (c : β) :
    m' ∈ ((s.modify b (·.recycle)).dispr c).msgs ↔ m' ≠ m ∧ m' ∈ (s.dispr c).msgs := by
  have hmsgs := (s.dispr b).recycle_msgs hr
  have hnd := h.nodup b
  rw [hmsgs, nodup_cons] at hnd
  rw [dispr_modify]
  split_ifs with hc
  · subst hc
    rw [hmsgs, mem_cons]
    constructor
    · intro hm
      exact ⟨fun he => hnd.1 (he ▸ hm), .inr hm⟩
    · rintro ⟨hne, he | hm⟩
      · exact absurd he hne
      · exact hm
  · refine ⟨fun hm => ⟨?_, hm⟩, And.right⟩
    rintro rfl
    exact hc (h.band hm (hmsgs ▸ mem_cons_self))

lemma out_recycle :
    (s.modify b (·.recycle)).Out m' ↔ m' ≠ m ∧ s.Out m' := by
  simp only [Out, mem_recycle h hr]
  exact exists_and_left

lemma Once.recycle :
    (s.modify b (·.recycle)).Once := by
  refine ⟨fun c => ?_, fun {m' c c'} hc hc' => ?_⟩
  · have hnd := h.nodup b
    rw [(s.dispr b).recycle_msgs hr, nodup_cons] at hnd
    rw [dispr_modify]
    split_ifs
    · exact hnd.2
    · exact h.nodup c
  · rw [mem_recycle h hr] at hc hc'
    exact h.band hc.2 hc'.2

end

omit [DecidableEq β] in
lemma out_running (hr : (s.dispr b).running = some m) : s.Out m :=
  ⟨b, by simp [Dispatcher.msgs, hr]⟩

end Queues

structure Alive (s : Sys β) (p : ChgOpchParam) : Prop where
  param : s.param = some p
  asked : p.chgOpchDone = s.asked
  allocs : s.allocs = 1
  frees : s.frees = 0
  callbacks : s.callbacks = []

/-- Nothing is left of the parameter, and the callback was called `k` times. -/
structure Gone (s : Sys β) (k : ℕ) : Prop where
  param : s.param = none
  allocs : s.allocs ≤ 1
  frees : s.frees = s.allocs
  callbacks : s.callbacks.length = k
  none_out : ∀ m, ¬ s.Out m

def Sent (s : Sys β) : Prop :=
  (∃ p, s.Alive p ∧ p.sendEndMsgFail = false ∧ s.Out .fin) ∨ s.Gone (if s.asked then 1 else 0)

def Refused (s : Sys β) : Prop :=
  (∃ p, s.Alive p ∧ p.sendEndMsgFail = true ∧ s.Out .start ∧ ¬ s.Out .fin) ∨ s.Gone 0

def Started (s : Sys β) : Prop :=
  ∃ p, s.Alive p ∧ p.sendEndMsgFail = false ∧ (p.startMsgDone = false ↔ s.Out .start) ∧
    ¬ s.Out .fin

def Life (s : Sys β) : Prop :=
  match s.pc with
  | .idle => s.Gone 0 ∧ s.allocs = 0
  | .sendStart =>
    ∃ p, s.Alive p ∧ p.sendEndMsgFail = false ∧ p.startMsgDone = false ∧ ∀ m, ¬ s.Out m
  | .sendEnd | .endFailed => s.Started
  | .waiting => s.Sent
  | .returned psts => s.Sent ∨ psts ≠ .success ∧ s.Refused

structure Inv (s : Sys β) : Prop where
  once : s.Once
  unused : s.misused = false
  life : s.Life

structure Moved (s s' : Sys β) : Prop where
  pc : s'.pc = s.pc
  param : s'.param = s.param
  asked : s'.asked = s.asked
  allocs : s'.allocs = s.allocs
  frees : s'.frees = s.frees
  misused : s'.misused = s.misused
  callbacks : s'.callbacks = s.callbacks
  out : ∀ m, s'.Out m ↔ s.Out m

section Parts

variable {s' : Sys β} {p p' : ChgOpchParam} {k : ℕ}

omit [DecidableEq β] in
lemma Moved.alive (h : s.Moved s') : s'.Alive p ↔ s.Alive p := by
  constructor
  · rintro ⟨h1, h2, h3, h4, h5⟩
    exact ⟨h.param ▸ h1, h.asked ▸ h2, h.allocs ▸ h3, h.frees ▸ h4, h.callbacks ▸ h5⟩
  · rintro ⟨h1, h2, h3, h4, h5⟩
    exact ⟨h.param ▸ h1, h.asked ▸ h2, h.allocs ▸ h3, h.frees ▸ h4, h.callbacks ▸ h5⟩

omit [DecidableEq β] in
lemma Moved.gone (h : s.Moved s') : s'.Gone k ↔ s.Gone k := by
  constructor
  · rintro ⟨h1, h2, h3, h4, h5⟩
    rw [h.param] at h1
    rw [h.allocs] at h2 h3
    rw [h.frees] at h3
    exact ⟨h1, h2, h3, h.callbacks ▸ h4, fun m hm => h5 m ((h.out m).2 hm)⟩
  · rintro ⟨h1, h2, h3, h4, h5⟩
    rw [← h.param] at h1
    rw [← h.allocs] at h2 h3
    rw [← h.frees] at h3
    exact ⟨h1, h2, h3, h.callbacks ▸ h4, fun m hm => h5 m ((h.out m).1 hm)⟩

omit [DecidableEq β] in
lemma Moved.life (h : s.Moved s') : s'.Life ↔ s.Life := by
  simp only [Life, Sent, Refused, Started, h.pc, h.asked, h.allocs, h.alive, h.gone, h.out]

lemma moved_modify {f : Dispatcher → Dispatcher}
    (hf : (f (s.dispr b)).msgs.Perm (s.dispr b).msgs) : s.Moved (s.modify b f) :=
  ⟨rfl, rfl, rfl, rfl, rfl, rfl, rfl, fun _ => out_modify hf⟩

lemma Inv.modify {f : Dispatcher → Dispatcher} (h : s.Inv)
    (hf : (f (s.dispr b)).msgs.Perm (s.dispr b).msgs) : (s.modify b f).Inv :=
  ⟨h.once.modify hf, h.unused, (moved_modify hf).life.2 h.life⟩

omit [DecidableEq β] in
lemma Inv.alive (h : s.Inv) (hm : s.Out m) : ∃ p, s.Alive p := by
  have hl := h.life
  unfold Life at hl
  split at hl
  · exact absurd hm (hl.1.none_out m)
  · exact hl.imp fun _ hp => hp.1
  · exact hl.imp fun _ hp => hp.1
  · exact hl.imp fun _ hp => hp.1
  · rcases hl with ⟨p, hp, -⟩ | hg
    · exact ⟨p, hp⟩
    · exact absurd hm (hg.none_out m)
  · rcases hl with (⟨p, hp, -⟩ | hg) | ⟨-, ⟨p, hp, -⟩ | hg⟩
    · exact ⟨p, hp⟩
    · exact absurd hm (hg.none_out m)
    · exact ⟨p, hp⟩
    · exact absurd hm (hg.none_out m)

lemma Inv.feed (h : s.Inv) (hr : (s.dispr b).running.isSome) : (s.step (.feed b)).Inv := by
  obtain ⟨m, hm⟩ := Option.isSome_iff_exists.1 hr
  obtain ⟨p, hp⟩ := h.alive (out_running hm)
  simpa only [step, withParam, hp.param] using h

omit [DecidableEq β] in
lemma Inv.call (h : s.Inv) (hpc : s.pc = .idle) (mem callback : Bool) :
    (s.call mem callback).Inv := by
  have hl := h.life
  simp only [Life, hpc] at hl
  obtain ⟨hg, h0⟩ := hl
  have hcb : s.callbacks = [] := eq_nil_of_length_eq_zero hg.callbacks
  have hf : s.frees = 0 := by rw [hg.frees, h0]
  cases mem with
  | true =>
    refine ⟨⟨h.once.nodup, h.once.band⟩, h.unused, ?_⟩
    exact ⟨_, ⟨rfl, rfl, by simp [Sys.call, h0], hf, hcb⟩, rfl, rfl, hg.none_out⟩
  | false =>
    refine ⟨⟨h.once.nodup, h.once.band⟩, h.unused, ?_⟩
    exact .inr ⟨by decide, .inr ⟨hg.param, hg.allocs, hg.frees, hg.callbacks, hg.none_out⟩⟩

lemma Inv.sendStart (h : s.Inv) (hpc : s.pc = .sendStart) (err : Option SendErr) :
    (s.sendStart b err).Inv := by
  have hl := h.life
  simp only [Life, hpc] at hl
  obtain ⟨p, hp, hfail, hdone, hout⟩ := hl
  cases err with
  | none =>
    have hsend : ∀ m', (s.sendStart b none).Out m' ↔ m' = .start ∨ s.Out m' := fun _ => out_send
    obtain ⟨hnodup, hband⟩ := h.once.send (b := b) (hout .start)
    refine ⟨⟨hnodup, hband⟩, h.unused, p, ⟨hp.1, hp.2, hp.3, hp.4, hp.5⟩, hfail, ?_, ?_⟩
    · simp [hdone, hsend]
    · simp [hsend, hout]
  | some e =>
    simp only [Sys.sendStart, e.not_cmdFailure, Bool.false_eq_true, if_false]
    refine ⟨⟨h.once.nodup, h.once.band⟩, h.unused, .inr ⟨by decide, .inr ?_⟩⟩
    exact ⟨rfl, Nat.le_of_eq hp.allocs, by simp [kmemFree, hp.frees, hp.allocs],
      by simp [kmemFree, hp.callbacks], hout⟩

lemma endResult_of_err (e : SendErr) : endResult e.status = .endFailed := by
  cases e <;> rfl

lemma Inv.sendEnd (h : s.Inv) (hpc : s.pc = .sendEnd) (cmdWait : Bool) (err : Option SendErr) :
    (s.sendEnd b cmdWait err).Inv := by
  have hl := h.life
  simp only [Life, hpc] at hl
  obtain ⟨p, hp, hfail, hdone, hout⟩ := hl
  cases err with
  | none =>
    obtain ⟨hnodup, hband⟩ := h.once.send (b := b) hout
    have hsent : (s.sendEnd b cmdWait none).Sent :=
      .inl ⟨p, ⟨hp.1, hp.2, hp.3, hp.4, hp.5⟩, hfail, out_send.2 (.inl rfl)⟩
    refine ⟨⟨hnodup, hband⟩, h.unused, ?_⟩
    cases cmdWait with
    | true => exact hsent
    | false => exact .inl hsent
  | some e =>
    simp only [Sys.sendEnd, endResult_of_err]
    exact ⟨⟨h.once.nodup, h.once.band⟩, h.unused, p, ⟨hp.1, hp.2, hp.3, hp.4, hp.5⟩, hfail,
      hdone, hout⟩

omit [DecidableEq β] in
lemma wake_pc (s : Sys β) (timeout : Bool) : ∃ psts, (s.wake timeout).pc = .returned psts := by
  cases timeout with
  | true => exact ⟨_, rfl⟩
  | false =>
    simp only [wake, Bool.false_eq_true, if_false]
    cases s.endDone with
    | none => exact ⟨_, rfl⟩
    | some c => cases c <;> exact ⟨_, rfl⟩

omit [DecidableEq β] in
lemma Inv.wake (h : s.Inv) (hpc : s.pc = .waiting) (timeout : Bool) : (s.wake timeout).Inv := by
  have hl := h.life
  simp only [Life, hpc] at hl
  obtain ⟨psts, hpsts⟩ := s.wake_pc timeout
  have hsent : (s.wake timeout).Sent := by
    rcases hl with ⟨p, hp, hfail, hout⟩ | hg
    · exact .inl ⟨p, ⟨hp.1, hp.2, hp.3, hp.4, hp.5⟩, hfail, hout⟩
    · exact .inr ⟨hg.1, hg.2, hg.3, hg.4, hg.5⟩
  refine ⟨⟨h.once.nodup, h.once.band⟩, h.unused, ?_⟩
  simp only [Life, hpsts]
  exact .inl hsent

omit [DecidableEq β] in
lemma Inv.endFailed (h : s.Inv) (hpc : s.pc = .endFailed) : s.endFailed.Inv := by
  have hl := h.life
  simp only [Life, hpc] at hl
  obtain ⟨p, hp, hfail, hdone, hout⟩ := hl
  simp only [Sys.endFailed, withParam, hp.param]
  cases hstart : p.startMsgDone with
  | true =>
    have hnone : ∀ m, ¬ s.Out m := by
      rintro (_ | _)
      · exact fun ho => by simp [hdone.2 ho] at hstart
      · exact hout
    refine ⟨⟨h.once.nodup, h.once.band⟩, h.unused, .inr ⟨by decide, .inr ?_⟩⟩
    exact ⟨rfl, Nat.le_of_eq hp.allocs, by simp [kmemFree, hp.frees, hp.allocs],
      by simp [kmemFree, hp.callbacks], hnone⟩
  | false =>
    refine ⟨⟨h.once.nodup, h.once.band⟩, h.unused, .inr ⟨by decide, .inl ?_⟩⟩
    exact ⟨_, ⟨rfl, hp.2, hp.3, hp.4, hp.5⟩, rfl, hdone.1 hstart, hout⟩

lemma Inv.complete_fin (h : s.Inv) (hr : (s.dispr b).running = some .fin)
    (hstart : ¬ s.Out .start) (indc : MsgIndc) : (s.complete b indc).Inv := by
  have hout := out_running hr
  have hl := h.life
  simp only [complete, hr, cmdComplete, chgOpChdefDone]
  obtain ⟨p, hp⟩ := h.alive hout
  simp only [withParam, hp.param]
  obtain ⟨hnodup, hband⟩ := h.once.recycle hr
  have hnone : ∀ m, ¬ (s.modify b (·.recycle)).Out m := by
    rintro (_ | _) ho
    · exact hstart ((out_recycle h.once hr).1 ho).2
    · exact ((out_recycle h.once hr).1 ho).1 rfl
  have hcalled : ∀ psts : Status,
      (if p.chgOpchDone then s.callbacks ++ [psts] else s.callbacks).length =
        if s.asked then 1 else 0 := by
    intro psts
    rw [hp.asked, hp.callbacks]
    cases s.asked <;> rfl
  have hgone : ∀ psts : Status, Gone (Sys.modify { s with
      endDone := some indc.csts
      param := none
      frees := s.frees + 1
      callbacks := if p.chgOpchDone then s.callbacks ++ [psts] else s.callbacks } b
        (·.recycle)) (if s.asked then 1 else 0) := fun psts =>
    ⟨rfl, Nat.le_of_eq hp.allocs, by simp [Sys.modify, hp.frees, hp.allocs], hcalled psts, hnone⟩
  refine ⟨⟨hnodup, hband⟩, h.unused, ?_⟩
  unfold Life at hl ⊢
  simp only [Sys.modify, kmemFree]
  split at hl
  · exact absurd hout (hl.1.none_out _)
  · exact absurd hout (hl.choose_spec.2.2.2 _)
  · exact absurd hout hl.choose_spec.2.2.2
  · exact absurd hout hl.choose_spec.2.2.2
  · exact .inr (hgone _)
  · exact .inl (.inr (hgone _))

lemma Inv.complete_start (h : s.Inv) (hr : (s.dispr b).running = some .start)
    (indc : MsgIndc) : (s.complete b indc).Inv := by
  have hout := out_running hr
  have hl := h.life
  obtain ⟨hnodup, hband⟩ := h.once.recycle hr
  have hstart : ¬ (s.modify b (·.recycle)).Out .start :=
    fun ho => ((out_recycle h.once hr).1 ho).1 rfl
  have hfin : (s.modify b (·.recycle)).Out .fin ↔ s.Out .fin := by
    rw [out_recycle h.once hr]
    simp
  -- what the step leaves, by what the caller has written to the parameter
  have htold : ∀ {p}, s.Alive p → p.sendEndMsgFail = true → ¬ s.Out .fin →
      (s.complete b indc).pc = s.pc ∧ (s.complete b indc).misused = s.misused ∧
        (s.complete b indc).Gone 0 := by
    intro p hp hfail hnofin
    simp only [complete, hr, cmdComplete, chgOpChdefStartDone, withParam, hp.param, hfail, if_true]
    refine ⟨rfl, rfl, rfl, Nat.le_of_eq hp.allocs, ?_, ?_, ?_⟩
    · simp [kmemFree, Sys.modify, hp.frees, hp.allocs]
    · simp [kmemFree, Sys.modify, hp.callbacks]
    · rintro (_ | _) ho
      · exact hstart ho
      · exact hnofin (hfin.1 ho)
  have hleft : ∀ {p}, s.Alive p → p.sendEndMsgFail = false →
      (s.complete b indc).pc = s.pc ∧ (s.complete b indc).misused = s.misused ∧
        ∃ p', (s.complete b indc).Alive p' ∧ p'.sendEndMsgFail = false ∧ p'.startMsgDone = true ∧
          ∀ m, (s.complete b indc).Out m ↔ (s.modify b (·.recycle)).Out m := by
    intro p hp hfail
    simp only [complete, hr, cmdComplete, chgOpChdefStartDone, withParam, hp.param, hfail,
      Bool.false_eq_true, if_false]
    exact ⟨rfl, rfl, _, ⟨rfl, hp.2, hp.3, hp.4, hp.5⟩, rfl, rfl, fun _ => Iff.rfl⟩
  have honce : (s.complete b indc).Once := by
    obtain ⟨p, hp⟩ := h.alive hout
    simp only [complete, hr, cmdComplete, chgOpChdefStartDone, withParam, hp.param]
    split_ifs <;> exact ⟨hnodup, hband⟩
  have hstarted : s.Started → (s.complete b indc).pc = s.pc ∧
      (s.complete b indc).misused = s.misused ∧ (s.complete b indc).Started := by
    rintro ⟨p, hp, hfail, -, hnofin⟩
    obtain ⟨hpc, hmis, p', hp', hfail', hdone', hout'⟩ := hleft hp hfail
    refine ⟨hpc, hmis, p', hp', hfail', ?_, ?_⟩
    · simp [hdone', hout', hstart]
    · rwa [hout', hfin]
  have hsent : s.Sent → (s.complete b indc).pc = s.pc ∧
      (s.complete b indc).misused = s.misused ∧ (s.complete b indc).Sent := by
    rintro (⟨p, hp, hfail, hyes⟩ | hg)
    · obtain ⟨hpc, hmis, p', hp', hfail', -, hout'⟩ := hleft hp hfail
      exact ⟨hpc, hmis, .inl ⟨p', hp', hfail', (hout' _).2 (hfin.2 hyes)⟩⟩
    · exact absurd hout (hg.none_out _)
  unfold Life at hl
  split at hl
  · exact absurd hout (hl.1.none_out _)
  · exact absurd hout (hl.choose_spec.2.2.2 _)
  · rename_i heq
    obtain ⟨hpc, hmis, hst⟩ := hstarted hl
    refine ⟨honce, hmis.trans h.unused, ?_⟩
    simpa only [Life, hpc, heq] using hst
  · rename_i heq
    obtain ⟨hpc, hmis, hst⟩ := hstarted hl
    refine ⟨honce, hmis.trans h.unused, ?_⟩
    simpa only [Life, hpc, heq] using hst
  · rename_i heq
    obtain ⟨hpc, hmis, hst⟩ := hsent hl
    refine ⟨honce, hmis.trans h.unused, ?_⟩
    simpa only [Life, hpc, heq] using hst
  · rename_i heq
    rcases hl with hl | ⟨hne, ⟨p, hp, hfail, -, hnofin⟩ | hg⟩
    · obtain ⟨hpc, hmis, hst⟩ := hsent hl
      refine ⟨honce, hmis.trans h.unused, ?_⟩
      simp only [Life, hpc, heq]
      exact .inl hst
    · obtain ⟨hpc, hmis, hg⟩ := htold hp hfail hnofin
      refine ⟨honce, hmis.trans h.unused, ?_⟩
      simp only [Life, hpc, heq]
      exact .inr ⟨hne, .inr hg⟩
    · exact absurd hout (hg.none_out _)

end Parts

omit [DecidableEq β] in
lemma inv_init : ({} : Sys β).Inv := by
  have hout : ∀ m, ¬ ({} : Sys β).Out m := by
    rintro m ⟨b, hm⟩
    exact not_mem_nil hm
  refine ⟨⟨fun _ => nodup_nil, ?_⟩, rfl, ⟨rfl, Nat.zero_le 1, rfl, rfl, hout⟩, rfl⟩
  intro m b c hm
  exact absurd hm not_mem_nil

lemma inv_step (s : Sys β) (e : Event β) (h : s.Inv) (hl : s.Legal e ∧ s.StartFirst e) :
    (s.step e).Inv := by
  obtain ⟨hl, hfirst⟩ := hl
  cases e with
  | call mem callback => exact h.call hl mem callback
  | sendStart b err => exact h.sendStart hl err
  | sendEnd b cmdWait err => exact h.sendEnd hl cmdWait err
  | wake timeout => exact h.wake hl.1 timeout
  | endFailed => exact h.endFailed hl
  | popWait b => exact h.modify ((s.dispr b).popFrontWaitMsg_perm hl)
  | feed b => exact h.feed hl
  | pending b => exact h.modify (s.dispr b).pushBackPendingMsg_perm
  | clearPending b => exact h.modify (s.dispr b).clearPendingMsg_perm
  | complete b indc =>
    obtain ⟨m, hr⟩ := Option.isSome_iff_exists.1 hl
    cases m with
    | start => exact h.complete_start hr indc
    | fin => exact h.complete_fin hr (hfirst hr) indc

omit [DecidableEq β] in
lemma Gone.safe {k : ℕ} (h : s.Gone k) (hk : k ≤ 1) (hm : s.misused = false) : s.Safe :=
  ⟨⟨Nat.le_of_eq h.frees, h.allocs⟩, hm, h.callbacks ▸ hk⟩

omit [DecidableEq β] in
lemma Alive.safe {p : ChgOpchParam} (h : s.Alive p) (hm : s.misused = false) : s.Safe :=
  ⟨⟨by simp [h.frees], Nat.le_of_eq h.allocs⟩, hm, by simp [h.callbacks]⟩

omit [DecidableEq β] in
lemma Sent.safe (h : s.Sent) (hm : s.misused = false) : s.Safe := by
  rcases h with ⟨p, hp, -⟩ | hg
  · exact hp.safe hm
  · exact hg.safe (by split_ifs <;> decide) hm

omit [DecidableEq β] in
lemma Inv.safe (h : s.Inv) : s.Safe := by
  have hl := h.life
  unfold Life at hl
  split at hl
  · exact hl.1.safe (by decide) h.unused
  · exact hl.choose_spec.1.safe h.unused
  · exact hl.choose_spec.1.safe h.unused
  · exact hl.choose_spec.1.safe h.unused
  · exact hl.safe h.unused
  · rcases hl with hl | ⟨-, ⟨p, hp, -⟩ | hg⟩
    · exact hl.safe h.unused
    · exact hp.safe h.unused
    · exact hg.safe (by decide) h.unused

omit [DecidableEq β] in
lemma Inv.owned (h : s.Inv) (hover : s.Over) : s.Owned := by
  obtain ⟨⟨psts, hpc⟩, hnone⟩ := hover
  have hl := h.life
  simp only [Life, hpc] at hl
  rcases hl with (⟨p, -, -, hfin⟩ | hg) | ⟨hne, ⟨p, -, -, hstart, -⟩ | hg⟩
  · exact absurd hfin (hnone _)
  · exact ⟨h.safe, hg.frees, fun _ => hg.callbacks⟩
  · exact absurd hstart (hnone _)
  · refine ⟨h.safe, hg.frees, fun hs => ?_⟩
    rw [hpc] at hs
    exact absurd (Pc.returned.inj hs) hne

structure Broken (s : Sys β) : Prop where
  once : s.Once
  pc : s.pc = .waiting ∨ ∃ psts, s.pc = .returned psts
  lost : s.misused = true ∨ s.param = none ∧ s.Out .start

lemma Inv.breaks (h : s.Inv) (hr : (s.dispr b).running = some .fin) (hstart : s.Out .start)
    (indc : MsgIndc) : (s.complete b indc).Broken := by
  have hl := h.life
  obtain ⟨p, hp⟩ := h.alive hstart
  obtain ⟨hnodup, hband⟩ := h.once.recycle hr
  have hout : (s.modify b (·.recycle)).Out .start :=
    (out_recycle h.once hr).2 ⟨by decide, hstart⟩
  simp only [complete, hr, cmdComplete, chgOpChdefDone, withParam, hp.param]
  refine ⟨⟨hnodup, hband⟩, ?_, .inr ⟨rfl, hout⟩⟩
  unfold Life at hl
  split at hl
  · exact absurd hstart (hl.1.none_out _)
  · exact absurd hstart (hl.choose_spec.2.2.2 _)
  · exact absurd (out_running hr) hl.choose_spec.2.2.2
  · exact absurd (out_running hr) hl.choose_spec.2.2.2
  · exact .inl ‹_›
  · exact .inr ⟨_, ‹_›⟩

lemma Broken.modify {f : Dispatcher → Dispatcher} (h : s.Broken)
    (hf : (f (s.dispr b)).msgs.Perm (s.dispr b).msgs) : (s.modify b f).Broken := by
  refine ⟨h.once.modify hf, h.pc, h.lost.imp id fun hl => ⟨hl.1, ?_⟩⟩
  exact (out_modify hf).2 hl.2

omit [DecidableEq β] in
lemma cmdComplete_rest (s : Sys β) (csts : CmdSts) (m : Msg) :
    (s.cmdComplete csts m).pc = s.pc ∧ (s.cmdComplete csts m).dispr = s.dispr := by
  cases m with
  | start =>
    simp only [cmdComplete, chgOpChdefStartDone, withParam]
    split
    · split_ifs <;> exact ⟨rfl, rfl⟩
    · exact ⟨rfl, rfl⟩
  | fin =>
    simp only [cmdComplete, chgOpChdefDone, withParam]
    split <;> exact ⟨rfl, rfl⟩

omit [DecidableEq β] in
lemma cmdComplete_misused (csts : CmdSts) (m : Msg) (h : s.misused = true ∨ s.param = none) :
    (s.cmdComplete csts m).misused = true := by
  cases m with
  | start =>
    simp only [cmdComplete, chgOpChdefStartDone, withParam]
    split
    · have hm : s.misused = true := by simp_all
      split_ifs <;> exact hm
    · rfl
  | fin =>
    simp only [cmdComplete, chgOpChdefDone, withParam]
    split
    · have hm : s.misused = true := by simp_all
      exact hm
    · rfl

lemma Broken.complete (h : s.Broken) {m : Msg} (hr : (s.dispr b).running = some m)
    (indc : MsgIndc) : (s.complete b indc).Broken := by
  obtain ⟨hpc, hdispr⟩ := s.cmdComplete_rest indc.csts m
  have honce : (s.modify b (·.recycle)).Once := h.once.recycle hr
  have hd : ((s.cmdComplete indc.csts m).modify b (·.recycle)).dispr =
      (s.modify b (·.recycle)).dispr := by
    simp only [Sys.modify, hdispr]
  simp only [Sys.complete, hr]
  refine ⟨⟨?_, ?_⟩, ?_, .inl (cmdComplete_misused _ _ (h.lost.imp id And.left))⟩
  · rw [hd]
    exact honce.nodup
  · rw [hd]
    exact honce.band
  · simpa only [Sys.modify, hpc] using h.pc

lemma broken_step (s : Sys β) (e : Event β) (h : s.Broken) (hl : s.Legal e) :
    (s.step e).Broken := by
  have hpc : ∀ {pc}, s.pc = pc → pc ≠ .waiting → (∀ psts, pc ≠ .returned psts) → False := by
    rintro pc rfl hw hret
    rcases h.pc with hp | ⟨psts, hp⟩
    · exact hw hp
    · exact hret psts hp
  cases e with
  | call mem callback => exact (hpc hl (by decide) (by simp)).elim
  | sendStart b err => exact (hpc hl (by decide) (by simp)).elim
  | sendEnd b cmdWait err => exact (hpc hl (by decide) (by simp)).elim
  | wake timeout => exact ⟨⟨h.once.nodup, h.once.band⟩, .inr (s.wake_pc timeout), h.lost⟩
  | endFailed => exact (hpc hl (by decide) (by simp)).elim
  | popWait b => exact h.modify ((s.dispr b).popFrontWaitMsg_perm hl)
  | feed b =>
    simp only [step, withParam]
    split
    · exact h
    · exact ⟨⟨h.once.nodup, h.once.band⟩, h.pc, .inl rfl⟩
  | pending b => exact h.modify (s.dispr b).pushBackPendingMsg_perm
  | clearPending b => exact h.modify (s.dispr b).clearPendingMsg_perm
  | complete b indc =>
    obtain ⟨m, hr⟩ := Option.isSome_iff_exists.1 hl
    exact h.complete hr indc

omit [DecidableEq β] in
lemma Broken.not_owned (h : s.Broken) (hover : s.Over) : ¬ s.Owned := by
  intro ho
  rcases h.lost with hm | ⟨-, hstart⟩
  · rw [ho.unused] at hm
    contradiction
  · exact hover.2 _ hstart

lemma broken_of_late {es : List (Event β)} (h : s.Inv) (hl : Guarded step Legal s es)
    (hlate : ¬ Guarded step StartFirst s es) : (run step s es).Broken := by
  induction es generalizing s with
  | nil => exact absurd trivial hlate
  | cons e es ih =>
    by_cases he : s.StartFirst e
    · exact ih (inv_step s e h ⟨hl.1, he⟩) hl.2 fun hes => hlate ⟨he, hes⟩
    · have hb : (s.step e).Broken := by
        cases e with
        | complete b indc =>
          simp only [StartFirst, Classical.not_imp, not_not] at he
          exact h.breaks he.1 he.2 indc
        | _ => exact absurd trivial he
      rw [run_cons]
      exact Guarded.invariant broken_step hb hl.2

/-- Whoever completes, holds back or cancels the messages, and however they are sent: if
the end message never completes before the start message, the parameter is freed at most
once and not used after that, and the callback is called at most once; and a call that is
over has kept all its promises exactly if the end message never did. -/
theorem chg_opch_param_owned {es : List (Event β)} (hl : Guarded step Legal {} es) :
    (Guarded step StartFirst {} es → (run step {} es).Safe) ∧
      ((run step {} es).Over → ((run step {} es).Owned ↔ Guarded step StartFirst {} es)) := by
  have hkept : Guarded step StartFirst {} es → (run step {} es).Inv := fun hfirst =>
    Guarded.invariant inv_step inv_init (hl.and hfirst)
  refine ⟨fun hfirst => (hkept hfirst).safe, fun hover => ⟨fun ho => ?_, fun hfirst => ?_⟩⟩
  · by_contra hlate
    exact (broken_of_late inv_init hl hlate).not_owned hover ho
  · exact (hkept hfirst).owned hover

instance : ∀ (s : Sys β) (e : Event β), Decidable (s.Legal e)
  | s, .call .. => inferInstanceAs (Decidable (s.pc = _))
  | s, .sendStart .. => inferInstanceAs (Decidable (s.pc = _))
  | s, .sendEnd .. => inferInstanceAs (Decidable (s.pc = _))
  | s, .wake _ => inferInstanceAs (Decidable (s.pc = _ ∧ (_ → _)))
  | s, .endFailed => inferInstanceAs (Decidable (s.pc = _))
  | s, .popWait b => inferInstanceAs (Decidable ((s.dispr b).running = none))
  | s, .feed b => inferInstanceAs (Decidable ((s.dispr b).running.isSome = true))
  | s, .pending b => inferInstanceAs (Decidable ((s.dispr b).running.isSome = true))
  | _, .clearPending _ => isTrue trivial
  | s, .complete b _ => inferInstanceAs (Decidable ((s.dispr b).running.isSome = true))

def refusedRun : List (Event (Fin 2)) :=
  [.call true true, .sendStart 0 none, .popWait 0, .feed 0, .pending 0,
    .sendEnd 0 true (some .noIdleMsg), .endFailed, .clearPending 0, .popWait 0, .feed 0,
    .complete 0 {}]

lemma over_of_empty {s : Sys (Fin 2)} {psts : Status} (hpc : s.pc = .returned psts)
    (hempty : ∀ b, (s.dispr b).msgs = []) : s.Over := by
  refine ⟨⟨psts, hpc⟩, ?_⟩
  rintro m ⟨b, hm⟩
  rw [hempty b] at hm
  exact not_mem_nil hm

lemma refusedRun_over : (run step {} refusedRun).Over :=
  @over_of_empty _ .failure rfl (by decide)

theorem chg_opch_param_owned_refused :
    (run step {} refusedRun).Over ∧ ((run step {} refusedRun).Owned ↔
      Guarded step StartFirst {} refusedRun) :=
  ⟨refusedRun_over, (@chg_opch_param_owned _ _ refusedRun (by decide)).2 refusedRun_over⟩

/-- A module holds the start message back, the end message is sent, and the pending message
is put behind it. -/
def overtakenRun : List (Event (Fin 2)) :=
  [.call true true, .sendStart 0 none, .popWait 0, .feed 0, .pending 0, .sendEnd 0 false none,
    .clearPending 0, .popWait 0, .feed 0, .complete 0 {}, .popWait 0, .feed 0, .complete 0 {}]

/-- The start message is handled with the parameter that the end message has freed. -/
theorem chg_opch_param_overtaken :
    Guarded step Legal {} overtakenRun ∧ (run step {} overtakenRun).Over ∧
      (run step {} overtakenRun).pc = .returned .success ∧
      (run step {} overtakenRun).misused = true ∧
      (run step {} overtakenRun).callbacks = [.failure] := by
  have hover : (run step {} overtakenRun).Over := @over_of_empty _ .success rfl (by decide)
  exact ⟨by decide, hover, rfl, rfl, rfl⟩

end Sys

end Rtl8831.Phl.ChgOpch
