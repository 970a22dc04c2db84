import Rtl8831.Phl.DisprMsg

/-!
# Conservation of message slots

Every slot is idle, waiting, pended or in the hand of the thread, and what has become
of the message of each send is known.  All moves between the queues and the hand keep
this, whatever is done to maps and flags; only sends and the way back to the idle
slots touch the history.
-/

namespace Rtl8831.Phl.DisprMsg

open List

inductive Closed : Bool → List MsgEvent → Prop
  | refused {r : Bool} : Closed r [.refused, .idle]
  | silent : Closed false [.accepted, .idle]
  | notified : Closed true [.accepted, .completed, .idle]

namespace Pc

def hand : Pc → List ℕ
  | .feed i _ _ => [i]
  | .failOwner i => [i]
  | .failReq i => [i]
  | .curReq i => [i]
  | .complete i _ => [i]
  | _ => []

def completing : Pc → Option ℕ
  | .complete i _ => some i
  | _ => none

/-- `dispr_thread_leave_hdl` has been entered. -/
def leaving : Pc → Bool
  | .abort l => l
  | .complete _ l => l
  | .leaveMsgs => true
  | .leaveWaiting => true
  | .down => true
  | _ => false

end Pc

namespace Dispr

variable {d d' : Dispr} {hand hand' : List ℕ} {c : Option ℕ} {i j t : ℕ}

def ticket (d : Dispr) (i : ℕ) : ℕ := (d.msgExPool i).ticket

def live (d : Dispr) (hand : List ℕ) : List ℕ := d.msgWaitQ ++ d.msgPendQ ++ hand

/-- The message in slot `i` has been accepted, and its completion routine is yet to be
called unless it is running. -/
structure Live (d : Dispr) (c : Option ℕ) (i : ℕ) : Prop where
  sent : d.ticket i < d.sent
  hist : d.hist (d.ticket i) = .accepted :: if c = some i then [.completed] else []
  routine : d.routine (d.ticket i) = (d.msgExPool i).completion
  notify : (d.msgExPool i).status.notifyComplete = (d.msgExPool i).completion
  running : c = some i → (d.msgExPool i).completion = true

structure Conserved (d : Dispr) (hand : List ℕ) (c : Option ℕ) : Prop where
  slots : (d.msgIdleQ ++ d.live hand).Perm (range maxPhlMsgNum)
  tickets : ((d.live hand).map d.ticket).Nodup
  alive : ∀ i ∈ d.live hand, d.Live c i
  closed : ∀ t < d.sent, t ∉ (d.live hand).map d.ticket → Closed (d.routine t) (d.hist t)
  unborn : ∀ t, d.sent ≤ t → d.hist t = []

structure SameMsgs (d d' : Dispr) : Prop where
  ticket : ∀ i, (d'.msgExPool i).ticket = (d.msgExPool i).ticket
  completion : ∀ i, (d'.msgExPool i).completion = (d.msgExPool i).completion
  notify : ∀ i, (d'.msgExPool i).status.notifyComplete = (d.msgExPool i).status.notifyComplete
  sent : d'.sent = d.sent
  routine : d'.routine = d.routine
  hist : d'.hist = d.hist
  idle : d'.msgIdleQ = d.msgIdleQ

lemma SameMsgs.refl (d : Dispr) : SameMsgs d d :=
  ⟨fun _ => rfl, fun _ => rfl, fun _ => rfl, rfl, rfl, rfl, rfl⟩

lemma SameMsgs.trans {d'' : Dispr} (h : SameMsgs d d') (k : SameMsgs d' d'') : SameMsgs d d'' :=
  ⟨fun i => (k.ticket i).trans (h.ticket i), fun i => (k.completion i).trans (h.completion i),
    fun i => (k.notify i).trans (h.notify i), k.sent.trans h.sent, k.routine.trans h.routine,
    k.hist.trans h.hist, k.idle.trans h.idle⟩

lemma Conserved.congr (h : d.Conserved hand c) (hs : SameMsgs d d')
    (hl : (d'.live hand').Perm (d.live hand)) : d'.Conserved hand' c := by
  have ht : d'.ticket = d.ticket := funext hs.ticket
  have hmap : ((d'.live hand').map d'.ticket).Perm ((d.live hand).map d.ticket) := by
    rw [ht]
    exact hl.map _
  refine ⟨?_, ?_, ?_, ?_, ?_⟩
  · rw [hs.idle]
    exact (hl.append_left _).trans h.slots
  · exact hmap.nodup_iff.2 h.tickets
  · intro i hi
    have hlive := h.alive i (hl.mem_iff.1 hi)
    refine ⟨?_, ?_, ?_, ?_, ?_⟩
    · rw [ht, hs.sent]
      exact hlive.sent
    · rw [ht, hs.hist]
      exact hlive.hist
    · rw [ht, hs.routine, hs.completion]
      exact hlive.routine
    · rw [hs.notify, hs.completion]
      exact hlive.notify
    · rw [hs.completion]
      exact hlive.running
  · intro t hlt hnot
    rw [hs.sent] at hlt
    rw [hs.routine, hs.hist]
    exact h.closed t hlt fun hmem => hnot (hmap.mem_iff.2 hmem)
  · intro t hle
    rw [hs.sent] at hle
    rw [hs.hist]
    exact h.unborn t hle

def queues (d : Dispr) : List ℕ × List ℕ := (d.msgWaitQ, d.msgPendQ)

lemma Conserved.same (h : d.Conserved hand c) (hs : SameMsgs d d') (hq : d'.queues = d.queues) :
    d'.Conserved hand c := by
  obtain ⟨hwait, hpend⟩ := Prod.ext_iff.1 hq
  dsimp only [queues] at hwait hpend
  refine h.congr hs ?_
  rw [live, hwait, hpend]
  exact List.Perm.refl _

lemma pool_modifyMsg (d : Dispr) (i j : ℕ) (f : MsgEx → MsgEx) :
    (d.modifyMsg i f).msgExPool j = if j = i then f (d.msgExPool i) else d.msgExPool j := by
  by_cases hj : j = i
  · subst hj
    simp [modifyMsg]
  · simp [modifyMsg, hj]

def rest (d : Dispr) : ℕ × (ℕ → Bool) × (ℕ → List MsgEvent) × List ℕ :=
  (d.sent, d.routine, d.hist, d.msgIdleQ)

lemma rest_eq (h : d'.rest = d.rest) :
    d'.sent = d.sent ∧ d'.routine = d.routine ∧ d'.hist = d.hist ∧ d'.msgIdleQ = d.msgIdleQ := by
  simpa only [rest, Prod.mk.injEq] using h

lemma SameMsgs.update {ex : MsgEx} (i : ℕ)
    (hpool : d'.msgExPool = Function.update d.msgExPool i ex)
    (hticket : ex.ticket = (d.msgExPool i).ticket)
    (hcompletion : ex.completion = (d.msgExPool i).completion)
    (hnotify : ex.status.notifyComplete = (d.msgExPool i).status.notifyComplete)
    (hrest : d'.rest = d.rest) : SameMsgs d d' := by
  obtain ⟨hsent, hroutine, hhist, hidle⟩ := rest_eq hrest
  have hj (j : ℕ) : d'.msgExPool j = if j = i then ex else d.msgExPool j := by
    rw [hpool, Function.update_apply]
  refine ⟨fun j => ?_, fun j => ?_, fun j => ?_, hsent, hroutine, hhist, hidle⟩
  all_goals
    rw [hj]
    split
    · next heq =>
      rw [heq]
      assumption
    · rfl

lemma SameMsgs.pool (hpool : d'.msgExPool = d.msgExPool) (hrest : d'.rest = d.rest) :
    SameMsgs d d' := by
  obtain ⟨hsent, hroutine, hhist, hidle⟩ := rest_eq hrest
  exact ⟨fun _ => by rw [hpool], fun _ => by rw [hpool], fun _ => by rw [hpool], hsent, hroutine,
    hhist, hidle⟩

section

variable (h : d.Conserved (i :: hand) c)
include h

lemma Conserved.pushBackWaitMsg :
    (d.pushBackWaitMsg i).Conserved hand c := by
  have hsame : SameMsgs d (d.pushBackWaitMsg i) :=
    .update i rfl rfl rfl rfl rfl
  refine h.congr hsame ?_
  simp only [live, Dispr.pushBackWaitMsg, append_assoc]
  refine List.Perm.append_left _ ?_
  change (i :: (d.msgPendQ ++ hand)).Perm _
  exact perm_middle.symm

lemma Conserved.insertMsgByPriority :
    (d.insertMsgByPriority i).Conserved hand c := by
  have hsame : SameMsgs d (d.insertMsgByPriority i) :=
    .update i rfl rfl rfl rfl rfl
  refine h.congr hsame ?_
  have hsplit (p : ℕ → Bool) : (d.msgWaitQ.takeWhile p ++ i :: d.msgWaitQ.dropWhile p).Perm
      (i :: d.msgWaitQ) := by
    refine perm_middle.trans ?_
    rw [takeWhile_append_dropWhile]
  refine List.Perm.trans (((hsplit _).append_right _).append_right _) ?_
  simp only [cons_append, live, append_assoc]
  rw [← append_assoc]
  refine perm_middle.symm.trans ?_
  rw [append_assoc]
  exact List.Perm.refl _

lemma Conserved.requeue : (d.requeue i).Conserved hand c := by
  dsimp only [Dispr.requeue]
  split
  · exact h.insertMsgByPriority
  · exact h.pushBackWaitMsg

end

lemma Conserved.foldl_queue {f : Dispr → ℕ → Dispr}
    (hf : ∀ {d : Dispr} {i : ℕ} {hand : List ℕ}, d.Conserved (i :: hand) c →
      (f d i).Conserved hand c) {q : List ℕ} (h : d.Conserved (q ++ hand) c) :
    (q.foldl f d).Conserved hand c := by
  induction q generalizing d with
  | nil => exact h
  | cons i q ih => exact ih (hf h)

lemma Conserved.takePend (h : d.Conserved hand c) (hs : SameMsgs d d')
    (hwait : d'.msgWaitQ = d.msgWaitQ) (hpend : d'.msgPendQ = []) :
    d'.Conserved (d.msgPendQ ++ hand) c := by
  refine h.congr hs ?_
  simp [live, hwait, hpend]

lemma Conserved.clearPendingMsg (h : d.Conserved hand c) :
    d.clearPendingMsg.Conserved hand c := by
  dsimp only [Dispr.clearPendingMsg]
  split
  · exact .foldl_queue Conserved.requeue
      (h.takePend (.pool rfl rfl) rfl rfl)
  · exact h

lemma Conserved.popFrontWaitMsg (h : d.Conserved hand c)
    (hpop : d.popFrontWaitMsg = some (i, d')) : d'.Conserved (i :: hand) c := by
  dsimp only [Dispr.popFrontWaitMsg] at hpop
  split at hpop
  · cases hpop
  next j q hq =>
  cases hpop
  refine h.congr (.update i rfl rfl rfl rfl rfl) ?_
  have hpend : (d.setStatus i MsgStatus.taken).msgPendQ = d.msgPendQ := rfl
  simp only [live, hq, hpend, cons_append, append_assoc]
  rw [← append_assoc]
  refine perm_middle.trans ?_
  rw [append_assoc]

lemma Conserved.pushBackPendingMsg (h : d.Conserved (i :: hand) c) :
    (d.pushBackPendingMsg i).Conserved hand c := by
  have hsame : SameMsgs d (d.pushBackPendingMsg i) := by
    dsimp only [Dispr.pushBackPendingMsg]
    split <;> exact .update i rfl rfl rfl rfl rfl
  have hwait : (d.pushBackPendingMsg i).msgWaitQ = d.msgWaitQ := by
    dsimp only [Dispr.pushBackPendingMsg]
    split <;> rfl
  have hpend : (d.pushBackPendingMsg i).msgPendQ = d.msgPendQ ++ [i] := by
    dsimp only [Dispr.pushBackPendingMsg]
    split <;> rfl
  refine h.congr hsame ?_
  simp only [live, hwait, hpend, append_assoc]
  exact List.Perm.refl _

lemma hist_note (d : Dispr) (t u : ℕ) (e : MsgEvent) :
    (d.note t e).hist u = if u = t then d.hist t ++ [e] else d.hist u := by
  by_cases hu : u = t
  · subst hu
    simp [note]
  · simp [note, hu]

lemma Conserved.complete (h : d.Conserved [i] none) (hc : (d.msgExPool i).completion = true) :
    (d.note (d.ticket i) .completed).Conserved [i] (some i) := by
  have hi : i ∈ d.live [i] := mem_append_right _ (mem_singleton.2 rfl)
  have hlive := h.alive i hi
  have hother {j : ℕ} (hj : j ∈ d.live [i]) (hji : j ≠ i) : d.ticket j ≠ d.ticket i := fun heq =>
    hji (inj_on_of_nodup_map h.tickets hj hi heq)
  refine ⟨h.slots, h.tickets, fun j hj => ?_, fun t ht hnot => ?_, fun t ht => ?_⟩
  · have hj' := h.alive j hj
    refine ⟨hj'.sent, ?_, hj'.routine, hj'.notify, ?_⟩
    · change (d.note (d.ticket i) .completed).hist (d.ticket j) = _
      rw [hist_note]
      by_cases hji : j = i
      · subst hji
        rw [if_pos rfl, if_pos rfl, hlive.hist]
        rfl
      · rw [if_neg (hother hj hji), if_neg (fun heq => hji (Option.some.inj heq).symm), hj'.hist]
        rfl
    · rintro heq
      cases heq
      exact hc
  · rw [hist_note, if_neg]
    · exact h.closed t ht hnot
    · rintro rfl
      exact hnot (mem_map_of_mem hi)
  · rw [hist_note, if_neg (Nat.ne_of_gt (lt_of_lt_of_le hlive.sent ht))]
    exact h.unborn t ht

lemma pool_pushIdle (d : Dispr) (i j : ℕ) :
    (d.pushIdle i).msgExPool j =
      if j = i then { d.msgExPool i with status := {}, msg := {} } else d.msgExPool j := by
  have hpool : (d.pushIdle i).msgExPool j =
      (((d.setStatus i fun _ => {}).setMsgId i fun _ => {}).msgExPool j) := by
    dsimp only [pushIdle]
    split <;> split <;> rfl
  rw [hpool]
  simp only [setMsgId, setStatus, pool_modifyMsg]
  split <;> rfl

lemma pushIdle_rest (d : Dispr) (i : ℕ) :
    (d.pushIdle i).sent = d.sent ∧ (d.pushIdle i).routine = d.routine ∧
      (d.pushIdle i).hist = (d.note (d.ticket i) .idle).hist ∧
      (d.pushIdle i).msgIdleQ = d.msgIdleQ ++ [i] ∧ (d.pushIdle i).msgWaitQ = d.msgWaitQ ∧
      (d.pushIdle i).msgPendQ = d.msgPendQ := by
  dsimp only [pushIdle]
  split <;> split <;> exact ⟨rfl, rfl, rfl, rfl, rfl, rfl⟩

lemma Conserved.pushIdle (h : d.Conserved [i] c) (hc : c = none ∨ c = some i)
    (hclosed : Closed (d.routine (d.ticket i)) (d.hist (d.ticket i) ++ [.idle])) :
    (d.pushIdle i).Conserved [] none := by
  obtain ⟨hsent, hroutine, hhistEq, hidle, hwait, hpend⟩ := pushIdle_rest d i
  have hi : i ∈ d.live [i] := mem_append_right _ (mem_singleton.2 rfl)
  have hlive := h.alive i hi
  have ht : (d.pushIdle i).ticket = d.ticket := by
    funext j
    rw [ticket, pool_pushIdle]
    split
    · next hj => rw [hj]; rfl
    · rfl
  have hsplit : d.live [i] = (d.msgWaitQ ++ d.msgPendQ) ++ [i] := rfl
  have hlive' : (d.pushIdle i).live [] = d.msgWaitQ ++ d.msgPendQ := by
    simp [live, hwait, hpend]
  have hhist (u : ℕ) : (d.pushIdle i).hist u =
      if u = d.ticket i then d.hist (d.ticket i) ++ [.idle] else d.hist u := by
    rw [hhistEq, hist_note]
  have htickets := h.tickets
  rw [hsplit, map_append, nodup_append] at htickets
  have hne {j : ℕ} (hj : j ∈ d.msgWaitQ ++ d.msgPendQ) : d.ticket j ≠ d.ticket i :=
    htickets.2.2 _ (mem_map_of_mem hj) _ (by simp)
  refine ⟨?_, ?_, fun j hj => ?_, fun t htlt hnot => ?_, fun t hle => ?_⟩
  · rw [hidle, hlive']
    refine List.Perm.trans ?_ h.slots
    rw [hsplit, append_assoc]
    exact List.Perm.append_left _ perm_append_comm
  · rw [hlive', ht]
    exact htickets.1
  · rw [hlive'] at hj
    have hji : j ≠ i := by
      rintro rfl
      exact hne hj rfl
    have hj' := h.alive j (mem_append_left _ hj)
    have hpool : (d.pushIdle i).msgExPool j = d.msgExPool j := by rw [pool_pushIdle, if_neg hji]
    refine ⟨?_, ?_, ?_, ?_, nofun⟩
    · rw [ht, hsent]
      exact hj'.sent
    · rw [ht, hhist, if_neg (hne hj), hj'.hist, if_neg]
      · rfl
      · rintro rfl
        rcases hc with hc | hc
        · cases hc
        · exact hji (Option.some.inj hc)
    · rw [ht, hroutine, hpool]
      exact hj'.routine
    · rw [hpool]
      exact hj'.notify
  · rw [hlive', ht] at hnot
    rw [hsent] at htlt
    rw [hroutine, hhist]
    split
    · next heq =>
      rw [heq]
      exact hclosed
    · next hti =>
      refine h.closed t htlt ?_
      rw [hsplit, map_append, mem_append, not_or]
      exact ⟨hnot, by simpa using hti⟩
  · rw [hsent] at hle
    rw [hhist, if_neg (Nat.ne_of_gt (lt_of_lt_of_le hlive.sent hle))]
    exact h.unborn t hle

def Settled (d : Dispr) : Prop := d.Conserved d.pc.hand d.pc.completing

lemma settled_goto {p : Pc} (h : d.Conserved p.hand p.completing) : (d.goto p).Settled :=
  h.same (.pool rfl rfl) rfl

lemma settled_pushBackIdleMsg (h : d.Conserved [i] none) (leaving : Bool) :
    (d.pushBackIdleMsg i leaving).Settled ∧
      (d.pushBackIdleMsg i leaving).pc.leaving = leaving := by
  have hlive := h.alive i (mem_append_right _ (mem_singleton.2 rfl))
  dsimp only [pushBackIdleMsg]
  split
  · next hnotify =>
    rw [Bool.and_eq_true] at hnotify
    refine ⟨settled_goto ?_, rfl⟩
    split
    · have hind : (d.setMsgId i fun m => { m with indcCancel := true }).Conserved [i] none :=
        h.same (.update i rfl rfl rfl rfl rfl) rfl
      have ht : (d.setMsgId i fun m => { m with indcCancel := true }).ticket i = d.ticket i := by
        simp [ticket, setMsgId, pool_modifyMsg]
      have hcomplete := hind.complete (by simp [setMsgId, pool_modifyMsg, hnotify.2])
      rw [ht] at hcomplete
      exact hcomplete
    · exact h.complete hnotify.2
  · next hnotify =>
    rw [hlive.notify, Bool.and_self, Bool.not_eq_true] at hnotify
    have hidle : (d.pushIdle i).Conserved [] none := by
      refine h.pushIdle (.inl rfl) ?_
      rw [hlive.routine, hlive.hist, hnotify]
      exact .silent
    cases leaving with
    | true => exact ⟨settled_goto hidle, rfl⟩
    | false => exact ⟨settled_goto hidle, rfl⟩

/-- A step of the thread that handles the message in slot `i` leads to a place where the
slots are conserved, and the thread does not leave. -/
def Handled (d : Dispr) : Prop := d.Settled ∧ d.pc.leaving = false

lemma handled_goto {p : Pc} (h : d.Conserved p.hand p.completing) (hp : p.leaving = false) :
    (d.goto p).Handled := ⟨settled_goto h, hp⟩

section

variable (h : d.Conserved [i] none)
include h

lemma handled_recycle (outcome : Outcome) :
    (d.recycle i outcome).Handled := by
  apply settled_pushBackIdleMsg
  exact h.same (.pool rfl rfl) rfl

lemma handled_redirectChk {k : Dispr → Dispr} (hk : (k d).Handled) :
    (d.redirectChk i k).Handled := by
  dsimp only [redirectChk]
  split
  · exact handled_recycle h _
  split
  · exact handled_goto (p := .loop) h.pushBackPendingMsg rfl
  · exact hk

lemma handled_stop
    (hs : (d.msgExPool i).status.fail = true ∨ (d.msgExPool i).status.pending = true) :
    (d.redirectChk i id).Handled := by
  dsimp only [redirectChk]
  split
  · exact handled_recycle h _
  next hfail =>
  split
  · exact handled_goto (p := .loop) h.pushBackPendingMsg rfl
  next hpending =>
  rcases hs with hs | hs
  · rw [hs, Bool.true_or] at hfail
    exact absurd rfl hfail
  · exact absurd hs hpending

lemma handled_invalidBitmap : (d.invalidBitmap i).Handled := by
  apply handled_recycle
  exact h.same (.update i rfl rfl rfl rfl rfl) rfl

lemma handled_postPhaseDone (pre : Bool) :
    (d.postPhaseDone i pre).Handled := by
  refine handled_redirectChk h ?_
  split
  · split
    · exact handled_recycle h _
    · exact handled_goto (p := .curReq i) (h.same (.update i rfl rfl rfl rfl rfl) rfl) rfl
  · exact handled_invalidBitmap h

lemma handled_msgPostPhaseHdl (rest : List Module) :
    (d.msgPostPhaseHdl i rest).Handled := by
  induction rest with
  | nil => exact handled_postPhaseDone h false
  | cons m rest ih =>
    dsimp only [msgPostPhaseHdl]
    split
    · exact handled_goto (p := .feed i m (.post rest)) h rfl
    · exact ih

lemma handled_postPhase (pre : Bool) :
    (d.postPhase i pre).Handled := by
  dsimp only [postPhase]
  split
  · exact handled_postPhaseDone h pre
  · exact handled_msgPostPhaseHdl h _

end

lemma Conserved.getMsgBitmap (h : d.Conserved hand c) (i : ℕ) :
    (d.getMsgBitmap i).Conserved hand c := h.same (.update i rfl rfl rfl rfl rfl) rfl

section

variable (h : d.Conserved [i] none)
include h

lemma handled_prePhaseDone : (d.prePhaseDone i).Handled := by
  refine handled_redirectChk h ?_
  split
  · refine handled_postPhase (Conserved.getMsgBitmap ?_ i) false
    exact h.same (.update i rfl rfl rfl rfl rfl) rfl
  · exact handled_invalidBitmap h

lemma handled_msgPrePhaseHdl (rest : List Module) :
    (d.msgPrePhaseHdl i rest).Handled := by
  induction rest with
  | nil => exact handled_prePhaseDone h
  | cons m rest ih =>
    dsimp only [msgPrePhaseHdl]
    split
    · exact handled_goto (p := .feed i m (.pre rest)) h rfl
    · exact ih

lemma handled_ctrlDone : (d.ctrlDone i).Handled := by
  refine handled_redirectChk h ?_
  dsimp only
  split
  · exact handled_msgPrePhaseHdl h _
  · exact handled_postPhase h _

lemma handled_msgDispatch : (d.msgDispatch i).Handled := by
  refine handled_redirectChk (h.getMsgBitmap i) ?_
  split
  · exact handled_goto (p := .feed i ⟨phlMdlPhyMgnt, true⟩ .ctrl) (h.getMsgBitmap i) rfl
  · exact handled_ctrlDone (h.getMsgBitmap i)

end

lemma same_isMsgCanceled (d : Dispr) (i : ℕ) : SameMsgs d (d.isMsgCanceled i).2 := by
  have hcancel (f : MsgId → MsgId) : SameMsgs d ((d.setMsgId i f).setStatus i
      fun s => { s with cancel := true }) :=
    (.update i rfl rfl rfl rfl rfl : SameMsgs d (d.setMsgId i f)).trans (.update i rfl rfl rfl rfl rfl)
  dsimp only [isMsgCanceled]
  split
  · exact .refl d
  split
  · exact hcancel _
  split
  · exact hcancel _
  split
  · split
    · exact .update i rfl rfl rfl rfl rfl
    split
    · exact hcancel _
    · exact .update i rfl rfl rfl rfl rfl
  · exact .refl d

lemma isMsgCanceled_queues (d : Dispr) (i : ℕ) : (d.isMsgCanceled i).2.queues = d.queues := by
  dsimp only [isMsgCanceled]
  split
  · rfl
  split
  · rfl
  split
  · rfl
  split
  · split
    · rfl
    split <;> rfl
  · rfl

lemma handled_handleMsg (h : d.Conserved [] none) : d.handleMsg.Handled := by
  dsimp only [handleMsg]
  split
  · exact handled_goto (p := .loop) h rfl
  next i d₁ hpop =>
  have htaken := h.popFrontWaitMsg hpop
  have hcancel := htaken.same (same_isMsgCanceled d₁ i) (isMsgCanceled_queues d₁ i)
  split
  · next heq =>
    rw [heq] at hcancel
    exact handled_recycle hcancel _
  · next heq =>
    rw [heq] at hcancel
    exact handled_msgDispatch (hcancel.same (.update i rfl rfl rfl rfl rfl) rfl)

lemma status_modifyMsg (d : Dispr) (i : ℕ) (f : MsgEx → MsgEx) :
    (d.modifyMsg i f).msgExPool i = f (d.msgExPool i) := by
  rw [pool_modifyMsg, if_pos rfl]

lemma handled_notifyFailReq (h : d.Conserved [i] none)
    (hfail : (d.msgExPool i).status.fail = true) : (d.notifyFailReq i).Handled := by
  dsimp only [notifyFailReq]
  split
  · exact handled_goto (p := .failReq i) h rfl
  · exact handled_stop h (.inl hfail)

lemma handled_notifyMsgFail (h : d.Conserved [i] none) (ret : MdlRet) :
    (d.notifyMsgFail i ret).Handled := by
  dsimp only [notifyMsgFail]
  split
  · exact handled_goto (p := .failOwner i) (h.same (.update i rfl rfl rfl rfl rfl) rfl) rfl
  · refine handled_notifyFailReq (h.same (.update i rfl rfl rfl rfl rfl) rfl) ?_
    rw [status_modifyMsg]

lemma handled_fed (h : d.Conserved [i] none) (m : Module) (walk : Walk) (ret : MdlRet) :
    (d.fed i m walk ret).Handled := by
  have hlog : (d.logNotice i m walk ret).Conserved [i] none := by
    cases walk with
    | ctrl => exact h
    | pre rest => exact h.same (.update i rfl rfl rfl rfl rfl) rfl
    | post rest => exact h.same (.update i rfl rfl rfl rfl rfl) rfl
  have hclr : ((d.logNotice i m walk ret).clrModuleBit i m).Conserved [i] none := by
    refine hlog.same (.update i rfl ?_ ?_ ?_ rfl) rfl
    all_goals
      dsimp only
      split <;> rfl
  have hnext : (((d.logNotice i m walk ret).clrModuleBit i m).fedNext i walk).Handled := by
    cases walk with
    | ctrl => exact handled_ctrlDone hclr
    | pre rest => exact handled_msgPrePhaseHdl hclr rest
    | post rest => exact handled_msgPostPhaseHdl hclr rest
  dsimp only [fed]
  cases ret with
  | fail => exact handled_notifyMsgFail hlog _
  | cannotIo => exact handled_notifyMsgFail hlog _
  | pending =>
    refine handled_stop (hlog.same (.update i rfl rfl rfl rfl rfl) rfl) (.inr ?_)
    rw [setStatus, status_modifyMsg]
  | success => exact hnext
  | ignore => exact hnext

end Dispr

end Rtl8831.Phl.DisprMsg
