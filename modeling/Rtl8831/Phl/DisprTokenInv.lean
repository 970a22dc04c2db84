import Rtl8831.Phl.DisprToken

/-!
# What holds of the tokens of one dispatcher

Three groups of facts, of the slots, of the history of the requests and of the queued
operations, each kept by everything that is done to a dispatcher.  What the thread has
in hand while it is in a callback is a parameter: a slot that stands in no queue, how
the current request has ended while it is still current, and the operation in work.
-/

namespace Rtl8831.Phl.CmdDispr

open List Option

structure Hold where
  slot : Option ℕ := none
  ending : Option ReqEvent := none
  op : Option OpNode := none

inductive Ended : List ReqEvent → Prop
  | removed : Ended [.added, .aborted]
  | freed : Ended [.added, .acquired, .freed]
  | aborted : Ended [.added, .acquired, .aborted]
  | failed : Ended [.added, .acquired, .failed]

namespace Dispr

variable {d d' : Dispr} {x : Hold} {e : Option ReqEvent} {i j t : ℕ} {n m : OpNode}

def waiting (d : Dispr) : List ℕ := d.tokenReqWaitQ.map d.ticket

structure Queues (d : Dispr) (slot : Option ℕ) : Prop where
  slots : (d.tokenReqIdleQ ++ d.tokenReqWaitQ ++ d.curCmdReq.toList ++ slot.toList).Perm
    (range maxCmdReqNum)
  count : d.tokenCnt = d.curCmdReq.toList.length
  enq : ∀ i, slot ≠ some i → (d.tokenReqExPool i).status.enq = true → i ∈ d.tokenReqWaitQ
  run : ∀ i, (d.tokenReqExPool i).status.run = true → d.curCmdReq = some i

structure History (d : Dispr) (ending : Option ReqEvent) : Prop where
  order : (d.granted ++ d.waiting).Pairwise (· < ·)
  below : ∀ t ∈ d.granted ++ d.waiting, t < d.added
  last : ∀ i, d.curCmdReq = some i → d.granted.getLast? = some (d.ticket i)
  unborn : ∀ t, d.added ≤ t → d.hist t = []
  waits : ∀ t ∈ d.waiting, d.hist t = [.added]
  current : ∀ i, d.curCmdReq = some i →
    d.hist (d.ticket i) = .added :: .acquired :: ending.toList
  ended : ∀ t < d.added, t ∉ d.waiting → (∀ i, d.curCmdReq = some i → t ≠ d.ticket i) →
    Ended (d.hist t)
  acquired : ∀ t, .acquired ∈ d.hist t ↔ t ∈ d.granted
  freed : ∀ t, .freed ∈ d.hist t → t ∈ d.freeAsked
  aborted : ∀ t, .aborted ∈ d.hist t → t ∈ d.cancelAsked ∨ t ∈ d.stopAborted

def Asked (d : Dispr) (n : OpNode) (info : TokenOpInfo) : Prop :=
  match n with
  | .addReqInfo _ => info.type = some .addCmdReq
  | .renewReqInfo => info.type = some .renewCmdReq
  | .freeReqInfo i => info.data = i ∧
      (info.type = some .freeCmdReq ∧ d.ticket i ∈ d.freeAsked ∨
        info.type = some .cancelCmdReq ∧ d.ticket i ∈ d.cancelAsked)

structure Ops (d : Dispr) (op : Option OpNode) : Prop where
  nodup : (d.tokenOpQ ++ op.toList).Nodup
  used : ∀ n ∈ d.tokenOpQ ++ op.toList, (d.opInfo n).used = true
  asked : ∀ n ∈ d.tokenOpQ ++ op.toList, d.Asked n (d.opInfo n)

structure Lawful (d : Dispr) (x : Hold) : Prop where
  queues : d.Queues x.slot
  history : d.History x.ending
  ops : d.Ops x.op

/-! ## What each group depends on -/

structure Frame (d d' : Dispr) : Prop where
  wait : d'.tokenReqWaitQ = d.tokenReqWaitQ
  cur : d'.curCmdReq = d.curCmdReq
  added : d'.added = d.added
  granted : d'.granted = d.granted
  hist : d'.hist = d.hist
  ticket : d'.ticket = d.ticket
  free : d.freeAsked ⊆ d'.freeAsked
  cancel : d.cancelAsked ⊆ d'.cancelAsked
  stop : d.stopAborted ⊆ d'.stopAborted

def reqs (d : Dispr) : List ℕ × Option ℕ × ℕ × List ℕ × (ℕ → List ReqEvent) :=
  (d.tokenReqWaitQ, d.curCmdReq, d.added, d.granted, d.hist)

def asked (d : Dispr) : List ℕ × List ℕ × List ℕ := (d.freeAsked, d.cancelAsked, d.stopAborted)

lemma Frame.of_asked (hreqs : d'.reqs = d.reqs) (hticket : d'.ticket = d.ticket)
    (hfree : d.freeAsked ⊆ d'.freeAsked) (hcancel : d.cancelAsked ⊆ d'.cancelAsked)
    (hstop : d.stopAborted ⊆ d'.stopAborted) : Frame d d' := by
  obtain ⟨hwait, hcur, hadded, hgranted, hhist⟩ :
      d'.tokenReqWaitQ = d.tokenReqWaitQ ∧ d'.curCmdReq = d.curCmdReq ∧ d'.added = d.added ∧
        d'.granted = d.granted ∧ d'.hist = d.hist := by
    simpa only [reqs, Prod.mk.injEq] using hreqs
  exact ⟨hwait, hcur, hadded, hgranted, hhist, hticket, hfree, hcancel, hstop⟩

lemma Frame.of_eq (hreqs : d'.reqs = d.reqs) (hticket : d'.ticket = d.ticket)
    (hasked : d'.asked = d.asked) : Frame d d' := by
  obtain ⟨hfree, hcancel, hstop⟩ :
      d'.freeAsked = d.freeAsked ∧ d'.cancelAsked = d.cancelAsked ∧
        d'.stopAborted = d.stopAborted := by
    simpa only [asked, Prod.mk.injEq] using hasked
  refine .of_asked hreqs hticket ?_ ?_ ?_
  · rw [hfree]
    exact List.Subset.refl _
  · rw [hcancel]
    exact List.Subset.refl _
  · rw [hstop]
    exact List.Subset.refl _

lemma Frame.waiting (f : Frame d d') : d'.waiting = d.waiting := by
  simp only [Dispr.waiting, f.ticket, f.wait]

variable {o : Option ℕ} {q : List ℕ} {r : ReqEvent}

lemma Queues.congr (h : d.Queues o) (f : Frame d d')
    (henq : ∀ i, o ≠ some i → (d'.tokenReqExPool i).status.enq = true →
      (d.tokenReqExPool i).status.enq = true)
    (hrun : ∀ i, (d'.tokenReqExPool i).status.run = true →
      (d.tokenReqExPool i).status.run = true)
    (hidle : d'.tokenReqIdleQ = d.tokenReqIdleQ) (hcnt : d'.tokenCnt = d.tokenCnt) : d'.Queues o := by
  refine ⟨?_, ?_, ?_, ?_⟩
  · rw [hidle, f.wait, f.cur]
    exact h.slots
  · rw [hcnt, f.cur]
    exact h.count
  · intro i hi hs
    rw [f.wait]
    exact h.enq i hi (henq i hi hs)
  · intro i hs
    rw [f.cur]
    exact h.run i (hrun i hs)

lemma History.congr (h : d.History e) (f : Frame d d') : d'.History e := by
  refine ⟨?_, ?_, ?_, ?_, ?_, ?_, ?_, ?_, ?_, ?_⟩
  · rw [f.granted, f.waiting]
    exact h.order
  · rw [f.granted, f.waiting, f.added]
    exact h.below
  · rw [f.cur, f.granted, f.ticket]
    exact h.last
  · rw [f.added, f.hist]
    exact h.unborn
  · rw [f.waiting, f.hist]
    exact h.waits
  · rw [f.cur, f.hist, f.ticket]
    exact h.current
  · rw [f.added, f.waiting, f.cur, f.ticket, f.hist]
    exact h.ended
  · rw [f.hist, f.granted]
    exact h.acquired
  · rw [f.hist]
    exact fun t ht => f.free (h.freed t ht)
  · rw [f.hist]
    exact fun t ht => (h.aborted t ht).imp (fun hc => f.cancel hc) fun hs => f.stop hs

lemma Asked.mono {info : TokenOpInfo} (h : d.Asked n info) (hticket : d'.ticket = d.ticket)
    (hfree : d.freeAsked ⊆ d'.freeAsked) (hcancel : d.cancelAsked ⊆ d'.cancelAsked) :
    d'.Asked n info := by
  cases n with
  | addReqInfo i => exact h
  | renewReqInfo => exact h
  | freeReqInfo i =>
    obtain ⟨hdata, ⟨htype, hask⟩ | ⟨htype, hask⟩⟩ := h
    · exact ⟨hdata, .inl ⟨htype, hticket ▸ hfree hask⟩⟩
    · exact ⟨hdata, .inr ⟨htype, hticket ▸ hcancel hask⟩⟩

lemma Ops.congr {o : Option OpNode} (h : d.Ops o) (hticket : d'.ticket = d.ticket)
    (hinfo : ∀ n, d'.opInfo n = d.opInfo n) (hq : d'.tokenOpQ = d.tokenOpQ)
    (hfree : d.freeAsked ⊆ d'.freeAsked) (hcancel : d.cancelAsked ⊆ d'.cancelAsked) :
    d'.Ops o := by
  refine ⟨?_, ?_, ?_⟩
  · rw [hq]
    exact h.nodup
  · intro n hn
    rw [hinfo]
    rw [hq] at hn
    exact h.used n hn
  · intro n hn
    rw [hinfo]
    rw [hq] at hn
    exact (h.asked n hn).mono hticket hfree hcancel

lemma Lawful.setStatus (h : d.Lawful x) (s : DisprStatus) : { d with status := s }.Lawful x :=
  ⟨h.queues.congr (.of_eq rfl rfl rfl) (fun _ _ hs => hs) (fun _ hr => hr) rfl rfl,
    h.history.congr (.of_eq rfl rfl rfl),
    h.ops.congr rfl (fun n => by cases n <;> rfl) rfl (List.Subset.refl _)
      (List.Subset.refl _)⟩

lemma Lawful.setAbortMsgs (h : d.Lawful x) (k : ℕ) : { d with abortMsgs := k }.Lawful x :=
  ⟨h.queues.congr (.of_eq rfl rfl rfl) (fun _ _ hs => hs) (fun _ hr => hr) rfl rfl,
    h.history.congr (.of_eq rfl rfl rfl),
    h.ops.congr rfl (fun n => by cases n <;> rfl) rfl (List.Subset.refl _)
      (List.Subset.refl _)⟩

/-! ## Slots of the pool -/

lemma pool_modifyReq (d : Dispr) (i j : ℕ) (f : TokenReqEx → TokenReqEx) :
    (d.modifyReq i f).tokenReqExPool j =
      if j = i then f (d.tokenReqExPool i) else d.tokenReqExPool j := by
  by_cases hj : j = i
  · subst hj
    simp [modifyReq]
  · simp [modifyReq, hj]

lemma ticket_modifyReq (d : Dispr) (i : ℕ) (f : TokenReqEx → TokenReqEx)
    (hf : (f (d.tokenReqExPool i)).req = (d.tokenReqExPool i).req) :
    (d.modifyReq i f).ticket = d.ticket := by
  funext j
  simp only [ticket, pool_modifyReq]
  split
  · next hj => rw [hj, hf]
  · rfl

@[simp] lemma ticket_setReqStatus (d : Dispr) (i : ℕ) (f : ReqStatus → ReqStatus) :
    (d.setReqStatus i f).ticket = d.ticket := ticket_modifyReq d i _ rfl

@[simp] lemma opInfo_setReqStatus (d : Dispr) (i : ℕ) (f : ReqStatus → ReqStatus) (n : OpNode) :
    (d.setReqStatus i f).opInfo n = d.opInfo n := by
  cases n with
  | addReqInfo j =>
    simp only [opInfo, setReqStatus, pool_modifyReq]
    split
    · next hj => rw [hj]
    · rfl
  | freeReqInfo j =>
    simp only [opInfo, setReqStatus, pool_modifyReq]
    split
    · next hj => rw [hj]
    · rfl
  | renewReqInfo => rfl

lemma status_setReqStatus (d : Dispr) (i j : ℕ) (f : ReqStatus → ReqStatus) :
    ((d.setReqStatus i f).tokenReqExPool j).status =
      if j = i then f (d.tokenReqExPool i).status else (d.tokenReqExPool j).status := by
  simp only [setReqStatus, pool_modifyReq]
  split <;> rfl

lemma Lawful.setReqStatus (h : d.Lawful x) (i : ℕ) {f : ReqStatus → ReqStatus}
    (henq : (f (d.tokenReqExPool i).status).enq = true →
      (d.tokenReqExPool i).status.enq = true)
    (hrun : (f (d.tokenReqExPool i).status).run = true →
      (d.tokenReqExPool i).status.run = true) : (d.setReqStatus i f).Lawful x := by
  have hframe : Frame d (d.setReqStatus i f) := .of_eq rfl (ticket_setReqStatus d i f) rfl
  refine ⟨h.queues.congr hframe (fun j _ hs => ?_) (fun j hr => ?_) rfl rfl, h.history.congr hframe,
    h.ops.congr (ticket_setReqStatus d i f) (opInfo_setReqStatus d i f) rfl (List.Subset.refl _)
      (List.Subset.refl _)⟩
  · rw [status_setReqStatus] at hs
    split at hs
    · next hj =>
        rw [hj]
        exact henq hs
    · exact hs
  · rw [status_setReqStatus] at hr
    split at hr
    · next hj =>
        rw [hj]
        exact hrun hr
    · exact hr

lemma Lawful.cancelAllCmdReq (h : d.Lawful x) : d.cancelAllCmdReq.Lawful x := by
  have hreq (i : ℕ) : (d.cancelAllCmdReq.tokenReqExPool i).req = (d.tokenReqExPool i).req := by
    dsimp only [Dispr.cancelAllCmdReq]
    split <;> rfl
  have hticket : d.cancelAllCmdReq.ticket = d.ticket :=
    funext fun i => congrArg CmdTokenReq.ticket (hreq i)
  have hinfo (n : OpNode) : d.cancelAllCmdReq.opInfo n = d.opInfo n := by
    cases n with
    | addReqInfo i =>
      dsimp only [opInfo, Dispr.cancelAllCmdReq]
      split <;> rfl
    | freeReqInfo i =>
      dsimp only [opInfo, Dispr.cancelAllCmdReq]
      split <;> rfl
    | renewReqInfo => rfl
  have hframe : Frame d d.cancelAllCmdReq := .of_eq rfl hticket rfl
  refine ⟨h.queues.congr hframe (fun i _ hs => ?_) (fun i hr => ?_) rfl rfl, h.history.congr hframe,
    h.ops.congr hticket hinfo rfl (List.Subset.refl _)
      (List.Subset.refl _)⟩
  · dsimp only [Dispr.cancelAllCmdReq] at hs
    split at hs
    · exact hs
    · exact hs
  · dsimp only [Dispr.cancelAllCmdReq] at hr
    split at hr
    · exact hr
    · exact hr

/-! ## The operation queue -/

lemma opInfo_setOpInfo (d : Dispr) (n m : OpNode) (info : TokenOpInfo) :
    (d.setOpInfo n info).opInfo m = if m = n then info else d.opInfo m := by
  cases n with
  | addReqInfo i =>
    cases m with
    | addReqInfo j =>
      simp only [setOpInfo, opInfo, pool_modifyReq, OpNode.addReqInfo.injEq]
      split <;> rfl
    | freeReqInfo j =>
      simp only [setOpInfo, opInfo, pool_modifyReq, reduceCtorEq, if_false]
      split
      · next hj => rw [hj]
      · rfl
    | renewReqInfo => rfl
  | freeReqInfo i =>
    cases m with
    | addReqInfo j =>
      simp only [setOpInfo, opInfo, pool_modifyReq, reduceCtorEq, if_false]
      split
      · next hj => rw [hj]
      · rfl
    | freeReqInfo j =>
      simp only [setOpInfo, opInfo, pool_modifyReq, OpNode.freeReqInfo.injEq]
      split <;> rfl
    | renewReqInfo => rfl
  | renewReqInfo => cases m <;> rfl

lemma frame_setOpInfo (d : Dispr) (n : OpNode) (info : TokenOpInfo) :
    Frame d (d.setOpInfo n info) := by
  cases n with
  | addReqInfo i =>
    exact .of_eq rfl (ticket_modifyReq d i (fun r => { r with addReqInfo := info }) rfl) rfl
  | freeReqInfo i =>
    exact .of_eq rfl (ticket_modifyReq d i (fun r => { r with freeReqInfo := info }) rfl) rfl
  | renewReqInfo => exact .of_eq rfl rfl rfl

@[simp] lemma tokenOpQ_setOpInfo (d : Dispr) (n : OpNode) (info : TokenOpInfo) :
    (d.setOpInfo n info).tokenOpQ = d.tokenOpQ := by
  cases n <;> rfl

lemma status_setOpInfo (d : Dispr) (n : OpNode) (info : TokenOpInfo) (j : ℕ) :
    ((d.setOpInfo n info).tokenReqExPool j).status = (d.tokenReqExPool j).status := by
  cases n with
  | addReqInfo i =>
    simp only [setOpInfo, pool_modifyReq]
    split
    · next hj => rw [hj]
    · rfl
  | freeReqInfo i =>
    simp only [setOpInfo, pool_modifyReq]
    split
    · next hj => rw [hj]
    · rfl
  | renewReqInfo => rfl

lemma Queues.setOpInfo (h : d.Queues o) (n : OpNode) (info : TokenOpInfo) :
    (d.setOpInfo n info).Queues o :=
  h.congr (frame_setOpInfo d n info) (fun j _ hs => by rwa [status_setOpInfo] at hs)
    (fun j hr => by rwa [status_setOpInfo] at hr) (by cases n <;> rfl) (by cases n <;> rfl)

def Fits (n : OpNode) (type : TokenOpType) (data : ℕ) : Prop :=
  match n with
  | .addReqInfo _ => type = .addCmdReq
  | .renewReqInfo => type = .renewCmdReq
  | .freeReqInfo i => data = i ∧ (type = .freeCmdReq ∨ type = .cancelCmdReq)

lemma frame_noteAsked (d : Dispr) (type : TokenOpType) (i : ℕ) :
    Frame d (d.noteAsked type i) := by
  have hsub (p : Prop) [Decidable p] (l : List ℕ) (t : ℕ) :
      l ⊆ if p then l ++ [t] else l := by
    split
    · exact subset_append_left _ _
    · exact List.Subset.refl _
  exact .of_asked rfl rfl (hsub _ _ _) (hsub _ _ _) (List.Subset.refl _)

lemma Frame.trans {d'' : Dispr} (f : Frame d d') (g : Frame d' d'') : Frame d d'' :=
  ⟨g.wait.trans f.wait, g.cur.trans f.cur, g.added.trans f.added,
    g.granted.trans f.granted, g.hist.trans f.hist, g.ticket.trans f.ticket, List.Subset.trans f.free g.free,
    List.Subset.trans f.cancel g.cancel, List.Subset.trans f.stop g.stop⟩

lemma Lawful.pushBackTokenOpInfo (h : d.Lawful x) {type : TokenOpType} {data : ℕ}
    (hn : Fits n type data) : (d.pushBackTokenOpInfo n type data).2.Lawful x := by
  dsimp only [Dispr.pushBackTokenOpInfo]
  split
  · exact h
  next hused =>
  have hfree : n ∉ d.tokenOpQ ++ x.op.toList := fun hmem => hused (h.ops.used n hmem)
  have hset := frame_setOpInfo d n ⟨true, some type, data⟩
  have hframe : Frame d { (d.setOpInfo n ⟨true, some type, data⟩).noteAsked type data with
      tokenOpQ := d.tokenOpQ ++ [n] } :=
    hset.trans <| (frame_noteAsked _ type data).trans (.of_eq rfl rfl rfl)
  have hperm : (d.tokenOpQ ++ [n] ++ x.op.toList).Perm (n :: (d.tokenOpQ ++ x.op.toList)) := by
    rw [append_assoc]
    exact perm_middle
  have hinfo (m : OpNode) : Dispr.opInfo { (d.setOpInfo n ⟨true, some type, data⟩).noteAsked
      type data with tokenOpQ := d.tokenOpQ ++ [n] } m =
        if m = n then ⟨true, some type, data⟩ else d.opInfo m := by
    rw [← opInfo_setOpInfo]
    cases m <;> rfl
  refine ⟨(h.queues.setOpInfo n _).congr ((frame_noteAsked _ type data).trans (.of_eq rfl rfl rfl))
    (fun _ _ hs => hs) (fun _ hr => hr) rfl rfl, h.history.congr hframe, ?_, ?_, ?_⟩
  · rw [hperm.nodup_iff, nodup_cons]
    exact ⟨hfree, h.ops.nodup⟩
  · intro m hm
    rw [hinfo]
    split
    · rfl
    · next hmn =>
        apply h.ops.used
        exact (mem_cons.1 (hperm.mem_iff.1 hm)).resolve_left hmn
  · intro m hm
    rw [hinfo]
    split
    · next hmn =>
        subst hmn
        cases m with
        | addReqInfo i => exact congrArg some hn
        | renewReqInfo => exact congrArg some hn
        | freeReqInfo i =>
          obtain ⟨rfl, rfl | rfl⟩ := hn
          · refine ⟨rfl, .inl ⟨rfl, ?_⟩⟩
            rw [hframe.ticket]
            simp [noteAsked, hset.ticket]
          · refine ⟨rfl, .inr ⟨rfl, ?_⟩⟩
            rw [hframe.ticket]
            simp [noteAsked, hset.ticket]
    · next hmn =>
        have hold := (mem_cons.1 (hperm.mem_iff.1 hm)).resolve_left hmn
        exact (h.ops.asked m hold).mono hframe.ticket hframe.free hframe.cancel

lemma pushBackTokenOpInfo_quiet (d : Dispr) (n : OpNode) (type : TokenOpType) (data : ℕ) :
    (d.pushBackTokenOpInfo n type data).2.tokenReqWaitQ = d.tokenReqWaitQ ∧
      (d.pushBackTokenOpInfo n type data).2.curCmdReq = d.curCmdReq ∧
      (d.pushBackTokenOpInfo n type data).2.tokenCnt = d.tokenCnt ∧
      (d.pushBackTokenOpInfo n type data).2.status = d.status := by
  dsimp only [pushBackTokenOpInfo]
  split
  · exact ⟨rfl, rfl, rfl, rfl⟩
  · cases n <;> exact ⟨rfl, rfl, rfl, rfl⟩

lemma opDone_status (d : Dispr) (n : OpNode) : (d.opDone n).status = d.status := by
  cases n <;> rfl

lemma Lawful.enqueueRenew (h : d.Lawful x) : d.enqueueRenew.Lawful x :=
  h.pushBackTokenOpInfo rfl

lemma Lawful.popFrontTokenOpInfo (h : d.Lawful x) (hop : x.op = none)
    (hpop : d.popFrontTokenOpInfo = some (n, d')) : d'.Lawful { x with op := some n } := by
  dsimp only [Dispr.popFrontTokenOpInfo] at hpop
  split at hpop
  · cases hpop
  next m q hq =>
  cases hpop
  have hperm : (q ++ [n]).Perm (d.tokenOpQ ++ x.op.toList) := by
    rw [hq, hop]
    simp
  refine ⟨h.queues.congr (.of_eq rfl rfl rfl) (fun _ _ hs => hs) (fun _ hr => hr) rfl rfl,
    h.history.congr (.of_eq rfl rfl rfl), ?_, ?_, ?_⟩
  · exact hperm.nodup_iff.2 h.ops.nodup
  · intro m hm
    exact h.ops.used m (hperm.mem_iff.1 hm)
  · intro m hm
    exact h.ops.asked m (hperm.mem_iff.1 hm)

lemma Lawful.opDone (h : d.Lawful x) (hop : x.op = some n) :
    (d.opDone n).Lawful { x with op := none } := by
  have hframe := frame_setOpInfo d n { d.opInfo n with used := false }
  have hnodup := h.ops.nodup
  rw [hop] at hnodup
  have hout : n ∉ d.tokenOpQ := by
    intro hmem
    exact (nodup_append.1 hnodup).2.2 n hmem n (by simp) rfl
  have hsame (m : OpNode) (hm : m ∈ d.tokenOpQ ++ (none : Option OpNode).toList) :
      (d.opDone n).opInfo m = d.opInfo m ∧ m ∈ d.tokenOpQ ++ x.op.toList := by
    have hmem : m ∈ d.tokenOpQ := by simpa using hm
    refine ⟨?_, mem_append_left _ hmem⟩
    rw [Dispr.opDone, opInfo_setOpInfo, if_neg]
    rintro rfl
    exact hout hmem
  refine ⟨h.queues.setOpInfo n _, h.history.congr hframe, ?_, ?_, ?_⟩
  · rw [Dispr.opDone, tokenOpQ_setOpInfo]
    simpa using (nodup_append.1 hnodup).1
  · intro m hm
    rw [Dispr.opDone, tokenOpQ_setOpInfo] at hm
    rw [(hsame m hm).1]
    exact h.ops.used m (hsame m hm).2
  · intro m hm
    rw [Dispr.opDone, tokenOpQ_setOpInfo] at hm
    rw [(hsame m hm).1]
    exact (h.ops.asked m (hsame m hm).2).mono hframe.ticket hframe.free hframe.cancel

/-! ## The life of a request -/

lemma hist_note (d : Dispr) (t u : ℕ) (e : ReqEvent) :
    (d.note t e).hist u = if u = t then d.hist t ++ [e] else d.hist u := by
  by_cases hu : u = t
  · subst hu
    simp [note]
  · simp [note, hu]

lemma Queues.nodup (h : d.Queues o) :
    (d.tokenReqIdleQ ++ d.tokenReqWaitQ ++ d.curCmdReq.toList ++ o.toList).Nodup :=
  h.slots.nodup_iff.2 nodup_range

lemma Queues.front_idle (h : d.Queues o)
    (hq : d.tokenReqIdleQ = i :: q) : i ∉ d.tokenReqWaitQ ∧ d.curCmdReq ≠ some i := by
  have hnodup := h.nodup
  rw [hq, append_assoc, append_assoc, cons_append, nodup_cons] at hnodup
  refine ⟨fun hmem => hnodup.1 (by simp [hmem]), fun hcur => hnodup.1 (by simp [hcur])⟩

lemma History.cur_not_waiting (h : d.History e) (hcur : d.curCmdReq = some i) :
    d.ticket i ∉ d.waiting := by
  intro hmem
  have hlast : d.ticket i ∈ d.granted := mem_of_getLast? (h.last i hcur)
  exact lt_irrefl _ ((pairwise_append.1 h.order).2.2 _ hlast _ hmem)

lemma History.cur_lt (h : d.History e) (hcur : d.curCmdReq = some i) : d.ticket i < d.added :=
  h.below _ (mem_append_left _ (mem_of_getLast? (h.last i hcur)))

/-- The state of `dispr_add_token_req` when slot `i` waits. -/
def withReq (d : Dispr) (i : ℕ) (q : List ℕ) (exclusive : Bool) : Dispr :=
  { d with
    tokenReqExPool := fun j =>
      if j = i then { status := { enq := true }, req := ⟨exclusive, d.added⟩ }
      else d.tokenReqExPool j
    tokenReqIdleQ := q, tokenReqWaitQ := d.tokenReqWaitQ ++ [i], added := d.added + 1
    hist := Function.update d.hist d.added (d.hist d.added ++ [.added]) }

lemma addTokenReq_eq (d : Dispr) (exclusive : Bool) :
    (d.addTokenReq exclusive).2 =
      if !d.status.started || d.status.shallStop then d
      else
        match d.tokenReqIdleQ with
        | [] => d
        | i :: q =>
          ((d.withReq i q exclusive).pushBackTokenOpInfo (.addReqInfo i) .addCmdReq i).2 := by
  dsimp only [addTokenReq, popFrontIdleReq]
  split
  · rfl
  cases hq : d.tokenReqIdleQ with
  | nil => rfl
  | cons i q =>
    dsimp only
    congr 2
    simp only [modifyReq, setReqStatus, note, pushBackWaitReq, withReq, Function.update_self,
      Function.update_idem]
    congr 1
    funext j
    by_cases hj : j = i
    · subst hj
      simp
    · simp [hj]

lemma ticket_withReq (d : Dispr) (i : ℕ) (q : List ℕ) (exclusive : Bool) (j : ℕ) :
    (d.withReq i q exclusive).ticket j = if j = i then d.added else d.ticket j := by
  dsimp only [ticket, withReq]
  split <;> rfl

lemma waiting_withReq (d : Dispr) (q : List ℕ) (exclusive : Bool) (hi : i ∉ d.tokenReqWaitQ) :
    (d.withReq i q exclusive).waiting = d.waiting ++ [d.added] := by
  simp only [waiting]
  have hmap : (d.withReq i q exclusive).tokenReqWaitQ = d.tokenReqWaitQ ++ [i] := rfl
  rw [hmap, map_append, map_singleton, ticket_withReq, if_pos rfl]
  congr 1
  apply map_congr_left
  intro j hj
  rw [ticket_withReq, if_neg]
  rintro rfl
  exact hi hj

lemma Queues.withReq (h : d.Queues o)
    (hq : d.tokenReqIdleQ = i :: q) (exclusive : Bool) : (d.withReq i q exclusive).Queues o := by
  refine ⟨?_, h.count, ?_, ?_⟩
  · refine List.Perm.trans ?_ h.slots
    rw [hq]
    simp only [Dispr.withReq, append_assoc, cons_append, nil_append]
    rw [← append_assoc q, ← append_assoc q]
    exact perm_middle
  · intro j hj hs
    simp only [Dispr.withReq] at hs ⊢
    split at hs
    · next hji => simp [hji]
    · exact mem_append_left _ (h.enq j hj hs)
  · intro j hs
    simp only [Dispr.withReq] at hs ⊢
    split at hs
    · cases hs
    · exact h.run j hs

lemma History.withReq (h : d.History e) (hi : i ∉ d.tokenReqWaitQ)
    (hcur : d.curCmdReq ≠ some i) (exclusive : Bool) :
    (d.withReq i q exclusive).History e := by
  have hw := waiting_withReq d q exclusive hi
  have hhist (t : ℕ) : (d.withReq i q exclusive).hist t =
      if t = d.added then [.added] else d.hist t := by
    have := hist_note d d.added t .added
    rw [h.unborn d.added le_rfl] at this
    exact this
  have hold {t : ℕ} (ht : t < d.added) : (d.withReq i q exclusive).hist t = d.hist t := by
    rw [hhist, if_neg (Nat.ne_of_lt ht)]
  have hticket {j : ℕ} (hj : d.curCmdReq = some j) :
      (d.withReq i q exclusive).ticket j = d.ticket j := by
    rw [ticket_withReq, if_neg]
    rintro rfl
    exact hcur hj
  refine ⟨?_, ?_, ?_, ?_, ?_, ?_, ?_, ?_, ?_, ?_⟩
  · rw [hw, ← append_assoc, pairwise_append]
    refine ⟨h.order, pairwise_singleton _ _, fun t ht u hu => ?_⟩
    rw [mem_singleton.1 hu]
    exact h.below t ht
  · intro t ht
    rw [hw, ← append_assoc, mem_append] at ht
    rcases ht with ht | ht
    · exact Nat.lt_succ_of_lt (h.below t ht)
    · rw [mem_singleton.1 ht]
      exact Nat.lt_succ_self _
  · intro j hj
    rw [hticket hj]
    exact h.last j hj
  · intro t ht
    have hlt : d.added < t := ht
    rw [hhist, if_neg (Nat.ne_of_gt hlt)]
    exact h.unborn t (Nat.le_of_lt hlt)
  · intro t ht
    rw [hw, mem_append] at ht
    rcases ht with ht | ht
    · rw [hold (h.below t (mem_append_right _ ht))]
      exact h.waits t ht
    · rw [hhist, if_pos (mem_singleton.1 ht)]
  · intro j hj
    rw [hticket hj, hold (h.cur_lt hj)]
    exact h.current j hj
  · intro t ht hnot hne
    rw [hw, mem_append, not_or] at hnot
    have hlt : t < d.added :=
      lt_of_le_of_ne (Nat.lt_succ_iff.1 ht) fun heq => hnot.2 (by simp [heq])
    rw [hold hlt]
    refine h.ended t hlt hnot.1 fun j hj => ?_
    rw [← hticket hj]
    exact hne j hj
  · intro t
    change _ ↔ t ∈ d.granted
    rw [hhist]
    split
    · next hta =>
        have hnot : t ∉ d.granted := fun hmem =>
          Nat.ne_of_lt (h.below t (mem_append_left _ hmem)) hta
        simp [hnot]
    · exact h.acquired t
  · intro t ht
    rw [hhist] at ht
    split at ht
    · simp at ht
    · exact h.freed t ht
  · intro t ht
    rw [hhist] at ht
    split at ht
    · simp at ht
    · exact h.aborted t ht

lemma Ops.withReq {o : Option OpNode} {q : List ℕ} (h : d.Ops o) (exclusive : Bool)
    (hadd : .addReqInfo i ∉ d.tokenOpQ ++ o.toList)
    (hfree : .freeReqInfo i ∉ d.tokenOpQ ++ o.toList) : (d.withReq i q exclusive).Ops o := by
  have hinfo {m : OpNode} (hm : m ∈ d.tokenOpQ ++ o.toList) :
      (d.withReq i q exclusive).opInfo m = d.opInfo m := by
    cases m with
    | addReqInfo j =>
      have hj : j ≠ i := fun heq => hadd (heq ▸ hm)
      simp [opInfo, Dispr.withReq, hj]
    | freeReqInfo j =>
      have hj : j ≠ i := fun heq => hfree (heq ▸ hm)
      simp [opInfo, Dispr.withReq, hj]
    | renewReqInfo => rfl
  refine ⟨h.nodup, fun m hm => ?_, fun m hm => ?_⟩
  · rw [hinfo hm]
    exact h.used m hm
  · rw [hinfo hm]
    have hask := h.asked m hm
    cases m with
    | addReqInfo j => exact hask
    | renewReqInfo => exact hask
    | freeReqInfo j =>
      have hj : j ≠ i := fun heq => hfree (heq ▸ hm)
      simp only [Asked, ticket_withReq, if_neg hj] at hask ⊢
      exact hask

/-- The slot that `dispr_add_token_req` takes has no operation under way. -/
def FreshSlot (d : Dispr) (op : Option OpNode) : Prop :=
  d.status.started = true → d.status.shallStop = false → ∀ i q, d.tokenReqIdleQ = i :: q →
    .addReqInfo i ∉ d.tokenOpQ ++ op.toList ∧ .freeReqInfo i ∉ d.tokenOpQ ++ op.toList

section

variable (h : d.Lawful x)
include h

lemma Lawful.addTokenReq (hfresh : d.FreshSlot x.op) (exclusive : Bool) :
    (d.addTokenReq exclusive).2.Lawful x := by
  rw [addTokenReq_eq]
  split
  · exact h
  next hok =>
  simp only [Bool.or_eq_true, Bool.not_eq_eq_eq_not, Bool.not_true, not_or,
    Bool.not_eq_false, Bool.not_eq_true] at hok
  cases hq : d.tokenReqIdleQ with
  | nil => exact h
  | cons i q =>
    obtain ⟨hadd, hfree⟩ := hfresh hok.1 hok.2 i q hq
    obtain ⟨hwait, hcur⟩ := h.queues.front_idle hq
    have hreq : (d.withReq i q exclusive).Lawful x :=
      ⟨h.queues.withReq hq exclusive, h.history.withReq hwait hcur exclusive,
        h.ops.withReq exclusive hadd hfree⟩
    exact hreq.pushBackTokenOpInfo rfl

lemma Lawful.cancelTokenReq (i : ℕ) : (d.cancelTokenReq i).2.Lawful x := by
  dsimp only [Dispr.cancelTokenReq]
  split
  · exact h
  split
  · exact h
  split
  · exact h
  · exact h.pushBackTokenOpInfo ⟨rfl, .inr rfl⟩

lemma Lawful.freeToken (i : ℕ) : (d.freeToken i).2.Lawful x := by
  dsimp only [Dispr.freeToken]
  split
  · exact h
  split
  · exact h
  split
  · exact h
  · exact (h.setReqStatus i (fun hs => hs) fun hr => hr).pushBackTokenOpInfo ⟨rfl, .inl rfl⟩

lemma Lawful.sendInAbort : d.sendInAbort.Lawful x := by
  dsimp only [Dispr.sendInAbort]
  split
  · exact h
  split
  · exact h
  split
  · exact (h.setStatus _).setAbortMsgs _
  · exact h

lemma Lawful.threadStopPrior : d.threadStopPrior.Lawful x := by
  dsimp only [Dispr.threadStopPrior]
  split
  · exact (h.setStatus _).cancelAllCmdReq
  · exact h

end

/-! ## Grants and ends -/

/-- `d'` is `d` after its first waiting request, in slot `i`, has been taken. -/
structure Taken (d d' : Dispr) (i : ℕ) : Prop where
  wait : d.tokenReqWaitQ = i :: d'.tokenReqWaitQ
  idle : d'.tokenReqIdleQ = d.tokenReqIdleQ
  cur : d'.curCmdReq = d.curCmdReq
  cnt : d'.tokenCnt = d.tokenCnt
  added : d'.added = d.added
  granted : d'.granted = d.granted
  hist : d'.hist = d.hist
  ticket : d'.ticket = d.ticket
  info : ∀ n, d'.opInfo n = d.opInfo n
  opQ : d'.tokenOpQ = d.tokenOpQ
  free : d'.freeAsked = d.freeAsked
  cancel : d'.cancelAsked = d.cancelAsked
  stop : d'.stopAborted = d.stopAborted
  enq : (d'.tokenReqExPool i).status.enq = false
  same : ∀ j, j ≠ i → (d'.tokenReqExPool j).status = (d.tokenReqExPool j).status

lemma taken_of_popFrontWaitReq (h : d.popFrontWaitReq = some (i, d')) : Taken d d' i := by
  dsimp only [popFrontWaitReq] at h
  split at h
  · cases h
  next j q hq =>
  cases h
  have hstatus (j : ℕ) := status_setReqStatus d i j ReqStatus.prepared
  exact {
    wait := hq, idle := rfl, cur := rfl, cnt := rfl, added := rfl, granted := rfl, hist := rfl
    ticket := ticket_setReqStatus d i ReqStatus.prepared
    info := fun n => by
      refine Eq.trans ?_ (opInfo_setReqStatus d i ReqStatus.prepared n)
      cases n <;> rfl
    opQ := rfl, free := rfl, cancel := rfl, stop := rfl
    enq := congrArg ReqStatus.enq ((hstatus i).trans (if_pos rfl))
    same := fun j hj => (hstatus j).trans (if_neg hj) }

lemma Queues.registerCurCmdReq (h : d.Queues none) (f : Taken d d' i)
    (hcur : d.curCmdReq = none) : (d'.registerCurCmdReq i).Queues none := by
  have hslots := h.slots
  have hcnt := h.count
  rw [hcur] at hcnt
  rw [f.wait, hcur] at hslots
  have hstatus (j : ℕ) : ((d'.registerCurCmdReq i).tokenReqExPool j).status =
      if j = i then (d'.tokenReqExPool i).status.running
      else (d'.tokenReqExPool j).status := status_setReqStatus d' i j ReqStatus.running
  refine ⟨?_, ?_, ?_, ?_⟩
  · refine List.Perm.trans ?_ hslots
    simp only [Dispr.registerCurCmdReq, Dispr.note, Dispr.setReqStatus, modifyReq, f.idle,
      toList_some, toList_none, append_nil, append_assoc]
    exact List.Perm.append_left _ (perm_append_singleton i _)
  · change d'.tokenCnt + 1 = 1
    rw [f.cnt, hcnt]
    rfl
  · intro j hj hs
    change j ∈ d'.tokenReqWaitQ
    rw [hstatus] at hs
    split at hs
    · rw [show (d'.tokenReqExPool i).status.running.enq = (d'.tokenReqExPool i).status.enq from rfl,
        f.enq] at hs
      cases hs
    · next hji =>
        rw [f.same j hji] at hs
        have hmem := h.enq j hj hs
        rw [f.wait] at hmem
        exact (mem_cons.1 hmem).resolve_left hji
  · intro j hs
    change some i = some j
    rw [hstatus] at hs
    split at hs
    · next hji => rw [hji]
    · next hji =>
        rw [f.same j hji] at hs
        have hno := h.run j hs
        rw [hcur] at hno
        cases hno

lemma History.registerCurCmdReq (h : d.History none) (f : Taken d d' i)
    (hcur : d.curCmdReq = none) : (d'.registerCurCmdReq i).History none := by
  have hw : d.waiting = d.ticket i :: d'.waiting := by
    rw [waiting, f.wait, map_cons, waiting, f.ticket]
  have horder := h.order
  have hbelow := h.below
  rw [hw] at horder hbelow
  have hlater : ∀ t ∈ d'.waiting, d.ticket i < t :=
    (pairwise_cons.1 (pairwise_append.1 horder).2.1).1
  have hti : d.ticket i < d.added := hbelow _ (by simp)
  have hlist : d.granted ++ [d.ticket i] ++ d'.waiting =
      d.granted ++ d.ticket i :: d'.waiting := by simp
  have hticket : (d'.registerCurCmdReq i).ticket = d.ticket :=
    (ticket_setReqStatus d' i ReqStatus.running).trans f.ticket
  have hti' : (d'.setReqStatus i ReqStatus.running).ticket i =
      d.ticket i := congrFun hticket i
  have hgranted : (d'.registerCurCmdReq i).granted = d.granted ++ [d.ticket i] := by
    rw [← f.granted, ← hti']
    rfl
  have hwait : (d'.registerCurCmdReq i).waiting = d'.waiting := by
    simp only [waiting, hticket, f.ticket]
    rfl
  have hadded : (d'.registerCurCmdReq i).added = d.added := f.added
  have hhist (t : ℕ) : (d'.registerCurCmdReq i).hist t =
      if t = d.ticket i then [.added, .acquired] else d.hist t := by
    refine (hist_note _ _ _ _).trans ?_
    have hset : (d'.setReqStatus i ReqStatus.running).hist =
        d.hist := f.hist
    rw [hti', hset, h.waits (d.ticket i) (by simp [hw])]
    rfl
  refine ⟨?_, ?_, ?_, ?_, ?_, ?_, ?_, ?_, ?_, ?_⟩
  · rw [hgranted, hwait, hlist]
    exact horder
  · rw [hgranted, hwait, hlist, hadded]
    exact hbelow
  · intro j hj
    cases hj
    rw [hgranted, hticket, getLast?_concat]
  · intro t ht
    rw [hadded] at ht
    rw [hhist, if_neg (Nat.ne_of_gt (lt_of_lt_of_le hti ht))]
    exact h.unborn t ht
  · intro t ht
    rw [hwait] at ht
    rw [hhist, if_neg (Nat.ne_of_gt (hlater t ht))]
    exact h.waits t (by rw [hw]; exact mem_cons_of_mem _ ht)
  · intro j hj
    cases hj
    rw [hticket, hhist, if_pos rfl]
    rfl
  · intro t ht hnot hne
    rw [hadded] at ht
    have hne' : t ≠ d.ticket i := hticket ▸ hne i rfl
    rw [hwait] at hnot
    rw [hhist, if_neg hne']
    refine h.ended t ht ?_ ?_
    · rw [hw, mem_cons, not_or]
      exact ⟨hne', hnot⟩
    · intro j hj
      rw [hcur] at hj
      cases hj
  · intro t
    rw [hhist, hgranted, mem_append, mem_singleton]
    split
    · next hti => simp [hti]
    · next hti => simp [hti, h.acquired t]
  · intro t ht
    rw [hhist] at ht
    change t ∈ d'.freeAsked
    rw [f.free]
    split at ht
    · simp at ht
    · exact h.freed t ht
  · intro t ht
    rw [hhist] at ht
    change t ∈ d'.cancelAsked ∨ t ∈ d'.stopAborted
    rw [f.cancel, f.stop]
    split at ht
    · simp at ht
    · exact h.aborted t ht

lemma Lawful.registerCurCmdReq (h : d.Lawful x) (hslot : x.slot = none) (hend : x.ending = none)
    (f : Taken d d' i) (hcur : d.curCmdReq = none) : (d'.registerCurCmdReq i).Lawful x := by
  have hqueues := h.queues
  have hhistory := h.history
  rw [hslot] at hqueues
  rw [hend] at hhistory
  refine ⟨?_, ?_, ?_⟩
  · rw [hslot]
    exact hqueues.registerCurCmdReq f hcur
  · rw [hend]
    exact hhistory.registerCurCmdReq f hcur
  · refine h.ops.congr ((ticket_setReqStatus d' i ReqStatus.running).trans f.ticket) (fun m => ?_)
      f.opQ (f.free ▸ List.Subset.refl _) (f.cancel ▸ List.Subset.refl _)
    rw [← f.info]
    refine Eq.trans ?_ (opInfo_setReqStatus d' i ReqStatus.running m)
    cases m <;> rfl

lemma Lawful.noteEnd (h : d.Lawful x) (hend : x.ending = none)
    (hcur : d.curCmdReq = some i) (hfreed : r = .freed → d.ticket i ∈ d.freeAsked)
    (haborted : r = .aborted → d.ticket i ∈ d.cancelAsked ∨ d.ticket i ∈ d.stopAborted) :
    (d.note (d.ticket i) r).Lawful { x with ending := some r } := by
  have hne {t : ℕ} (ht : t ∈ d.waiting) : t ≠ d.ticket i := by
    rintro rfl
    exact h.history.cur_not_waiting hcur ht
  refine ⟨⟨h.1.1, h.1.2, h.1.3, h.1.4⟩, ⟨h.2.1, h.2.2, h.2.3, ?_, ?_, ?_, ?_, ?_, ?_, ?_⟩,
    h.ops.congr rfl (fun m => by cases m <;> rfl) rfl (List.Subset.refl _)
      (List.Subset.refl _)⟩
  · intro t ht
    rw [hist_note, if_neg (Nat.ne_of_gt (lt_of_lt_of_le (h.history.cur_lt hcur) ht))]
    exact h.history.unborn t ht
  · intro t ht
    rw [hist_note, if_neg (hne ht)]
    exact h.history.waits t ht
  · intro j hj
    rw [show d.curCmdReq = some j from hj] at hcur
    cases hcur
    change (d.note (d.ticket i) r).hist (d.ticket i) = _
    rw [hist_note, if_pos rfl, h.history.current i hj, hend]
    rfl
  · intro t ht hnot hne'
    have hti : t ≠ d.ticket i := hne' i hcur
    rw [hist_note, if_neg hti]
    exact h.history.ended t ht hnot hne'
  · intro t
    change _ ↔ t ∈ d.granted
    rw [hist_note, ← h.history.acquired]
    split
    · next hti =>
        rw [hti, h.history.current i hcur]
        simp
    · rfl
  · intro t ht
    rw [hist_note] at ht
    split at ht
    · next hti =>
        rw [h.history.current i hcur, hend] at ht
        simp only [toList_none, cons_append, nil_append, mem_cons,
          not_mem_nil, reduceCtorEq, false_or, or_false] at ht
        rw [hti]
        exact hfreed ht.symm
    · exact h.history.freed t ht
  · intro t ht
    rw [hist_note] at ht
    split at ht
    · next hti =>
        rw [h.history.current i hcur, hend] at ht
        simp only [toList_none, cons_append, nil_append, mem_cons,
          not_mem_nil, reduceCtorEq, false_or, or_false] at ht
        rw [hti]
        exact haborted ht.symm
    · exact h.history.aborted t ht

lemma status_pushBackIdleReq (d : Dispr) (i j : ℕ) :
    ((d.pushBackIdleReq i).tokenReqExPool j).status =
      if j = i then {} else (d.tokenReqExPool j).status :=
  status_setReqStatus d i j fun _ => {}

lemma ticket_pushBackIdleReq (d : Dispr) (i : ℕ) : (d.pushBackIdleReq i).ticket = d.ticket :=
  ticket_setReqStatus d i fun _ => {}

lemma opInfo_pushBackIdleReq (d : Dispr) (i : ℕ) (n : OpNode) :
    (d.pushBackIdleReq i).opInfo n = d.opInfo n := by
  refine Eq.trans ?_ (opInfo_setReqStatus d i (fun _ => {}) n)
  cases n <;> rfl

section

variable (h : d.Lawful x)
include h

lemma Lawful.endCur (hslot : x.slot = none)
    (hend : x.ending = some r) (hr : Ended [.added, .acquired, r])
    (hcur : d.curCmdReq = some i) :
    Lawful { d.pushBackIdleReq i with tokenCnt := d.tokenCnt - 1, curCmdReq := none }
      { x with ending := none } := by
  have hslots := h.queues.slots
  have hcnt := h.queues.count
  rw [hcur] at hslots hcnt
  rw [hslot] at hslots
  have hstatus (j : ℕ) := status_pushBackIdleReq d i j
  have hticket := ticket_pushBackIdleReq d i
  have hw : (d.pushBackIdleReq i).waiting = d.waiting := by
    simp only [waiting, hticket]
    rfl
  have hti : Dispr.ticket { d.pushBackIdleReq i with
      tokenCnt := d.tokenCnt - 1, curCmdReq := none } = d.ticket := hticket
  have hwt : Dispr.waiting { d.pushBackIdleReq i with
      tokenCnt := d.tokenCnt - 1, curCmdReq := none } = d.waiting := hw
  refine ⟨⟨?_, ?_, ?_, ?_⟩, ⟨?_, ?_, ?_, h.2.4, ?_, ?_, ?_, h.2.8, h.2.9, h.2.10⟩,
    h.ops.congr hticket (fun m => ?_) rfl (List.Subset.refl _)
      (List.Subset.refl _)⟩
  · refine List.Perm.trans ?_ hslots
    simp only [pushBackIdleReq, hslot, toList_none, toList_some, append_nil,
      append_assoc]
    exact List.Perm.append_left _ (perm_append_comm)
  · change d.tokenCnt - 1 = 0
    rw [hcnt]
    rfl
  · intro j hj hs
    rw [hstatus] at hs
    split at hs
    · cases hs
    · exact h.queues.enq j hj hs
  · intro j hs
    rw [hstatus] at hs
    split at hs
    · cases hs
    · next hji =>
        have hj := h.queues.run j hs
        rw [hcur] at hj
        cases hj
        exact absurd rfl hji
  · rw [hwt]
    exact h.history.order
  · rw [hwt]
    exact h.history.below
  · intro j hj
    cases hj
  · rw [hwt]
    exact h.history.waits
  · intro j hj
    cases hj
  · intro t ht hnot _
    rw [hwt] at hnot
    by_cases hte : t = d.ticket i
    · rw [hte]
      change Ended (d.hist (d.ticket i))
      rw [h.history.current i hcur, hend]
      exact hr
    · refine h.history.ended t ht hnot fun j hj => ?_
      rw [hcur] at hj
      cases hj
      exact hte
  · refine Eq.trans ?_ (opInfo_pushBackIdleReq d i m)
    cases m <;> rfl

lemma Lawful.removeWaiting (hslot : x.slot = none)
    (hi : i ∈ d.tokenReqWaitQ)
    (hask : d.ticket i ∈ d.cancelAsked ∨ d.ticket i ∈ d.stopAborted) :
    Lawful ({ d with tokenReqWaitQ := d.tokenReqWaitQ.erase i }.note (d.ticket i) .aborted)
      { x with slot := some i } := by
  have hslots := h.queues.slots
  have hout := h.queues.nodup
  rw [hslot] at hslots hout
  have hnodup : d.tokenReqWaitQ.Nodup := by
    simp only [toList_none, append_nil, append_assoc] at hout
    exact (nodup_append.1 (nodup_append.1 hout).2.1).1
  have hsub : (d.tokenReqWaitQ.erase i).Sublist d.tokenReqWaitQ := erase_sublist
  have horder := h.history.order
  have hinj : d.waiting.Nodup := (pairwise_append.1 horder).2.1.imp fun hlt => ne_of_lt hlt
  have hti : d.ticket i ∈ d.waiting := List.mem_map_of_mem hi
  have hperm : d.waiting.Perm (d.ticket i :: (d.tokenReqWaitQ.erase i).map d.ticket) :=
    (perm_cons_erase hi).map d.ticket
  have hgone : d.ticket i ∉ (d.tokenReqWaitQ.erase i).map d.ticket :=
    (nodup_cons.1 (hperm.nodup_iff.1 hinj)).1
  have hin {t : ℕ} (ht : t ∈ (d.tokenReqWaitQ.erase i).map d.ticket) : t ∈ d.waiting :=
    (hsub.map d.ticket).subset ht
  have hall : (d.granted ++ (d.tokenReqWaitQ.erase i).map d.ticket).Sublist
      (d.granted ++ d.waiting) := (hsub.map d.ticket).append_left _
  have hhist (t : ℕ) : ({ d with tokenReqWaitQ := d.tokenReqWaitQ.erase i }.note
      (d.ticket i) .aborted).hist t = if t = d.ticket i then [.added, .aborted] else d.hist t := by
    refine (hist_note _ _ _ _).trans ?_
    split
    · exact congrArg (· ++ [ReqEvent.aborted]) (h.history.waits _ hti)
    · rfl
  refine ⟨⟨?_, h.1.2, ?_, h.1.4⟩, ⟨horder.sublist hall, fun t ht => h.history.below t
    (hall.subset ht), h.2.3, ?_, ?_, ?_, ?_, ?_, ?_, ?_⟩,
    h.ops.congr rfl (fun m => by cases m <;> rfl) rfl (List.Subset.refl _)
      (List.Subset.refl _)⟩
  · refine List.Perm.trans ?_ hslots
    simp only [note, toList_some, toList_none, append_nil, append_assoc]
    refine List.Perm.append_left _ ?_
    rw [← append_assoc]
    refine (perm_append_singleton i _).trans ?_
    exact List.Perm.append_right _ (perm_cons_erase hi).symm
  · intro j hj hs
    have hmem : j ∈ d.tokenReqWaitQ := h.queues.enq j (by rw [hslot]; exact nofun) hs
    have hji : j ≠ i := by
      rintro rfl
      exact hj rfl
    exact (mem_erase_of_ne hji).2 hmem
  · intro t ht
    have hlt : d.ticket i < d.added := h.history.below _ (mem_append_right _ hti)
    rw [hhist, if_neg (Nat.ne_of_gt (lt_of_lt_of_le hlt ht))]
    exact h.history.unborn t ht
  · intro t ht
    have hne : t ≠ d.ticket i := by
      rintro rfl
      exact hgone ht
    rw [hhist, if_neg hne]
    exact h.history.waits t (hin ht)
  · intro j hj
    have hne : d.ticket j ≠ d.ticket i := by
      intro heq
      apply h.history.cur_not_waiting hj
      rw [heq]
      exact hti
    change Dispr.hist _ (d.ticket j) = _
    rw [hhist, if_neg hne]
    exact h.history.current j hj
  · intro t ht hnot hne
    rw [hhist]
    split
    · exact .removed
    · next hti' =>
        refine h.history.ended t ht (fun hmem => ?_) hne
        rcases mem_cons.1 (hperm.mem_iff.1 hmem) with heq | hmem'
        · exact hti' heq
        · exact hnot hmem'
  · intro t
    change _ ↔ t ∈ d.granted
    rw [hhist]
    split
    · next hti' =>
        have hnot : t ∉ d.granted := fun hmem =>
          Nat.ne_of_lt ((pairwise_append.1 horder).2.2 t hmem _ hti) hti'
        simp [hnot]
    · exact h.history.acquired t
  · intro t ht
    rw [hhist] at ht
    split at ht
    · simp at ht
    · exact h.history.freed t ht
  · intro t ht
    rw [hhist] at ht
    split at ht
    · next hti' =>
        rw [hti']
        exact hask
    · exact h.history.aborted t ht

lemma Lawful.pushBackIdleReq (hslot : x.slot = some i) :
    (d.pushBackIdleReq i).Lawful { x with slot := none } := by
  have hslots := h.queues.slots
  rw [hslot] at hslots
  have hstatus (j : ℕ) := status_pushBackIdleReq d i j
  have hticket := ticket_pushBackIdleReq d i
  refine ⟨⟨?_, h.1.2, ?_, ?_⟩, h.history.congr (.of_eq rfl hticket rfl),
    h.ops.congr hticket (fun m => ?_) rfl (List.Subset.refl _)
      (List.Subset.refl _)⟩
  · refine List.Perm.trans ?_ hslots
    simp only [Dispr.pushBackIdleReq, toList_none, toList_some, append_nil,
      append_assoc]
    refine List.Perm.append_left _ ?_
    rw [← append_assoc d.tokenReqWaitQ]
    exact perm_append_comm
  · intro j _ hs
    rw [hstatus] at hs
    split at hs
    · cases hs
    · next hji =>
        apply h.queues.enq j ?_ hs
        rw [hslot]
        exact fun heq => hji (Option.some.inj heq).symm
  · intro j hs
    rw [hstatus] at hs
    split at hs
    · cases hs
    · exact h.queues.run j hs
  · refine Eq.trans ?_ (opInfo_pushBackIdleReq d i m)
    cases m <;> rfl

lemma Lawful.noteStopped (t : ℕ) :
    Lawful { d with stopAborted := d.stopAborted ++ [t] } x := by
  have hframe : Frame d { d with stopAborted := d.stopAborted ++ [t] } :=
    .of_asked rfl rfl (List.Subset.refl _) (List.Subset.refl _) (subset_append_left _ _)
  exact ⟨h.queues.congr hframe (fun _ _ hs => hs) (fun _ hr => hr) rfl rfl, h.history.congr hframe,
    h.ops.congr rfl (fun n => by cases n <;> rfl) rfl (List.Subset.refl _)
      (List.Subset.refl _)⟩

lemma Lawful.clearWaiting (hslot : x.slot = none)
    (hpop : d.popFrontWaitReq = some (i, d')) :
    Lawful { d'.note (d'.ticket i) .aborted with
      stopAborted := d'.stopAborted ++ [d'.ticket i] } { x with slot := some i } := by
  have htaken := taken_of_popFrontWaitReq hpop
  have hq := htaken.wait
  have hd : d' = { d.setReqStatus i ReqStatus.prepared with
      tokenReqWaitQ := d.tokenReqWaitQ.erase i } := by
    rw [hq, erase_cons_head]
    dsimp only [popFrontWaitReq] at hpop
    rw [hq] at hpop
    exact (Prod.mk.inj (Option.some.inj hpop)).2.symm
  rw [htaken.ticket, htaken.stop]
  have hstop := h.noteStopped (d.ticket i)
  have hremoved := hstop.removeWaiting hslot (i := i) (by simp [hq])
    (.inr (mem_append_right _ (mem_singleton.2 rfl)))
  have hset := hremoved.setReqStatus i (f := ReqStatus.prepared) nofun fun hr => hr
  rw [hd]
  exact hset

lemma Lawful.noCur (hcur : d.curCmdReq = none) :
    d.Lawful { x with ending := none } :=
  ⟨h.1, { h.2 with current := fun i hi => by rw [hcur] at hi; cases hi }, h.3⟩

lemma Lawful.over (hlen : d.tokenReqIdleQ.length = maxCmdReqNum) :
    d.tokenReqWaitQ = [] ∧ d.curCmdReq = none := by
  have hall := h.queues.slots.length_eq
  simp only [length_append, length_range, hlen] at hall
  refine ⟨length_eq_zero_iff.1 (by omega), ?_⟩
  cases hcur : d.curCmdReq with
  | none => rfl
  | some i =>
    rw [hcur, toList_some, length_singleton] at hall
    omega

end

lemma History.restart (h : d.History e) (hwait : d.tokenReqWaitQ = [])
    (hcur : d.curCmdReq = none) : d.restart.Lawful {} := by
  have horder := h.order
  have hbelow := h.below
  have hw : d.waiting = [] := by simp [waiting, hwait]
  have hw' : d.restart.waiting = [] := rfl
  rw [hw] at horder hbelow
  refine ⟨⟨?_, ?_, ?_, ?_⟩, ⟨horder, hbelow, ?_, h.4, ?_, ?_, ?_, h.8, h.9, h.10⟩, ?_, ?_, ?_⟩
  · simp [Dispr.restart, hcur]
  · simp [Dispr.restart, hcur]
  · intro j _ hs
    cases hs
  · intro j hs
    cases hs
  · intro j hj
    rw [show d.curCmdReq = some j from hj] at hcur
    cases hcur
  · intro t ht
    rw [hw'] at ht
    cases ht
  · intro j hj
    rw [show d.curCmdReq = some j from hj] at hcur
    cases hcur
  · intro t ht _ _
    refine h.ended t ht (by simp [hw]) fun j hj => ?_
    rw [hcur] at hj
    cases hj
  · exact nodup_nil
  · intro n hn
    cases hn
  · intro n hn
    cases hn

end Dispr

end Rtl8831.Phl.CmdDispr
