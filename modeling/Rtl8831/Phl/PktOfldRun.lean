import Rtl8831.Lib.Run
import Rtl8831.Phl.PktOfldStep

/-!
# Runs of the table of offloaded packets

In a run of calls, with the calls of the HAL failing in any way, the table mirrors the firmware
and each granted request can be cancelled, as long as each call meets its condition; and a call
that does not meet it breaks this.
-/

namespace Rtl8831.Phl.PktOfld

open Lib Function Option

inductive Op
  | addEntry (macid : UInt16) (alloc update : Bool)
  | delEntry (macid : UInt16) (r : PktType → DelReply)
  | resetEntry (macid : UInt16) (r : PktType → DelReply)
  | request (macid : UInt16) (t : PktType) (r : RequestReply)
  | cancel (macid : UInt16) (t : PktType) (token : UInt32) (dr : DelReply)

def Op.requestsOrCancels : Op → Bool
  | request .. | cancel .. => true
  | _ => false

/-- The table, the firmware, and the tokens of the requests that succeeded and were neither
cancelled nor dropped with their entry. -/
structure World where
  sys : Sys
  granted : Key → List UInt32

lemma Status.failure_ne : Status.failure ≠ .success := by decide

lemma Status.resource_ne : Status.resource ≠ .success := by decide

namespace World

def init (ids : UInt8 → GeneralPktIds) : World := ⟨.init ids, fun _ => []⟩

def dropGranted (w : World) (m : UInt16) (status : Status) (k : Key) : List UInt32 :=
  if status = .success ∧ k.1 = m then [] else w.granted k

def exec (w : World) : Op → Status × World
  | .addEntry m alloc update =>
    ((w.sys.addEntry m alloc update).1, { w with sys := (w.sys.addEntry m alloc update).2 })
  | .delEntry m r =>
    ((w.sys.delEntry m r).1,
      ⟨(w.sys.delEntry m r).2, w.dropGranted m (w.sys.delEntry m r).1⟩)
  | .resetEntry m r =>
    ((w.sys.resetEntry m r).1,
      ⟨(w.sys.resetEntry m r).2, w.dropGranted m (w.sys.resetEntry m r).1⟩)
  | .request m t r =>
    ((w.sys.request m t r).1,
      ⟨(w.sys.request m t r).2.2, Function.update w.granted (m, t)
        ((w.sys.request m t r).2.1.toList ++ w.granted (m, t))⟩)
  | .cancel m t token dr =>
    ((w.sys.cancel m t token dr).1,
      ⟨(w.sys.cancel m t token dr).2, Function.update w.granted (m, t)
        (if (w.sys.cancel m t token dr).1 = .success then (w.granted (m, t)).erase token
          else w.granted (m, t))⟩)

def step (w : World) (op : Op) : World := (w.exec op).2

def Cancels (s : Sys) (k : Key) (token : UInt32) : Prop :=
  token ∈ s.queue k ∧ (s.cancel k.1 k.2 token .deleted).1 = .success ∧
    token ∉ (s.cancel k.1 k.2 token .deleted).2.queue k

def Promise (w : World) : Prop :=
  w.sys.Mirrors ∧ ∀ k, ∀ token ∈ w.granted k, Cancels w.sys k token

def Right (w : World) (op : Op) : Prop :=
  (w.step op).Promise ∧
    (op.requestsOrCancels = true → (w.exec op).1 ≠ .success → w.sys.Same (w.step op).sys)

/-- What the driver does not guard against.  A packet must not be left in the firmware: when an
entry is deleted or reset, each of its packets must be deleted; a packet that is added must be
reported in time and the general ids updated; the deletion that cancels the last request must be
carried out if it succeeds.  A token must not come back while it is in use, the count must not
wrap, and no two stations with packets may share their 8-bit macid. -/
def Ok (w : World) : Op → Prop
  | .addEntry m alloc update => w.sys.AddEntryOk m alloc update
  | .delEntry m r | .resetEntry m r =>
    ∀ e, w.sys.getEntry m = some e → ∀ t, (e.pktInfo t).id ≠ notUsed → r t = .deleted
  | .request m t r =>
    ∀ e, w.sys.getEntry m = some e → r.allocReq = true → r.allocName = true →
      w.sys.RequestOk e t w.sys.obj.curSeq r
  | .cancel m t token dr => w.sys.CancelOk m t token dr

end World

namespace Sys

variable {s s' : Sys} {e : PktOfldEntry} {m : UInt16} {t : PktType} {k : Key} {token : UInt32}

def taken (s : Sys) : Sys := { s with obj := { s.obj with curSeq := s.obj.curSeq + 1 } }

lemma same_taken (s : Sys) : s.Same s.taken := ⟨rfl, rfl, rfl⟩

lemma request_cases (m : UInt16) (t : PktType) (r : RequestReply) :
    ((∀ e, s.getEntry m = some e → r.allocReq = true → r.allocName ≠ true) ∧
      (s.request m t r).1 ≠ .success ∧ (s.request m t r).2.1 = none ∧
      s.Same (s.request m t r).2.2) ∨
    ∃ e, s.getEntry m = some e ∧ r.allocReq = true ∧ r.allocName = true ∧
      (s.request m t r).1 = (s.taken.requestWith e t s.obj.curSeq r).1 ∧
      (s.request m t r).2.1 =
        (if (s.taken.requestWith e t s.obj.curSeq r).1 = .success then some s.obj.curSeq
          else none) ∧
      (s.request m t r).2.2 = (s.taken.requestWith e t s.obj.curSeq r).2 := by
  cases he : s.getEntry m with
  | none =>
    have hreq : s.request m t r = (.failure, none, s) := by rw [request, he]
    rw [hreq]
    exact .inl ⟨fun e he' => absurd he' (some_ne_none e).symm, Status.failure_ne, rfl, rfl,
      rfl, rfl⟩
  | some e =>
    cases ha : r.allocReq with
    | false =>
      have hreq : s.request m t r = (.resource, none, s) := by
        rw [request, he, genReq, ha]
        rfl
      rw [hreq]
      exact .inl ⟨fun _ _ hf => absurd hf Bool.false_ne_true, Status.resource_ne, rfl, rfl, rfl,
        rfl⟩
    | true =>
      cases hn : r.allocName with
      | false =>
        have hreq : s.request m t r = (.resource, none, s.taken) := by
          rw [request, he, genReq, ha, hn]
          rfl
        rw [hreq]
        exact .inl ⟨fun _ _ _ => Bool.false_ne_true, Status.resource_ne, rfl, s.same_taken⟩
      | true =>
        have hgen : s.genReq r = (some s.obj.curSeq, s.taken) := by
          rw [genReq, ha, hn]
          rfl
        refine .inr ⟨e, rfl, rfl, rfl, ?_⟩
        simp only [request, he, hgen]
        generalize s.taken.requestWith e t s.obj.curSeq r = res
        obtain ⟨status, s'⟩ := res
        cases status <;> exact ⟨rfl, rfl, rfl⟩

lemma request_mirrors_iff (hs : s.Mirrors) (m : UInt16) (t : PktType) (r : RequestReply) :
    (s.request m t r).2.2.Mirrors ↔ ∀ e, s.getEntry m = some e → r.allocReq = true →
      r.allocName = true → s.RequestOk e t s.obj.curSeq r := by
  rcases request_cases m t r with ⟨hno, -, -, hsame⟩ | ⟨e, he, ha, hn, -, -, hreq⟩
  · exact iff_of_true (hsame.mirrors hs) fun e he ha hn => absurd hn (hno e he ha)
  · have htaken := requestWith_mirrors_iff (s.same_taken.mirrors hs) he t s.obj.curSeq r
    rw [hreq, htaken]
    constructor
    · intro h e' he' _ _
      rw [← Option.some.inj (he.symm.trans he')]
      exact h
    · intro h
      exact h e he ha hn

lemma queue_setInfo (he : s.getEntry m = some e) (t : PktType) (info : PktOfldInfo) (fw : Fw) :
    (s.setEntry (e.setInfo t info) fw).queue = Function.update s.queue (m, t) info.reqQ := by
  change queueOf ∘ (s.setEntry (e.setInfo t info) fw).info = _
  rw [info_setInfo he, comp_update]
  rfl

lemma queue_of_getEntry (he : s.getEntry m = some e) (t : PktType) :
    s.queue (m, t) = (e.pktInfo t).reqQ :=
  queue_of_info (info_of_getEntry he t)

lemma queue_addEntry (m : UInt16) (alloc update : Bool) :
    (s.addEntry m alloc update).2.queue = s.queue := by
  cases h : s.getEntry m with
  | some e => rw [addEntry, h]
  | none =>
    cases alloc with
    | false =>
      rw [addEntry, h]
      rfl
    | true => exact congrArg Lease.holders (view_addEntry h update)

lemma Dropping.queue_eq {r : PktType → DelReply} (h : s.Dropping s' m e r) (k : Key) :
    s'.queue k = if k.1 = m then [] else s.queue k := by
  by_cases hk : k.1 = m
  · rw [if_pos hk]
    exact (h.view_own hk).1
  · rw [if_neg hk]
    exact (h.view_other hk).1

lemma requestWith_success (he : s.getEntry m = some e) {r : RequestReply}
    (h : (s.requestWith e t token r).1 = .success) :
    (s.requestWith e t token r).2.queue =
      Function.update s.queue (m, t) (token :: s.queue (m, t)) ∧
    (s.requestWith e t token r).2.obj.curSeq = s.obj.curSeq := by
  have hq := queue_of_getEntry he t
  rcases requestWith_cases he t token r with ⟨-, hreq⟩ | ⟨-, -, hreq⟩ |
    ⟨id, -, -, -, -, -, hreq⟩ | ⟨id, -, -, -, -, -, hreq⟩
  · rw [hreq, hq]
    exact ⟨queue_setInfo he t _ _, rfl⟩
  · rw [hreq] at h
    exact absurd h Status.failure_ne
  · rw [hreq] at h
    exact absurd h Status.failure_ne
  · rw [hreq, hq]
    exact ⟨queue_setInfo he t _ _, rfl⟩

lemma request_success {r : RequestReply} (h : (s.request m t r).1 = .success) :
    (s.request m t r).2.1 = some s.obj.curSeq ∧
      (s.request m t r).2.2.obj.curSeq = s.obj.curSeq + 1 ∧
      (s.request m t r).2.2.queue =
        Function.update s.queue (m, t) (s.obj.curSeq :: s.queue (m, t)) := by
  rcases request_cases m t r with ⟨-, hfail, -, -⟩ | ⟨e, he, -, -, hst, htok, hsys⟩
  · exact absurd h hfail
  · rw [hst] at h
    obtain ⟨hqueue, hseq⟩ := requestWith_success (s := s.taken) he h
    rw [htok, hsys, if_pos h, hseq, hqueue, s.same_taken.queue]
    exact ⟨rfl, rfl, rfl⟩

/-- The caller of `rtw_phl_pkt_ofld_null_request` for a mode from `WLAN_MD_11N` on is given the
token of the second request only, while the first one stays in the table. -/
theorem nullRequest_token {r₁ r₂ : RequestReply} (h₁ : (s.request m .nullData r₁).1 = .success)
    (h₂ : ((s.request m .nullData r₁).2.2.request m .qosNull r₂).1 = .success) :
    (s.nullRequest m true r₁ r₂).1 = .success ∧
      (s.nullRequest m true r₁ r₂).2.1 = some (s.obj.curSeq + 1) ∧
      s.obj.curSeq ∈ (s.nullRequest m true r₁ r₂).2.2.queue (m, .nullData) := by
  obtain ⟨-, hseq, hqueue⟩ := request_success h₁
  obtain ⟨htok, -, hqueue'⟩ := request_success h₂
  have hnull : s.nullRequest m true r₁ r₂ =
      (((s.request m .nullData r₁).2.2.request m .qosNull r₂).1,
        ((s.request m .nullData r₁).2.2.request m .qosNull r₂).2.1.or
          (s.request m .nullData r₁).2.1,
        ((s.request m .nullData r₁).2.2.request m .qosNull r₂).2.2) := rfl
  have hne : (m, PktType.nullData) ≠ (m, PktType.qosNull) := by
    intro h
    cases congrArg Prod.snd h
  rw [hnull]
  refine ⟨h₂, ?_, ?_⟩
  · rw [htok, hseq, some_or]
  · rw [hqueue', update_of_ne hne, hqueue, update_self]
    exact List.mem_cons_self

lemma requestWith_outcome (hs : s.Mirrors) (he : s.getEntry m = some e) (t : PktType)
    (token : UInt32) (r : RequestReply) :
    ((s.requestWith e t token r).1 = .success ∧ (s.requestWith e t token r).2.queue =
      Function.update s.queue (m, t) (token :: s.queue (m, t))) ∨
    ((s.requestWith e t token r).1 ≠ .success ∧ (s.requestWith e t token r).2.queue = s.queue ∧
      ((s.requestWith e t token r).2.Mirrors → s.Same (s.requestWith e t token r).2)) := by
  have hq := queue_of_getEntry he t
  rcases requestWith_cases he t token r with ⟨-, hreq⟩ | ⟨-, -, hreq⟩ |
    ⟨id, hid, -, -, -, -, hreq⟩ | ⟨id, -, -, -, -, -, hreq⟩
  · rw [hreq, hq]
    exact .inl ⟨rfl, queue_setInfo he t _ _⟩
  · have hsame : s.Same (s.setEntry e s.fw) := ⟨entryQ_setEntry_self hs.macids he _, rfl, rfl⟩
    rw [hreq]
    exact .inr ⟨Status.failure_ne, hsame.queue, fun _ => hsame⟩
  · rw [hreq]
    refine .inr ⟨Status.failure_ne, ?_, fun hm => absurd hm (not_mirrors_leaked hs he hid id)⟩
    funext k
    rw [Sys.queue, Sys.queue, info_congr (entryQ_setEntry_self hs.macids he _)]
  · rw [hreq, hq]
    exact .inl ⟨rfl, queue_setInfo he t _ _⟩

lemma cancel_outcome (hs : s.Mirrors) (m : UInt16) (t : PktType) (token : UInt32)
    (dr : DelReply) :
    ((s.cancel m t token dr).1 = .success ∧ (s.cancel m t token dr).2.queue =
      Function.update s.queue (m, t) ((s.queue (m, t)).erase token)) ∨
    ((s.cancel m t token dr).1 ≠ .success ∧ s.Same (s.cancel m t token dr).2) := by
  cases he : s.getEntry m with
  | none =>
    have hfail : s.cancel m t token dr = (.failure, s) := by rw [cancel, he]
    rw [hfail]
    exact .inr ⟨Status.failure_ne, rfl, rfl, rfl⟩
  | some e =>
    have hq := queue_of_getEntry he t
    by_cases hid : (e.pktInfo t).id = notUsed
    · have hempty : s.queue (m, t) = [] := by
        rw [hq]
        by_contra hne
        exact (hs.used _ _ (info_of_getEntry he t)).2 hne hid
      rw [cancel_unused he hid, hempty]
      refine .inl ⟨rfl, ?_⟩
      rw [List.erase_nil, ← hempty, update_eq_self]
    · by_cases htok : token ∈ (e.pktInfo t).reqQ
      · by_cases hlast : (e.pktInfo t).reqQ = [token]
        · rw [cancel_last hs he hid hlast, hq]
          cases dr with
          | deleted => exact .inl ⟨rfl, queue_setInfo he t _ _⟩
          | refused =>
            exact .inr ⟨Status.failure_ne, entryQ_setEntry_self hs.macids he _, rfl, rfl⟩
          | unanswered => exact .inl ⟨rfl, queue_setInfo he t _ _⟩
        · rw [cancel_shared hs he hid htok hlast, hq]
          exact .inl ⟨rfl, queue_setInfo he t _ _⟩
      · rw [cancel_unknown he hid htok]
        exact .inr ⟨Status.failure_ne, rfl, rfl, rfl⟩

lemma Mirrors.cancels (hs : s.Mirrors) (htok : token ∈ s.queue k) :
    World.Cancels s k token := by
  have hsuccess : (s.cancel k.1 k.2 token .deleted).1 = .success := by
    cases hinfo : s.info k with
    | none =>
      rw [queue_of_none hinfo] at htok
      exact absurd htok List.not_mem_nil
    | some info =>
      obtain ⟨e, he, rfl⟩ := info_eq_some_iff.1 hinfo
      rw [queue_of_info hinfo] at htok
      have hid : (e.pktInfo k.2).id ≠ notUsed :=
        (hs.used _ _ hinfo).2 (List.ne_nil_of_mem htok)
      by_cases hlast : (e.pktInfo k.2).reqQ = [token]
      · rw [cancel_last hs he hid hlast]
      · rw [cancel_shared hs he hid htok hlast]
  refine ⟨htok, hsuccess, ?_⟩
  rcases cancel_outcome hs k.1 k.2 token .deleted with ⟨-, hqueue⟩ | ⟨hfail, -⟩
  · have hnodup : (s.queue k).Nodup := hs.sound.nodup k
    rw [hqueue, update_self]
    exact hnodup.not_mem_erase
  · exact absurd hsuccess hfail

end Sys

namespace World

variable {w : World}

structure Inv (w : World) : Prop where
  mirrors : w.sys.Mirrors
  granted : w.granted = w.sys.queue

lemma Inv.promise (h : w.Inv) : w.Promise :=
  ⟨h.mirrors, fun _ _ htok => h.mirrors.cancels (h.granted ▸ htok)⟩

lemma inv_init (ids : UInt8 → GeneralPktIds) : (init ids).Inv where
  mirrors :=
    { macids := List.nodup_nil
      counts := fun _ _ h => absurd h (some_ne_none _).symm
      tokens := fun _ _ h => absurd h (some_ne_none _).symm
      used := fun _ _ h => absurd h (some_ne_none _).symm
      held := fun _ _ h => absurd h (some_ne_none _).symm
      general := fun _ _ h => absurd h (some_ne_none _).symm
      noneLeft := fun _ _ h => absurd h (some_ne_none _).symm }
  granted := rfl

lemma step_mirrors_iff (h : w.sys.Mirrors) (op : Op) : (w.step op).sys.Mirrors ↔ w.Ok op := by
  cases op with
  | addEntry m alloc update => exact Sys.addEntry_mirrors_iff h alloc update
  | delEntry m r =>
    cases he : w.sys.getEntry m with
    | none =>
      have hsame : (w.sys.delEntry m r).2 = w.sys := by rw [Sys.delEntry, he]
      change (w.sys.delEntry m r).2.Mirrors ↔ _
      rw [hsame]
      exact iff_of_true h fun e he' => absurd (he.symm.trans he') (some_ne_none e).symm
    | some e =>
      refine ((Sys.dropping_delEntry h he r).mirrors_iff h he).trans ?_
      exact ⟨fun hdel e' he' => Option.some.inj (he.symm.trans he') ▸ hdel, fun hok => hok e he⟩
  | resetEntry m r =>
    cases he : w.sys.getEntry m with
    | none =>
      have hsame : (w.sys.resetEntry m r).2 = w.sys := by rw [Sys.resetEntry, he]
      change (w.sys.resetEntry m r).2.Mirrors ↔ _
      rw [hsame]
      exact iff_of_true h fun e he' => absurd (he.symm.trans he') (some_ne_none e).symm
    | some e =>
      refine ((Sys.dropping_resetEntry h he r).mirrors_iff h he).trans ?_
      exact ⟨fun hdel e' he' => Option.some.inj (he.symm.trans he') ▸ hdel, fun hok => hok e he⟩
  | request m t r => exact Sys.request_mirrors_iff h m t r
  | cancel m t token dr => exact Sys.cancel_mirrors_iff h m t token dr

lemma dropGranted_eq (h : w.Inv) {s' : Sys} {m : UInt16} {e : PktOfldEntry}
    {r : PktType → DelReply} (hd : w.sys.Dropping s' m e r) :
    w.dropGranted m .success = s'.queue := by
  funext k
  rw [hd.queue_eq, dropGranted, h.granted]
  by_cases hk : k.1 = m
  · rw [if_pos hk, if_pos ⟨rfl, hk⟩]
  · rw [if_neg hk, if_neg fun hc => hk hc.2]

lemma dropGranted_failure (m : UInt16) : w.dropGranted m .failure = w.granted := by
  funext k
  exact if_neg fun hc => absurd hc.1 (by decide)

lemma Inv.granted_step (h : w.Inv) (op : Op) : (w.step op).granted = (w.step op).sys.queue := by
  cases op with
  | addEntry m alloc update =>
    change w.granted = (w.sys.addEntry m alloc update).2.queue
    rw [Sys.queue_addEntry, h.granted]
  | delEntry m r =>
    change w.dropGranted m (w.sys.delEntry m r).1 = (w.sys.delEntry m r).2.queue
    cases he : w.sys.getEntry m with
    | none =>
      have hfail : w.sys.delEntry m r = (.failure, w.sys) := by rw [Sys.delEntry, he]
      rw [hfail, dropGranted_failure, h.granted]
    | some e =>
      have hok : (w.sys.delEntry m r).1 = .success := by rw [Sys.delEntry, he]
      rw [hok]
      exact dropGranted_eq h (Sys.dropping_delEntry h.mirrors he r)
  | resetEntry m r =>
    change w.dropGranted m (w.sys.resetEntry m r).1 = (w.sys.resetEntry m r).2.queue
    cases he : w.sys.getEntry m with
    | none =>
      have hfail : w.sys.resetEntry m r = (.failure, w.sys) := by rw [Sys.resetEntry, he]
      rw [hfail, dropGranted_failure, h.granted]
    | some e =>
      have hok : (w.sys.resetEntry m r).1 = .success := by rw [Sys.resetEntry, he]
      rw [hok]
      exact dropGranted_eq h (Sys.dropping_resetEntry h.mirrors he r)
  | request m t r =>
    change Function.update w.granted (m, t)
      ((w.sys.request m t r).2.1.toList ++ w.granted (m, t)) = (w.sys.request m t r).2.2.queue
    rw [h.granted]
    rcases Sys.request_cases m t r with ⟨-, -, htok, hsame⟩ | ⟨e, he, -, -, -, htok, hsys⟩
    · rw [htok, hsame.queue]
      exact update_eq_self ..
    · have htaken := w.sys.same_taken
      rw [htok, hsys]
      rcases Sys.requestWith_outcome (htaken.mirrors h.mirrors) he t w.sys.obj.curSeq r with
        ⟨hok, hq⟩ | ⟨hfail, hq, -⟩
      · rw [if_pos hok, hq, htaken.queue]
        rfl
      · rw [if_neg hfail, hq, htaken.queue]
        exact update_eq_self ..
  | cancel m t token dr =>
    change Function.update w.granted (m, t) (if (w.sys.cancel m t token dr).1 = .success then
      (w.granted (m, t)).erase token else w.granted (m, t)) =
        (w.sys.cancel m t token dr).2.queue
    rw [h.granted]
    rcases Sys.cancel_outcome h.mirrors m t token dr with ⟨hok, hq⟩ | ⟨hfail, hsame⟩
    · rw [if_pos hok, hq]
    · rw [if_neg hfail, hsame.queue, update_eq_self]

lemma Inv.step (h : w.Inv) {op : Op} (hok : w.Ok op) : (w.step op).Inv :=
  ⟨(step_mirrors_iff h.mirrors op).2 hok, h.granted_step op⟩

lemma Inv.clean (h : w.Inv) {op : Op} (hok : w.Ok op) (hop : op.requestsOrCancels = true)
    (hfail : (w.exec op).1 ≠ .success) : w.sys.Same (w.step op).sys := by
  cases op with
  | addEntry m alloc update => exact absurd hop Bool.false_ne_true
  | delEntry m r => exact absurd hop Bool.false_ne_true
  | resetEntry m r => exact absurd hop Bool.false_ne_true
  | request m t r =>
    have hm : (w.sys.request m t r).2.2.Mirrors := (Sys.request_mirrors_iff h.mirrors m t r).2 hok
    change w.sys.Same (w.sys.request m t r).2.2
    rcases Sys.request_cases m t r with ⟨-, -, -, hsame⟩ | ⟨e, he, -, -, hst, -, hsys⟩
    · exact hsame
    · rw [hsys] at hm ⊢
      rcases Sys.requestWith_outcome (w.sys.same_taken.mirrors h.mirrors) he t
        w.sys.obj.curSeq r with ⟨hsuccess, -⟩ | ⟨-, -, hsame⟩
      · exact absurd (hst.trans hsuccess) hfail
      · exact hsame hm
  | cancel m t token dr =>
    rcases Sys.cancel_outcome h.mirrors m t token dr with ⟨hsuccess, -⟩ | ⟨-, hsame⟩
    · exact absurd hsuccess hfail
    · exact hsame

lemma right_iff (h : w.Inv) (op : Op) : w.Right op ↔ w.Ok op := by
  constructor
  · intro hr
    exact (step_mirrors_iff h.mirrors op).1 hr.1.1
  · intro hok
    exact ⟨(h.step hok).promise, h.clean hok⟩

/-- In a run of calls, the table mirrors the firmware after each of them, what was granted can
be cancelled, and requests and cancel calls that fail change nothing, if and only if each call
meets its condition. -/
theorem pkt_ofld_mirrors_iff (ids : UInt8 → GeneralPktIds) (ops : List Op) :
    Guarded step Right (init ids) ops ↔ Guarded step Ok (init ids) ops :=
  @guarded_congr _ _ step Right Ok Inv (fun _ op h => right_iff h op) (fun _ _ h hok => h.step hok)
    _ (inv_init ids) ops

def noIds : GeneralPktIds := ⟨notUsed, notUsed, notUsed, notUsed, notUsed, notUsed, notUsed⟩

def oneEntry : World := (init fun _ => noIds).step (.addEntry 1 true true)

def updateFails : Op := .request 1 .nullData { update := false }

/-- The request fails, and leaves a packet in the firmware that the table does not have. -/
theorem pkt_ofld_update_fails :
    (oneEntry.exec updateFails).1 = .failure ∧ oneEntry.sys.fw.pkts 0 = none ∧
      (oneEntry.step updateFails).sys.fw.pkts 0 = some (1, .nullData) ∧
      (oneEntry.step updateFails).sys.info (1, .nullData) = some ⟨[], 0, notUsed⟩ ∧
      ¬ (oneEntry.step updateFails).Promise ∧
      ¬ oneEntry.sys.Same (oneEntry.step updateFails).sys := by
  have hpkt : (oneEntry.step updateFails).sys.fw.pkts 0 = some (1, .nullData) := by decide
  have hinfo : (oneEntry.step updateFails).sys.info (1, .nullData) = some ⟨[], 0, notUsed⟩ := by
    decide
  refine ⟨by decide, by decide, hpkt, hinfo, ?_, ?_⟩
  · intro hp
    obtain ⟨info, hinfo', -, hne⟩ := hp.1.noneLeft 0 _ hpkt
    rw [hinfo] at hinfo'
    exact hne (Option.some.inj hinfo' ▸ rfl)
  · intro hsame
    rw [hsame.2.2] at hpkt
    exact absurd hpkt (by decide)

end World

end Rtl8831.Phl.PktOfld
