import Rtl8831.Phl.PktOfldTable

/-!
# What a call does to the leases of offloaded packets

Each call is one of the operations of `Lease`, unless it meets one of the cases in which the
driver loses track of a packet.  For each call there is a condition that leaves out just these:
the table still mirrors the firmware if and only if the condition is met.
-/

namespace Rtl8831.Phl.PktOfld

open Lib Function Option PktOfldInfo List

namespace PktOfldEntry

variable (e : PktOfldEntry) (t : PktType) (info info' : PktOfldInfo)

@[simp] lemma pktInfo_setInfo : (e.setInfo t info).pktInfo t = info := update_self ..

@[simp] lemma macid_setInfo : (e.setInfo t info).macid = e.macid := rfl

@[simp] lemma setInfo_setInfo : (e.setInfo t info).setInfo t info' = e.setInfo t info' := by
  rw [setInfo, setInfo, setInfo, update_idem]

@[simp] lemma setInfo_self : e.setInfo t (e.pktInfo t) = e := by
  rw [setInfo, update_eq_self]

@[simp] lemma setId_setInfo (id : UInt8) :
    (e.setInfo t info).setId t id = e.setInfo t { info with id } := by
  rw [setId, setInfo_setInfo, pktInfo_setInfo]

end PktOfldEntry

namespace Fw

variable {fw : Fw} {pkt : Key}

lemma add_of_none (h : fw.allocId = none) (r : AddReply) : fw.add pkt r = (none, fw) := by
  rw [add, h]

def put (fw : Fw) (id : UInt8) (pkt : Key) : Fw :=
  { fw with pkts := Function.update fw.pkts id (some pkt) }

def withIds (fw : Fw) (e : PktOfldEntry) : Fw :=
  { fw with ids := Function.update fw.ids e.macid.toUInt8 e.generalIds }

def drop (fw : Fw) (id : UInt8) : Fw :=
  { fw with pkts := Function.update fw.pkts id none }

variable {id : UInt8}

lemma add_of_some (h : fw.allocId = some id) (r : AddReply) :
    fw.add pkt r =
      match r with
      | .added => (some id, fw.put id pkt)
      | .refused => (none, fw)
      | .timedOut => (none, fw.put id pkt) := by
  rw [add, h]
  rfl

end Fw

namespace Sys

variable {s s' : Sys} {e : PktOfldEntry} {m : UInt16} {t : PktType} {k : Key} {token : UInt32}

lemma info_addEntry (h : s.getEntry m = none) (update : Bool) (k : Key) :
    (s.addEntry m true update).2.info k =
      if k.1 = m then some ⟨[], 0, notUsed⟩ else s.info k := by
  have hlook : (s.addEntry m true update).2.getEntry k.1 =
      if m = k.1 then some (initEntry m) else s.getEntry k.1 := by
    rw [addEntry, h]
    exact lookupKey_cons
  rw [Sys.info, hlook]
  by_cases hk : k.1 = m
  · rw [if_pos hk, if_pos hk.symm]
    rfl
  · rw [if_neg hk, if_neg (Ne.symm hk)]
    rfl

lemma info_of_getEntry_none (h : s.getEntry k.1 = none) : s.info k = none := by
  rw [Sys.info, h]
  rfl

lemma view_addEntry (h : s.getEntry m = none) (update : Bool) :
    (s.addEntry m true update).2.view = s.view := by
  have hholders : queueOf ∘ (s.addEntry m true update).2.info = queueOf ∘ s.info := by
    funext k
    rw [comp_apply, comp_apply, info_addEntry h]
    by_cases hk : k.1 = m
    · rw [if_pos hk, info_of_getEntry_none (hk.symm ▸ h)]
      rfl
    · rw [if_neg hk]
  have hslot : slotOf ∘ (s.addEntry m true update).2.info = slotOf ∘ s.info := by
    funext k
    rw [comp_apply, comp_apply, info_addEntry h]
    by_cases hk : k.1 = m
    · rw [if_pos hk, info_of_getEntry_none (hk.symm ▸ h)]
      rfl
    · rw [if_neg hk]
  have hstore : (s.addEntry m true update).2.fw.pkts = s.fw.pkts := by
    rw [addEntry, h]
    cases update <;> rfl
  rw [view, hholders, hslot, hstore]
  rfl

def AddEntryOk (s : Sys) (m : UInt16) (alloc update : Bool) : Prop :=
  s.getEntry m = none → alloc = true → update = true → s.NoAlias m

lemma addEntry_new_mirrors_iff (hs : s.Mirrors) (h : s.getEntry m = none) (update : Bool) :
    (s.addEntry m true update).2.Mirrors ↔ (s.addEntry m true update).2.GeneralOk := by
  have hmac : ((s.addEntry m true update).2.obj.entryQ.map PktOfldEntry.macid).Nodup := by
    rw [addEntry, h]
    refine nodup_cons.2 ⟨?_, hs.macids⟩
    intro hmem
    obtain ⟨e, he, rfl⟩ := List.mem_map.1 hmem
    rw [getEntry, lookupKey_of_mem hs.macids he] at h
    exact some_ne_none e h
  have hcnt : (s.addEntry m true update).2.Counted := by
    intro k info hinfo
    rw [info_addEntry h] at hinfo
    by_cases hk : k.1 = m
    · rw [if_pos hk] at hinfo
      rw [← Option.some.inj hinfo]
      rfl
    · rw [if_neg hk] at hinfo
      exact hs.counts k info hinfo
  have hsound : (s.addEntry m true update).2.view.Sound := by
    rw [view_addEntry h]
    exact hs.sound
  rw [mirrors_iff]
  exact ⟨fun hm => hm.2.2.2, fun hg => ⟨hmac, hcnt, hsound, hg⟩⟩

lemma addEntry_mirrors_iff (hs : s.Mirrors) (alloc update : Bool) :
    (s.addEntry m alloc update).2.Mirrors ↔ s.AddEntryOk m alloc update := by
  cases h : s.getEntry m with
  | some e =>
    have hsame : (s.addEntry m alloc update).2 = s := by rw [addEntry, h]
    rw [hsame]
    exact iff_of_true hs fun hnone => absurd (h.symm.trans hnone) (some_ne_none e)
  | none =>
    cases alloc with
    | false =>
      have hsame : (s.addEntry m false update).2 = s := by
        rw [addEntry, h]
        rfl
      rw [hsame]
      exact iff_of_true hs fun _ hf => absurd hf Bool.false_ne_true
    | true =>
      rw [addEntry_new_mirrors_iff hs h]
      cases update with
      | false =>
        have hids : (s.addEntry m true false).2.fw.ids = s.fw.ids := by
          rw [addEntry, h]
          rfl
        refine iff_of_true (GeneralOk.of_slots hs.general hids ?_)
          fun _ _ hf => absurd hf Bool.false_ne_true
        rw [view_addEntry h]
        exact fun _ _ hid => hid
      | true =>
        have he : (s.addEntry m true true).2.getEntry m = some (initEntry m) := by
          rw [addEntry, h]
          exact lookupKey_cons.trans (if_pos rfl)
        have hids : (s.addEntry m true true).2.fw.ids =
            Function.update s.fw.ids m.toUInt8 (initEntry m).generalIds := by
          rw [addEntry, h]
          rfl
        have hsound : (s.addEntry m true true).2.view.Sound := by
          rw [view_addEntry h]
          exact hs.sound
        rw [generalOk_updateIds_iff hs.general hsound he
          (fun k hk => (info_addEntry h true k).trans (if_neg hk)) hids]
        exact ⟨fun hna _ _ _ => hna, fun hok => hok h rfl rfl⟩

/-- The entry of `m` is gone, or has no requests, and its packets were deleted. -/
structure Dropping (s s' : Sys) (m : UInt16) (e : PktOfldEntry) (r : PktType → DelReply) :
    Prop where
  macids : (s'.obj.entryQ.map PktOfldEntry.macid).Nodup
  other : ∀ k, k.1 ≠ m → s'.info k = s.info k
  own : ∀ k info, k.1 = m → s'.info k = some info → info = ⟨[], 0, notUsed⟩
  fw : s'.fw = cancelEntryPkt s.fw e r

namespace Dropping

variable {r : PktType → DelReply}

lemma view_own (h : s.Dropping s' m e r) (hk : k.1 = m) :
    s'.view.holders k = [] ∧ s'.view.slot k = none := by
  change s'.queue k = [] ∧ _
  cases hinfo : s'.info k with
  | none => exact ⟨queue_of_none hinfo, view_slot_of_none hinfo⟩
  | some info =>
    rw [queue_of_info hinfo, view_slot_of_info hinfo, h.own k info hk hinfo]
    exact ⟨rfl, rfl⟩

lemma view_other (h : s.Dropping s' m e r) (hk : k.1 ≠ m) :
    s'.view.holders k = s.view.holders k ∧ s'.view.slot k = s.view.slot k := by
  change queueOf (s'.info k) = queueOf (s.info k) ∧ slotOf (s'.info k) = slotOf (s.info k)
  rw [h.other k hk]
  exact ⟨rfl, rfl⟩

lemma counted (h : s.Dropping s' m e r) (hs : s.Mirrors) : s'.Counted := by
  intro k info hinfo
  by_cases hk : k.1 = m
  · rw [h.own k info hk hinfo]
    rfl
  · rw [h.other k hk] at hinfo
    exact hs.counts k info hinfo

lemma view_eq (h : s.Dropping s' m e r) (hs : s.Mirrors) (he : s.getEntry m = some e)
    (hdel : ∀ t, (e.pktInfo t).id ≠ notUsed → r t = .deleted) :
    s'.view = s.view.release fun k => decide (k.1 = m) := by
  have hholders : s'.view.holders = (s.view.release fun k => decide (k.1 = m)).holders := by
    funext k
    by_cases hk : k.1 = m
    · simp [Lease.release, hk, (h.view_own hk).1]
    · simp [Lease.release, hk, (h.view_other hk).1]
  have hslot : s'.view.slot = (s.view.release fun k => decide (k.1 = m)).slot := by
    funext k
    by_cases hk : k.1 = m
    · simp [Lease.release, hk, (h.view_own hk).2]
    · simp [Lease.release, hk, (h.view_other hk).2]
  have hstore : s'.view.store = (s.view.release fun k => decide (k.1 = m)).store := by
    funext id
    change s'.fw.pkts id = (s.fw.pkts id).filter fun k => !decide (k.1 = m)
    rw [h.fw, cancelEntryPkt_pkts]
    by_cases hd : ∃ t ∈ PktType.all, Dropped e r id t
    · obtain ⟨t, ht, hslot, hr⟩ := hd
      have hheld : s.fw.pkts id = some (m, t) := by
        apply (hs.sound.stored (m, t) id).1
        rw [view_slot_of_info (info_of_getEntry he t)]
        exact hslot
      rw [if_pos ⟨t, ht, hslot, hr⟩, hheld, filter_some, if_neg (by simp)]
    · rw [if_neg hd]
      cases hid : s.fw.pkts id with
      | none => rfl
      | some k =>
        have hk : k.1 ≠ m := by
          rintro rfl
          have hslot := (hs.sound.stored k id).2 hid
          rw [view_slot_of_info (info_of_getEntry he k.2)] at hslot
          have hne := (slot_eq_some_iff.1 hslot).2
          exact hd ⟨k.2, k.2.mem_all, hslot, hdel k.2 hne⟩
        rw [filter_some, if_pos (by simpa using hk)]
  calc
    s'.view = ⟨s'.view.holders, s'.view.slot, s'.view.store⟩ := rfl
    _ = _ := by rw [hholders, hslot, hstore]

lemma mirrors_iff (h : s.Dropping s' m e r) (hs : s.Mirrors) (he : s.getEntry m = some e) :
    s'.Mirrors ↔ ∀ t, (e.pktInfo t).id ≠ notUsed → r t = .deleted := by
  constructor
  · intro hm t hne
    by_contra hr
    have hslot : s.view.slot (m, t) = some (e.pktInfo t).id :=
      view_slot_eq_some_iff.2 ⟨_, info_of_getEntry he t, rfl, hne⟩
    -- the packet is still there, and was that of this type alone
    have hkept : s'.fw.pkts (e.pktInfo t).id = some (m, t) := by
      rw [h.fw, cancelEntryPkt_pkts, if_neg]
      · exact (hs.sound.stored _ _).1 hslot
      · rintro ⟨t', -, hslot', hr'⟩
        have hslot'' : s.view.slot (m, t') = some (e.pktInfo t).id := by
          rw [view_slot_of_info (info_of_getEntry he t')]
          exact hslot'
        have ht : t = t' := congrArg Prod.snd (hs.sound.slot_inj hslot hslot'')
        exact hr (ht ▸ hr')
    have hheld := (hm.sound.stored (m, t) _).2 hkept
    rw [(h.view_own rfl).2] at hheld
    exact some_ne_none _ hheld.symm
  · intro hdel
    have hsound : s'.view.Sound := by
      rw [h.view_eq hs he hdel]
      exact hs.sound.release _
    refine Sys.mirrors_iff.2 ⟨h.macids, h.counted hs, hsound, GeneralOk.of_slots hs.general ?_ ?_⟩
    · rw [h.fw, cancelEntryPkt_ids]
    · rw [h.view_eq hs he hdel]
      exact fun k id => Lease.slot_of_release

end Dropping

lemma dropping_delEntry (hs : s.Mirrors) (he : s.getEntry m = some e)
    (r : PktType → DelReply) : s.Dropping (s.delEntry m r).2 m e r := by
  have heq : (s.delEntry m r).2 =
      { obj := { s.obj with
          entryQ := eraseKey PktOfldEntry.macid m s.obj.entryQ
          entryCnt := s.obj.entryCnt - 1 }
        fw := cancelEntryPkt s.fw e r } := by
    rw [delEntry, he]
  have hlook : ∀ m', (s.delEntry m r).2.getEntry m' = if m' = m then none else s.getEntry m' := by
    intro m'
    rw [heq]
    exact lookupKey_eraseKey
  constructor
  · rw [heq]
    exact nodup_eraseKey hs.macids
  · intro k hk
    rw [Sys.info, hlook, if_neg hk]
    rfl
  · intro k info hk hinfo
    rw [Sys.info, hlook, if_pos hk] at hinfo
    exact absurd hinfo (some_ne_none info).symm
  · rw [heq]

lemma dropping_resetEntry (hs : s.Mirrors) (he : s.getEntry m = some e)
    (r : PktType → DelReply) : s.Dropping (s.resetEntry m r).2 m e r := by
  have hm : e.macid = m := getEntry_macid he
  have heq : (s.resetEntry m r).2 = s.setEntry e.delEntryReq (cancelEntryPkt s.fw e r) := by
    rw [resetEntry, he]
  have hinfo : ∀ k, (s.resetEntry m r).2.info k =
      if k.1 = m then some (e.delEntryReq.pktInfo k.2) else s.info k := by
    intro k
    have hne : s.getEntry e.delEntryReq.macid ≠ none := by
      change s.getEntry e.macid ≠ none
      rw [hm, he]
      exact some_ne_none e
    rw [heq, info_setEntry hne]
    change (if k.1 = e.macid then _ else _) = _
    rw [hm]
  constructor
  · rw [heq, macids_setEntry]
    exact hs.macids
  · intro k hk
    rw [hinfo, if_neg hk]
  · intro k info hk hk'
    rw [hinfo, if_pos hk] at hk'
    have hcnt := hs.counts (m, k.2) _ (info_of_getEntry he k.2)
    rw [← Option.some.inj hk', PktOfldEntry.delEntryReq]
    exact delAllReq_eq hcnt
  · rw [heq]
    rfl

variable {r : RequestReply} {id : UInt8}

lemma requestWith_offloaded (h : (e.pktInfo t).id ≠ notUsed) :
    s.requestWith e t token r =
      (.success, s.setEntry (e.setInfo t ((e.pktInfo t).addReq token)) s.fw) := by
  have hofld : ((e.setInfo t ((e.pktInfo t).addReq token)).pktInfo t).isPktOfld = true := by
    rw [PktOfldEntry.pktInfo_setInfo]
    exact isPktOfld_iff.2 h
  rw [requestWith, addPkt, if_pos hofld]

section New

variable (h : (e.pktInfo t).id = notUsed)

include h

lemma not_isPktOfld_addReq :
    ¬ ((e.setInfo t ((e.pktInfo t).addReq token)).pktInfo t).isPktOfld = true := by
  rw [PktOfldEntry.pktInfo_setInfo, isPktOfld_iff]
  exact not_not.2 h

lemma takenBack :
    ((e.setInfo t ((e.pktInfo t).addReq token)).setId t notUsed).setInfo t
      (((((e.setInfo t ((e.pktInfo t).addReq token)).setId t notUsed).pktInfo t)).delReq token) =
      e := by
  have hinfo : delReq { (e.pktInfo t).addReq token with id := notUsed } token =
      e.pktInfo t := by
    rw [← h]
    exact delReq_addReq
  rw [PktOfldEntry.setId_setInfo, PktOfldEntry.pktInfo_setInfo, hinfo,
    PktOfldEntry.setInfo_setInfo, PktOfldEntry.setInfo_self]

lemma requestWith_new :
    s.requestWith e t token r =
      if t.implemented && r.constructs then
        match s.fw.add (e.macid, t) r.add with
        | (none, fw) => (.failure, s.setEntry e fw)
        | (some id, fw) =>
          if r.update then
            (.success, s.setEntry (e.setInfo t { (e.pktInfo t).addReq token with id })
              (fw.withIds (e.setInfo t { (e.pktInfo t).addReq token with id })))
          else (.failure, s.setEntry e fw)
      else (.failure, s.setEntry e s.fw) := by
  have hback : (e.setInfo t ((e.pktInfo t).addReq token)).setInfo t
      (((e.setInfo t ((e.pktInfo t).addReq token)).pktInfo t).delReq token) = e := by
    rw [PktOfldEntry.pktInfo_setInfo, PktOfldEntry.setInfo_setInfo, delReq_addReq,
      PktOfldEntry.setInfo_self]
  have hfail := fun fw => congrArg (fun e => (Status.failure, s.setEntry e fw)) (@takenBack e t token h)
  rw [requestWith, addPkt, if_neg (not_isPktOfld_addReq h)]
  by_cases hc : (t.implemented && r.constructs) = true
  · rw [if_pos hc, if_pos hc, PktOfldEntry.macid_setInfo]
    rcases s.fw.add (e.macid, t) r.add with ⟨_ | id, fw⟩
    · exact hfail fw
    · cases r.update with
      | false => exact hfail fw
      | true =>
        exact congrArg (fun e => (Status.success, s.setEntry e (fw.withIds e)))
          (PktOfldEntry.setId_setInfo e t ((e.pktInfo t).addReq token) id)
  · rw [if_neg hc, if_neg hc]
    exact congrArg (fun e => (Status.failure, s.setEntry e s.fw)) hback

end New

lemma requestWith_cases (he : s.getEntry m = some e) (t : PktType) (token : UInt32)
    (r : RequestReply) :
    ((e.pktInfo t).id ≠ notUsed ∧ s.requestWith e t token r =
      (.success, s.setEntry (e.setInfo t ((e.pktInfo t).addReq token)) s.fw)) ∨
    ((e.pktInfo t).id = notUsed ∧
      ((t.implemented && r.constructs) = false ∨ s.fw.allocId = none ∨ r.add = .refused) ∧
      s.requestWith e t token r = (.failure, s.setEntry e s.fw)) ∨
    (∃ id, (e.pktInfo t).id = notUsed ∧ (t.implemented && r.constructs) = true ∧
      s.fw.allocId = some id ∧ r.add ≠ .refused ∧ ¬ (r.add = .added ∧ r.update = true) ∧
      s.requestWith e t token r = (.failure, s.setEntry e (s.fw.put id (m, t)))) ∨
    ∃ id, (e.pktInfo t).id = notUsed ∧ (t.implemented && r.constructs) = true ∧
      s.fw.allocId = some id ∧ r.add = .added ∧ r.update = true ∧
      s.requestWith e t token r =
        (.success, s.setEntry (e.setInfo t { (e.pktInfo t).addReq token with id })
          ((s.fw.put id (m, t)).withIds (e.setInfo t { (e.pktInfo t).addReq token with id }))) := by
  obtain rfl : e.macid = m := getEntry_macid he
  by_cases hid : (e.pktInfo t).id = notUsed
  · have hreq : s.requestWith e t token r = _ := requestWith_new hid
    cases hc : t.implemented && r.constructs with
    | false =>
      rw [hc] at hreq
      exact .inr (.inl ⟨hid, .inl rfl, hreq⟩)
    | true =>
      rw [hc, if_pos rfl] at hreq
      cases halloc : s.fw.allocId with
      | none =>
        rw [Fw.add_of_none halloc] at hreq
        exact .inr (.inl ⟨hid, .inr (.inl rfl), hreq⟩)
      | some id =>
        rw [Fw.add_of_some halloc] at hreq
        cases hr : r.add with
        | refused =>
          rw [hr] at hreq
          exact .inr (.inl ⟨hid, .inr (.inr rfl), hreq⟩)
        | timedOut =>
          rw [hr] at hreq
          exact .inr (.inr (.inl ⟨id, hid, rfl, rfl, by decide, by simp, hreq⟩))
        | added =>
          rw [hr] at hreq
          cases hup : r.update with
          | false =>
            rw [hup] at hreq
            exact .inr (.inr (.inl ⟨id, hid, rfl, rfl, by decide, by simp, hreq⟩))
          | true =>
            rw [hup] at hreq
            exact .inr (.inr (.inr ⟨id, hid, rfl, rfl, rfl, rfl, hreq⟩))
  · exact .inl ⟨hid, requestWith_offloaded hid⟩

/-- What a request must meet so that the driver keeps track: the token is not in use, and the
count does not wrap; or the packet that is added is also reported, and the general ids are
updated, without those of another station. -/
def RequestOk (s : Sys) (e : PktOfldEntry) (t : PktType) (token : UInt32) (r : RequestReply) :
    Prop :=
  ((e.pktInfo t).id ≠ notUsed →
    token ∉ (e.pktInfo t).reqQ ∧ (e.pktInfo t).reqCnt + 1 ≠ 0) ∧
  ((e.pktInfo t).id = notUsed → (t.implemented && r.constructs) = true → s.fw.allocId ≠ none →
    r.add ≠ .refused → (r.add = .added ∧ r.update = true) ∧ s.NoAlias e.macid)

lemma toNat_add_one {n : ℕ} {cnt : UInt32} (h : cnt.toNat = n) :
    (cnt + 1).toNat = n + 1 ↔ cnt + 1 ≠ 0 := by
  have hlt := cnt.toNat_lt
  have hadd : (cnt + 1).toNat = (cnt.toNat + 1) % 2 ^ 32 := by
    rw [UInt32.toNat_add]
    rfl
  constructor
  · intro hsum hzero
    rw [hzero] at hsum
    exact Nat.succ_ne_zero n hsum.symm
  · intro hne
    have hne' : (cnt + 1).toNat ≠ 0 := fun hzero => hne (UInt32.toNat_inj.1 hzero)
    rw [hadd] at hne' ⊢
    omega

lemma joined_mirrors_iff (hs : s.Mirrors) (he : s.getEntry m = some e)
    (hid : (e.pktInfo t).id ≠ notUsed) :
    (s.setEntry (e.setInfo t ((e.pktInfo t).addReq token)) s.fw).Mirrors ↔
      token ∉ (e.pktInfo t).reqQ ∧ (e.pktInfo t).reqCnt + 1 ≠ 0 := by
  have hinfo := info_setInfo he t ((e.pktInfo t).addReq token) s.fw
  have hown := info_of_getEntry he t
  have hcnt : (s.setEntry (e.setInfo t ((e.pktInfo t).addReq token)) s.fw).Counted ↔
      (e.pktInfo t).reqCnt + 1 ≠ 0 :=
    (counted_update_iff hs.counts hinfo).trans (toNat_add_one (hs.counts _ _ hown))
  have hslot : Function.update s.view.slot (m, t) ((e.pktInfo t).addReq token).slot =
      s.view.slot := by
    have hsame : ((e.pktInfo t).addReq token).slot = s.view.slot (m, t) :=
      (view_slot_of_info hown).symm
    rw [hsame, update_eq_self]
  have hview : (s.setEntry (e.setInfo t ((e.pktInfo t).addReq token)) s.fw).view =
      s.view.join (m, t) token := by
    have hheld : s.view.holders (m, t) = (e.pktInfo t).reqQ := queue_of_info hown
    rw [view_update hinfo, hslot, Lease.join, hheld]
    rfl
  rw [mirrors_iff, hcnt, hview, macids_setEntry]
  constructor
  · rintro ⟨-, hc, hsound, -⟩
    have hnodup : (token :: s.view.holders (m, t)).Nodup := by
      simpa [Lease.join] using hsound.nodup (m, t)
    have hheld : s.view.holders (m, t) = (e.pktInfo t).reqQ := queue_of_info hown
    rw [hheld] at hnodup
    exact ⟨(nodup_cons.1 hnodup).1, hc⟩
  · rintro ⟨hfresh, hc⟩
    have hheld : s.view.holders (m, t) = (e.pktInfo t).reqQ := queue_of_info hown
    have hused : s.view.slot (m, t) ≠ none := by
      rw [view_slot_of_info hown, Ne, slot_eq_none_iff]
      exact hid
    refine ⟨hs.macids, hc, hs.sound.join hused (hheld.symm ▸ hfresh),
      GeneralOk.of_slots hs.general rfl ?_⟩
    rw [hview]
    exact fun _ _ hk => hk

lemma not_mirrors_leaked (hs : s.Mirrors) (he : s.getEntry m = some e)
    (hid : (e.pktInfo t).id = notUsed) (id : UInt8) :
    ¬ (s.setEntry e (s.fw.put id (m, t))).Mirrors := by
  intro hm
  have hinfo : (s.setEntry e (s.fw.put id (m, t))).info = s.info :=
    info_congr (entryQ_setEntry_self hs.macids he _)
  obtain ⟨info, hown, -, hne⟩ := hm.noneLeft id (m, t) (update_self ..)
  rw [hinfo, info_of_getEntry he t] at hown
  rw [← Option.some.inj hown] at hne
  exact hne hid

lemma getEntry_setInfo (he : s.getEntry m = some e) (t : PktType) (info : PktOfldInfo)
    (fw : Fw) : (s.setEntry (e.setInfo t info) fw).getEntry m = some (e.setInfo t info) := by
  obtain rfl : e.macid = m := getEntry_macid he
  have hlook : (s.setEntry (e.setInfo t info) fw).getEntry e.macid =
      if e.macid = e.macid then
        (s.getEntry e.macid).map (fun pos => { pos with pktInfo := (e.setInfo t info).pktInfo })
      else s.getEntry e.macid :=
    lookupKey_modifyKey fun _ => rfl
  rw [hlook, if_pos rfl, he]
  rfl

lemma added_mirrors_iff (hs : s.Mirrors) (he : s.getEntry m = some e)
    (hid : (e.pktInfo t).id = notUsed) (halloc : s.fw.allocId = some id) :
    (s.setEntry (e.setInfo t { (e.pktInfo t).addReq token with id })
      ((s.fw.put id (m, t)).withIds
        (e.setInfo t { (e.pktInfo t).addReq token with id }))).Mirrors ↔ s.NoAlias m := by
  obtain ⟨hfree, hne⟩ := Fw.allocId_spec halloc
  have hown := info_of_getEntry he t
  have hempty : (e.pktInfo t).reqQ = [] := by
    by_contra hq
    exact (hs.used _ _ hown).2 hq hid
  have hzero : (e.pktInfo t).reqCnt = 0 := by
    apply UInt32.toNat_inj.1
    rw [hs.counts _ _ hown, hempty]
    rfl
  generalize hinfo' : { (e.pktInfo t).addReq token with id } = info'
  have hq : info'.reqQ = [token] := by
    rw [← hinfo', addReq, hempty]
  have hslot : info'.slot = some id := by
    rw [← hinfo']
    exact slot_eq_some_iff.2 ⟨rfl, hne⟩
  have hcnt : info'.reqCnt.toNat = info'.reqQ.length := by
    rw [hq, ← hinfo', addReq, hzero]
    rfl
  have hinfo := info_setInfo he t info' ((s.fw.put id (m, t)).withIds (e.setInfo t info'))
  have hview : (s.setEntry (e.setInfo t info')
      ((s.fw.put id (m, t)).withIds (e.setInfo t info'))).view =
      s.view.acquire (m, t) id token := by
    rw [view_update hinfo, hq, hslot]
    rfl
  have hnone : s.view.slot (m, t) = none := by
    rw [view_slot_of_info hown, slot_eq_none_iff]
    exact hid
  have hsound : (s.setEntry (e.setInfo t info')
      ((s.fw.put id (m, t)).withIds (e.setInfo t info'))).view.Sound := by
    rw [hview]
    exact hs.sound.acquire hnone hfree token
  have hother : ∀ k : Key, k.1 ≠ m → (s.setEntry (e.setInfo t info')
      ((s.fw.put id (m, t)).withIds (e.setInfo t info'))).info k = s.info k := by
    intro k hk
    rw [hinfo, update_of_ne fun h => hk (congrArg Prod.fst h)]
  have hids : (s.setEntry (e.setInfo t info')
      ((s.fw.put id (m, t)).withIds (e.setInfo t info'))).fw.ids =
      Function.update s.fw.ids m.toUInt8 (e.setInfo t info').generalIds := by
    rw [← getEntry_macid he]
    rfl
  rw [mirrors_iff, macids_setEntry, counted_update_iff hs.counts hinfo,
    generalOk_updateIds_iff hs.general hsound (getEntry_setInfo he t info' _) hother hids]
  exact ⟨fun h => h.2.2.2, fun h => ⟨hs.macids, hcnt, hsound, h⟩⟩

lemma requestWith_mirrors_iff (hs : s.Mirrors) (he : s.getEntry m = some e) (t : PktType)
    (token : UInt32) (r : RequestReply) :
    (s.requestWith e t token r).2.Mirrors ↔ s.RequestOk e t token r := by
  have hm : e.macid = m := getEntry_macid he
  rcases requestWith_cases he t token r with ⟨hid, hreq⟩ | ⟨hid, hno, hreq⟩ |
    ⟨id, hid, hc, halloc, href, hnot, hreq⟩ | ⟨id, hid, hc, halloc, hadd, hup, hreq⟩
  · rw [hreq, joined_mirrors_iff hs he hid]
    exact ⟨fun h => ⟨fun _ => h, fun hf => absurd hf hid⟩, fun h => h.1 hid⟩
  · have hsame : s.Same (s.setEntry e s.fw) := ⟨entryQ_setEntry_self hs.macids he _, rfl, rfl⟩
    rw [hreq]
    refine iff_of_true (hsame.mirrors hs) ⟨fun hf => absurd hid hf, fun _ hc ha hr => ?_⟩
    rcases hno with hno | hno | hno
    · rw [hc] at hno
      exact absurd hno.symm Bool.false_ne_true
    · exact absurd hno ha
    · exact absurd hno hr
  · rw [hreq]
    refine iff_of_false (not_mirrors_leaked hs he hid id) fun hok => hnot ?_
    exact (hok.2 hid hc (by rw [halloc]; exact some_ne_none id) href).1
  · rw [hreq, added_mirrors_iff hs he hid halloc]
    constructor
    · intro hna
      exact ⟨fun hf => absurd hid hf, fun _ _ _ _ => ⟨⟨hadd, hup⟩, hm ▸ hna⟩⟩
    · intro hok
      have hr : r.add ≠ .refused := by
        rw [hadd]
        decide
      exact hm ▸ (hok.2 hid hc (by rw [halloc]; exact some_ne_none id) hr).2

variable {dr : DelReply}

section

variable (he : s.getEntry m = some e)
include he

lemma cancel_unused (hid : (e.pktInfo t).id = notUsed) :
    s.cancel m t token dr = (.success, s) := by
  rw [cancel, he]
  exact if_pos hid

lemma cancel_unknown (hid : (e.pktInfo t).id ≠ notUsed)
    (htok : token ∉ (e.pktInfo t).reqQ) : s.cancel m t token dr = (.failure, s) := by
  rw [cancel, he]
  refine (if_neg hid).trans ?_
  rw [getReq_eq_none_iff.2 htok]

lemma cancel_known (hid : (e.pktInfo t).id ≠ notUsed)
    (htok : token ∈ (e.pktInfo t).reqQ) :
    s.cancel m t token dr = match delPkt s.fw e t dr with
      | (.success, fw, e) =>
        (.success, s.setEntry (e.setInfo t ((e.pktInfo t).delReq token)) fw)
      | (_, fw, e) => (.failure, s.setEntry e fw) := by
  rw [cancel, he]
  refine (if_neg hid).trans ?_
  rw [getReq_eq_some_iff.2 ⟨rfl, htok⟩] <;> rfl

end

lemma reqCnt_sub_one_eq_zero_iff (hs : s.Mirrors) (he : s.getEntry m = some e)
    (htok : token ∈ (e.pktInfo t).reqQ) :
    (e.pktInfo t).reqCnt - 1 = 0 ↔ (e.pktInfo t).reqQ = [token] := by
  have hcnt := hs.counts _ _ (info_of_getEntry he t)
  obtain ⟨n, hn⟩ := Nat.exists_eq_succ_of_ne_zero (length_pos_of_mem htok).ne'
  have hsub : ((e.pktInfo t).reqCnt - 1).toNat = n :=
    toNat_sub_one (hcnt.trans hn)
  rw [← UInt32.toNat_inj, hsub]
  constructor
  · rintro rfl
    obtain ⟨x, hx⟩ := length_eq_one_iff.1 hn
    rw [hx, mem_singleton] at htok
    rw [hx, htok]
  · intro hq
    rw [hq] at hn
    exact (Nat.succ.inj hn).symm

lemma cancel_shared (hs : s.Mirrors) (he : s.getEntry m = some e)
    (hid : (e.pktInfo t).id ≠ notUsed) (htok : token ∈ (e.pktInfo t).reqQ)
    (hq : (e.pktInfo t).reqQ ≠ [token]) :
    s.cancel m t token dr =
      (.success, s.setEntry (e.setInfo t ((e.pktInfo t).delReq token)) s.fw) := by
  have hcnt : (e.pktInfo t).reqCnt - 1 ≠ 0 := hq ∘ (reqCnt_sub_one_eq_zero_iff hs he htok).1
  rw [cancel_known he hid htok, delPkt, if_pos (isPktOfld_iff.2 hid), if_pos hcnt]

def cleared (info : PktOfldInfo) (token : UInt32) : PktOfldInfo :=
  delReq { info with id := notUsed } token

lemma cancel_last (hs : s.Mirrors) (he : s.getEntry m = some e)
    (hid : (e.pktInfo t).id ≠ notUsed) (hq : (e.pktInfo t).reqQ = [token]) (dr : DelReply) :
    s.cancel m t token dr = match dr with
      | .deleted => (.success, s.setEntry (e.setInfo t (cleared (e.pktInfo t) token))
          (s.fw.drop (e.pktInfo t).id))
      | .refused => (.failure, s.setEntry e s.fw)
      | .unanswered => (.success, s.setEntry (e.setInfo t (cleared (e.pktInfo t) token)) s.fw) := by
  have htok : token ∈ (e.pktInfo t).reqQ := by
    rw [hq]
    exact mem_singleton_self token
  have hcnt : ¬ (e.pktInfo t).reqCnt - 1 ≠ 0 :=
    not_not.2 ((reqCnt_sub_one_eq_zero_iff hs he htok).2 hq)
  have hheld := hs.held _ _ (info_of_getEntry he t) hid
  rw [cancel_known he hid htok, delPkt, if_pos (isPktOfld_iff.2 hid), if_neg hcnt,
    Fw.del_of_some hheld]
  have hcleared : (e.setId t notUsed).setInfo t (((e.setId t notUsed).pktInfo t).delReq token) =
      e.setInfo t (cleared (e.pktInfo t) token) := by
    rw [PktOfldEntry.setId, PktOfldEntry.pktInfo_setInfo, PktOfldEntry.setInfo_setInfo]
    rfl
  cases dr with
  | deleted =>
    exact congrArg (fun e' => (Status.success, s.setEntry e'
      (s.fw.drop (e.pktInfo t).id))) hcleared
  | refused => rfl
  | unanswered => exact congrArg (fun e' => (Status.success, s.setEntry e' s.fw)) hcleared

def CancelOk (s : Sys) (m : UInt16) (t : PktType) (token : UInt32) (dr : DelReply) : Prop :=
  ∀ e, s.getEntry m = some e → (e.pktInfo t).id ≠ notUsed → (e.pktInfo t).reqQ = [token] →
    dr ≠ .unanswered

section

variable (hs : s.Mirrors) (he : s.getEntry m = some e)
include hs he

lemma left_mirrors
    (hid : (e.pktInfo t).id ≠ notUsed) (htok : token ∈ (e.pktInfo t).reqQ)
    (hq : (e.pktInfo t).reqQ ≠ [token]) :
    (s.setEntry (e.setInfo t ((e.pktInfo t).delReq token)) s.fw).Mirrors := by
  have hown := info_of_getEntry he t
  have hinfo := info_setInfo he t ((e.pktInfo t).delReq token) s.fw
  have hheld : s.view.holders (m, t) = (e.pktInfo t).reqQ := queue_of_info hown
  have hused : s.view.slot (m, t) ≠ none := by
    rw [view_slot_of_info hown, Ne, slot_eq_none_iff]
    exact hid
  have hslot : Function.update s.view.slot (m, t) ((e.pktInfo t).delReq token).slot =
      s.view.slot := by
    have hsame : ((e.pktInfo t).delReq token).slot = s.view.slot (m, t) :=
      (view_slot_of_info hown).symm
    rw [hsame, update_eq_self]
  have hview : (s.setEntry (e.setInfo t ((e.pktInfo t).delReq token)) s.fw).view =
      s.view.leave (m, t) token := by
    rw [view_update hinfo, hslot, Lease.leave, hheld]
    rfl
  have herase : (s.view.holders (m, t)).erase token ≠ [] := by
    rw [hheld]
    intro hnil
    rcases erase_eq_nil_iff.1 hnil with h | h
    · rw [h] at htok
      exact not_mem_nil htok
    · exact hq h
  have hcnt : (s.setEntry (e.setInfo t ((e.pktInfo t).delReq token)) s.fw).Counted := by
    rw [counted_update_iff hs.counts hinfo]
    apply toNat_sub_one
    rw [hs.counts _ _ hown]
    exact (length_erase_add_one htok).symm
  rw [mirrors_iff, macids_setEntry, hview]
  refine ⟨hs.macids, hcnt, hs.sound.leave hused herase, GeneralOk.of_slots hs.general rfl ?_⟩
  rw [hview]
  exact fun _ _ hk => hk

lemma cleared_spec
    (hq : (e.pktInfo t).reqQ = [token]) :
    cleared (e.pktInfo t) token = ⟨[], 0, notUsed⟩ := by
  have htok : token ∈ (e.pktInfo t).reqQ := by
    rw [hq]
    exact mem_singleton_self token
  have hcnt := (reqCnt_sub_one_eq_zero_iff hs he htok).2 hq
  rw [cleared, delReq, hq, hcnt, erase_cons_head]

lemma deleted_mirrors
    (hid : (e.pktInfo t).id ≠ notUsed) (hq : (e.pktInfo t).reqQ = [token]) :
    (s.setEntry (e.setInfo t (cleared (e.pktInfo t) token))
      (s.fw.drop (e.pktInfo t).id)).Mirrors := by
  rw [cleared_spec hs he hq]
  have hown := info_of_getEntry he t
  have hheld := hs.held _ _ hown hid
  have hinfo := info_setInfo he t ⟨[], 0, notUsed⟩
    (s.fw.drop (e.pktInfo t).id)
  have hview : (s.setEntry (e.setInfo t ⟨[], 0, notUsed⟩)
      (s.fw.drop (e.pktInfo t).id)).view =
      s.view.release fun k => decide (k = (m, t)) := by
    have hholders : Function.update s.view.holders (m, t) [] =
        (s.view.release fun k => decide (k = (m, t))).holders := by
      funext k
      by_cases hk : k = (m, t)
      · simp [Lease.release, hk]
      · simp [Lease.release, hk]
    have hslot : Function.update s.view.slot (m, t) none =
        (s.view.release fun k => decide (k = (m, t))).slot := by
      funext k
      by_cases hk : k = (m, t)
      · simp [Lease.release, hk]
      · simp [Lease.release, hk]
    have hstore : Function.update s.fw.pkts (e.pktInfo t).id none =
        (s.view.release fun k => decide (k = (m, t))).store := by
      funext id
      change _ = (s.fw.pkts id).filter fun k => !decide (k = (m, t))
      by_cases hk : id = (e.pktInfo t).id
      · subst hk
        rw [update_self, hheld, filter_some, if_neg (by simp)]
      · rw [update_of_ne hk]
        cases hid' : s.fw.pkts id with
        | none => rfl
        | some k =>
          have hne : k ≠ (m, t) := by
            rintro rfl
            have h₁ := (hs.sound.stored _ _).2 hid'
            rw [(hs.sound.stored _ _).2 hheld] at h₁
            exact hk (Option.some.inj h₁).symm
          rw [filter_some, if_pos (by simpa using hne)]
    rw [view_update hinfo]
    calc
      _ = (⟨Function.update s.view.holders (m, t) [], Function.update s.view.slot (m, t) none,
          Function.update s.fw.pkts (e.pktInfo t).id none⟩ : Lease Key UInt8 UInt32) := rfl
      _ = _ := by rw [hholders, hslot, hstore]
  have hcnt := (counted_update_iff hs.counts hinfo).2 rfl
  rw [mirrors_iff, macids_setEntry]
  refine ⟨hs.macids, hcnt, hview ▸ hs.sound.release _, GeneralOk.of_slots hs.general rfl ?_⟩
  rw [hview]
  exact fun k id' => Lease.slot_of_release

lemma not_mirrors_kept
    (hid : (e.pktInfo t).id ≠ notUsed) (hq : (e.pktInfo t).reqQ = [token]) :
    ¬ (s.setEntry (e.setInfo t (cleared (e.pktInfo t) token)) s.fw).Mirrors := by
  rw [cleared_spec hs he hq]
  intro hm
  have hheld := hs.held _ _ (info_of_getEntry he t) hid
  obtain ⟨info, hinfo, -, hne⟩ := hm.noneLeft _ _ hheld
  rw [info_setInfo he, update_self] at hinfo
  rw [← Option.some.inj hinfo] at hne
  exact hne rfl

end

lemma cancel_mirrors_iff (hs : s.Mirrors) (m : UInt16) (t : PktType) (token : UInt32)
    (dr : DelReply) : (s.cancel m t token dr).2.Mirrors ↔ s.CancelOk m t token dr := by
  cases he : s.getEntry m with
  | none =>
    have hsame : (s.cancel m t token dr).2 = s := by rw [cancel, he]
    rw [hsame]
    exact iff_of_true hs fun e he' => absurd (he.symm.trans he') (some_ne_none e).symm
  | some e =>
    have hok : s.CancelOk m t token dr ↔ ((e.pktInfo t).id ≠ notUsed →
        (e.pktInfo t).reqQ = [token] → dr ≠ .unanswered) :=
      ⟨fun h => h e he, fun h e' he' => Option.some.inj (he.symm.trans he') ▸ h⟩
    rw [hok]
    by_cases hid : (e.pktInfo t).id = notUsed
    · rw [cancel_unused he hid]
      exact iff_of_true hs fun hf => absurd hid hf
    · by_cases htok : token ∈ (e.pktInfo t).reqQ
      · by_cases hq : (e.pktInfo t).reqQ = [token]
        · rw [cancel_last hs he hid hq]
          cases dr with
          | deleted =>
            exact iff_of_true (deleted_mirrors hs he hid hq) fun _ _ => by decide
          | refused =>
            have hsame : s.Same (s.setEntry e s.fw) :=
              ⟨entryQ_setEntry_self hs.macids he _, rfl, rfl⟩
            exact iff_of_true (hsame.mirrors hs) fun _ _ => by decide
          | unanswered =>
            exact iff_of_false (not_mirrors_kept hs he hid hq) fun h => h hid hq rfl
        · rw [cancel_shared hs he hid htok hq]
          exact iff_of_true (left_mirrors hs he hid htok hq) fun _ hq' => absurd hq' hq
      · rw [cancel_unknown he hid htok]
        refine iff_of_true hs fun _ hq => absurd ?_ htok
        rw [hq]
        exact mem_singleton_self token

end Sys

end Rtl8831.Phl.PktOfld
