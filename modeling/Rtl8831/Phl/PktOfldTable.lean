import Rtl8831.Phl.PktOfld

/-!
# The table of offloaded packets as leases

A macid and a type hold a slot of the memory of the firmware from their first request to their
last one.  That the table mirrors the firmware is that these leases are sound, and that the
counts and the general ids are right.
-/

namespace Rtl8831.Phl.PktOfld

open Lib Function List Option

abbrev Key := UInt16 × PktType

/-! ### Requests of one type -/

namespace PktOfldInfo

/-- The packet id, unless it is `NOT_USED`. -/
def slot (info : PktOfldInfo) : Option UInt8 :=
  if info.id = notUsed then none else some info.id

variable {info : PktOfldInfo} {token : UInt32}

lemma slot_eq_none_iff : info.slot = none ↔ info.id = notUsed := by
  simp [slot]

lemma slot_eq_some_iff {id : UInt8} :
    info.slot = some id ↔ info.id = id ∧ info.id ≠ notUsed := by
  by_cases h : info.id = notUsed
  · simp [slot, h]
  · simp [slot, h]

lemma isPktOfld_iff : info.isPktOfld = true ↔ info.id ≠ notUsed := by
  simp [isPktOfld]

lemma toNat_sub_one {n : ℕ} {cnt : UInt32} (h : cnt.toNat = n + 1) : (cnt - 1).toNat = n := by
  have hle : (1 : UInt32) ≤ cnt := by
    rw [UInt32.le_iff_toNat_le, h]
    exact Nat.le_add_left 1 n
  rw [UInt32.toNat_sub_of_le _ _ hle, h]
  rfl

lemma foldl_delReq (tokens : List UInt32) (h : info.reqCnt.toNat = tokens.length) :
    tokens.foldl delReq { info with reqQ := tokens } = { info with reqQ := [], reqCnt := 0 } := by
  induction tokens generalizing info with
  | nil =>
    have hzero : info.reqCnt = 0 := UInt32.toNat_inj.1 h
    simp [hzero]
  | cons token tokens ih =>
    have hhead : delReq { info with reqQ := token :: tokens } token =
        { { info with reqCnt := info.reqCnt - 1 } with reqQ := tokens } := by
      simp [delReq]
    rw [foldl_cons, hhead, ih (toNat_sub_one h)]

lemma delAllReq_eq (h : info.reqCnt.toNat = info.reqQ.length) :
    info.delAllReq = { info with reqQ := [], reqCnt := 0 } :=
  foldl_delReq info.reqQ h

lemma delReq_addReq : (info.addReq token).delReq token = info := by
  simp [addReq, delReq]

lemma getReq_eq_some_iff {req : UInt32} :
    info.getReq token = some req ↔ req = token ∧ token ∈ info.reqQ := by
  rw [getReq]
  constructor
  · intro h
    have heq : req = token := by simpa using find?_some h
    exact ⟨heq, heq ▸ mem_of_find?_eq_some h⟩
  · rintro ⟨rfl, hmem⟩
    cases h : info.reqQ.find? fun pos => decide (pos = req) with
    | none =>
      have hne := find?_eq_none.1 h req hmem
      simp at hne
    | some pos =>
      have heq : pos = req := by simpa using find?_some h
      rw [heq]

lemma getReq_eq_none_iff : info.getReq token = none ↔ token ∉ info.reqQ := by
  constructor
  · intro h hmem
    rw [getReq_eq_some_iff.2 ⟨rfl, hmem⟩] at h
    exact some_ne_none _ h
  · intro h
    cases hg : info.getReq token with
    | none => rfl
    | some req => exact absurd (getReq_eq_some_iff.1 hg).2 h

end PktOfldInfo

/-! ### The memory of the firmware -/

namespace Fw

variable {fw : Fw} {id : UInt8}

lemma allocId_spec (h : fw.allocId = some id) : fw.pkts id = none ∧ id ≠ notUsed := by
  refine ⟨by simpa using find?_some h, ?_⟩
  have hmem := mem_of_find?_eq_some h
  simp only [List.mem_map, mem_range] at hmem
  obtain ⟨n, hn, rfl⟩ := hmem
  intro hid
  have hnat : n % 256 = 255 := by
    simpa [notUsed] using congrArg UInt8.toNat hid
  omega

lemma del_of_none {r : DelReply} (h : fw.pkts id = none) : fw.del id r = (false, fw) :=
  if_pos (isNone_iff_eq_none.2 h)

lemma del_of_some {k : Key} {r : DelReply} (h : fw.pkts id = some k) :
    fw.del id r = match r with
      | .deleted => (true, { fw with pkts := update fw.pkts id none })
      | .refused => (false, fw)
      | .unanswered => (true, fw) :=
  if_neg (by simp [h])

lemma del_snd_ids (r : DelReply) : (fw.del id r).2.ids = fw.ids := by
  cases h : fw.pkts id with
  | none => rw [del_of_none h]
  | some k =>
    rw [del_of_some h]
    cases r <;> rfl

lemma del_snd_pkts (id' : UInt8) (r : DelReply) :
    (fw.del id r).2.pkts id' = if id' = id ∧ r = .deleted then none else fw.pkts id' := by
  by_cases hid : id' = id
  · subst hid
    cases h : fw.pkts id' with
    | none => simp [del_of_none h, h]
    | some k =>
      rw [del_of_some h]
      cases r with
      | deleted => simp
      | refused => simp [h]
      | unanswered => simp [h]
  · rw [if_neg fun hc => hid hc.1]
    cases h : fw.pkts id with
    | none => rw [del_of_none h]
    | some k =>
      rw [del_of_some h]
      cases r with
      | deleted => simp [hid]
      | refused => rfl
      | unanswered => rfl

end Fw

section CancelEntryPkt

variable {e : PktOfldEntry} {r : PktType → DelReply}

def Dropped (e : PktOfldEntry) (r : PktType → DelReply) (id : UInt8) (t : PktType) : Prop :=
  (e.pktInfo t).slot = some id ∧ r t = .deleted

instance (id : UInt8) (t : PktType) : Decidable (Dropped e r id t) :=
  inferInstanceAs (Decidable (_ ∧ _))

variable (ts : List PktType)

lemma foldl_cancel_ids (fw : Fw) :
    (ts.foldl (fun fw t => if (e.pktInfo t).isPktOfld then
      (fw.del (e.pktInfo t).id (r t)).2 else fw) fw).ids = fw.ids := by
  induction ts generalizing fw with
  | nil => rfl
  | cons t ts ih =>
    rw [foldl_cons, ih]
    by_cases h : (e.pktInfo t).isPktOfld = true
    · rw [if_pos h, Fw.del_snd_ids]
    · rw [if_neg h]

lemma foldl_cancel_pkts (fw : Fw) (id : UInt8) :
    (ts.foldl (fun fw t => if (e.pktInfo t).isPktOfld then
      (fw.del (e.pktInfo t).id (r t)).2 else fw) fw).pkts id =
      if ∃ t ∈ ts, Dropped e r id t then none else fw.pkts id := by
  induction ts generalizing fw with
  | nil => simp
  | cons t ts ih =>
    rw [foldl_cons, ih]
    by_cases hts : ∃ t ∈ ts, Dropped e r id t
    · obtain ⟨t', ht', hd⟩ := hts
      rw [if_pos ⟨t', ht', hd⟩, if_pos ⟨t', mem_cons_of_mem _ ht', hd⟩]
    · rw [if_neg hts]
      by_cases h : (e.pktInfo t).isPktOfld = true
      · have hid : (id = (e.pktInfo t).id ∧ r t = .deleted) ↔
            ∃ t' ∈ t :: ts, Dropped e r id t' := by
          rw [exists_mem_cons_iff, or_iff_left hts, Dropped, PktOfldInfo.slot_eq_some_iff]
          have hne := PktOfldInfo.isPktOfld_iff.1 h
          constructor
          · rintro ⟨rfl, hr⟩
            exact ⟨⟨rfl, hne⟩, hr⟩
          · rintro ⟨⟨rfl, -⟩, hr⟩
            exact ⟨rfl, hr⟩
        rw [if_pos h, Fw.del_snd_pkts]
        by_cases hc : id = (e.pktInfo t).id ∧ r t = .deleted
        · rw [if_pos hc, if_pos (hid.1 hc)]
        · rw [if_neg hc, if_neg (hc ∘ hid.2)]
      · have hid : ¬ ∃ t' ∈ t :: ts, Dropped e r id t' := by
          rw [exists_mem_cons_iff, or_iff_left hts, Dropped, PktOfldInfo.slot_eq_some_iff]
          rintro ⟨⟨-, hne⟩, -⟩
          exact h (PktOfldInfo.isPktOfld_iff.2 hne)
        rw [if_neg h, if_neg hid]

lemma cancelEntryPkt_ids (fw : Fw) : (cancelEntryPkt fw e r).ids = fw.ids :=
  foldl_cancel_ids PktType.all fw

lemma cancelEntryPkt_pkts (fw : Fw) (id : UInt8) :
    (cancelEntryPkt fw e r).pkts id =
      if ∃ t ∈ PktType.all, Dropped e r id t then none else fw.pkts id :=
  foldl_cancel_pkts PktType.all fw id

end CancelEntryPkt

/-! ### The table as leases -/

def PktType.general : PktType → Bool
  | probeRsp | psPoll | nullData | qosNull | cts2self => true
  | _ => false

lemma PktOfldEntry.id?_generalIds (e : PktOfldEntry) (t : PktType) :
    e.generalIds.id? t = if t.general then some (e.pktInfo t).id else none := by
  cases t <;> rfl

lemma GeneralPktIds.general_of_id? {ids : GeneralPktIds} {t : PktType} {id : UInt8}
    (h : ids.id? t = some id) : t.general = true := by
  cases t <;> first | rfl | exact absurd h (some_ne_none id).symm

def queueOf (info : Option PktOfldInfo) : List UInt32 :=
  (info.map PktOfldInfo.reqQ).getD []

def slotOf (info : Option PktOfldInfo) : Option UInt8 :=
  info.bind PktOfldInfo.slot

namespace Sys

variable {s s' : Sys} {e : PktOfldEntry} {m : UInt16} {t : PktType} {k : Key} {token : UInt32}

def info (s : Sys) (k : Key) : Option PktOfldInfo :=
  (s.getEntry k.1).map fun e => e.pktInfo k.2

def queue (s : Sys) (k : Key) : List UInt32 := queueOf (s.info k)

def view (s : Sys) : Lease Key UInt8 UInt32 where
  holders := queueOf ∘ s.info
  slot := slotOf ∘ s.info
  store := s.fw.pkts

/-- The table mirrors the firmware: one entry for a macid; requests that are counted and told
apart by their tokens; an id exactly for what is requested, under which the firmware has the
packet, also as a general id; and no other packet in the firmware. -/
structure Mirrors (s : Sys) : Prop where
  macids : (s.obj.entryQ.map PktOfldEntry.macid).Nodup
  counts : ∀ k info, s.info k = some info → info.reqCnt.toNat = info.reqQ.length
  tokens : ∀ k info, s.info k = some info → info.reqQ.Nodup
  used : ∀ k info, s.info k = some info → (info.id ≠ notUsed ↔ info.reqQ ≠ [])
  held : ∀ k info, s.info k = some info → info.id ≠ notUsed → s.fw.pkts info.id = some k
  general : ∀ k info, s.info k = some info → info.id ≠ notUsed →
    ∀ id, (s.fw.ids k.1.toUInt8).id? k.2 = some id → id = info.id
  noneLeft : ∀ id k, s.fw.pkts id = some k →
    ∃ info, s.info k = some info ∧ info.id = id ∧ info.id ≠ notUsed

/-- The part of `Mirrors` that is about the general ids. -/
def GeneralOk (s : Sys) : Prop :=
  ∀ k info, s.info k = some info → info.id ≠ notUsed →
    ∀ id, (s.fw.ids k.1.toUInt8).id? k.2 = some id → id = info.id

def Counted (s : Sys) : Prop :=
  ∀ k info, s.info k = some info → info.reqCnt.toNat = info.reqQ.length

lemma view_slot_eq_some_iff {id : UInt8} :
    s.view.slot k = some id ↔ ∃ info, s.info k = some info ∧ info.id = id ∧ info.id ≠ notUsed := by
  change (s.info k).bind PktOfldInfo.slot = some id ↔ _
  rw [bind_eq_some_iff]
  constructor
  · rintro ⟨info, hinfo, hid⟩
    exact ⟨info, hinfo, PktOfldInfo.slot_eq_some_iff.1 hid⟩
  · rintro ⟨info, hinfo, hid⟩
    exact ⟨info, hinfo, PktOfldInfo.slot_eq_some_iff.2 hid⟩

lemma view_slot_of_info {info : PktOfldInfo} (h : s.info k = some info) :
    s.view.slot k = info.slot := by
  change slotOf (s.info k) = _
  rw [h]
  rfl

lemma queue_of_info {info : PktOfldInfo} (h : s.info k = some info) :
    s.queue k = info.reqQ := by
  rw [queue, h]
  rfl

lemma queue_of_none (h : s.info k = none) : s.queue k = [] := by
  rw [queue, h]
  rfl

lemma view_slot_of_none (h : s.info k = none) : s.view.slot k = none := by
  change slotOf (s.info k) = _
  rw [h]
  rfl

lemma mirrors_iff :
    s.Mirrors ↔ (s.obj.entryQ.map PktOfldEntry.macid).Nodup ∧ s.Counted ∧ s.view.Sound ∧
      s.GeneralOk := by
  constructor
  · intro h
    refine ⟨h.macids, h.counts, ⟨fun k id => ?_, fun k => ?_, fun k => ?_⟩, h.general⟩
    · rw [view_slot_eq_some_iff]
      constructor
      · rintro ⟨info, hinfo, rfl, hne⟩
        exact h.held k info hinfo hne
      · exact h.noneLeft id k
    · change _ ↔ s.queue k = []
      cases hinfo : s.info k with
      | none => simp [view_slot_of_none hinfo, queue_of_none hinfo]
      | some info =>
        rw [view_slot_of_info hinfo, queue_of_info hinfo, PktOfldInfo.slot_eq_none_iff]
        exact not_iff_not.1 (h.used k info hinfo)
    · change (s.queue k).Nodup
      cases hinfo : s.info k with
      | none => simp [queue_of_none hinfo]
      | some info =>
        rw [queue_of_info hinfo]
        exact h.tokens k info hinfo
  · rintro ⟨hmac, hcnt, hs, hgen⟩
    refine ⟨hmac, hcnt, fun k info hinfo => ?_, fun k info hinfo => ?_, fun k info hinfo hne => ?_,
      hgen, fun id k hid => ?_⟩
    · have hnodup : (s.queue k).Nodup := hs.nodup k
      rwa [queue_of_info hinfo] at hnodup
    · have hheld : s.view.slot k = none ↔ s.queue k = [] := hs.held k
      rw [view_slot_of_info hinfo, queue_of_info hinfo, PktOfldInfo.slot_eq_none_iff] at hheld
      exact not_congr hheld
    · exact (hs.stored k info.id).1 (view_slot_eq_some_iff.2 ⟨info, hinfo, rfl, hne⟩)
    · exact view_slot_eq_some_iff.1 ((hs.stored k id).2 hid)

lemma Mirrors.sound (h : s.Mirrors) : s.view.Sound := (mirrors_iff.1 h).2.2.1

/-! ### Entries that are found and changed -/

lemma getEntry_macid (h : s.getEntry m = some e) : e.macid = m := (mem_of_lookupKey h).2

lemma mem_of_getEntry (h : s.getEntry m = some e) : e ∈ s.obj.entryQ := (mem_of_lookupKey h).1

lemma info_eq_some_iff {info : PktOfldInfo} :
    s.info k = some info ↔ ∃ e, s.getEntry k.1 = some e ∧ e.pktInfo k.2 = info := by
  rw [Sys.info, map_eq_some_iff]

lemma info_of_getEntry (h : s.getEntry m = some e) (t : PktType) :
    s.info (m, t) = some (e.pktInfo t) :=
  info_eq_some_iff.2 ⟨e, h, rfl⟩

lemma info_congr (h : s'.obj.entryQ = s.obj.entryQ) : s'.info = s.info := by
  funext k
  rw [Sys.info, Sys.info, getEntry, getEntry, h]

lemma info_setEntry (h : s.getEntry e.macid ≠ none) (fw : Fw) (k : Key) :
    (s.setEntry e fw).info k = if k.1 = e.macid then some (e.pktInfo k.2) else s.info k := by
  have hlook : (s.setEntry e fw).getEntry k.1 = if k.1 = e.macid then
      (s.getEntry k.1).map (fun pos => { pos with pktInfo := e.pktInfo }) else s.getEntry k.1 :=
    lookupKey_modifyKey fun _ => rfl
  rw [Sys.info, hlook]
  by_cases hk : k.1 = e.macid
  · obtain ⟨e', he'⟩ := ne_none_iff_exists'.1 h
    rw [if_pos hk, if_pos hk, hk, he']
    rfl
  · rw [if_neg hk, if_neg hk]
    rfl

lemma info_setInfo (h : s.getEntry m = some e) (t : PktType) (info : PktOfldInfo) (fw : Fw) :
    (s.setEntry (e.setInfo t info) fw).info = update s.info (m, t) (some info) := by
  have hm : e.macid = m := getEntry_macid h
  funext k
  rw [info_setEntry (by rw [PktOfldEntry.setInfo, hm, h]; exact some_ne_none e)]
  by_cases hk : k.1 = m
  · obtain ⟨m', t'⟩ := k
    obtain rfl : m' = m := hk
    by_cases ht : t' = t
    · subst ht
      simp [PktOfldEntry.setInfo, hm]
    · simp [PktOfldEntry.setInfo, hm, ht, info_of_getEntry h]
  · have hne : k ≠ (m, t) := fun hkt => hk (congrArg Prod.fst hkt)
    simp [PktOfldEntry.setInfo, hm, hk, hne]

lemma macids_setEntry (e : PktOfldEntry) (fw : Fw) :
    (s.setEntry e fw).obj.entryQ.map PktOfldEntry.macid = s.obj.entryQ.map PktOfldEntry.macid :=
  map_key_modifyKey fun _ => rfl

lemma entryQ_setEntry_self (hmac : (s.obj.entryQ.map PktOfldEntry.macid).Nodup)
    (h : s.getEntry m = some e) (fw : Fw) :
    (s.setEntry e fw).obj.entryQ = s.obj.entryQ :=
  modifyKey_of_fixed hmac (mem_of_getEntry h) rfl

/-! ### What a change of one type does -/

variable {info : PktOfldInfo}

lemma view_update (h : s'.info = update s.info k (some info)) :
    s'.view = ⟨update s.view.holders k info.reqQ,
      update s.view.slot k info.slot, s'.fw.pkts⟩ := by
  have hholders : queueOf ∘ s'.info = update s.view.holders k info.reqQ := by
    rw [h, comp_update]
    rfl
  have hslot : slotOf ∘ s'.info = update s.view.slot k info.slot := by
    rw [h, comp_update]
    rfl
  rw [view, hholders, hslot]

lemma counted_update_iff (hs : s.Counted)
    (h : s'.info = update s.info k (some info)) :
    s'.Counted ↔ info.reqCnt.toNat = info.reqQ.length := by
  constructor
  · intro hc
    exact hc k info (by rw [h, update_self])
  · intro hi k' info' hinfo
    by_cases hk : k' = k
    · subst hk
      rw [h, update_self] at hinfo
      rwa [← Option.some.inj hinfo]
    · rw [h, update_of_ne hk] at hinfo
      exact hs k' info' hinfo

lemma generalOk_iff_slot :
    s.GeneralOk ↔ ∀ k id, s.view.slot k = some id →
      ∀ gid, (s.fw.ids k.1.toUInt8).id? k.2 = some gid → gid = id := by
  constructor
  · intro h k id hid
    obtain ⟨info, hinfo, rfl, hne⟩ := view_slot_eq_some_iff.1 hid
    exact h k info hinfo hne
  · intro h k info hinfo hne
    exact h k info.id (view_slot_eq_some_iff.2 ⟨info, hinfo, rfl, hne⟩)

lemma GeneralOk.of_slots (h : s.GeneralOk) (hids : s'.fw.ids = s.fw.ids)
    (hslot : ∀ k id, s'.view.slot k = some id → s.view.slot k = some id) : s'.GeneralOk := by
  rw [generalOk_iff_slot] at h ⊢
  intro k id hid
  rw [hids]
  exact h k id (hslot k id hid)

def NoAlias (s : Sys) (m : UInt16) : Prop :=
  ∀ k info, s.info k = some info → k.1 ≠ m → k.1.toUInt8 = m.toUInt8 → k.2.general →
    info.id = notUsed

lemma generalOk_updateIds_iff (hs : s.GeneralOk) (hsound : s'.view.Sound)
    (he : s'.getEntry m = some e) (hother : ∀ k, k.1 ≠ m → s'.info k = s.info k)
    (hids : s'.fw.ids = update s.fw.ids m.toUInt8 e.generalIds) :
    s'.GeneralOk ↔ s.NoAlias m := by
  constructor
  · intro h k info hinfo hk hlow hgen
    by_contra hne
    have hinfo' : s'.info k = some info := (hother k hk).trans hinfo
    have hid := h k info hinfo' hne (e.pktInfo k.2).id (by
      rw [hids, hlow, update_self, e.id?_generalIds, if_pos hgen])
    -- the entry whose ids were sent has the same id, so that both have one slot
    have hown : s'.view.slot (m, k.2) = some info.id :=
      view_slot_eq_some_iff.2 ⟨_, info_of_getEntry he k.2, hid, hid ▸ hne⟩
    have hkm := hsound.slot_inj (view_slot_eq_some_iff.2 ⟨info, hinfo', rfl, hne⟩) hown
    exact hk (congrArg Prod.fst hkm)
  · intro h k info hinfo hne id hid
    by_cases hk : k.1 = m
    · obtain ⟨e', he', rfl⟩ := info_eq_some_iff.1 hinfo
      rw [hk, he] at he'
      obtain rfl := Option.some.inj he'
      rw [hids, hk, update_self, PktOfldEntry.id?_generalIds] at hid
      by_cases hgen : k.2.general = true
      · rw [if_pos hgen] at hid
        exact (Option.some.inj hid).symm
      · rw [if_neg hgen] at hid
        exact absurd hid (some_ne_none id).symm
    · rw [hother k hk] at hinfo
      by_cases hlow : k.1.toUInt8 = m.toUInt8
      · have hgen := GeneralPktIds.general_of_id? hid
        exact absurd (h k info hinfo hk hlow hgen) hne
      · rw [hids, update_of_ne hlow] at hid
        exact hs k info hinfo hne id hid

def Same (s s' : Sys) : Prop :=
  s'.obj.entryQ = s.obj.entryQ ∧ s'.obj.entryCnt = s.obj.entryCnt ∧ s'.fw = s.fw

lemma Same.mirrors (h : s.Same s') (hs : s.Mirrors) : s'.Mirrors := by
  have hinfo := info_congr h.1
  constructor
  · rw [h.1]
    exact hs.macids
  · rw [hinfo]
    exact hs.counts
  · rw [hinfo]
    exact hs.tokens
  · rw [hinfo]
    exact hs.used
  · rw [hinfo, h.2.2]
    exact hs.held
  · rw [hinfo, h.2.2]
    exact hs.general
  · rw [hinfo, h.2.2]
    exact hs.noneLeft

lemma Same.queue (h : s.Same s') : s'.queue = s.queue := by
  funext k
  rw [Sys.queue, Sys.queue, info_congr h.1]

end Sys

end Rtl8831.Phl.PktOfld
