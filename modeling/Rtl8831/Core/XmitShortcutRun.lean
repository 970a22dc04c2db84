import Rtl8831.Core.XmitShortcutAgree

/-!
# Runs with the TX shortcut

Packets and changes of power save in any order, from empty shortcut tables.
-/

namespace Rtl8831.Core

open Lib Function List

lemma MadeFrom.setSeqNum {cfg : TxCfg} {i : ℕ} {e : TxscEntry} {pkt : TxPkt} {a : TxAttrib}
    (h : MadeFrom cfg i e pkt a) (seq : ℕ) :
    MadeFrom cfg i { e with wlhdr := Core.setSeqNum e.wlhdr seq } pkt a := by
  obtain ⟨om, seq', iv, hwl, hiv⟩ := h.wlhdr
  refine { h with wlhdr := ⟨om, seq, iv, ?_, hiv⟩ }
  rw [hwl, append_assoc, setSeqNum_bytes, append_assoc]

lemma withMdata_length (m : MetaData) (ls : List (List (List UInt8))) :
    (withMdata m ls).length = ls.length := by
  cases ls <;> simp [withMdata]

lemma txFullPath_eq_some {cfg : TxCfg} {dozing : Bool} {c : TxCounters} {pkt : TxPkt}
    {a' : TxAttrib} {reqs : List XmitReq} (h : (txFullPath cfg dozing c pkt).2 = some (a', reqs)) :
    ∃ a frags, updateAttrib cfg pkt = some a ∧
      frags.length = (getWlFragParas cfg.fragLen a).2 ∧
      a' = (coreWlanFillHead cfg (getWlFragParas cfg.fragLen a).2 c a).2.1 ∧
      reqs = withMdata (fillTxreqMdata cfg dozing
          (coreWlanFillHead cfg (getWlFragParas cfg.fragLen a).2 c a).1 a').2
        (txPktLists (coreWlanFillHead cfg (getWlFragParas cfg.fragLen a).2 c a).2.2 frags) := by
  rw [txFullPath] at h
  cases hattr : updateAttrib cfg pkt with
  | none =>
    rw [hattr] at h
    cases h
  | some a =>
    simp only [hattr] at h
    cases hfrags : fillTxreqPktPerfragTxos a pkt.skb (getWlFragParas cfg.fragLen a).1
        (getWlFragParas cfg.fragLen a).2 with
    | none =>
      rw [hfrags] at h
      cases h
    | some frags =>
      simp only [hfrags, Option.some.injEq, Prod.mk.injEq] at h
      obtain ⟨rfl, rfl⟩ := h
      refine ⟨a, frags, rfl, ?_, rfl, rfl⟩
      rw [fillTxreqPktPerfragTxos] at hfrags
      split_ifs at hfrags
      rw [← Option.some.inj hfrags, perfrag_length]

lemma txPktLists_length (heads : List (List UInt8)) (frags : List (List (List UInt8) × ℕ)) :
    (txPktLists heads frags).length = min heads.length frags.length :=
  length_zipWith

lemma txFullPath_single {cfg : TxCfg} {dozing : Bool} {c : TxCounters} {pkt : TxPkt}
    {a' : TxAttrib} {req : XmitReq} {rest : List XmitReq}
    (h : (txFullPath cfg dozing c pkt).2 = some (a', req :: rest))
    (hnr : (req :: rest).length ≤ 1) :
    ∃ a j, updateAttrib cfg pkt = some a ∧ seqSta cfg a = some j ∧
      (getWlFragParas cfg.fragLen a).2 = 1 ∧ a' = (makeWlanhdr cfg c a).2.1 ∧
      req.pktList.headD [] = (makeWlanhdr cfg c a).2.2.bytes ++ headIv (makeWlanhdr cfg c a).1 a' ++
        putSnap a.etherType ∧
      ∃ iv len, req.mdata = { mdataOf cfg dozing iv a' with pktlen := len } ∧
        (pnInMdata cfg a' = false → iv = none) := by
  obtain ⟨a, frags, hattr, hfrags, ha', hreqs⟩ := txFullPath_eq_some h
  obtain ⟨j, hj, hseq⟩ := updateAttrib_seqSta hattr
  have hone : (getWlFragParas cfg.fragLen a).2 = 1 := by
    have hlen := congrArg length hreqs
    rw [withMdata_length, txPktLists_length, coreWlanFillHead, fillHeads_length, hfrags,
      min_self] at hlen
    rw [← hlen]
    exact le_antisymm hnr (by simp)
  have hamsdu : a.amsdu = false := by
    obtain ⟨idx, sta, sec, -, -, -, -, rfl⟩ := updateAttrib_eq_some.mp hattr
    rfl
  rw [hone, coreWlanFillHead_one c hseq hamsdu] at ha' hreqs
  obtain ⟨f, rfl⟩ := length_eq_one_iff.mp (hfrags.trans hone)
  simp only [txPktLists, zipWith_cons_cons, zipWith_nil_left, withMdata, map_nil,
    List.cons.injEq] at hreqs
  refine ⟨a, j, hattr, hseq, hone, ha', ?_, ?_⟩
  · rw [hreqs.1, ha']
    rfl
  · obtain ⟨iv, hm, hnone⟩ := fillTxreqMdata_eq cfg dozing (if a.ivLen ≠ 0 then
        updateAttribSecIvInfo (makeWlanhdr cfg c a).1 (makeWlanhdr cfg c a).2.1
      else ((makeWlanhdr cfg c a).1, [])).1 a'
    rw [hreqs.1, hm]
    exact ⟨iv, _, rfl, hnone⟩

lemma makeWlanhdr_ampdu {cfg : TxCfg} {c : TxCounters} {a : TxAttrib} {j : ℕ}
    (hseq : seqSta cfg a = some j) (h : (makeWlanhdr cfg c a).2.1.ampduEn = true) :
    a.ampduEn = true ∧ (makeWlanhdr cfg c a).2.1 =
      { a with seqnum := (c.txseqTid j a.priority + 1) % 4096 } := by
  rw [makeWlanhdr_seq c hseq] at h ⊢
  obtain ⟨hampdu, hbehind⟩ := (Bool.and_eq_true _ _).mp h
  refine ⟨hampdu, ?_⟩
  simp only [hbehind, Bool.and_true]

lemma txFullPath_madeFrom {cfg : TxCfg} {dozing : Bool} {c : TxCounters} {pkt : TxPkt}
    {a' : TxAttrib} {act : TxscAction} {req : XmitReq} {rest : List XmitReq} {i : ℕ}
    (h : (txFullPath cfg dozing c pkt).2 = some (a', req :: rest)) (hpsta : a'.psta = some i)
    (hadd : txscAddScCheck cfg act (req :: rest).length a' = true) :
    ∃ a, MadeFrom cfg i
      { isUsed := true, ethdr := slice pkt.skb.first.head 0 14, wlhdr := req.pktList.headD []
        mdata := req.mdata, fragLen := fragLenTxsc cfg.fragLen a' } pkt a := by
  simp only [txscAddScCheck, Bool.and_eq_true, Bool.not_eq_true', decide_eq_true_eq] at hadd
  obtain ⟨⟨⟨⟨⟨⟨⟨⟨⟨-, hnr⟩, hsw⟩, -⟩, hqos⟩, hampdu⟩, hip⟩, hra⟩, -⟩, hdhcp⟩ := hadd
  obtain ⟨a, j, hattr, hseq, hone, ha', hhead, iv, len, hmdata, hnone⟩ := txFullPath_single h hnr
  rw [ha'] at hampdu
  obtain ⟨hampdu, hmake⟩ := makeWlanhdr_ampdu hseq hampdu
  rw [hmake] at ha'
  rw [ha'] at hpsta hsw hqos hip hra hdhcp hnone
  refine ⟨a, ?_⟩
  constructor
  case wlhdr =>
    refine ⟨omPending cfg c, (c.txseqTid j a.priority + 1) % 4096,
      headIv (makeWlanhdr cfg c a).1 a', ?_, ?_⟩
    · rw [hhead, makeWlanhdr_seq c hseq]
    · intro hiv
      rw [headIv_eq (by rw [ha']; exact hiv), ha']
  case mdata =>
    refine ⟨dozing, iv, (c.txseqTid j a.priority + 1) % 4096, len, ?_, hnone⟩
    rw [hmdata, ha']
  case fragLen =>
    rw [ha']
    rfl
  case ethdr => rfl
  all_goals assumption

lemma txscGetScEntry_cases (cfg : TxCfg) (st : TxscState) (pkt : TxPkt) :
    txscGetScEntry cfg st pkt = (st, .none) ∨ txscGetScEntry cfg st pkt = (st, .skip) ∨
    ∃ i, txscSta cfg st (slice pkt.skb.first.head 0 6) = some i ∧ (st.sta i).cacheNum ≠ 0 ∧
      (txscGetScEntry cfg st pkt = ({ st with staCached := some i }, .none) ∨
        (txscHit pkt ((st.sta i).entry (st.sta i).cacheIdx) = true ∧
          txscGetScEntry cfg st pkt =
            ({ st with staCached := some i }, .apply i (st.sta i).cacheIdx)) ∨
        ∃ j, ((st.sta i).entry j).isUsed = true ∧ txscHit pkt ((st.sta i).entry j) = true ∧
          txscGetScEntry cfg st pkt =
            ({ st with staCached := some i }.setSta i { st.sta i with cacheIdx := j },
              .apply i j)) := by
  rw [txscGetScEntry]
  by_cases hoff : cfg.txscEnable = false
  · rw [if_pos hoff]
    exact Or.inl rfl
  rw [if_neg hoff]
  cases hsta : txscSta cfg st (slice pkt.skb.first.head 0 6) with
  | none => exact Or.inl rfl
  | some i =>
    dsimp only
    by_cases hsleep : st.asleep i = true
    · rw [if_pos hsleep]
      exact Or.inr (Or.inl rfl)
    rw [if_neg hsleep]
    by_cases hnum : (st.sta i).cacheNum = 0
    · rw [if_pos hnum]
      exact Or.inl rfl
    rw [if_neg hnum]
    refine Or.inr (Or.inr ⟨i, rfl, hnum, ?_⟩)
    by_cases hhit : txscHit pkt ((st.sta i).entry (st.sta i).cacheIdx) = true
    · rw [if_pos hhit]
      exact Or.inr (Or.inl ⟨hhit, rfl⟩)
    rw [if_neg hhit]
    split
    case h_1 j hj =>
      have hfound := find?_some hj
      simp only [Bool.and_eq_true] at hfound
      exact Or.inr (Or.inr ⟨j, hfound.1.2, hfound.2, rfl⟩)
    case h_2 => exact Or.inl rfl

/-- Every entry of station `i` in use was made from a packet, and the entry
that is tried first is in use. -/
structure StaInv (cfg : TxCfg) (i : ℕ) (t : TxscSta) : Prop where
  made : ∀ j, (t.entry j).isUsed = true → ∃ pkt a, MadeFrom cfg i (t.entry j) pkt a
  cached : t.cacheNum ≠ 0 → (t.entry t.cacheIdx).isUsed = true

def TxscInv (cfg : TxCfg) (st : TxscState) : Prop := ∀ i, StaInv cfg i (st.sta i)

section

variable {cfg : TxCfg} {st : TxscState} {i j b : ℕ} {pkt : TxPkt}

variable {t : TxscSta}

lemma TxscInv.setSta (h : TxscInv cfg st) (ht : StaInv cfg i t) :
    TxscInv cfg (st.setSta i t) := by
  intro k
  by_cases hk : k = i
  · subst hk
    simpa [TxscState.setSta] using ht
  · simpa [TxscState.setSta, hk] using h k

lemma StaInv.setEntry (h : StaInv cfg i t) (seq : ℕ) :
    StaInv cfg i { t with
      entry := update t.entry j
        { t.entry j with wlhdr := setSeqNum (t.entry j).wlhdr seq } } := by
  constructor
  · intro k hused
    by_cases hk : k = j
    · subst hk
      simp only [update_self] at hused ⊢
      obtain ⟨pkt, a, hmade⟩ := h.made k hused
      exact ⟨pkt, a, hmade.setSeqNum seq⟩
    · simp only [update_of_ne hk] at hused ⊢
      exact h.made k hused
  · intro hnum
    have hused := h.cached hnum
    by_cases hk : t.cacheIdx = j
    · rw [hk] at hused
      simpa [hk] using hused
    · simpa [update_of_ne hk] using hused

lemma StaInv.addEntry {e : TxscEntry} {a : TxAttrib} (h : StaInv cfg i t)
    (num cur : ℕ) (he : MadeFrom cfg i e pkt a) (hused : e.isUsed = true) :
    StaInv cfg i ⟨num, cur, t.curIdx, update t.entry t.curIdx e⟩ := by
  constructor
  · intro k hk
    by_cases hcur : k = t.curIdx
    · subst hcur
      simp only [update_self]
      exact ⟨pkt, a, he⟩
    · simp only [update_of_ne hcur] at hk ⊢
      exact h.made k hk
  · intro _
    simpa using hused

lemma TxscInv.getScEntry (h : TxscInv cfg st) : TxscInv cfg (txscGetScEntry cfg st pkt).1 := by
  rcases txscGetScEntry_cases cfg st pkt with heq | heq | ⟨i, -, -, heq | ⟨-, heq⟩ | ⟨j, hj, -, heq⟩⟩
  all_goals rw [heq]
  · exact h
  · exact h
  · exact h
  · exact h
  · exact @TxscInv.setSta _ { st with staCached := some i } _ _ h ⟨(h i).made, fun _ => hj⟩

lemma TxscInv.slowPath {act : TxscAction} (h : TxscInv cfg st) :
    TxscInv cfg (txscSlowPath cfg st act pkt b) := by
  rw [txscSlowPath]
  cases hfull : (txFullPath cfg (st.dozing cfg) st.counters pkt).2 with
  | none => exact h
  | some r =>
    obtain ⟨a, reqs⟩ := r
    dsimp only
    cases reqs with
    | nil => exact h
    | cons req rest =>
      cases hpsta : a.psta with
      | none => exact h
      | some i =>
        dsimp only
        by_cases hadd : txscAddScCheck cfg act (req :: rest).length a = true
        · rw [if_pos hadd]
          obtain ⟨a', hmade⟩ := txFullPath_madeFrom hfull hpsta hadd
          exact TxscInv.setSta h ((h i).addEntry _ _ hmade rfl)
        · rw [if_neg hadd]
          exact h

lemma TxscInv.step (h : TxscInv cfg st) (e : TxscEvent) : TxscInv cfg (txscStep cfg st e) := by
  cases e with
  | sleep i asleep => exact h
  | tx pkt buf =>
    have hget : TxscInv cfg (txscGetScEntry cfg st pkt).1 := h.getScEntry
    cases buf with
    | none => exact hget
    | some b =>
      simp only [txscStep]
      cases hact : (txscGetScEntry cfg st pkt).2 with
      | none => exact hget.slowPath
      | skip => exact hget.slowPath
      | apply i j => exact TxscInv.setSta hget ((hget i).setEntry _)

lemma txscInv_init (cfg : TxCfg) (counters : TxCounters) (asleep : ℕ → Bool) :
    TxscInv cfg { counters, asleep } := by
  intro i
  exact ⟨fun _ hused => absurd hused Bool.false_ne_true, fun hnum => absurd rfl hnum⟩

lemma TxscInv.selected (h : TxscInv cfg st)
    (hsel : (txscGetScEntry cfg st pkt).2 = .apply i j) :
    txscSta cfg st (slice pkt.skb.first.head 0 6) = some i ∧
      ((st.sta i).entry j).isUsed = true ∧ txscHit pkt ((st.sta i).entry j) = true := by
  rcases txscGetScEntry_cases cfg st pkt with
    heq | heq | ⟨k, hsta, hnum, heq | ⟨hhit, heq⟩ | ⟨l, hl, hhit, heq⟩⟩
  all_goals
    rw [heq] at hsel
    cases hsel
  · exact ⟨hsta, (h i).cached hnum, hhit⟩
  · exact ⟨hsta, hl, hhit⟩

lemma txscGetScEntry_keeps (cfg : TxCfg) (st : TxscState) (pkt : TxPkt) (i : ℕ) :
    (txscGetScEntry cfg st pkt).1.counters = st.counters ∧
      (txscGetScEntry cfg st pkt).1.buf = st.buf ∧
      ((txscGetScEntry cfg st pkt).1.sta i).entry = (st.sta i).entry := by
  rcases txscGetScEntry_cases cfg st pkt with
    heq | heq | ⟨k, -, -, heq | ⟨-, heq⟩ | ⟨l, -, -, heq⟩⟩
  all_goals rw [heq]
  case inr.inr.inr.inr =>
    refine ⟨rfl, rfl, ?_⟩
    by_cases hk : i = k
    · subst hk
      simp [TxscState.setSta]
    · simp [TxscState.setSta, hk]
  all_goals exact ⟨rfl, rfl, rfl⟩

lemma TxscFits.getScEntry (h : TxscFits cfg st i j pkt b) :
    TxscFits cfg (txscGetScEntry cfg st pkt).1 i j pkt b := by
  obtain ⟨hcounters, hbuf, hentry⟩ := txscGetScEntry_keeps cfg st pkt i
  refine { h with dst := ?_, tid := ?_, window := ?_, pn := ?_, htc := ?_, buf := ?_ }
  · rw [hentry]
    exact h.dst
  · rw [hentry]
    exact h.tid
  · rw [hcounters]
    exact h.window
  · rw [hentry]
    exact h.pn
  · rw [hentry, hcounters]
    exact h.htc
  · rw [hentry, hbuf]
    exact h.buf

end

def txscCfg : TxCfg :=
  { openTxCfg 2346 with
    qosOption := true
    txscEnable := true
    stas :=
      [{ macAddr := [2, 0, 0, 0, 0, 2], macid := 0, asoc := true, qosOption := true
         ieee8021xBlocked := false, dot118021XPrivacy := .noPrivacy, hwDecrypted := true
         htcEn := false, htc := fun _ => [], aggEnable := fun _ => true, numAmpdu := 16
         secCamIdx := fun _ _ => 0, phy := {} }] }

/-- An IP header behind the access point, for host `n`. -/
def ipTo (n : UInt8) : TxPkt where
  skb :=
    { first := { head := [2, 0, 0, 0, 1, n, 2, 0, 0, 0, 0, 1, 8, 0, 0x45] ++ replicate 19 0 } }
  ethHdr := (by decide : 14 ≤ 34)
  len_lt := (by decide : 34 < 2 ^ 31)

def afterHost1 : TxscState :=
  run (txscStep txscCfg) { counters := zeroCounters, asleep := fun _ => false }
    [.tx (ipTo 1) (some 0)]

end Rtl8831.Core
