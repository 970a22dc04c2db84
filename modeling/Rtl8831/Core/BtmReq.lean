import Rtl8831.Core.Wnm
import Rtl8831.Lib.SelectionSort

/-!
# BSS transition requests

A request that the driver has built is read again by its own parser.
-/

namespace Rtl8831.Core.Wnm

open Lib List

/-! ## Writing -/

/-- A neighbour report and its preference subelement. -/
def WnmBtmCant.ies (c : WnmBtmCant) : List UInt8 :=
  [c.nbRpt.id, c.nbRpt.len] ++ ofFn c.nbRpt.bssid ++ ofFn c.nbRpt.bssInfo ++
    [c.nbRpt.regClass, c.nbRpt.chNum, c.nbRpt.phyType, candPrefSubeid, 1, c.preference]

def BtmTermDuration.ies (d : BtmTermDuration) : List UInt8 :=
  [d.id, d.len] ++ ofFn d.tsf ++ ofFn d.duration

def BtmReqHdr.fixed (h : BtmReqHdr) : List UInt8 :=
  [h.dialogToken, h.reqMode] ++ ofFn h.disassocTimer ++ [h.validityInterval] ++
    if termIncluded h.reqMode then h.termDuration.ies else []

/-- The session URL and its length, where it is written. -/
def urlIes (h : BtmReqHdr) : Option (List UInt8) → List UInt8
  | some url =>
    if 0 < url.length ∧ essDisassocIm h.reqMode = true then UInt8.ofNat url.length :: url else []
  | none => []

/-- `rtw_wnm_build_btm_req_ies`; `mbo` is what `rtw_mbo_build_wnm_btmreq_reason_ies` appends. -/
def rtwWnmBuildBtmReqIes (h : BtmReqHdr) (url : Option (List UInt8)) (cands : List WnmBtmCant)
    (mbo : List UInt8) : List UInt8 :=
  h.fixed ++ urlIes h url ++ cands.flatMap WnmBtmCant.ies ++ mbo

/-- The frame body: category, action and the fields. -/
def btmReqFrame (h : BtmReqHdr) (url : Option (List UInt8)) (cands : List WnmBtmCant)
    (mbo : List UInt8) : List UInt8 :=
  [10, 7] ++ rtwWnmBuildBtmReqIes h url cands mbo

/-! ## Reading -/

def rtwWnmCandidatesSorting (cants : List WnmBtmCant) : List WnmBtmCant :=
  (range cants.length).map (selectionSort (fun c => c.preference.toNat) cants.length
    fun i => cants.getD i ⟨⟨0, 0, fun _ => 0, fun _ => 0, 0, 0, 0⟩, 0⟩)

/-- The loop of `rtw_wnm_nb_info_update` over the channels of the reports. -/
def nbRptChList (chs : List UInt8) : List UInt8 :=
  chs.foldl (fun l ch => if ch = 0 ∨ ch ∈ l then l else l ++ [ch]) []

/-- What `rtw_wnm_btm_candidates_survey` comes to: the candidates, and the channel list. -/
def rtwWnmBtmCandidatesSurvey (mem : ℕ → UInt8) (ptr elemLen : ℕ) :
    List WnmBtmCant × List UInt8 :=
  let entries := (rtwWnmNbElemParsing mem ptr elemLen).val
  let cants := entries.map fun e => WnmBtmCant.mk e.1 (e.2.getD 0)
  let preferenceEn := entries.any fun e => e.2.isSome
  let cants := if preferenceEn then rtwWnmCandidatesSorting cants else cants
  (cants, nbRptChList (cants.map fun c => c.nbRpt.chNum))

/-! ## What is found of what was written -/

section

variable {mem : ℕ → UInt8} {p : ℕ}

lemma octetsAt_of_stores {n : ℕ} {f : Fin n → UInt8} (h : Stores mem p (ofFn f)) :
    octetsAt mem n p = f := by
  funext i
  have hget := congrArg (fun l => l[i.val]?) h.eq
  simpa [bytesAt, octetsAt, getElem?_range'] using hget

lemma nbRptAt_of_stores {c : WnmBtmCant} (h : Stores mem p c.ies) :
    nbRptAt mem p = c.nbRpt ∧ mem (p + 15) = candPrefSubeid ∧ mem (p + 16) = 1 ∧
      mem (p + 17) = c.preference := by
  simp only [WnmBtmCant.ies, stores_append, stores_cons, length_append, length_ofFn,
    length_cons, length_nil] at h
  obtain ⟨⟨⟨⟨hid, hlen, -⟩, hbssid⟩, hinfo⟩, hreg, hch, hphy, hsub, hone, hpref, -⟩ := h
  have hreg : mem (p + 12) = c.nbRpt.regClass := hreg
  have hch : mem (p + 13) = c.nbRpt.chNum := hch
  have hphy : mem (p + 14) = c.nbRpt.phyType := hphy
  refine ⟨?_, hsub, hone, hpref⟩
  rw [nbRptAt, octetsAt_of_stores hbssid, octetsAt_of_stores hinfo, hid, hlen, hreg, hch, hphy]

lemma length_ies (c : WnmBtmCant) : c.ies.length = 18 := by
  simp [WnmBtmCant.ies]

lemma rtwGetIe_first {index : UInt8} {limit : ℤ} (hid : mem p = index) (hlimit : 1 ≤ limit) :
    (rtwGetIe mem p index.toNat limit).val = some ⟨p, (mem (p + 1)).toNat⟩ := by
  have hstep : (rtwGetIeStep mem p index.toNat limit p).val =
      .inl (some ⟨p, (mem (p + 1)).toNat⟩) := by
    simp [rtwGetIeStep, hid]
  rw [rtwGetIe, Reading.val_bind, rtwGetIeLoop, if_neg (by omega), search_done hstep]
  rfl

def Sendable (cands : List WnmBtmCant) : Prop :=
  ∀ c ∈ cands, c.nbRpt.id = nbRptElem ∧ c.nbRpt.len = 16

lemma nbElemLoop_ies {cands : List WnmBtmCant} (hwf : Sendable cands) {tail : List UInt8}
    (htail : tail.head? ≠ some nbRptElem) (hlen : tail.length ≤ 257) {n : ℕ}
    (hn : cands.length ≤ n) (hn8 : n ≤ 8)
    (hst : Stores mem p (cands.flatMap WnmBtmCant.ies ++ tail)) :
    (nbElemLoop mem (p + (18 * cands.length + tail.length)) n p (18 * cands.length + tail.length)
      (mem (p + 1)).toNat).val = cands.map fun c => (c.nbRpt, some c.preference) := by
  induction cands generalizing n p with
  | nil =>
    cases n with
    | zero => rfl
    | succ n =>
      rw [nbElemLoop, Reading.val_ite]
      split_ifs with hstop
      · rfl
      · cases tail with
        | nil =>
          simp only [length_nil] at hstop
          omega
        | cons x xs =>
          have hx : mem p ≠ nbRptElem := fun hx => htail (congrArg some ((stores_cons.1 hst).1 ▸ hx))
          simp [hx]
  | cons c cs ih =>
    obtain ⟨n, rfl⟩ := Nat.exists_eq_add_of_lt (Nat.lt_of_lt_of_le (Nat.succ_pos _) hn)
    obtain ⟨hid, hclen⟩ := hwf c mem_cons_self
    rw [flatMap_cons, append_assoc, stores_append, length_ies] at hst
    obtain ⟨hrpt, hsub, hone, hpref⟩ := nbRptAt_of_stores hst.1
    have hmid : mem p = nbRptElem := (congrArg NbRptHdr.id hrpt).trans hid
    have hmlen : mem (p + 1) = 16 := (congrArg NbRptHdr.len hrpt).trans hclen
    have hop := @rtwGetIe_first mem (p + 15) candPrefSubeid 1 hsub (le_refl 1)
    have hrest := ih (fun c hc => hwf c (mem_cons_of_mem _ hc)) (n := 0 + n) (p := p + 18)
      (by simp only [length_cons] at hn; omega) (by omega) hst.2
    have hsubtract : subU32 (18 * (cs.length + 1) + tail.length) 18 =
        18 * cs.length + tail.length := by
      have hcs : cs.length ≤ 8 := by simp only [length_cons] at hn; omega
      unfold subU32
      omega
    have hpend : p + 18 + (18 * cs.length + tail.length) =
        p + (18 * (cs.length + 1) + tail.length) := by omega
    rw [hpend] at hrest
    rw [length_cons, nbElemLoop, hmlen, Reading.val_ite, if_neg (by
      have h16 : (16 : UInt8).toNat = 16 := rfl
      omega)]
    simp only [Reading.val_bind, val_readByte, hmid, ne_eq, not_true_eq_false, if_false]
    have h16 : ((16 : UInt8).toNat : ℤ) - 15 = 1 := rfl
    rw [h16, hop]
    have hlen1 : mem (p + 15 + 1) = 1 := hone
    have hcand : (candPreference mem (some ⟨p + 15, (1 : UInt8).toNat⟩)).val =
        some c.preference := congrArg some hpref
    rw [hlen1, hrpt]
    change (c.nbRpt, (candPreference mem (some ⟨p + 15, (1 : UInt8).toNat⟩)).val) ::
      (nbElemLoop mem _ (0 + n) (p + 18) (subU32 _ 18) (mem (p + 18 + 1)).toNat).val = _
    rw [hcand, hsubtract, hrest, map_cons]

lemma sorting_spec (cants : List WnmBtmCant) :
    (rtwWnmCandidatesSorting cants).Perm cants ∧
      (rtwWnmCandidatesSorting cants).Pairwise fun c c' => c'.preference.toNat ≤ c.preference.toNat := by
  rw [rtwWnmCandidatesSorting]
  generalize hdflt : WnmBtmCant.mk ⟨0, 0, fun _ => 0, fun _ => 0, 0, 0, 0⟩ 0 = dflt
  obtain ⟨hperm, hsorted⟩ := selectionSort_spec (fun c : WnmBtmCant => c.preference.toNat)
    cants.length fun i => cants.getD i dflt
  have hall : (range cants.length).map (fun i => cants.getD i dflt) = cants := by
    apply ext_getElem (by simp)
    intro i hi hi'
    simp [hi']
  rw [hall] at hperm
  refine ⟨hperm, pairwise_map.2 ?_⟩
  refine pairwise_lt_range.imp_of_mem fun {j k} hj hk hjk => ?_
  exact hsorted j k (mem_range.1 hj) hjk (mem_range.1 hk)

lemma nbRptChList_spec (chs : List UInt8) :
    (nbRptChList chs).Nodup ∧ ∀ ch, ch ∈ nbRptChList chs ↔ ch ≠ 0 ∧ ch ∈ chs := by
  unfold nbRptChList
  induction chs using reverseRecOn with
  | nil => simp
  | append_singleton chs ch ih =>
    rw [foldl_append]
    generalize chs.foldl _ [] = l at ih
    obtain ⟨hnodup, hmem⟩ := ih
    change (if ch = 0 ∨ ch ∈ l then l else l ++ [ch]).Nodup ∧
      ∀ c, c ∈ (if ch = 0 ∨ ch ∈ l then l else l ++ [ch]) ↔ c ≠ 0 ∧ c ∈ chs ++ [ch]
    by_cases hold : ch = 0 ∨ ch ∈ l
    · rw [if_pos hold]
      refine ⟨hnodup, fun c => (hmem c).trans ⟨fun h => ⟨h.1, mem_append_left _ h.2⟩, ?_⟩⟩
      rintro ⟨hc, hin⟩
      rcases mem_append.1 hin with hin | hin
      · exact ⟨hc, hin⟩
      · obtain rfl := mem_singleton.1 hin
        exact (hmem c).1 (hold.resolve_left hc)
    · rw [if_neg hold]
      obtain ⟨hzero, hnew⟩ := not_or.1 hold
      refine ⟨nodup_append.2 ⟨hnodup, nodup_singleton ch, ?_⟩, fun c => ?_⟩
      · rintro a ha b hb rfl
        exact hnew (mem_singleton.1 hb ▸ ha)
      · rw [mem_append, hmem, mem_append, mem_singleton]
        constructor
        · rintro (h | rfl)
          · exact ⟨h.1, .inl h.2⟩
          · exact ⟨hzero, .inr rfl⟩
        · rintro ⟨hc, h | rfl⟩
          · exact .inl ⟨hc, h⟩
          · exact .inr rfl

/-- From where the candidates begin, the survey finds them. -/
lemma survey_ies {cands : List WnmBtmCant} (hwf : Sendable cands) {tail : List UInt8}
    (htail : tail.head? ≠ some nbRptElem) (hlen : tail.length ≤ 257)
    (hn : cands.length ≤ rtwMaxNbRptNum)
    (hst : Stores mem p (cands.flatMap WnmBtmCant.ies ++ tail)) :
    ∃ cants, rtwWnmBtmCandidatesSurvey mem p (18 * cands.length + tail.length) =
        (cants, nbRptChList (cants.map fun c => c.nbRpt.chNum)) ∧ cants.Perm cands ∧
      cants.Pairwise fun c c' => c'.preference.toNat ≤ c.preference.toNat := by
  have hentries : (rtwWnmNbElemParsing mem p (18 * cands.length + tail.length)).val =
      cands.map fun c => (c.nbRpt, some c.preference) :=
    nbElemLoop_ies hwf htail hlen hn (le_refl 8) hst
  refine ⟨_, rfl, ?_⟩
  rw [hentries, map_map]
  have hsame : cands.map ((fun e : NbRptHdr × Option UInt8 => WnmBtmCant.mk e.1 (e.2.getD 0)) ∘
      fun c : WnmBtmCant => (c.nbRpt, some c.preference)) = cands := map_id cands
  rw [hsame]
  cases cands with
  | nil => exact ⟨.refl _, .nil⟩
  | cons c cs =>
    rw [if_pos (by simp)]
    exact sorting_spec (c :: cs)

end

/-! ## The round trip -/

/-- The fields of the header that are sent. -/
def BtmReqHdr.onAir (h : BtmReqHdr) : BtmReqHdr :=
  if termIncluded h.reqMode then h else { h with termDuration := {} }

structure RoundTrip (mem : ℕ → UInt8) (h : BtmReqHdr) (url : Option (List UInt8))
    (cands : List WnmBtmCant) (mbo : List UInt8) : Prop where
  header : (rtwWnmBtmReqHdrParsing mem).val = h.onAir
  offset : (rtwWnmBtmCandidatesOffsetGet mem).val = 2 + h.fixed.length + (urlIes h url).length
  survey : ∃ cants chs, rtwWnmBtmCandidatesSurvey mem (rtwWnmBtmCandidatesOffsetGet mem).val
      (subU32 (btmReqFrame h url cands mbo).length (rtwWnmBtmCandidatesOffsetGet mem).val) =
        (cants, chs) ∧ cants.Perm cands ∧
      (cants.Pairwise fun c c' => c'.preference.toNat ≤ c.preference.toNat) ∧
      chs.Nodup ∧ ∀ ch, ch ∈ chs ↔ ch ≠ 0 ∧ ∃ c ∈ cands, c.nbRpt.chNum = ch

section

variable {mem : ℕ → UInt8} {h : BtmReqHdr} {url : Option (List UInt8)} {cands : List WnmBtmCant}
  {mbo : List UInt8}

lemma length_fixed (h : BtmReqHdr) :
    h.fixed.length = 5 + if termIncluded h.reqMode then 12 else 0 := by
  unfold BtmReqHdr.fixed
  split_ifs <;> simp [BtmTermDuration.ies]

lemma header_of_stores (hterm : h.termDuration.id = termDurSubeid)
    (hst : Stores mem 2 h.fixed) :
    mem 3 = h.reqMode ∧ (rtwWnmBtmReqHdrParsing mem).val = h.onAir := by
  unfold BtmReqHdr.fixed at hst
  simp only [stores_append, stores_cons, length_append, length_ofFn,
    length_cons, length_nil] at hst
  obtain ⟨⟨⟨⟨htok, hmode, -⟩, htimer⟩, hvalid, -⟩, hst⟩ := hst
  have hmode : mem 3 = h.reqMode := hmode
  have hvalid : mem 6 = h.validityInterval := hvalid
  have htimer : octetsAt mem 2 4 = h.disassocTimer := octetsAt_of_stores htimer
  refine ⟨hmode, ?_⟩
  simp only [rtwWnmBtmReqHdrParsing, Reading.val_bind, val_readByte, Reading.val_pure, hmode,
    Reading.val_ite, readOctets, htok, hvalid, htimer]
  unfold BtmReqHdr.onAir
  by_cases hinc : termIncluded h.reqMode = true
  · rw [if_pos hinc, if_pos hinc]
    rw [if_pos hinc] at hst
    simp only [BtmTermDuration.ies, stores_append, stores_cons, length_append,
      length_ofFn, length_cons, length_nil] at hst
    obtain ⟨⟨⟨hid, hlen, -⟩, htsf⟩, hdur⟩ := hst
    have hid : mem 7 = h.termDuration.id := hid
    have hlen : mem 8 = h.termDuration.len := hlen
    have htsf : octetsAt mem 8 9 = h.termDuration.tsf := octetsAt_of_stores htsf
    have hdur : octetsAt mem 2 17 = h.termDuration.duration := octetsAt_of_stores hdur
    have hparse : (btmTermDurationParsing mem).val = h.termDuration := by
      simp only [btmTermDurationParsing, Reading.val_bind, val_readByte, Reading.val_ite,
        Reading.val_pure, readOctets]
      rw [hid, if_pos hterm, hlen, htsf, hdur]
    rw [hparse]
  · rw [if_neg hinc, if_neg hinc]

lemma urlIes_of_nil (hnil : url.getD [] = []) : urlIes h url = [] := by
  cases url with
  | none => rfl
  | some u =>
    obtain rfl : u = [] := hnil
    simp [urlIes]

lemma header_fixed_iff (hterm : h.termDuration.id = termDurSubeid)
    (hurl : ∀ u, url = some u → u.length < 256) (hst : Stores mem 2 (h.fixed ++ urlIes h url)) :
    (rtwWnmBtmCandidatesOffsetGet mem).val = 2 + h.fixed.length + (urlIes h url).length ↔
      essDisassocIm h.reqMode = false ∨
        url.getD [] = [] ∧ (mem (2 + h.fixed.length)).toNat + 1 = 2 + h.fixed.length := by
  obtain ⟨hhdr, hu⟩ := stores_append.1 hst
  obtain ⟨hmode, -⟩ := header_of_stores hterm hhdr
  have hfix : 7 + (if termIncluded h.reqMode then 12 else 0) = 2 + h.fixed.length := by
    rw [length_fixed]
    omega
  simp only [rtwWnmBtmCandidatesOffsetGet, Reading.val_bind, val_readByte, Reading.val_ite,
    Reading.val_pure, hmode, hfix]
  by_cases hess : essDisassocIm h.reqMode = true
  · rw [if_pos hess]
    by_cases hnil : url.getD [] = []
    · rw [urlIes_of_nil hnil, length_nil]
      constructor
      · intro hoff
        exact .inr ⟨hnil, by omega⟩
      · rintro (hno | ⟨-, hbyte⟩)
        · exact absurd (hess.symm.trans hno) Bool.noConfusion
        · omega
    · obtain ⟨u, rfl⟩ : ∃ u, url = some u := by
        cases url with
        | none => exact absurd rfl hnil
        | some u => exact ⟨u, rfl⟩
      have hies : urlIes h (some u) = UInt8.ofNat u.length :: u :=
        if_pos ⟨length_pos_iff.2 hnil, hess⟩
      rw [hies] at hu ⊢
      have hbyte : (UInt8.ofNat u.length).toNat = u.length := by
        rw [UInt8.toNat_ofNat', Nat.mod_eq_of_lt (hurl u rfl)]
      rw [(stores_cons.1 hu).1, hbyte, length_fixed, length_cons]
      refine iff_of_false (by omega) ?_
      rintro (hno | ⟨hn, -⟩)
      · exact absurd (hess.symm.trans hno) Bool.noConfusion
      · exact hnil hn
  · have hno : essDisassocIm h.reqMode = false := Bool.eq_false_iff.2 hess
    rw [if_neg hess]
    have hies : urlIes h url = [] := by
      cases url with
      | none => rfl
      | some u => exact if_neg fun hw => hess hw.2
    rw [hies]
    exact iff_of_true rfl (.inl hno)

lemma length_flatMap_ies (cands : List WnmBtmCant) :
    (cands.flatMap WnmBtmCant.ies).length = 18 * cands.length := by
  induction cands with
  | nil => rfl
  | cons c cs ih =>
    rw [flatMap_cons, length_append, length_ies, ih, length_cons]
    omega

lemma length_urlIes (hurl : ∀ u, url = some u → u.length < 256) :
    (urlIes h url).length ≤ 256 := by
  cases url with
  | none => exact Nat.zero_le _
  | some u =>
    have := hurl u rfl
    simp only [urlIes]
    split_ifs
    · exact Nat.succ_le_of_lt this
    · exact Nat.zero_le _

/-- For every header, URL and list of up to eight candidates, and whatever the memory holds
behind the frame: the parsers find what was built if and only if the mode has no
`ESS_DISASSOC_IMMINENT`, or there is no URL and the byte behind the header is the one that the
reader's slip needs. -/
theorem btm_req_round_trip_iff (junk : ℕ → UInt8) (h : BtmReqHdr) (url : Option (List UInt8))
    (cands : List WnmBtmCant) (mbo : List UInt8) (hterm : h.termDuration.id = termDurSubeid)
    (hurl : ∀ u, url = some u → u.length < 256) (hwf : Sendable cands)
    (hnum : cands.length ≤ rtwMaxNbRptNum) (hmbo : mbo.head? ≠ some nbRptElem ∧ mbo.length ≤ 257) :
    RoundTrip (writeBytes junk 0 (btmReqFrame h url cands mbo)) h url cands mbo ↔
      essDisassocIm h.reqMode = false ∨ url.getD [] = [] ∧
        (writeBytes junk 0 (btmReqFrame h url cands mbo) (2 + h.fixed.length)).toNat + 1 =
          2 + h.fixed.length := by
  have hst := stores_writeBytes junk 0 (btmReqFrame h url cands mbo)
  generalize writeBytes junk 0 (btmReqFrame h url cands mbo) = mem at hst
  rw [btmReqFrame, rtwWnmBuildBtmReqIes, append_assoc, stores_append, stores_append] at hst
  obtain ⟨-, hhdr, hrest⟩ := hst
  have hiff := header_fixed_iff hterm hurl hhdr
  refine ⟨fun hr => hiff.1 hr.offset, fun hcond => ?_⟩
  have hoffset := hiff.2 hcond
  refine ⟨(header_of_stores hterm (stores_append.1 hhdr).1).2, hoffset, ?_⟩
  have hlen : subU32 (btmReqFrame h url cands mbo).length
      (2 + h.fixed.length + (urlIes h url).length) = 18 * cands.length + mbo.length := by
    have hu := length_urlIes (h := h) hurl
    have hf := length_fixed h
    have hf17 : h.fixed.length ≤ 17 := by split_ifs at hf <;> omega
    unfold rtwMaxNbRptNum at hnum
    rw [subU32, btmReqFrame, rtwWnmBuildBtmReqIes]
    simp only [length_append, length_flatMap_ies, length_cons, length_nil]
    omega
  rw [hoffset, hlen]
  have hplace : 0 + [(10 : UInt8), 7].length + (h.fixed ++ urlIes h url).length =
      2 + h.fixed.length + (urlIes h url).length := by
    simp only [length_append, length_cons, length_nil]
    omega
  rw [hplace] at hrest
  obtain ⟨cants, heq, hperm, hsorted⟩ := survey_ies hwf hmbo.1 hmbo.2 hnum hrest
  obtain ⟨hnodup, hmem⟩ := nbRptChList_spec (cants.map fun c => c.nbRpt.chNum)
  refine ⟨cants, _, heq, hperm, hsorted, hnodup, fun ch => (hmem ch).trans ?_⟩
  refine and_congr_right fun _ => mem_map.trans (exists_congr fun c => ?_)
  rw [hperm.mem_iff]

/-- A request without options that has one candidate on channel 6. -/
theorem btm_req_round_trip_plain :
    RoundTrip (writeBytes (fun _ => 0) 0
        (btmReqFrame ⟨1, 0x01, fun _ => 0, 255, { id := 4 }⟩ none
          [⟨⟨0x34, 16, fun _ => 2, fun _ => 0, 81, 6, 7⟩, 200⟩] []))
      ⟨1, 0x01, fun _ => 0, 255, { id := 4 }⟩ none
      [⟨⟨0x34, 16, fun _ => 2, fun _ => 0, 81, 6, 7⟩, 200⟩] [] :=
  (btm_req_round_trip_iff (fun _ => 0) ⟨1, 0x01, fun _ => 0, 255, { id := 4 }⟩ none
    [⟨⟨0x34, 16, fun _ => 2, fun _ => 0, 81, 6, 7⟩, 200⟩] [] rfl
    (fun _ hu => by cases hu) (fun _ hc => by cases mem_singleton.1 hc; exact ⟨rfl, rfl⟩)
    (by decide) (by decide)).2 (.inl rfl)

/-- With a URL of three bytes the candidate is looked for from the fifth byte of the frame on,
where none is found. -/
theorem btm_req_url_hides_candidate :
    ¬ RoundTrip (writeBytes (fun _ => 0) 0
        (btmReqFrame ⟨1, 0x11, fun _ => 0, 255, { id := 4 }⟩ (some [97, 98, 99])
          [⟨⟨0x34, 16, fun _ => 2, fun _ => 0, 81, 6, 7⟩, 200⟩] []))
      ⟨1, 0x11, fun _ => 0, 255, { id := 4 }⟩ (some [97, 98, 99])
      [⟨⟨0x34, 16, fun _ => 2, fun _ => 0, 81, 6, 7⟩, 200⟩] [] := by
  rintro ⟨-, -, cants, chs, hsurvey, hperm, -⟩
  have hnone : cants = [] := (congrArg Prod.fst hsurvey).symm.trans (by decide)
  have hlen := hperm.length_eq
  rw [hnone] at hlen
  cases hlen

end

end Rtl8831.Core.Wnm
