import Rtl8831.Core.Rsne

/-!
# The grammar of RSN elements

Where the fields of an element end follows from its counts.  The parser accepts an element
that ends at such an end or has all fields, and reports the fields that are there.
-/

namespace Rtl8831.Core

open List

section

variable (mem : ℕ → UInt8) (ieLen : ℕ)

def pcsCount : ℕ := le16 mem 8

def pcsEnd : ℕ := 10 + 4 * pcsCount mem

def akmCount : ℕ := le16 mem (pcsEnd mem)

def akmEnd : ℕ := pcsEnd mem + 2 + 4 * akmCount mem

def capEnd : ℕ := akmEnd mem + 2

def pmkidCount : ℕ := le16 mem (capEnd mem)

def pmkidEnd : ℕ := capEnd mem + 2 + 16 * pmkidCount mem

def gmcsEnd : ℕ := pmkidEnd mem + 4

/-- Ends of the version, group suite, pairwise suites, AKM suites, capabilities and PMKIDs. -/
def fieldEnds : List ℕ :=
  [rsnHeaderLen, 8, pcsEnd mem, akmEnd mem, capEnd mem, pmkidEnd mem]

def countEnds : List ℕ := [10, pcsEnd mem + 2, capEnd mem + 2]

def SuitesCounted : Prop :=
  (10 ≤ ieLen → pcsCount mem ≠ 0) ∧ (pcsEnd mem + 2 ≤ ieLen → akmCount mem ≠ 0)

def IsRsne : Prop := rsneHeaderOk mem ieLen = true ∧ mem 3 = 0

/-- An RSN element that ends behind a field; `apart` if a count and its list are two fields. -/
def CutAtField (apart : Bool) : Prop :=
  IsRsne mem ieLen ∧ SuitesCounted mem ieLen ∧
    (ieLen ∈ fieldEnds mem ∨ gmcsEnd mem ≤ ieLen ∨ apart = true ∧ ieLen ∈ countEnds mem)

def RsneBody : Prop :=
  SuitesCounted mem ieLen ∧
    (ieLen ∈ fieldEnds mem ∨ gmcsEnd mem ≤ ieLen ∨ ieLen = 10 ∨ ieLen = pcsEnd mem + 2)

def rsneReport : RsneInfo where
  gcs := if 8 ≤ ieLen then some 4 else none
  pcsCnt := if pcsEnd mem ≤ ieLen then pcsCount mem else 0
  pcsList := if pcsEnd mem ≤ ieLen then some 10 else none
  akmCnt := if akmEnd mem ≤ ieLen then akmCount mem else 0
  akmList := if akmEnd mem ≤ ieLen then some (pcsEnd mem + 2) else none
  cap := if capEnd mem ≤ ieLen then some (akmEnd mem) else none
  pmkidCnt := if pmkidEnd mem ≤ ieLen then pmkidCount mem else 0
  pmkidList := if pmkidEnd mem ≤ ieLen then some (capEnd mem + 2) else none
  gmcs := if gmcsEnd mem ≤ ieLen then some (pmkidEnd mem) else none

/-- The parser goes on or has come to `exit`, with the information `info`. -/
def RsneParse.Accepts : RsneParse → RsneInfo → Prop
  | .next _ info, info' => info = info'
  | .exit info, info' => info = info'
  | .err _, _ => False

variable {mem ieLen} {info info' : RsneInfo} {pos : ℕ}

lemma rsneTruncated_accepts :
    (rsneTruncated ieLen pos info).Accepts info' ↔ ieLen = pos ∧ info = info' := by
  unfold rsneTruncated
  by_cases h : ieLen = pos
  · simp [h, RsneParse.Accepts]
  · simp [h, RsneParse.Accepts]

lemma rsneTruncated_andThen {field : ℕ → RsneInfo → RsneParse} :
    (rsneTruncated ieLen pos info).andThen field = rsneTruncated ieLen pos info := by
  unfold rsneTruncated RsneParse.andThen
  split_ifs <;> rfl

lemma rsneField_accepts {len : ℕ} {report : ℕ → RsneInfo → RsneInfo}
    {rest : ℕ → RsneInfo → RsneParse} (hlen : 0 < len) :
    ((rsneField ieLen len report pos info).andThen rest).Accepts info' ↔
      ieLen = pos ∧ info = info' ∨
        pos + len ≤ ieLen ∧ (rest (pos + len) (report pos info)).Accepts info' := by
  unfold rsneField
  by_cases h : ieLen < pos + len
  · rw [if_pos h, rsneTruncated_andThen, rsneTruncated_accepts]
    simp [h.not_ge]
  · rw [if_neg h]
    have hne : ieLen ≠ pos := by omega
    simp [RsneParse.andThen, hne, not_lt.1 h]

lemma rsneSuites_accepts {report : ℕ → ℕ → RsneInfo → RsneInfo}
    {rest : ℕ → RsneInfo → RsneParse} :
    ((rsneSuites mem ieLen report pos info).andThen rest).Accepts info' ↔
      ieLen = pos ∧ info = info' ∨ le16 mem pos ≠ 0 ∧ (ieLen = pos + 2 ∧ info = info' ∨
        pos + 2 + 4 * le16 mem pos ≤ ieLen ∧
          (rest (pos + 2 + 4 * le16 mem pos)
            (report (le16 mem pos) (pos + 2) info)).Accepts info') := by
  unfold rsneSuites rsnSelectorLen
  simp only
  by_cases h : ieLen < pos + 2
  · rw [if_pos h, rsneTruncated_andThen, rsneTruncated_accepts]
    have hlist : ¬ pos + 2 + 4 * le16 mem pos ≤ ieLen := by omega
    simp [h.ne, hlist]
  · have hne : ieLen ≠ pos := by omega
    rw [if_neg h]
    by_cases hzero : le16 mem pos = 0
    · rw [if_pos hzero]
      simp [RsneParse.andThen, RsneParse.Accepts, hne, hzero]
    · rw [if_neg hzero]
      by_cases hlist : ieLen < pos + 2 + 4 * le16 mem pos
      · rw [if_pos hlist, rsneTruncated_andThen, rsneTruncated_accepts]
        simp [hne, hzero, hlist.not_ge]
      · rw [if_neg hlist]
        have hne' : ieLen ≠ pos + 2 := by omega
        simp [RsneParse.andThen, hne, hne', hzero, not_lt.1 hlist]

lemma rsnePmkids_accepts {rest : ℕ → RsneInfo → RsneParse} :
    ((rsnePmkids mem ieLen pos info).andThen rest).Accepts info' ↔
      ieLen = pos ∧ info = info' ∨ pos + 2 + 16 * le16 mem pos ≤ ieLen ∧
        (rest (pos + 2 + 16 * le16 mem pos)
          { info with pmkidCnt := le16 mem pos, pmkidList := some (pos + 2) }).Accepts info' := by
  unfold rsnePmkids rsnPmkidLen
  simp only
  by_cases h : ieLen < pos + 2
  · rw [if_pos h, rsneTruncated_andThen, rsneTruncated_accepts]
    have hlist : ¬ pos + 2 + 16 * le16 mem pos ≤ ieLen := by omega
    simp [hlist]
  · have hne : ieLen ≠ pos := by omega
    rw [if_neg h]
    by_cases hlist : ieLen < pos + 2 + 16 * le16 mem pos
    · have hmissing : ieLen ≠ pos + 2 ∨ le16 mem pos ≠ 0 := by omega
      rw [if_pos hlist, if_pos hmissing]
      simp [RsneParse.andThen, RsneParse.Accepts, hne, hlist.not_ge]
    · rw [if_neg hlist]
      simp [RsneParse.andThen, hne, not_lt.1 hlist]

lemma RsneParse.andThen_assoc (p : RsneParse) (f g : ℕ → RsneInfo → RsneParse) :
    (p.andThen f).andThen g = p.andThen fun pos info => (f pos info).andThen g := by
  cases p <;> rfl

lemma RsneParse.andThen_next (p : RsneParse) : p.andThen .next = p := by
  cases p <;> rfl

variable (mem) in
/-- The first `k` of the six fields, as they are reported on the way. -/
def rsneSoFar (k : ℕ) : RsneInfo where
  gcs := if 1 ≤ k then some 4 else none
  pcsCnt := if 2 ≤ k then pcsCount mem else 0
  pcsList := if 2 ≤ k then some 10 else none
  akmCnt := if 3 ≤ k then akmCount mem else 0
  akmList := if 3 ≤ k then some (pcsEnd mem + 2) else none
  cap := if 4 ≤ k then some (akmEnd mem) else none
  pmkidCnt := if 5 ≤ k then pmkidCount mem else 0
  pmkidList := if 5 ≤ k then some (capEnd mem + 2) else none
  gmcs := if 6 ≤ k then some (pmkidEnd mem) else none

lemma rsneSoFar_eq_report {k : ℕ} (hgcs : 1 ≤ k ↔ 8 ≤ ieLen) (hpcs : 2 ≤ k ↔ pcsEnd mem ≤ ieLen)
    (hakm : 3 ≤ k ↔ akmEnd mem ≤ ieLen) (hcap : 4 ≤ k ↔ capEnd mem ≤ ieLen)
    (hpmkid : 5 ≤ k ↔ pmkidEnd mem ≤ ieLen) (hgmcs : 6 ≤ k ↔ gmcsEnd mem ≤ ieLen) :
    rsneSoFar mem k = rsneReport mem ieLen := by
  unfold rsneSoFar rsneReport
  simp only [hgcs, hpcs, hakm, hcap, hpmkid, hgmcs]

lemma rsneFields_accepts : (rsneFields mem ieLen).Accepts info' ↔
    ieLen = 4 ∧ rsneSoFar mem 0 = info' ∨ 8 ≤ ieLen ∧
      (ieLen = 8 ∧ rsneSoFar mem 1 = info' ∨ pcsCount mem ≠ 0 ∧
        (ieLen = 10 ∧ rsneSoFar mem 1 = info' ∨ pcsEnd mem ≤ ieLen ∧
          (ieLen = pcsEnd mem ∧ rsneSoFar mem 2 = info' ∨ akmCount mem ≠ 0 ∧
            (ieLen = pcsEnd mem + 2 ∧ rsneSoFar mem 2 = info' ∨ akmEnd mem ≤ ieLen ∧
              (ieLen = akmEnd mem ∧ rsneSoFar mem 3 = info' ∨ capEnd mem ≤ ieLen ∧
                (ieLen = capEnd mem ∧ rsneSoFar mem 4 = info' ∨ pmkidEnd mem ≤ ieLen ∧
                  (ieLen = pmkidEnd mem ∧ rsneSoFar mem 5 = info' ∨
                    gmcsEnd mem ≤ ieLen ∧ rsneSoFar mem 6 = info'))))))) := by
  rw [← RsneParse.andThen_next (rsneFields mem ieLen)]
  unfold rsneFields
  simp only [RsneParse.andThen_assoc]
  rw [rsneField_accepts (by decide), rsneSuites_accepts, rsneSuites_accepts,
    rsneField_accepts (by decide), rsnePmkids_accepts, rsneField_accepts (by decide)]
  rfl

lemma rsneFields_accepts_iff (hlen : rsnHeaderLen ≤ ieLen) :
    (rsneFields mem ieLen).Accepts info' ↔ RsneBody mem ieLen ∧ info' = rsneReport mem ieLen := by
  have hpcs : 10 ≤ pcsEnd mem := Nat.le_add_right _ _
  have hpcs0 : pcsCount mem ≠ 0 → 10 < pcsEnd mem := by
    unfold pcsEnd
    omega
  have hakm : pcsEnd mem + 2 ≤ akmEnd mem := Nat.le_add_right _ _
  have hakm0 : akmCount mem ≠ 0 → pcsEnd mem + 2 < akmEnd mem := by
    unfold akmEnd
    omega
  have hcap : capEnd mem = akmEnd mem + 2 := rfl
  have hpmkid : capEnd mem + 2 ≤ pmkidEnd mem := Nat.le_add_right _ _
  have hgmcs : gmcsEnd mem = pmkidEnd mem + 4 := rfl
  have hfour : 4 ≤ ieLen := hlen
  rw [rsneFields_accepts]
  unfold RsneBody SuitesCounted fieldEnds rsnHeaderLen
  simp only [mem_cons, not_mem_nil, or_false]
  have hreport : ∀ k, (1 ≤ k ↔ 8 ≤ ieLen) ∧ (2 ≤ k ↔ pcsEnd mem ≤ ieLen) ∧
      (3 ≤ k ↔ akmEnd mem ≤ ieLen) ∧ (4 ≤ k ↔ capEnd mem ≤ ieLen) ∧
      (5 ≤ k ↔ pmkidEnd mem ≤ ieLen) ∧ (6 ≤ k ↔ gmcsEnd mem ≤ ieLen) →
      rsneSoFar mem k = rsneReport mem ieLen :=
    fun k h => rsneSoFar_eq_report h.1 h.2.1 h.2.2.1 h.2.2.2.1 h.2.2.2.2.1 h.2.2.2.2.2
  constructor
  · rintro (⟨h, rfl⟩ | ⟨h8, ⟨h, rfl⟩ | ⟨hc, ⟨h, rfl⟩ | ⟨h1, ⟨h, rfl⟩ | ⟨hc', ⟨h, rfl⟩ | ⟨h2,
      ⟨h, rfl⟩ | ⟨h3, ⟨h, rfl⟩ | ⟨h4, ⟨h, rfl⟩ | ⟨h, rfl⟩⟩⟩⟩⟩⟩⟩⟩)
    · exact ⟨by omega, hreport 0 (by omega)⟩
    · exact ⟨by omega, hreport 1 (by omega)⟩
    · exact ⟨by omega, hreport 1 (by omega)⟩
    · exact ⟨by omega, hreport 2 (by omega)⟩
    · exact ⟨by omega, hreport 2 (by omega)⟩
    · exact ⟨by omega, hreport 3 (by omega)⟩
    · exact ⟨by omega, hreport 4 (by omega)⟩
    · exact ⟨by omega, hreport 5 (by omega)⟩
    · exact ⟨by omega, hreport 6 (by omega)⟩
  · rintro ⟨⟨⟨hc, hc'⟩, (h | h | h | h | h | h) | h | h | h⟩, rfl⟩
    · exact Or.inl ⟨h, hreport 0 (by omega)⟩
    · exact Or.inr ⟨by omega, Or.inl ⟨h, hreport 1 (by omega)⟩⟩
    · exact Or.inr ⟨by omega, Or.inr ⟨hc (by omega), Or.inr ⟨by omega, Or.inl ⟨h, hreport 2 (by
        omega)⟩⟩⟩⟩
    · exact Or.inr ⟨by omega, Or.inr ⟨hc (by omega), Or.inr ⟨by omega, Or.inr ⟨hc' (by omega),
        Or.inr ⟨by omega, Or.inl ⟨h, hreport 3 (by omega)⟩⟩⟩⟩⟩⟩
    · exact Or.inr ⟨by omega, Or.inr ⟨hc (by omega), Or.inr ⟨by omega, Or.inr ⟨hc' (by omega),
        Or.inr ⟨by omega, Or.inr ⟨by omega, Or.inl ⟨h, hreport 4 (by omega)⟩⟩⟩⟩⟩⟩⟩
    · exact Or.inr ⟨by omega, Or.inr ⟨hc (by omega), Or.inr ⟨by omega, Or.inr ⟨hc' (by omega),
        Or.inr ⟨by omega, Or.inr ⟨by omega, Or.inr ⟨by omega, Or.inl ⟨h, hreport 5 (by
        omega)⟩⟩⟩⟩⟩⟩⟩⟩
    · exact Or.inr ⟨by omega, Or.inr ⟨hc (by omega), Or.inr ⟨by omega, Or.inr ⟨hc' (by omega),
        Or.inr ⟨by omega, Or.inr ⟨by omega, Or.inr ⟨by omega, Or.inr ⟨h, hreport 6 (by
        omega)⟩⟩⟩⟩⟩⟩⟩⟩
    · exact Or.inr ⟨by omega, Or.inr ⟨hc (by omega), Or.inl ⟨h, hreport 1 (by omega)⟩⟩⟩
    · exact Or.inr ⟨by omega, Or.inr ⟨hc (by omega), Or.inr ⟨by omega, Or.inr ⟨hc' (by omega),
        Or.inl ⟨h, hreport 2 (by omega)⟩⟩⟩⟩⟩

/-- Version apart, an element is accepted just if its header says so and it ends behind a field
or a count of suites; the fields that are there are reported. -/
lemma rtwRsneInfoParse_iff {info : RsneInfo} :
    rtwRsneInfoParse mem ieLen = (true, info) ↔
      rsneHeaderOk mem ieLen = true ∧ RsneBody mem ieLen ∧ info = rsneReport mem ieLen := by
  unfold rtwRsneInfoParse
  by_cases hok : rsneHeaderOk mem ieLen = true
  · have hlen : rsnHeaderLen ≤ ieLen := by
      unfold rsneHeaderOk at hok
      simp only [Bool.and_eq_true, decide_eq_true_eq] at hok
      exact hok.1.1.1
    have haccepts : (rsneFields mem ieLen).Accepts info ↔ _ := rsneFields_accepts_iff hlen
    rw [if_pos hok, and_iff_right hok, ← haccepts]
    cases rsneFields mem ieLen with
    | next pos info' => simp [RsneParse.Accepts]
    | exit info' => simp [RsneParse.Accepts]
    | err info' => simp [RsneParse.Accepts]
  · rw [if_neg hok]
    simp [hok]

/-- Each field that is reported lies in the first `n` bytes, and each list that is not there has
the count zero. -/
structure RsneInfo.Inside (info : RsneInfo) (n : ℕ) : Prop where
  gcs : ∀ pos ∈ info.gcs, pos + rsnSelectorLen ≤ n
  pcs : ∀ pos ∈ info.pcsList, pos + rsnSelectorLen * info.pcsCnt ≤ n
  pcs_none : info.pcsList = none → info.pcsCnt = 0
  akm : ∀ pos ∈ info.akmList, pos + rsnSelectorLen * info.akmCnt ≤ n
  akm_none : info.akmList = none → info.akmCnt = 0
  cap : ∀ pos ∈ info.cap, pos + 2 ≤ n
  pmkid : ∀ pos ∈ info.pmkidList, pos + rsnPmkidLen * info.pmkidCnt ≤ n
  pmkid_none : info.pmkidList = none → info.pmkidCnt = 0
  gmcs : ∀ pos ∈ info.gmcs, pos + rsnSelectorLen ≤ n

section Reported

variable {p : Prop} [Decidable p] {a k cnt n : ℕ}

lemma reported_field (h : p → a + k ≤ n) :
    ∀ pos ∈ (if p then some a else none : Option ℕ), pos + k ≤ n := by
  intro pos hpos
  obtain ⟨hp, hpos⟩ := Option.ite_none_right_eq_some.1 hpos
  cases hpos
  exact h hp

lemma reported_list (h : p → a + k * cnt ≤ n) :
    ∀ pos ∈ (if p then some a else none : Option ℕ), pos + k * (if p then cnt else 0) ≤ n := by
  intro pos hpos
  obtain ⟨hp, hpos⟩ := Option.ite_none_right_eq_some.1 hpos
  cases hpos
  rw [if_pos hp]
  exact h hp

lemma reported_none (h : (if p then some a else none : Option ℕ) = none) :
    (if p then cnt else 0) = 0 := by
  by_cases hp : p
  · rw [if_pos hp] at h
    cases h
  · rw [if_neg hp]

end Reported

variable (mem ieLen) in
lemma rsneReport_inside : (rsneReport mem ieLen).Inside ieLen where
  gcs := reported_field fun h => h
  pcs := reported_list fun h => h
  pcs_none := reported_none
  akm := reported_list fun h => h
  akm_none := reported_none
  cap := reported_field fun h => h
  pmkid := reported_list fun h => h
  pmkid_none := reported_none
  gmcs := reported_field fun h => h

/-- `r` has the bits of the suites, and no others. -/
def IsUnion (bit : List UInt8 → ℕ) (suites : List (List UInt8)) (r : ℕ) : Prop :=
  ∀ b, r.testBit b = true ↔ ∃ s ∈ suites, (bit s).testBit b = true

variable (mem) in
def listedSuites (cnt pos : ℕ) : List (List UInt8) :=
  (range cnt).map fun i => suiteAt mem (pos + 4 * i)

variable (mem ieLen) in
def pairwiseSuites : List (List UInt8) :=
  if pcsEnd mem ≤ ieLen then listedSuites mem (pcsCount mem) 10 else []

variable (mem ieLen) in
def listedAkms : List (List UInt8) :=
  if akmEnd mem ≤ ieLen then listedSuites mem (akmCount mem) (pcsEnd mem + 2) else []

variable (mem) in
lemma suiteUnion_isUnion (bit : List UInt8 → ℕ) (cnt : ℕ) (list : Option ℕ) :
    IsUnion bit (listedSuites mem cnt (list.getD 0)) (suiteUnion mem bit cnt list) := by
  intro b
  unfold suiteUnion listedSuites
  induction cnt with
  | zero => simp
  | succ cnt ih =>
    rw [range_succ, foldl_append, map_append]
    simp only [foldl_cons, foldl_nil, Nat.testBit_or, Bool.or_eq_true, ih,
      mem_append, map_cons, map_nil, mem_singleton]
    constructor
    · rintro (⟨s, hs, hb⟩ | hb)
      · exact ⟨s, Or.inl hs, hb⟩
      · exact ⟨_, Or.inr rfl, hb⟩
    · rintro ⟨s, hs | rfl, hb⟩
      · exact Or.inl ⟨s, hs, hb⟩
      · exact Or.inr hb

lemma report_isUnion (bit : List UInt8 → ℕ) {cnt pos : ℕ} {p : Prop} [Decidable p] :
    IsUnion bit (if p then listedSuites mem cnt pos else [])
      (suiteUnion mem bit (if p then cnt else 0) (if p then some pos else none)) := by
  by_cases hp : p
  · simp only [if_pos hp]
    exact suiteUnion_isUnion mem bit cnt (some pos)
  · simp only [if_neg hp]
    exact suiteUnion_isUnion mem bit 0 none

variable (mem ieLen) in
/-- An RSN element whose version has no second byte set is accepted just if its fields are there
in order up to an end of a field or of a count of suites; of every element that is accepted the
fields that are there are reported, which lie inside, and the bitmaps are the unions of the
suites that are listed. -/
theorem rsne_parse_grammar :
    (mem 3 = 0 → ((rtwRsneInfoParse mem ieLen).1 = true ↔
      IsRsne mem ieLen ∧ RsneBody mem ieLen)) ∧
    ((rtwRsneInfoParse mem ieLen).1 = true →
      (rtwRsneInfoParse mem ieLen).2 = rsneReport mem ieLen ∧
      (rtwRsneInfoParse mem ieLen).2.Inside ieLen ∧
      ∃ r, rtwParseWpa2Ie mem ieLen = some r ∧
        r.groupCipher = (if 8 ≤ ieLen then rtwGetRsnCipherSuite (suiteAt mem 4) else 0) ∧
        IsUnion rtwGetRsnCipherSuite (pairwiseSuites mem ieLen) r.pairwiseCipher ∧
        r.gmcs = (if gmcsEnd mem ≤ ieLen then rtwGetRsnCipherSuite (suiteAt mem (pmkidEnd mem))
          else wpaCipherBipCmac128) ∧
        IsUnion rtwGetAkmSuiteBitmap (listedAkms mem ieLen) r.akm) ∧
    ((rtwRsneInfoParse mem ieLen).1 = false → rtwParseWpa2Ie mem ieLen = none) := by
  have hiff : (rtwRsneInfoParse mem ieLen).1 = true ↔
      rsneHeaderOk mem ieLen = true ∧ RsneBody mem ieLen := by
    constructor
    · intro h
      have hparse := rtwRsneInfoParse_iff.mp (Prod.ext h rfl :
        rtwRsneInfoParse mem ieLen = (true, (rtwRsneInfoParse mem ieLen).2))
      exact ⟨hparse.1, hparse.2.1⟩
    · rintro ⟨hheader, hbody⟩
      rw [rtwRsneInfoParse_iff.mpr ⟨hheader, hbody, rfl⟩]
  refine ⟨fun hversion => ?_, fun h => ?_, fun h => ?_⟩
  · rw [hiff]
    unfold IsRsne
    simp [hversion]
  · obtain ⟨hheader, hbody⟩ := hiff.mp h
    have hparse := rtwRsneInfoParse_iff.mpr ⟨hheader, hbody, rfl⟩
    unfold rtwParseWpa2Ie
    rw [hparse]
    refine ⟨rfl, rsneReport_inside mem ieLen, _, rfl, ?_, ?_, ?_, ?_⟩
    · simp only [rsneReport]
      split <;> rfl
    · exact report_isUnion rtwGetRsnCipherSuite
    · simp only [rsneReport]
      split <;> rfl
    · exact report_isUnion rtwGetAkmSuiteBitmap
  · unfold rtwParseWpa2Ie
    simp only [h, Bool.false_eq_true, if_false]

end

def rsneWithoutPairwise : ℕ → UInt8 :=
  fun i => [48, 8, 1, 0, 0x00, 0x0f, 0xac, 4, 1, 0].getD i 0

def rsneWithoutPmkid : ℕ → UInt8 :=
  fun i => [48, 22, 1, 0, 0x00, 0x0f, 0xac, 4, 1, 0, 0x00, 0x0f, 0xac, 4, 1, 0, 0x00, 0x0f, 0xac,
    2, 0, 0, 1, 0].getD i 0

/-- The first is accepted, though it ends within a field unless counts are fields of their own;
then the second ends behind a field and is not accepted. -/
theorem rsne_parse_not_at_fields :
    ¬ ((rtwRsneInfoParse rsneWithoutPairwise 10).1 = true ↔
        CutAtField rsneWithoutPairwise 10 false) ∧
      ¬ ((rtwRsneInfoParse rsneWithoutPmkid 24).1 = true ↔
        CutAtField rsneWithoutPmkid 24 true) := by
  constructor
  · intro h
    obtain ⟨-, -, hends⟩ := h.mp (by decide)
    exact absurd hends (by decide)
  · intro h
    have hcut : CutAtField rsneWithoutPmkid 24 true := by
      refine ⟨⟨by decide, by decide⟩, ⟨fun _ => by decide, fun _ => by decide⟩, ?_⟩
      exact Or.inr (Or.inr ⟨rfl, by decide⟩)
    exact absurd (h.mpr hcut) (by decide)

end Rtl8831.Core
