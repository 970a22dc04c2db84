import Rtl8831.Core.Ie

/-!
# Searches for an element stay inside the buffer

A walk by declared lengths is described apart from the searches: the positions that it
comes to depend on the bytes only.  For each search the positions decide whether it ends,
reads below the limit only and hands out whole elements only.
-/

namespace Rtl8831.Core

open Lib Reading

section

variable (mem : ℕ → UInt8)

/-- The search ends, reads only below `limit`, and the elements at the positions that it hands
out lie below `limit` with the length that they declare. -/
def StaysInside {β : Type} (loop : ℕ → Reading (Option β)) (handed : β → List ℕ) (limit : ℕ) :
    Prop :=
  ∃ rounds r, (loop rounds).val = some r ∧ (loop rounds).Below limit ∧
    ∀ p ∈ handed r, ieEnd mem p ≤ limit

/-- The element at `p` has one of the searched OUIs. -/
def OuiAt (oui : List UInt8) (p : ℕ) : Prop := (List.range' p oui.length).map mem = oui

instance (oui : List UInt8) (p : ℕ) : Decidable (OuiAt mem oui p) :=
  inferInstanceAs (Decidable (_ = _))

variable {mem} in
lemma staysInside_search_iff {β : Type} {step : ℕ → Reading (β ⊕ ℕ)} {next : ℕ → ℕ}
    {passes : ℕ → Prop} {start limit : ℕ} {handed : β → List ℕ} (fits : ℕ → Prop)
    (hstep : ∀ p q, (step p).val = .inr q ↔ passes p ∧ q = next p)
    (hfits : ∀ p, ((step p).Below limit ∧
      ∀ r, (step p).val = .inl r → ∀ q ∈ handed r, ieEnd mem q ≤ limit) ↔ fits p) :
    StaysInside mem (fun k => search step k start) handed limit ↔
      (∃ p, Reached next passes start p ∧ ¬ passes p) ∧
        ∀ p, Reached next passes start p → fits p := by
  unfold StaysInside
  rw [search_ends_below_iff, exists_end_iff hstep]
  refine and_congr_right fun _ => forall_congr' fun p => ?_
  rw [visits_iff_reached hstep, hfits]

/-! ## `rtw_get_ie` -/

def GetIePasses (start : ℕ) (index limit : ℤ) (p : ℕ) : Prop :=
  ((mem p).toNat : ℤ) ≠ index ∧ (ieEnd mem p : ℤ) - start < limit

def GetIeFits (index limit : ℤ) : Prop :=
  1 ≤ limit → ∀ p, Reached (ieEnd mem) (GetIePasses mem 0 index limit) 0 p →
    (p : ℤ) + 1 < limit ∧ (((mem p).toNat : ℤ) = index → (ieEnd mem p : ℤ) ≤ limit)

variable {mem}

lemma rtwGetIeStep_val (start : ℕ) (index limit : ℤ) (p : ℕ) :
    (rtwGetIeStep mem start index limit p).val =
      if ((mem p).toNat : ℤ) = index then .inl (some ⟨p, bodyLen mem p⟩)
      else if limit ≤ (ieEnd mem p : ℤ) - start then .inl none else .inr (ieEnd mem p) := by
  unfold rtwGetIeStep
  simp only [val_bind, val_ite, val_pure]
  rfl

lemma rtwGetIeStep_below_iff {start : ℕ} {index limit : ℤ} {p n : ℕ} :
    (rtwGetIeStep mem start index limit p).Below n ↔ p + 1 < n := by
  rw [below_congr (y := readBytes mem p 2), below_readBytes_iff (by omega)]
  · rfl
  · unfold rtwGetIeStep
    simp [List.range']

lemma rtwGetIeStep_next (start : ℕ) (index limit : ℤ) (p q : ℕ) :
    (rtwGetIeStep mem start index limit p).val = .inr q ↔
      GetIePasses mem start index limit p ∧ q = ieEnd mem p := by
  rw [rtwGetIeStep_val]
  unfold GetIePasses
  split_ifs with hid hend
  · simp [hid]
  · simp only [false_iff]
    rintro ⟨⟨-, h⟩, -⟩
    omega
  · simp only [Sum.inr.injEq]
    constructor
    · rintro rfl
      exact ⟨⟨hid, by omega⟩, rfl⟩
    · rintro ⟨-, rfl⟩
      rfl

lemma reached_bound {start : ℕ} {index limit : ℤ} {p : ℕ} (hlimit : 1 ≤ limit)
    (hp : Reached (ieEnd mem) (GetIePasses mem start index limit) start p) :
    start ≤ p ∧ (p : ℤ) - start < limit := by
  induction hp with
  | start => omega
  | next hp hpass ih =>
    exact ⟨ih.1.trans (Nat.le_add_right _ _), hpass.2⟩

lemma rtwGetIe_search_ends {start : ℕ} {index limit : ℤ} (hlimit : 1 ≤ limit) :
    ∃ r, (search (rtwGetIeStep mem start index limit) (limit.toNat + 1) start).val = some r := by
  apply search_ends fun p : ℕ => (limit + start - p).toNat
  · intro p q _ hq
    obtain ⟨hpass, rfl⟩ := (rtwGetIeStep_next ..).1 hq
    have hend := hpass.2
    unfold ieEnd at hend ⊢
    push_cast at hend ⊢
    omega
  · omega

lemma getIe_staysInside_iff (index limit : ℤ) :
    StaysInside mem (rtwGetIeLoop mem 0 index limit) (fun r => r.toList.map IePos.pos)
      limit.toNat ↔ GetIeFits mem index limit := by
  by_cases hlimit : limit < 1
  · have hfits : GetIeFits mem index limit := fun h => by omega
    refine ⟨fun _ => hfits, fun _ => ⟨0, none, ?_, ?_, by simp⟩⟩
    · exact congrArg val (if_pos hlimit)
    · rw [show rtwGetIeLoop mem 0 index limit 0 = pure (some none) from if_pos hlimit]
      exact below_pure _ _
  · have hone : 1 ≤ limit := by omega
    have hloop : rtwGetIeLoop mem 0 index limit =
        fun k => search (rtwGetIeStep mem 0 index limit) k 0 :=
      funext fun k => if_neg hlimit
    have hends : ∃ p, Reached (ieEnd mem) (GetIePasses mem 0 index limit) 0 p ∧
        ¬ GetIePasses mem 0 index limit p := by
      obtain ⟨r, hr⟩ := @rtwGetIe_search_ends mem 0 index limit hone
      obtain ⟨t, ht, hb⟩ := search_val_visits hr
      exact (exists_end_iff (rtwGetIeStep_next 0 index limit)).1 ⟨t, r, ht, hb⟩
    rw [hloop, staysInside_search_iff (fun p : ℕ => (p : ℤ) + 1 < limit ∧
      (((mem p).toNat : ℤ) = index → (ieEnd mem p : ℤ) ≤ limit)) (rtwGetIeStep_next 0 index limit)]
    · unfold GetIeFits
      rw [and_iff_right hends]
      exact ⟨fun h _ => h, fun h => h hone⟩
    · intro p
      rw [rtwGetIeStep_below_iff, rtwGetIeStep_val]
      refine and_congr (by omega) ⟨fun h hid => ?_, fun h r hr q hq => ?_⟩
      · have := h _ (if_pos hid) p (by simp)
        omega
      · split_ifs at hr with hid hend
        · cases hr
          have := h hid
          simp only [Option.toList_some, List.map_cons, List.map_nil, List.mem_singleton] at hq
          subst hq
          omega
        · cases hr
          simp at hq

/-! ## `rtw_get_ie_ex` -/

lemma handOut_pos (wants : IeWants) (p : ℕ) : (handOut mem wants p).val.pos = p := rfl

lemma storeLen_below_iff {p n : ℕ} : (storeLen mem p).Below n ↔ p + 1 < n := by
  unfold storeLen
  rw [below_bind_iff, below_readByte_iff]
  exact and_iff_left (below_pure _ _)

lemma whenAsked_below {α : Type} {asked : Bool} {x : Reading α} {n : ℕ} (h : x.Below n) :
    (whenAsked asked x).Below n := by
  unfold whenAsked
  rw [below_ite_pure_iff, below_bind_iff]
  exact fun _ => ⟨h, below_pure _ _⟩

lemma handOut_below {wants : IeWants} {p n : ℕ} (h : ieEnd mem p ≤ n) :
    (handOut mem wants p).Below n := by
  have hlen : (storeLen mem p).Below n := by
    rw [storeLen_below_iff]
    unfold ieEnd at h
    omega
  unfold handOut
  rw [below_bind_iff, below_bind_iff]
  refine ⟨whenAsked_below ?_, whenAsked_below hlen, below_pure _ _⟩
  unfold copyOut
  rw [below_bind_iff]
  exact ⟨hlen, below_readBytes h⟩

variable (mem) in
/-- The bytes at `p` are the OUI, if one is searched. -/
def OuiFits (oui : Option (List UInt8)) (p : ℕ) : Prop := ∀ o ∈ oui, OuiAt mem o p

instance (oui : Option (List UInt8)) (p : ℕ) : Decidable (OuiFits mem oui p) :=
  match oui with
  | none => isTrue (by simp [OuiFits])
  | some o => decidable_of_iff (OuiAt mem o p) (by simp [OuiFits])

lemma ouiMatch_val_iff {oui : Option (List UInt8)} {p : ℕ} :
    (ouiMatch mem oui p).val = true ↔ OuiFits mem oui p := by
  cases oui with
  | none => simp [ouiMatch, OuiFits]
  | some o => simp [ouiMatch, OuiFits, OuiAt]

lemma ouiMatch_below_iff {oui : Option (List UInt8)} {p n : ℕ} :
    (ouiMatch mem oui p).Below n ↔ ∀ o ∈ oui, o ≠ [] → p + o.length ≤ n := by
  cases oui with
  | none => simp [ouiMatch, below_pure]
  | some o =>
    unfold ouiMatch
    rw [below_bind_iff]
    simp only [below_pure, and_true, Option.mem_some_iff, forall_eq']
    by_cases ho : o = []
    · subst ho
      simp [Reading.Below]
    · simp only [ne_eq, ho, not_false_eq_true, true_implies]
      exact below_readBytes_iff (List.length_pos_iff.2 ho)

variable (mem) in
def GetIeExHit (eid : UInt8) (oui : Option (List UInt8)) (p : ℕ) : Prop :=
  eid = mem p ∧ OuiFits mem oui (p + 2)

instance (eid : UInt8) (oui : Option (List UInt8)) (p : ℕ) : Decidable (GetIeExHit mem eid oui p) :=
  inferInstanceAs (Decidable (_ ∧ _))

variable (mem) in
def GetIeExPasses (inLen : ℕ) (eid : UInt8) (oui : Option (List UInt8)) (p : ℕ) : Prop :=
  p < inLen ∧ ¬ GetIeExHit mem eid oui p

variable (mem) in
/-- The walk ends; each element that it comes to has its header below the limit, one with the
searched id also as many bytes as the OUI is compared with, and the one that is searched is
whole. -/
def GetIeExFits (inLen : ℕ) (eid : UInt8) (oui : Option (List UInt8)) : Prop :=
  (∃ p, Reached (nextCnt mem) (GetIeExPasses mem inLen eid oui) 0 p ∧
      ¬ GetIeExPasses mem inLen eid oui p) ∧
    ∀ p, Reached (nextCnt mem) (GetIeExPasses mem inLen eid oui) 0 p → p < inLen →
      p + 1 < inLen ∧ (eid = mem p → ∀ o ∈ oui, o ≠ [] → p + 2 + o.length ≤ inLen) ∧
        (GetIeExHit mem eid oui p → ieEnd mem p ≤ inLen)

section

variable {inLen : ℕ} {eid : UInt8} {oui : Option (List UInt8)} {wants : IeWants} {p : ℕ}

lemma rtwGetIeExStep_end (h : ¬ p < inLen) :
    rtwGetIeExStep mem inLen eid oui wants p = pure (.inl none) :=
  if_neg h

lemma idOuiMatch_val_iff : (idOuiMatch mem eid oui p).val = true ↔ GetIeExHit mem eid oui p := by
  unfold idOuiMatch
  rw [val_bind, val_ite_pure_false, ouiMatch_val_iff]
  rfl

lemma idOuiMatch_below_iff {n : ℕ} : (idOuiMatch mem eid oui p).Below n ↔
    p < n ∧ (eid = mem p → ∀ o ∈ oui, o ≠ [] → p + 2 + o.length ≤ n) := by
  unfold idOuiMatch
  rw [below_bind_iff, below_readByte_iff, below_ite_pure_iff, ouiMatch_below_iff]
  rfl

lemma rtwGetIeExStep_val (h : p < inLen) :
    (GetIeExHit mem eid oui p → (rtwGetIeExStep mem inLen eid oui wants p).val =
      .inl (some (handOut mem wants p).val)) ∧
    (¬ GetIeExHit mem eid oui p →
      (rtwGetIeExStep mem inLen eid oui wants p).val = .inr (nextCnt mem p)) := by
  unfold rtwGetIeExStep
  rw [if_pos h, val_bind]
  constructor
  · intro hhit
    rw [if_pos (idOuiMatch_val_iff.2 hhit)]
    rfl
  · intro hhit
    rw [if_neg (mt idOuiMatch_val_iff.1 hhit)]
    rfl

lemma rtwGetIeExStep_below_iff {n : ℕ} (h : p < inLen) :
    (rtwGetIeExStep mem inLen eid oui wants p).Below n ↔
      (p < n ∧ (eid = mem p → ∀ o ∈ oui, o ≠ [] → p + 2 + o.length ≤ n)) ∧
        (GetIeExHit mem eid oui p → (handOut mem wants p).Below n) ∧
        (¬ GetIeExHit mem eid oui p → p + 1 < n) := by
  unfold rtwGetIeExStep
  rw [if_pos h, below_bind_iff, idOuiMatch_below_iff]
  refine and_congr_right fun _ => ?_
  by_cases hhit : GetIeExHit mem eid oui p
  · rw [if_pos (idOuiMatch_val_iff.2 hhit), below_bind_iff]
    simp [hhit, below_pure]
  · rw [if_neg (mt idOuiMatch_val_iff.1 hhit), below_bind_iff, storeLen_below_iff]
    simp [hhit, below_pure]

lemma rtwGetIeExStep_next (inLen : ℕ) (eid : UInt8) (oui : Option (List UInt8))
    (wants : IeWants) (p q : ℕ) :
    (rtwGetIeExStep mem inLen eid oui wants p).val = .inr q ↔
      GetIeExPasses mem inLen eid oui p ∧ q = nextCnt mem p := by
  unfold GetIeExPasses
  by_cases h : p < inLen
  · by_cases hhit : GetIeExHit mem eid oui p
    · rw [(rtwGetIeExStep_val h).1 hhit]
      simp [hhit]
    · rw [(rtwGetIeExStep_val h).2 hhit]
      simp [h, hhit, eq_comm]
  · rw [rtwGetIeExStep_end h]
    simp [h]

end

lemma getIeEx_staysInside_iff (inLen : ℕ) (eid : UInt8) (oui : Option (List UInt8))
    (wants : IeWants) :
    StaysInside mem (rtwGetIeExLoop mem inLen eid oui wants)
      (fun r => r.toList.map IeFound.pos) inLen ↔ GetIeExFits mem inLen eid oui := by
  unfold rtwGetIeExLoop GetIeExFits
  apply staysInside_search_iff _ (rtwGetIeExStep_next inLen eid oui wants)
  intro p
  by_cases h : p < inLen
  · rw [rtwGetIeExStep_below_iff h]
    by_cases hhit : GetIeExHit mem eid oui p
    · rw [(rtwGetIeExStep_val h).1 hhit]
      have hwhole : ieEnd mem p ≤ inLen → p + 1 < inLen := by
        unfold ieEnd
        omega
      constructor
      · rintro ⟨⟨⟨-, houi⟩, -, -⟩, hin⟩ -
        have hend := hin _ rfl p (by simp [handOut_pos])
        exact ⟨hwhole hend, houi, fun _ => hend⟩
      · intro hall
        obtain ⟨-, houi, hend⟩ := hall h
        refine ⟨⟨⟨h, houi⟩, fun _ => handOut_below (hend hhit), fun hno => absurd hhit hno⟩, ?_⟩
        rintro r hr q hq
        cases hr
        have hq' : q = p := by simpa [handOut_pos] using hq
        rw [hq']
        exact hend hhit
    · rw [(rtwGetIeExStep_val h).2 hhit]
      simp only [h, true_and, hhit, false_implies, not_false_eq_true, true_implies, reduceCtorEq,
        implies_true, and_true]
      exact and_comm
  · rw [rtwGetIeExStep_end h]
    simp [h, below_pure]

/-! ## The searches for a vendor element -/

variable (mem) in
def GetVendorIePasses (oui : List UInt8) (inLen p : ℕ) : Prop :=
  (p + 5 < inLen ∧ p + 5 < maxIeSz) ∧ ¬ GetIeExHit mem wlanEidVendorSpecific (some oui) p

variable (mem) in
def GetVendorIeFits (oui : List UInt8) (inLen : ℕ) : Prop :=
  ∀ p, Reached (ieEnd mem) (GetVendorIePasses mem oui inLen) 0 p →
    p + 5 < inLen ∧ p + 5 < maxIeSz →
    GetIeExHit mem wlanEidVendorSpecific (some oui) p → ieEnd mem p ≤ inLen

section

variable {oui : List UInt8} {inLen : ℕ} {wants : IeWants} {p : ℕ}

lemma getVendorIeStep_stop (h : ¬ (p + 5 < inLen ∧ p + 5 < maxIeSz)) :
    (getVendorIeStep mem oui inLen wants p).val = .inl none ∧
      (getVendorIeStep mem oui inLen wants p).Below inLen := by
  unfold getVendorIeStep
  by_cases hin : p + 1 + 4 < inLen
  · have hmax : maxIeSz ≤ p + 1 + 4 := by omega
    rw [if_pos hin, if_pos hmax, below_bind_iff, below_readByte_iff]
    exact ⟨rfl, by omega, below_pure _ _⟩
  · rw [if_neg hin]
    exact ⟨rfl, below_pure _ _⟩

lemma getVendorIeStep_val (h : p + 5 < inLen ∧ p + 5 < maxIeSz) :
    (GetIeExHit mem wlanEidVendorSpecific (some oui) p →
      (getVendorIeStep mem oui inLen wants p).val = .inl (some (handOut mem wants p).val)) ∧
    (¬ GetIeExHit mem wlanEidVendorSpecific (some oui) p →
      (getVendorIeStep mem oui inLen wants p).val = .inr (ieEnd mem p)) := by
  have hin : p + 1 + 4 < inLen := h.1
  have hmax : ¬ maxIeSz ≤ p + 1 + 4 := by omega
  unfold getVendorIeStep
  rw [if_pos hin, if_neg hmax, val_bind, val_bind]
  constructor
  · intro hhit
    rw [if_pos (idOuiMatch_val_iff.2 hhit)]
    rfl
  · intro hhit
    rw [if_neg (mt idOuiMatch_val_iff.1 hhit)]
    rfl

lemma getVendorIeStep_below_iff (h : p + 5 < inLen ∧ p + 5 < maxIeSz)
    (houi : oui.length = 4) :
    (getVendorIeStep mem oui inLen wants p).Below inLen ↔
      (GetIeExHit mem wlanEidVendorSpecific (some oui) p →
        (handOut mem wants p).Below inLen) := by
  have hin : p + 1 + 4 < inLen := h.1
  have hmax : ¬ maxIeSz ≤ p + 1 + 4 := by omega
  have hheader : p < inLen ∧ (wlanEidVendorSpecific = mem p →
      ∀ o ∈ some oui, o ≠ [] → p + 2 + o.length ≤ inLen) := by
    refine ⟨by omega, fun _ o ho _ => ?_⟩
    cases ho
    omega
  unfold getVendorIeStep
  rw [if_pos hin, if_neg hmax, below_bind_iff, below_bind_iff,
    idOuiMatch_below_iff, below_readByte_iff, and_iff_right hheader.1, and_iff_right hheader]
  by_cases hhit : GetIeExHit mem wlanEidVendorSpecific (some oui) p
  · rw [if_pos (idOuiMatch_val_iff.2 hhit), below_bind_iff]
    simp [hhit, below_pure]
  · rw [if_neg (mt idOuiMatch_val_iff.1 hhit), below_bind_iff, storeLen_below_iff]
    simp only [below_pure, hhit, false_implies, iff_true, and_true]
    omega

lemma getVendorIeStep_next (oui : List UInt8) (inLen : ℕ) (wants : IeWants) (p q : ℕ) :
    (getVendorIeStep mem oui inLen wants p).val = .inr q ↔
      GetVendorIePasses mem oui inLen p ∧ q = ieEnd mem p := by
  unfold GetVendorIePasses
  by_cases h : p + 5 < inLen ∧ p + 5 < maxIeSz
  · by_cases hhit : GetIeExHit mem wlanEidVendorSpecific (some oui) p
    · rw [(getVendorIeStep_val h).1 hhit]
      simp [hhit]
    · rw [(getVendorIeStep_val h).2 hhit]
      simp [h, hhit, eq_comm]
  · rw [(getVendorIeStep_stop h).1]
    simp [h]

end

lemma getVendorIe_staysInside_iff {oui : List UInt8} (houi : oui.length = 4) (inLen : ℕ)
    (wants : IeWants) :
    StaysInside mem (getVendorIeLoop mem oui inLen wants) (fun r => r.toList.map IeFound.pos)
      inLen ↔ GetVendorIeFits mem oui inLen := by
  have hends : ∃ p, Reached (ieEnd mem) (GetVendorIePasses mem oui inLen) 0 p ∧
      ¬ GetVendorIePasses mem oui inLen p := by
    have hmeasure : ∀ p q, Visits (getVendorIeStep mem oui inLen wants) 0 p →
        (getVendorIeStep mem oui inLen wants p).val = .inr q → maxIeSz - q < maxIeSz - p := by
      intro p q _ hq
      obtain ⟨⟨⟨-, hmax⟩, -⟩, rfl⟩ := (getVendorIeStep_next ..).1 hq
      unfold ieEnd
      omega
    obtain ⟨r, hr⟩ := search_ends (fun p => maxIeSz - p) hmeasure (Nat.lt_succ_self _)
    obtain ⟨t, ht, hb⟩ := search_val_visits hr
    exact (exists_end_iff (getVendorIeStep_next oui inLen wants)).1 ⟨t, r, ht, hb⟩
  unfold getVendorIeLoop GetVendorIeFits
  rw [staysInside_search_iff (fun p => p + 5 < inLen ∧ p + 5 < maxIeSz →
    GetIeExHit mem wlanEidVendorSpecific (some oui) p → ieEnd mem p ≤ inLen)
    (getVendorIeStep_next oui inLen wants), and_iff_right hends]
  intro p
  by_cases h : p + 5 < inLen ∧ p + 5 < maxIeSz
  · rw [getVendorIeStep_below_iff h houi]
    by_cases hhit : GetIeExHit mem wlanEidVendorSpecific (some oui) p
    · rw [(getVendorIeStep_val h).1 hhit]
      constructor
      · intro hall _ _
        exact hall.2 _ rfl p (by simp [handOut_pos])
      · intro hend
        refine ⟨fun _ => handOut_below (hend h hhit), ?_⟩
        rintro r hr q hq
        cases hr
        have hq' : q = p := by simpa [handOut_pos] using hq
        rw [hq']
        exact hend h hhit
    · rw [(getVendorIeStep_val h).2 hhit]
      simp [hhit]
  · rw [(getVendorIeStep_stop h).1]
    simp [h, (getVendorIeStep_stop h).2]

lemma getWpsIe_staysInside_iff (inLen : ℕ) (wants : IeWants) :
    StaysInside mem (rtwGetWpsIeLoop mem inLen wants) (fun r => r.toList.map IeFound.pos)
      inLen ↔ GetVendorIeFits mem wpsOui inLen :=
  getVendorIe_staysInside_iff rfl inLen wants

lemma vendorIe_signed_staysInside_iff {oui : List UInt8} (houi : oui.length = 4) (inLen : ℤ)
    (wants : IeWants) :
    StaysInside mem (fun k => if inLen < 0 then pure (some none)
        else getVendorIeLoop mem oui inLen.toNat wants k)
      (fun r => r.toList.map IeFound.pos) inLen.toNat ↔ GetVendorIeFits mem oui inLen.toNat := by
  by_cases hneg : inLen < 0
  · have hfits : GetVendorIeFits mem oui inLen.toNat := fun p _ h => by omega
    simp only [if_pos hneg, hfits, iff_true]
    exact ⟨0, none, rfl, below_pure _ _, by simp⟩
  · simp only [if_neg hneg]
    exact getVendorIe_staysInside_iff houi inLen.toNat wants

/-! ## `rtw_get_sec_ie` -/

def SecIes.positions (found : SecIes) : List ℕ := (found.rsn ++ found.wpa).map IeFound.pos

variable (mem) in
def SecHit (p : ℕ) : Prop :=
  GetIeExHit mem wlanEidVendorSpecific (some wpaOuiType) p ∨ mem p = wlanEidRsn

variable (mem) in
/-- As for `rtw_get_ie_ex`, from behind the fixed fields on and through to the limit. -/
def GetSecIeFits (inLen : ℕ) : Prop :=
  (∃ p, Reached (nextCnt mem) (· < inLen) fixedIeLen p ∧ ¬ p < inLen) ∧
    ∀ p, Reached (nextCnt mem) (· < inLen) fixedIeLen p → p < inLen →
      p + 1 < inLen ∧ (mem p = wlanEidVendorSpecific → p + 6 ≤ inLen) ∧
        (SecHit mem p → ieEnd mem p ≤ inLen)

section

variable {inLen : ℕ} {rsn wpa : Bool} {p : ℕ} {found : SecIes}

lemma rtwGetSecIeStep_end (h : ¬ p < inLen) :
    rtwGetSecIeStep mem inLen rsn wpa (p, found) = pure (.inl found) :=
  if_neg h

variable (mem) in
lemma rtwGetSecIeStep_val (rsn wpa : Bool) (found : SecIes) (h : p < inLen) :
    ∃ found', (rtwGetSecIeStep mem inLen rsn wpa (p, found)).val = .inr (nextCnt mem p, found') ∧
      ∀ q, q ∈ found'.positions ↔ q ∈ found.positions ∨ q = p ∧ SecHit mem p := by
  unfold rtwGetSecIeStep SecHit
  simp only
  rw [if_pos h, val_bind, val_bind]
  by_cases hwpa : GetIeExHit mem wlanEidVendorSpecific (some wpaOuiType) p
  · rw [if_pos (idOuiMatch_val_iff.2 hwpa)]
    refine ⟨_, rfl, fun q => ?_⟩
    simp [SecIes.positions, handOut_pos, hwpa]
    grind
  · rw [if_neg (mt idOuiMatch_val_iff.1 hwpa)]
    by_cases hrsn : mem p = wlanEidRsn
    · rw [if_pos (show (readByte mem p).val = wlanEidRsn from hrsn)]
      refine ⟨_, rfl, fun q => ?_⟩
      simp [SecIes.positions, handOut_pos, hrsn]
      grind
    · rw [if_neg (show ¬ (readByte mem p).val = wlanEidRsn from hrsn)]
      exact ⟨found, rfl, fun q => by simp [hwpa, hrsn]⟩

lemma rtwGetSecIeStep_below_iff {n : ℕ} (h : p < inLen) :
    (rtwGetSecIeStep mem inLen rsn wpa (p, found)).Below n ↔
      p + 1 < n ∧ (mem p = wlanEidVendorSpecific → p + 6 ≤ n) ∧
        (GetIeExHit mem wlanEidVendorSpecific (some wpaOuiType) p →
          (handOut mem ⟨wpa, true⟩ p).Below n) ∧
        (¬ GetIeExHit mem wlanEidVendorSpecific (some wpaOuiType) p → mem p = wlanEidRsn →
          (handOut mem ⟨rsn, true⟩ p).Below n) := by
  have hheader : (∀ o ∈ some wpaOuiType, o ≠ [] → p + 2 + o.length ≤ n) ↔ p + 6 ≤ n := by
    simp [wpaOuiType]
  unfold rtwGetSecIeStep
  simp only
  rw [if_pos h, below_bind_iff, below_readByte_iff, below_bind_iff,
    idOuiMatch_below_iff, hheader, val_readByte]
  by_cases hwpa : GetIeExHit mem wlanEidVendorSpecific (some wpaOuiType) p
  · rw [if_pos (idOuiMatch_val_iff.2 hwpa), below_bind_iff, below_bind_iff,
      storeLen_below_iff]
    simp [hwpa, below_pure]
    grind
  · rw [if_neg (mt idOuiMatch_val_iff.1 hwpa)]
    by_cases hrsn : mem p = wlanEidRsn
    · rw [if_pos hrsn, below_bind_iff, below_bind_iff, storeLen_below_iff]
      simp [hwpa, hrsn, below_pure]
      grind
    · rw [if_neg hrsn, below_bind_iff, storeLen_below_iff]
      simp [hwpa, hrsn, below_pure]
      grind

lemma visits_sec_positions {s t : ℕ × SecIes}
    (hv : Visits (rtwGetSecIeStep mem inLen rsn wpa) s t) :
    Reached (nextCnt mem) (· < inLen) s.1 t.1 ∧
      ∀ q, q ∈ t.2.positions → q ∈ s.2.positions ∨
        Reached (nextCnt mem) (· < inLen) s.1 q ∧ q < inLen ∧ SecHit mem q := by
  induction hv with
  | refl => exact ⟨.start, fun q hq => Or.inl hq⟩
  | @tail u v _ hlast ih =>
    obtain ⟨p, found⟩ := u
    by_cases h : p < inLen
    · obtain ⟨found', hval, hpos⟩ := rtwGetSecIeStep_val mem rsn wpa found h
      rw [hval] at hlast
      cases hlast
      refine ⟨.next ih.1 h, fun q hq => ?_⟩
      rcases (hpos q).1 hq with hq | ⟨rfl, hhit⟩
      · exact ih.2 q hq
      · exact Or.inr ⟨ih.1, h, hhit⟩
    · rw [rtwGetSecIeStep_end h] at hlast
      cases hlast

lemma exists_visits_sec (rsn wpa : Bool) (hp : Reached (nextCnt mem) (· < inLen) fixedIeLen p) :
    ∃ found, Visits (rtwGetSecIeStep mem inLen rsn wpa) (fixedIeLen, {}) (p, found) := by
  induction hp with
  | start => exact ⟨{}, .refl⟩
  | next _ hpass ih =>
    obtain ⟨found, hv⟩ := ih
    obtain ⟨found', hval, -⟩ := rtwGetSecIeStep_val mem rsn wpa found hpass
    exact ⟨found', .tail hv hval⟩

lemma visits_sec_mono {s t : ℕ × SecIes}
    (hv : Visits (rtwGetSecIeStep mem inLen rsn wpa) s t) {q : ℕ} (hq : q ∈ s.2.positions) :
    q ∈ t.2.positions := by
  induction hv with
  | refl => exact hq
  | @tail u v _ hlast ih =>
    obtain ⟨p, found⟩ := u
    by_cases h : p < inLen
    · obtain ⟨found', hval, hpos⟩ := rtwGetSecIeStep_val mem rsn wpa found h
      rw [hval] at hlast
      cases hlast
      exact (hpos q).2 (Or.inl ih)
    · rw [rtwGetSecIeStep_end h] at hlast
      cases hlast

lemma sec_found_at_end {t : ℕ × SecIes} {r : SecIes} (h : p < inLen) (hhit : SecHit mem p)
    (hp : Visits (rtwGetSecIeStep mem inLen rsn wpa) (fixedIeLen, {}) (p, found))
    (ht : Visits (rtwGetSecIeStep mem inLen rsn wpa) (fixedIeLen, {}) t)
    (hend : (rtwGetSecIeStep mem inLen rsn wpa t).val = .inl r) : p ∈ r.positions := by
  obtain ⟨found', hval, hpos⟩ := rtwGetSecIeStep_val mem rsn wpa found h
  have hres : r = t.2 := by
    obtain ⟨q, f⟩ := t
    by_cases hq : q < inLen
    · obtain ⟨_, hq', -⟩ := rtwGetSecIeStep_val mem rsn wpa f hq
      rw [hq'] at hend
      cases hend
    · rw [rtwGetSecIeStep_end hq] at hend
      cases hend
      rfl
  subst hres
  have hp' : Visits (rtwGetSecIeStep mem inLen rsn wpa) (fixedIeLen, {}) (nextCnt mem p, found') :=
    .tail hp hval
  exact visits_sec_mono (hp'.before_end ht hend) ((hpos p).2 (Or.inr ⟨rfl, hhit⟩))

end

lemma getSecIe_staysInside_iff (inLen : ℕ) (rsn wpa : Bool) :
    StaysInside mem (rtwGetSecIeLoop mem inLen rsn wpa) SecIes.positions inLen ↔
      GetSecIeFits mem inLen := by
  unfold StaysInside rtwGetSecIeLoop GetSecIeFits
  rw [search_ends_below_iff]
  constructor
  · rintro ⟨⟨t, r, ht, hr⟩, hall⟩
    have hlast : ¬ t.1 < inLen := by
      intro h
      obtain ⟨_, hval, -⟩ := rtwGetSecIeStep_val mem rsn wpa t.2 h
      rw [hval] at hr
      cases hr
    refine ⟨⟨t.1, (visits_sec_positions ht).1, hlast⟩, fun p hp h => ?_⟩
    obtain ⟨found, hv⟩ := exists_visits_sec rsn wpa hp
    obtain ⟨hheader, hvendor, -, -⟩ := (rtwGetSecIeStep_below_iff h).1 (hall _ hv).1
    exact ⟨hheader, hvendor, fun hhit => (hall t ht).2 r hr p (sec_found_at_end h hhit hv ht hr)⟩
  · rintro ⟨⟨p, hp, hend⟩, hall⟩
    obtain ⟨found, hv⟩ := exists_visits_sec rsn wpa hp
    refine ⟨⟨(p, found), found, hv, by rw [rtwGetSecIeStep_end hend]; rfl⟩, ?_⟩
    rintro ⟨q, f⟩ hq
    obtain ⟨hreach, hpositions⟩ := visits_sec_positions hq
    by_cases h : q < inLen
    · obtain ⟨hheader, hvendor, hwhole⟩ := hall q hreach h
      constructor
      · refine (rtwGetSecIeStep_below_iff h).2 ⟨hheader, hvendor, ?_, ?_⟩
        · exact fun hwpa => handOut_below (hwhole (Or.inl hwpa))
        · exact fun _ hrsn => handOut_below (hwhole (Or.inr hrsn))
      · intro r hr
        obtain ⟨_, hval, -⟩ := rtwGetSecIeStep_val mem rsn wpa f h
        rw [hval] at hr
        cases hr
    · rw [rtwGetSecIeStep_end h]
      refine ⟨below_pure _ _, ?_⟩
      rintro r hr a ha
      cases hr
      rcases hpositions a ha with ha | ⟨hreach', hin, hhit⟩
      · simp [SecIes.positions] at ha
      · exact (hall a hreach' hin).2.2 hhit

/-! ## `rtw_get_wpa_ie` -/

section

variable {start : ℕ} {index limit : ℤ}

lemma rtwGetIe_val_iff (hlimit : 1 ≤ limit) {r : IePos} :
    (rtwGetIe mem start index limit).val = some r ↔
      ∃ q, Reached (ieEnd mem) (GetIePasses mem start index limit) start q ∧
        ((mem q).toNat : ℤ) = index ∧ r = ⟨q, bodyLen mem q⟩ := by
  have hends := @rtwGetIe_search_ends mem start index limit hlimit
  have hval : (rtwGetIe mem start index limit).val =
      (search (rtwGetIeStep mem start index limit) (limit.toNat + 1) start).val.join := by
    unfold rtwGetIe rtwGetIeLoop
    rw [if_neg (by omega)]
    rfl
  rw [hval, Option.join_eq_some_iff, search_val_iff hends]
  refine exists_congr fun q => ?_
  rw [visits_iff_reached (rtwGetIeStep_next start index limit), rtwGetIeStep_val]
  refine and_congr_right fun _ => ?_
  split_ifs with hid hend <;> simp [hid, eq_comm]

lemma rtwGetIe_below_iff (hlimit : 1 ≤ limit) {n : ℕ} :
    (rtwGetIe mem start index limit).Below n ↔
      ∀ q, Reached (ieEnd mem) (GetIePasses mem start index limit) start q → q + 1 < n := by
  obtain ⟨r, hr⟩ := @rtwGetIe_search_ends mem start index limit hlimit
  unfold rtwGetIe rtwGetIeLoop
  rw [below_bind_iff, and_iff_left (below_pure _ _), if_neg (by omega),
    search_below_iff hr]
  simp only [visits_iff_reached (rtwGetIeStep_next start index limit), rtwGetIeStep_below_iff]

variable (mem start index) in
lemma rtwGetIe_of_limit_lt (hlimit : limit < 1) : rtwGetIe mem start index limit = pure none := by
  unfold rtwGetIe rtwGetIeLoop
  rw [if_pos hlimit]
  rfl

end

variable (mem) in
/-- OUI, type and version of a WPA element at `p`. -/
def WpaBody (p : ℕ) : Prop := OuiAt mem wpaOuiType (p + 2) ∧ OuiAt mem [1, 0] (p + 6)

variable (mem) in
def GetWpaIePasses (limit : ℤ) (p : ℕ) : Prop :=
  ¬ (mem p = wlanEidVendorSpecific ∧ WpaBody mem p) ∧ (ieEnd mem p : ℤ) < limit

variable (mem) in
/-- Each element that the walk comes to has its header below the limit, a vendor element as many
bytes as are compared with the OUI and one with the OUI also its version; the one that is
searched is whole. -/
def GetWpaIeFits (limit : ℤ) : Prop :=
  1 ≤ limit → ∀ p, Reached (ieEnd mem) (GetWpaIePasses mem limit) 0 p →
    (p : ℤ) + 1 < limit ∧ (mem p = wlanEidVendorSpecific →
      (p : ℤ) + 6 ≤ limit ∧ (OuiAt mem wpaOuiType (p + 2) → (p : ℤ) + 8 ≤ limit) ∧
        (WpaBody mem p → (ieEnd mem p : ℤ) ≤ limit))

section

variable {limit : ℤ} {s t : ℕ × ℤ} {q : ℕ}

lemma vendor_toNat_eq_iff {b : UInt8} :
    ((b.toNat : ℕ) : ℤ) = (wlanEidVendorSpecific.toNat : ℤ) ↔ b = wlanEidVendorSpecific := by
  rw [Nat.cast_inj, UInt8.toNat_inj]

lemma rtwGetWpaIeStep_none (limit : ℤ)
    (h : (rtwGetIe mem s.1 wlanEidVendorSpecific.toNat s.2).val = none) :
    (rtwGetWpaIeStep mem limit s).val = .inl none ∧
      (rtwGetWpaIeStep mem limit s).reads =
        (rtwGetIe mem s.1 wlanEidVendorSpecific.toNat s.2).reads := by
  unfold rtwGetWpaIeStep
  simp only [val_bind, reads_bind, h]
  simp

lemma rtwGetWpaIeStep_val (limit : ℤ)
    (h : (rtwGetIe mem s.1 wlanEidVendorSpecific.toNat s.2).val = some ⟨q, bodyLen mem q⟩) :
    (WpaBody mem q → (rtwGetWpaIeStep mem limit s).val = .inl (some ⟨q, bodyLen mem q⟩)) ∧
    (¬ WpaBody mem q → (rtwGetWpaIeStep mem limit s).val =
      if limit ≤ ieEnd mem q then .inl none else .inr (ieEnd mem q, limit - ieEnd mem q)) := by
  have hagain : (if limit - q - 2 - bodyLen mem q ≤ 0 then (.inl none : Option IePos ⊕ ℕ × ℤ)
      else .inr (q + (2 + bodyLen mem q), limit - q - 2 - bodyLen mem q)) =
      if limit ≤ ieEnd mem q then .inl none else .inr (ieEnd mem q, limit - ieEnd mem q) := by
    unfold ieEnd
    push_cast
    by_cases hle : limit ≤ q + (bodyLen mem q + 2)
    · rw [if_pos hle, if_pos (by omega)]
    · rw [if_neg hle, if_neg (by omega)]
      congr 2
      · omega
      · omega
  unfold rtwGetWpaIeStep
  simp only [val_bind, h]
  have houi_iff : (readBytes mem (q + 2) 4).val ≠ wpaOuiType ↔ ¬ OuiAt mem wpaOuiType (q + 2) :=
    Iff.rfl
  have hversion_iff : (readBytes mem (q + 6) 2).val ≠ [1, 0] ↔ ¬ OuiAt mem [1, 0] (q + 6) :=
    Iff.rfl
  constructor
  · rintro ⟨houi, hversion⟩
    rw [if_neg (houi_iff.not.2 (not_not.2 houi)), val_bind,
      if_neg (hversion_iff.not.2 (not_not.2 hversion))]
    rfl
  · intro hno
    rw [← hagain]
    by_cases houi : OuiAt mem wpaOuiType (q + 2)
    · have hversion : ¬ OuiAt mem [1, 0] (q + 6) := fun hv => hno ⟨houi, hv⟩
      rw [if_neg (houi_iff.not.2 (not_not.2 houi)), val_bind,
        if_pos (hversion_iff.2 hversion)]
      rfl
    · rw [if_pos (houi_iff.2 houi)]
      rfl

lemma rtwGetWpaIeStep_below_iff {n : ℕ}
    (h : (rtwGetIe mem s.1 wlanEidVendorSpecific.toNat s.2).val = some ⟨q, bodyLen mem q⟩) :
    (rtwGetWpaIeStep mem limit s).Below n ↔
      (rtwGetIe mem s.1 wlanEidVendorSpecific.toNat s.2).Below n ∧ q + 6 ≤ n ∧
        (OuiAt mem wpaOuiType (q + 2) → q + 8 ≤ n) := by
  unfold rtwGetWpaIeStep
  simp only [below_bind_iff, h]
  refine and_congr_right fun _ => ?_
  rw [below_readBytes_iff (by omega)]
  refine and_congr_right fun hoff => ?_
  have houi_iff : (readBytes mem (q + 2) 4).val ≠ wpaOuiType ↔ ¬ OuiAt mem wpaOuiType (q + 2) :=
    Iff.rfl
  by_cases houi : OuiAt mem wpaOuiType (q + 2)
  · rw [if_neg (houi_iff.not.2 (not_not.2 houi)), below_bind_iff, below_readBytes_iff (by omega)]
    simp only [houi, true_implies]
    refine and_iff_left_iff_imp.2 fun hver => ?_
    split
    · exact below_pure _ _
    · rw [below_bind_iff, below_readByte_iff]
      exact ⟨by omega, below_pure _ _⟩
  · rw [if_pos (houi_iff.2 houi)]
    simp [houi, below_pure]

lemma rtwGetWpaIeStep_next (h : (rtwGetWpaIeStep mem limit s).val = .inr t) :
    1 ≤ s.2 ∧ ∃ q, Reached (ieEnd mem) (GetIePasses mem s.1 wlanEidVendorSpecific.toNat s.2) s.1 q ∧
      mem q = wlanEidVendorSpecific ∧ ¬ WpaBody mem q ∧ (ieEnd mem q : ℤ) < limit ∧
      t = (ieEnd mem q, limit - ieEnd mem q) := by
  by_cases hlimit : s.2 < 1
  · have hnone : (rtwGetIe mem s.1 wlanEidVendorSpecific.toNat s.2).val = none := by
      rw [rtwGetIe_of_limit_lt _ _ _ hlimit]
      rfl
    rw [(rtwGetWpaIeStep_none limit hnone).1] at h
    cases h
  · have hone : 1 ≤ s.2 := by omega
    cases hinner : (rtwGetIe mem s.1 wlanEidVendorSpecific.toNat s.2).val with
    | none =>
      rw [(rtwGetWpaIeStep_none limit hinner).1] at h
      cases h
    | some r =>
      obtain ⟨q, hq, hid, rfl⟩ := (rtwGetIe_val_iff hone).1 hinner
      refine ⟨hone, q, hq, vendor_toNat_eq_iff.1 hid, ?_⟩
      by_cases hbody : WpaBody mem q
      · rw [(rtwGetWpaIeStep_val limit hinner).1 hbody] at h
        cases h
      · rw [(rtwGetWpaIeStep_val limit hinner).2 hbody] at h
        split_ifs at h with hend
        cases h
        exact ⟨hbody, by omega, rfl⟩

variable (mem) in
lemma rtwGetWpaIe_search_ends (limit : ℤ) :
    ∃ r, (search (rtwGetWpaIeStep mem limit) (limit.toNat + 1) (0, limit)).val = some r := by
  apply search_ends fun s : ℕ × ℤ => (limit - s.1).toNat
  · intro s t _ h
    obtain ⟨hone, q, hq, -, -, hend, rfl⟩ := rtwGetWpaIeStep_next h
    have hle := (reached_bound hone hq).1
    have hlt : q < ieEnd mem q := by
      unfold ieEnd
      omega
    simp only
    omega
  · simp

lemma GetIePasses.wpa {start p : ℕ}
    (h : GetIePasses mem start wlanEidVendorSpecific.toNat (limit - start) p) :
    GetWpaIePasses mem limit p := by
  refine ⟨fun hhit => h.1 (vendor_toNat_eq_iff.2 hhit.1), ?_⟩
  have := h.2
  omega

lemma visits_wpa (hv : Visits (rtwGetWpaIeStep mem limit) (0, limit) s) :
    s.2 = limit - s.1 ∧ Reached (ieEnd mem) (GetWpaIePasses mem limit) 0 s.1 := by
  induction hv with
  | refl => exact ⟨by simp, .start⟩
  | @tail u v _ hlast ih =>
    obtain ⟨-, q, hq, hid, hbody, hend, rfl⟩ := rtwGetWpaIeStep_next hlast
    rw [ih.1] at hq
    exact ⟨rfl, .next (ih.2.trans (hq.weaken fun _ => GetIePasses.wpa))
      ⟨fun hhit => hbody hhit.2, hend⟩⟩

lemma exists_visits_wpa {p : ℕ} (hlimit : 1 ≤ limit)
    (hp : Reached (ieEnd mem) (GetWpaIePasses mem limit) 0 p) :
    ∃ s, Visits (rtwGetWpaIeStep mem limit) (0, limit) s ∧ 1 ≤ s.2 ∧
      Reached (ieEnd mem) (GetIePasses mem s.1 wlanEidVendorSpecific.toNat s.2) s.1 p := by
  induction hp with
  | start => exact ⟨(0, limit), .refl, hlimit, .start⟩
  | @next p _ hpass ih =>
    obtain ⟨s, hv, hone, hp⟩ := ih
    by_cases hid : mem p = wlanEidVendorSpecific
    · have hbody : ¬ WpaBody mem p := fun h => hpass.1 ⟨hid, h⟩
      have hinner := (rtwGetIe_val_iff hone).2 ⟨p, hp, vendor_toNat_eq_iff.2 hid, rfl⟩
      have hstep := (rtwGetWpaIeStep_val limit hinner).2 hbody
      rw [if_neg (not_le.2 hpass.2)] at hstep
      have hend := hpass.2
      exact ⟨_, .tail hv hstep, by simp only; omega, .start⟩
    · refine ⟨s, hv, hone, .next hp ⟨fun h => hid (vendor_toNat_eq_iff.1 h), ?_⟩⟩
      have hs := (visits_wpa hv).1
      have hend := hpass.2
      omega

end

lemma getWpaIe_staysInside_iff (limit : ℤ) :
    StaysInside mem (rtwGetWpaIeLoop mem limit) (fun r => r.toList.map IePos.pos) limit.toNat ↔
      GetWpaIeFits mem limit := by
  unfold StaysInside rtwGetWpaIeLoop GetWpaIeFits
  obtain ⟨r, hr⟩ := rtwGetWpaIe_search_ends mem limit
  obtain ⟨t, ht, hb⟩ := search_val_visits hr
  rw [search_ends_below_iff, and_iff_right ⟨t, r, ht, hb⟩]
  constructor
  · intro hall hlimit p hp
    obtain ⟨s, hv, hone, hreach⟩ := exists_visits_wpa hlimit hp
    obtain ⟨hbelow, hhanded⟩ := hall s hv
    by_cases hid : mem p = wlanEidVendorSpecific
    · have hinner := (rtwGetIe_val_iff hone).2 ⟨p, hreach, vendor_toNat_eq_iff.2 hid, rfl⟩
      obtain ⟨hin, houi, hversion⟩ := (rtwGetWpaIeStep_below_iff hinner).1 hbelow
      have hheader := (rtwGetIe_below_iff hone).1 hin p hreach
      refine ⟨by omega, fun _ => ⟨by omega, fun h => ?_, fun h => ?_⟩⟩
      · have := hversion h
        omega
      · have := hhanded _ ((rtwGetWpaIeStep_val limit hinner).1 h) p (by simp)
        omega
    · have hin : (rtwGetIe mem s.1 wlanEidVendorSpecific.toNat s.2).Below limit.toNat := by
        unfold rtwGetWpaIeStep at hbelow
        exact (below_bind_iff.1 hbelow).1
      have hheader := (rtwGetIe_below_iff hone).1 hin p hreach
      exact ⟨by omega, fun h => absurd h hid⟩
  · intro hall s hv
    obtain ⟨hs, hreach⟩ := visits_wpa hv
    by_cases hone : s.2 < 1
    · have hnone := rtwGetIe_of_limit_lt mem s.1 wlanEidVendorSpecific.toNat hone
      obtain ⟨hval, hreads⟩ := rtwGetWpaIeStep_none limit (congrArg val hnone)
      rw [hval, below_congr hreads, hnone]
      exact ⟨below_pure _ _, by simp⟩
    · have hone' : 1 ≤ s.2 := by omega
      have hlimit : 1 ≤ limit := by omega
      have hwalk : ∀ p, Reached (ieEnd mem)
          (GetIePasses mem s.1 wlanEidVendorSpecific.toNat s.2) s.1 p →
          Reached (ieEnd mem) (GetWpaIePasses mem limit) 0 p := by
        intro p hp
        rw [hs] at hp
        exact hreach.trans (hp.weaken fun _ => GetIePasses.wpa)
      have hin : (rtwGetIe mem s.1 wlanEidVendorSpecific.toNat s.2).Below limit.toNat := by
        refine (rtwGetIe_below_iff hone').2 fun p hp => ?_
        have := (hall hlimit p (hwalk p hp)).1
        omega
      cases hinner : (rtwGetIe mem s.1 wlanEidVendorSpecific.toNat s.2).val with
      | none =>
        obtain ⟨hval, hreads⟩ := rtwGetWpaIeStep_none limit hinner
        rw [hval, below_congr hreads]
        exact ⟨hin, by simp⟩
      | some r =>
        obtain ⟨q, hq, hid, rfl⟩ := (rtwGetIe_val_iff hone').1 hinner
        obtain ⟨hoff, hversion, hwhole⟩ :=
          (hall hlimit q (hwalk q hq)).2 (vendor_toNat_eq_iff.1 hid)
        constructor
        · refine (rtwGetWpaIeStep_below_iff hinner).2 ⟨hin, by omega, fun h => ?_⟩
          have := hversion h
          omega
        · intro r hr p hp
          by_cases hbody : WpaBody mem q
          · rw [(rtwGetWpaIeStep_val limit hinner).1 hbody] at hr
            cases hr
            have hpq : p = q := by simpa using hp
            have := hwhole hbody
            rw [hpq]
            omega
          · rw [(rtwGetWpaIeStep_val limit hinner).2 hbody] at hr
            split_ifs at hr
            cases hr
            simp at hp

variable (mem)

/-- For every byte string and limit, each search ends, stays inside and hands out whole elements
just if the elements that its walk comes to fit. -/
theorem element_search_inside_iff (index limit : ℤ) (inLen : ℕ) (inLen' : ℤ) (eid : UInt8)
    (oui : Option (List UInt8)) (wants : IeWants) (rsn wpa : Bool) :
    (StaysInside mem (rtwGetIeLoop mem 0 index limit) (fun r => r.toList.map IePos.pos)
        limit.toNat ↔ GetIeFits mem index limit) ∧
    (StaysInside mem (rtwGetIeExLoop mem inLen eid oui wants)
        (fun r => r.toList.map IeFound.pos) inLen ↔ GetIeExFits mem inLen eid oui) ∧
    (StaysInside mem (rtwGetWpaIeLoop mem limit) (fun r => r.toList.map IePos.pos)
        limit.toNat ↔ GetWpaIeFits mem limit) ∧
    (StaysInside mem (rtwGetSecIeLoop mem inLen rsn wpa) SecIes.positions inLen ↔
      GetSecIeFits mem inLen) ∧
    (StaysInside mem (rtwGetWpsIeLoop mem inLen wants) (fun r => r.toList.map IeFound.pos)
        inLen ↔ GetVendorIeFits mem wpsOui inLen) ∧
    (StaysInside mem (rtwGetP2pIeLoop mem inLen' wants) (fun r => r.toList.map IeFound.pos)
        inLen'.toNat ↔ GetVendorIeFits mem p2pOui inLen'.toNat) ∧
    (StaysInside mem (rtwGetWfdIeLoop mem inLen' wants) (fun r => r.toList.map IeFound.pos)
        inLen'.toNat ↔ GetVendorIeFits mem wfdOui inLen'.toNat) :=
  ⟨getIe_staysInside_iff index limit, getIeEx_staysInside_iff inLen eid oui wants,
    getWpaIe_staysInside_iff limit, getSecIe_staysInside_iff inLen rsn wpa,
    getWpsIe_staysInside_iff inLen wants, vendorIe_signed_staysInside_iff rfl inLen' wants,
    vendorIe_signed_staysInside_iff rfl inLen' wants⟩

end

/-- An RSN element cut off behind its header is returned, and a WPS element cut off behind its
OUI is. -/
theorem truncated_element_is_returned :
    ¬ StaysInside (fun i => [48, 5].getD i 0) (rtwGetIeLoop (fun i => [48, 5].getD i 0) 0 48 2)
        (fun r => r.toList.map IePos.pos) 2 ∧
      ¬ StaysInside (fun i => [221, 200, 0x00, 0x50, 0xf2, 0x04].getD i 0)
        (rtwGetWpsIeLoop (fun i => [221, 200, 0x00, 0x50, 0xf2, 0x04].getD i 0) 6 {})
        (fun r => r.toList.map IeFound.pos) 6 := by
  constructor
  · intro h
    have hfits := (getIe_staysInside_iff 48 2).mp h
    exact absurd ((hfits (by decide) 0 .start).2 (by decide)) (by decide)
  · intro h
    have hfits := (getWpsIe_staysInside_iff 6 {}).mp h
    have hhit : GetIeExHit (fun i => [221, 200, 0x00, 0x50, 0xf2, 0x04].getD i 0)
        wlanEidVendorSpecific (some wpsOui) 0 :=
      ⟨by decide, fun o ho => by cases ho; decide⟩
    exact absurd (hfits 0 .start (by decide) hhit) (by decide)

end Rtl8831.Core
