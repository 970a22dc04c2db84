import Rtl8831.Core.IeEditList

/-!
# A removal that is given too long a length

`rtw_ies_remove_ie` then goes on behind the list, in bytes that are no elements.  It changes
nothing in front of the place where it finds something.
-/

namespace Rtl8831.Core

open Lib

section

variable {mem : ℕ → UInt8} {inLen p : ℕ} {eid : UInt8} {wants : IeWants} {a b : List Element}
  {e : Element} {found : IeFound}

lemma nextCnt_of_lt (hp : p < 2 ^ 31) : nextCnt mem p = ieEnd mem p := by
  have hbyte := (mem (p + 1)).toNat_lt
  unfold nextCnt
  apply Nat.mod_eq_of_lt
  unfold ieEnd bodyLen
  omega

lemma getIeEx_ends (hin : inLen < 2 ^ 31) (oui : Option (List UInt8)) :
    ∃ r, (search (rtwGetIeExStep mem inLen eid oui wants) (inLen + 1) 0).val = some r := by
  apply search_ends fun p : ℕ => inLen - p
  · intro p q _ hq
    obtain ⟨hpasses, rfl⟩ := (rtwGetIeExStep_next ..).1 hq
    have hlt := hpasses.1
    rw [nextCnt_of_lt (by omega)]
    unfold ieEnd
    omega
  · omega

lemma getIeEx_visits_behind (h : ListAt mem 0 b) (hb : ∀ x ∈ b, x.id ≠ eid)
    (hin : inLen < 2 ^ 31)
    (hv : Reached (nextCnt mem) (GetIeExPasses mem inLen eid none) 0 p) :
    (∃ c d, b = c ++ d ∧ p = (encode c).length) ∨ (encode b).length ≤ p := by
  induction hv with
  | start => exact Or.inl ⟨[], b, rfl, rfl⟩
  | next _ hpasses ih =>
    have hlt := hpasses.1
    rw [nextCnt_of_lt (by omega)]
    rcases ih with ⟨c, d, rfl, rfl⟩ | hle
    · cases d with
      | nil =>
        refine Or.inr ?_
        rw [List.append_nil]
        unfold ieEnd
        omega
      | cons x d =>
        have hbytes := h.element
        rw [Nat.zero_add] at hbytes
        refine Or.inl ⟨c ++ [x], d, by simp, ?_⟩
        rw [ieEnd_element hbytes]
        simp
    · refine Or.inr ?_
      unfold ieEnd
      omega

lemma getIeEx_behind (h : ListAt mem 0 b) (hb : ∀ x ∈ b, x.id ≠ eid) (hin : inLen < 2 ^ 31)
    (hfound : (rtwGetIeEx mem inLen eid none wants).val = some found) :
    (encode b).length ≤ found.pos := by
  obtain ⟨r, hr⟩ := @getIeEx_ends mem inLen eid wants hin none
  unfold rtwGetIeEx rtwGetIeExLoop at hfound
  rw [Reading.val_bind, hr] at hfound
  obtain rfl : r = some found := hfound
  obtain ⟨p, hv, hp⟩ := search_val_visits hr
  have hreach := (visits_iff_reached (rtwGetIeExStep_next _ _ _ _)).1 hv
  by_cases hlt : p < inLen
  · by_cases hhit : GetIeExHit mem eid none p
    · rw [(rtwGetIeExStep_val hlt).1 hhit] at hp
      obtain rfl : (handOut mem wants p).val = found := Option.some.inj (Sum.inl.inj hp)
      rw [handOut_pos]
      rcases getIeEx_visits_behind h hb hin hreach with ⟨c, d, rfl, rfl⟩ | hle
      · cases d with
        | nil => rw [List.append_nil]
        | cons x d =>
          have hbytes := h.element
          rw [Nat.zero_add] at hbytes
          have hid := (stores_element.1 hbytes).1
          exact absurd (hhit.1.trans hid).symm (hb x (by simp))
      · exact hle
    · rw [(rtwGetIeExStep_val hlt).2 hhit] at hp
      cases hp
  · rw [rtwGetIeExStep_end hlt] at hp
    cases hp

lemma getIeEx_at (h : ListAt mem 0 (a ++ [e])) (ha : ∀ x ∈ a, x.id ≠ eid) (he : e.id = eid)
    (hin : inLen < 2 ^ 31) (hle : (encode (a ++ [e])).length ≤ inLen) :
    (rtwGetIeEx mem inLen eid none wants).val =
      some (handOut mem wants (encode a).length).val := by
  have hends := @getIeEx_ends mem inLen eid wants hin none
  have htotal : ∀ c x d, a ++ [e] = c ++ x :: d →
      (encode (c ++ [x])).length ≤ (encode (a ++ [e])).length := by
    intro c x d hes
    have hsplit : a ++ [e] = (c ++ [x]) ++ d := by
      rw [hes, List.append_assoc, List.singleton_append]
    rw [hsplit, encode_append _ d, List.length_append]
    omega
  have hreach : Reached (nextCnt mem) (GetIeExPasses mem inLen eid none) 0
      (0 + (encode a).length) := by
    refine reached_of_split (P := fun x => x.id = eid) (fun c x d hes _ hx => ?_) rfl
      (List.cons_ne_nil e []) ha
    have hbound := htotal c x d hes
    have hbytes : Stores mem (0 + (encode c).length) x.bytes := by
      rw [hes] at h
      exact h.element
    have hlen : (encode (c ++ [x])).length = (encode c).length + x.bytes.length := by simp
    have hsize := x.length_bytes
    refine ⟨⟨by omega, fun hhit => hx ?_⟩, ?_⟩
    · exact ((stores_element.1 hbytes).1.symm.trans hhit.1.symm)
    · rw [nextCnt_of_lt (by omega), ieEnd_element hbytes]
      omega
  rw [Nat.zero_add] at hreach
  have hbytes := h.element
  rw [Nat.zero_add] at hbytes
  have hhit : GetIeExHit mem eid none (encode a).length :=
    ⟨(he.symm.trans (stores_element.1 hbytes).1.symm), nofun⟩
  have hlt : (encode a).length < inLen := by
    have hlen : (encode (a ++ [e])).length = (encode a).length + e.bytes.length := by simp
    have hsize := e.length_bytes
    omega
  have hval := (search_val_iff hends).2 ⟨_,
    (visits_iff_reached (rtwGetIeExStep_next _ _ _ _)).2 hreach, (rtwGetIeExStep_val hlt).1 hhit⟩
  unfold rtwGetIeEx rtwGetIeExLoop
  rw [Reading.val_bind, hval]
  rfl

variable {s t : IesRemove} {oui : Option (List UInt8)} {r : IesEdit} {rounds : ℕ}

lemma removeIeStep_cases (eid : UInt8) (oui : Option (List UInt8)) (s : IesRemove) :
    (removeIeStep eid oui s).val = .inl s.edit ∨
    ∃ found, (rtwGetIeEx (fun i => s.edit.mem (s.start + i)) s.searchLen eid oui ⟨false, true⟩).val =
        some found ∧
      ∃ t, (removeIeStep eid oui s).val = .inr t ∧ t.start = s.start + found.pos ∧
        ∀ i < t.start, t.edit.mem i = s.edit.mem i := by
  unfold removeIeStep
  simp only [Reading.val_bind]
  cases hval : (rtwGetIeEx (fun i => s.edit.mem (s.start + i)) s.searchLen eid oui
      ⟨false, true⟩).val with
  | none => exact Or.inl rfl
  | some found =>
    simp only
    by_cases hzero : found.ielen.getD 0 = 0
    · rw [if_pos hzero]
      exact Or.inl rfl
    · rw [if_neg hzero]
      exact Or.inr ⟨found, rfl, _, rfl, rfl, fun i hi => writeBytes_of_lt hi⟩

lemma removeIe_before (h : (search (removeIeStep eid oui) rounds s).val = some r) :
    ∀ i < s.start, r.mem i = s.edit.mem i := by
  induction rounds generalizing s with
  | zero => cases h
  | succ rounds ih =>
    rcases removeIeStep_cases eid oui s with hdone | ⟨found, -, t, hnext, hstart, hsame⟩
    · rw [search_done hdone] at h
      obtain rfl : s.edit = r := Option.some.inj h
      exact fun _ _ => rfl
    · rw [search_next hnext] at h
      intro i hi
      rw [ih h i (by omega)]
      exact hsame i (by omega)

lemma removeIe_behind (h : ListAt s.edit.mem s.start b) (hb : ∀ x ∈ b, x.id ≠ eid)
    (hin : s.searchLen < 2 ^ 31) (hr : (search (removeIeStep eid none) rounds s).val = some r) :
    Stores r.mem s.start (encode b) := by
  cases rounds with
  | zero => cases hr
  | succ rounds =>
    rcases removeIeStep_cases eid none s with hdone | ⟨found, hfound, t, hnext, hstart, hsame⟩
    · rw [search_done hdone] at hr
      obtain rfl : s.edit = r := Option.some.inj hr
      exact h.holds
    · rw [search_next hnext] at hr
      have hpos := getIeEx_behind h.shift hb hin hfound
      apply h.holds.congr
      intro i _ hi
      rw [removeIe_before hr i (by omega)]
      exact hsame i (by omega)

lemma removeIe_single {iesLen networkIelen offset : ℕ}
    (h : IesOk mem iesLen offset (a ++ e :: b)) (ha : ∀ x ∈ a, x.id ≠ eid) (he : e.id = eid)
    (hb : ∀ x ∈ b, x.id ≠ eid) (hle : iesLen ≤ networkIelen) (hshort : networkIelen < 2 ^ 31)
    (hr : rtwIesRemoveIe mem networkIelen offset eid none rounds = some r) :
    Stores r.mem offset (encode (a ++ b)) ∧ ∀ i < offset, r.mem i = mem i := by
  have hlen := h.len
  have hsplit := length_encode_split (a := a) (e := e) (b := b)
  have hsize := e.length_bytes
  have hholds := h.holds
  rw [encode_append, encode_cons, stores_append, stores_append] at hholds
  obtain ⟨hfront, helem, hback⟩ := hholds
  unfold rtwIesRemoveIe at hr
  rw [if_neg (by omega)] at hr
  refine ⟨?_, removeIe_before hr⟩
  have hsearch : sub32 networkIelen offset = networkIelen - offset :=
    sub32_of_le (by omega) (by omega)
  cases rounds with
  | zero => cases hr
  | succ rounds =>
    let target := offset + (encode a).length
    let remainLen := networkIelen - offset - ((encode a).length + e.bytes.length)
    let next : IesRemove :=
      { edit :=
          { mem := writeBytes mem target (bytesAt mem (target + e.bytes.length) remainLen)
            iesLen := sub32 networkIelen e.bytes.length
            success := true }
        start := target
        searchLen := remainLen }
    have hlist : ListAt mem offset (a ++ [e]) := by
      refine ⟨?_, ?_⟩
      · rw [encode_append, encode_cons, encode_nil, List.append_nil, stores_append]
        exact ⟨hfront, helem⟩
      · have hcount : (encode (a ++ [e])).length = (encode a).length + e.bytes.length := by simp
        omega
    have hfound : (rtwGetIeEx (fun i => mem (offset + i)) (networkIelen - offset) eid none
        ⟨false, true⟩).val = some ⟨(encode a).length, some e.bytes.length, none⟩ := by
      rw [getIeEx_at hlist.shift ha he (by omega) (by simp; omega)]
      have hbytes := hlist.shift.element
      rw [Nat.zero_add] at hbytes
      have hbody : bodyLen (fun i => mem (offset + i)) (encode a).length = e.body.length :=
        (stores_element.1 hbytes).2.1
      have hout : (handOut (fun i => mem (offset + i)) ⟨false, true⟩ (encode a).length).val =
          ⟨(encode a).length, some (bodyLen (fun i => mem (offset + i)) (encode a).length + 2),
            none⟩ := rfl
      rw [hout, hbody, Element.length_bytes]
    have hstep : (removeIeStep eid none
        ⟨⟨mem, networkIelen, false⟩, offset, sub32 networkIelen offset⟩).val = .inr next := by
      unfold removeIeStep
      simp only [Reading.val_bind, hsearch]
      rw [hfound]
      simp only [Option.getD_some]
      rw [if_neg (by omega)]
      have hremain : sub32 (networkIelen - offset)
          (offset + (encode a).length + e.bytes.length - offset) = remainLen := by
        rw [sub32_of_le (by omega) (by omega)]
        omega
      rw [hremain]
      rfl
    rw [search_next hstep] at hr
    have hmoved : Stores next.edit.mem target (encode b) := by
      obtain ⟨m, hm⟩ : ∃ m, remainLen = (encode b).length + m :=
        ⟨remainLen - (encode b).length, by omega⟩
      have hwritten := stores_writeBytes mem target
        (bytesAt mem (target + e.bytes.length) remainLen)
      rw [hm, bytesAt_add, hback.eq, stores_append] at hwritten
      have hmem : next.edit.mem = writeBytes mem target
          (encode b ++ bytesAt mem (target + e.bytes.length + (encode b).length) m) := by
        simp only [next, hm]
        rw [bytesAt_add, hback.eq]
      rw [hmem]
      exact hwritten.1
    have hnext : ListAt next.edit.mem next.start b := ⟨hmoved, by omega⟩
    rw [encode_append, stores_append]
    refine ⟨?_, removeIe_behind hnext hb (show remainLen < 2 ^ 31 by omega) hr⟩
    apply hfront.congr
    intro i _ hi
    rw [removeIe_before hr i hi]
    exact writeBytes_of_lt hi

end

end Rtl8831.Core
