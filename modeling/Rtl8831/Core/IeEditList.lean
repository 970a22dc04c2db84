import Rtl8831.Core.IeEdit
import Rtl8831.Core.IeList
import Rtl8831.Lib.Run

/-!
# Editing a well-formed list of elements

Each routine finds its place by a search and moves the tail behind it.  On a well-formed
list this replaces, inserts or removes whole elements; all other bytes keep their order and
the length is that of the new list.
-/

namespace Rtl8831.Core

open Lib List

/-- The list of elements that starts at `offset` and ends at `iesLen`, which fits an `int`. -/
structure IesOk (mem : ℕ → UInt8) (iesLen offset : ℕ) (es : List Element) : Prop where
  holds : Stores mem offset (encode es)
  len : iesLen = offset + (encode es).length
  short : iesLen < 2 ^ 31

/-- The list has become `es`; the bytes in front of it are the same. -/
structure Edited (r : IesEdit) (mem : ℕ → UInt8) (offset : ℕ) (es : List Element) : Prop where
  success : r.success = true
  len : r.iesLen = offset + (encode es).length
  holds : Stores r.mem offset (encode es)
  before : ∀ i < offset, r.mem i = mem i

section

variable {alloc : Bool} {mem : ℕ → UInt8} {iesLen offset : ℕ} {a b es : List Element}
  {e e' : Element} {eid : UInt8} {oui : Option (List UInt8)}

section

variable (h : IesOk mem iesLen offset es)
include h

lemma IesOk.listAt : ListAt mem offset es := by
  refine ⟨h.holds, ?_⟩
  have hlen := h.len
  have hshort := h.short
  omega

lemma IesOk.searchLen :
    sub32 iesLen offset = (encode es).length := by
  have hlen := h.len
  have hshort := h.short
  rw [sub32_of_le (by omega) (by omega)]
  omega

lemma IesOk.nonempty (hes : es ≠ []) :
    ¬ (iesLen = 0 ∨ iesLen ≤ offset) := by
  have hlen := h.len
  have hpos := encode_pos hes
  omega

end

lemma IesOk.empty (h : IesOk mem iesLen offset []) : iesLen ≤ offset := by
  have hlen := h.len
  rw [encode_nil, length_nil] at hlen
  omega

lemma length_encode_split : (encode (a ++ e :: b)).length =
    (encode a).length + (e.bytes.length + (encode b).length) := by
  rw [encode_append, encode_cons, length_append, length_append]

lemma replaceIe_edited {target oldEnd writeAt : ℕ} {lenByte : UInt8} {bytes : List UInt8}
    (h : IesOk mem iesLen offset (a ++ e :: b)) (halloc : alloc = true)
    (htarget : target = offset + (encode a).length) (hold : oldEnd = target + e.bytes.length)
    (hnew : Stores (writeBytes (writeBytes mem writeAt bytes) (target + 1) [lenByte]) target
      e'.bytes)
    (hwrite : target ≤ writeAt) (hend : writeAt + bytes.length = target + e'.bytes.length)
    (hle : writeAt ≤ oldEnd) :
    Edited (replaceIe alloc mem iesLen offset target oldEnd writeAt lenByte bytes) mem offset
      (a ++ e' :: b) := by
  have hlen := h.len
  have hshort := h.short
  have hsmall := e'.small
  have hsize := e'.length_bytes
  have hsplit := length_encode_split (a := a) (e := e) (b := b)
  have hsplit' := length_encode_split (a := a) (e := e') (b := b)
  have hholds := h.holds
  rw [encode_append, encode_cons, stores_append, stores_append] at hholds
  obtain ⟨ha, -, hb⟩ := hholds
  rw [← htarget, ← hold] at hb
  have hfront : Stores (writeBytes (writeBytes mem writeAt bytes) (target + 1) [lenByte]) offset
      (encode a) := (ha.writeBytes_before (by omega)).writeBytes_before (by omega)
  have hbefore : ∀ i < offset,
      writeBytes (writeBytes mem writeAt bytes) (target + 1) [lenByte] i = mem i := by
    intro i hi
    rw [writeBytes_of_lt (by omega), writeBytes_of_lt (by omega)]
  unfold replaceIe
  simp only [halloc, if_true]
  by_cases hsame : oldEnd = writeAt + bytes.length
  · rw [if_pos hsame]
    refine ⟨rfl, by simp only; omega, ?_, hbefore⟩
    rw [encode_append, encode_cons, stores_append, stores_append, ← htarget]
    refine ⟨hfront, hnew, ?_⟩
    rw [← hend, ← hsame]
    refine (hb.writeBytes_after ?_).writeBytes_after ?_
    · omega
    · rw [length_singleton]
      omega
  · rw [if_neg hsame]
    have hsearch := h.searchLen
    have hremain : sub32 (sub32 iesLen offset) (oldEnd - offset) = (encode b).length := by
      rw [hsearch, sub32_of_le (by omega) (by omega)]
      omega
    refine ⟨rfl, ?_, ?_, fun i hi => ?_⟩
    · simp only
      rw [sub32_of_le (by omega) (by omega)]
      omega
    · rw [encode_append, encode_cons, stores_append, stores_append, ← htarget]
      simp only [hremain, hb.eq]
      refine ⟨hfront.writeBytes_before (by omega), hnew.writeBytes_before (by omega), ?_⟩
      rw [← hend]
      exact stores_writeBytes ..
    · simp only
      rw [writeBytes_of_lt (by omega)]
      exact hbefore i hi

variable {content : List UInt8} {c : ℕ}

lemma updateIe_first (h : IesOk mem iesLen offset (a ++ e :: b))
    (ha : ∀ x ∈ a, x.id ≠ eid) (he : e.id = eid) (hbody : e.body ≠ [])
    (hcontent : content.length < 2 ^ 8) :
    Edited (rtwIesUpdateIe true mem iesLen offset eid content) mem offset
      (a ++ ⟨eid, content, hcontent⟩ :: b) := by
  have hfound := getIe_list_first h.listAt ha he
  have hpos : e.body.length ≠ 0 := by simpa using hbody
  unfold rtwIesUpdateIe
  rw [if_neg (h.nonempty (by simp)), h.searchLen, hfound]
  simp only
  rw [if_neg hpos]
  refine replaceIe_edited h rfl rfl (by rw [Element.length_bytes]; omega) ?_ (by omega)
    (by rw [Element.length_bytes]; simp only; omega) (by omega)
  have hid := (stores_element.1 h.listAt.element).1
  unfold Element.bytes
  rw [stores_cons, stores_cons]
  refine ⟨?_, ?_, ?_⟩
  · rw [writeBytes_of_lt (by omega), writeBytes_of_lt (by omega), hid, he]
  · exact (stores_cons.1 (stores_writeBytes ..)).1
  · exact (stores_writeBytes ..).writeBytes_after (by simp)

lemma updateIe_none (h : IesOk mem iesLen offset es)
    (ha : ∀ x ∈ es, x.id ≠ eid) :
    rtwIesUpdateIe alloc mem iesLen offset eid content = ⟨mem, iesLen, false⟩ := by
  unfold rtwIesUpdateIe
  by_cases hguard : iesLen = 0 ∨ iesLen ≤ offset
  · rw [if_pos hguard]
  · rw [if_neg hguard, h.searchLen, getIe_list_none h.listAt ha]

lemma getIeEx_shift_first (h : ListAt mem offset (a ++ e :: b))
    (hlong : LongFor eid oui (a ++ e :: b)) (ha : ∀ x ∈ a, ¬ x.Matches eid oui)
    (he : e.Matches eid oui) :
    (rtwGetIeEx (fun i => mem (offset + i)) (encode (a ++ e :: b)).length eid oui
      ⟨false, true⟩).val = some ⟨(encode a).length, some e.bytes.length, none⟩ := by
  rw [getIeEx_list_first h.shift hlong _ ha he]
  have hbytes := h.shift.element
  rw [Nat.zero_add] at hbytes
  have hlen : bodyLen (fun i => mem (offset + i)) (encode a).length = e.body.length :=
    (stores_element.1 hbytes).2.1
  have hout : (handOut (fun i => mem (offset + i)) ⟨false, true⟩ (encode a).length).val =
      ⟨(encode a).length, some (bodyLen (fun i => mem (offset + i)) (encode a).length + 2),
        none⟩ := rfl
  rw [hout, hlen, Element.length_bytes]

lemma updateIeEx_first {eidEx c c' : UInt8} {body : List UInt8}
    (h : IesOk mem iesLen offset (a ++ e :: b))
    (hlong : LongFor wlanEidExtension (some [eidEx]) (a ++ e :: b))
    (ha : ∀ x ∈ a, ¬ x.Matches wlanEidExtension (some [eidEx]))
    (he : e.Matches wlanEidExtension (some [eidEx])) (hbody : body.length + 2 < 2 ^ 8) :
    Edited (rtwIesUpdateIeEx true mem iesLen offset eidEx (c :: c' :: body)) mem offset
      (a ++ ⟨c, body, by omega⟩ :: b) := by
  have hfound := getIeEx_shift_first h.listAt hlong ha he
  have hpos : e.bytes.length ≠ 0 := Nat.succ_ne_zero _
  have hlenByte : UInt8.ofNat (c :: c' :: body).length - 2 = UInt8.ofNat body.length := by
    apply UInt8.toNat_inj.1
    simp only [length_cons]
    rw [UInt8.toNat_sub_of_le]
    · simp [Nat.mod_eq_of_lt (show body.length < 256 by omega),
        Nat.mod_eq_of_lt (show body.length + 1 + 1 < 256 by omega)]
    · rw [UInt8.le_iff_toNat_le]
      simp [Nat.mod_eq_of_lt (show body.length + 1 + 1 < 256 by omega)]
  unfold rtwIesUpdateIeEx
  rw [if_neg (h.nonempty (by simp)), h.searchLen, hfound]
  simp only [Option.getD_some]
  rw [if_neg hpos, hlenByte]
  refine replaceIe_edited h rfl rfl rfl ?_ le_rfl rfl (by omega)
  have hwritten : Stores (writeBytes mem (offset + (encode a).length) (c :: c' :: body))
      (offset + (encode a).length) (c :: c' :: body) := stores_writeBytes ..
  rw [stores_cons, stores_cons] at hwritten
  unfold Element.bytes
  rw [stores_cons, stores_cons]
  refine ⟨?_, ?_, ?_⟩
  · rw [writeBytes_of_lt (by omega)]
    exact hwritten.1
  · exact (stores_cons.1 (stores_writeBytes ..)).1
  · exact hwritten.2.2.writeBytes_after (by simp)

lemma updateIeEx_none {eidEx : UInt8} {content : List UInt8} (h : IesOk mem iesLen offset es)
    (hlong : LongFor wlanEidExtension (some [eidEx]) es)
    (ha : ∀ x ∈ es, ¬ x.Matches wlanEidExtension (some [eidEx])) :
    rtwIesUpdateIeEx alloc mem iesLen offset eidEx content = ⟨mem, iesLen, false⟩ := by
  unfold rtwIesUpdateIeEx
  by_cases hguard : iesLen = 0 ∨ iesLen ≤ offset
  · rw [if_pos hguard]
  · rw [if_neg hguard, h.searchLen, getIeEx_list_none h.listAt.shift hlong _ ha]

def kept (eid : UInt8) (oui : Option (List UInt8)) (es : List Element) : List Element :=
  es.filter fun x => ¬ x.Matches eid oui

lemma kept_of_no_match (h : ∀ x ∈ es, ¬ x.Matches eid oui) : kept eid oui es = es := by
  unfold kept
  rw [filter_eq_self]
  simpa using h

lemma kept_split (ha : ∀ x ∈ a, ¬ x.Matches eid oui) (he : e.Matches eid oui) :
    kept eid oui (a ++ e :: b) = a ++ kept eid oui b := by
  have hfront := kept_of_no_match ha
  unfold kept at hfront ⊢
  rw [filter_append, hfront, filter_cons_of_neg (by simpa using he)]

lemma LongFor.tail (h : LongFor eid oui (a ++ e :: b)) : LongFor eid oui b :=
  fun x hx => h x (mem_append_right _ (mem_cons_of_mem _ hx))

lemma removeIe_search {s : IesRemove} {rounds : ℕ}
    (h : IesOk s.edit.mem s.edit.iesLen s.start es) (hlong : LongFor eid oui es)
    (hsearch : s.searchLen = (encode es).length) (hrounds : es.length < rounds) :
    ∃ r, (search (removeIeStep eid oui) rounds s).val = some r ∧
      r.iesLen = s.start + (encode (kept eid oui es)).length ∧
      Stores r.mem s.start (encode (kept eid oui es)) ∧
      (∀ i < s.start, r.mem i = s.edit.mem i) ∧
      (r.success = true ↔ s.edit.success = true ∨ ∃ x ∈ es, x.Matches eid oui) := by
  induction rounds generalizing s es with
  | zero => exact absurd hrounds (Nat.not_lt_zero _)
  | succ rounds ih =>
    rcases first_match (fun x => x.Matches eid oui) es with hnone | ⟨a, e, b, rfl, ha, he⟩
    · have hstep : (removeIeStep eid oui s).val = .inl s.edit := by
        unfold removeIeStep
        simp only [Reading.val_bind, hsearch]
        rw [getIeEx_list_none h.listAt.shift hlong _ hnone]
        rfl
      refine ⟨s.edit, by rw [search_done hstep], ?_⟩
      rw [kept_of_no_match hnone]
      refine ⟨h.len, h.holds, fun _ _ => rfl, ?_⟩
      simpa using fun x hx hm => absurd hm (hnone x hx)
    · have hlen := h.len
      have hshort := h.short
      have hsplit := length_encode_split (a := a) (e := e) (b := b)
      have hpos : e.bytes.length ≠ 0 := Nat.succ_ne_zero _
      have hholds := h.holds
      rw [encode_append, encode_cons, stores_append, stores_append] at hholds
      obtain ⟨hfront, -, hback⟩ := hholds
      let target := s.start + (encode a).length
      let next : IesRemove :=
        { edit :=
            { mem := writeBytes s.edit.mem target (encode b)
              iesLen := target + (encode b).length
              success := true }
          start := target
          searchLen := (encode b).length }
      have hstep : (removeIeStep eid oui s).val = .inr next := by
        unfold removeIeStep
        simp only [Reading.val_bind, hsearch]
        rw [getIeEx_shift_first h.listAt hlong ha he]
        simp only [Option.getD_some]
        rw [if_neg hpos]
        have hremain : sub32 (encode (a ++ e :: b)).length
            (s.start + (encode a).length + e.bytes.length - s.start) = (encode b).length := by
          rw [sub32_of_le (by omega) (by omega)]
          omega
        have htotal : sub32 s.edit.iesLen e.bytes.length = target + (encode b).length := by
          rw [sub32_of_le (by omega) (by omega)]
          omega
        rw [hremain, htotal, hback.eq]
        rfl
      have hnext : IesOk next.edit.mem next.edit.iesLen next.start b := by
        refine ⟨stores_writeBytes .., rfl, ?_⟩
        have hle : next.edit.iesLen = target + (encode b).length := rfl
        omega
      have hcount : b.length < rounds := by
        rw [length_append, length_cons] at hrounds
        omega
      obtain ⟨r, hr, hrlen, hrholds, hrbefore, hrsuccess⟩ := ih hnext hlong.tail rfl hcount
      have hunchanged : ∀ i < target, r.mem i = s.edit.mem i := by
        intro i hi
        rw [hrbefore i hi]
        exact writeBytes_of_lt hi
      refine ⟨r, by rw [search_next hstep]; exact hr, ?_⟩
      rw [kept_split ha he, encode_append, length_append, stores_append]
      refine ⟨?_, ⟨?_, hrholds⟩, ?_, ?_⟩
      · rw [hrlen]
        exact Nat.add_assoc _ _ _
      · exact hfront.congr fun i _ hi => hunchanged i hi
      · exact fun i hi => hunchanged i (hi.trans_le (Nat.le_add_right _ _))
      · rw [hrsuccess]
        exact iff_of_true (Or.inl rfl) (Or.inr ⟨e, by simp, he⟩)

lemma removeIe_kept (h : IesOk mem iesLen offset es) (hlong : LongFor eid oui es) :
    ∃ rounds r, rtwIesRemoveIe mem iesLen offset eid oui rounds = some r ∧
      r.iesLen = offset + (encode (kept eid oui es)).length ∧
      Stores r.mem offset (encode (kept eid oui es)) ∧ (∀ i < offset, r.mem i = mem i) ∧
      (r.success = true ↔ ∃ x ∈ es, x.Matches eid oui) := by
  by_cases hes : es = []
  · subst hes
    have hlen := h.len
    refine ⟨0, ⟨mem, iesLen, false⟩, if_pos h.empty, hlen, h.holds, fun _ _ => rfl, by simp⟩
  · have hguard : ¬ iesLen ≤ offset := fun hle => h.nonempty hes (Or.inr hle)
    let s : IesRemove := ⟨⟨mem, iesLen, false⟩, offset, sub32 iesLen offset⟩
    obtain ⟨r, hr, hlen, hholds, hbefore, hsuccess⟩ :=
      removeIe_search (s := s) h hlong h.searchLen (Nat.lt_succ_self _)
    refine ⟨es.length + 1, r, ?_, hlen, hholds, hbefore, by simpa [s] using hsuccess⟩
    unfold rtwIesRemoveIe
    rw [if_neg hguard]
    exact hr

lemma length_le_encode (es : List Element) : es.length ≤ (encode es).length := by
  induction es with
  | nil => exact le_rfl
  | cons e es ih =>
    rw [encode_cons, length_append, Element.length_bytes, length_cons]
    omega

lemma addIe_step_behind {n : ℕ} (dst : Option ℕ) (hn : offset + (encode a).length < offset + n)
    (he : Stores mem (offset + (encode a).length) e.bytes) :
    (eid < e.id → (addIeStep mem offset n eid (dst, offset + (encode a).length)).val =
      .inl (some (offset + (encode a).length), offset + (encode a).length)) ∧
    (e.id = eid → (addIeStep mem offset n eid (dst, offset + (encode a).length)).val =
      .inl (some (offset + (encode a).length),
        offset + (encode a).length + e.bytes.length)) ∧
    (e.id < eid → (addIeStep mem offset n eid (dst, offset + (encode a).length)).val =
      .inr (some (offset + (encode a).length),
        offset + (encode a).length + e.bytes.length)) := by
  have hid : (readByte mem (offset + (encode a).length)).val = e.id := (stores_element.1 he).1
  have hend : offset + (encode a).length +
      ((readByte mem (offset + (encode a).length + 1)).val.toNat + 2) =
      offset + (encode a).length + e.bytes.length := ieEnd_element he
  have hle : offset + (encode a).length - offset ≤ n := by omega
  have hne : ¬ offset + (encode a).length - offset = n := by omega
  unfold addIeStep
  simp only
  rw [if_pos hle, if_neg hne, Reading.val_bind, hid]
  refine ⟨fun hlt => ?_, fun heq => ?_, fun hgt => ?_⟩
  · rw [if_pos hlt]
    rfl
  · rw [if_neg (by rw [heq]; exact UInt8.lt_irrefl _), Reading.val_bind, if_pos heq, hend]
    rfl
  · rw [if_neg (UInt8.lt_asymm hgt), Reading.val_bind, if_neg (UInt8.ne_of_lt hgt), hend]
    rfl

lemma addIe_walk (h : ListAt mem offset es) (hes : es = a ++ b) (ha : ∀ x ∈ a, x.id < eid) :
    ∃ dst, ∀ k, (search (addIeStep mem offset (encode es).length eid) (a.length + k)
      (none, offset)).val = (search (addIeStep mem offset (encode es).length eid) k
        (dst, offset + (encode a).length)).val := by
  induction a using reverseRecOn generalizing b with
  | nil => exact ⟨none, fun k => by simp⟩
  | append_singleton a e ih =>
    rw [append_assoc, singleton_append] at hes
    obtain ⟨dst, hwalk⟩ := ih hes fun x hx => ha x (mem_append_left _ hx)
    have hbytes : Stores mem (offset + (encode a).length) e.bytes := by
      rw [hes] at h
      exact h.element
    have hlt : offset + (encode a).length < offset + (encode es).length := by
      rw [hes, length_encode_split, Element.length_bytes]
      omega
    have hstep := (addIe_step_behind dst hlt hbytes).2.2 (ha e (by simp))
    refine ⟨some (offset + (encode a).length), fun k => ?_⟩
    have hlen : offset + (encode (a ++ [e])).length =
        offset + (encode a).length + e.bytes.length := by simp [Nat.add_assoc]
    rw [length_append, length_singleton, Nat.add_assoc, Nat.add_comm 1 k, hwalk (k + 1),
      search_next hstep, hlen]

lemma addIe_search (h : ListAt mem offset (a ++ b)) (ha : ∀ x ∈ a, x.id < eid)
    (hstep : ∀ dst, (addIeStep mem offset (encode (a ++ b)).length eid
      (dst, offset + (encode a).length)).val = .inl (some (offset + (encode a).length), c)) :
    (search (addIeStep mem offset (encode (a ++ b)).length eid)
      ((encode (a ++ b)).length + 2) (none, offset)).val =
        some (some (offset + (encode a).length), c) := by
  obtain ⟨dst, hwalk⟩ := addIe_walk h rfl ha
  have hcount := length_le_encode a
  have hlen : (encode (a ++ b)).length = (encode a).length + (encode b).length := by simp
  obtain ⟨k, hk⟩ : ∃ k, (encode (a ++ b)).length + 2 = a.length + (k + 1) :=
    ⟨(encode (a ++ b)).length + 1 - a.length, by omega⟩
  rw [hk, hwalk (k + 1), search_done (hstep dst)]

lemma addIe_edited {content : List UInt8} (h : IesOk mem iesLen offset (a ++ b))
    (hne : a ++ b ≠ []) (ha : ∀ x ∈ a, x.id < eid) (hcontent : content.length < 2 ^ 8)
    {rest : List Element} (hrest : Stores mem c (encode rest))
    (hc : c + (encode rest).length = iesLen) (hac : offset + (encode a).length ≤ c)
    (hstep : ∀ dst, (addIeStep mem offset (encode (a ++ b)).length eid
      (dst, offset + (encode a).length)).val = .inl (some (offset + (encode a).length), c)) :
    ∃ r, rtwIesAddIe true mem iesLen offset eid content = some r ∧
      Edited r mem offset (a ++ ⟨eid, content, hcontent⟩ :: rest) := by
  have hlen := h.len
  have hshort := h.short
  have hfront : Stores mem offset (encode a) := by
    have hholds := h.holds
    rw [encode_append, stores_append] at hholds
    exact hholds.1
  have hremain : sub32 iesLen c = (encode rest).length := by
    rw [sub32_of_le (by omega) (by omega)]
    omega
  let e' : Element := ⟨eid, content, hcontent⟩
  have hle : (encode a).length ≤ (encode (a ++ b)).length := by simp
  have htotal : offset + (encode (a ++ e' :: rest)).length =
      offset + (encode a).length + 2 + content.length + (encode rest).length := by
    have hbody : e'.body.length = content.length := rfl
    rw [length_encode_split, Element.length_bytes]
    omega
  have hsum : (offset + (encode a).length + 2 + content.length + (encode rest).length) % 2 ^ 32 =
      offset + (encode (a ++ e' :: rest)).length := by
    rw [htotal]
    exact Nat.mod_eq_of_lt (by omega)
  have hbytes : eid :: UInt8.ofNat content.length :: content = e'.bytes := rfl
  have hsize : e'.bytes.length = content.length + 2 := rfl
  unfold rtwIesAddIe
  rw [if_neg (h.nonempty hne), h.searchLen]
  simp only
  rw [addIe_search h.listAt ha hstep]
  simp only [hremain, hsum, hbytes, hrest.eq, if_true]
  by_cases hempty : (encode rest).length = 0
  · rw [if_pos hempty]
    refine ⟨_, rfl, rfl, rfl, ?_, fun i hi => writeBytes_of_lt (by omega)⟩
    rw [encode_append, encode_cons, stores_append, stores_append, length_eq_zero_iff.1 hempty]
    exact ⟨hfront.writeBytes_before le_rfl, stores_writeBytes .., stores_nil⟩
  · rw [if_neg hempty]
    refine ⟨_, rfl, rfl, rfl, ?_, fun i hi => ?_⟩
    · rw [encode_append, encode_cons, stores_append, stores_append]
      refine ⟨(hfront.writeBytes_before le_rfl).writeBytes_before (by omega),
        (stores_writeBytes ..).writeBytes_before (by omega), ?_⟩
      rw [hsize, Nat.add_comm content.length 2, ← Nat.add_assoc]
      exact stores_writeBytes ..
    · simp only
      rw [writeBytes_of_lt (by omega), writeBytes_of_lt (by omega)]

lemma addIe_insert (h : IesOk mem iesLen offset (a ++ b))
    (hne : a ++ b ≠ []) (ha : ∀ x ∈ a, x.id < eid) (hb : ∀ x ∈ b.head?, eid < x.id)
    (hcontent : content.length < 2 ^ 8) :
    ∃ r, rtwIesAddIe true mem iesLen offset eid content = some r ∧
      Edited r mem offset (a ++ ⟨eid, content, hcontent⟩ :: b) := by
  have hholds := h.holds
  have hlen := h.len
  rw [encode_append, stores_append] at hholds
  rw [encode_append, length_append] at hlen
  refine addIe_edited h hne ha hcontent hholds.2 (by omega) le_rfl fun dst => ?_
  cases b with
  | nil =>
    unfold addIeStep
    simp only [append_nil, Nat.add_sub_cancel_left, le_refl, if_true]
    rfl
  | cons e b =>
    have hlt : offset + (encode a).length < offset + (encode (a ++ e :: b)).length := by
      rw [length_encode_split, Element.length_bytes]
      omega
    exact (addIe_step_behind dst hlt h.listAt.element).1 (hb e rfl)

lemma addIe_overwrite (h : IesOk mem iesLen offset (a ++ e :: b))
    (ha : ∀ x ∈ a, x.id < eid) (he : e.id = eid) (hcontent : content.length < 2 ^ 8) :
    ∃ r, rtwIesAddIe true mem iesLen offset eid content = some r ∧
      Edited r mem offset (a ++ ⟨eid, content, hcontent⟩ :: b) := by
  have hholds := h.holds
  have hlen := h.len
  rw [encode_append, encode_cons, stores_append, stores_append] at hholds
  rw [length_encode_split] at hlen
  have hlt : offset + (encode a).length < offset + (encode (a ++ e :: b)).length := by
    rw [length_encode_split, Element.length_bytes]
    omega
  exact addIe_edited h (by simp) ha hcontent hholds.2.2 (by omega) (by omega) fun dst =>
    (addIe_step_behind dst hlt h.listAt.element).2.1 he

lemma addIe_empty (h : IesOk mem iesLen offset []) :
    rtwIesAddIe alloc mem iesLen offset eid content = some ⟨mem, iesLen, false⟩ :=
  if_pos (Or.inr h.empty)

lemma insert_sorted (hsorted : (a ++ b).Pairwise fun x y => x.id ≤ y.id)
    (ha : ∀ x ∈ a, x.id < e.id) (hb : ∀ x ∈ b.head?, e.id < x.id) :
    (a ++ e :: b).Pairwise fun x y => x.id ≤ y.id := by
  rw [pairwise_append] at hsorted ⊢
  obtain ⟨hfront, hback, hacross⟩ := hsorted
  have hfirst : ∀ y ∈ b, e.id ≤ y.id := by
    intro y hy
    cases b with
    | nil => cases hy
    | cons x b =>
      have hx := UInt8.le_of_lt (hb x rfl)
      rcases mem_cons.1 hy with rfl | hy
      · exact hx
      · exact UInt8.le_trans hx ((pairwise_cons.1 hback).1 y hy)
  refine ⟨hfront, pairwise_cons.2 ⟨hfirst, hback⟩, fun x hx y hy => ?_⟩
  rcases mem_cons.1 hy with rfl | hy
  · exact UInt8.le_of_lt (ha x hx)
  · exact hacross x hx y hy

/-- What the routines do to the list `es` that lies between `offset` and `iesLen`. -/
structure EditsList (mem : ℕ → UInt8) (iesLen offset : ℕ) (es : List Element) : Prop where
  get_none (eid : UInt8) : (∀ x ∈ es, x.id ≠ eid) →
    (rtwGetIe mem offset eid.toNat (sub32 iesLen offset)).val = none
  get_first (eid : UInt8) (a : List Element) (e : Element) (b : List Element) :
    es = a ++ e :: b → (∀ x ∈ a, x.id ≠ eid) → e.id = eid →
    (rtwGetIe mem offset eid.toNat (sub32 iesLen offset)).val =
      some ⟨offset + (encode a).length, e.body.length⟩
  getEx_none (eid : UInt8) (oui : Option (List UInt8)) : LongFor eid oui es →
    (∀ x ∈ es, ¬ x.Matches eid oui) →
    (rtwGetIeEx (fun i => mem (offset + i)) (sub32 iesLen offset) eid oui ⟨false, true⟩).val = none
  getEx_first (eid : UInt8) (oui : Option (List UInt8)) (a : List Element) (e : Element)
    (b : List Element) : LongFor eid oui es → es = a ++ e :: b →
    (∀ x ∈ a, ¬ x.Matches eid oui) → e.Matches eid oui →
    (rtwGetIeEx (fun i => mem (offset + i)) (sub32 iesLen offset) eid oui ⟨false, true⟩).val =
      some ⟨(encode a).length, some e.bytes.length, none⟩
  update_none (eid : UInt8) (content : List UInt8) : (∀ x ∈ es, x.id ≠ eid) →
    rtwIesUpdateIe true mem iesLen offset eid content = ⟨mem, iesLen, false⟩
  update_first (eid : UInt8) (content : List UInt8) (hcontent : content.length < 2 ^ 8)
    (a : List Element) (e : Element) (b : List Element) :
    es = a ++ e :: b → (∀ x ∈ a, x.id ≠ eid) → e.id = eid → e.body ≠ [] →
    Edited (rtwIesUpdateIe true mem iesLen offset eid content) mem offset
      (a ++ ⟨eid, content, hcontent⟩ :: b)
  updateEx_none (eidEx : UInt8) (content : List UInt8) :
    LongFor wlanEidExtension (some [eidEx]) es →
    (∀ x ∈ es, ¬ x.Matches wlanEidExtension (some [eidEx])) →
    rtwIesUpdateIeEx true mem iesLen offset eidEx content = ⟨mem, iesLen, false⟩
  updateEx_first (eidEx : UInt8) (new : Element) (lenByte : UInt8) (a : List Element) (e : Element)
    (b : List Element) : LongFor wlanEidExtension (some [eidEx]) es → es = a ++ e :: b →
    (∀ x ∈ a, ¬ x.Matches wlanEidExtension (some [eidEx])) →
    e.Matches wlanEidExtension (some [eidEx]) → new.bytes.length < 2 ^ 8 →
    Edited (rtwIesUpdateIeEx true mem iesLen offset eidEx (new.id :: lenByte :: new.body)) mem
      offset (a ++ new :: b)
  add_empty (eid : UInt8) (content : List UInt8) : es = [] →
    rtwIesAddIe true mem iesLen offset eid content = some ⟨mem, iesLen, false⟩
  add_insert (new : Element) (a b : List Element) : es = a ++ b → es ≠ [] →
    (∀ x ∈ a, x.id < new.id) → (∀ x ∈ b.head?, new.id < x.id) →
    (∃ r, rtwIesAddIe true mem iesLen offset new.id new.body = some r ∧
      Edited r mem offset (a ++ new :: b)) ∧
    (es.Pairwise (fun x y => x.id ≤ y.id) → (a ++ new :: b).Pairwise fun x y => x.id ≤ y.id)
  add_overwrite (new : Element) (a : List Element) (e : Element) (b : List Element) :
    es = a ++ e :: b → (∀ x ∈ a, x.id < new.id) → e.id = new.id →
    ∃ r, rtwIesAddIe true mem iesLen offset new.id new.body = some r ∧
      Edited r mem offset (a ++ new :: b)
  remove (eid : UInt8) (oui : Option (List UInt8)) : LongFor eid oui es →
    ∃ rounds r, rtwIesRemoveIe mem iesLen offset eid oui rounds = some r ∧
      r.iesLen = offset + (encode (kept eid oui es)).length ∧
      Stores r.mem offset (encode (kept eid oui es)) ∧ (∀ i < offset, r.mem i = mem i) ∧
      (r.success = true ↔ ∃ x ∈ es, x.Matches eid oui)

/-- On a well-formed list each routine does what it is for. -/
theorem ies_edit_list (h : IesOk mem iesLen offset es) : EditsList mem iesLen offset es where
  get_none eid hno := by
    rw [h.searchLen]
    exact getIe_list_none h.listAt hno
  get_first eid a e b hes ha he := by
    subst hes
    rw [h.searchLen]
    exact getIe_list_first h.listAt ha he
  getEx_none eid oui hlong hno := by
    rw [h.searchLen]
    exact getIeEx_list_none h.listAt.shift hlong _ hno
  getEx_first eid oui a e b hlong hes ha he := by
    subst hes
    rw [h.searchLen]
    exact getIeEx_shift_first h.listAt hlong ha he
  update_none eid content hno := updateIe_none h hno
  update_first eid content hcontent a e b hes ha he hbody := by
    subst hes
    exact updateIe_first h ha he hbody hcontent
  updateEx_none eidEx content hlong hno := updateIeEx_none h hlong hno
  updateEx_first eidEx new lenByte a e b hlong hes ha he hnew := by
    subst hes
    exact updateIeEx_first h hlong ha he hnew
  add_empty eid content hes := by
    subst hes
    exact addIe_empty h
  add_insert new a b hes hne ha hb := by
    subst hes
    exact ⟨addIe_insert h hne ha hb new.small, fun hsorted => insert_sorted hsorted ha hb⟩
  add_overwrite new a e b hes ha he := by
    subst hes
    exact addIe_overwrite h ha he new.small
  remove eid oui hlong := removeIe_kept h hlong

end

def oneElement : List Element := [⟨1, [5], by decide⟩]

def oneElementMem : ℕ → UInt8 := fun i => (encode oneElement).getD i 0

lemma oneElement_ok : IesOk oneElementMem 3 0 oneElement := ⟨by decide, by decide, by decide⟩

theorem ies_edit_list_oneElement : EditsList oneElementMem 3 0 oneElement :=
  ies_edit_list ⟨by decide, by decide, by decide⟩

/-- An element with the id 1 is not inserted next to the one that is there. -/
theorem add_does_not_insert : IesOk oneElementMem 3 0 oneElement ∧
    ∃ r, rtwIesAddIe true oneElementMem 3 0 1 [7] = some r ∧
      ∀ a b, oneElement = a ++ b → ¬ Edited r oneElementMem 0 (a ++ ⟨1, [7], by decide⟩ :: b) := by
  refine ⟨oneElement_ok, ?_⟩
  obtain ⟨r, hr, hedit⟩ : ∃ r, rtwIesAddIe true oneElementMem 3 0 1 [7] = some r ∧
      Edited r oneElementMem 0 ([] ++ ⟨1, [7], by decide⟩ :: []) :=
    @addIe_overwrite _ _ _ [] [] _ 1 [7] oneElement_ok (by simp) rfl (by decide)
  refine ⟨r, hr, fun a b hab hinsert => ?_⟩
  have hlen := hinsert.len.symm.trans hedit.len
  have hold : (encode a).length + (encode b).length = 3 := by
    rw [← length_append, ← encode_append, ← hab]
    rfl
  rw [length_encode_split] at hlen
  simp [Element.length_bytes] at hlen
  omega

/-! ## A run of edits -/

inductive IeOp
  | update (new : Element)
  | add (new : Element)
  | remove (eid : UInt8)

namespace IeOp

/-- What a call does to the bytes. -/
def Does (offset : ℕ) (s r : IesEdit) : IeOp → Prop
  | update new => rtwIesUpdateIe true s.mem s.iesLen offset new.id new.body = r
  | add new => rtwIesAddIe true s.mem s.iesLen offset new.id new.body = some r
  | remove eid => ∃ rounds, rtwIesRemoveIe s.mem s.iesLen offset eid none rounds = some r

/-- What it does to the list they stand for: an element with an empty body is not replaced, and
nothing is added to a list with no element. -/
def onList (es : List Element) : IeOp → List Element
  | update new =>
    match es.dropWhile (·.id ≠ new.id) with
    | [] => es
    | e :: b => if e.body = [] then es else es.takeWhile (·.id ≠ new.id) ++ new :: b
  | add new =>
    match es.dropWhile (·.id < new.id) with
    | [] => if es = [] then [] else es ++ [new]
    | e :: b => es.takeWhile (·.id < new.id) ++ new :: if e.id = new.id then b else e :: b
  | remove eid => es.filter (·.id ≠ eid)

end IeOp

def Reaches (offset : ℕ) : List IeOp → IesEdit → IesEdit → Prop
  | [], s, r => s = r
  | op :: ops, s, r => ∃ s', op.Does offset s s' ∧ Reaches offset ops s' r

section

variable {s : IesEdit} {offset : ℕ} {a b es : List Element} {e : Element}

lemma span_cases (p : Element → Bool) (es : List Element) :
    (∀ x ∈ es, p x = true) ∧ es.dropWhile p = [] ∨
      ∃ a e b, es = a ++ e :: b ∧ es.takeWhile p = a ∧ es.dropWhile p = e :: b ∧
        (∀ x ∈ a, p x = true) ∧ p e = false := by
  cases hdrop : es.dropWhile p with
  | nil =>
    have hall : ([].any fun x => !p x) = !es.all p := hdrop ▸ any_dropWhile
    exact .inl ⟨by simpa using hall, rfl⟩
  | cons e b =>
    refine .inr ⟨_, e, b, ?_, rfl, rfl, all_eq_true.1 all_takeWhile, ?_⟩
    · rw [← hdrop, takeWhile_append_dropWhile]
    · have hhead := head?_dropWhile_not p es
      rwa [hdrop] at hhead

lemma updateIe_empty {eid : UInt8} {content : List UInt8}
    (h : IesOk s.mem s.iesLen offset (a ++ e :: b)) (ha : ∀ x ∈ a, x.id ≠ eid) (he : e.id = eid)
    (hbody : e.body = []) :
    rtwIesUpdateIe true s.mem s.iesLen offset eid content = ⟨s.mem, s.iesLen, false⟩ := by
  have hfound := getIe_list_first h.listAt ha he
  unfold rtwIesUpdateIe
  rw [if_neg (h.nonempty (by simp)), h.searchLen, hfound]
  simp [hbody]

/-- The three parts of `Edited` that do not speak of success. -/
def Becomes (offset : ℕ) (s r : IesEdit) (es : List Element) : Prop :=
  r.iesLen = offset + (encode es).length ∧ Stores r.mem offset (encode es) ∧
    ∀ i < offset, r.mem i = s.mem i

lemma IesOk.stays (h : IesOk s.mem s.iesLen offset es) :
    Becomes offset s ⟨s.mem, s.iesLen, false⟩ es := ⟨h.len, h.holds, fun _ _ => rfl⟩

lemma Edited.becomes {r : IesEdit} (h : Edited r s.mem offset es) : Becomes offset s r es :=
  ⟨h.len, h.holds, h.before⟩

section

variable (h : IesOk s.mem s.iesLen offset es)
include h

lemma IesOk.does_update (new : Element) :
    ∃ r, (IeOp.update new).Does offset s r ∧ Becomes offset s r ((IeOp.update new).onList es) := by
  rcases span_cases (·.id ≠ new.id) es with
    ⟨hall, hnil⟩ | ⟨a, e, b, hes, htake, hdrop, ha, he⟩
  · simp only [IeOp.onList, hnil]
    exact ⟨_, updateIe_none h (by simpa using hall), h.stays⟩
  · simp only [IeOp.onList, htake, hdrop]
    subst hes
    have hne : ∀ x ∈ a, x.id ≠ new.id := by simpa using ha
    have hid : e.id = new.id := by simpa using he
    split_ifs with hbody
    · exact ⟨_, updateIe_empty h hne hid hbody, h.stays⟩
    · exact ⟨_, rfl, (updateIe_first h hne hid hbody new.small).becomes⟩

lemma IesOk.does_add (new : Element) :
    ∃ r, (IeOp.add new).Does offset s r ∧ Becomes offset s r ((IeOp.add new).onList es) := by
  rcases span_cases (·.id < new.id) es with ⟨hall, hnil⟩ | ⟨a, e, b, hes, htake, hdrop, ha, he⟩
  · simp only [IeOp.onList, hnil]
    split_ifs with hes
    · subst hes
      exact ⟨_, addIe_empty h, h.stays⟩
    · obtain ⟨r, hr, hedit⟩ := addIe_insert (b := []) (by rwa [append_nil])
        (by rwa [append_nil]) (by simpa using hall) (by simp) new.small
      exact ⟨r, hr, hedit.becomes⟩
  · simp only [IeOp.onList, htake, hdrop]
    subst hes
    have hlt : ∀ x ∈ a, x.id < new.id := by simpa using ha
    split_ifs with hid
    · obtain ⟨r, hr, hedit⟩ := addIe_overwrite h hlt hid new.small
      exact ⟨r, hr, hedit.becomes⟩
    · have hgt : new.id < e.id := UInt8.lt_of_le_of_ne (by simpa using he) (Ne.symm hid)
      obtain ⟨r, hr, hedit⟩ := addIe_insert h (by simp) hlt (by simpa using hgt) new.small
      exact ⟨r, hr, hedit.becomes⟩

lemma IesOk.does_remove (eid : UInt8) :
    ∃ r, (IeOp.remove eid).Does offset s r ∧ Becomes offset s r ((IeOp.remove eid).onList es) := by
  have hlong : LongFor eid none es := fun _ _ _ _ ho => nomatch ho
  obtain ⟨rounds, r, hr, hlen, hholds, hbefore, -⟩ := removeIe_kept h hlong
  have hkept : kept eid none es = es.filter (·.id ≠ eid) := by
    apply filter_congr
    intro x _
    simp [Element.Matches, eq_comm]
  rw [hkept] at hlen hholds
  exact ⟨r, ⟨rounds, hr⟩, hlen, hholds, hbefore⟩

/-- One call does to the list what it is for. -/
lemma IesOk.does (op : IeOp) :
    ∃ r, op.Does offset s r ∧ Becomes offset s r (op.onList es) := by
  cases op with
  | update new => exact h.does_update new
  | add new => exact h.does_add new
  | remove eid => exact h.does_remove eid

end

/-- Every sequence of replacements, additions and removals whose lists fit an `int` turns the
bytes into those of the list that the same edits of the list give; the bytes in front of it
stay. -/
theorem ies_edit_run {ops : List IeOp} (h : IesOk s.mem s.iesLen offset es)
    (hfits : Guarded IeOp.onList
      (fun es op => offset + (encode (op.onList es)).length < 2 ^ 31) es ops) :
    ∃ r, Reaches offset ops s r ∧ IesOk r.mem r.iesLen offset (run IeOp.onList es ops) ∧
      ∀ i < offset, r.mem i = s.mem i := by
  induction ops generalizing s es with
  | nil => exact ⟨s, rfl, h, fun _ _ => rfl⟩
  | cons op ops ih =>
    obtain ⟨s', hdoes, hlen, hholds, hbefore⟩ := h.does op
    obtain ⟨r, hreach, hok, hkept⟩ := ih ⟨hholds, hlen, by rw [hlen]; exact hfits.1⟩ hfits.2
    exact ⟨r, ⟨s', hdoes, hreach⟩, hok, fun i hi => (hkept i hi).trans (hbefore i hi)⟩

theorem ies_edit_run_twoEdits :
    ∃ r, Reaches 0 [.add ⟨3, [7], by decide⟩, .remove 1] ⟨oneElementMem, 3, true⟩ r ∧
      IesOk r.mem r.iesLen 0 [⟨3, [7], by decide⟩] ∧ ∀ i < 0, r.mem i = oneElementMem i :=
  @ies_edit_run ⟨oneElementMem, 3, true⟩ 0 oneElement
    [.add ⟨3, [7], by decide⟩, .remove 1] oneElement_ok (by decide)

end

end Rtl8831.Core
