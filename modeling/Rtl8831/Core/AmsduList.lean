import Rtl8831.Core.Amsdu
import Rtl8831.Lib.Memory

/-!
# An A-MSDU as a list of subframes

The body of an A-MSDU is tiled by its subframes as far as headers and declared lengths fit.
The loop delivers the packets of these subframes one after the other, up to the first whose
content is wrong.
-/

namespace Rtl8831.Core

open Lib List Reading

structure Subframe where
  da : List UInt8
  sa : List UInt8
  body : List UInt8
  da_len : da.length = 6
  sa_len : sa.length = 6
  small : body.length < 2 ^ 16

namespace Subframe

variable (s : Subframe)

def bytes : List UInt8 := s.da ++ s.sa ++ be16Bytes s.body.length ++ s.body

lemma length_bytes : s.bytes.length = 14 + s.body.length := by
  unfold bytes be16Bytes
  simp only [length_append, s.da_len, s.sa_len, length_cons, length_nil]

def padLen : ℕ := (4 - (s.body.length + 14) % 4) % 4

def packet : List UInt8 := allocMsduPkt s.da s.sa s.body (recvLlcParse s.body s.body.length)

end Subframe

section

variable {mem : ℕ → UInt8} {pos i n : ℕ} {p : List UInt8}

lemma length_slice (h : i + n ≤ p.length) : (slice p i n).length = n := by
  unfold slice
  rw [length_take, length_drop]
  omega

lemma be16At_lt (p : List UInt8) (i : ℕ) : be16At p i < 2 ^ 16 := by
  have hhi := (byteAt p i).toNat_lt
  have hlo := (byteAt p (i + 1)).toNat_lt
  unfold be16At
  omega

section

variable (h : Stores mem pos p)
include h

lemma stores_byteAt (hi : i < p.length) : mem (pos + i) = byteAt p i := by
  have hget := congrArg (fun l => l[i]?) h.eq
  simp only [bytesAt, getElem?_map] at hget
  rw [getElem?_range' hi, Option.map_some, Nat.one_mul, getElem?_eq_getElem hi,
    Option.some.injEq] at hget
  rw [hget, byteAt, getD_eq_getElem _ _ hi]

lemma stores_slice (hn : i + n ≤ p.length) :
    (readBytes mem (pos + i) n).val = slice p i n := by
  have hdrop := h.drop (show i ≤ p.length by omega)
  rw [← take_append_drop n (p.drop i), stores_append] at hdrop
  have hfirst := hdrop.1.eq
  rw [length_take, length_drop, Nat.min_eq_left (by omega)] at hfirst
  exact hfirst

lemma stores_be16At (hi : i + 1 < p.length) :
    (getBe16 mem (pos + i)).val = be16At p i := by
  have hhi := stores_byteAt h (show i < p.length by omega)
  have hlo := stores_byteAt h hi
  unfold getBe16 be16At
  simp only [val_bind, val_readByte, val_pure]
  rw [hhi, ← hlo, Nat.mul_comm, Nat.add_assoc]

end

lemma below_getBe16 {limit : ℕ} (h : i + 2 ≤ limit) : (getBe16 mem i).Below limit := by
  unfold getBe16
  simp only [below_bind_iff, below_readByte_iff]
  exact ⟨by omega, by omega, below_pure _ _⟩

lemma stores_byteAt_drop (p : List UInt8) (i : ℕ) : Stores (byteAt p) i (p.drop i) := by
  unfold Stores bytesAt
  apply ext_getElem
  · rw [length_map, length_range']
  · intro j hj hj'
    rw [length_drop] at hj'
    rw [getElem_map, getElem_range', getElem_drop, Nat.one_mul, byteAt,
      getD_eq_getElem _ _ (by omega)]

lemma slice_append_drop (p : List UInt8) (i n : ℕ) :
    slice p i n ++ p.drop (i + n) = p.drop i := by
  unfold slice
  rw [← drop_drop, take_append_drop]

lemma be16Bytes_be16At (h : i + 2 ≤ p.length) : be16Bytes (be16At p i) = slice p i 2 := by
  have hlo := (byteAt p (i + 1)).toNat_lt
  have hslice : slice p i 2 = [byteAt p i, byteAt p (i + 1)] := by
    unfold slice byteAt
    rw [drop_eq_getElem_cons (by omega), drop_eq_getElem_cons (by omega),
      getD_eq_getElem _ _ (by omega), getD_eq_getElem _ _ (by omega)]
    rfl
  rw [hslice, be16Bytes, be16At]
  congr 1
  · rw [Nat.mul_add_div (by decide), Nat.div_eq_of_lt hlo, Nat.add_zero, UInt8.ofNat_toNat]
  · congr 1
    rw [← UInt8.toNat_inj, UInt8.toNat_ofNat', Nat.mul_add_mod, Nat.mod_eq_of_lt hlo]

end

def splitSubframe (p : List UInt8) : Option (Subframe × List UInt8) :=
  if h : 14 < p.length ∧ 14 + be16At p 12 ≤ p.length then
    some
      ({ da := slice p 0 6
         sa := slice p 6 6
         body := slice p 14 (be16At p 12)
         da_len := length_slice (by omega)
         sa_len := length_slice (by omega)
         small := (length_slice h.2).trans_lt (be16At_lt p 12) },
        p.drop (14 + be16At p 12))
  else none

/-- The subframes of the body, of which there are `k` at most. -/
def subframes : ℕ → List UInt8 → List Subframe
  | 0, _ => []
  | k + 1, p =>
    match splitSubframe p with
    | none => []
    | some (s, rest) => s :: subframes k (rest.drop s.padLen)

/-- `p` is tiled by the subframes, with padding between them, and `rest`. -/
inductive Tiled : List UInt8 → List Subframe → List UInt8 → Prop
  | nil (p : List UInt8) : Tiled p [] p
  | cons (s : Subframe) (pad : List UInt8) {p rest : List UInt8} {ss : List Subframe} :
      pad.length = s.padLen → Tiled p ss rest → Tiled (s.bytes ++ (pad ++ p)) (s :: ss) rest
  | last (s : Subframe) (pad : List UInt8) :
      pad.length < s.padLen → Tiled (s.bytes ++ pad) [s] []

section

variable {p rest : List UInt8} {s : Subframe} {k : ℕ}

lemma splitSubframe_some (h : splitSubframe p = some (s, rest)) :
    p = s.bytes ++ rest ∧ 14 < p.length ∧ be16At p 12 = s.body.length ∧ s.da = slice p 0 6 ∧
      s.sa = slice p 6 6 ∧ s.body = slice p 14 (be16At p 12) := by
  unfold splitSubframe at h
  split at h
  · rename_i hp
    cases h
    have hbody : (slice p 14 (be16At p 12)).length = be16At p 12 := length_slice hp.2
    refine ⟨?_, hp.1, hbody.symm, rfl, rfl, rfl⟩
    unfold Subframe.bytes
    simp only
    rw [hbody, be16Bytes_be16At (by omega), append_assoc, slice_append_drop, append_assoc,
      append_assoc, slice_append_drop, slice_append_drop, slice_append_drop]
    exact drop_zero
  · cases h

lemma splitSubframe_none_iff :
    splitSubframe p = none ↔ p.length ≤ 14 ∨ p.length < 14 + be16At p 12 := by
  unfold splitSubframe
  split
  · simp
    omega
  · simp
    omega

lemma subframes_tiled (hk : p.length < k) :
    ∃ rest, Tiled p (subframes k p) rest ∧ splitSubframe rest = none := by
  induction k generalizing p with
  | zero => exact absurd hk (Nat.not_lt_zero _)
  | succ k ih =>
    rw [subframes]
    cases hs : splitSubframe p with
    | none => exact ⟨p, .nil p, hs⟩
    | some r =>
      obtain ⟨s, rest⟩ := r
      obtain ⟨hp, -, -⟩ := splitSubframe_some hs
      have hlt : rest.length < p.length := by
        rw [hp, length_append, Subframe.length_bytes]
        omega
      simp only
      by_cases hpad : rest.length < s.padLen
      · have hnone : splitSubframe [] = none := splitSubframe_none_iff.2 (Or.inl (by simp))
        have hdrop : subframes k (rest.drop s.padLen) = [] := by
          rw [drop_eq_nil_of_le hpad.le]
          cases k with
          | zero => rfl
          | succ k => rw [subframes, hnone]
        rw [hdrop, hp]
        exact ⟨[], .last s rest hpad, hnone⟩
      · obtain ⟨left, htiled, hleft⟩ := ih (p := rest.drop s.padLen) (by
          rw [length_drop]
          omega)
        refine ⟨left, ?_, hleft⟩
        rw [hp]
        nth_rewrite 1 [← take_append_drop s.padLen rest]
        refine .cons s _ ?_ htiled
        rw [length_take, Nat.min_eq_left (by omega)]

end

def Refused (cfg : RecvCfg) (a : RxAttrib) (memory : Bool) (u : Subframe) : Prop :=
  validateAmsduContent cfg a u.da u.sa = false ∨
    msduActCheck cfg u.da u.sa ≠ (false, false) ∧ memory = false

/-- Where the loop stands when it has delivered `u`. -/
def AmsduState.deliver (cfg : RecvCfg) (s : AmsduState) (u : Subframe) : AmsduState :=
  { s with
    nrSubframes := if (msduActCheck cfg u.da u.sa).1 then s.nrSubframes + 1 else s.nrSubframes
    out := s.out.give (msduActCheck cfg u.da u.sa) u.packet }

section

variable {cfg : RecvCfg} {a : RxAttrib} {alloc : ℕ → Bool} {mem : ℕ → UInt8} {s t : AmsduState}
  {p rest body : List UInt8} {u : Subframe} {us taken : List Subframe} {m k limit : ℕ}

lemma llcParse_val {n : ℕ} (h : Stores mem m body) (hn : n ≤ body.length) :
    (llcParse mem m n).val = recvLlcParse body n := by
  unfold llcParse recvLlcParse
  by_cases hshort : n < 8
  · rw [if_pos hshort, if_pos hshort]
    rfl
  · have htype := stores_be16At (i := 6) h (by omega)
    have hheader := stores_slice (i := 0) (n := 6) h (by omega)
    rw [if_neg hshort, if_neg hshort]
    simp only [val_bind, val_pure, htype]
    rw [← hheader]
    rfl

lemma llcParse_below (n : ℕ) (h : m + n ≤ limit) : (llcParse mem m n).Below limit := by
  unfold llcParse
  split
  · exact below_pure _ _
  · simp only [below_bind_iff]
    exact ⟨below_getBe16 (by omega), below_readBytes (by omega), below_pure _ _⟩

variable (cfg a alloc) in
lemma amsduStep_end (h : Stores mem s.pdata p) (haLen : s.aLen = p.length)
    (hsplit : splitSubframe p = none) :
    (amsduStep cfg a alloc mem s).val = .inl s.out ∧
      (amsduStep cfg a alloc mem s).Below (s.pdata + p.length) := by
  unfold amsduStep
  by_cases hshort : s.aLen ≤ 14
  · rw [if_pos hshort]
    exact ⟨rfl, below_pure _ _⟩
  · have hlen := stores_be16At (i := 12) h (by omega)
    have hlong : s.aLen < 14 + (getBe16 mem (s.pdata + 12)).val := by
      rcases splitSubframe_none_iff.1 hsplit with hp | hp <;> omega
    rw [if_neg hshort, val_bind, below_bind_iff, if_pos hlong]
    exact ⟨rfl, below_getBe16 (by omega), below_pure _ _⟩

variable (cfg a alloc) in
lemma amsduStep_subframe (h : Stores mem s.pdata p) (haLen : s.aLen = p.length)
    (hsplit : splitSubframe p = some (u, rest)) :
    (amsduStep cfg a alloc mem s).Below (s.pdata + p.length) ∧
      (Refused cfg a (alloc s.pdata) u → (amsduStep cfg a alloc mem s).val = .inl s.out) ∧
      (¬ Refused cfg a (alloc s.pdata) u →
        (amsduStep cfg a alloc mem s).val = moveToNext u.body.length (s.deliver cfg u)) := by
  obtain ⟨hp, hlong, hn, hda, hsa, hbody⟩ := splitSubframe_some hsplit
  have htotal : p.length = 14 + u.body.length + rest.length := by
    rw [hp, length_append, Subframe.length_bytes]
  have hlen : (getBe16 mem (s.pdata + 12)).val = u.body.length := by
    rw [stores_be16At h (by omega), hn]
  have hreadDa : (readBytes mem s.pdata 6).val = u.da := by
    rw [hda]
    exact stores_slice (i := 0) h (by omega)
  have hreadSa : (readBytes mem (s.pdata + 6) 6).val = u.sa := by
    rw [hsa]
    exact stores_slice h (by omega)
  have hstored : Stores mem (s.pdata + 14) u.body := by
    have hdrop := h.drop (show 14 ≤ p.length by omega)
    rw [← slice_append_drop p 14 (be16At p 12), ← hbody] at hdrop
    exact (stores_append.1 hdrop).1
  have hreadBody : (readBytes mem (s.pdata + 14) u.body.length).val = u.body := hstored
  have hllc := llcParse_val hstored le_rfl
  have hbelow : (amsduStep cfg a alloc mem s).Below (s.pdata + p.length) := by
    unfold amsduStep
    rw [if_neg (by omega), below_bind_iff, hlen, if_neg (by omega), below_bind_iff,
      below_bind_iff]
    refine ⟨below_getBe16 (by omega), below_readBytes (by omega), below_readBytes (by omega), ?_⟩
    split
    · exact below_pure _ _
    · rw [below_bind_iff]
      refine ⟨llcParse_below _ (by omega), ?_⟩
      simp only
      split
      · exact below_pure _ _
      · split
        · exact below_pure _ _
        · rw [below_bind_iff]
          exact ⟨below_readBytes (by omega), below_pure _ _⟩
  have hval : (amsduStep cfg a alloc mem s).val =
      if validateAmsduContent cfg a u.da u.sa = false then .inl s.out
      else if msduActCheck cfg u.da u.sa = (false, false) then moveToNext u.body.length s
      else if alloc s.pdata = false then .inl s.out
      else moveToNext u.body.length (s.deliver cfg u) := by
    unfold amsduStep
    rw [if_neg (by omega), val_bind, hlen, if_neg (by omega), val_bind, hreadDa,
      val_bind, hreadSa]
    simp only [val_ite, val_bind, val_pure, hllc, hreadBody]
    rfl
  rw [hval]
  refine ⟨hbelow, fun hrefused => ?_, fun hgood => ?_⟩
  · rcases hrefused with hbad | ⟨hact, hmemory⟩
    · rw [if_pos hbad]
    · rw [if_neg hact, if_pos hmemory]
      split <;> rfl
  · unfold Refused at hgood
    push Not at hgood
    rw [if_neg hgood.1]
    by_cases hact : msduActCheck cfg u.da u.sa = (false, false)
    · have hsame : s.deliver cfg u = s := by
        unfold AmsduState.deliver
        rw [hact]
        rfl
      rw [if_pos hact, hsame]
    · rw [if_neg hact, if_neg (hgood.2 hact)]

lemma moveToNext_cases (h : Stores mem s.pdata (u.bytes ++ rest))
    (haLen : s.aLen = (u.bytes ++ rest).length) :
    (maxSubframeCount ≤ s.nrSubframes ∧ moveToNext u.body.length s = .inl s.out) ∨
    (s.nrSubframes < maxSubframeCount ∧ rest.drop u.padLen = [] ∧
      moveToNext u.body.length s = .inl s.out) ∨
    ∃ t, s.nrSubframes < maxSubframeCount ∧ moveToNext u.body.length s = .inr t ∧
      Stores mem t.pdata (rest.drop u.padLen) ∧ t.aLen = (rest.drop u.padLen).length ∧
      t.nrSubframes = s.nrSubframes ∧ t.out = s.out ∧
      t.pdata + t.aLen = s.pdata + (u.bytes ++ rest).length := by
  rw [length_append, Subframe.length_bytes] at haLen
  have hbehind := (stores_append.1 h).2
  rw [Subframe.length_bytes, ← Nat.add_assoc] at hbehind
  have hleft : s.aLen - 14 - u.body.length = rest.length := by omega
  have hpad : (if 4 - (u.body.length + 14) % 4 = 4 then 0 else 4 - (u.body.length + 14) % 4) =
      u.padLen := by
    unfold Subframe.padLen
    split <;> omega
  unfold moveToNext
  simp only [hpad, hleft]
  by_cases hfull : maxSubframeCount ≤ s.nrSubframes
  · exact Or.inl ⟨hfull, if_pos hfull⟩
  · rw [if_neg hfull]
    have hroom := not_le.1 hfull
    by_cases hnone : rest.length = 0
    · rw [if_neg (not_not.2 hnone)]
      have hnil := length_eq_zero_iff.1 hnone
      subst hnil
      refine Or.inr (Or.inr ⟨_, hroom, rfl, ?_, ?_, rfl, rfl, ?_⟩)
      · rw [drop_nil]
        exact stores_nil
      · rw [drop_nil]
      · simp only [append_nil, length_nil, Subframe.length_bytes]
        omega
    · rw [if_pos hnone]
      by_cases hcut : rest.length < u.padLen
      · rw [if_pos hcut]
        exact Or.inr (Or.inl ⟨hroom, drop_eq_nil_of_le hcut.le, rfl⟩)
      · rw [if_neg hcut]
        have hle := not_lt.1 hcut
        refine Or.inr (Or.inr ⟨_, hroom, rfl, hbehind.drop hle, ?_, rfl, rfl, ?_⟩)
        · rw [length_drop]
        · simp only [length_append, Subframe.length_bytes]
          omega

/-- The packets of `taken` are indicated or forwarded, which are all subframes unless the next one
is refused or the count of indicated packets is reached. -/
structure Delivered (cfg : RecvCfg) (a : RxAttrib) (alloc : ℕ → Bool) (nr : ℕ)
    (all taken : List Subframe) (before out : RxOut) : Prop where
  front : taken <+: all
  content : ∀ u ∈ taken, validateAmsduContent cfg a u.da u.sa = true
  count : nr + taken.countP (fun u => (msduActCheck cfg u.da u.sa).1) ≤ maxSubframeCount
  indicated : out.indicated = before.indicated ++
    (taken.filter fun u => (msduActCheck cfg u.da u.sa).1).map Subframe.packet
  forwarded : out.forwarded = before.forwarded ++
    (taken.filter fun u => (msduActCheck cfg u.da u.sa).2).map Subframe.packet
  last : taken = all ∨
    nr + taken.countP (fun u => (msduActCheck cfg u.da u.sa).1) = maxSubframeCount ∨
      ∃ u pos, taken ++ [u] <+: all ∧ Refused cfg a (alloc pos) u

section

variable {nr : ℕ} {before out : RxOut} {all : List Subframe}

lemma delivered_nothing (hnr : nr ≤ maxSubframeCount)
    (h : all = [] ∨ nr = maxSubframeCount ∨
      ∃ u us pos, all = u :: us ∧ Refused cfg a (alloc pos) u) :
    Delivered cfg a alloc nr all [] before before where
  front := nil_prefix
  content := by simp
  count := hnr
  indicated := by simp
  forwarded := by simp
  last := by
    rcases h with h | h | ⟨u, us, pos, rfl, h⟩
    · exact Or.inl h.symm
    · exact Or.inr (Or.inl h)
    · exact Or.inr (Or.inr ⟨u, pos, ⟨us, rfl⟩, h⟩)

lemma Delivered.cons
    (hu : validateAmsduContent cfg a u.da u.sa = true)
    (h : Delivered cfg a alloc (s.deliver cfg u).nrSubframes us taken (s.deliver cfg u).out out) :
    Delivered cfg a alloc s.nrSubframes (u :: us) (u :: taken) s.out out := by
  have hcount : s.nrSubframes + (u :: taken).countP (fun u => (msduActCheck cfg u.da u.sa).1) =
      (s.deliver cfg u).nrSubframes +
        taken.countP (fun u => (msduActCheck cfg u.da u.sa).1) := by
    rw [countP_cons]
    unfold AmsduState.deliver
    simp only
    split <;> omega
  refine ⟨?_, ?_, ?_, ?_, ?_, ?_⟩
  · exact (prefix_cons_inj u).2 h.front
  · intro v hv
    rcases mem_cons.1 hv with rfl | hv
    · exact hu
    · exact h.content v hv
  · rw [hcount]
    exact h.count
  · rw [h.indicated, filter_cons]
    simp only [AmsduState.deliver, RxOut.give]
    split <;> simp
  · rw [h.forwarded, filter_cons]
    simp only [AmsduState.deliver, RxOut.give]
    split <;> simp
  · rw [hcount]
    rcases h.last with hall | hfull | ⟨v, pos, hv, hrefused⟩
    · exact Or.inl (by rw [hall])
    · exact Or.inr (Or.inl hfull)
    · exact Or.inr (Or.inr ⟨v, pos, (prefix_cons_inj u).2 hv, hrefused⟩)

end

lemma subframes_of_none (h : splitSubframe p = none) (k : ℕ) : subframes k p = [] := by
  cases k with
  | zero => rfl
  | succ k => rw [subframes, h]

variable (cfg a alloc) in
lemma amsdu_search (h : Stores mem s.pdata p) (haLen : s.aLen = p.length)
    (hnr : s.nrSubframes < maxSubframeCount) (hk : p.length < k) :
    ∃ out taken, (search (amsduStep cfg a alloc mem) k s).val = some out ∧
      (search (amsduStep cfg a alloc mem) k s).Below (s.pdata + p.length) ∧
      Delivered cfg a alloc s.nrSubframes (subframes k p) taken s.out out := by
  induction k generalizing s p with
  | zero => exact absurd hk (Nat.not_lt_zero _)
  | succ k ih =>
    cases hsplit : splitSubframe p with
    | none =>
      obtain ⟨hval, hbelow⟩ := amsduStep_end cfg a alloc h haLen hsplit
      rw [subframes_of_none hsplit, search_done hval]
      exact ⟨s.out, [], rfl, hbelow, delivered_nothing hnr.le (Or.inl rfl)⟩
    | some r =>
      obtain ⟨u, rest⟩ := r
      obtain ⟨hbelow, hrefuse, hgood⟩ := amsduStep_subframe cfg a alloc h haLen hsplit
      obtain ⟨hp, -⟩ := splitSubframe_some hsplit
      rw [subframes, hsplit]
      by_cases hrefused : Refused cfg a (alloc s.pdata) u
      · rw [search_done (hrefuse hrefused)]
        exact ⟨s.out, [], rfl, hbelow,
          delivered_nothing hnr.le (Or.inr (Or.inr ⟨u, _, _, rfl, hrefused⟩))⟩
      · have hcontent : validateAmsduContent cfg a u.da u.sa = true :=
          eq_true_of_ne_false fun hbad => hrefused (Or.inl hbad)
        have hnext : (s.deliver cfg u).nrSubframes ≤ maxSubframeCount := by
          unfold AmsduState.deliver
          simp only
          split <;> omega
        have hstep := hgood hrefused
        subst hp
        rcases moveToNext_cases (s := s.deliver cfg u) h haLen with
          ⟨hfull, hmove⟩ | ⟨-, hnil, hmove⟩ | ⟨t, hroom, hmove, hstored, hleft, hcount, hout, hend⟩
        · rw [search_done (hstep.trans hmove)]
          exact ⟨_, [u], rfl, hbelow, .cons hcontent
            (delivered_nothing hnext (Or.inr (Or.inl (hnext.antisymm hfull))))⟩
        · have hnone : splitSubframe [] = none :=
            splitSubframe_none_iff.2 (Or.inl (Nat.zero_le _))
          rw [search_done (hstep.trans hmove)]
          simp only [hnil, subframes_of_none hnone]
          exact ⟨_, [u], rfl, hbelow, .cons hcontent (delivered_nothing hnext (Or.inl rfl))⟩
        · have hlt : (rest.drop u.padLen).length < k := by
            rw [length_append, Subframe.length_bytes] at hk
            rw [length_drop]
            omega
          rw [← hcount] at hroom
          obtain ⟨out, taken, hval, hread, hdelivered⟩ := ih hstored hleft hroom hlt
          rw [hcount, hout] at hdelivered
          have hread' : (search (amsduStep cfg a alloc mem) (k + 1) s).Below
              (s.pdata + (u.bytes ++ rest).length) := by
            rw [search_next_below_iff (hstep.trans hmove)]
            refine ⟨hbelow, ?_⟩
            have hsame : s.pdata + (u.bytes ++ rest).length =
                t.pdata + (rest.drop u.padLen).length := by
              rw [← hleft, hend]
              rfl
            rw [hsame]
            exact hread
          refine ⟨out, u :: taken, ?_, hread', .cons hcontent hdelivered⟩
          rw [search_next (hstep.trans hmove)]
          exact hval

lemma recvLlcParse_append (body rest : List UInt8) :
    recvLlcParse (body ++ rest) body.length = recvLlcParse body body.length := by
  unfold recvLlcParse
  by_cases hshort : body.length < 8
  · rw [if_pos hshort, if_pos hshort]
  · have hbyte : ∀ i < body.length, byteAt (body ++ rest) i = byteAt body i := fun i hi =>
      getD_append _ _ _ _ hi
    have hslice : slice (body ++ rest) 0 6 = slice body 0 6 := by
      unfold slice
      rw [drop_zero, drop_zero, take_append_of_le_length (by omega)]
    have htype : be16At (body ++ rest) 6 = be16At body 6 := by
      unfold be16At
      rw [hbyte 6 (by omega), hbyte (6 + 1) (by omega)]
    rw [if_neg hshort, if_neg hshort, hslice, htype]

lemma amsduLoop_end (h : splitSubframe p = none) (k nr : ℕ) :
    amsduLoop cfg a (k + 1) nr p = {} := by
  unfold amsduLoop
  rcases splitSubframe_none_iff.1 h with hp | hp
  · rw [if_pos hp]
  · simp only [if_pos hp, ite_self]

lemma amsduLoop_nil (k nr : ℕ) : amsduLoop cfg a k nr [] = {} := by
  cases k with
  | zero => rfl
  | succ k => exact amsduLoop_end (splitSubframe_none_iff.2 (Or.inl (Nat.zero_le _))) k nr

lemma amsduLoop_more {nr : ℕ} (hroom : nr < maxSubframeCount) :
    (if maxSubframeCount ≤ nr ∨ rest.length < u.padLen then {}
      else amsduLoop cfg a k nr (rest.drop u.padLen)) =
        amsduLoop cfg a k nr (rest.drop u.padLen) := by
  by_cases hcut : rest.length < u.padLen
  · rw [if_pos (Or.inr hcut), drop_eq_nil_of_le hcut.le, amsduLoop_nil]
  · exact if_neg fun h => h.elim (not_le.2 hroom) hcut

variable (cfg a) in
lemma amsduLoop_subframe (h : splitSubframe p = some (u, rest)) (k : ℕ) (s : AmsduState) :
    amsduLoop cfg a (k + 1) s.nrSubframes p =
      if validateAmsduContent cfg a u.da u.sa = false then {}
      else
        let act := msduActCheck cfg u.da u.sa
        let nr := (s.deliver cfg u).nrSubframes
        let more := if maxSubframeCount ≤ nr ∨ rest.length < u.padLen then {}
          else amsduLoop cfg a k nr (rest.drop u.padLen)
        { indicated := (if act.1 then [u.packet] else []) ++ more.indicated
          forwarded := (if act.2 then [u.packet] else []) ++ more.forwarded } := by
  obtain ⟨hp, hlong, hn, hda, hsa, hbody⟩ := splitSubframe_some h
  have hfit : ¬ p.length < 14 + u.body.length := by
    rw [hp, length_append, Subframe.length_bytes]
    omega
  have hdrop14 : p.drop 14 = u.body ++ p.drop (14 + be16At p 12) := by
    rw [hbody, slice_append_drop]
  have hdrop : p.drop (14 + u.body.length) = rest := by
    conv_lhs => rw [hp]
    rw [← Subframe.length_bytes, drop_left]
  rw [hn] at hbody
  have hllc : recvLlcParse (p.drop 14) u.body.length = recvLlcParse u.body u.body.length := by
    rw [hdrop14, recvLlcParse_append]
  rw [amsduLoop]
  simp only [hn, ← hda, ← hsa, ← hbody, if_neg (not_le.2 hlong), if_neg hfit, hllc, hdrop,
    Bool.not_eq_true']
  rfl

lemma amsdu_search_eq (h : Stores mem s.pdata p) (haLen : s.aLen = p.length)
    (hnr : s.nrSubframes < maxSubframeCount) (hk : p.length < k) :
    (search (amsduStep cfg a (fun _ => true) mem) k s).val =
      some { indicated := s.out.indicated ++ (amsduLoop cfg a k s.nrSubframes p).indicated
             forwarded := s.out.forwarded ++ (amsduLoop cfg a k s.nrSubframes p).forwarded } := by
  induction k generalizing s p with
  | zero => exact absurd hk (Nat.not_lt_zero _)
  | succ k ih =>
    cases hsplit : splitSubframe p with
    | none =>
      have hval := (amsduStep_end cfg a (fun _ => true) h haLen hsplit).1
      rw [search_done hval, amsduLoop_end hsplit]
      simp
    | some r =>
      obtain ⟨u, rest⟩ := r
      obtain ⟨-, hrefuse, hgood⟩ := amsduStep_subframe cfg a (fun _ => true) h haLen hsplit
      obtain ⟨hp, -⟩ := splitSubframe_some hsplit
      rw [amsduLoop_subframe cfg a hsplit]
      by_cases hbad : validateAmsduContent cfg a u.da u.sa = false
      · rw [search_done (hrefuse (Or.inl hbad)), if_pos hbad]
        simp
      · have hrefused : ¬ Refused cfg a true u := by simp [Refused, hbad]
        have hstep := hgood hrefused
        subst hp
        rw [if_neg hbad]
        have hout : ∀ more : RxOut,
            some (RxOut.mk ((s.deliver cfg u).out.indicated ++ more.indicated)
              ((s.deliver cfg u).out.forwarded ++ more.forwarded)) =
            some (RxOut.mk
              (s.out.indicated ++ ((if (msduActCheck cfg u.da u.sa).1 then [u.packet] else []) ++
                more.indicated))
              (s.out.forwarded ++ ((if (msduActCheck cfg u.da u.sa).2 then [u.packet] else []) ++
                more.forwarded))) := by
          intro more
          unfold AmsduState.deliver RxOut.give
          split <;> split <;> simp
        simp only
        rw [← hout]
        rcases moveToNext_cases (s := s.deliver cfg u) h haLen with
          ⟨hfull, hmove⟩ | ⟨hroom, hnil, hmove⟩ | ⟨t, hroom, hmove, hstored, hleft, hcount, hsame, -⟩
        · rw [search_done (hstep.trans hmove), if_pos (Or.inl hfull)]
          simp
        · rw [search_done (hstep.trans hmove), amsduLoop_more hroom, hnil, amsduLoop_nil]
          simp
        · have hlt : (rest.drop u.padLen).length < k := by
            rw [length_append, Subframe.length_bytes] at hk
            rw [length_drop]
            omega
          rw [search_next (hstep.trans hmove), amsduLoop_more hroom, ← hcount, ← hsame]
          rw [← hcount] at hroom
          exact ih hstored hleft hroom hlt

lemma amsduLoop_fuel {nr : ℕ} (hk : p.length ≤ k) :
    amsduLoop cfg a (k + 1) nr p = amsduLoop cfg a k nr p := by
  induction k generalizing p nr with
  | zero =>
    rw [length_eq_zero_iff.1 (Nat.le_zero.1 hk), amsduLoop_nil, amsduLoop_nil]
  | succ k ih =>
    cases hsplit : splitSubframe p with
    | none => rw [amsduLoop_end hsplit, amsduLoop_end hsplit]
    | some r =>
      obtain ⟨u, rest⟩ := r
      have hlt : (rest.drop u.padLen).length ≤ k := by
        rw [(splitSubframe_some hsplit).1, length_append, Subframe.length_bytes] at hk
        rw [length_drop]
        omega
      have hunroll := fun k => amsduLoop_subframe cfg a hsplit k ⟨0, 0, nr, {}⟩
      simp only at hunroll
      rw [hunroll (k + 1), hunroll k, ih hlt]

end

section

variable (cfg : RecvCfg) (alloc : ℕ → Bool) (f : RecvFrame)

lemma recvframePull_drop (sz : ℕ) :
    ∃ n ≤ f.data.length, (recvframePull f sz).data = f.data.drop n := by
  unfold recvframePull
  split
  · exact ⟨0, Nat.zero_le _, rfl⟩
  · exact ⟨sz, by omega, rfl⟩

lemma amsduFrame_stored :
    Stores (byteAt f.data) (f.data.length - (pullHeader f).data.length) (amsduFrame f).data ∧
      f.data.length - (pullHeader f).data.length + (amsduFrame f).data.length ≤
        f.data.length := by
  obtain ⟨n, hn, hfirst⟩ := recvframePull_drop f f.attrib.hdrlen
  obtain ⟨m, hm, hsecond⟩ :=
    recvframePull_drop (recvframePull f f.attrib.hdrlen) f.attrib.ivLen
  have hdata : (pullHeader f).data = f.data.drop (n + m) := by
    unfold pullHeader
    rw [hsecond, hfirst, drop_drop]
  rw [hfirst, length_drop] at hm
  have hfront : ∃ j ≤ (pullHeader f).data.length,
      (amsduFrame f).data = (pullHeader f).data.take j := by
    unfold amsduFrame recvframePullTail
    split
    · split
      · exact ⟨_, le_rfl, take_length.symm⟩
      · exact ⟨_, Nat.sub_le _ _, rfl⟩
    · exact ⟨_, le_rfl, take_length.symm⟩
  obtain ⟨j, hj, hbody⟩ := hfront
  rw [hdata, length_drop] at hj ⊢
  have hstart : f.data.length - (f.data.length - (n + m)) = n + m := by omega
  have hstored := stores_byteAt_drop f.data (n + m)
  rw [← take_append_drop j (f.data.drop (n + m)), ← hdata, ← hbody, hdata] at hstored
  rw [hstart]
  refine ⟨(stores_append.1 hstored).1, ?_⟩
  rw [hbody, hdata, length_take, length_drop]
  omega

theorem amsduToMsduAt_eq :
    ∃ rounds, (amsduToMsduAt cfg (fun _ => true) f rounds).val = some (amsduToMsdu cfg f) := by
  refine ⟨(amsduFrame f).data.length + 1, ?_⟩
  unfold amsduToMsduAt
  rw [amsdu_search_eq (amsduFrame_stored f).1 rfl (show 0 < maxSubframeCount by decide)
    (Nat.lt_succ_self _),
    amsduLoop_fuel le_rfl]
  rfl

end

/-- A station that takes A-MSDUs that are not protected against tampering with their addresses. -/
def sppCfg : RecvCfg where
  mode := .sta
  macAddr := [2, 0, 0, 0, 0, 1]
  linked := true
  auth := .ieee8021X
  privacyAlgrthm := .aes
  grpPrivacy := .aes
  amsduNonSpp := false
  apIsolate := false
  asocListCnt := 0
  fwdAlloc := true
  stas := []
  enableRxsc := false

/-- A subframe for the address `2:0:0:0:0:9` in a frame to `2:0:0:0:0:1`. -/
def wrongDaFrame : RecvFrame where
  attrib := { toFrDs := 1, ra := [2, 0, 0, 0, 0, 1], amsdu := true }
  psta := none
  keytrack := 0
  data := [2, 0, 0, 0, 0, 9, 2, 0, 0, 0, 0, 3, 0, 1, 7]
  room := 0

end Rtl8831.Core
