import Rtl8831.Core.Defrag

/-!
# Packet-number caches of the receive path

`recv_ucast_pn_decache` remembers an IV per station and TID,
`recv_bcast_pn_decache` a packet number per key id.  Both compare with
`VALID_PN_CHK`, which looks at bit 47 of a 64-bit difference; only the second
drops a frame for what it finds.
-/

namespace Rtl8831.Core

open Lib Function List

/-- The ciphers that `rtw_iv_to_pn` knows. -/
def SecurityType.hasPn : SecurityType → Bool
  | .tkip | .aes | .gcmp | .ccmp256 | .gcmp256 => true
  | _ => false

/-- `rtw_iv_to_pn`, read as `RTW_GET_LE64` reads its result. -/
def ivToPn (iv : List UInt8) (encrypt : SecurityType) : ℕ :=
  let low :=
    if encrypt = .tkip then (byteAt iv 2).toNat + 256 * (byteAt iv 0).toNat else le16At iv 0
  low + 65536 * le16At iv 4 + 4294967296 * le16At iv 6

def ivKeyId (iv : List UInt8) : Fin 4 := Fin.ofNat 4 ((byteAt iv 3).toNat / 64)

/-- `PN_LESS_CHK` on `u64` values. -/
def pnLessChk (a b : ℕ) : Bool := ((((a : ℤ) - b) % 18446744073709551616).toNat).testBit 47

def validPnChk (new old : ℕ) : Bool := decide (old = 0) || pnLessChk old new

def RecvFrame.iv (f : RecvFrame) : List UInt8 := slice f.data f.attrib.hdrlen 8

def RecvFrame.pn (f : RecvFrame) : ℕ := ivToPn (f.data.drop f.attrib.hdrlen) f.attrib.encrypt

/-- `recv_ucast_pn_decache` on the IVs of the frame's station; `none` is
`_FAIL`.  A packet number that is not legal is not acted upon. -/
def recvUcastPnDecache (iv : ℕ → List UInt8) (f : RecvFrame) : Option (ℕ → List UInt8) :=
  if 15 < f.attrib.priority then none
  else if f.attrib.encrypt.hasPn then
    if validPnChk f.pn (ivToPn (iv f.attrib.priority) f.attrib.encrypt) then
      some (update iv f.attrib.priority f.iv)
    else some iv
  else some iv

/-- `recv_bcast_pn_decache` on `iv_seq`. -/
def recvBcastPnDecache (isSta : Bool) (ivSeq : Fin 4 → ℕ) (f : RecvFrame) :
    Option (Fin 4 → ℕ) :=
  if f.attrib.encrypt.hasPn && isSta then
    let keyId := ivKeyId (f.data.drop f.attrib.hdrlen)
    if validPnChk f.pn (ivSeq keyId) then some (update ivSeq keyId f.pn) else none
  else some ivSeq

structure PnCaches where
  iv : ℕ → ℕ → List UInt8
  ivSeq : Fin 4 → ℕ

/-- The packet-number part of `validate_recv_data_frame` for a frame of a
station; `none` drops the frame. -/
def pnDecache (isSta : Bool) (c : PnCaches) (sta : ℕ) (f : RecvFrame) : Option PnCaches :=
  if isMcast f.attrib.ra then
    (recvBcastPnDecache isSta c.ivSeq f).map fun ivSeq => { c with ivSeq }
  else
    (recvUcastPnDecache (c.iv sta) f).map fun iv => { c with iv := update c.iv sta iv }

def pnStep (isSta : Bool) (c : PnCaches) (e : ℕ × RecvFrame) : PnCaches :=
  (pnDecache isSta c e.1 e.2).getD c

lemma validPnChk_iff {new old : ℕ} (hpos : 0 < new) (hnew : new < 2 ^ 47)
    (hold : old < 2 ^ 47) : validPnChk new old = true ↔ old < new := by
  have hpow : (2 : ℕ) ^ 47 = 140737488355328 := rfl
  have hbit : pnLessChk old new = true ↔ old < new := by
    rw [pnLessChk, Nat.testBit_eq_decide_div_mod_eq, decide_eq_true_iff]
    rw [hpow] at hnew hold ⊢
    omega
  simp only [validPnChk, Bool.or_eq_true, decide_eq_true_eq, hbit]
  omega

lemma byteAt_take {p : List UInt8} {n i : ℕ} (h : i < n) : byteAt (p.take n) i = byteAt p i := by
  simp [byteAt, getD_eq_getElem?_getD, getElem?_take_of_lt h]

lemma ivToPn_iv (f : RecvFrame) : ivToPn f.iv f.attrib.encrypt = f.pn := by
  simp only [RecvFrame.pn, RecvFrame.iv, ivToPn, slice, le16At]
  simp only [byteAt_take, show (0 : ℕ) < 8 by decide, show (2 : ℕ) < 8 by decide,
    show (0 + 1 : ℕ) < 8 by decide, show (4 : ℕ) < 8 by decide, show (4 + 1 : ℕ) < 8 by decide,
    show (6 : ℕ) < 8 by decide, show (6 + 1 : ℕ) < 8 by decide]

def RecvFrame.keyId (f : RecvFrame) : Fin 4 := ivKeyId (f.data.drop f.attrib.hdrlen)

def PnCaches.setIv (c : PnCaches) (sta tid : ℕ) (iv : List UInt8) : PnCaches :=
  { c with iv := update c.iv sta (update (c.iv sta) tid iv) }

def PnCaches.cachedPn (c : PnCaches) (sta tid : ℕ) (alg : SecurityType) : ℕ :=
  ivToPn (c.iv sta tid) alg

variable {alg : SecurityType} {c : PnCaches}

lemma pnDecache_group {sta : ℕ} {f : RecvFrame}
    (hm : isMcast f.attrib.ra = true) (henc : f.attrib.encrypt.hasPn = true) :
    pnDecache true c sta f =
      if validPnChk f.pn (c.ivSeq f.keyId) then
        some { c with ivSeq := update c.ivSeq f.keyId f.pn }
      else none := by
  simp only [pnDecache, hm, ↓reduceIte, recvBcastPnDecache, henc, Bool.and_self, RecvFrame.keyId]
  by_cases hv : validPnChk f.pn (c.ivSeq (ivKeyId (f.data.drop f.attrib.hdrlen))) = true
  · simp [hv]
  · simp [hv]

lemma pnDecache_unicast {isSta : Bool} {c : PnCaches} {sta : ℕ} {f : RecvFrame}
    (hm : isMcast f.attrib.ra = false) (henc : f.attrib.encrypt.hasPn = true) :
    pnDecache isSta c sta f =
      if 15 < f.attrib.priority then none
      else if validPnChk f.pn (c.cachedPn sta f.attrib.priority f.attrib.encrypt) then
        some (c.setIv sta f.attrib.priority f.iv)
      else some c := by
  simp only [pnDecache, hm, Bool.false_eq_true, ↓reduceIte, recvUcastPnDecache, henc,
    PnCaches.cachedPn, PnCaches.setIv]
  by_cases htid : 15 < f.attrib.priority
  · simp [htid]
  · by_cases hv : validPnChk f.pn
        (ivToPn (c.iv sta f.attrib.priority) f.attrib.encrypt) = true
    · simp [htid, hv]
    · simp [htid, hv]

structure PnInRange (f : RecvFrame) : Prop where
  hasPn : f.attrib.encrypt.hasPn = true
  pos : 0 < f.pn
  lt : f.pn < 2 ^ 47

lemma pnStep_group (sta : ℕ) {f : RecvFrame} (hm : isMcast f.attrib.ra = true)
    (hf : PnInRange f) (hc : c.ivSeq f.keyId < 2 ^ 47) :
    ((pnDecache true c sta f).isSome ↔ c.ivSeq f.keyId < f.pn) ∧
    (pnStep true c (sta, f)).iv = c.iv ∧
    (pnStep true c (sta, f)).ivSeq =
      if c.ivSeq f.keyId < f.pn then update c.ivSeq f.keyId f.pn else c.ivSeq := by
  have hvalid := validPnChk_iff hf.pos hf.lt hc
  rw [pnStep, pnDecache_group hm hf.hasPn]
  by_cases hlt : c.ivSeq f.keyId < f.pn
  · simp [hvalid.2 hlt, hlt]
  · have hv : validPnChk f.pn (c.ivSeq f.keyId) = false := by simpa [hlt] using hvalid
    simp [hv, hlt]

lemma pnStep_unicast (c : PnCaches) (sta : ℕ) {f : RecvFrame}
    (hm : isMcast f.attrib.ra = false) (hf : PnInRange f)
    (hc : c.cachedPn sta f.attrib.priority f.attrib.encrypt < 2 ^ 47) :
    ((pnDecache true c sta f).isSome ↔ f.attrib.priority ≤ 15) ∧
    (pnStep true c (sta, f)).ivSeq = c.ivSeq ∧
    ∀ sta' tid, (pnStep true c (sta, f)).cachedPn sta' tid f.attrib.encrypt =
      if sta' = sta ∧ tid = f.attrib.priority ∧ f.attrib.priority ≤ 15 then
        max (c.cachedPn sta' tid f.attrib.encrypt) f.pn
      else c.cachedPn sta' tid f.attrib.encrypt := by
  have hvalid := validPnChk_iff hf.pos hf.lt hc
  rw [pnStep, pnDecache_unicast hm hf.hasPn]
  by_cases htid : 15 < f.attrib.priority
  · have hnot : ¬f.attrib.priority ≤ 15 := by omega
    simp [htid, hnot]
  · have hle : f.attrib.priority ≤ 15 := by omega
    by_cases hlt : c.cachedPn sta f.attrib.priority f.attrib.encrypt < f.pn
    · simp only [htid, ↓reduceIte, hvalid.2 hlt, Option.isSome_some, hle, Option.getD_some,
        and_true]
      refine ⟨trivial, rfl, ?_⟩
      intro sta' tid
      by_cases hsta : sta' = sta
      · subst hsta
        by_cases ht : tid = f.attrib.priority
        · subst ht
          simp only [PnCaches.cachedPn, PnCaches.setIv, update_self, and_self,
            ↓reduceIte, ivToPn_iv]
          exact (max_eq_right hlt.le).symm
        · simp [PnCaches.cachedPn, PnCaches.setIv, ht]
      · simp [PnCaches.cachedPn, PnCaches.setIv, hsta]
    · have hv : validPnChk f.pn (c.cachedPn sta f.attrib.priority f.attrib.encrypt) = false := by
        simpa [hlt] using hvalid
      simp only [htid, ↓reduceIte, hv, Bool.false_eq_true, Option.isSome_some, hle,
        Option.getD_some, and_true]
      refine ⟨trivial, trivial, ?_⟩
      intro sta' tid
      split_ifs with hsame
      · obtain ⟨rfl, rfl⟩ := hsame
        exact (max_eq_left (not_lt.1 hlt)).symm
      · rfl

def groupAccepted (keyId : Fin 4) : PnCaches → List (ℕ × RecvFrame) → List ℕ
  | _, [] => []
  | c, e :: es =>
    (if isMcast e.2.attrib.ra && decide (e.2.keyId = keyId) &&
        (pnDecache true c e.1 e.2).isSome then [e.2.pn] else []) ++
      groupAccepted keyId (pnStep true c e) es

def PnCaches.InRange (alg : SecurityType) (c : PnCaches) : Prop :=
  (∀ keyId, c.ivSeq keyId < 2 ^ 47) ∧ ∀ sta tid, c.cachedPn sta tid alg < 2 ^ 47

def UnderKey (alg : SecurityType) (e : ℕ × RecvFrame) : Prop :=
  PnInRange e.2 ∧ (isMcast e.2.attrib.ra = false → e.2.attrib.encrypt = alg)

lemma PnCaches.InRange.step {e : ℕ × RecvFrame}
    (h : c.InRange alg) (he : UnderKey alg e) : (pnStep true c e).InRange alg := by
  cases hm : isMcast e.2.attrib.ra with
  | true =>
    obtain ⟨-, hiv, hseq⟩ := pnStep_group e.1 hm he.1 (h.1 _)
    refine ⟨?_, ?_⟩
    · intro keyId
      change (pnStep true c (e.1, e.2)).ivSeq keyId < _
      rw [hseq]
      split_ifs
      · by_cases hk : keyId = e.2.keyId
        · rw [hk, update_self]
          exact he.1.lt
        · rw [update_of_ne hk]
          exact h.1 keyId
      · exact h.1 keyId
    · intro sta tid
      rw [PnCaches.cachedPn, show (pnStep true c e).iv = c.iv from hiv]
      exact h.2 sta tid
  | false =>
    have halg := he.2 hm
    obtain ⟨-, hseq, hiv⟩ := pnStep_unicast c e.1 hm he.1
      (by rw [halg]; exact h.2 _ _)
    refine ⟨?_, ?_⟩
    · intro keyId
      rw [show (pnStep true c e).ivSeq = c.ivSeq from hseq]
      exact h.1 keyId
    · intro sta tid
      have hcached := hiv sta tid
      rw [halg] at hcached
      change (pnStep true c (e.1, e.2)).cachedPn sta tid alg < _
      rw [hcached]
      split_ifs
      · exact max_lt (h.2 sta tid) he.1.lt
      · exact h.2 sta tid

lemma groupAccepted_increasing {es : List (ℕ × RecvFrame)} (hc : c.InRange alg)
    (hes : ∀ e ∈ es, UnderKey alg e)
    (keyId : Fin 4) :
    (∀ x ∈ groupAccepted keyId c es, c.ivSeq keyId < x) ∧
      (groupAccepted keyId c es).Pairwise (· < ·) := by
  induction es generalizing c with
  | nil => simp [groupAccepted]
  | cons e es ih =>
    have he := hes e mem_cons_self
    obtain ⟨habove, hpair⟩ := ih (hc.step he) fun e' he' => hes e' (mem_cons_of_mem _ he')
    simp only [groupAccepted]
    split_ifs with hacc
    · simp only [Bool.and_eq_true, decide_eq_true_eq] at hacc
      obtain ⟨⟨hm, hkey⟩, hsome⟩ := hacc
      obtain ⟨hiff, -, hseq⟩ := pnStep_group e.1 hm he.1 (hc.1 _)
      have hlt := hiff.1 hsome
      have hstored : (pnStep true c e).ivSeq keyId = e.2.pn := by
        rw [show (pnStep true c e).ivSeq = _ from hseq, if_pos hlt, ← hkey,
          update_self]
      rw [hstored] at habove
      rw [hkey] at hlt
      refine ⟨?_, pairwise_cons.2 ⟨habove, hpair⟩⟩
      intro x hx
      rcases mem_cons.1 hx with rfl | hx
      · exact hlt
      · exact hlt.trans (habove x hx)
    · refine ⟨?_, hpair⟩
      intro x hx
      refine lt_of_le_of_lt ?_ (habove x hx)
      -- a stored number is only replaced by a greater one
      cases hm : isMcast e.2.attrib.ra with
      | true =>
        obtain ⟨-, -, hseq⟩ := pnStep_group e.1 hm he.1 (hc.1 _)
        rw [show (pnStep true c e).ivSeq = _ from hseq]
        split_ifs with hlt
        · by_cases hk : keyId = e.2.keyId
          · rw [hk, update_self]
            exact hlt.le
          · rw [update_of_ne hk]
        · exact le_rfl
      | false =>
        obtain ⟨-, hseq, -⟩ := pnStep_unicast c e.1 hm he.1
          (by rw [he.2 hm]; exact hc.2 _ _)
        rw [show (pnStep true c e).ivSeq = c.ivSeq from hseq]

/-- Replay protection of a station under one key, over every run of frames
whose packet numbers are in range: group-addressed frames are accepted
exactly when their packet number exceeds the stored one; individually
addressed frames are never refused for their packet number, but the cached
one only grows. -/
theorem pn_replay_protection (alg : SecurityType) (c : PnCaches) (hc : c.InRange alg)
    (es : List (ℕ × RecvFrame)) (hes : ∀ e ∈ es, UnderKey alg e) :
    (∀ xs sta f ys, es = xs ++ (sta, f) :: ys →
      let c' := run (pnStep true) c xs
      (isMcast f.attrib.ra = true →
        ((pnDecache true c' sta f).isSome ↔ c'.ivSeq f.keyId < f.pn) ∧
        (pnStep true c' (sta, f)).ivSeq f.keyId = max (c'.ivSeq f.keyId) f.pn) ∧
      (isMcast f.attrib.ra = false →
        ((pnDecache true c' sta f).isSome ↔ f.attrib.priority ≤ 15) ∧
        (f.attrib.priority ≤ 15 → (pnStep true c' (sta, f)).cachedPn sta f.attrib.priority alg =
          max (c'.cachedPn sta f.attrib.priority alg) f.pn))) ∧
    ∀ keyId, (groupAccepted keyId c es).Pairwise (· < ·) := by
  refine ⟨?_, fun keyId => (groupAccepted_increasing hc hes keyId).2⟩
  rintro xs sta f ys rfl
  have hrange : (run (pnStep true) c xs).InRange alg := by
    have hxs : ∀ e ∈ xs, UnderKey alg e := fun e he => hes e (mem_append_left _ he)
    clear hes
    induction xs generalizing c with
    | nil => exact hc
    | cons e xs ih =>
      exact ih _ (hc.step (hxs e mem_cons_self))
        fun e' he' => hxs e' (mem_cons_of_mem _ he')
  have hf := hes (sta, f) (by simp)
  refine ⟨?_, ?_⟩
  · intro hm
    obtain ⟨hiff, -, hseq⟩ := pnStep_group sta hm hf.1 (hrange.1 _)
    refine ⟨hiff, ?_⟩
    rw [hseq]
    split_ifs with hlt
    · rw [update_self, max_eq_right hlt.le]
    · exact (max_eq_left (not_lt.mp hlt)).symm
  · intro hm
    have halg : f.attrib.encrypt = alg := hf.2 hm
    obtain ⟨hiff, -, hiv⟩ := pnStep_unicast (run (pnStep true) c xs) sta hm hf.1
      (by rw [halg]; exact hrange.2 _ _)
    refine ⟨hiff, ?_⟩
    intro htid
    have hcached := hiv sta f.attrib.priority
    rw [halg] at hcached
    rw [hcached, if_pos ⟨rfl, rfl, htid⟩]

def ccmpFrame (ra : List UInt8) (pn : UInt8) : RecvFrame where
  attrib := { ra, hdrlen := 24, encrypt := .aes, privacy := true }
  psta := some 0
  keytrack := 0
  data := replicate 24 0 ++ [pn, 0, 0, 32, 0, 0, 0, 0] ++ [170, 170, 3]
  room := 0

def emptyCaches : PnCaches := { iv := fun _ _ => replicate 8 0, ivSeq := fun _ => 0 }

/-- The same individually addressed frame is accepted twice. -/
theorem pn_replay_accepted :
    ¬∀ xs sta f ys, [(0, ccmpFrame [2, 0, 0, 0, 0, 1] 5), (0, ccmpFrame [2, 0, 0, 0, 0, 1] 5)] =
        xs ++ (sta, f) :: ys →
      (pnDecache true (run (pnStep true) emptyCaches xs) sta f).isSome = true →
      (run (pnStep true) emptyCaches xs).cachedPn sta f.attrib.priority .aes < f.pn := by
  intro h
  have hlt := h [(0, ccmpFrame [2, 0, 0, 0, 0, 1] 5)] 0 (ccmpFrame [2, 0, 0, 0, 0, 1] 5) [] rfl
    (by decide)
  exact absurd hlt (by decide)

theorem pn_replay_protection_run :
    (groupAccepted 0 emptyCaches
      [(0, ccmpFrame [255, 255, 255, 255, 255, 255] 5),
        (0, ccmpFrame [255, 255, 255, 255, 255, 255] 5)]).Pairwise (· < ·) := by
  have hzero : ivToPn (replicate 8 0) .aes < 2 ^ 47 := by decide
  refine (pn_replay_protection .aes emptyCaches ⟨fun _ => Nat.two_pow_pos 47, fun _ _ => hzero⟩
    _ ?_).2 0
  intro e he
  have he' : e = (0, ccmpFrame [255, 255, 255, 255, 255, 255] 5) := by simpa using he
  subst he'
  exact ⟨⟨by decide, by decide, by decide⟩, fun _ => rfl⟩

end Rtl8831.Core
