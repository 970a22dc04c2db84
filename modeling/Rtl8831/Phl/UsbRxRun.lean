import Rtl8831.Lib.Tally
import Rtl8831.Phl.UsbRx

/-!
# No RX buffer is lost or shared

Every access moves a buffer from one place to the next, but for two: a failed
query of the descriptor size in `_phl_in_token_usb`, and a buffer of another
pipe that `phl_rx_usb` takes after one with packets.
-/

namespace Rtl8831.Phl

open Lib Function List

namespace UsbRx

variable {β : Type*} [DecidableEq β] {s : UsbRx β} {pool : List β} {b c : β}

def Safe (s : UsbRx β) : UsbRxEvent → Prop
  | .hand i query =>
    match s.hands[i]? with
    | some ⟨_, .token _⟩ => query = true
    | _ => True
  | .rxParse _ =>
    match s.rx with
    | .parse phlRx b => s.pipeIdx b = .other → phlRx = false
    | _ => True
  | _ => True

structure Inv (pool : List β) (s : UsbRx β) : Prop where
  places : ∀ b, s.places b = pool.count b
  refs : ∀ b, s.rxPkts.count (some b) = s.pktcnt b
  urbs : ∀ b, s.sends.count b + s.urbs.count b ≤ s.busy.count b
  pkts : s.rxPkts.length + s.rxPktIdle = maxPhlRingRxPktNum

@[simp] lemma held_zero : held 0 = 0 := rfl

lemma held_of_pos {n : ℕ} (h : 0 < n) : held n = 1 := if_pos h

lemma Inv.init (pool : List β) : (UsbRx.init pool).Inv pool where
  places := by simp [UsbRx.places, UsbRx.init, parsed]
  refs := by simp [UsbRx.init]
  urbs := by simp [UsbRx.init]
  pkts := rfl

lemma Inv.pktcnt_eq_zero (h : s.Inv pool) (hpool : pool.Nodup)
    (hb : 0 < (s.hands.map Hand.buf).count b + s.parsed.count b) : s.pktcnt b = 0 := by
  have hplaces := h.places b
  have hone := nodup_iff_count_le_one.1 hpool b
  unfold UsbRx.places at hplaces
  by_contra hne
  rw [held_of_pos (Nat.pos_of_ne_zero hne)] at hplaces
  omega

lemma releaseRxbuf_of_zero (hb : s.pktcnt b = 0) :
    s.phlReleaseRxbufUsb b = { s with hands := s.hands ++ [⟨b, .pushIdle⟩] } := by
  have hupd : update s.pktcnt b 0 = s.pktcnt := by
    rw [← hb]
    exact update_eq_self b s.pktcnt
  unfold phlReleaseRxbufUsb
  simp [hb, hupd]

section

variable (h : s.Inv pool)
include h

lemma Inv.inToken (pipe : InPipe) : (s.phlInTokenUsb pipe).Inv pool := by
  unfold phlInTokenUsb
  split
  case h_1 => exact h
  case h_2 b idle heq =>
    refine { h with places := fun c => ?_ }
    have hc := h.places c
    unfold UsbRx.places at hc ⊢
    rw [heq, count_cons_tally] at hc
    rw [count_map_concat_tally]
    simp only [parsed] at hc ⊢
    omega

lemma Inv.hand_swap {i : ℕ} {stage : HandStage}
    (hi : s.hands[i]? = some ⟨b, stage⟩) (stage' : HandStage) :
    Inv pool { s with hands := s.hands.eraseIdx i ++ [⟨b, stage'⟩] } := by
  refine { h with places := fun c => ?_ }
  have hc := h.places c
  have hhands := count_map_eraseIdx_tally Hand.buf hi c
  unfold UsbRx.places at hc ⊢
  rw [count_map_concat_tally]
  simp only [parsed] at hc hhands ⊢
  omega

lemma Inv.hand_release (hpool : pool.Nodup) {i : ℕ} {stage : HandStage}
    (hi : s.hands[i]? = some ⟨b, stage⟩) :
    Inv pool (phlReleaseRxbufUsb { s with hands := s.hands.eraseIdx i } b) := by
  have hhands := count_map_eraseIdx_tally Hand.buf hi b
  rw [if_pos rfl] at hhands
  have hzero : s.pktcnt b = 0 := h.pktcnt_eq_zero hpool (by omega)
  rw [releaseRxbuf_of_zero (s := { s with hands := s.hands.eraseIdx i }) hzero]
  exact h.hand_swap hi .pushIdle

lemma Inv.handStep (hpool : pool.Nodup) {i : ℕ} {query : Bool}
    (hsafe : s.Safe (.hand i query)) : (s.handStep i query).Inv pool := by
  unfold UsbRx.handStep
  split
  case h_1 => exact h
  case h_2 b stage hi =>
    have hhands := count_map_eraseIdx_tally Hand.buf hi
    dsimp only at hhands ⊢
    split
    case h_1 pipe =>
      have hquery : query = true := by
        rw [Safe, hi] at hsafe
        exact hsafe
      rw [if_pos hquery]
      refine { h with places := fun c => ?_, urbs := fun c => ?_ }
      · have hc := h.places c
        have hhc := hhands c
        unfold UsbRx.places at hc ⊢
        rw [count_concat_tally]
        simp only [parsed] at hc ⊢
        omega
      · have hc := h.urbs c
        dsimp only
        rw [count_concat_tally, count_concat_tally]
        omega
    case h_2 ok len =>
      cases ok with
      | true =>
        refine { h with places := fun c => ?_ }
        have hc := h.places c
        have hhc := hhands c
        unfold UsbRx.places at hc ⊢
        rw [if_pos rfl]
        rw [count_concat_tally]
        simp only [parsed] at hc ⊢
        omega
      | false => exact h.hand_release hpool hi
    case h_3 => exact h.hand_release hpool hi
    case h_4 =>
      refine { h with places := fun c => ?_ }
      have hc := h.places c
      have hhc := hhands c
      unfold UsbRx.places at hc ⊢
      rw [count_concat_tally]
      simp only [parsed] at hc ⊢
      omega

lemma Inv.sendStep (i : ℕ) (result : SendResult) :
    (s.sendStep i result).Inv pool := by
  unfold UsbRx.sendStep
  split
  case h_1 => exact h
  case h_2 b hi =>
    have hsends := count_eraseIdx_tally hi
    dsimp only
    split
    case h_1 =>
      refine { h with urbs := fun c => ?_ }
      have hc := h.urbs c
      have hsc := hsends c
      dsimp only
      rw [count_concat_tally]
      omega
    case h_2 =>
      refine { h with urbs := fun c => ?_ }
      have hc := h.urbs c
      have hsc := hsends c
      change (s.sends.eraseIdx i).count c + s.urbs.count c ≤ s.busy.count c
      omega
    case h_3 =>
      have hmem : b ∈ s.busy := by
        have hb := h.urbs b
        have hsb := hsends b
        rw [if_pos rfl] at hsb
        exact count_pos_iff.1 (by omega)
      have hbusy := count_erase_tally hmem
      refine { h with places := fun c => ?_, urbs := fun c => ?_ }
      · have hc := h.places c
        have hbc := hbusy c
        unfold UsbRx.places at hc ⊢
        rw [count_map_concat_tally]
        simp only [parsed] at hc ⊢
        omega
      · have hc := h.urbs c
        have hbc := hbusy c
        have hsc := hsends c
        change (s.sends.eraseIdx i).count c + s.urbs.count c ≤ (s.busy.erase b).count c
        omega

lemma Inv.pendRxbuf (i : ℕ) (ok : Bool) (len : ℤ) :
    (s.phlPendRxbufUsb i ok len).Inv pool := by
  unfold phlPendRxbufUsb
  split
  case h_1 => exact h
  case h_2 b hi =>
    have hurbs := count_eraseIdx_tally hi
    have hmem : b ∈ s.busy := by
      have hb := h.urbs b
      have hub := hurbs b
      rw [if_pos rfl] at hub
      exact count_pos_iff.1 (by omega)
    have hne : s.busy.isEmpty = false := by
      rw [isEmpty_eq_false_iff]
      exact ne_nil_of_mem hmem
    have hbusy := count_erase_tally hmem
    rw [hne, if_neg Bool.false_ne_true]
    refine { h with places := fun c => ?_, urbs := fun c => ?_ }
    · have hc := h.places c
      have hbc := hbusy c
      unfold UsbRx.places at hc ⊢
      rw [count_map_concat_tally]
      simp only [parsed] at hc ⊢
      omega
    · have hc := h.urbs c
      have hbc := hbusy c
      have huc := hurbs c
      change s.sends.count c + (s.urbs.eraseIdx i).count c ≤ (s.busy.erase b).count c
      omega

lemma Inv.rxPop : s.rxPop.Inv pool := by
  unfold UsbRx.rxPop
  split
  case h_1 phlRx hrx hpend =>
    refine { h with places := fun c => ?_ }
    have hc := h.places c
    unfold UsbRx.places at hc ⊢
    simpa [parsed, hrx] using hc
  case h_2 phlRx b pend hrx hpend =>
    refine { h with places := fun c => ?_ }
    have hc := h.places c
    unfold UsbRx.places at hc ⊢
    simp only [parsed, hrx, hpend, count_cons_tally, count_nil] at hc ⊢
    omega
  case h_3 => exact h

end

lemma length_phlGetSingleRx (n : ℕ) (transferLen : ℤ) (turns : ℕ → RxTurn) :
    (phlGetSingleRx n transferLen turns).length ≤ n := by
  induction n generalizing transferLen turns with
  | zero => exact Nat.le_refl 0
  | succ n ih =>
    unfold phlGetSingleRx
    split
    · exact Nat.zero_le _
    · dsimp only
      split
      · exact Nat.succ_le_succ (ih _ _)
      · exact Nat.succ_le_succ (Nat.zero_le n)

lemma count_refs (refs : List Bool) (b c : β) :
    (refs.map fun r : Bool => if r then some b else none).count (some c) =
      if b = c then refs.count true else 0 := by
  induction refs with
  | nil => simp
  | cons r refs ih =>
    rw [map_cons, count_cons, ih]
    by_cases hbc : b = c <;> cases r <;> simp [hbc]

lemma Inv.rxParse (h : s.Inv pool) (hpool : pool.Nodup) {turns : ℕ → RxTurn}
    (hsafe : s.Safe (.rxParse turns)) : (s.rxParse turns).Inv pool := by
  unfold UsbRx.rxParse
  split
  case h_1 phlRx b hrx =>
    have hparsed : s.parsed = [b] := by simp [parsed, hrx]
    have hzero : s.pktcnt b = 0 := h.pktcnt_eq_zero hpool (by simp [hparsed])
    split
    case h_1 =>
      have hlen := length_phlGetSingleRx s.rxPktIdle (s.transferLen b) turns
      generalize phlGetSingleRx s.rxPktIdle (s.transferLen b) turns = refs at hlen ⊢
      have hle : refs.count true ≤ refs.length := count_le_length
      have hpkts := h.pkts
      have hmax : maxPhlRingRxPktNum = 4096 := rfl
      have hpkts' : (s.rxPkts ++ refs.map fun r : Bool => if r then some b else none).length +
          (s.rxPktIdle - refs.length) = maxPhlRingRxPktNum := by
        rw [length_append, length_map]
        omega
      dsimp only
      split
      case isTrue hnone =>
        refine { h with places := fun c => ?_, refs := fun c => ?_, pkts := hpkts' }
        · have hc := h.places c
          unfold UsbRx.places at hc ⊢
          rw [hparsed, count_cons_tally] at hc
          rw [count_map_concat_tally]
          simp only [parsed, count_nil] at hc ⊢
          omega
        · dsimp only
          rw [count_append, h.refs, count_refs, hnone, ite_self, Nat.add_zero]
      case isFalse hsome =>
        have hmod : refs.count true % 65536 = refs.count true := Nat.mod_eq_of_lt (by omega)
        rw [hmod]
        refine { h with places := fun c => ?_, refs := fun c => ?_, pkts := hpkts' }
        · have hc := h.places c
          unfold UsbRx.places at hc ⊢
          rw [hparsed, count_cons_tally] at hc
          simp only [parsed, count_nil] at hc ⊢
          by_cases hbc : b = c
          · subst hbc
            rw [hzero, held_zero, if_pos rfl] at hc
            rw [update_self, held_of_pos (Nat.pos_of_ne_zero hsome)]
            omega
          · rw [if_neg hbc] at hc
            rw [update_of_ne (Ne.symm hbc)]
            omega
        · dsimp only
          rw [count_append, h.refs, count_refs]
          by_cases hbc : b = c
          · subst hbc
            rw [update_self, if_pos rfl, hzero, Nat.zero_add]
          · rw [if_neg hbc, update_of_ne (Ne.symm hbc), Nat.add_zero]
    case h_2 hpipe =>
      have hphlRx : phlRx = false := by
        rw [Safe, hrx] at hsafe
        exact hsafe hpipe
      subst hphlRx
      rw [if_neg Bool.false_ne_true]
      refine { h with places := fun c => ?_ }
      have hc := h.places c
      unfold UsbRx.places at hc ⊢
      rw [hparsed, count_cons_tally] at hc
      rw [count_map_concat_tally]
      simp only [parsed, count_nil] at hc ⊢
      omega
  case h_2 => exact h

lemma Inv.recycle (h : s.Inv pool) (i : ℕ) : (s.phlRecycleRxBuf i).Inv pool := by
  unfold phlRecycleRxBuf
  split
  case h_1 => exact h
  case h_2 rxbufPtr hi =>
    have hcount := count_eraseIdx_tally hi
    have hlt : i < s.rxPkts.length := (List.getElem?_eq_some_iff.1 hi).1
    have hpkts : (s.rxPkts.eraseIdx i).length + (s.rxPktIdle + 1) = maxPhlRingRxPktNum := by
      rw [length_eraseIdx_of_lt hlt, ← h.pkts]
      omega
    cases rxbufPtr with
    | none =>
      refine { h with refs := fun c => ?_, pkts := hpkts }
      have hc := hcount (some c)
      rw [if_neg (Option.some_ne_none c).symm, Nat.add_zero, h.refs] at hc
      exact hc.symm
    | some b =>
      have hrefs : ∀ c, (s.rxPkts.eraseIdx i).count (some c) =
          update s.pktcnt b (s.pktcnt b - 1) c := by
        intro c
        have hc := hcount (some c)
        rw [h.refs] at hc
        by_cases hbc : b = c
        · subst hbc
          rw [update_self, hc, if_pos rfl, Nat.add_sub_cancel]
        · rw [if_neg (fun heq => hbc (Option.some.inj heq))] at hc
          rw [update_of_ne (Ne.symm hbc), hc, Nat.add_zero]
      have hpos : 0 < s.pktcnt b := by
        have hb := hcount (some b)
        rw [h.refs, if_pos rfl] at hb
        omega
      dsimp only
      unfold phlReleaseRxbufUsb
      dsimp only
      split
      case isTrue hlast =>
        refine { h with places := fun c => ?_, refs := hrefs, pkts := hpkts }
        have hc := h.places c
        unfold UsbRx.places at hc ⊢
        rw [count_map_concat_tally]
        simp only [parsed] at hc ⊢
        by_cases hbc : b = c
        · subst hbc
          rw [held_of_pos hpos] at hc
          rw [update_self, hlast, held_zero, if_pos rfl]
          omega
        · rw [update_of_ne (Ne.symm hbc), if_neg hbc]
          omega
      case isFalse hmore =>
        refine { h with places := fun c => ?_, refs := hrefs, pkts := hpkts }
        have hc := h.places c
        unfold UsbRx.places at hc ⊢
        simp only [parsed] at hc ⊢
        by_cases hbc : b = c
        · subst hbc
          rw [update_self, held_of_pos (Nat.pos_of_ne_zero hmore)]
          rwa [held_of_pos hpos] at hc
        · rwa [update_of_ne (Ne.symm hbc)]

lemma Inv.step (hpool : pool.Nodup) (s : UsbRx β) (e : UsbRxEvent) (h : s.Inv pool)
    (hsafe : s.Safe e) : (s.step e).Inv pool := by
  cases e with
  | inToken pipe => exact h.inToken pipe
  | hand i query => exact h.handStep hpool hsafe
  | send i result => exact h.sendStep i result
  | complete i ok len => exact h.pendRxbuf i ok len
  | rxStart =>
    rw [UsbRx.step]
    split
    case isTrue hoff =>
      refine { h with places := fun c => ?_ }
      have hc := h.places c
      unfold UsbRx.places at hc ⊢
      simpa [parsed, hoff] using hc
    case isFalse => exact h
  | rxPop => exact h.rxPop
  | rxParse turns => exact h.rxParse hpool hsafe
  | recycle i => exact h.recycle i

lemma releaseRxbuf_pktcnt_of_ne (hbc : b ≠ c) : (s.phlReleaseRxbufUsb b).pktcnt c = s.pktcnt c := by
  unfold phlReleaseRxbufUsb
  dsimp only
  split <;> exact update_of_ne (Ne.symm hbc) _ _

section

variable (h : s.Inv pool) (hpool : pool.Nodup)
include h hpool

lemma Inv.handStep_pktcnt (i : ℕ) (query : Bool)
    (hc : 0 < s.pktcnt c) : (s.handStep i query).pktcnt c = s.pktcnt c := by
  unfold UsbRx.handStep
  split
  case h_1 => rfl
  case h_2 b stage hi =>
    have hhands := count_map_eraseIdx_tally Hand.buf hi b
    rw [if_pos rfl] at hhands
    have hzero : s.pktcnt b = 0 := h.pktcnt_eq_zero hpool (by omega)
    have hbc : b ≠ c := by
      rintro rfl
      omega
    dsimp only
    split
    · split <;> rfl
    · split
      · rfl
      · exact releaseRxbuf_pktcnt_of_ne hbc
    · exact releaseRxbuf_pktcnt_of_ne hbc
    · rfl

lemma Inv.rxParse_pktcnt (turns : ℕ → RxTurn)
    (hc : 0 < s.pktcnt c) : (s.rxParse turns).pktcnt c = s.pktcnt c := by
  unfold UsbRx.rxParse
  split
  case h_1 phlRx b hrx =>
    have hparsed : s.parsed = [b] := by simp [parsed, hrx]
    have hzero : s.pktcnt b = 0 := h.pktcnt_eq_zero hpool (by simp [hparsed])
    have hbc : b ≠ c := by
      rintro rfl
      omega
    split
    · dsimp only
      split
      · rfl
      · exact update_of_ne (Ne.symm hbc) _ _
    · split <;> rfl
  case h_2 => rfl

lemma Inv.last_packet {e : UsbRxEvent}
    (hc : 0 < s.pktcnt c) (hgone : (s.step e).pktcnt c = 0) :
    ∃ i, e = .recycle i ∧ s.rxPkts[i]? = some (some c) ∧ some c ∉ s.rxPkts.eraseIdx i ∧
      (s.step e).hands = s.hands ++ [⟨c, .pushIdle⟩] := by
  have hkept : (s.step e).pktcnt c ≠ s.pktcnt c := by omega
  cases e with
  | inToken pipe =>
    refine absurd ?_ hkept
    rw [UsbRx.step, phlInTokenUsb]
    split <;> rfl
  | hand i query => exact absurd (h.handStep_pktcnt hpool i query hc) hkept
  | send i result =>
    refine absurd ?_ hkept
    rw [UsbRx.step, UsbRx.sendStep]
    split
    · rfl
    · dsimp only
      split <;> rfl
  | complete i ok len =>
    refine absurd ?_ hkept
    rw [UsbRx.step, phlPendRxbufUsb]
    split <;> rfl
  | rxStart =>
    refine absurd ?_ hkept
    rw [UsbRx.step]
    split <;> rfl
  | rxPop =>
    refine absurd ?_ hkept
    rw [UsbRx.step, UsbRx.rxPop]
    split <;> rfl
  | rxParse turns => exact absurd (h.rxParse_pktcnt hpool turns hc) hkept
  | recycle i =>
    refine ⟨i, rfl, ?_⟩
    rw [UsbRx.step, phlRecycleRxBuf] at hgone ⊢
    cases hi : s.rxPkts[i]? with
    | none =>
      rw [hi] at hgone
      exact absurd hgone (Nat.ne_of_gt hc)
    | some rxbufPtr =>
      cases rxbufPtr with
      | none =>
        rw [hi] at hgone
        exact absurd hgone (Nat.ne_of_gt hc)
      | some b =>
        rw [hi] at hgone
        dsimp only at hgone ⊢
        have hbc : b = c := by
          by_contra hne
          rw [releaseRxbuf_pktcnt_of_ne hne] at hgone
          exact absurd hgone (Nat.ne_of_gt hc)
        subst hbc
        have hcount := count_eraseIdx_tally hi (some b)
        rw [h.refs, if_pos rfl] at hcount
        have hlast : s.pktcnt b - 1 = 0 := by
          unfold phlReleaseRxbufUsb at hgone
          dsimp only at hgone
          split at hgone
          · assumption
          · dsimp only at hgone
            rwa [update_self] at hgone
        refine ⟨rfl, ?_, ?_⟩
        · rw [← count_eq_zero]
          omega
        · unfold phlReleaseRxbufUsb
          dsimp only
          rw [if_pos hlast]

end

/-- In every run in which the size of the descriptor can be queried and no
buffer of another pipe is parsed after one with packets, every buffer of the
pool is in exactly one place, its count is that of the packets that refer to
it, and it leaves its packets with the last of them. -/
theorem usb_rx_buffer_ownership (hpool : pool.Nodup) {es : List UsbRxEvent}
    (hes : Guarded UsbRx.step Safe (UsbRx.init pool) es) :
    (∀ b ∈ pool, (run UsbRx.step (UsbRx.init pool) es).places b = 1) ∧
      (∀ b, (run UsbRx.step (UsbRx.init pool) es).pktcnt b =
        (run UsbRx.step (UsbRx.init pool) es).rxPkts.count (some b)) ∧
      ∀ e b, 0 < (run UsbRx.step (UsbRx.init pool) es).pktcnt b →
        ((run UsbRx.step (UsbRx.init pool) es).step e).pktcnt b = 0 →
        ∃ i, e = .recycle i ∧
          (run UsbRx.step (UsbRx.init pool) es).rxPkts[i]? = some (some b) ∧
          some b ∉ (run UsbRx.step (UsbRx.init pool) es).rxPkts.eraseIdx i ∧
          ((run UsbRx.step (UsbRx.init pool) es).step e).hands =
            (run UsbRx.step (UsbRx.init pool) es).hands ++ [⟨b, .pushIdle⟩] := by
  have h : (run UsbRx.step (UsbRx.init pool) es).Inv pool :=
    Guarded.invariant (Inv.step hpool) (Inv.init pool) hes
  refine ⟨fun b hb => ?_, fun b => (h.refs b).symm, fun e b => h.last_packet hpool⟩
  rw [h.places, count_eq_one_of_mem hpool hb]

/-- One buffer goes down with a request, comes back with two packets, one of them
copied, and the other packet is given back. -/
def oneBuffer : List UsbRxEvent :=
  [.inToken .mpdu, .hand 0 true, .send 0 .submitted, .complete 0 true 100, .hand 0 true, .rxStart,
    .rxPop, .rxParse fun i => if i = 0 then .packet 60 true true else .packet 40 true false]

theorem usb_rx_buffer_ownership_oneBuffer :
    (run UsbRx.step (UsbRx.init [7]) oneBuffer).places 7 = 1 ∧
      (run UsbRx.step (UsbRx.init [7]) oneBuffer).pktcnt 7 = 1 ∧
      ∃ i, UsbRxEvent.recycle 1 = .recycle i ∧
        (run UsbRx.step (UsbRx.init [7]) oneBuffer).rxPkts[i]? = some (some 7) ∧
        some 7 ∉ (run UsbRx.step (UsbRx.init [7]) oneBuffer).rxPkts.eraseIdx i ∧
        ((run UsbRx.step (UsbRx.init [7]) oneBuffer).step (.recycle 1)).hands =
          (run UsbRx.step (UsbRx.init [7]) oneBuffer).hands ++ [⟨7, .pushIdle⟩] := by
  have hes : Guarded UsbRx.step Safe (UsbRx.init [7]) oneBuffer :=
    ⟨trivial, rfl, trivial, trivial, trivial, trivial, trivial, fun h => (nomatch h), trivial⟩
  obtain ⟨hplaces, -, hlast⟩ := usb_rx_buffer_ownership (nodup_singleton 7) hes
  exact ⟨hplaces 7 (mem_singleton_self 7), by decide, hlast (.recycle 1) 7 (by decide) (by decide)⟩

/-- A failed query of the descriptor size leaves the buffer in no place at all. -/
theorem failed_query_loses_buffer :
    (run UsbRx.step (UsbRx.init [7]) [.inToken .mpdu, .hand 0 false]).places 7 = 0 := by
  decide

end UsbRx

end Rtl8831.Phl
