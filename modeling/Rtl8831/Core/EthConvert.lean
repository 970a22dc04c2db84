import Rtl8831.Core.AmsduList
import Rtl8831.Core.RecvSpec
import Rtl8831.Core.Xmit

/-!
# From 802.11 to Ethernet in place

`core_rx_process_msdu` computes where the MSDU is and how long it is in 16 bits, and
`wlanhdr_to_ethhdr` writes the Ethernet header in front of it, in the memory of the received
frame.  What lies behind the frame is whatever the buffer holds there.
-/

namespace Rtl8831.Core

open Lib List

/-- The Ethernet frame: where it is, its length, what was computed for its length field and the
memory it lies in. -/
structure EthFrame where
  start : ℕ
  len : ℕ
  ethLen : ℕ
  llc : Bool
  mem : ℕ → UInt8

def EthFrame.bytes (r : EthFrame) : List UInt8 := bytesAt r.mem r.start r.len

section

variable (mem : ℕ → UInt8) (frameLen : ℕ) (a : RxAttrib)

def msduStart : ℕ := a.hdrlen + a.ivLen

def lenWithoutIcv : ℕ :=
  if a.encrypt ≠ .noPrivacy then
    if frameLen < a.icvLen then frameLen else frameLen - a.icvLen
  else frameLen

def msduLen : ℕ :=
  u16 (frameLen - a.hdrlen - a.ivLen - if a.encrypt ≠ .noPrivacy then a.icvLen else 0)

/-- What `rtw_recv_llc_parse` says of the MSDU. -/
def msduLlcAt : Bool := (llcParse mem (msduStart a) (msduLen frameLen a)).val

/-- `wlanhdr_to_ethhdr`; the header is at least that of 802.11, so that no pull is negative. -/
def wlanhdrToEthhdrAt (llc : Bool) : Option EthFrame :=
  let n := lenWithoutIcv frameLen a
  let rmvLen := msduStart a + if llc then 6 else 0
  let len := u16 (n - rmvLen)
  let sz := rmvLen + (if llc then 2 else 0) - 14
  if n < sz then none
  else some
    { start := sz
      len := n - sz
      ethLen := len
      llc
      mem := writeBytes mem sz
        (a.dst.take 6 ++ (a.src.take 6 ++ if llc then [] else be16Bytes len)) }

/-- The conversion in `core_rx_process_msdu`. -/
def rxMsduAt : Option EthFrame := wlanhdrToEthhdrAt mem frameLen a (msduLlcAt mem frameLen a)

structure MsduIn (msdu da sa : List UInt8) : Prop where
  header : 24 ≤ a.hdrlen
  stores : Stores mem (msduStart a) msdu
  len : frameLen = msduStart a + msdu.length + if a.encrypt ≠ .noPrivacy then a.icvLen else 0
  dst : a.dst = da
  src : a.src = sa
  da_len : da.length = 6
  sa_len : sa.length = 6

end

section

variable {mem : ℕ → UInt8} {frameLen : ℕ} {a : RxAttrib} {msdu da sa : List UInt8}

section

variable (h : MsduIn mem frameLen a msdu da sa)
include h

lemma MsduIn.lenWithoutIcv :
    lenWithoutIcv frameLen a = msduStart a + msdu.length := by
  have hlen := h.len
  unfold Core.lenWithoutIcv
  split
  · rename_i henc
    rw [if_pos henc] at hlen
    rw [if_neg (by omega)]
    omega
  · rename_i henc
    rw [if_neg henc] at hlen
    omega

lemma MsduIn.msduLen :
    msduLen frameLen a = msdu.length % 2 ^ 16 := by
  have hlen := h.len
  unfold msduStart at hlen
  unfold Core.msduLen u16
  split
  · rename_i henc
    rw [if_pos henc] at hlen
    omega
  · rename_i henc
    rw [if_neg henc] at hlen
    omega

lemma MsduIn.llc :
    msduLlcAt mem frameLen a = recvLlcParse msdu (msdu.length % 2 ^ 16) := by
  unfold msduLlcAt
  rw [h.msduLen]
  exact llcParse_val h.stores (Nat.mod_le _ _)

end

lemma length_be16Bytes (n : ℕ) : (be16Bytes n).length = 2 := rfl

lemma recvLlcParse_long {n : ℕ} (h : recvLlcParse msdu n = true) : 8 ≤ n := by
  by_contra hshort
  rw [recvLlcParse, if_pos (by omega)] at h
  cases h

lemma rxMsduAt_bytes (h : MsduIn mem frameLen a msdu da sa) :
    (rxMsduAt mem frameLen a).map EthFrame.bytes = some (da ++ (sa ++
      if recvLlcParse msdu (msdu.length % 2 ^ 16) then msdu.drop 6
      else be16Bytes (msdu.length % 2 ^ 16) ++ msdu)) := by
  have hheader : 24 ≤ msduStart a := h.header.trans (Nat.le_add_right _ _)
  have hda := h.da_len
  have hsa := h.sa_len
  have htake : a.dst.take 6 = da ∧ a.src.take 6 = sa := by
    rw [h.dst, h.src]
    exact ⟨take_of_length_le hda.le, take_of_length_le hsa.le⟩
  unfold rxMsduAt wlanhdrToEthhdrAt
  rw [h.llc, h.lenWithoutIcv, htake.1, htake.2]
  cases hllc : recvLlcParse msdu (msdu.length % 2 ^ 16) with
  | true =>
    have hlong := recvLlcParse_long hllc
    have hle := Nat.mod_le msdu.length (2 ^ 16)
    simp only [if_true, append_nil]
    rw [if_neg (by omega), Option.map_some, Option.some.injEq]
    have hrest : Stores mem (msduStart a + 6 + 2 - 14 + (da ++ sa).length) (msdu.drop 6) := by
      rw [length_append, hda, hsa,
        show msduStart a + 6 + 2 - 14 + (6 + 6) = msduStart a + 6 by omega]
      exact h.stores.drop (by omega)
    have hall := stores_append.2 ⟨stores_writeBytes mem _ (da ++ sa),
      hrest.writeBytes_after le_rfl⟩
    have hlen : msduStart a + msdu.length - (msduStart a + 6 + 2 - 14) =
        ((da ++ sa) ++ msdu.drop 6).length := by
      simp only [length_append, length_drop, hda, hsa]
      omega
    unfold EthFrame.bytes
    simp only
    rw [hlen, hall.eq, append_assoc]
  | false =>
    simp only [Bool.false_eq_true, if_false, Nat.add_zero]
    rw [if_neg (by omega), Option.map_some, Option.some.injEq]
    have hfield : u16 ((msduStart a + msdu.length : ℕ) - (msduStart a : ℕ)) =
        msdu.length % 2 ^ 16 := by
      unfold u16
      omega
    rw [hfield]
    have hmem := stores_writeBytes mem (msduStart a - 14)
      (da ++ (sa ++ be16Bytes (msdu.length % 2 ^ 16)))
    have hheaderLen : (da ++ (sa ++ be16Bytes (msdu.length % 2 ^ 16))).length = 14 := by
      rw [length_append, length_append, hda, hsa, length_be16Bytes]
    have hsub : msduStart a - 14 + 14 = msduStart a := Nat.sub_add_cancel (by omega)
    have hall := stores_append.2 ⟨hmem, by
      rw [hheaderLen, hsub]
      apply h.stores.writeBytes_after
      rw [hheaderLen, hsub]⟩
    have hlen : msduStart a + msdu.length - (msduStart a - 14) =
        ((da ++ (sa ++ be16Bytes (msdu.length % 2 ^ 16))) ++ msdu).length := by
      rw [length_append, hheaderLen]
      omega
    unfold EthFrame.bytes
    simp only
    rw [hlen, hall.eq, append_assoc, append_assoc]

end

section

variable {mem : ℕ → UInt8} {frameLen hProto : ℕ} {a : RxAttrib} {payload da sa : List UInt8}

lemma be16At_putSnap (h : hProto < 2 ^ 16) : be16At (putSnap hProto ++ payload) 6 = hProto := by
  have hbytes : be16At (putSnap hProto ++ payload) 6 =
      256 * (UInt8.ofNat (hProto / 256)).toNat + (UInt8.ofNat hProto).toNat := by
    unfold putSnap
    split
    · rfl
    · rfl
  rw [hbytes, UInt8.toNat_ofNat', UInt8.toNat_ofNat']
  omega

lemma slice_putSnap : slice (putSnap hProto ++ payload) 0 6 =
    if hProto = 0x8137 ∨ hProto = 0x80f3 then bridgeTunnelHeader else rfc1042Header := by
  unfold putSnap
  split
  · rfl
  · rfl

lemma drop_putSnap : (putSnap hProto ++ payload).drop 6 = be16Bytes hProto ++ payload := by
  unfold putSnap
  split
  · rfl
  · rfl

lemma recvLlcParse_putSnap (h : hProto < 2 ^ 16) (n : ℕ) :
    recvLlcParse (putSnap hProto ++ payload) n = decide (8 ≤ n) := by
  unfold recvLlcParse
  rw [slice_putSnap, be16At_putSnap h]
  by_cases hshort : n < 8
  · rw [if_pos hshort, decide_eq_false (by omega)]
  · rw [if_neg hshort, decide_eq_true (p := 8 ≤ n) (by omega)]
    by_cases houi : hProto = 0x8137 ∨ hProto = 0x80f3
    · rw [if_pos houi, decide_eq_true rfl, Bool.or_true]
    · rw [if_neg houi, decide_eq_true rfl]
      push Not at houi
      simp only [ne_eq, houi, not_false_eq_true, decide_true, Bool.and_true, Bool.true_or]

lemma round_trip (hType : hProto < 2 ^ 16)
    (h : MsduIn mem frameLen a (putSnap hProto ++ payload) da sa) :
    (rxMsduAt mem frameLen a).map EthFrame.bytes =
        some (da ++ (sa ++ (be16Bytes hProto ++ payload))) ↔ 8 ≤ (8 + payload.length) % 2 ^ 16 := by
  have hlen : (putSnap hProto ++ payload).length = 8 + payload.length := by
    rw [length_append, length_putSnap]
  rw [rxMsduAt_bytes h, recvLlcParse_putSnap hType, hlen]
  by_cases hlong : 8 ≤ (8 + payload.length) % 2 ^ 16
  · rw [decide_eq_true hlong, if_pos rfl, drop_putSnap]
    exact iff_of_true rfl hlong
  · rw [decide_eq_false hlong, if_neg Bool.false_ne_true]
    refine iff_of_false (fun heq => ?_) hlong
    have hlengths := congrArg length (Option.some.inj heq)
    simp only [length_append, length_be16Bytes, length_putSnap] at hlengths
    omega

lemma agrees_with_amsdu (s : Subframe) (h : MsduIn mem frameLen a s.body s.da s.sa) :
    (rxMsduAt mem frameLen a).map EthFrame.bytes = some s.packet := by
  rw [rxMsduAt_bytes h, Nat.mod_eq_of_lt s.small]
  unfold Subframe.packet allocMsduPkt
  cases recvLlcParse s.body s.body.length with
  | true => rw [if_pos rfl, if_pos rfl, append_assoc]
  | false =>
    rw [if_neg Bool.false_ne_true, if_neg Bool.false_ne_true]
    simp only [append_assoc]

end

section

variable (mem : ℕ → UInt8) (frameLen : ℕ) (a : RxAttrib)

/-- If there is an Ethernet frame, it has a whole header, ends where the received one does or
before, and its length field, where it has one, says how long the rest is. -/
def Inside : Prop :=
  ∀ r, rxMsduAt mem frameLen a = some r →
    14 ≤ r.len ∧ r.start + r.len ≤ frameLen ∧ (r.llc = false → r.ethLen + 14 = r.len)

/-- The frame reaches behind header and IV by no more than 16 bits can tell, or misses so much of
them that the conversion fails. -/
def LengthFits : Prop :=
  if msduLlcAt mem frameLen a then
    msduStart a + 8 ≤ lenWithoutIcv frameLen a ∨ lenWithoutIcv frameLen a + 6 < msduStart a
  else
    msduStart a ≤ lenWithoutIcv frameLen a ∧ lenWithoutIcv frameLen a < msduStart a + 2 ^ 16 ∨
      lenWithoutIcv frameLen a + 14 < msduStart a

variable {mem frameLen a}

variable (frameLen a) in
lemma lenWithoutIcv_le : lenWithoutIcv frameLen a ≤ frameLen := by
  unfold lenWithoutIcv
  split
  · split
    · exact le_rfl
    · exact Nat.sub_le _ _
  · exact le_rfl

lemma inside_iff (hheader : 24 ≤ a.hdrlen) : Inside mem frameLen a ↔ LengthFits mem frameLen a := by
  have hstart : 24 ≤ msduStart a := hheader.trans (Nat.le_add_right _ _)
  have hle := lenWithoutIcv_le frameLen a
  unfold Inside LengthFits rxMsduAt wlanhdrToEthhdrAt
  generalize lenWithoutIcv frameLen a = n at hle ⊢
  generalize msduStart a = x at hstart ⊢
  cases msduLlcAt mem frameLen a with
  | true =>
    simp only [if_true]
    by_cases hshort : n < x + 6 + 2 - 14
    · rw [if_pos hshort]
      refine iff_of_true (fun r hr => ?_) (Or.inr (by omega))
      cases hr
    · rw [if_neg hshort]
      simp only [Option.some.injEq, forall_eq']
      constructor
      · rintro ⟨hlen, -⟩
        exact Or.inl (by omega)
      · intro hfits
        refine ⟨by omega, by omega, fun hllc => ?_⟩
        cases hllc
  | false =>
    simp only [Bool.false_eq_true, if_false, Nat.add_zero]
    by_cases hshort : n < x - 14
    · rw [if_pos hshort]
      refine iff_of_true (fun r hr => ?_) (Or.inr (by omega))
      cases hr
    · rw [if_neg hshort]
      simp only [Option.some.injEq, forall_eq', forall_const]
      have hsub : x - 14 + 14 = x := Nat.sub_add_cancel (by omega)
      constructor
      · rintro ⟨hlen, -, hfield⟩
        have hx : x ≤ n := by omega
        have hlt : u16 (n - x) < 2 ^ 16 := by
          unfold u16
          omega
        exact Or.inl ⟨hx, by omega⟩
      · intro hfits
        have hfield : u16 (n - x) = n - x := by
          unfold u16
          omega
        exact ⟨by omega, by omega, by omega⟩

/-- What becomes of an MSDU that was sent, of one that may also be a subframe, and of any frame. -/
theorem ethernet_conversion_iff (hheader : 24 ≤ a.hdrlen) :
    (∀ hProto payload da sa, hProto < 2 ^ 16 →
      MsduIn mem frameLen a (putSnap hProto ++ payload) da sa →
      ((rxMsduAt mem frameLen a).map EthFrame.bytes =
        some (da ++ (sa ++ (be16Bytes hProto ++ payload))) ↔
          8 ≤ (8 + payload.length) % 2 ^ 16)) ∧
    (∀ s : Subframe, MsduIn mem frameLen a s.body s.da s.sa →
      (rxMsduAt mem frameLen a).map EthFrame.bytes = some s.packet) ∧
    (Inside mem frameLen a ↔ LengthFits mem frameLen a) :=
  ⟨fun _ _ _ _ hType h => round_trip hType h, agrees_with_amsdu, inside_iff hheader⟩

end

def ipxAttrib : RxAttrib where
  dst := [2, 0, 0, 0, 0, 1]
  src := [2, 0, 0, 0, 0, 3]
  hdrlen := 26
  ivLen := 8
  icvLen := 8
  encrypt := .aes

def ipxFrame : List UInt8 :=
  replicate 34 0 ++ (putSnap 0x8137 ++ [1, 2, 3]) ++ replicate 8 0

theorem ethernet_conversion_iff_ipx :
    (rxMsduAt (byteAt ipxFrame) 53 ipxAttrib).map EthFrame.bytes =
        some [2, 0, 0, 0, 0, 1, 2, 0, 0, 0, 0, 3, 0x81, 0x37, 1, 2, 3] ∧
      Inside (byteAt ipxFrame) 53 ipxAttrib := by
  have hheader : 24 ≤ ipxAttrib.hdrlen := by decide
  obtain ⟨hback, -, hinside⟩ := @ethernet_conversion_iff (byteAt ipxFrame) 53 ipxAttrib hheader
  refine ⟨?_, hinside.mpr (by unfold LengthFits; decide)⟩
  exact (hback 0x8137 [1, 2, 3] _ _ (by decide)
    ⟨by decide, by decide, by decide, rfl, rfl, rfl, rfl⟩).mpr (by decide)

section

variable {cfg : RecvCfg} {st : RecvState} {rx : RxReq} {f : RecvFrame} {mem : ℕ → UInt8}
  {start : ℕ} {p hdr : List UInt8}

lemma bytesAt_writeBytes (h : Stores mem start p) :
    bytesAt (writeBytes mem start hdr) start p.length = overwrite p hdr := by
  unfold overwrite
  have hwritten := stores_writeBytes mem start hdr
  by_cases hlen : hdr.length ≤ p.length
  · have hrest := (h.drop hlen).writeBytes_after (le_refl (start + hdr.length))
    have hall := (stores_append.2 ⟨hwritten, hrest⟩).eq
    rw [take_of_length_le hlen, ← hall, length_append, length_drop,
      Nat.add_sub_cancel' hlen]
  · rw [← take_append_drop p.length hdr, stores_append] at hwritten
    have hfront := hwritten.1.eq
    rw [length_take, Nat.min_eq_left (by omega)] at hfront
    rw [drop_eq_nil_of_le (by omega), append_nil]
    nth_rewrite 1 [← take_append_drop p.length hdr]
    exact hfront

lemma pullIcv_data :
    (if f.attrib.encrypt ≠ .noPrivacy then recvframePullTail f f.attrib.icvLen else f).data =
      f.data.take (lenWithoutIcv f.data.length f.attrib) := by
  unfold lenWithoutIcv recvframePullTail
  split
  · split
    · rw [take_length]
    · rfl
  · rw [take_length]

theorem wlanhdrToEthhdrAt_eq (llc : Bool) :
    (wlanhdrToEthhdr cfg st f llc).2 =
      (wlanhdrToEthhdrAt (byteAt f.data) f.data.length f.attrib llc).map EthFrame.bytes := by
  have hle := lenWithoutIcv_le f.data.length f.attrib
  unfold wlanhdrToEthhdr wlanhdrToEthhdrAt msduStart
  simp only [pullIcv_data, length_take, Nat.min_eq_left hle]
  generalize lenWithoutIcv f.data.length f.attrib = n at hle ⊢
  generalize f.attrib.hdrlen + f.attrib.ivLen + (if llc = true then 6 else 0) = rmvLen
  generalize rmvLen + (if llc = true then 2 else 0) - 14 = sz
  by_cases hshort : n < sz
  · rw [if_pos hshort, if_pos hshort]
    rfl
  · rw [if_neg hshort, if_neg hshort, Option.map_some, Option.some.injEq]
    have hlen : ((f.data.take n).drop sz).length = n - sz := by
      rw [length_drop, length_take, Nat.min_eq_left hle]
    have hstored : Stores (byteAt f.data) sz ((f.data.take n).drop sz) := by
      have hall := stores_byteAt_drop f.data sz
      rw [← take_append_drop (n - sz) (f.data.drop sz), stores_append] at hall
      rw [drop_take]
      exact hall.1
    unfold EthFrame.bytes
    simp only
    rw [← hlen, bytesAt_writeBytes hstored, append_assoc]

end

def openCfg : RecvCfg :=
  { sppCfg with
    auth := .openSystem
    privacyAlgrthm := .noPrivacy
    grpPrivacy := .noPrivacy
    stas := [⟨[2, 0, 0, 0, 0, 2], 0, .noPrivacy, false, false⟩] }

def openState : RecvState where
  rxseq := fun _ _ => 65535
  pn := emptyCaches
  defrag := DefragPriv.init (fun _ => 0) none
  rxsc := fun _ => {}

def shortQosFrame : RxReq where
  data := [0x88, 2, 0, 0, 2, 0, 0, 0, 0, 1, 2, 0, 0, 0, 0, 2, 2, 0, 0, 0, 0, 2, 0x10, 0]
  room := 1000
  bmc := false
  swDec := false
  secType := .noPrivacy
  addrCamVld := false
  macid := 0
  err := false

/-- Validation lets the frame pass, and an Ethernet frame of 12 bytes comes of it whose length
field says 65534. -/
theorem shortQosFrame_converted :
    ∃ f r, (validateRecvFrame openCfg openState shortQosFrame).2 = some f ∧
      rxMsduAt (byteAt f.data) f.data.length f.attrib = some r ∧ r.len = 12 ∧
      r.ethLen = 65534 ∧ ¬ Inside (byteAt f.data) f.data.length f.attrib := by
  refine ⟨_, _, rfl, rfl, rfl, rfl, fun h => ?_⟩
  exact absurd (h _ rfl).1 (by decide)

end Rtl8831.Core
