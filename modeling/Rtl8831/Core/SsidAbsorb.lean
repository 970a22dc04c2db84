import Rtl8831.Core.IeEditList

/-!
# Absorbing the SSID of a hidden network

A probe response tells the SSID that the beacon of a hidden network leaves out.  It is written
into the stored list of elements, whose tail moves behind it.
-/

namespace Rtl8831.Core

open Lib List

inductive FrameSubtype
  | beacon
  | probeRsp
  | probeReq
  | other
  deriving DecidableEq

def FrameSubtype.ieOffset : FrameSubtype → ℕ
  | .probeReq => 0
  | _ => 12

/-- What a `WLAN_BSSID_EX` has of the SSID and of the elements; `ies` starts at `IEs`. -/
structure BssidEx where
  ssid : List UInt8
  ssidLength : ssid.length ≤ 32
  ies : ℕ → UInt8
  ieLength : ℕ

def ssidIe : UInt8 := 0

def hiddenSsidAp (s : BssidEx) : Bool := s.ssid.length = 0 || s.ssid.all (· = 0)

/-- The entry of the scan queue that has the transmitter's address, if there is one. -/
def rtwAbsorbSsidIfneed (subtype : FrameSubtype) (bssid : BssidEx) :
    Option BssidEx → Option BssidEx
  | none => none
  | some s =>
    let ieOffset := subtype.ieOffset
    if hiddenSsidAp s && !hiddenSsidAp bssid then
      match (rtwGetIe s.ies ieOffset ssidIe.toNat (s.ieLength - ieOffset : ℤ)).val with
      | none => some s
      | some ⟨p, ssidLenOri⟩ =>
        let nextIe := p + 2 + ssidLenOri
        let remainLen := sub32 s.ieLength nextIe
        let backupIE := bytesAt s.ies nextIe remainLen
        let ies := writeBytes s.ies (p + 1) [UInt8.ofNat bssid.ssid.length]
        let ies := writeBytes ies (p + 2) bssid.ssid
        some { s with
          ssid := bssid.ssid
          ssidLength := bssid.ssidLength
          ies := writeBytes ies (p + 2 + bssid.ssid.length) backupIE
          ieLength := (s.ieLength + bssid.ssid.length) % 2 ^ 32 }
    else some s

section

variable {bssid s : BssidEx} {a b : List Element} {e : Element}

/-- The element that tells the SSID. -/
def BssidEx.ssidElement (bssid : BssidEx) : Element :=
  ⟨ssidIe, bssid.ssid, bssid.ssidLength.trans_lt (by decide)⟩

/-- A hidden network whose stored list has its first SSID element between `a` and `b`. -/
structure StoredHidden (s : BssidEx) (a : List Element) (e : Element) (b : List Element) : Prop where
  hidden : hiddenSsidAp s = true
  ies : IesOk s.ies s.ieLength 12 (a ++ e :: b)
  first : ∀ x ∈ a, x.id ≠ ssidIe
  id_eq : e.id = ssidIe
  fits : s.ieLength ≤ maxIeSz

/-- Only the SSID element is replaced, and the length is that of the list, which still fits. -/
structure Absorbed (s bssid : BssidEx) (a : List Element) (e : Element) (b : List Element)
    (r : BssidEx) : Prop where
  ssid : r.ssid = bssid.ssid
  before : ∀ i < 12, r.ies i = s.ies i
  holds : Stores r.ies 12 (encode (a ++ bssid.ssidElement :: b))
  len : r.ieLength + e.body.length = s.ieLength + bssid.ssid.length
  fits : r.ieLength ≤ maxIeSz

lemma absorb_holds (h : StoredHidden s a e b) (hnew : hiddenSsidAp bssid = false) :
    ∃ r, rtwAbsorbSsidIfneed .probeRsp bssid (some s) = some r ∧ r.ssid = bssid.ssid ∧
      r.ieLength = s.ieLength + bssid.ssid.length ∧ (∀ i < 12, r.ies i = s.ies i) ∧
        Stores r.ies 12 (encode (a ++ bssid.ssidElement :: b)) := by
  have hies := h.ies
  have hlen := hies.len
  have hshort := hies.short
  have hsmall := bssid.ssidLength
  have hbody := e.small
  have hsplit := length_encode_split (a := a) (e := e) (b := b)
  have hsize := e.length_bytes
  have hlimit : (s.ieLength - (12 : ℕ) : ℤ) = ((encode (a ++ e :: b)).length : ℤ) := by omega
  have hfound := getIe_list_first hies.listAt h.first h.id_eq
  have hholds := hies.holds
  rw [encode_append, encode_cons, stores_append, stores_append, hsize] at hholds
  obtain ⟨ha, -, hb⟩ := hholds
  have hid := (stores_element.1 hies.listAt.element).1
  have hend : 12 + (encode a).length + 2 + e.body.length =
      12 + (encode a).length + (e.body.length + 2) := by omega
  have hremain : sub32 s.ieLength (12 + (encode a).length + (e.body.length + 2)) =
      (encode b).length := by
    rw [sub32_of_le (by omega) (by omega)]
    omega
  unfold rtwAbsorbSsidIfneed
  simp only [FrameSubtype.ieOffset, h.hidden, hnew, Bool.not_false, Bool.and_self, if_true]
  rw [hlimit, hfound]
  refine ⟨_, rfl, rfl, Nat.mod_eq_of_lt (by omega), fun i hi => ?_, ?_⟩
  · simp only
    rw [writeBytes_of_lt (by omega), writeBytes_of_lt (by omega), writeBytes_of_lt (by omega)]
  · simp only [hend, hremain, hb.eq]
    have hnewLen : bssid.ssidElement.bytes.length = bssid.ssid.length + 2 := rfl
    rw [encode_append, encode_cons, stores_append, stores_append, hnewLen]
    refine ⟨?_, ?_, ?_⟩
    · exact ((ha.writeBytes_before (by omega)).writeBytes_before (by omega)).writeBytes_before
        (by omega)
    · refine stores_cons.2 ⟨?_, stores_cons.2 ⟨?_, ?_⟩⟩
      · rw [writeBytes_of_lt (by omega), writeBytes_of_lt (by omega), writeBytes_of_lt (by omega),
          hid, h.id_eq]
        rfl
      · rw [writeBytes_of_lt (by omega), writeBytes_of_lt (by omega)]
        exact (stores_cons.1 (stores_writeBytes ..)).1
      · exact (stores_writeBytes ..).writeBytes_before le_rfl
    · have hnext : 12 + (encode a).length + 2 + bssid.ssid.length =
          12 + (encode a).length + (bssid.ssid.length + 2) := by omega
      rw [hnext]
      exact stores_writeBytes ..

/-- The old length is not taken off. -/
theorem absorbed_iff (h : StoredHidden s a e b) (hnew : hiddenSsidAp bssid = false) :
    (∃ r, rtwAbsorbSsidIfneed .probeRsp bssid (some s) = some r ∧ Absorbed s bssid a e b r) ↔
      e.body = [] ∧ s.ieLength + bssid.ssid.length ≤ maxIeSz := by
  obtain ⟨r, hr, hssid, hlen, hbefore, hholds⟩ := absorb_holds h hnew
  rw [hr]
  constructor
  · rintro ⟨r', heq, habs⟩
    obtain rfl : r = r' := Option.some.inj heq
    have hsum := habs.len
    have hfits := habs.fits
    exact ⟨length_eq_zero_iff.mp (by omega), by omega⟩
  · rintro ⟨hbody, hfits⟩
    exact ⟨r, rfl, hssid, hbefore, hholds, by rw [hlen, hbody]; rfl, by rwa [hlen]⟩

end

/-- A stored list of one SSID element with `n` zeros. -/
def zeroFilled (n : ℕ) (hn : n ≤ 32) : BssidEx where
  ssid := replicate n 0
  ssidLength := by rwa [length_replicate]
  ies i := (replicate 13 0 ++ UInt8.ofNat n :: replicate n 0 : List UInt8).getD i 0
  ieLength := 14 + n

def probed : BssidEx := ⟨[97], by decide, fun _ => 0, 0⟩

theorem absorbed_zeroLength : ∃ r, rtwAbsorbSsidIfneed .probeRsp probed
    (some (zeroFilled 0 (by decide))) = some r ∧
      Absorbed (zeroFilled 0 (by decide)) probed [] ⟨0, [], by decide⟩ [] r := by
  refine (absorbed_iff ⟨by decide, ⟨by decide, by decide, by decide⟩, by decide, rfl, by decide⟩
    (by decide)).mpr ⟨rfl, by decide⟩

theorem not_absorbed_zeroFilled : ¬∃ r, rtwAbsorbSsidIfneed .probeRsp probed
    (some (zeroFilled 3 (by decide))) = some r ∧
      Absorbed (zeroFilled 3 (by decide)) probed [] ⟨0, [0, 0, 0], by decide⟩ [] r := by
  rintro ⟨r, hr, h⟩
  obtain rfl := Option.some.inj hr
  exact absurd h.len (by decide)

end Rtl8831.Core
