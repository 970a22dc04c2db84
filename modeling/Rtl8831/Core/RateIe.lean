import Rtl8831.Core.IeEditList

/-!
# The rates of a BSS

`rtw_update_rate_bymode` reduces the elements with the rates of a BSS to those of its
wireless mode.  The elements lie in `IEs` behind twelve bytes of fixed fields.
-/

namespace Rtl8831.Core

open Lib

def supportedratesIe : UInt8 := 1

def extSupportedratesIe : UInt8 := 50

def beaconIeOffset : ℕ := 12

def lengthRatesEx : ℕ := 16

def wifiCckrates : List UInt8 := [0x82, 0x84, 0x8b, 0x96]

def wifiOfdmrates : List UInt8 := [0x0c, 0x12, 0x18, 0x24, 0x30, 0x48, 0x60, 0x6c]

def rtwBasicRateOfdm : List UInt8 := [0x8c, 0x98, 0xb0]

def rateIn (rates : List UInt8) (rate : UInt8) : Bool :=
  rates.any fun r => r &&& 0x7f == rate &&& 0x7f

def rtwIsCckRate (rate : UInt8) : Bool := rateIn wifiCckrates rate

def rtwIsOfdmRate (rate : UInt8) : Bool := rateIn wifiOfdmrates rate

def rtwIsBasicRateOfdm (rate : UInt8) : Bool := rateIn rtwBasicRateOfdm rate

/-- `CCK` and `OFDM` -/
inductive RateKind where
  | cck
  | ofdm
  deriving DecidableEq

def RateKind.Has (keep : RateKind) (rate : UInt8) : Bool :=
  (keep = .cck && rtwIsCckRate rate) || (keep = .ofdm && rtwIsOfdmRate rate)

def newRate (keep : RateKind) (rates : List UInt8) : List UInt8 :=
  (rates.filter keep.Has).map fun r => if rtwIsBasicRateOfdm r then r ||| 0x80 else r

/-- `IEs` and `IELength` -/
structure BssIes where
  mem : ℕ → UInt8
  ieLength : ℕ

/-- `IELength - _BEACON_IE_OFFSET_`, passed as an `int`. -/
def ieLimit (ieLength : ℕ) : ℤ := ((ieLength : ℤ) - beaconIeOffset).bmod (2 ^ 32)

/-- `none` if the rates do not fit `new_rate`. -/
def rtwFilterSuppportRateie (s : BssIes) (keep : RateKind) : Option BssIes :=
  match (rtwGetIe s.mem beaconIeOffset supportedratesIe.toNat (ieLimit s.ieLength)).val with
  | none => some s
  | some ⟨p, ieOrilen⟩ =>
    let newRate := newRate keep (bytesAt s.mem (p + 2) ieOrilen)
    let idx := newRate.length
    if lengthRatesEx < idx then none
    else
      let mem := writeBytes (writeBytes s.mem (p + 1) [UInt8.ofNat idx]) (p + 2) newRate
      let remainIes := p + 2 + ieOrilen
      let remainLen := sub32 s.ieLength remainIes
      some
        { mem := writeBytes mem (p + 2 + idx) (bytesAt mem remainIes remainLen)
          ieLength := sub32 s.ieLength (ieOrilen - idx) }

def wlanMd11b : ℕ := 1

def wlanMd11a : ℕ := 2

def wlanMd11g : ℕ := 4

def wlanMd11bg : ℕ := 5

/-- `SupportedRates`, which the rates do not fill; `on6g` is `band == BAND_ON_6G`. -/
def rtwSetSupportedRate (mode ch : ℕ) (on6g : Bool) : List UInt8 :=
  let rates :=
    if 14 < ch ∨ on6g then wifiOfdmrates
    else
      (if mode.testBit 0 then wifiCckrates else []) ++
        (if mode &&& (2 ^ 32 - 1 - wlanMd11b) ≠ 0 then wifiOfdmrates else [])
  rates ++ List.replicate (lengthRatesEx - rates.length) 0

/-- What `rtw_update_rate_bymode` leaves behind, with its result. -/
structure RateUpdate where
  ies : BssIes
  supportedRates : List UInt8
  networkType : ℕ

/-- The element with the extended rates is removed; the length is corrected by the length of
its body.  The removal is given the length that `IELength` had at first. -/
def removeExtRates (s : BssIes) (networkIelen rounds : ℕ) : Option BssIes :=
  match (rtwGetIe s.mem beaconIeOffset extSupportedratesIe.toNat (ieLimit s.ieLength)).val with
  | none => some s
  | some ⟨_, ieLen⟩ => do
    let r ← rtwIesRemoveIe s.mem networkIelen beaconIeOffset extSupportedratesIe none rounds
    some ⟨r.mem, sub32 s.ieLength ieLen⟩

def rateKeep (mode dsConfig : ℕ) : Option RateKind × ℕ :=
  if mode = wlanMd11b then (some .cck, wlanMd11b)
  else if 14 < dsConfig then (some .ofdm, wlanMd11a)
  else if mode &&& wlanMd11b = 0 then (some .ofdm, wlanMd11g)
  else (none, wlanMd11bg)

/-- `none` if the rates do not fit `new_rate`, or if the removal takes more than `rounds`
rounds. -/
def rtwUpdateRateBymode (s : BssIes) (mode dsConfig : ℕ) (on6g : Bool) (rounds : ℕ) :
    Option RateUpdate := do
  let (keep, networkType) := rateKeep mode dsConfig
  let filtered ← match keep with
    | none => some s
    | some keep => rtwFilterSuppportRateie s keep
  let ies ←
    if mode = wlanMd11b then removeExtRates filtered s.ieLength rounds else some filtered
  some
    { ies
      supportedRates := rtwSetSupportedRate networkType (dsConfig % 2 ^ 8) on6g
      networkType }

end Rtl8831.Core
