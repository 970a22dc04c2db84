import Rtl8831.Core.Ie

/-!
# RSN elements

`rtw_rsne_info_parse` goes through the fields of an RSN element and reports where they are;
`rtw_parse_wpa2_ie` turns the suites that it reports into bitmaps.
-/

namespace Rtl8831.Core

/-- `struct rsne_info`; a field that was not found is NULL. -/
structure RsneInfo where
  gcs : Option ℕ := none
  pcsCnt : ℕ := 0
  pcsList : Option ℕ := none
  akmCnt : ℕ := 0
  akmList : Option ℕ := none
  cap : Option ℕ := none
  pmkidCnt : ℕ := 0
  pmkidList : Option ℕ := none
  gmcs : Option ℕ := none
  err : Bool := false
  deriving DecidableEq

/-- Where the parser stands: at the next field, at `exit` or at `err`. -/
inductive RsneParse where
  | next (pos : ℕ) (info : RsneInfo)
  | exit (info : RsneInfo)
  | err (info : RsneInfo)
  deriving DecidableEq

def RsneParse.andThen (p : RsneParse) (field : ℕ → RsneInfo → RsneParse) : RsneParse :=
  match p with
  | .next pos info => field pos info
  | .exit info => .exit info
  | .err info => .err info

def rsnHeaderLen : ℕ := 4

def rsnSelectorLen : ℕ := 4

def rsnPmkidLen : ℕ := 16

section

variable (mem : ℕ → UInt8) (ieLen : ℕ)

def le16 (pos : ℕ) : ℕ := (mem pos).toNat + 256 * (mem (pos + 1)).toNat

/-- An element that ends right here is complete; one that ends within a field is not. -/
def rsneTruncated (pos : ℕ) (info : RsneInfo) : RsneParse :=
  if ieLen ≠ pos then .err info else .exit info

def rsneField (len : ℕ) (report : ℕ → RsneInfo → RsneInfo) (pos : ℕ) (info : RsneInfo) :
    RsneParse :=
  if ieLen < pos + len then rsneTruncated ieLen pos info
  else .next (pos + len) (report pos info)

def rsneSuites (report : ℕ → ℕ → RsneInfo → RsneInfo) (pos : ℕ) (info : RsneInfo) : RsneParse :=
  if ieLen < pos + 2 then rsneTruncated ieLen pos info
  else
    let cnt := le16 mem pos
    let pos := pos + 2
    if cnt = 0 then .err info
    else if ieLen < pos + rsnSelectorLen * cnt then rsneTruncated ieLen pos info
    else .next (pos + rsnSelectorLen * cnt) (report cnt pos info)

/-- PMKIDs; here the count may be zero, and the list may not be missing where it is not. -/
def rsnePmkids (pos : ℕ) (info : RsneInfo) : RsneParse :=
  if ieLen < pos + 2 then rsneTruncated ieLen pos info
  else
    let cnt := le16 mem pos
    let pos := pos + 2
    if ieLen < pos + rsnPmkidLen * cnt then
      if ieLen ≠ pos ∨ cnt ≠ 0 then .err info else .exit info
    else .next (pos + rsnPmkidLen * cnt) { info with pmkidCnt := cnt, pmkidList := some pos }

def rsneFields : RsneParse :=
  (((((rsneField ieLen rsnSelectorLen (fun pos info => { info with gcs := some pos })
        rsnHeaderLen {}).andThen
      (rsneSuites mem ieLen fun cnt pos info =>
        { info with pcsCnt := cnt, pcsList := some pos })).andThen
      (rsneSuites mem ieLen fun cnt pos info =>
        { info with akmCnt := cnt, akmList := some pos })).andThen
      (rsneField ieLen 2 fun pos info => { info with cap := some pos })).andThen
      (rsnePmkids mem ieLen)).andThen
      (rsneField ieLen rsnSelectorLen fun pos info => { info with gmcs := some pos })

/-- The version is compared with the byte at `ie + 2` alone. -/
def rsneHeaderOk : Bool :=
  decide (rsnHeaderLen ≤ ieLen) && decide (mem 0 = wlanEidRsn) &&
    decide ((mem 1).toNat = ieLen - 2) && decide (mem 2 = 1)

def rtwRsneInfoParse : Bool × RsneInfo :=
  if rsneHeaderOk mem ieLen then
    match rsneFields mem ieLen with
    | .next _ info => (true, info)
    | .exit info => (true, info)
    | .err info => (false, { info with err := true })
  else (false, { err := true })

def suiteAt (pos : ℕ) : List UInt8 := (List.range' pos 4).map mem

def suiteBit (table : List (List UInt8 × ℕ)) (s : List UInt8) : ℕ :=
  ((table.find? fun entry => entry.1 = s).map Prod.snd).getD 0

def rsnSelector (type : UInt8) : List UInt8 := [0x00, 0x0f, 0xac, type]

/-- Selectors with the bits `WPA_CIPHER_NONE` to `WPA_CIPHER_BIP_CMAC_256`. -/
def rsnCipherSuites : List (List UInt8 × ℕ) :=
  [(rsnSelector 0, 2 ^ 0), (rsnSelector 1, 2 ^ 1), (rsnSelector 2, 2 ^ 3), (rsnSelector 4, 2 ^ 4),
    (rsnSelector 8, 2 ^ 5), (rsnSelector 9, 2 ^ 6), (rsnSelector 10, 2 ^ 7),
    (rsnSelector 5, 2 ^ 2), (rsnSelector 6, 2 ^ 8), (rsnSelector 11, 2 ^ 9),
    (rsnSelector 12, 2 ^ 10), (rsnSelector 13, 2 ^ 11)]

def wpaCipherBipCmac128 : ℕ := 2 ^ 8

def rtwGetRsnCipherSuite (s : List UInt8) : ℕ := suiteBit rsnCipherSuites s

/-- Selectors with the bits `WLAN_AKM_TYPE_8021X` to `WLAN_AKM_TYPE_FT_FILS_SHA384`. -/
def akmSuites : List (List UInt8 × ℕ) :=
  [(rsnSelector 1, 2 ^ 0), (rsnSelector 2, 2 ^ 1), (rsnSelector 3, 2 ^ 2), (rsnSelector 4, 2 ^ 3),
    (rsnSelector 5, 2 ^ 4), (rsnSelector 6, 2 ^ 5), (rsnSelector 7, 2 ^ 6), (rsnSelector 8, 2 ^ 7),
    (rsnSelector 9, 2 ^ 8), (rsnSelector 11, 2 ^ 9), (rsnSelector 12, 2 ^ 10),
    (rsnSelector 14, 2 ^ 11), (rsnSelector 15, 2 ^ 12), (rsnSelector 16, 2 ^ 13),
    (rsnSelector 17, 2 ^ 14)]

def rtwGetAkmSuiteBitmap (s : List UInt8) : ℕ := suiteBit akmSuites s

/-- `x |= bit(list + 4 * i)` for every `i` below the count. -/
def suiteUnion (bit : List UInt8 → ℕ) (cnt : ℕ) (list : Option ℕ) : ℕ :=
  (List.range cnt).foldl (fun acc i => acc ||| bit (suiteAt mem (list.getD 0 + 4 * i))) 0

/-- What `rtw_parse_wpa2_ie` stores for a caller that asks for everything. -/
structure Wpa2Ie where
  groupCipher : ℕ
  pairwiseCipher : ℕ
  gmcs : ℕ
  akm : ℕ
  mfpOpt : ℕ
  sppOpt : ℕ
  deriving DecidableEq

def mfpNo : ℕ := 0

def rtwParseWpa2Ie : Option Wpa2Ie :=
  let (ok, info) := rtwRsneInfoParse mem ieLen
  if ok then
    some
      { groupCipher := (info.gcs.map fun pos => rtwGetRsnCipherSuite (suiteAt mem pos)).getD 0
        pairwiseCipher := suiteUnion mem rtwGetRsnCipherSuite info.pcsCnt info.pcsList
        gmcs := (info.gmcs.map fun pos => rtwGetRsnCipherSuite (suiteAt mem pos)).getD
          wpaCipherBipCmac128
        akm := suiteUnion mem rtwGetAkmSuiteBitmap info.akmCnt info.akmList
        mfpOpt := (info.cap.map fun pos => le16 mem pos / 2 ^ 6 % 4).getD mfpNo
        sppOpt := (info.cap.map fun pos => le16 mem pos / 2 ^ 10 % 4).getD 0 }
  else none

end

end Rtl8831.Core
