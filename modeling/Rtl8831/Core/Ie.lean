import Rtl8831.Lib.Reading

/-!
# Searching elements

The searches of `rtw_ieee80211.c` walk over a string of elements, each an id, a length and
a body.  They step by declared lengths and leave their loop by a limit; what lies behind
the limit is whatever the memory holds there.  The memory is addressed from the first byte
of the caller's buffer.
-/

namespace Rtl8831.Core

open Lib (Reading readByte readBytes search)

def wlanEidRsn : UInt8 := 48

def wlanEidVendorSpecific : UInt8 := 221

def wlanEidExtension : UInt8 := 255

def maxIeSz : ℕ := 768

/-- `rtw_get_ie` with its `len`, the length of the body. -/
structure IePos where
  pos : ℕ
  len : ℕ
  deriving DecidableEq

/-- What a search hands out: the element, and where the caller asks for them its length
with the header and its bytes. -/
structure IeFound where
  pos : ℕ
  ielen : Option ℕ := none
  ie : Option (List UInt8) := none
  deriving DecidableEq

structure IeWants where
  ie : Bool := false
  ielen : Bool := false
  deriving DecidableEq

section

variable (mem : ℕ → UInt8)

/-- The declared length of the body of the element at `p`. -/
def bodyLen (p : ℕ) : ℕ := (mem (p + 1)).toNat

/-- Where the element at `p` ends by its declared length. -/
def ieEnd (p : ℕ) : ℕ := p + (bodyLen mem p + 2)

/-- `*ielen = in_ie[cnt + 1] + 2`. -/
def storeLen (p : ℕ) : Reading ℕ := do
  let len ← readByte mem (p + 1)
  pure (len.toNat + 2)

/-- `_rtw_memcpy(ie, &in_ie[cnt], in_ie[cnt + 1] + 2)`. -/
def copyOut (p : ℕ) : Reading (List UInt8) := do
  let n ← storeLen mem p
  readBytes mem p n

def whenAsked {α : Type} (asked : Bool) (x : Reading α) : Reading (Option α) :=
  if asked then do
    let a ← x
    pure (some a)
  else pure none

def handOut (wants : IeWants) (p : ℕ) : Reading IeFound := do
  let ie ← whenAsked wants.ie (copyOut mem p)
  let ielen ← whenAsked wants.ielen (storeLen mem p)
  pure { pos := p, ielen, ie }

/-- A round of the loop at `p`; `first` is `pbuf`. -/
def rtwGetIeStep (first : ℕ) (index limit : ℤ) (p : ℕ) : Reading (Option IePos ⊕ ℕ) := do
  let id ← readByte mem p
  let len ← readByte mem (p + 1)
  if (id.toNat : ℤ) = index then pure (.inl (some ⟨p, len.toNat⟩))
  else
    let p := p + (len.toNat + 2)
    if limit ≤ (p : ℤ) - first then pure (.inl none) else pure (.inr p)

def rtwGetIeLoop (first : ℕ) (index limit : ℤ) (rounds : ℕ) : Reading (Option (Option IePos)) :=
  if limit < 1 then pure (some none)
  else search (rtwGetIeStep mem first index limit) rounds first

def rtwGetIe (first : ℕ) (index limit : ℤ) : Reading (Option IePos) := do
  let r ← rtwGetIeLoop mem first index limit (limit.toNat + 1)
  pure r.join

/-- Whether the bytes at `p` are `oui`, if there is one. -/
def ouiMatch (oui : Option (List UInt8)) (p : ℕ) : Reading Bool :=
  match oui with
  | none => pure true
  | some oui => do
    let bytes ← readBytes mem p oui.length
    pure (decide (bytes = oui))

def idOuiMatch (eid : UInt8) (oui : Option (List UInt8)) (p : ℕ) : Reading Bool := do
  let id ← readByte mem p
  if eid = id then ouiMatch mem oui (p + 2) else pure false

/-- The counter is a `uint`. -/
def nextCnt (cnt : ℕ) : ℕ := ieEnd mem cnt % 2 ^ 32

def rtwGetIeExStep (inLen : ℕ) (eid : UInt8) (oui : Option (List UInt8)) (wants : IeWants)
    (cnt : ℕ) : Reading (Option IeFound ⊕ ℕ) := do
  if cnt < inLen then
    let hit ← idOuiMatch mem eid oui cnt
    if hit then
      let found ← handOut mem wants cnt
      pure (.inl (some found))
    else
      let n ← storeLen mem cnt
      pure (.inr ((cnt + n) % 2 ^ 32))
  else pure (.inl none)

def rtwGetIeExLoop (inLen : ℕ) (eid : UInt8) (oui : Option (List UInt8)) (wants : IeWants)
    (rounds : ℕ) : Reading (Option (Option IeFound)) :=
  search (rtwGetIeExStep mem inLen eid oui wants) rounds 0

def rtwGetIeEx (inLen : ℕ) (eid : UInt8) (oui : Option (List UInt8)) (wants : IeWants) :
    Reading (Option IeFound) := do
  let r ← rtwGetIeExLoop mem inLen eid oui wants (inLen + 1)
  pure r.join

def wpaOuiType : List UInt8 := [0x00, 0x50, 0xf2, 0x01]

/-- A round of the loop: the next vendor element from `pbuf` on. -/
def rtwGetWpaIeStep (limit : ℤ) (s : ℕ × ℤ) : Reading (Option IePos ⊕ ℕ × ℤ) := do
  let (pbuf, limitNew) := s
  match ← rtwGetIe mem pbuf wlanEidVendorSpecific.toNat limitNew with
  | none => pure (.inl none)
  | some ⟨pbuf, len⟩ =>
    let next : ℕ × ℤ := (pbuf + (2 + len), limit - pbuf - 2 - len)
    let again : Option IePos ⊕ ℕ × ℤ := if next.2 ≤ 0 then .inl none else .inr next
    let oui ← readBytes mem (pbuf + 2) 4
    if oui ≠ wpaOuiType then pure again
    else
      let version ← readBytes mem (pbuf + 6) 2
      if version ≠ [1, 0] then pure again
      else
        let len ← readByte mem (pbuf + 1)
        pure (.inl (some ⟨pbuf, len.toNat⟩))

def rtwGetWpaIeLoop (limit : ℤ) (rounds : ℕ) : Reading (Option (Option IePos)) :=
  search (rtwGetWpaIeStep mem limit) rounds (0, limit)

def rtwGetWpaIe (limit : ℤ) : Reading (Option IePos) := do
  let r ← rtwGetWpaIeLoop mem limit (limit.toNat + 1)
  pure r.join

/-- The elements that `rtw_get_sec_ie` hands out, the last one first. -/
structure SecIes where
  rsn : List IeFound := []
  wpa : List IeFound := []
  deriving DecidableEq

def fixedIeLen : ℕ := 12

/-- `rsn` and `wpa` tell whether the caller wants a copy; the lengths are always stored. -/
def rtwGetSecIeStep (inLen : ℕ) (rsn wpa : Bool) (s : ℕ × SecIes) :
    Reading (SecIes ⊕ ℕ × SecIes) := do
  let (cnt, found) := s
  if cnt < inLen then
    let authmode ← readByte mem cnt
    let isWpa ← idOuiMatch mem wlanEidVendorSpecific (some wpaOuiType) cnt
    if isWpa then
      let ie ← handOut mem ⟨wpa, true⟩ cnt
      let n ← storeLen mem cnt
      pure (.inr ((cnt + n) % 2 ^ 32, { found with wpa := ie :: found.wpa }))
    else if authmode = wlanEidRsn then
      let ie ← handOut mem ⟨rsn, true⟩ cnt
      let n ← storeLen mem cnt
      pure (.inr ((cnt + n) % 2 ^ 32, { found with rsn := ie :: found.rsn }))
    else
      let n ← storeLen mem cnt
      pure (.inr ((cnt + n) % 2 ^ 32, found))
  else pure (.inl found)

def rtwGetSecIeLoop (inLen : ℕ) (rsn wpa : Bool) (rounds : ℕ) : Reading (Option SecIes) :=
  search (rtwGetSecIeStep mem inLen rsn wpa) rounds (fixedIeLen, {})

def lastLen (found : List IeFound) (len : ℕ) : ℕ := ((found.head?.bind IeFound.ielen).getD len)

/-- `rsnLen` and `wpaLen` are what the caller left in `*rsn_len` and `*wpa_len`. -/
def rtwGetSecIe (inLen : ℕ) (rsn wpa : Bool) (rsnLen wpaLen : ℕ) : Reading (ℕ × SecIes) := do
  let r ← rtwGetSecIeLoop mem inLen rsn wpa (inLen + 1)
  let found := r.getD {}
  pure (lastLen found.rsn rsnLen + lastLen found.wpa wpaLen, found)

/-- The loop of `rtw_get_wps_ie`, `rtw_get_p2p_ie` and `rtw_get_wfd_ie`. -/
def getVendorIeStep (oui : List UInt8) (inLen : ℕ) (wants : IeWants) (cnt : ℕ) :
    Reading (Option IeFound ⊕ ℕ) := do
  if cnt + 1 + 4 < inLen then
    let _ ← readByte mem cnt
    if maxIeSz ≤ cnt + 1 + 4 then pure (.inl none)
    else
      let hit ← idOuiMatch mem wlanEidVendorSpecific (some oui) cnt
      if hit then
        let found ← handOut mem wants cnt
        pure (.inl (some found))
      else
        let n ← storeLen mem cnt
        pure (.inr (cnt + n))
  else pure (.inl none)

def getVendorIeLoop (oui : List UInt8) (inLen : ℕ) (wants : IeWants) (rounds : ℕ) :
    Reading (Option (Option IeFound)) :=
  search (getVendorIeStep mem oui inLen wants) rounds 0

def wpsOui : List UInt8 := [0x00, 0x50, 0xf2, 0x04]

def p2pOui : List UInt8 := [0x50, 0x6f, 0x9a, 0x09]

def wfdOui : List UInt8 := [0x50, 0x6f, 0x9a, 0x0a]

def rtwGetWpsIeLoop (inLen : ℕ) (wants : IeWants) (rounds : ℕ) :
    Reading (Option (Option IeFound)) :=
  getVendorIeLoop mem wpsOui inLen wants rounds

def rtwGetP2pIeLoop (inLen : ℤ) (wants : IeWants) (rounds : ℕ) :
    Reading (Option (Option IeFound)) :=
  if inLen < 0 then pure (some none) else getVendorIeLoop mem p2pOui inLen.toNat wants rounds

def rtwGetWfdIeLoop (inLen : ℤ) (wants : IeWants) (rounds : ℕ) :
    Reading (Option (Option IeFound)) :=
  if inLen < 0 then pure (some none) else getVendorIeLoop mem wfdOui inLen.toNat wants rounds

end

end Rtl8831.Core
