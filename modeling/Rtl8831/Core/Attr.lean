import Rtl8831.Core.Ie

/-!
# Attributes of WPS, P2P and Wi-Fi Display elements

The body of such an element is a string of attributes, each an id, a 16-bit length and its
data.  The three searches of `rtw_ieee80211.c` step by the length of a whole attribute,
which they keep in 16 bits too.
-/

namespace Rtl8831.Core

open Lib

structure AttrFound where
  pos : ℕ
  len : ℕ
  deriving DecidableEq

section

variable (mem : ℕ → UInt8)

def getBe16 (p : ℕ) : Reading ℕ := do
  let hi ← readByte mem p
  let lo ← readByte mem (p + 1)
  pure (hi.toNat * 256 + lo.toNat)

def getLe16 (p : ℕ) : Reading ℕ := do
  let lo ← readByte mem p
  let hi ← readByte mem (p + 1)
  pure (hi.toNat * 256 + lo.toNat)

def rtwGetWpsAttrStep (wpsIelen targetAttrId : ℕ) (p : ℕ) :
    Reading (Option AttrFound ⊕ ℕ) := do
  if p < wpsIelen then
    let attrId ← getBe16 mem p
    let attrDataLen ← getBe16 mem (p + 2)
    let attrLen := (attrDataLen + 4) % 2 ^ 16
    if attrId = targetAttrId then pure (.inl (some ⟨p, attrLen⟩)) else pure (.inr (p + attrLen))
  else pure (.inl none)

def rtwGetWpsAttr (wpsIelen targetAttrId : ℕ) (rounds : ℕ) :
    Reading (Option (Option AttrFound)) := do
  let isWps ← idOuiMatch mem wlanEidVendorSpecific (some wpsOui) 0
  if isWps then search (rtwGetWpsAttrStep mem wpsIelen targetAttrId) rounds 6
  else pure (some none)

/-- A round of `rtw_get_p2p_attr` and `rtw_get_wfd_attr`, which read the length with `get16`. -/
def getAttrStep (get16 : ℕ → Reading ℕ) (ielen targetAttrId : ℕ) (p : ℕ) :
    Reading (Option AttrFound ⊕ ℕ) := do
  if p + 3 ≤ ielen then
    let attrId ← readByte mem p
    let attrDataLen ← get16 (p + 1)
    let attrLen := (attrDataLen + 3) % 2 ^ 16
    if p + attrLen > ielen then pure (.inl none)
    else if attrId.toNat = targetAttrId then pure (.inl (some ⟨p, attrLen⟩))
    else pure (.inr (p + attrLen))
  else pure (.inl none)

def getAttr (oui : List UInt8) (get16 : ℕ → Reading ℕ) (ielen targetAttrId : ℕ) (rounds : ℕ) :
    Reading (Option (Option AttrFound)) :=
  if ielen ≤ 6 then pure (some none)
  else do
    let isIe ← idOuiMatch mem wlanEidVendorSpecific (some oui) 0
    if isIe then search (getAttrStep mem get16 ielen targetAttrId) rounds 6
    else pure (some none)

def rtwGetP2pAttr (p2pIelen : ℕ) (targetAttrId : UInt8) (rounds : ℕ) :
    Reading (Option (Option AttrFound)) :=
  getAttr mem p2pOui (getLe16 mem) p2pIelen targetAttrId.toNat rounds

def rtwGetWfdAttr (wfdIelen : ℕ) (targetAttrId : UInt8) (rounds : ℕ) :
    Reading (Option (Option AttrFound)) :=
  getAttr mem wfdOui (getBe16 mem) wfdIelen targetAttrId.toNat rounds

/-- The length of the attribute at `p`, header included. -/
def attrLenAt (get16 : ℕ → Reading ℕ) (p : ℕ) : ℕ := ((get16 (p + 1)).val + 3) % 2 ^ 16

lemma getAttrStep_val (get16 : ℕ → Reading ℕ) (ielen targetAttrId p : ℕ) :
    (getAttrStep mem get16 ielen targetAttrId p).val =
      if p + 3 ≤ ielen ∧ p + attrLenAt get16 p ≤ ielen then
        if (mem p).toNat = targetAttrId then .inl (some ⟨p, attrLenAt get16 p⟩)
        else .inr (p + attrLenAt get16 p)
      else .inl none := by
  unfold getAttrStep attrLenAt
  by_cases hfit : p + 3 ≤ ielen ∧ p + ((get16 (p + 1)).val + 3) % 2 ^ 16 ≤ ielen
  · rw [if_pos hfit.1, if_pos hfit, Reading.val_bind, Reading.val_bind,
      if_neg (not_lt.2 hfit.2)]
    by_cases hid : (mem p).toNat = targetAttrId
    · rw [if_pos (show (readByte mem p).val.toNat = targetAttrId from hid), if_pos hid]
      rfl
    · rw [if_neg (show ¬ (readByte mem p).val.toNat = targetAttrId from hid), if_neg hid]
      rfl
  · rw [if_neg hfit]
    by_cases hhead : p + 3 ≤ ielen
    · rw [if_pos hhead, Reading.val_bind, Reading.val_bind,
        if_pos (not_le.1 fun h => hfit ⟨hhead, h⟩)]
      rfl
    · rw [if_neg hhead]
      rfl

end

end Rtl8831.Core
