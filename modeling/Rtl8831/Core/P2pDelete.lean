import Rtl8831.Core.Attr
import Rtl8831.Core.IeEdit

/-!
# Deleting P2P and Wi-Fi Display elements and attributes

Both kinds have the same routines; they differ in the searches.  Each loop searches anew in
the buffer that it has just shifted.  A loop that takes more than `rounds` rounds, or calls
a search that does, has no result.
-/

namespace Rtl8831.Core

open Lib (Reading readByte search bytesAt writeBytes)

/-- The `uint` that is passed where the search takes an `int`. -/
def toInt32 (n : ℕ) : ℤ := if n % 2 ^ 32 < 2 ^ 31 then n % 2 ^ 32 else n % 2 ^ 32 - 2 ^ 32

lemma toInt32_of_lt {n : ℕ} (h : n < 2 ^ 31) : toInt32 n = n := by
  unfold toInt32
  omega

/-- A buffer and the length of what it holds: `ies` with `ies_len`, `ie` with `ielen`, the `IEs`
of a `WLAN_BSSID_EX` with its `IELength`. -/
structure IesBuf where
  mem : ℕ → UInt8
  len : ℕ

abbrev IeSearch := (ℕ → UInt8) → ℤ → IeWants → ℕ → Reading (Option (Option IeFound))

abbrev AttrSearch := (ℕ → UInt8) → ℕ → UInt8 → ℕ → Reading (Option (Option AttrFound))

/-- The element at `targetIe` is taken out, and zeros fill up behind. -/
def removeTarget (ies : ℕ) (s : IesBuf) (targetIe targetIeLen : ℕ) : IesBuf :=
  let nextIe := targetIe + targetIeLen
  let remainLen := sub32 s.len (nextIe - ies)
  let moved := writeBytes s.mem targetIe (bytesAt s.mem nextIe remainLen)
  { mem := writeBytes moved (targetIe + remainLen) (List.replicate targetIeLen 0)
    len := sub32 s.len targetIeLen }

def removeAttr (ie : ℕ) (s : IesBuf) (targetAttr targetAttrLen : ℕ) : IesBuf :=
  let r := removeTarget ie s targetAttr targetAttrLen
  { r with mem := writeBytes r.mem (ie + 1) [r.mem (ie + 1) - UInt8.ofNat targetAttrLen] }

section

variable (getIe : IeSearch) (getAttr : AttrSearch) (rounds : ℕ)

def delIeStep (ies : ℕ) (s : IesBuf) : Reading (Option IesBuf ⊕ IesBuf) := do
  match ← getIe (fun i => s.mem (ies + i)) (toInt32 s.len) ⟨false, true⟩ rounds with
  | none => pure (.inl none)
  | some none => pure (.inl (some s))
  | some (some found) =>
    let targetIeLen := found.ielen.getD 0
    if targetIeLen = 0 then pure (.inl (some s))
    else pure (.inr (removeTarget ies s (ies + found.pos) targetIeLen))

def delIe (ies : ℕ) (s : IesBuf) : Option IesBuf :=
  (search (delIeStep getIe rounds ies) rounds s).val.join

def delAttrStep (attrId : UInt8) (ie : ℕ) (s : IesBuf) : Reading (Option IesBuf ⊕ IesBuf) := do
  match ← getAttr (fun i => s.mem (ie + i)) s.len attrId rounds with
  | none => pure (.inl none)
  | some none => pure (.inl (some s))
  | some (some found) =>
    if found.len = 0 then pure (.inl (some s))
    else pure (.inr (removeAttr ie s (ie + found.pos) found.len))

def delAttr (attrId : UInt8) (ie : ℕ) (s : IesBuf) : Option IesBuf :=
  (search (delAttrStep getAttr rounds attrId ie) rounds s).val.join

/-- `IEs` is at 0 and the elements start at `offset`, behind the fixed fields. -/
def bssExDelIe (offset : ℕ) (bss : IesBuf) : Option IesBuf :=
  let iesLenOri := sub32 bss.len offset
  match delIe getIe rounds offset ⟨bss.mem, iesLenOri⟩ with
  | none => none
  | some r => some { mem := r.mem, len := sub32 bss.len (sub32 iesLenOri r.len) }

/-- The loop of `rtw_bss_ex_del_p2p_attr`. -/
structure BssExDel where
  bss : IesBuf
  ies : ℕ
  iesLen : ℕ

/-- The element at `ie` has become `r`, and what lies behind it closes up. -/
def BssExDel.goOn (s : BssExDel) (ie ieLenOri : ℕ) (r : IesBuf) : BssExDel :=
  let nextIeOri := ie + ieLenOri
  let remainLen := sub32 s.bss.len nextIeOri
  if r.len ≠ ieLenOri then
    let nextIe := ie + r.len
    let moved := writeBytes r.mem nextIe (bytesAt r.mem nextIeOri remainLen)
    let zeros := List.replicate (sub32 ieLenOri r.len) 0
    { bss :=
        { mem := writeBytes moved (nextIe + remainLen) zeros
          len := sub32 s.bss.len (sub32 ieLenOri r.len) }
      ies := nextIe
      iesLen := remainLen }
  else { bss := { mem := r.mem, len := s.bss.len }, ies := nextIeOri, iesLen := remainLen }

def bssExDelAttrStep (attrId : UInt8) (s : BssExDel) : Reading (Option IesBuf ⊕ BssExDel) := do
  match ← getIe (fun i => s.bss.mem (s.ies + i)) (toInt32 s.iesLen) ⟨false, true⟩ rounds with
  | none => pure (.inl none)
  | some none => pure (.inl (some s.bss))
  | some (some found) =>
    let ie := s.ies + found.pos
    let ieLenOri := found.ielen.getD 0
    match delAttr getAttr rounds attrId ie ⟨s.bss.mem, ieLenOri⟩ with
    | none => pure (.inl none)
    | some r => pure (.inr (s.goOn ie ieLenOri r))

def bssExDelAttr (attrId : UInt8) (offset : ℕ) (bss : IesBuf) : Option IesBuf :=
  (search (bssExDelAttrStep getIe getAttr rounds attrId) rounds
    ⟨bss, offset, sub32 bss.len offset⟩).val.join

end

def rtwDelP2pIe := delIe rtwGetP2pIeLoop

def rtwDelWfdIe := delIe rtwGetWfdIeLoop

def rtwDelP2pAttr := delAttr rtwGetP2pAttr

def rtwDelWfdAttr := delAttr rtwGetWfdAttr

def rtwBssExDelP2pIe := bssExDelIe rtwGetP2pIeLoop

def rtwBssExDelWfdIe := bssExDelIe rtwGetWfdIeLoop

def rtwBssExDelP2pAttr := bssExDelAttr rtwGetP2pIeLoop rtwGetP2pAttr

def rtwBssExDelWfdAttr := bssExDelAttr rtwGetWfdIeLoop rtwGetWfdAttr

end Rtl8831.Core
