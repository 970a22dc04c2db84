import Rtl8831.Core.IeSearch
import Rtl8831.Lib.Memory

/-!
# Neighbour reports in BSS transition frames

The frames are read in a memory that is addressed from their first byte.  The values of more
than one byte are kept as their bytes, since they are copied between frame and host as such.
-/

namespace Rtl8831.Core.Wnm

open Lib

def rtwMaxNbRptNum : ℕ := 8

def nbRptElem : UInt8 := 0x34

def candPrefSubeid : UInt8 := 3

def termDurSubeid : UInt8 := 4

/-- `BSS_TERMINATION_INCLUDED` -/
def termIncluded (reqMode : UInt8) : Bool := reqMode &&& 0x08 ≠ 0

def essDisassocIm (reqMode : UInt8) : Bool := reqMode &&& 0x10 ≠ 0

def octetsAt (mem : ℕ → UInt8) (n p : ℕ) : Fin n → UInt8 := fun i => mem (p + i)

structure NbRptHdr where
  id : UInt8
  len : UInt8
  bssid : Fin 6 → UInt8
  bssInfo : Fin 4 → UInt8
  regClass : UInt8
  chNum : UInt8
  phyType : UInt8

/-- What the cast of `p` to `struct nb_rpt_hdr *` shows. -/
def nbRptAt (mem : ℕ → UInt8) (p : ℕ) : NbRptHdr where
  id := mem p
  len := mem (p + 1)
  bssid := octetsAt mem 6 (p + 2)
  bssInfo := octetsAt mem 4 (p + 8)
  regClass := mem (p + 12)
  chNum := mem (p + 13)
  phyType := mem (p + 14)

structure BtmTermDuration where
  id : UInt8 := 0
  len : UInt8 := 0
  tsf : Fin 8 → UInt8 := fun _ => 0
  duration : Fin 2 → UInt8 := fun _ => 0

structure BtmReqHdr where
  dialogToken : UInt8
  reqMode : UInt8
  disassocTimer : Fin 2 → UInt8
  validityInterval : UInt8
  termDuration : BtmTermDuration := {}

structure WnmBtmCant where
  nbRpt : NbRptHdr
  preference : UInt8

/-- The difference of two `u32`. -/
def subU32 (a b : ℕ) : ℕ := (a + (2 ^ 32 - b)) % 2 ^ 32

section

variable (mem : ℕ → UInt8)

def rtwWnmBtmCandidatesOffsetGet : Reading ℕ := do
  let reqMode ← readByte mem 3
  let offset := 7 + if termIncluded reqMode then 12 else 0
  if essDisassocIm reqMode then
    let len ← readByte mem offset
    pure (1 + len.toNat)
  else pure offset

/-- What is read of the memory is given, the fields are its bytes. -/
def readOctets (n p : ℕ) : Reading (Fin n → UInt8) := ⟨octetsAt mem n p, List.range' p n⟩

def btmTermDurationParsing : Reading BtmTermDuration := do
  let id ← readByte mem 7
  if id = termDurSubeid then
    let len ← readByte mem 8
    let tsf ← readOctets mem 8 9
    let duration ← readOctets mem 2 17
    pure { id, len, tsf, duration }
  else pure {}

def rtwWnmBtmReqHdrParsing : Reading BtmReqHdr := do
  let dialogToken ← readByte mem 2
  let reqMode ← readByte mem 3
  let disassocTimer ← readOctets mem 2 4
  let validityInterval ← readByte mem 6
  let termDuration ← if termIncluded reqMode then btmTermDurationParsing mem else pure {}
  pure { dialogToken, reqMode, disassocTimer, validityInterval, termDuration }

/-- The preference in the subelement that has been found, if it is not empty. -/
def candPreference : Option IePos → Reading (Option UInt8)
  | none => pure none
  | some op =>
    if op.len = 0 then pure none
    else do
      let pref ← readByte mem (op.pos + 2)
      pure (some pref)

/-- The loop over the reports, with `from_btm`, in `n` rounds from `ptr` on; a report comes with
its preference. -/
def nbElemLoop (pend : ℕ) : ℕ → ℕ → ℕ → ℕ → Reading (List (NbRptHdr × Option UInt8))
  | 0, _, _, _ => pure []
  | n + 1, ptr, elemLen, subelemLen => do
    if pend < ptr + 7 ∨ elemLen < subelemLen then pure []
    else
      let id ← readByte mem ptr
      if id ≠ nbRptElem then pure []
      else
        let op ← rtwGetIe mem (ptr + 15) candPrefSubeid.toNat (subelemLen - 15)
        let next := ptr + (subelemLen + 2)
        let nextLen ← readByte mem (next + 1)
        let _ ← readBytes mem ptr 16
        let pref ← candPreference mem op
        let rest ← nbElemLoop pend n next (subU32 elemLen (subelemLen + 2)) nextLen.toNat
        pure ((nbRptAt mem ptr, pref) :: rest)

/-- `rtw_wnm_nb_elem_parsing` with `from_btm`. -/
def rtwWnmNbElemParsing (pdata dataLen : ℕ) : Reading (List (NbRptHdr × Option UInt8)) := do
  let subelemLen ← readByte mem (pdata + 1)
  nbElemLoop mem (pdata + dataLen) rtwMaxNbRptNum pdata dataLen subelemLen.toNat

end

end Rtl8831.Core.Wnm
