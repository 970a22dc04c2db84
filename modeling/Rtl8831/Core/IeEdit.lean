import Rtl8831.Core.Ie
import Rtl8831.Lib.Memory

/-!
# Editing a list of elements in place

`ies` is the start of the memory; the list of elements lies behind `ies_offset` bytes of
other fields.  A tail that has to move is kept in a backup buffer; `alloc` tells whether
there is memory for one.
-/

namespace Rtl8831.Core

open Lib (Reading readByte search bytesAt writeBytes)

/-- `uint` and `u32` subtraction. -/
def sub32 (a b : ℕ) : ℕ := (a + 2 ^ 32 - b % 2 ^ 32) % 2 ^ 32

lemma sub32_of_le {a b : ℕ} (hle : b ≤ a) (ha : a < 2 ^ 32) : sub32 a b = a - b := by
  unfold sub32
  omega

/-- `ies` and `*ies_len` after a call, and whether it returns `_SUCCESS`. -/
structure IesEdit where
  mem : ℕ → UInt8
  iesLen : ℕ
  success : Bool

section

variable (alloc : Bool) (mem : ℕ → UInt8) (iesLen offset : ℕ)

/-- The bytes at `target` are replaced by `bytes` and its length byte by `lenByte`; the tail
behind `oldEnd` is moved to the end of the new bytes if their length differs. -/
def replaceIe (target oldEnd writeAt : ℕ) (lenByte : UInt8) (bytes : List UInt8) : IesEdit :=
  let start := offset
  let searchLen := sub32 iesLen offset
  let mem' := writeBytes (writeBytes mem writeAt bytes) (target + 1) [lenByte]
  if oldEnd = writeAt + bytes.length then ⟨mem', iesLen, true⟩
  else
    let remainLen := sub32 searchLen (oldEnd - start)
    if alloc then
      let backupIes := bytesAt mem oldEnd remainLen
      ⟨writeBytes mem' (writeAt + bytes.length) backupIes,
        sub32 (iesLen + bytes.length) (oldEnd - writeAt), true⟩
    else ⟨mem, iesLen, false⟩

def rtwIesUpdateIe (eid : UInt8) (content : List UInt8) : IesEdit :=
  if iesLen = 0 ∨ iesLen ≤ offset then ⟨mem, iesLen, false⟩
  else
    match (rtwGetIe mem offset eid.toNat (sub32 iesLen offset)).val with
    | none => ⟨mem, iesLen, false⟩
    | some ⟨targetIe, targetIelen⟩ =>
      if targetIelen = 0 then ⟨mem, iesLen, false⟩
      else replaceIe alloc mem iesLen offset targetIe (targetIe + 2 + targetIelen) (targetIe + 2)
        (UInt8.ofNat content.length) content

def rtwIesUpdateIeEx (eidEx : UInt8) (content : List UInt8) : IesEdit :=
  if iesLen = 0 ∨ iesLen ≤ offset then ⟨mem, iesLen, false⟩
  else
    match (rtwGetIeEx (fun i => mem (offset + i)) (sub32 iesLen offset) wlanEidExtension
        (some [eidEx]) ⟨false, true⟩).val with
    | none => ⟨mem, iesLen, false⟩
    | some found =>
      let targetIe := offset + found.pos
      let targetIelen := found.ielen.getD 0
      if targetIelen = 0 then ⟨mem, iesLen, false⟩
      else replaceIe alloc mem iesLen offset targetIe (targetIe + targetIelen) targetIe
        (UInt8.ofNat content.length - 2) content

/-- A round of the loop with `dst_ie` and `pcurrent`. -/
def addIeStep (searchLen : ℕ) (eid : UInt8) (s : Option ℕ × ℕ) :
    Reading ((Option ℕ × ℕ) ⊕ (Option ℕ × ℕ)) := do
  let (dstIe, pcurrent) := s
  if pcurrent - offset ≤ searchLen then
    if pcurrent - offset = searchLen then pure (.inl (some pcurrent, pcurrent))
    else
      let elementId ← readByte mem pcurrent
      if eid < elementId then pure (.inl (some pcurrent, pcurrent))
      else
        let length ← readByte mem (pcurrent + 1)
        let next := pcurrent + (length.toNat + 2)
        if elementId = eid then pure (.inl (some pcurrent, next))
        else pure (.inr (some pcurrent, next))
  else pure (.inl (dstIe, pcurrent))

/-- `none` stands for a write to NULL: the backup buffer is used unchecked. -/
def rtwIesAddIe (eid : UInt8) (content : List UInt8) : Option IesEdit :=
  if iesLen = 0 ∨ iesLen ≤ offset then some ⟨mem, iesLen, false⟩
  else
    let searchLen := sub32 iesLen offset
    match (search (addIeStep mem offset searchLen eid) (searchLen + 2) (none, offset)).val with
    | some (some dstIe, pcurrent) =>
      let remainderIelen := sub32 iesLen pcurrent
      let mem' := writeBytes mem dstIe (eid :: UInt8.ofNat content.length :: content)
      let dstEnd := dstIe + 2 + content.length
      if remainderIelen = 0 then some ⟨mem', (dstEnd + remainderIelen) % 2 ^ 32, true⟩
      else if alloc then
        some ⟨writeBytes mem' dstEnd (bytesAt mem pcurrent remainderIelen),
          (dstEnd + remainderIelen) % 2 ^ 32, true⟩
      else none
    | _ => some ⟨mem, iesLen, false⟩

/-- The loop of `rtw_ies_remove_ie`: what it has done so far, and where it searches on. -/
structure IesRemove where
  edit : IesEdit
  start : ℕ
  searchLen : ℕ

def removeIeStep (eid : UInt8) (oui : Option (List UInt8)) (s : IesRemove) :
    Reading (IesEdit ⊕ IesRemove) := do
  let mem := s.edit.mem
  match ← rtwGetIeEx (fun i => mem (s.start + i)) s.searchLen eid oui ⟨false, true⟩ with
  | none => pure (.inl s.edit)
  | some found =>
    let targetIe := s.start + found.pos
    let targetIelen := found.ielen.getD 0
    if targetIelen = 0 then pure (.inl s.edit)
    else
      let remainIes := targetIe + targetIelen
      let remainLen := sub32 s.searchLen (remainIes - s.start)
      pure (.inr
        { edit :=
            { mem := writeBytes mem targetIe (bytesAt mem remainIes remainLen)
              iesLen := sub32 s.edit.iesLen targetIelen
              success := true }
          start := targetIe
          searchLen := remainLen })

/-- `none` if the loop takes more than `rounds` rounds. -/
def rtwIesRemoveIe (eid : UInt8) (oui : Option (List UInt8)) (rounds : ℕ) : Option IesEdit :=
  if iesLen ≤ offset then some ⟨mem, iesLen, false⟩
  else
    (search (removeIeStep eid oui) rounds ⟨⟨mem, iesLen, false⟩, offset, sub32 iesLen offset⟩).val

end

end Rtl8831.Core
