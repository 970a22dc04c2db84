import Rtl8831.Core.Attr
import Rtl8831.Core.RecvPath

/-!
# Taking an A-MSDU apart

`amsdu_to_msdu` on the memory of the received frame, with `pdata` and `a_len` as the source
has them.  A subframe is a header of two addresses and a length, the MSDU and padding to a
multiple of four.
-/

namespace Rtl8831.Core

open Lib (Reading readByte readBytes search)

def maxSubframeCount : ℕ := 64

/-- `pdata`, `a_len`, `nr_subframes`, and the packets so far. -/
structure AmsduState where
  pdata : ℕ
  aLen : ℕ
  nrSubframes : ℕ
  out : RxOut

section

variable (cfg : RecvCfg) (a : RxAttrib) (alloc : ℕ → Bool) (mem : ℕ → UInt8)

/-- `rtw_recv_llc_parse` on the memory. -/
def llcParse (msdu msduLen : ℕ) : Reading Bool :=
  if msduLen < 8 then pure false
  else do
    let ethType ← getBe16 mem (msdu + 6)
    let header ← readBytes mem msdu 6
    pure ((decide (header = rfc1042Header) && decide (ethType ≠ 0x80f3) &&
      decide (ethType ≠ 0x8137)) || decide (header = bridgeTunnelHeader))

/-- What follows `move_to_next`, behind a subframe of length `n`. -/
def moveToNext (n : ℕ) (s : AmsduState) : RxOut ⊕ AmsduState :=
  let pdata := s.pdata + 14
  let aLen := s.aLen - 14
  if maxSubframeCount ≤ s.nrSubframes then .inl s.out
  else
    let pdata := pdata + n
    let aLen := aLen - n
    if aLen ≠ 0 then
      let paddingLen := if 4 - (n + 14) % 4 = 4 then 0 else 4 - (n + 14) % 4
      if aLen < paddingLen then .inl s.out
      else .inr { s with pdata := pdata + paddingLen, aLen := aLen - paddingLen }
    else .inr { s with pdata, aLen }

/-- A packet goes where `act` says. -/
def RxOut.give (out : RxOut) (act : Bool × Bool) (pkt : List UInt8) : RxOut where
  indicated := if act.1 then out.indicated ++ [pkt] else out.indicated
  forwarded := if act.2 then out.forwarded ++ [pkt] else out.forwarded

/-- A round of the loop.  `alloc` tells whether there is memory for the packet of the subframe
at an address. -/
def amsduStep (s : AmsduState) : Reading (RxOut ⊕ AmsduState) := do
  if s.aLen ≤ 14 then pure (.inl s.out)
  else
    let n ← getBe16 mem (s.pdata + 12)
    if s.aLen < 14 + n then pure (.inl s.out)
    else
      let da ← readBytes mem s.pdata 6
      let sa ← readBytes mem (s.pdata + 6) 6
      if validateAmsduContent cfg a da sa = false then pure (.inl s.out)
      else
        let llc ← llcParse mem (s.pdata + 14) n
        let act := msduActCheck cfg da sa
        if act = (false, false) then pure (moveToNext n s)
        else if alloc s.pdata = false then pure (.inl s.out)
        else
          let msdu ← readBytes mem (s.pdata + 14) n
          let nr := if act.1 then s.nrSubframes + 1 else s.nrSubframes
          pure (moveToNext n { s with
            nrSubframes := nr, out := s.out.give act (allocMsduPkt da sa msdu llc) })

end

/-- The frame without header and IV, in front of which `rx_data` then stands. -/
def pullHeader (f : RecvFrame) : RecvFrame :=
  recvframePull (recvframePull f f.attrib.hdrlen) f.attrib.ivLen

def amsduFrame (f : RecvFrame) : RecvFrame :=
  if f.attrib.encrypt ≠ .noPrivacy then recvframePullTail (pullHeader f) f.attrib.icvLen
  else pullHeader f

/-- `amsdu_to_msdu` on the memory of the frame that was received. -/
def amsduToMsduAt (cfg : RecvCfg) (alloc : ℕ → Bool) (f : RecvFrame) (rounds : ℕ) :
    Reading (Option RxOut) :=
  search (amsduStep cfg f.attrib alloc (byteAt f.data)) rounds
    { pdata := f.data.length - (pullHeader f).data.length
      aLen := (amsduFrame f).data.length
      nrSubframes := 0
      out := {} }

end Rtl8831.Core
