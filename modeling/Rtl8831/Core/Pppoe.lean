import Rtl8831.Lib.Memory

/-!
# The relay tag of PPPoE discovery

A discovery frame that goes out gets a relay tag with the MAC address of its sender; the answer
carries the tag back, and the address is taken out of it again.  A relay tag that the sender had
put into the frame himself is kept behind the address.
-/

namespace Rtl8831.Core.Pppoe

open Lib

/-- `PTT_RELAY_SID` in host byte order. -/
def pttRelaySid : ℕ := 0x0110

def tagHdrLen : ℕ := 4

/-- `MAGIC_CODE`, `MAGIC_CODE_LEN` and `RTL_RELAY_TAG_LEN` -/
def magicCode : ℕ := 0x8186
def magicCodeLen : ℕ := 2
def rtlRelayTagLen : ℕ := 6

inductive Code where
  | padi
  | pado
  | padr
  | pads
  | other
  deriving DecidableEq

def Code.ofByte (b : UInt8) : Code :=
  if b = 0x09 then .padi else if b = 0x07 then .pado else if b = 0x19 then .padr
  else if b = 0x65 then .pads else .other

/-- `skb->data` as far as memory goes, `skb->len` and the tailroom. -/
structure SkBuff where
  data : ℕ → UInt8
  len : ℕ
  tailroom : ℕ

/-- `ntohs` of the two bytes at `i`. -/
def be16 (mem : ℕ → UInt8) (i : ℕ) : ℕ := 256 * (mem i).toNat + (mem (i + 1)).toNat

/-- The two bytes of `htons (n)`. -/
def htons (n : ℕ) : List UInt8 := [UInt8.ofNat (n / 256), UInt8.ofNat n]

/-- The two bytes at `i` as the host reads them, without `ntohs`. -/
def host16 (bigEndian : Bool) (mem : ℕ → UInt8) (i : ℕ) : ℕ :=
  if bigEndian then be16 mem i else 256 * (mem (i + 1)).toNat + (mem i).toNat

/-- Where the fields of the header are: `ETH_HLEN` and the offsets in `struct pppoe_hdr`. -/
def codeAt : ℕ := 15
def sidAt : ℕ := 16
def lengthAt : ℕ := 18
def tagAt : ℕ := 20

/-- The loop of `__nat25_find_pppoe_tag`, which steps over at least four bytes each time. -/
def findTagFrom (mem : ℕ → UInt8) (length type : ℕ) : ℕ → ℕ → Option ℕ
  | 0, _ => none
  | k + 1, cur =>
    if cur < length then
      if be16 mem (tagAt + cur) = type then some (tagAt + cur)
      else findTagFrom mem length type k (cur + tagHdrLen + be16 mem (tagAt + cur + 2))
    else none

/-- `__nat25_find_pppoe_tag`, as an offset into the frame. -/
def nat25FindPppoeTag (mem : ℕ → UInt8) (type : ℕ) : Option ℕ :=
  findTagFrom mem (be16 mem lengthAt) type (be16 mem lengthAt + 1) 0

namespace SkBuff

variable (skb : SkBuff)

def code : Code := Code.ofByte (skb.data codeAt)

def da : List UInt8 := bytesAt skb.data 0 6

def sa : List UInt8 := bytesAt skb.data 6 6

def write (p : ℕ) (bytes : List UInt8) : SkBuff := { skb with data := writeBytes skb.data p bytes }

/-- `ph->length = htons (n)`, cut to sixteen bits. -/
def setLength (n : ℕ) : SkBuff := skb.write lengthAt (htons (n % 0x10000))

def pullAndMerge (src len : ℕ) : Option SkBuff :=
  if skb.len < src + len ∨ skb.len < len then none
  else
    let tail := bytesAt skb.data (src + len) (skb.len - (src + len))
    some ⟨writeBytes skb.data src tail, skb.len - len, skb.tailroom + len⟩

/-- `__nat25_add_pppoe_tag`; `tag` is the memory from the new tag on. -/
def addPppoeTag (bigEndian : Bool) (tag : ℕ → UInt8) : Option SkBuff :=
  let dataLen := host16 bigEndian tag 2 + tagHdrLen
  if skb.tailroom < dataLen then none
  else
    let length := be16 skb.data lengthAt
    let skb := { skb with len := skb.len + dataLen, tailroom := skb.tailroom - dataLen }
    let skb := skb.write (tagAt + dataLen) (bytesAt skb.data tagAt length)
    let skb := skb.setLength (length + dataLen)
    some (skb.write tagAt (bytesAt tag 0 dataLen))

end SkBuff

/-- The relay tag that the frame has is taken out, its value copied into `tag_buf`. -/
def takeOldTag (skb : SkBuff) (stack : ℕ → UInt8) : Option (SkBuff × (ℕ → UInt8) × ℕ) :=
  match nat25FindPppoeTag skb.data pttRelaySid with
  | none => some (skb, stack, 0)
  | some old =>
    let oldTagLen := be16 skb.data (old + 2)
    if 40 < oldTagLen + tagHdrLen + magicCodeLen + rtlRelayTagLen then none
    else
      let tag := writeBytes stack (tagHdrLen + magicCodeLen + rtlRelayTagLen)
        (bytesAt skb.data (old + tagHdrLen) oldTagLen)
      (skb.pullAndMerge old (tagHdrLen + oldTagLen)).map fun skb =>
        let length := be16 skb.data lengthAt
        (skb.setLength (length + 0x10000 - (tagHdrLen + oldTagLen)), tag, oldTagLen)

/-- The header, the magic code and the address of the client are written into `tag_buf`. -/
def fillTag (tag : ℕ → UInt8) (oldTagLen : ℕ) (mac : List UInt8) : ℕ → UInt8 :=
  writeBytes tag 0
    (htons pttRelaySid ++ htons (magicCodeLen + rtlRelayTagLen + oldTagLen) ++ htons magicCode ++ mac)

/-- `nat25_db_handle` for `NAT25_INSERT` of a PPPoE frame without session, with `addPPPoETag` set;
`none` stands for a negative result, and `stack` is the memory at `tag_buf`. -/
def insertRelayTag (bigEndian : Bool) (stack : ℕ → UInt8) (skb : SkBuff) : Option SkBuff :=
  if be16 skb.data sidAt = 0 ∧ (skb.code = .padi ∨ skb.code = .padr) then do
    let (skb, tag, oldTagLen) ← takeOldTag skb stack
    skb.addPppoeTag bigEndian (fillTag tag oldTagLen skb.sa)
  else none

/-- `nat25_db_handle` for `NAT25_LOOKUP` of `PADO` and `PADS`, with `addPPPoETag` set. -/
def lookupRelayTag (skb : SkBuff) : Option SkBuff :=
  if skb.code = .pado ∨ skb.code = .pads then do
    let ptr ← nat25FindPppoeTag skb.data pttRelaySid
    let tagLen := be16 skb.data (ptr + 2)
    if tagLen < magicCodeLen + rtlRelayTagLen then none
    else if be16 skb.data (ptr + tagHdrLen) ≠ magicCode then none
    else do
      let skb := skb.write 0
        (bytesAt skb.data (ptr + tagHdrLen + magicCodeLen) rtlRelayTagLen)
      let offset := if magicCodeLen + rtlRelayTagLen < tagLen then tagHdrLen else 0
      let removed := tagHdrLen + magicCodeLen + rtlRelayTagLen - offset
      let skb ← skb.pullAndMerge (ptr + offset) removed
      let skb := skb.setLength (be16 skb.data lengthAt + 0x10000 - removed)
      some (if 0 < offset then skb.write (ptr + 2) (htons (tagLen - (magicCodeLen + rtlRelayTagLen)))
        else skb)
  else none

end Rtl8831.Core.Pppoe
