import Rtl8831.Lib.Index

/-!
# IEEE 802.11 frames as byte strings

The accessors of `wifi.h` and the cipher constants of `rtw_security.h`.  A
read behind the end of a byte string yields zero.
-/

namespace Rtl8831.Core

def byteAt (p : List UInt8) (i : ℕ) : UInt8 := p.getD i 0

def le16At (p : List UInt8) (i : ℕ) : ℕ := (byteAt p i).toNat + 256 * (byteAt p (i + 1)).toNat

def be16At (p : List UInt8) (i : ℕ) : ℕ := 256 * (byteAt p i).toNat + (byteAt p (i + 1)).toNat

/-- The `n` bytes at offset `i`. -/
def slice (p : List UInt8) (i n : ℕ) : List UInt8 := (p.drop i).take n

def getFrameType (p : List UInt8) : ℕ := le16At p 0 &&& 12

def wifiDataType : ℕ := 8

def getFrameSubType (p : List UInt8) : ℕ := le16At p 0 &&& 252

def getToDs (p : List UInt8) : Bool := (le16At p 0).testBit 8

def getFrDs (p : List UInt8) : Bool := (le16At p 0).testBit 9

def getToFrDs (p : List UInt8) : ℕ := 2 * (getToDs p).toNat + (getFrDs p).toNat

def getMFrag (p : List UInt8) : Bool := (le16At p 0).testBit 10

def getPrivacy (p : List UInt8) : Bool := (le16At p 0).testBit 14

def getOrder (p : List UInt8) : Bool := (le16At p 0).testBit 15

def getSequence (p : List UInt8) : ℕ := le16At p 22 / 16

def getFragNum (p : List UInt8) : Fin 16 := Fin.ofNat 16 (le16At p 22)

def getAddr1 (p : List UInt8) : List UInt8 := slice p 4 6

def getAddr2 (p : List UInt8) : List UInt8 := slice p 10 6

def getAddr3 (p : List UInt8) : List UInt8 := slice p 16 6

def getAddr4 (p : List UInt8) : List UInt8 := slice p 24 6

def isMcast (addr : List UInt8) : Bool := (byteAt addr 0).toNat.testBit 0

/-- The TID of the QoS control field at offset `i`. -/
def getPriority (p : List UInt8) (i : ℕ) : ℕ := le16At p i % 16

def getAMsdu (p : List UInt8) (i : ℕ) : Bool := (le16At p i).testBit 7

/-- `enum security_type`, as far as it is used for data frames. -/
inductive SecurityType where
  | noPrivacy
  | wep40
  | tkip
  | tkipWtmic
  | aes
  | wep104
  | sms4
  | gcmp
  | ccmp256
  | gcmp256
  deriving DecidableEq

def SecurityType.hasCcmpHeader : SecurityType → Bool
  | .aes | .ccmp256 | .gcmp | .gcmp256 => true
  | _ => false

/-- The IV part of `SET_ICE_IV_LEN`. -/
def SecurityType.ivLen : SecurityType → ℕ
  | .wep40 | .wep104 => 4
  | .tkip | .aes | .gcmp | .gcmp256 | .ccmp256 => 8
  | .sms4 => 18
  | _ => 0

/-- The ICV part of `SET_ICE_IV_LEN`. -/
def SecurityType.icvLen : SecurityType → ℕ
  | .wep40 | .wep104 | .tkip => 4
  | .aes => 8
  | .gcmp | .gcmp256 | .ccmp256 | .sms4 => 16
  | _ => 0

end Rtl8831.Core
