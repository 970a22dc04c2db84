import Rtl8831.Core.BrExt

/-!
# Frames through the bridge

A frame from a host gets the address of the station for its source, and the database learns where
the host is; a frame for a host gets the address of the host for its destination.  Both
directions have a shortcut past the database for the host seen last.
-/

namespace Rtl8831.Core.Nat25

open Lib

/-- `ethBrExtInfo` without what the other protocols read, the address of the station, whether it
is in a bridge, and what `netdev_br_init` makes of `br_mac`. -/
structure Config where
  nat25Disable : Bool
  nat25scDisable : Bool
  dhcpBcstDisable : Bool
  hwaddr : List UInt8
  brPort : Bool
  netdevBrInit : List UInt8 → List UInt8
  hz : UInt64

/-- `NAT25_METHOD` without its bounds; `NAT25_PARSE` is used nowhere. -/
inductive Method where
  | check
  | insert
  | lookup
  deriving DecidableEq

def ethPIp : List UInt8 := [0x08, 0x00]
def ethPArp : List UInt8 := [0x08, 0x06]
def ethP8021q : List UInt8 := [0x81, 0x00]

def ethHlen : ℕ := 14

namespace Skb

variable (skb : Skb)

def protocol : List UInt8 := bytesAt skb.data 12 2

/-- `iph->ihl << 2` -/
def ipHlen : ℕ := 4 * ((skb.data ethHlen).toNat % 16)

def saddr : List UInt8 := bytesAt skb.data (ethHlen + 12) 4

def daddr : List UInt8 := bytesAt skb.data (ethHlen + 16) 4

/-- The target address of an ARP packet, as `nat25_handle_frame` looks for it. -/
def arpTarget : List UInt8 := bytesAt skb.data (ethHlen + 24) 4

/-- `skb->data[0] & 1` -/
def isMcast : Bool := (skb.data 0).toNat.testBit 0

def stripVlan : Skb := ⟨fun i => if i < 12 then skb.data i else skb.data (i + 4), skb.len - 4⟩

/-- The tag `vlan_hdr` is put back. -/
def restoreVlan (vlanHdr : List UInt8) : Skb :=
  ⟨fun i => if i < 12 then skb.data i else if i < 16 then (ethP8021q ++ vlanHdr).getD (i - 12) 0
    else skb.data (i - 4), skb.len + 4⟩

end Skb

structure Outcome (Ptr : Type) where
  ret : ℤ
  skb : Skb
  priv : BrExt Ptr

section

variable {Ptr : Type} [DecidableEq Ptr] (cfg : Config) (jiffies : UInt64) (db : Option Ptr)
variable (s : BrExt Ptr) (skb : Skb)

/-- The IP part of `nat25_db_handle`. -/
def nat25DbHandleIp (method : Method) : Outcome Ptr :=
  if skb.len ≤ skb.ipHlen then ⟨-1, skb, s⟩
  else
    match method with
    | .check => ⟨-1, skb, s⟩
    | .insert =>
      if skb.saddr = List.replicate 4 0 then ⟨0, skb, s⟩
      else
        ⟨0, skb, nat25DbNetworkInsert jiffies s db skb.sa (nat25GenerateIpv4NetworkAddr skb.saddr)⟩
    | .lookup =>
      match nat25DbNetworkLookupAndReplace cfg.hz jiffies s skb
        (nat25GenerateIpv4NetworkAddr skb.daddr) with
      | (true, skb, s) => ⟨0, skb, s⟩
      | (false, skb, s) =>
        if skb.data (ethHlen + 19) = 0xff then ⟨0, skb.setDa (List.replicate 6 0xff), s⟩
        else
          let brMac := if s.brMac = List.replicate 6 0 then cfg.netdevBrInit s.brMac else s.brMac
          ⟨0, skb.setDa brMac, { s with brMac := brMac }⟩

variable (other : Method → BrExt Ptr → Skb → Outcome Ptr)

/-- `nat25_db_handle`; `other` is its part for the other protocols. -/
def nat25DbHandle (method : Method) : Outcome Ptr :=
  if skb.protocol = ethPIp then nat25DbHandleIp cfg jiffies db s skb method else other method s skb

/-- What `nat25_handle_frame` does to a frame without tag. -/
def nat25HandleUntagged : Outcome Ptr :=
  if !cfg.nat25Disable then
    if !cfg.nat25scDisable && decide (skb.protocol = ethPIp) && !rtwMemcmp s.scdbIp skb.daddr then
      ⟨0, skb.setDa s.scdbMac, s⟩
    else nat25DbHandle cfg jiffies db s skb other .lookup
  else if (skb.protocol = ethPIp ∧ !rtwMemcmp s.brIp skb.daddr) ∨
      (skb.protocol = ethPArp ∧ !rtwMemcmp s.brIp skb.arpTarget) then
    nat25DbHandle cfg jiffies db s skb other .lookup
  else ⟨0, skb, s⟩

def nat25HandleFrame : Outcome Ptr :=
  if skb.isMcast then ⟨0, skb, s⟩
  else
    let out :=
      if skb.protocol = ethP8021q then
        let out := nat25HandleUntagged cfg jiffies db s skb.stripVlan other
        { out with skb := out.skb.restoreVlan (bytesAt skb.data 14 2) }
      else nat25HandleUntagged cfg jiffies db s skb other
    { out with ret := if out.ret = -1 then -1 else 0 }

/-- `dhcp_flag_bcast`; the checksum is folded in whatever byte order, which makes no difference. -/
def dhcpFlagBcast : Skb :=
  let be16 := fun i => 256 * (skb.data i).toNat + (skb.data (i + 1)).toNat
  let udph := ethHlen + skb.ipHlen
  let flags := udph + 18
  if !cfg.dhcpBcstDisable && decide (skb.protocol = ethPIp) && skb.data (ethHlen + 9) == 17 &&
      be16 udph == 68 && be16 (udph + 2) == 67 &&
      decide (bytesAt skb.data (udph + 244) 4 = [0x63, 0x82, 0x53, 0x63]) &&
      be16 flags &&& 0x8000 == 0 then
    let flag := be16 flags ||| 0x8000
    let sum := (0xffff - be16 (udph + 6)) + flag
    let check := 0xffff - (sum % 0x10000 + sum / 0x10000)
    let bytes := fun n => [UInt8.ofNat (n / 256), UInt8.ofNat n]
    { skb with data := writeBytes (writeBytes skb.data flags (bytes flag)) (udph + 6) (bytes check) }
  else skb

/-- The shortcut in front of `rtw_br_client_tx`, for frames without tag. -/
def scdbTx : Option Ptr :=
  if !skb.isMcast && cfg.brPort && rtwMemcmp skb.sa s.brMac && decide (skb.protocol = ethPIp) &&
      !rtwMemcmp s.scdbMac skb.sa then s.scdbEntry
  else none

/-- The second shortcut: whether the database has to be asked, and the database by then. -/
def scdbUpdate : Bool × BrExt Ptr :=
  if skb.protocol = ethPIp then
    if rtwMemcmp s.scdbMac skb.sa then
      match scdbFindEntry s skb.saddr with
      | none => (true, { s with scdbEntry := none })
      | some db =>
        let s := writeEntry s db.ptr fun db => { db with ageingTimer := jiffies }
        (false, { s with scdbMac := skb.sa, scdbIp := skb.saddr, scdbEntry := some db.ptr })
    else
      match s.scdbEntry with
      | some ptr => (false, writeEntry s ptr fun db => { db with ageingTimer := jiffies })
      | none => (true, { s with scdbMac := List.replicate 6 0, scdbIp := List.replicate 4 0 })
  else (true, s)

/-- The end of `rtw_br_client_tx`, which drops the frame by its comparison. -/
def checkSa (skb : Skb) (s : BrExt Ptr) : Outcome Ptr :=
  ⟨if rtwMemcmp skb.sa cfg.hwaddr then -1 else 0, skb, s⟩

/-- `rtw_br_client_tx` once the shortcuts are decided: the database learns the host if it is
asked, the source address is replaced, and the tag is put back by `restore`. -/
def brClientTx (restore : Skb → Skb) (doNat25 : Bool) : Outcome Ptr :=
  let finish := fun skb s => checkSa cfg (restore (dhcpFlagBcast cfg (skb.setSa cfg.hwaddr))) s
  if doNat25 then
    let out := nat25DbHandle cfg jiffies db s skb other .insert
    if out.ret = -2 then { out with ret := -1 }
    else if out.ret < 0 then { out with ret := 0 }
    else finish out.skb out.priv
  else finish skb s

def setBrIp : BrExt Ptr :=
  if !rtwMemcmp skb.sa s.brMac ∧ skb.protocol = ethPIp then { s with brIp := skb.saddr } else s

def untag : Skb × (Skb → Skb) :=
  if skb.protocol = ethP8021q then
    (skb.stripVlan, fun out => out.restoreVlan (bytesAt skb.data 14 2))
  else (skb, id)

/-- `rtw_br_client_tx`, where copying the frame and making it linear succeed. -/
def rtwBrClientTx : Outcome Ptr :=
  match scdbTx cfg s skb with
  | some ptr =>
    checkSa cfg (skb.setSa cfg.hwaddr)
      (writeEntry s ptr fun db => { db with ageingTimer := jiffies })
  | none =>
    let (skb, restore) := untag skb
    let (doNat25, s) := scdbUpdate jiffies (setBrIp s skb) skb
    brClientTx cfg jiffies db s skb other restore doNat25

/-- `rtw_br_client_tx` without its shortcuts. -/
def brClientTxDb : Outcome Ptr :=
  let (skb, restore) := untag skb
  brClientTx cfg jiffies db (setBrIp s skb) skb other restore true

end

end Rtl8831.Core.Nat25
