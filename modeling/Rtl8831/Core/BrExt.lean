import Rtl8831.Lib.Buckets
import Rtl8831.Lib.Memory

/-!
# The address database of the bridge

A station has one MAC address and forwards frames for many hosts behind it.  The database maps
the network addresses of the hosts to their MAC addresses.  Its entries hang in hash chains.
-/

namespace Rtl8831.Core.Nat25

open Lib

/-- `_rtw_memcmp` is true for equal strings, unlike `memcmp`. -/
def rtwMemcmp (dst src : List UInt8) : Bool := decide (dst = src)

def nat25HashSize : ℕ := 16

def maxNetworkAddrLen : ℕ := 17

def nat25Ipv4 : UInt8 := 1
def nat25Ipv6 : UInt8 := 2
def nat25Ipx : UInt8 := 3
def nat25Apple : UInt8 := 4
def nat25Pppoe : UInt8 := 5

/-- The bytes `i`, …, `i + n - 1`, combined by `^`. -/
def xorBytes (networkAddr : List UInt8) (i n : ℕ) : UInt8 :=
  ((networkAddr.drop i).take n).foldl (· ^^^ ·) 0

def nat25NetworkHash (networkAddr : List UInt8) : ℕ :=
  let type := networkAddr.getD 0 0
  let x :=
    if type = nat25Ipv4 then xorBytes networkAddr 7 4
    else if type = nat25Ipx then xorBytes networkAddr 1 10
    else if type = nat25Apple then xorBytes networkAddr 1 3
    else if type = nat25Pppoe then xorBytes networkAddr 0 9
    else if type = nat25Ipv6 then xorBytes networkAddr 1 16
    else xorBytes networkAddr 0 maxNetworkAddrLen
  x.toNat % nat25HashSize

/-- `struct nat25_network_db_entry` at the address `ptr`. -/
structure DbEntry (Ptr : Type) where
  ptr : Ptr
  useCount : UInt32
  macAddr : List UInt8
  ageingTimer : UInt64
  networkAddr : List UInt8
  deriving DecidableEq

def nat25AgeingTime : UInt64 := 300

/-- `__nat25_has_expired`, where `time_before_eq` looks at the sign of the difference. -/
def nat25HasExpired {Ptr : Type} (hz jiffies : UInt64) (fdb : DbEntry Ptr) : Bool :=
  decide ((jiffies - nat25AgeingTime * hz - fdb.ageingTimer).toNat < 2 ^ 63)

/-- The chains, the entry of the shortcut with its addresses, and the addresses of the bridge. -/
structure BrExt (Ptr : Type) where
  nethash : ℕ → List (DbEntry Ptr)
  scdbMac : List UInt8
  scdbIp : List UInt8
  scdbEntry : Option Ptr
  brMac : List UInt8
  brIp : List UInt8

/-- `skb->data` as far as memory goes, and `skb->len`. -/
structure Skb where
  data : ℕ → UInt8
  len : ℕ

def Skb.da (skb : Skb) : List UInt8 := bytesAt skb.data 0 6

def Skb.sa (skb : Skb) : List UInt8 := bytesAt skb.data 6 6

def Skb.setDa (skb : Skb) (mac : List UInt8) : Skb := { skb with data := writeBytes skb.data 0 mac }

def Skb.setSa (skb : Skb) (mac : List UInt8) : Skb := { skb with data := writeBytes skb.data 6 mac }

section

variable {Ptr : Type} [DecidableEq Ptr] (hz jiffies : UInt64) (s : BrExt Ptr)

def isMatch (networkAddr : List UInt8) (db : DbEntry Ptr) : Bool :=
  !rtwMemcmp db.networkAddr networkAddr

def writeEntry (ptr : Ptr) (f : DbEntry Ptr → DbEntry Ptr) : BrExt Ptr :=
  { s with nethash := fun i => (s.nethash i).map fun db => if db.ptr = ptr then f db else db }

def nat25DbNetworkLookupAndReplace (skb : Skb) (networkAddr : List UInt8) :
    Bool × Skb × BrExt Ptr :=
  match (s.nethash (nat25NetworkHash networkAddr)).find? (isMatch networkAddr) with
  | some db =>
    if nat25HasExpired hz jiffies db then (true, skb, s)
    else
      (true, skb.setDa db.macAddr,
        writeEntry s db.ptr fun db => { db with useCount := db.useCount + 1 })
  | none => (false, skb, s)

def networkHashLink (ent : DbEntry Ptr) (hash : ℕ) : BrExt Ptr :=
  { s with nethash := Function.update s.nethash hash (ent :: s.nethash hash) }

/-- `__nat25_db_network_insert`; `db` is what `rtw_malloc` returns. -/
def nat25DbNetworkInsert (db : Option Ptr) (macAddr networkAddr : List UInt8) : BrExt Ptr :=
  let hash := nat25NetworkHash networkAddr
  match (s.nethash hash).find? (isMatch networkAddr) with
  | some db =>
    writeEntry s db.ptr fun db => { db with macAddr := macAddr, ageingTimer := jiffies }
  | none =>
    match db with
    | none => s
    | some ptr => networkHashLink s ⟨ptr, 1, macAddr, jiffies, networkAddr⟩ hash

def entries : List (DbEntry Ptr) := Buckets.contents nat25HashSize s.nethash

/-- The entries are unlinked one by one, and the shortcut is forgotten with its entry. -/
def unlinkEntries (keep : DbEntry Ptr → Option (DbEntry Ptr)) : BrExt Ptr :=
  let s' := { s with nethash := fun i => (s.nethash i).filterMap keep }
  if (entries s).any fun f => (keep f).isNone && decide (s.scdbEntry = some f.ptr) then
    { s' with scdbMac := List.replicate 6 0, scdbIp := List.replicate 4 0, scdbEntry := none }
  else s'

def nat25DbCleanup : BrExt Ptr := unlinkEntries s fun _ => none

/-- What `nat25_db_expire` does to an entry; `atomic_dec_and_test` tells whether it goes. -/
def expireEntry (f : DbEntry Ptr) : Option (DbEntry Ptr) :=
  if nat25HasExpired hz jiffies f then
    if f.useCount - 1 = 0 then none else some { f with useCount := f.useCount - 1 }
  else some f

def nat25DbExpire : BrExt Ptr := unlinkEntries s (expireEntry hz jiffies)

def nat25GenerateIpv4NetworkAddr (ipAddr : List UInt8) : List UInt8 :=
  nat25Ipv4 :: (List.replicate 6 0 ++ ipAddr ++ List.replicate 6 0)

def scdbFindEntry (ipAddr : List UInt8) : Option (DbEntry Ptr) :=
  let networkAddr := nat25GenerateIpv4NetworkAddr ipAddr
  (s.nethash (nat25NetworkHash networkAddr)).find? (isMatch networkAddr)

end

end Rtl8831.Core.Nat25
