import Rtl8831.Lib.Keyed
import Rtl8831.Lib.Lease

/-!
# Packets offloaded to the firmware

The driver can put packets of a station into the memory of the firmware, which then sends them
by itself.  `phl_pkt_ofld.c` counts for each station and type of packet who asked for it, adds
the packet for the first request, deletes it after the last one, and tells the firmware the ids
of some of the packets.
-/

namespace Rtl8831.Phl.PktOfld

open Lib

inductive PktType
  | probeRsp
  | psPoll
  | nullData
  | qosNull
  | cts2self
  | arpRsp
  | ndp
  | eapolKey
  | saQuery
  | realwowKapkt
  | realwowAck
  | realwowWp
  | probeReq
  deriving DecidableEq

namespace PktType

/-- The types below `PKT_OFLD_TYPE_MAX`, in their order. -/
def all : List PktType :=
  [probeRsp, psPoll, nullData, qosNull, cts2self, arpRsp, ndp, eapolKey, saQuery, realwowKapkt,
    realwowAck, realwowWp, probeReq]

lemma mem_all (t : PktType) : t ∈ all := by
  cases t <;> decide

/-- The types that `_phl_pkt_ofld_construct_packet` implements. -/
def implemented : PktType → Bool
  | probeRsp | psPoll | cts2self => false
  | _ => true

end PktType

inductive Status
  | success
  | failure
  | resource
  deriving DecidableEq

def notUsed : UInt8 := 0xFF

/-- `struct mac_ax_general_pkt_ids`, but for the macid. -/
structure GeneralPktIds where
  probersp : UInt8
  pspoll : UInt8
  nulldata : UInt8
  qosnull : UInt8
  cts2self : UInt8
  probereq : UInt8
  apcsa : UInt8
  deriving DecidableEq

/-- The field of a type that `rtw_hal_mac_pkt_update_ids` fills in. -/
def GeneralPktIds.id? (ids : GeneralPktIds) : PktType → Option UInt8
  | .probeRsp => some ids.probersp
  | .psPoll => some ids.pspoll
  | .nullData => some ids.nulldata
  | .qosNull => some ids.qosnull
  | .cts2self => some ids.cts2self
  | _ => none

/-- `pkts` is what the memory of the firmware has at a packet id (`id_bitmap` says which ids are
in use), and `ids` are the general ids by the 8-bit macid of the command. -/
structure Fw where
  pkts : UInt8 → Option (UInt16 × PktType)
  ids : UInt8 → GeneralPktIds

/-- What comes of `PKT_OFLD_ADD`.  The command is not sent, or the firmware refuses it; or it is
carried out, but not before the HAL stops polling. -/
inductive AddReply
  | added
  | refused
  | timedOut
  deriving DecidableEq

/-- What comes of `PKT_OFLD_DEL`.  The HAL ignores what it polls, so that a command that was sent
and not carried out counts as a success. -/
inductive DelReply
  | deleted
  | refused
  | unanswered
  deriving DecidableEq

/-- The loop of `mac_add_pkt_ofld`: the first id that is not in use, but for `0xFF`. -/
def Fw.allocId (fw : Fw) : Option UInt8 :=
  ((List.range 255).map UInt8.ofNat).find? fun id => (fw.pkts id).isNone

/-- `rtw_hal_pkt_ofld` with `PKT_OFLD_ADD` -/
def Fw.add (fw : Fw) (pkt : UInt16 × PktType) (r : AddReply) : Option UInt8 × Fw :=
  match fw.allocId with
  | none => (none, fw)
  | some id =>
    let held : Fw := { fw with pkts := Function.update fw.pkts id (some pkt) }
    match r with
    | .added => (some id, held)
    | .refused => (none, fw)
    | .timedOut => (none, held)

/-- `rtw_hal_pkt_ofld` with `PKT_OFLD_DEL`; an id that is not in use is refused. -/
def Fw.del (fw : Fw) (id : UInt8) (r : DelReply) : Bool × Fw :=
  if (fw.pkts id).isNone then (false, fw)
  else
    match r with
    | .deleted => (true, { fw with pkts := Function.update fw.pkts id none })
    | .refused => (false, fw)
    | .unanswered => (true, fw)

/-- `struct pkt_ofld_info`; a request is its token, as its name is only traced. -/
structure PktOfldInfo where
  reqQ : List UInt32
  reqCnt : UInt32
  id : UInt8
  deriving DecidableEq

structure PktOfldEntry where
  macid : UInt16
  pktInfo : PktType → PktOfldInfo

structure PktOfldObj where
  entryQ : List PktOfldEntry
  entryCnt : UInt32
  curSeq : UInt32

def PktOfldInfo.isPktOfld (info : PktOfldInfo) : Bool := decide (info.id ≠ notUsed)

def PktOfldInfo.addReq (info : PktOfldInfo) (token : UInt32) : PktOfldInfo :=
  { info with reqQ := token :: info.reqQ, reqCnt := info.reqCnt + 1 }

/-- `_phl_pkt_ofld_del_req` for the first request with the token, which is the one that
`_phl_pkt_ofld_get_req` finds and the one that was just added. -/
def PktOfldInfo.delReq (info : PktOfldInfo) (token : UInt32) : PktOfldInfo :=
  { info with reqQ := info.reqQ.erase token, reqCnt := info.reqCnt - 1 }

def PktOfldInfo.delAllReq (info : PktOfldInfo) : PktOfldInfo :=
  info.reqQ.foldl PktOfldInfo.delReq info

def PktOfldInfo.getReq (info : PktOfldInfo) (token : UInt32) : Option UInt32 :=
  info.reqQ.find? fun pos => decide (pos = token)

def PktOfldEntry.setInfo (e : PktOfldEntry) (t : PktType) (info : PktOfldInfo) : PktOfldEntry :=
  { e with pktInfo := Function.update e.pktInfo t info }

def PktOfldEntry.setId (e : PktOfldEntry) (t : PktType) (id : UInt8) : PktOfldEntry :=
  e.setInfo t { e.pktInfo t with id }

def initEntry (macid : UInt16) : PktOfldEntry :=
  ⟨macid, fun _ => ⟨[], 0, notUsed⟩⟩

/-- The ids that `rtw_hal_mac_pkt_update_ids` sends; the last two are not filled in. -/
def PktOfldEntry.generalIds (e : PktOfldEntry) : GeneralPktIds where
  probersp := (e.pktInfo .probeRsp).id
  pspoll := (e.pktInfo .psPoll).id
  nulldata := (e.pktInfo .nullData).id
  qosnull := (e.pktInfo .qosNull).id
  cts2self := (e.pktInfo .cts2self).id
  probereq := 0
  apcsa := 0

def Fw.updateIds (fw : Fw) (e : PktOfldEntry) (ok : Bool) : Bool × Fw :=
  if ok then (true, { fw with ids := Function.update fw.ids e.macid.toUInt8 e.generalIds })
  else (false, fw)

/-- `_phl_pkt_ofld_cancel_entry_pkt` goes on after a failure. -/
def cancelEntryPkt (fw : Fw) (e : PktOfldEntry) (r : PktType → DelReply) : Fw :=
  PktType.all.foldl
    (fun fw t => if (e.pktInfo t).isPktOfld then (fw.del (e.pktInfo t).id (r t)).2 else fw) fw

def PktOfldEntry.delEntryReq (e : PktOfldEntry) : PktOfldEntry :=
  { e with pktInfo := fun t => { e.pktInfo t with id := notUsed }.delAllReq }

/-- What else decides a request: the two allocations of `_phl_pkt_ofld_gen_req`, whether the
packet can be constructed, and the two calls of the HAL. -/
structure RequestReply where
  allocReq : Bool := true
  allocName : Bool := true
  constructs : Bool := true
  add : AddReply := .added
  update : Bool := true
  deriving DecidableEq

def addPkt (fw : Fw) (e : PktOfldEntry) (t : PktType) (r : RequestReply) :
    Status × Fw × PktOfldEntry :=
  if (e.pktInfo t).isPktOfld then (.success, fw, e)
  else if t.implemented && r.constructs then
    match fw.add (e.macid, t) r.add with
    | (none, fw) => (.failure, fw, e.setId t notUsed)
    | (some id, fw) =>
      match fw.updateIds (e.setId t id) r.update with
      | (true, fw) => (.success, fw, e.setId t id)
      | (false, fw) => (.failure, fw, e.setId t notUsed)
  else (.failure, fw, e)

def delPkt (fw : Fw) (e : PktOfldEntry) (t : PktType) (r : DelReply) :
    Status × Fw × PktOfldEntry :=
  if (e.pktInfo t).isPktOfld then
    if (e.pktInfo t).reqCnt - 1 ≠ 0 then (.success, fw, e)
    else
      match fw.del (e.pktInfo t).id r with
      | (true, fw) => (.success, fw, e.setId t notUsed)
      | (false, fw) => (.failure, fw, e)
  else (.failure, fw, e)

structure Sys where
  obj : PktOfldObj
  fw : Fw

namespace Sys

/-- `phl_pkt_ofld_init`; the firmware has no packets, and any general ids. -/
def init (ids : UInt8 → GeneralPktIds) : Sys := ⟨⟨[], 0, 0⟩, ⟨fun _ => none, ids⟩⟩

def getEntry (s : Sys) (macid : UInt16) : Option PktOfldEntry :=
  lookupKey PktOfldEntry.macid macid s.obj.entryQ

/-- The entry of the macid gets the contents of `e`, where it is in the list. -/
def setEntry (s : Sys) (e : PktOfldEntry) (fw : Fw) : Sys :=
  { obj := { s.obj with
      entryQ := modifyKey PktOfldEntry.macid e.macid (fun pos => { pos with pktInfo := e.pktInfo })
        s.obj.entryQ }
    fw }

/-- `phl_pkt_ofld_add_entry`; that the ids cannot be initialised is only traced. -/
def addEntry (s : Sys) (macid : UInt16) (alloc update : Bool) : Status × Sys :=
  match s.getEntry macid with
  | some _ => (.failure, s)
  | none =>
    if alloc then
      (.success,
        { obj := { s.obj with
            entryQ := initEntry macid :: s.obj.entryQ
            entryCnt := s.obj.entryCnt + 1 }
          fw := (s.fw.updateIds (initEntry macid) update).2 })
    else (.resource, s)

def delEntry (s : Sys) (macid : UInt16) (r : PktType → DelReply) : Status × Sys :=
  match s.getEntry macid with
  | none => (.failure, s)
  | some e =>
    (.success,
      { obj := { s.obj with
          entryQ := eraseKey PktOfldEntry.macid macid s.obj.entryQ
          entryCnt := s.obj.entryCnt - 1 }
        fw := cancelEntryPkt s.fw e r })

def resetEntry (s : Sys) (macid : UInt16) (r : PktType → DelReply) : Status × Sys :=
  match s.getEntry macid with
  | none => (.failure, s)
  | some e => (.success, s.setEntry e.delEntryReq (cancelEntryPkt s.fw e r))

/-- `_phl_pkt_ofld_gen_req`: the token is taken before the name is allocated. -/
def genReq (s : Sys) (r : RequestReply) : Option UInt32 × Sys :=
  if r.allocReq then
    let taken : Sys := { s with obj := { s.obj with curSeq := s.obj.curSeq + 1 } }
    if r.allocName then (some s.obj.curSeq, taken) else (none, taken)
  else (none, s)

/-- The part of `rtw_phl_pkt_ofld_request` behind `_phl_pkt_ofld_gen_req`. -/
def requestWith (s : Sys) (e : PktOfldEntry) (t : PktType) (token : UInt32) (r : RequestReply) :
    Status × Sys :=
  match addPkt s.fw (e.setInfo t ((e.pktInfo t).addReq token)) t r with
  | (.success, fw, e) => (.success, s.setEntry e fw)
  | (_, fw, e) => (.failure, s.setEntry (e.setInfo t ((e.pktInfo t).delReq token)) fw)

/-- `rtw_phl_pkt_ofld_request`; the second result is `token`, which is set on success only. -/
def request (s : Sys) (macid : UInt16) (t : PktType) (r : RequestReply) :
    Status × Option UInt32 × Sys :=
  match s.getEntry macid with
  | none => (.failure, none, s)
  | some e =>
    match s.genReq r with
    | (none, s) => (.resource, none, s)
    | (some token, s) =>
      match s.requestWith e t token r with
      | (.success, s) => (.success, some token, s)
      | (status, s) => (status, none, s)

def cancel (s : Sys) (macid : UInt16) (t : PktType) (token : UInt32) (r : DelReply) :
    Status × Sys :=
  match s.getEntry macid with
  | none => (.failure, s)
  | some e =>
    if (e.pktInfo t).id = notUsed then (.success, s)
    else
      match (e.pktInfo t).getReq token with
      | none => (.failure, s)
      | some req =>
        match delPkt s.fw e t r with
        | (.success, fw, e) =>
          (.success, s.setEntry (e.setInfo t ((e.pktInfo t).delReq req)) fw)
        | (_, fw, e) => (.failure, s.setEntry e fw)

/-- `rtw_phl_pkt_ofld_null_request` of a client, `ht` for a mode from `WLAN_MD_11N` on.  Both
requests write their token to the same place. -/
def nullRequest (s : Sys) (macid : UInt16) (ht : Bool) (r₁ r₂ : RequestReply) :
    Status × Option UInt32 × Sys :=
  let (status, token, s) := s.request macid .nullData r₁
  if ht then
    let (status, token', s) := s.request macid .qosNull r₂
    (status, token'.or token, s)
  else (status, token, s)

end Sys

end Rtl8831.Phl.PktOfld
