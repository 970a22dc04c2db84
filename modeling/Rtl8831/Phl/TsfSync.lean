import Rtl8831.Lib.Run
import Rtl8831.Phl.ChanCtxInv

/-!
# Synchronising the timers of access points

`phl_mr_tsf_sync` is told when a station of a band has connected or disconnected and when
an access point has started or stopped.  It makes the ports of the access points follow
the port of a client, and keeps the number of that port in `tsf_sync_port`.
-/

namespace Rtl8831.Phl.TsfSync

open Lib

inductive RoleType
  | station
  | p2pGc
  | tdls
  | p2pDevice
  | ap
  | vap
  | p2pGo
  | mesh
  | other
  deriving DecidableEq

def RoleType.isClient : RoleType → Bool
  | .station | .p2pGc | .tdls => true
  | _ => false

/-- The types that `phl_mr_tsf_sync` and `phl_mr_info_upt` take for access points. -/
def RoleType.isAp : RoleType → Bool
  | .ap | .vap | .p2pGo | .mesh => true
  | _ => false

lemma RoleType.not_ap_of_client {t : RoleType} (h : t.isClient = true) : t.isAp = false := by
  cases t <;> first | rfl | exact absurd h (by decide)

variable {n : ℕ}

/-- The roles, and the ports of their links on the band.  Client roles have ports of their
own. -/
structure Roles (n : ℕ) where
  type : Fin n → RoleType
  hwPort : Fin n → Option ℕ
  port_inj : ∀ r r' p, (type r).isClient = true → (type r').isClient = true →
    hwPort r = some p → hwPort r' = some p → r = r'

/-- A band: which roles are linked, the channel contexts, the recorded port (none for
`HW_PORT_MAX`), and the port that the hardware makes each port follow. -/
structure Band (n : ℕ) where
  linked : Fin n → Bool
  ctl : HwBandCtl n
  tsfSyncPort : Option ℕ
  follows : ℕ → Option ℕ

inductive Act
  | enSyncAuto
  | disSyncAuto
  deriving DecidableEq

def Act.value (port : ℕ) : Act → Option ℕ
  | .enSyncAuto => some port
  | .disSyncAuto => none

namespace Band

/-- `rtw_hal_tsf_sync`, when it succeeds. -/
def halTsfSync (s : Band n) (port toPort : ℕ) (act : Act) : Band n :=
  { s with follows := Function.update s.follows toPort (act.value port) }

/-- `cur_info.ap_num` -/
def apNum (R : Roles n) (s : Band n) : ℕ :=
  (List.finRange n).countP fun r => (R.hwPort r).isSome && (R.type r).isAp && s.linked r

/-- `cur_info.ld_sta_num` -/
def ldStaNum (R : Roles n) (s : Band n) : ℕ :=
  (List.finRange n).countP fun r =>
    (R.hwPort r).isSome && ((R.type r).isClient || R.type r = .p2pDevice) && s.linked r

def chanctx (s : Band n) (r : Fin n) : Option (Finset (Fin n)) :=
  ((s.ctl.rlink r).chanctx.bind s.ctl.ctxAt).map ChanCtx.roleMap

def onCtx (map : Finset (Fin n)) : List (Fin n) := (List.finRange n).filter (· ∈ map)

/-- The loop of `_search_ld_sta_wrole`: what it returns is the first client, and if there is
none the role it saw last. -/
def searchLoop (R : Roles n) (self : Fin n) : Option (Fin n) → List (Fin n) → Option (Fin n)
  | wr, [] => wr
  | _, r :: rs =>
    if r = self then searchLoop R self (some r) rs
    else if (R.type r).isClient then some r
    else searchLoop R self (some r) rs

/-- `_search_ld_sta_wrole`, with `exclude_self` set. -/
def searchLdStaWrole (R : Roles n) (map : Finset (Fin n)) (self : Fin n) : Option (Fin n) :=
  searchLoop R self none (onCtx map)

/-- The loops over the roles of a context: whether each role had a link on the band,
whether the last call succeeded, and the band. -/
def syncLoop (R : Roles n) (hal : Fin n → Bool) (port : ℕ) (skip : Fin n → Bool) (act : Act) :
    List (Fin n) → Bool → Band n → Bool × Bool × Band n
  | [], ret, s => (true, ret, s)
  | r :: rs, ret, s =>
    match R.hwPort r with
    | none => (false, false, s)
    | some toPort =>
      if skip r = false ∧ (R.type r).isAp = true then
        if hal r then syncLoop R hal port skip act rs true (s.halTsfSync port toPort act)
        else syncLoop R hal port skip act rs false s
      else syncLoop R hal port skip act rs ret s

def twoCtx (s : Band n) : Bool := decide (s.ctl.cnt > 1)

def setPort (s : Band n) (p : Option ℕ) : Band n := { s with tsfSyncPort := p }

/-- `phl_mr_tsf_sync` for `PHL_ROLE_MSTS_STA_CONN_END`. -/
def staConnEnd (R : Roles n) (mccSup : Bool) (hal : Fin n → Bool) (s : Band n) (r : Fin n) :
    Bool × Band n :=
  if s.twoCtx then (mccSup, s)
  else match s.chanctx r, R.hwPort r with
    | some map, some port =>
      if 1 ≤ s.apNum R ∧ s.tsfSyncPort = none then
        match syncLoop R hal port (fun r' => r' = r) .enSyncAuto (onCtx map) true s with
        | (false, _, s) => (false, s)
        | (true, true, s) => (true, s.setPort (some port))
        | (true, false, s) => (false, s.setPort none)
      else (true, s)
    | _, _ => (false, s)

/-- The part of `PHL_ROLE_MSTS_STA_DIS_CONN` that looks for another client. -/
def resync (R : Roles n) (hal : Fin n → Bool) (s : Band n) (r : Fin n) (map : Finset (Fin n)) :
    Bool × Bool × Band n :=
  match searchLdStaWrole R map r with
  | none => (true, true, s)
  | some ld =>
    match R.hwPort ld with
    | none => (false, false, s)
    | some port =>
      match syncLoop R hal port (fun r' => r' = ld) .enSyncAuto (onCtx map) true s with
      | (false, _, s) => (false, false, s)
      | (true, true, s) => (true, true, s.setPort (some port))
      | (true, false, s) => (true, false, s.setPort none)

/-- `phl_mr_tsf_sync` for `PHL_ROLE_MSTS_STA_DIS_CONN`. -/
def staDisConn (R : Roles n) (mccSup : Bool) (hal : Fin n → Bool) (s : Band n) (r : Fin n) :
    Bool × Band n :=
  if s.twoCtx then (mccSup, s)
  else if s.tsfSyncPort = none then (true, s)
  else match s.chanctx r with
    | none => (false, s)
    | some map =>
      let first :=
        if R.hwPort r = s.tsfSyncPort ∧ 1 ≤ s.apNum R ∧ 0 < s.ldStaNum R then
          resync R hal s r map
        else (true, true, s)
      match first with
      | (false, _, s) => (false, s)
      | (true, ret, s) =>
        match s.tsfSyncPort with
        | some port =>
          if R.hwPort r = some port ∧ s.ldStaNum R = 0 then
            match syncLoop R hal port (fun r' => r' = r || !s.linked r') .disSyncAuto
                (onCtx map) ret s with
            | (false, _, s) => (false, s)
            | (true, true, s) => (true, s.setPort none)
            | (true, false, s) => (false, s)
          else (ret, s)
        | none => (ret, s)

/-- `phl_mr_tsf_sync` for `PHL_ROLE_MSTS_AP_START`. -/
def apStart (R : Roles n) (mccSup : Bool) (hal : Fin n → Bool) (s : Band n) (r : Fin n) :
    Bool × Band n :=
  if s.twoCtx then (mccSup, s)
  else match s.chanctx r, R.hwPort r with
    | some map, some toPort =>
      if s.ldStaNum R = 0 then (true, s)
      else match s.tsfSyncPort with
        | none =>
          match searchLdStaWrole R map r with
          | none => (true, s)
          | some ld =>
            match R.hwPort ld with
            | none => (false, s)
            | some port =>
              if hal r then
                (true, (s.halTsfSync port toPort .enSyncAuto).setPort (some port))
              else (false, s)
        | some port => if hal r then (true, s.halTsfSync port toPort .enSyncAuto) else (false, s)
    | _, _ => (false, s)

/-- `phl_mr_tsf_sync` for `PHL_ROLE_MSTS_AP_STOP`. -/
def apStop (R : Roles n) (mccSup : Bool) (hal : Fin n → Bool) (s : Band n) (r : Fin n) :
    Bool × Band n :=
  if s.twoCtx then (mccSup, s)
  else match s.tsfSyncPort, R.hwPort r with
    | some port, some toPort =>
      let s' := if hal r then s.halTsfSync port toPort .disSyncAuto else s
      (hal r, if s.apNum R = 0 then s'.setPort none else s')
    | none, _ => (true, s)
    | some _, none => (false, s)

def setLinked (s : Band n) (r : Fin n) (v : Bool) : Band n :=
  { s with linked := Function.update s.linked r v }

end Band

/-- What is reported, with the results of the hardware calls by the role they are for; and
the channel contexts of the band changing. -/
inductive Event (n : ℕ)
  | connected (r : Fin n) (hal : Fin n → Bool)
  | disconnected (r : Fin n) (hal : Fin n → Bool)
  | apStarted (r : Fin n) (hal : Fin n → Bool)
  | apStopped (r : Fin n) (hal : Fin n → Bool)
  | chanctxChanged (ctl : HwBandCtl n)

namespace Band

def step (R : Roles n) (mccSup : Bool) (s : Band n) : Event n → Band n
  | .connected r hal => (staConnEnd R mccSup hal (s.setLinked r true) r).2
  | .disconnected r hal => (staDisConn R mccSup hal (s.setLinked r false) r).2
  | .apStarted r hal => (apStart R mccSup hal (s.setLinked r true) r).2
  | .apStopped r hal => (apStop R mccSup hal (s.setLinked r false) r).2
  | .chanctxChanged ctl => { s with ctl := ctl }

def init (ctl : HwBandCtl n) : Band n where
  linked := fun _ => false
  ctl := ctl
  tsfSyncPort := none
  follows := fun _ => none

def CtlOk (R : Roles n) (cap : DevCap) (ctl : HwBandCtl n) : Prop :=
  ctl.Shape cap ∧ ∀ r, (ctl.rlink r).chanctx.isSome → (R.hwPort r).isSome

def Legal (R : Roles n) (cap : DevCap) (_ : Band n) : Event n → Prop
  | .connected r _ | .disconnected r _ => (R.type r).isClient = true ∧ (R.hwPort r).isSome
  | .apStarted r _ | .apStopped r _ => (R.type r).isAp = true ∧ (R.hwPort r).isSome
  | .chanctxChanged ctl => CtlOk R cap ctl

end Band

end Rtl8831.Phl.TsfSync
