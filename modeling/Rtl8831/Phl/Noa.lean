import Rtl8831.Lib.Index

/-!
# The table of NoA descriptors of a role

`phl_p2pps.c` keeps a descriptor for each of five tags, activates them in the firmware under a
NoA id, and takes all of them out while NoA is paused.  A role has one link, so that the macid
and the port are the same for all of its descriptors.
-/

namespace Rtl8831.Phl.Noa

inductive Tag
  | go
  | gc
  | gc255
  | mcc
  | scc1Ap1StaBt
  deriving DecidableEq

/-- The descriptors in the order of the loops, below `MAX_NOA_DESC`. -/
def Tag.all : List Tag := [.go, .gc, .gc255, .mcc, .scc1Ap1StaBt]

lemma Tag.mem_all (t : Tag) : t ∈ all := by
  cases t <;> decide

lemma Tag.nodup_all : all.Nodup := by decide

def noaidNone : UInt8 := 0xFF

/-- `NOA_MAX_NUM` of the firmware. -/
def noaMaxNum : UInt8 := 2

/-- `struct rtw_phl_noa_desc`; the role and its link are those of the table. -/
structure NoaDesc where
  enable : Bool := false
  tag : Tag := .go
  startTH : UInt32 := 0
  startTL : UInt32 := 0
  interval : UInt32 := 0
  duration : UInt32 := 0
  count : UInt8 := 0
  noaId : UInt8 := 0
  deriving DecidableEq

inductive Status
  | success
  | failure
  deriving DecidableEq

/-- What comes of a command to the firmware: it is carried out and reported; it is not carried
out; or it is carried out, but not before the HAL stops polling, so that it counts as failed. -/
inductive Reply
  | done
  | refused
  | late
  deriving DecidableEq

/-- `mac_p2p_act_h2c` sends a command for an id that the firmware can have. -/
def p2pAct (noaId : UInt8) (r : Reply) : Reply :=
  if noaMaxNum ≤ noaId then .refused else r

/-- `struct rtw_phl_noa_info`, with the descriptors that were activated in the firmware and not
removed since, and whether the TSF32 toggle report is on.  `en_desc_num` is eight bits wide. -/
structure State where
  enDescNum : ℕ
  paused : Bool
  noaDesc : Tag → NoaDesc
  fw : List (Tag × UInt8)
  tog : Bool

namespace State

def setDesc (s : State) (t : Tag) (d : NoaDesc) : State :=
  { s with noaDesc := Function.update s.noaDesc t d }

/-- `_phl_p2pps_clear_noa_desc` -/
def clearDesc (s : State) (t : Tag) : State := s.setDesc t {}

def setNoaId (s : State) (t : Tag) (noaId : UInt8) : State :=
  s.setDesc t { s.noaDesc t with noaId }

def increaseDesc (s : State) : State := { s with enDescNum := (s.enDescNum + 1) % 256 }

/-- `_phl_p2pps_noa_decrease_desc` does not go below 0. -/
def decreaseDesc (s : State) : State := { s with enDescNum := s.enDescNum - 1 }

def isAllDisable (s : State) : Bool := Tag.all.all fun t => !(s.noaDesc t).enable

end State

/-- `_phl_p2pps_noa_should_activate`; `mr` is whether multi-role coexistence keeps the
descriptor for itself: MCC is in progress for a count other than 255, or
`phl_mr_coex_noa_dur_lim_change` takes it over. -/
def shouldActivate (d : NoaDesc) (mr : Bool) : Bool :=
  if d.tag = .mcc then false else !mr

/-- The largest id in the table, `NOAID_NONE` aside: the loop of `_phl_p2pps_noa_assign_noaid`. -/
def maxNoaid (s : State) : UInt8 :=
  Tag.all.foldl
    (fun max t =>
      if (s.noaDesc t).noaId = noaidNone then max
      else if max < (s.noaDesc t).noaId then (s.noaDesc t).noaId else max) 0

def assignNoaid (s : State) : UInt8 :=
  if s.enDescNum = 0 then 0 else if maxNoaid s ≠ 0 then maxNoaid s + 1 else 0

/-- What the firmware has after `rtw_hal_noa_disable` is carried out: the last descriptor by the
count ends all of them, another one is removed by its id. -/
def State.fwDisabled (s : State) (noaId : UInt8) : List (Tag × UInt8) :=
  if s.enDescNum = 1 then [] else s.fw.filter fun d => decide (d.2 ≠ noaId)

def State.enToFw (s : State) (t : Tag) : Bool :=
  decide ((s.noaDesc t).noaId ≠ noaidNone) && (s.noaDesc t).enable

def State.clearIf (s : State) (clear : Bool) (t : Tag) : State :=
  if clear then s.clearDesc t else s

/-- `_phl_p2pps_noa_disable`; the bluetooth coexistence is notified besides. -/
def noaDisable (s : State) (t : Tag) (clear : Bool) (r : Reply) : Status × State :=
  if s.paused && clear then (.success, s.clearDesc t)
  else if s.enToFw t then
    match p2pAct (s.noaDesc t).noaId r with
    | .done =>
      (.success,
        ({ s with fw := s.fwDisabled (s.noaDesc t).noaId }.decreaseDesc).clearIf clear t)
    | .refused => (.failure, s)
    | .late => (.failure, { s with fw := s.fwDisabled (s.noaDesc t).noaId })
  else (.success, s.clearIf clear t)

/-- `_phl_p2pps_noa_enable`; `macidUp` is the result of giving the macids of the clients to the
firmware, which is done for an access point only. -/
def noaEnable (s : State) (t : Tag) (d : NoaDesc) (mr : Bool) (r : Reply) (macidUp : Bool) :
    Status × State :=
  let s := s.setDesc t d
  if s.paused then (.success, s)
  else if shouldActivate (s.noaDesc t) mr then
    let noaId := assignNoaid s
    match p2pAct noaId r with
    | .done =>
      (if macidUp then .success else .failure,
        { (s.setNoaId t noaId).increaseDesc with fw := s.fw ++ [(t, noaId)] })
    | .refused => (.failure, s.setNoaId t noaidNone)
    | .late => (.failure, { s.setNoaId t noaidNone with fw := s.fw ++ [(t, noaId)] })
  else (.success, s.setNoaId t noaidNone)

/-- What else decides `phl_noa_update`. -/
structure UpdateReply where
  tog : Bool := true
  disable : Reply := .done
  mr : Bool := false
  enable : Reply := .done
  macidUp : Bool := true
  deriving DecidableEq

def State.togEnable (s : State) (ok : Bool) : State :=
  if ok then { s with tog := true } else s

def State.togDisable (s : State) (ok : Bool) : State :=
  if ok then { s with tog := false } else s

/-- `phl_noa_update`; the results of disabling the descriptor that is replaced and of the toggle
calls are ignored. -/
def noaUpdate (s : State) (d : NoaDesc) (r : UpdateReply) : Status × State :=
  if d.enable then
    let s := if s.isAllDisable then s.togEnable r.tog else s
    let s := (noaDisable s d.tag true r.disable).2
    noaEnable s d.tag d r.mr r.enable r.macidUp
  else
    let (ret, s) := noaDisable s d.tag true r.disable
    (ret, if s.isAllDisable then s.togDisable r.tog else s)

def noaPauseAll (s : State) (r : Tag → Reply) : State :=
  if s.paused then s
  else Tag.all.foldl (fun s t => (noaDisable s t false (r t)).2) { s with paused := true }

/-- What else decides `phl_p2pps_noa_resume_all`, for each descriptor. -/
structure ResumeReply where
  mr : Tag → Bool := fun _ => false
  enable : Tag → Reply := fun _ => .done
  macidUp : Tag → Bool := fun _ => true

/-- The body of the loop of `phl_p2pps_noa_resume_all`. -/
def resumeDesc (r : ResumeReply) (s : State) (t : Tag) : State :=
  if (s.noaDesc t).enable then
    (noaEnable s t (s.noaDesc t) (r.mr t) (r.enable t) (r.macidUp t)).2
  else s

def noaResumeAll (s : State) (r : ResumeReply) : State :=
  if s.paused then Tag.all.foldl (resumeDesc r) { s with paused := false } else s

/-- The body of the loop of `_phl_p2pps_noa_disable_all`. -/
def disableDesc (r : Tag → Reply) (s : State) (t : Tag) : State :=
  if (s.noaDesc t).enable then (noaDisable s t true (r t)).2 else s

/-- `phl_p2pps_noa_disable_all`, with `_phl_p2pps_noa_disable_all`. -/
def noaDisableAll (s : State) (r : Tag → Reply) (tog : Bool) : State :=
  State.togDisable { Tag.all.foldl (disableDesc r) s with paused := false } tog

end Rtl8831.Phl.Noa
