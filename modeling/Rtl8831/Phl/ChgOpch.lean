import Rtl8831.Lib.Run

/-!
# Changing the operating channel of a link

`rtw_phl_cmd_chg_op_chdef` allocates one parameter and sends two messages that carry it.
The completion of either message, or the caller itself, frees it.  The dispatcher of a
band takes its messages in order, but a message that a module holds back goes behind the
others when the pending messages are cleared.
-/

namespace Rtl8831.Phl.ChgOpch

open Lib

/-- `enum rtw_phl_status`, the values that occur here. -/
inductive Status
  | success
  | failure
  | resource
  | invalidParam
  | cmdTimeout
  | cmdError
  | cmdDrop
  | cmdCannotIo
  | cmdSuccess
  | unexpectedError
  deriving DecidableEq

def isCmdFailure (psts : Status) : Bool :=
  psts = .cmdTimeout || psts = .cmdError || psts = .cmdDrop || psts = .cmdCannotIo

/-- `enum phl_cmd_sts` of a command that is done. -/
inductive CmdSts
  | doneSuccess
  | doneTimeout
  | doneCmdError
  | doneCmdDrop
  | doneCannotIo
  deriving DecidableEq

def cmdStat2PhlStat : CmdSts → Status
  | .doneTimeout => .cmdTimeout
  | .doneCannotIo => .cmdCannotIo
  | .doneCmdError => .cmdError
  | .doneCmdDrop => .cmdDrop
  | .doneSuccess => .cmdSuccess

structure MsgIndc where
  cannotIo : Bool := false
  fail : Bool := false
  cancel : Bool := false
  deriving DecidableEq

/-- The status that `_phl_cmd_complete` reads from the marks. -/
def MsgIndc.csts (i : MsgIndc) : CmdSts :=
  if i.cannotIo then .doneCannotIo
  else if i.fail then .doneCmdError
  else if i.cancel then .doneCmdDrop
  else .doneSuccess

/-- Why `phl_cmd_enqueue` did not send its message: no memory for the command object, no
such dispatcher or module, no idle message, a sender about to unload, a dispatcher that
is not started or shall stop. -/
inductive SendErr
  | noCmdObj
  | invalidBand
  | notAllowed
  | noIdleMsg
  | unloading
  | notStarted
  deriving DecidableEq

def SendErr.status : SendErr → Status
  | .noCmdObj => .resource
  | .invalidBand => .invalidParam
  | .notAllowed => .invalidParam
  | .noIdleMsg => .resource
  | .unloading => .failure
  | .notStarted => .unexpectedError

lemma SendErr.not_cmdFailure (e : SendErr) : isCmdFailure e.status = false := by
  cases e <;> rfl

/-- `struct chg_opch_param`: what its users tell one another. -/
structure ChgOpchParam where
  cmdStartSts : Status := .success
  startMsgDone : Bool := false
  sendEndMsgFail : Bool := false
  chgOpchDone : Bool
  deriving DecidableEq

/-- `MSG_EVT_CHG_OP_CH_DEF_START` and `MSG_EVT_CHG_OP_CH_DEF_END`. -/
inductive Msg
  | start
  | fin
  deriving DecidableEq

structure Dispatcher where
  running : Option Msg := none
  msgWaitQ : List Msg := []
  msgPendQ : List Msg := []
  deriving DecidableEq

def Dispatcher.msgs (d : Dispatcher) : List Msg := d.running.toList ++ d.msgWaitQ ++ d.msgPendQ

/-- Where the caller is in `rtw_phl_cmd_chg_op_chdef`. -/
inductive Pc
  | idle
  | sendStart
  | sendEnd
  | waiting
  | endFailed
  | returned (psts : Status)
  deriving DecidableEq

/-- The caller, the parameter and the dispatchers.  The last fields only record what
happened: whether a callback was given, how often memory was allocated and freed, whether
freed memory was used, and what the callback was told. -/
structure Sys (β : Type) where
  pc : Pc := .idle
  param : Option ChgOpchParam := none
  dispr : β → Dispatcher := fun _ => {}
  endDone : Option CmdSts := none
  asked : Bool := false
  allocs : ℕ := 0
  frees : ℕ := 0
  misused : Bool := false
  callbacks : List Status := []

variable {β : Type} [DecidableEq β]

namespace Sys

def withParam (s : Sys β) (f : ChgOpchParam → Sys β) : Sys β :=
  match s.param with
  | some p => f p
  | none => { s with misused := true }

def kmemFree (s : Sys β) : Sys β := { s with param := none, frees := s.frees + 1 }

def chgOpChdefDone (s : Sys β) (status : Status) : Sys β :=
  s.withParam fun p =>
    let psts : Status :=
      if status = .cmdSuccess ∧ p.cmdStartSts = .cmdSuccess then .success else .failure
    { s with
      callbacks := if p.chgOpchDone then s.callbacks ++ [psts] else s.callbacks }.kmemFree

def chgOpChdefStartDone (s : Sys β) (status : Status) : Sys β :=
  s.withParam fun p =>
    if p.sendEndMsgFail then s.kmemFree
    else { s with param := some { p with cmdStartSts := status, startMsgDone := true } }

/-- `_phl_cmd_complete` of the command objects of the two messages. -/
def cmdComplete (s : Sys β) (csts : CmdSts) : Msg → Sys β
  | .start => s.chgOpChdefStartDone (cmdStat2PhlStat csts)
  | .fin => { s with endDone := some csts }.chgOpChdefDone (cmdStat2PhlStat csts)

def modify (s : Sys β) (b : β) (f : Dispatcher → Dispatcher) : Sys β :=
  { s with dispr := Function.update s.dispr b (f (s.dispr b)) }

end Sys

def Dispatcher.pushBackWaitMsg (d : Dispatcher) (m : Msg) : Dispatcher :=
  { d with msgWaitQ := d.msgWaitQ ++ [m] }

def Dispatcher.popFrontWaitMsg (d : Dispatcher) : Dispatcher :=
  { d with running := d.msgWaitQ.head?, msgWaitQ := d.msgWaitQ.tail }

/-- `push_back_pending_msg` of the message that is handled. -/
def Dispatcher.pushBackPendingMsg (d : Dispatcher) : Dispatcher :=
  { d with running := none, msgPendQ := d.msgPendQ ++ d.running.toList }

def Dispatcher.clearPendingMsg (d : Dispatcher) : Dispatcher :=
  { d with msgWaitQ := d.msgWaitQ ++ d.msgPendQ, msgPendQ := [] }

def Dispatcher.recycle (d : Dispatcher) : Dispatcher := { d with running := none }

inductive Event (β : Type)
  /-- the call, with or without memory for the parameter and a callback -/
  | call (mem callback : Bool)
  | sendStart (band : β) (err : Option SendErr)
  | sendEnd (band : β) (cmdWait : Bool) (err : Option SendErr)
  /-- the end of `_phl_cmd_wait` -/
  | wake (timeout : Bool)
  /-- the caller's locked section after the end message could not be sent -/
  | endFailed
  | popWait (band : β)
  /-- a module's handler of the message, with the parameter at hand -/
  | feed (band : β)
  | pending (band : β)
  | clearPending (band : β)
  | complete (band : β) (indc : MsgIndc)

namespace Sys

/-- What `rtw_phl_cmd_chg_op_chdef` does with the result of the second `phl_cmd_enqueue`. -/
def endResult (psts : Status) : Pc :=
  if psts = .success then .returned .success
  else if isCmdFailure psts then .returned psts
  else .endFailed

/-- `rtw_phl_cmd_chg_op_chdef` up to the first message. -/
def call (s : Sys β) (mem callback : Bool) : Sys β :=
  if mem then
    { s with
      pc := .sendStart, param := some { chgOpchDone := callback }, allocs := s.allocs + 1,
      asked := callback }
  else { s with pc := .returned .failure }

def sendStart (s : Sys β) (b : β) : Option SendErr → Sys β
  | none => { s.modify b (·.pushBackWaitMsg .start) with pc := .sendEnd }
  | some e =>
    if isCmdFailure e.status then { s with pc := .returned e.status }
    else { s.kmemFree with pc := .returned .failure }

def sendEnd (s : Sys β) (b : β) (cmdWait : Bool) : Option SendErr → Sys β
  | none =>
    { s.modify b (·.pushBackWaitMsg .fin) with
      pc := if cmdWait then .waiting else endResult .success }
  | some e => { s with pc := endResult e.status }

/-- `_phl_cmd_wait`, and `phl_cmd_enqueue` after it. -/
def wake (s : Sys β) (timeout : Bool) : Sys β :=
  let psts :=
    if timeout then .cmdTimeout else (s.endDone.map cmdStat2PhlStat).getD .cmdTimeout
  { s with pc := endResult (if psts = .cmdSuccess then .success else psts) }

def endFailed (s : Sys β) : Sys β :=
  s.withParam fun p =>
    if p.startMsgDone then { s.kmemFree with pc := .returned .failure }
    else { s with param := some { p with sendEndMsgFail := true }, pc := .returned .failure }

/-- `push_back_idle_msg` of the message that is handled. -/
def complete (s : Sys β) (b : β) (indc : MsgIndc) : Sys β :=
  match (s.dispr b).running with
  | some m => (s.cmdComplete indc.csts m).modify b (·.recycle)
  | none => s

def step (s : Sys β) : Event β → Sys β
  | .call mem callback => s.call mem callback
  | .sendStart b err => s.sendStart b err
  | .sendEnd b cmdWait err => s.sendEnd b cmdWait err
  | .wake timeout => s.wake timeout
  | .endFailed => s.endFailed
  | .popWait b => s.modify b (·.popFrontWaitMsg)
  | .feed _ => s.withParam fun _ => s
  | .pending b => s.modify b (·.pushBackPendingMsg)
  | .clearPending b => s.modify b (·.clearPendingMsg)
  | .complete b indc => s.complete b indc

def Legal (s : Sys β) : Event β → Prop
  | .call .. => s.pc = .idle
  | .sendStart .. => s.pc = .sendStart
  | .sendEnd .. => s.pc = .sendEnd
  | .wake timeout => s.pc = .waiting ∧ (timeout = false → s.endDone.isSome)
  | .endFailed => s.pc = .endFailed
  | .popWait b => (s.dispr b).running = none
  | .feed b => (s.dispr b).running.isSome
  | .pending b => (s.dispr b).running.isSome
  | .clearPending _ => True
  | .complete b _ => (s.dispr b).running.isSome

def Out (s : Sys β) (m : Msg) : Prop := ∃ b, m ∈ (s.dispr b).msgs

def StartFirst (s : Sys β) : Event β → Prop
  | .complete b _ => (s.dispr b).running = some .fin → ¬ s.Out .start
  | _ => True

def Over (s : Sys β) : Prop := (∃ psts, s.pc = .returned psts) ∧ ∀ m, ¬ s.Out m

structure Safe (s : Sys β) : Prop where
  frees : s.frees ≤ s.allocs ∧ s.allocs ≤ 1
  unused : s.misused = false
  callbacks : s.callbacks.length ≤ 1

structure Owned (s : Sys β) : Prop extends s.Safe where
  freed : s.frees = s.allocs
  called : s.pc = .returned .success → s.callbacks.length = if s.asked then 1 else 0

end Sys

end Rtl8831.Phl.ChgOpch
