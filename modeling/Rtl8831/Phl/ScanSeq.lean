import Rtl8831.Lib.Run
import Rtl8831.Lib.Weave
import Rtl8831.Phl.ChanCtx

/-!
# The channels of a scan

Each scan control has a list of channels.  `_cmd_scan_select_chnl` takes the next one from
it, puts the operating channels in front when it is their turn, and fills the list again
when it is empty and the scan is to be repeated.
-/

namespace Rtl8831.Phl.ScanSeq

open Lib Function

inductive PhlScanMode
  | null
  | normal
  | backOp
  | p2pScan
  | p2pListen
  deriving DecidableEq

inductive BkopMode
  | none
  | cnt
  | timer
  deriving DecidableEq

/-- `struct phl_scan_channel` of a request; `BAND_MAX` is no band. -/
structure ScanChannel where
  band : BandType
  channel : ℕ
  scanMode : PhlScanMode
  band_ne : band ≠ .max
  deriving DecidableEq

/-- The nodes of the lists: the requested channels, and the operating channels of the control
for a band. -/
inductive Node
  | ch (i : ℕ) (c : ScanChannel)
  | op (b : HwBand) (i : ℕ)
  deriving DecidableEq

def Node.isOp : Node → Bool
  | .ch _ _ => false
  | .op _ _ => true

def Node.scanMode : Node → PhlScanMode
  | .ch _ c => c.scanMode
  | .op _ _ => .backOp

/-- `struct rtw_phl_scan_param`.  The first control is for the band of the role that scans,
the second one for the other band; `backOpCh` are the channels that `_assign_opch_list` finds
for the control of a band. -/
structure Param where
  ch : List ScanChannel
  rpt : ℕ
  mode : BkopMode
  chIntv : ℕ
  offChDur : ℕ
  first : HwBand
  twoBands : Bool
  cckPhy : HwBand
  backOpCh : HwBand → List ℕ
  rpt_le : rpt ≤ 255

/-- `struct cmd_scan_ctrl` -/
structure Sctrl where
  chlist : List Node := []
  cnt : ℕ := 0
  chIdx : ℤ := -1
  rpt : ℕ
  isCck : Bool := false
  lastOpchAddTime : ℕ := 0

namespace Sctrl

def initListHead (s : Sctrl) : Sctrl := { s with chlist := [] }

/-- `pq_push` at the tail -/
def push (s : Sctrl) (x : Node) : Sctrl := { s with chlist := s.chlist ++ [x], cnt := s.cnt + 1 }

/-- `pq_push` in front -/
def pushFirst (s : Sctrl) (x : Node) : Sctrl :=
  { s with chlist := x :: s.chlist, cnt := s.cnt + 1 }

/-- `pq_pop` in front -/
def pop (s : Sctrl) : Option (Node × Sctrl) :=
  match s.chlist with
  | [] => none
  | x :: xs => if 0 < s.cnt then some (x, { s with chlist := xs, cnt := s.cnt - 1 }) else none

def enqueueOpch (s : Sctrl) (ops : List Node) : Sctrl := ops.foldl pushFirst s

end Sctrl

abbrev Ctls := Fin 2 → Sctrl

def bandIdx : HwBand → Fin 2
  | .band0 => 0
  | .band1 => 1

namespace Param

def ops (P : Param) (b : HwBand) : List Node :=
  if P.mode = .none then [] else (List.range (P.backOpCh b).length).map (.op b)

/-- `phl_cmd_scan_ctrl` -/
def sctrlIdx (P : Param) (b : HwBand) : Option (Fin 2) :=
  if b = P.first then some 0 else if P.twoBands then some 1 else none

def bandOf (P : Param) (i : Fin 2) : HwBand :=
  if i = 0 then P.first else match P.first with
    | .band0 => .band1
    | .band1 => .band0

def nodes (P : Param) : List Node := P.ch.zipIdx.map fun c => .ch c.2 c.1

def keeps (isCck : Bool) : Node → Bool
  | .ch _ c =>
    !(isCck && decide (c.band = .on5G ∨ c.band = .on6G)) && !(!isCck && decide (c.band = .on24G))
  | .op _ _ => false

def updateChlist (P : Param) (i : Fin 2) (isCck : Bool) (c : Ctls) : Ctls :=
  let c := update c i (c i).initListHead
  if P.twoBands then
    update c i ((P.nodes.filter (keeps isCck)).foldl Sctrl.push { c i with isCck := isCck })
  else update c 0 (P.nodes.foldl Sctrl.push { c 0 with isCck := isCck })

/-- The part of `_cmd_scan_select_chnl` for a channel that was popped; none if it divides by
zero. -/
def popped (P : Param) (b : HwBand) (now : ℕ) (x : Node) (s : Sctrl) : Option Sctrl :=
  match x.scanMode with
  | .normal =>
    let s := { s with chIdx := s.chIdx + 1 }
    if P.ops b ≠ [] ∧ P.mode = .cnt then
      if P.chIntv = 0 then none
      else if (s.chIdx + 1) % (P.chIntv : ℤ) = 0 then some (s.enqueueOpch (P.ops b))
      else some s
    else if P.ops b ≠ [] ∧ P.mode = .timer then
      if P.offChDur < now - s.lastOpchAddTime then
        some ({ s with lastOpchAddTime := now }.enqueueOpch (P.ops b))
      else some s
    else some s
  | .p2pListen =>
    let s := if P.ops b ≠ [] ∧ P.mode = .timer then s.enqueueOpch (P.ops b) else s
    some { s with chIdx := s.chIdx + 1 }
  | _ => some s

end Param

/-- What a call returns: a channel, or `NULL` at the end of the scan. -/
inductive Pick
  | chosen (x : Node) (c : Ctls)
  | ended (c : Ctls)

/-- `_cmd_scan_select_chnl` for the control of a band, with at most so many turns to `next_ch`;
none if it divides by zero or is still running. -/
def selectChnl (P : Param) (b : HwBand) (i : Fin 2) (now : ℕ) : ℕ → Ctls → Option Pick
  | 0, _ => none
  | fuel + 1, c =>
    match (c i).pop with
    | some (x, s) => (P.popped b now x s).map fun s => .chosen x (update c i s)
    | none =>
      if 0 < (c i).rpt then
        -- the control is looked up by its index, and here it is given the band
        let c := P.updateChlist (bandIdx b) (c i).isCck c
        let rpt := if (c i).rpt = 255 then 255 else (c i).rpt - 1
        selectChnl P b i now fuel (update c i { c i with chIdx := 0, rpt := rpt })
      else some (.ended c)

structure State where
  ctl : Ctls
  picked : HwBand → List Node := fun _ => []
  ended : HwBand → Bool := fun _ => false
  failed : Bool := false

def State.after (s : State) (b : HwBand) : Option Pick → State
  | none => { s with failed := true }
  | some (.chosen x c) =>
    { s with ctl := c, picked := update s.picked b (s.picked b ++ [x]) }
  | some (.ended c) => { s with ctl := c, ended := update s.ended b true }

/-- A call for a band at a time.  More turns than repetitions are left are only made by a
call that does not return (`selectChnl_stuck`). -/
def step (P : Param) (s : State) (e : HwBand × ℕ) : State :=
  match P.sctrlIdx e.1 with
  | none => s
  | some i => s.after e.1 (selectChnl P e.1 i e.2 ((s.ctl i).rpt + 2) s.ctl)

def init (P : Param) : State :=
  let c : Ctls := fun _ => { rpt := P.rpt }
  let c := P.updateChlist 0 (P.cckPhy = P.bandOf 0) c
  { ctl := if P.twoBands then P.updateChlist 1 (P.cckPhy = P.bandOf 1) c else c }

def Param.listed (P : Param) (b : HwBand) : List Node :=
  if P.twoBands then P.nodes.filter (Param.keeps (P.cckPhy = b)) else P.nodes

/-- `_phl_cmd_scan_req_submit` asks for a band only if its control has channels. -/
def Submitted (P : Param) (b : HwBand) : Prop :=
  (P.sctrlIdx b).isSome ∧ P.listed b ≠ []

def Legal (P : Param) (_ : State) (e : HwBand × ℕ) : Prop := Submitted P e.1

end Rtl8831.Phl.ScanSeq
