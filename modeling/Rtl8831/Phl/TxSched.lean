import Rtl8831.Lib.Grouping
import Rtl8831.Phl.TrxRing

/-!
# Scheduling of the TX rings

Each round of the TX handler looks through the rings of all stations, notes the
ones with requests in a status from a pool, and sorts the statuses of a station.
The flow control then merges the stations' lists into one: the rings for
management and for high priority first, the others so that one traffic id of
all stations is served together.
-/

namespace Rtl8831.Phl

open Function

namespace TxSched

open Lib (insertAfter)

def maxPhlTxRingEntryNum : ℕ := 4096

def maxPhlRingStatusNumber : ℕ := 256

/-- `enum rtw_phl_ring_cat`, as far as it names rings. -/
inductive RingCat
  | tid (t : Fin 8)
  | mgnt
  | hiq
  deriving DecidableEq

/-- The categories of `phl_ring`, in the order of their indices. -/
def RingCat.all : List RingCat := (List.finRange 8).map .tid ++ [.mgnt, .hiq]

def RingCat.toTid : RingCat → Fin 8
  | .tid t => t
  | .mgnt => 0
  | .hiq => 0

structure TxRing where
  coreIdx : ℕ
  phlIdx : ℕ
  phlNextIdx : ℕ

/-- `struct phl_ring_status`: its place in the pool, and the ring that it is
about, by its list and its category. -/
structure RingStatus where
  slot : ℕ
  band : ℕ
  wmm : ℕ
  port : ℕ
  reqBusy : ℕ
  sta : ℕ
  cat : RingCat
  deriving DecidableEq

structure TxPlan where
  sleep : Bool
  hasMgnt : Bool
  hasHiq : Bool
  sortedRing : List RingStatus

structure TringList where
  band : ℕ
  wmm : ℕ
  port : ℕ
  ring : RingCat → TxRing
  plan : TxPlan

def initTxPlan : TxPlan := ⟨false, false, false, []⟩

/-- The lists of rings by their addresses, `t_ring_list`, the statuses of the
pool that are idle, and `t_fctrl_result`. -/
structure State where
  tring : ℕ → TringList
  tRingList : List ℕ
  idle : List ℕ
  fctrlResult : List RingStatus

/-- What `_phl_ring_status_init` leaves. -/
def init (tring : ℕ → TringList) : State :=
  ⟨tring, [], List.range maxPhlRingStatusNumber, []⟩

/-- `_phl_check_ring_status`: the status and the pool. -/
def checkRingStatus (a : ℕ) (t : TringList) (c : RingCat) (idle : List ℕ) :
    Option RingStatus × List ℕ :=
  let r := t.ring c
  let avail := phlCalcAvailRptr r.phlIdx r.coreIdx maxPhlTxRingEntryNum
  if avail = 0 then (none, idle)
  else
    match idle with
    | [] => (none, [])
    | k :: ks => (some ⟨k, t.band, t.wmm, t.port, avail, a, c⟩, ks)

/-- The `phl_next_idx` that `_phl_check_ring_status` writes with a status. -/
def nextIdx (r : TxRing) : TxRing :=
  { r with
    phlNextIdx := if maxPhlTxRingEntryNum ≤ r.phlIdx + 1 then 0 else r.phlIdx + 1 }

def sortRingByTid (x : RingStatus) (p : TxPlan) : TxPlan :=
  if x.cat = .tid 1 then { p with sortedRing := p.sortedRing ++ [x] }
  else if x.cat = .tid 2 then
    match p.sortedRing.getLast? with
    | none => { p with sortedRing := p.sortedRing ++ [x] }
    | some y =>
      if y.cat = .tid 1 then { p with sortedRing := p.sortedRing.dropLast ++ [x, y] }
      else { p with sortedRing := p.sortedRing ++ [x] }
  else
    { p with
      sortedRing := x :: p.sortedRing
      hasMgnt := p.hasMgnt || decide (x.cat = .mgnt)
      hasHiq := p.hasHiq || decide (x.cat = .hiq) }

/-- One round of the loop of `_phl_check_tring_list`. -/
def checkRing (a : ℕ) (s : TringList × List ℕ) (c : RingCat) : TringList × List ℕ :=
  match checkRingStatus a s.1 c s.2 with
  | (none, idle) => (s.1, idle)
  | (some x, idle) =>
    ({ s.1 with
        ring := update s.1.ring c (nextIdx (s.1.ring c))
        plan := sortRingByTid x s.1.plan }, idle)

/-- `_phl_check_tring_list`; the list of stations holds the addresses. -/
def checkTringList (a : ℕ) (s : State × List ℕ) : State × List ℕ :=
  let r := RingCat.all.foldl (checkRing a) (s.1.tring a, s.1.idle)
  ({ s.1 with tring := update s.1.tring a r.1, idle := r.2 },
    if r.1.plan.sortedRing = [] then s.2 else s.2 ++ [a])

/-- `phl_check_xmit_ring_resource`; with `useOnetxring` only the first list is
looked at. -/
def checkXmitRingResource (useOnetxring : Bool) (s : State) : State × List ℕ :=
  (if useOnetxring then s.tRingList.take 1 else s.tRingList).foldl
    (fun s a => checkTringList a s) (s, [])

/-- `_phl_reset_tx_plan`: what is left in the plan goes back to the pool. -/
def resetTxPlan (a : ℕ) (s : State) : State :=
  let t := s.tring a
  { s with
    tring := update s.tring a { t with plan := initTxPlan }
    idle := s.idle ++ t.plan.sortedRing.map RingStatus.slot }

def firstToHead (p : TxPlan) (result : List RingStatus) : TxPlan × List RingStatus :=
  match p.sortedRing with
  | [] => (p, result)
  | x :: xs => ({ p with sortedRing := xs }, x :: result)

/-- One round of the inner loop of `phl_tx_flow_ctrl`, over the result and the
last status that went in for each traffic id. -/
def placeRing (s : List RingStatus × (Fin 8 → Option ℕ)) (x : RingStatus) :
    List RingStatus × (Fin 8 → Option ℕ) :=
  let tid := x.cat.toTid
  (match s.2 tid with
    | none => s.1 ++ [x]
    | some k => insertAfter (fun y => y.slot = k) x s.1,
    update s.2 tid (some x.slot))

/-- One round of the outer loop of `phl_tx_flow_ctrl`. -/
def flowStation (s : State × (Fin 8 → Option ℕ)) (a : ℕ) : State × (Fin 8 → Option ℕ) :=
  let p := (s.1.tring a).plan
  if p.sleep then (resetTxPlan a s.1, s.2)
  else
    let h := if p.hasHiq then firstToHead p s.1.fctrlResult else (p, s.1.fctrlResult)
    let m := if p.hasMgnt then firstToHead h.1 h.2 else h
    let r := m.1.sortedRing.foldl placeRing (m.2, s.2)
    let t := { s.1.tring a with plan := { m.1 with sortedRing := [] } }
    (resetTxPlan a { s.1 with tring := update s.1.tring a t, fctrlResult := r.1 }, r.2)

def phlTxFlowCtrl (s : State) (staList : List ℕ) : State :=
  (staList.foldl flowStation (s, fun _ => none)).1

/-- What happens between two rounds, and the rounds: a list of rings is put on
`t_ring_list` or taken off, the indices of a ring move, and the handler runs.  It
takes every status of the result off; `released` says which of them go back to
the pool. -/
inductive Event
  | link (a : ℕ) (band wmm port : ℕ) (ring : RingCat → TxRing)
  | unlink (a : ℕ)
  | move (a : ℕ) (c : RingCat) (r : TxRing)
  | round (useOnetxring : Bool) (released : ℕ → Bool)

def schedule (useOnetxring : Bool) (s : State) : State :=
  let c := checkXmitRingResource useOnetxring s
  phlTxFlowCtrl c.1 c.2

def step (s : State) : Event → State
  | .link a band wmm port ring =>
    if a ∈ s.tRingList then s
    else
      { s with
        tring := update s.tring a ⟨band, wmm, port, ring, initTxPlan⟩
        tRingList := s.tRingList ++ [a] }
  | .unlink a => { s with tRingList := s.tRingList.erase a }
  | .move a c r =>
    { s with
      tring := update s.tring a
        { s.tring a with ring := update (s.tring a).ring c r } }
  | .round useOnetxring released =>
    let s := schedule useOnetxring s
    { s with
      idle := s.idle ++ (s.fctrlResult.map RingStatus.slot).filter released
      fctrlResult := [] }

end TxSched

end Rtl8831.Phl
