import Rtl8831.Lib.Ring
import Rtl8831.Lib.Run

/-!
# The TX and RX rings between core and PHL

Both rings keep one slot free and name the slot used last.  A TX ring is
filled by `rtw_phl_add_tx_req` under `t_ring_list_lock` and emptied by the TX
handler, which takes the lock only to count what is there.  The RX ring is
filled by `_phl_add_rx_pkt` under `rx_ring_lock` and emptied by
`rtw_phl_query_rx_pkt`, which takes no lock.  Every access of one side that
the other can see is a step of its own.
-/

namespace Rtl8831.Phl

open Lib

/-- A number of entries that the `u16` indices can count. -/
structure RingSize where
  num : ℕ
  pos : 0 < num
  le : num ≤ 65536

/-- Conversion of an `int` to `u16`. -/
def u16 (x : ℤ) : ℕ := (x % 65536).toNat

/-- `phl_calc_avail_rptr`: the entries waiting to be read. -/
def phlCalcAvailRptr (rptr wptr bndy : ℕ) : ℕ :=
  if wptr ≥ rptr then u16 (wptr - rptr)
  else if rptr > wptr then u16 (wptr + (bndy - rptr))
  else 0

/-- `phl_calc_avail_wptr`: the entries that may still be written. -/
def phlCalcAvailWptr (rptr wptr bndy : ℕ) : ℕ :=
  if rptr > wptr then u16 (rptr - wptr - 1)
  else if wptr ≥ rptr then u16 (rptr + (bndy - wptr) - 1)
  else 0

namespace RingSize

variable (N : RingSize) {r w : ℕ}

/-- The boundary as the `u16` parameter `bndy` receives it. -/
def bndy : ℕ := u16 N.num

lemma bndy_eq : N.bndy = N.num ∨ N.num = 65536 ∧ N.bndy = 0 := by
  have := N.le
  unfold bndy u16
  omega

lemma mod_lt (i : ℕ) : i % N.num < N.num := Nat.mod_lt i N.pos

lemma mod_lt_u16 (i : ℕ) : i % N.num < 65536 := (N.mod_lt i).trans_le N.le

section

variable (hle : r ≤ w) (hlt : w < r + N.num)
include hle hlt

lemma index_sub :
    (r % N.num ≤ w % N.num ∧ w % N.num - r % N.num = w - r) ∨
      (w % N.num < r % N.num ∧ w % N.num + N.num - r % N.num = w - r) := by
  obtain ⟨d, rfl⟩ := Nat.exists_eq_add_of_le hle
  have hd : d < N.num := by omega
  have hr := N.mod_lt r
  have hmod : (r + d) % N.num = (r % N.num + d) % N.num := by rw [Nat.mod_add_mod]
  rw [hmod]
  generalize r % N.num = x at hr ⊢
  rcases Nat.lt_or_ge (x + d) N.num with h | h
  · rw [Nat.mod_eq_of_lt h]
    omega
  · rw [Nat.mod_eq_sub_mod h, Nat.mod_eq_of_lt (by omega)]
    omega

lemma calcAvailRptr_eq :
    phlCalcAvailRptr (r % N.num) (w % N.num) N.bndy = w - r := by
  have h := N.index_sub hle hlt
  have hb := N.bndy_eq
  have hN := N.le
  have hr := N.mod_lt r
  unfold phlCalcAvailRptr u16
  generalize r % N.num = x at *
  generalize w % N.num = y at *
  split
  · omega
  · split <;> omega

lemma calcAvailWptr_eq :
    phlCalcAvailWptr (r % N.num) (w % N.num) N.bndy = N.num - 1 - (w - r) := by
  have h := N.index_sub hle hlt
  have hb := N.bndy_eq
  have hN := N.le
  have hr := N.mod_lt r
  have hw := N.mod_lt w
  unfold phlCalcAvailWptr u16
  generalize r % N.num = x at *
  generalize w % N.num = y at *
  split
  · omega
  · split <;> omega

end

end RingSize

inductive AddStatus where
  | success
  | resource
deriving DecidableEq

/-- Where a call of `rtw_phl_add_tx_req` stands once it has the lock. -/
inductive AddTxReq (α : Type*) where
  | start (txReq : α)
  | room (txReq : α)
  /-- `core_idx` is advanced, the slot it names is not yet written. -/
  | indexed (txReq : α)
  | finished (status : AddStatus)
deriving DecidableEq

inductive TxHandler (α : Type*) where
  | idle
  /-- In `_phl_check_ring_status`, with the lock. -/
  | checking
  | checked (reqBusy : ℕ)
  /-- In the loop of `_phl_handle_xmit_ring_usb`, before `phl_next_idx` is read. -/
  | handling (reqBusy : ℕ)
  | loaded (reqBusy rptr : ℕ) (txReq : Option α)
  /-- `_phl_prepare_tx_usb` has copied the request, `phl_idx` is to be set. -/
  | prepared (reqBusy rptr : ℕ) (txReq : α) (ok : Bool)
  | sent (reqBusy rptr : ℕ)
deriving DecidableEq

/-- `struct rtw_phl_tx_ring`, with the threads that work on it; `added` and
`consumed` record the requests accepted and the requests taken out. -/
structure TxRing (α : Type*) where
  coreIdx : ℕ
  phlIdx : ℕ
  phlNextIdx : ℕ
  entry : ℕ → Option α
  core : Option (AddTxReq α)
  phl : TxHandler α
  added : List α
  consumed : List α

inductive TxChoice where
  | ok
  | fail
  | stop
deriving DecidableEq

inductive TxEvent (α : Type*) where
  | add (txReq : α)
  | core
  | phl (choice : TxChoice)

namespace TxRing

variable {α : Type*}

def init (α : Type*) : TxRing α where
  coreIdx := 0
  phlIdx := 0
  phlNextIdx := 0
  entry := fun _ => none
  core := none
  phl := .idle
  added := []
  consumed := []

/-- Whether `t_ring_list_lock` is free. -/
def unlocked (s : TxRing α) : Bool :=
  s.core.isNone && match s.phl with
    | .checking | .checked _ => false
    | _ => true

/-- The next access of `rtw_phl_add_tx_req`. -/
def addTxReq (N : RingSize) (s : TxRing α) : TxRing α :=
  match s.core with
  | none => s
  | some (.start txReq) =>
    let ringRes := phlCalcAvailWptr (u16 s.phlIdx) s.coreIdx N.bndy
    if ringRes > 0 then { s with core := some (.room txReq) }
    else { s with core := some (.finished .resource) }
  | some (.room txReq) =>
    { s with coreIdx := (s.coreIdx + 1) % N.num
             core := some (.indexed txReq)
             added := s.added ++ [txReq] }
  | some (.indexed txReq) =>
    { s with entry := Function.update s.entry s.coreIdx (some txReq)
             core := some (.finished .success) }
  | some (.finished _) => { s with core := none }

/-- The next access of the TX handler: `_phl_check_ring_status` under the lock,
then the loop of `_phl_handle_xmit_ring_usb`. -/
def txCallback (N : RingSize) (s : TxRing α) (choice : TxChoice) : TxRing α :=
  match s.phl with
  | .idle => if s.unlocked then { s with phl := .checking } else s
  | .checking =>
    let rptr := u16 s.phlIdx
    let avail := phlCalcAvailRptr rptr s.coreIdx N.bndy
    -- no ring status can be allocated unless `choice = .ok`
    if avail = 0 ∨ choice ≠ .ok then { s with phl := .checked 0 }
    else { s with phlNextIdx := if N.num ≤ rptr + 1 then 0 else rptr + 1
                  phl := .checked avail }
  | .checked reqBusy =>
    -- the ring status is released again when there is no TX buffer
    if reqBusy ≠ 0 ∧ choice = .ok then { s with phl := .handling reqBusy }
    else { s with phl := .idle }
  | .handling reqBusy =>
    let rptr := u16 s.phlNextIdx
    { s with phl := .loaded reqBusy rptr (s.entry rptr) }
  | .loaded _ _ none => { s with phl := .idle }
  | .loaded reqBusy rptr (some txReq) =>
    match choice with
    | .stop => { s with phl := .idle }
    | .ok => { s with phl := .prepared reqBusy rptr txReq true }
    | .fail => { s with phl := .prepared reqBusy rptr txReq false }
  | .prepared reqBusy rptr txReq ok =>
    { s with phlIdx := rptr
             consumed := s.consumed ++ [txReq]
             phl := if ok then .sent (reqBusy - 1) rptr else .idle }
  | .sent reqBusy rptr =>
    if choice = .ok ∧ reqBusy ≠ 0 then
      { s with phlNextIdx := if N.num ≤ rptr + 1 then 0 else s.phlNextIdx + 1
               phl := .handling reqBusy }
    else { s with phl := .idle }

def step (N : RingSize) (s : TxRing α) : TxEvent α → TxRing α
  | .add txReq => if s.unlocked then { s with core := some (.start txReq) } else s
  | .core => s.addTxReq N
  | .phl choice => s.txCallback N choice

def outstanding (s : TxRing α) : ℕ := s.added.length - s.consumed.length

def written (s : TxRing α) : ℕ :=
  match s.core with
  | some (.indexed _) => s.added.length - 1
  | _ => s.added.length

end TxRing

/-- Where a call of `_phl_add_rx_pkt` stands once it has the lock. -/
inductive AddRxPkt (α : Type*) where
  | start (recvpkt : α)
  | sampled (recvpkt : α) (wptr : ℕ)
  | room (recvpkt : α) (wptr : ℕ)
  /-- The slot is written, `phl_idx` is not yet advanced. -/
  | stored (recvpkt : α) (wptr : ℕ)
  | finished (status : AddStatus)
deriving DecidableEq

/-- Where a call of `rtw_phl_query_rx_pkt` stands. -/
inductive QueryRxPkt (α : Type*) where
  | start
  | sampled (wptr : ℕ)
  | ready (rptr : ℕ)
  | loaded (rptr : ℕ) (recvpkt : Option α)
  /-- The slot is cleared, `core_idx` is not yet advanced. -/
  | cleared (rptr : ℕ) (recvpkt : Option α)
deriving DecidableEq

/-- `struct rtw_phl_rx_ring`, with the two calls under way; `added` records the
packets accepted, `returned` what the queries returned other than for an empty
ring. -/
structure RxRing (α : Type*) where
  coreIdx : ℕ
  phlIdx : ℕ
  entry : ℕ → Option α
  phl : Option (AddRxPkt α)
  core : Option (QueryRxPkt α)
  added : List α
  returned : List (Option α)

inductive RxRingEvent (α : Type*) where
  | add (recvpkt : α)
  | phl
  | query
  | core

namespace RxRing

variable {α : Type*}

def init (α : Type*) : RxRing α where
  coreIdx := 0
  phlIdx := 0
  entry := fun _ => none
  phl := none
  core := none
  added := []
  returned := []

/-- The next access of `_phl_add_rx_pkt`. -/
def addRxPkt (N : RingSize) (s : RxRing α) : RxRing α :=
  match s.phl with
  | none => s
  | some (.start recvpkt) => { s with phl := some (.sampled recvpkt (u16 s.phlIdx)) }
  | some (.sampled recvpkt wptr) =>
    let ringRes := phlCalcAvailWptr (u16 s.coreIdx) wptr N.bndy
    if ringRes ≤ 0 then { s with phl := some (.finished .resource) }
    else { s with phl := some (.room recvpkt (if N.num ≤ wptr + 1 then 0 else wptr + 1)) }
  | some (.room recvpkt wptr) =>
    { s with entry := Function.update s.entry wptr (some recvpkt)
             phl := some (.stored recvpkt wptr) }
  | some (.stored recvpkt wptr) =>
    { s with phlIdx := if wptr ≠ 0 then s.phlIdx + 1 else 0
             phl := some (.finished .success)
             added := s.added ++ [recvpkt] }
  | some (.finished _) => { s with phl := none }

/-- The next access of `rtw_phl_query_rx_pkt`. -/
def queryRxPkt (N : RingSize) (s : RxRing α) : RxRing α :=
  match s.core with
  | none => s
  | some .start => { s with core := some (.sampled (u16 s.phlIdx)) }
  | some (.sampled wptr) =>
    let rptr := u16 s.coreIdx
    let ringRes := phlCalcAvailRptr rptr wptr N.bndy
    if ringRes > 0 then { s with core := some (.ready (if N.num ≤ rptr + 1 then 0 else rptr + 1)) }
    else { s with core := none }
  | some (.ready rptr) => { s with core := some (.loaded rptr (s.entry rptr)) }
  | some (.loaded rptr recvpkt) =>
    { s with entry := Function.update s.entry rptr none
             core := some (.cleared rptr recvpkt) }
  | some (.cleared rptr recvpkt) =>
    { s with coreIdx := if rptr = 0 then 0 else s.coreIdx + 1
             core := none
             returned := s.returned ++ [recvpkt] }

def step (N : RingSize) (s : RxRing α) : RxRingEvent α → RxRing α
  | .add recvpkt => if s.phl.isNone then { s with phl := some (.start recvpkt) } else s
  | .phl => s.addRxPkt N
  | .query => if s.core.isNone then { s with core := some .start } else s
  | .core => s.queryRxPkt N

def outstanding (s : RxRing α) : ℕ := s.added.length - s.returned.length

end RxRing

end Rtl8831.Phl
