import Rtl8831.Lib.Index

/-!
# Sending commands to the firmware in aggregates

`mac_h2c_agg_tx` takes the queue of commands to the firmware.  A command that fits in an
aggregate together with the next one is copied into a long buffer behind a header with its
length; the others are sent as they are.  If something fails, `mac_h2c_agg_flush` gives back
what is left.
-/

namespace Rtl8831.Mac.H2cAgg

/-- `ALIGN_4_BYTE`; lengths are those of buffers, so nothing wraps. -/
def align4Byte (len : ℕ) : ℕ := (len + 3) / 4 * 4

def fwcmdHdrLen : ℕ := 8

def wdBodyLen : ℕ := 24

def h2cAggSubHdrLen : ℕ := 4

def h2cLongDataLen : ℕ := 2048

def aggregatable (len : ℕ) : Bool :=
  decide (align4Byte len + wdBodyLen + fwcmdHdrLen + h2cAggSubHdrLen < h2cLongDataLen)

def cpuToLe32 (x : ℕ) : List UInt8 :=
  [UInt8.ofNat x, UInt8.ofNat (x / 2 ^ 8), UInt8.ofNat (x / 2 ^ 16), UInt8.ofNat (x / 2 ^ 24)]

/-- `struct rtw_h2c_pkt`: its address, and its data with the command header. -/
structure H2cPkt (ι : Type) where
  addr : ι
  data : List UInt8
  deriving DecidableEq

/-- The buffers that can be released: the packets of the queue, and the aggregates, each
known by its first packet. -/
inductive Buf (ι : Type)
  | pkt (i : ι)
  | agg (i : ι)
  deriving DecidableEq

/-- What is seen of a run.  A packet that is sent belongs to the bus, which releases it. -/
inductive Event (ι : Type)
  | sentNormal (p : H2cPkt ι)
  | sentAgg (content : List UInt8)
  | allocated (i : ι)
  | released (b : Buf ι)
  | freedNode (i : ι)
  deriving DecidableEq

/-- What becomes of a packet that is sent alone: the bus takes it; building its descriptor
fails or there is no buffer for the bus; or the bus refuses it, and `phl_pltfm_tx_usb` has
put it back into the pool. -/
inductive NormalTx
  | sent
  | kept
  | recycled
  deriving DecidableEq

/-- What the platform does: the results of sending a packet, of allocating an aggregate and of
`mac_h2c_common` for its content; the bytes that lie behind the start of the descriptor of an
aggregate; whether `rtl_recycle_h2c` is installed; and whether a signal ends the wait for a
mutex. -/
structure Platform (ι : Type) where
  normal : ι → NormalTx
  alloc : ι → Bool
  common : ι → Bool
  behind : ι → ℕ → List UInt8
  recycles : Bool
  interrupted : Bool

/-- The aggregate that is being filled: `agg_h2cb` and `agg_len`. -/
structure Agg (ι : Type) where
  first : ι
  data : List UInt8
  aggLen : ℕ

variable {ι : Type}

def Agg.new (i : ι) : Agg ι := ⟨i, [], wdBodyLen + fwcmdHdrLen⟩

/-- A command behind its aligned length; the buffer is zero where nothing is copied to. -/
def subH2c (data : List UInt8) : List UInt8 :=
  cpuToLe32 (align4Byte data.length) ++
    (data ++ List.replicate (align4Byte data.length - data.length) 0)

/-- `h2cb_put` and the two copies. -/
def Agg.put (a : Agg ι) (p : H2cPkt ι) : Option (Agg ι) :=
  if a.data.length + (align4Byte p.data.length + h2cAggSubHdrLen) ≤ h2cLongDataLen then
    some { a with
      data := a.data ++ subH2c p.data
      aggLen := a.aggLen + align4Byte p.data.length + h2cAggSubHdrLen }
  else none

/-- Where the loop stands: the rest of the queue, the open aggregate and what was done. -/
structure State (ι : Type) where
  queue : List (H2cPkt ι)
  agg : Option (Agg ι)
  log : List (Event ι)

/-- How the loop ends.  It crashes when it calls `rtl_recycle_h2c` through a null pointer. -/
inductive Exit
  | done
  | failed
  | crashed
  deriving DecidableEq

def startsAgg (p : H2cPkt ι) : List (H2cPkt ι) → Bool
  | [] => false
  | next :: _ => aggregatable p.data.length && aggregatable next.data.length

/-- Whether an aggregate is sent, as nothing else is queued or the next packet does not fit. -/
def closes (a : Agg ι) : List (H2cPkt ι) → Bool
  | [] => true
  | next :: _ =>
    decide (h2cLongDataLen ≤ a.aggLen + align4Byte next.data.length + h2cAggSubHdrLen)

/-- `mac_h2c_agg_tx_single_agg_h2c`: the content is copied from the address of the descriptor
on, and not from that of the data. -/
def Platform.sendAgg (P : Platform ι) (a : Agg ι) : Option (Event ι) :=
  if P.common a.first then some (.sentAgg (P.behind a.first (a.data.length - fwcmdHdrLen)))
  else none

def addSub (P : Platform ι) (p : H2cPkt ι) (rest : List (H2cPkt ι)) (a : Agg ι)
    (log : List (Event ι)) : Exit × State ι :=
  match a.put p with
  | none => (.failed, ⟨p :: rest, some a, log⟩)
  | some a =>
    if P.recycles then
      if closes a rest then
        match P.sendAgg a with
        | some sent =>
          (.done, ⟨rest, none, log ++ [.freedNode p.addr, .released (.pkt p.addr), sent]⟩)
        | none =>
          (.failed, ⟨rest, some a, log ++ [.freedNode p.addr, .released (.pkt p.addr)]⟩)
      else (.done, ⟨rest, some a, log ++ [.freedNode p.addr, .released (.pkt p.addr)]⟩)
    else (.crashed, ⟨rest, some a, log ++ [.freedNode p.addr]⟩)

def body (P : Platform ι) (p : H2cPkt ι) (rest : List (H2cPkt ι)) :
    Option (Agg ι) → List (Event ι) → Exit × State ι
  | some a, log => addSub P p rest a log
  | none, log =>
    if startsAgg p rest then
      if P.alloc p.addr then addSub P p rest (.new p.addr) (log ++ [.allocated p.addr])
      else (.failed, ⟨p :: rest, none, log⟩)
    else
      match P.normal p.addr with
      | .sent => (.done, ⟨rest, none, log ++ [.sentNormal p, .freedNode p.addr]⟩)
      | .kept => (.failed, ⟨p :: rest, none, log⟩)
      | .recycled => (.failed, ⟨p :: rest, none, log ++ [.released (.pkt p.addr)]⟩)

/-- The loop of `mac_h2c_agg_tx`. -/
def loop (P : Platform ι) : List (H2cPkt ι) → Option (Agg ι) → List (Event ι) → Exit × State ι
  | [], agg, log => (.done, ⟨[], agg, log⟩)
  | p :: rest, agg, log =>
    match body P p rest agg log with
    | (.done, s) => loop P rest s.agg s.log
    | stop => stop

/-- The loop of `mac_h2c_agg_flush`. -/
def flushLog (queue : List (H2cPkt ι)) : List (Event ι) :=
  queue.flatMap fun p => [.released (.pkt p.addr), .freedNode p.addr]

inductive Stop
  | returned (success : Bool)
  | blocked
  | crashed
  deriving DecidableEq

structure Result (ι : Type) where
  stop : Stop
  queue : List (H2cPkt ι)
  pktNum : ℕ
  log : List (Event ι)

/-- `adapter->h2c_agg_info`: packets have addresses of their own. -/
structure Info (ι : Type) where
  queue : List (H2cPkt ι)
  nodup : (queue.map H2cPkt.addr).Nodup

/-- `mac_h2c_agg_tx`.  The error path calls `mac_h2c_agg_flush`, which waits for the mutex
that is held already. -/
def macH2cAggTx (P : Platform ι) (q : Info ι) : Result ι :=
  match loop P q.queue none [] with
  | (.crashed, s) => ⟨.crashed, s.queue, q.queue.length, s.log⟩
  | (.done, s) => ⟨.returned true, [], 0, s.log⟩
  | (.failed, s) =>
    if P.interrupted then
      if P.recycles then
        ⟨.returned false, [], 0,
          s.log ++ flushLog s.queue ++ (s.agg.map fun a => .released (.agg a.first)).toList⟩
      else ⟨.crashed, s.queue, q.queue.length, s.log⟩
    else ⟨.blocked, s.queue, q.queue.length, s.log⟩

end Rtl8831.Mac.H2cAgg
