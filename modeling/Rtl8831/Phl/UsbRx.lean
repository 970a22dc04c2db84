import Rtl8831.Lib.Run

/-!
# RX buffers on USB

A buffer of the pool is idle, sent down with a bulk-in request (busy), waiting
to be parsed (pending), being parsed, or held by the packets that point into
it.  Requests, completions, the RX handler and the release of packets by the
upper layers run side by side; a buffer that a thread has taken from one list
and not yet put anywhere is in a hand.
-/

namespace Rtl8831.Phl

/-- `rx_buf->pipe_idx`: only the MPDU pipe carries packets. -/
inductive InPipe where
  | mpdu
  | other
deriving DecidableEq

inductive HandStage where
  /-- In `_phl_in_token_usb`, taken from the idle list. -/
  | token (pipe : InPipe)
  /-- In `phl_pend_rxbuf_usb`, taken from the busy list. -/
  | completed (ok : Bool) (len : ℤ)
  /-- Before `phl_release_rxbuf_usb`. -/
  | release
  /-- In `phl_release_rxbuf_usb`, with no packet left. -/
  | pushIdle
deriving DecidableEq

structure Hand (β : Type*) where
  buf : β
  stage : HandStage
deriving DecidableEq

/-- The loop of `phl_rx_usb`; `phlRx` tells whether its variable `phl_rx` is not
`NULL`. -/
inductive RxLoop (β : Type*) where
  | off
  | loop (phlRx : Bool)
  | parse (phlRx : Bool) (buf : β)
deriving DecidableEq

/-- One turn of the loop of `phl_get_single_rx` that got a `phl_rx`. -/
inductive RxTurn where
  | damaged
  | packet (alignOffset : ℤ) (wifi netbuf : Bool)
deriving DecidableEq

/-- What `os_send_usb_in_token` does: a request the host controller refuses with
`-EPERM` counts as sent. -/
inductive SendResult where
  | submitted
  | refused
  | failed
deriving DecidableEq

/-- `struct rtw_rx_buf_ring` with its buffers, the `phl_rx` packets in use and
the threads at work. -/
structure UsbRx (β : Type*) where
  idle : List β
  busy : List β
  pend : List β
  hands : List (Hand β)
  /-- Buffers on the busy list whose request is about to be sent. -/
  sends : List β
  /-- Buffers with a request at the host controller. -/
  urbs : List β
  pktcnt : β → ℕ
  pipeIdx : β → InPipe
  transferLen : β → ℤ
  /-- `rxbuf_ptr` of every packet in use. -/
  rxPkts : List (Option β)
  rxPktIdle : ℕ
  rx : RxLoop β

def maxPhlRingRxPktNum : ℕ := 4096

inductive UsbRxEvent where
  | inToken (pipe : InPipe)
  | hand (i : ℕ) (query : Bool)
  | send (i : ℕ) (result : SendResult)
  | complete (i : ℕ) (ok : Bool) (len : ℤ)
  | rxStart
  | rxPop
  | rxParse (turns : ℕ → RxTurn)
  | recycle (i : ℕ)

/-- The loop of `phl_get_single_rx`: for every packet it builds, whether the
packet points into the buffer.  The pool of `phl_rx` has `n` left. -/
def phlGetSingleRx : (n : ℕ) → (transferLen : ℤ) → (ℕ → RxTurn) → List Bool
  | 0, _, _ => []
  | n + 1, transferLen, turns =>
    match turns 0 with
    | .damaged => []
    | .packet alignOffset wifi netbuf =>
      let refers := !(wifi && netbuf)
      let transferLen := transferLen - alignOffset
      if transferLen > 0 then refers :: phlGetSingleRx n transferLen (fun i => turns (i + 1))
      else [refers]

namespace UsbRx

variable {β : Type*} [DecidableEq β]

/-- `_phl_rx_init_usb` with the buffers of `pool`. -/
def init (pool : List β) : UsbRx β where
  idle := pool
  busy := []
  pend := []
  hands := []
  sends := []
  urbs := []
  pktcnt := fun _ => 0
  pipeIdx := fun _ => .mpdu
  transferLen := fun _ => 0
  rxPkts := []
  rxPktIdle := maxPhlRingRxPktNum
  rx := .off

variable (s : UsbRx β)

/-- `phl_release_rxbuf_usb` up to the push on the idle list. -/
def phlReleaseRxbufUsb (b : β) : UsbRx β :=
  let pktcnt := s.pktcnt b - 1
  let s := { s with pktcnt := Function.update s.pktcnt b pktcnt }
  if pktcnt = 0 then { s with hands := s.hands ++ [⟨b, .pushIdle⟩] } else s

/-- `_phl_in_token_usb`, its first access. -/
def phlInTokenUsb (pipe : InPipe) : UsbRx β :=
  match s.idle with
  | [] => s
  | b :: idle => { s with idle := idle, hands := s.hands ++ [⟨b, .token pipe⟩] }

/-- The next access of the thread with a buffer in hand; `query` is the answer of
`rtw_hal_query_info`. -/
def handStep (i : ℕ) (query : Bool) : UsbRx β :=
  match s.hands[i]? with
  | none => s
  | some ⟨b, stage⟩ =>
    let s := { s with hands := s.hands.eraseIdx i }
    match stage with
    | .token pipe =>
      if query then
        { s with pipeIdx := Function.update s.pipeIdx b pipe
                 busy := s.busy ++ [b]
                 sends := s.sends ++ [b] }
      else s
    | .completed ok len =>
      if ok then { s with transferLen := Function.update s.transferLen b len
                          pend := s.pend ++ [b] }
      else s.phlReleaseRxbufUsb b
    | .release => s.phlReleaseRxbufUsb b
    | .pushIdle => { s with idle := s.idle ++ [b] }

/-- `os_send_usb_in_token` and what `_phl_in_token_usb` does when it fails. -/
def sendStep (i : ℕ) (result : SendResult) : UsbRx β :=
  match s.sends[i]? with
  | none => s
  | some b =>
    let s := { s with sends := s.sends.eraseIdx i }
    match result with
    | .submitted => { s with urbs := s.urbs ++ [b] }
    | .refused => s
    | .failed => { s with busy := s.busy.erase b, hands := s.hands ++ [⟨b, .release⟩] }

/-- A completion up to the end of `pq_del_node` in `phl_pend_rxbuf_usb`. -/
def phlPendRxbufUsb (i : ℕ) (ok : Bool) (len : ℤ) : UsbRx β :=
  match s.urbs[i]? with
  | none => s
  | some b =>
    { s with urbs := s.urbs.eraseIdx i
             busy := if s.busy.isEmpty then s.busy else s.busy.erase b
             hands := s.hands ++ [⟨b, .completed ok len⟩] }

/-- `phl_rx_usb` takes the next pending buffer, or ends. -/
def rxPop : UsbRx β :=
  match s.rx, s.pend with
  | .loop _, [] => { s with rx := .off }
  | .loop phlRx, b :: pend => { s with pend := pend, rx := .parse phlRx b }
  | _, _ => s

/-- `phl_rx_usb` works on the buffer it has taken. -/
def rxParse (turns : ℕ → RxTurn) : UsbRx β :=
  match s.rx with
  | .parse phlRx b =>
    match s.pipeIdx b with
    | .mpdu =>
      let refs := phlGetSingleRx s.rxPktIdle (s.transferLen b) turns
      let refCnt := refs.count true
      let s := { s with rxPkts := s.rxPkts ++ refs.map (fun r : Bool => if r then some b else none)
                        rxPktIdle := s.rxPktIdle - refs.length }
      if refCnt = 0 then
        -- no packet at all, or a copy of each
        { s with hands := s.hands ++ [⟨b, .release⟩], rx := .loop (!refs.isEmpty) }
      else
        { s with pktcnt := Function.update s.pktcnt b (refCnt % 65536), rx := .loop true }
    | .other =>
      -- `phl_rx` is still that of the buffer before
      if phlRx then { s with rx := .loop true }
      else { s with hands := s.hands ++ [⟨b, .release⟩], rx := .loop false }
  | _ => s

def phlRecycleRxBuf (i : ℕ) : UsbRx β :=
  match s.rxPkts[i]? with
  | none => s
  | some rxbufPtr =>
    let s := { s with rxPkts := s.rxPkts.eraseIdx i, rxPktIdle := s.rxPktIdle + 1 }
    match rxbufPtr with
    | none => s
    | some b => s.phlReleaseRxbufUsb b

def step : UsbRxEvent → UsbRx β
  | .inToken pipe => s.phlInTokenUsb pipe
  | .hand i query => s.handStep i query
  | .send i result => s.sendStep i result
  | .complete i ok len => s.phlPendRxbufUsb i ok len
  | .rxStart => if s.rx = .off then { s with rx := .loop false } else s
  | .rxPop => s.rxPop
  | .rxParse turns => s.rxParse turns
  | .recycle i => s.phlRecycleRxBuf i

def parsed : List β :=
  match s.rx with
  | .parse _ b => [b]
  | _ => []

def held (pktcnt : ℕ) : ℕ := if 0 < pktcnt then 1 else 0

def places (b : β) : ℕ :=
  s.idle.count b + s.busy.count b + s.pend.count b + (s.hands.map Hand.buf).count b +
    s.parsed.count b + held (s.pktcnt b)

end UsbRx

end Rtl8831.Phl
