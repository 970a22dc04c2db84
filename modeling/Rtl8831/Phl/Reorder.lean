import Rtl8831.Lib.Run
import Rtl8831.Lib.Slots

/-!
# The RX reorder buffer of a block-ack session

`phl_rx.c` keeps, for each station and TID with a block-ack agreement, a ring
of `buf_size` slots indexed by sequence number modulo `buf_size`, and the
sequence number `head_seq_num` of the next MPDU to hand up.  Comparisons are
made in the 12-bit sequence space with the half-space test `seq_less`.

Functions return the packets they append to the caller's frame list and the
packets they give back to the RX ring, instead of filling lists in place.
-/

namespace Rtl8831.Phl

open Lib Function

/-- `(sq1 - sq2) & SEQ_MASK`: how far `sq1` lies ahead of `sq2`. -/
def seqSub (sq1 sq2 : ℕ) : ℕ := (((sq1 : ℤ) - sq2) % 4096).toNat

def seqInc (sq : ℕ) : ℕ := (sq + 1) % 4096

/-- `sq1` precedes `sq2`; false both ways at a distance of exactly 2048. -/
def seqLess (sq1 sq2 : ℕ) : Bool := decide (seqSub sq1 sq2 > 2048)

lemma seqLess_iff {a b : ℕ} : seqLess a b = true ↔ 2048 < seqSub a b := by
  simp [seqLess]

lemma seqSub_lt (a b : ℕ) : seqSub a b < 4096 := by
  unfold seqSub
  omega

structure RxPkt where
  id : ℕ
  seq : Fin 4096
  tid : ℕ
  macid : ℕ
  addrCamVld : Bool
  bc : Bool
  mc : Bool
  qos : Bool
  qNull : Bool
  moreFrag : Bool
  fragNum : ℕ
  amsduCut : Bool
  lastMsdu : Bool
  /-- `pkt_list[0].length` -/
  length : ℕ
  deriving DecidableEq

/-- `struct phl_tid_ampdu_rx` with `buf_size = n`. -/
structure TidAmpduRx (n : ℕ) where
  reorderBuf : Fin n → Option RxPkt
  reorderTime : Fin n → ℕ
  headSeqNum : ℕ
  storedMpduNum : ℕ
  started : Bool
  removed : Bool
  sleep : Bool

section Ring

variable {n : ℕ} [NeZero n]

/-- `reorder_index`: the slot of a sequence number. -/
def reorderIndex (seq : ℕ) : Fin n := Fin.ofNat n seq

/-- `phl_release_reorder_frame`: hand up what the slot holds, if anything,
and move the head one on. -/
def releaseReorderFrame (r : TidAmpduRx n) (index : Fin n) : TidAmpduRx n × List RxPkt :=
  match r.reorderBuf index with
  | none => ({ r with headSeqNum := seqInc r.headSeqNum }, [])
  | some pkt =>
    ({ r with
        storedMpduNum := (r.storedMpduNum + 65535) % 65536
        reorderBuf := update r.reorderBuf index none
        headSeqNum := seqInc r.headSeqNum }, [pkt])

/-- `(s32)(reorder_time + HT_RX_REORDER_BUF_TIMEOUT_MS - cur_time) > 0`. -/
def notTimedOut (reorderTime curTime : ℕ) : Bool :=
  let left := (((reorderTime : ℤ) + 500 - curTime) % 4294967296).toNat
  decide (0 < left ∧ left < 2147483648)

/-- The `for` loop of `phl_reorder_release` over the slots after the head's.
`j` counts on from the head without reduction, `k` iterations are left
before it is back at the head's slot; the flag says that the loop was left
by `goto set_release_timer`. -/
def releaseTimedOut (curTime : ℕ) :
    (k j skipped : ℕ) → TidAmpduRx n → Bool × TidAmpduRx n × List RxPkt
  | 0, _, _, r => (false, r, [])
  | k + 1, j, skipped, r =>
    match r.reorderBuf (reorderIndex j) with
    | none => releaseTimedOut curTime k (j + 1) (skipped + 1) r
    | some _ =>
      if skipped ≠ 0 ∧ notTimedOut (r.reorderTime (reorderIndex j)) curTime then
        (true, r, [])
      else
        let a := releaseReorderFrame r (reorderIndex j)
        -- the head also passes the skipped slots
        let b := releaseTimedOut curTime k (j + 1) 0
          { a.1 with headSeqNum := (a.1.headSeqNum + skipped) % 4096 }
        (b.1, b.2.1, a.2 ++ b.2.2)

/-- The `while` loop of `phl_reorder_release`.  Every round empties a slot,
so `n` rounds are enough. -/
def releaseReady : ℕ → TidAmpduRx n → TidAmpduRx n × List RxPkt
  | 0, r => (r, [])
  | k + 1, r =>
    match r.reorderBuf (reorderIndex r.headSeqNum) with
    | none => (r, [])
    | some _ =>
      let a := releaseReorderFrame r (reorderIndex r.headSeqNum)
      let b := releaseReady k a.1
      (b.1, a.2 ++ b.2)

/-- The slots and the head after `phl_reorder_release`, with whether its loop
was left for `set_release_timer`. -/
def reorderReleaseLoops (r : TidAmpduRx n) (curTime : ℕ) : Bool × TidAmpduRx n × List RxPkt :=
  if r.reorderBuf (reorderIndex r.headSeqNum) = none ∧ r.storedMpduNum ≠ 0 then
    releaseTimedOut curTime (n - 1) (r.headSeqNum + 1) 1 r
  else
    (false, releaseReady n r)

/-- `phl_reorder_release`; the flag says that the station's timer is set. -/
def reorderRelease (r : TidAmpduRx n) (curTime : ℕ) : Bool × TidAmpduRx n × List RxPkt :=
  let a := reorderReleaseLoops r curTime
  ((a.1 || decide (a.2.1.storedMpduNum ≠ 0)) && !a.2.1.removed, a.2)

/-- The `while` loop of `phl_release_reorder_frames`; the distance to the
new head bounds its rounds. -/
def releaseUpTo (headSeqNum : ℕ) : ℕ → TidAmpduRx n → TidAmpduRx n × List RxPkt
  | 0, r => (r, [])
  | k + 1, r =>
    if seqLess r.headSeqNum headSeqNum ∧ r.storedMpduNum ≠ 0 then
      let a := releaseReorderFrame r (reorderIndex r.headSeqNum)
      let b := releaseUpTo headSeqNum k a.1
      (b.1, a.2 ++ b.2)
    else (r, [])

def releaseReorderFrames (r : TidAmpduRx n) (headSeqNum : ℕ) : TidAmpduRx n × List RxPkt :=
  let a := releaseUpTo headSeqNum (seqSub headSeqNum r.headSeqNum) r
  ({ a.1 with headSeqNum := headSeqNum }, a.2)

structure Effects where
  frames : List RxPkt := []
  recycled : List RxPkt := []
  timerSet : Bool := false

/-- The first MPDU after `phl_notify_reorder_sleep` becomes the head. -/
def wakeUp (r : TidAmpduRx n) (mpduSeqNum : ℕ) : TidAmpduRx n :=
  if r.sleep then { r with headSeqNum := mpduSeqNum, sleep := false } else r

def makeRoom (r : TidAmpduRx n) (mpduSeqNum : ℕ) : TidAmpduRx n × List RxPkt :=
  if !seqLess mpduSeqNum ((r.headSeqNum + n) % 65536) then
    releaseReorderFrames r (seqInc (seqSub mpduSeqNum n))
  else (r, [])

def store (r : TidAmpduRx n) (pkt : RxPkt) (storeTime : ℕ) : TidAmpduRx n :=
  { r with
    reorderBuf := update r.reorderBuf (reorderIndex pkt.seq) (some pkt)
    reorderTime := update r.reorderTime (reorderIndex pkt.seq) storeTime
    storedMpduNum := (r.storedMpduNum + 1) % 65536 }

/-- `phl_manage_sta_reorder_buf` once the session is started and awake and
the MPDU is not out of date. -/
def placeMpdu (r : TidAmpduRx n) (pkt : RxPkt) (storeTime curTime : ℕ) :
    Bool × TidAmpduRx n × Effects :=
  let a := makeRoom r pkt.seq
  if (a.1.reorderBuf (reorderIndex pkt.seq)).isSome then
    (true, a.1, { frames := a.2, recycled := [pkt] })
  else if (pkt.seq : ℕ) = a.1.headSeqNum ∧ a.1.storedMpduNum = 0 then
    (false, { a.1 with headSeqNum := seqInc a.1.headSeqNum }, { frames := a.2 })
  else
    let b := reorderRelease (store a.1 pkt storeTime) curTime
    (true, b.2.1, { frames := a.2 ++ b.2.2, timerSet := b.1 })

/-- `phl_manage_sta_reorder_buf`; the result `false` asks the caller to hand
the packet up itself.  The two clock readings are separate. -/
def manageStaReorderBuf (r : TidAmpduRx n) (pkt : RxPkt) (storeTime curTime : ℕ) :
    Bool × TidAmpduRx n × Effects :=
  if !r.started && seqLess pkt.seq r.headSeqNum then (false, r, {})
  else
    let r := wakeUp { r with started := true } pkt.seq
    if seqLess pkt.seq r.headSeqNum then (true, r, { recycled := [pkt] })
    else placeMpdu r pkt storeTime curTime

variable (r : TidAmpduRx n) (pkt : RxPkt) (storeTime curTime : ℕ)

lemma placeMpdu_cases :
    ((∃ q, (makeRoom r pkt.seq).1.reorderBuf (reorderIndex pkt.seq) = some q) ∧
      placeMpdu r pkt storeTime curTime = (true, (makeRoom r pkt.seq).1,
        { frames := (makeRoom r pkt.seq).2, recycled := [pkt] })) ∨
    ((makeRoom r pkt.seq).1.reorderBuf (reorderIndex pkt.seq) = none ∧
      (pkt.seq : ℕ) = (makeRoom r pkt.seq).1.headSeqNum ∧
      (makeRoom r pkt.seq).1.storedMpduNum = 0 ∧
      placeMpdu r pkt storeTime curTime =
        (false, { (makeRoom r pkt.seq).1 with
            headSeqNum := seqInc (makeRoom r pkt.seq).1.headSeqNum },
          { frames := (makeRoom r pkt.seq).2 })) ∨
    ((makeRoom r pkt.seq).1.reorderBuf (reorderIndex pkt.seq) = none ∧
      ¬((pkt.seq : ℕ) = (makeRoom r pkt.seq).1.headSeqNum ∧
        (makeRoom r pkt.seq).1.storedMpduNum = 0) ∧
      placeMpdu r pkt storeTime curTime =
        (true, (reorderRelease (store (makeRoom r pkt.seq).1 pkt storeTime) curTime).2.1,
          { frames := (makeRoom r pkt.seq).2 ++
              (reorderRelease (store (makeRoom r pkt.seq).1 pkt storeTime) curTime).2.2
            timerSet :=
              (reorderRelease (store (makeRoom r pkt.seq).1 pkt storeTime) curTime).1 })) := by
  cases hslot : (makeRoom r pkt.seq).1.reorderBuf (reorderIndex pkt.seq) with
  | some q => exact Or.inl ⟨⟨q, rfl⟩, by simp [placeMpdu, hslot]⟩
  | none =>
    by_cases hhead : (pkt.seq : ℕ) = (makeRoom r pkt.seq).1.headSeqNum ∧
        (makeRoom r pkt.seq).1.storedMpduNum = 0
    · exact Or.inr (Or.inl ⟨rfl, hhead.1, hhead.2, by simp only [placeMpdu, hslot,
        Option.isSome_none, Bool.false_eq_true, ↓reduceIte, if_pos hhead]⟩)
    · exact Or.inr (Or.inr ⟨rfl, hhead, by simp only [placeMpdu, hslot,
        Option.isSome_none, Bool.false_eq_true, ↓reduceIte, if_neg hhead]⟩)

lemma manageStaReorderBuf_cases :
    (r.started = false ∧ seqLess pkt.seq r.headSeqNum = true ∧
      manageStaReorderBuf r pkt storeTime curTime = (false, r, {})) ∨
    ((r.started = true ∨ seqLess pkt.seq r.headSeqNum = false) ∧
      seqLess pkt.seq (wakeUp { r with started := true } pkt.seq).headSeqNum = true ∧
      manageStaReorderBuf r pkt storeTime curTime =
        (true, wakeUp { r with started := true } pkt.seq, { recycled := [pkt] })) ∨
    ((r.started = true ∨ seqLess pkt.seq r.headSeqNum = false) ∧
      seqLess pkt.seq (wakeUp { r with started := true } pkt.seq).headSeqNum = false ∧
      manageStaReorderBuf r pkt storeTime curTime =
        placeMpdu (wakeUp { r with started := true } pkt.seq) pkt storeTime curTime) := by
  by_cases hold : (!r.started && seqLess pkt.seq r.headSeqNum) = true
  · have hold' : r.started = false ∧ seqLess pkt.seq r.headSeqNum = true := by simpa using hold
    exact Or.inl ⟨hold'.1, hold'.2, by simp only [manageStaReorderBuf, if_pos hold]⟩
  · have hgo : r.started = true ∨ seqLess pkt.seq r.headSeqNum = false := by
      cases hs : r.started <;> simp_all
    refine Or.inr ?_
    cases hless : seqLess pkt.seq (wakeUp { r with started := true } pkt.seq).headSeqNum with
    | true =>
      exact Or.inl ⟨hgo, rfl, by simp only [manageStaReorderBuf, if_neg hold, hless, ↓reduceIte]⟩
    | false =>
      exact Or.inr ⟨hgo, rfl, by simp only [manageStaReorderBuf, if_neg hold, hless,
        Bool.false_eq_true, ↓reduceIte]⟩

def tidAmpduRxAlloc (ssn : ℕ) : TidAmpduRx n where
  reorderBuf := fun _ => none
  reorderTime := fun _ => 0
  headSeqNum := ssn
  storedMpduNum := 0
  started := false
  removed := false
  sleep := false

/-- The packets `phl_tid_ampdu_rx_free` gives back, in slot order. -/
def tidAmpduRxFree (r : TidAmpduRx n) : List RxPkt :=
  (List.finRange n).filterMap r.reorderBuf

end Ring

/-- A session with its buffer size, which the allocation made positive and
which fits the `u16` it is kept in. -/
structure Session where
  bufSize : ℕ
  bufSize_ne : NeZero bufSize
  bufSize_lt : bufSize < 65536
  rx : TidAmpduRx bufSize

instance (s : Session) : NeZero s.bufSize := s.bufSize_ne

/-- The reordering part of `struct rtw_phl_stainfo_t`. -/
structure StaInfo where
  macid : ℕ
  tidRx : Fin 16 → Option Session

/-- The device settings `phl_rx_reorder` reads. -/
structure PhlCom where
  sniffer : Bool
  appendFcs : Bool
  mpMode : Bool
  deriving DecidableEq

/-- `phl_rx_reorder` after its early exits: the packet and the TID whose
session must be asked, unless the packet is handed up unordered. -/
def reorderTid (com : PhlCom) (sta : StaInfo) (pkt : RxPkt) : Option (Fin 16) :=
  if com.mpMode || pkt.bc || pkt.mc || !pkt.qos || pkt.qNull then none
  else if pkt.moreFrag || decide (pkt.fragNum ≠ 0) then none
  else if !(pkt.addrCamVld && decide (pkt.macid = sta.macid)) then none
  else if h : pkt.tid < 16 then some ⟨pkt.tid, h⟩
  else none

/-- The appended FCS is removed from the length; `none` when the packet is
too short to hold one. -/
def removeFcs (com : PhlCom) (pkt : RxPkt) : Option RxPkt :=
  if com.appendFcs && !(pkt.amsduCut && !pkt.lastMsdu) then
    if pkt.length ≤ 4 then none else some { pkt with length := pkt.length - 4 }
  else some pkt

/-- `phl_rx_reorder` for a packet of the station. -/
def rxReorder (com : PhlCom) (sta : StaInfo) (pkt : RxPkt) (storeTime curTime : ℕ) :
    StaInfo × Effects :=
  if com.sniffer then (sta, { frames := [pkt] })
  else
    match removeFcs com pkt with
    | none => (sta, { recycled := [pkt] })
    | some pkt =>
      match reorderTid com sta pkt with
      | none => (sta, { frames := [pkt] })
      | some tid =>
        match sta.tidRx tid with
        | none => (sta, { frames := [pkt] })
        | some s =>
          let a := manageStaReorderBuf s.rx pkt storeTime curTime
          let sta := { sta with
            tidRx := update sta.tidRx tid (some { s with rx := a.2.1 }) }
          if a.1 then (sta, a.2.2)
          else (sta, { a.2.2 with frames := a.2.2.frames ++ [pkt] })

/-- The body shared by `phl_sta_rx_reorder_timer_expired` and
`rtw_phl_flush_reorder_buf`: `phl_reorder_release` on every session. -/
def releaseSessions (sta : StaInfo) (curTime : Fin 16 → ℕ) : StaInfo × Effects :=
  let out (tid : Fin 16) : Option (Bool × Session × List RxPkt) :=
    (sta.tidRx tid).map fun s =>
      let a := reorderRelease s.rx (curTime tid)
      (a.1, { s with rx := a.2.1 }, a.2.2)
  ({ sta with tidRx := fun tid => (out tid).map fun o => o.2.1 },
    { frames := (List.finRange 16).flatMap fun tid => (out tid).elim [] fun o => o.2.2
      timerSet := (List.finRange 16).any fun tid => (out tid).elim false fun o => o.1 })

def rxBar (sta : StaInfo) (tid seq : ℕ) : StaInfo × Effects :=
  if h : tid < 16 then
    match sta.tidRx ⟨tid, h⟩ with
    | none => (sta, {})
    | some s =>
      if seqLess seq s.rx.headSeqNum then (sta, {})
      else
        let a := releaseReorderFrames s.rx seq
        ({ sta with tidRx := update sta.tidRx ⟨tid, h⟩ (some { s with rx := a.1 }) },
          { frames := a.2 })
  else (sta, {})

def notifyReorderSleep (sta : StaInfo) : StaInfo :=
  { sta with tidRx := fun tid =>
      (sta.tidRx tid).map fun s => { s with rx := { s.rx with sleep := true } } }

/-- `PHL_MAX_AGG_WSIZE` stands in for a requested size of zero. -/
def appliedSize (bufSize : UInt16) : ℕ := if bufSize = 0 then 32 else bufSize.toNat

variable (bufSize : UInt16)

lemma appliedSize_ne_zero : appliedSize bufSize ≠ 0 := by
  unfold appliedSize
  split_ifs with h
  · decide
  · exact fun h0 => h (UInt16.toNat_inj.1 h0)

lemma appliedSize_lt : appliedSize bufSize < 65536 := by
  unfold appliedSize
  split_ifs
  · decide
  · exact bufSize.toNat_lt

def newSession (startSeqNum bufSize : UInt16) : Session :=
  haveI : NeZero (appliedSize bufSize) := ⟨appliedSize_ne_zero bufSize⟩
  { bufSize := appliedSize bufSize
    bufSize_ne := this
    bufSize_lt := appliedSize_lt bufSize
    rx := tidAmpduRxAlloc startSeqNum.toNat }

def freeSession (sta : StaInfo) (tid : Fin 16) : List RxPkt :=
  (sta.tidRx tid).elim [] fun s => tidAmpduRxFree s.rx

/-- `rtw_phl_start_rx_ba_session`; `allocOk` is the outcome of the
allocations.  A session the TID had is freed when the new one is put in. -/
def startRxBaSession (sta : StaInfo) (startSeqNum baPolicy : UInt16) (tid : ℕ)
    (bufSize : UInt16) (allocOk : Bool) : StaInfo × Effects :=
  if h : tid < 16 then
    if baPolicy ≠ 0 then (sta, {})
    else if !allocOk then (sta, {})
    else
      ({ sta with
          tidRx := update sta.tidRx ⟨tid, h⟩ (some (newSession startSeqNum bufSize)) },
        { recycled := freeSession sta ⟨tid, h⟩ })
  else (sta, {})

def stopRxBaSession (sta : StaInfo) (tid : ℕ) : StaInfo × Effects :=
  if h : tid < 16 then
    ({ sta with tidRx := update sta.tidRx ⟨tid, h⟩ none },
      { recycled := freeSession sta ⟨tid, h⟩ })
  else (sta, {})

def freeRxReorder (sta : StaInfo) : StaInfo × Effects :=
  ({ sta with tidRx := fun _ => none },
    { recycled := (List.finRange 16).flatMap fun tid => freeSession sta tid })

inductive RxEvent where
  | start (startSeqNum baPolicy : UInt16) (tid : ℕ) (bufSize : UInt16) (allocOk : Bool)
  | rx (pkt : RxPkt) (storeTime curTime : ℕ)
  | bar (tid : ℕ) (seq : UInt16)
  | timer (curTime : Fin 16 → ℕ)
  | flush (curTime : Fin 16 → ℕ)
  | sleep
  | stop (tid : ℕ)
  | free

def handle (com : PhlCom) (sta : StaInfo) : RxEvent → StaInfo × Effects
  | .start startSeqNum baPolicy tid bufSize allocOk =>
    startRxBaSession sta startSeqNum baPolicy tid bufSize allocOk
  | .rx pkt storeTime curTime => rxReorder com sta pkt storeTime curTime
  | .bar tid seq => rxBar sta tid seq.toNat
  | .timer curTime => releaseSessions sta curTime
  | .flush curTime => releaseSessions sta curTime
  | .sleep => (notifyReorderSleep sta, {})
  | .stop tid => stopRxBaSession sta tid
  | .free => freeRxReorder sta

def staStep (com : PhlCom) (sta : StaInfo) (e : RxEvent) : StaInfo := (handle com sta e).1

def StaInfo.init (macid : ℕ) : StaInfo := { macid, tidRx := fun _ => none }

end Rtl8831.Phl
