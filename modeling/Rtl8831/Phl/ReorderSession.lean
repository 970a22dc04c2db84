import Rtl8831.Phl.ReorderWindow

/-!
# What a station's event does to one session

Each event of a station reaches the session of a TID as at most one session
event.  A run of the station is, for the session, a run of session events,
and the invariant of the buffer holds in every state of a run in which each
session event meets `WindowOk`.
-/

namespace Rtl8831.Phl

open Lib Function

inductive SessionEvent where
  | rx (pkt : RxPkt) (storeTime curTime : ℕ)
  | bar (seq : ℕ)
  | release (curTime : ℕ)
  | sleep

section Ring

variable {n : ℕ} [NeZero n]

/-- The session afterwards and the packets handed up from it; a packet that
`phl_manage_sta_reorder_buf` leaves to its caller comes last. -/
def sessionStep (r : TidAmpduRx n) : SessionEvent → TidAmpduRx n × List RxPkt
  | .rx pkt storeTime curTime =>
    let a := manageStaReorderBuf r pkt storeTime curTime
    (a.2.1, if a.1 then a.2.2.frames else a.2.2.frames ++ [pkt])
  | .bar seq => if seqLess seq r.headSeqNum then (r, []) else releaseReorderFrames r seq
  | .release curTime => (reorderRelease r curTime).2
  | .sleep => ({ r with sleep := true }, [])

def WindowOk (r : TidAmpduRx n) : SessionEvent → Prop
  | .rx pkt storeTime curTime =>
    (r.started = false ∧ seqLess pkt.seq r.headSeqNum = true) ∨
    ((r.sleep = true → ∀ i p, r.reorderBuf i = some p → off pkt.seq p < n) ∧
      (seqLess pkt.seq (wakeUp r pkt.seq).headSeqNum = true ∨
        PlaceOk (wakeUp r pkt.seq) pkt storeTime curTime))
  | .bar seq =>
    seqLess seq r.headSeqNum = true ∨ ((seq < 4096 ∨ n ∣ 4096) ∧ HeadMoveOk r seq)
  | .release curTime => ScanOk r curTime
  | .sleep => True

omit [NeZero n] in
lemma wakeUp_started (r : TidAmpduRx n) (seq : ℕ) :
    wakeUp { r with started := true } seq = { wakeUp r seq with started := true } := by
  unfold wakeUp
  split_ifs <;> rfl

variable {r : TidAmpduRx n}

lemma InPlace.wakeUp (h : InPlace r) {pkt : RxPkt}
    (hsleep : r.sleep = true → ∀ i p, r.reorderBuf i = some p → off pkt.seq p < n) :
    InPlace (wakeUp { r with started := true } pkt.seq) := by
  unfold Phl.wakeUp
  split_ifs with hs
  · exact ⟨⟨h.sound.count, h.sound.slot⟩, hsleep hs, Or.inl pkt.seq.isLt, h.single⟩
  · exact ⟨⟨h.sound.count, h.sound.slot⟩, h.windowed, h.masked, h.single⟩

lemma InPlace.sessionStep (hn : n < 65536) (hsize : n < 2048 ∨ 4096 ≤ n)
    (h : InPlace r) {ev : SessionEvent} (hok : WindowOk r ev) :
    InPlace (sessionStep r ev).1 := by
  cases ev with
  | rx pkt storeTime curTime =>
    simp only [Phl.sessionStep]
    rcases manageStaReorderBuf_cases r pkt storeTime curTime with
      ⟨-, -, heq⟩ | ⟨hstart, -, heq⟩ | ⟨hstart, hnew, heq⟩
    · rwa [heq]
    · rw [heq]
      rcases hok with ⟨hs, hless⟩ | ⟨hsleep, -⟩
      · simp [hs, hless] at hstart
      · exact h.wakeUp hsleep
    · rw [heq]
      rcases hok with ⟨hs, hless⟩ | ⟨hsleep, hplace⟩
      · simp [hs, hless] at hstart
      · have hwake := h.wakeUp hsleep
        have hwhead : (Phl.wakeUp { r with started := true } pkt.seq).headSeqNum =
            (Phl.wakeUp r pkt.seq).headSeqNum := by rw [wakeUp_started]
        rcases hplace with hold | hplace
        · rw [hwhead, hold] at hnew
          contradiction
        · rw [wakeUp_started] at hwake hnew ⊢
          exact hwake.placeMpdu hn hsize hnew hplace
  | bar seq =>
    simp only [Phl.sessionStep]
    split_ifs with hold
    · exact h
    · rcases hok with hold' | ⟨hmask, hmove⟩
      · contradiction
      · refine ⟨h.sound.releaseReorderFrames hn seq,
          h.windowed.releaseReorderFrames hn h.sound h.masked hmove, hmask, ?_⟩
        intro h1 i
        exact eq_none_of_sub (fun p hp => releaseReorderFrames_sub hp) (h.single h1 i)
  | release curTime => exact reorderRelease_inPlace hn h.sound h.windowed h.masked hok
  | sleep => exact ⟨⟨h.sound.count, h.sound.slot⟩, h.windowed, h.masked, h.single⟩

lemma inPlace_alloc {ssn : ℕ} (hssn : ssn < 4096 ∨ n ∣ 4096) :
    InPlace (tidAmpduRxAlloc ssn : TidAmpduRx n) := by
  have hnone : ∀ i, (tidAmpduRxAlloc ssn : TidAmpduRx n).reorderBuf i = none := fun _ => rfl
  refine ⟨⟨?_, ?_⟩, ?_, hssn, fun _ => hnone⟩
  · exact (occupied_eq_zero.2 hnone).symm
  · simp [hnone]
  · intro i p hp
    rw [hnone i] at hp
    contradiction

end Ring

def sessionEvent (com : PhlCom) (sta : StaInfo) (tid : Fin 16) : RxEvent → Option SessionEvent
  | .rx pkt storeTime curTime =>
    if com.sniffer then none
    else (removeFcs com pkt).bind fun pkt =>
      if reorderTid com sta pkt = some tid then some (.rx pkt storeTime curTime) else none
  | .bar tid' seq => if tid' = tid then some (.bar seq.toNat) else none
  | .timer curTime => some (.release (curTime tid))
  | .flush curTime => some (.release (curTime tid))
  | .sleep => some .sleep
  | .start .. => none
  | .stop _ => none
  | .free => none

def Session.advance (s : Session) : Option SessionEvent → Session
  | none => s
  | some ev => { s with rx := (sessionStep s.rx ev).1 }

variable {com : PhlCom} {sta : StaInfo} {e : RxEvent}

lemma staStep_session {tid : Fin 16} {s' : Session}
    (h : (staStep com sta e).tidRx tid = some s') :
    (∃ ssn size, e = .start ssn 0 tid size true ∧ s' = newSession ssn size) ∨
    (∃ s, sta.tidRx tid = some s ∧ s' = s.advance (sessionEvent com sta tid e)) := by
  cases e with
  | start ssn policy tid' size ok =>
    simp only [staStep, handle, startRxBaSession] at h
    split_ifs at h with htid hpolicy hok
    · exact Or.inr ⟨s', h, rfl⟩
    · exact Or.inr ⟨s', h, rfl⟩
    · by_cases heq : tid = ⟨tid', htid⟩
      · subst heq
        simp only [update_self, Option.some.injEq] at h
        have hp : policy = 0 := by simpa using hpolicy
        have ho : ok = true := by simpa using hok
        exact Or.inl ⟨ssn, size, by rw [hp, ho], h.symm⟩
      · exact Or.inr ⟨s', by simpa [update_of_ne heq] using h, rfl⟩
    · exact Or.inr ⟨s', h, rfl⟩
  | rx pkt storeTime curTime =>
    right
    simp only [staStep, handle, rxReorder, sessionEvent] at h ⊢
    split_ifs at h ⊢ with hsniff
    · exact ⟨s', h, rfl⟩
    · cases hfcs : removeFcs com pkt with
      | none =>
        simp only [hfcs] at h
        exact ⟨s', h, rfl⟩
      | some pkt' =>
        simp only [hfcs, Option.bind_some] at h ⊢
        cases htid : reorderTid com sta pkt' with
        | none =>
          simp only [htid] at h
          exact ⟨s', h, by simp [Session.advance]⟩
        | some t =>
          simp only [htid] at h
          by_cases heq : t = tid
          · subst heq
            cases hs : sta.tidRx t with
            | none =>
              simp [hs] at h
            | some s =>
              simp only [hs] at h
              refine ⟨s, rfl, ?_⟩
              split_ifs at h <;>
              · simp only [update_self, Option.some.injEq] at h
                simp [← h, Session.advance, sessionStep]
          · have hne : tid ≠ t := fun h' => heq h'.symm
            refine ⟨s', ?_, by simp [heq, Session.advance]⟩
            cases hs : sta.tidRx t with
            | none => simpa [hs] using h
            | some s =>
              simp only [hs] at h
              split_ifs at h <;> simpa [update_of_ne hne] using h
  | bar tid' seq =>
    right
    simp only [staStep, handle, rxBar, sessionEvent] at h ⊢
    split_ifs at h with htid
    · by_cases heq : tid = ⟨tid', htid⟩
      · subst heq
        cases hs : sta.tidRx ⟨tid', htid⟩ with
        | none => simp [hs] at h
        | some s =>
          refine ⟨s, rfl, ?_⟩
          simp only [hs] at h
          split_ifs at h with hold
          · simp only [hs, Option.some.injEq] at h
            simp [← h, Session.advance, sessionStep, hold]
          · simp only [update_self, Option.some.injEq] at h
            simp [← h, Session.advance, sessionStep, hold]
      · have hne : tid' ≠ (tid : ℕ) := fun h' => heq (Fin.ext h'.symm)
        refine ⟨s', ?_, by simp [hne, Session.advance]⟩
        cases hs : sta.tidRx ⟨tid', htid⟩ with
        | none => simpa [hs] using h
        | some s =>
          simp only [hs] at h
          split_ifs at h
          · exact h
          · simpa [update_of_ne heq] using h
    · have hne : tid' ≠ (tid : ℕ) := by
        have := tid.isLt
        omega
      exact ⟨s', h, by simp [hne, Session.advance]⟩
  | timer curTime =>
    right
    simp only [staStep, handle, releaseSessions, Option.map_map] at h
    obtain ⟨s, hs, rfl⟩ := Option.map_eq_some_iff.1 h
    exact ⟨s, hs, rfl⟩
  | flush curTime =>
    right
    simp only [staStep, handle, releaseSessions, Option.map_map] at h
    obtain ⟨s, hs, rfl⟩ := Option.map_eq_some_iff.1 h
    exact ⟨s, hs, rfl⟩
  | sleep =>
    right
    simp only [staStep, handle, notifyReorderSleep] at h
    obtain ⟨s, hs, rfl⟩ := Option.map_eq_some_iff.1 h
    exact ⟨s, hs, rfl⟩
  | stop tid' =>
    right
    simp only [staStep, handle, stopRxBaSession] at h
    split_ifs at h with htid
    · by_cases heq : tid = ⟨tid', htid⟩
      · subst heq
        simp at h
      · exact ⟨s', by simpa [update_of_ne heq] using h, rfl⟩
    · exact ⟨s', h, rfl⟩
  | free => simp [staStep, handle, freeRxReorder] at h

/-- The counter counts the slots, every packet is in the slot of its sequence
number, and the sequence number is in the window. -/
def Session.WindowInv (s : Session) : Prop :=
  s.rx.storedMpduNum = occupied s.rx.reorderBuf ∧
  ∀ i p, s.rx.reorderBuf i = some p →
    (i : ℕ) = (p.seq : ℕ) % s.bufSize ∧ seqSub p.seq s.rx.headSeqNum < s.bufSize

/-- A new session keeps its head in the sequence space, or a buffer size that
divides it, and its buffer is shorter than half of the space or as long as
the whole. -/
def StartOk : RxEvent → Prop
  | .start ssn _ _ size _ =>
    (ssn.toNat < 4096 ∨ appliedSize size ∣ 4096) ∧
      (appliedSize size < 2048 ∨ 4096 ≤ appliedSize size)
  | _ => True

def StepOk (com : PhlCom) (sta : StaInfo) (e : RxEvent) : Prop :=
  StartOk e ∧ ∀ tid s ev, sta.tidRx tid = some s → sessionEvent com sta tid e = some ev →
    WindowOk s.rx ev

/-- The invariant behind `Session.WindowInv`. -/
structure Session.Valid (s : Session) : Prop where
  size : s.bufSize < 2048 ∨ 4096 ≤ s.bufSize
  rx : InPlace s.rx

lemma Session.Valid.windowInv {s : Session} (h : s.Valid) : s.WindowInv := by
  refine ⟨h.rx.sound.count, ?_⟩
  intro i p hp
  have hslot := h.rx.sound.slot i p hp
  exact ⟨by rw [hslot]; rfl, h.rx.windowed i p hp⟩

lemma staStep_valid (h : ∀ tid s, sta.tidRx tid = some s → s.Valid) (hok : StepOk com sta e) :
    ∀ tid s, (staStep com sta e).tidRx tid = some s → s.Valid := by
  intro tid s' hs'
  rcases staStep_session hs' with ⟨ssn, size, rfl, rfl⟩ | ⟨s, hs, rfl⟩
  · exact ⟨hok.1.2, inPlace_alloc hok.1.1⟩
  · have hv := h tid s hs
    cases hev : sessionEvent com sta tid e with
    | none => exact hv
    | some ev =>
      exact ⟨hv.size, hv.rx.sessionStep s.bufSize_lt hv.size (hok.2 tid s ev hs hev)⟩

/-- In every run whose steps meet `StepOk` the reorder buffer of every
session keeps its window. -/
theorem reorder_window_invariant (com : PhlCom) (macid : ℕ) (es : List RxEvent)
    (hok : Guarded (staStep com) (StepOk com) (StaInfo.init macid) es) :
    ∀ tid s, (run (staStep com) (StaInfo.init macid) es).tidRx tid = some s → s.WindowInv := by
  let inv (sta : StaInfo) : Prop := ∀ tid s, sta.tidRx tid = some s → s.Valid
  have hstep : ∀ sta e, inv sta → StepOk com sta e → inv (staStep com sta e) :=
    fun sta e h he => staStep_valid h he
  have hinit : inv (StaInfo.init macid) := fun tid s hs => by simp [StaInfo.init] at hs
  have hvalid := hok.invariant hstep hinit
  exact fun tid s hs => (hvalid tid s hs).windowInv

def qosPkt (id : ℕ) (seq : Fin 4096) : RxPkt where
  id := id
  seq := seq
  tid := 0
  macid := 0
  addrCamVld := true
  bc := false
  mc := false
  qos := true
  qNull := false
  moreFrag := false
  fragNum := 0
  amsduCut := false
  lastMsdu := false
  length := 1500

def plainCom : PhlCom := { sniffer := false, appendFcs := false, mpMode := false }

/-- After packet 5 has been stored, a block-ack request 2048 ahead of the
head moves the head without releasing it. -/
theorem reorder_window_bar_half :
    ¬∀ tid s, (run (staStep plainCom) (StaInfo.init 0)
      [.start 0 0 0 64 true, .rx (qosPkt 1 5) 0 0, .bar 0 2048]).tidRx tid = some s →
        s.WindowInv := by
  intro h
  have hwin := (h 0 _ rfl).2 5 (qosPkt 1 5) (by decide)
  exact absurd hwin.2 (by decide)

theorem reorder_window_run :
    ∃ s, (run (staStep plainCom) (StaInfo.init 0)
      [.start 0 0 0 64 true, .rx (qosPkt 1 5) 0 0, .bar 0 3]).tidRx 0 = some s ∧ s.WindowInv := by
  refine ⟨_, rfl, reorder_window_invariant plainCom 0
    [.start 0 0 0 64 true, .rx (qosPkt 1 5) 0 0, .bar 0 3] ⟨?_, ?_, ?_, trivial⟩ 0 _ rfl⟩
  · exact ⟨⟨Or.inl (by decide), Or.inl (by decide)⟩, fun tid s ev hs => by
      simp [StaInfo.init] at hs⟩
  · refine ⟨trivial, fun tid s ev hs hev => ?_⟩
    obtain rfl : tid = 0 := by
      by_contra h0
      simp [staStep, handle, startRxBaSession, StaInfo.init, update_of_ne h0] at hs
    cases hs
    cases hev
    exact Or.inr ⟨by decide, Or.inr (Or.inr (Or.inl (by decide)))⟩
  · refine ⟨trivial, fun tid s ev hs hev => ?_⟩
    obtain rfl : tid = 0 := by
      by_contra h0
      have h0' : (0 : ℕ) ≠ tid := fun h => h0 (Fin.ext h.symm)
      simp [sessionEvent, h0'] at hev
    cases hs
    cases hev
    exact Or.inr ⟨Or.inl (by decide), Or.inl (by decide)⟩

end Rtl8831.Phl
