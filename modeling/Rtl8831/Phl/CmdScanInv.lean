import Rtl8831.Phl.CmdScan

/-!
# What a scan keeps to on its bands

The invariant of `CmdScan` has two halves.  On each band the request waits, runs,
has queued the release of its token, waits for its abort message to come back, or
is done; and over the bands, `scan_complete` has been called once if all of them
are done and has not been called otherwise.
-/

namespace Rtl8831.Phl

open List

namespace ScanBand

variable {io : Prop} {x y : ScanBand} {m : ScanMsg} {ok : Bool}

def underway (x : ScanBand) : Bool :=
  x.timer || x.op.isSome || x.shallStop || x.stopped || x.msgs.any fun m => decide (m ≠ .swchDone)

structure Untouched (x : ScanBand) : Prop where
  started : x.started = false
  starts : x.starts = 0
  undos : x.undos = 0
  timer : x.timer = false
  txPaused : x.txPaused = false
  rxScan : x.rxScan = false

structure Blank (x : ScanBand) : Prop extends x.Untouched where
  token : x.token = .idle
  op : x.op = none
  msgs : x.msgs = []
  acquire : x.acquire = false
  dfIo : x.dfIo = false
  ended : x.ended = false

structure Pending (x : ScanBand) : Prop extends x.Untouched where
  token : x.token = .waiting
  op : x.op ≠ some .free
  hdl : x.hdl = true ∨ x.op.isSome = true ∨ x.stopped = true
  msgs : x.msgs = []
  acquire : x.acquire = false
  dfIo : x.dfIo = false
  ended : x.ended = false

structure InUse (x : ScanBand) : Prop where
  untouched : x.started = false → x.Untouched
  starts : x.started = true → x.starts = 1
  undos : x.undos = 0

structure Held (x : ScanBand) : Prop extends x.InUse where
  token : x.token = .granted
  op : x.op ≠ some .free
  hdl : x.hdl = true ∨ x.op.isSome = true ∨ x.stopped = true
  cancelled : x.reqCancel = true → x.op.isSome = true ∨ x.stopped = true
  acquire : x.acquire = true
  dfIo : x.dfIo = false
  ended : x.ended = false
  noAbort : .abortEnd ∉ x.msgs
  early : x.started = false → ∀ m ∈ x.msgs, m = .scanStart ∨ m = .scanEnd
  once : x.msgs.count .scanStart + x.starts ≤ 1

structure Running (x : ScanBand) : Prop extends x.Held where
  underway : x.underway = true

structure Released (io : Prop) (x : ScanBand) : Prop where
  ended : x.ended = true
  starts : x.starts ≤ 1
  undos : x.undos = x.starts
  timer : x.timer = false
  txPaused : x.txPaused = false
  rxScan : io → x.rxScan = false

structure Freed (io : Prop) (x : ScanBand) : Prop extends x.Released io where
  token : x.token = .granted
  op : x.op = some .free
  reqCancel : x.reqCancel = true
  noAbort : .abortEnd ∉ x.msgs

structure Aborting (x : ScanBand) : Prop extends x.InUse where
  token : x.token = .idle
  msgs : x.msgs = [.abortEnd]
  dfIo : x.dfIo = false
  ended : x.ended = false

structure Done (io : Prop) (x : ScanBand) : Prop extends x.Released io where
  token : x.token = .idle
  msgs : x.msgs = []

inductive Live (io : Prop) (x : ScanBand) : Prop
  | pending (h : x.Pending)
  | running (h : x.Running)
  | freed (h : x.Freed io)
  | aborting (h : x.Aborting)
  | done (h : x.Done io)

lemma cmdScanEnd_eq (x : ScanBand) : x.cmdScanEnd = { x with
    backOp := false, timer := false
    txPaused := !x.started && x.txPaused
    rxScan := (!x.started || x.dfIo) && x.rxScan
    undos := if x.started then x.undos + 1 else x.undos } := by
  unfold cmdScanEnd
  cases x.started <;> cases x.dfIo <;> simp

lemma InUse.cmdScanEnd (h : x.InUse) (hended : x.ended = true)
    (hio : io → x.dfIo = true → x.started = false) : x.cmdScanEnd.Released io := by
  rw [cmdScanEnd_eq]
  cases hs : x.started with
  | false =>
    have hx := h.untouched hs
    constructor <;> simp [hx.starts, hx.undos, hx.txPaused, hx.rxScan, hended]
  | true =>
    have hstarts := h.starts hs
    refine ⟨hended, by simp [hstarts], by simp [h.undos, hstarts], rfl, rfl, ?_⟩
    intro hi
    have hd : x.dfIo = false := by
      cases hd : x.dfIo with
      | false => rfl
      | true => exact absurd (hio hi hd) (by simp [hs])
    simp [hd]

lemma Untouched.released (h : x.Untouched) (hended : x.ended = true) : x.Released io where
  ended := hended
  starts := by simp [h.starts]
  undos := by rw [h.undos, h.starts]
  timer := h.timer
  txPaused := h.txPaused
  rxScan _ := h.rxScan

lemma Untouched.inUse (h : x.Untouched) : x.InUse where
  untouched _ := h
  starts hs := by simp [h.started] at hs
  undos := h.undos

lemma InUse.starts_le (h : x.InUse) : x.starts ≤ 1 := by
  cases hs : x.started with
  | false => simp [(h.untouched hs).starts]
  | true => simp [h.starts hs]

lemma underway_append (msgs : List ScanMsg) (h : m ≠ .swchDone) :
    { x with msgs := msgs ++ [m] }.underway = true := by
  simp [underway, h]

lemma Held.underway_send (h : x.Held) (hm : m ≠ .swchDone)
    (hok : ok = false → x.underway = true) : (x.disprSendMsg m ok).underway = true := by
  unfold disprSendMsg
  split
  · exact underway_append x.msgs hm
  · next hsend =>
      cases ok with
      | false => exact hok rfl
      | true =>
        have hc : x.canSend = false := by simpa using hsend
        cases hr : x.reqCancel with
        | false =>
          have : x.stopped = true ∨ x.shallStop = true := by
            cases hst : x.stopped <;> cases hsh : x.shallStop <;>
              simp_all [canSend, h.token]
          rcases this with hs | hs <;> simp [underway, hs]
        | true =>
          rcases h.cancelled hr with hs | hs <;> simp [underway, hs]

lemma underway_send_of_timer (h : x.timer = true) (m : ScanMsg) (ok : Bool) :
    (x.disprSendMsg m ok).underway = true := by
  unfold disprSendMsg
  split <;> simp [underway, h]

lemma disprSendMsg_of_not_canSend (h : x.canSend = false) : x.disprSendMsg m ok = x := by
  unfold disprSendMsg
  rw [if_neg (by simp [h])]

lemma Held.underway_of_cancel (h : x.Held) (hr : x.reqCancel = true) : x.underway = true := by
  rcases h.cancelled hr with hs | hs <;> simp [underway, hs]

lemma Held.send (h : x.Held) (hm : m ≠ .abortEnd) (hstart : m ≠ .scanStart)
    (hearly : x.started = false → m = .scanEnd) (ok : Bool) : (x.disprSendMsg m ok).Held := by
  unfold disprSendMsg
  split
  · refine { h with noAbort := ?_, early := ?_, once := ?_, untouched := ?_ }
    · intro hs
      exact { h.untouched hs with }
    · simp [h.noAbort, hm.symm]
    · intro hs k hk
      rcases mem_append.1 hk with hk | hk
      · exact h.early hs k hk
      · rw [mem_singleton.1 hk, hearly hs]
        exact Or.inr rfl
    · have hcount : [m].count .scanStart = 0 := count_eq_zero.2 (by simpa using hstart.symm)
      show (x.msgs ++ [m]).count .scanStart + x.starts ≤ 1
      rw [count_append, hcount]
      exact h.once
  · exact h

lemma Held.erase (h : x.Held) (i : ℕ) : { x with msgs := x.msgs.eraseIdx i }.Held where
  untouched hs := { h.untouched hs with }
  starts := h.starts
  undos := h.undos
  token := h.token
  op := h.op
  hdl := h.hdl
  cancelled := h.cancelled
  acquire := h.acquire
  dfIo := h.dfIo
  ended := h.ended
  noAbort hm := h.noAbort (mem_of_mem_eraseIdx hm)
  early hs m hm := h.early hs m (mem_of_mem_eraseIdx hm)
  once := by
    have hcount : (x.msgs.eraseIdx i).count .scanStart ≤ x.msgs.count .scanStart :=
      (eraseIdx_sublist x.msgs i).count_le _
    have := h.once
    show (x.msgs.eraseIdx i).count .scanStart + x.starts ≤ 1
    omega

variable {i : ℕ}

lemma count_eraseIdx {l : List ScanMsg} (hi : l[i]? = some m) :
    (l.eraseIdx i).count m + 1 = l.count m := by
  induction l generalizing i with
  | nil => simp at hi
  | cons a l ih =>
    cases i with
    | zero =>
      obtain rfl : a = m := by simpa using hi
      simp
    | succ i =>
      have := ih (i := i) (by simpa using hi)
      simp only [eraseIdx_cons_succ, count_cons]
      omega

lemma Held.start (h : x.Held) (hi : x.msgs[i]? = some .scanStart) :
    { ({ x with msgs := x.msgs.eraseIdx i } : ScanBand).cmdScanStart with started := true }.Held := by
  have hcount := count_eraseIdx hi
  have honce := h.once
  refine { h.erase i with
    untouched := by simp
    starts := ?_
    early := by simp
    once := ?_ }
  · intro _
    show x.starts + 1 = 1
    omega
  · show (x.msgs.eraseIdx i).count .scanStart + (x.starts + 1) ≤ 1
    omega

lemma Held.started_of_mem (h : x.Held) (hm : m ∈ x.msgs) (hs : m ≠ .scanStart)
    (he : m ≠ .scanEnd) : x.started = true := by
  cases hx : x.started with
  | true => rfl
  | false => rcases h.early hx m hm with rfl | rfl <;> contradiction

lemma Held.setTimer (h : x.Held) (hs : x.started = true) (timer paused backOp : Bool) :
    { x with timer := timer, txPaused := paused, backOp := backOp }.Held :=
  { h with untouched := by simp [hs] }

lemma underway_erase (hi : x.msgs[i]? = some .swchDone) (h : x.underway = true) :
    { x with msgs := x.msgs.eraseIdx i }.underway = true := by
  have hany : ∀ l : List ScanMsg, l[i]? = some .swchDone →
      (l.any fun m => decide (m ≠ .swchDone)) = true →
      ((l.eraseIdx i).any fun m => decide (m ≠ .swchDone)) = true := by
    intro l hl hm
    obtain ⟨k, hk, hne⟩ := any_eq_true.1 hm
    refine any_eq_true.2 ⟨k, ?_, hne⟩
    apply (mem_eraseIdx_iff_getElem? (l := l)).2
    obtain ⟨j, hj⟩ := mem_iff_getElem?.1 hk
    refine ⟨j, ?_, hj⟩
    rintro rfl
    rw [hl] at hj
    simp at hj
    simp [← hj] at hne
  simp only [underway, Bool.or_eq_true] at h ⊢
  rcases h with h | h
  · exact Or.inl h
  · exact Or.inr (hany x.msgs hi h)

lemma Held.disprFreeToken (h : x.Held) :
    x.disprFreeToken = (true, { x with reqCancel := true, op := some .free }) ∨
      ∃ y, x.disprFreeToken = (false, y) ∧ y.Running := by
  unfold ScanBand.disprFreeToken
  split
  · next hno =>
      have hstop : x.op.isSome = true ∨ x.stopped = true := by
        rcases h.hdl with hh | hh
        · exact Or.inr (by simpa [h.token, hh] using hno)
        · exact hh
      refine Or.inr ⟨x, rfl, h, ?_⟩
      rcases hstop with hs | hs <;> simp [underway, hs]
  · dsimp only
    split
    · next hop =>
        refine Or.inr ⟨_, rfl, ?_, by simp [underway, hop]⟩
        exact { h with
          untouched := fun hs => { h.untouched hs with }
          cancelled := fun _ => Or.inl hop }
    · exact Or.inl rfl

end ScanBand

namespace Scan

variable {io : Prop} {s t : Scan} {b c : HwBand} {f : ScanBand → ScanBand}

lemma eq_first_or_second (s : Scan) (b : HwBand) : b = s.first ∨ b = s.second := by
  unfold second
  cases s.first <;> cases b <;> simp

lemma second_ne_first (s : Scan) : s.second ≠ s.first := by
  unfold second
  cases s.first <;> simp

@[simp] lemma modify_band_self : (s.modify b f).band b = f (s.band b) := by
  simp [modify]

lemma modify_band_of_ne (h : c ≠ b) : (s.modify b f).band c = s.band c := by
  simp [modify, h]

def Used (s : Scan) (b : HwBand) : Prop :=
  match s.submit with
  | .idle | .first | .refused => False
  | .second => b = s.first
  | .accepted => b = s.first ∨ s.twoBands = true

def Finished (s : Scan) : Prop :=
  s.submit = .accepted ∧ ∀ b, s.Used b → (s.band b).ended = true

/-- `sctrl_num` while the request lives. -/
def opened (s : Scan) : ℕ :=
  match s.submit with
  | .idle | .refused => 0
  | _ => s.num

structure Inv (io : Prop) (s : Scan) : Prop where
  live : ∀ b, s.Used b → (s.band b).Live io
  blank : ∀ b, ¬ s.Used b → (s.band b).Blank
  second : s.submit = .second → s.twoBands = true
  finished : s.Finished → s.callbacks = 1 ∧ s.sctrlNum = 0
  unfinished : ¬ s.Finished → s.callbacks = 0 ∧ s.sctrlNum = s.opened

structure Elsewhere (b : HwBand) (s t : Scan) : Prop where
  first : t.first = s.first
  twoBands : t.twoBands = s.twoBands
  submit : t.submit = s.submit
  other : ∀ c, c ≠ b → t.band c = s.band c

structure Frame (b : HwBand) (s t : Scan) : Prop extends Elsewhere b s t where
  sctrlNum : t.sctrlNum = s.sctrlNum
  callbacks : t.callbacks = s.callbacks
  ended : (t.band b).ended = (s.band b).ended

structure Ended (b : HwBand) (s t : Scan) : Prop extends Elsewhere b s t where
  sctrlNum : t.sctrlNum = if s.indicates then 0 else s.sctrlNum
  callbacks : t.callbacks = if s.indicates then s.callbacks + 1 else s.callbacks
  ended : (t.band b).ended = true

lemma Frame.refl (b : HwBand) (s : Scan) : Frame b s s :=
  ⟨⟨rfl, rfl, rfl, fun _ _ => rfl⟩, rfl, rfl, rfl⟩

lemma Elsewhere.modify (h : Elsewhere b s t) (f : ScanBand → ScanBand) :
    Elsewhere b s (t.modify b f) where
  first := h.first
  twoBands := h.twoBands
  submit := h.submit
  other c hc := (modify_band_of_ne hc).trans (h.other c hc)

lemma Frame.modify (h : Frame b s t) (hf : (f (t.band b)).ended = (t.band b).ended) :
    Frame b s (t.modify b f) :=
  ⟨h.toElsewhere.modify f, h.sctrlNum, h.callbacks, by rw [modify_band_self, hf, h.ended]⟩

lemma Frame.setResult (h : Frame b s t) (r : Option ScanResult) :
    Frame b s { t with result := r } :=
  ⟨⟨h.first, h.twoBands, h.submit, h.other⟩, h.sctrlNum, h.callbacks, h.ended⟩

lemma Ended.modify (h : Ended b s t) (hf : (f (t.band b)).ended = (t.band b).ended) :
    Ended b s (t.modify b f) :=
  ⟨h.toElsewhere.modify f, h.sctrlNum, h.callbacks, by rw [modify_band_self, hf, h.ended]⟩

lemma Frame.indicates (h : Frame b s t) : t.indicates = s.indicates := by
  have hended : ∀ c, (t.band c).ended = (s.band c).ended := by
    intro c
    by_cases hc : c = b
    · subst hc
      exact h.ended
    · rw [h.other c hc]
  unfold Scan.indicates anyEnded
  rw [h.sctrlNum, hended, hended]

lemma Frame.scanCtrl (h : Frame b s t) (c : HwBand) : t.scanCtrl c = s.scanCtrl c := by
  unfold Scan.scanCtrl
  rw [h.first, h.sctrlNum]

lemma Frame.scanComplete (h : Frame b s t) (hf : (f (t.band b)).ended = true) :
    Ended b s ((t.modify b f).scanComplete s.indicates) := by
  have hm := h.toElsewhere.modify f
  unfold Scan.scanComplete
  cases hi : s.indicates with
  | false => exact ⟨hm, by simp [hi, Scan.modify, h.sctrlNum], by simp [hi, Scan.modify, h.callbacks],
      by simpa using hf⟩
  | true => exact ⟨⟨hm.first, hm.twoBands, hm.submit, hm.other⟩, by simp [hi],
      by simp [hi, Scan.modify, h.callbacks], by simpa using hf⟩

@[simp] lemma scanComplete_band (s : Scan) (indicate : Bool) :
    (s.scanComplete indicate).band = s.band := by
  unfold scanComplete
  split <;> rfl

lemma Elsewhere.used (h : Elsewhere b s t) (c : HwBand) : t.Used c ↔ s.Used c := by
  unfold Used
  rw [h.submit, h.first, h.twoBands]

lemma Elsewhere.opened (h : Elsewhere b s t) : t.opened = s.opened := by
  unfold Scan.opened num
  rw [h.submit, h.twoBands]

lemma Elsewhere.finished (h : Elsewhere b s t) (hb : (t.band b).ended = (s.band b).ended) :
    t.Finished ↔ s.Finished := by
  have hended : ∀ c, (t.band c).ended = (s.band c).ended := by
    intro c
    by_cases hc : c = b
    · subst hc
      exact hb
    · rw [h.other c hc]
  simp only [Finished, h.submit, h.used, hended]

lemma Inv.elsewhere_live (h : s.Inv io) (he : Elsewhere b s t) (hu : s.Used b)
    (hx : (t.band b).Live io) :
    (∀ c, t.Used c → (t.band c).Live io) ∧ ∀ c, ¬ t.Used c → (t.band c).Blank := by
  constructor
  · intro c hc
    by_cases hcb : c = b
    · subst hcb
      exact hx
    · rw [he.other c hcb]
      exact h.live c ((he.used c).1 hc)
  · intro c hc
    have hcb : c ≠ b := by
      rintro rfl
      exact hc ((he.used c).2 hu)
    rw [he.other c hcb]
    exact h.blank c (mt (he.used c).2 hc)

lemma Inv.frame (h : s.Inv io) (hf : Frame b s t) (hu : s.Used b) (hx : (t.band b).Live io) :
    t.Inv io := by
  obtain ⟨hlive, hblank⟩ := h.elsewhere_live hf.toElsewhere hu hx
  have hfin := hf.toElsewhere.finished hf.ended
  refine ⟨hlive, hblank, ?_, ?_, ?_⟩
  · rw [hf.submit, hf.twoBands]
    exact h.second
  · rw [hfin, hf.callbacks, hf.sctrlNum]
    exact h.finished
  · rw [hfin, hf.callbacks, hf.sctrlNum, hf.toElsewhere.opened]
    exact h.unfinished

lemma Inv.frame_blank (h : s.Inv io) (hf : Frame b s t) (hu : ¬ s.Used b)
    (hx : (t.band b).Blank) : t.Inv io := by
  have hfin := hf.toElsewhere.finished hf.ended
  refine ⟨?_, ?_, ?_, ?_, ?_⟩
  · intro c hc
    have hc := (hf.toElsewhere.used c).1 hc
    rw [hf.other c (by rintro rfl; exact hu hc)]
    exact h.live c hc
  · intro c hc
    by_cases hcb : c = b
    · subst hcb
      exact hx
    · rw [hf.other c hcb]
      exact h.blank c (mt (hf.toElsewhere.used c).2 hc)
  · rw [hf.submit, hf.twoBands]
    exact h.second
  · rw [hfin, hf.callbacks, hf.sctrlNum]
    exact h.finished
  · rw [hfin, hf.callbacks, hf.sctrlNum, hf.toElsewhere.opened]
    exact h.unfinished

section

variable (h : s.Inv io) (hu : s.Used b) (hb : (s.band b).ended = false)
include h hu hb

lemma Inv.open_band :
    s.callbacks = 0 ∧ s.sctrlNum = s.num := by
  have hfin : ¬ s.Finished := fun hf => by simp [hf.2 b hu] at hb
  obtain ⟨hcall, hnum⟩ := h.unfinished hfin
  refine ⟨hcall, ?_⟩
  rw [hnum]
  unfold opened
  unfold Used at hu
  cases hsub : s.submit <;> simp_all

lemma Inv.scanCtrl :
    s.scanCtrl b = true := by
  have hnum := (h.open_band hu hb).2
  unfold Scan.scanCtrl num at *
  unfold Used at hu
  by_cases hfirst : b = s.first
  · simp only [hfirst, if_true, hnum, decide_eq_true_eq]
    split <;> omega
  · cases hsub : s.submit <;> simp_all

lemma Inv.indicates_iff
    (he : Ended b s t) : t.Finished ↔ s.indicates = true := by
  have hnum := (h.open_band hu hb).2
  have hany : s.anyEnded = ((s.band s.first).ended || (s.band s.second).ended) := by
    unfold anyEnded Scan.second
    cases s.first
    · rfl
    · exact Bool.or_comm _ _
  have hne := s.second_ne_first
  cases hsub : s.submit with
  | idle | first | refused => simp [Used, hsub] at hu
  | second =>
    obtain rfl : b = s.first := by simpa [Used, hsub] using hu
    have hsecond : (s.band s.second).ended = false :=
      (h.blank s.second (by simpa [Used, hsub] using hne)).ended
    have htwo := h.second hsub
    have : ¬ t.Finished := fun hf => by simp [Finished, he.submit, hsub] at hf
    simp [this, indicates, hnum, num, htwo, hany, hb, hsecond]
  | accepted =>
    cases htwo : s.twoBands with
    | false =>
      have hused : ∀ c, t.Used c ↔ c = b := by
        intro c
        rw [he.used]
        simp only [Used, hsub, htwo] at hu ⊢
        simp only [Bool.false_eq_true, or_false] at hu ⊢
        rw [hu]
      have hfin : t.Finished := by
        refine ⟨he.submit.trans hsub, ?_⟩
        intro c hc
        rw [(hused c).1 hc]
        exact he.ended
      simp [hfin, indicates, hnum, num, htwo]
    | true =>
      have hfin : t.Finished ↔ ∀ c, c ≠ b → (s.band c).ended = true := by
        constructor
        · intro hf c hc
          rw [← he.other c hc]
          exact hf.2 c ((he.used c).2 (by simp [Used, hsub, htwo]))
        · intro hall
          refine ⟨he.submit.trans hsub, fun c _ => ?_⟩
          by_cases hc : c = b
          · rw [hc, he.ended]
          · rw [he.other c hc, hall c hc]
      rw [hfin, indicates, hnum, num, htwo, hany]
      rcases s.eq_first_or_second b with rfl | rfl
      · constructor
        · intro hall
          simp [hb, hall s.second hne]
        · intro hor c hc
          obtain rfl : c = s.second := (s.eq_first_or_second c).resolve_left hc
          simpa [hb] using hor
      · constructor
        · intro hall
          simp [hb, hall s.first hne.symm]
        · intro hor c hc
          obtain rfl : c = s.first := (s.eq_first_or_second c).resolve_right hc
          simpa [hb] using hor

end

lemma Inv.ended (h : s.Inv io) (he : Ended b s t) (hu : s.Used b)
    (hb : (s.band b).ended = false) (hx : (t.band b).Live io) : t.Inv io := by
  obtain ⟨hlive, hblank⟩ := h.elsewhere_live he.toElsewhere hu hx
  obtain ⟨hcall, hnum⟩ := h.open_band hu hb
  have hopen : s.opened = s.num := by
    unfold opened
    unfold Used at hu
    cases hsub : s.submit <;> simp_all
  have hfin := h.indicates_iff hu hb he
  refine ⟨hlive, hblank, ?_, ?_, ?_⟩
  · rw [he.submit, he.twoBands]
    exact h.second
  · intro hf
    have hi := hfin.1 hf
    exact ⟨by rw [he.callbacks, if_pos hi, hcall], by rw [he.sctrlNum, if_pos hi]⟩
  · intro hf
    have hi : ¬ s.indicates = true := mt hfin.2 hf
    exact ⟨by rw [he.callbacks, if_neg hi, hcall],
      by rw [he.sctrlNum, if_neg hi, hnum, he.toElsewhere.opened, hopen]⟩

end Scan
end Rtl8831.Phl
