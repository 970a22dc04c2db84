import Rtl8831.Lib.Run

/-!
# Frames for sleeping stations

An access point keeps the frames of a station in power save in `sleep_q` and
announces them in the TIM.  The station fetches them with PS-Poll, with a
trigger frame (U-APSD), or by waking up.
-/

namespace Rtl8831.Core

open Lib List

/-! ## Access categories -/

inductive Ac
  | be
  | bk
  | vi
  | vo
  deriving DecidableEq

/-- The `switch` over the priority of a frame. -/
def Ac.ofPriority (priority : ℕ) : Ac :=
  if priority = 1 ∨ priority = 2 then .bk
  else if priority = 4 ∨ priority = 5 then .vi
  else if priority = 6 ∨ priority = 7 then .vo
  else .be

/-- What `rtw_ap_parse_sta_wmm_ie` stores in the station. -/
structure StaWmm where
  hasLegacyAc : Bool
  uapsdVo : ℕ
  uapsdVi : ℕ
  uapsdBe : ℕ
  uapsdBk : ℕ

/-- `rtw_ap_parse_sta_wmm_ie`; the argument is the QoS info of the WMM element,
if the link has QoS and the element is there. -/
def rtwApParseStaWmmIe : Option ℕ → StaWmm
  | none => ⟨true, 0, 0, 0, 0⟩
  | some qosInfo =>
    { hasLegacyAc := decide (qosInfo % 16 ≠ 15)
      uapsdVo := if qosInfo.testBit 0 then 3 else 0
      uapsdVi := if qosInfo.testBit 1 then 3 else 0
      uapsdBe := if qosInfo.testBit 3 then 3 else 0
      uapsdBk := if qosInfo.testBit 2 then 3 else 0 }

def StaWmm.uapsd (w : StaWmm) : Ac → ℕ
  | .be => w.uapsdBe
  | .bk => w.uapsdBk
  | .vi => w.uapsdVi
  | .vo => w.uapsdVo

/-! ## The queue of a station -/

structure PsFrame where
  id : ℕ
  priority : ℕ
  deriving DecidableEq

def PsFrame.ac (f : PsFrame) : Ac := Ac.ofPriority f.priority

/-- The more-data bit in the header of a frame.  `core_tx_prepare_phl` has
built the header before the frame is queued, with `attrib.mdata` as
`update_attrib` left it, and nothing builds it again. -/
def PsFrame.hdrMData (_ : PsFrame) : Bool := false

/-- What `xmitframe_enqueue_for_sleeping_sta` looks at besides the frame. -/
structure PsAttrib where
  isAp : Bool := true
  staMatches : Bool := true
  asoc : Bool := true
  triggered : Bool := false
  bmcst : Bool := false

inductive Service
  | psPoll
  | delivery
  | wakeup
  deriving DecidableEq

/-- A frame handed to PHL out of `sleep_q`, its `attrib.mdata`, and what was
still queued. -/
structure Released where
  frame : PsFrame
  mdata : Bool
  service : Service
  rest : List PsFrame

/-- `state & WIFI_SLEEP_STATE`, the station's bits of `sta_dz_bitmap` and
`tim_bitmap`, the queue and its counters.  `buffered` and `released` list the
frames that entered the queue and that left it, in order. -/
structure SleepSta where
  asleep : Bool := false
  dz : Bool := false
  sleepQ : List PsFrame := []
  sleepqLen : ℕ := 0
  sleepqAcLen : ℕ := 0
  tim : Bool := false
  buffered : List PsFrame := []
  released : List Released := []

namespace SleepSta

/-- `xmitframe_enqueue_for_sleeping_sta`.  Group frames do not come here with
`BMC_ON_HIQ`. -/
def xmitframeEnqueueForSleepingSta (w : StaWmm) (s : SleepSta) (a : PsAttrib) (f : PsFrame) :
    SleepSta :=
  if !a.isAp || !a.staMatches || !a.asoc || a.triggered || a.bmcst then s
  else if s.asleep && s.dz then
    let wmmpsAc := (w.uapsd f.ac).testBit 0
    { s with
      sleepQ := s.sleepQ ++ [f]
      sleepqLen := s.sleepqLen + 1
      sleepqAcLen := if wmmpsAc then s.sleepqAcLen + 1 else s.sleepqAcLen
      tim := s.tim || (w.hasLegacyAc && !wmmpsAc) || (!w.hasLegacyAc && wmmpsAc)
      buffered := s.buffered ++ [f] }
  else s

def dequeueXmitframesToSleepingQueue (w : StaWmm) (s : SleepSta)
    (q : List (PsAttrib × PsFrame)) : SleepSta :=
  q.foldl (fun s x => s.xmitframeEnqueueForSleepingSta w { x.1 with triggered := false } x.2) s

/-- `stop_sta_xmit`, with the four `sta_pending` queues. -/
def stopStaXmit (w : StaWmm) (s : SleepSta) (vo vi be bk : List (PsAttrib × PsFrame)) : SleepSta :=
  let s := { s with asleep := true, dz := true }
  let s := s.dequeueXmitframesToSleepingQueue w vo
  let s := s.dequeueXmitframesToSleepingQueue w vi
  let s := s.dequeueXmitframesToSleepingQueue w be
  s.dequeueXmitframesToSleepingQueue w bk

/-- `rtw_proccess_pspoll`; `aidOk` says that the frame has the AID of the
station, `priority` is that of the received frame. -/
def rtwProccessPspoll (w : StaWmm) (s : SleepSta) (aidOk : Bool) (priority : ℕ) : SleepSta :=
  if !aidOk || (w.uapsd (Ac.ofPriority priority)).testBit 0 then s
  else if s.asleep && s.dz then
    match s.sleepQ with
    | f :: q =>
      let len := s.sleepqLen - 1
      { s with
        sleepQ := q
        sleepqLen := len
        tim := if len = 0 then false else s.tim
        released := s.released ++ [⟨f, decide (0 < len), .psPoll, q⟩] }
    | [] => if s.tim then { s with sleepqLen := 0, tim := false } else s
  else s

/-- The loop of `wakeup_sta_to_xmit`. -/
def wakeupLoop (w : StaWmm) (s : SleepSta) : List PsFrame → SleepSta
  | [] => s
  | f :: q =>
    let wmmpsAc := (w.uapsd f.ac).testBit 1
    let len := s.sleepqLen - 1
    let acLen := if wmmpsAc then s.sleepqAcLen - 1 else s.sleepqAcLen
    let mdata := if wmmpsAc then decide (0 < acLen) else decide (0 < len)
    wakeupLoop w
      { s with
        sleepQ := q
        sleepqLen := len
        sleepqAcLen := acLen
        released := s.released ++ [⟨f, mdata, .wakeup, q⟩] } q

def wakeupStaToXmit (w : StaWmm) (s : SleepSta) : SleepSta :=
  let s := s.wakeupLoop w s.sleepQ
  if s.sleepqLen = 0 then { s with tim := false, asleep := false, dz := false } else s

/-- The loop of `xmit_delivery_enabled_frames`: `kept` are the frames it has
passed over. -/
def deliveryLoop (w : StaWmm) (s : SleepSta) (kept : List PsFrame) : List PsFrame → SleepSta
  | [] => s
  | f :: q =>
    if (w.uapsd f.ac).testBit 1 then
      let acLen := s.sleepqAcLen - 1
      deliveryLoop w
        { s with
          sleepQ := kept ++ q
          sleepqLen := s.sleepqLen - 1
          sleepqAcLen := acLen
          tim := if acLen = 0 ∧ !w.hasLegacyAc then false else s.tim
          released := s.released ++ [⟨f, decide (0 < acLen), .delivery, kept ++ q⟩] } kept q
    else deliveryLoop w s (kept ++ [f]) q

def xmitDeliveryEnabledFrames (w : StaWmm) (s : SleepSta) : SleepSta :=
  s.deliveryLoop w [] s.sleepQ

inductive Event
  | enqueue (a : PsAttrib) (f : PsFrame)
  | stop (vo vi be bk : List (PsAttrib × PsFrame))
  | pspoll (aidOk : Bool) (priority : ℕ)
  | delivery
  | wakeup

def step (w : StaWmm) (s : SleepSta) : Event → SleepSta
  | .enqueue a f => s.xmitframeEnqueueForSleepingSta w a f
  | .stop vo vi be bk => s.stopStaXmit w vo vi be bk
  | .pspoll aidOk priority => s.rtwProccessPspoll w aidOk priority
  | .delivery => s.xmitDeliveryEnabledFrames w
  | .wakeup => s.wakeupStaToXmit w

end SleepSta

/-! ## What the queue promises -/

def StaWmm.deliveryEnabled (w : StaWmm) (f : PsFrame) : Bool := (w.uapsd f.ac).testBit 0

/-- The TIM announces the legacy categories, or all of them if there are no
legacy ones. -/
def StaWmm.announced (w : StaWmm) (f : PsFrame) : Bool :=
  if w.hasLegacyAc then !w.deliveryEnabled f else w.deliveryEnabled f

/-- The frames that more data stands for when `f` is released. -/
def StaWmm.served (w : StaWmm) (f : PsFrame) : Service → PsFrame → Bool
  | .psPoll, g => !w.deliveryEnabled g
  | .delivery, g => w.deliveryEnabled g
  | .wakeup, g => !w.deliveryEnabled f || w.deliveryEnabled g

namespace SleepSta

def releasedFrames (s : SleepSta) : List PsFrame := s.released.map Released.frame

structure Books (w : StaWmm) (s : SleepSta) : Prop where
  len : s.sleepqLen = s.sleepQ.length
  acLen : s.sleepqAcLen = s.sleepQ.countP w.deliveryEnabled
  order : ∀ ac, s.releasedFrames.filter (fun f => decide (f.ac = ac)) ++
    s.sleepQ.filter (fun f => decide (f.ac = ac)) = s.buffered.filter fun f => decide (f.ac = ac)
  mdata : ∀ r ∈ s.released, r.mdata = r.rest.any (w.served r.frame r.service)

structure Sound (w : StaWmm) (s : SleepSta) : Prop extends Books w s where
  timSet : s.tim = s.sleepQ.any w.announced

/-- A PS-Poll that is answered from the queue meets a head outside the
delivery-enabled categories, with nothing behind it or another such frame. -/
def pollOk (w : StaWmm) (s : SleepSta) : Event → Bool
  | .pspoll aidOk priority =>
    !aidOk || (w.uapsd (Ac.ofPriority priority)).testBit 0 || !s.asleep || !s.dz ||
      match s.sleepQ with
      | [] => true
      | f :: q => !w.deliveryEnabled f && (q.isEmpty || q.any fun g => !w.deliveryEnabled g)
  | _ => true

/-- Waking up releases these frames one by one, none while others of its kind
are left. -/
def wakeupLast (w : StaWmm) : List PsFrame → Bool
  | [] => true
  | f :: q => !q.any (w.served f .wakeup) && wakeupLast w q

def lastOfKind (w : StaWmm) (s : SleepSta) : Event → Bool
  | .pspoll _ _ =>
    match s.sleepQ with
    | [] => true
    | f :: q => !q.any (w.served f .psPoll)
  | .delivery => decide (s.sleepQ.countP w.deliveryEnabled ≤ 1)
  | .wakeup => wakeupLast w s.sleepQ
  | _ => true

def HeadersRight (w : StaWmm) (s : SleepSta) : Prop :=
  ∀ r ∈ s.released, r.frame.hdrMData = r.rest.any (w.served r.frame r.service)

/-! ### The WMM element -/

lemma uapsd_parse (qosInfo : Option ℕ) (ac : Ac) :
    (rtwApParseStaWmmIe qosInfo).uapsd ac = 0 ∨ (rtwApParseStaWmmIe qosInfo).uapsd ac = 3 := by
  cases qosInfo with
  | none => cases ac <;> exact .inl rfl
  | some i =>
    cases ac
    · exact (ite_eq_or_eq _ 3 0).symm
    · exact (ite_eq_or_eq _ 3 0).symm
    · exact (ite_eq_or_eq _ 3 0).symm
    · exact (ite_eq_or_eq _ 3 0).symm

lemma testBit_one_parse (qosInfo : Option ℕ) (f : PsFrame) :
    ((rtwApParseStaWmmIe qosInfo).uapsd f.ac).testBit 1 =
      (rtwApParseStaWmmIe qosInfo).deliveryEnabled f := by
  rcases uapsd_parse qosInfo f.ac with h | h <;> simp only [StaWmm.deliveryEnabled, h] <;> rfl

lemma deliveryEnabled_of_not_legacy {qosInfo : Option ℕ}
    (h : (rtwApParseStaWmmIe qosInfo).hasLegacyAc = false) (f : PsFrame) :
    (rtwApParseStaWmmIe qosInfo).deliveryEnabled f = true := by
  cases qosInfo with
  | none => cases h
  | some i =>
    have hi : i % 2 ^ 4 = 15 := by simpa [rtwApParseStaWmmIe] using h
    have hbit : ∀ j < 4, i.testBit j = true := by
      intro j hj
      have hmod := Nat.testBit_mod_two_pow i 4 j
      have h15 : ∀ j < 4, Nat.testBit 15 j = true := by decide
      rw [hi, h15 j hj] at hmod
      simpa [hj] using hmod.symm
    unfold StaWmm.deliveryEnabled
    cases f.ac <;> simp [StaWmm.uapsd, rtwApParseStaWmmIe, hbit]

/-! ### One frame enters or leaves -/

variable {w : StaWmm} {s : SleepSta}

lemma sound_init (w : StaWmm) : Sound w {} where
  len := rfl
  acLen := rfl
  order _ := rfl
  mdata _ h := by cases h
  timSet := rfl

lemma decide_countP_pos (p : PsFrame → Bool) (q : List PsFrame) :
    decide (0 < q.countP p) = q.any p := by
  rw [Bool.eq_iff_iff, decide_eq_true_iff, countP_pos_iff, any_eq_true]

lemma Sound.enqueue (h : Sound w s) (a : PsAttrib) (f : PsFrame) :
    Sound w (s.xmitframeEnqueueForSleepingSta w a f) := by
  unfold xmitframeEnqueueForSleepingSta
  split
  · exact h
  split
  · constructor
    · constructor
      · simp [h.len]
      · simp only [countP_append, countP_singleton, ← h.acLen]
        change (if w.deliveryEnabled f = true then _ else _) = _
        split <;> rfl
      · intro ac
        change s.releasedFrames.filter _ ++ _ = _
        rw [filter_append, filter_append, ← append_assoc, h.order ac]
      · exact h.mdata
    · change (s.tim || w.hasLegacyAc && !w.deliveryEnabled f ||
        !w.hasLegacyAc && w.deliveryEnabled f) = _
      rw [any_append, ← h.timSet, Bool.or_assoc]
      congr 1
      simp only [any_cons, any_nil, Bool.or_false, StaWmm.announced]
      cases w.hasLegacyAc <;> simp
  · exact h

lemma Sound.dequeue (h : Sound w s) (q : List (PsAttrib × PsFrame)) :
    Sound w (s.dequeueXmitframesToSleepingQueue w q) :=
  run_invariant (fun _ x hs => hs.enqueue { x.1 with triggered := false } x.2) h q

lemma Sound.stop (h : Sound w s) (vo vi be bk : List (PsAttrib × PsFrame)) :
    Sound w (s.stopStaXmit w vo vi be bk) := by
  have h' : Sound w { s with asleep := true, dz := true } := ⟨⟨h.len, h.acLen, h.order, h.mdata⟩, h.timSet⟩
  exact (((h'.dequeue vo).dequeue vi).dequeue be).dequeue bk

lemma Books.release {f : PsFrame} {kept q : List PsFrame} (h : Books w s)
    (hq : s.sleepQ = kept ++ f :: q) (hkept : ∀ g ∈ kept, g.ac ≠ f.ac) (v : Service) (t : Bool) :
    Books w { s with
      sleepQ := kept ++ q
      sleepqLen := s.sleepqLen - 1
      sleepqAcLen := if w.deliveryEnabled f then s.sleepqAcLen - 1 else s.sleepqAcLen
      tim := t
      released := s.released ++ [⟨f, (kept ++ q).any (w.served f v), v, kept ++ q⟩] } where
  len := by simp [h.len, hq]
  acLen := by
    have hcount : s.sleepqAcLen =
        (kept ++ q).countP w.deliveryEnabled + if w.deliveryEnabled f then 1 else 0 := by
      rw [h.acLen, hq, countP_append, countP_cons, countP_append, Nat.add_assoc]
    rw [hcount]
    split <;> simp
  order ac := by
    rw [← h.order ac, hq]
    simp only [releasedFrames, map_append, map_cons, map_nil, filter_append,
      append_assoc]
    congr 1
    by_cases hac : f.ac = ac
    · have hnil : kept.filter (fun g => decide (g.ac = ac)) = [] := by
        apply filter_eq_nil_iff.2
        intro g hg
        simpa [← hac] using hkept g hg
      simp [hnil, hac]
    · simp [hac]
  mdata r hr := by
    rcases mem_append.1 hr with hr | hr
    · exact h.mdata r hr
    · obtain rfl := mem_singleton.1 hr
      rfl

/-! ### The ways out of the queue -/

section

variable (hw : ∀ f : PsFrame, (w.uapsd f.ac).testBit 1 = w.deliveryEnabled f)
include hw

lemma Books.wakeupLoop
    {q : List PsFrame} (h : Books w s) (hq : s.sleepQ = q) :
    Books w (s.wakeupLoop w q) ∧ (s.wakeupLoop w q).sleepQ = [] := by
  induction q generalizing s with
  | nil => exact ⟨h, hq⟩
  | cons f q ih =>
    have hrel := @Books.release _ _ _ [] _ h hq (by simp) .wakeup s.tim
    have hmdata : (if w.deliveryEnabled f then
          decide (0 < if w.deliveryEnabled f then s.sleepqAcLen - 1 else s.sleepqAcLen)
        else decide (0 < s.sleepqLen - 1)) = q.any (w.served f .wakeup) := by
      have hlen : s.sleepqLen - 1 = q.length := hrel.len
      have hac : (if w.deliveryEnabled f then s.sleepqAcLen - 1 else s.sleepqAcLen) =
        q.countP w.deliveryEnabled := hrel.acLen
      rw [hac, hlen, decide_countP_pos]
      by_cases hf : w.deliveryEnabled f = true
      · rw [if_pos hf]
        congr 1
        funext g
        simp [StaWmm.served, hf]
      · rw [if_neg hf, ← countP_true, decide_countP_pos]
        congr 1
        funext g
        simp [StaWmm.served, hf]
    have hstep := ih hrel rfl
    simp only [SleepSta.wakeupLoop, hw, hmdata]
    exact hstep

lemma Sound.wakeup
    (h : Sound w s) : Sound w (s.wakeupStaToXmit w) ∧ (s.wakeupStaToXmit w).sleepQ = [] := by
  obtain ⟨hbooks, hnil⟩ := h.toBooks.wakeupLoop hw rfl
  have hlen : (s.wakeupLoop w s.sleepQ).sleepqLen = 0 := by rw [hbooks.len, hnil, length_nil]
  unfold wakeupStaToXmit
  rw [if_pos hlen]
  refine ⟨⟨⟨hbooks.len, hbooks.acLen, hbooks.order, hbooks.mdata⟩, ?_⟩, hnil⟩
  change false = (s.wakeupLoop w s.sleepQ).sleepQ.any w.announced
  rw [hnil, any_nil]

lemma Sound.deliveryLoop
    {kept q : List PsFrame} (h : Sound w s) (hq : s.sleepQ = kept ++ q)
    (hkept : ∀ g ∈ kept, w.deliveryEnabled g = false) : Sound w (s.deliveryLoop w kept q) := by
  induction q generalizing s kept with
  | nil => exact h
  | cons f q ih =>
    unfold SleepSta.deliveryLoop
    rw [hw]
    by_cases hf : w.deliveryEnabled f = true
    · rw [if_pos hf]
      have hother : ∀ g ∈ kept, g.ac ≠ f.ac := by
        intro g hg hac
        have hg' := hkept g hg
        rw [StaWmm.deliveryEnabled, hac] at hg'
        exact absurd hf (by rw [StaWmm.deliveryEnabled, hg']; simp)
      have hrel := h.release hq hother .delivery
        (if s.sleepqAcLen - 1 = 0 ∧ !w.hasLegacyAc then false else s.tim)
      rw [if_pos hf] at hrel
      have hac : s.sleepqAcLen - 1 = (kept ++ q).countP w.deliveryEnabled := hrel.acLen
      have hmdata : decide (0 < s.sleepqAcLen - 1) =
          (kept ++ q).any (w.served f .delivery) := by
        rw [hac, decide_countP_pos]
        rfl
      rw [← hmdata] at hrel
      refine ih ⟨hrel, ?_⟩ rfl hkept
      change (if s.sleepqAcLen - 1 = 0 ∧ !w.hasLegacyAc then false else s.tim) =
        (kept ++ q).any w.announced
      rw [h.timSet, hq, hac]
      cases hl : w.hasLegacyAc
      · have hany : (kept ++ q).any w.announced =
            decide (0 < (kept ++ q).countP w.deliveryEnabled) := by
          rw [decide_countP_pos]
          congr 1
          funext g
          simp [StaWmm.announced, hl]
        rw [hany]
        by_cases h0 : (kept ++ q).countP w.deliveryEnabled = 0
        · simp [h0]
        · rw [if_neg (fun hc => h0 hc.1), decide_eq_true (Nat.pos_of_ne_zero h0)]
          simp [StaWmm.announced, hl, hf]
      · simp [StaWmm.announced, hl, hf]
    · rw [if_neg hf]
      apply ih h
      · simpa using hq
      · intro g hg
        rcases mem_append.1 hg with hg | hg
        · exact hkept g hg
        · rw [mem_singleton.1 hg]
          simpa using hf

end

lemma Sound.pspoll (hl : w.hasLegacyAc = false → ∀ f, w.deliveryEnabled f = true)
    (h : Sound w s) (aidOk : Bool) (priority : ℕ)
    (hok : s.pollOk w (.pspoll aidOk priority) = true) :
    Sound w (s.rtwProccessPspoll w aidOk priority) := by
  unfold rtwProccessPspoll
  by_cases hrefuse : (!aidOk || (w.uapsd (Ac.ofPriority priority)).testBit 0) = true
  · rw [if_pos hrefuse]
    exact h
  rw [if_neg hrefuse]
  by_cases hasleep : (s.asleep && s.dz) = true
  · rw [if_pos hasleep]
    have hok' : (match s.sleepQ with
        | [] => true
        | f :: q => !w.deliveryEnabled f && (q.isEmpty || q.any fun g => !w.deliveryEnabled g)) =
        true := by
      simp only [Bool.or_eq_true, not_or] at hrefuse
      simp only [Bool.and_eq_true] at hasleep
      simpa [pollOk, hrefuse, hasleep] using hok
    cases hq : s.sleepQ with
    | nil =>
      by_cases ht : s.tim = true
      · rw [h.timSet, hq] at ht
        cases ht
      · simp only [ht]
        exact h
    | cons f q =>
      rw [hq] at hok'
      obtain ⟨hf, hrest⟩ : w.deliveryEnabled f = false ∧
          (q = [] ∨ q.any (fun g => !w.deliveryEnabled g) = true) := by
        simpa using hok'
      have hrel := @Books.release _ _ _ [] _ h.toBooks hq (by simp) .psPoll
        (if s.sleepqLen - 1 = 0 then false else s.tim)
      have hlen : s.sleepqLen - 1 = q.length := hrel.len
      have hlegacy : w.hasLegacyAc = true := by
        by_contra hno
        rw [hl (by simpa using hno) f] at hf
        cases hf
      have hann : w.announced = fun g => !w.deliveryEnabled g := by
        funext g
        simp [StaWmm.announced, hlegacy]
      have hany : decide (0 < q.length) = q.any fun g => !w.deliveryEnabled g := by
        rcases hrest with rfl | hrest
        · rfl
        · rw [hrest, decide_eq_true]
          exact length_pos_of_ne_nil (by rintro rfl; cases hrest)
      have hmdata : ([] ++ q).any (w.served f .psPoll) = decide (0 < s.sleepqLen - 1) := by
        rw [hlen]
        exact hany.symm
      rw [hf, hmdata] at hrel
      constructor
      · exact hrel
      · change (if s.sleepqLen - 1 = 0 then false else s.tim) = q.any w.announced
        rw [h.timSet, hq, hann, ← hany, hlen]
        by_cases h0 : q.length = 0
        · simp [h0]
        · rw [if_neg h0, decide_eq_true (Nat.pos_of_ne_zero h0)]
          simp [hf]
  · rw [if_neg hasleep]
    exact h

/-! ### The headers -/

section

variable (h : HeadersRight w s)
include h

lemma HeadersRight.append {r : Released}
    (hr : r.rest.any (w.served r.frame r.service) = false) :
    ∀ r' ∈ s.released ++ [r], r'.frame.hdrMData = r'.rest.any (w.served r'.frame r'.service) := by
  intro r' hr'
  rcases mem_append.1 hr' with hr' | hr'
  · exact h r' hr'
  · rw [mem_singleton.1 hr', hr]
    rfl

lemma HeadersRight.enqueue (a : PsAttrib) (f : PsFrame) :
    HeadersRight w (s.xmitframeEnqueueForSleepingSta w a f) := by
  unfold xmitframeEnqueueForSleepingSta
  split
  · exact h
  split
  · exact h
  · exact h

lemma HeadersRight.dequeue (q : List (PsAttrib × PsFrame)) :
    HeadersRight w (s.dequeueXmitframesToSleepingQueue w q) := by
  unfold dequeueXmitframesToSleepingQueue
  induction q generalizing s with
  | nil => exact h
  | cons x q ih => exact ih (h.enqueue { x.1 with triggered := false } x.2)

lemma HeadersRight.wakeupLoop {q : List PsFrame}
    (hlast : wakeupLast w q = true) : HeadersRight w (s.wakeupLoop w q) := by
  induction q generalizing s with
  | nil => exact h
  | cons f q ih =>
    obtain ⟨hf, hq⟩ : q.any (w.served f .wakeup) = false ∧ wakeupLast w q = true := by
      simpa only [wakeupLast, Bool.and_eq_true, Bool.not_eq_true'] using hlast
    exact ih (h.append hf) hq

end

lemma HeadersRight.deliveryLoop
    (hw : ∀ f : PsFrame, (w.uapsd f.ac).testBit 1 = w.deliveryEnabled f) {kept q : List PsFrame}
    (h : HeadersRight w s) (hlast : (kept ++ q).countP w.deliveryEnabled ≤ 1) :
    HeadersRight w (s.deliveryLoop w kept q) := by
  induction q generalizing s kept with
  | nil => exact h
  | cons f q ih =>
    unfold SleepSta.deliveryLoop
    rw [hw]
    by_cases hf : w.deliveryEnabled f = true
    · rw [if_pos hf]
      have hzero : (kept ++ q).countP w.deliveryEnabled = 0 := by
        simp only [countP_append, countP_cons, hf, if_pos] at hlast ⊢
        omega
      apply ih
      · apply h.append
        change (kept ++ q).any w.deliveryEnabled = false
        rw [← decide_countP_pos, hzero]
        rfl
      · omega
    · rw [if_neg hf]
      apply ih h
      simpa using hlast

lemma HeadersRight.step {qosInfo : Option ℕ} (h : HeadersRight (rtwApParseStaWmmIe qosInfo) s)
    (e : Event) (hlast : s.lastOfKind (rtwApParseStaWmmIe qosInfo) e = true) :
    HeadersRight (rtwApParseStaWmmIe qosInfo) (s.step (rtwApParseStaWmmIe qosInfo) e) := by
  cases e with
  | enqueue a f => exact h.enqueue a f
  | stop vo vi be bk =>
    have h' : HeadersRight (rtwApParseStaWmmIe qosInfo) { s with asleep := true, dz := true } := h
    exact (((h'.dequeue vo).dequeue vi).dequeue be).dequeue bk
  | pspoll aidOk priority =>
    change HeadersRight _ (rtwProccessPspoll _ _ _ _)
    unfold rtwProccessPspoll
    split
    · exact h
    split
    · cases hq : s.sleepQ with
      | nil =>
        change HeadersRight _ (if s.tim = true then _ else s)
        split
        · exact h
        · exact h
      | cons f q =>
        apply h.append
        simpa [lastOfKind, hq] using hlast
    · exact h
  | delivery =>
    apply h.deliveryLoop (testBit_one_parse qosInfo)
    simpa [lastOfKind] using hlast
  | wakeup =>
    have hloop := h.wakeupLoop hlast
    change HeadersRight _ (if (SleepSta.wakeupLoop _ s s.sleepQ).sleepqLen = 0 then _ else _)
    split
    · exact hloop
    · exact hloop

/-! ### Runs -/

lemma Sound.step {qosInfo : Option ℕ} (h : Sound (rtwApParseStaWmmIe qosInfo) s) (e : Event)
    (hok : s.pollOk (rtwApParseStaWmmIe qosInfo) e = true) :
    Sound (rtwApParseStaWmmIe qosInfo) (s.step (rtwApParseStaWmmIe qosInfo) e) := by
  have hw := testBit_one_parse qosInfo
  cases e with
  | enqueue a f => exact h.enqueue a f
  | stop vo vi be bk => exact h.stop vo vi be bk
  | pspoll aidOk priority =>
    exact h.pspoll (fun hl => deliveryEnabled_of_not_legacy hl) aidOk priority hok
  | delivery => exact h.deliveryLoop hw rfl (by simp)
  | wakeup => exact (h.wakeup hw).1

end SleepSta

open SleepSta

/-- Over every run whose PS-Polls meet the condition, the counters, the order
within each access category, the more-data attributes and the TIM bit are right,
and waking up releases all that is left.  The headers say the same if no frame
is released while there is more. -/
theorem sleep_queue_sound (qosInfo : Option ℕ) (es : List SleepSta.Event)
    (h : Guarded (step (rtwApParseStaWmmIe qosInfo))
      (fun s e => s.pollOk (rtwApParseStaWmmIe qosInfo) e = true) {} es) :
    Sound (rtwApParseStaWmmIe qosInfo) (run (step (rtwApParseStaWmmIe qosInfo)) {} es) ∧
      (wakeupStaToXmit (rtwApParseStaWmmIe qosInfo)
        (run (step (rtwApParseStaWmmIe qosInfo)) {} es)).sleepQ = [] ∧
      (Guarded (step (rtwApParseStaWmmIe qosInfo))
          (fun s e => s.lastOfKind (rtwApParseStaWmmIe qosInfo) e = true) {} es →
        HeadersRight (rtwApParseStaWmmIe qosInfo)
          (run (step (rtwApParseStaWmmIe qosInfo)) {} es)) := by
  have hs : Sound (rtwApParseStaWmmIe qosInfo) (run (step (rtwApParseStaWmmIe qosInfo)) {} es) :=
    h.invariant (fun _ e hs hok => hs.step e hok) (sound_init _)
  refine ⟨hs, (hs.wakeup (testBit_one_parse qosInfo)).2, ?_⟩
  intro hlast
  apply hlast.invariant (fun _ e hs hok => HeadersRight.step hs e hok)
  intro r hr
  cases hr

/-- Voice is delivery-enabled: a best-effort frame is fetched by PS-Poll, then a
voice frame by a trigger while another best-effort frame waits. -/
theorem sleep_queue_sound_run :
    ∃ es, Sound (rtwApParseStaWmmIe (some 1)) (run (step (rtwApParseStaWmmIe (some 1))) {} es) ∧
      HeadersRight (rtwApParseStaWmmIe (some 1))
        (run (step (rtwApParseStaWmmIe (some 1))) {} es) ∧
      (run (step (rtwApParseStaWmmIe (some 1))) {} es).releasedFrames = [⟨0, 0⟩, ⟨2, 6⟩] ∧
      (run (step (rtwApParseStaWmmIe (some 1))) {} es).sleepQ = [⟨1, 0⟩] := by
  let es : List SleepSta.Event := [.stop [] [] [] [], .enqueue {} ⟨0, 0⟩, .pspoll true 0,
    .enqueue {} ⟨1, 0⟩, .enqueue {} ⟨2, 6⟩, .delivery]
  have h : Guarded (step (rtwApParseStaWmmIe (some 1)))
      (fun s e => s.pollOk (rtwApParseStaWmmIe (some 1)) e = true) {} es :=
    ⟨rfl, rfl, by decide, rfl, rfl, rfl, trivial⟩
  have hlast : Guarded (step (rtwApParseStaWmmIe (some 1)))
      (fun s e => s.lastOfKind (rtwApParseStaWmmIe (some 1)) e = true) {} es :=
    ⟨rfl, rfl, by decide, rfl, rfl, by decide, trivial⟩
  obtain ⟨hs, -, hhdr⟩ := sleep_queue_sound (some 1) es h
  exact ⟨es, hs, hhdr hlast, by decide, by decide⟩

/-- A voice frame ahead of a best-effort one: the PS-Poll takes the voice
frame, and `sleepq_ac_len` still counts it. -/
theorem sleep_queue_ac_len_stale :
    ¬ ∀ (qosInfo : Option ℕ) (es : List SleepSta.Event),
      Sound (rtwApParseStaWmmIe qosInfo) (run (step (rtwApParseStaWmmIe qosInfo)) {} es) := by
  intro h
  have hac := (h (some 1) [.stop [] [] [] [], .enqueue {} ⟨0, 6⟩, .enqueue {} ⟨1, 0⟩,
    .pspoll true 0]).acLen
  revert hac
  decide

end Rtl8831.Core
