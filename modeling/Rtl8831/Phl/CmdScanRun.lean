import Rtl8831.Lib.Run
import Rtl8831.Phl.CmdScanInv

/-!
# Scans over whole runs

Every event keeps the invariant of `CmdScanInv` as long as the scan is not left
without a next step, the dispatcher does not stop between the end of a scan and
the release of its token, and the bands that need no scan are known before the
others have ended.
-/

namespace Rtl8831.Phl

open Lib ScanBand

namespace Scan

variable {io : Prop} {s t : Scan} {b : HwBand} {m : ScanMsg}

/-! ## The condition -/

def Delivery.loses (m : ScanMsg) : Delivery → Bool
  | .handled h =>
    match m with
    | .scanStart => !h.send
    | .listenStateExpire => (h.late || !h.extend) && !h.send
    | .swchStart => (h.late || h.next.isNone) && !h.send
    | .swchDone | .scanEnd | .abortEnd => false
  | .failed _ send =>
    match m with
    | .scanStart | .listenStateExpire | .swchStart => !send
    | .swchDone | .scanEnd | .abortEnd => false
  | .clrSndr send =>
    match m with
    | .listenStateExpire => !send
    | .scanStart | .swchStart | .scanEnd => true
    | .swchDone | .abortEnd => false
  | .cannotIo | .cancelled =>
    match m with
    | .scanStart | .listenStateExpire | .swchStart | .scanEnd => true
    | .swchDone | .abortEnd => false

def Delivery.cutsOff (m : ScanMsg) : Delivery → Bool
  | .failed noIo _ => (decide (m = .abortEnd) || decide (m = .scanEnd)) && noIo
  | .cannotIo => decide (m = .abortEnd)
  | _ => false

def Safe (s : Scan) : Event → Prop
  | .submit add =>
    match s.submit with
    | .first => s.twoBands = true ∨ s.hasChannels s.first = true
    | .second => (s.hasChannels s.second && (s.canAdd s.second && add)) = true ∨
        (s.band s.first).ended = false
    | _ => True
  | .deliver b i how => ∀ m ∈ (s.band b).msgs[i]?, how.loses m = true →
      underway { s.band b with msgs := (s.band b).msgs.eraseIdx i } = true
  | .timer b send => (s.band b).timer = true → send = false →
      underway { s.band b with timer := false } = true
  | .leave b => (s.band b).token = .granted → (s.band b).op ≠ some .free
  | _ => True

/-- The steps that do not end a scan that has started as `CMD_SCAN_DF_IO`. -/
def WithIO (s : Scan) : Event → Prop
  | .deliver b i how => ∀ m ∈ (s.band b).msgs[i]?, how.cutsOff m = true →
      (s.band b).started = false
  | .tokenOp b r => (s.band b).op = some .cancel → (s.band b).token = .granted →
      (s.band b).started = true → r ≠ .unexpected ∧ (s.band b).shallStop = false
  | .leave b => (s.band b).token = .granted → (s.band b).started = false
  | _ => True

instance (s : Scan) (e : Event) : Decidable (s.Safe e) :=
  match e with
  | .submit add =>
    match h : s.submit with
    | .first => decidable_of_iff (s.twoBands = true ∨ s.hasChannels s.first = true)
        (by simp [Safe, h])
    | .second => decidable_of_iff
        ((s.hasChannels s.second && (s.canAdd s.second && add)) = true ∨
          (s.band s.first).ended = false) (by simp only [Safe, h])
    | .idle | .accepted | .refused => isTrue (by simp [Safe, h])
  | .deliver b i how => inferInstanceAs (Decidable (∀ m ∈ (s.band b).msgs[i]?, how.loses m = true →
      underway { s.band b with msgs := (s.band b).msgs.eraseIdx i } = true))
  | .timer b send => inferInstanceAs (Decidable ((s.band b).timer = true → send = false →
      underway { s.band b with timer := false } = true))
  | .leave b => inferInstanceAs (Decidable ((s.band b).token = .granted → (s.band b).op ≠ some .free))
  | .request _ | .cancel | .grant _ _ _ | .tokenOp _ _ | .shallStop _ | .stop _ => isTrue trivial

instance (s : Scan) (e : Event) : Decidable (s.WithIO e) :=
  match e with
  | .deliver b i how => inferInstanceAs (Decidable (∀ m ∈ (s.band b).msgs[i]?,
      how.cutsOff m = true → (s.band b).started = false))
  | .tokenOp b r => inferInstanceAs (Decidable ((s.band b).op = some .cancel →
      (s.band b).token = .granted → (s.band b).started = true →
      r ≠ .unexpected ∧ (s.band b).shallStop = false))
  | .leave b => inferInstanceAs (Decidable ((s.band b).token = .granted → (s.band b).started = false))
  | .request _ | .submit _ | .cancel | .grant _ _ _ | .timer _ _ | .shallStop _ | .stop _ =>
    isTrue trivial

/-! ## What the calls do to a band -/

section

variable (hf : Frame b s t)
include hf

lemma cmdScanEnd_spec (hctrl : s.scanCtrl b = true) :
    Ended b s (t.cmdScanEnd b) ∧
      (t.cmdScanEnd b).band b = ScanBand.cmdScanEnd { t.band b with ended := true } := by
  have hend : ∀ x : ScanBand, x.cmdScanEnd.ended = x.ended := by
    intro x
    rw [cmdScanEnd_eq]
  unfold cmdScanEnd
  dsimp only
  rw [if_pos (show (t.modify b _).scanCtrl b = true from (hf.scanCtrl b).trans hctrl),
    hf.indicates]
  constructor
  · have hmark : Elsewhere b s (t.modify b fun x => { x with ended := true }) :=
      hf.toElsewhere.modify _
    have he : Ended b s ((t.modify b fun x =>
        ScanBand.cmdScanEnd { x with ended := true }).scanComplete s.indicates) :=
      hf.scanComplete (by rw [hend])
    have hmm : (t.modify b fun x => { x with ended := true }).modify b ScanBand.cmdScanEnd =
        t.modify b fun x => ScanBand.cmdScanEnd { x with ended := true } := by
      simp [modify]
    rw [hmm]
    exact he
  · simp

lemma cmdAbortNotifyCb_spec (hctrl : s.scanCtrl b = true) (cannotIo : Bool) :
    Ended b s (t.cmdAbortNotifyCb b cannotIo) ∧
      (t.cmdAbortNotifyCb b cannotIo).band b =
        ScanBand.cmdScanEnd { t.band b with dfIo := (t.band b).dfIo || cannotIo, ended := true } := by
  have hm : Frame b s (t.modify b fun x => { x with dfIo := x.dfIo || cannotIo }) := hf.modify rfl
  obtain ⟨he, hb⟩ := cmdScanEnd_spec hm hctrl
  refine ⟨he, ?_⟩
  rw [modify_band_self] at hb
  exact hb

lemma cmdAbortNotify_pending (hacq : (t.band b).acquire = false)
    (r : SendRes) :
    Ended b s (t.cmdAbortNotify b r) ∧
      (t.cmdAbortNotify b r).band b = { t.band b with ended := true } := by
  unfold cmdAbortNotify
  dsimp only
  rw [if_neg (by simp [hacq]), hf.indicates]
  constructor
  · apply (hf.setResult (some .abort)).scanComplete (f := fun x => { x with ended := true })
    rfl
  · simp

lemma cmdAbortNotify_running (hacq : (t.band b).acquire = true)
    (hctrl : s.scanCtrl b = true) (r : SendRes) :
    (Frame b s (t.cmdAbortNotify b r) ∧ (t.cmdAbortNotify b r).band b =
        { t.band b with msgs := (t.band b).msgs ++ [.abortEnd] } ∧ (t.band b).stopped = false) ∨
      ∃ cannotIo, Ended b s (t.cmdAbortNotify b r) ∧ (t.cmdAbortNotify b r).band b =
        ScanBand.cmdScanEnd { t.band b with dfIo := (t.band b).dfIo || cannotIo, ended := true } ∧
        (cannotIo = true →
          r = .unexpected ∨ (t.band b).stopped = true ∨ (t.band b).shallStop = true) := by
  have hr := hf.setResult (some .cancel)
  have hc : scanCtrl { t with result := some .cancel } b = true := (hr.scanCtrl b).trans hctrl
  unfold cmdAbortNotify
  dsimp only
  rw [if_pos hacq, if_neg (by simp [hc])]
  split
  · next hsend =>
      refine Or.inl ⟨hr.modify rfl, by simp, ?_⟩
      cases hst : (t.band b).stopped with
      | false => rfl
      | true => simp [hst] at hsend
  · obtain ⟨he, hb⟩ := cmdAbortNotifyCb_spec hr hctrl false
    exact Or.inr ⟨false, he, hb, by simp⟩
  · next hsend =>
      obtain ⟨he, hb⟩ := cmdAbortNotifyCb_spec hr hctrl true
      refine Or.inr ⟨true, he, hb, fun _ => ?_⟩
      split at hsend
      · next hor => exact Or.inr (by simpa using hor)
      · exact Or.inl hsend

end

/-! ## The handlers on a running scan -/

section

variable (h : s.Inv io) (hu : s.Used b)
include h hu

lemma Inv.ended_idle (hb : (s.band b).ended = false)
    (he : Ended b s t) {y : ScanBand} (hy : y.InUse) (hmsgs : y.msgs = [])
    (htoken : y.token = .idle) (hio : io → y.dfIo = true → y.started = false)
    (ht : t.band b = ScanBand.cmdScanEnd { y with ended := true }) : t.Inv io := by
  refine h.ended he hu hb (.done ?_)
  have hy' : ScanBand.InUse { y with ended := true } :=
    ⟨fun hs => { hy.untouched hs with }, hy.starts, hy.undos⟩
  rw [ht]
  refine ⟨hy'.cmdScanEnd rfl hio, ?_, ?_⟩
  · rw [cmdScanEnd_eq]
    exact htoken
  · rw [cmdScanEnd_eq]
    exact hmsgs

lemma Inv.freeAndEnd (hb : (s.band b).ended = false)
    (hf : Frame b s t) (hy : (t.band b).Held) {prepare : Scan → Scan} (cannotIo : Bool)
    (hp : ∀ u, Frame b s u → Frame b s (prepare u) ∧
      (prepare u).band b = { u.band b with dfIo := (u.band b).dfIo || cannotIo })
    (hio : io → cannotIo = true → (t.band b).started = false) :
    (t.freeAndEnd b prepare).Inv io := by
  unfold Scan.freeAndEnd
  rcases hy.disprFreeToken with hfree | ⟨x, hfree, hx⟩
  · let y : ScanBand := { t.band b with reqCancel := true, op := some .free }
    obtain ⟨hpf, hpb⟩ := hp _ (hf.modify (f := fun _ => y) rfl)
    obtain ⟨he, hband⟩ := cmdScanEnd_spec hpf (h.scanCtrl hu hb)
    rw [hpb, modify_band_self] at hband
    have hin : ScanBand.InUse { y with dfIo := y.dfIo || cannotIo, ended := true } :=
      ⟨fun hs => { hy.untouched hs with }, hy.starts, hy.undos⟩
    rw [hfree]
    apply h.ended he hu hb
    rw [hband]
    refine .freed ⟨hin.cmdScanEnd rfl ?_, ?_, ?_, ?_, ?_⟩
    · intro hi hd
      exact hio hi (by simpa [y, hy.dfIo] using hd)
    all_goals rw [cmdScanEnd_eq]
    · exact hy.token
    · exact hy.noAbort
  · rw [hfree]
    have hx' : ((t.modify b fun _ => x).band b).Live io := by
      rw [modify_band_self]
      exact .running hx
    refine h.frame (t := t.modify b fun _ => x) (hf.modify ?_) hu hx'
    rw [hx.ended, hy.ended]

lemma Inv.sendNext (hf : Frame b s t) (m : ScanMsg) (ok : Bool)
    {y : ScanBand} (hy : y.Held) (ht : t.band b = y.disprSendMsg m ok) (hm : m ≠ .abortEnd)
    (hstart : m ≠ .scanStart) (hearly : y.started = false → m = .scanEnd)
    (hunder : (y.disprSendMsg m ok).underway = true) : t.Inv io := by
  apply h.frame hf hu
  rw [ht]
  exact .running ⟨hy.send hm hstart hearly ok, hunder⟩

end

lemma disprSendMsg_ended (x : ScanBand) (m : ScanMsg) (ok : Bool) :
    (x.disprSendMsg m ok).ended = x.ended := by
  unfold disprSendMsg
  split <;> rfl

lemma Inv.cmdScanFailEvHdlr (h : s.Inv io) (hu : s.Used b) (hb : (s.band b).ended = false)
    (hf : Frame b s t) (hy : (t.band b).Held) {cannotIo send : Bool} (hm : m ≠ .abortEnd)
    (hsend : m ≠ .scanEnd → send = false → (t.band b).underway = true)
    (hio : io → m = .scanEnd → cannotIo = true → (t.band b).started = false) :
    (t.cmdScanFailEvHdlr b m cannotIo send).Inv io := by
  have hctrl : t.scanCtrl b = true := (hf.scanCtrl b).trans (h.scanCtrl hu hb)
  have hnext (hne : m ≠ .scanEnd) :
      (t.modify b fun x => x.disprSendMsg .scanEnd send).Inv io := by
    apply h.sendNext hu (hf.modify (disprSendMsg_ended _ _ _)) .scanEnd send hy modify_band_self
      (by simp) (by simp) (fun _ => rfl)
    exact hy.underway_send (by simp) (hsend hne)
  unfold Scan.cmdScanFailEvHdlr
  rw [if_neg (by simp [hctrl])]
  cases m with
  | scanStart | listenStateExpire | swchStart | swchDone => exact hnext (by simp)
  | scanEnd =>
    apply h.freeAndEnd hu hb hf hy cannotIo ?_ (fun hi => hio hi rfl)
    exact fun u hu' => ⟨hu'.modify rfl, modify_band_self⟩
  | abortEnd => exact absurd rfl hm

section Delivery

variable {i : ℕ}

lemma frame_erase (b : HwBand) (s : Scan) (i : ℕ) :
    Frame b s (s.modify b fun x => { x with msgs := x.msgs.eraseIdx i }) :=
  (Frame.refl b s).modify rfl

section

variable (h : s.Inv io) (hu : s.Used b)
include h hu

lemma Inv.cmdScanHdlInternalEvt (hx : (s.band b).Running)
    (hi : (s.band b).msgs[i]? = some m) (g : Handling)
    (hok : (Delivery.handled g).loses m = true →
      underway { s.band b with msgs := (s.band b).msgs.eraseIdx i } = true) :
    ((s.modify b fun x => { x with msgs := x.msgs.eraseIdx i }).cmdScanHdlInternalEvt b m g).Inv
      io := by
  have hmem : m ∈ (s.band b).msgs := List.mem_of_getElem? hi
  have hf := frame_erase b s i
  have hy := hx.erase i
  have hctrl := (hf.scanCtrl b).trans (h.scanCtrl hu hx.ended)
  have hab : m ≠ .abortEnd := by
    rintro rfl
    exact hx.noAbort hmem
  have hself : (s.modify b fun x => { x with msgs := x.msgs.eraseIdx i }).band b =
      { s.band b with msgs := (s.band b).msgs.eraseIdx i } := modify_band_self
  unfold Scan.cmdScanHdlInternalEvt
  split
  · next hlate =>
      apply h.cmdScanFailEvHdlr hu hx.ended hf (hself ▸ hy) hab
      · intro hne hs
        rw [hself]
        cases m with
        | scanStart | listenStateExpire | swchStart =>
          exact hok (by simp [Delivery.loses, hlate, hs])
        | swchDone => exact underway_erase hi hx.underway
        | scanEnd | abortEnd => contradiction
      · simp
  · next hlate =>
      rw [if_neg (by simp [hctrl])]
      cases m with
      | scanStart =>
        have hst := hx.start hi
        refine h.sendNext hu (hf.modify ?_) .swchStart g.send hst
          (by rw [modify_band_self, hself]) (by simp) (by simp) (by simp) (hst.underway_send (by simp) ?_)
        · exact disprSendMsg_ended _ _ _
        · intro hs
          exact hok (by simp [Delivery.loses, hs])
      | listenStateExpire =>
        have hst : (s.band b).started = true := hx.started_of_mem hmem (by simp) (by simp)
        cases hext : g.extend with
        | true =>
          apply h.frame (hf.modify rfl) hu
          rw [modify_band_self, hself]
          exact .running ⟨hy.setTimer hst true _ _, by simp [underway]⟩
        | false =>
          refine h.sendNext hu (hf.modify ?_) .swchStart g.send hy (by simp) (by simp)
            (by simp) (by simp [hst]) (hy.underway_send (by simp) ?_)
          · exact disprSendMsg_ended _ _ _
          · intro hs
            exact hok (by simp [Delivery.loses, hs, hext])
      | swchStart =>
        have hst : (s.band b).started = true := hx.started_of_mem hmem (by simp) (by simp)
        cases hnext : g.next with
        | none =>
          refine h.sendNext hu (hf.modify ?_) .scanEnd g.send hy (by simp) (by simp)
            (by simp) (by simp) (hy.underway_send (by simp) ?_)
          · exact disprSendMsg_ended _ _ _
          · intro hs
            exact hok (by simp [Delivery.loses, hs, hnext])
        | some backOp =>
          have hsw := hy.setTimer hst true (if !backOp && (s.band b).backOp then true
            else if backOp && !(s.band b).backOp then false else (s.band b).txPaused) backOp
          refine h.sendNext hu (hf.modify ?_) .swchDone g.send hsw
            (by rw [modify_band_self, hself]; rfl) (by simp) (by simp) (by simp [hst]) ?_
          · exact disprSendMsg_ended _ _ _
          · apply underway_send_of_timer
            rfl
      | swchDone =>
        apply h.frame hf hu
        rw [hself]
        exact .running ⟨hy, underway_erase hi hx.underway⟩
      | scanEnd =>
        apply h.freeAndEnd hu hx.ended hf (hself ▸ hy) false ?_ (by simp)
        exact fun u hu' => ⟨hu'.setResult _, by simp⟩
      | abortEnd => exact absurd rfl hab

lemma Inv.cmdScanTimer (hf : Frame b s t) (hy : (t.band b).Held)
    (hst : (t.band b).started = true) {send : Bool}
    (hsend : send = false → (t.band b).underway = true) : (t.cmdScanTimer b send).Inv io := by
  apply h.sendNext hu (hf.modify (disprSendMsg_ended _ _ _)) .listenStateExpire send hy
    modify_band_self (by simp) (by simp) (by simp [hst])
  exact hy.underway_send (by simp) hsend

lemma Inv.deliver_running (hx : (s.band b).Running)
    {how : Delivery} (hok : s.Safe (.deliver b i how))
    (hio : io → s.WithIO (.deliver b i how)) : (s.deliver b i how).Inv io := by
  unfold Scan.deliver
  cases hi : (s.band b).msgs[i]? with
  | none => exact h
  | some m =>
    have hmem : m ∈ (s.band b).msgs := List.mem_of_getElem? hi
    have hab : m ≠ .abortEnd := by
      rintro rfl
      exact hx.noAbort hmem
    have hf := frame_erase b s i
    have hy := hx.erase i
    have hself : (s.modify b fun x => { x with msgs := x.msgs.eraseIdx i }).band b =
        { s.band b with msgs := (s.band b).msgs.eraseIdx i } := modify_band_self
    have hlose := hok m hi
    -- nobody handled the message
    have hgone : (how.loses m = false → m = .swchDone ∨ (s.band b).reqCancel = true) →
        (s.modify b fun x => { x with msgs := x.msgs.eraseIdx i }).Inv io := by
      intro hl
      apply h.frame hf hu
      rw [hself]
      refine .running ⟨hy, ?_⟩
      cases hlo : how.loses m with
      | true => exact hlose hlo
      | false =>
        rcases hl hlo with rfl | hr
        · exact underway_erase hi hx.underway
        · exact hy.underway_of_cancel hr
    have hhandles : ((s.modify b fun x => { x with msgs := x.msgs.eraseIdx i }).band b).handles =
        !(s.band b).reqCancel := by
      simp [handles, hx.token]
    dsimp only
    rw [hhandles]
    cases how with
    | handled g =>
      cases hr : (s.band b).reqCancel with
      | true =>
        cases m <;> first | exact absurd rfl hab | exact hgone fun _ => Or.inr hr
      | false =>
        cases m <;> first
          | exact absurd rfl hab
          | exact h.cmdScanHdlInternalEvt hu hx hi g hlose
    | failed noIo send =>
      cases hr : (s.band b).reqCancel with
      | true =>
        cases m <;> first | exact absurd rfl hab | exact hgone fun _ => Or.inr hr
      | false =>
        have hfail : ((s.modify b fun x => { x with msgs := x.msgs.eraseIdx i
            }).cmdScanFailEvHdlr b m noIo send).Inv io := by
          apply h.cmdScanFailEvHdlr hu hx.ended hf (hself ▸ hy) hab
          · intro hne hs
            rw [hself]
            cases m with
            | scanStart | listenStateExpire | swchStart =>
              exact hlose (by simp [Delivery.loses, hs])
            | swchDone => exact underway_erase hi hx.underway
            | scanEnd | abortEnd => contradiction
          · rintro hi' rfl rfl
            rw [hself]
            exact hio hi' .scanEnd hi (by simp [Delivery.cutsOff])
        cases m <;> first | exact absurd rfl hab | exact hfail
    | clrSndr send =>
      cases m with
      | listenStateExpire =>
        apply h.cmdScanTimer hu hf (hself ▸ hy)
        · rw [hself]
          exact hx.started_of_mem hmem (by simp) (by simp)
        · intro hs
          rw [hself]
          exact hlose (by simp [Delivery.loses, hs])
      | abortEnd => exact absurd rfl hab
      | swchDone => exact hgone fun _ => Or.inl rfl
      | scanStart | swchStart | scanEnd => exact hgone (by simp [Delivery.loses])
    | cannotIo | cancelled =>
      cases m with
      | abortEnd => exact absurd rfl hab
      | swchDone => exact hgone fun _ => Or.inl rfl
      | scanStart | listenStateExpire | swchStart | scanEnd =>
        exact hgone (by simp [Delivery.loses])

lemma Inv.deliver_freed (hx : (s.band b).Freed io)
    (how : Delivery) : (s.deliver b i how).Inv io := by
  unfold Scan.deliver
  cases hi : (s.band b).msgs[i]? with
  | none => exact h
  | some m =>
    have hab : m ≠ .abortEnd := by
      rintro rfl
      exact hx.noAbort (List.mem_of_getElem? hi)
    have hself : (s.modify b fun x => { x with msgs := x.msgs.eraseIdx i }).band b =
        { s.band b with msgs := (s.band b).msgs.eraseIdx i } := modify_band_self
    have hfreed : ScanBand.Freed io { s.band b with msgs := (s.band b).msgs.eraseIdx i } :=
      { hx with noAbort := fun hm => hx.noAbort (List.mem_of_mem_eraseIdx hm) }
    have hf := frame_erase b s i
    have hgone : (s.modify b fun x => { x with msgs := x.msgs.eraseIdx i }).Inv io := by
      apply h.frame hf hu
      rw [hself]
      exact .freed hfreed
    have hhandles : ((s.modify b fun x => { x with msgs := x.msgs.eraseIdx i }).band b).handles =
        false := by
      simp [handles, hx.reqCancel]
    have htimer (send : Bool) :
        ((s.modify b fun x => { x with msgs := x.msgs.eraseIdx i }).cmdScanTimer b send).Inv io := by
      unfold Scan.cmdScanTimer
      refine h.frame (hf.modify ?_) hu ?_
      · exact disprSendMsg_ended _ _ _
      rw [modify_band_self, hself, disprSendMsg_of_not_canSend]
      · exact .freed hfreed
      · simp [canSend, hx.reqCancel]
    dsimp only
    rw [hhandles]
    cases how <;> cases m <;>
      first | exact absurd rfl hab | exact hgone | exact htimer _

lemma Inv.deliver_aborting (hx : (s.band b).Aborting)
    {how : Delivery} (hio : io → s.WithIO (.deliver b i how)) : (s.deliver b i how).Inv io := by
  unfold Scan.deliver
  cases hi : (s.band b).msgs[i]? with
  | none => exact h
  | some m =>
    obtain ⟨rfl, rfl⟩ : i = 0 ∧ m = .abortEnd := by
      rw [hx.msgs] at hi
      cases i with
      | zero => exact ⟨rfl, by simpa using hi.symm⟩
      | succ i => simp at hi
    have hf := frame_erase b s 0
    have hself : (s.modify b fun x => { x with msgs := x.msgs.eraseIdx 0 }).band b =
        { s.band b with msgs := [] } := by
      rw [modify_band_self, hx.msgs]
      rfl
    have hend (noIo : Bool) (hno : io → noIo = true → (s.band b).started = false) :
        ((s.modify b fun x => { x with msgs := x.msgs.eraseIdx 0 }).cmdAbortNotifyCb b noIo).Inv
          io := by
      obtain ⟨he, hb⟩ := cmdAbortNotifyCb_spec hf (h.scanCtrl hu hx.ended) noIo
      rw [hself] at hb
      refine h.ended_idle hu hx.ended he
        (y := { s.band b with msgs := [], dfIo := (s.band b).dfIo || noIo }) ?_ rfl hx.token ?_ hb
      · exact ⟨fun hs => { hx.untouched hs with }, hx.starts, hx.undos⟩
      · intro hi' hd
        exact hno hi' (by simpa [hx.dfIo] using hd)
    dsimp only
    cases how with
    | failed noIo send =>
      apply hend
      rintro hi' rfl
      exact hio hi' .abortEnd hi (by simp [Delivery.cutsOff])
    | cannotIo =>
      apply hend
      intro hi' _
      exact hio hi' .abortEnd hi (by simp [Delivery.cutsOff])
    | handled g => exact hend false (by simp)
    | clrSndr send => exact hend false (by simp)
    | cancelled => exact hend false (by simp)

end

lemma Inv.deliver (h : s.Inv io) {how : Delivery} (hok : s.Safe (.deliver b i how))
    (hio : io → s.WithIO (.deliver b i how)) : (s.deliver b i how).Inv io := by
  have hnone (hmsgs : (s.band b).msgs = []) : (s.deliver b i how).Inv io := by
    unfold Scan.deliver
    rw [hmsgs]
    exact h
  by_cases hu : s.Used b
  · cases h.live b hu with
    | pending hx => exact hnone hx.msgs
    | running hx => exact h.deliver_running hu hx hok hio
    | freed hx => exact h.deliver_freed hu hx how
    | aborting hx => exact h.deliver_aborting hu hx hio
    | done hx => exact hnone hx.msgs
  · exact hnone (h.blank b hu).msgs

end Delivery

/-! ## The other events -/

section

variable (h : s.Inv io)
include h

lemma Inv.modify {f : ScanBand → ScanBand}
    (hended : (f (s.band b)).ended = (s.band b).ended)
    (hlive : (s.band b).Live io → (f (s.band b)).Live io)
    (hblank : (s.band b).Blank → (f (s.band b)).Blank) : (s.modify b f).Inv io := by
  have hf : Frame b s (s.modify b f) := (Frame.refl b s).modify hended
  by_cases hu : s.Used b
  · apply h.frame hf hu
    rw [modify_band_self]
    exact hlive (h.live b hu)
  · apply h.frame_blank hf hu
    rw [modify_band_self]
    exact hblank (h.blank b hu)

lemma used_of_token (ht : (s.band b).token ≠ .idle) : s.Used b := by
  by_contra hu
  exact ht (h.blank b hu).token

lemma Inv.abortPending (hu : s.Used b) (hx : (s.band b).Pending)
    (hf : Frame b s t) (hmsgs : (t.band b).msgs = []) (hacq : (t.band b).acquire = false)
    (hun : (t.band b).Untouched) (r : SendRes) {g : ScanBand → ScanBand}
    (hg : ∀ x, g x = { x with token := .idle, reqCancel := (g x).reqCancel, op := (g x).op }) :
    ((t.cmdAbortNotify b r).modify b g).Inv io := by
  obtain ⟨he, hb⟩ := cmdAbortNotify_pending hf hacq r
  have hgx := hg ((t.cmdAbortNotify b r).band b)
  have hended : (g ((t.cmdAbortNotify b r).band b)).ended =
      ((t.cmdAbortNotify b r).band b).ended := by rw [hgx]
  apply h.ended (he.modify hended) hu hx.ended
  rw [modify_band_self, hgx, hb]
  exact .done ⟨ScanBand.Untouched.released { hun with } rfl, rfl, hmsgs⟩

lemma Inv.grant (late send : Bool) (ht : (s.band b).token = .waiting) :
    (s.phlCmdScanReqAcquired b late send).Inv io := by
  have hu : s.Used b := used_of_token h (by simp [ht])
  cases h.live b hu with
  | pending hx =>
    have hf : Frame b s (s.modify b fun x => { x with token := .granted }) :=
      (Frame.refl b s).modify rfl
    have hself : (s.modify b fun x => { x with token := .granted }).band b =
        { s.band b with token := .granted } := modify_band_self
    unfold phlCmdScanReqAcquired
    dsimp only
    split
    · apply h.abortPending hu hx hf
      · rw [hself]
        exact hx.msgs
      · rw [hself]
        exact hx.acquire
      · rw [hself]
        exact { hx.toUntouched with }
      · exact fun _ => rfl
    · next hgo =>
        have hcan : canSend { s.band b with token := .granted } = true := by
          rw [hself] at hgo
          simp only [Bool.or_eq_true, Bool.not_eq_true', not_or, Bool.not_eq_false] at hgo
          exact (Bool.and_eq_true_iff.1 hgo.2).1
        have hr : (s.band b).reqCancel = false := by
          simp only [canSend, Bool.and_eq_true, Bool.not_eq_true'] at hcan
          exact hcan.2
        apply h.frame (hf.modify rfl) hu
        rw [modify_band_self, hself]
        refine .running ⟨?_, ?_⟩
        · exact {
            untouched := fun _ => { hx.toUntouched with }
            starts := hx.toUntouched.inUse.starts
            undos := hx.undos
            token := rfl
            op := hx.op
            hdl := hx.hdl
            cancelled := by simp [hr]
            acquire := rfl
            dfIo := hx.dfIo
            ended := hx.ended
            noAbort := by simp [hx.msgs]
            early := by simp [hx.msgs]
            once := by simp [hx.msgs, hx.starts] }
        · exact underway_append _ (by simp)
  | running hx => simp [hx.token] at ht
  | freed hx => simp [hx.token] at ht
  | aborting hx => simp [hx.token] at ht
  | done hx => simp [hx.token] at ht

lemma Inv.timer (send : Bool) (ht : (s.band b).timer = true)
    (hok : s.Safe (.timer b send)) :
    ((s.modify b fun x => { x with timer := false }).cmdScanTimer b send).Inv io := by
  have hf : Frame b s (s.modify b fun x => { x with timer := false }) := (Frame.refl b s).modify rfl
  have hself : (s.modify b fun x => { x with timer := false }).band b =
      { s.band b with timer := false } := modify_band_self
  have hu : s.Used b := by
    by_contra hu
    simp [(h.blank b hu).timer] at ht
  have hst (hx : (s.band b).InUse) : (s.band b).started = true := by
    cases hs : (s.band b).started with
    | true => rfl
    | false => simp [(hx.untouched hs).timer] at ht
  cases h.live b hu with
  | pending hx => simp [hx.timer] at ht
  | running hx =>
    have hy := hx.setTimer (hst hx.toInUse) false (s.band b).txPaused (s.band b).backOp
    apply h.cmdScanTimer hu hf
    · rw [hself]
      exact hy
    · rw [hself]
      exact hst hx.toInUse
    · rw [hself]
      exact hok ht
  | freed hx => simp [hx.timer] at ht
  | aborting hx =>
    unfold Scan.cmdScanTimer
    refine h.frame (hf.modify ?_) hu ?_
    · exact disprSendMsg_ended _ _ _
    rw [modify_band_self, hself, disprSendMsg_of_not_canSend]
    · exact .aborting { hx with untouched := by simp [hst hx.toInUse] }
    · simp [canSend, hx.token]
  | done hx => simp [hx.timer] at ht

lemma Inv.abortRunning (hu : s.Used b) (hx : (s.band b).Held) {r : SendRes}
    (hio : io → (s.band b).started = true →
      r ≠ .unexpected ∧ (s.band b).stopped = false ∧ (s.band b).shallStop = false) :
    (s.deregisterCurCmdReq b true r).Inv io ∧
      ((s.band b).stopped = true → ((s.deregisterCurCmdReq b true r).band b).msgs = []) ∧
      ((s.deregisterCurCmdReq b true r).band b).token = .idle := by
  have hf : Frame b s (s.modify b fun x => { x with msgs := [] }) := (Frame.refl b s).modify rfl
  have hself : (s.modify b fun x => { x with msgs := [] }).band b =
      { s.band b with msgs := [] } := modify_band_self
  have hacq : ((s.modify b fun x => { x with msgs := [] }).band b).acquire = true := by
    rw [hself]
    exact hx.acquire
  unfold Scan.deregisterCurCmdReq
  dsimp only
  rw [if_pos rfl]
  rcases cmdAbortNotify_running hf hacq (h.scanCtrl hu hx.ended) r with
    ⟨hf', hb, hst⟩ | ⟨noIo, he, hb, hno⟩
  · rw [hself] at hb hst
    refine ⟨?_, ?_, by simp [pushBackIdleReq]⟩
    · apply h.frame (hf'.modify rfl) hu
      rw [modify_band_self, hb]
      exact .aborting {
        untouched := fun hs => { hx.untouched hs with }
        starts := hx.starts
        undos := hx.undos
        token := rfl
        msgs := rfl
        dfIo := hx.dfIo
        ended := hx.ended }
    · intro hs
      simp [hs] at hst
  · rw [hself] at hb hno
    have hband : ((Scan.cmdAbortNotify (s.modify b fun x => { x with msgs := [] }) b r).modify b
        pushBackIdleReq).band b = ScanBand.cmdScanEnd { s.band b with
          msgs := [], token := .idle, reqCancel := false
          dfIo := (s.band b).dfIo || noIo, ended := true } := by
      rw [modify_band_self, hb, cmdScanEnd_eq, cmdScanEnd_eq]
      rfl
    refine ⟨?_, ?_, by simp [pushBackIdleReq]⟩
    · refine h.ended_idle hu hx.ended (he.modify rfl) (y := { s.band b with
          msgs := [], token := .idle, reqCancel := false
          dfIo := (s.band b).dfIo || noIo }) ?_ rfl rfl ?_ hband
      · exact ⟨fun hs => { hx.untouched hs with }, hx.starts, hx.undos⟩
      · intro hi hd
        have hn : noIo = true := by simpa [hx.dfIo] using hd
        cases hs : (s.band b).started with
        | false => rfl
        | true =>
          obtain ⟨h1, h2, h3⟩ := hio hi hs
          rcases hno hn with h' | h' | h'
          · exact absurd h' h1
          · simp [h2] at h'
          · simp [h3] at h'
    · intro _
      rw [hband, cmdScanEnd_eq]

lemma Inv.clearOp (hx : s.Used b → (s.band b).token = .idle) :
    (s.modify b fun x => { x with op := none }).Inv io := by
  have hf : Frame b s (s.modify b fun x => { x with op := none }) := (Frame.refl b s).modify rfl
  by_cases hu : s.Used b
  · have ht := hx hu
    apply h.frame hf hu
    rw [modify_band_self]
    cases h.live b hu with
    | pending hx => simp [hx.token] at ht
    | running hx => simp [hx.token] at ht
    | freed hx => simp [hx.token] at ht
    | aborting hx => exact .aborting { hx with untouched := fun hs => { hx.untouched hs with } }
    | done hx => exact .done { hx with }
  · apply h.frame_blank hf hu
    rw [modify_band_self]
    exact { h.blank b hu with op := rfl }

lemma Inv.tokenOp (r : SendRes) (hrun : (s.band b).stopped = false)
    (hio : io → s.WithIO (.tokenOp b r)) : (s.handleTokenOpInfo b r).Inv io := by
  have hself : s.modify b (fun x => { x with op := (s.band b).op }) = s := by
    simp [Scan.modify]
  unfold Scan.handleTokenOpInfo
  cases hop : (s.band b).op with
  | none =>
    dsimp only
    rw [hop] at hself
    rw [hself]
    exact h
  | some op =>
    have hu : s.Used b := by
      by_contra hu
      simp [(h.blank b hu).op] at hop
    cases op with
    | free =>
      dsimp only
      cases h.live b hu with
      | pending hx => exact absurd hop hx.op
      | running hx => exact absurd hop hx.op
      | freed hx =>
        rw [if_pos hx.token]
        have hderegister : s.deregisterCurCmdReq b false r =
            (s.modify b fun x => { x with msgs := [] }).modify b pushBackIdleReq :=
          rfl
        have hf : Frame b s (s.modify b fun x => { x with msgs := [] }) :=
          (Frame.refl b s).modify rfl
        rw [hderegister]
        refine h.frame ((hf.modify ?_).modify ?_) hu ?_
        · rfl
        · rfl
        rw [modify_band_self, modify_band_self, modify_band_self]
        exact .done { hx with token := rfl, msgs := rfl }
      | aborting hx =>
        rw [if_neg (by simp [hx.token])]
        exact h.clearOp fun _ => hx.token
      | done hx =>
        rw [if_neg (by simp [hx.token])]
        exact h.clearOp fun _ => hx.token
    | cancel =>
      dsimp only
      cases h.live b hu with
      | pending hx =>
        rw [hx.token]
        have hmm (u : Scan) : (u.modify b pushBackIdleReq).modify b
            (fun x => { x with op := none }) =
            u.modify b fun x => { x with token := .idle, reqCancel := false, op := none } := by
          simp [Scan.modify, pushBackIdleReq]
        rw [hmm]
        exact h.abortPending hu hx (.refl b s) hx.msgs hx.acquire hx.toUntouched r
          fun _ => rfl
      | running hx =>
        rw [hx.token]
        obtain ⟨hinv, -, htoken⟩ := h.abortRunning hu hx.toHeld (r := r) fun hi hs => by
          obtain ⟨hr, hsh⟩ := hio hi hop hx.token hs
          exact ⟨hr, hrun, hsh⟩
        exact hinv.clearOp fun _ => htoken
      | freed hx => simp [hx.op] at hop
      | aborting hx =>
        rw [hx.token]
        exact h.clearOp fun _ => hx.token
      | done hx =>
        rw [hx.token]
        exact h.clearOp fun _ => hx.token

lemma Inv.cancel : s.rtwPhlCmdScanCancel.Inv io := by
  have hcancel (u : Scan) (b : HwBand) (hu : u.Inv io) :
      (u.modify b disprCancelTokenReq).Inv io := by
    apply hu.modify
    · rfl
    · intro hl
      unfold disprCancelTokenReq
      -- a request with a token has a handle or is on its way out
      have hop (hor : (u.band b).hdl = true ∨ (u.band b).op.isSome = true ∨
            (u.band b).stopped = true) (ht : (u.band b).token ≠ .idle) :
          (u.band b).stopped = true ∨ (if (!(u.band b).stopped && (u.band b).hdl &&
            decide ((u.band b).token ≠ .idle) && (u.band b).op.isNone) = true then some .cancel
            else (u.band b).op).isSome = true := by
        rcases hor with hh | hh | hh
        · cases hs : (u.band b).stopped with
          | true => exact Or.inl rfl
          | false => cases ho : (u.band b).op <;> simp [hh, ht]
        · refine Or.inr ?_
          split
          · rfl
          · exact hh
        · exact Or.inl hh
      cases hl with
      | pending hx =>
        have hor := hop hx.hdl (by simp [hx.token])
        refine .pending { hx with op := ?_, hdl := Or.inr hor.symm }
        dsimp only
        split
        · simp
        · exact hx.op
      | running hx =>
        have hor := hop hx.hdl (by simp [hx.token])
        refine .running ⟨{ hx with
          op := ?_
          hdl := Or.inr hor.symm
          cancelled := fun _ => hor.symm
          untouched := fun hs => { hx.untouched hs with } }, ?_⟩
        · dsimp only
          split
          · simp
          · exact hx.op
        · rcases hor with hor | hor
          · simp [underway, hor]
          · unfold underway
            dsimp only
            rw [hor]
            simp
      | freed hx => exact .freed { hx with op := by simp [hx.op] }
      | aborting hx => exact .aborting { hx with untouched := fun hs => { hx.untouched hs with } }
      | done hx => exact .done { hx with }
    · intro hx
      exact { hx with op := by simp [disprCancelTokenReq, hx.token, hx.op] }
  unfold Scan.rtwPhlCmdScanCancel
  dsimp only
  have h₁ : (if 0 < s.sctrlNum then s.modify s.first disprCancelTokenReq else s).Inv io := by
    split
    · exact hcancel s s.first h
    · exact h
  generalize (if 0 < s.sctrlNum then s.modify s.first disprCancelTokenReq else s) = u at h₁
  split
  · exact hcancel u u.second h₁
  · exact h₁

lemma Inv.shallStop :
    (s.modify b fun x => { x with shallStop := true }).Inv io := by
  apply h.modify
  · rfl
  · intro hl
    cases hl with
    | pending hx => exact .pending { hx with }
    | running hx =>
      exact .running ⟨{ hx with untouched := fun hs => { hx.untouched hs with } },
        by simp [underway]⟩
    | freed hx => exact .freed { hx with }
    | aborting hx => exact .aborting { hx with untouched := fun hs => { hx.untouched hs with } }
    | done hx => exact .done { hx with }
  · intro hx
    exact { hx with }

lemma Inv.stop : (s.threadStopPriorHdl b).Inv io := by
  unfold Scan.threadStopPriorHdl
  apply h.modify
  · split <;> rfl
  · intro hl
    split
    · exact hl
    · cases hl with
      | pending hx => exact .pending { hx with hdl := Or.inr (Or.inr rfl) }
      | running hx =>
        exact .running ⟨{ hx with
            hdl := Or.inr (Or.inr rfl)
            cancelled := fun _ => Or.inr rfl
            untouched := fun hs => { hx.untouched hs with } },
          by simp [underway]⟩
      | freed hx => exact .freed { hx with reqCancel := by simp [hx.reqCancel] }
      | aborting hx => exact .aborting { hx with untouched := fun hs => { hx.untouched hs with } }
      | done hx => exact .done { hx with }
  · intro hx
    split
    · exact hx
    · exact { hx with }

end

lemma clearWaitingMsg_of_nil (hmsgs : (s.band b).msgs = []) : s.clearWaitingMsg b = s := by
  have hsame : s.modify b (fun x => { x with msgs := [] }) = s := by
    unfold Scan.modify
    rw [← hmsgs]
    simp
  unfold clearWaitingMsg
  dsimp only
  rw [hmsgs, if_neg (by simp), hsame]

lemma clearWaitingReq_of_idle (ht : (s.band b).token = .idle) : s.clearWaitingReq b = s := by
  unfold clearWaitingReq
  rw [if_neg (by simp [ht])]

lemma Inv.leave (h : s.Inv io) (hst : (s.band b).stopped = true) (hok : s.Safe (.leave b))
    (hio : io → s.WithIO (.leave b)) : (s.threadLeaveHdl b).Inv io := by
  -- nothing is left of the request on the band
  have hrest (u : Scan) (hu : u.Inv io) (hmsgs : (u.band b).msgs = [])
      (ht : (u.band b).token = .idle) :
      (((u.clearWaitingMsg b).clearWaitingReq b).modify b fun x => { x with op := none }).Inv io := by
    rw [clearWaitingMsg_of_nil hmsgs, clearWaitingReq_of_idle ht]
    exact hu.clearOp fun _ => ht
  unfold Scan.threadLeaveHdl
  dsimp only
  by_cases hu : s.Used b
  · cases h.live b hu with
    | pending hx =>
      have hinv := h.abortPending hu hx (.refl b s) hx.msgs hx.acquire hx.toUntouched .unexpected
        (g := pushBackIdleReq) fun _ => rfl
      rw [if_neg (by simp [hx.token]), clearWaitingMsg_of_nil hx.msgs, clearWaitingReq,
        if_pos hx.token]
      apply hinv.clearOp
      intro _
      simp [pushBackIdleReq]
    | running hx =>
      obtain ⟨hinv, hmsgs, htoken⟩ := h.abortRunning hu hx.toHeld (r := .unexpected)
        fun hi hs => by simp [hio hi hx.token] at hs
      rw [if_pos hx.token]
      exact hrest _ hinv (hmsgs hst) htoken
    | freed hx => exact absurd hx.op (hok hx.token)
    | aborting hx =>
      have hf : Frame b s (s.modify b fun x => { x with msgs := [] }) :=
        (Frame.refl b s).modify rfl
      obtain ⟨he, hb⟩ := cmdAbortNotifyCb_spec hf (h.scanCtrl hu hx.ended) false
      rw [modify_band_self] at hb
      have hinv := h.ended_idle hu hx.ended he
        (y := { s.band b with msgs := [], dfIo := (s.band b).dfIo || false })
        ⟨fun hs => { hx.untouched hs with }, hx.starts, hx.undos⟩ rfl hx.token
        (fun _ hd => by simp [hx.dfIo] at hd) hb
      have htoken : ((Scan.cmdAbortNotifyCb (s.modify b fun x => { x with msgs := [] }) b
          false).band b).token = .idle := by
        rw [hb, cmdScanEnd_eq]
        exact hx.token
      have hclear : s.clearWaitingMsg b =
          Scan.cmdAbortNotifyCb (s.modify b fun x => { x with msgs := [] }) b false := by
        unfold clearWaitingMsg
        dsimp only
        rw [hx.msgs, if_pos (by simp)]
      rw [if_neg (by simp [hx.token]), hclear, clearWaitingReq_of_idle htoken]
      exact hinv.clearOp fun _ => htoken
    | done hx =>
      rw [if_neg (by simp [hx.token])]
      exact hrest s h hx.msgs hx.token
  · have hx := h.blank b hu
    rw [if_neg (by simp [hx.token])]
    exact hrest s h hx.msgs hx.token

/-! ## The request -/

lemma Inv.request (h : s.Inv io) (hidle : s.submit = .idle) (ok : Bool) :
    (s.scanReqInit ok).Inv io := by
  have hblank (b : HwBand) : (s.band b).Blank := h.blank b (by simp [Used, hidle])
  have hcall : s.callbacks = 0 ∧ s.sctrlNum = s.opened :=
    h.unfinished (by simp [Finished, hidle])
  unfold scanReqInit
  cases ok with
  | true =>
    refine ⟨by simp [Used], fun b _ => hblank b, by simp, by simp [Finished], fun _ => ?_⟩
    exact ⟨hcall.1, rfl⟩
  | false =>
    refine ⟨by simp [Used], fun b _ => hblank b, by simp, by simp [Finished], fun _ => ?_⟩
    exact ⟨hcall.1, by simpa [opened, hidle] using hcall.2⟩

variable {x : ScanBand}

lemma pending_of_blank (h : x.Blank) :
    ScanBand.Pending { x with token := .waiting, hdl := true } :=
  { h with token := rfl, op := by simp [h.op], hdl := Or.inl rfl }

lemma done_of_blank (h : x.Blank) :
    ScanBand.Done io { x with ended := true } :=
  ⟨ScanBand.Untouched.released { h.toUntouched with } rfl, h.token, h.msgs⟩

lemma Inv.submitFirst (h : s.Inv io) (hsub : s.submit = .first) {f : ScanBand → ScanBand}
    (hx : (f (s.band s.first)).Live io)
    (hend : s.twoBands = true ∨ (f (s.band s.first)).ended = false) :
    Inv io { s.modify s.first f with
      submit := if 1 < s.sctrlNum then .second else .accepted } := by
  have hblank (b : HwBand) : (s.band b).Blank := h.blank b (by simp [Used, hsub])
  obtain ⟨hcall, hnum⟩ := h.unfinished (by simp [Finished, hsub])
  have hnum : s.sctrlNum = s.num := by simpa [opened, hsub] using hnum
  have hband (c : HwBand) (hc : c ≠ s.first) : (s.modify s.first f).band c = s.band c :=
    modify_band_of_ne hc
  have hfirst : (s.modify s.first f).band s.first = f (s.band s.first) := modify_band_self
  cases htwo : s.twoBands with
  | true =>
    rw [if_pos (by simp [hnum, num, htwo])]
    refine ⟨?_, ?_, fun _ => htwo, by simp [Finished], fun _ => ⟨hcall, hnum⟩⟩
    · rintro b rfl
      exact hfirst ▸ hx
    · intro b hb
      have hb : b ≠ s.first := hb
      dsimp only
      rw [hband b hb]
      exact hblank b
  | false =>
    rw [if_neg (by simp [hnum, num, htwo])]
    have hused (b : HwBand) : Used { s.modify s.first f with submit := .accepted } b ↔
        b = s.first := by
      simp [Used, Scan.modify, htwo]
    refine ⟨?_, ?_, by simp, ?_, fun _ => ⟨hcall, hnum⟩⟩
    · intro b hb
      obtain rfl := (hused b).1 hb
      exact hfirst ▸ hx
    · intro b hb
      have hb : b ≠ s.first := mt (hused b).2 hb
      dsimp only
      rw [hband b hb]
      exact hblank b
    · intro hfin
      have hended := hfin.2 s.first ((hused _).2 rfl)
      dsimp only at hended
      rw [hfirst] at hended
      simp [htwo, hended] at hend

lemma Inv.submitSecond (h : s.Inv io) (hsub : s.submit = .second) {f : ScanBand → ScanBand}
    (hx : (f (s.band s.second)).Live io)
    (hend : (f (s.band s.second)).ended = false ∨ (s.band s.first).ended = false) :
    Inv io { s.modify s.second f with submit := .accepted } := by
  have htwo := h.second hsub
  obtain ⟨hcall, hnum⟩ := h.unfinished (by simp [Finished, hsub])
  have hnum : s.sctrlNum = s.num := by simpa [opened, hsub] using hnum
  have hfirst : (s.modify s.second f).band s.first = s.band s.first :=
    modify_band_of_ne s.second_ne_first.symm
  have hsecond : (s.modify s.second f).band s.second = f (s.band s.second) := modify_band_self
  have hused (b : HwBand) : Used { s.modify s.second f with submit := .accepted } b := by
    simp [Used, Scan.modify, htwo]
  refine ⟨?_, fun b hb => absurd (hused b) hb, by simp, ?_, fun _ => ⟨hcall, hnum⟩⟩
  · intro b _
    rcases s.eq_first_or_second b with rfl | rfl
    · dsimp only
      rw [hfirst]
      exact h.live _ (by simp [Used, hsub])
    · dsimp only
      rw [hsecond]
      exact hx
  · intro hfin
    have h₁ := hfin.2 s.first (hused _)
    have h₂ := hfin.2 s.second (hused _)
    dsimp only at h₁ h₂
    rw [hfirst] at h₁
    rw [hsecond] at h₂
    simp [h₁, h₂] at hend

lemma Inv.submit (h : s.Inv io) (add : Bool) (hok : s.Safe (.submit add)) :
    (s.scanReqSubmit add).Inv io := by
  unfold scanReqSubmit
  unfold Safe at hok
  cases hsub : s.submit with
  | idle => exact h
  | first =>
    rw [hsub] at hok
    have hblank (b : HwBand) : (s.band b).Blank := h.blank b (by simp [Used, hsub])
    obtain ⟨hcall, -⟩ := h.unfinished (by simp [Finished, hsub])
    dsimp only
    split
    · refine ⟨by simp [Used], fun b _ => hblank b, by simp, by simp [Finished], fun _ => ?_⟩
      exact ⟨hcall, rfl⟩
    · split
      · have hpending := pending_of_blank (hblank s.first)
        exact h.submitFirst hsub (f := fun x => { x with token := .waiting, hdl := true })
          (.pending hpending) (Or.inr hpending.ended)
      · next hno =>
          exact h.submitFirst hsub (f := fun x => { x with ended := true })
            (.done (done_of_blank (hblank s.first)))
            (Or.inl (hok.resolve_right hno))
  | second =>
    rw [hsub] at hok
    have hblank : (s.band s.second).Blank :=
      h.blank s.second (by simpa [Used, hsub] using s.second_ne_first)
    dsimp only
    split
    · have hpending := pending_of_blank hblank
      exact h.submitSecond hsub (f := fun x => { x with token := .waiting, hdl := true })
        (.pending hpending) (Or.inl hpending.ended)
    · next hno =>
        exact h.submitSecond hsub (f := fun x => { x with ended := true })
          (.done (done_of_blank hblank)) (Or.inr (hok.resolve_left hno))
  | accepted => exact h
  | refused => exact h

/-! ## Every event, every run -/

lemma Inv.step (h : s.Inv io) (e : Event) (hok : s.Safe e) (hio : io → s.WithIO e) :
    (s.step e).Inv io := by
  cases e with
  | request ok =>
    unfold Scan.step
    dsimp only
    split
    · next hidle => exact h.request hidle ok
    · exact h
  | submit add => exact h.submit add hok
  | cancel => exact h.cancel
  | grant b late send =>
    unfold Scan.step
    dsimp only
    split
    · next ht => exact h.grant late send ht.1
    · exact h
  | deliver b i how => exact h.deliver hok hio
  | timer b send =>
    unfold Scan.step
    dsimp only
    split
    · next ht => exact h.timer send ht hok
    · exact h
  | tokenOp b r =>
    unfold Scan.step
    dsimp only
    split
    · exact h
    · next hrun => exact h.tokenOp r (by simpa using hrun) hio
  | shallStop b => exact h.shallStop
  | stop b => exact h.stop
  | leave b =>
    unfold Scan.step
    dsimp only
    split
    · next hst => exact h.leave hst hok hio
    · exact h

lemma inv_init (first : HwBand) (twoBands : Bool) (hasChannels : HwBand → Bool) :
    (init first twoBands hasChannels).Inv io := by
  refine ⟨by simp [Used, init], fun b _ => ?_, by simp [init], by simp [Finished, init], ?_⟩
  · exact ⟨⟨rfl, rfl, rfl, rfl, rfl, rfl⟩, rfl, rfl, rfl, rfl, rfl, rfl⟩
  · exact fun _ => ⟨rfl, rfl⟩

def Quiet (s : Scan) : Prop :=
  ∀ b, (s.band b).token ≠ .waiting ∧ (s.band b).op = none ∧ (s.band b).msgs = [] ∧
    (s.band b).timer = false ∧
    ((s.band b).token = .granted → (s.band b).stopped = false ∧ (s.band b).shallStop = false)

structure Lifecycle (s : Scan) : Prop where
  once : s.callbacks ≤ 1
  after : s.callbacks = 1 → s.submit = .accepted ∧ ∀ b, s.Used b → (s.band b).ended = true
  called : s.submit = .accepted → s.Quiet → s.callbacks = 1
  refused : s.submit = .refused → s.callbacks = 0 ∧ ∀ b, (s.band b).token = .idle
  undone : ∀ b, (s.band b).starts ≤ 1 ∧
    (s.band b).undos = if (s.band b).ended then (s.band b).starts else 0
  txResumed : ∀ b, (s.band b).ended = true → (s.band b).txPaused = false

def RxRestored (s : Scan) : Prop :=
  ∀ b, (s.band b).ended = true → (s.band b).rxScan = false

lemma Inv.released (h : s.Inv io) (b : HwBand) :
    ((s.band b).ended = true → (s.band b).Released io) ∧
      ((s.band b).ended = false → (s.band b).starts ≤ 1 ∧ (s.band b).undos = 0) := by
  by_cases hu : s.Used b
  · cases h.live b hu with
    | pending hx => simp [hx.ended, hx.starts, hx.undos]
    | running hx => simp [hx.ended, hx.toInUse.starts_le, hx.undos]
    | freed hx => simp [hx.ended, hx.toReleased]
    | aborting hx => simp [hx.ended, hx.toInUse.starts_le, hx.undos]
    | done hx => simp [hx.ended, hx.toReleased]
  · have hx := h.blank b hu
    simp [hx.ended, hx.starts, hx.undos]

lemma Inv.ended_of_quiet (h : s.Inv io) (hq : s.Quiet) {b : HwBand} (hu : s.Used b) :
    (s.band b).ended = true := by
  obtain ⟨htoken, hop, hmsgs, htimer, hstop⟩ := hq b
  cases h.live b hu with
  | pending hx => exact absurd hx.token htoken
  | running hx =>
    obtain ⟨h₁, h₂⟩ := hstop hx.token
    have := hx.underway
    simp [underway, hop, hmsgs, htimer, h₁, h₂] at this
  | freed hx => exact hx.ended
  | aborting hx => simp [hx.msgs] at hmsgs
  | done hx => exact hx.ended

lemma Inv.lifecycle (h : s.Inv io) : s.Lifecycle where
  once := by
    by_cases hf : s.Finished
    · exact (h.finished hf).1.le
    · simp [(h.unfinished hf).1]
  after hc := by
    by_cases hf : s.Finished
    · exact hf
    · simp [(h.unfinished hf).1] at hc
  called hacc hq := (h.finished ⟨hacc, fun _ hu => h.ended_of_quiet hq hu⟩).1
  refused hr := by
    have hf : ¬ s.Finished := by simp [Finished, hr]
    exact ⟨(h.unfinished hf).1, fun b => (h.blank b (by simp [Used, hr])).token⟩
  undone b := by
    obtain ⟨hend, hnot⟩ := h.released b
    cases he : (s.band b).ended with
    | true =>
      have hx := hend he
      exact ⟨hx.starts, by simp [hx.undos]⟩
    | false => simpa using hnot he
  txResumed b he := ((h.released b).1 he).txPaused

/-- Over every run of a request on one or two bands whose steps are safe: the
callback comes at most once and after the end of every band used, and it has come
when nothing is left to happen; what was set on a band is undone once; a refused
request leaves nothing behind.  If moreover no scan that has started is ended
without IO, the RX filter is restored as well. -/
theorem scan_lifecycle (first : HwBand) (twoBands : Bool) (hasChannels : HwBand → Bool)
    (es : List Event) (h : Guarded step Safe (init first twoBands hasChannels) es) :
    (run step (init first twoBands hasChannels) es).Lifecycle ∧
      (Guarded step WithIO (init first twoBands hasChannels) es →
        (run step (init first twoBands hasChannels) es).RxRestored) := by
  constructor
  · have hinv : (run step (init first twoBands hasChannels) es).Inv False :=
      h.invariant (fun _ e hs hok => hs.step e hok False.elim) (inv_init _ _ _)
    exact hinv.lifecycle
  · intro hio b he
    have hinv : (run step (init first twoBands hasChannels) es).Inv True :=
      (h.and hio).invariant (fun _ e hs hok => hs.step e hok.1 fun _ => hok.2) (inv_init _ _ _)
    exact ((hinv.released b).1 he).rxScan trivial

/-- A scan on two bands: one runs out of channels, the other is cancelled. -/
theorem scan_lifecycle_run :
    ∃ es : List Event, (run step (init .band0 true fun _ => true) es).Lifecycle ∧
      (run step (init .band0 true fun _ => true) es).RxRestored ∧
      (run step (init .band0 true fun _ => true) es).callbacks = 1 ∧
      ∀ b, ((run step (init .band0 true fun _ => true) es).band b).undos = 1 := by
  let es : List Event := [.request true, .submit true, .submit true,
    .grant .band0 false true, .grant .band1 false true,
    .deliver .band0 0 (.handled {}), .deliver .band1 0 (.handled {}),
    .deliver .band0 0 (.handled { next := some false }), .deliver .band0 0 (.handled {}),
    .timer .band0 true, .deliver .band0 0 (.handled {}), .deliver .band0 0 (.handled {}),
    .deliver .band0 0 (.handled {}), .tokenOp .band0 .success,
    .cancel, .tokenOp .band1 .success, .deliver .band1 0 (.handled {})]
  have h : Guarded step Safe (init .band0 true fun _ => true) es := by
    refine ⟨?_, ?_, ?_, ?_, ?_, ?_, ?_, ?_, ?_, ?_, ?_, ?_, ?_, ?_, ?_, ?_, ?_, trivial⟩ <;> decide
  have hio : Guarded step WithIO (init .band0 true fun _ => true) es := by
    refine ⟨?_, ?_, ?_, ?_, ?_, ?_, ?_, ?_, ?_, ?_, ?_, ?_, ?_, ?_, ?_, ?_, ?_, trivial⟩ <;> decide
  obtain ⟨hl, hrx⟩ := scan_lifecycle .band0 true (fun _ => true) es h
  refine ⟨es, hl, hrx hio, by decide, ?_⟩
  rintro (_ | _) <;> decide

/-- The dispatcher stops after the scan has ended and before its token is given
back: the scan is aborted once more, and the caller is called twice. -/
theorem scan_complete_called_twice :
    ¬ ∀ (first : HwBand) (twoBands : Bool) (hasChannels : HwBand → Bool) (es : List Event),
      (run step (init first twoBands hasChannels) es).Lifecycle := by
  intro h
  have honce := (h .band0 false (fun _ => true) [.request true, .submit true,
    .grant .band0 false true, .deliver .band0 0 (.handled {}), .deliver .band0 0 (.handled {}),
    .deliver .band0 0 (.handled {}), .stop .band0, .leave .band0]).once
  revert honce
  decide

end Scan
end Rtl8831.Phl
