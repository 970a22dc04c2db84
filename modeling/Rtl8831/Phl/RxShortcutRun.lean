import Rtl8831.Phl.RxShortcutParse

/-!
# When the short cut changes nothing

Without the short cut a transfer is parsed from its bytes alone, and a packet is reordered
by its own session.  With it this is so as long as the entry does no harm to the descriptors
parsed, and a packet handled while there is an entry is the next one of the session the
entry points to.  Nothing in the driver sees to either: the entry is not told which packets
were parsed under it, nor when its session is replaced.
-/

namespace Rtl8831.Phl.RxShortcut

open Lib
open RxWd
open RxDeagg (phlGetSingleRx Walk Piece turn walk toU32 toS32)

def on (b : Build) : Build := { b with rxscAmpdu := true }

def off (b : Build) : Build := { b with rxscAmpdu := false }

def PlainWalk (b : Build) (mem : ℕ → UInt8) (query : ℕ → Option RxWd.RxPkt) :
    ℕ → ℕ → Walk → Prop
  | 0, _, _ => True
  | fuel + 1, i, s =>
    ((query i).isSome → Plain s.rxscEntry mem s.pktBuf (toU32 s.transferLen)) ∧
      ((turn (on b) mem (query i) s).2 = true →
        PlainWalk b mem query fuel (i + 1) (turn (on b) mem (query i) s).1)

def decidablePlainWalk (b : Build) (mem : ℕ → UInt8) (query : ℕ → Option RxWd.RxPkt) :
    ∀ fuel i s, Decidable (PlainWalk b mem query fuel i s)
  | 0, _, _ => isTrue trivial
  | fuel + 1, i, s =>
    have := decidablePlainWalk b mem query fuel (i + 1) (turn (on b) mem (query i) s).1
    inferInstanceAs (Decidable ((_ → _) ∧ (_ → _)))

instance (b : Build) (mem : ℕ → UInt8) (query : ℕ → Option RxWd.RxPkt) (fuel i : ℕ) (s : Walk) :
    Decidable (PlainWalk b mem query fuel i s) := decidablePlainWalk b mem query fuel i s

def PlainTransfer (b : Build) (t : Transfer) (e : RxscEntry) : Prop :=
  PlainWalk b t.mem t.query (t.len.toNat + 1) 0
    { rxscEntry := e, pktBuf := 0, transferLen := toS32 t.len.toNat, rxList := [],
      pstatus := .failure }

def Same (s s' : Walk) : Prop := s' = { s with rxscEntry := s'.rxscEntry }

lemma Same.refl (s : Walk) : Same s s := rfl

section Walk

variable {b b' : Build} {mem : ℕ → UInt8} {s s' : Walk} {query : ℕ → Option RxWd.RxPkt}

lemma turn_same {q : Option RxWd.RxPkt} (hb : off b = off b') (h : Same s s')
    (hrx : ∀ rx, q = some rx →
      (halHandleRxBuffer b mem s.rxscEntry s.pktBuf (toU32 s.transferLen) rx).2 =
        (halHandleRxBuffer b' mem s'.rxscEntry s.pktBuf (toU32 s.transferLen) rx).2) :
    Same (turn b mem q s).1 (turn b' mem q s').1 ∧ (turn b mem q s).2 = (turn b' mem q s').2 := by
  rw [Same] at h
  rw [h]
  cases q with
  | none => exact ⟨rfl, rfl⟩
  | some rx =>
    have heq := hrx rx rfl
    rw [RxDeagg.turn_some, RxDeagg.turn_some]
    dsimp only
    rcases hres : halHandleRxBuffer b mem s.rxscEntry s.pktBuf (toU32 s.transferLen) rx
      with ⟨e, out⟩
    rcases hres' : halHandleRxBuffer b' mem s'.rxscEntry s.pktBuf (toU32 s.transferLen) rx
      with ⟨e', out'⟩
    rw [hres, hres'] at heq
    obtain rfl : out = out' := heq
    cases out with
    | none => exact ⟨rfl, rfl⟩
    | some pkt =>
      have halign : RxDeagg.alignOffset b s.pktBuf pkt = RxDeagg.alignOffset b' s.pktBuf pkt := by
        have hagg : (off b).usbRxAggregation = (off b').usbRxAggregation := by rw [hb]
        have hcsum : (off b).csumOffloadRx = (off b').csumOffloadRx := by rw [hb]
        change b.usbRxAggregation = b'.usbRxAggregation at hagg
        change b.csumOffloadRx = b'.csumOffloadRx at hcsum
        rw [RxDeagg.alignOffset, RxDeagg.alignOffset, hagg, hcsum]
      dsimp only
      rw [halign]
      exact ⟨rfl, rfl⟩

lemma walk_cons (b : Build) (mem : ℕ → UInt8) (query : ℕ → Option RxWd.RxPkt) (fuel i : ℕ)
    (s : Walk) : walk b mem query (fuel + 1) i s =
      if (turn b mem (query i) s).2 then walk b mem query fuel (i + 1) (turn b mem (query i) s).1
      else some (turn b mem (query i) s).1 := by
  rw [walk]
  rcases turn b mem (query i) s with ⟨s', more⟩
  cases more <;> rfl

def found (s : Option Walk) : Option (List Piece) := s.map Walk.rxList

lemma walk_plain (hclear : ∀ i rx, query i = some rx → rx.mdata = .cleared) {fuel i : ℕ}
    (h : Same s s') (hplain : PlainWalk b mem query fuel i s) :
    found (walk (on b) mem query fuel i s) = found (walk (off b) mem query fuel i s') := by
  induction fuel generalizing i s s' with
  | zero => rfl
  | succ fuel ih =>
    obtain ⟨hhere, hrest⟩ := hplain
    obtain ⟨hsame, hmore⟩ := @turn_same (on b) (off b) mem s s' (query i) rfl h fun rx hq =>
      (halHandleRxBuffer_eq_iff b (hclear i rx hq) s'.rxscEntry).2
        (hhere (Option.isSome_iff_exists.2 ⟨rx, hq⟩))
    rw [walk_cons, walk_cons, ← hmore]
    split_ifs with hturn
    · exact ih hsame (hrest hturn)
    · rw [Same] at hsame
      rw [hsame]
      rfl

lemma walk_off {fuel i : ℕ} (h : Same s s') :
    found (walk (off b) mem query fuel i s) = found (walk (off b) mem query fuel i s') := by
  induction fuel generalizing i s s' with
  | zero => rfl
  | succ fuel ih =>
    obtain ⟨hsame, hmore⟩ := @turn_same (off b) (off b) mem s s' (query i) rfl h fun rx hq => by
      rw [halHandleRxBuffer_snd, halHandleRxBuffer_snd]
      dsimp only [off]
      rw [halParsingRxWdDesc_off, halParsingRxWdDesc_off]
      split_ifs <;> rfl
    rw [walk_cons, walk_cons, ← hmore]
    split_ifs with hturn
    · exact ih hsame
    · rw [Same] at hsame
      rw [hsame]
      rfl

end Walk

lemma query_cleared (t : Transfer) (i : ℕ) (rx : RxWd.RxPkt) (h : t.query i = some rx) :
    rx.mdata = .cleared := by
  rw [Transfer.query] at h
  split_ifs at h
  rw [← Option.some.inj h]

structure NextInOrder {n : ℕ} [NeZero n] (r : TidAmpduRx n) (pkt : RxPkt) : Prop where
  started : r.started = true
  awake : r.sleep = false
  head : (pkt.seq : ℕ) = r.headSeqNum
  empty : r.storedMpduNum = 0
  window : seqLess pkt.seq ((r.headSeqNum + n) % 65536) = true
  slot : r.reorderBuf (reorderIndex pkt.seq) = none

instance {n : ℕ} [NeZero n] (r : TidAmpduRx n) (pkt : RxPkt) : Decidable (NextInOrder r pkt) :=
  decidable_of_iff (r.started = true ∧ r.sleep = false ∧ (pkt.seq : ℕ) = r.headSeqNum ∧
      r.storedMpduNum = 0 ∧ seqLess pkt.seq ((r.headSeqNum + n) % 65536) = true ∧
      r.reorderBuf (reorderIndex pkt.seq) = none)
    ⟨fun ⟨h₁, h₂, h₃, h₄, h₅, h₆⟩ => ⟨h₁, h₂, h₃, h₄, h₅, h₆⟩,
      fun ⟨h₁, h₂, h₃, h₄, h₅, h₆⟩ => ⟨h₁, h₂, h₃, h₄, h₅, h₆⟩⟩

lemma seqLess_self (a : ℕ) : seqLess a a = false := by
  unfold seqLess seqSub
  simp

lemma manageStaReorderBuf_next {n : ℕ} [NeZero n] {r : TidAmpduRx n} {pkt : RxPkt}
    (h : NextInOrder r pkt) (storeTime curTime : ℕ) :
    manageStaReorderBuf r pkt storeTime curTime =
      (false, { r with headSeqNum := seqInc r.headSeqNum }, { frames := [] }) := by
  have hstarted : { r with started := true } = r := by rw [← h.started]
  have hwake : wakeUp r pkt.seq = r := if_neg (by rw [h.awake]; exact Bool.false_ne_true)
  have hroom : makeRoom r pkt.seq = (r, []) := by
    rw [makeRoom, h.window]
    exact if_neg Bool.false_ne_true
  have hnew : (!r.started && seqLess pkt.seq r.headSeqNum) = false := by
    rw [h.started]
    rfl
  have hless : seqLess pkt.seq r.headSeqNum = false := by
    rw [h.head]
    exact seqLess_self _
  rw [manageStaReorderBuf, hnew, if_neg Bool.false_ne_true]
  dsimp only
  rw [hstarted, hwake, hless, if_neg Bool.false_ne_true, placeMpdu]
  dsimp only
  rw [hroom]
  dsimp only
  rw [h.slot, Option.isSome_none, if_neg Bool.false_ne_true, if_pos ⟨h.head, h.empty⟩]

structure Continues (com : PhlCom) (w : World) (pkt : RxPkt) (ref : SessionRef) : Prop where
  macid : ref.macid = pkt.macid
  live : w.gen ref.macid ref.tid = ref.gen
  tid : reorderTid com (staOf w pkt.macid) pkt = some ref.tid
  next : ∃ s ∈ w.sessions ref.macid ref.tid, NextInOrder s.rx pkt

instance (com : PhlCom) (w : World) (pkt : RxPkt) (ref : SessionRef) :
    Decidable (Continues com w pkt ref) :=
  decidable_of_iff (ref.macid = pkt.macid ∧ w.gen ref.macid ref.tid = ref.gen ∧
      reorderTid com (staOf w pkt.macid) pkt = some ref.tid ∧
      ∃ s ∈ w.sessions ref.macid ref.tid, NextInOrder s.rx pkt)
    ⟨fun ⟨h₁, h₂, h₃, h₄⟩ => ⟨h₁, h₂, h₃, h₄⟩, fun ⟨h₁, h₂, h₃, h₄⟩ => ⟨h₁, h₂, h₃, h₄⟩⟩

/-- The entry does no harm to a packet that is handled: the step does not get to it, there is
no entry, or no session in it, or the packet continues that session. -/
def PlainHandle (com : PhlCom) (w : World) (rx : RxWd.RxPkt) : Prop :=
  com.sniffer = true ∨ w.rxscEntry.cachedRxMacid = phlMacidMaxNum ∨
    ∀ pkt ∈ removeFcs com (toMpdu w.handled rx), ∀ ref ∈ w.rxscEntry.cachedR,
      Continues com w pkt ref

instance (com : PhlCom) (w : World) (rx : RxWd.RxPkt) : Decidable (PlainHandle com w rx) :=
  inferInstanceAs (Decidable (_ ∨ _ ∨ _))

variable {com : PhlCom} (c : Cfg) {w w' : World}

lemma PlainHandle.setPending {w : World} {rx : RxWd.RxPkt}
    (h : PlainHandle com w rx) (pending : List RxWd.RxPkt) :
    PlainHandle com { w with pending := pending } rx := by
  rcases h with h | h | h
  · exact .inl h
  · exact .inr (.inl h)
  · refine .inr (.inr fun pkt hfcs ref href => ?_)
    obtain ⟨hmacid, hlive, htid, hnext⟩ := h pkt hfcs ref href
    exact ⟨hmacid, hlive, htid, hnext⟩

def InStep (c : Cfg) (w : World) : Event → Prop
  | .transfer t => PlainTransfer c.build t w.rxscEntry
  | .handle i _ _ => ∀ rx ∈ w.pending[i]?, rx.type = .wifi → PlainHandle c.com w rx
  | .session _ _ => True

instance (c : Cfg) (w : World) : ∀ e, Decidable (InStep c w e)
  | .transfer _ => inferInstanceAs (Decidable (PlainWalk _ _ _ _ _ _))
  | .handle _ _ _ => inferInstanceAs (Decidable (∀ _ ∈ _, _))
  | .session _ _ => isTrue trivial

lemma removeFcs_macid {pkt pkt' : RxPkt} (h : removeFcs com pkt = some pkt') :
    pkt'.macid = pkt.macid := by
  rw [removeFcs] at h
  split_ifs at h
  · rw [← Option.some.inj h]
  · rw [← Option.some.inj h]

lemma outcome_fields (h : w.outcome = w'.outcome) :
    w.sessions = w'.sessions ∧ w.pending = w'.pending ∧ w.handled = w'.handled ∧
      w.effects = w'.effects ∧ w.strayWrites = w'.strayWrites :=
  ⟨congrArg Outcome.sessions h, congrArg Outcome.pending h, congrArg Outcome.handled h,
    congrArg Outcome.effects h, congrArg Outcome.strayWrites h⟩

lemma normalReorder_outcome (com : PhlCom) {w w' : World} (h : w.outcome = w'.outcome)
    (rxsc rxsc' : Bool) (rx : RxWd.RxPkt) (storeTime curTime : ℕ) :
    (normalReorder com w rxsc rx storeTime curTime).outcome =
      (normalReorder com w' rxsc' rx storeTime curTime).outcome := by
  obtain ⟨hsessions, hpending, hhandled, heffects, hstray⟩ := outcome_fields h
  rw [World.outcome, World.outcome, normalReorder, normalReorder]
  dsimp only [staOf]
  rw [hsessions, hpending, hhandled, heffects, hstray]

lemma advance_outcome {w : World} {rx : RxWd.RxPkt} {pkt : RxPkt}
    {ref : SessionRef} (hsniffer : com.sniffer = false)
    (hfcs : removeFcs com (toMpdu w.handled rx) = some pkt) (h : Continues com w pkt ref)
    (storeTime curTime : ℕ) :
    ({ advance w ref with
        handled := (advance w ref).handled + 1
        effects := (advance w ref).effects ++ [{ frames := [pkt] }] } : World).outcome =
      (normalReorder com w false rx storeTime curTime).outcome := by
  obtain ⟨s, hs, hnext⟩ := h.next
  have hmacid : pkt.macid = (toMpdu w.handled rx).macid := removeFcs_macid hfcs
  have hout : rxReorder com (staOf w (toMpdu w.handled rx).macid) (toMpdu w.handled rx)
      storeTime curTime =
      (⟨pkt.macid, Function.update (w.sessions pkt.macid) ref.tid
        (some { s with rx := { s.rx with headSeqNum := seqInc s.rx.headSeqNum } })⟩,
        { frames := [pkt] }) := by
    have hs' : (staOf w pkt.macid).tidRx ref.tid = some s := h.macid ▸ hs
    rw [rxReorder, hsniffer, if_neg Bool.false_ne_true, hfcs]
    dsimp only
    rw [← hmacid, h.tid]
    dsimp only
    rw [hs']
    dsimp only
    rw [manageStaReorderBuf_next hnext storeTime curTime]
    rfl
  rw [advance, hs]
  dsimp only
  rw [if_pos h.live, normalReorder, World.outcome, World.outcome]
  dsimp only
  rw [hout, ← hmacid, h.macid]

lemma phlRxReorder_off (com : PhlCom) (w : World) (rx : RxWd.RxPkt) (storeTime curTime : ℕ) :
    phlRxReorder com w false rx storeTime curTime =
      normalReorder com w false rx storeTime curTime := if_pos (Or.inl rfl)

lemma phlRxReorder_plain {w : World} {rx : RxWd.RxPkt}
    (h : PlainHandle com w rx) (storeTime curTime : ℕ) :
    (phlRxReorder com w true rx storeTime curTime).outcome =
      (normalReorder com w false rx storeTime curTime).outcome := by
  have hnormal : ∀ w' : World, w'.outcome = w.outcome →
      (normalReorder com w' true rx storeTime curTime).outcome =
        (normalReorder com w false rx storeTime curTime).outcome := fun w' hw =>
    normalReorder_outcome com hw true false rx storeTime curTime
  rw [phlRxReorder]
  cases hsniffer : com.sniffer with
  | true =>
    rw [if_pos (Or.inr rfl)]
    exact hnormal w rfl
  | false =>
    have hsteps : ¬(true = false ∨ false = true) := by decide
    rw [if_neg hsteps]
    cases hfcs : removeFcs com (toMpdu w.handled rx) with
    | none => exact hnormal w rfl
    | some pkt =>
      dsimp only
      rw [phlRxscCacheCheck]
      by_cases hmax : w.rxscEntry.cachedRxMacid = phlMacidMaxNum
      · rw [if_neg (not_not.2 hmax)]
        exact hnormal w rfl
      · rw [if_pos hmax]
        cases href : w.rxscEntry.cachedR with
        | none => exact hnormal _ rfl
        | some ref =>
          rcases h with h | h | h
          · exact absurd (hsniffer.symm.trans h) Bool.false_ne_true
          · exact absurd h hmax
          · exact advance_outcome hsniffer hfcs (h pkt hfcs ref href) storeTime curTime

section

variable (h : w.outcome = w'.outcome)
include h

lemma step_session_outcome
    (rxsc rxsc' : Bool) (macid : ℕ) (e : RxEvent) :
    (step rxsc c w (.session macid e)).outcome = (step rxsc' c w' (.session macid e)).outcome := by
  obtain ⟨hsessions, hpending, hhandled, heffects, hstray⟩ := outcome_fields h
  rw [step, step]
  dsimp only [staOf]
  split_ifs
  · exact h
  · rw [World.outcome, World.outcome]
    dsimp only
    rw [hsessions, hpending, hhandled, heffects, hstray]

lemma transfer_outcome
    {rxsc rxsc' : Bool} {t : Transfer}
    (hfound : found (phlGetSingleRx { c.build with rxscAmpdu := rxsc } t.mem t.query w.rxscEntry
        t.len (t.len.toNat + 1)) =
      found (phlGetSingleRx { c.build with rxscAmpdu := rxsc' } t.mem t.query w'.rxscEntry
        t.len (t.len.toNat + 1))) :
    (step rxsc c w (.transfer t)).outcome = (step rxsc' c w' (.transfer t)).outcome := by
  obtain ⟨hsessions, hpending, hhandled, heffects, hstray⟩ := outcome_fields h
  rw [step, step]
  rcases hres : phlGetSingleRx { c.build with rxscAmpdu := rxsc } t.mem t.query w.rxscEntry
    t.len (t.len.toNat + 1) with _ | s
  · rcases hres' : phlGetSingleRx { c.build with rxscAmpdu := rxsc' } t.mem t.query w'.rxscEntry
      t.len (t.len.toNat + 1) with _ | s'
    · exact h
    · rw [hres, hres'] at hfound
      exact absurd hfound.symm (Option.some_ne_none _)
  · rcases hres' : phlGetSingleRx { c.build with rxscAmpdu := rxsc' } t.mem t.query w'.rxscEntry
      t.len (t.len.toNat + 1) with _ | s'
    · rw [hres, hres'] at hfound
      exact absurd hfound (Option.some_ne_none _)
    · rw [hres, hres'] at hfound
      have hlist : s.rxList = s'.rxList := Option.some.inj hfound
      rw [World.outcome, World.outcome]
      dsimp only
      rw [hsessions, hpending, hhandled, heffects, hstray, hlist]

lemma step_off_outcome (e : Event) :
    (step false c w e).outcome = (step false c w' e).outcome := by
  cases e with
  | transfer t => exact transfer_outcome c h (walk_off rfl)
  | handle i storeTime curTime =>
    have hpending : w.pending = w'.pending := congrArg Outcome.pending h
    rw [step, step, hpending]
    cases w'.pending[i]? with
    | none => exact h
    | some rx =>
      have herase : ({ w with pending := w'.pending.eraseIdx i } : World).outcome =
          ({ w' with pending := w'.pending.eraseIdx i } : World).outcome :=
        congrArg (fun o : Outcome => { o with pending := w'.pending.eraseIdx i }) h
      dsimp only
      split_ifs
      · rw [phlRxReorder_off, phlRxReorder_off]
        exact normalReorder_outcome c.com herase false false rx storeTime curTime
      · exact herase
  | session macid e => exact step_session_outcome c h false false macid e

end

lemma step_outcome {w : World} {e : Event} (h : InStep c w e) :
    (step true c w e).outcome = (step false c w e).outcome := by
  cases e with
  | transfer t =>
    exact transfer_outcome c rfl (walk_plain (query_cleared t) (Same.refl _) h)
  | handle i storeTime curTime =>
    rw [step, step]
    cases hrx : w.pending[i]? with
    | none => rfl
    | some rx =>
      dsimp only
      split_ifs with hwifi
      · rw [phlRxReorder_off]
        exact phlRxReorder_plain ((h rx hrx hwifi).setPending _) storeTime curTime
      · rfl
  | session macid e => exact step_session_outcome c rfl true false macid e

/-- In a run whose steps all meet the condition, what the driver sees at every point is what
it would see with full parses and the normal reorder path. -/
theorem rx_shortcut_agrees (es : List Event)
    (h : Guarded (step true c) (InStep c) World.init es) :
    ∀ xs, xs <+: es →
      (run (step true c) World.init xs).outcome = (run (step false c) World.init xs).outcome := by
  rintro xs ⟨ys, rfl⟩
  induction xs using List.reverseRecOn generalizing ys with
  | nil => rfl
  | append_singleton xs e ih =>
    rw [List.append_assoc] at h
    have hhere := h.split.2
    rw [run_append, run_append]
    exact (step_outcome c hhere).trans (step_off_outcome c (ih (e :: ys) h) e)

def qosData (macid seq : ℕ) : List UInt8 :=
  [24, 0, 0, 0x80, 0x10, 0, 0, 0, 0, 0, 0, 0, 0x08, 0, 0, 0,
    0x82, 0, UInt8.ofNat (seq % 256), UInt8.ofNat (seq / 256), 0, 0, UInt8.ofNat macid, 0x10,
    0, 0, 0, 0, 0, 0, 0, 0] ++ List.replicate 24 0

def transferOf (bytes : List UInt8) : Event :=
  .transfer ⟨fun i => bytes.getD i 0, UInt32.ofNat bytes.length, fun _ => true⟩

def usual : Cfg :=
  ⟨{ rxscAmpdu := true, dfs := false, usbRxAggregation := true, csumOffloadRx := false },
    { sniffer := false, appendFcs := false, mpMode := false }⟩

def headSeqNum (w : World) (macid : ℕ) : Option ℕ := (w.sessions macid 0).map (·.rx.headSeqNum)

def twoStations : List Event :=
  [.session 1 (.start 5 0 0 64 true), .session 2 (.start 9 0 0 64 true),
    transferOf (qosData 1 5 ++ qosData 2 9), .handle 0 0 0, .handle 0 0 0]

/-- The packet of station 2 moves the head of station 1 past a packet that never came. -/
theorem other_station_takes_short_cut :
    headSeqNum (run (step true usual) World.init twoStations) 1 = some 7 ∧
      headSeqNum (run (step true usual) World.init twoStations) 2 = some 9 ∧
      headSeqNum (run (step false usual) World.init twoStations) 1 = some 6 ∧
      headSeqNum (run (step false usual) World.init twoStations) 2 = some 10 := by
  decide

def oneStation : List Event :=
  [.session 1 (.start 5 0 0 64 true), transferOf (qosData 1 5 ++ qosData 1 6), .handle 0 0 0,
    .handle 0 0 0]

theorem rx_shortcut_agrees_oneStation :
    headSeqNum (run (step true usual) World.init oneStation) 1 = some 7 ∧
      (run (step true usual) World.init oneStation).outcome =
        (run (step false usual) World.init oneStation).outcome :=
  ⟨by decide, rx_shortcut_agrees usual oneStation (by decide) oneStation List.prefix_rfl⟩

end Rtl8831.Phl.RxShortcut
