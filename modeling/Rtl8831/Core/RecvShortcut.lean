import Rtl8831.Core.PlaintextInjection

/-!
# The receive shortcut against the full path

A frame that `core_rxsc_apply_check` selects gets the attributes of the entry
it was found by.  The full path on the same state records the sequence number
of every frame it indicates; the shortcut records none, so that the two never
leave the same state behind.
-/

namespace Rtl8831.Core

open Lib Function

lemma recvDecache_ne {rxseq rxseq' : ℕ → RxSeqKey → ℕ} {sta : ℕ} {a : RxAttrib}
    (h : recvDecache rxseq sta a = some rxseq') : rxseq' ≠ rxseq := by
  simp only [recvDecache] at h
  split_ifs at h with hprio hdup
  rintro rfl
  apply hdup
  have hsame := congrFun (congrFun (Option.some.inj h) sta) (rxSeqKey a)
  rw [update_self, update_self] at hsame
  exact hsame.symm

variable {st : RecvState} {cfg : RecvCfg}

lemma validateRecvFrame_rxseq {st : RecvState} {rx : RxReq} {f : RecvFrame}
    (h : (validateRecvFrame cfg st rx).2 = some f) :
    (validateRecvFrame cfg st rx).1.rxseq ≠ st.rxseq := by
  unfold validateRecvFrame at h ⊢
  split_ifs at h ⊢
  rcases validateRecvDataFrame_cases (rfl : validateRecvDataFrame cfg st rx (rxAttrib rx) = _) with
    ⟨rxseq, pn, heq⟩ | ⟨sta, a, rxseq, pn, -, hseq, -, heq⟩
  · simp [heq] at h
  · rw [heq]
    exact recvDecache_ne hseq

lemma rxDataPreProcess_rxseq (cr : Crypto) (cfg : RecvCfg) (st : RecvState) (f : RecvFrame) :
    (rxDataPreProcess cr cfg st f).1.rxseq = st.rxseq ∧
      (rxDataPreProcess cr cfg st f).1.rxsc = st.rxsc := by
  rcases rxDataPreProcess_cases cr cfg st f with heq | ⟨f', -, heq, -⟩
  · rw [heq]
    exact ⟨rfl, rfl⟩
  · rw [heq]
    exact ⟨rfl, rfl⟩

lemma fullPath_rxseq {cr : Crypto} {cfg : RecvCfg} {st : RecvState} {rx : RxReq}
    (h : (fullPath cr cfg st rx).2.indicated ≠ []) :
    (fullPath cr cfg st rx).1.rxseq ≠ st.rxseq := by
  simp only [fullPath] at h ⊢
  cases hval : (validateRecvFrame cfg st rx).2 with
  | none => simp [hval] at h
  | some f =>
    have hseq := validateRecvFrame_rxseq hval
    have hpre := (rxDataPreProcess_rxseq cr cfg (validateRecvFrame cfg st rx).1 f).1
    dsimp only
    split
    · rw [hpre]
      exact hseq
    next g hg =>
    obtain ⟨rxsc, hpost⟩ := rxDataPostProcess_state cfg
      (rxDataPreProcess cr cfg (validateRecvFrame cfg st rx).1 f).1 g
    rw [hpost]
    dsimp only
    rw [hpre]
    exact hseq

def RxscUnicast (st : RecvState) : Prop :=
  ∀ sta i, isMcast ((st.rxsc sta).entry i).attrib.ra = false

lemma RxscTable.cache_unicast {t : RxscTable} {f : RecvFrame} {offset pad : ℕ}
    {eth : Option (List UInt8)} (ht : ∀ i, isMcast (t.entry i).attrib.ra = false)
    (hf : isMcast f.attrib.ra = false) (i : Fin 4) :
    isMcast ((t.cache f offset pad eth).entry i).attrib.ra = false := by
  simp only [RxscTable.cache]
  by_cases hi : i = t.nextIdx
  · rw [hi, update_self]
    cases eth with
    | none => exact ht t.nextIdx
    | some eth => exact hf
  · rw [update_of_ne hi]
    exact ht i

lemma rxscCheckAlloc_unicast {a : RxAttrib} {llc : Bool} {ethType : ℕ}
    (h : rxscCheckAlloc cfg a llc ethType = true) : isMcast a.ra = false := by
  simp only [rxscCheckAlloc, Bool.and_eq_true, Bool.not_eq_true'] at h
  exact h.1.2

lemma recvframePullTail_attrib (f : RecvFrame) (n : ℕ) :
    (recvframePullTail f n).attrib = f.attrib := by
  unfold recvframePullTail
  split_ifs <;> rfl

lemma wlanhdrToEthhdr_rxsc (cfg : RecvCfg) (st : RecvState) (f : RecvFrame) (llc : Bool) :
    (wlanhdrToEthhdr cfg st f llc).1 = st ∨
    ∃ sta g offset pad eth, (wlanhdrToEthhdr cfg st f llc).1 =
        { st with rxsc := update st.rxsc sta ((st.rxsc sta).cache g offset pad eth) } ∧
      isMcast f.attrib.ra = false ∧ g.attrib = f.attrib := by
  simp only [wlanhdrToEthhdr]
  cases f.psta with
  | none => exact Or.inl rfl
  | some sta =>
    by_cases halloc : rxscCheckAlloc cfg f.attrib llc
        (be16At f.data (f.attrib.hdrlen + f.attrib.ivLen + if llc then 6 else 0)) = true
    · dsimp only
      rw [if_pos halloc]
      refine Or.inr ⟨sta, _, _, _, _, rfl, rxscCheckAlloc_unicast halloc, ?_⟩
      split_ifs
      · exact recvframePullTail_attrib f _
      · rfl
    · left
      dsimp only
      rw [if_neg halloc]

lemma RxscUnicast.postProcess (h : RxscUnicast st) (cfg : RecvCfg)
    (f : RecvFrame) : RxscUnicast (rxDataPostProcess cfg st f).1 := by
  have hhdr : RxscUnicast (wlanhdrToEthhdr cfg st f (msduLlc f)).1 := by
    rcases wlanhdrToEthhdr_rxsc cfg st f (msduLlc f) with
      heq | ⟨sta, g, offset, pad, eth, heq, hra, hg⟩
    · rw [heq]
      exact h
    · rw [heq]
      intro sta' i
      by_cases hsta : sta' = sta
      · subst hsta
        simp only [update_self]
        exact RxscTable.cache_unicast (h sta') (by rw [hg]; exact hra) i
      · simp only [update_of_ne hsta]
        exact h sta' i
  unfold rxDataPostProcess
  by_cases hamsdu : f.attrib.amsdu = true
  · rw [if_pos hamsdu]
    exact h
  · rw [if_neg hamsdu]
    simp only [rxProcessMsdu]
    by_cases hact : msduActCheck cfg f.attrib.dst f.attrib.src = (false, false)
    · rw [if_pos hact]
      exact h
    · rw [if_neg hact]
      split <;> exact hhdr

lemma RxscUnicast.fullPath (h : RxscUnicast st) (cr : Crypto) (cfg : RecvCfg)
    (rx : RxReq) : RxscUnicast (fullPath cr cfg st rx).1 := by
  have hval : RxscUnicast (validateRecvFrame cfg st rx).1 := by
    intro sta i
    rw [(validateRecvFrame_state cfg st rx).2]
    exact h sta i
  simp only [Core.fullPath]
  split
  · exact hval
  next f _ =>
  have hpre : RxscUnicast (rxDataPreProcess cr cfg (validateRecvFrame cfg st rx).1 f).1 := by
    intro sta i
    rw [(rxDataPreProcess_rxseq cr cfg _ f).2]
    exact hval sta i
  split
  · exact hpre
  next g _ => exact hpre.postProcess cfg g

lemma rxscPnDecache_isSome {e : RxscEntry} (he : isMcast e.attrib.ra = false) (cfg : RecvCfg)
    (pn : PnCaches) (rx : RxReq) (sta : ℕ) : ∃ pn', rxscPnDecache cfg pn e rx sta = some pn' := by
  unfold rxscPnDecache
  by_cases haes : e.attrib.encrypt = .aes
  · have hra : isMcast (rxscFrame e rx sta).attrib.ra = false := by
      simpa only [rxscFrame, rxscAttrib, haes, ↓reduceIte] using he
    have hpn : (rxscFrame e rx sta).attrib.encrypt.hasPn = true := by
      simp [rxscFrame, rxscAttrib, haes, SecurityType.hasPn]
    have hprio : ¬15 < (rxscFrame e rx sta).attrib.priority := by
      simp only [rxscFrame, rxscAttrib, haes, ↓reduceIte, getPriority]
      split_ifs <;> omega
    rw [if_pos haes, pnDecache_unicast hra hpn, if_neg hprio]
    split_ifs <;> exact ⟨_, rfl⟩
  · rw [if_neg haes]
    exact ⟨pn, rfl⟩

lemma rxscApplyShortcut_indicates (h : RxscUnicast st) (cfg : RecvCfg)
    (rx : RxReq) (hit : ℕ × Fin 4) :
    ∃ eth pn, rxscApplyShortcut cfg st rx hit =
      ({ st with
          pn, rxsc := update st.rxsc hit.1 { st.rxsc hit.1 with idxCached := hit.2 } },
        some eth) := by
  have hra : isMcast (rxscEntry st hit).attrib.ra = false := h hit.1 _
  obtain ⟨pn, hpn⟩ := rxscPnDecache_isSome hra cfg st.pn rx hit.1
  simp only [rxscApplyShortcut, hpn]
  exact ⟨_, pn, rfl⟩

lemma RxscUnicast.rxStep (h : RxscUnicast st) (cr : Crypto) (e : RxEvent) :
    RxscUnicast (rxStep cr st e) := by
  cases e with
  | rekey sta => exact h
  | frame cfg rx =>
    simp only [Core.rxStep, rxProcess]
    split_ifs
    · exact h
    · exact h
    cases rxscApplyCheck cfg st rx.data with
    | none => exact h.fullPath cr cfg rx
    | some hit =>
      obtain ⟨eth, pn, heq⟩ := rxscApplyShortcut_indicates h cfg rx hit
      simp only [rxscPath, heq]
      intro sta i
      by_cases hsta : sta = hit.1
      · subst hsta
        simp only [update_self]
        exact h _ _
      · simp only [update_of_ne hsta]
        exact h _ _

/-- The shortcut does what the full path would do: the same packets to the
network stack and to forwarding, at least one of them indicated, and the same
records against duplicates and replays. -/
structure SameOutcome (short full : RecvState × RxOut) : Prop where
  indicated : full.2.indicated ≠ []
  out : short.2 = full.2
  rxseq : short.1.rxseq = full.1.rxseq
  pn : short.1.pn = full.1.pn

def ShortcutAgrees (cr : Crypto) (cfg : RecvCfg) (st : RecvState) (rx : RxReq) : Prop :=
  ∀ hit, rxscApplyCheck cfg st rx.data = some hit →
    SameOutcome (rxscPath cr cfg st rx hit) (fullPath cr cfg st rx)

lemma rxscUnicast_of_empty (hinit : ∀ sta, st.rxsc sta = {}) :
    RxscUnicast st := by
  intro sta i
  have hentry : ((st.rxsc sta).entry i).attrib.ra = [] := by rw [hinit sta]
  rw [hentry]
  decide

lemma RxscUnicast.not_sameOutcome (h : RxscUnicast st) (cr : Crypto)
    (cfg : RecvCfg) (rx : RxReq) (hit : ℕ × Fin 4) :
    ¬SameOutcome (rxscPath cr cfg st rx hit) (Core.fullPath cr cfg st rx) := by
  rintro ⟨hind, -, hseq, -⟩
  obtain ⟨eth, pn, heq⟩ := rxscApplyShortcut_indicates h cfg rx hit
  -- the full path has recorded a sequence number, the shortcut none
  have hshort : (rxscPath cr cfg st rx hit).1.rxseq = st.rxseq := by
    simp only [rxscPath, heq]
  exact fullPath_rxseq hind (hseq.symm.trans hshort)

/-- In no state of any run does the shortcut agree with the full path on a
frame that it is selected for. -/
theorem rx_shortcut_agrees_iff (cr : Crypto) (st : RecvState)
    (hinit : ∀ sta, st.rxsc sta = {}) (es : List RxEvent) (cfg : RecvCfg) (rx : RxReq) :
    ShortcutAgrees cr cfg (run (rxStep cr) st es) rx ↔
      rxscApplyCheck cfg (run (rxStep cr) st es) rx.data = none := by
  have hfresh : RxscUnicast st := rxscUnicast_of_empty hinit
  have hst : RxscUnicast (run (rxStep cr) st es) :=
    @run_invariant _ _ (rxStep cr) RxscUnicast (fun s e hs => hs.rxStep cr e) st hfresh es
  generalize run (rxStep cr) st es = st' at hst ⊢
  constructor
  · intro hagree
    by_contra hsel
    obtain ⟨hit, hhit⟩ := Option.ne_none_iff_exists'.mp hsel
    exact hst.not_sameOutcome cr cfg rx hit (hagree hit hhit)
  · intro hnone hit hhit
    rw [hnone] at hhit
    contradiction

def ipBody (payload : UInt8) : List UInt8 :=
  [1, 0, 0, 32, 0, 0, 0, 0] ++ [170, 170, 3, 0, 0, 0, 8, 0] ++ [payload] ++ List.replicate 8 0

def cachedState : RecvState :=
  run (rxStep hwCrypto) wpaState [.frame wpaCfg (apFrame 0x42 0x80 (ipBody 1))]

/-- An unprotected frame with the same addresses is indicated by the
shortcut, and dropped by the full path. -/
theorem rx_shortcut_takes_unprotected :
    ¬ShortcutAgrees hwCrypto wpaCfg cachedState (apFrame 0x02 0x90 (ipBody 0x77)) := by
  intro h
  have hout := (h (0, 0) (by decide)).out
  have hshort : (rxscPath hwCrypto wpaCfg cachedState (apFrame 0x02 0x90 (ipBody 0x77))
      (0, 0)).2.indicated = [[2, 0, 0, 0, 0, 1, 2, 0, 0, 0, 0, 2, 8, 0, 0x77]] := by decide
  have hfull : (fullPath hwCrypto wpaCfg cachedState
      (apFrame 0x02 0x90 (ipBody 0x77))).2.indicated = [] := by decide
  rw [hout, hfull] at hshort
  contradiction

theorem rx_shortcut_disagrees :
    ¬ShortcutAgrees hwCrypto wpaCfg
      (run (rxStep hwCrypto) wpaState [.frame wpaCfg (apFrame 0x42 0x80 (ipBody 1))])
      (apFrame 0x42 0x90 (ipBody 2)) := by
  rw [rx_shortcut_agrees_iff hwCrypto wpaState (fun _ => rfl)]
  decide

end Rtl8831.Core
