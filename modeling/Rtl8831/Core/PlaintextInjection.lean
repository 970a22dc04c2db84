import Rtl8831.Core.RecvSpec

/-!
# Where the bytes of an indicated packet come from

In a protected network every packet for the network stack that is not EAPOL
should consist of bytes of protected frames.  Bytes are followed through
decryption, reassembly and the conversion to Ethernet by sublists.
-/

namespace Rtl8831.Core

open Lib List

lemma appendFragment_sublist (pf nf : RecvFrame) :
    (appendFragment pf nf).data.Sublist (pf.data ++ nf.data) := by
  have hbody : (fragmentBody nf).Sublist nf.data := recvframePull_sublist nf _
  have htail := recvframePullTail_sublist pf pf.attrib.icvLen
  simp only [appendFragment, recvframeAppend]
  split_ifs
  · exact htail.trans (sublist_append_left _ _)
  · exact htail.append hbody

lemma defragLoop_sublist {pf out : RecvFrame} {curPn cur : ℕ} {fs : List RecvFrame}
    (h : defragLoop pf curPn cur fs = some out) :
    out.data.Sublist (pf.data ++ (fs.map RecvFrame.data).flatten) ∧
      out.attrib = { pf.attrib with icvLen := out.attrib.icvLen } := by
  induction fs generalizing pf curPn cur with
  | nil =>
    simp only [defragLoop, Option.some.injEq] at h
    simp [← h]
  | cons nf rest ih =>
    simp only [defragLoop] at h
    split_ifs at h
    obtain ⟨hsub, hattrib⟩ := ih h
    refine ⟨?_, ?_⟩
    · rw [map_cons, flatten_cons, ← append_assoc]
      exact hsub.trans ((appendFragment_sublist pf nf).append (List.Sublist.refl _))
    · rw [hattrib]
      simp only [appendFragment, recvframeAppend, recvframePullTail]
      split_ifs <;> rfl

lemma recvframeDefrag_sublist {fs : List RecvFrame} {out : RecvFrame}
    (h : recvframeDefrag fs = some out) :
    out.data.Sublist (fs.map RecvFrame.data).flatten ∧
      ∃ f ∈ fs, out.attrib.privacy = f.attrib.privacy := by
  cases fs with
  | nil => simp [recvframeDefrag] at h
  | cons pf rest =>
    simp only [recvframeDefrag] at h
    split_ifs at h
    obtain ⟨hsub, hattrib⟩ := defragLoop_sublist h
    refine ⟨by simpa using hsub, pf, mem_cons_self, ?_⟩
    rw [hattrib]

variable {m : List UInt8} {p hdr : List UInt8} {es : List RxEvent} {rx : RxReq}

lemma overwrite_drop_sublist {n : ℕ} (h : hdr.length ≤ n) :
    ((overwrite p hdr).drop n).Sublist p := by
  unfold overwrite
  rw [drop_append]
  have hnil : (hdr.take p.length).drop n = [] := by
    apply drop_eq_nil_of_le
    rw [length_take]
    omega
  rw [hnil, nil_append]
  exact (drop_sublist _ _).trans (drop_sublist _ _)

variable {cfg : RecvCfg} {st : RecvState} {cr : Crypto} {f : RecvFrame}

lemma wlanhdrToEthhdr_sublist {llc : Bool}
    {eth : List UInt8} (h : (wlanhdrToEthhdr cfg st f llc).2 = some eth) :
    (eth.drop 14).Sublist f.data := by
  simp only [wlanhdrToEthhdr] at h
  split_ifs at h <;>
  · cases h
    refine (overwrite_drop_sublist ?_).trans ((drop_sublist _ _).trans ?_)
    · simp [be16Bytes]
      omega
    · first
        | exact recvframePullTail_sublist f _
        | exact List.Sublist.refl _

lemma slice_sublist (p : List UInt8) (i n : ℕ) : (slice p i n).Sublist p :=
  (take_sublist _ _).trans (drop_sublist _ _)

lemma allocMsduPkt_sublist {p msdu : List UInt8} (hp : 14 < p.length) (llc : Bool) :
    ((allocMsduPkt (slice p 0 6) (slice p 6 6) msdu llc).drop 14).Sublist msdu := by
  have h0 : (slice p 0 6).length = 6 := by
    simp [slice]
    omega
  have h6 : (slice p 6 6).length = 6 := by
    simp [slice]
    omega
  unfold allocMsduPkt
  split_ifs
  · rw [drop_append, drop_eq_nil_of_le (by simp [h0, h6]), nil_append]
    exact (drop_sublist _ _).trans (drop_sublist _ _)
  · rw [drop_append, drop_eq_nil_of_le (by simp [h0, h6, be16Bytes]), nil_append]
    exact drop_sublist _ _

lemma amsduLoop_sublist {a : RxAttrib} {k nr : ℕ} {p m : List UInt8}
    (h : m ∈ (amsduLoop cfg a k nr p).indicated) : (m.drop 14).Sublist p := by
  induction k generalizing nr p with
  | zero => simp [amsduLoop] at h
  | succ k ih =>
    simp only [amsduLoop] at h
    by_cases hlen : p.length ≤ 14
    · simp [hlen] at h
    by_cases hsub : p.length < 14 + be16At p 12
    · simp [hlen, hsub] at h
    by_cases hval : (!validateAmsduContent cfg a (slice p 0 6) (slice p 6 6)) = true
    · simp [hlen, hsub, hval] at h
    rw [if_neg hlen, if_neg hsub, if_neg hval] at h
    -- this subframe, or one of those behind it
    rcases mem_append.1 h with hpkt | hmore
    · split_ifs at hpkt
      · rw [mem_singleton.1 hpkt]
        exact (allocMsduPkt_sublist (not_le.1 hlen) _).trans (slice_sublist _ _ _)
      · simp at hpkt
    · by_cases hstop : 64 ≤ (if (msduActCheck cfg (slice p 0 6) (slice p 6 6)).1 = true
          then nr + 1 else nr) ∨
          (p.drop (14 + be16At p 12)).length < (4 - (be16At p 12 + 14) % 4) % 4
      · rw [if_pos hstop] at hmore
        simp at hmore
      · rw [if_neg hstop] at hmore
        exact (ih hmore).trans ((drop_sublist _ _).trans (drop_sublist _ _))

lemma rxProcessMsdu_indicated (h : m ∈ (rxProcessMsdu cfg st f).2.indicated) :
    (wlanhdrToEthhdr cfg st f (msduLlc f)).2 = some m := by
  simp only [rxProcessMsdu] at h
  by_cases hact : msduActCheck cfg f.attrib.dst f.attrib.src = (false, false)
  · simp [hact] at h
  · rw [if_neg hact] at h
    cases heth : (wlanhdrToEthhdr cfg st f (msduLlc f)).2 with
    | none => simp [heth] at h
    | some eth =>
      simp only [heth] at h
      by_cases hind : (msduActCheck cfg f.attrib.dst f.attrib.src).1 = true
      · rw [if_pos hind] at h
        rw [mem_singleton.1 h]
      · rw [if_neg hind] at h
        simp at h

lemma rxDataPostProcess_sublist (h : m ∈ (rxDataPostProcess cfg st f).2.indicated) :
    (m.drop 14).Sublist f.data := by
  unfold rxDataPostProcess at h
  split_ifs at h with hamsdu
  · refine (amsduLoop_sublist h).trans ?_
    have hpull : (recvframePull (recvframePull f f.attrib.hdrlen) f.attrib.ivLen).data.Sublist
        f.data := (recvframePull_sublist _ _).trans (recvframePull_sublist _ _)
    split_ifs
    · exact (recvframePullTail_sublist _ _).trans hpull
    · exact hpull
  · exact wlanhdrToEthhdr_sublist (rxProcessMsdu_indicated h)

lemma Validated.eapol {f : RecvFrame} (h : Validated cfg rx f)
    (hbss : cfg.privacyAlgrthm ≠ .noPrivacy) (hpriv : f.attrib.privacy = false) :
    cfg.auth = .ieee8021X ∧ looksEapol rx.data = true ∧ f.attrib.amsdu = false := by
  obtain ⟨entry, hkept⟩ := h.kept
  unfold dropUnprotected at hkept
  rw [if_neg hbss, hpriv] at hkept
  have hiv := (h.unprotected hpriv).2.1
  split_ifs at hkept with hmc hauth
  · simp at hkept
  · rw [hiv, h.hdrlen] at hkept
    simp only [Bool.not_false, Bool.true_and, Bool.or_eq_false_iff, decide_eq_false_iff_not,
      ne_eq, not_not, add_zero] at hkept
    exact ⟨hauth, decide_eq_true hkept.1.1, hkept.1.2⟩
  · simp at hkept

lemma byteAt_overwrite {i : ℕ} (hi : hdr.length ≤ i)
    (hp : hdr.length ≤ p.length) : byteAt (overwrite p hdr) i = byteAt p i := by
  have htake : hdr.take p.length = hdr := take_of_length_le hp
  simp only [byteAt, overwrite, htake, getD_eq_getElem?_getD]
  rw [getElem?_append_right hi, getElem?_drop, Nat.add_sub_cancel' hi]

lemma byteAt_drop (p : List UInt8) (n i : ℕ) : byteAt (p.drop n) i = byteAt p (n + i) := by
  simp only [byteAt, getD_eq_getElem?_getD, getElem?_drop]

lemma rxProcessMsdu_eapol (hm : m ∈ (rxProcessMsdu cfg st f).2.indicated) (henc : f.attrib.encrypt = .noPrivacy)
    (hiv : f.attrib.ivLen = 0) (hlen : 24 ≤ f.attrib.hdrlen) (hllc : msduLlc f = true)
    (htype : be16At f.data (f.attrib.hdrlen + 6) = 0x888e) : be16At m 12 = 0x888e := by
  have heth := rxProcessMsdu_indicated hm
  have hlong : f.attrib.hdrlen + 6 < f.data.length := by
    by_contra hshort
    have hzero : be16At f.data (f.attrib.hdrlen + 6) = 0 := by
      simp only [be16At, byteAt]
      rw [getD_eq_default _ _ (not_lt.1 hshort),
        getD_eq_default _ _ (by omega : f.data.length ≤ f.attrib.hdrlen + 6 + 1)]
      rfl
    omega
  simp only [wlanhdrToEthhdr, henc, hllc, hiv, ne_eq, not_true_eq_false, ↓reduceIte, add_zero,
    append_nil] at heth
  split_ifs at heth with hpull
  obtain ⟨k, hk⟩ : ∃ k, f.attrib.hdrlen = k + 6 := ⟨f.attrib.hdrlen - 6, by omega⟩
  cases heth
  rw [← htype]
  have hhdr : (f.attrib.dst.take 6 ++ f.attrib.src.take 6).length ≤ 12 := by
    simp only [length_append, length_take]
    omega
  have hbyte : ∀ i, 12 ≤ i → byteAt (overwrite (f.data.drop (f.attrib.hdrlen + 6 + 2 - 14))
      (f.attrib.dst.take 6 ++ f.attrib.src.take 6)) i = byteAt f.data (k + i) := by
    intro i hi
    rw [byteAt_overwrite (by omega) (by rw [length_drop]; omega), byteAt_drop, hk]
    congr 1
  simp only [be16At]
  rw [hbyte 12 (by omega), hbyte 13 (by omega), hk]

/-- The bytes `d` are those of a frame with the protected bit that was
decrypted by the hardware, or by `decryptor` once it had been validated. -/
def Decrypted (cr : Crypto) (cfg : RecvCfg) (rx : RxReq) (d : List UInt8) : Prop :=
  getPrivacy rx.data = true ∧
    ((rx.swDec = false ∧ d = rx.data) ∨
      ∃ st f g, (validateRecvFrame cfg st rx).2 = some f ∧ decryptor cr f = some g ∧ g.data = d)

def Source (cr : Crypto) (es : List RxEvent) (d : List UInt8) : Prop :=
  ∃ cfg rx, RxEvent.frame cfg rx ∈ es ∧ Decrypted cr cfg rx d

lemma Source.mono {d : List UInt8} (h : Source cr es d)
    (e : RxEvent) : Source cr (es ++ [e]) d := by
  obtain ⟨cfg, rx, hmem, hdec⟩ := h
  exact ⟨cfg, rx, mem_append_left _ hmem, hdec⟩

def ProtectedNet : RxEvent → Prop
  | .frame cfg _ => cfg.privacyAlgrthm ≠ .noPrivacy
  | .rekey _ => True

/-- What is wrong with the path is not met: an unprotected frame that looks
like EAPOL is no fragment and is EAPOL, and the shortcut takes only protected
frames that the hardware decrypted. -/
def ArrivalOk (st : RecvState) : RxEvent → Prop
  | .frame cfg rx =>
    (cfg.auth = .ieee8021X → getPrivacy rx.data = false → looksEapol rx.data = true →
      getMFrag rx.data = false ∧ getFragNum rx.data = 0 ∧
      recvLlcParse (rx.data.drop (macHdrLen rx.data))
        (u16 (rx.data.length - macHdrLen rx.data)) = true) ∧
    ((rxscApplyCheck cfg st rx.data).isSome = true →
      getPrivacy rx.data = true ∧ rx.swDec = false)
  | .rekey _ => True

def QueueProtected (cr : Crypto) (es : List RxEvent) (st : RecvState) : Prop :=
  ∀ sta g, g ∈ st.defrag.defragQ sta → g.attrib.privacy = true ∧ Source cr es g.data

def Legitimate (cr : Crypto) (es : List RxEvent) (cfg : RecvCfg) (m : List UInt8) : Prop :=
  (cfg.auth = .ieee8021X ∧ be16At m 12 = 0x888e) ∨
    ∃ ds : List (List UInt8), (∀ d ∈ ds, Source cr es d) ∧ (m.drop 14).Sublist ds.flatten

lemma decrypted_or_eapol {cfg : RecvCfg} {st st' : RecvState} {rx : RxReq}
    {f g : RecvFrame} (hbss : cfg.privacyAlgrthm ≠ .noPrivacy)
    (hok : ArrivalOk st' (.frame cfg rx))
    (hval : (validateRecvFrame cfg st rx).2 = some f) (hdec : decryptor cr f = some g) :
    (g.attrib.privacy = true ∧ Decrypted cr cfg rx g.data) ∨
      (g.attrib.privacy = false ∧ isFragment g = false ∧ ∀ st m,
        m ∈ (rxDataPostProcess cfg st g).2.indicated →
          cfg.auth = .ieee8021X ∧ be16At m 12 = 0x888e) := by
  have hv := validateRecvFrame_validated hval
  have hattrib := decryptor_attrib hdec
  cases hpriv : f.attrib.privacy with
  | true =>
    refine Or.inl ⟨by rw [hattrib]; exact hpriv, ?_, Or.inr ⟨st, f, g, hval, hdec, rfl⟩⟩
    rw [← hv.privacy, hpriv]
  | false =>
    obtain ⟨hauth, heapol, hamsdu⟩ := hv.eapol hbss hpriv
    obtain ⟨henc, hiv, hicv⟩ := hv.unprotected hpriv
    obtain ⟨hmf, hnum, hllc⟩ := hok.1 hauth (hv.privacy ▸ hpriv) heapol
    have hdata : g.data = rx.data := (decryptor_data hdec henc).trans hv.data
    refine Or.inr ⟨by rw [hattrib]; exact hpriv, ?_, ?_⟩
    · simp only [isFragment, hattrib, hv.mfrag, hv.fragNum, hmf, hnum]
      rfl
    · intro st m hm
      refine ⟨hauth, ?_⟩
      have hgl : g.attrib.hdrlen = macHdrLen rx.data := by rw [hattrib, ← hv.hdrlen]
      unfold rxDataPostProcess at hm
      rw [if_neg (by rw [hattrib]; simp [hamsdu])] at hm
      refine rxProcessMsdu_eapol hm (by rw [hattrib, ← henc]) (by rw [hattrib, ← hiv]) ?_ ?_ ?_
      · rw [hgl, macHdrLen]
        split_ifs <;> omega
      · simp only [msduLlc, hattrib, henc, hiv, hv.hdrlen, hdata]
        simpa using hllc
      · rw [hgl, hdata]
        exact of_decide_eq_true heapol

lemma reassembled_sources {st : RecvState}
    {f out : RecvFrame} (hq : QueueProtected cr es st) (hf : Source cr es f.data)
    (hout : Reassembled st.defrag f out) :
    ∃ ds : List (List UInt8), (∀ d ∈ ds, Source cr es d) ∧ out.data.Sublist ds.flatten := by
  rcases hout with ⟨-, rfl⟩ | ⟨-, sta, hjoin⟩
  · exact ⟨[out.data], by simpa using hf, by simp⟩
  · refine ⟨_, ?_, (recvframeDefrag_sublist hjoin).1⟩
    intro d hd
    obtain ⟨g, hg, rfl⟩ := mem_map.1 hd
    rcases mem_append.1 hg with hg | hg
    · exact (hq sta g hg).2
    · rw [mem_singleton.1 hg, trackKey_eq]
      exact hf

lemma fullPath_protected {cfg : RecvCfg} {st st' : RecvState} {rx : RxReq}
    {es : List RxEvent} (hq : QueueProtected cr es st) (hbss : cfg.privacyAlgrthm ≠ .noPrivacy)
    (hok : ArrivalOk st' (.frame cfg rx)) :
    QueueProtected cr (es ++ [.frame cfg rx]) (fullPath cr cfg st rx).1 ∧
    ∀ m ∈ (fullPath cr cfg st rx).2.indicated,
      Legitimate cr (es ++ [.frame cfg rx]) cfg m := by
  have hlater : ∀ st'' : RecvState, st''.defrag = st.defrag →
      QueueProtected cr (es ++ [.frame cfg rx]) st'' := by
    intro st'' heq sta g hg
    rw [heq] at hg
    exact ⟨(hq sta g hg).1, (hq sta g hg).2.mono _⟩
  have hstate := (validateRecvFrame_state cfg st rx).1
  simp only [fullPath]
  cases hval : (validateRecvFrame cfg st rx).2 with
  | none => exact ⟨hlater _ hstate, by simp⟩
  | some f =>
    dsimp only
    have hlast : RxEvent.frame cfg rx ∈ es ++ [.frame cfg rx] := by simp
    rcases rxDataPreProcess_cases cr cfg (validateRecvFrame cfg st rx).1 f with
      heq | ⟨f', hdec, hst, hout⟩
    · simp only [heq]
      exact ⟨hlater _ hstate, by simp⟩
    have hcase := decrypted_or_eapol hbss hok hval hdec
    have hkept : QueueProtected cr (es ++ [.frame cfg rx])
        (rxDataPreProcess cr cfg (validateRecvFrame cfg st rx).1 f).1 := by
      rw [hst]
      intro sta g hg
      rcases chkDefrag_queue hg with hg | ⟨rfl, hfrag, -⟩
      · exact hlater _ hstate sta g hg
      · rcases hcase with ⟨hpriv, hsrc⟩ | ⟨-, hnofrag, -⟩
        · rw [trackKey_attrib, trackKey_eq]
          exact ⟨hpriv, cfg, rx, hlast, hsrc⟩
        · rw [hfrag] at hnofrag
          contradiction
    cases hpre : (rxDataPreProcess cr cfg
        (validateRecvFrame cfg st rx).1 f).2 with
    | none => exact ⟨hkept, by simp⟩
    | some g =>
      refine ⟨?_, ?_⟩
      · intro sta x hx
        dsimp only at hx
        obtain ⟨rxsc, hrxsc⟩ := rxDataPostProcess_state cfg
          (rxDataPreProcess cr cfg (validateRecvFrame cfg st rx).1 f).1 g
        rw [hrxsc] at hx
        exact hkept sta x hx
      · intro m hm
        obtain ⟨out, hre, hplain, hsub⟩ := hout g hpre
        rcases hcase with ⟨-, hsrc⟩ | ⟨hpriv, hnofrag, hpost⟩
        · obtain ⟨ds, hds, hjoin⟩ := reassembled_sources (hlater _ hstate)
            ⟨cfg, rx, hlast, hsrc⟩ hre
          exact Or.inr ⟨ds, hds, (rxDataPostProcess_sublist hm).trans (hsub.trans hjoin)⟩
        · rcases hre with ⟨-, rfl⟩ | ⟨hfrag, -⟩
          · rw [hplain hpriv] at hm
            exact Or.inl (hpost _ m hm)
          · rw [hfrag] at hnofrag
            contradiction

lemma rxscApplyShortcut_sublist {hit : ℕ × Fin 4}
    {eth : List UInt8} (h : (rxscApplyShortcut cfg st rx hit).2 = some eth) :
    (eth.drop 14).Sublist rx.data := by
  simp only [rxscApplyShortcut] at h
  split at h
  · simp at h
  · simp only [Option.some.injEq] at h
    rw [← h]
    refine (overwrite_drop_sublist (length_take_le 14 _)).trans ((recvframePull_sublist _ _).trans ?_)
    split_ifs
    · exact recvframePullTail_sublist _ _
    · exact List.Sublist.refl _

lemma rxscApplyShortcut_defrag (cfg : RecvCfg) (st : RecvState) (rx : RxReq) (hit : ℕ × Fin 4) :
    (rxscApplyShortcut cfg st rx hit).1.defrag = st.defrag := by
  simp only [rxscApplyShortcut]
  split <;> rfl

lemma rxProcess_protected {cfg : RecvCfg} {st : RecvState} {rx : RxReq}
    {es : List RxEvent} (hq : QueueProtected cr es st) (hbss : cfg.privacyAlgrthm ≠ .noPrivacy)
    (hok : ArrivalOk st (.frame cfg rx)) :
    QueueProtected cr (es ++ [.frame cfg rx]) (rxProcess cr cfg st rx).1 ∧
    ∀ m ∈ (rxProcess cr cfg st rx).2.indicated,
      Legitimate cr (es ++ [.frame cfg rx]) cfg m := by
  have hlater : QueueProtected cr (es ++ [.frame cfg rx]) st := fun sta g hg =>
    ⟨(hq sta g hg).1, (hq sta g hg).2.mono _⟩
  unfold rxProcess
  split_ifs
  · exact ⟨hlater, by simp⟩
  · exact ⟨hlater, by simp⟩
  cases hhit : rxscApplyCheck cfg st rx.data with
  | none => exact fullPath_protected hq hbss hok
  | some hit =>
    have hdefrag := rxscApplyShortcut_defrag cfg st rx hit
    simp only [rxscPath]
    cases heth : (rxscApplyShortcut cfg st rx hit).2 with
    | none =>
      refine fullPath_protected ?_ hbss hok
      intro sta g hg
      rw [hdefrag] at hg
      exact hq sta g hg
    | some eth =>
      refine ⟨?_, ?_⟩
      · intro sta g hg
        rw [hdefrag] at hg
        exact hlater sta g hg
      · intro m hm
        obtain ⟨hpriv, hhw⟩ := hok.2 (by rw [hhit]; rfl)
        rw [mem_singleton.1 hm]
        refine Or.inr ⟨[rx.data], ?_, by simpa using rxscApplyShortcut_sublist heth⟩
        intro d hd
        rw [mem_singleton.1 hd]
        exact ⟨cfg, rx, by simp, hpriv, Or.inl ⟨hhw, rfl⟩⟩

def wpaCfg : RecvCfg where
  mode := .sta
  macAddr := [2, 0, 0, 0, 0, 1]
  linked := true
  auth := .ieee8021X
  privacyAlgrthm := .aes
  grpPrivacy := .aes
  amsduNonSpp := true
  apIsolate := false
  asocListCnt := 0
  fwdAlloc := true
  stas := [⟨[2, 0, 0, 0, 0, 2], 0, .aes, false, false⟩]
  enableRxsc := true

def wpaState : RecvState where
  rxseq := fun _ _ => 65535
  pn := emptyCaches
  defrag := DefragPriv.init (fun _ => 0) none
  rxsc := fun _ => {}

def hwCrypto : Crypto where
  decrypt := fun f => some f.data
  micOk := fun _ => true

/-- A data frame from the access point, with the second byte of its frame
control field. -/
def apFrame (fc seqCtrl : UInt8) (body : List UInt8) : RxReq where
  data := [8, fc, 0, 0, 2, 0, 0, 0, 0, 1, 2, 0, 0, 0, 0, 2, 2, 0, 0, 0, 0, 2, seqCtrl, 0] ++ body
  room := 1000
  bmc := false
  swDec := false
  secType := .aes
  addrCamVld := false
  macid := 0
  err := false

def firstFragment : RxReq :=
  apFrame 0x46 0x70 ([1, 0, 0, 32, 0, 0, 0, 0] ++ [170, 170, 3, 0, 0, 0, 8, 0] ++ [1] ++
    replicate 8 0)

def forgedFragment : RxReq :=
  apFrame 0x02 0x71 [0, 0, 0, 0, 0, 0, 0x88, 0x8e, 0x77]

def forgedPacket : List UInt8 :=
  [2, 0, 0, 0, 0, 1, 2, 0, 0, 0, 0, 2, 8, 0] ++ [1] ++ [0, 0, 0, 0, 0, 0, 0x88, 0x8e, 0x77]

lemma forgedPacket_indicated :
    (rxProcess hwCrypto wpaCfg
      (run (rxStep hwCrypto) wpaState [.frame wpaCfg firstFragment]) forgedFragment).2.indicated =
        [forgedPacket] := by
  decide

end Rtl8831.Core
