import Rtl8831.Core.RecvPath

/-!
# What each stage of the receive path can do

One inversion lemma for each of validation, preprocessing and
postprocessing, and the runs of the receive path.
-/

namespace Rtl8831.Core

open Lib

def macHdrLen (p : List UInt8) : ℕ :=
  (if (getFrameSubType p).testBit 7 then 26 else 24) + (if getToFrDs p = 3 then 6 else 0) +
    (if getOrder p then 4 else 0)

/-- The bytes at which `validate_recv_data_frame` looks for EAPOL. -/
def looksEapol (p : List UInt8) : Bool := decide (be16At p (macHdrLen p + 6) = 0x888e)

/-- A frame that went through `validate_recv_frame`. -/
structure Validated (cfg : RecvCfg) (rx : RxReq) (f : RecvFrame) : Prop where
  data : f.data = rx.data
  privacy : f.attrib.privacy = getPrivacy rx.data
  mfrag : f.attrib.mfrag = getMFrag rx.data
  fragNum : f.attrib.fragNum = getFragNum rx.data
  bdecrypted : f.attrib.bdecrypted = !rx.swDec
  hdrlen : f.attrib.hdrlen = macHdrLen rx.data
  unprotected : f.attrib.privacy = false →
    f.attrib.encrypt = .noPrivacy ∧ f.attrib.ivLen = 0 ∧ f.attrib.icvLen = 0
  kept : ∃ entry, dropUnprotected cfg entry f.attrib rx.data = false

lemma validateHdr_attrib {cfg : RecvCfg} {rx : RxReq} {a a' : RxAttrib} {sta : ℕ}
    (h : validateHdr cfg rx a = some (sta, a')) :
    a' = { a with ra := a'.ra, ta := a'.ta, dst := a'.dst, src := a'.src } := by
  unfold validateHdr apRxDataValidateHdr staRxDataValidateHdr at h
  cases hmode : cfg.mode with
  | ap =>
    simp only [hmode] at h
    split_ifs at h <;>
    · simp only [Option.map_eq_some_iff, Prod.mk.injEq] at h
      obtain ⟨_, -, -, rfl⟩ := h
      rfl
  | sta =>
    simp only [hmode] at h
    split_ifs at h <;>
    · simp only [Option.map_eq_some_iff, Prod.mk.injEq] at h
      obtain ⟨_, -, -, rfl⟩ := h
      rfl

variable (cfg : RecvCfg) {cr : Crypto} {f g : RecvFrame} (st : RecvState) (rx : RxReq)

lemma parseQosControl_hdrlen {a : RxAttrib} (htds : a.toFrDs = getToFrDs rx.data)
    (hqos : a.qos = (getFrameSubType rx.data).testBit 7) (hord : a.order = getOrder rx.data) :
    (parseQosControl rx.data a).hdrlen = macHdrLen rx.data := by
  simp only [parseQosControl, macHdrLen, htds, hqos, hord]

lemma setCipher_attrib (entry : StaEntry) (a : RxAttrib) :
    ∃ encrypt ivLen icvLen, setCipher cfg entry a = { a with encrypt, ivLen, icvLen } := by
  unfold setCipher
  split_ifs
  · exact ⟨_, _, _, rfl⟩
  · exact ⟨_, _, _, rfl⟩

lemma validateRecvFrame_state :
    (validateRecvFrame cfg st rx).1.defrag = st.defrag ∧
      (validateRecvFrame cfg st rx).1.rxsc = st.rxsc := by
  unfold validateRecvFrame
  split_ifs
  · exact ⟨rfl, rfl⟩
  · rcases validateRecvDataFrame_cases (rfl : validateRecvDataFrame cfg st rx (rxAttrib rx) = _) with
      ⟨rxseq, pn, heq⟩ | ⟨sta, a, rxseq, pn, -, -, -, heq⟩
    · rw [heq]
      exact ⟨rfl, rfl⟩
    · rw [heq]
      exact ⟨rfl, rfl⟩

lemma validateRecvFrame_validated {cfg : RecvCfg} {st : RecvState} {rx : RxReq}
    {f : RecvFrame} (h : (validateRecvFrame cfg st rx).2 = some f) : Validated cfg rx f := by
  unfold validateRecvFrame at h
  split_ifs at h with htype
  rcases validateRecvDataFrame_cases (rfl : validateRecvDataFrame cfg st rx (rxAttrib rx) = _) with
    ⟨rxseq, pn, heq⟩ | ⟨sta, a, rxseq, pn, hhdr, -, hkept, heq⟩
  · simp [heq] at h
  · obtain rfl : validFrame cfg rx sta a = f := by simpa [heq] using h
    have ha := validateHdr_attrib hhdr
    have hlen : (parseQosControl rx.data a).hdrlen = macHdrLen rx.data :=
      parseQosControl_hdrlen rx (by rw [ha]; rfl) (by rw [ha]; rfl) (by rw [ha]; rfl)
    obtain ⟨e, n, c, hattrib⟩ := setCipher_attrib cfg (cfg.entry sta) (parseQosControl rx.data a)
    have hvalid : (validFrame cfg rx sta a).attrib =
        { parseQosControl rx.data a with encrypt := e, ivLen := n, icvLen := c } := hattrib
    refine ⟨rfl, ?_, ?_, ?_, ?_, ?_, ?_, cfg.entry sta, hkept⟩
    · rw [hvalid, ha]
      rfl
    · rw [hvalid, ha]
      rfl
    · rw [hvalid, ha]
      rfl
    · rw [hvalid, ha]
      rfl
    · rw [hvalid]
      exact hlen
    · intro hpriv
      rw [hvalid] at hpriv
      simp only [validFrame, setCipher]
      rw [if_neg (by simpa using hpriv)]
      exact ⟨rfl, rfl, rfl⟩

lemma recvframePull_sublist (f : RecvFrame) (n : ℕ) :
    (recvframePull f n).data.Sublist f.data := by
  unfold recvframePull
  split_ifs
  · exact List.Sublist.refl _
  · exact List.drop_sublist n f.data

lemma recvframePullTail_sublist (f : RecvFrame) (n : ℕ) :
    (recvframePullTail f n).data.Sublist f.data := by
  unfold recvframePullTail
  split_ifs
  · exact List.Sublist.refl _
  · exact List.take_sublist _ f.data

lemma decryptor_attrib (h : decryptor cr f = some g) :
    g.attrib = { f.attrib with bdecrypted := true } := by
  unfold decryptor at h
  split_ifs at h
  · split at h
    · cases h
      rfl
    · cases h
      rfl
    all_goals first
      | (cases h; rfl)
      | (simp only [Option.map_eq_some_iff] at h
         obtain ⟨d, -, rfl⟩ := h
         rfl)
  · cases h
    rfl

lemma decryptor_data (h : decryptor cr f = some g)
    (henc : f.attrib.encrypt = .noPrivacy) : g.data = f.data := by
  simp only [decryptor, henc, ne_eq, not_true_eq_false, false_and, ↓reduceIte,
    Option.some.injEq] at h
  rw [← h]

lemma recvframeChkmic_sublist (h : recvframeChkmic cr f = some g) : g.data.Sublist f.data := by
  unfold recvframeChkmic at h
  split_ifs at h
  · cases h
    exact recvframePullTail_sublist f 8
  · cases h
    exact List.Sublist.refl _

/-- The frame that reassembly hands back once `f` has been decrypted. -/
def Reassembled (st : DefragPriv) (f out : RecvFrame) : Prop :=
  (isFragment f = false ∧ out = f) ∨
    (isFragment f = true ∧
      ∃ sta, recvframeDefrag (st.defragQ sta ++ [trackKey st f]) = some out)

lemma rxDataPreProcess_cases (cr : Crypto) (cfg : RecvCfg) (st : RecvState) (f : RecvFrame) :
    (rxDataPreProcess cr cfg st f = (st, none)) ∨
    ∃ f', decryptor cr f = some f' ∧
      (rxDataPreProcess cr cfg st f).1 = { st with defrag := (recvframeChkDefrag st.defrag f').1 } ∧
      ∀ g, (rxDataPreProcess cr cfg st f).2 = some g → ∃ out, Reassembled st.defrag f' out ∧
        (out.attrib.privacy = false → g = out) ∧ g.data.Sublist out.data := by
  unfold rxDataPreProcess
  cases hdec : decryptor cr f with
  | none => exact Or.inl rfl
  | some f' =>
    refine Or.inr ⟨f', rfl, ?_, ?_⟩
    · dsimp only
      split_ifs <;> rfl
    · intro g hg
      dsimp only at hg
      split_ifs at hg with hcont
      have hout : ∃ out, (recvframeChkDefrag st.defrag f').2.2 = some out ∧
          Reassembled st.defrag f' out := by
        rcases chkDefrag_continue (not_not.1 hcont) with ⟨hfrag, h⟩ |
          ⟨sta, out, hfrag, -, -, h, h'⟩
        · exact ⟨f', h, Or.inl ⟨hfrag, rfl⟩⟩
        · exact ⟨out, h', Or.inr ⟨hfrag, sta, h⟩⟩
      obtain ⟨out, hsome, hout⟩ := hout
      refine ⟨out, hout, ?_⟩
      simp only [hsome, Option.bind_eq_bind, Option.bind_some] at hg
      by_cases hpriv : out.attrib.privacy = true
      · rw [if_pos hpriv] at hg
        obtain ⟨x, hx, hport⟩ := Option.bind_eq_some_iff.1 hg
        split_ifs at hport
        cases hport
        exact ⟨fun h => absurd hpriv (by simp [h]), recvframeChkmic_sublist hx⟩
      · rw [if_neg hpriv] at hg
        split_ifs at hg
        cases hg
        exact ⟨fun _ => rfl, List.Sublist.refl _⟩

lemma rxDataPostProcess_state (f : RecvFrame) :
    ∃ rxsc, (rxDataPostProcess cfg st f).1 = { st with rxsc } := by
  unfold rxDataPostProcess
  split_ifs
  · exact ⟨st.rxsc, rfl⟩
  · simp only [rxProcessMsdu]
    by_cases hact : msduActCheck cfg f.attrib.dst f.attrib.src = (false, false)
    · rw [if_pos hact]
      exact ⟨st.rxsc, rfl⟩
    · rw [if_neg hact]
      split <;> exact ⟨_, rfl⟩

inductive RxEvent where
  | frame (cfg : RecvCfg) (rx : RxReq)
  | rekey (sta : ℕ)

def rxStep (cr : Crypto) (st : RecvState) : RxEvent → RecvState
  | .frame cfg rx => (rxProcess cr cfg st rx).1
  | .rekey sta => { st with defrag := defragStep st.defrag (.rekey sta) }

end Rtl8831.Core
