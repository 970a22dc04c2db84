import Rtl8831.Core.Wifi
import Rtl8831.Lib.Run

/-!
# Reassembly of fragments on reception

`recvframe_chk_defrag` keeps one queue of fragments per station, whatever
their TID and sequence number.  A first fragment empties the queue, the
others are appended, and the last one makes `recvframe_defrag` join what the
queue holds.
-/

namespace Rtl8831.Core

open Lib List Function

/-- `struct rx_pkt_attrib`, as far as the receive path uses it. -/
structure RxAttrib where
  ra : List UInt8 := []
  ta : List UInt8 := []
  dst : List UInt8 := []
  src : List UInt8 := []
  toFrDs : ℕ := 0
  seqNum : ℕ := 0
  fragNum : Fin 16 := 0
  mfrag : Bool := false
  privacy : Bool := false
  order : Bool := false
  qos : Bool := false
  amsdu : Bool := false
  priority : ℕ := 0
  hdrlen : ℕ := 0
  ivLen : ℕ := 0
  icvLen : ℕ := 0
  encrypt : SecurityType := .noPrivacy
  bdecrypted : Bool := false
  deriving DecidableEq

/-- `union recv_frame`: `data` runs from `rx_data` to `rx_tail`, and `room`
bytes are left up to `rx_end`. -/
structure RecvFrame where
  attrib : RxAttrib
  psta : Option ℕ
  keytrack : ℕ
  data : List UInt8
  room : ℕ
  deriving DecidableEq

/-- `recvframe_pull`; a pull behind the tail is undone. -/
def recvframePull (f : RecvFrame) (sz : ℕ) : RecvFrame :=
  if f.data.length < sz then f else { f with data := f.data.drop sz }

def recvframePullTail (f : RecvFrame) (sz : ℕ) : RecvFrame :=
  if f.data.length < sz then f
  else { f with data := f.data.take (f.data.length - sz), room := f.room + sz }

/-- The copy to `rx_tail` with the `recvframe_put` that follows it. -/
def recvframeAppend (f : RecvFrame) (bytes : List UInt8) : RecvFrame :=
  if f.room < bytes.length then f
  else { f with data := f.data ++ bytes, room := f.room - bytes.length }

/-- `CCMPH_2_PN` of the eight bytes behind the header. -/
def ccmpPn (f : RecvFrame) : ℕ :=
  let iv := f.data.drop f.attrib.hdrlen
  le16At iv 0 + 65536 * le16At iv 4 + 4294967296 * le16At iv 6

def fragmentBody (nf : RecvFrame) : List UInt8 :=
  (recvframePull nf (nf.attrib.hdrlen + nf.attrib.ivLen)).data

def appendFragment (pf nf : RecvFrame) : RecvFrame :=
  let pf' := recvframeAppend (recvframePullTail pf pf.attrib.icvLen) (fragmentBody nf)
  { pf' with attrib := { pf'.attrib with icvLen := nf.attrib.icvLen } }

def lastPn (curPn : ℕ) (f : RecvFrame) : ℕ :=
  if f.attrib.encrypt.hasCcmpHeader then ccmpPn f else curPn

/-- The loop of `recvframe_defrag`: `pf` is the first fragment with what has
been appended to it. -/
def defragLoop (pf : RecvFrame) (curPn curfragnum : ℕ) : List RecvFrame → Option RecvFrame
  | [] => some pf
  | nf :: rest =>
    if nf.attrib.encrypt.hasCcmpHeader = true ∧ ccmpPn nf ≠ curPn + 1 then none
    else if pf.keytrack ≠ nf.keytrack then none
    else if curfragnum ≠ nf.attrib.fragNum then none
    else if pf.room < (fragmentBody nf).length then none
    else defragLoop (appendFragment pf nf) (lastPn curPn nf) (curfragnum + 1) rest

/-- `recvframe_defrag`; the queue is empty afterwards in any case. -/
def recvframeDefrag : List RecvFrame → Option RecvFrame
  | [] => none
  | pf :: rest =>
    if (0 : ℕ) ≠ pf.attrib.fragNum then none
    else defragLoop pf (lastPn 0 pf) 1 rest

/-- The stations as far as reassembly goes: the `defrag_q` and `keytrack` of
each, and which of them stands for broadcasts. -/
structure DefragPriv where
  defragQ : ℕ → List RecvFrame
  keytrack : ℕ → ℕ
  bcmc : Option ℕ

/-- The values of `enum rtw_core_rx_state` that reassembly returns. -/
inductive CoreRx where
  | continue
  | drop
  | defrag
  deriving DecidableEq

def defragSta (st : DefragPriv) (f : RecvFrame) : Option ℕ :=
  match f.psta with
  | some sta => some sta
  | none => if getFrameType f.data ≠ wifiDataType then st.bcmc else none

def isFragment (f : RecvFrame) : Bool := f.attrib.mfrag || decide (f.attrib.fragNum ≠ 0)

def trackKey (st : DefragPriv) (f : RecvFrame) : RecvFrame :=
  match defragSta st f with
  | some sta => if isFragment f then { f with keytrack := st.keytrack sta } else f
  | none => f

/-- `recvframe_chk_defrag`: the queues afterwards, the verdict, and the frame
left with the caller.  The verdict on a group-addressed fragment is set first
and then overwritten, as in the source. -/
def recvframeChkDefrag (st : DefragPriv) (f : RecvFrame) :
    DefragPriv × CoreRx × Option RecvFrame :=
  let ret := if isFragment f = true ∧ isMcast f.attrib.ra = true then CoreRx.drop else .continue
  let frame := trackKey st f
  let setQ (sta : ℕ) (q : List RecvFrame) : DefragPriv :=
    { st with defragQ := update st.defragQ sta q }
  if f.attrib.mfrag then
    match defragSta st f with
    | none => (st, .drop, some frame)
    | some sta =>
      let q := if f.attrib.fragNum = 0 then [] else st.defragQ sta
      (setQ sta (q ++ [frame]), .defrag, none)
  else if f.attrib.fragNum ≠ 0 then
    match defragSta st f with
    | none => (st, .drop, some frame)
    | some sta =>
      match recvframeDefrag (st.defragQ sta ++ [frame]) with
      | none => (setQ sta [], .drop, none)
      | some joined => (setQ sta [], .continue, some joined)
  else (st, ret, some frame)

def RecvFrame.header (f : RecvFrame) : List UInt8 :=
  f.data.take (f.attrib.hdrlen + f.attrib.ivLen)

def RecvFrame.payload (f : RecvFrame) : List UInt8 :=
  (f.data.take (f.data.length - f.attrib.icvLen)).drop (f.attrib.hdrlen + f.attrib.ivLen)

def RecvFrame.trailer (f : RecvFrame) : List UInt8 := f.data.drop (f.data.length - f.attrib.icvLen)

def RecvFrame.WellSized (f : RecvFrame) : Prop :=
  f.attrib.hdrlen + f.attrib.ivLen + f.attrib.icvLen ≤ f.data.length

instance (f : RecvFrame) : Decidable f.WellSized := inferInstanceAs (Decidable (_ ≤ _))

variable (st : DefragPriv) {f : RecvFrame} {es : List DefragEvent}

lemma RecvFrame.WellSized.body (h : f.WellSized) :
    fragmentBody f = f.payload ++ f.trailer := by
  unfold RecvFrame.WellSized at h
  have hle : ¬f.data.length < f.attrib.hdrlen + f.attrib.ivLen := by omega
  simp only [fragmentBody, recvframePull, if_neg hle, RecvFrame.payload, RecvFrame.trailer]
  conv_lhs => rw [← take_append_drop (f.data.length - f.attrib.icvLen) f.data]
  rw [drop_append_of_le_length]
  rw [length_take]
  omega

lemma RecvFrame.WellSized.data_eq (h : f.WellSized) :
    f.data = f.header ++ f.payload ++ f.trailer := by
  have hbody := h.body
  unfold RecvFrame.WellSized at h
  have hle : ¬f.data.length < f.attrib.hdrlen + f.attrib.ivLen := by omega
  simp only [fragmentBody, recvframePull, if_neg hle] at hbody
  rw [append_assoc, ← hbody, RecvFrame.header, take_append_drop]

lemma RecvFrame.WellSized.length_trailer (h : f.WellSized) :
    f.trailer.length = f.attrib.icvLen := by
  unfold RecvFrame.WellSized at h
  rw [RecvFrame.trailer, length_drop]
  omega

def PnNext (f g : RecvFrame) : Prop :=
  f.attrib.encrypt.hasCcmpHeader = true → g.attrib.encrypt.hasCcmpHeader = true →
    ccmpPn g = ccmpPn f + 1

lemma appendFragment_keytrack (pf nf : RecvFrame) :
    (appendFragment pf nf).keytrack = pf.keytrack := by
  simp only [appendFragment, recvframeAppend, recvframePullTail]
  split_ifs <;> rfl

lemma appendFragment_data {pf nf : RecvFrame} {front tail : List UInt8}
    (hdata : pf.data = front ++ tail) (hicv : tail.length = pf.attrib.icvLen)
    (hroom : ¬pf.room < (fragmentBody nf).length) :
    (appendFragment pf nf).data = front ++ fragmentBody nf := by
  have hlen : ¬pf.data.length < pf.attrib.icvLen := by
    rw [hdata, length_append]
    omega
  have htake : pf.data.length - pf.attrib.icvLen = front.length := by
    rw [hdata, length_append]
    omega
  have hroom' : ¬pf.room + pf.attrib.icvLen < (fragmentBody nf).length := by omega
  simp only [appendFragment, recvframeAppend, recvframePullTail, if_neg hlen, if_neg hroom']
  rw [htake, hdata, take_left]

lemma defragLoop_checks {pf out prev : RecvFrame} {curPn cur : ℕ} {fs : List RecvFrame}
    (h : defragLoop pf curPn cur fs = some out)
    (hprev : prev.attrib.encrypt.hasCcmpHeader = true → curPn = ccmpPn prev) :
    (∀ i f, fs[i]? = some f → (f.attrib.fragNum : ℕ) = cur + i) ∧
    (∀ f ∈ fs, f.keytrack = pf.keytrack) ∧ (prev :: fs).IsChain PnNext := by
  induction fs generalizing pf prev curPn cur with
  | nil => simp
  | cons nf rest ih =>
    simp only [defragLoop] at h
    split_ifs at h with hpn hkey hnum hroom
    have hlast : nf.attrib.encrypt.hasCcmpHeader = true → lastPn curPn nf = ccmpPn nf :=
      fun hccmp => if_pos hccmp
    obtain ⟨hnums, hkeys, hchain⟩ := ih h hlast
    refine ⟨?_, ?_, isChain_cons_cons.2 ⟨?_, hchain⟩⟩
    · intro i f hi
      cases i with
      | zero =>
        cases hi
        omega
      | succ i =>
        have hnum' := hnums i f hi
        omega
    · intro f hf
      rcases mem_cons.1 hf with rfl | hf
      · exact (not_not.1 hkey).symm
      · exact (hkeys f hf).trans (appendFragment_keytrack pf nf)
    · intro hp hn
      rw [← hprev hp]
      by_contra hne
      exact hpn ⟨hn, hne⟩

lemma defragLoop_data {pf out : RecvFrame} {curPn cur : ℕ} {fs : List RecvFrame}
    {front tail : List UInt8} (h : defragLoop pf curPn cur fs = some out)
    (hsize : ∀ f ∈ fs, f.WellSized) (hdata : pf.data = front ++ tail)
    (hicv : tail.length = pf.attrib.icvLen) :
    out.data = front ++ (fs.map RecvFrame.payload).flatten ++
      (fs.getLast?.elim tail RecvFrame.trailer) := by
  induction fs generalizing pf curPn cur front tail with
  | nil =>
    simp only [defragLoop, Option.some.injEq] at h
    simp [← h, hdata]
  | cons nf rest ih =>
    simp only [defragLoop] at h
    split_ifs at h with hpn hkey hnum hroom
    have hnf := hsize nf mem_cons_self
    have happ : (appendFragment pf nf).data = (front ++ nf.payload) ++ nf.trailer := by
      rw [appendFragment_data hdata hicv hroom, hnf.body, append_assoc]
    rw [ih h (fun f hf => hsize f (mem_cons_of_mem _ hf)) happ hnf.length_trailer]
    cases rest with
    | nil => simp
    | cons g rest =>
      obtain ⟨z, hz⟩ : ∃ z, (g :: rest).getLast? = some z :=
        ⟨_, getLast?_eq_some_getLast (cons_ne_nil g rest)⟩
      rw [getLast?_cons_cons, hz]
      simp only [Option.elim_some, map_cons, flatten_cons, append_assoc]

structure Joined (first : RecvFrame) (rest : List RecvFrame) (out : RecvFrame) : Prop where
  numbers : ∀ i f, (first :: rest)[i]? = some f → (f.attrib.fragNum : ℕ) = i
  sameTa : ∀ f ∈ rest, f.attrib.ta = first.attrib.ta
  sameSeq : ∀ f ∈ rest, f.attrib.seqNum = first.attrib.seqNum
  individual : ∀ f ∈ first :: rest, isMcast f.attrib.ra = false
  sameKey : ∀ f ∈ rest, f.keytrack = first.keytrack
  samePrivacy : ∀ f ∈ rest, f.attrib.privacy = first.attrib.privacy
  pn : (first :: rest).IsChain PnNext
  data : out.data = first.header ++ ((first :: rest).map RecvFrame.payload).flatten ++
    (rest.getLast?.elim first.trailer RecvFrame.trailer)

structure Related (f g : RecvFrame) : Prop where
  ta : f.attrib.ta = g.attrib.ta
  seqNum : f.attrib.seqNum = g.attrib.seqNum
  privacy : f.attrib.privacy = g.attrib.privacy

lemma recvframeDefrag_joined {fs : List RecvFrame} {out last : RecvFrame}
    (h : recvframeDefrag fs = some out) (hone : ∀ f ∈ fs, isMcast f.attrib.ra = false)
    (hrel : (∀ i f, fs[i]? = some f → (f.attrib.fragNum : ℕ) = i) →
      ∀ f ∈ fs, f.WellSized ∧ Related f last) :
    ∃ first rest, fs = first :: rest ∧ Joined first rest out := by
  cases fs with
  | nil => simp [recvframeDefrag] at h
  | cons first rest =>
    simp only [recvframeDefrag] at h
    split_ifs at h with hzero
    have hlast : first.attrib.encrypt.hasCcmpHeader = true → lastPn 0 first = ccmpPn first :=
      fun hccmp => if_pos hccmp
    obtain ⟨hnums, hkeys, hchain⟩ := defragLoop_checks h hlast
    have hnumbers : ∀ i f, (first :: rest)[i]? = some f → (f.attrib.fragNum : ℕ) = i := by
      intro i f hi
      cases i with
      | zero =>
        cases hi
        exact (not_not.1 hzero).symm
      | succ i =>
        have hi' := hnums i f hi
        omega
    have hall := hrel hnumbers
    have hfirst := hall first mem_cons_self
    have hrest : ∀ f ∈ rest, f.WellSized ∧ Related f last := fun f hf =>
      hall f (mem_cons_of_mem _ hf)
    refine ⟨first, rest, rfl, hnumbers, ?_, ?_, hone, hkeys, ?_, hchain, ?_⟩
    · exact fun f hf => (hrest f hf).2.ta.trans hfirst.2.ta.symm
    · exact fun f hf => (hrest f hf).2.seqNum.trans hfirst.2.seqNum.symm
    · exact fun f hf => (hrest f hf).2.privacy.trans hfirst.2.privacy.symm
    · rw [defragLoop_data h (fun f hf => (hrest f hf).1) hfirst.1.data_eq
        hfirst.1.length_trailer, map_cons, flatten_cons]
      simp only [append_assoc]

inductive DefragEvent where
  | frame (f : RecvFrame)
  | rekey (sta : ℕ)

def defragStep (st : DefragPriv) : DefragEvent → DefragPriv
  | .frame f => (recvframeChkDefrag st f).1
  | .rekey sta => { st with keytrack := update st.keytrack sta (st.keytrack sta + 1) }

def DefragPriv.init (keytrack : ℕ → ℕ) (bcmc : Option ℕ) : DefragPriv :=
  { defragQ := fun _ => [], keytrack, bcmc }

/-- A fragment that finds a queue is individually addressed, and a last one
belongs to what the queue holds whenever the numbers run from zero on. -/
def FragmentOk (st : DefragPriv) : DefragEvent → Prop
  | .frame f => ∀ sta, isFragment f = true → defragSta st f = some sta →
      isMcast f.attrib.ra = false ∧
      (f.attrib.mfrag = false →
        (∀ i g, (st.defragQ sta ++ [trackKey st f])[i]? = some g →
          (g.attrib.fragNum : ℕ) = i) →
        ∀ g ∈ st.defragQ sta ++ [trackKey st f], g.WellSized ∧ Related g f)
  | .rekey _ => True

lemma trackKey_eq (f : RecvFrame) :
    trackKey st f = { f with keytrack := (trackKey st f).keytrack } := by
  unfold trackKey
  split
  · split_ifs <;> rfl
  · rfl

def FrameOf (es : List DefragEvent) (g : RecvFrame) : Prop :=
  ∃ f, DefragEvent.frame f ∈ es ∧ g = { f with keytrack := g.keytrack }

lemma FrameOf.mono {g : RecvFrame} (h : FrameOf es g)
    (e : DefragEvent) : FrameOf (es ++ [e]) g := by
  obtain ⟨f, hf, hg⟩ := h
  exact ⟨f, mem_append_left _ hf, hg⟩

lemma chkDefrag_queue {st : DefragPriv} {f g : RecvFrame} {sta : ℕ}
    (hg : g ∈ (recvframeChkDefrag st f).1.defragQ sta) :
    g ∈ st.defragQ sta ∨
      (g = trackKey st f ∧ isFragment f = true ∧ defragSta st f = some sta) := by
  unfold recvframeChkDefrag at hg
  by_cases hmf : f.attrib.mfrag = true
  · simp only [hmf, ↓reduceIte] at hg
    cases hsta : defragSta st f with
    | none =>
      simp only [hsta] at hg
      exact Or.inl hg
    | some t =>
      simp only [hsta] at hg
      by_cases heq : sta = t
      · subst heq
        simp only [update_self, mem_append, mem_singleton] at hg
        rcases hg with hg | hg
        · split_ifs at hg
          · simp at hg
          · exact Or.inl hg
        · exact Or.inr ⟨hg, by simp [isFragment, hmf], rfl⟩
      · rw [update_of_ne heq] at hg
        exact Or.inl hg
  · by_cases hnum : f.attrib.fragNum = 0
    · simp only [hmf, Bool.false_eq_true, ↓reduceIte, hnum, ne_eq, not_true_eq_false] at hg
      exact Or.inl hg
    · simp only [hmf, Bool.false_eq_true, ↓reduceIte, hnum, ne_eq, not_false_eq_true] at hg
      cases hsta : defragSta st f with
      | none =>
        simp only [hsta] at hg
        exact Or.inl hg
      | some t =>
        simp only [hsta] at hg
        by_cases heq : sta = t
        · subst heq
          split at hg <;> simp at hg
        · split at hg <;>
          · simp only [update_of_ne heq] at hg
            exact Or.inl hg

lemma chkDefrag_drop {st : DefragPriv} {f : RecvFrame} {sta : ℕ}
    (hdrop : (recvframeChkDefrag st f).2.1 = .drop) (hfrag : isFragment f = true)
    (hsta : defragSta st f = some sta) : (recvframeChkDefrag st f).1.defragQ sta = [] := by
  unfold recvframeChkDefrag at hdrop ⊢
  by_cases hmf : f.attrib.mfrag = true
  · simp only [hmf, ↓reduceIte, hsta] at hdrop
    contradiction
  · have hnum : f.attrib.fragNum ≠ 0 := by simpa [isFragment, hmf] using hfrag
    simp only [hmf, Bool.false_eq_true, ↓reduceIte, hnum, ne_eq, not_false_eq_true, hsta]
      at hdrop ⊢
    split at hdrop
    · simp
    · contradiction

lemma chkDefrag_continue {st : DefragPriv} {f : RecvFrame}
    (hcont : (recvframeChkDefrag st f).2.1 = .continue) :
    (isFragment f = false ∧ (recvframeChkDefrag st f).2.2 = some f) ∨
    ∃ sta out, isFragment f = true ∧ f.attrib.mfrag = false ∧ defragSta st f = some sta ∧
      recvframeDefrag (st.defragQ sta ++ [trackKey st f]) = some out ∧
      (recvframeChkDefrag st f).2.2 = some out := by
  unfold recvframeChkDefrag at hcont ⊢
  by_cases hmf : f.attrib.mfrag = true
  · simp only [hmf, ↓reduceIte] at hcont
    cases hsta : defragSta st f with
    | none => simp [hsta] at hcont
    | some sta => simp [hsta] at hcont
  · by_cases hnum : f.attrib.fragNum = 0
    · left
      have hfrag : isFragment f = false := by simp [isFragment, hmf, hnum]
      have htrack : trackKey st f = f := by
        unfold trackKey
        cases defragSta st f <;> simp [hfrag]
      simp [hmf, hnum, htrack, hfrag]
    · right
      have hfrag : isFragment f = true := by simp [isFragment, hnum]
      simp only [hmf, Bool.false_eq_true, ↓reduceIte, hnum, ne_eq, not_false_eq_true]
        at hcont ⊢
      cases hsta : defragSta st f with
      | none => simp [hsta] at hcont
      | some sta =>
        simp only [hsta] at hcont ⊢
        cases hjoin : recvframeDefrag (st.defragQ sta ++ [trackKey st f]) with
        | none => simp [hjoin] at hcont
        | some out => exact ⟨sta, out, hfrag, trivial, rfl, hjoin, rfl⟩

def QueueInv (es : List DefragEvent) (st : DefragPriv) : Prop :=
  ∀ sta g, g ∈ st.defragQ sta → isMcast g.attrib.ra = false ∧ FrameOf es g

lemma trackKey_frameOf (f : RecvFrame) (es : List DefragEvent) :
    FrameOf (es ++ [.frame f]) (trackKey st f) :=
  ⟨f, by simp, trackKey_eq st f⟩

lemma trackKey_attrib (f : RecvFrame) : (trackKey st f).attrib = f.attrib := by
  rw [trackKey_eq]

lemma QueueInv.step {st : DefragPriv} {e : DefragEvent}
    (h : QueueInv es st) (hok : FragmentOk st e) : QueueInv (es ++ [e]) (defragStep st e) := by
  cases e with
  | rekey sta => exact fun sta' g hg => ⟨(h sta' g hg).1, (h sta' g hg).2.mono _⟩
  | frame f =>
    intro sta g hg
    rcases chkDefrag_queue hg with hg | ⟨rfl, hfrag, hsta⟩
    · exact ⟨(h sta g hg).1, (h sta g hg).2.mono _⟩
    · rw [trackKey_attrib]
      exact ⟨(hok sta hfrag hsta).1, trackKey_frameOf st f es⟩

def plainFragment (seqNum : ℕ) (fragNum : Fin 16) (mfrag : Bool) (body : List UInt8) :
    RecvFrame where
  attrib :=
    { ra := [2, 0, 0, 0, 0, 1], ta := [2, 0, 0, 0, 0, 2], dst := [2, 0, 0, 0, 0, 1]
      src := [2, 0, 0, 0, 0, 2], toFrDs := 1, seqNum, fragNum, mfrag, hdrlen := 24 }
  psta := some 0
  keytrack := 0
  data := [8, if mfrag then 6 else 2, 0, 0, 2, 0, 0, 0, 0, 1, 2, 0, 0, 0, 0, 2, 2, 0, 0, 0, 0, 2,
    UInt8.ofNat (16 * seqNum + fragNum), UInt8.ofNat (seqNum / 16)] ++ body
  room := 1000

end Rtl8831.Core
