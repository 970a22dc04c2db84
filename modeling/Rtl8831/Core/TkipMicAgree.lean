import Rtl8831.Core.RecvSpec
import Rtl8831.Core.TkipMic
import Rtl8831.Core.XmitFrag

/-!
# TKIP MICs that are sent and checked

The MIC stored for an MSDU against what it ought to cover, and against the check on the other
side.  Of an MSDU in several fragments only what is listed for the first one is covered, and
without a tail not even all of that.
-/

namespace Rtl8831.Core

open Lib List

/-! ## Reading of the check -/

section

variable {p : List UInt8}

lemma testBit_getToDs : (byteAt p 1).toNat.testBit 0 = getToDs p := by
  have hlow := (byteAt p 0).toNat_lt
  unfold getToDs le16At
  rw [Nat.zero_add, Nat.testBit_eq_decide_div_mod_eq, Nat.testBit_eq_decide_div_mod_eq]
  congr 2
  omega

lemma testBit_getFrDs : (byteAt p 1).toNat.testBit 1 = getFrDs p := by
  have hlow := (byteAt p 0).toNat_lt
  unfold getFrDs le16At
  rw [Nat.zero_add, Nat.testBit_eq_decide_div_mod_eq, Nat.testBit_eq_decide_div_mod_eq]
  congr 2
  omega

end

/-- What validation leaves in the attributes of a frame; lengths of headers are `u8` there. -/
structure RxSized (mem : ℕ → UInt8) (frameLen : ℕ) (a : RxAttrib) : Prop where
  header : 24 ≤ a.hdrlen
  addr4 : (mem 1).toNat.testBit 0 = true → (mem 1).toNat.testBit 1 = true → 30 ≤ a.hdrlen
  hdrlen_lt : a.hdrlen < 256
  ivLen_lt : a.ivLen < 256
  icvLen_lt : a.icvLen < 256
  len_lt : frameLen < 2 ^ 32

def MicChecked (a : RxAttrib) (psta : Bool) (keys : RxMicKeys) : Prop :=
  a.encrypt = .tkip ∧ psta = true ∧ (isMcast a.ra = true → keys.binstallGrpkey = true)

def MicFits (frameLen : ℕ) (a : RxAttrib) : Prop := a.hdrlen + a.ivLen + 8 + a.icvLen ≤ frameLen

section

variable {mem : ℕ → UInt8} {frameLen : ℕ} {a : RxAttrib} {psta : Bool} {keys : RxMicKeys}

lemma micDataLen_of_fits (hfits : MicFits frameLen a) (hlen : frameLen < 2 ^ 32) :
    a.hdrlen + a.ivLen + micDataLen frameLen a + 8 + a.icvLen = frameLen := by
  unfold MicFits at hfits
  unfold micDataLen u32
  omega

lemma seccalctkipmic_below (h : RxSized mem frameLen a) (hfits : MicFits frameLen a)
    (key : List UInt8) (pri : UInt8) :
    (seccalctkipmic mem key 0 (a.hdrlen + a.ivLen) (micDataLen frameLen a) pri).Below frameLen := by
  have hlen := micDataLen_of_fits hfits h.len_lt
  have hheader := h.header
  unfold seccalctkipmic
  simp only [Reading.below_bind_iff, val_readByte]
  refine ⟨below_readByte_iff.2 (by omega), below_readBytes ?_, below_readBytes ?_,
    below_readBytes (by omega), Reading.below_pure _ _⟩
  · split
    · omega
    · omega
  · split
    · split
      · rename_i hfr hto
        have := h.addr4 hto hfr
        omega
      · omega
    · omega

lemma recvframeChkmicAt_of_checked (h : MicChecked a psta keys) :
    (recvframeChkmicAt mem frameLen a psta keys).reads =
      (seccalctkipmic mem (keys.select a) 0 (a.hdrlen + a.ivLen) (micDataLen frameLen a)
        (UInt8.ofNat a.priority)).reads ++
      (readBytes mem (a.hdrlen + a.ivLen + micDataLen frameLen a) 8).reads := by
  obtain ⟨htkip, rfl, hgroup⟩ := h
  unfold recvframeChkmicAt
  rw [if_neg (not_not.2 htkip), if_neg (by decide), if_neg]
  · simp only [Reading.reads_bind, Reading.reads_pure, append_nil]
  · rintro ⟨hmc, hno⟩
    rw [hgroup hmc] at hno
    cases hno

lemma recvframeChkmicAt_below_iff (h : RxSized mem frameLen a) :
    (recvframeChkmicAt mem frameLen a psta keys).Below frameLen ↔
      (MicChecked a psta keys → MicFits frameLen a) := by
  by_cases hchecked : MicChecked a psta keys
  · have hreads : (recvframeChkmicAt mem frameLen a psta keys).Below frameLen ↔
        (seccalctkipmic mem (keys.select a) 0 (a.hdrlen + a.ivLen) (micDataLen frameLen a)
          (UInt8.ofNat a.priority)).Below frameLen ∧
        (readBytes mem (a.hdrlen + a.ivLen + micDataLen frameLen a) 8).Below frameLen := by
      unfold Reading.Below
      rw [recvframeChkmicAt_of_checked hchecked]
      exact forall_mem_append
    rw [hreads, below_readBytes_iff (by decide)]
    constructor
    · rintro ⟨-, hmic⟩ -
      -- a length that wraps reaches 4 GiB behind the frame
      have hivLen := h.ivLen_lt
      have hhdrlen := h.hdrlen_lt
      have hicvLen := h.icvLen_lt
      unfold micDataLen u32 at hmic
      unfold MicFits
      omega
    · intro hfits
      have hlen := micDataLen_of_fits (hfits hchecked) h.len_lt
      exact ⟨seccalctkipmic_below h (hfits hchecked) _ _, by omega⟩
  · refine iff_of_true ?_ fun hyes => absurd hyes hchecked
    unfold recvframeChkmicAt
    split
    · exact Reading.below_pure _ _
    · split
      · exact Reading.below_pure _ _
      · rename_i htkip hsta
        rw [if_pos]
        · exact Reading.below_pure _ _
        · by_contra hgroup
          push Not at hgroup
          exact hchecked ⟨not_not.1 htkip, eq_true_of_ne_false hsta, fun hmc =>
            eq_true_of_ne_false (hgroup hmc)⟩

end

/-! ## The message on the other side -/

def rxMicDa (p : List UInt8) : List UInt8 := if getToDs p then getAddr3 p else getAddr1 p

def rxMicSa (p : List UInt8) : List UInt8 :=
  if getFrDs p then if getToDs p then getAddr4 p else getAddr3 p else getAddr2 p

/-- What the receiver computes the MIC of, with `body` between header and MIC. -/
def rxMicMessage (p : List UInt8) (pri : ℕ) (body : List UInt8) : List UInt8 :=
  rxMicDa p ++ (rxMicSa p ++ ([UInt8.ofNat pri, 0, 0, 0] ++ body))

section

variable {p front body mic icv : List UInt8} {a : RxAttrib} {keys : RxMicKeys}

lemma readBytes_byteAt {i n : ℕ} (h : i + n ≤ p.length) :
    (readBytes (byteAt p) i n).val = slice p i n := by
  have hslice := stores_slice (stores_byteAt_drop p 0) (i := i) (n := n) (by simpa using h)
  rwa [Nat.zero_add, drop_zero] at hslice

lemma seccalctkipmic_val {data n : ℕ} (hheader : 30 ≤ p.length) (hdata : data + n ≤ p.length)
    (key : List UInt8) (pri : ℕ) :
    (seccalctkipmic (byteAt p) key 0 data n (UInt8.ofNat pri)).val =
      micBytes (Michael.mic (micKey key) (rxMicMessage p pri (slice p data n))) := by
  have hda : (readBytes (byteAt p) (0 + if getToDs p then 16 else 4) 6).val = rxMicDa p := by
    rw [Nat.zero_add, readBytes_byteAt (by split <;> omega)]
    unfold rxMicDa getAddr1 getAddr3
    split
    · rfl
    · rfl
  have hsa : (readBytes (byteAt p)
      (0 + if getFrDs p then if getToDs p then 24 else 16 else 10) 6).val = rxMicSa p := by
    rw [Nat.zero_add, readBytes_byteAt (by split <;> (try split) <;> omega)]
    unfold rxMicSa getAddr2 getAddr3 getAddr4
    split
    · split
      · rfl
      · rfl
    · rfl
  unfold seccalctkipmic
  simp only [Reading.val_bind, Reading.val_pure, val_readByte, Nat.zero_add 1, testBit_getToDs,
    testBit_getFrDs]
  rw [hda, hsa, readBytes_byteAt hdata]
  simp only [← secmicappend_append, secgetmic_append, rxMicMessage, append_assoc]

variable (front) in
lemma recvframeChkmicAt_res (hchecked : MicChecked a true keys)
    (hp : p = front ++ (body ++ (mic ++ icv))) (hfront : front.length = a.hdrlen + a.ivLen)
    (hmic : mic.length = 8) (hicv : icv.length = a.icvLen) (hlen : p.length < 2 ^ 32)
    (hheader : 30 ≤ p.length) :
    (recvframeChkmicAt (byteAt p) p.length a true keys).val.res = true ↔
      micBytes (Michael.mic (micKey (keys.select a)) (rxMicMessage p a.priority body)) = mic := by
  have hlength : p.length = a.hdrlen + a.ivLen + (body.length + (8 + a.icvLen)) := by
    rw [hp, length_append, length_append, length_append, hfront, hmic, hicv]
  have hdatalen : micDataLen p.length a = body.length := by
    unfold micDataLen u32
    omega
  have hbody : slice p (a.hdrlen + a.ivLen) body.length = body := by
    rw [hp, ← hfront, slice, drop_left, take_left]
  have hmicAt : slice p (a.hdrlen + a.ivLen + body.length) 8 = mic := by
    rw [hp, ← hfront, ← length_append, ← append_assoc, slice, drop_left, ← hmic,
      take_left]
  obtain ⟨htkip, -, hgroup⟩ := hchecked
  unfold recvframeChkmicAt
  rw [if_neg (not_not.2 htkip), if_neg (by decide), if_neg]
  · simp only [Reading.val_bind, Reading.val_pure]
    rw [hdatalen, seccalctkipmic_val hheader (by omega), readBytes_byteAt (by omega), hbody, hmicAt,
      decide_eq_true_iff]
  · rintro ⟨hmc, hno⟩
    rw [hgroup hmc] at hno
    cases hno

end

/-! ## What is covered -/

lemma pktListAppend_ne_nil {bytes b : List UInt8} (h : b ∈ pktListAppend bytes) : b ≠ [] := by
  unfold pktListAppend at h
  split at h
  · cases h
  · rw [mem_singleton.1 h]
    assumption

lemma fillPages_ne_nil {pages : List (List UInt8)} {remSz offset : ℕ} {b : List UInt8}
    (h : b ∈ (fillPages pages remSz offset).1) : b ≠ [] := by
  induction pages generalizing remSz offset with
  | nil => cases h
  | cons page rest ih =>
    rw [fillPages] at h
    split at h
    · split at h
      · exact pktListAppend_ne_nil h
      · rcases mem_append.1 h with h | h
        · exact pktListAppend_ne_nil h
        · exact ih h
    · exact ih h

lemma fillTxreqListParts_ne_nil {parts : List SkbPart} {remSz offset : ℕ} {b : List UInt8}
    (h : b ∈ fillTxreqListParts parts remSz offset) : b ≠ [] := by
  induction parts generalizing remSz offset with
  | nil => cases h
  | cons p rest ih =>
    rw [fillTxreqListParts] at h
    rcases mem_append.1 h with h | h
    · unfold fillTxreqListPart at h
      split at h
      · rcases mem_append.1 h with h | h
        · exact pktListAppend_ne_nil h
        · exact fillPages_ne_nil h
      · exact fillPages_ne_nil h
    · exact ih h

lemma length_flatten_dropLast {pieces : List (List UInt8)} (hne : ∀ b ∈ pieces, b ≠ [])
    (h : pieces ≠ []) : pieces.dropLast.flatten.length < pieces.flatten.length := by
  nth_rewrite 2 [← dropLast_append_getLast h]
  rw [flatten_append, length_append, flatten_singleton]
  have hlast := length_pos_iff.2 (hne _ (getLast_mem h))
  omega

namespace TxMsdu

variable (m : TxMsdu)

def msdu : List UInt8 := putSnap m.attrib.etherType ++ m.skb.bytes.drop 14

def micMessage : List UInt8 :=
  macBytes m.attrib.dst ++ (macBytes m.attrib.src ++ (txMicPriority m.attrib ++ m.msdu))

/-- The header of the first of `n` fragments. -/
def firstHdr (cfg : TxCfg) (c : TxCounters) (n : ℕ) : WlanHdr :=
  { (makeWlanhdr cfg c m.attrib).2.2 with mfrag := decide (0 + 1 ≠ n) }

/-- The payload that is requested for the first of `n` fragments. -/
def firstSz (fragPerfr n : ℕ) : ℕ :=
  if 0 + 1 = n then u32 (m.skb.len - 14) else u32 (fragPerfr - rtwSzLlc)

def firstTail (n : ℕ) : ℕ :=
  (if 0 + 1 = n then micLen m.attrib else 0) +
    if m.attrib.encrypt ≠ .noPrivacy ∧ m.attrib.bswenc = true then m.attrib.icvLen else 0

lemma firstHdr_length (cfg : TxCfg) (c : TxCounters) (n : ℕ) :
    (m.firstHdr cfg c n).bytes.length = m.attrib.hdrlen := by
  rw [← m.wlanHdr_length cfg c, WlanHdr.bytes_length, WlanHdr.bytes_length]
  rfl

lemma fillHeads_first (cfg : TxCfg) (c : TxCounters) (n k : ℕ) :
    ∃ rest, (fillHeads cfg n (k + 1) 0 c m.attrib).2.2 =
      ((m.firstHdr cfg c n).bytes ++ m.iv cfg c ++ putSnap m.attrib.etherType) :: rest := by
  obtain ⟨seqnum, ampduEn, ha⟩ := makeWlanhdr_attrib cfg c m.attrib
  have hsnap : (if True ∧ (makeWlanhdr cfg c m.attrib).2.1.amsdu = false then
      putSnap (makeWlanhdr cfg c m.attrib).2.1.etherType else []) =
        putSnap m.attrib.etherType := by
    rw [if_pos ⟨trivial, by rw [ha]; exact m.single⟩, ha]
  rw [fillHeads]
  simp only
  rw [hsnap]
  exact ⟨_, rfl⟩

end TxMsdu

section

variable {cfg : TxCfg} {c : TxCounters} {m : TxMsdu} {reqs out : List (List (List UInt8))}
  {fragPerfr k : ℕ}

lemma txRequests_first (h : txRequests cfg c m = some reqs)
    (hparas : getWlFragParas cfg.fragLen m.attrib = (fragPerfr, k + 1)) :
    ∃ rest, reqs =
      (((m.firstHdr cfg c (k + 1)).bytes ++ m.iv cfg c ++ putSnap m.attrib.etherType) ::
        (fillTxreqListSkb m.skb (m.firstSz fragPerfr (k + 1)) 14 ++
          pktListAppend (replicate (m.firstTail (k + 1)) 0))) :: rest := by
  obtain ⟨heads, hheads⟩ := m.fillHeads_first cfg c (k + 1) k
  rw [txRequests_eq h hparas, hheads, perfrag]
  exact ⟨_, rfl⟩

lemma micLlc_eq (h : txRequests cfg c m = some reqs)
    (hparas : getWlFragParas cfg.fragLen m.attrib = (fragPerfr, k + 1)) :
    micLlc m.attrib reqs = putSnap m.attrib.etherType := by
  obtain ⟨rest, rfl⟩ := txRequests_first h hparas
  have hfront : ((m.firstHdr cfg c (k + 1)).bytes ++ m.iv cfg c).length =
      m.attrib.hdrlen + m.attrib.ivLen := by
    rw [length_append, m.firstHdr_length, m.iv_length]
  unfold micLlc
  simp only [headD_cons]
  rw [slice, ← hfront, drop_left, ← length_putSnap m.attrib.etherType, take_length]

lemma pieces_with_tail {pieces : List (List UInt8)} {sz t : ℕ} (ht : t ≠ 0)
    (hpieces : pieces = fillTxreqListSkb m.skb sz 14) :
    (pieces ++ pktListAppend (replicate t 0)).dropLast.flatten = m.skb.bytes.drop 14 ↔
      m.attrib.pktlen ≤ sz := by
  have htail : pktListAppend (replicate t (0 : UInt8)) = [replicate t 0] :=
    if_neg (mt (replicate_eq_nil_iff _).1 ht)
  have hpktlen : (m.skb.bytes.drop 14).length = m.attrib.pktlen := by
    rw [length_drop, m.pktlen, Skb.len]
  rw [htail, dropLast_concat, hpieces, fillTxreqListSkb_flatten, slice, ← hpktlen]
  constructor
  · intro heq
    rw [← heq]
    exact length_take_le _ _
  · exact take_of_length_le

lemma pieces_without_tail {pieces : List (List UInt8)} {sz : ℕ}
    (hpieces : pieces = fillTxreqListSkb m.skb sz 14) :
    (pieces ++ pktListAppend (replicate 0 0)).dropLast.flatten = m.skb.bytes.drop 14 ↔
      m.attrib.pktlen = 0 := by
  have hpktlen : (m.skb.bytes.drop 14).length = m.attrib.pktlen := by
    rw [length_drop, m.pktlen, Skb.len]
  have hflatten : pieces.flatten = (m.skb.bytes.drop 14).take sz := by
    rw [hpieces, fillTxreqListSkb_flatten, slice]
  have htail : pktListAppend (replicate 0 (0 : UInt8)) = [] := rfl
  rw [htail, append_nil]
  by_cases hnil : pieces = []
  · rw [hnil, ← hpktlen, length_eq_zero_iff]
    exact eq_comm
  · have hshort := length_flatten_dropLast
      (fun b hb => fillTxreqListParts_ne_nil (by rw [hpieces] at hb; exact hb)) hnil
    rw [hflatten, length_take] at hshort
    constructor
    · intro heq
      rw [heq] at hshort
      omega
    · intro hzero
      omega

lemma micPieces_eq_iff (h : txRequests cfg c m = some reqs) (htkip : m.attrib.encrypt = .tkip)
    (hparas : getWlFragParas cfg.fragLen m.attrib = (fragPerfr, k + 1)) :
    (micPieces reqs).flatten = m.skb.bytes.drop 14 ↔
      k = 0 ∨ m.attrib.pktlen = 0 ∨ m.attrib.bswenc = true ∧ m.attrib.icvLen ≠ 0 ∧
        m.attrib.pktlen ≤ u32 (fragPerfr - rtwSzLlc) := by
  obtain ⟨rest, rfl⟩ := txRequests_first h hparas
  unfold micPieces
  simp only [headD_cons, tail_cons]
  have hpktlen := m.pktlen
  have hlt := m.len_lt
  have hge := m.len_ge
  cases k with
  | zero =>
    have htail : m.firstTail (0 + 1) ≠ 0 := by
      simp only [TxMsdu.firstTail, micLen, htkip, if_true]
      omega
    rw [pieces_with_tail htail rfl, TxMsdu.firstSz, if_pos rfl, u32]
    exact iff_of_true (by omega) (Or.inl rfl)
  | succ k =>
    have hsz : m.firstSz fragPerfr (k + 1 + 1) = u32 (fragPerfr - rtwSzLlc) :=
      if_neg (by omega)
    have htail : m.firstTail (k + 1 + 1) =
        if m.attrib.bswenc = true then m.attrib.icvLen else 0 := by
      rw [TxMsdu.firstTail, if_neg (by omega), htkip, Nat.zero_add]
      simp
    rw [hsz, htail]
    by_cases ht : m.attrib.bswenc = true ∧ m.attrib.icvLen ≠ 0
    · rw [if_pos ht.1, pieces_with_tail ht.2 rfl]
      simp only [ht.1, true_and]
      omega
    · have hzero : (if m.attrib.bswenc = true then m.attrib.icvLen else 0) = 0 := by
        split
        · rename_i hsw
          by_contra hne
          exact ht ⟨hsw, hne⟩
        · rfl
      rw [hzero, pieces_without_tail rfl]
      constructor
      · exact fun hnone => Or.inr (Or.inl hnone)
      · rintro (hk | hnone | ⟨hsw, hicv, -⟩)
        · cases hk
        · exact hnone
        · exact absurd ⟨hsw, hicv⟩ ht

end

def TxMsdu.MicCovers (m : TxMsdu) (fragLen : ℕ) : Prop :=
  (getWlFragParas fragLen m.attrib).2 = 1 ∨
    2 ≤ (getWlFragParas fragLen m.attrib).2 ∧
      (m.attrib.pktlen = 0 ∨ m.attrib.bswenc = true ∧ m.attrib.icvLen ≠ 0 ∧
        m.attrib.pktlen ≤ u32 ((getWlFragParas fragLen m.attrib).1 - rtwSzLlc))

section

variable {cfg : TxCfg} {c : TxCounters} {m : TxMsdu} {reqs out : List (List (List UInt8))}
  {fragPerfr k : ℕ}

lemma micFed_eq_iff (h : txRequests cfg c m = some reqs) (htkip : m.attrib.encrypt = .tkip) :
    micFed m.attrib reqs = m.micMessage ↔ m.MicCovers cfg.fragLen := by
  obtain ⟨⟨fragPerfr, n⟩, hparas⟩ : ∃ paras, getWlFragParas cfg.fragLen m.attrib = paras := ⟨_, rfl⟩
  unfold micFed TxMsdu.micMessage TxMsdu.msdu TxMsdu.MicCovers
  rw [hparas, append_cancel_left_eq, append_cancel_left_eq, append_cancel_left_eq]
  cases n with
  | zero =>
    rw [txRequests_eq h hparas]
    refine iff_of_false (fun heq => ?_) (by omega)
    have hlen := congrArg length heq
    have hempty : micLlc m.attrib [] ++ (micPieces []).flatten = [] := by
      simp [micLlc, micPieces, slice]
    change (micLlc m.attrib [] ++ (micPieces []).flatten).length = _ at hlen
    rw [hempty, length_append, length_putSnap, length_nil] at hlen
    omega
  | succ k =>
    rw [micLlc_eq h hparas, append_cancel_left_eq, micPieces_eq_iff h htkip hparas]
    by_cases hk : k = 0
    · exact iff_of_true (Or.inl hk) (Or.inl (by omega))
    · rw [or_iff_right hk]
      constructor
      · exact fun hcovers => Or.inr ⟨Nat.succ_le_succ (Nat.one_le_iff_ne_zero.2 hk), hcovers⟩
      · rintro (hone | ⟨-, hcovers⟩)
        · exact absurd (Nat.succ.inj hone) hk
        · exact hcovers

/-! ## The last fragment -/

lemma fillHeads_getElem? {n k idx i : ℕ} {a : TxAttrib} {head : List UInt8}
    (hlen : 24 ≤ a.hdrlen) (hi : (fillHeads cfg n k idx c a).2.2[i]? = some head) :
    ∃ (hdr : WlanHdr) (iv llc : List UInt8), head = hdr.bytes ++ (iv ++ llc) ∧
      hdr.mfrag = decide (idx + i + 1 ≠ n) ∧ hdr.bytes.length = a.hdrlen ∧
      iv.length = a.ivLen ∧ (idx + i ≠ 0 → llc = []) := by
  induction k generalizing idx i c a with
  | zero => cases hi
  | succ k ih =>
    obtain ⟨seqnum, ampduEn, ha⟩ := makeWlanhdr_attrib cfg c a
    have hopt : (makeWlanhdr cfg c a).2.2.opt.length = a.hdrlen - 24 := by
      rw [makeWlanhdr_opt, hdrOpt_length]
    rw [fillHeads] at hi
    cases i with
    | zero =>
      cases hi
      refine ⟨_, _, _, append_assoc _ _ _, rfl, ?_, ?_, ?_⟩
      · rw [WlanHdr.bytes_length, hopt]
        omega
      · rw [ha]
        simp only [length_take, length_append, length_replicate]
        omega
      · intro hidx
        exact if_neg fun hfirst => hidx hfirst.1
    | succ i =>
      obtain ⟨hdr, iv, llc, hhead, hmfrag, hhdr, hiv, hllc⟩ :=
        ih (a := (makeWlanhdr cfg c a).2.1) (by rw [ha]; exact hlen) hi
      rw [ha] at hhdr hiv
      refine ⟨hdr, iv, llc, hhead, ?_, hhdr, hiv, fun _ => hllc (by omega)⟩
      rw [hmfrag, Nat.add_right_comm idx 1 i, Nat.add_assoc idx i 1]

/-- Where the payload of fragment `idx` begins; the LLC header went with the first one. -/
def fragOffset (fragPerfr idx : ℕ) : ℕ := if idx = 0 then 14 else 6 + idx * fragPerfr

lemma perfrag_getElem? {a : TxAttrib} {skb : Skb} {n k idx i : ℕ}
    {frag : List (List UInt8) × ℕ} (hn : idx + k = n)
    (hwrap : 6 + (n - 1) * fragPerfr < 2 ^ 32)
    (hi : (perfrag a skb fragPerfr n k idx (fragOffset fragPerfr idx))[i]? = some frag) :
    ∃ sz, frag.1 = fillTxreqListSkb skb sz (fragOffset fragPerfr (idx + i)) ∧
      frag.2 = (if idx + i + 1 = n then micLen a else 0) +
        if a.encrypt ≠ .noPrivacy ∧ a.bswenc = true then a.icvLen else 0 := by
  induction k generalizing idx i with
  | zero => cases hi
  | succ k ih =>
    rw [perfrag] at hi
    cases i with
    | zero =>
      cases hi
      exact ⟨_, rfl, rfl⟩
    | succ i =>
      have hk : 1 ≤ k := by
        obtain ⟨hlt, -⟩ := List.getElem?_eq_some_iff.1 hi
        rw [length_cons, perfrag_length] at hlt
        omega
      have hmono : (idx + 1) * fragPerfr ≤ (n - 1) * fragPerfr :=
        Nat.mul_le_mul_right _ (by omega)
      have hnext : u32 ((fragOffset fragPerfr idx : ℕ) +
          (if idx + 1 = n then u32 (skb.len - (fragOffset fragPerfr idx : ℕ))
            else if idx = 0 then u32 (fragPerfr - rtwSzLlc) else fragPerfr : ℕ)) =
            fragOffset fragPerfr (idx + 1) := by
        rw [if_neg (by omega)]
        unfold fragOffset u32 rtwSzLlc
        rw [if_neg (Nat.succ_ne_zero idx)]
        rw [Nat.succ_mul] at hmono ⊢
        split
        · rename_i hidx
          subst hidx
          omega
        · omega
      rw [getElem?_cons_succ, hnext] at hi
      obtain ⟨sz, hlist, htail⟩ := ih (by omega) hi
      rw [Nat.add_right_comm idx 1 i] at hlist htail
      exact ⟨sz, hlist, htail⟩

lemma getWlFragParas_bound (hparas : getWlFragParas cfg.fragLen m.attrib = (fragPerfr, k + 1)) :
    6 + k * fragPerfr < 2 ^ 32 ∧ (k ≠ 0 → fragPerfr ≠ 0) := by
  have hlt := m.len_lt
  have hpktlen := m.pktlen
  have hmic : micLen m.attrib ≤ 8 := by
    unfold micLen
    split
    · exact le_rfl
    · exact Nat.zero_le _
  unfold getWlFragParas at hparas
  simp only [m.single, Bool.false_eq_true, if_false, Prod.mk.injEq] at hparas
  obtain ⟨hfrag, hnum⟩ := hparas
  rw [hfrag] at hnum
  split at hnum
  · rename_i hless
    have hmul := Nat.div_mul_le_self
      (u32 (u32 (m.attrib.pktlen + rtwSzLlc + micLen m.attrib) + fragPerfr - 1)) fragPerfr
    rw [hnum, Nat.succ_mul] at hmul
    constructor
    · unfold u32 rtwSzLlc at hmul hless
      omega
    · rintro hk rfl
      rw [Nat.div_zero] at hnum
      cases hnum
  · obtain rfl : k = 0 := by omega
    exact ⟨by omega, fun hk => absurd rfl hk⟩

def TxMsdu.swIcv (m : TxMsdu) : ℕ :=
  if m.attrib.encrypt ≠ .noPrivacy ∧ m.attrib.bswenc = true then m.attrib.icvLen else 0

/-- Fragment `i` of `n`, in terms of its header, IV and LLC header, and of the pieces of payload
that are listed. -/
structure FragmentAt (m : TxMsdu) (fragPerfr n i : ℕ) (hdr : WlanHdr) (iv llc : List UInt8)
    (pieces req : List (List UInt8)) : Prop where
  eq : req = ((hdr.bytes ++ (iv ++ llc)) :: pieces) ++ pktListAppend
    (replicate ((if i + 1 = n then micLen m.attrib else 0) + m.swIcv) 0)
  mfrag : hdr.mfrag = decide (i + 1 ≠ n)
  hdr_length : hdr.bytes.length = m.attrib.hdrlen
  iv_length : iv.length = m.attrib.ivLen
  llc : i ≠ 0 → llc = []
  payload : ∃ sz, pieces.flatten = slice m.skb.bytes (fragOffset fragPerfr i) sz

lemma txRequests_getElem? (h : txRequests cfg c m = some reqs)
    (hparas : getWlFragParas cfg.fragLen m.attrib = (fragPerfr, k + 1)) {i : ℕ}
    {req : List (List UInt8)} (hi : reqs[i]? = some req) :
    ∃ hdr iv llc pieces, FragmentAt m fragPerfr (k + 1) i hdr iv llc pieces req := by
  rw [txRequests_eq h hparas, txPktLists] at hi
  obtain ⟨head, frag, hhead, hfrag, rfl⟩ := getElem?_zipWith_eq_some.1 hi
  obtain ⟨hdr, iv, llc, rfl, hmfrag, hhdr, hiv, hllc⟩ := fillHeads_getElem? m.hdrlen_ge hhead
  obtain ⟨sz, hlist, htail⟩ := perfrag_getElem? (Nat.zero_add _)
    (getWlFragParas_bound hparas).1 hfrag
  rw [Nat.zero_add] at hmfrag hllc hlist htail
  refine ⟨hdr, iv, llc, frag.1, ?_, hmfrag, hhdr, hiv, hllc, sz, ?_⟩
  · rw [TxMsdu.swIcv, ← htail]
  · rw [hlist, fillTxreqListSkb_flatten]

lemma txRequests_last (h : txRequests cfg c m = some reqs) (htkip : m.attrib.encrypt = .tkip)
    (hparas : getWlFragParas cfg.fragLen m.attrib = (fragPerfr, k + 1)) :
    ∃ front hdr iv llc pieces,
      reqs = front ++ [((hdr.bytes ++ (iv ++ llc)) :: pieces) ++ [replicate (8 + m.swIcv) 0]] ∧
      (∀ r ∈ front, getMFrag r.flatten = true) ∧
      ∃ req, FragmentAt m fragPerfr (k + 1) k hdr iv llc pieces req := by
  have hlen := txRequests_length h hparas
  have hne : reqs ≠ [] := ne_nil_of_length_pos (by omega)
  have hlast : reqs[k]? = some (reqs.getLast hne) := by
    rw [getLast_eq_getElem, getElem?_eq_getElem (by omega)]
    simp only [hlen, Nat.add_sub_cancel]
  obtain ⟨hdr, iv, llc, pieces, hfrag⟩ := txRequests_getElem? h hparas hlast
  have hreq := hfrag.eq
  rw [if_pos rfl, micLen, if_pos htkip, pktListAppend, if_neg
    (mt (replicate_eq_nil_iff _).1 (by omega))] at hreq
  refine ⟨reqs.dropLast, hdr, iv, llc, pieces, ?_, fun r hr => ?_, _, hfrag⟩
  · rw [← hreq, dropLast_append_getLast hne]
  · obtain ⟨i, hi⟩ := mem_iff_getElem?.1 hr
    obtain ⟨hilt, -⟩ := List.getElem?_eq_some_iff.1 hi
    rw [length_dropLast, hlen] at hilt
    rw [getElem?_dropLast, if_pos (by omega)] at hi
    obtain ⟨hdr', iv', llc', pieces', hfrag'⟩ := txRequests_getElem? h hparas hi
    rw [hfrag'.eq, cons_append, flatten_cons, append_assoc, hdr'.getMFrag_bytes,
      hfrag'.mfrag, decide_eq_true (by omega)]

lemma storeMic_concat (mic tail : List UInt8) (front : List (List (List UInt8)))
    (req : List (List UInt8)) :
    storeMic mic (front ++ [req ++ [tail]]) = front ++ [req ++ [mic ++ tail.drop 8]] := by
  rw [storeMic, modifyLast_concat, modifyLast_concat]

end

def MicStored (mic : List UInt8) (reqs : List (List (List UInt8))) : Prop :=
  ∃ front req tail, reqs = front ++ [req ++ [mic ++ tail]]

section

variable {cfg : TxCfg} {c : TxCounters} {m : TxMsdu} {reqs out : List (List (List UInt8))}
  {fragPerfr k : ℕ} {keys : TxMicKeys}

lemma length_micBytes (s : UInt32 × UInt32) : (micBytes s).length = 8 := rfl

lemma micStored_iff {s t : UInt32 × UInt32} {front : List (List (List UInt8))}
    {req : List (List UInt8)} {tail : List UInt8} :
    MicStored (micBytes s) (front ++ [req ++ [micBytes t ++ tail]]) ↔ t = s := by
  constructor
  · rintro ⟨front', req', tail', heq⟩
    have hreq := singleton_inj.1 (append_inj_right' heq rfl)
    have htail := singleton_inj.1 (append_inj_right' hreq rfl)
    exact micBytes_inj (append_inj_left htail rfl)
  · rintro rfl
    exact ⟨front, req, tail, rfl⟩

lemma fillTkipMic_stored_iff (h : txRequests cfg c m = some reqs)
    (htkip : m.attrib.encrypt = .tkip) (hout : coreWlanFillTkipMic keys m.attrib reqs = some out) :
    MicStored (micBytes (Michael.mic (micKey (keys.select m.attrib)) m.micMessage)) out ↔
      reqs ≠ [] ∧ (m.MicCovers cfg.fragLen ∨
        Michael.Collide (micKey (keys.select m.attrib)) (micFed m.attrib reqs) m.micMessage) := by
  obtain ⟨⟨fragPerfr, n⟩, hparas⟩ : ∃ paras, getWlFragParas cfg.fragLen m.attrib = paras := ⟨_, rfl⟩
  rw [coreWlanFillTkipMic_some htkip hout]
  cases n with
  | zero =>
    have hnil : reqs = [] := length_eq_zero_iff.1 (txRequests_length h hparas)
    subst hnil
    refine iff_of_false ?_ fun hne => hne.1 rfl
    rintro ⟨front, req, tail, heq⟩
    exact append_ne_nil_of_right_ne_nil _ (cons_ne_nil _ _) heq.symm
  | succ k =>
    rw [← micFed_eq_iff h htkip, ← Michael.mic_eq_iff]
    obtain ⟨front, hdr, iv, llc, pieces, hreqs, -, -⟩ := txRequests_last h htkip hparas
    have hne : reqs ≠ [] := by
      rw [hreqs]
      exact append_ne_nil_of_right_ne_nil _ (cons_ne_nil _ _)
    rw [and_iff_right hne]
    generalize micFed m.attrib reqs = fed
    rw [hreqs, storeMic_concat]
    exact micStored_iff

end

/-! ## Reassembly and check -/

def headerPriority (p : List UInt8) : ℕ :=
  if (getFrameSubType p).testBit 7 then getPriority p 24 else 0

def TxMsdu.micFrame (m : TxMsdu) (room : ℕ) (req : List (List UInt8)) : RecvFrame :=
  { m.rxFrame room req with
    attrib := { (m.rxFrame room req).attrib with priority := headerPriority req.flatten } }

/-- The header names the source and the priority that the MIC is computed of: the transmitter of
a station's frame is its source. -/
def HeaderAgrees (cfg : TxCfg) (a : TxAttrib) (head : List UInt8) : Prop :=
  (cfg.mode = .sta → macBytes a.ta = macBytes a.src) ∧
    [UInt8.ofNat (headerPriority head), 0, 0, 0] = txMicPriority a

/-- The receiver checks the MIC of frames to `ra`, and with the same key. -/
def SameKey (keys : TxMicKeys) (a : TxAttrib) (rx : RxMicKeys) (ra : List UInt8) : Prop :=
  (isMcast ra = true → rx.binstallGrpkey = true) ∧
    (if isMcast ra then rx.grprxmickey rx.keyIndex else rx.tkiprxmickey) = keys.select a

def TxMsdu.Accepted (m : TxMsdu) (room : ℕ) (rx : RxMicKeys)
    (reqs : List (List (List UInt8))) : Prop :=
  ∃ f, defragged (DefragPriv.init (fun _ => 0) none) (reqs.map (m.micFrame room)) = [f] ∧
    m.received f = m.msdu ∧
    (recvframeChkmicAt (byteAt f.data) f.data.length f.attrib true rx).val.res = true

section

variable {cfg : TxCfg} {c : TxCounters} {m : TxMsdu} {reqs out : List (List (List UInt8))}
  {fragPerfr k room : ℕ} {keys : TxMicKeys} {rx : RxMicKeys}

lemma defragged_more {st : DefragPriv} {fs : List RecvFrame} {f : RecvFrame}
    (hmore : ∀ g ∈ fs, g.attrib.mfrag = true) (hsta : ∀ g ∈ fs, g.psta = some 0)
    (hlast : f.attrib.mfrag = false) (hnum : f.attrib.fragNum = 0) :
    defragged st (fs ++ [f]) = [f] := by
  induction fs generalizing st with
  | nil =>
    rw [nil_append, defragged, recvframeChkDefrag_whole hlast hnum]
    rfl
  | cons g fs ih =>
    have hg : (recvframeChkDefrag st g).2 = (.defrag, none) := by
      unfold recvframeChkDefrag
      rw [if_pos (hmore g mem_cons_self)]
      unfold defragSta
      rw [hsta g mem_cons_self]
    rw [cons_append, defragged, hg]
    exact ih (fun g' hg' => hmore g' (mem_cons_of_mem _ hg'))
      (fun g' hg' => hsta g' (mem_cons_of_mem _ hg'))

lemma le16At_append_left {xs ys : List UInt8} {i : ℕ} (h : i + 1 < xs.length) :
    le16At (xs ++ ys) i = le16At xs i := by
  unfold le16At byteAt
  rw [getD_append _ _ _ _ (by omega), getD_append _ _ _ _ h]

variable {head rest : List UInt8}

lemma rxMicMessage_append (h : 30 ≤ head.length) (pri : ℕ)
    (body : List UInt8) : rxMicMessage (head ++ rest) pri body = rxMicMessage head pri body := by
  unfold rxMicMessage rxMicDa rxMicSa getToDs getFrDs getAddr1 getAddr2 getAddr3 getAddr4
  rw [le16At_append_left (by omega), slice_append_left _ _ (by omega), slice_append_left _ _ (by omega),
    slice_append_left _ _ (by omega), slice_append_left _ _ (by omega)]

lemma headerPriority_append (h : 30 ≤ head.length) :
    headerPriority (head ++ rest) = headerPriority head := by
  unfold headerPriority getFrameSubType getPriority
  rw [le16At_append_left (by omega), le16At_append_left (by omega)]

section

variable (h : WlanHdr)
include h

lemma WlanHdr.le16At_bytes (rest : List UInt8) :
    le16At (h.bytes ++ rest) 0 / 2 ^ 8 % 2 = h.toDs.toNat ∧
      le16At (h.bytes ++ rest) 0 / 2 ^ 9 % 2 = h.frDs.toNat := by
  have hlow : byteAt (h.bytes ++ rest) 0 = UInt8.ofNat h.subtype := rfl
  have hhigh : byteAt (h.bytes ++ rest) 1 = UInt8.ofNat h.flags := rfl
  have hto := Bool.toNat_le h.toDs
  have hfr := Bool.toNat_le h.frDs
  simp only [le16At, hlow, hhigh, UInt8.toNat_ofNat', WlanHdr.flags]
  omega

lemma WlanHdr.getToDs_bytes (rest : List UInt8) :
    getToDs (h.bytes ++ rest) = h.toDs := by
  rw [getToDs, Nat.testBit_eq_decide_div_mod_eq, (h.le16At_bytes rest).1]
  cases h.toDs <;> rfl

lemma WlanHdr.getFrDs_bytes (rest : List UInt8) :
    getFrDs (h.bytes ++ rest) = h.frDs := by
  rw [getFrDs, Nat.testBit_eq_decide_div_mod_eq, (h.le16At_bytes rest).2]
  cases h.frDs <;> rfl

lemma WlanHdr.rxMicDa_bytes (rest : List UInt8) :
    rxMicDa (h.bytes ++ rest) = if h.toDs then macBytes h.addr3 else macBytes h.addr1 := by
  rw [rxMicDa, h.getToDs_bytes]
  rfl

lemma WlanHdr.rxMicSa_bytes (rest : List UInt8) (hds : h.frDs = !h.toDs) :
    rxMicSa (h.bytes ++ rest) = if h.toDs then macBytes h.addr2 else macBytes h.addr3 := by
  rw [rxMicSa, h.getToDs_bytes, h.getFrDs_bytes, hds]
  cases h.toDs
  · rfl
  · rfl

end

lemma makeWlanhdr_hdr (cfg : TxCfg) (c : TxCounters) (a : TxAttrib) :
    ∃ seqNum, (makeWlanhdr cfg c a).2.2 = { frameHdr cfg (omPending cfg c) a with seqNum } := by
  unfold makeWlanhdr
  split
  · exact ⟨_, rfl⟩
  · exact ⟨_, rfl⟩

lemma firstHdr_da (n : ℕ) (rest : List UInt8) :
    rxMicDa ((m.firstHdr cfg c n).bytes ++ rest) = macBytes m.attrib.dst := by
  obtain ⟨seqNum, hhdr⟩ := makeWlanhdr_hdr cfg c m.attrib
  have hds : (m.firstHdr cfg c n).toDs = decide (cfg.mode = .sta) := by
    rw [TxMsdu.firstHdr, hhdr, frameHdr]
  rw [WlanHdr.rxMicDa_bytes, hds, TxMsdu.firstHdr, hhdr, frameHdr]
  cases cfg.mode with
  | sta => rfl
  | ap => rfl

lemma firstHdr_sa (n : ℕ) (rest : List UInt8) :
    rxMicSa ((m.firstHdr cfg c n).bytes ++ rest) =
      if cfg.mode = .sta then macBytes m.attrib.ta else macBytes m.attrib.src := by
  obtain ⟨seqNum, hhdr⟩ := makeWlanhdr_hdr cfg c m.attrib
  have hds : (m.firstHdr cfg c n).toDs = decide (cfg.mode = .sta) ∧
      (m.firstHdr cfg c n).frDs = !decide (cfg.mode = .sta) := by
    rw [TxMsdu.firstHdr, hhdr, frameHdr]
    exact ⟨rfl, rfl⟩
  rw [WlanHdr.rxMicSa_bytes _ _ (hds.2.trans (congrArg _ hds.1.symm)), hds.1, TxMsdu.firstHdr, hhdr,
    frameHdr]
  cases cfg.mode with
  | sta => rfl
  | ap => rfl

lemma rxMicMessage_eq_iff (n : ℕ) (rest : List UInt8) (pri : ℕ) :
    m.micMessage = rxMicMessage ((m.firstHdr cfg c n).bytes ++ rest) pri m.msdu ↔
      (cfg.mode = .sta → macBytes m.attrib.ta = macBytes m.attrib.src) ∧
        [UInt8.ofNat pri, 0, 0, 0] = txMicPriority m.attrib := by
  unfold TxMsdu.micMessage rxMicMessage
  rw [firstHdr_da, firstHdr_sa, append_cancel_left_eq]
  constructor
  · intro heq
    obtain ⟨hsrc, hrest⟩ := append_inj heq (by split <;> rfl)
    refine ⟨fun hsta => ?_, (append_inj_left hrest rfl).symm⟩
    rw [if_pos hsta] at hsrc
    exact hsrc.symm
  · rintro ⟨hsrc, hpri⟩
    rw [hpri]
    congr 1
    split
    · rename_i hsta
      exact (hsrc hsta).symm
    · rfl

lemma length_msdu (m : TxMsdu) : m.msdu.length = 8 + m.attrib.pktlen := by
  rw [TxMsdu.msdu, length_append, length_putSnap, length_drop, m.pktlen, Skb.len]

lemma FragmentAt.body_ne {hdr : WlanHdr} {iv llc : List UInt8} {pieces req : List (List UInt8)}
    (hparas : getWlFragParas cfg.fragLen m.attrib = (fragPerfr, k + 1))
    (hfrag : FragmentAt m fragPerfr (k + 1) k hdr iv llc pieces req) (hk : k ≠ 0) :
    llc ++ pieces.flatten ≠ m.msdu := by
  intro hbody
  obtain ⟨-, hsome⟩ := getWlFragParas_bound hparas
  obtain ⟨sz, hpayload⟩ := hfrag.payload
  have hlen := congrArg length hbody
  rw [hfrag.llc hk, nil_append, hpayload, length_msdu, slice, length_take,
    length_drop, fragOffset, if_neg hk, m.pktlen, Skb.len] at hlen
  have hpos := Nat.mul_pos (Nat.pos_of_ne_zero hk) (Nat.pos_of_ne_zero (hsome hk))
  omega

lemma FragmentAt.single {hdr : WlanHdr} {iv llc t : List UInt8} {pieces req : List (List UInt8)}
    (h : txRequests cfg c m = some reqs) (htkip : m.attrib.encrypt = .tkip)
    (hparas : getWlFragParas cfg.fragLen m.attrib = (fragPerfr, 1))
    (hfrag : FragmentAt m fragPerfr 1 0 hdr iv llc pieces req)
    (hreqs : reqs = [((hdr.bytes ++ (iv ++ llc)) :: pieces) ++ [t]]) :
    llc = putSnap m.attrib.etherType ∧ llc ++ pieces.flatten = m.msdu := by
  have hllc : llc = putSnap m.attrib.etherType := by
    obtain ⟨rest, hfirst⟩ := txRequests_first h hparas
    have hhead := congrArg (fun l => (l.headD []).headD []) (hreqs.symm.trans hfirst)
    simp only [headD_cons, cons_append, append_assoc] at hhead
    have hinner := append_inj_right hhead (by rw [hfrag.hdr_length, m.firstHdr_length])
    exact append_inj_right hinner (by rw [hfrag.iv_length, m.iv_length])
  have hpieces := (micPieces_eq_iff h htkip hparas).2 (Or.inl rfl)
  rw [hreqs, micPieces] at hpieces
  simp only [headD_cons, cons_append, tail_cons, dropLast_concat] at hpieces
  refine ⟨hllc, ?_⟩
  rw [hllc, hpieces, TxMsdu.msdu]

lemma swIcv_add_hwIcv (m : TxMsdu) : m.swIcv + m.hwIcv = m.attrib.icvLen := by
  have hsum := m.tailLen_add_hwIcv
  rw [TxMsdu.tailLen] at hsum
  unfold TxMsdu.swIcv
  omega

end

def TxMsdu.lastReq (m : TxMsdu) (hdr : WlanHdr) (iv llc : List UInt8) (pieces : List (List UInt8))
    (mic : List UInt8) : List (List UInt8) :=
  ((hdr.bytes ++ (iv ++ llc)) :: pieces) ++ [mic ++ replicate m.swIcv 0]

section

variable {cfg : TxCfg} {c : TxCounters} {m : TxMsdu} {reqs out front : List (List (List UInt8))}
  {fragPerfr k n room : ℕ} {keys : TxMicKeys} {rx : RxMicKeys} {hdr : WlanHdr}
  {iv llc mic : List UInt8} {pieces req : List (List UInt8)}

variable (m hdr iv llc pieces mic) in
lemma lastReq_flatten : (m.lastReq hdr iv llc pieces mic).flatten =
    (hdr.bytes ++ (iv ++ llc)) ++ (pieces.flatten ++ (mic ++ replicate m.swIcv 0)) := by
  rw [TxMsdu.lastReq, cons_append, flatten_cons, flatten_append,
    flatten_singleton]

variable (room m hdr iv llc pieces mic) in
lemma lastReq_data : (m.micFrame room (m.lastReq hdr iv llc pieces mic)).data =
    (hdr.bytes ++ iv) ++ ((llc ++ pieces.flatten) ++ (mic ++
      replicate m.attrib.icvLen 0)) := by
  have hdata : (m.micFrame room (m.lastReq hdr iv llc pieces mic)).data =
      (m.lastReq hdr iv llc pieces mic).flatten ++ replicate m.hwIcv 0 := rfl
  rw [hdata, lastReq_flatten, ← swIcv_add_hwIcv, replicate_add]
  simp only [append_assoc]

lemma lastReq_received (htkip : m.attrib.encrypt = .tkip)
    (hfrag : FragmentAt m fragPerfr n k hdr iv llc pieces req) (hmic : mic.length = 8) :
    m.received (m.micFrame room (m.lastReq hdr iv llc pieces mic)) = llc ++ pieces.flatten := by
  have hfront : (hdr.bytes ++ iv).length = m.attrib.hdrlen + m.attrib.ivLen := by
    rw [length_append, hfrag.hdr_length, hfrag.iv_length]
  have hpayload : (m.micFrame room (m.lastReq hdr iv llc pieces mic)).payload =
      (llc ++ pieces.flatten) ++ mic := by
    refine RecvFrame.payload_eq ?_ hfront (length_replicate (n := m.attrib.icvLen) (a := 0))
    rw [lastReq_data, append_assoc _ mic]
  rw [TxMsdu.received, hpayload, micLen, if_pos htkip, length_append, hmic,
    Nat.add_sub_cancel, take_left]

variable (room mic) in
lemma defragged_requests (hmore : ∀ r ∈ front, getMFrag r.flatten = true)
    (hfrag : FragmentAt m fragPerfr (k + 1) k hdr iv llc pieces req) :
    defragged (DefragPriv.init (fun _ => 0) none)
      ((front ++ [m.lastReq hdr iv llc pieces mic]).map (m.micFrame room)) =
        [m.micFrame room (m.lastReq hdr iv llc pieces mic)] := by
  have hflat := lastReq_flatten m hdr iv llc mic pieces
  rw [append_assoc] at hflat
  rw [map_append]
  apply defragged_more
  · intro g hg
    obtain ⟨r, hr, rfl⟩ := mem_map.1 hg
    exact hmore r hr
  · intro g hg
    obtain ⟨r, -, rfl⟩ := mem_map.1 hg
    rfl
  · change getMFrag (m.lastReq hdr iv llc pieces mic).flatten = false
    rw [hflat, hdr.getMFrag_bytes, hfrag.mfrag, decide_eq_false (not_not.2 rfl)]
  · change getFragNum (m.lastReq hdr iv llc pieces mic).flatten = 0
    rw [hflat, hdr.getFragNum_bytes]

lemma lastReq_res_iff (htkip : m.attrib.encrypt = .tkip)
    (hfrag : FragmentAt m fragPerfr n k hdr iv llc pieces req)
    (hllc : llc = putSnap m.attrib.etherType) (hbody : llc ++ pieces.flatten = m.msdu)
    (hmic : mic.length = 8)
    (hsame : SameKey keys m.attrib rx (getAddr1 (hdr.bytes ++ (iv ++ llc)))) :
    (recvframeChkmicAt (byteAt (m.micFrame room (m.lastReq hdr iv llc pieces mic)).data)
      (m.micFrame room (m.lastReq hdr iv llc pieces mic)).data.length
      (m.micFrame room (m.lastReq hdr iv llc pieces mic)).attrib true rx).val.res = true ↔
    micBytes (Michael.mic (micKey (keys.select m.attrib))
      (rxMicMessage (hdr.bytes ++ (iv ++ llc)) (headerPriority (hdr.bytes ++ (iv ++ llc)))
        m.msdu)) = mic := by
  have hheadlen : 30 ≤ (hdr.bytes ++ (iv ++ llc)).length := by
    have hge := m.hdrlen_ge
    rw [length_append, length_append, hfrag.hdr_length, hfrag.iv_length, hllc,
      length_putSnap]
    omega
  have hflat := lastReq_flatten m hdr iv llc mic pieces
  have hdata := lastReq_data m room hdr iv llc mic pieces
  have hfront : (m.micFrame room (m.lastReq hdr iv llc pieces mic)).data =
      (hdr.bytes ++ (iv ++ llc)) ++ (pieces.flatten ++ (mic ++ replicate m.attrib.icvLen 0)) := by
    rw [hdata]
    simp only [append_assoc]
  have hra : (m.micFrame room (m.lastReq hdr iv llc pieces mic)).attrib.ra =
      getAddr1 (hdr.bytes ++ (iv ++ llc)) := by
    change getAddr1 (m.lastReq hdr iv llc pieces mic).flatten = _
    rw [hflat]
    exact slice_append_left _ _ (by omega)
  have hpri : (m.micFrame room (m.lastReq hdr iv llc pieces mic)).attrib.priority =
      headerPriority (hdr.bytes ++ (iv ++ llc)) := by
    change headerPriority (m.lastReq hdr iv llc pieces mic).flatten = _
    rw [hflat, headerPriority_append hheadlen]
  have hselect : rx.select (m.micFrame room (m.lastReq hdr iv llc pieces mic)).attrib =
      keys.select m.attrib := by
    rw [RxMicKeys.select, hra]
    exact hsame.2
  have hlen := congrArg length hdata
  rw [hbody] at hlen
  simp only [length_append, hfrag.hdr_length, hfrag.iv_length, length_msdu, hmic,
    length_replicate] at hlen
  have hge := m.hdrlen_ge
  have hlt := m.len_lt
  have hpktlen := m.pktlen
  have hhdrlen := m.hdrlen_lt
  have hivlen := m.ivLen_lt
  have hicvlen := m.icvLen_lt
  rw [recvframeChkmicAt_res (hdr.bytes ++ iv) ⟨htkip, rfl, ?_⟩ hdata ?_ hmic ?_ ?_ ?_,
    hselect, hpri, hbody]
  · nth_rewrite 1 [hfront]
    rw [rxMicMessage_append hheadlen]
  · rw [hra]
    exact hsame.1
  · rw [length_append, hfrag.hdr_length, hfrag.iv_length]
    rfl
  · exact length_replicate
  · omega
  · omega

lemma accepted_of_defragged {f : RecvFrame}
    (hf : defragged (DefragPriv.init (fun _ => 0) none) (out.map (m.micFrame room)) = [f]) :
    m.Accepted room rx out ↔ m.received f = m.msdu ∧
      (recvframeChkmicAt (byteAt f.data) f.data.length f.attrib true rx).val.res = true := by
  unfold TxMsdu.Accepted
  rw [hf]
  constructor
  · rintro ⟨g, hg, hg'⟩
    cases hg
    exact hg'
  · exact fun h => ⟨f, rfl, h⟩

lemma accepted_iff (h : txRequests cfg c m = some reqs) (htkip : m.attrib.encrypt = .tkip)
    (hout : coreWlanFillTkipMic keys m.attrib reqs = some out)
    (hsame : SameKey keys m.attrib rx (getAddr1 ((reqs.headD []).headD []))) :
    m.Accepted room rx out ↔ reqs.length = 1 ∧
      (HeaderAgrees cfg m.attrib ((reqs.headD []).headD []) ∨
        Michael.Collide (micKey (keys.select m.attrib)) m.micMessage
          (rxMicMessage ((reqs.headD []).headD [])
            (headerPriority ((reqs.headD []).headD [])) m.msdu)) := by
  obtain ⟨⟨fragPerfr, n⟩, hparas⟩ : ∃ paras, getWlFragParas cfg.fragLen m.attrib = paras := ⟨_, rfl⟩
  have hlength := txRequests_length h hparas
  have hstored := coreWlanFillTkipMic_some htkip hout
  cases n with
  | zero =>
    have hnil : reqs = [] := length_eq_zero_iff.1 hlength
    subst hnil
    refine iff_of_false ?_ fun hone => absurd hone.1 (by decide)
    rintro ⟨f, hf, -⟩
    rw [hstored] at hf
    cases hf
  | succ k =>
    obtain ⟨front, hdr, iv, llc, pieces, hreqs, hmore, req, hfrag⟩ :=
      txRequests_last h htkip hparas
    have hout' : out = front ++ [m.lastReq hdr iv llc pieces
        (micBytes (Michael.mic (micKey (keys.select m.attrib)) (micFed m.attrib reqs)))] := by
      rw [hstored]
      nth_rewrite 2 [hreqs]
      rw [storeMic_concat, drop_replicate, Nat.add_sub_cancel_left, TxMsdu.lastReq]
    have hdefrag := defragged_requests room (micBytes (Michael.mic (micKey (keys.select m.attrib))
      (micFed m.attrib reqs))) hmore hfrag
    rw [← hout'] at hdefrag
    rw [accepted_of_defragged hdefrag, lastReq_received htkip hfrag (length_micBytes _), hlength]
    by_cases hk : k = 0
    · subst hk
      have hfront : front = [] := by
        rw [hreqs, length_append] at hlength
        exact length_eq_zero_iff.1 (Nat.add_right_cancel hlength)
      rw [hfront, nil_append] at hreqs
      have hhead : (reqs.headD []).headD [] = hdr.bytes ++ (iv ++ llc) := by
        rw [hreqs]
        rfl
      obtain ⟨hllc, hbody⟩ := hfrag.single h htkip hparas hreqs
      have hfed := (micFed_eq_iff h htkip).2 (Or.inl (by rw [hparas]))
      have hagrees : m.micMessage = rxMicMessage ((reqs.headD []).headD [])
          (headerPriority ((reqs.headD []).headD [])) m.msdu ↔
            HeaderAgrees cfg m.attrib ((reqs.headD []).headD []) := by
        obtain ⟨rest, hfirst⟩ := txRequests_first h hparas
        rw [hfirst]
        simp only [headD_cons, append_assoc]
        exact rxMicMessage_eq_iff _ _ _
      rw [← hagrees, ← Michael.mic_eq_iff]
      rw [hhead] at hsame ⊢
      rw [lastReq_res_iff htkip hfrag hllc hbody (length_micBytes _) hsame, hfed]
      refine and_congr (iff_of_true hbody rfl) ?_
      exact ⟨fun heq => (micBytes_inj heq).symm, fun heq => by rw [heq]⟩
    · refine iff_of_false (fun hyes => hfrag.body_ne hparas hk hyes.1) fun hone => hk ?_
      exact Nat.succ.inj hone.1

/-- Where a MIC is stored as it ought to be, where the receiver accepts it, and where the check
reads only the frame. -/
theorem tkip_mic_agreement_iff (h : txRequests cfg c m = some reqs)
    (htkip : m.attrib.encrypt = .tkip) (hout : coreWlanFillTkipMic keys m.attrib reqs = some out) :
    (MicStored (micBytes (Michael.mic (micKey (keys.select m.attrib)) m.micMessage)) out ↔
      reqs ≠ [] ∧ (m.MicCovers cfg.fragLen ∨
        Michael.Collide (micKey (keys.select m.attrib)) (micFed m.attrib reqs) m.micMessage)) ∧
    (∀ room rx, SameKey keys m.attrib rx (getAddr1 ((reqs.headD []).headD [])) →
      (m.Accepted room rx out ↔ reqs.length = 1 ∧
        (HeaderAgrees cfg m.attrib ((reqs.headD []).headD []) ∨
          Michael.Collide (micKey (keys.select m.attrib)) m.micMessage
            (rxMicMessage ((reqs.headD []).headD [])
              (headerPriority ((reqs.headD []).headD [])) m.msdu)))) ∧
    ∀ mem frameLen a psta rx, RxSized mem frameLen a →
      ((recvframeChkmicAt mem frameLen a psta rx).Below frameLen ↔
        (MicChecked a psta rx → MicFits frameLen a)) :=
  ⟨fillTkipMic_stored_iff h htkip hout, fun _ _ hsame => accepted_iff h htkip hout hsame,
    fun _ _ _ _ _ hsized => recvframeChkmicAt_below_iff hsized⟩

end

/-- An IP packet of `n` zero bytes that is encrypted with TKIP by the hardware. -/
def tkipMsdu (n : ℕ) (hn : n < 2 ^ 16) : TxMsdu where
  attrib := { (openMsdu n hn).attrib with encrypt := .tkip, ivLen := 8, icvLen := 4 }
  skb := (openMsdu n hn).skb
  single := rfl
  hdrlen_ge := (openMsdu n hn).hdrlen_ge
  hdrlen_lt := (openMsdu n hn).hdrlen_lt
  ivLen_lt := (by decide : 8 < 256)
  icvLen_lt := (by decide : 4 < 256)
  clear := fun hclear => nomatch hclear
  len_ge := (openMsdu n hn).len_ge
  len_lt := (openMsdu n hn).len_lt
  pktlen := (openMsdu n hn).pktlen

def onesTxKeys : TxMicKeys where
  grptxmickey := fun _ => replicate 16 1
  grpKeyid := 1
  tkiptxmickey := replicate 16 1

def onesRxKeys : RxMicKeys where
  grprxmickey := fun _ => replicate 16 1
  binstallGrpkey := true
  keyIndex := 1
  mlmeKeyIndex := 1
  tkiprxmickey := replicate 16 1

def shortMsdu : TxMsdu := tkipMsdu 20 (by decide)

/-- A short packet goes in one fragment, and is accepted. -/
theorem tkip_mic_agreement_iff_short :
    ∃ reqs out, txRequests (openTxCfg 2346) zeroCounters shortMsdu = some reqs ∧
      coreWlanFillTkipMic onesTxKeys shortMsdu.attrib reqs = some out ∧
      MicStored (micBytes (Michael.mic (micKey (replicate 16 1)) shortMsdu.micMessage)) out ∧
      shortMsdu.Accepted 0 onesRxKeys out := by
  refine ⟨_, _, rfl, rfl, ?_⟩
  obtain ⟨hstored, haccepted, -⟩ :=
    @tkip_mic_agreement_iff (openTxCfg 2346) zeroCounters shortMsdu _ _ onesTxKeys rfl rfl rfl
  exact ⟨hstored.mpr ⟨cons_ne_nil _ _, Or.inl (Or.inl (by decide))⟩,
    (haccepted 0 onesRxKeys ⟨fun _ => rfl, rfl⟩).mpr ⟨rfl, Or.inl ⟨fun _ => rfl, by decide⟩⟩⟩

/-- Of a packet of 300 bytes in two fragments only the LLC header is covered. -/
theorem second_fragment_not_covered :
    ∃ reqs out,
      txRequests (openTxCfg 256) zeroCounters (tkipMsdu 300 (by decide)) = some reqs ∧
      coreWlanFillTkipMic onesTxKeys (tkipMsdu 300 (by decide)).attrib reqs = some out ∧
      ¬ MicStored (micBytes (Michael.mic (micKey (replicate 16 1))
        (tkipMsdu 300 (by decide)).micMessage)) out := by
  have hparas : getWlFragParas (openTxCfg 256).fragLen (tkipMsdu 300 (by decide)).attrib =
      (216, 2) := by decide
  obtain ⟨reqs, hreqs⟩ : ∃ reqs,
      txRequests (openTxCfg 256) zeroCounters (tkipMsdu 300 (by decide)) = some reqs := by
    simp only [txRequests, hparas, fillTxreqPktPerfragTxos, rtwMaxFragNum]
    exact ⟨_, rfl⟩
  obtain ⟨out, hout⟩ : ∃ out,
      coreWlanFillTkipMic onesTxKeys (tkipMsdu 300 (by decide)).attrib reqs = some out := ⟨_, rfl⟩
  have hdiffer : Michael.mic (micKey (replicate 16 1))
      (micFed (tkipMsdu 300 (by decide)).attrib
        ((txRequests (openTxCfg 256) zeroCounters (tkipMsdu 300 (by decide))).getD [])) ≠
      Michael.mic (micKey (replicate 16 1)) (tkipMsdu 300 (by decide)).micMessage := by
    set_option maxRecDepth 20000 in decide
  rw [hreqs, Option.getD_some] at hdiffer
  refine ⟨reqs, out, hreqs, hout, fun hstored => ?_⟩
  rw [coreWlanFillTkipMic_some rfl hout] at hstored
  obtain ⟨front, hdr, iv, llc, pieces, hlast, -, -⟩ := txRequests_last hreqs rfl hparas
  nth_rewrite 2 [hlast] at hstored
  rw [storeMic_concat, micStored_iff] at hstored
  exact hdiffer hstored

end Rtl8831.Core
