import Rtl8831.Phl.RxShortcut

/-!
# When the parser may use the entry

A packet that continues the cached one is parsed without some fields, which keep the zeros
of a cleared packet; the check itself reads six fields of the long descriptor, whichever
descriptor it is.  So a transfer is parsed as without the entry if each descriptor that is
held against it says zero where the short cut reads nothing.
-/

namespace Rtl8831.Phl.RxShortcut

open RxWd
open RxDeagg (phlGetSingleRx packetStart packetLen Walk turn walk toU32)

section Descriptor

variable (mem : ℕ → UInt8) (desc : ℕ)

def ppduOf : RMetaData := parsePpdu mem desc (parseHead mem desc .cleared)

/-- The fields of words 1 to 3 that are left out: byte, bit and width of `sr_en`, `user_id`,
`rx_gi_ltf`, `non_srg_ppdu`, `inter_ppdu`, `bw`, `freerun_cnt`, `a1_match`, `hw_dec`,
`ampdu_end_pkt`, `amsdu_cut`, `last_msdu`, `bypass`, the three wake-up bits, `get_ch_info`,
`rx_statistics`, `pattern_idx`, `target_idc`, `chksum_ofld_en` and `with_llc`. -/
def leftOutShort : List (ℕ × ℕ × ℕ) :=
  [(4, 7, 1), (4, 8, 8), (4, 25, 3), (4, 28, 1), (4, 29, 1), (4, 30, 2), (8, 0, 32), (12, 0, 1),
    (12, 2, 1), (12, 4, 1), (12, 6, 1), (12, 7, 1), (12, 8, 1), (12, 11, 1), (12, 12, 1),
    (12, 13, 1), (12, 14, 1), (12, 15, 1), (12, 16, 5), (12, 21, 3), (12, 24, 1), (12, 25, 1)]

/-- The fields of words 4 to 7 that are left out: `more_data`, `more_frag`, `qos`, `eosp`,
`frag_num`, `sec_cam_idx`, `addr_cam`, `addr_cam_vld`, `rx_pl_id`, `addr_fwd_en`,
`rx_pl_match` and `sec_type`. -/
def leftOutLong : List (ℕ × ℕ × ℕ) :=
  [(16, 4, 1), (16, 5, 1), (16, 7, 1), (16, 12, 1), (16, 28, 4), (20, 0, 8), (20, 8, 8),
    (20, 28, 1), (20, 24, 4), (20, 29, 1), (20, 30, 1), (28, 17, 4)]

/-- `tid`, `macid`, `seq`, `mc`, `bc` and `htc`, which the check reads. -/
def keyFields : List (ℕ × ℕ × ℕ) :=
  [(16, 8, 4), (20, 16, 8), (16, 16, 12), (16, 2, 1), (16, 3, 1), (16, 13, 1)]

/-- `pwr_bit`, `q_null` and `frame_type`, which are read of a packet that continues. -/
def hitFields : List (ℕ × ℕ × ℕ) := [(16, 6, 1), (16, 14, 1), (16, 0, 2)]

def AllZero (fields : List (ℕ × ℕ × ℕ)) : Prop :=
  ∀ f ∈ fields, leBitsTo4Byte mem (desc + f.1) f.2.1 f.2.2 = 0

instance (fields : List (ℕ × ℕ × ℕ)) : Decidable (AllZero mem desc fields) :=
  inferInstanceAs (Decidable (∀ _ ∈ _, _))

/-- `long_rxd` -/
def IsLong : Prop := leBitsTo4Byte mem desc 31 1 = 1

instance : Decidable (IsLong mem desc) := inferInstanceAs (Decidable (_ = _))

def Silent : Prop :=
  AllZero mem desc leftOutShort ∧
    if IsLong mem desc then
      AllZero mem desc leftOutLong ∧ leBitsTo4Byte mem (desc + 20) 16 8 = 0xFF ∧
        ∀ i : Fin 6, mem (desc + 24 + i) = 0
    else AllZero mem desc keyFields ∧ AllZero mem desc hitFields

instance : Decidable (Silent mem desc) := inferInstanceAs (Decidable (_ ∧ ite _ _ _))

lemma parseRxscHit_eq_parseFull_iff :
    parseRxscHit mem desc (parseRxscKey mem desc (ppduOf mem desc)) =
      parseFull mem desc (ppduOf mem desc) ↔ Silent mem desc := by
  unfold Silent IsLong
  by_cases hlong : leBitsTo4Byte mem desc 31 1 = 1
  · simp [parseFull, parseRxscHit, parseRxscKey, parseShort, parseLong, ppduOf, parsePpdu,
      parseHead, hlong, RMetaData.cleared, AllZero, leftOutShort, leftOutLong, funext_iff,
      @eq_comm ℕ 0, @eq_comm UInt8 0, and_assoc]
    tauto
  · simp [parseFull, parseRxscHit, parseRxscKey, parseShort, ppduOf, parsePpdu, parseHead, hlong,
      RMetaData.cleared, AllZero, leftOutShort, keyFields, hitFields, @eq_comm ℕ 0, and_assoc]
    tauto

lemma parseFull_parseRxscKey_iff :
    parseFull mem desc (parseRxscKey mem desc (ppduOf mem desc)) =
      parseFull mem desc (ppduOf mem desc) ↔ IsLong mem desc ∨ AllZero mem desc keyFields := by
  unfold IsLong
  by_cases hlong : leBitsTo4Byte mem desc 31 1 = 1
  · simp [parseFull, parseRxscKey, parseShort, parseLong, ppduOf, parsePpdu, parseHead, hlong]
  · simp [parseFull, parseRxscKey, parseShort, ppduOf, parsePpdu, parseHead, hlong,
      RMetaData.cleared, AllZero, keyFields]
    tauto

end Descriptor

/-- The entry does no harm to the descriptor at `buf`: there is none, the descriptor is of
another kind, its packet does not fit in the transfer, or the fields read of it agree. -/
def Plain (e : RxscEntry) (mem : ℕ → UInt8) (buf bufLen : ℕ) : Prop :=
  e.cachedRxMacid = phlMacidMaxNum ∨ leBitsTo4Byte mem buf 24 4 ≠ pktTWifi ∨
    buf + bufLen < packetStart mem buf + packetLen mem buf ∨
    if RxscRdy e (parseRxscKey mem buf (ppduOf mem buf)) then
      packetLen mem buf ≠ 0 ∧ Silent mem buf
    else packetLen mem buf = 0 ∨ IsLong mem buf ∨ AllZero mem buf keyFields

instance (e : RxscEntry) (mem : ℕ → UInt8) (buf bufLen : ℕ) : Decidable (Plain e mem buf bufLen) :=
  inferInstanceAs (Decidable (_ ∨ _ ∨ _ ∨ ite _ _ _))

/-- What becomes of a parsed descriptor: its packet, unless it was refused or does not fit. -/
def accept (b : Build) (buf bufLen : ℕ) (type : RxType) (m : RMetaData) (ok : Bool) :
    Option RxWd.RxPkt :=
  if ok = true ∧ ¬buf + bufLen < pktStart buf m + m.pktlen % 65536 then
    some ⟨rxType b.dfs m.rpktType type, m, pktStart buf m, m.pktlen % 65536⟩
  else none

section Handle

variable {b : Build} {mem : ℕ → UInt8} {e : RxscEntry} {buf bufLen : ℕ} {rx : RxWd.RxPkt}

lemma halHandleRxBuffer_snd (b : Build) (mem : ℕ → UInt8) (e : RxscEntry) (buf bufLen : ℕ)
    (rx : RxWd.RxPkt) :
    (halHandleRxBuffer b mem e buf bufLen rx).2 =
      accept b buf bufLen rx.type (halParsingRxWdDesc mem buf b.rxscAmpdu e rx.mdata).2.1
        (halParsingRxWdDesc mem buf b.rxscAmpdu e rx.mdata).2.2 := by
  rw [halHandleRxBuffer, halParsingRxWd, accept]
  rcases halParsingRxWdDesc mem buf b.rxscAmpdu e rx.mdata with ⟨e', m, ok⟩
  cases ok with
  | false => rfl
  | true =>
    dsimp only
    by_cases hfit : buf + bufLen < pktStart buf m + m.pktlen % 65536
    · rw [if_pos hfit, if_neg fun h => h.2 hfit]
    · rw [if_neg hfit, if_pos ⟨rfl, hfit⟩]

lemma halParsingRxWdDesc_off (mem : ℕ → UInt8) (buf : ℕ) (e : RxscEntry) (m : RMetaData) :
    halParsingRxWdDesc mem buf false e m =
      if (parseHead mem buf m).rpktType = pktTWifi ∨ (parseHead mem buf m).rpktType = pktTPpduStatus
      then (e, parseFull mem buf (parsePpdu mem buf (parseHead mem buf m)),
        decide ((parseHead mem buf m).pktlen ≠ 0))
      else (e, parseHead mem buf m, decide ((parseHead mem buf m).pktlen ≠ 0)) := by
  rw [halParsingRxWdDesc]
  dsimp only
  rw [if_neg fun h : false = true ∧ _ => Bool.false_ne_true h.1]
  rfl

def Consults (e : RxscEntry) (mem : ℕ → UInt8) (buf : ℕ) : Prop :=
  e.cachedRxMacid ≠ phlMacidMaxNum ∧ leBitsTo4Byte mem buf 24 4 = pktTWifi

lemma halParsingRxWdDesc_of_not_consults (h : ¬Consults e mem buf) (m : RMetaData) :
    halParsingRxWdDesc mem buf true e m = halParsingRxWdDesc mem buf false e m := by
  have hskip : ¬(true = true ∧ e.cachedRxMacid ≠ phlMacidMaxNum ∧
      (parsePpdu mem buf (parseHead mem buf m)).rpktType = pktTWifi) := fun hc => h hc.2
  rw [halParsingRxWdDesc_off, halParsingRxWdDesc]
  dsimp only
  rw [if_neg hskip]
  rfl

lemma halParsingRxWdDesc_of_consults (h : Consults e mem buf) :
    (halParsingRxWdDesc mem buf true e .cleared).2 =
      if RxscRdy e (parseRxscKey mem buf (ppduOf mem buf)) then
        (parseRxscHit mem buf (parseRxscKey mem buf (ppduOf mem buf)), true)
      else
        (parseFull mem buf (parseRxscKey mem buf (ppduOf mem buf)),
          decide (packetLen mem buf ≠ 0)) := by
  have hwifi : (parseHead mem buf .cleared).rpktType = pktTWifi := h.2
  rw [halParsingRxWdDesc]
  dsimp only
  rw [if_pos (Or.inl hwifi), if_pos ⟨rfl, h.1, hwifi⟩]
  rw [halCheckRxscRdy, ← ppduOf]
  by_cases hrdy : RxscRdy e (parseRxscKey mem buf (ppduOf mem buf))
  · rw [if_pos hrdy, if_pos hrdy]
  · rw [if_neg hrdy, if_neg hrdy]
    rfl

lemma headOf_ppduOf (mem : ℕ → UInt8) (buf : ℕ) :
    RxDeagg.headOf (ppduOf mem buf) = RxDeagg.headOf (RxDeagg.head mem buf) := rfl

variable {m : RMetaData} {type : RxType}

lemma accept_of_unfit (ok : Bool)
    (hm : RxDeagg.headOf m = RxDeagg.headOf (RxDeagg.head mem buf))
    (h : buf + bufLen < packetStart mem buf + packetLen mem buf) :
    accept b buf bufLen type m ok = none := by
  obtain ⟨hstart, hlen, -, -⟩ := RxDeagg.pktStart_congr buf hm
  have hlt := RxDeagg.packetLen_lt mem buf
  refine if_neg fun hc => hc.2 ?_
  rw [hstart, hlen]
  change buf + bufLen < packetStart mem buf + packetLen mem buf % 65536
  omega

lemma accept_of_fit (hm : RxDeagg.headOf m = RxDeagg.headOf (RxDeagg.head mem buf))
    (h : ¬buf + bufLen < packetStart mem buf + packetLen mem buf) :
    accept b buf bufLen type m true =
      some ⟨rxType b.dfs m.rpktType type, m, pktStart buf m, m.pktlen % 65536⟩ := by
  obtain ⟨hstart, hlen, -, -⟩ := RxDeagg.pktStart_congr buf hm
  have hlt := RxDeagg.packetLen_lt mem buf
  refine if_pos ⟨rfl, fun hc => h ?_⟩
  rw [hstart, hlen] at hc
  change buf + bufLen < packetStart mem buf + packetLen mem buf % 65536 at hc
  omega

lemma accept_eq_accept_iff {m m' : RMetaData} {type : RxType}
    (hm : RxDeagg.headOf m = RxDeagg.headOf (RxDeagg.head mem buf))
    (hm' : RxDeagg.headOf m' = RxDeagg.headOf (RxDeagg.head mem buf))
    (h : ¬buf + bufLen < packetStart mem buf + packetLen mem buf) :
    accept b buf bufLen type m true = accept b buf bufLen type m' true ↔ m = m' := by
  rw [accept_of_fit hm h, accept_of_fit hm' h]
  constructor
  · intro heq
    exact congrArg RxWd.RxPkt.mdata (Option.some.inj heq)
  · rintro rfl
    rfl

lemma accept_false (m : RMetaData) (type : RxType) : accept b buf bufLen type m false = none :=
  if_neg fun hc => Bool.false_ne_true hc.1

lemma halHandleRxBuffer_eq_iff (b : Build) (hclear : rx.mdata = .cleared) (e' : RxscEntry) :
    (halHandleRxBuffer { b with rxscAmpdu := true } mem e buf bufLen rx).2 =
      (halHandleRxBuffer { b with rxscAmpdu := false } mem e' buf bufLen rx).2 ↔
      Plain e mem buf bufLen := by
  rw [halHandleRxBuffer_snd, halHandleRxBuffer_snd, hclear]
  dsimp only
  have hoff : (halParsingRxWdDesc mem buf false e' .cleared).2 =
      (halParsingRxWdDesc mem buf false e .cleared).2 := by
    rw [halParsingRxWdDesc_off, halParsingRxWdDesc_off]
    split_ifs <;> rfl
  rw [hoff]
  by_cases hcons : Consults e mem buf
  · have hwifi : (parseHead mem buf .cleared).rpktType = pktTWifi := hcons.2
    have hfull : (halParsingRxWdDesc mem buf false e .cleared).2 =
        (parseFull mem buf (ppduOf mem buf), decide (packetLen mem buf ≠ 0)) := by
      rw [halParsingRxWdDesc_off, if_pos (Or.inl hwifi)]
      rfl
    have hhead : RxDeagg.headOf (parseFull mem buf (ppduOf mem buf)) =
        RxDeagg.headOf (RxDeagg.head mem buf) := RxDeagg.headOf_parseFull mem buf _
    have hplain : Plain e mem buf bufLen ↔
        buf + bufLen < packetStart mem buf + packetLen mem buf ∨
          if RxscRdy e (parseRxscKey mem buf (ppduOf mem buf)) then
            packetLen mem buf ≠ 0 ∧ Silent mem buf
          else packetLen mem buf = 0 ∨ IsLong mem buf ∨ AllZero mem buf keyFields := by
      refine ⟨fun h => (h.resolve_left hcons.1).resolve_left (not_not.2 hcons.2), fun h => ?_⟩
      exact .inr (.inr h)
    rw [hplain, halParsingRxWdDesc_of_consults hcons, hfull]
    by_cases hfit : buf + bufLen < packetStart mem buf + packetLen mem buf
    · refine iff_of_true ?_ (.inl hfit)
      rw [accept_of_unfit _ hhead hfit]
      split_ifs
      · exact accept_of_unfit _ (headOf_ppduOf mem buf) hfit
      · exact accept_of_unfit _ (RxDeagg.headOf_parseFull mem buf _) hfit
    · rw [or_iff_right hfit]
      split_ifs with hrdy
      · have hhit : RxDeagg.headOf (parseRxscHit mem buf (parseRxscKey mem buf (ppduOf mem buf))) =
            RxDeagg.headOf (RxDeagg.head mem buf) := rfl
        dsimp only
        by_cases hzero : packetLen mem buf = 0
        · rw [decide_eq_false (not_not.2 hzero), accept_false, accept_of_fit hhit hfit]
          exact iff_of_false (Option.some_ne_none _) fun h => h.1 hzero
        · rw [decide_eq_true hzero, ← parseRxscHit_eq_parseFull_iff, and_iff_right hzero]
          exact accept_eq_accept_iff hhit hhead hfit
      · by_cases hzero : packetLen mem buf = 0
        · rw [decide_eq_false (not_not.2 hzero), accept_false, accept_false]
          exact iff_of_true rfl (.inl hzero)
        · rw [decide_eq_true hzero, or_iff_right hzero, ← parseFull_parseRxscKey_iff]
          exact accept_eq_accept_iff (RxDeagg.headOf_parseFull mem buf _) hhead hfit
  · rw [halParsingRxWdDesc_of_not_consults hcons]
    refine iff_of_true rfl ?_
    rw [Consults, not_and_or, not_not] at hcons
    rcases hcons with hmax | hkind
    · exact .inl hmax
    · exact .inr (.inl hkind)

end Handle

end Rtl8831.Phl.RxShortcut
