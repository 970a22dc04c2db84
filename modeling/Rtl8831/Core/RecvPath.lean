import Rtl8831.Core.PnCache

/-!
# The receive path for data frames

`rtw_core_rx_process` for one data frame: the shortcut of
`rtw_recv_shortcut.c`, and otherwise `validate_recv_frame`,
`rtw_core_rx_data_pre_process` and `rtw_core_rx_data_post_process`.  Software
decryption and the TKIP MIC are parameters.  Ethernet packets for the network
stack are byte strings.
-/

namespace Rtl8831.Core

open Lib Function

/-! ## Configuration and state -/

inductive AuthAlg where
  | openSystem
  | shared
  | ieee8021X
  | auto
  | wapi
  | maxNum
  deriving DecidableEq

inductive MlmeMode where
  | sta
  | ap
  deriving DecidableEq

/-- What reception reads of a `struct sta_info`. -/
structure StaEntry where
  macAddr : List UInt8
  macid : ℕ
  dot118021XPrivacy : SecurityType
  ieee8021xBlocked : Bool
  amsduDisable : Bool
  deriving DecidableEq

/-- What reception reads of an adapter.  `fwdAlloc` is the outcome of the
allocation of a transmit frame for forwarding. -/
structure RecvCfg where
  mode : MlmeMode
  macAddr : List UInt8
  linked : Bool
  auth : AuthAlg
  privacyAlgrthm : SecurityType
  grpPrivacy : SecurityType
  amsduNonSpp : Bool
  apIsolate : Bool
  asocListCnt : ℕ
  fwdAlloc : Bool
  stas : List StaEntry
  enableRxsc : Bool

structure RxReq where
  data : List UInt8
  room : ℕ
  bmc : Bool
  swDec : Bool
  secType : SecurityType
  addrCamVld : Bool
  macid : ℕ
  err : Bool
  deriving DecidableEq

/-- The `u16` that `recv_decache` compares. -/
inductive RxSeqKey where
  | tid (t : ℕ)
  | bmcTid (t : ℕ)
  | nonqos
  | nonqosBmc
  deriving DecidableEq

structure RxscEntry where
  valid : Bool := false
  payloadOffset : ℕ := 0
  trimPad : ℕ := 0
  wlanhdr : List UInt8 := []
  ethhdr : List UInt8 := []
  attrib : RxAttrib := {}

structure RxscTable where
  entry : Fin 4 → RxscEntry := fun _ => {}
  idxNew : ℕ := 0
  idxCached : ℕ := 0

structure RecvState where
  rxseq : ℕ → RxSeqKey → ℕ
  pn : PnCaches
  defrag : DefragPriv
  rxsc : ℕ → RxscTable

structure Crypto where
  decrypt : RecvFrame → Option (List UInt8)
  micOk : RecvFrame → Bool

/-! ## Validation -/

def getStainfo (cfg : RecvCfg) (addr : List UInt8) : Option ℕ :=
  let addr := if isMcast addr then List.replicate 6 255 else addr
  cfg.stas.findIdx? fun s => s.macAddr = addr

def lookupSta (cfg : RecvCfg) (rx : RxReq) (addr : List UInt8) : Option ℕ :=
  if rx.addrCamVld then cfg.stas.findIdx? fun s => s.macid = rx.macid else getStainfo cfg addr

def RecvCfg.entry (cfg : RecvCfg) (sta : ℕ) : StaEntry :=
  cfg.stas.getD sta ⟨[], 0, .noPrivacy, false, false⟩

def isNoData (p : List UInt8) : Bool := (getFrameSubType p).testBit 6

/-- `rtw_sta_rx_data_validate_hdr`; frames that fail or are handled here go
no further. -/
def staRxDataValidateHdr (cfg : RecvCfg) (rx : RxReq) (a : RxAttrib) : Option (ℕ × RxAttrib) :=
  let p := rx.data
  let a := { a with ra := getAddr1 p, ta := getAddr2 p }
  if a.toFrDs = 0 then
    if getAddr3 p ≠ getAddr2 p then none
    else (lookupSta cfg rx (getAddr2 p)).map fun sta =>
      (sta, { a with dst := getAddr1 p, src := getAddr2 p })
  else if !cfg.linked then none
  else if a.toFrDs = 2 then none
  else
    let a := if a.toFrDs = 1 then { a with dst := getAddr1 p, src := getAddr3 p }
      else { a with dst := getAddr3 p, src := getAddr4 p }
    if !a.amsdu && a.src = cfg.macAddr then none
    else if isNoData p then none
    else (lookupSta cfg rx a.ta).map fun sta => (sta, a)

def apRxDataValidateHdr (cfg : RecvCfg) (rx : RxReq) (a : RxAttrib) : Option (ℕ × RxAttrib) :=
  let p := rx.data
  let a := { a with ra := getAddr1 p, ta := getAddr2 p, dst := getAddr3 p }
  if !cfg.linked then none
  else if a.toFrDs = 2 then
    if isMcast (getAddr1 p) || isNoData p then none
    else (lookupSta cfg rx a.ta).map fun sta => (sta, { a with src := getAddr2 p })
  else if a.toFrDs = 3 then
    if isNoData p then none
    else (lookupSta cfg rx a.ta).map fun sta => (sta, { a with src := getAddr4 p })
  else none

/-- `GET_ENCRY_ALGO`; an unknown authentication mode leaves the value that
came with the frame. -/
def getEncryAlgo (auth : AuthAlg) (privacyAlgrthm grpPrivacy staPrivacy encrypt : SecurityType)
    (bmcst : Bool) : SecurityType :=
  match auth with
  | .openSystem | .shared | .auto | .wapi => privacyAlgrthm
  | .ieee8021X => if bmcst then grpPrivacy else staPrivacy
  | .maxNum => encrypt

/-- The end of `validate_recv_data_frame`: unprotected frames in a protected
network are dropped, but for what looks like EAPOL. -/
def dropUnprotected (cfg : RecvCfg) (entry : StaEntry) (a : RxAttrib) (p : List UInt8) : Bool :=
  if cfg.privacyAlgrthm = .noPrivacy then false
  else if isMcast a.ra then !a.privacy
  else
    let etherType := be16At p (a.hdrlen + a.ivLen + 6)
    if cfg.auth = .ieee8021X then
      (!a.privacy && decide (etherType ≠ 0x888e)) || (!a.privacy && a.amsdu) ||
        (decide (etherType = 0x888e) && decide (cfg.mode = .ap) &&
          decide (entry.dot118021XPrivacy = .noPrivacy) && decide (a.dst ≠ cfg.macAddr))
    else !a.privacy

def parseQosControl (p : List UInt8) (a : RxAttrib) : RxAttrib :=
  let a4Shift := if a.toFrDs = 3 then 6 else 0
  let hdrlen := (if a.qos then 26 else 24) + a4Shift + (if a.order then 4 else 0)
  { a with priority := if a.qos then getPriority p (24 + a4Shift) else 0, hdrlen }

def rxSeqKey (a : RxAttrib) : RxSeqKey :=
  if a.qos then if isMcast a.ra then .bmcTid a.priority else .tid a.priority
  else if isMcast a.ra then .nonqosBmc else .nonqos

/-- `recv_decache`; `none` drops the frame as a duplicate. -/
def recvDecache (rxseq : ℕ → RxSeqKey → ℕ) (sta : ℕ) (a : RxAttrib) :
    Option (ℕ → RxSeqKey → ℕ) :=
  let seqCtrl := (a.seqNum * 16 + a.fragNum) % 65536
  if 15 < a.priority then none
  else if rxseq sta (rxSeqKey a) = seqCtrl then none
  else some (update rxseq sta (update (rxseq sta) (rxSeqKey a) seqCtrl))

def setCipher (cfg : RecvCfg) (entry : StaEntry) (a : RxAttrib) : RxAttrib :=
  if a.privacy then
    let encrypt := getEncryAlgo cfg.auth cfg.privacyAlgrthm cfg.grpPrivacy
      entry.dot118021XPrivacy a.encrypt (isMcast a.ra)
    { a with encrypt, ivLen := encrypt.ivLen, icvLen := encrypt.icvLen }
  else { a with encrypt := .noPrivacy, ivLen := 0, icvLen := 0 }

def validateHdr (cfg : RecvCfg) (rx : RxReq) (a : RxAttrib) : Option (ℕ × RxAttrib) :=
  match cfg.mode with
  | .ap => apRxDataValidateHdr cfg rx a
  | .sta => staRxDataValidateHdr cfg rx a

def markAmsdu (p : List UInt8) (a : RxAttrib) : RxAttrib :=
  { a with amsdu := a.qos && getAMsdu p (24 + if a.toFrDs = 3 then 6 else 0) }

def validateRecvDataFrame (cfg : RecvCfg) (st : RecvState) (rx : RxReq) (a : RxAttrib) :
    RecvState × Option RecvFrame :=
  match validateHdr cfg rx (markAmsdu rx.data a) with
  | none => (st, none)
  | some (sta, a) =>
    let entry := cfg.entry sta
    if entry.amsduDisable && a.amsdu then (st, none)
    else
      let a := parseQosControl rx.data a
      match recvDecache st.rxseq sta a with
      | none => (st, none)
      | some rxseq =>
        let frame : RecvFrame :=
          { attrib := a, psta := some sta, keytrack := 0, data := rx.data, room := rx.room }
        match pnDecache (decide (cfg.mode = .sta)) st.pn sta frame with
        | none => ({ st with rxseq }, none)
        | some pn =>
          let a := setCipher cfg entry a
          if dropUnprotected cfg entry a rx.data then ({ st with rxseq, pn }, none)
          else ({ st with rxseq, pn }, some { frame with attrib := a })

/-- The attributes that `rtw_core_update_recvframe` and `validate_recv_frame`
take from the meta data and the frame control field. -/
def rxAttrib (rx : RxReq) : RxAttrib :=
  let p := rx.data
  { toFrDs := getToFrDs p, fragNum := getFragNum p, seqNum := getSequence p
    mfrag := getMFrag p, privacy := getPrivacy p, order := getOrder p
    qos := (getFrameSubType p).testBit 7, encrypt := rx.secType, bdecrypted := !rx.swDec }

/-- `validate_recv_frame` for a data frame. -/
def validateRecvFrame (cfg : RecvCfg) (st : RecvState) (rx : RxReq) :
    RecvState × Option RecvFrame :=
  if (byteAt rx.data 0).toNat % 4 ≠ 0 ∨ getFrameType rx.data ≠ wifiDataType then (st, none)
  else validateRecvDataFrame cfg st rx (rxAttrib rx)

def validFrame (cfg : RecvCfg) (rx : RxReq) (sta : ℕ) (a : RxAttrib) : RecvFrame :=
  { attrib := setCipher cfg (cfg.entry sta) (parseQosControl rx.data a), psta := some sta
    keytrack := 0, data := rx.data, room := rx.room }

lemma validateRecvDataFrame_cases {cfg : RecvCfg} {st : RecvState} {rx : RxReq} {a : RxAttrib}
    {r : RecvState × Option RecvFrame} (h : validateRecvDataFrame cfg st rx a = r) :
    (∃ rxseq pn, r = ({ st with rxseq, pn }, none)) ∨
    ∃ sta a' rxseq pn, validateHdr cfg rx (markAmsdu rx.data a) = some (sta, a') ∧
      recvDecache st.rxseq sta (parseQosControl rx.data a') = some rxseq ∧
      dropUnprotected cfg (cfg.entry sta) (validFrame cfg rx sta a').attrib rx.data = false ∧
      r = ({ st with rxseq, pn }, some (validFrame cfg rx sta a')) := by
  unfold validateRecvDataFrame at h
  cases hhdr : validateHdr cfg rx (markAmsdu rx.data a) with
  | none =>
    simp only [hhdr] at h
    exact Or.inl ⟨st.rxseq, st.pn, h.symm⟩
  | some hdr =>
    obtain ⟨sta, a'⟩ := hdr
    simp only [hhdr] at h
    by_cases hamsdu : ((cfg.entry sta).amsduDisable && a'.amsdu) = true
    · rw [if_pos hamsdu] at h
      exact Or.inl ⟨st.rxseq, st.pn, h.symm⟩
    rw [if_neg hamsdu] at h
    cases hseq : recvDecache st.rxseq sta (parseQosControl rx.data a') with
    | none =>
      simp only [hseq] at h
      exact Or.inl ⟨st.rxseq, st.pn, h.symm⟩
    | some rxseq =>
      simp only [hseq] at h
      split at h
      · exact Or.inl ⟨rxseq, st.pn, h.symm⟩
      next pn hpn =>
      by_cases hdrop : dropUnprotected cfg (cfg.entry sta)
          (setCipher cfg (cfg.entry sta) (parseQosControl rx.data a')) rx.data = true
      · rw [if_pos hdrop] at h
        exact Or.inl ⟨rxseq, pn, h.symm⟩
      · rw [if_neg hdrop] at h
        exact Or.inr ⟨sta, a', rxseq, pn, rfl, hseq, eq_false_of_ne_true hdrop, h.symm⟩

/-! ## Decryption, reassembly and port control -/

/-- `decryptor`; the outcome of WEP decryption is not looked at. -/
def decryptor (cr : Crypto) (f : RecvFrame) : Option RecvFrame :=
  let done (data : List UInt8) : RecvFrame :=
    { f with data, attrib := { f.attrib with bdecrypted := true } }
  if f.attrib.encrypt ≠ .noPrivacy ∧ f.attrib.bdecrypted = false then
    match f.attrib.encrypt with
    | .wep40 | .wep104 => some (done ((cr.decrypt f).getD f.data))
    | .tkip | .aes | .ccmp256 | .gcmp | .gcmp256 => (cr.decrypt f).map done
    | _ => some (done f.data)
  else some (done f.data)

def recvframeChkmic (cr : Crypto) (f : RecvFrame) : Option RecvFrame :=
  if f.attrib.encrypt = .tkip then
    if cr.micOk f then some (recvframePullTail f 8) else none
  else some f

/-- `portctrl`: a blocked station gets only EAPOL through. -/
def portctrl (cfg : RecvCfg) (f : RecvFrame) : Bool :=
  if cfg.auth = .ieee8021X ∧ (f.psta.elim false fun sta => (cfg.entry sta).ieee8021xBlocked) = true
  then decide (be16At f.data (f.attrib.hdrlen + f.attrib.ivLen + 6) = 0x888e)
  else true

/-- `rtw_core_rx_data_pre_process`; a frame comes back to be processed. -/
def rxDataPreProcess (cr : Crypto) (cfg : RecvCfg) (st : RecvState) (f : RecvFrame) :
    RecvState × Option RecvFrame :=
  match decryptor cr f with
  | none => (st, none)
  | some f =>
    let r := recvframeChkDefrag st.defrag f
    let st := { st with defrag := r.1 }
    if r.2.1 ≠ .continue then (st, none)
    else
      (st, do
        let f ← r.2.2
        let f ← if f.attrib.privacy then recvframeChkmic cr f else some f
        if portctrl cfg f then some f else none)

/-! ## Conversion to Ethernet -/

def rfc1042Header : List UInt8 := [0xaa, 0xaa, 3, 0, 0, 0]

def bridgeTunnelHeader : List UInt8 := [0xaa, 0xaa, 3, 0, 0, 0xf8]

/-- `rtw_recv_llc_parse`; true is `RTW_RX_LLC_REMOVE`. -/
def recvLlcParse (msdu : List UInt8) (msduLen : ℕ) : Bool :=
  if msduLen < 8 then false
  else
    let ethType := be16At msdu 6
    (decide (slice msdu 0 6 = rfc1042Header) && decide (ethType ≠ 0x80f3) &&
      decide (ethType ≠ 0x8137)) || decide (slice msdu 0 6 = bridgeTunnelHeader)

/-- The bytes `hdr` written over the front of `p`. -/
def overwrite (p hdr : List UInt8) : List UInt8 := hdr.take p.length ++ p.drop hdr.length

def u16 (x : ℤ) : ℕ := (x % 65536).toNat

def be16Bytes (n : ℕ) : List UInt8 := [UInt8.ofNat (n / 256), UInt8.ofNat n]

/-- What `rtw_ap_rx_msdu_act_check` decides: indicate, forward. -/
def apRxMsduActCheck (cfg : RecvCfg) (da sa : List UInt8) : Bool × Bool :=
  let fwdChk := decide (1 < cfg.asocListCnt) && cfg.fwdAlloc
  if sa = cfg.macAddr then (false, false)
  else if isMcast da then (true, !cfg.apIsolate && fwdChk)
  else if da = cfg.macAddr then (true, false)
  else if (getStainfo cfg da).isSome then (false, !cfg.apIsolate && fwdChk)
  else (true, !cfg.apIsolate && fwdChk)

def msduActCheck (cfg : RecvCfg) (da sa : List UInt8) : Bool × Bool :=
  match cfg.mode with
  | .ap => apRxMsduActCheck cfg da sa
  | .sta => (true, false)

structure RxOut where
  indicated : List (List UInt8) := []
  forwarded : List (List UInt8) := []
  deriving DecidableEq

def rxscCheckAlloc (cfg : RecvCfg) (a : RxAttrib) (bsnaphdr : Bool) (ethType : ℕ) : Bool :=
  cfg.enableRxsc && !a.amsdu && a.bdecrypted && !a.mfrag && decide (a.toFrDs ≠ 3) && bsnaphdr &&
    decide (ethType ≠ 0x0806) && decide (ethType ≠ 0x888e) && decide (ethType ≠ 0x8899) &&
    !isMcast a.ra && !isMcast a.dst

/-- The entry that `core_rxsc_alloc_entry` hands out next. -/
def RxscTable.nextIdx (t : RxscTable) : Fin 4 := Fin.ofNat 4 t.idxNew

/-- `core_rxsc_alloc_entry` with what `wlanhdr_to_ethhdr` then stores; an
Ethernet header is stored only if there is one. -/
def RxscTable.cache (t : RxscTable) (f : RecvFrame) (payloadOffset trimPad : ℕ)
    (eth : Option (List UInt8)) : RxscTable :=
  let e := { t.entry t.nextIdx with
    valid := true, payloadOffset, trimPad, wlanhdr := f.data.take f.attrib.hdrlen }
  let e := match eth with
    | none => e
    | some eth => { e with ethhdr := eth.take 14, attrib := f.attrib }
  { t with entry := update t.entry t.nextIdx e, idxNew := (t.nextIdx + 1) % 4 }

def wlanhdrToEthhdr (cfg : RecvCfg) (st : RecvState) (f : RecvFrame) (llc : Bool) :
    RecvState × Option (List UInt8) :=
  let g := if f.attrib.encrypt ≠ .noPrivacy then recvframePullTail f f.attrib.icvLen else f
  let rmvLen := f.attrib.hdrlen + f.attrib.ivLen + (if llc then 6 else 0)
  let pull := rmvLen + (if llc then 2 else 0) - 14
  let len := be16Bytes (u16 (g.data.length - rmvLen))
  let eth := if g.data.length < pull then none
    else some (overwrite (g.data.drop pull)
      (f.attrib.dst.take 6 ++ f.attrib.src.take 6 ++ (if llc then [] else len)))
  let trimPad := if f.attrib.encrypt ≠ .noPrivacy then f.attrib.icvLen else 0
  let rxsc := match f.psta with
    | some sta => if rxscCheckAlloc cfg f.attrib llc (be16At f.data rmvLen) then
        update st.rxsc sta ((st.rxsc sta).cache g pull trimPad eth) else st.rxsc
    | none => st.rxsc
  ({ st with rxsc }, eth)

/-- What `rtw_recv_llc_parse` says of the frame's MSDU. -/
def msduLlc (f : RecvFrame) : Bool :=
  let start := f.attrib.hdrlen + f.attrib.ivLen
  let icv := if f.attrib.encrypt ≠ .noPrivacy then f.attrib.icvLen else 0
  recvLlcParse (f.data.drop start) (u16 (f.data.length - start - icv))

def rxProcessMsdu (cfg : RecvCfg) (st : RecvState) (f : RecvFrame) : RecvState × RxOut :=
  let act := msduActCheck cfg f.attrib.dst f.attrib.src
  if act = (false, false) then (st, {})
  else
    let r := wlanhdrToEthhdr cfg st f (msduLlc f)
    match r.2 with
    | none => (r.1, {})
    | some eth => (r.1,
        { indicated := if act.1 then [eth] else [], forwarded := if act.2 then [eth] else [] })

def validateAmsduContent (cfg : RecvCfg) (a : RxAttrib) (da sa : List UInt8) : Bool :=
  if cfg.amsduNonSpp && decide (cfg.privacyAlgrthm ≠ .noPrivacy) then
    !(decide (a.toFrDs = 1) && decide (da ≠ a.ra)) &&
      !(decide (a.toFrDs = 2) && decide (sa ≠ a.ta)) && decide (da ≠ rfc1042Header)
  else true

def allocMsduPkt (da sa msdu : List UInt8) (llc : Bool) : List UInt8 :=
  if llc then da ++ sa ++ msdu.drop 6 else da ++ sa ++ be16Bytes msdu.length ++ msdu

/-- The loop of `amsdu_to_msdu` on the `p` that is left, with `nr` packets
kept so far.  Every round takes at least the subframe header. -/
def amsduLoop (cfg : RecvCfg) (a : RxAttrib) : ℕ → ℕ → List UInt8 → RxOut
  | 0, _, _ => {}
  | k + 1, nr, p =>
    if p.length ≤ 14 then {}
    else
      let subLen := be16At p 12
      if p.length < 14 + subLen then {}
      else
        let da := slice p 0 6
        let sa := slice p 6 6
        if !validateAmsduContent cfg a da sa then {}
        else
          let msdu := slice p 14 subLen
          let pkt := allocMsduPkt da sa msdu (recvLlcParse (p.drop 14) subLen)
          let act := msduActCheck cfg da sa
          let nr := if act.1 then nr + 1 else nr
          let rest := p.drop (14 + subLen)
          let pad := (4 - (subLen + 14) % 4) % 4
          let more := if 64 ≤ nr ∨ rest.length < pad then {} else amsduLoop cfg a k nr (rest.drop pad)
          { indicated := (if act.1 then [pkt] else []) ++ more.indicated
            forwarded := (if act.2 then [pkt] else []) ++ more.forwarded }

def amsduToMsdu (cfg : RecvCfg) (f : RecvFrame) : RxOut :=
  let g := recvframePull (recvframePull f f.attrib.hdrlen) f.attrib.ivLen
  let g := if f.attrib.encrypt ≠ .noPrivacy then recvframePullTail g f.attrib.icvLen else g
  amsduLoop cfg f.attrib g.data.length 0 g.data

def rxDataPostProcess (cfg : RecvCfg) (st : RecvState) (f : RecvFrame) : RecvState × RxOut :=
  if f.attrib.amsdu then (st, amsduToMsdu cfg f) else rxProcessMsdu cfg st f

/-- The full path of `rtw_core_rx_process`. -/
def fullPath (cr : Crypto) (cfg : RecvCfg) (st : RecvState) (rx : RxReq) : RecvState × RxOut :=
  let v := validateRecvFrame cfg st rx
  match v.2 with
  | none => (v.1, {})
  | some f =>
    let r := rxDataPreProcess cr cfg v.1 f
    match r.2 with
    | none => (r.1, {})
    | some f => rxDataPostProcess cfg r.1 f

/-! ## The shortcut -/

/-- The comparison of `core_rxsc_get_entry`. -/
def RxscEntry.matches (e : RxscEntry) (p : List UInt8) : Bool :=
  e.valid && decide (slice p 4 18 = slice e.wlanhdr 4 18) &&
    decide (slice p (e.payloadOffset + 6) 6 = rfc1042Header) &&
    decide (slice p (e.payloadOffset + 12) 2 = slice e.ethhdr 12 2)

/-- `core_rxsc_get_entry`: the station and how far from the last hit the
entry was found. -/
def rxscGetEntry (cfg : RecvCfg) (st : RecvState) (p : List UInt8) : Option (ℕ × Fin 4) :=
  if getFrameType p ≠ wifiDataType then none
  else
    (getStainfo cfg (getAddr2 p)).bind fun sta =>
      ((List.finRange 4).find? fun (i : Fin 4) =>
        ((st.rxsc sta).entry (Fin.ofNat 4 ((st.rxsc sta).idxCached + i))).matches p).map
          fun i => (sta, i)

/-- `core_rxsc_apply_check`: the entry that takes the frame. -/
def rxscApplyCheck (cfg : RecvCfg) (st : RecvState) (p : List UInt8) : Option (ℕ × Fin 4) :=
  if cfg.enableRxsc then rxscGetEntry cfg st p else none

def rxscEntry (st : RecvState) (hit : ℕ × Fin 4) : RxscEntry :=
  (st.rxsc hit.1).entry (Fin.ofNat 4 ((st.rxsc hit.1).idxCached + hit.2))

def rxscAttrib (e : RxscEntry) (p : List UInt8) : RxAttrib :=
  if e.attrib.encrypt = .aes then
    { e.attrib with priority := if e.attrib.qos then getPriority p 24 else 0 }
  else e.attrib

def rxscFrame (e : RxscEntry) (rx : RxReq) (sta : ℕ) : RecvFrame :=
  { attrib := rxscAttrib e rx.data, psta := some sta, keytrack := 0, data := rx.data
    room := rx.room }

def rxscPnDecache (cfg : RecvCfg) (pn : PnCaches) (e : RxscEntry) (rx : RxReq) (sta : ℕ) :
    Option PnCaches :=
  if e.attrib.encrypt = .aes then
    pnDecache (decide (cfg.mode = .sta)) pn sta (rxscFrame e rx sta) else some pn

/-- `core_rxsc_apply_shortcut`; without a packet the caller takes the full
path. -/
def rxscApplyShortcut (cfg : RecvCfg) (st : RecvState) (rx : RxReq) (hit : ℕ × Fin 4) :
    RecvState × Option (List UInt8) :=
  let e := rxscEntry st hit
  let st := { st with
    rxsc := update st.rxsc hit.1 { st.rxsc hit.1 with idxCached := hit.2 } }
  match rxscPnDecache cfg st.pn e rx hit.1 with
  | none => (st, none)
  | some pn =>
    let f := rxscFrame e rx hit.1
    let g := if e.trimPad ≠ 0 then recvframePullTail f e.trimPad else f
    ({ st with pn }, some (overwrite (recvframePull g e.payloadOffset).data (e.ethhdr.take 14)))

/-- A frame that `core_rxsc_apply_check` selected. -/
def rxscPath (cr : Crypto) (cfg : RecvCfg) (st : RecvState) (rx : RxReq) (hit : ℕ × Fin 4) :
    RecvState × RxOut :=
  let r := rxscApplyShortcut cfg st rx hit
  match r.2 with
  | some eth => (r.1, { indicated := [eth] })
  | none => fullPath cr cfg r.1 rx

/-- One frame through `rtw_core_rx_process`. -/
def rxProcess (cr : Crypto) (cfg : RecvCfg) (st : RecvState) (rx : RxReq) : RecvState × RxOut :=
  if !rx.bmc && decide (getAddr1 rx.data ≠ cfg.macAddr) then (st, {})
  else if rx.err then (st, {})
  else
    match rxscApplyCheck cfg st rx.data with
    | none => fullPath cr cfg st rx
    | some hit => rxscPath cr cfg st rx hit

end Rtl8831.Core
