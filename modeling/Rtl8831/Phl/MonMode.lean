import Rtl8831.Lib.MaskedWrite
import Rtl8831.Phl.PpduSts

/-!
# Monitor mode and the RX filter option

`rtw_phl_enter_mon_mode` and `rtw_phl_leave_mon_mode` of `phl_rx.c`, over the filter
calls of `hal_rx.c`.  A call of the MAC fails when the CMAC of its band is not enabled
(`check_mac_en`), and then leaves the registers as they are; whether it is enabled is an
input of every call.
-/

namespace Rtl8831.Phl.MonMode

open Lib Function

inductive RxFltrOptMode where
  | sniffer
  | scan
  | staLinking
  | staNormal
  | apNormal
  | lsnDiscov
  | mp
  | restore
  deriving DecidableEq

/-! ## The option register -/

/-- The part of `struct mac_ax_rx_fltr_ctrl_t` for the MAC filter register. -/
structure RxFltrCtrl where
  snifferMode : Bool := false
  acptA1MatchPkt : Bool := false
  acptBcPkt : Bool := false
  acptMcPkt : Bool := false
  ucPktChkCamMatch : Bool := false
  bcPktChkCamMatch : Bool := false
  mcPktWhiteLstMode : Bool := false
  bcnChkEn : Bool := false
  bcnChkRule : BitVec 2 := 0
  acptPwrMngtPkt : Bool := false
  acptCrc32ErrPkt : Bool := false
  acptUnsupportPkt : Bool := false
  acptMacHdrContentErrPkt : Bool := false
  acptFtmReqPkt : Bool := false
  pktLenFltr : BitVec 6 := 0
  unspPktTarget : BitVec 2 := 0
  uidFltr : BitVec 4 := 0

/-- `BIT(i)` when the flag is set -/
def flagBit (flag : Bool) (i : ℕ) : BitVec 32 :=
  if flag then 1#32 <<< i else 0

def rxFltrOpt2Uint (c : RxFltrCtrl) : BitVec 32 :=
  flagBit c.snifferMode 0 ||| flagBit c.acptA1MatchPkt 1 ||| flagBit c.acptBcPkt 2 |||
  flagBit c.acptMcPkt 3 ||| flagBit c.ucPktChkCamMatch 4 ||| flagBit c.bcPktChkCamMatch 5 |||
  flagBit c.mcPktWhiteLstMode 6 ||| flagBit c.bcnChkEn 7 ||| flagBit c.acptPwrMngtPkt 10 |||
  flagBit c.acptCrc32ErrPkt 11 ||| flagBit c.acptMacHdrContentErrPkt 13 |||
  flagBit c.acptUnsupportPkt 12 ||| flagBit c.acptFtmReqPkt 14 |||
  c.bcnChkRule.setWidth 32 <<< 8 ||| c.pktLenFltr.setWidth 32 <<< 16 |||
  c.unspPktTarget.setWidth 32 <<< 22 ||| c.uidFltr.setWidth 32 <<< 24

/-- What a caller of `mac_set_rx_fltr_opt` passes: the values and the fields they are for. -/
structure FltrReq where
  ctrl : RxFltrCtrl := {}
  mask : RxFltrCtrl := {}

def FltrReq.setting (r : FltrReq) : Setting 32 where
  opt := rxFltrOpt2Uint r.ctrl
  mask := rxFltrOpt2Uint r.mask

/-- `mac_set_rx_fltr_opt`; the register is taken as `mac_get_rx_fltr_opt` reads it. -/
def macSetRxFltrOpt (macEn : Bool) (r : FltrReq) (reg : BitVec 32) : Option (BitVec 32) :=
  if macEn then some (r.setting.write reg) else none

def halSetDftRxfltr (r : FltrReq) : FltrReq where
  ctrl := { r.ctrl with
    snifferMode := false
    acptA1MatchPkt := true
    ucPktChkCamMatch := true
    acptBcPkt := true
    bcPktChkCamMatch := true
    acptMcPkt := true
    mcPktWhiteLstMode := false
    bcnChkEn := true
    bcnChkRule := 0
    acptPwrMngtPkt := true
    acptFtmReqPkt := true }
  mask := { r.mask with
    snifferMode := true
    acptA1MatchPkt := true
    ucPktChkCamMatch := true
    acptBcPkt := true
    bcPktChkCamMatch := true
    acptMcPkt := true
    mcPktWhiteLstMode := true
    bcnChkEn := true
    bcnChkRule := 3
    acptPwrMngtPkt := true
    acptFtmReqPkt := true }

/-- The fields of address 1, broadcast and multicast as `SCAN` and `MP` set them. -/
def acptAddressed (r : FltrReq) : FltrReq where
  ctrl := { r.ctrl with acptA1MatchPkt := true, acptBcPkt := true, acptMcPkt := true }
  mask := { r.mask with acptA1MatchPkt := true, acptBcPkt := true, acptMcPkt := true }

def setChecks (uc bc bcn : Bool) (r : FltrReq) : FltrReq where
  ctrl := { r.ctrl with ucPktChkCamMatch := uc, bcPktChkCamMatch := bc, bcnChkEn := bcn }
  mask := { r.mask with ucPktChkCamMatch := true, bcPktChkCamMatch := true, bcnChkEn := true }

/-- The switch of `rtw_hal_mac_set_rxfltr_opt_by_mode`. -/
def optReq : RxFltrOptMode → FltrReq
  | .restore => {}
  | .sniffer => { ctrl := { snifferMode := true }, mask := { snifferMode := true } }
  | .scan => setChecks false false false (acptAddressed {})
  | .staNormal => halSetDftRxfltr {}
  | .staLinking => setChecks true false false (halSetDftRxfltr {})
  | .lsnDiscov => setChecks false false false (halSetDftRxfltr {})
  | .apNormal => setChecks false false true (halSetDftRxfltr {})
  | .mp =>
    let r := setChecks true true true (acptAddressed {})
    { ctrl := { r.ctrl with bcnChkRule := 2 }, mask := { r.mask with bcnChkRule := 3 } }

def rtwHalMacSetRxfltrOptByMode (macEn : Bool) (mode : RxFltrOptMode) (reg : BitVec 32) :
    Option (BitVec 32) :=
  macSetRxFltrOpt macEn (optReq mode) reg

/-- The request of `rtw_hal_mac_set_rxfltr_acpt_crc_err`. -/
def acptCrcErrReq (enable : Bool) : FltrReq where
  ctrl := { acptCrc32ErrPkt := enable }
  mask := { acptCrc32ErrPkt := true }

/-! ## The filter of frame types -/

inductive FrameType where
  | ctrl
  | mgnt
  | data
  deriving DecidableEq

inductive RxfltrTarget where
  | drop
  | toHost
  | toWlcpu
  deriving DecidableEq

/-- `struct rxfltr_type_cap`: the target of the frames of each type and subtype. -/
def RxfltrTypeCap : Type := FrameType → Fin 16 → RxfltrTarget

/-- `struct rxfltr_type_cap_to_set`; `none` is an entry whose `set` is false. -/
def RxfltrTypeCapToSet : Type := FrameType → Fin 16 → Option RxfltrTarget

/-- `enum rtw_rxfltr_type_mode`, as far as monitor mode asks for it -/
inductive RxfltrTypeMode where
  | monitor
  | roleInit
  deriving DecidableEq

def setRxfltrCapByType (type : FrameType) (target : RxfltrTarget)
    (c : RxfltrTypeCap × RxfltrTypeCapToSet) : RxfltrTypeCap × RxfltrTypeCapToSet :=
  (update c.1 type fun _ => target, update c.2 type fun _ => some target)

/-- The switch of `rtw_phl_mr_set_rxfltr_type_by_mode`: the capability of the link, and
what of it is to be set. -/
def rxfltrCapByMode (mode : RxfltrTypeMode) (cap : RxfltrTypeCap) :
    RxfltrTypeCap × RxfltrTypeCapToSet :=
  let ctrlTarget := match mode with
    | .monitor => RxfltrTarget.toHost
    | .roleInit => RxfltrTarget.drop
  setRxfltrCapByType .data .toHost
    (setRxfltrCapByType .mgnt .toHost
      (setRxfltrCapByType .ctrl ctrlTarget (cap, fun _ _ => none)))

def mrRxfltrTargetDcsn (trgtChk trgtCur : RxfltrTarget) : RxfltrTarget :=
  match trgtChk with
  | .drop => trgtCur
  | .toHost => if trgtCur = .drop then .toHost else trgtCur
  | .toWlcpu => .toWlcpu

/-- `_phl_mr_rx_filter_type`, over the capabilities of the other links of the band. -/
def mrRxFilterType (others : List RxfltrTypeCap) (capS : RxfltrTypeCapToSet) :
    RxfltrTypeCapToSet :=
  others.foldl (fun capS cap type i => (capS type i).map (mrRxfltrTargetDcsn (cap type i))) capS

inductive TypFltrWrite where
  | byType (type : FrameType) (target : RxfltrTarget)
  | bySubtype (type : FrameType) (i : Fin 16) (target : RxfltrTarget)

/-- `mac_set_typ_fltr_opt` and `mac_set_typsbtyp_fltr_opt`, once the CMAC is enabled. -/
def TypFltrWrite.apply (typFltr : RxfltrTypeCap) : TypFltrWrite → RxfltrTypeCap
  | .byType type target => update typFltr type fun _ => target
  | .bySubtype type i target =>
    update typFltr type (update (typFltr type) i target)

/-- `rtw_hal_set_rxfltr_by_stype_ctrl`, `_mgnt` and `_data`: one write when all subtypes
have one target, else one for each subtype to be set. -/
def rtwHalSetRxfltrByStype (type : FrameType) (cap : Fin 16 → Option RxfltrTarget) :
    List TypFltrWrite :=
  let bySubtype := (List.finRange 16).filterMap fun i => (cap i).map (.bySubtype type i)
  match cap 0 with
  | none => bySubtype
  | some target => if ∀ i, cap i = some target then [.byType type target] else bySubtype

/-- `rtw_hal_set_rxfltr_by_stype_all`.  `refused` numbers the write for which the CMAC is
found off; the writes before it have been done. -/
def rtwHalSetRxfltrByStypeAll (refused : Option ℕ) (capAll : RxfltrTypeCapToSet)
    (typFltr : RxfltrTypeCap) : RxfltrTypeCap × Bool :=
  let writes := [FrameType.ctrl, .mgnt, .data].flatMap fun type =>
    rtwHalSetRxfltrByStype type (capAll type)
  match refused with
  | none => (writes.foldl TypFltrWrite.apply typFltr, true)
  | some n => ((writes.take (min n (writes.length - 1))).foldl TypFltrWrite.apply typFltr, false)

/-! ## The state -/

/-- The PPDU status report of a band: `B_AX_PPDU_STAT_RPT_EN` and the filter bits. -/
structure PpduStat where
  rptEn : Bool
  bmpFilter : ℕ

/-- What is kept for a band: `hal_com->band`, `hal_info->monitor_mode`,
`ppdu_sts_info.en_ppdu_sts`, and the registers of its CMAC. -/
structure Band where
  rxFltrOptMode : RxFltrOptMode
  monitorMode : Bool
  rxFltrOpt : BitVec 32
  typFltr : RxfltrTypeCap
  enPpduSts : Bool
  ppduStsFilter : ℕ
  ppduStat : PpduStat

abbrev LinkId : Type := ℕ × ℕ

/-- `struct rtw_wifi_role_link_t`; its `rxfltr_type_cap` is kept in `PhlInfo.cap`. -/
structure Rlink where
  id : LinkId
  hwBand : PpduSts.HwBand

inductive DrvMode where
  | normal
  | sniffer
  | other (mode : ℕ)
  deriving DecidableEq

/-- `fltrMode` are the bytes that scans pass as `mode`. -/
structure PhlInfo where
  drvMode : DrvMode
  bbSnif : Bool
  appendFcs : Bool
  band : PpduSts.HwBand → Band
  cap : LinkId → RxfltrTypeCap
  fltrMode : ℕ → RxFltrOptMode

def onBand (s : PhlInfo) (band : PpduSts.HwBand) (r : Band × Bool) : PhlInfo × Bool :=
  ({ s with band := update s.band band r.1 }, r.2)

/-! ## The filter calls of the HAL -/

namespace Band

def rtwHalSetRxfltrOptByMode (macEn : Bool) (mode : RxFltrOptMode) (b : Band) : Band × Bool :=
  if (mode = .sniffer ∧ b.monitorMode = true) ∨ (mode = .restore ∧ b.monitorMode = false) then
    (b, false)
  else if b.monitorMode = true ∧ mode ≠ .restore then
    ({ b with rxFltrOptMode := mode }, true)
  else
    let setMode := if mode = .restore then b.rxFltrOptMode else mode
    match rtwHalMacSetRxfltrOptByMode macEn setMode b.rxFltrOpt with
    | none => (b, false)
    | some reg =>
      ({ b with
          rxFltrOpt := reg
          monitorMode := decide (mode = .sniffer)
          rxFltrOptMode :=
            if mode ≠ .sniffer ∧ mode ≠ .restore then mode else b.rxFltrOptMode }, true)

def rtwHalGetRxfltrOptMode (b : Band) : RxFltrOptMode :=
  if b.monitorMode then .sniffer else b.rxFltrOptMode

def rtwHalAcptCrcErrPkt (macEn enable : Bool) (b : Band) : Band × Bool :=
  match macSetRxFltrOpt macEn (acptCrcErrReq enable) b.rxFltrOpt with
  | none => (b, false)
  | some reg => ({ b with rxFltrOpt := reg }, true)

/-- `cfg_ppdu_status` for the report to the host -/
def cfgPpduStatus (b : Band) : PpduStat :=
  if b.enPpduSts then ⟨true, b.ppduStsFilter⟩ else { b.ppduStat with rptEn := false }

def rtwHalCfgPpduStsFltr (macEn : Bool) (fltr : ℕ) (b : Band) : Band × Bool :=
  let b := { b with ppduStsFilter := fltr }
  if macEn then ({ b with ppduStat := b.cfgPpduStatus }, true) else (b, false)

end Band

def halPpduHasCrcOk : ℕ := 1 <<< 5

def rtwHalScanSetRxfltrByMode (macEn : Bool) (band : PpduSts.HwBand) (offChannel : Bool) (mode : ℕ)
    (s : PhlInfo) : PhlInfo × Bool :=
  if offChannel then
    let s := { s with
      fltrMode := update s.fltrMode mode (s.band band).rtwHalGetRxfltrOptMode }
    onBand s band ((s.band band).rtwHalSetRxfltrOptByMode macEn .scan)
  else
    onBand s band ((s.band band).rtwHalSetRxfltrOptByMode macEn (s.fltrMode mode))

def rtwHalEnterMonMode (macEn : Bool) (band : PpduSts.HwBand) (s : PhlInfo) : PhlInfo × Bool :=
  onBand { s with bbSnif := true } band
    ((s.band band).rtwHalSetRxfltrOptByMode macEn .sniffer)

def rtwHalLeaveMonMode (macEn : Bool) (band : PpduSts.HwBand) (s : PhlInfo) : PhlInfo × Bool :=
  onBand { s with bbSnif := false } band
    ((s.band band).rtwHalSetRxfltrOptByMode macEn .restore)

/-- `rtw_hal_set_append_fcs`; the MAC reports success whatever happens. -/
def rtwHalSetAppendFcs (enable : Bool) (s : PhlInfo) : PhlInfo × Bool :=
  ({ s with appendFcs := enable }, true)

/-- `rtw_phl_mr_set_rxfltr_type_by_mode`; `active` are the links that the roles active on
a band have there. -/
def rtwPhlMrSetRxfltrTypeByMode (active : PpduSts.HwBand → List LinkId) (refused : Option ℕ)
    (l : Rlink) (mode : RxfltrTypeMode) (s : PhlInfo) : PhlInfo × Bool :=
  let others := ((active l.hwBand).filter fun id => decide (id ≠ l.id)).map s.cap
  let (cap, capS) := rxfltrCapByMode mode (s.cap l.id)
  let b := s.band l.hwBand
  let (typFltr, ok) := rtwHalSetRxfltrByStypeAll refused (mrRxFilterType others capS) b.typFltr
  onBand { s with cap := update s.cap l.id cap } l.hwBand ({ b with typFltr }, ok)

/-! ## Entering and leaving monitor mode -/

/-- The step of `rtw_phl_enter_mon_mode` that its trace names. -/
inductive EnterStep where
  | enterMonMode
  | rxfltrType
  | appendFcs
  | acptCrcErr
  | ppduSts
  deriving DecidableEq

/-- `RTW_PHL_STATUS_FAILURE` is told apart by what made the call fail. -/
inductive EnterStatus where
  | success
  | refused
  | failed (l : Rlink) (step : EnterStep)

/-- The state of the CMACs during `rtw_phl_enter_mon_mode`: a band is set up at most once
in a call, and `restore` is for the links by their number. -/
structure EnterEnv where
  active : PpduSts.HwBand → List LinkId
  monEn : PpduSts.HwBand → Bool
  typeRefused : PpduSts.HwBand → Option ℕ
  crcEn : PpduSts.HwBand → Bool
  ppduEn : PpduSts.HwBand → Bool
  restoreEn : ℕ → Bool

/-- The body of the loop of `rtw_phl_enter_mon_mode` for the link `idx`, less the undoing
of the links before it. -/
def enterLink (env : EnterEnv) (idx : ℕ) (l : Rlink) (s : PhlInfo) : PhlInfo × Option EnterStep :=
  match rtwHalEnterMonMode (env.monEn l.hwBand) l.hwBand s with
  | (s, false) => (s, some .enterMonMode)
  | (s, true) =>
    match rtwPhlMrSetRxfltrTypeByMode env.active (env.typeRefused l.hwBand) l .monitor s with
    | (s, false) =>
      ((rtwHalLeaveMonMode (env.restoreEn idx) l.hwBand s).1, some .rxfltrType)
    | (s, true) =>
      match rtwHalSetAppendFcs true s with
      | (s, false) => (s, some .appendFcs)
      | (s, true) =>
        match onBand s l.hwBand
          ((s.band l.hwBand).rtwHalAcptCrcErrPkt (env.crcEn l.hwBand) true) with
        | (s, false) => (s, some .acptCrcErr)
        | (s, true) =>
          match onBand s l.hwBand
            ((s.band l.hwBand).rtwHalCfgPpduStsFltr (env.ppduEn l.hwBand) 0) with
          | (s, false) => (s, some .ppduSts)
          | (s, true) => (s, none)

/-- The loop over `rollback`; `done` are the links before the failing one, last first. -/
def leaveDone (restoreEn : ℕ → Bool) : List Rlink → PhlInfo → PhlInfo
  | [], s => s
  | l :: done, s =>
    leaveDone restoreEn done (rtwHalLeaveMonMode (restoreEn done.length) l.hwBand s).1

def enterLinks (env : EnterEnv) : List Rlink → List Rlink → PhlInfo → PhlInfo × EnterStatus
  | _, [], s => (s, .success)
  | done, l :: links, s =>
    if (s.band l.hwBand).rtwHalGetRxfltrOptMode = .sniffer then
      enterLinks env (l :: done) links s
    else
      match enterLink env done.length l s with
      | (s, none) => enterLinks env (l :: done) links s
      | (s, some .enterMonMode) =>
        (leaveDone env.restoreEn done s, .failed l .enterMonMode)
      | (s, some step) => (s, .failed l step)

/-- `rtw_phl_enter_mon_mode` for the links of the role -/
def rtwPhlEnterMonMode (env : EnterEnv) (links : List Rlink) (s : PhlInfo) : PhlInfo × EnterStatus :=
  if s.drvMode ≠ .normal then (s, .refused)
  else
    match enterLinks env [] links s with
    | (s, .success) => ({ s with drvMode := .sniffer }, .success)
    | r => r

/-- The state of the CMACs during `rtw_phl_leave_mon_mode`, for the links by their number;
`monEn` is for the links that are put back into monitor mode. -/
structure LeaveEnv where
  active : PpduSts.HwBand → List LinkId
  crcEn : ℕ → Bool
  typeRefused : ℕ → Option ℕ
  ppduEn : ℕ → Bool
  restoreEn : ℕ → Bool
  monEn : ℕ → Bool

inductive LeaveStep where
  | acptCrcErr
  | rxfltrType
  | ppduSts
  | leaveMonMode

/-- The body of the loop of `rtw_phl_leave_mon_mode` for the link `idx`. -/
def leaveLink (env : LeaveEnv) (idx : ℕ) (l : Rlink) (s : PhlInfo) : PhlInfo × Option LeaveStep :=
  match onBand s l.hwBand ((s.band l.hwBand).rtwHalAcptCrcErrPkt (env.crcEn idx) false) with
  | (s, false) => (s, some .acptCrcErr)
  | (s, true) =>
    -- a failure of `rtw_hal_set_append_fcs` is only traced
    let s := (rtwHalSetAppendFcs false s).1
    match rtwPhlMrSetRxfltrTypeByMode env.active (env.typeRefused idx) l .roleInit s with
    | (s, false) => (s, some .rxfltrType)
    | (s, true) =>
      match onBand s l.hwBand
        ((s.band l.hwBand).rtwHalCfgPpduStsFltr (env.ppduEn idx) halPpduHasCrcOk) with
      | (s, false) => (s, some .ppduSts)
      | (s, true) =>
        match rtwHalLeaveMonMode (env.restoreEn idx) l.hwBand s with
        | (s, false) => (s, some .leaveMonMode)
        | (s, true) => (s, none)

/-- The loop over `rollback` of `rtw_phl_leave_mon_mode`. -/
def enterDone (monEn : ℕ → Bool) : List Rlink → PhlInfo → PhlInfo
  | [], s => s
  | l :: done, s => enterDone monEn done (rtwHalEnterMonMode (monEn done.length) l.hwBand s).1

def leaveLinks (env : LeaveEnv) : List Rlink → List Rlink → PhlInfo → PhlInfo × Bool
  | _, [], s => (s, true)
  | done, l :: links, s =>
    match leaveLink env done.length l s with
    | (s, none) => leaveLinks env (l :: done) links s
    | (s, some .leaveMonMode) => (enterDone env.monEn done s, false)
    | (s, some _) => (s, false)

/-- `rtw_phl_leave_mon_mode` for the links of the role -/
def rtwPhlLeaveMonMode (env : LeaveEnv) (links : List Rlink) (s : PhlInfo) : PhlInfo × Bool :=
  if s.drvMode ≠ .sniffer then (s, false)
  else
    match leaveLinks env [] links s with
    | (s, true) => ({ s with drvMode := .normal }, true)
    | r => r

end Rtl8831.Phl.MonMode
