import Rtl8831.Core.MeshCache
import Rtl8831.Core.SsidAbsorb
import Rtl8831.Phl.ReorderLedger
import Rtl8831.Phl.ReorderOrder
import Rtl8831.Phl.CmdScanRun
import Rtl8831.Phl.TrxRingFifo
import Rtl8831.Phl.DataCtrlRun
import Rtl8831.Phl.UsbRxRun
import Rtl8831.Phl.DisprClearance
import Rtl8831.Phl.DisprMsgRun
import Rtl8831.Phl.DisprRegistry
import Rtl8831.Phl.DisprAbort
import Rtl8831.Phl.DisprHandle
import Rtl8831.Core.RecvShortcut
import Rtl8831.Core.XmitConservation
import Rtl8831.Core.XmitShortcutRun
import Rtl8831.Core.RecvConservation
import Rtl8831.Core.PowerSave
import Rtl8831.Core.SwEncryptClosed
import Rtl8831.Mac.KeyRun
import Rtl8831.Mac.EfuseChecksum
import Rtl8831.Mac.EfuseSim
import Rtl8831.Mac.EfuseState
import Rtl8831.Phl.BcnTrackRun
import Rtl8831.Phl.StaPoolRun
import Rtl8831.Phl.ReorderTimeout
import Rtl8831.Phl.TxSchedRun
import Rtl8831.Phl.MldLinkRun
import Rtl8831.Phl.PpduStsRun
import Rtl8831.Phl.RxShortcutRun
import Rtl8831.Phl.UsbTxPadding
import Rtl8831.Core.AttrSearch
import Rtl8831.Core.RsneGrammar
import Rtl8831.Core.P2pMerge
import Rtl8831.Core.P2pDeleteList
import Rtl8831.Core.EthConvert
import Rtl8831.Core.TkipMicAgree
import Rtl8831.Phl.MonModeRun
import Rtl8831.Core.IeParse
import Rtl8831.Core.RateIeList
import Rtl8831.Core.AidAllocRun
import Rtl8831.Core.BipProtect
import Rtl8831.Core.StaTableRun
import Rtl8831.Core.BrExtRun
import Rtl8831.Core.PppoeRelay
import Rtl8831.Phl.MccNoa
import Rtl8831.Phl.MccPatternRange
import Rtl8831.Phl.ChanCtxChk
import Rtl8831.Phl.ChanCtxJoin
import Rtl8831.Phl.ChgOpchRun
import Rtl8831.Phl.RxFilterRun
import Rtl8831.Phl.TsfSyncRun
import Rtl8831.Mac.H2cAggRun
import Rtl8831.Phl.ScanSeqRun
import Rtl8831.Phl.PktOfldRun
import Rtl8831.Phl.NoaRun
import Rtl8831.Phl.TwtRun
import Rtl8831.Phl.NextStart
import Rtl8831.Core.MeshPathtbl
import Rtl8831.Core.BtmReq
