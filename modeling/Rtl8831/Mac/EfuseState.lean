import Rtl8831.Lib.Run
import Rtl8831.Mac.Efuse

/-!
# The state machine of the efuse operations

Every public operation on the fuses takes `sm.efuse` from idle, selects a bank
and, where a chip has a second die, the die, and has to give all three back on
each of its returns.  The inner steps (registers, allocations, transfers) are
answers that come with the call.
-/

namespace Rtl8831.Mac

namespace EfuseState

open Efuse (Bank)

/-- The codes of `errors.h` that the operations return of themselves. -/
def macNptr : UInt32 := 5
def macNoItem : UInt32 := 11
def macBufAlloc : UInt32 := 14
def macNoFw : UInt32 := 22
def macProcBusy : UInt32 := 23
def macProcErr : UInt32 := 24
def macEfuseSize : UInt32 := 28

/-- `enum rtw_dv_sel`: the die whose fuses are meant. -/
inductive DvSel
  | ddv
  | dav
  deriving DecidableEq

inductive ReadCfg
  | auto
  | drv
  | fw
  deriving DecidableEq

/-- What `struct mac_ax_hw_info` says of the chip. -/
structure Chip where
  is8852a : Bool
  davExist : Bool
  wlEfuseSize : UInt32
  efuseSize : UInt32
  logEfuseSize : UInt32
  limitEfuseSize : UInt32
  davLogEfuseSize : UInt32
  btEfuseSize : UInt32
  btLogEfuseSize : UInt32
  secDataEfuseSize : UInt32
  hiddenEfuseRfSize : UInt32
  otpTest : Bool

def otpPhySize : UInt32 := 0x800

/-- `sm.efuse`, the bank `bank_efuse_info` points at, and `dv_sel`. -/
structure Ctl where
  sm : Efuse.EfuseState
  bank : Bank
  dvSel : DvSel
  deriving DecidableEq

structure Inner where
  fwdlRdy : Bool
  cnvStart : UInt32
  cnvEnd : UInt32
  switchEfuseBank : UInt32
  switchBack : UInt32
  phyMapInit : UInt32
  logMapInit : UInt32
  logMapValid : Bool
  phyMapValid : Bool
  malloc : Bool
  hwValue : UInt32
  compareVersion : UInt32
  adjustMask : UInt32
  dump : UInt32
  parser : UInt32
  proc : UInt32

namespace Ctl

/-- `cnv_efuse_state`; `res` is the answer of the BT and power registers. -/
def cnvEfuseState (a : Ctl) (dest : Efuse.EfuseState) (res : UInt32) : UInt32 × Ctl :=
  if a.sm = dest then (macProcErr, a)
  else if dest ≠ .idle ∧ a.sm ≠ .idle then (macProcErr, a)
  else (res, { a with sm := dest })

def switchDv (a : Ctl) (sel : DvSel) : Ctl := { a with dvSel := sel }

variable (i : Inner)

def release (a : Ctl) (ret : UInt32) : UInt32 × Ctl :=
  match a.cnvEfuseState .idle i.cnvEnd with
  | (stat, a) => (if stat ≠ 0 then stat else ret, a)

/-- `efuse_proc_ck`, `cnv_efuse_state` and `switch_efuse_bank`, as all operations
begin. -/
def take (a : Ctl) (dest : Efuse.EfuseState) (bank : Bank) (body : Ctl → UInt32 × Ctl) :
    UInt32 × Ctl :=
  if a.sm ≠ .idle then (macProcBusy, a)
  else
    match a.cnvEfuseState dest i.cnvStart with
    | (ret, a) =>
      if ret ≠ 0 then (ret, a)
      else if i.switchEfuseBank ≠ 0 then a.release i i.switchEfuseBank
      else body { a with bank := bank }

def finish (a : Ctl) (ret : UInt32) : UInt32 × Ctl :=
  if ret ≠ 0 then a.release i ret else a.release i 0

def finishBt (a : Ctl) (ret : UInt32) : UInt32 × Ctl :=
  if ret ≠ 0 then a.release i ret
  else if i.switchBack ≠ 0 then a.release i i.switchBack
  else { a with bank := .wifi }.release i 0

def macDumpEfuseMapWl (a : Ctl) (cfg : ReadCfg) : UInt32 × Ctl :=
  if cfg = .fw ∧ i.fwdlRdy = false then (macNoFw, a)
  else a.take i .phy .wifi fun a =>
    if i.phyMapInit ≠ 0 then (i.phyMapInit, a)
    else a.finish i i.dump

def macDumpEfuseMapBt (a : Ctl) (cfg : ReadCfg) : UInt32 × Ctl :=
  if cfg = .fw ∧ i.fwdlRdy = false then (macNoFw, a)
  else a.take i .phy .bt fun a =>
    if i.phyMapInit ≠ 0 then (i.phyMapInit, a)
    else a.finishBt i i.dump

/-- The end of `mac_write_efuse` and `mac_read_efuse`. -/
def finishOn (a : Ctl) (bank : Bank) (ret : UInt32) : UInt32 × Ctl :=
  match bank with
  | .wifi => a.finish i ret
  | .bt => a.finishBt i ret

variable (c : Chip)

def efuseSizeOf (bank : Bank) : UInt32 :=
  match bank with
  | .wifi => if c.otpTest then otpPhySize else c.wlEfuseSize
  | .bt => c.btEfuseSize

def macWriteEfuse (a : Ctl) (addr : UInt32) (bank : Bank) : UInt32 × Ctl :=
  if efuseSizeOf c bank ≤ addr then (macEfuseSize, a)
  else a.take i .phy bank fun a => a.finishOn i bank i.proc

def macReadEfuse (a : Ctl) (addr size : UInt32) (bank : Bank) : UInt32 × Ctl :=
  if efuseSizeOf c bank ≤ addr ∨ efuseSizeOf c bank < addr + size then (macEfuseSize, a)
  else a.take i .phy bank fun a => a.finishOn i bank i.proc

/-- `rf` says whether `hidden_cfg` is `MAC_AX_EFUSE_HIDDEN_RF`, the only valid one. -/
def macReadHiddenEfuse (a : Ctl) (addr size : UInt32) (rf : Bool) : UInt32 × Ctl :=
  let logSecSize := c.efuseSize + c.secDataEfuseSize
  if rf = false then (macNoItem, a)
  else if addr < logSecSize ∨ logSecSize + c.hiddenEfuseRfSize < addr + size then
    (macEfuseSize, a)
  else a.take i .phy .wifi fun a =>
    if i.phyMapInit ≠ 0 then (i.phyMapInit, a)
    else a.finish i i.proc

/-- `proc_dump_efuse`, the buffer and the parser, if the logical map is not valid. -/
def dumpLog : UInt32 :=
  if i.logMapValid then 0
  else if i.dump ≠ 0 then i.dump
  else if i.phyMapValid = false then 0
  else if i.malloc = false then macBufAlloc
  else i.parser

def macDumpLogEfuse (a : Ctl) (cfg : ReadCfg) : UInt32 × Ctl :=
  if cfg = .fw ∧ i.fwdlRdy = false then (macNoFw, a)
  else a.take i .logMap .wifi fun a =>
    if i.logMapInit ≠ 0 then (i.logMapInit, a)
    else if i.phyMapInit ≠ 0 then (i.phyMapInit, a)
    else a.finish i (dumpLog i)

def macDumpLogEfuseBt (a : Ctl) (cfg : ReadCfg) : UInt32 × Ctl :=
  if cfg = .fw ∧ i.fwdlRdy = false then (macNoFw, a)
  else a.take i .logMap .bt fun a =>
    if i.logMapInit ≠ 0 then (i.logMapInit, a)
    else if i.phyMapInit ≠ 0 then (i.phyMapInit, a)
    else a.finishBt i (dumpLog i)

/-- `log_map_size` of the WLAN bank, as `switch_efuse_bank` sets it. -/
def logMapSize (a : Ctl) : UInt32 :=
  match a.dvSel with
  | .ddv => c.logEfuseSize
  | .dav => c.davLogEfuseSize

/-- The buffer and `read_log_efuse_map`. -/
def readLog : UInt32 := if i.malloc = false then macBufAlloc else i.proc

def macReadLogEfuse (a : Ctl) (addr size : UInt32) : UInt32 × Ctl :=
  a.take i .logMap .wifi fun a =>
    -- the state has been taken
    if logMapSize c a ≤ addr ∨ logMapSize c a < addr + size then (macEfuseSize, a)
    else if i.phyMapInit ≠ 0 then (i.phyMapInit, a)
    else if i.logMapInit ≠ 0 then (i.logMapInit, a)
    else a.finish i (readLog i)

def macReadLogEfuseBt (a : Ctl) (addr size : UInt32) : UInt32 × Ctl :=
  if c.btLogEfuseSize ≤ addr ∨ c.btLogEfuseSize < addr + size then (macEfuseSize, a)
  else a.take i .logMap .bt fun a =>
    if i.phyMapInit ≠ 0 then (i.phyMapInit, a)
    else if i.logMapInit ≠ 0 then (i.logMapInit, a)
    else a.finishBt i (readLog i)

def macWriteLogEfuse (a : Ctl) (addr : UInt32) : UInt32 × Ctl :=
  a.take i .logMap .wifi fun a =>
    if logMapSize c a ≤ addr then (macEfuseSize, a)
    else if i.phyMapInit ≠ 0 then (i.phyMapInit, a)
    else if i.logMapInit ≠ 0 then (i.logMapInit, a)
    else a.finish i i.proc

def macWriteLogEfuseBt (a : Ctl) (addr : UInt32) : UInt32 × Ctl :=
  if c.logEfuseSize ≤ addr then (macEfuseSize, a)
  else a.take i .logMap .bt fun a =>
    if i.phyMapInit ≠ 0 then (i.phyMapInit, a)
    else if i.logMapInit ≠ 0 then (i.logMapInit, a)
    else a.finishBt i i.proc

end Ctl

/-- The sizes and pointers of `struct mac_ax_pg_efuse_info`. -/
structure PgInfo where
  efuseMapSize : UInt32
  efuseMaskSize : UInt32
  nullMap : Bool
  nullMask : Bool

/-- The checks of `info` in both calls that program a map. -/
def PgInfo.check (info : PgInfo) (mapSize : UInt32) : UInt32 :=
  if info.efuseMapSize ≠ mapSize then macEfuseSize
  else if 0 < info.efuseMapSize &&& 0x0F then macEfuseSize
  else if info.efuseMaskSize ≠ info.efuseMapSize >>> 4 then macEfuseSize
  else if info.nullMap then macNptr
  else if info.nullMask then macNptr
  else 0

namespace Ctl

variable (i : Inner) (c : Chip)

def pgMapSize (a : Ctl) (isLimit : Bool) : UInt32 :=
  match a.dvSel with
  | .dav => c.davLogEfuseSize
  | .ddv => if isLimit then c.limitEfuseSize else c.logEfuseSize

def macPgEfuseByMap (a : Ctl) (info : PgInfo) (part isLimit : Bool) : UInt32 × Ctl :=
  if info.check (pgMapSize c a isLimit) ≠ 0 then (info.check (pgMapSize c a isLimit), a)
  else if i.hwValue ≠ 0 then (i.hwValue, a)
  else if i.compareVersion ≠ 0 then (i.compareVersion, a)
  else a.take i .phy .wifi fun a =>
    if i.phyMapInit ≠ 0 then (i.phyMapInit, a)
    else if i.logMapInit ≠ 0 then (i.logMapInit, a)
    else if part = true ∧ i.adjustMask ≠ 0 then a.release i i.adjustMask
    else a.finish i i.proc

def macPgEfuseByMapBt (a : Ctl) (info : PgInfo) : UInt32 × Ctl :=
  if info.check c.btLogEfuseSize ≠ 0 then (info.check c.btLogEfuseSize, a)
  else a.take i .phy .bt fun a =>
    if i.phyMapInit ≠ 0 then (i.phyMapInit, a)
    else if i.logMapInit ≠ 0 then (i.logMapInit, a)
    else a.finishBt i i.proc

def macPgSecDataByMap (a : Ctl) (info : PgInfo) : UInt32 × Ctl :=
  if info.efuseMapSize ≠ c.secDataEfuseSize then (macEfuseSize, a)
  else if info.nullMap then (macNptr, a)
  else a.take i .phy .wifi fun a => a.finish i i.proc

/-- A call for both dies, as the `_plus` operations make it: `adie` has the
answers to its second half. -/
def onBothDies (a : Ctl) (ddie adie : Ctl → UInt32 × Ctl) : UInt32 × Ctl :=
  if c.is8852a then ddie a
  else
    match ddie a with
    | (ret, a) =>
      if ret ≠ 0 then (ret, a)
      else if c.davExist then
        match adie (a.switchDv .dav) with
        | (ret, a) => (ret, a.switchDv .ddv)
      else (0, a)

def onAdie (a : Ctl) (adie : Ctl → UInt32 × Ctl) : UInt32 × Ctl :=
  if c.davExist then
    match adie (a.switchDv .dav) with
    | (ret, a) => (ret, a.switchDv .ddv)
  else (0, a)

variable (j : Inner)

def macDumpEfuseMapWlPlus (a : Ctl) (cfg : ReadCfg) : UInt32 × Ctl :=
  a.onBothDies c (fun a => a.macDumpEfuseMapWl i cfg) (fun a => a.macDumpEfuseMapWl j cfg)

def macWriteEfusePlus (a : Ctl) (addr : UInt32) (bank : Bank) : UInt32 × Ctl :=
  match bank with
  | .wifi =>
    if c.is8852a ∨ addr < c.wlEfuseSize then a.macWriteEfuse i c addr .wifi
    else a.onAdie c fun a => a.macWriteEfuse i c (addr - c.wlEfuseSize) .wifi
  | .bt => a.macWriteEfuse i c addr .bt

/-- The three ranges that `mac_read_efuse_plus` and `mac_read_log_efuse_plus`
tell apart. -/
def readBothDies (a : Ctl) (efuseSize addr size : UInt32)
    (ddie adie : Ctl → UInt32 → UInt32 → UInt32 × Ctl) : UInt32 × Ctl :=
  if c.is8852a then ddie a addr size
  else if addr < efuseSize ∧ addr + size ≤ efuseSize then ddie a addr size
  else if efuseSize ≤ addr then a.onAdie c fun a => adie a (addr - efuseSize) size
  else a.onBothDies c (fun a => ddie a addr (efuseSize - addr))
    fun a => adie a 0 (addr + size - efuseSize)

def macReadEfusePlus (a : Ctl) (addr size : UInt32) (bank : Bank) : UInt32 × Ctl :=
  match bank with
  | .wifi =>
    a.readBothDies c c.wlEfuseSize addr size (fun a addr size => a.macReadEfuse i c addr size .wifi)
      fun a addr size => a.macReadEfuse j c addr size .wifi
  | .bt => a.macReadEfuse i c addr size .bt

def macDumpLogEfusePlus (a : Ctl) (cfg : ReadCfg) : UInt32 × Ctl :=
  a.onBothDies c (fun a => a.macDumpLogEfuse i cfg) (fun a => a.macDumpLogEfuse j cfg)

def macReadLogEfusePlus (a : Ctl) (addr size : UInt32) : UInt32 × Ctl :=
  a.readBothDies c c.logEfuseSize addr size (fun a addr size => a.macReadLogEfuse i c addr size)
    fun a addr size => a.macReadLogEfuse j c addr size

def macWriteLogEfusePlus (a : Ctl) (addr : UInt32) : UInt32 × Ctl :=
  if c.is8852a ∨ addr < c.logEfuseSize then a.macWriteLogEfuse i c addr
  else a.onAdie c fun a => a.macWriteLogEfuse i c (addr - c.logEfuseSize)

/-- The a-die half of `info`. -/
def infoDav : PgInfo where
  efuseMapSize := c.davLogEfuseSize
  efuseMaskSize := c.davLogEfuseSize >>> 4
  nullMap := false
  nullMask := false

def infoDdv (info : PgInfo) : PgInfo where
  efuseMapSize := info.efuseMapSize - c.davLogEfuseSize
  efuseMaskSize := info.efuseMaskSize - c.davLogEfuseSize >>> 4
  nullMap := false
  nullMask := false

/-- `i.malloc` stands for the four buffers of the halves. -/
def macPgEfuseByMapPlus (a : Ctl) (info : PgInfo) (part isLimit : Bool) : UInt32 × Ctl :=
  if i.hwValue ≠ 0 then (i.hwValue, a)
  else if c.is8852a then a.macPgEfuseByMap i c info part isLimit
  else if i.malloc = false then (macBufAlloc, a)
  else
    match a.macPgEfuseByMap i c (infoDdv c info) part isLimit with
    | (ret, a) =>
      if ret ≠ 0 then (ret, a)
      else if c.davExist then
        match (a.switchDv .dav).macPgEfuseByMap j c (infoDav c) part false with
        | (ret, a) =>
          -- back to the d-die on success only
          if ret ≠ 0 then (ret, a) else (0, a.switchDv .ddv)
      else (0, a)

end Ctl

inductive Op
  | dumpEfuseMapWl (cfg : ReadCfg)
  | dumpEfuseMapWlPlus (cfg : ReadCfg)
  | dumpEfuseMapBt (cfg : ReadCfg)
  | writeEfuse (addr : UInt32) (bank : Bank)
  | writeEfusePlus (addr : UInt32) (bank : Bank)
  | readEfuse (addr size : UInt32) (bank : Bank)
  | readEfusePlus (addr size : UInt32) (bank : Bank)
  | readHiddenEfuse (addr size : UInt32) (rf : Bool)
  | dumpLogEfuse (cfg : ReadCfg)
  | dumpLogEfusePlus (cfg : ReadCfg)
  | dumpLogEfuseBt (cfg : ReadCfg)
  | readLogEfuse (addr size : UInt32)
  | readLogEfusePlus (addr size : UInt32)
  | readLogEfuseBt (addr size : UInt32)
  | writeLogEfuse (addr : UInt32)
  | writeLogEfusePlus (addr : UInt32)
  | writeLogEfuseBt (addr : UInt32)
  | pgEfuseByMap (info : PgInfo) (part isLimit : Bool)
  | pgEfuseByMapPlus (info : PgInfo) (part isLimit : Bool)
  | pgEfuseByMapBt (info : PgInfo)
  | pgSecDataByMap (info : PgInfo)

/-- An operation with the answers to its inner steps; `j` is for the a-die half
of those that have one. -/
def Ctl.call (c : Chip) (a : Ctl) (i j : Inner) : Op → UInt32 × Ctl
  | .dumpEfuseMapWl cfg => a.macDumpEfuseMapWl i cfg
  | .dumpEfuseMapWlPlus cfg => a.macDumpEfuseMapWlPlus i c j cfg
  | .dumpEfuseMapBt cfg => a.macDumpEfuseMapBt i cfg
  | .writeEfuse addr bank => a.macWriteEfuse i c addr bank
  | .writeEfusePlus addr bank => a.macWriteEfusePlus i c addr bank
  | .readEfuse addr size bank => a.macReadEfuse i c addr size bank
  | .readEfusePlus addr size bank => a.macReadEfusePlus i c j addr size bank
  | .readHiddenEfuse addr size rf => a.macReadHiddenEfuse i c addr size rf
  | .dumpLogEfuse cfg => a.macDumpLogEfuse i cfg
  | .dumpLogEfusePlus cfg => a.macDumpLogEfusePlus i c j cfg
  | .dumpLogEfuseBt cfg => a.macDumpLogEfuseBt i cfg
  | .readLogEfuse addr size => a.macReadLogEfuse i c addr size
  | .readLogEfusePlus addr size => a.macReadLogEfusePlus i c j addr size
  | .readLogEfuseBt addr size => a.macReadLogEfuseBt i c addr size
  | .writeLogEfuse addr => a.macWriteLogEfuse i c addr
  | .writeLogEfusePlus addr => a.macWriteLogEfusePlus i c addr
  | .writeLogEfuseBt addr => a.macWriteLogEfuseBt i c addr
  | .pgEfuseByMap info part isLimit => a.macPgEfuseByMap i c info part isLimit
  | .pgEfuseByMapPlus info part isLimit => a.macPgEfuseByMapPlus i c j info part isLimit
  | .pgEfuseByMapBt info => a.macPgEfuseByMapBt i c info
  | .pgSecDataByMap info => a.macPgSecDataByMap i c info

namespace Inner

variable (i : Inner) (c : Chip)

/-- The state is taken, and what comes after the bank has been selected is `body`. -/
def Gives (body : Prop) : Prop := i.cnvStart = 0 ∧ (i.switchEfuseBank = 0 → body)

def Done (body : Prop) : Prop :=
  i.cnvStart = 0 ∧ i.switchEfuseBank = 0 ∧ body ∧ i.cnvEnd = 0

def Maps : Prop := i.phyMapInit = 0 ∧ i.logMapInit = 0

def NoFw (cfg : ReadCfg) : Prop := cfg = .fw ∧ i.fwdlRdy = false

def BtBack (ret : UInt32) : Prop := ret = 0 ∧ i.switchBack = 0

def DumpWlOk (cfg : ReadCfg) : Prop := i.NoFw cfg ∨ i.Gives (i.phyMapInit = 0)

def DumpWlDone (cfg : ReadCfg) : Prop := ¬i.NoFw cfg ∧ i.Done (i.phyMapInit = 0 ∧ i.dump = 0)

def OutOf (size addr len : UInt32) : Prop := size ≤ addr ∨ size < addr + len

/-- `mac_write_efuse` and `mac_read_efuse`, where `refused` is their check of the address. -/
def BytesOk (bank : Bank) (refused : Prop) : Prop :=
  refused ∨ i.Gives (bank = .bt → i.BtBack i.proc)

def BytesDone (refused : Prop) : Prop := ¬refused ∧ i.Done (i.proc = 0)

def DumpLogOk (cfg : ReadCfg) : Prop := i.NoFw cfg ∨ i.Gives i.Maps

def DumpLogDone (cfg : ReadCfg) : Prop := ¬i.NoFw cfg ∧ i.Done (i.Maps ∧ Ctl.dumpLog i = 0)

/-- `mac_read_log_efuse` and `mac_write_log_efuse`; they check the address when
the state has been taken. -/
def LogOk (bad : Prop) : Prop := i.Gives (¬bad ∧ i.Maps)

def LogDone (bad : Prop) (ret : UInt32) : Prop := i.Done (¬bad ∧ i.Maps ∧ ret = 0)

def PgRefused (d : DvSel) (info : PgInfo) (isLimit : Bool) : Prop :=
  info.check (Ctl.pgMapSize c ⟨.idle, .wifi, d⟩ isLimit) ≠ 0 ∨ i.hwValue ≠ 0 ∨
    i.compareVersion ≠ 0

def PgOk (d : DvSel) (info : PgInfo) (isLimit : Bool) : Prop :=
  i.PgRefused c d info isLimit ∨ i.Gives i.Maps

def PgDone (d : DvSel) (info : PgInfo) (part isLimit : Bool) : Prop :=
  ¬i.PgRefused c d info isLimit ∧
    i.Done (i.Maps ∧ (part = true → i.adjustMask = 0) ∧ i.proc = 0)

def Then (done adie : Prop) : Prop := done → c.davExist = true → adie

end Inner

/-- The two halves of `readBothDies`, of a range of the addresses of both dies. -/
def SplitOk (c : Chip) (efuseSize addr size : UInt32) (ok done : UInt32 → UInt32 → Prop)
    (adie : UInt32 → UInt32 → Prop) : Prop :=
  if c.is8852a = true ∨ (addr < efuseSize ∧ addr + size ≤ efuseSize) then ok addr size
  else if efuseSize ≤ addr then (c.davExist = true → adie (addr - efuseSize) size)
  else ok addr (efuseSize - addr) ∧
    Inner.Then c (done addr (efuseSize - addr)) (adie 0 (addr + size - efuseSize))

/-- The operation gives the state, the bank and the die back: it is refused
before it takes the state, or the state is taken and no step fails whose failure
is handed out as it is.  Those are the check of a logical address, the
allocation of a map, everything on the BT bank, and the a-die half of
programming a map. -/
def Op.Safe (c : Chip) (i j : Inner) : Op → Prop
  | .dumpEfuseMapWl cfg => i.DumpWlOk cfg
  | .dumpEfuseMapWlPlus cfg =>
    i.DumpWlOk cfg ∧ (c.is8852a = false → Inner.Then c (i.DumpWlDone cfg) (j.DumpWlOk cfg))
  | .dumpEfuseMapBt cfg => i.NoFw cfg ∨ i.Gives (i.phyMapInit = 0 ∧ i.BtBack i.dump)
  | .writeEfuse addr bank => i.BytesOk bank (Ctl.efuseSizeOf c bank ≤ addr)
  | .writeEfusePlus addr bank =>
    if bank = .bt ∨ c.is8852a = true ∨ addr < c.wlEfuseSize then
      i.BytesOk bank (Ctl.efuseSizeOf c bank ≤ addr)
    else c.davExist = true → i.BytesOk .wifi (Ctl.efuseSizeOf c .wifi ≤ addr - c.wlEfuseSize)
  | .readEfuse addr size bank => i.BytesOk bank (Inner.OutOf (Ctl.efuseSizeOf c bank) addr size)
  | .readEfusePlus addr size bank =>
    match bank with
    | .bt => i.BytesOk .bt (Inner.OutOf (Ctl.efuseSizeOf c .bt) addr size)
    | .wifi =>
      SplitOk c c.wlEfuseSize addr size
        (fun addr size => i.BytesOk .wifi (Inner.OutOf (Ctl.efuseSizeOf c .wifi) addr size))
        (fun addr size => i.BytesDone (Inner.OutOf (Ctl.efuseSizeOf c .wifi) addr size))
        fun addr size => j.BytesOk .wifi (Inner.OutOf (Ctl.efuseSizeOf c .wifi) addr size)
  | .readHiddenEfuse addr size rf =>
    (rf = false ∨ addr < c.efuseSize + c.secDataEfuseSize ∨
      c.efuseSize + c.secDataEfuseSize + c.hiddenEfuseRfSize < addr + size) ∨
      i.Gives (i.phyMapInit = 0)
  | .dumpLogEfuse cfg => i.DumpLogOk cfg
  | .dumpLogEfusePlus cfg =>
    i.DumpLogOk cfg ∧ (c.is8852a = false → Inner.Then c (i.DumpLogDone cfg) (j.DumpLogOk cfg))
  | .dumpLogEfuseBt cfg => i.NoFw cfg ∨ i.Gives (i.Maps ∧ i.BtBack (Ctl.dumpLog i))
  | .readLogEfuse addr size => i.LogOk (Inner.OutOf c.logEfuseSize addr size)
  | .readLogEfusePlus addr size =>
    SplitOk c c.logEfuseSize addr size (fun addr size => i.LogOk (Inner.OutOf c.logEfuseSize addr size))
      (fun addr size => i.LogDone (Inner.OutOf c.logEfuseSize addr size) (Ctl.readLog i))
      fun addr size => j.LogOk (Inner.OutOf c.davLogEfuseSize addr size)
  | .readLogEfuseBt addr size =>
    Inner.OutOf c.btLogEfuseSize addr size ∨ i.Gives (i.Maps ∧ i.BtBack (Ctl.readLog i))
  | .writeLogEfuse addr => i.LogOk (c.logEfuseSize ≤ addr)
  | .writeLogEfusePlus addr =>
    if c.is8852a = true ∨ addr < c.logEfuseSize then i.LogOk (c.logEfuseSize ≤ addr)
    else c.davExist = true → i.LogOk (c.davLogEfuseSize ≤ addr - c.logEfuseSize)
  | .writeLogEfuseBt addr => c.logEfuseSize ≤ addr ∨ i.Gives (i.Maps ∧ i.BtBack i.proc)
  | .pgEfuseByMap info _ isLimit => i.PgOk c .ddv info isLimit
  | .pgEfuseByMapPlus info part isLimit =>
    i.hwValue ≠ 0 ∨
      if c.is8852a then i.PgOk c .ddv info isLimit
      else i.malloc = false ∨ i.PgOk c .ddv (Ctl.infoDdv c info) isLimit ∧
        Inner.Then c (i.PgDone c .ddv (Ctl.infoDdv c info) part isLimit)
          (j.PgDone c .dav (Ctl.infoDav c) part false)
  | .pgEfuseByMapBt info =>
    info.check c.btLogEfuseSize ≠ 0 ∨ i.Gives (i.Maps ∧ i.BtBack i.proc)
  | .pgSecDataByMap info =>
    (info.efuseMapSize ≠ c.secDataEfuseSize ∨ info.nullMap = true) ∨ i.Gives True

def idleOn (d : DvSel) : Ctl := ⟨.idle, .wifi, d⟩

/-- What a call comes to: it gives everything back just if `ok`, and returns
success just if `done`. -/
structure Spec (d : DvSel) (r : UInt32 × Ctl) (ok done : Prop) : Prop where
  released : r.2 = idleOn d ↔ ok
  success : r.1 = 0 ↔ done
  sound : done → ok
  dvSel : r.2.dvSel = d

variable {d : DvSel} {r : UInt32 × Ctl} {ok done p : Prop} {i j : Inner} {c : Chip}
  {m : Efuse.EfuseState} {b : Bank}

lemma Spec.congr (h : Spec d r ok done) {ok' done' : Prop} (hok : ok ↔ ok')
    (hdone : done ↔ done') : Spec d r ok' done' :=
  ⟨h.released.trans hok, h.success.trans hdone, fun hd => hok.1 (h.sound (hdone.2 hd)), h.dvSel⟩

lemma Spec.refuse [Decidable p] (h : Spec d r ok done) {u : UInt32} (hret : p → u ≠ 0) :
    Spec d (if p then (u, idleOn d) else r) (p ∨ ok) (¬p ∧ done) := by
  by_cases hp : p
  · rw [if_pos hp]
    exact ⟨iff_of_true rfl (.inl hp), iff_of_false (hret hp) fun hd => hd.1 hp,
      fun _ => .inl hp, rfl⟩
  · rw [if_neg hp]
    exact ⟨h.released.trans (or_iff_right hp).symm, h.success.trans (and_iff_right hp).symm,
      fun hd => .inr (h.sound hd.2), h.dvSel⟩

lemma Spec.leave [Decidable p] {a : Ctl} (ha : a.sm ≠ .idle) (hd : a.dvSel = d)
    (h : Spec d r ok done) {u : UInt32} (hret : p → u ≠ 0) :
    Spec d (if p then (u, a) else r) (¬p ∧ ok) (¬p ∧ done) := by
  by_cases hp : p
  · rw [if_pos hp]
    refine ⟨iff_of_false (fun heq => ?_) fun hok => hok.1 hp,
      iff_of_false (hret hp) fun hd => hd.1 hp, fun hd => absurd hp hd.1, hd⟩
    exact ha (congrArg Ctl.sm heq)
  · rw [if_neg hp]
    exact ⟨h.released.trans (and_iff_right hp).symm, h.success.trans (and_iff_right hp).symm,
      fun hd => ⟨hp, h.sound hd.2⟩, h.dvSel⟩

lemma Spec.attempt (h : Spec d r ok done) (hdest : m ≠ .idle) (u : UInt32) :
    Spec d (if u ≠ 0 then (u, (⟨m, b, d⟩ : Ctl)) else r) (u = 0 ∧ ok) (u = 0 ∧ done) :=
  (Spec.leave (a := ⟨m, b, d⟩) hdest rfl h id).congr (by rw [not_not]) (by rw [not_not])

section

variable (hdest : m ≠ .idle)
include hdest

variable (u : UInt32)

lemma release_eq :
    Ctl.release i ⟨m, b, d⟩ u =
      (if i.cnvEnd ≠ 0 then i.cnvEnd else u, ⟨.idle, b, d⟩) := by
  rw [Ctl.release, Ctl.cnvEfuseState, if_neg hdest, if_neg fun h => h.1 rfl]

lemma spec_release :
    Spec d (Ctl.release i ⟨m, .wifi, d⟩ u) True (u = 0 ∧ i.cnvEnd = 0) := by
  rw [release_eq hdest]
  refine ⟨iff_of_true rfl trivial, ?_, fun _ => trivial, rfl⟩
  by_cases hend : i.cnvEnd = 0
  · simp [hend]
  · simp [hend]

lemma spec_release_bt {u : UInt32} (hret : u ≠ 0) :
    Spec d (Ctl.release i ⟨m, .bt, d⟩ u) False False := by
  rw [release_eq hdest]
  refine ⟨iff_of_false (fun heq => ?_) id, iff_of_false ?_ id, False.elim, rfl⟩
  · cases congrArg Ctl.bank heq
  · dsimp only
    split <;> assumption

lemma spec_finish :
    Spec d (Ctl.finish i ⟨m, .wifi, d⟩ u) True (u = 0 ∧ i.cnvEnd = 0) := by
  rw [Ctl.finish]
  by_cases hret : u = 0
  · rw [if_neg (not_not.2 hret), hret]
    exact spec_release hdest 0
  · rw [if_pos hret]
    exact spec_release hdest u

lemma spec_finishBt :
    Spec d (Ctl.finishBt i ⟨m, .bt, d⟩ u) (i.BtBack u) (i.BtBack u ∧ i.cnvEnd = 0) := by
  rw [Ctl.finishBt]
  by_cases hret : u = 0
  · rw [if_neg (not_not.2 hret)]
    by_cases hback : i.switchBack = 0
    · rw [if_neg (not_not.2 hback)]
      exact (spec_release hdest 0).congr (by simp [Inner.BtBack, hret, hback])
        (by simp [Inner.BtBack, hret, hback])
    · rw [if_pos hback]
      exact (spec_release_bt hdest hback).congr (by simp [Inner.BtBack, hback])
        (by simp [Inner.BtBack, hback])
  · rw [if_pos hret]
    exact (spec_release_bt hdest hret).congr (by simp [Inner.BtBack, hret])
      (by simp [Inner.BtBack, hret])

lemma spec_take {f : Ctl → UInt32 × Ctl}
    (h : Spec d (f ⟨m, b, d⟩) ok done) :
    Spec d (Ctl.take i (idleOn d) m b f) (i.Gives ok)
      (i.cnvStart = 0 ∧ i.switchEfuseBank = 0 ∧ done) := by
  have hcnv : (idleOn d).cnvEfuseState m i.cnvStart = (i.cnvStart, ⟨m, .wifi, d⟩) := by
    have hidle : (idleOn d).sm = .idle := rfl
    rw [Ctl.cnvEfuseState, hidle, if_neg (Ne.symm hdest), if_neg fun h => h.2 rfl]
    rfl
  have hbusy : ¬(idleOn d).sm ≠ .idle := fun h => h rfl
  rw [Ctl.take, if_neg hbusy, hcnv]
  dsimp only
  have hswitch : Spec d
      (if i.switchEfuseBank ≠ 0 then Ctl.release i ⟨m, .wifi, d⟩ i.switchEfuseBank
        else f ⟨m, b, d⟩)
      (i.switchEfuseBank = 0 → ok) (i.switchEfuseBank = 0 ∧ done) := by
    by_cases hs : i.switchEfuseBank = 0
    · rw [if_neg (not_not.2 hs)]
      exact h.congr (by simp [hs]) (by simp [hs])
    · rw [if_pos hs]
      exact (spec_release hdest _).congr (by simp [hs]) (by simp [hs])
  exact hswitch.attempt hdest i.cnvStart

end

variable (cfg : ReadCfg) (addr size : UInt32) (info : PgInfo) (part isLimit : Bool)

/-- The dumps are refused where the firmware is to read and has not been loaded. -/
lemma spec_dump (hdest : m ≠ .idle) {f : Ctl → UInt32 × Ctl}
    (h : Spec d (f ⟨m, b, d⟩) ok done) :
    Spec d (if cfg = .fw ∧ i.fwdlRdy = false then (macNoFw, idleOn d)
      else Ctl.take i (idleOn d) m b f) (i.NoFw cfg ∨ i.Gives ok)
      (¬ i.NoFw cfg ∧ i.cnvStart = 0 ∧ i.switchEfuseBank = 0 ∧ done) :=
  (spec_take hdest h).refuse fun _ => by decide

lemma spec_maps (hdest : m ≠ .idle) (h : Spec d r ok done) :
    Spec d (if i.phyMapInit ≠ 0 then (i.phyMapInit, (⟨m, b, d⟩ : Ctl))
      else if i.logMapInit ≠ 0 then (i.logMapInit, ⟨m, b, d⟩) else r)
      (i.Maps ∧ ok) (i.Maps ∧ done) := by
  exact ((h.attempt hdest i.logMapInit).attempt hdest i.phyMapInit).congr
    (by rw [Inner.Maps, and_assoc]) (by rw [Inner.Maps, and_assoc])

lemma spec_macDumpEfuseMapWl :
    Spec d ((idleOn d).macDumpEfuseMapWl i cfg) (i.DumpWlOk cfg) (i.DumpWlDone cfg) := by
  have hfinish := spec_finish (d := d) (i := i) (m := .phy) (by decide) i.dump
  have hall := spec_dump (i := i) (m := .phy) (b := .wifi) cfg (by decide)
    (f := fun a => if i.phyMapInit ≠ 0 then (i.phyMapInit, a) else a.finish i i.dump)
    (hfinish.attempt (by decide) i.phyMapInit)
  refine hall.congr ?_ ?_
  · rw [and_true]
    rfl
  · rw [Inner.DumpWlDone, Inner.Done, and_assoc]

lemma released_macDumpEfuseMapBt :
    ((idleOn d).macDumpEfuseMapBt i cfg).2 = idleOn d ↔
      i.NoFw cfg ∨ i.Gives (i.phyMapInit = 0 ∧ i.BtBack i.dump) := by
  have hfinish := spec_finishBt (d := d) (i := i) (m := .phy) (by decide) i.dump
  exact (spec_dump (i := i) (m := .phy) (b := .bt) cfg (by decide)
    (f := fun a => if i.phyMapInit ≠ 0 then (i.phyMapInit, a) else a.finishBt i i.dump)
    (hfinish.attempt (by decide) i.phyMapInit)).released

lemma spec_bytes {q : Prop} [Decidable q] :
    Spec d (if q then (macEfuseSize, idleOn d)
      else (idleOn d).take i .phy b fun a => a.finishOn i b i.proc)
      (i.BytesOk b q)
      (¬q ∧ i.Done (b = .bt → i.switchBack = 0) ∧ i.proc = 0) := by
  have hbody : Spec d (Ctl.finishOn i ⟨.phy, b, d⟩ b i.proc)
      (b = .bt → i.BtBack i.proc)
      (i.proc = 0 ∧ i.cnvEnd = 0 ∧ (b = .bt → i.switchBack = 0)) := by
    cases b with
    | wifi => exact (spec_finish (by decide) i.proc).congr (by simp) (by simp)
    | bt =>
      refine (spec_finishBt (by decide) i.proc).congr (by simp) ?_
      simp [Inner.BtBack, and_assoc, and_comm]
  have hall := Spec.refuse (p := q) (u := macEfuseSize)
    (spec_take (i := i) (m := .phy) (b := b) (by decide)
      (f := fun a => a.finishOn i b i.proc) hbody)
    fun _ => by decide
  refine hall.congr Iff.rfl ?_
  rw [Inner.Done]
  tauto

lemma released_macReadHiddenEfuse (rf : Bool) :
    ((idleOn d).macReadHiddenEfuse i c addr size rf).2 = idleOn d ↔
      (rf = false ∨ addr < c.efuseSize + c.secDataEfuseSize ∨
        c.efuseSize + c.secDataEfuseSize + c.hiddenEfuseRfSize < addr + size) ∨
        i.Gives (i.phyMapInit = 0) := by
  have hfinish := spec_finish (d := d) (i := i) (m := .phy) (by decide) i.proc
  have hrange := Spec.refuse (u := macEfuseSize)
    (p := addr < c.efuseSize + c.secDataEfuseSize ∨
      c.efuseSize + c.secDataEfuseSize + c.hiddenEfuseRfSize < addr + size)
    (spec_take (i := i) (m := .phy) (b := .wifi) (by decide)
      (f := fun a => if i.phyMapInit ≠ 0 then (i.phyMapInit, a) else a.finish i i.proc)
      (hfinish.attempt (by decide) i.phyMapInit))
    fun _ => by decide
  have hall := Spec.refuse (p := rf = false) (u := macNoItem) hrange fun _ => by decide
  refine hall.released.trans ?_
  simp only [and_true, or_assoc]

lemma spec_macDumpLogEfuse :
    Spec d ((idleOn d).macDumpLogEfuse i cfg) (i.DumpLogOk cfg) (i.DumpLogDone cfg) := by
  have hfinish := spec_finish (d := d) (i := i) (m := .logMap) (by decide) (Ctl.dumpLog i)
  have hall := spec_dump (i := i) (m := .logMap) (b := .wifi) cfg (by decide)
    (f := fun a => if i.logMapInit ≠ 0 then (i.logMapInit, a)
      else if i.phyMapInit ≠ 0 then (i.phyMapInit, a) else a.finish i (Ctl.dumpLog i))
    ((hfinish.attempt (by decide) i.phyMapInit).attempt (by decide) i.logMapInit)
  refine hall.congr ?_ ?_
  · rw [Inner.DumpLogOk, Inner.Gives, Inner.Gives, Inner.Maps]
    tauto
  · rw [Inner.DumpLogDone, Inner.Done, Inner.Maps]
    tauto

lemma released_macDumpLogEfuseBt :
    ((idleOn d).macDumpLogEfuseBt i cfg).2 = idleOn d ↔
      i.NoFw cfg ∨ i.Gives (i.Maps ∧ i.BtBack (Ctl.dumpLog i)) := by
  have hfinish := spec_finishBt (d := d) (i := i) (m := .logMap) (by decide) (Ctl.dumpLog i)
  refine (spec_dump (i := i) (m := .logMap) (b := .bt) cfg (by decide)
    (f := fun a => if i.logMapInit ≠ 0 then (i.logMapInit, a)
      else if i.phyMapInit ≠ 0 then (i.phyMapInit, a) else a.finishBt i (Ctl.dumpLog i))
    ((hfinish.attempt (by decide) i.phyMapInit).attempt (by decide) i.logMapInit)).released.trans ?_
  rw [Inner.Gives, Inner.Gives, Inner.Maps]
  tauto

lemma spec_log {bad : Prop} [Decidable bad] (u : UInt32) :
    Spec d (if bad then (macEfuseSize, (⟨.logMap, .wifi, d⟩ : Ctl))
      else if i.phyMapInit ≠ 0 then (i.phyMapInit, ⟨.logMap, .wifi, d⟩)
      else if i.logMapInit ≠ 0 then (i.logMapInit, ⟨.logMap, .wifi, d⟩)
      else Ctl.finish i ⟨.logMap, .wifi, d⟩ u)
      (¬bad ∧ i.Maps) (¬bad ∧ i.Maps ∧ u = 0 ∧ i.cnvEnd = 0) := by
  have hmaps := spec_maps (i := i) (b := .wifi) (m := .logMap) (by decide)
    (spec_finish (d := d) (i := i) (m := .logMap) (by decide) u)
  have hall := Spec.leave (p := bad) (a := ⟨.logMap, .wifi, d⟩) nofun rfl hmaps
    (u := macEfuseSize) fun _ => by decide
  exact hall.congr (by rw [and_true]) Iff.rfl

lemma spec_macReadLogEfuse :
    Spec d ((idleOn d).macReadLogEfuse i c addr size)
      (i.LogOk (Inner.OutOf (Ctl.logMapSize c (idleOn d)) addr size))
      (i.LogDone (Inner.OutOf (Ctl.logMapSize c (idleOn d)) addr size) (Ctl.readLog i)) := by
  have hall := spec_take (i := i) (m := .logMap) (b := .wifi) (by decide)
    (f := fun a =>
      if Ctl.logMapSize c a ≤ addr ∨ Ctl.logMapSize c a < addr + size then (macEfuseSize, a)
      else if i.phyMapInit ≠ 0 then (i.phyMapInit, a)
      else if i.logMapInit ≠ 0 then (i.logMapInit, a)
      else a.finish i (Ctl.readLog i)) (spec_log (d := d) (Ctl.readLog i))
  refine hall.congr Iff.rfl ?_
  rw [Inner.LogDone, Inner.Done, and_assoc, and_assoc]
  rfl

lemma spec_macWriteLogEfuse (addr : UInt32) :
    Spec d ((idleOn d).macWriteLogEfuse i c addr)
      (i.LogOk (Ctl.logMapSize c (idleOn d) ≤ addr))
      (i.LogDone (Ctl.logMapSize c (idleOn d) ≤ addr) i.proc) := by
  have hall := spec_take (i := i) (m := .logMap) (b := .wifi) (by decide)
    (f := fun a =>
      if Ctl.logMapSize c a ≤ addr then (macEfuseSize, a)
      else if i.phyMapInit ≠ 0 then (i.phyMapInit, a)
      else if i.logMapInit ≠ 0 then (i.logMapInit, a)
      else a.finish i i.proc) (spec_log (d := d) i.proc)
  refine hall.congr Iff.rfl ?_
  rw [Inner.LogDone, Inner.Done, and_assoc, and_assoc]
  rfl

lemma released_onBt (hdest : m ≠ .idle) {q : Prop} [Decidable q]
    {code : UInt32} (hcode : q → code ≠ 0) (u : UInt32) :
    (if q then (code, idleOn d)
      else (idleOn d).take i m .bt fun a =>
        if i.phyMapInit ≠ 0 then (i.phyMapInit, a)
        else if i.logMapInit ≠ 0 then (i.logMapInit, a)
        else a.finishBt i u).2 = idleOn d ↔
      q ∨ i.Gives (i.Maps ∧ i.BtBack u) := by
  have hmaps := spec_maps (i := i) (b := .bt) hdest
    (spec_finishBt (d := d) (i := i) (m := m) hdest u)
  have hall := Spec.refuse (p := q) (u := code)
    (spec_take (i := i) (m := m) (b := .bt) hdest
      (f := fun a => if i.phyMapInit ≠ 0 then (i.phyMapInit, a)
        else if i.logMapInit ≠ 0 then (i.logMapInit, a) else a.finishBt i u) hmaps) hcode
  exact hall.released

lemma spec_macPgEfuseByMap :
    Spec d ((idleOn d).macPgEfuseByMap i c info part isLimit) (i.PgOk c d info isLimit)
      (i.PgDone c d info part isLimit) := by
  have hfinish : Spec d (if part = true ∧ i.adjustMask ≠ 0 then
        Ctl.release i ⟨.phy, .wifi, d⟩ i.adjustMask
      else Ctl.finish i ⟨.phy, .wifi, d⟩ i.proc) True
      ((part = true → i.adjustMask = 0) ∧ i.proc = 0 ∧ i.cnvEnd = 0) := by
    by_cases hadjust : part = true ∧ i.adjustMask ≠ 0
    · rw [if_pos hadjust]
      exact (spec_release (by decide) i.adjustMask).congr Iff.rfl (by simp [hadjust])
    · rw [if_neg hadjust]
      rw [not_and_not_right] at hadjust
      exact (spec_finish (by decide) i.proc).congr Iff.rfl (and_iff_right hadjust).symm
  have hbody := spec_maps (i := i) (b := .wifi) (m := .phy) (by decide) hfinish
  have htake := spec_take (i := i) (m := .phy) (b := .wifi) (by decide)
    (f := fun a =>
      if i.phyMapInit ≠ 0 then (i.phyMapInit, a)
      else if i.logMapInit ≠ 0 then (i.logMapInit, a)
      else if part = true ∧ i.adjustMask ≠ 0 then a.release i i.adjustMask
      else a.finish i i.proc) hbody
  have hversion := htake.refuse (p := i.compareVersion ≠ 0) (u := i.compareVersion) id
  have hvalue := hversion.refuse (p := i.hwValue ≠ 0) (u := i.hwValue) id
  have hall := hvalue.refuse (p := info.check (Ctl.pgMapSize c (idleOn d) isLimit) ≠ 0)
    (u := info.check (Ctl.pgMapSize c (idleOn d) isLimit)) id
  refine hall.congr ?_ ?_
  · rw [Inner.PgOk, Inner.PgRefused, and_true, or_assoc, or_assoc]
    rfl
  · rw [Inner.PgDone, Inner.PgRefused, Inner.Done]
    change _ ↔ ¬(info.check (Ctl.pgMapSize c (idleOn d) isLimit) ≠ 0 ∨ _) ∧ _
    tauto

lemma released_macPgSecDataByMap :
    ((idleOn d).macPgSecDataByMap i c info).2 = idleOn d ↔
      (info.efuseMapSize ≠ c.secDataEfuseSize ∨ info.nullMap = true) ∨ i.Gives True := by
  have htake := spec_take (d := d) (i := i) (m := .phy) (b := .wifi) (by decide)
    (f := fun a => a.finish i i.proc) (spec_finish (by decide) i.proc)
  have hnull := htake.refuse (p := info.nullMap = true) (u := macNptr) fun _ => by decide
  have hall := hnull.refuse (p := info.efuseMapSize ≠ c.secDataEfuseSize) (u := macEfuseSize)
    fun _ => by decide
  refine hall.released.trans ?_
  rw [or_assoc]

lemma switchDv_idleOn (d e : DvSel) : (idleOn d).switchDv e = idleOn e := rfl

lemma switchDv_eq_iff {a : Ctl} (h : a.dvSel = .dav) :
    a.switchDv .ddv = idleOn .ddv ↔ a = idleOn .dav := by
  obtain ⟨sm, b, dv⟩ := a
  cases h
  constructor
  · intro heq
    cases congrArg Ctl.sm heq
    cases congrArg Ctl.bank heq
    rfl
  · rintro heq
    rw [heq]
    rfl

lemma released_onAdie {adie : Ctl → UInt32 × Ctl}
    (h : Spec .dav (adie (idleOn .dav)) ok done) :
    ((idleOn .ddv).onAdie c adie).2 = idleOn .ddv ↔ (c.davExist = true → ok) := by
  rw [Ctl.onAdie, switchDv_idleOn]
  by_cases hdav : c.davExist = true
  · rw [if_pos hdav]
    exact (switchDv_eq_iff h.dvSel).trans (h.released.trans (by simp [hdav]))
  · rw [if_neg hdav]
    exact iff_of_true rfl fun h => absurd h hdav

lemma released_onBothDies {ddie adie : Ctl → UInt32 × Ctl} {ok' done' : Prop}
    (h : Spec .ddv (ddie (idleOn .ddv)) ok done) (k : Spec .dav (adie (idleOn .dav)) ok' done') :
    ((idleOn .ddv).onBothDies c ddie adie).2 = idleOn .ddv ↔
      ok ∧ (c.is8852a = false → Inner.Then c done ok') := by
  rw [Ctl.onBothDies]
  cases hchip : c.is8852a with
  | true => exact h.released.trans (by simp)
  | false =>
  rw [if_neg Bool.false_ne_true]
  dsimp only
  by_cases hret : (ddie (idleOn .ddv)).1 = 0
  · have hdone := h.success.1 hret
    have hidle := h.released.2 (h.sound hdone)
    rw [if_neg (not_not.2 hret), hidle, switchDv_idleOn]
    have hadie := released_onAdie (c := c) k
    rw [Ctl.onAdie, switchDv_idleOn] at hadie
    refine hadie.trans ?_
    simp [Inner.Then, hdone, h.sound hdone]
  · have hdone := mt h.success.2 hret
    rw [if_pos hret]
    refine h.released.trans ?_
    simp [Inner.Then, hdone]

lemma released_readBothDies {efuseSize addr size : UInt32}
    {ddie adie : Ctl → UInt32 → UInt32 → UInt32 × Ctl} {okd doned oka donea : UInt32 → UInt32 → Prop}
    (h : ∀ addr size, Spec .ddv (ddie (idleOn .ddv) addr size) (okd addr size) (doned addr size))
    (k : ∀ addr size, Spec .dav (adie (idleOn .dav) addr size) (oka addr size) (donea addr size)) :
    ((idleOn .ddv).readBothDies c efuseSize addr size ddie adie).2 = idleOn .ddv ↔
      SplitOk c efuseSize addr size okd doned oka := by
  rw [Ctl.readBothDies, SplitOk]
  by_cases hchip : c.is8852a = true
  · rw [if_pos hchip, if_pos (.inl hchip)]
    exact (h addr size).released
  rw [if_neg hchip]
  by_cases hlow : addr < efuseSize ∧ addr + size ≤ efuseSize
  · rw [if_pos hlow, if_pos (.inr hlow)]
    exact (h addr size).released
  rw [if_neg hlow, if_neg (not_or.2 ⟨hchip, hlow⟩)]
  by_cases hhigh : efuseSize ≤ addr
  · rw [if_pos hhigh, if_pos hhigh]
    exact released_onAdie (k _ _)
  · rw [if_neg hhigh, if_neg hhigh]
    refine (released_onBothDies (h _ _) (k _ _)).trans ?_
    rw [Bool.not_eq_true] at hchip
    simp [hchip]

lemma spec_macReadEfuse :
    Spec d ((idleOn d).macReadEfuse i c addr size .wifi)
      (i.BytesOk .wifi (Inner.OutOf (Ctl.efuseSizeOf c .wifi) addr size))
      (i.BytesDone (Inner.OutOf (Ctl.efuseSizeOf c .wifi) addr size)) := by
  have hall := spec_bytes (d := d) (i := i) (b := .wifi)
    (q := Ctl.efuseSizeOf c .wifi ≤ addr ∨ Ctl.efuseSizeOf c .wifi < addr + size)
  refine hall.congr Iff.rfl ?_
  rw [Inner.BytesDone, Inner.Done, Inner.Done, Inner.OutOf]
  simp
  tauto

lemma released_macPgEfuseByMapPlus :
    ((idleOn .ddv).macPgEfuseByMapPlus i c j info part isLimit).2 = idleOn .ddv ↔
      i.hwValue ≠ 0 ∨
        if c.is8852a then i.PgOk c .ddv info isLimit
        else i.malloc = false ∨ i.PgOk c .ddv (Ctl.infoDdv c info) isLimit ∧
          Inner.Then c (i.PgDone c .ddv (Ctl.infoDdv c info) part isLimit)
            (j.PgDone c .dav (Ctl.infoDav c) part false) := by
  have hddie := spec_macPgEfuseByMap (d := .ddv) (i := i) (c := c) (Ctl.infoDdv c info) part isLimit
  have hadie := spec_macPgEfuseByMap (d := .dav) (i := j) (c := c) (Ctl.infoDav c) part false
  rw [Ctl.macPgEfuseByMapPlus]
  by_cases hvalue : i.hwValue = 0
  · rw [if_neg (not_not.2 hvalue), or_iff_right (not_not.2 hvalue)]
    cases hchip : c.is8852a with
    | true => exact (spec_macPgEfuseByMap info part isLimit).released
    | false =>
    cases hmalloc : i.malloc with
    | false => exact iff_of_true rfl (.inl rfl)
    | true =>
    simp only [Bool.false_eq_true, if_false, reduceCtorEq, false_or]
    by_cases hret : ((idleOn .ddv).macPgEfuseByMap i c (Ctl.infoDdv c info) part isLimit).1 = 0
    · have hdone := hddie.success.1 hret
      have hidle := hddie.released.2 (hddie.sound hdone)
      rw [if_neg (not_not.2 hret), hidle, switchDv_idleOn, Inner.Then,
        and_iff_right (hddie.sound hdone)]
      by_cases hdav : c.davExist = true
      · rw [if_pos hdav]
        by_cases hadieRet : ((idleOn .dav).macPgEfuseByMap j c (Ctl.infoDav c) part false).1 = 0
        · have hadone := hadie.success.1 hadieRet
          rw [if_neg (not_not.2 hadieRet), hadie.released.2 (hadie.sound hadone)]
          exact iff_of_true rfl fun _ _ => hadone
        · rw [if_pos hadieRet]
          refine iff_of_false (fun heq => ?_) fun hall => hadieRet (hadie.success.2 (hall hdone hdav))
          have hdv := hadie.dvSel
          rw [heq] at hdv
          cases hdv
      · rw [if_neg hdav]
        exact iff_of_true rfl fun _ h => absurd h hdav
    · rw [if_pos hret]
      refine hddie.released.trans ?_
      simp [Inner.Then, mt hddie.success.2 hret]
  · rw [if_pos hvalue]
    exact iff_of_true rfl (.inl hvalue)

/-- Entered idle, on the WLAN bank and the d-die, an operation returns so just if
none of its steps fails whose failure is handed out as it is. -/
theorem efuse_released (c : Chip) (i j : Inner) (op : Op) :
    ((idleOn .ddv).call c i j op).2 = idleOn .ddv ↔ op.Safe c i j := by
  cases op with
  | dumpEfuseMapWl cfg => exact (spec_macDumpEfuseMapWl cfg).released
  | dumpEfuseMapWlPlus cfg =>
    exact released_onBothDies (spec_macDumpEfuseMapWl cfg) (spec_macDumpEfuseMapWl cfg)
  | dumpEfuseMapBt cfg => exact released_macDumpEfuseMapBt cfg
  | writeEfuse addr bank => exact spec_bytes.released
  | writeEfusePlus addr bank =>
    rw [Ctl.call, Op.Safe]
    cases bank with
    | bt =>
      rw [if_pos (.inl rfl)]
      exact spec_bytes.released
    | wifi =>
      simp only [reduceCtorEq, false_or]
      rw [Ctl.macWriteEfusePlus]
      split
      · exact spec_bytes.released
      · exact released_onAdie spec_bytes
  | readEfuse addr size bank => exact spec_bytes.released
  | readEfusePlus addr size bank =>
    cases bank with
    | bt => exact spec_bytes.released
    | wifi =>
      rw [Ctl.call, Ctl.macReadEfusePlus, Op.Safe]
      apply released_readBothDies
      · exact fun addr size => spec_macReadEfuse addr size
      · exact fun addr size => spec_macReadEfuse addr size
  | readHiddenEfuse addr size rf => exact released_macReadHiddenEfuse addr size rf
  | dumpLogEfuse cfg => exact (spec_macDumpLogEfuse cfg).released
  | dumpLogEfusePlus cfg =>
    exact released_onBothDies (spec_macDumpLogEfuse cfg) (spec_macDumpLogEfuse cfg)
  | dumpLogEfuseBt cfg => exact released_macDumpLogEfuseBt cfg
  | readLogEfuse addr size => exact (spec_macReadLogEfuse addr size).released
  | readLogEfusePlus addr size =>
    exact released_readBothDies (fun addr size => spec_macReadLogEfuse (i := i) addr size)
      fun addr size => spec_macReadLogEfuse (i := j) addr size
  | readLogEfuseBt addr size => exact released_onBt (by decide) (fun _ => by decide) (Ctl.readLog i)
  | writeLogEfuse addr => exact (spec_macWriteLogEfuse addr).released
  | writeLogEfusePlus addr =>
    rw [Ctl.call, Ctl.macWriteLogEfusePlus, Op.Safe]
    split
    · exact (spec_macWriteLogEfuse addr).released
    · exact released_onAdie (spec_macWriteLogEfuse _)
  | writeLogEfuseBt addr => exact released_onBt (by decide) (fun _ => by decide) i.proc
  | pgEfuseByMap info part isLimit => exact (spec_macPgEfuseByMap info part isLimit).released
  | pgEfuseByMapPlus info part isLimit => exact released_macPgEfuseByMapPlus info part isLimit
  | pgEfuseByMapBt info => exact released_onBt (by decide) id i.proc
  | pgSecDataByMap info => exact released_macPgSecDataByMap info

def Ctl.calls (c : Chip) (a : Ctl) (e : Op × Inner × Inner) : Ctl :=
  (a.call c e.2.1 e.2.2 e.1).2

def chip8851b : Chip where
  is8852a := false
  davExist := false
  wlEfuseSize := 1536
  efuseSize := 1216
  logEfuseSize := 2048
  limitEfuseSize := 1280
  davLogEfuseSize := 0
  btEfuseSize := 512
  btLogEfuseSize := 1024
  secDataEfuseSize := 192
  hiddenEfuseRfSize := 96
  otpTest := false

def noFailure : Inner where
  fwdlRdy := true
  cnvStart := 0
  cnvEnd := 0
  switchEfuseBank := 0
  switchBack := 0
  phyMapInit := 0
  logMapInit := 0
  logMapValid := true
  phyMapValid := true
  malloc := true
  hwValue := 0
  compareVersion := 0
  adjustMask := 0
  dump := 0
  parser := 0
  proc := 0

/-- A logical read behind the end of the map keeps the state, and the next
operation, with nothing wrong about it, is turned away. -/
theorem read_log_efuse_keeps_state :
    (idleOn .ddv).call chip8851b noFailure noFailure (.readLogEfuse 2048 1) =
        (macEfuseSize, ⟨.logMap, .wifi, .ddv⟩) ∧
      ((⟨.logMap, .wifi, .ddv⟩ : Ctl).call chip8851b noFailure noFailure
        (.readEfuse 0 1 .wifi)).1 = macProcBusy := by
  decide

end EfuseState

end Rtl8831.Mac
