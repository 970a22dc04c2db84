import Rtl8831.Lib.Index

/-!
# The efuse maps of the MAC

Programming and parsing of the WLAN and BT fuses (`mac_ax/efuse.c`).  A fuse is
a list of entries, each a header with a block number and four inverted
word-enable bits, followed by the words enabled.  `eeprom_parser` replays the
entries over a blank logical map; `proc_pg_efuse_by_map` and
`proc_write_log_efuse` append new ones.
-/

namespace Rtl8831.Mac

namespace Efuse

/-- The sizes of `struct mac_ax_hw_info`, and what the code relies on of them:
block numbers fit the header, words are whole, and only the BT map has the
BT map's size.  The limit is that of the interface in use. -/
structure HwInfo where
  efuseSize : ℕ
  logEfuseSize : ℕ
  limitEfuseSize : ℕ
  btEfuseSize : ℕ
  btLogEfuseSize : ℕ
  secCtrlEfuseSize : ℕ
  efuseVersionSize : ℕ
  efuseSize_pos : 0 < efuseSize
  btEfuseSize_pos : 0 < btEfuseSize
  log_le : logEfuseSize ≤ 2048
  log_even : logEfuseSize % 2 = 0
  limit_le : limitEfuseSize ≤ logEfuseSize
  btLog_le : btLogEfuseSize ≤ 1024
  btLog_even : btLogEfuseSize % 2 = 0
  log_ne_btLog : logEfuseSize ≠ btLogEfuseSize
  limit_ne_btLog : limitEfuseSize ≠ btLogEfuseSize

def mac8851b : HwInfo where
  efuseSize := 1216
  logEfuseSize := 2048
  limitEfuseSize := 1280
  btEfuseSize := 512
  btLogEfuseSize := 1024
  secCtrlEfuseSize := 4
  efuseVersionSize := 7
  efuseSize_pos := by decide
  btEfuseSize_pos := by decide
  log_le := by decide
  log_even := by decide
  limit_le := by decide
  btLog_le := by decide
  btLog_even := by decide
  log_ne_btLog := by decide
  limit_ne_btLog := by decide

inductive Bank
  | wifi
  | bt
  deriving DecidableEq

-- `switch_efuse_bank_8851b` points `bank_efuse_info` at these.
def HwInfo.phyMapSize (hw : HwInfo) : Bank → ℕ
  | .wifi => hw.efuseSize
  | .bt => hw.btEfuseSize

def HwInfo.logMapSize (hw : HwInfo) : Bank → ℕ
  | .wifi => hw.logEfuseSize
  | .bt => hw.btLogEfuseSize

def HwInfo.isBt (hw : HwInfo) (bank : Bank) : Bool :=
  hw.logMapSize bank = hw.btLogEfuseSize

/-- `enum mac_ax_efuse_parser_cfg`: contents, or which bytes are programmed. -/
inductive ParserCfg
  | map
  | mask
  deriving DecidableEq

def ParserCfg.value (cfg : ParserCfg) (b : UInt8) : UInt8 :=
  match cfg with
  | .map => b
  | .mask => 0x00

section Parser

variable (isBt : Bool) (efuseSize logEfuseSize : ℕ) (cfg : ParserCfg) (phyMap : ℕ → UInt8)

/-- Turn `i` of the loop over the four words of an entry. -/
def parseWord (blkIdx wordEn : UInt8) (i : ℕ) (efuseIdx : ℕ) (logMap : ℕ → UInt8) :
    Option (ℕ × (ℕ → UInt8)) :=
  if (~~~(wordEn >>> UInt8.ofNat i)) &&& 1 = 1 then
    let eepromIdx := (blkIdx.toNat <<< 3) + (i <<< 1)
    if logEfuseSize < eepromIdx + 1 then none
    else if efuseSize - 1 < efuseIdx + 1 then none
    else if efuseSize < efuseIdx + 2 then none
    else some (efuseIdx + 2,
      Function.update
        (Function.update logMap eepromIdx (cfg.value (phyMap efuseIdx)))
        (eepromIdx + 1) (cfg.value (phyMap (efuseIdx + 1))))
  else some (efuseIdx, logMap)

/-- The words of an entry whose header ends before `efuseIdx`. -/
def parseWords (blkIdx wordEn : UInt8) (efuseIdx : ℕ) (logMap : ℕ → UInt8) :
    Option (ℕ × (ℕ → UInt8)) :=
  if efuseSize - 1 ≤ efuseIdx then none
  else
    (parseWord efuseSize logEfuseSize cfg phyMap blkIdx wordEn 0 efuseIdx logMap).bind fun p =>
    (parseWord efuseSize logEfuseSize cfg phyMap blkIdx wordEn 1 p.1 p.2).bind fun p =>
    (parseWord efuseSize logEfuseSize cfg phyMap blkIdx wordEn 2 p.1 p.2).bind fun p =>
    parseWord efuseSize logEfuseSize cfg phyMap blkIdx wordEn 3 p.1 p.2

/-- The loop of `eeprom_parser`: the map and the end, or `MACEFUSEPARSE`.  Each
turn moves on by a byte at least, so the size of the fuse bounds the turns. -/
def parserLoop : ℕ → ℕ → (ℕ → UInt8) → Option (ℕ × (ℕ → UInt8))
  | 0, _, _ => none
  | fuel + 1, efuseIdx, logMap =>
    -- secure zone
    if efuseSize ≤ efuseIdx then some (efuseIdx, logMap)
    else
      let hdr := phyMap efuseIdx
      if hdr = 0xFF then some (efuseIdx, logMap)
      else if isBt = true ∧ hdr &&& 0x0F ≠ 0x0F then
        (parseWords efuseSize logEfuseSize cfg phyMap ((hdr &&& 0xF0) >>> 4) (hdr &&& 0x0F)
          (efuseIdx + 1) logMap).bind fun p => parserLoop fuel p.1 p.2
      else
        let hdr2 := phyMap (efuseIdx + 1)
        -- the index is past the first header byte already
        if hdr2 = 0xFF then some (efuseIdx + 1, logMap)
        else
          let blkIdx :=
            if isBt then (((hdr2 &&& 0xF0) >>> 4) <<< 3) + (((hdr &&& 0xF0) >>> 4) >>> 1)
            else ((hdr2 &&& 0xF0) >>> 4) ||| ((hdr &&& 0x0F) <<< 4)
          (parseWords efuseSize logEfuseSize cfg phyMap blkIdx (hdr2 &&& 0x0F)
            (efuseIdx + 2) logMap).bind fun p => parserLoop fuel p.1 p.2

end Parser

def HwInfo.secCtrlSize (hw : HwInfo) (bank : Bank) : ℕ :=
  if hw.isBt bank then 0 else hw.secCtrlEfuseSize

/-- `eeprom_parser`: on success the value of `efuse_end` and the map. -/
def eepromParser (hw : HwInfo) (bank : Bank) (cfg : ParserCfg) (phyMap : ℕ → UInt8) :
    Option (ℕ × (ℕ → UInt8)) :=
  parserLoop (hw.isBt bank) (hw.phyMapSize bank) (hw.logMapSize bank) cfg phyMap
    (hw.phyMapSize bank + 1) (hw.secCtrlSize bank) fun _ => 0xFF

/-- Return codes of `efuse.c`. -/
inductive Ret
  | success
  | efuseSize
  | nptr
  | verErr
  | procBusy
  | procErr
  | sysSteErr
  | bufAlloc
  | efuseRead
  | efuseParse
  | efuseWrite
  deriving DecidableEq

/-- What a byte of a fuse holds when it is programmed again; a blank one holds
the byte written. -/
structure Cells where
  burn : UInt8 → UInt8 → UInt8

/-- A bank: its fuse (`none` is a byte never programmed) and the driver's
copies.  `cut` counts the `write_hw_efuse` calls up to the one that fails, if
one does, and says whether its byte still gets to the fuse. -/
structure BankState where
  fuse : ℕ → Option UInt8
  phyMap : ℕ → UInt8
  phyMapValid : Bool
  logMap : ℕ → UInt8
  logMapValid : Bool
  efuseEnd : ℕ
  cut : Option (ℕ × Bool)

/-- A byte never programmed reads `0xFF`. -/
def readCell (c : Option UInt8) : UInt8 := c.getD 0xFF

namespace BankState

/-- The physical map as `read_hw_efuse` gives it. -/
def phy (s : BankState) (i : ℕ) : UInt8 := readCell (s.fuse i)

def store (cells : Cells) (s : BankState) (offset : ℕ) (value : UInt8) : BankState :=
  { s with
    fuse := Function.update s.fuse offset
      (some (match s.fuse offset with
        | none => value
        | some old => cells.burn old value)) }

def writeHwEfuse (cells : Cells) (s : BankState) (offset : ℕ) (value : UInt8) :
    Bool × BankState :=
  let s := { s with phyMapValid := false, logMapValid := false }
  match s.cut with
  | none => (true, s.store cells offset value)
  | some (n + 1, stored) =>
    (true, { s.store cells offset value with cut := some (n, stored) })
  | some (0, stored) =>
    (false, { (if stored then s.store cells offset value else s) with cut := none })

/-- A chain of `write_hw_efuse` calls at consecutive offsets; the first that
fails ends it. -/
def writeBytes (cells : Cells) (s : BankState) (offset : ℕ) : List UInt8 → Bool × BankState
  | [] => (true, s)
  | b :: bs =>
    match s.writeHwEfuse cells offset b with
    | (true, s) => s.writeBytes cells (offset + 1) bs
    | (false, s) => (false, s)

end BankState

inductive Buf
  | phyMap
  | logMap
  | map
  | localMap
  | maskMap
  | updatedMask
  deriving DecidableEq

/-- How the hardware and the allocator answer during a call.  `heap` is what
stands behind the copy of the logical map. -/
structure Answers where
  cnvStart : Bool
  cnvEnd : Bool
  alloc : Buf → Bool
  readHwEfuse : Bool
  heap : ℕ → UInt8
  cut : Option (ℕ × Bool)

section Bank

variable (hw : HwInfo) (cells : Cells) (bank : Bank) (ans : Answers) (s : BankState)

/-- The first half of `read_log_efuse_map`: a valid copy of the physical map. -/
def readPhyMap : Ret × BankState :=
  if s.phyMapValid then (.success, s)
  else if ans.alloc .localMap = false then (.bufAlloc, s)
  else if ans.readHwEfuse = false then (.efuseRead, s)
  else (.success,
    { s with
      phyMap := fun i => if i < hw.phyMapSize bank then s.phy i else s.phyMap i
      phyMapValid := true })

/-- `read_log_efuse_map`; the map handed back is the cached one in both cases. -/
def readLogEfuseMap : Ret × BankState :=
  if s.logMapValid then (.success, s)
  else
    match readPhyMap hw bank ans s with
    | (.success, s) =>
      match eepromParser hw bank .map s.phyMap with
      | none => (.efuseParse, s)
      | some (efuseEnd, map) =>
        (.success, { s with logMap := map, logMapValid := true, efuseEnd := efuseEnd })
    | (ret, s) => (ret, s)

/-- `BT_1B_ENTRY_SIZE`: the part of the BT map with one-byte headers. -/
def bt1bEntrySize : ℕ := 0x80

/-- The header of `proc_write_log_efuse` for the word of one byte. -/
def logEfuseHdr (isBt : Bool) (offset : ℕ) : List UInt8 :=
  let wordIdx := UInt8.ofNat ((offset &&& 7) >>> 1)
  if isBt then
    if offset < bt1bEntrySize then
      let blk := UInt8.ofNat (offset >>> 3)
      [(blk <<< 4) + ((1 <<< wordIdx) ^^^ 0x0F)]
    else
      let blk := UInt8.ofNat (offset >>> 3 >>> 3)
      let blkIdx := UInt8.ofNat (((offset >>> 3) &&& 7) <<< 1)
      [(blkIdx <<< 4) + 0x0F, (blk <<< 4) + ((1 <<< wordIdx) ^^^ 0x0F)]
  else
    let blk := UInt8.ofNat (offset >>> 3)
    [((blk &&& 0xF0) >>> 4) ||| 0x30, ((blk &&& 0x0F) <<< 4) + ((1 <<< wordIdx) ^^^ 0x0F)]

def procWriteLogEfuse (offset : ℕ) (value : UInt8) : Ret × BankState :=
  if ans.alloc .map = false then (.bufAlloc, s)
  else
    match (if s.logMapValid then (Ret.success, s) else readLogEfuseMap hw bank ans s) with
    | (.success, s) =>
      -- the local copy is as long as the logical map
      let map := fun i => if i < hw.logMapSize bank then s.logMap i else ans.heap i
      if map offset ≠ value then
        let word :=
          if offset &&& 1 = 0 then [value, map (offset + 1)] else [map (offset - 1), value]
        if hw.phyMapSize bank ≤ 4 + s.efuseEnd then (.efuseSize, s)
        else
          -- `efuse_end` is left as it is
          match s.writeBytes cells s.efuseEnd (logEfuseHdr (hw.isBt bank) offset ++ word) with
          | (true, s) => (.success, s)
          | (false, s) => (.efuseWrite, s)
      else (.success, s)
    | (ret, s) => (ret, s)

/-- `struct mac_ax_pg_efuse_info`; a null buffer has no contents. -/
structure PgEfuseInfo where
  efuseMap : ℕ → UInt8
  efuseMapSize : ℕ
  efuseMask : ℕ → UInt8
  efuseMaskSize : ℕ
  nullMap : Bool
  nullMask : Bool

/-- The mask bit of word `j` (a byte offset) within a line of 16 bytes. -/
def clrBit (j : ℕ) : UInt8 :=
  match j with
  | 0 => 0x10
  | 2 => 0x20
  | 4 => 0x40
  | 6 => 0x80
  | 8 => 0x01
  | 10 => 0x02
  | 12 => 0x04
  | 14 => 0x08
  | _ => 0x00

/-- The inner loop shared by `update_eeprom_mask` and `adjust_mask`: the bits of
the words that meet `p` are cleared in the mask byte of line `i`. -/
def clearBits (p : ℕ → Bool) (i : ℕ) (m : UInt8) : UInt8 :=
  [0, 2, 4, 6, 8, 10, 12, 14].foldl
    (fun m j => if p (16 * i + j) then m &&& ~~~(clrBit j) else m) m

/-- The loop of `update_eeprom_mask` over the map: words that hold the value
already, and are programmed, need not be written. -/
def updatedMask (info : PgEfuseInfo) (map maskMap : ℕ → UInt8) (k : ℕ) : UInt8 :=
  if 16 * k < info.efuseMapSize then
    clearBits
      (fun o => info.efuseMap o = map o ∧ info.efuseMap (o + 1) = map (o + 1) ∧ maskMap o = 0x00)
      k (info.efuseMask k)
  else info.efuseMask k

/-- `update_eeprom_mask` with `pg_sim` clear, and the mask it fills in. -/
def updateEepromMask (info : PgEfuseInfo) : Ret × BankState × (ℕ → UInt8) :=
  if ans.alloc .map = false then (.bufAlloc, s, fun _ => 0)
  else
    match readLogEfuseMap hw bank ans s with
    | (.success, s) =>
      if ans.alloc .maskMap = false then (.bufAlloc, s, fun _ => 0)
      else
        match eepromParser hw bank .mask s.phyMap with
        | none => (.efuseParse, s, fun _ => 0)
        | some (efuseEnd, maskMap) =>
          (.success, { s with efuseEnd := efuseEnd }, updatedMask info s.logMap maskMap)
    | (ret, s) => (ret, s, fun _ => 0)

/-- Whether bit `i` of a word-enable nibble is set, as both loops test it. -/
def wordBit (preWordEn : UInt8) (i : ℕ) : Bool :=
  (preWordEn >>> UInt8.ofNat i) &&& 1 > 0

/-- `pre_word_en` of the block at `i` as `program_efuse` has it. -/
def preWordEn (mask : ℕ → UInt8) (i : ℕ) : UInt8 :=
  if (i >>> 3) &&& 1 > 0 then mask (i >>> 4) &&& 0x0F else mask (i >>> 4) >>> 4

/-- The loop of `check_efuse_enough` for `n` blocks from `i` on. -/
def pgNum (mask : ℕ → UInt8) : ℕ → ℕ → ℕ
  | 0, _ => 0
  | n + 1, i =>
    let preWordEn := if i &&& 0x0F > 0 then mask (i >>> 4) &&& 0x0F else mask (i >>> 4) >>> 4
    (if preWordEn > 0 then
      2 + ((List.range 4).map fun j => if wordBit preWordEn j then 2 else 0).sum else 0) +
      pgNum mask n (i + 8)

def checkEfuseEnough (info : PgEfuseInfo) (mask : ℕ → UInt8) : Ret :=
  if hw.phyMapSize bank < pgNum mask ((info.efuseMapSize + 7) / 8) 0 + s.efuseEnd then .efuseSize
  else .success

/-- The header of `proc_pg_efuse`. -/
def pgEfuseHdr (isBt : Bool) (eepromOffset : ℕ) (wordEn : UInt8) : List UInt8 :=
  if isBt then
    if eepromOffset < bt1bEntrySize then
      let blk := UInt8.ofNat (eepromOffset >>> 3)
      [(blk <<< 4) + wordEn]
    else
      let blk := UInt8.ofNat (eepromOffset >>> 3 >>> 3)
      let blkIdx := UInt8.ofNat (((eepromOffset >>> 3) &&& 7) <<< 1)
      [(blkIdx <<< 4) ||| 0x0F, (blk <<< 4) + wordEn]
  else
    let blk := UInt8.ofNat (eepromOffset >>> 3)
    [((blk &&& 0xF0) >>> 4) ||| 0x30, ((blk &&& 0x0F) <<< 4) + wordEn]

/-- The words of the block at `eepromOffset` that are enabled. -/
def pgEfuseWords (map : ℕ → UInt8) (preWordEn : UInt8) (eepromOffset : ℕ) : List UInt8 :=
  (List.range 4).flatMap fun i =>
    if wordBit preWordEn i then
      [map (eepromOffset + (i <<< 1)), map (eepromOffset + (i <<< 1) + 1)]
    else []

/-- `proc_pg_efuse` with `pg_sim` clear. -/
def procPgEfuse (info : PgEfuseInfo) (wordEn preWordEn : UInt8) (eepromOffset : ℕ) :
    Ret × BankState :=
  let isBt : Bool := info.efuseMapSize = hw.btLogEfuseSize
  let bytes :=
    pgEfuseHdr isBt eepromOffset wordEn ++ pgEfuseWords info.efuseMap preWordEn eepromOffset
  match s.writeBytes cells s.efuseEnd bytes with
  | (true, s') => (.success, { s' with efuseEnd := s.efuseEnd + bytes.length })
  | (false, s') => (.efuseWrite, s')

/-- The loop of `program_efuse` for `n` blocks from `i` on. -/
def programEfuse (info : PgEfuseInfo) (mask : ℕ → UInt8) : ℕ → ℕ → BankState → Ret × BankState
  | 0, _, s => (.success, s)
  | n + 1, i, s =>
    let pre := preWordEn mask i
    if pre > 0 then
      match procPgEfuse hw cells s info (pre ^^^ 0x0F) pre i with
      | (.success, s) => programEfuse info mask n (i + 8) s
      | (ret, s) => (ret, s)
    else programEfuse info mask n (i + 8) s

def procPgEfuseByMap (info : PgEfuseInfo) : Ret × BankState :=
  if ans.alloc .updatedMask = false then (.bufAlloc, s)
  else
    match updateEepromMask hw bank ans s info with
    | (.success, s, mask) =>
      match checkEfuseEnough hw bank s info mask with
      | .success => programEfuse hw cells info mask ((info.efuseMapSize + 7) / 8) 0 s
      | ret => (ret, s)
    | (ret, s, _) => (ret, s)

end Bank

/-- `adjust_mask`: every word but those that are `0xFFFF`. -/
def adjustMask (info : PgEfuseInfo) : PgEfuseInfo :=
  { info with
    efuseMask := fun k =>
      if k < info.efuseMaskSize then
        clearBits (fun o => info.efuseMap o = 0xFF ∧ info.efuseMap (o + 1) = 0xFF) k 0xFF
      else info.efuseMask k }

/-- `compare_version` on the bytes behind map and mask. -/
def compareVersion (info : PgEfuseInfo) (verLen : ℕ) : Ret :=
  if ∀ i < verLen, info.efuseMap (info.efuseMapSize + i) =
      info.efuseMask ((info.efuseMapSize >>> 4) + i) then .success
  else .verErr

/-- The states of `adapter->sm.efuse` in use here. -/
inductive EfuseState
  | idle
  | phy
  | logMap
  deriving DecidableEq

structure Adapter where
  sm : EfuseState
  wifi : BankState
  bt : BankState

namespace Adapter

def bank (a : Adapter) : Bank → BankState
  | .wifi => a.wifi
  | .bt => a.bt

def setBank (a : Adapter) (bank : Bank) (s : BankState) : Adapter :=
  match bank with
  | .wifi => { a with wifi := s }
  | .bt => { a with bt := s }

/-- `cnv_efuse_state`; `ok` is the answer of the BT and power registers. -/
def cnvEfuseState (a : Adapter) (dest : EfuseState) (ok : Bool) : Ret × Adapter :=
  if a.sm = dest then (.procErr, a)
  else if dest ≠ .idle ∧ a.sm ≠ .idle then (.procErr, a)
  else (if ok then .success else .sysSteErr, { a with sm := dest })

/-- What all four calls do around their work on the bank: the state has to be
idle, is left for `dest`, and is idle again afterwards.  `early` is a check that
leaves the state as it is then. -/
def inState (a : Adapter) (bank : Bank) (dest : EfuseState) (ans : Answers) (early : Option Ret)
    (proc : BankState → Ret × BankState) : Ret × Adapter :=
  if a.sm ≠ .idle then (.procBusy, a)
  else
    match a.cnvEfuseState dest ans.cnvStart with
    | (.success, a) =>
      match early with
      | some ret => (ret, a)
      | none =>
        if ans.alloc .phyMap = false then (.bufAlloc, a)
        else if ans.alloc .logMap = false then (.bufAlloc, a)
        else
          let (ret, s) := proc { a.bank bank with cut := ans.cut }
          let (stat, a) := (a.setBank bank s).cnvEfuseState .idle ans.cnvEnd
          (if stat ≠ .success then stat else ret, a)
    | (ret, a) => (ret, a)

variable (hw : HwInfo) (cells : Cells) (a : Adapter) (ans : Answers)

def macWriteLogEfuse (addr : ℕ) (val : UInt8) : Ret × Adapter :=
  a.inState .wifi .logMap ans (if hw.logMapSize .wifi ≤ addr then some .efuseSize else none)
    fun s => procWriteLogEfuse hw cells .wifi ans s addr val

def macWriteLogEfuseBt (addr : ℕ) (val : UInt8) : Ret × Adapter :=
  if hw.logEfuseSize ≤ addr then (.efuseSize, a)
  else a.inState .bt .logMap ans none
    fun s => procWriteLogEfuse hw cells .bt ans s addr val

/-- The checks of `info` in both calls that program a map. -/
def checkInfo (info : PgEfuseInfo) (mapSize : ℕ) : Ret :=
  if info.efuseMapSize ≠ mapSize then .efuseSize
  else if info.efuseMapSize &&& 0x0F > 0 then .efuseSize
  else if info.efuseMaskSize ≠ info.efuseMapSize >>> 4 then .efuseSize
  else if info.nullMap then .nptr
  else if info.nullMask then .nptr
  else .success

def macPgEfuseByMap (info : PgEfuseInfo) (part isLimit : Bool) : Ret × Adapter :=
  match checkInfo info (if isLimit then hw.limitEfuseSize else hw.logEfuseSize) with
  | .success =>
    match compareVersion info hw.efuseVersionSize with
    | .success => a.inState .wifi .phy ans none
        fun s => procPgEfuseByMap hw cells .wifi ans s (if part then adjustMask info else info)
    | ret => (ret, a)
  | ret => (ret, a)

def macPgEfuseByMapBt (info : PgEfuseInfo) : Ret × Adapter :=
  match checkInfo info hw.btLogEfuseSize with
  | .success => a.inState .bt .phy ans none
      fun s => procPgEfuseByMap hw cells .bt ans s info
  | ret => (ret, a)

end Adapter

inductive Call
  | writeLog (ans : Answers) (addr : ℕ) (val : UInt8)
  | writeLogBt (ans : Answers) (addr : ℕ) (val : UInt8)
  | pgByMap (ans : Answers) (info : PgEfuseInfo) (part isLimit : Bool)
  | pgByMapBt (ans : Answers) (info : PgEfuseInfo)

def Adapter.call (hw : HwInfo) (cells : Cells) (a : Adapter) : Call → Ret × Adapter
  | .writeLog ans addr val => a.macWriteLogEfuse hw cells ans addr val
  | .writeLogBt ans addr val => a.macWriteLogEfuseBt hw cells ans addr val
  | .pgByMap ans info part isLimit => a.macPgEfuseByMap hw cells ans info part isLimit
  | .pgByMapBt ans info => a.macPgEfuseByMapBt hw cells ans info

def Adapter.step (hw : HwInfo) (cells : Cells) (a : Adapter) (c : Call) : Adapter :=
  (a.call hw cells c).2

end Efuse

end Rtl8831.Mac
