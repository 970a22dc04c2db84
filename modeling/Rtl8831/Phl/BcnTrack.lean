import Rtl8831.Lib.Index

/-!
# Tracking of beacons

A client keeps two rings of the beacons it has received, a short one of where in
the beacon interval they came and a long one of their timestamps.  From them it
derives where the beacons of the access point are due, and every watchdog turns
the distances into a timeout.  The watchdog's arithmetic is in `u16`; it is
written here over the width of its words, so that it can be compared with exact
arithmetic.
-/

namespace Rtl8831.Phl

open List

namespace BcnTrack

def tu : ℕ := 1024

def maxShortInfoBcnNum : ℕ := 40
def maxLongInfoBcnNum : ℕ := 5
def wdogPeriod : ℕ := 2000

inductive Band
  | on24G
  | on5G
  | on6G
  | other
  deriving DecidableEq

/-- `RTW_DATA_RATE_MAX` and `RTW_DATA_RATE_OFDM54`. -/
def rateMax : ℕ := 0x1FF
def rateOfdm54 : ℕ := 0xB

/-- `struct rtw_bcn_short_i`, without the drifts: those of a station are never
filled in, the watchdog works on a copy. -/
structure ShortInfo where
  min : ℕ
  max : ℕ
  idx : ℕ
  num : ℕ
  mod : ℕ → ℕ
  rssi : ℕ → ℕ

/-- `struct rtw_bcn_long_i`. -/
structure LongInfo where
  num : ℕ
  idx : ℕ
  tsf : ℕ → ℕ
  tbtt : ℕ → ℕ

inductive ConfLvl
  | none
  | low
  | mid
  | high
  deriving DecidableEq

/-- `struct rtw_bcn_offset`; the offset is in microseconds. -/
structure Offset where
  offset : ℕ
  confLvl : ConfLvl

structure BcnInfo where
  pktLen : ℕ
  appTsfT : ℕ
  bcnIntvl : ℕ
  rate : ℕ
  lastNumPerWatchdog : ℕ
  numPerWatchdog : ℕ
  short : ShortInfo
  long : LongInfo
  offset : Offset
  bcnTimeout : ℕ

/-- What `phl_clean_sta_bcn_info` leaves. -/
def clean : BcnInfo where
  pktLen := 0
  appTsfT := 0
  bcnIntvl := 0
  rate := rateMax
  lastNumPerWatchdog := 0
  numPerWatchdog := 0
  short := ⟨0, 0, 0, 0, fun _ => 0, fun _ => 0⟩
  long := ⟨0, 0, fun _ => 0, fun _ => 0⟩
  offset := ⟨0, .none⟩
  bcnTimeout := 0

/-- `_get_fidx`, in `u8`. -/
def getFidx (num curIdx boundary : ℕ) : ℕ :=
  if num = 0 then curIdx
  else if boundary ≤ (curIdx + 1) % 256 then 0 else (curIdx + 1) % 256

/-- `_get_bidx`, in `u8`. -/
def getBidx (num curIdx : ℕ) : ℕ := if curIdx = 0 then (num + 255) % 256 else curIdx - 1

def calcTbtt (tsf appendT bcnIntvl : ℕ) : ℕ := (tsf + 2 ^ 64 - appendT) % 2 ^ 64 % (bcnIntvl * tu)

/-- `_min_tbtt`, in `u32`. -/
def minTbtt (tbtt1 tbtt2 bcnIntvl : ℕ) : ℕ :=
  let diffTh := bcnIntvl * tu * 85 % 2 ^ 32 / 100
  let similar0Th := (bcnIntvl + 2 ^ 32 - 3) * tu % 2 ^ 32
  let diff := if tbtt2 < tbtt1 then tbtt1 - tbtt2 else tbtt2 - tbtt1
  if diffTh < diff then
    if tbtt2 < tbtt1 then tbtt1 else tbtt2
  else if tbtt2 < tbtt1 ∧ similar0Th < tbtt1 then tbtt1
  else if tbtt1 < tbtt2 ∧ similar0Th < tbtt2 then tbtt2
  else if tbtt1 < tbtt2 then tbtt1
  else tbtt2

section Offset

variable (bIntvl : ℕ) (l : LongInfo)

/-- The inner loop of `_phl_sta_up_bcn_offset_info`: the beacons before `cIdx`
that came about a whole number of intervals apart. -/
def pairLoop (cIdx : ℕ) : ℕ → ℕ → ℕ → ℕ
  | 0, _, offset => offset
  | n + 1, bidx, offset =>
    let bidx := getBidx l.num bidx
    if l.idx = bidx then offset
    else
      let diff := (l.tsf cIdx + 2 ^ 64 - l.tsf bidx) % 2 ^ 64 % (bIntvl * tu) / tu
      if ¬(diff < 2 ∨ bIntvl - diff < 2) then pairLoop cIdx n bidx offset
      else
        let offset :=
          if offset = bIntvl * tu then l.tbtt cIdx else minTbtt offset (l.tbtt cIdx) bIntvl
        pairLoop cIdx n bidx (minTbtt offset (l.tbtt bidx) bIntvl)

def offsetLoop : ℕ → ℕ → ℕ → ℕ
  | 0, _, offset => offset
  | n + 1, cIdx, offset =>
    offsetLoop n (getBidx l.num cIdx) (pairLoop bIntvl l cIdx (l.num - 1) cIdx offset)

def singleLoop (o : Offset) : Offset :=
  (range l.num).foldl
    (fun o idx =>
      if o.offset ≠ minTbtt (l.tbtt idx) o.offset bIntvl then ⟨l.tbtt idx, .mid⟩
      else if o.confLvl = .none ∨ o.confLvl = .low then { o with confLvl := .mid }
      else o) o

def upBcnOffsetInfo (o : Offset) : Offset :=
  let o :=
    if l.num = 1 then ⟨l.tbtt l.idx, .low⟩
    else
      let offset := offsetLoop bIntvl l l.num l.idx (bIntvl * tu)
      if offset ≠ bIntvl * tu then
        ⟨if o.offset ≠ minTbtt offset o.offset bIntvl then offset else o.offset, .high⟩
      else singleLoop bIntvl l o
  if o.offset ≠ 0 ∧ o.offset < bIntvl * tu * 5 / 100 then { o with offset := 0 } else o

end Offset

/-- `struct rtw_bcn_pkt_info` of a beacon received on a link: the state of the
role, the interval of the station, and what `phl_get_passing_time_ms` says of
the beacon before. -/
structure Beacon where
  linked : Bool
  bcnIntvl : UInt16
  band : Band
  tsf : UInt64
  rssi : UInt8
  pktLen : UInt16
  rate : ℕ
  passing : UInt32

def errorTsfDetect (i : BcnInfo) (e : Beacon) : Bool :=
  if i.long.num = 0 then false
  else if e.tsf.toNat < i.long.tsf i.long.idx then true
  else
    let dTsf := (e.tsf.toNat - i.long.tsf i.long.idx) / 1000 % 2 ^ 32
    let dSym := e.passing.toNat
    i.bcnIntvl * 2 < (if dSym < dTsf then dTsf - dSym else dSym - dTsf)

def storeBcnLongInfo (i : BcnInfo) (e : Beacon) : LongInfo :=
  let idx := getFidx i.long.num i.long.idx maxLongInfoBcnNum
  { num := if i.long.num < maxLongInfoBcnNum then i.long.num + 1 else i.long.num
    idx := idx
    tsf := Function.update i.long.tsf idx e.tsf.toNat
    tbtt := Function.update i.long.tbtt idx (calcTbtt e.tsf.toNat i.appTsfT i.bcnIntvl) }

def storeBcnShortInfo (i : BcnInfo) (e : Beacon) : ShortInfo :=
  let mod := e.tsf.toNat % (i.bcnIntvl * tu) / tu % 2 ^ 16
  let idx := getFidx i.short.num i.short.idx maxShortInfoBcnNum
  let num := if i.short.num < maxShortInfoBcnNum then i.short.num + 1 else i.short.num
  { min := if 1 < num then (if mod < i.short.min then mod else i.short.min) else mod
    max := if 1 < num then (if i.short.max < mod then mod else i.short.max) else mod
    idx := idx
    num := num
    mod := Function.update i.short.mod idx mod
    rssi := Function.update i.short.rssi idx e.rssi.toNat }

def appTsfTOf : Band → ℕ
  | .on24G => 384
  | .on5G => 52
  | .on6G => 52
  | .other => 384

def staUpRxBcn (i : BcnInfo) (e : Beacon) : BcnInfo :=
  if e.linked = false then i
  else if e.bcnIntvl = 0 then i
  else
    let i := if errorTsfDetect i e then clean else i
    let i := { i with
      pktLen := e.pktLen.toNat
      rate := e.rate
      bcnIntvl := e.bcnIntvl.toNat
      appTsfT := appTsfTOf e.band }
    let i := { i with long := storeBcnLongInfo i e }
    let i := { i with short := storeBcnShortInfo i e }
    let i := { i with offset := upBcnOffsetInfo i.bcnIntvl i.long i.offset }
    { i with numPerWatchdog := (i.numPerWatchdog + 1) % 256 }

/-- The inner loop of `_data_sorting` with `n` comparisons. -/
def bubble : ℕ → List ℕ → List ℕ
  | n + 1, a :: b :: l => if b < a then b :: bubble n (a :: l) else a :: bubble n (b :: l)
  | _, l => l

def dataSorting (l : List ℕ) : List ℕ :=
  (range' 1 (l.length - 1)).foldl (fun l idx => bubble (l.length - idx) l) l

/-- `_calc_bcn_drift`, in `u16`. -/
def calcBcnDrift (mod tbtt bcnIntvl : ℕ) : ℕ :=
  if mod < tbtt then (bcnIntvl + 2 ^ 16 - tbtt + mod) % 2 ^ 16 else mod - tbtt

def tbttOf (i : BcnInfo) : ℕ := i.offset.offset / tu % 2 ^ 16

def getBcnDrift (i : BcnInfo) : List ℕ :=
  dataSorting ((range i.short.num).map fun idx =>
    calcBcnDrift (i.short.mod idx) (tbttOf i) i.bcnIntvl)

inductive Width
  | word
  | exact
  deriving DecidableEq

def Width.trunc (w : Width) (x : ℕ) : ℕ :=
  match w with
  | .word => x % 2 ^ 16
  | .exact => x

def Width.sub (w : Width) (x y : ℕ) : ℕ :=
  match w with
  | .word => (x + 2 ^ 16 - y) % 2 ^ 16
  | .exact => x - y

/-- What `_dist_box_plot` computes, its local variables included; quartiles and
their distance are scaled by ten. -/
structure BoxPlot where
  min : ℕ
  max : ℕ
  q1 : ℕ
  q3 : ℕ
  iqr : ℕ
  temp : ℕ
  outlierL : ℕ
  outlierH : ℕ
  outlierNum : ℕ
  deriving DecidableEq

structure Histogram where
  num : ℕ
  upper : List ℕ
  cnt : List ℕ
  deriving DecidableEq

section Watchdog

variable (w : Width)

/-- The `k`-th quartile; an index out of range has no result. -/
def quartile (d : List ℕ) (k : ℕ) : Option ℕ :=
  let q := d.length * k / 4
  if d.length * k % 4 = 0 then
    d[q - 1]?.bind fun x => d[q]?.map fun y => w.trunc (w.trunc (x + y) * 10 / 2)
  else d[q]?.map fun x => w.trunc (x * 10)

/-- `_dist_box_plot` of four beacons or more. -/
def distBoxPlot (d : List ℕ) : Option BoxPlot :=
  d[0]?.bind fun min =>
  d[d.length - 1]?.bind fun max =>
  (quartile w d 1).bind fun q1 =>
  (quartile w d 3).map fun q3 =>
    let iqr := w.sub q3 q1
    let temp := w.trunc (3 * iqr / 2)
    let fenceL := if min ≤ 5 then min else if temp < q1 then (q1 - temp) / 10 else 0
    let fenceH := w.trunc ((q3 + temp) / 10)
    { min := min, max := max, q1 := q1, q3 := q3, iqr := iqr, temp := temp
      outlierL := fenceL, outlierH := fenceH
      outlierNum := d.countP fun x => x < fenceL ∨ fenceH < x }

def binWidth : ℕ := 5
def maxNumBin : ℕ := 6

def binTh (s : ShortInfo) (j : ℕ) : ℕ := w.trunc (s.min + binWidth * (j + 1))

/-- The bin that the loop of `_get_bcn_histogram` stops at. -/
def binOf (s : ShortInfo) (mod : ℕ) : ℕ :=
  ((range (maxNumBin - 1)).find? fun j => mod < binTh w s j).getD (maxNumBin - 1)

def getBcnHistogram (s : ShortInfo) : Histogram where
  num := s.num
  upper := (range maxNumBin).map fun j =>
    if s.num = 0 then 0
    else if j = maxNumBin - 1 then (if s.max < binTh w s j then binTh w s j else s.max)
    else binTh w s j
  cnt := (range maxNumBin).map fun j =>
    (range s.num).countP fun idx => binOf w s (s.mod idx) = j

/-- The loop of `_get_bcn_histogram_bandary` over the bins. -/
def bandaryLoop (tgtNum : ℕ) : ℕ → List (ℕ × ℕ) → ℕ
  | _, [] => 0
  | num, (upper, cnt) :: bins =>
    if tgtNum < num + cnt then upper else bandaryLoop tgtNum (num + cnt) bins

def getBcnHistogramBandary (h : Histogram) (pct : ℕ) : ℕ :=
  bandaryLoop (h.num * pct / 100) 0 (h.upper.zip h.cnt)

/-- `_get_bcn_avg_rssi` over the `num` newest. -/
def getBcnAvgRssi (s : ShortInfo) (num : ℕ) : ℕ :=
  let num := if s.num < num then s.num else num
  ((range num).map fun k => s.rssi ((getBidx s.num)^[k] s.idx)).sum % 2 ^ 16 / num % 2 ^ 8

def getBcnDistPct (s : ShortInfo) (bandary : ℕ) : ℕ :=
  ((range s.num).countP fun idx => s.mod idx ≤ bandary) * 100 / s.num % 2 ^ 8

/-- `_get_legacy_rate_val`, of the rates up to `RTW_DATA_RATE_OFDM54`. -/
def getLegacyRateVal (rate : ℕ) : ℕ :=
  [10, 20, 55, 110, 60, 90, 120, 180, 240, 360, 480, 540].getD rate 0

/-- `_get_rx_bcn_t`, in `u16`: the time that receiving a beacon takes. -/
def getRxBcnT (i : BcnInfo) (band : Band) : ℕ :=
  if i.rate = rateMax ∨ rateOfdm54 < i.rate then 4
  else if band ≠ .on5G ∧ band ≠ .on24G then 4
  else
    let plcp := if band = .on5G then 20 else 192
    let rate := getLegacyRateVal i.rate
    if rate = 0 then 4 else (plcp + i.pktLen * 8 * 10 / rate) % 2 ^ 16 / 1000 + 1

/-- The number of beacons that are `pct` percent of a watchdog's. -/
def wdogBcn (bIntvl pct : ℕ) : ℕ := wdogPeriod / bIntvl * pct / 100

/-- `_get_bcn_tracking_info` up to `_cfg`, for a distribution that could be
calculated: the timeout and `comp_env`. -/
def trackingOf (i : BcnInfo) (d : List ℕ) (p : BoxPlot) : Option (ℕ × Bool) :=
  let num := i.short.num
  if num * 30 / 100 ≤ p.outlierNum then some (p.max, true)
  else if i.numPerWatchdog < wdogBcn i.bcnIntvl 70 then
    -- rx middle
    if num < wdogBcn i.bcnIntvl 80 then some (w.trunc (p.max + 5), true)
    else if num - num * 80 / 100 < p.outlierNum then some (w.trunc ((p.max + p.outlierH) / 2), true)
    else some (w.trunc (p.outlierH + 5), true)
  else if num = maxShortInfoBcnNum ∧ 80 ≤ getBcnAvgRssi i.short 5 then
    if 90 ≤ getBcnDistPct i.short 0 then some (0, false)
    else
      some (calcBcnDrift (getBcnHistogramBandary (getBcnHistogram w i.short) 80) (tbttOf i)
        i.bcnIntvl, true)
  else d[num * 80 / 100]?.map fun x => (x, true)

/-- `_get_bcn_drift`, `_get_bcn_distribution` and the start of
`_get_bcn_tracking_info`. -/
def trackingBase (i : BcnInfo) : Option (ℕ × Bool) :=
  let d := getBcnDrift i
  if i.numPerWatchdog < wdogBcn i.bcnIntvl 30 then some (i.bcnIntvl * 80 / 100, true)
  else if i.short.num < 4 then some (i.bcnIntvl * 80 / 100, true)
  else (distBoxPlot w d).bind (trackingOf w i d)

/-- `_calc_bcn_tracking`: the suggested timeout.  `latSen` is the answer of
`phl_sta_latency_sensitive_chk`. -/
def calcBcnTracking (i : BcnInfo) (band : Band) (latSen : Bool) : Option ℕ :=
  (trackingBase w i).map fun p =>
    let timeout := w.trunc (p.1 + getRxBcnT i band)
    if p.2 ∧ latSen then w.trunc (timeout + 5) else timeout

end Watchdog

/-- What `phl_bcn_watchdog_sw` does for a linked client.  Nothing is kept of a
run that reads out of range. -/
def bcnWatchdogSw (i : BcnInfo) (band : Band) (latSen : Bool) : BcnInfo :=
  if i.numPerWatchdog = 0 then i
  else
    { i with
      lastNumPerWatchdog := i.numPerWatchdog
      numPerWatchdog := 0
      bcnTimeout := (calcBcnTracking .word i band latSen).getD i.bcnTimeout }

inductive Event
  | beacon (e : Beacon)
  | watchdog (band : Band) (latSen : Bool)

def step (i : BcnInfo) : Event → BcnInfo
  | .beacon e => staUpRxBcn i e
  | .watchdog band latSen => bcnWatchdogSw i band latSen

end BcnTrack

end Rtl8831.Phl
