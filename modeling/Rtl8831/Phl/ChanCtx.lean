import Rtl8831.Lib.Keyed

/-!
# Channel contexts

`phl_chan.c` and `phl_mr.c` keep, for each HW band, the queue of the channel
contexts in use.  A context holds a channel definition and the map of the
roles that operate on it; each role link points back to its context.  The band
also counts the contexts of each sub-band and keeps an operation mode.

A context is known by its address.  A role has at most one link on a HW band
(`phl_wifi_role_alloc` puts link `i` of an MLD on band `i`, and gives every
other role one link), so a link is known by its band and its role.
-/

namespace Rtl8831.Phl

open Lib Function

inductive BandType
  | on24G
  | on5G
  | on6G
  | max
  deriving DecidableEq

inductive ChannelWidth
  | w20
  | w40
  | w80
  | w160
  | w80_80
  | w5
  | w10
  | max
  deriving DecidableEq

/-- The value of `enum channel_width`. -/
def ChannelWidth.val : ChannelWidth → ℕ
  | .w20 => 0
  | .w40 => 1
  | .w80 => 2
  | .w160 => 3
  | .w80_80 => 4
  | .w5 => 5
  | .w10 => 6
  | .max => 7

inductive ChanOffset
  | noExt
  | upper
  | noDef
  | lower
  | upper40M
  | lower40M
  | upper80M
  | lower80M
  deriving DecidableEq

/-- `struct rtw_chan_def`, with the fields the contexts are compared by. -/
structure ChanDef where
  band : BandType
  chan : ℕ
  bw : ChannelWidth
  offset : ChanOffset
  deriving DecidableEq

inductive CcBand
  | b24G
  | b5G1
  | b5G2
  | b5G3
  | b5G4
  | b6GU5
  | b6GU6
  | b6GU7
  | b6GU8
  deriving DecidableEq

def ccBand5G (chan : ℕ) : Option CcBand :=
  if 36 ≤ chan ∧ chan ≤ 48 then some .b5G1
  else if 52 ≤ chan ∧ chan ≤ 64 then some .b5G2
  else if 100 ≤ chan ∧ chan ≤ 144 then some .b5G3
  else if 149 ≤ chan ∧ chan ≤ 177 then some .b5G4
  else none

def ccBand6G (chan : ℕ) : Option CcBand :=
  if 1 ≤ chan ∧ chan ≤ 93 then some .b6GU5
  else if 97 ≤ chan ∧ chan ≤ 117 then some .b6GU6
  else if 121 ≤ chan ∧ chan ≤ 189 then some .b6GU7
  else if 193 ≤ chan ∧ chan ≤ 233 then some .b6GU8
  else none

namespace ChanDef

/-- The sub-band whose counter `_phl_cc_band_map_set` and `_clr` change. -/
def ccBand (d : ChanDef) : Option CcBand :=
  match d.band with
  | .on24G => some .b24G
  | .on5G => ccBand5G d.chan
  | .on6G => ccBand6G d.chan
  | .max => none

def unknown (d : ChanDef) : Bool :=
  match d.band with
  | .on5G => (ccBand5G d.chan).isNone
  | .on6G => (ccBand6G d.chan).isNone
  | _ => false

def wide (d : ChanDef) : Bool :=
  decide (d.bw = .w40 ∨ d.bw = .w80 ∨ d.bw = .w160)

def isChbwGrouped (a b : ChanDef) : Bool :=
  if a.band ≠ b.band then false
  else if a.chan ≠ b.chan then false
  else if a.wide && b.wide then decide (a.offset = b.offset)
  else true

def inSameBand (a b : ChanDef) : Bool :=
  decide (a.band = b.band) && a.ccBand.isSome && decide (a.ccBand = b.ccBand)

def inInterferenceBand (a b : ChanDef) : Bool :=
  decide (a.band = .on5G ∨ a.band = .on6G) && decide (b.band = .on5G ∨ b.band = .on6G)

/-- `_phl_upt_offset_by_chbw_24g`. -/
def uptOffset24G (d : ChanDef) : ChanDef :=
  if d.bw.val ≥ 2 ∨ d.chan < 1 ∨ d.chan > 14 then d
  else if d.bw = .w20 then { d with offset := .noExt }
  else if d.chan ≤ 4 then { d with offset := .upper }
  else if d.chan ≤ 9 then
    if d.offset = .upper ∨ d.offset = .lower then d else { d with offset := .lower }
  else if d.chan ≤ 13 then { d with offset := .lower }
  else d

/-- `_phl_upt_offset_by_chbw_5g`. -/
def uptOffset5G (d : ChanDef) : ChanDef :=
  let between := decide (1 ≤ d.bw.val ∧ d.bw.val ≤ 3)
  if d.chan ∈ [36, 44, 52, 60, 100, 108, 116, 124, 132, 140, 149, 157, 165, 173] then
    { d with offset := if between then .upper else .noExt }
  else if d.chan ∈ [40, 48, 56, 64, 104, 112, 120, 128, 136, 144, 153, 161, 169, 177] then
    { d with offset := if between then .lower else .noExt }
  else d

/-- `_phl_upt_offset_by_chbw_6g`. -/
def uptOffset6G (d : ChanDef) : ChanDef :=
  if 1 ≤ d.chan ∧ d.chan ≤ 253 then
    if d.chan % 8 = 1 then { d with offset := if d.bw = .w20 then .noExt else .upper }
    else if d.chan % 8 = 5 then { d with offset := if d.bw = .w20 then .noExt else .lower }
    else d
  else d

def uptOffset (d : ChanDef) : ChanDef :=
  match d.band with
  | .on24G => d.uptOffset24G
  | .on5G => d.uptOffset5G
  | .on6G => d.uptOffset6G
  | .max => d

/-- The offset `_phl_adjust_chandef` gives a wide channel, and the fall back to
20 MHz when there is none. -/
def adjustWide (n g : ChanDef) : ChanDef :=
  let n' : ChanDef :=
    if g.wide then { n with offset := g.offset }
    else if g.bw = .w20 then n.uptOffset
    else n
  if n'.offset = .noExt then { n' with bw := .w20 } else n'

/-- `_phl_adjust_chandef` with `g_chdef_upt`: what becomes of the group's
definition `g` when the new one `n` joins it. -/
def adjust (n g : ChanDef) : ChanDef :=
  let n₁ : ChanDef := { n with
    band := g.band
    chan := g.chan
    bw := if g.band = .on24G ∧ (n.bw = .w80 ∨ n.bw = .w160) then .w40 else n.bw }
  let n₂ : ChanDef :=
    if n₁.wide then n₁.adjustWide g
    else if n₁.bw = .w20 then { n₁ with offset := .noExt }
    else n₁
  if n₂.bw.val > g.bw.val then { g with bw := n₂.bw, offset := n₂.offset } else g

end ChanDef

inductive MrOpMode
  | none
  | swr
  | scc
  | mcc
  | dbcc
  | max
  deriving DecidableEq

variable {n : ℕ}

/-- `struct rtw_chan_ctx`; `n` is `MAX_WIFI_ROLE_NUMBER`. -/
structure ChanCtx (n : ℕ) where
  addr : ℕ
  chanDef : ChanDef
  roleMap : Finset (Fin n) := ∅
  deriving DecidableEq

/-- The fields of `struct rtw_wifi_role_link_t` that matter here. -/
structure RLink where
  chanctx : Option ℕ := none
  chandef : ChanDef
  deriving DecidableEq

/-- `struct hw_band_ctl_t`, with the links of the roles on this band. -/
structure HwBandCtl (n : ℕ) where
  queue : List (ChanCtx n) := []
  cnt : ℤ := 0
  rc : CcBand → ℤ := fun _ => 0
  bandMap : Finset CcBand := ∅
  opMode : MrOpMode := .none
  rlink : Fin n → RLink

/-- What the build and `dev_cap` say about channel concurrency; `dbcc` is
`CONFIG_DBCC_SUPPORT`, and `mccSup` is off in builds without MCC. -/
structure DevCap where
  mccSup : Bool
  dbcc : Bool := false
  dbccSup : Bool := false
  mcmbSkipDbcc : Bool := false
  mcmbItfCtrl : Bool := false

namespace HwBandCtl

/-- The context at an address.  Reading a freed context is undefined in the
source; here it gives none. -/
def ctxAt (b : HwBandCtl n) (a : ℕ) : Option (ChanCtx n) :=
  lookupKey ChanCtx.addr a b.queue

def setLink (b : HwBandCtl n) (r : Fin n) (p : Option ℕ) : HwBandCtl n :=
  { b with rlink := update b.rlink r { b.rlink r with chanctx := p } }

/-- `_phl_cc_band_map_set`.  The status lives in a static variable: once a
sub-band was unknown, every later call fails too. -/
def ccBandMapSet (failed : Bool) (b : HwBandCtl n) (d : ChanDef) : Bool × HwBandCtl n :=
  match d.ccBand with
  | some c =>
    (failed, { b with
      rc := update b.rc c (b.rc c + 1)
      bandMap := insert c b.bandMap })
  | none => (failed || d.unknown, b)

/-- `_phl_cc_band_map_clr`; its caller only logs the status. -/
def ccBandMapClr (b : HwBandCtl n) (d : ChanDef) : HwBandCtl n :=
  match d.ccBand with
  | some c =>
    { b with
      rc := update b.rc c (b.rc c - 1)
      bandMap := if b.rc c - 1 = 0 then b.bandMap.erase c else b.bandMap }
  | none => b

/-- `_phl_chanctx_add`: the status and the static status of the band map. -/
def ctxAdd (failed : Bool) (b : HwBandCtl n) (c : ChanCtx n) : Bool × Bool × HwBandCtl n :=
  let b' := { b with queue := b.queue ++ [c], cnt := b.cnt + 1 }
  if b'.cnt > 2 then (false, failed, b')
  else
    let (failed', b'') := ccBandMapSet failed b' c.chanDef
    (!failed', failed', b'')

def ctxDel (b : HwBandCtl n) (c : ChanCtx n) : HwBandCtl n :=
  let b' := b.ccBandMapClr c.chanDef
  if b'.cnt ≠ 0 then
    { b' with queue := eraseKey ChanCtx.addr c.addr b'.queue, cnt := b'.cnt - 1 }
  else b'

def rmapSet (b : HwBandCtl n) (r : Fin n) (c : ChanCtx n) : Bool × HwBandCtl n :=
  if r ∈ c.roleMap then (false, b)
  else
    (true, { b with
      queue := modifyKey ChanCtx.addr c.addr
        (fun x => { x with roleMap := insert r x.roleMap }) b.queue }.setLink r (some c.addr))

def rmapClr (b : HwBandCtl n) (r : Fin n) (a : ℕ) : HwBandCtl n :=
  { b with
    queue := modifyKey ChanCtx.addr a
      (fun x => { x with roleMap := x.roleMap.erase r }) b.queue }.setLink r none

def kmemAlloc (b : HwBandCtl n) (alloc : Option ℕ) : Option ℕ :=
  alloc.filter fun a => decide (a ∉ b.queue.map ChanCtx.addr)

def ctxCreate (failed : Bool) (b : HwBandCtl n) (r : Fin n) (d : ChanDef) (alloc : Option ℕ) :
    Bool × Bool × HwBandCtl n :=
  match b.kmemAlloc alloc with
  | none => (false, failed, b)
  | some a =>
    let (ok, failed', b') := ctxAdd failed b { addr := a, chanDef := d }
    if ok then (true, failed', (b'.rmapSet r { addr := a, chanDef := d }).2)
    else (false, failed', b')

/-- `phl_chanctx_free`: the whole queue is released. -/
def chanctxFree (b : HwBandCtl n) : HwBandCtl n :=
  if b.cnt = 0 then b else { b with queue := [], cnt := b.cnt - b.queue.length }

def dbccInstead (cap : DevCap) (new cur : ChanDef) : Bool :=
  cap.dbcc && !new.inSameBand cur && !(!cap.mcmbItfCtrl && new.inInterferenceBand cur) &&
    (!cap.mcmbSkipDbcc && cap.dbccSup)

/-- What an add reports: `is_ch_grouped`, the final `new_chdef` and the
suggested operation mode. -/
structure AddRes where
  grouped : Bool
  newChdef : ChanDef
  suggOpmode : MrOpMode

/-- The grouped arm of `phl_chanctx_add`: `c` takes the role in. -/
def addGrouped (cap : DevCap) (b : HwBandCtl n) (r : Fin n) (new : ChanDef) (c : ChanCtx n) :
    AddRes × HwBandCtl n :=
  let g := new.adjust c.chanDef
  let b₁ := { b with
    queue := modifyKey ChanCtx.addr c.addr (fun x => { x with chanDef := g }) b.queue }
  match b₁.rmapSet r c with
  | (false, b₂) => (⟨false, g, .max⟩, b₂)
  | (true, b₂) =>
    if b.cnt = 1 then (⟨true, g, .scc⟩, { b₂ with opMode := .scc })
    else if b.cnt = 2 ∧ cap.mccSup then (⟨true, g, .mcc⟩, { b₂ with opMode := .mcc })
    else (⟨true, g, .none⟩, b₂)

/-- The arms of `phl_chanctx_add` that make a context, of mode `m`. -/
def addCreate (m : MrOpMode) (failed : Bool) (b : HwBandCtl n) (r : Fin n) (new : ChanDef)
    (alloc : Option ℕ) : AddRes × Bool × HwBandCtl n :=
  match b.ctxCreate failed r new alloc with
  | (true, failed', b') => (⟨true, new, m⟩, failed', { b' with opMode := m })
  | (false, failed', b') => (⟨false, new, .none⟩, failed', b')

/-- `phl_chanctx_add`.  The operation mode is reset before anything is known
about the request. -/
def chanctxAdd (cap : DevCap) (failed : Bool) (b : HwBandCtl n) (r : Fin n) (new : ChanDef)
    (alloc : Option ℕ) : AddRes × Bool × HwBandCtl n :=
  let b₀ := { b with opMode := .none }
  if b₀.cnt = 0 then b₀.addCreate .swr failed r new alloc
  else
    match b₀.queue.find? (fun c => c.chanDef.isChbwGrouped new) with
    | some c =>
      let (res, b₁) := b₀.addGrouped cap r new c
      (res, failed, b₁)
    | none =>
      if b₀.cnt ≥ 2 then
        (⟨false, new, if cap.dbcc && !cap.mcmbSkipDbcc && cap.dbccSup then .dbcc else .none⟩,
          failed, b₀)
      -- `chandef` is left at the last context of the loop
      else if b₀.queue.getLast?.any (fun c => dbccInstead cap new c.chanDef) then
        (⟨false, new, .dbcc⟩, failed, b₀)
      else if cap.mccSup then b₀.addCreate .mcc failed r new alloc
      else (⟨false, new, .none⟩, failed, b₀)

def rnum (b : HwBandCtl n) (a : ℕ) : ℕ :=
  match b.ctxAt a with
  | some c => c.roleMap.card
  | none => 0

/-- The loop of `phl_mr_chandef_sync` over the links after the first. -/
def syncFrom (acc : ChanDef) : List ChanDef → Option ChanDef
  | [] => some acc
  | d :: ds =>
    if acc.band ≠ d.band then none
    else if acc.chan ≠ d.chan then none
    else if acc.bw.val < d.bw.val then syncFrom { acc with bw := d.bw, offset := d.offset } ds
    else if acc.bw = d.bw ∧ acc.offset ≠ d.offset then none
    else syncFrom acc ds

/-- `phl_mr_chandef_sync`: the definition the links of a role map agree on. -/
def chandefSync (b : HwBandCtl n) (roles : Finset (Fin n)) : Option ChanDef :=
  match ((List.finRange n).filter (· ∈ roles)).map (fun r => (b.rlink r).chandef) with
  | [] => none
  | d :: ds => syncFrom d ds

def chandefUpt (b : HwBandCtl n) (a : ℕ) : Bool × HwBandCtl n :=
  match b.ctxAt a with
  | none => (false, b)
  | some c =>
    match b.chandefSync c.roleMap with
    | none => (false, b)
    | some d =>
      (true, { b with
        queue := modifyKey ChanCtx.addr a (fun x => { x with chanDef := d }) b.queue })

/-- The operation mode at the end of `rtw_phl_chanctx_del`. -/
def delOpMode (b : HwBandCtl n) : HwBandCtl n :=
  if b.cnt = 0 then { b with opMode := .none }
  else if b.cnt = 1 then
    match b.queue.head? with
    | some c => { b with opMode := if c.roleMap.card = 1 then .swr else .scc }
    | none => b
  else if b.cnt = 2 then { b with opMode := .mcc }
  else b

/-- `rtw_phl_chanctx_del`.  The returned number of contexts and the channel
definition for the caller are left out: no modelled function reads them. -/
def chanctxDel (b : HwBandCtl n) (r : Fin n) : HwBandCtl n :=
  match (b.rlink r).chanctx with
  | none => b
  | some a =>
    match b.ctxAt a with
    | none => b
    | some c =>
      if b.cnt = 0 ∨ c.roleMap.card = 0 then b
      else if b.cnt > 2 then b
      else if c.roleMap.card = 1 then ((b.rmapClr r a).ctxDel c).delOpMode
      else
        match (b.rmapClr r a).chandefUpt a with
        | (true, b') => b'.delOpMode
        | (false, b') => b'

def chanctxDelNoSelf (b : HwBandCtl n) : HwBandCtl n :=
  if b.cnt > 2 then b
  else if b.cnt = 0 then b
  else if b.cnt = 1 then
    match b.queue.head? with
    | some c => b.ctxDel c
    | none => b
  else b

end HwBandCtl

open HwBandCtl

inductive HwBand
  | band0
  | band1
  deriving DecidableEq

/-- The state the calls work on: the bands and the static status of
`_phl_cc_band_map_set`. -/
structure MrCtl (n : ℕ) where
  bands : HwBand → HwBandCtl n
  setFailed : Bool := false

namespace MrCtl

def setBand (s : MrCtl n) (i : HwBand) (b : HwBandCtl n) : MrCtl n :=
  { s with bands := update s.bands i b }

/-- After `phl_mr_ctrl_init`; the links have some channel definition. -/
def init (chandef : HwBand → Fin n → ChanDef) : MrCtl n where
  bands := fun i => { rlink := fun r => { chandef := chandef i r } }

/-- What the environment gives an add: `mr_ctl->is_db` and the address the
allocator has to offer. -/
structure AddEnv where
  isDb : Bool
  alloc : Option ℕ

/-- The early exits of `rtw_phl_chanctx_add`. -/
def addRefused (i : HwBand) (new : ChanDef) (env : AddEnv) : Bool :=
  decide (new.chan = 0) || (!env.isDb && decide (i = .band1))

/-- `rtw_phl_chanctx_add`: whether the channel was taken, and the state. -/
def rtwChanctxAdd (cap : DevCap) (s : MrCtl n) (i : HwBand) (r : Fin n) (new : ChanDef)
    (env : AddEnv) : Bool × MrCtl n :=
  if addRefused i new env then (false, s)
  else
    let (res, failed, b) := (s.bands i).chanctxAdd cap s.setFailed r new env.alloc
    (res.grouped, { (s.setBand i b) with setFailed := failed })

def rtwChanctxDel (s : MrCtl n) (i : HwBand) (r : Fin n) : MrCtl n :=
  s.setBand i ((s.bands i).chanctxDel r)

/-- `phl_mr_chandef_chg`: release, take the new channel, and when that fails
take the link's own channel again. -/
def chandefChg (cap : DevCap) (s : MrCtl n) (i : HwBand) (r : Fin n) (new : ChanDef)
    (env env' : AddEnv) : Bool × MrCtl n :=
  match (s.rtwChanctxDel i r).rtwChanctxAdd cap i r new env with
  | (true, s₁) => (true, s₁)
  | (false, s₁) => (false, (s₁.rtwChanctxAdd cap i r ((s₁.bands i).rlink r).chandef env').2)

inductive Op (n : ℕ)
  | add (i : HwBand) (r : Fin n) (new : ChanDef) (env : AddEnv)
  | del (i : HwBand) (r : Fin n)
  | delNoSelf (i : HwBand)
  | free (i : HwBand)
  | chg (i : HwBand) (r : Fin n) (new : ChanDef) (env env' : AddEnv)
  | upt (i : HwBand) (r : Fin n)
  | setChandef (i : HwBand) (r : Fin n) (d : ChanDef)

def step (cap : DevCap) (s : MrCtl n) : Op n → MrCtl n
  | .add i r new env => (s.rtwChanctxAdd cap i r new env).2
  | .del i r => s.rtwChanctxDel i r
  | .delNoSelf i => s.setBand i (s.bands i).chanctxDelNoSelf
  | .free i => s.setBand i (s.bands i).chanctxFree
  | .chg i r new env env' => (s.chandefChg cap i r new env env').2
  -- `rtw_phl_mr_upt_chandef`
  | .upt i r =>
    match ((s.bands i).rlink r).chanctx with
    | none => s
    | some a => s.setBand i ((s.bands i).chandefUpt a).2
  | .setChandef i r d =>
    s.setBand i { s.bands i with
      rlink := update (s.bands i).rlink r { (s.bands i).rlink r with chandef := d } }

end MrCtl
end Rtl8831.Phl
