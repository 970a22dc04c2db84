import Rtl8831.Lib.Index

/-!
# Allocation of macids

Macids are marked in bitmaps.  A device with several links keeps the ids below
`max_mld_num * max_link_num` for multi-link devices: the ids of one residue
modulo `max_mld_num` are a group, which a multi-link device has for itself and
which legacy stations only get when the other ids are used up.
-/

namespace Rtl8831.Phl

open Function

namespace Macid

def phlMacidMaxNum : ℕ := 256

def rtwOneLink : ℕ := 1

/-- What `phl_macid_ctrl_init` and `struct rtw_dev_cap` admit. -/
structure DevCap where
  maxNum : ℕ
  maxMldNum : ℕ
  maxLinkNum : ℕ
  maxNum_le : maxNum ≤ phlMacidMaxNum
  maxMldNum_lt : maxMldNum < 2 ^ 16
  maxLinkNum_lt : maxLinkNum < 2 ^ 8

/-- `struct macid_ctl_t`, with sets for the bitmaps. -/
structure MacidCtl where
  usedMap : Finset ℕ
  usedMldMap : Finset ℕ
  usedLegacyMap : Finset ℕ
  bmcMap : Finset ℕ
  wifiRoleUsedmap : ℕ → Finset ℕ
  wroleBmc : ℕ → ℕ → ℕ
  sta : ℕ → Option ℕ

/-- The part of `struct rtw_phl_stainfo_t` that concerns its macid: the role and
the link, whether the address is the broadcast one, and the multi-link device. -/
structure Sta where
  wrole : ℕ
  rlink : ℕ
  bmc : Bool
  mld : Option ℕ
  macid : ℕ

inductive DeviceType
  | legacy
  | mld
  deriving DecidableEq

section

variable (c : DevCap) (mc : MacidCtl)

def macidCtrlInit : MacidCtl where
  usedMap := ∅
  usedMldMap := ∅
  usedLegacyMap := ∅
  bmcMap := ∅
  wifiRoleUsedmap _ := ∅
  wroleBmc _ _ := c.maxNum
  sta _ := none

def firstUnused (ids : List ℕ) : Option ℕ := ids.find? fun id => id ∉ mc.usedMap

/-- The ids of the group of `mid`, one for each link, in `u16`. -/
def groupIds (mid : ℕ) : List ℕ :=
  (List.range c.maxLinkNum).map fun lidx => (mid + c.maxMldNum * lidx) % 2 ^ 16

/-- `_phl_alloc_mld_macid`.  With a main id the code divides by `max_mld_num`. -/
def allocMldMacid (mainId : ℕ) : MacidCtl × ℕ :=
  if c.maxNum = mainId then
    if c.maxLinkNum = rtwOneLink then
      (mc, (firstUnused mc (List.range c.maxNum)).getD c.maxNum)
    else
      match (List.range c.maxMldNum).find? fun mid =>
          mid ∉ mc.usedMldMap ∧ mid ∉ mc.usedLegacyMap with
      | some mid => ({ mc with usedMldMap := insert mid mc.usedMldMap }, mid)
      | none => (mc, c.maxNum)
  else (mc, (firstUnused mc (groupIds c (mainId % c.maxMldNum))).getD c.maxNum)

/-- The loop of `_phl_alloc_legacy_macid` over the groups: the id that it
returns from inside, and `avail_macid`. -/
def legacyLoop : List ℕ → ℕ → Option ℕ × ℕ
  | [], avail => (none, avail)
  | mid :: mids, avail =>
    if mid ∈ mc.usedMldMap then legacyLoop mids avail
    else if mid ∉ mc.usedLegacyMap then
      legacyLoop mids (if avail = c.maxNum then mid else avail)
    else
      match firstUnused mc (groupIds c mid) with
      | some id => (some id, avail)
      | none => legacyLoop mids avail

def rsvdMacid : ℕ := c.maxMldNum * c.maxLinkNum % 2 ^ 16

def openIds : List ℕ :=
  if 0 < rsvdMacid c ∧ rsvdMacid c < c.maxNum then
    List.range' (rsvdMacid c) (c.maxNum - rsvdMacid c)
  else []

def allocLegacyMacid : MacidCtl × ℕ :=
  if c.maxLinkNum = rtwOneLink then
    (mc, (firstUnused mc (List.range c.maxNum)).getD c.maxNum)
  else
    match firstUnused mc (openIds c) with
    | some id => (mc, id)
    | none =>
      match legacyLoop c mc (List.range c.maxMldNum) c.maxNum with
      | (some id, _) => (mc, id)
      | (none, avail) =>
        (if avail = c.maxNum then mc
          else { mc with usedLegacyMap := insert avail mc.usedLegacyMap }, avail)

/-- `_phl_alloc_macid` of a station with a role; the id `max_num` is its failure. -/
def allocMacid (i : ℕ) (st : Sta) (dtype : DeviceType) (mainId : ℕ) : MacidCtl × ℕ :=
  let r := if dtype = .mld then allocMldMacid c mc mainId else allocLegacyMacid c mc
  if r.2 = c.maxNum then r
  else
    ({ r.1 with
        usedMap := insert r.2 r.1.usedMap
        wifiRoleUsedmap := update r.1.wifiRoleUsedmap st.wrole
          (insert r.2 (r.1.wifiRoleUsedmap st.wrole))
        sta := update r.1.sta r.2 (some i)
        bmcMap := if st.bmc then insert r.2 r.1.bmcMap else r.1.bmcMap
        wroleBmc :=
          if st.bmc then
            update r.1.wroleBmc st.wrole
              (update (r.1.wroleBmc st.wrole) st.rlink r.2)
          else r.1.wroleBmc }, r.2)

def releaseMacid (st : Sta) : MacidCtl :=
  if c.maxNum ≤ st.macid then mc
  else if st.macid ∉ mc.usedMap then mc
  else
    let mc := { mc with
      usedMap := mc.usedMap.erase st.macid
      wifiRoleUsedmap := update mc.wifiRoleUsedmap st.wrole
        ((mc.wifiRoleUsedmap st.wrole).erase st.macid)
      sta := update mc.sta st.macid none
      bmcMap := if st.bmc then mc.bmcMap.erase st.macid else mc.bmcMap }
    if c.maxMldNum ≠ 0 ∧ ∀ id ∈ groupIds c (st.macid % c.maxMldNum), id ∉ mc.usedMap then
      { mc with
        usedMldMap := mc.usedMldMap.erase (st.macid % c.maxMldNum)
        usedLegacyMap := mc.usedLegacyMap.erase (st.macid % c.maxMldNum) }
    else mc

end

/-- What a station asks a macid for: as a legacy station, as the main link of a
multi-link device, or as a further link of the device that station `of` is of. -/
inductive Request
  | legacy
  | mldMain (m : ℕ)
  | mldLink (m of : ℕ)
  deriving DecidableEq

def Request.mld : Request → Option ℕ
  | .legacy => none
  | .mldMain m => some m
  | .mldLink m _ => some m

def Request.dtype : Request → DeviceType
  | .legacy => .legacy
  | .mldMain _ => .mld
  | .mldLink _ _ => .mld

/-- The control block, the stations, and (a history variable) those that have
been given a macid and not released it. -/
structure State where
  ctl : MacidCtl
  stas : ℕ → Sta
  live : Finset ℕ

def init (c : DevCap) : State where
  ctl := macidCtrlInit c
  stas _ := ⟨0, 0, false, none, 0⟩
  live := ∅

/-- `wrole` is `none` for a station without a role. -/
inductive Event
  | alloc (i : ℕ) (wrole : Option ℕ) (rlink : ℕ) (bmc : Bool) (req : Request)
  | release (i : ℕ)

/-- The `main_id` of a request. -/
def mainIdOf (c : DevCap) (s : State) : Request → ℕ
  | .legacy => c.maxNum
  | .mldMain _ => c.maxNum
  | .mldLink _ of => (s.stas of).macid

def allocStep (c : DevCap) (s : State) (i wrole rlink : ℕ) (bmc : Bool) (req : Request) : State :=
  let st : Sta :=
    { wrole := wrole, rlink := rlink, bmc := bmc, mld := req.mld, macid := (s.stas i).macid }
  let r := allocMacid c s.ctl i st req.dtype (mainIdOf c s req)
  { ctl := r.1
    stas := update s.stas i { st with macid := r.2 }
    live := if r.2 = c.maxNum then s.live else insert i s.live }

def releaseStep (c : DevCap) (s : State) (i : ℕ) : State where
  ctl := releaseMacid c s.ctl (s.stas i)
  stas := update s.stas i { s.stas i with macid := c.maxNum }
  live := s.live.erase i

def step (c : DevCap) (s : State) : Event → State
  | .alloc _ none _ _ _ => s
  | .alloc i (some wrole) rlink bmc req => allocStep c s i wrole rlink bmc req
  | .release i => releaseStep c s i

/-- A macid is asked for by a station that has none, a further link of a device
names a station of it that has one, and a macid is released by its station. -/
def Legal (s : State) : Event → Prop
  | .alloc i _ _ _ .legacy => i ∉ s.live
  | .alloc i _ _ _ (.mldMain _) => i ∉ s.live
  | .alloc i _ _ _ (.mldLink m of) => i ∉ s.live ∧ of ∈ s.live ∧ (s.stas of).mld = some m
  | .release i => i ∈ s.live

instance (s : State) : ∀ e, Decidable (Legal s e)
  | .alloc _ _ _ _ .legacy => inferInstanceAs (Decidable (_ ∉ _))
  | .alloc _ _ _ _ (.mldMain _) => inferInstanceAs (Decidable (_ ∉ _))
  | .alloc _ _ _ _ (.mldLink _ _) => inferInstanceAs (Decidable (_ ∉ _ ∧ _ ∈ _ ∧ _ = _))
  | .release _ => inferInstanceAs (Decidable (_ ∈ _))

end Macid

end Rtl8831.Phl
