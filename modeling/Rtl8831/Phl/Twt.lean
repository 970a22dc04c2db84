import Rtl8831.Lib.Index

/-!
# The table of TWT agreements

`phl_twt.c` keeps the configs of the hardware in a ring, and in each of them the queue of the
stations that have an agreement with these parameters.  TWT is supported and initialised here.
-/

namespace Rtl8831.Phl.Twt

open Function

inductive NegoType
  | indivTwt
  | wakeTbttInr
  | bcastTwt
  | manageBcastTwt
  deriving DecidableEq

/-- `enum twt_config_state`, but for the state that is never set. -/
inductive ConfigState
  | free
  | idle
  | enable
  | error
  deriving DecidableEq

inductive Status
  | success
  | failure
  | resource
  deriving DecidableEq

/-- `MAX_NUM_HW_TWT_CONFIG` -/
abbrev configNum : ℕ := 4

def deleteAll : UInt8 := 0xFF

/-- `struct rtw_twt_sta_info`: the station, with the flow id or the broadcast id. -/
structure StaInfo (σ : Type*) where
  sta : σ
  id : UInt8
  deriving DecidableEq

/-- `struct phl_twt_config`; of the parameters in `twt_info` only the negotiation type and the id
are read again. -/
structure Config (σ ρ : Type*) where
  state : ConfigState := .free
  role : Option ρ := none
  negoType : NegoType := .indivTwt
  twtId : Fin configNum := 0
  staQueue : List (StaInfo σ) := []

abbrev Ring (σ ρ : Type*) := Fin configNum → Config σ ρ

structure Reply where
  tsf : Bool := true
  delMacid : Fin configNum → Bool := fun _ => true
  infoDelete : Bool := true
  infoAdd : Bool := true
  mem : Bool := true
  addMacid : Bool := true

variable {σ ρ : Type*} [DecidableEq σ] [DecidableEq ρ]

/-! ### The queue of a config -/

def StaInfo.isFor (sta : σ) (id : UInt8) (x : StaInfo σ) : Bool :=
  decide (sta = x.sta) && (decide (id = deleteAll) || decide (id = x.id))

/-- `_twt_get_sta_info`: the first entry of the station. -/
def getStaInfo (q : List (StaInfo σ)) (sta : σ) : Option (StaInfo σ) :=
  q.find? fun x => decide (sta = x.sta)

def staExist (q : List (StaInfo σ)) (sta : σ) (id : UInt8) : Bool := q.any (StaInfo.isFor sta id)

/-- The loop of `_twt_delete_sta`: the entries of `done` were enqueued again, and when the first of
them comes round it is enqueued once more. -/
def deleteStaLoop (sta : σ) (id : UInt8) :
    List (StaInfo σ) → List (StaInfo σ) → Status × List (StaInfo σ)
  | [], done => (.failure, done.rotate 1)
  | x :: todo, done =>
    if x.isFor sta id then (.success, todo ++ done) else deleteStaLoop sta id todo (done ++ [x])

/-- `_twt_delete_sta`; the count that it reports is the length of the queue. -/
def deleteSta (q : List (StaInfo σ)) (sta : σ) (id : UInt8) : Status × List (StaInfo σ) :=
  deleteStaLoop sta id q []

/-! ### The ring of configs -/

/-- `_twt_operate_twt_config` with `PHL_GET_CONFIG_BY_ID` -/
def getConfigById (ring : Ring σ ρ) (id : UInt8) : Option (Fin configNum) :=
  if h : id.toNat < configNum then
    if (ring ⟨id.toNat, h⟩).state = .free then none else some ⟨id.toNat, h⟩
  else none

/-- The config that `_twt_operate_twt_config` takes for `PHL_GET_NEW_CONFIG`. -/
def freeConfig? (ring : Ring σ ρ) : Option (Fin configNum) :=
  (List.finRange configNum).find? fun i => decide ((ring i).state = .free)

/-- `_twt_reset_config_info`, and the config is idle under its own id. -/
def Config.renew (c : Config σ ρ) (i : Fin configNum) : Config σ ρ :=
  { c with state := .idle, role := none, negoType := .indivTwt, twtId := i }

/-- `_twt_operate_twt_config` with `PHL_GET_NEW_CONFIG` -/
def getNewConfig (ring : Ring σ ρ) : Option (Fin configNum × Ring σ ρ) :=
  (freeConfig? ring).map fun i => (i, update ring i ((ring i).renew i))

/-- `_twt_info_update` with `PHL_TWT_ACTION_ENABLE` -/
def Config.infoEnable (c : Config σ ρ) (hal : Bool) : Status × Config σ ρ :=
  if hal then (.success, { c with state := .enable }) else (.failure, { c with state := .error })

/-- `_twt_info_update` with `PHL_TWT_ACTION_DISABLE` -/
def Config.infoDisable (c : Config σ ρ) (hal : Bool) : Status × Config σ ρ :=
  if hal then (.success, { c with state := .idle }) else (.failure, { c with state := .error })

/-- `rtw_phl_twt_alloc_twt_config`; the id is reported also when enabling fails. -/
def allocTwtConfig (ring : Ring σ ρ) (role : ρ) (negoType : NegoType) (enable hal : Bool) :
    Status × Ring σ ρ × Option (Fin configNum) :=
  match getNewConfig ring with
  | none => (.resource, ring, none)
  | some (i, ring) =>
    let config := { ring i with role := some role, negoType }
    if enable then
      let (ret, config) := config.infoEnable hal
      (ret, update ring i config, some (ring i).twtId)
    else (.success, update ring i config, some (ring i).twtId)

/-- `rtw_phl_twt_free_twt_config`; the result of disabling it is ignored. -/
def freeTwtConfig (ring : Ring σ ρ) (id : UInt8) (hal : Bool) : Status × Ring σ ρ :=
  match getConfigById ring id with
  | none => (.failure, ring)
  | some i =>
    (.success, update ring i
      { ((ring i).infoDisable hal).2 with staQueue := [], state := .free })

def Config.setQueue (c : Config σ ρ) (staQueue : List (StaInfo σ)) : Config σ ρ :=
  { c with staQueue }

def addStaInfo (ring : Ring σ ρ) (sta : σ) (configId id : UInt8) (mem hal : Bool) :
    Status × Ring σ ρ :=
  match getConfigById ring configId with
  | none => (.failure, ring)
  | some i =>
    if mem then
      let q := (ring i).staQueue ++ [⟨sta, id⟩]
      if hal then (.success, update ring i ((ring i).setQueue q))
      else (.failure, update ring i ((ring i).setQueue (deleteSta q sta id).2))
    else (.failure, ring)

/-! ### Deleting the entries of a station -/

/-- Which entries `_twt_delete_sta_info` deletes: of the station, and unless the type is ignored
of a type and for an id. -/
structure Target (σ ρ : Type*) where
  sta : σ
  wrole : ρ
  type : Option NegoType
  id : UInt8

/-- The checks of the loop of `_twt_delete_sta_info` on a config. -/
def Target.selects (g : Target σ ρ) (c : Config σ ρ) : Bool :=
  decide (c.state ≠ .free) && decide (c.role = some g.wrole) &&
    (g.type.elim true fun type => decide (c.negoType = type)) && staExist c.staQueue g.sta g.id

/-- What `_twt_delete_sta_info` has changed; in the bitmap are the configs whose last entry was
deleted. -/
structure Deleted (σ ρ : Type*) where
  ring : Ring σ ρ
  bitmap : BitVec 8
  error : Bool

/-- The bitmap after an entry of the config was deleted and `q` is left. -/
def bitmapAfter (bitmap : BitVec 8) (c : Config σ ρ) (q : List (StaInfo σ)) : BitVec 8 :=
  if q.length = 0 then bitmap ||| 1#8 <<< c.twtId.val else bitmap

/-- The loop of `_twt_delete_sta_info`; it ends with the first entry that is deleted unless all
are meant. -/
def deleteStaInfoLoop (g : Target σ ρ) (hal : Fin configNum → Bool) :
    List (Fin configNum) → Deleted σ ρ → Deleted σ ρ
  | [], d => d
  | i :: rest, d =>
    if g.selects (d.ring i) then
      if hal i then
        match deleteSta (d.ring i).staQueue g.sta g.id with
        | (.success, q) =>
          let d := { d with
            ring := update d.ring i ((d.ring i).setQueue q)
            bitmap := bitmapAfter d.bitmap (d.ring i) q }
          if g.id ≠ deleteAll then d else deleteStaInfoLoop g hal rest d
        | (_, q) =>
          deleteStaInfoLoop g hal rest { d with
            ring := update d.ring i ((d.ring i).setQueue q), error := true }
      else deleteStaInfoLoop g hal rest { d with error := true }
    else deleteStaInfoLoop g hal rest d

/-- The type that `_twt_delete_sta_info` compares with: a membership is a broadcast agreement. -/
def NegoType.agreementType : NegoType → NegoType
  | .manageBcastTwt => .bcastTwt
  | type => type

def Deleted.status (d : Deleted σ ρ) : Status := if d.error then .failure else .success

def deleteTarget (ring : Ring σ ρ) (g : Target σ ρ) (hal : Fin configNum → Bool) : Deleted σ ρ :=
  deleteStaInfoLoop g hal (List.finRange configNum) ⟨ring, 0, false⟩

/-- `_twt_delete_sta_info`; the id is not looked at if the type is ignored. -/
def deleteStaInfo (wrole : σ → ρ) (ring : Ring σ ρ) (sta : σ) (ignoreType : Bool)
    (negoType : NegoType) (id : UInt8) (hal : Fin configNum → Bool) : Deleted σ ρ :=
  deleteTarget ring ⟨sta, wrole sta, if ignoreType then none else some negoType.agreementType,
    if ignoreType then deleteAll else id⟩ hal

def deleteAllStaInfo (wrole : σ → ρ) (ring : Ring σ ρ) (sta : σ) (hal : Fin configNum → Bool) :
    Deleted σ ρ :=
  deleteStaInfo wrole ring sta true .indivTwt 0 hal

/-- `struct rtw_phl_twt_flow_field`; the id is the flow id or the broadcast id. -/
structure FlowField where
  negoType : NegoType
  teardownAll : Bool
  id : UInt8
  deriving DecidableEq

/-- The id that `rtw_phl_twt_teardown_sta` deletes. -/
def FlowField.deleteId (flow : FlowField) : UInt8 := if flow.teardownAll then deleteAll else flow.id

/-- `rtw_phl_twt_teardown_sta`; the broadcast type is not implemented. -/
def teardownSta (wrole : σ → ρ) (ring : Ring σ ρ) (sta : σ) (flow : FlowField)
    (hal : Fin configNum → Bool) : Deleted σ ρ :=
  if flow.negoType = .bcastTwt then ⟨ring, 0, true⟩
  else deleteStaInfo wrole ring sta false flow.negoType flow.deleteId hal

def lowestBit (bitmap : BitVec 8) : Option ℕ := (List.range 8).find? fun i => bitmap.getLsbD i

/-- The body of the loop of `phl_twt_teardown_for_sta_mode`, with the result so far. -/
def freeIfEmpty (bitmap : BitVec 8) (hal : Bool) (r : Status × Ring σ ρ) (i : ℕ) :
    Status × Ring σ ρ :=
  if bitmap.getLsbD i then freeTwtConfig r.2 (.ofNat i) hal else r

def teardownForStaMode (wrole : σ → ρ) (ring : Ring σ ρ) (sta : σ) (flow : FlowField)
    (r : Reply) : Status × Ring σ ρ :=
  let d := teardownSta wrole ring sta flow r.delMacid
  if d.error then (.failure, d.ring)
  else (List.range 8).foldl (freeIfEmpty d.bitmap r.infoDelete) (.success, d.ring)

/-! ### Accepting an agreement -/

/-- Whether the config has an entry for the station and the id, as `_twt_id_exist` looks it up. -/
def Config.hasId (c : Config σ ρ) (sta : σ) (wrole : ρ) (id : UInt8) (negoType : NegoType) : Bool :=
  decide (c.state ≠ .free) && decide (c.role = some wrole) && decide (negoType = c.negoType) &&
    (getStaInfo c.staQueue sta).any fun x => decide (id = x.id)

def idExist (wrole : σ → ρ) (ring : Ring σ ρ) (sta : σ) (id : UInt8) (negoType : NegoType) : Bool :=
  (List.finRange configNum).any fun i => (ring i).hasId sta (wrole sta) id negoType

/-- `struct rtw_phl_twt_setup_info`; the id is the flow id or that of the first broadcast
parameter set. -/
structure Setup where
  negoType : NegoType
  id : UInt8
  deriving DecidableEq

/-- Deletes the agreement that is to be replaced, and frees its config if nothing else is left. -/
def dropOld (wrole : σ → ρ) (ring : Ring σ ρ) (sta : σ) (setup : Setup) (r : Reply) : Ring σ ρ :=
  let d := deleteStaInfo wrole ring sta false setup.negoType setup.id r.delMacid
  match d.status, lowestBit d.bitmap with
  | .success, some i => (freeTwtConfig d.ring (.ofNat i) r.infoDelete).2
  | _, _ => d.ring

def acceptNew (wrole : σ → ρ) (ring : Ring σ ρ) (sta : σ) (setup : Setup) (r : Reply) :
    Status × Ring σ ρ :=
  match allocTwtConfig ring (wrole sta) setup.negoType true r.infoAdd with
  | (.success, ring, some i) =>
    match addStaInfo ring sta (.ofNat i.val) setup.id r.mem r.addMacid with
    | (.success, ring) => (.success, ring)
    | (ret, ring) => (ret, (freeTwtConfig ring (.ofNat i.val) r.infoDelete).2)
  | (ret, ring, _) => (ret, ring)

/-- The two functions that accept an agreement look for the old one under a type of their own. -/
def acceptBySta (wrole : σ → ρ) (type : NegoType) (ring : Ring σ ρ) (sta : σ) (setup : Setup)
    (r : Reply) : Status × Ring σ ρ :=
  acceptNew wrole
    (if idExist wrole ring sta setup.id type then dropOld wrole ring sta setup r else ring)
    sta setup r

def acceptIndivBySta (wrole : σ → ρ) (ring : Ring σ ρ) (sta : σ) (setup : Setup) (r : Reply) :
    Status × Ring σ ρ :=
  acceptBySta wrole .indivTwt ring sta setup r

def acceptBcastBySta (wrole : σ → ρ) (ring : Ring σ ρ) (sta : σ) (setup : Setup) (r : Reply) :
    Status × Ring σ ρ :=
  if r.tsf then acceptBySta wrole .bcastTwt ring sta setup r else (.failure, ring)

/-- `phl_twt_accept_for_sta_mode`; a packet is offloaded besides. -/
def acceptForStaMode (wrole : σ → ρ) (ring : Ring σ ρ) (sta : σ) (setup : Setup) (r : Reply) :
    Status × Ring σ ρ :=
  match setup.negoType with
  | .indivTwt => acceptIndivBySta wrole ring sta setup r
  | .wakeTbttInr => (.failure, ring)
  | .bcastTwt | .manageBcastTwt => acceptBcastBySta wrole ring sta setup r

/-! ### A new flow id -/

/-- `_twt_new_config_is_available`: a config is taken and freed again. -/
def newConfigIsAvailable (ring : Ring σ ρ) : Bool × Ring σ ρ :=
  match getNewConfig ring with
  | none => (false, ring)
  | some (i, ring) =>
    (true, update ring (ring i).twtId { ring (ring i).twtId with state := .free })

/-- The id of the station in the config, as `rtw_phl_twt_get_new_flow_id` finds it. -/
def Config.usedId (c : Config σ ρ) (sta : σ) (wrole : ρ) : Option UInt8 :=
  if c.state ≠ .free ∧ c.role = some wrole ∧ c.negoType = .indivTwt then
    (getStaInfo c.staQueue sta).map StaInfo.id
  else none

/-- `use_map` of `rtw_phl_twt_get_new_flow_id`: bits above 7 do not fit. -/
def useMap (wrole : σ → ρ) (ring : Ring σ ρ) (sta : σ) : BitVec 8 :=
  (List.finRange configNum).foldl
    (fun map i => ((ring i).usedId sta (wrole sta)).elim map fun id => map ||| 1#8 <<< id.toNat) 0

def getNewFlowId (wrole : σ → ρ) (ring : Ring σ ρ) (sta : σ) : Option ℕ × Ring σ ρ :=
  let (available, ring) := newConfigIsAvailable ring
  if available then (lowestBit (~~~useMap wrole ring sta), ring) else (none, ring)

end Rtl8831.Phl.Twt
