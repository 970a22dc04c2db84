import Rtl8831.Phl.TwtAccept

/-!
# Runs of calls on the table of agreements
-/

namespace Rtl8831.Phl.Twt

open Lib List Function

inductive Op (σ ρ : Type*)
  | allocTwtConfig (role : ρ) (negoType : NegoType) (enable hal : Bool)
  | freeTwtConfig (id : UInt8) (hal : Bool)
  | addStaInfo (sta : σ) (configId id : UInt8) (mem hal : Bool)
  | deleteAllStaInfo (sta : σ) (hal : Fin configNum → Bool)
  | teardownSta (sta : σ) (flow : FlowField) (hal : Fin configNum → Bool)
  | teardownForStaMode (sta : σ) (flow : FlowField) (r : Reply)
  | acceptForStaMode (sta : σ) (setup : Setup) (r : Reply)
  | getNewFlowId (sta : σ)

variable {σ ρ : Type*} [DecidableEq σ] [DecidableEq ρ]

/-- What `rtw_phl_twt_teardown_sta` deletes. -/
def flowTarget (wrole : σ → ρ) (sta : σ) (flow : FlowField) : Target σ ρ :=
  ⟨sta, wrole sta, some flow.negoType.agreementType, flow.deleteId⟩

/-- What `rtw_phl_twt_delete_all_sta_info` deletes. -/
def allTarget (wrole : σ → ρ) (sta : σ) : Target σ ρ := ⟨sta, wrole sta, none, deleteAll⟩

def Setup.Considered (setup : Setup) (r : Reply) : Prop :=
  setup.negoType = .indivTwt ∨ (setup.negoType ≠ .wakeTbttInr ∧ r.tsf = true)

namespace World

def init : World σ ρ := ⟨fun _ => {}, fun _ => false⟩

def release (handed : Fin configNum → Bool) (id : UInt8) (i : Fin configNum) : Bool :=
  handed i && decide (i.val ≠ id.toNat)

def step (wrole : σ → ρ) (w : World σ ρ) : Op σ ρ → World σ ρ
  | .allocTwtConfig role negoType enable hal =>
    match allocTwtConfig w.ring role negoType enable hal with
    | (.success, ring, some i) => ⟨ring, update w.handed i true⟩
    | (_, ring, _) => ⟨ring, w.handed⟩
  | .freeTwtConfig id hal => ⟨(freeTwtConfig w.ring id hal).2, release w.handed id⟩
  | .addStaInfo sta configId id mem hal =>
    match addStaInfo w.ring sta configId id mem hal with
    | (.success, ring) => ⟨ring, release w.handed configId⟩
    | (_, ring) => ⟨ring, w.handed⟩
  | .deleteAllStaInfo sta hal =>
    let d := deleteAllStaInfo wrole w.ring sta hal
    ⟨d.ring, take w.handed d.bitmap⟩
  | .teardownSta sta flow hal =>
    let d := teardownSta wrole w.ring sta flow hal
    ⟨d.ring, take w.handed d.bitmap⟩
  | .teardownForStaMode sta flow r =>
    ⟨(teardownForStaMode wrole w.ring sta flow r).2, w.handed⟩
  | .acceptForStaMode sta setup r => ⟨(acceptForStaMode wrole w.ring sta setup r).2, w.handed⟩
  | .getNewFlowId sta => ⟨(getNewFlowId wrole w.ring sta).2, w.handed⟩

/-! ### The conditions -/

/-- The condition of a teardown: the agreements that it names have the type that is looked for,
and if all are meant only one is the station's in each config. -/
def TeardownOk (ring : Ring σ ρ) (sta : σ) (flow : FlowField) : Prop :=
  flow.negoType ≠ .bcastTwt → ∀ i, (∃ x ∈ (ring i).staQueue, x.isFor sta flow.deleteId = true) →
    (ring i).negoType.agreementType = flow.negoType.agreementType →
      (ring i).negoType = flow.negoType.agreementType ∧
        (flow.deleteId = deleteAll → (ring i).Single sta)

/-- What the driver does not guard against.  A new config can be enabled, if that is asked for; a
station is added to a config of its role under an id that it does not have for this type of
agreement; entries are deleted where a station has one in each config; a teardown that frees the
configs empties none of them if the HAL refuses a part of it. -/
def Ok (wrole : σ → ρ) (w : World σ ρ) : Op σ ρ → Prop
  | .allocTwtConfig _ _ enable hal => enable = true → (∃ i, (w.ring i).state = .free) → hal = true
  | .freeTwtConfig _ _ => True
  | .addStaInfo sta configId id _ _ => ∀ i, getConfigById w.ring configId = some i →
      id ≠ deleteAll ∧ (w.ring i).role = some (wrole sta) ∧
        ∀ j, ¬ (w.ring j).Holds sta (w.ring i).negoType id
  | .deleteAllStaInfo sta _ => ∀ i, (w.ring i).Single sta
  | .teardownSta sta flow _ => TeardownOk w.ring sta flow
  | .teardownForStaMode sta flow r => TeardownOk w.ring sta flow ∧
      (flow.negoType ≠ .bcastTwt →
        (∃ i, (flowTarget wrole sta flow).selects (w.ring i) = true ∧ r.delMacid i = false) →
          ∀ i, ¬ (flowTarget wrole sta flow).Empties r.delMacid w.ring i)
  | .acceptForStaMode sta setup r => setup.Considered r → AcceptOk w.ring sta setup r
  | .getNewFlowId sta => ∀ i, (w.ring i).negoType = .indivTwt → (w.ring i).Single sta

/-! ### The promises -/

/-- Each agreement is in at most one config, and only once; and a config is in use while an
agreement refers to it, or its caller has it without one. -/
structure Orderly (w : World σ ρ) : Prop where
  unique : ∀ i j sta type id, (w.ring i).Holds sta type id → (w.ring j).Holds sta type id → i = j
  once : ∀ i, (w.ring i).staQueue.Nodup
  inUse : ∀ i, (w.ring i).state ≠ .free ↔
    (∃ sta type id, (w.ring i).Holds sta type id) ∨ w.handed i = true
  empty : ∀ i, w.handed i = true → (w.ring i).staQueue = []

def Same (ring ring' : Ring σ ρ) : Prop := ∀ i, (ring' i).view = (ring i).view

def TornDown (ring' : Ring σ ρ) (sta : σ) (flow : FlowField) : Prop :=
  ∀ i, (ring' i).negoType.agreementType = flow.negoType.agreementType →
    ∀ x ∈ (ring' i).staQueue, ¬ x.isFor sta flow.deleteId = true

/-- What a call promises: an allocation that fails changes nothing; an accept that fails changes
nothing but for the agreement that was to be replaced; what is asked for is torn down; and the
flow id that is returned is new. -/
def Kept (wrole : σ → ρ) (w : World σ ρ) : Op σ ρ → Prop
  | .allocTwtConfig role negoType enable hal =>
    (allocTwtConfig w.ring role negoType enable hal).1 ≠ .success →
      Same w.ring (allocTwtConfig w.ring role negoType enable hal).2.1
  | .freeTwtConfig _ _ => True
  | .addStaInfo sta configId id mem hal =>
    (addStaInfo w.ring sta configId id mem hal).1 ≠ .success →
      Same w.ring (addStaInfo w.ring sta configId id mem hal).2
  | .deleteAllStaInfo sta hal =>
    (∀ i, ∀ x ∈ ((deleteAllStaInfo wrole w.ring sta hal).ring i).staQueue,
      x.sta = sta → hal i = false) ∧
    ((deleteAllStaInfo wrole w.ring sta hal).status = .success →
      ∀ i, ∀ x ∈ ((deleteAllStaInfo wrole w.ring sta hal).ring i).staQueue, x.sta ≠ sta)
  | .teardownSta sta flow hal => (teardownSta wrole w.ring sta flow hal).status = .success →
      TornDown (teardownSta wrole w.ring sta flow hal).ring sta flow
  | .teardownForStaMode sta flow r => (teardownForStaMode wrole w.ring sta flow r).1 = .success →
      TornDown (teardownForStaMode wrole w.ring sta flow r).2 sta flow
  | .acceptForStaMode sta setup r =>
    ((acceptForStaMode wrole w.ring sta setup r).1 = .success →
      Accepted wrole w.ring sta setup (acceptForStaMode wrole w.ring sta setup r).2) ∧
    ((acceptForStaMode wrole w.ring sta setup r).1 ≠ .success →
      (∀ i, ((acceptForStaMode wrole w.ring sta setup r).2 i).view =
        without w.ring sta setup i) ∨ Same w.ring (acceptForStaMode wrole w.ring sta setup r).2)
  | .getNewFlowId sta => Same w.ring (getNewFlowId wrole w.ring sta).2 ∧
      ∀ n, (getNewFlowId wrole w.ring sta).1 = some n →
        n < 8 ∧ ∀ i, ¬ (w.ring i).Holds sta .indivTwt (.ofNat n)

def Right (wrole : σ → ρ) (w : World σ ρ) (op : Op σ ρ) : Prop :=
  (w.step wrole op).Orderly ∧ w.Kept wrole op

variable {wrole : σ → ρ} {ring : Ring σ ρ} {handed : Fin configNum → Bool} {i : Fin configNum}
  {sta : σ} {id : UInt8} {flow : FlowField} {hal : Fin configNum → Bool} {r : Reply} {w : World σ ρ}

omit [DecidableEq σ] [DecidableEq ρ] in
lemma inv_init : (init : World σ ρ).Inv wrole where
  sound _ := .of_free rfl rfl
  unique _ _ _ hi := absurd hi not_mem_nil

omit [DecidableEq σ] [DecidableEq ρ] in
lemma Inv.orderly (h : w.Inv wrole) : w.Orderly where
  unique i j sta type id hi hj := h.unique i j _ hi.1 hj.1 (hi.2.trans hj.2.symm)
  once i := (h.sound i).nodup
  inUse i := by
    rw [(h.sound i).inUse]
    refine or_congr_left ⟨fun hq => ?_, ?_⟩
    · obtain ⟨x, hx⟩ := exists_mem_of_ne_nil _ hq
      exact ⟨x.sta, (w.ring i).negoType, x.id, hx, rfl⟩
    · rintro ⟨sta, type, id, hx, -⟩
      exact ne_nil_of_mem hx
  empty i := (h.sound i).empty

omit [DecidableEq σ] [DecidableEq ρ] in
lemma release_of_some (h : getConfigById ring id = some i) :
    release handed id = update handed i false := by
  obtain ⟨hid, -⟩ := getConfigById_eq_some.1 h
  funext j
  by_cases hj : j = i
  · subst hj
    simp [release, hid]
  · have hne : j.val ≠ id.toNat := fun hc => hj (Fin.ext (hc.trans hid.symm))
    rw [update_of_ne hj, release, decide_eq_true hne, Bool.and_true]

omit [DecidableEq σ] [DecidableEq ρ] in
lemma Inv.release_of_none (h : Inv wrole ⟨ring, handed⟩) (hnone : getConfigById ring id = none) :
    release handed id = handed := by
  funext j
  by_cases hj : j.val = id.toNat
  · have hfree : (ring j).state = .free := by
      by_contra hne
      rw [getConfigById_eq_some.2 ⟨hj, hne⟩] at hnone
      exact nomatch hnone
    rw [release, h.not_handed hfree, Bool.false_and]
  · rw [release, decide_eq_true hj, Bool.and_true]

/-! ### Configs -/

omit [DecidableEq σ] [DecidableEq ρ] in
lemma Inv.free (h : Inv wrole ⟨ring, handed⟩) (id : UInt8) (hal : Bool) :
    Inv wrole ⟨(freeTwtConfig ring id hal).2, release handed id⟩ := by
  cases hget : getConfigById ring id with
  | none =>
    rw [freeTwtConfig_none hget, h.release_of_none hget]
    exact h
  | some i =>
    rw [freeTwtConfig_some hget, release_of_some hget]
    exact h.update_empty (sound_freed _) rfl

lemma Inv.step_alloc (h : Inv wrole ⟨ring, handed⟩) {role : ρ} {negoType : NegoType}
    {enable hal : Bool}
    (hok : Ok wrole ⟨ring, handed⟩ (.allocTwtConfig role negoType enable hal)) :
    (step wrole ⟨ring, handed⟩ (.allocTwtConfig role negoType enable hal)).Inv wrole ∧
      Kept wrole ⟨ring, handed⟩ (.allocTwtConfig role negoType enable hal) := by
  cases hf : freeConfig? ring with
  | none =>
    rw [step, Kept, allocTwtConfig_full hf]
    exact ⟨h, fun _ _ => rfl⟩
  | some i =>
    have hfree := free_of_freeConfig? hf
    have hstate : (if enable then ConfigState.enable else .idle) ≠ .free := by
      cases enable <;> exact fun hc => ConfigState.noConfusion hc
    rw [step, Kept, allocTwtConfig_done hf role negoType fun he => hok he ⟨i, hfree⟩]
    exact ⟨h.taken hfree role negoType hstate, fun hc => absurd rfl hc⟩

lemma Inv.step_add (h : Inv wrole ⟨ring, handed⟩) {configId : UInt8} {mem hal : Bool}
    (hok : Ok wrole ⟨ring, handed⟩ (.addStaInfo sta configId id mem hal)) :
    (step wrole ⟨ring, handed⟩ (.addStaInfo sta configId id mem hal)).Inv wrole ∧
      Kept wrole ⟨ring, handed⟩ (.addStaInfo sta configId id mem hal) := by
  cases hget : getConfigById ring configId with
  | none =>
    rw [step, Kept, addStaInfo_none hget]
    exact ⟨h, fun _ _ => rfl⟩
  | some i =>
    obtain ⟨hid, hrole, hnew⟩ := hok i hget
    by_cases hadd : (mem && hal) = true
    · obtain ⟨rfl, rfl⟩ := Bool.and_eq_true_iff.1 hadd
      rw [step, Kept, addStaInfo_done hget]
      dsimp only
      rw [release_of_some hget]
      exact ⟨h.add (getConfigById_eq_some.1 hget).2 hrole hnew, fun hc => absurd rfl hc⟩
    · rw [step, Kept, addStaInfo_refused hid (fun hc => hnew i ⟨hc, rfl⟩) hget
        (Bool.eq_false_iff.2 hadd)]
      exact ⟨h, fun _ _ => rfl⟩

/-! ### Teardown -/

lemma isFor_deleteAll {x : StaInfo σ} : x.isFor sta deleteAll = true ↔ sta = x.sta := by
  rw [isFor_iff]
  exact and_iff_left (.inl rfl)

omit [DecidableEq σ] [DecidableEq ρ] in
lemma status_success {d : Deleted σ ρ} : d.status = .success ↔ d.error = false := by
  rw [Deleted.status]
  cases d.error <;> decide

lemma Inv.step_deleteAll (h : Inv wrole ⟨ring, handed⟩)
    (hok : ∀ i, (ring i).Single sta) :
    (step wrole ⟨ring, handed⟩ (.deleteAllStaInfo sta hal)).Inv wrole ∧
      Kept wrole ⟨ring, handed⟩ (.deleteAllStaInfo sta hal) := by
  have hg : (allTarget wrole sta).type = none → (allTarget wrole sta).id = deleteAll :=
    fun _ => rfl
  have hleft : ∀ i, ∀ x ∈ ((deleteAllStaInfo wrole ring sta hal).ring i).staQueue,
      x.sta = sta → hal i = false := by
    intro i x hx hsta
    refine h.delete_none_left hg rfl (fun y hy z hz hyfor hzfor => ?_) (fun _ hc => nomatch hc) hx
      (isFor_deleteAll.2 hsta.symm)
    exact hok i y hy z hz (isFor_deleteAll.1 hyfor).symm (isFor_deleteAll.1 hzfor).symm
  refine ⟨h.delete hg, hleft, fun hret i x hx hsta => ?_⟩
  have hmem : x ∈ (ring i).staQueue := by
    have hring : (deleteAllStaInfo wrole ring sta hal).ring i = (allTarget wrole sta).left hal ring i :=
      deleteTarget_ring (h.once hg) (fun i => h.twtId_of_selects) i
    rw [hring] at hx
    exact (left_sub h i hx).1
  have hs := h.sound i
  have hsel : (allTarget wrole sta).selects (ring i) = true := selects_iff.2
    ⟨hs.not_free_of_mem hmem, by rw [allTarget, ← hsta]; exact hs.role x hmem,
      fun _ hc => (nomatch hc), x, hmem, isFor_deleteAll.2 hsta.symm⟩
  have herror : (deleteAllStaInfo wrole ring sta hal).error = true :=
    (deleteTarget_error (h.once hg) fun i => h.twtId_of_selects).2 ⟨i, hsel, hleft i x hx hsta⟩
  exact Bool.false_ne_true ((status_success.1 hret).symm.trans herror)

lemma teardownSta_of_ne (hflow : flow.negoType ≠ .bcastTwt) :
    teardownSta wrole ring sta flow hal = deleteTarget ring (flowTarget wrole sta flow) hal :=
  if_neg hflow

lemma teardownSta_bcast (hflow : flow.negoType = .bcastTwt) :
    teardownSta wrole ring sta flow hal = ⟨ring, 0, true⟩ :=
  if_pos hflow

omit [DecidableEq σ] [DecidableEq ρ] in
lemma take_zero : take handed 0 = handed := by
  funext i
  simp [take]

lemma Inv.tornDown (h : Inv wrole ⟨ring, handed⟩) (hok : TeardownOk ring sta flow)
    (hflow : flow.negoType ≠ .bcastTwt)
    (herror : (deleteTarget ring (flowTarget wrole sta flow) hal).error = false) :
    TornDown (deleteTarget ring (flowTarget wrole sta flow) hal).ring sta flow := by
  have hg : (flowTarget wrole sta flow).type = none →
      (flowTarget wrole sta flow).id = deleteAll := fun hc => nomatch hc
  intro i htype x hx hfor
  have hring : (deleteTarget ring (flowTarget wrole sta flow) hal).ring i =
      (flowTarget wrole sta flow).left hal ring i :=
    deleteTarget_ring (h.once hg) (fun i => h.twtId_of_selects) i
  obtain ⟨hmem, hnego⟩ : x ∈ (ring i).staQueue ∧
      ((deleteTarget ring (flowTarget wrole sta flow) hal).ring i).negoType =
        (ring i).negoType := by
    rw [hring] at hx ⊢
    exact left_sub h i hx
  rw [hnego] at htype
  obtain ⟨hvisible, hsingle⟩ := hok hflow i ⟨x, hmem, hfor⟩ htype
  have hsome : ∀ type, (flowTarget wrole sta flow).type = some type → (ring i).negoType = type := by
    rintro _ ⟨⟩
    exact hvisible
  have hone : ∀ y ∈ (ring i).staQueue, ∀ z ∈ (ring i).staQueue,
      y.isFor sta flow.deleteId = true → z.isFor sta flow.deleteId = true → y = z := by
    intro y hy z hz hyfor hzfor
    by_cases hall : flow.deleteId = deleteAll
    · exact hsingle hall y hy z hz (isFor_iff.1 hyfor).1.symm (isFor_iff.1 hzfor).1.symm
    · rw [(isFor_single hall).1 hyfor, (isFor_single hall).1 hzfor]
  have hrefused : hal i = false := h.delete_none_left hg rfl hone hsome hx hfor
  have hs := h.sound i
  have hsel : (flowTarget wrole sta flow).selects (ring i) = true := selects_iff.2
    ⟨hs.not_free_of_mem hmem, by
      rw [flowTarget, (isFor_iff.1 hfor).1]
      exact hs.role x hmem, hsome, x, hmem, hfor⟩
  rw [(deleteTarget_error (h.once hg) fun i => h.twtId_of_selects).2 ⟨i, hsel, hrefused⟩] at herror
  exact Bool.false_ne_true herror.symm

lemma Inv.step_teardown (h : Inv wrole ⟨ring, handed⟩) (hok : TeardownOk ring sta flow) :
    (step wrole ⟨ring, handed⟩ (.teardownSta sta flow hal)).Inv wrole ∧
      Kept wrole ⟨ring, handed⟩ (.teardownSta sta flow hal) := by
  by_cases hflow : flow.negoType = .bcastTwt
  · rw [step, Kept, teardownSta_bcast hflow]
    refine ⟨?_, fun hc => Status.noConfusion hc⟩
    dsimp only
    rw [take_zero]
    exact h
  · rw [step, Kept, teardownSta_of_ne hflow]
    exact ⟨h.delete fun hc => (nomatch hc), fun hret => h.tornDown hok hflow (status_success.1 hret)⟩

lemma Inv.step_teardownFree (h : Inv wrole ⟨ring, handed⟩)
    (hok : Ok wrole ⟨ring, handed⟩ (.teardownForStaMode sta flow r)) :
    (step wrole ⟨ring, handed⟩ (.teardownForStaMode sta flow r)).Inv wrole ∧
      Kept wrole ⟨ring, handed⟩ (.teardownForStaMode sta flow r) := by
  obtain ⟨hteardown, hpart⟩ := hok
  by_cases hflow : flow.negoType = .bcastTwt
  · rw [step, Kept, teardownForStaMode, teardownSta_bcast hflow]
    exact ⟨h, fun hc => Status.noConfusion hc⟩
  · have hg : (flowTarget wrole sta flow).type = none →
        (flowTarget wrole sta flow).id = deleteAll := fun hc => nomatch hc
    have hd : Inv wrole ⟨(deleteTarget ring (flowTarget wrole sta flow) r.delMacid).ring,
        take handed (deleteTarget ring (flowTarget wrole sta flow) r.delMacid).bitmap⟩ :=
      h.delete hg
    have hbits := @deleteTarget_bitmap _ _ _ _ ring (flowTarget wrole sta flow) r.delMacid
      (h.once hg) fun i => h.twtId_of_selects
    have herror := @deleteTarget_error _ _ _ _ ring (flowTarget wrole sta flow) r.delMacid
      (h.once hg) fun i => h.twtId_of_selects
    have htorn : (deleteTarget ring (flowTarget wrole sta flow) r.delMacid).error = false →
        TornDown (deleteTarget ring (flowTarget wrole sta flow) r.delMacid).ring sta flow :=
      h.tornDown hteardown hflow
    have hempties : ∀ i, (flowTarget wrole sta flow).Empties r.delMacid ring i →
        handed i = false := by
      rintro i ⟨hsel, -, -⟩
      obtain ⟨-, -, -, x, hx, -⟩ := selects_iff.1 hsel
      exact (h.sound i).not_handed_of_mem hx
    rw [step, Kept, teardownForStaMode, teardownSta_of_ne hflow]
    generalize deleteTarget ring (flowTarget wrole sta flow) r.delMacid = d at *
    by_cases he : d.error = true
    · have hhanded : take handed d.bitmap = handed := by
        funext j
        have hno : d.bitmap.getLsbD j.val = false := by
          rw [Bool.eq_false_iff, Ne, hbits]
          rintro ⟨k, -, hk⟩
          exact hpart hflow (herror.1 he) k hk
        rw [take, hno, Bool.or_false]
      dsimp only
      rw [if_pos he]
      refine ⟨?_, fun hc => Status.noConfusion hc⟩
      rwa [hhanded] at hd
    · have hused : ∀ n, d.bitmap.getLsbD n = true → ∃ j : Fin configNum, j.val = n ∧
          (d.ring j).state ≠ .free := by
        intro n hn
        obtain ⟨j, rfl, -⟩ := (hbits n).1 hn
        have hheld : take handed d.bitmap j = true := by rw [take, hn, Bool.or_true]
        exact ⟨j, rfl, (hd.sound j).inUse.2 (.inr hheld)⟩
      have hloop := @freeIfEmpty_loop _ _ d.ring d.bitmap r.infoDelete _
        (nodup_range (n := 8)) hused
      dsimp only
      rw [if_neg he]
      generalize (range 8).foldl (freeIfEmpty d.bitmap r.infoDelete) (.success, d.ring) =
        res at hloop ⊢
      have hsub : ∀ j, ∀ x ∈ (res.2 j).staQueue,
          x ∈ (d.ring j).staQueue ∧ (res.2 j).negoType = (d.ring j).negoType := by
        intro j x hx
        rw [hloop] at hx ⊢
        by_cases hc : j.val ∈ range 8 ∧ d.bitmap.getLsbD j.val = true
        · rw [if_pos hc] at hx
          exact absurd hx not_mem_nil
        · rw [if_neg hc] at hx ⊢
          exact ⟨hx, rfl⟩
      refine ⟨hd.shrink (fun j => ?_) hsub, fun _ i htype x hx => ?_⟩
      · have hj : j.val ∈ range 8 :=
          mem_range.2 (Nat.lt_of_lt_of_le j.isLt (by decide))
        rw [hloop]
        by_cases hbit : d.bitmap.getLsbD j.val = true
        · obtain ⟨k, hk, hk'⟩ := (hbits j.val).1 hbit
          obtain rfl : k = j := Fin.ext hk
          rw [if_pos ⟨hj, hbit⟩, hempties k hk']
          exact sound_freed _
        · have hsame : take handed d.bitmap j = handed j := by
            rw [take, Bool.eq_false_iff.2 hbit, Bool.or_false]
          rw [if_neg fun hc => hbit hc.2, ← hsame]
          exact hd.sound j
      · obtain ⟨hmem, hnego⟩ := hsub i x hx
        exact htorn (Bool.eq_false_iff.2 he) i (by rw [← hnego]; exact htype) x hmem

/-! ### Accepting -/

variable {setup : Setup}

lemma acceptForStaMode_of_considered (hc : setup.Considered r) :
    acceptForStaMode wrole ring sta setup r =
      acceptBySta wrole setup.negoType.agreementType ring sta setup r := by
  unfold acceptForStaMode
  cases hnego : setup.negoType with
  | indivTwt => rfl
  | wakeTbttInr =>
    rcases hc with hindiv | ⟨hwake, -⟩
    · exact nomatch hnego.symm.trans hindiv
    · exact absurd hnego hwake
  | bcastTwt =>
    rcases hc with hindiv | ⟨-, htsf⟩
    · exact nomatch hnego.symm.trans hindiv
    · exact if_pos htsf
  | manageBcastTwt =>
    rcases hc with hindiv | ⟨-, htsf⟩
    · exact nomatch hnego.symm.trans hindiv
    · exact if_pos htsf

lemma acceptForStaMode_of_not (hc : ¬ setup.Considered r) :
    acceptForStaMode wrole ring sta setup r = (.failure, ring) := by
  unfold acceptForStaMode
  cases hnego : setup.negoType with
  | indivTwt => exact absurd (.inl hnego) hc
  | wakeTbttInr => rfl
  | bcastTwt => exact if_neg fun htsf => hc (.inr ⟨by rw [hnego]; decide, htsf⟩)
  | manageBcastTwt => exact if_neg fun htsf => hc (.inr ⟨by rw [hnego]; decide, htsf⟩)

lemma Inv.step_accept (h : Inv wrole ⟨ring, handed⟩) {setup : Setup}
    (hok : setup.Considered r → AcceptOk ring sta setup r) :
    (step wrole ⟨ring, handed⟩ (.acceptForStaMode sta setup r)).Inv wrole ∧
      Kept wrole ⟨ring, handed⟩ (.acceptForStaMode sta setup r) := by
  by_cases hc : setup.Considered r
  · obtain ⟨hinv, haccepted, hfailed⟩ := h.accept (hok hc)
    rw [step, Kept, acceptForStaMode_of_considered hc]
    exact ⟨hinv, haccepted, fun hret => .inl (hfailed hret)⟩
  · rw [step, Kept, acceptForStaMode_of_not hc]
    exact ⟨h, fun hret => Status.noConfusion hret, fun _ => .inr fun _ => rfl⟩

/-! ### A new flow id -/

omit [DecidableEq σ] [DecidableEq ρ] in
lemma newConfigIsAvailable_ring (h : Inv wrole ⟨ring, handed⟩) :
    Inv wrole ⟨(newConfigIsAvailable ring).2, handed⟩ ∧
      ∀ i, (newConfigIsAvailable ring).2 i = ring i ∨
        ((newConfigIsAvailable ring).2 i).state = .free ∧ (ring i).state = .free := by
  cases hf : freeConfig? ring with
  | none =>
    have hstep : newConfigIsAvailable ring = (false, ring) := by
      simp [newConfigIsAvailable, getNewConfig, hf]
    rw [hstep]
    exact ⟨h, fun i => .inl rfl⟩
  | some i =>
    have hstep : newConfigIsAvailable ring = (true, update ring i
        { (ring i).renew i with state := .free }) := by
      have htwt : ((ring i).renew i).twtId = i := rfl
      simp [newConfigIsAvailable, getNewConfig, hf, htwt]
    have hfree := free_of_freeConfig? hf
    have hq : (ring i).staQueue = [] := (h.sound i).free hfree
    rw [hstep]
    constructor
    · have hrenewed := h.update_empty (i := i)
        (c := { (ring i).renew i with state := .free }) (.of_free rfl hq) hq
      rwa [← h.not_handed hfree, update_eq_self] at hrenewed
    · intro j
      dsimp only
      by_cases hj : j = i
      · subst hj
        rw [update_self]
        exact .inr ⟨rfl, hfree⟩
      · rw [update_of_ne hj]
        exact .inl rfl

lemma useMap_bit {n : ℕ} (hn : n < 8) (hused : ∃ i id, (ring i).usedId sta (wrole sta) = some id ∧
    id.toNat = n) : (useMap wrole ring sta).getLsbD n = true := by
  obtain ⟨i, id, hid, rfl⟩ := hused
  have hloop : ∀ (l : List (Fin configNum)) (map : BitVec 8),
      map.getLsbD id.toNat = true ∨ i ∈ l →
      (l.foldl (fun map i => ((ring i).usedId sta (wrole sta)).elim map fun id =>
        map ||| 1#8 <<< id.toNat) map).getLsbD id.toNat = true := by
    intro l
    induction l with
    | nil =>
      rintro map (hmap | hmem)
      · exact hmap
      · exact absurd hmem not_mem_nil
    | cons j l ih =>
      intro map hmap
      rw [foldl_cons]
      apply ih
      by_cases hj : i = j
      · subst hj
        rw [hid]
        exact .inl (bit_iff.2 (.inr ⟨hn, rfl⟩))
      · rcases hmap with hmap | hmem
        · refine .inl ?_
          cases (ring j).usedId sta (wrole sta) with
          | none => exact hmap
          | some id' => exact bit_iff.2 (.inl hmap)
        · exact .inr ((mem_cons.1 hmem).resolve_left hj)
  exact hloop _ _ (.inr (mem_finRange i))

lemma lowestBit_spec {bitmap : BitVec 8} {n : ℕ} (h : lowestBit bitmap = some n) :
    n < 8 ∧ bitmap.getLsbD n = true := by
  rw [lowestBit, find?_range_eq_some] at h
  exact ⟨mem_range.1 h.2.1, h.1⟩

lemma agreementType_indiv {type : NegoType} (h : type.agreementType = .indivTwt) :
    type = .indivTwt := by
  cases type with
  | indivTwt => rfl
  | wakeTbttInr => exact nomatch h
  | bcastTwt => exact nomatch h
  | manageBcastTwt => exact nomatch h

lemma usedId_of_holds (h : Inv wrole ⟨ring, handed⟩)
    (hsingle : (ring i).negoType = .indivTwt → (ring i).Single sta)
    (hholds : (ring i).Holds sta .indivTwt id) : (ring i).usedId sta (wrole sta) = some id := by
  have hs := h.sound i
  have hnego := agreementType_indiv hholds.2
  have hfound : getStaInfo (ring i).staQueue sta = some ⟨sta, id⟩ := by
    cases hget : getStaInfo (ring i).staQueue sta with
    | none =>
      have hnot := find?_eq_none.1 hget _ hholds.1
      exact absurd (decide_eq_true rfl) hnot
    | some x =>
      obtain ⟨hmem, hsta⟩ := getStaInfo_mem hget
      rw [hsingle hnego x hmem _ hholds.1 hsta.symm rfl]
  rw [Config.usedId, if_pos ⟨hs.not_free_of_mem hholds.1, hs.role _ hholds.1, hnego⟩, hfound]
  rfl

lemma Inv.step_newFlowId (h : Inv wrole ⟨ring, handed⟩)
    (hok : ∀ i, (ring i).negoType = .indivTwt → (ring i).Single sta) :
    (step wrole ⟨ring, handed⟩ (.getNewFlowId sta)).Inv wrole ∧
      Kept wrole ⟨ring, handed⟩ (.getNewFlowId sta) := by
  obtain ⟨hinv, hring⟩ := newConfigIsAvailable_ring h
  have hstep : getNewFlowId wrole ring sta =
      (if (newConfigIsAvailable ring).1 = true then
        lowestBit (~~~useMap wrole (newConfigIsAvailable ring).2 sta) else none,
        (newConfigIsAvailable ring).2) := by
    unfold getNewFlowId
    by_cases ha : (newConfigIsAvailable ring).1 = true
    · simp [ha]
    · simp [ha]
  rw [step, Kept, hstep]
  refine ⟨hinv, fun i => ?_, fun n hn => ?_⟩
  · rcases hring i with heq | ⟨hfree', hfree⟩
    · rw [heq]
    · rw [Config.view_eq_none.2 hfree', Config.view_eq_none.2 hfree]
  · dsimp only at hn
    by_cases ha : (newConfigIsAvailable ring).1 = true
    · rw [if_pos ha] at hn
      obtain ⟨hlt, hbit⟩ := lowestBit_spec hn
      refine ⟨hlt, fun i hholds => ?_⟩
      have hsame : (newConfigIsAvailable ring).2 i = ring i :=
        (hring i).resolve_right fun hc => (h.sound i).not_free_of_mem hholds.1 hc.2
      have hused := usedId_of_holds h (hok i) hholds
      have hin := @useMap_bit _ _ _ _ wrole (newConfigIsAvailable ring).2 sta n hlt
        ⟨i, .ofNat n, by rw [hsame]; exact hused, by
          rw [UInt8.toNat_ofNat']
          exact Nat.mod_eq_of_lt (Nat.lt_trans hlt (by decide))⟩
      rw [BitVec.getLsbD_not, hin, Bool.not_true, Bool.and_false] at hbit
      exact Bool.false_ne_true hbit
    · rw [if_neg ha] at hn
      exact nomatch hn

/-! ### Runs -/

lemma Inv.step (h : w.Inv wrole) {op : Op σ ρ} (hok : w.Ok wrole op) :
    (w.step wrole op).Inv wrole ∧ w.Kept wrole op := by
  cases op with
  | allocTwtConfig role negoType enable hal => exact Inv.step_alloc h hok
  | freeTwtConfig id hal => exact ⟨Inv.free h id hal, trivial⟩
  | addStaInfo sta configId id mem hal => exact Inv.step_add h hok
  | deleteAllStaInfo sta hal => exact Inv.step_deleteAll h hok
  | teardownSta sta flow hal => exact Inv.step_teardown h hok
  | teardownForStaMode sta flow r => exact Inv.step_teardownFree h hok
  | acceptForStaMode sta setup r => exact Inv.step_accept h hok
  | getNewFlowId sta => exact Inv.step_newFlowId h hok

/-- In every run of calls that stay clear of what the driver does not guard against, the table is
in order after each call, and the call does what it promises. -/
theorem twt_table_orderly (wrole : σ → ρ) (ops : List (Op σ ρ))
    (h : Guarded (World.step wrole) (Ok wrole) init ops) :
    (run (World.step wrole) init ops).Orderly ∧
      Guarded (World.step wrole) (Right wrole) init ops := by
  have hstep : ∀ (w : World σ ρ) op, w.Inv wrole → w.Ok wrole op →
      (w.step wrole op).Inv wrole := fun _ _ hw hok => (hw.step hok).1
  have hright : ∀ (w : World σ ρ) op, w.Inv wrole → w.Ok wrole op → w.Right wrole op :=
    fun _ _ hw hok => ⟨(hw.step hok).1.orderly, (hw.step hok).2⟩
  exact ⟨(Guarded.invariant hstep inv_init h).orderly, Guarded.steps hstep hright inv_init h⟩

def acceptedRun : List (Op Bool Unit) :=
  [.acceptForStaMode true ⟨.indivTwt, 0⟩ {}, .getNewFlowId true,
    .deleteAllStaInfo true fun _ => true, .freeTwtConfig 0 true]

theorem twt_table_orderly_accepted :
    (run (World.step fun _ => ()) init acceptedRun).Orderly ∧
      Guarded (World.step fun _ => ()) (Right fun _ => ()) init acceptedRun := by
  refine twt_table_orderly (fun _ => ()) acceptedRun ⟨?_, ?_, ?_, trivial, trivial⟩
  · exact fun _ => ⟨by decide, by decide, fun _ => rfl⟩
  · unfold Ok Config.Single
    decide
  · unfold Ok Config.Single
    decide

/-- A config that was only allocated is in use without an agreement. -/
theorem twt_config_without_agreement :
    ¬ ∀ (ops : List (Op Bool Unit)) i, ((run (World.step fun _ => ()) init ops).ring i).state ≠
      .free ↔ ∃ sta type id, ((run (World.step fun _ => ()) init ops).ring i).Holds sta type id := by
  intro h
  obtain ⟨sta, type, id, hmem, -⟩ := (h [.allocTwtConfig () .indivTwt true true] 0).1 (by decide)
  exact not_mem_nil hmem

end World

end Rtl8831.Phl.Twt
