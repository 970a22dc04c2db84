import Rtl8831.Phl.TwtDelete

/-!
# What the calls do to the table of agreements
-/

namespace Rtl8831.Phl.Twt

variable {σ ρ : Type*} {wrole : σ → ρ} {ring ring' : Ring σ ρ}
  {handed : Fin configNum → Bool} {i : Fin configNum} {sta : σ} {id : UInt8}

@[simp] lemma agreementType_idem (type : NegoType) :
    type.agreementType.agreementType = type.agreementType := by
  cases type <;> rfl

lemma getConfigById_eq_some :
    getConfigById ring id = some i ↔ i.val = id.toNat ∧ (ring i).state ≠ .free := by
  unfold getConfigById
  by_cases h : id.toNat < configNum
  · rw [dif_pos h]
    by_cases hf : (ring ⟨id.toNat, h⟩).state = .free
    · rw [if_pos hf]
      refine iff_of_false (fun hc => nomatch hc) ?_
      rintro ⟨hi, hne⟩
      obtain rfl : i = ⟨id.toNat, h⟩ := Fin.ext hi
      exact hne hf
    · rw [if_neg hf, Option.some_inj]
      constructor
      · rintro rfl
        exact ⟨rfl, hf⟩
      · rintro ⟨hi, -⟩
        exact Fin.ext hi.symm
  · rw [dif_neg h]
    refine iff_of_false (fun hc => nomatch hc) fun hc => h ?_
    rw [← hc.1]
    exact i.isLt

lemma toNat_ofNat_val (i : Fin configNum) : (UInt8.ofNat i.val).toNat = i.val := by
  have h : i.val < 4 := i.isLt
  rw [UInt8.toNat_ofNat']
  omega

lemma getConfigById_val (h : (ring i).state ≠ .free) :
    getConfigById ring (.ofNat i.val) = some i :=
  getConfigById_eq_some.2 ⟨(toNat_ofNat_val i).symm, h⟩

lemma free_of_freeConfig? (h : freeConfig? ring = some i) : (ring i).state = .free := by
  simpa using List.find?_some h

def Config.taken (c : Config σ ρ) (i : Fin configNum) (role : ρ) (negoType : NegoType)
    (state : ConfigState) : Config σ ρ :=
  { c with state, role := some role, negoType, twtId := i }

lemma allocTwtConfig_full (h : freeConfig? ring = none) (role : ρ) (negoType : NegoType)
    (enable hal : Bool) :
    allocTwtConfig ring role negoType enable hal = (.resource, ring, none) := by
  simp [allocTwtConfig, getNewConfig, h]

lemma allocTwtConfig_done (h : freeConfig? ring = some i) (role : ρ) (negoType : NegoType)
    {enable hal : Bool} (hok : enable = true → hal = true) :
    allocTwtConfig ring role negoType enable hal =
      (.success, Function.update ring i
        ((ring i).taken i role negoType (if enable then .enable else .idle)), some i) := by
  cases enable with
  | false => simp [allocTwtConfig, getNewConfig, h, Config.renew, Config.taken]
  | true =>
    rw [hok rfl]
    simp [allocTwtConfig, getNewConfig, h, Config.renew, Config.infoEnable, Config.taken]

def Config.freed (c : Config σ ρ) : Config σ ρ := { c with state := .free, staQueue := [] }

lemma freeTwtConfig_none (h : getConfigById ring id = none) (hal : Bool) :
    freeTwtConfig ring id hal = (.failure, ring) := by
  rw [freeTwtConfig, h]

lemma freeTwtConfig_some (h : getConfigById ring id = some i) (hal : Bool) :
    freeTwtConfig ring id hal = (.success, Function.update ring i (ring i).freed) := by
  rw [freeTwtConfig, h]
  cases hal <;> rfl

variable {configId : UInt8} (c : Config σ ρ)

lemma sound_freed : c.freed.Sound wrole i false := .of_free rfl rfl

lemma view_freed : c.freed.view = none := Config.view_eq_none.2 rfl

lemma enable_ne_free : ConfigState.enable ≠ .free := fun h => ConfigState.noConfusion h

lemma World.Inv.taken (h : World.Inv wrole ⟨ring, handed⟩) (hfree : (ring i).state = .free)
    (role : ρ) (negoType : NegoType) {state : ConfigState} (hstate : state ≠ .free) :
    World.Inv wrole ⟨Function.update ring i ((ring i).taken i role negoType state),
      Function.update handed i true⟩ :=
  have hq : ((ring i).taken i role negoType state).staQueue = [] := (h.sound i).free hfree
  h.update_empty (.of_handed hstate hq rfl) hq

variable [DecidableEq σ]

lemma addStaInfo_none (h : getConfigById ring configId = none)
    (mem hal : Bool) : addStaInfo ring sta configId id mem hal = (.failure, ring) := by
  rw [addStaInfo, h]

lemma addStaInfo_done (h : getConfigById ring configId = some i) :
    addStaInfo ring sta configId id true true =
      (.success, Function.update ring i
        ((ring i).setQueue ((ring i).staQueue ++ [⟨sta, id⟩]))) := by
  simp [addStaInfo, h]

lemma deleteStaLoop_of_not {todo done : List (StaInfo σ)}
    (h : ∀ x ∈ todo, ¬ x.isFor sta id = true) (x : StaInfo σ) (hx : x.isFor sta id = true) :
    deleteStaLoop sta id (todo ++ [x]) done = (.success, done ++ todo) := by
  induction todo generalizing done with
  | nil => simp [deleteStaLoop, hx]
  | cons y todo ih =>
    rw [List.cons_append, deleteStaLoop, if_neg (h y List.mem_cons_self),
      ih fun z hz => h z (List.mem_cons_of_mem y hz), List.append_assoc]
    rfl

lemma deleteSta_added {q : List (StaInfo σ)} (hid : id ≠ deleteAll)
    (h : (⟨sta, id⟩ : StaInfo σ) ∉ q) : deleteSta (q ++ [⟨sta, id⟩]) sta id = (.success, q) := by
  refine deleteStaLoop_of_not (fun x hx hfor => ?_) _ ((isFor_single hid).2 rfl)
  rw [(isFor_single hid).1 hfor] at hx
  exact h hx

lemma addStaInfo_refused {mem hal : Bool} (hid : id ≠ deleteAll)
    (hnew : (⟨sta, id⟩ : StaInfo σ) ∉ (ring i).staQueue)
    (h : getConfigById ring configId = some i) (hno : (mem && hal) = false) :
    addStaInfo ring sta configId id mem hal = (.failure, ring) := by
  cases mem with
  | false => simp [addStaInfo, h]
  | true =>
    obtain rfl : hal = false := hno
    have hsame : (ring i).setQueue (ring i).staQueue = ring i := rfl
    simp [addStaInfo, h, deleteSta_added hid hnew, hsame]

namespace World

variable [DecidableEq ρ] {g : Target σ ρ} {hal : Fin configNum → Bool}

section

variable (h : Inv wrole ⟨ring, handed⟩)
include h

lemma Inv.twtId_of_selects (hsel : g.selects (ring i) = true) :
    (ring i).twtId = i := (h.sound i).twtId (selects_iff.1 hsel).1

lemma Inv.once (hg : g.type = none → g.id = deleteAll) :
    g.Once ring := by
  by_cases hid : g.id = deleteAll
  · exact .inl hid
  · refine .inr fun i j hi hj => ?_
    cases htype : g.type with
    | none => exact absurd (hg htype) hid
    | some type =>
      obtain ⟨-, -, hti, x, hx, hxfor⟩ := selects_iff.1 hi
      obtain ⟨-, -, htj, y, hy, hyfor⟩ := selects_iff.1 hj
      rw [(isFor_single hid).1 hxfor] at hx
      rw [(isFor_single hid).1 hyfor] at hy
      exact h.unique i j _ hx hy (by rw [hti type htype, htj type htype])

lemma left_sub (i : Fin configNum) {x : StaInfo σ}
    (hx : x ∈ (g.left hal ring i).staQueue) :
    x ∈ (ring i).staQueue ∧ (g.left hal ring i).negoType = (ring i).negoType := by
  unfold Target.left at hx ⊢
  by_cases hsel : g.selects (ring i) = true ∧ hal i = true
  · rw [if_pos hsel] at hx ⊢
    have hex := staExist_iff.2 (selects_iff.1 hsel.1).2.2.2
    exact ⟨(deleteSta_sound hex (h.sound i).nodup).2 x hx, rfl⟩
  · rw [if_neg hsel] at hx ⊢
    exact ⟨hx, rfl⟩

lemma Inv.sound_left {held : Bool}
    (hheld : held = true ↔ handed i = true ∨ g.Empties hal ring i) :
    (g.left hal ring i).Sound wrole i held := by
  have hs := h.sound i
  by_cases hsel : g.selects (ring i) = true ∧ hal i = true
  · obtain ⟨hused, -, -, x, hx, hxfor⟩ := selects_iff.1 hsel.1
    have hex := staExist_iff.2 ⟨x, hx, hxfor⟩
    obtain ⟨hnodup, hsub⟩ := deleteSta_sound hex hs.nodup
    have hleft : g.left hal ring i =
        (ring i).setQueue (deleteSta (ring i).staQueue g.sta g.id).2 := if_pos hsel
    have hnot : ¬ handed i = true := by
      rw [show handed i = false from hs.not_handed_of_mem hx]
      exact Bool.false_ne_true
    rw [hleft]
    by_cases hq : (deleteSta (ring i).staQueue g.sta g.id).2 = []
    · rw [hheld.2 (.inr ⟨hsel.1, hsel.2, hq⟩)]
      exact .of_handed hused hq (hs.twtId hused)
    · have hno : held = false := by
        rw [Bool.eq_false_iff, Ne, hheld]
        exact fun hc => hc.elim hnot fun hempties => hq hempties.2.2
      rw [hno]
      exact .of_used hused hq (hs.twtId hused) (fun y hy => hs.role y (hsub y hy)) hnodup
  · have hsame : held = handed i := by
      rw [Bool.eq_iff_iff, hheld]
      exact or_iff_left fun hempties => hsel ⟨hempties.1, hempties.2.1⟩
    rw [Target.left_of_not hsel, hsame]
    exact hs

end

def take (handed : Fin configNum → Bool) (bitmap : BitVec 8) (i : Fin configNum) : Bool :=
  handed i || bitmap.getLsbD i

lemma Inv.delete (h : Inv wrole ⟨ring, handed⟩) (hg : g.type = none → g.id = deleteAll) :
    Inv wrole ⟨(deleteTarget ring g hal).ring, take handed (deleteTarget ring g hal).bitmap⟩ := by
  have honce := h.once hg
  have hid : ∀ i, g.selects (ring i) = true → (ring i).twtId = i :=
    fun i => h.twtId_of_selects
  have hring : (deleteTarget ring g hal).ring = g.left hal ring :=
    funext fun i => deleteTarget_ring honce hid i
  rw [hring]
  refine h.shrink (fun i => h.sound_left ?_) fun i x => left_sub h i
  rw [take, Bool.or_eq_true, deleteTarget_bitmap honce hid]
  refine or_congr_right ⟨?_, fun hempties => ⟨i, rfl, hempties⟩⟩
  rintro ⟨j, hj, hempties⟩
  rwa [← Fin.ext hj]

lemma Inv.delete_none_left (h : Inv wrole ⟨ring, handed⟩)
    (hg : g.type = none → g.id = deleteAll) (hwrole : g.wrole = wrole g.sta)
    (hone : ∀ x ∈ (ring i).staQueue, ∀ y ∈ (ring i).staQueue,
      x.isFor g.sta g.id = true → y.isFor g.sta g.id = true → x = y)
    (htype : ∀ type, g.type = some type → (ring i).negoType = type) {x : StaInfo σ}
    (hx : x ∈ ((deleteTarget ring g hal).ring i).staQueue) (hfor : x.isFor g.sta g.id = true) :
    hal i = false := by
  rw [deleteTarget_ring (h.once hg) fun i => h.twtId_of_selects] at hx
  have hs := h.sound i
  have hmem := (left_sub h i hx).1
  have hsta : g.sta = x.sta := (isFor_iff.1 hfor).1
  have hsel : g.selects (ring i) = true := selects_iff.2
    ⟨hs.not_free_of_mem hmem, by rw [hwrole, hsta]; exact hs.role x hmem, htype, x, hmem, hfor⟩
  by_contra hhal
  have hhal' : hal i = true := by simpa using hhal
  rw [Target.left, if_pos ⟨hsel, hhal'⟩] at hx
  exact deleteSta_none_left (staExist_iff.2 ⟨x, hmem, hfor⟩) hs.nodup hone x hx hfor

end World

end Rtl8831.Phl.Twt
