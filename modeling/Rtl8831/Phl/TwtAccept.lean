import Rtl8831.Phl.TwtStep

/-!
# Accepting and tearing down agreements as a station

To accept takes an agreement with the same id out first, and then takes a new config; to tear
down frees the configs that lost their last agreement.
-/

namespace Rtl8831.Phl.Twt

variable {σ ρ : Type*} [DecidableEq σ] [DecidableEq ρ] {wrole : σ → ρ} {ring : Ring σ ρ}
  {handed : Fin configNum → Bool} {i : Fin configNum} {sta : σ} {setup : Setup} {r : Reply}

def without (ring : Ring σ ρ) (sta : σ) (setup : Setup) (i : Fin configNum) :
    Option (Config σ ρ) :=
  if (ring i).Holds sta setup.negoType setup.id then
    if (deleteSta (ring i).staQueue sta setup.id).2 = [] then none
    else some ((ring i).setQueue (deleteSta (ring i).staQueue sta setup.id).2)
  else (ring i).view

/-- The condition to accept an agreement.  An agreement with the same id that is in the table has
the type that is looked for, is the first one of the station in its config and can be deleted;
and if a config is free then, it can be enabled. -/
structure AcceptOk (ring : Ring σ ρ) (sta : σ) (setup : Setup) (r : Reply) : Prop where
  id : setup.id ≠ deleteAll
  visible : ∀ i, (ring i).Holds sta setup.negoType setup.id →
    (ring i).negoType = setup.negoType.agreementType ∧
      getStaInfo (ring i).staQueue sta = some ⟨sta, setup.id⟩ ∧ r.delMacid i = true
  enabled : (∃ i, without ring sta setup i = none) → r.infoAdd = true

def Config.accepted (wrole : σ → ρ) (sta : σ) (setup : Setup) (i : Fin configNum) : Config σ ρ :=
  ⟨.enable, some (wrole sta), setup.negoType, i, [⟨sta, setup.id⟩]⟩

def Accepted (wrole : σ → ρ) (ring : Ring σ ρ) (sta : σ) (setup : Setup) (ring' : Ring σ ρ) :
    Prop :=
  ∃ i, without ring sta setup i = none ∧ (ring' i).view = some (.accepted wrole sta setup i) ∧
    ∀ j, j ≠ i → (ring' j).view = without ring sta setup j

def oldTarget (wrole : σ → ρ) (sta : σ) (setup : Setup) : Target σ ρ :=
  ⟨sta, wrole sta, some setup.negoType.agreementType, setup.id⟩

variable {bitmap : BitVec 8}

lemma lowestBit_of_only {k : ℕ} (hk : k < 8)
    (h : ∀ n, bitmap.getLsbD n = true ↔ n = k) : lowestBit bitmap = some k := by
  rw [lowestBit, List.find?_range_eq_some]
  refine ⟨(h k).2 rfl, List.mem_range.2 hk, fun j hj => ?_⟩
  rw [Bool.not_eq_true', Bool.eq_false_iff, Ne, h]
  exact Nat.ne_of_lt hj

lemma lowestBit_of_none (h : ∀ n, ¬ bitmap.getLsbD n = true) :
    lowestBit bitmap = none := by
  rw [lowestBit, List.find?_range_eq_none]
  intro j _
  rw [Bool.not_eq_true', Bool.eq_false_iff]
  exact h j

lemma getStaInfo_mem {q : List (StaInfo σ)} {x : StaInfo σ} (h : getStaInfo q sta = some x) :
    x ∈ q ∧ sta = x.sta :=
  ⟨List.mem_of_find?_eq_some h, by simpa using List.find?_some h⟩

namespace World

lemma Inv.selects_oldTarget (h : Inv wrole ⟨ring, handed⟩) (hok : AcceptOk ring sta setup r) :
    (oldTarget wrole sta setup).selects (ring i) = true ↔
      (ring i).Holds sta setup.negoType setup.id := by
  rw [selects_iff]
  constructor
  · rintro ⟨-, -, htype, x, hx, hfor⟩
    rw [(isFor_single hok.id).1 hfor] at hx
    exact ⟨hx, by rw [htype _ rfl, agreementType_idem]⟩
  · intro hholds
    have hs := h.sound i
    refine ⟨hs.not_free_of_mem hholds.1, hs.role _ hholds.1, ?_, _, hholds.1,
      (isFor_single hok.id).2 rfl⟩
    rintro _ ⟨⟩
    exact (hok.visible i hholds).1

lemma Inv.idExist_iff (h : Inv wrole ⟨ring, handed⟩) (hok : AcceptOk ring sta setup r) :
    idExist wrole ring sta setup.id setup.negoType.agreementType = true ↔
      ∃ i, (ring i).Holds sta setup.negoType setup.id := by
  have hone : ∀ i, (ring i).hasId sta (wrole sta) setup.id setup.negoType.agreementType = true ↔
      (ring i).Holds sta setup.negoType setup.id := by
    intro i
    have hs := h.sound i
    simp only [Config.hasId, Bool.and_eq_true, decide_eq_true_iff, Option.any_eq_true]
    constructor
    · rintro ⟨⟨-, htype⟩, x, hx, hid⟩
      obtain ⟨hmem, hsta⟩ := getStaInfo_mem hx
      refine ⟨?_, by rw [← htype, agreementType_idem]⟩
      rw [hsta, hid]
      exact hmem
    · intro hholds
      obtain ⟨htype, hfirst, -⟩ := hok.visible i hholds
      exact ⟨⟨⟨hs.not_free_of_mem hholds.1, hs.role _ hholds.1⟩, htype.symm⟩, _, hfirst, rfl⟩
  rw [idExist, List.any_eq_true]
  constructor
  · rintro ⟨i, -, hi⟩
    exact ⟨i, (hone i).1 hi⟩
  · rintro ⟨i, hi⟩
    exact ⟨i, List.mem_finRange i, (hone i).2 hi⟩

/-- The agreement in the config `i` was taken out. -/
structure OldDeleted (ring : Ring σ ρ) (sta : σ) (setup : Setup) (i : Fin configNum)
    (d : Deleted σ ρ) : Prop where
  error : d.error = false
  own : d.ring i = (ring i).setQueue (deleteSta (ring i).staQueue sta setup.id).2
  other : ∀ j, j ≠ i → d.ring j = ring j
  bits : ∀ n, d.bitmap.getLsbD n = true ↔
    n = i.val ∧ (deleteSta (ring i).staQueue sta setup.id).2 = []

lemma Inv.oldDeleted (h : Inv wrole ⟨ring, handed⟩) (hok : AcceptOk ring sta setup r)
    (hi : (ring i).Holds sta setup.negoType setup.id) :
    OldDeleted ring sta setup i (deleteTarget ring (oldTarget wrole sta setup) r.delMacid) := by
  have honce : (oldTarget wrole sta setup).Once ring := h.once fun hc => nomatch hc
  have htwt : ∀ j, (oldTarget wrole sta setup).selects (ring j) = true → (ring j).twtId = j :=
    fun j => h.twtId_of_selects
  have hsel := (h.selects_oldTarget hok).2 hi
  have hhal := (hok.visible i hi).2.2
  have honly : ∀ j, (oldTarget wrole sta setup).selects (ring j) = true → j = i :=
    fun j hj => h.holds_unique ((h.selects_oldTarget hok).1 hj) hi
  refine ⟨?_, ?_, fun j hj => ?_, fun n => ?_⟩
  · rw [Bool.eq_false_iff, Ne, deleteTarget_error honce htwt]
    rintro ⟨j, hj, hrefused⟩
    obtain rfl := honly j hj
    exact Bool.false_ne_true (hrefused.symm.trans hhal)
  · rw [deleteTarget_ring honce htwt]
    exact if_pos ⟨hsel, hhal⟩
  · rw [deleteTarget_ring honce htwt, Target.left_of_not fun hc => hj (honly j hc.1)]
  · rw [deleteTarget_bitmap honce htwt]
    constructor
    · rintro ⟨j, rfl, hj, -, hq⟩
      obtain rfl := honly j hj
      exact ⟨rfl, hq⟩
    · rintro ⟨rfl, hq⟩
      exact ⟨i, rfl, hsel, hhal, hq⟩

lemma Inv.oldDropped (h : Inv wrole ⟨ring, handed⟩) (hok : AcceptOk ring sta setup r)
    (hi : (ring i).Holds sta setup.negoType setup.id) :
    Inv wrole ⟨dropOld wrole ring sta setup r, handed⟩ ∧
      ∀ j, (dropOld wrole ring sta setup r j).view = without ring sta setup j := by
  have hold := h.oldDeleted hok hi
  have hd : Inv wrole ⟨(deleteTarget ring (oldTarget wrole sta setup) r.delMacid).ring,
      take handed (deleteTarget ring (oldTarget wrole sta setup) r.delMacid).bitmap⟩ :=
    h.delete fun hc => nomatch hc
  have hdelete : deleteStaInfo wrole ring sta false setup.negoType setup.id r.delMacid =
      deleteTarget ring (oldTarget wrole sta setup) r.delMacid := rfl
  simp only [dropOld, hdelete]
  generalize deleteTarget ring (oldTarget wrole sta setup) r.delMacid = d at hold hd ⊢
  have hok : d.status = .success := if_neg (by rw [hold.error]; exact Bool.false_ne_true)
  have hused : (ring i).state ≠ .free := (h.sound i).not_free_of_mem hi.1
  have hfree : handed i = false := (h.sound i).not_handed_of_mem hi.1
  have hview : ∀ j, j ≠ i → (ring j).view = without ring sta setup j :=
    fun j hj => (if_neg fun hc => hj (h.holds_unique hc hi)).symm
  by_cases hq : (deleteSta (ring i).staQueue sta setup.id).2 = []
  · have hlow : lowestBit d.bitmap = some i.val :=
      lowestBit_of_only (Nat.lt_of_lt_of_le i.isLt (by decide)) fun n => by
        rw [hold.bits, and_iff_left hq]
    have hget : getConfigById d.ring (.ofNat i.val) = some i :=
      getConfigById_val (by rw [hold.own]; exact hused)
    have hhanded : Function.update (take handed d.bitmap) i false = handed := by
      funext j
      by_cases hj : j = i
      · subst hj
        rw [Function.update_self, hfree]
      · rw [Function.update_of_ne hj, take, Bool.eq_false_iff.2 fun hc =>
          hj (Fin.ext ((hold.bits j.val).1 hc).1), Bool.or_false]
    rw [hok, hlow]
    dsimp only
    rw [freeTwtConfig_some hget]
    dsimp only
    constructor
    · have hfreed := hd.update_empty (i := i) (sound_freed (d.ring i)) rfl
      rwa [hhanded] at hfreed
    · intro j
      by_cases hj : j = i
      · subst hj
        rw [Function.update_self, view_freed, without, if_pos hi, if_pos hq]
      · rw [Function.update_of_ne hj, hold.other j hj, hview j hj]
  · have hlow : lowestBit d.bitmap = none :=
      lowestBit_of_none fun n hc => hq ((hold.bits n).1 hc).2
    have hhanded : take handed d.bitmap = handed := by
      funext j
      rw [take, Bool.eq_false_iff.2 fun hc => hq ((hold.bits j.val).1 hc).2, Bool.or_false]
    rw [hok, hlow]
    dsimp only
    constructor
    · rwa [hhanded] at hd
    · intro j
      by_cases hj : j = i
      · subst hj
        rw [hold.own, without, if_pos hi, if_neg hq]
        exact Config.view_of_ne hused
      · rw [hold.other j hj, hview j hj]

omit [DecidableEq ρ] in
lemma Inv.newAccepted (h : Inv wrole ⟨ring, handed⟩) (hid : setup.id ≠ deleteAll)
    (hnew : ∀ j, ¬ (ring j).Holds sta setup.negoType setup.id)
    (henabled : (∃ i, (ring i).state = .free) → r.infoAdd = true) :
    Inv wrole ⟨(acceptNew wrole ring sta setup r).2, handed⟩ ∧
      (((acceptNew wrole ring sta setup r).1 ≠ .success ∧
          ∀ j, ((acceptNew wrole ring sta setup r).2 j).view = (ring j).view) ∨
        ((acceptNew wrole ring sta setup r).1 = .success ∧ ∃ i, (ring i).state = .free ∧
          (acceptNew wrole ring sta setup r).2 =
            Function.update ring i (.accepted wrole sta setup i))) := by
  cases hf : freeConfig? ring with
  | none =>
    have hstep : acceptNew wrole ring sta setup r = (.resource, ring) := by
      rw [acceptNew, allocTwtConfig_full hf]
    rw [hstep]
    exact ⟨h, .inl ⟨fun hc => Status.noConfusion hc, fun _ => rfl⟩⟩
  | some i =>
    have hfree := free_of_freeConfig? hf
    have halloc : allocTwtConfig ring (wrole sta) setup.negoType true r.infoAdd =
        (.success, Function.update ring i
          ((ring i).taken i (wrole sta) setup.negoType .enable), some i) :=
      allocTwtConfig_done hf (wrole sta) setup.negoType fun _ => henabled ⟨i, hfree⟩
    have htaken := h.taken hfree (wrole sta) setup.negoType enable_ne_free
    have hqueue : ((ring i).taken i (wrole sta) setup.negoType .enable).staQueue = [] :=
      (h.sound i).free hfree
    have hused : ((ring i).taken i (wrole sta) setup.negoType .enable).state ≠ .free :=
      enable_ne_free
    have hrole : ((ring i).taken i (wrole sta) setup.negoType .enable).role =
        some (wrole sta) := rfl
    have htype : ((ring i).taken i (wrole sta) setup.negoType .enable).negoType =
        setup.negoType := rfl
    have hqueued : ((ring i).taken i (wrole sta) setup.negoType .enable).setQueue
        [⟨sta, setup.id⟩] = .accepted wrole sta setup i := rfl
    have hhanded : Function.update (Function.update handed i true) i false = handed := by
      rw [Function.update_idem, ← h.not_handed hfree, Function.update_eq_self]
    generalize (ring i).taken i (wrole sta) setup.negoType .enable = c at *
    have hown : Function.update ring i c i = c := Function.update_self ..
    have hget : getConfigById (Function.update ring i c) (.ofNat i.val) = some i :=
      getConfigById_val (by rw [hown]; exact hused)
    by_cases hadd : (r.mem && r.addMacid) = true
    · obtain ⟨hmem, hmacid⟩ := Bool.and_eq_true_iff.1 hadd
      have hnew' : ∀ j, ¬ (Function.update ring i c j).Holds sta
          (Function.update ring i c i).negoType setup.id := by
        intro j hj
        rw [hown, htype] at hj
        by_cases hji : j = i
        · subst hji
          rw [hown] at hj
          rw [Config.Holds, hqueue] at hj
          exact List.not_mem_nil hj.1
        · rw [Function.update_of_ne hji] at hj
          exact hnew j hj
      have hadded := htaken.add (by rw [hown]; exact hused) (by rw [hown]; exact hrole) hnew'
      rw [hown, hqueue, List.nil_append, hqueued, Function.update_idem, hhanded] at hadded
      have hstep : acceptNew wrole ring sta setup r =
          (.success, Function.update ring i (.accepted wrole sta setup i)) := by
        rw [acceptNew, halloc]
        dsimp only
        rw [hmem, hmacid, addStaInfo_done hget]
        dsimp only
        rw [hown, hqueue, List.nil_append, hqueued, Function.update_idem]
      rw [hstep]
      exact ⟨hadded, .inr ⟨rfl, i, hfree, rfl⟩⟩
    · have hnone : (⟨sta, setup.id⟩ : StaInfo σ) ∉ (Function.update ring i c i).staQueue := by
        rw [hown, hqueue]
        exact List.not_mem_nil
      have hstep : acceptNew wrole ring sta setup r =
          (.failure, Function.update ring i c.freed) := by
        rw [acceptNew, halloc]
        dsimp only
        rw [addStaInfo_refused hid hnone hget (Bool.eq_false_iff.2 hadd)]
        dsimp only
        rw [freeTwtConfig_some hget, hown, Function.update_idem]
      have hfreed := htaken.update_empty (i := i) (sound_freed c) rfl
      rw [Function.update_idem, hhanded] at hfreed
      rw [hstep]
      refine ⟨hfreed, .inl ⟨fun hc => Status.noConfusion hc, fun j => ?_⟩⟩
      dsimp only
      by_cases hji : j = i
      · subst hji
        rw [Function.update_self, view_freed, Config.view_eq_none.2 hfree]
      · rw [Function.update_of_ne hji]

omit [DecidableEq ρ] in
lemma Inv.not_holds_without (h : Inv wrole ⟨ring, handed⟩) (hok : AcceptOk ring sta setup r)
    {ring' : Ring σ ρ} (h' : Inv wrole ⟨ring', handed⟩)
    (hview : ∀ j, (ring' j).view = without ring sta setup j) (j : Fin configNum) :
    ¬ (ring' j).Holds sta setup.negoType setup.id := by
  intro hj
  have hused : (ring' j).state ≠ .free := (h'.sound j).not_free_of_mem hj.1
  have hsee := hview j
  rw [Config.view_of_ne hused, without] at hsee
  by_cases hold : (ring j).Holds sta setup.negoType setup.id
  · have hfor := (@isFor_single σ _ sta setup.id ⟨sta, setup.id⟩ hok.id).2 rfl
    have hex : staExist (ring j).staQueue sta setup.id = true :=
      staExist_iff.2 ⟨_, hold.1, hfor⟩
    rw [if_pos hold] at hsee
    by_cases hq : (deleteSta (ring j).staQueue sta setup.id).2 = []
    · rw [if_pos hq] at hsee
      exact nomatch hsee
    · rw [if_neg hq, Option.some_inj] at hsee
      have hmem := hj.1
      rw [hsee] at hmem
      refine deleteSta_none_left hex (h.sound j).nodup (fun x _ y _ hx hy => ?_) _ hmem hfor
      rw [(isFor_single hok.id).1 hx, (isFor_single hok.id).1 hy]
  · rw [if_neg hold, Config.view] at hsee
    by_cases hf : (ring j).state = .free
    · rw [if_pos hf] at hsee
      exact nomatch hsee
    · rw [if_neg hf, Option.some_inj] at hsee
      rw [hsee] at hj
      exact hold hj

lemma Inv.accept (h : Inv wrole ⟨ring, handed⟩) (hok : AcceptOk ring sta setup r) :
    Inv wrole ⟨(acceptBySta wrole setup.negoType.agreementType ring sta setup r).2, handed⟩ ∧
      ((acceptBySta wrole setup.negoType.agreementType ring sta setup r).1 = .success →
        Accepted wrole ring sta setup
          (acceptBySta wrole setup.negoType.agreementType ring sta setup r).2) ∧
      ((acceptBySta wrole setup.negoType.agreementType ring sta setup r).1 ≠ .success →
        ∀ j, ((acceptBySta wrole setup.negoType.agreementType ring sta setup r).2 j).view =
          without ring sta setup j) := by
  have hmid : ∃ ring', (if idExist wrole ring sta setup.id setup.negoType.agreementType = true
        then dropOld wrole ring sta setup r else ring) = ring' ∧
      Inv wrole ⟨ring', handed⟩ ∧ ∀ j, (ring' j).view = without ring sta setup j := by
    by_cases hex : idExist wrole ring sta setup.id setup.negoType.agreementType = true
    · obtain ⟨i, hi⟩ := (h.idExist_iff hok).1 hex
      exact ⟨_, if_pos hex, h.oldDropped hok hi⟩
    · refine ⟨ring, if_neg hex, h, fun j => (if_neg fun hj => ?_).symm⟩
      exact hex ((h.idExist_iff hok).2 ⟨j, hj⟩)
  obtain ⟨ring', heq, h', hview⟩ := hmid
  have henabled : (∃ i, (ring' i).state = .free) → r.infoAdd = true := by
    rintro ⟨i, hi⟩
    exact hok.enabled ⟨i, by rw [← hview, Config.view_eq_none.2 hi]⟩
  obtain ⟨hinv, hres⟩ := h'.newAccepted hok.id (h.not_holds_without hok h' hview) henabled
  rw [acceptBySta, heq]
  refine ⟨hinv, fun hret => ?_, fun hret j => ?_⟩
  · rcases hres with ⟨hno, -⟩ | ⟨-, i, hfree, hring⟩
    · exact absurd hret hno
    · refine ⟨i, by rw [← hview, Config.view_eq_none.2 hfree], ?_, fun j hj => ?_⟩
      · rw [hring, Function.update_self]
        exact Config.view_of_ne enable_ne_free
      · rw [hring, Function.update_of_ne hj, hview]
  · rcases hres with ⟨-, hsame⟩ | ⟨hyes, -⟩
    · rw [hsame, hview]
    · exact absurd hyes hret

omit [DecidableEq σ] [DecidableEq ρ] in
lemma freeIfEmpty_loop {bitmap : BitVec 8} {hal : Bool} {l : List ℕ} (hl : l.Nodup)
    (hbits : ∀ n, bitmap.getLsbD n = true → ∃ j : Fin configNum, j.val = n ∧
      (ring j).state ≠ .free) (j : Fin configNum) :
    (l.foldl (freeIfEmpty bitmap hal) (.success, ring)).2 j =
      if j.val ∈ l ∧ bitmap.getLsbD j.val = true then (ring j).freed else ring j := by
  induction l using List.reverseRecOn generalizing j with
  | nil => simp
  | append_singleton l n ih =>
    obtain ⟨hl', -, hdisj⟩ := List.nodup_append.1 hl
    have hn : n ∉ l := fun hc => hdisj n hc n (List.mem_singleton_self n) rfl
    rw [List.foldl_append, List.foldl_cons, List.foldl_nil]
    have ih' := ih hl'
    generalize l.foldl (freeIfEmpty bitmap hal) (.success, ring) = s at ih' ⊢
    by_cases hbit : bitmap.getLsbD n = true
    · obtain ⟨k, rfl, hk⟩ := hbits n hbit
      have hkept : s.2 k = ring k := by rw [ih', if_neg fun hc => hn hc.1]
      have hget : getConfigById s.2 (.ofNat k.val) = some k :=
        getConfigById_val (by rw [hkept]; exact hk)
      rw [freeIfEmpty, if_pos hbit, freeTwtConfig_some hget]
      dsimp only
      by_cases hj : j = k
      · subst hj
        rw [Function.update_self, hkept,
          if_pos ⟨List.mem_append_right _ (List.mem_singleton_self _), hbit⟩]
      · have hne : j.val ≠ k.val := fun hc => hj (Fin.ext hc)
        rw [Function.update_of_ne hj, ih']
        simp [hne]
    · rw [freeIfEmpty, if_neg hbit, ih']
      by_cases hj : j.val = n
      · rw [hj, if_neg fun hc => hbit hc.2, if_neg fun hc => hbit hc.2]
      · simp [hj]

end World

end Rtl8831.Phl.Twt
