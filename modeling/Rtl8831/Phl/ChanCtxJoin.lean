import Rtl8831.Phl.ChanCtxRun

/-!
# The definition of a shared channel

The links of several roles can share one context, whose definition is widened when a
link comes and computed anew from the links that stay when one goes.  On regular
definitions both give the join of the members.
-/

namespace Rtl8831.Phl

open Lib List

namespace ChanDef

/-! ## Regular definitions -/

/-- One definition covers another: the channel is the same, the width reaches, and a wide
one extends to the same side. -/
instance : LE ChanDef where
  le d g := d.band = g.band ∧ d.chan = g.chan ∧ d.bw.val ≤ g.bw.val ∧
    (d.wide = true → d.offset = g.offset)

def offsetFits (d : ChanDef) : Bool :=
  match d.band with
  | .on24G => decide (d.chan ≤ 13) && decide (d.bw = .w40) &&
      decide (d.offset = .upper ∨ d.offset = .lower) && decide (d.uptOffset = d)
  | _ => decide (d.offset ≠ .noExt) && decide ({ d with offset := .noExt }.uptOffset = d)

/-- A definition on a known channel, of 20 MHz without offset, or wide with an offset that
fits the channel; on 2.4 GHz a wide one has 40 MHz. -/
def accepted (d : ChanDef) : Bool :=
  d.ccBand.isSome && decide (1 ≤ d.chan) && decide (d.band = .on24G → d.chan ≤ 14) &&
    if d.wide then d.offsetFits else decide (d.bw = .w20 ∧ d.offset = .noExt)

variable {d : ChanDef} {members : Set ChanDef}

lemma wide_iff : d.wide = true ↔ 1 ≤ d.bw.val ∧ d.bw.val ≤ 3 := by
  rcases d with ⟨band, chan, bw, offset⟩
  cases bw <;> simp [wide, ChannelWidth.val]

lemma bw_val_injective : Function.Injective ChannelWidth.val := by
  intro a b h
  cases a <;> cases b <;> first | rfl | cases h

lemma le_refl (d : ChanDef) : d ≤ d := ⟨rfl, rfl, Nat.le_refl _, fun _ => rfl⟩

lemma accepted_width (h : d.accepted = true) :
    d.wide = true ∨ d.bw = .w20 ∧ d.offset = .noExt := by
  simp only [accepted, Bool.and_eq_true] at h
  by_cases hw : d.wide = true
  · exact .inl hw
  · right
    simpa [hw] using h.2

lemma val_of_w20 (h : d.bw = .w20) : d.bw.val = 0 := by
  rw [h]
  rfl

lemma wide_of_le {a b : ChanDef} (hb : b.accepted = true) (ha : a.wide = true)
    (hle : a.bw.val ≤ b.bw.val) : b.wide = true := by
  rcases accepted_width hb with hwide | ⟨hbw, -⟩
  · exact hwide
  · have := (wide_iff.1 ha).1
    have := val_of_w20 hbw
    omega

lemma accepted_known (h : d.accepted = true) : d.unknown = false := by
  simp only [accepted, Bool.and_eq_true] at h
  rcases d with ⟨band, chan, bw, offset⟩
  have hcc := h.1.1.1
  cases band with
  | on24G => rfl
  | on5G =>
    change (ccBand5G chan).isSome = true at hcc
    change (ccBand5G chan).isNone = false
    rw [← Option.not_isSome, hcc]
    rfl
  | on6G =>
    change (ccBand6G chan).isSome = true at hcc
    change (ccBand6G chan).isNone = false
    rw [← Option.not_isSome, hcc]
    rfl
  | max => rfl

lemma le_trans {a b c : ChanDef} (hb : b.accepted = true) (hab : a ≤ b) (hbc : b ≤ c) :
    a ≤ c := by
  obtain ⟨h1, h2, h3, h4⟩ := hab
  obtain ⟨k1, k2, k3, k4⟩ := hbc
  exact ⟨h1.trans k1, h2.trans k2, h3.trans k3,
    fun hw => (h4 hw).trans (k4 (wide_of_le hb hw h3))⟩

lemma le_antisymm {a b : ChanDef} (ha : a.accepted = true) (hb : b.accepted = true)
    (hab : a ≤ b) (hba : b ≤ a) : a = b := by
  obtain ⟨h1, h2, h3, h4⟩ := hab
  have hbw : a.bw = b.bw := bw_val_injective (Nat.le_antisymm h3 hba.2.2.1)
  have hoffset : a.offset = b.offset := by
    rcases accepted_width ha with hw | ⟨ha20, haoff⟩
    · exact h4 hw
    · rcases accepted_width hb with hw | ⟨-, hboff⟩
      · rw [wide_iff, ← hbw, ha20] at hw
        simp [ChannelWidth.val] at hw
      · rw [haoff, hboff]
  cases a
  cases b
  simp_all

/-! ## Joining -/

lemma uptOffset_accepted (h : d.accepted = true) (hw : d.wide = true) :
    d.uptOffset = d ∧ (d.offset = .upper ∨ d.offset = .lower) := by
  simp only [accepted, hw, if_true, Bool.and_eq_true] at h
  obtain ⟨⟨⟨hcc, -⟩, -⟩, hfits⟩ := h
  rcases d with ⟨band, chan, bw, offset⟩
  cases band with
  | on24G =>
    simp only [offsetFits, Bool.and_eq_true, decide_eq_true_eq] at hfits
    exact ⟨hfits.2, hfits.1.2⟩
  | max => cases hcc
  | _ =>
    simp only [offsetFits, Bool.and_eq_true, decide_eq_true_eq] at hfits
    obtain ⟨hno, htable⟩ := hfits
    have hside := congrArg ChanDef.offset htable
    constructor
    · rw [← htable]
      simp only [uptOffset, uptOffset5G, uptOffset6G]
      split_ifs <;> rfl
    · simp only [uptOffset, uptOffset5G, uptOffset6G] at hside hno ⊢
      split_ifs at hside <;> first
        | exact .inl hside.symm
        | exact .inr hside.symm
        | exact absurd hside.symm hno

lemma bw_of_24G (h : d.accepted = true) (hband : d.band = .on24G) :
    ¬ (d.bw = .w80 ∨ d.bw = .w160) := by
  intro hbw
  have hw : d.wide = true := by
    unfold wide
    rcases hbw with hbw | hbw <;> simp [hbw]
  simp only [accepted, hw, if_true, Bool.and_eq_true, offsetFits, hband,
    decide_eq_true_eq] at h
  rw [h.2.1.1.2] at hbw
  exact hbw.elim nofun nofun

lemma adjust_accepted {d g : ChanDef} (hd : d.accepted = true) (hg : g.accepted = true)
    (h : g.isChbwGrouped d = true) :
    (d.adjust g = if g.bw.val < d.bw.val then d else g) ∧ (g ≤ d ∨ d ≤ g) := by
  have hsame : g.band = d.band ∧ g.chan = d.chan ∧
      (g.wide = true → d.wide = true → g.offset = d.offset) := by
    unfold isChbwGrouped at h
    split_ifs at h with h1 h2 h3
    · refine ⟨not_not.1 h1, not_not.1 h2, fun _ _ => of_decide_eq_true h⟩
    · refine ⟨not_not.1 h1, not_not.1 h2, fun hg' hd' => absurd ?_ h3⟩
      rw [hg', hd']
      rfl
  obtain ⟨hband, hchan, hoffset⟩ := hsame
  have hself : ChanDef.mk g.band g.chan
      (if g.band = .on24G ∧ (d.bw = .w80 ∨ d.bw = .w160) then .w40 else d.bw) d.offset = d := by
    rw [if_neg fun h24 => bw_of_24G hd (hband.symm.trans h24.1) h24.2, hband, hchan]
  have hwide : d.wide = true → d.adjustWide g = d := by
    intro hw
    obtain ⟨hup, hside⟩ := uptOffset_accepted hd hw
    have hno : d.offset ≠ .noExt := by rcases hside with h | h <;> simp [h]
    unfold adjustWide
    rcases accepted_width hg with hgw | ⟨hg20, -⟩
    · rw [if_pos hgw, hoffset hgw hw]
      simp only
      rw [if_neg hno]
    · have hgw : ¬ g.wide = true := by
        rw [wide_iff, hg20]
        simp [ChannelWidth.val]
      rw [if_neg hgw, if_pos hg20, hup]
      simp only
      rw [if_neg hno]
  constructor
  · unfold adjust
    rw [hself]
    simp only
    have hjoined : (if d.wide = true then d.adjustWide g
        else if d.bw = .w20 then { d with offset := .noExt } else d) = d := by
      by_cases hw : d.wide = true
      · rw [if_pos hw, hwide hw]
      · obtain ⟨h20, hno⟩ := (accepted_width hd).resolve_left hw
        rw [if_neg hw, if_pos h20, ← hno]
    rw [hjoined]
    split_ifs
    · rw [hband, hchan]
    · rfl
  · rcases Nat.le_total g.bw.val d.bw.val with hle | hle
    · exact .inl ⟨hband, hchan, hle, fun hgw => hoffset hgw (wide_of_le hd hgw hle)⟩
    · exact .inr ⟨hband.symm, hchan.symm, hle,
        fun hdw => (hoffset (wide_of_le hg hdw hle) hdw).symm⟩

def IsJoin (members : Set ChanDef) (g : ChanDef) : Prop :=
  IsLeast {g | g.accepted = true ∧ ∀ d ∈ members, d ≤ g} g

lemma isJoin_singleton (h : d.accepted = true) : IsJoin {d} d :=
  ⟨⟨h, fun _ hx => hx ▸ le_refl d⟩, fun _ hg => hg.2 d rfl⟩

lemma IsJoin.unique {g g' : ChanDef} (h : IsJoin members g)
    (h' : IsJoin members g') : g = g' :=
  le_antisymm h.1.1 h'.1.1 (h.2 h'.1) (h'.2 h.1)

lemma IsJoin.insert {d g : ChanDef} (h : IsJoin members g)
    (hd : d.accepted = true) (hgrouped : g.isChbwGrouped d = true) :
    IsJoin (insert d members) (d.adjust g) := by
  obtain ⟨heq, hle⟩ := adjust_accepted hd h.1.1 hgrouped
  rw [heq]
  split_ifs with hlt
  · have hgd : g ≤ d := hle.resolve_right fun hdg => by
      have := hdg.2.2.1
      omega
    refine ⟨⟨hd, ?_⟩, fun g' hg' => hg'.2 d (Set.mem_insert _ _)⟩
    rintro x (rfl | hx)
    · exact le_refl _
    · exact le_trans h.1.1 (h.1.2 x hx) hgd
  · have hdg : d ≤ g := by
      rcases hle with hgd | hdg
      · have hbw : g.bw.val = d.bw.val := Nat.le_antisymm hgd.2.2.1 (by omega)
        refine ⟨hgd.1.symm, hgd.2.1.symm, Nat.le_of_eq hbw.symm, fun hw => ?_⟩
        rw [wide_iff, ← hbw, ← wide_iff] at hw
        exact (hgd.2.2.2 hw).symm
      · exact hdg
    refine ⟨⟨h.1.1, ?_⟩, fun g' hg' => h.2 ⟨hg'.1, fun x hx => hg'.2 x (Set.mem_insert_of_mem _ hx)⟩⟩
    rintro x (rfl | hx)
    · exact hdg
    · exact h.1.2 x hx

/-! ## Computing anew -/

lemma syncFrom_join {g : ChanDef} :
    ∀ (ds : List ChanDef) (acc : ChanDef), acc.accepted = true → acc ≤ g →
      (∀ d ∈ ds, d.accepted = true ∧ d ≤ g) →
      ∃ j, HwBandCtl.syncFrom acc ds = some j ∧ j ∈ acc :: ds ∧ ∀ d ∈ acc :: ds, d ≤ j := by
  intro ds
  induction ds with
  | nil =>
    intro acc _ _ _
    exact ⟨acc, rfl, by simp, by simp [le_refl]⟩
  | cons d ds ih =>
    intro acc hacc haccg hds
    obtain ⟨hd, hdg⟩ := hds d (by simp)
    have hrest : ∀ x ∈ ds, x.accepted = true ∧ x ≤ g := fun x hx => hds x (by simp [hx])
    have hband : acc.band = d.band := haccg.1.trans hdg.1.symm
    have hchan : acc.chan = d.chan := haccg.2.1.trans hdg.2.1.symm
    have hoffset : acc.wide = true → d.wide = true → acc.offset = d.offset :=
      fun ha hd' => (haccg.2.2.2 ha).trans (hdg.2.2.2 hd').symm
    rw [HwBandCtl.syncFrom, if_neg (not_not.2 hband), if_neg (not_not.2 hchan)]
    by_cases hlt : acc.bw.val < d.bw.val
    · rw [if_pos hlt]
      have heq : ({ acc with bw := d.bw, offset := d.offset } : ChanDef) = d := by
        rw [hband, hchan]
      rw [heq]
      obtain ⟨j, hj, hmem, hle⟩ := ih d hd hdg hrest
      refine ⟨j, hj, List.mem_cons_of_mem _ hmem, ?_⟩
      rintro x hx
      rcases List.mem_cons.1 hx with rfl | hx
      · exact le_trans hd ⟨hband, hchan, hlt.le,
          fun hw => hoffset hw (wide_of_le hd hw hlt.le)⟩ (hle d (by simp))
      · exact hle x hx
    · rw [if_neg hlt]
      have hnot : ¬ (acc.bw = d.bw ∧ acc.offset ≠ d.offset) := by
        rintro ⟨hbw, hne⟩
        apply hne
        rcases accepted_width hacc with haw | ⟨ha20, hano⟩
        · refine hoffset haw ?_
          rwa [wide_iff, ← hbw, ← wide_iff]
        · rcases accepted_width hd with hdw | ⟨-, hdno⟩
          · rw [wide_iff, ← hbw, ha20] at hdw
            simp [ChannelWidth.val] at hdw
          · rw [hano, hdno]
      rw [if_neg hnot]
      obtain ⟨j, hj, hmem, hle⟩ := ih acc hacc haccg hrest
      refine ⟨j, hj, ?_, ?_⟩
      · rcases List.mem_cons.1 hmem with rfl | hmem
        · simp
        · simp [hmem]
      · intro x hx
        have hda : d.bw.val ≤ acc.bw.val := by omega
        have hd' : d ≤ j := le_trans hacc ⟨hband.symm, hchan.symm, hda,
          fun hdw => (hoffset (wide_of_le hacc hdw hda) hdw).symm⟩ (hle acc (by simp))
        rcases List.mem_cons.1 hx with rfl | hx
        · exact hle x (by simp)
        · rcases List.mem_cons.1 hx with rfl | hx
          · exact hd'
          · exact hle x (by simp [hx])

/-! ## The spectrum -/

/-- A loop of `rtw_phl_get_center_ch` over the blocks of the 6 GHz band. -/
def blockCenter (rounds width last center ch : ℕ) : ℕ :=
  (List.range rounds).foldl (fun ch i =>
    if 1 + i * width ≤ ch ∧ ch ≤ last + i * width then center + i * width else ch) ch

def centerCh (d : ChanDef) : ℕ :=
  let ch := d.chan
  match d.bw with
  | .w160 =>
    if d.band = .on6G then blockCenter 8 32 29 15 ch
    else if ch % 4 = 0 then
      if 36 ≤ ch ∧ ch ≤ 64 then 50 else if 100 ≤ ch ∧ ch ≤ 128 then 114 else ch
    else if ch % 4 = 1 then if 149 ≤ ch ∧ ch ≤ 177 then 163 else ch
    else ch
  | .w80 =>
    if d.band = .on6G then blockCenter 16 16 13 7 ch
    else if ch ≤ 14 then 7
    else if ch % 4 = 0 then
      if 36 ≤ ch ∧ ch ≤ 48 then 42 else if 52 ≤ ch ∧ ch ≤ 64 then 58
      else if 100 ≤ ch ∧ ch ≤ 112 then 106 else if 116 ≤ ch ∧ ch ≤ 128 then 122
      else if 132 ≤ ch ∧ ch ≤ 144 then 138 else ch
    else if ch % 4 = 1 then
      if 149 ≤ ch ∧ ch ≤ 161 then 155 else if 165 ≤ ch ∧ ch ≤ 177 then 171 else ch
    else ch
  | .w40 =>
    if d.offset = .upper then ch + 2 else if d.offset = .lower then (ch + 254) % 256 else ch
  | _ => ch

def halfWidth : ChannelWidth → ℕ
  | .w160 => 16
  | .w80 => 8
  | .w40 => 4
  | _ => 2

/-- The spectrum of `d` lies in that of `g`. -/
def Spans (d g : ChanDef) : Prop :=
  g.centerCh + halfWidth d.bw ≤ d.centerCh + halfWidth g.bw ∧
    d.centerCh + halfWidth d.bw ≤ g.centerCh + halfWidth g.bw

instance (d g : ChanDef) : Decidable (Spans d g) := inferInstanceAs (Decidable (_ ∧ _))

lemma chan_lt (h : d.accepted = true) : d.chan < 256 := by
  simp only [accepted, Bool.and_eq_true, decide_eq_true_eq] at h
  obtain ⟨⟨⟨hcc, -⟩, h24⟩, -⟩ := h
  rcases d with ⟨band, chan, bw, offset⟩
  cases band with
  | on24G =>
    have := h24 rfl
    simp only at this ⊢
    omega
  | on5G =>
    change (ccBand5G chan).isSome = true at hcc
    unfold ccBand5G at hcc
    simp only
    split_ifs at hcc <;> first | omega | cases hcc
  | on6G =>
    change (ccBand6G chan).isSome = true at hcc
    unfold ccBand6G at hcc
    simp only
    split_ifs at hcc <;> first | omega | cases hcc
  | max => cases hcc

def SpansFrom (band : BandType) : Prop :=
  ∀ chan < 256, (⟨band, chan, .w20, .noExt⟩ : ChanDef).ccBand.isSome = true →
    ∀ offset ∈ [ChanOffset.upper, .lower], ∀ bw ∈ [ChannelWidth.w40, .w80, .w160],
    (⟨band, chan, bw, offset⟩ : ChanDef).accepted = true →
      Spans ⟨band, chan, .w20, .noExt⟩ ⟨band, chan, bw, offset⟩ ∧
      ∀ bw' ∈ [ChannelWidth.w40, .w80, .w160], bw'.val ≤ bw.val →
        Spans ⟨band, chan, bw', offset⟩ ⟨band, chan, bw, offset⟩

lemma fits_of_wide (h : d.accepted = true)
    (hbw : d.bw ∈ [ChannelWidth.w40, .w80, .w160]) : d.offsetFits = true := by
  have hwide : d.wide = true := by simpa [wide] using hbw
  simp only [accepted, hwide, if_true, Bool.and_eq_true] at h
  exact h.2

lemma spansFrom_24G : SpansFrom .on24G := by
  have table : ∀ chan < 14, ∀ offset ∈ [ChanOffset.upper, .lower],
      (⟨.on24G, chan, .w40, offset⟩ : ChanDef).accepted = true →
      Spans ⟨.on24G, chan, .w20, .noExt⟩ ⟨.on24G, chan, .w40, offset⟩ := by
    decide
  intro chan _ _ offset hoffset bw hbw hacc
  have hfits := fits_of_wide hacc hbw
  simp only [offsetFits, Bool.and_eq_true, decide_eq_true_eq] at hfits
  obtain ⟨⟨⟨hle, rfl⟩, -⟩, -⟩ := hfits
  refine ⟨table chan (by omega) offset hoffset hacc, fun bw' hbw' hval => ?_⟩
  have hsame : bw' = .w40 := by
    cases bw' <;> first | rfl | simp [ChannelWidth.val] at hbw' hval
  rw [hsame]
  exact ⟨Nat.le_refl _, Nat.le_refl _⟩

lemma spansFrom_5G : SpansFrom .on5G := by
  have table : ∀ side ∈ [(ChanOffset.upper,
        [36, 44, 52, 60, 100, 108, 116, 124, 132, 140, 149, 157, 165, 173]),
      (.lower, [40, 48, 56, 64, 104, 112, 120, 128, 136, 144, 153, 161, 169, 177])],
      ∀ chan ∈ side.2, ∀ bw ∈ [ChannelWidth.w40, .w80, .w160],
      Spans ⟨.on5G, chan, .w20, .noExt⟩ ⟨.on5G, chan, bw, side.1⟩ ∧
      ∀ bw' ∈ [ChannelWidth.w40, .w80, .w160], bw'.val ≤ bw.val →
        Spans ⟨.on5G, chan, bw', side.1⟩ ⟨.on5G, chan, bw, side.1⟩ := by
    decide
  intro chan _ _ offset _ bw hbw hacc
  have hfits := fits_of_wide hacc hbw
  simp only [offsetFits, Bool.and_eq_true, decide_eq_true_eq] at hfits
  have hside := congrArg ChanDef.offset hfits.2
  simp only [uptOffset, uptOffset5G] at hside
  split_ifs at hside with hu _ hl
  all_goals first
    | exact absurd hside.symm hfits.1
    | exact hside ▸ table (.upper, _) mem_cons_self chan hu bw hbw
    | exact hside ▸ table (.lower, _) (mem_cons_of_mem _ mem_cons_self) chan hl bw hbw

/-- The block that holds the channel gives the center; no other one moves it. -/
lemma blockCenter_eq {width last center ch i : ℕ} (hcenter : center ≤ last)
    (hlast : last ≤ width) (hlo : 1 + i * width ≤ ch) (hhi : ch ≤ last + i * width)
    (rounds : ℕ) : blockCenter rounds width last center ch =
      if i < rounds then center + i * width else ch := by
  induction rounds with
  | zero => rfl
  | succ r ih =>
    rw [blockCenter, List.range_succ, List.foldl_append]
    change (if 1 + r * width ≤ blockCenter r width last center ch ∧
      blockCenter r width last center ch ≤ last + r * width then center + r * width
      else blockCenter r width last center ch) = _
    rw [ih]
    rcases Nat.lt_trichotomy i r with hir | rfl | hir
    · have := Nat.mul_le_mul_right width hir
      rw [Nat.succ_mul] at this
      rw [if_pos hir, if_neg (by omega), if_pos (by omega)]
    · rw [if_neg (Nat.lt_irrefl i), if_pos ⟨hlo, hhi⟩, if_pos (Nat.lt_succ_self i)]
    · have := Nat.mul_le_mul_right width hir
      rw [Nat.succ_mul] at this
      rw [if_neg (Nat.not_lt.2 hir.le), if_neg (by omega), if_neg (by omega)]

lemma spansFrom_6G : SpansFrom .on6G := by
  intro chan _ hcc offset _ bw hbw hacc
  have hle : chan ≤ 233 := by
    change (ccBand6G chan).isSome = true at hcc
    unfold ccBand6G at hcc
    split_ifs at hcc <;> first | omega | cases hcc
  have hside : chan % 8 = 1 ∧ offset = .upper ∨ chan % 8 = 5 ∧ offset = .lower := by
    have hfits := fits_of_wide hacc hbw
    simp only [offsetFits, Bool.and_eq_true, decide_eq_true_eq] at hfits
    have hoffset := congrArg ChanDef.offset hfits.2
    have hne : bw ≠ .w20 := by
      rintro rfl
      simp at hbw
    simp only [uptOffset, uptOffset6G, hne, if_false] at hoffset
    split_ifs at hoffset with _ h1 h5
    · exact .inl ⟨h1, hoffset.symm⟩
    · exact .inr ⟨h5, hoffset.symm⟩
    all_goals exact absurd hoffset.symm hfits.1
  have h80 : blockCenter 16 16 13 7 chan = 7 + (chan - 1) / 16 * 16 := by
    rw [blockCenter_eq (i := (chan - 1) / 16) (by omega) (by omega) (by omega) (by omega),
      if_pos (by omega)]
  have h160 : blockCenter 8 32 29 15 chan = 15 + (chan - 1) / 32 * 32 := by
    rw [blockCenter_eq (i := (chan - 1) / 32) (by omega) (by omega) (by omega) (by omega),
      if_pos (by omega)]
  simp only [List.mem_cons, List.not_mem_nil, or_false] at hbw ⊢
  constructor
  · rcases hbw with rfl | rfl | rfl <;> rcases hside with ⟨h8, rfl⟩ | ⟨h8, rfl⟩ <;>
      simp [Spans, centerCh, halfWidth, h80, h160] <;> omega
  · rintro bw' hbw' hval
    rcases hbw with rfl | rfl | rfl <;> rcases hbw' with rfl | rfl | rfl <;>
      rcases hside with ⟨h8, rfl⟩ | ⟨h8, rfl⟩ <;>
      simp [ChannelWidth.val, Spans, centerCh, halfWidth, h80, h160] at hval ⊢ <;> omega

lemma spans_table : ∀ band ∈ [BandType.on24G, .on5G, .on6G], SpansFrom band := by
  simp [spansFrom_24G, spansFrom_5G, spansFrom_6G]

lemma spans_of_le {d g : ChanDef} (hd : d.accepted = true) (hg : g.accepted = true)
    (h : d ≤ g) : Spans d g := by
  obtain ⟨hband, hchan, hbw, hoffset⟩ := h
  have hbands : g.band ∈ [BandType.on24G, .on5G, .on6G] := by
    simp only [accepted, Bool.and_eq_true] at hg
    rcases g with ⟨band, chan, bw, offset⟩
    cases band with
    | max => exact absurd hg.1.1.1 nofun
    | _ => simp
  have hwidths : ∀ x : ChanDef, x.wide = true → x.bw ∈ [ChannelWidth.w40, .w80, .w160] := by
    intro x hx
    simpa [wide] using hx
  rcases accepted_width hg with hgw | ⟨hg20, hgno⟩
  · have hcc : g.ccBand.isSome = true := by
      simp only [accepted, Bool.and_eq_true] at hg
      exact hg.1.1.1
    have htable := spans_table g.band hbands g.chan (chan_lt hg) hcc g.offset
      (by simpa using (uptOffset_accepted hg hgw).2) g.bw (hwidths g hgw) hg
    rcases accepted_width hd with hdw | ⟨hd20, hdno⟩
    · have heq : ChanDef.mk g.band g.chan d.bw g.offset = d := by
        rw [← hband, ← hchan, ← hoffset hdw]
      exact heq ▸ htable.2 d.bw (hwidths d hdw) hbw
    · have heq : ChanDef.mk g.band g.chan .w20 .noExt = d := by
        rw [← hband, ← hchan, ← hd20, ← hdno]
      exact heq ▸ htable.1
  · have hd20 : d.bw = .w20 := by
      rcases accepted_width hd with hdw | hd20
      · have := (wide_iff.1 (wide_of_le hg hdw hbw)).1
        have := val_of_w20 hg20
        omega
      · exact hd20.1
    have heq : d = g := le_antisymm hd hg ⟨hband, hchan, hbw, hoffset⟩
      ⟨hband.symm, hchan.symm, by rw [hd20, hg20], fun hgw => by
        have := (wide_iff.1 hgw).1
        have := val_of_w20 hg20
        omega⟩
    rw [heq]
    exact ⟨Nat.le_refl _, Nat.le_refl _⟩

end ChanDef

/-! ## Runs -/

variable {n : ℕ} {cap : DevCap}

open HwBandCtl

inductive PlaceOp (n : ℕ)
  | place (r : Fin n) (d : ChanDef) (alloc : Option ℕ)
  | remove (r : Fin n)

namespace HwBandCtl

def setChandef (b : HwBandCtl n) (r : Fin n) (d : ChanDef) : HwBandCtl n :=
  { b with rlink := Function.update b.rlink r { b.rlink r with chandef := d } }

def members (b : HwBandCtl n) (c : ChanCtx n) : Set ChanDef :=
  {d | ∃ r ∈ c.roleMap, (b.rlink r).chandef = d}

structure Joins (cap : DevCap) (b : HwBandCtl n) : Prop extends Shape cap b where
  join : ∀ c ∈ b.queue, ChanDef.IsJoin (b.members c) c.chanDef
  accepted : ∀ c ∈ b.queue, ∀ r ∈ c.roleMap, (b.rlink r).chandef.accepted = true

end HwBandCtl

/-- The band and the static status of `_phl_cc_band_map_set`. -/
def placeStep (cap : DevCap) (s : Bool × HwBandCtl n) : PlaceOp n → Bool × HwBandCtl n
  | .place r d alloc => ((s.2.setChandef r d).chanctxAdd cap s.1 r d alloc).2
  | .remove r => (s.1, s.2.chanctxDel r)

def placeInit (chandef : Fin n → ChanDef) : Bool × HwBandCtl n :=
  (false, { rlink := fun r => { chandef := chandef r } })

def PlaceAllowed (s : Bool × HwBandCtl n) : PlaceOp n → Prop
  | .place r d _ => (s.2.rlink r).chanctx = none ∧ d.accepted = true
  | .remove _ => True

namespace HwBandCtl

lemma members_congr {b b' : HwBandCtl n} {c : ChanCtx n}
    (h : ∀ r ∈ c.roleMap, (b'.rlink r).chandef = (b.rlink r).chandef) :
    b'.members c = b.members c := by
  ext d
  constructor
  · rintro ⟨r, hr, rfl⟩
    exact ⟨r, hr, (h r hr).symm⟩
  · rintro ⟨r, hr, rfl⟩
    exact ⟨r, hr, h r hr⟩

lemma members_insert {b : HwBandCtl n} {c : ChanCtx n} {r : Fin n} {d : ChanDef} :
    b.members { c with chanDef := d, roleMap := insert r c.roleMap } =
      insert (b.rlink r).chandef (b.members c) := by
  ext x
  constructor
  · rintro ⟨y, hy, rfl⟩
    rcases Finset.mem_insert.1 hy with rfl | hy
    · exact .inl rfl
    · exact .inr ⟨y, hy, rfl⟩
  · rintro (rfl | ⟨y, hy, rfl⟩)
    · exact ⟨r, Finset.mem_insert_self _ _, rfl⟩
    · exact ⟨y, Finset.mem_insert_of_mem hy, rfl⟩

lemma Shape.setChandef {b : HwBandCtl n} (h : b.Shape cap) (r : Fin n) (d : ChanDef) :
    (b.setChandef r d).Shape cap := by
  refine ⟨h.1, h.2, h.3, h.4, fun x a => Iff.trans ?_ (h.link_iff x a), h.6, h.7, h.8⟩
  by_cases hx : x = r
  · subst hx
    simp [HwBandCtl.setChandef]
  · simp [HwBandCtl.setChandef, hx]

lemma Joins.setChandef {b : HwBandCtl n} (h : b.Joins cap) {r : Fin n}
    (hr : (b.rlink r).chanctx = none) (d : ChanDef) : (b.setChandef r d).Joins cap := by
  have hother : ∀ c ∈ b.queue, ∀ x ∈ c.roleMap,
      ((b.setChandef r d).rlink x).chandef = (b.rlink x).chandef := by
    intro c hc x hx
    have hne : x ≠ r := by
      rintro rfl
      rw [h.link_of_mem hc hx] at hr
      cases hr
    simp [HwBandCtl.setChandef, hne]
  refine ⟨h.toShape.setChandef r d, fun c hc => ?_, fun c hc x hx => ?_⟩
  · rw [members_congr (hother c hc)]
    exact h.join c hc
  · rw [hother c hc x hx]
    exact h.accepted c hc x hx

variable {b : HwBandCtl n} {r : Fin n} {alloc : Option ℕ}

lemma accepts_or_declines {d : ChanDef} (hr : (b.rlink r).chanctx = none)
    (hd : d.accepted = true) :
    b.accepts cap r d alloc = true ∨ b.declines cap d alloc = true := by
  have hknown := ChanDef.accepted_known hd
  simp only [accepts, declines, creates, hr, hknown, Option.isNone_none, Bool.true_and,
    Bool.not_false, Bool.and_true]
  cases b.queue.any (fun c => c.chanDef.isChbwGrouped d) <;> cases b.kmemAlloc alloc <;>
    cases b.roomFor cap d <;> simp

lemma Joins.chanctxAdd (h : b.Joins cap) (hr : (b.rlink r).chanctx = none)
    (hd : (b.rlink r).chandef.accepted = true) :
    ∃ b', (b.chanctxAdd cap false r (b.rlink r).chandef alloc).2 = (false, b') ∧ b'.Joins cap := by
  rcases @accepts_or_declines n cap b r alloc _ hr hd with hacc | hdec
  · obtain ⟨res, b', hadd, -, hsound, hjoined, hchandef⟩ := chanctxAdd_accepts h.toShape hacc
    refine ⟨b', by rw [hadd], hsound.toShape, ?_, ?_⟩
    all_goals generalize hq : b'.queue = q at hjoined
    · intro x hx
      rw [members_congr fun y _ => hchandef y]
      cases hjoined with
      | grouped c hc =>
        have hmem := mem_of_find?_eq_some hc
        rcases (mem_modifyKey h.nodup hmem).1 hx with rfl | ⟨hx, -⟩
        · rw [members_insert]
          exact (h.join c hmem).insert hd (by simpa using find?_some hc)
        · exact h.join x hx
      | created a hc =>
        rcases mem_append.1 hx with hx | hx
        · exact h.join x hx
        · obtain rfl := List.mem_singleton.1 hx
          have hone : b.members ⟨a, (b.rlink r).chandef, {r}⟩ = {(b.rlink r).chandef} := by
            ext d
            constructor
            · rintro ⟨y, hy, rfl⟩
              rw [Finset.mem_singleton.1 hy]
              rfl
            · rintro rfl
              exact ⟨r, Finset.mem_singleton_self r, rfl⟩
          rw [hone]
          exact ChanDef.isJoin_singleton hd
    · intro x hx y hy
      rw [hchandef]
      cases hjoined with
      | grouped c hc =>
        have hmem := mem_of_find?_eq_some hc
        rcases (mem_modifyKey h.nodup hmem).1 hx with rfl | ⟨hx, -⟩
        · rcases Finset.mem_insert.1 hy with rfl | hy
          · exact hd
          · exact h.accepted c hmem y hy
        · exact h.accepted x hx y hy
      | created a hc =>
        rcases mem_append.1 hx with hx | hx
        · exact h.accepted x hx y hy
        · obtain rfl := List.mem_singleton.1 hx
          rw [Finset.mem_singleton.1 hy]
          exact hd
  · obtain ⟨res, hadd, -⟩ := chanctxAdd_declines (r := r) h.toShape hdec
    exact ⟨{ b with opMode := .none }, by rw [hadd], h.toShape.setOpMode _, h.join, h.accepted⟩

lemma Joins.chandefSync (h : b.Joins cap) {c : ChanCtx n} (hc : c ∈ b.queue)
    {roles : Finset (Fin n)} (hsub : roles ⊆ c.roleMap) (hne : roles.Nonempty) :
    ∃ d, b.chandefSync roles = some d ∧ d.ccBand = c.chanDef.ccBand ∧
      ChanDef.IsJoin (b.members { c with roleMap := roles }) d := by
  obtain ⟨hg, -⟩ := h.join c hc
  have hmem : ∀ d, d ∈ ((finRange n).filter (· ∈ roles)).map (fun r => (b.rlink r).chandef) ↔
      d ∈ b.members { c with roleMap := roles } := by
    intro d
    simp [members]
  have hbelow : ∀ d ∈ b.members { c with roleMap := roles }, d.accepted = true ∧ d ≤ c.chanDef := by
    rintro d ⟨x, hx, rfl⟩
    exact ⟨h.accepted c hc x (hsub hx), hg.2 _ ⟨x, hsub hx, rfl⟩⟩
  unfold HwBandCtl.chandefSync
  generalize ((finRange n).filter (· ∈ roles)).map (fun r => (b.rlink r).chandef) = ds at *
  cases ds with
  | nil =>
    obtain ⟨x, hx⟩ := hne
    exact absurd ((hmem _).2 ⟨x, hx, rfl⟩) not_mem_nil
  | cons d ds =>
    obtain ⟨hd, hdg⟩ := hbelow d ((hmem d).1 (by simp))
    obtain ⟨j, hj, hjmem, hle⟩ := ChanDef.syncFrom_join ds d hd hdg fun x hx =>
      hbelow x ((hmem x).1 (by simp [hx]))
    obtain ⟨hja, hjg⟩ := hbelow j ((hmem j).1 hjmem)
    refine ⟨j, hj, ?_, ⟨hja, fun x hx => hle x ((hmem x).2 hx)⟩,
      fun g' hg' => hg'.2 j ((hmem j).1 hjmem)⟩
    rw [ChanDef.ccBand, ChanDef.ccBand, hjg.1, hjg.2.1]

lemma Joins.chanctxDel (h : b.Joins cap) (r : Fin n) : (b.chanctxDel r).Joins cap := by
  rw [HwBandCtl.chanctxDel]
  cases hlink : (b.rlink r).chanctx with
  | none => exact h
  | some a =>
    obtain ⟨c, hc, rfl, hr, hat⟩ := h.ctxAt_link hlink
    have hpos := Finset.card_pos.2 ⟨r, hr⟩
    have hlen := length_pos_of_mem hc
    have hcnt := h.cnt_eq
    have hle := h.length_le
    simp only [hat]
    rw [if_neg (by omega), if_neg (by omega)]
    by_cases hone : c.roleMap.card = 1
    · rw [if_pos hone]
      obtain ⟨x, hx⟩ := Finset.card_eq_one.1 hone
      obtain rfl : r = x := by simpa [hx] using hr
      obtain ⟨hshape, hqueue, -, hchandef⟩ := h.release_last hc hx
      obtain ⟨hsound, hq, hrl⟩ := delOpMode_sound hshape
      refine ⟨hsound.toShape, fun y hy => ?_, fun y hy z hz => ?_⟩
      all_goals
        rw [hq, hqueue] at hy
        have hmem := (mem_eraseKey.1 hy).1
      · have hm := @members_congr n b _ y fun z _ =>
          (congrArg RLink.chandef (congrFun hrl z)).trans (hchandef z)
        rw [hm]
        exact h.join y hmem
      · rw [hrl, hchandef]
        exact h.accepted y hmem z hz
    · rw [if_neg hone]
      have hne : (c.roleMap.erase r).Nonempty := by
        rw [← Finset.card_pos, Finset.card_erase_of_mem hr]
        omega
      obtain ⟨d, hsync, hband, hjoin⟩ := h.chandefSync hc (Finset.erase_subset r _) hne
      have hleave := h.leave hc hr hne
      let c' : ChanCtx n := { c with roleMap := c.roleMap.erase r }
      have hc' : c' ∈ (b.rmapClr r c.addr).queue := by
        change c' ∈ modifyKey ChanCtx.addr c.addr _ b.queue
        exact (mem_modifyKey h.nodup hc).2 (.inl rfl)
      have hchandef : ∀ x, ((b.rmapClr r c.addr).rlink x).chandef = (b.rlink x).chandef :=
        fun x => setLink_chandef _ _ _ _
      have hupt := hleave.chandefUpt_mem hc'
      rw [chandefSync_congr hchandef, hsync] at hupt
      obtain ⟨hsound, hq, hrl⟩ := delOpMode_sound (hleave.redefine hc' hband)
      rw [hupt]
      have hmem : ∀ y, y ∈ modifyKey ChanCtx.addr c.addr (fun x => { x with chanDef := d })
          (b.rmapClr r c.addr).queue → y = { c' with chanDef := d } ∨ y ∈ b.queue := by
        intro y hy
        rcases (mem_modifyKey hleave.nodup hc').1 hy with rfl | ⟨hy, hney⟩
        · exact .inl rfl
        · rcases (mem_modifyKey h.nodup hc).1 hy with rfl | ⟨hy, -⟩
          · exact absurd rfl hney
          · exact .inr hy
      refine ⟨hsound.toShape, fun y hy => ?_, fun y hy z hz => ?_⟩
      all_goals
        rw [hq] at hy
        have hcases := hmem y hy
      · have hm := @members_congr n b _ y fun z _ =>
          (congrArg RLink.chandef (congrFun hrl z)).trans (hchandef z)
        rw [hm]
        rcases hcases with rfl | hy
        · exact hjoin
        · exact h.join y hy
      · rw [hrl]
        change ((b.rmapClr r c.addr).rlink z).chandef.accepted = true
        rw [hchandef]
        rcases hcases with rfl | hy
        · exact h.accepted c hc z (Finset.mem_of_mem_erase hz)
        · exact h.accepted y hy z hz

end HwBandCtl

/-! ## The result -/

variable (chandef : Fin n → ChanDef)

lemma placeInit_joins : (placeInit chandef).2.Joins cap := by
  refine ⟨?_, by simp [placeInit], by simp [placeInit]⟩
  constructor <;> simp [placeInit]

lemma placeStep_joins {s : Bool × HwBandCtl n} (hs : s.1 = false ∧ s.2.Joins cap)
    (op : PlaceOp n) (hok : PlaceAllowed s op) :
    (placeStep cap s op).1 = false ∧ (placeStep cap s op).2.Joins cap := by
  obtain ⟨failed, b⟩ := s
  obtain ⟨rfl, h⟩ := hs
  cases op with
  | place r d alloc =>
    obtain ⟨hlink, hd⟩ := hok
    have hself : ((b.setChandef r d).rlink r).chandef = d := by simp [HwBandCtl.setChandef]
    have hfree : ((b.setChandef r d).rlink r).chanctx = none := by
      simpa [HwBandCtl.setChandef] using hlink
    obtain ⟨b', hadd, hb'⟩ :=
      @Joins.chanctxAdd n cap _ r alloc (h.setChandef hlink d) hfree (by rw [hself]; exact hd)
    rw [hself] at hadd
    simp only [placeStep]
    rw [hadd]
    exact ⟨rfl, hb'⟩
  | remove r => exact ⟨rfl, h.chanctxDel r⟩

lemma run_joins {ops : List (PlaceOp n)}
    (h : Guarded (placeStep cap) PlaceAllowed (placeInit chandef) ops) :
    (run (placeStep cap) (placeInit chandef) ops).2.Joins cap :=
  (@Guarded.invariant _ _ _ _ (fun s => s.1 = false ∧ s.2.Joins cap)
    (fun _ op hs hok => placeStep_joins hs op hok) _ _ ⟨rfl, placeInit_joins chandef⟩ h).2

/-- In every run in which links ask for accepted definitions, each context has the least
accepted definition that covers its members and spans them, and two runs agree on contexts with
the same definitions of members, however these came and went. -/
theorem shared_channel_join (cap : DevCap) (chandef : Fin n → ChanDef) (ops : List (PlaceOp n))
    (h : Guarded (placeStep cap) PlaceAllowed (placeInit chandef) ops) :
    let b := (run (placeStep cap) (placeInit chandef) ops).2
    ∀ c ∈ b.queue,
      IsLeast {g | g.accepted = true ∧ ∀ d ∈ b.members c, d ≤ g} c.chanDef ∧
      (∀ d ∈ b.members c, d.Spans c.chanDef) ∧
      ∀ ops', Guarded (placeStep cap) PlaceAllowed (placeInit chandef) ops' →
        ∀ c' ∈ (run (placeStep cap) (placeInit chandef) ops').2.queue,
          (run (placeStep cap) (placeInit chandef) ops').2.members c' = b.members c →
            c'.chanDef = c.chanDef := by
  intro b c hc
  have hb := run_joins chandef h
  have hjoin := hb.join c hc
  refine ⟨hjoin, ?_, fun ops' h' c' hc' hsame => ?_⟩
  · rintro d hd
    have hle := hjoin.1.2 d hd
    obtain ⟨r, hr, rfl⟩ := hd
    exact ChanDef.spans_of_le (hb.accepted c hc r hr) hjoin.1.1 hle
  · have hjoin' := (run_joins chandef h').join c' hc'
    rw [hsame] at hjoin'
    exact hjoin'.unique hjoin

/-- Three links share channel 36, and the widest goes. -/
theorem shared_channel_join_narrows :
    let ops : List (PlaceOp 3) := [.place 0 ⟨.on5G, 36, .w20, .noExt⟩ (some 1),
      .place 1 ⟨.on5G, 36, .w80, .upper⟩ none, .place 2 ⟨.on5G, 36, .w40, .upper⟩ none, .remove 1]
    let b := (run (placeStep { mccSup := true })
      (placeInit fun _ => ⟨.on5G, 36, .w20, .noExt⟩) ops).2
    ∀ c ∈ b.queue, IsLeast {g | g.accepted = true ∧ ∀ d ∈ b.members c, d ≤ g} c.chanDef := by
  intro ops b c hc
  exact (shared_channel_join { mccSup := true } _ ops ⟨⟨by decide, by decide⟩,
    ⟨by decide, by decide⟩, ⟨by decide, by decide⟩, trivial, trivial⟩ c hc).1

/-- On 2.4 GHz a link with 80 MHz gives the context 80 MHz if it comes first and 40 MHz if it
comes second, and once the other link is gone the context has 80 MHz again. -/
theorem shared_channel_order :
    let d20 : ChanDef := ⟨.on24G, 6, .w20, .noExt⟩
    let d80 : ChanDef := ⟨.on24G, 6, .w80, .upper⟩
    let final := fun ops : List (PlaceOp 2) =>
      (run (placeStep { mccSup := true }) (placeInit fun _ => d20) ops).2.queue.map ChanCtx.chanDef
    final [.place 0 d20 (some 1), .place 1 d80 none] = [⟨.on24G, 6, .w40, .upper⟩] ∧
      final [.place 1 d80 (some 1), .place 0 d20 none] = [d80] ∧
      final [.place 0 d20 (some 1), .place 1 d80 none, .remove 0] = [d80] := by
  decide

end Rtl8831.Phl
