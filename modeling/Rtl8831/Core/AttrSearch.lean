import Rtl8831.Core.Attr
import Rtl8831.Core.IeSearch

/-!
# The search for an attribute is exact

The attributes of an element are the ones that tile its body by their declared lengths, as
far as they fit.  A search is right as long as it keeps to this tiling: it leaves it where
its 16-bit length wraps, and the search of WPS attributes also where the last one is cut
off.
-/

namespace Rtl8831.Core

open Lib

structure AttrFormat where
  header : ℕ
  id : ℕ → ℕ
  dataLen : ℕ → ℕ
  header_pos : 0 < header
  dataLen_lt (p : ℕ) : dataLen p < 2 ^ 16

namespace AttrFormat

variable (f : AttrFormat) (n target : ℕ)

def attrEnd (p : ℕ) : ℕ := p + f.header + f.dataLen p

def Whole (p : ℕ) : Prop := f.attrEnd p ≤ n

instance (p : ℕ) : Decidable (f.Whole n p) := inferInstanceAs (Decidable (_ ≤ _))

/-- An attribute of the tiling starts at `p`, or would start there; none before it is the
target. -/
def Tiles (p : ℕ) : Prop := Reached f.attrEnd (fun p => f.Whole n p ∧ f.id p ≠ target) 6 p

def First (p : ℕ) : Prop := f.Tiles n target p ∧ f.Whole n p ∧ f.id p = target

def attrLen (p : ℕ) : ℕ := (f.dataLen p + f.header) % 2 ^ 16

/-- A search that takes up the positions with `enters` comes to `p`. -/
def Comes (enters : ℕ → Prop) (p : ℕ) : Prop :=
  Reached (fun p => p + f.attrLen p) (fun p => enters p ∧ f.id p ≠ target) 6 p

/-- The search ends with the first attribute of the tiling that has the target id, at its whole
length, and without one if there is none. -/
def Exact (loop : ℕ → Reading (Option (Option AttrFound))) : Prop :=
  ∃ rounds r, (loop rounds).val = some r ∧
    ∀ a : AttrFound, r = some a ↔ f.First n target a.pos ∧ f.attrEnd a.pos = a.pos + a.len

def KeepsToTiling (enters : ℕ → Prop) : Prop :=
  ∀ p, f.Comes target enters p → enters p → ¬ (f.Tiles n target p ∧ f.Whole n p) →
    f.id p ≠ target ∧ f.dataLen p + f.header ≠ 2 ^ 16

variable {f n target} {enters : ℕ → Prop} {p : ℕ}

lemma Tiles.six_le (hp : f.Tiles n target p) : 6 ≤ p := by
  induction hp with
  | start => exact le_rfl
  | next _ _ ih =>
    unfold attrEnd
    omega

lemma Comes.six_le (hp : f.Comes target enters p) : 6 ≤ p := by
  induction hp with
  | start => exact le_rfl
  | next _ _ ih => exact ih.trans (Nat.le_add_right _ _)

lemma attrLen_whole (hn : n < 65542) (hp : 6 ≤ p) (hwhole : f.Whole n p) :
    f.attrEnd p = p + f.attrLen p := by
  unfold Whole attrEnd at hwhole
  unfold attrEnd attrLen
  rw [Nat.mod_eq_of_lt (by omega)]
  omega

lemma attrLen_pos (hheader : f.header ≤ 4) (h : f.dataLen p + f.header ≠ 2 ^ 16) :
    0 < f.attrLen p := by
  have hlt := f.dataLen_lt p
  have hpos := f.header_pos
  unfold attrLen
  omega

lemma Tiles.comes (hn : n < 65542) (henters : ∀ p, f.Whole n p → enters p)
    (hp : f.Tiles n target p) : f.Comes target enters p := by
  induction hp with
  | start => exact .start
  | @next p hp hpass ih =>
    rw [attrLen_whole hn (Tiles.six_le hp) hpass.1]
    exact .next ih ⟨henters p hpass.1, hpass.2⟩

lemma First.unique {q : ℕ} (hp : f.First n target p) (hq : f.First n target q) : p = q :=
  Reached.end_unique hp.1 hq.1 (fun h => h.2 hp.2.2) (fun h => h.2 hq.2.2)

section

variable {step : ℕ → Reading (Option AttrFound ⊕ ℕ)}
  (hfound : ∀ p, enters p → f.id p = target → (step p).val = .inl (some ⟨p, f.attrLen p⟩))
  (hnext : ∀ p, enters p → f.id p ≠ target → (step p).val = .inr (p + f.attrLen p))
  (hstop : ∀ p, ¬ enters p → (step p).val = .inl none)

include hfound hnext hstop

lemma step_next_iff (p q : ℕ) : (step p).val = .inr q ↔
    (enters p ∧ f.id p ≠ target) ∧ q = p + f.attrLen p := by
  by_cases hp : enters p
  · by_cases hid : f.id p = target
    · rw [hfound p hp hid]
      simp [hid]
    · rw [hnext p hp hid]
      simp [hp, hid, eq_comm]
  · rw [hstop p hp]
    simp [hp]

lemma search_at_end (hp : f.Comes target enters p) (hend : ¬ (enters p ∧ f.id p ≠ target)) :
    ∃ rounds r, (search step rounds 6).val = some r ∧
      (enters p → f.id p = target ∧ r = some ⟨p, f.attrLen p⟩) ∧ (¬ enters p → r = none) := by
  have hv := (visits_iff_reached (step_next_iff hfound hnext hstop)).2 hp
  by_cases hent : enters p
  · have hid : f.id p = target := by
      by_contra hid
      exact hend ⟨hent, hid⟩
    obtain ⟨rounds, hr⟩ := exists_search_eq hv (hfound p hent hid)
    exact ⟨rounds, _, hr, fun _ => ⟨hid, rfl⟩, fun h => absurd hent h⟩
  · obtain ⟨rounds, hr⟩ := exists_search_eq hv (hstop p hent)
    exact ⟨rounds, none, hr, fun h => absurd h hent, fun _ => rfl⟩

lemma end_of_search {rounds : ℕ} {r : Option AttrFound}
    (hr : (search step rounds 6).val = some r) :
    ∃ p, f.Comes target enters p ∧ ¬ (enters p ∧ f.id p ≠ target) := by
  obtain ⟨p, hv, hp⟩ := search_val_visits hr
  refine ⟨p, (visits_iff_reached (step_next_iff hfound hnext hstop)).1 hv, fun h => ?_⟩
  rw [hnext p h.1 h.2] at hp
  cases hp

variable (hn : n < 65542) (henters : ∀ p, f.Whole n p → enters p)
include hn henters

lemma exact_of_keeps (hheader : f.header ≤ 4) (hbound : ∀ p, enters p → p < n)
    (hkeeps : f.KeepsToTiling n target enters) : f.Exact n target fun k => search step k 6 := by
  have hpos : ∀ p, f.Comes target enters p → enters p → 0 < f.attrLen p := by
    intro p hp hent
    by_cases htile : f.Tiles n target p ∧ f.Whole n p
    · have hlen := attrLen_whole hn htile.1.six_le htile.2
      have hheader := f.header_pos
      unfold attrEnd at hlen
      omega
    · exact attrLen_pos hheader (hkeeps p hp hent htile).2
  obtain ⟨p, hp, hend⟩ : ∃ p, f.Comes target enters p ∧ ¬ (enters p ∧ f.id p ≠ target) := by
    apply exists_reached_end fun p => n - p
    intro p hp hpass
    have hstep := hpos p hp hpass.1
    have hlt := hbound p hpass.1
    omega
  obtain ⟨rounds, r, hr, hfirst, hnone⟩ := search_at_end hfound hnext hstop hp hend
  refine ⟨rounds, r, hr, fun a => ?_⟩
  by_cases hent : enters p
  · obtain ⟨hid, rfl⟩ := hfirst hent
    have htile : f.Tiles n target p ∧ f.Whole n p := by
      by_contra hstray
      exact (hkeeps p hp hent hstray).1 hid
    have hwhole := attrLen_whole hn htile.1.six_le htile.2
    constructor
    · intro ha
      cases ha
      exact ⟨⟨htile.1, htile.2, hid⟩, hwhole⟩
    · obtain ⟨pos, len⟩ := a
      rintro ⟨ha, hlen⟩
      have hsame : pos = p := ha.unique ⟨htile.1, htile.2, hid⟩
      subst hsame
      have hlen' : f.attrLen pos = len := by
        simp only at hlen
        omega
      rw [hlen']
  · have hno := hnone hent
    subst hno
    constructor
    · intro ha
      cases ha
    · rintro ⟨⟨htiles, hwhole, hid⟩, -⟩
      have hcomes := htiles.comes hn henters
      have hsame := Reached.end_unique hp hcomes hend fun h => h.2 hid
      rw [hsame] at hent
      exact absurd (henters _ hwhole) hent

omit hn henters in
lemma keeps_of_exact (hexact : f.Exact n target fun k => search step k 6) :
    f.KeepsToTiling n target enters := by
  obtain ⟨rounds, r, hr, hres⟩ := hexact
  obtain ⟨q, hq, hqend⟩ := end_of_search hfound hnext hstop hr
  have hhit : ∀ p, f.Comes target enters p → enters p → f.id p = target →
      f.Tiles n target p ∧ f.Whole n p := by
    intro p hp hent hid
    have hpend : ¬ (enters p ∧ f.id p ≠ target) := fun h => h.2 hid
    obtain ⟨rounds', r', hr', hfirst, -⟩ := search_at_end hfound hnext hstop hp hpend
    have hsame : r = r' := search_val_unique hr hr'
    obtain ⟨⟨htiles, hwhole, -⟩, -⟩ := (hres _).1 (hsame.trans (hfirst hent).2)
    exact ⟨htiles, hwhole⟩
  intro p hp hent hstray
  constructor
  · exact fun hid => hstray (hhit p hp hent hid)
  · intro hzero
    have hstay : p + f.attrLen p = p := by
      unfold attrLen
      rw [hzero, Nat.mod_self, Nat.add_zero]
    by_cases hid : f.id p = target
    · exact hstray (hhit p hp hent hid)
    · -- the walk stays at `p` and never comes to its end
      have hall : ∀ a, Reached (fun p => p + f.attrLen p)
          (fun p => enters p ∧ f.id p ≠ target) p a → a = p := by
        intro a ha
        induction ha with
        | start => rfl
        | next _ _ ih => rw [ih, hstay]
      have hback := hall q (hp.before_end hq hqend)
      rw [hback] at hqend
      exact hqend ⟨hent, hid⟩

end

end AttrFormat

section

variable (mem : ℕ → UInt8)

lemma getBe16_lt (p : ℕ) : (getBe16 mem p).val < 2 ^ 16 := by
  have hhi := (mem p).toNat_lt
  have hlo := (mem (p + 1)).toNat_lt
  unfold getBe16
  simp only [Reading.val_bind, val_readByte, Reading.val_pure]
  omega

lemma getLe16_lt (p : ℕ) : (getLe16 mem p).val < 2 ^ 16 := by
  have hlo := (mem p).toNat_lt
  have hhi := (mem (p + 1)).toNat_lt
  unfold getLe16
  simp only [Reading.val_bind, val_readByte, Reading.val_pure]
  omega

def wpsFormat : AttrFormat where
  header := 4
  id p := (getBe16 mem p).val
  dataLen p := (getBe16 mem (p + 2)).val
  header_pos := by decide
  dataLen_lt p := getBe16_lt mem (p + 2)

def p2pFormat : AttrFormat where
  header := 3
  id p := (mem p).toNat
  dataLen p := (getLe16 mem (p + 1)).val
  header_pos := by decide
  dataLen_lt p := getLe16_lt mem (p + 1)

def wfdFormat : AttrFormat where
  header := 3
  id p := (mem p).toNat
  dataLen p := (getBe16 mem (p + 1)).val
  header_pos := by decide
  dataLen_lt p := getBe16_lt mem (p + 1)

def IsIe (oui : List UInt8) : Prop := GetIeExHit mem wlanEidVendorSpecific (some oui) 0

variable {mem}

def AttrExact (kind : Prop) (f : AttrFormat) (n target : ℕ)
    (loop : ℕ → Reading (Option (Option AttrFound))) : Prop :=
  ∃ rounds r, (loop rounds).val = some r ∧ ∀ a : AttrFound,
    r = some a ↔ kind ∧ f.First n target a.pos ∧ f.attrEnd a.pos = a.pos + a.len

variable {kind : Prop}

lemma attrExact_of_kind (hkind : kind) {f : AttrFormat} {n target : ℕ}
    {loop : ℕ → Reading (Option (Option AttrFound))} :
    AttrExact kind f n target loop ↔ f.Exact n target loop := by
  simp only [AttrExact, AttrFormat.Exact, hkind, true_and]

lemma attrExact_of_not_kind (hkind : ¬ kind) {f : AttrFormat} {n target : ℕ}
    {loop : ℕ → Reading (Option (Option AttrFound))} (hloop : (loop 0).val = some none) :
    AttrExact kind f n target loop :=
  ⟨0, none, hloop, fun a => by simp [hkind]⟩

lemma exact_congr {f : AttrFormat} {n target : ℕ}
    {loop loop' : ℕ → Reading (Option (Option AttrFound))}
    (h : ∀ k, (loop k).val = (loop' k).val) : f.Exact n target loop ↔ f.Exact n target loop' := by
  simp only [AttrFormat.Exact, h]

lemma wpsAttr_exact_iff {n : ℕ} (hn : n < 65542) (target : ℕ) :
    AttrExact (IsIe mem wpsOui) (wpsFormat mem) n target (rtwGetWpsAttr mem n target) ↔
      (IsIe mem wpsOui → (wpsFormat mem).KeepsToTiling n target (· < n)) := by
  by_cases hkind : IsIe mem wpsOui
  · have hfound : ∀ p, p < n → (wpsFormat mem).id p = target →
        (rtwGetWpsAttrStep mem n target p).val = .inl (some ⟨p, (wpsFormat mem).attrLen p⟩) := by
      intro p hp hid
      unfold rtwGetWpsAttrStep
      rw [if_pos hp, Reading.val_bind, Reading.val_bind,
        if_pos (show (getBe16 mem p).val = target from hid)]
      rfl
    have hnext : ∀ p, p < n → (wpsFormat mem).id p ≠ target →
        (rtwGetWpsAttrStep mem n target p).val = .inr (p + (wpsFormat mem).attrLen p) := by
      intro p hp hid
      unfold rtwGetWpsAttrStep
      rw [if_pos hp, Reading.val_bind, Reading.val_bind,
        if_neg (show ¬ (getBe16 mem p).val = target from hid)]
      rfl
    have hstop : ∀ p, ¬ p < n → (rtwGetWpsAttrStep mem n target p).val = .inl none := by
      intro p hp
      unfold rtwGetWpsAttrStep
      rw [if_neg hp]
      rfl
    have henters : ∀ p, (wpsFormat mem).Whole n p → p < n := by
      intro p hp
      unfold AttrFormat.Whole AttrFormat.attrEnd wpsFormat at hp
      simp only at hp
      omega
    have hloop : ∀ k, (rtwGetWpsAttr mem n target k).val =
        (search (rtwGetWpsAttrStep mem n target) k 6).val := by
      intro k
      unfold rtwGetWpsAttr
      rw [Reading.val_bind, if_pos (idOuiMatch_val_iff.2 hkind)]
    rw [attrExact_of_kind hkind, exact_congr hloop]
    refine ⟨fun h _ => ?_, fun h => ?_⟩
    · exact AttrFormat.keeps_of_exact hfound hnext hstop h
    · exact AttrFormat.exact_of_keeps hfound hnext hstop hn henters (le_refl 4)
        (fun _ h => h) (h hkind)
  · refine iff_of_true (attrExact_of_not_kind hkind ?_) fun h => absurd h hkind
    unfold rtwGetWpsAttr
    rw [Reading.val_bind, if_neg (mt idOuiMatch_val_iff.1 hkind)]
    rfl

def Fits (f : AttrFormat) (n p : ℕ) : Prop := p + 3 ≤ n ∧ p + f.attrLen p ≤ n

lemma getAttr_exact_iff {oui : List UInt8} {get16 : ℕ → Reading ℕ} {f : AttrFormat}
    (hheader : f.header = 3) (hid : ∀ p, f.id p = (mem p).toNat)
    (hdata : ∀ p, f.dataLen p = (get16 (p + 1)).val) {n : ℕ} (hn : n < 65542) (target : ℕ) :
    AttrExact (IsIe mem oui) f n target (getAttr mem oui get16 n target) ↔
      (IsIe mem oui → f.KeepsToTiling n target (Fits f n)) := by
  have hlen : ∀ p, f.attrLen p = attrLenAt get16 p := by
    intro p
    unfold AttrFormat.attrLen attrLenAt
    rw [hheader, hdata]
  by_cases hkind : IsIe mem oui
  · by_cases hshort : n ≤ 6
    · have hnone : (getAttr mem oui get16 n target 0).val = some none := by
        unfold getAttr
        rw [if_pos hshort]
        rfl
      refine iff_of_true ⟨0, none, hnone, fun a => ?_⟩ fun _ p hp hfits => ?_
      · constructor
        · intro h
          cases h
        · rintro ⟨-, ⟨htiles, hwhole, -⟩, -⟩
          have hsix := htiles.six_le
          unfold AttrFormat.Whole AttrFormat.attrEnd at hwhole
          omega
      · have hsix := hp.six_le
        have hfit := hfits.1
        omega
    · have hfound : ∀ p, Fits f n p → f.id p = target →
          (getAttrStep mem get16 n target p).val = .inl (some ⟨p, f.attrLen p⟩) := by
        rintro p ⟨hhead, hfit⟩ hp
        rw [hid] at hp
        rw [hlen] at hfit ⊢
        rw [getAttrStep_val, if_pos ⟨hhead, hfit⟩, if_pos hp]
      have hnext : ∀ p, Fits f n p → f.id p ≠ target →
          (getAttrStep mem get16 n target p).val = .inr (p + f.attrLen p) := by
        rintro p ⟨hhead, hfit⟩ hp
        rw [hid] at hp
        rw [hlen] at hfit ⊢
        rw [getAttrStep_val, if_pos ⟨hhead, hfit⟩, if_neg hp]
      have hstop : ∀ p, ¬ Fits f n p → (getAttrStep mem get16 n target p).val = .inl none := by
        intro p hp
        unfold Fits at hp
        rw [hlen] at hp
        rw [getAttrStep_val, if_neg hp]
      have henters : ∀ p, f.Whole n p → Fits f n p := by
        intro p hp
        unfold AttrFormat.Whole AttrFormat.attrEnd at hp
        unfold Fits
        have hle : f.attrLen p ≤ f.dataLen p + f.header := Nat.mod_le _ _
        omega
      have hloop : ∀ k, (getAttr mem oui get16 n target k).val =
          (search (getAttrStep mem get16 n target) k 6).val := by
        intro k
        unfold getAttr
        rw [if_neg hshort, Reading.val_bind, if_pos (idOuiMatch_val_iff.2 hkind)]
      rw [attrExact_of_kind hkind, exact_congr hloop]
      refine ⟨fun h _ => ?_, fun h => ?_⟩
      · exact AttrFormat.keeps_of_exact hfound hnext hstop h
      · refine AttrFormat.exact_of_keeps hfound hnext hstop hn henters (by omega) ?_ (h hkind)
        rintro p ⟨hhead, -⟩
        omega
  · refine iff_of_true (attrExact_of_not_kind hkind ?_) fun h => absurd h hkind
    unfold getAttr
    rw [Reading.val_ite, Reading.val_bind, if_neg (mt idOuiMatch_val_iff.1 hkind)]
    split <;> rfl

variable (mem)

lemma ieEnd_zero_lt : ieEnd mem 0 < 65542 := by
  have hlen : bodyLen mem 0 < 2 ^ 8 := (mem 1).toNat_lt
  unfold ieEnd
  omega

/-- For every element, each search ends and returns the first attribute with the target id of
those that tile the element, just if it keeps to the tiling. -/
theorem attr_search_exact_iff (wpsId : UInt16) (attrId : UInt8) :
    (AttrExact (IsIe mem wpsOui) (wpsFormat mem) (ieEnd mem 0) wpsId.toNat
        (rtwGetWpsAttr mem (ieEnd mem 0) wpsId.toNat) ↔
      (IsIe mem wpsOui →
        (wpsFormat mem).KeepsToTiling (ieEnd mem 0) wpsId.toNat (· < ieEnd mem 0))) ∧
    (AttrExact (IsIe mem p2pOui) (p2pFormat mem) (ieEnd mem 0) attrId.toNat
        (rtwGetP2pAttr mem (ieEnd mem 0) attrId) ↔
      (IsIe mem p2pOui → (p2pFormat mem).KeepsToTiling (ieEnd mem 0) attrId.toNat
        (Fits (p2pFormat mem) (ieEnd mem 0)))) ∧
    (AttrExact (IsIe mem wfdOui) (wfdFormat mem) (ieEnd mem 0) attrId.toNat
        (rtwGetWfdAttr mem (ieEnd mem 0) attrId) ↔
      (IsIe mem wfdOui → (wfdFormat mem).KeepsToTiling (ieEnd mem 0) attrId.toNat
        (Fits (wfdFormat mem) (ieEnd mem 0)))) := by
  have hn := ieEnd_zero_lt mem
  refine ⟨wpsAttr_exact_iff hn _, ?_, ?_⟩
  · exact getAttr_exact_iff rfl (fun _ => rfl) (fun _ => rfl) hn _
  · exact getAttr_exact_iff rfl (fun _ => rfl) (fun _ => rfl) hn _

end

def endlessWps : ℕ → UInt8 :=
  fun i => [221, 8, 0x00, 0x50, 0xf2, 0x04, 0x10, 0x01, 0xff, 0xfc].getD i 0

/-- A P2P element with an attribute that declares 65535 bytes and runs into the next two. -/
def strayP2p : ℕ → UInt8 :=
  fun i => [221, 10, 0x50, 0x6f, 0x9a, 0x09, 2, 0xff, 0xff, 0, 0, 0].getD i 0

/-- The search for another attribute of `endlessWps` never ends, and in `strayP2p` an attribute
is found that is none. -/
theorem attr_search_not_exact :
    ¬ AttrExact (IsIe endlessWps wpsOui) (wpsFormat endlessWps) 10 0x1002
        (rtwGetWpsAttr endlessWps 10 0x1002) ∧
      ¬ AttrExact (IsIe strayP2p p2pOui) (p2pFormat strayP2p) 12 0xff
        (rtwGetP2pAttr strayP2p 12 0xff) := by
  constructor
  · intro h
    have hkind : IsIe endlessWps wpsOui := ⟨by decide, fun o ho => by cases ho; decide⟩
    have hkeeps := (wpsAttr_exact_iff (by decide) 0x1002).mp h hkind
    have hstray : ¬ (wpsFormat endlessWps).Whole 10 6 := by decide
    exact (hkeeps 6 .start (by decide) fun ht => hstray ht.2).2 (by decide)
  · intro h
    have hkind : IsIe strayP2p p2pOui := ⟨by decide, fun o ho => by cases ho; decide⟩
    have hkeeps := (getAttr_exact_iff rfl (fun _ => rfl) (fun _ => rfl) (by decide) 0xff).mp h hkind
    have hfits : Fits (p2pFormat strayP2p) 12 6 := ⟨by decide, by decide⟩
    have hcomes : (p2pFormat strayP2p).Comes 0xff (Fits (p2pFormat strayP2p) 12) 8 :=
      .next .start ⟨hfits, by decide⟩
    have hstray : ¬ (p2pFormat strayP2p).Tiles 12 0xff 8 := by
      intro ht
      rcases ht.cases_head with h | ⟨⟨h, -⟩, -⟩
      · exact absurd h (by decide)
      · exact absurd h (by decide)
    exact (hkeeps 8 hcomes ⟨by decide, by decide⟩ fun ht => hstray ht.1).1 (by decide)

end Rtl8831.Core
