import Rtl8831.Phl.TsfSync

/-!
# The recorded port is the one that is followed

The record and the hardware agree as long as no report is skipped that would have to
change them, the hardware calls of a report do not fail in part, and the client that is
looked up is a linked one.
-/

namespace Rtl8831.Phl.TsfSync

open Lib Function List Option

variable {n : ℕ}

namespace Band

variable {R : Roles n} {cap : DevCap} {mccSup : Bool} {s t : Band n} {r a c ld : Fin n} {p q : ℕ}
  {map : Finset (Fin n)} {hal : Fin n → Bool}

def ActiveAp (R : Roles n) (s : Band n) (a : Fin n) (q : ℕ) : Prop :=
  (R.type a).isAp = true ∧ s.linked a = true ∧ R.hwPort a = some q

def LinkedClient (R : Roles n) (s : Band n) (c : Fin n) (p : ℕ) : Prop :=
  (R.type c).isClient = true ∧ s.linked c = true ∧ R.hwPort c = some p

def Shares (ctl : HwBandCtl n) (r r' : Fin n) : Prop :=
  ∃ x, (ctl.rlink r).chanctx = some x ∧ (ctl.rlink r').chanctx = some x

/-- A recorded port is that of a linked client, and the started access points on its channel
context follow it; without a client or an access point there is none; and no access point
follows another port. -/
structure Consistent (R : Roles n) (s : Band n) : Prop where
  client : ∀ p, s.tsfSyncPort = some p → ∃ c, LinkedClient R s c p ∧
    ∀ a q, ActiveAp R s a q → Shares s.ctl a c → s.follows q = some p
  ended : (∀ c p, ¬ LinkedClient R s c p) ∨ (∀ a q, ¬ ActiveAp R s a q) → s.tsfSyncPort = none
  hardware : ∀ a q, (R.type a).isAp = true → R.hwPort a = some q →
    s.follows q = none ∨ ∃ p, s.tsfSyncPort = some p ∧ s.follows q = some p

structure Inv (R : Roles n) (cap : DevCap) (s : Band n) : Prop extends Consistent R s where
  ctlOk : CtlOk R cap s.ctl
  kind : ∀ r, s.linked r = true → (R.type r).isClient = true ∨ (R.type r).isAp = true

/-! ### The contexts and the counters -/

lemma mem_chanctx (h : CtlOk R cap s.ctl) (hm : s.chanctx r = some map) (r' : Fin n) :
    r' ∈ map ↔ Shares s.ctl r' r := by
  simp only [chanctx, map_eq_some_iff, bind_eq_some_iff] at hm
  obtain ⟨c, ⟨x, hx, hc⟩, rfl⟩ := hm
  obtain ⟨hcq, hca⟩ := mem_of_lookupKey hc
  constructor
  · intro hr'
    exact ⟨x, hca ▸ h.1.link_of_mem hcq hr', hx⟩
  · rintro ⟨y, hy, hyr⟩
    rw [hx] at hyr
    cases hyr
    exact h.1.mem_of_link hcq (hca.symm ▸ hy)

lemma hwPort_of_mem (h : CtlOk R cap s.ctl) (hm : s.chanctx r = some map) {r' : Fin n}
    (hr' : r' ∈ map) : (R.hwPort r').isSome := by
  obtain ⟨x, hx, -⟩ := (mem_chanctx h hm r').1 hr'
  exact h.2 r' (by simp [hx])

lemma apNum_eq_zero : s.apNum R = 0 ↔ ∀ a q, ¬ ActiveAp R s a q := by
  simp only [apNum, countP_eq_zero, mem_finRange, true_implies, ActiveAp,
    Bool.and_eq_true, isSome_iff_exists]
  constructor
  · rintro h a q ⟨hap, hl, hq⟩
    exact h a ⟨⟨⟨q, hq⟩, hap⟩, hl⟩
  · rintro h a ⟨⟨⟨q, hq⟩, hap⟩, hl⟩
    exact h a q ⟨hap, hl, hq⟩

lemma ldStaNum_eq_zero
    (hk : ∀ r, s.linked r = true → (R.type r).isClient = true ∨ (R.type r).isAp = true) :
    s.ldStaNum R = 0 ↔ ∀ c p, ¬ LinkedClient R s c p := by
  simp only [ldStaNum, countP_eq_zero, mem_finRange, true_implies, LinkedClient,
    Bool.and_eq_true, isSome_iff_exists, Bool.or_eq_true, decide_eq_true_eq]
  constructor
  · rintro h c p ⟨hc, hl, hp⟩
    exact h c ⟨⟨⟨p, hp⟩, .inl hc⟩, hl⟩
  · rintro h c ⟨⟨⟨p, hp⟩, hc | hdev⟩, hl⟩
    · exact h c p ⟨hc, hl, hp⟩
    · rcases hk c hl with hc | hap
      · exact h c p ⟨hc, hl, hp⟩
      · rw [hdev] at hap
        exact absurd hap (by decide)

/-! ### The loops -/

def LastOk (hal : Fin n → Bool) (rs : List (Fin n)) (ret : Bool) : Bool :=
  (rs.getLast?.map hal).getD ret

def targets (R : Roles n) (skip : Fin n → Bool) (rs : List (Fin n)) : List (Fin n) :=
  rs.filter fun r => !skip r && (R.type r).isAp

lemma mem_targets {skip : Fin n → Bool} {rs : List (Fin n)} :
    r ∈ targets R skip rs ↔ r ∈ rs ∧ skip r = false ∧ (R.type r).isAp = true := by
  simp [targets]

def Reached (R : Roles n) (hal : Fin n → Bool) (rs : List (Fin n)) (q : ℕ) : Prop :=
  ∃ r ∈ rs, hal r = true ∧ R.hwPort r = some q

variable {v : Bool} {rs : List (Fin n)} {ctl : HwBandCtl n} {self : Fin n} {toPort : ℕ}

lemma reached_cons :
    Reached R hal (r :: rs) q ↔ (hal r = true ∧ R.hwPort r = some q) ∨ Reached R hal rs q := by
  simp [Reached]

lemma syncLoop_spec {port : ℕ} {skip : Fin n → Bool} {act : Act} {rs : List (Fin n)}
    (hrs : ∀ r ∈ rs, (R.hwPort r).isSome) (ret : Bool) (s : Band n) :
    ∃ s', syncLoop R hal port skip act rs ret s = (true, LastOk hal (targets R skip rs) ret, s') ∧
      s'.linked = s.linked ∧ s'.ctl = s.ctl ∧ s'.tsfSyncPort = s.tsfSyncPort ∧
      ∀ q, (Reached R hal (targets R skip rs) q → s'.follows q = act.value port) ∧
        (¬ Reached R hal (targets R skip rs) q → s'.follows q = s.follows q) := by
  induction rs generalizing ret s with
  | nil =>
    refine ⟨s, rfl, rfl, rfl, rfl, fun q => ⟨?_, fun _ => rfl⟩⟩
    rintro ⟨r, hr, -⟩
    exact absurd hr not_mem_nil
  | cons r rs ih =>
    obtain ⟨toPort, hto⟩ := isSome_iff_exists.1 (hrs r mem_cons_self)
    have ih := fun ret s => ih (fun r' h => hrs r' (mem_cons_of_mem _ h)) ret s
    simp only [syncLoop, hto]
    by_cases htarget : skip r = false ∧ (R.type r).isAp = true
    · have htargets : targets R skip (r :: rs) = r :: targets R skip rs := by
        simp [targets, htarget]
      have hlast : LastOk hal (r :: targets R skip rs) ret =
          LastOk hal (targets R skip rs) (hal r) := by
        cases h : targets R skip rs with
        | nil => rfl
        | cons x xs => simp [LastOk, getLast?_cons]
      rw [if_pos htarget, htargets, hlast]
      cases hr : hal r with
      | true =>
        obtain ⟨s', hs', hlinked, hctl, hport, hq⟩ :=
          ih true (s.halTsfSync port toPort act)
        refine ⟨s', hs', hlinked, hctl, hport, fun q => ⟨fun h => ?_, fun h => ?_⟩⟩
        · by_cases hlater : Reached R hal (targets R skip rs) q
          · exact (hq q).1 hlater
          · rw [(hq q).2 hlater]
            rcases reached_cons.1 h with ⟨-, hhere⟩ | hlater'
            · rw [hto] at hhere
              cases hhere
              exact update_self _ _ _
            · exact absurd hlater' hlater
        · rw [reached_cons, not_or] at h
          rw [(hq q).2 h.2]
          refine update_of_ne ?_ _ _
          rintro rfl
          exact h.1 ⟨hr, hto⟩
      | false =>
        obtain ⟨s', hs', hlinked, hctl, hport, hq⟩ := ih false s
        refine ⟨s', hs', hlinked, hctl, hport, fun q => ?_⟩
        rw [reached_cons, hr]
        simpa using hq q
    · have htargets : targets R skip (r :: rs) = targets R skip rs := by
        simp only [targets, filter_cons]
        rw [if_neg]
        simpa using htarget
      rw [if_neg htarget, htargets]
      exact ih ret s

lemma mem_onCtx : r ∈ onCtx map ↔ r ∈ map := by simp [onCtx]

/-! ### A client connects -/

def ConnectedOk (R : Roles n) (hal : Fin n → Bool) (t : Band n) (r : Fin n) : Prop :=
  t.twoCtx = false → t.tsfSyncPort = none → 1 ≤ t.apNum R → ∀ map, t.chanctx r = some map →
    (LastOk hal (targets R (fun r' => r' = r) (onCtx map)) true = true ∧
        ∀ a ∈ targets R (fun r' => r' = r) (onCtx map), t.linked a = true → hal a = true) ∨
      ∀ a ∈ targets R (fun r' => r' = r) (onCtx map), hal a = false

lemma lastOk_eq_false (h : ∀ a ∈ rs, hal a = false) (hne : rs ≠ [])
    (ret : Bool) : LastOk hal rs ret = false := by
  simp [LastOk, getLast?_eq_some_getLast hne, h _ (getLast_mem hne)]

structure Frame (s s' : Band n) : Prop where
  linked : s'.linked = s.linked
  ctl : s'.ctl = s.ctl

lemma Frame.activeAp (h : Frame s t) : ActiveAp R t a q ↔ ActiveAp R s a q := by
  simp only [ActiveAp, h.linked]

lemma Frame.linkedClient (h : Frame s t) : LinkedClient R t c p ↔ LinkedClient R s c p := by
  simp only [LinkedClient, h.linked]

lemma Frame.inv (h : Frame s t) (hs : Inv R cap s) (hc : Consistent R t) : Inv R cap t :=
  ⟨hc, h.ctl ▸ hs.ctlOk, h.linked ▸ hs.kind⟩

lemma inv_staConnEnd (ht : Inv R cap t) (hr : (R.type r).isClient = true)
    (hl : t.linked r = true) (hok : ConnectedOk R hal t r) :
    Inv R cap (staConnEnd R mccSup hal t r).2 := by
  unfold staConnEnd
  by_cases htwo : t.twoCtx = true
  · rwa [if_pos htwo]
  rw [if_neg htwo]
  split
  case h_2 => exact ht
  case h_1 map port hmap hport =>
    by_cases hneed : 1 ≤ t.apNum R ∧ t.tsfSyncPort = none
    case neg => rwa [if_neg hneed]
    rw [if_pos hneed]
    have hrs : ∀ r' ∈ onCtx map, (R.hwPort r').isSome :=
      fun r' h => hwPort_of_mem ht.ctlOk hmap (mem_onCtx.1 h)
    obtain ⟨s', hs', hlinked, hctl, hrec, hq⟩ :=
      @syncLoop_spec n R hal port (fun r' => r' = r) .enSyncAuto _ hrs true t
    have hframe : ∀ p, Frame t (s'.setPort p) := fun p => ⟨hlinked, hctl⟩
    have hclient : LinkedClient R t r port := ⟨hr, hl, hport⟩
    have hquiet : ∀ a q, (R.type a).isAp = true → R.hwPort a = some q → t.follows q = none := by
      intro a q ha hqa
      rcases ht.hardware a q ha hqa with h | ⟨p, hp, -⟩
      · exact h
      · rw [hneed.2] at hp
        contradiction
    have htarget : ∀ a, (R.type a).isAp = true → a ∈ map →
        a ∈ targets R (fun r' => r' = r) (onCtx map) := by
      intro a ha hmem
      refine mem_targets.2 ⟨mem_onCtx.2 hmem, ?_, ha⟩
      have hne : a ≠ r := by
        rintro rfl
        rw [RoleType.not_ap_of_client hr] at ha
        contradiction
      simpa using hne
    have hvalue : ∀ a q, (R.type a).isAp = true → R.hwPort a = some q →
        s'.follows q = none ∨ s'.follows q = some port := by
      intro a q ha hqa
      by_cases hreach : Reached R hal (targets R (fun r' => r' = r) (onCtx map)) q
      · exact .inr ((hq q).1 hreach)
      · exact .inl (((hq q).2 hreach).trans (hquiet a q ha hqa))
    rw [hs']
    have hcalls : (LastOk hal (targets R (fun r' => r' = r) (onCtx map)) true = true ∧
        ∀ a ∈ targets R (fun r' => r' = r) (onCtx map), t.linked a = true → hal a = true) ∨
        targets R (fun r' => r' = r) (onCtx map) ≠ [] ∧
          ∀ a ∈ targets R (fun r' => r' = r) (onCtx map), hal a = false := by
      rcases hok (by simpa using htwo) hneed.2 hneed.1 map hmap with hall | hnone
      · exact .inl hall
      · by_cases hempty : targets R (fun r' => r' = r) (onCtx map) = []
        · rw [hempty]
          exact .inl ⟨rfl, fun a ha => absurd ha not_mem_nil⟩
        · exact .inr ⟨hempty, hnone⟩
    rcases hcalls with ⟨hlast, hall⟩ | ⟨hempty, hnone⟩
    · -- the record is the port of the client, and the started access points follow it
      rw [hlast]
      refine (hframe (some port)).inv ht ⟨?_, ?_, ?_⟩
      · rintro p hp
        cases hp
        refine ⟨r, (hframe _).linkedClient.2 hclient, fun a q ha hsh => ?_⟩
        rw [(hframe _).activeAp] at ha
        have hmem : a ∈ map := (mem_chanctx ht.ctlOk hmap a).2 (hctl ▸ hsh)
        have hat := htarget a ha.1 hmem
        exact (hq q).1 ⟨a, hat, hall a hat ha.2.1, ha.2.2⟩
      · rintro (hno | hno)
        · exact absurd ((hframe _).linkedClient.2 hclient) (hno r port)
        · have hzero : t.apNum R = 0 :=
            apNum_eq_zero.2 fun a q ha => hno a q ((hframe _).activeAp.2 ha)
          omega
      · intro a q ha hqa
        exact (hvalue a q ha hqa).imp id fun h => ⟨port, rfl, h⟩
    · -- nothing changes
      have hunreached : ∀ q, ¬ Reached R hal (targets R (fun r' => r' = r) (onCtx map)) q := by
        rintro q ⟨a, ha, hh, -⟩
        rw [hnone a ha] at hh
        contradiction
      rw [lastOk_eq_false hnone hempty]
      refine (hframe none).inv ht ⟨fun p hp => by contradiction, fun _ => rfl, ?_⟩
      intro a q ha hqa
      exact .inl (((hq q).2 (hunreached q)).trans (hquiet a q ha hqa))

/-! ### The states of the roles -/

lemma activeAp_setLinked_of_ne (h : a ≠ r) :
    ActiveAp R (s.setLinked r v) a q ↔ ActiveAp R s a q := by
  simp [ActiveAp, setLinked, h]

lemma linkedClient_setLinked_of_ne (h : c ≠ r) :
    LinkedClient R (s.setLinked r v) c p ↔ LinkedClient R s c p := by
  simp [LinkedClient, setLinked, h]

lemma ne_of_ap_of_client (ha : (R.type a).isAp = true) (hc : (R.type c).isClient = true) :
    a ≠ c := by
  rintro rfl
  rw [RoleType.not_ap_of_client hc] at ha
  contradiction

lemma kind_setLinked (hs : Inv R cap s)
    (hr : (R.type r).isClient = true ∨ (R.type r).isAp = true) (v : Bool) :
    ∀ x, (s.setLinked r v).linked x = true → (R.type x).isClient = true ∨ (R.type x).isAp = true := by
  intro x hx
  by_cases hxr : x = r
  · exact hxr ▸ hr
  · exact hs.kind x (by simpa [setLinked, hxr] using hx)

lemma inv_connected (hs : Inv R cap s) (hr : (R.type r).isClient = true) :
    Inv R cap (s.setLinked r true) := by
  have hap : ∀ a q, ActiveAp R (s.setLinked r true) a q ↔ ActiveAp R s a q := by
    intro a q
    by_cases ha : (R.type a).isAp = true
    · exact activeAp_setLinked_of_ne (ne_of_ap_of_client ha hr)
    · exact ⟨fun h => absurd h.1 ha, fun h => absurd h.1 ha⟩
  have hclient : ∀ c p, LinkedClient R s c p → LinkedClient R (s.setLinked r true) c p := by
    rintro c p ⟨hc, hl, hp⟩
    refine ⟨hc, ?_, hp⟩
    by_cases hcr : c = r
    · simp [setLinked, hcr]
    · simpa [setLinked, hcr] using hl
  refine ⟨⟨?_, ?_, hs.hardware⟩, hs.ctlOk, kind_setLinked hs (.inl hr) true⟩
  · intro p hp
    obtain ⟨c, hc, hfollow⟩ := hs.client p hp
    exact ⟨c, hclient c p hc, fun a q ha hsh => hfollow a q ((hap a q).1 ha) hsh⟩
  · rintro (hno | hno)
    · exact hs.ended (.inl fun c p hc => hno c p (hclient c p hc))
    · exact hs.ended (.inr fun a q ha => hno a q ((hap a q).2 ha))

/-! ### A client disconnects -/

def FirstClient (R : Roles n) (map : Finset (Fin n)) (self ld : Fin n) : Prop :=
  ld ∈ map ∧ ld ≠ self ∧ (R.type ld).isClient = true ∧
    ∀ x ∈ map, x < ld → x = self ∨ (R.type x).isClient = false

/-- When the client that is followed disconnects: there is one context, no access point off
it is still synchronised, and the calls for the started or synchronised access points and
the last call succeed; without a linked client, no stopped access point is synchronised, and
otherwise the first client is linked. -/
def DisconnectedOk (R : Roles n) (hal : Fin n → Bool) (t : Band n) (r : Fin n) : Prop :=
  t.tsfSyncPort ≠ none → R.hwPort r = t.tsfSyncPort →
    t.twoCtx = false ∧ ∃ map, t.chanctx r = some map ∧
      (∀ a q, (R.type a).isAp = true → R.hwPort a = some q → t.follows q ≠ none → a ∈ map) ∧
      if t.ldStaNum R = 0 then
        LastOk hal (targets R (fun r' => r' = r || !t.linked r') (onCtx map)) true = true ∧
          ∀ a q, (R.type a).isAp = true → R.hwPort a = some q → t.follows q ≠ none →
            t.linked a = true ∧ hal a = true
      else
        ∃ ld, FirstClient R map r ld ∧ t.linked ld = true ∧
          LastOk hal (targets R (fun r' => r' = ld) (onCtx map)) true = true ∧
          ∀ a ∈ map, ∀ q, (R.type a).isAp = true → R.hwPort a = some q →
            t.linked a = true ∨ t.follows q ≠ none → hal a = true

lemma searchLoop_mem {rs : List (Fin n)} {wr : Option (Fin n)}
    (h : searchLoop R self wr rs = some ld) : wr = some ld ∨ ld ∈ rs := by
  induction rs generalizing wr with
  | nil => exact .inl h
  | cons r rs ih =>
    simp only [searchLoop] at h
    split_ifs at h
    · rcases ih h with hr | hr
      · exact .inr (Option.some.inj hr ▸ mem_cons_self)
      · exact .inr (mem_cons_of_mem _ hr)
    · exact .inr (Option.some.inj h ▸ mem_cons_self)
    · rcases ih h with hr | hr
      · exact .inr (Option.some.inj hr ▸ mem_cons_self)
      · exact .inr (mem_cons_of_mem _ hr)

lemma searchLdStaWrole_mem (h : searchLdStaWrole R map r = some ld) : ld ∈ map := by
  rcases searchLoop_mem h with hr | hr
  · contradiction
  · exact mem_onCtx.1 hr

lemma searchLoop_eq {rs : List (Fin n)} {wr : Option (Fin n)}
    (hsort : rs.Pairwise (· < ·)) (hmem : ld ∈ rs) (hne : ld ≠ self)
    (hld : (R.type ld).isClient = true)
    (hfirst : ∀ x ∈ rs, x < ld → x = self ∨ (R.type x).isClient = false) :
    searchLoop R self wr rs = some ld := by
  induction rs generalizing wr with
  | nil => exact absurd hmem not_mem_nil
  | cons r rs ih =>
    rw [pairwise_cons] at hsort
    simp only [searchLoop]
    by_cases hr : r = ld
    · subst hr
      rw [if_neg hne, if_pos hld]
    · have hmem' : ld ∈ rs := (mem_cons.1 hmem).resolve_left fun h => hr h.symm
      have ih := fun wr => @ih wr hsort.2 hmem' fun x hx => hfirst x (mem_cons_of_mem _ hx)
      rcases hfirst r mem_cons_self (hsort.1 ld hmem') with hself | hclient
      · rw [if_pos hself]
        exact ih _
      · split_ifs
        · exact ih _
        · rename_i hc
          rw [hclient] at hc
          contradiction
        · exact ih _

lemma searchLdStaWrole_eq (h : FirstClient R map r ld) : searchLdStaWrole R map r = some ld :=
  searchLoop_eq ((pairwise_lt_finRange n).filter _) (mem_onCtx.2 h.1) h.2.1 h.2.2.1
    fun x hx => h.2.2.2 x (mem_onCtx.1 hx)

lemma inv_disconnected_other (hs : Inv R cap s) (hr : (R.type r).isClient = true)
    (hother : s.tsfSyncPort = none ∨ R.hwPort r ≠ s.tsfSyncPort) :
    Inv R cap (s.setLinked r false) := by
  have hap : ∀ a q, ActiveAp R (s.setLinked r false) a q ↔ ActiveAp R s a q := by
    intro a q
    by_cases ha : (R.type a).isAp = true
    · exact activeAp_setLinked_of_ne (ne_of_ap_of_client ha hr)
    · exact ⟨fun h => absurd h.1 ha, fun h => absurd h.1 ha⟩
  have hkeep : ∀ p, s.tsfSyncPort = some p → ∀ c, LinkedClient R s c p → c ≠ r := by
    rintro p hp c ⟨-, -, hcp⟩ rfl
    rcases hother with h | h
    · rw [hp] at h
      contradiction
    · exact h (hcp.trans hp.symm)
  refine ⟨⟨?_, ?_, hs.hardware⟩, hs.ctlOk, kind_setLinked hs (.inl hr) false⟩
  · intro p hp
    obtain ⟨c, hc, hfollow⟩ := hs.client p hp
    refine ⟨c, (linkedClient_setLinked_of_ne (hkeep p hp c hc)).2 hc, fun a q ha hsh => ?_⟩
    exact hfollow a q ((hap a q).1 ha) hsh
  · rintro (hno | hno)
    · by_contra hrec
      obtain ⟨p, hp⟩ := ne_none_iff_exists'.1 hrec
      obtain ⟨c, hc, -⟩ := hs.client p hp
      exact hno c p ((linkedClient_setLinked_of_ne (hkeep p hp c hc)).2 hc)
    · exact hs.ended (.inr fun a q ha => hno a q ((hap a q).2 ha))

lemma staDisConn_other (hother : t.tsfSyncPort = none ∨ R.hwPort r ≠ t.tsfSyncPort) :
    (staDisConn R mccSup hal t r).2 = t := by
  unfold staDisConn
  by_cases htwo : t.twoCtx = true
  · rw [if_pos htwo]
  rw [if_neg htwo]
  by_cases hrec : t.tsfSyncPort = none
  · rw [if_pos hrec]
  rw [if_neg hrec]
  have hne : R.hwPort r ≠ t.tsfSyncPort := hother.resolve_left hrec
  split
  · rfl
  · rw [if_neg fun h => hne h.1]
    dsimp only
    split
    · next port hport => rw [if_neg fun h => hne (h.1.trans hport.symm)]
    · rfl

lemma inv_staDisConn_last {t : Band n} (hctl : CtlOk R cap t.ctl)
    (hkind : ∀ x, t.linked x = true → (R.type x).isClient = true ∨ (R.type x).isAp = true)
    (hr : (R.type r).isClient = true) (hp : t.tsfSyncPort = some p) (hport : R.hwPort r = some p)
    (htwo : t.twoCtx = false) (hmap : t.chanctx r = some map) (hzero : t.ldStaNum R = 0)
    (honly : ∀ a q, (R.type a).isAp = true → R.hwPort a = some q → t.follows q ≠ none → a ∈ map)
    (hlast : LastOk hal (targets R (fun r' => r' = r || !t.linked r') (onCtx map)) true = true)
    (hall : ∀ a q, (R.type a).isAp = true → R.hwPort a = some q → t.follows q ≠ none →
      t.linked a = true ∧ hal a = true) :
    Inv R cap (staDisConn R mccSup hal t r).2 := by
  have hrs : ∀ r' ∈ onCtx map, (R.hwPort r').isSome :=
    fun r' h => hwPort_of_mem hctl hmap (mem_onCtx.1 h)
  obtain ⟨s', hs', hlinked, hctl', hrec, hq⟩ :=
    @syncLoop_spec n R hal p (fun r' => r' = r || !t.linked r') .disSyncAuto _ hrs true t
  have hresult : (staDisConn R mccSup hal t r).2 = s'.setPort none := by
    have hskip : ¬ (R.hwPort r = some p ∧ 1 ≤ t.apNum R ∧ 0 < t.ldStaNum R) := by omega
    unfold staDisConn
    rw [if_neg (by simp [htwo]), hp, if_neg (by simp), hmap]
    dsimp only
    rw [if_neg hskip]
    dsimp only
    rw [hp]
    dsimp only
    rw [if_pos ⟨hport, hzero⟩, hs', hlast]
  rw [hresult]
  refine ⟨⟨fun p hp => by contradiction, fun _ => rfl, ?_⟩, ?_, ?_⟩
  · intro a q ha hqa
    left
    by_cases hreach : Reached R hal (targets R (fun r' => r' = r || !t.linked r') (onCtx map)) q
    · exact (hq q).1 hreach
    · refine ((hq q).2 hreach).trans ?_
      by_contra hne
      obtain ⟨hl, hh⟩ := hall a q ha hqa hne
      refine hreach ⟨a, mem_targets.2 ⟨mem_onCtx.2 (honly a q ha hqa hne), ?_, ha⟩, hh, hqa⟩
      simp [ne_of_ap_of_client ha hr, hl]
  · exact hctl'.symm ▸ hctl
  · exact hlinked.symm ▸ hkind

lemma inv_staDisConn_next {t : Band n} (hctl : CtlOk R cap t.ctl)
    (hkind : ∀ x, t.linked x = true → (R.type x).isClient = true ∨ (R.type x).isAp = true)
    (hp : t.tsfSyncPort = some p) (hport : R.hwPort r = some p)
    (htwo : t.twoCtx = false) (hmap : t.chanctx r = some map) (hsome : t.ldStaNum R ≠ 0)
    (hap : t.apNum R ≠ 0)
    (honly : ∀ a q, (R.type a).isAp = true → R.hwPort a = some q → t.follows q ≠ none → a ∈ map)
    (hfound : searchLdStaWrole R map r = some ld) (hld : (R.type ld).isClient = true)
    (hldl : t.linked ld = true)
    (hlast : LastOk hal (targets R (fun r' => r' = ld) (onCtx map)) true = true)
    (hall : ∀ a ∈ map, ∀ q, (R.type a).isAp = true → R.hwPort a = some q →
      t.linked a = true ∨ t.follows q ≠ none → hal a = true) :
    Inv R cap (staDisConn R mccSup hal t r).2 := by
  have hldmem := searchLdStaWrole_mem hfound
  have hrs : ∀ r' ∈ onCtx map, (R.hwPort r').isSome :=
    fun r' h => hwPort_of_mem hctl hmap (mem_onCtx.1 h)
  obtain ⟨port, hldport⟩ := isSome_iff_exists.1 (hwPort_of_mem hctl hmap hldmem)
  obtain ⟨s', hs', hlinked, hctl', hrec, hq⟩ :=
    @syncLoop_spec n R hal port (fun r' => r' = ld) .enSyncAuto _ hrs true t
  have hstill : (s'.setPort (some port)).ldStaNum R = t.ldStaNum R := by
    simp only [ldStaNum, setPort, hlinked]
  have hresult : (staDisConn R mccSup hal t r).2 = s'.setPort (some port) := by
    have hneed : R.hwPort r = some p ∧ 1 ≤ t.apNum R ∧ 0 < t.ldStaNum R :=
      ⟨hport, by omega, by omega⟩
    have hrecord : (s'.setPort (some port)).tsfSyncPort = some port := rfl
    simp only [staDisConn, htwo, hp, hmap, resync, hfound, hldport, hs', hlast, if_pos hneed,
      hrecord, hstill, hsome]
    simp
  have hframe : Frame t (s'.setPort (some port)) := ⟨hlinked, hctl'⟩
  have hclient : LinkedClient R t ld port := ⟨hld, hldl, hldport⟩
  -- an access point whose call succeeds follows the new port
  have hreach : ∀ a ∈ map, ∀ q, (R.type a).isAp = true → R.hwPort a = some q → hal a = true →
      s'.follows q = some port := by
    intro a hmem q ha hqa hh
    refine (hq q).1 ⟨a, mem_targets.2 ⟨mem_onCtx.2 hmem, ?_, ha⟩, hh, hqa⟩
    simp [ne_of_ap_of_client ha hld]
  rw [hresult]
  refine ⟨⟨?_, ?_, ?_⟩, hctl'.symm ▸ hctl, hlinked.symm ▸ hkind⟩
  · intro p' hp'
    cases hp'
    refine ⟨ld, hframe.linkedClient.2 hclient, fun a q ha hsh => ?_⟩
    rw [hframe.activeAp] at ha
    have hmem : a ∈ map := by
      obtain ⟨x, hx, hxld⟩ := (mem_chanctx hctl hmap ld).1 hldmem
      obtain ⟨y, hy, hyld⟩ := hframe.ctl ▸ hsh
      rw [hx] at hyld
      cases hyld
      exact (mem_chanctx hctl hmap a).2 ⟨x, hy, hxld⟩
    exact hreach a hmem q ha.1 ha.2.2 (hall a hmem q ha.1 ha.2.2 (.inl ha.2.1))
  · rintro (hno | hno)
    · exact absurd (hframe.linkedClient.2 hclient) (hno ld port)
    · exact absurd (apNum_eq_zero.2 fun a q ha => hno a q (hframe.activeAp.2 ha)) hap
  · intro a q ha hqa
    by_cases hfree : t.follows q = none
    · by_cases hr : Reached R hal (targets R (fun r' => r' = ld) (onCtx map)) q
      · exact .inr ⟨port, rfl, (hq q).1 hr⟩
      · exact .inl (((hq q).2 hr).trans hfree)
    · have hmem := honly a q ha hqa hfree
      exact .inr ⟨port, rfl, hreach a hmem q ha hqa (hall a hmem q ha hqa (.inr hfree))⟩

lemma inv_staDisConn (hs : Inv R cap s) (hr : (R.type r).isClient = true)
    (hok : DisconnectedOk R hal (s.setLinked r false) r) :
    Inv R cap (staDisConn R mccSup hal (s.setLinked r false) r).2 := by
  by_cases hother : s.tsfSyncPort = none ∨ R.hwPort r ≠ s.tsfSyncPort
  · have hother' : (s.setLinked r false).tsfSyncPort = none ∨
        R.hwPort r ≠ (s.setLinked r false).tsfSyncPort := hother
    rw [staDisConn_other hother']
    exact inv_disconnected_other hs hr hother
  · rw [not_or, not_not] at hother
    obtain ⟨htwo, map, hmap, honly, hcase⟩ := hok hother.1 hother.2
    obtain ⟨p, hp⟩ := ne_none_iff_exists'.1 hother.1
    have hport : R.hwPort r = some p := hother.2.trans hp
    have hkind := kind_setLinked hs (.inl hr) false
    by_cases hzero : (s.setLinked r false).ldStaNum R = 0
    · rw [if_pos hzero] at hcase
      exact inv_staDisConn_last hs.ctlOk hkind hr hp hport htwo hmap hzero honly hcase.1 hcase.2
    · rw [if_neg hzero] at hcase
      obtain ⟨ld, hfirst, hldl, hlast, hall⟩ := hcase
      have hap : (s.setLinked r false).apNum R ≠ 0 := by
        intro hno
        rw [apNum_eq_zero] at hno
        refine hother.1 (hs.ended (.inr fun a q ha => hno a q ?_))
        exact (activeAp_setLinked_of_ne (ne_of_ap_of_client ha.1 hr)).2 ha
      exact inv_staDisConn_next hs.ctlOk hkind hp hport htwo hmap hzero hap honly
        (searchLdStaWrole_eq hfirst) hfirst.2.2.1 hldl hlast hall

/-! ### An access point starts -/

/-- When an access point starts while nothing is recorded and clients are linked, the first
client on its context is linked, and no other access point on it has started; one that starts
on the context of the client that is followed is synchronised. -/
def ApStartedOk (R : Roles n) (hal : Fin n → Bool) (t : Band n) (r : Fin n) : Prop :=
  (t.tsfSyncPort = none → t.twoCtx = false → 0 < t.ldStaNum R → hal r = true →
    ∀ map, t.chanctx r = some map → (∃ ld, FirstClient R map r ld ∧ t.linked ld = true) ∧
      ∀ a ∈ map, ∀ q, ActiveAp R t a q → R.hwPort r = some q) ∧
    ∀ p c q, t.tsfSyncPort = some p → LinkedClient R t c p → Shares t.ctl r c →
      R.hwPort r = some q → (t.twoCtx = false ∧ hal r = true) ∨ t.follows q = some p

lemma chanctx_of_shares (h : CtlOk R cap s.ctl) (hsh : Shares s.ctl r c) :
    ∃ map, s.chanctx r = some map := by
  obtain ⟨x, hx, -⟩ := hsh
  obtain ⟨k, hk⟩ := h.1.ctxAt_link hx
  exact ⟨k.roleMap, by simp [chanctx, hx, hk]⟩

lemma linkedClient_setLinked_ap (hr : (R.type r).isAp = true) :
    LinkedClient R (s.setLinked r v) c p ↔ LinkedClient R s c p := by
  by_cases hc : (R.type c).isClient = true
  · exact linkedClient_setLinked_of_ne (ne_of_ap_of_client hr hc).symm
  · exact ⟨fun h => absurd h.1 hc, fun h => absurd h.1 hc⟩

section

variable (hs : Inv R cap s) (hr : (R.type r).isAp = true)
include hs hr

lemma inv_apStarted
    (hfollow : ∀ p c q, s.tsfSyncPort = some p → LinkedClient R s c p → Shares s.ctl r c →
      R.hwPort r = some q → s.follows q = some p) :
    Inv R cap (s.setLinked r true) := by
  refine ⟨⟨?_, ?_, hs.hardware⟩, hs.ctlOk, kind_setLinked hs (.inr hr) true⟩
  · intro p hp
    obtain ⟨c, hc, hall⟩ := hs.client p hp
    refine ⟨c, (linkedClient_setLinked_ap hr).2 hc, fun a q ha hsh => ?_⟩
    by_cases har : a = r
    · subst har
      exact hfollow p c q hp hc hsh ha.2.2
    · exact hall a q ((activeAp_setLinked_of_ne har).1 ha) hsh
  · rintro (hno | hno)
    · exact hs.ended (.inl fun c p hc => hno c p ((linkedClient_setLinked_ap hr).2 hc))
    · refine hs.ended (.inr fun a q ha => hno a q ?_)
      by_cases har : a = r
      · exact ⟨ha.1, by simp [setLinked, har], ha.2.2⟩
      · exact (activeAp_setLinked_of_ne har).2 ha

lemma inv_apStarted_follow
    (hp : s.tsfSyncPort = some p) (hto : R.hwPort r = some toPort) :
    Inv R cap ((s.setLinked r true).halTsfSync p toPort .enSyncAuto) := by
  have hvalue : ∀ q, (s.setLinked r true).follows q = some p →
      ((s.setLinked r true).halTsfSync p toPort .enSyncAuto).follows q = some p := by
    intro q h
    by_cases hq : q = toPort
    · subst hq
      exact update_self _ _ _
    · exact (update_of_ne hq _ _).trans h
  refine ⟨⟨?_, ?_, ?_⟩, hs.ctlOk, kind_setLinked hs (.inr hr) true⟩
  · intro p' hp'
    obtain rfl : p = p' := Option.some.inj (hp.symm.trans hp')
    obtain ⟨c, hc, hall⟩ := hs.client p hp
    refine ⟨c, (linkedClient_setLinked_ap hr).2 hc, fun a q ha hsh => ?_⟩
    by_cases har : a = r
    · subst har
      obtain rfl : toPort = q := Option.some.inj (hto.symm.trans ha.2.2)
      exact update_self _ _ _
    · exact hvalue q (hall a q ((activeAp_setLinked_of_ne har).1 ha) hsh)
  · rintro (hno | hno)
    · obtain ⟨c, hc, -⟩ := hs.client p hp
      exact absurd ((linkedClient_setLinked_ap hr).2 hc) (hno c p)
    · refine absurd ⟨hr, ?_, hto⟩ (hno r toPort)
      simp [halTsfSync, setLinked]
  · intro a q ha hqa
    by_cases hq : q = toPort
    · subst hq
      exact .inr ⟨p, hp, update_self _ _ _⟩
    · have hrest : ((s.setLinked r true).halTsfSync p toPort .enSyncAuto).follows q =
          s.follows q := update_of_ne hq _ _
      rw [hrest]
      exact hs.hardware a q ha hqa

lemma inv_apStarted_first
    (hnone : s.tsfSyncPort = none) (hto : R.hwPort r = some toPort)
    (hmap : s.chanctx r = some map) (hmem : ld ∈ map)
    (hld : LinkedClient R s ld p)
    (honly : ∀ a ∈ map, ∀ q, ActiveAp R (s.setLinked r true) a q → toPort = q) :
    Inv R cap (((s.setLinked r true).halTsfSync p toPort .enSyncAuto).setPort (some p)) := by
  have hclient := (linkedClient_setLinked_ap (v := true) hr).2 hld
  refine ⟨⟨?_, ?_, ?_⟩, hs.ctlOk, kind_setLinked hs (.inr hr) true⟩
  · intro p' hp'
    obtain rfl : p = p' := Option.some.inj hp'
    refine ⟨ld, hclient, fun a q ha hsh => ?_⟩
    have hamem : a ∈ map := by
      obtain ⟨x, hx, hxr⟩ := (mem_chanctx hs.ctlOk hmap ld).1 hmem
      obtain ⟨y, hy, hyld⟩ := hsh
      obtain rfl : x = y := Option.some.inj (hx.symm.trans hyld)
      exact (mem_chanctx hs.ctlOk hmap a).2 ⟨x, hy, hxr⟩
    obtain rfl := honly a hamem q ha
    exact update_self _ _ _
  · rintro (hno | hno)
    · exact absurd hclient (hno ld p)
    · refine absurd ⟨hr, ?_, hto⟩ (hno r toPort)
      simp [halTsfSync, setPort, setLinked]
  · intro a q ha hqa
    by_cases hq : q = toPort
    · subst hq
      exact .inr ⟨p, rfl, update_self _ _ _⟩
    · left
      rcases hs.hardware a q ha hqa with h | ⟨p', hp', -⟩
      · exact (update_of_ne hq _ _).trans h
      · rw [hnone] at hp'
        contradiction

lemma inv_apStart
    (hlink : (R.hwPort r).isSome) (hok : ApStartedOk R hal (s.setLinked r true) r) :
    Inv R cap (apStart R mccSup hal (s.setLinked r true) r).2 := by
  obtain ⟨toPort, hto⟩ := isSome_iff_exists.1 hlink
  -- without the calls, the access point has to follow already
  have hidle : ¬ ((s.setLinked r true).twoCtx = false ∧ hal r = true) ∨
      s.tsfSyncPort = none ∨ s.chanctx r = none → Inv R cap (s.setLinked r true) := by
    intro hcase
    refine inv_apStarted hs hr fun p c q hp hc hsh hq => ?_
    rcases hcase with hcall | hrec | hctx
    · exact (hok.2 p c q hp ((linkedClient_setLinked_ap hr).2 hc) hsh hq).resolve_left hcall
    · rw [hrec] at hp
      contradiction
    · obtain ⟨map, hmap⟩ := chanctx_of_shares hs.ctlOk hsh
      rw [hctx] at hmap
      contradiction
  unfold apStart
  by_cases htwo : (s.setLinked r true).twoCtx = true
  · rw [if_pos htwo]
    exact hidle (.inl fun h => by rw [htwo] at h; exact absurd h.1 (by decide))
  rw [if_neg htwo, hto]
  rw [Bool.not_eq_true] at htwo
  cases hmap : (s.setLinked r true).chanctx r with
  | none => exact hidle (.inr (.inr hmap))
  | some map =>
    dsimp only
    by_cases hzero : (s.setLinked r true).ldStaNum R = 0
    · rw [if_pos hzero]
      rw [ldStaNum_eq_zero (kind_setLinked hs (.inr hr) true)] at hzero
      refine hidle (.inr (.inl (hs.ended (.inl fun c p hc => hzero c p ?_))))
      exact (linkedClient_setLinked_ap hr).2 hc
    rw [if_neg hzero]
    cases hrec : (s.setLinked r true).tsfSyncPort with
    | none =>
      dsimp only
      cases hfound : searchLdStaWrole R map r with
      | none => exact hidle (.inr (.inl hrec))
      | some ld =>
        dsimp only
        have hmem := searchLdStaWrole_mem hfound
        cases hport : R.hwPort ld with
        | none => exact hidle (.inr (.inl hrec))
        | some port =>
          dsimp only
          cases hh : hal r with
          | false => exact hidle (.inr (.inl hrec))
          | true =>
            obtain ⟨⟨ld', hfirst, hldl⟩, honly⟩ := hok.1 hrec htwo (by omega) hh map hmap
            obtain rfl : ld = ld' :=
              Option.some.inj (hfound.symm.trans (searchLdStaWrole_eq hfirst))
            have hclient : LinkedClient R s ld port :=
              (linkedClient_setLinked_ap hr).1 ⟨hfirst.2.2.1, hldl, hport⟩
            refine inv_apStarted_first hs hr hrec hto hmap hmem hclient ?_
            intro a ha q haq
            exact Option.some.inj (hto.symm.trans (honly a ha q haq))
    | some port =>
      dsimp only
      cases hh : hal r with
      | false => exact hidle (.inl (by simp [hh]))
      | true => exact inv_apStarted_follow hs hr hrec hto

end

/-! ### An access point stops -/

/-- The last access point that stops does so on one channel context, its call succeeds, and
no other access point is synchronised; an access point that stops before has no port in
common with a started one on the context of the client that is followed. -/
def ApStoppedOk (R : Roles n) (hal : Fin n → Bool) (t : Band n) (r : Fin n) : Prop :=
  t.tsfSyncPort ≠ none →
    (t.apNum R = 0 → t.twoCtx = false ∧ ∀ a q, (R.type a).isAp = true → R.hwPort a = some q →
      t.follows q ≠ none → R.hwPort r = some q ∧ hal r = true) ∧
    (t.twoCtx = false → hal r = true → ∀ a q c p, ActiveAp R t a q → R.hwPort r = some q →
      LinkedClient R t c p → t.tsfSyncPort = some p → ¬ Shares t.ctl a c)

lemma activeAp_of_stopped (h : ActiveAp R (s.setLinked r false) a q) : ActiveAp R s a q := by
  have har : a ≠ r := by
    rintro rfl
    have hl := h.2.1
    simp [setLinked] at hl
  exact (activeAp_setLinked_of_ne har).1 h

lemma inv_apStop (hs : Inv R cap s) (hr : (R.type r).isAp = true)
    (hlink : (R.hwPort r).isSome) (hok : ApStoppedOk R hal (s.setLinked r false) r) :
    Inv R cap (apStop R mccSup hal (s.setLinked r false) r).2 := by
  obtain ⟨toPort, hto⟩ := isSome_iff_exists.1 hlink
  have hkind := kind_setLinked hs (.inr hr) false
  -- while an access point is left, the record stays
  have hended : (s.setLinked r false).apNum R ≠ 0 → ∀ u : Band n,
      Frame (s.setLinked r false) u → u.tsfSyncPort = s.tsfSyncPort →
      (∀ c p, ¬ LinkedClient R u c p) ∨ (∀ a q, ¬ ActiveAp R u a q) → u.tsfSyncPort = none := by
    rintro hne u hu hrec (hno | hno)
    · refine hrec.trans (hs.ended (.inl fun c p hc => hno c p ?_))
      exact hu.linkedClient.2 ((linkedClient_setLinked_ap hr).2 hc)
    · exact absurd (apNum_eq_zero.2 fun a q ha => hno a q (hu.activeAp.2 ha)) hne
  have hsame : s.tsfSyncPort = none ∨ (s.setLinked r false).apNum R ≠ 0 →
      Inv R cap (s.setLinked r false) := by
    intro hcase
    refine ⟨⟨?_, ?_, hs.hardware⟩, hs.ctlOk, hkind⟩
    · intro p hp
      obtain ⟨c, hc, hall⟩ := hs.client p hp
      exact ⟨c, (linkedClient_setLinked_ap hr).2 hc,
        fun a q ha hsh => hall a q (activeAp_of_stopped ha) hsh⟩
    · intro hno
      rcases hcase with hrec | hne
      · exact hrec
      · exact hended hne _ ⟨rfl, rfl⟩ rfl hno
  cases hp : (s.setLinked r false).tsfSyncPort with
  | none =>
    have hu : (apStop R mccSup hal (s.setLinked r false) r).2 = s.setLinked r false := by
      unfold apStop
      rw [hp]
      split_ifs <;> rfl
    rw [hu]
    exact hsame (.inl hp)
  | some p =>
    obtain ⟨hlast, hshared⟩ := hok (by simp [hp])
    unfold apStop
    by_cases htwo : (s.setLinked r false).twoCtx = true
    · rw [if_pos htwo]
      refine hsame (.inr fun hzero => ?_)
      rw [(hlast hzero).1] at htwo
      contradiction
    rw [if_neg htwo, hp, hto]
    rw [Bool.not_eq_true] at htwo
    dsimp only
    by_cases hzero : (s.setLinked r false).apNum R = 0
    · rw [if_pos hzero]
      have hquiet : ∀ u : Band n, u.linked = (s.setLinked r false).linked → u.ctl = s.ctl →
          (∀ a q, (R.type a).isAp = true → R.hwPort a = some q → u.follows q = none) →
          Inv R cap (u.setPort none) := by
        intro u hlinked hctl hfree
        refine ⟨⟨fun p hp => by contradiction, fun _ => rfl, ?_⟩, ?_, ?_⟩
        · exact fun a q ha hqa => .inl (hfree a q ha hqa)
        · exact hctl.symm ▸ hs.ctlOk
        · exact hlinked.symm ▸ hkind
      cases hh : hal r with
      | false =>
        refine hquiet _ rfl rfl fun a q ha hqa => ?_
        by_contra hne
        have hcall := ((hlast hzero).2 a q ha hqa hne).2
        rw [hh] at hcall
        contradiction
      | true =>
        refine hquiet _ rfl rfl fun a q ha hqa => ?_
        by_cases hq : q = toPort
        · subst hq
          exact update_self _ _ _
        · refine (update_of_ne hq _ _).trans ?_
          by_contra hne
          have hport := ((hlast hzero).2 a q ha hqa hne).1
          exact hq (Option.some.inj (hport.symm.trans hto))
    · rw [if_neg hzero]
      cases hh : hal r with
      | false => exact hsame (.inr hzero)
      | true =>
        refine ⟨⟨?_, hended hzero _ ⟨rfl, rfl⟩ rfl, ?_⟩, hs.ctlOk, hkind⟩
        · intro p' hp'
          obtain rfl : p = p' := Option.some.inj (hp.symm.trans hp')
          obtain ⟨c, hc, hall⟩ := hs.client p hp
          refine ⟨c, (linkedClient_setLinked_ap hr).2 hc, fun a q ha hsh => ?_⟩
          have hq : q ≠ toPort := by
            rintro rfl
            exact hshared htwo hh a q c p ha hto ((linkedClient_setLinked_ap hr).2 hc) hp hsh
          exact (update_of_ne hq _ _).trans (hall a q (activeAp_of_stopped ha) hsh)
        · intro a q ha hqa
          by_cases hq : q = toPort
          · subst hq
            exact .inl (update_self _ _ _)
          · have hrest : ((s.setLinked r false).halTsfSync p toPort .disSyncAuto).follows q =
                s.follows q := update_of_ne hq _ _
            exact (hs.hardware a q ha hqa).imp hrest.trans fun ⟨p', hp', hf⟩ =>
              ⟨p', hp', hrest.trans hf⟩

/-! ### Whole runs -/

def ChanctxOk (R : Roles n) (s : Band n) (ctl : HwBandCtl n) : Prop :=
  ∀ p c a q, s.tsfSyncPort = some p → LinkedClient R s c p → ActiveAp R s a q →
    Shares ctl a c → s.follows q = some p

lemma inv_chanctxChanged (hs : Inv R cap s) (hctl : CtlOk R cap ctl)
    (hok : ChanctxOk R s ctl) : Inv R cap { s with ctl := ctl } := by
  refine ⟨⟨?_, hs.ended, hs.hardware⟩, hctl, hs.kind⟩
  intro p hp
  obtain ⟨c, hc, -⟩ := hs.client p hp
  exact ⟨c, hc, fun a q ha hsh => hok p c a q hp hc ha hsh⟩

def Ok (R : Roles n) (s : Band n) : Event n → Prop
  | .connected r hal => ConnectedOk R hal (s.setLinked r true) r
  | .disconnected r hal => DisconnectedOk R hal (s.setLinked r false) r
  | .apStarted r hal => ApStartedOk R hal (s.setLinked r true) r
  | .apStopped r hal => ApStoppedOk R hal (s.setLinked r false) r
  | .chanctxChanged ctl => ChanctxOk R s ctl

lemma inv_init (h : CtlOk R cap ctl) : Inv R cap (init ctl) where
  client := fun p hp => by contradiction
  ended := fun _ => rfl
  hardware := fun _ _ _ _ => .inl rfl
  ctlOk := h
  kind := fun r hr => by contradiction

lemma inv_step {e : Event n} (hs : Inv R cap s) (hlegal : Legal R cap s e) (hok : Ok R s e) :
    Inv R cap (step R mccSup s e) := by
  cases e with
  | connected r hal =>
    refine inv_staConnEnd (inv_connected hs hlegal.1) hlegal.1 ?_ hok
    simp [setLinked]
  | disconnected r hal => exact inv_staDisConn hs hlegal.1 hok
  | apStarted r hal => exact inv_apStart hs hlegal.1 hlegal.2 hok
  | apStopped r hal => exact inv_apStop hs hlegal.1 hlegal.2 hok
  | chanctxChanged ctl => exact inv_chanctxChanged hs hlegal hok

/-- In every run of reports that meet the condition, the record and the hardware agree in
every state. -/
theorem tsf_sync_port_consistent (R : Roles n) (cap : DevCap) (mccSup : Bool)
    (ctl : HwBandCtl n) (hctl : CtlOk R cap ctl) (es : List (Event n))
    (h : Guarded (step R mccSup) (fun s e => Legal R cap s e ∧ Ok R s e) (init ctl) es) :
    Consistent R (run (step R mccSup) (init ctl) es) := by
  have hinv := @Guarded.invariant _ _ _ _ (Inv R cap)
    (fun s e hs hok => inv_step hs hok.1 hok.2) _ _ (inv_init hctl) h
  exact hinv.toConsistent

def threeRoles : Roles 3 where
  type := fun r => if r = 2 then .ap else .station
  hwPort := fun r => some r
  port_inj := by
    intro r r' p _ _ hr hr'
    exact Fin.ext (Option.some.inj (hr.trans hr'.symm))

def oneCtx : HwBandCtl 3 where
  queue := [⟨1, ⟨.on24G, 6, .w20, .noExt⟩, Finset.univ⟩]
  cnt := 1
  rc := fun k => if k = .b24G then 1 else 0
  bandMap := {.b24G}
  opMode := .scc
  rlink := fun _ => ⟨some 1, ⟨.on24G, 6, .w20, .noExt⟩⟩

lemma ctlOk_oneCtx (cap : DevCap) : CtlOk threeRoles cap oneCtx := by
  refine ⟨⟨rfl, by decide, by decide, by decide, fun r a => ?_, ?_, ?_, fun h => ?_⟩, fun _ _ => rfl⟩
  · simp [oneCtx]
  · rintro (_ | _ | _ | _ | _ | _ | _ | _ | _) <;> rfl
  · rintro (_ | _ | _ | _ | _ | _ | _ | _ | _) <;> decide
  · exact absurd h (by decide)

lemma ap_threeRoles {a : Fin 3} (h : (threeRoles.type a).isAp = true) : a = 2 := by
  revert a
  decide

/-- The first station connects, the access point starts, and the station disconnects. -/
theorem tsf_sync_port_consistent_single :
    Consistent threeRoles (run (step threeRoles false) (init oneCtx)
      [.connected 0 fun _ => true, .apStarted 2 fun _ => true, .disconnected 0 fun _ => true]) := by
  refine tsf_sync_port_consistent threeRoles { mccSup := false } false oneCtx (ctlOk_oneCtx _) _
    ⟨⟨⟨rfl, rfl⟩, ?_⟩, ⟨⟨rfl, rfl⟩, ?_, ?_⟩, ⟨⟨rfl, rfl⟩, ?_⟩, trivial⟩
  · intro _ _ hap
    exact absurd hap (by decide)
  · rintro - - - - map hmap
    obtain rfl : Finset.univ = map := Option.some.inj hmap
    refine ⟨⟨0, ⟨by decide, by decide, by decide, fun x _ hx => absurd hx x.not_lt_zero⟩, rfl⟩, ?_⟩
    intro a _ q ha
    obtain rfl := ap_threeRoles ha.1
    exact ha.2.2
  · intro p c q hp
    exact absurd hp (by decide +revert)
  · rintro - -
    refine ⟨rfl, Finset.univ, rfl, fun _ _ _ _ _ => Finset.mem_univ _, ?_⟩
    rw [if_pos (by decide)]
    refine ⟨by decide, fun a q ha _ _ => ?_⟩
    obtain rfl := ap_threeRoles ha
    exact ⟨rfl, rfl⟩

/-- The second station is linked when the access point starts, and the port of the first one,
which is still connecting, is recorded. -/
theorem tsf_sync_port_connecting :
    CtlOk threeRoles { mccSup := false } oneCtx ∧
      Guarded (step threeRoles false) (Legal threeRoles { mccSup := false }) (init oneCtx)
        [.connected 1 fun _ => true, .apStarted 2 fun _ => true] ∧
      ¬ Consistent threeRoles (run (step threeRoles false) (init oneCtx)
        [.connected 1 fun _ => true, .apStarted 2 fun _ => true]) := by
  refine ⟨ctlOk_oneCtx _, ⟨⟨rfl, rfl⟩, ⟨rfl, rfl⟩, trivial⟩, fun h => ?_⟩
  obtain ⟨c, ⟨-, hl, hport⟩, -⟩ := h.client 0 rfl
  obtain rfl : c = 0 := Fin.ext (Option.some.inj hport)
  exact absurd hl (by decide)

end Band

end Rtl8831.Phl.TsfSync
