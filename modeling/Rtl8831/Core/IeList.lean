import Rtl8831.Core.IeSearch
import Rtl8831.Lib.Memory

/-!
# Lists of elements

A well-formed list is a list of elements, laid out one behind the other.  In such a list
the searches find the first element that matches.
-/

namespace Rtl8831.Core

open Lib List

structure Element where
  id : UInt8
  body : List UInt8
  small : body.length < 2 ^ 8

namespace Element

variable (e : Element)

def bytes : List UInt8 := e.id :: UInt8.ofNat e.body.length :: e.body

lemma length_bytes : e.bytes.length = e.body.length + 2 := rfl

def Matches (eid : UInt8) (oui : Option (List UInt8)) : Prop :=
  eid = e.id ∧ ∀ o ∈ oui, o <+: e.body

instance (eid : UInt8) (oui : Option (List UInt8)) : Decidable (e.Matches eid oui) :=
  inferInstanceAs (Decidable (_ ∧ _))

end Element

def encode (es : List Element) : List UInt8 := es.flatMap Element.bytes

@[simp] lemma encode_nil : encode [] = [] := rfl

@[simp] lemma encode_cons (e : Element) (es : List Element) :
    encode (e :: es) = e.bytes ++ encode es := rfl

@[simp] lemma encode_append (a b : List Element) : encode (a ++ b) = encode a ++ encode b :=
  flatMap_append

lemma encode_pos {es : List Element} (h : es ≠ []) : 0 < (encode es).length := by
  obtain ⟨e, es, rfl⟩ := exists_cons_of_ne_nil h
  rw [encode_cons, length_append, Element.length_bytes]
  omega

section

variable {mem : ℕ → UInt8} {e : Element} {a b es : List Element} {start p q : ℕ} {eid : UInt8}
  {oui : Option (List UInt8)}

lemma stores_element : Stores mem p e.bytes ↔
    mem p = e.id ∧ bodyLen mem p = e.body.length ∧ Stores mem (p + 2) e.body := by
  unfold Element.bytes
  rw [stores_cons, stores_cons]
  refine and_congr_right fun _ => and_congr_left fun _ => ?_
  have hlen : (UInt8.ofNat e.body.length).toNat = e.body.length := by
    rw [UInt8.toNat_ofNat']
    exact Nat.mod_eq_of_lt e.small
  unfold bodyLen
  rw [← UInt8.toNat_inj, hlen]

lemma ieEnd_element (h : Stores mem p e.bytes) : ieEnd mem p = p + e.bytes.length := by
  unfold ieEnd
  rw [(stores_element.1 h).2.1, Element.length_bytes]

/-- The list is at `start`, and the searches can count to its end. -/
structure ListAt (mem : ℕ → UInt8) (start : ℕ) (es : List Element) : Prop where
  holds : Stores mem start (encode es)
  short : (encode es).length < 2 ^ 31

lemma ListAt.element (h : ListAt mem start (a ++ e :: b)) :
    Stores mem (start + (encode a).length) e.bytes := by
  have hholds := h.holds
  rw [encode_append, encode_cons, stores_append, stores_append] at hholds
  exact hholds.2.1

lemma ListAt.shift (h : ListAt mem start es) : ListAt (fun i => mem (start + i)) 0 es := by
  refine ⟨?_, h.short⟩
  have hholds := h.holds
  unfold Stores bytesAt at hholds ⊢
  rw [range'_eq_map_range, map_map] at hholds ⊢
  simpa [Function.comp_def] using hholds

lemma first_match {α : Type} (P : α → Prop) (es : List α) :
    (∀ x ∈ es, ¬ P x) ∨ ∃ a e b, es = a ++ e :: b ∧ (∀ x ∈ a, ¬ P x) ∧ P e := by
  induction es with
  | nil => exact Or.inl (by simp)
  | cons x es ih =>
    by_cases hx : P x
    · exact Or.inr ⟨[], x, es, rfl, by simp, hx⟩
    · rcases ih with h | ⟨a, e, b, rfl, ha, he⟩
      · refine Or.inl fun y hy => ?_
        rcases mem_cons.1 hy with rfl | hy
        · exact hx
        · exact h y hy
      · refine Or.inr ⟨x :: a, e, b, rfl, fun y hy => ?_, he⟩
        rcases mem_cons.1 hy with rfl | hy
        · exact hx
        · exact ha y hy

variable {next : ℕ → ℕ} {passes : ℕ → Prop} {P : Element → Prop}

lemma reached_split (hpass : ∀ a e b, es = a ++ e :: b → passes (start + (encode a).length) →
      ¬ P e ∧ next (start + (encode a).length) = start + (encode (a ++ [e])).length)
    (hstop : ¬ passes (start + (encode es).length)) (hp : Reached next passes start p) :
    ∃ a b, es = a ++ b ∧ p = start + (encode a).length ∧ ∀ x ∈ a, ¬ P x := by
  induction hp with
  | start => exact ⟨[], es, rfl, by simp, by simp⟩
  | next _ hpasses ih =>
    obtain ⟨a, b, hes, rfl, ha⟩ := ih
    cases b with
    | nil =>
      rw [append_nil] at hes
      subst hes
      exact absurd hpasses hstop
    | cons e b =>
      obtain ⟨he, hnext⟩ := hpass a e b hes hpasses
      refine ⟨a ++ [e], b, by simp [hes], hnext, ?_⟩
      intro x hx
      rcases mem_append.1 hx with hx | hx
      · exact ha x hx
      · rw [mem_singleton.1 hx]
        exact he

lemma reached_of_split (hgo : ∀ a e b, es = a ++ e :: b → b ≠ [] → ¬ P e → passes (start + (encode a).length) ∧
      next (start + (encode a).length) = start + (encode (a ++ [e])).length)
    (hes : es = a ++ b) (hb : b ≠ []) (ha : ∀ x ∈ a, ¬ P x) :
    Reached next passes start (start + (encode a).length) := by
  induction a using reverseRecOn generalizing b with
  | nil => exact .start
  | append_singleton a e ih =>
    rw [append_assoc] at hes
    obtain ⟨hpasses, hnext⟩ := hgo a e b hes hb (ha e (by simp))
    rw [← hnext]
    exact .next (ih hes (by simp) fun x hx => ha x (mem_append_left _ hx)) hpasses

lemma getIe_pass (h : ListAt mem start es) (limit : ℤ) (a : List Element) (e : Element)
    (b : List Element) (hes : es = a ++ e :: b) :
    ieEnd mem (start + (encode a).length) = start + (encode (a ++ [e])).length ∧
      (GetIePasses mem start eid.toNat limit (start + (encode a).length) ↔
        e.id ≠ eid ∧ ((encode (a ++ [e])).length : ℤ) < limit) := by
  subst hes
  have hbytes := h.element
  have hend := ieEnd_element hbytes
  have hid := (stores_element.1 hbytes).1
  have hlen : (encode (a ++ [e])).length = (encode a).length + e.bytes.length := by simp
  refine ⟨by omega, ?_⟩
  unfold GetIePasses
  rw [hid, hend, Ne, Nat.cast_inj, UInt8.toNat_inj]
  refine and_congr_right fun _ => ?_
  omega

lemma getIe_list_first (h : ListAt mem start (a ++ e :: b)) (ha : ∀ x ∈ a, x.id ≠ eid)
    (he : e.id = eid) :
    (rtwGetIe mem start eid.toNat ((encode (a ++ e :: b)).length : ℤ)).val =
      some ⟨start + (encode a).length, e.body.length⟩ := by
  have hpos : 0 < (encode (a ++ e :: b)).length := encode_pos (by simp)
  obtain ⟨hid, hlen, -⟩ := stores_element.1 h.element
  rw [rtwGetIe_val_iff (by omega)]
  refine ⟨start + (encode a).length, ?_, by rw [hid, he], by rw [hlen]⟩
  refine reached_of_split (P := fun x => x.id = eid) (fun a' e' b' hes hb hx => ?_) rfl
    (cons_ne_nil e b) ha
  obtain ⟨hend, hpasses⟩ := getIe_pass h (encode (a ++ e :: b)).length a' e' b' hes
  refine ⟨hpasses.2 ⟨hx, ?_⟩, hend⟩
  have hrest := encode_pos hb
  have htotal : (encode (a ++ e :: b)).length = (encode (a' ++ [e'])).length + (encode b').length := by
    rw [hes, ← length_append, ← encode_append, append_assoc, singleton_append]
  omega

lemma getIe_list_none (h : ListAt mem start es) (ha : ∀ x ∈ es, x.id ≠ eid) :
    (rtwGetIe mem start eid.toNat ((encode es).length : ℤ)).val = none := by
  by_cases hes : es = []
  · subst hes
    rw [rtwGetIe_of_limit_lt _ _ _ (by simp)]
    rfl
  · have hpos := encode_pos hes
    cases hval : (rtwGetIe mem start eid.toNat ((encode es).length : ℤ)).val with
    | none => rfl
    | some r =>
      have hone : (1 : ℤ) ≤ (encode es).length := by omega
      obtain ⟨q, hq, hid, -⟩ := (rtwGetIe_val_iff hone).1 hval
      have hbound := (reached_bound hone hq).2
      obtain ⟨a, b, rfl, rfl, -⟩ := reached_split (P := fun x => x.id = eid)
        (fun a' e' b' hes' hpasses => by
          obtain ⟨hend, hiff⟩ := getIe_pass h (encode es).length a' e' b' hes'
          exact ⟨(hiff.1 hpasses).1, hend⟩)
        (fun hpasses => by
          have hlt := hpasses.2
          have hle : start + (encode es).length ≤ ieEnd mem (start + (encode es).length) :=
            Nat.le_add_right _ _
          omega) hq
      cases b with
      | nil =>
        rw [append_nil] at hbound
        omega
      | cons e b =>
        obtain ⟨hmem, -, -⟩ := stores_element.1 h.element
        rw [hmem, Nat.cast_inj, UInt8.toNat_inj] at hid
        exact absurd hid (ha e (by simp))

def LongFor (eid : UInt8) (oui : Option (List UInt8)) (es : List Element) : Prop :=
  ∀ x ∈ es, eid = x.id → ∀ o ∈ oui, o.length ≤ x.body.length

lemma ouiAt_iff_prefix {o body : List UInt8} (h : Stores mem p body)
    (hlen : o.length ≤ body.length) : OuiAt mem o p ↔ o <+: body := by
  have htake : bytesAt mem p o.length = body.take o.length := by
    rw [← take_append_drop o.length body, stores_append] at h
    have hfirst := h.1.eq
    rw [length_take, Nat.min_eq_left hlen] at hfirst
    exact hfirst
  unfold OuiAt
  rw [show (range' p o.length).map mem = bytesAt mem p o.length from rfl, htake,
    prefix_iff_eq_take, eq_comm]

lemma hit_iff_matches (h : Stores mem p e.bytes)
    (hlong : eid = e.id → ∀ o ∈ oui, o.length ≤ e.body.length) :
    GetIeExHit mem eid oui p ↔ e.Matches eid oui := by
  obtain ⟨hid, -, hbody⟩ := stores_element.1 h
  unfold GetIeExHit OuiFits Element.Matches
  rw [hid]
  refine and_congr_right fun heid => forall₂_congr fun o ho => ?_
  exact ouiAt_iff_prefix hbody (hlong heid o ho)

section

variable (h : ListAt mem 0 es) (hlong : LongFor eid oui es)
include h hlong

lemma getIeEx_pass (a : List Element)
    (e : Element) (b : List Element) (hes : es = a ++ e :: b) :
    nextCnt mem (0 + (encode a).length) = 0 + (encode (a ++ [e])).length ∧
      (encode a).length < (encode (a ++ [e])).length ∧
      (encode (a ++ [e])).length ≤ (encode es).length ∧
      (GetIeExPasses mem (encode es).length eid oui (0 + (encode a).length) ↔
        ¬ e.Matches eid oui) := by
  subst hes
  have hbytes := h.element
  have hend := ieEnd_element hbytes
  have hshort := h.short
  have hlen : (encode (a ++ [e])).length = (encode a).length + e.bytes.length := by simp
  have htotal : (encode (a ++ e :: b)).length = (encode (a ++ [e])).length + (encode b).length := by
    simp [Nat.add_assoc]
  have hpos : 0 < e.bytes.length := Nat.succ_pos _
  have hhit := hit_iff_matches hbytes (hlong e (by simp))
  refine ⟨?_, by omega, by omega, ?_⟩
  · unfold nextCnt
    rw [hend, Nat.mod_eq_of_lt (by omega)]
    omega
  · unfold GetIeExPasses
    rw [hhit]
    exact and_iff_right (by omega)

lemma getIeEx_visits {wants : IeWants}
    (hv : Visits (rtwGetIeExStep mem (encode es).length eid oui wants) 0 p) :
    ∃ a b, es = a ++ b ∧ p = 0 + (encode a).length ∧ ∀ x ∈ a, ¬ x.Matches eid oui := by
  refine reached_split (fun a e b hes hp => ?_) ?_
    ((visits_iff_reached (rtwGetIeExStep_next _ _ _ _)).1 hv)
  · obtain ⟨hnext, -, -, hiff⟩ := getIeEx_pass h hlong a e b hes
    exact ⟨hiff.1 hp, hnext⟩
  · intro hp
    have hlt := hp.1
    omega

lemma getIeEx_search_ends (wants : IeWants) :
    ∃ r, (search (rtwGetIeExStep mem (encode es).length eid oui wants)
      ((encode es).length + 1) 0).val = some r := by
  apply search_ends fun p : ℕ => (encode es).length - p
  · intro p q hv hq
    obtain ⟨hpasses, rfl⟩ := (rtwGetIeExStep_next ..).1 hq
    obtain ⟨a, b, hes, rfl, -⟩ := getIeEx_visits h hlong hv
    cases b with
    | nil =>
      rw [append_nil] at hes
      subst hes
      exact absurd hpasses.1 (by omega)
    | cons e b =>
      obtain ⟨hnext, hlt, hle, -⟩ := getIeEx_pass h hlong a e b hes
      omega
  · omega

end


lemma getIeEx_list_first (h : ListAt mem 0 (a ++ e :: b)) (hlong : LongFor eid oui (a ++ e :: b))
    (wants : IeWants) (ha : ∀ x ∈ a, ¬ x.Matches eid oui) (he : e.Matches eid oui) :
    (rtwGetIeEx mem (encode (a ++ e :: b)).length eid oui wants).val =
      some (handOut mem wants (encode a).length).val := by
  have hends := getIeEx_search_ends h hlong wants
  have hreach : Reached (nextCnt mem) (GetIeExPasses mem (encode (a ++ e :: b)).length eid oui) 0
      (0 + (encode a).length) := by
    refine reached_of_split (P := fun x => x.Matches eid oui) (fun a' e' b' hes _ hx => ?_) rfl
      (cons_ne_nil e b) ha
    obtain ⟨hnext, -, -, hiff⟩ := getIeEx_pass h hlong a' e' b' hes
    exact ⟨hiff.2 hx, hnext⟩
  rw [Nat.zero_add] at hreach
  have hbytes := h.element
  rw [Nat.zero_add] at hbytes
  have hhit := (hit_iff_matches hbytes (hlong e (by simp))).2 he
  have hlt : (encode a).length < (encode (a ++ e :: b)).length := by
    rw [encode_append, encode_cons, length_append, length_append, Element.length_bytes]
    omega
  have hval := (search_val_iff hends).2
    ⟨_, (visits_iff_reached (rtwGetIeExStep_next _ _ _ _)).2 hreach, (rtwGetIeExStep_val hlt).1 hhit⟩
  unfold rtwGetIeEx rtwGetIeExLoop
  rw [Reading.val_bind, hval]
  rfl

lemma getIeEx_list_none (h : ListAt mem 0 es) (hlong : LongFor eid oui es) (wants : IeWants)
    (ha : ∀ x ∈ es, ¬ x.Matches eid oui) :
    (rtwGetIeEx mem (encode es).length eid oui wants).val = none := by
  have hends := getIeEx_search_ends h hlong wants
  obtain ⟨r, hr⟩ := hends
  unfold rtwGetIeEx rtwGetIeExLoop
  rw [Reading.val_bind, hr]
  cases r with
  | none => rfl
  | some found =>
    obtain ⟨p, hv, hp⟩ := search_val_visits hr
    obtain ⟨a, b, hes, rfl, -⟩ := getIeEx_visits h hlong hv
    cases b with
    | nil =>
      rw [append_nil] at hes
      subst hes
      rw [rtwGetIeExStep_end (by omega)] at hp
      cases hp
    | cons e b =>
      obtain ⟨-, -, -, hiff⟩ := getIeEx_pass h hlong a e b hes
      have hpasses := hiff.2 (ha e (by simp [hes]))
      rw [(rtwGetIeExStep_val hpasses.1).2 hpasses.2] at hp
      cases hp

end

end Rtl8831.Core
