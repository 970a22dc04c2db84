import Rtl8831.Phl.TwtTable

/-!
# Deleting the entries of a station

The walk over the ring deletes one entry of each config that it selects, unless the HAL refuses;
that it ends with the first one for a single id makes no difference, as then no other config is
selected.
-/

namespace Rtl8831.Phl.Twt

open List

variable {σ ρ : Type*} [DecidableEq σ] [DecidableEq ρ] {wrole : σ → ρ} {ring : Ring σ ρ}
  {handed : Fin configNum → Bool} {i : Fin configNum} {sta : σ} {id : UInt8}
  {q todo done : List (StaInfo σ)} {x : StaInfo σ}

lemma isFor_iff : x.isFor sta id = true ↔ sta = x.sta ∧ (id = deleteAll ∨ id = x.id) := by
  simp [StaInfo.isFor]

lemma isFor_single (hid : id ≠ deleteAll) : x.isFor sta id = true ↔ x = ⟨sta, id⟩ := by
  rw [isFor_iff]
  constructor
  · rintro ⟨rfl, hall | rfl⟩
    · exact absurd hall hid
    · rfl
  · rintro rfl
    exact ⟨rfl, .inr rfl⟩

lemma staExist_iff : staExist q sta id = true ↔ ∃ x ∈ q, x.isFor sta id = true := any_eq_true

lemma deleteStaLoop_of_exist (h : ∃ x ∈ todo, x.isFor sta id = true) :
    ∃ before x after, todo = before ++ x :: after ∧ x.isFor sta id = true ∧
      deleteStaLoop sta id todo done = (.success, after ++ (done ++ before)) := by
  induction todo generalizing done with
  | nil =>
    obtain ⟨x, hx, -⟩ := h
    exact absurd hx not_mem_nil
  | cons y todo ih =>
    by_cases hy : y.isFor sta id = true
    · refine ⟨[], y, todo, rfl, hy, ?_⟩
      rw [deleteStaLoop, if_pos hy, append_nil]
    · have hrest : ∃ x ∈ todo, x.isFor sta id = true := by
        obtain ⟨x, hx, hfor⟩ := h
        rcases mem_cons.1 hx with rfl | hx
        · exact absurd hfor hy
        · exact ⟨x, hx, hfor⟩
      obtain ⟨before, x, after, rfl, hfor, heq⟩ := @ih (done ++ [y]) hrest
      refine ⟨y :: before, x, after, rfl, hfor, ?_⟩
      rw [deleteStaLoop, if_neg hy, heq, append_assoc]
      rfl

section

variable (h : staExist q sta id = true)
include h

lemma deleteSta_of_exist :
    (deleteSta q sta id).1 = .success ∧
      ∃ x, x.isFor sta id = true ∧ q.Perm (x :: (deleteSta q sta id).2) := by
  obtain ⟨before, x, after, hq, hfor, heq⟩ :=
    @deleteStaLoop_of_exist σ _ sta id q [] (staExist_iff.1 h)
  rw [deleteSta, heq]
  refine ⟨rfl, x, hfor, ?_⟩
  rw [hq]
  exact perm_middle.trans (List.Perm.cons x perm_append_comm)

lemma deleteSta_sound (hq : q.Nodup) :
    (deleteSta q sta id).2.Nodup ∧ ∀ x ∈ (deleteSta q sta id).2, x ∈ q := by
  obtain ⟨-, x, -, hperm⟩ := deleteSta_of_exist h
  exact ⟨(nodup_cons.1 (hperm.nodup hq)).2,
    fun y hy => hperm.mem_iff.2 (mem_cons_of_mem x hy)⟩

lemma deleteSta_none_left (hq : q.Nodup)
    (hone : ∀ x ∈ q, ∀ y ∈ q, x.isFor sta id = true → y.isFor sta id = true → x = y) :
    ∀ y ∈ (deleteSta q sta id).2, ¬ y.isFor sta id = true := by
  obtain ⟨-, x, hfor, hperm⟩ := deleteSta_of_exist h
  intro y hy hyfor
  have hyx : y = x := hone y (hperm.mem_iff.2 (mem_cons_of_mem x hy)) x
    (hperm.mem_iff.2 mem_cons_self) hyfor hfor
  rw [hyx] at hy
  exact (nodup_cons.1 (hperm.nodup hq)).1 hy

end

lemma selects_iff {g : Target σ ρ} {c : Config σ ρ} :
    g.selects c = true ↔ c.state ≠ .free ∧ c.role = some g.wrole ∧
      (∀ type, g.type = some type → c.negoType = type) ∧
        ∃ x ∈ c.staQueue, x.isFor g.sta g.id = true := by
  rw [← staExist_iff]
  cases htype : g.type <;> simp [Target.selects, htype, and_assoc]

def Target.left (g : Target σ ρ) (hal : Fin configNum → Bool) (ring : Ring σ ρ)
    (i : Fin configNum) : Config σ ρ :=
  if g.selects (ring i) = true ∧ hal i = true then
    (ring i).setQueue (deleteSta (ring i).staQueue g.sta g.id).2
  else ring i

def Target.Empties (g : Target σ ρ) (hal : Fin configNum → Bool) (ring : Ring σ ρ)
    (i : Fin configNum) : Prop :=
  g.selects (ring i) = true ∧ hal i = true ∧
    (deleteSta (ring i).staQueue g.sta g.id).2 = []

/-- The walk has come past the configs of `past`. -/
structure Deleted.Past (g : Target σ ρ) (hal : Fin configNum → Bool) (ring : Ring σ ρ)
    (past : List (Fin configNum)) (d : Deleted σ ρ) : Prop where
  ring_eq : ∀ j, d.ring j = if j ∈ past then g.left hal ring j else ring j
  bitmap : ∀ n, d.bitmap.getLsbD n = true ↔
    ∃ j : Fin configNum, j.val = n ∧ j ∈ past ∧ g.Empties hal ring j
  error : d.error = true ↔ ∃ j ∈ past, g.selects (ring j) = true ∧ hal j = false

variable {g : Target σ ρ} {hal : Fin configNum → Bool} {past rest : List (Fin configNum)}
  {d : Deleted σ ρ}

lemma past_nil : Deleted.Past g hal ring [] ⟨ring, 0, false⟩ where
  ring_eq _ := rfl
  bitmap n := by simp
  error := by simp

lemma Target.left_of_not (h : ¬ (g.selects (ring i) = true ∧ hal i = true)) :
    g.left hal ring i = ring i := if_neg h

lemma Deleted.Past.skip (h : d.Past g hal ring past)
    (hi : ¬ (g.selects (ring i) = true ∧ hal i = true)) :
    Past g hal ring (past ++ [i])
      { d with error := d.error || (g.selects (ring i) && !hal i) } where
  ring_eq j := by
    rw [h.ring_eq]
    by_cases hj : j ∈ past
    · rw [if_pos hj, if_pos (mem_append_left _ hj)]
    · rw [if_neg hj]
      by_cases hji : j = i
      · subst hji
        rw [if_pos (mem_append_right _ (mem_singleton_self j)), Target.left_of_not hi]
      · rw [if_neg (by simp [hj, hji])]
  bitmap n := by
    rw [h.bitmap]
    refine exists_congr fun j => and_congr_right fun _ => ?_
    rw [mem_append, mem_singleton]
    refine ⟨fun hc => ⟨.inl hc.1, hc.2⟩, ?_⟩
    rintro ⟨hj | rfl, hempties⟩
    · exact ⟨hj, hempties⟩
    · exact absurd ⟨hempties.1, hempties.2.1⟩ hi
  error := by
    rw [Bool.or_eq_true, h.error, Bool.and_eq_true, Bool.not_eq_true']
    simp [or_and_right, exists_or]

lemma bit_iff {bitmap : BitVec 8} {m n : ℕ} :
    (bitmap ||| 1#8 <<< m).getLsbD n = true ↔ bitmap.getLsbD n = true ∨ (m < 8 ∧ m = n) := by
  rw [BitVec.getLsbD_or, Bool.or_eq_true, ← BitVec.twoPow_eq, BitVec.getLsbD_twoPow,
    Bool.and_eq_true, decide_eq_true_iff, decide_eq_true_iff]

lemma Deleted.Past.delete (h : d.Past g hal ring past) (hi : i ∉ past)
    (hsel : g.selects (ring i) = true) (hhal : hal i = true) (hid : (ring i).twtId = i) :
    Past g hal ring (past ++ [i]) { d with
      ring := Function.update d.ring i
        ((ring i).setQueue (deleteSta (ring i).staQueue g.sta g.id).2)
      bitmap := bitmapAfter d.bitmap (ring i) (deleteSta (ring i).staQueue g.sta g.id).2 } where
  ring_eq j := by
    change Function.update d.ring i _ j = _
    by_cases hji : j = i
    · subst hji
      rw [Function.update_self, if_pos (mem_append_right _ (mem_singleton_self j))]
      exact (if_pos ⟨hsel, hhal⟩).symm
    · rw [Function.update_of_ne hji, h.ring_eq]
      simp [hji]
  bitmap n := by
    have hold : (∃ j : Fin configNum, j.val = n ∧ j ∈ past ++ [i] ∧ g.Empties hal ring j) ↔
        d.bitmap.getLsbD n = true ∨ (i.val = n ∧ g.Empties hal ring i) := by
      rw [h.bitmap]
      constructor
      · rintro ⟨j, hj, hmem, hempties⟩
        rcases mem_append.1 hmem with hp | hji
        · exact .inl ⟨j, hj, hp, hempties⟩
        · obtain rfl := mem_singleton.1 hji
          exact .inr ⟨hj, hempties⟩
      · rintro (⟨j, hj, hp, hempties⟩ | ⟨hj, hempties⟩)
        · exact ⟨j, hj, mem_append_left _ hp, hempties⟩
        · exact ⟨i, hj, mem_append_right _ (mem_singleton_self i), hempties⟩
    rw [hold, bitmapAfter]
    by_cases hq : (deleteSta (ring i).staQueue g.sta g.id).2 = []
    · have hlt : i.val < 8 := Nat.lt_of_lt_of_le i.isLt (by decide)
      rw [if_pos (by rw [hq]; rfl), hid, bit_iff, and_iff_right hlt]
      exact or_congr_right (and_iff_left ⟨hsel, hhal, hq⟩).symm
    · rw [if_neg (fun hl => hq (length_eq_zero_iff.1 hl))]
      exact (or_iff_left fun hc => hq hc.2.2.2).symm
  error := by
    rw [h.error]
    simp [or_and_right, exists_or, hhal]

lemma Deleted.Past.extend (h : d.Past g hal ring past)
    (hrest : ∀ j ∈ rest, g.selects (ring j) = false) : Past g hal ring (past ++ rest) d := by
  induction rest generalizing past with
  | nil =>
    rw [append_nil]
    exact h
  | cons i rest ih =>
    have hi := hrest i mem_cons_self
    have hnot : ¬ (g.selects (ring i) = true ∧ hal i = true) := by simp [hi]
    have hskip := h.skip hnot
    rw [hi, Bool.false_and, Bool.or_false] at hskip
    have hall := ih hskip fun j hj => hrest j (mem_cons_of_mem i hj)
    rwa [append_assoc] at hall

def Target.Once (g : Target σ ρ) (ring : Ring σ ρ) : Prop :=
  g.id = deleteAll ∨
    ∀ i j, g.selects (ring i) = true → g.selects (ring j) = true → i = j

section

variable (honce : g.Once ring) (hid : ∀ i, g.selects (ring i) = true → (ring i).twtId = i)
include honce hid

lemma past_loop (h : d.Past g hal ring past)
    (hnodup : (past ++ rest).Nodup) :
    (deleteStaInfoLoop g hal rest d).Past g hal ring (past ++ rest) := by
  induction rest generalizing past d with
  | nil =>
    rw [append_nil]
    exact h
  | cons i rest ih =>
    have hi : i ∉ past := fun hp =>
      (nodup_append.1 hnodup).2.2 i hp i mem_cons_self rfl
    have hring : d.ring i = ring i := by rw [h.ring_eq, if_neg hi]
    have hcons : past ++ i :: rest = past ++ [i] ++ rest := by simp
    rw [hcons] at hnodup ⊢
    rw [deleteStaInfoLoop, hring]
    by_cases hsel : g.selects (ring i) = true
    · rw [if_pos hsel]
      by_cases hhal : hal i = true
      · obtain ⟨hok, -⟩ := deleteSta_of_exist (staExist_iff.2 (selects_iff.1 hsel).2.2.2)
        have hpair : deleteSta (ring i).staQueue g.sta g.id =
            (.success, (deleteSta (ring i).staQueue g.sta g.id).2) := Prod.ext hok rfl
        have hdel := h.delete hi hsel hhal (hid i hsel)
        rw [if_pos hhal, hpair]
        dsimp only
        by_cases hall : g.id = deleteAll
        · rw [if_neg (not_not.2 hall)]
          exact ih hdel hnodup
        · rw [if_pos hall]
          refine hdel.extend fun j hj => ?_
          by_contra hsj
          obtain rfl := (honce.resolve_left hall) i j hsel (by simpa using hsj)
          exact (nodup_append.1 hnodup).2.2 i
            (mem_append_right _ (mem_singleton_self i)) i hj rfl
      · have hskip := h.skip fun hc => hhal hc.2
        rw [hsel, Bool.eq_false_iff.2 hhal, Bool.not_false, Bool.and_true, Bool.or_true] at hskip
        rw [if_neg hhal]
        exact ih hskip hnodup
    · have hskip := h.skip fun hc => hsel hc.1
      rw [Bool.eq_false_iff.2 hsel, Bool.false_and, Bool.or_false] at hskip
      rw [if_neg hsel]
      exact ih hskip hnodup

/-- What `_twt_delete_sta_info` does: one entry of each config that is selected is deleted unless
the HAL refuses, and the configs are reported that lost their last one. -/
lemma deleteTarget_past :
    (deleteTarget ring g hal).Past g hal ring (finRange configNum) :=
  past_loop honce hid past_nil (nodup_finRange configNum)

lemma deleteTarget_ring (i : Fin configNum) :
    (deleteTarget ring g hal).ring i = g.left hal ring i := by
  rw [(deleteTarget_past honce hid).ring_eq, if_pos (mem_finRange i)]

lemma deleteTarget_bitmap (n : ℕ) :
    (deleteTarget ring g hal).bitmap.getLsbD n = true ↔
      ∃ j : Fin configNum, j.val = n ∧ g.Empties hal ring j := by
  rw [(deleteTarget_past honce hid).bitmap]
  simp [mem_finRange]

lemma deleteTarget_error :
    (deleteTarget ring g hal).error = true ↔ ∃ j, g.selects (ring j) = true ∧ hal j = false := by
  rw [(deleteTarget_past honce hid).error]
  simp [mem_finRange]

end

end Rtl8831.Phl.Twt
