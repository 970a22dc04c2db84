import Rtl8831.Lib.Index

/-!
# Runs of a step function

A system is a step function `σ → ε → σ`; a run is a list of events handled
in order.  Two facts about runs are used throughout: an invariant kept by
every step holds after every run, and an invariant kept by the steps that
meet a side condition holds after every run whose steps all meet it.
-/

namespace Rtl8831.Lib

variable {σ ε : Type*}

/-- The state reached from `s` by handling the events of `es` in order. -/
def run (step : σ → ε → σ) (s : σ) (es : List ε) : σ :=
  es.foldl step s

@[simp] lemma run_nil (step : σ → ε → σ) (s : σ) : run step s [] = s := rfl

@[simp] lemma run_cons (step : σ → ε → σ) (s : σ) (e : ε) (es : List ε) :
    run step s (e :: es) = run step (step s e) es := rfl

lemma run_append (step : σ → ε → σ) (s : σ) (xs ys : List ε) :
    run step s (xs ++ ys) = run step (run step s xs) ys := by
  simp [run, List.foldl_append]

variable {step : σ → ε → σ} {ok : σ → ε → Prop} {s : σ}

variable {p q : σ → ε → Prop} {inv : σ → Prop} {xs ys : List ε} {es : List ε} {e : ε}

lemma run_idle (h : ∀ e ∈ es, step s e = s) :
    run step s es = s := by
  induction es with
  | nil => rfl
  | cons e es ih =>
    rw [run_cons, h e List.mem_cons_self]
    exact ih fun x hx => h x (List.mem_cons_of_mem e hx)

lemma run_single (hes : es.Nodup)
    (he : e ∈ es) (hbefore : ∀ x, x ≠ e → step s x = s)
    (hafter : ∀ x, x ≠ e → step (step s e) x = step s e) : run step s es = step s e := by
  obtain ⟨xs, ys, rfl⟩ := List.append_of_mem he
  obtain ⟨-, hys, hdisj⟩ := List.nodup_append.1 hes
  have hxs : ∀ x ∈ xs, x ≠ e := fun x hx => hdisj x hx e List.mem_cons_self
  have hys' : ∀ y ∈ ys, y ≠ e := fun y hy hye => (List.nodup_cons.1 hys).1 (hye ▸ hy)
  rw [run_append, run_idle fun x hx => hbefore x (hxs x hx), run_cons]
  exact run_idle fun y hy => hafter y (hys' y hy)

/-- Every event of the list meets `ok` in the state it is handled in. -/
def Guarded (step : σ → ε → σ) (ok : σ → ε → Prop) : σ → List ε → Prop
  | _, [] => True
  | s, e :: es => ok s e ∧ Guarded step ok (step s e) es

@[simp] lemma guarded_nil (step : σ → ε → σ) (ok : σ → ε → Prop) (s : σ) :
    Guarded step ok s [] := trivial

def decidableGuarded (step : σ → ε → σ) (ok : σ → ε → Prop) [∀ s e, Decidable (ok s e)] :
    ∀ s es, Decidable (Guarded step ok s es)
  | _, [] => isTrue trivial
  | s, e :: es =>
    have := decidableGuarded step ok (step s e) es
    inferInstanceAs (Decidable (_ ∧ _))

instance (step : σ → ε → σ) (ok : σ → ε → Prop) [∀ s e, Decidable (ok s e)] (s : σ) (es : List ε) :
    Decidable (Guarded step ok s es) := decidableGuarded step ok s es

lemma Guarded.invariant (hstep : ∀ s e, inv s → ok s e → inv (step s e)) {s : σ} {es : List ε}
    (hs : inv s) (h : Guarded step ok s es) : inv (run step s es) := by
  induction es generalizing s with
  | nil => exact hs
  | cons e es ih => exact ih (hstep s e hs h.1) h.2

lemma Guarded.steps {ok q : σ → ε → Prop} {inv : σ → Prop}
    (hstep : ∀ s e, inv s → ok s e → inv (step s e)) (hq : ∀ s e, inv s → ok s e → q s e)
    {s : σ} {es : List ε} (hs : inv s) (h : Guarded step ok s es) : Guarded step q s es := by
  induction es generalizing s with
  | nil => trivial
  | cons e es ih => exact ⟨hq s e hs h.1, ih (hstep s e hs h.1) h.2⟩

lemma Guarded.and {s : σ} {es : List ε}
    (hp : Guarded step p s es) (hq : Guarded step q s es) :
    Guarded step (fun s e => p s e ∧ q s e) s es := by
  induction es generalizing s with
  | nil => trivial
  | cons e es ih => exact ⟨⟨hp.1, hq.1⟩, ih hp.2 hq.2⟩

lemma Guarded.split (h : Guarded step ok s (xs ++ e :: ys)) :
    Guarded step ok s xs ∧ ok (run step s xs) e := by
  induction xs generalizing s with
  | nil => exact ⟨trivial, h.1⟩
  | cons x xs ih =>
    obtain ⟨hxs, he⟩ := ih h.2
    exact ⟨⟨h.1, hxs⟩, he⟩

lemma Guarded.suffix (h : Guarded step ok s (xs ++ e :: ys)) :
    Guarded step ok (step (run step s xs) e) ys := by
  induction xs generalizing s with
  | nil => exact h.2
  | cons x xs ih => exact ih h.2

lemma Guarded.history {inv : List ε → σ → Prop} {s : σ}
    (hinit : inv [] s)
    (hstep : ∀ xs e, inv xs (run step s xs) → ok (run step s xs) e →
      inv (xs ++ [e]) (step (run step s xs) e)) {es : List ε}
    (h : Guarded step ok s es) : inv es (run step s es) := by
  induction es using List.reverseRecOn with
  | nil => exact hinit
  | append_singleton xs e ih =>
    obtain ⟨hxs, he⟩ := h.split
    rw [run_append]
    exact hstep xs e (ih hxs) he

lemma guarded_congr (hpq : ∀ s e, inv s → (p s e ↔ q s e)) (hstep : ∀ s e, inv s → q s e → inv (step s e))
    {s : σ} (hs : inv s) (es : List ε) : Guarded step p s es ↔ Guarded step q s es := by
  induction es generalizing s with
  | nil => exact Iff.rfl
  | cons e es ih =>
    constructor
    · rintro ⟨he, hes⟩
      have hq := (hpq s e hs).1 he
      exact ⟨hq, (ih (hstep s e hs hq)).1 hes⟩
    · rintro ⟨he, hes⟩
      exact ⟨(hpq s e hs).2 he, (ih (hstep s e hs he)).2 hes⟩

lemma run_invariant (hstep : ∀ s e, inv s → inv (step s e)) {s : σ} (hs : inv s) (es : List ε) :
    inv (run step s es) := by
  induction es generalizing s with
  | nil => exact hs
  | cons e es ih => exact ih (hstep s e hs)

/-- A measure that no step lowers stays the same over a run just if each step keeps it. -/
lemma guarded_iff_measure {α : Type*} [PartialOrder α] {step : σ → ε → σ} {ok : σ → ε → Prop}
    {inv : σ → Prop} (μ : σ → α) (hstep : ∀ s e, inv s → inv (step s e))
    (hle : ∀ s e, inv s → μ s ≤ μ (step s e)) (heq : ∀ s e, inv s → (μ (step s e) = μ s ↔ ok s e))
    {s : σ} (hs : inv s) (es : List ε) : Guarded step ok s es ↔ μ (run step s es) = μ s := by
  have hmono : ∀ (es : List ε) (s : σ), inv s → μ s ≤ μ (run step s es) := by
    intro es
    induction es with
    | nil => exact fun s _ => le_refl (μ s)
    | cons e es ih => exact fun s hs => (hle s e hs).trans (ih _ (hstep s e hs))
  induction es generalizing s with
  | nil => exact iff_of_true trivial rfl
  | cons e es ih =>
    have hrest := hmono es _ (hstep s e hs)
    constructor
    · rintro ⟨hok, hes⟩
      exact ((ih (hstep s e hs)).1 hes).trans ((heq s e hs).2 hok)
    · intro hsame
      rw [run_cons] at hsame
      have hfirst : μ (step s e) = μ s := le_antisymm (hrest.trans_eq hsame) (hle s e hs)
      exact ⟨(heq s e hs).1 hfirst, (ih (hstep s e hs)).2 (hsame.trans hfirst.symm)⟩

end Rtl8831.Lib
