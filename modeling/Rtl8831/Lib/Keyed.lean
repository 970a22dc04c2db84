import Rtl8831.Lib.Index

/-!
# Lists of records with distinct keys

A table kept as a list whose records are told apart by a key: the record of
a key is changed in place, or taken out.  The lemmas say what this does to
the keys, to membership and to the number of records with a property.
-/

namespace Rtl8831.Lib

open List

variable {α κ : Type*} [DecidableEq κ] (key : α → κ)

def lookupKey (k : κ) (l : List α) : Option α :=
  l.find? fun x => decide (key x = k)

def modifyKey (k : κ) (f : α → α) (l : List α) : List α :=
  l.map fun x => if key x = k then f x else x

def eraseKey (k : κ) (l : List α) : List α :=
  l.filter fun x => decide (key x ≠ k)

variable {key} {k : κ} {f : α → α} {l : List α}

omit [DecidableEq κ] in
lemma eq_of_key_eq (hl : (l.map key).Nodup) {x y : α} (hx : x ∈ l) (hy : y ∈ l)
    (h : key x = key y) : x = y :=
  inj_on_of_nodup_map hl hx hy h

variable {g : α → α} {k' : κ} {x : α} (p : α → Bool)

lemma mem_of_lookupKey (h : lookupKey key k l = some x) : x ∈ l ∧ key x = k :=
  ⟨mem_of_find?_eq_some h, by simpa using find?_some h⟩

lemma lookupKey_of_mem (hl : (l.map key).Nodup) {x : α} (hx : x ∈ l) :
    lookupKey key (key x) l = some x := by
  cases h : lookupKey key (key x) l with
  | none =>
    have := find?_eq_none.1 h x hx
    simp at this
  | some y =>
    obtain ⟨hy, hk⟩ := mem_of_lookupKey h
    rw [eq_of_key_eq hl hy hx hk]

lemma notMem_of_lookupKey (h : lookupKey key k l = none) : k ∉ l.map key := by
  rintro hmem
  obtain ⟨x, hx, rfl⟩ := mem_map.1 hmem
  simpa using find?_eq_none.1 h x hx

lemma lookupKey_map (hg : ∀ x, key (g x) = key x) :
    lookupKey key k (l.map g) = (lookupKey key k l).map g := by
  simp [lookupKey, find?_map, hg]

lemma lookupKey_modifyKey (hf : ∀ x, key (f x) = key x) :
    lookupKey key k' (modifyKey key k f l) =
      if k' = k then (lookupKey key k' l).map f else lookupKey key k' l := by
  have hkey : ∀ x, key (if key x = k then f x else x) = key x := by
    intro x
    by_cases hx : key x = k
    · rw [if_pos hx, hf]
    · rw [if_neg hx]
  rw [modifyKey, lookupKey_map hkey]
  cases h : lookupKey key k' l with
  | none => simp
  | some x =>
    have hx := (mem_of_lookupKey h).2
    by_cases hk : k' = k
    · simp [hx, hk]
    · simp [hx, hk]

lemma lookupKey_eraseKey :
    lookupKey key k' (eraseKey key k l) = if k' = k then none else lookupKey key k' l := by
  rw [lookupKey, eraseKey, find?_filter]
  by_cases hk : k' = k
  · subst hk
    simp
  · rw [if_neg hk, lookupKey]
    congr 1
    funext x
    by_cases hx : key x = k'
    · simp [hx, hk]
    · simp [hx]

lemma lookupKey_cons :
    lookupKey key k' (x :: l) = if key x = k' then some x else lookupKey key k' l := by
  by_cases hx : key x = k'
  · simp [lookupKey, hx]
  · simp [lookupKey, hx]

lemma modifyKey_of_fixed (hl : (l.map key).Nodup) {x : α} (hx : x ∈ l) (hf : f x = x) :
    modifyKey key (key x) f l = l := by
  conv_rhs => rw [← map_id l]
  apply map_congr_left
  intro y hy
  by_cases hk : key y = key x
  · rw [if_pos hk, eq_of_key_eq hl hy hx hk, hf, id_eq]
  · rw [if_neg hk, id_eq]

@[simp] lemma length_modifyKey : (modifyKey key k f l).length = l.length := by
  simp [modifyKey]

lemma map_key_modifyKey (hf : ∀ x, key (f x) = key x) :
    (modifyKey key k f l).map key = l.map key := by
  rw [modifyKey, map_map]
  apply map_congr_left
  intro x _
  by_cases hx : key x = k
  · simp [hx, hf]
  · simp [hx]

lemma modifyKey_congr (h : ∀ x ∈ l, key x = k → f x = g x) :
    modifyKey key k f l = modifyKey key k g l := by
  apply map_congr_left
  intro x hx
  by_cases hk : key x = k
  · rw [if_pos hk, if_pos hk, h x hx hk]
  · rw [if_neg hk, if_neg hk]

lemma modifyKey_modifyKey (hg : ∀ x, key (g x) = key x) :
    modifyKey key k f (modifyKey key k g l) = modifyKey key k (fun x => f (g x)) l := by
  rw [modifyKey, modifyKey, modifyKey, map_map]
  apply map_congr_left
  intro x _
  by_cases hx : key x = k
  · simp [hx, hg]
  · simp [hx]

lemma mem_modifyKey (hl : (l.map key).Nodup) {x y : α} (hx : x ∈ l) :
    y ∈ modifyKey key (key x) f l ↔ y = f x ∨ (y ∈ l ∧ key y ≠ key x) := by
  simp only [modifyKey, mem_map]
  constructor
  · rintro ⟨z, hz, rfl⟩
    by_cases hk : key z = key x
    · rw [if_pos hk, eq_of_key_eq hl hz hx hk]
      exact .inl rfl
    · rw [if_neg hk]
      exact .inr ⟨hz, hk⟩
  · rintro (rfl | ⟨hy, hk⟩)
    · exact ⟨x, hx, if_pos rfl⟩
    · exact ⟨y, hy, if_neg hk⟩

lemma modifyKey_of_notMem (h : k ∉ l.map key) : modifyKey key k f l = l := by
  rw [modifyKey]
  conv_rhs => rw [← map_id l]
  apply map_congr_left
  intro x hx
  have hne : key x ≠ k := fun hk => h (hk ▸ mem_map_of_mem hx)
  exact if_neg hne

lemma modifyKey_append (h : key x ∉ l.map key) :
    modifyKey key (key x) f (l ++ [x]) = l ++ [f x] := by
  have hrest : modifyKey key (key x) f l = l := modifyKey_of_notMem h
  simpa [modifyKey] using hrest

lemma countP_modifyKey (hf : ∀ x ∈ l, key x = k → p (f x) = p x) :
    (modifyKey key k f l).countP p = l.countP p := by
  rw [modifyKey, countP_map]
  apply countP_congr
  intro x hx
  by_cases hk : key x = k
  · simp [hk, hf x hx hk]
  · simp [hk]

lemma mem_eraseKey {y : α} : y ∈ eraseKey key k l ↔ y ∈ l ∧ key y ≠ k := by
  simp [eraseKey]

lemma eraseKey_modifyKey (hf : ∀ x, key (f x) = key x) :
    eraseKey key k (modifyKey key k f l) = eraseKey key k l := by
  induction l with
  | nil => rfl
  | cons x l ih =>
    have htail : eraseKey key k (modifyKey key k f (x :: l)) =
        eraseKey key k ((if key x = k then f x else x) :: modifyKey key k f l) := rfl
    rw [htail]
    by_cases hx : key x = k
    · have hfx : key (f x) = k := (hf x).trans hx
      simpa [eraseKey, hx, hfx] using ih
    · simpa [eraseKey, hx] using ih

lemma find?_modifyKey {p : α → Bool} (hp : ∀ x, key x = k → p (f x) = false) :
    (modifyKey key k f l).find? p = (eraseKey key k l).find? p := by
  induction l with
  | nil => rfl
  | cons x l ih =>
    have htail : modifyKey key k f (x :: l) =
        (if key x = k then f x else x) :: modifyKey key k f l := rfl
    rw [htail, find?_cons]
    by_cases hx : key x = k
    · have hhead : eraseKey key k (x :: l) = eraseKey key k l := by simp [eraseKey, hx]
      rw [if_pos hx, hp x hx, hhead, ih]
    · have hhead : eraseKey key k (x :: l) = x :: eraseKey key k l := by simp [eraseKey, hx]
      rw [if_neg hx, hhead, find?_cons, ih]

lemma nodup_eraseKey (hl : (l.map key).Nodup) : ((eraseKey key k l).map key).Nodup :=
  hl.sublist (filter_sublist.map key)

lemma eraseKey_of_notMem (h : k ∉ l.map key) : eraseKey key k l = l := by
  apply filter_eq_self.2
  intro z hz
  have hne : key z ≠ k := fun hk => h (hk ▸ mem_map_of_mem hz)
  simpa using hne

lemma eraseKey_of_lookupKey_none (h : lookupKey key k l = none) : eraseKey key k l = l := by
  apply filter_eq_self.2
  intro z hz
  simpa using find?_eq_none.1 h z hz

section

variable (hl : (l.map key).Nodup)
include hl

lemma eraseP_eq_eraseKey :
    (l.eraseP fun x => decide (key x = k)) = eraseKey key k l := by
  induction l with
  | nil => rfl
  | cons x l ih =>
    obtain ⟨hx, hl⟩ := nodup_cons.1 hl
    by_cases hk : key x = k
    · have hrest : eraseKey key k l = l := eraseKey_of_notMem (hk ▸ hx)
      have hhead : eraseKey key k (x :: l) = eraseKey key k l := by simp [eraseKey, hk]
      rw [eraseP_cons_of_pos (by simpa using hk), hhead, hrest]
    · have hhead : eraseKey key k (x :: l) = x :: eraseKey key k l := by simp [eraseKey, hk]
      rw [eraseP_cons_of_neg (by simpa using hk), hhead, ih hl]

lemma perm_eraseKey {x : α} (hx : x ∈ l) :
    (x :: eraseKey key (key x) l).Perm l := by
  induction l with
  | nil => cases hx
  | cons y l ih =>
    have hy : key y ∉ l.map key := (nodup_cons.1 hl).1
    rcases mem_cons.1 hx with rfl | hx
    · have hhead : eraseKey key (key x) (x :: l) = eraseKey key (key x) l := by
        simp [eraseKey]
      rw [hhead, eraseKey_of_notMem hy]
    · have hne : key y ≠ key x := fun h => hy (h ▸ mem_map_of_mem hx)
      have hhead : eraseKey key (key x) (y :: l) = y :: eraseKey key (key x) l := by
        simp [eraseKey, hne]
      rw [hhead]
      exact (List.Perm.swap _ _ _).trans ((ih (nodup_cons.1 hl).2 hx).cons y)

lemma countP_eraseKey {x : α} (hx : x ∈ l) :
    l.countP p = (eraseKey key (key x) l).countP p + if p x then 1 else 0 := by
  rw [← (perm_eraseKey hl hx).countP_eq, countP_cons]

lemma length_eraseKey {x : α} (hx : x ∈ l) :
    l.length = (eraseKey key (key x) l).length + 1 := by
  simpa using countP_eraseKey (fun _ => true) hl hx

end

end Rtl8831.Lib
