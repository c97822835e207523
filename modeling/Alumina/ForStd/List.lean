import Mathlib

/-!
# List lemmas for the standard library

Membership through `List.Forall₂` and `List.zip`, and splitting a list at a threshold.
-/

namespace List

variable {α β : Type} {R : α → β → Prop} {xs : List α} {ys : List β}

/-- Each member on the left is zipped with a related one. -/
theorem Forall₂.exists_zip_of_mem_left (h : Forall₂ R xs ys) {x : α} (hx : x ∈ xs) :
    ∃ y, (x, y) ∈ xs.zip ys ∧ R x y := by
  induction h with
  | nil => cases hx
  | cons hhead _ ih =>
    rcases mem_cons.mp hx with rfl | hx
    · exact ⟨_, mem_cons_self, hhead⟩
    · obtain ⟨y, hy, hR⟩ := ih hx
      exact ⟨y, mem_cons_of_mem _ hy, hR⟩

/-- In lists of one length each member on the left is zipped with one on the right. -/
theorem exists_zip_of_mem (hlength : xs.length = ys.length) {x : α} (hx : x ∈ xs) :
    ∃ y ∈ ys, (x, y) ∈ xs.zip ys := by
  obtain ⟨i, hi, rfl⟩ := List.mem_iff_getElem.1 hx
  have hi' : i < ys.length := hlength ▸ hi
  refine ⟨ys[i], List.getElem_mem hi', ?_⟩
  rw [List.mem_iff_getElem]
  exact ⟨i, by simpa using ⟨hi, hi'⟩, List.getElem_zip⟩

/-- Each member on the right is related to one on the left. -/
theorem Forall₂.exists_of_mem_right (h : Forall₂ R xs ys) {y : β} (hy : y ∈ ys) :
    ∃ x ∈ xs, R x y := by
  induction h with
  | nil => cases hy
  | cons hhead _ ih =>
    rcases mem_cons.mp hy with rfl | hy
    · exact ⟨_, mem_cons_self, hhead⟩
    · obtain ⟨x, hx, hR⟩ := ih hy
      exact ⟨x, mem_cons_of_mem _ hx, hR⟩

/-- Each member on the left is related to one on the right. -/
theorem Forall₂.exists_of_mem_left (h : Forall₂ R xs ys) {x : α} (hx : x ∈ xs) :
    ∃ y ∈ ys, R x y := by
  obtain ⟨y, hzip, hR⟩ := h.exists_zip_of_mem_left hx
  exact ⟨y, (of_mem_zip hzip).2, hR⟩

/-- Each member on the left is related to the one on the right in the same place. -/
theorem Forall₂.exists_getElem?_eq (h : Forall₂ R xs ys) {i : Nat} {x : α} (hx : xs[i]? = some x) :
    ∃ y, ys[i]? = some y ∧ R x y := by
  induction h generalizing i with
  | nil => cases hx
  | cons hhead _ ih =>
    cases i with
    | zero =>
      cases hx
      exact ⟨_, rfl, hhead⟩
    | succ i => exact ih hx

/-- What relates the pairs of two lists to a third relates the first to its combination with
the third. -/
theorem Forall₂.zipWith_of_zip {γ δ : Type} {S : α × β → γ → Prop} {f : α → γ → δ} {zs : List γ}
    (hlength : xs.length = ys.length) (h : Forall₂ S (xs.zip ys) zs) :
    Forall₂ (fun x w => ∃ y ∈ ys, ∃ z, S (x, y) z ∧ w = f x z) xs (zipWith f xs zs) := by
  induction xs generalizing ys zs with
  | nil => exact .nil
  | cons x xs ih =>
    cases ys with
    | nil => simp at hlength
    | cons y ys =>
      rw [zip_cons_cons] at h
      cases h with
      | cons hhead htail =>
        refine .cons ⟨y, mem_cons_self, _, hhead, rfl⟩ ?_
        refine (ih (by simpa using hlength) htail).imp ?_
        rintro x' w ⟨y', hy', z, hS, hw⟩
        exact ⟨y', mem_cons_of_mem _ hy', z, hS, hw⟩

/-- Relations over a list compose. -/
theorem Forall₂.trans_of {γ : Type} {S : β → γ → Prop} {T : α → γ → Prop} {zs : List γ}
    (h : Forall₂ R xs ys) (h' : Forall₂ S ys zs) (hT : ∀ x y z, R x y → S y z → T x z) :
    Forall₂ T xs zs := by
  induction h generalizing zs with
  | nil =>
    cases h'
    exact .nil
  | cons hhead _ ih =>
    cases h' with
    | cons hhead' htail' => exact .cons (hT _ _ _ hhead hhead') (ih htail')

/-- A chain is one of the related members. -/
theorem Forall₂.isChain {S : α → α → Prop} {T : β → β → Prop} (h : Forall₂ R xs ys)
    (hST : ∀ x y x' y', R x y → R x' y' → S x x' → T y y') (hchain : xs.IsChain S) :
    ys.IsChain T := by
  induction h with
  | nil => exact .nil
  | @cons x y xs ys hhead htail ih =>
    cases htail with
    | nil => exact .singleton _
    | cons hnext _ =>
      rw [isChain_cons_cons] at hchain ⊢
      exact ⟨hST _ _ _ _ hhead hnext hchain.1, ih hchain.2⟩

/-- Related lists have equal images when related members do. -/
theorem Forall₂.map_eq_map {γ : Type} {f : α → γ} {g : β → γ} (h : Forall₂ R xs ys)
    (hR : ∀ x y, R x y → f x = g y) : xs.map f = ys.map g := by
  induction h with
  | nil => rfl
  | cons hhead _ ih => rw [map_cons, map_cons, hR _ _ hhead, ih]

/-- A list whose members with `p` all come first is the members with `p`, then the others. -/
theorem filter_append_filter_not {p : α → Bool}
    (h : xs.Pairwise fun a b => p b = true → p a = true) :
    xs.filter p ++ xs.filter (fun a => !p a) = xs := by
  induction xs with
  | nil => rfl
  | cons x xs ih =>
    obtain ⟨hx, hxs⟩ := pairwise_cons.mp h
    by_cases hp : p x = true
    · simp [hp, ih hxs]
    · have hnone : xs.filter p = [] := by
        rw [filter_eq_nil_iff]
        exact fun a ha hpa => hp (hx a ha hpa)
      have hall : xs.filter (fun a => !p a) = xs := by
        rw [filter_eq_self]
        intro a ha
        simpa using fun hpa => hp (hx a ha hpa)
      simp [hp, hnone, hall]

/-- Cutting a list every `width` members and joining the pieces again. -/
theorem flatten_map_take_drop (xs : List α) (width count : Nat) :
    ((range count).map fun index => (xs.drop (index * width)).take width).flatten =
      xs.take (count * width) := by
  induction count with
  | zero => simp
  | succ count ih =>
    rw [range_succ, map_append, flatten_append, ih, map_singleton, flatten_singleton,
      Nat.succ_mul, take_add]

end List
