import CommandPrompt.Suggestion.Basic
import Mathlib.Algebra.Order.Field.Rat
import Mathlib.Data.List.DropRight
import Mathlib.Tactic.Common

/-!
# The suggestion that comes last

Selection sorts by score and lets the first item go while there are too many, so it is the end of
the sorted list (`Suggestion.selectTop_eq`), and what stays last is what the sort puts last. The
sort is stable: items that it cannot tell apart keep their order (`filter_mergeSort_of_related`). If
scores are infinite, which nothing exceeds, the last suggestion is therefore the last item with an
infinite score (`Suggestion.getLast?_selectTop`).
-/

namespace CommandPrompt

/-! ### Extended numbers in order -/

namespace Extended

theorem bottom_le (x : Extended) : bottom ≤ x := by
  cases x <;> rfl

theorem le_top (x : Extended) : x ≤ top := by
  cases x <;> rfl

theorem finite_le_finite_iff {p q : Rat} : finite p ≤ finite q ↔ p ≤ q := decide_eq_true_iff

theorem top_le_iff {x : Extended} : top ≤ x ↔ x = top := by
  cases x with
  | bottom => exact iff_of_false Bool.false_ne_true (by simp)
  | finite q => exact iff_of_false Bool.false_ne_true (by simp)
  | top => exact iff_of_true rfl rfl

theorem le_bottom_iff {x : Extended} : x ≤ bottom ↔ x = bottom := by
  cases x with
  | bottom => exact iff_of_true rfl rfl
  | finite q => exact iff_of_false Bool.false_ne_true (by simp)
  | top => exact iff_of_false Bool.false_ne_true (by simp)

theorem le_total (x y : Extended) : x ≤ y ∨ y ≤ x := by
  cases x with
  | bottom => exact Or.inl (bottom_le y)
  | top => exact Or.inr (le_top y)
  | finite p =>
    cases y with
    | bottom => exact Or.inr (bottom_le _)
    | top => exact Or.inl (le_top _)
    | finite q =>
      rw [finite_le_finite_iff, finite_le_finite_iff]
      exact Rat.le_total

theorem le_trans {x y z : Extended} (hxy : x ≤ y) (hyz : y ≤ z) : x ≤ z := by
  cases x with
  | bottom => exact bottom_le z
  | top =>
    obtain rfl := top_le_iff.mp hxy
    exact hyz
  | finite p =>
    cases y with
    | bottom => exact absurd (le_bottom_iff.mp hxy) (by simp)
    | top =>
      obtain rfl := top_le_iff.mp hyz
      exact hxy
    | finite q =>
      cases z with
      | bottom => exact absurd (le_bottom_iff.mp hyz) (by simp)
      | top => exact le_top _
      | finite r =>
        rw [finite_le_finite_iff] at hxy hyz ⊢
        exact Rat.le_trans hxy hyz

theorem lt_iff_not_le {x y : Extended} : x < y ↔ ¬y ≤ x := by
  change (!le y x) = true ↔ ¬le y x = true
  rw [Bool.not_eq_true', Bool.not_eq_true]

theorem eq_of_le_of_le {x y : Extended} (hxy : x ≤ y) (hyx : y ≤ x) : x = y := by
  cases x with
  | bottom => exact (le_bottom_iff.mp hyx).symm
  | top => exact (top_le_iff.mp hxy).symm
  | finite p =>
    cases y with
    | bottom => exact le_bottom_iff.mp hxy
    | top => exact top_le_iff.mp hyx
    | finite q =>
      rw [finite_le_finite_iff] at hxy hyx
      rw [Rat.le_antisymm hxy hyx]

/-- Any two extended numbers can be compared. -/
instance : LinearOrder Extended where
  le_refl x := (le_total x x).elim id id
  le_trans _ _ _ := le_trans
  le_antisymm _ _ := eq_of_le_of_le
  le_total := le_total
  lt_iff_le_not_ge x y := by
    rw [lt_iff_not_le]
    exact ⟨fun h => ⟨(le_total x y).resolve_right h, h⟩, fun h => h.2⟩
  toDecidableLE := inferInstance
  toDecidableLT := inferInstance

theorem finite_lt_finite_iff {p q : Rat} : finite p < finite q ↔ p < q := by
  rw [lt_iff_not_le, finite_le_finite_iff, not_le]

theorem finite_lt_top (q : Rat) : finite q < top := rfl

end Extended

/-! ### Stability -/

/-- **Sorting keeps the order** of items that are all related to each other. -/
theorem filter_mergeSort_of_related {α : Type} {le : α → α → Bool}
    (htrans : ∀ a b c, le a b = true → le b c = true → le a c = true)
    (htotal : ∀ a b, (le a b || le b a) = true) {p : α → Bool}
    (hp : ∀ a b, p a = true → p b = true → le a b = true) (items : List α) :
    (items.mergeSort le).filter p = items.filter p := by
  have hrelated : (items.filter p).Pairwise fun a b => le a b = true := by
    refine List.pairwise_of_forall_mem_list fun a ha b hb => ?_
    exact hp a b (List.mem_filter.mp ha).2 (List.mem_filter.mp hb).2
  have hsub : (items.filter p).Sublist (items.mergeSort le) :=
    List.sublist_mergeSort htrans htotal hrelated List.filter_sublist
  have hsub' := hsub.filter p
  rw [List.filter_filter] at hsub'
  simp only [Bool.and_self] at hsub'
  -- the sort has no more of these items than there were
  have hperm := (List.mergeSort_perm items le).filter p
  exact (hsub'.eq_of_length hperm.length_eq.symm).symm

namespace Suggestion

/-! ### Items in the order of their scores -/

section Order

variable {α : Type} (score : α → Extended)

theorem trans_score (a b c : α) (hab : decide (score a ≤ score b) = true)
    (hbc : decide (score b ≤ score c) = true) : decide (score a ≤ score c) = true :=
  decide_eq_true (Extended.le_trans (of_decide_eq_true hab) (of_decide_eq_true hbc))

theorem total_score (a b : α) :
    (decide (score a ≤ score b) || decide (score b ≤ score a)) = true := by
  rw [Bool.or_eq_true, decide_eq_true_eq, decide_eq_true_eq]
  exact Extended.le_total (score a) (score b)

theorem pairwise_mergeSort_score (items : List α) :
    (items.mergeSort fun a b => decide (score a ≤ score b)).Pairwise
      fun a b => score a ≤ score b :=
  (List.pairwise_mergeSort (trans_score score) (total_score score) items).imp of_decide_eq_true

/-- What is trimmed is what stands at the end. -/
theorem trim_eq_rtake (k : Nat) (items : List α) : trim k items = items.rtake k := by
  induction items with
  | nil => rw [trim, List.rtake_nil]
  | cons item rest ih =>
    rw [trim]
    split
    · next hlong =>
      have hdrop : (item :: rest).length - k = (rest.length - k) + 1 := by
        rw [List.length_cons]
        omega
      rw [ih, List.rtake, List.rtake, hdrop, List.drop_succ_cons]
    · next hshort =>
      have hdrop : (item :: rest).length - k = 0 := by
        rw [List.length_cons]
        omega
      rw [List.rtake, hdrop, List.drop_zero]

/-- **Selection takes the end of the sorted items.** -/
theorem selectTop_eq (k : Int) (items : List α) : selectTop score k items =
    (items.mergeSort fun a b => decide (score a ≤ score b)).rtake k.toNat := by
  unfold selectTop
  split
  · next hnone =>
    rw [Bool.or_eq_true, decide_eq_true_eq, List.isEmpty_iff] at hnone
    rcases hnone with hk | rfl
    · rw [Int.toNat_of_nonpos hk, List.rtake_zero]
    · rw [List.mergeSort_nil, List.rtake_nil]
  · exact trim_eq_rtake _ _

end Order

/-! ### The last of the best -/

variable {α : Type} {score : α → Extended}

/-- **The last of the best** is the last item with an infinite score, if there is any. -/
theorem getLast?_selectTop {k : Int} (hk : 1 ≤ k) {items : List α}
    (htop : items.filter (score · = .top) ≠ []) :
    (selectTop score k items).getLast? = (items.filter (score · = .top)).getLast? := by
  have hsorted := pairwise_mergeSort_score score items
  have hfilter := filter_mergeSort_of_related (trans_score score) (total_score score)
    (p := (score · = .top)) (fun a b ha hb => by
      rw [decide_eq_true_eq] at ha hb
      rw [decide_eq_true_eq, ha, hb]) items
  rw [selectTop_eq, List.rtake]
  -- by stability the items with infinite scores can be looked for after the sort
  rw [← hfilter] at htop ⊢
  generalize items.mergeSort (fun a b => decide (score a ≤ score b)) = ordered at *
  -- what has an infinite score is no better than the last, so the last has one
  obtain ⟨x, hx⟩ := List.exists_mem_of_ne_nil _ htop
  obtain ⟨hmem, hxtop⟩ := List.mem_filter.mp hx
  obtain ⟨init, last, rfl⟩ := (List.eq_nil_or_concat ordered).resolve_left (List.ne_nil_of_mem hmem)
  rw [List.concat_eq_append] at hsorted hmem ⊢
  have hlast : score last = .top := by
    rw [decide_eq_true_eq] at hxtop
    rcases List.mem_append.mp hmem with hinit | hinit
    · have hle := (List.pairwise_append.mp hsorted).2.2 x hinit last List.mem_cons_self
      rw [hxtop] at hle
      exact Extended.top_le_iff.mp hle
    · rw [← List.mem_singleton.mp hinit]
      exact hxtop
  have hdrop : ¬(init ++ [last]).length ≤ (init ++ [last]).length - k.toNat := by
    rw [List.length_append, List.length_singleton]
    omega
  have hfilterlast : [last].filter (score · = .top) = [last] := by
    rw [List.filter_cons, if_pos (decide_eq_true hlast), List.filter_nil]
  rw [List.getLast?_drop, if_neg hdrop, List.filter_append, hfilterlast, List.getLast?_concat,
    List.getLast?_concat]

end Suggestion

end CommandPrompt
