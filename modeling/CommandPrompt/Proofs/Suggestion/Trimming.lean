import CommandPrompt.Proofs.Number.Monotone
import CommandPrompt.Proofs.Suggestion.Selection
import CommandPrompt.Suggestion.Basic

/-!
# What selection keeps

Selection sorts by score and drops what is too much at the front. So it gives some of the items in
the order of their scores, as many as are wanted or else all of them, and none that is dropped
scores more than one that is kept (`Suggestion.selects_selectTop`). Items that are in the order of
their scores already are not moved, and the last of them are kept
(`Suggestion.selectTop_of_pairwise`).

The candidates for a new word are such items: their bias grows with their place, and rounding does
not turn it around (`Suggestion.pairwise_rankFresh`).
-/

namespace CommandPrompt.Suggestion

section Selection

variable {α : Type} (score : α → Extended)

/-- What a selection of the best items is. -/
structure Selects (k : Int) (items selected : List α) : Prop where
  /-- Scores do not descend. -/
  ascending : selected.Pairwise fun a b => score a ≤ score b
  /-- As many items are kept as are wanted, if there are as many. -/
  length_eq : (selected.length : Int) = min (max 0 k) items.length
  /-- What is not kept is dropped, and scores no more than what is kept. -/
  exists_dropped : ∃ dropped, (dropped ++ selected).Perm items ∧
    ∀ a ∈ dropped, ∀ b ∈ selected, score a ≤ score b

variable {score} in
/-- What is selected is among the items. -/
theorem Selects.subset {k : Int} {items selected : List α} (h : Selects score k items selected) :
    selected ⊆ items := by
  obtain ⟨dropped, hperm, -⟩ := h.exists_dropped
  exact fun a ha => hperm.subset (List.mem_append_right dropped ha)

/-- **Selection keeps the best**, as many as are wanted, in ascending order. -/
theorem selects_selectTop (k : Int) (items : List α) :
    Selects score k items (selectTop score k items) := by
  have hsorted := pairwise_mergeSort_score score items
  have hperm := List.mergeSort_perm items fun a b => decide (score a ≤ score b)
  rw [selectTop_eq, List.rtake]
  generalize items.mergeSort (fun a b => decide (score a ≤ score b)) = ordered at hsorted hperm ⊢
  have hsplit := List.take_append_drop (ordered.length - k.toNat) ordered
  constructor
  case ascending => exact hsorted.sublist (List.drop_sublist _ _)
  case length_eq =>
    rw [List.length_drop, hperm.length_eq]
    omega
  case exists_dropped =>
    refine ⟨ordered.take (ordered.length - k.toNat), hsplit.symm ▸ hperm, ?_⟩
    rw [← hsplit, List.pairwise_append] at hsorted
    exact hsorted.2.2

/-- Items whose scores ascend stay where they are, and the last ones are kept. -/
theorem selectTop_of_pairwise {k : Int} {items : List α}
    (h : items.Pairwise fun a b => score a ≤ score b) :
    selectTop score k items = items.rtake k.toNat := by
  rw [selectTop_eq, List.mergeSort_of_pairwise (h.imp fun hab => decide_eq_true hab)]

end Selection

/-! ### New words -/

theorem map_word_rankFresh (round : Rounding) (words : List Word) :
    (rankFresh round words).map Suggestion.word = words := by
  rw [rankFresh, List.map_map]
  exact List.zipIdx_map_fst 0 words

/-- **The scores of candidates for a new word ascend** with their places. -/
theorem pairwise_rankFresh {round : Rounding} (hround : round.KeepsOrder) (words : List Word) :
    (rankFresh round words).Pairwise fun a b => a.score ≤ b.score := by
  rw [List.pairwise_iff_getElem]
  intro i j hi hj hij
  simp only [rankFresh, ofWord, List.getElem_map, List.getElem_zipIdx,
    Extended.finite_le_finite_iff]
  have hi0 : (0 : Rat) ≤ ((0 + i : Nat) : Rat) / 1000 := by positivity
  have hbias : ((0 + i : Nat) : Rat) / 1000 ≤ ((0 + j : Nat) : Rat) / 1000 := by
    refine div_le_div_of_nonneg_right ?_ (by norm_num)
    exact_mod_cast (by omega : 0 + i ≤ 0 + j)
  have hrounded := hround.mono _ _ hi0 hbias
  have hnonneg := hround.keepsSign.nonneg hi0
  exact hround.mono _ _ (add_nonneg zero_le_one hnonneg) (add_le_add le_rfl hrounded)

end CommandPrompt.Suggestion
