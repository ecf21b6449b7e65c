import CommandPrompt.Proofs.Suggestion.Trimming
import Mathlib.Data.List.FinRange

/-!
# The places that selection keeps

Items that score alike can be told apart by their places only. So what a selection is, ties
included, is said of places (`Suggestion.SelectsPlaces`). Places have an order of their own: that of
the scores, and where the scores are the same, that of the list (`Suggestion.Precedes`). The sort is
stable, so it puts the places in that order (`Suggestion.pairwise_sortedPlaces`). A selection is the
end of the sorted list, which tells all about it (`Suggestion.selectTop_selects_places`): no place
comes twice, every place that is kept comes behind every one that is dropped, and to select from a
selection is to select once, with the smaller of the two counts.
-/

namespace CommandPrompt.Suggestion

variable {α : Type} (score : α → Extended)

/-- One place of a list comes before another if its item scores less, or if it scores as much and is
the earlier one. -/
def Precedes (items : List α) (p q : Fin items.length) : Prop :=
  score items[p] < score items[q] ∨ score items[p] = score items[q] ∧ p < q

/-- The places of the `k` best items of a list. -/
structure SelectsPlaces (k : Int) (items : List α) (places : List (Fin items.length)) : Prop where
  /-- As many are kept as are wanted, if there are as many. -/
  length_eq : (places.length : Int) = min (max k 0) items.length
  /-- None is kept twice. -/
  nodup : places.Nodup
  /-- They are listed in order. -/
  ascending : places.Pairwise (Precedes score items)
  /-- What is dropped comes before all that is kept. -/
  outranks : ∀ p ∈ places, ∀ q ∉ places, Precedes score items q p

/-! ### The sorted places -/

/-- The places of a list, sorted by the scores of their items. -/
def sortedPlaces (items : List α) : List (Fin items.length) :=
  (List.finRange items.length).mergeSort fun p q => decide (score items[p] ≤ score items[q])

theorem perm_sortedPlaces (items : List α) :
    (sortedPlaces score items).Perm (List.finRange items.length) := List.mergeSort_perm _ _

@[simp] theorem length_sortedPlaces (items : List α) :
    (sortedPlaces score items).length = items.length := by
  rw [(perm_sortedPlaces score items).length_eq, List.length_finRange]

/-- To sort the places is to sort the items. -/
theorem map_sortedPlaces (items : List α) : (sortedPlaces score items).map (fun p => items[p]) =
    items.mergeSort fun a b => decide (score a ≤ score b) := by
  have hitems : (List.finRange items.length).map (fun p => items[p]) = items :=
    List.map_get_finRange items
  rw [sortedPlaces, List.map_mergeSort (s := fun a b => decide (score a ≤ score b))
    fun _ _ _ _ => rfl, hitems]

/-- **The sort puts the places in order.** -/
theorem pairwise_sortedPlaces (items : List α) :
    (sortedPlaces score items).Pairwise (Precedes score items) := by
  have hsorted := pairwise_mergeSort_score (fun p => score items[p]) (List.finRange items.length)
  rw [List.pairwise_iff_forall_sublist] at hsorted ⊢
  intro p q hsub
  rcases lt_or_eq_of_le (hsorted hsub) with hlt | heq
  · exact Or.inl hlt
  · -- places whose items score alike stay in the order of the list
    have hfilter : (sortedPlaces score items).filter (fun r => score items[r] = score items[q]) =
        (List.finRange items.length).filter (fun r => score items[r] = score items[q]) :=
      filter_mergeSort_of_related (trans_score _) (total_score _)
        (fun a b ha hb => by
          rw [decide_eq_true_eq] at ha hb
          rw [decide_eq_true_eq, ha, hb]) _
    have hpair : [p, q].filter (fun r => score items[r] = score items[q]) = [p, q] := by
      simpa using heq
    have hsub' := hsub.filter (fun r => decide (score items[r] = score items[q]))
    rw [hfilter, hpair] at hsub'
    have hlt := (List.pairwise_lt_finRange items.length).sublist
      (hsub'.trans List.filter_sublist)
    exact Or.inr ⟨heq, List.rel_of_pairwise_cons hlt (List.mem_singleton_self q)⟩

/-! ### Selection by places -/

/-- The last of the sorted places are the best ones. -/
theorem selectsPlaces_rtake (k : Int) (items : List α) :
    SelectsPlaces score k items ((sortedPlaces score items).rtake k.toNat) := by
  have hperm := perm_sortedPlaces score items
  have hordered := pairwise_sortedPlaces score items
  rw [List.rtake]
  generalize hcut : (sortedPlaces score items).length - k.toNat = cut
  have hsplit := List.take_append_drop cut (sortedPlaces score items)
  constructor
  case length_eq =>
    rw [List.length_drop, ← hcut, length_sortedPlaces]
    omega
  case nodup =>
    exact (hperm.nodup_iff.mpr (List.nodup_finRange _)).sublist (List.drop_sublist _ _)
  case ascending => exact hordered.sublist (List.drop_sublist _ _)
  case outranks =>
    intro p hp q hq
    have hmem : q ∈ (sortedPlaces score items).take cut ++ (sortedPlaces score items).drop cut := by
      rw [hsplit, hperm.mem_iff]
      exact List.mem_finRange q
    rw [← hsplit, List.pairwise_append] at hordered
    exact hordered.2.2 q ((List.mem_append.mp hmem).resolve_right hq) p hp

theorem selectTop_eq_map_rtake (k : Int) (items : List α) : selectTop score k items =
    ((sortedPlaces score items).rtake k.toNat).map fun p => items[p] := by
  rw [selectTop_eq, ← map_sortedPlaces, List.rtake, List.rtake, List.length_map, List.map_drop]

/-- The last of the last items of a list are the last ones of the list. -/
theorem rtake_rtake (xs : List α) (m n : Nat) : (xs.rtake m).rtake n = xs.rtake (min n m) := by
  unfold List.rtake
  rw [List.drop_drop, List.length_drop]
  congr 1
  omega

/-- **To select twice is to select once**, with the smaller count. -/
theorem selectTop_selectTop (j k : Int) (items : List α) :
    selectTop score j (selectTop score k items) = selectTop score (min j k) items := by
  have hcount : (min j k).toNat = min j.toNat k.toNat := by omega
  rw [selectTop_of_pairwise score (selects_selectTop score k items).ascending]
  rw [selectTop_eq, selectTop_eq, rtake_rtake, hcount]

/-- **What selection keeps.** It keeps as many places as are wanted, each once, in the order of
their scores and else of the list, and those it drops come before all that it keeps. To select from
a selection is to select once with the smaller count, which gives the end of what the larger one
gives. -/
theorem selectTop_selects_places (items : List α) (k : Int) :
    (∃ places, SelectsPlaces score k items places ∧
      selectTop score k items = places.map fun p => items[p]) ∧
    ∀ j : Int, selectTop score j (selectTop score k items) = selectTop score (min j k) items ∧
      selectTop score (min j k) items <:+ selectTop score k items := by
  refine ⟨⟨_, selectsPlaces_rtake score k items, selectTop_eq_map_rtake score k items⟩,
    fun j => ⟨selectTop_selectTop score j k items, ?_⟩⟩
  rw [← selectTop_selectTop,
    selectTop_of_pairwise score (selects_selectTop score k items).ascending]
  exact List.drop_suffix _ _

/-- Of three items that score alike the first one goes first. -/
example : selectTop (fun _ => .finite 1) 2 ['a', 'b', 'c'] = ['b', 'c'] := by cbv

end CommandPrompt.Suggestion
