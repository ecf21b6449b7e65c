import CommandPrompt.Phrase.Gate
import CommandPrompt.Proofs.Outcome

/-!
# What the gate lets through

The gate filters every place of a command on its own: the first one for verbs, the others for
everything else. So it succeeds exactly if no filtered place is empty, and then the filtered places
are what it yields (`gate_cons_eq_ok_iff`). Otherwise it fails, and the misreading names the first
place that is left with nothing (`gateFrom_eq_error_iff`).
-/

namespace CommandPrompt.AmbiguityGroup

theorem fits_zero : fits 0 = Word.isVerb := by
  funext w
  rfl

theorem fits_succ (position : Nat) : fits (position + 1) = fun w => !w.isVerb := by
  funext w
  rfl

/-- A place of which something is left is kept, and the places behind it decide. -/
theorem gateFrom_cons_of_ne_nil {position : Nat} {group : AmbiguityGroup}
    (h : group.filter (fits position) ≠ []) (rest : List AmbiguityGroup) :
    gateFrom position (group :: rest) =
      (gateFrom (position + 1) rest).map (group.filter (fits position) :: ·) := by
  rw [gateFrom]
  split
  · next hnil => exact absurd hnil h
  · rfl

theorem gateFrom_cons_of_nil {position : Nat} {group : AmbiguityGroup}
    (h : group.filter (fits position) = []) (rest : List AmbiguityGroup) :
    gateFrom position (group :: rest) = .error (.partOfSpeech position) := by
  rw [gateFrom, h]

/-- From any position on, the gate yields the filtered places if none of them is empty. -/
theorem gateFrom_eq_ok_iff {position : Nat} {groups gated : List AmbiguityGroup} :
    gateFrom position groups = .ok gated ↔
      gated = groups.mapIdx (fun i group => group.filter (fits (position + i))) ∧
        ∀ group ∈ gated, group ≠ [] := by
  induction groups generalizing position gated with
  | nil =>
    rw [gateFrom, List.mapIdx_nil, Except.ok.injEq]
    constructor
    · rintro rfl
      exact ⟨rfl, fun _ h => absurd h List.not_mem_nil⟩
    · rintro ⟨rfl, -⟩
      rfl
  | cons group rest ih =>
    rw [List.mapIdx_cons, Nat.add_zero]
    by_cases h : group.filter (fits position) = []
    · rw [gateFrom_cons_of_nil h, h]
      refine ⟨fun heq => absurd heq (by simp), ?_⟩
      rintro ⟨rfl, hne⟩
      exact absurd rfl (hne [] List.mem_cons_self)
    · -- positions count on from the next place, so the indices are shifted by one
      rw [gateFrom_cons_of_ne_nil h, map_eq_ok_iff]
      simp only [Nat.add_right_comm position 1, ← Nat.add_assoc, ih]
      constructor
      · rintro ⟨others, ⟨rfl, hne⟩, rfl⟩
        refine ⟨rfl, fun g hg => ?_⟩
        rcases List.mem_cons.mp hg with rfl | hg
        · exact h
        · exact hne g hg
      · rintro ⟨rfl, hne⟩
        exact ⟨_, ⟨rfl, fun g hg => hne g (List.mem_cons_of_mem _ hg)⟩, rfl⟩

/-- From any position on, the gate fails at the first place that is left with nothing. -/
theorem gateFrom_eq_error_iff {position : Nat} {groups : List AmbiguityGroup}
    {misreading : Misreading} :
    gateFrom position groups = .error misreading ↔
      ∃ i, misreading = .partOfSpeech (position + i) ∧
        (∃ group, groups[i]? = some group ∧ group.filter (fits (position + i)) = []) ∧
        ∀ j < i, ∀ group, groups[j]? = some group →
          group.filter (fits (position + j)) ≠ [] := by
  induction groups generalizing position with
  | nil => simp [gateFrom]
  | cons group rest ih =>
    by_cases h : group.filter (fits position) = []
    · rw [gateFrom_cons_of_nil h, Except.error.injEq]
      constructor
      · rintro rfl
        exact ⟨0, rfl, ⟨group, rfl, h⟩, fun j hj => absurd hj (Nat.not_lt_zero j)⟩
      · rintro ⟨i, rfl, -, hbefore⟩
        cases i with
        | zero => rfl
        | succ i => exact absurd h (hbefore 0 (Nat.succ_pos i) group rfl)
    · -- this place passes, so the first fault is one of the others, shifted by one
      rw [gateFrom_cons_of_ne_nil h, map_eq_error_iff, ih]
      constructor
      · rintro ⟨i, rfl, hat, hbefore⟩
        refine ⟨i + 1, by rw [Nat.add_right_comm, Nat.add_assoc], ?_, ?_⟩
        · simpa only [List.getElem?_cons_succ, Nat.add_right_comm, ← Nat.add_assoc] using hat
        · intro j hj g hg
          cases j with
          | zero =>
            obtain rfl : group = g := Option.some.inj hg
            exact h
          | succ j =>
            have := hbefore j (Nat.lt_of_succ_lt_succ hj) g hg
            simpa only [Nat.add_right_comm, ← Nat.add_assoc] using this
      · rintro ⟨i, rfl, hat, hbefore⟩
        cases i with
        | zero =>
          obtain ⟨g, hg, hnil⟩ := hat
          obtain rfl : group = g := Option.some.inj hg
          exact absurd hnil h
        | succ i =>
          refine ⟨i, by rw [Nat.add_right_comm, Nat.add_assoc], ?_, ?_⟩
          · simpa only [List.getElem?_cons_succ, Nat.add_right_comm, ← Nat.add_assoc] using hat
          · intro j hj g hg
            have := hbefore (j + 1) (Nat.succ_lt_succ hj) g hg
            simpa only [Nat.add_right_comm, ← Nat.add_assoc] using this

/-! ### Whole commands -/

/-- **The gate keeps the verbs of the first place and everything else of the others**, if something
is left of every place. -/
theorem gate_cons_eq_ok_iff {group : AmbiguityGroup} {rest gated : List AmbiguityGroup} :
    gate (group :: rest) = .ok gated ↔
      gated = group.filter Word.isVerb :: rest.map (List.filter fun w => !w.isVerb) ∧
        ∀ g ∈ gated, g ≠ [] := by
  have hplaces : (group :: rest).mapIdx (fun i g => g.filter (fits (0 + i))) =
      group.filter Word.isVerb :: rest.map (List.filter fun w => !w.isVerb) := by
    have hothers : rest.mapIdx (fun i g => g.filter (fits (0 + (i + 1)))) =
        rest.map (List.filter fun w => !w.isVerb) := by
      refine List.ext_getElem? fun i => ?_
      rw [List.getElem?_mapIdx, List.getElem?_map, Nat.zero_add, fits_succ]
    rw [List.mapIdx_cons, hothers, Nat.zero_add, fits_zero]
  rw [gate, gateFrom_eq_ok_iff, hplaces]

@[simp] theorem gate_nil : gate [] = .ok [] := rfl

end CommandPrompt.AmbiguityGroup
