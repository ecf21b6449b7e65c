import CommandPrompt.Proofs.Number.Rounding
import CommandPrompt.Proofs.Suggestion.Ranking

/-!
# Infinite scores

A score is infinite if there is no penalty (`Score.best_eq_top_iff`). A penalty is paid for every
letter by which a candidate is longer than the typed text, whatever the offset
(`Score.penalty_pos`), and a candidate of the same length pays none (`Score.penalty_zero`). So it is
not only the typed text itself that scores without limit: a candidate of the same length does as
well, if it agrees with the typed text in a single place (`Score.exists_best_and_eq_top_iff`).
Someone who typed make is offered take as if it were what they typed
(`Score.best_make_take_eq_top`).

Rounded steps do not change this, because they keep the sign. In a ranking the suggestions with
infinite scores are therefore the aligned candidates, in their order
(`Suggestion.filter_top_rankPartial`).
-/

namespace CommandPrompt

namespace Score

/-! ### Penalties -/

section Penalty

variable {round : Rounding} (hround : round.KeepsSign)
include hround

/-- Without an offset a candidate of the same length has no penalty. -/
theorem penalty_zero : penalty round 0 0 = 0 := by
  have hweight : round (round ((0 * 0 : Int) : Rat) * shiftPenalty) = 0 := by
    rw [Int.mul_zero, Int.cast_zero, hround.zero, zero_mul, hround.zero]
  have hlength : round ((0 : Int) : Rat) = 0 := by
    rw [Int.cast_zero, hround.zero]
  rw [penalty, hweight, zero_div, hround.zero, hlength, add_zero, hround.zero]

/-- **Every further letter is paid for.** -/
theorem penalty_pos {spare : Int} (hspare : 0 < spare) (offset : Int) :
    0 < penalty round offset spare := by
  have hsquare : (0 : Rat) ≤ ((offset * offset : Int) : Rat) := by
    exact_mod_cast mul_self_nonneg offset
  have hweight : 0 ≤ round (round (offset * offset : Int) * shiftPenalty) := by
    refine hround.nonneg (mul_nonneg (hround.nonneg hsquare) ?_)
    rw [shiftPenalty]
    positivity
  have hdivisor : 0 < round ((spare + 1 : Int) : Rat) := by
    refine hround.pos _ ?_
    exact_mod_cast (by omega : 0 < spare + 1)
  have hshift := hround.nonneg (div_nonneg hweight hdivisor.le)
  have hlength : 0 < round (spare : Rat) := by
    refine hround.pos _ ?_
    exact_mod_cast hspare
  exact hround.pos _ (add_pos_of_nonneg_of_pos hshift hlength)

end Penalty

/-! ### Letters in common -/

/-- The number of places in which a typed text agrees with the candidate that it is laid over at an
offset, but for letter case. -/
def common (typed candidate : Text) (offset : Nat) : Nat :=
  (List.range typed.length).countP fun i => candidate.lower[offset + i]? == typed.lower[i]?

theorem common_ne_zero_iff {typed candidate : Text} {offset : Nat} :
    common typed candidate offset ≠ 0 ↔
      ∃ i < typed.length, candidate.lower[offset + i]? = typed.lower[i]? := by
  rw [common, ← Nat.pos_iff_ne_zero, List.countP_pos_iff]
  simp only [List.mem_range, beq_iff_eq]

theorem common_le_length (typed candidate : Text) (offset : Nat) :
    common typed candidate offset ≤ typed.length := by
  calc common typed candidate offset ≤ (List.range typed.length).length := List.countP_le_length
    _ = typed.length := List.length_range

/-- The agreement of two texts counts the places of the shorter one in which both have the same
letter. -/
theorem agreement_eq_countP {s t : Text} (hle : s.length ≤ t.length) :
    agreement s t = (List.range s.length).countP fun i => t[i]? == s[i]? := by
  induction s generalizing t with
  | nil => rfl
  | cons a as ih =>
    obtain ⟨b, bs, rfl⟩ := List.exists_cons_of_length_pos (Nat.lt_of_lt_of_le (Nat.succ_pos _) hle)
    have ih := ih (t := bs) (Nat.le_of_succ_le_succ hle)
    rw [agreement] at ih ⊢
    rw [List.length_cons, List.range_succ_eq_map, List.countP_cons, List.countP_map,
      List.zip_cons_cons, List.filter_cons]
    simp only [List.getElem?_cons_zero, Function.comp_def, List.getElem?_cons_succ]
    rw [← ih]
    by_cases hab : a = b
    · simp [hab]
    · simp [hab, Ne.symm hab]

/-! ### Candidates without a penalty -/

/-- Whether a candidate is as long as the typed text and agrees with it in some place. -/
def isAligned (typed candidate : Text) : Bool :=
  candidate.length == typed.length && agreement typed.lower candidate.lower != 0

section Best

variable {round : Rounding} (hround : round.KeepsSign) {typed candidate : Text}
  (htyped : typed.AllTypable) (hcandidate : candidate.AllTypable)

include htyped hcandidate

theorem isAligned_iff :
    isAligned typed candidate = true ↔ candidate.length = typed.length ∧
      ∃ i < typed.length, candidate.lower[i]? = typed.lower[i]? := by
  rw [isAligned, Bool.and_eq_true, beq_iff_eq, bne_iff_ne]
  refine and_congr_right fun hlength => ?_
  have hle : typed.lower.length ≤ candidate.lower.length := by
    rw [Text.length_lower htyped, Text.length_lower hcandidate, hlength]
  rw [agreement_eq_countP hle, ← Nat.pos_iff_ne_zero, List.countP_pos_iff, Text.length_lower htyped]
  simp only [List.mem_range, beq_iff_eq]

/-- A candidate with the same letters is aligned. -/
theorem isAligned_of_lower_eq (hne : typed ≠ []) (h : candidate.lower = typed.lower) :
    isAligned typed candidate = true := by
  have hlength : candidate.length = typed.length := by
    rw [← Text.length_lower htyped, ← Text.length_lower hcandidate, h]
  exact (isAligned_iff htyped hcandidate).mpr
    ⟨hlength, 0, List.length_pos_iff.mpr hne, by rw [h]⟩

include hround

/-- Laid over a candidate of the same length, the typed text scores without limit if the two agree
anywhere. -/
theorem exists_atOffset_eq_of_length_eq (hlength : candidate.length = typed.length) :
    ∃ scored, atOffset round typed candidate 0 = .ok scored ∧
      scored.score = if isAligned typed candidate then .top else .finite 0 := by
  have hlower : candidate.lower.length = typed.lower.length := by
    rw [Text.length_lower htyped, Text.length_lower hcandidate, hlength]
  -- the candidate is compared as a whole
  have hslice : candidate.lower.slice 0 (0 + typed.lower.length) = candidate.lower := by
    rw [zero_add, Text.slice, Text.position, Text.position, if_neg (by omega), if_neg (by omega),
      Int.toNat_natCast, Int.toNat_zero, Nat.zero_min, List.drop_zero, hlower, Nat.min_self,
      ← hlower, List.take_length]
  have hspare : (candidate.lower.length : Int) - typed.lower.length = 0 := by omega
  rw [atOffset, isAligned, hlength, beq_self_eq_true, Bool.true_and]
  dsimp only
  rw [hslice, hspare]
  by_cases hagree : agreement typed.lower candidate.lower = 0
  · rw [if_pos hagree, hagree]
    exact ⟨_, rfl, rfl⟩
  · rw [if_neg hagree, if_neg (by omega), if_pos (penalty_zero hround).le]
    refine ⟨_, rfl, ?_⟩
    rw [if_pos (bne_iff_ne.mpr hagree)]

/-- Laid over a longer candidate, the typed text has a finite score. -/
theorem exists_atOffset_eq_finite (hlt : typed.length < candidate.length) (offset : Int) :
    ∃ scored q, atOffset round typed candidate offset = .ok scored ∧
      scored.score = .finite q := by
  have hspare : 0 < (candidate.lower.length : Int) - typed.lower.length := by
    rw [Text.length_lower htyped, Text.length_lower hcandidate]
    omega
  rw [atOffset]
  dsimp only
  split
  · exact ⟨_, _, rfl, rfl⟩
  · rw [if_neg (by omega), if_neg (not_le.mpr (penalty_pos hround hspare offset))]
    exact ⟨_, _, rfl, rfl⟩

/-- A candidate of another length has a finite score. -/
theorem exists_best_eq_finite (hlength : candidate.length ≠ typed.length) :
    ∃ q, best round typed candidate = .ok (.finite q) := by
  rw [best]
  split
  · exact ⟨0, rfl⟩
  · rcases Nat.lt_or_gt_of_ne hlength with hshort | hlong
    · rw [offsets, if_pos hshort]
      exact ⟨0, rfl⟩
    · -- the best of finite scores is finite
      have hkeeps : ∀ start : Extended, (∃ q, start = .finite q) →
          ∀ offset ∈ offsets typed candidate, ∃ next,
            (do
              let scored ← atOffset round typed candidate (offset : Nat)
              return if start < scored.score then scored.score else start) = .ok next ∧
            ∃ q, next = .finite q := by
        rintro start hstart offset -
        obtain ⟨scored, q, hscored, hscore⟩ :=
          exists_atOffset_eq_finite hround htyped hcandidate hlong offset
        rw [hscored]
        refine ⟨_, rfl, ?_⟩
        split
        · exact ⟨q, hscore⟩
        · exact hstart
      obtain ⟨score, hbest, q, rfl⟩ :=
        exists_foldlM_eq_ok_of_invariant hkeeps (b := .finite 0) ⟨0, rfl⟩
      exact ⟨q, hbest⟩

/-- **A score is infinite** just if the candidate is aligned with the typed text. -/
theorem best_eq_top_iff (hne : typed ≠ []) :
    best round typed candidate = .ok .top ↔ isAligned typed candidate = true := by
  by_cases hlength : candidate.length = typed.length
  · obtain ⟨scored, hscored, hscore⟩ :=
      exists_atOffset_eq_of_length_eq hround htyped hcandidate hlength
    have hempty : typed.isEmpty = false := by simpa using hne
    have hoffsets : offsets typed candidate = [0] := by
      rw [offsets, if_neg (by omega), hlength, Nat.sub_self]
      rfl
    rw [best, hempty, if_neg Bool.false_ne_true, hoffsets, List.foldlM_cons, Nat.cast_zero, hscored]
    change Except.ok (if Extended.finite 0 < scored.score then scored.score else .finite 0) = _ ↔ _
    rw [hscore]
    cases isAligned typed candidate with
    | true => exact iff_of_true rfl rfl
    | false => exact iff_of_false (by decide) (by decide)
  · obtain ⟨q, hbest⟩ := exists_best_eq_finite hround htyped hcandidate hlength
    rw [hbest, isAligned, beq_eq_false_iff_ne.mpr hlength]
    exact iff_of_false (by simp) (by simp)

/-- **An infinite score** means that the candidate is as long as the typed text and agrees with it
in some place, but for letter case. The typed text itself is one of these candidates. -/
theorem exists_best_and_eq_top_iff (hne : typed ≠ []) :
    ∃ score, best round typed candidate = .ok score ∧
      (score = .top ↔ candidate.length = typed.length ∧
        ∃ i < typed.length, candidate.lower[i]? = typed.lower[i]?) ∧
      (candidate.lower = typed.lower → score = .top) := by
  obtain ⟨score, hbest⟩ := @exists_best_eq_ok round _ _ htyped hcandidate
  have htop := best_eq_top_iff hround htyped hcandidate hne
  rw [hbest, Except.ok.injEq] at htop
  refine ⟨score, hbest, htop.trans (isAligned_iff htyped hcandidate), fun heq => ?_⟩
  exact htop.mpr (isAligned_of_lower_eq htyped hcandidate hne heq)

end Best

/-- The score of take for someone who typed make is infinite, for the last three letters agree. -/
theorem exists_best_make_take :
    ∃ score, best .exact "make".toList "take".toList = .ok score ∧
      (score = .top ↔ "take".toList.length = "make".toList.length ∧
        ∃ i < "make".toList.length,
          (Text.lower "take".toList)[i]? = (Text.lower "make".toList)[i]?) ∧
      (Text.lower "take".toList = Text.lower "make".toList → score = .top) :=
  exists_best_and_eq_top_iff Rounding.keepsSign_exact
    (Text.AllTypable.of_isTypable (by decide +kernel))
    (Text.AllTypable.of_isTypable (by decide +kernel)) (by decide)

/-- **Not only the typed text scores without limit**: so does take for someone who typed make. -/
theorem best_make_take_eq_top :
    Text.isTypable "make".toList = true ∧ Text.isTypable "take".toList = true ∧
      best .exact "make".toList "take".toList = .ok .top ∧
      Text.lower "take".toList ≠ Text.lower "make".toList := by
  have hmake : Text.isTypable "make".toList = true := by decide +kernel
  have htake : Text.isTypable "take".toList = true := by decide +kernel
  refine ⟨hmake, htake, ?_, by decide +kernel⟩
  have haligned : isAligned "make".toList "take".toList = true := by decide +kernel
  exact (best_eq_top_iff Rounding.keepsSign_exact (Text.AllTypable.of_isTypable hmake)
    (Text.AllTypable.of_isTypable htake) (by decide)).mpr haligned

end Score

/-! ### Rankings -/

namespace Suggestion

/-- **The infinite scores of a ranking** are those of the aligned candidates, in their order. -/
theorem filter_top_rankPartial {round : Rounding} (hround : round.KeepsSign) {typed : Text}
    (htyped : typed.AllTypable) (hne : typed ≠ []) {words : List Word}
    (hwords : ∀ w ∈ words, w.spelling.AllTypable) {ranked : List Suggestion}
    (hranked : rankPartial round typed words = .ok ranked) :
    ranked.filter (·.score = .top) =
      (words.filter fun w => Score.isAligned typed w.spelling).map (ofWord · .top) := by
  obtain ⟨score, hscores, rfl⟩ := Suggestion.exists_score_of_rankPartial hranked
  have htop : ∀ w ∈ words, score w = .top ↔ Score.isAligned typed w.spelling = true := by
    intro w hw
    have hiff := Score.best_eq_top_iff hround htyped (hwords w hw) hne
    rwa [hscores w hw, Except.ok.injEq] at hiff
  rw [List.filter_map, List.filter_filter]
  -- what scores without limit scores at all
  have haligned : (words.filter fun w => decide (score w = .top) && decide (.finite 0 < score w)) =
      words.filter fun w => Score.isAligned typed w.spelling := by
    apply List.filter_congr
    intro w hw
    rw [Bool.eq_iff_iff, ← htop w hw, Bool.and_eq_true, decide_eq_true_iff, decide_eq_true_iff]
    refine and_iff_left_of_imp fun heq => ?_
    rw [heq]
    rfl
  change List.map _
      (words.filter fun w => decide (score w = .top) && decide (.finite 0 < score w)) =
    _
  rw [haligned]
  apply List.map_congr_left
  intro w hw
  obtain ⟨hmem, halign⟩ := List.mem_filter.mp hw
  rw [(htop w hmem).mpr halign]

end Suggestion

end CommandPrompt
