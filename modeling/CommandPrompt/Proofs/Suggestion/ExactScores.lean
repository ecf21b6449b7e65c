import CommandPrompt.Proofs.Suggestion.Agreement
import Mathlib.Order.Bounds.Basic
import Mathlib.Tactic.GCongr
import Mathlib.Tactic.Ring

/-!
# Scores in exact numbers

Without rounding, the score at an offset is what its definition says: the letters in common, divided
by a cost (`Score.atOffset_exact`). The cost is a hundred times the square of the offset, spread
over the spare length and one more, plus the spare length (`Score.cost`). Nothing is divided by zero
but where nothing is paid, and then the score is infinite, or zero if no letter agrees
(`Score.worth`). The best score is the greatest of the scores at all offsets
(`Score.exists_best_isGreatest`).

The cost grows with the offset and with the spare length. Quotients are compared by cross
multiplication (`Score.worth_lt_worth`), so as many letters in common are worth less behind an
offset than without one, and not more in a longer candidate (`Score.exactAt_lt_exactAt`). A
candidate that begins with the typed text has all letters in common without an offset. It therefore
scores best there, and more than any candidate that is no shorter and begins in another way
(`Score.prefix_leads`).
-/

namespace CommandPrompt.Score

/-! ### Cost and worth -/

/-- What is paid at an offset, where `spare` is how much longer the candidate is. -/
def cost (offset spare : Nat) : Rat := (offset : Rat) ^ 2 * 100 / (spare + 1) + spare

theorem penalty_exact (offset spare : Nat) : penalty .exact offset spare = cost offset spare := by
  simp only [penalty, cost, shiftPenalty, Rounding.exact, id_eq]
  push_cast
  ring

@[simp] theorem cost_zero (spare : Nat) : cost 0 spare = spare := by
  rw [cost, Nat.cast_zero, zero_pow two_ne_zero, zero_mul, zero_div, zero_add]

theorem le_cost (offset spare : Nat) : (spare : Rat) ≤ cost offset spare := by
  rw [cost]
  exact le_add_of_nonneg_left (by positivity)

/-- An offset is paid for beside the spare length. -/
theorem lt_cost {offset : Nat} (hoffset : 0 < offset) (spare : Nat) :
    (spare : Rat) < cost offset spare := by
  rw [cost]
  exact lt_add_of_pos_left _ (by positivity)

theorem cost_nonneg (offset spare : Nat) : 0 ≤ cost offset spare :=
  (Nat.cast_nonneg spare).trans (le_cost offset spare)

/-- **Only a candidate of the same length is free.** -/
theorem cost_pos (offset : Nat) {spare : Nat} (hspare : 0 < spare) : 0 < cost offset spare :=
  (Nat.cast_pos.mpr hspare).trans_le (le_cost offset spare)

/-- What letters in common are worth at a cost. -/
def worth (letters : Nat) (cost : Rat) : Extended :=
  if letters = 0 then .finite 0 else if cost = 0 then .top else .finite (letters / cost)

/-- Where something is paid, the worth is a quotient. -/
theorem worth_of_pos (letters : Nat) {cost : Rat} (hcost : 0 < cost) :
    worth letters cost = .finite (letters / cost) := by
  rw [worth, if_neg hcost.ne']
  split
  · next hnone => rw [hnone, Nat.cast_zero, zero_div]
  · rfl

theorem worth_pos {letters : Nat} (hletters : 0 < letters) {cost : Rat} (hcost : 0 ≤ cost) :
    .finite 0 < worth letters cost := by
  rw [worth, if_neg hletters.ne']
  split
  · exact Extended.finite_lt_top 0
  · next hne =>
    have hpos : 0 < cost := hcost.lt_of_ne' hne
    exact Extended.finite_lt_finite_iff.mpr (div_pos (Nat.cast_pos.mpr hletters) hpos)

theorem worth_nonneg (letters : Nat) {cost : Rat} (hcost : 0 ≤ cost) :
    .finite 0 ≤ worth letters cost := by
  rcases Nat.eq_zero_or_pos letters with rfl | hletters
  · rw [worth, if_pos rfl]
  · exact (worth_pos hletters hcost).le

/-- **Quotients are compared by cross multiplication**, also if the greater one is infinite. -/
theorem worth_lt_worth {letters letters' : Nat} {cost cost' : Rat} (hletters : 0 < letters)
    (hcost : 0 ≤ cost) (hcost' : 0 < cost') (h : letters' * cost < letters * cost') :
    worth letters' cost' < worth letters cost := by
  rw [worth_of_pos letters' hcost']
  rcases hcost.eq_or_lt with rfl | hpos
  · rw [worth, if_neg hletters.ne', if_pos rfl]
    exact Extended.finite_lt_top _
  · rw [worth_of_pos letters hpos, Extended.finite_lt_finite_iff]
    exact (div_lt_div_iff₀ hcost' hpos).mpr h

/-! ### The exact scores of a candidate -/

/-- The exact score of a typed text at an offset of a candidate. -/
def exactAt (typed candidate : Text) (offset : Nat) : Extended :=
  worth (common typed candidate offset) (cost offset (candidate.length - typed.length))

/-- The scores of a typed text at all offsets of a candidate that it fits inside. -/
def offsetScores (typed candidate : Text) : Set Extended :=
  {score | ∃ offset ≤ candidate.length - typed.length, ∃ scored,
    atOffset .exact typed candidate offset = .ok scored ∧ scored.score = score}

section Exact

variable {typed candidate : Text} (htyped : typed.AllTypable) (hcandidate : candidate.AllTypable)
include htyped hcandidate

/-- How much longer a candidate is does not depend on letter case. -/
theorem length_lower_sub (hle : typed.length ≤ candidate.length) :
    (candidate.lower.length : Int) - typed.lower.length =
      (candidate.length - typed.length : Nat) := by
  rw [Text.length_lower htyped, Text.length_lower hcandidate, Nat.cast_sub hle]

/-- **Without rounding** the score at an offset is what the letters in common are worth. -/
theorem atOffset_exact {offset : Nat} (hle : offset + typed.length ≤ candidate.length) :
    atOffset .exact typed candidate offset =
      .ok ⟨offset, common typed candidate offset, exactAt typed candidate offset⟩ := by
  rw [atOffset, agreement_slice_eq_common htyped hcandidate hle, exactAt, worth]
  dsimp only
  rw [length_lower_sub htyped hcandidate (by omega), penalty_exact]
  by_cases hnone : common typed candidate offset = 0
  · rw [if_pos hnone, if_pos hnone, hnone]
  · rw [if_neg hnone, if_neg hnone, if_neg (by omega)]
    -- a penalty is never below zero, so there is none just if it is zero
    by_cases hfree : cost offset (candidate.length - typed.length) = 0
    · rw [if_pos hfree, if_pos hfree.le]
    · rw [if_neg hfree, if_neg fun hle => hfree (hle.antisymm (cost_nonneg _ _))]
      rfl

/-- **The best score is the greatest** of those at all offsets. -/
theorem exists_best_isGreatest (hne : typed ≠ []) (hle : typed.length ≤ candidate.length) :
    ∃ score, best .exact typed candidate = .ok score ∧
      IsGreatest (offsetScores typed candidate) score := by
  obtain ⟨score, hbest⟩ := @exists_best_eq_ok .exact _ _ htyped hcandidate
  refine ⟨score, hbest, ?_⟩
  rw [best, if_neg (by simpa using hne)] at hbest
  obtain ⟨hfrom, -, hall⟩ := foldlM_best hbest
  constructor
  · rcases hfrom with rfl | ⟨offset, hoffset, scored, hscored, hscore⟩
    · -- if no offset scores more than zero, the first one scores zero
      obtain ⟨scored, hscored, hmax⟩ := hall 0 (mem_offsets.mpr ⟨hle, Nat.zero_le _⟩)
      refine ⟨0, Nat.zero_le _, scored, hscored, hmax.antisymm ?_⟩
      rw [atOffset_exact htyped hcandidate (by omega)] at hscored
      obtain rfl := Except.ok.inj hscored
      exact worth_nonneg _ (cost_nonneg _ _)
    · exact ⟨offset, (mem_offsets.mp hoffset).2, scored, hscored, hscore⟩
  · rintro _ ⟨offset, hoffset, scored, hscored, rfl⟩
    obtain ⟨scored', hscored', hmax⟩ := hall offset (mem_offsets.mpr ⟨hle, hoffset⟩)
    rw [hscored] at hscored'
    obtain rfl := Except.ok.inj hscored'
    exact hmax

/-- The best score is reached at an offset that no other one exceeds. -/
theorem exists_best_eq_exactAt (hne : typed ≠ []) (hle : typed.length ≤ candidate.length) :
    ∃ offset ≤ candidate.length - typed.length,
      best .exact typed candidate = .ok (exactAt typed candidate offset) ∧
      ∀ other ≤ candidate.length - typed.length,
        exactAt typed candidate other ≤ exactAt typed candidate offset := by
  obtain ⟨score, hbest, ⟨offset, hoffset, scored, hscored, rfl⟩, hmost⟩ :=
    exists_best_isGreatest htyped hcandidate hne hle
  rw [atOffset_exact htyped hcandidate (by omega)] at hscored
  obtain rfl := Except.ok.inj hscored
  refine ⟨offset, hoffset, hbest, ?_⟩
  intro other hother
  exact hmost ⟨other, hother, _, atOffset_exact htyped hcandidate (by omega), rfl⟩

end Exact

/-! ### Beginnings -/

/-- A candidate begins with the typed text just if all letters agree without an offset. -/
theorem common_zero_eq_length_iff {typed candidate : Text} (htyped : typed.AllTypable) :
    common typed candidate 0 = typed.length ↔ typed.lower <+: candidate.lower := by
  have hcount : common typed candidate 0 = typed.length ↔
      ∀ i ∈ List.range typed.length, (candidate.lower[0 + i]? == typed.lower[i]?) = true := by
    rw [← List.countP_eq_length, List.length_range, common]
  rw [hcount, ← Text.length_lower htyped, List.prefix_iff_getElem?]
  simp only [List.mem_range, zero_add, beq_iff_eq]
  apply forall₂_congr
  intro i hi
  rw [List.getElem?_eq_getElem hi]

/-- **Letters are worth less behind an offset**, and not more in a longer candidate. -/
theorem exactAt_lt_exactAt {typed first other : Text} (hle : first.length ≤ other.length)
    {offset : Nat} (hoffset : 0 < offset) (hsome : 0 < common typed first 0)
    (hmost : common typed other offset ≤ common typed first 0) :
    exactAt typed other offset < exactAt typed first 0 := by
  have hspare : first.length - typed.length ≤ other.length - typed.length :=
    Nat.sub_le_sub_right hle _
  have hmore := lt_cost hoffset (other.length - typed.length)
  rw [exactAt, exactAt, cost_zero]
  apply worth_lt_worth hsome (Nat.cast_nonneg _) ((Nat.cast_nonneg _).trans_lt hmore)
  calc (common typed other offset : Rat) * (first.length - typed.length : Nat)
      ≤ common typed first 0 * (other.length - typed.length : Nat) := by gcongr
    _ < common typed first 0 * cost offset (other.length - typed.length) := by gcongr

/-- Without an offset, what agrees in fewer letters is worth less, and not more if it is longer. -/
theorem exactAt_zero_lt_exactAt_zero {typed first other : Text}
    (hlt : typed.length < first.length) (hle : first.length ≤ other.length)
    (hfewer : common typed other 0 < common typed first 0) :
    exactAt typed other 0 < exactAt typed first 0 := by
  have hspare : first.length - typed.length ≤ other.length - typed.length :=
    Nat.sub_le_sub_right hle _
  have hfirst : 0 < first.length - typed.length := Nat.sub_pos_of_lt hlt
  rw [exactAt, exactAt]
  apply worth_lt_worth ((Nat.zero_le _).trans_lt hfewer) (cost_nonneg _ _)
    (cost_pos 0 (hfirst.trans_le hspare))
  rw [cost_zero, cost_zero]
  calc (common typed other 0 : Rat) * (first.length - typed.length : Nat)
      < common typed first 0 * (first.length - typed.length : Nat) := by gcongr
    _ ≤ common typed first 0 * (other.length - typed.length : Nat) := by gcongr

section Beginning

variable {typed first other : Text} (htyped : typed.AllTypable) (hfirst : first.AllTypable)
  (hother : other.AllTypable)
include htyped

/-- Nothing behind an offset is worth as much as a beginning, for no more than the typed letters can
agree. -/
theorem exactAt_lt_of_prefix (hne : typed ≠ []) (hbegins : typed.lower <+: first.lower)
    (hle : first.length ≤ other.length) {offset : Nat} (hoffset : 0 < offset) :
    exactAt typed other offset < exactAt typed first 0 := by
  have hall : common typed first 0 = typed.length := (common_zero_eq_length_iff htyped).mpr hbegins
  apply exactAt_lt_exactAt hle hoffset
  · rw [hall]
    exact List.length_pos_iff.mpr hne
  · rw [hall]
    exact common_le_length typed other offset

include hfirst

/-- **What begins with the typed text scores best without an offset.** -/
theorem best_of_prefix (hne : typed ≠ []) (hlt : typed.length < first.length)
    (hbegins : typed.lower <+: first.lower) :
    best .exact typed first = .ok (exactAt typed first 0) ∧
      exactAt typed first 0 = .finite (typed.length / (first.length - typed.length)) := by
  constructor
  · obtain ⟨offset, -, hbest, hmost⟩ := exists_best_eq_exactAt htyped hfirst hne hlt.le
    rcases Nat.eq_zero_or_pos offset with rfl | hpos
    · exact hbest
    · have hless := exactAt_lt_of_prefix htyped hne hbegins le_rfl hpos
      exact absurd (hmost 0 (Nat.zero_le _)) (not_le.mpr hless)
  · rw [exactAt, (common_zero_eq_length_iff htyped).mpr hbegins,
      worth_of_pos _ (cost_pos 0 (Nat.sub_pos_of_lt hlt)), cost_zero, Nat.cast_sub hlt.le]

include hother

/-- **Beginnings lead.** Behind an offset, as many letters in common score less, also in a longer
candidate. So a candidate that begins with the typed text scores more than any that is no shorter
and begins in another way; its score is the number of typed letters divided by the number of letters
to come. -/
theorem prefix_leads (hle : typed.length ≤ first.length) (hle' : first.length ≤ other.length) :
    (∀ offset, 1 ≤ offset → offset ≤ other.length - typed.length →
      ∃ unshifted shifted, atOffset .exact typed first 0 = .ok unshifted ∧
        atOffset .exact typed other offset = .ok shifted ∧
        unshifted.agreeing = common typed first 0 ∧
        shifted.agreeing = common typed other offset ∧
        (1 ≤ unshifted.agreeing → shifted.agreeing ≤ unshifted.agreeing →
          shifted.score < unshifted.score)) ∧
    (typed ≠ [] → typed.length < first.length →
      typed.lower <+: first.lower → ¬ typed.lower <+: other.lower →
      ∃ score, best .exact typed other = .ok score ∧
        best .exact typed first = .ok (.finite (typed.length / (first.length - typed.length))) ∧
        score < .finite (typed.length / (first.length - typed.length))) := by
  constructor
  · intro offset hoffset hinside
    -- both scores are known, so the law is one about what letters are worth
    have hunshifted := @atOffset_exact typed first htyped hfirst 0 (by omega)
    have hshifted := @atOffset_exact typed other htyped hother offset (by omega)
    refine ⟨_, _, hunshifted, hshifted, rfl, rfl, ?_⟩
    intro hsome hmost
    exact exactAt_lt_exactAt hle' hoffset hsome hmost
  · intro hne hlt hbegins hnot
    obtain ⟨hbest, hscore⟩ := best_of_prefix htyped hfirst hne hlt hbegins
    obtain ⟨offset, -, hbest', -⟩ := exists_best_eq_exactAt htyped hother hne (hle.trans hle')
    refine ⟨_, hbest', by rw [hbest, hscore], ?_⟩
    rw [← hscore]
    -- a candidate that begins in another way pays for an offset, or has fewer letters in common
    rcases Nat.eq_zero_or_pos offset with rfl | hpos
    · apply exactAt_zero_lt_exactAt_zero hlt hle'
      rw [← common_zero_eq_length_iff htyped] at hbegins hnot
      rw [hbegins]
      exact lt_of_le_of_ne (common_le_length typed other 0) hnot
    · exact exactAt_lt_of_prefix htyped hne hbegins hle' hpos

end Beginning

/-- For someone who typed pa, pale leads spade, where the same letters come one place later. -/
theorem pale_leads_spade :
    (∀ offset, 1 ≤ offset → offset ≤ "spade".toList.length - "pa".toList.length →
      ∃ unshifted shifted, atOffset .exact "pa".toList "pale".toList 0 = .ok unshifted ∧
        atOffset .exact "pa".toList "spade".toList offset = .ok shifted ∧
        unshifted.agreeing = common "pa".toList "pale".toList 0 ∧
        shifted.agreeing = common "pa".toList "spade".toList offset ∧
        (1 ≤ unshifted.agreeing → shifted.agreeing ≤ unshifted.agreeing →
          shifted.score < unshifted.score)) ∧
    ∃ score, best .exact "pa".toList "spade".toList = .ok score ∧
      best .exact "pa".toList "pale".toList = .ok (.finite (2 / (4 - 2))) ∧
      score < .finite (2 / (4 - 2)) := by
  have hpa : Text.isTypable "pa".toList = true := by decide +kernel
  have hpale : Text.isTypable "pale".toList = true := by decide +kernel
  have hspade : Text.isTypable "spade".toList = true := by decide +kernel
  have hleads := prefix_leads (Text.AllTypable.of_isTypable hpa)
    (Text.AllTypable.of_isTypable hpale) (Text.AllTypable.of_isTypable hspade)
    (by decide) (by decide)
  exact ⟨hleads.1, hleads.2 (by decide) (by decide) (by decide +kernel) (by decide +kernel)⟩

end CommandPrompt.Score
