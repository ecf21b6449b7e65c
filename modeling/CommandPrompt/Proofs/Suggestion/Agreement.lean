import CommandPrompt.Proofs.Suggestion.Ranking
import CommandPrompt.Proofs.Suggestion.Scoring
import CommandPrompt.Proofs.Suggestion.Selection

/-!
# Which candidates are ranked

A candidate is ranked for the letters typed so far if it scores at all. It does just if the typed
text can be laid inside it so that the two have a letter in common (`Score.Agrees`), however well or
badly the other letters fit (`Score.zero_lt_best_iff`). So a ranking has the candidates that agree
with the typed text, in their order (`Suggestion.map_word_rankPartial`).

The best score is the greatest of the scores at all offsets, or zero if none is greater
(`Score.foldlM_best`). At one offset the number of common letters is divided by a penalty, so the
score is positive as soon as there is one, and rounding keeps that (`Score.zero_lt_atOffset_iff`).
-/

namespace CommandPrompt

namespace Score

/-! ### Common letters -/

/-- Whether a typed text can be laid inside a candidate so that they agree in some place, but for
letter case. -/
def Agrees (typed candidate : Text) : Prop :=
  typed.length ≤ candidate.length ∧ ∃ offset ≤ candidate.length - typed.length,
    ∃ i < typed.length, candidate.lower[offset + i]? = typed.lower[i]?

instance (typed candidate : Text) : Decidable (Agrees typed candidate) :=
  inferInstanceAs (Decidable (typed.length ≤ candidate.length ∧
    ∃ offset ≤ candidate.length - typed.length, ∃ i < typed.length,
      candidate.lower[offset + i]? = typed.lower[i]?))

/-- A piece that lies inside a text. -/
theorem slice_eq {t : Text} {offset size : Nat} (hle : offset + size ≤ t.length) :
    t.slice offset (offset + size) = (t.take (offset + size)).drop offset := by
  have hstart : Text.position t.length offset = offset := by
    rw [Text.position, if_neg (by omega), Int.toNat_natCast]
    omega
  have hstop : Text.position t.length ((offset : Int) + size) = offset + size := by
    rw [Text.position, if_neg (by omega), ← Nat.cast_add, Int.toNat_natCast]
    omega
  rw [Text.slice, hstart, hstop]

/-! ### The score at one offset -/

section Offset

variable {round : Rounding} {typed candidate : Text} (htyped : typed.AllTypable)
  (hcandidate : candidate.AllTypable)
include htyped hcandidate

/-- What is counted at an offset are the places in common. -/
theorem agreement_slice_eq_common {offset : Nat} (hle : offset + typed.length ≤ candidate.length) :
    agreement typed.lower (candidate.lower.slice offset (offset + typed.lower.length)) =
      common typed candidate offset := by
  have hlower : offset + typed.lower.length ≤ candidate.lower.length := by
    rw [Text.length_lower htyped, Text.length_lower hcandidate]
    exact hle
  have hlength : (candidate.lower.slice offset (offset + typed.lower.length)).length =
      typed.lower.length := by
    rw [slice_eq hlower, List.length_drop, List.length_take]
    omega
  rw [agreement_eq_countP hlength.ge, common, ← Text.length_lower htyped]
  refine List.countP_congr fun i hi => ?_
  rw [List.mem_range] at hi
  rw [slice_eq hlower, List.getElem?_drop, List.getElem?_take_of_lt (by omega)]

/-- **At one offset** a candidate scores just if it agrees with the typed text. -/
theorem zero_lt_atOffset_iff (hround : round.KeepsSign) {offset : Nat}
    (hle : offset + typed.length ≤ candidate.length) {scored : OffsetScore}
    (hscored : atOffset round typed candidate offset = .ok scored) :
    Extended.finite 0 < scored.score ↔
      ∃ i < typed.length, candidate.lower[offset + i]? = typed.lower[i]? := by
  rw [← common_ne_zero_iff]
  rw [atOffset, agreement_slice_eq_common htyped hcandidate hle] at hscored
  dsimp only at hscored
  split at hscored
  · next hnone =>
    obtain rfl := Except.ok.inj hscored
    exact iff_of_false (by decide : ¬Extended.finite 0 < .finite 0) (not_not.mpr hnone)
  next hsome =>
  refine iff_of_true ?_ hsome
  split at hscored
  · exact absurd hscored (by simp)
  split at hscored
  · obtain rfl := Except.ok.inj hscored
    rfl
  · next hpenalty =>
    -- a positive number of letters, divided by a positive penalty
    obtain rfl := Except.ok.inj hscored
    have hagreeing : 0 < round (common typed candidate offset : Rat) :=
      hround.pos _ (Nat.cast_pos.mpr (Nat.pos_of_ne_zero hsome))
    rw [Extended.finite_lt_finite_iff]
    exact hround.pos _ (div_pos hagreeing (not_le.mp hpenalty))

end Offset

/-! ### The best score -/

/-- **The best score** is the one to begin with or that of an offset, and no offset scores more. -/
theorem foldlM_best {f : Nat → Except ScoreFault OffsetScore} {offsets : List Nat}
    {start score : Extended}
    (h : offsets.foldlM (fun best offset => do
      let scored ← f offset
      return if best < scored.score then scored.score else best) start = .ok score) :
    (score = start ∨ ∃ offset ∈ offsets, ∃ scored, f offset = .ok scored ∧ scored.score = score) ∧
      start ≤ score ∧
      ∀ offset ∈ offsets, ∃ scored, f offset = .ok scored ∧ scored.score ≤ score := by
  induction offsets generalizing start with
  | nil =>
    obtain rfl := Except.ok.inj h
    exact ⟨Or.inl rfl, (Extended.le_total start start).elim id id,
      fun offset hoffset => absurd hoffset List.not_mem_nil⟩
  | cons offset offsets ih =>
    rw [List.foldlM_cons] at h
    obtain ⟨next, hnext, h⟩ := bind_eq_ok_iff.mp h
    obtain ⟨scored, hscored, hnext⟩ := bind_eq_ok_iff.mp hnext
    obtain rfl := Except.ok.inj hnext
    obtain ⟨hfrom, hle, hall⟩ := ih h
    -- the greater of the two goes on
    have hboth : start ≤ score ∧ scored.score ≤ score := by
      split at hle
      · next hlt =>
        have hstart : start ≤ scored.score := (Extended.le_total start scored.score).resolve_right
          (Extended.lt_iff_not_le.mp hlt)
        exact ⟨Extended.le_trans hstart hle, hle⟩
      · next hnot =>
        have hscore : scored.score ≤ start := by
          rwa [Extended.lt_iff_not_le, not_not] at hnot
        exact ⟨hle, Extended.le_trans hscore hle⟩
    refine ⟨?_, hboth.1, fun o ho => ?_⟩
    · rcases hfrom with heq | ⟨o, ho, hmore⟩
      · split at heq
        · exact Or.inr ⟨offset, List.mem_cons_self, scored, hscored, heq.symm⟩
        · exact Or.inl heq
      · exact Or.inr ⟨o, List.mem_cons_of_mem offset ho, hmore⟩
    · rcases List.mem_cons.mp ho with rfl | ho
      · exact ⟨scored, hscored, hboth.2⟩
      · exact hall o ho

theorem mem_offsets {typed candidate : Text} {offset : Nat} :
    offset ∈ offsets typed candidate ↔
      typed.length ≤ candidate.length ∧ offset ≤ candidate.length - typed.length := by
  rw [offsets]
  split
  · next hlt => exact iff_of_false List.not_mem_nil fun h => absurd h.1 (not_le.mpr hlt)
  · next hle => rw [List.mem_range, Nat.lt_succ_iff, and_iff_right (not_lt.mp hle)]

/-- **A candidate scores** just if it agrees with the typed text somewhere inside. -/
theorem zero_lt_best_iff {round : Rounding} (hround : round.KeepsSign) {typed candidate : Text}
    (htyped : typed.AllTypable) (hcandidate : candidate.AllTypable) {score : Extended}
    (hbest : best round typed candidate = .ok score) :
    Extended.finite 0 < score ↔ Agrees typed candidate := by
  rw [best] at hbest
  split at hbest
  · next hempty =>
    obtain rfl := Except.ok.inj hbest
    rw [List.isEmpty_iff] at hempty
    subst hempty
    refine iff_of_false (by decide) ?_
    rintro ⟨-, offset, -, i, hi, -⟩
    exact absurd hi (Nat.not_lt_zero i)
  -- the best score is that of some offset, and no offset has a better one
  obtain ⟨hfrom, -, hall⟩ := foldlM_best hbest
  constructor
  · intro hpos
    rcases hfrom with rfl | ⟨offset, hoffset, scored, hscored, rfl⟩
    · exact absurd hpos (by decide)
    · obtain ⟨hle, hoffset⟩ := mem_offsets.mp hoffset
      refine ⟨hle, offset, hoffset, ?_⟩
      exact (zero_lt_atOffset_iff htyped hcandidate hround (by omega) hscored).mp hpos
  · rintro ⟨hle, offset, hoffset, hagree⟩
    obtain ⟨scored, hscored, hmax⟩ := hall offset (mem_offsets.mpr ⟨hle, hoffset⟩)
    have hpos := (zero_lt_atOffset_iff htyped hcandidate hround (by omega) hscored).mpr hagree
    rw [Extended.lt_iff_not_le] at hpos ⊢
    exact fun hzero => hpos (Extended.le_trans hmax hzero)

end Score

namespace Suggestion

/-- **A ranking has the candidates that agree** with the typed text, in their order. -/
theorem map_word_rankPartial {round : Rounding} (hround : round.KeepsSign) {typed : Text}
    (htyped : typed.AllTypable) {words : List Word} (hwords : ∀ w ∈ words, w.spelling.AllTypable)
    {ranked : List Suggestion} (hranked : rankPartial round typed words = .ok ranked) :
    ranked.map Suggestion.word = words.filter fun w => Score.Agrees typed w.spelling := by
  obtain ⟨score, hscores, rfl⟩ := exists_score_of_rankPartial hranked
  have hcandidates : (words.filter fun w => .finite 0 < score w) =
      words.filter fun w => Score.Agrees typed w.spelling := by
    apply List.filter_congr
    intro w hw
    exact decide_eq_decide.mpr
      (Score.zero_lt_best_iff hround htyped (hwords w hw) (hscores w hw))
  rw [← hcandidates, List.map_map]
  exact List.map_id _

end Suggestion

end CommandPrompt
