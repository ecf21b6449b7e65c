import CommandPrompt.Proofs.Suggestion.ExactScores

/-!
# Rankings for a partial word

In exact numbers a ranking for the letters typed so far is described without its calculation. It has
the candidates that agree with the typed text in some place, in their order and as often as they are
listed (`Score.Agrees`), and each of them with the greatest of its scores at all offsets
(`Score.offsetScores`).

That the calculation never fails, and never loses a letter, is a matter of single offsets
(`Score.Measured`). A penalty is spread over a positive length, letters are divided by a positive
penalty or by none, and where there is a letter in common the score is positive. So nothing that
agrees can fall out of the ranking for its score (`Suggestion.rankPartial_keeps_agreeing`).
-/

namespace CommandPrompt

namespace Score

/-- How a typed text is measured at an offset of a candidate. -/
structure Measured (typed candidate : Text) (offset : Nat) (scored : OffsetScore) : Prop where
  offset_eq : scored.offset = offset
  /-- Letters are counted without regard to letter case. -/
  agreeing_eq : scored.agreeing = common typed candidate offset
  /-- The penalty of the offset is spread over a positive length. -/
  spread_pos : 0 < (candidate.lower.length : Int) - typed.lower.length + 1
  of_none : scored.agreeing = 0 → scored.score = .finite 0
  /-- Letters in common are divided by a positive penalty, unless there is none. -/
  of_some : scored.agreeing ≠ 0 →
    let penalty := penalty .exact offset ((candidate.lower.length : Int) - typed.lower.length)
    penalty = 0 ∧ scored.score = .top ∨
      0 < penalty ∧ scored.score = .finite (scored.agreeing / penalty)
  /-- A letter in common is never worth nothing. -/
  score_pos : scored.agreeing ≠ 0 → .finite 0 < scored.score

/-- **Every offset is measured.** -/
theorem exists_atOffset_measured {typed candidate : Text} (htyped : typed.AllTypable)
    (hcandidate : candidate.AllTypable) {offset : Nat}
    (hle : offset + typed.length ≤ candidate.length) :
    ∃ scored, atOffset .exact typed candidate offset = .ok scored ∧
      Measured typed candidate offset scored := by
  have hspare := length_lower_sub htyped hcandidate (by omega)
  refine ⟨_, atOffset_exact htyped hcandidate hle, rfl, rfl, ?_, ?_, ?_, ?_⟩
  · rw [hspare]
    omega
  · intro hnone
    exact if_pos hnone
  · intro hsome
    dsimp only
    rw [hspare, penalty_exact]
    rcases (cost_nonneg offset (candidate.length - typed.length)).eq_or_lt with hfree | hpos
    · refine Or.inl ⟨hfree.symm, ?_⟩
      rw [exactAt, worth, if_neg hsome, if_pos hfree.symm]
    · exact Or.inr ⟨hpos, worth_of_pos _ hpos⟩
  · intro hsome
    exact worth_pos (Nat.pos_of_ne_zero hsome) (cost_nonneg _ _)

end Score

namespace Suggestion

/-- What is ranked is one of the candidates, with its best score. -/
theorem best_of_mem_rankPartial {round : Rounding} {typed : Text} {words : List Word}
    {ranked : List Suggestion} (hranked : rankPartial round typed words = .ok ranked)
    {suggestion : Suggestion} (h : suggestion ∈ ranked) :
    suggestion.word ∈ words ∧
      Score.best round typed suggestion.word.spelling = .ok suggestion.score := by
  obtain ⟨score, hscores, rfl⟩ := exists_score_of_rankPartial hranked
  obtain ⟨w, hw, rfl⟩ := List.mem_map.mp h
  have hmem := (List.mem_filter.mp hw).1
  exact ⟨hmem, hscores w hmem⟩

/-- **A ranking keeps what agrees**, in exact numbers. It has just the candidates that agree with
the typed text in some place, in their order, each with the greatest score of all its offsets; and
at every offset of every candidate the score is properly measured. -/
theorem rankPartial_keeps_agreeing {typed : Text} (htyped : typed.AllTypable) (hne : typed ≠ [])
    {words : List Word} (hwords : ∀ w ∈ words, w.spelling.AllTypable) :
    ∃ ranked, rankPartial .exact typed words = .ok ranked ∧
      ranked.map Suggestion.word = words.filter (fun w => Score.Agrees typed w.spelling) ∧
      (∀ suggestion ∈ ranked,
        IsGreatest (Score.offsetScores typed suggestion.word.spelling) suggestion.score) ∧
      ∀ w ∈ words, ∀ offset, offset + typed.length ≤ w.spelling.length →
        ∃ scored, Score.atOffset .exact typed w.spelling offset = .ok scored ∧
          Score.Measured typed w.spelling offset scored := by
  obtain ⟨ranked, hranked⟩ := @exists_rankPartial_eq_ok .exact typed htyped words hwords
  have hmap := map_word_rankPartial Rounding.keepsSign_exact htyped hwords hranked
  refine ⟨ranked, hranked, hmap, ?_, ?_⟩
  · intro suggestion hmem
    obtain ⟨hword, hbest⟩ := best_of_mem_rankPartial hranked hmem
    -- what is ranked agrees with the typed text, so it is not shorter
    have hagrees : suggestion.word ∈ words.filter fun w => Score.Agrees typed w.spelling := by
      rw [← hmap]
      exact List.mem_map_of_mem hmem
    have hle := (of_decide_eq_true (List.mem_filter.mp hagrees).2).1
    obtain ⟨score, hbest', hgreatest⟩ :=
      Score.exists_best_isGreatest htyped (hwords _ hword) hne hle
    rw [hbest] at hbest'
    rwa [Except.ok.inj hbest']
  · intro w hw offset hle
    exact Score.exists_atOffset_measured htyped (hwords w hw) hle

/-- Of look, open, take and look again, all but take agree with a typed oo. -/
theorem exists_rankPartial_oo :
    let verb : Verb :=
      ⟨1, "look".toList, ["open".toList, "take".toList, "look".toList], none, []⟩
    ∃ ranked, rankPartial .exact "oo".toList verb.words = .ok ranked ∧
      ranked.map Suggestion.text = ["look".toList, "open".toList, "look".toList] ∧
      (∀ suggestion ∈ ranked,
        IsGreatest (Score.offsetScores "oo".toList suggestion.word.spelling) suggestion.score) ∧
      ∀ w ∈ verb.words, ∀ offset, offset + "oo".toList.length ≤ w.spelling.length →
        ∃ scored, Score.atOffset .exact "oo".toList w.spelling offset = .ok scored ∧
          Score.Measured "oo".toList w.spelling offset scored := by
  intro verb
  have htyped : Text.isTypable "oo".toList = true := by decide +kernel
  have hwords : ∀ w ∈ verb.words, w.spelling.isTypable = true := by decide +kernel
  obtain ⟨ranked, hranked, hmap, hgreatest, hmeasured⟩ :=
    rankPartial_keeps_agreeing (Text.AllTypable.of_isTypable htyped) (by decide)
      fun w hw => Text.AllTypable.of_isTypable (hwords w hw)
  refine ⟨ranked, hranked, ?_, hgreatest, hmeasured⟩
  have hfilter : (verb.words.filter fun w => Score.Agrees "oo".toList w.spelling).map
      Word.spelling = ["look".toList, "open".toList, "look".toList] := by decide +kernel
  rw [← hmap, List.map_map] at hfilter
  rw [← hfilter]
  exact List.map_congr_left fun suggestion hmem =>
    (showsWord_of_mem_rankPartial hranked hmem).text_eq

end Suggestion

end CommandPrompt
