import CommandPrompt.Proofs.Phrase.Matching

/-!
# Looking words up

If no spelling holds a space, matching a text is looking its words up, one after another
(`AmbiguityGroup.read_looks_up`). That the matcher takes the longest spelling that begins the text,
and asks only afterwards whether a word ends there, makes no difference: a spelling that begins the
text begins its first word, so the longest one is the whole word if any spelling is. The text is
matched if all of its words are known.

What is told of a text with an unknown word comes from the first one, where reading ends. Spellings
that begin the word are still tried there. If there is none, the text from the word on is reported,
and otherwise the same text, cut inside the word, behind the longest spelling that begins it.
-/

namespace CommandPrompt

namespace AmbiguityGroup

variable {vocabulary : List Word}

/-- A typable spelling without a space is without blanks. -/
theorem not_isBlank_of_not_mem_space (h : Word.LongestFirst vocabulary)
    (hsingle : ∀ w ∈ vocabulary, ' ' ∉ w.spelling) :
    ∀ w ∈ vocabulary, ∀ c ∈ w.spelling, isBlank c = false := by
  intro w hw c hc
  rw [← Bool.not_eq_true, isBlank_iff_of_isTypableChar ((h.isSpelling w hw).allTypable c hc)]
  rintro rfl
  exact hsingle w hw hc

/-- The words of a typable text are typable words. -/
theorem isWord_and_allTypable_of_mem_words {t : Text} (ht : t.isTypable) :
    ∀ u ∈ t.words, u.IsWord ∧ u.AllTypable := fun _ hu =>
  ⟨Text.isWord_of_mem_words hu,
    Text.allTypable_of_mem_words (Text.AllTypable.of_isTypable ht) hu⟩

/-- A typable text whose words are all known is matched word by word. -/
theorem read_of_known (h : Word.LongestFirst vocabulary)
    (hsingle : ∀ w ∈ vocabulary, ' ' ∉ w.spelling) {t : Text} (ht : t.isTypable)
    (hknown : ∀ u ∈ t.words, IsKnown vocabulary u) :
    read vocabulary t = .ok (t.words.map fun u => ofKey vocabulary u.lower) := by
  have hlength : (Text.unwords t.words).length ≤ t.length := by
    rw [← Text.strip_eq_unwords ht]
    exact (Text.strip_sublist t).length_le
  rw [read, Text.strip_eq_unwords ht]
  exact readFrom_unwords_of_known h (not_isBlank_of_not_mem_space h hsingle)
    (isWord_and_allTypable_of_mem_words ht) hknown hlength

/-- Reading a typable text stops at its first unknown word. -/
theorem read_of_first_unknown (h : Word.LongestFirst vocabulary)
    (hsingle : ∀ w ∈ vocabulary, ' ' ∉ w.spelling) {t : Text} (ht : t.isTypable)
    {known : List Text} {u : Text} {behind : List Text} (hsplit : t.words = known ++ u :: behind)
    (hknown : ∀ v ∈ known, IsKnown vocabulary v) (hu : ¬IsKnown vocabulary u) :
    ∃ misreading, read vocabulary t = .error misreading ∧
      StopsAt vocabulary u (Text.unwords (u :: behind)) misreading := by
  have hwords := isWord_and_allTypable_of_mem_words ht
  have hlength : (Text.unwords t.words).length ≤ t.length := by
    rw [← Text.strip_eq_unwords ht]
    exact (Text.strip_sublist t).length_le
  rw [read, Text.strip_eq_unwords ht]
  rw [hsplit] at hwords hlength ⊢
  exact readFrom_unwords_append_cons_of_unknown h (not_isBlank_of_not_mem_space h hsingle)
    hwords hknown hu hlength

/-- **On single words, matching is exact look-up.** A typable text is matched if and only if all of
its words are known, and then every word gets all words of the vocabulary that are spelled like it,
in their order. Otherwise the first unknown word ends the reading. If no spelling begins it, the
text from this word on is reported, and else the same text in two parts, the first of which is as
long as the longest spelling that begins the word. -/
theorem read_looks_up (h : Word.LongestFirst vocabulary)
    (hsingle : ∀ w ∈ vocabulary, ' ' ∉ w.spelling) {t : Text} (ht : t.isTypable) :
    ((∃ groups, read vocabulary t = .ok groups) ↔ ∀ u ∈ t.words, IsKnown vocabulary u) ∧
    (∀ groups, read vocabulary t = .ok groups →
      groups = t.words.map fun u => ofKey vocabulary u.lower) ∧
    ∀ known u behind, t.words = known ++ u :: behind →
      (∀ v ∈ known, IsKnown vocabulary v) → ¬IsKnown vocabulary u →
      ∃ rest, rest = Text.unwords (u :: behind) ∧ rest <:+ t.strip ∧
        (read vocabulary t = .error (.noVocabularyMatch rest) ↔
          ∀ w ∈ vocabulary, ¬w.key <+: u.lower) ∧
        ((∃ w ∈ vocabulary, w.key <+: u.lower) →
          ∃ w ∈ vocabulary, w.key <+: u.lower ∧
            (∀ v ∈ vocabulary, v.key <+: u.lower → v.spelling.length ≤ w.spelling.length) ∧
            read vocabulary t = .error (.wordBoundary (rest.take w.spelling.length)
              (rest.drop w.spelling.length))) := by
  have hiff : (∃ groups, read vocabulary t = .ok groups) ↔
      ∀ u ∈ t.words, IsKnown vocabulary u := by
    refine ⟨fun ⟨groups, hgroups⟩ => ?_, fun hall => ⟨_, read_of_known h hsingle ht hall⟩⟩
    by_contra hnot
    push Not at hnot
    obtain ⟨known, u, behind, hsplit, hu, hbefore⟩ := exists_first_unknown hnot
    obtain ⟨misreading, herror, -⟩ := read_of_first_unknown h hsingle ht hsplit hbefore hu
    rw [herror] at hgroups
    exact absurd hgroups (by simp)
  refine ⟨hiff, fun groups hgroups => ?_, fun known u behind hsplit hbefore hu => ?_⟩
  · have hall := read_of_known h hsingle ht (hiff.mp ⟨groups, hgroups⟩)
    exact Except.ok.inj (hgroups.symm.trans hall)
  · have hsuffix : Text.unwords (u :: behind) <:+ t.strip := by
      rw [Text.strip_eq_unwords ht, hsplit]
      exact Text.unwords_suffix_unwords_append known (u :: behind)
    refine ⟨_, rfl, hsuffix, ?_⟩
    -- the two ways in which reading stops exclude each other
    obtain ⟨misreading, herror, hstops⟩ := read_of_first_unknown h hsingle ht hsplit hbefore hu
    cases hstops with
    | unmatched hnone =>
      refine ⟨⟨fun _ => hnone, fun _ => herror⟩, fun ⟨w, hw, hbegins⟩ => ?_⟩
      exact absurd hbegins (hnone w hw)
    | inside hw hbegins hmax =>
      refine ⟨⟨fun hmatch => ?_, fun hnone => absurd hbegins (hnone _ hw)⟩,
        fun _ => ⟨_, hw, hbegins, hmax, herror⟩⟩
      rw [herror] at hmatch
      exact absurd hmatch (by simp)

/-- A redwood and red oil: one spelling begins another. -/
def redwoodWords : List Word :=
  let cut : Verb := ⟨1, "examine".toList, [], some "x".toList, []⟩
  let redwood : Noun := ⟨2, "redwood".toList, [], ["Red".toList]⟩
  let oil : Noun := ⟨3, "oil".toList, [], ["red".toList]⟩
  [⟨"examine".toList, .verb cut, none⟩, ⟨"redwood".toList, .noun redwood, none⟩,
    ⟨"oil".toList, .noun oil, none⟩, ⟨"Red".toList, .adjective redwood, none⟩,
    ⟨"red".toList, .adjective oil, none⟩, ⟨"x".toList, .verb cut, none⟩]

/-- Redwood is known although red begins it. Redder is not, and the text is cut behind red. -/
theorem read_redwood_redder :
    Word.LongestFirst redwoodWords ∧ (∀ w ∈ redwoodWords, ' ' ∉ w.spelling) ∧
      Text.isTypable "X redwood redder oil ".toList ∧
      read redwoodWords "X redwood redder oil ".toList =
        .error (.wordBoundary "red".toList "der oil".toList) := by
  have hwords : Word.LongestFirst redwoodWords :=
    { isSpelling := fun w hw => ⟨by revert w; decide, by revert w; decide⟩
      descending := by decide }
  have hsingle : ∀ w ∈ redwoodWords, ' ' ∉ w.spelling := by decide
  have htyp : Text.isTypable "X redwood redder oil ".toList := by decide +kernel
  obtain ⟨-, -, hunknown⟩ := read_looks_up hwords hsingle htyp
  obtain ⟨rest, rfl, -, -, hcut⟩ := hunknown ["X".toList, "redwood".toList] "redder".toList
    ["oil".toList] (by decide +kernel) (by unfold IsKnown; decide +kernel)
    (by unfold IsKnown; decide +kernel)
  obtain ⟨w, hw, hbegins, -, hread⟩ := hcut (by decide +kernel)
  -- whichever of the two adjectives it is, it has three letters
  have hlength : w.spelling.length = 3 := by
    revert w
    decide +kernel
  rw [hlength] at hread
  exact ⟨hwords, hsingle, htyp, hread⟩

end AmbiguityGroup

end CommandPrompt
