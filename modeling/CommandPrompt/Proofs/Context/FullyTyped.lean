import CommandPrompt.Proofs.Context.Reading
import CommandPrompt.Proofs.Suggestion.Scoring
import CommandPrompt.Proofs.Suggestion.Selection

/-!
# A word typed to its end

The best suggestion comes last. For a word that was typed to its end one expects the word itself
there, since its score is infinite. But every candidate of the same length that agrees with the
typed word in some place has an infinite score, too, and among equal scores the last candidate comes
last. So the last suggestion is the last candidate aligned with the typed word
(`Context.getLast?_suggestions_of_fully_typed`). It is the typed word itself if no other candidate
is aligned with it, and need not be otherwise: beside make, take is suggested to someone who typed
all of make (`Context.exists_other_suggestion_make`).
-/

namespace CommandPrompt

/-- A world of two verbs that differ only in their first letters. -/
def World.makeTake : World :=
  let world := (addVerb {} { spelling := "make".toList }).1
  (world.addVerb { spelling := "take".toList }).1

theorem World.makeTake_built : makeTake.Built := .addVerb (.addVerb (.empty [] []) _) _

namespace Context

variable {world : World} {round : Rounding} {limit : Int} {line : Line} {context : Context}

/-- The suggestions of a context are the best of its ranking. -/
theorem exists_rank_of_ofLine_eq_ok {catalog : Catalog}
    (hcontext : ofLine round catalog (.whole limit) line = .ok context) :
    context.workingWord = line.clean.workingWord line.clean.workingSpan ∧
      ∃ ranked, rank round catalog context.groups context.workingWord = .ok ranked ∧
        context.suggestions = Suggestion.selectTop Suggestion.score limit ranked := by
  rw [ofLine, ofClean] at hcontext
  obtain ⟨groups, -, hcontext⟩ := bind_eq_ok_iff.mp hcontext
  obtain ⟨ranked, hranked, hcontext⟩ := bind_eq_ok_iff.mp hcontext
  obtain ⟨count, hcount, hcontext⟩ := bind_eq_ok_iff.mp hcontext
  obtain rfl := Except.ok.inj hcontext
  obtain rfl := Except.ok.inj (mapError_eq_ok_iff.mp hcount)
  exact ⟨rfl, ranked, mapError_eq_ok_iff.mp hranked, rfl⟩

/-- The working word of a context can be typed. -/
theorem allTypable_of_ofLine_eq_ok {catalog : Catalog}
    (hcontext : ofLine round catalog (.whole limit) line = .ok context) :
    context.workingWord.AllTypable := by
  obtain ⟨hword, -⟩ := exists_rank_of_ofLine_eq_ok hcontext
  rw [hword]
  exact allTypable_workingWord line line.clean.workingSpan

theorem ne_nil_of_isFresh_eq_false {workingWord : Text} (hfresh : isFresh workingWord = false) :
    workingWord ≠ [] := by
  rintro rfl
  exact absurd hfresh (by decide)

/-- The candidates that are aligned with the working word of a context. -/
def aligned (world : World) (context : Context) : List Word :=
  (Suggestion.candidates (Catalog.ofWorld world) context.groups
    (isFresh context.workingWord)).filter fun w => Score.isAligned context.workingWord w.spelling

/-- **The last suggestion** is the last candidate aligned with the working word, if there is one. -/
theorem getLast?_suggestions (h : world.Sound) (hround : round.KeepsSign) (hlimit : 1 ≤ limit)
    (hcontext : ofLine round (Catalog.ofWorld world) (.whole limit) line = .ok context)
    (hfresh : isFresh context.workingWord = false) (haligned : aligned world context ≠ []) :
    context.suggestions.getLast? =
      (aligned world context).getLast?.map (Suggestion.ofWord · .top) := by
  have hread := groups_of_ofLine_eq_ok h round limit line hcontext
  obtain ⟨-, ranked, hranked, hsuggestions⟩ := exists_rank_of_ofLine_eq_ok hcontext
  have htyped := allTypable_of_ofLine_eq_ok hcontext
  have hne := ne_nil_of_isFresh_eq_false hfresh
  -- the ranking gives infinite scores to the aligned candidates only
  rw [rank, hfresh, if_neg Bool.false_ne_true, ← hfresh] at hranked
  have htop := Suggestion.filter_top_rankPartial hround htyped hne (fun w hw =>
    (h.isSpelling (mem_words_of_mem_candidates h hread hw)).allTypable) hranked
  have hsome : ranked.filter (·.score = .top) ≠ [] := by
    rw [htop, Ne, List.map_eq_nil_iff]
    exact haligned
  rw [hsuggestions, Suggestion.getLast?_selectTop hlimit hsome, htop, List.getLast?_map]
  rfl

/-- **A word typed to its end** is followed by the last candidate aligned with it, with an infinite
score. That is the word itself, if no other candidate is aligned. -/
theorem getLast?_suggestions_of_fully_typed (hbuilt : world.Built) (hlimit : 1 ≤ limit)
    (hcontext : ofLine .double (Catalog.ofWorld world) (.whole limit) line = .ok context)
    (hfresh : isFresh context.workingWord = false) {w : Word}
    (hw : w ∈ Suggestion.candidates (Catalog.ofWorld world) context.groups
      (isFresh context.workingWord))
    (hkey : w.key = context.workingWord.lower) :
    ∃ last, (aligned world context).getLast? = some last ∧
      context.suggestions.getLast? = some (.ofWord last .top) ∧
      ((∀ u ∈ aligned world context, u.key = context.workingWord.lower) →
        last.key = context.workingWord.lower) := by
  have h := hbuilt.sound
  have hread := groups_of_ofLine_eq_ok h .double limit line hcontext
  have htyped := allTypable_of_ofLine_eq_ok hcontext
  have hne := ne_nil_of_isFresh_eq_false hfresh
  have hcandidate := (h.isSpelling (mem_words_of_mem_candidates h hread hw)).allTypable
  -- the typed word itself is aligned
  have hself : w ∈ aligned world context :=
    List.mem_filter.mpr ⟨hw, Score.isAligned_of_lower_eq htyped hcandidate hne hkey⟩
  have hsome := List.ne_nil_of_mem hself
  refine ⟨(aligned world context).getLast hsome, List.getLast?_eq_some_getLast hsome, ?_, ?_⟩
  · rw [getLast?_suggestions h Rounding.keepsSign_double hlimit hcontext hfresh hsome,
      List.getLast?_eq_some_getLast hsome]
    rfl
  · intro hkeys
    exact hkeys _ (List.getLast_mem hsome)

/-! ### Make and take -/

/-- The verb make as a word. -/
def makeWord : Word := ⟨"make".toList, .verb ⟨1, "make".toList, [], none, []⟩, none⟩

/-- The verb take as a word. -/
def takeWord : Word := ⟨"take".toList, .verb ⟨2, "take".toList, [], none, []⟩, none⟩

theorem candidates_makeTake (fresh : Bool) :
    Suggestion.candidates (Catalog.ofWorld World.makeTake) [.verb []] fresh =
      [makeWord, takeWord] := by
  have hasks : Suggestion.asksForVerb [.verb []] fresh = true := by cases fresh <;> rfl
  rw [Suggestion.candidates, hasks, if_pos rfl, Catalog.verbWords, Catalog.words_ofWorld,
    World.vocabulary, Word.sort_eq_insertionSort]
  decide +kernel

/-- Whoever typed all of make is offered both verbs, which are aligned with it. -/
theorem exists_ofLine_make :
    ∃ context, ofLine .double (Catalog.ofWorld World.makeTake) (.whole 1)
        (Line.withCaret "make".toList none) = .ok context ∧
      isFresh context.workingWord = false ∧
      makeWord ∈ Suggestion.candidates (Catalog.ofWorld World.makeTake) context.groups
        (isFresh context.workingWord) ∧
      context.workingWord.lower = makeWord.key ∧
      aligned World.makeTake context = [makeWord, takeWord] := by
  have hread : readGroups (Catalog.ofWorld World.makeTake)
      (settledPart (Line.withCaret "make".toList none).clean) = .ok [.verb []] := by rfl
  obtain ⟨context, hcontext, hgroups⟩ :=
    exists_ofLine_of_ok World.makeTake_built.sound .double 1 _ hread
  obtain ⟨hword, -⟩ := exists_rank_of_ofLine_eq_ok hcontext
  have hmake : context.workingWord = "make".toList := hword.trans (by decide +kernel)
  have hfresh : isFresh context.workingWord = false := by
    rw [hmake]
    rfl
  refine ⟨context, hcontext, hfresh, ?_, ?_, ?_⟩
  · rw [hgroups, hfresh, candidates_makeTake]
    exact List.mem_cons_self
  · rw [hmake]
    rfl
  · rw [aligned, hgroups, hfresh, candidates_makeTake, hmake]
    decide +kernel

/-- The last suggestion for make is one of the two verbs, the last that is aligned with it. -/
theorem exists_last_suggestion_make :
    ∃ context, ofLine .double (Catalog.ofWorld World.makeTake) (.whole 1)
        (Line.withCaret "make".toList none) = .ok context ∧
      ∃ last, (aligned World.makeTake context).getLast? = some last ∧
        context.suggestions.getLast? = some (.ofWord last .top) ∧
        ((∀ u ∈ aligned World.makeTake context, u.key = context.workingWord.lower) →
          last.key = context.workingWord.lower) := by
  obtain ⟨context, hcontext, hfresh, hmem, hkey, -⟩ := exists_ofLine_make
  exact ⟨context, hcontext, getLast?_suggestions_of_fully_typed World.makeTake_built (by decide)
    hcontext hfresh hmem hkey.symm⟩

/-- **The word typed to its end need not come last**: whoever typed all of make gets take. -/
theorem exists_other_suggestion_make :
    World.makeTake.Built ∧
    ∃ context word suggestion, ofLine .double (Catalog.ofWorld World.makeTake) (.whole 1)
        (Line.withCaret "make".toList none) = .ok context ∧
      isFresh context.workingWord = false ∧
      word ∈ Suggestion.candidates (Catalog.ofWorld World.makeTake) context.groups
        (isFresh context.workingWord) ∧
      word.key = context.workingWord.lower ∧
      context.suggestions.getLast? = some suggestion ∧
      suggestion.text.lower ≠ context.workingWord.lower := by
  obtain ⟨context, hcontext, hfresh, hmem, hkey, haligned⟩ := exists_ofLine_make
  have hne : aligned World.makeTake context ≠ [] := by
    rw [haligned]
    exact List.cons_ne_nil _ _
  have hlast := getLast?_suggestions World.makeTake_built.sound Rounding.keepsSign_double
    (by decide) hcontext hfresh hne
  rw [haligned] at hlast
  refine ⟨World.makeTake_built, context, makeWord, .ofWord takeWord .top, hcontext, hfresh, hmem,
    hkey.symm, hlast, ?_⟩
  rw [hkey]
  decide +kernel

end Context

end CommandPrompt
