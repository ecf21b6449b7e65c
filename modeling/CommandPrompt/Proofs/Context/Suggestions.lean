import CommandPrompt.Proofs.Context.FullyTyped
import CommandPrompt.Proofs.Suggestion.Agreement
import CommandPrompt.Proofs.Suggestion.Trimming

/-!
# What a context offers

The suggestions of a context are told from its candidates (`Context.ofLine_offers`). Candidates are
words of the catalog, no two of which are spelled alike but for letter case
(`Suggestion.pairwise_key_candidates`, `Context.mem_catalog_of_mem_candidates`). Ranking keeps their
order and scores them: for a new word all of them, and else those that agree with the letters typed
so far. Of these the best are selected, as many as are wanted or else all of them, in ascending
order of their scores. The candidates for a new word are ranked in this order already, so the last
of them are offered.

What is offered is thus some of the candidates, whatever became of them on the way. That is why no
two suggestions are spelled alike, and why each of them is a word of the catalog.
-/

namespace CommandPrompt

/-! ### Candidates -/

theorem Suggestion.pairwise_key_candidates (catalog : Catalog) (groups : List Group)
    (isFresh : Bool) : (candidates catalog groups isFresh).Pairwise fun a b => a.key ≠ b.key := by
  -- wherever candidates come from, only the first word of every key is kept
  rw [candidates]
  split
  · exact Word.pairwise_key_distinctKeys _
  · split
    · exact Word.pairwise_key_distinctKeys _
    · exact Word.pairwise_key_distinctKeys _

namespace Context

section Candidates

variable {world : World} (h : world.Sound)
include h

/-- **Candidates are words of the catalog.** -/
theorem mem_catalog_of_mem_candidates {t : Text} {groups : List Group}
    (hread : readGroups (Catalog.ofWorld world) t = .ok groups) {isFresh : Bool} {w : Word}
    (hw : w ∈ Suggestion.candidates (Catalog.ofWorld world) groups isFresh) :
    w ∈ (Catalog.ofWorld world).words := by
  rcases Suggestion.mem_candidates hw with hw | ⟨profile, hmem, hw⟩ | ⟨group, hlast, cluster,
    hcluster, hw⟩
  · exact hw
  · obtain ⟨noun, hnoun, rfl⟩ := (Catalog.mem_profiles h).mp hmem
    exact Catalog.mem_words_of_mem_profile h hnoun hw
  · obtain ⟨noun, hnoun, number, keys, rfl⟩ := exists_following_of_mem_clusters h hread
      (List.mem_of_getLast? hlast) (List.mem_filter.mp hcluster).1
    exact Catalog.mem_words_of_mem_profile h hnoun (Suggestion.mem_unmentionedWords hw).1

end Candidates

/-! ### Suggestions -/

/-- What a context offers, given the ranking of its candidates. -/
structure Offers (round : Rounding) (catalog : Catalog) (limit : Int) (context : Context)
    (ranked : List Suggestion) : Prop where
  /-- The ranking is that of the candidates for the working word. -/
  rank_eq : rank round catalog context.groups context.workingWord = .ok ranked
  /-- The best of the ranking are offered, as many as are wanted, in ascending order. -/
  selects : Suggestion.Selects Suggestion.score limit ranked context.suggestions
  /-- No two suggestions are spelled alike but for letter case. -/
  nodup : (context.suggestions.map fun suggestion => suggestion.text.lower).Nodup
  /-- A suggestion is a word of the catalog, with its spelling and its display text. -/
  mem_words : ∀ suggestion ∈ context.suggestions, suggestion.word ∈ catalog.words ∧
    suggestion.text = suggestion.word.spelling ∧ suggestion.display = suggestion.word.display
  /-- For a new word all candidates are ranked, and the last of them are offered as they stand. -/
  of_isFresh : isFresh context.workingWord = true →
    let words := Suggestion.candidates catalog context.groups true
    ranked.map Suggestion.word = words ∧
      context.suggestions.map Suggestion.word = words.rtake (min (max 0 limit) words.length).toNat
  /-- Else those candidates are ranked that agree with what was typed, and so do suggestions. -/
  of_not_isFresh : isFresh context.workingWord = false →
    let words := Suggestion.candidates catalog context.groups false
    ranked.map Suggestion.word =
        words.filter (fun w => Score.Agrees context.workingWord w.spelling) ∧
      ∀ suggestion ∈ context.suggestions, Score.Agrees context.workingWord suggestion.text

section Offers

variable {world : World} {round : Rounding} {limit : Int} {line : Line} {context : Context}

theorem showsWord_of_rank_eq_ok {catalog : Catalog} {groups : List Group} {workingWord : Text}
    {ranked : List Suggestion} (hranked : rank round catalog groups workingWord = .ok ranked)
    {suggestion : Suggestion} (h : suggestion ∈ ranked) : suggestion.ShowsWord := by
  rw [rank] at hranked
  cases hfresh : isFresh workingWord with
  | true =>
    rw [hfresh, if_pos rfl] at hranked
    obtain rfl := Except.ok.inj hranked
    exact Suggestion.showsWord_of_mem_rankFresh h
  | false =>
    rw [hfresh, if_neg Bool.false_ne_true] at hranked
    exact Suggestion.showsWord_of_mem_rankPartial hranked h

/-- **The suggestions of a context show their words**, however they were ranked. -/
theorem showsWord_of_mem_suggestions {catalog : Catalog}
    (hcontext : ofLine round catalog (.whole limit) line = .ok context) {suggestion : Suggestion}
    (h : suggestion ∈ context.suggestions) : suggestion.ShowsWord := by
  obtain ⟨-, ranked, hranked, hsuggestions⟩ := exists_rank_of_ofLine_eq_ok hcontext
  rw [hsuggestions] at h
  exact showsWord_of_rank_eq_ok hranked
    ((Suggestion.selects_selectTop Suggestion.score limit ranked).subset h)

/-- The words of a ranking, for a new word and else. -/
theorem map_word_of_rank_eq_ok (h : world.Sound) (hround : round.KeepsOrder)
    (hcontext : ofLine round (Catalog.ofWorld world) (.whole limit) line = .ok context)
    {ranked : List Suggestion}
    (hranked : rank round (Catalog.ofWorld world) context.groups context.workingWord = .ok ranked) :
    ranked.map Suggestion.word =
      (Suggestion.candidates (Catalog.ofWorld world) context.groups
        (isFresh context.workingWord)).filter fun w =>
          isFresh context.workingWord || Score.Agrees context.workingWord w.spelling := by
  have hread := groups_of_ofLine_eq_ok h round limit line hcontext
  have htyped := allTypable_of_ofLine_eq_ok hcontext
  rw [rank] at hranked
  cases hfresh : isFresh context.workingWord with
  | true =>
    rw [hfresh, if_pos rfl] at hranked
    obtain rfl := Except.ok.inj hranked
    rw [Suggestion.map_word_rankFresh]
    simp
  | false =>
    rw [hfresh, if_neg Bool.false_ne_true] at hranked
    rw [Suggestion.map_word_rankPartial hround.keepsSign htyped (fun w hw =>
      (h.isSpelling (mem_words_of_mem_candidates h hread hw)).allTypable) hranked]
    simp

/-- **What a line is offered.** Whatever was typed, if it has a context then the suggestions are the
best of its ranked candidates. -/
theorem ofLine_offers (hbuilt : world.Built) (hround : round.KeepsOrder) {text : Text}
    {caret : Option Int} (hcontext : ofLine round (Catalog.ofWorld world) (.whole limit)
      (Line.withCaret text caret) = .ok context) :
    ∃ ranked, Offers round (Catalog.ofWorld world) limit context ranked := by
  have h := hbuilt.sound
  have hread := groups_of_ofLine_eq_ok h round limit _ hcontext
  obtain ⟨-, ranked, hranked, hsuggestions⟩ := exists_rank_of_ofLine_eq_ok hcontext
  have hwords := map_word_of_rank_eq_ok h hround hcontext hranked
  have hselects := Suggestion.selects_selectTop Suggestion.score limit ranked
  rw [← hsuggestions] at hselects
  -- suggestions are ranked, and what is ranked are candidates
  have hmem := hselects.subset
  have hcandidate : ∀ suggestion ∈ context.suggestions, suggestion.word ∈
      (Suggestion.candidates (Catalog.ofWorld world) context.groups
        (isFresh context.workingWord)).filter fun w =>
          isFresh context.workingWord || Score.Agrees context.workingWord w.spelling := by
    intro suggestion hs
    rw [← hwords]
    exact List.mem_map_of_mem (hmem hs)
  refine ⟨ranked, hranked, hselects, ?_, fun suggestion hs => ?_, fun hfresh => ?_,
    fun hfresh => ?_⟩
  · -- the keys of what is ranked differ, and so do those of a part of it
    have hkeys : (ranked.map fun suggestion => suggestion.text.lower).Nodup := by
      have hdiff := (Suggestion.pairwise_key_candidates (Catalog.ofWorld world) context.groups
        (isFresh context.workingWord)).filter fun w =>
          isFresh context.workingWord || Score.Agrees context.workingWord w.spelling
      rw [← hwords, List.pairwise_map] at hdiff
      refine List.pairwise_map.mpr (hdiff.imp_of_mem fun {a b} ha hb hne => ?_)
      rw [(showsWord_of_rank_eq_ok hranked ha).text_eq,
        (showsWord_of_rank_eq_ok hranked hb).text_eq]
      exact hne
    obtain ⟨dropped, hperm, -⟩ := hselects.exists_dropped
    have hall := (hperm.map fun suggestion => suggestion.text.lower).nodup_iff.mpr hkeys
    rw [List.map_append] at hall
    exact (List.nodup_append.mp hall).2.1
  · have hshows := showsWord_of_mem_suggestions hcontext hs
    exact ⟨mem_catalog_of_mem_candidates h hread (List.mem_filter.mp (hcandidate _ hs)).1,
      hshows.text_eq, hshows.display_eq⟩
  · intro words
    have hall : ranked.map Suggestion.word = words := by
      rw [hwords, hfresh]
      simp [words]
    refine ⟨hall, ?_⟩
    rw [rank, hfresh, if_pos rfl] at hranked
    obtain rfl := Except.ok.inj hranked
    have hlength := congrArg List.length hall
    rw [List.length_map] at hlength
    rw [hsuggestions, Suggestion.selectTop_of_pairwise _ (Suggestion.pairwise_rankFresh hround _),
      List.rtake, List.rtake, List.map_drop, hall, hlength]
    congr 1
    omega
  · intro words
    rw [hfresh] at hwords hcandidate
    simp only [Bool.false_or] at hwords hcandidate
    refine ⟨hwords, fun suggestion hs => ?_⟩
    rw [(showsWord_of_mem_suggestions hcontext hs).text_eq]
    exact of_decide_eq_true (List.mem_filter.mp (hcandidate _ hs)).2

end Offers

/-- Whoever has typed nothing and wants one suggestion is offered the last of the two verbs. -/
theorem exists_offers_take :
    ∃ context ranked, ofLine .exact (Catalog.ofWorld World.makeTake) (.whole 1)
        (Line.withCaret [] none) = .ok context ∧
      Offers .exact (Catalog.ofWorld World.makeTake) 1 context ranked ∧
      context.suggestions.map Suggestion.word = [takeWord] := by
  have hread : readGroups (Catalog.ofWorld World.makeTake)
      (settledPart (Line.withCaret [] none).clean) = .ok [.verb []] := by rfl
  obtain ⟨context, hcontext, hgroups⟩ :=
    exists_ofLine_of_ok World.makeTake_built.sound .exact 1 _ hread
  obtain ⟨hword, -⟩ := exists_rank_of_ofLine_eq_ok hcontext
  have hfresh : isFresh context.workingWord = true := by
    rw [hword]
    rfl
  obtain ⟨ranked, hoffers⟩ :=
    ofLine_offers World.makeTake_built Rounding.keepsOrder_exact hcontext
  have hwords : Suggestion.candidates (Catalog.ofWorld World.makeTake) context.groups true =
      [makeWord, takeWord] := by
    rw [hgroups, candidates_makeTake]
  have hlast := (hoffers.of_isFresh hfresh).2
  rw [hwords] at hlast
  exact ⟨context, ranked, hcontext, hoffers, hlast⟩

end Context

end CommandPrompt
