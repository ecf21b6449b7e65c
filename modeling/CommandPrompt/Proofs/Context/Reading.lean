import CommandPrompt.Proofs.Line.Settled
import CommandPrompt.Proofs.Phrase.Weaving
import CommandPrompt.Proofs.Suggestion.Ranking

/-!
# What a context comes from

A line has a context just if its settled part reads as groups, and then the groups of the context
are those (`exists_ofLine_of_ok`, `groups_of_ofLine_eq_ok`); otherwise the misreading is the fault
of the line (`ofLine_eq_error_iff`). Ranking suggestions adds no fault, because candidates are words
of the world and the working word is typable.

Groups that were read have the form that the meaning of a command gives them
(`readGroups_eq_ok_cases`): a verb, and the groups of parts of which every phrase has a noun that
fits.
-/

namespace CommandPrompt.Context

variable {world : World} {t : Text} {groups : List Group}

/-! ### Groups that were read -/

/-- **The form of what was read**: nothing but an empty verb, or verbs and the groups of parts that
fit. -/
theorem readGroups_eq_ok_cases (h : world.Sound)
    (hread : readGroups (Catalog.ofWorld world) t = .ok groups) :
    groups = [.verb []] ∨ ∃ verbs places, (∀ place ∈ places, world.IsPlace place) ∧
      AmbiguityGroup.clash? places = none ∧
      (∀ part ∈ AmbiguityGroup.parts places, part.isUnfit world = false) ∧
      groups = .verb verbs :: (AmbiguityGroup.parts places).flatMap (Part.groups world) := by
  obtain ⟨matched, hmatched, hread⟩ := bind_eq_ok_iff.mp hread
  obtain ⟨gated, hgated, hweave⟩ := bind_eq_ok_iff.mp hread
  cases gated with
  | nil => exact Or.inl (Except.ok.inj hweave).symm
  | cons verbs places =>
    -- behind the verb weaving gives the meaning of the places, whatever text was matched
    have hplaces := (Weaver.isPlace_of_gate h hmatched hgated).2
    rw [Weaver.weave_eq_meaning h verbs hplaces, World.meaning] at hweave
    split at hweave
    · exact absurd hweave (by simp)
    · next hclash =>
      split at hweave
      · exact absurd hweave (by simp)
      · next hfit =>
        refine Or.inr ⟨verbs, places, hplaces, hclash, fun part hpart => ?_,
          (Except.ok.inj hweave).symm⟩
        exact List.findIdx?_eq_none_iff.mp hfit part hpart

/-- The clusters of a group that was read follow nouns of the world. -/
theorem exists_following_of_mem_clusters (h : world.Sound)
    (hread : readGroups (Catalog.ofWorld world) t = .ok groups) {group : Group}
    (hgroup : group ∈ groups) {cluster : Cluster} (hcluster : cluster ∈ group.clusters) :
    ∃ noun ∈ world.nouns, ∃ number keys, cluster = Cluster.following number keys noun := by
  rcases readGroups_eq_ok_cases h hread with rfl | ⟨verbs, places, -, -, -, rfl⟩
  · rw [List.mem_singleton.mp hgroup] at hcluster
    exact absurd hcluster List.not_mem_nil
  · rcases List.mem_cons.mp hgroup with rfl | hgroup
    · exact absurd hcluster List.not_mem_nil
    · obtain ⟨part, -, hgroup⟩ := List.mem_flatMap.mp hgroup
      cases part with
      | preposition place =>
        obtain ⟨w, -, rfl⟩ := List.mem_map.mp hgroup
        exact absurd hcluster List.not_mem_nil
      | phrase number places =>
        rw [List.mem_singleton.mp hgroup] at hcluster
        obtain ⟨noun, hnoun, rfl⟩ := List.mem_map.mp hcluster
        exact ⟨noun, (World.mem_fitting.mp hnoun).1, number, _, rfl⟩

/-! ### Suggestions -/

/-- Candidates are words of the world. -/
theorem mem_words_of_mem_candidates (h : world.Sound)
    (hread : readGroups (Catalog.ofWorld world) t = .ok groups) {isFresh : Bool} {w : Word}
    (hw : w ∈ Suggestion.candidates (Catalog.ofWorld world) groups isFresh) :
    w ∈ world.words := by
  have hprofile : ∀ noun ∈ world.nouns, w ∈ noun.profile.words → w ∈ world.words :=
    fun noun hnoun hw => World.mem_words.mpr (Or.inr ⟨noun, hnoun, Noun.mem_profile_words hw⟩)
  rcases Suggestion.mem_candidates hw with hw | ⟨profile, hmem, hw⟩ | ⟨group, hlast, cluster,
    hcluster, hw⟩
  · rw [Catalog.words_ofWorld] at hw
    exact World.mem_words_of_mem_vocabulary hw
  · obtain ⟨noun, hnoun, rfl⟩ := (Catalog.mem_profiles h).mp hmem
    exact hprofile noun hnoun hw
  · obtain ⟨noun, hnoun, number, keys, rfl⟩ := exists_following_of_mem_clusters h hread
      (List.mem_of_getLast? hlast) (List.mem_filter.mp hcluster).1
    exact hprofile noun hnoun (Suggestion.mem_unmentionedWords hw).1

/-- **Ranking adds no fault.** -/
theorem exists_rank_eq_ok (h : world.Sound) (round : Rounding)
    (hread : readGroups (Catalog.ofWorld world) t = .ok groups) {workingWord : Text}
    (htyp : workingWord.AllTypable) :
    ∃ ranked, rank round (Catalog.ofWorld world) groups workingWord = .ok ranked := by
  rw [rank]
  split
  · exact ⟨_, rfl⟩
  · refine Suggestion.exists_rankPartial_eq_ok htyp fun w hw => ?_
    exact (h.isSpelling (mem_words_of_mem_candidates h hread hw)).allTypable

/-! ### Lines -/

section Line

variable (h : world.Sound) (round : Rounding) (limit : Int) (line : Line)

/-- A misreading of the settled part is the fault of the line. -/
theorem ofLine_of_error {misreading : Misreading}
    (hread : readGroups (Catalog.ofWorld world) (settledPart line.clean) = .error misreading) :
    ofLine round (Catalog.ofWorld world) (.whole limit) line = .error (.misread misreading) := by
  rw [ofLine, ofClean, hread]
  rfl

include h

/-- The groups of the settled part are those of a context. -/
theorem exists_ofLine_of_ok
    (hread : readGroups (Catalog.ofWorld world) (settledPart line.clean) = .ok groups) :
    ∃ context, ofLine round (Catalog.ofWorld world) (.whole limit) line = .ok context ∧
      context.groups = groups := by
  obtain ⟨ranked, hrank⟩ := exists_rank_eq_ok h round hread
    (allTypable_workingWord line line.clean.workingSpan)
  -- the groups are there, and neither ranking nor a whole number of suggestions has a fault
  rw [ofLine, ofClean, hread]
  change ∃ context, ((rank round (Catalog.ofWorld world) groups
    (line.clean.workingWord line.clean.workingSpan)).mapError _ >>= _) = _ ∧ _
  rw [hrank]
  exact ⟨_, rfl, rfl⟩

/-- **A line fails just as its settled part does.** -/
theorem ofLine_eq_error_iff {misreading : Misreading} :
    ofLine round (Catalog.ofWorld world) (.whole limit) line = .error (.misread misreading) ↔
      readGroups (Catalog.ofWorld world) (settledPart line.clean) = .error misreading := by
  cases hread : readGroups (Catalog.ofWorld world) (settledPart line.clean) with
  | error misreading' =>
    rw [ofLine_of_error round limit line hread, Except.error.injEq, ContextFault.misread.injEq,
      Except.error.injEq]
  | ok groups =>
    obtain ⟨context, hcontext, -⟩ := exists_ofLine_of_ok h round limit line hread
    rw [hcontext]
    exact ⟨fun heq => absurd heq (by simp), fun heq => absurd heq (by simp)⟩

/-- **A context has the groups of the settled part.** -/
theorem groups_of_ofLine_eq_ok {context : Context}
    (hcontext : ofLine round (Catalog.ofWorld world) (.whole limit) line = .ok context) :
    readGroups (Catalog.ofWorld world) (settledPart line.clean) = .ok context.groups := by
  cases hread : readGroups (Catalog.ofWorld world) (settledPart line.clean) with
  | error misreading =>
    rw [ofLine_of_error round limit line hread] at hcontext
    exact absurd hcontext (by simp)
  | ok groups =>
    obtain ⟨context', hcontext', rfl⟩ := exists_ofLine_of_ok h round limit line hread
    rw [hcontext] at hcontext'
    rw [Except.ok.inj hcontext']

end Line

end CommandPrompt.Context
