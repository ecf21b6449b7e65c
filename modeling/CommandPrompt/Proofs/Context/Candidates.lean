import CommandPrompt.Proofs.Context.Commands
import CommandPrompt.Proofs.Context.Continuation

/-!
# Candidates for an object

Once something stands behind the verb, candidates lead on (`Context.exists_candidate_and_ofLine`):
if the world has a noun and no two of its verbs share a preposition, there is a candidate, and every
candidate can be accepted, so that a player who takes what is offered never runs into a fault.

All of it follows from one fact about candidates (`World.IsCommand.exists_noun_of_mem_candidates`).
While words wait in an open phrase, a candidate is a word of a noun that has these words; otherwise
it is a word of any noun. So if the candidate goes on with the phrase, that noun still fits. And if
its spelling is a preposition, too, it closes the phrase, which had a noun already
(`World.IsCommand.concat`).
-/

namespace CommandPrompt

/-! ### Prepositions of one verb only -/

/-- Whether no two verbs share a preposition. -/
def World.HasOwnPrepositions (world : World) : Prop :=
  ∀ v ∈ world.verbs, ∀ v' ∈ world.verbs, ∀ t ∈ v.prepositions, ∀ t' ∈ v'.prepositions,
    t.lower = t'.lower → v = v'

instance (world : World) : Decidable world.HasOwnPrepositions :=
  inferInstanceAs (Decidable (∀ v ∈ world.verbs, ∀ v' ∈ world.verbs, ∀ t ∈ v.prepositions,
    ∀ t' ∈ v'.prepositions, t.lower = t'.lower → v = v'))

theorem World.HasOwnPrepositions.not_isSharedPreposition {world : World}
    (hown : world.HasOwnPrepositions) (t : Text) : ¬world.IsSharedPreposition t := by
  rintro ⟨v, hv, v', hv', hne, ht, ht'⟩
  exact hne (hown v hv v' hv' _ ht _ ht' rfl)

/-! ### Nouns that candidates are words of -/

/-- An unfinished noun has a name that was not said. -/
theorem Cluster.unmentionedWords_following_ne_nil {number : Nat} {keys : List Text} {noun : Noun}
    (h : (following number keys noun).isComplete = false) :
    (following number keys noun).unmentionedWords ≠ [] := by
  have hname : noun.primary.lower ∈ noun.nameKeys := List.mem_map_of_mem List.mem_cons_self
  have hnot : (following number keys noun).hasMentioned noun.primary.lower = false :=
    hasMentioned_following_eq_false (not_mem_of_isComplete_eq_false h hname)
  -- the profile has a word with the key of the name, and one of these is left unsaid
  have hkey := (noun.any_key_profile noun.primary.lower).mpr (Noun.mem_keys_of_mem_nameKeys hname)
  obtain ⟨w, hw, hwkey⟩ := List.any_eq_true.mp hkey
  rw [← beq_iff_eq.mp hwkey] at hnot
  obtain ⟨u, hu, -⟩ :=
    Suggestion.exists_mem_unmentionedWords (Word.pairwise_sort _) hw hnot
  exact List.ne_nil_of_mem hu

namespace World

variable {world : World}

@[simp] theorem fitting_nil : world.fitting [] = world.nouns := by
  rw [fitting, List.filter_eq_self]
  exact fun noun _ => rfl

/-- Behind a group other than the verb no verb is asked for. -/
theorem asksForVerb_commandGroups {t : Text} {ts : List Text}
    (htwo : 2 ≤ (world.commandGroups t ts).length) (fresh : Bool) :
    Suggestion.asksForVerb (world.commandGroups t ts) fresh = false := by
  rw [commandGroups] at htwo ⊢
  cases hgroups : (world.wordParts ts).flatMap world.wordGroups with
  | nil =>
    rw [hgroups] at htwo
    exact absurd htwo (by simp)
  | cons group others => rfl

section Command

variable {t : Text} {ts : List Text}

/-- A phrase that is open at the end of a command is unfinished. -/
theorem IsCommand.incomplete_ne_nil (hcommand : world.IsCommand t ts) {closed : List (Part Text)}
    {number : Nat} {opened : List Text}
    (hplain : ∀ u ∈ opened, Part.IsPlain world.isPreposition world.isName u)
    (hparts : world.wordParts ts = closed ++ [.phrase number opened]) :
    (Group.nounPhrase ((world.fitting (opened.map Text.lower)).map
      (Cluster.following number (opened.map Text.lower)))).incomplete ≠ [] := by
  have hfit := hcommand.fit (.phrase number opened)
    (hparts ▸ List.mem_append_right _ List.mem_cons_self)
  obtain ⟨noun, hnoun⟩ := List.exists_mem_of_ne_nil _ hfit
  -- none of the words is a name, so none of them is a name of this noun
  have hincomplete :
      (Cluster.following number (opened.map Text.lower) noun).isComplete = false := by
    rw [Cluster.following, List.any_map, List.any_eq_false]
    intro u hu hname
    have hnot := (hplain u hu).2
    rw [isName, List.any_eq_false] at hnot
    exact hnot noun (mem_fitting.mp hnoun).1 hname
  refine List.ne_nil_of_mem (List.mem_filter.mpr ⟨List.mem_map_of_mem hnoun, ?_⟩)
  rw [hincomplete]
  rfl

/-- **Candidates are words of nouns that fit** what waits in an open phrase. -/
theorem IsCommand.exists_noun_of_mem_candidates (h : world.Sound) (hsingle : world.HasSingleWords)
    (hcommand : world.IsCommand t ts) (hts : ∀ u ∈ t :: ts, u.IsWord ∧ u.AllTypable)
    (htwo : 2 ≤ (world.commandGroups t ts).length) {closed : List (Part Text)} {number : Nat}
    {opened : List Text} (hplain : ∀ u ∈ opened, Part.IsPlain world.isPreposition world.isName u)
    (hparts : world.wordParts ts = closed ++ Part.phraseOf number opened) {fresh : Bool} {w : Word}
    (hw : w ∈ Suggestion.candidates (Catalog.ofWorld world) (world.commandGroups t ts) fresh) :
    ∃ noun ∈ world.fitting (opened.map Text.lower), w ∈ noun.words := by
  have hread := (Context.readGroups_eq_ok_iff_isCommand h hsingle hts).mpr ⟨hcommand, rfl⟩
  by_cases hopened : opened = []
  · subst hopened
    rw [List.map_nil, fitting_nil]
    -- nothing waits, so it is enough that candidates belong to nouns of the world
    rcases Suggestion.mem_candidates_of_not_asksForVerb (asksForVerb_commandGroups htwo fresh) hw
      with ⟨profile, hprofile, hmem⟩ | ⟨group, hlast, cluster, hcluster, hunsaid⟩
    · obtain ⟨noun, hnoun, rfl⟩ := (Catalog.mem_profiles h).mp hprofile
      exact ⟨noun, hnoun, Noun.mem_profile_words hmem⟩
    · obtain ⟨noun, hnoun, number, keys, rfl⟩ := Context.exists_following_of_mem_clusters h hread
        (List.mem_of_getLast? hlast) (List.mem_filter.mp hcluster).1
      exact ⟨noun, hnoun, Noun.mem_profile_words (Suggestion.mem_unmentionedWords hunsaid).1⟩
  · -- an open phrase is the last group, and what it leaves unsaid comes before anything else
    rw [Part.phraseOf_of_ne_nil number hopened] at hparts
    have hlast : (world.commandGroups t ts).getLast? =
        some (.nounPhrase ((world.fitting (opened.map Text.lower)).map
          (Cluster.following number (opened.map Text.lower)))) := by
      rw [commandGroups, hparts, flatMap_wordGroups_phrase, ← List.cons_append,
        List.getLast?_concat]
    obtain ⟨noun, hnoun, hmem⟩ := Context.exists_noun_of_mem_candidates h hread hlast
      (hcommand.incomplete_ne_nil hplain hparts) hw
    rw [Group.nouns_nounPhrase_following] at hnoun
    exact ⟨noun, hnoun, hmem⟩

/-- **A word of a noun that fits** what waits in an open phrase can come next. -/
theorem IsCommand.concat (hcommand : world.IsCommand t ts) (hown : world.HasOwnPrepositions)
    {closed : List (Part Text)} {number : Nat} {opened : List Text}
    (hplain : ∀ u ∈ opened, Part.IsPlain world.isPreposition world.isName u)
    (hparts : world.wordParts ts = closed ++ Part.phraseOf number opened)
    (happend : ∀ rest, world.wordParts (ts ++ rest) =
      closed ++ Part.cut world.isPreposition world.isName number (opened ++ rest))
    {noun : Noun} (hnoun : noun ∈ world.fitting (opened.map Text.lower)) {w : Word}
    (hw : w ∈ noun.words) : world.IsCommand t (ts ++ [w.spelling]) := by
  have hmem : noun ∈ world.nouns := (mem_fitting.mp hnoun).1
  have hword : w ∈ world.words := mem_words.mpr (Or.inr ⟨noun, hmem, hw⟩)
  have hverb := Noun.isVerb_of_mem_words hw
  refine ⟨hcommand.placed.concat hword rfl hverb,
    fun u _ => hown.not_isSharedPreposition u, fun part hpart => ?_⟩
  rw [happend] at hpart
  have hfit := hcommand.fit
  rw [hparts] at hfit
  cases hprep : world.isPreposition w.spelling with
  | true =>
    -- the phrase is closed as it is, and a preposition needs no noun
    rw [Part.cut_append_preposition hplain hprep, ← List.append_assoc, List.mem_append] at hpart
    rcases hpart with hpart | hpart
    · exact hfit part hpart
    · obtain rfl := List.mem_singleton.mp hpart
      exact id
  | false =>
    rw [Part.cut_append_singleton hplain hprep, List.mem_append, List.mem_singleton] at hpart
    rcases hpart with hpart | rfl
    · exact hfit part (List.mem_append_left _ hpart)
    · -- the phrase goes on with a word that its noun has
      have hfits : noun ∈ world.fitting ((opened ++ [w.spelling]).map Text.lower) := by
        rw [List.map_append, List.map_singleton, fitting_concat]
        exact List.mem_filter.mpr
          ⟨hnoun, List.contains_iff_mem.mpr (Noun.mem_keys.mpr ⟨w, hw, rfl⟩)⟩
      exact List.ne_nil_of_mem hfits

end Command

end World

/-! ### Lines with a candidate behind them -/

namespace Context

variable {world : World}

/-- Every unfinished noun of a group that was read leaves a word unsaid. -/
theorem unmentionedWords_ne_nil (h : world.Sound) {t : Text} {groups : List Group}
    (hread : readGroups (Catalog.ofWorld world) t = .ok groups) :
    ∀ group ∈ groups, ∀ cluster ∈ group.incomplete, cluster.unmentionedWords ≠ [] := by
  intro group hgroup cluster hcluster
  obtain ⟨hmem, hincomplete⟩ := List.mem_filter.mp hcluster
  obtain ⟨noun, -, number, keys, rfl⟩ := exists_following_of_mem_clusters h hread hgroup hmem
  exact Cluster.unmentionedWords_following_ne_nil (by simpa using hincomplete)

/-- **Candidates lead on.** Behind the verb and something more there is a candidate, and whichever
is accepted, the line has a context again. -/
theorem exists_candidate_and_ofLine (hbuilt : world.Built) (hsingle : world.HasSingleWords)
    (hown : world.HasOwnPrepositions) (hnouns : world.nouns ≠ []) (round : Rounding) (limit : Int)
    {t : Text} (hclean : t.clean = t) (hspace : t.getLast? = some ' ') {context : Context}
    (hcontext : ofLine round (Catalog.ofWorld world) (.whole limit) (Line.atEnd t) = .ok context)
    (htwo : 2 ≤ context.groups.length) :
    Suggestion.candidates (Catalog.ofWorld world) context.groups
        (isFresh context.workingWord) ≠ [] ∧
      ∀ w ∈ Suggestion.candidates (Catalog.ofWorld world) context.groups
          (isFresh context.workingWord),
        ∃ context', ofLine round (Catalog.ofWorld world) (.whole limit)
          (Line.atEnd (t ++ w.spelling ++ [' '])) = .ok context' := by
  have h := hbuilt.sound
  have hread := groups_of_ofLine_eq_ok h round limit _ hcontext
  obtain ⟨v, ts, -, heq, hts, hcommand, hgroups⟩ :=
    exists_isCommand_of_ofLine h hsingle hclean hspace hcontext
  rw [hgroups] at htwo hread ⊢
  refine ⟨Suggestion.candidates_ne_nil (World.asksForVerb_commandGroups htwo _)
    (Catalog.nounStarters_ne_nil h hnouns) (unmentionedWords_ne_nil h hread), fun w hw => ?_⟩
  -- the candidate is a word of a noun that fits what waits, so that noun can take it in
  obtain ⟨closed, number, opened, hplain, hparts, happend⟩ := world.exists_wordParts_append ts
  obtain ⟨noun, hnoun, hmem⟩ :=
    hcommand.exists_noun_of_mem_candidates h hsingle hts htwo hplain hparts hw
  have hcommand' := hcommand.concat hown hplain hparts happend hnoun hmem
  have hword : w ∈ world.words := mem_words_of_mem_candidates h hread hw
  obtain ⟨context', hcontext', -⟩ := (exists_ofLine_iff_isCommand h hsingle round limit
    (hsingle.isWord_concat h hts hword)).mpr ⟨hcommand', rfl⟩
  refine ⟨context', ?_⟩
  rw [heq, Text.append_word_append_space]
  exact hcontext'

/-- Whatever is offered to someone who takes something red can be taken. -/
theorem exists_candidate_and_ofLine_take_red :
    ∃ context, ofLine .double (Catalog.ofWorld World.oilLamp) (.whole 5)
        (Line.atEnd "take red ".toList) = .ok context ∧
      2 ≤ context.groups.length ∧
      Suggestion.candidates (Catalog.ofWorld World.oilLamp) context.groups
        (isFresh context.workingWord) ≠ [] ∧
      ∀ w ∈ Suggestion.candidates (Catalog.ofWorld World.oilLamp) context.groups
          (isFresh context.workingWord),
        ∃ context', ofLine .double (Catalog.ofWorld World.oilLamp) (.whole 5)
          (Line.atEnd ("take red ".toList ++ w.spelling ++ [' '])) = .ok context' := by
  obtain ⟨context, hcontext, hgroups, -⟩ := exists_ofLine_offers_redLamp (Or.inl ⟨rfl, rfl⟩)
  have htwo : 2 ≤ context.groups.length := by
    rw [hgroups]
    rfl
  exact ⟨context, hcontext, htwo, exists_candidate_and_ofLine World.oilLamp_built
    (by decide +kernel) (by decide +kernel) (by decide +kernel) .double 5 (by decide +kernel) rfl
    hcontext htwo⟩

end Context

end CommandPrompt
