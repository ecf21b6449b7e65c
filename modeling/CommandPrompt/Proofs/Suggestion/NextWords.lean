import CommandPrompt.Proofs.Phrase.Weaving
import CommandPrompt.Proofs.Suggestion.Ranking

/-!
# The words that fit next

Candidates are gathered from clusters that were filled word by word, sorted, and thinned out until
every spelling occurs once. What comes out has a plain description (`Suggestion.FitsNext`). While a
verb is awaited, the verbs fit next. If the last phrase has nouns that were not called by name yet,
it is what these nouns are called and what was not typed in this phrase. Otherwise every name and
adjective of every noun fits.

`Suggestion.candidates_lists` states that the candidates list these words: in the order of the
catalog, every spelling once, no spelling lost, and of several words with one spelling the first one
(`Suggestion.Lists`). Whichever of the three cases it is, this follows from the same two facts about
the words that are thinned out: they are in order, and every word that fits is level with one of
them or comes behind it (`Suggestion.Lists.of_ordered`).

In the second case nothing that was typed is offered and no name is lost. Both come from the form
that weaving gives to the last group: its clusters follow nouns of the world through the keys that
were typed in the last phrase (`Weaver.exists_last_phrase`), and an incomplete one was not followed
through a name of its noun.
-/

namespace CommandPrompt

/-! ### The last phrase -/

/-- What was typed in the last phrase of a command, place by place; nothing, if the command does not
end in a phrase. -/
def AmbiguityGroup.typedLast (gated : List AmbiguityGroup) : List Text :=
  match (parts gated.tail).getLast? with
  | some part => part.items.map key
  | none => []

namespace Weaver

variable {world : World}

/-- The last group is that of the last part, or the verb if there is none. Only a phrase has
clusters, and these follow the nouns that fit its places. -/
theorem incomplete_eq_nil_or_exists_phrase {verbs : List Word}
    {parts : List (Part AmbiguityGroup)}
    (hprep : ∀ place, Part.preposition place ∈ parts → place.prepositions ≠ []) {group : Group}
    (hlast : (Group.verb verbs :: parts.flatMap (Part.groups world)).getLast? = some group) :
    group.incomplete = [] ∨ ∃ number places, parts.getLast? = some (.phrase number places) ∧
      group = .nounPhrase ((world.fitting (places.map AmbiguityGroup.key)).map
        (Cluster.following number (places.map AmbiguityGroup.key))) := by
  rcases List.eq_nil_or_concat' parts with rfl | ⟨init, part, rfl⟩
  · obtain rfl : Group.verb verbs = group := Option.some.inj hlast
    exact Or.inl rfl
  · rw [List.flatMap_append, List.flatMap_singleton, ← List.cons_append] at hlast
    cases part with
    | preposition place =>
      have hsome := hprep place (List.mem_append_right _ List.mem_cons_self)
      have hgroup : group ∈ place.prepositions.map Group.preposition := by
        rw [Part.groups, List.getLast?_append_of_ne_nil _ (by simpa using hsome)] at hlast
        exact List.mem_of_getLast? hlast
      obtain ⟨w, -, rfl⟩ := List.mem_map.mp hgroup
      exact Or.inl rfl
    | phrase number places =>
      rw [Part.groups, List.getLast?_concat] at hlast
      exact Or.inr ⟨number, places, List.getLast?_concat, (Option.some.inj hlast).symm⟩

/-- **The last group of a woven command** has no cluster that is incomplete, or its clusters follow
the nouns that fit what was typed last. -/
theorem exists_last_phrase (h : world.Sound) {t : Text} {matched gated : List AmbiguityGroup}
    {groups : List Group}
    (hread : AmbiguityGroup.read (Catalog.ofWorld world).words t = .ok matched)
    (hgate : AmbiguityGroup.gate matched = .ok gated)
    (hweave : weave (Catalog.ofWorld world) gated = .ok groups) {group : Group}
    (hlast : groups.getLast? = some group) :
    group.incomplete = [] ∨ ∃ number, group = .nounPhrase
      ((world.fitting (AmbiguityGroup.typedLast gated)).map
        (Cluster.following number (AmbiguityGroup.typedLast gated))) := by
  cases gated with
  | nil =>
    -- nothing was typed, and the only group is that of the missing verb
    obtain rfl : [Group.verb []] = groups := Except.ok.inj hweave
    obtain rfl : Group.verb [] = group := Option.some.inj hlast
    exact Or.inl rfl
  | cons verbs places =>
    obtain ⟨-, hplaces⟩ := isPlace_of_gate h hread hgate
    rw [weave_eq_meaning h verbs hplaces, World.meaning] at hweave
    split at hweave
    · exact absurd hweave (by simp)
    split at hweave
    · exact absurd hweave (by simp)
    obtain rfl := Except.ok.inj hweave
    have hprep : ∀ place, Part.preposition place ∈ AmbiguityGroup.parts places →
        place.prepositions ≠ [] := fun place hmem =>
      AmbiguityGroup.prepositions_ne_nil_iff.mpr (Part.isPreposition_of_mem_cut hmem).2
    refine (incomplete_eq_nil_or_exists_phrase hprep hlast).imp_right ?_
    rintro ⟨number, items, hpart, rfl⟩
    rw [AmbiguityGroup.typedLast, List.tail_cons, hpart]
    exact ⟨number, rfl⟩

/-- A woven command begins with its verb. -/
theorem exists_cons_of_weave_eq_ok {catalog : Catalog} {gated : List AmbiguityGroup}
    {groups : List Group} (hweave : weave catalog gated = .ok groups) :
    ∃ verbs others, groups = .verb verbs :: others := by
  obtain ⟨⟨weaver, groups'⟩, hrun, rfl⟩ := map_eq_ok_iff.mp hweave
  cases gated with
  | nil =>
    obtain ⟨-, rfl⟩ := Prod.mk.inj (Except.ok.inj hrun)
    exact ⟨[], [], rfl⟩
  | cons verbs places =>
    obtain ⟨final, -, hrun⟩ := bind_eq_ok_iff.mp hrun
    obtain ⟨others, -, hrun⟩ := bind_eq_ok_iff.mp hrun
    obtain ⟨-, rfl⟩ := Prod.mk.inj (Except.ok.inj hrun)
    exact ⟨verbs, others, rfl⟩

end Weaver

namespace Suggestion

/-! ### What fits -/

/-- Whether a verb is awaited: nothing stands behind the verb, and a new word is begun or nothing
was typed at all. -/
def AwaitsVerb (groups : List Group) (isFresh : Bool) : Prop :=
  ∃ words, groups = [.verb words] ∧ (isFresh = true ∨ words = [])

theorem asksForVerb_iff {verbs : List Word} {others : List Group} {isFresh : Bool} :
    asksForVerb (.verb verbs :: others) isFresh = true ↔
      AwaitsVerb (.verb verbs :: others) isFresh := by
  cases others with
  | nil =>
    rw [asksForVerb, Group.words, Bool.or_eq_true, List.isEmpty_iff]
    constructor
    · intro h
      exact ⟨verbs, rfl, h⟩
    · rintro ⟨words, hgroups, h⟩
      obtain rfl : verbs = words := by simpa using hgroups
      exact h
  | cons group others =>
    refine iff_of_false Bool.false_ne_true ?_
    rintro ⟨words, hgroups, -⟩
    exact absurd hgroups (by simp)

/-- The words that fit next, behind some groups and with some keys typed in the last phrase. -/
inductive FitsNext (groups : List Group) (isFresh : Bool) (typed : List Text) (w : Word) : Prop
  /-- A verb, while one is awaited. -/
  | verb (hawaits : AwaitsVerb groups isFresh) (hverb : w.partOfSpeech = .verb)
  /-- What an unfinished noun of the last group is called and was not typed yet. -/
  | unsaid (hawaits : ¬AwaitsVerb groups isFresh) {group : Group}
    (hlast : groups.getLast? = some group) {cluster : Cluster}
    (hcluster : cluster ∈ group.incomplete) (hword : w ∈ cluster.profile.noun.words)
    (hnot : w.key ∉ typed)
  /-- A name or an adjective of any noun, where no noun is unfinished. -/
  | starter (hawaits : ¬AwaitsVerb groups isFresh)
    (hlast : ∀ group, groups.getLast? = some group → group.incomplete = [])
    (hnoun : w.isNounWord = true)

/-- A list of all words of a world with a property: each spelling once, by the first such word of
the catalog, in the order of the catalog. -/
structure Lists (world : World) (fits : Word → Prop) (listed : List Word) : Prop where
  ascending : listed.Pairwise fun a b => a.before b
  nodup : (listed.map Word.key).Nodup
  /-- The spellings are those of the words with the property. -/
  mem_keys_iff : ∀ key, key ∈ listed.map Word.key ↔ ∃ u ∈ world.words, fits u ∧ u.key = key
  mem_catalog : ∀ w ∈ listed, w ∈ (Catalog.ofWorld world).words ∧ fits w
  /-- No other word of a spelling comes before the one that is listed. -/
  first : ∀ w ∈ listed, ∀ u ∈ world.words, fits u → u.key = w.key → w.beforeOrSame u

variable {world : World}

/-- **Thinning out ordered words** lists all words with a property, if the ordered words have it and
every other one is level with one of them or comes behind it. -/
theorem Lists.of_ordered {fits : Word → Prop} {words : List Word}
    (horder : words.Pairwise fun a b => (Word.order a b).isLE)
    (hmem : ∀ w ∈ words, w ∈ (Catalog.ofWorld world).words ∧ fits w)
    (hall : ∀ u ∈ world.words, fits u →
      ∃ w ∈ words, w.key = u.key ∧ (Word.order w u).isLE) :
    Lists world fits (Word.distinctKeys words) := by
  have hkeys := Word.pairwise_key_distinctKeys words
  -- the first word of a spelling is no later than the word that the other one is compared with
  have hfirst : ∀ u ∈ world.words, fits u →
      ∃ w ∈ Word.distinctKeys words, w.key = u.key ∧ (Word.order w u).isLE := by
    intro u hu hfits
    obtain ⟨v, hv, hvkey, hvu⟩ := hall u hu hfits
    obtain ⟨w, hw, hwkey, hwv⟩ := Word.exists_isLE_distinctKeys horder hv
    exact ⟨w, hw, hwkey.trans hvkey, Std.TransCmp.isLE_trans hwv hvu⟩
  have hlisted : ∀ w ∈ Word.distinctKeys words, w ∈ (Catalog.ofWorld world).words ∧ fits w :=
    fun w hw => hmem w (mem_of_mem_distinctKeys hw)
  refine ⟨Word.pairwise_before_distinctKeys horder, List.pairwise_map.mpr hkeys, ?_, hlisted, ?_⟩
  · intro key
    rw [List.mem_map]
    constructor
    · rintro ⟨w, hw, rfl⟩
      obtain ⟨hcatalog, hfits⟩ := hlisted w hw
      rw [Catalog.words_ofWorld] at hcatalog
      exact ⟨w, World.mem_words_of_mem_vocabulary hcatalog, hfits, rfl⟩
    · rintro ⟨u, hu, hfits, rfl⟩
      obtain ⟨w, hw, hkey, -⟩ := hfirst u hu hfits
      exact ⟨w, hw, hkey⟩
  · intro w hw u hu hfits hkey
    obtain ⟨v, hv, hvkey, hle⟩ := hfirst u hu hfits
    -- no two listed words have one spelling
    have hsymm : Std.Symm fun a b : Word => a.key ≠ b.key := ⟨fun _ _ => Ne.symm⟩
    have heq : v = w := by
      by_contra hne
      exact hkeys.forall hv hw hne (hvkey.trans hkey)
    subst heq
    exact Word.beforeOrSame_of_isLE hle

/-! ### The three cases -/

section Cases

variable (h : world.Sound) {groups : List Group} {isFresh : Bool} {typed : List Text}
include h

/-- While a verb is awaited, the verbs of the catalog list what fits. -/
theorem lists_verbWords (hawaits : AwaitsVerb groups isFresh) :
    Lists world (FitsNext groups isFresh typed)
      (Word.distinctKeys (Catalog.ofWorld world).verbWords) := by
  have hmem : ∀ {w : Word}, w ∈ (Catalog.ofWorld world).verbWords ↔
      w ∈ world.vocabulary ∧ w.partOfSpeech = .verb := by
    intro w
    rw [Catalog.verbWords, List.mem_filter, Catalog.words_ofWorld, Word.isVerb, beq_iff_eq]
  refine Lists.of_ordered ?_ ?_ ?_
  · rw [Catalog.verbWords, Catalog.words_ofWorld]
    exact (Word.pairwise_sort _).filter _
  · intro w hw
    obtain ⟨hvocabulary, hverb⟩ := hmem.mp hw
    rw [Catalog.words_ofWorld]
    exact ⟨hvocabulary, .verb hawaits hverb⟩
  · intro u hu hfits
    have hverb : u.partOfSpeech = .verb := by
      cases hfits with
      | verb _ hverb => exact hverb
      | unsaid hnot => exact absurd hawaits hnot
      | starter hnot => exact absurd hawaits hnot
    -- the vocabulary has the same word
    obtain ⟨w, hw, hsame⟩ := World.exists_same_vocabulary hu
    obtain ⟨hkey, -, hpart⟩ := Word.same_iff.mp hsame
    exact ⟨w, hmem.mpr ⟨hw, hpart.trans hverb⟩, hkey,
      h.isLE_of_same (World.mem_words_of_mem_vocabulary hw) hu hsame⟩

/-- A word of a noun is level with one of its profile. -/
theorem exists_mem_profile_isLE {noun : Noun} (hnoun : noun ∈ world.nouns) {u : Word}
    (hu : u ∈ noun.words) :
    ∃ w ∈ noun.profile.words, w.key = u.key ∧ (Word.order w u).isLE := by
  obtain ⟨w, hw, hsame⟩ := Noun.exists_same_profile hu
  have hworld : ∀ {v : Word}, v ∈ noun.words → v ∈ world.words := fun hv =>
    World.mem_words.mpr (Or.inr ⟨noun, hnoun, hv⟩)
  exact ⟨w, hw, Word.key_eq_of_same hsame,
    h.isLE_of_same (hworld (Noun.mem_profile_words hw)) (hworld hu) hsame⟩

/-- Where no noun is unfinished, the words of all profiles list what fits. -/
theorem lists_nounStarters (hawaits : ¬AwaitsVerb groups isFresh)
    (hlast : ∀ group, groups.getLast? = some group → group.incomplete = []) :
    Lists world (FitsNext groups isFresh typed)
      (Word.distinctKeys (Catalog.ofWorld world).nounStarters) := by
  have hmem : ∀ {w : Word}, w ∈ (Catalog.ofWorld world).nounStarters ↔
      ∃ noun ∈ world.nouns, w ∈ noun.profile.words := by
    intro w
    rw [Catalog.nounStarters, Word.mem_sort, List.mem_flatMap]
    constructor
    · rintro ⟨profile, hprofile, hw⟩
      rw [Catalog.sortedProfiles, (List.mergeSort_perm _ _).mem_iff, Catalog.mem_profiles h]
        at hprofile
      obtain ⟨noun, hnoun, rfl⟩ := hprofile
      exact ⟨noun, hnoun, hw⟩
    · rintro ⟨noun, hnoun, hw⟩
      refine ⟨noun.profile, ?_, hw⟩
      rw [Catalog.sortedProfiles, (List.mergeSort_perm _ _).mem_iff, Catalog.mem_profiles h]
      exact ⟨noun, hnoun, rfl⟩
  refine Lists.of_ordered (Word.pairwise_sort _) ?_ ?_
  · intro w hw
    obtain ⟨noun, hnoun, hw⟩ := hmem.mp hw
    refine ⟨Catalog.mem_words_of_mem_profile h hnoun hw, .starter hawaits hlast ?_⟩
    rw [Word.isNounWord, Noun.noun?_of_mem_words (Noun.mem_profile_words hw), Option.isSome_some]
  · intro u hu hfits
    -- neither a verb nor a noun that was begun is awaited, so what fits is a word of some noun
    have hsome : u.isNounWord = true := by
      cases hfits with
      | verb hverb => exact absurd hverb hawaits
      | unsaid _ hgroup hcluster =>
        rw [hlast _ hgroup] at hcluster
        exact absurd hcluster List.not_mem_nil
      | starter _ _ hnoun => exact hnoun
    obtain ⟨noun, hnoun⟩ := Option.isSome_iff_exists.mp hsome
    obtain ⟨hworld, hword⟩ := World.noun_of_mem_words hu hnoun
    obtain ⟨w, hw, hkey, hle⟩ := exists_mem_profile_isLE h hworld hword
    exact ⟨w, hmem.mpr ⟨noun, hworld, hw⟩, hkey, hle⟩

/-- While nouns are unfinished, what their clusters leave unsaid lists what fits. -/
theorem lists_unmentionedWords (hawaits : ¬AwaitsVerb groups isFresh) {number : Nat}
    {group : Group} (hgroup : group = .nounPhrase
      ((world.fitting typed).map (Cluster.following number typed)))
    (hlast : groups.getLast? = some group) (hne : group.incomplete ≠ []) :
    Lists world (FitsNext groups isFresh typed)
      (Word.distinctKeys (Word.sort (group.incomplete.flatMap Cluster.unmentionedWords))) := by
  -- an unfinished cluster follows a noun of the world through what was typed
  have hfollowing : ∀ {cluster : Cluster}, cluster ∈ group.incomplete →
      ∃ noun ∈ world.fitting typed, Cluster.following number typed noun = cluster := by
    intro cluster hcluster
    subst hgroup
    exact List.mem_map.mp (List.mem_filter.mp hcluster).1
  refine Lists.of_ordered (Word.pairwise_sort _) ?_ ?_
  · intro w hw
    obtain ⟨cluster, hcluster, hw⟩ := List.mem_flatMap.mp (Word.mem_sort.mp hw)
    obtain ⟨hprofile, hmentioned⟩ := mem_unmentionedWords hw
    obtain ⟨noun, hnoun, rfl⟩ := hfollowing hcluster
    rw [World.mem_fitting] at hnoun
    have hword := Noun.mem_profile_words hprofile
    refine ⟨Catalog.mem_words_of_mem_profile h hnoun.1 hprofile,
      .unsaid hawaits hlast hcluster hword fun htyped => ?_⟩
    -- what was typed is a key of the noun, so the cluster has mentioned it
    rw [Cluster.hasMentioned_following, List.contains_iff_mem.mpr htyped,
      List.contains_iff_mem.mpr (hnoun.2 _ htyped)] at hmentioned
    exact absurd hmentioned (by decide)
  · intro u hu hfits
    cases hfits with
    | verb hverb => exact absurd hverb hawaits
    | starter _ hnone => exact absurd (hnone group hlast) hne
    | unsaid _ hgroup' hcluster hword hnot =>
      obtain rfl : group = _ := Option.some.inj (hlast.symm.trans hgroup')
      obtain ⟨noun, hnoun, rfl⟩ := hfollowing hcluster
      obtain ⟨v, hv, hvkey, hvu⟩ :=
        exists_mem_profile_isLE h (World.mem_fitting.mp hnoun).1 hword
      obtain ⟨w, hw, hwkey, hwv⟩ := exists_mem_unmentionedWords (Word.pairwise_sort _) hv
        (Cluster.hasMentioned_following_eq_false (hvkey ▸ hnot))
      exact ⟨w, Word.mem_sort.mpr (List.mem_flatMap.mpr ⟨_, hcluster, hw⟩), hwkey.trans hvkey,
        Std.TransCmp.isLE_trans hwv hvu⟩

end Cases

/-! ### Candidates -/

section Woven

variable {t : Text} {matched gated : List AmbiguityGroup} {groups : List Group}
  (hread : AmbiguityGroup.read (Catalog.ofWorld world).words t = .ok matched)
  (hgate : AmbiguityGroup.gate matched = .ok gated)
  (hweave : Weaver.weave (Catalog.ofWorld world) gated = .ok groups)
include hread hgate hweave

/-- The three cases together. -/
theorem lists_candidates (h : world.Sound) (isFresh : Bool) :
    Lists world (FitsNext groups isFresh (AmbiguityGroup.typedLast gated))
      (candidates (Catalog.ofWorld world) groups isFresh) := by
  have hasks : asksForVerb groups isFresh = true ↔ AwaitsVerb groups isFresh := by
    obtain ⟨verbs, others, rfl⟩ := Weaver.exists_cons_of_weave_eq_ok hweave
    exact asksForVerb_iff
  rw [candidates]
  split
  · next hverb => exact lists_verbWords h (hasks.mp hverb)
  next hverb =>
  rw [hasks] at hverb
  split
  · next first rest hincomplete =>
    obtain ⟨group, hlast, heq⟩ := Option.map_eq_some_iff.mp hincomplete
    have hne : group.incomplete ≠ [] := by
      rw [heq]
      exact List.cons_ne_nil first rest
    -- only a phrase can be unfinished
    obtain ⟨number, hgroup⟩ :=
      (Weaver.exists_last_phrase h hread hgate hweave hlast).resolve_left hne
    rw [← heq]
    exact lists_unmentionedWords h hverb hgroup hlast hne
  · next hnone =>
    apply lists_nounStarters h hverb
    intro group hlast
    by_contra hne
    obtain ⟨first, rest, hcons⟩ := List.exists_cons_of_ne_nil hne
    exact hnone first rest (by rw [hlast, Option.map_some, hcons])

/-- The names of an unfinished noun fit next, for none of them was typed. -/
theorem fitsNext_of_mem_nameKeys (h : world.Sound) {isFresh : Bool}
    (hawaits : ¬AwaitsVerb groups isFresh) {group : Group} (hlast : groups.getLast? = some group)
    {cluster : Cluster} (hcluster : cluster ∈ group.incomplete) {name : Text}
    (hname : name ∈ cluster.profile.noun.nameKeys) :
    ∃ u ∈ world.words,
      FitsNext groups isFresh (AmbiguityGroup.typedLast gated) u ∧ u.key = name := by
  obtain ⟨number, hgroup⟩ := (Weaver.exists_last_phrase h hread hgate hweave hlast).resolve_left
    (List.ne_nil_of_mem hcluster)
  obtain ⟨hmem, hincomplete⟩ := List.mem_filter.mp (hgroup ▸ hcluster)
  obtain ⟨noun, hnoun, rfl⟩ := List.mem_map.mp hmem
  -- a name that was typed would have completed the cluster
  have hnot : name ∉ AmbiguityGroup.typedLast gated :=
    Cluster.not_mem_of_isComplete_eq_false (by simpa using hincomplete) hname
  obtain ⟨u, hu, hkey⟩ := Noun.mem_keys.mp (Noun.mem_keys_of_mem_nameKeys hname)
  have hworld : u ∈ world.words :=
    World.mem_words.mpr (Or.inr ⟨noun, (World.mem_fitting.mp hnoun).1, hu⟩)
  exact ⟨u, hworld, .unsaid hawaits hlast hcluster hu (hkey ▸ hnot), hkey⟩

/-- **Candidates are just the words that fit next**, whatever text was matched, gated and woven.
They list these words in the order of the catalog, each spelling once and by the first word that has
it. If nouns are unfinished, every name of theirs is among the candidates. -/
theorem candidates_lists (hbuilt : world.Built) (isFresh : Bool) :
    Lists world (FitsNext groups isFresh (AmbiguityGroup.typedLast gated))
        (candidates (Catalog.ofWorld world) groups isFresh) ∧
      (¬AwaitsVerb groups isFresh → ∀ group, groups.getLast? = some group →
        ∀ cluster ∈ group.incomplete, ∀ name ∈ cluster.profile.noun.nameKeys,
          name ∈ (candidates (Catalog.ofWorld world) groups isFresh).map Word.key) := by
  have h := hbuilt.sound
  have hlists := lists_candidates hread hgate hweave h isFresh
  refine ⟨hlists, ?_⟩
  intro hawaits group hlast cluster hcluster name hname
  rw [hlists.mem_keys_iff]
  exact fitsNext_of_mem_nameKeys hread hgate hweave h hawaits hlast hcluster hname

end Woven

/-- Behind something red, what is left of the red oil lamp fits next: its name and its other
adjective. -/
theorem candidates_take_red :
    ∃ groups, Weaver.weave (Catalog.ofWorld World.oilLamp)
        (AmbiguityGroup.ofKey World.oilLamp.vocabulary "take".toList ::
          ["red".toList].map World.oilLamp.objectWords) = .ok groups ∧
      Lists World.oilLamp (FitsNext groups true ["red".toList])
        (candidates (Catalog.ofWorld World.oilLamp) groups true) ∧
      (candidates (Catalog.ofWorld World.oilLamp) groups true).map Word.key =
        ["lamp".toList, "oil".toList] := by
  have hread : AmbiguityGroup.read (Catalog.ofWorld World.oilLamp).words "take red".toList =
      .ok (["take".toList, "red".toList].map
        (AmbiguityGroup.ofKey World.oilLamp.vocabulary)) := by
    rw [Catalog.words_ofWorld, World.vocabulary, Word.sort_eq_insertionSort]
    decide +kernel
  -- what the words behind the verb are, and that they make up one phrase, which fits
  obtain ⟨hgate, hclash, hparts, hkeys, htyped⟩ :
      AmbiguityGroup.gate (["take".toList, "red".toList].map
          (AmbiguityGroup.ofKey World.oilLamp.vocabulary)) =
        .ok (AmbiguityGroup.ofKey World.oilLamp.vocabulary "take".toList ::
          ["red".toList].map World.oilLamp.objectWords) ∧
      AmbiguityGroup.clash? (["red".toList].map World.oilLamp.objectWords) = none ∧
      AmbiguityGroup.parts (["red".toList].map World.oilLamp.objectWords) =
        [.phrase 0 (["red".toList].map World.oilLamp.objectWords)] ∧
      (["red".toList].map World.oilLamp.objectWords).map AmbiguityGroup.key = ["red".toList] ∧
      AmbiguityGroup.typedLast (AmbiguityGroup.ofKey World.oilLamp.vocabulary "take".toList ::
        ["red".toList].map World.oilLamp.objectWords) = ["red".toList] := by
    simp only [List.map, World.objectWords, World.vocabulary, Word.sort_eq_insertionSort]
    decide +kernel
  have hfitting : World.oilLamp.fitting ["red".toList] =
      [⟨2, "lamp".toList, [], ["red".toList, "oil".toList]⟩] := by decide +kernel
  have hweave : Weaver.weave (Catalog.ofWorld World.oilLamp)
      (AmbiguityGroup.ofKey World.oilLamp.vocabulary "take".toList ::
        ["red".toList].map World.oilLamp.objectWords) =
      .ok [.verb (AmbiguityGroup.ofKey World.oilLamp.vocabulary "take".toList),
        .nounPhrase [Cluster.following 0 ["red".toList]
          ⟨2, "lamp".toList, [], ["red".toList, "oil".toList]⟩]] := by
    rw [Weaver.weave_eq_meaning World.oilLamp_built.sound _
      (Weaver.isPlace_of_gate World.oilLamp_built.sound hread hgate).2, World.meaning, hclash,
      hparts]
    simp only [Part.isUnfit, Part.groups, hkeys, hfitting, List.findIdx?_cons,
      List.flatMap_singleton]
    rfl
  have hlists := (candidates_lists hread hgate hweave World.oilLamp_built true).1
  rw [htyped] at hlists
  refine ⟨_, hweave, hlists, ?_⟩
  rw [candidates_of_incomplete_eq_singleton (by rfl)]
  simp only [Cluster.unmentionedWords, Cluster.unmentioned, Cluster.following, Cluster.mentionedBy,
    Noun.profile, Word.sort_eq_insertionSort]
  decide +kernel

end Suggestion

end CommandPrompt
