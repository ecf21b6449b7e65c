import CommandPrompt.Proofs.World.Built
import CommandPrompt.Proofs.World.Order
import CommandPrompt.World.Catalog

/-!
# The catalog of a world

A catalog is made from words alone: a profile is whatever words agree on the number of a noun. In
the catalog of a built world this recovers the nouns of the world. Its words are the vocabulary
(`words_ofWorld`), and the profile found for a word is that of the noun which the word names or
describes (`profileFor?_eq`): the noun with the distinct words of its own in order, nothing added by
another noun and nothing lost (`Noun.profile`).

In general, the catalog of any words has one profile for every number that its words carry. What a
profile holds, but for how its words are written, is told by what makes the words of the catalog the
words they are (`Catalog.map_outline_profiles`).

What a profile is asked while a command is read are two questions about keys. A key is among its
words if it is a spelling of the noun in lower case (`any_key_profile`), and it names the noun if it
is one of the noun's names in lower case (`isNamedBy_profile`).
-/

namespace CommandPrompt

/-! ### The profile of a noun -/

namespace Noun

/-- What the noun is called by, without regard to letter case. -/
def keys (noun : Noun) : List Text := noun.spellings.map Text.lower

/-- The names of the noun, without regard to letter case. -/
def nameKeys (noun : Noun) : List Text := noun.names.map Text.lower

/-- The noun with the distinct words of its own, in order. -/
def profile (noun : Noun) : Profile := ⟨noun, Word.sort (Word.distinct noun.words)⟩

@[simp] theorem profile_noun (noun : Noun) : noun.profile.noun = noun := rfl

@[simp] theorem profile_key (noun : Noun) : noun.profile.key = noun.ref := rfl

theorem mem_words {noun : Noun} {w : Word} :
    w ∈ noun.words ↔ (∃ t ∈ noun.names, ⟨t, .noun noun, none⟩ = w) ∨
      ∃ t ∈ noun.adjectives, ⟨t, .adjective noun, none⟩ = w := by
  simp only [words, List.mem_append, List.mem_map]

theorem words_ne_nil (noun : Noun) : noun.words ≠ [] := by simp [words, names]

theorem noun?_of_mem_words {noun : Noun} {w : Word} (h : w ∈ noun.words) :
    w.noun? = some noun := by
  rcases mem_words.mp h with ⟨t, -, rfl⟩ | ⟨t, -, rfl⟩ <;> rfl

theorem mem_profile_words {noun : Noun} {w : Word} (h : w ∈ noun.profile.words) :
    w ∈ noun.words := Word.mem_of_mem_sort_distinct h

theorem exists_same_profile {noun : Noun} {w : Word} (h : w ∈ noun.words) :
    ∃ u ∈ noun.profile.words, Word.same u w := Word.exists_same_sort_distinct h

theorem profile_words_ne_nil (noun : Noun) : noun.profile.words ≠ [] := by
  obtain ⟨w, hw⟩ := List.exists_mem_of_ne_nil _ noun.words_ne_nil
  obtain ⟨u, hu, -⟩ := exists_same_profile hw
  exact List.ne_nil_of_mem hu

theorem mem_keys {noun : Noun} {key : Text} : key ∈ noun.keys ↔ ∃ w ∈ noun.words, w.key = key := by
  rw [keys, ← map_spelling_words, List.map_map, List.mem_map]
  rfl

/-- A key is among the words of the profile if the noun is called by it. -/
theorem any_key_profile (noun : Noun) (key : Text) :
    noun.profile.words.any (·.key == key) = true ↔ key ∈ noun.keys := by
  rw [mem_keys, List.any_eq_true]
  constructor
  · rintro ⟨w, hw, hkey⟩
    exact ⟨w, mem_profile_words hw, beq_iff_eq.mp hkey⟩
  · rintro ⟨w, hw, hkey⟩
    obtain ⟨u, hu, hsame⟩ := exists_same_profile hw
    exact ⟨u, hu, beq_iff_eq.mpr ((Word.key_eq_of_same hsame).trans hkey)⟩

theorem mem_nameKeys {noun : Noun} {key : Text} :
    key ∈ noun.nameKeys ↔ ∃ w ∈ noun.words, w.partOfSpeech = .noun ∧ w.key = key := by
  rw [nameKeys, List.mem_map]
  constructor
  · rintro ⟨t, ht, rfl⟩
    exact ⟨_, mem_words.mpr (Or.inl ⟨t, ht, rfl⟩), rfl, rfl⟩
  · rintro ⟨w, hw, hpos, rfl⟩
    rcases mem_words.mp hw with ⟨t, ht, rfl⟩ | ⟨t, -, rfl⟩
    · exact ⟨t, ht, rfl⟩
    · exact absurd hpos (by simp [Word.partOfSpeech, Sense.partOfSpeech])

/-- The names in the profile are those of the noun. -/
theorem mem_names_profile (noun : Noun) (key : Text) :
    key ∈ noun.profile.names ↔ key ∈ noun.nameKeys := by
  rw [mem_nameKeys, Profile.names, List.mem_eraseDups, List.mem_map]
  constructor
  · rintro ⟨u, hu, hkey⟩
    rw [List.mem_filter, beq_iff_eq] at hu
    exact ⟨u, mem_profile_words hu.1, hu.2, hkey⟩
  · rintro ⟨u, hu, hpos, hkey⟩
    obtain ⟨v, hv, hsame⟩ := exists_same_profile hu
    obtain ⟨hvkey, -, hvpos⟩ := Word.same_iff.mp hsame
    refine ⟨v, ?_, hvkey.trans hkey⟩
    rw [List.mem_filter, beq_iff_eq]
    exact ⟨hv, hvpos.trans hpos⟩

/-- A word names the noun of the profile if its key is that of a name. -/
theorem isNamedBy_profile (noun : Noun) (w : Word) :
    noun.profile.isNamedBy w = true ↔ w.key ∈ noun.nameKeys := by
  rw [Profile.isNamedBy, List.contains_iff_mem, mem_names_profile]

theorem mem_keys_of_mem_nameKeys {noun : Noun} {key : Text} (h : key ∈ noun.nameKeys) :
    key ∈ noun.keys := by
  obtain ⟨w, hw, -, hkey⟩ := mem_nameKeys.mp h
  exact mem_keys.mpr ⟨w, hw, hkey⟩

end Noun

theorem Verb.of_mem_words {verb : Verb} {w : Word} (h : w ∈ verb.words) :
    w.sense = .verb verb ∨ w.sense = .preposition verb := by
  simp only [Verb.words, List.mem_append, List.mem_map] at h
  rcases h with (⟨t, -, rfl⟩ | ⟨t, -, rfl⟩) | ⟨t, -, rfl⟩
  · exact Or.inl rfl
  · exact Or.inl rfl
  · exact Or.inr rfl

theorem Verb.noun?_of_mem_words {verb : Verb} {w : Word} (h : w ∈ verb.words) : w.noun? = none := by
  rw [Word.noun?]
  rcases Verb.of_mem_words h with hs | hs <;> rw [hs] <;> rfl

/-! ### Numbers in order -/

section Increasing

variable {α : Type} {ref : α → Int} {entities : List α}

/-- Where entities stand in the order of their numbers, a number belongs to one of them only. -/
theorem eq_of_increasing (h : entities.Pairwise fun a b => ref a < ref b) {a b : α}
    (ha : a ∈ entities) (hb : b ∈ entities) (href : ref a = ref b) : a = b := by
  by_contra hne
  have hsymm : Std.Symm fun a b : α => ref a ≠ ref b := ⟨fun _ _ => Ne.symm⟩
  exact (h.imp Int.ne_of_lt).forall ha hb hne href

/-- The entities before and behind one of them have other numbers. -/
theorem exists_append_of_increasing (h : entities.Pairwise fun a b => ref a < ref b) {a : α}
    (ha : a ∈ entities) : ∃ before behind, entities = before ++ a :: behind ∧
      (∀ b ∈ before, ref b ≠ ref a) ∧ ∀ b ∈ behind, ref b ≠ ref a := by
  obtain ⟨before, behind, rfl⟩ := List.append_of_mem ha
  obtain ⟨-, hbehind, hbefore⟩ := List.pairwise_append.mp h
  refine ⟨before, behind, rfl, fun b hb => ?_, fun b hb => ?_⟩
  · exact Int.ne_of_lt (hbefore b hb a List.mem_cons_self)
  · exact (Int.ne_of_lt ((List.pairwise_cons.mp hbehind).1 b hb)).symm

end Increasing

/-! ### The words of a world -/

namespace World

theorem mem_words {world : World} {w : Word} :
    w ∈ world.words ↔ (∃ v ∈ world.verbs, w ∈ v.words) ∨ ∃ n ∈ world.nouns, w ∈ n.words := by
  simp only [words, List.mem_append, List.mem_flatMap]

theorem mem_words_of_mem_vocabulary {world : World} {w : Word} (h : w ∈ world.vocabulary) :
    w ∈ world.words := Word.mem_of_mem_sort_distinct h

theorem exists_same_vocabulary {world : World} {w : Word} (h : w ∈ world.words) :
    ∃ u ∈ world.vocabulary, Word.same u w := Word.exists_same_sort_distinct h

/-- A word of the world that is about a noun is a word of one of the world's nouns. -/
theorem noun_of_mem_words {world : World} {w : Word} (h : w ∈ world.words) {noun : Noun}
    (hnoun : w.noun? = some noun) : noun ∈ world.nouns ∧ w ∈ noun.words := by
  rcases mem_words.mp h with ⟨v, -, hw⟩ | ⟨n, hn, hw⟩
  · rw [Verb.noun?_of_mem_words hw] at hnoun
    exact absurd hnoun (by simp)
  · rw [Noun.noun?_of_mem_words hw] at hnoun
    obtain rfl := Option.some.inj hnoun
    exact ⟨hn, hw⟩

theorem Sound.isSpelling {world : World} (h : world.Sound) {w : Word} (hw : w ∈ world.words) :
    w.spelling.IsSpelling := by
  rcases mem_words.mp hw with ⟨v, hv, hw⟩ | ⟨n, hn, hw⟩
  · refine (h.verb_spelling v hv _ ?_).1
    rw [← Verb.map_spelling_words]
    exact List.mem_map_of_mem hw
  · refine h.noun_spelling n hn _ ?_
    rw [← Noun.map_spelling_words]
    exact List.mem_map_of_mem hw

/-- Same words of a world are level, because letter case does not change how long they are. -/
theorem Sound.order_eq_of_same {world : World} (h : world.Sound) {a b : Word} (ha : a ∈ world.words)
    (hb : b ∈ world.words) (hsame : Word.same a b) : Word.order a b = .eq := by
  have hlength : ∀ w ∈ world.words, w.key.length = w.spelling.length :=
    fun w hw => Text.length_lower (h.isSpelling hw).allTypable
  exact Word.order_eq_of_same (hlength a ha) (hlength b hb) hsame

/-- A word of the world does not come before one that is the same. -/
theorem Sound.isLE_of_same {world : World} (h : world.Sound) {a b : Word} (ha : a ∈ world.words)
    (hb : b ∈ world.words) (hsame : Word.same a b) : (Word.order a b).isLE := by
  rw [h.order_eq_of_same ha hb hsame]
  rfl

/-- A number belongs to one noun only. -/
theorem Sound.noun_eq_of_ref_eq {world : World} (h : world.Sound) {n n' : Noun}
    (hn : n ∈ world.nouns) (hn' : n' ∈ world.nouns) (href : n.ref = n'.ref) : n = n' :=
  eq_of_increasing h.nouns_lt hn hn' href

/-- A number belongs to one verb only. -/
theorem Sound.verb_eq_of_ref_eq {world : World} (h : world.Sound) {v v' : Verb}
    (hv : v ∈ world.verbs) (hv' : v' ∈ world.verbs) (href : v.ref = v'.ref) : v = v' :=
  eq_of_increasing h.verbs_lt hv hv' href

/-- The words that carry the number of a noun are those of that noun. -/
theorem Sound.filter_words {world : World} (h : world.Sound) {noun : Noun}
    (hnoun : noun ∈ world.nouns) :
    world.words.filter (·.profileKey == some noun.ref) = noun.words := by
  have hkey : ∀ n : Noun, ∀ w ∈ n.words, w.profileKey = some n.ref := by
    intro n w hw
    rw [Word.profileKey, Noun.noun?_of_mem_words hw]
    rfl
  have hverbs : (world.verbs.flatMap Verb.words).filter (·.profileKey == some noun.ref) = [] := by
    rw [List.filter_eq_nil_iff]
    intro w hw
    obtain ⟨v, -, hw⟩ := List.mem_flatMap.mp hw
    simp [Word.profileKey, Verb.noun?_of_mem_words hw]
  have hothers : ∀ ns : List Noun, (∀ n ∈ ns, n.ref ≠ noun.ref) →
      (ns.flatMap Noun.words).filter (·.profileKey == some noun.ref) = [] := by
    intro ns hns
    rw [List.filter_eq_nil_iff]
    intro w hw
    obtain ⟨n, hn, hw⟩ := List.mem_flatMap.mp hw
    rw [hkey n w hw]
    simpa using hns n hn
  -- numbers increase, so all nouns before and behind this one have others
  obtain ⟨before, behind, hsplit, hbefore, hbehind⟩ := exists_append_of_increasing h.nouns_lt hnoun
  have hown : noun.words.filter (·.profileKey == some noun.ref) = noun.words :=
    List.filter_eq_self.mpr fun w hw => by rw [hkey noun w hw, beq_self_eq_true]
  rw [words, hsplit, List.filter_append, hverbs, List.nil_append, List.flatMap_append,
    List.filter_append, hothers before hbefore, List.nil_append, List.flatMap_cons,
    List.filter_append, hown, hothers behind hbehind, List.append_nil]

end World

/-! ### The catalog -/

/-- The number of the profile that words of an identity belong to. -/
def Word.Identity.profileKey (identity : Word.Identity) : Option Int :=
  match identity.partOfSpeech with
  | .verb | .preposition => none
  | .noun | .adjective => some identity.ref

/-- What a profile holds, without regard to how its words are written. -/
def Profile.outline (profile : Profile) : Int × List Word.Identity :=
  (profile.key, profile.words.map Word.identity)

namespace Catalog

/-- Which profile a word belongs to is told by what makes it the word it is. -/
theorem profileKey_eq (w : Word) : w.profileKey = w.identity.profileKey := by
  obtain ⟨spelling, sense, shownAs⟩ := w
  cases sense <;> rfl

/-- **The words of the catalog are the vocabulary**: nothing is left to sort or to leave out. -/
theorem words_ofWorld (world : World) : (ofWorld world).words = world.vocabulary := by
  have hdiff : Word.Different world.vocabulary :=
    (Word.different_distinct _).perm (Word.sort_perm _).symm
  rw [ofWorld, ofWords, Word.distinct_of_different hdiff]
  exact Word.sort_of_pairwise (Word.pairwise_sort _)

theorem profileKey_eq_of_same {a b : Word} (h : Word.same a b) : a.profileKey = b.profileKey := by
  rw [profileKey_eq, profileKey_eq, Word.same_iff_identity_eq.mp h]

/-! ### Catalogs of words -/

/-- Where words are in order, the profile of a number has the words of that number as they stand,
and a noun of that number. -/
theorem exists_profileOf?_eq {ordered : List Word}
    (hordered : ordered.Pairwise fun a b => (Word.order a b).isLE) {key : Int}
    (hkey : key ∈ ordered.filterMap Word.profileKey) :
    ∃ noun : Noun, noun.ref = key ∧
      profileOf? ordered key = some ⟨noun, ordered.filter (·.profileKey == some key)⟩ := by
  obtain ⟨w, hw, hwkey⟩ := List.mem_filterMap.mp hkey
  -- some word has the number, so there is a last one, and it knows its noun
  have hown : w ∈ ordered.filter (·.profileKey == some key) :=
    List.mem_filter.mpr ⟨hw, beq_iff_eq.mpr hwkey⟩
  have hne := List.ne_nil_of_mem hown
  have hlast := beq_iff_eq.mp (List.mem_filter.mp (List.getLast_mem hne)).2
  obtain ⟨noun, hnoun, href⟩ := Option.map_eq_some_iff.mp hlast
  refine ⟨noun, href, ?_⟩
  have hsort : Word.sort (ordered.filter (·.profileKey == some key)) =
      ordered.filter (·.profileKey == some key) := Word.sort_of_pairwise (hordered.filter _)
  rw [profileOf?, List.getLast?_eq_some_getLast hne, Option.bind_some, hnoun, Option.map_some,
    Profile.ofWords, hsort]

/-- What makes the words of the catalog the words they are. -/
def identities (catalog : Catalog) : List Word.Identity := catalog.words.map Word.identity

/-- **Profiles in outline**: one for every number that a word of the catalog carries, with the words
that carry it. -/
theorem map_outline_profiles (words : List Word) :
    (ofWords words).profiles.map Profile.outline =
      (((ofWords words).identities.filterMap Word.Identity.profileKey).eraseDups).map fun key =>
        (key, (ofWords words).identities.filter (·.profileKey == some key)) := by
  have hordered : (ofWords words).words.Pairwise fun a b => (Word.order a b).isLE :=
    Word.pairwise_sort _
  -- which profile a word belongs to can be told from what makes the word
  have hkeys : (ofWords words).identities.filterMap Word.Identity.profileKey =
      (ofWords words).words.filterMap Word.profileKey := by
    rw [identities, List.filterMap_map]
    exact List.filterMap_congr fun w _ => (profileKey_eq w).symm
  have hown : ∀ key, (ofWords words).identities.filter (·.profileKey == some key) =
      ((ofWords words).words.filter (·.profileKey == some key)).map Word.identity := by
    intro key
    rw [identities, List.filter_map]
    refine congrArg (List.map Word.identity) (List.filter_congr fun w _ => ?_)
    rw [Function.comp_apply, profileKey_eq]
  rw [hkeys]
  show (((ofWords words).words.filterMap Word.profileKey).eraseDups.filterMap
    (profileOf? (ofWords words).words)).map Profile.outline = _
  rw [List.map_filterMap, ← List.filterMap_eq_map]
  refine List.filterMap_congr fun key hkey => ?_
  obtain ⟨noun, rfl, hprofile⟩ := exists_profileOf?_eq hordered (List.mem_eraseDups.mp hkey)
  rw [hprofile, Function.comp_apply, hown]
  rfl

/-- The numbers of the profiles are those that words carry. -/
theorem map_key_profiles (words : List Word) :
    (ofWords words).profiles.map Profile.key =
      ((ofWords words).identities.filterMap Word.Identity.profileKey).eraseDups := by
  calc (ofWords words).profiles.map Profile.key
      = ((ofWords words).profiles.map Profile.outline).map Prod.fst := by
        rw [List.map_map]
        rfl
    _ = ((ofWords words).identities.filterMap Word.Identity.profileKey).eraseDups := by
        rw [map_outline_profiles, List.map_map]
        exact List.map_id _

/-- No two profiles of a catalog have one number. -/
theorem nodup_key_profiles (words : List Word) :
    ((ofWords words).profiles.map Profile.key).Nodup := by
  rw [map_key_profiles]
  exact nodup_eraseDups _

section OfWorld

variable {world : World}

theorem filter_vocabulary (h : world.Sound) {noun : Noun} (hnoun : noun ∈ world.nouns) :
    world.vocabulary.filter (·.profileKey == some noun.ref) = noun.profile.words := by
  have hp : ∀ a b, Word.same a b →
      (a.profileKey == some noun.ref) = (b.profileKey == some noun.ref) :=
    fun a b hab => by rw [profileKey_eq_of_same hab]
  rw [World.vocabulary, Word.filter_sort_distinct hp, h.filter_words hnoun]
  rfl

/-- The words of a profile are words of the catalog. -/
theorem mem_words_of_mem_profile (h : world.Sound) {noun : Noun} (hnoun : noun ∈ world.nouns)
    {w : Word} (hw : w ∈ noun.profile.words) : w ∈ (ofWorld world).words := by
  rw [← filter_vocabulary h hnoun] at hw
  rw [words_ofWorld]
  exact (List.mem_filter.mp hw).1

theorem profileOf?_eq (h : world.Sound) {noun : Noun} (hnoun : noun ∈ world.nouns) :
    profileOf? world.vocabulary noun.ref = some noun.profile := by
  -- a noun has a name, so it has a word that tells which noun it is
  have hne := noun.profile_words_ne_nil
  have hlast := Noun.mem_profile_words (List.getLast_mem hne)
  have hsorted : Word.sort noun.profile.words = noun.profile.words :=
    Word.sort_of_pairwise (Word.pairwise_sort _)
  rw [profileOf?, filter_vocabulary h hnoun, List.getLast?_eq_some_getLast hne, Option.bind_some,
    Noun.noun?_of_mem_words hlast, Option.map_some, Profile.ofWords, hsorted]
  rfl

/-- **The profiles of the catalog are those of the nouns.** -/
theorem mem_profiles (h : world.Sound) {profile : Profile} :
    profile ∈ (ofWorld world).profiles ↔ ∃ noun ∈ world.nouns, noun.profile = profile := by
  have hprofiles : (ofWorld world).profiles =
      ((world.vocabulary.filterMap Word.profileKey).eraseDups).filterMap
        (profileOf? world.vocabulary) := by
    rw [← words_ofWorld]
    rfl
  rw [hprofiles, List.mem_filterMap]
  constructor
  · rintro ⟨key, hkey, hprofile⟩
    rw [List.mem_eraseDups, List.mem_filterMap] at hkey
    obtain ⟨w, hw, hwkey⟩ := hkey
    obtain ⟨noun, hwnoun, rfl⟩ := Option.map_eq_some_iff.mp hwkey
    have hnoun := (World.noun_of_mem_words (World.mem_words_of_mem_vocabulary hw) hwnoun).1
    rw [profileOf?_eq h hnoun] at hprofile
    exact ⟨noun, hnoun, Option.some.inj hprofile⟩
  · rintro ⟨noun, hnoun, rfl⟩
    refine ⟨noun.ref, ?_, profileOf?_eq h hnoun⟩
    rw [List.mem_eraseDups, List.mem_filterMap]
    obtain ⟨w, hw⟩ := List.exists_mem_of_ne_nil _ noun.words_ne_nil
    -- the vocabulary may list another word that is the same, but that one has the same number
    obtain ⟨u, hu, hsame⟩ :=
      World.exists_same_vocabulary (World.mem_words.mpr (Or.inr ⟨noun, hnoun, hw⟩))
    refine ⟨u, hu, ?_⟩
    rw [profileKey_eq_of_same hsame, Word.profileKey, Noun.noun?_of_mem_words hw]
    rfl

theorem profile?_ref (h : world.Sound) {noun : Noun} (hnoun : noun ∈ world.nouns) :
    (ofWorld world).profile? noun.ref = some noun.profile := by
  have hmem := (mem_profiles h).mpr ⟨noun, hnoun, rfl⟩
  cases hfind : (ofWorld world).profile? noun.ref with
  | none =>
    rw [profile?, List.find?_eq_none] at hfind
    exact absurd (beq_self_eq_true _) (hfind _ hmem)
  | some profile =>
    -- whatever profile was found first, it has the number of the noun
    obtain ⟨noun', hnoun', rfl⟩ := (mem_profiles h).mp (List.mem_of_find?_eq_some hfind)
    have href := List.find?_some hfind
    rw [Noun.profile_key, beq_iff_eq] at href
    rw [h.noun_eq_of_ref_eq hnoun' hnoun href]

/-- **The profile found for a word** is that of the noun which the word names or describes. -/
theorem profileFor?_eq (h : world.Sound) {w : Word} (hw : w ∈ world.words) :
    (ofWorld world).profileFor? w = w.noun?.map Noun.profile := by
  rw [profileFor?, Word.profileKey]
  cases hnoun : w.noun? with
  | none => rfl
  | some noun => exact profile?_ref h (World.noun_of_mem_words hw hnoun).1

/-- A world with a noun has a word to begin a noun phrase with. -/
theorem nounStarters_ne_nil (h : world.Sound) (hnouns : world.nouns ≠ []) :
    (ofWorld world).nounStarters ≠ [] := by
  obtain ⟨noun, hnoun⟩ := List.exists_mem_of_ne_nil _ hnouns
  obtain ⟨w, hw⟩ := List.exists_mem_of_ne_nil _ noun.profile_words_ne_nil
  have hprofile : noun.profile ∈ (ofWorld world).sortedProfiles :=
    (List.mergeSort_perm _ _).mem_iff.mpr ((mem_profiles h).mpr ⟨noun, hnoun, rfl⟩)
  have hmem : w ∈ (ofWorld world).nounStarters :=
    Word.mem_sort.mpr (List.mem_flatMap.mpr ⟨noun.profile, hprofile, hw⟩)
  exact List.ne_nil_of_mem hmem

end OfWorld

end Catalog

end CommandPrompt
