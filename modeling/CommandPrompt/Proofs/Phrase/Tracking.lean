import CommandPrompt.Phrase.Weaver
import CommandPrompt.Proofs.Phrase.Ledger
import CommandPrompt.Proofs.Phrase.Matching
import Mathlib.Data.List.Induction
import Mathlib.Data.List.Sort

/-!
# Tracking nouns through a phrase

The weaver takes the words of a noun phrase one by one, place by place. Which nouns it tracks
depends only on the keys of the places: every key brings in the nouns that have it
(`World.broughtBy`). The state of an open phrase is then determined by its keys. The tracked nouns
are those that the keys brought in, and their clusters follow these keys (`Weaver.Follows`).

A place takes this state from some keys to the keys with its own behind them
(`Weaver.takeNouns_follows`), and it breaks the phrase if its key is a name of any noun of the
world. All nouns with the key are tracked once the place is done, so it makes no difference that the
weaver asks only tracked nouns. Within the place the words come one by one, and some clusters have
the key already while others do not. What every word keeps (`Weaver.Within.learn_track`) is that one
more word of the place leads all clusters to the same keys.

At the end only nouns that have all keys are of interest. They were all brought in by the first key,
so among them the order of the world is kept (`World.filter_broughtBy`).
-/

namespace CommandPrompt

/-! ### The words behind the verb -/

theorem Word.isVerb_eq_false_iff {w : Word} :
    w.isVerb = false ↔ w.isNounWord = true ∨ w.partOfSpeech = .preposition := by
  rw [Word.isVerb, Word.isNounWord, Word.noun?, Word.partOfSpeech]
  cases w.sense <;> simp [Sense.partOfSpeech, Sense.noun?]

/-- A word that is no verb is a preposition if it is about no noun. -/
theorem Word.not_isNounWord_eq {w : Word} (h : w.isVerb = false) :
    (!w.isNounWord) = (w.partOfSpeech == .preposition) := by
  rw [Word.isVerb, Word.partOfSpeech] at h
  rw [Word.isNounWord, Word.noun?, Word.partOfSpeech]
  cases hs : w.sense <;> simp_all [Sense.partOfSpeech, Sense.noun?]

theorem Word.ref_eq_of_noun? {w : Word} {noun : Noun} (h : w.noun? = some noun) :
    w.ref = noun.ref := by
  rw [Word.noun?] at h
  rw [Word.ref]
  cases hs : w.sense <;> simp_all [Sense.noun?, Sense.ref]

namespace World

variable {world : World}

/-- What a place behind the verb can stand for, if it has the given key. -/
def objectWords (world : World) (key : Text) : AmbiguityGroup :=
  (AmbiguityGroup.ofKey world.vocabulary key).filter fun w => !w.isVerb

theorem mem_objectWords {key : Text} {w : Word} :
    w ∈ world.objectWords key ↔ w ∈ world.vocabulary ∧ w.key = key ∧ w.isVerb = false := by
  rw [objectWords, List.mem_filter, AmbiguityGroup.mem_ofKey, Bool.not_eq_true', and_assoc]

/-- Every word that a noun is called by is in the vocabulary, or the same word is. -/
theorem Sound.exists_mem_vocabulary (h : world.Sound) {noun : Noun} (hnoun : noun ∈ world.nouns)
    {w : Word} (hw : w ∈ noun.words) :
    ∃ u ∈ world.vocabulary, u.key = w.key ∧ u.noun? = some noun ∧
      u.partOfSpeech = w.partOfSpeech := by
  obtain ⟨u, hu, hsame⟩ :=
    exists_same_vocabulary (mem_words.mpr (Or.inr ⟨noun, hnoun, hw⟩))
  have hprofile : u.profileKey = some noun.ref := by
    rw [Catalog.profileKey_eq_of_same hsame, Word.profileKey, Noun.noun?_of_mem_words hw]
    rfl
  obtain ⟨noun', hunoun, href⟩ := Option.map_eq_some_iff.mp hprofile
  have hnoun' := (noun_of_mem_words (mem_words_of_mem_vocabulary hu) hunoun).1
  obtain ⟨hkey, -, hpart⟩ := Word.same_iff.mp hsame
  exact ⟨u, hu, hkey, h.noun_eq_of_ref_eq hnoun' hnoun href ▸ hunoun, hpart⟩

/-- The nouns that have a key are those that some word of the place is about. -/
theorem Sound.exists_mem_objectWords_iff (h : world.Sound) {key : Text} {noun : Noun} :
    (∃ w ∈ world.objectWords key, w.noun? = some noun) ↔
      noun ∈ world.nouns ∧ key ∈ noun.keys := by
  constructor
  · rintro ⟨w, hw, hwnoun⟩
    obtain ⟨hw, hkey, -⟩ := mem_objectWords.mp hw
    obtain ⟨hnoun, hmem⟩ := noun_of_mem_words (mem_words_of_mem_vocabulary hw) hwnoun
    exact ⟨hnoun, Noun.mem_keys.mpr ⟨w, hmem, hkey⟩⟩
  · rintro ⟨hnoun, hkey⟩
    obtain ⟨w, hw, rfl⟩ := Noun.mem_keys.mp hkey
    obtain ⟨u, hu, hukey, hunoun, -⟩ := h.exists_mem_vocabulary hnoun hw
    refine ⟨u, mem_objectWords.mpr ⟨hu, hukey, Word.isVerb_eq_false_iff.mpr (Or.inl ?_)⟩, hunoun⟩
    rw [Word.isNounWord, hunoun]
    rfl

/-- A place holds a name if its key is a name of some noun. -/
theorem Sound.any_name_objectWords_iff (h : world.Sound) {key : Text} :
    (world.objectWords key).any (·.partOfSpeech == .noun) = true ↔
      ∃ noun ∈ world.nouns, key ∈ noun.nameKeys := by
  rw [List.any_eq_true]
  constructor
  · rintro ⟨w, hw, hpos⟩
    rw [beq_iff_eq] at hpos
    obtain ⟨hw, hkey, -⟩ := mem_objectWords.mp hw
    obtain ⟨noun, hwnoun⟩ : ∃ noun, w.noun? = some noun := by
      rw [Word.partOfSpeech] at hpos
      rw [Word.noun?]
      cases hs : w.sense <;> simp_all [Sense.partOfSpeech, Sense.noun?]
    obtain ⟨hnoun, hmem⟩ := noun_of_mem_words (mem_words_of_mem_vocabulary hw) hwnoun
    exact ⟨noun, hnoun, Noun.mem_nameKeys.mpr ⟨w, hmem, hpos, hkey⟩⟩
  · rintro ⟨noun, hnoun, hkey⟩
    obtain ⟨w, hw, hpos, rfl⟩ := Noun.mem_nameKeys.mp hkey
    -- the vocabulary may list another word that is the same, which is a name of the noun as well
    obtain ⟨u, hu, hukey, hunoun, hupos⟩ := h.exists_mem_vocabulary hnoun hw
    refine ⟨u, mem_objectWords.mpr ⟨hu, hukey, Word.isVerb_eq_false_iff.mpr (Or.inl ?_)⟩, ?_⟩
    · rw [Word.isNounWord, hunoun]
      rfl
    · rw [hupos, hpos]
      rfl

/-- The words of a place stand in the order of their entities. -/
theorem Sound.pairwise_ref_objectWords (h : world.Sound) (key : Text) :
    (world.objectWords key).Pairwise (·.ref ≤ ·.ref) := by
  have hsorted : (world.objectWords key).Pairwise fun a b => (Word.order a b).isLE :=
    ((Word.pairwise_sort _).filter _).filter _
  refine hsorted.imp_of_mem fun {a b} ha hb hle => ?_
  obtain ⟨ha, hakey, -⟩ := mem_objectWords.mp ha
  obtain ⟨hb, hbkey, -⟩ := mem_objectWords.mp hb
  refine Word.ref_le_of_order_isLE hle (hakey.trans hbkey.symm) ?_
  rw [← h.longestFirst.length_key ha, ← h.longestFirst.length_key hb, hakey, hbkey]

theorem Sound.pairwise_ref_filterMap_noun? (h : world.Sound) (key : Text) :
    ((world.objectWords key).filterMap Word.noun?).Pairwise (·.ref ≤ ·.ref) := by
  refine List.Pairwise.filterMap _ (fun a b hab n hn n' hn' => ?_)
    (h.pairwise_ref_objectWords key)
  rwa [Word.ref_eq_of_noun? hn, Word.ref_eq_of_noun? hn'] at hab

/-! ### The nouns that keys bring in -/

/-- The nouns that some keys bring into a phrase, key by key. -/
def broughtBy (world : World) (keys : List Text) : List Noun :=
  keys.foldl (fun nouns key =>
    nouns ++ world.nouns.filter fun n => n.keys.contains key && !nouns.contains n) []

@[simp] theorem broughtBy_nil : world.broughtBy [] = [] := rfl

theorem broughtBy_concat (keys : List Text) (key : Text) :
    world.broughtBy (keys ++ [key]) = world.broughtBy keys ++
      world.nouns.filter fun n => n.keys.contains key && !(world.broughtBy keys).contains n := by
  rw [broughtBy, List.foldl_append]
  rfl

/-- A key brings in the nouns that have it and were not brought in before. -/
theorem mem_new_iff {nouns : List Noun} {key : Text} {noun : Noun} :
    (noun ∈ world.nouns.filter fun n => n.keys.contains key && !nouns.contains n) ↔
      noun ∈ world.nouns ∧ key ∈ noun.keys ∧ noun ∉ nouns := by
  simp

/-- Brought in are the nouns that have any of the keys. -/
theorem mem_broughtBy {keys : List Text} {noun : Noun} :
    noun ∈ world.broughtBy keys ↔ noun ∈ world.nouns ∧ ∃ key ∈ keys, key ∈ noun.keys := by
  induction keys using List.reverseRecOn with
  | nil => simp
  | append_singleton keys key ih =>
    rw [broughtBy_concat, List.mem_append, mem_new_iff, ih]
    simp only [List.mem_append, List.mem_singleton, or_and_right, exists_or, exists_eq_left]
    constructor
    · rintro (⟨hnoun, hold⟩ | ⟨hnoun, hkey, -⟩)
      · exact ⟨hnoun, Or.inl hold⟩
      · exact ⟨hnoun, Or.inr hkey⟩
    · rintro ⟨hnoun, hold | hkey⟩
      · exact Or.inl ⟨hnoun, hold⟩
      · by_cases hold : ∃ k ∈ keys, k ∈ noun.keys
        · exact Or.inl ⟨hnoun, hold⟩
        · exact Or.inr ⟨hnoun, hkey, fun h => hold h.2⟩

/-- **Nouns with the first key keep the order of the world**, whatever other keys there are. -/
theorem filter_broughtBy {key : Text} {p : Noun → Bool}
    (hp : ∀ noun, p noun = true → key ∈ noun.keys) (keys : List Text) :
    (world.broughtBy (key :: keys)).filter p = world.nouns.filter p := by
  induction keys using List.reverseRecOn with
  | nil =>
    rw [← List.nil_append [key], broughtBy_concat, broughtBy_nil, List.nil_append,
      List.filter_filter]
    refine List.filter_congr fun noun _ => ?_
    cases hnoun : p noun with
    | false => rfl
    | true => simp [hp noun hnoun]
  | append_singleton keys other ih =>
    -- a noun with the first key was brought in by it, and not by a later one
    have hnone : (world.nouns.filter fun n =>
        n.keys.contains other && !(world.broughtBy (key :: keys)).contains n).filter p = [] := by
      rw [List.filter_eq_nil_iff]
      intro noun hmem hnoun
      obtain ⟨hmem, -, hnew⟩ := mem_new_iff.mp hmem
      exact hnew (mem_broughtBy.mpr ⟨hmem, key, List.mem_cons_self, hp noun hnoun⟩)
    rw [← List.cons_append, broughtBy_concat, List.filter_append, hnone, List.append_nil, ih]

/-- Nouns are the same to the weaver if they have one number. -/
def sameRef (a b : Noun) : Bool := a.ref == b.ref

theorem Sound.pairwise_broughtBy (h : world.Sound) (keys : List Text) :
    (world.broughtBy keys).Pairwise fun a b => sameRef a b = false := by
  induction keys using List.reverseRecOn with
  | nil => exact List.Pairwise.nil
  | append_singleton keys key ih =>
    rw [broughtBy_concat, List.pairwise_append]
    refine ⟨ih, ?_, fun a ha b hb => ?_⟩
    · refine (h.nouns_lt.filter _).imp fun hlt => ?_
      exact beq_eq_false_iff_ne.mpr (Int.ne_of_lt hlt)
    · refine beq_eq_false_iff_ne.mpr fun href => ?_
      obtain ⟨hb, -, hnew⟩ := mem_new_iff.mp hb
      exact hnew (h.noun_eq_of_ref_eq (mem_broughtBy.mp ha).1 hb href ▸ ha)

/-- **The words of a place bring in what their key brings in**: their nouns, in order, without those
that are there already. -/
theorem Sound.keepFirst_objectWords (h : world.Sound) (keys : List Text) (key : Text) :
    keepFirst sameRef (world.broughtBy keys) ((world.objectWords key).filterMap Word.noun?) =
      world.broughtBy (keys ++ [key]) := by
  -- what is kept are the old nouns, and behind them some of those that the words are about
  obtain ⟨new, hnew, hsub⟩ :=
    @keepFirst_sublist _ sameRef (world.broughtBy keys)
      ((world.objectWords key).filterMap Word.noun?)
  have hdiff := pairwise_keepFirst (h.pairwise_broughtBy keys)
    ((world.objectWords key).filterMap Word.noun?)
  rw [hnew, List.pairwise_append] at hdiff
  obtain ⟨-, hnewdiff, hold⟩ := hdiff
  have hmem : ∀ noun ∈ new, noun ∈ world.nouns ∧ key ∈ noun.keys := by
    intro noun hnoun
    obtain ⟨w, hw, hwnoun⟩ := List.mem_filterMap.mp (hsub.subset hnoun)
    exact h.exists_mem_objectWords_iff.mp ⟨w, hw, hwnoun⟩
  -- both lists are in the order of the numbers, so it is enough that they have the same members
  have hordered : new.Pairwise (·.ref < ·.ref) := by
    have hle := (h.pairwise_ref_filterMap_noun? key).sublist hsub
    exact (hle.and hnewdiff).imp fun hab => lt_of_le_of_ne hab.1 (beq_eq_false_iff_ne.mp hab.2)
  have hantisymm : Std.Antisymm fun a b : Noun => a.ref < b.ref :=
    ⟨fun a b hab hba => absurd hba (Int.lt_asymm hab)⟩
  have hirrefl : Std.Irrefl fun a b : Noun => a.ref < b.ref := ⟨fun a => Int.lt_irrefl _⟩
  rw [hnew, broughtBy_concat]
  congr 1
  refine List.Pairwise.eq_of_mem_iff hordered (h.nouns_lt.filter _) fun noun => ?_
  rw [mem_new_iff]
  constructor
  · intro hnoun
    refine ⟨(hmem noun hnoun).1, (hmem noun hnoun).2, fun hbrought => ?_⟩
    exact absurd (hold noun hbrought noun hnoun) (by simp [sameRef])
  · rintro ⟨hnoun, hkey, hfresh⟩
    obtain ⟨w, hw, hwnoun⟩ := h.exists_mem_objectWords_iff.mpr ⟨hnoun, hkey⟩
    obtain ⟨noun', hmem', href⟩ :=
      @exists_related_keepFirst _ sameRef (fun a => beq_self_eq_true a.ref)
        (world.broughtBy keys) ((world.objectWords key).filterMap Word.noun?) _
        (List.mem_append_right _ (List.mem_filterMap.mpr ⟨w, hw, hwnoun⟩))
    rw [hnew] at hmem'
    have hnoun' : noun' ∈ world.nouns :=
      (List.mem_append.mp hmem').elim (fun h => (mem_broughtBy.mp h).1) fun h => (hmem _ h).1
    obtain rfl := h.noun_eq_of_ref_eq hnoun' hnoun (beq_iff_eq.mp href)
    exact (List.mem_append.mp hmem').resolve_left hfresh

end World

/-! ### One word -/

namespace Weaver

variable {world : World} {weaver weaver' : Weaver} {nouns : List Noun}

/-- A weaver that differs from another only in what an open phrase changes. -/
structure SameBut (weaver weaver' : Weaver) : Prop where
  phrase : weaver'.phrase = weaver.phrase
  closed : weaver'.closed = weaver.closed
  ofPhrase : ∀ phrase : Int, phrase ≠ weaver.phrase →
    weaver'.ledger.ofPhrase phrase = weaver.ledger.ofPhrase phrase

theorem SameBut.refl (weaver : Weaver) : SameBut weaver weaver := ⟨rfl, rfl, fun _ _ => rfl⟩

theorem SameBut.trans {final : Weaver} (h : SameBut weaver weaver') (h' : SameBut weaver' final) :
    SameBut weaver final where
  phrase := h'.phrase.trans h.phrase
  closed := h'.closed.trans h.closed
  ofPhrase phrase hne := by rw [h'.ofPhrase phrase (h.phrase ▸ hne), h.ofPhrase phrase hne]

/-- A word is learned by the clusters that are there, and by those of the other tracked nouns, which
are opened behind them. -/
theorem openClusters_learn {new : List Profile}
    (htracked : weaver.tracked = weaver.openClusters.map Cluster.profile ++ new)
    (hnodup : (weaver.tracked.map Profile.key).Nodup) (w : Word) :
    (weaver.learn w).openClusters = weaver.openClusters.map (·.learn w weaver.streak) ++
      new.map fun profile =>
        Cluster.learn { profile := profile, phrase := weaver.phrase } w weaver.streak := by
  have hkeeps := Cluster.keeps_learn w weaver.streak
  have hchange : ∀ cluster : Cluster, (cluster.learn w weaver.streak).phrase = cluster.phrase ∧
      (cluster.learn w weaver.streak).key = cluster.key := fun cluster =>
    ⟨hkeeps.phrase cluster, congrArg Profile.key (hkeeps.profile cluster)⟩
  exact @Ledger.ofPhrase_foldl_modify weaver.phrase (·.learn w weaver.streak) hchange
    weaver.ledger _ [] _ _ htracked hnodup rfl

theorem sameBut_learn (weaver : Weaver) (w : Word) : SameBut weaver (weaver.learn w) where
  phrase := rfl
  closed := rfl
  ofPhrase _ hne := Ledger.ofPhrase_foldl_modify_of_ne
    (Cluster.keeps_learn w weaver.streak).phrase weaver.ledger weaver.tracked hne

theorem sameBut_track (catalog : Catalog) (weaver : Weaver) (w : Word) :
    SameBut weaver (track catalog weaver w) := by
  rw [track]
  split
  · split
    · exact SameBut.refl weaver
    · exact ⟨rfl, rfl, fun _ _ => rfl⟩
  · exact SameBut.refl weaver

theorem track_eq (h : world.Sound) {w : Word} (hw : w ∈ world.words) {noun : Noun}
    (hnoun : w.noun? = some noun) (htracked : weaver.tracked = nouns.map Noun.profile) :
    track (Catalog.ofWorld world) weaver w =
      { weaver with tracked := (keepFirst World.sameRef nouns [noun]).map Noun.profile } := by
  have hany : weaver.tracked.any (·.key == noun.profile.key) =
      nouns.any (World.sameRef · noun) := by
    rw [htracked, List.any_map]
    rfl
  have hprofile : (Catalog.ofWorld world).profileFor? w = some noun.profile := by
    rw [Catalog.profileFor?_eq h hw, hnoun]
    rfl
  rw [track, hprofile]
  dsimp only
  rw [hany, keepFirst, List.foldl_cons, List.foldl_nil]
  split
  · rw [← htracked]
  · rw [List.map_append, ← htracked]
    rfl

/-- A word names a tracked noun if its key is a name of one of the nouns. -/
theorem any_isNamedBy {w : Word} {key : Text} (hkey : w.key = key) (nouns : List Noun) :
    (nouns.map Noun.profile).any (·.isNamedBy w) = nouns.any (·.nameKeys.contains key) := by
  rw [List.any_map]
  congr 1
  funext noun
  rw [Function.comp_apply, Bool.eq_iff_iff, List.contains_iff_mem, noun.isNamedBy_profile, hkey]

/-! ### The words of a place -/

/-- How a weaver stands within a place that has a key, in a phrase that had some keys before: the
nouns it tracks and what their clusters are. The clusters may have learned the key already, from
another word of the place. Either way, a word of the place leaves them with all keys. -/
structure Within (world : World) (weaver : Weaver) (keys : List Text) (key : Text)
    (nouns : List Noun) (clusterOf : Noun → Cluster) : Prop where
  length_keys : keys.length = weaver.streak
  distinct : nouns.Pairwise fun a b => World.sameRef a b = false
  tracked : weaver.tracked = nouns.map Noun.profile
  openClusters : weaver.openClusters = nouns.map clusterOf
  profile : ∀ noun ∈ nouns, (clusterOf noun).profile = noun.profile
  learn : ∀ w : Word, w.key = key → ∀ noun ∈ nouns,
    (clusterOf noun).learn w weaver.streak = Cluster.following weaver.phrase (keys ++ [key]) noun
  /-- A noun that is not tracked has none of the keys before. -/
  fresh : ∀ noun ∈ world.nouns, nouns.any (World.sameRef · noun) = false →
    ∀ k ∈ keys, k ∉ noun.keys

section Words

variable {keys : List Text} {key : Text} {clusterOf : Noun → Cluster} {w : Word} {noun : Noun}

/-- The noun of a word is tracked already, or its cluster is opened late and catches up. -/
theorem Within.exists_new (hwithin : Within world weaver keys key nouns clusterOf)
    (hw : w ∈ world.words) (hkey : w.key = key) (hnoun : w.noun? = some noun) :
    ∃ new, keepFirst World.sameRef nouns [noun] = nouns ++ new ∧ ∀ n ∈ new,
      Cluster.learn { profile := n.profile, phrase := weaver.phrase } w weaver.streak =
        Cluster.following weaver.phrase (keys ++ [key]) n := by
  rw [keepFirst, List.foldl_cons, List.foldl_nil]
  split
  · exact ⟨[], (List.append_nil nouns).symm, fun n hn => absurd hn List.not_mem_nil⟩
  · next hnone =>
    refine ⟨[noun], rfl, fun n hn => ?_⟩
    obtain rfl := List.mem_singleton.mp hn
    have hworld := (World.noun_of_mem_words hw hnoun).1
    rw [← hkey]
    exact Cluster.learn_fresh hwithin.length_keys
      (hwithin.fresh n hworld (Bool.eq_false_iff.mpr hnone))

/-- Behind a word of the place the clusters have all keys, those that were there and a new one. -/
theorem Within.openClusters_learn_track (h : world.Sound)
    (hwithin : Within world weaver keys key nouns clusterOf) (hw : w ∈ world.words)
    (hkey : w.key = key) (hnoun : w.noun? = some noun) :
    ((track (Catalog.ofWorld world) weaver w).learn w).openClusters =
      (keepFirst World.sameRef nouns [noun]).map
        (Cluster.following weaver.phrase (keys ++ [key])) := by
  obtain ⟨new, hnew, hfollow⟩ := hwithin.exists_new hw hkey hnoun
  have htrack := track_eq h hw hnoun hwithin.tracked
  -- tracking opens no cluster: this is left to learning
  have hopen : (track (Catalog.ofWorld world) weaver w).openClusters = nouns.map clusterOf := by
    rw [htrack]
    exact hwithin.openClusters
  have htracked : (track (Catalog.ofWorld world) weaver w).tracked =
      (nouns.map clusterOf).map Cluster.profile ++ new.map Noun.profile := by
    have hprofiles : (nouns.map clusterOf).map Cluster.profile = nouns.map Noun.profile := by
      rw [List.map_map]
      exact List.map_congr_left hwithin.profile
    rw [hprofiles, htrack, hnew, List.map_append]
  have hnodup : ((track (Catalog.ofWorld world) weaver w).tracked.map Profile.key).Nodup := by
    rw [htrack, List.map_map, List.Nodup, List.pairwise_map]
    exact (pairwise_keepFirst hwithin.distinct [noun]).imp fun hab => beq_eq_false_iff_ne.mp hab
  calc ((track (Catalog.ofWorld world) weaver w).learn w).openClusters
      = (nouns.map clusterOf).map (·.learn w weaver.streak) ++
          (new.map Noun.profile).map fun profile =>
            Cluster.learn { profile := profile, phrase := weaver.phrase } w weaver.streak := by
        rw [openClusters_learn (hopen ▸ htracked) hnodup, hopen, htrack]
    _ = nouns.map (Cluster.following weaver.phrase (keys ++ [key])) ++
          new.map (Cluster.following weaver.phrase (keys ++ [key])) := by
        rw [List.map_map, List.map_map]
        exact congrArg₂ _ (List.map_congr_left (hwithin.learn w hkey))
          (List.map_congr_left hfollow)
    _ = (keepFirst World.sameRef nouns [noun]).map
          (Cluster.following weaver.phrase (keys ++ [key])) := by rw [hnew, List.map_append]

/-- **One word**: its noun is tracked, and every tracked noun has learned the key. -/
theorem Within.learn_track (h : world.Sound)
    (hwithin : Within world weaver keys key nouns clusterOf) (hw : w ∈ world.words)
    (hkey : w.key = key) (hnoun : w.noun? = some noun) :
    Within world ((track (Catalog.ofWorld world) weaver w).learn w) keys key
      (keepFirst World.sameRef nouns [noun]) (Cluster.following weaver.phrase (keys ++ [key])) := by
  have hclusters := hwithin.openClusters_learn_track h hw hkey hnoun
  rw [track_eq h hw hnoun hwithin.tracked] at hclusters ⊢
  constructor
  case length_keys => exact hwithin.length_keys
  case distinct => exact pairwise_keepFirst hwithin.distinct [noun]
  case tracked => rfl
  case openClusters => exact hclusters
  case profile => exact fun _ _ => rfl
  case learn =>
    -- a second word of the place finds the key learned already
    intro u hu n _
    rw [← hu]
    exact Cluster.learn_following_again hwithin.length_keys
  case fresh =>
    -- whatever is not tracked now was not tracked before
    intro n hn hnone
    refine hwithin.fresh n hn (Bool.eq_false_iff.mpr fun hany => ?_)
    exact Bool.eq_false_iff.mp hnone (any_keepFirst hany [noun])

theorem sameBut_learn_track (catalog : Catalog) (weaver : Weaver) (w : Word) :
    SameBut weaver ((track catalog weaver w).learn w) :=
  (sameBut_track catalog weaver w).trans (sameBut_learn _ w)

/-- The words of a place are taken one by one, and each tells whether it names a noun tracked by
then. -/
theorem takeWords_cons (h : world.Sound) (hwithin : Within world weaver keys key nouns clusterOf)
    (hw : w ∈ world.words) (hkey : w.key = key) (hnoun : w.noun? = some noun) (ws : List Word) :
    takeWords (Catalog.ofWorld world) weaver (w :: ws) =
      ((takeWords (Catalog.ofWorld world)
          ((track (Catalog.ofWorld world) weaver w).learn w) ws).1,
        (keepFirst World.sameRef nouns [noun]).any (·.nameKeys.contains key) ||
          (takeWords (Catalog.ofWorld world)
            ((track (Catalog.ofWorld world) weaver w).learn w) ws).2) := by
  have hnamed : (track (Catalog.ofWorld world) weaver w).tracked.any (·.isNamedBy w) =
      (keepFirst World.sameRef nouns [noun]).any (·.nameKeys.contains key) := by
    rw [track_eq h hw hnoun hwithin.tracked]
    exact any_isNamedBy hkey _
  rw [takeWords, hnamed]

/-- **All words of a place**, of which there is at least one: their nouns are tracked, and every
tracked noun has learned the key once. A word was a name if the key is a name of any of the nouns.
-/
theorem Within.takeWords (h : world.Sound)
    (hwithin : Within world weaver keys key nouns clusterOf) {ws : List Word}
    (hwords : ∀ u ∈ w :: ws, u ∈ world.words ∧ u.key = key ∧ u.isNounWord = true) :
    Within world (Weaver.takeWords (Catalog.ofWorld world) weaver (w :: ws)).1 keys key
        (keepFirst World.sameRef nouns ((w :: ws).filterMap Word.noun?))
        (Cluster.following weaver.phrase (keys ++ [key])) ∧
      SameBut weaver (Weaver.takeWords (Catalog.ofWorld world) weaver (w :: ws)).1 ∧
      (Weaver.takeWords (Catalog.ofWorld world) weaver (w :: ws)).2 =
        (keepFirst World.sameRef nouns ((w :: ws).filterMap Word.noun?)).any
          (·.nameKeys.contains key) := by
  -- the first word leaves the clusters with the key, and the others find it there: the induction
  -- is over any clusters that learning leads to those of all keys
  induction ws generalizing weaver nouns w clusterOf with
  | nil =>
    obtain ⟨hw, hkey, hnounWord⟩ := hwords w List.mem_cons_self
    obtain ⟨noun, hnoun⟩ := Option.isSome_iff_exists.mp hnounWord
    have hmap : [w].filterMap Word.noun? = [noun] := by
      rw [List.filterMap_cons, hnoun]
      rfl
    rw [takeWords_cons h hwithin hw hkey hnoun, hmap, Weaver.takeWords, Bool.or_false]
    exact ⟨hwithin.learn_track h hw hkey hnoun, sameBut_learn_track _ weaver w, rfl⟩
  | cons w' ws ih =>
    obtain ⟨hw, hkey, hnounWord⟩ := hwords w List.mem_cons_self
    obtain ⟨noun, hnoun⟩ := Option.isSome_iff_exists.mp hnounWord
    have hmap : keepFirst World.sameRef nouns ((w :: w' :: ws).filterMap Word.noun?) =
        keepFirst World.sameRef (keepFirst World.sameRef nouns [noun])
          ((w' :: ws).filterMap Word.noun?) := by
      rw [List.filterMap_cons, hnoun]
      rfl
    have hsame := sameBut_learn_track (Catalog.ofWorld world) weaver w
    obtain ⟨hrest, hsame', hnamed⟩ := ih (hwithin.learn_track h hw hkey hnoun)
      fun u hu => hwords u (List.mem_cons_of_mem w hu)
    rw [hsame.phrase] at hrest
    rw [takeWords_cons h hwithin hw hkey hnoun, hmap, hnamed]
    -- a noun that the first word names is still tracked behind the last
    refine ⟨hrest, hsame.trans hsame', Bool.or_eq_right_iff_imp.mpr fun hany => ?_⟩
    exact any_keepFirst hany _

end Words

/-! ### One place -/

/-- How a weaver stands whose open phrase has had some keys. -/
structure Follows (world : World) (weaver : Weaver) (keys : List Text) : Prop where
  length_keys : keys.length = weaver.streak
  tracked : weaver.tracked = (world.broughtBy keys).map Noun.profile
  openClusters :
    weaver.openClusters = (world.broughtBy keys).map (Cluster.following weaver.phrase keys)

/-- A place begins with the clusters that have followed the keys before. -/
theorem Follows.within (h : world.Sound) {keys : List Text} (hfollows : Follows world weaver keys)
    (key : Text) :
    Within world weaver keys key (world.broughtBy keys)
      (Cluster.following weaver.phrase keys) where
  length_keys := hfollows.length_keys
  distinct := h.pairwise_broughtBy keys
  tracked := hfollows.tracked
  openClusters := hfollows.openClusters
  profile _ _ := rfl
  learn w hkey noun _ := hkey ▸ Cluster.learn_following hfollows.length_keys
  fresh noun hnoun hnone k hk hkey := by
    -- with one of the keys, the noun would have been brought in
    have hmem : noun ∈ world.broughtBy keys := World.mem_broughtBy.mpr ⟨hnoun, k, hk, hkey⟩
    exact Bool.eq_false_iff.mp hnone
      (List.any_eq_true.mpr ⟨noun, hmem, beq_self_eq_true noun.ref⟩)

/-- A noun of the world that a key names is among those that the key has brought in. -/
theorem any_nameKeys_broughtBy (h : world.Sound) (keys : List Text) (key : Text) :
    (world.broughtBy (keys ++ [key])).any (·.nameKeys.contains key) =
      (world.objectWords key).any (·.partOfSpeech == .noun) := by
  rw [Bool.eq_iff_iff, h.any_name_objectWords_iff, List.any_eq_true]
  constructor
  · rintro ⟨noun, hmem, hname⟩
    exact ⟨noun, (World.mem_broughtBy.mp hmem).1, List.contains_iff_mem.mp hname⟩
  · rintro ⟨noun, hmem, hname⟩
    -- a name of a noun is one of its keys, so the place has brought the noun in
    refine ⟨noun, World.mem_broughtBy.mpr ⟨hmem, key, ?_, ?_⟩, List.contains_iff_mem.mpr hname⟩
    · exact List.mem_append_right _ (List.mem_singleton.mpr rfl)
    · exact Noun.mem_keys_of_mem_nameKeys hname

/-- **One place** takes an open phrase from some keys to the keys with its own behind them, and
breaks it if its key is a name of a noun of the world. -/
theorem takeNouns_follows (h : world.Sound) {keys : List Text}
    (hfollows : Follows world weaver keys) {key : Text} (hne : world.objectWords key ≠ [])
    (hnoun : ∀ w ∈ world.objectWords key, w.isNounWord = true) :
    ∃ weaver', Follows world weaver' (keys ++ [key]) ∧ SameBut weaver weaver' ∧
      takeNouns (Catalog.ofWorld world) weaver (world.objectWords key) =
        if (world.objectWords key).any (·.partOfSpeech == .noun) then weaver'.breakPhrase
        else weaver' := by
  obtain ⟨w, ws, hwords⟩ := List.exists_cons_of_ne_nil hne
  have hmem : ∀ u ∈ w :: ws, u ∈ world.words ∧ u.key = key ∧ u.isNounWord = true := by
    intro u hu
    rw [← hwords] at hu
    obtain ⟨hvocabulary, hkey, -⟩ := World.mem_objectWords.mp hu
    exact ⟨World.mem_words_of_mem_vocabulary hvocabulary, hkey, hnoun u hu⟩
  obtain ⟨hwithin, hsame, hnamed⟩ := (hfollows.within h key).takeWords h hmem
  rw [← hwords, h.keepFirst_objectWords keys key] at hwithin hnamed
  rw [← hwords] at hsame
  -- the words of the place share one position, behind which the next place goes on
  refine ⟨{ (takeWords (Catalog.ofWorld world) weaver (world.objectWords key)).1 with
    streak := (takeWords (Catalog.ofWorld world) weaver (world.objectWords key)).1.streak + 1 },
    ⟨?_, hwithin.tracked, ?_⟩, ⟨hsame.phrase, hsame.closed, hsame.ofPhrase⟩, ?_⟩
  · rw [List.length_append, hwithin.length_keys]
    rfl
  · refine hwithin.openClusters.trans ?_
    rw [← hsame.phrase]
  · rw [takeNouns, ← any_nameKeys_broughtBy h keys key, ← hnamed]

end Weaver

end CommandPrompt
