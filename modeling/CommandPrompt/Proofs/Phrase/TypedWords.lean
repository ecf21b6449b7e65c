import CommandPrompt.Context
import CommandPrompt.Proofs.Phrase.Weaving

/-!
# Commands of single words

If no spelling holds a space, a command can be judged by the words that were typed, one after
another. This module says what a world makes of a typed word: whether it knows it (`World.Knows`),
whether the word can stand at its position (`World.IsMisplaced`), and whether it is a preposition or
a name (`World.isPreposition`, `World.isName`). The last two cut the words behind the verb into
parts (`World.wordParts`), and reading the words then gives the groups of these parts
(`Context.readGroups_eq_meaning`, `World.Sound.meaning_cases`).
-/

namespace CommandPrompt

namespace World

variable (world : World)

/-- Whether a typed word is the spelling of a word, without regard to letter case. -/
def Knows (t : Text) : Prop := ∃ w ∈ world.words, w.key = t.lower

/-- Whether a typed word cannot stand at a position: as the first word if it spells no verb, as any
other word if it spells nothing but verbs. -/
def IsMisplaced (position : Nat) (t : Text) : Prop :=
  if position = 0 then ∀ w ∈ world.words, w.key = t.lower → w.isVerb = false
  else ∀ w ∈ world.words, w.key = t.lower → w.isVerb = true

/-- Whether the first typed word that cannot stand at its position is the one at this position. -/
def IsFirstMisplaced (ts : List Text) (position : Nat) : Prop :=
  (∃ t, ts[position]? = some t ∧ world.IsMisplaced position t) ∧
    ∀ i < position, ∀ t, ts[i]? = some t → ¬world.IsMisplaced i t

/-- Whether all typed words are known and can stand at their positions. -/
def IsPlaced (ts : List Text) : Prop :=
  (∀ t ∈ ts, world.Knows t) ∧
    ∀ (position : Nat) (t : Text), ts[position]? = some t → ¬world.IsMisplaced position t

/-- Whether a typed word is a preposition of two different verbs. -/
def IsSharedPreposition (t : Text) : Prop :=
  ∃ v ∈ world.verbs, ∃ v' ∈ world.verbs, v ≠ v' ∧
    t.lower ∈ v.prepositions ∧ t.lower ∈ v'.prepositions

/-- Whether a typed word is a preposition of a verb. -/
def isPreposition (t : Text) : Bool := world.verbs.any (·.prepositions.contains t.lower)

/-- Whether a typed word is a name of a noun. -/
def isName (t : Text) : Bool := world.nouns.any (·.nameKeys.contains t.lower)

/-- The parts of a command, given the words typed behind its verb. -/
def wordParts (ts : List Text) : List (Part Text) :=
  Part.cut world.isPreposition world.isName 0 ts

/-- What a typed word behind the verb can stand for. -/
def place (t : Text) : AmbiguityGroup := world.objectWords t.lower

end World

/-! ### Deciding -/

section Decidable

variable (world : World)

instance (t : Text) : Decidable (world.Knows t) :=
  inferInstanceAs (Decidable (∃ w ∈ world.words, w.key = t.lower))

instance (position : Nat) (t : Text) : Decidable (world.IsMisplaced position t) :=
  inferInstanceAs (Decidable (if position = 0
    then ∀ w ∈ world.words, w.key = t.lower → w.isVerb = false
    else ∀ w ∈ world.words, w.key = t.lower → w.isVerb = true))

instance (t : Text) : Decidable (world.IsSharedPreposition t) :=
  inferInstanceAs (Decidable (∃ v ∈ world.verbs, ∃ v' ∈ world.verbs, v ≠ v' ∧
    t.lower ∈ v.prepositions ∧ t.lower ∈ v'.prepositions))

instance (ts : List Text) : Decidable (world.IsPlaced ts) :=
  decidable_of_iff
    ((∀ t ∈ ts, world.Knows t) ∧ ∀ p ∈ ts.zipIdx, ¬world.IsMisplaced p.2 p.1)
    (and_congr_right fun _ => by
      simp only [Prod.forall, List.mem_zipIdx_iff_getElem?]
      exact ⟨fun h i t ht => h t i ht, fun h t i ht => h i t ht⟩)

end Decidable

/-! ### Words and their representatives -/

/-- What same words share is found in the vocabulary if it is found in the world. -/
theorem World.exists_mem_vocabulary_iff {world : World} {p : Word → Prop}
    (hp : ∀ a b, Word.same a b → p b → p a) :
    (∃ w ∈ world.vocabulary, p w) ↔ ∃ w ∈ world.words, p w := by
  constructor
  · rintro ⟨w, hw, hword⟩
    exact ⟨w, mem_words_of_mem_vocabulary hw, hword⟩
  · rintro ⟨w, hw, hword⟩
    obtain ⟨u, hu, hsame⟩ := exists_same_vocabulary hw
    exact ⟨u, hu, hp u w hsame hword⟩

theorem Word.isVerb_eq_of_same {a b : Word} (h : same a b) : a.isVerb = b.isVerb := by
  rw [isVerb, isVerb, (same_iff.mp h).2.2]

/-! ### Prepositions -/

/-- A preposition among the words of a verb is spelled as one of its prepositions. -/
theorem Verb.mem_words_preposition {verb : Verb} {w : Word} (h : w ∈ verb.words)
    (hpos : w.partOfSpeech = .preposition) :
    w.sense = .preposition verb ∧ w.spelling ∈ verb.prepositions := by
  simp only [Verb.words, List.mem_append, List.mem_map] at h
  rcases h with (⟨t, -, rfl⟩ | ⟨t, -, rfl⟩) | ⟨t, ht, rfl⟩
  · exact absurd hpos (by simp [Word.partOfSpeech, Sense.partOfSpeech])
  · exact absurd hpos (by simp [Word.partOfSpeech, Sense.partOfSpeech])
  · exact ⟨rfl, ht⟩

namespace World

variable {world : World}

theorem mem_prepositions_place {t : Text} {w : Word} :
    w ∈ (world.place t).prepositions ↔
      w ∈ world.vocabulary ∧ w.key = t.lower ∧ w.partOfSpeech = .preposition := by
  rw [AmbiguityGroup.prepositions, List.mem_filter, beq_iff_eq, place, mem_objectWords]
  constructor
  · rintro ⟨⟨hw, hkey, -⟩, hpos⟩
    exact ⟨hw, hkey, hpos⟩
  · rintro ⟨hw, hkey, hpos⟩
    exact ⟨⟨hw, hkey, Word.isVerb_eq_false_iff.mpr (Or.inr hpos)⟩, hpos⟩

/-- The prepositions of a place are prepositions of verbs of the world. -/
theorem Sound.exists_verb_of_mem_prepositions (h : world.Sound) {t : Text} {w : Word}
    (hw : w ∈ (world.place t).prepositions) :
    ∃ v ∈ world.verbs, w.sense = .preposition v ∧ t.lower ∈ v.prepositions := by
  obtain ⟨hw, hkey, hpos⟩ := mem_prepositions_place.mp hw
  rcases mem_words.mp (mem_words_of_mem_vocabulary hw) with ⟨v, hv, hmem⟩ | ⟨n, -, hmem⟩
  · obtain ⟨hsense, hspelling⟩ := Verb.mem_words_preposition hmem hpos
    have hlower := (h.verb_spelling v hv w.spelling (List.mem_append_right _ hspelling)).2
    refine ⟨v, hv, hsense, ?_⟩
    rw [← hkey, Word.key, hlower]
    exact hspelling
  · -- words of a noun name or describe it
    have hnoun := Noun.noun?_of_mem_words hmem
    rw [Word.partOfSpeech] at hpos
    rw [Word.noun?] at hnoun
    cases hs : w.sense <;> rw [hs] at hpos hnoun <;> simp_all [Sense.noun?, Sense.partOfSpeech]

/-- Every verb with a preposition puts a word of its own into the place. -/
theorem Sound.exists_mem_prepositions_of_verb (h : world.Sound) {t : Text} {v : Verb}
    (hv : v ∈ world.verbs) (ht : t.lower ∈ v.prepositions) :
    ∃ w ∈ (world.place t).prepositions, w.ref = v.ref := by
  have hword : (⟨t.lower, .preposition v, none⟩ : Word) ∈ v.words :=
    List.mem_append_right _ (List.mem_map_of_mem ht)
  obtain ⟨u, hu, hsame⟩ := exists_same_vocabulary (mem_words.mpr (Or.inl ⟨v, hv, hword⟩))
  obtain ⟨hkey, href, hpart⟩ := Word.same_iff.mp hsame
  have hlower := (h.verb_spelling v hv t.lower (List.mem_append_right _ ht)).2
  refine ⟨u, mem_prepositions_place.mpr ⟨hu, hkey.trans hlower, hpart⟩, href⟩

/-- A place holds a preposition if the word is one of a verb. -/
theorem Sound.hasPreposition_place (h : world.Sound) (t : Text) :
    (world.place t).hasPreposition = world.isPreposition t := by
  rw [Bool.eq_iff_iff, ← AmbiguityGroup.prepositions_ne_nil_iff, isPreposition, List.any_eq_true]
  constructor
  · intro hne
    obtain ⟨w, hw⟩ := List.exists_mem_of_ne_nil _ hne
    obtain ⟨v, hv, -, ht⟩ := h.exists_verb_of_mem_prepositions hw
    exact ⟨v, hv, List.contains_iff_mem.mpr ht⟩
  · rintro ⟨v, hv, ht⟩
    obtain ⟨w, hw, -⟩ := h.exists_mem_prepositions_of_verb hv (List.contains_iff_mem.mp ht)
    exact List.ne_nil_of_mem hw

/-- A place holds a name if the word is one of a noun. -/
theorem Sound.hasName_place (h : world.Sound) (t : Text) :
    (world.place t).hasName = world.isName t := by
  rw [Bool.eq_iff_iff, AmbiguityGroup.hasName, place, h.any_name_objectWords_iff, isName,
    List.any_eq_true]
  simp only [List.contains_iff_mem]

/-- **A place holds two prepositions** just if two verbs share the word. -/
theorem Sound.second_preposition_eq_none_iff (h : world.Sound) (t : Text) :
    (world.place t).prepositions[1]? = none ↔ ¬world.IsSharedPreposition t := by
  -- same words are in a vocabulary once, so two prepositions differ in their verbs
  have hdiff : Word.Different (world.place t).prepositions :=
    (((Word.different_distinct _).perm (Word.sort_perm _).symm).filter _ |>.filter _).filter _
  constructor
  · rintro hnone ⟨v, hv, v', hv', hne, ht, ht'⟩
    obtain ⟨w, hw, href⟩ := h.exists_mem_prepositions_of_verb hv ht
    obtain ⟨w', hw', href'⟩ := h.exists_mem_prepositions_of_verb hv' ht'
    -- a list without a second member has one member at most
    have heq : w = w' := by
      cases hwords : (world.place t).prepositions with
      | nil => rw [hwords] at hw; exact absurd hw List.not_mem_nil
      | cons u us =>
        cases us with
        | nil =>
          rw [hwords] at hw hw'
          rw [List.mem_singleton.mp hw, List.mem_singleton.mp hw']
        | cons u' us => rw [hwords] at hnone; exact absurd hnone (by simp)
    exact hne (h.verb_eq_of_ref_eq hv hv' (by rw [← href, ← href', heq]))
  · intro hshared
    cases hwords : (world.place t).prepositions with
    | nil => rfl
    | cons u us =>
      cases us with
      | nil => rfl
      | cons u' us =>
        exfalso
        have hu : u ∈ (world.place t).prepositions := hwords ▸ List.mem_cons_self
        have hu' : u' ∈ (world.place t).prepositions :=
          hwords ▸ List.mem_cons_of_mem u List.mem_cons_self
        obtain ⟨v, hv, hsense, ht⟩ := h.exists_verb_of_mem_prepositions hu
        obtain ⟨v', hv', hsense', ht'⟩ := h.exists_verb_of_mem_prepositions hu'
        refine hshared ⟨v, hv, v', hv', ?_, ht, ht'⟩
        rintro rfl
        rw [hwords] at hdiff
        have hnot := (List.pairwise_cons.mp hdiff).1 u' List.mem_cons_self
        have hkey : u.key = u'.key :=
          (mem_prepositions_place.mp hu).2.1.trans (mem_prepositions_place.mp hu').2.1.symm
        simp [Word.same, Word.ref, Word.partOfSpeech, hkey, hsense, hsense'] at hnot

/-! ### Places of typed words -/

/-- What a part of typed words becomes. -/
def wordGroups (world : World) : Part Text → List Group
  | .preposition t => (world.place t).prepositions.map .preposition
  | .phrase number ts =>
    let keys := ts.map Text.lower
    [.nounPhrase ((world.fitting keys).map (Cluster.following number keys))]

/-- Whether a part of typed words is a phrase that is not contained in the words of any noun. -/
def IsUnfitPart (world : World) : Part Text → Prop
  | .preposition _ => False
  | .phrase _ ts => world.fitting (ts.map Text.lower) = []

instance (world : World) (part : Part Text) : Decidable (world.IsUnfitPart part) :=
  match part with
  | .preposition _ => inferInstanceAs (Decidable False)
  | .phrase _ ts => inferInstanceAs (Decidable (world.fitting (ts.map Text.lower) = []))

theorem Sound.clash?_places_eq_none_iff (h : world.Sound) {ts : List Text} :
    AmbiguityGroup.clash? (ts.map world.place) = none ↔
      ∀ t ∈ ts, ¬world.IsSharedPreposition t := by
  rw [AmbiguityGroup.clash?, List.findSome?_eq_none_iff, List.forall_mem_map]
  refine forall_congr' fun t => imp_congr_right fun _ => ?_
  rw [Option.map_eq_none_iff, h.second_preposition_eq_none_iff]

theorem Sound.parts_places (h : world.Sound) (ts : List Text) :
    AmbiguityGroup.parts (ts.map world.place) =
      (world.wordParts ts).map (Part.map world.place) := by
  have hprep : AmbiguityGroup.hasPreposition ∘ world.place = world.isPreposition :=
    funext h.hasPreposition_place
  have hname : AmbiguityGroup.hasName ∘ world.place = world.isName := funext h.hasName_place
  rw [AmbiguityGroup.parts, Part.cut_map, hprep, hname]
  rfl

section Places

variable {ts : List Text} (hplaces : ∀ t ∈ ts, world.place t ≠ [])
include hplaces

theorem keys_places {items : List Text} (hitems : ∀ t ∈ items, t ∈ ts) :
    (items.map world.place).map AmbiguityGroup.key = items.map Text.lower := by
  rw [List.map_map]
  refine List.map_congr_left fun t ht => ?_
  exact (IsPlace.of_objectWords_ne_nil (hplaces t (hitems t ht))).1

theorem groups_map_place {part : Part Text} (hpart : part ∈ world.wordParts ts) :
    (part.map world.place).groups world = world.wordGroups part := by
  cases part with
  | preposition t => rfl
  | phrase number items =>
    have hkeys : (items.map world.place).map AmbiguityGroup.key = items.map Text.lower :=
      keys_places hplaces fun t ht => Part.mem_of_mem_cut hpart ht
    rw [Part.map, Part.groups, hkeys, wordGroups]

theorem isUnfit_map_place {part : Part Text} (hpart : part ∈ world.wordParts ts) :
    (part.map world.place).isUnfit world = true ↔ world.IsUnfitPart part := by
  cases part with
  | preposition t => exact ⟨fun h => absurd h Bool.false_ne_true, False.elim⟩
  | phrase number items =>
    have hkeys : (items.map world.place).map AmbiguityGroup.key = items.map Text.lower :=
      keys_places hplaces fun t ht => Part.mem_of_mem_cut hpart ht
    rw [Part.map, Part.isUnfit, hkeys, List.isEmpty_iff]
    rfl

/-- **The meaning of typed words**: a shared preposition is a fault of the vocabulary, a phrase
that no noun fits is a misreading, and otherwise every part becomes its groups. -/
theorem Sound.meaning_cases (h : world.Sound) (verbs : List Word) :
    ((∃ t ∈ ts, world.IsSharedPreposition t) ∧
      ∃ spelling, world.meaning verbs (ts.map world.place) =
        .error (.ambiguousPreposition spelling)) ∨
    ((∀ t ∈ ts, ¬world.IsSharedPreposition t) ∧
      (∃ part ∈ world.wordParts ts, world.IsUnfitPart part) ∧
      ∃ number, world.meaning verbs (ts.map world.place) =
        .error (.noConsistentNoun number)) ∨
    ((∀ t ∈ ts, ¬world.IsSharedPreposition t) ∧
      (∀ part ∈ world.wordParts ts, ¬world.IsUnfitPart part) ∧
      world.meaning verbs (ts.map world.place) =
        .ok (.verb verbs :: (world.wordParts ts).flatMap world.wordGroups)) := by
  rw [meaning, h.parts_places]
  cases hclash : AmbiguityGroup.clash? (ts.map world.place) with
  | some spelling =>
    refine Or.inl ⟨?_, spelling, rfl⟩
    by_contra hnone
    refine absurd (h.clash?_places_eq_none_iff.mpr fun t ht hshared => hnone ⟨t, ht, hshared⟩) ?_
    rw [hclash]
    simp
  | none =>
    have hshared := h.clash?_places_eq_none_iff.mp hclash
    cases hfind : ((world.wordParts ts).map (Part.map world.place)).findIdx?
        (Part.isUnfit world) with
    | some i =>
      refine Or.inr (Or.inl ⟨hshared, ?_, i + 1, rfl⟩)
      -- the number of the part is of no use here, only that there is one
      have hsome : (((world.wordParts ts).map (Part.map world.place)).findIdx?
          (Part.isUnfit world)).isSome = true := by rw [hfind]; rfl
      rw [List.findIdx?_isSome, List.any_map] at hsome
      obtain ⟨part, hpart, hunfit⟩ := List.any_eq_true.mp hsome
      exact ⟨part, hpart, (isUnfit_map_place hplaces hpart).mp hunfit⟩
    | none =>
      rw [List.findIdx?_eq_none_iff, List.forall_mem_map] at hfind
      refine Or.inr (Or.inr ⟨hshared, fun part hpart hunfit => ?_, ?_⟩)
      · have hfit := hfind part hpart
        rw [(isUnfit_map_place hplaces hpart).mpr hunfit] at hfit
        exact absurd hfit (by simp)
      · rw [List.flatMap_map]
        dsimp only
        rw [List.flatMap_congr fun part hpart => groups_map_place hplaces hpart]

end Places

end World

/-! ### Reading typed words -/

namespace Context

variable {world : World} (h : world.Sound)
  (hsingle : ∀ w ∈ world.vocabulary, ∀ c ∈ w.spelling, isBlank c = false)
include h hsingle

/-- **An unknown word** leaves the text unmatched. -/
theorem readGroups_of_unknown {ts : List Text} (hts : ∀ t ∈ ts, t.IsWord ∧ t.AllTypable)
    (hunknown : ∃ t ∈ ts, ¬world.Knows t) :
    ∃ misreading, readGroups (Catalog.ofWorld world) (Text.unwords ts) = .error misreading ∧
      misreading.isUnmatched := by
  have hunknown' : ∃ t ∈ ts, ¬AmbiguityGroup.IsKnown world.vocabulary t := by
    obtain ⟨t, ht, hnot⟩ := hunknown
    refine ⟨t, ht, fun hknown => hnot ?_⟩
    obtain ⟨w, hw, hkey⟩ := hknown
    exact ⟨w, World.mem_words_of_mem_vocabulary hw, hkey⟩
  obtain ⟨misreading, hread, hunmatched⟩ :=
    AmbiguityGroup.read_unwords_of_unknown h.longestFirst hsingle hts hunknown'
  refine ⟨misreading, ?_, hunmatched⟩
  rw [readGroups, Catalog.words_ofWorld, hread]
  rfl

theorem readGroups_of_known {ts : List Text} (hts : ∀ t ∈ ts, t.IsWord ∧ t.AllTypable)
    (hknown : ∀ t ∈ ts, world.Knows t) :
    readGroups (Catalog.ofWorld world) (Text.unwords ts) =
      (AmbiguityGroup.gate (ts.map fun t => AmbiguityGroup.ofKey world.vocabulary t.lower) >>=
        Weaver.weave (Catalog.ofWorld world)) := by
  have hknown' : ∀ t ∈ ts, AmbiguityGroup.IsKnown world.vocabulary t := by
    refine fun t ht => (World.exists_mem_vocabulary_iff fun a b hab hkey => ?_).mpr (hknown t ht)
    exact (Word.key_eq_of_same hab).trans hkey
  rw [readGroups, Catalog.words_ofWorld,
    AmbiguityGroup.read_unwords_of_known h.longestFirst hsingle hts hknown']
  rfl

omit h hsingle in
theorem filter_fits_eq_nil_iff {position : Nat} {t : Text} :
    (AmbiguityGroup.ofKey world.vocabulary t.lower).filter (AmbiguityGroup.fits position) = [] ↔
      world.IsMisplaced position t := by
  have hwords : ∀ b : Bool, (∀ w ∈ world.vocabulary, w.key = t.lower → w.isVerb = b) ↔
      ∀ w ∈ world.words, w.key = t.lower → w.isVerb = b := by
    intro b
    have hiff := not_congr (@World.exists_mem_vocabulary_iff world
      (fun w => w.key = t.lower ∧ w.isVerb ≠ b) fun u v huv hv =>
        ⟨(Word.key_eq_of_same huv).trans hv.1, Word.isVerb_eq_of_same huv ▸ hv.2⟩)
    push Not at hiff
    exact hiff
  rw [List.filter_eq_nil_iff, World.IsMisplaced]
  simp only [AmbiguityGroup.mem_ofKey, AmbiguityGroup.fits, and_imp]
  split
  · simpa using hwords false
  · simpa using hwords true

/-- **A misplaced word** fails the gate, the first one of all. -/
theorem readGroups_of_misplaced {ts : List Text} (hts : ∀ t ∈ ts, t.IsWord ∧ t.AllTypable)
    (hknown : ∀ t ∈ ts, world.Knows t) {position : Nat}
    (hmisplaced : world.IsFirstMisplaced ts position) :
    readGroups (Catalog.ofWorld world) (Text.unwords ts) = .error (.partOfSpeech position) := by
  have hgate : AmbiguityGroup.gate
      (ts.map fun t => AmbiguityGroup.ofKey world.vocabulary t.lower) =
        .error (.partOfSpeech position) := by
    rw [AmbiguityGroup.gate, AmbiguityGroup.gateFrom_eq_error_iff]
    obtain ⟨⟨t, ht, hat⟩, hbefore⟩ := hmisplaced
    refine ⟨position, by rw [Nat.zero_add],
      ⟨AmbiguityGroup.ofKey world.vocabulary t.lower, ?_, ?_⟩, fun i hi group hgroup => ?_⟩
    · rw [List.getElem?_map, ht]
      rfl
    · rw [Nat.zero_add]
      exact filter_fits_eq_nil_iff.mpr hat
    · rw [List.getElem?_map] at hgroup
      obtain ⟨u, hu, rfl⟩ := Option.map_eq_some_iff.mp hgroup
      rw [Nat.zero_add]
      exact fun hnil => hbefore i hi u hu (filter_fits_eq_nil_iff.mp hnil)
  rw [readGroups_of_known h hsingle hts hknown, hgate]
  rfl

omit h hsingle in
/-- If some word is misplaced, one of them is the first. -/
theorem exists_isFirstMisplaced {ts : List Text} {position : Nat} {t : Text}
    (ht : ts[position]? = some t) (hmisplaced : world.IsMisplaced position t) :
    ∃ first, world.IsFirstMisplaced ts first := by
  induction position using Nat.strongRecOn generalizing t with
  | ind position ih =>
    by_cases hbefore : ∀ i < position, ∀ u, ts[i]? = some u → ¬world.IsMisplaced i u
    · exact ⟨position, ⟨t, ht, hmisplaced⟩, hbefore⟩
    · push Not at hbefore
      obtain ⟨i, hi, u, hu, hmis⟩ := hbefore
      exact ih i hi hu hmis

omit h hsingle in
theorem place_ne_nil_of_isPlaced {t : Text} {ts : List Text} (hplaced : world.IsPlaced (t :: ts)) :
    ∀ u ∈ ts, world.place u ≠ [] := by
  intro u hu hnil
  obtain ⟨i, hi, rfl⟩ := List.mem_iff_getElem.mp hu
  refine hplaced.2 (i + 1) ts[i] (by simp [hi]) (filter_fits_eq_nil_iff.mp ?_)
  rw [AmbiguityGroup.fits_succ]
  exact hnil

/-- **Words that are known and placed** mean what their places mean. -/
theorem readGroups_eq_meaning {t : Text} {ts : List Text}
    (hts : ∀ u ∈ t :: ts, u.IsWord ∧ u.AllTypable) (hplaced : world.IsPlaced (t :: ts)) :
    readGroups (Catalog.ofWorld world) (Text.unwords (t :: ts)) =
      world.meaning ((AmbiguityGroup.ofKey world.vocabulary t.lower).filter Word.isVerb)
        (ts.map world.place) := by
  have hplaces := place_ne_nil_of_isPlaced hplaced
  have hfirst : (AmbiguityGroup.ofKey world.vocabulary t.lower).filter Word.isVerb ≠ [] := by
    rw [← AmbiguityGroup.fits_zero]
    exact fun hnil => hplaced.2 0 t rfl (filter_fits_eq_nil_iff.mp hnil)
  -- the first place keeps its verbs, the others keep the rest, and none is left with nothing
  have hgate : AmbiguityGroup.gate
      ((t :: ts).map fun u => AmbiguityGroup.ofKey world.vocabulary u.lower) =
        .ok ((AmbiguityGroup.ofKey world.vocabulary t.lower).filter Word.isVerb ::
          ts.map world.place) := by
    rw [List.map_cons, AmbiguityGroup.gate_cons_eq_ok_iff, List.map_map]
    refine ⟨rfl, fun group hgroup => ?_⟩
    rcases List.mem_cons.mp hgroup with rfl | hgroup
    · exact hfirst
    · obtain ⟨u, hu, rfl⟩ := List.mem_map.mp hgroup
      exact hplaces u hu
  rw [readGroups_of_known h hsingle hts hplaced.1, hgate]
  refine Weaver.weave_eq_meaning h _ fun place hplace => ?_
  obtain ⟨u, hu, rfl⟩ := List.mem_map.mp hplace
  exact (World.IsPlace.of_objectWords_ne_nil (hplaces u hu)).2

/-- Nothing typed reads as an empty verb. -/
theorem readGroups_nil : readGroups (Catalog.ofWorld world) (Text.unwords []) = .ok [.verb []] := by
  rw [readGroups_of_known h hsingle (fun _ ht => absurd ht List.not_mem_nil)
    fun _ ht => absurd ht List.not_mem_nil]
  rfl

end Context

end CommandPrompt
