import CommandPrompt.Proofs.World.Catalog
import CommandPrompt.World.Loose
import Mathlib.Data.List.Nodup

/-!
# Worlds addition by addition

A world comes about by additions of verbs and nouns in any order, some of which are refused. Here
they are made one after another, and what becomes of each is noted (`World.addEach`).

An addition does one of three things (`World.add_cases`). It is refused and uses up a number, or it
puts a verb, or a noun, of the next number behind the others. So the notes tell the world
(`World.ToldBy`): its verbs and nouns are those that were noted, and the number of each is the place
of its note. Hence numbers increase from note to note, whatever was refused in between.

The catalog of a world finds nouns by number. As no two nouns have one number, it has one profile
for every noun, which holds the words of that noun and no others (`Catalog.ProfilesEach`).
-/

namespace CommandPrompt

/-! ### Additions -/

/-- A verb or a noun. -/
inductive Entity where
  | verb (verb : Verb)
  | noun (noun : Noun)
  deriving DecidableEq

namespace Entity

/-- The number of the entity. -/
def ref : Entity → Int
  | verb v => v.ref
  | noun n => n.ref

/-- The entity as a verb. -/
def verb? : Entity → Option Verb
  | verb v => some v
  | noun _ => none

/-- The entity as a noun. -/
def noun? : Entity → Option Noun
  | verb _ => none
  | noun n => some n

end Entity

/-- What is to be added to a world: a verb or a noun, which may be described by values of any type.
-/
inductive Addition where
  | verb (draft : VerbDraft)
  | noun (draft : NounDraft)
  | looseVerb (values : LooseVerb)
  | looseNoun (values : LooseNoun)

namespace World

/-- Adds what is to be added, and notes what was added or why nothing was. -/
def add (world : World) : Addition → World × Except LooseFault Entity
  | .verb draft =>
    let (world, result) := world.addVerb draft
    (world, (result.mapError .refused).map .verb)
  | .noun draft =>
    let (world, result) := world.addNoun draft
    (world, (result.mapError .refused).map .noun)
  | .looseVerb values =>
    let (world, result) := world.addLooseVerb values
    (world, result.map .verb)
  | .looseNoun values =>
    let (world, result) := world.addLooseNoun values
    (world, result.map .noun)

/-- Makes additions one after another, and notes what becomes of each. -/
def addEach (world : World) (additions : List Addition) :
    World × List (Except LooseFault Entity) :=
  additions.foldl (fun (world, results) addition =>
    let (world', result) := world.add addition
    (world', results ++ [result])) (world, [])

theorem addEach_concat (world : World) (additions : List Addition) (addition : Addition) :
    world.addEach (additions ++ [addition]) =
      let (world', results) := world.addEach additions
      ((world'.add addition).1, results ++ [(world'.add addition).2]) := by
  rw [addEach, List.foldl_append]
  rfl

/-! ### One addition -/

/-- If values describe an entity, then so does the draft that was read from them. -/
theorem ofDraft?_of_conclude {α δ : Type} {fault : Option LooseFault}
    {ofDraft? : δ → Except Refusal α} {draft : δ} {entity : α}
    (h : Loose.conclude fault (ofDraft? draft) = .ok entity) : ofDraft? draft = .ok entity := by
  cases hdraft : ofDraft? draft with
  | error refusal =>
    rw [hdraft] at h
    exact absurd h (by simp [Loose.conclude])
  | ok found =>
    rw [hdraft] at h
    -- a fault behind what was read would have ended it
    cases fault with
    | none => rw [Except.ok.inj h]
    | some fault => exact absurd h (by simp [Loose.conclude])

theorem exists_ofDraft?_of_looseVerb {ref : Int} {values : LooseVerb} {verb : Verb}
    (h : Verb.ofLoose? ref values = .ok verb) : ∃ draft, Verb.ofDraft? ref draft = .ok verb := by
  rw [Verb.ofLoose?] at h
  split at h
  · exact absurd h (by simp)
  · exact ⟨_, ofDraft?_of_conclude h⟩

theorem exists_ofDraft?_of_looseNoun {ref : Int} {values : LooseNoun} {noun : Noun}
    (h : Noun.ofLoose? ref values = .ok noun) : ∃ draft, Noun.ofDraft? ref draft = .ok noun := by
  rw [Noun.ofLoose?] at h
  split at h
  · exact absurd h (by simp)
  · exact ⟨_, ofDraft?_of_conclude h⟩

/-- **An addition does one of three things.** It is refused and only uses up a number, or the verb,
or the noun, that some draft describes is added under the next number. -/
theorem add_cases (world : World) (addition : Addition) :
    (∃ fault, world.add addition = ({ world with issued := world.issued + 1 }, .error fault)) ∨
    (∃ draft verb, Verb.ofDraft? ((world.issued + 1 : Nat) : Int) draft = .ok verb ∧
      world.add addition = ({ world with
        issued := world.issued + 1, verbs := world.verbs ++ [verb] }, .ok (.verb verb))) ∨
    ∃ draft noun, Noun.ofDraft? ((world.issued + 1 : Nat) : Int) draft = .ok noun ∧
      world.add addition = ({ world with
        issued := world.issued + 1, nouns := world.nouns ++ [noun] }, .ok (.noun noun)) := by
  cases addition with
  | verb draft =>
    cases h : Verb.ofDraft? ((world.issued + 1 : Nat) : Int) draft with
    | error refusal => exact Or.inl ⟨.refused refusal, by rw [add, addVerb, h]; rfl⟩
    | ok verb => exact Or.inr (Or.inl ⟨draft, verb, h, by rw [add, addVerb, h]; rfl⟩)
  | noun draft =>
    cases h : Noun.ofDraft? ((world.issued + 1 : Nat) : Int) draft with
    | error refusal => exact Or.inl ⟨.refused refusal, by rw [add, addNoun, h]; rfl⟩
    | ok noun => exact Or.inr (Or.inr ⟨draft, noun, h, by rw [add, addNoun, h]; rfl⟩)
  -- values of any type describe an entity only if the draft that was read from them does
  | looseVerb values =>
    cases h : Verb.ofLoose? ((world.issued + 1 : Nat) : Int) values with
    | error fault => exact Or.inl ⟨fault, by rw [add, addLooseVerb, h]; rfl⟩
    | ok verb =>
      obtain ⟨draft, hdraft⟩ := exists_ofDraft?_of_looseVerb h
      exact Or.inr (Or.inl ⟨draft, verb, hdraft, by rw [add, addLooseVerb, h]; rfl⟩)
  | looseNoun values =>
    cases h : Noun.ofLoose? ((world.issued + 1 : Nat) : Int) values with
    | error fault => exact Or.inl ⟨fault, by rw [add, addLooseNoun, h]; rfl⟩
    | ok noun =>
      obtain ⟨draft, hdraft⟩ := exists_ofDraft?_of_looseNoun h
      exact Or.inr (Or.inr ⟨draft, noun, hdraft, by rw [add, addLooseNoun, h]; rfl⟩)

/-- Whatever is added to it, a built world stays a built one. -/
theorem Built.add {world : World} (h : world.Built) (addition : Addition) :
    (world.add addition).1.Built := by
  rcases world.add_cases addition with ⟨fault, hadd⟩ | ⟨draft, verb, hdraft, hadd⟩ |
    ⟨draft, noun, hdraft, hadd⟩
  · -- a number is used up by every refused draft, for instance one without a spelling
    rw [hadd]
    exact h.addVerb { spelling := [] }
  · have hverb := h.addVerb draft
    rw [World.addVerb, hdraft] at hverb
    rw [hadd]
    exact hverb
  · have hnoun := h.addNoun draft
    rw [World.addNoun, hdraft] at hnoun
    rw [hadd]
    exact hnoun

theorem Built.addEach {world : World} (h : world.Built) (additions : List Addition) :
    (world.addEach additions).1.Built := by
  induction additions using List.reverseRecOn with
  | nil => exact h
  | append_singleton additions addition ih =>
    rw [addEach_concat]
    exact ih.add addition

/-! ### What the notes tell -/

/-- The entities that were added, in the order of the notes. -/
def entities (results : List (Except LooseFault Entity)) : List Entity :=
  results.filterMap Except.toOption

theorem entities_error (fault : LooseFault) : entities [.error fault] = [] := rfl

theorem entities_ok (entity : Entity) : entities [.ok entity] = [entity] := rfl

theorem filterMap_noun?_verb (verb : Verb) : [Entity.verb verb].filterMap Entity.noun? = [] := rfl

theorem filterMap_verb?_noun (noun : Noun) : [Entity.noun noun].filterMap Entity.verb? = [] := rfl

/-- A world is told by notes if it has the entities that were noted, and every entity has the number
of its place among the notes. -/
structure ToldBy (world : World) (results : List (Except LooseFault Entity)) : Prop where
  issued : world.issued = results.length
  verbs : world.verbs = (entities results).filterMap Entity.verb?
  nouns : world.nouns = (entities results).filterMap Entity.noun?
  ref_eq : ∀ (i : Nat) (entity : Entity), results[i]? = some (.ok entity) → entity.ref = i + 1
  refs_lt : ((entities results).map Entity.ref).Pairwise (· < ·)

variable {world : World} {results : List (Except LooseFault Entity)}

theorem toldBy_empty (title author : Text) : ToldBy { title, author } [] where
  issued := rfl
  verbs := rfl
  nouns := rfl
  ref_eq := fun i entity h => absurd h (by simp)
  refs_lt := List.Pairwise.nil

theorem mem_entities {entity : Entity} :
    entity ∈ entities results ↔ ∃ i : Nat, results[i]? = some (Except.ok entity) := by
  rw [entities, List.mem_filterMap]
  constructor
  · rintro ⟨result, hresult, htoOption⟩
    obtain ⟨i, hi⟩ := List.getElem?_of_mem hresult
    refine ⟨i, hi.trans ?_⟩
    cases result with
    | error fault => exact absurd htoOption (by simp [Except.toOption])
    | ok found => rw [Option.some.inj htoOption]
  · rintro ⟨i, hi⟩
    exact ⟨.ok entity, List.mem_of_getElem? hi, rfl⟩

/-- A number that was noted was given out. -/
theorem ToldBy.ref_le (h : world.ToldBy results) {entity : Entity}
    (hentity : entity ∈ entities results) : entity.ref ≤ world.issued := by
  obtain ⟨i, hi⟩ := mem_entities.mp hentity
  have hlt : i < results.length := (List.getElem?_eq_some_iff.mp hi).1
  rw [h.ref_eq i entity hi, h.issued]
  omega

/-- **One note more** uses up a number, and adds what it notes under that number. -/
theorem ToldBy.concat (h : world.ToldBy results) (result : Except LooseFault Entity)
    (href : ∀ entity, result = .ok entity → entity.ref = world.issued + 1) :
    ToldBy { world with
      issued := world.issued + 1
      verbs := world.verbs ++ (entities [result]).filterMap Entity.verb?
      nouns := world.nouns ++ (entities [result]).filterMap Entity.noun? }
      (results ++ [result]) := by
  have happend : entities (results ++ [result]) = entities results ++ entities [result] :=
    List.filterMap_append
  constructor
  case issued => rw [List.length_append, h.issued]; rfl
  case verbs => rw [happend, List.filterMap_append, h.verbs]
  case nouns => rw [happend, List.filterMap_append, h.nouns]
  case ref_eq =>
    intro i entity hi
    rw [List.getElem?_append] at hi
    split at hi
    · exact h.ref_eq i entity hi
    · -- behind the old notes there is the new one only
      obtain ⟨hlt, hresult⟩ := List.getElem?_eq_some_iff.mp hi
      rw [List.length_singleton] at hlt
      rw [List.getElem_singleton] at hresult
      rw [href entity hresult, h.issued]
      omega
  case refs_lt =>
    rw [happend, List.map_append, List.pairwise_append]
    -- what is new comes under a number above all that were given out
    have hnew : ∀ entity ∈ entities [result], entity.ref = world.issued + 1 := by
      intro entity hentity
      obtain ⟨i, hi⟩ := mem_entities.mp hentity
      exact href entity (List.mem_singleton.mp (List.mem_of_getElem? hi)).symm
    refine ⟨h.refs_lt, ?_, ?_⟩
    · cases result with
      | error fault => exact List.Pairwise.nil
      | ok entity => exact List.pairwise_singleton _ _
    · intro ref href ref' href'
      obtain ⟨entity, hentity, rfl⟩ := List.mem_map.mp href
      obtain ⟨entity', hentity', rfl⟩ := List.mem_map.mp href'
      have hle := h.ref_le hentity
      rw [hnew entity' hentity']
      omega

/-- The notes tell the world after one addition more. -/
theorem ToldBy.add (h : world.ToldBy results) (addition : Addition) :
    (world.add addition).1.ToldBy (results ++ [(world.add addition).2]) := by
  rcases world.add_cases addition with ⟨fault, hadd⟩ | ⟨draft, verb, hdraft, hadd⟩ |
    ⟨draft, noun, hdraft, hadd⟩
  · have hconcat := h.concat (.error fault) fun entity hok => absurd hok (by simp)
    rw [entities_error, List.filterMap_nil, List.filterMap_nil, List.append_nil,
      List.append_nil] at hconcat
    rw [hadd]
    exact hconcat
  · have hconcat := h.concat (.ok (.verb verb)) (by
      rintro entity ⟨⟩
      exact (Verb.ofDraft?_eq_ok hdraft).1)
    rw [entities_ok, filterMap_noun?_verb, List.append_nil] at hconcat
    rw [hadd]
    exact hconcat
  · have hconcat := h.concat (.ok (.noun noun)) (by
      rintro entity ⟨⟩
      exact (Noun.ofDraft?_eq_ok hdraft).1)
    rw [entities_ok, filterMap_verb?_noun, List.append_nil] at hconcat
    rw [hadd]
    exact hconcat

theorem toldBy_addEach (title author : Text) (additions : List Addition) :
    (addEach { title, author } additions).1.ToldBy (addEach { title, author } additions).2 := by
  induction additions using List.reverseRecOn with
  | nil => exact toldBy_empty title author
  | append_singleton additions addition ih =>
    rw [addEach_concat]
    exact ih.add addition

theorem length_addEach (world : World) (additions : List Addition) :
    (world.addEach additions).2.length = additions.length := by
  induction additions using List.reverseRecOn with
  | nil => rfl
  | append_singleton additions addition ih =>
    rw [addEach_concat, List.length_append, List.length_append, ih]
    rfl

end World

/-! ### A profile for every noun -/

/-- A profile is of a noun if it has one word of every class of that noun's words, in order, and its
names are those of the noun in lower case. -/
structure Profile.IsOf (profile : Profile) (noun : Noun) : Prop where
  noun_eq : profile.noun = noun
  before : profile.words.Pairwise fun a b => Word.before a b
  mem : ∀ w ∈ profile.words, w ∈ noun.words
  exists_same : ∀ w ∈ noun.words, ∃ u ∈ profile.words, Word.same u w
  mem_names : ∀ key, key ∈ profile.names ↔ ∃ name ∈ noun.names, name.lower = key
  nodup_names : profile.names.Nodup

theorem Noun.isOf_profile (noun : Noun) : noun.profile.IsOf noun where
  noun_eq := rfl
  before := Word.pairwise_before_sort_distinct noun.words
  mem := fun _ hw => mem_profile_words hw
  exists_same := fun _ hw => exists_same_profile hw
  mem_names := fun key => (mem_names_profile noun key).trans List.mem_map
  nodup_names := nodup_eraseDups _

namespace Catalog

/-- A catalog profiles each of some nouns if its profiles are those of the nouns, and if the profile
of a noun is found by its number and by each word that is about it. -/
structure ProfilesEach (catalog : Catalog) (nouns : List Noun) : Prop where
  perm : catalog.profiles.Perm (nouns.map Noun.profile)
  isOf : ∀ noun ∈ nouns, noun.profile.IsOf noun
  nodup_key : (catalog.profiles.map Profile.key).Nodup
  profile?_ref : ∀ noun ∈ nouns, catalog.profile? noun.ref = some noun.profile
  profileFor?_own : ∀ w ∈ catalog.words, ∀ noun, w.noun? = some noun →
    noun ∈ nouns ∧ catalog.profileFor? w = some noun.profile
  profileFor?_other : ∀ w, w.noun? = none → catalog.profileFor? w = none

/-- No two nouns of a world have one number, so their profiles are different. -/
theorem nodup_map_profile {world : World} (h : world.Sound) :
    (world.nouns.map Noun.profile).Nodup := by
  apply List.Nodup.of_map Profile.key
  rw [List.map_map, List.nodup_iff_pairwise_ne, List.pairwise_map]
  exact h.nouns_lt.imp Int.ne_of_lt

theorem profilesEach_ofWorld {world : World} (h : world.Sound) :
    (ofWorld world).ProfilesEach world.nouns where
  perm := by
    -- both lists are without repetitions, so it is enough to compare their members
    apply (List.perm_ext_iff_of_nodup _ (nodup_map_profile h)).mpr
    · intro profile
      rw [mem_profiles h, List.mem_map]
    · exact List.Nodup.of_map Profile.key (nodup_key_profiles world.vocabulary)
  isOf := fun noun _ => noun.isOf_profile
  nodup_key := nodup_key_profiles world.vocabulary
  profile?_ref := fun _ hnoun => profile?_ref h hnoun
  profileFor?_own := by
    intro w hw noun hwnoun
    rw [words_ofWorld] at hw
    have hword := World.mem_words_of_mem_vocabulary hw
    refine ⟨(World.noun_of_mem_words hword hwnoun).1, ?_⟩
    rw [profileFor?_eq h hword, hwnoun, Option.map_some]
  profileFor?_other := by
    intro w hw
    rw [profileFor?, Word.profileKey, hw, Option.map_none, Option.bind_none]

end Catalog

namespace World

/-- **Numbers tell entities apart, and profiles tell nouns apart.** However additions are mixed, the
notes about them tell the world, whose catalog has one profile for every noun. An addition that is
refused, in any world, only uses up a number. -/
theorem addEach_tells_apart (title author : Text) (additions : List Addition) :
    (addEach { title, author } additions).2.length = additions.length ∧
      (addEach { title, author } additions).1.ToldBy (addEach { title, author } additions).2 ∧
      (Catalog.ofWorld (addEach { title, author } additions).1).ProfilesEach
        (addEach { title, author } additions).1.nouns ∧
      ∀ (world : World) (addition : Addition) (fault : LooseFault),
        (world.add addition).2 = .error fault →
          (world.add addition).1 = { world with issued := world.issued + 1 } ∧
          (world.add addition).1.vocabulary = world.vocabulary := by
  refine ⟨length_addEach _ additions, toldBy_addEach title author additions, ?_, ?_⟩
  · have hbuilt := (Built.empty title author).addEach additions
    exact Catalog.profilesEach_ofWorld hbuilt.sound
  · -- an addition that was refused is the first of the three things that it can be
    intro world addition fault herror
    rcases world.add_cases addition with ⟨fault', hadd⟩ | ⟨draft, verb, hdraft, hadd⟩ |
      ⟨draft, noun, hdraft, hadd⟩
    · rw [hadd]
      exact ⟨rfl, rfl⟩
    · rw [hadd] at herror
      exact absurd herror (by simp)
    · rw [hadd] at herror
      exact absurd herror (by simp)

/-- A lamp, a blank name, which is refused, and a verb with a preposition. -/
def lampAdditions : List Addition :=
  [.noun ⟨"Lamp lantern".toList, ["old".toList]⟩, .looseNoun ⟨.string " ".toList, []⟩,
    .verb { spelling := "take".toList, prepositions := ["from".toList] }]

theorem addEach_lampAdditions :
    (addEach {} lampAdditions).1.ToldBy (addEach {} lampAdditions).2 ∧
      (Catalog.ofWorld (addEach {} lampAdditions).1).ProfilesEach
        (addEach {} lampAdditions).1.nouns ∧
      (add {} (.looseNoun ⟨.string " ".toList, []⟩)).2 = .error (.refused .blankNoun) ∧
      (add {} (.looseNoun ⟨.string " ".toList, []⟩)).1.vocabulary = vocabulary {} := by
  obtain ⟨-, htold, hprofiles, hrefused⟩ := addEach_tells_apart [] [] lampAdditions
  have herror : (add {} (.looseNoun ⟨.string " ".toList, []⟩)).2 =
      .error (.refused .blankNoun) := by rfl
  exact ⟨htold, hprofiles, herror, (hrefused {} _ _ herror).2⟩

end World

end CommandPrompt
