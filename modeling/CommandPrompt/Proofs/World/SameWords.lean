import CommandPrompt.Proofs.World.Catalog
import Mathlib.Data.List.Forall2
import Mathlib.Data.List.Sort

/-!
# Catalogs of the same words

A catalog is made from a list of words. What it holds does not depend on the order of the list, on
how often a word is repeated in it, or on which of several same words is listed: lists with the same
classes of words have catalogs that are alike (`Catalog.ofWords_keeps_classes`).

Words are told apart by key, number and part of speech, but they are ordered by the length of their
spelling first. The two go together because lower-casing keeps the length of every spelling that
comes out typable. So the order goes by identity (`Word.order_eq_order_identity`), and a vocabulary
in order is determined by the identities in it (`map_identity_sort_distinct`). Everything that a
catalog holds, but for the nouns themselves and for how words are written, is read off this one list
(`Catalog.map_outline_profiles`).
-/

namespace CommandPrompt

namespace Word

/-- Two lists have the same classes of words if every word of one is the same as a word of the
other. -/
structure SameClasses (words words' : List Word) : Prop where
  left : ∀ w ∈ words, ∃ w' ∈ words', same w w'
  right : ∀ w' ∈ words', ∃ w ∈ words, same w w'

/-- The classes of a list are told by the identities in it. -/
theorem SameClasses.mem_map_identity_iff {words words' : List Word} (h : SameClasses words words')
    (i : Identity) : i ∈ words.map identity ↔ i ∈ words'.map identity := by
  rw [List.mem_map, List.mem_map]
  constructor
  · rintro ⟨w, hw, rfl⟩
    obtain ⟨w', hw', hsame⟩ := h.left w hw
    exact ⟨w', hw', (same_iff_identity_eq.mp hsame).symm⟩
  · rintro ⟨w', hw', rfl⟩
    obtain ⟨w, hw, hsame⟩ := h.right w' hw'
    exact ⟨w, hw, same_iff_identity_eq.mp hsame⟩

/-- A spelling that comes out typable in lower case is as long as its key. -/
theorem length_key {w : Word} (h : w.key.AllTypable) : w.key.length = w.spelling.length :=
  Text.length_lower_of_forall_lt fun c hc => lt_of_isTypableChar (h c hc)

section Vocabulary

variable {words words' : List Word}

/-- Making a vocabulary loses no class and adds none. -/
theorem mem_map_identity_sort_distinct (i : Identity) :
    i ∈ (sort (distinct words)).map identity ↔ i ∈ words.map identity := by
  rw [List.mem_map, List.mem_map]
  constructor
  · rintro ⟨w, hw, rfl⟩
    exact ⟨w, mem_of_mem_sort_distinct hw, rfl⟩
  · rintro ⟨w, hw, rfl⟩
    obtain ⟨u, hu, hsame⟩ := exists_same_sort_distinct hw
    exact ⟨u, hu, same_iff_identity_eq.mp hsame⟩

/-- The identities of a vocabulary are strictly ordered, too. -/
theorem pairwise_identity_sort_distinct (hkeys : ∀ w ∈ words, w.key.AllTypable) :
    ((sort (distinct words)).map identity).Pairwise fun i j => i.order j = .lt := by
  rw [List.pairwise_map]
  refine (pairwise_before_sort_distinct words).imp_of_mem fun {a b} ha hb hab => ?_
  have hlength : ∀ w ∈ sort (distinct words), w.key.length = w.spelling.length :=
    fun w hw => length_key (hkeys w (mem_of_mem_sort_distinct hw))
  rw [← order_eq_order_identity (hlength a ha) (hlength b hb)]
  exact beq_iff_eq.mp hab

/-- **A vocabulary in order is determined by its classes.** -/
theorem map_identity_sort_distinct (hkeys : ∀ w ∈ words, w.key.AllTypable)
    (h : SameClasses words words') :
    (sort (distinct words)).map identity = (sort (distinct words')).map identity := by
  have hirrefl : Std.Irrefl fun i j : Identity => i.order j = .lt :=
    ⟨fun i hi => by
      rw [@Std.ReflCmp.compare_self _ Identity.order] at hi
      exact absurd hi (by decide)⟩
  have hantisymm : Std.Antisymm fun i j : Identity => i.order j = .lt :=
    ⟨fun i j hij hji => by
      rw [@Std.OrientedCmp.eq_swap _ Identity.order, hji] at hij
      exact absurd hij (by decide)⟩
  -- the second list may be written otherwise, but its keys are those of the first
  have hkeys' : ∀ w' ∈ words', w'.key.AllTypable := by
    intro w' hw'
    obtain ⟨w, hw, hsame⟩ := h.right w' hw'
    exact key_eq_of_same hsame ▸ hkeys w hw
  -- strictly ordered lists with the same members are equal
  apply List.Pairwise.eq_of_mem_iff (pairwise_identity_sort_distinct hkeys)
    (pairwise_identity_sort_distinct hkeys')
  intro i
  rw [mem_map_identity_sort_distinct, mem_map_identity_sort_distinct]
  exact h.mem_map_identity_iff i

end Vocabulary

/-- Lists are pairwise the same if their identities are equal. -/
theorem forall₂_same_iff {words words' : List Word} :
    List.Forall₂ (fun a b => same a b) words words' ↔
      words.map identity = words'.map identity := by
  rw [← List.forall₂_eq_eq_eq, List.forall₂_map_left_iff, List.forall₂_map_right_iff]
  have hsame : (fun a b : Word => same a b = true) = fun a b => a.identity = b.identity := by
    funext a b
    exact propext same_iff_identity_eq
  rw [hsame]

end Word

/-! ### Profiles -/

/-- Two profiles are alike if they have one number, pairwise the same words, and the same names. -/
structure Profile.Alike (profile profile' : Profile) : Prop where
  key : profile.key = profile'.key
  words : List.Forall₂ (fun a b => Word.same a b) profile.words profile'.words
  names : profile.names = profile'.names

/-- The names of a profile can be told from what makes its words. -/
theorem Profile.names_eq (profile : Profile) :
    profile.names = (((profile.words.map Word.identity).filter
      (·.partOfSpeech == .noun)).map Word.Identity.key).eraseDups := by
  rw [names, List.filter_map, List.map_map]
  rfl

theorem Profile.alike_of_outline_eq {profile profile' : Profile}
    (h : profile.outline = profile'.outline) : profile.Alike profile' := by
  obtain ⟨hkey, hwords⟩ := Prod.mk.inj h
  exact ⟨hkey, Word.forall₂_same_iff.mpr hwords, by rw [names_eq, names_eq, hwords]⟩

/-! ### Catalogs -/

namespace Catalog

/-- A catalog lists words if it has one word of every class of them, and its words are strictly
ordered; so no spelling is longer than one before it. -/
structure ListsClasses (catalog : Catalog) (words : List Word) : Prop where
  before : catalog.words.Pairwise fun a b => Word.before a b
  length_le : catalog.words.Pairwise fun a b => b.spelling.length ≤ a.spelling.length
  mem : ∀ w ∈ catalog.words, w ∈ words
  existsUnique : ∀ w ∈ words, ∃! u, u ∈ catalog.words ∧ Word.same u w

/-- Two catalogs are alike if their words are pairwise the same and their profiles pairwise alike.
-/
structure Alike (catalog catalog' : Catalog) : Prop where
  words : List.Forall₂ (fun a b => Word.same a b) catalog.words catalog'.words
  profiles : List.Forall₂ Profile.Alike catalog.profiles catalog'.profiles

theorem listsClasses_ofWords (words : List Word) : (ofWords words).ListsClasses words where
  before := Word.pairwise_before_sort_distinct words
  length_le := (Word.pairwise_sort _).imp Word.length_le_of_order_isLE
  mem := fun _ hw => Word.mem_of_mem_sort_distinct hw
  existsUnique := by
    intro w hw
    obtain ⟨u, hu, hsame⟩ := Word.exists_same_sort_distinct hw
    refine ⟨u, ⟨hu, hsame⟩, ?_⟩
    rintro v ⟨hv, hvsame⟩
    -- two words that stand for one class would be the same, and none of them are
    apply (Word.different_distinct words).eq_of_same (Word.mem_sort.mp hv) (Word.mem_sort.mp hu)
    rw [Word.same_iff_identity_eq] at hsame hvsame ⊢
    exact hvsame.trans hsame.symm

/-- Everything else in a catalog follows what makes its words. -/
theorem alike_of_identities_eq {words words' : List Word}
    (h : (ofWords words).identities = (ofWords words').identities) :
    (ofWords words).Alike (ofWords words') where
  words := Word.forall₂_same_iff.mpr h
  profiles := by
    -- outlines are equal, which is more than that profiles are pairwise alike
    have houtlines : (ofWords words).profiles.map Profile.outline =
        (ofWords words').profiles.map Profile.outline := by
      rw [map_outline_profiles, map_outline_profiles, h]
    rw [← List.forall₂_eq_eq_eq, List.forall₂_map_left_iff, List.forall₂_map_right_iff] at houtlines
    exact houtlines.imp fun _ _ => Profile.alike_of_outline_eq

/-- **A catalog does not depend on the order or the repetitions of its words**, nor on which of
several same words is listed: it lists the classes of words, and lists with the same classes have
catalogs that are alike. -/
theorem ofWords_keeps_classes (words : List Word) (htypable : ∀ w ∈ words, w.spelling.isTypable) :
    (ofWords words).ListsClasses words ∧
      ∀ words', Word.SameClasses words words' → (ofWords words).Alike (ofWords words') := by
  refine ⟨listsClasses_ofWords words, fun words' h => ?_⟩
  have hkeys : ∀ w ∈ words, w.key.AllTypable :=
    fun w hw => (Text.AllTypable.of_isTypable (htypable w hw)).lower
  exact alike_of_identities_eq (Word.map_identity_sort_distinct hkeys h)

/-- A red rock, as a noun. -/
def redRock : Noun := ⟨1, "rock".toList, [], ["red".toList]⟩

/-- Its words, each of them once. -/
def rockWords : List Word :=
  [⟨"red".toList, .adjective redRock, none⟩, ⟨"rock".toList, .noun redRock, none⟩]

/-- The same words in the other order, one of them repeated, and one with a sign for degrees Kelvin
in the place of its last letter. -/
def rockWords' : List Word :=
  [⟨['r', 'o', 'c', Char.ofNat 0x212A], .noun redRock, none⟩,
    ⟨"RED".toList, .adjective redRock, none⟩, ⟨"red".toList, .adjective redRock, none⟩]

theorem ofWords_rockWords :
    (∀ w ∈ rockWords, w.spelling.isTypable) ∧ Word.SameClasses rockWords rockWords' ∧
      (ofWords rockWords).ListsClasses rockWords ∧
      (ofWords rockWords).Alike (ofWords rockWords') := by
  have htypable : ∀ w ∈ rockWords, w.spelling.isTypable := by decide
  have hclasses : Word.SameClasses rockWords rockWords' := ⟨by decide, by decide⟩
  obtain ⟨hlists, halike⟩ := ofWords_keeps_classes rockWords htypable
  exact ⟨htypable, hclasses, hlists, halike rockWords' hclasses⟩

end Catalog

end CommandPrompt
