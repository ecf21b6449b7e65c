import CommandPrompt.Proofs.Outcome
import CommandPrompt.Proofs.Text.LowerCase
import CommandPrompt.World.Basic

/-!
# Worlds that were built

A world is built by adding verbs and nouns to an empty one (`World.Built`). Refused additions are
among the steps, because they leave their trace: they use up a number.

Everything that is known about such a world comes from `World.Sound`, which holds of the empty world
and is kept by both additions. It has two parts. The spellings of the entities can be typed and are
not empty, and those of verbs are in lower case; this is what drafts are checked for. And entities
are numbered in the order in which they are added, so that a number belongs to one entity only.
-/

namespace CommandPrompt

/-! ### Spellings -/

/-- A text that a word can be spelled with: not empty, and such that a player could type it. -/
structure Text.IsSpelling (t : Text) : Prop where
  ne_nil : t ≠ []
  isTypable : t.isTypable

theorem Text.IsSpelling.allTypable {t : Text} (h : t.IsSpelling) : t.AllTypable :=
  AllTypable.of_isTypable h.isTypable

theorem Text.IsSpelling.lower {t : Text} (h : t.IsSpelling) : t.lower.IsSpelling where
  ne_nil := fun hnil => h.ne_nil ((lower_eq_nil_iff h.allTypable).mp hnil)
  isTypable := isTypableAfter_lower h.isTypable

/-- What a verb is called by: its spelling, synonyms and shortcut, and its prepositions. -/
def Verb.spellings (verb : Verb) : List Text :=
  verb.spelling :: verb.synonyms ++ verb.shortcut.toList ++ verb.prepositions

/-- What a noun is called by: its names and its adjectives. -/
def Noun.spellings (noun : Noun) : List Text := noun.names ++ noun.adjectives

theorem Verb.map_spelling_words (verb : Verb) : verb.words.map Word.spelling = verb.spellings := by
  cases h : verb.shortcut <;> simp [Verb.words, Verb.spellings, h, Function.comp_def]

theorem Noun.map_spelling_words (noun : Noun) : noun.words.map Word.spelling = noun.spellings := by
  simp [Noun.words, Noun.spellings, Function.comp_def]

/-! ### Checked drafts -/

theorem Text.typable?_eq_ok {t u : Text} (h : t.typable? = .ok u) : u = t ∧ t.isTypable := by
  rw [Text.typable?] at h
  split at h
  · next ht => exact ⟨(Except.ok.inj h).symm, ht⟩
  · exact absurd h (by simp)

/-- A text that passes the check of a verb is lowered, and it was typable. -/
theorem Text.lowerTypable?_eq_ok {t u : Text} (h : t.lowerTypable? = .ok u) (hne : t ≠ []) :
    u.IsSpelling ∧ u.lower = u := by
  obtain ⟨v, hv, rfl⟩ := map_eq_ok_iff.mp h
  obtain ⟨rfl, htyp⟩ := Text.typable?_eq_ok hv
  exact ⟨Text.IsSpelling.lower ⟨hne, htyp⟩, Text.lower_lower (Text.AllTypable.of_isTypable htyp)⟩

/-- The checks that a list of a verb's words goes through. -/
private theorem forall_mem_of_mapM_lowerTypable? {ts us : List Text}
    (h : (ts.filter (!·.isEmpty)).mapM Text.lowerTypable? = .ok us) :
    ∀ u ∈ us, u.IsSpelling ∧ u.lower = u := by
  intro u hu
  obtain ⟨t, ht, heq⟩ := exists_of_mem_mapM h hu
  exact Text.lowerTypable?_eq_ok heq fun hnil => by simp [hnil] at ht

/-- **A verb that was not refused** has the number it was given, and lower-case spellings that can
be typed. -/
theorem Verb.ofDraft?_eq_ok {ref : Int} {draft : VerbDraft} {verb : Verb}
    (h : Verb.ofDraft? ref draft = .ok verb) :
    verb.ref = ref ∧ ∀ t ∈ verb.spellings, t.IsSpelling ∧ t.lower = t := by
  unfold Verb.ofDraft? at h
  dsimp only at h
  split at h
  · exact absurd h (by simp [throw, throwThe, MonadExceptOf.throw, bind, Except.bind])
  next hblank =>
  obtain ⟨spelling, hspelling, h⟩ := bind_eq_ok_iff.mp h
  obtain ⟨synonyms, hsynonyms, h⟩ := bind_eq_ok_iff.mp h
  -- an empty shortcut is none, and any other goes through the same check as the spelling
  obtain ⟨shortcut, hshortcut, h⟩ : ∃ shortcut : Option Text,
      (∀ t ∈ shortcut, t.IsSpelling ∧ t.lower = t) ∧
      (do let prepositions ← (draft.prepositions.filter (!·.isEmpty)).mapM Text.lowerTypable?
          pure { ref, spelling, synonyms, shortcut, prepositions }) = Except.ok verb := by
    split at h
    · exact ⟨none, fun t ht => absurd ht (by simp), h⟩
    · next hne =>
      obtain ⟨shortcut, hshortcut, h⟩ := bind_eq_ok_iff.mp h
      obtain ⟨u, hu, rfl⟩ := map_eq_ok_iff.mp hshortcut
      refine ⟨some u, fun t ht => ?_, h⟩
      obtain rfl : u = t := by simpa using ht
      exact Text.lowerTypable?_eq_ok hu fun hnil => hne (by rw [hnil]; rfl)
  obtain ⟨prepositions, hprepositions, h⟩ := bind_eq_ok_iff.mp h
  obtain rfl := Except.ok.inj h
  refine ⟨rfl, fun t ht => ?_⟩
  simp only [spellings, List.mem_append, List.mem_cons, Option.mem_toList] at ht
  rcases ht with ((rfl | ht) | ht) | ht
  · exact Text.lowerTypable?_eq_ok hspelling fun hnil => hblank (by rw [hnil]; rfl)
  · exact forall_mem_of_mapM_lowerTypable? hsynonyms t ht
  · exact hshortcut t ht
  · exact forall_mem_of_mapM_lowerTypable? hprepositions t ht

private theorem forall_mem_of_mapM_typable? {ts us : List Text}
    (h : ts.mapM Text.typable? = .ok us) (hne : ∀ t ∈ ts, t ≠ []) : ∀ u ∈ us, u.IsSpelling := by
  intro u hu
  obtain ⟨t, ht, heq⟩ := exists_of_mem_mapM h hu
  obtain ⟨rfl, htyp⟩ := Text.typable?_eq_ok heq
  exact ⟨hne u ht, htyp⟩

/-- **A noun that was not refused** has the number it was given, and spellings that can be typed.
-/
theorem Noun.ofDraft?_eq_ok {ref : Int} {draft : NounDraft} {noun : Noun}
    (h : Noun.ofDraft? ref draft = .ok noun) :
    noun.ref = ref ∧ ∀ t ∈ noun.spellings, t.IsSpelling := by
  unfold Noun.ofDraft? at h
  split at h
  · exact absurd h (by simp [throw, throwThe, MonadExceptOf.throw])
  · next first others hwords =>
    obtain ⟨primary, hprimary, h⟩ := bind_eq_ok_iff.mp h
    obtain ⟨alternatives, halternatives, h⟩ := bind_eq_ok_iff.mp h
    obtain ⟨adjectives, hadjectives, h⟩ := bind_eq_ok_iff.mp h
    obtain rfl := Except.ok.inj h
    -- names are the words of a text, and no word is empty
    have hne : ∀ t ∈ first :: others, t ≠ [] := by
      intro t ht
      rw [← hwords, Text.words, List.mem_filter] at ht
      rintro rfl
      exact absurd ht.2 (by simp)
    refine ⟨rfl, fun t ht => ?_⟩
    simp only [spellings, names, List.mem_append, List.mem_cons] at ht
    rcases ht with (rfl | ht) | ht
    · obtain ⟨rfl, htyp⟩ := Text.typable?_eq_ok hprimary
      exact ⟨hne t List.mem_cons_self, htyp⟩
    · exact forall_mem_of_mapM_typable? halternatives
        (fun t ht => hne t (List.mem_cons_of_mem first ht)) t ht
    · refine forall_mem_of_mapM_typable? hadjectives (fun t ht => ?_) t ht
      rintro rfl
      exact absurd (List.mem_filter.mp ht).2 (by simp [Text.isAllBlank])

/-! ### Building -/

/-- The worlds that can be built: an empty world, and what additions make of a built world. -/
inductive World.Built : World → Prop where
  /-- Nothing was added yet. -/
  | empty (title author : Text) : Built { title, author }
  /-- A verb was added, or its draft was refused. -/
  | addVerb {world : World} (h : Built world) (draft : VerbDraft) : Built (world.addVerb draft).1
  /-- A noun was added, or its draft was refused. -/
  | addNoun {world : World} (h : Built world) (draft : NounDraft) : Built (world.addNoun draft).1

/-- What holds of every world that was built. -/
structure World.Sound (world : World) : Prop where
  /-- The spellings of verbs can be typed and are in lower case. -/
  verb_spelling : ∀ v ∈ world.verbs, ∀ t ∈ v.spellings, t.IsSpelling ∧ t.lower = t
  /-- The spellings of nouns can be typed. -/
  noun_spelling : ∀ n ∈ world.nouns, ∀ t ∈ n.spellings, t.IsSpelling
  /-- Numbers are given out before they are used. -/
  verb_ref_le : ∀ v ∈ world.verbs, v.ref ≤ world.issued
  noun_ref_le : ∀ n ∈ world.nouns, n.ref ≤ world.issued
  /-- Verbs stand in the order of their numbers, and no two share one. -/
  verbs_lt : world.verbs.Pairwise (·.ref < ·.ref)
  nouns_lt : world.nouns.Pairwise (·.ref < ·.ref)
  /-- A verb and a noun have different numbers. -/
  ref_ne : ∀ v ∈ world.verbs, ∀ n ∈ world.nouns, v.ref ≠ n.ref

namespace World

theorem Sound.empty (title author : Text) : Sound { title, author } where
  verb_spelling := fun _ h => absurd h List.not_mem_nil
  noun_spelling := fun _ h => absurd h List.not_mem_nil
  verb_ref_le := fun _ h => absurd h List.not_mem_nil
  noun_ref_le := fun _ h => absurd h List.not_mem_nil
  verbs_lt := List.Pairwise.nil
  nouns_lt := List.Pairwise.nil
  ref_ne := fun _ h => absurd h List.not_mem_nil

/-- Giving out a number changes nothing else. -/
theorem Sound.issue {world : World} (h : world.Sound) :
    Sound { world with issued := world.issued + 1 } where
  verb_spelling := h.verb_spelling
  noun_spelling := h.noun_spelling
  verb_ref_le := fun v hv => by have := h.verb_ref_le v hv; push_cast; omega
  noun_ref_le := fun n hn => by have := h.noun_ref_le n hn; push_cast; omega
  verbs_lt := h.verbs_lt
  nouns_lt := h.nouns_lt
  ref_ne := h.ref_ne

theorem Sound.addVerb {world : World} (h : world.Sound) (draft : VerbDraft) :
    (world.addVerb draft).1.Sound := by
  rw [World.addVerb]
  split
  · next verb hverb =>
    obtain ⟨href, hspelling⟩ := Verb.ofDraft?_eq_ok hverb
    have hissue := h.issue
    -- the number is a new one, above all that were given out
    have hlt : ∀ v ∈ world.verbs, v.ref < verb.ref := by
      intro v hv
      have := h.verb_ref_le v hv
      omega
    refine ⟨?_, hissue.noun_spelling, ?_, hissue.noun_ref_le, ?_, hissue.nouns_lt, ?_⟩
    · intro v hv
      rcases List.mem_append.mp hv with hv | hv
      · exact h.verb_spelling v hv
      · exact List.mem_singleton.mp hv ▸ hspelling
    · intro v hv
      rcases List.mem_append.mp hv with hv | hv
      · exact hissue.verb_ref_le v hv
      · obtain rfl := List.mem_singleton.mp hv
        exact Int.le_of_eq href
    · refine List.pairwise_append.mpr ⟨h.verbs_lt, List.pairwise_singleton _ _, ?_⟩
      intro v hv v' hv'
      exact List.mem_singleton.mp hv' ▸ hlt v hv
    · intro v hv n hn
      rcases List.mem_append.mp hv with hv | hv
      · exact h.ref_ne v hv n hn
      · have := h.noun_ref_le n hn
        rw [List.mem_singleton.mp hv]
        omega
  · exact h.issue

theorem Sound.addNoun {world : World} (h : world.Sound) (draft : NounDraft) :
    (world.addNoun draft).1.Sound := by
  rw [World.addNoun]
  split
  · next noun hnoun =>
    obtain ⟨href, hspelling⟩ := Noun.ofDraft?_eq_ok hnoun
    have hissue := h.issue
    -- the new number is above all that were issued before
    have hlt : ∀ n ∈ world.nouns, n.ref < noun.ref := by
      intro n hn
      have := h.noun_ref_le n hn
      omega
    refine ⟨hissue.verb_spelling, ?_, hissue.verb_ref_le, ?_, hissue.verbs_lt, ?_, ?_⟩
    · intro n hn
      rcases List.mem_append.mp hn with hn | hn
      · exact h.noun_spelling n hn
      · exact List.mem_singleton.mp hn ▸ hspelling
    · intro n hn
      rcases List.mem_append.mp hn with hn | hn
      · exact hissue.noun_ref_le n hn
      · obtain rfl := List.mem_singleton.mp hn
        exact Int.le_of_eq href
    · refine List.pairwise_append.mpr ⟨h.nouns_lt, List.pairwise_singleton _ _, ?_⟩
      intro n hn n' hn'
      exact List.mem_singleton.mp hn' ▸ hlt n hn
    · intro v hv n hn
      rcases List.mem_append.mp hn with hn | hn
      · exact h.ref_ne v hv n hn
      · have := h.verb_ref_le v hv
        rw [List.mem_singleton.mp hn]
        omega
  · exact h.issue

/-- **Every world that was built is sound.** -/
theorem Built.sound {world : World} (h : world.Built) : world.Sound := by
  induction h with
  | empty title author => exact Sound.empty title author
  | addVerb _ draft ih => exact ih.addVerb draft
  | addNoun _ draft ih => exact ih.addNoun draft

end World

end CommandPrompt
