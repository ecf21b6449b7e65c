import CommandPrompt.Document.Basic
import CommandPrompt.Proofs.Document.Reading
import CommandPrompt.Proofs.Text.NormalForm
import CommandPrompt.Proofs.Text.Spacing
import CommandPrompt.Proofs.World.Catalog

/-!
# Worlds from documents

The words of a document are checked twice. Reading it strips them, brings them to normal form, puts
those of verbs in lower case and then asks whether they can be typed. Building the world asks again,
in the order in which drafts are checked: blank or not, typable or not, and only then lower case.
The main result is that the second check has nothing to say. A document that is accepted is built,
its entities are numbered in the order in which they stand, and all words of its world are in normal
form (`build_of_ofFields`).

What the two checks agree on is `Text.IsPlain`: the word can be typed, and its last character is no
space. That reading yields such words has to be shown for any text that a document may hold
(`isPlain_of_verbWord`, `isPlain_of_adjective`, `isPlain_of_names`), and rests on what normal form
and lower case leave at the end of a text. From there on nothing but the drafts matters. A draft in
normal form passes its check and keeps its words (`Verb.ofDraft?_of_isNormal`,
`Noun.ofDraft?_of_isNormal`), and by induction on the entities so do all drafts of a document
(`build_eq_ok`).
-/

namespace CommandPrompt

/-! ### Plain words -/

/-- A text as a word of a document is left by reading it: it can be typed, and is neither empty nor
followed by a space. -/
structure Text.IsPlain (t : Text) : Prop where
  isTypable : t.isTypable
  endsInInk : t.EndsInInk

theorem Text.IsPlain.ne_nil {t : Text} (h : t.IsPlain) : t ≠ [] := h.endsInInk.ne_nil

theorem Text.IsPlain.not_isEmpty {t : Text} (h : t.IsPlain) : t.isEmpty = false :=
  List.isEmpty_eq_false_iff.mpr h.ne_nil

theorem Text.IsPlain.typable? {t : Text} (h : t.IsPlain) : t.typable? = .ok t := by
  unfold Text.typable?
  rw [if_pos h.isTypable]

/-- A typable text that is not empty has a letter in front, which is no blank. -/
theorem Text.IsPlain.not_isAllBlank {t : Text} (h : t.IsPlain) : t.isAllBlank = false := by
  obtain ⟨c, cs, rfl⟩ := List.exists_cons_of_ne_nil h.ne_nil
  have htyp : Text.isTypableAfter true (c :: cs) = true := h.isTypable
  simp only [Text.isTypableAfter, Bool.and_true, Bool.and_eq_true, Bool.not_eq_true'] at htyp
  unfold Text.isAllBlank
  rw [List.all_cons, htyp.1.1, Bool.false_and]

/-- A plain word of a verb, which is in lower case besides. -/
structure Text.IsPlainLower (t : Text) : Prop extends t.IsPlain where
  lower_eq : t.lower = t

theorem Text.IsPlainLower.lowerTypable? {t : Text} (h : t.IsPlainLower) :
    t.lowerTypable? = .ok t := by
  unfold Text.lowerTypable?
  rw [h.typable?]
  show Except.ok t.lower = Except.ok t
  rw [h.lower_eq]

/-- A word without blanks is plain if its characters can be typed. -/
theorem Text.IsWord.isPlain {t : Text} (h : t.IsWord) (ht : t.AllTypable) : t.IsPlain where
  isTypable := h.isTypableAfter ht true
  endsInInk := by
    apply endsInInk_of_forall h.ne_nil
    rintro c hc rfl
    exact absurd (h.not_blank ' ' hc) (by decide)

/-! ### Drafts in normal form -/

/-- The words of a verb's draft are plain, and none is repeated among synonyms or prepositions. -/
structure VerbDraft.IsNormal (draft : VerbDraft) : Prop where
  spelling : draft.spelling.IsPlainLower
  synonyms : ∀ t ∈ draft.synonyms, t.IsPlainLower
  shortcut : draft.shortcut ≠ [] → draft.shortcut.IsPlainLower
  prepositions : ∀ t ∈ draft.prepositions, t.IsPlainLower
  synonyms_nodup : draft.synonyms.Nodup
  prepositions_nodup : draft.prepositions.Nodup

/-- A noun's draft has a name, and its words are plain. -/
structure NounDraft.IsNormal (draft : NounDraft) : Prop where
  words_ne_nil : draft.names.words ≠ []
  names : ∀ t ∈ draft.names.words, t.IsPlain
  adjectives : ∀ t ∈ draft.adjectives, t.IsPlain

/-- All drafts of the document are in normal form. -/
structure Document.IsNormal (document : Document) : Prop where
  verbs : ∀ draft ∈ document.verbs, draft.IsNormal
  nouns : ∀ draft ∈ document.nouns, draft.IsNormal

/-! ### What reading lets through -/

namespace Document

theorem typable_eq_accepted_iff {t u : Text} :
    typable t = .accepted u ↔ t = u ∧ t.isTypable = true := by
  unfold typable
  -- the empty text, which is let through without a check, would pass it
  by_cases hnil : t = []
  · subst hnil
    simp [Text.isTypable, Text.isTypableAfter]
  · rw [List.isEmpty_eq_false_iff.mpr hnil, Bool.false_or]
    split <;> simp_all [Reading.reject]

/-- A text that is more than blanks does not end in a space once it is plain. -/
theorem endsInInk_plain {t : Text} (h : t.strip ≠ []) : (plain t).EndsInInk :=
  Text.endsInInk_normalForm h (Text.isBlank_getLast?_strip t)

theorem isPlain_of_verbWord {value : Json} {t : Text} (h : verbWord value = .accepted t)
    (hne : t ≠ []) : t.IsPlainLower := by
  obtain ⟨written, -, h⟩ := Reading.andThen_eq_accepted_iff.mp h
  obtain ⟨rfl, htyp⟩ := typable_eq_accepted_iff.mp h
  -- of a text that holds nothing but blanks no word would be left
  have hstrip : written.strip ≠ [] := by
    intro hnil
    apply hne
    unfold plain
    rw [hnil]
    rfl
  exact {
    isTypable := htyp
    endsInInk := Text.endsInInk_lower (endsInInk_plain hstrip)
    lower_eq := Text.lower_lower_of_typable (Text.AllTypable.of_isTypable htyp) }

theorem isPlain_of_spelling {value : Json} {t : Text} (h : spelling value = .accepted t) :
    t.IsPlainLower := by
  obtain ⟨word, hword, h⟩ := Reading.andThen_eq_accepted_iff.mp h
  split at h
  · exact absurd h (by simp [Reading.reject])
  · next hempty =>
    obtain rfl := Reading.accepted.inj h
    exact isPlain_of_verbWord hword fun hnil => hempty (by rw [hnil]; rfl)

/-- The words of a verb are plain, and none is repeated. -/
theorem isPlain_of_verbWords {value : Json} {ts : List Text} (h : verbWords value = .accepted ts) :
    ts.Nodup ∧ ∀ t ∈ ts, t.IsPlainLower := by
  obtain ⟨values, -, h⟩ := Reading.andThen_eq_accepted_iff.mp h
  obtain ⟨words, hwords, rfl⟩ := Reading.map_eq_accepted_iff.mp h
  refine ⟨nodup_eraseDups _, ?_⟩
  intro t ht
  rw [List.mem_eraseDups, List.mem_filter] at ht
  obtain ⟨hmem, hne⟩ := ht
  obtain ⟨word, -, hword⟩ :=
    exists_of_mem_forall₂ (Reading.sequence_eq_accepted_iff.mp hwords) hmem
  apply isPlain_of_verbWord hword
  rintro rfl
  exact absurd hne (by simp)

theorem isPlain_of_adjective {value : Json} {t : Text} (h : adjective value = .accepted (some t)) :
    t.IsPlain := by
  obtain ⟨written, -, h⟩ := Reading.andThen_eq_accepted_iff.mp h
  split at h
  · exact absurd h (by simp)
  · next hblank =>
    obtain ⟨u, hu, heq⟩ := Reading.map_eq_accepted_iff.mp h
    obtain rfl := Option.some.inj heq
    obtain ⟨rfl, htyp⟩ := typable_eq_accepted_iff.mp hu
    exact ⟨htyp, endsInInk_plain fun hnil => hblank (Text.isAllBlank_of_strip_eq_nil hnil)⟩

theorem isPlain_of_adjectives {value : Json} {ts : List Text}
    (h : adjectives value = .accepted ts) : ∀ t ∈ ts, t.IsPlain := by
  obtain ⟨values, -, h⟩ := Reading.andThen_eq_accepted_iff.mp h
  obtain ⟨words, hwords, rfl⟩ := Reading.map_eq_accepted_iff.mp h
  intro t ht
  obtain ⟨word, hword, heq⟩ := List.mem_filterMap.mp ht
  obtain rfl : word = some t := heq
  obtain ⟨value, -, hread⟩ :=
    exists_of_mem_forall₂ (Reading.sequence_eq_accepted_iff.mp hwords) hword
  exact isPlain_of_adjective hread

/-- The names of a noun are plain, and there is one. -/
theorem isPlain_of_names {value : Json} {t : Text} (h : names value = .accepted t) :
    t.words ≠ [] ∧ ∀ name ∈ t.words, name.IsPlain := by
  obtain ⟨written, -, h⟩ := Reading.andThen_eq_accepted_iff.mp h
  dsimp only at h
  split at h
  · exact absurd h (by simp [Reading.reject])
  · next hempty =>
    obtain ⟨rfl, htyp⟩ := typable_eq_accepted_iff.mp h
    constructor
    · -- joined by single spaces, the names are split into the same words again
      rw [Text.words_unwords fun name hname => Text.isWord_of_mem_words hname]
      intro hnil
      apply hempty
      rw [hnil]
      rfl
    · intro name hname
      have ht := Text.allTypable_of_mem_words (Text.AllTypable.of_isTypable htyp) hname
      exact (Text.isWord_of_mem_words hname).isPlain ht

theorem isPlain_of_wordsField {fields : List (Text × Json)} {name : String} {ts : List Text}
    (h : Reading.field fields name (.accepted []) verbWords = .accepted ts) :
    ts.Nodup ∧ ∀ t ∈ ts, t.IsPlainLower := by
  rcases Reading.field_eq_accepted_iff.mp h with ⟨-, habsent⟩ | ⟨value, -, hread⟩
  · obtain rfl := Reading.accepted.inj habsent
    exact ⟨List.nodup_nil, fun t ht => absurd ht List.not_mem_nil⟩
  · exact isPlain_of_verbWords hread

/-- **A verb that is read is in normal form.** -/
theorem isNormal_of_verb {value : Json} {draft : VerbDraft} (h : verb value = .accepted draft) :
    draft.IsNormal := by
  unfold verb at h
  split at h
  · dsimp only at h
    obtain ⟨_, prepositions, hfront, hprepositions, rfl⟩ := Reading.both_eq_accepted_iff.mp h
    obtain ⟨_, shortcut, hwords, hshortcut, rfl⟩ := Reading.both_eq_accepted_iff.mp hfront
    obtain ⟨spelling, synonyms, hspelling, hsynonyms, rfl⟩ := Reading.both_eq_accepted_iff.mp hwords
    have hsynonyms := isPlain_of_wordsField hsynonyms
    have hprepositions := isPlain_of_wordsField hprepositions
    exact {
      spelling := by
        apply Reading.of_field hspelling
        · intro habsent
          exact absurd habsent (by simp [Reading.reject])
        · exact fun value => isPlain_of_spelling
      synonyms := hsynonyms.2
      shortcut := by
        apply Reading.of_field (P := fun t : Text => t ≠ [] → t.IsPlainLower) hshortcut
        · exact fun habsent hne => absurd (Reading.accepted.inj habsent).symm hne
        · exact fun value => isPlain_of_verbWord
      prepositions := hprepositions.2
      synonyms_nodup := hsynonyms.1
      prepositions_nodup := hprepositions.1 }
  · exact absurd h (by simp [Reading.reject])

/-- **A noun that is read is in normal form.** -/
theorem isNormal_of_noun {value : Json} {draft : NounDraft} (h : noun value = .accepted draft) :
    draft.IsNormal := by
  unfold noun at h
  split at h
  · obtain ⟨names, adjectives, hnames, hadjectives, rfl⟩ := Reading.both_eq_accepted_iff.mp h
    have hnames : names.words ≠ [] ∧ ∀ name ∈ names.words, name.IsPlain := by
      apply Reading.of_field hnames
      · intro habsent
        exact absurd habsent (by simp [Reading.reject])
      · exact fun value => isPlain_of_names
    refine ⟨hnames.1, hnames.2, ?_⟩
    apply Reading.of_field (P := fun ts : List Text => ∀ t ∈ ts, t.IsPlain) hadjectives
    · intro habsent t ht
      rw [← Reading.accepted.inj habsent] at ht
      exact absurd ht List.not_mem_nil
    · exact fun value => isPlain_of_adjectives
  · exact absurd h (by simp [Reading.reject])

/-- The values in a field that is to hold a list. There are none without the field. -/
def entries (fields : List (Text × Json)) (name : String) : List Json :=
  match Json.get? fields name with
  | some (.array values) => values
  | _ => []

theorem forall₂_of_field {α : Type} {fields : List (Text × Json)} {name : String}
    {read : Json → Reading α} {as : List α}
    (h : Reading.field fields name (.accepted []) (list read) = .accepted as) :
    List.Forall₂ (fun value a => read value = .accepted a) (entries fields name) as := by
  unfold entries
  rcases Reading.field_eq_accepted_iff.mp h with ⟨hget, h⟩ | ⟨value, hget, h⟩
  · rw [hget, ← Reading.accepted.inj h]
    exact List.Forall₂.nil
  · rw [hget]
    unfold list at h
    split at h
    · exact Reading.each_eq_accepted_iff.mp h
    · exact absurd h (by simp [Reading.reject])

/-- The entities of an accepted document are read from its lists one by one. -/
theorem forall₂_of_ofFields {fields : List (Text × Json)} {document : Document}
    (h : ofFields fields = .accepted document) :
    List.Forall₂ (fun value draft => verb value = .accepted draft) (entries fields "verbs")
        document.verbs ∧
      List.Forall₂ (fun value draft => noun value = .accepted draft) (entries fields "nouns")
        document.nouns := by
  unfold ofFields at h
  dsimp only at h
  obtain ⟨_, nouns, hfront, hnouns, rfl⟩ := Reading.both_eq_accepted_iff.mp h
  obtain ⟨_, verbs, -, hverbs, rfl⟩ := Reading.both_eq_accepted_iff.mp hfront
  exact ⟨forall₂_of_field hverbs, forall₂_of_field hnouns⟩

theorem isNormal_of_ofFields {fields : List (Text × Json)} {document : Document}
    (h : ofFields fields = .accepted document) : document.IsNormal := by
  obtain ⟨hverbs, hnouns⟩ := forall₂_of_ofFields h
  constructor
  · intro draft hdraft
    obtain ⟨value, -, hread⟩ := exists_of_mem_forall₂ hverbs hdraft
    exact isNormal_of_verb hread
  · intro draft hdraft
    obtain ⟨value, -, hread⟩ := exists_of_mem_forall₂ hnouns hdraft
    exact isNormal_of_noun hread

end Document

/-! ### What drafts in normal form become -/

/-- The verb with the words of a draft as they are. -/
def VerbDraft.verb (ref : Int) (draft : VerbDraft) : Verb where
  ref := ref
  spelling := draft.spelling
  synonyms := draft.synonyms
  shortcut := if draft.shortcut.isEmpty then none else some draft.shortcut
  prepositions := draft.prepositions

/-- The noun with the words of a draft as they are. -/
def NounDraft.noun (ref : Int) (draft : NounDraft) : Noun where
  ref := ref
  primary := draft.names.words.headD []
  alternatives := draft.names.words.tail
  adjectives := draft.adjectives

theorem mapM_lowerTypable?_of_isPlainLower {ts : List Text} (h : ∀ t ∈ ts, t.IsPlainLower) :
    (ts.filter (!·.isEmpty)).mapM Text.lowerTypable? = .ok ts := by
  have hfilter : ts.filter (!·.isEmpty) = ts := by
    rw [List.filter_eq_self]
    intro t ht
    rw [(h t ht).not_isEmpty]
    rfl
  rw [hfilter]
  exact mapM_eq_ok_self fun t ht => (h t ht).lowerTypable?

/-- **A verb's draft in normal form is not refused**, and its words stay as they are. -/
theorem Verb.ofDraft?_of_isNormal {draft : VerbDraft} (h : draft.IsNormal) (ref : Int) :
    Verb.ofDraft? ref draft = .ok (draft.verb ref) := by
  unfold Verb.ofDraft?
  dsimp only
  rw [if_neg (by rw [h.spelling.not_isAllBlank]; exact Bool.false_ne_true),
    h.spelling.lowerTypable?, mapM_lowerTypable?_of_isPlainLower h.synonyms,
    mapM_lowerTypable?_of_isPlainLower h.prepositions]
  unfold VerbDraft.verb
  by_cases hshortcut : draft.shortcut = []
  · rw [hshortcut]
    rfl
  · rw [List.isEmpty_eq_false_iff.mpr hshortcut, (h.shortcut hshortcut).lowerTypable?]
    rfl

/-- **A noun's draft in normal form is not refused**, and its words stay as they are. -/
theorem Noun.ofDraft?_of_isNormal {draft : NounDraft} (h : draft.IsNormal) (ref : Int) :
    Noun.ofDraft? ref draft = .ok (draft.noun ref) := by
  have hfilter : draft.adjectives.filter (!·.isAllBlank) = draft.adjectives := by
    rw [List.filter_eq_self]
    intro t ht
    rw [(h.adjectives t ht).not_isAllBlank]
    rfl
  have hadjectives : draft.adjectives.mapM Text.typable? = .ok draft.adjectives :=
    mapM_eq_ok_self fun t ht => (h.adjectives t ht).typable?
  obtain ⟨first, others, hwords⟩ := List.exists_cons_of_ne_nil h.words_ne_nil
  have hnames : ∀ t ∈ first :: others, t.IsPlain := hwords ▸ h.names
  have hothers : others.mapM Text.typable? = .ok others :=
    mapM_eq_ok_self fun t ht => (hnames t (List.mem_cons_of_mem first ht)).typable?
  unfold Noun.ofDraft? NounDraft.noun
  rw [hwords, hfilter]
  dsimp only
  rw [(hnames first List.mem_cons_self).typable?, hothers, hadjectives]
  rfl

/-! ### Building -/

namespace Document

/-- The world with the entities of a document as they are, numbered from one in order: the verbs
and then the nouns. -/
def world (document : Document) : World where
  title := document.title
  author := document.author
  verbs := document.verbs.mapIdx fun i draft => draft.verb (i + 1 : Nat)
  nouns := document.nouns.mapIdx fun i draft => draft.noun (document.verbs.length + i + 1 : Nat)
  issued := document.verbs.length + document.nouns.length

/-- A loop that puts an entity behind the others for every draft, with the number that is next,
numbers the entities on from the number it starts at. -/
theorem foldlM_numbered {δ ι σ ε : Type} {step : σ → δ → Except ε σ} (place : List ι → Nat → σ)
    (make : Nat → δ → ι) {drafts : List δ}
    (h : ∀ entities issued, ∀ draft ∈ drafts, step (place entities issued) draft =
      .ok (place (entities ++ [make (issued + 1) draft]) (issued + 1)))
    (entities : List ι) (issued : Nat) :
    drafts.foldlM step (place entities issued) =
      .ok (place (entities ++ drafts.mapIdx fun i draft => make (issued + i + 1) draft)
        (issued + drafts.length)) := by
  induction drafts generalizing entities issued with
  | nil =>
    rw [List.mapIdx_nil, List.append_nil]
    rfl
  | cons draft drafts ih =>
    have hstep := h entities issued draft List.mem_cons_self
    have hrest := ih fun entities issued other hother =>
      h entities issued other (List.mem_cons_of_mem draft hother)
    -- the number of a later draft counts the first one, which is added already
    have hnumber : ∀ i, issued + 1 + i + 1 = issued + (i + 1) + 1 := by omega
    calc (draft :: drafts).foldlM step (place entities issued)
        = drafts.foldlM step (place (entities ++ [make (issued + 1) draft]) (issued + 1)) := by
          rw [List.foldlM_cons, hstep]
          rfl
      _ = .ok (place (entities ++ [make (issued + 1) draft] ++
            drafts.mapIdx fun i draft => make (issued + 1 + i + 1) draft)
              (issued + 1 + drafts.length)) := hrest _ _
      _ = _ := by
          rw [List.append_assoc, List.mapIdx_cons, List.length_cons]
          simp only [hnumber, List.singleton_append]
          rw [Nat.add_right_comm, Nat.add_assoc issued]

theorem foldlM_addVerb {drafts : List VerbDraft} (h : ∀ draft ∈ drafts, draft.IsNormal)
    (world : World) :
    drafts.foldlM (fun (w : World) draft =>
        let (w, result) := w.addVerb draft
        result.map fun _ => w) world =
      .ok { world with
        verbs := world.verbs ++ drafts.mapIdx fun i draft => draft.verb (world.issued + i + 1 : Nat)
        issued := world.issued + drafts.length } := by
  refine foldlM_numbered (fun verbs issued => ({ world with verbs, issued } : World))
    (fun number draft => VerbDraft.verb number draft) ?_ world.verbs world.issued
  intro verbs issued draft hdraft
  unfold World.addVerb
  dsimp only
  rw [Verb.ofDraft?_of_isNormal (h draft hdraft)]
  rfl

theorem foldlM_addNoun {drafts : List NounDraft} (h : ∀ draft ∈ drafts, draft.IsNormal)
    (world : World) :
    drafts.foldlM (fun (w : World) draft =>
        let (w, result) := w.addNoun draft
        result.map fun _ => w) world =
      .ok { world with
        nouns := world.nouns ++ drafts.mapIdx fun i draft => draft.noun (world.issued + i + 1 : Nat)
        issued := world.issued + drafts.length } := by
  refine foldlM_numbered (fun nouns issued => ({ world with nouns, issued } : World))
    (fun number draft => NounDraft.noun number draft) ?_ world.nouns world.issued
  intro nouns issued draft hdraft
  unfold World.addNoun
  dsimp only
  rw [Noun.ofDraft?_of_isNormal (h draft hdraft)]
  rfl

/-- **Every document in normal form is built**, and its world keeps the entities as they are. -/
theorem build_eq_ok {document : Document} (h : document.IsNormal) :
    document.build = .ok document.world := by
  unfold build World.addAll
  rw [foldlM_addVerb h.verbs]
  show List.foldlM _ _ _ = _
  rw [foldlM_addNoun h.nouns]
  simp only [List.nil_append, Nat.zero_add]
  rfl

/-- The numbers of a document's entities run from one, those of the verbs before those of the
nouns. -/
theorem map_ref_world (document : Document) :
    document.world.verbs.map Verb.ref ++ document.world.nouns.map Noun.ref =
      (List.range' 1 (document.verbs.length + document.nouns.length)).map Int.ofNat := by
  rw [← List.range'_append_1, List.map_append]
  congr 1
  · apply List.ext_getElem
    · simp [world]
    · intro i hi hi'
      simp [world, VerbDraft.verb, Nat.add_comm]
  · apply List.ext_getElem
    · simp [world]
    · intro i hi hi'
      simp [world, NounDraft.noun]
      omega

end Document

/-! ### Words of a world in normal form -/

/-- What is known of the words of a world whose document was brought to normal form. -/
structure World.IsNormal (world : World) : Prop where
  /-- Words are not empty, can be typed, and have no space behind them. -/
  vocabulary : ∀ w ∈ world.vocabulary,
    w.spelling ≠ [] ∧ w.spelling.isTypable ∧ w.spelling.endsWith ' ' = false
  /-- What a verb is called by is in lower case, its prepositions included. -/
  lower : ∀ v ∈ world.verbs, ∀ t ∈ v.spellings, t.lower = t
  /-- No verb has a synonym or a preposition twice. -/
  synonyms : ∀ v ∈ world.verbs, v.synonyms.Nodup
  prepositions : ∀ v ∈ world.verbs, v.prepositions.Nodup
  /-- Names are single words. -/
  names : ∀ n ∈ world.nouns, ∀ t ∈ n.names, ' ' ∉ t

theorem VerbDraft.IsNormal.spellings_verb {draft : VerbDraft} (h : draft.IsNormal) (ref : Int) :
    ∀ t ∈ (draft.verb ref).spellings, t.IsPlainLower := by
  intro t ht
  unfold Verb.spellings VerbDraft.verb at ht
  simp only [List.mem_append, List.mem_cons, Option.mem_toList] at ht
  rcases ht with ((rfl | ht) | ht) | ht
  · exact h.spelling
  · exact h.synonyms t ht
  · -- an empty shortcut is none at all
    obtain ⟨hne, heq⟩ := Option.ite_none_left_eq_some.mp (Option.mem_def.mp ht)
    obtain rfl := Option.some.inj heq
    exact h.shortcut fun hnil => hne (by rw [hnil]; rfl)
  · exact h.prepositions t ht

theorem NounDraft.IsNormal.names_noun {draft : NounDraft} (h : draft.IsNormal) (ref : Int) :
    (draft.noun ref).names = draft.names.words := by
  obtain ⟨first, others, hwords⟩ := List.exists_cons_of_ne_nil h.words_ne_nil
  unfold NounDraft.noun Noun.names
  rw [hwords]
  rfl

theorem NounDraft.IsNormal.spellings_noun {draft : NounDraft} (h : draft.IsNormal) (ref : Int) :
    ∀ t ∈ (draft.noun ref).spellings, t.IsPlain := by
  intro t ht
  unfold Noun.spellings at ht
  rw [h.names_noun, List.mem_append] at ht
  rcases ht with ht | ht
  · exact h.names t ht
  · exact h.adjectives t ht

namespace Document

theorem exists_of_mem_verbs_world {document : Document} {v : Verb} (h : v ∈ document.world.verbs) :
    ∃ draft ∈ document.verbs, ∃ ref, v = draft.verb ref := by
  obtain ⟨i, hi, rfl⟩ := List.mem_mapIdx.mp h
  exact ⟨_, List.getElem_mem hi, _, rfl⟩

theorem exists_of_mem_nouns_world {document : Document} {n : Noun} (h : n ∈ document.world.nouns) :
    ∃ draft ∈ document.nouns, ∃ ref, n = draft.noun ref := by
  obtain ⟨i, hi, rfl⟩ := List.mem_mapIdx.mp h
  exact ⟨_, List.getElem_mem hi, _, rfl⟩

theorem isPlain_of_mem_words {document : Document} (h : document.IsNormal) {w : Word}
    (hw : w ∈ document.world.words) : w.spelling.IsPlain := by
  rcases World.mem_words.mp hw with ⟨v, hv, hwv⟩ | ⟨n, hn, hwn⟩
  · obtain ⟨draft, hdraft, ref, rfl⟩ := exists_of_mem_verbs_world hv
    have hspelling := List.mem_map_of_mem (f := Word.spelling) hwv
    rw [Verb.map_spelling_words] at hspelling
    exact ((h.verbs draft hdraft).spellings_verb ref _ hspelling).toIsPlain
  · obtain ⟨draft, hdraft, ref, rfl⟩ := exists_of_mem_nouns_world hn
    have hspelling := List.mem_map_of_mem (f := Word.spelling) hwn
    rw [Noun.map_spelling_words] at hspelling
    exact (h.nouns draft hdraft).spellings_noun ref _ hspelling

theorem isNormal_world {document : Document} (h : document.IsNormal) :
    document.world.IsNormal where
  vocabulary := by
    intro w hw
    have hplain := isPlain_of_mem_words h (World.mem_words_of_mem_vocabulary hw)
    exact ⟨hplain.ne_nil, hplain.isTypable, hplain.endsInInk.endsWith⟩
  lower := by
    intro v hv t ht
    obtain ⟨draft, hdraft, ref, rfl⟩ := exists_of_mem_verbs_world hv
    exact ((h.verbs draft hdraft).spellings_verb ref t ht).lower_eq
  synonyms := by
    intro v hv
    obtain ⟨draft, hdraft, ref, rfl⟩ := exists_of_mem_verbs_world hv
    exact (h.verbs draft hdraft).synonyms_nodup
  prepositions := by
    intro v hv
    obtain ⟨draft, hdraft, ref, rfl⟩ := exists_of_mem_verbs_world hv
    exact (h.verbs draft hdraft).prepositions_nodup
  names := by
    intro n hn t ht hspace
    obtain ⟨draft, hdraft, ref, rfl⟩ := exists_of_mem_nouns_world hn
    rw [(h.nouns draft hdraft).names_noun] at ht
    exact absurd ((Text.isWord_of_mem_words ht).not_blank ' ' hspace) (by decide)

/-- **A document that is accepted is built, and its world is in normal form.** The entities of the
document are those of its lists, in their order. Its world holds the verbs and the nouns with the
words that were read, and their numbers run from one, first through the verbs and then through the
nouns. -/
theorem build_of_ofFields {fields : List (Text × Json)} {document : Document}
    (h : ofFields fields = .accepted document) :
    List.Forall₂ (fun value draft => verb value = .accepted draft) (entries fields "verbs")
        document.verbs ∧
      List.Forall₂ (fun value draft => noun value = .accepted draft) (entries fields "nouns")
        document.nouns ∧
      document.build = .ok document.world ∧
      document.world.verbs.map Verb.ref ++ document.world.nouns.map Noun.ref =
        (List.range' 1 (document.verbs.length + document.nouns.length)).map Int.ofNat ∧
      document.world.IsNormal := by
  obtain ⟨hverbs, hnouns⟩ := forall₂_of_ofFields h
  have hnormal := isNormal_of_ofFields h
  exact ⟨hverbs, hnouns, build_eq_ok hnormal, map_ref_world document, isNormal_world hnormal⟩

/-- A document in which hardly a word is in normal form. -/
def untidy : List (Text × Json) :=
  [("verbs".toList, .array [Json.ofFields [
      ("spelling", .ofString " Throw "),
      ("synonyms", .array [.ofString "TOSS", .null, .ofString "toss "]),
      ("shortcut", .null),
      ("prepositions", .array [.ofString "At"])]]),
    ("nouns".toList, .array [Json.ofFields [
      ("names", .ofString " ball   orb"),
      ("adjectives", .array [.ofString "ｒed", .ofString "  "])]])]

/-- The document that it is read as. -/
def tidied : Document where
  verbs := [{
    spelling := "throw".toList
    synonyms := ["toss".toList]
    prepositions := ["at".toList] }]
  nouns := [{ names := "ball orb".toList, adjectives := ["red".toList] }]

theorem build_tidied :
    ofFields untidy = .accepted tidied ∧ tidied.build = .ok tidied.world ∧
      tidied.world.verbs.map Verb.ref = [1] ∧ tidied.world.nouns.map Noun.ref = [2] ∧
      tidied.world.IsNormal := by
  have hread : ofFields untidy = .accepted tidied := by decide +kernel
  obtain ⟨-, -, hbuild, -, hnormal⟩ := build_of_ofFields hread
  exact ⟨hread, hbuild, rfl, rfl, hnormal⟩

end Document

end CommandPrompt
