import CommandPrompt.Proofs.Document.Stray
import CommandPrompt.Proofs.Line.Caret
import CommandPrompt.Proofs.Json.RoundTrip
import CommandPrompt.Proofs.Text.Encoding
import CommandPrompt.World.Packaged

/-!
# Worlds written as documents

A world can be written as the document that describes it (`World.toJson`): its title and author, the
words of its verbs, and for every noun its names in one text and its adjectives. The main result is
that nothing is lost or changed on this way (`World.load_toJson`): the document of a world that was
loaded is accepted, and loading it makes the same world again, with the same numbers.

Reading strips words, brings them to normal form and drops what is blank or repeated. On the words
of a world that was loaded none of this has an effect, because they went through it before
(`Text.IsPlain`). So a document in normal form is read as what was written (`Document.verb_toJson`,
`Document.noun_toJson`), but for the spaces between the names of a noun, which are single ones
afterwards (`NounDraft.spaced`) and of which the noun knows nothing.

That the document survives as a file is not assumed: its JSON text is read back, and so are the
bytes of the text. The packaged world comes from a file too (`World.load_packagedText`).
-/

namespace CommandPrompt

/-! ### Plain words stay as they are -/

namespace Text

/-- No blank stands at an end of a plain word. -/
theorem IsPlain.strip_eq {t : Text} (h : t.IsPlain) : t.strip = t := by
  obtain ⟨last, hlast, hspace⟩ := h.endsInInk
  refine strip_eq_self (isBlank_head?_eq_false h.isTypable) fun c hc => ?_
  obtain rfl := Option.some.inj (hlast.symm.trans hc)
  have htyp := AllTypable.of_isTypable h.isTypable last (List.mem_of_getLast? hlast)
  by_contra hblank
  exact hspace ((isBlank_iff_of_isTypableChar htyp).mp (Bool.not_eq_false _ ▸ hblank))

/-- What can be typed is in normal form. -/
theorem normalForm_of_allTypable {t : Text} (h : t.AllTypable) : t.normalForm = t := by
  unfold normalForm
  rw [if_pos]
  rw [List.all_eq_true]
  exact fun c hc => decide_eq_true (lt_of_isTypableChar (h c hc))

theorem IsPlain.plain_eq {t : Text} (h : t.IsPlain) : Document.plain t = t := by
  unfold Document.plain
  rw [h.strip_eq, normalForm_of_allTypable (AllTypable.of_isTypable h.isTypable)]

end Text

/-! ### Documents of worlds -/

/-- Texts as a JSON value. -/
def Json.ofTexts (ts : List Text) : Json := .array (ts.map .string)

/-- What a document says of a verb. The shortcut of a verb that has none is the empty text. -/
def Verb.fields (verb : Verb) : List (String × Json) :=
  [("spelling", .string verb.spelling), ("synonyms", .ofTexts verb.synonyms),
    ("shortcut", .string (verb.shortcut.getD [])), ("prepositions", .ofTexts verb.prepositions)]

/-- A verb as a document describes it. -/
def Verb.toJson (verb : Verb) : Json := .ofFields verb.fields

/-- What a document says of a noun: its names in one text, and its adjectives. -/
def Noun.fields (noun : Noun) : List (String × Json) :=
  [("names", .string (Text.unwords noun.names)), ("adjectives", .ofTexts noun.adjectives)]

/-- A noun as a document describes it. -/
def Noun.toJson (noun : Noun) : Json := .ofFields noun.fields

/-- What a document says of a world. -/
def World.fields (world : World) : List (String × Json) :=
  [("title", .string world.title), ("author", .string world.author),
    ("verbs", .array (world.verbs.map Verb.toJson)),
    ("nouns", .array (world.nouns.map Noun.toJson))]

/-- The document that describes a world. -/
def World.toJson (world : World) : Json := .ofFields world.fields

/-- The draft with single spaces between its names. -/
def NounDraft.spaced (draft : NounDraft) : NounDraft :=
  { draft with names := Text.unwords draft.names.words }

/-- The document with single spaces between the names of its nouns. -/
def Document.spaced (document : Document) : Document :=
  { document with nouns := document.nouns.map NounDraft.spaced }

/-- The words of names are the words of the names with single spaces between them. -/
theorem NounDraft.words_spaced (draft : NounDraft) :
    draft.spaced.names.words = draft.names.words :=
  Text.words_unwords fun _ ht => Text.isWord_of_mem_words ht

theorem NounDraft.noun_spaced (draft : NounDraft) (ref : Int) :
    draft.spaced.noun ref = draft.noun ref := by
  unfold NounDraft.noun
  rw [words_spaced]
  rfl

namespace Document

/-- **A world knows nothing of the spaces between names.** -/
theorem world_spaced (document : Document) : document.spaced.world = document.world := by
  have hnouns : ∀ number : Nat → Int,
      (document.nouns.map NounDraft.spaced).mapIdx (fun i draft => draft.noun (number i)) =
        document.nouns.mapIdx fun i draft => draft.noun (number i) := by
    intro number
    apply List.ext_getElem
    · simp
    · intro i hi hi'
      simp [NounDraft.noun_spaced]
  unfold world spaced
  simp only [hnouns, List.length_map]

theorem IsNormal.spaced {document : Document} (h : document.IsNormal) :
    document.spaced.IsNormal where
  verbs := h.verbs
  nouns := by
    intro draft hdraft
    obtain ⟨original, horiginal, rfl⟩ := List.mem_map.mp hdraft
    have hnormal := h.nouns original horiginal
    refine ⟨?_, ?_, hnormal.adjectives⟩
    · rw [NounDraft.words_spaced]
      exact hnormal.words_ne_nil
    · rw [NounDraft.words_spaced]
      exact hnormal.names

/-! ### Words read again -/

open Reading

theorem typable_of_isTypable {t : Text} (h : t.isTypable) : typable t = .accepted t :=
  typable_eq_accepted_iff.mpr ⟨rfl, h⟩

theorem verbWord_string {t : Text} (h : t.IsPlainLower) :
    verbWord (.string t) = .accepted t := by
  show typable (plain t).lower = .accepted t
  rw [h.plain_eq, h.lower_eq, typable_of_isTypable h.isTypable]

theorem spelling_string {t : Text} (h : t.IsPlainLower) :
    spelling (.string t) = .accepted t := by
  unfold spelling
  rw [verbWord_string h]
  show (if t.isEmpty then _ else _) = _
  rw [h.not_isEmpty]
  rfl

/-- A series of texts is read as those texts, if each of them is. -/
theorem sequence_map_string {α : Type} {read : Json → Reading α} {f : Text → α} {ts : List Text}
    (h : ∀ t ∈ ts, read (.string t) = .accepted (f t)) :
    sequence read (ts.map .string) = .accepted (ts.map f) := by
  rw [sequence_eq_accepted_iff, List.forall₂_map_left_iff, List.forall₂_map_right_iff,
    List.forall₂_same]
  exact h

theorem verbWords_ofTexts {ts : List Text} (h : ∀ t ∈ ts, t.IsPlainLower) (hnodup : ts.Nodup) :
    verbWords (.ofTexts ts) = .accepted ts := by
  have hread : sequence verbWord (ts.map .string) = .accepted (ts.map id) :=
    sequence_map_string fun t ht => verbWord_string (h t ht)
  have hfilter : ts.filter (!·.isEmpty) = ts := by
    rw [List.filter_eq_self]
    intro t ht
    rw [(h t ht).not_isEmpty]
    rfl
  show (sequence verbWord (ts.map .string)).map _ = _
  rw [hread, List.map_id]
  show Reading.accepted (ts.filter (!·.isEmpty)).eraseDups = .accepted ts
  rw [hfilter, eraseDups_eq_self hnodup]

theorem verbWord_shortcut {shortcut : Text} (h : shortcut ≠ [] → shortcut.IsPlainLower) :
    verbWord (.string ((if shortcut.isEmpty then none else some shortcut).getD [])) =
      .accepted shortcut := by
  by_cases hnil : shortcut = []
  · subst hnil
    rfl
  · rw [List.isEmpty_eq_false_iff.mpr hnil]
    exact verbWord_string (h hnil)

theorem adjectives_ofTexts {ts : List Text} (h : ∀ t ∈ ts, t.IsPlain) :
    adjectives (.ofTexts ts) = .accepted ts := by
  have hread : sequence adjective (ts.map .string) = .accepted (ts.map some) := by
    refine sequence_map_string fun t ht => ?_
    have hplain := h t ht
    show (if t.isAllBlank then _ else _) = _
    rw [hplain.not_isAllBlank, if_neg Bool.false_ne_true, hplain.plain_eq,
      typable_of_isTypable hplain.isTypable]
    rfl
  show (sequence adjective (ts.map .string)).map _ = _
  rw [hread]
  show Reading.accepted ((ts.map some).filterMap id) = _
  rw [List.filterMap_map]
  simp

/-- Joined plain words can be typed, and no space stands behind them. -/
theorem isPlain_unwords {ts : List Text} (hne : ts ≠ []) (hwords : ∀ t ∈ ts, t.IsWord)
    (h : ∀ t ∈ ts, t.IsPlain) : (Text.unwords ts).IsPlain where
  isTypable := by
    have htyp := Text.isTypable_unwords_append_space hne fun t ht =>
      ⟨hwords t ht, Text.AllTypable.of_isTypable (h t ht).isTypable⟩
    have htake := Text.isTypableAfter_take htyp (Text.unwords ts).length
    rwa [List.take_left] at htake
  endsInInk := by
    obtain ⟨init, last, rfl⟩ := (List.eq_nil_or_concat' ts).resolve_left hne
    obtain ⟨c, hc, hspace⟩ := (h last (by simp)).endsInInk
    exact ⟨c, (Text.getLast?_unwords (h last (by simp)).ne_nil init).trans hc, hspace⟩

theorem names_unwords {ts : List Text} (hne : ts ≠ []) (hwords : ∀ t ∈ ts, t.IsWord)
    (h : ∀ t ∈ ts, t.IsPlain) :
    names (.string (Text.unwords ts)) = .accepted (Text.unwords ts) := by
  have hplain := isPlain_unwords hne hwords h
  show (if (Text.unwords (plain (Text.unwords ts)).words).isEmpty then _ else
    typable (Text.unwords (plain (Text.unwords ts)).words)) = _
  rw [hplain.plain_eq, Text.words_unwords hwords, hplain.not_isEmpty, if_neg Bool.false_ne_true,
    typable_of_isTypable hplain.isTypable]

/-! ### Entities read again -/

/-- A field that is there is read as its value is. -/
theorem field_of_get? {α : Type} {fields : List (Text × Json)} {name : String}
    {absent : Reading α} {read : Json → Reading α} {value : Json} {a : α}
    (hget : Json.get? fields name = some value) (hread : read value = .accepted a) :
    Reading.field fields name absent read = .accepted a :=
  field_eq_accepted_iff.mpr (Or.inr ⟨value, hget, hread⟩)

/-- The fields of an object with names that are text. -/
def fieldsOf (fields : List (String × Json)) : List (Text × Json) :=
  fields.map fun (name, value) => (name.toList, value)

/-- **A verb is read as what was written**, if its words are in normal form. -/
theorem verb_toJson {draft : VerbDraft} (h : draft.IsNormal) (ref : Int) :
    verb (draft.verb ref).toJson = .accepted draft := by
  have hspelling : Reading.field (fieldsOf (draft.verb ref).fields) "spelling" (.reject .missing)
      spelling = .accepted draft.spelling := field_of_get? rfl (spelling_string h.spelling)
  have hsynonyms : Reading.field (fieldsOf (draft.verb ref).fields) "synonyms" (.accepted [])
      verbWords = .accepted draft.synonyms :=
    field_of_get? rfl (verbWords_ofTexts h.synonyms h.synonyms_nodup)
  have hshortcut : Reading.field (fieldsOf (draft.verb ref).fields) "shortcut" (.accepted [])
      verbWord = .accepted draft.shortcut := field_of_get? rfl (verbWord_shortcut h.shortcut)
  have hprepositions : Reading.field (fieldsOf (draft.verb ref).fields) "prepositions"
      (.accepted []) verbWords = .accepted draft.prepositions :=
    field_of_get? rfl (verbWords_ofTexts h.prepositions h.prepositions_nodup)
  show verb (.object (fieldsOf (draft.verb ref).fields)) = .accepted draft
  unfold verb
  dsimp only
  rw [hspelling, hsynonyms, hshortcut, hprepositions]
  rfl

/-- **A noun is read as what was written**, with single spaces between its names. -/
theorem noun_toJson {draft : NounDraft} (h : draft.IsNormal) (ref : Int) :
    noun (draft.noun ref).toJson = .accepted draft.spaced := by
  have hnames : Reading.field (fieldsOf (draft.noun ref).fields) "names" (.reject .missing)
      names = .accepted draft.spaced.names := by
    refine field_of_get? rfl ?_
    show names (.string (Text.unwords (draft.noun ref).names)) = _
    rw [h.names_noun]
    exact names_unwords h.words_ne_nil (fun t ht => Text.isWord_of_mem_words ht) h.names
  have hadjectives : Reading.field (fieldsOf (draft.noun ref).fields) "adjectives" (.accepted [])
      adjectives = .accepted draft.adjectives := field_of_get? rfl (adjectives_ofTexts h.adjectives)
  show noun (.object (fieldsOf (draft.noun ref).fields)) = .accepted draft.spaced
  unfold noun
  dsimp only
  rw [hnames, hadjectives]
  rfl

/-- **The document of a world in normal form is accepted**, and it is the one that the world was
built from, but for the spaces between names. -/
theorem ofFields_fields {document : Document} (h : document.IsNormal) :
    ofFields (fieldsOf document.world.fields) = .accepted document.spaced := by
  have htitle : Reading.field (fieldsOf document.world.fields) "title" (.accepted []) textOnly =
      .accepted document.title := field_of_get? rfl rfl
  have hauthor : Reading.field (fieldsOf document.world.fields) "author" (.accepted []) textOnly =
      .accepted document.author := field_of_get? rfl rfl
  have hverbs : Reading.field (fieldsOf document.world.fields) "verbs" (.accepted [])
      (list verb) = .accepted document.verbs := by
    refine field_of_get? rfl ?_
    show Reading.each verb 0 (document.world.verbs.map Verb.toJson) = _
    rw [each_eq_accepted_iff, List.forall₂_map_left_iff, List.forall₂_iff_get]
    refine ⟨by simp [world], fun i hi hi' => ?_⟩
    simpa [world] using verb_toJson (h.verbs _ (List.getElem_mem hi')) _
  have hnouns : Reading.field (fieldsOf document.world.fields) "nouns" (.accepted [])
      (list noun) = .accepted document.spaced.nouns := by
    refine field_of_get? rfl ?_
    show Reading.each noun 0 (document.world.nouns.map Noun.toJson) =
      .accepted (document.nouns.map NounDraft.spaced)
    rw [each_eq_accepted_iff, List.forall₂_map_left_iff, List.forall₂_map_right_iff,
      List.forall₂_iff_get]
    refine ⟨by simp [world], fun i hi hi' => ?_⟩
    simpa [world] using noun_toJson (h.nouns _ (List.getElem_mem hi')) _
  unfold ofFields
  dsimp only
  rw [htitle, hauthor, hverbs, hnouns]
  rfl

end Document

/-! ### Documents as JSON texts -/

namespace Json

theorem fits_ofTexts (depth : Nat) (ts : List Text) : Fits (depth + 1) (ofTexts ts) := by
  refine Fits.array fun item hitem => ?_
  obtain ⟨t, -, rfl⟩ := List.mem_map.mp hitem
  exact Fits.string t

theorem reread_ofTexts (ts : List Text) : (ofTexts ts).reread = ofTexts ts :=
  reread_array_map (fun _ => rfl) ts

/-- The text of an object begins with two characters of the ASCII range. -/
theorem exists_write_object_eq_cons (layout : Layout) (fields : List (Text × Json)) :
    ∃ d rest, (object fields).write layout = '{' :: d :: rest ∧ d.toNat ≠ 0 ∧ d.toNat < 128 := by
  cases fields with
  | nil => exact ⟨'}', [], rfl, by decide⟩
  | cons field fields =>
    cases layout with
    | oneLine =>
      obtain ⟨rest, hjoin⟩ := exists_join_writeFields_eq_cons .oneLine 1 field fields
      refine ⟨'"', rest ++ [] ++ ['}'], ?_, by decide⟩
      exact congrArg (fun members : Text => ['{'] ++ members ++ [] ++ ['}']) hjoin
    | indented => exact ⟨'\n', _, rfl, by decide⟩

end Json

/-- **An object that is read as what was written is held by the bytes of its text.** -/
theorem holds_write {nesting : Json.Nesting} {fields : List (Text × Json)}
    (hfits : Json.Fits nesting.levels (.object fields))
    (hreread : (Json.object fields).reread = .object fields) (layout : Json.Layout) :
    Holds nesting (Text.utf8 ((Json.object fields).write layout)) (.object fields) := by
  obtain ⟨d, rest, htext, hd, hd'⟩ := Json.exists_write_object_eq_cons layout fields
  refine ⟨(Json.object fields).write layout, ?_, ?_⟩
  · rw [htext]
    exact Encoding.readAny_utf8 (Or.inl rfl) hd hd' rest
  · have hread := Json.read_write layout hfits (fun c hc => absurd hc List.not_mem_nil)
    rwa [List.append_nil, hreread] at hread

/-! ### Loading what was written -/

theorem Verb.fits_toJson (verb : Verb) (depth : Nat) : Json.Fits (depth + 2) verb.toJson := by
  have hnames : (["spelling", "synonyms", "shortcut", "prepositions"] : List String).Nodup := by
    decide
  refine Json.fits_ofFields hnames fun f hf => ?_
  simp only [Verb.fields, List.mem_cons, List.not_mem_nil, or_false] at hf
  rcases hf with rfl | rfl | rfl | rfl
  · exact Json.Fits.string _
  · exact Json.fits_ofTexts depth _
  · exact Json.Fits.string _
  · exact Json.fits_ofTexts depth _

theorem Verb.reread_toJson (verb : Verb) : verb.toJson.reread = verb.toJson := by
  refine Json.reread_ofFields_eq_self fun f hf => ?_
  simp only [Verb.fields, List.mem_cons, List.not_mem_nil, or_false] at hf
  rcases hf with rfl | rfl | rfl | rfl
  · rfl
  · exact Json.reread_ofTexts _
  · rfl
  · exact Json.reread_ofTexts _

theorem Noun.fits_toJson (noun : Noun) (depth : Nat) : Json.Fits (depth + 2) noun.toJson := by
  have hnames : (["names", "adjectives"] : List String).Nodup := by decide
  refine Json.fits_ofFields hnames fun f hf => ?_
  simp only [Noun.fields, List.mem_cons, List.not_mem_nil, or_false] at hf
  rcases hf with rfl | rfl
  · exact Json.Fits.string _
  · exact Json.fits_ofTexts depth _

theorem Noun.reread_toJson (noun : Noun) : noun.toJson.reread = noun.toJson := by
  refine Json.reread_ofFields_eq_self fun f hf => ?_
  simp only [Noun.fields, List.mem_cons, List.not_mem_nil, or_false] at hf
  rcases hf with rfl | rfl
  · rfl
  · exact Json.reread_ofTexts _

namespace World

theorem fits_toJson (world : World) (depth : Nat) : Json.Fits (depth + 4) world.toJson := by
  have hnames : (["title", "author", "verbs", "nouns"] : List String).Nodup := by decide
  refine Json.fits_ofFields hnames fun f hf => ?_
  simp only [fields, List.mem_cons, List.not_mem_nil, or_false] at hf
  rcases hf with rfl | rfl | rfl | rfl
  · exact Json.Fits.string _
  · exact Json.Fits.string _
  · refine Json.Fits.array fun item hitem => ?_
    obtain ⟨verb, -, rfl⟩ := List.mem_map.mp hitem
    exact verb.fits_toJson depth
  · refine Json.Fits.array fun item hitem => ?_
    obtain ⟨noun, -, rfl⟩ := List.mem_map.mp hitem
    exact noun.fits_toJson depth

theorem reread_toJson (world : World) : world.toJson.reread = world.toJson := by
  refine Json.reread_ofFields_eq_self fun f hf => ?_
  simp only [fields, List.mem_cons, List.not_mem_nil, or_false] at hf
  rcases hf with rfl | rfl | rfl | rfl
  · rfl
  · rfl
  · exact Json.reread_array_map Verb.reread_toJson _
  · exact Json.reread_array_map Noun.reread_toJson _

/-- **The document of a world in normal form describes that world.** -/
theorem ofJson_toJson {document : Document} (h : document.IsNormal) :
    ofJson document.world.toJson = .ok document.world := by
  show ofJson (.object (Document.fieldsOf document.world.fields)) = _
  unfold ofJson
  dsimp only
  rw [Document.ofFields_fields h]
  dsimp only
  rw [Document.build_eq_ok h.spaced, Document.world_spaced]
  rfl

/-- A value that describes a world is an object whose fields make a document in normal form. -/
theorem exists_document_of_ofJson {value : Json} {world : World} (h : ofJson value = .ok world) :
    ∃ document : Document, document.IsNormal ∧ world = document.world := by
  unfold ofJson at h
  split at h
  · split at h
    · next document hread =>
      have hnormal := Document.isNormal_of_ofFields hread
      rw [Document.build_eq_ok hnormal] at h
      exact ⟨document, hnormal, (Except.ok.inj h).symm⟩
    · cases h
    · cases h
  · cases h

/-- **Loading what was written for a world that was loaded makes the same world again.** Its title
and author, its verbs and nouns and their numbers are those that it had, and so is its vocabulary.
This holds of every file with the document of the world, in particular of its JSON text in UTF-8. -/
theorem load_toJson {nesting : Json.Nesting} {file : Except FileProblem (List UInt8)}
    {world : World} (h : load nesting file = .ok world) :
    (∀ bytes, Holds nesting bytes world.toJson → load nesting (.ok bytes) = .ok world) ∧
      ∀ layout, load nesting (.ok (Text.utf8 (world.toJson.write layout))) = .ok world := by
  obtain ⟨bytes, -, h⟩ := bind_eq_ok_iff.mp h
  obtain ⟨written, -, h⟩ := bind_eq_ok_iff.mp h
  obtain ⟨value, -, h⟩ := bind_eq_ok_iff.mp h
  obtain ⟨document, hnormal, rfl⟩ := exists_document_of_ofJson h
  have hload : ∀ bytes, Holds nesting bytes document.world.toJson →
      load nesting (.ok bytes) = .ok document.world :=
    fun bytes hbytes => (load_of_holds hbytes).trans (ofJson_toJson hnormal)
  refine ⟨hload, fun layout => hload _ ?_⟩
  -- a document has four levels, fewer than the reader goes into
  have hfour : 4 ≤ nesting.levels := le_trans (by decide) nesting.six_le
  obtain ⟨depth, hdepth⟩ := Nat.exists_eq_add_of_le' hfour
  refine holds_write ?_ document.world.reread_toJson layout
  rw [hdepth]
  exact document.world.fits_toJson depth

/-- A document with blanks around its words, a blank adjective and a noun of two names. -/
def hutText : Text :=
  ("\x7b\"verbs\": [\x7b\"spelling\": \" Go\"\x7d], \"nouns\": " ++
    "[\x7b\"names\": \" hut   Shed\", \"adjectives\": [\" \", \"old\"]\x7d]\x7d").toList

/-- The world that it describes. -/
def hut : World where
  verbs := [{
    ref := 1, spelling := "go".toList, synonyms := [], shortcut := none, prepositions := [] }]
  nouns := [{
    ref := 2, primary := "hut".toList, alternatives := ["Shed".toList]
    adjectives := ["old".toList] }]
  issued := 2

/-- The world of the document is loaded, and again from what is written for it, which differs. -/
theorem load_toJson_hut :
    load .usual (.ok (Text.utf8 hutText)) = .ok hut ∧
      load .usual (.ok (Text.utf8 (hut.toJson.write .oneLine))) = .ok hut ∧
      hut.toJson.write .oneLine ≠ hutText := by
  have hholds : Holds .usual (Text.utf8 hutText) (.ofFields [
      ("verbs", .array [.ofFields [("spelling", .ofString " Go")]]),
      ("nouns", .array [.ofFields [("names", .ofString " hut   Shed"),
        ("adjectives", .array [.ofString " ", .ofString "old"])]])]) := by
    refine ⟨hutText, ?_, by with_unfolding_all rfl⟩
    exact Encoding.readAny_utf8 (Or.inl rfl) (by decide) (by decide) _
  have hload : load .usual (.ok (Text.utf8 hutText)) = .ok hut := by
    rw [load_of_holds hholds]
    decide +kernel
  exact ⟨hload, (load_toJson hload).2 .oneLine, by decide +kernel⟩

/-! ### The packaged world -/

/-- The JSON value in the file of the packaged world. -/
def packagedValue : Json :=
  .ofFields [("title", .ofString "Test Game"), ("author", .ofString "Joseph Cramsey"),
    ("verbs", .array [
      .ofFields [("spelling", .ofString "examine"),
        ("synonyms", .array [.ofString "look at", .ofString "inspect"]),
        ("shortcut", .ofString "x")],
      .ofFields [("spelling", .ofString "take")]]),
    ("nouns", .array [
      .ofFields [("names", .ofString "bucket"),
        ("adjectives", .array (["pale", "red", "sandy", "plastic"].map .ofString))],
      .ofFields [("names", .ofString "bucket"),
        ("adjectives", .array (["blue", "clean", "plastic"].map .ofString))],
      .ofFields [("names", .ofString "candy"), ("adjectives", .array [.ofString "red"])],
      .ofFields [("names", .ofString "bucket"),
        ("adjectives", .array (["small", "pale", "red", "plastic"].map .ofString))]])]

set_option maxRecDepth 8000 in
/-- **The packaged world is what its file describes.** -/
theorem load_packagedText : load .usual (.ok (Text.utf8 packagedText)) = .ok packaged := by
  have hholds : Holds .usual (Text.utf8 packagedText) packagedValue := by
    refine ⟨packagedText, ?_, by with_unfolding_all rfl⟩
    have htext : packagedText =
        '\x7b' :: '\n' :: packagedLines.tail.flatMap fun line => line.toList ++ ['\n'] := rfl
    rw [htext]
    exact Encoding.readAny_utf8 (Or.inl rfl) (by decide) (by decide) _
  rw [load_of_holds hholds]
  decide +kernel

end World

end CommandPrompt
