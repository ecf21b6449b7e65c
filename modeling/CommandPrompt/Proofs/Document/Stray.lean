import CommandPrompt.Document.Load
import CommandPrompt.Proofs.Document.NormalForm

/-!
# Values of the wrong kind in documents

Any JSON value may stand in a document where a word is wanted. A value that counts as nothing stands
for the empty text. Any other value that is no text is a stray (`Json.IsStray`), and the word cannot
be prepared from it. The reading is then broken off: what was found before is not told, and the file
is not refused as an invalid document is, with the place of the fault.

The main result says that this is the only way in which reading a document fails otherwise than by
refusing it (`load_refuses_unless_stray`). If the file holds a JSON value, loading it is broken off
exactly if the value has a stray. Without one there is a world, or the value is no object, or the
findings of an invalid document are told. That the world itself refuses an entity is not among the
outcomes, because an accepted document is in normal form (`Document.build_eq_ok`).

Where strays are looked for follows the reading (`Json.HasStray`). Fields are read whatever is wrong
with other ones, and so are entities, so a stray anywhere among them counts. In a series of words
only a stray counts before which all words were accepted (`Json.HasStrayWord`).
-/

namespace CommandPrompt

namespace Json

/-- The value is no text, and does not count as nothing either. -/
def IsStray (value : Json) : Prop := (∀ t, value ≠ string t) ∧ value.isNothing = false

/-- The value stands for several words and is no series, or a stray is reached in it by reading its
words one by one. -/
def HasStrayWord {α : Type} (read : Json → Reading α) (value : Json) : Prop :=
  (value ≠ null ∧ value.series? = none) ∨
    ∃ before stray after, value.series? = some (before ++ stray :: after) ∧
      (∀ word ∈ before, ∃ a, read word = .accepted a) ∧ stray.IsStray

/-- There is a field of the given name, and its value has the property. -/
def HasField (fields : List (Text × Json)) (name : String) (P : Json → Prop) : Prop :=
  ∃ value, get? fields name = some value ∧ P value

/-- The value describes a verb, and has a stray in the place of a word. -/
def IsStrayVerb (value : Json) : Prop :=
  ∃ fields, value = object fields ∧
    (HasField fields "spelling" IsStray ∨
      HasField fields "synonyms" (HasStrayWord Document.verbWord) ∨
      HasField fields "shortcut" IsStray ∨
      HasField fields "prepositions" (HasStrayWord Document.verbWord))

/-- The value describes a noun, and has a stray in the place of a word. -/
def IsStrayNoun (value : Json) : Prop :=
  ∃ fields, value = object fields ∧
    (HasField fields "names" IsStray ∨
      HasField fields "adjectives" (HasStrayWord Document.adjective))

/-- The value is an object that has a stray in one of its verbs or nouns. -/
def HasStray (value : Json) : Prop :=
  ∃ fields, value = object fields ∧
    ((∃ entity ∈ Document.entries fields "verbs", entity.IsStrayVerb) ∨
      ∃ entity ∈ Document.entries fields "nouns", entity.IsStrayNoun)

end Json

/-! ### Where reading is broken off -/

namespace Document

open Reading

theorem breaksOff_textOf {value : Json} : (textOf value).BreaksOff ↔ value.IsStray := by
  unfold textOf Json.IsStray
  split
  · simp
  · next hne =>
    by_cases hnothing : value.isNothing = true
    · simp [hnothing]
    · simp only [if_neg hnothing, breaksOff_brokenOff, true_iff]
      exact ⟨hne, Bool.not_eq_true _ ▸ hnothing⟩

theorem not_breaksOff_typable (t : Text) : ¬(typable t).BreaksOff := by
  unfold typable
  split <;> simp

/-- What is made of a text does not break the reading off. Only the value can, for being no text. -/
theorem breaksOff_textOf_andThen {α : Type} {next : Text → Reading α}
    (h : ∀ t, ¬(next t).BreaksOff) {value : Json} :
    ((textOf value).andThen next).BreaksOff ↔ value.IsStray := by
  rw [breaksOff_andThen, breaksOff_textOf]
  constructor
  · rintro (hstray | ⟨t, -, hnext⟩)
    · exact hstray
    · exact absurd hnext (h t)
  · exact Or.inl

theorem breaksOff_verbWord {value : Json} : (verbWord value).BreaksOff ↔ value.IsStray :=
  breaksOff_textOf_andThen fun _ => not_breaksOff_typable _

theorem breaksOff_spelling {value : Json} : (spelling value).BreaksOff ↔ value.IsStray := by
  unfold spelling
  rw [breaksOff_andThen, breaksOff_verbWord]
  constructor
  · rintro (hstray | ⟨t, -, hnext⟩)
    · exact hstray
    · split at hnext
      · exact absurd hnext (not_breaksOff_reject _)
      · exact absurd hnext (not_breaksOff_accepted _)
  · exact Or.inl

theorem breaksOff_names {value : Json} : (names value).BreaksOff ↔ value.IsStray := by
  apply breaksOff_textOf_andThen
  intro t
  dsimp only
  split
  · exact not_breaksOff_reject _
  · exact not_breaksOff_typable _

theorem breaksOff_adjective {value : Json} : (adjective value).BreaksOff ↔ value.IsStray := by
  apply breaksOff_textOf_andThen
  intro t
  split
  · exact not_breaksOff_accepted _
  · rw [breaksOff_map]
    exact not_breaksOff_typable _

/-- **Several words are broken off at the first that is a stray**, if none before it was rejected,
or for being no series. -/
theorem breaksOff_series {α β : Type} {read : Json → Reading α}
    (hread : ∀ value, (read value).BreaksOff ↔ value.IsStray) {f : List α → β} {value : Json} :
    ((seriesOf value).andThen fun values => (sequence read values).map f).BreaksOff ↔
      value.HasStrayWord read := by
  unfold seriesOf Json.HasStrayWord
  split
  · simp [andThen, Reading.sequence, Reading.map, Json.series?]
  · next hne =>
    cases hseries : value.series? with
    | none =>
      show (brokenOff _ : Reading β).BreaksOff ↔ _
      exact iff_of_true (breaksOff_brokenOff _) (Or.inl ⟨hne, rfl⟩)
    | some values =>
      show ((sequence read values).map f).BreaksOff ↔ _
      rw [breaksOff_map, breaksOff_sequence]
      constructor
      · rintro ⟨before, stray, after, rfl, hbefore, hstray⟩
        exact Or.inr ⟨before, stray, after, rfl, hbefore, (hread stray).mp hstray⟩
      · rintro (⟨-, hnone⟩ | ⟨before, stray, after, heq, hbefore, hstray⟩)
        · exact absurd hnone (by simp)
        · exact ⟨before, stray, after, Option.some.inj heq, hbefore, (hread stray).mpr hstray⟩

theorem breaksOff_verbWords {value : Json} :
    (verbWords value).BreaksOff ↔ value.HasStrayWord verbWord :=
  breaksOff_series fun _ => breaksOff_verbWord

theorem breaksOff_adjectives {value : Json} :
    (adjectives value).BreaksOff ↔ value.HasStrayWord adjective :=
  breaksOff_series fun _ => breaksOff_adjective

/-- A field breaks off as its value does. -/
theorem breaksOff_field_iff {α : Type} {fields : List (Text × Json)} {name : String}
    {absent : Reading α} (habsent : ¬absent.BreaksOff) {read : Json → Reading α}
    {P : Json → Prop} (hread : ∀ value, (read value).BreaksOff ↔ P value) :
    (field fields name absent read).BreaksOff ↔ Json.HasField fields name P := by
  rw [breaksOff_field habsent]
  exact exists_congr fun value => and_congr_right fun _ => hread value

/-- **A verb is broken off at a stray in any of its fields.** -/
theorem breaksOff_verb {value : Json} : (verb value).BreaksOff ↔ value.IsStrayVerb := by
  unfold verb Json.IsStrayVerb
  split
  · next fields =>
    have hspelling : (field fields "spelling" (.reject .missing) spelling).BreaksOff ↔
        Json.HasField fields "spelling" Json.IsStray :=
      breaksOff_field_iff (not_breaksOff_reject _) fun _ => breaksOff_spelling
    have hshortcut : (field fields "shortcut" (.accepted []) verbWord).BreaksOff ↔
        Json.HasField fields "shortcut" Json.IsStray :=
      breaksOff_field_iff (not_breaksOff_accepted _) fun _ => breaksOff_verbWord
    have hwords : ∀ name, (field fields name (.accepted []) verbWords).BreaksOff ↔
        Json.HasField fields name (Json.HasStrayWord verbWord) := fun name =>
      breaksOff_field_iff (not_breaksOff_accepted _) fun _ => breaksOff_verbWords
    dsimp only
    rw [breaksOff_both, breaksOff_both, breaksOff_both, hspelling, hwords, hshortcut, hwords]
    simp only [Json.object.injEq, exists_eq_left', or_assoc]
  · next hne =>
    apply iff_of_false (not_breaksOff_reject _)
    rintro ⟨fields, rfl, -⟩
    exact hne fields rfl

/-- **A noun is broken off at a stray in any of its fields.** -/
theorem breaksOff_noun {value : Json} : (noun value).BreaksOff ↔ value.IsStrayNoun := by
  unfold noun Json.IsStrayNoun
  split
  · next fields =>
    have hnames : (field fields "names" (.reject .missing) names).BreaksOff ↔
        Json.HasField fields "names" Json.IsStray :=
      breaksOff_field_iff (not_breaksOff_reject _) fun _ => breaksOff_names
    have hadjectives : (field fields "adjectives" (.accepted []) adjectives).BreaksOff ↔
        Json.HasField fields "adjectives" (Json.HasStrayWord adjective) :=
      breaksOff_field_iff (not_breaksOff_accepted _) fun _ => breaksOff_adjectives
    rw [breaksOff_both, hnames, hadjectives]
    simp only [Json.object.injEq, exists_eq_left']
  · next hne =>
    apply iff_of_false (not_breaksOff_reject _)
    rintro ⟨fields, rfl, -⟩
    exact hne fields rfl

theorem not_breaksOff_textOnly (value : Json) : ¬(textOnly value).BreaksOff := by
  unfold textOnly
  split
  · exact not_breaksOff_accepted _
  · exact not_breaksOff_reject _

/-- A list of entities is broken off at any of them. -/
theorem breaksOff_list {α : Type} {fields : List (Text × Json)} {name : String}
    {read : Json → Reading α} :
    (field fields name (.accepted []) (list read)).BreaksOff ↔
      ∃ entity ∈ entries fields name, (read entity).BreaksOff := by
  unfold entries
  rw [breaksOff_field (not_breaksOff_accepted _)]
  constructor
  · rintro ⟨value, hget, hvalue⟩
    unfold list at hvalue
    split at hvalue
    · rw [hget]
      exact breaksOff_each.mp hvalue
    · exact absurd hvalue (not_breaksOff_reject _)
  · rintro ⟨entity, hmem, hentity⟩
    split at hmem
    · next values hget => exact ⟨_, hget, breaksOff_each.mpr ⟨entity, hmem, hentity⟩⟩
    · exact absurd hmem List.not_mem_nil

/-- **A document is broken off at a stray in any of its entities.** -/
theorem breaksOff_ofFields {fields : List (Text × Json)} :
    (ofFields fields).BreaksOff ↔ (Json.object fields).HasStray := by
  have htext : ∀ name, ¬(field fields name (.accepted []) textOnly).BreaksOff := by
    intro name
    rw [breaksOff_field (not_breaksOff_accepted _)]
    rintro ⟨value, -, hvalue⟩
    exact not_breaksOff_textOnly value hvalue
  have hentities : (ofFields fields).BreaksOff ↔
      (∃ entity ∈ entries fields "verbs", (verb entity).BreaksOff) ∨
        ∃ entity ∈ entries fields "nouns", (noun entity).BreaksOff := by
    unfold ofFields
    dsimp only
    rw [breaksOff_both, breaksOff_both, breaksOff_both, breaksOff_list, breaksOff_list]
    simp only [htext, false_or]
  rw [hentities]
  unfold Json.HasStray
  simp only [breaksOff_verb, breaksOff_noun, Json.object.injEq, exists_eq_left']

end Document

/-! ### Loading -/

/-- The bytes are a text, and the text is the JSON value. -/
def Holds (nesting : Json.Nesting) (bytes : List UInt8) (value : Json) : Prop :=
  ∃ written, Encoding.readAny bytes = .ok written ∧ Json.read nesting written = .ok value

namespace World

theorem load_of_holds {nesting : Json.Nesting} {bytes : List UInt8} {value : Json}
    (h : Holds nesting bytes value) : load nesting (.ok bytes) = ofJson value := by
  obtain ⟨written, hbytes, hvalue⟩ := h
  show ofBytes nesting bytes = ofJson value
  unfold ofBytes
  rw [hbytes]
  show ((Json.read nesting written).mapError LoadFault.json >>= ofJson) = ofJson value
  rw [hvalue]
  rfl

theorem ofJson_of_hasStray {value : Json} (h : value.HasStray) :
    ∃ fault, ofJson value = .error (.wrongKind fault) := by
  obtain ⟨fields, rfl, -⟩ := id h
  obtain ⟨fault, hread⟩ := Document.breaksOff_ofFields.mpr h
  refine ⟨fault, ?_⟩
  unfold ofJson
  dsimp only
  rw [hread]

theorem ofJson_of_not_hasStray {value : Json} (h : ¬value.HasStray) :
    (∃ world, ofJson value = .ok world) ∨ ofJson value = .error .notObject ∨
      ∃ findings, ofJson value = .error (.invalid findings) := by
  unfold ofJson
  split
  · next fields =>
    cases hread : Document.ofFields fields with
    | accepted document =>
      -- the world has nothing against the entities, since their words are in normal form
      have hbuild := Document.build_eq_ok (Document.isNormal_of_ofFields hread)
      refine Or.inl ⟨document.world, ?_⟩
      show document.build.mapError LoadFault.refused = .ok document.world
      rw [hbuild]
      rfl
    | rejected findings => exact Or.inr (Or.inr ⟨findings, rfl⟩)
    | brokenOff fault => exact absurd (Document.breaksOff_ofFields.mp ⟨fault, hread⟩) h
  · exact Or.inr (Or.inl rfl)

/-- **A file that holds a JSON value makes a world or is refused, unless the value has a stray.**
With a stray the reading is broken off, and only then. -/
theorem load_refuses_unless_stray {nesting : Json.Nesting} {bytes : List UInt8} {value : Json}
    (h : Holds nesting bytes value) :
    ((∃ fault, load nesting (.ok bytes) = .error (.wrongKind fault)) ↔ value.HasStray) ∧
      (¬value.HasStray →
        (∃ world, load nesting (.ok bytes) = .ok world) ∨
          load nesting (.ok bytes) = .error .notObject ∨
            ∃ findings, load nesting (.ok bytes) = .error (.invalid findings)) := by
  rw [load_of_holds h]
  by_cases hstray : value.HasStray
  · exact ⟨iff_of_true (ofJson_of_hasStray hstray) hstray, fun hnot => absurd hstray hnot⟩
  · have hrefuses := ofJson_of_not_hasStray hstray
    refine ⟨iff_of_false ?_ hstray, fun _ => hrefuses⟩
    rintro ⟨fault, hfault⟩
    rw [hfault] at hrefuses
    exact absurd hrefuses (by simp)

/-- The bytes of a text of the ASCII range. -/
def asciiBytes (written : Text) : List UInt8 := written.map fun c => c.toNat.toUInt8

/-- A document with a number among the adjectives of a noun. -/
def ballText : Text :=
  "\x7b\"nouns\": [\x7b\"names\": \"ball\", \"adjectives\": [\"red\", 5]\x7d]\x7d".toList

/-- The value that the document is. -/
def ballValue : Json :=
  .ofFields [("nouns", .array [.ofFields [
    ("names", .ofString "ball"),
    ("adjectives", .array [.ofString "red", .int 5])]])]

theorem load_ballText : Holds .usual (asciiBytes ballText) ballValue ∧ ballValue.HasStray ∧
    ∃ fault, load .usual (.ok (asciiBytes ballText)) = .error (.wrongKind fault) := by
  have hholds : Holds .usual (asciiBytes ballText) ballValue := by
    -- the reader recurses on the length of what is left, so it unfolds only when it is told to
    refine ⟨ballText, ?_, by with_unfolding_all rfl⟩
    show Encoding.readUtf8 true 0 (asciiBytes ballText) = .ok ballText
    decide +kernel
  have hfive : (Json.int 5).IsStray := ⟨fun t => by simp, rfl⟩
  have hred : ∀ word ∈ [Json.ofString "red"], ∃ a, Document.adjective word = .accepted a := by
    intro word hword
    rw [List.mem_singleton.mp hword]
    exact ⟨some "red".toList, by rfl⟩
  have hadjectives : Json.HasStrayWord Document.adjective
      (.array [.ofString "red", .int 5]) := Or.inr ⟨[.ofString "red"], .int 5, [], rfl, hred, hfive⟩
  have hstray : ballValue.HasStray :=
    ⟨_, rfl, Or.inr ⟨_, List.mem_singleton_self _, _, rfl, Or.inr ⟨_, rfl, hadjectives⟩⟩⟩
  exact ⟨hholds, hstray, (load_refuses_unless_stray hholds).1.mpr hstray⟩

/-- A document with a number for the spelling of a verb. -/
def numberText : Text := "\x7b\"verbs\": [\x7b\"spelling\": 5\x7d]\x7d".toList

/-- There are files that hold a JSON value, and neither make a world nor are refused. -/
theorem exists_holds_numberText :
    (∃ value, Holds .usual (asciiBytes numberText) value) ∧
      load .usual (.ok (asciiBytes numberText)) = .error (.wrongKind (.notText "int")) := by
  have hholds : Holds .usual (asciiBytes numberText)
      (.ofFields [("verbs", .array [.ofFields [("spelling", .int 5)]])]) := by
    refine ⟨numberText, ?_, by with_unfolding_all rfl⟩
    show Encoding.readUtf8 true 0 (asciiBytes numberText) = .ok numberText
    decide +kernel
  refine ⟨⟨_, hholds⟩, ?_⟩
  rw [load_of_holds hholds]
  rfl

end World

end CommandPrompt
