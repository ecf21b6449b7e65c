import CommandPrompt.Proofs.World.Catalog

/-!
# How shortcuts are displayed

A verb gathers its words in a fixed order: its spelling and synonyms, then its shortcut, which is
to be displayed together with the spelling, then its prepositions. How a word is displayed does not
count when words are told apart, so of words that are spelled alike the first is kept and decides.

A vocabulary has the first word of every class (`Word.filter_same_sort_distinct`), and no other
entity has a word of a class of this verb (`World.Sound.find?_words`). So all that matters is
whether the shortcut is a spelling or synonym of its own verb. If it is not, then it is displayed
with the verb, whatever else is spelled like it; if it is, the display text is lost
(`World.shortcut_display`).
-/

namespace CommandPrompt

/-- A word with a display text of its own is displayed with it, if there is anything to see. -/
theorem Word.display_of_shownAs {w : Word} {t : Text} (h : w.shownAs = some t) (hne : t ≠ []) :
    w.display = t := by
  rw [display, h]
  cases t with
  | nil => exact absurd rfl hne
  | cons c cs => rfl

namespace Verb

/-- The word that stands for a shortcut in a vocabulary. -/
def shortcutWord (verb : Verb) (shortcut : Text) : Word where
  spelling := shortcut
  sense := .verb verb
  shownAs :=
    if shortcut ∈ verb.spelling :: verb.synonyms then none
    else some (shortcut ++ [' ', '('] ++ verb.spelling ++ [')'])

/-- A word of the verb that is the same as another one is spelled like it, if both are in lower
case. -/
theorem eq_of_same {verb : Verb} {s t : Text} {shown shown' : Option Text} (hs : s.lower = s)
    (ht : t.lower = t) (h : Word.same ⟨t, .verb verb, shown⟩ ⟨s, .verb verb, shown'⟩) : t = s :=
  calc t = t.lower := ht.symm
    _ = s.lower := Word.key_eq_of_same h
    _ = s := hs

/-- Among words that are displayed as they are spelled, it does not matter which one is found. -/
theorem find?_map_spelled {verb : Verb} {s : Text} {ts : List Text} (hs : s.lower = s)
    (hts : ∀ t ∈ ts, t.lower = t) :
    (ts.map (⟨·, .verb verb, none⟩ : Text → Word)).find? (Word.same · ⟨s, .verb verb, none⟩) =
      if s ∈ ts then some ⟨s, .verb verb, none⟩ else none := by
  induction ts with
  | nil => rfl
  | cons t ts ih =>
    rw [List.map_cons]
    by_cases heq : t = s
    · subst heq
      rw [if_pos List.mem_cons_self]
      exact List.find?_cons_of_pos (Word.same_refl _)
    · have hne : ¬Word.same ⟨t, .verb verb, none⟩ ⟨s, .verb verb, none⟩ :=
        fun hsame => heq (eq_of_same hs (hts t List.mem_cons_self) hsame)
      rw [List.find?_cons_of_neg (p := (Word.same · ⟨s, .verb verb, none⟩)) hne,
        ih fun u hu => hts u (List.mem_cons_of_mem t hu)]
      exact if_congr ⟨List.mem_cons_of_mem t, List.mem_of_ne_of_mem (Ne.symm heq)⟩ rfl rfl

/-- **The first word of a verb that is spelled like its shortcut.** -/
theorem find?_words {verb : Verb} (hlower : ∀ t ∈ verb.spellings, t.lower = t) {s : Text}
    (hs : verb.shortcut = some s) :
    verb.words.find? (Word.same · ⟨s, .verb verb, none⟩) = some (verb.shortcutWord s) := by
  have hslower : s.lower = s := hlower s (by simp [spellings, hs])
  have hspelled := @find?_map_spelled verb s (verb.spelling :: verb.synonyms) hslower
    fun t ht => hlower t (List.mem_append_left _ (List.mem_append_left _ ht))
  rw [words, hs, List.find?_append, List.find?_append, hspelled, shortcutWord]
  by_cases hmem : s ∈ verb.spelling :: verb.synonyms
  · -- the word that was found first comes before the shortcut, and has no display text
    rw [if_pos hmem, if_pos hmem]
    rfl
  · -- the words before the shortcut are passed over, and its own comes next
    rw [if_neg hmem, if_neg hmem, Option.none_or, Option.toList_some, List.map_singleton]
    refine congrArg (Option.or · _) (List.find?_cons_of_pos ?_)
    exact Word.same_iff.mpr ⟨rfl, rfl, rfl⟩

end Verb

namespace World

/-- **A verb shares no class of words with other entities**: what is the same as a word of the verb
is found among the words of the verb. -/
theorem Sound.find?_words {world : World} (h : world.Sound) {verb : Verb}
    (hverb : verb ∈ world.verbs) {w : Word} (hw : w.sense = .verb verb) :
    world.words.find? (Word.same · w) = verb.words.find? (Word.same · w) := by
  have href : w.ref = verb.ref := by rw [Word.ref, hw]; rfl
  have hpart : w.partOfSpeech = .verb := by rw [Word.partOfSpeech, hw]; rfl
  -- words of another verb have another number, those of a noun another part of speech
  have hothers : ∀ verbs : List Verb, (∀ v ∈ verbs, v.ref ≠ verb.ref) →
      (verbs.flatMap Verb.words).find? (Word.same · w) = none := by
    intro verbs hverbs
    rw [List.find?_eq_none]
    intro u hu hsame
    obtain ⟨v, hv, hu⟩ := List.mem_flatMap.mp hu
    have hvref : u.ref = v.ref := by
      rcases Verb.of_mem_words hu with hsense | hsense <;> rw [Word.ref, hsense] <;> rfl
    exact hverbs v hv (hvref.symm.trans ((Word.same_iff.mp hsame).2.1.trans href))
  have hnouns : (world.nouns.flatMap Noun.words).find? (Word.same · w) = none := by
    rw [List.find?_eq_none]
    intro u hu hsame
    obtain ⟨n, -, hu⟩ := List.mem_flatMap.mp hu
    have hupart := (Word.same_iff.mp hsame).2.2.trans hpart
    rcases Noun.mem_words.mp hu with ⟨t, -, rfl⟩ | ⟨t, -, rfl⟩
    · exact PartOfSpeech.noConfusion hupart
    · exact PartOfSpeech.noConfusion hupart
  obtain ⟨before, behind, hsplit, hbefore, hbehind⟩ := exists_append_of_increasing h.verbs_lt hverb
  rw [words, hsplit, List.flatMap_append, List.flatMap_cons, List.find?_append, List.find?_append,
    List.find?_append, hothers before hbefore, hothers behind hbehind, hnouns, Option.none_or,
    Option.or_none, Option.or_none]

/-- The vocabulary has one word for a shortcut. -/
theorem Sound.filter_vocabulary_shortcut {world : World} (h : world.Sound) {verb : Verb}
    (hverb : verb ∈ world.verbs) {s : Text} (hs : verb.shortcut = some s) :
    world.vocabulary.filter (Word.same · ⟨s, .verb verb, none⟩) = [verb.shortcutWord s] := by
  have hlower : ∀ t ∈ verb.spellings, t.lower = t := fun t ht => (h.verb_spelling verb hverb t ht).2
  rw [vocabulary, Word.filter_same_sort_distinct, h.find?_words hverb rfl,
    Verb.find?_words hlower hs, Option.toList_some]

/-- A word for the verb that is spelled like its shortcut is the one word for it. -/
theorem eq_shortcutWord {world : World} (h : world.Sound) {verb : Verb}
    (hverb : verb ∈ world.verbs) {s : Text} (hs : verb.shortcut = some s) {w : Word}
    (hw : w ∈ world.vocabulary) (hwverb : w.isVerb) (href : w.ref = verb.ref)
    (hspelling : w.spelling = s) : w = verb.shortcutWord s := by
  have hsame : Word.same w ⟨s, .verb verb, none⟩ :=
    Word.same_iff.mpr ⟨congrArg Text.lower hspelling, href, beq_iff_eq.mp hwverb⟩
  have hown : w ∈ world.vocabulary.filter (Word.same · ⟨s, .verb verb, none⟩) :=
    List.mem_filter.mpr ⟨hw, hsame⟩
  rw [h.filter_vocabulary_shortcut hverb hs] at hown
  exact List.mem_singleton.mp hown

/-- **A shortcut is displayed with its verb, unless the verb has it for a spelling or synonym.** It
has one word in the vocabulary in any case. -/
theorem shortcut_display {world : World} (h : world.Built) {verb : Verb}
    (hverb : verb ∈ world.verbs) {s : Text} (hs : verb.shortcut = some s) :
    ∃ w ∈ world.vocabulary, w.sense = .verb verb ∧ w.spelling = s ∧
      (∀ u ∈ world.vocabulary, u.isVerb → u.ref = verb.ref → u.spelling = s → u = w) ∧
      (w.display = s ++ [' ', '('] ++ verb.spelling ++ [')'] ↔
        s ∉ verb.spelling :: verb.synonyms) ∧
      (s ∈ verb.spelling :: verb.synonyms → w.display = s) := by
  have hclass := h.sound.filter_vocabulary_shortcut hverb hs
  have hmem : verb.shortcutWord s ∈ world.vocabulary := by
    have hown : verb.shortcutWord s ∈ [verb.shortcutWord s] := List.mem_singleton_self _
    rw [← hclass] at hown
    exact (List.mem_filter.mp hown).1
  refine ⟨verb.shortcutWord s, hmem, rfl, rfl, ?_, ?_, ?_⟩
  · exact fun u hu huverb href hspelling =>
      eq_shortcutWord h.sound hverb hs hu huverb href hspelling
  · constructor
    · intro hdisplay hown
      rw [Verb.shortcutWord, if_pos hown] at hdisplay
      -- a display text of its own is longer than the shortcut
      have hlength := congrArg List.length hdisplay
      simp only [Word.display, List.length_append, List.length_cons, List.length_nil] at hlength
      omega
    · intro hother
      rw [Verb.shortcutWord, if_neg hother]
      exact Word.display_of_shownAs rfl (by simp)
  · intro hown
    rw [Verb.shortcutWord, if_pos hown]
    rfl

/-- A verb with a shortcut that is a preposition of it, and the name of a noun, too. -/
def lookWorld : World :=
  let withVerb := (addVerb {} {
    spelling := "look".toList
    shortcut := "at".toList
    prepositions := ["at".toList] }).1
  (withVerb.addNoun ⟨"at".toList, []⟩).1

/-- The verb of that world. -/
def lookVerb : Verb := ⟨1, "look".toList, [], some "at".toList, ["at".toList]⟩

theorem shortcut_display_lookVerb :
    lookWorld.Built ∧ lookVerb ∈ lookWorld.verbs ∧ lookVerb.shortcut = some "at".toList ∧
      ∃ w ∈ lookWorld.vocabulary, w.sense = .verb lookVerb ∧ w.spelling = "at".toList ∧
        w.display = "at (look)".toList := by
  have hbuilt : lookWorld.Built := ((Built.empty [] []).addVerb _).addNoun _
  have hverb : lookVerb ∈ lookWorld.verbs := by decide
  obtain ⟨w, hw, hsense, hspelling, -, hdisplay, -⟩ := shortcut_display hbuilt hverb rfl
  exact ⟨hbuilt, hverb, rfl, w, hw, hsense, hspelling, hdisplay.mpr (by decide)⟩

/-- A verb with a shortcut that is a synonym of it. -/
def examineWorld : World :=
  (addVerb {} {
    spelling := "examine".toList
    synonyms := ["x".toList]
    shortcut := "x".toList }).1

/-- The verb of that world. -/
def examineVerb : Verb := ⟨1, "examine".toList, ["x".toList], some "x".toList, []⟩

theorem exists_shortcut_without_verb :
    examineWorld.Built ∧ examineVerb ∈ examineWorld.verbs ∧
      examineVerb.shortcut = some "x".toList ∧
      ∀ w ∈ examineWorld.vocabulary, w.isVerb → w.ref = examineVerb.ref →
        w.spelling = "x".toList → w.display ≠ "x (examine)".toList := by
  have hbuilt : examineWorld.Built := (Built.empty [] []).addVerb _
  have hverb : examineVerb ∈ examineWorld.verbs := by decide
  refine ⟨hbuilt, hverb, rfl, fun w hw hwverb href hspelling => ?_⟩
  rw [eq_shortcutWord hbuilt.sound hverb rfl hw hwverb href hspelling]
  decide

end World

end CommandPrompt
