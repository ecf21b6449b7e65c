import CommandPrompt.Proofs.Context.Grammar

/-!
# Lines that are commands

A clean line that ends in a space begins a new word, so all of its words are settled. In a world
whose spellings hold no space, whether such a line has a context is then a property of its words:
`World.IsCommand` is what the first word and the words behind it have to meet, and
`World.commandGroups` are the groups they make up. `Context.exists_ofLine_iff_isCommand` says so for
a list of words, and `Context.exists_isCommand_of_ofLine` finds the words of a given line.

What happens to a line when words are added or left out can then be proved about lists of words.
-/

namespace CommandPrompt

namespace World

variable (world : World)

/-- What a word and the words behind it have to meet to be a command. -/
structure IsCommand (t : Text) (ts : List Text) : Prop where
  placed : world.IsPlaced (t :: ts)
  not_shared : ∀ u ∈ ts, ¬world.IsSharedPreposition u
  fit : ∀ part ∈ world.wordParts ts, ¬world.IsUnfitPart part

variable {world} in
theorem isCommand_iff {t : Text} {ts : List Text} :
    world.IsCommand t ts ↔ world.IsPlaced (t :: ts) ∧ (∀ u ∈ ts, ¬world.IsSharedPreposition u) ∧
      ∀ part ∈ world.wordParts ts, ¬world.IsUnfitPart part :=
  ⟨fun h => ⟨h.placed, h.not_shared, h.fit⟩, fun ⟨hplaced, hshared, hfit⟩ =>
    ⟨hplaced, hshared, hfit⟩⟩

instance (t : Text) (ts : List Text) : Decidable (world.IsCommand t ts) :=
  decidable_of_iff _ isCommand_iff.symm

/-- The groups of a command. -/
def commandGroups (t : Text) (ts : List Text) : List Group :=
  .verb ((AmbiguityGroup.ofKey world.vocabulary t.lower).filter Word.isVerb) ::
    (world.wordParts ts).flatMap world.wordGroups

/-- **What comes behind typed words changes nothing that is closed.** The words are cut into parts
that stay, and words that name no noun and are no prepositions, which belong to a phrase that the
next words go on with. -/
theorem exists_wordParts_append (ts : List Text) :
    ∃ closed number opened,
      (∀ t ∈ opened, Part.IsPlain world.isPreposition world.isName t) ∧
      world.wordParts ts = closed ++ Part.phraseOf number opened ∧
      ∀ rest, world.wordParts (ts ++ rest) =
        closed ++ Part.cut world.isPreposition world.isName number (opened ++ rest) := by
  obtain ⟨closed, number, opened, hplain, hcut⟩ :=
    @Part.exists_cut_append _ world.isPreposition world.isName 0 ts
  have hts : world.wordParts ts = closed ++ Part.phraseOf number opened := by
    have hnil := hcut []
    rw [List.append_nil, List.append_nil, Part.cut_of_plain hplain] at hnil
    exact hnil
  exact ⟨closed, number, opened, hplain, hts, hcut⟩

end World

/-! ### Lines that end in a space -/

/-- A clean text that ends in a space is a first word, further words and the space. -/
theorem Text.exists_eq_unwords_append_space {t : Text} (hclean : t.clean = t)
    (hspace : t.getLast? = some ' ') :
    ∃ v ts, t.words = v :: ts ∧ t = unwords (v :: ts) ++ [' '] ∧
      ∀ u ∈ v :: ts, u.IsWord ∧ u.AllTypable := by
  have htyp : t.isTypable := by
    rw [← hclean]
    exact isTypable_clean t
  obtain ⟨hne, heq⟩ := eq_unwords_append_space htyp hspace
  obtain ⟨v, ts, hwords⟩ := List.exists_cons_of_ne_nil hne
  rw [hwords] at heq
  refine ⟨v, ts, hwords, heq, fun u hu => ?_⟩
  rw [← hwords] at hu
  exact ⟨isWord_of_mem_words hu, allTypable_of_mem_words (AllTypable.of_isTypable htyp) hu⟩

/-- One word more and a space make a line of words and a space again. -/
theorem Text.append_word_append_space (t u : Text) (ts : List Text) :
    unwords (t :: ts) ++ [' '] ++ u ++ [' '] = unwords (t :: (ts ++ [u])) ++ [' '] := by
  rw [← List.cons_append, unwords_concat (List.cons_ne_nil t ts), List.append_assoc _ [' '] u,
    List.singleton_append]

namespace Context

variable {world : World} (h : world.Sound) (hsingle : world.HasSingleWords)
include h hsingle

theorem readGroups_eq_ok_iff_isCommand {t : Text} {ts : List Text}
    (hts : ∀ u ∈ t :: ts, u.IsWord ∧ u.AllTypable) {groups : List Group} :
    readGroups (Catalog.ofWorld world) (Text.unwords (t :: ts)) = .ok groups ↔
      world.IsCommand t ts ∧ groups = world.commandGroups t ts := by
  rw [readGroups_cons_eq_ok_iff h hsingle hts, World.isCommand_iff, and_assoc, and_assoc,
    World.commandGroups]

/-- **A line of words and a space behind them has a context** just if the words are a command, and
its groups are those of the command. -/
theorem exists_ofLine_iff_isCommand (round : Rounding) (limit : Int) {t : Text} {ts : List Text}
    (hts : ∀ u ∈ t :: ts, u.IsWord ∧ u.AllTypable) {groups : List Group} :
    (∃ context, ofLine round (Catalog.ofWorld world) (.whole limit)
        (Line.atEnd (Text.unwords (t :: ts) ++ [' '])) = .ok context ∧
      context.groups = groups) ↔
      world.IsCommand t ts ∧ groups = world.commandGroups t ts := by
  -- the space begins a new word, so all words before it are read
  have hsettled := settledPart_atEnd (List.cons_ne_nil t ts) hts
  rw [← readGroups_eq_ok_iff_isCommand h hsingle hts]
  constructor
  · rintro ⟨context, hcontext, rfl⟩
    have hread := groups_of_ofLine_eq_ok h round limit _ hcontext
    rwa [hsettled] at hread
  · intro hread
    rw [← hsettled] at hread
    exact exists_ofLine_of_ok h round limit _ hread

/-- A clean line that ends in a space, and whose words are a command, has the groups of that. -/
theorem exists_ofLine_of_isCommand (round : Rounding) (limit : Int) (line : Text)
    (hclean : line.clean = line) (hspace : line.getLast? = some ' ') {t : Text} {ts : List Text}
    (hwords : line.words = t :: ts) (hcommand : world.IsCommand t ts) :
    ∃ context, ofLine round (Catalog.ofWorld world) (.whole limit) (Line.atEnd line) =
        .ok context ∧
      context.groups = world.commandGroups t ts := by
  obtain ⟨v, us, hsplit, heq, hus⟩ := Text.exists_eq_unwords_append_space hclean hspace
  obtain ⟨rfl, rfl⟩ := List.cons.inj (hsplit.symm.trans hwords)
  rw [heq]
  exact (exists_ofLine_iff_isCommand h hsingle round limit hus).mpr ⟨hcommand, rfl⟩

/-- The words of a line that has a context are a command. -/
theorem exists_isCommand_of_ofLine {round : Rounding} {limit : Int} {t : Text}
    (hclean : t.clean = t) (hspace : t.getLast? = some ' ') {context : Context}
    (hcontext : ofLine round (Catalog.ofWorld world) (.whole limit) (Line.atEnd t) = .ok context) :
    ∃ v ts, t.words = v :: ts ∧ t = Text.unwords (v :: ts) ++ [' '] ∧
      (∀ u ∈ v :: ts, u.IsWord ∧ u.AllTypable) ∧
      world.IsCommand v ts ∧ context.groups = world.commandGroups v ts := by
  obtain ⟨v, ts, hwords, heq, hts⟩ := Text.exists_eq_unwords_append_space hclean hspace
  rw [heq] at hcontext
  exact ⟨v, ts, hwords, heq, hts,
    (exists_ofLine_iff_isCommand h hsingle round limit hts).mp ⟨context, hcontext, rfl⟩⟩

end Context

end CommandPrompt
