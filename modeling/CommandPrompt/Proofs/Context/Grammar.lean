import CommandPrompt.Proofs.Context.Reading
import CommandPrompt.Proofs.Phrase.TypedWords

/-!
# The grammar of commands

In a world whose spellings hold no space, whether a line has a context, and why not, can be told
from its settled words alone (`ofLine_decides_grammar`). The faults are found in a fixed order: a
word that is not known; then the first word that cannot stand at its position; then a preposition
that two verbs share; then a noun phrase that no noun fits. A line without any of them has a
context, whatever the caret, the letters under it and the number of suggestions are.

Which fault a list of words has is found out once, for reading (`verdict_readGroups`): a verdict is
one of five that exclude each other, and each of them goes with an outcome of its own.
-/

namespace CommandPrompt

/-- The words before the one under the caret, once the line is cleaned. -/
def Context.settledWords (line : Line) : List Text := (settledPart line.clean).words

/-- Whether no spelling of the world holds a space. -/
def World.HasSingleWords (world : World) : Prop := ∀ w ∈ world.words, ' ' ∉ w.spelling

instance (world : World) : Decidable world.HasSingleWords :=
  inferInstanceAs (Decidable (∀ w ∈ world.words, ' ' ∉ w.spelling))

/-- A spelling without a space is a word. -/
theorem World.HasSingleWords.isWord {world : World} (hsingle : world.HasSingleWords)
    (h : world.Sound) {w : Word} (hw : w ∈ world.words) : w.spelling.IsWord where
  ne_nil := (h.isSpelling hw).ne_nil
  not_blank := by
    intro c hc
    rw [Bool.eq_false_iff]
    intro hblank
    obtain rfl := (h.isSpelling hw).allTypable.eq_space c hc hblank
    exact hsingle w hw hc

theorem World.HasSingleWords.isWord_concat {world : World} (hsingle : world.HasSingleWords)
    (h : world.Sound) {ts : List Text} (hts : ∀ t ∈ ts, t.IsWord ∧ t.AllTypable) {w : Word}
    (hw : w ∈ world.words) : ∀ t ∈ ts ++ [w.spelling], t.IsWord ∧ t.AllTypable := by
  intro t ht
  rcases List.mem_append.mp ht with ht | ht
  · exact hts t ht
  · obtain rfl := List.mem_singleton.mp ht
    exact ⟨hsingle.isWord h hw, (h.isSpelling hw).allTypable⟩

/-- A spelling without a space has no blank at all. -/
theorem World.HasSingleWords.not_isBlank {world : World} (hsingle : world.HasSingleWords)
    (h : world.Sound) : ∀ w ∈ world.vocabulary, ∀ c ∈ w.spelling, isBlank c = false := by
  intro w hw
  exact (hsingle.isWord h (World.mem_words_of_mem_vocabulary hw)).not_blank

namespace World

/-- Only one word is the first misplaced one. -/
theorem IsFirstMisplaced.unique {world : World} {ts : List Text} {p q : Nat}
    (hp : world.IsFirstMisplaced ts p) (hq : world.IsFirstMisplaced ts q) : p = q := by
  obtain ⟨⟨t, ht, hat⟩, hbefore⟩ := hp
  obtain ⟨⟨u, hu, huat⟩, hubefore⟩ := hq
  rcases Nat.lt_trichotomy p q with hlt | heq | hlt
  · exact absurd hat (hubefore p hlt t ht)
  · exact heq
  · exact absurd huat (hbefore q hlt u hu)

/-- **What becomes of typed words**: the first of four faults, in the order in which they are found,
or groups. -/
inductive Verdict (world : World) (ts : List Text) : Except Misreading (List Group) → Prop where
  | unknown {misreading : Misreading} (hunknown : ∃ t ∈ ts, ¬world.Knows t)
      (hunmatched : misreading.isUnmatched) : Verdict world ts (.error misreading)
  | misplaced {position : Nat} (hknown : ∀ t ∈ ts, world.Knows t)
      (hfirst : world.IsFirstMisplaced ts position) :
      Verdict world ts (.error (.partOfSpeech position))
  | shared {spelling : Text} (hplaced : world.IsPlaced ts)
      (hshared : ∃ t ∈ ts.tail, world.IsSharedPreposition t) :
      Verdict world ts (.error (.ambiguousPreposition spelling))
  | unfit {number : Nat} (hplaced : world.IsPlaced ts)
      (hnone : ∀ t ∈ ts.tail, ¬world.IsSharedPreposition t)
      (hunfit : ∃ part ∈ world.wordParts ts.tail, world.IsUnfitPart part) :
      Verdict world ts (.error (.noConsistentNoun number))
  | command {groups : List Group} (hplaced : world.IsPlaced ts)
      (hnone : ∀ t ∈ ts.tail, ¬world.IsSharedPreposition t)
      (hfit : ∀ part ∈ world.wordParts ts.tail, ¬world.IsUnfitPart part) :
      Verdict world ts (.ok groups)

/-! ### One verdict for every list of words -/

section Verdict

variable {world : World} {ts : List Text} {outcome : Except Misreading (List Group)}

theorem IsPlaced.not_isFirstMisplaced (hplaced : world.IsPlaced ts) (position : Nat) :
    ¬world.IsFirstMisplaced ts position :=
  fun ⟨⟨t, ht, hmisplaced⟩, _⟩ => hplaced.2 position t ht hmisplaced

/-- Words that are placed are known. -/
theorem IsPlaced.not_exists_unknown (hplaced : world.IsPlaced ts) :
    ¬∃ t ∈ ts, ¬world.Knows t :=
  fun ⟨t, ht, hunknown⟩ => hunknown (hplaced.1 t ht)

variable (h : world.Verdict ts outcome)
include h

theorem Verdict.unmatched_iff :
    (∃ misreading, outcome = .error misreading ∧ misreading.isUnmatched) ↔
      ∃ t ∈ ts, ¬world.Knows t := by
  cases h with
  | unknown hunknown hunmatched => exact iff_of_true ⟨_, rfl, hunmatched⟩ hunknown
  | misplaced hknown hfirst =>
    exact iff_of_false (by simp [Misreading.isUnmatched]) fun ⟨t, ht, hnot⟩ => hnot (hknown t ht)
  | shared hplaced hshared =>
    exact iff_of_false (by simp [Misreading.isUnmatched]) hplaced.not_exists_unknown
  | unfit hplaced hnone hunfit =>
    exact iff_of_false (by simp [Misreading.isUnmatched]) hplaced.not_exists_unknown
  | command hplaced hnone hfit => exact iff_of_false (by simp) hplaced.not_exists_unknown

theorem Verdict.partOfSpeech_iff (position : Nat) :
    outcome = .error (.partOfSpeech position) ↔
      (∀ t ∈ ts, world.Knows t) ∧ world.IsFirstMisplaced ts position := by
  cases h with
  | @unknown misreading hunknown hunmatched =>
    obtain ⟨t, ht, hnot⟩ := hunknown
    refine iff_of_false (fun heq => ?_) fun hboth => hnot (hboth.1 t ht)
    rw [Except.error.inj heq] at hunmatched
    exact absurd hunmatched (by simp [Misreading.isUnmatched])
  | misplaced hknown hfirst =>
    -- only one position is the first
    rw [Except.error.injEq, Misreading.partOfSpeech.injEq]
    exact ⟨fun heq => ⟨hknown, heq ▸ hfirst⟩, fun hboth => hfirst.unique hboth.2⟩
  | shared hplaced hshared =>
    exact iff_of_false (by simp) fun hboth => hplaced.not_isFirstMisplaced position hboth.2
  | unfit hplaced hnone hunfit =>
    exact iff_of_false (by simp) fun hboth => hplaced.not_isFirstMisplaced position hboth.2
  | command hplaced hnone hfit =>
    exact iff_of_false (by simp) fun hboth => hplaced.not_isFirstMisplaced position hboth.2

theorem Verdict.ambiguousPreposition_iff :
    (∃ spelling, outcome = .error (.ambiguousPreposition spelling)) ↔
      world.IsPlaced ts ∧ ∃ t ∈ ts.tail, world.IsSharedPreposition t := by
  cases h with
  | @unknown misreading hunknown hunmatched =>
    refine iff_of_false ?_ fun hboth => hboth.1.not_exists_unknown hunknown
    rintro ⟨spelling, heq⟩
    rw [Except.error.inj heq] at hunmatched
    exact absurd hunmatched (by simp [Misreading.isUnmatched])
  | misplaced hknown hfirst =>
    exact iff_of_false (by simp) fun hboth => hboth.1.not_isFirstMisplaced _ hfirst
  | shared hplaced hshared => exact iff_of_true ⟨_, rfl⟩ ⟨hplaced, hshared⟩
  | unfit hplaced hnone hunfit =>
    exact iff_of_false (by simp) fun ⟨_, t, ht, hshared⟩ => hnone t ht hshared
  | command hplaced hnone hfit =>
    exact iff_of_false (by simp) fun ⟨_, t, ht, hshared⟩ => hnone t ht hshared

theorem Verdict.noConsistentNoun_iff :
    (∃ number, outcome = .error (.noConsistentNoun number)) ↔
      world.IsPlaced ts ∧ (∀ t ∈ ts.tail, ¬world.IsSharedPreposition t) ∧
        ∃ part ∈ world.wordParts ts.tail, world.IsUnfitPart part := by
  cases h with
  | @unknown misreading hunknown hunmatched =>
    refine iff_of_false ?_ fun hall => hall.1.not_exists_unknown hunknown
    rintro ⟨number, heq⟩
    rw [Except.error.inj heq] at hunmatched
    exact absurd hunmatched (by simp [Misreading.isUnmatched])
  | misplaced hknown hfirst =>
    exact iff_of_false (by simp) fun hall => hall.1.not_isFirstMisplaced _ hfirst
  | shared hplaced hshared =>
    obtain ⟨t, ht, hshared⟩ := hshared
    exact iff_of_false (by simp) fun hall => hall.2.1 t ht hshared
  | unfit hplaced hnone hunfit => exact iff_of_true ⟨_, rfl⟩ ⟨hplaced, hnone, hunfit⟩
  | command hplaced hnone hfit =>
    exact iff_of_false (by simp) fun ⟨_, _, part, hpart, hunfit⟩ => hfit part hpart hunfit

theorem Verdict.ok_iff :
    (∃ groups, outcome = .ok groups) ↔
      world.IsPlaced ts ∧ (∀ t ∈ ts.tail, ¬world.IsSharedPreposition t) ∧
        ∀ part ∈ world.wordParts ts.tail, ¬world.IsUnfitPart part := by
  cases h with
  | unknown hunknown hunmatched =>
    exact iff_of_false (by simp) fun hall => hall.1.not_exists_unknown hunknown
  | misplaced hknown hfirst =>
    exact iff_of_false (by simp) fun hall => hall.1.not_isFirstMisplaced _ hfirst
  | shared hplaced hshared =>
    obtain ⟨t, ht, hshared⟩ := hshared
    exact iff_of_false (by simp) fun hall => hall.2.1 t ht hshared
  | unfit hplaced hnone hunfit =>
    obtain ⟨part, hpart, hunfit⟩ := hunfit
    exact iff_of_false (by simp) fun hall => hall.2.2 part hpart hunfit
  | command hplaced hnone hfit => exact iff_of_true ⟨_, rfl⟩ ⟨hplaced, hnone, hfit⟩

end Verdict

end World

namespace Context

variable {world : World}

/-- **Reading passes the verdict** that the words deserve. -/
theorem verdict_readGroups (h : world.Sound) (hsingle : world.HasSingleWords) {ts : List Text}
    (hts : ∀ t ∈ ts, t.IsWord ∧ t.AllTypable) :
    world.Verdict ts (readGroups (Catalog.ofWorld world) (Text.unwords ts)) := by
  have hblank := hsingle.not_isBlank h
  by_cases hknown : ∀ t ∈ ts, world.Knows t
  · by_cases hplaced : world.IsPlaced ts
    · cases ts with
      | nil =>
        rw [readGroups_nil h hblank]
        exact .command hplaced (fun t ht => absurd ht List.not_mem_nil)
          fun part hpart => absurd hpart List.not_mem_nil
      | cons t ts =>
        rw [readGroups_eq_meaning h hblank hts hplaced]
        -- from here on the meaning of the places tells the faults apart
        rcases h.meaning_cases (place_ne_nil_of_isPlaced hplaced)
          ((AmbiguityGroup.ofKey world.vocabulary t.lower).filter Word.isVerb) with
          ⟨hshared, _, herror⟩ | ⟨hnone, hunfit, _, herror⟩ | ⟨hnone, hfit, hok⟩
        · exact herror ▸ .shared hplaced hshared
        · exact herror ▸ .unfit hplaced hnone hunfit
        · exact hok ▸ .command hplaced hnone hfit
    · obtain ⟨position, t, ht, hmis⟩ : ∃ position t, ts[position]? = some t ∧
          world.IsMisplaced position t := by
        by_contra hnone
        push Not at hnone
        exact hplaced ⟨hknown, hnone⟩
      obtain ⟨first, hfirst⟩ := exists_isFirstMisplaced ht hmis
      rw [readGroups_of_misplaced h hblank hts hknown hfirst]
      exact .misplaced hknown hfirst
  · push Not at hknown
    obtain ⟨misreading, hread, hunmatched⟩ := readGroups_of_unknown h hblank hts hknown
    exact hread ▸ .unknown hknown hunmatched

/-- **What typed words amount to**, if they have no fault. -/
theorem readGroups_cons_eq_ok_iff (h : world.Sound) (hsingle : world.HasSingleWords) {t : Text}
    {ts : List Text} (hts : ∀ u ∈ t :: ts, u.IsWord ∧ u.AllTypable) {groups : List Group} :
    readGroups (Catalog.ofWorld world) (Text.unwords (t :: ts)) = .ok groups ↔
      world.IsPlaced (t :: ts) ∧ (∀ u ∈ ts, ¬world.IsSharedPreposition u) ∧
        (∀ part ∈ world.wordParts ts, ¬world.IsUnfitPart part) ∧
        groups = .verb ((AmbiguityGroup.ofKey world.vocabulary t.lower).filter Word.isVerb) ::
          (world.wordParts ts).flatMap world.wordGroups := by
  have hmeaning : world.IsPlaced (t :: ts) → (∀ u ∈ ts, ¬world.IsSharedPreposition u) →
      (∀ part ∈ world.wordParts ts, ¬world.IsUnfitPart part) →
      readGroups (Catalog.ofWorld world) (Text.unwords (t :: ts)) =
        .ok (.verb ((AmbiguityGroup.ofKey world.vocabulary t.lower).filter Word.isVerb) ::
          (world.wordParts ts).flatMap world.wordGroups) := by
    intro hplaced hshared hfit
    rw [readGroups_eq_meaning h (hsingle.not_isBlank h) hts hplaced]
    rcases h.meaning_cases (place_ne_nil_of_isPlaced hplaced)
      ((AmbiguityGroup.ofKey world.vocabulary t.lower).filter Word.isVerb) with
      ⟨⟨u, hu, hnot⟩, -⟩ | ⟨-, ⟨part, hpart, hnot⟩, -⟩ | ⟨-, -, hok⟩
    · exact absurd hnot (hshared u hu)
    · exact absurd hnot (hfit part hpart)
    · exact hok
  constructor
  · intro hread
    obtain ⟨hplaced, hshared, hfit⟩ :=
      (verdict_readGroups h hsingle hts).ok_iff.mp ⟨groups, hread⟩
    exact ⟨hplaced, hshared, hfit,
      Except.ok.inj (hread.symm.trans (hmeaning hplaced hshared hfit))⟩
  · rintro ⟨hplaced, hshared, hfit, rfl⟩
    exact hmeaning hplaced hshared hfit

/-- **The grammar decides.** A line is not matched just if a settled word is not known; otherwise it
is misplaced at a position just if that is the first one where a word cannot stand; otherwise it has
an ambiguous preposition just if a word behind the verb is shared by two verbs; otherwise it has a
phrase without a noun just if some phrase is not contained in the words of any noun; and otherwise,
and only then, it has a context. -/
theorem ofLine_decides_grammar (hbuilt : world.Built) (hsingle : world.HasSingleWords)
    (round : Rounding) (limit : Int) (line : Line) :
    ((∃ misreading, ofLine round (Catalog.ofWorld world) (.whole limit) line =
        .error (.misread misreading) ∧ misreading.isUnmatched) ↔
      ∃ t ∈ settledWords line, ¬world.Knows t) ∧
    (∀ p, ofLine round (Catalog.ofWorld world) (.whole limit) line =
        .error (.misread (.partOfSpeech p)) ↔
      (∀ t ∈ settledWords line, world.Knows t) ∧
        world.IsFirstMisplaced (settledWords line) p) ∧
    ((∃ spelling, ofLine round (Catalog.ofWorld world) (.whole limit) line =
        .error (.misread (.ambiguousPreposition spelling))) ↔
      world.IsPlaced (settledWords line) ∧
        ∃ t ∈ (settledWords line).tail, world.IsSharedPreposition t) ∧
    ((∃ number, ofLine round (Catalog.ofWorld world) (.whole limit) line =
        .error (.misread (.noConsistentNoun number))) ↔
      world.IsPlaced (settledWords line) ∧
        (∀ t ∈ (settledWords line).tail, ¬world.IsSharedPreposition t) ∧
        ∃ part ∈ world.wordParts (settledWords line).tail, world.IsUnfitPart part) ∧
    ((∃ context, ofLine round (Catalog.ofWorld world) (.whole limit) line = .ok context) ↔
      world.IsPlaced (settledWords line) ∧
        (∀ t ∈ (settledWords line).tail, ¬world.IsSharedPreposition t) ∧
        ∀ part ∈ world.wordParts (settledWords line).tail, ¬world.IsUnfitPart part) := by
  have h := hbuilt.sound
  obtain ⟨hsettled, hts⟩ := settledPart_eq_unwords line
  have hcontext : (∃ context,
      ofLine round (Catalog.ofWorld world) (.whole limit) line = .ok context) ↔
        ∃ groups, readGroups (Catalog.ofWorld world)
          (Text.unwords (settledWords line)) = .ok groups := by
    rw [settledWords, ← hsettled]
    constructor
    · rintro ⟨context, hcontext⟩
      exact ⟨_, groups_of_ofLine_eq_ok h round limit line hcontext⟩
    · rintro ⟨groups, hread⟩
      obtain ⟨context, hcontext, -⟩ := exists_ofLine_of_ok h round limit line hread
      exact ⟨context, hcontext⟩
  simp only [hcontext, ofLine_eq_error_iff h]
  rw [hsettled, ← settledWords]
  have hverdict := verdict_readGroups h hsingle hts
  rw [← settledWords] at hverdict
  exact ⟨hverdict.unmatched_iff, hverdict.partOfSpeech_iff, hverdict.ambiguousPreposition_iff,
    hverdict.noConsistentNoun_iff, hverdict.ok_iff⟩

/-- A line with two noun phrases that fits the grammar. -/
theorem exists_ofLine_take_red_lamp_from_oil :
    ∃ context, ofLine .double (Catalog.ofWorld World.oilLamp) (.whole 10)
      (Line.atEnd "Take red lamp from oil ".toList) = .ok context :=
  (ofLine_decides_grammar World.oilLamp_built (by decide +kernel) .double 10
    (Line.atEnd "Take red lamp from oil ".toList)).2.2.2.2.mpr (by decide +kernel)

end Context

end CommandPrompt
