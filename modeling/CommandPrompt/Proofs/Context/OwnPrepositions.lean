import CommandPrompt.Proofs.Context.Candidates
import CommandPrompt.Proofs.Phrase.Woven

/-!
# Prepositions that verbs have to themselves

Only one misreading is not the player's fault, a word that stands for two prepositions. It comes up
only where two verbs share a preposition (`Context.not_hasOwnPrepositions_of_readGroups`), whatever
else the words of the world are: a preposition may also be a verb, name or describe a noun, be
declared twice, or begin a longer spelling. Nothing is asked of the world, not even that its words
can be typed.

The weaver stops at two words of one place that are not about nouns, and the gate has left no verbs
there (`Weaver.exists_of_weave_eq_ambiguousPreposition`), so it stops at two prepositions. Words of
one place are different words of the vocabulary with one key
(`AmbiguityGroup.alike_of_mem_readFrom`). So the two prepositions are spelled alike and belong to
different verbs. The matcher compares the lengths of spellings, and keys that begin the same text
can differ although their spellings are equally long. They cannot where the text was typed by a
player, because lower-casing lengthens a text only by characters outside ASCII
(`Text.length_lower_of_forall_lt`).
-/

namespace CommandPrompt

/-! ### The words of one place -/

namespace AmbiguityGroup

/-- What is collected from a vocabulary in order are words of it with one key. -/
structure Alike (vocabulary : List Word) (group : AmbiguityGroup) : Prop where
  sublist : group.Sublist vocabulary
  key_eq : ∀ a ∈ group, ∀ b ∈ group, a.key = b.key

section Scan

variable {lowered : Text} {size : Nat}

theorem collect_sublist (found : Option Nat) (ws : List Word) :
    (collect lowered size found ws).Sublist ws := by
  fun_induction collect lowered size found ws
  case case1 => exact List.Sublist.slnil
  case case2 ih | case5 ih => exact ih.cons _
  case case3 => exact List.nil_sublist _
  case case4 ih => exact ih.cons_cons _

theorem prefix_of_mem_collect {found : Option Nat} {ws : List Word} {w : Word}
    (h : w ∈ collect lowered size found ws) : w.key <+: lowered := by
  fun_induction collect lowered size found ws
  case case1 | case3 => exact absurd h List.not_mem_nil
  case case2 ih | case5 ih => exact ih h
  case case4 hbegins ih =>
    rcases List.mem_cons.mp h with rfl | h
    · exact List.isPrefixOf_iff_prefix.mp hbegins
    · exact ih h

/-- Behind a match only words that are as long are collected. -/
theorem length_of_mem_collect_some {n : Nat} {ws : List Word}
    (hle : ∀ w ∈ ws, w.spelling.length ≤ n) {w : Word}
    (h : w ∈ collect lowered size (some n) ws) : w.spelling.length = n := by
  induction ws with
  | nil => exact absurd h List.not_mem_nil
  | cons v ws ih =>
    have hv := hle v List.mem_cons_self
    have hws : ∀ u ∈ ws, u.spelling.length ≤ n := fun u hu => hle u (List.mem_cons_of_mem v hu)
    rw [collect] at h
    split at h
    · exact ih hws h
    · split at h
      · exact absurd h List.not_mem_nil
      · next hlong =>
        have hlength : v.spelling.length = n :=
          Nat.le_antisymm hv (Nat.not_lt.mp (by simpa using hlong))
        split at h
        · rcases List.mem_cons.mp h with rfl | h
          · exact hlength
          · exact ih hws (hlength ▸ h)
        · exact ih hws h

/-- Where the longest words come first, all words that are collected are equally long. -/
theorem length_eq_of_mem_collect {ws : List Word}
    (hdesc : ws.Pairwise fun a b => b.spelling.length ≤ a.spelling.length) {a b : Word}
    (ha : a ∈ collect lowered size none ws) (hb : b ∈ collect lowered size none ws) :
    a.spelling.length = b.spelling.length := by
  induction ws with
  | nil => exact absurd ha List.not_mem_nil
  | cons v ws ih =>
    obtain ⟨hle, hdesc⟩ := List.pairwise_cons.mp hdesc
    rw [collect, Option.any_none, if_neg Bool.false_ne_true] at ha hb
    split at ha
    · next hlong =>
      rw [if_pos hlong] at hb
      exact ih hdesc ha hb
    next hfits =>
    rw [if_neg hfits] at hb
    split at ha
    · next hbegins =>
      -- the first match sets the length for all that follow
      rw [if_pos hbegins] at hb
      have hlength : ∀ u ∈ v :: collect lowered size (some v.spelling.length) ws,
          u.spelling.length = v.spelling.length := by
        intro u hu
        rcases List.mem_cons.mp hu with rfl | hu
        · rfl
        · exact length_of_mem_collect_some hle hu
      rw [hlength a ha, hlength b hb]
    · next hnot =>
      rw [if_neg hnot] at hb
      exact ih hdesc ha hb

/-- **The words found at the start of a typable text have one key.** -/
theorem alike_collect {ws : List Word}
    (hdesc : ws.Pairwise fun a b => b.spelling.length ≤ a.spelling.length)
    (hlowered : lowered.AllTypable) : Alike ws (collect lowered size none ws) where
  sublist := collect_sublist none ws
  key_eq := by
    -- a key that begins the text is in ASCII like the text, so it is as long as its spelling
    have hlength : ∀ w ∈ collect lowered size none ws, w.key.length = w.spelling.length :=
      fun w hw => Text.length_lower_of_forall_lt fun c hc => lt_of_isTypableChar
        (hlowered c ((prefix_of_mem_collect hw).subset hc))
    intro a ha b hb
    have hequal : a.key.length = b.key.length := by
      rw [hlength a ha, hlength b hb, length_eq_of_mem_collect hdesc ha hb]
    exact (List.prefix_of_prefix_length_le (prefix_of_mem_collect ha) (prefix_of_mem_collect hb)
      hequal.le).eq_of_length hequal

end Scan

variable {vocabulary : List Word}
  (hdesc : vocabulary.Pairwise fun a b => b.spelling.length ≤ a.spelling.length)

include hdesc in
/-- **Every place of a matched text** gets words of the vocabulary with one key. -/
theorem alike_of_mem_readFrom {bound : Nat} {t : Text} (ht : t.AllTypable)
    {groups : List AmbiguityGroup} (hread : readFrom vocabulary bound t = .ok groups)
    {group : AmbiguityGroup} (hgroup : group ∈ groups) : Alike vocabulary group := by
  fun_induction readFrom vocabulary bound t generalizing groups
  case case1 =>
    obtain rfl := Except.ok.inj hread
    exact absurd hgroup List.not_mem_nil
  case case2 | case3 | case4 => exact absurd hread (by simp)
  case case5 bound t _ word others hlongest _ _ _ ih =>
    obtain ⟨later, hlater, rfl⟩ := map_eq_ok_iff.mp hread
    rcases List.mem_cons.mp hgroup with rfl | hgroup
    · exact hlongest ▸ alike_collect hdesc ht.lower
    · exact ih (ht.of_sublist ((Text.strip_sublist _).trans (List.drop_sublist _ _))) hlater hgroup

/-- Matching has misreadings of its own. -/
theorem isUnmatched_of_readFrom {bound : Nat} {t : Text} {misreading : Misreading}
    (hread : readFrom vocabulary bound t = .error misreading) : misreading.isUnmatched := by
  fun_induction readFrom vocabulary bound t
  case case1 => exact absurd hread (by simp)
  case case2 | case3 | case4 =>
    obtain rfl := Except.error.inj hread
    rfl
  case case5 bound t _ word others hlongest _ _ _ ih => exact ih (map_eq_error_iff.mp hread)

end AmbiguityGroup

/-! ### What stops the weaver -/

namespace Weaver

/-- **An ambiguous preposition comes from one place** behind the verb. -/
theorem exists_of_weave_eq_ambiguousPreposition {catalog : Catalog} {groups : List AmbiguityGroup}
    {spelling : Text} (h : weave catalog groups = .error (.ambiguousPreposition spelling)) :
    ∃ group ∈ groups.tail, ∃ first second others,
      group.filter (!·.isNounWord) = first :: second :: others := by
  rw [weave, map_eq_error_iff] at h
  cases groups with
  | nil => exact absurd h (by simp [run])
  | cons verbs rest =>
    obtain ⟨group, hgroup, hlength⟩ := run_eq_ambiguousPreposition_iff.mp ⟨spelling, h⟩
    exact ⟨group, hgroup, exists_eq_cons_cons hlength⟩

end Weaver

/-! ### Two verbs behind one place -/

/-- What is neither a verb nor about a noun is a preposition of a verb. -/
theorem World.exists_preposition_of_mem_words {world : World} {w : Word} (hw : w ∈ world.words)
    (hverb : w.isVerb = false) (hnoun : w.isNounWord = false) :
    ∃ v ∈ world.verbs, w.spelling ∈ v.prepositions ∧ w.sense = .preposition v := by
  rcases World.mem_words.mp hw with ⟨v, hv, hw⟩ | ⟨n, -, hw⟩
  · simp only [Verb.words, List.mem_append, List.mem_map] at hw
    rcases hw with (⟨t, -, rfl⟩ | ⟨t, -, rfl⟩) | ⟨t, ht, rfl⟩
    · exact absurd hverb (by simp [Word.isVerb, Word.partOfSpeech, Sense.partOfSpeech])
    · exact absurd hverb (by simp [Word.isVerb, Word.partOfSpeech, Sense.partOfSpeech])
    · exact ⟨v, hv, ht, rfl⟩
  · rw [Word.isNounWord, Noun.noun?_of_mem_words hw] at hnoun
    exact absurd hnoun (by simp)

/-- Words of one key are prepositions of different verbs if they are different words. -/
theorem World.not_hasOwnPrepositions_of_different {world : World} {a b : Word}
    (ha : a ∈ world.words) (hb : b ∈ world.words) (hverbs : a.isVerb = false ∧ b.isVerb = false)
    (hnouns : a.isNounWord = false ∧ b.isNounWord = false) (hkey : a.key = b.key)
    (hdiff : Word.same a b = false) : ¬world.HasOwnPrepositions := by
  intro hown
  obtain ⟨v, hv, hav, hasense⟩ := exists_preposition_of_mem_words ha hverbs.1 hnouns.1
  obtain ⟨v', hv', hbv, hbsense⟩ := exists_preposition_of_mem_words hb hverbs.2 hnouns.2
  obtain rfl := hown v hv v' hv' _ hav _ hbv hkey
  simp [Word.same, hkey, Word.ref, Word.partOfSpeech, hasense, hbsense] at hdiff

namespace AmbiguityGroup

/-- **Two prepositions in one place** are words of one key, so verbs share them. -/
theorem Alike.not_hasOwnPrepositions {world : World} {place : AmbiguityGroup}
    (h : Alike world.vocabulary place) {first second : Word} {others : List Word}
    (hfilter : (place.filter fun w => !w.isVerb).filter (!·.isNounWord) =
      first :: second :: others) : ¬world.HasOwnPrepositions := by
  have hsublist : (first :: second :: others).Sublist place := by
    rw [← hfilter]
    exact List.filter_sublist.trans List.filter_sublist
  have hkept : ∀ w ∈ first :: second :: others,
      w ∈ place ∧ w.isNounWord = false ∧ w.isVerb = false := by
    intro w hw
    rw [← hfilter] at hw
    simpa [and_assoc] using hw
  obtain ⟨hfirst, hfirstNoun, hfirstVerb⟩ := hkept first (by simp)
  obtain ⟨hsecond, hsecondNoun, hsecondVerb⟩ := hkept second (by simp)
  -- no word is in the vocabulary twice
  have hdiff : Word.Different world.vocabulary :=
    (Word.different_distinct _).perm (Word.sort_perm _).symm
  have hsame : Word.same first second = false :=
    (List.pairwise_cons.mp (List.Pairwise.sublist (hsublist.trans h.sublist) hdiff)).1 second
      List.mem_cons_self
  exact World.not_hasOwnPrepositions_of_different
    (World.mem_words_of_mem_vocabulary (h.sublist.subset hfirst))
    (World.mem_words_of_mem_vocabulary (h.sublist.subset hsecond))
    ⟨hfirstVerb, hsecondVerb⟩ ⟨hfirstNoun, hsecondNoun⟩ (h.key_eq _ hfirst _ hsecond) hsame

/-- Behind the verb the gate has left what is no verb of a place. -/
theorem exists_of_mem_tail_gate {matched gated : List AmbiguityGroup}
    (hgate : gate matched = .ok gated) {group : AmbiguityGroup} (hgroup : group ∈ gated.tail) :
    ∃ place ∈ matched, place.filter (fun w => !w.isVerb) = group := by
  cases matched with
  | nil =>
    obtain rfl := Except.ok.inj hgate
    exact absurd hgroup List.not_mem_nil
  | cons verbs rest =>
    obtain ⟨rfl, -⟩ := gate_cons_eq_ok_iff.mp hgate
    obtain ⟨place, hplace, heq⟩ := List.mem_map.mp hgroup
    exact ⟨place, List.mem_cons_of_mem verbs hplace, heq⟩

end AmbiguityGroup

namespace Context

/-- **An ambiguous preposition shows two verbs that share it.** -/
theorem not_hasOwnPrepositions_of_readGroups {world : World} {t : Text} (ht : t.AllTypable)
    {spelling : Text}
    (h : readGroups (Catalog.ofWorld world) t = .error (.ambiguousPreposition spelling)) :
    ¬world.HasOwnPrepositions := by
  have hdesc : world.vocabulary.Pairwise fun a b => b.spelling.length ≤ a.spelling.length :=
    (Word.pairwise_sort _).imp Word.length_le_of_order_isLE
  rw [readGroups, Catalog.words_ofWorld] at h
  -- matching and the gate have misreadings of their own
  rcases bind_eq_error_iff.mp h with hread | ⟨matched, hmatched, h⟩
  · exact absurd (AmbiguityGroup.isUnmatched_of_readFrom hread) (by simp [Misreading.isUnmatched])
  rcases bind_eq_error_iff.mp h with hgate | ⟨gated, hgated, h⟩
  · obtain ⟨i, heq, -⟩ := AmbiguityGroup.gateFrom_eq_error_iff.mp hgate
    exact absurd heq (by simp)
  obtain ⟨group, hgroup, first, second, others, hfilter⟩ :=
    Weaver.exists_of_weave_eq_ambiguousPreposition h
  obtain ⟨place, hplace, rfl⟩ := AmbiguityGroup.exists_of_mem_tail_gate hgated hgroup
  exact (AmbiguityGroup.alike_of_mem_readFrom hdesc (ht.of_sublist (Text.strip_sublist t))
    hmatched hplace).not_hasOwnPrepositions hfilter

/-- A line that is misread has a settled part that is misread. -/
theorem readGroups_of_ofLine_eq_misread {round : Rounding} {catalog : Catalog} {limit : Limit}
    {line : Line} {misreading : Misreading}
    (h : ofLine round catalog limit line = .error (.misread misreading)) :
    readGroups catalog (settledPart line.clean) = .error misreading := by
  rw [ofLine, ofClean] at h
  rcases bind_eq_error_iff.mp h with hread | ⟨groups, -, h⟩
  · obtain ⟨misreading', hread, heq⟩ := mapError_eq_error_iff.mp hread
    rw [hread, ContextFault.misread.inj heq]
  -- neither scores nor the number of suggestions are misread
  rcases bind_eq_error_iff.mp h with hrank | ⟨ranked, -, h⟩
  · obtain ⟨fault, -, heq⟩ := mapError_eq_error_iff.mp hrank
    exact absurd heq (by simp)
  rcases bind_eq_error_iff.mp h with hcount | ⟨count, -, h⟩
  · obtain ⟨fault, -, heq⟩ := mapError_eq_error_iff.mp hcount
    exact absurd heq (by simp)
  · exact absurd h (by simp [pure, Except.pure])

/-- **Where verbs have their prepositions to themselves no line has an ambiguous one.** -/
theorem ofLine_ne_ambiguousPreposition {world : World} (hown : world.HasOwnPrepositions)
    (round : Rounding) (limit : Limit) (line : Line) (spelling : Text) :
    ofLine round (Catalog.ofWorld world) limit line ≠
      .error (.misread (.ambiguousPreposition spelling)) := by
  intro h
  obtain ⟨ts, hts, hsettled⟩ := exists_settledPart_eq line
  have htypable : (settledPart line.clean).AllTypable := by
    rw [hsettled]
    exact Text.allTypable_unwords fun t ht => (hts t ht).2
  exact not_hasOwnPrepositions_of_readGroups htypable (readGroups_of_ofLine_eq_misread h) hown

end Context

end CommandPrompt
