import CommandPrompt.Proofs.Line.Caret
import CommandPrompt.Proofs.Phrase.Matching
import CommandPrompt.Proofs.Text.NormalForm

/-!
# The longest words that begin a text

The scan of the matcher skips, goes on and breaks off by the lengths of spellings. What it is meant
to find can be said without any of that: of the words whose key begins the text in lower case, those
that are the longest, in the order of the vocabulary (`AmbiguityGroup.longestOf`). On an ordered
vocabulary the two are the same for every piece of a typable text (`longest_eq_longestOf`).

Reading crops what was matched and the blanks behind it, and goes on. Nothing is lost and nothing is
read twice: the keys of the groups, with single spaces between them, are the text
(`spells_of_readFrom`). The blank between two groups is a single one because the text has no two
blanks in a row, so a spelling that ends in a space is a match that can never be read on from.
-/

namespace CommandPrompt

namespace Text

/-! ### What stands behind a space -/

/-- Behind a space a typable text goes on like one that begins there. -/
theorem isTypable_of_append_cons_space {s rest : Text} {afterBlank : Bool}
    (h : isTypableAfter afterBlank (s ++ ' ' :: rest)) : rest.isTypable := by
  induction s generalizing afterBlank with
  | nil =>
    simp only [List.nil_append, isTypableAfter, Bool.and_eq_true] at h
    exact h.2
  | cons c cs ih =>
    simp only [List.cons_append, isTypableAfter, Bool.and_eq_true] at h
    exact ih h.2

/-- A space before a text is stripped. -/
theorem strip_cons_space (t : Text) : strip (' ' :: t) = t.strip := by
  unfold strip
  rw [List.dropWhile_cons, if_pos isBlank_space]

/-- A typable text without a blank at its end, as reading sees it at every place. -/
structure IsTight (t : Text) : Prop where
  isTypable : t.isTypable
  last_not_blank : ∀ c ∈ t.getLast?, isBlank c = false

namespace IsTight

theorem allTypable {t : Text} (h : t.IsTight) : t.AllTypable := AllTypable.of_isTypable h.isTypable

theorem strip_eq {t : Text} (h : t.IsTight) : t.strip = t :=
  strip_eq_self (isBlank_head?_eq_false h.isTypable) h.last_not_blank

/-- What stands behind a space is not empty, and tight again. -/
theorem of_append_cons_space {s rest : Text} (h : IsTight (s ++ ' ' :: rest)) :
    rest ≠ [] ∧ rest.IsTight := by
  have hne : rest ≠ [] := by
    rintro rfl
    exact absurd (h.last_not_blank ' ' (by simp)) (by simp)
  refine ⟨hne, isTypable_of_append_cons_space h.isTypable, fun c hc => ?_⟩
  refine h.last_not_blank c ?_
  rw [List.getLast?_append_cons, List.getLast?_cons]
  rw [Option.mem_def] at hc
  rw [hc]
  rfl

end IsTight

/-- A typable text is tight without the space that may stand at its end. -/
theorem isTight_strip {t : Text} (h : t.isTypable) : t.strip.IsTight where
  isTypable := by
    have hprefix : t.strip <+: t := by
      rw [strip_eq_unwords h]
      rcases eq_unwords_or h with heq | ⟨-, heq⟩
      · exact ⟨[], (List.append_nil _).trans heq.symm⟩
      · exact ⟨[' '], heq.symm⟩
    rw [List.prefix_iff_eq_take.mp hprefix]
    exact isTypableAfter_take h _
  last_not_blank := isBlank_getLast?_strip t

end Text

namespace AmbiguityGroup

variable {vocabulary : List Word}

/-! ### The scan against its plain meaning -/

/-- The words of a vocabulary whose key begins a text in lower case. -/
def beginning (vocabulary : List Word) (t : Text) : List Word :=
  vocabulary.filter fun w => w.key.isPrefixOf t.lower

/-- Of the words that begin a text, those that none of the others is longer than. -/
def longestOf (vocabulary : List Word) (t : Text) : AmbiguityGroup :=
  (beginning vocabulary t).filter fun w =>
    (beginning vocabulary t).all fun u => u.spelling.length ≤ w.spelling.length

theorem mem_beginning {t : Text} {w : Word} :
    w ∈ beginning vocabulary t ↔ w ∈ vocabulary ∧ w.key <+: t.lower := by
  rw [beginning, List.mem_filter, List.isPrefixOf_iff_prefix]

/-- If none of the words that begin a text is longer than one of them, the longest ones are those
with its key. -/
theorem longestOf_eq_ofKey (h : Word.LongestFirst vocabulary) {t : Text} {w : Word}
    (hw : w ∈ vocabulary) (hbegins : w.key <+: t.lower)
    (hmax : ∀ u ∈ vocabulary, u.key <+: t.lower → u.spelling.length ≤ w.spelling.length) :
    longestOf vocabulary t = ofKey vocabulary w.key := by
  unfold longestOf ofKey
  conv_lhs => rw [beginning, List.filter_filter]
  refine List.filter_congr fun u hu => ?_
  rw [Bool.eq_iff_iff, Bool.and_eq_true, List.all_eq_true, beq_iff_eq,
    List.isPrefixOf_iff_prefix]
  constructor
  · -- two beginnings of one text that are equally long are the same
    rintro ⟨hall, hubegins⟩
    have hle : w.spelling.length ≤ u.spelling.length :=
      of_decide_eq_true (hall w (mem_beginning.mpr ⟨hw, hbegins⟩))
    have hlength : u.key.length = w.key.length := by
      rw [h.length_key hu, h.length_key hw]
      exact Nat.le_antisymm (hmax u hu hubegins) hle
    exact (List.prefix_of_prefix_length_le hubegins hbegins
      (Nat.le_of_eq hlength)).eq_of_length hlength
  · intro hkey
    refine ⟨fun v hv => decide_eq_true ?_, hkey ▸ hbegins⟩
    obtain ⟨hv, hvbegins⟩ := mem_beginning.mp hv
    rw [← h.length_key hu, hkey, h.length_key hw]
    exact hmax v hv hvbegins

/-- **The scan finds the longest words that begin a text.** -/
theorem longest_eq_longestOf (h : Word.LongestFirst vocabulary) {t : Text} (ht : t.AllTypable) :
    longest vocabulary t = longestOf vocabulary t := by
  -- a key that begins the text is no longer than it, so the scan passes over no such word
  have hfits : ∀ u ∈ vocabulary, u.key <+: t.lower → u.spelling.length ≤ t.length := by
    intro u hu hbegins
    have hle := hbegins.length_le
    rwa [h.length_key hu, Text.length_lower ht] at hle
  rcases longest_cases h t with ⟨hnil, hnone⟩ | ⟨w, hw, -, hbegins, hlongest, hmax⟩
  · have hempty : beginning vocabulary t = [] := by
      rw [List.eq_nil_iff_forall_not_mem]
      intro u hu
      obtain ⟨hu, hbegins⟩ := mem_beginning.mp hu
      exact hnone u hu (hfits u hu hbegins) hbegins
    rw [hnil, longestOf, hempty, List.filter_nil]
  · rw [hlongest, longestOf_eq_ofKey h hw hbegins]
    exact fun u hu hubegins => hmax u hu (hfits u hu hubegins) hubegins

/-! ### The keys that a text is read as -/

/-- The keys spell a text: joined by single spaces they are the text in lower case, every one of
them is the key of a word, and the words of a key are the longest ones that begin the text from the
place on at which it stands. -/
structure Spells (vocabulary : List Word) (keys : List Text) (t : Text) : Prop where
  unwords_eq : Text.unwords keys = t.lower
  known : ∀ key ∈ keys, ofKey vocabulary key ≠ []
  longest : ∀ before key behind, keys = before ++ key :: behind →
    ∃ rest : Text, rest <:+ t ∧ rest.lower = Text.unwords (key :: behind) ∧
      ofKey vocabulary key = longestOf vocabulary rest

theorem Spells.nil : Spells vocabulary [] [] where
  unwords_eq := rfl
  known := fun _ h => absurd h List.not_mem_nil
  longest := fun before key behind h => by simp at h

/-- **One step of reading** puts a key in front: the one that begins the text up to its end or up to
a space. -/
theorem Spells.cons {t : Text} {w : Word} {rest : Text} {keys : List Text} (hw : w ∈ vocabulary)
    (hlongest : longestOf vocabulary t = ofKey vocabulary w.key) (hrest : rest <:+ t)
    (hlower : t.lower = Text.unwords (w.key :: keys)) (h : Spells vocabulary keys rest) :
    Spells vocabulary (w.key :: keys) t where
  unwords_eq := hlower.symm
  known := by
    intro key hkey
    rcases List.mem_cons.mp hkey with rfl | hkey
    · exact ofKey_ne_nil hw
    · exact h.known key hkey
  longest := by
    intro before key behind hsplit
    cases before with
    | nil =>
      obtain ⟨rfl, rfl⟩ := List.cons.inj hsplit
      exact ⟨t, List.suffix_refl t, hlower, hlongest.symm⟩
    | cons _ before =>
      obtain ⟨-, hsplit⟩ := List.cons.inj hsplit
      obtain ⟨place, hplace, hplace_lower, hplace_longest⟩ := h.longest before key behind hsplit
      exact ⟨place, hplace.trans hrest, hplace_lower, hplace_longest⟩

/-- A text that a word begins is, in lower case, the key of the word and what stands behind it. -/
theorem lower_eq_key_append (h : Word.LongestFirst vocabulary) {t : Text} (ht : t.AllTypable)
    {w : Word} (hw : w ∈ vocabulary) (hbegins : w.key <+: t.lower) :
    t.lower = w.key ++ Text.lower (t.drop w.spelling.length) := by
  have hdrop : Text.AllTypable (t.drop w.spelling.length) := ht.of_sublist (List.drop_sublist _ t)
  calc t.lower = t.lower.take w.key.length ++ t.lower.drop w.key.length :=
        (List.take_append_drop _ _).symm
    _ = w.key ++ t.lower.drop w.key.length := by rw [← List.prefix_iff_eq_take.mp hbegins]
    _ = w.key ++ Text.lower (t.drop w.spelling.length) := by
        rw [h.length_key hw, Text.lower_eq_map ht, Text.lower_eq_map hdrop, List.map_drop]

/-- **Reading spells the text.** -/
theorem spells_of_readFrom (h : Word.LongestFirst vocabulary) {bound : Nat} {t : Text}
    (ht : t.IsTight) {groups : List AmbiguityGroup}
    (hread : readFrom vocabulary bound t = .ok groups) :
    ∃ keys, groups = keys.map (ofKey vocabulary) ∧ Spells vocabulary keys t := by
  fun_induction readFrom vocabulary bound t generalizing groups
  case case1 =>
    obtain rfl := Except.ok.inj hread
    exact ⟨[], rfl, Spells.nil⟩
  case case2 | case3 | case4 => exact absurd hread (by simp)
  case case5 bound t _ w others hlongest _ rest hspace ih =>
    obtain ⟨later, hlater, rfl⟩ := map_eq_ok_iff.mp hread
    obtain ⟨hw, hbegins, hkey⟩ := of_longest_eq_cons h hlongest
    have hplain : longestOf vocabulary t = ofKey vocabulary w.key := by
      rw [← longest_eq_longestOf h ht.allTypable, hlongest, hkey]
    have hlower := lower_eq_key_append h ht.allTypable hw hbegins
    have hsuffix := List.drop_suffix w.spelling.length t
    have hsplit := List.take_append_drop w.spelling.length t
    rw [hkey]
    -- the match goes up to the end of the text or up to a space
    cases hdrop : t.drop w.spelling.length with
    | nil =>
      rw [show rest = [] from hdrop] at hlater
      rw [hdrop] at hlower
      obtain rfl := Except.ok.inj ((readFrom_nil bound).symm.trans hlater)
      refine ⟨[w.key], rfl, Spells.cons hw hplain List.nil_suffix ?_ Spells.nil⟩
      rw [hlower, Text.lower_nil, List.append_nil, Text.unwords_singleton]
    | cons c behind =>
      rw [show rest = c :: behind from hdrop] at hlater hspace ih
      rw [hdrop] at hlower hsuffix hsplit
      obtain rfl : c = ' ' := by simpa using hspace
      obtain ⟨hne, hbehind⟩ := (hsplit.symm ▸ ht).of_append_cons_space
      rw [Text.strip_cons_space, hbehind.strip_eq] at hlater ih
      obtain ⟨keys, rfl, hkeys⟩ := ih hbehind hlater
      refine ⟨w.key :: keys, rfl, Spells.cons hw hplain
        ((List.suffix_cons ' ' behind).trans hsuffix) ?_ hkeys⟩
      have hkeys_ne : keys ≠ [] := by
        rintro rfl
        exact hne ((Text.lower_eq_nil_iff hbehind.allTypable).mp hkeys.unwords_eq.symm)
      calc t.lower = w.key ++ Text.lower (' ' :: behind) := hlower
        _ = w.key ++ ' ' :: Text.lower behind := by rw [Text.lower_cons_space hbehind.allTypable]
        _ = Text.unwords (w.key :: keys) := by
            rw [Text.unwords_cons_of_ne_nil w.key hkeys_ne, hkeys.unwords_eq]

/-- **The scan finds what it is meant to find, and its groups spell the text.** At every place of a
typable text the early end of the scan loses none of the longest words and lets no other word in.
If the text is read, every group is all words of the vocabulary with one key, and the keys are the
text without the blanks at its ends, in lower case. -/
theorem read_spells (h : Word.LongestFirst vocabulary) {t : Text} (ht : t.isTypable) :
    (∀ rest : Text, rest <:+: t → longest vocabulary rest = longestOf vocabulary rest) ∧
      ∀ groups, read vocabulary t = .ok groups →
        ∃ keys, groups = keys.map (ofKey vocabulary) ∧ Spells vocabulary keys t.strip := by
  constructor
  · intro rest hrest
    exact longest_eq_longestOf h ((Text.AllTypable.of_isTypable ht).of_sublist hrest.sublist)
  · intro groups hread
    exact spells_of_readFrom h (Text.isTight_strip ht) hread

/-- An old chest, a chest and the adjective of both, with a spelling that ends in a space. -/
def chestWords : List Word :=
  let oldChest : Noun := ⟨1, "Chest".toList, ["old chest".toList], ["old".toList]⟩
  let chest : Noun := ⟨2, "chest".toList, ["chest ".toList], ["Old".toList]⟩
  [⟨"old chest".toList, .noun oldChest, none⟩, ⟨"chest ".toList, .noun chest, none⟩,
    ⟨"Chest".toList, .noun oldChest, none⟩, ⟨"chest".toList, .noun chest, none⟩,
    ⟨"old".toList, .adjective oldChest, none⟩, ⟨"Old".toList, .adjective chest, none⟩]

/-- The longer spelling is taken first; the adjective behind it stands for both chests. -/
theorem exists_read_old_chest_old :
    Word.LongestFirst chestWords ∧ Text.isTypable "Old chest old ".toList ∧
      ∃ groups keys, read chestWords "Old chest old ".toList = .ok groups ∧
        groups.map List.length = [1, 2] ∧ groups = keys.map (ofKey chestWords) ∧
        Spells chestWords keys (Text.strip "Old chest old ".toList) := by
  have hwords : Word.LongestFirst chestWords :=
    { isSpelling := fun w hw => ⟨by revert w; decide, by revert w; decide⟩
      descending := by decide }
  have htyp : Text.isTypable "Old chest old ".toList := by decide +kernel
  have hread : ∃ groups, read chestWords "Old chest old ".toList = .ok groups ∧
      groups.map List.length = [1, 2] := by
    refine ⟨_, rfl, ?_⟩
    decide +kernel
  obtain ⟨groups, hread, hlengths⟩ := hread
  obtain ⟨keys, hkeys, hspells⟩ := (read_spells hwords htyp).2 groups hread
  exact ⟨hwords, htyp, groups, keys, hread, hlengths, hkeys, hspells⟩

end AmbiguityGroup

end CommandPrompt
