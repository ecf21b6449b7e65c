import CommandPrompt.Phrase.Match
import CommandPrompt.Proofs.Outcome
import CommandPrompt.Proofs.Text.Spacing
import CommandPrompt.Proofs.World.Catalog

/-!
# What the matcher finds

The matcher tries the words of a vocabulary from the longest to the shortest, compares keys but cuts
by the length of spellings, and stops early. On a vocabulary that is ordered as it wants it
(`Word.LongestFirst`), which every built world provides, its scan has a plain meaning: it finds
nothing if no key of fitting length begins the text, and else it finds all words with one key, the
longest that does (`longest_cases`).

So whatever a whole text is matched to, every place of it gets all words of the vocabulary with one
key (`exists_ofKey_of_mem_read`). If no spelling holds a blank, the places are the words of the
text, and matching is looking each of them up (`read_unwords_of_known`). The first unknown word
stops it (`readFrom_unwords_append_cons_of_unknown`), because a spelling that begins the rest of the
text begins this word and does not reach its end.
-/

namespace CommandPrompt

/-- What the matcher wants of a vocabulary: spellings that can be typed, the longest ones first. -/
structure Word.LongestFirst (vocabulary : List Word) : Prop where
  isSpelling : ∀ w ∈ vocabulary, w.spelling.IsSpelling
  descending : vocabulary.Pairwise fun a b => b.spelling.length ≤ a.spelling.length

theorem Word.LongestFirst.length_key {vocabulary : List Word} (h : Word.LongestFirst vocabulary)
    {w : Word} (hw : w ∈ vocabulary) : w.key.length = w.spelling.length :=
  Text.length_lower (h.isSpelling w hw).allTypable

theorem Word.LongestFirst.of_cons {w : Word} {ws : List Word}
    (h : Word.LongestFirst (w :: ws)) : Word.LongestFirst ws where
  isSpelling := fun u hu => h.isSpelling u (List.mem_cons_of_mem w hu)
  descending := (List.pairwise_cons.mp h.descending).2

theorem World.Sound.longestFirst {world : World} (h : world.Sound) :
    Word.LongestFirst world.vocabulary where
  isSpelling := fun _ hw => h.isSpelling (World.mem_words_of_mem_vocabulary hw)
  descending := (Word.pairwise_sort _).imp Word.length_le_of_order_isLE

/-- Whether the text could not be matched, so that what its words mean did not come into play. -/
def Misreading.isUnmatched : Misreading → Bool
  | noVocabularyMatch _ | wordBoundary _ _ => true
  | _ => false

namespace AmbiguityGroup

/-- The words of a vocabulary that have a key. -/
def ofKey (vocabulary : List Word) (key : Text) : AmbiguityGroup :=
  vocabulary.filter (·.key == key)

@[simp] theorem mem_ofKey {vocabulary : List Word} {key : Text} {w : Word} :
    w ∈ ofKey vocabulary key ↔ w ∈ vocabulary ∧ w.key = key := by
  rw [ofKey, List.mem_filter, beq_iff_eq]

theorem ofKey_ne_nil {vocabulary : List Word} {w : Word} (h : w ∈ vocabulary) :
    ofKey vocabulary w.key ≠ [] := List.ne_nil_of_mem (mem_ofKey.mpr ⟨h, rfl⟩)

theorem ofKey_cons_of_ne {w : Word} {ws : List Word} {key : Text} (h : w.key ≠ key) :
    ofKey (w :: ws) key = ofKey ws key :=
  List.filter_cons_of_neg (by simpa using h)

theorem ofKey_cons_of_eq {w : Word} {ws : List Word} {key : Text} (h : w.key = key) :
    ofKey (w :: ws) key = w :: ofKey ws key :=
  List.filter_cons_of_pos (by simpa using h)

/-- Behind a word that is shorter than a key no word has the key. -/
theorem ofKey_eq_nil_of_shorter {w : Word} {ws : List Word} (hws : Word.LongestFirst (w :: ws))
    {key : Text} (hshort : w.spelling.length < key.length) : ofKey (w :: ws) key = [] := by
  rw [ofKey, List.filter_eq_nil_iff]
  intro u hu heq
  have hulen := hws.length_key hu
  have hule : u.spelling.length ≤ w.spelling.length := by
    rcases List.mem_cons.mp hu with rfl | hu
    · exact Nat.le_refl _
    · exact (List.pairwise_cons.mp hws.descending).1 u hu
  rw [beq_iff_eq] at heq
  rw [heq] at hulen
  omega

/-! ### The scan -/

section Scan

variable {lowered : Text} {size : Nat}

/-- Behind a match the scan collects the other words with its key. Shorter words end it, and of the
words that are as long only those with the same key begin the text. -/
theorem collect_some {key : Text} (hkey : key <+: lowered) (hsize : key.length ≤ size)
    {ws : List Word} (hws : Word.LongestFirst ws)
    (hle : ∀ w ∈ ws, w.spelling.length ≤ key.length) :
    collect lowered size (some key.length) ws = ofKey ws key := by
  induction ws with
  | nil => rfl
  | cons w ws ih =>
    have hlength := hws.length_key List.mem_cons_self
    have hw := hle w List.mem_cons_self
    rw [collect, if_neg (by omega)]
    by_cases hshort : w.spelling.length < key.length
    · -- the words are sorted by length, so what the scan stops before is shorter, too
      rw [if_pos (by simpa using hshort), ofKey_eq_nil_of_shorter hws hshort]
    · rw [if_neg (by simpa using hshort)]
      obtain hlen : w.spelling.length = key.length := by omega
      have ih := ih hws.of_cons fun u hu => hle u (List.mem_cons_of_mem w hu)
      -- two beginnings of one text that are equally long are the same
      by_cases hbegins : w.key.isPrefixOf lowered = true
      · have heq : w.key = key :=
          List.prefix_of_prefix_length_le (List.isPrefixOf_iff_prefix.mp hbegins) hkey
            (by omega) |>.eq_of_length (by omega)
        rw [if_pos hbegins, ofKey_cons_of_eq heq, hlen, ih]
      · have hne : w.key ≠ key := by
          rintro rfl
          exact hbegins (List.isPrefixOf_iff_prefix.mpr hkey)
        rw [if_neg hbegins, ofKey_cons_of_ne hne, ih]

/-- The first word that fits is found, and with it all others that are spelled like it. -/
theorem collect_none_of_fits {v : Word} {ws : List Word} (hws : Word.LongestFirst (v :: ws))
    (hsize : v.spelling.length ≤ size) (hbegins : v.key <+: lowered) :
    collect lowered size none (v :: ws) = ofKey (v :: ws) v.key := by
  have hlength := hws.length_key List.mem_cons_self
  have hrest : collect lowered size (some v.key.length) ws = ofKey ws v.key :=
    collect_some hbegins (by omega) hws.of_cons fun u hu => by
      have hle := (List.pairwise_cons.mp hws.descending).1 u hu
      omega
  rw [collect, if_neg (by omega), Option.any_none, if_neg Bool.false_ne_true,
    if_pos (List.isPrefixOf_iff_prefix.mpr hbegins), ofKey_cons_of_eq rfl, ← hlength, hrest]

/-- A word that does not fit is passed over, too long or not. -/
theorem collect_none_of_not_fits {v : Word}
    (hfits : ¬(v.spelling.length ≤ size ∧ v.key <+: lowered)) (ws : List Word) :
    collect lowered size none (v :: ws) = collect lowered size none ws := by
  rw [collect]
  split
  · rfl
  · next hsize =>
    rw [Option.any_none, if_neg Bool.false_ne_true, if_neg]
    intro hbegins
    exact hfits ⟨by omega, List.isPrefixOf_iff_prefix.mp hbegins⟩

/-- Before a match the scan passes over what does not fit, until a first word does. -/
theorem collect_none_cases {ws : List Word} (hws : Word.LongestFirst ws) :
    (collect lowered size none ws = [] ∧
      ∀ w ∈ ws, w.spelling.length ≤ size → ¬w.key <+: lowered) ∨
    ∃ w ∈ ws, w.spelling.length ≤ size ∧ w.key <+: lowered ∧
      collect lowered size none ws = ofKey ws w.key ∧
      ∀ u ∈ ws, u.spelling.length ≤ size → u.key <+: lowered →
        u.spelling.length ≤ w.spelling.length := by
  induction ws with
  | nil => exact Or.inl ⟨rfl, fun w hw => absurd hw List.not_mem_nil⟩
  | cons v ws ih =>
    by_cases hfits : v.spelling.length ≤ size ∧ v.key <+: lowered
    · -- no later word is longer
      refine Or.inr ⟨v, List.mem_cons_self, hfits.1, hfits.2,
        collect_none_of_fits hws hfits.1 hfits.2, fun u hu _ _ => ?_⟩
      rcases List.mem_cons.mp hu with rfl | hu
      · exact Nat.le_refl _
      · exact (List.pairwise_cons.mp hws.descending).1 u hu
    · rw [collect_none_of_not_fits hfits]
      rcases ih hws.of_cons with ⟨hnil, hnone⟩ | ⟨w, hw, hsize, hbegins, hcollect, hmax⟩
      · refine Or.inl ⟨hnil, fun u hu husize hubegins => ?_⟩
        rcases List.mem_cons.mp hu with rfl | hu
        · exact hfits ⟨husize, hubegins⟩
        · exact hnone u hu husize hubegins
      · -- a word with the key of one that fits would fit as well
        have hne : v.key ≠ w.key := by
          intro heq
          have hlength := hws.length_key List.mem_cons_self
          have hwlength := hws.length_key (List.mem_cons_of_mem v hw)
          exact hfits ⟨by rw [← hlength, heq, hwlength]; exact hsize, heq ▸ hbegins⟩
        refine Or.inr ⟨w, List.mem_cons_of_mem v hw, hsize, hbegins, ?_, ?_⟩
        · rw [hcollect, ofKey_cons_of_ne hne]
        · intro u hu husize hubegins
          rcases List.mem_cons.mp hu with rfl | hu
          · exact absurd ⟨husize, hubegins⟩ hfits
          · exact hmax u hu husize hubegins

end Scan

section Read

variable {vocabulary : List Word}

/-- **The scan finds the longest key that begins a text**, with all words that have it. -/
theorem longest_cases (h : Word.LongestFirst vocabulary) (t : Text) :
    (longest vocabulary t = [] ∧
      ∀ w ∈ vocabulary, w.spelling.length ≤ t.length → ¬w.key <+: t.lower) ∨
    ∃ w ∈ vocabulary, w.spelling.length ≤ t.length ∧ w.key <+: t.lower ∧
      longest vocabulary t = ofKey vocabulary w.key ∧
      ∀ u ∈ vocabulary, u.spelling.length ≤ t.length → u.key <+: t.lower →
        u.spelling.length ≤ w.spelling.length :=
  collect_none_cases h

/-! ### Reading place by place -/

/-- One step of reading, where the scan has found the words with a key. -/
theorem readFrom_succ (h : Word.LongestFirst vocabulary) {t : Text} (ht : t ≠ []) {w : Word}
    (hw : w ∈ vocabulary) (hlongest : longest vocabulary t = ofKey vocabulary w.key)
    (bound : Nat) :
    readFrom vocabulary (bound + 1) t =
      if (t.drop w.spelling.length).head?.any (· != ' ') then
        .error (.wordBoundary (t.take w.spelling.length) (t.drop w.spelling.length))
      else (readFrom vocabulary bound (Text.strip (t.drop w.spelling.length))).map
        (ofKey vocabulary w.key :: ·) := by
  obtain ⟨c, cs, rfl⟩ := List.exists_cons_of_ne_nil ht
  obtain ⟨v, vs, hvs⟩ := List.exists_cons_of_ne_nil (ofKey_ne_nil hw)
  have hv : v ∈ ofKey vocabulary w.key := hvs ▸ List.mem_cons_self
  obtain ⟨hv, hkey⟩ := mem_ofKey.mp hv
  have hlength : v.spelling.length = w.spelling.length := by
    rw [← h.length_key hv, ← h.length_key hw, hkey]
  rw [readFrom, hlongest, hvs]
  · simp only [hlength]
  · exact List.cons_ne_nil c cs

/-- A text that nothing begins is not matched. -/
theorem readFrom_succ_of_longest_nil {t : Text} (ht : t ≠ [])
    (hlongest : longest vocabulary t = []) (bound : Nat) :
    readFrom vocabulary (bound + 1) t = .error (.noVocabularyMatch t) := by
  obtain ⟨c, cs, rfl⟩ := List.exists_cons_of_ne_nil ht
  rw [readFrom, hlongest]
  exact List.cons_ne_nil c cs

/-- Nothing is read from an empty text. -/
theorem readFrom_nil (bound : Nat) : readFrom vocabulary bound [] = .ok [] := by
  cases bound <;> rfl

/-- Whatever the scan finds has one key, and is all that has it. -/
theorem of_longest_eq_cons (h : Word.LongestFirst vocabulary) {t : Text} {word : Word}
    {others : List Word} (hlongest : longest vocabulary t = word :: others) :
    word ∈ vocabulary ∧ word.key <+: t.lower ∧ word :: others = ofKey vocabulary word.key := by
  rcases longest_cases h t with ⟨hnil, -⟩ | ⟨w, hw, -, hbegins, hfound, -⟩
  · exact absurd (hlongest.symm.trans hnil) (List.cons_ne_nil word others)
  · rw [hlongest] at hfound
    obtain ⟨hword, hkey⟩ := mem_ofKey.mp (hfound ▸ List.mem_cons_self)
    exact ⟨hword, hkey ▸ hbegins, hkey ▸ hfound⟩

theorem exists_ofKey_of_mem_readFrom (h : Word.LongestFirst vocabulary) {bound : Nat} {t : Text}
    {groups : List AmbiguityGroup} (hread : readFrom vocabulary bound t = .ok groups)
    {group : AmbiguityGroup} (hgroup : group ∈ groups) :
    ∃ w ∈ vocabulary, group = ofKey vocabulary w.key := by
  -- the bound need not be large enough here
  fun_induction readFrom vocabulary bound t generalizing groups
  case case1 =>
    obtain rfl := Except.ok.inj hread
    exact absurd hgroup List.not_mem_nil
  case case2 | case3 | case4 => exact absurd hread (by simp)
  case case5 bound t _ word others hlongest _ _ _ ih =>
    obtain ⟨later, hlater, rfl⟩ := map_eq_ok_iff.mp hread
    obtain ⟨hword, -, hkey⟩ := of_longest_eq_cons h hlongest
    rcases List.mem_cons.mp hgroup with rfl | hgroup
    · exact ⟨word, hword, hkey⟩
    · exact ih hlater hgroup

/-- **Every place of a matched text** gets all words with one key. -/
theorem exists_ofKey_of_mem_read (h : Word.LongestFirst vocabulary) {t : Text}
    {groups : List AmbiguityGroup} (hread : read vocabulary t = .ok groups)
    {group : AmbiguityGroup} (hgroup : group ∈ groups) :
    ∃ w ∈ vocabulary, group = ofKey vocabulary w.key :=
  exists_ofKey_of_mem_readFrom h hread hgroup

/-! ### Vocabularies of single words -/

/-- Whether a vocabulary has a word that is spelled like a text, in any letter case. -/
def IsKnown (vocabulary : List Word) (t : Text) : Prop := ∃ w ∈ vocabulary, w.key = t.lower

/-- Where some word of a text is unknown, one is the first. -/
theorem exists_first_unknown {ts : List Text}
    (h : ∃ t ∈ ts, ¬IsKnown vocabulary t) :
    ∃ known t us, ts = known ++ t :: us ∧ ¬IsKnown vocabulary t ∧
      ∀ u ∈ known, IsKnown vocabulary u := by
  classical
  obtain ⟨t, ht, hunknown⟩ := h
  have hfind : (ts.find? fun u => decide ¬IsKnown vocabulary u).isSome = true :=
    List.find?_isSome.mpr ⟨t, ht, decide_eq_true hunknown⟩
  obtain ⟨first, hfound⟩ := Option.isSome_iff_exists.mp hfind
  obtain ⟨hfirst, known, us, rfl, hknown⟩ := List.find?_eq_some_iff_append.mp hfound
  refine ⟨known, first, us, rfl, of_decide_eq_true hfirst, fun u hu => ?_⟩
  simpa using hknown u hu

/-- What is told of an unknown word, given the text from it on. If no spelling begins the word, this
text is reported, and else it is cut behind the longest spelling that does. -/
inductive StopsAt (vocabulary : List Word) (t rest : Text) : Misreading → Prop
  | unmatched (hnone : ∀ w ∈ vocabulary, ¬w.key <+: t.lower) :
    StopsAt vocabulary t rest (.noVocabularyMatch rest)
  | inside {w : Word} (hw : w ∈ vocabulary) (hbegins : w.key <+: t.lower)
    (hmax : ∀ v ∈ vocabulary, v.key <+: t.lower → v.spelling.length ≤ w.spelling.length) :
    StopsAt vocabulary t rest
      (.wordBoundary (rest.take w.spelling.length) (rest.drop w.spelling.length))

theorem StopsAt.isUnmatched {t rest : Text} {misreading : Misreading}
    (h : StopsAt vocabulary t rest misreading) : misreading.isUnmatched := by
  cases h <;> rfl

/-- A key without blanks that begins a text of several words begins the first of them. -/
theorem prefix_of_prefix_append_space {key t rest : Text} (hkey : ∀ c ∈ key, isBlank c = false)
    (h : key <+: t ++ ' ' :: rest) : key <+: t := by
  rcases Nat.lt_or_ge t.length key.length with hlt | hle
  · -- otherwise the key would reach the space
    have hspace : key[t.length]? = some ' ' := by
      obtain ⟨more, hmore⟩ := h
      have hget := congrArg (fun l : List Char => l[t.length]?) hmore
      rw [List.getElem?_append_left hlt, List.getElem?_append_right (Nat.le_refl _),
        Nat.sub_self] at hget
      exact hget
    exact absurd (hkey ' ' (List.mem_of_getElem? hspace)) (by simp)
  · exact List.prefix_of_prefix_length_le h (List.prefix_append t _) hle

/-- A key without blanks that begins joined words begins the first of them. -/
theorem prefix_lower_unwords_iff {key t : Text} {us : List Text}
    (hkey : ∀ c ∈ key, isBlank c = false) (ht : t.AllTypable) (hus : ∀ u ∈ us, u.AllTypable) :
    key <+: (Text.unwords (t :: us)).lower ↔ key <+: t.lower := by
  by_cases hne : us = []
  · rw [hne, Text.unwords_singleton]
  · have hall : ∀ u ∈ t :: us, u.AllTypable := fun u hu =>
      (List.mem_cons.mp hu).elim (fun h => h ▸ ht) (hus u)
    have hlower : (Text.unwords (t :: us)).lower =
        t.lower ++ ' ' :: Text.unwords (us.map Text.lower) := by
      rw [Text.lower_unwords hall, List.map_cons,
        Text.unwords_cons_of_ne_nil _ (by simpa using hne)]
    rw [hlower]
    exact ⟨prefix_of_prefix_append_space hkey, fun h => h.trans (List.prefix_append _ _)⟩

/-- What stands behind the first of joined words: nothing, or a space and the other words. -/
theorem drop_unwords (t : Text) (us : List Text) :
    (Text.unwords (t :: us)).drop t.length = if us = [] then [] else ' ' :: Text.unwords us := by
  split
  · next hne => rw [hne, Text.unwords_singleton, List.drop_length]
  · next hne => rw [Text.unwords_cons_of_ne_nil t hne, List.drop_left]

theorem length_unwords_lt {t : Text} (ht : t.IsWord) (us : List Text) :
    (Text.unwords us).length < (Text.unwords (t :: us)).length := by
  have hpos := List.length_pos_of_ne_nil ht.ne_nil
  by_cases hnil : us = []
  · subst hnil
    exact hpos
  · rw [Text.unwords_cons_of_ne_nil t hnil, List.length_append, List.length_cons]
    omega

variable (h : Word.LongestFirst vocabulary)
  (hsingle : ∀ w ∈ vocabulary, ∀ c ∈ w.spelling, isBlank c = false)
include h hsingle

/-- On joined words the scan sees the first of them only. -/
theorem fits_unwords_iff {t : Text} (ht : t.AllTypable) {us : List Text}
    (hus : ∀ u ∈ us, u.AllTypable) {w : Word} (hw : w ∈ vocabulary) :
    (w.spelling.length ≤ (Text.unwords (t :: us)).length ∧
      w.key <+: (Text.unwords (t :: us)).lower) ↔ w.key <+: t.lower := by
  have hkey : ∀ c ∈ w.key, isBlank c = false :=
    (Text.all_not_isBlank_lower (h.isSpelling w hw).allTypable).mpr (hsingle w hw)
  rw [prefix_lower_unwords_iff hkey ht hus]
  refine ⟨fun hfits => hfits.2, fun hbegins => ⟨?_, hbegins⟩⟩
  have hle := hbegins.length_le
  rw [h.length_key hw, Text.length_lower ht] at hle
  exact Nat.le_trans hle (Text.prefix_unwords_cons t us).length_le

/-- Reading on from a word that the vocabulary knows takes this word alone. -/
theorem readFrom_unwords_cons {t : Text} (hword : t.IsWord) (ht : t.AllTypable) {us : List Text}
    (husword : ∀ u ∈ us, u.IsWord) (hus : ∀ u ∈ us, u.AllTypable) {w : Word}
    (hw : w ∈ vocabulary) (hkey : w.key = t.lower) (bound : Nat) :
    readFrom vocabulary (bound + 1) (Text.unwords (t :: us)) =
      (readFrom vocabulary bound (Text.unwords us)).map (ofKey vocabulary t.lower :: ·) := by
  have hlength : w.spelling.length = t.length := by
    rw [← h.length_key hw, hkey, Text.length_lower ht]
  have hne := Text.unwords_cons_ne_nil hword.ne_nil us
  have hfits : ∀ {u : Word}, u ∈ vocabulary → _ := fits_unwords_iff h hsingle ht hus
  -- the longest key that fits is at least as long as the word, and no longer
  obtain ⟨v, hv, hvkey, hlongest⟩ : ∃ v ∈ vocabulary, v.key = t.lower ∧
      longest vocabulary (Text.unwords (t :: us)) = ofKey vocabulary v.key := by
    obtain ⟨hwlen, hwbegins⟩ := (hfits hw).mpr (hkey ▸ List.prefix_refl _)
    rcases longest_cases h (Text.unwords (t :: us)) with ⟨-, hnone⟩ | ⟨v, hv, hvl, hvp, hl, hmax⟩
    · exact absurd hwbegins (hnone w hw hwlen)
    · refine ⟨v, hv, ?_, hl⟩
      have hbegins := (hfits hv).mp ⟨hvl, hvp⟩
      have hle := hmax w hw hwlen hwbegins
      refine hbegins.eq_of_length_le ?_
      rw [Text.length_lower ht, h.length_key hv]
      omega
  have hvlength : v.spelling.length = t.length := by
    rw [← h.length_key hv, hvkey, Text.length_lower ht]
  rw [readFrom_succ h hne hv hlongest, hvlength, hvkey, drop_unwords]
  by_cases hnil : us = []
  · subst hnil
    rfl
  · rw [if_neg hnil, if_neg (by simp)]
    have hstrip : Text.strip (' ' :: Text.unwords us) = Text.strip (Text.unwords us) := by
      rw [Text.strip, List.dropWhile_cons, if_pos Text.isBlank_space]
      rfl
    rw [hstrip, Text.strip_unwords husword]

/-- **Known words are passed over**, each with all words of the vocabulary that are spelled like it.
What is left of the bound is enough for the other words. -/
theorem exists_readFrom_unwords_append {ts us : List Text}
    (hts : ∀ t ∈ ts, t.IsWord ∧ t.AllTypable) (hus : ∀ u ∈ us, u.IsWord ∧ u.AllTypable)
    (hknown : ∀ t ∈ ts, IsKnown vocabulary t) {bound : Nat}
    (hbound : (Text.unwords (ts ++ us)).length ≤ bound) :
    ∃ bound', (Text.unwords us).length ≤ bound' ∧
      readFrom vocabulary bound (Text.unwords (ts ++ us)) =
        (readFrom vocabulary bound' (Text.unwords us)).map
          (ts.map (fun t => ofKey vocabulary t.lower) ++ ·) := by
  induction ts generalizing bound with
  | nil =>
    refine ⟨bound, hbound, ?_⟩
    rw [List.nil_append]
    cases readFrom vocabulary bound (Text.unwords us) <;> rfl
  | cons t ts ih =>
    have ht := hts t List.mem_cons_self
    have hts' : ∀ u ∈ ts, u.IsWord ∧ u.AllTypable := fun u hu => hts u (List.mem_cons_of_mem t hu)
    have hrest : ∀ u ∈ ts ++ us, u.IsWord ∧ u.AllTypable := fun u hu =>
      (List.mem_append.mp hu).elim (hts' u) (hus u)
    obtain ⟨w, hw, hkey⟩ := hknown t List.mem_cons_self
    rw [List.cons_append] at hbound
    -- a word takes one character at least, so a smaller bound is enough for the others
    have hlt := length_unwords_lt ht.1 (ts ++ us)
    obtain ⟨bound, rfl⟩ := Nat.exists_eq_succ_of_ne_zero (show bound ≠ 0 by omega)
    have hle : (Text.unwords (ts ++ us)).length ≤ bound := by omega
    obtain ⟨bound', hbound', hread⟩ :=
      ih hts' (fun u hu => hknown u (List.mem_cons_of_mem t hu)) hle
    refine ⟨bound', hbound', ?_⟩
    rw [List.cons_append, readFrom_unwords_cons h hsingle ht.1 ht.2 (fun u hu => (hrest u hu).1)
      (fun u hu => (hrest u hu).2) hw hkey, hread]
    cases readFrom vocabulary bound' (Text.unwords us) <;> rfl

/-- Reading known words needs no more than their length as a bound. -/
theorem readFrom_unwords_of_known {ts : List Text} (hts : ∀ t ∈ ts, t.IsWord ∧ t.AllTypable)
    (hknown : ∀ t ∈ ts, IsKnown vocabulary t) {bound : Nat}
    (hbound : (Text.unwords ts).length ≤ bound) :
    readFrom vocabulary bound (Text.unwords ts) =
      .ok (ts.map fun t => ofKey vocabulary t.lower) := by
  rw [← List.append_nil ts] at hbound ⊢
  obtain ⟨bound', -, hread⟩ := exists_readFrom_unwords_append h hsingle hts
    (fun u hu => absurd hu List.not_mem_nil) hknown hbound
  have hnil : readFrom vocabulary bound' (Text.unwords []) = .ok [] := readFrom_nil bound'
  rw [hread, hnil, List.append_nil]
  exact congrArg Except.ok (List.append_nil _)

/-- **Known words are looked up one by one.** -/
theorem read_unwords_of_known {ts : List Text} (hts : ∀ t ∈ ts, t.IsWord ∧ t.AllTypable)
    (hknown : ∀ t ∈ ts, IsKnown vocabulary t) :
    read vocabulary (Text.unwords ts) = .ok (ts.map fun t => ofKey vocabulary t.lower) := by
  rw [read, Text.strip_unwords fun t ht => (hts t ht).1]
  exact readFrom_unwords_of_known h hsingle hts hknown (Nat.le_refl _)

/-- Where an unknown word stands, reading stops. -/
theorem readFrom_unwords_cons_of_unknown {t : Text} (hword : t.IsWord) (ht : t.AllTypable)
    {us : List Text} (hus : ∀ u ∈ us, u.AllTypable) (hunknown : ¬IsKnown vocabulary t)
    (bound : Nat) :
    ∃ misreading, readFrom vocabulary (bound + 1) (Text.unwords (t :: us)) = .error misreading ∧
      StopsAt vocabulary t (Text.unwords (t :: us)) misreading := by
  have hne := Text.unwords_cons_ne_nil hword.ne_nil us
  have hfits : ∀ {w : Word}, w ∈ vocabulary → _ := fits_unwords_iff h hsingle ht hus
  rcases longest_cases h (Text.unwords (t :: us)) with
    ⟨hnil, hnone⟩ | ⟨w, hw, hwlength, hwbegins, hlongest, hmax⟩
  · refine ⟨_, readFrom_succ_of_longest_nil hne hnil bound, .unmatched fun w hw hbegins => ?_⟩
    obtain ⟨hlength, hbegins⟩ := (hfits hw).mpr hbegins
    exact hnone w hw hlength hbegins
  · have hbegins := (hfits hw).mp ⟨hwlength, hwbegins⟩
    -- the match is a proper beginning of the word, so a character of the word follows it
    have hshort : w.spelling.length < t.length := by
      rw [← h.length_key hw, ← Text.length_lower ht]
      refine Nat.lt_of_le_of_ne hbegins.length_le fun heq => ?_
      exact hunknown ⟨w, hw, hbegins.eq_of_length heq⟩
    have hhead : ((Text.unwords (t :: us)).drop w.spelling.length).head? =
        some t[w.spelling.length] := by
      rw [List.head?_drop]
      by_cases hnil : us = []
      · rw [hnil, Text.unwords_singleton, List.getElem?_eq_getElem hshort]
      · rw [Text.unwords_cons_of_ne_nil t hnil, List.getElem?_append_left hshort,
          List.getElem?_eq_getElem hshort]
    have hspace : t[w.spelling.length] ≠ ' ' := by
      intro heq
      have hblank := hword.not_blank _ (List.getElem_mem hshort)
      rw [heq] at hblank
      exact absurd hblank (by simp)
    have hread := readFrom_succ h hne hw hlongest bound
    rw [if_pos (by rw [hhead]; simpa using hspace)] at hread
    refine ⟨_, hread, .inside hw hbegins fun v hv hvbegins => ?_⟩
    obtain ⟨hvlength, hvbegins⟩ := (hfits hv).mpr hvbegins
    exact hmax v hv hvlength hvbegins

/-- **The first unknown word stops the reading**, with the text from it on. -/
theorem readFrom_unwords_append_cons_of_unknown {ts : List Text} {t : Text} {us : List Text}
    (hwords : ∀ u ∈ ts ++ t :: us, u.IsWord ∧ u.AllTypable)
    (hknown : ∀ u ∈ ts, IsKnown vocabulary u) (hunknown : ¬IsKnown vocabulary t) {bound : Nat}
    (hbound : (Text.unwords (ts ++ t :: us)).length ≤ bound) :
    ∃ misreading, readFrom vocabulary bound (Text.unwords (ts ++ t :: us)) = .error misreading ∧
      StopsAt vocabulary t (Text.unwords (t :: us)) misreading := by
  have hrest : ∀ u ∈ t :: us, u.IsWord ∧ u.AllTypable :=
    fun u hu => hwords u (List.mem_append_right ts hu)
  obtain ⟨hword, ht⟩ := hrest t List.mem_cons_self
  obtain ⟨bound', hbound', hread⟩ := exists_readFrom_unwords_append h hsingle
    (fun u hu => hwords u (List.mem_append_left _ hu)) hrest hknown hbound
  have hpos := List.length_pos_of_ne_nil (Text.unwords_cons_ne_nil hword.ne_nil us)
  obtain ⟨bound', rfl⟩ := Nat.exists_eq_succ_of_ne_zero (show bound' ≠ 0 by omega)
  obtain ⟨misreading, herror, hstops⟩ := readFrom_unwords_cons_of_unknown h hsingle hword ht
    (fun u hu => (hrest u (List.mem_cons_of_mem t hu)).2) hunknown bound'
  exact ⟨misreading, by rw [hread, herror]; rfl, hstops⟩

/-- **A text with an unknown word is not matched.** -/
theorem read_unwords_of_unknown {ts : List Text} (hts : ∀ t ∈ ts, t.IsWord ∧ t.AllTypable)
    (hunknown : ∃ t ∈ ts, ¬IsKnown vocabulary t) :
    ∃ misreading, read vocabulary (Text.unwords ts) = .error misreading ∧
      misreading.isUnmatched := by
  obtain ⟨known, t, us, rfl, ht, hknown⟩ := exists_first_unknown hunknown
  obtain ⟨misreading, hread, hstops⟩ :=
    readFrom_unwords_append_cons_of_unknown h hsingle hts hknown ht (Nat.le_refl _)
  refine ⟨misreading, ?_, hstops.isUnmatched⟩
  rw [read, Text.strip_unwords fun t ht => (hts t ht).1]
  exact hread

end Read

end AmbiguityGroup

end CommandPrompt
