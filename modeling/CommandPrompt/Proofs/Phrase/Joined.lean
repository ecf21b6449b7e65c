import CommandPrompt.Proofs.Phrase.Longest

/-!
# Texts that are made of spellings

Reading never goes back: it takes the longest spelling that begins the rest of the text, and asks
only then whether a word of the text ends there. So the keys it finds are determined by the text
(`AmbiguityGroup.Spells`), and a text is read if and only if there are such keys
(`readFrom_eq_ok_iff`).

Spellings of a vocabulary, joined by single spaces, need not be read as these spellings, and not at
all. A longer spelling can begin the text where a shorter one was meant, and end inside a later one:
"look at" takes the start of "look attic". They are read whenever a longer spelling that begins at
one of them ends with one of them (`read_joined`), and as they were meant if none goes on behind a
shorter one with a space.

The same holds of one spelling alone, which has no later one. What keeps it from being read is a
space at its own end. Reading drops the blanks around a text, so such a spelling is found in no
text, and where it begins one it stands in the way of the others (`read_spelling_iff`).
-/

namespace CommandPrompt

namespace Text

/-- Tight texts can be joined to a tight one. -/
theorem isTight_unwords {ts : List Text} (h : ∀ t ∈ ts, t ≠ [] ∧ t.IsTight) :
    (unwords ts).IsTight := by
  induction ts with
  | nil => exact ⟨rfl, fun c hc => absurd hc (by simp [unwords, join])⟩
  | cons t us ih =>
    obtain ⟨hne, ht⟩ := h t List.mem_cons_self
    by_cases hnil : us = []
    · subst hnil
      exact ht
    · have hus := ih fun u hu => h u (List.mem_cons_of_mem t hu)
      have hlast := List.getLast?_eq_some_getLast hne
      rw [unwords_cons_of_ne_nil t hnil]
      constructor
      · refine isTypableAfter_append ht.isTypable hlast ?_
        rw [ht.last_not_blank _ hlast, isTypableAfter]
        exact hus.isTypable
      · -- the last character is that of the other texts, which are not all empty
        obtain ⟨u, vs, rfl⟩ := List.exists_cons_of_ne_nil hnil
        have hrest := unwords_cons_ne_nil (h u (by simp)).1 vs
        intro c hc
        refine hus.last_not_blank c ?_
        rw [List.getLast?_append_of_ne_nil _ (List.cons_ne_nil ' ' _),
          List.getLast?_cons_of_ne_nil hrest] at hc
        exact hc

/-- A spelling is tight if it does not end in a space. -/
theorem IsSpelling.isTight {t : Text} (h : t.IsSpelling) (hlast : t.getLast? ≠ some ' ') :
    t.IsTight where
  isTypable := h.isTypable
  last_not_blank := fun c hc => by
    rw [← Bool.not_eq_true, isBlank_iff_of_isTypableChar (h.allTypable c (List.mem_of_getLast? hc))]
    rintro rfl
    exact hlast hc

/-- A space that stands in the lower case of a text stands in the text. -/
theorem exists_of_lower_eq_append {t k more : Text} (ht : t.AllTypable)
    (h : t.lower = k ++ ' ' :: more) :
    ∃ s rest, t = s ++ ' ' :: rest ∧ s.length = k.length ∧ lower rest = more := by
  rw [lower_eq_map ht, List.map_eq_append_iff] at h
  obtain ⟨s, _, rfl, hs, htail⟩ := h
  obtain ⟨c, rest, rfl, hc, hrest⟩ := List.map_eq_cons_iff.mp htail
  obtain rfl := (toLower_eq_space_iff c).mp hc
  have hall : AllTypable rest :=
    ht.of_sublist ((List.sublist_cons_self _ _).trans (List.sublist_append_right s _))
  exact ⟨s, rest, rfl, by rw [← hs, List.length_map], by rw [lower_eq_map hall, hrest]⟩

end Text

namespace AmbiguityGroup

variable {vocabulary : List Word}

/-! ### Reading what can be spelled -/

section Reading

variable (h : Word.LongestFirst vocabulary)
include h

/-- A match that is as long as the text ends the reading. -/
theorem readFrom_of_length_eq {t : Text} (ht : t ≠ []) {w : Word} (hw : w ∈ vocabulary)
    (hlongest : longest vocabulary t = ofKey vocabulary w.key)
    (hlength : w.spelling.length = t.length) (bound : Nat) :
    readFrom vocabulary (bound + 1) t = .ok [ofKey vocabulary w.key] := by
  have hstrip : Text.strip [] = [] := rfl
  rw [readFrom_succ h ht hw hlongest, hlength, List.drop_length, List.head?_nil, Option.any_none,
    if_neg Bool.false_ne_true, hstrip, readFrom_nil]
  rfl

/-- Behind a match up to a space, reading goes on with what stands behind the space. -/
theorem readFrom_append_cons_space {s rest : Text} (ht : Text.IsTight (s ++ ' ' :: rest)) {w : Word}
    (hw : w ∈ vocabulary)
    (hlongest : longest vocabulary (s ++ ' ' :: rest) = ofKey vocabulary w.key)
    (hlength : w.spelling.length = s.length) (bound : Nat) :
    readFrom vocabulary (bound + 1) (s ++ ' ' :: rest) =
      (readFrom vocabulary bound rest).map (ofKey vocabulary w.key :: ·) := by
  have hrest := ht.of_append_cons_space.2
  rw [readFrom_succ h (by simp) hw hlongest, hlength, List.drop_left, if_neg (by simp),
    Text.strip_cons_space, hrest.strip_eq]

/-- Only the empty text is spelled by no keys. -/
theorem Spells.eq_nil_iff {keys : List Text} {t : Text} (ht : t.AllTypable)
    (hs : Spells vocabulary keys t) : keys = [] ↔ t = [] := by
  rw [← Text.lower_eq_nil_iff ht, ← hs.unwords_eq]
  refine ⟨fun hnil => by rw [hnil]; rfl, fun hnil => ?_⟩
  cases keys with
  | nil => rfl
  | cons key keys =>
    obtain ⟨w, hmem⟩ := List.exists_mem_of_ne_nil _ (hs.known key List.mem_cons_self)
    obtain ⟨hw, rfl⟩ := mem_ofKey.mp hmem
    have hkey : w.key ≠ [] := (h.isSpelling w hw).lower.ne_nil
    exact absurd hnil (Text.unwords_cons_ne_nil hkey keys)

omit h in
/-- Without the first key, the other keys spell what stands behind it. -/
theorem Spells.tail {key : Text} {keys : List Text} {t rest : Text}
    (hs : Spells vocabulary (key :: keys) t) (hrest : rest <:+ t) (ht : t.AllTypable)
    (hlower : rest.lower = Text.unwords keys) : Spells vocabulary keys rest where
  unwords_eq := hlower.symm
  known := fun k hk => hs.known k (List.mem_cons_of_mem key hk)
  longest := by
    intro before k behind hsplit
    obtain ⟨place, hplace, hplace_lower, hlongest⟩ :=
      hs.longest (key :: before) k behind (by rw [hsplit, List.cons_append])
    refine ⟨place, List.suffix_of_suffix_length_le hplace hrest ?_, hplace_lower, hlongest⟩
    -- the keys from `k` on are the end of all of them, so their place is inside the rest
    have hle := (Text.unwords_suffix_unwords_append before (k :: behind)).length_le
    rwa [← hsplit, ← hlower, ← hplace_lower, Text.length_lower (ht.of_sublist hplace.sublist),
      Text.length_lower (ht.of_sublist hrest.sublist)] at hle

/-- **What can be spelled is read**, as the keys that spell it. -/
theorem readFrom_of_spells {keys : List Text} {t : Text} (ht : t.IsTight) {bound : Nat}
    (hbound : t.length ≤ bound) (hs : Spells vocabulary keys t) :
    readFrom vocabulary bound t = .ok (keys.map (ofKey vocabulary)) := by
  induction keys generalizing t bound with
  | nil =>
    obtain rfl := (hs.eq_nil_iff h ht.allTypable).mp rfl
    exact readFrom_nil bound
  | cons key keys ih =>
    have hne : t ≠ [] := fun hnil => by
      have := (hs.eq_nil_iff h ht.allTypable).mpr hnil
      exact absurd this (List.cons_ne_nil key keys)
    have hpos := List.length_pos_of_ne_nil hne
    obtain ⟨bound, rfl⟩ := Nat.exists_eq_succ_of_ne_zero (show bound ≠ 0 by omega)
    obtain ⟨w, hmem⟩ := List.exists_mem_of_ne_nil _ (hs.known key List.mem_cons_self)
    obtain ⟨hw, rfl⟩ := mem_ofKey.mp hmem
    have hlongest : longest vocabulary t = ofKey vocabulary w.key := by
      -- the place of the first key is the whole text, because it is as long
      obtain ⟨place, hplace, hplace_lower, hlongest⟩ := hs.longest [] w.key keys rfl
      have hlength : place.length = t.length := by
        rw [← Text.length_lower (ht.allTypable.of_sublist hplace.sublist), hplace_lower,
          hs.unwords_eq, Text.length_lower ht.allTypable]
      rw [longest_eq_longestOf h ht.allTypable, ← hplace.eq_of_length hlength, ← hlongest]
    have hlower := hs.unwords_eq
    by_cases hnil : keys = []
    · subst hnil
      refine readFrom_of_length_eq h hne hw hlongest ?_ bound
      rw [← h.length_key hw, ← Text.length_lower ht.allTypable, ← hlower, Text.unwords_singleton]
    · rw [Text.unwords_cons_of_ne_nil _ hnil] at hlower
      -- the text is cut where the key ends: the space of the joined keys is one of the text
      obtain ⟨s, rest, rfl, hlength, hrest⟩ :=
        Text.exists_of_lower_eq_append ht.allTypable hlower.symm
      replace hlength : w.spelling.length = s.length := by rw [hlength, h.length_key hw]
      have hsuffix : rest <:+ s ++ ' ' :: rest :=
        (List.suffix_cons ' ' rest).trans (List.suffix_append s _)
      have hle : rest.length ≤ bound := by
        rw [List.length_append, List.length_cons] at hbound
        omega
      rw [readFrom_append_cons_space h ht hw hlongest hlength bound,
        ih ht.of_append_cons_space.2 hle (hs.tail hsuffix ht.allTypable hrest)]
      rfl

/-- **A tight text is read if and only if keys spell it**, and then as these keys. -/
theorem readFrom_eq_ok_iff {t : Text} (ht : t.IsTight) {bound : Nat} (hbound : t.length ≤ bound)
    {groups : List AmbiguityGroup} :
    readFrom vocabulary bound t = .ok groups ↔
      ∃ keys, groups = keys.map (ofKey vocabulary) ∧ Spells vocabulary keys t := by
  constructor
  · exact spells_of_readFrom h ht
  · rintro ⟨keys, rfl, hs⟩
    exact readFrom_of_spells h ht hbound hs

theorem read_eq_ok_iff {t : Text} (ht : t.IsTight) {groups : List AmbiguityGroup} :
    read vocabulary t = .ok groups ↔
      ∃ keys, groups = keys.map (ofKey vocabulary) ∧ Spells vocabulary keys t := by
  rw [read, ht.strip_eq]
  exact readFrom_eq_ok_iff h ht (Nat.le_refl _)

/-- Where a word begins a text, the longest words that do so are at least as long. -/
theorem exists_longestOf_of_begins {t : Text} (ht : t.AllTypable) {w : Word} (hw : w ∈ vocabulary)
    (hbegins : w.key <+: t.lower) :
    ∃ v ∈ vocabulary, v.key <+: t.lower ∧ w.spelling.length ≤ v.spelling.length ∧
      longestOf vocabulary t = ofKey vocabulary v.key := by
  have hfits : w.spelling.length ≤ t.length := by
    have hle := hbegins.length_le
    rwa [h.length_key hw, Text.length_lower ht] at hle
  rw [← longest_eq_longestOf h ht]
  rcases longest_cases h t with ⟨-, hnone⟩ | ⟨v, hv, -, hvbegins, hlongest, hmax⟩
  · exact absurd hbegins (hnone w hw hfits)
  · exact ⟨v, hv, hvbegins, hmax w hw hfits hbegins, hlongest⟩

end Reading

/-! ### Joined spellings -/

/-- Whether every longer spelling that begins a sequence of words at one of them takes whole words:
it ends where one of the words ends. -/
def TakesWhole (vocabulary : List Word) : List Word → Prop
  | [] => True
  | w :: ws =>
    (∀ v ∈ vocabulary, w.spelling.length < v.spelling.length →
      v.key <+: Text.unwords ((w :: ws).map Word.key) →
      ∃ taken, taken <+: ws ∧ v.key = Text.unwords ((w :: taken).map Word.key)) ∧
    TakesWhole vocabulary ws

theorem TakesWhole.of_append {ws us : List Word} (h : TakesWhole vocabulary (ws ++ us)) :
    TakesWhole vocabulary us := by
  induction ws with
  | nil => exact h
  | cons w ws ih => exact ih h.2

section Joined

variable (h : Word.LongestFirst vocabulary)
  (hend : ∀ w ∈ vocabulary, w.spelling.getLast? ≠ some ' ') {ws : List Word}
  (hws : ∀ w ∈ ws, w ∈ vocabulary)
include h hws

theorem allTypable_joined : (Text.unwords (ws.map Word.spelling)).AllTypable :=
  Text.allTypable_unwords (List.forall_mem_map.mpr fun w hw =>
    (h.isSpelling w (hws w hw)).allTypable)

theorem lower_joined :
    (Text.unwords (ws.map Word.spelling)).lower = Text.unwords (ws.map Word.key) := by
  rw [Text.lower_unwords, List.map_map]
  · rfl
  · rw [List.forall_mem_map]
    exact fun w hw => (h.isSpelling w (hws w hw)).allTypable

theorem joined_ne_nil (hne : ws ≠ []) : Text.unwords (ws.map Word.spelling) ≠ [] := by
  obtain ⟨w, us, rfl⟩ := List.exists_cons_of_ne_nil hne
  exact Text.unwords_cons_ne_nil (h.isSpelling w (hws w List.mem_cons_self)).ne_nil _

include hend in
theorem isTight_joined : (Text.unwords (ws.map Word.spelling)).IsTight := by
  refine Text.isTight_unwords ?_
  rw [List.forall_mem_map]
  intro w hw
  have hspelling := h.isSpelling w (hws w hw)
  exact ⟨hspelling.ne_nil, hspelling.isTight (hend w (hws w hw))⟩

omit hws in
/-- If the longest spelling that begins joined words takes the first few of them, and keys spell the
others, then it and the keys spell them all. -/
theorem spells_append {taken others : List Word} (htaken : taken ≠ [])
    (hmem : ∀ w ∈ taken ++ others, w ∈ vocabulary) {v : Word} (hv : v ∈ vocabulary)
    (hkey : v.key = Text.unwords (taken.map Word.key))
    (hlongest : longestOf vocabulary (Text.unwords ((taken ++ others).map Word.spelling)) =
      ofKey vocabulary v.key)
    {keys : List Text} (hs : Spells vocabulary keys (Text.unwords (others.map Word.spelling))) :
    Spells vocabulary (v.key :: keys) (Text.unwords ((taken ++ others).map Word.spelling)) := by
  have hothers : ∀ w ∈ others, w ∈ vocabulary := fun w hw => hmem w (List.mem_append_right _ hw)
  have hlower : (Text.unwords (others.map Word.spelling)).lower =
      Text.unwords (others.map Word.key) := lower_joined h hothers
  -- no words are left just if no keys are
  have hnil : keys = [] ↔ others = [] := by
    rw [hs.eq_nil_iff h (allTypable_joined h hothers)]
    refine ⟨fun hnil => ?_, fun hnil => by rw [hnil]; rfl⟩
    by_contra hne
    exact joined_ne_nil h hothers hne hnil
  have hkeys : Text.unwords ((taken ++ others).map Word.key) = Text.unwords (v.key :: keys) := by
    by_cases hne : others = []
    · rw [hne, List.append_nil, ← hkey, hnil.mpr hne, Text.unwords_singleton]
    · calc Text.unwords ((taken ++ others).map Word.key)
          = Text.unwords (taken.map Word.key) ++ ' ' :: Text.unwords (others.map Word.key) := by
            rw [List.map_append, Text.unwords_append (by simpa using htaken) (by simpa using hne)]
        _ = v.key ++ ' ' :: Text.unwords keys := by rw [← hkey, ← hlower, ← hs.unwords_eq]
        _ = Text.unwords (v.key :: keys) := by
            rw [Text.unwords_cons_of_ne_nil _ (mt hnil.mp hne)]
  refine Spells.cons hv hlongest ?_ ((lower_joined h hmem).trans hkeys) hs
  rw [List.map_append]
  exact Text.unwords_suffix_unwords_append _ _

omit hws in
/-- What is found where words are joined is at least as long as the first of them. -/
theorem exists_longestOf_joined {w : Word} {us : List Word}
    (hmem : ∀ u ∈ w :: us, u ∈ vocabulary) :
    ∃ v ∈ vocabulary, v.key <+: Text.unwords ((w :: us).map Word.key) ∧
      w.spelling.length ≤ v.spelling.length ∧
      longestOf vocabulary (Text.unwords ((w :: us).map Word.spelling)) =
        ofKey vocabulary v.key := by
  rw [← lower_joined h hmem]
  refine exists_longestOf_of_begins h (allTypable_joined h hmem) (hmem w List.mem_cons_self) ?_
  rw [lower_joined h hmem]
  exact Text.prefix_unwords_cons w.key _

/-- Joined words are spelled by keys if no longer spelling ends inside one of them. -/
theorem exists_spells_joined (hwhole : TakesWhole vocabulary ws) :
    ∃ keys, Spells vocabulary keys (Text.unwords (ws.map Word.spelling)) := by
  induction hn : ws.length using Nat.strong_induction_on generalizing ws with
  | _ n ih =>
    cases ws with
    | nil => exact ⟨[], Spells.nil⟩
    | cons w us =>
      have hw := hws w List.mem_cons_self
      have hbegins : w.key <+: Text.unwords ((w :: us).map Word.key) :=
        Text.prefix_unwords_cons w.key _
      obtain ⟨v, hv, hvbegins, hle, hlongest⟩ := exists_longestOf_joined h hws
      -- the longest spelling takes the first word alone, or whole words with it
      obtain ⟨taken, ⟨others, rfl⟩, hkey⟩ : ∃ taken, taken <+: us ∧
          v.key = Text.unwords ((w :: taken).map Word.key) := by
        rcases Nat.lt_or_eq_of_le hle with hlt | heq
        · exact hwhole.1 v hv hlt hvbegins
        · refine ⟨[], List.nil_prefix, ?_⟩
          have hlength : v.key.length = w.key.length := by
            rw [h.length_key hv, h.length_key hw, heq]
          exact (List.prefix_of_prefix_length_le hvbegins hbegins
            (Nat.le_of_eq hlength)).eq_of_length hlength
      have hothers : ∀ u ∈ others, u ∈ vocabulary := fun u hu =>
        hws u (List.mem_cons_of_mem w (List.mem_append_right taken hu))
      have hlt : others.length < n := by
        rw [← hn, List.length_cons, List.length_append]
        omega
      obtain ⟨keys, hs⟩ := ih others.length hlt hothers hwhole.2.of_append rfl
      exact ⟨v.key :: keys, spells_append h (List.cons_ne_nil w taken) hws hv hkey hlongest hs⟩

/-- Joined words are spelled by their own keys if no spelling goes on behind another one with a
space. -/
theorem spells_joined (hsep : ∀ u ∈ vocabulary, ∀ v ∈ vocabulary, ¬u.key ++ [' '] <+: v.key) :
    Spells vocabulary (ws.map Word.key) (Text.unwords (ws.map Word.spelling)) := by
  induction ws with
  | nil => exact Spells.nil
  | cons w us ih =>
    have hw := hws w List.mem_cons_self
    have hus : ∀ u ∈ us, u ∈ vocabulary := fun u hu => hws u (List.mem_cons_of_mem w hu)
    have hbegins : w.key <+: Text.unwords ((w :: us).map Word.key) :=
      Text.prefix_unwords_cons w.key _
    obtain ⟨v, hv, hvbegins, hle, hlongest⟩ := exists_longestOf_joined h hws
    have hkey : v.key = w.key := by
      rw [← h.length_key hv, ← h.length_key hw] at hle
      refine ((List.prefix_of_prefix_length_le hbegins hvbegins hle).eq_of_length_le ?_).symm
      by_contra hlt
      -- a longer key would reach the space behind the word
      by_cases hnil : us = []
      · subst hnil
        exact hlt hvbegins.length_le
      · have hspace : w.key ++ [' '] <+: Text.unwords ((w :: us).map Word.key) := by
          rw [List.map_cons, Text.unwords_cons_of_ne_nil _ (by simpa using hnil)]
          exact ⟨_, List.append_cons _ _ _ |>.symm⟩
        refine hsep w hw v hv (List.prefix_of_prefix_length_le hspace hvbegins ?_)
        rw [List.length_append, List.length_singleton]
        omega
    have htaken : v.key = Text.unwords ([w].map Word.key) := hkey
    have hs := spells_append h (List.cons_ne_nil w []) hws hv htaken hlongest (ih hus)
    rwa [hkey] at hs

include hend in
/-- **When a text that is made of spellings is read.** It is if keys spell it, each the longest one
that begins the text from its place on, and so it is if every longer spelling that begins it at one
of the words takes whole words. If no spelling goes on behind another one with a space, the text is
read as the words it was made of. -/
theorem read_joined :
    ((∃ groups, read vocabulary (Text.unwords (ws.map Word.spelling)) = .ok groups) ↔
      ∃ keys, Spells vocabulary keys (Text.unwords (ws.map Word.spelling))) ∧
    (TakesWhole vocabulary ws →
      ∃ groups, read vocabulary (Text.unwords (ws.map Word.spelling)) = .ok groups) ∧
    ((∀ u ∈ vocabulary, ∀ v ∈ vocabulary, ¬u.key ++ [' '] <+: v.key) →
      read vocabulary (Text.unwords (ws.map Word.spelling)) =
        .ok (ws.map fun w => ofKey vocabulary w.key)) := by
  have hread : ∀ {groups}, read vocabulary (Text.unwords (ws.map Word.spelling)) = .ok groups ↔
      ∃ keys, groups = keys.map (ofKey vocabulary) ∧
        Spells vocabulary keys (Text.unwords (ws.map Word.spelling)) :=
    read_eq_ok_iff h (isTight_joined h hend hws)
  refine ⟨⟨fun ⟨groups, hgroups⟩ => ?_, fun ⟨keys, hs⟩ => ⟨_, hread.mpr ⟨keys, rfl, hs⟩⟩⟩,
    fun hwhole => ?_, fun hsep => ?_⟩
  · obtain ⟨keys, -, hs⟩ := hread.mp hgroups
    exact ⟨keys, hs⟩
  · obtain ⟨keys, hs⟩ := exists_spells_joined h hws hwhole
    exact ⟨_, hread.mpr ⟨keys, rfl, hs⟩⟩
  · refine hread.mpr ⟨ws.map Word.key, ?_, spells_joined h hws hsep⟩
    rw [List.map_map]
    rfl

end Joined

/-- To look, which is also to look at, and an attic. -/
def atticWords : List Word :=
  let look : Verb := ⟨1, "look".toList, ["look at".toList], none, ["at".toList]⟩
  let attic : Noun := ⟨2, "attic".toList, [], []⟩
  [⟨"look at".toList, .verb look, none⟩, ⟨"attic".toList, .noun attic, none⟩,
    ⟨"look".toList, .verb look, none⟩, ⟨"at".toList, .preposition look, none⟩]

theorem atticWords_longestFirst : Word.LongestFirst atticWords where
  isSpelling := fun w hw => ⟨by revert w; decide, by revert w; decide⟩
  descending := by decide

/-- **Words need not be read.** The longer spelling begins the text and ends inside the attic. -/
theorem not_read_look_attic :
    Word.LongestFirst atticWords ∧ (∀ w ∈ atticWords, w.spelling.getLast? ≠ some ' ') ∧
      ∃ look ∈ atticWords, ∃ attic ∈ atticWords,
        read atticWords (Text.unwords [look.spelling, attic.spelling]) =
          .error (.wordBoundary "look at".toList "tic".toList) := by
  refine ⟨atticWords_longestFirst, by decide, ?_⟩
  exact ⟨atticWords[2], by decide, atticWords[1], by decide, by decide +kernel⟩

/-- Looking at the attic is read, though as fewer words than it is made of. -/
theorem exists_read_look_at_attic :
    ∃ ws, (∀ w ∈ ws, w ∈ atticWords) ∧ Word.LongestFirst atticWords ∧
      (∀ w ∈ atticWords, w.spelling.getLast? ≠ some ' ') ∧
      TakesWhole atticWords ws ∧ Text.unwords (ws.map Word.spelling) = "look at attic".toList ∧
      ∃ groups, read atticWords "look at attic".toList = .ok groups := by
  have hmem : ∀ w ∈ [atticWords[2], atticWords[3], atticWords[1]], w ∈ atticWords := by decide
  have hend : ∀ w ∈ atticWords, w.spelling.getLast? ≠ some ' ' := by decide
  have hwhole : TakesWhole atticWords [atticWords[2], atticWords[3], atticWords[1]] := by
    -- only at the first word a longer spelling begins the text
    refine ⟨fun v hv hlt hbegins => ⟨[atticWords[3]], by decide, ?_⟩,
      fun v hv hlt hbegins => absurd hbegins ?_, fun v hv hlt hbegins => absurd hbegins ?_, trivial⟩
    all_goals
      revert v
      decide +kernel
  obtain ⟨-, hread, -⟩ := read_joined atticWords_longestFirst hend hmem
  exact ⟨_, hmem, atticWords_longestFirst, hend, hwhole, by decide, hread hwhole⟩

/-! ### One spelling -/

section Single

variable (h : Word.LongestFirst vocabulary) {w : Word} (hw : w ∈ vocabulary)
include h hw

/-- A spelling without a space at its end is read as the words that are spelled so. -/
theorem read_spelling (hend : w.spelling.getLast? ≠ some ' ') :
    read vocabulary w.spelling = .ok [ofKey vocabulary w.key] := by
  have hspelling := h.isSpelling w hw
  have htight := hspelling.isTight hend
  obtain ⟨v, hv, hvbegins, hle, hlongest⟩ :=
    exists_longestOf_of_begins h htight.allTypable hw (List.prefix_refl w.key)
  rw [← h.length_key hw, ← h.length_key hv] at hle
  -- nothing longer than the spelling begins it
  have hkey : v.key = w.key := hvbegins.eq_of_length_le hle
  rw [read_eq_ok_iff h htight]
  have hlower : w.spelling.lower = Text.unwords [v.key] := by
    rw [hkey, Text.unwords_singleton]
    rfl
  exact ⟨[v.key], by rw [hkey]; rfl, Spells.cons hv hlongest List.nil_suffix hlower Spells.nil⟩

variable (hend : w.spelling.getLast? = some ' ')
include hend

/-- The key of a spelling with a space at its end ends in the same space. -/
theorem exists_key_eq_concat_space : ∃ k, w.key = k ++ [' '] := by
  obtain ⟨s, hs⟩ := List.getLast?_eq_some_iff.mp hend
  have hall := (h.isSpelling w hw).allTypable
  rw [hs] at hall
  refine ⟨Text.lower s, ?_⟩
  rw [Word.key, hs, Text.lower_append (hall.of_sublist (List.sublist_append_left s _))
    (hall.of_sublist (List.sublist_append_right s _))]
  rfl

/-- Where such a spelling begins what is left of a tight text, another word of the text begins right
behind it. -/
theorem exists_drop_eq_cons {t place : Text} (ht : t.IsTight) (hplace : place <:+ t)
    (hbegins : w.key <+: place.lower) :
    ∃ c rest, place.drop w.spelling.length = c :: rest ∧ c ≠ ' ' := by
  obtain ⟨k, hk⟩ := exists_key_eq_concat_space h hw hend
  obtain ⟨more, hmore⟩ := hbegins
  rw [hk, List.append_assoc, List.singleton_append] at hmore
  obtain ⟨s, rest, rfl, hlength, -⟩ :=
    Text.exists_of_lower_eq_append (ht.allTypable.of_sublist hplace.sublist) hmore.symm
  obtain ⟨before, rfl⟩ := hplace
  rw [← List.append_assoc] at ht
  obtain ⟨hne, hrest⟩ := ht.of_append_cons_space
  obtain ⟨c, cs, rfl⟩ := List.exists_cons_of_ne_nil hne
  refine ⟨c, cs, ?_, ?_⟩
  · rw [← h.length_key hw, hk, List.length_append, List.length_singleton, ← hlength,
      List.append_cons, List.drop_left' (by simp)]
  · rintro rfl
    exact absurd (Text.isBlank_head?_eq_false hrest.isTypable ' ' rfl) (by simp)

/-- Such a spelling is nowhere found in a text that is read. -/
theorem not_mem_of_read {t : Text} (ht : t.isTypable) {groups : List AmbiguityGroup}
    (hread : read vocabulary t = .ok groups) : ∀ group ∈ groups, w ∉ group := by
  have htight := Text.isTight_strip ht
  obtain ⟨keys, rfl, hs⟩ := spells_of_readFrom h htight hread
  rw [List.forall_mem_map]
  intro key hkey hmem
  obtain ⟨-, rfl⟩ := mem_ofKey.mp hmem
  -- where its key would stand, the text would go on with another character than a space
  obtain ⟨before, behind, rfl⟩ := List.append_of_mem hkey
  obtain ⟨place, hplace, hlower, -⟩ := hs.longest before w.key behind rfl
  have hbegins : w.key <+: place.lower := hlower ▸ Text.prefix_unwords_cons w.key behind
  have hall := htight.allTypable.of_sublist hplace.sublist
  obtain ⟨c, rest, hdrop, hc⟩ := exists_drop_eq_cons h hw hend htight hplace hbegins
  rw [lower_eq_key_append h hall hw hbegins, hdrop] at hlower
  have hdropped : Text.AllTypable (c :: rest) :=
    hdrop ▸ hall.of_sublist (List.drop_sublist _ place)
  rw [Text.lower_eq_map hdropped, List.map_cons] at hlower
  by_cases hnil : behind = []
  · rw [hnil, Text.unwords_singleton, List.append_right_eq_self] at hlower
    exact absurd hlower (List.cons_ne_nil _ _)
  · rw [Text.unwords_cons_of_ne_nil _ hnil, List.append_cancel_left_eq] at hlower
    exact hc ((toLower_eq_space_iff c).mp (List.cons.inj hlower).1)

/-- Where such a spelling is the longest that begins a text, it keeps the text from being read. -/
theorem read_of_begins {t : Text} (ht : t.isTypable) (hbegins : w.key <+: t.strip.lower)
    (hmax : ∀ u ∈ vocabulary, u.key <+: t.strip.lower → u.spelling.length ≤ w.spelling.length) :
    read vocabulary t = .error (.wordBoundary (t.strip.take w.spelling.length)
      (t.strip.drop w.spelling.length)) := by
  have htight := Text.isTight_strip ht
  obtain ⟨c, rest, hdrop, hc⟩ :=
    exists_drop_eq_cons h hw hend htight (List.suffix_refl _) hbegins
  have hne : t.strip ≠ [] := by
    intro hnil
    rw [hnil, List.drop_nil] at hdrop
    exact absurd hdrop.symm (List.cons_ne_nil c rest)
  have hlongest : longest vocabulary t.strip = ofKey vocabulary w.key := by
    rw [longest_eq_longestOf h htight.allTypable, longestOf_eq_ofKey h hw hbegins hmax]
  -- the bound is the length of a text that is not empty
  have hpos : t.length ≠ 0 := by
    have hle := (Text.strip_sublist t).length_le
    have hstrip := List.length_pos_of_ne_nil hne
    omega
  obtain ⟨bound, hbound⟩ := Nat.exists_eq_succ_of_ne_zero hpos
  rw [read, hbound, readFrom_succ h hne hw hlongest, hdrop, if_pos (by simpa using hc)]

end Single

end AmbiguityGroup

/-- **Which words of a world can be typed.** Alone, a word is read as itself, at one place, if and
only if its spelling does not end in a space. A spelling that does is accepted all the same. It is
found in no text, and every text that it begins is refused if no longer spelling begins it. -/
theorem World.read_spelling_iff {world : World} (hbuilt : world.Built) {w : Word}
    (hw : w ∈ world.vocabulary) :
    ((∃ group, AmbiguityGroup.read world.vocabulary w.spelling = .ok [group] ∧ w ∈ group) ↔
      w.spelling.getLast? ≠ some ' ') ∧
    (w.spelling.getLast? = some ' ' → ∀ t : Text, t.isTypable →
      (∀ groups, AmbiguityGroup.read world.vocabulary t = .ok groups →
        ∀ group ∈ groups, w ∉ group) ∧
      (w.key <+: t.strip.lower →
        (∀ u ∈ world.vocabulary, u.key <+: t.strip.lower →
          u.spelling.length ≤ w.spelling.length) →
        AmbiguityGroup.read world.vocabulary t =
          .error (.wordBoundary (t.strip.take w.spelling.length)
            (t.strip.drop w.spelling.length)))) := by
  have h := hbuilt.sound.longestFirst
  have hspelling := h.isSpelling w hw
  refine ⟨⟨fun ⟨group, hread, hmem⟩ hend => ?_, fun hend => ?_⟩, fun hend t ht => ⟨?_, ?_⟩⟩
  · have hnot := AmbiguityGroup.not_mem_of_read h hw hend hspelling.isTypable hread
    exact hnot group List.mem_cons_self hmem
  · refine ⟨_, AmbiguityGroup.read_spelling h hw hend, ?_⟩
    exact AmbiguityGroup.mem_ofKey.mpr ⟨hw, rfl⟩
  · exact fun groups hread => AmbiguityGroup.not_mem_of_read h hw hend ht hread
  · exact AmbiguityGroup.read_of_begins h hw hend ht

namespace World

/-- A world with an attic to look at, where the verb was written with a space behind it. -/
def lookAttic : World :=
  let looking := (({ title := [], author := [] } : World).addVerb { spelling := "look ".toList }).1
  (looking.addNoun { names := "attic".toList }).1

theorem lookAttic_built : lookAttic.Built := .addNoun (.addVerb (.empty [] []) _) _

/-- Its words, the only ones it has. -/
def lookAtticWords : List Word :=
  [⟨"attic".toList, .noun ⟨2, "attic".toList, [], []⟩, none⟩,
    ⟨"look ".toList, .verb ⟨1, "look ".toList, [], none, []⟩, none⟩]

theorem lookAttic_vocabulary : lookAttic.vocabulary = lookAtticWords := by
  -- the two spellings are equally long, so their letters put them in order
  rw [vocabulary, Word.sort_eq_insertionSort]
  decide +kernel

/-- **A registered word need not be found**, not even where it stands alone, and it can keep others
from being found. -/
theorem not_read_look_space :
    lookAttic.Built ∧ ∃ attic ∈ lookAttic.vocabulary, ∃ look ∈ lookAttic.vocabulary,
      AmbiguityGroup.read lookAttic.vocabulary look.spelling =
        .error (.noVocabularyMatch "look".toList) ∧
      AmbiguityGroup.read lookAttic.vocabulary (look.spelling ++ attic.spelling) =
        .error (.wordBoundary look.spelling attic.spelling) := by
  rw [lookAttic_vocabulary]
  refine ⟨lookAttic_built, lookAtticWords[0], by decide, lookAtticWords[1], by decide, ?_, ?_⟩
  · decide +kernel
  · decide +kernel

/-- Nobody can look there, and nobody can get at the attic behind the verb. -/
theorem not_read_look_space_attic :
    lookAttic.Built ∧ ∃ look ∈ lookAttic.vocabulary, look.spelling = "look ".toList ∧
      (¬∃ group, AmbiguityGroup.read lookAttic.vocabulary look.spelling = .ok [group] ∧
        look ∈ group) ∧
      AmbiguityGroup.read lookAttic.vocabulary "look attic".toList =
        .error (.wordBoundary "look ".toList "attic".toList) := by
  have hlook : lookAtticWords[1] ∈ lookAttic.vocabulary := by
    rw [lookAttic_vocabulary]
    decide
  obtain ⟨halone, hspace⟩ := read_spelling_iff lookAttic_built hlook
  have hend : lookAtticWords[1].spelling.getLast? = some ' ' := by decide
  refine ⟨lookAttic_built, _, hlook, rfl, fun hread => halone.mp hread hend, ?_⟩
  refine (hspace hend "look attic".toList (by decide +kernel)).2 (by decide +kernel) ?_
  rw [lookAttic_vocabulary]
  decide +kernel

end World

end CommandPrompt
