import CommandPrompt.Command.Report
import CommandPrompt.Proofs.Context.Totality
import CommandPrompt.Proofs.Context.Spelled
import CommandPrompt.Proofs.Json.Numbers

/-!
# Reports in lines

A plain report is read line by line. The main result is that nothing in it can be taken for what it
is not (`Command.offers_plainReport`): the lines that begin as offers do are those of the
suggestions, one for each and in their order, and each shows what its suggestion is displayed with.

Neither the line that was typed nor a group or an error can break a line in two, because no text of
a world and no clean line holds a line break (`Text.IsOneLine`). And none of them is set in as
offers are (`Command.IsBare`).
-/

namespace CommandPrompt

/-! ### Texts on one line -/

namespace Text

/-- No line ends in the text. -/
def IsOneLine (t : Text) : Prop := '\n' ∉ t

instance (t : Text) : Decidable t.IsOneLine := inferInstanceAs (Decidable ('\n' ∉ t))

theorem isOneLine_append {s t : Text} : IsOneLine (s ++ t) ↔ s.IsOneLine ∧ t.IsOneLine := by
  unfold IsOneLine
  rw [List.mem_append, not_or]

theorem AllTypable.isOneLine {t : Text} (h : t.AllTypable) : t.IsOneLine :=
  fun hmem => absurd (h '\n' hmem) (by decide)

theorem IsSpelling.isOneLine {t : Text} (h : t.IsSpelling) : t.IsOneLine := h.allTypable.isOneLine

theorem isOneLine_join {separator : Text} (hseparator : separator.IsOneLine) {ts : List Text}
    (h : ∀ t ∈ ts, t.IsOneLine) : IsOneLine (join separator ts) := by
  induction ts with
  | nil => exact List.not_mem_nil
  | cons t ts ih =>
    obtain ⟨ht, hts⟩ := List.forall_mem_cons.mp h
    cases ts with
    | nil => exact ht
    | cons u us =>
      rw [join, isOneLine_append, isOneLine_append]
      · exact ⟨⟨ht, hseparator⟩, ih hts⟩
      · simp

theorem isOneLine_repr (n : Nat) : IsOneLine (Nat.repr n).toList := by
  rw [Nat.repr_eq_ofList_toDigits, String.toList_ofList]
  exact fun hmem => absurd (Json.allDigits_toDigits n '\n' hmem) (by decide)

/-- The digits of a number and its sign stand on one line. -/
theorem isOneLine_toString (n : Int) : IsOneLine (toString n).toList := by
  cases n with
  | ofNat n => exact isOneLine_repr n
  | negSucc n =>
    show IsOneLine ("-" ++ Nat.repr (n + 1)).toList
    rw [String.toList_append, isOneLine_append]
    exact ⟨by decide, isOneLine_repr (n + 1)⟩

/-- **Lines that were put together are told apart again.** -/
theorem splitOn_join {lines : List Text} (hne : lines ≠ []) (h : ∀ t ∈ lines, t.IsOneLine) :
    (join ['\n'] lines ++ ['\n']).splitOn '\n' = lines ++ [[]] := by
  induction lines with
  | nil => exact absurd rfl hne
  | cons t lines ih =>
    obtain ⟨ht, hlines⟩ := List.forall_mem_cons.mp h
    cases lines with
    | nil =>
      show (t ++ '\n' :: []).splitOn '\n' = _
      rw [List.splitOn_append_cons_self_of_not_mem ht]
      rfl
    | cons u us =>
      have hjoin : join ['\n'] (t :: u :: us) ++ ['\n'] =
          t ++ '\n' :: (join ['\n'] (u :: us) ++ ['\n']) := by
        rw [join, List.append_assoc, List.append_assoc]
        · rfl
        · simp
      rw [hjoin, List.splitOn_append_cons_self_of_not_mem ht, ih (by simp) hlines]
      rfl

end Text

/-! ### Texts of a world -/

theorem Verb.exists_shortcut_of_shownAs {verb : Verb} {w : Word} (hw : w ∈ verb.words)
    {shown : Text}
    (hshown : w.shownAs = some shown) : ∃ shortcut, verb.shortcut = some shortcut ∧
      shown = shortcut ++ [' ', '('] ++ verb.spelling ++ [')'] := by
  unfold words at hw
  dsimp only at hw
  rcases List.mem_append.mp hw with hw | hw
  · rcases List.mem_append.mp hw with hw | hw
    · obtain ⟨t, -, rfl⟩ := List.mem_map.mp hw
      exact absurd hshown (by simp)
    · obtain ⟨shortcut, hshortcut, rfl⟩ := List.mem_map.mp hw
      exact ⟨shortcut, Option.mem_toList.mp hshortcut, (Option.some.inj hshown).symm⟩
  · obtain ⟨t, -, rfl⟩ := List.mem_map.mp hw
    exact absurd hshown (by simp)

/-- A word is displayed with its spelling, and a shortcut with that of its verb behind it. -/
theorem Word.isOneLine_display {world : World} (h : world.Sound) {w : Word}
    (hw : w ∈ world.words) : w.display.IsOneLine := by
  have hspelling : w.spelling.IsOneLine := (h.isSpelling hw).isOneLine
  unfold display
  split
  · exact hspelling
  · exact hspelling
  · next shown hne hshown =>
    rcases World.mem_words.mp hw with ⟨verb, hverb, hw⟩ | ⟨noun, -, hw⟩
    · obtain ⟨shortcut, hshortcut, hdisplay⟩ := Verb.exists_shortcut_of_shownAs hw hshown
      have hshort := h.verb_spelling verb hverb shortcut (by simp [Verb.spellings, hshortcut])
      have hlong := h.verb_spelling verb hverb verb.spelling List.mem_cons_self
      rw [hdisplay]
      simp only [Text.isOneLine_append]
      exact ⟨⟨⟨hshort.1.isOneLine, by decide⟩, hlong.1.isOneLine⟩, by decide⟩
    · rcases Noun.mem_words.mp hw with ⟨t, -, rfl⟩ | ⟨t, -, rfl⟩
      · exact absurd hshown (by simp)
      · exact absurd hshown (by simp)

theorem Noun.isOneLine_describe {world : World} (h : world.Sound) {noun : Noun}
    (hnoun : noun ∈ world.nouns) : noun.describe.IsOneLine := by
  refine Text.isOneLine_join (by decide) fun t ht => ?_
  refine (h.noun_spelling noun hnoun t ?_).isOneLine
  rcases List.mem_append.mp ht with ht | ht
  · exact List.mem_append_right _ ht
  · rw [List.mem_singleton.mp ht]
    exact List.mem_append_left _ List.mem_cons_self

/-! ### Misreadings on one line -/

/-- The text of a misreading stands on one line. -/
def Misreading.IsOneLine (misreading : Misreading) : Prop :=
  Text.IsOneLine misreading.message.toList

namespace Misreading

theorem isOneLine_noVocabularyMatch {t : Text} (ht : t.AllTypable) :
    IsOneLine (.noVocabularyMatch t) := by
  unfold IsOneLine message
  simp only [String.toList_append, String.toList_ofList, Text.isOneLine_append]
  exact ⟨⟨by decide, ht.isOneLine⟩, by decide⟩

theorem isOneLine_wordBoundary {s t : Text} (hs : s.AllTypable) (ht : t.AllTypable) :
    IsOneLine (.wordBoundary s t) := by
  unfold IsOneLine message
  simp only [String.toList_append, String.toList_ofList, Text.isOneLine_append]
  exact ⟨⟨⟨⟨by decide, hs.isOneLine⟩, by decide⟩, ht.isOneLine⟩, by decide⟩

theorem isOneLine_partOfSpeech (position : Nat) : IsOneLine (.partOfSpeech position) := by
  unfold IsOneLine message
  simp only [String.toList_append, Text.isOneLine_append]
  refine ⟨⟨⟨by decide, Text.isOneLine_repr position⟩, by decide⟩, ?_⟩
  split <;> decide

theorem isOneLine_noConsistentNoun (number : Nat) : IsOneLine (.noConsistentNoun number) := by
  unfold IsOneLine message
  simp only [String.toList_append, Text.isOneLine_append]
  exact ⟨by decide, Text.isOneLine_repr number⟩

theorem isOneLine_ambiguousPreposition {t : Text} (ht : t.AllTypable) :
    IsOneLine (.ambiguousPreposition t) := by
  unfold IsOneLine message
  simp only [String.toList_append, String.toList_ofList, Text.isOneLine_append]
  exact ⟨⟨by decide, ht.isOneLine⟩, by decide⟩

end Misreading

/-- A text that cannot be matched is told on one line, because what is told of it was typed. -/
theorem AmbiguityGroup.isOneLine_of_readFrom {vocabulary : List Word} {bound : Nat} {t : Text}
    (ht : t.AllTypable) {misreading : Misreading}
    (hread : readFrom vocabulary bound t = .error misreading) : misreading.IsOneLine := by
  fun_induction readFrom vocabulary bound t
  case case1 => exact absurd hread (by simp)
  case case2 | case3 =>
    -- the bound was used up, or no word begins the text
    obtain rfl := Except.error.inj hread
    exact Misreading.isOneLine_noVocabularyMatch ht
  case case4 =>
    obtain rfl := Except.error.inj hread
    exact Misreading.isOneLine_wordBoundary (ht.of_sublist (List.take_sublist _ _))
      (ht.of_sublist (List.drop_sublist _ _))
  case case5 bound t _ word others _ _ _ _ ih =>
    have hrest := (Text.strip_sublist _).trans (List.drop_sublist word.spelling.length t)
    exact ih (ht.of_sublist hrest) (map_eq_error_iff.mp hread)

/-- **Whatever is wrong with a typed text is told on one line.** -/
theorem Context.isOneLine_of_readGroups {world : World} (h : world.Sound) {t : Text}
    (ht : t.AllTypable) {misreading : Misreading}
    (hread : readGroups (Catalog.ofWorld world) t = .error misreading) :
    misreading.IsOneLine := by
  -- matching, gating and weaving fail each in a way of its own
  rcases bind_eq_error_iff.mp hread with hmatched | ⟨matched, hmatched, hread⟩
  · exact AmbiguityGroup.isOneLine_of_readFrom (ht.of_sublist (Text.strip_sublist t)) hmatched
  rcases bind_eq_error_iff.mp hread with hgated | ⟨gated, hgated, hweave⟩
  · obtain ⟨i, rfl, -⟩ := AmbiguityGroup.gateFrom_eq_error_iff.mp hgated
    exact Misreading.isOneLine_partOfSpeech _
  cases gated with
  | nil => exact absurd hweave (by simp [Weaver.weave, Weaver.run, Except.map])
  | cons verbs places =>
    have hplaces := (Weaver.isPlace_of_gate h hmatched hgated).2
    rw [Weaver.weave_eq_meaning h verbs hplaces, World.meaning] at hweave
    split at hweave
    · next spelling hclash =>
      obtain rfl := Except.error.inj hweave
      obtain ⟨place, hplace, hsecond⟩ := List.exists_of_findSome?_eq_some hclash
      obtain ⟨w, hw, rfl⟩ := Option.map_eq_some_iff.mp hsecond
      have hmem := (List.mem_filter.mp (List.mem_of_getElem? hw)).1
      rw [(hplaces place hplace).eq_objectWords] at hmem
      have hword := World.mem_words_of_mem_vocabulary (World.mem_objectWords.mp hmem).1
      exact Misreading.isOneLine_ambiguousPreposition (h.isSpelling hword).allTypable
    · split at hweave
      · obtain rfl := Except.error.inj hweave
        exact Misreading.isOneLine_noConsistentNoun _
      · exact absurd hweave (by simp)

/-! ### Lines of a report -/

namespace Command

/-- How an offer is set in. -/
def offerMark : Text := "  - ".toList

/-- What is offered on the lines of a report. -/
def offersOn (output : Text) : List Text :=
  ((output.splitOn '\n').filter (offerMark.isPrefixOf ·)).map (List.drop offerMark.length)

/-- The text is one line, and is not set in as an offer is. -/
structure IsBare (t : Text) : Prop where
  isOneLine : t.IsOneLine
  not_offer : offerMark.isPrefixOf t = false

theorem isBare_clusterLine {world : World} (h : world.Sound) {noun : Noun}
    (hnoun : noun ∈ world.nouns) (number : Nat) (keys : List Text) :
    IsBare (clusterLine (Cluster.following number keys noun)) where
  isOneLine := by
    have hsigns : Text.IsOneLine (Cluster.following number keys noun).markSigns := by
      intro hmem
      obtain ⟨hit, -, hsign⟩ := List.mem_map.mp hmem
      split at hsign <;> exact absurd hsign (by decide)
    unfold clusterLine
    simp only [Text.isOneLine_append]
    refine ⟨⟨⟨⟨⟨⟨⟨?_, Text.isOneLine_toString _⟩, ?_⟩, Noun.isOneLine_describe h hnoun⟩, ?_⟩,
      hsigns⟩, ?_⟩, ?_⟩
    · decide
    · decide
    · decide
    · decide
    · split <;> decide
  not_offer := rfl

theorem isBare_wordLine {kind : String} (hkind : kind = "verb" ∨ kind = "preposition") {t : Text}
    (ht : t.IsOneLine) : IsBare ("  ".toList ++ kind.toList ++ ": ".toList ++ t) where
  isOneLine := by
    simp only [Text.isOneLine_append]
    refine ⟨⟨⟨by decide, ?_⟩, by decide⟩, ht⟩
    rcases hkind with rfl | rfl <;> decide
  not_offer := by
    rcases hkind with rfl | rfl <;> rfl

/-- **The lines of a group are no offers**, and none of them is broken. -/
theorem isBare_of_mem_groupLines {world : World} (h : world.Sound) {keys : List Text}
    {group : Group} (hgroup : group.IsReadAs world keys) {t : Text} (ht : t ∈ groupLines group) :
    IsBare t := by
  have hspellings : ∀ ws : List Word, (∀ w ∈ ws, w ∈ world.words) →
      Text.IsOneLine (Text.join ", ".toList (ws.map Word.spelling)) := by
    intro ws hws
    refine Text.isOneLine_join (by decide) fun u hu => ?_
    obtain ⟨w, hw, rfl⟩ := List.mem_map.mp hu
    exact (h.isSpelling (hws w hw)).isOneLine
  cases hgroup with
  | nothing =>
    obtain rfl := List.mem_singleton.mp ht
    exact ⟨by decide, by decide⟩
  | verb hwords =>
    obtain rfl := List.mem_singleton.mp ht
    exact isBare_wordLine (Or.inl rfl) (hspellings _ fun w hw => (hwords w hw).1)
  | preposition hword =>
    obtain rfl := List.mem_singleton.mp ht
    refine isBare_wordLine (Or.inr rfl) (hspellings _ fun w hw => ?_)
    rw [List.mem_singleton.mp hw]
    exact hword
  | nounPhrase hkeys number =>
    rcases List.mem_cons.mp ht with rfl | ht
    · exact ⟨by decide, by decide⟩
    · obtain ⟨cluster, hcluster, rfl⟩ := List.mem_map.mp ht
      obtain ⟨noun, hnoun, rfl⟩ := List.mem_map.mp hcluster
      exact isBare_clusterLine h (World.mem_fitting.mp hnoun).1 number keys

/-- Every text that a report shows stands on one line, and its groups are bare. -/
structure IsLegible (answer : Answer) : Prop where
  line : answer.line.text.IsOneLine
  groups : ∀ context, answer.context? = some context →
    ∀ group ∈ context.groups, ∀ t ∈ groupLines group, IsBare t
  error : ∀ error, answer.error? = some error → Text.IsOneLine error.toList
  suggestions : ∀ suggestion ∈ answer.suggestions, suggestion.display.IsOneLine

variable {answer : Answer}

/-- The lines above the offers. -/
def headLines (withGroups : Bool) (answer : Answer) : List Text :=
  ("> ".toList ++ answer.line.text) ::
    (((shownGroups? withGroups answer).map Context.groups).getD []).flatMap groupLines

theorem IsLegible.isBare_of_mem_headLines (h : IsLegible answer) {withGroups : Bool} {t : Text}
    (ht : t ∈ headLines withGroups answer) : IsBare t := by
  rcases List.mem_cons.mp ht with rfl | ht
  · exact ⟨Text.isOneLine_append.mpr ⟨by decide, h.line⟩, rfl⟩
  · obtain ⟨group, hgroup, ht⟩ := List.mem_flatMap.mp ht
    cases hshown : shownGroups? withGroups answer with
    | none =>
      rw [hshown] at hgroup
      exact absurd hgroup List.not_mem_nil
    | some context =>
      rw [hshown] at hgroup
      refine h.groups context ?_ group hgroup t ht
      unfold shownGroups? at hshown
      split at hshown
      · exact hshown
      · exact absurd hshown (by simp)

/-- **The lines of a report** are the ones that it was put together from. -/
theorem IsLegible.splitOn_plainReport (h : IsLegible answer) (withGroups : Bool) :
    (plainReport withGroups answer ++ ['\n']).splitOn '\n' =
      headLines withGroups answer ++ offerLines answer ++ [[]] := by
  refine Text.splitOn_join (by simp) fun t ht => ?_
  rcases List.mem_append.mp ht with ht | ht
  · exact (h.isBare_of_mem_headLines ht).isOneLine
  unfold offerLines at ht
  split at ht
  · next error herror =>
    rw [List.mem_singleton.mp ht]
    simp only [Text.isOneLine_append]
    exact ⟨⟨by decide, h.error error herror⟩, by decide⟩
  · split at ht
    · rw [List.mem_singleton.mp ht]
      decide
    · obtain ⟨suggestion, hsuggestion, rfl⟩ := List.mem_map.mp ht
      rw [Text.isOneLine_append]
      exact ⟨by decide, h.suggestions suggestion hsuggestion⟩

/-- The offers among the lines that are made of the suggestions. -/
theorem filter_offerLines (answer : Answer) :
    (offerLines answer).filter (offerMark.isPrefixOf ·) =
      answer.suggestions.map fun suggestion => offerMark ++ suggestion.display := by
  unfold offerLines
  split
  · next error herror =>
    -- an answer with an error has no suggestions
    have hnone : answer.suggestions = [] := by
      unfold Answer.error? at herror
      unfold Answer.suggestions Answer.context?
      split at herror
      · exact absurd herror (by simp)
      · next houtcome => rw [houtcome]
      · next houtcome => rw [houtcome]
    rw [hnone]
    rfl
  · split
    · next hempty =>
      rw [List.isEmpty_iff.mp hempty]
      rfl
    · refine List.filter_eq_self.mpr fun t ht => ?_
      obtain ⟨suggestion, -, rfl⟩ := List.mem_map.mp ht
      rfl

/-- **The offers of a plain report are what its suggestions are displayed with**, in their order. -/
theorem IsLegible.offersOn_plainReport (h : IsLegible answer) (withGroups : Bool) :
    offersOn (plainReport withGroups answer ++ ['\n']) =
      answer.suggestions.map Suggestion.display := by
  have hhead : (headLines withGroups answer).filter (offerMark.isPrefixOf ·) = [] := by
    rw [List.filter_eq_nil_iff]
    intro t ht
    rw [(h.isBare_of_mem_headLines ht).not_offer]
    exact Bool.false_ne_true
  have hend : [([] : Text)].filter (offerMark.isPrefixOf ·) = [] := rfl
  have hdrop : List.drop offerMark.length ∘ (fun suggestion => offerMark ++ suggestion.display) =
      Suggestion.display := by
    funext suggestion
    exact List.drop_left
  rw [offersOn, h.splitOn_plainReport, List.filter_append, List.filter_append, hhead, hend,
    filter_offerLines, List.nil_append, List.append_nil, List.map_map, hdrop]

end Command

end CommandPrompt
