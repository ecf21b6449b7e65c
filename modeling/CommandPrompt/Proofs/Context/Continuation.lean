import CommandPrompt.Proofs.Context.AdjacentPhrases
import CommandPrompt.Proofs.Context.Grammar

/-!
# Going on with a noun phrase

While a noun phrase leaves a noun unfinished, what is offered next are words that its nouns still
leave unsaid. This module says what accepting one of them does (`ofLine_accept_candidate`). The
longer command always has a context. If the last word typed so far is not a name of any noun, the
candidate goes on with the phrase, and of the nouns that the phrase could mean those with the
candidate are left. But a phrase can be unfinished although its last word is a name, if only of
other nouns. Such a word ended the phrase, so the candidate begins a new one, which can mean any
noun of the world that has it (`exists_candidate_beside_phrase`).
-/

namespace CommandPrompt

/-- The nouns that a group can mean. -/
def Group.nouns (group : Group) : List Noun := group.clusters.map (·.profile.noun)

@[simp] theorem Group.nouns_nounPhrase_following (number : Nat) (keys : List Text)
    (nouns : List Noun) :
    (Group.nounPhrase (nouns.map (Cluster.following number keys))).nouns = nouns := by
  rw [Group.nouns, Group.clusters, List.map_map]
  exact List.map_id nouns

/-- The words of a noun are no verbs. -/
theorem Noun.isVerb_of_mem_words {noun : Noun} {w : Word} (hw : w ∈ noun.words) :
    w.isVerb = false := by
  refine Word.isVerb_eq_false_iff.mpr (Or.inl ?_)
  rw [Word.isNounWord, noun?_of_mem_words hw]
  rfl

namespace World

variable {world : World}

theorem fitting_singleton (key : Text) :
    world.fitting [key] = world.nouns.filter (·.keys.contains key) := by
  simp only [fitting, Noun.fits, List.all_cons, List.all_nil, Bool.and_true]

/-- More words leave fewer nouns. -/
theorem fitting_append (keys more : List Text) :
    world.fitting (keys ++ more) = (world.fitting keys).filter (·.fits more) := by
  simp only [fitting, List.filter_filter, Noun.fits, List.all_append, Bool.and_comm]

/-- One word more leaves the nouns that have it. -/
theorem fitting_concat (keys : List Text) (key : Text) :
    world.fitting (keys ++ [key]) = (world.fitting keys).filter (·.keys.contains key) := by
  rw [fitting_append]
  simp only [Noun.fits, List.all_cons, List.all_nil, Bool.and_true]

/-- A word that need not be a verb can stand behind words that are placed. -/
theorem IsPlaced.concat {t u : Text} {ts : List Text} (hplaced : world.IsPlaced (t :: ts))
    {w : Word} (hw : w ∈ world.words) (hkey : w.key = u.lower) (hverb : w.isVerb = false) :
    world.IsPlaced (t :: (ts ++ [u])) := by
  constructor
  · intro v hv
    rw [← List.cons_append, List.mem_append, List.mem_singleton] at hv
    rcases hv with hv | rfl
    · exact hplaced.1 v hv
    · exact ⟨w, hw, hkey⟩
  · intro position v hv hmis
    rw [← List.cons_append] at hv
    rcases Nat.lt_or_ge position (t :: ts).length with hlt | hge
    · rw [List.getElem?_append_left hlt] at hv
      exact hplaced.2 position v hv hmis
    · -- the added word does not stand first, so it need not be a verb
      have hpos : position ≠ 0 := by
        rintro rfl
        exact absurd hge (by simp)
      rw [List.getElem?_append_right hge] at hv
      obtain rfl := List.mem_singleton.mp (List.mem_of_getElem? hv)
      rw [IsMisplaced, if_neg hpos] at hmis
      rw [hmis w hw hkey] at hverb
      exact absurd hverb (by simp)

/-- A word shared by two verbs is a preposition. -/
theorem not_isSharedPreposition {t : Text} (hprep : world.isPreposition t = false) :
    ¬world.IsSharedPreposition t := by
  rintro ⟨v, hv, -, -, -, ht, -⟩
  rw [isPreposition, List.any_eq_false] at hprep
  exact hprep v hv (List.contains_iff_mem.mpr ht)

/-- Behind a preposition no noun phrase was begun. -/
theorem Sound.getLast?_flatMap_wordGroups_ne (h : world.Sound) {t : Text}
    (hprep : world.isPreposition t = true) (parts : List (Part Text)) (clusters : List Cluster) :
    ((parts ++ [Part.preposition t]).flatMap world.wordGroups).getLast? ≠
      some (.nounPhrase clusters) := by
  rw [← h.hasPreposition_place, ← AmbiguityGroup.prepositions_ne_nil_iff] at hprep
  have hne : world.wordGroups (.preposition t) ≠ [] := by
    rw [wordGroups, Ne, List.map_eq_nil_iff]
    exact hprep
  rw [List.flatMap_append, List.flatMap_singleton, List.getLast?_append_of_ne_nil _ hne]
  intro hlast
  obtain ⟨w, -, heq⟩ := List.mem_map.mp (List.mem_of_getLast? hlast)
  exact absurd heq (by simp)

/-- A phrase at the end is the last group. -/
theorem flatMap_wordGroups_phrase (parts : List (Part Text)) (number : Nat) (ts : List Text) :
    (parts ++ [Part.phrase number ts]).flatMap world.wordGroups =
      parts.flatMap world.wordGroups ++
        [.nounPhrase ((world.fitting (ts.map Text.lower)).map
          (Cluster.following number (ts.map Text.lower)))] := by
  rw [List.flatMap_append, List.flatMap_singleton, wordGroups]

/-- Where groups end in a noun phrase, the parts do, too, and one word more goes on with the phrase
unless the word before it is a name. -/
theorem Sound.exists_wordParts_concat (h : world.Sound) {ts : List Text} {u v : Text}
    {clusters : List Cluster}
    (hlast : ((world.wordParts (ts ++ [u])).flatMap world.wordGroups).getLast? =
      some (.nounPhrase clusters))
    (hv : world.isPreposition v = false) :
    ∃ parts number items, world.wordParts (ts ++ [u]) = parts ++ [.phrase number items] ∧
      clusters = (world.fitting (items.map Text.lower)).map
        (Cluster.following number (items.map Text.lower)) ∧
      (world.isName u = false → world.wordParts (ts ++ [u] ++ [v]) =
        parts ++ [.phrase number (items ++ [v])]) ∧
      (world.isName u = true → world.wordParts (ts ++ [u] ++ [v]) =
        parts ++ [.phrase number items] ++ [.phrase (number + 1) [v]]) := by
  obtain ⟨parts, number, items, hcut⟩ :=
    @Part.cut_concat_concat _ world.isPreposition world.isName 0 ts u _ hv
  -- a preposition at the end would be the last group, so only the two phrases are left
  rcases hcut with ⟨hprep, hcut⟩ | ⟨hname, hcut, hcut'⟩ | ⟨hname, hcut, hcut'⟩
  · rw [wordParts, hcut] at hlast
    exact absurd hlast (h.getLast?_flatMap_wordGroups_ne hprep parts clusters)
  all_goals
    refine ⟨parts, number, items, hcut, ?_, fun hnot => ?_, fun hnot => ?_⟩
    · rw [wordParts, hcut, flatMap_wordGroups_phrase, List.getLast?_concat] at hlast
      exact (Group.nounPhrase.inj (Option.some.inj hlast)).symm
  · exact absurd (hname.symm.trans hnot) (by simp)
  · rw [wordParts, hcut', List.append_assoc]
    rfl
  · exact hcut'
  · exact absurd (hname.symm.trans hnot) (by simp)

/-- What a further word with a key does to groups that end in a noun phrase. Behind a word that is
no name it leaves, of the nouns of the phrase, those that have the key; behind a name it begins one
phrase more, of all nouns that have the key. -/
structure Continues (world : World) (behindName : Bool) (key : Text) (groups : List Group)
    (clusters : List Cluster) (groups' : List Group) (clusters' : List Cluster) : Prop where
  ne_nil : clusters' ≠ []
  goes_on : behindName = false → groups' = groups.dropLast ++ [.nounPhrase clusters'] ∧
    (Group.nounPhrase clusters').nouns =
      (Group.nounPhrase clusters).nouns.filter (·.keys.contains key)
  begins : behindName = true → groups' = groups ++ [.nounPhrase clusters'] ∧
    (Group.nounPhrase clusters').nouns = world.nouns.filter (·.keys.contains key)

/-- A phrase goes on with a further key, if a noun has it and all keys before. -/
theorem continues_concat {number : Nat} {keys : List Text} {key : Text}
    (hfits : world.fitting (keys ++ [key]) ≠ []) (groups : List Group) :
    world.Continues false key
      (groups ++ [.nounPhrase ((world.fitting keys).map (Cluster.following number keys))])
      ((world.fitting keys).map (Cluster.following number keys))
      (groups ++ [.nounPhrase
        ((world.fitting (keys ++ [key])).map (Cluster.following number (keys ++ [key])))])
      ((world.fitting (keys ++ [key])).map (Cluster.following number (keys ++ [key]))) where
  ne_nil := fun hnil => hfits (List.map_eq_nil_iff.mp hnil)
  goes_on := fun _ => ⟨by rw [List.dropLast_concat], by
    rw [Group.nouns_nounPhrase_following, Group.nouns_nounPhrase_following, fitting_concat]⟩
  begins := fun hnot => absurd hnot Bool.false_ne_true

/-- A phrase begins with a key, if a noun has it. -/
theorem continues_singleton {number : Nat} {key : Text} (hfits : world.fitting [key] ≠ [])
    (groups : List Group) (clusters : List Cluster) :
    world.Continues true key groups clusters
      (groups ++ [.nounPhrase ((world.fitting [key]).map (Cluster.following number [key]))])
      ((world.fitting [key]).map (Cluster.following number [key])) where
  ne_nil := fun hnil => hfits (List.map_eq_nil_iff.mp hnil)
  goes_on := fun hnot => absurd hnot.symm Bool.false_ne_true
  begins := fun _ => ⟨rfl, by rw [Group.nouns_nounPhrase_following, fitting_singleton]⟩

end World

namespace Context

variable {world : World}

/-- Behind words that were read, one word more is read if the parts that it gives fit. -/
theorem readGroups_concat_eq_ok (h : world.Sound) (hsingle : world.HasSingleWords) {t : Text}
    {ts : List Text} (hts : ∀ v ∈ t :: ts, v.IsWord ∧ v.AllTypable) {groups : List Group}
    (hread : readGroups (Catalog.ofWorld world) (Text.unwords (t :: ts)) = .ok groups) {w : Word}
    (hw : w ∈ world.words) (hverb : w.isVerb = false)
    (hnotprep : world.isPreposition w.spelling = false)
    {parts : List (Part Text)} {number : Nat} {items : List Text}
    (hcut : world.wordParts (ts ++ [w.spelling]) = parts ++ [.phrase number items])
    (hparts : ∀ part ∈ parts, ¬world.IsUnfitPart part)
    (hitems : world.fitting (items.map Text.lower) ≠ []) :
    readGroups (Catalog.ofWorld world) (Text.unwords (t :: (ts ++ [w.spelling]))) =
      .ok (.verb ((AmbiguityGroup.ofKey world.vocabulary t.lower).filter Word.isVerb) ::
        (parts ++ [Part.phrase number items]).flatMap world.wordGroups) := by
  obtain ⟨hplaced, hshared, -, -⟩ := (readGroups_cons_eq_ok_iff h hsingle hts).mp hread
  have hts' : ∀ v ∈ t :: (ts ++ [w.spelling]), v.IsWord ∧ v.AllTypable :=
    hsingle.isWord_concat h hts hw
  refine (readGroups_cons_eq_ok_iff h hsingle hts').mpr
    ⟨hplaced.concat hw rfl hverb, ?_, ?_, by rw [hcut]⟩
  · intro v hv
    rw [List.mem_append, List.mem_singleton] at hv
    rcases hv with hv | rfl
    · exact hshared v hv
    · exact World.not_isSharedPreposition hnotprep
  · intro part hpart
    rw [hcut, List.mem_append, List.mem_singleton] at hpart
    rcases hpart with hpart | rfl
    · exact hparts part hpart
    · exact hitems

/-- **One word more**, read behind an unfinished noun phrase: it goes on with the phrase, unless the
word before it is a name. -/
theorem exists_readGroups_concat (h : world.Sound) (hsingle : world.HasSingleWords)
    {t u : Text} {ts : List Text} (hts : ∀ v ∈ t :: (ts ++ [u]), v.IsWord ∧ v.AllTypable)
    {groups : List Group}
    (hread : readGroups (Catalog.ofWorld world) (Text.unwords (t :: (ts ++ [u]))) = .ok groups)
    {clusters : List Cluster} (hlast : groups.getLast? = some (.nounPhrase clusters))
    {noun : Noun} (hnoun : noun ∈ (Group.nounPhrase clusters).nouns) {w : Word}
    (hw : w ∈ noun.words) (hnotprep : world.isPreposition w.spelling = false) :
    ∃ groups' clusters', readGroups (Catalog.ofWorld world)
        (Text.unwords (t :: (ts ++ [u] ++ [w.spelling]))) = .ok groups' ∧
      world.Continues (world.isName u) w.key groups clusters groups' clusters' := by
  obtain ⟨-, -, hfit, hgroups⟩ := (readGroups_cons_eq_ok_iff h hsingle hts).mp hread
  have hne : (world.wordParts (ts ++ [u])).flatMap world.wordGroups ≠ [] := by
    intro hnil
    rw [hgroups, hnil] at hlast
    exact absurd hlast (by simp)
  have hend : ((world.wordParts (ts ++ [u])).flatMap world.wordGroups).getLast? =
      some (.nounPhrase clusters) := by
    rw [hgroups, List.getLast?_cons_of_ne_nil hne] at hlast
    exact hlast
  obtain ⟨parts, n, items, hparts, rfl, hgoes, hbegins⟩ := h.exists_wordParts_concat hend hnotprep
  rw [hparts] at hfit hgroups
  rw [Group.nouns_nounPhrase_following] at hnoun
  obtain ⟨hmem, -⟩ := World.mem_fitting.mp hnoun
  -- the noun that offered the candidate has it among its words, so it fits either phrase
  have hkey : noun.keys.contains w.key = true :=
    List.contains_iff_mem.mpr (Noun.mem_keys.mpr ⟨w, hw, rfl⟩)
  have hword : w ∈ world.words := World.mem_words.mpr (Or.inr ⟨noun, hmem, hw⟩)
  have hverb := Noun.isVerb_of_mem_words hw
  cases hname : world.isName u with
  | true =>
    have hfits : noun ∈ world.fitting [w.key] := by
      rw [World.fitting_singleton]
      exact List.mem_filter.mpr ⟨hmem, hkey⟩
    have hreads := readGroups_concat_eq_ok h hsingle hts hread hword hverb hnotprep
      (hbegins hname) hfit (List.ne_nil_of_mem hfits)
    rw [World.flatMap_wordGroups_phrase] at hreads
    rw [hgroups]
    exact ⟨_, _, hreads, World.continues_singleton (List.ne_nil_of_mem hfits) (.verb _ :: _) _⟩
  | false =>
    have hkeys : (items ++ [w.spelling]).map Text.lower = items.map Text.lower ++ [w.key] := by
      rw [List.map_append, List.map_singleton]
      rfl
    have hfits : noun ∈ world.fitting (items.map Text.lower ++ [w.key]) := by
      rw [World.fitting_concat]
      exact List.mem_filter.mpr ⟨hnoun, hkey⟩
    have hreads := readGroups_concat_eq_ok h hsingle hts hread hword hverb hnotprep (hgoes hname)
      (fun part hpart => hfit part (List.mem_append_left _ hpart))
      (by rw [hkeys]; exact List.ne_nil_of_mem hfits)
    rw [World.flatMap_wordGroups_phrase, hkeys] at hreads
    rw [hgroups, World.flatMap_wordGroups_phrase]
    exact ⟨_, _, hreads, World.continues_concat (List.ne_nil_of_mem hfits) (.verb _ :: _)⟩

/-- A command that ends in a noun phrase does not ask for a verb. -/
theorem asksForVerb_eq_false {verbs : List Word} {groups : List Group} {clusters : List Cluster}
    (hlast : (Group.verb verbs :: groups).getLast? = some (.nounPhrase clusters)) (fresh : Bool) :
    Suggestion.asksForVerb (.verb verbs :: groups) fresh = false := by
  cases groups with
  | nil => exact absurd hlast (by simp)
  | cons group others => rfl

/-- A candidate for an unfinished noun phrase is a word of one of the nouns that the phrase can
mean. -/
theorem exists_noun_of_mem_candidates (h : world.Sound) {t : Text} {groups : List Group}
    (hread : readGroups (Catalog.ofWorld world) t = .ok groups) {clusters : List Cluster}
    (hlast : groups.getLast? = some (.nounPhrase clusters))
    (hincomplete : (Group.nounPhrase clusters).incomplete ≠ []) {fresh : Bool} {w : Word}
    (hw : w ∈ Suggestion.candidates (Catalog.ofWorld world) groups fresh) :
    ∃ noun ∈ (Group.nounPhrase clusters).nouns, w ∈ noun.words := by
  have hasks : Suggestion.asksForVerb groups fresh = false := by
    rcases readGroups_eq_ok_cases h hread with rfl | ⟨verbs, places, -, -, -, rfl⟩
    · exact asksForVerb_eq_false hlast fresh
    · exact asksForVerb_eq_false hlast fresh
  obtain ⟨cluster, hcluster, hunsaid⟩ :=
    Suggestion.exists_of_mem_candidates_of_incomplete hw hasks hlast hincomplete
  have hmem : cluster ∈ clusters := (List.mem_filter.mp hcluster).1
  obtain ⟨noun, -, number, keys, rfl⟩ :=
    exists_following_of_mem_clusters h hread (List.mem_of_getLast? hlast) hmem
  exact ⟨noun, List.mem_map.mpr ⟨_, hmem, rfl⟩,
    Noun.mem_profile_words (Suggestion.mem_unmentionedWords hunsaid).1⟩

/-- **Accepting a candidate** for an unfinished noun phrase gives a command that has a context
again. Behind a word that is no name the candidate goes on with the phrase, and behind a name it
begins a new one. -/
theorem ofLine_accept_candidate (hbuilt : world.Built) (hsingle : world.HasSingleWords)
    (round : Rounding) (limit : Int) {t : Text} (hclean : t.clean = t)
    (hspace : t.getLast? = some ' ') {context : Context}
    (hcontext : ofLine round (Catalog.ofWorld world) (.whole limit) (Line.atEnd t) = .ok context)
    {clusters : List Cluster} (hlast : context.groups.getLast? = some (.nounPhrase clusters))
    (hincomplete : (Group.nounPhrase clusters).incomplete ≠ []) {w : Word}
    (hw : w ∈ Suggestion.candidates (Catalog.ofWorld world) context.groups
      (isFresh context.workingWord))
    (hnotprep : world.isPreposition w.spelling = false) :
    ∃ u context' clusters', t.words.getLast? = some u ∧
      ofLine round (Catalog.ofWorld world) (.whole limit)
        (Line.atEnd (t ++ w.spelling ++ [' '])) = .ok context' ∧
      world.Continues (world.isName u) w.key context.groups clusters context'.groups clusters' := by
  have h := hbuilt.sound
  have htyp : t.isTypable := by
    rw [← hclean]
    exact Text.isTypable_clean t
  obtain ⟨hne, hwords⟩ := Text.eq_unwords_append_space htyp hspace
  have hts : ∀ v ∈ t.words, v.IsWord ∧ v.AllTypable := fun v hv => ⟨Text.isWord_of_mem_words hv,
    Text.allTypable_of_mem_words (Text.AllTypable.of_isTypable htyp) hv⟩
  have hread := groups_of_ofLine_eq_ok h round limit _ hcontext
  rw [hwords, settledPart_atEnd hne hts] at hread
  obtain ⟨v, rest, hcons⟩ := List.exists_cons_of_ne_nil hne
  rw [hcons] at hread hts
  obtain ⟨-, -, -, hgroups⟩ := (readGroups_cons_eq_ok_iff h hsingle hts).mp hread
  obtain ⟨noun, hnoun, hprofile⟩ := exists_noun_of_mem_candidates h hread hlast hincomplete hw
  -- behind the verb alone there is no phrase, so another word stands before the candidate
  rcases List.eq_nil_or_concat rest with rfl | ⟨ts, u, rfl⟩
  · rw [hgroups] at hlast
    exact absurd hlast (by simp [World.wordParts, Part.cut])
  rw [List.concat_eq_append] at hread hts hcons
  obtain ⟨groups', clusters', hread', hcontinues⟩ :=
    exists_readGroups_concat h hsingle hts hread hlast hnoun hprofile hnotprep
  have hword : w ∈ world.words := mem_words_of_mem_candidates h hread hw
  have hts' : ∀ x ∈ v :: (ts ++ [u] ++ [w.spelling]), x.IsWord ∧ x.AllTypable :=
    hsingle.isWord_concat h hts hword
  -- the candidate and a space make one word more, and a clean line again
  have hline : t ++ w.spelling ++ [' '] =
      Text.unwords (v :: (ts ++ [u] ++ [w.spelling])) ++ [' '] := by
    rw [← List.cons_append, Text.unwords_concat (List.cons_ne_nil v _), ← hcons]
    conv_lhs => rw [hwords]
    simp
  rw [hline]
  rw [← settledPart_atEnd (List.cons_ne_nil v _) hts'] at hread'
  obtain ⟨context', hcontext', rfl⟩ := exists_ofLine_of_ok h round limit _ hread'
  refine ⟨u, context', clusters', ?_, hcontext', hcontinues⟩
  rw [hcons, ← List.cons_append, List.getLast?_concat]

/-! ### A phrase that is left alone -/

/-- The red oil lamp. -/
def redOilLamp : Noun := ⟨2, "lamp".toList, [], ["red".toList, "oil".toList]⟩

/-- The name of the red oil lamp. -/
def redLamp : Word := ⟨"lamp".toList, .noun redOilLamp, none⟩

/-- A line of lower-case words that make up one phrase is read as a command to take that. -/
theorem exists_ofLine_takePhrase {line : Text} (hclean : line.clean = line)
    (hspace : line.getLast? = some ' ') {ts : List Text} (hwords : line.words = "take".toList :: ts)
    (hcommand : World.oilLamp.IsCommand "take".toList ts)
    (hparts : World.oilLamp.wordParts ts = [.phrase 0 ts]) (hlower : ts.map Text.lower = ts) :
    ∃ context, ofLine .double (Catalog.ofWorld World.oilLamp) (.whole 5) (Line.atEnd line) =
        .ok context ∧
      context.groups = takePhrase ts := by
  have hgroups : takePhrase ts = World.oilLamp.commandGroups "take".toList ts := by
    rw [commandGroups_take, hparts, List.flatMap_singleton, World.wordGroups, hlower]
    rfl
  rw [hgroups]
  exact exists_ofLine_of_isCommand World.oilLamp_built.sound (by decide +kernel) .double 5 line
    hclean hspace hwords hcommand

/-- The name of the red oil lamp can come next while a phrase means just that lamp and leaves its
name unsaid. -/
theorem redLamp_mem_candidates {context : Context} {keys : List Text}
    (hgroups : context.groups = takePhrase keys)
    (hfitting : World.oilLamp.fitting keys = [redOilLamp])
    (hopen : (Cluster.following 0 keys redOilLamp).isComplete = false)
    (hunsaid : redLamp ∈ Word.distinctKeys (Cluster.following 0 keys redOilLamp).unmentionedWords) :
    redLamp ∈ Suggestion.candidates (Catalog.ofWorld World.oilLamp) context.groups
      (isFresh context.workingWord) := by
  have hincomplete : (Group.nounPhrase [Cluster.following 0 keys redOilLamp]).incomplete =
      [Cluster.following 0 keys redOilLamp] := by
    rw [Group.incomplete, Group.clusters, List.filter_singleton, hopen]
    rfl
  rw [hgroups, takePhrase, hfitting, List.map_singleton,
    Suggestion.candidates_of_incomplete_eq_singleton hincomplete]
  exact hunsaid

/-- Behind red, and behind red oil as well, the lamp can come next. -/
theorem exists_ofLine_offers_redLamp {line : Text} {ts : List Text}
    (hline : line = "take red ".toList ∧ ts = ["red".toList] ∨
      line = "take red oil ".toList ∧ ts = ["red".toList, "oil".toList]) :
    ∃ context, ofLine .double (Catalog.ofWorld World.oilLamp) (.whole 5) (Line.atEnd line) =
        .ok context ∧
      context.groups = takePhrase ts ∧
      redLamp ∈ Suggestion.candidates (Catalog.ofWorld World.oilLamp) context.groups
        (isFresh context.workingWord) := by
  obtain ⟨hclean, hspace, hwords, hcommand, hparts, hlower, hfitting⟩ :
      line.clean = line ∧ line.getLast? = some ' ' ∧ line.words = "take".toList :: ts ∧
      World.oilLamp.IsCommand "take".toList ts ∧ World.oilLamp.wordParts ts = [.phrase 0 ts] ∧
      ts.map Text.lower = ts ∧ World.oilLamp.fitting ts = [redOilLamp] := by
    rcases hline with ⟨rfl, rfl⟩ | ⟨rfl, rfl⟩ <;> decide +kernel
  have hopen : (Cluster.following 0 ts redOilLamp).isComplete = false := by
    rcases hline with ⟨-, rfl⟩ | ⟨-, rfl⟩ <;> rfl
  have hunsaid :
      redLamp ∈ Word.distinctKeys (Cluster.following 0 ts redOilLamp).unmentionedWords := by
    simp only [Cluster.unmentionedWords, Cluster.unmentioned, Cluster.following,
      Cluster.mentionedBy, Noun.profile, Word.sort_eq_insertionSort]
    rcases hline with ⟨-, rfl⟩ | ⟨-, rfl⟩ <;> decide +kernel
  obtain ⟨context, hcontext, hgroups⟩ :=
    exists_ofLine_takePhrase hclean hspace hwords hcommand hparts hlower
  exact ⟨context, hcontext, hgroups, redLamp_mem_candidates hgroups hfitting hopen hunsaid⟩

/-- Accepting the lamp goes on with the phrase behind red, and begins one behind oil, which is the
name of something. -/
theorem exists_ofLine_accept_redLamp :
    (∃ context clusters context' clusters',
      ofLine .double (Catalog.ofWorld World.oilLamp) (.whole 5)
        (Line.atEnd "take red ".toList) = .ok context ∧
      ofLine .double (Catalog.ofWorld World.oilLamp) (.whole 5)
        (Line.atEnd "take red lamp ".toList) = .ok context' ∧
      World.oilLamp.Continues false redLamp.key context.groups clusters
        context'.groups clusters') ∧
    ∃ context clusters context' clusters',
      ofLine .double (Catalog.ofWorld World.oilLamp) (.whole 5)
        (Line.atEnd "take red oil ".toList) = .ok context ∧
      ofLine .double (Catalog.ofWorld World.oilLamp) (.whole 5)
        (Line.atEnd "take red oil lamp ".toList) = .ok context' ∧
      World.oilLamp.Continues true redLamp.key context.groups clusters
        context'.groups clusters' := by
  constructor
  · obtain ⟨context, hcontext, hgroups, hcandidate⟩ :=
      exists_ofLine_offers_redLamp (Or.inl ⟨rfl, rfl⟩)
    obtain ⟨u, context', clusters', hu, hcontext', hcontinues⟩ :=
      ofLine_accept_candidate World.oilLamp_built (by decide +kernel) .double 5 (by decide +kernel)
        rfl hcontext (by rw [hgroups]; rfl) (by decide +kernel) hcandidate (by decide +kernel)
    obtain rfl : "red".toList = u := Option.some.inj hu
    exact ⟨context, _, context', clusters', hcontext, hcontext', hcontinues⟩
  · obtain ⟨context, hcontext, hgroups, hcandidate⟩ :=
      exists_ofLine_offers_redLamp (Or.inr ⟨rfl, rfl⟩)
    obtain ⟨u, context', clusters', hu, hcontext', hcontinues⟩ :=
      ofLine_accept_candidate World.oilLamp_built (by decide +kernel) .double 5 (by decide +kernel)
        rfl hcontext (by rw [hgroups]; rfl) (by decide +kernel) hcandidate (by decide +kernel)
    obtain rfl : "oil".toList = u := Option.some.inj hu
    exact ⟨context, _, context', clusters', hcontext, hcontext', hcontinues⟩

/-- **A candidate can begin a phrase of its own**, with nouns that the words before it do not fit.
-/
theorem exists_candidate_beside_phrase :
    World.oilLamp.Built ∧ World.oilLamp.HasSingleWords ∧
    Text.clean "take red oil ".toList = "take red oil ".toList ∧
    ∃ context clusters word context' clusters',
      ofLine .double (Catalog.ofWorld World.oilLamp) (.whole 5)
        (Line.atEnd "take red oil ".toList) = .ok context ∧
      context.groups.getLast? = some (.nounPhrase clusters) ∧
      (Group.nounPhrase clusters).incomplete ≠ [] ∧
      word ∈ Suggestion.candidates (Catalog.ofWorld World.oilLamp) context.groups
        (isFresh context.workingWord) ∧
      World.oilLamp.isPreposition word.spelling = false ∧
      ofLine .double (Catalog.ofWorld World.oilLamp) (.whole 5)
        (Line.atEnd ("take red oil ".toList ++ word.spelling ++ [' '])) = .ok context' ∧
      context'.groups.length ≠ context.groups.length ∧
      context'.groups.getLast? = some (.nounPhrase clusters') ∧
      ¬(Group.nounPhrase clusters').nouns ⊆ (Group.nounPhrase clusters).nouns := by
  refine ⟨World.oilLamp_built, by decide +kernel, by decide +kernel, ?_⟩
  obtain ⟨context, hcontext, hgroups, hcandidate⟩ :=
    exists_ofLine_offers_redLamp (Or.inr ⟨rfl, rfl⟩)
  obtain ⟨context', hcontext', hgroups'⟩ := exists_ofLine_take_red_oil_lamp
  refine ⟨context, _, redLamp, context', _, hcontext, by rw [hgroups]; rfl, by decide +kernel,
    hcandidate, by decide +kernel, hcontext', ?_, by rw [hgroups']; rfl,
    by decide +kernel⟩
  rw [hgroups, hgroups']
  decide

end Context

end CommandPrompt
