import CommandPrompt.Proofs.Phrase.Gating
import CommandPrompt.Proofs.Phrase.Parts
import CommandPrompt.Proofs.Phrase.Tracking

/-!
# What the weaver weaves

The weaver goes word by word, keeps clusters for nouns that drop out later, and decides on the way
where a phrase ends. Its result has a plain meaning, which asks only what the places of a command
hold (`World.meaning`):

* a place that holds two prepositions is a fault of the vocabulary, and the first one is reported
  (`AmbiguityGroup.clash?`);
* otherwise the places behind the verb are cut into parts, a place with a preposition being a part
  of its own and a phrase ending behind every place with a name (`AmbiguityGroup.parts`), and the
  first phrase is reported for which no noun of the world has all keys (`Part.isUnfit`);
* otherwise the command is its verb and one group for every part, where a phrase means exactly the
  nouns that have all of its keys (`Part.groups`).

The proof runs along the places. `Weaver.Holds` ties the weaver to the places taken so far, cut into
parts that are closed and the places of a phrase that is open; every closed segment stands for its
part, because later words change no cluster of a closed phrase (`Weaver.Stands`). One place keeps
it, and the parts of all places, taken or still to come, stay the same (`Holds.exists_take_eq`). So
the whole run keeps it (`Holds.foldlM_take`), and the groups of the segments it ends with are those
of the parts (`groupsFrom_eq`).

`weave_meets_meaning` states the result for whatever text was matched and gated.
-/

namespace CommandPrompt

/-! ### The meaning of a command -/

namespace AmbiguityGroup

/-- The key that the words of a place share. -/
def key : AmbiguityGroup → Text
  | [] => []
  | word :: _ => word.key

/-- The prepositions that a place can stand for. -/
def prepositions (group : AmbiguityGroup) : List Word :=
  group.filter (·.partOfSpeech == .preposition)

/-- Whether a place can stand for a preposition. -/
def hasPreposition (group : AmbiguityGroup) : Bool := group.any (·.partOfSpeech == .preposition)

/-- Whether a place can stand for a noun by one of its names. -/
def hasName (group : AmbiguityGroup) : Bool := group.any (·.partOfSpeech == .noun)

/-- The second preposition of the first place that holds two, by its spelling. -/
def clash? (groups : List AmbiguityGroup) : Option Text :=
  groups.findSome? fun group => group.prepositions[1]?.map Word.spelling

/-- The parts of a command, given the places behind its verb. -/
def parts (groups : List AmbiguityGroup) : List (Part AmbiguityGroup) :=
  Part.cut hasPreposition hasName 0 groups

end AmbiguityGroup

/-- Whether a noun has all of some keys. -/
def Noun.fits (noun : Noun) (keys : List Text) : Bool := keys.all noun.keys.contains

theorem Noun.fits_iff {noun : Noun} {keys : List Text} :
    noun.fits keys = true ↔ ∀ key ∈ keys, key ∈ noun.keys := by
  simp only [fits, List.all_eq_true, List.contains_iff_mem]

/-- The nouns of a world that have all of some keys. -/
def World.fitting (world : World) (keys : List Text) : List Noun := world.nouns.filter (·.fits keys)

theorem World.mem_fitting {world : World} {keys : List Text} {noun : Noun} :
    noun ∈ world.fitting keys ↔ noun ∈ world.nouns ∧ ∀ key ∈ keys, key ∈ noun.keys := by
  rw [fitting, List.mem_filter, Noun.fits_iff]

namespace Part

/-- Whether a part is a phrase that no noun fits. -/
def isUnfit (world : World) : Part AmbiguityGroup → Bool
  | preposition _ => false
  | phrase _ places => (world.fitting (places.map AmbiguityGroup.key)).isEmpty

/-- What a part becomes: its preposition, or the nouns that fit the phrase. -/
def groups (world : World) : Part AmbiguityGroup → List Group
  | preposition place => place.prepositions.map .preposition
  | phrase number places =>
    let keys := places.map AmbiguityGroup.key
    [.nounPhrase ((world.fitting keys).map (Cluster.following number keys))]

end Part

/-- **The meaning of a command**, given its verbs and the places behind the verb. -/
def World.meaning (world : World) (verbs : List Word) (places : List AmbiguityGroup) :
    Except Misreading (List Group) :=
  match AmbiguityGroup.clash? places with
  | some spelling => .error (.ambiguousPreposition spelling)
  | none =>
    match (AmbiguityGroup.parts places).findIdx? (Part.isUnfit world) with
    | some i => .error (.noConsistentNoun (i + 1))
    | none => .ok (.verb verbs :: (AmbiguityGroup.parts places).flatMap (Part.groups world))

/-! ### Places -/

/-- A place behind the verb, as the gate leaves it: all words with one key that are no verbs. -/
structure World.IsPlace (world : World) (group : AmbiguityGroup) : Prop where
  ne_nil : group ≠ []
  eq_objectWords : group = world.objectWords group.key

namespace World.IsPlace

variable {world : World} {group : AmbiguityGroup}

theorem of_objectWords_ne_nil {key : Text} (h : world.objectWords key ≠ []) :
    (world.objectWords key).key = key ∧ world.IsPlace (world.objectWords key) := by
  obtain ⟨w, ws, hwords⟩ := List.exists_cons_of_ne_nil h
  have hkey : (world.objectWords key).key = key := by
    have hw : w ∈ world.objectWords key := hwords ▸ List.mem_cons_self
    rw [hwords]
    exact (mem_objectWords.mp hw).2.1
  exact ⟨hkey, h, by rw [hkey]⟩

theorem isVerb_eq_false (h : world.IsPlace group) {w : Word} (hw : w ∈ group) :
    w.isVerb = false := (mem_objectWords.mp (h.eq_objectWords ▸ hw)).2.2

theorem filter_not_isNounWord (h : world.IsPlace group) :
    group.filter (!·.isNounWord) = group.prepositions :=
  List.filter_congr fun _ hw => Word.not_isNounWord_eq (h.isVerb_eq_false hw)

theorem any_not_isNounWord (h : world.IsPlace group) :
    group.any (!·.isNounWord) = group.hasPreposition := by
  rw [AmbiguityGroup.hasPreposition, Bool.eq_iff_iff, List.any_eq_true, List.any_eq_true]
  refine exists_congr fun w => and_congr_right fun hw => ?_
  rw [Word.not_isNounWord_eq (h.isVerb_eq_false hw)]

/-- A place without a preposition is about nouns only. -/
theorem isNounWord (h : world.IsPlace group) (hprep : group.hasPreposition = false) {w : Word}
    (hw : w ∈ group) : w.isNounWord = true := by
  rw [← h.any_not_isNounWord, List.any_eq_false] at hprep
  simpa using hprep w hw

/-- A place without a preposition brings some noun in. -/
theorem exists_noun (h : world.IsPlace group) (hsound : world.Sound)
    (hprep : group.hasPreposition = false) :
    ∃ noun ∈ world.nouns, group.key ∈ noun.keys := by
  obtain ⟨w, hw⟩ := List.exists_mem_of_ne_nil _ h.ne_nil
  obtain ⟨noun, hnoun⟩ := Option.isSome_iff_exists.mp (h.isNounWord hprep hw)
  exact ⟨noun, hsound.exists_mem_objectWords_iff.mp ⟨w, h.eq_objectWords ▸ hw, hnoun⟩⟩

end World.IsPlace

theorem AmbiguityGroup.prepositions_ne_nil_iff {group : AmbiguityGroup} :
    group.prepositions ≠ [] ↔ group.hasPreposition = true := by
  rw [prepositions, hasPreposition, Ne, List.filter_eq_nil_iff, List.any_eq_true]
  simp only [not_forall, not_not, exists_prop]

/-- Without a second preposition, a place that holds one holds no other. -/
theorem AmbiguityGroup.exists_prepositions_eq {group : AmbiguityGroup}
    (hprep : group.hasPreposition = true) (hclash : group.prepositions[1]? = none) :
    ∃ word, group.prepositions = [word] := by
  have hne := prepositions_ne_nil_iff.mpr hprep
  cases hwords : group.prepositions with
  | nil => exact absurd hwords hne
  | cons word rest =>
    cases rest with
    | nil => exact ⟨word, rfl⟩
    | cons second others => rw [hwords] at hclash; exact absurd hclash (by simp)

namespace Weaver

open AmbiguityGroup (hasPreposition hasName prepositions)

variable {world : World} {weaver : Weaver}

/-! ### Segments and parts -/

/-- What a closed segment stands for: a preposition for a place that holds no other one, and a
phrase below a bound for places that its clusters have followed. -/
inductive Stands (world : World) (ledger : Ledger) (bound : Nat) :
    Segment → Part AmbiguityGroup → Prop
  | preposition {group : AmbiguityGroup} {word : Word} (h : prepositions group = [word]) :
    Stands world ledger bound (.preposition word) (.preposition group)
  | phrase {index : Nat} {places : List AmbiguityGroup} (hne : places ≠ []) (hlt : index < bound)
    (hclusters : ledger.ofPhrase index =
      (world.broughtBy (places.map AmbiguityGroup.key)).map
        (Cluster.following index (places.map AmbiguityGroup.key))) :
    Stands world ledger bound (.phrase index) (.phrase index places)

/-- A segment goes on standing for its part while only later phrases change. -/
theorem Stands.mono {ledger ledger' : Ledger} {bound bound' : Nat} {segment : Segment}
    {part : Part AmbiguityGroup} (h : Stands world ledger bound segment part)
    (hle : bound ≤ bound')
    (hsame : ∀ index < bound, ledger'.ofPhrase index = ledger.ofPhrase index) :
    Stands world ledger' bound' segment part := by
  cases h with
  | preposition h => exact .preposition h
  | phrase hne hlt hclusters =>
    exact .phrase hne (Nat.lt_of_lt_of_le hlt hle) ((hsame _ hlt).trans hclusters)

/-- The clusters of a phrase that have a streak are those of the nouns that fit it. -/
theorem filter_hasStreak_following {number : Nat} {keys : List Text} (hne : keys ≠ []) :
    ((world.broughtBy keys).map (Cluster.following number keys)).filter Cluster.hasStreak =
      (world.fitting keys).map (Cluster.following number keys) := by
  -- nouns without the first key have lost their streak, and those with it were brought in by it
  obtain ⟨key, others, rfl⟩ := List.exists_cons_of_ne_nil hne
  have hstreak : Cluster.hasStreak ∘ Cluster.following number (key :: others) =
      fun noun => noun.fits (key :: others) := by
    funext noun
    exact Cluster.hasStreak_following
  have hfirst : ∀ noun : Noun, noun.fits (key :: others) = true → key ∈ noun.keys :=
    fun noun h => Noun.fits_iff.mp h key List.mem_cons_self
  rw [List.filter_map, hstreak, World.filter_broughtBy hfirst]
  rfl

/-- The group that a segment becomes, if its part is not unfit. -/
theorem Stands.group?_eq {ledger : Ledger} {bound : Nat} {segment : Segment}
    {part : Part AmbiguityGroup} (h : Stands world ledger bound segment part) (place : Nat) :
    part.isUnfit world = true ∧ group? ledger place segment = .error (.noConsistentNoun place) ∨
      part.isUnfit world = false ∧
        ∃ group, part.groups world = [group] ∧ group? ledger place segment = .ok group := by
  cases h with
  | preposition h =>
    refine Or.inr ⟨rfl, _, ?_, rfl⟩
    rw [Part.groups, h]
    rfl
  | phrase hne hlt hclusters =>
    rename_i index places
    have hkeys : places.map AmbiguityGroup.key ≠ [] := by simpa using hne
    have hstreak := @filter_hasStreak_following world index _ hkeys
    rw [group?, hclusters, hstreak, Part.isUnfit, Part.groups]
    cases hfitting : world.fitting (places.map AmbiguityGroup.key) with
    | nil => exact Or.inl ⟨rfl, rfl⟩
    | cons noun nouns => exact Or.inr ⟨rfl, _, rfl, rfl⟩

/-- **The groups of segments are those of their parts**, unless one of the parts is unfit. -/
theorem groupsFrom_eq {ledger : Ledger} {bound : Nat} {segments : List Segment}
    {parts : List (Part AmbiguityGroup)}
    (h : List.Forall₂ (Stands world ledger bound) segments parts) (place : Nat) :
    groupsFrom ledger place segments =
      match parts.findIdx? (Part.isUnfit world) with
      | some i => .error (.noConsistentNoun (place + i))
      | none => .ok (parts.flatMap (Part.groups world)) := by
  -- one segment after another, as the places of the groups are counted
  induction h generalizing place with
  | nil => rfl
  | @cons segment part segments parts hstands _ ih =>
    rw [groupsFrom, List.findIdx?_cons]
    rcases hstands.group?_eq place with ⟨hunfit, herror⟩ | ⟨hfit, group, hgroups, hok⟩
    · rw [hunfit, herror]
      rfl
    · rw [hfit, hok, ih (place + 1), List.flatMap_cons, hgroups]
      cases hfind : parts.findIdx? (Part.isUnfit world) with
      | none => rfl
      | some i =>
        have hplace : place + 1 + i = place + (i + 1) := by omega
        change Except.error (Misreading.noConsistentNoun (place + 1 + i)) = _
        rw [hplace]
        rfl

/-! ### The run -/

/-- How a weaver stands that has closed some parts and is in an open phrase of some places. -/
structure Holds (world : World) (weaver : Weaver) (parts : List (Part AmbiguityGroup))
    (opened : List AmbiguityGroup) : Prop where
  closed : List.Forall₂ (Stands world weaver.ledger weaver.phrase) weaver.closed parts
  /-- Every place of the open phrase brings a noun in, so a phrase with places has clusters. -/
  brings : ∀ place ∈ opened, ∃ noun ∈ world.nouns, place.key ∈ noun.keys
  follows : Follows world weaver (opened.map AmbiguityGroup.key)
  unused : ∀ phrase : Int, weaver.phrase < phrase → weaver.ledger.ofPhrase phrase = []

/-- Nothing was taken yet. -/
theorem Holds.empty : Holds world {} [] [] where
  closed := .nil
  brings := fun _ h => absurd h List.not_mem_nil
  follows := ⟨rfl, rfl, rfl⟩
  unused := fun _ _ => rfl

/-- The segments of a weaver stand for the closed parts and the open phrase. -/
theorem Holds.segments {parts : List (Part AmbiguityGroup)} {opened : List AmbiguityGroup}
    (h : Holds world weaver parts opened) :
    List.Forall₂ (Stands world weaver.ledger (weaver.phrase + 1)) weaver.segments
      (parts ++ Part.phraseOf weaver.phrase opened) := by
  have hclosed : List.Forall₂ (Stands world weaver.ledger (weaver.phrase + 1)) weaver.closed
      parts :=
    h.closed.imp fun _ _ hstands => hstands.mono (Nat.le_succ _) fun _ _ => rfl
  rw [Weaver.segments]
  cases opened with
  | nil =>
    rw [h.follows.openClusters, Part.phraseOf_nil, List.append_nil]
    exact hclosed
  | cons place others =>
    -- a phrase that had a place is not dropped, for the place brought a noun in
    have hclusters : weaver.openClusters.isEmpty = false := by
      obtain ⟨noun, hnoun, hkey⟩ := h.brings place List.mem_cons_self
      have hmem : noun ∈ world.broughtBy ((place :: others).map AmbiguityGroup.key) :=
        World.mem_broughtBy.mpr ⟨hnoun, place.key, List.mem_cons_self, hkey⟩
      rw [h.follows.openClusters, List.isEmpty_eq_false_iff]
      exact List.ne_nil_of_mem (List.mem_map_of_mem hmem)
    rw [hclusters, if_neg Bool.false_ne_true, Part.phraseOf_of_ne_nil _ (List.cons_ne_nil _ _)]
    exact List.rel_append hclosed
      (.cons (.phrase (List.cons_ne_nil _ _) (Nat.lt_succ_self _) h.follows.openClusters) .nil)

/-- Breaking a phrase closes its part, if there is one. -/
theorem Holds.breakPhrase {parts : List (Part AmbiguityGroup)} {opened : List AmbiguityGroup}
    (h : Holds world weaver parts opened) :
    Holds world weaver.breakPhrase (parts ++ Part.phraseOf weaver.phrase opened) [] where
  closed := h.segments
  brings := fun _ hmem => absurd hmem List.not_mem_nil
  follows := ⟨rfl, rfl, h.unused _ (Int.ofNat_lt.mpr (Nat.lt_succ_self _))⟩
  unused := fun phrase hlt =>
    h.unused phrase (Int.lt_trans (Int.ofNat_lt.mpr (Nat.lt_succ_self _)) hlt)

section Take

variable {group : AmbiguityGroup} (hplace : world.IsPlace group)
include hplace

theorem take_eq_takePreposition (hprep : hasPreposition group = true) :
    take (Catalog.ofWorld world) weaver group =
      match prepositions group with
      | [] => .ok weaver.breakPhrase
      | [word] =>
        .ok { weaver.breakPhrase with
          closed := weaver.breakPhrase.closed ++ [.preposition word] }
      | _ :: second :: _ => .error (.ambiguousPreposition second.spelling) := by
  have htake : take (Catalog.ofWorld world) weaver group = weaver.takePreposition group := by
    rw [take, hplace.any_not_isNounWord, if_pos hprep]
  rw [htake, ← hplace.filter_not_isNounWord]
  rfl

/-- Two prepositions of one place end the run. -/
theorem take_of_clash {second : Word} (h : (prepositions group)[1]? = some second) :
    take (Catalog.ofWorld world) weaver group =
      .error (.ambiguousPreposition second.spelling) := by
  obtain ⟨first, others, hwords⟩ :
      ∃ first others, prepositions group = first :: second :: others := by
    cases hwords : prepositions group with
    | nil => rw [hwords] at h; exact absurd h (by simp)
    | cons first rest =>
      cases rest with
      | nil => rw [hwords] at h; exact absurd h (by simp)
      | cons second' others =>
        rw [hwords] at h
        obtain rfl : second' = second := Option.some.inj h
        exact ⟨first, others, rfl⟩
  have hprep : hasPreposition group = true :=
    AmbiguityGroup.prepositions_ne_nil_iff.mp (by rw [hwords]; exact List.cons_ne_nil _ _)
  rw [take_eq_takePreposition hplace hprep, hwords]

/-- **A preposition** closes the open phrase and is a part of its own. -/
theorem Holds.takePreposition {parts : List (Part AmbiguityGroup)} {opened : List AmbiguityGroup}
    (h : Holds world weaver parts opened) (hprep : hasPreposition group = true)
    (hclash : (prepositions group)[1]? = none) :
    ∃ weaver', take (Catalog.ofWorld world) weaver group = .ok weaver' ∧
      weaver'.phrase = weaver.phrase + 1 ∧
      Holds world weaver'
        (parts ++ Part.phraseOf weaver.phrase opened ++ [.preposition group]) [] := by
  obtain ⟨word, hword⟩ := AmbiguityGroup.exists_prepositions_eq hprep hclash
  have hbreak := h.breakPhrase
  refine ⟨{ weaver.breakPhrase with
    closed := weaver.breakPhrase.closed ++ [.preposition word] }, ?_, rfl, ?_⟩
  · rw [take_eq_takePreposition hplace hprep, hword]
  · exact ⟨List.rel_append hbreak.closed (.cons (.preposition hword) .nil), hbreak.brings,
      ⟨rfl, rfl, hbreak.follows.openClusters⟩, hbreak.unused⟩

/-- **A place about nouns** belongs to the open phrase, and ends it if it holds a name. -/
theorem Holds.takeNouns (hsound : world.Sound) {parts : List (Part AmbiguityGroup)}
    {opened : List AmbiguityGroup} (h : Holds world weaver parts opened)
    (hprep : hasPreposition group = false) :
    ∃ weaver', weaver'.phrase = weaver.phrase ∧ Holds world weaver' parts (opened ++ [group]) ∧
      take (Catalog.ofWorld world) weaver group =
        .ok (if hasName group then weaver'.breakPhrase else weaver') := by
  have hgroup := hplace.eq_objectWords
  have hne : world.objectWords group.key ≠ [] := hgroup ▸ hplace.ne_nil
  have hnoun : ∀ w ∈ world.objectWords group.key, w.isNounWord = true :=
    fun w hw => hplace.isNounWord hprep (hgroup ▸ hw)
  obtain ⟨weaver', hfollows, hsame, htake⟩ := takeNouns_follows hsound h.follows hne hnoun
  rw [← hgroup] at htake
  refine ⟨weaver', hsame.phrase, ⟨?_, ?_, ?_, ?_⟩, ?_⟩
  · rw [hsame.closed, hsame.phrase]
    -- closed parts look at phrases with smaller numbers, whose clusters did not change
    refine h.closed.imp fun _ _ hstands => hstands.mono (Nat.le_refl _) fun index hlt => ?_
    exact hsame.ofPhrase index (Int.ofNat_inj.not.mpr (Nat.ne_of_lt hlt))
  · intro place hmem
    rcases List.mem_append.mp hmem with hmem | hmem
    · exact h.brings place hmem
    · rw [List.mem_singleton.mp hmem]
      exact hplace.exists_noun hsound hprep
  · rw [List.map_append]
    exact hfollows
  · intro phrase hlt
    rw [hsame.phrase] at hlt
    rw [hsame.ofPhrase phrase (Int.ne_of_gt hlt), h.unused phrase hlt]
  · rw [take, hplace.any_not_isNounWord, if_neg (by rw [hprep]; exact Bool.false_ne_true), htake]
    rfl

/-- **One place** without a clash is taken. What is closed then and what is open stand for the same
parts as before, whatever places are still to come. -/
theorem Holds.exists_take_eq (hsound : world.Sound) {parts : List (Part AmbiguityGroup)}
    {opened : List AmbiguityGroup} (h : Holds world weaver parts opened)
    (hplain : ∀ place ∈ opened, Part.IsPlain hasPreposition hasName place)
    (hclash : (prepositions group)[1]? = none) :
    ∃ weaver' parts' opened', take (Catalog.ofWorld world) weaver group = .ok weaver' ∧
      Holds world weaver' parts' opened' ∧
      (∀ place ∈ opened', Part.IsPlain hasPreposition hasName place) ∧
      ∀ rest, parts' ++ Part.cut hasPreposition hasName weaver'.phrase (opened' ++ rest) =
        parts ++ Part.cut hasPreposition hasName weaver.phrase (opened ++ group :: rest) := by
  have hnone : ∀ place ∈ ([] : List AmbiguityGroup), Part.IsPlain hasPreposition hasName place :=
    fun _ hmem => absurd hmem List.not_mem_nil
  -- the cases are those of `Part.cut`: a preposition, a name, and anything else
  cases hprep : hasPreposition group with
  | true =>
    obtain ⟨weaver', htake, hphrase, hholds⟩ := h.takePreposition hplace hprep hclash
    refine ⟨weaver', _, [], htake, hholds, hnone, fun rest => ?_⟩
    rw [hphrase, Part.cut_append_preposition hplain hprep, List.append_assoc, List.append_assoc]
    rfl
  | false =>
    obtain ⟨weaver', hphrase, hholds, htake⟩ := h.takeNouns hplace hsound hprep
    rw [htake]
    cases hname : hasName group with
    | true =>
      refine ⟨weaver'.breakPhrase, _, [], rfl, hholds.breakPhrase, hnone, fun rest => ?_⟩
      rw [Weaver.breakPhrase, hphrase, Part.phraseOf_of_ne_nil _ (by simp),
        Part.cut_append_end hplain hprep hname, List.append_assoc]
      rfl
    | false =>
      refine ⟨weaver', parts, opened ++ [group], rfl, hholds,
        Part.forall_isPlain_concat hplain hprep hname, fun rest => ?_⟩
      rw [hphrase, List.append_assoc]
      rfl

end Take

/-- A clash among the places ends the run. -/
theorem Holds.foldlM_take_of_clash (hsound : world.Sound) {places : List AmbiguityGroup}
    (hplaces : ∀ place ∈ places, world.IsPlace place) {spelling : Text}
    (hclash : AmbiguityGroup.clash? places = some spelling) {parts : List (Part AmbiguityGroup)}
    {opened : List AmbiguityGroup} (h : Holds world weaver parts opened)
    (hplain : ∀ place ∈ opened, Part.IsPlain hasPreposition hasName place) :
    places.foldlM (take (Catalog.ofWorld world)) weaver =
      .error (.ambiguousPreposition spelling) := by
  -- `Holds` carries the run as far as the place with the clash
  induction places generalizing weaver parts opened with
  | nil => exact absurd hclash (by simp [AmbiguityGroup.clash?])
  | cons place rest ih =>
    have hplace := hplaces place List.mem_cons_self
    have hrest := fun p hp => hplaces p (List.mem_cons_of_mem place hp)
    rw [AmbiguityGroup.clash?, List.findSome?_cons] at hclash
    rw [List.foldlM_cons]
    cases hsecond : (prepositions place)[1]? with
    | some second =>
      rw [hsecond] at hclash
      obtain rfl : second.spelling = spelling := Option.some.inj hclash
      rw [take_of_clash hplace hsecond]
      rfl
    | none =>
      rw [hsecond] at hclash
      obtain ⟨weaver', parts', opened', htake, hholds, hplain', -⟩ :=
        h.exists_take_eq hplace hsound hplain hsecond
      rw [htake]
      exact ih hrest hclash hholds hplain'

/-- **The run cuts the places into parts**: without a clash it comes through, and the segments it
ends with stand for the parts that were closed before and those of the places from the open phrase
on. -/
theorem Holds.foldlM_take (hsound : world.Sound) {places : List AmbiguityGroup}
    (hplaces : ∀ place ∈ places, world.IsPlace place)
    (hclash : AmbiguityGroup.clash? places = none) {parts : List (Part AmbiguityGroup)}
    {opened : List AmbiguityGroup} (h : Holds world weaver parts opened)
    (hplain : ∀ place ∈ opened, Part.IsPlain hasPreposition hasName place) :
    ∃ weaver', places.foldlM (take (Catalog.ofWorld world)) weaver = .ok weaver' ∧
      List.Forall₂ (Stands world weaver'.ledger (weaver'.phrase + 1)) weaver'.segments
        (parts ++ Part.cut hasPreposition hasName weaver.phrase (opened ++ places)) := by
  -- the parts are those closed so far and those of the open phrase with all places to come, and
  -- every place that is taken leaves them as they are
  induction places generalizing weaver parts opened with
  | nil =>
    rw [List.append_nil, Part.cut_of_plain hplain]
    exact ⟨weaver, rfl, h.segments⟩
  | cons place rest ih =>
    have hplace := hplaces place List.mem_cons_self
    have hrest := fun p hp => hplaces p (List.mem_cons_of_mem place hp)
    rw [AmbiguityGroup.clash?, List.findSome?_cons] at hclash
    rw [List.foldlM_cons]
    cases hsecond : (prepositions place)[1]? with
    | some second => rw [hsecond] at hclash; exact absurd hclash (by simp)
    | none =>
      rw [hsecond] at hclash
      obtain ⟨weaver', parts', opened', htake, hholds, hplain', hparts⟩ :=
        h.exists_take_eq hplace hsound hplain hsecond
      rw [htake, ← hparts rest]
      exact ih hrest hclash hholds hplain'

/-- **Weaving places gives their meaning.** -/
theorem weave_eq_meaning (hsound : world.Sound) (verbs : List Word) {places : List AmbiguityGroup}
    (hplaces : ∀ place ∈ places, world.IsPlace place) :
    weave (Catalog.ofWorld world) (verbs :: places) = world.meaning verbs places := by
  have hplain : ∀ place ∈ ([] : List AmbiguityGroup), Part.IsPlain hasPreposition hasName place :=
    fun _ hmem => absurd hmem List.not_mem_nil
  rw [weave, run, World.meaning]
  cases hclash : AmbiguityGroup.clash? places with
  | some spelling =>
    rw [(@Holds.empty world).foldlM_take_of_clash hsound hplaces hclash hplain]
    rfl
  | none =>
    obtain ⟨weaver, hrun, hsegments⟩ :=
      (@Holds.empty world).foldlM_take hsound hplaces hclash hplain
    -- places are counted from one, positions among the parts from zero
    have hgroups : groupsFrom weaver.ledger 1 weaver.segments =
        match (AmbiguityGroup.parts places).findIdx? (Part.isUnfit world) with
        | some i => .error (.noConsistentNoun (1 + i))
        | none => .ok ((AmbiguityGroup.parts places).flatMap (Part.groups world)) :=
      groupsFrom_eq hsegments 1
    rw [hrun]
    change Except.map _ (groupsFrom weaver.ledger 1 weaver.segments >>= _) = _
    rw [hgroups]
    cases (AmbiguityGroup.parts places).findIdx? (Part.isUnfit world) with
    | none => rfl
    | some i =>
      change Except.error (Misreading.noConsistentNoun (1 + i)) = _
      rw [Nat.add_comm 1 i]

/-! ### Commands that were matched and gated -/

/-- What the gate lets through of a matched text: words with one key at every place, and behind the
verb all words with that key that are no verbs. -/
theorem isPlace_of_gate (hsound : world.Sound) {text : Text} {matched : List AmbiguityGroup}
    {verbs : AmbiguityGroup} {places : List AmbiguityGroup}
    (hread : AmbiguityGroup.read (Catalog.ofWorld world).words text = .ok matched)
    (hgate : AmbiguityGroup.gate matched = .ok (verbs :: places)) :
    (∀ place ∈ verbs :: places, place ≠ [] ∧ ∀ w ∈ place, w.key = place.key) ∧
      ∀ place ∈ places, world.IsPlace place := by
  rw [Catalog.words_ofWorld] at hread
  have hkeys : ∀ group ∈ matched, ∃ key, group = AmbiguityGroup.ofKey world.vocabulary key := by
    intro group hgroup
    obtain ⟨w, -, hw⟩ :=
      AmbiguityGroup.exists_ofKey_of_mem_read hsound.longestFirst hread hgroup
    exact ⟨w.key, hw⟩
  cases matched with
  | nil => exact absurd hgate (by simp)
  | cons group rest =>
    obtain ⟨hgated, hne⟩ := AmbiguityGroup.gate_cons_eq_ok_iff.mp hgate
    obtain ⟨rfl, rfl⟩ := List.cons.inj hgated
    have hplaces : ∀ place ∈ rest.map (List.filter fun w => !w.isVerb),
        world.IsPlace place := by
      intro place hplace
      obtain ⟨g, hg, rfl⟩ := List.mem_map.mp hplace
      obtain ⟨key, rfl⟩ := hkeys g (List.mem_cons_of_mem group hg)
      exact (World.IsPlace.of_objectWords_ne_nil (hne _ (List.mem_cons_of_mem _ hplace))).2
    refine ⟨fun place hplace => ⟨hne place hplace, ?_⟩, hplaces⟩
    -- a key is shared by all words if it is shared by those that the first word is one of
    suffices hshared : ∃ key, ∀ w ∈ place, w.key = key by
      obtain ⟨key, hkey⟩ := hshared
      obtain ⟨w, ws, rfl⟩ := List.exists_cons_of_ne_nil (hne place hplace)
      exact fun u hu => (hkey u hu).trans (hkey w List.mem_cons_self).symm
    rcases List.mem_cons.mp hplace with rfl | hplace
    · obtain ⟨key, rfl⟩ := hkeys group List.mem_cons_self
      exact ⟨key, fun w hw => (AmbiguityGroup.mem_ofKey.mp (List.mem_filter.mp hw).1).2⟩
    · obtain ⟨g, hg, rfl⟩ := List.mem_map.mp hplace
      obtain ⟨key, rfl⟩ := hkeys g (List.mem_cons_of_mem group hg)
      exact ⟨key, fun w hw => (AmbiguityGroup.mem_ofKey.mp (List.mem_filter.mp hw).1).2⟩

/-- **Weaving meets its reference meaning.** Whatever text was matched and gated, every place holds
words with one key. The weaver reports an ambiguous preposition just if a place holds two; otherwise
a phrase without a consistent noun just if there is one, by the number of the first; and otherwise
it yields the verbs and the groups of the parts, where a phrase means the nouns with all of its
keys. -/
theorem weave_meets_meaning (hbuilt : world.Built) {text : Text} {matched : List AmbiguityGroup}
    {verbs : AmbiguityGroup} {places : List AmbiguityGroup}
    (hread : AmbiguityGroup.read (Catalog.ofWorld world).words text = .ok matched)
    (hgate : AmbiguityGroup.gate matched = .ok (verbs :: places)) :
    (∀ place ∈ verbs :: places, place ≠ [] ∧ ∀ w ∈ place, w.key = place.key) ∧
    (∀ spelling, weave (Catalog.ofWorld world) (verbs :: places) =
        .error (.ambiguousPreposition spelling) ↔
      AmbiguityGroup.clash? places = some spelling) ∧
    (∀ number, weave (Catalog.ofWorld world) (verbs :: places) =
        .error (.noConsistentNoun number) ↔
      AmbiguityGroup.clash? places = none ∧ ∃ i, number = i + 1 ∧
        (AmbiguityGroup.parts places).findIdx? (Part.isUnfit world) = some i) ∧
    (AmbiguityGroup.clash? places = none →
      (AmbiguityGroup.parts places).findIdx? (Part.isUnfit world) = none →
      weave (Catalog.ofWorld world) (verbs :: places) =
        .ok (.verb verbs :: (AmbiguityGroup.parts places).flatMap (Part.groups world))) := by
  obtain ⟨hkeys, hplaces⟩ := isPlace_of_gate hbuilt.sound hread hgate
  rw [weave_eq_meaning hbuilt.sound verbs hplaces, World.meaning]
  refine ⟨hkeys, fun spelling => ?_, fun number => ?_, fun hclash hfit => ?_⟩
  · cases AmbiguityGroup.clash? places with
    | some other => simp
    | none => cases (AmbiguityGroup.parts places).findIdx? (Part.isUnfit world) <;> simp
  · cases AmbiguityGroup.clash? places with
    | some other => simp
    | none =>
      cases (AmbiguityGroup.parts places).findIdx? (Part.isUnfit world) with
      | none => simp
      | some i => simp [eq_comm]
  · rw [hclash, hfit]

end Weaver

/-- A world where one word is an adjective of one noun and the name of another: a red oil lamp, oil,
and a green lamp. -/
def World.oilLamp : World :=
  let world := (addVerb {} { spelling := "take".toList, prepositions := ["from".toList] }).1
  let world := (world.addNoun
    { names := "lamp".toList, adjectives := ["red".toList, "oil".toList] }).1
  let world := (world.addNoun { names := "oil".toList }).1
  (world.addNoun { names := "lamp".toList, adjectives := ["green".toList] }).1

theorem World.oilLamp_built : oilLamp.Built :=
  .addNoun (.addNoun (.addNoun (.addVerb (.empty [] []) _) _) _) _

/-- Red oil means the lamp, although oil is a noun of its own. -/
theorem Weaver.weave_take_red_oil :
    weave (Catalog.ofWorld World.oilLamp)
        (AmbiguityGroup.ofKey World.oilLamp.vocabulary "take".toList ::
          ["red".toList, "oil".toList].map World.oilLamp.objectWords) =
      .ok (.verb (AmbiguityGroup.ofKey World.oilLamp.vocabulary "take".toList) ::
        (AmbiguityGroup.parts
          (["red".toList, "oil".toList].map World.oilLamp.objectWords)).flatMap
            (Part.groups World.oilLamp)) := by
  have hread : AmbiguityGroup.read (Catalog.ofWorld World.oilLamp).words "take red oil".toList =
      .ok (["take".toList, "red".toList, "oil".toList].map
        (AmbiguityGroup.ofKey World.oilLamp.vocabulary)) := by
    rw [Catalog.words_ofWorld, World.vocabulary, Word.sort_eq_insertionSort]
    decide +kernel
  have hgate : AmbiguityGroup.gate (["take".toList, "red".toList, "oil".toList].map
        (AmbiguityGroup.ofKey World.oilLamp.vocabulary)) =
      .ok (AmbiguityGroup.ofKey World.oilLamp.vocabulary "take".toList ::
        ["red".toList, "oil".toList].map World.oilLamp.objectWords) := by
    simp only [List.map, World.objectWords, World.vocabulary, Word.sort_eq_insertionSort]
    decide +kernel
  -- no two prepositions share a place, and the one phrase fits the lamp
  refine (weave_meets_meaning World.oilLamp_built hread hgate).2.2.2 ?_ ?_ <;>
    · simp only [List.map, World.objectWords, World.vocabulary, Word.sort_eq_insertionSort]
      decide +kernel

end CommandPrompt
