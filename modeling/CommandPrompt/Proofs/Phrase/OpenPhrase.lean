import CommandPrompt.Proofs.Phrase.Entries
import CommandPrompt.Proofs.Phrase.History
import CommandPrompt.Proofs.Phrase.Tracking

/-!
# The open phrase

Five things that a loom keeps say the same: the clusters that the ledger has for the open phrase,
the nouns that are tracked, the last entry, the length of the streak, and the marks. That they
agree (`Loom.Agrees`) holds after every group, if none of the groups is empty.

The last entry is the clusters of the open phrase wherever a loom is written down, and whatever is
between the first entry and the last is one word or clusters (`Weaver.loom`). What remains is about
the open phrase of a weaver (`Weaver.InStep`). A word may bring in a noun, which is tracked behind
the others, and then every tracked noun learns it. So clusters and nouns go on in one order, and
every cluster has the mark of this place then (`Weaver.Tracks.learn_track`), one that was just
opened like the others. The further words of a place change that mark only. A group without words
counts as a place, but no cluster learns from it, and that is why groups may not be empty.
-/

namespace CommandPrompt

/-! ### One word -/

/-- Learning at a position makes sure that there is a mark for it. -/
theorem Cluster.length_marks_learn (cluster : Cluster) (word : Word) (position : Nat) :
    (cluster.learn word position).marks.length = max cluster.marks.length (position + 1) := by
  have htakeIn : (cluster.takeIn word position).marks.length =
      max cluster.marks.length (position + 1) := by
    rw [Cluster.takeIn]
    split
    · exact (Marks.length_put _ _ _).trans (by rw [Cluster.marks_mention])
    · exact Marks.length_put _ _ _
  rw [Cluster.learn_eq_takeIn]
  split <;> exact htakeIn

namespace Weaver

variable {catalog : Catalog} {weaver : Weaver} {taken : List AmbiguityGroup}

/-- A word brings in one noun at most, which is not tracked yet. -/
theorem exists_track_eq (catalog : Catalog) (weaver : Weaver) (word : Word) :
    ∃ new : List Profile, track catalog weaver word =
        { weaver with tracked := weaver.tracked ++ new } ∧
      ((weaver.tracked.map Profile.key).Nodup →
        ((weaver.tracked ++ new).map Profile.key).Nodup) := by
  have hnone : weaver = { weaver with tracked := weaver.tracked ++ [] } := by
    rw [List.append_nil]
  rw [track]
  split
  · next profile _ =>
    split
    · exact ⟨[], hnone, by rw [List.append_nil]; exact id⟩
    · next hnew =>
      refine ⟨[profile], rfl, fun hnodup => ?_⟩
      rw [List.map_append]
      refine List.nodup_append.mpr ⟨hnodup, List.pairwise_singleton _ _, ?_⟩
      intro key hkey key' hkey' heq
      obtain ⟨old, hold, rfl⟩ := List.mem_map.mp hkey
      obtain rfl := List.mem_singleton.mp hkey'
      exact hnew (List.any_eq_true.mpr ⟨old, hold, beq_iff_eq.mpr heq⟩)
  · exact ⟨[], hnone, by rw [List.append_nil]; exact id⟩

/-- The clusters of the open phrase are those of the tracked nouns, and the number of their marks is
such as it should be. -/
structure Tracks (count : Nat → Prop) (weaver : Weaver) : Prop where
  profiles : weaver.openClusters.map Cluster.profile = weaver.tracked
  marks : ∀ cluster ∈ weaver.openClusters, count cluster.marks.length

/-- A word is learned by the clusters that are there, and by those of the nouns that it brings in,
which are opened behind them. -/
theorem exists_openClusters_eq
    (hprofiles : weaver.openClusters.map Cluster.profile = weaver.tracked)
    (horder : InOrder catalog weaver) (word : Word) :
    ∃ new : List Profile,
      ((track catalog weaver word).learn word).tracked = weaver.tracked ++ new ∧
      ((track catalog weaver word).learn word).openClusters =
        weaver.openClusters.map (·.learn word weaver.streak) ++ new.map fun profile =>
          Cluster.learn { profile := profile, phrase := weaver.phrase } word weaver.streak := by
  obtain ⟨new, htrack, hkeys⟩ := exists_track_eq catalog weaver word
  -- the ledger tells the nouns of a phrase apart, so no cluster is changed twice
  have hclusters := horder.keyed.nodup_keys weaver.phrase
  have hnodup : ((weaver.tracked ++ new).map Profile.key).Nodup := by
    refine hkeys ?_
    rw [← hprofiles, List.map_map]
    exact hclusters
  have htodo : weaver.tracked ++ new = weaver.openClusters.map Cluster.profile ++ new := by
    rw [hprofiles]
  rw [htrack]
  exact ⟨new, rfl, openClusters_learn htodo hnodup word⟩

/-- **All tracked nouns have the mark of a place** as soon as they have learned one word of it. -/
theorem Tracks.learn_track (h : Tracks (· ≤ weaver.streak + 1) weaver)
    (horder : InOrder catalog weaver) (word : Word) :
    Tracks (· = weaver.streak + 1) ((track catalog weaver word).learn word) := by
  obtain ⟨new, htracked, hopen⟩ := exists_openClusters_eq h.profiles horder word
  have hkeeps := Cluster.keeps_learn word weaver.streak
  constructor
  case profiles =>
    calc ((track catalog weaver word).learn word).openClusters.map Cluster.profile
        = weaver.openClusters.map Cluster.profile ++ new := by
          rw [hopen, List.map_append, List.map_map, List.map_map]
          exact congrArg₂ _ (List.map_congr_left fun cluster _ => hkeeps.profile cluster)
            ((List.map_congr_left fun profile _ => hkeeps.profile _).trans (List.map_id new))
      _ = weaver.tracked ++ new := by rw [h.profiles]
      _ = ((track catalog weaver word).learn word).tracked := htracked.symm
  case marks =>
    -- there was no mark behind that of the place, and a new cluster had none at all
    intro cluster hcluster
    rw [hopen] at hcluster
    rcases List.mem_append.mp hcluster with hcluster | hcluster
    · obtain ⟨old, hold, rfl⟩ := List.mem_map.mp hcluster
      rw [Cluster.length_marks_learn]
      exact max_eq_right (h.marks old hold)
    · obtain ⟨profile, -, rfl⟩ := List.mem_map.mp hcluster
      exact (Cluster.length_marks_learn _ _ _).trans (max_eq_right (Nat.zero_le _))

/-- The words of a place do not count; the place does. -/
theorem streak_learn_track (catalog : Catalog) (weaver : Weaver) (word : Word) :
    ((track catalog weaver word).learn word).streak = weaver.streak := by
  obtain ⟨new, htrack, -⟩ := exists_track_eq catalog weaver word
  rw [htrack]
  rfl

theorem streak_takeWords (catalog : Catalog) (weaver : Weaver) (words : List Word) :
    (takeWords catalog weaver words).1.streak = weaver.streak := by
  induction words generalizing weaver with
  | nil => rfl
  | cons word rest ih => exact (ih _).trans (streak_learn_track catalog weaver word)

/-- Further words of a place bring in further nouns, which have the mark of the place as well. -/
theorem Tracks.takeWords (h : Tracks (· = weaver.streak + 1) weaver)
    (horder : InOrder catalog weaver) (words : List Word) :
    Tracks (· = weaver.streak + 1) (Weaver.takeWords catalog weaver words).1 := by
  induction words generalizing weaver with
  | nil => exact h
  | cons word rest ih =>
    have hle : Tracks (· ≤ weaver.streak + 1) weaver :=
      ⟨h.profiles, fun cluster hcluster => Nat.le_of_eq (h.marks cluster hcluster)⟩
    have hlearned := hle.learn_track horder word
    rw [← streak_learn_track catalog weaver word] at hlearned ⊢
    exact ih hlearned ((horder.track word).learn word)

/-! ### One place -/

/-- A weaver whose open phrase has come as far as its streak says. -/
structure InStep (weaver : Weaver) : Prop where
  tracks : Tracks (· = weaver.streak) weaver
  begun : weaver.streak = 0 → weaver.tracked = []

theorem inStep_empty : InStep {} :=
  ⟨⟨rfl, fun _ h => absurd h List.not_mem_nil⟩, fun _ => rfl⟩

/-- A phrase that was just opened has nothing yet. -/
theorem Placed.inStep_breakPhrase (h : Placed taken weaver) : InStep weaver.breakPhrase := by
  have hnext : weaver.breakPhrase.openClusters = [] := h.ofPhrase_succ
  refine ⟨⟨?_, ?_⟩, fun _ => rfl⟩
  · rw [hnext]
    rfl
  · rw [hnext]
    exact fun _ hmem => absurd hmem List.not_mem_nil

theorem Placed.inStep_takePreposition (h : Placed taken weaver) {group : AmbiguityGroup}
    {weaver' : Weaver} (htake : weaver.takePreposition group = .ok weaver') : InStep weaver' := by
  have hbreak := h.inStep_breakPhrase
  rw [Weaver.takePreposition] at htake
  split at htake
  · exact Except.ok.inj htake ▸ hbreak
  · -- a preposition is behind a phrase that is closed, and not in the one that is opened
    obtain rfl := Except.ok.inj htake
    exact ⟨⟨hbreak.tracks.profiles, hbreak.tracks.marks⟩, hbreak.begun⟩
  · exact absurd htake (by simp)

theorem InStep.takeNouns (h : InStep weaver) (hplaced : Placed taken weaver)
    (horder : InOrder catalog weaver) {group : AmbiguityGroup} (hne : group ≠ []) :
    InStep (Weaver.takeNouns catalog weaver group) := by
  obtain ⟨word, rest, rfl⟩ := List.exists_cons_of_ne_nil hne
  -- the first word adds the mark of the place, and the others find it there
  have hle : Tracks (· ≤ weaver.streak + 1) weaver :=
    ⟨h.tracks.profiles, fun cluster hcluster =>
      Nat.le_succ_of_le (Nat.le_of_eq (h.tracks.marks cluster hcluster))⟩
  have hfirst := hle.learn_track horder word
  rw [← streak_learn_track catalog weaver word] at hfirst
  have hwords := hfirst.takeWords ((horder.track word).learn word) rest
  rw [streak_learn_track, ← streak_takeWords catalog weaver (word :: rest)] at hwords
  have htaken : Placed taken (Weaver.takeWords catalog weaver (word :: rest)).1 :=
    hplaced.takeWords (word :: rest)
  rw [Weaver.takeNouns]
  dsimp only
  split
  · exact Placed.inStep_breakPhrase ⟨htaken.prepositions, htaken.increasing, htaken.covered⟩
  · exact ⟨⟨hwords.profiles, hwords.marks⟩, fun hzero => absurd hzero (Nat.succ_ne_zero _)⟩

/-- **Every place with a word keeps the open phrase in step.** -/
theorem InStep.take (h : InStep weaver) (hplaced : Placed taken weaver)
    (horder : InOrder catalog weaver) {group : AmbiguityGroup} (hne : group ≠ [])
    {weaver' : Weaver} (htake : Weaver.take catalog weaver group = .ok weaver') :
    InStep weaver' := by
  rw [Weaver.take] at htake
  split at htake
  · exact hplaced.inStep_takePreposition htake
  · exact Except.ok.inj htake ▸ h.takeNouns hplaced horder hne

/-- The places of a whole command, one after another. -/
theorem InStep.foldlM_take (h : InStep weaver) (hplaced : Placed taken weaver)
    (horder : InOrder catalog weaver) {rest : List AmbiguityGroup}
    (hne : ∀ group ∈ rest, group ≠ []) {weaver' : Weaver}
    (htake : rest.foldlM (Weaver.take catalog) weaver = .ok weaver') : InStep weaver' := by
  induction rest generalizing taken weaver with
  | nil => exact Except.ok.inj htake ▸ h
  | cons group rest ih =>
    rw [List.foldlM_cons] at htake
    obtain ⟨next, hnext, hrest⟩ := bind_eq_ok_iff.mp htake
    exact ih (h.take hplaced horder (hne group List.mem_cons_self) hnext) (hplaced.take hnext)
      (horder.take hnext) (fun g hg => hne g (List.mem_cons_of_mem group hg)) hrest

end Weaver

/-! ### What is written down agrees -/

namespace Loom

/-- An entry that is a word of some groups, and no word of a noun. -/
def IsWord (taken : List AmbiguityGroup) (entry : List Item) : Prop :=
  ∃ word, entry = [.word word] ∧ (∃ group ∈ taken, word ∈ group) ∧
    (word.partOfSpeech = .preposition ∨ word.isVerb = true)

/-- An entry that has clusters, and nothing but clusters, of a ledger. -/
def IsClusters (ledger : Ledger) (entry : List Item) : Prop :=
  entry ≠ [] ∧ ∀ item ∈ entry, ∃ cluster ∈ ledger.clusters, item = cluster.item

/-- What a loom keeps agrees, when it has taken some groups. -/
structure Agrees (taken : List AmbiguityGroup) (loom : Loom) : Prop where
  between : ∀ entry ∈ loom.between, IsWord taken entry ∨ IsClusters loom.ledger entry
  /-- The last entry has the clusters that the ledger has for the open phrase. -/
  last : loom.last = (loom.ledger.ofPhrase loom.phrase).map Cluster.item
  /-- These are the clusters of the tracked nouns. -/
  tracked : (loom.ledger.ofPhrase loom.phrase).map Cluster.profile = loom.tracked
  /-- Each of them is in the entry once. -/
  nodup : loom.last.Nodup
  /-- Each has as many marks as the phrase has had words. -/
  marks : ∀ cluster ∈ loom.ledger.ofPhrase loom.phrase, cluster.marks.length = loom.streak
  /-- A phrase that has had no word is empty. -/
  begun : loom.streak = 0 → loom.last = [] ∧ loom.tracked = []
  /-- An item tells which cluster it is. -/
  unique : (loom.ledger.clusters.map Cluster.about).Nodup

end Loom

namespace Weaver

variable {catalog : Catalog} {weaver : Weaver} {taken : List AmbiguityGroup}
  {verbs : AmbiguityGroup}

/-- A preposition that is closed comes from a place, where it is the word that is not about a
noun. -/
theorem Placed.isWord (h : Placed taken weaver) {word : Word}
    (hword : Segment.preposition word ∈ weaver.closed) : Loom.IsWord taken [.word word] := by
  have hmem : word ∈ weaver.closed.filterMap Segment.preposition? :=
    List.mem_filterMap.mpr ⟨.preposition word, hword, rfl⟩
  rw [h.prepositions] at hmem
  obtain ⟨group, hgroup, hfind⟩ := List.mem_filterMap.mp hmem
  refine ⟨word, rfl, ⟨group, hgroup, List.mem_of_find?_eq_some hfind⟩, ?_⟩
  -- whatever is about no noun and is no preposition is a verb
  have hnoun : word.isNounWord = false := by simpa using List.find?_some hfind
  by_cases hverb : word.isVerb = true
  · exact Or.inr hverb
  · have hother := Word.isVerb_eq_false_iff.mp (Bool.eq_false_iff.mpr hverb)
    exact Or.inl (hother.resolve_left (by simp [hnoun]))

/-- Every entry that is left behind is a preposition or the clusters of a phrase. -/
theorem Placed.isWord_or_isClusters (h : Placed taken weaver)
    (hfilled : [] ∉ (weaver.loom verbs).between) {entry : List Item}
    (hentry : entry ∈ (weaver.loom verbs).between) :
    Loom.IsWord taken entry ∨ Loom.IsClusters weaver.ledger entry := by
  obtain ⟨segment, hsegment, rfl⟩ := List.mem_map.mp hentry
  cases segment with
  | preposition word => exact Or.inl (h.isWord hsegment)
  | phrase index =>
    -- a phrase is closed only if a noun is in it
    refine Or.inr ⟨fun hnil => hfilled (hnil ▸ hentry), fun item hitem => ?_⟩
    obtain ⟨cluster, hcluster, rfl⟩ := List.mem_map.mp hitem
    exact ⟨cluster, (Ledger.mem_ofPhrase.mp hcluster).1, rfl⟩

theorem InStep.agrees (h : InStep weaver) (hplaced : Placed taken weaver)
    (horder : InOrder catalog weaver) (hfilled : [] ∉ (weaver.loom verbs).between) :
    (weaver.loom verbs).Agrees taken where
  between _ hentry := hplaced.isWord_or_isClusters hfilled hentry
  last := rfl
  tracked := h.tracks.profiles
  nodup := by
    have hopen : weaver.openClusters.Sublist weaver.ledger.clusters := List.filter_sublist
    have habout := horder.keyed.unique.sublist (hopen.map Cluster.about)
    have hitems := habout.map (f := Item.cluster) fun _ _ => Item.cluster.inj
    rw [List.map_map] at hitems
    exact hitems
  marks := h.tracks.marks
  begun hzero := by
    -- without a word no noun is tracked, and only tracked nouns have clusters
    have htracked := h.begun hzero
    have hopen : weaver.openClusters = [] := by
      rw [← List.map_eq_nil_iff (f := Cluster.profile), h.tracks.profiles, htracked]
    exact ⟨congrArg (List.map Cluster.item) hopen, htracked⟩
  unique := horder.keyed.unique

/-- **What a loom keeps agrees after every place**, if every place stands for a word. The loom is
the weaver written down, which takes the places whenever the weaver does. -/
theorem agrees_of_foldlM_take (catalog : Catalog) (verbs : AmbiguityGroup)
    {taken : List AmbiguityGroup} (hne : ∀ group ∈ taken, group ≠ []) {weaver : Weaver}
    (htake : taken.foldlM (take catalog) {} = .ok weaver) :
    taken.foldlM (Loom.take catalog) { verbs } = .ok (weaver.loom verbs) ∧
      (weaver.loom verbs).Agrees taken := by
  have hplaced : Placed taken weaver := placed_empty.foldlM_take htake
  have horder : InOrder catalog weaver := (inOrder_empty catalog).foldlM_take htake
  have hstep : InStep weaver :=
    inStep_empty.foldlM_take placed_empty (inOrder_empty catalog) hne htake
  have hloom : taken.foldlM (Loom.take catalog) { verbs } = .ok (weaver.loom verbs) := by
    have hwritten : taken.foldlM (Loom.take catalog) { verbs } =
        (taken.foldlM (take catalog) {}).map (loom verbs) := placed_empty.loom_foldlM_take taken
    rw [hwritten, htake]
    rfl
  exact ⟨hloom, hstep.agrees hplaced horder (Loom.nil_not_mem_between hloom)⟩

/-- A pale rock, as a noun. -/
def paleRock : Noun := ⟨3, "rock".toList, [], ["pale".toList]⟩

/-- The places behind the verb of "look at red pale". -/
def atRedPale : List AmbiguityGroup :=
  [[⟨"at".toList, .preposition ⟨2, "look".toList, [], none, ["at".toList]⟩, none⟩],
    [⟨"red".toList, .adjective Ledger.redLamp, none⟩], [⟨"pale".toList, .adjective paleRock, none⟩]]

/-- The rock comes in late, and has as many marks as the lamp. -/
theorem agrees_atRedPale : ∃ weaver,
    atRedPale.foldlM (take ⟨[], [⟨Ledger.redLamp, Ledger.redLamp.words⟩,
        ⟨paleRock, paleRock.words⟩]⟩) {} = .ok weaver ∧
      (weaver.loom []).Agrees atRedPale ∧
      (weaver.loom []).last = [.cluster (1, 1), .cluster (3, 1)] ∧ weaver.streak = 2 :=
  ⟨_, rfl, (agrees_of_foldlM_take _ [] (by decide) rfl).2, by decide, by decide⟩

/-- The verb of the command "take look". -/
def takeVerb : Word := ⟨"take".toList, .verb ⟨1, "take".toList, [], none, []⟩, none⟩

/-- Its second verb. -/
def lookVerb : Word := ⟨"look".toList, .verb ⟨2, "look".toList, [], none, []⟩, none⟩

/-- Where a verb stands behind the first one, it has an entry like a preposition. -/
theorem exists_verb_between : ∃ weaver,
    [[lookVerb]].foldlM (take (Catalog.ofWords [lookVerb, takeVerb])) {} = .ok weaver ∧
      ¬ ∀ entry ∈ (weaver.loom [takeVerb]).between,
        (∃ word, entry = [.word word] ∧ word.partOfSpeech = .preposition) ∨
          Loom.IsClusters weaver.ledger entry := by
  refine ⟨_, rfl, fun h => ?_⟩
  rcases h [.word lookVerb] List.mem_cons_self with ⟨word, hword, hpreposition⟩ | ⟨-, hclusters⟩
  · obtain rfl := Item.word.inj (List.cons.inj hword).1
    exact absurd hpreposition (by decide)
  · obtain ⟨cluster, -, hcluster⟩ := hclusters _ List.mem_cons_self
    exact Item.noConfusion hcluster

end Weaver

end CommandPrompt
