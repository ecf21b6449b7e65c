import CommandPrompt.Proofs.Phrase.Checked

/-!
# The shape of what is woven

Whatever words are woven, also such that the catalog does not know, the weaver stops at a place that
stands for two words that are not about nouns (`Weaver.run_eq_ambiguousPreposition_iff`), or at a
phrase that no noun fits, or else gives a command of one shape (`Weaver.IsWoven`): the verb, and
behind it prepositions, one for every place that has one, and noun phrases.

The places of the command and the phrases of the ledger are counted apart. Breaking a phrase always
begins a new one, but closes the old one only if a noun is in it, so numbers are skipped. What
relates the two is kept by every step (`Weaver.Placed`). The numbers of the closed phrases and of
the open one increase, and every cluster is in one of them. So at the end the phrases of the command
have the clusters of the ledger between them, each cluster in one phrase
(`Weaver.Placed.perm_clusters`), where it survives or is pruned.
-/

namespace CommandPrompt

/-! ### What segments stand for -/

/-- The word of a group that is a preposition. -/
def Group.preposition? : Group → Option Word
  | preposition word => some word
  | _ => none

namespace Segment

/-- The word of a segment that is a preposition. -/
def preposition? : Segment → Option Word
  | preposition word => some word
  | phrase _ => none

/-- The number of a segment that is a phrase. -/
def number? : Segment → Option Int
  | preposition _ => none
  | phrase index => some index

/-- The clusters that a ledger has for a segment. -/
def clusters (ledger : Ledger) : Segment → List Cluster
  | preposition _ => []
  | phrase index => ledger.ofPhrase index

/-- Whether a segment is a phrase that no noun fits: all of its clusters have lost their streak. -/
structure IsUnfit (ledger : Ledger) (segment : Segment) : Prop where
  isPhrase : segment.number?.isSome
  broken : ∀ cluster ∈ segment.clusters ledger, cluster.hasStreak = false

/-- The group that a segment becomes, if a noun fits it. -/
def group (ledger : Ledger) : Segment → Group
  | preposition word => .preposition word
  | phrase index => .nounPhrase ((ledger.ofPhrase index).filter Cluster.hasStreak)

variable {ledger : Ledger} {segment : Segment}

@[simp] theorem clusters_group :
    (segment.group ledger).clusters = (segment.clusters ledger).filter Cluster.hasStreak := by
  cases segment <;> rfl

@[simp] theorem preposition?_group :
    (segment.group ledger).preposition? = segment.preposition? := by
  cases segment <;> rfl

theorem mem_clusters {cluster : Cluster} : cluster ∈ segment.clusters ledger ↔
    cluster ∈ ledger.clusters ∧ segment.number? = some cluster.phrase := by
  cases segment with
  | preposition word => simp [clusters, number?]
  | phrase index => rw [clusters, Ledger.mem_ofPhrase, number?, Option.some_inj, eq_comm]

end Segment

namespace Weaver

/-! ### What stops the weaver -/

/-- A place is too much for the weaver just if it stands for two words that are not about nouns. -/
theorem take_eq_error_iff {catalog : Catalog} {weaver : Weaver} {group : AmbiguityGroup}
    {misreading : Misreading} : take catalog weaver group = .error misreading ↔
      ∃ first second others, group.filter (!·.isNounWord) = first :: second :: others ∧
        misreading = .ambiguousPreposition second.spelling := by
  constructor
  · intro h
    rw [take] at h
    split at h
    · rw [takePreposition] at h
      split at h
      · exact absurd h (by simp)
      · exact absurd h (by simp)
      · next first second others hfilter =>
        exact ⟨first, second, others, hfilter, (Except.error.inj h).symm⟩
    · exact absurd h (by simp)
  · rintro ⟨first, second, others, hfilter, rfl⟩
    have hfirst : first ∈ group.filter (!·.isNounWord) := hfilter ▸ List.mem_cons_self
    obtain ⟨hmem, hnoun⟩ := List.mem_filter.mp hfirst
    rw [take, if_pos (List.any_eq_true.mpr ⟨first, hmem, hnoun⟩), takePreposition, hfilter]

/-- A phrase that no noun fits is the only thing that is wrong with segments, and is told by its
place. -/
theorem exists_of_groupsFrom_eq_error {ledger : Ledger} {place : Nat} {segments : List Segment}
    {misreading : Misreading} (h : groupsFrom ledger place segments = .error misreading) :
    ∃ i segment, segments[i]? = some segment ∧ segment.IsUnfit ledger ∧
      misreading = .noConsistentNoun (place + i) := by
  induction segments generalizing place with
  | nil => exact absurd h (by simp [groupsFrom])
  | cons segment rest ih =>
    rw [groupsFrom] at h
    rcases bind_eq_error_iff.mp h with hgroup | ⟨group, -, h⟩
    · cases segment with
      | preposition word => exact absurd hgroup (by simp [group?])
      | phrase index =>
        rw [group?] at hgroup
        split at hgroup
        · next hnone =>
          -- no cluster survives because the streak of every one is broken
          have hbroken : ∀ c ∈ ledger.ofPhrase index, c.hasStreak = false := fun c hc =>
            Bool.eq_false_iff.mpr (List.filter_eq_nil_iff.mp hnone c hc)
          exact ⟨0, .phrase index, rfl, ⟨rfl, hbroken⟩, (Except.error.inj hgroup).symm⟩
        · exact absurd hgroup (by simp)
    · rcases bind_eq_error_iff.mp h with hrest | ⟨groups, -, h⟩
      · obtain ⟨i, unfit, hi, hunfit, rfl⟩ := ih hrest
        refine ⟨i + 1, unfit, hi, hunfit, ?_⟩
        rw [Nat.add_assoc, Nat.add_comm 1 i]
      · exact absurd h (by simp [pure, Except.pure])

theorem exists_eq_cons_cons {words : List Word} (h : 2 ≤ words.length) :
    ∃ first second others, words = first :: second :: others := by
  obtain ⟨first, tail, rfl⟩ := List.exists_cons_of_length_pos (Nat.lt_of_lt_of_le Nat.two_pos h)
  obtain ⟨second, others, rfl⟩ := List.exists_cons_of_length_pos (Nat.le_of_succ_le_succ h)
  exact ⟨first, second, others, rfl⟩

/-- **A preposition is ambiguous just if some place behind the verb stands for two words** that are
not about nouns. -/
theorem run_eq_ambiguousPreposition_iff {catalog : Catalog} {verbs : AmbiguityGroup}
    {rest : List AmbiguityGroup} :
    (∃ spelling, run catalog (verbs :: rest) = .error (.ambiguousPreposition spelling)) ↔
      ∃ group ∈ rest, 2 ≤ (group.filter (!·.isNounWord)).length := by
  constructor
  · rintro ⟨spelling, h⟩
    rw [run] at h
    -- it comes up while places are taken, for segments have only the other fault
    rcases bind_eq_error_iff.mp h with htake | ⟨weaver, -, h⟩
    · obtain ⟨weaver, group, hgroup, htake⟩ := exists_of_foldlM_eq_error htake
      obtain ⟨first, second, others, hfilter, -⟩ := take_eq_error_iff.mp htake
      refine ⟨group, hgroup, ?_⟩
      rw [hfilter, List.length_cons, List.length_cons]
      omega
    · rcases bind_eq_error_iff.mp h with hgroups | ⟨woven, -, h⟩
      · obtain ⟨_, _, -, -, hother⟩ := exists_of_groupsFrom_eq_error hgroups
        exact absurd hother (by simp)
      · exact absurd h (by simp [pure, Except.pure])
  · rintro ⟨group, hgroup, hlength⟩
    obtain ⟨first, second, others, hfilter⟩ := exists_eq_cons_cons hlength
    -- the place is refused whatever was taken before it, so the weaver does not come to its end
    cases htake : rest.foldlM (take catalog) {} with
    | ok weaver =>
      obtain ⟨before, after, hok⟩ := exists_of_foldlM_eq_ok htake group hgroup
      rw [take_eq_error_iff.mpr ⟨first, second, others, hfilter, rfl⟩] at hok
      exact absurd hok (by simp)
    | error misreading =>
      obtain ⟨before, place, -, herror⟩ := exists_of_foldlM_eq_error htake
      obtain ⟨_, other, _, -, rfl⟩ := take_eq_error_iff.mp herror
      refine ⟨other.spelling, ?_⟩
      rw [run, htake]
      rfl

/-! ### Where clusters stand -/

/-- The numbers of the closed phrases and of the open one. -/
def numbers (weaver : Weaver) : List Int :=
  weaver.closed.filterMap Segment.number? ++ [(weaver.phrase : Int)]

/-- What holds of a weaver that has taken some places. -/
structure Placed (taken : List AmbiguityGroup) (weaver : Weaver) : Prop where
  /-- The prepositions are those of the places, in their order. -/
  prepositions : weaver.closed.filterMap Segment.preposition? =
    taken.filterMap (List.find? fun word => !word.isNounWord)
  increasing : weaver.numbers.Pairwise (· < ·)
  /-- Every cluster is in one of the phrases. -/
  covered : ∀ cluster ∈ weaver.ledger.clusters, cluster.phrase ∈ weaver.numbers

variable {catalog : Catalog} {weaver : Weaver} {taken : List AmbiguityGroup}

theorem placed_empty : Placed [] {} where
  prepositions := rfl
  increasing := List.pairwise_singleton _ _
  covered := fun _ h => absurd h List.not_mem_nil

theorem segments_eq_or (weaver : Weaver) :
    weaver.openClusters = [] ∧ weaver.segments = weaver.closed ∨
      weaver.openClusters ≠ [] ∧ weaver.segments = weaver.closed ++ [.phrase weaver.phrase] := by
  rw [segments]
  split
  · next h => exact Or.inl ⟨List.isEmpty_iff.mp h, rfl⟩
  · next h => exact Or.inr ⟨fun hnil => h (List.isEmpty_iff.mpr hnil), rfl⟩

/-- The open phrase adds no preposition. -/
theorem filterMap_preposition?_segments (weaver : Weaver) :
    weaver.segments.filterMap Segment.preposition? =
      weaver.closed.filterMap Segment.preposition? := by
  rcases segments_eq_or weaver with ⟨-, heq⟩ | ⟨-, heq⟩
  · rw [heq]
  · rw [heq, List.filterMap_append]
    exact List.append_nil _

theorem filterMap_number?_segments_sublist (weaver : Weaver) :
    (weaver.segments.filterMap Segment.number?).Sublist weaver.numbers := by
  rcases segments_eq_or weaver with ⟨-, heq⟩ | ⟨-, heq⟩
  · rw [heq]
    exact List.sublist_append_left _ _
  · rw [heq, List.filterMap_append]
    exact List.Sublist.refl _

/-- The open phrase has the highest number. -/
theorem Placed.le_phrase (h : Placed taken weaver) {n : Int} (hn : n ∈ weaver.numbers) :
    n ≤ weaver.phrase := by
  rcases List.mem_append.mp hn with hn | hn
  · have hlt := (List.pairwise_append.mp h.increasing).2.2 n hn weaver.phrase (by simp)
    exact Int.le_of_lt hlt
  · exact Int.le_of_eq (List.mem_singleton.mp hn)

/-- Every cluster is in one of the segments. -/
theorem Placed.exists_mem_segments (h : Placed taken weaver) {cluster : Cluster}
    (hcluster : cluster ∈ weaver.ledger.clusters) :
    ∃ segment ∈ weaver.segments, cluster ∈ segment.clusters weaver.ledger := by
  rcases List.mem_append.mp (h.covered cluster hcluster) with hclosed | hopen
  · obtain ⟨segment, hsegment, hnumber⟩ := List.mem_filterMap.mp hclosed
    refine ⟨segment, ?_, Segment.mem_clusters.mpr ⟨hcluster, hnumber⟩⟩
    rcases segments_eq_or weaver with ⟨-, heq⟩ | ⟨-, heq⟩
    · exact heq ▸ hsegment
    · exact heq ▸ List.mem_append_left _ hsegment
  · -- a cluster of the open phrase keeps the phrase from being dropped
    have hphrase := List.mem_singleton.mp hopen
    have hmem : cluster ∈ weaver.openClusters := Ledger.mem_ofPhrase.mpr ⟨hcluster, hphrase⟩
    rcases segments_eq_or weaver with ⟨hnil, -⟩ | ⟨-, heq⟩
    · exact absurd hmem (hnil ▸ List.not_mem_nil)
    · exact ⟨.phrase weaver.phrase, heq ▸ List.mem_append_right _ List.mem_cons_self, hmem⟩

/-! ### One place -/

/-- Breaking a phrase counts its number up, also where the phrase is dropped. -/
theorem Placed.breakPhrase (h : Placed taken weaver) : Placed taken weaver.breakPhrase where
  prepositions := (filterMap_preposition?_segments weaver).trans h.prepositions
  increasing := by
    have hsub := filterMap_number?_segments_sublist weaver
    refine List.pairwise_append.mpr ⟨h.increasing.sublist hsub, List.pairwise_singleton _ _, ?_⟩
    intro n hn m hm
    obtain rfl := List.mem_singleton.mp hm
    have hle := h.le_phrase (hsub.subset hn)
    change n < ((weaver.phrase + 1 : Nat) : Int)
    omega
  covered := by
    intro cluster hcluster
    obtain ⟨segment, hsegment, hmem⟩ := h.exists_mem_segments hcluster
    have hnumber := (Segment.mem_clusters.mp hmem).2
    exact List.mem_append_left _ (List.mem_filterMap.mpr ⟨segment, hsegment, hnumber⟩)

/-- A group that holds no other word than such as are about nouns adds no preposition. -/
theorem Placed.concat_of_find?_eq_none (h : Placed taken weaver) {group : AmbiguityGroup}
    (hnone : group.find? (!·.isNounWord) = none) : Placed (taken ++ [group]) weaver where
  prepositions := by
    rw [List.filterMap_append, List.filterMap_cons_none hnone, List.filterMap_nil, List.append_nil]
    exact h.prepositions
  increasing := h.increasing
  covered := h.covered

/-- A preposition of a place stands behind everything that is closed, and has no number. -/
theorem Placed.concat_of_find?_eq_some (h : Placed taken weaver) {group : AmbiguityGroup}
    {word : Word} (hsome : group.find? (!·.isNounWord) = some word) :
    Placed (taken ++ [group])
      { weaver with closed := weaver.closed ++ [.preposition word] } := by
  have hnumbers : (weaver.closed ++ [Segment.preposition word]).filterMap Segment.number? =
      weaver.closed.filterMap Segment.number? := by
    rw [List.filterMap_append]
    exact List.append_nil _
  refine ⟨?_, ?_, ?_⟩
  · rw [List.filterMap_append, List.filterMap_append, h.prepositions,
      List.filterMap_cons_some hsome]
    rfl
  · rw [numbers, hnumbers]
    exact h.increasing
  · rw [numbers, hnumbers]
    exact h.covered

theorem Placed.takePreposition (h : Placed taken weaver) {group : AmbiguityGroup}
    {weaver' : Weaver} (htake : weaver.takePreposition group = .ok weaver') :
    Placed (taken ++ [group]) weaver' := by
  -- the first word that is not about a noun is the only one, or there is none
  have hfind : (group.filter (!·.isNounWord)).head? = group.find? (!·.isNounWord) :=
    List.head?_filter
  rw [Weaver.takePreposition] at htake
  split at htake
  · next hnil =>
    obtain rfl := Except.ok.inj htake
    rw [hnil, List.head?_nil] at hfind
    exact h.breakPhrase.concat_of_find?_eq_none hfind.symm
  · next word hword =>
    obtain rfl := Except.ok.inj htake
    rw [hword, List.head?_cons] at hfind
    exact h.breakPhrase.concat_of_find?_eq_some hfind.symm
  · exact absurd htake (by simp)

/-- Changing a cluster opens none but in its own phrase. -/
theorem forall_phrase_modify {ledger : Ledger} {profile : Profile} {phrase : Int}
    {change : Cluster → Cluster} (hkeeps : Cluster.Keeps change) {p : Int → Prop} (hp : p phrase)
    (h : ∀ cluster ∈ ledger.clusters, p cluster.phrase) :
    ∀ cluster ∈ (ledger.modify profile phrase change).clusters, p cluster.phrase := by
  have hopen : ∀ cluster ∈ (ledger.open profile phrase).clusters, p cluster.phrase := by
    rw [Ledger.open]
    split
    · exact h
    · intro cluster hcluster
      rcases List.mem_append.mp hcluster with hcluster | hcluster
      · exact h cluster hcluster
      · obtain rfl := List.mem_singleton.mp hcluster
        exact hp
  rw [Ledger.modify, List.forall_mem_map]
  intro cluster hcluster
  rw [(Ledger.keeps_modify hkeeps profile.key).phrase]
  exact hopen cluster hcluster

/-- Nor does changing several, one after another. -/
theorem forall_phrase_foldl_learn {word : Word} {phrase : Int} {streak : Nat} {p : Int → Prop}
    (hp : p phrase) (profiles : List Profile) {ledger : Ledger}
    (h : ∀ cluster ∈ ledger.clusters, p cluster.phrase) :
    ∀ cluster ∈ (profiles.foldl (fun ledger profile =>
      ledger.modify profile phrase (·.learn word streak)) ledger).clusters, p cluster.phrase := by
  induction profiles generalizing ledger with
  | nil => exact h
  | cons profile profiles ih =>
    exact ih (forall_phrase_modify (Cluster.keeps_learn word streak) hp h)

/-- Learning opens clusters in the open phrase only, which has a number. -/
theorem Placed.learn (h : Placed taken weaver) (word : Word) :
    Placed taken (weaver.learn word) where
  prepositions := h.prepositions
  increasing := h.increasing
  covered := by
    have hopen : (weaver.phrase : Int) ∈ weaver.numbers :=
      List.mem_append_right _ List.mem_cons_self
    exact forall_phrase_foldl_learn hopen weaver.tracked h.covered

theorem Placed.track (h : Placed taken weaver) (word : Word) :
    Placed taken (Weaver.track catalog weaver word) := by
  rw [Weaver.track]
  split
  · split
    · exact h
    · exact ⟨h.prepositions, h.increasing, h.covered⟩
  · exact h

theorem Placed.takeWords (h : Placed taken weaver) (words : List Word) :
    Placed taken (Weaver.takeWords catalog weaver words).1 := by
  induction words generalizing weaver with
  | nil => exact h
  | cons word rest ih => exact ih ((h.track word).learn word)

theorem Placed.takeNouns (h : Placed taken weaver) (group : AmbiguityGroup) :
    Placed taken (Weaver.takeNouns catalog weaver group) := by
  have htaken : Placed taken (Weaver.takeWords catalog weaver group).1 := h.takeWords group
  rw [Weaver.takeNouns]
  dsimp only
  split
  · exact Placed.breakPhrase ⟨htaken.prepositions, htaken.increasing, htaken.covered⟩
  · exact ⟨htaken.prepositions, htaken.increasing, htaken.covered⟩

/-- **One place keeps everything where it stands.** -/
theorem Placed.take (h : Placed taken weaver) {group : AmbiguityGroup} {weaver' : Weaver}
    (htake : Weaver.take catalog weaver group = .ok weaver') :
    Placed (taken ++ [group]) weaver' := by
  rw [Weaver.take] at htake
  split at htake
  · exact h.takePreposition htake
  · next hnouns =>
    obtain rfl := Except.ok.inj htake
    refine (h.takeNouns group).concat_of_find?_eq_none ?_
    rw [List.find?_eq_none]
    exact fun word hword hnoun => hnouns (List.any_eq_true.mpr ⟨word, hword, hnoun⟩)

/-- The places of a whole command, one after another. -/
theorem Placed.foldlM_take (h : Placed taken weaver) {rest : List AmbiguityGroup}
    {weaver' : Weaver} (htake : rest.foldlM (Weaver.take catalog) weaver = .ok weaver') :
    Placed (taken ++ rest) weaver' := by
  induction rest generalizing taken weaver with
  | nil =>
    obtain rfl := Except.ok.inj htake
    rwa [List.append_nil]
  | cons group rest ih =>
    rw [List.foldlM_cons] at htake
    obtain ⟨next, hnext, hrest⟩ := bind_eq_ok_iff.mp htake
    rw [List.append_cons]
    exact ih (h.take hnext) hrest

/-! ### The whole command -/

/-- The clusters of the command that have lost their streak. -/
def pruned (weaver : Weaver) : List Cluster :=
  weaver.segments.flatMap fun segment =>
    (segment.clusters weaver.ledger).filter fun cluster => !cluster.hasStreak

/-- Phrases that stand apart in the command have different numbers. -/
theorem Placed.pairwise_segments (h : Placed taken weaver) :
    weaver.segments.Pairwise fun s s' => ∀ c ∈ s.clusters weaver.ledger,
      ∀ c' ∈ s'.clusters weaver.ledger, c.phrase < c'.phrase := by
  have hnumbers := h.increasing.sublist (filterMap_number?_segments_sublist weaver)
  refine (List.pairwise_filterMap.mp hnumbers).imp fun hlt c hc c' hc' => ?_
  exact hlt _ (Segment.mem_clusters.mp hc).2 _ (Segment.mem_clusters.mp hc').2

/-- **The segments share the clusters of the ledger out among them.** -/
theorem Placed.perm_clusters (h : Placed taken weaver) (horder : InOrder catalog weaver) :
    weaver.ledger.clusters.Perm
      (weaver.segments.flatMap (Segment.clusters weaver.ledger)) := by
  have hnodup : weaver.ledger.clusters.Nodup := horder.keyed.unique.of_map
  have hshared : (weaver.segments.flatMap (Segment.clusters weaver.ledger)).Nodup := by
    refine List.nodup_flatMap.mpr ⟨fun segment _ => ?_, h.pairwise_segments.imp ?_⟩
    · cases segment with
      | preposition word => exact List.nodup_nil
      | phrase index => exact hnodup.filter _
    · intro s s' hlt cluster hs hs'
      exact absurd (hlt cluster hs cluster hs') (Int.lt_irrefl _)
  rw [List.perm_ext_iff_of_nodup hnodup hshared]
  intro cluster
  rw [List.mem_flatMap]
  refine ⟨h.exists_mem_segments, fun ⟨segment, _, hmem⟩ => ?_⟩
  exact (Segment.mem_clusters.mp hmem).1

/-- The groups of segments, if a noun fits every phrase. -/
theorem groupsFrom_eq_ok {ledger : Ledger} {place : Nat} {segments : List Segment}
    {groups : List Group} (h : groupsFrom ledger place segments = .ok groups) :
    groups = segments.map (Segment.group ledger) ∧
      ∀ clusters, .nounPhrase clusters ∈ groups → clusters ≠ [] := by
  induction segments generalizing place groups with
  | nil =>
    obtain rfl := Except.ok.inj h
    exact ⟨rfl, fun _ hmem => absurd hmem List.not_mem_nil⟩
  | cons segment rest ih =>
    rw [groupsFrom] at h
    obtain ⟨group, hgroup, h⟩ := bind_eq_ok_iff.mp h
    obtain ⟨others, hothers, h⟩ := bind_eq_ok_iff.mp h
    obtain rfl := Except.ok.inj h
    obtain ⟨rfl, hne⟩ := ih hothers
    -- a phrase that no cluster survives would have failed, so a phrase that is given is not empty
    have hfirst : group = segment.group ledger ∧ group ≠ .nounPhrase [] := by
      cases segment with
      | preposition word =>
        obtain rfl := Except.ok.inj hgroup
        exact ⟨rfl, by simp⟩
      | phrase index =>
        rw [group?] at hgroup
        split at hgroup
        · exact absurd hgroup (by simp)
        · next hsurviving =>
          obtain rfl := Except.ok.inj hgroup
          exact ⟨rfl, fun hnil => hsurviving (Group.nounPhrase.inj hnil)⟩
    obtain ⟨rfl, hfirst⟩ := hfirst
    refine ⟨rfl, fun clusters hmem => ?_⟩
    rcases List.mem_cons.mp hmem with heq | hmem
    · rintro rfl
      exact hfirst heq.symm
    · exact hne clusters hmem

/-- The shape of a command that was woven from a verb and the places behind it, by a weaver as it
was left. -/
structure IsWoven (verbs : AmbiguityGroup) (rest : List AmbiguityGroup) (weaver : Weaver)
    (groups : List Group) : Prop where
  /-- The verb comes first, and there is no other one. -/
  verb_first : ∃ others, groups = .verb verbs :: others ∧ ∀ words, .verb words ∉ others
  /-- Every place with a word that is not about a noun gives a preposition, which is this word. -/
  prepositions : groups.filterMap Group.preposition? =
    rest.filterMap (List.find? fun word => !word.isNounWord)
  /-- A noun phrase has clusters, of one phrase and of different nouns, and every mark is set. -/
  phrases : ∀ clusters, .nounPhrase clusters ∈ groups → clusters ≠ [] ∧
    (∀ c ∈ clusters, ∀ mark ∈ c.marks, mark = true) ∧ (clusters.map Cluster.key).Nodup ∧
    ∃ number, ∀ c ∈ clusters, c.phrase = number
  /-- Phrases are numbered in the order in which they stand. -/
  increasing : groups.Pairwise fun g g' =>
    ∀ c ∈ g.clusters, ∀ c' ∈ g'.clusters, c.phrase < c'.phrase
  /-- No two clusters are about the same noun in the same phrase. -/
  unique : ((groups.flatMap Group.clusters).map Cluster.about).Nodup
  /-- Every cluster of the ledger survives in one group, or is pruned from it. -/
  shared : weaver.ledger.clusters.Perm (groups.flatMap Group.clusters ++ weaver.pruned)

theorem IsWoven.size_eq {verbs : AmbiguityGroup} {rest : List AmbiguityGroup} {groups : List Group}
    (h : IsWoven verbs rest weaver groups) :
    weaver.ledger.size = (groups.flatMap Group.clusters).length + weaver.pruned.length := by
  rw [Ledger.size, h.shared.length_eq, List.length_append]

/-- The verb has no clusters, so the clusters of the command are what survives of the segments. -/
theorem flatMap_clusters_groups (weaver : Weaver) (verbs : AmbiguityGroup) :
    (Group.verb verbs :: weaver.segments.map (Segment.group weaver.ledger)).flatMap
        Group.clusters =
      weaver.segments.flatMap fun segment =>
        (segment.clusters weaver.ledger).filter Cluster.hasStreak := by
  rw [List.flatMap_cons, List.flatMap_map]
  exact (List.nil_append _).trans (List.flatMap_congr fun _ _ => Segment.clusters_group)

/-- **Every cluster survives in the command or is pruned from it.** -/
theorem Placed.perm_groups_append_pruned (h : Placed taken weaver) (horder : InOrder catalog weaver)
    (verbs : AmbiguityGroup) :
    weaver.ledger.clusters.Perm ((Group.verb verbs :: weaver.segments.map
      (Segment.group weaver.ledger)).flatMap Group.clusters ++ weaver.pruned) := by
  have hsplit := List.filter_append_perm Cluster.hasStreak
    (weaver.segments.flatMap (Segment.clusters weaver.ledger))
  rw [List.filter_flatMap, List.filter_flatMap] at hsplit
  rw [flatMap_clusters_groups]
  exact (h.perm_clusters horder).trans hsplit.symm

/-- A noun phrase among the groups of segments is what survives of a phrase of the ledger. -/
theorem exists_eq_filter_ofPhrase {ledger : Ledger} {segments : List Segment}
    {clusters : List Cluster}
    (hmem : Group.nounPhrase clusters ∈ segments.map (Segment.group ledger)) :
    ∃ index : Nat, clusters = (ledger.ofPhrase index).filter Cluster.hasStreak := by
  obtain ⟨segment, -, hgroup⟩ := List.mem_map.mp hmem
  cases segment with
  | preposition word => exact absurd hgroup (by simp [Segment.group])
  | phrase index => exact ⟨index, (Group.nounPhrase.inj hgroup).symm⟩

theorem Placed.isWoven {rest : List AmbiguityGroup} (h : Placed rest weaver)
    (horder : InOrder catalog weaver) (verbs : AmbiguityGroup) {groups : List Group}
    (hgroups : groupsFrom weaver.ledger 1 weaver.segments = .ok groups) :
    IsWoven verbs rest weaver (.verb verbs :: groups) := by
  obtain ⟨rfl, hne⟩ := groupsFrom_eq_ok hgroups
  have hshared := h.perm_groups_append_pruned horder verbs
  constructor
  case verb_first =>
    refine ⟨_, rfl, fun words hmem => ?_⟩
    obtain ⟨segment, -, hgroup⟩ := List.mem_map.mp hmem
    cases segment <;> exact absurd hgroup (by simp [Segment.group])
  case prepositions =>
    -- the verb is no preposition, and segments keep theirs
    have heach : Group.preposition? ∘ Segment.group weaver.ledger = Segment.preposition? :=
      funext fun _ => Segment.preposition?_group
    rw [List.filterMap_cons_none rfl, List.filterMap_map, heach, filterMap_preposition?_segments,
      h.prepositions]
  case phrases =>
    intro clusters hmem
    rcases List.mem_cons.mp hmem with heq | hmem
    · exact absurd heq (by simp)
    obtain ⟨index, rfl⟩ := exists_eq_filter_ofPhrase hmem
    refine ⟨hne _ hmem, fun c hc mark hmark => ?_, ?_, index, fun c hc => ?_⟩
    · exact List.all_eq_true.mp (List.mem_filter.mp hc).2 mark hmark
    · exact (horder.keyed.nodup_keys index).sublist (List.filter_sublist.map Cluster.key)
    · exact (Ledger.mem_ofPhrase.mp (List.mem_of_mem_filter hc)).2
  case increasing =>
    refine List.pairwise_cons.mpr ⟨fun _ _ c hc => absurd hc List.not_mem_nil, ?_⟩
    refine List.pairwise_map.mpr (h.pairwise_segments.imp fun hlt c hc c' hc' => ?_)
    rw [Segment.clusters_group] at hc hc'
    exact hlt c (List.mem_of_mem_filter hc) c' (List.mem_of_mem_filter hc')
  case unique =>
    have hunique := (hshared.map Cluster.about).nodup_iff.mp horder.keyed.unique
    rw [List.map_append] at hunique
    exact (List.nodup_append.mp hunique).1
  case shared => exact hshared

/-- Once all places are taken, what is left to do is to turn segments into groups. -/
theorem run_of_foldlM_eq_ok {verbs : AmbiguityGroup} {rest : List AmbiguityGroup}
    (htake : rest.foldlM (take catalog) {} = .ok weaver) :
    run catalog (verbs :: rest) = (groupsFrom weaver.ledger 1 weaver.segments).map
      fun groups => (weaver, .verb verbs :: groups) := by
  rw [run, htake]
  rfl

/-- **What weaving comes to.** It ends in an ambiguous preposition if and only if some place behind
the verb stands for two words that are not about nouns. Otherwise all places are taken. Then a
phrase that no noun fits is reported by its place, or the command has its shape, and every cluster
of the ledger survives or is pruned. -/
theorem run_isWoven (catalog : Catalog) (verbs : AmbiguityGroup) (rest : List AmbiguityGroup) :
    ((∃ spelling, run catalog (verbs :: rest) = .error (.ambiguousPreposition spelling)) ↔
      ∃ group ∈ rest, 2 ≤ (group.filter (!·.isNounWord)).length) ∧
    ((∃ spelling, run catalog (verbs :: rest) = .error (.ambiguousPreposition spelling)) ∨
      (∃ weaver i segment, rest.foldlM (take catalog) {} = .ok weaver ∧
        weaver.segments[i]? = some segment ∧ segment.IsUnfit weaver.ledger ∧
        run catalog (verbs :: rest) = .error (.noConsistentNoun (1 + i))) ∨
      ∃ weaver groups, run catalog (verbs :: rest) = .ok (weaver, groups) ∧
        IsWoven verbs rest weaver groups ∧
        weaver.ledger.size = (groups.flatMap Group.clusters).length + weaver.pruned.length) := by
  refine ⟨run_eq_ambiguousPreposition_iff, ?_⟩
  cases htake : rest.foldlM (take catalog) {} with
  | error misreading =>
    -- no place fails but by an ambiguous preposition
    obtain ⟨before, place, -, herror⟩ := exists_of_foldlM_eq_error htake
    obtain ⟨_, second, _, -, rfl⟩ := take_eq_error_iff.mp herror
    refine Or.inl ⟨second.spelling, ?_⟩
    rw [run, htake]
    rfl
  | ok weaver =>
    have hplaced : Placed rest weaver := placed_empty.foldlM_take htake
    have horder : InOrder catalog weaver := (inOrder_empty catalog).foldlM_take htake
    rw [run_of_foldlM_eq_ok htake]
    cases hgroups : groupsFrom weaver.ledger 1 weaver.segments with
    | error misreading =>
      obtain ⟨i, segment, hi, hunfit, rfl⟩ := exists_of_groupsFrom_eq_error hgroups
      exact Or.inr (Or.inl ⟨weaver, i, segment, rfl, hi, hunfit, rfl⟩)
    | ok groups =>
      have hwoven := hplaced.isWoven horder verbs hgroups
      exact Or.inr (Or.inr ⟨weaver, .verb verbs :: groups, rfl, hwoven, hwoven.size_eq⟩)

end Weaver

end CommandPrompt
