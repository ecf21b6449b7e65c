import CommandPrompt.Proofs.Phrase.Woven
import Mathlib.Data.List.DropRight

/-!
# Weaving entry by entry

A weaver tells the phrases of a command by their numbers, and finds the clusters of a phrase in the
ledger. Here the command is written down while it is woven (`Loom`). It is a row of entries, the
first of which has the words of the verb. Everything else is put into the last entry: a preposition,
or every cluster of the open phrase as soon as its noun learns a word. A new entry is begun where a
phrase is broken and behind a preposition, unless the last entry is still empty.

The two weave alike. What a weaver has come to can be written down (`Weaver.loom`), and every step
of a loom takes what is written down to what is written down (`Weaver.Placed.loom_take`), or fails
with the same misreading. The steps agree because numbers tell phrases apart: a cluster is only put
into the entry of the open phrase, and no cluster has the number of a phrase that is not open yet.

At the end the entries are read off one by one, where an item stands for the one cluster that is
about the same. Only the last entry can be empty (`Loom.nil_not_mem_between`), and it is dropped
then as an empty phrase is. So the commands are the same, too (`Weaver.loom_weave_eq`).
-/

namespace CommandPrompt

/-! ### Looms -/

/-- What stands in an entry: a word, or a cluster of the ledger, by what it is about. -/
inductive Item where
  | word (word : Word)
  | cluster (about : Int × Int)
  deriving DecidableEq, Repr

/-- A weaver that writes its command down. -/
structure Loom where
  ledger : Ledger := {}
  /-- The number of the open phrase. -/
  phrase : Nat := 0
  /-- How many words the open phrase has had. -/
  streak : Nat := 0
  /-- The nouns tracked in the open phrase. -/
  tracked : List Profile := []
  /-- The words of the verb, which are the first entry. -/
  verbs : AmbiguityGroup
  /-- The entries between the first and the last one. -/
  between : List (List Item) := []
  /-- The last entry. -/
  last : List Item := []
  deriving DecidableEq, Repr

namespace Loom

/-- Begins an entry, unless the last one is empty. -/
def openEntry (loom : Loom) : Loom :=
  if loom.last.isEmpty then loom
  else { loom with between := loom.between ++ [loom.last], last := [] }

/-- Closes the open phrase and opens the next one. -/
def breakPhrase (loom : Loom) : Loom :=
  openEntry { loom with phrase := loom.phrase + 1, streak := 0, tracked := [] }

/-- Puts a word that is not about a noun into an entry, which has room for one. -/
def putWord (entry : List Item) (word : Word) : Except Misreading (List Item) :=
  if word.isNounWord then .ok entry
  else if entry.isEmpty then .ok (entry ++ [.word word])
  else .error (.ambiguousPreposition word.spelling)

/-- Takes a group in which a preposition, or another word that is not about nouns, was found. -/
def takePreposition (loom : Loom) (group : AmbiguityGroup) : Except Misreading Loom := do
  let loom := loom.breakPhrase
  let last ← group.foldlM putWord loom.last
  return openEntry { loom with last }

/-- The tracked nouns with the noun that a word is about. -/
def track (catalog : Catalog) (loom : Loom) (word : Word) : Loom :=
  match catalog.profileFor? word with
  | some profile =>
    if loom.tracked.any (·.key == profile.key) then loom
    else { loom with tracked := loom.tracked ++ [profile] }
  | none => loom

/-- Puts an item into an entry, unless it is there. -/
def putItem (entry : List Item) (item : Item) : List Item :=
  if item ∈ entry then entry else entry ++ [item]

/-- A tracked noun learns from a word. Its cluster is put into the last entry. -/
def teach (word : Word) (loom : Loom) (profile : Profile) : Loom :=
  { loom with
    ledger := loom.ledger.modify profile loom.phrase (·.learn word loom.streak)
    last := putItem loom.last (.cluster (profile.key, loom.phrase)) }

/-- Every tracked noun learns from a word, one after another. -/
def learn (loom : Loom) (word : Word) : Loom := loom.tracked.foldl (teach word) loom

/-- Tracks the nouns of the words and has the tracked nouns learn, word by word; also tells whether
a word was a name of a noun that was tracked when the word came. -/
def takeWords (catalog : Catalog) (loom : Loom) : List Word → Loom × Bool
  | [] => (loom, false)
  | word :: rest =>
    let loom := track catalog loom word
    let named := loom.tracked.any (·.isNamedBy word)
    let (loom, found) := takeWords catalog (loom.learn word) rest
    (loom, named || found)

/-- Takes a group of words that are all about nouns. -/
def takeNouns (catalog : Catalog) (loom : Loom) (group : AmbiguityGroup) : Loom :=
  let (loom, named) := takeWords catalog loom group
  let loom := { loom with streak := loom.streak + 1 }
  if named then loom.breakPhrase else loom

/-- Takes one group behind the verb. -/
def take (catalog : Catalog) (loom : Loom) (group : AmbiguityGroup) : Except Misreading Loom :=
  if group.any (!·.isNounWord) then loom.takePreposition group
  else .ok (takeNouns catalog loom group)

/-- The cluster that an item stands for, if it has a streak. -/
def surviving? (ledger : Ledger) : Item → Option Cluster
  | .word _ => none
  | .cluster (key, phrase) => (ledger.get? key phrase).filter Cluster.hasStreak

/-- The group that an entry becomes. -/
def group? (ledger : Ledger) (place : Nat) : List Item → Except Misreading Group
  | .word word :: _ => .ok (.preposition word)
  | entry =>
    match entry.filterMap (surviving? ledger) with
    | [] => .error (.noConsistentNoun place)
    | surviving => .ok (.nounPhrase surviving)

/-- The groups of entries, the first of which stands at the given place. -/
def groupsFrom (ledger : Ledger) (place : Nat) : List (List Item) → Except Misreading (List Group)
  | [] => .ok []
  | entry :: rest => do
    let group ← group? ledger place entry
    let groups ← groupsFrom ledger (place + 1) rest
    return group :: groups

/-- The entries behind the verb without the empty ones at their end. -/
def entries (loom : Loom) : List (List Item) :=
  (loom.between ++ [loom.last]).rdropWhile List.isEmpty

/-- Weaves groups of words into a command. -/
def weave (catalog : Catalog) : List AmbiguityGroup → Except Misreading (List Group)
  | [] => .ok [.verb []]
  | verbs :: rest => do
    let loom ← rest.foldlM (take catalog) { verbs }
    let groups ← groupsFrom loom.ledger 1 loom.entries
    return .verb loom.verbs :: groups

/-! ### Entries that are done -/

theorem openEntry_of_nil {loom : Loom} (h : loom.last = []) : loom.openEntry = loom := by
  rw [openEntry, h, if_pos List.isEmpty_nil]

theorem openEntry_of_ne_nil {loom : Loom} (h : loom.last ≠ []) : loom.openEntry =
    { loom with between := loom.between ++ [loom.last], last := [] } := by
  rw [openEntry, if_neg (by rwa [List.isEmpty_iff])]

theorem openEntry_word {loom : Loom} (word : Word) (h : loom.last = []) :
    openEntry { loom with last := [.word word] } =
      { loom with between := loom.between ++ [[.word word]] } := by
  rw [openEntry_of_ne_nil (List.cons_ne_nil _ _), ← h]

theorem breakPhrase_of_nil {loom : Loom} (h : loom.last = []) : loom.breakPhrase =
    { loom with phrase := loom.phrase + 1, streak := 0, tracked := [] } :=
  openEntry_of_nil h

theorem breakPhrase_of_ne_nil {loom : Loom} (h : loom.last ≠ []) : loom.breakPhrase =
    { loom with
      phrase := loom.phrase + 1
      streak := 0
      tracked := []
      between := loom.between ++ [loom.last]
      last := [] } :=
  openEntry_of_ne_nil h

/-- An entry is left behind only if it holds something. -/
theorem nil_not_mem_between_openEntry {loom : Loom} (h : [] ∉ loom.between) :
    [] ∉ loom.openEntry.between := by
  by_cases hlast : loom.last = []
  · rwa [openEntry_of_nil hlast]
  · rw [openEntry_of_ne_nil hlast]
    intro hmem
    rcases List.mem_append.mp hmem with hmem | hmem
    · exact h hmem
    · exact hlast (List.mem_singleton.mp hmem).symm

theorem between_track (catalog : Catalog) (loom : Loom) (word : Word) :
    (track catalog loom word).between = loom.between := by
  rw [track]
  split
  · split <;> rfl
  · rfl

theorem between_learn (loom : Loom) (word : Word) : (loom.learn word).between = loom.between := by
  suffices hfold : ∀ (profiles : List Profile) (loom : Loom),
      (profiles.foldl (teach word) loom).between = loom.between from hfold loom.tracked loom
  intro profiles
  induction profiles with
  | nil => exact fun _ => rfl
  | cons profile profiles ih => exact fun loom => ih (teach word loom profile)

theorem between_takeWords (catalog : Catalog) (loom : Loom) (words : List Word) :
    (takeWords catalog loom words).1.between = loom.between := by
  induction words generalizing loom with
  | nil => rfl
  | cons word rest ih => exact (ih _).trans ((between_learn _ word).trans (between_track _ _ word))

theorem nil_not_mem_between_take {catalog : Catalog} {loom loom' : Loom} {group : AmbiguityGroup}
    (h : [] ∉ loom.between) (htake : take catalog loom group = .ok loom') :
    [] ∉ loom'.between := by
  rw [take] at htake
  split at htake
  · -- whatever is put into the last entry, only beginning a new one leaves it behind
    obtain ⟨last, -, hloom⟩ := bind_eq_ok_iff.mp htake
    obtain rfl := Except.ok.inj hloom
    exact nil_not_mem_between_openEntry (nil_not_mem_between_openEntry h)
  · obtain rfl := Except.ok.inj htake
    have hwords : [] ∉ (takeWords catalog loom group).1.between := by
      rwa [between_takeWords]
    rw [takeNouns]
    dsimp only
    split
    · exact nil_not_mem_between_openEntry hwords
    · exact hwords

/-- **Only the last entry can be empty**, however many groups were taken. -/
theorem nil_not_mem_between {catalog : Catalog} {verbs : AmbiguityGroup}
    {groups : List AmbiguityGroup} {loom : Loom}
    (htake : groups.foldlM (take catalog) { verbs } = .ok loom) : [] ∉ loom.between := by
  have hstep : ∀ loom loom' : Loom, [] ∉ loom.between → ∀ group ∈ groups,
      take catalog loom group = .ok loom' → [] ∉ loom'.between :=
    fun _ _ h _ _ htake => nil_not_mem_between_take h htake
  exact invariant_of_foldlM_eq_ok hstep List.not_mem_nil htake

end Loom

/-! ### Writing a command down -/

/-- The item that a cluster is in an entry. -/
def Cluster.item (cluster : Cluster) : Item := .cluster cluster.about

/-- The entry that a segment makes. -/
def Segment.entry (ledger : Ledger) : Segment → List Item
  | preposition word => [.word word]
  | phrase index => (ledger.ofPhrase index).map Cluster.item

/-- What a weaver has come to, written down behind a verb. -/
def Weaver.loom (verbs : AmbiguityGroup) (weaver : Weaver) : Loom where
  ledger := weaver.ledger
  phrase := weaver.phrase
  streak := weaver.streak
  tracked := weaver.tracked
  verbs := verbs
  between := weaver.closed.map (Segment.entry weaver.ledger)
  last := weaver.openClusters.map Cluster.item

/-! ### Items -/

section Items

variable {ledger : Ledger} {profile : Profile} {phrase : Int}

theorem Ledger.item_mem_iff_any_isAbout : Item.cluster (profile.key, phrase) ∈
    (ledger.ofPhrase phrase).map Cluster.item ↔
      ledger.clusters.any (Ledger.isAbout profile.key phrase) = true := by
  rw [List.mem_map, List.any_eq_true]
  constructor
  · rintro ⟨cluster, hcluster, hitem⟩
    exact ⟨cluster, (Ledger.mem_ofPhrase.mp hcluster).1,
      Ledger.isAbout_iff_about.mpr (Item.cluster.inj hitem)⟩
  · rintro ⟨cluster, hcluster, habout⟩
    refine ⟨cluster, Ledger.mem_ofPhrase.mpr ⟨hcluster, (Ledger.isAbout_iff.mp habout).2⟩, ?_⟩
    rw [Cluster.item, Ledger.isAbout_iff_about.mp habout]

/-- Opening a cluster puts it into the entry of its phrase. -/
theorem Ledger.map_item_ofPhrase_open :
    ((ledger.open profile phrase).ofPhrase phrase).map Cluster.item =
      Loom.putItem ((ledger.ofPhrase phrase).map Cluster.item)
        (.cluster (profile.key, phrase)) := by
  rw [Loom.putItem, Ledger.open]
  by_cases hany : ledger.clusters.any (Ledger.isAbout profile.key phrase) = true
  · rw [if_pos hany, if_pos (Ledger.item_mem_iff_any_isAbout.mpr hany)]
  · -- a new cluster stands behind all others, and so it does in its phrase
    have hopened : Ledger.ofPhrase ⟨[{ profile := profile, phrase := phrase }]⟩ phrase =
        [{ profile := profile, phrase := phrase }] :=
      List.filter_cons_of_pos (beq_self_eq_true phrase)
    rw [if_neg hany, if_neg (mt Ledger.item_mem_iff_any_isAbout.mp hany), Ledger.ofPhrase,
      List.filter_append, List.map_append]
    exact congrArg (_ ++ List.map Cluster.item ·) hopened

/-- So does changing it. -/
theorem Ledger.map_item_ofPhrase_modify {change : Cluster → Cluster}
    (hkeeps : Cluster.Keeps change) :
    ((ledger.modify profile phrase change).ofPhrase phrase).map Cluster.item =
      Loom.putItem ((ledger.ofPhrase phrase).map Cluster.item)
        (.cluster (profile.key, phrase)) := by
  rw [Ledger.ofPhrase_modify hkeeps.phrase, List.map_map, ← Ledger.map_item_ofPhrase_open]
  refine List.map_congr_left fun cluster _ => ?_
  rw [Function.comp_apply, Cluster.item, (Ledger.keeps_modify hkeeps profile.key).about]
  rfl

/-- The entries of other phrases stay as they are. -/
theorem Segment.entry_modify {change : Cluster → Cluster} (hkeeps : Cluster.Keeps change)
    {segment : Segment} (hne : segment.number? ≠ some phrase) :
    segment.entry (ledger.modify profile phrase change) = segment.entry ledger := by
  cases segment with
  | preposition word => rfl
  | phrase index =>
    have hindex : (index : Int) ≠ phrase := fun heq => hne (congrArg some heq)
    rw [entry, entry, Ledger.ofPhrase_modify_of_ne hkeeps.phrase ledger profile hindex]

end Items

namespace Weaver

variable {catalog : Catalog} {weaver : Weaver} {taken : List AmbiguityGroup}
  {verbs : AmbiguityGroup}

/-! ### One word -/

/-- No closed phrase has the number of the open one. -/
theorem Placed.number?_ne (h : Placed taken weaver) {segment : Segment}
    (hsegment : segment ∈ weaver.closed) : segment.number? ≠ some (weaver.phrase : Int) := by
  intro hnumber
  have hlt := (List.pairwise_append.mp h.increasing).2.2 weaver.phrase
    (List.mem_filterMap.mpr ⟨segment, hsegment, hnumber⟩) weaver.phrase List.mem_cons_self
  exact Int.lt_irrefl _ hlt

theorem loom_track (word : Word) :
    Loom.track catalog (weaver.loom verbs) word = (track catalog weaver word).loom verbs := by
  rw [Loom.track, track]
  cases catalog.profileFor? word with
  | none => rfl
  | some profile =>
    dsimp only
    rw [apply_ite (loom verbs)]
    rfl

theorem Placed.loom_teach (h : Placed taken weaver) (word : Word) (ledger : Ledger)
    (profile : Profile) :
    Loom.teach word ({ weaver with ledger }.loom verbs) profile =
      { weaver with
        ledger :=
          ledger.modify profile weaver.phrase (·.learn word weaver.streak) }.loom verbs := by
  have hkeeps := Cluster.keeps_learn word weaver.streak
  have hbetween : weaver.closed.map (Segment.entry ledger) = weaver.closed.map
      (Segment.entry (ledger.modify profile weaver.phrase (·.learn word weaver.streak))) :=
    List.map_congr_left fun segment hsegment =>
      (Segment.entry_modify hkeeps (h.number?_ne hsegment)).symm
  simp only [Loom.teach, loom, openClusters, Ledger.map_item_ofPhrase_modify hkeeps, hbetween]

theorem Placed.loom_learn (h : Placed taken weaver) (word : Word) :
    (weaver.loom verbs).learn word = (weaver.learn word).loom verbs := by
  -- the fold begins with any ledger, because every tracked noun changes it for those that follow
  suffices hfold : ∀ (profiles : List Profile) (ledger : Ledger),
      profiles.foldl (Loom.teach word) ({ weaver with ledger }.loom verbs) =
        { weaver with
          ledger := profiles.foldl (fun ledger profile => ledger.modify profile weaver.phrase
            (·.learn word weaver.streak)) ledger }.loom verbs from
    hfold weaver.tracked weaver.ledger
  intro profiles
  induction profiles with
  | nil => exact fun _ => rfl
  | cons profile profiles ih =>
    intro ledger
    rw [List.foldl_cons, h.loom_teach, ih]
    rfl

theorem Placed.loom_takeWords (h : Placed taken weaver) (words : List Word) :
    Loom.takeWords catalog (weaver.loom verbs) words =
      ((Weaver.takeWords catalog weaver words).1.loom verbs,
        (Weaver.takeWords catalog weaver words).2) := by
  induction words generalizing weaver with
  | nil => rfl
  | cons word rest ih =>
    have htracked : Placed taken (Weaver.track catalog weaver word) := h.track word
    rw [Loom.takeWords, loom_track, htracked.loom_learn, ih (htracked.learn word)]
    rfl

/-! ### One place -/

/-- No cluster is in a phrase that is not open yet. -/
theorem Placed.ofPhrase_succ (h : Placed taken weaver) :
    weaver.ledger.ofPhrase (weaver.phrase + 1 : Nat) = [] := by
  rw [List.eq_nil_iff_forall_not_mem]
  intro cluster hmem
  obtain ⟨hcluster, hphrase⟩ := Ledger.mem_ofPhrase.mp hmem
  have hle := h.le_phrase (h.covered cluster hcluster)
  omega

/-- A preposition that is closed has an entry of its own. -/
theorem loom_concat_preposition (word : Word) :
    { weaver with closed := weaver.closed ++ [Segment.preposition word] }.loom verbs =
      { weaver.loom verbs with between := (weaver.loom verbs).between ++ [[.word word]] } := by
  rw [loom, List.map_append]
  rfl

theorem Placed.loom_breakPhrase (h : Placed taken weaver) :
    (weaver.loom verbs).breakPhrase = weaver.breakPhrase.loom verbs := by
  have hbreak : weaver.breakPhrase.loom verbs =
      { ledger := weaver.ledger
        phrase := weaver.phrase + 1
        verbs := verbs
        between := weaver.segments.map (Segment.entry weaver.ledger) } := by
    have hnext : weaver.breakPhrase.openClusters = [] := h.ofPhrase_succ
    rw [loom, hnext]
    rfl
  -- the last entry is left behind just where the open phrase is not dropped
  rw [hbreak]
  rcases segments_eq_or weaver with ⟨hnil, hsegments⟩ | ⟨hne, hsegments⟩
  · have hlast : (weaver.loom verbs).last = [] := congrArg (List.map Cluster.item) hnil
    rw [Loom.breakPhrase_of_nil hlast, hlast, hsegments]
    rfl
  · have hlast : (weaver.loom verbs).last ≠ [] := fun heq => hne (List.map_eq_nil_iff.mp heq)
    rw [Loom.breakPhrase_of_ne_nil hlast, hsegments, List.map_append]
    rfl

/-- An entry that has something has no room for a word. -/
theorem foldlM_putWord_of_ne_nil {entry : List Item} (hentry : entry ≠ [])
    (group : AmbiguityGroup) : group.foldlM Loom.putWord entry =
      match group.filter (!·.isNounWord) with
      | [] => .ok entry
      | word :: _ => .error (.ambiguousPreposition word.spelling) := by
  induction group with
  | nil => rfl
  | cons word group ih =>
    rw [List.foldlM_cons, Loom.putWord]
    by_cases hnoun : word.isNounWord = true
    · rw [if_pos hnoun, List.filter_cons_of_neg (by simp [hnoun])]
      exact ih
    · rw [if_neg hnoun, if_neg (by simpa using hentry),
        List.filter_cons_of_pos (by simpa using hnoun)]
      rfl

theorem foldlM_putWord_nil (group : AmbiguityGroup) : group.foldlM Loom.putWord [] =
    match group.filter (!·.isNounWord) with
    | [] => .ok []
    | [word] => .ok [.word word]
    | _ :: second :: _ => .error (.ambiguousPreposition second.spelling) := by
  induction group with
  | nil => rfl
  | cons word group ih =>
    rw [List.foldlM_cons, Loom.putWord]
    by_cases hnoun : word.isNounWord = true
    · rw [if_pos hnoun, List.filter_cons_of_neg (by simp [hnoun])]
      exact ih
    · rw [if_neg hnoun, List.filter_cons_of_pos (by simpa using hnoun)]
      -- the first such word takes up the entry, so the next one fails
      change group.foldlM Loom.putWord [.word word] = _
      rw [foldlM_putWord_of_ne_nil (List.cons_ne_nil _ _)]
      split <;> rename_i heq <;> rw [heq]

theorem Placed.loom_takePreposition (h : Placed taken weaver) (group : AmbiguityGroup) :
    (weaver.loom verbs).takePreposition group =
      (weaver.takePreposition group).map (loom verbs) := by
  have hnext : weaver.breakPhrase.openClusters = [] := h.ofPhrase_succ
  have hlast : (weaver.breakPhrase.loom verbs).last = [] := List.map_eq_nil_iff.mpr hnext
  rw [Loom.takePreposition, h.loom_breakPhrase, Weaver.takePreposition, hlast, foldlM_putWord_nil]
  generalize group.filter (!·.isNounWord) = words
  rcases words with _ | ⟨word, _ | ⟨second, others⟩⟩
  · have hleft : Loom.openEntry { weaver.breakPhrase.loom verbs with last := [] } =
        weaver.breakPhrase.loom verbs := by
      rw [Loom.openEntry_of_nil rfl, ← hlast]
    exact congrArg Except.ok hleft
  · -- the entry of the preposition is done at once
    have hclosed : Loom.openEntry { weaver.breakPhrase.loom verbs with last := [.word word] } =
        { weaver.breakPhrase with
          closed := weaver.breakPhrase.closed ++ [Segment.preposition word] }.loom verbs := by
      rw [Loom.openEntry_word word hlast, loom_concat_preposition]
    exact congrArg Except.ok hclosed
  · rfl

theorem Placed.loom_takeNouns (h : Placed taken weaver) (group : AmbiguityGroup) :
    Loom.takeNouns catalog (weaver.loom verbs) group =
      (Weaver.takeNouns catalog weaver group).loom verbs := by
  have htaken : Placed taken (Weaver.takeWords catalog weaver group).1 := h.takeWords group
  have hcounted : Placed taken { (Weaver.takeWords catalog weaver group).1 with
      streak := (Weaver.takeWords catalog weaver group).1.streak + 1 } :=
    ⟨htaken.prepositions, htaken.increasing, htaken.covered⟩
  rw [Loom.takeNouns, h.loom_takeWords, Weaver.takeNouns]
  dsimp only
  rw [apply_ite (loom verbs), ← hcounted.loom_breakPhrase]
  rfl

/-- **A loom takes a place as the weaver does.** What comes of it is written down, or it is the same
misreading. -/
theorem Placed.loom_take (h : Placed taken weaver) (group : AmbiguityGroup) :
    Loom.take catalog (weaver.loom verbs) group =
      (Weaver.take catalog weaver group).map (loom verbs) := by
  rw [Loom.take, Weaver.take]
  split
  · exact h.loom_takePreposition group
  · rw [h.loom_takeNouns]
    rfl

/-- The places of a whole command, one after another. -/
theorem Placed.loom_foldlM_take (h : Placed taken weaver) (rest : List AmbiguityGroup) :
    rest.foldlM (Loom.take catalog) (weaver.loom verbs) =
      (rest.foldlM (Weaver.take catalog) weaver).map (loom verbs) := by
  induction rest generalizing taken weaver with
  | nil => rfl
  | cons group rest ih =>
    rw [List.foldlM_cons, List.foldlM_cons, h.loom_take]
    cases htake : Weaver.take catalog weaver group with
    | error misreading => rfl
    | ok next => exact ih (h.take htake)

/-! ### The whole command -/

/-- The entries of what is written down are those of the segments. -/
theorem entries_loom (hfilled : [] ∉ (weaver.loom verbs).between) :
    (weaver.loom verbs).entries = weaver.segments.map (Segment.entry weaver.ledger) := by
  rcases segments_eq_or weaver with ⟨hnil, hsegments⟩ | ⟨hne, hsegments⟩
  · have hlast : (weaver.loom verbs).last = [] := congrArg (List.map Cluster.item) hnil
    rw [Loom.entries, hlast, List.rdropWhile_concat_pos _ _ _ rfl, hsegments]
    -- no more than one entry is dropped, because those before are not empty
    refine List.rdropWhile_eq_self_iff.mpr fun hbetween hempty => hfilled ?_
    have hmem := List.getLast_mem hbetween
    rwa [List.isEmpty_iff.mp hempty] at hmem
  · have hlast : ¬ (weaver.loom verbs).last.isEmpty = true := fun hempty =>
      hne (List.map_eq_nil_iff.mp (List.isEmpty_iff.mp hempty))
    rw [Loom.entries, List.rdropWhile_concat_neg _ _ _ hlast, hsegments, List.map_append]
    rfl

/-- The clusters of a phrase that have a streak are found by the items of its entry. -/
theorem filterMap_surviving? {ledger : Ledger} (h : (ledger.clusters.map Cluster.about).Nodup)
    (phrase : Int) :
    ((ledger.ofPhrase phrase).map Cluster.item).filterMap (Loom.surviving? ledger) =
      (ledger.ofPhrase phrase).filter Cluster.hasStreak := by
  rw [List.filterMap_map, ← List.filterMap_eq_filter]
  refine List.filterMap_congr fun cluster hcluster => ?_
  -- an item names its cluster by what it is about, and no other cluster is about the same
  have hfound : ledger.get? cluster.key cluster.phrase = some cluster :=
    Ledger.get?_of_mem h (Ledger.mem_ofPhrase.mp hcluster).1
  rw [Function.comp_apply, Cluster.item, Cluster.about, Loom.surviving?, hfound]
  rfl

theorem group?_entry {ledger : Ledger} (h : (ledger.clusters.map Cluster.about).Nodup)
    (place : Nat) (segment : Segment) :
    Loom.group? ledger place (segment.entry ledger) = group? ledger place segment := by
  cases segment with
  | preposition word => rfl
  | phrase index =>
    -- without clusters an entry is empty, and then it is no preposition either
    rw [group?, ← filterMap_surviving? h, Segment.entry]
    cases ledger.ofPhrase index <;> rfl

theorem groupsFrom_map_entry {ledger : Ledger} (h : (ledger.clusters.map Cluster.about).Nodup)
    (place : Nat) (segments : List Segment) :
    Loom.groupsFrom ledger place (segments.map (Segment.entry ledger)) =
      groupsFrom ledger place segments := by
  induction segments generalizing place with
  | nil => rfl
  | cons segment rest ih => rw [List.map_cons, Loom.groupsFrom, groupsFrom, group?_entry h, ih]

/-- **Looms weave as weavers do**, every command and every misreading. -/
theorem loom_weave_eq (catalog : Catalog) (groups : List AmbiguityGroup) :
    Loom.weave catalog groups = weave catalog groups := by
  cases groups with
  | nil => rfl
  | cons verbs rest =>
    have hrest : rest.foldlM (Loom.take catalog) { verbs } =
        (rest.foldlM (take catalog) {}).map (loom verbs) := placed_empty.loom_foldlM_take rest
    rw [Loom.weave, hrest, weave, run]
    cases htake : rest.foldlM (take catalog) {} with
    | error misreading => rfl
    | ok weaver =>
      rw [htake] at hrest
      have horder : InOrder catalog weaver := (inOrder_empty catalog).foldlM_take htake
      have hgroups : Loom.groupsFrom weaver.ledger 1 (weaver.loom verbs).entries =
          groupsFrom weaver.ledger 1 weaver.segments := by
        rw [entries_loom (Loom.nil_not_mem_between hrest),
          groupsFrom_map_entry horder.keyed.unique]
      change (Loom.groupsFrom weaver.ledger 1 (weaver.loom verbs).entries >>= _) =
        Except.map _ (groupsFrom weaver.ledger 1 weaver.segments >>= _)
      rw [hgroups]
      cases groupsFrom weaver.ledger 1 weaver.segments <;> rfl

end Weaver

end CommandPrompt
