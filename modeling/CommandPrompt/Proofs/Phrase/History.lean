import CommandPrompt.Proofs.Phrase.Ledger

/-!
# Histories of clusters

A ledger that is written mark by mark may be told anything in any order: positions are skipped and
marked again, phrases are mixed, and words are mentioned that the noun does not have. What it holds
in the end is told by its operations alone.

It keeps histories apart. An operation does something to the one cluster that it is about, which is
opened for it if need be, and to no other (`Ledger.perform_eq`). So every cluster of the ledger has
gone through the operations about it, in their order, and there is one for everything that some
operation was about (`Ledger.run_eq`).

A cluster that has gone through a history records it (`Cluster.Records`). A mark tells how its
position was marked last, and the marks reach as far as the last position that was used. A word of
the noun is either mentioned or not, and the former just if a word spelled like it was.

Which words are not mentioned is read off those that are. They can as well be kept in a list of
their own, and be moved from one list to the other (`Cluster.Tally`): a mention does to both lists
what it does to the cluster (`Cluster.mention_moves`), and so does a history
(`Cluster.tally_ofHistory`).
-/

namespace CommandPrompt

/-! ### Marks -/

/-- Setting a mark makes sure that there are enough of them. -/
theorem Marks.length_put (marks : List Bool) (position : Nat) (hit : Bool) :
    (Marks.put marks position hit).length = max marks.length (position + 1) := by
  rw [Marks.put, List.length_set, List.length_append, List.length_replicate]
  omega

/-- Other marks stay, where a missing mark counts as cleared. -/
theorem Marks.getD_put (marks : List Bool) (position : Nat) (hit : Bool) (n : Nat) :
    (Marks.put marks position hit).getD n false =
      if position = n then hit else marks.getD n false := by
  rw [List.getD_eq_getElem?_getD, List.getD_eq_getElem?_getD]
  split
  · next heq =>
    subst heq
    rw [Marks.getElem?_put, Option.getD_some]
  · next hne =>
    rw [Marks.put, List.getElem?_set_ne hne, List.getElem?_append]
    split
    · rfl
    · next hlength =>
      -- behind the old marks there are cleared ones, if any
      rw [List.getElem?_replicate, List.getElem?_eq_none (Nat.le_of_not_lt hlength)]
      split <;> rfl

/-- Marks are set or cleared one after another, each at its position. -/
def Marks.putAll (marks : List Bool) (entries : List (Nat × Bool)) : List Bool :=
  entries.foldl (fun marks (position, hit) => Marks.put marks position hit) marks

theorem Marks.putAll_append (marks : List Bool) (entries entries' : List (Nat × Bool)) :
    putAll marks (entries ++ entries') = putAll (putAll marks entries) entries' :=
  List.foldl_append

/-- The marks reach as far as the last position. -/
theorem Marks.length_putAll (marks : List Bool) (entries : List (Nat × Bool)) :
    (putAll marks entries).length =
      max marks.length ((entries.map Prod.fst).max?.elim 0 (· + 1)) := by
  -- the first entry is put on the marks before the others are, so the marks are any
  induction entries generalizing marks with
  | nil => exact (Nat.max_zero _).symm
  | cons entry entries ih =>
    rw [putAll, List.foldl_cons, ← putAll, ih, length_put, List.map_cons, List.max?_cons]
    cases (entries.map Prod.fst).max? with
    | none => exact Nat.max_zero _
    | some last =>
      simp only [Option.elim_some]
      omega

/-- What was put at a position last stands there. -/
theorem Marks.getD_putAll (entries : List (Nat × Bool)) (n : Nat) :
    (putAll [] entries).getD n false =
      ((entries.filter (·.1 == n)).getLast?.map Prod.snd).getD false := by
  -- the last entry for a position is what counts, so entries are taken off at the end
  induction entries using List.reverseRecOn with
  | nil => rfl
  | append_singleton entries entry ih =>
    rw [putAll_append, List.filter_append]
    show (Marks.put _ entry.1 entry.2).getD n false = _
    rw [getD_put, ih]
    by_cases hposition : entry.1 = n
    · have hentry : [entry].filter (fun e => e.1 == n) = [entry] :=
        List.filter_cons_of_pos (beq_iff_eq.mpr hposition)
      rw [if_pos hposition, hentry, List.getLast?_concat]
      rfl
    · have hentry : [entry].filter (fun e => e.1 == n) = [] :=
        List.filter_cons_of_neg fun h => hposition (beq_iff_eq.mp h)
      rw [if_neg hposition, hentry, List.append_nil]

namespace Cluster

/-! ### What is done to a cluster -/

/-- What is done to a cluster: it is looked at, or a word of its phrase is mentioned or missed at a
position. -/
inductive Deed where
  | look
  | mention (word : Word) (position : Nat)
  | miss (position : Nat)
  deriving DecidableEq

namespace Deed

/-- The position that is marked, and whether the mark is set. -/
def mark? : Deed → Option (Nat × Bool)
  | look => none
  | mention _ position => some (position, true)
  | miss position => some (position, false)

/-- The word that is mentioned. -/
def word? : Deed → Option Word
  | mention word _ => some word
  | look | miss _ => none

end Deed

/-- The cluster after something was done to it. -/
def after (cluster : Cluster) : Deed → Cluster
  | .look => cluster
  | .mention word position => (cluster.mention word).mark position true
  | .miss position => cluster.mark position false

/-- The cluster that has gone through a history. -/
def ofHistory (profile : Profile) (phrase : Int) (history : List Deed) : Cluster :=
  history.foldl after { profile, phrase }

/-- The positions that a history marks, with the marks. -/
def marksIn (history : List Deed) : List (Nat × Bool) := history.filterMap Deed.mark?

/-- The words that a history mentions. -/
def wordsIn (history : List Deed) : List Word := history.filterMap Deed.word?

/-- How a position was marked last. -/
def lastMark? (history : List Deed) (position : Nat) : Option Bool :=
  ((marksIn history).filter (·.1 == position)).getLast?.map Prod.snd

theorem keeps_after (deed : Deed) : Keeps (·.after deed) := by
  cases deed with
  | look => exact keeps_id
  | mention word position => exact (keeps_mark position true).comp (keeps_mention word)
  | miss position => exact keeps_mark position false

variable {profile : Profile} {phrase : Int} {history : List Deed}

theorem ofHistory_concat (profile : Profile) (phrase : Int) (history : List Deed) (deed : Deed) :
    ofHistory profile phrase (history ++ [deed]) =
      (ofHistory profile phrase history).after deed := by
  rw [ofHistory, List.foldl_concat]
  rfl

@[simp] theorem profile_ofHistory : (ofHistory profile phrase history).profile = profile := by
  induction history using List.reverseRecOn with
  | nil => rfl
  | append_singleton history deed ih => rw [ofHistory_concat, (keeps_after deed).profile, ih]

@[simp] theorem phrase_ofHistory : (ofHistory profile phrase history).phrase = phrase := by
  induction history using List.reverseRecOn with
  | nil => rfl
  | append_singleton history deed ih => rw [ofHistory_concat, (keeps_after deed).phrase, ih]

/-! ### The marks -/

theorem marks_mention (cluster : Cluster) (word : Word) :
    (cluster.mention word).marks = cluster.marks := by
  rw [mention]
  split <;> rfl

/-- Marks are set as the history says, and by nothing else. -/
theorem marks_ofHistory : (ofHistory profile phrase history).marks =
    Marks.putAll [] (marksIn history) := by
  induction history using List.reverseRecOn with
  | nil => rfl
  | append_singleton history deed ih =>
    rw [ofHistory_concat, marksIn, List.filterMap_append, Marks.putAll_append, ← marksIn, ← ih]
    cases deed with
    | look => rfl
    | mention word position =>
      -- the word is taken in before the mark is set, and leaves the marks alone
      rw [after, mark, marks_mention]
      rfl
    | miss position => rfl

theorem length_marks_ofHistory : (ofHistory profile phrase history).marks.length =
    ((marksIn history).map Prod.fst).max?.elim 0 (· + 1) := by
  rw [marks_ofHistory, Marks.length_putAll, List.length_nil, Nat.zero_max]

/-- Every mark tells how its position was marked last. -/
theorem getElem_marks_ofHistory (n : Nat)
    (h : n < (ofHistory profile phrase history).marks.length) :
    (ofHistory profile phrase history).marks[n] = (lastMark? history n).getD false := by
  have hgetD := Marks.getD_putAll (marksIn history) n
  rw [← @marks_ofHistory profile phrase, List.getD_eq_getElem?_getD, List.getElem?_eq_getElem h,
    Option.getD_some] at hgetD
  exact hgetD

theorem hasStreak_ofHistory : (ofHistory profile phrase history).hasStreak = true ↔
    ∀ n < (ofHistory profile phrase history).marks.length, lastMark? history n = some true := by
  rw [hasStreak, List.all_eq_true]
  constructor
  · intro hall n hn
    have hmark := hall _ (List.getElem_mem hn)
    rw [getElem_marks_ofHistory n hn, id] at hmark
    cases hlast : lastMark? history n with
    | none =>
      rw [hlast] at hmark
      exact absurd hmark Bool.false_ne_true
    | some hit =>
      rw [hlast] at hmark
      exact congrArg some hmark
  · intro hlast mark hmark
    obtain ⟨n, hn, rfl⟩ := List.getElem_of_mem hmark
    rw [getElem_marks_ofHistory n hn, hlast n hn]
    rfl

/-! ### The words -/

/-- The word that stands for a word that is mentioned: that of the noun, if it has one. -/
def ownWord (profile : Profile) (word : Word) : Word :=
  (profile.words.find? (·.key == word.key)).getD word

theorem mem_keys_mentioned {cluster : Cluster} {key : Text} :
    key ∈ cluster.mentioned.map Prod.fst ↔ cluster.hasMentioned key = true := by
  rw [hasMentioned, List.any_eq_true, List.mem_map]
  exact exists_congr fun entry => and_congr_right fun _ => beq_iff_eq.symm

/-- Unmentioned are words of the noun itself, one for every key that was not mentioned. -/
theorem mem_unmentioned {cluster : Cluster} {own : Word} :
    own ∈ cluster.unmentioned ↔
      cluster.profile.words.find? (·.key == own.key) = some own ∧
        cluster.hasMentioned own.key = false := by
  rw [unmentioned, List.mem_filter, Word.mem_distinctKeys_iff, Bool.not_eq_true']

theorem mentioned_mention (cluster : Cluster) (word : Word) :
    (cluster.mention word).mentioned =
      if cluster.hasMentioned word.key then cluster.mentioned
      else cluster.mentioned ++ [(word.key, ownWord cluster.profile word)] := by
  rw [mention]
  split <;> rfl

/-- A word that is mentioned is no longer unmentioned, and all others are as they were. -/
theorem unmentioned_mention (cluster : Cluster) (word : Word) :
    (cluster.mention word).unmentioned =
      cluster.unmentioned.filter fun own => !(own.key == word.key) := by
  rw [unmentioned, unmentioned, (keeps_mention word).profile, List.filter_filter]
  refine List.filter_congr fun own _ => ?_
  rw [hasMentioned, hasMentioned, mentioned_mention]
  split
  · next hword =>
    -- a word that was mentioned before is not among the others anyway
    cases hkey : own.key == word.key with
    | false => rfl
    | true =>
      rw [hasMentioned] at hword
      rw [beq_iff_eq.mp hkey, hword]
      rfl
  · rw [List.any_append, Bool.not_or, Bool.and_comm, List.any_cons, List.any_nil, Bool.or_false,
      BEq.comm (a := word.key)]

/-- A key that was not mentioned is found among the unmentioned words as among all of the noun. -/
theorem find?_unmentioned {cluster : Cluster} {key : Text} (h : cluster.hasMentioned key = false) :
    cluster.unmentioned.find? (·.key == key) = cluster.profile.words.find? (·.key == key) := by
  rw [unmentioned, List.find?_filter, ← Word.find?_key_distinctKeys]
  congr 1
  funext own
  cases hkey : own.key == key with
  | false => simp
  | true => simp [beq_iff_eq.mp hkey, h]

/-- The words of a noun in two lists: those that were not mentioned, and those that were, each with
its key. -/
structure Tally where
  unmentioned : List Word
  mentioned : List (Text × Word)
  deriving DecidableEq

namespace Tally

/-- Before anything is mentioned, the first word of every key stands in the first list. -/
def start (profile : Profile) : Tally := ⟨Word.distinctKeys profile.words, []⟩

/-- A word that is mentioned moves from the first list to the second, where it is the noun's own
word if there was one to take out. A key that is in the second list already keeps its word. -/
def mention (tally : Tally) (word : Word) : Tally where
  unmentioned := tally.unmentioned.filter fun own => !(own.key == word.key)
  mentioned :=
    if tally.mentioned.any (·.1 == word.key) then tally.mentioned
    else tally.mentioned ++
      [(word.key, (tally.unmentioned.find? (·.key == word.key)).getD word)]

/-- Whether a key is in one of the lists. -/
def has (tally : Tally) (key : Text) : Bool :=
  tally.unmentioned.any (·.key == key) || tally.mentioned.any (·.1 == key)

end Tally

/-- The words of a cluster in two lists. -/
def tally (cluster : Cluster) : Tally := ⟨cluster.unmentioned, cluster.mentioned⟩

/-- **Mentioning a word moves it** from the unmentioned words, if it is there, to the mentioned
ones, if its key is not. -/
theorem mention_moves (cluster : Cluster) (word : Word) :
    (cluster.mention word).tally = cluster.tally.mention word := by
  rw [tally, unmentioned_mention, mentioned_mention]
  refine congrArg (Tally.mk _) ?_
  show _ = if cluster.hasMentioned word.key then _ else _
  split
  · rfl
  · next hnew =>
    rw [ownWord, ← find?_unmentioned (Bool.not_eq_true _ ▸ hnew)]
    rfl

/-- A history moves the words that it mentions. -/
theorem tally_ofHistory : (ofHistory profile phrase history).tally =
    (wordsIn history).foldl Tally.mention (.start profile) := by
  induction history using List.reverseRecOn with
  | nil => exact congrArg (Tally.mk · []) (List.filter_eq_self.mpr fun _ _ => rfl)
  | append_singleton history deed ih =>
    rw [ofHistory_concat, wordsIn, List.filterMap_append, List.foldl_append, ← wordsIn, ← ih]
    cases deed with
    | look => rfl
    | mention word position => exact mention_moves _ word
    | miss position => rfl

/-- Relevant is what is spelled like a word in one of the lists. -/
theorem isRelevantTo_eq_has (cluster : Cluster) (word : Word) :
    cluster.isRelevantTo word = cluster.tally.has word.key := by
  rw [isRelevantTo, Tally.has]
  show _ = (cluster.unmentioned.any _ || cluster.hasMentioned word.key)
  cases hhas : cluster.hasMentioned word.key with
  | true => rw [Bool.or_true, Bool.or_true]
  | false => rw [← List.isSome_find?, ← List.isSome_find?, find?_unmentioned hhas]

/-- Mentioned is one word for every key that was. -/
theorem mentioned_ofHistory : (ofHistory profile phrase history).mentioned =
    (Word.distinctKeys (wordsIn history)).map fun word => (word.key, ownWord profile word) := by
  induction history using List.reverseRecOn with
  | nil => rfl
  | append_singleton history deed ih =>
    rw [ofHistory_concat, wordsIn, List.filterMap_append, ← wordsIn]
    cases deed with
    | look => rw [after, ih, List.filterMap_cons_none rfl, List.filterMap_nil, List.append_nil]
    | mention word position =>
      -- on both sides the word is added if its key is new
      show ((ofHistory profile phrase history).mention word).mentioned =
        (Word.distinctKeys (wordsIn history ++ [word])).map _
      have hword : (ofHistory profile phrase history).hasMentioned word.key =
          (Word.distinctKeys (wordsIn history)).any (·.key == word.key) := by
        rw [hasMentioned, ih, List.any_map]
        rfl
      rw [mentioned_mention, hword, ih, profile_ofHistory, Word.distinctKeys_concat]
      split
      · rfl
      · rw [List.map_append]
        rfl
    | miss position =>
      rw [List.filterMap_cons_none rfl, List.filterMap_nil, List.append_nil, ← ih]
      rfl

theorem hasMentioned_ofHistory (key : Text) :
    (ofHistory profile phrase history).hasMentioned key = (wordsIn history).any (·.key == key) := by
  rw [hasMentioned, mentioned_ofHistory, List.any_map, ← Word.any_key_distinctKeys]
  rfl

/-- A cluster records a history. Marks tell how their positions were marked last. Every key of the
noun stands either with what was mentioned or with what was not, once and for the noun's own word,
which was moved from here to there when it was mentioned. -/
structure Records (cluster : Cluster) (history : List Deed) : Prop where
  length_marks : cluster.marks.length = ((marksIn history).map Prod.fst).max?.elim 0 (· + 1)
  mark : ∀ (n : Nat) (h : n < cluster.marks.length),
    cluster.marks[n] = (lastMark? history n).getD false
  hasStreak_iff : cluster.hasStreak = true ↔
    ∀ n < cluster.marks.length, lastMark? history n = some true
  mentioned : ∀ own, cluster.profile.words.find? (·.key == own.key) = some own →
    (∃ w ∈ wordsIn history, w.key = own.key) →
      (own.key, own) ∈ cluster.mentioned ∧ own.key ∉ cluster.unmentioned.map Word.key
  unmentioned : ∀ own, cluster.profile.words.find? (·.key == own.key) = some own →
    (¬∃ w ∈ wordsIn history, w.key = own.key) →
      own ∈ cluster.unmentioned ∧ own.key ∉ cluster.mentioned.map Prod.fst
  nodup_mentioned : (cluster.mentioned.map Prod.fst).Nodup
  nodup_unmentioned : (cluster.unmentioned.map Word.key).Nodup
  /-- What was not mentioned and what was are as they would be if they were kept in two lists. -/
  tally : cluster.tally = (wordsIn history).foldl Tally.mention (.start cluster.profile)
  isRelevantTo_eq : ∀ w, cluster.isRelevantTo w = cluster.tally.has w.key
  /-- Words of the noun stay relevant. -/
  isRelevantTo : ∀ w, (∃ own ∈ cluster.profile.words, own.key = w.key) →
    cluster.isRelevantTo w = true

/-- A key was mentioned if a word of that key was. -/
theorem hasMentioned_ofHistory_iff {key : Text} :
    (ofHistory profile phrase history).hasMentioned key = true ↔
      ∃ w ∈ wordsIn history, w.key = key := by
  rw [hasMentioned_ofHistory, List.any_eq_true]
  exact exists_congr fun w => and_congr_right fun _ => beq_iff_eq

/-- **A cluster records what it has gone through.** -/
theorem records_ofHistory (profile : Profile) (phrase : Int) (history : List Deed) :
    (ofHistory profile phrase history).Records history where
  length_marks := length_marks_ofHistory
  mark := getElem_marks_ofHistory
  hasStreak_iff := hasStreak_ofHistory
  mentioned := by
    intro own hown hword
    have hhas := (@hasMentioned_ofHistory_iff profile phrase history own.key).mpr hword
    refine ⟨?_, fun hkey => ?_⟩
    · -- whatever word of the key came first, that of the noun was remembered
      rw [hasMentioned_ofHistory, ← Word.any_key_distinctKeys, List.any_eq_true] at hhas
      obtain ⟨w, hw, hkey⟩ := hhas
      rw [profile_ofHistory, ← beq_iff_eq.mp hkey] at hown
      rw [mentioned_ofHistory, List.mem_map]
      exact ⟨w, hw, by rw [ownWord, hown, Option.getD_some, beq_iff_eq.mp hkey]⟩
    · obtain ⟨u, hu, hukey⟩ := List.mem_map.mp hkey
      have hnot := (mem_unmentioned.mp hu).2
      rw [hukey, hhas] at hnot
      exact absurd hnot (by simp)
  unmentioned := by
    intro own hown hnone
    have hnot : (ofHistory profile phrase history).hasMentioned own.key = false :=
      Bool.eq_false_iff.mpr fun hhas => hnone (hasMentioned_ofHistory_iff.mp hhas)
    refine ⟨mem_unmentioned.mpr ⟨hown, hnot⟩, fun hkey => ?_⟩
    rw [mem_keys_mentioned.mp hkey] at hnot
    exact absurd hnot (by simp)
  nodup_mentioned := by
    rw [mentioned_ofHistory, List.map_map, List.nodup_iff_pairwise_ne, List.pairwise_map]
    exact Word.pairwise_key_distinctKeys _
  nodup_unmentioned := by
    rw [List.nodup_iff_pairwise_ne, List.pairwise_map]
    exact (Word.pairwise_key_distinctKeys _).filter _
  tally := by rw [tally_ofHistory, profile_ofHistory]
  isRelevantTo_eq := isRelevantTo_eq_has _
  isRelevantTo := by
    rintro w ⟨own, hown, hkey⟩
    rw [isRelevantTo, Bool.or_eq_true, List.any_eq_true]
    exact Or.inl ⟨own, hown, beq_iff_eq.mpr hkey⟩

end Cluster

/-! ### What is done to a ledger -/

namespace Ledger

/-- Something is done to the cluster of a noun in a phrase. -/
structure Operation where
  profile : Profile
  phrase : Int
  deed : Cluster.Deed
  deriving DecidableEq

/-- The noun and the phrase that an operation is about. -/
def Operation.about (op : Operation) : Int × Int := (op.profile.key, op.phrase)

/-- The ledger after an operation. -/
def perform (ledger : Ledger) (op : Operation) : Except MarkFault Ledger :=
  match op.deed with
  | .look => .ok (ledger.open op.profile op.phrase)
  | .mention word position => ledger.mention op.profile word op.phrase position
  | .miss position => ledger.miss op.profile op.phrase position

/-- The ledger after some operations, from an empty one. -/
def run (ops : List Operation) : Except MarkFault Ledger := ops.foldlM perform {}

/-- What some operations do to the cluster of a noun in a phrase. -/
def historyOf (ops : List Operation) (about : Int × Int) : List Cluster.Deed :=
  (ops.filter (·.about == about)).map Operation.deed

/-- The cluster of a noun in a phrase after some operations, the first of which tells the profile.
-/
def clusterOf? (ops : List Operation) (about : Int × Int) : Option Cluster :=
  (ops.find? (·.about == about)).map fun first =>
    Cluster.ofHistory first.profile first.phrase (historyOf ops about)

/-- The clusters of everything that some operations are about, in the order of first use. -/
def ofOperations (ops : List Operation) : Ledger :=
  ⟨((ops.map Operation.about).eraseDups).filterMap (clusterOf? ops)⟩

variable {ops : List Operation} {op : Operation} {about : Int × Int}

/-! ### One operation -/

/-- **An operation changes the cluster that it is about**, and cannot fail. -/
theorem perform_eq {ledger : Ledger} (h : (ledger.clusters.map Cluster.about).Nodup)
    (op : Operation) :
    ledger.perform op = .ok (ledger.modify op.profile op.phrase (·.after op.deed)) := by
  rw [perform]
  cases op.deed with
  | look =>
    -- looking opens the cluster and then does nothing to it
    have hsame : ∀ clusters : List Cluster, (clusters.map fun cluster =>
        if isAbout op.profile.key op.phrase cluster then cluster else cluster) = clusters :=
      fun clusters => (List.map_congr_left fun _ _ => ite_self _).trans (List.map_id clusters)
    rw [modify]
    exact congrArg Except.ok (congrArg Ledger.mk (hsame _).symm)
  | mention word position => exact mention_eq h op.profile word op.phrase position
  | miss position => exact mark_eq h op.profile op.phrase position false

/-- Clusters that a change is not about stay. -/
theorem get?_modify_of_ne (ledger : Ledger) (profile : Profile) (phrase : Int)
    {change : Cluster → Cluster} (hkeeps : Cluster.Keeps change) {key phrase' : Int}
    (hne : (key, phrase') ≠ (profile.key, phrase)) :
    (ledger.modify profile phrase change).get? key phrase' = ledger.get? key phrase' := by
  have hopen : (ledger.open profile phrase).get? key phrase' = ledger.get? key phrase' := by
    rw [Ledger.open]
    split
    · rfl
    · have hnew : [({ profile, phrase } : Cluster)].find? (isAbout key phrase') = none :=
        List.find?_cons_of_neg fun h => hne (isAbout_iff_about.mp h).symm
      rw [get?, get?, List.find?_append, hnew, Option.or_none]
  have heach : (isAbout key phrase' ∘ fun cluster =>
      if isAbout profile.key phrase cluster then change cluster else cluster) =
        isAbout key phrase' :=
    funext fun cluster => isAbout_change (keeps_modify hkeeps profile.key) key cluster
  rw [← hopen, get?, get?, modify, List.find?_map, heach]
  cases hfound : (ledger.open profile phrase).clusters.find? (isAbout key phrase') with
  | none => rfl
  | some cluster =>
    -- what was found is about something else, so it was passed over
    have habout := isAbout_iff_about.mp (List.find?_some hfound)
    rw [Option.map_some, if_neg fun h => hne (habout.symm.trans (isAbout_iff_about.mp h))]

/-! ### The history of one cluster -/

theorem historyOf_concat (ops : List Operation) (op : Operation) (about : Int × Int) :
    historyOf (ops ++ [op]) about =
      historyOf ops about ++ if op.about = about then [op.deed] else [] := by
  rw [historyOf, List.filter_append, List.map_append, ← historyOf]
  by_cases habout : op.about = about
  · have hown : [op].filter (fun op => op.about == about) = [op] :=
      List.filter_cons_of_pos (beq_iff_eq.mpr habout)
    rw [hown, if_pos habout, List.map_singleton]
  · have hother : [op].filter (fun op => op.about == about) = [] :=
      List.filter_cons_of_neg fun h => habout (beq_iff_eq.mp h)
    rw [hother, if_neg habout, List.map_nil]

theorem clusterOf?_concat_self (ops : List Operation) (op : Operation) :
    clusterOf? (ops ++ [op]) op.about =
      some (((clusterOf? ops op.about).getD { profile := op.profile, phrase := op.phrase }).after
        op.deed) := by
  have hlast : [op].find? (fun op' => op'.about == op.about) = some op :=
    List.find?_cons_of_pos (beq_self_eq_true _)
  rw [clusterOf?, clusterOf?, historyOf_concat, if_pos rfl, List.find?_append, hlast]
  cases hfirst : ops.find? (·.about == op.about) with
  | some first =>
    -- the history goes on with the profile that it began with
    rw [Option.some_or, Option.map_some, Option.map_some, Option.getD_some,
      Cluster.ofHistory_concat]
  | none =>
    -- nothing was about this before
    have hnil : historyOf ops op.about = [] := by
      rw [historyOf, List.map_eq_nil_iff, List.filter_eq_nil_iff]
      exact List.find?_eq_none.mp hfirst
    rw [hnil]
    rfl

theorem clusterOf?_concat_of_ne (ops : List Operation) (hne : op.about ≠ about) :
    clusterOf? (ops ++ [op]) about = clusterOf? ops about := by
  have hlast : [op].find? (fun op' => op'.about == about) = none :=
    List.find?_cons_of_neg fun h => hne (beq_iff_eq.mp h)
  rw [clusterOf?, clusterOf?, historyOf_concat, if_neg hne, List.append_nil, List.find?_append,
    hlast, Option.or_none]

theorem about_of_clusterOf? {cluster : Cluster} (h : clusterOf? ops about = some cluster) :
    cluster.about = about := by
  obtain ⟨first, hfirst, rfl⟩ := Option.map_eq_some_iff.mp h
  have habout := List.find?_some hfirst
  rw [Cluster.about, Cluster.key, Cluster.profile_ofHistory, Cluster.phrase_ofHistory]
  exact beq_iff_eq.mp habout

theorem exists_clusterOf? (h : about ∈ ops.map Operation.about) :
    ∃ cluster, clusterOf? ops about = some cluster := by
  obtain ⟨op, hop, rfl⟩ := List.mem_map.mp h
  have hsome : (ops.find? (fun op' => op'.about == op.about)).isSome :=
    List.find?_isSome.mpr ⟨op, hop, beq_self_eq_true op.about⟩
  obtain ⟨first, hfirst⟩ := Option.isSome_iff_exists.mp hsome
  exact ⟨_, congrArg (Option.map _) hfirst⟩

/-! ### All histories -/

/-- There is one cluster for everything that operations are about. -/
theorem map_about_ofOperations (ops : List Operation) :
    (ofOperations ops).clusters.map Cluster.about = (ops.map Operation.about).eraseDups := by
  have habout : ∀ about ∈ (ops.map Operation.about).eraseDups,
      (clusterOf? ops about).map Cluster.about = some about := by
    intro about h
    obtain ⟨cluster, hcluster⟩ := exists_clusterOf? (List.mem_eraseDups.mp h)
    rw [hcluster, Option.map_some, about_of_clusterOf? hcluster]
  rw [ofOperations, List.map_filterMap, List.filterMap_congr habout, List.filterMap_some]

theorem nodup_about_ofOperations (ops : List Operation) :
    ((ofOperations ops).clusters.map Cluster.about).Nodup := by
  rw [map_about_ofOperations]
  exact nodup_eraseDups _

/-- A cluster is open if some operation was about the same. -/
theorem any_isAbout_ofOperations (ops : List Operation) (op : Operation) :
    (ofOperations ops).clusters.any (isAbout op.profile.key op.phrase) =
      (ops.map Operation.about).contains op.about := by
  have hkeys := map_about_ofOperations ops
  rw [Bool.eq_iff_iff, List.any_eq_true, List.contains_iff_mem, ← List.mem_eraseDups, ← hkeys,
    List.mem_map]
  exact exists_congr fun cluster => and_congr_right fun _ => isAbout_iff_about

/-- Of the clusters that are open, the one that an operation is about goes on with its history. -/
theorem map_after_clusterOf? (ops : List Operation) (op : Operation) {keys : List (Int × Int)}
    (hkeys : ∀ about ∈ keys, about ∈ ops.map Operation.about) :
    ((keys.filterMap (clusterOf? ops)).map fun cluster =>
      if isAbout op.profile.key op.phrase cluster then cluster.after op.deed else cluster) =
        keys.filterMap (clusterOf? (ops ++ [op])) := by
  rw [List.map_filterMap]
  refine List.filterMap_congr fun about habout => ?_
  obtain ⟨cluster, hcluster⟩ := exists_clusterOf? (hkeys about habout)
  have hcabout := about_of_clusterOf? hcluster
  rw [hcluster, Option.map_some]
  -- the ledger finds the cluster by what it is about, and so does the history
  by_cases hop : op.about = about
  · subst hop
    rw [if_pos (isAbout_iff_about.mpr hcabout), clusterOf?_concat_self, hcluster, Option.getD_some]
  · rw [if_neg fun h => hop ((isAbout_iff_about.mp h).symm.trans hcabout),
      clusterOf?_concat_of_ne ops hop, hcluster]

/-- A further operation goes into the history of the cluster that it is about. -/
theorem modify_ofOperations (ops : List Operation) (op : Operation) :
    (ofOperations ops).modify op.profile op.phrase (·.after op.deed) =
      ofOperations (ops ++ [op]) := by
  have hkeys : ∀ about ∈ (ops.map Operation.about).eraseDups, about ∈ ops.map Operation.about :=
    fun _ => List.mem_eraseDups.mp
  rw [modify, Ledger.open, any_isAbout_ofOperations]
  conv_rhs => rw [ofOperations, List.map_append, List.map_singleton, eraseDups_concat]
  cases hused : (ops.map Operation.about).contains op.about with
  | true =>
    rw [if_pos rfl, if_pos rfl]
    exact congrArg Ledger.mk (map_after_clusterOf? ops op hkeys)
  | false =>
    -- the cluster is a new one, so its history starts here
    have hnone : clusterOf? ops op.about = none := by
      rw [clusterOf?, Option.map_eq_none_iff, List.find?_eq_none]
      intro op' hop' habout
      have hmem : op.about ∈ ops.map Operation.about :=
        List.mem_map.mpr ⟨op', hop', beq_iff_eq.mp habout⟩
      rw [List.contains_iff_mem.mpr hmem] at hused
      exact absurd hused (by simp)
    have hnew := clusterOf?_concat_self ops op
    rw [hnone, Option.getD_none] at hnew
    have hfresh : isAbout op.profile.key op.phrase { profile := op.profile, phrase := op.phrase } :=
      isAbout_iff_about.mpr rfl
    rw [if_neg Bool.false_ne_true, if_neg Bool.false_ne_true, List.map_append, List.map_singleton,
      if_pos hfresh, List.filterMap_append, List.filterMap_cons_some hnew, List.filterMap_nil]
    exact congrArg (fun clusters => Ledger.mk (clusters ++ _)) (map_after_clusterOf? ops op hkeys)

/-- **A ledger keeps histories apart.** -/
theorem run_eq (ops : List Operation) : run ops = .ok (ofOperations ops) := by
  induction ops using List.reverseRecOn with
  | nil => rfl
  | append_singleton ops op ih =>
    rw [run, List.foldlM_append, ← run, ih]
    -- no two clusters of the ledger so far are about the same, so the operation is one change of it
    calc (ofOperations ops).perform op >>= (pure ·)
        = (ofOperations ops).perform op := bind_pure _
      _ = .ok ((ofOperations ops).modify op.profile op.phrase (·.after op.deed)) :=
          perform_eq (nodup_about_ofOperations ops) op
      _ = .ok (ofOperations (ops ++ [op])) := by rw [modify_ofOperations]

/-- A ledger keeps the histories of some operations: it has one cluster for everything that they are
about, with the profile of the first operation about it, and the cluster records all of them. -/
structure KeepsHistories (ledger : Ledger) (ops : List Operation) : Prop where
  about : ledger.clusters.map Cluster.about = (ops.map Operation.about).eraseDups
  nodup : (ledger.clusters.map Cluster.about).Nodup
  profile : ∀ cluster ∈ ledger.clusters,
    (ops.find? (·.about == cluster.about)).map Operation.profile = some cluster.profile
  records : ∀ cluster ∈ ledger.clusters, cluster.Records (historyOf ops cluster.about)

theorem keepsHistories_ofOperations (ops : List Operation) :
    (ofOperations ops).KeepsHistories ops := by
  -- every cluster is made from the history of what it is about
  have hcluster : ∀ cluster ∈ (ofOperations ops).clusters, ∃ first,
      ops.find? (·.about == cluster.about) = some first ∧
        Cluster.ofHistory first.profile first.phrase (historyOf ops cluster.about) = cluster := by
    intro cluster hcluster
    obtain ⟨about, -, hof⟩ := List.mem_filterMap.mp hcluster
    rw [about_of_clusterOf? hof]
    exact Option.map_eq_some_iff.mp hof
  constructor
  case about => exact map_about_ofOperations ops
  case nodup => exact nodup_about_ofOperations ops
  case profile =>
    intro cluster h
    obtain ⟨first, hfirst, heq⟩ := hcluster cluster h
    have hprofile : cluster.profile = first.profile := by rw [← heq, Cluster.profile_ofHistory]
    rw [hfirst, hprofile, Option.map_some]
  case records =>
    intro cluster h
    obtain ⟨first, -, heq⟩ := hcluster cluster h
    have hrecords := Cluster.records_ofHistory first.profile first.phrase
      (historyOf ops cluster.about)
    rwa [heq] at hrecords

/-- Where a noun has one profile, a cluster has the profile that its operations name. -/
theorem KeepsHistories.profile_eq {ledger : Ledger} (h : ledger.KeepsHistories ops)
    {profiles : List Profile} (hkeys : (profiles.map Profile.key).Nodup)
    (hprofiles : ∀ op ∈ ops, op.profile ∈ profiles) (hop : op ∈ ops) {cluster : Cluster}
    (hcluster : cluster ∈ ledger.clusters) (habout : cluster.about = op.about) :
    cluster.profile = op.profile := by
  -- the first operation about the same noun told the profile, and a noun has one only
  obtain ⟨first, hfirst, hprofile⟩ := Option.map_eq_some_iff.mp (h.profile cluster hcluster)
  have hfabout := List.find?_some hfirst
  have hkey : first.profile.key = op.profile.key :=
    congrArg Prod.fst ((beq_iff_eq.mp hfabout).trans habout)
  rw [← hprofile]
  exact List.inj_on_of_nodup_map hkeys (hprofiles first (List.mem_of_find?_eq_some hfirst))
    (hprofiles op hop) hkey

/-- **Ledgers keep histories.** No sequence of operations fails, and the ledger keeps all their
histories. A further operation does what it says to the cluster that it is about, and leaves every
other as it is. If the profiles are those of a catalog, then each cluster has the profile that it
was asked for with. -/
theorem exists_run_keepsHistories (ops : List Operation) :
    ∃ ledger, run ops = .ok ledger ∧ ledger.KeepsHistories ops ∧
      (∀ op, ∃ ledger', run (ops ++ [op]) = .ok ledger' ∧
        ledger'.get op.profile op.phrase = (ledger.get op.profile op.phrase).after op.deed ∧
        ∀ key phrase, (key, phrase) ≠ op.about →
          ledger'.get? key phrase = ledger.get? key phrase) ∧
      ∀ words, (∀ op ∈ ops, op.profile ∈ (Catalog.ofWords words).profiles) →
        ∀ op ∈ ops, ∀ cluster ∈ ledger.clusters, cluster.about = op.about →
          cluster.profile = op.profile := by
  have hkeeps := keepsHistories_ofOperations ops
  refine ⟨ofOperations ops, run_eq ops, hkeeps, fun op => ?_, ?_⟩
  · refine ⟨ofOperations (ops ++ [op]), run_eq _, ?_, fun key phrase hne => ?_⟩
    · rw [← modify_ofOperations]
      exact get_modify (Cluster.keeps_after op.deed) _ _ _
    · rw [← modify_ofOperations]
      exact get?_modify_of_ne _ _ _ (Cluster.keeps_after op.deed) hne
  · intro words hprofiles op hop cluster hcluster habout
    exact hkeeps.profile_eq (Catalog.nodup_key_profiles words) hprofiles hop hcluster habout

/-- A red lamp, as a noun. -/
def redLamp : Noun := ⟨1, "lamp".toList, [], ["red".toList]⟩

/-- The lamp is asked about in two phrases. In the first, a position is skipped, and a word of
another noun is mentioned that is spelled like a word of the lamp. -/
def lampOperations : List Operation :=
  [⟨redLamp.profile, 0, .mention ⟨"RED".toList, .adjective ⟨2, "rose".toList, [], []⟩, none⟩ 0⟩,
    ⟨redLamp.profile, 1, .look⟩, ⟨redLamp.profile, 0, .miss 2⟩]

theorem exists_run_lampOperations :
    ∃ ledger, run lampOperations = .ok ledger ∧ ledger.KeepsHistories lampOperations ∧
      ledger.clusters.map Cluster.about = [(1, 0), (1, 1)] ∧
      (∀ cluster ∈ ledger.clusters, cluster.about = (1, 0) → cluster.profile = redLamp.profile) ∧
      ∃ ledger', run (lampOperations ++ [⟨redLamp.profile, 1, .miss 0⟩]) = .ok ledger' ∧
        ledger'.get? 1 0 = ledger.get? 1 0 := by
  let world : World := (World.addNoun {} ⟨"lamp".toList, ["red".toList]⟩).1
  have hworld : world.Sound := ((World.Built.empty [] []).addNoun _).sound
  have hprofile : redLamp.profile ∈ (Catalog.ofWords world.vocabulary).profiles :=
    (Catalog.mem_profiles hworld).mpr ⟨redLamp, by decide, rfl⟩
  have hprofiles : ∀ op ∈ lampOperations,
      op.profile ∈ (Catalog.ofWords world.vocabulary).profiles := by
    intro op hop
    have heq : op.profile = redLamp.profile := by
      simp only [lampOperations, List.mem_cons, List.not_mem_nil, or_false] at hop
      rcases hop with rfl | rfl | rfl <;> rfl
    exact heq ▸ hprofile
  obtain ⟨ledger, hrun, hkeeps, hothers, hcatalog⟩ := exists_run_keepsHistories lampOperations
  obtain ⟨ledger', hrun', -, hsame⟩ := hothers ⟨redLamp.profile, 1, .miss 0⟩
  refine ⟨ledger, hrun, hkeeps, ?_, ?_, ledger', hrun', hsame 1 0 (by decide)⟩
  · rw [hkeeps.about]
    rfl
  · intro cluster hcluster habout
    exact hcatalog world.vocabulary hprofiles _ List.mem_cons_self cluster hcluster habout

end Ledger

end CommandPrompt
