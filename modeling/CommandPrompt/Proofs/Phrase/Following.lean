import CommandPrompt.Phrase.Cluster
import CommandPrompt.Proofs.World.Catalog

/-!
# Following a noun through a phrase

A cluster comes about word by word, but what it holds depends only on the noun and on the keys that
the phrase has had: a mark for every key, the noun's own words for the keys it has, and whether one
of the keys is a name of the noun (`Cluster.following`). A word takes the cluster from the keys so
far to the keys with its own behind them (`learn_following`), and a further word of the same
spelling changes nothing (`learn_following_again`). A cluster that is opened late catches up at
once, if none of the keys before fits its noun (`learn_fresh`).

The second part says what the ledger makes of this. Changing the clusters of some different nouns in
one phrase changes every one of them once, in place, and opens those that are missing
(`Ledger.ofPhrase_foldl_modify`); all other phrases stay as they are
(`Ledger.ofPhrase_foldl_modify_of_ne`).
-/

namespace CommandPrompt

/-! ### Marks -/

/-- The first mark that is missing is put behind the others. -/
theorem Marks.put_length (marks : List Bool) (hit : Bool) :
    Marks.put marks marks.length hit = marks ++ [hit] := by
  rw [Marks.put, Nat.add_sub_cancel_left, List.set_append_right (h := Nat.le_refl _),
    Nat.sub_self]
  rfl

theorem Marks.put_last (marks : List Bool) (hit hit' : Bool) :
    Marks.put (marks ++ [hit]) marks.length hit' = marks ++ [hit'] := by
  rw [Marks.put, List.length_append, List.length_singleton, Nat.sub_self, List.replicate_zero,
    List.append_nil, List.set_append_right (h := Nat.le_refl _), Nat.sub_self]
  rfl

/-- Marks that were skipped are cleared ones. -/
theorem Marks.put_nil (position : Nat) (hit : Bool) :
    Marks.put [] position hit = List.replicate position false ++ [hit] := by
  rw [Marks.put, List.length_nil, Nat.sub_zero, List.nil_append, List.replicate_succ',
    List.set_append_right (h := Nat.le_of_eq List.length_replicate), List.length_replicate,
    Nat.sub_self]
  rfl

namespace Cluster

/-! ### One cluster -/

/-- The words of a noun that some keys mention, each with its key. -/
def mentionedBy (noun : Noun) (keys : List Text) : List (Text × Word) :=
  keys.eraseDups.filterMap fun key => (noun.profile.words.find? (·.key == key)).map (key, ·)

/-- The cluster of a noun in a phrase that has had some keys. -/
def following (phrase : Nat) (keys : List Text) (noun : Noun) : Cluster where
  profile := noun.profile
  phrase := phrase
  marks := keys.map noun.keys.contains
  mentioned := mentionedBy noun keys
  isComplete := keys.any noun.nameKeys.contains

section Following

variable {phrase : Nat} {keys : List Text} {noun : Noun}

@[simp] theorem profile_following : (following phrase keys noun).profile = noun.profile := rfl

@[simp] theorem key_following : (following phrase keys noun).key = noun.ref := rfl

@[simp] theorem phrase_following : (following phrase keys noun).phrase = phrase := rfl

/-- A noun has a streak if it has every key. -/
theorem hasStreak_following :
    (following phrase keys noun).hasStreak = keys.all noun.keys.contains := by
  rw [hasStreak, following, List.all_map]
  rfl

theorem find?_profile_eq_none {key : Text} (h : key ∉ noun.keys) :
    noun.profile.words.find? (·.key == key) = none := by
  rw [List.find?_eq_none]
  intro w hw hkey
  exact h ((noun.any_key_profile key).mp (List.any_eq_true.mpr ⟨w, hw, hkey⟩))

theorem exists_find?_profile {key : Text} (h : key ∈ noun.keys) :
    ∃ own, noun.profile.words.find? (·.key == key) = some own := by
  rw [← Option.isSome_iff_exists, List.find?_isSome]
  exact List.any_eq_true.mp ((noun.any_key_profile key).mpr h)

/-- Mentioned are the keys that the noun has. -/
theorem any_mentionedBy (key : Text) :
    (mentionedBy noun keys).any (·.1 == key) = (keys.contains key && noun.keys.contains key) := by
  rw [Bool.eq_iff_iff, Bool.and_eq_true, List.contains_iff_mem, List.contains_iff_mem,
    List.any_eq_true]
  constructor
  · rintro ⟨⟨k, own⟩, hmem, hkey⟩
    obtain rfl : k = key := beq_iff_eq.mp hkey
    obtain ⟨k', hk', hown⟩ := List.mem_filterMap.mp hmem
    obtain ⟨w, hw, heq⟩ := Option.map_eq_some_iff.mp hown
    obtain ⟨rfl, rfl⟩ := Prod.mk.inj heq
    refine ⟨List.mem_eraseDups.mp hk', (noun.any_key_profile k').mp ?_⟩
    have hwkey := List.find?_some hw
    exact List.any_eq_true.mpr ⟨w, List.mem_of_find?_eq_some hw, hwkey⟩
  · rintro ⟨hkey, hnoun⟩
    obtain ⟨own, hown⟩ := exists_find?_profile hnoun
    refine ⟨(key, own), List.mem_filterMap.mpr ⟨key, List.mem_eraseDups.mpr hkey, ?_⟩, by simp⟩
    rw [hown]
    rfl

/-- A further key mentions a word if it is new and the noun has it. -/
theorem mentionedBy_concat (key : Text) :
    mentionedBy noun (keys ++ [key]) = mentionedBy noun keys ++
      if keys.contains key then []
      else ((noun.profile.words.find? (·.key == key)).map (key, ·)).toList := by
  rw [mentionedBy, eraseDups_concat]
  split
  · rw [← mentionedBy, List.append_nil]
  · rw [List.filterMap_append, ← mentionedBy]
    cases hown : noun.profile.words.find? (·.key == key) <;> simp [hown]

variable {w : Word}

/-- A word that the noun has is mentioned by the noun's own word. -/
theorem mention_eq {cluster : Cluster} (hprofile : cluster.profile = noun.profile)
    (hkey : w.key ∈ noun.keys) :
    cluster.mention w =
      { cluster with
        mentioned := cluster.mentioned ++ if cluster.hasMentioned w.key then []
          else ((noun.profile.words.find? (·.key == w.key)).map (w.key, ·)).toList } := by
  -- the cluster is taken apart, so that its profile can be replaced by that of the noun
  obtain ⟨profile, phrase, marks, mentioned, isComplete⟩ := cluster
  obtain rfl : profile = noun.profile := hprofile
  obtain ⟨own, hown⟩ := exists_find?_profile hkey
  rw [mention, hown]
  split
  · simp only [List.append_nil]
  · rfl

/-- A word completes a cluster if it names the noun. -/
theorem complete_eq {cluster : Cluster} (hprofile : cluster.profile = noun.profile) :
    (if cluster.profile.isNamedBy w then { cluster with isComplete := true } else cluster) =
      { cluster with isComplete := cluster.isComplete || noun.nameKeys.contains w.key } := by
  have hnamed : noun.profile.isNamedBy w = noun.nameKeys.contains w.key := by
    rw [Bool.eq_iff_iff, List.contains_iff_mem]
    exact noun.isNamedBy_profile w
  obtain ⟨profile, phrase, marks, mentioned, isComplete⟩ := cluster
  obtain rfl : profile = noun.profile := hprofile
  rw [hnamed]
  cases noun.nameKeys.contains w.key
  · rw [if_neg Bool.false_ne_true, Bool.or_false]
  · rw [if_pos rfl, Bool.or_true]

/-- What a cluster of the noun learns, if it has mentioned nothing that the noun does not have. -/
theorem learn_eq {cluster : Cluster} (hprofile : cluster.profile = noun.profile)
    (hmentioned : cluster.hasMentioned w.key = true → w.key ∈ noun.keys) (position : Nat) :
    cluster.learn w position =
      { cluster with
        marks := Marks.put cluster.marks position (noun.keys.contains w.key)
        mentioned := cluster.mentioned ++ if cluster.hasMentioned w.key then []
          else ((noun.profile.words.find? (·.key == w.key)).map (w.key, ·)).toList
        isComplete := cluster.isComplete || noun.nameKeys.contains w.key } := by
  -- a word that was mentioned before adds nothing to what is relevant, for the noun has its key
  have hrelevant : cluster.isRelevantTo w = noun.keys.contains w.key := by
    rw [isRelevantTo, hprofile, Bool.eq_iff_iff, Bool.or_eq_true, List.contains_iff_mem,
      noun.any_key_profile]
    exact ⟨fun h => h.elim id hmentioned, Or.inl⟩
  rw [learn, hrelevant]
  by_cases hkey : w.key ∈ noun.keys
  · rw [List.contains_iff_mem.mpr hkey, if_pos rfl, mention_eq hprofile hkey]
    exact complete_eq hprofile
  · have hnone : cluster.hasMentioned w.key = false :=
      Bool.eq_false_iff.mpr fun h => hkey (hmentioned h)
    have hmiss : noun.keys.contains w.key = false :=
      Bool.eq_false_iff.mpr fun h => hkey (List.contains_iff_mem.mp h)
    rw [hmiss, if_neg Bool.false_ne_true, hnone, find?_profile_eq_none hkey]
    dsimp only [Option.map_none, Option.toList_none]
    rw [if_neg Bool.false_ne_true, List.append_nil]
    exact complete_eq hprofile

theorem hasMentioned_following (key : Text) :
    (following phrase keys noun).hasMentioned key =
      (keys.contains key && noun.keys.contains key) := any_mentionedBy key

/-- A key that the phrase did not have is not mentioned. -/
theorem hasMentioned_following_eq_false {key : Text} (h : key ∉ keys) :
    (following phrase keys noun).hasMentioned key = false := by
  rw [hasMentioned_following, Bool.and_eq_false_iff]
  exact Or.inl (Bool.eq_false_iff.mpr fun hmem => h (List.contains_iff_mem.mp hmem))

/-- While a cluster is incomplete, the phrase had no name of its noun. -/
theorem not_mem_of_isComplete_eq_false (h : (following phrase keys noun).isComplete = false)
    {name : Text} (hname : name ∈ noun.nameKeys) : name ∉ keys := by
  rw [following, List.any_eq_false] at h
  intro hmem
  exact h name hmem (List.contains_iff_mem.mpr hname)

/-- **A word takes a cluster one key further.** -/
theorem learn_following {position : Nat} (hposition : keys.length = position) :
    (following phrase keys noun).learn w position = following phrase (keys ++ [w.key]) noun := by
  have hmentioned := @hasMentioned_following phrase keys noun w.key
  rw [learn_eq profile_following (by rw [hmentioned]; simp)]
  -- there is one mark for every key so far, so the new one is put behind them
  have hmarks : Marks.put (following phrase keys noun).marks position
      (noun.keys.contains w.key) = (keys ++ [w.key]).map noun.keys.contains := by
    have hlength : (following phrase keys noun).marks.length = position := by
      rw [following, List.length_map, hposition]
    rw [← hlength, Marks.put_length, List.map_append]
    rfl
  have hmention : (following phrase keys noun).mentioned ++
      (if (following phrase keys noun).hasMentioned w.key then []
        else ((noun.profile.words.find? (·.key == w.key)).map (w.key, ·)).toList) =
      mentionedBy noun (keys ++ [w.key]) := by
    rw [mentionedBy_concat, hmentioned]
    by_cases hkey : w.key ∈ noun.keys
    · rw [List.contains_iff_mem.mpr hkey, Bool.and_true]
      rfl
    · rw [find?_profile_eq_none hkey]
      simp [following]
  rw [hmarks, hmention]
  simp [following, List.any_append]

/-- A second word of one spelling tells nothing new. -/
theorem learn_following_again {position : Nat} (hposition : keys.length = position) :
    (following phrase (keys ++ [w.key]) noun).learn w position =
      following phrase (keys ++ [w.key]) noun := by
  have hmentioned := @hasMentioned_following phrase (keys ++ [w.key]) noun w.key
  rw [learn_eq profile_following (by rw [hmentioned]; simp)]
  have hmarks : Marks.put (following phrase (keys ++ [w.key]) noun).marks position
      (noun.keys.contains w.key) = (keys ++ [w.key]).map noun.keys.contains := by
    have hlength : (keys.map noun.keys.contains).length = position := by
      rw [List.length_map, hposition]
    rw [following, List.map_append, List.map_singleton, ← hlength, Marks.put_last]
  have hmention : (following phrase (keys ++ [w.key]) noun).mentioned ++
      (if (following phrase (keys ++ [w.key]) noun).hasMentioned w.key then []
        else ((noun.profile.words.find? (·.key == w.key)).map (w.key, ·)).toList) =
      mentionedBy noun (keys ++ [w.key]) := by
    rw [hmentioned]
    by_cases hkey : w.key ∈ noun.keys
    · simp [following, hkey]
    · rw [find?_profile_eq_none hkey]
      simp [following]
  rw [hmarks, hmention]
  simp [following, List.any_append]

/-- **A cluster that is opened late catches up**: the keys before do not fit the noun, and their
marks are filled in as cleared ones. -/
theorem learn_fresh {position : Nat} (hposition : keys.length = position)
    (hkeys : ∀ key ∈ keys, key ∉ noun.keys) :
    Cluster.learn { profile := noun.profile, phrase := phrase } w position =
      following phrase (keys ++ [w.key]) noun := by
  -- it is enough that learning does not tell the new cluster from one that followed all keys
  rw [← learn_following hposition]
  have hcontains : ∀ key ∈ keys, noun.keys.contains key = false := by
    intro key hkey
    rw [← Bool.not_eq_true, List.contains_iff_mem]
    exact hkeys key hkey
  have hmarks : keys.map noun.keys.contains = List.replicate position false := by
    rw [List.map_congr_left hcontains, List.map_const', hposition]
  have hmention : mentionedBy noun keys = [] := by
    rw [mentionedBy, List.filterMap_eq_nil_iff]
    intro key hkey
    rw [find?_profile_eq_none (hkeys key (List.mem_eraseDups.mp hkey))]
    rfl
  have hcomplete : keys.any noun.nameKeys.contains = false := by
    rw [List.any_eq_false]
    intro key hkey hname
    exact hkeys key hkey (Noun.mem_keys_of_mem_nameKeys (List.contains_iff_mem.mp hname))
  -- the marks before the position are cleared in both
  have hput : Marks.put (keys.map noun.keys.contains) position (noun.keys.contains w.key) =
      Marks.put [] position (noun.keys.contains w.key) := by
    rw [Marks.put_nil, ← hmarks, ← hposition, ← List.length_map noun.keys.contains,
      Marks.put_length]
  rw [learn_eq rfl (fun h => absurd h (by simp [hasMentioned])),
    learn_eq profile_following (by rw [hasMentioned_following]; simp)]
  simp only [following, hmention, hcomplete, hput]
  rfl

end Following

end Cluster

/-! ### The clusters of a ledger -/

namespace Ledger

variable {phrase : Int} {change : Cluster → Cluster}

theorem isAbout_iff {key : Int} {cluster : Cluster} :
    isAbout key phrase cluster = true ↔ cluster.key = key ∧ cluster.phrase = phrase := by
  rw [isAbout, Bool.and_eq_true, beq_iff_eq, beq_iff_eq]

theorem mem_ofPhrase {ledger : Ledger} {cluster : Cluster} :
    cluster ∈ ledger.ofPhrase phrase ↔ cluster ∈ ledger.clusters ∧ cluster.phrase = phrase := by
  rw [ofPhrase, List.mem_filter, beq_iff_eq]

/-- Opening a cluster that is there changes nothing. -/
theorem open_of_mem {ledger : Ledger} {cluster : Cluster}
    (h : cluster ∈ ledger.ofPhrase phrase) : ledger.open cluster.profile phrase = ledger := by
  obtain ⟨hmem, hphrase⟩ := mem_ofPhrase.mp h
  rw [Ledger.open, if_pos]
  exact List.any_eq_true.mpr ⟨cluster, hmem, isAbout_iff.mpr ⟨rfl, hphrase⟩⟩

/-- Opening a cluster that is not there puts it behind the others. -/
theorem open_of_not_mem {ledger : Ledger} {profile : Profile}
    (h : ∀ cluster ∈ ledger.ofPhrase phrase, cluster.key ≠ profile.key) :
    ledger.open profile phrase =
      ⟨ledger.clusters ++ [{ profile := profile, phrase := phrase }]⟩ := by
  rw [Ledger.open, if_neg]
  rw [Bool.not_eq_true, List.any_eq_false]
  intro cluster hmem habout
  obtain ⟨hkey, hphrase⟩ := isAbout_iff.mp habout
  exact h cluster (mem_ofPhrase.mpr ⟨hmem, hphrase⟩) hkey

/-- Changing a cluster changes it among the clusters of its phrase. -/
theorem ofPhrase_modify (hchange : ∀ cluster, (change cluster).phrase = cluster.phrase)
    (ledger : Ledger) (profile : Profile) (phrase' : Int) :
    (ledger.modify profile phrase change).ofPhrase phrase' =
      ((ledger.open profile phrase).ofPhrase phrase').map fun cluster =>
        if isAbout profile.key phrase cluster then change cluster else cluster := by
  rw [modify, ofPhrase, List.filter_map, ofPhrase]
  congr 1
  refine List.filter_congr fun cluster _ => ?_
  rw [Function.comp_apply]
  split
  · rw [hchange]
  · rfl

/-- Changing a cluster leaves the other phrases alone. -/
theorem ofPhrase_modify_of_ne (hchange : ∀ cluster, (change cluster).phrase = cluster.phrase)
    (ledger : Ledger) (profile : Profile) {phrase' : Int} (hne : phrase' ≠ phrase) :
    (ledger.modify profile phrase change).ofPhrase phrase' = ledger.ofPhrase phrase' := by
  have hopen : (ledger.open profile phrase).ofPhrase phrase' = ledger.ofPhrase phrase' := by
    rw [Ledger.open]
    split
    · rfl
    · rw [ofPhrase, List.filter_append,
        List.filter_cons_of_neg (by simpa using hne.symm), List.filter_nil, List.append_nil]
      rfl
  rw [ofPhrase_modify hchange, hopen]
  refine (List.map_congr_left fun cluster hmem => ?_).trans (List.map_id _)
  rw [if_neg]
  · rfl
  · exact fun habout => hne ((mem_ofPhrase.mp hmem).2.symm.trans (isAbout_iff.mp habout).2)

/-- Changing one cluster of a phrase leaves the clusters of other nouns alone. -/
theorem ofPhrase_modify_of_mem (hchange : ∀ cluster, (change cluster).phrase = cluster.phrase)
    {ledger : Ledger} {cluster : Cluster} {before behind : List Cluster}
    (h : ledger.ofPhrase phrase = before ++ cluster :: behind)
    (hbefore : ∀ c ∈ before, c.key ≠ cluster.key)
    (hbehind : ∀ c ∈ behind, c.key ≠ cluster.key) :
    (ledger.modify cluster.profile phrase change).ofPhrase phrase =
      before ++ change cluster :: behind := by
  have hmem : cluster ∈ ledger.ofPhrase phrase := by
    rw [h]
    exact List.mem_append_right _ List.mem_cons_self
  -- a cluster of another noun is not about this one
  have hothers : ∀ cs : List Cluster, (∀ c ∈ cs, c.key ≠ cluster.key) →
      cs.map (fun c => if isAbout cluster.key phrase c then change c else c) = cs := by
    intro cs hcs
    refine (List.map_congr_left fun c hc => ?_).trans (List.map_id _)
    rw [if_neg fun habout => hcs c hc (isAbout_iff.mp habout).1]
    rfl
  have habout : isAbout cluster.key phrase cluster = true :=
    isAbout_iff.mpr ⟨rfl, (mem_ofPhrase.mp hmem).2⟩
  rw [ofPhrase_modify hchange, open_of_mem hmem, h, List.map_append, List.map_cons]
  exact congrArg₂ _ (hothers before hbefore)
    (congrArg₂ _ (if_pos habout) (hothers behind hbehind))

/-- Changing a cluster that is not there opens it behind the others of its phrase. -/
theorem ofPhrase_modify_of_not_mem
    (hchange : ∀ cluster, (change cluster).phrase = cluster.phrase) {ledger : Ledger}
    {profile : Profile} (h : ∀ cluster ∈ ledger.ofPhrase phrase, cluster.key ≠ profile.key) :
    (ledger.modify profile phrase change).ofPhrase phrase =
      ledger.ofPhrase phrase ++ [change { profile := profile, phrase := phrase }] := by
  have hothers : (ledger.ofPhrase phrase).map
      (fun c => if isAbout profile.key phrase c then change c else c) =
        ledger.ofPhrase phrase := by
    refine (List.map_congr_left fun c hc => ?_).trans (List.map_id _)
    rw [if_neg fun habout => h c hc (isAbout_iff.mp habout).1]
    rfl
  have hopened : (⟨ledger.clusters ++ [{ profile := profile, phrase := phrase }]⟩ :
      Ledger).ofPhrase phrase =
        ledger.ofPhrase phrase ++ [{ profile := profile, phrase := phrase }] := by
    rw [ofPhrase, List.filter_append, List.filter_cons_of_pos (by simp), List.filter_nil]
    rfl
  have habout : isAbout profile.key phrase { profile := profile, phrase := phrase } = true :=
    isAbout_iff.mpr ⟨rfl, rfl⟩
  rw [ofPhrase_modify hchange, open_of_not_mem h, hopened, List.map_append, hothers,
    List.map_singleton, if_pos habout]

/-- **Changing the clusters of different nouns** changes those that are there in place, and opens
the others in their order. The clusters `done` are of none of the nouns. -/
theorem ofPhrase_foldl_modify (hchange : ∀ cluster, (change cluster).phrase = cluster.phrase ∧
      (change cluster).key = cluster.key)
    {ledger : Ledger} {profiles : List Profile} {done todo : List Cluster} {new : List Profile}
    (hprofiles : profiles = todo.map Cluster.profile ++ new)
    (hkeys : (done.map Cluster.key ++ profiles.map Profile.key).Nodup)
    (h : ledger.ofPhrase phrase = done ++ todo) :
    (profiles.foldl (fun ledger profile => ledger.modify profile phrase change)
        ledger).ofPhrase phrase =
      done ++ todo.map change ++
        new.map fun profile => change { profile := profile, phrase := phrase } := by
  have hphrase := fun cluster => (hchange cluster).1
  -- one noun after another goes from `todo`, or else from the new ones, to `done`
  induction profiles generalizing ledger done todo new with
  | nil =>
    obtain ⟨htodo, rfl⟩ := List.append_eq_nil_iff.mp hprofiles.symm
    obtain rfl := List.map_eq_nil_iff.mp htodo
    rw [List.foldl_nil, h]
    simp
  | cons profile profiles ih =>
    rw [List.foldl_cons]
    rw [List.map_cons, List.nodup_append] at hkeys
    obtain ⟨hdone, hrest, hdisjoint⟩ := hkeys
    have hbefore : ∀ c ∈ done, c.key ≠ profile.key := fun c hc =>
      hdisjoint c.key (List.mem_map_of_mem hc) profile.key List.mem_cons_self
    have hkeys' : ∀ cluster : Cluster, cluster.key = profile.key →
        ((done ++ [cluster]).map Cluster.key ++ profiles.map Profile.key).Nodup := by
      intro cluster hkey
      rw [List.map_append, List.append_assoc, List.nodup_append]
      exact ⟨hdone, by simpa [hkey] using hrest, by simpa [hkey] using hdisjoint⟩
    cases todo with
    | nil =>
      -- the noun is a new one, whose cluster is opened
      obtain rfl : new = profile :: profiles := by simpa using hprofiles.symm
      rw [List.append_nil] at h
      have hmodify := ofPhrase_modify_of_not_mem hphrase (h ▸ hbefore)
      rw [h] at hmodify
      rw [@ih _ _ [] _ rfl (hkeys' _ (hchange _).2)
        (hmodify.trans (List.append_nil _).symm)]
      simp
    | cons cluster todo =>
      obtain ⟨rfl, htail⟩ := List.cons.inj hprofiles
      have hbehind : ∀ c ∈ todo, c.key ≠ cluster.key := by
        intro c hc heq
        have hmem : c.profile ∈ profiles :=
          htail ▸ List.mem_append_left _ (List.mem_map_of_mem hc)
        exact (List.nodup_cons.mp hrest).1 (List.mem_map.mpr ⟨c.profile, hmem, heq⟩)
      -- the noun has a cluster, which is changed where it stands
      have hmodify := ofPhrase_modify_of_mem hphrase h hbefore hbehind
      rw [ih htail (hkeys' _ (hchange _).2) (hmodify.trans (List.append_cons _ _ _))]
      simp

/-- The other phrases stay as they are. -/
theorem ofPhrase_foldl_modify_of_ne
    (hchange : ∀ cluster, (change cluster).phrase = cluster.phrase) (ledger : Ledger)
    (profiles : List Profile) {phrase' : Int} (hne : phrase' ≠ phrase) :
    (profiles.foldl (fun ledger profile => ledger.modify profile phrase change)
        ledger).ofPhrase phrase' = ledger.ofPhrase phrase' := by
  induction profiles generalizing ledger with
  | nil => rfl
  | cons profile profiles ih =>
    rw [List.foldl_cons, ih, ofPhrase_modify_of_ne hchange _ _ hne]

end Ledger

end CommandPrompt
