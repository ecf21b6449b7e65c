import CommandPrompt.Proofs.Outcome
import CommandPrompt.Proofs.Phrase.Following
import Mathlib.Data.List.Nodup

/-!
# Ledgers by single marks

The weaver changes the clusters of a ledger as a whole, and cannot fail. A ledger can also be
written mark by mark, as far as the mark is there; this is how it is offered to callers. The two
agree: a cluster that is told through the ledger whether a word was mentioned or missed
(`Ledger.learn?`) has learned the word, and the mark was there to be set (`Ledger.learn?_eq`).

The ledger finds the cluster by its noun and phrase and the weaver changes whatever is about them,
so no two clusters may be about the same. This is all that single marks need (`Ledger.mark_eq`,
`Ledger.mention_eq`); for a name to complete the cluster, a noun has to have one profile throughout,
too (`Ledger.Keyed`). Both are kept by every change that leaves a cluster's noun and phrase as they
are.
-/

namespace CommandPrompt

/-- A mark at a position that is counted from the start can always be set. -/
theorem Marks.putAt?_natCast (marks : List Bool) (position : Nat) (hit : Bool) :
    Marks.putAt? marks position hit = .ok (Marks.put marks position hit) := by
  rw [Marks.putAt?, if_pos (Int.natCast_nonneg position), Int.toNat_natCast]

/-- The mark that is set is one of the marks. -/
theorem Marks.getElem?_put (marks : List Bool) (position : Nat) (hit : Bool) :
    (Marks.put marks position hit)[position]? = some hit := by
  rw [Marks.put, List.getElem?_set_self]
  rw [List.length_append, List.length_replicate]
  omega

namespace Cluster

/-- What a cluster is about: a noun, by its number, and a phrase. -/
def about (cluster : Cluster) : Int × Int := (cluster.key, cluster.phrase)

/-- A change that leaves it what a cluster is about. -/
structure Keeps (change : Cluster → Cluster) : Prop where
  profile : ∀ cluster, (change cluster).profile = cluster.profile
  phrase : ∀ cluster, (change cluster).phrase = cluster.phrase

theorem Keeps.about {change : Cluster → Cluster} (h : Keeps change) (cluster : Cluster) :
    (change cluster).about = cluster.about := by
  rw [Cluster.about, Cluster.about, key, key, h.profile, h.phrase]

theorem Keeps.comp {change change' : Cluster → Cluster} (h' : Keeps change') (h : Keeps change) :
    Keeps fun cluster => change' (change cluster) :=
  ⟨fun cluster => (h'.profile _).trans (h.profile cluster),
    fun cluster => (h'.phrase _).trans (h.phrase cluster)⟩

theorem keeps_mention (word : Word) : Keeps (·.mention word) := by
  constructor <;> intro cluster <;> rw [mention] <;> split <;> rfl

theorem keeps_mark (position : Nat) (hit : Bool) : Keeps (·.mark position hit) :=
  ⟨fun _ => rfl, fun _ => rfl⟩

theorem keeps_complete : Keeps ({ · with isComplete := true }) := ⟨fun _ => rfl, fun _ => rfl⟩

/-- A change that is made under a condition only. -/
theorem Keeps.ite {change change' : Cluster → Cluster} (h : Keeps change) (h' : Keeps change')
    (condition : Cluster → Bool) :
    Keeps fun cluster => if condition cluster then change cluster else change' cluster := by
  constructor <;> intro cluster <;> split
  · exact h.profile cluster
  · exact h'.profile cluster
  · exact h.phrase cluster
  · exact h'.phrase cluster

theorem keeps_id : Keeps fun cluster => cluster := ⟨fun _ => rfl, fun _ => rfl⟩

/-- Taking in whether a word fits. -/
def takeIn (cluster : Cluster) (word : Word) (position : Nat) : Cluster :=
  if cluster.isRelevantTo word then (cluster.mention word).mark position true
  else cluster.mark position false

theorem keeps_takeIn (word : Word) (position : Nat) : Keeps (·.takeIn word position) :=
  ((keeps_mark position true).comp (keeps_mention word)).ite (keeps_mark position false)
    (·.isRelevantTo word)

/-- A cluster learns a word by taking it in, and then is complete if the word is a name. -/
theorem learn_eq_takeIn (cluster : Cluster) (word : Word) (position : Nat) :
    cluster.learn word position =
      if cluster.profile.isNamedBy word then
        { cluster.takeIn word position with isComplete := true }
      else cluster.takeIn word position := by
  have hprofile := (keeps_takeIn word position).profile cluster
  rw [learn, ← takeIn]
  dsimp only
  rw [hprofile]

theorem keeps_learn (word : Word) (position : Nat) : Keeps (·.learn word position) := by
  have htakeIn := keeps_takeIn word position
  have hkeeps := (keeps_complete.comp htakeIn).ite htakeIn (·.profile.isNamedBy word)
  exact ⟨fun cluster => by rw [learn_eq_takeIn]; exact hkeeps.profile cluster,
    fun cluster => by rw [learn_eq_takeIn]; exact hkeeps.phrase cluster⟩

end Cluster

namespace Ledger

variable {catalog : Catalog} {ledger : Ledger} {profile : Profile} {phrase : Int}

/-! ### One cluster for a noun in a phrase -/

/-- A ledger in which clusters are found by noun and phrase: no two are about the same, and each has
the profile that the catalog has for its noun. -/
structure Keyed (catalog : Catalog) (ledger : Ledger) : Prop where
  unique : (ledger.clusters.map Cluster.about).Nodup
  profile : ∀ cluster ∈ ledger.clusters, catalog.profile? cluster.key = some cluster.profile

theorem keyed_empty (catalog : Catalog) : Keyed catalog {} :=
  ⟨List.nodup_nil, fun _ h => absurd h List.not_mem_nil⟩

/-- Within one phrase clusters are told apart by their nouns. -/
theorem Keyed.nodup_keys (h : ledger.Keyed catalog) (phrase : Int) :
    ((ledger.ofPhrase phrase).map Cluster.key).Nodup := by
  have hsub : (ledger.ofPhrase phrase).Sublist ledger.clusters := List.filter_sublist
  have hunique := List.pairwise_map.mp (h.unique.sublist (hsub.map Cluster.about))
  refine List.pairwise_map.mpr (hunique.imp_of_mem fun hc hc' hne hkey => hne ?_)
  rw [Cluster.about, Cluster.about, hkey, (mem_ofPhrase.mp hc).2, (mem_ofPhrase.mp hc').2]

theorem isAbout_iff_about {key : Int} {cluster : Cluster} :
    isAbout key phrase cluster = true ↔ cluster.about = (key, phrase) := by
  rw [isAbout_iff, Cluster.about, Prod.mk.injEq]

/-- No other cluster is found in the place of one that is there. -/
theorem get?_of_mem (h : (ledger.clusters.map Cluster.about).Nodup)
    {cluster : Cluster} (hcluster : cluster ∈ ledger.clusters) :
    ledger.get? cluster.key cluster.phrase = some cluster := by
  have hsome : (ledger.get? cluster.key cluster.phrase).isSome :=
    List.find?_isSome.mpr ⟨cluster, hcluster, isAbout_iff_about.mpr rfl⟩
  obtain ⟨found, hfound⟩ := Option.isSome_iff_exists.mp hsome
  have habout := List.find?_some hfound
  rw [hfound, List.inj_on_of_nodup_map h (List.mem_of_find?_eq_some hfound) hcluster
    (isAbout_iff_about.mp habout)]

theorem isAbout_change {change : Cluster → Cluster} (hkeeps : Cluster.Keeps change) (key : Int)
    (cluster : Cluster) : isAbout key phrase (change cluster) = isAbout key phrase cluster := by
  rw [Bool.eq_iff_iff, isAbout_iff_about, isAbout_iff_about, hkeeps.about]

/-- Changing one cluster keeps what all of them are about. -/
theorem keeps_modify {change : Cluster → Cluster} (hkeeps : Cluster.Keeps change) (key : Int) :
    Cluster.Keeps fun cluster => if isAbout key phrase cluster then change cluster else cluster :=
  hkeeps.ite Cluster.keeps_id (isAbout key phrase)

/-- Once a cluster is opened it is found. -/
theorem get?_open (ledger : Ledger) (profile : Profile) (phrase : Int) :
    (ledger.open profile phrase).get? profile.key phrase = some (ledger.get profile phrase) := by
  rw [get, get?, get?, Ledger.open]
  split
  · next hany =>
    obtain ⟨cluster, hcluster⟩ := Option.isSome_iff_exists.mp (List.find?_isSome.mpr
      (List.any_eq_true.mp hany))
    rw [hcluster]
    rfl
  · next hnone =>
    have hfind : ledger.clusters.find? (isAbout profile.key phrase) = none := by
      rw [List.find?_eq_none]
      exact fun cluster hcluster habout => hnone (List.any_eq_true.mpr ⟨cluster, hcluster, habout⟩)
    rw [List.find?_append, hfind]
    simp [isAbout, Cluster.key]

section Unique

variable (h : (ledger.clusters.map Cluster.about).Nodup)
include h

theorem nodup_about_open (profile : Profile) (phrase : Int) :
    ((ledger.open profile phrase).clusters.map Cluster.about).Nodup := by
  rw [Ledger.open]
  split
  · exact h
  next hnone =>
  rw [Bool.not_eq_true, List.any_eq_false] at hnone
  rw [List.map_append]
  refine List.nodup_append.mpr ⟨h, List.pairwise_singleton _ _, fun a ha b hb => ?_⟩
  -- if an old cluster were about the same as the new one, it would have been found
  obtain ⟨cluster, hcluster, rfl⟩ := List.mem_map.mp ha
  obtain rfl := List.mem_singleton.mp hb
  exact fun heq => hnone cluster hcluster (isAbout_iff_about.mpr heq)

theorem nodup_about_modify (profile : Profile) (phrase : Int) {change : Cluster → Cluster}
    (hkeeps : Cluster.Keeps change) :
    ((ledger.modify profile phrase change).clusters.map Cluster.about).Nodup := by
  have heach := @keeps_modify phrase _ hkeeps profile.key
  have habout : (ledger.open profile phrase).clusters.map (Cluster.about ∘ fun cluster =>
      if isAbout profile.key phrase cluster then change cluster else cluster) =
        (ledger.open profile phrase).clusters.map Cluster.about :=
    List.map_congr_left fun cluster _ => heach.about cluster
  rw [Ledger.modify, List.map_map, habout]
  exact nodup_about_open h profile phrase

/-- A cluster about a noun and a phrase is the one that is found. -/
theorem eq_get {cluster : Cluster} (hcluster : cluster ∈ (ledger.open profile phrase).clusters)
    (habout : isAbout profile.key phrase cluster = true) : cluster = ledger.get profile phrase := by
  have hfound := get?_open ledger profile phrase
  refine List.inj_on_of_nodup_map (nodup_about_open h profile phrase) hcluster
    (List.mem_of_find?_eq_some hfound) ?_
  rw [isAbout_iff_about.mp habout, isAbout_iff_about.mp (List.find?_some hfound)]

/-- Only what is done to the one cluster counts. -/
theorem modify_congr {change change' : Cluster → Cluster}
    (heq : change (ledger.get profile phrase) = change' (ledger.get profile phrase)) :
    ledger.modify profile phrase change = ledger.modify profile phrase change' := by
  rw [Ledger.modify, Ledger.modify]
  congr 1
  refine List.map_congr_left fun cluster hcluster => ?_
  split
  · next habout => rw [eq_get h hcluster habout, heq]
  · rfl

end Unique

section Keyed

variable (h : ledger.Keyed catalog) (hprofile : catalog.profile? profile.key = some profile)
include h hprofile

theorem Keyed.open (phrase : Int) : (ledger.open profile phrase).Keyed catalog := by
  refine ⟨nodup_about_open h.unique profile phrase, ?_⟩
  rw [Ledger.open]
  split
  · exact h.profile
  · intro cluster hcluster
    rcases List.mem_append.mp hcluster with hcluster | hcluster
    · exact h.profile cluster hcluster
    · obtain rfl := List.mem_singleton.mp hcluster
      exact hprofile

theorem Keyed.modify (phrase : Int) {change : Cluster → Cluster}
    (hkeeps : Cluster.Keeps change) : (ledger.modify profile phrase change).Keyed catalog := by
  have hopen := h.open hprofile phrase
  have heach := @keeps_modify phrase _ hkeeps profile.key
  refine ⟨nodup_about_modify h.unique profile phrase hkeeps, fun cluster hcluster => ?_⟩
  obtain ⟨c, hc, rfl⟩ := List.mem_map.mp hcluster
  rw [Cluster.key, heach.profile c]
  exact hopen.profile c hc

theorem Keyed.profile_get : (ledger.get profile phrase).profile = profile := by
  have hfound := get?_open ledger profile phrase
  have hkeyed := (h.open hprofile phrase).profile _ (List.mem_of_find?_eq_some hfound)
  rw [(isAbout_iff.mp (List.find?_some hfound)).1, hprofile] at hkeyed
  exact (Option.some.inj hkeyed).symm

end Keyed

/-! ### Changes one after another -/

section Modify

variable {change change' : Cluster → Cluster}

/-- A cluster that was changed is open. -/
theorem open_modify (hkeeps : Cluster.Keeps change) (ledger : Ledger) (profile : Profile)
    (phrase : Int) : (ledger.modify profile phrase change).open profile phrase =
      ledger.modify profile phrase change := by
  have hfound := get?_open ledger profile phrase
  rw [Ledger.open, if_pos]
  rw [Ledger.modify, List.any_map, List.any_eq_true]
  refine ⟨_, List.mem_of_find?_eq_some hfound, ?_⟩
  have habout := List.find?_some hfound
  rw [Function.comp_apply, if_pos habout, isAbout_change hkeeps, habout]

/-- Two changes of one cluster are one change. -/
theorem modify_modify (hkeeps : Cluster.Keeps change) (ledger : Ledger) (profile : Profile)
    (phrase : Int) :
    (ledger.modify profile phrase change).modify profile phrase change' =
      ledger.modify profile phrase fun cluster => change' (change cluster) := by
  rw [Ledger.modify, open_modify hkeeps, Ledger.modify, Ledger.modify, List.map_map]
  congr 1
  refine List.map_congr_left fun cluster _ => ?_
  rw [Function.comp_apply]
  by_cases habout : isAbout profile.key phrase cluster = true
  · rw [if_pos habout, isAbout_change hkeeps, if_pos habout, if_pos habout]
  · rw [if_neg habout, if_neg habout, if_neg habout]

/-- A changed cluster is found changed. -/
theorem get_modify (hkeeps : Cluster.Keeps change) (ledger : Ledger) (profile : Profile)
    (phrase : Int) : (ledger.modify profile phrase change).get profile phrase =
      change (ledger.get profile phrase) := by
  have hfind : ∀ clusters : List Cluster, (clusters.map fun cluster =>
      if isAbout profile.key phrase cluster then change cluster else cluster).find?
        (isAbout profile.key phrase) =
          (clusters.find? (isAbout profile.key phrase)).map change := by
    intro clusters
    -- a change leaves noun and phrase of a cluster alone, so the same clusters are found
    have heach : (isAbout profile.key phrase) ∘ (fun cluster =>
        if isAbout profile.key phrase cluster then change cluster else cluster) =
          isAbout profile.key phrase := by
      funext cluster
      rw [Function.comp_apply]
      split
      · exact isAbout_change hkeeps _ _
      · rfl
    rw [List.find?_map, heach]
    cases hfound : clusters.find? (isAbout profile.key phrase) with
    | none => rfl
    | some cluster => simp [List.find?_some hfound]
  have hfound := get?_open ledger profile phrase
  rw [get?] at hfound
  rw [get, get?, Ledger.modify, hfind, hfound]
  rfl

end Modify

/-! ### Marks one by one -/

/-- A cluster is told through the ledger whether a word was mentioned or missed. -/
def tell? (ledger : Ledger) (profile : Profile) (word : Word) (phrase position : Int) :
    Except MarkFault Ledger :=
  if (ledger.get profile phrase).isRelevantTo word then
    ledger.mention profile word phrase position
  else ledger.miss profile phrase position

/-- A cluster is told of a word, and is completed by a name. -/
def learn? (ledger : Ledger) (profile : Profile) (word : Word) (phrase position : Int) :
    Except MarkFault Ledger := do
  let ledger ← ledger.tell? profile word phrase position
  return if profile.isNamedBy word then
      ledger.modify profile phrase ({ · with isComplete := true })
    else ledger

section Mark

variable (h : (ledger.clusters.map Cluster.about).Nodup)
include h

theorem mark_eq (profile : Profile) (phrase : Int) (position : Nat) (hit : Bool) :
    ledger.mark profile phrase position hit =
      .ok (ledger.modify profile phrase (·.mark position hit)) := by
  rw [mark, Marks.putAt?_natCast]
  exact congrArg Except.ok (modify_congr h rfl)

theorem mention_eq (profile : Profile) (word : Word) (phrase : Int) (position : Nat) :
    ledger.mention profile word phrase position =
      .ok (ledger.modify profile phrase fun cluster =>
        (cluster.mention word).mark position true) := by
  rw [mention, mark_eq (nodup_about_modify h profile phrase (Cluster.keeps_mention word)),
    modify_modify (Cluster.keeps_mention word)]

/-- Whether a word was mentioned or missed, the cluster takes it in. -/
theorem tell?_eq (profile : Profile) (word : Word) (phrase : Int) (position : Nat) :
    ledger.tell? profile word phrase position =
      .ok (ledger.modify profile phrase (·.takeIn word position)) := by
  rw [tell?, miss, mention_eq h, mark_eq h]
  split
  · next hrelevant =>
    refine congrArg Except.ok (modify_congr h ?_)
    rw [Cluster.takeIn, if_pos hrelevant]
  · next hrelevant =>
    refine congrArg Except.ok (modify_congr h ?_)
    rw [Cluster.takeIn, if_neg hrelevant]

end Mark

/-- **Every mark is there to be set**, and told mark by mark a cluster learns the word. -/
theorem Keyed.learn?_eq (h : ledger.Keyed catalog)
    (hprofile : catalog.profile? profile.key = some profile) (word : Word) (phrase : Int)
    (position : Nat) :
    ledger.learn? profile word phrase position =
      .ok (ledger.modify profile phrase (·.learn word position)) := by
  rw [learn?, tell?_eq h.unique]
  change Except.ok _ = _
  rw [modify_modify (Cluster.keeps_takeIn word position)]
  split
  · next hnamed =>
    refine congrArg Except.ok (modify_congr h.unique ?_)
    rw [Cluster.learn_eq_takeIn, h.profile_get hprofile, if_pos hnamed]
  · next hnamed =>
    refine congrArg Except.ok (modify_congr h.unique ?_)
    rw [Cluster.learn_eq_takeIn, h.profile_get hprofile, if_neg hnamed]

end Ledger

end CommandPrompt
