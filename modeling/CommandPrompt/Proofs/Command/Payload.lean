import CommandPrompt.Command.Report
import CommandPrompt.Proofs.Context.Spelled
import CommandPrompt.Proofs.Document.Written
import Mathlib.Algebra.Ring.Nat

/-!
# Reports in JSON

A JSON report is an object, and programs look at its fields (`Json.field?`). What it tells of the
groups of a command is compared here with the words that were typed for them.

An entry tells of its group (`Command.tellsGroup_groupJson`): of a verb or a preposition the words,
and of a noun phrase its nouns. For each noun there is a set mark for every word of the phrase, and
the words that the noun goes by fall into those that were mentioned, which are the words of the
phrase, and those that were not (`Command.TellsCluster`).

A report can be read back as long as no number in it has too many digits
(`Command.fits_answerJson`). Nothing but scores is altered by that, so its groups and suggestions
are read as they were told (`Command.reread_groupJson`).
-/

namespace CommandPrompt

/-- The value of a field, if the value is an object that has one. -/
def Json.field? (value : Json) (name : String) : Option Json :=
  match value with
  | .object fields => get? fields name
  | _ => none

/-- A field that is read again has its value read again. -/
theorem Json.field?_reread (value : Json) (name : String) :
    value.reread.field? name = (value.field? name).map reread := by
  cases value with
  | object fields =>
    show get? (rereadFields fields) name = (get? fields name).map reread
    unfold get?
    rw [rereadFields_eq_map, List.find?_map, Option.map_map, Option.map_map]
    rfl
  | _ => rfl

/-! ### The words of a cluster -/

namespace Cluster

variable {noun : Noun} {keys : List Text} {number : Nat}

/-- The keys that a cluster has mentioned. -/
def mentionedKeys (cluster : Cluster) : List Text := cluster.mentioned.map (·.1)

/-- The keys that a cluster leaves unsaid. -/
def unmentionedKeys (cluster : Cluster) : List Text := cluster.unmentioned.map Word.key

/-- A noun that has all of some keys has mentioned each of them once. -/
theorem mentionedKeys_following (h : ∀ key ∈ keys, key ∈ noun.keys) :
    (following number keys noun).mentionedKeys = keys.eraseDups := by
  show (mentionedBy noun keys).map (·.1) = keys.eraseDups
  rw [mentionedBy, List.map_filterMap]
  calc (keys.eraseDups.filterMap fun key =>
        ((noun.profile.words.find? (·.key == key)).map (key, ·)).map (·.1))
      = keys.eraseDups.filterMap some := by
        refine List.filterMap_congr fun key hkey => ?_
        obtain ⟨own, hown⟩ := exists_find?_profile (h key (List.mem_eraseDups.mp hkey))
        rw [hown]
        rfl
    _ = keys.eraseDups := List.filterMap_some

/-- Unsaid are the keys of the noun that the phrase has not had. -/
theorem mem_unmentionedKeys_following {key : Text} :
    key ∈ (following number keys noun).unmentionedKeys ↔ key ∈ noun.keys ∧ key ∉ keys := by
  have hmentioned : ∀ k, (following number keys noun).hasMentioned k =
      (keys.contains k && noun.keys.contains k) := fun k => hasMentioned_following k
  have hkeys : ∀ w ∈ noun.profile.words, w.key ∈ noun.keys := fun w hw =>
    (noun.any_key_profile w.key).mp (List.any_eq_true.mpr ⟨w, hw, beq_self_eq_true w.key⟩)
  unfold unmentionedKeys unmentioned
  rw [List.mem_map]
  constructor
  · rintro ⟨w, hw, rfl⟩
    obtain ⟨hw, hunsaid⟩ := List.mem_filter.mp hw
    have hkey := hkeys w (Suggestion.mem_of_mem_distinctKeys hw)
    rw [hmentioned] at hunsaid
    refine ⟨hkey, fun hmem => ?_⟩
    simp [hkey, hmem] at hunsaid
  · rintro ⟨hkey, hunsaid⟩
    obtain ⟨w, hw, hwkey⟩ := List.any_eq_true.mp ((noun.any_key_profile key).mpr hkey)
    -- of several words with one key the first is kept
    obtain ⟨u, hu, hukey⟩ := Suggestion.exists_mem_distinctKeys hw
    obtain rfl : u.key = key := hukey.trans (beq_iff_eq.mp hwkey)
    refine ⟨u, List.mem_filter.mpr ⟨hu, ?_⟩, rfl⟩
    rw [hmentioned]
    simp [hunsaid]

theorem nodup_unmentionedKeys (cluster : Cluster) : cluster.unmentionedKeys.Nodup := by
  have hdistinct : (Word.distinctKeys cluster.profile.words).Pairwise fun a b =>
      (a.key == b.key) = false := pairwise_keepFirst List.Pairwise.nil cluster.profile.words
  refine List.pairwise_map.mpr ((hdistinct.sublist List.filter_sublist).imp fun hne => ?_)
  exact beq_eq_false_iff_ne.mp hne

/-- A noun that has all of some keys has a set mark for each. -/
theorem markSigns_following (h : ∀ key ∈ keys, key ∈ noun.keys) :
    (following number keys noun).markSigns = List.replicate keys.length 'X' := by
  show (keys.map noun.keys.contains).map (fun hit => if hit then 'X' else '.') = _
  rw [List.map_map, List.eq_replicate_iff, List.length_map]
  refine ⟨rfl, fun sign hsign => ?_⟩
  obtain ⟨key, hkey, rfl⟩ := List.mem_map.mp hsign
  rw [Function.comp_apply, List.contains_iff_mem.mpr (h key hkey), if_pos rfl]

end Cluster

/-! ### Groups in JSON -/

namespace Command

/-- What an item tells of a noun of a phrase, which was typed with the given keys. -/
structure TellsCluster (world : World) (keys : List Text) (cluster : Cluster) (item : Json) :
    Prop where
  /-- The noun is one of the world. -/
  ref : item.field? "ref_id" = some (.int cluster.key)
  noun : ∃ noun ∈ world.nouns, noun.ref = cluster.key ∧ ∃ mentioned unmentioned,
    item.field? "mentioned" = some (.ofTexts mentioned) ∧
    item.field? "unmentioned" = some (.ofTexts unmentioned) ∧
    (mentioned ++ unmentioned).Nodup ∧ (∀ key, key ∈ mentioned ↔ key ∈ keys) ∧
    ∀ key, key ∈ mentioned ++ unmentioned ↔ key ∈ noun.keys
  /-- There is a mark for every key, and it is set. -/
  marks : item.field? "marks" = some (.string (List.replicate keys.length 'X'))

/-- What an entry tells of a group, which was typed with the given keys. -/
inductive TellsGroup (world : World) (keys : List Text) : Group → Json → Prop where
  /-- A verb or a preposition is told by its words. -/
  | words {group : Group} {entry : Json} (hphrase : group.isNounPhrase = false)
      (hkind : entry.field? "kind" = some (.ofString group.kind))
      (hwords : entry.field? "words" = some (.ofTexts (group.words.map Word.spelling))) :
      TellsGroup world keys group entry
  /-- A noun phrase is told by its nouns. -/
  | nounPhrase {clusters : List Cluster} {entry : Json} {items : List Json}
      (hkind : entry.field? "kind" = some (.ofString "noun_phrase"))
      (hitems : entry.field? "clusters" = some (.array items))
      (h : List.Forall₂ (TellsCluster world keys) clusters items) :
      TellsGroup world keys (.nounPhrase clusters) entry

theorem mem_sorted {ts : List Text} {t : Text} : t ∈ ts.mergeSort Text.le ↔ t ∈ ts :=
  (List.mergeSort_perm ts Text.le).mem_iff

theorem reread_clusterJson (cluster : Cluster) :
    (clusterJson cluster).reread = clusterJson cluster := by
  refine Json.reread_ofFields_eq_self fun f hf => ?_
  simp only [List.mem_cons, List.not_mem_nil, or_false] at hf
  rcases hf with rfl | rfl | rfl | rfl | rfl | rfl
  · rfl
  · rfl
  · rfl
  · rfl
  · exact Json.reread_ofTexts _
  · exact Json.reread_ofTexts _

/-- A group that is no phrase is told by its words. -/
theorem groupJson_eq {group : Group} (h : group.isNounPhrase = false) :
    groupJson group = .ofFields [("kind", .ofString group.kind),
      ("words", .ofTexts (group.words.map Word.spelling))] := by
  cases group with
  | verb words =>
    show Json.ofFields [_, ("words", .array (words.map (Json.string ∘ Word.spelling)))] = _
    rw [← List.map_map]
    rfl
  | preposition word => rfl
  | nounPhrase clusters => exact absurd h (by simp [Group.isNounPhrase])

theorem exists_clusters_of_isNounPhrase {group : Group} (h : group.isNounPhrase = true) :
    ∃ clusters, group = .nounPhrase clusters := by
  cases group with
  | nounPhrase clusters => exact ⟨clusters, rfl⟩
  | verb words => exact absurd h (by simp [Group.isNounPhrase])
  | preposition word => exact absurd h (by simp [Group.isNounPhrase])

theorem reread_groupJson (group : Group) : (groupJson group).reread = groupJson group := by
  cases hphrase : group.isNounPhrase with
  | false =>
    rw [groupJson_eq hphrase]
    refine Json.reread_ofFields_eq_self fun f hf => ?_
    simp only [List.mem_cons, List.not_mem_nil, or_false] at hf
    rcases hf with rfl | rfl
    · rfl
    · exact Json.reread_ofTexts _
  | true =>
    obtain ⟨clusters, rfl⟩ := exists_clusters_of_isNounPhrase hphrase
    refine Json.reread_ofFields_eq_self fun f hf => ?_
    simp only [List.mem_cons, List.not_mem_nil, or_false] at hf
    rcases hf with rfl | rfl
    · rfl
    · exact Json.reread_array_map reread_clusterJson _

/-- **An item tells of its noun** which of its words were typed. -/
theorem tellsCluster_following {world : World} {noun : Noun} (hnoun : noun ∈ world.nouns)
    {keys : List Text} (h : ∀ key ∈ keys, key ∈ noun.keys) (number : Nat) :
    TellsCluster world keys (.following number keys noun)
      (clusterJson (.following number keys noun)) where
  ref := rfl
  noun := by
    -- what is said of the noun are the keys of the phrase, each of them once
    have hmentioned : ∀ key,
        key ∈ (Cluster.following number keys noun).mentionedKeys ↔ key ∈ keys := by
      intro key
      rw [Cluster.mentionedKeys_following h, List.mem_eraseDups]
    have hnodup : (Cluster.following number keys noun).mentionedKeys.Nodup := by
      rw [Cluster.mentionedKeys_following h]
      exact nodup_eraseDups keys
    refine ⟨noun, hnoun, rfl, (Cluster.mentionedKeys _).mergeSort Text.le,
      (Cluster.unmentionedKeys _).mergeSort Text.le, rfl, rfl, ?_, ?_, ?_⟩
    · rw [List.nodup_append']
      refine ⟨(List.mergeSort_perm _ _).nodup_iff.mpr hnodup,
        (List.mergeSort_perm _ _).nodup_iff.mpr (Cluster.nodup_unmentionedKeys _), ?_⟩
      intro key hsaid hunsaid
      exact (Cluster.mem_unmentionedKeys_following.mp (mem_sorted.mp hunsaid)).2
        ((hmentioned key).mp (mem_sorted.mp hsaid))
    · intro key
      rw [mem_sorted, hmentioned]
    · intro key
      rw [List.mem_append, mem_sorted, mem_sorted, hmentioned,
        Cluster.mem_unmentionedKeys_following]
      by_cases hkey : key ∈ keys
      · exact iff_of_true (Or.inl hkey) (h key hkey)
      · simp [hkey]
  marks := by
    show some (Json.string (Cluster.following number keys noun).markSigns) = _
    rw [Cluster.markSigns_following h]

/-- **An entry tells of its group** what was typed for it. -/
theorem tellsGroup_groupJson {world : World} {keys : List Text} {group : Group}
    (h : group.IsReadAs world keys) : TellsGroup world keys group (groupJson group) := by
  have hwords : ∀ {keys : List Text} {group : Group}, group.isNounPhrase = false →
      TellsGroup world keys group (groupJson group) := by
    intro keys group hphrase
    rw [groupJson_eq hphrase]
    exact .words hphrase rfl rfl
  cases h with
  | nothing => exact hwords rfl
  | verb _ => exact hwords rfl
  | preposition _ => exact hwords rfl
  | nounPhrase hkeys number =>
    refine .nounPhrase rfl rfl ?_
    rw [List.forall₂_map_right_iff, List.forall₂_same]
    intro cluster hcluster
    obtain ⟨noun, hnoun, rfl⟩ := List.mem_map.mp hcluster
    obtain ⟨hnoun, hfits⟩ := World.mem_fitting.mp hnoun
    exact tellsCluster_following hnoun hfits number

/-! ### Reports that are short enough to be read -/

/-- The number has no more digits than a reader takes. -/
def IsShort (n : Int) : Prop := n.natAbs < 10 ^ Integer.maxDigits

theorem fits_int {depth : Nat} {n : Int} (h : IsShort n) : Json.Fits depth (.int n) :=
  .int ((Nat.length_toDigits_le_iff (by decide) (by decide)).mpr h)

theorem fits_suggestionJson (depth : Nat) (suggestion : Suggestion) :
    Json.Fits (depth + 1) (suggestionJson suggestion) := by
  have hnames : (["text", "display", "score"] : List String).Nodup := by decide
  refine Json.fits_ofFields hnames fun f hf => ?_
  simp only [List.mem_cons, List.not_mem_nil, or_false] at hf
  rcases hf with rfl | rfl | rfl
  · exact .string _
  · exact .string _
  · cases suggestion.score with
    | bottom => exact .infinite true
    | finite q => exact .decimal _
    | top => exact .string _

theorem fits_clusterJson (depth : Nat) {cluster : Cluster} (h : IsShort cluster.key) :
    Json.Fits (depth + 2) (clusterJson cluster) := by
  have hnames : (["noun", "ref_id", "marks", "complete", "mentioned", "unmentioned"] :
      List String).Nodup := by decide
  refine Json.fits_ofFields hnames fun f hf => ?_
  simp only [List.mem_cons, List.not_mem_nil, or_false] at hf
  rcases hf with rfl | rfl | rfl | rfl | rfl | rfl
  · exact .string _
  · exact fits_int h
  · exact .string _
  · exact .bool _
  · exact Json.fits_ofTexts depth _
  · exact Json.fits_ofTexts depth _

theorem fits_groupJson (depth : Nat) {group : Group}
    (h : ∀ cluster ∈ group.clusters, IsShort cluster.key) :
    Json.Fits (depth + 4) (groupJson group) := by
  cases hphrase : group.isNounPhrase with
  | false =>
    rw [groupJson_eq hphrase]
    have hnames : (["kind", "words"] : List String).Nodup := by decide
    refine Json.fits_ofFields hnames fun f hf => ?_
    simp only [List.mem_cons, List.not_mem_nil, or_false] at hf
    rcases hf with rfl | rfl
    · exact .string _
    · exact Json.fits_ofTexts (depth + 2) _
  | true =>
    obtain ⟨clusters, rfl⟩ := exists_clusters_of_isNounPhrase hphrase
    have hnames : (["kind", "clusters"] : List String).Nodup := by decide
    refine Json.fits_ofFields hnames fun f hf => ?_
    simp only [List.mem_cons, List.not_mem_nil, or_false] at hf
    rcases hf with rfl | rfl
    · exact .string _
    · refine .array fun item hitem => ?_
      obtain ⟨cluster, hcluster, rfl⟩ := List.mem_map.mp hitem
      exact fits_clusterJson depth (h cluster hcluster)

/-- The fields that every answer has. -/
def commonFields (answer : Answer) : List (String × Json) :=
  [("text", .string answer.line.text), ("caret", .int answer.line.caret),
    ("ok", .bool answer.isOk), ("error", (answer.error?.map Json.ofString).getD .null),
    ("suggestions", .array (answer.suggestions.map suggestionJson))]

/-- The fields of an answer that is told with its groups. -/
def groupFields (context : Context) : List (String × Json) :=
  [("working_word", .string context.workingWord), ("groups", .array (context.groups.map groupJson))]

theorem answerJson_eq (withGroups : Bool) (answer : Answer) :
    answerJson withGroups answer = .ofFields (commonFields answer ++
      ((shownGroups? withGroups answer).map groupFields).getD []) := by
  unfold answerJson
  cases shownGroups? withGroups answer <;> rfl

theorem field?_suggestions (withGroups : Bool) (answer : Answer) :
    (answerJson withGroups answer).field? "suggestions" =
      some (.array (answer.suggestions.map suggestionJson)) := rfl

theorem field?_error (withGroups : Bool) (answer : Answer) :
    (answerJson withGroups answer).field? "error" =
      some ((answer.error?.map Json.ofString).getD .null) := rfl

theorem field?_groups (withGroups : Bool) (answer : Answer) :
    (answerJson withGroups answer).field? "groups" =
      (shownGroups? withGroups answer).map fun context =>
        .array (context.groups.map groupJson) := by
  rw [answerJson_eq]
  cases shownGroups? withGroups answer <;> rfl

theorem fits_answerJson (depth : Nat) {answer : Answer} (withGroups : Bool)
    (hcaret : IsShort answer.line.caret)
    (hkeys : ∀ context, shownGroups? withGroups answer = some context →
      ∀ group ∈ context.groups, ∀ cluster ∈ group.clusters, IsShort cluster.key) :
    Json.Fits (depth + 6) (answerJson withGroups answer) := by
  have hcommon : ∀ f ∈ commonFields answer, Json.Fits (depth + 5) f.2 := by
    intro f hf
    simp only [commonFields, List.mem_cons, List.not_mem_nil, or_false] at hf
    rcases hf with rfl | rfl | rfl | rfl | rfl
    · exact .string _
    · exact fits_int hcaret
    · exact .bool _
    · cases answer.error? with
      | none => exact .null
      | some error => exact .string _
    · refine .array fun item hitem => ?_
      obtain ⟨suggestion, -, rfl⟩ := List.mem_map.mp hitem
      exact fits_suggestionJson (depth + 3) suggestion
  rw [answerJson_eq]
  cases hshown : shownGroups? withGroups answer with
  | none =>
    have hnames : (["text", "caret", "ok", "error", "suggestions"] : List String).Nodup := by decide
    exact Json.fits_ofFields hnames fun f hf => hcommon f (by simpa using hf)
  | some context =>
    have hnames : (["text", "caret", "ok", "error", "suggestions", "working_word", "groups"] :
        List String).Nodup := by decide
    refine Json.fits_ofFields hnames fun f hf => ?_
    rcases List.mem_append.mp hf with hf | hf
    · exact hcommon f hf
    · simp only [Option.map_some, Option.getD_some, groupFields, List.mem_cons, List.not_mem_nil,
        or_false] at hf
      rcases hf with rfl | rfl
      · exact .string _
      · refine .array fun item hitem => ?_
        obtain ⟨group, hgroup, rfl⟩ := List.mem_map.mp hitem
        exact fits_groupJson depth (hkeys context hshown group hgroup)

end Command

end CommandPrompt
