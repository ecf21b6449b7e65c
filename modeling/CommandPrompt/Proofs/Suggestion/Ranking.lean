import CommandPrompt.Proofs.Outcome
import CommandPrompt.Proofs.Text.LowerCase
import CommandPrompt.Proofs.World.Order
import CommandPrompt.Suggestion.Basic

/-!
# Ranking always comes to an end

A score spreads a penalty over the length by which a candidate is longer than the typed text, plus
one. That would be nothing if lower-casing made the candidate shorter than the typed text. It does
not for texts that can be typed, so every candidate has a score (`Score.exists_best_eq_ok`), and the
candidates can be ranked (`Suggestion.exists_rankPartial_eq_ok`). What a ranking holds is then told
from the scores: each candidate with its best score, if that is more than zero
(`Suggestion.exists_score_of_rankPartial`). Whether a word is new or partial, what is ranked is
shown with the texts of its word (`Suggestion.ShowsWord`).

Candidates come from three places only (`Suggestion.mem_candidates`): they are verbs of the catalog,
words of its nouns, or words of the nouns in the last group. Once no verb is asked for they come
from the last two, and there is one if neither of them is empty (`Suggestion.candidates_ne_nil`).
-/

namespace CommandPrompt

variable {round : Rounding} {typed candidate : Text}

/-! ### Scores -/

namespace Score

theorem exists_atOffset_eq_ok (htyped : typed.AllTypable) (hcandidate : candidate.AllTypable)
    (hle : typed.length ≤ candidate.length) (offset : Int) :
    ∃ score, atOffset round typed candidate offset = .ok score := by
  -- the length by which the candidate is longer is no less than zero, so the divisor is not zero
  have hspare : (candidate.lower.length : Int) - typed.lower.length + 1 ≠ 0 := by
    rw [Text.length_lower htyped, Text.length_lower hcandidate]
    omega
  rw [atOffset]
  dsimp only
  split
  · exact ⟨_, rfl⟩
  · split
    · exact ⟨_, rfl⟩
    · exact ⟨_, rfl⟩

/-- **Every typable candidate has a score.** -/
theorem exists_best_eq_ok (htyped : typed.AllTypable) (hcandidate : candidate.AllTypable) :
    ∃ score, best round typed candidate = .ok score := by
  rw [best]
  split
  · exact ⟨_, rfl⟩
  · refine exists_foldlM_eq_ok (fun start offset hoffset => ?_) _
    have hle : typed.length ≤ candidate.length := by
      rw [offsets] at hoffset
      split at hoffset
      · exact absurd hoffset List.not_mem_nil
      · next hlt => exact Nat.not_lt.mp hlt
    obtain ⟨scored, hscored⟩ := @exists_atOffset_eq_ok round _ _ htyped hcandidate hle offset
    rw [hscored]
    exact ⟨_, rfl⟩

end Score

namespace Suggestion

/-! ### Rankings -/

/-- The texts of a suggestion are those of its word. -/
structure ShowsWord (suggestion : Suggestion) : Prop where
  text_eq : suggestion.text = suggestion.word.spelling
  display_eq : suggestion.display = suggestion.word.display

theorem showsWord_ofWord (w : Word) (score : Extended) : (ofWord w score).ShowsWord :=
  ⟨rfl, rfl⟩

theorem showsWord_of_mem_rankFresh {words : List Word} {suggestion : Suggestion}
    (h : suggestion ∈ rankFresh round words) : suggestion.ShowsWord := by
  obtain ⟨⟨w, index⟩, -, rfl⟩ := List.mem_map.mp h
  exact showsWord_ofWord w _

/-- **Typable candidates can be ranked.** -/
theorem exists_rankPartial_eq_ok (htyped : typed.AllTypable) {words : List Word}
    (hwords : ∀ w ∈ words, w.spelling.AllTypable) :
    ∃ ranked, rankPartial round typed words = .ok ranked := by
  induction words with
  | nil => exact ⟨[], rfl⟩
  | cons w ws ih =>
    obtain ⟨score, hscore⟩ :=
      @Score.exists_best_eq_ok round _ _ htyped (hwords w List.mem_cons_self)
    obtain ⟨others, hothers⟩ := ih fun u hu => hwords u (List.mem_cons_of_mem w hu)
    rw [rankPartial, hscore, hothers]
    exact ⟨_, rfl⟩

/-- **A ranking scores every candidate**, and keeps those that score at all. -/
theorem exists_score_of_rankPartial {words : List Word} {ranked : List Suggestion}
    (hranked : rankPartial round typed words = .ok ranked) :
    ∃ score : Word → Extended, (∀ w ∈ words, Score.best round typed w.spelling = .ok (score w)) ∧
      ranked = (words.filter fun w => .finite 0 < score w).map fun w => .ofWord w (score w) := by
  -- a candidate without a score would have made the ranking fail, so its value here is never used
  let score (w : Word) : Extended :=
    match Score.best round typed w.spelling with
    | .ok score => score
    | .error _ => .finite 0
  refine ⟨score, ?_⟩
  induction words generalizing ranked with
  | nil =>
    obtain rfl := Except.ok.inj hranked
    exact ⟨fun _ h => absurd h List.not_mem_nil, rfl⟩
  | cons w ws ih =>
    rw [rankPartial] at hranked
    obtain ⟨best, hbest, hranked⟩ := bind_eq_ok_iff.mp hranked
    obtain ⟨others, hothers, hranked⟩ := bind_eq_ok_iff.mp hranked
    obtain rfl := Except.ok.inj hranked
    obtain ⟨hscores, hkept⟩ := ih hothers
    have hscore : score w = best := by
      change (match Score.best round typed w.spelling with
        | .ok score => score
        | .error _ => .finite 0) = best
      rw [hbest]
    refine ⟨List.forall_mem_cons.mpr ⟨by rw [hscore, hbest], hscores⟩, ?_⟩
    rw [List.filter_cons, hscore, hkept]
    by_cases hpos : Extended.finite 0 < best
    · rw [if_pos hpos, if_pos (decide_eq_true hpos), List.map_cons, hscore]
    · rw [if_neg hpos, if_neg (by simpa using hpos)]

theorem showsWord_of_mem_rankPartial {words : List Word} {ranked : List Suggestion}
    (hranked : rankPartial round typed words = .ok ranked) {suggestion : Suggestion}
    (h : suggestion ∈ ranked) : suggestion.ShowsWord := by
  obtain ⟨score, -, rfl⟩ := exists_score_of_rankPartial hranked
  obtain ⟨w, -, rfl⟩ := List.mem_map.mp h
  exact showsWord_ofWord w _

/-! ### Candidates -/

theorem mem_of_mem_distinctKeys {words : List Word} {w : Word} (h : w ∈ Word.distinctKeys words) :
    w ∈ words := (Word.distinctKeys_sublist words).subset h

/-- Keeping one word of every key loses no key. -/
theorem exists_mem_distinctKeys {words : List Word} {w : Word} (h : w ∈ words) :
    ∃ u ∈ Word.distinctKeys words, u.key = w.key := by
  obtain ⟨u, hu, hkey⟩ := @exists_related_keepFirst _ (fun a b : Word => a.key == b.key)
    (fun a => beq_self_eq_true a.key) [] words w h
  exact ⟨u, hu, beq_iff_eq.mp hkey⟩

theorem distinctKeys_ne_nil {words : List Word} (h : words ≠ []) :
    Word.distinctKeys words ≠ [] := by
  obtain ⟨w, hw⟩ := List.exists_mem_of_ne_nil words h
  obtain ⟨u, hu, -⟩ := exists_mem_distinctKeys hw
  exact List.ne_nil_of_mem hu

/-- The words that a cluster leaves unsaid are words of its noun that were not mentioned. -/
theorem mem_unmentionedWords {cluster : Cluster} {w : Word}
    (h : w ∈ cluster.unmentionedWords) :
    w ∈ cluster.profile.words ∧ cluster.hasMentioned w.key = false := by
  rw [Cluster.unmentionedWords, Word.mem_sort, Cluster.unmentioned, List.mem_filter] at h
  exact ⟨mem_of_mem_distinctKeys h.1, by simpa using h.2⟩

/-- For every word of its noun that was not mentioned, a cluster leaves one unsaid that is spelled
alike and comes no later. -/
theorem exists_mem_unmentionedWords {cluster : Cluster}
    (horder : cluster.profile.words.Pairwise fun a b => (Word.order a b).isLE) {w : Word}
    (hw : w ∈ cluster.profile.words) (hnot : cluster.hasMentioned w.key = false) :
    ∃ u ∈ cluster.unmentionedWords, u.key = w.key ∧ (Word.order u w).isLE := by
  obtain ⟨u, hu, hkey, hle⟩ := Word.exists_isLE_distinctKeys horder hw
  refine ⟨u, ?_, hkey, hle⟩
  rw [Cluster.unmentionedWords, Word.mem_sort, Cluster.unmentioned, List.mem_filter, hkey, hnot]
  exact ⟨hu, rfl⟩

/-- Where candidates come from once no verb is asked for. -/
theorem mem_candidates_of_not_asksForVerb {catalog : Catalog} {groups : List Group}
    {isFresh : Bool} {w : Word} (hasks : asksForVerb groups isFresh = false)
    (h : w ∈ candidates catalog groups isFresh) :
    (∃ profile ∈ catalog.profiles, w ∈ profile.words) ∨
      ∃ group, groups.getLast? = some group ∧
        ∃ cluster ∈ group.incomplete, w ∈ cluster.unmentionedWords := by
  rw [candidates, hasks, if_neg Bool.false_ne_true] at h
  split at h
  · next first others hlast =>
    obtain ⟨group, hgroup, hincomplete⟩ := Option.map_eq_some_iff.mp hlast
    have hmem := Word.mem_sort.mp (mem_of_mem_distinctKeys h)
    rw [← hincomplete] at hmem
    obtain ⟨cluster, hcluster, hw⟩ := List.mem_flatMap.mp hmem
    exact Or.inr ⟨group, hgroup, cluster, hcluster, hw⟩
  · have hmem := Word.mem_sort.mp (mem_of_mem_distinctKeys h)
    obtain ⟨profile, hprofile, hw⟩ := List.mem_flatMap.mp hmem
    exact Or.inl ⟨profile, (List.mergeSort_perm _ _).mem_iff.mp hprofile, hw⟩

/-- Where candidates come from. -/
theorem mem_candidates {catalog : Catalog} {groups : List Group} {isFresh : Bool} {w : Word}
    (h : w ∈ candidates catalog groups isFresh) :
    w ∈ catalog.words ∨ (∃ profile ∈ catalog.profiles, w ∈ profile.words) ∨
      ∃ group, groups.getLast? = some group ∧
        ∃ cluster ∈ group.incomplete, w ∈ cluster.unmentionedWords := by
  cases hasks : asksForVerb groups isFresh with
  | true =>
    rw [candidates, hasks, if_pos rfl] at h
    exact Or.inl (List.mem_filter.mp (mem_of_mem_distinctKeys h)).1
  | false => exact Or.inr (mem_candidates_of_not_asksForVerb hasks h)

/-- While a noun phrase is unfinished, the candidates are what its nouns leave unsaid, in order. -/
theorem candidates_of_incomplete {catalog : Catalog} {groups : List Group} {isFresh : Bool}
    (hasks : asksForVerb groups isFresh = false) {group : Group}
    (hlast : groups.getLast? = some group) (hincomplete : group.incomplete ≠ []) :
    candidates catalog groups isFresh =
      Word.distinctKeys (Word.sort (group.incomplete.flatMap Cluster.unmentionedWords)) := by
  obtain ⟨first, others, hcons⟩ := List.exists_cons_of_ne_nil hincomplete
  rw [candidates, hasks, if_neg Bool.false_ne_true, hlast, Option.map_some, hcons]

theorem exists_of_mem_candidates_of_incomplete {catalog : Catalog} {groups : List Group}
    {isFresh : Bool} {w : Word} (h : w ∈ candidates catalog groups isFresh) {group : Group}
    (hasks : asksForVerb groups isFresh = false) (hlast : groups.getLast? = some group)
    (hincomplete : group.incomplete ≠ []) :
    ∃ cluster ∈ group.incomplete, w ∈ cluster.unmentionedWords := by
  rw [candidates_of_incomplete hasks hlast hincomplete] at h
  exact List.mem_flatMap.mp (Word.mem_sort.mp (mem_of_mem_distinctKeys h))

/-- While a noun phrase has one unfinished noun, the candidates are what that noun leaves unsaid. -/
theorem candidates_of_incomplete_eq_singleton {catalog : Catalog} {verbs : List Word}
    {clusters : List Cluster} {isFresh : Bool} {cluster : Cluster}
    (h : (Group.nounPhrase clusters).incomplete = [cluster]) :
    candidates catalog [.verb verbs, .nounPhrase clusters] isFresh =
      Word.distinctKeys cluster.unmentionedWords := by
  have hsorted : Word.sort cluster.unmentionedWords = cluster.unmentionedWords :=
    Word.sort_of_pairwise (Word.pairwise_sort _)
  rw [candidates_of_incomplete (by rfl) (by rfl) (h ▸ List.cons_ne_nil cluster []), h,
    List.flatMap_singleton, hsorted]

/-- There are candidates once no verb is asked for, if there is a noun to begin with and every
unfinished noun leaves a word unsaid. -/
theorem candidates_ne_nil {catalog : Catalog} {groups : List Group} {isFresh : Bool}
    (hasks : asksForVerb groups isFresh = false) (hstarters : catalog.nounStarters ≠ [])
    (hunsaid : ∀ group ∈ groups, ∀ cluster ∈ group.incomplete, cluster.unmentionedWords ≠ []) :
    candidates catalog groups isFresh ≠ [] := by
  rw [candidates, hasks, if_neg Bool.false_ne_true]
  split
  · next first others hlast =>
    obtain ⟨group, hgroup, hincomplete⟩ := Option.map_eq_some_iff.mp hlast
    have hfirst : first ∈ group.incomplete := by
      rw [hincomplete]
      exact List.mem_cons_self
    obtain ⟨w, hw⟩ := List.exists_mem_of_ne_nil _
      (hunsaid group (List.mem_of_getLast? hgroup) first hfirst)
    refine distinctKeys_ne_nil (List.ne_nil_of_mem (a := w) (Word.mem_sort.mpr ?_))
    exact List.mem_flatMap.mpr ⟨first, List.mem_cons_self, hw⟩
  · exact distinctKeys_ne_nil hstarters

end Suggestion

end CommandPrompt
