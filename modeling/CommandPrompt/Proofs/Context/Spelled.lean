import CommandPrompt.Proofs.Context.Reading

/-!
# Groups and the words typed for them

A command is read in two steps: its words are matched, place by place, and the places are woven into
groups. Every group goes back to places of its own, one for a verb or a preposition and one or more
for a noun phrase, and no place is left over or used twice (`Context.isReadAs_of_readGroups`). What
a group says is then told by the keys of its places (`Group.IsReadAs`). In particular a noun phrase
holds the nouns that have all of its keys, each with the cluster that followed these keys.
-/

namespace CommandPrompt

/-! ### Parts and their items -/

namespace Part

variable {α : Type}

/-- The items that a part was cut from. -/
def all : Part α → List α
  | preposition item => [item]
  | phrase _ items => items

theorem flatMap_all_attach (number : Nat) (item : α) (parts : List (Part α)) :
    (attach number item parts).flatMap all = item :: parts.flatMap all := by
  cases parts with
  | nil => rfl
  | cons part parts => cases part <;> rfl

/-- **Cutting neither loses nor repeats an item.** -/
theorem flatMap_all_cut (isPreposition endsPhrase : α → Bool) (number : Nat) (xs : List α) :
    (cut isPreposition endsPhrase number xs).flatMap all = xs := by
  fun_induction cut isPreposition endsPhrase number xs
  case case1 => rfl
  case case2 ih | case3 ih =>
    rw [List.flatMap_cons, ih]
    rfl
  case case4 ih => rw [flatMap_all_attach, ih]

end Part

/-! ### Places and their keys -/

namespace AmbiguityGroup

/-- The keys of the places of a command, set apart by the groups that the places make up: the first
place is that of the verb. -/
def keysByGroup (places : List AmbiguityGroup) : List (List Text) :=
  (places.take 1).map key :: (parts (places.drop 1)).map fun part => part.all.map key

theorem flatten_keysByGroup (places : List AmbiguityGroup) :
    (keysByGroup places).flatten = places.map key := by
  have hparts : ((parts (places.drop 1)).map fun part => part.all.map key).flatten =
      (places.drop 1).map key := by
    rw [← List.flatMap_def, ← List.map_flatMap, parts, Part.flatMap_all_cut]
  rw [keysByGroup, List.flatten_cons, hparts, ← List.map_append, List.take_append_drop]

theorem key_eq {group : AmbiguityGroup} {k : Text} (h : ∀ w ∈ group, w.key = k)
    (hne : group ≠ []) : group.key = k := by
  obtain ⟨w, ws, rfl⟩ := List.exists_cons_of_ne_nil hne
  exact h w List.mem_cons_self

/-- What is left of words with one key has that key. -/
theorem key_filter {group : AmbiguityGroup} {k : Text} (h : ∀ w ∈ group, w.key = k)
    {p : Word → Bool} (hne : group.filter p ≠ []) : key (group.filter p) = k :=
  key_eq (fun w hw => h w (List.mem_filter.mp hw).1) hne

/-- **The gate keeps the key of every place.** -/
theorem map_key_gate {matched gated : List AmbiguityGroup}
    (h : ∀ group ∈ matched, ∀ w ∈ group, w.key = group.key) (hgate : gate matched = .ok gated) :
    gated.map key = matched.map key := by
  cases matched with
  | nil =>
    obtain rfl : [] = gated := Except.ok.inj hgate
    rfl
  | cons group rest =>
    obtain ⟨hgated, hne⟩ := gate_cons_eq_ok_iff.mp hgate
    subst hgated
    obtain ⟨hverbs, hothers⟩ := List.forall_mem_cons.mp hne
    rw [List.map_cons, List.map_cons, key_filter (h group List.mem_cons_self) hverbs, List.map_map]
    congr 1
    refine List.map_congr_left fun g hg => ?_
    exact key_filter (h g (List.mem_cons_of_mem _ hg)) (hothers _ (List.mem_map_of_mem hg))

end AmbiguityGroup

/-! ### Groups and keys -/

/-- What a group holds if it was read at places with the given keys. -/
inductive Group.IsReadAs (world : World) : List Text → Group → Prop where
  /-- Nothing was typed. -/
  | nothing : IsReadAs world [] (.verb [])
  /-- A place that can stand for verbs. -/
  | verb {key : Text} {words : List Word}
      (hwords : ∀ w ∈ words, w ∈ world.words ∧ w.isVerb = true ∧ w.key = key) :
      IsReadAs world [key] (.verb words)
  /-- A place that stands for a preposition. -/
  | preposition {word : Word} (hword : word ∈ world.words) :
      IsReadAs world [word.key] (.preposition word)
  /-- Places that stand for nouns, which have all of the keys. -/
  | nounPhrase {keys : List Text} (hkeys : keys ≠ []) (number : Nat) :
      IsReadAs world keys (.nounPhrase ((world.fitting keys).map (Cluster.following number keys)))

/-- Items that become one result each become a row of results. -/
theorem forall₂_flatMap {α β γ : Type} {f : α → List β} {g : α → γ} {R : γ → β → Prop}
    {items : List α} (h : ∀ a ∈ items, ∃ b, f a = [b] ∧ R (g a) b) :
    List.Forall₂ R (items.map g) (items.flatMap f) := by
  induction items with
  | nil => exact .nil
  | cons a items ih =>
    obtain ⟨⟨b, hb, hR⟩, hitems⟩ := List.forall_mem_cons.mp h
    rw [List.map_cons, List.flatMap_cons, hb]
    exact .cons hR (ih hitems)

/-- A relation between two rows holds of them in pairs, also when one of them is mapped. -/
theorem forall₂_zip_map {α β γ : Type} {R : α → β → Prop} {S : α × β → γ → Prop} {f : β → γ}
    {as : List α} {bs : List β} (h : List.Forall₂ R as bs) (hS : ∀ a b, R a b → S (a, b) (f b)) :
    List.Forall₂ S (as.zip bs) (bs.map f) := by
  induction h with
  | nil => exact .nil
  | cons hR _ ih => exact .cons (hS _ _ hR) ih

namespace Context

variable {world : World}

/-- Every part of a command without a clash becomes one group. -/
theorem exists_isReadAs_of_mem_parts {places : List AmbiguityGroup}
    (hplaces : ∀ place ∈ places, world.IsPlace place) (hclash : AmbiguityGroup.clash? places = none)
    {part : Part AmbiguityGroup} (hpart : part ∈ AmbiguityGroup.parts places) :
    ∃ group, part.groups world = [group] ∧
      Group.IsReadAs world (part.all.map AmbiguityGroup.key) group := by
  cases part with
  | preposition place =>
    obtain ⟨hmem, hprep⟩ := Part.isPreposition_of_mem_cut hpart
    -- without a clash the place has one preposition only
    have hsecond : place.prepositions[1]? = none :=
      Option.map_eq_none_iff.mp (List.findSome?_eq_none_iff.mp hclash place hmem)
    obtain ⟨word, hword⟩ := AmbiguityGroup.exists_prepositions_eq hprep hsecond
    have hin : word ∈ place :=
      (List.mem_filter.mp (show word ∈ place.prepositions from hword ▸ List.mem_cons_self)).1
    rw [(hplaces place hmem).eq_objectWords] at hin
    obtain ⟨hvocabulary, hkey, -⟩ := World.mem_objectWords.mp hin
    refine ⟨.preposition word, ?_, ?_⟩
    · show place.prepositions.map Group.preposition = _
      rw [hword]
      rfl
    · show Group.IsReadAs world [place.key] (.preposition word)
      rw [← hkey]
      exact .preposition (World.mem_words_of_mem_vocabulary hvocabulary)
  | phrase number items =>
    obtain ⟨init, last, rfl, -, -⟩ := Part.exists_of_phrase_mem_cut hpart
    exact ⟨_, rfl, .nounPhrase (by simp [Part.all]) number⟩

/-- Matched places are made of words of the world, which share the key of their place. -/
theorem mem_words_of_mem_read (h : world.Sound) {t : Text} {matched : List AmbiguityGroup}
    (hmatched : AmbiguityGroup.read (Catalog.ofWorld world).words t = .ok matched)
    {group : AmbiguityGroup} (hgroup : group ∈ matched) {w : Word} (hw : w ∈ group) :
    w ∈ world.words ∧ w.key = group.key := by
  rw [Catalog.words_ofWorld] at hmatched
  obtain ⟨u, hu, rfl⟩ := AmbiguityGroup.exists_ofKey_of_mem_read h.longestFirst hmatched hgroup
  have hkeys : ∀ v ∈ AmbiguityGroup.ofKey world.vocabulary u.key, v.key = u.key :=
    fun v hv => (AmbiguityGroup.mem_ofKey.mp hv).2
  refine ⟨World.mem_words_of_mem_vocabulary (AmbiguityGroup.mem_ofKey.mp hw).1, ?_⟩
  rw [hkeys w hw, AmbiguityGroup.key_eq hkeys (AmbiguityGroup.ofKey_ne_nil hu)]

/-- What the gate leaves of the first place are verbs of the world, which share its key. -/
theorem isVerb_of_mem_gate (h : world.Sound) {t : Text} {matched places : List AmbiguityGroup}
    {verbs : AmbiguityGroup}
    (hmatched : AmbiguityGroup.read (Catalog.ofWorld world).words t = .ok matched)
    (hgated : AmbiguityGroup.gate matched = .ok (verbs :: places)) {w : Word} (hw : w ∈ verbs) :
    w ∈ world.words ∧ w.isVerb = true ∧ w.key = AmbiguityGroup.key verbs := by
  have hkey := ((Weaver.isPlace_of_gate h hmatched hgated).1 verbs List.mem_cons_self).2 w hw
  cases matched with
  | nil => exact absurd hgated (by simp)
  | cons group rest =>
    obtain ⟨rfl, -⟩ := List.cons.inj (AmbiguityGroup.gate_cons_eq_ok_iff.mp hgated).1
    obtain ⟨hw, hverb⟩ := List.mem_filter.mp hw
    exact ⟨(mem_words_of_mem_read h hmatched List.mem_cons_self hw).1, hverb, hkey⟩

/-- **Every group goes back to places of its own.** The keys of the matched places, in their order,
are those of the groups, one group after the other. -/
theorem isReadAs_of_readGroups (h : world.Sound) {t : Text} {groups : List Group}
    (hread : readGroups (Catalog.ofWorld world) t = .ok groups) :
    ∃ matched gated, AmbiguityGroup.read (Catalog.ofWorld world).words t = .ok matched ∧
      AmbiguityGroup.gate matched = .ok gated ∧
      (AmbiguityGroup.keysByGroup gated).flatten = matched.map AmbiguityGroup.key ∧
      List.Forall₂ (Group.IsReadAs world) (AmbiguityGroup.keysByGroup gated) groups := by
  obtain ⟨matched, hmatched, hread⟩ := bind_eq_ok_iff.mp hread
  obtain ⟨gated, hgated, hweave⟩ := bind_eq_ok_iff.mp hread
  have hshared : ∀ group ∈ matched, ∀ w ∈ group, w.key = group.key :=
    fun group hgroup w hw => (mem_words_of_mem_read h hmatched hgroup hw).2
  refine ⟨matched, gated, hmatched, hgated, ?_, ?_⟩
  · rw [AmbiguityGroup.flatten_keysByGroup, AmbiguityGroup.map_key_gate hshared hgated]
  -- where nothing was typed there is one group, which has no verbs and goes back to no place
  cases gated with
  | nil =>
    obtain rfl : [Group.verb []] = groups := Except.ok.inj hweave
    exact .cons .nothing .nil
  | cons verbs places =>
    obtain ⟨-, hplaces⟩ := Weaver.isPlace_of_gate h hmatched hgated
    rw [Weaver.weave_eq_meaning h verbs hplaces, World.meaning] at hweave
    split at hweave
    · exact absurd hweave (by simp)
    · next hclash =>
      split at hweave
      · exact absurd hweave (by simp)
      · obtain rfl := Except.ok.inj hweave
        exact .cons (.verb fun w hw => isVerb_of_mem_gate h hmatched hgated hw)
          (forall₂_flatMap fun part hpart => exists_isReadAs_of_mem_parts hplaces hclash hpart)

/-- A context knows the settled part of its line. -/
theorem settled_of_ofLine_eq_ok {round : Rounding} {catalog : Catalog} {limit : Limit}
    {line : Line} {context : Context} (h : ofLine round catalog limit line = .ok context) :
    context.settled = settledPart line.clean := by
  rw [ofLine, ofClean] at h
  obtain ⟨groups, -, h⟩ := bind_eq_ok_iff.mp h
  obtain ⟨ranked, -, h⟩ := bind_eq_ok_iff.mp h
  obtain ⟨count, -, h⟩ := bind_eq_ok_iff.mp h
  obtain rfl := Except.ok.inj h
  rfl

/-- **The groups of a context go back to its settled text**, place by place. -/
theorem isReadAs_of_ofLine (h : world.Sound) {round : Rounding} {limit : Int} {line : Line}
    {context : Context}
    (hcontext : ofLine round (Catalog.ofWorld world) (.whole limit) line = .ok context) :
    ∃ matched gated,
      AmbiguityGroup.read (Catalog.ofWorld world).words context.settled = .ok matched ∧
      AmbiguityGroup.gate matched = .ok gated ∧
      (AmbiguityGroup.keysByGroup gated).flatten = matched.map AmbiguityGroup.key ∧
      List.Forall₂ (Group.IsReadAs world) (AmbiguityGroup.keysByGroup gated) context.groups := by
  rw [settled_of_ofLine_eq_ok hcontext]
  exact isReadAs_of_readGroups h (groups_of_ofLine_eq_ok h round limit line hcontext)

end Context

end CommandPrompt
