import CommandPrompt.Proofs.Context.Commands

/-!
# Noun phrases side by side

Between two noun phrases there is usually a preposition. Where there is none, the first phrase was
ended by its own last word, which is a name of some noun, and no word before it is
(`ofLine_phrase_before_phrase`). The noun that is named need not be among those that fit the phrase:
any noun of the world that the word names ends it, even one that lacks an earlier word and is left
out in the end. So the first phrase can be without a noun that was called by name
(`exists_phrase_ended_from_outside`), just if every noun with that name lacks an earlier word.
-/

namespace CommandPrompt

/-- Neighbours in a list that was made of single members come from neighbours. -/
theorem exists_adjacent_of_flatMap {α β : Type} {f : α → List β} {xs : List α}
    (hf : ∀ x ∈ xs, ∃ y, f x = [y]) {before after : List β} {y y' : β}
    (h : xs.flatMap f = before ++ y :: y' :: after) :
    ∃ b x x' a, xs = b ++ x :: x' :: a ∧ f x = [y] ∧ f x' = [y'] := by
  induction xs generalizing before with
  | nil => exact absurd h (by simp)
  | cons x xs ih =>
    obtain ⟨z, hz⟩ := hf x List.mem_cons_self
    have hrest := fun u hu => hf u (List.mem_cons_of_mem x hu)
    rw [List.flatMap_cons, hz, List.singleton_append] at h
    -- the first neighbour comes from the first member, or both come from the others
    cases before with
    | nil =>
      obtain ⟨hzy, htail⟩ := List.cons.inj h
      cases xs with
      | nil => exact absurd htail (by simp)
      | cons x' xs =>
        obtain ⟨z', hz'⟩ := hrest x' List.mem_cons_self
        rw [List.flatMap_cons, hz', List.singleton_append] at htail
        obtain ⟨hzy', -⟩ := List.cons.inj htail
        exact ⟨[], x, x', xs, rfl, hzy ▸ hz, hzy' ▸ hz'⟩
    | cons z' before =>
      obtain ⟨-, htail⟩ := List.cons.inj h
      obtain ⟨b, u, u', a, rfl, hu, hu'⟩ := ih hrest htail
      exact ⟨x :: b, u, u', a, rfl, hu, hu'⟩

section Parts

variable {world : World} {places : List AmbiguityGroup}

/-- A group of nouns is made of a phrase. -/
theorem Part.exists_of_groups_eq_nounPhrase {part : Part AmbiguityGroup} {clusters : List Cluster}
    (h : part.groups world = [.nounPhrase clusters]) :
    ∃ number items, part = .phrase number items ∧
      clusters = (world.fitting (items.map AmbiguityGroup.key)).map
        (Cluster.following number (items.map AmbiguityGroup.key)) := by
  cases part with
  | preposition place =>
    obtain ⟨w, -, heq⟩ := List.map_eq_singleton_iff.mp h
    exact absurd heq (by simp)
  | phrase number items =>
    have hclusters : Group.nounPhrase _ = Group.nounPhrase clusters := List.singleton_inj.mp h
    exact ⟨number, items, rfl, (Group.nounPhrase.inj hclusters).symm⟩

/-- Without a clash every part becomes one group. -/
theorem AmbiguityGroup.exists_groups_eq (hclash : clash? places = none)
    {part : Part AmbiguityGroup} (hpart : part ∈ parts places) :
    ∃ group, part.groups world = [group] := by
  cases part with
  | preposition place =>
    obtain ⟨hplace, hprep⟩ := Part.isPreposition_of_mem_cut hpart
    rw [clash?, List.findSome?_eq_none_iff] at hclash
    obtain ⟨word, hword⟩ :=
      exists_prepositions_eq hprep (Option.map_eq_none_iff.mp (hclash place hplace))
    exact ⟨.preposition word, by rw [Part.groups, hword]; rfl⟩
  | phrase number items => exact ⟨_, rfl⟩

/-- A place has a name if its key is one of a noun. -/
theorem World.IsPlace.hasName_iff {group : AmbiguityGroup} (hplace : world.IsPlace group)
    (h : world.Sound) :
    group.hasName = true ↔ ∃ noun ∈ world.nouns, group.key ∈ noun.nameKeys := by
  rw [AmbiguityGroup.hasName, hplace.eq_objectWords, h.any_name_objectWords_iff,
    ← hplace.eq_objectWords]

/-- Whether the last word of some words is a name of a noun and none of the others is. -/
def World.EndsInName (world : World) (keys : List Text) (name : Text) : Prop :=
  (∃ noun ∈ world.nouns, name ∈ noun.nameKeys) ∧
    ∀ key ∈ keys, ∀ noun ∈ world.nouns, key ∉ noun.nameKeys

/-- A phrase that ends in a name has a noun that was called by name just if some noun with that name
has the other words, too. -/
theorem World.EndsInName.exists_complete_iff {keys : List Text} {name : Text}
    (hends : world.EndsInName keys name) {number : Nat} :
    (∃ cluster ∈ (world.fitting (keys ++ [name])).map
        (Cluster.following number (keys ++ [name])), cluster.isComplete = true) ↔
      ∃ noun ∈ world.nouns, name ∈ noun.nameKeys ∧ ∀ key ∈ keys, key ∈ noun.keys := by
  constructor
  · rintro ⟨cluster, hcluster, hcomplete⟩
    obtain ⟨noun, hfitting, rfl⟩ := List.mem_map.mp hcluster
    obtain ⟨hnoun, hkeys⟩ := World.mem_fitting.mp hfitting
    obtain ⟨key, hkey, hname⟩ := List.any_eq_true.mp hcomplete
    rw [List.contains_iff_mem] at hname
    refine ⟨noun, hnoun, ?_, fun key hkey => hkeys key (List.mem_append_left _ hkey)⟩
    rcases List.mem_append.mp hkey with hkey | hkey
    · -- a complete cluster was called by name, and only the last word is one
      exact absurd hname (hends.2 key hkey noun hnoun)
    · exact List.mem_singleton.mp hkey ▸ hname
  · rintro ⟨noun, hnoun, hname, hkeys⟩
    have hfitting : noun ∈ world.fitting (keys ++ [name]) := by
      refine World.mem_fitting.mpr ⟨hnoun, fun key hkey => ?_⟩
      rcases List.mem_append.mp hkey with hkey | hkey
      · exact hkeys key hkey
      · exact List.mem_singleton.mp hkey ▸ Noun.mem_keys_of_mem_nameKeys hname
    refine ⟨_, List.mem_map_of_mem hfitting, ?_⟩
    exact List.any_eq_true.mpr ⟨name, by simp, List.contains_iff_mem.mpr hname⟩

/-- A phrase right before a phrase ends in a name. -/
theorem World.Sound.exists_endsInName (h : world.Sound)
    (hplaces : ∀ place ∈ places, world.IsPlace place)
    {before after : List (Part AmbiguityGroup)} {number number' : Nat}
    {items items' : List AmbiguityGroup} (hparts : AmbiguityGroup.parts places =
      before ++ .phrase number items :: .phrase number' items' :: after) :
    ∃ keys name, items.map AmbiguityGroup.key = keys ++ [name] ∧ world.EndsInName keys name := by
  have hmem : Part.phrase number items ∈ AmbiguityGroup.parts places := by
    rw [hparts]
    exact List.mem_append_right _ List.mem_cons_self
  obtain ⟨init, last, rfl, hplain, -⟩ := Part.exists_of_phrase_mem_cut hmem
  have hplace : ∀ place ∈ init ++ [last], world.IsPlace place :=
    fun place hplace => hplaces place (Part.mem_of_mem_cut hmem hplace)
  have hlast : last.hasName = true := by
    -- neighbours in a cut are there because something ended the first one
    obtain ⟨x, hx, hname⟩ := List.isChain_iff_forall_rel_of_append_cons_cons.mp
      (Part.isChain_cut 0 places) hparts
    rw [List.getLast?_concat] at hx
    exact Option.some.inj hx ▸ hname
  refine ⟨init.map AmbiguityGroup.key, last.key, by rw [List.map_append, List.map_singleton],
    ((hplace last (by simp)).hasName_iff h).mp hlast, fun key hkey noun hnoun hname => ?_⟩
  obtain ⟨place, hinit, rfl⟩ := List.mem_map.mp hkey
  have hhas := ((hplace place (List.mem_append_left _ hinit)).hasName_iff h).mpr
    ⟨noun, hnoun, hname⟩
  exact absurd (hhas.symm.trans (hplain place hinit).2) (by simp)

end Parts

namespace Context

variable {world : World}

/-- **A phrase right before a phrase** means some noun and was ended by its last word, which is a
name of a noun, while no word before it is. One of the nouns that the phrase means was called by
that name just if some noun with the name has all the words before, too. -/
theorem ofLine_phrase_before_phrase (hbuilt : world.Built) (round : Rounding) (limit : Int)
    (line : Line) {context : Context}
    (hcontext : ofLine round (Catalog.ofWorld world) (.whole limit) line = .ok context)
    {before after : List Group} {first second : List Cluster}
    (hgroups : context.groups = before ++ .nounPhrase first :: .nounPhrase second :: after) :
    first ≠ [] ∧ ∃ number keys name, world.EndsInName keys name ∧
      first = (world.fitting (keys ++ [name])).map (Cluster.following number (keys ++ [name])) ∧
      ((∃ cluster ∈ first, cluster.isComplete = true) ↔
        ∃ noun ∈ world.nouns, name ∈ noun.nameKeys ∧ ∀ key ∈ keys, key ∈ noun.keys) := by
  have h := hbuilt.sound
  have hread := groups_of_ofLine_eq_ok h round limit line hcontext
  rw [hgroups] at hread
  rcases readGroups_eq_ok_cases h hread with
    hverb | ⟨verbs, places, hplaces, hclash, hfit, hmeaning⟩
  · have hlength := congrArg List.length hverb
    simp only [List.length_append, List.length_cons, List.length_nil] at hlength
    omega
  · -- the verb stands before both phrases, so they come from parts behind the verb
    obtain ⟨before, hmeaning⟩ : ∃ before, (AmbiguityGroup.parts places).flatMap
        (Part.groups world) = before ++ .nounPhrase first :: .nounPhrase second :: after := by
      cases before with
      | nil => exact absurd (List.cons.inj hmeaning).1 (by simp)
      | cons group before => exact ⟨before, (List.cons.inj hmeaning).2.symm⟩
    obtain ⟨b, part, part', a, hparts, hpart, hpart'⟩ := exists_adjacent_of_flatMap
      (fun part hpart => AmbiguityGroup.exists_groups_eq hclash hpart) hmeaning
    obtain ⟨number, items, rfl, rfl⟩ := Part.exists_of_groups_eq_nounPhrase hpart
    obtain ⟨number', items', rfl, -⟩ := Part.exists_of_groups_eq_nounPhrase hpart'
    obtain ⟨keys, name, hkeys, hname⟩ := h.exists_endsInName hplaces hparts
    have hfitting := hfit (.phrase number items) (by simp [hparts])
    rw [Part.isUnfit, List.isEmpty_eq_false_iff] at hfitting
    rw [hkeys] at hfitting ⊢
    exact ⟨fun hnil => hfitting (List.map_eq_nil_iff.mp hnil), number, keys, name, hname, rfl,
      hname.exists_complete_iff⟩

/-! ### A phrase that ends too early -/

/-- The groups of a command to take what a phrase means. -/
def takePhrase (keys : List Text) : List Group :=
  [.verb (AmbiguityGroup.ofKey World.oilLamp.vocabulary "take".toList),
    .nounPhrase ((World.oilLamp.fitting keys).map (Cluster.following 0 keys))]

/-- What is read from a red oil lamp: oil ended the phrase, and the lamp makes one of its own. -/
def redOilThenLamp : List Group :=
  let keys := ["lamp".toList]
  takePhrase ["red".toList, "oil".toList] ++
    [.nounPhrase ((World.oilLamp.fitting keys).map (Cluster.following 1 keys))]

/-- Commands in the world begin with its only verb. -/
theorem commandGroups_take (ts : List Text) :
    World.oilLamp.commandGroups "take".toList ts =
      .verb (AmbiguityGroup.ofKey World.oilLamp.vocabulary "take".toList) ::
        (World.oilLamp.wordParts ts).flatMap World.oilLamp.wordGroups := by
  have hverb : (AmbiguityGroup.ofKey World.oilLamp.vocabulary (Text.lower "take".toList)).filter
      Word.isVerb = AmbiguityGroup.ofKey World.oilLamp.vocabulary "take".toList := by
    rw [World.vocabulary, Word.sort_eq_insertionSort]
    decide +kernel
  rw [World.commandGroups, hverb]

theorem exists_ofLine_take_red_oil_lamp :
    ∃ context, ofLine .double (Catalog.ofWorld World.oilLamp) (.whole 5)
        (Line.atEnd "take red oil lamp ".toList) = .ok context ∧
      context.groups = redOilThenLamp := by
  have hparts : World.oilLamp.wordParts ["red".toList, "oil".toList, "lamp".toList] =
      [.phrase 0 ["red".toList, "oil".toList], .phrase 1 ["lamp".toList]] := by decide +kernel
  have hgroups : redOilThenLamp = World.oilLamp.commandGroups "take".toList
      ["red".toList, "oil".toList, "lamp".toList] := by
    rw [commandGroups_take, hparts]
    rfl
  rw [hgroups]
  exact exists_ofLine_of_isCommand World.oilLamp_built.sound (by decide +kernel) .double 5 _
    (by decide +kernel) rfl (by decide +kernel) (by decide +kernel)

/-- A phrase can be ended by a name of a noun that it does not mean. -/
theorem exists_phrase_ended_from_outside :
    World.oilLamp.Built ∧ ∃ context before after first second,
      ofLine .double (Catalog.ofWorld World.oilLamp) (.whole 5)
        (Line.atEnd "take red oil lamp ".toList) = .ok context ∧
      context.groups = before ++ .nounPhrase first :: .nounPhrase second :: after ∧
      ¬∃ cluster ∈ first, cluster.isComplete = true := by
  obtain ⟨context, hcontext, hgroups⟩ := exists_ofLine_take_red_oil_lamp
  refine ⟨World.oilLamp_built, context, [_], [], _, _, hcontext, hgroups, ?_⟩
  decide +kernel

/-- Red oil was ended by its last word. -/
theorem exists_ofLine_red_oil_before_lamp :
    ∃ context, ofLine .double (Catalog.ofWorld World.oilLamp) (.whole 5)
        (Line.atEnd "take red oil lamp ".toList) = .ok context ∧
      (World.oilLamp.fitting ["red".toList, "oil".toList]).map
          (Cluster.following 0 ["red".toList, "oil".toList]) ≠ [] ∧
      ∃ number keys name, World.oilLamp.EndsInName keys name ∧
        (World.oilLamp.fitting ["red".toList, "oil".toList]).map
            (Cluster.following 0 ["red".toList, "oil".toList]) =
          (World.oilLamp.fitting (keys ++ [name])).map
            (Cluster.following number (keys ++ [name])) ∧
        ((∃ cluster ∈ (World.oilLamp.fitting ["red".toList, "oil".toList]).map
            (Cluster.following 0 ["red".toList, "oil".toList]), cluster.isComplete = true) ↔
          ∃ noun ∈ World.oilLamp.nouns, name ∈ noun.nameKeys ∧ ∀ key ∈ keys, key ∈ noun.keys) := by
  obtain ⟨context, hcontext, hgroups⟩ := exists_ofLine_take_red_oil_lamp
  have hadjacent : context.groups = [.verb _] ++ .nounPhrase _ :: .nounPhrase _ :: [] := hgroups
  exact ⟨context, hcontext,
    ofLine_phrase_before_phrase World.oilLamp_built .double 5 _ hcontext hadjacent⟩

end Context

end CommandPrompt
