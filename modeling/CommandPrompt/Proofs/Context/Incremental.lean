import CommandPrompt.Proofs.Context.Commands
import CommandPrompt.Proofs.Context.Continuation

/-!
# Typing is incremental

A line that has a context had one at every word before (`Context.ofLine_of_prefix`), so a fault at
the end of a word cannot be mended by typing on. And the groups grow with the line: all groups but
the last one are closed and stay as they are, and the last one keeps its kind and its words, or, if
it is a noun phrase, can only lose nouns (`Group.GoesOn`).

Of a command this is read off the parts of its words (`World.IsCommand.goesOn`). Words that come in
leave the parts before them alone, but for a phrase that is open. If one is open, it takes in the
next words until it is closed, and each of them can only take nouns away (`World.fitting_append`);
if none is, the groups so far are a beginning of the new ones.
-/

namespace CommandPrompt

/-! ### Groups that go on -/

namespace Group

/-- Whether a group says what another one says, and perhaps more: it is of the same kind, has the
same words, and can mean no other nouns. -/
structure Narrows (narrow wide : Group) : Prop where
  kind_eq : narrow.kind = wide.kind
  words_eq : narrow.words = wide.words
  nouns_sublist : narrow.nouns.Sublist wide.nouns

theorem Narrows.refl (group : Group) : group.Narrows group := ⟨rfl, rfl, List.Sublist.refl _⟩

/-- Whether groups begin others, but for the last one, which may be narrowed. -/
def GoesOn (groups groups' : List Group) : Prop :=
  ∃ closed last next others, groups = closed ++ [last] ∧ groups' = closed ++ next :: others ∧
    next.Narrows last

theorem GoesOn.length_le {groups groups' : List Group} (h : GoesOn groups groups') :
    groups.length ≤ groups'.length := by
  obtain ⟨closed, last, next, others, rfl, rfl, -⟩ := h
  simp only [List.length_append, List.length_cons, List.length_nil]
  omega

/-- Groups with further ones behind them go on. -/
theorem goesOn_append {groups : List Group} (hne : groups ≠ []) (others : List Group) :
    GoesOn groups (groups ++ others) := by
  obtain ⟨closed, last, rfl⟩ := (List.eq_nil_or_concat groups).resolve_left hne
  refine ⟨closed, last, last, others, List.concat_eq_append, ?_, Narrows.refl last⟩
  rw [List.concat_eq_append, List.append_assoc, List.singleton_append]

end Group

/-! ### Commands that go on -/

namespace World

variable {world : World}

/-- A phrase with more words narrows the phrase. -/
theorem narrows_nounPhrase (world : World) (number : Nat) (keys more : List Text) :
    (Group.nounPhrase ((world.fitting (keys ++ more)).map
        (Cluster.following number (keys ++ more)))).Narrows
      (.nounPhrase ((world.fitting keys).map (Cluster.following number keys))) where
  kind_eq := rfl
  words_eq := rfl
  nouns_sublist := by
    rw [Group.nouns_nounPhrase_following, Group.nouns_nounPhrase_following, fitting_append]
    exact List.filter_sublist

/-- Words that are placed are so without those at the end. -/
theorem IsPlaced.of_append {ts rest : List Text} (hplaced : world.IsPlaced (ts ++ rest)) :
    world.IsPlaced ts := by
  refine ⟨fun t ht => hplaced.1 t (List.mem_append_left rest ht), fun position t ht => ?_⟩
  have hlt : position < ts.length := (List.getElem?_eq_some_iff.mp ht).1
  refine hplaced.2 position t ?_
  rw [List.getElem?_append_left hlt]
  exact ht

/-- A phrase that no noun fits is not mended by further words. -/
theorem IsUnfitPart.append {number : Nat} {ts : List Text}
    (hunfit : world.IsUnfitPart (.phrase number ts)) (more : List Text) :
    world.IsUnfitPart (.phrase number (ts ++ more)) := by
  rw [IsUnfitPart] at hunfit ⊢
  rw [List.map_append, fitting_append, hunfit, List.filter_nil]

/-- Parts that end in a phrase go on with this phrase, and with whatever stands behind it. -/
theorem goesOn_flatMap_wordGroups (world : World) (verb : Group) (closed : List (Part Text))
    (number : Nat) (opened more : List Text) (parts : List (Part Text)) :
    Group.GoesOn (verb :: (closed ++ [Part.phrase number opened]).flatMap world.wordGroups)
      (verb :: (closed ++ Part.phrase number (opened ++ more) :: parts).flatMap
        world.wordGroups) := by
  refine ⟨verb :: closed.flatMap world.wordGroups, _, _, parts.flatMap world.wordGroups, ?_, ?_,
    narrows_nounPhrase world number (opened.map Text.lower) (more.map Text.lower)⟩
  · rw [flatMap_wordGroups_phrase]
    rfl
  · rw [List.flatMap_append, List.flatMap_cons, wordGroups, List.map_append]
    rfl

/-- **A command was one before its last words**, and goes on with what it was. -/
theorem IsCommand.goesOn {t : Text} {ts rest : List Text}
    (hcommand : world.IsCommand t (ts ++ rest)) :
    world.IsCommand t ts ∧
      Group.GoesOn (world.commandGroups t ts) (world.commandGroups t (ts ++ rest)) := by
  obtain ⟨hplaced, hshared, hfit⟩ := hcommand
  have hplaced' : world.IsPlaced (t :: ts) := by
    rw [← List.cons_append] at hplaced
    exact hplaced.of_append
  have hshared' : ∀ u ∈ ts, ¬world.IsSharedPreposition u :=
    fun u hu => hshared u (List.mem_append_left rest hu)
  obtain ⟨closed, number, opened, hplain, hts, happend⟩ := world.exists_wordParts_append ts
  replace happend := happend rest
  rw [happend] at hfit
  rw [commandGroups, commandGroups, happend, hts]
  by_cases hopened : opened = []
  · -- no phrase is open, so all parts stay
    subst hopened
    rw [Part.phraseOf_nil, List.append_nil] at hts ⊢
    refine ⟨⟨hplaced', hshared', fun part hpart => ?_⟩, ?_⟩
    · rw [hts] at hpart
      exact hfit part (List.mem_append_left _ hpart)
    · rw [List.flatMap_append, ← List.cons_append]
      exact Group.goesOn_append (List.cons_ne_nil _ _) _
  · -- the open phrase stays where it is and takes in some of the words
    obtain ⟨more, parts, hcut⟩ := Part.exists_cut_append_of_ne_nil hopened hplain number rest
    rw [Part.phraseOf_of_ne_nil number hopened] at hts ⊢
    rw [hcut] at hfit ⊢
    refine ⟨⟨hplaced', hshared', fun part hpart => ?_⟩,
      goesOn_flatMap_wordGroups world _ closed number opened more parts⟩
    rw [hts, List.mem_append, List.mem_singleton] at hpart
    rcases hpart with hpart | rfl
    · exact hfit part (List.mem_append_left _ hpart)
    · exact fun hunfit => hfit (.phrase number (opened ++ more))
        (List.mem_append_right _ List.mem_cons_self) (hunfit.append more)

end World

/-! ### Lines that go on -/

/-- **A beginning that ends in a space has the first words**, and what follows it has the others. -/
theorem Text.exists_words_eq_append {p t : Text} (hp : p <+: t) (hspace : p.getLast? = some ' ') :
    ∃ rest, t.words = p.words ++ rest := by
  obtain ⟨s, rfl⟩ := hp
  obtain ⟨init, rfl⟩ := List.getLast?_eq_some_iff.mp hspace
  refine ⟨words s, ?_⟩
  have hinit : words (init ++ [' ']) = words init := by
    rw [words_append_cons_space]
    exact List.append_nil (words init)
  rw [hinit, List.append_assoc, List.singleton_append, words_append_cons_space]

/-- A beginning of a clean text is clean. -/
theorem Text.clean_of_prefix {p t : Text} (hclean : t.clean = t) (hp : p <+: t) : p.clean = p := by
  have htyp : t.isTypable := by
    rw [← hclean]
    exact isTypable_clean t
  rw [List.prefix_iff_eq_take.mp hp]
  exact clean_eq_self (isTypableAfter_take htyp p.length)

namespace Context

variable {world : World}

/-- **Every beginning of a command has a context.** If a clean line that ends in a space has one, so
has each of its beginnings that ends in a space. The groups of the line are no fewer, and go on with
those of the beginning. -/
theorem ofLine_of_prefix (hbuilt : world.Built) (hsingle : world.HasSingleWords)
    (round : Rounding) (limit : Int) {t : Text} (hclean : t.clean = t)
    (hspace : t.getLast? = some ' ') {context' : Context}
    (hcontext' : ofLine round (Catalog.ofWorld world) (.whole limit) (Line.atEnd t) = .ok context')
    {p : Text} (hp : p <+: t) (hpspace : p.getLast? = some ' ') :
    ∃ context, ofLine round (Catalog.ofWorld world) (.whole limit) (Line.atEnd p) = .ok context ∧
      context.groups.length ≤ context'.groups.length ∧
      Group.GoesOn context.groups context'.groups := by
  have h := hbuilt.sound
  obtain ⟨v, ts, hwords, -, -, hcommand, hgroups⟩ :=
    exists_isCommand_of_ofLine h hsingle hclean hspace hcontext'
  obtain ⟨u, us, hpwords, hpeq, hus⟩ :=
    Text.exists_eq_unwords_append_space (Text.clean_of_prefix hclean hp) hpspace
  -- the words of the beginning are the first words of the line
  obtain ⟨rest, hrest⟩ := Text.exists_words_eq_append hp hpspace
  rw [hwords, hpwords, List.cons_append] at hrest
  obtain ⟨rfl, rfl⟩ := List.cons.inj hrest
  obtain ⟨hcommand', hgoes⟩ := hcommand.goesOn
  rw [← hgroups] at hgoes
  obtain ⟨context, hcontext, hcontextgroups⟩ :=
    (exists_ofLine_iff_isCommand h hsingle round limit hus).mpr ⟨hcommand', rfl⟩
  rw [← hpeq] at hcontext
  rw [← hcontextgroups] at hgoes
  exact ⟨context, hcontext, hgoes.length_le, hgoes⟩

/-- Taking the red lamp from the oil began with taking something red. -/
theorem exists_ofLine_take_red :
    ∃ context', ofLine .double (Catalog.ofWorld World.oilLamp) (.whole 5)
        (Line.atEnd "take red lamp from oil ".toList) = .ok context' ∧
      ∃ context, ofLine .double (Catalog.ofWorld World.oilLamp) (.whole 5)
          (Line.atEnd "take red ".toList) = .ok context ∧
        context.groups.length ≤ context'.groups.length ∧
        Group.GoesOn context.groups context'.groups := by
  have hcommand : World.oilLamp.IsCommand "take".toList
      ["red".toList, "lamp".toList, "from".toList, "oil".toList] := by decide +kernel
  obtain ⟨context', hcontext', -⟩ :=
    exists_ofLine_of_isCommand World.oilLamp_built.sound (by decide +kernel) .double 5
      "take red lamp from oil ".toList (by decide +kernel) rfl (by rfl) hcommand
  exact ⟨context', hcontext', ofLine_of_prefix World.oilLamp_built (by decide +kernel) .double 5
    (by decide +kernel) rfl hcontext' (by decide +kernel) rfl⟩

end Context

end CommandPrompt
