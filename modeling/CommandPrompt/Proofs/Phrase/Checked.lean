import CommandPrompt.Phrase.Weaver
import CommandPrompt.Proofs.Phrase.Ledger

/-!
# Weaving with every access checked

Here words are woven in a way that can fail: the profile of a noun word is looked up and has to be
there, and clusters are told of words mark by mark (`Ledger.learn?`), where a mark has to be there
to be set. Nothing of the kind ever fails, for any catalog that has a profile for the nouns of the
words (`Weaver.weave?_eq`): checked weaving gives the groups and the misreadings of weaving.

The reason is kept by every step (`Weaver.InOrder.take`), for any catalog. The ledger has one
cluster for a noun in a phrase, and all profiles in play are those that the catalog has under their
numbers.
-/

namespace CommandPrompt

/-- An access that fails. -/
inductive AccessFault where
  /-- The catalog has no profile for the noun of a word. -/
  | noProfile (word : Word)
  /-- A mark cannot be set. -/
  | mark (fault : MarkFault)
  deriving DecidableEq, Repr

/-- What checked weaving can end with. -/
inductive WeaveFault where
  | misread (misreading : Misreading)
  | access (fault : AccessFault)
  deriving DecidableEq, Repr

namespace Weaver

/-! ### Checked weaving -/

/-- Tracks the noun of a word, which has to have a profile. -/
def track? (catalog : Catalog) (weaver : Weaver) (word : Word) : Except AccessFault Weaver :=
  match catalog.profileFor? word with
  | some _ => .ok (track catalog weaver word)
  | none => .error (.noProfile word)

/-- Every tracked noun is told of a word. -/
def learn? (weaver : Weaver) (word : Word) : Except AccessFault Weaver := do
  let ledger ← (weaver.tracked.foldlM (fun (ledger : Ledger) profile =>
    ledger.learn? profile word weaver.phrase weaver.streak) weaver.ledger).mapError .mark
  return { weaver with ledger }

/-- Takes words one by one as `takeWords` does. -/
def takeWords? (catalog : Catalog) (weaver : Weaver) :
    List Word → Except AccessFault (Weaver × Bool)
  | [] => .ok (weaver, false)
  | word :: rest => do
    let weaver ← track? catalog weaver word
    let named := weaver.tracked.any (·.isNamedBy word)
    let learned ← weaver.learn? word
    let (weaver, found) ← takeWords? catalog learned rest
    return (weaver, named || found)

/-- Takes words that are all about nouns as `takeNouns` does. -/
def takeNouns? (catalog : Catalog) (weaver : Weaver) (group : AmbiguityGroup) :
    Except AccessFault Weaver := do
  let (weaver, named) ← takeWords? catalog weaver group
  let weaver := { weaver with streak := weaver.streak + 1 }
  return if named then weaver.breakPhrase else weaver

/-- Takes one group behind the verb as `take` does. -/
def take? (catalog : Catalog) (weaver : Weaver) (group : AmbiguityGroup) :
    Except WeaveFault Weaver :=
  if group.any (!·.isNounWord) then (weaver.takePreposition group).mapError .misread
  else (takeNouns? catalog weaver group).mapError .access

/-- Weaves groups of words into a command as `weave` does. -/
def weave? (catalog : Catalog) : List AmbiguityGroup → Except WeaveFault (List Group)
  | [] => .ok [.verb []]
  | verbs :: rest => do
    let weaver ← rest.foldlM (take? catalog) {}
    let groups ← (groupsFrom weaver.ledger 1 weaver.segments).mapError .misread
    return .verb verbs :: groups

/-! ### Weavers in order -/

/-- A weaver all of whose profiles are those of the catalog. -/
structure InOrder (catalog : Catalog) (weaver : Weaver) : Prop where
  keyed : weaver.ledger.Keyed catalog
  tracked : ∀ profile ∈ weaver.tracked, catalog.profile? profile.key = some profile

variable {catalog : Catalog} {weaver : Weaver}

theorem inOrder_empty (catalog : Catalog) : InOrder catalog {} :=
  ⟨Ledger.keyed_empty catalog, fun _ h => absurd h List.not_mem_nil⟩

/-- Breaking a phrase forgets the tracked nouns. -/
theorem InOrder.breakPhrase (h : InOrder catalog weaver) : InOrder catalog weaver.breakPhrase :=
  ⟨h.keyed, fun _ hmem => absurd hmem List.not_mem_nil⟩

theorem InOrder.track (h : InOrder catalog weaver) (word : Word) :
    InOrder catalog (Weaver.track catalog weaver word) := by
  rw [Weaver.track]
  split
  · next profile hprofile =>
    split
    · exact h
    · refine ⟨h.keyed, fun p hp => ?_⟩
      rcases List.mem_append.mp hp with hp | hp
      · exact h.tracked p hp
      · -- a profile is found under its own number
        obtain rfl := List.mem_singleton.mp hp
        obtain ⟨key, -, hfind⟩ := Option.bind_eq_some_iff.mp hprofile
        have hkey := List.find?_some hfind
        rw [beq_iff_eq] at hkey
        rw [hkey]
        exact hfind
  · exact h

/-- Tracked nouns learn a word, one after another. -/
theorem keyed_foldl_learn {word : Word} {phrase : Int} {streak : Nat} {profiles : List Profile}
    (hprofiles : ∀ profile ∈ profiles, catalog.profile? profile.key = some profile)
    {ledger : Ledger} (h : ledger.Keyed catalog) :
    (profiles.foldl (fun ledger profile =>
      ledger.modify profile phrase (·.learn word streak)) ledger).Keyed catalog := by
  induction profiles generalizing ledger with
  | nil => exact h
  | cons profile profiles ih =>
    exact ih (fun p hp => hprofiles p (List.mem_cons_of_mem profile hp))
      (h.modify (hprofiles profile List.mem_cons_self) phrase (Cluster.keeps_learn word streak))

theorem InOrder.learn (h : InOrder catalog weaver) (word : Word) :
    InOrder catalog (weaver.learn word) :=
  ⟨keyed_foldl_learn h.tracked h.keyed, h.tracked⟩

theorem InOrder.takeWords (h : InOrder catalog weaver) (words : List Word) :
    InOrder catalog (Weaver.takeWords catalog weaver words).1 := by
  induction words generalizing weaver with
  | nil => exact h
  | cons word rest ih => exact ih ((h.track word).learn word)

theorem InOrder.takeNouns (h : InOrder catalog weaver) (group : AmbiguityGroup) :
    InOrder catalog (Weaver.takeNouns catalog weaver group) := by
  have htaken := h.takeWords group
  rw [Weaver.takeNouns]
  dsimp only
  split
  · exact InOrder.breakPhrase ⟨htaken.keyed, htaken.tracked⟩
  · exact ⟨htaken.keyed, htaken.tracked⟩

theorem InOrder.takePreposition (h : InOrder catalog weaver) {group : AmbiguityGroup}
    {weaver' : Weaver} (htake : weaver.takePreposition group = .ok weaver') :
    InOrder catalog weaver' := by
  rw [Weaver.takePreposition] at htake
  split at htake
  · obtain rfl := Except.ok.inj htake
    exact h.breakPhrase
  · obtain rfl := Except.ok.inj htake
    exact ⟨h.breakPhrase.keyed, h.breakPhrase.tracked⟩
  · exact absurd htake (by simp)

/-- **A weaver stays in order**, whatever group it takes. -/
theorem InOrder.take (h : InOrder catalog weaver) {group : AmbiguityGroup} {weaver' : Weaver}
    (htake : Weaver.take catalog weaver group = .ok weaver') : InOrder catalog weaver' := by
  rw [Weaver.take] at htake
  split at htake
  · exact h.takePreposition htake
  · exact Except.ok.inj htake ▸ h.takeNouns group

theorem InOrder.foldlM_take (h : InOrder catalog weaver) {groups : List AmbiguityGroup}
    {weaver' : Weaver} (htake : groups.foldlM (Weaver.take catalog) weaver = .ok weaver') :
    InOrder catalog weaver' :=
  invariant_of_foldlM_eq_ok (fun _ _ h _ _ hok => h.take hok) h htake

/-! ### No access fails -/

/-- Every one of the marks is there by which tracked nouns learn a word. -/
theorem foldlM_learn?_eq {word : Word} {phrase : Int} {streak : Nat} {profiles : List Profile}
    (hprofiles : ∀ profile ∈ profiles, catalog.profile? profile.key = some profile)
    {ledger : Ledger} (h : ledger.Keyed catalog) :
    profiles.foldlM (fun ledger profile => ledger.learn? profile word phrase streak) ledger =
      .ok (profiles.foldl (fun ledger profile =>
        ledger.modify profile phrase (·.learn word streak)) ledger) := by
  induction profiles generalizing ledger with
  | nil => rfl
  | cons profile profiles ih =>
    have hprofile := hprofiles profile List.mem_cons_self
    rw [List.foldlM_cons, h.learn?_eq hprofile]
    exact ih (fun p hp => hprofiles p (List.mem_cons_of_mem profile hp))
      (h.modify hprofile phrase (Cluster.keeps_learn word streak))

theorem InOrder.learn?_eq (h : InOrder catalog weaver) (word : Word) :
    weaver.learn? word = .ok (weaver.learn word) := by
  rw [learn?, foldlM_learn?_eq h.tracked h.keyed]
  rfl

/-- Whether the catalog has a profile for every noun that words are about. -/
def HasProfiles (catalog : Catalog) (words : List Word) : Prop :=
  ∀ w ∈ words, w.isNounWord = true → (catalog.profileFor? w).isSome = true

theorem InOrder.takeWords?_eq (h : InOrder catalog weaver) {words : List Word}
    (hprofiles : ∀ w ∈ words, (catalog.profileFor? w).isSome = true) :
    takeWords? catalog weaver words = .ok (Weaver.takeWords catalog weaver words) := by
  induction words generalizing weaver with
  | nil => rfl
  | cons word rest ih =>
    have htrack : track? catalog weaver word = .ok (Weaver.track catalog weaver word) := by
      obtain ⟨profile, hprofile⟩ := Option.isSome_iff_exists.mp (hprofiles word List.mem_cons_self)
      rw [track?, hprofile]
    have htracked := h.track word
    have htake := ih (htracked.learn word) fun w hw => hprofiles w (List.mem_cons_of_mem word hw)
    rw [takeWords?, htrack]
    change (Weaver.learn? _ word >>= _) = _
    rw [htracked.learn?_eq word]
    change (takeWords? catalog _ rest >>= _) = _
    rw [htake]
    rfl

theorem InOrder.takeNouns?_eq (h : InOrder catalog weaver) {group : AmbiguityGroup}
    (hprofiles : ∀ w ∈ group, (catalog.profileFor? w).isSome = true) :
    takeNouns? catalog weaver group = .ok (Weaver.takeNouns catalog weaver group) := by
  rw [takeNouns?, h.takeWords?_eq hprofiles]
  rfl

/-- One group is taken, or misread, as it is without checks. -/
theorem InOrder.take?_eq (h : InOrder catalog weaver) {group : AmbiguityGroup}
    (hprofiles : HasProfiles catalog group) :
    take? catalog weaver group = (Weaver.take catalog weaver group).mapError .misread := by
  rw [take?, Weaver.take]
  split
  · rfl
  · next hnouns =>
    have hall : ∀ w ∈ group, (catalog.profileFor? w).isSome = true := by
      intro w hw
      refine hprofiles w hw ?_
      by_contra hnoun
      exact hnouns (List.any_eq_true.mpr ⟨w, hw, by simpa using hnoun⟩)
    rw [h.takeNouns?_eq hall]
    rfl

theorem InOrder.foldlM_take?_eq (h : InOrder catalog weaver) {groups : List AmbiguityGroup}
    (hprofiles : ∀ group ∈ groups, HasProfiles catalog group) :
    groups.foldlM (take? catalog) weaver =
      (groups.foldlM (Weaver.take catalog) weaver).mapError .misread := by
  induction groups generalizing weaver with
  | nil => rfl
  | cons group groups ih =>
    rw [List.foldlM_cons, List.foldlM_cons, h.take?_eq (hprofiles group List.mem_cons_self)]
    cases hgroup : Weaver.take catalog weaver group with
    | error misreading => rfl
    | ok weaver' =>
      exact ih (h.take hgroup) fun g hg => hprofiles g (List.mem_cons_of_mem group hg)

/-- **Weaving never fails at an access**: with all of them checked it gives what it gives without
them. -/
theorem weave?_eq {groups : List AmbiguityGroup}
    (hprofiles : ∀ group ∈ groups, HasProfiles catalog group) :
    weave? catalog groups = (weave catalog groups).mapError .misread := by
  cases groups with
  | nil => rfl
  | cons verbs rest =>
    have htake := (inOrder_empty catalog).foldlM_take?_eq
      fun group hgroup => hprofiles group (List.mem_cons_of_mem verbs hgroup)
    rw [weave?, weave, run, htake]
    cases rest.foldlM (take catalog) {} with
    | error misreading => rfl
    | ok weaver =>
      change (((groupsFrom weaver.ledger 1 weaver.segments).mapError _) >>= _) =
        ((groupsFrom weaver.ledger 1 weaver.segments >>= _).map _).mapError _
      cases groupsFrom weaver.ledger 1 weaver.segments <;> rfl

end Weaver

end CommandPrompt
