import CommandPrompt.Proofs.Context.OwnPrepositions

/-!
# Every line is understood or misread

In a built world, whatever text is typed, wherever the caret is and however many suggestions are
wanted, a line has a context or one of the five misreadings (`Context.ofLine_total`). Nothing else
can happen on the way, which is told stage by stage (`Context.IsSafe`).

* The matcher recurses on a bound, and a reading that ran out of it would look like a misreading. It
  never does: every match takes at least one character and no more than there are
  (`AmbiguityGroup.length_of_mem_longest`), so any bound from the length of the text on gives the
  same (`AmbiguityGroup.readFrom_eq_of_le`).
* The weaver finds a profile for every noun word, and no mark that it sets lies before the first one
  (`Weaver.weave?_eq`) or behind the last (`Marks.getElem?_put`).
* The scorer spreads a penalty over a length that is never nothing, because both the candidate and
  what was typed keep their length in lower case (`Score.exists_atOffset_eq_ok`).
-/

namespace CommandPrompt

/-! ### Matches take something -/

namespace AmbiguityGroup

variable {vocabulary : List Word}

theorem length_le_of_mem_collect {lowered : Text} {size : Nat} {found : Option Nat} {ws : List Word}
    {w : Word} (h : w ∈ collect lowered size found ws) : w.spelling.length ≤ size := by
  fun_induction collect lowered size found ws
  case case1 | case3 => exact absurd h List.not_mem_nil
  case case2 ih | case5 ih => exact ih h
  case case4 hfits _ _ ih =>
    rcases List.mem_cons.mp h with rfl | h
    · exact Nat.not_lt.mp hfits
    · exact ih h

/-- **A match takes something** of a text, and no more than there is. -/
theorem length_of_mem_longest (hne : ∀ w ∈ vocabulary, w.spelling ≠ []) {t : Text} {w : Word}
    (h : w ∈ longest vocabulary t) : 0 < w.spelling.length ∧ w.spelling.length ≤ t.length :=
  ⟨List.length_pos_of_ne_nil (hne w ((collect_sublist none vocabulary).subset h)),
    length_le_of_mem_collect h⟩

/-- Two bounds that are long enough give the same reading. -/
theorem readFrom_eq_of_le (hne : ∀ w ∈ vocabulary, w.spelling ≠ []) {bound bound' : Nat} {t : Text}
    (h : t.length ≤ bound) (h' : t.length ≤ bound') :
    readFrom vocabulary bound t = readFrom vocabulary bound' t := by
  induction bound generalizing bound' t with
  | zero =>
    obtain rfl := List.length_eq_zero_iff.mp (Nat.le_zero.mp h)
    rw [readFrom, readFrom]
  | succ bound ih =>
    cases t with
    | nil => rw [readFrom, readFrom]
    | cons c cs =>
      obtain ⟨bound', rfl⟩ := Nat.exists_eq_succ_of_ne_zero (show bound' ≠ 0 by
        rintro rfl
        exact absurd h' (by simp))
      cases hlongest : longest vocabulary (c :: cs) with
      | nil => simp only [readFrom, hlongest]
      | cons w others =>
        simp only [readFrom, hlongest]
        split
        · rfl
        · -- what is left behind the match is shorter than the text
          have hpos := (length_of_mem_longest hne (hlongest ▸ List.mem_cons_self)).1
          have hrest := (Text.strip_sublist ((c :: cs).drop w.spelling.length)).length_le
          rw [List.length_drop] at hrest
          have hread := @ih bound' (Text.strip ((c :: cs).drop w.spelling.length))
            (by omega) (by omega)
          rw [hread]

end AmbiguityGroup

/-! ### Nouns have profiles -/

theorem World.Sound.hasProfiles {world : World} (h : world.Sound) {words : List Word}
    (hwords : ∀ w ∈ words, w ∈ world.words) :
    Weaver.HasProfiles (Catalog.ofWorld world) words := by
  intro w hw hnoun
  rw [Catalog.profileFor?_eq h (hwords w hw), Option.isSome_map]
  exact hnoun

namespace Context

variable {world : World}

/-- The groups that a text makes up, where every access of the weaver is checked. -/
def checkedGroups (catalog : Catalog) (t : Text) : Except WeaveFault (List Group) := do
  let matched ← (AmbiguityGroup.read catalog.words t).mapError .misread
  let gated ← (AmbiguityGroup.gate matched).mapError .misread
  Weaver.weave? catalog gated

/-- **Reading never fails at an access.** -/
theorem checkedGroups_eq (h : world.Sound) (t : Text) :
    checkedGroups (Catalog.ofWorld world) t =
      (readGroups (Catalog.ofWorld world) t).mapError .misread := by
  rw [checkedGroups, readGroups]
  cases hread : AmbiguityGroup.read (Catalog.ofWorld world).words t with
  | error misreading => rfl
  | ok matched =>
    change ((AmbiguityGroup.gate matched).mapError _ >>= _) =
      (AmbiguityGroup.gate matched >>= _).mapError _
    cases hgate : AmbiguityGroup.gate matched with
    | error misreading => rfl
    | ok gated =>
      refine Weaver.weave?_eq fun group hgroup => h.hasProfiles fun w hw => ?_
      -- the gate leaves some of the words of each place, and these are words of the vocabulary
      obtain ⟨heq, -⟩ := AmbiguityGroup.gateFrom_eq_ok_iff.mp hgate
      rw [heq] at hgroup
      obtain ⟨i, hi, rfl⟩ := List.mem_mapIdx.mp hgroup
      rw [Catalog.words_ofWorld] at hread
      obtain ⟨v, -, hplace⟩ := AmbiguityGroup.exists_ofKey_of_mem_read h.longestFirst hread
        (List.getElem_mem hi)
      rw [hplace] at hw
      exact World.mem_words_of_mem_vocabulary
        (AmbiguityGroup.mem_ofKey.mp (List.mem_filter.mp hw).1).1

/-! ### Whole lines -/

/-- Nothing fails on the way from a line to its context. -/
structure IsSafe (round : Rounding) (catalog : Catalog) (line : Line) : Prop where
  /-- A match takes something of the text that is left, and no more than there is. -/
  matched : ∀ t, ∀ w ∈ AmbiguityGroup.longest catalog.words t,
    0 < w.spelling.length ∧ w.spelling.length ≤ t.length
  /-- No text is too long for its bound. -/
  unbounded : ∀ t bound, t.length ≤ bound →
    AmbiguityGroup.readFrom catalog.words bound t =
      AmbiguityGroup.readFrom catalog.words t.length t
  /-- Profiles and marks are found wherever they are looked for. -/
  woven : checkedGroups catalog (settledPart line.clean) =
    (readGroups catalog (settledPart line.clean)).mapError .misread
  /-- A mark that is set is one of the marks, also where it was missing. -/
  marked : ∀ marks position hit, (Marks.put marks position hit)[position]? = some hit
  /-- Every candidate has a score at every offset. -/
  scored : ∀ groups, readGroups catalog (settledPart line.clean) = .ok groups →
    let workingWord := line.clean.workingWord line.clean.workingSpan
    ∀ w ∈ Suggestion.candidates catalog groups (isFresh workingWord),
      ∀ offset ∈ Score.offsets workingWord w.spelling,
        ∃ score, Score.atOffset round workingWord w.spelling offset = .ok score

theorem isSafe (h : world.Sound) (round : Rounding) (line : Line) :
    IsSafe round (Catalog.ofWorld world) line := by
  have hne : ∀ w ∈ (Catalog.ofWorld world).words, w.spelling ≠ [] := by
    intro w hw
    rw [Catalog.words_ofWorld] at hw
    exact (h.longestFirst.isSpelling w hw).ne_nil
  constructor
  case matched => exact fun t w hw => AmbiguityGroup.length_of_mem_longest hne hw
  case unbounded =>
    exact fun t bound hle => AmbiguityGroup.readFrom_eq_of_le hne hle (Nat.le_refl _)
  case woven => exact checkedGroups_eq h _
  case marked => exact Marks.getElem?_put
  case scored =>
    intro groups hread workingWord w hw offset hoffset
    have hle : workingWord.length ≤ w.spelling.length := by
      rw [Score.offsets] at hoffset
      split at hoffset
      · exact absurd hoffset List.not_mem_nil
      · next hlt => exact Nat.not_lt.mp hlt
    exact Score.exists_atOffset_eq_ok (allTypable_workingWord line line.clean.workingSpan)
      (h.isSpelling (mem_words_of_mem_candidates h hread hw)).allTypable hle offset

/-- **Every line is understood or misread.** In a built world a line has a context or one of the
five misreadings, whatever its text, its caret and the whole number of suggestions wanted are, and
nothing fails on the way. -/
theorem ofLine_total (hbuilt : world.Built) (round : Rounding) (limit : Int) (text : Text)
    (caret : Option Int) :
    let catalog := Catalog.ofWorld world
    let line := Line.withCaret text caret
    ((∃ context, ofLine round catalog (.whole limit) line = .ok context) ∨
        ∃ misreading, ofLine round catalog (.whole limit) line = .error (.misread misreading)) ∧
      IsSafe round catalog line := by
  intro catalog line
  refine ⟨?_, isSafe hbuilt.sound round line⟩
  cases hread : readGroups catalog (settledPart line.clean) with
  | error misreading => exact Or.inr ⟨misreading, ofLine_of_error round limit line hread⟩
  | ok groups =>
    obtain ⟨context, hcontext, -⟩ := exists_ofLine_of_ok hbuilt.sound round limit line hread
    exact Or.inl ⟨context, hcontext⟩

/-- A line with letters that cannot be typed, a caret far outside and less than no suggestions. -/
theorem isSafe_take_red_oil :
    let catalog := Catalog.ofWorld World.oilLamp
    let line := Line.withCaret "  take réd\tOİL".toList (some 1000)
    ((∃ context, ofLine .exact catalog (.whole (-3)) line = .ok context) ∨
        ∃ misreading, ofLine .exact catalog (.whole (-3)) line = .error (.misread misreading)) ∧
      IsSafe .exact catalog line :=
  ofLine_total World.oilLamp_built .exact (-3) _ _

end Context

end CommandPrompt
