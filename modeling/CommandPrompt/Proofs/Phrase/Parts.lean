import Mathlib.Data.List.Basic
import Mathlib.Data.List.Chain
import Mathlib.Data.List.Induction
import Mathlib.Tactic.Common

/-!
# The parts of a command

What stands behind the verb of a command falls into parts (`Part.cut`): a preposition is a part of
its own, and what stands between prepositions is cut into noun phrases right behind every item that
ends one. Phrases are numbered by the breaks before them, where a preposition and the end of a
phrase both count as one break.

The definition looks at the items from the right: an item that neither is a preposition nor ends a
phrase belongs to the phrase behind it, if there is one. It does not say how to find the parts while
the items come in one by one. The laws below do. Whatever stands behind them, items that were taken
in are cut into parts that are closed for good and the items of a phrase that is still open
(`exists_cut_append`), and the next item decides what becomes of that phrase
(`cut_append_preposition`, `cut_append_end`). An open phrase stays where it is and can only become
longer (`exists_cut_append_of_ne_nil`).

Items are of any type, because commands are cut twice in this library: as words of a text, and as
groups of words of a vocabulary. The two cuts agree wherever an item of one is read as an item of
the other (`cut_map`).
-/

namespace CommandPrompt

/-- A part of a command behind the verb. -/
inductive Part (α : Type) where
  | preposition (item : α)
  /-- A noun phrase, with its number. -/
  | phrase (number : Nat) (items : List α)
  deriving DecidableEq, Repr

namespace Part

variable {α β : Type}

/-- The part with its items read as something else. -/
def map (f : α → β) : Part α → Part β
  | preposition item => preposition (f item)
  | phrase number items => phrase number (items.map f)

/-- The items of a noun phrase. -/
def items : Part α → List α
  | preposition _ => []
  | phrase _ items => items

/-- Puts an item in front of parts: into a phrase that stands first, or else into a new one. -/
def attach (number : Nat) (item : α) : List (Part α) → List (Part α)
  | phrase n items :: parts => phrase n (item :: items) :: parts
  | parts => phrase number [item] :: parts

/-- Where the parts come from when an item was put in front. -/
theorem mem_attach {number : Nat} {item : α} {parts : List (Part α)} {part : Part α}
    (h : part ∈ attach number item parts) :
    (∃ items, part.items = item :: items ∧ (items = [] ∨ ∃ n, phrase n items ∈ parts)) ∨
      part ∈ parts := by
  rw [attach.eq_def] at h
  split at h
  · next n items others =>
    rcases List.mem_cons.mp h with rfl | h
    · exact Or.inl ⟨items, rfl, Or.inr ⟨n, List.mem_cons_self⟩⟩
    · exact Or.inr (List.mem_cons_of_mem _ h)
  · rcases List.mem_cons.mp h with rfl | h
    · exact Or.inl ⟨[], rfl, Or.inl rfl⟩
    · exact Or.inr h

/-- A phrase of some items, if there are any. -/
def phraseOf (number : Nat) (items : List α) : List (Part α) :=
  if items.isEmpty then [] else [phrase number items]

@[simp] theorem phraseOf_nil (number : Nat) : phraseOf number ([] : List α) = [] := rfl

theorem phraseOf_of_ne_nil (number : Nat) {items : List α} (h : items ≠ []) :
    phraseOf number items = [phrase number items] := by
  rw [phraseOf, if_neg (by simpa using h)]

section Cut

variable (isPreposition endsPhrase : α → Bool)

/-- Cuts items into parts. The first phrase gets the given number. -/
def cut (number : Nat) : List α → List (Part α)
  | [] => []
  | item :: rest =>
    if isPreposition item then preposition item :: cut (number + 1) rest
    else if endsPhrase item then phrase number [item] :: cut (number + 1) rest
    else attach number item (cut number rest)

/-- An item that leaves its phrase open. -/
def IsPlain (item : α) : Prop := isPreposition item = false ∧ endsPhrase item = false

variable {isPreposition endsPhrase}

/-! ### Items that come in one by one -/

section Append

variable {opened : List α} (hopened : ∀ x ∈ opened, IsPlain isPreposition endsPhrase x)
include hopened

/-- A plain item leaves the phrase open. -/
theorem forall_isPlain_concat {x : α} (hprep : isPreposition x = false)
    (hend : endsPhrase x = false) : ∀ y ∈ opened ++ [x], IsPlain isPreposition endsPhrase y := by
  intro y hy
  rcases List.mem_append.mp hy with hy | hy
  · exact hopened y hy
  · exact List.mem_singleton.mp hy ▸ ⟨hprep, hend⟩

/-- Plain items alone make one phrase. -/
theorem cut_of_plain (number : Nat) :
    cut isPreposition endsPhrase number opened = phraseOf number opened := by
  induction opened with
  | nil => rfl
  | cons x xs ih =>
    obtain ⟨hprep, hend⟩ := hopened x List.mem_cons_self
    rw [cut, hprep, hend, ih fun y hy => hopened y (List.mem_cons_of_mem x hy)]
    cases xs <;> rfl

/-- A preposition closes the phrase before it. -/
theorem cut_append_preposition {x : α} (hx : isPreposition x = true) (number : Nat)
    (rest : List α) :
    cut isPreposition endsPhrase number (opened ++ x :: rest) =
      phraseOf number opened ++ preposition x ::
        cut isPreposition endsPhrase (number + 1) rest := by
  induction opened with
  | nil => rw [List.nil_append, cut, if_pos hx]; rfl
  | cons y ys ih =>
    obtain ⟨hprep, hend⟩ := hopened y List.mem_cons_self
    rw [List.cons_append, cut, hprep, hend, ih fun z hz => hopened z (List.mem_cons_of_mem y hz)]
    -- the item before goes into the phrase, which is a new one if nothing is left to stand in it
    cases ys <;> rfl

/-- An item that ends a phrase is the last one of it. -/
theorem cut_append_end {x : α} (hprep : isPreposition x = false) (hend : endsPhrase x = true)
    (number : Nat) (rest : List α) :
    cut isPreposition endsPhrase number (opened ++ x :: rest) =
      phrase number (opened ++ [x]) :: cut isPreposition endsPhrase (number + 1) rest := by
  induction opened with
  | nil => rw [List.nil_append, cut, hprep, hend]; rfl
  | cons y ys ih =>
    obtain ⟨hyprep, hyend⟩ := hopened y List.mem_cons_self
    rw [List.cons_append, cut, hyprep, hyend,
      ih fun z hz => hopened z (List.mem_cons_of_mem y hz)]
    rfl

/-- One item more goes into the open phrase, unless it is a preposition. -/
theorem cut_append_singleton {x : α} (hprep : isPreposition x = false) (number : Nat) :
    cut isPreposition endsPhrase number (opened ++ [x]) = [phrase number (opened ++ [x])] := by
  cases hend : endsPhrase x with
  | true => exact cut_append_end hopened hprep hend number []
  | false =>
    -- a plain item leaves the phrase open, and nothing comes behind it
    rw [cut_of_plain (forall_isPlain_concat hopened hprep hend), phraseOf_of_ne_nil _ (by simp)]

end Append

/-- **An open phrase stays the first part**, whatever comes behind it: it only becomes longer. -/
theorem exists_cut_append_of_ne_nil {opened : List α} (hne : opened ≠ [])
    (hopened : ∀ x ∈ opened, IsPlain isPreposition endsPhrase x) (number : Nat) (rest : List α) :
    ∃ more parts, cut isPreposition endsPhrase number (opened ++ rest) =
      phrase number (opened ++ more) :: parts := by
  -- the items that come in decide one by one, and a plain one is added to the open ones
  induction rest generalizing opened with
  | nil =>
    refine ⟨[], [], ?_⟩
    rw [List.append_nil, cut_of_plain hopened, phraseOf_of_ne_nil _ hne]
  | cons x xs ih =>
    cases hprep : isPreposition x with
    | true =>
      refine ⟨[], preposition x :: cut isPreposition endsPhrase (number + 1) xs, ?_⟩
      rw [cut_append_preposition hopened hprep, phraseOf_of_ne_nil _ hne, List.append_nil]
      rfl
    | false =>
      cases hend : endsPhrase x with
      | true => exact ⟨[x], _, cut_append_end hopened hprep hend number xs⟩
      | false =>
        obtain ⟨more, parts, hcut⟩ := ih (by simp) (forall_isPlain_concat hopened hprep hend)
        refine ⟨x :: more, parts, ?_⟩
        rw [List.append_assoc, List.append_assoc] at hcut
        exact hcut

/-- **What was taken in is closed or open.** Some items are cut, whatever comes behind them, into
parts that are closed and the items of a phrase that is open. -/
theorem exists_cut_append (number : Nat) (xs : List α) :
    ∃ parts number' opened, (∀ x ∈ opened, IsPlain isPreposition endsPhrase x) ∧
      ∀ rest, cut isPreposition endsPhrase number (xs ++ rest) =
        parts ++ cut isPreposition endsPhrase number' (opened ++ rest) := by
  have hnone : ∀ x ∈ ([] : List α), IsPlain isPreposition endsPhrase x :=
    fun _ hx => absurd hx List.not_mem_nil
  -- items come in at the end, so the induction is on the last one
  induction xs using List.reverseRecOn with
  | nil => exact ⟨[], number, [], hnone, fun rest => rfl⟩
  | append_singleton ys y ih =>
    obtain ⟨parts, number', opened, hplain, hcut⟩ := ih
    have hcut' : ∀ rest, cut isPreposition endsPhrase number (ys ++ [y] ++ rest) =
        parts ++ cut isPreposition endsPhrase number' (opened ++ y :: rest) := by
      intro rest
      rw [List.append_assoc, List.singleton_append, hcut]
    cases hprep : isPreposition y with
    | true =>
      refine ⟨parts ++ phraseOf number' opened ++ [preposition y], number' + 1, [], hnone,
        fun rest => ?_⟩
      rw [hcut', cut_append_preposition hplain hprep, List.append_assoc, List.append_assoc]
      rfl
    | false =>
      cases hend : endsPhrase y with
      | true =>
        refine ⟨parts ++ [phrase number' (opened ++ [y])], number' + 1, [], hnone,
          fun rest => ?_⟩
        rw [hcut', cut_append_end hplain hprep hend, List.append_assoc]
        rfl
      | false =>
        refine ⟨parts, number', opened ++ [y], forall_isPlain_concat hplain hprep hend,
          fun rest => ?_⟩
        rw [hcut', List.append_assoc]
        rfl

end Cut

/-- Phrases are made of the items that were cut. -/
theorem mem_of_mem_cut {isPreposition endsPhrase : α → Bool} {number : Nat} {xs : List α}
    {part : Part α} (hpart : part ∈ cut isPreposition endsPhrase number xs) {x : α}
    (hx : x ∈ part.items) : x ∈ xs := by
  fun_induction cut isPreposition endsPhrase number xs generalizing part
  case case1 => exact absurd hpart List.not_mem_nil
  case case2 number y ys _ ih =>
    rcases List.mem_cons.mp hpart with rfl | hpart
    · exact absurd hx List.not_mem_nil
    · exact List.mem_cons_of_mem y (ih hpart hx)
  case case3 number y ys _ _ ih =>
    rcases List.mem_cons.mp hpart with rfl | hpart
    · exact List.mem_singleton.mp hx ▸ List.mem_cons_self
    · exact List.mem_cons_of_mem y (ih hpart hx)
  case case4 number y ys _ _ ih =>
    rcases mem_attach hpart with ⟨items, heq, hitems⟩ | hpart
    · rcases List.mem_cons.mp (heq ▸ hx) with rfl | hx
      · exact List.mem_cons_self
      · rcases hitems with rfl | ⟨m, hmem⟩
        · exact absurd hx List.not_mem_nil
        · exact List.mem_cons_of_mem y (ih hmem hx)
    · exact List.mem_cons_of_mem y (ih hpart hx)

/-! ### What parts look like -/

section Shape

variable {isPreposition endsPhrase : α → Bool}

/-- The only item of a phrase that need not be plain is its last one, and it is no preposition. -/
theorem exists_of_phrase_mem_cut {number : Nat} {xs : List α} {n : Nat} {items : List α}
    (h : phrase n items ∈ cut isPreposition endsPhrase number xs) :
    ∃ init last, items = init ++ [last] ∧
      (∀ x ∈ init, IsPlain isPreposition endsPhrase x) ∧ isPreposition last = false := by
  fun_induction cut isPreposition endsPhrase number xs generalizing n items
  case case1 => exact absurd h List.not_mem_nil
  case case2 ih =>
    rcases List.mem_cons.mp h with heq | h
    · exact absurd heq (by simp)
    · exact ih h
  case case3 number y ys hprep _ ih =>
    rcases List.mem_cons.mp h with heq | h
    · obtain ⟨-, rfl⟩ := phrase.inj heq
      exact ⟨[], y, rfl, fun x hx => absurd hx List.not_mem_nil, Bool.eq_false_iff.mpr hprep⟩
    · exact ih h
  case case4 number y ys hprep hend ih =>
    -- the item stands in front of a phrase, or is a phrase of its own
    have hplain : IsPlain isPreposition endsPhrase y :=
      ⟨Bool.eq_false_iff.mpr hprep, Bool.eq_false_iff.mpr hend⟩
    rcases mem_attach h with ⟨others, heq, hothers⟩ | h
    · obtain rfl : items = y :: others := heq
      rcases hothers with rfl | ⟨m, hmem⟩
      · exact ⟨[], y, rfl, fun x hx => absurd hx List.not_mem_nil, hplain.1⟩
      · obtain ⟨init, last, rfl, hinit, hlast⟩ := ih hmem
        exact ⟨y :: init, last, rfl, List.forall_mem_cons.mpr ⟨hplain, hinit⟩, hlast⟩
    · exact ih h

/-- A part of its own is made of an item that is a preposition. -/
theorem isPreposition_of_mem_cut {number : Nat} {xs : List α} {x : α}
    (h : preposition x ∈ cut isPreposition endsPhrase number xs) :
    x ∈ xs ∧ isPreposition x = true := by
  fun_induction cut isPreposition endsPhrase number xs
  case case1 => exact absurd h List.not_mem_nil
  case case2 number y ys hprep ih =>
    rcases List.mem_cons.mp h with heq | h
    · obtain rfl := preposition.inj heq
      exact ⟨List.mem_cons_self, hprep⟩
    · exact (ih h).imp_left (List.mem_cons_of_mem y)
  case case3 number y ys _ _ ih =>
    rcases List.mem_cons.mp h with heq | h
    · exact absurd heq (by simp)
    · exact (ih h).imp_left (List.mem_cons_of_mem y)
  case case4 number y ys _ _ ih =>
    rcases mem_attach h with ⟨items, heq, -⟩ | h
    · exact absurd heq (List.cons_ne_nil y items).symm
    · exact (ih h).imp_left (List.mem_cons_of_mem y)

/-- What a further item does: behind an item that ended its phrase it begins a new one, and behind a
plain item it goes on with the phrase. -/
theorem cut_concat_concat (number : Nat) (xs : List α) (x : α) {y : α}
    (hy : isPreposition y = false) :
    ∃ parts n items,
      (isPreposition x = true ∧
        cut isPreposition endsPhrase number (xs ++ [x]) = parts ++ [preposition x]) ∨
      (endsPhrase x = true ∧
        cut isPreposition endsPhrase number (xs ++ [x]) = parts ++ [phrase n items] ∧
        cut isPreposition endsPhrase number (xs ++ [x] ++ [y]) =
          parts ++ [phrase n items, phrase (n + 1) [y]]) ∨
      (endsPhrase x = false ∧
        cut isPreposition endsPhrase number (xs ++ [x]) = parts ++ [phrase n items] ∧
        cut isPreposition endsPhrase number (xs ++ [x] ++ [y]) =
          parts ++ [phrase n (items ++ [y])]) := by
  obtain ⟨parts, n, opened, hplain, hcut⟩ :=
    @exists_cut_append _ isPreposition endsPhrase number xs
  -- whatever is open, the further item is cut with it into one phrase
  have hlast : ∀ {m : Nat} {items : List α},
      (∀ z ∈ items, IsPlain isPreposition endsPhrase z) →
        cut isPreposition endsPhrase m (items ++ [y]) = [phrase m (items ++ [y])] :=
    fun hitems => cut_append_singleton hitems hy _
  rw [List.append_assoc, hcut, hcut]
  cases hprep : isPreposition x with
  | true =>
    refine ⟨parts ++ phraseOf n opened, n, [], Or.inl ⟨rfl, ?_⟩⟩
    rw [cut_append_preposition hplain hprep, List.append_assoc]
    rfl
  | false =>
    cases hend : endsPhrase x with
    | true =>
      refine ⟨parts, n, opened ++ [x], Or.inr (Or.inl ⟨rfl, ?_, ?_⟩)⟩
      · rw [cut_append_end hplain hprep hend]
        rfl
      · rw [List.singleton_append, cut_append_end hplain hprep hend]
        exact congrArg (parts ++ phrase n (opened ++ [x]) :: ·)
          (@hlast (n + 1) [] fun _ hz => absurd hz List.not_mem_nil)
    | false =>
      have hplain' := forall_isPlain_concat hplain hprep hend
      refine ⟨parts, n, opened ++ [x], Or.inr (Or.inr ⟨rfl, ?_, ?_⟩)⟩
      · rw [cut_of_plain hplain', phraseOf_of_ne_nil _ (by simp)]
      · rw [← List.append_assoc, hlast hplain']

/-- What a phrase has to do with a phrase right behind it: it was ended by its last item. -/
def Ends (endsPhrase : α → Bool) : Part α → Part α → Prop
  | phrase _ items, phrase _ _ => ∃ x ∈ items.getLast?, endsPhrase x = true
  | _, _ => True

/-- An item in front of a phrase does not change its last one, and in front of anything else it is a
phrase that is followed by none. -/
theorem isChain_attach {number : Nat} {item : α} {parts : List (Part α)}
    (h : parts.IsChain (Ends endsPhrase))
    (hne : ∀ n items, phrase n items ∈ parts → items ≠ []) :
    (attach number item parts).IsChain (Ends endsPhrase) := by
  cases parts with
  | nil => exact List.isChain_singleton _
  | cons first others =>
    cases first with
    | preposition x => exact List.isChain_cons_cons.mpr ⟨trivial, h⟩
    | phrase n items =>
      obtain ⟨init, last, rfl⟩ :=
        (List.eq_nil_or_concat' items).resolve_left (hne n items List.mem_cons_self)
      rw [List.isChain_cons] at h
      refine List.isChain_cons.mpr ⟨fun part hpart => ?_, h.2⟩
      have hends := h.1 part hpart
      cases part with
      | preposition x => exact trivial
      | phrase m more =>
        obtain ⟨x, hx, hend⟩ := hends
        refine ⟨x, ?_, hend⟩
        rw [← List.cons_append, List.getLast?_concat]
        rwa [List.getLast?_concat] at hx

/-- **A phrase right behind a phrase** is there because an item ended the first one. -/
theorem isChain_cut (number : Nat) (xs : List α) :
    (cut isPreposition endsPhrase number xs).IsChain (Ends endsPhrase) := by
  fun_induction cut isPreposition endsPhrase number xs
  case case1 => exact List.isChain_nil
  case case2 ih => exact List.isChain_cons.mpr ⟨fun part _ => trivial, ih⟩
  case case3 number y ys _ hend ih =>
    refine List.isChain_cons.mpr ⟨fun part _ => ?_, ih⟩
    cases part with
    | preposition x => exact trivial
    | phrase n items => exact ⟨y, rfl, hend⟩
  case case4 ih =>
    refine isChain_attach ih fun n items hmem => ?_
    obtain ⟨init, last, rfl, -, -⟩ := exists_of_phrase_mem_cut hmem
    exact List.append_ne_nil_of_right_ne_nil init (List.cons_ne_nil last [])

end Shape

/-! ### Reading items as something else -/

theorem map_attach (f : α → β) (number : Nat) (item : α) (parts : List (Part α)) :
    (attach number item parts).map (map f) = attach number (f item) (parts.map (map f)) := by
  cases parts with
  | nil => rfl
  | cons part parts => cases part <;> rfl

/-- Cutting does not depend on what the items are, but only on what they are told to be. -/
theorem cut_map (f : α → β) (isPreposition endsPhrase : β → Bool) (number : Nat) (xs : List α) :
    cut isPreposition endsPhrase number (xs.map f) =
      (cut (isPreposition ∘ f) (endsPhrase ∘ f) number xs).map (map f) := by
  induction xs generalizing number with
  | nil => rfl
  | cons x xs ih =>
    rw [List.map_cons, cut, cut, ih, ih, Function.comp_apply, Function.comp_apply]
    split
    · rfl
    · split
      · rfl
      · exact (map_attach f number x _).symm

end Part

end CommandPrompt
