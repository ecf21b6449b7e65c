import CommandPrompt.World.Word
import Mathlib.Data.List.Induction
import Mathlib.Data.List.Pairwise
import Mathlib.Data.List.Sort
import Mathlib.Tactic.Common

/-!
# Ordered words without repetitions

A vocabulary is made in two moves: of every class of same words the first is kept
(`Word.distinct`), and what is kept is sorted (`Word.sort`). This module says what each move does
when it is done once, and that both respect a choice of words.

* `Word.order` is a total preorder, and words that it finds level are the same
  (`same_of_order_eq`). So `sort` yields an ordered permutation, and a list of different words has
  only one (`sort_eq_of_perm`). It is the list that insertion yields, which also evaluates
  (`sort_eq_insertionSort`). What tells a word from others is its identity, and where lower-casing
  keeps the length of a spelling, the order goes by it (`order_eq_order_identity`).
* `distinct` and `distinctKeys` both keep the first word of every class of a relation
  (`keepFirst`). What is kept is part of the list, has no two related words, and stands for
  everything that was left out, which does not come before it (`exists_first_keepFirst`). So one
  word of every class gets into a vocabulary, the first one (`filter_same_sort_distinct`).
* Choosing the words with a property that same words share can be done before or after
  (`filter_sort_distinct`). This is what makes the words of one noun inside a whole catalog the
  words of that noun alone.
-/

namespace CommandPrompt

/-! ### The order -/

/-- The order of texts compares code point by code point. -/
theorem Text.order_eq_compareLex : Text.order = List.compareLex (compareOn Char.toNat) := by
  funext s t
  induction s generalizing t with
  | nil => cases t <;> rfl
  | cons a as ih =>
    cases t with
    | nil => rfl
    | cons b bs =>
      rw [Text.order, ih bs, List.compareLex_cons_cons]
      rfl

instance : Std.TransCmp Text.order := by
  rw [Text.order_eq_compareLex]
  infer_instance

theorem Text.eq_of_order_eq {s t : Text} (h : Text.order s t = .eq) : s = t := by
  induction s generalizing t with
  | nil =>
    cases t with
    | nil => rfl
    | cons b bs => exact absurd h (by simp [Text.order])
  | cons a as ih =>
    cases t with
    | nil => exact absurd h (by simp [Text.order])
    | cons b bs =>
      rw [Text.order, Ordering.then_eq_eq, Nat.compare_eq_eq] at h
      rw [Char.toNat_inj.mp h.1, ih h.2]

namespace Word

/-- The order of words compares four things one after another. -/
theorem order_eq_compareLex :
    order = compareLex (fun a b => compare b.spelling.length a.spelling.length)
      (compareLex (fun a b => Text.order a.key b.key)
        (compareLex (compareOn ref) (compareOn fun a => a.partOfSpeech.rank))) := rfl

instance : Std.TransCmp order := by
  have hlength : Std.TransCmp fun a b : Word => compare b.spelling.length a.spelling.length :=
    @Std.TransCmp.opposite _ (compareOn fun w : Word => w.spelling.length) _
  have hkey : Std.TransCmp fun a b : Word => Text.order a.key b.key :=
    { eq_swap := fun {a b} => @Std.OrientedCmp.eq_swap _ Text.order _ a.key b.key
      isLE_trans := fun {a b c} => @Std.TransCmp.isLE_trans _ Text.order _ a.key b.key c.key }
  have hrest : Std.TransCmp (compareLex (compareOn ref) (compareOn fun a => a.partOfSpeech.rank)) :=
    inferInstance
  rw [order_eq_compareLex]
  infer_instance

theorem rank_injective : Function.Injective PartOfSpeech.rank := by
  intro a b h
  cases a <;> cases b <;> first | rfl | exact absurd h (by decide)

theorem same_iff {a b : Word} :
    same a b = true ↔ a.key = b.key ∧ a.ref = b.ref ∧ a.partOfSpeech = b.partOfSpeech := by
  rw [same, Bool.and_eq_true, Bool.and_eq_true, beq_iff_eq, beq_iff_eq, beq_iff_eq, and_assoc]

theorem key_eq_of_same {a b : Word} (h : same a b) : a.key = b.key := (same_iff.mp h).1

/-- Words that the order finds level are the same. -/
theorem same_of_order_eq {a b : Word} (h : order a b = .eq) : same a b := by
  rw [order, Ordering.then_eq_eq, Ordering.then_eq_eq, Ordering.then_eq_eq, Nat.compare_eq_eq,
    Nat.compare_eq_eq, Int.compare_eq_eq] at h
  obtain ⟨-, hkey, href, hrank⟩ := h
  exact same_iff.mpr ⟨Text.eq_of_order_eq hkey, href, rank_injective hrank⟩

/-- Of two words that are not the same, the one that does not come after the other comes before. -/
theorem before_of_isLE {a b : Word} (h : (order a b).isLE) (hne : same a b = false) :
    before a b := by
  rw [before, beq_iff_eq]
  cases hord : order a b with
  | lt => rfl
  | eq =>
    rw [same_of_order_eq hord] at hne
    exact absurd hne (by simp)
  | gt =>
    rw [hord] at h
    exact absurd h (by decide)

/-- A word that does not come after another has a spelling that is no shorter. -/
theorem length_le_of_order_isLE {a b : Word} (h : (order a b).isLE) :
    b.spelling.length ≤ a.spelling.length := by
  rw [order, Ordering.isLE_then_iff_and] at h
  exact Nat.isLE_compare.mp h.1

/-- Among words that are spelled alike, the order goes by entity. -/
theorem ref_le_of_order_isLE {a b : Word} (h : (order a b).isLE) (hkey : a.key = b.key)
    (hlength : a.spelling.length = b.spelling.length) : a.ref ≤ b.ref := by
  have hlevel : Text.order b.key b.key = .eq := @Std.ReflCmp.compare_self _ Text.order _ _
  rw [order, hkey, hlength, Nat.compare_eq_eq.mpr rfl, hlevel, Ordering.eq_then, Ordering.eq_then,
    Ordering.isLE_then_iff_and] at h
  exact Int.isLE_compare.mp h.1

/-! ### What makes a word the word it is -/

/-- What tells words apart. Letter case and the text that a word is displayed with are left out. -/
structure Identity where
  key : Text
  ref : Int
  partOfSpeech : PartOfSpeech
  deriving DecidableEq

/-- What tells a word from others. -/
def identity (w : Word) : Identity := ⟨w.key, w.ref, w.partOfSpeech⟩

/-- Same words are those of one identity. -/
theorem same_iff_identity_eq {a b : Word} : same a b = true ↔ a.identity = b.identity := by
  rw [same_iff, identity, identity, Identity.mk.injEq]

/-- The order of words, told from what makes them. -/
def Identity.order (a b : Identity) : Ordering :=
  (compare b.key.length a.key.length).then <|
    (Text.order a.key b.key).then <|
      (compare a.ref b.ref).then (compare a.partOfSpeech.rank b.partOfSpeech.rank)

/-- **Where lower-casing keeps the length, the order goes by identity.** -/
theorem order_eq_order_identity {a b : Word} (ha : a.key.length = a.spelling.length)
    (hb : b.key.length = b.spelling.length) : order a b = a.identity.order b.identity := by
  show _ = (compare b.key.length a.key.length).then _
  rw [ha, hb]
  rfl

instance : Std.OrientedCmp Identity.order where
  eq_swap {a b} := by
    have hkey : Text.order a.key b.key = (Text.order b.key a.key).swap :=
      @Std.OrientedCmp.eq_swap _ Text.order _ _ _
    have hlength : compare b.key.length a.key.length = (compare a.key.length b.key.length).swap :=
      Std.OrientedCmp.eq_swap
    have href : compare a.ref b.ref = (compare b.ref a.ref).swap := Std.OrientedCmp.eq_swap
    have hrank : compare a.partOfSpeech.rank b.partOfSpeech.rank =
        (compare b.partOfSpeech.rank a.partOfSpeech.rank).swap := Std.OrientedCmp.eq_swap
    rw [Identity.order, Identity.order, Ordering.swap_then, Ordering.swap_then, Ordering.swap_then,
      hkey, hlength, href, hrank]

/-- Same words are level where lower-casing keeps the length. -/
theorem order_eq_of_same {a b : Word} (ha : a.key.length = a.spelling.length)
    (hb : b.key.length = b.spelling.length) (hsame : same a b) : order a b = .eq := by
  rw [order_eq_order_identity ha hb, same_iff_identity_eq.mp hsame]
  exact @Std.ReflCmp.compare_self _ Identity.order _ _

/-! ### Sorting -/

theorem bne_gt_eq_isLE (o : Ordering) : (o != .gt) = o.isLE := by cases o <;> rfl

/-- Whether a word may stand before another one in an ordered list. -/
def NotAfter (a b : Word) : Prop := (order a b).isLE

instance : DecidableRel NotAfter :=
  fun a b => inferInstanceAs (Decidable ((order a b).isLE = true))

instance : IsTrans Word NotAfter := ⟨fun _ _ _ => Std.TransCmp.isLE_trans⟩

instance : Std.Total NotAfter := ⟨fun a b => by
  rw [NotAfter, NotAfter, @Std.OrientedCmp.eq_swap _ order _ b]
  cases order a b <;> simp⟩

theorem sort_perm (words : List Word) : (sort words).Perm words := List.mergeSort_perm words _

@[simp] theorem mem_sort {words : List Word} {w : Word} : w ∈ sort words ↔ w ∈ words :=
  (sort_perm words).mem_iff

theorem trans_le (a b c : Word) (hab : order a b != .gt) (hbc : order b c != .gt) :
    order a c != .gt := by
  rw [bne_gt_eq_isLE] at hab hbc ⊢
  exact trans_of NotAfter hab hbc

theorem total_le (a b : Word) : (order a b != .gt || order b a != .gt) = true := by
  rw [bne_gt_eq_isLE, bne_gt_eq_isLE, Bool.or_eq_true]
  exact total_of NotAfter a b

/-- A sorted list is in order. -/
theorem pairwise_sort (words : List Word) :
    (sort words).Pairwise fun a b => (order a b).isLE := by
  have hsorted := List.pairwise_mergeSort trans_le total_le words
  exact hsorted.imp fun h => by rwa [bne_gt_eq_isLE] at h

theorem sort_of_pairwise {words : List Word}
    (h : words.Pairwise fun a b => (order a b).isLE) : sort words = words :=
  List.mergeSort_of_pairwise (h.imp fun h => by rwa [bne_gt_eq_isLE])

/-- A word is inserted behind the words that it comes after. -/
theorem orderedInsert_append {a : Word} {front rest : List Word}
    (hfront : ∀ b ∈ front, ¬NotAfter a b) (hrest : ∀ b ∈ rest, NotAfter a b) :
    (front ++ rest).orderedInsert NotAfter a = front ++ a :: rest := by
  induction front with
  | nil =>
    cases rest with
    | nil => rfl
    | cons b rest => exact List.orderedInsert_cons_of_le _ rest (hrest b List.mem_cons_self)
  | cons b front ih =>
    rw [List.cons_append, List.orderedInsert_of_not_le _ _ (hfront b List.mem_cons_self),
      ih fun c hc => hfront c (List.mem_cons_of_mem b hc), List.cons_append]

/-- **Words can be sorted by insertion.** Unlike the other sort, that one evaluates. -/
theorem sort_eq_insertionSort (words : List Word) :
    sort words = words.insertionSort NotAfter := by
  induction words with
  | nil => exact List.mergeSort_nil
  | cons a words ih =>
    -- of the other words, those that `a` comes after stand before it, and they are sorted as before
    obtain ⟨front, rest, hcons, hwords, hfront⟩ := List.mergeSort_cons trans_le total_le a words
    have hordered := pairwise_sort (a :: words)
    rw [sort, hcons, List.pairwise_append, List.pairwise_cons] at hordered
    rw [List.insertionSort_cons, ← ih, sort, sort, hcons, hwords, orderedInsert_append]
    · intro b hb hle
      have hnot := hfront b hb
      rw [bne_gt_eq_isLE, show (order a b).isLE = true from hle] at hnot
      exact absurd hnot (by simp)
    · exact hordered.2.1.1

/-- No two different words of the list are the same word. -/
def Different (words : List Word) : Prop := words.Pairwise fun a b => same a b = false

theorem same_comm (a b : Word) : same a b = same b a := by
  rw [same, same, BEq.comm (a := a.key), BEq.comm (a := a.ref), BEq.comm (a := a.partOfSpeech)]

@[simp] theorem same_refl (a : Word) : same a a = true := same_iff.mpr ⟨rfl, rfl, rfl⟩

theorem Different.eq_of_same {words : List Word} (h : Different words) {a b : Word}
    (ha : a ∈ words) (hb : b ∈ words) (hab : same a b) : a = b := by
  have hsymm : Std.Symm fun a b : Word => same a b = false := ⟨fun x y hxy => by rwa [same_comm]⟩
  by_contra hne
  have hsame := h.forall ha hb hne
  rw [hab] at hsame
  exact absurd hsame (by simp)

/-- A list of different words has one order only. -/
theorem sort_eq_of_perm {words ordered : List Word} (hdiff : Different words)
    (hperm : ordered.Perm words) (hordered : ordered.Pairwise fun a b => (order a b).isLE) :
    sort words = ordered := by
  -- two orders of the same words agree, because only same words are level
  refine List.Perm.eq_of_pairwise ?_ (pairwise_sort words) hordered
    ((sort_perm words).trans hperm.symm)
  intro a b ha hb hab hba
  refine hdiff.eq_of_same (mem_sort.mp ha) (hperm.mem_iff.mp hb) (same_of_order_eq ?_)
  exact Std.OrientedCmp.isLE_antisymm hab hba

end Word

/-! ### Keeping the first of every class -/

section KeepFirst

variable {α : Type} {related : α → α → Bool}

/-- What was kept, and of the others those that are related to none before them. -/
def keepFirst (related : α → α → Bool) (kept others : List α) : List α :=
  others.foldl (fun kept a => if kept.any (related · a) then kept else kept ++ [a]) kept

/-- What is kept is what was kept before, with some of the others behind it. -/
theorem keepFirst_sublist (kept words : List α) :
    ∃ new, keepFirst related kept words = kept ++ new ∧ new.Sublist words := by
  induction words generalizing kept with
  | nil => exact ⟨[], (List.append_nil kept).symm, List.Sublist.slnil⟩
  | cons w ws ih =>
    rw [keepFirst, List.foldl_cons]
    split
    · obtain ⟨new, heq, hsub⟩ := ih kept
      exact ⟨new, heq, hsub.cons w⟩
    · obtain ⟨new, heq, hsub⟩ := ih (kept ++ [w])
      exact ⟨w :: new, by rw [← keepFirst, heq, List.append_assoc]; rfl, hsub.cons_cons w⟩

/-- What holds of something kept before holds of something that is kept. -/
theorem any_keepFirst {p : α → Bool} {kept : List α} (h : kept.any p = true) (others : List α) :
    (keepFirst related kept others).any p = true := by
  obtain ⟨new, heq, -⟩ := @keepFirst_sublist _ related kept others
  rw [heq, List.any_append, h, Bool.true_or]

/-- Nothing more is kept if everything is related to what was kept. -/
theorem keepFirst_eq_self {kept others : List α}
    (h : ∀ b ∈ others, kept.any (related · b) = true) : keepFirst related kept others = kept := by
  induction others with
  | nil => rfl
  | cons b bs ih =>
    rw [keepFirst, List.foldl_cons, if_pos (h b List.mem_cons_self)]
    exact ih fun c hc => h c (List.mem_cons_of_mem b hc)

/-- Nothing that is kept is related to what was kept before it. -/
theorem pairwise_keepFirst {kept : List α} (h : kept.Pairwise fun a b => related a b = false)
    (words : List α) :
    (keepFirst related kept words).Pairwise fun a b => related a b = false := by
  induction words generalizing kept with
  | nil => exact h
  | cons w ws ih =>
    rw [keepFirst, List.foldl_cons]
    split
    · exact ih h
    · next hw =>
      refine ih (List.pairwise_append.mpr ⟨h, List.pairwise_singleton _ _, fun a ha b hb => ?_⟩)
      obtain rfl := List.mem_singleton.mp hb
      simp only [List.any_eq_true, not_exists, not_and, Bool.not_eq_true] at hw
      exact hw a ha

/-- Every member is related to one that is kept, and that comes no later in the order of the
members. -/
theorem exists_first_keepFirst {order : α → α → Prop} (hrefl : ∀ a, related a a)
    (hlevel : ∀ a, order a a) (kept words : List α) (horder : (kept ++ words).Pairwise order)
    {w : α} (hw : w ∈ kept ++ words) :
    ∃ a ∈ keepFirst related kept words, related a w ∧ order a w := by
  induction words generalizing kept with
  | nil => exact ⟨w, List.append_nil kept ▸ hw, hrefl w, hlevel w⟩
  | cons v vs ih =>
    rw [keepFirst, List.foldl_cons]
    split
    · next hv =>
      have horder' : (kept ++ vs).Pairwise order :=
        horder.sublist (List.Sublist.append_left (List.sublist_cons_self v vs) kept)
      rcases List.mem_append.mp hw with hkept | hw
      · exact ih kept horder' (List.mem_append_left _ hkept)
      · rcases List.mem_cons.mp hw with rfl | hvs
        · -- the member is left out, because it is related to one kept before
          obtain ⟨a, ha, haw⟩ := List.any_eq_true.mp hv
          obtain ⟨new, heq, -⟩ := @keepFirst_sublist _ related kept vs
          rw [← keepFirst, heq]
          exact ⟨a, List.mem_append_left _ ha, haw,
            (List.pairwise_append.mp horder).2.2 a ha w List.mem_cons_self⟩
        · exact ih kept horder' (List.mem_append_right _ hvs)
    · exact ih (kept ++ [v]) (by rwa [List.append_assoc]) (by rwa [List.append_assoc])

/-- Every member is related to one that is kept. -/
theorem exists_related_keepFirst (hrefl : ∀ a, related a a) (kept words : List α) {w : α}
    (hw : w ∈ kept ++ words) : ∃ a ∈ keepFirst related kept words, related a w := by
  obtain ⟨a, ha, haw, -⟩ := exists_first_keepFirst hrefl (fun _ => trivial) kept words
    (List.pairwise_of_forall fun _ _ => trivial) hw
  exact ⟨a, ha, haw⟩

/-- Members with a property that related ones share can be chosen before or after. -/
theorem filter_keepFirst {p : α → Bool} (hp : ∀ a b, related a b → p a = p b)
    (kept words : List α) :
    (keepFirst related kept words).filter p =
      keepFirst related (kept.filter p) (words.filter p) := by
  induction words generalizing kept with
  | nil => rfl
  | cons w ws ih =>
    -- what is related to a chosen member is chosen, too
    have hany : p w = true → (kept.filter p).any (related · w) = kept.any (related · w) := by
      intro hw
      rw [List.any_filter]
      congr 1
      funext a
      cases hr : related a w with
      | false => exact Bool.and_false _
      | true => rw [hp a w hr, hw]; rfl
    rw [keepFirst, List.foldl_cons, ← keepFirst, ih, List.filter_cons]
    cases hw : p w with
    | true =>
      rw [if_pos rfl]
      conv_rhs => rw [keepFirst, List.foldl_cons, hany hw, ← keepFirst]
      split
      · rfl
      · rw [List.filter_append, List.filter_cons, hw, if_pos rfl, List.filter_nil]
    | false =>
      rw [if_neg Bool.false_ne_true]
      split
      · rfl
      · rw [List.filter_append, List.filter_cons, hw, if_neg Bool.false_ne_true, List.filter_nil,
          List.append_nil]

/-- **Of every class the first member is kept**, where a class has something in common. -/
theorem filter_class_keepFirst {β : Type} {f : α → β} {p : α → Bool} {c : β}
    (hrelated : ∀ a b, related a b = true ↔ f a = f b) (hp : ∀ a, p a = true ↔ f a = c)
    (members : List α) : (keepFirst related [] members).filter p = (members.find? p).toList := by
  have hfilter := filter_keepFirst (p := p) (fun a b hab => by
    rw [Bool.eq_iff_iff, hp, hp, (hrelated a b).mp hab]) [] members
  rw [List.filter_nil] at hfilter
  rw [hfilter, ← List.head?_filter]
  -- the class is what is left, and one member of it is kept
  have hclass : ∀ a ∈ members.filter p, f a = c := fun a ha => (hp a).mp (List.mem_filter.mp ha).2
  cases hmembers : members.filter p with
  | nil => rfl
  | cons a as =>
    rw [hmembers] at hclass
    refine @keepFirst_eq_self _ related [a] as fun b hb => ?_
    rw [List.any_cons, Bool.or_eq_true, hrelated]
    exact Or.inl ((hclass a List.mem_cons_self).trans
      (hclass b (List.mem_cons_of_mem a hb)).symm)

end KeepFirst

/-! ### One of every value -/

section EraseDups

variable {α : Type} [BEq α] [LawfulBEq α]

/-- A further value counts if it is new. -/
theorem eraseDups_concat (as : List α) (a : α) :
    (as ++ [a]).eraseDups = if as.contains a then as.eraseDups else as.eraseDups ++ [a] := by
  rw [List.eraseDups_append, List.removeAll]
  cases hmem : as.contains a with
  | true =>
    rw [List.filter_cons_of_neg (by simpa using hmem), if_pos rfl]
    exact List.append_nil _
  | false =>
    rw [List.filter_cons_of_pos (by simpa using hmem), if_neg Bool.false_ne_true]
    rfl

theorem nodup_eraseDups (as : List α) : as.eraseDups.Nodup := by
  induction as using List.reverseRecOn with
  | nil => exact List.nodup_nil
  | append_singleton as a ih =>
    rw [eraseDups_concat]
    split
    · exact ih
    · next hnew =>
      refine List.nodup_append.mpr ⟨ih, List.pairwise_singleton _ _, fun b hb c hc heq => ?_⟩
      obtain rfl := List.mem_singleton.mp hc
      exact hnew (List.contains_iff_mem.mpr (List.mem_eraseDups.mp (heq ▸ hb)))

/-- Different values are all kept. -/
theorem eraseDups_eq_self {as : List α} (h : as.Nodup) : as.eraseDups = as := by
  induction as using List.reverseRecOn with
  | nil => rfl
  | append_singleton as a ih =>
    obtain ⟨hnodup, -, hnew⟩ := List.nodup_append.mp h
    rw [eraseDups_concat, ih hnodup, if_neg]
    intro hmem
    exact hnew a (List.contains_iff_mem.mp hmem) a (List.mem_singleton_self a) rfl

end EraseDups

namespace Word

/-! ### Different words -/

theorem distinct_eq_keepFirst (words : List Word) : distinct words = keepFirst same [] words := rfl

theorem distinctKeys_eq_keepFirst (words : List Word) :
    distinctKeys words = keepFirst (fun a b => a.key == b.key) [] words := rfl

theorem different_distinct (words : List Word) : Different (distinct words) :=
  pairwise_keepFirst List.Pairwise.nil words

theorem distinct_sublist (words : List Word) : (distinct words).Sublist words := by
  obtain ⟨new, heq, hsub⟩ := @keepFirst_sublist _ same [] words
  rw [distinct_eq_keepFirst, heq]
  exact hsub

theorem exists_same_distinct {words : List Word} {w : Word} (h : w ∈ words) :
    ∃ a ∈ distinct words, same a w :=
  exists_related_keepFirst same_refl [] words h

/-- Nothing is left out of a list of different words. -/
theorem distinct_of_different {words : List Word} (h : Different words) :
    distinct words = words := by
  -- the induction takes words one by one from the list to those that were kept
  suffices hkept : ∀ kept : List Word, Different (kept ++ words) →
      keepFirst same kept words = kept ++ words from hkept [] h
  clear h
  induction words with
  | nil => exact fun kept _ => (List.append_nil kept).symm
  | cons w ws ih =>
    intro kept h
    have hw : kept.any (same · w) = false := by
      rw [List.any_eq_false]
      intro a ha
      rw [(List.pairwise_append.mp h).2.2 a ha w List.mem_cons_self]
      exact Bool.false_ne_true
    rw [List.append_cons] at h ⊢
    rw [keepFirst, List.foldl_cons, hw, if_neg Bool.false_ne_true]
    exact ih (kept ++ [w]) h

theorem Different.perm {words words' : List Word} (h : Different words)
    (hperm : words.Perm words') : Different words' :=
  List.Pairwise.perm h hperm fun hab => by rwa [same_comm]

theorem Different.filter {words : List Word} (h : Different words) (p : Word → Bool) :
    Different (words.filter p) := List.Pairwise.filter p h

/-- **A vocabulary in order** has no two words on one level. -/
theorem pairwise_before_sort_distinct (words : List Word) :
    (sort (distinct words)).Pairwise fun a b => before a b := by
  have hdiff := (different_distinct words).perm (sort_perm _).symm
  exact (hdiff.and (pairwise_sort _)).imp fun hab => before_of_isLE hab.2 hab.1

theorem mem_of_mem_sort_distinct {words : List Word} {w : Word} (h : w ∈ sort (distinct words)) :
    w ∈ words := (distinct_sublist words).subset (mem_sort.mp h)

theorem exists_same_sort_distinct {words : List Word} {w : Word} (h : w ∈ words) :
    ∃ u ∈ sort (distinct words), same u w := by
  obtain ⟨u, hu, hsame⟩ := exists_same_distinct h
  exact ⟨u, mem_sort.mpr hu, hsame⟩

/-- **Choosing commutes with ordering a vocabulary**, if same words are chosen together. -/
theorem filter_sort_distinct {p : Word → Bool} (hp : ∀ a b, same a b → p a = p b)
    (words : List Word) :
    (sort (distinct words)).filter p = sort (distinct (words.filter p)) := by
  refine (sort_eq_of_perm (different_distinct _) ?_ ((pairwise_sort _).filter p)).symm
  have hfilter := filter_keepFirst hp [] words
  rw [List.filter_nil] at hfilter
  rw [distinct_eq_keepFirst (words.filter p), ← hfilter]
  exact (sort_perm _).filter p

/-- **A vocabulary has the first word of every class.** -/
theorem filter_same_sort_distinct (words : List Word) (w : Word) :
    (sort (distinct words)).filter (same · w) = (words.find? (same · w)).toList := by
  have hfirst : (distinct words).filter (same · w) = (words.find? (same · w)).toList :=
    filter_class_keepFirst (fun a b => same_iff_identity_eq (a := a) (b := b))
      (fun a => same_iff_identity_eq (a := a) (b := w)) words
  have hperm := (sort_perm (distinct words)).filter (same · w)
  rw [hfirst] at hperm
  cases hfind : words.find? (same · w) with
  | none =>
    rw [hfind] at hperm
    exact List.perm_nil.mp hperm
  | some a =>
    rw [hfind] at hperm
    exact List.perm_singleton.mp hperm

/-! ### One word for every key -/

theorem distinctKeys_sublist (words : List Word) : (distinctKeys words).Sublist words := by
  obtain ⟨new, heq, hsub⟩ := @keepFirst_sublist _ (fun a b : Word => a.key == b.key) [] words
  rw [distinctKeys_eq_keepFirst, heq]
  exact hsub

/-- **Of every key the first word is kept.** -/
theorem filter_key_distinctKeys (words : List Word) (k : Text) :
    (distinctKeys words).filter (·.key == k) = (words.find? (·.key == k)).toList :=
  filter_class_keepFirst (fun _ _ => beq_iff_eq) (fun _ => beq_iff_eq) words

theorem find?_key_distinctKeys (words : List Word) (k : Text) :
    (distinctKeys words).find? (·.key == k) = words.find? (·.key == k) := by
  rw [← List.head?_filter, filter_key_distinctKeys, Option.head?_toList]

theorem mem_distinctKeys_iff {words : List Word} {w : Word} :
    w ∈ distinctKeys words ↔ words.find? (·.key == w.key) = some w := by
  rw [← Option.mem_toList, ← filter_key_distinctKeys, List.mem_filter, beq_self_eq_true]
  exact (and_iff_left rfl).symm

/-- No key is lost. -/
theorem any_key_distinctKeys (words : List Word) (k : Text) :
    (distinctKeys words).any (·.key == k) = words.any (·.key == k) := by
  rw [← List.isSome_find?, ← List.isSome_find?, find?_key_distinctKeys]

theorem distinctKeys_concat (words : List Word) (w : Word) :
    distinctKeys (words ++ [w]) =
      if (distinctKeys words).any (·.key == w.key) then distinctKeys words
      else distinctKeys words ++ [w] := by
  rw [distinctKeys, List.foldl_append]
  rfl

theorem pairwise_key_distinctKeys (words : List Word) :
    (distinctKeys words).Pairwise fun a b => a.key ≠ b.key := by
  rw [distinctKeys_eq_keepFirst]
  exact (pairwise_keepFirst List.Pairwise.nil words).imp fun hab => beq_eq_false_iff_ne.mp hab

/-- **Of ordered words the first with every key is kept.** -/
theorem exists_isLE_distinctKeys {words : List Word}
    (horder : words.Pairwise fun a b => (order a b).isLE) {w : Word} (hw : w ∈ words) :
    ∃ a ∈ distinctKeys words, a.key = w.key ∧ (order a w).isLE := by
  obtain ⟨a, ha, hkey, hle⟩ := @exists_first_keepFirst _ (fun a b : Word => a.key == b.key) _
    (fun a => beq_self_eq_true a.key) (fun _ => Std.ReflCmp.isLE_rfl) [] words horder w hw
  exact ⟨a, ha, beq_iff_eq.mp hkey, hle⟩

/-- Ordered words with different keys are strictly ordered. -/
theorem pairwise_before_distinctKeys {words : List Word}
    (horder : words.Pairwise fun a b => (order a b).isLE) :
    (distinctKeys words).Pairwise fun a b => before a b := by
  have horder' := horder.sublist (distinctKeys_sublist words)
  refine (horder'.and (pairwise_key_distinctKeys words)).imp fun {a b} hab => ?_
  refine before_of_isLE hab.1 (Bool.eq_false_iff.mpr fun hsame => ?_)
  exact hab.2 (key_eq_of_same hsame)

theorem beforeOrSame_of_isLE {a b : Word} (h : (order a b).isLE) : beforeOrSame a b := by
  rw [beforeOrSame, before, Bool.or_eq_true, beq_iff_eq]
  cases hord : order a b with
  | lt => exact Or.inl rfl
  | eq => exact Or.inr (same_of_order_eq hord)
  | gt =>
    rw [hord] at h
    exact absurd h (by decide)

end Word

end CommandPrompt
