import CommandPrompt.Proofs.World.SameWords

/-!
# Comparing words

Words are compared in two ways. Which words are the same is told by key, entity and part of speech,
whereas the order of words begins with the length of the spelling as it is written. The two need not
agree: a capital I with a dot is written as one character, and its key has two, so a word can come
before one that is the same. They do agree about words that can be typed, because their keys are as
long as their spellings (`Word.orderAgrees_isTypable`).

The reason is that the order of such words goes by identity (`Word.order_eq_order_identity`). All
comparisons can then be read off one outcome (`Word.before_eq`, `Word.same_eq`), whose three values
exclude each other, and same words are level with everything alike. A same word may even be one that
cannot be typed, because it is the key that has to be typable.
-/

namespace CommandPrompt

namespace Word

/-! ### Comparisons the other way round -/

/-- Whether the first word comes after the second: it is not the same, and does not come before. -/
def after (a b : Word) : Bool := !before a b && !same a b

/-- Whether the first word comes after the second or is the same: it does not come before. -/
def afterOrSame (a b : Word) : Bool := !before a b

/-! ### One outcome -/

section Typable

variable {a b : Word} (ha : a.key.AllTypable) (hb : b.key.AllTypable)
include ha hb

theorem order_eq_of_typable : order a b = a.identity.order b.identity :=
  order_eq_order_identity (length_key ha) (length_key hb)

/-- Just the words that are the same are level. -/
theorem same_eq : same a b = (order a b == .eq) := by
  rw [Bool.eq_iff_iff, beq_iff_eq]
  exact ⟨order_eq_of_same (length_key ha) (length_key hb), same_of_order_eq⟩

end Typable

theorem before_eq (a b : Word) : before b a = (order a b == .gt) := by
  rw [before, @Std.OrientedCmp.eq_swap _ order _ b a]
  cases order a b <;> rfl

/-- A word that is the same as a word with a typable key has a typable key. -/
theorem allTypable_key_of_same {a a' : Word} (ha : a.key.AllTypable) (h : same a a') :
    a'.key.AllTypable := key_eq_of_same h ▸ ha

/-- A same word has the same outcome, on either side. -/
theorem order_congr {a a' b b' : Word} (ha : a.key.AllTypable) (hb : b.key.AllTypable)
    (haa : same a a') (hbb : same b b') : order a' b' = order a b := by
  rw [order_eq_of_typable (allTypable_key_of_same ha haa) (allTypable_key_of_same hb hbb),
    order_eq_of_typable ha hb, same_iff_identity_eq.mp haa, same_iff_identity_eq.mp hbb]

/-! ### Sorting -/

/-- Identities on one level are equal. -/
theorem Identity.eq_of_order_eq {i j : Identity} (h : i.order j = .eq) : i = j := by
  rw [Identity.order, Ordering.then_eq_eq, Ordering.then_eq_eq, Ordering.then_eq_eq,
    Nat.compare_eq_eq, Nat.compare_eq_eq, Int.compare_eq_eq] at h
  obtain ⟨-, hkey, href, hrank⟩ := h
  rw [Identity.mk.injEq]
  exact ⟨Text.eq_of_order_eq hkey, href, rank_injective hrank⟩

/-- The identities of sorted words are in order. -/
theorem pairwise_identity_sort {words : List Word} (hkeys : ∀ w ∈ words, w.key.AllTypable) :
    ((sort words).map identity).Pairwise fun i j => (i.order j).isLE := by
  rw [List.pairwise_map]
  refine (pairwise_sort words).imp_of_mem fun {a b} ha hb hab => ?_
  rwa [← order_eq_of_typable (hkeys a (mem_sort.mp ha)) (hkeys b (mem_sort.mp hb))]

/-- **Sorted words are determined by their classes**, each as often as it is listed. -/
theorem map_identity_sort {words words' : List Word} (hkeys : ∀ w ∈ words, w.key.AllTypable)
    (hperm : (words.map identity).Perm (words'.map identity)) :
    (sort words).map identity = (sort words').map identity := by
  have hkeys' : ∀ w' ∈ words', w'.key.AllTypable := by
    intro w' hw'
    obtain ⟨w, hw, heq⟩ := List.mem_map.mp (hperm.mem_iff.mpr (List.mem_map_of_mem hw'))
    have hkey : w.key = w'.key := congrArg Identity.key heq
    exact hkey ▸ hkeys w hw
  have hsorted : ((sort words).map identity).Perm ((sort words').map identity) :=
    ((sort_perm words).map identity).trans
      (hperm.trans ((sort_perm words').map identity).symm)
  -- two orders of the same identities agree, because only equal ones are level
  refine hsorted.eq_of_pairwise ?_ (pairwise_identity_sort hkeys) (pairwise_identity_sort hkeys')
  intro i j _ _ hij hji
  exact Identity.eq_of_order_eq (Std.OrientedCmp.isLE_antisymm hij hji)

/-! ### Agreement -/

/-- The order of the words with a property agrees with which of them are the same. -/
structure OrderAgrees (p : Word → Prop) : Prop where
  /-- Of coming before, being the same and coming after, exactly one is the case. -/
  exactly_one : ∀ a b, p a → p b → [before a b, same a b, before b a].count true = 1
  trans : ∀ a b c, p a → p b → p c → before a b → before b c → before a c
  antisymm : ∀ a b, p a → p b → beforeOrSame a b → beforeOrSame b a → same a b
  /-- No comparison tells same words apart, whether they have the property or not. -/
  congr : ∀ a a' b b', p a → p b → same a a' → same b b' →
    same a' b' = same a b ∧ before a' b' = before a b ∧ beforeOrSame a' b' = beforeOrSame a b ∧
      after a' b' = after a b ∧ afterOrSame a' b' = afterOrSame a b
  /-- Words that are rearranged, and then replaced by same ones, are the same when they are sorted,
  place by place. -/
  sort : ∀ words rearranged words', (∀ w ∈ words, p w) → words.Perm rearranged →
    List.Forall₂ (fun a b => same a b) rearranged words' →
      List.Forall₂ (fun a b => same a b) (sort words) (sort words')

theorem orderAgrees_allTypable : OrderAgrees fun w => w.key.AllTypable where
  exactly_one := by
    intro a b ha hb
    rw [before_eq a b, same_eq ha hb, before]
    cases order a b <;> rfl
  trans := by
    intro a b c _ _ _ hab hbc
    rw [before, beq_iff_eq] at hab hbc ⊢
    exact Std.TransCmp.lt_trans hab hbc
  antisymm := by
    intro a b ha hb hab hba
    rw [beforeOrSame, same_eq ha hb, before] at hab
    rw [beforeOrSame, same_comm, same_eq ha hb, before_eq] at hba
    rw [same_eq ha hb]
    cases hord : order a b with
    | eq => rfl
    | lt => rw [hord] at hba; exact absurd hba (by decide)
    | gt => rw [hord] at hab; exact absurd hab (by decide)
  congr := by
    intro a a' b b' ha hb haa hbb
    have hbefore : before a' b' = before a b := by
      rw [before, before, order_congr ha hb haa hbb]
    have hsame : same a' b' = same a b := by
      rw [same_eq ha hb, same_eq (allTypable_key_of_same ha haa) (allTypable_key_of_same hb hbb),
        order_congr ha hb haa hbb]
    refine ⟨hsame, hbefore, ?_, ?_, ?_⟩
    · rw [beforeOrSame, beforeOrSame, hbefore, hsame]
    · rw [after, after, hbefore, hsame]
    · rw [afterOrSame, afterOrSame, hbefore]
  sort := by
    intro words rearranged words' hwords hperm hsame
    rw [forall₂_same_iff] at hsame ⊢
    exact map_identity_sort hwords (hsame ▸ hperm.map identity)

theorem OrderAgrees.mono {p q : Word → Prop} (hpq : ∀ w, p w → q w) (h : OrderAgrees q) :
    OrderAgrees p where
  exactly_one := fun a b ha hb => h.exactly_one a b (hpq a ha) (hpq b hb)
  trans := fun a b c ha hb hc => h.trans a b c (hpq a ha) (hpq b hb) (hpq c hc)
  antisymm := fun a b ha hb => h.antisymm a b (hpq a ha) (hpq b hb)
  congr := fun a a' b b' ha hb => h.congr a a' b b' (hpq a ha) (hpq b hb)
  sort := fun words rearranged words' hwords =>
    h.sort words rearranged words' fun w hw => hpq w (hwords w hw)

/-- **The order of words that can be typed agrees with which of them are the same.** -/
theorem orderAgrees_isTypable : OrderAgrees fun w => w.spelling.isTypable :=
  orderAgrees_allTypable.mono fun _ hw => (Text.AllTypable.of_isTypable hw).lower

/-- Written with a dotted capital, a word comes behind one that is the same. -/
example : (before ⟨['i', Char.ofNat 0x307], .verb ⟨1, [], [], none, []⟩, none⟩
      ⟨[Char.ofNat 0x130], .verb ⟨1, [], [], none, []⟩, none⟩ &&
    same ⟨['i', Char.ofNat 0x307], .verb ⟨1, [], [], none, []⟩, none⟩
      ⟨[Char.ofNat 0x130], .verb ⟨1, [], [], none, []⟩, none⟩) = true := by decide

end Word

end CommandPrompt
