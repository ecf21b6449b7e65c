import CommandPrompt.Proofs.Text.Words
import CommandPrompt.Text.NormalForm
import Mathlib.Data.List.TakeWhile

/-!
# What the normal form and lower case leave at the end of a text

A text without blanks around it does not get a space at its end by being brought to normal form or
put in lower case (`endsInInk_normalForm`, `endsInInk_lower`). It may get one at its start, because
an accent that stands by itself is taken apart into a space and a mark.

No character but a blank is taken apart into something that ends in a space, which is looked up in
the table (`endsInInk_decomposeChar`). Ordering the marks keeps this because a space is no mark, so
none is moved behind it (`endsInInk_orderMarks`), and composing because nothing is composed to a
space (`endsInInk_composeFrom`).

A text in lower case has no capital of the ASCII range, also where it comes from other letters. So
if it can be typed, putting it in lower case once more changes nothing (`lower_lower_of_typable`).
-/

namespace CommandPrompt

namespace Text

/-! ### Ends of texts -/

/-- The text has a last character, and that is no space. -/
def EndsInInk (t : Text) : Prop := ∃ c, t.getLast? = some c ∧ c ≠ ' '

theorem EndsInInk.ne_nil {t : Text} (h : t.EndsInInk) : t ≠ [] := by
  obtain ⟨c, hc, -⟩ := h
  intro hnil
  rw [hnil] at hc
  exact absurd hc (by simp)

theorem EndsInInk.endsWith {t : Text} (h : t.EndsInInk) : t.endsWith ' ' = false := by
  obtain ⟨c, hc, hne⟩ := h
  rw [Text.endsWith, hc, beq_eq_false_iff_ne]
  exact fun heq => hne (Option.some.inj heq)

theorem endsInInk_singleton {c : Char} : EndsInInk [c] ↔ c ≠ ' ' := by
  constructor
  · rintro ⟨d, hd, hne⟩
    obtain rfl : c = d := Option.some.inj hd
    exact hne
  · exact fun hne => ⟨c, rfl, hne⟩

/-- How a text ends is decided by its last part. -/
theorem endsInInk_append {s t : Text} (ht : t ≠ []) : (s ++ t).EndsInInk ↔ t.EndsInInk := by
  unfold EndsInInk
  rw [List.getLast?_append_of_ne_nil s ht]

theorem EndsInInk.append (s : Text) {t : Text} (ht : t.EndsInInk) : (s ++ t).EndsInInk :=
  (endsInInk_append ht.ne_nil).mpr ht

theorem endsInInk_of_forall {t : Text} (hne : t ≠ []) (h : ∀ c ∈ t, c ≠ ' ') : t.EndsInInk :=
  ⟨t.getLast hne, List.getLast?_eq_some_getLast hne, h _ (List.getLast_mem hne)⟩

/-- Without the blanks around it, a text does not end in one. -/
theorem isBlank_getLast?_strip (t : Text) : ∀ c ∈ t.strip.getLast?, isBlank c = false := by
  intro c hc
  unfold strip stripEnd at hc
  rw [List.getLast?_reverse] at hc
  have hhead := List.head?_dropWhile_not isBlank (t.dropWhile isBlank).reverse
  rw [Option.mem_def.mp hc] at hhead
  exact hhead

/-- Only blanks are stripped of a text that is stripped to nothing. -/
theorem isAllBlank_of_strip_eq_nil {t : Text} (h : t.strip = []) : t.isAllBlank = true := by
  unfold strip stripEnd at h
  rw [List.reverse_eq_nil_iff, List.dropWhile_eq_nil_iff] at h
  unfold isAllBlank
  rw [List.all_eq_true]
  intro c hc
  -- a blank at the start is dropped before, and what is left are blanks
  rw [← List.takeWhile_append_dropWhile (p := isBlank) (l := t), List.mem_append] at hc
  rcases hc with hc | hc
  · exact List.all_eq_true.mp List.all_takeWhile c hc
  · exact h c (List.mem_reverse.mpr hc)

/-! ### Code points -/

theorem toNat_ofNat_or (n : Nat) : (Char.ofNat n).toNat = n ∨ (Char.ofNat n).toNat = 0 := by
  by_cases h : n.isValidChar
  · rw [Char.ofNat, dif_pos h]
    exact Or.inl rfl
  · rw [Char.ofNat, dif_neg h]
    exact Or.inr rfl

theorem ofNat_ne_space {n : Nat} (h : n ≠ 0x20) : Char.ofNat n ≠ ' ' := by
  intro heq
  have hspace : (Char.ofNat n).toNat = 0x20 := by
    rw [heq]
    rfl
  rcases toNat_ofNat_or n with hn | hn
  · exact h (hn.symm.trans hspace)
  · exact absurd (hn.symm.trans hspace) (by decide)

/-- Behind the capitals of the ASCII range there is nothing that is put in lower case by itself. -/
theorem toLower_ofNat {n : Nat} (h : 0x5A < n) : (Char.ofNat n).toLower = Char.ofNat n := by
  unfold Char.toLower
  split
  · next hupper =>
    have hle : (Char.ofNat n).toNat ≤ 0x5A := hupper.2
    have hge : 0x41 ≤ (Char.ofNat n).toNat := hupper.1
    rcases toNat_ofNat_or n with hn | hn <;> omega
  · rfl

namespace NormalForm

/-! ### Characters taken apart -/

theorem getLast?_shiftLast (distance : Nat) (target : List Nat) :
    (shiftLast distance target).getLast? = target.getLast?.map (· + distance) := by
  induction target with
  | nil => rfl
  | cons n rest ih =>
    cases rest with
    | nil => rfl
    | cons m rest =>
      have hne : shiftLast distance (m :: rest) ≠ [] := by
        cases rest <;> exact List.cons_ne_nil _ _
      obtain ⟨k, ks, hk⟩ := List.exists_cons_of_ne_nil hne
      rw [shiftLast, hk, List.getLast?_cons_cons, ← hk, ih, List.getLast?_cons_cons]
      exact fun h => absurd h (List.cons_ne_nil m rest)

/-- Whether a row has a space at the end of a decomposition only where it takes a blank apart. -/
def endsRowInInk (row : Row) : Bool :=
  match row.2.2.getLast? with
  | none => false
  | some n =>
    0x20 < n || n + (row.2.1 - row.1) < 0x20 || isBlank (Char.ofNat (row.1 + (0x20 - n)))

/-- Every row of the table does so. -/
theorem all_endsRowInInk : rows.all endsRowInInk = true := by
  -- part by part, because the kernel is slow with lists that are appended to others
  simp only [rows, List.all_append]
  decide +kernel

/-- What a row gives for a character that is no blank does not end in a space. -/
theorem endsInInk_of_row {row : Row} (hrow : row ∈ rows) {c : Char} (hc : isBlank c = false)
    {parts : List Nat} (h : row.decompose? c.toNat = some parts) :
    EndsInInk (parts.map Char.ofNat) := by
  have hends := List.all_eq_true.mp all_endsRowInInk row hrow
  obtain ⟨first, last, target⟩ := row
  unfold Row.decompose? at h
  dsimp only at h
  split at h
  · next hcovers =>
    obtain rfl := Option.some.inj h
    unfold endsRowInInk at hends
    dsimp only at hends
    cases hlast : target.getLast? with
    | none =>
      rw [hlast] at hends
      exact absurd hends Bool.false_ne_true
    | some n =>
      rw [hlast] at hends
      dsimp only at hends
      refine ⟨Char.ofNat (n + (c.toNat - first)), ?_, ofNat_ne_space ?_⟩
      · rw [List.getLast?_map, getLast?_shiftLast, hlast]
        rfl
      · intro hspace
        rw [Bool.or_eq_true, Bool.or_eq_true, decide_eq_true_eq, decide_eq_true_eq] at hends
        rcases hends with (hgt | hlt) | hblank
        · omega
        · omega
        · -- only this character of the row is taken apart so, and it is a blank
          have hcode : first + (0x20 - n) = c.toNat := by omega
          rw [hcode, Char.ofNat_toNat, hc] at hblank
          exact absurd hblank Bool.false_ne_true
  · exact absurd h (by simp)

theorem endsInInk_syllableParts {n : Nat} {parts : List Nat} (h : syllableParts? n = some parts) :
    EndsInInk (parts.map Char.ofNat) := by
  unfold syllableParts? at h
  split at h
  · obtain rfl := Option.some.inj h
    split
    · refine ⟨_, rfl, ofNat_ne_space ?_⟩
      unfold firstVowel
      omega
    · rw [List.map_append, List.map_singleton]
      refine EndsInInk.append _ (endsInInk_singleton.mpr (ofNat_ne_space ?_))
      unfold beforeTrail
      omega
  · exact absurd h (by simp)

/-- **No character but a blank is taken apart into something that ends in a space.** -/
theorem endsInInk_decomposeChar {c : Char} (hc : isBlank c = false) :
    (decomposeChar c).EndsInInk := by
  have hself : EndsInInk [c] := endsInInk_singleton.mpr fun hspace => by
    rw [hspace] at hc
    exact absurd hc (by decide)
  unfold decomposeChar
  split
  · exact hself
  · split
    · next parts hparts => exact endsInInk_syllableParts hparts
    · split
      · next parts hparts =>
        obtain ⟨row, hrow, hdecompose⟩ := List.exists_of_findSome?_eq_some hparts
        exact endsInInk_of_row hrow hc hdecompose
      · exact hself

/-! ### Marks in order -/

/-- A mark is no space. -/
theorem ne_space_of_combiningClass {c : Char} (h : combiningClass c ≠ 0) : c ≠ ' ' := by
  rintro rfl
  exact h rfl

theorem mem_insertMark {c d : Char} {marks : Text} (h : d ∈ insertMark c marks) :
    d = c ∨ d ∈ marks := by
  induction marks with
  | nil => exact Or.inl (List.mem_singleton.mp h)
  | cons e es ih =>
    unfold insertMark at h
    split at h
    · exact List.mem_cons.mp h
    · rcases List.mem_cons.mp h with rfl | h
      · exact Or.inr List.mem_cons_self
      · exact (ih h).imp_right (List.mem_cons_of_mem e)

theorem insertMark_ne_nil (c : Char) (marks : Text) : insertMark c marks ≠ [] := by
  cases marks with
  | nil => exact List.cons_ne_nil _ _
  | cons d ds =>
    unfold insertMark
    split <;> exact List.cons_ne_nil _ _

/-- **Ordering marks puts nothing behind a letter but marks.** -/
theorem endsInInk_orderMarks {marks t : Text} (hmarks : ∀ m ∈ marks, combiningClass m ≠ 0)
    (h : (marks ++ t).EndsInInk) : (orderMarks marks t).EndsInInk := by
  induction t generalizing marks with
  | nil =>
    rw [List.append_nil] at h
    exact h
  | cons c cs ih =>
    rw [endsInInk_append (List.cons_ne_nil c cs)] at h
    unfold orderMarks
    split
    · refine EndsInInk.append marks ?_
      by_cases hcs : cs = []
      · subst hcs
        exact h
      · -- the last character is among those that follow, where no mark is waiting
        have hrest : EndsInInk cs := (endsInInk_append (s := [c]) hcs).mp h
        exact EndsInInk.append [c] (ih (fun m hm => absurd hm List.not_mem_nil) hrest)
    · next hc =>
      have hinsert : ∀ m ∈ insertMark c marks, combiningClass m ≠ 0 := by
        intro m hm
        rcases mem_insertMark hm with rfl | hm
        · exact hc
        · exact hmarks m hm
      refine ih hinsert ?_
      by_cases hcs : cs = []
      · rw [hcs, List.append_nil]
        exact endsInInk_of_forall (insertMark_ne_nil c marks)
          fun m hm => ne_space_of_combiningClass (hinsert m hm)
      · exact EndsInInk.append _ ((endsInInk_append (s := [c]) hcs).mp h)

/-! ### Letters put together -/

set_option maxRecDepth 4096 in
/-- No composite of the table is a space. -/
theorem all_composites_ne_space : composites.all (fun row => row.2.2 != 0x20) = true := by
  rfl

/-- Nothing is composed to a space. -/
theorem composite?_ne_space {a b c : Char} (h : composite? a b = some c) : c ≠ ' ' := by
  unfold composite? at h
  split at h
  · next n hsyllable =>
    obtain rfl := Option.some.inj h
    refine ofNat_ne_space ?_
    unfold syllable? at hsyllable
    split at hsyllable
    · rw [← Option.some.inj hsyllable]
      unfold firstSyllable
      omega
    · split at hsyllable
      · next hparts =>
        rw [← Option.some.inj hsyllable]
        have hfirst : firstSyllable ≤ a.toNat := hparts.1
        unfold firstSyllable at hfirst
        omega
      · exact absurd hsyllable (by simp)
  · obtain ⟨row, hrow, rfl⟩ := Option.map_eq_some_iff.mp h
    have hne := List.all_eq_true.mp all_composites_ne_space row (List.mem_of_find?_eq_some hrow)
    exact ofNat_ne_space (bne_iff_ne.mp hne)

/-- **Composing leaves no space at the end.** -/
theorem endsInInk_composeFrom {letter : Char} {apart t : Text}
    (hapart : ∀ m ∈ apart, combiningClass m ≠ 0) (h : EndsInInk (letter :: (apart ++ t))) :
    (composeFrom letter apart t).EndsInInk := by
  induction t generalizing letter apart with
  | nil =>
    rw [List.append_nil] at h
    exact h
  | cons c cs ih =>
    have hrest : EndsInInk (c :: cs) :=
      (endsInInk_append (s := letter :: apart) (List.cons_ne_nil c cs)).mp h
    unfold composeFrom
    dsimp only
    split
    · next composed hcomposed =>
      have hne : composed ≠ ' ' :=
        composite?_ne_space (Option.ite_none_left_eq_some.mp hcomposed).2
      refine ih hapart ?_
      by_cases hcs : cs = []
      · -- only marks that stayed apart are behind the composed letter
        rw [hcs, List.append_nil]
        refine endsInInk_of_forall (List.cons_ne_nil _ _) fun d hd => ?_
        rcases List.mem_cons.mp hd with rfl | hd
        · exact hne
        · exact ne_space_of_combiningClass (hapart d hd)
      · exact EndsInInk.append (composed :: apart) ((endsInInk_append (s := [c]) hcs).mp hrest)
    · split
      · exact EndsInInk.append (letter :: apart)
          (ih (fun m hm => absurd hm List.not_mem_nil) hrest)
      · next hc =>
        refine ih ?_ ?_
        · intro m hm
          rcases List.mem_append.mp hm with hm | hm
          · exact hapart m hm
          · rw [List.mem_singleton.mp hm]
            exact hc
        · rw [List.append_assoc]
          exact h

end NormalForm

/-- **The normal form of a text that ends in no blank ends in no space.** -/
theorem endsInInk_normalForm {t : Text} (hne : t ≠ [])
    (h : ∀ c ∈ t.getLast?, isBlank c = false) : t.normalForm.EndsInInk := by
  obtain ⟨init, c, rfl⟩ : ∃ init c, t = init ++ [c] :=
    ⟨_, _, (List.dropLast_append_getLast hne).symm⟩
  have hc : isBlank c = false := h c List.getLast?_concat
  unfold normalForm
  split
  · refine EndsInInk.append init (endsInInk_singleton.mpr ?_)
    rintro rfl
    exact absurd hc (by decide)
  · have hapart : EndsInInk ((init ++ [c]).flatMap NormalForm.decomposeChar) := by
      rw [List.flatMap_append, List.flatMap_singleton]
      exact EndsInInk.append _ (NormalForm.endsInInk_decomposeChar hc)
    have hordered : EndsInInk (NormalForm.orderMarks []
        ((init ++ [c]).flatMap NormalForm.decomposeChar)) :=
      NormalForm.endsInInk_orderMarks (fun m hm => absurd hm List.not_mem_nil) hapart
    obtain ⟨letter, rest, heq⟩ := List.exists_cons_of_ne_nil hordered.ne_nil
    rw [heq] at hordered ⊢
    exact NormalForm.endsInInk_composeFrom (fun m hm => absurd hm List.not_mem_nil) hordered

/-! ### Lower case of any text -/

namespace LowerCase

/-- No run of the table leads to a capital of the ASCII range or to anything before it. -/
theorem all_runs_target : runs.all (fun run => 0x5A < run.target) = true := by decide

theorem lt_of_findSome? {n m : Nat} (h : (runs.findSome? fun run => run.map? n) = some m) :
    0x5A < m := by
  obtain ⟨run, hrun, hmap⟩ := List.exists_of_findSome?_eq_some h
  have htarget := of_decide_eq_true (List.all_eq_true.mp all_runs_target run hrun)
  unfold Run.map? at hmap
  split at hmap
  · rw [← Option.some.inj hmap]
    omega
  · exact absurd hmap (by simp)

/-- Whether a text, which is not empty, consists of characters in lower case that are no spaces. -/
def isLowerInk (t : Text) : Bool := !t.isEmpty && t.all fun d => d.toLower == d && d != ' '

theorem isLowerInk_iff {t : Text} :
    isLowerInk t = true ↔ t ≠ [] ∧ ∀ d ∈ t, d.toLower = d ∧ d ≠ ' ' := by
  unfold isLowerInk
  simp only [Bool.and_eq_true, Bool.not_eq_true', List.isEmpty_eq_false_iff, List.all_eq_true,
    beq_iff_eq, bne_iff_ne]

/-- The lower-case form of a character: what it is by itself, or characters that are in lower case
and no spaces. -/
theorem ofChar_cases (before : Text) (c : Char) (after : Text) :
    ofChar before c after = [c.toLower] ∨
      ofChar before c after ≠ [] ∧ ∀ d ∈ ofChar before c after, d.toLower = d ∧ d ≠ ' ' := by
  unfold ofChar
  split
  · exact Or.inl rfl
  next hwide =>
  split
  · split <;> exact Or.inr (isLowerInk_iff.mp (by decide))
  unfold ofWide
  split
  · exact Or.inr (isLowerInk_iff.mp (by decide))
  · split
    · next n hn =>
      have hlt := lt_of_findSome? hn
      refine Or.inr ⟨List.cons_ne_nil _ _, fun d hd => ?_⟩
      rw [List.mem_singleton.mp hd]
      exact ⟨toLower_ofNat hlt, ofNat_ne_space (by omega)⟩
    · exact Or.inl (by rw [toLower_eq_self (Nat.not_lt.mp hwide)])

theorem endsInInk_lowerAfter {t : Text} (h : t.EndsInInk) (before : Text) :
    (lowerAfter before t).EndsInInk := by
  induction t generalizing before with
  | nil => exact absurd rfl h.ne_nil
  | cons c cs ih =>
    unfold lowerAfter
    by_cases hcs : cs = []
    · subst hcs
      rw [lowerAfter, List.append_nil]
      rcases ofChar_cases before c [] with heq | ⟨hne, hall⟩
      · rw [heq, endsInInk_singleton, Ne, toLower_eq_space_iff]
        exact endsInInk_singleton.mp h
      · exact endsInInk_of_forall hne fun d hd => (hall d hd).2
    · exact EndsInInk.append _ (ih ((endsInInk_append (s := [c]) hcs).mp h) (c :: before))

theorem toLower_of_mem_lowerAfter {t before : Text} {d : Char} (h : d ∈ lowerAfter before t) :
    d.toLower = d := by
  induction t generalizing before with
  | nil => exact absurd h List.not_mem_nil
  | cons c cs ih =>
    unfold lowerAfter at h
    rcases List.mem_append.mp h with h | h
    · rcases ofChar_cases before c cs with heq | ⟨-, hall⟩
      · rw [heq] at h
        rw [List.mem_singleton.mp h]
        exact toLower_toLower c
      · exact (hall d h).1
    · exact ih h

end LowerCase

/-- **Lower case leaves no space at the end** where there was none. -/
theorem endsInInk_lower {t : Text} (h : t.EndsInInk) : t.lower.EndsInInk :=
  LowerCase.endsInInk_lowerAfter h []

/-- **A text in lower case that can be typed stays what it is** when it is put in lower case, also
where the text that it comes from could not be typed. -/
theorem lower_lower_of_typable {t : Text} (h : t.lower.AllTypable) : t.lower.lower = t.lower := by
  rw [lower_eq_map h]
  conv_rhs => rw [← List.map_id t.lower]
  exact List.map_congr_left fun d hd => LowerCase.toLower_of_mem_lowerAfter hd

end Text

end CommandPrompt
