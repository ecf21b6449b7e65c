import CommandPrompt.Text.LowerCase
import CommandPrompt.Text.Typable
import Mathlib.Tactic.Common

/-!
# Lower case of what can be typed

Lower-casing is a full Unicode mapping that looks at the neighbours of a letter and may lengthen a
text. On the characters that can be typed nothing of this shows: they all lie in the ASCII range,
where lower-casing goes letter by letter (`lower_eq_map`). So on such a text it keeps the length,
can be done twice as well as once, commutes with cutting the text in pieces, and leaves blanks where
they are. These facts are what lets the matcher take lengths from spellings although it compares
keys. A text that only comes out in ASCII need not be in ASCII itself, but it keeps its length, too
(`length_lower_of_forall_lt`).

`AllTypable` asks every character of a text to be typable. It is weaker than `isTypable`, which also
rules out a blank at the start and two blanks in a row, and unlike that it is kept by every cut.
-/

namespace CommandPrompt

/-! ### Typable characters -/

/-- Typable characters lie in the ASCII range. -/
theorem lt_of_isTypableChar {c : Char} (h : isTypableChar c) : c.toNat < 128 := by
  -- a letter or digit is a character in one of three ranges
  have hranges : c.isAlphanum = (decide (c.val ≥ 'A'.val ∧ c.val ≤ 'Z'.val) ||
      (decide (c.val ≥ 'a'.val) && decide (c.val ≤ 'z'.val)) ||
      (decide (c.val ≥ '0'.val) && decide (c.val ≤ '9'.val))) := rfl
  rw [isTypableChar, hranges] at h
  simp only [UInt32.le_iff_toNat_le, Bool.or_eq_true, Bool.and_eq_true, beq_iff_eq,
    decide_eq_true_eq, ge_iff_le] at h
  rcases h with ((rfl | rfl) | rfl) | (⟨-, h⟩ | ⟨-, h⟩) | ⟨-, h⟩
  · decide
  · decide
  · decide
  all_goals exact Nat.lt_of_le_of_lt h (by decide)

/-- A property of the characters of the ASCII range holds of each of them if it holds of their
numbers. -/
private theorem forall_ascii {p : Char → Bool} (h : ∀ n < 128, p (Char.ofNat n)) {c : Char}
    (hc : c.toNat < 128) : p c := by
  have h' := h c.toNat hc
  rwa [Char.ofNat_toNat] at h'

/-- The only blank that can be typed is the space. -/
theorem isBlank_iff_of_isTypableChar {c : Char} (h : isTypableChar c) :
    isBlank c = true ↔ c = ' ' := by
  have h' := forall_ascii (p := fun c => !isTypableChar c || isBlank c == (c == ' '))
    (by decide) (lt_of_isTypableChar h)
  rw [h, Bool.not_true, Bool.false_or, beq_iff_eq] at h'
  rw [h', beq_iff_eq]

/-! ### Letters in lower case -/

/-- Taken by itself, no character outside the ASCII range is put in lower case. -/
theorem toLower_eq_self {c : Char} (h : 128 ≤ c.toNat) : c.toLower = c := by
  unfold Char.toLower
  split
  · next hupper =>
    -- an upper-case letter is no later than Z
    have hle : c.toNat ≤ 'Z'.toNat := hupper.2
    have hz : 'Z'.toNat < 128 := by decide
    omega
  · rfl

/-- What holds throughout ASCII, and of the characters that have no other case, holds always. -/
private theorem forall_char {p : Char → Bool} (hascii : ∀ n < 128, p (Char.ofNat n))
    (hwide : ∀ c, c.toLower = c → p c) (c : Char) : p c := by
  by_cases hc : c.toNat < 128
  · exact forall_ascii hascii hc
  · exact hwide c (toLower_eq_self (Nat.not_lt.mp hc))

/-- The other case of a letter can be typed, and nothing else becomes typable. -/
theorem isTypableChar_toLower (c : Char) : isTypableChar c.toLower = isTypableChar c := by
  have h := forall_char (p := fun c => isTypableChar c.toLower == isTypableChar c)
    (by decide) (fun c hc => by rw [hc, beq_self_eq_true]) c
  exact beq_iff_eq.mp h

theorem toLower_toLower (c : Char) : c.toLower.toLower = c.toLower := by
  have h := forall_char (p := fun c => c.toLower.toLower == c.toLower)
    (by decide) (fun c hc => by rw [hc, hc, beq_self_eq_true]) c
  exact beq_iff_eq.mp h

theorem isBlank_toLower (c : Char) : isBlank c.toLower = isBlank c := by
  have h := forall_char (p := fun c => isBlank c.toLower == isBlank c)
    (by decide) (fun c hc => by rw [hc, beq_self_eq_true]) c
  exact beq_iff_eq.mp h

theorem toLower_eq_space_iff (c : Char) : c.toLower = ' ' ↔ c = ' ' := by
  have h := forall_char (p := fun c => (c.toLower == ' ') == (c == ' '))
    (by decide) (fun c hc => by rw [hc, beq_self_eq_true]) c
  rw [beq_iff_eq] at h
  rw [← beq_iff_eq, h, beq_iff_eq]

namespace Text

/-! ### Texts of typable characters -/

/-- Every character of the text can be typed. -/
def AllTypable (t : Text) : Prop := ∀ c ∈ t, isTypableChar c = true

theorem AllTypable.nil : AllTypable [] := fun _ h => absurd h List.not_mem_nil

theorem AllTypable.append {s t : Text} (hs : s.AllTypable) (ht : t.AllTypable) :
    AllTypable (s ++ t) := fun c h => (List.mem_append.mp h).elim (hs c) (ht c)

theorem AllTypable.of_sublist {s t : Text} (ht : t.AllTypable) (h : s.Sublist t) :
    s.AllTypable := fun c hc => ht c (h.subset hc)

theorem AllTypable.of_isTypableAfter {t : Text} {afterBlank : Bool}
    (h : t.isTypableAfter afterBlank) : t.AllTypable := by
  induction t generalizing afterBlank with
  | nil => exact AllTypable.nil
  | cons c cs ih =>
    simp only [isTypableAfter, Bool.and_eq_true] at h
    intro d hd
    rcases List.mem_cons.mp hd with rfl | hd
    · exact h.1.2
    · exact ih h.2 d hd

theorem AllTypable.of_isTypable {t : Text} (h : t.isTypable) : t.AllTypable :=
  AllTypable.of_isTypableAfter h

/-! ### Lower case, letter by letter -/

/-- Whatever stands before it, a text of typable characters is lowered letter by letter. -/
private theorem lowerAfter_eq_map {t : Text} (h : t.AllTypable) (before : Text) :
    LowerCase.lowerAfter before t = t.map Char.toLower := by
  induction t generalizing before with
  | nil => rfl
  | cons c cs ih =>
    -- below 128 no letter is lowered by what stands around it
    have hc : c.toNat < 128 := lt_of_isTypableChar (h c List.mem_cons_self)
    have hcs : AllTypable cs := h.of_sublist (List.sublist_cons_self c cs)
    rw [LowerCase.lowerAfter, ih hcs, LowerCase.ofChar, if_pos hc]
    rfl

theorem lower_eq_map {t : Text} (h : t.AllTypable) : t.lower = t.map Char.toLower :=
  lowerAfter_eq_map h []

@[simp] theorem lower_nil : lower [] = [] := rfl

theorem length_lower {t : Text} (h : t.AllTypable) : t.lower.length = t.length := by
  rw [lower_eq_map h, List.length_map]

theorem lower_append {s t : Text} (hs : s.AllTypable) (ht : t.AllTypable) :
    lower (s ++ t) = s.lower ++ t.lower := by
  rw [lower_eq_map (hs.append ht), lower_eq_map hs, lower_eq_map ht, List.map_append]

theorem AllTypable.lower {t : Text} (h : t.AllTypable) : t.lower.AllTypable := by
  rw [lower_eq_map h]
  intro d hd
  obtain ⟨c, hc, rfl⟩ := List.mem_map.mp hd
  rw [isTypableChar_toLower]
  exact h c hc

theorem lower_lower {t : Text} (h : t.AllTypable) : t.lower.lower = t.lower := by
  rw [lower_eq_map h.lower, lower_eq_map h, List.map_map]
  exact List.map_congr_left fun c _ => toLower_toLower c

theorem lower_eq_nil_iff {t : Text} (h : t.AllTypable) : t.lower = [] ↔ t = [] := by
  rw [lower_eq_map h, List.map_eq_nil_iff]

/-- Lowering neither makes nor removes a blank. -/
theorem all_not_isBlank_lower {t : Text} (h : t.AllTypable) :
    (∀ c ∈ t.lower, isBlank c = false) ↔ ∀ c ∈ t, isBlank c = false := by
  rw [lower_eq_map h, List.forall_mem_map]
  constructor
  · intro hb c hc
    rw [← isBlank_toLower c]
    exact hb c hc
  · intro hb c hc
    rw [isBlank_toLower c]
    exact hb c hc

/-- A lowered text can be typed where the text itself can. -/
theorem isTypableAfter_lower {t : Text} {afterBlank : Bool} (h : t.isTypableAfter afterBlank) :
    t.lower.isTypableAfter afterBlank := by
  rw [lower_eq_map (AllTypable.of_isTypableAfter h)]
  induction t generalizing afterBlank with
  | nil => rfl
  | cons c cs ih =>
    simp only [isTypableAfter, Bool.and_eq_true] at h
    obtain ⟨⟨hb, hc⟩, hcs⟩ := h
    simp only [List.map_cons, isTypableAfter, Bool.and_eq_true, isBlank_toLower,
      isTypableChar_toLower]
    exact ⟨⟨hb, hc⟩, ih hcs⟩

/-! ### Lengths outside ASCII -/

/-- A character has a lower-case form of one character, but for one that has a dot of its own. -/
theorem LowerCase.length_ofChar {before after : Text} {c : Char}
    (h : ∀ d ∈ ofChar before c after, d.toNat < 128) : (ofChar before c after).length = 1 := by
  rw [ofChar] at h ⊢
  split
  · rfl
  next hwide =>
  rw [if_neg hwide] at h
  split
  · split <;> rfl
  next hsigma =>
  rw [if_neg hsigma, ofWide] at h
  rw [ofWide]
  split
  · next hdotted =>
    rw [if_pos hdotted] at h
    exact absurd (h (Char.ofNat 0x307) (by simp)) (by decide)
  · split <;> rfl

/-- **Lower-casing keeps the length** of a text that comes out in ASCII. -/
theorem length_lower_of_forall_lt {t : Text} (h : ∀ c ∈ t.lower, c.toNat < 128) :
    t.lower.length = t.length := by
  suffices hafter : ∀ (t before : Text), (∀ c ∈ LowerCase.lowerAfter before t, c.toNat < 128) →
      (LowerCase.lowerAfter before t).length = t.length from hafter t [] h
  intro t
  induction t with
  | nil => exact fun _ _ => rfl
  | cons c cs ih =>
    intro before h
    rw [LowerCase.lowerAfter] at h ⊢
    have hfirst := LowerCase.length_ofChar fun d hd => h d (List.mem_append_left _ hd)
    have hrest := ih (c :: before) fun d hd => h d (List.mem_append_right _ hd)
    rw [List.length_append, hfirst, hrest, List.length_cons, Nat.add_comm]

end Text

end CommandPrompt
