import CommandPrompt.Proofs.Text.Words

/-!
# Spacing of what can be typed

A typable text has no blanks but spaces, none at its start and no two in a row. So it is its words
with single spaces between them, but for one space that may follow the last word (`eq_unwords_or`);
stripped of that space it is exactly its words (`strip_eq_unwords`). Typability is kept by cutting
the end off (`isTypableAfter_take`), and it is what cleaning establishes (`isTypable_clean`):
cleaning yields typable texts and changes no text that is typable already (`clean_eq_self`).
-/

namespace CommandPrompt.Text

/-! ### Typable texts are spaced like joined words -/

/-- An inner piece of a typable text is never empty: an empty one means a blank at the start or two
blanks in a row. Behind something else than a blank the first piece may be empty, because it only
ends what stands before the text. -/
theorem ne_nil_of_mem_dropLast_pieces {t : Text} {afterBlank : Bool}
    (h : t.isTypableAfter afterBlank) :
    ∀ piece ∈ (if afterBlank then pieces t else (pieces t).tail).dropLast, piece ≠ [] := by
  induction t generalizing afterBlank with
  | nil => cases afterBlank <;> exact fun piece hp => absurd hp List.not_mem_nil
  | cons c cs ih =>
    simp only [isTypableAfter, Bool.and_eq_true, Bool.not_eq_true', Bool.and_eq_false_iff] at h
    obtain ⟨⟨hblank, -⟩, hcs⟩ := h
    have ih := ih hcs
    cases hc : isBlank c with
    | true =>
      obtain rfl : afterBlank = false := by simpa [hc] using hblank
      rw [hc] at ih
      simpa [pieces, hc] using ih
    | false =>
      obtain ⟨piece, rest, hp, hcons⟩ := pieces_cons_of_not_isBlank hc cs
      rw [hc, hp] at ih
      replace ih : ∀ piece ∈ rest.dropLast, piece ≠ [] := by simpa using ih
      rw [hcons]
      cases afterBlank with
      | false => simpa using ih
      | true =>
        cases rest with
        | nil => exact fun piece hp => absurd hp List.not_mem_nil
        | cons next others =>
          rw [if_pos rfl, List.dropLast_cons_of_ne_nil (List.cons_ne_nil next others)]
          intro p hp
          rcases List.mem_cons.mp hp with rfl | hp
          · exact List.cons_ne_nil c piece
          · exact ih p hp

/-- The blanks of a text of typable characters are spaces. -/
theorem AllTypable.eq_space {t : Text} (h : t.AllTypable) :
    ∀ c ∈ t, isBlank c = true → c = ' ' :=
  fun c hc => (isBlank_iff_of_isTypableChar (h c hc)).mp

/-- **A typable text is its words**, with single spaces between them and perhaps one behind. -/
theorem eq_unwords_or {t : Text} (h : t.isTypable) :
    t = unwords t.words ∨ t.words ≠ [] ∧ t = unwords t.words ++ [' '] := by
  have hpieces := unwords_pieces (AllTypable.of_isTypable h).eq_space
  have hinner : ∀ piece ∈ (pieces t).dropLast, piece ≠ [] := ne_nil_of_mem_dropLast_pieces h
  obtain ⟨init, last, hsplit⟩ : ∃ init last, pieces t = init ++ [last] :=
    ⟨_, _, (List.dropLast_append_getLast (pieces_ne_nil t)).symm⟩
  rw [hsplit, List.dropLast_concat] at hinner
  have hinit : init.filter (fun piece => !piece.isEmpty) = init :=
    List.filter_eq_self.mpr fun piece hp => by simp [hinner piece hp]
  -- an empty last piece means that the text ends in a space
  by_cases hlast : last = []
  · subst hlast
    have hwords : words t = init := by
      rw [words, hsplit, List.filter_append, hinit]
      exact List.append_nil init
    rw [hwords]
    rcases List.eq_nil_or_concat init with rfl | ⟨_, _, rfl⟩
    · exact Or.inl (by rw [← hpieces, hsplit]; rfl)
    · refine Or.inr ⟨by simp, ?_⟩
      conv_lhs => rw [← hpieces, hsplit]
      exact unwords_concat (by simp) []
  · have hwords : words t = pieces t := by
      rw [words, hsplit, List.filter_append, hinit]
      simp [hlast]
    exact Or.inl (by rw [hwords, hpieces])

/-- A typable text that ends in a space is its words with a space behind them. -/
theorem eq_unwords_append_space {t : Text} (h : t.isTypable) (hlast : t.getLast? = some ' ') :
    t.words ≠ [] ∧ t = unwords t.words ++ [' '] := by
  refine (eq_unwords_or h).resolve_left fun heq => ?_
  rcases List.eq_nil_or_concat t.words with hnil | ⟨us, u, hwords⟩
  · rw [heq, hnil] at hlast
    exact absurd hlast (by simp [unwords, join])
  · have hword : IsWord u := isWord_of_mem_words (t := t) (by simp [hwords])
    rw [heq, hwords, List.concat_eq_append, getLast?_unwords hword.ne_nil] at hlast
    exact absurd (hword.not_blank ' ' (List.mem_of_getLast? hlast)) (by decide)

/-- Joined words hold a character that is no blank. -/
theorem exists_not_isBlank_unwords {ts : List Text} (h : ∀ t ∈ ts, IsWord t) (hne : ts ≠ []) :
    ∃ c ∈ unwords ts, isBlank c = false := by
  obtain ⟨t, us, rfl⟩ := List.exists_cons_of_ne_nil hne
  have ht := h t List.mem_cons_self
  obtain ⟨c, cs, rfl⟩ := List.exists_cons_of_ne_nil ht.ne_nil
  have hhead := head?_unwords ht.ne_nil us
  exact ⟨c, List.mem_of_mem_head? hhead, ht.not_blank c List.mem_cons_self⟩

/-- Without the blanks at its ends, a typable text is its words with single spaces between them. -/
theorem strip_eq_unwords {t : Text} (h : t.isTypable) : t.strip = unwords t.words := by
  have hwords : ∀ w ∈ words t, IsWord w := fun w hw => isWord_of_mem_words hw
  rcases eq_unwords_or h with heq | ⟨hne, heq⟩
  · have hstrip := strip_unwords hwords
    rw [← heq] at hstrip
    rw [hstrip]
    exact heq
  · conv_lhs => rw [heq]
    rw [strip_append_space (exists_not_isBlank_unwords hwords hne), strip_unwords hwords]

/-! ### Which texts are typable -/

theorem isTypableAfter_take {t : Text} {afterBlank : Bool} (h : t.isTypableAfter afterBlank)
    (n : Nat) : isTypableAfter afterBlank (t.take n) := by
  induction t generalizing afterBlank n with
  | nil => rw [List.take_nil]; rfl
  | cons c cs ih =>
    cases n with
    | zero => rfl
    | succ n =>
      simp only [isTypableAfter, Bool.and_eq_true] at h
      simp only [List.take_succ_cons, isTypableAfter, Bool.and_eq_true]
      exact ⟨h.1, ih h.2 n⟩

/-- What can be typed behind the last character of a typable text can be typed behind the text. -/
theorem isTypableAfter_append {s t : Text} {afterBlank : Bool} {last : Char}
    (hs : s.isTypableAfter afterBlank) (hlast : s.getLast? = some last)
    (ht : t.isTypableAfter (isBlank last)) : isTypableAfter afterBlank (s ++ t) := by
  induction s generalizing afterBlank with
  | nil => exact absurd hlast (by simp)
  | cons c cs ih =>
    simp only [isTypableAfter, Bool.and_eq_true] at hs
    simp only [List.cons_append, isTypableAfter, Bool.and_eq_true]
    refine ⟨hs.1, ?_⟩
    cases cs with
    | nil =>
      obtain rfl : c = last := by simpa using hlast
      exact ht
    | cons d ds => exact ih hs.2 (by rwa [List.getLast?_cons_cons] at hlast)

/-- A typable word can be typed anywhere. -/
theorem IsWord.isTypableAfter {t : Text} (hword : IsWord t) (ht : t.AllTypable)
    (afterBlank : Bool) : t.isTypableAfter afterBlank := by
  have hrest : ∀ {s : Text}, (∀ c ∈ s, isBlank c = false) → s.AllTypable →
      ∀ b, s.isTypableAfter b = true := by
    intro s hs htyp b
    induction s generalizing b with
    | nil => rfl
    | cons c cs ih =>
      rw [Text.isTypableAfter, hs c List.mem_cons_self, htyp c List.mem_cons_self]
      exact ih (fun d hd => hs d (List.mem_cons_of_mem c hd))
        (fun d hd => htyp d (List.mem_cons_of_mem c hd)) false
  exact hrest hword.not_blank ht afterBlank

/-- A typable word can be followed by a space, and by what can be typed after that. -/
theorem IsWord.isTypableAfter_append_space {t rest : Text} (hword : IsWord t)
    (ht : t.AllTypable) (hrest : rest.isTypableAfter true) (afterBlank : Bool) :
    Text.isTypableAfter afterBlank (t ++ ' ' :: rest) := by
  have hlast := List.getLast?_eq_some_getLast hword.ne_nil
  refine isTypableAfter_append (hword.isTypableAfter ht afterBlank) hlast ?_
  rw [hword.not_blank _ (List.getLast_mem hword.ne_nil), Text.isTypableAfter]
  exact hrest

/-- **Joined words with a space behind them are typable**, if the words are. -/
theorem isTypable_unwords_append_space {ts : List Text} (hne : ts ≠ [])
    (hts : ∀ t ∈ ts, IsWord t ∧ t.AllTypable) : isTypable (unwords ts ++ [' ']) := by
  induction ts with
  | nil => exact absurd rfl hne
  | cons t us ih =>
    obtain ⟨hword, ht⟩ := hts t List.mem_cons_self
    by_cases hnil : us = []
    · subst hnil
      exact hword.isTypableAfter_append_space ht rfl true
    · rw [unwords_cons_of_ne_nil t hnil, List.append_assoc, List.cons_append]
      exact hword.isTypableAfter_append_space ht
        (ih hnil fun u hu => hts u (List.mem_cons_of_mem t hu)) true

/-! ### Cleaning -/

/-- The typable characters of a text that follows a blank (or the start), or something else. Every
kept blank becomes a space, and a blank right after a kept one is dropped. -/
def cleanAfter (afterBlank : Bool) : Text → Text
  | [] => []
  | c :: cs =>
    if isBlank c then
      if afterBlank then cleanAfter true cs else ' ' :: cleanAfter true cs
    else if isTypableChar c then c :: cleanAfter false cs
    else cleanAfter afterBlank cs

/-- The typable characters of a text, blanks at its start and repeated blanks left out. This is what
cleaning makes of the text of a line, wherever its caret is (`Line.clean_eq`). -/
def clean (t : Text) : Text := cleanAfter true t

section Cons

variable {c : Char} (cs : Text)

theorem cleanAfter_true_cons_of_isBlank (hc : isBlank c = true) :
    cleanAfter true (c :: cs) = cleanAfter true cs := (if_pos hc).trans (if_pos rfl)

theorem cleanAfter_false_cons_of_isBlank (hc : isBlank c = true) :
    cleanAfter false (c :: cs) = ' ' :: cleanAfter true cs :=
  (if_pos hc).trans (if_neg Bool.false_ne_true)

theorem cleanAfter_cons_of_isTypableChar (hc : isBlank c = false) (htyp : isTypableChar c = true)
    (afterBlank : Bool) : cleanAfter afterBlank (c :: cs) = c :: cleanAfter false cs :=
  (if_neg (Bool.not_eq_true _ ▸ hc)).trans (if_pos htyp)

theorem cleanAfter_cons_of_not_isTypableChar (hc : isBlank c = false)
    (htyp : isTypableChar c = false) (afterBlank : Bool) :
    cleanAfter afterBlank (c :: cs) = cleanAfter afterBlank cs :=
  (if_neg (Bool.not_eq_true _ ▸ hc)).trans (if_neg (Bool.not_eq_true _ ▸ htyp))

end Cons

theorem isTypableAfter_cleanAfter (t : Text) (afterBlank : Bool) :
    (cleanAfter afterBlank t).isTypableAfter afterBlank := by
  induction t generalizing afterBlank with
  | nil => rfl
  | cons c cs ih =>
    cases hc : isBlank c with
    | true =>
      cases afterBlank with
      | true =>
        rw [cleanAfter_true_cons_of_isBlank cs hc]
        exact ih true
      | false =>
        rw [cleanAfter_false_cons_of_isBlank cs hc, isTypableAfter, Bool.and_false]
        exact ih true
    | false =>
      cases htyp : isTypableChar c with
      | true =>
        rw [cleanAfter_cons_of_isTypableChar cs hc htyp, isTypableAfter, hc, htyp]
        exact ih false
      | false =>
        rw [cleanAfter_cons_of_not_isTypableChar cs hc htyp]
        exact ih afterBlank

/-- **Cleaning makes a text typable.** -/
theorem isTypable_clean (t : Text) : (clean t).isTypable := isTypableAfter_cleanAfter t true

theorem cleanAfter_eq_self {t : Text} {afterBlank : Bool} (h : t.isTypableAfter afterBlank) :
    cleanAfter afterBlank t = t := by
  induction t generalizing afterBlank with
  | nil => rfl
  | cons c cs ih =>
    simp only [isTypableAfter, Bool.and_eq_true, Bool.not_eq_true', Bool.and_eq_false_iff] at h
    obtain ⟨⟨hblank, htyp⟩, hcs⟩ := h
    have ih := ih hcs
    cases hc : isBlank c with
    | true =>
      -- a typable text has no blank but a space, and none behind another
      obtain rfl : afterBlank = false := by simpa [hc] using hblank
      obtain rfl := (isBlank_iff_of_isTypableChar htyp).mp hc
      rw [hc] at ih
      rw [cleanAfter_false_cons_of_isBlank cs hc, ih]
    | false =>
      rw [hc] at ih
      rw [cleanAfter_cons_of_isTypableChar cs hc htyp, ih]

/-- Cleaning changes no typable text. -/
theorem clean_eq_self {t : Text} (h : t.isTypable) : clean t = t := cleanAfter_eq_self h

end CommandPrompt.Text
