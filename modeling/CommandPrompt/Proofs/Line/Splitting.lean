import CommandPrompt.Proofs.Line.Caret

/-!
# No word is lost

A clean line is split at its caret into the settled part, the working word and what stands behind
that. The main statement is that the three have the words of the line, one after another
(`Line.split_keeps_words`). A space that begins a new word is no word of the line, so there the
settled part alone has all of them.

Each part is read off the line by a rule of its own, with cases for a blank line and for a space at
the end, and the rules have to agree. On a line with words there are two cases. Either the caret
stands behind a space that ends the line; such a line is its words with the space behind them
(`Text.eq_unwords_append_space`). Or the caret is at a word, and the pieces around it
(`Line.Around`) are what the three parts are made of. Words are split at every space, so they can be
counted piece by piece (`Text.words_append_of_getLast?`, `Text.words_append_of_head?`).
-/

namespace CommandPrompt

/-! ### Words piece by piece -/

namespace Text

/-- A text that ends in a space adds its own words to what follows. -/
theorem words_append_of_getLast? {s : Text} (h : ∀ c ∈ s.getLast?, c = ' ') (t : Text) :
    words (s ++ t) = words s ++ words t := by
  rcases List.eq_nil_or_concat s with rfl | ⟨init, last, rfl⟩
  · rfl
  · rw [List.concat_eq_append] at h ⊢
    obtain rfl : last = ' ' := h last (by rw [List.getLast?_concat]; rfl)
    rw [List.append_assoc, List.singleton_append, words_append_cons_space, words_append_cons_space]
    exact congrArg (· ++ words t) (List.append_nil _).symm

/-- A text that starts with a space adds its own words to what stands before it. -/
theorem words_append_of_head? (s : Text) {t : Text} (h : ∀ c ∈ t.head?, c = ' ') :
    words (s ++ t) = words s ++ words t := by
  cases t with
  | nil => rw [List.append_nil]; exact (List.append_nil _).symm
  | cons c cs =>
    obtain rfl : c = ' ' := h c rfl
    exact words_append_cons_space s cs

theorem IsWord.words_eq {w : Text} (h : IsWord w) : words w = [w] :=
  @words_unwords [w] fun u hu => by rwa [List.mem_singleton.mp hu]

/-! ### At the ends of a piece -/

theorem getElem?_length_append (s t : Text) : (s ++ t)[s.length]? = t.head? := by
  rw [List.getElem?_append_right (Nat.le_refl _), Nat.sub_self, List.head?_eq_getElem?]

theorem getElem?_length_sub_one_append {s : Text} (hs : s ≠ []) (t : Text) :
    (s ++ t)[s.length - 1]? = s.getLast? := by
  have hpos : 0 < s.length := List.length_pos_iff.mpr hs
  rw [List.getElem?_append_left (by omega), List.getLast?_eq_getElem?]

end Text

namespace Line

/-! ### The run around the caret -/

/-- A span takes a run out of a text: not empty, without spaces, as long as can be, and with a
caret in it or at one of its ends. -/
structure IsRunAround (s : Text) (caret : Int) (span : Span) (run : Text) : Prop where
  eq_slice : run = s.slice span.start span.stop
  ne_nil : run ≠ []
  not_mem : ' ' ∉ run
  start_nonneg : 0 ≤ span.start
  start_le : span.start ≤ caret
  le_stop : caret ≤ span.stop
  stop_le : span.stop ≤ s.length
  /-- A space stands before it, unless it starts the text. -/
  starts : span.start = 0 ∨ s[span.start.toNat - 1]? = some ' '
  /-- A space stands behind it, unless it ends the text. -/
  stops : span.stop = s.length ∨ s[span.stop.toNat]? = some ' '

/-- A split loses no word: the settled part, the working word and what stands behind it have the
words of the text. The new-word space is none of them. -/
structure LosesNoWord (s : Text) (span : Span) (word settled : Text) : Prop where
  words_eq : s.words = settled.words ++ (if word = newWord then [] else [word]) ++
    Text.words (s.drop span.stop.toNat)
  settled_eq : settled = Text.unwords settled.words

namespace Around

variable {line : Line} {front left right rest : Text} (ht : line.text.isTypable)
include ht

theorem eq_space_of_mem_getLast? (h : Around line front left right rest) :
    ∀ c ∈ front.getLast?, c = ' ' := fun c hc => by
  refine (Text.AllTypable.of_isTypable ht).eq_space c ?_ (h.front_blank c hc)
  rw [h.text_eq]
  exact List.mem_append_left _ (List.mem_of_mem_getLast? hc)

theorem eq_space_of_mem_head? (h : Around line front left right rest) :
    ∀ c ∈ rest.head?, c = ' ' := fun c hc => by
  refine (Text.AllTypable.of_isTypable ht).eq_space c ?_ (h.rest_blank c hc)
  rw [h.text_eq]
  exact List.mem_append_right _ (List.mem_append_right _
    (List.mem_append_right _ (List.mem_of_mem_head? hc)))

omit ht in
theorem isWord (h : Around line front left right rest) : Text.IsWord (left ++ right) where
  ne_nil := h.ne_nil
  not_blank c hc := (List.mem_append.mp hc).elim (h.left_not_blank c) (h.right_not_blank c)

omit ht in
theorem workingWord_ne_newWord (h : Around line front left right rest) :
    line.workingWord line.workingSpan ≠ newWord := by
  rw [h.workingWord]
  intro heq
  have hblank := h.isWord.not_blank ' ' (by rw [heq]; exact List.mem_singleton_self _)
  exact absurd hblank (by decide)

theorem isRunAround (h : Around line front left right rest) :
    IsRunAround line.text line.caret line.workingSpan (line.workingWord line.workingSpan) := by
  have htext : line.text = front ++ (left ++ right) ++ rest := by
    rw [h.text_eq, List.append_assoc, List.append_assoc]
  rw [h.workingWord, h.workingSpan]
  constructor
  case eq_slice =>
    dsimp only
    rw [Text.slice, Text.position_of_le h.length_le, Text.position_of_le h.length_front_le,
      h.take_eq, List.drop_left]
  case ne_nil => exact h.ne_nil
  case not_mem => exact fun hmem => absurd (h.isWord.not_blank ' ' hmem) (by decide)
  case start_nonneg => exact Int.natCast_nonneg _
  case start_le =>
    rw [h.caret_eq, Int.ofNat_le, List.length_append]
    exact Nat.le_add_right _ _
  case le_stop =>
    rw [h.caret_eq, Int.ofNat_le, ← List.append_assoc, @List.length_append _ (front ++ left)]
    exact Nat.le_add_right _ _
  case stop_le => exact Int.ofNat_le.mpr h.length_le
  case starts =>
    by_cases hfront : front = []
    · exact Or.inl (by rw [hfront]; rfl)
    · have hlast := List.getLast?_eq_some_getLast hfront
      refine Or.inr ?_
      rw [Int.toNat_natCast, h.text_eq, Text.getElem?_length_sub_one_append hfront, hlast,
        h.eq_space_of_mem_getLast? ht _ hlast]
  case stops =>
    cases hhead : rest.head? with
    | none =>
      refine Or.inl ?_
      rw [htext, List.head?_eq_none_iff.mp hhead, List.append_nil]
    | some c =>
      refine Or.inr ?_
      rw [Int.toNat_natCast, htext, Text.getElem?_length_append, hhead,
        h.eq_space_of_mem_head? ht c hhead]

/-- **The words around the caret** are those in front, the working word and those behind. -/
theorem words_eq (h : Around line front left right rest) :
    line.text.words = front.words ++ [left ++ right] ++ rest.words := by
  rw [h.text_eq, Text.words_append_of_getLast? (h.eq_space_of_mem_getLast? ht),
    ← List.append_assoc left, Text.words_append_of_head? _ (h.eq_space_of_mem_head? ht),
    h.isWord.words_eq, List.append_assoc]

theorem losesNoWord (h : Around line front left right rest) : LosesNoWord line.text
    line.workingSpan (line.workingWord line.workingSpan) (line.settled line.workingSpan) := by
  have hfront : front.isTypable := by
    have htake := Text.isTypableAfter_take ht front.length
    rwa [h.text_eq, List.take_left] at htake
  have hsettled : line.settled line.workingSpan = Text.unwords front.words := by
    rw [h.settled, Text.strip_eq_unwords hfront]
  have hwords : (line.settled line.workingSpan).words = front.words := by
    rw [hsettled]
    exact Text.words_unwords fun w hw => Text.isWord_of_mem_words hw
  have hrest : line.text.drop line.workingSpan.stop.toNat = rest := by
    have htext : line.text = front ++ (left ++ right) ++ rest := by
      rw [h.text_eq, List.append_assoc, List.append_assoc]
    rw [h.workingSpan, Int.toNat_natCast, htext, List.drop_left]
  constructor
  · rw [hwords, hrest, if_neg h.workingWord_ne_newWord, h.workingWord]
    exact h.words_eq ht
  · rw [hwords, hsettled]

end Around

/-! ### A word just begun -/

/-- A line that begins a new word settles all of its words. -/
theorem losesNoWord_of_getLast? {t : Text} (ht : t.isTypable) (hlast : t.getLast? = some ' ') :
    LosesNoWord t (atEnd t).workingSpan ((atEnd t).workingWord (atEnd t).workingSpan)
      ((atEnd t).settled (atEnd t).workingSpan) := by
  have hisword : ∀ w ∈ t.words, Text.IsWord w := fun w hw => Text.isWord_of_mem_words hw
  obtain ⟨-, heq⟩ := Text.eq_unwords_append_space ht hlast
  have hstop : (atEnd t).workingSpan.stop = t.length := by
    rw [heq, workingSpan_append_space]
  have hsettled : (atEnd t).settled (atEnd t).workingSpan = Text.unwords t.words := by
    conv_lhs => rw [heq, settled_append_space, Text.strip_unwords hisword]
  have hwords : ((atEnd t).settled (atEnd t).workingSpan).words = t.words := by
    rw [hsettled, Text.words_unwords hisword]
  have hnew : (atEnd t).workingWord (atEnd t).workingSpan = newWord :=
    workingWord_of_getLast? ht hlast _
  constructor
  · rw [if_pos hnew, hwords, hstop, Int.toNat_natCast, List.drop_length, List.append_nil]
    exact (List.append_nil _).symm
  · rw [hwords, hsettled]

/-! ### The split -/

/-- **The split at the caret loses no word.** A line without words has neither a working word nor a
settled part. On any other line the working word is the new-word space exactly if the caret stands
behind a space that ends the line, and else the run around the caret. The words of the line are
those of the settled part, which has single spaces between them, the working word unless it is the
new-word space, and those behind it. -/
theorem split_keeps_words (line : Line) :
    let s := line.clean.text
    let caret := line.clean.caret
    let span := line.clean.workingSpan
    let word := line.clean.workingWord span
    let settled := line.clean.settled span
    (s = [] → word = [] ∧ settled = []) ∧
      (s ≠ [] →
        (word = newWord ↔ s.getLast? = some ' ' ∧ caret = s.length) ∧
        (¬(s.getLast? = some ' ' ∧ caret = s.length) → IsRunAround s caret span word) ∧
        LosesNoWord s span word settled) := by
  obtain ⟨k, hk, hclean⟩ := line.exists_caret_clean
  have ht := line.isTypable_clean
  rw [hclean]
  generalize line.clean.text = s at ht hk
  intro text caret span word settled
  refine ⟨fun hnil => ?_, fun hne => ?_⟩
  · obtain rfl : s = [] := hnil
    exact ⟨rfl, by simp [settled, Line.settled, Text.slice, Text.strip, Text.stripEnd]⟩
  · by_cases hend : s.getLast? = some ' ' ∧ k = s.length
    · obtain ⟨hlast, rfl⟩ := hend
      have hnew : word = newWord := workingWord_of_getLast? ht hlast _
      exact ⟨iff_of_true hnew ⟨hlast, rfl⟩, fun hold => absurd ⟨hlast, rfl⟩ hold,
        losesNoWord_of_getLast? ht hlast⟩
    · obtain ⟨front, left, right, rest, h⟩ := exists_around_of_getLast? ht hne hk hend
      exact ⟨iff_of_false h.workingWord_ne_newWord fun hlast =>
          hend ⟨hlast.1, Int.ofNat_inj.mp hlast.2⟩, fun _ => h.isRunAround ht, h.losesNoWord ht⟩

/-- A line without words, a line that begins a new word, and a line with its caret inside of "red".
Each was typed with more blanks than are kept. -/
theorem split_keeps_words_take_red :
    let blank : Line := ⟨"  ! ".toList, 2⟩
    let begun : Line := ⟨"take  red  ".toList, 11⟩
    let inside : Line := ⟨"take  red oil".toList, 8⟩
    (blank.clean.text = [] ∧ blank.clean.workingWord blank.clean.workingSpan = []) ∧
      (begun.clean = ⟨"take red ".toList, 9⟩ ∧
        begun.clean.workingWord begun.clean.workingSpan = newWord ∧
        LosesNoWord "take red ".toList ⟨8, 9⟩ newWord "take red".toList) ∧
      (inside.clean = ⟨"take red oil".toList, 7⟩ ∧
        IsRunAround "take red oil".toList 7 ⟨5, 8⟩ "red".toList ∧
        LosesNoWord "take red oil".toList ⟨5, 8⟩ "red".toList "take".toList) := by
  intro blank begun inside
  have hblank : blank.clean = ⟨[], 0⟩ := by decide +kernel
  have hbegun : begun.clean = ⟨"take red ".toList, 9⟩ := by decide +kernel
  have hinside : inside.clean = ⟨"take red oil".toList, 7⟩ := by decide +kernel
  have hbegunspan : (⟨"take red ".toList, 9⟩ : Line).workingSpan = ⟨8, 9⟩ := by decide +kernel
  have hbegunsettled : (⟨"take red ".toList, 9⟩ : Line).settled ⟨8, 9⟩ = "take red".toList := by
    decide +kernel
  have hinsidespan : (⟨"take red oil".toList, 7⟩ : Line).workingSpan = ⟨5, 8⟩ := by decide +kernel
  have hinsideword : (⟨"take red oil".toList, 7⟩ : Line).workingWord ⟨5, 8⟩ = "red".toList := by
    decide +kernel
  have hinsidesettled : (⟨"take red oil".toList, 7⟩ : Line).settled ⟨5, 8⟩ = "take".toList := by
    decide +kernel
  refine ⟨⟨congrArg Line.text hblank, ?_⟩, ⟨hbegun, ?_⟩, ⟨hinside, ?_⟩⟩
  · exact ((split_keeps_words blank).1 (congrArg Line.text hblank)).1
  · have hsplit := (split_keeps_words begun).2
    rw [hbegun, hbegunspan, hbegunsettled] at hsplit
    rw [hbegun, hbegunspan]
    obtain ⟨hnew, -, hwords⟩ := hsplit (by decide)
    have hword := hnew.mpr ⟨by decide +kernel, by decide +kernel⟩
    rw [hword] at hwords
    exact ⟨hword, hwords⟩
  · have hsplit := (split_keeps_words inside).2
    rw [hinside, hinsidespan, hinsideword, hinsidesettled] at hsplit
    obtain ⟨-, hrun, hwords⟩ := hsplit (by decide)
    exact ⟨hrun (by decide +kernel), hwords⟩

end Line

end CommandPrompt
