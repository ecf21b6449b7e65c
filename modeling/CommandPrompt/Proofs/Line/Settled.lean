import CommandPrompt.Context
import CommandPrompt.Proofs.Line.Cleaning

/-!
# The settled words of a line

A line is cleaned and split at its caret before anything is read. What is read, the settled part, is
a beginning of the clean text without the blanks around it, so it is a list of typable words with
single spaces between them, whatever was typed and wherever the caret is (`exists_settledPart_eq`).

A clean line that ends in a space with the caret behind it settles all of its words and begins a new
one (`settledPart_atEnd`, `workingWord_atEnd`). Such a line is what accepting a suggestion leaves.
-/

namespace CommandPrompt

namespace Text

/-- What stands before a position of a text. -/
theorem slice_zero (t : Text) (stop : Int) :
    t.slice 0 stop = t.take (position t.length stop) := by
  have hzero : position t.length 0 = 0 := by simp [position]
  rw [slice, hzero, List.drop_zero]

/-- A position in a text is counted from its start. -/
theorem position_of_le {length n : Nat} (h : n ≤ length) : position length n = n := by
  rw [position, if_neg (Int.not_lt.mpr (Int.natCast_nonneg n)), Int.toNat_natCast]
  exact Nat.min_eq_left h

end Text

/-! ### A new word at the end -/

namespace Line

theorem clampedCaret_atEnd (t : Text) : (atEnd t).clampedCaret = t.length :=
  clampedCaret_of_le (Nat.le_refl _)

/-- A caret behind a space that ends a line begins a new word. -/
theorem workingWord_of_getLast? {t : Text} (ht : t.isTypable) (hlast : t.getLast? = some ' ')
    (span : Span) : (atEnd t).workingWord span = newWord := by
  have hsome : t.isAllBlank = false := by
    by_contra hblank
    rw [Bool.not_eq_false] at hblank
    rw [Text.eq_nil_of_isAllBlank ht hblank] at hlast
    exact absurd hlast (by simp)
  have hends : t.endsWith ' ' = true := by
    rw [Text.endsWith, hlast, beq_self_eq_true]
  rw [workingWord, atEnd, hsome, if_neg Bool.false_ne_true, hends, Bool.true_and,
    if_pos (beq_self_eq_true _)]

/-- The working word is the space, one before the caret. -/
theorem workingSpan_append_space (t : Text) :
    (atEnd (t ++ [' '])).workingSpan = ⟨t.length, (t ++ [' ']).length⟩ := by
  have hnew : ((atEnd (t ++ [' '])).text.endsWith ' ' &&
      (atEnd (t ++ [' '])).clampedCaret == (atEnd (t ++ [' '])).text.length) = true := by
    rw [clampedCaret_atEnd, Bool.and_eq_true, Text.endsWith]
    exact ⟨by rw [atEnd, List.getLast?_concat, beq_self_eq_true], beq_self_eq_true _⟩
  rw [workingSpan]
  dsimp only
  rw [if_pos hnew]
  dsimp only [atEnd]
  rw [List.length_append, List.length_singleton, Span.mk.injEq]
  push_cast
  omega

theorem settled_append_space (t : Text) :
    (atEnd (t ++ [' '])).settled (atEnd (t ++ [' '])).workingSpan = t.strip := by
  have hle : t.length ≤ (t ++ [' ']).length := by
    rw [List.length_append]
    exact Nat.le_add_right _ _
  rw [settled, workingSpan_append_space, Text.slice_zero]
  dsimp only [atEnd]
  rw [Text.position_of_le hle, List.take_left]

end Line

namespace Context

/-- **The settled part is a list of words**: typable ones, with single spaces between them. -/
theorem exists_settledPart_eq (line : Line) :
    ∃ ts : List Text, (∀ t ∈ ts, t.IsWord ∧ t.AllTypable) ∧
      settledPart line.clean = Text.unwords ts := by
  rw [settledPart]
  split
  · exact ⟨[], fun _ h => absurd h List.not_mem_nil, rfl⟩
  · have hclean : line.clean.text.isTypable := line.isTypable_clean
    rw [Line.settled, Text.slice_zero]
    have htake := Text.isTypableAfter_take hclean
      (Text.position line.clean.text.length line.clean.workingSpan.start)
    exact ⟨_, fun t ht => ⟨Text.isWord_of_mem_words ht,
      Text.allTypable_of_mem_words (Text.AllTypable.of_isTypable htake) ht⟩,
      Text.strip_eq_unwords htake⟩

/-- The words of the settled part are its words, whichever way they are found. -/
theorem settledPart_eq_unwords (line : Line) :
    settledPart line.clean = Text.unwords (settledPart line.clean).words ∧
      ∀ t ∈ (settledPart line.clean).words, t.IsWord ∧ t.AllTypable := by
  obtain ⟨ts, hts, heq⟩ := exists_settledPart_eq line
  rw [heq, Text.words_unwords fun t ht => (hts t ht).1]
  exact ⟨rfl, hts⟩

/-- The working word of a clean line holds typable characters only. -/
theorem allTypable_workingWord (line : Line) (span : Span) :
    (line.clean.workingWord span).AllTypable := by
  have hclean : line.clean.text.AllTypable :=
    Text.AllTypable.of_isTypable line.isTypable_clean
  rw [Line.workingWord]
  split
  · exact Text.AllTypable.nil
  · split
    · intro c hc
      rw [List.mem_singleton.mp hc]
      rfl
    · exact hclean.of_sublist ((List.drop_sublist _ _).trans (List.take_sublist _ _))

/-! ### Words with a space behind them -/

section AtEnd

variable {ts : List Text} (hne : ts ≠ []) (hts : ∀ t ∈ ts, t.IsWord ∧ t.AllTypable)
include hne hts

/-- A line of words with a space behind them is clean already. -/
theorem clean_atEnd :
    (Line.atEnd (Text.unwords ts ++ [' '])).clean = Line.atEnd (Text.unwords ts ++ [' ']) :=
  Line.clean_eq_self (Text.isTypable_unwords_append_space hne hts) (Nat.le_refl _)

theorem workingWord_atEnd (span : Span) :
    (Line.atEnd (Text.unwords ts ++ [' '])).workingWord span = Line.newWord :=
  Line.workingWord_of_getLast? (Text.isTypable_unwords_append_space hne hts)
    List.getLast?_concat span

/-- **A new word settles the words before it.** -/
theorem settledPart_atEnd :
    settledPart (Line.atEnd (Text.unwords ts ++ [' '])).clean = Text.unwords ts := by
  rw [clean_atEnd hne hts, settledPart, workingWord_atEnd hne hts,
    if_neg (by simp [Line.newWord]), Line.settled_append_space,
    Text.strip_unwords fun t ht => (hts t ht).1]

end AtEnd

end Context

end CommandPrompt
