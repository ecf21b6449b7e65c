import CommandPrompt.Proofs.Line.Settled
import CommandPrompt.World.Packaged

/-!
# The word under the caret

Where the caret stands decides which word is being typed. The main statement is that of the text
behind that word nothing counts: two clean lines that agree up to the end of the working word have
the same working word and the same settled part, and so the same context
(`Context.ofLine_reach_append`).

A clean line whose caret is at a word falls into four pieces (`Line.Around`): what stands in front
of the word, the word to the left and to the right of the caret, and the rest of the line. The span,
the working word and the settled part are read off the first three of them, which is all that the
statement needs. That there are such pieces (`Line.exists_around`) is where cleaning comes in: a
typable text has no two blanks in a row, so a caret that is not behind the last space touches a
word. On a line that is not clean the caret can stand between two blanks, and there the last space
would be taken for a new word or not depending on what follows it.
-/

namespace CommandPrompt

/-! ### Beginnings of a text -/

namespace Text

/-- A blank in a typable text stands behind something that is no blank. -/
theorem isBlank_getLast?_eq_false {s rest : Text} {c : Char} {afterBlank : Bool}
    (h : isTypableAfter afterBlank (s ++ c :: rest)) (hc : isBlank c = true) :
    (s = [] → afterBlank = false) ∧ ∀ last ∈ s.getLast?, isBlank last = false := by
  induction s generalizing afterBlank with
  | nil =>
    simp only [List.nil_append, isTypableAfter, hc, Bool.true_and, Bool.and_eq_true,
      Bool.not_eq_true'] at h
    exact ⟨fun _ => h.1.1, fun last hlast => absurd hlast (by simp)⟩
  | cons d ds ih =>
    simp only [List.cons_append, isTypableAfter, Bool.and_eq_true] at h
    obtain ⟨hnil, hlast⟩ := ih h.2
    refine ⟨fun heq => absurd heq (List.cons_ne_nil d ds), fun last hmem => ?_⟩
    cases ds with
    | nil =>
      obtain rfl : d = last := by simpa using hmem
      exact hnil rfl
    | cons e es =>
      rw [List.getLast?_cons_cons] at hmem
      exact hlast last hmem

/-- No blank starts a typable text. -/
theorem isBlank_head?_eq_false {t : Text} (h : t.isTypable) : ∀ c ∈ t.head?, isBlank c = false := by
  intro c hc
  cases t with
  | nil => exact absurd hc (by simp)
  | cons d ds =>
    obtain rfl : d = c := by simpa using hc
    by_contra hblank
    rw [Bool.not_eq_false] at hblank
    exact absurd ((isBlank_getLast?_eq_false (s := []) h hblank).1 rfl) (by decide)

/-! ### Letters at an end of a text -/

/-- A text starts with characters that are no blanks, up to its first blank. -/
theorem exists_eq_letters_append (t : Text) : ∃ letters rest, t = letters ++ rest ∧
    (∀ c ∈ letters, isBlank c = false) ∧ ∀ c ∈ rest.head?, isBlank c = true := by
  induction t with
  | nil => exact ⟨[], [], rfl, by simp, by simp⟩
  | cons c cs ih =>
    cases hc : isBlank c with
    | true => exact ⟨[], c :: cs, rfl, by simp, by simpa using hc⟩
    | false =>
      obtain ⟨letters, rest, rfl, hletters, hrest⟩ := ih
      refine ⟨c :: letters, rest, rfl, fun d hd => ?_, hrest⟩
      rcases List.mem_cons.mp hd with rfl | hd
      · exact hc
      · exact hletters d hd

/-- A text ends with characters that are no blanks, from behind its last blank. -/
theorem exists_eq_append_letters (t : Text) : ∃ front letters, t = front ++ letters ∧
    (∀ c ∈ front.getLast?, isBlank c = true) ∧ ∀ c ∈ letters, isBlank c = false := by
  obtain ⟨letters, rest, heq, hletters, hrest⟩ := exists_eq_letters_append t.reverse
  refine ⟨rest.reverse, letters.reverse, ?_, ?_, ?_⟩
  · rw [← List.reverse_append, ← heq, List.reverse_reverse]
  · rwa [List.getLast?_reverse]
  · exact fun c hc => hletters c (List.mem_reverse.mp hc)

/-- The characters that are no blanks run up to the first blank. -/
theorem takeWhile_not_isBlank {s t : Text} (hs : ∀ c ∈ s, isBlank c = false)
    (ht : ∀ c ∈ t.head?, isBlank c = true) : (s ++ t).takeWhile (fun c => !isBlank c) = s := by
  have hstop : t.takeWhile (fun c => !isBlank c) = [] := by
    cases t with
    | nil => rfl
    | cons c cs => rw [List.takeWhile_cons, ht c rfl]; rfl
  rw [List.takeWhile_append_of_pos fun c hc => by rw [hs c hc]; rfl, hstop, List.append_nil]

end Text

namespace Line

/-! ### The pieces around the caret -/

/-- A line in four pieces: what stands in front of the word under the caret, that word to the left
and to the right of the caret, and the rest of the line. -/
structure Around (line : Line) (front left right rest : Text) : Prop where
  text_eq : line.text = front ++ (left ++ (right ++ rest))
  caret_eq : line.caret = ((front ++ left).length : Nat)
  /-- The word goes as far to the left as it can. -/
  front_blank : ∀ c ∈ front.getLast?, isBlank c = true
  left_not_blank : ∀ c ∈ left, isBlank c = false
  right_not_blank : ∀ c ∈ right, isBlank c = false
  /-- The word goes as far to the right as it can. -/
  rest_blank : ∀ c ∈ rest.head?, isBlank c = true
  /-- The caret is at a word. -/
  ne_nil : left ++ right ≠ []

namespace Around

variable {line : Line} {front left right rest : Text}

theorem clampedCaret (h : Around line front left right rest) :
    line.clampedCaret = (front ++ left).length := by
  have hle : (front ++ left).length ≤ line.text.length := by
    rw [h.text_eq, ← List.append_assoc, @List.length_append _ (front ++ left)]
    exact Nat.le_add_right _ _
  obtain ⟨text, caret⟩ := line
  obtain rfl : caret = _ := h.caret_eq
  exact clampedCaret_of_le hle

/-- The caret is not behind a space that ends the line. -/
theorem not_endsWith (h : Around line front left right rest)
    (hcaret : (front ++ left).length = line.text.length) : line.text.endsWith ' ' = false := by
  -- with the caret at the end the word is what stands to the left of it
  rw [h.text_eq, ← List.append_assoc, @List.length_append _ (front ++ left)] at hcaret
  obtain ⟨hright, hrest⟩ : right = [] ∧ rest = [] :=
    List.append_eq_nil_iff.mp (List.length_eq_zero_iff.mp (by omega))
  have hleft : left ≠ [] := fun hnil => h.ne_nil (by rw [hnil, hright]; rfl)
  rw [Text.endsWith, h.text_eq, hright, hrest, List.append_nil, List.append_nil,
    List.getLast?_append_of_ne_nil front hleft, List.getLast?_eq_some_getLast hleft]
  have hlast := h.left_not_blank _ (List.getLast_mem hleft)
  rw [beq_eq_false_iff_ne]
  intro heq
  rw [Option.some.inj heq] at hlast
  exact absurd hlast (by decide)

theorem not_isNew (h : Around line front left right rest) :
    (line.text.endsWith ' ' && line.clampedCaret == line.text.length) = false := by
  rw [h.clampedCaret, Bool.and_eq_false_iff]
  by_cases hcaret : (front ++ left).length = line.text.length
  · exact Or.inl (h.not_endsWith hcaret)
  · exact Or.inr (beq_eq_false_iff_ne.mpr hcaret)

/-- **The working word lies between the front and the rest.** -/
theorem workingSpan (h : Around line front left right rest) :
    line.workingSpan = ⟨front.length, (front ++ (left ++ right)).length⟩ := by
  have htake : line.text.take (front ++ left).length = front ++ left := by
    rw [h.text_eq, ← List.append_assoc]
    exact List.take_left
  have hdrop : line.text.drop (front ++ left).length = right ++ rest := by
    rw [h.text_eq, ← List.append_assoc]
    exact List.drop_left
  have hbefore : (front ++ left).reverse.takeWhile (fun c => !isBlank c) = left.reverse := by
    rw [List.reverse_append]
    exact Text.takeWhile_not_isBlank (fun c hc => h.left_not_blank c (List.mem_reverse.mp hc))
      (fun c hc => h.front_blank c (by rwa [List.head?_reverse] at hc))
  unfold Line.workingSpan
  dsimp only
  rw [h.not_isNew, if_neg Bool.false_ne_true, h.clampedCaret, htake, hdrop, hbefore,
    Text.takeWhile_not_isBlank h.right_not_blank h.rest_blank, List.length_reverse]
  simp only [List.length_append, Span.mk.injEq]
  omega

theorem isAllBlank_eq_false (h : Around line front left right rest) :
    line.text.isAllBlank = false := by
  obtain ⟨c, hc⟩ := List.exists_mem_of_ne_nil _ h.ne_nil
  have hmem : c ∈ line.text := by
    rw [h.text_eq, ← List.append_assoc left]
    exact List.mem_append_right front (List.mem_append_left rest hc)
  have hblank : isBlank c = false :=
    (List.mem_append.mp hc).elim (h.left_not_blank c) (h.right_not_blank c)
  rw [Text.isAllBlank, List.all_eq_false]
  exact ⟨c, hmem, by rw [hblank]; exact Bool.false_ne_true⟩

/-- The text up to the end of the word. -/
theorem take_eq (h : Around line front left right rest) :
    line.text.take (front ++ (left ++ right)).length = front ++ (left ++ right) := by
  have happend : line.text = front ++ (left ++ right) ++ rest := by
    rw [h.text_eq, List.append_assoc, List.append_assoc]
  rw [happend]
  exact List.take_left

theorem length_le (h : Around line front left right rest) :
    (front ++ (left ++ right)).length ≤ line.text.length := by
  rw [← h.take_eq, List.length_take]
  exact Nat.min_le_right _ _

theorem length_front_le (h : Around line front left right rest) :
    front.length ≤ line.text.length := by
  have hle := h.length_le
  rw [List.length_append] at hle
  omega

/-- **The working word** is the word under the caret. -/
theorem workingWord (h : Around line front left right rest) :
    line.workingWord line.workingSpan = left ++ right := by
  have hcaret : (line.caret == (line.text.length : Int)) = false ∨
      line.text.endsWith ' ' = false := by
    by_cases hcaret : (front ++ left).length = line.text.length
    · exact Or.inr (h.not_endsWith hcaret)
    · refine Or.inl (beq_eq_false_iff_ne.mpr ?_)
      rw [h.caret_eq]
      exact fun heq => hcaret (Int.ofNat_inj.mp heq)
  have hnew : (line.text.endsWith ' ' && line.caret == line.text.length) = false :=
    Bool.and_eq_false_iff.mpr hcaret.symm
  rw [Line.workingWord, h.isAllBlank_eq_false, if_neg Bool.false_ne_true, hnew,
    if_neg Bool.false_ne_true, h.workingSpan]
  dsimp only
  rw [Int.max_eq_left (Int.natCast_nonneg _), Int.min_eq_left (Int.ofNat_le.mpr h.length_le),
    Text.slice, Text.position_of_le h.length_le, Text.position_of_le h.length_front_le, h.take_eq]
  exact List.drop_left

/-- **The settled part** is what stands in front of the word, without the blanks around it. -/
theorem settled (h : Around line front left right rest) :
    line.settled line.workingSpan = front.strip := by
  rw [Line.settled, h.workingSpan, Text.slice_zero]
  dsimp only
  rw [Text.position_of_le h.length_front_le, h.text_eq, List.take_left]

end Around

/-- **A caret on a clean line is at a word**, unless it stands behind a space that ends the line or
there is no word. -/
theorem exists_around_of_getLast? {t : Text} (ht : t.isTypable) (hne : t ≠ []) {k : Nat}
    (hk : k ≤ t.length) (hend : ¬(t.getLast? = some ' ' ∧ k = t.length)) :
    ∃ front left right rest, Around ⟨t, k⟩ front left right rest := by
  obtain ⟨front, left, htake, hfront, hleft⟩ := Text.exists_eq_append_letters (t.take k)
  obtain ⟨right, rest, hdrop, hright, hrest⟩ := Text.exists_eq_letters_append (t.drop k)
  have htext : t = front ++ (left ++ (right ++ rest)) := by
    rw [← hdrop, ← List.append_assoc, ← htake, List.take_append_drop]
  have hlength : (front ++ left).length = k := by
    rw [← htake, List.length_take, Nat.min_eq_left hk]
  refine ⟨front, left, right, rest, htext, by rw [hlength], hfront, hleft, hright, hrest, ?_⟩
  intro hnil
  obtain ⟨rfl, rfl⟩ := List.append_eq_nil_iff.mp hnil
  rw [List.nil_append, List.nil_append] at htext
  cases rest with
  | cons c cs =>
    -- a blank stands behind the caret, so none stands before it and the text starts otherwise
    rw [htext] at ht
    obtain ⟨hstart, hlast⟩ := Text.isBlank_getLast?_eq_false ht (hrest c rfl)
    cases hd : front.getLast? with
    | none => exact absurd (hstart (List.getLast?_eq_none_iff.mp hd)) (by decide)
    | some d => exact absurd ((hlast d hd).symm.trans (hfront d hd)) (by decide)
  | nil =>
    -- the caret stands behind the last character, which is a space
    rw [List.append_nil] at htext hlength
    rw [← htext] at hlength hfront
    have hd := List.getLast?_eq_some_getLast hne
    have hspace : t.getLast hne = ' ' := (Text.AllTypable.of_isTypable ht).eq_space _
      (List.getLast_mem hne) (hfront _ hd)
    rw [hspace] at hd
    exact hend ⟨hd, hlength.symm⟩

/-- A caret on a clean line is at a word, unless a new word is begun or there is no word. -/
theorem exists_around {t : Text} (ht : t.isTypable) (hne : t ≠ []) {k : Nat} (hk : k ≤ t.length)
    (hnew : (⟨t, k⟩ : Line).workingWord (⟨t, k⟩ : Line).workingSpan ≠ newWord) :
    ∃ front left right rest, Around ⟨t, k⟩ front left right rest := by
  refine exists_around_of_getLast? ht hne hk fun ⟨hlast, heq⟩ => hnew ?_
  rw [heq]
  exact workingWord_of_getLast? ht hlast _

/-! ### What is read of a line -/

/-- The text of a line up to the end of its working word. -/
def reach (line : Line) : Text := line.text.slice 0 line.workingSpan.stop

theorem Around.reach_eq {line : Line} {front left right rest : Text}
    (h : Around line front left right rest) : line.reach = front ++ (left ++ right) := by
  rw [reach, h.workingSpan, Text.slice_zero]
  dsimp only
  rw [Text.position_of_le h.length_le, h.take_eq]

/-- Behind the word under the caret the line may go on as it likes. -/
theorem Around.change_rest {line : Line} {front left right rest : Text}
    (h : Around line front left right rest) (tail : Text)
    (htail : ∀ c ∈ tail.head?, isBlank c = true) :
    Around ⟨line.reach ++ tail, line.caret⟩ front left right tail where
  text_eq := by
    rw [h.reach_eq, List.append_assoc, List.append_assoc]
  caret_eq := h.caret_eq
  front_blank := h.front_blank
  left_not_blank := h.left_not_blank
  right_not_blank := h.right_not_blank
  rest_blank := htail
  ne_nil := h.ne_nil

end Line

namespace Context

/-- A clean line is read by the word under the caret and what stands in front of it. -/
theorem ofClean_of_around (round : Rounding) (catalog : Catalog) (limit : Limit)
    {line line' : Line} {front left right rest rest' : Text}
    (h : line.Around front left right rest) (h' : line'.Around front left right rest') :
    ofClean round catalog limit line = ofClean round catalog limit line' := by
  have hword : line.workingWord line.workingSpan = line'.workingWord line'.workingSpan := by
    rw [h.workingWord, h'.workingWord]
  have hsettled : settledPart line = settledPart line' := by
    unfold settledPart
    dsimp only
    rw [hword, h.settled, h'.settled]
  unfold ofClean
  rw [hword, hsettled]

/-- **What follows the word under the caret has no influence.** A line that has a word under the
caret has the same context, or the same fault, as the clean line that ends with that word, and as
every clean line that goes on behind it with a space. -/
theorem ofLine_reach_append (round : Rounding) (catalog : Catalog) (limit : Limit) (line : Line)
    (hne : line.clean.text ≠ [])
    (hnew : line.clean.workingWord line.clean.workingSpan ≠ Line.newWord) (tail : Text)
    (htail : ∀ c ∈ tail.head?, c = ' ') (htyp : (line.clean.reach ++ tail).isTypable) :
    ofLine round catalog limit ⟨line.clean.reach ++ tail, line.clean.caret⟩ =
      ofLine round catalog limit line := by
  obtain ⟨k, hk, hclean⟩ := line.exists_caret_clean
  obtain ⟨front, left, right, rest, haround⟩ : ∃ front left right rest,
      line.clean.Around front left right rest := by
    rw [hclean] at hnew ⊢
    exact Line.exists_around line.isTypable_clean hne hk hnew
  have haround' := haround.change_rest tail fun c hc => by
    rw [htail c hc]
    rfl
  -- the line with another rest is clean as it stands
  have hclean' : (⟨line.clean.reach ++ tail, line.clean.caret⟩ : Line).clean =
      ⟨line.clean.reach ++ tail, line.clean.caret⟩ := by
    have hle : (front ++ left).length ≤ (line.clean.reach ++ tail).length := by
      rw [haround.reach_eq, ← List.append_assoc front, List.append_assoc (front ++ left),
        @List.length_append _ (front ++ left)]
      exact Nat.le_add_right _ _
    rw [haround.caret_eq]
    exact Line.clean_eq_self htyp hle
  rw [ofLine, hclean', ofLine]
  exact ofClean_of_around round catalog limit haround' haround

/-- With the caret inside of "red", it does not matter which thing of the packaged world is looked
at, nor whether anything follows at all. -/
theorem ofLine_examine_pale_red :
    let line : Line := ⟨"Examine  pale red bucket!".toList, 16⟩
    line.clean.text ≠ [] ∧ line.clean.workingWord line.clean.workingSpan ≠ Line.newWord ∧
      ofLine .double (Catalog.ofWorld .packaged) (.whole 5) ⟨"Examine pale red candy".toList, 15⟩ =
        ofLine .double (Catalog.ofWorld .packaged) (.whole 5) line ∧
      ofLine .double (Catalog.ofWorld .packaged) (.whole 5) ⟨"Examine pale red".toList, 15⟩ =
        ofLine .double (Catalog.ofWorld .packaged) (.whole 5) line := by
  intro line
  have hne : line.clean.text ≠ [] := by decide +kernel
  have hnew : line.clean.workingWord line.clean.workingSpan ≠ Line.newWord := by decide +kernel
  have hreach : line.clean.reach = "Examine pale red".toList := by decide +kernel
  have hcaret : line.clean.caret = 15 := by decide +kernel
  have hspace : ∀ c ∈ " candy".toList.head?, c = ' ' := by
    have hhead : " candy".toList.head? = some ' ' := by decide +kernel
    intro c hc
    rw [hhead] at hc
    exact (Option.some.inj hc).symm
  have hcandy := ofLine_reach_append .double (Catalog.ofWorld .packaged) (.whole 5) line hne hnew
    " candy".toList hspace (by rw [hreach]; decide +kernel)
  have hnothing := ofLine_reach_append .double (Catalog.ofWorld .packaged) (.whole 5) line hne hnew
    [] (fun c hc => absurd hc (by simp)) (by rw [hreach]; decide +kernel)
  rw [hreach, hcaret] at hcandy hnothing
  exact ⟨hne, hnew, hcandy, hnothing⟩

end Context

end CommandPrompt
