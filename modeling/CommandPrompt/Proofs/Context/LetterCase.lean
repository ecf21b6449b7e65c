import CommandPrompt.Proofs.Line.Settled
import CommandPrompt.Proofs.Phrase.Matching
import CommandPrompt.World.Packaged

/-!
# Letter case has no influence

Two lines that differ only in the case of letters have the same groups and the same suggestions, or
fail for the same reason (`Context.ofLine_alike`). The spellings of the vocabulary may be in mixed
case themselves.

`Text.foldCase` puts the letters A to Z of a text in lower case and leaves everything else as it
is, so two texts differ only in letter case if folding makes them equal. Each stage is shown to give
for a folded input what it gives for the input, folded: cleaning and the split at the caret, because
no letter becomes a blank or untypable by its case; matching, because it looks at the lengths of the
text and at its lower case alone (`AmbiguityGroup.readFrom_foldCase`); and ranking, because scores
are worked out in lower case (`Context.rank_foldCase`). Behind the matcher the typed text is not
looked at any more.

A fault may repeat what was typed, and then it repeats it in the case in which it was typed. So
faults are compared after folding as well (`ContextFault.foldCase`).
-/

namespace CommandPrompt

/-! ### Texts -/

namespace Text

/-- The text with the letters A to Z in lower case. -/
def foldCase (t : Text) : Text := t.map Char.toLower

theorem length_foldCase (t : Text) : t.foldCase.length = t.length := List.length_map _

theorem isEmpty_foldCase (t : Text) : t.foldCase.isEmpty = t.isEmpty := by
  cases t <;> rfl

theorem AllTypable.foldCase {t : Text} (h : t.AllTypable) : t.foldCase.AllTypable := by
  intro d hd
  obtain ⟨c, hc, rfl⟩ := List.mem_map.mp hd
  rw [isTypableChar_toLower]
  exact h c hc

/-- What can be typed has the same lower case after folding. -/
theorem lower_foldCase {t : Text} (h : t.AllTypable) : t.foldCase.lower = t.lower := by
  calc t.foldCase.lower = (t.map Char.toLower).map Char.toLower := lower_eq_map h.foldCase
    _ = t.map Char.toLower := by
      rw [List.map_map]
      exact List.map_congr_left fun c _ => toLower_toLower c
    _ = t.lower := (lower_eq_map h).symm

theorem isAllBlank_foldCase (t : Text) : t.foldCase.isAllBlank = t.isAllBlank := by
  unfold isAllBlank foldCase
  rw [List.all_map]
  exact congrArg t.all (funext isBlank_toLower)

theorem endsWith_foldCase (t : Text) : t.foldCase.endsWith ' ' = t.endsWith ' ' := by
  unfold endsWith foldCase
  rw [List.getLast?_map]
  cases t.getLast? with
  | none => rfl
  | some c =>
    show (some c.toLower == some ' ') = (some c == some ' ')
    rw [Bool.eq_iff_iff, beq_iff_eq, beq_iff_eq, Option.some.injEq, Option.some.injEq]
    exact toLower_eq_space_iff c

theorem head?_foldCase (t : Text) : t.foldCase.head?.any (· != ' ') = t.head?.any (· != ' ') := by
  unfold foldCase
  cases t with
  | nil => rfl
  | cons c cs =>
    show (c.toLower != ' ') = (c != ' ')
    rw [Bool.eq_iff_iff, bne_iff_ne, bne_iff_ne]
    exact not_congr (toLower_eq_space_iff c)

theorem take_foldCase (t : Text) (n : Nat) : foldCase (t.take n) = t.foldCase.take n :=
  List.map_take

theorem drop_foldCase (t : Text) (n : Nat) : foldCase (t.drop n) = t.foldCase.drop n :=
  List.map_drop

theorem slice_foldCase (t : Text) (start stop : Int) :
    (t.slice start stop).foldCase = t.foldCase.slice start stop := by
  unfold slice
  rw [drop_foldCase, take_foldCase, length_foldCase]

/-- Folding neither makes nor removes a blank, so runs without blanks stay what they are. -/
theorem takeWhile_foldCase (t : Text) :
    foldCase (t.takeWhile fun c => !isBlank c) = t.foldCase.takeWhile fun c => !isBlank c := by
  unfold foldCase
  rw [List.takeWhile_map]
  congr 2
  funext c
  show (!isBlank c) = !isBlank c.toLower
  rw [isBlank_toLower]

theorem dropWhile_foldCase (t : Text) :
    foldCase (t.dropWhile isBlank) = t.foldCase.dropWhile isBlank := by
  unfold foldCase
  rw [List.dropWhile_map]
  congr 2
  funext c
  exact (isBlank_toLower c).symm

theorem reverse_foldCase (t : Text) : foldCase t.reverse = t.foldCase.reverse :=
  List.map_reverse

theorem strip_foldCase (t : Text) : t.strip.foldCase = t.foldCase.strip := by
  unfold strip stripEnd
  rw [reverse_foldCase, dropWhile_foldCase, reverse_foldCase, dropWhile_foldCase]

/-- **Cleaning keeps letter case and nothing hangs on it.** -/
theorem cleanAfter_foldCase (afterBlank : Bool) (t : Text) :
    (cleanAfter afterBlank t).foldCase = cleanAfter afterBlank t.foldCase := by
  induction t generalizing afterBlank with
  | nil => rfl
  | cons c cs ih =>
    show _ = cleanAfter afterBlank (c.toLower :: foldCase cs)
    rw [cleanAfter, cleanAfter, isBlank_toLower, isTypableChar_toLower]
    split
    · split
      · exact ih true
      · exact congrArg (' ' :: ·) (ih true)
    · split
      · exact congrArg (c.toLower :: ·) (ih false)
      · exact ih afterBlank

end Text

/-! ### Lines -/

namespace Line

/-- The line with the letters A to Z in lower case. -/
def foldCase (line : Line) : Line := { line with text := line.text.foldCase }

variable (line : Line)

theorem clampedCaret_foldCase : line.foldCase.clampedCaret = line.clampedCaret := by
  show min line.caret.toNat line.text.foldCase.length = _
  rw [Text.length_foldCase]
  rfl

theorem clean_foldCase : line.clean.foldCase = line.foldCase.clean := by
  have hbefore : Text.clean (line.foldCase.text.take line.foldCase.clampedCaret) =
      (Text.clean (line.text.take line.clampedCaret)).foldCase := by
    rw [clampedCaret_foldCase]
    show Text.clean (line.text.foldCase.take _) = _
    rw [← Text.take_foldCase]
    exact (Text.cleanAfter_foldCase true _).symm
  rw [clean_eq, clean_eq, hbefore, Text.length_foldCase]
  show (⟨(Text.clean line.text).foldCase, _⟩ : Line) = ⟨Text.clean line.text.foldCase, _⟩
  rw [Text.clean, Text.cleanAfter_foldCase]
  rfl

theorem workingSpan_foldCase : line.foldCase.workingSpan = line.workingSpan := by
  have htext : line.foldCase.text = line.text.foldCase := rfl
  unfold workingSpan
  dsimp only
  rw [clampedCaret_foldCase, htext, Text.endsWith_foldCase, Text.length_foldCase,
    ← Text.take_foldCase, ← Text.drop_foldCase, ← Text.reverse_foldCase,
    ← Text.takeWhile_foldCase, ← Text.takeWhile_foldCase, Text.length_foldCase,
    Text.length_foldCase]

theorem workingWord_foldCase (span : Span) :
    line.foldCase.workingWord span = (line.workingWord span).foldCase := by
  have htext : line.foldCase.text = line.text.foldCase := rfl
  have hcaret : line.foldCase.caret = line.caret := rfl
  unfold workingWord
  rw [htext, hcaret, Text.isAllBlank_foldCase, Text.endsWith_foldCase, Text.length_foldCase]
  split
  · rfl
  · split
    · rfl
    · exact (Text.slice_foldCase _ _ _).symm

theorem settled_foldCase (span : Span) :
    line.foldCase.settled span = (line.settled span).foldCase := by
  unfold settled
  rw [Text.strip_foldCase, Text.slice_foldCase]
  rfl

end Line

/-! ### Matching -/

/-- The misreading with what was typed in folded case. The spelling of a preposition is that of the
vocabulary, so it stays as it is. -/
def Misreading.foldCase : Misreading → Misreading
  | noVocabularyMatch remainder => noVocabularyMatch remainder.foldCase
  | wordBoundary matched remainder => wordBoundary matched.foldCase remainder.foldCase
  | misreading => misreading

namespace AmbiguityGroup

variable (vocabulary : List Word)

theorem longest_foldCase {t : Text} (ht : t.AllTypable) :
    longest vocabulary t.foldCase = longest vocabulary t := by
  unfold longest
  rw [Text.lower_foldCase ht, Text.length_foldCase]

/-- **A folded text is matched like the text itself**, place by place. -/
theorem readFrom_foldCase (bound : Nat) {t : Text} (ht : t.AllTypable) :
    readFrom vocabulary bound t.foldCase =
      (readFrom vocabulary bound t).mapError Misreading.foldCase := by
  induction bound generalizing t with
  | zero =>
    cases t with
    | nil => rfl
    | cons c cs => rfl
  | succ bound ih =>
    cases t with
    | nil => rfl
    | cons c cs =>
      have hlongest := longest_foldCase vocabulary ht
      cases hfound : longest vocabulary (c :: cs) with
      | nil =>
        rw [hfound] at hlongest
        have hne : Text.foldCase (c :: cs) ≠ [] := List.cons_ne_nil _ _
        rw [readFrom_succ_of_longest_nil hne hlongest,
          readFrom_succ_of_longest_nil (List.cons_ne_nil c cs) hfound]
        rfl
      | cons w others =>
        -- what is left behind the match is shorter, and it is folded too
        have hrest : Text.AllTypable (Text.strip ((c :: cs).drop w.spelling.length)) :=
          ht.of_sublist ((Text.strip_sublist _).trans (List.drop_sublist _ _))
        have hcons : Text.foldCase (c :: cs) = c.toLower :: Text.foldCase cs := rfl
        rw [hfound, hcons] at hlongest
        rw [hcons]
        simp only [readFrom, hlongest, hfound]
        rw [← hcons, ← Text.drop_foldCase, ← Text.take_foldCase, Text.head?_foldCase,
          ← Text.strip_foldCase, ih hrest]
        split
        · rfl
        · cases readFrom vocabulary bound (Text.strip ((c :: cs).drop w.spelling.length)) <;> rfl

theorem read_foldCase {t : Text} (ht : t.AllTypable) :
    read vocabulary t.foldCase = (read vocabulary t).mapError Misreading.foldCase := by
  unfold read
  rw [Text.length_foldCase, ← Text.strip_foldCase]
  exact readFrom_foldCase vocabulary t.length (ht.of_sublist (Text.strip_sublist t))

end AmbiguityGroup

/-! ### Ranking -/

/-- The score of what was typed is worked out in lower case. -/
theorem Score.best_foldCase (round : Rounding) {typed : Text} (ht : typed.AllTypable)
    (candidate : Text) : best round typed.foldCase candidate = best round typed candidate := by
  have hatOffset : ∀ offset : Int, atOffset round typed.foldCase candidate offset =
      atOffset round typed candidate offset := by
    intro offset
    unfold atOffset
    rw [Text.lower_foldCase ht]
  unfold best offsets
  rw [Text.isEmpty_foldCase, Text.length_foldCase]
  simp only [hatOffset]

theorem Suggestion.rankPartial_foldCase (round : Rounding) {typed : Text} (ht : typed.AllTypable)
    (words : List Word) :
    rankPartial round typed.foldCase words = rankPartial round typed words := by
  induction words with
  | nil => rfl
  | cons w ws ih =>
    unfold rankPartial
    rw [Score.best_foldCase round ht, ih]

namespace Context

theorem isFresh_foldCase (t : Text) : isFresh t.foldCase = isFresh t := by
  -- the only text that folds to a space is a space
  have hnew : (t.foldCase == Line.newWord) = (t == Line.newWord) := by
    rw [Bool.eq_iff_iff, beq_iff_eq, beq_iff_eq]
    match t with
    | [] => exact Iff.rfl
    | [c] =>
      show [c.toLower] = [' '] ↔ [c] = [' ']
      rw [List.singleton_inj, List.singleton_inj]
      exact toLower_eq_space_iff c
    | c :: d :: rest => exact ⟨fun h => by simp [Text.foldCase, Line.newWord] at h,
        fun h => by simp [Line.newWord] at h⟩
  unfold isFresh
  rw [Text.isEmpty_foldCase, hnew]

theorem rank_foldCase (round : Rounding) (catalog : Catalog) (groups : List Group)
    {workingWord : Text} (ht : workingWord.AllTypable) :
    rank round catalog groups workingWord.foldCase = rank round catalog groups workingWord := by
  unfold rank
  dsimp only
  rw [isFresh_foldCase, Suggestion.rankPartial_foldCase round ht]

theorem settledPart_foldCase (line : Line) :
    settledPart line.foldCase = (settledPart line).foldCase := by
  unfold settledPart
  dsimp only
  rw [Line.workingSpan_foldCase, Line.workingWord_foldCase, Line.settled_foldCase,
    Text.isEmpty_foldCase]
  split <;> rfl

end Context

/-- The fault with what was typed in folded case. -/
def ContextFault.foldCase : ContextFault → ContextFault
  | misread misreading => misread misreading.foldCase
  | arithmetic fault => arithmetic fault

namespace Context

/-- Texts that differ only in letter case are read alike: they are matched by the same words, and
behind the matcher only these count. -/
theorem readGroups_alike (catalog : Catalog) {s t : Text} (hs : s.AllTypable) (ht : t.AllTypable)
    (h : s.foldCase = t.foldCase) :
    (readGroups catalog s).mapError Misreading.foldCase =
      (readGroups catalog t).mapError Misreading.foldCase := by
  have hread : (AmbiguityGroup.read catalog.words s).mapError Misreading.foldCase =
      (AmbiguityGroup.read catalog.words t).mapError Misreading.foldCase := by
    rw [← AmbiguityGroup.read_foldCase catalog.words hs,
      ← AmbiguityGroup.read_foldCase catalog.words ht, h]
  unfold readGroups
  cases hreads : AmbiguityGroup.read catalog.words s with
  | ok matched =>
    rw [hreads] at hread
    rw [mapError_eq_ok_iff.mp hread.symm]
  | error misreading =>
    rw [hreads] at hread
    obtain ⟨misreading', hreadt, heq⟩ := mapError_eq_error_iff.mp hread.symm
    rw [hreadt]
    exact congrArg Except.error heq.symm

/-- Two lines were understood alike, or misread alike: the groups and the suggestions are the same,
and so is the reason of a fault. What was typed may be in different case. -/
inductive Alike : Except ContextFault Context → Except ContextFault Context → Prop where
  | understood {context context' : Context} (groups : context.groups = context'.groups)
      (suggestions : context.suggestions = context'.suggestions)
      (settled : context.settled.foldCase = context'.settled.foldCase)
      (workingWord : context.workingWord.foldCase = context'.workingWord.foldCase) :
      Alike (.ok context) (.ok context')
  | failed {fault fault' : ContextFault} (fault_eq : fault.foldCase = fault'.foldCase) :
      Alike (.error fault) (.error fault')

theorem allTypable_settledPart (line : Line) : (settledPart line.clean).AllTypable := by
  obtain ⟨ts, hts, heq⟩ := exists_settledPart_eq line
  rw [heq]
  exact Text.allTypable_unwords fun t ht => (hts t ht).2

/-- **Letter case has no influence.** Two texts that differ only in the case of letters, with the
caret in the same place, are understood alike or misread alike, whatever the vocabulary is. -/
theorem ofLine_alike (round : Rounding) (catalog : Catalog) (limit : Limit) {line line' : Line}
    (htext : line.text.foldCase = line'.text.foldCase) (hcaret : line.caret = line'.caret) :
    Alike (ofLine round catalog limit line) (ofLine round catalog limit line') := by
  have hclean : line.clean.foldCase = line'.clean.foldCase := by
    rw [Line.clean_foldCase, Line.clean_foldCase, Line.foldCase, Line.foldCase, htext, hcaret]
  have hspan : line.clean.workingSpan = line'.clean.workingSpan := by
    rw [← Line.workingSpan_foldCase, hclean, Line.workingSpan_foldCase]
  have hword : (line.clean.workingWord line.clean.workingSpan).foldCase =
      (line'.clean.workingWord line'.clean.workingSpan).foldCase := by
    rw [← Line.workingWord_foldCase, hclean, Line.workingWord_foldCase, hspan]
  have hsettled : (settledPart line.clean).foldCase = (settledPart line'.clean).foldCase := by
    rw [← settledPart_foldCase, hclean, settledPart_foldCase]
  have hread := readGroups_alike catalog (allTypable_settledPart line)
    (allTypable_settledPart line') hsettled
  unfold ofLine ofClean
  dsimp only
  cases hgroups : readGroups catalog (settledPart line.clean) with
  | error misreading =>
    rw [hgroups] at hread
    obtain ⟨misreading', hgroups', heq⟩ := mapError_eq_error_iff.mp hread.symm
    rw [hgroups']
    exact .failed (congrArg ContextFault.misread heq.symm)
  | ok groups =>
    rw [hgroups] at hread
    rw [mapError_eq_ok_iff.mp hread.symm]
    -- with the same groups the candidates are the same, and so is what ranking makes of them
    have hrank : rank round catalog groups (line.clean.workingWord line.clean.workingSpan) =
        rank round catalog groups (line'.clean.workingWord line'.clean.workingSpan) := by
      rw [← rank_foldCase round catalog groups (allTypable_workingWord line _), hword,
        rank_foldCase round catalog groups (allTypable_workingWord line' _)]
    show Alike ((rank round catalog groups _).mapError _ >>= _)
      ((rank round catalog groups _).mapError _ >>= _)
    rw [hrank]
    cases rank round catalog groups (line'.clean.workingWord line'.clean.workingSpan) with
    | error fault => exact .failed rfl
    | ok ranked =>
      cases limit.count? with
      | error fault => exact .failed rfl
      | ok count => exact .understood rfl rfl hsettled hword

/-- A thing whose name and adjective are in mixed case is found however they are typed. -/
theorem ofLine_take_old_mcguffin :
    let draft : NounDraft := ⟨"McGuffin".toList, ["OLD".toList]⟩
    let world := (World.packaged.addNoun draft).1
    let line := Line.atEnd "Take old mcGUFF".toList
    let line' := Line.atEnd "TAKE oLd McGuff".toList
    line.text.foldCase = line'.text.foldCase ∧ line.caret = line'.caret ∧
      Alike (ofLine .double (Catalog.ofWorld world) (.whole 5) line)
        (ofLine .double (Catalog.ofWorld world) (.whole 5) line') := by
  intro draft world line line'
  have htext : line.text.foldCase = line'.text.foldCase := by decide +kernel
  have hcaret : line.caret = line'.caret := by decide +kernel
  exact ⟨htext, hcaret, ofLine_alike .double (Catalog.ofWorld world) (.whole 5) htext hcaret⟩

end Context

end CommandPrompt
