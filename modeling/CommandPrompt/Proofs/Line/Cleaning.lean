import CommandPrompt.Proofs.Text.Spacing

/-!
# Cleaning a line

A line is cleaned in one pass, `Text.scan`. The pass decides about a character by what was kept last
before it, and for each character that it drops from before the caret it moves the caret back. It
has two readings (`Line.clean_eq`). The text that it keeps is `Text.clean` of the text, so the caret
has no part in it. And the caret that it ends with counts what is kept of the text before the caret,
because that text is cleaned as if nothing followed it (`Text.cleanAfter_take`).

By the first reading cleaning is a projection onto the typable texts: it yields them all, changes
none of them, and has the words of the text less what cannot be typed (`Line.clean_projects`). By
the second one the caret stays where it was among the characters that are kept
(`Line.clean_follows_caret`).
-/

namespace CommandPrompt

/-! ### The two readings of the pass -/

namespace Text

theorem cleanAfter_cons (afterBlank : Bool) (c : Char) (cs : Text) :
    cleanAfter afterBlank (c :: cs) =
      if keeps afterBlank c then asTyped c :: cleanAfter (isBlank c) cs
      else cleanAfter afterBlank cs := by
  rw [cleanAfter, keeps, asTyped]
  cases hc : isBlank c with
  | true => cases afterBlank <;> rfl
  | false => simp

section Scan

variable (original place : Nat) (afterBlank : Bool) (caret : Int)

theorem scan_cons_of_keeps {c : Char} (h : keeps afterBlank c = true) (cs : Text) :
    scan original afterBlank place caret (c :: cs) =
      (asTyped c :: (scan original (isBlank c) (place + 1) caret cs).1,
        (scan original (isBlank c) (place + 1) caret cs).2) := by
  rw [scan, if_pos h]

theorem scan_cons_of_not_keeps {c : Char} (h : ¬keeps afterBlank c = true) (cs : Text) :
    scan original afterBlank place caret (c :: cs) =
      scan original afterBlank (place + 1) (if place < original then caret - 1 else caret) cs := by
  rw [scan, if_neg h]

/-- What a pass keeps does not depend on the caret. -/
theorem scan_fst (t : Text) :
    (scan original afterBlank place caret t).1 = cleanAfter afterBlank t := by
  induction t generalizing afterBlank place caret with
  | nil => rfl
  | cons c cs ih =>
    rw [cleanAfter_cons]
    by_cases hkeeps : keeps afterBlank c = true
    · rw [scan_cons_of_keeps _ _ _ _ hkeeps, if_pos hkeeps, ih]
    · rw [scan_cons_of_not_keeps _ _ _ _ hkeeps, if_neg hkeeps, ih]

/-- From the place `original` on nothing is counted. -/
theorem scan_snd_of_le (t : Text) (h : original ≤ place) :
    (scan original afterBlank place caret t).2 = caret := by
  induction t generalizing afterBlank place with
  | nil => rfl
  | cons c cs ih =>
    by_cases hkeeps : keeps afterBlank c = true
    · rw [scan_cons_of_keeps _ _ _ _ hkeeps]
      exact ih (place + 1) (isBlank c) (Nat.le_succ_of_le h)
    · rw [scan_cons_of_not_keeps _ _ _ _ hkeeps, if_neg (Nat.not_lt.mpr h)]
      exact ih (place + 1) afterBlank (Nat.le_succ_of_le h)

/-- A pass moves the caret back by the number of characters that are not kept before the place
`original`. -/
theorem scan_snd (t : Text) :
    (scan original afterBlank place caret t).2 + (t.take (original - place)).length =
      caret + (cleanAfter afterBlank (t.take (original - place))).length := by
  induction t generalizing afterBlank place caret with
  | nil => rw [List.take_nil]; rfl
  | cons c cs ih =>
    by_cases hbefore : place < original
    · have hnext : original - place = original - (place + 1) + 1 := by omega
      rw [hnext, List.take_succ_cons, cleanAfter_cons]
      by_cases hkeeps : keeps afterBlank c = true
      · have ih := ih (place + 1) (isBlank c) caret
        rw [scan_cons_of_keeps _ _ _ _ hkeeps, if_pos hkeeps, List.length_cons, List.length_cons]
        omega
      · have ih := ih (place + 1) afterBlank (caret - 1)
        rw [scan_cons_of_not_keeps _ _ _ _ hkeeps, if_neg hkeeps, if_pos hbefore, List.length_cons]
        omega
    · have hnone : original - place = 0 := Nat.sub_eq_zero_of_le (Nat.le_of_not_lt hbefore)
      rw [hnone, List.take_zero, scan_snd_of_le _ _ _ _ _ (Nat.le_of_not_lt hbefore)]
      rfl

end Scan

/-- A beginning of a text is cleaned to a beginning of the clean text. -/
theorem cleanAfter_take (afterBlank : Bool) (t : Text) (n : Nat) :
    cleanAfter afterBlank (t.take n) <+: cleanAfter afterBlank t := by
  induction t generalizing afterBlank n with
  | nil => cases n <;> exact List.prefix_refl _
  | cons c cs ih =>
    cases n with
    | zero => exact List.nil_prefix
    | succ n =>
      rw [List.take_succ_cons, cleanAfter_cons, cleanAfter_cons]
      -- both texts keep the same character or drop it, and go on in the same way
      split
      · exact (List.prefix_cons_inj (asTyped c)).mpr (ih (isBlank c) n)
      · exact ih afterBlank n

/-- Cleaning adds no character. -/
theorem length_cleanAfter_le (afterBlank : Bool) (t : Text) :
    (cleanAfter afterBlank t).length ≤ t.length := by
  induction t generalizing afterBlank with
  | nil => exact Nat.le_refl 0
  | cons c cs ih =>
    rw [cleanAfter_cons, List.length_cons]
    split
    · exact Nat.succ_le_succ (ih (isBlank c))
    · exact Nat.le_trans (ih afterBlank) (Nat.le_succ _)

/-- A typable text without words is empty. -/
theorem eq_nil_of_isAllBlank {t : Text} (ht : t.isTypable) (hblank : t.isAllBlank = true) :
    t = [] := by
  cases t with
  | nil => rfl
  | cons c cs =>
    rw [isAllBlank, List.all_cons, Bool.and_eq_true] at hblank
    simp [isTypable, isTypableAfter, hblank.1] at ht

end Text

namespace Line

theorem clampedCaret_le (line : Line) : line.clampedCaret ≤ line.text.length := Nat.min_le_right _ _

/-- **The two readings of cleaning**: the text is cleaned without regard to the caret, and the caret
stands behind what is kept of the text before it. -/
theorem clean_eq (line : Line) : line.clean =
    ⟨Text.clean line.text, ((Text.clean (line.text.take line.clampedCaret)).length : Nat)⟩ := by
  have hkept := Text.scan_fst line.clampedCaret 0 true line.clampedCaret line.text
  have hmoved := Text.scan_snd line.clampedCaret 0 true line.clampedCaret line.text
  rw [Nat.sub_zero, List.length_take, Nat.min_eq_left line.clampedCaret_le] at hmoved
  have hle : (Text.clean (line.text.take line.clampedCaret)).length ≤
      (Text.clean line.text).length := (Text.cleanAfter_take true line.text _).length_le
  unfold clean
  generalize Text.scan line.clampedCaret true 0 line.clampedCaret line.text = scanned at *
  obtain ⟨kept, moved⟩ := scanned
  obtain rfl : kept = Text.clean line.text := hkept
  obtain rfl : moved = (Text.clean (line.text.take line.clampedCaret)).length :=
    Int.add_left_cancel ((Int.add_comm _ _).trans hmoved)
  dsimp only
  split
  · next hblank =>
    have hnil := Text.eq_nil_of_isAllBlank (Text.isTypable_clean line.text) hblank
    rw [hnil, List.length_nil, Nat.le_zero] at hle
    rw [hnil, hle]
    rfl
  · rw [Int.min_eq_left (Int.ofNat_le.mpr hle)]

theorem clean_text (line : Line) : line.clean.text = Text.clean line.text := by rw [clean_eq]

theorem clean_caret (line : Line) :
    line.clean.caret = ((Text.clean (line.text.take line.clampedCaret)).length : Nat) := by
  rw [clean_eq]

theorem isTypable_clean (line : Line) : line.clean.text.isTypable := by
  rw [clean_text]
  exact Text.isTypable_clean line.text

/-- The caret of a clean line stands in its text. -/
theorem exists_caret_clean (line : Line) :
    ∃ k : Nat, k ≤ line.clean.text.length ∧ line.clean = ⟨line.clean.text, k⟩ := by
  rw [clean_eq]
  exact ⟨_, (Text.cleanAfter_take true line.text line.clampedCaret).length_le, rfl⟩

theorem clampedCaret_of_le {t : Text} {k : Nat} (hk : k ≤ t.length) :
    (⟨t, k⟩ : Line).clampedCaret = k := by
  show min (k : Int).toNat t.length = k
  rw [Int.toNat_natCast]
  exact Nat.min_eq_left hk

/-- Cleaning changes no line that is clean already. -/
theorem clean_eq_self {t : Text} (ht : t.isTypable) {k : Nat} (hk : k ≤ t.length) :
    (⟨t, k⟩ : Line).clean = ⟨t, k⟩ := by
  have htake : Text.clean (t.take k) = t.take k :=
    Text.clean_eq_self (Text.isTypableAfter_take ht k)
  rw [clean_eq, clampedCaret_of_le hk]
  dsimp only
  rw [Text.clean_eq_self ht, htake, List.length_take, Nat.min_eq_left hk]

end Line

/-! ### The words that are left -/

namespace Text

/-- Pieces are what lies between the characters that a text is split at. -/
theorem pieces_eq_splitOnP {p : Char → Bool} {t : Text} (h : ∀ c ∈ t, isBlank c = p c) :
    pieces t = t.splitOnP p := by
  induction t with
  | nil => rfl
  | cons c cs ih =>
    have ih := ih fun d hd => h d (List.mem_cons_of_mem c hd)
    rw [List.splitOnP_cons_eq_if_modifyHead, ← h c List.mem_cons_self, ← ih]
    cases hc : isBlank c with
    | true => rw [pieces, hc]; rfl
    | false =>
      obtain ⟨piece, rest, hp, hcons⟩ := pieces_cons_of_not_isBlank hc cs
      rw [hcons, hp]
      rfl

/-- What can be typed of some texts, without those of which nothing is left. -/
def typableParts (ts : List Text) : List Text :=
  (ts.map fun t => t.filter isTypableChar).filter fun t => !t.isEmpty

theorem typableParts_cons_append (first : Text) (rest : List Text) : typableParts (first :: rest) =
    ([first.filter isTypableChar].filter fun t => !t.isEmpty) ++ typableParts rest := by
  rw [typableParts, List.map_cons, ← List.singleton_append, List.filter_append]
  rfl

/-- **Cleaning goes run by run.** At the start, or behind a blank, empty runs are passed over.
Behind something else the first run only ends what stands before the text, so it may be empty. -/
theorem words_cleanAfter (t : Text) : words (cleanAfter true t) = typableParts (pieces t) ∧
    ∀ {first : Text} {rest : List Text}, pieces t = first :: rest →
      ∃ rest', pieces (cleanAfter false t) = first.filter isTypableChar :: rest' ∧
        (rest'.filter fun t => !t.isEmpty) = typableParts rest := by
  induction t with
  | nil => exact ⟨rfl, by rintro _ _ ⟨⟩; exact ⟨[], rfl, rfl⟩⟩
  | cons c cs ih =>
    obtain ⟨hstart, hinside⟩ := ih
    cases hc : isBlank c with
    | true =>
      have hpieces : pieces (c :: cs) = [] :: pieces cs := by rw [pieces, hc]; rfl
      rw [hpieces, cleanAfter_true_cons_of_isBlank cs hc, cleanAfter_false_cons_of_isBlank cs hc]
      exact ⟨hstart, by rintro _ _ ⟨⟩; exact ⟨_, rfl, hstart⟩⟩
    | false =>
      obtain ⟨piece, others, hcs, hpieces⟩ := pieces_cons_of_not_isBlank hc cs
      obtain ⟨rest', hrest', hparts⟩ := hinside hcs
      rw [hpieces]
      cases htyp : isTypableChar c with
      | true =>
        -- the character begins the first run, and what follows stands behind something else
        have hfilter : (c :: piece).filter isTypableChar = c :: piece.filter isTypableChar :=
          List.filter_cons_of_pos htyp
        have hclean : pieces (c :: cleanAfter false cs) =
            (c :: piece.filter isTypableChar) :: rest' := by rw [pieces, hc, hrest']; rfl
        have hkeep := cleanAfter_cons_of_isTypableChar cs hc htyp
        rw [hkeep, hkeep, words, hclean, typableParts_cons_append, hfilter, ← hparts]
        exact ⟨rfl, by rintro _ _ ⟨⟩; exact ⟨rest', by rw [hfilter], hparts⟩⟩
      | false =>
        have hfilter : (c :: piece).filter isTypableChar = piece.filter isTypableChar :=
          List.filter_cons_of_neg (by rw [htyp]; exact Bool.false_ne_true)
        have hdrop := cleanAfter_cons_of_not_isTypableChar cs hc htyp
        rw [hdrop, hdrop, hstart, hcs, typableParts_cons_append, typableParts_cons_append, hfilter]
        exact ⟨rfl, by rintro _ _ ⟨⟩; exact ⟨rest', by rw [hrest', hfilter], hparts⟩⟩

end Text

/-- **Cleaning is a projection onto the typable texts.** What it makes of a text is the same for
every caret and can be typed, it changes exactly the texts that cannot be typed, and a clean line
not at all. The words that are left are the runs without blanks, less what cannot be typed. -/
theorem Line.clean_projects (t : Text) (caret other : Int) :
    let cleaned := (⟨t, caret⟩ : Line).clean
    cleaned.text = (⟨t, other⟩ : Line).clean.text ∧
      cleaned.text.isTypable ∧ (cleaned.text = t ↔ t.isTypable) ∧ cleaned.clean = cleaned ∧
      ((cleaned.text.splitOn ' ').filter fun word => !word.isEmpty) =
        ((t.splitOnP isBlank).map fun run => run.filter isTypableChar).filter
          fun word => !word.isEmpty := by
  intro cleaned
  have htext : cleaned.text = Text.clean t := clean_text ⟨t, caret⟩
  have htypable : cleaned.text.isTypable := isTypable_clean ⟨t, caret⟩
  refine ⟨htext.trans (clean_text ⟨t, other⟩).symm, htypable, ⟨fun heq => ?_, fun ht => ?_⟩, ?_, ?_⟩
  · rw [heq] at htypable
    exact htypable
  · rw [htext, Text.clean_eq_self ht]
  · obtain ⟨k, hk, hclean⟩ := exists_caret_clean ⟨t, caret⟩
    have hself := clean_eq_self htypable hk
    rwa [← hclean] at hself
  · -- the blanks of a typable text are spaces
    have hblank : ∀ c ∈ Text.clean t, isBlank c = (c == ' ') := fun c hc => by
      rw [Bool.eq_iff_iff, beq_iff_eq]
      exact isBlank_iff_of_isTypableChar
        (Text.AllTypable.of_isTypable (Text.isTypable_clean t) c hc)
    rw [htext, List.splitOn_eq_splitOnP, ← Text.pieces_eq_splitOnP hblank,
      ← Text.pieces_eq_splitOnP fun c _ => rfl]
    exact (Text.words_cleanAfter t).1

/-! ### The places of what is kept -/

namespace Text

/-- The places of the characters that are kept of a text. -/
def keptPlaces : Bool → (t : Text) → List (Fin t.length)
  | _, [] => []
  | afterBlank, c :: cs =>
    if keeps afterBlank c then 0 :: (keptPlaces (isBlank c) cs).map Fin.succ
    else (keptPlaces afterBlank cs).map Fin.succ

theorem pairwise_keptPlaces (afterBlank : Bool) (t : Text) :
    (keptPlaces afterBlank t).Pairwise (· < ·) := by
  induction t generalizing afterBlank with
  | nil => exact List.Pairwise.nil
  | cons c cs ih =>
    have hsucc : ∀ b, ((keptPlaces b cs).map Fin.succ).Pairwise (· < ·) := fun b =>
      List.pairwise_map.mpr ((ih b).imp Fin.succ_lt_succ_iff.mpr)
    rw [keptPlaces]
    split
    · refine List.pairwise_cons.mpr ⟨fun p hp => ?_, hsucc _⟩
      obtain ⟨q, -, rfl⟩ := List.mem_map.mp hp
      exact Fin.succ_pos q
    · exact hsucc _

/-- Of a beginning of a text the characters are kept that are kept of the text. -/
theorem cleanAfter_take_eq_map (afterBlank : Bool) (t : Text) (n : Nat) :
    cleanAfter afterBlank (t.take n) =
      ((keptPlaces afterBlank t).filter fun p => p.val < n).map fun p => asTyped t[p] := by
  induction t generalizing afterBlank n with
  | nil => rw [List.take_nil]; rfl
  | cons c cs ih =>
    cases n with
    | zero => simp [cleanAfter]
    | succ n =>
      have hsucc : ∀ b, (((keptPlaces b cs).map Fin.succ).filter fun p => p.val < n + 1).map
          (fun p => asTyped (c :: cs)[p]) = cleanAfter b (cs.take n) := fun b => by
        rw [ih b n, List.filter_map, List.map_map]
        congr 2
        funext p
        simp
      rw [List.take_succ_cons, cleanAfter_cons, keptPlaces]
      split
      · rw [List.filter_cons_of_pos (by simp), List.map_cons]
        exact congrArg (asTyped c :: ·) (hsucc _).symm
      · exact (hsucc _).symm

/-- How many of some places in ascending order lie before `n` tells for each whether it does. -/
theorem lt_length_filter_iff {m n : Nat} {places : List (Fin m)} (h : places.Pairwise (· < ·))
    {i : Nat} (hi : i < places.length) :
    i < (places.filter fun p => p.val < n).length ↔ places[i].val < n := by
  induction places generalizing i with
  | nil => exact absurd hi (Nat.not_lt_zero i)
  | cons p ps ih =>
    obtain ⟨hfirst, hrest⟩ := List.pairwise_cons.mp h
    by_cases hp : p.val < n
    · rw [List.filter_cons_of_pos (by simpa using hp), List.length_cons]
      cases i with
      | zero => simpa using hp
      | succ i => simpa using ih hrest (Nat.lt_of_succ_lt_succ hi)
    · -- behind a place that is not before `n` there is none that is
      have hbehind : ∀ q ∈ ps, ¬q.val < n := fun q hq hlt =>
        hp (Nat.lt_trans (hfirst q hq) hlt)
      have hnone : (ps.filter fun q => q.val < n) = [] :=
        List.filter_eq_nil_iff.mpr fun q hq => by simpa using hbehind q hq
      rw [List.filter_cons_of_neg (by simpa using hp), hnone]
      refine iff_of_false (Nat.not_lt_zero i) ?_
      cases i with
      | zero => exact hp
      | succ i => exact hbehind _ (List.getElem_mem _)

end Text

/-! ### The caret among the characters that are kept -/

namespace Line

/-- A caret outside of the text stands for the end that it lies beyond. -/
theorem clampedCaret_eq (t : Text) (caret : Int) :
    ((⟨t, caret⟩ : Line).clampedCaret : Int) = max 0 (min caret t.length) := by
  show ((min caret.toNat t.length : Nat) : Int) = _
  omega

/-- In front of the caret stands what the text in front of it is cleaned to. -/
theorem take_caret_clean (line : Line) : line.clean.text.take line.clean.caret.toNat =
    Text.clean (line.text.take line.clampedCaret) := by
  rw [clean_eq]
  dsimp only
  rw [Int.toNat_natCast]
  exact (List.prefix_iff_eq_take.mp (Text.cleanAfter_take true line.text line.clampedCaret)).symm

/-- A caret further on goes no further back. -/
theorem caret_clean_le (t : Text) {caret caret' : Int} (hle : caret ≤ caret') :
    (⟨t, caret⟩ : Line).clean.caret ≤ (⟨t, caret'⟩ : Line).clean.caret := by
  have hclamped : (⟨t, caret⟩ : Line).clampedCaret ≤ (⟨t, caret'⟩ : Line).clampedCaret := by
    have h := clampedCaret_eq t caret
    have h' := clampedCaret_eq t caret'
    omega
  -- what stands before the first caret is a beginning of what stands before the second
  have hprefix := Text.cleanAfter_take true (t.take (⟨t, caret'⟩ : Line).clampedCaret)
    (⟨t, caret⟩ : Line).clampedCaret
  rw [List.take_take, Nat.min_eq_left hclamped] at hprefix
  rw [clean_caret, clean_caret, Int.ofNat_le]
  exact hprefix.length_le

/-- The clean text is read off the places that are kept. -/
theorem clean_text_eq_map (line : Line) : line.clean.text =
    (Text.keptPlaces true line.text).map fun p => Text.asTyped line.text[p] := by
  have hkept := Text.cleanAfter_take_eq_map true line.text line.text.length
  have hall : ((Text.keptPlaces true line.text).filter fun p => p.val < line.text.length) =
      Text.keptPlaces true line.text := List.filter_eq_self.mpr fun p _ => decide_eq_true p.isLt
  rw [List.take_length, hall] at hkept
  rw [clean_text]
  exact hkept

/-- A character that is kept stands before the caret of the clean line if it stood before it. -/
theorem lt_caret_clean_iff (line : Line) {i : Nat}
    (hi : i < (Text.keptPlaces true line.text).length) :
    (i : Int) < line.clean.caret ↔
      (Text.keptPlaces true line.text)[i].val < line.clampedCaret := by
  have hlength := congrArg List.length
    (Text.cleanAfter_take_eq_map true line.text line.clampedCaret)
  rw [List.length_map] at hlength
  rw [clean_caret, Int.ofNat_lt, Text.clean, hlength]
  exact Text.lt_length_filter_iff (Text.pairwise_keptPlaces true line.text) hi

/-- **The caret follows the text.** It stays in the text, behind what the text before it is cleaned
to, and a caret further on goes no further back. So the characters that are kept, whose places do
not depend on the caret, stand on the side of it where they stood. -/
theorem clean_follows_caret (t : Text) :
    (∀ caret other : Int,
      let cleaned := (⟨t, caret⟩ : Line).clean
      let clamped := max 0 (min caret t.length)
      0 ≤ cleaned.caret ∧ cleaned.caret ≤ cleaned.text.length ∧
        cleaned.text.take cleaned.caret.toNat =
          (⟨t.take clamped.toNat, other⟩ : Line).clean.text) ∧
    (∀ caret caret' : Int, caret ≤ caret' →
      (⟨t, caret⟩ : Line).clean.caret ≤ (⟨t, caret'⟩ : Line).clean.caret) ∧
    ∃ places : List (Fin t.length), places.Pairwise (· < ·) ∧ ∀ caret : Int,
      let cleaned := (⟨t, caret⟩ : Line).clean
      let clamped := max 0 (min caret t.length)
      cleaned.text = places.map (fun p => Text.asTyped t[p]) ∧
        ∀ i : Fin places.length, (i : Int) < cleaned.caret ↔ (places[i].val : Int) < clamped := by
  refine ⟨fun caret other => ?_, fun _ _ => caret_clean_le t, Text.keptPlaces true t,
    Text.pairwise_keptPlaces true t, fun caret => ⟨clean_text_eq_map ⟨t, caret⟩, fun i => ?_⟩⟩
  · intro cleaned clamped
    obtain ⟨k, hk, hclean⟩ := exists_caret_clean ⟨t, caret⟩
    have hcaret : cleaned.caret = k := congrArg Line.caret hclean
    have hclamped : clamped.toNat = (⟨t, caret⟩ : Line).clampedCaret := by
      rw [← Int.toNat_natCast (⟨t, caret⟩ : Line).clampedCaret, clampedCaret_eq]
    refine ⟨by omega, by rw [hcaret]; exact Int.ofNat_le.mpr hk, ?_⟩
    rw [hclamped]
    exact (take_caret_clean ⟨t, caret⟩).trans (clean_text ⟨_, other⟩).symm
  · rw [← clampedCaret_eq, Int.ofNat_lt]
    exact lt_caret_clean_iff ⟨t, caret⟩ i.isLt

/-- Three blanks and a character that cannot be typed stand right before the second caret. The first
of the blanks is kept, so both carets land behind it. -/
theorem clean_follows_caret_take_red :
    (⟨"take   !red".toList, 8⟩ : Line).clean = ⟨"take red".toList, 5⟩ ∧
      (⟨"take   !red".toList, 5⟩ : Line).clean.caret ≤
        (⟨"take   !red".toList, 8⟩ : Line).clean.caret ∧
      (⟨"take   !".toList, 0⟩ : Line).clean.text = "take red".toList.take 5 := by
  have hclean : (⟨"take   !red".toList, 8⟩ : Line).clean = ⟨"take red".toList, 5⟩ := by
    decide +kernel
  have hprefix : "take   !red".toList.take
      (max 0 (min 8 ("take   !red".toList.length : Int))).toNat = "take   !".toList := by
    decide +kernel
  obtain ⟨hinside, hmonotone, -⟩ := clean_follows_caret "take   !red".toList
  have hbefore := (hinside 8 0).2.2
  rw [hclean, hprefix] at hbefore
  exact ⟨hclean, hmonotone 5 8 (by decide), hbefore.symm⟩

end Line

end CommandPrompt
