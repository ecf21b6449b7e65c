import CommandPrompt.Proofs.Json.Strings
import Mathlib.Data.List.TakeWhile

/-!
# Numbers read back

A number is written as a numeral: digits, perhaps a point with more digits, perhaps an exponent, and
a sign in front (`Json.Numeral`). The reader finds these parts again, if what follows cannot be
taken for more of the number (`Json.unsigned?_text`).

A whole number is read as itself. A decimal number is written with as few digits as it has, so it
may be read with other digits and another exponent than it was written from; what it is read as is
told by its numeral (`Decimal.reread`).
-/

namespace CommandPrompt

namespace Json

/-! ### Runs of digits -/

/-- The text does not go on with anything that could belong to a number. -/
def EndsNumber (rest : Text) : Prop :=
  ∀ c ∈ rest.head?, c.isDigit = false ∧ c ≠ '.' ∧ c ≠ 'e' ∧ c ≠ 'E'

/-- Every character is a decimal digit. -/
def AllDigits (ds : Text) : Prop := ∀ c ∈ ds, c.isDigit = true

theorem digitRun_append {ds rest : Text} (hds : AllDigits ds)
    (hrest : ∀ c ∈ rest.head?, c.isDigit = false) : digitRun (ds ++ rest) = ds := by
  unfold digitRun
  rw [List.takeWhile_append_of_pos hds]
  cases rest with
  | nil => exact List.append_nil ds
  | cons c cs =>
    rw [List.takeWhile_cons_of_neg (by rw [hrest c rfl]; exact Bool.false_ne_true),
      List.append_nil]

theorem naturalOf_toDigits (n : Nat) : naturalOf (Nat.toDigits 10 n) = n :=
  Nat.ofDigitChars_ten_toDigits

theorem allDigits_toDigits (n : Nat) : AllDigits (Nat.toDigits 10 n) := fun _ hc =>
  Nat.isDigit_of_mem_toDigits (by decide) (by decide) hc

/-! ### Numerals -/

/-- A number without its sign, as it is written. -/
structure Numeral where
  whole : Text
  fraction : Text := []
  exponent : Option Int := none

namespace Numeral

/-- The point and the digits behind it, if there are any. -/
def pointText (numeral : Numeral) : Text :=
  if numeral.fraction.isEmpty then [] else '.' :: numeral.fraction

/-- The exponent, if there is one. -/
def scaleText (numeral : Numeral) : Text :=
  numeral.exponent.elim [] fun e => 'e' :: Decimal.exponentText e

/-- The numeral as text. -/
def text (numeral : Numeral) : Text :=
  numeral.whole ++ (numeral.pointText ++ numeral.scaleText)

/-- A numeral that a reader takes in one piece: digits, of which the first is no zero unless it
stands alone. -/
structure IsProper (numeral : Numeral) : Prop where
  whole_ne_nil : numeral.whole ≠ []
  whole_digits : AllDigits numeral.whole
  no_leading_zero : numeral.whole = ['0'] ∨ numeral.whole.head? ≠ some '0'
  fraction_digits : AllDigits numeral.fraction

/-- The number with a numeral. It is a whole one if it has neither a point nor an exponent. -/
def value (numeral : Numeral) (negative : Bool) : Except Problem Json :=
  if numeral.fraction.isEmpty ∧ numeral.exponent = none then
    if Integer.maxDigits < numeral.whole.length then .error (.longInteger numeral.whole.length)
    else .ok (int (if negative then -naturalOf numeral.whole else naturalOf numeral.whole))
  else .ok (decimal ⟨negative, naturalOf (numeral.whole ++ numeral.fraction),
    numeral.exponent.getD 0 - numeral.fraction.length⟩)

end Numeral

/-! ### The parts of a numeral, found again -/

section Parts

variable {numeral : Numeral} {rest : Text}

/-- Behind the digits of a fraction there is neither another digit nor a point. -/
theorem head?_scaleText_append (numeral : Numeral) (hrest : EndsNumber rest) :
    ∀ c ∈ (numeral.scaleText ++ rest).head?, c.isDigit = false ∧ c ≠ '.' := by
  unfold Numeral.scaleText
  cases numeral.exponent with
  | none => exact fun c hc => ⟨(hrest c hc).1, (hrest c hc).2.1⟩
  | some e =>
    rintro c ⟨⟩
    decide

/-- Behind the digits before the point there is no other digit. -/
theorem head?_pointText_append (hrest : EndsNumber rest) :
    ∀ c ∈ (numeral.pointText ++ (numeral.scaleText ++ rest)).head?, c.isDigit = false := by
  unfold Numeral.pointText
  split
  · exact fun c hc => (head?_scaleText_append numeral hrest c hc).1
  · rintro c ⟨⟩
    decide

theorem wholePart_append {ds : Text} (hne : ds ≠ []) (hds : AllDigits ds)
    (hzero : ds = ['0'] ∨ ds.head? ≠ some '0') (hrest : ∀ c ∈ rest.head?, c.isDigit = false) :
    wholePart (ds ++ rest) = ds := by
  rcases hzero with rfl | hzero
  · rfl
  · obtain ⟨c, cs, rfl⟩ := List.exists_cons_of_ne_nil hne
    rw [List.cons_append, wholePart, ← List.cons_append, digitRun_append hds hrest]
    rintro more ⟨⟩
    exact hzero rfl

theorem fraction_pointText_append (h : numeral.IsProper) (hrest : EndsNumber rest) :
    fraction (numeral.pointText ++ (numeral.scaleText ++ rest)) = numeral.fraction := by
  have hhead := head?_scaleText_append numeral hrest
  unfold Numeral.pointText
  split
  · next hempty =>
    rw [List.isEmpty_iff.mp hempty, List.nil_append, fraction]
    intro more hmore
    rw [hmore] at hhead
    exact (hhead '.' rfl).2 rfl
  · rw [List.cons_append, fraction]
    exact digitRun_append h.fraction_digits fun c hc => (hhead c hc).1

theorem length_pointText :
    numeral.pointText.length =
      (if numeral.fraction.isEmpty then 0 else 1) + numeral.fraction.length := by
  unfold Numeral.pointText
  split
  · next hempty => rw [List.isEmpty_iff.mp hempty]; rfl
  · rw [List.length_cons, Nat.add_comm]

/-- What is read of the exponent of a number. -/
theorem exponent?_exponentText (e : Int) (hrest : EndsNumber rest) :
    ∃ digits, exponent? ('e' :: Decimal.exponentText e ++ rest) = some (decide (e < 0), digits) ∧
      (if e < 0 then -(naturalOf digits : Int) else naturalOf digits) = e ∧
      exponentSize ('e' :: Decimal.exponentText e ++ rest) =
        ('e' :: Decimal.exponentText e).length := by
  -- at least two digits are written, the first of which may be a zero
  obtain ⟨digits, htext, hdigits, hne, hvalue⟩ : ∃ digits,
      Decimal.exponentText e = (if e < 0 then '-' else '+') :: digits ∧ AllDigits digits ∧
        digits ≠ [] ∧ naturalOf digits = e.natAbs := by
    refine ⟨_, rfl, ?_⟩
    have hall := allDigits_toDigits e.natAbs
    have hvalue := naturalOf_toDigits e.natAbs
    split
    · refine ⟨List.forall_mem_cons.mpr ⟨rfl, hall⟩, List.cons_ne_nil _ _, hvalue⟩
    · exact ⟨hall, Nat.toDigits_ne_nil, hvalue⟩
  have hrun : digitRun (digits ++ rest) = digits :=
    digitRun_append hdigits fun c hc => (hrest c hc).1
  have hempty : digits.isEmpty = false := List.isEmpty_eq_false_iff.mpr hne
  have hread : exponent? ('e' :: Decimal.exponentText e ++ rest) =
      some (decide (e < 0), digits) := by
    rw [htext, List.cons_append, List.cons_append]
    unfold exponent?
    by_cases he : e < 0 <;> simp [he, hrun, hempty]
  refine ⟨digits, hread, ?_, ?_⟩
  · rw [hvalue]
    split <;> omega
  · unfold exponentSize
    rw [hread, htext]
    by_cases he : e < 0 <;> simp [he]

theorem exponent?_of_endsNumber (hrest : EndsNumber rest) : exponent? rest = none := by
  cases rest with
  | nil => rfl
  | cons c cs =>
    obtain ⟨-, -, hlower, hupper⟩ := hrest c rfl
    unfold exponent?
    exact if_neg (not_or.mpr ⟨hlower, hupper⟩)

end Parts

/-- **A numeral is read as the number with it**, up to its end. -/
theorem unsigned?_text {numeral : Numeral} (h : numeral.IsProper) (negative : Bool) {rest : Text}
    (hrest : EndsNumber rest) :
    unsigned? negative (numeral.text ++ rest) =
      some (numeral.value negative, numeral.text.length) := by
  have hwhole : wholePart (numeral.text ++ rest) = numeral.whole := by
    unfold Numeral.text
    rw [List.append_assoc, List.append_assoc]
    exact wholePart_append h.whole_ne_nil h.whole_digits h.no_leading_zero
      (head?_pointText_append hrest)
  have hafterWhole : (numeral.text ++ rest).drop numeral.whole.length =
      numeral.pointText ++ (numeral.scaleText ++ rest) := by
    unfold Numeral.text
    rw [List.append_assoc, List.drop_left, List.append_assoc]
  have hafterPoint : (numeral.pointText ++ (numeral.scaleText ++ rest)).drop
      ((if numeral.fraction.isEmpty then 0 else 1) + numeral.fraction.length) =
        numeral.scaleText ++ rest := by
    rw [← length_pointText, List.drop_left]
  have hlength : numeral.text.length = numeral.whole.length +
      (if numeral.fraction.isEmpty then 0 else 1) + numeral.fraction.length +
        numeral.scaleText.length := by
    unfold Numeral.text
    rw [List.length_append, List.length_append, length_pointText]
    omega
  -- the reader cuts the text where the numeral was put together; only the exponent is left to read
  unfold unsigned?
  simp only [hwhole, hafterWhole, fraction_pointText_append h hrest, hafterPoint,
    List.isEmpty_eq_false_iff.mpr h.whole_ne_nil, Bool.false_eq_true, if_false]
  rw [hlength]
  unfold Numeral.value Numeral.scaleText
  cases numeral.exponent with
  | none =>
    simp only [Option.elim_none, List.nil_append, exponent?_of_endsNumber hrest, List.length_nil]
    split
    · split <;> simp_all
    · simp_all
  | some e =>
    obtain ⟨digits, hread, hvalue, hsize⟩ := exponent?_exponentText e hrest
    simp only [Option.elim_some, hread, hsize]
    simp [hvalue]

/-! ### Signs -/

/-- The sign of a number as it is written. -/
def signText (negative : Bool) : Text := if negative then ['-'] else []

/-- A numeral begins with a digit. -/
theorem exists_text_eq_cons {numeral : Numeral} (h : numeral.IsProper) :
    ∃ c more, numeral.text = c :: more ∧ c.isDigit = true := by
  obtain ⟨c, cs, hwhole⟩ := List.exists_cons_of_ne_nil h.whole_ne_nil
  refine ⟨c, cs ++ (numeral.pointText ++ numeral.scaleText), ?_, ?_⟩
  · unfold Numeral.text
    rw [hwhole, List.cons_append]
  · exact h.whole_digits c (hwhole ▸ List.mem_cons_self)

/-- **A number is read as it was written**, sign and numeral. -/
theorem yields_number {numeral : Numeral} (h : numeral.IsProper) {negative : Bool} {result : Json}
    (hvalue : numeral.value negative = .ok result) {rest : Text} (hrest : EndsNumber rest) :
    Yields (number (signText negative ++ numeral.text ++ rest)) result rest := by
  have hread := unsigned?_text h negative hrest
  rw [hvalue] at hread
  obtain ⟨c, more, htext, hdigit⟩ := exists_text_eq_cons h
  -- a numeral begins with a digit, so a minus can only be the sign before it
  have hminus : c ≠ '-' := by
    rintro rfl
    exact absurd hdigit (by decide)
  cases negative with
  | true =>
    have hsigned : (('-' :: (numeral.text ++ rest)).head? == some '-') = true := rfl
    show Yields (number ('-' :: (numeral.text ++ rest))) result rest
    unfold number
    simp only [hsigned, if_true, List.drop_succ_cons, List.drop_zero, hread, Nat.add_sub_cancel,
      List.drop_left]
    exact ⟨_, rfl⟩
  | false =>
    have hsigned : ((c :: (more ++ rest)).head? == some '-') = false := by simpa using hminus
    rw [htext, List.cons_append] at hread
    show Yields (number (numeral.text ++ rest)) result rest
    rw [htext, List.cons_append]
    unfold number
    simp only [hsigned, if_false, Bool.false_eq_true, hread, List.length_cons,
      Nat.add_sub_cancel, List.drop_left]
    exact ⟨_, rfl⟩

/-! ### Whole numbers -/

/-- The first digit of a number is no zero, unless the number is zero. -/
theorem head?_toDigits_ne {n : Nat} (hn : n ≠ 0) : (Nat.toDigits 10 n).head? ≠ some '0' := by
  induction n using Nat.strong_induction_on with
  | _ n ih =>
    by_cases hlt : n < 10
    · have hdigit : ∀ k < 10, k ≠ 0 → k.digitChar ≠ '0' := by decide
      rw [Nat.toDigits_of_lt_base hlt, List.head?_cons]
      exact fun h => hdigit n hlt hn (Option.some.inj h)
    · have hge : 10 ≤ n := Nat.not_lt.mp hlt
      rw [Nat.toDigits_of_base_le (by decide) hge,
        List.head?_append_of_ne_nil _ Nat.toDigits_ne_nil]
      exact ih (n / 10) (by omega) (by omega)

/-- The numeral of a whole number. -/
def Numeral.ofNat (n : Nat) : Numeral := { whole := Nat.toDigits 10 n }

theorem isProper_ofNat (n : Nat) : (Numeral.ofNat n).IsProper where
  whole_ne_nil := Nat.toDigits_ne_nil
  whole_digits := allDigits_toDigits n
  no_leading_zero := by
    by_cases hn : n = 0
    · subst hn
      exact Or.inl rfl
    · exact Or.inr (head?_toDigits_ne hn)
  fraction_digits := fun c hc => absurd hc List.not_mem_nil

theorem toList_toString_int (n : Int) :
    (toString n).toList = signText (decide (n < 0)) ++ (Numeral.ofNat n.natAbs).text := by
  have htext : ∀ k, (Numeral.ofNat k).text = Nat.toDigits 10 k := by
    intro k
    simp [Numeral.text, Numeral.ofNat, Numeral.pointText, Numeral.scaleText]
  rw [htext]
  cases n with
  | ofNat k =>
    have hsign : decide (Int.ofNat k < 0) = false := decide_eq_false (by simp)
    show (Nat.repr k).toList = _
    rw [hsign, Nat.repr_eq_ofList_toDigits, String.toList_ofList]
    rfl
  | negSucc k =>
    have hsign : decide (Int.negSucc k < 0) = true := decide_eq_true (Int.negSucc_lt_zero k)
    show ("-" ++ Nat.repr (k + 1)).toList = _
    rw [hsign, String.toList_append, Nat.repr_eq_ofList_toDigits, String.toList_ofList,
      String.toList_ofList]
    rfl

/-- **A whole number is read back**, unless it has more digits than are read. -/
theorem yields_number_int {n : Int} (hn : (Nat.toDigits 10 n.natAbs).length ≤ Integer.maxDigits)
    {rest : Text} (hrest : EndsNumber rest) :
    Yields (number ((toString n).toList ++ rest)) (int n) rest := by
  rw [toList_toString_int]
  refine yields_number (isProper_ofNat n.natAbs) ?_ hrest
  have hshort : ¬Integer.maxDigits < (Numeral.ofNat n.natAbs).whole.length := Nat.not_lt.mpr hn
  unfold Numeral.value
  rw [if_pos ⟨rfl, rfl⟩, if_neg hshort]
  show Except.ok (int (if decide (n < 0) then -(naturalOf (Nat.toDigits 10 n.natAbs) : Int)
    else naturalOf (Nat.toDigits 10 n.natAbs))) = Except.ok (int n)
  rw [naturalOf_toDigits]
  congr 2
  by_cases hneg : n < 0
  · rw [decide_eq_true hneg, if_pos rfl]
    omega
  · rw [decide_eq_false hneg, if_neg Bool.false_ne_true]
    omega

/-! ### Decimal numbers -/

/-- The numeral of a positive number, from its digits and the power of ten of the first of them. -/
def Numeral.ofDigits (digits : Text) (lead : Int) : Numeral :=
  if lead < -4 ∨ 16 ≤ lead then
    { whole := digits.take 1, fraction := digits.drop 1, exponent := some lead }
  else if lead < 0 then
    { whole := ['0'], fraction := List.replicate ((-lead).toNat - 1) '0' ++ digits }
  else
    let count := lead.toNat + 1
    { whole := digits.take count ++ List.replicate (count - digits.length) '0'
      fraction := if (digits.drop count).isEmpty then ['0'] else digits.drop count }

theorem text_ofDigits {digits : Text} (hne : digits ≠ []) (lead : Int) :
    (Numeral.ofDigits digits lead).text = Decimal.place digits lead := by
  unfold Numeral.ofDigits Decimal.place Numeral.text Numeral.pointText Numeral.scaleText
  split
  · simp
  · split
    · simp [hne]
    · dsimp only
      split <;> simp_all

theorem allDigits_replicate (n : Nat) : AllDigits (List.replicate n '0') := by
  intro c hc
  rw [List.eq_of_mem_replicate hc]
  rfl

theorem AllDigits.append {ds es : Text} (hds : AllDigits ds) (hes : AllDigits es) :
    AllDigits (ds ++ es) := fun c hc => (List.mem_append.mp hc).elim (hds c) (hes c)

theorem AllDigits.of_sublist {ds es : Text} (hes : AllDigits es) (h : ds.Sublist es) :
    AllDigits ds := fun c hc => hes c (h.subset hc)

theorem isProper_ofDigits {digits : Text} (hne : digits ≠ []) (hdigits : AllDigits digits)
    (hzero : digits.head? ≠ some '0') (lead : Int) :
    (Numeral.ofDigits digits lead).IsProper := by
  obtain ⟨c, cs, rfl⟩ := List.exists_cons_of_ne_nil hne
  unfold Numeral.ofDigits
  split
  · -- in scientific notation one digit stands before the point
    exact {
      whole_ne_nil := List.cons_ne_nil c _
      whole_digits := hdigits.of_sublist (List.take_sublist 1 _)
      no_leading_zero := Or.inr hzero
      fraction_digits := hdigits.of_sublist (List.drop_sublist 1 _) }
  · split
    · exact {
        whole_ne_nil := List.cons_ne_nil '0' []
        whole_digits := allDigits_replicate 1
        no_leading_zero := Or.inl rfl
        fraction_digits := (allDigits_replicate _).append hdigits }
    · exact {
        whole_ne_nil := List.cons_ne_nil c _
        whole_digits := (hdigits.of_sublist (List.take_sublist _ _)).append (allDigits_replicate _)
        no_leading_zero := Or.inr hzero
        fraction_digits := by
          dsimp only
          split
          · exact allDigits_replicate 1
          · exact hdigits.of_sublist (List.drop_sublist _ _) }

end Json

namespace Decimal

open Json

/-- The digits that a number is written with, and the exponent of the last of them. -/
def shortest (d : Decimal) : Text × Int := trim (Nat.toDigits 10 d.digits) d.exponent

/-- The numeral of a decimal number. -/
def numeral (d : Decimal) : Numeral :=
  if d.digits = 0 then { whole := ['0'], fraction := ['0'] }
  else .ofDigits d.shortest.1 (d.shortest.1.length + d.shortest.2 - 1)

/-- What a decimal number is read as once it is written. -/
def reread (d : Decimal) : Decimal where
  negative := d.negative
  digits := naturalOf (d.numeral.whole ++ d.numeral.fraction)
  exponent := d.numeral.exponent.getD 0 - d.numeral.fraction.length

/-- **Trimming takes zeros from the end of the digits**, and counts them in the exponent. -/
theorem exists_trim_eq (digits : Text) (e : Int) :
    ∃ zeros : Nat, digits = (trim digits e).1 ++ List.replicate zeros '0' ∧
      (trim digits e).2 = e + zeros := by
  let run := digits.reverse.takeWhile (· == '0')
  let kept := (digits.reverse.dropWhile (· == '0')).reverse
  have hrun : run.reverse = List.replicate run.length '0' := by
    rw [List.eq_replicate_iff, List.length_reverse]
    refine ⟨rfl, fun c hc => ?_⟩
    have hzero := List.mem_takeWhile_imp (p := (· == '0')) (List.mem_reverse.mp hc)
    exact beq_iff_eq.mp hzero
  have hsplit : digits = kept ++ run.reverse := by
    rw [← List.reverse_append, List.takeWhile_append_dropWhile, List.reverse_reverse]
  have htake : ∀ ds : Text, ds = kept ++ run.reverse → ds.take (ds.length - run.length) = kept := by
    rintro _ rfl
    have hlength : run.reverse.length = run.length := List.length_reverse
    rw [List.length_append, hlength, Nat.add_sub_cancel, List.take_left]
  refine ⟨run.length, ?_, rfl⟩
  calc digits = kept ++ List.replicate run.length '0' := by rw [← hrun, ← hsplit]
    _ = digits.take (digits.length - run.length) ++ List.replicate run.length '0' := by
        rw [htake digits hsplit]

/-- The digits of a number that is not zero begin with one that is not zero either. -/
theorem shortest_digits {d : Decimal} (hd : d.digits ≠ 0) :
    d.shortest.1 ≠ [] ∧ AllDigits d.shortest.1 ∧ d.shortest.1.head? ≠ some '0' := by
  obtain ⟨zeros, hsplit, -⟩ := exists_trim_eq (Nat.toDigits 10 d.digits) d.exponent
  change Nat.toDigits 10 d.digits = d.shortest.1 ++ List.replicate zeros '0' at hsplit
  have hhead := head?_toDigits_ne hd
  have hne : d.shortest.1 ≠ [] := by
    intro hnil
    -- only zeros would be left, but there is a digit in front of them
    rw [hnil, List.nil_append] at hsplit
    obtain ⟨c, cs, hcons⟩ := List.exists_cons_of_ne_nil (Nat.toDigits_ne_nil (n := d.digits))
    rw [hsplit] at hcons hhead
    have hc := List.eq_of_mem_replicate (hcons ▸ List.mem_cons_self : c ∈ _)
    rw [hcons, hc] at hhead
    exact hhead rfl
  refine ⟨hne, (allDigits_toDigits d.digits).of_sublist ?_, ?_⟩
  · rw [hsplit]
    exact List.sublist_append_left _ _
  · rw [hsplit, List.head?_append_of_ne_nil _ hne] at hhead
    exact hhead

theorem render_eq (d : Decimal) : d.render = signText d.negative ++ d.numeral.text := by
  unfold render numeral
  by_cases hd : d.digits = 0
  · rw [if_pos hd, if_pos hd]
    rfl
  · rw [if_neg hd, if_neg hd, text_ofDigits (shortest_digits hd).1]
    rfl

theorem isProper_numeral (d : Decimal) : d.numeral.IsProper := by
  unfold numeral
  split
  · exact {
      whole_ne_nil := List.cons_ne_nil '0' []
      whole_digits := allDigits_replicate 1
      no_leading_zero := Or.inl rfl
      fraction_digits := allDigits_replicate 1 }
  · next hd =>
    obtain ⟨hne, hdigits, hzero⟩ := shortest_digits hd
    exact isProper_ofDigits hne hdigits hzero _

/-- A decimal number is never written like a whole one. -/
theorem value_numeral (d : Decimal) : d.numeral.value d.negative = .ok (decimal d.reread) := by
  have hpoint : ¬(d.numeral.fraction.isEmpty ∧ d.numeral.exponent = none) := by
    unfold numeral
    by_cases hd : d.digits = 0
    · rw [if_pos hd]
      simp
    · have hne := (shortest_digits hd).1
      rw [if_neg hd]
      unfold Numeral.ofDigits
      split
      · simp
      · split
        · simp [hne]
        · dsimp only
          split <;> simp_all
  unfold Numeral.value
  rw [if_neg hpoint]
  rfl

/-- **A decimal number is read back**, with as few digits as it was written with. -/
theorem yields_number_render (d : Decimal) {rest : Text} (hrest : EndsNumber rest) :
    Yields (number (d.render ++ rest)) (decimal d.reread) rest := by
  rw [render_eq]
  exact yields_number (isProper_numeral d) (value_numeral d) hrest

end Decimal

end CommandPrompt
