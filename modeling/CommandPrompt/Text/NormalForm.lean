import CommandPrompt.Text.NormalForm.Latin
import CommandPrompt.Text.NormalForm.Scripts
import CommandPrompt.Text.NormalForm.Diacritics
import CommandPrompt.Text.NormalForm.Symbols
import CommandPrompt.Text.NormalForm.Radicals
import CommandPrompt.Text.NormalForm.Enclosed
import CommandPrompt.Text.NormalForm.Ideographs
import CommandPrompt.Text.NormalForm.Presentation
import CommandPrompt.Text.NormalForm.Widths
import CommandPrompt.Text.NormalForm.Alphanumerics
import CommandPrompt.Text.NormalForm.Supplement
import CommandPrompt.Text.NormalForm.CombiningClass
import CommandPrompt.Text.NormalForm.Composite

/-!
# Normal form

The compatibility normal form of Unicode (form KC), which brings look-alikes such as full-width
letters, ligatures and circled digits to their plain characters. Three steps lead there: every
character is taken apart, marks behind a letter are put in order, and letters are put together
again with the marks that follow them. ASCII text is in normal form already.
-/

namespace CommandPrompt.Text

namespace NormalForm

/-- The decomposition table. -/
def rows : List Row :=
  Latin.rows ++ Scripts.rows ++ Diacritics.rows ++ Symbols.rows ++ Radicals.rows ++
    Enclosed.rows ++ Ideographs.rows ++ Presentation.rows ++ Widths.rows ++
    Alphanumerics.rows ++ Supplement.rows

/-! ### Syllables of Hangul, which are composed by rule -/

/-- The first composed syllable. -/
def firstSyllable : Nat := 0xAC00

/-- The first leading consonant. -/
def firstLead : Nat := 0x1100

/-- The first vowel. -/
def firstVowel : Nat := 0x1161

/-- The code point before the first trailing consonant. -/
def beforeTrail : Nat := 0x11A7

/-- The parts of a composed syllable: a leading consonant, a vowel, and perhaps a trailing one. -/
def syllableParts? (n : Nat) : Option (List Nat) :=
  if firstSyllable ≤ n ∧ n < firstSyllable + 19 * 21 * 28 then
    let index := n - firstSyllable
    let pair := [firstLead + index / 588, firstVowel + index % 588 / 28]
    some (if index % 28 = 0 then pair else pair ++ [beforeTrail + index % 28])
  else none

/-- The syllable that two neighbours make, a consonant with a vowel or a syllable with a trailing
consonant. -/
def syllable? (a b : Nat) : Option Nat :=
  if firstLead ≤ a ∧ a < firstLead + 19 ∧ firstVowel ≤ b ∧ b < firstVowel + 21 then
    some (firstSyllable + ((a - firstLead) * 21 + (b - firstVowel)) * 28)
  else if firstSyllable ≤ a ∧ a < firstSyllable + 19 * 21 * 28 ∧ (a - firstSyllable) % 28 = 0 ∧
      beforeTrail < b ∧ b < beforeTrail + 28 then
    some (a + (b - beforeTrail))
  else none

/-! ### The three steps -/

/-- A character taken apart as far as it goes. -/
def decomposeChar (c : Char) : Text :=
  if c.toNat < 128 then [c]
  else match syllableParts? c.toNat with
    | some parts => parts.map Char.ofNat
    | none => match rows.findSome? fun row => Row.decompose? row c.toNat with
      | some parts => parts.map Char.ofNat
      | none => [c]

/-- A mark put in its place among marks in order: behind those of its class or a lower one. -/
def insertMark (c : Char) : Text → Text
  | [] => [c]
  | d :: ds => if combiningClass c < combiningClass d then c :: d :: ds else d :: insertMark c ds

/-- The text with every stretch of marks ordered by class, marks of one class in their old order.
The marks met since the last letter are handed on, in order. -/
def orderMarks (marks : Text) : Text → Text
  | [] => marks
  | c :: cs =>
    if combiningClass c = 0 then marks ++ c :: orderMarks [] cs
    else orderMarks (insertMark c marks) cs

/-- The character that two neighbours are composed to. -/
def composite? (a b : Char) : Option Char :=
  match syllable? a.toNat b.toNat with
  | some n => some (Char.ofNat n)
  | none =>
    (composites.find? fun (first, second, _) => first == a.toNat && second == b.toNat).map
      fun (_, _, n) => Char.ofNat n

/-- Puts a letter together with the marks behind it. The marks that had to stay apart are handed
on in order; a mark is kept apart by one before it of its own class or a higher one. -/
def composeFrom (letter : Char) (apart : Text) : Text → Text
  | [] => letter :: apart
  | c :: cs =>
    let blocked := match apart.getLast? with
      | none => false
      | some mark => combiningClass c ≤ combiningClass mark
    match if blocked then none else composite? letter c with
    | some composed => composeFrom composed apart cs
    | none =>
      if combiningClass c = 0 then letter :: apart ++ composeFrom c [] cs
      else composeFrom letter (apart ++ [c]) cs

/-- Puts every letter of a text together with the marks behind it. -/
def compose : Text → Text
  | [] => []
  | c :: cs => composeFrom c [] cs

end NormalForm

/-- The text in the compatibility normal form. -/
def normalForm (t : Text) : Text :=
  if t.all fun c => c.toNat < 128 then t
  else NormalForm.compose (NormalForm.orderMarks [] (t.flatMap NormalForm.decomposeChar))

end CommandPrompt.Text
