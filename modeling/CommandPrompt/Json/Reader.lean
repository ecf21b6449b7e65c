import CommandPrompt.Json.Basic
import CommandPrompt.Number.Integer

/-!
# Reading JSON

A reader for JSON texts. Every step takes a text and hands on what is left of it, which is shorter,
so reading ends. A text that is no JSON is refused with the reason and the place; of several faults
the first one in the text is told. `NaN`, `Infinity` and `-Infinity` are read as numbers.
-/

namespace CommandPrompt.Json

/-- What can be wrong at a place of a text. -/
inductive Problem where
  | expectingValue
  | expectingName
  | expectingColon
  | expectingComma
  | extraData
  | unterminatedString
  | controlCharacter
  | invalidEscape
  | invalidUnicodeEscape
  /-- An integer has too many digits. -/
  | longInteger (digits : Nat)
  /-- Arrays and objects are nested too deeply; the one that goes too far is of the given kind. -/
  | tooDeep (kind : String)
  deriving DecidableEq, Repr

/-- The problem in words. -/
def Problem.message : Problem → String
  | expectingValue => "Expecting value"
  | expectingName => "Expecting property name enclosed in double quotes"
  | expectingColon => "Expecting ':' delimiter"
  | expectingComma => "Expecting ',' delimiter"
  | extraData => "Extra data"
  | unterminatedString => "Unterminated string starting at"
  | controlCharacter => "Invalid control character at"
  | invalidEscape => "Invalid \\escape"
  | invalidUnicodeEscape => "Invalid \\uXXXX escape"
  | longInteger digits =>
    "Exceeds the limit (" ++ toString Integer.maxDigits ++
      " digits) for integer string conversion: value has " ++ toString digits ++
      " digits; use sys.set_int_max_str_digits() to increase the limit"
  | tooDeep kind =>
    "maximum recursion depth exceeded while decoding a JSON " ++ kind ++ " from a unicode string"

/-- A problem, and how much of the text is left where it was met. -/
structure Trouble where
  problem : Problem
  left : Nat
  deriving DecidableEq, Repr

/-- The texts that are shorter than a given one. -/
abbrev Shorter (s : Text) := { rest : Text // rest.length < s.length }

/-- What a step reads from a text, with the rest of it. -/
abbrev Step (α : Type) (s : Text) := Except Trouble (α × Shorter s)

/-- A rest of a rest is shorter than the whole. -/
theorem Shorter.length_lt {s t : Text} (rest : Shorter t) (h : t.length ≤ s.length) :
    rest.1.length < s.length :=
  Nat.lt_of_lt_of_le rest.2 h

/-- Whether a character may stand between the parts of a JSON text. -/
def isSpace (c : Char) : Bool := c == ' ' || c == '\t' || c == '\n' || c == '\r'

/-- The text without the white space at its start. -/
def skipSpace (s : Text) : { rest : Text // rest.length ≤ s.length } :=
  ⟨s.dropWhile isSpace, (List.dropWhile_suffix isSpace).length_le⟩

/-! ### Strings -/

/-- The value of a hexadecimal digit. -/
def hexValue? (c : Char) : Option Nat :=
  if '0' ≤ c ∧ c ≤ '9' then some (c.toNat - 48)
  else if 'a' ≤ c ∧ c ≤ 'f' then some (c.toNat - 87)
  else if 'A' ≤ c ∧ c ≤ 'F' then some (c.toNat - 55)
  else none

/-- The number that four hexadecimal digits stand for. -/
def hexQuad? (a b c d : Char) : Option Nat := do
  let a ← hexValue? a
  let b ← hexValue? b
  let c ← hexValue? c
  let d ← hexValue? d
  return ((a * 16 + b) * 16 + c) * 16 + d

/-- The character with a code, or the replacement character where there is none. -/
def charOfCode (n : Nat) : Char := if n.isValidChar then Char.ofNat n else Char.ofNat 0xFFFD

/-- The character that a backslash and another character stand for. -/
def simpleEscape? : Char → Option Char
  | '"' => some '"'
  | '\\' => some '\\'
  | '/' => some '/'
  | 'b' => some (Char.ofNat 8)
  | 'f' => some (Char.ofNat 12)
  | 'n' => some '\n'
  | 'r' => some '\r'
  | 't' => some '\t'
  | _ => none

/-- The second half of a pair of code units, where a text goes on with one: the half, if it is one
that can stand second. Something has to follow it. -/
def secondHalf? (s : Text) : Except Trouble (Option Nat) :=
  match s with
  | '\\' :: 'u' :: a :: b :: c :: d :: _ :: rest =>
    match hexQuad? a b c d with
    | none => .error ⟨.invalidUnicodeEscape, rest.length + 6⟩
    | some low => .ok (if 0xDC00 ≤ low ∧ low < 0xE000 then some low else none)
  | _ => .ok none

/-- The character whose code is written behind a backslash and a `u`; two codes may make one.
Something has to follow a code. -/
def codeEscape (s : Text) : Step Char s :=
  match s with
  | a :: b :: c :: d :: e :: rest =>
    match hexQuad? a b c d with
    | none => .error ⟨.invalidUnicodeEscape, rest.length + 6⟩
    | some code =>
      let short : Shorter (a :: b :: c :: d :: e :: rest) :=
        ⟨e :: rest, by simp only [List.length_cons]; omega⟩
      if 0xD800 ≤ code ∧ code < 0xDC00 then
        match secondHalf? (e :: rest) with
        | .error trouble => .error trouble
        | .ok none => .ok (charOfCode code, short)
        | .ok (some low) =>
          .ok (charOfCode (0x10000 + (code - 0xD800) * 0x400 + (low - 0xDC00)),
            ⟨rest.drop 5, by simp only [List.length_drop, List.length_cons]; omega⟩)
      else .ok (charOfCode code, short)
  | s => .error ⟨.invalidUnicodeEscape, s.length + 1⟩

/-- The character that is written behind a backslash. -/
def escape : (s : Text) → Step Char s
  | [] => .error ⟨.unterminatedString, 0⟩
  | 'u' :: rest =>
    (codeEscape rest).map fun (c, short) => (c, ⟨short.1, short.length_lt (by simp)⟩)
  | c :: rest =>
    match simpleEscape? c with
    | some d => .ok (d, ⟨rest, by simp⟩)
    | none => .error ⟨.invalidEscape, rest.length + 2⟩

/-- The characters up to the quote that ends a string. -/
def stringBody (s : Text) : Step Text s :=
  match s with
  | [] => .error ⟨.unterminatedString, 0⟩
  | c :: rest =>
    if c = '"' then .ok ([], ⟨rest, Nat.lt_succ_self _⟩)
    else if c = '\\' then
      match escape rest with
      | .error trouble => .error trouble
      | .ok (d, ⟨after, h⟩) =>
        match stringBody after with
        | .error trouble => .error trouble
        | .ok (body, short) =>
          .ok (d :: body, ⟨short.1, short.length_lt (Nat.le_succ_of_le (Nat.le_of_lt h))⟩)
    else if c.toNat < 32 then .error ⟨.controlCharacter, rest.length + 1⟩
    else match stringBody rest with
      | .error trouble => .error trouble
      | .ok (body, short) => .ok (c :: body, ⟨short.1, short.length_lt (Nat.le_succ _)⟩)
termination_by s.length
decreasing_by
  · exact Nat.lt_succ_of_lt h
  · exact Nat.lt_succ_self _

/-- The string whose first quote stands right before a text. That it does not end is told of its
first quote. -/
def quotedString (s : Text) : Step Text s :=
  (stringBody s).mapError fun trouble =>
    if trouble.problem = .unterminatedString then { trouble with left := s.length + 1 } else trouble

/-! ### Numbers and names -/

/-- The values that have a name. -/
def named? : (s : Text) → Option (Json × Shorter s)
  | 'n' :: 'u' :: 'l' :: 'l' :: rest => some (null, ⟨rest, by simp; omega⟩)
  | 't' :: 'r' :: 'u' :: 'e' :: rest => some (bool true, ⟨rest, by simp; omega⟩)
  | 'f' :: 'a' :: 'l' :: 's' :: 'e' :: rest => some (bool false, ⟨rest, by simp; omega⟩)
  | 'N' :: 'a' :: 'N' :: rest => some (nan, ⟨rest, by simp; omega⟩)
  | 'I' :: 'n' :: 'f' :: 'i' :: 'n' :: 'i' :: 't' :: 'y' :: rest =>
    some (infinite false, ⟨rest, by simp; omega⟩)
  | '-' :: 'I' :: 'n' :: 'f' :: 'i' :: 'n' :: 'i' :: 't' :: 'y' :: rest =>
    some (infinite true, ⟨rest, by simp; omega⟩)
  | _ => none

/-- The number that a text of decimal digits stands for. -/
def naturalOf (digits : Text) : Nat := digits.foldl (fun n c => 10 * n + (c.toNat - 48)) 0

/-- The digits at the start of a text. -/
def digitRun (s : Text) : Text := s.takeWhile Char.isDigit

/-- The digits of a fraction: a point and at least one digit. -/
def fraction : Text → Text
  | '.' :: rest => digitRun rest
  | _ => []

/-- The sign and digits of an exponent that starts a text, if there is one. -/
def exponent? : Text → Option (Bool × Text)
  | e :: rest =>
    if e = 'e' ∨ e = 'E' then
      let (negative, digits) := match rest with
        | '-' :: more => (true, digitRun more)
        | '+' :: more => (false, digitRun more)
        | more => (false, digitRun more)
      if digits.isEmpty then none else some (negative, digits)
    else none
  | [] => none

/-- The number of characters that an exponent takes. -/
def exponentSize (s : Text) : Nat :=
  match exponent? s with
  | none => 0
  | some (_, digits) =>
    match s with
    | _ :: '-' :: _ => digits.length + 2
    | _ :: '+' :: _ => digits.length + 2
    | _ => digits.length + 1

/-- The digits before the point: a zero alone, or a run that does not start with zero. -/
def wholePart : Text → Text
  | '0' :: _ => ['0']
  | s => digitRun s

/-- A number without its sign, and the number of characters that it takes. -/
def unsigned? (negative : Bool) (s : Text) : Option (Except Problem Json × Nat) :=
  let whole := wholePart s
  if whole.isEmpty then none
  else
    let afterWhole := s.drop whole.length
    let decimals := fraction afterWhole
    let pointSize := if decimals.isEmpty then 0 else 1
    let afterPoint := afterWhole.drop (pointSize + decimals.length)
    let size := whole.length + pointSize + decimals.length
    match exponent? afterPoint with
    | none =>
      if decimals.isEmpty then
        if Integer.maxDigits < whole.length then some (.error (.longInteger whole.length), size)
        else
          let n : Int := naturalOf whole
          some (.ok (int (if negative then -n else n)), size)
      else some (.ok (decimal ⟨negative, naturalOf (whole ++ decimals), -decimals.length⟩), size)
    | some (below, digits) =>
      let e : Int := naturalOf digits
      some (.ok (decimal ⟨negative, naturalOf (whole ++ decimals),
        (if below then -e else e) - decimals.length⟩), size + exponentSize afterPoint)

/-- The number that starts a text. -/
def number (s : Text) : Step Json s :=
  let signed := s.head? == some '-'
  match unsigned? signed (if signed then s.drop 1 else s) with
  | none => .error ⟨.expectingValue, s.length⟩
  | some (.error problem, _) => .error ⟨problem, s.length⟩
  | some (.ok value, size) =>
    let taken := if signed then size + 1 else size
    match s with
    | [] => .error ⟨.expectingValue, 0⟩
    | _ :: rest =>
      .ok (value, ⟨rest.drop (taken - 1), by simp only [List.length_drop, List.length_cons]; omega⟩)

/-! ### Values -/

/-- How many levels of arrays and objects a reader goes into. It depends on the reader, and on how
much of its stack is in use already; no reader is so shallow that it stops at six levels. -/
structure Nesting where
  levels : Nat
  six_le : 6 ≤ levels
  deriving DecidableEq, Repr

/-- A usual number of levels. -/
def Nesting.usual : Nesting := ⟨990, by decide⟩

mutual

/-- The value that starts a text, where arrays and objects may be nested to the given depth. -/
def value (depth : Nat) (s : Text) : Step Json s :=
  match s with
  | [] => .error ⟨.expectingValue, 0⟩
  | c :: rest =>
    if c = '"' then
      (quotedString rest).map fun (t, short) =>
        (string t, ⟨short.1, short.length_lt (by simp)⟩)
    else if c = '[' then
      if depth = 0 then .error ⟨.tooDeep "array", rest.length + 1⟩
      else match skipSpace rest with
      | ⟨[], _⟩ => .error ⟨.expectingValue, 0⟩
      | ⟨d :: after, h⟩ =>
        if d = ']' then .ok (array [], ⟨after, by simp at h ⊢; omega⟩)
        else (items (depth - 1) (d :: after)).map fun (values, short) =>
          (array values, ⟨short.1, short.length_lt (by simp at h ⊢; omega)⟩)
    else if c = '{' then
      if depth = 0 then .error ⟨.tooDeep "object", rest.length + 1⟩
      else match skipSpace rest with
      | ⟨[], _⟩ => .error ⟨.expectingName, 0⟩
      | ⟨d :: after, h⟩ =>
        if d = '}' then .ok (object [], ⟨after, by simp at h ⊢; omega⟩)
        else (fields (depth - 1) [] (d :: after)).map fun (entries, short) =>
          (object entries, ⟨short.1, short.length_lt (by simp at h ⊢; omega)⟩)
    else match named? (c :: rest) with
      | some result => .ok result
      | none => number (c :: rest)
termination_by 3 * s.length
decreasing_by all_goals (simp only [List.length_cons] at *; omega)

/-- The items of an array up to its end; at least one is left. -/
def items (depth : Nat) (s : Text) : Step (List Json) s :=
  match value depth s with
  | .error trouble => .error trouble
  | .ok (first, ⟨rest, hr⟩) =>
    match skipSpace rest with
    | ⟨[], _⟩ => .error ⟨.expectingComma, 0⟩
    | ⟨c :: after, h⟩ =>
      if c = ']' then .ok ([first], ⟨after, by simp at h; omega⟩)
      else if c = ',' then
        match skipSpace after with
        | ⟨next, hn⟩ =>
          (items depth next).map fun (others, short) =>
            (first :: others, ⟨short.1, short.length_lt (by simp at h; omega)⟩)
      else .error ⟨.expectingComma, after.length + 1⟩
termination_by 3 * s.length + 1
decreasing_by
  · omega
  · simp only [List.length_cons] at h
    omega

/-- The name and the value of a field. -/
def field (depth : Nat) (s : Text) : Step (Text × Json) s :=
  match s with
  | [] => .error ⟨.expectingName, 0⟩
  | c :: rest =>
    if c = '"' then
      match quotedString rest with
      | .error trouble => .error trouble
      | .ok (name, ⟨afterName, hn⟩) =>
        match skipSpace afterName with
        | ⟨[], _⟩ => .error ⟨.expectingColon, 0⟩
        | ⟨d :: afterColon, hc⟩ =>
          if d = ':' then
            match skipSpace afterColon with
            | ⟨next, hv⟩ =>
              (value depth next).map fun (found, short) =>
                ((name, found), ⟨short.1, short.length_lt (by simp at hc ⊢; omega)⟩)
          else .error ⟨.expectingColon, afterColon.length + 1⟩
    else .error ⟨.expectingName, rest.length + 1⟩
termination_by 3 * s.length + 1
decreasing_by
  simp only [List.length_cons] at hc ⊢
  omega

/-- The fields of an object up to its end; at least one is left. Fields read before are handed on.
-/
def fields (depth : Nat) (before : List (Text × Json)) (s : Text) :
    Step (List (Text × Json)) s :=
  match field depth s with
  | .error trouble => .error trouble
  | .ok ((name, found), ⟨rest, hr⟩) =>
    match skipSpace rest with
    | ⟨[], _⟩ => .error ⟨.expectingComma, 0⟩
    | ⟨c :: after, h⟩ =>
      if c = '}' then .ok (put before name found, ⟨after, by simp at h; omega⟩)
      else if c = ',' then
        match skipSpace after with
        | ⟨next, hn⟩ =>
          (fields depth (put before name found) next).map fun (entries, short) =>
            (entries, ⟨short.1, short.length_lt (by simp at h; omega)⟩)
      else .error ⟨.expectingComma, after.length + 1⟩
termination_by 3 * s.length + 2
decreasing_by
  · omega
  · simp only [List.length_cons] at h
    omega

end

/-! ### Whole texts -/

/-- Why a text is no JSON. -/
structure ReadFault where
  problem : Problem
  line : Nat
  column : Nat
  offset : Nat
  deriving DecidableEq, Repr

namespace ReadFault

/-- The problem at the place where so many characters of a text are left. -/
def ofTrouble (whole : Text) (trouble : Trouble) : ReadFault :=
  let before := whole.take (whole.length - trouble.left)
  { problem := trouble.problem
    line := before.count '\n' + 1
    column := (before.reverse.takeWhile (· != '\n')).length + 1
    offset := before.length }

/-- Whether the text itself is malformed, rather than too long a number or too deep a nesting in it.
-/
def isMalformed (fault : ReadFault) : Bool :=
  match fault.problem with
  | .longInteger _ | .tooDeep _ => false
  | _ => true

/-- The fault in words. -/
def message (fault : ReadFault) : String :=
  if fault.isMalformed then
    fault.problem.message ++ ": line " ++ toString fault.line ++ " column " ++
      toString fault.column ++ " (char " ++ toString fault.offset ++ ")"
  else fault.problem.message

end ReadFault

/-- Reads a text that holds one value. -/
def read (nesting : Nesting) (whole : Text) : Except ReadFault Json :=
  match value nesting.levels (skipSpace whole).1 with
  | .error trouble => .error (.ofTrouble whole trouble)
  | .ok (result, rest) =>
    match (skipSpace rest.1).1 with
    | [] => .ok result
    | extra => .error (.ofTrouble whole ⟨.extraData, extra.length⟩)

end CommandPrompt.Json
