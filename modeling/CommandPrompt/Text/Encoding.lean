import CommandPrompt.Text.Quoted

/-!
# Text from bytes

A file holds bytes. They are read as UTF-8, or as UTF-16 or UTF-32 where a byte order mark or the
place of zero bytes among the first four says so. Bytes that are no text are refused, with the place
where they are found. A code unit that is half of a pair on its own stands for the replacement
character, where lone halves are let pass at all.
-/

namespace CommandPrompt

/-- How characters are stored as bytes. -/
inductive Encoding where
  | utf8
  | utf16 (bigEndian : Bool)
  | utf32 (bigEndian : Bool)
  deriving DecidableEq, Repr

/-- The name of an encoding. -/
def Encoding.name : Encoding → String
  | .utf8 => "utf-8"
  | .utf16 bigEndian => if bigEndian then "utf-16-be" else "utf-16-le"
  | .utf32 bigEndian => if bigEndian then "utf-32-be" else "utf-32-le"

/-- Why bytes are no text. -/
inductive DecodeProblem where
  | invalidStart
  | invalidContinuation
  | unexpectedEnd
  | truncated
  | outOfRange
  deriving DecidableEq, Repr

/-- The problem in words. -/
def DecodeProblem.message : DecodeProblem → String
  | .invalidStart => "invalid start byte"
  | .invalidContinuation => "invalid continuation byte"
  | .unexpectedEnd => "unexpected end of data"
  | .truncated => "truncated data"
  | .outOfRange => "code point not in range(0x110000)"

/-- Bytes, from `start` up to but without `stop`, that are no text. -/
structure DecodeFault where
  encoding : Encoding
  first : UInt8
  start : Nat
  stop : Nat
  problem : DecodeProblem
  deriving DecidableEq, Repr

/-- The fault in words. -/
def DecodeFault.message (fault : DecodeFault) : String :=
  let place :=
    if fault.stop = fault.start + 1 then
      "byte 0x" ++ String.ofList (Text.hexDigits 2 fault.first.toNat) ++ " in position " ++
        toString fault.start
    else
      "bytes in position " ++ toString fault.start ++ "-" ++ toString (fault.stop - 1)
  "'" ++ fault.encoding.name ++ "' codec can't decode " ++ place ++ ": " ++ fault.problem.message

namespace Encoding

/-- The replacement character. -/
def replacement : Char := Char.ofNat 0xFFFD

/-- The character with a code; half a pair gives the replacement character. -/
def charOf (n : Nat) : Char := if n.isValidChar then Char.ofNat n else replacement

/-! ### UTF-8 -/

/-- The number of bytes that follow a first byte. -/
def following? (first : Nat) : Option Nat :=
  if first < 0x80 then some 0
  else if first < 0xC2 then none
  else if first < 0xE0 then some 1
  else if first < 0xF0 then some 2
  else if first < 0xF5 then some 3
  else none

/-- Whether a byte can stand second, behind a first byte. -/
def fitsSecond (first second : Nat) : Bool :=
  let low := if first = 0xE0 then 0xA0 else if first = 0xF0 then 0x90 else 0x80
  let high := if first = 0xED then 0x9F else if first = 0xF4 then 0x8F else 0xBF
  low ≤ second && second ≤ high

/-- Whether a byte can stand third or fourth. -/
def isTail (byte : Nat) : Bool := 0x80 ≤ byte && byte ≤ 0xBF

/-- How many of the bytes behind a first byte can stand where they are. -/
def fitting (first : Nat) : List UInt8 → Nat
  | [] => 0
  | second :: rest =>
    if fitsSecond first second.toNat then 1 + (rest.takeWhile fun b => isTail b.toNat).length else 0

/-- The code point that a first byte and the bytes behind it stand for. -/
def codeOf (first : Nat) (tails : List UInt8) : Nat :=
  let lead := match tails.length with
    | 0 => first
    | 1 => first % 32
    | 2 => first % 16
    | _ => first % 8
  tails.foldl (fun n b => n * 64 + b.toNat % 64) lead

/-- Whether bytes behind a first byte make half a pair. -/
def isHalf (first : Nat) : List UInt8 → Bool
  | [second, third] =>
    first == 0xED && 0xA0 ≤ second.toNat && second.toNat ≤ 0xBF && isTail third.toNat
  | _ => false

/-- Reads UTF-8; the bytes stand at the given place. Halves of pairs pass if `halvesPass` is set. -/
def readUtf8 (halvesPass : Bool) (place : Nat) (bytes : List UInt8) : Except DecodeFault Text :=
  match bytes with
  | [] => .ok []
  | first :: rest =>
    let fault := fun size problem => Except.error ⟨.utf8, first, place, place + size, problem⟩
    match following? first.toNat with
    | none => fault 1 .invalidStart
    | some count =>
      let tails := rest.take count
      let good := fitting first.toNat tails
      if good = count then
        (readUtf8 halvesPass (place + 1 + count) (rest.drop count)).map
          (charOf (codeOf first.toNat tails) :: ·)
      else if halvesPass && isHalf first.toNat tails then
        (readUtf8 halvesPass (place + 1 + count) (rest.drop count)).map (replacement :: ·)
      else if good = tails.length then fault (1 + good) .unexpectedEnd
      else fault (1 + good) .invalidContinuation
termination_by bytes.length
decreasing_by all_goals (simp only [List.length_drop, List.length_cons]; omega)

/-! ### UTF-16 and UTF-32 -/

/-- The number that bytes stand for in an order. -/
def unit (bigEndian : Bool) (bytes : List UInt8) : Nat :=
  (if bigEndian then bytes else bytes.reverse).foldl (fun n b => n * 256 + b.toNat) 0

/-- The characters of a row of 16-bit units. -/
def ofUnits : List Nat → Text
  | [] => []
  | [n] => [charOf n]
  | high :: low :: rest =>
    if 0xD800 ≤ high ∧ high < 0xDC00 ∧ 0xDC00 ≤ low ∧ low < 0xE000 then
      charOf (0x10000 + (high - 0xD800) * 0x400 + (low - 0xDC00)) :: ofUnits rest
    else charOf high :: ofUnits (low :: rest)

/-- The 16-bit units of bytes that stand at the given place. -/
def units16 (bigEndian : Bool) (place : Nat) : List UInt8 → Except DecodeFault (List Nat)
  | [] => .ok []
  | [byte] => .error ⟨.utf16 bigEndian, byte, place, place + 1, .truncated⟩
  | a :: b :: rest => (units16 bigEndian (place + 2) rest).map (unit bigEndian [a, b] :: ·)

/-- Reads UTF-16; the bytes stand at the given place. -/
def readUtf16 (bigEndian : Bool) (place : Nat) (bytes : List UInt8) : Except DecodeFault Text :=
  (units16 bigEndian place bytes).map ofUnits

/-- Reads UTF-32; the bytes stand at the given place. -/
def readUtf32 (bigEndian : Bool) (place : Nat) : List UInt8 → Except DecodeFault Text
  | [] => .ok []
  | a :: b :: c :: d :: rest =>
    let n := unit bigEndian [a, b, c, d]
    if 0x110000 ≤ n then .error ⟨.utf32 bigEndian, a, place, place + 4, .outOfRange⟩
    else (readUtf32 bigEndian (place + 4) rest).map (charOf n :: ·)
  | a :: rest => .error ⟨.utf32 bigEndian, a, place, place + 1 + rest.length, .truncated⟩

/-! ### Which encoding -/

/-- Reads bytes in the encoding that their beginning tells. A byte order mark is left out. -/
def readAny (bytes : List UInt8) : Except DecodeFault Text :=
  match bytes with
  | 0x00 :: 0x00 :: 0xFE :: 0xFF :: rest => readUtf32 true 4 rest
  | 0xFF :: 0xFE :: 0x00 :: 0x00 :: rest => readUtf32 false 4 rest
  | 0xFE :: 0xFF :: rest => readUtf16 true 2 rest
  | 0xFF :: 0xFE :: rest => readUtf16 false 2 rest
  | 0xEF :: 0xBB :: 0xBF :: rest => readUtf8 true 0 rest
  | a :: b :: c :: d :: _ =>
    if a = 0 then if b = 0 then readUtf32 true 0 bytes else readUtf16 true 0 bytes
    else if b = 0 then
      if c = 0 ∧ d = 0 then readUtf32 false 0 bytes else readUtf16 false 0 bytes
    else readUtf8 true 0 bytes
  | [a, b] =>
    if a = 0 then readUtf16 true 0 bytes
    else if b = 0 then readUtf16 false 0 bytes
    else readUtf8 true 0 bytes
  | _ => readUtf8 true 0 bytes

/-- Reads bytes as UTF-8 in which no half of a pair stands alone. -/
def readStrict (bytes : List UInt8) : Except DecodeFault Text := readUtf8 false 0 bytes

end Encoding

end CommandPrompt
