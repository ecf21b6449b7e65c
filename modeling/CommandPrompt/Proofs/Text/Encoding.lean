import CommandPrompt.Text.Encoding
import Mathlib.Data.List.TakeWhile
import Mathlib.Tactic.Common

/-!
# Text stored as UTF-8

Every text can be stored as UTF-8, and it is read back (`Encoding.readUtf8_utf8`). The encoder is
the one of the library, which writes one character after another; so the reader is followed
character by character. Its first byte tells how many bytes go with it, they stand where they can
(`Encoding.fitting`), and together they have the code of the character.
-/

namespace CommandPrompt

/-- The bytes of a text in UTF-8. -/
def Text.utf8 (t : Text) : List UInt8 := t.flatMap String.utf8EncodeChar

namespace Encoding

/-! ### The bytes of one character -/

theorem charOf_toNat (c : Char) : charOf c.toNat = c := by
  have hvalid : c.toNat.isValidChar := c.valid
  unfold charOf
  rw [if_pos hvalid, Char.ofNat_toNat]

/-- Where a second byte fits and the bytes behind it are tails, all of them fit. -/
theorem fitting_cons {first : Nat} {second : UInt8} {tails : List UInt8}
    (hsecond : fitsSecond first second.toNat = true)
    (htails : ∀ b ∈ tails, isTail b.toNat = true) :
    fitting first (second :: tails) = (second :: tails).length := by
  have hall : tails.takeWhile (fun b => isTail b.toNat) = tails :=
    List.takeWhile_eq_self_iff.mpr htails
  rw [fitting, if_pos hsecond, hall, List.length_cons, Nat.add_comm]

/-- The bytes go together, and stand for a code. -/
structure IsCode (n : Nat) (first : UInt8) (tails : List UInt8) : Prop where
  count : following? first.toNat = some tails.length
  fitting : fitting first.toNat tails = tails.length
  code : codeOf first.toNat tails = n

theorem toNat_ofNat {n : Nat} (h : n < 256) : (UInt8.ofNat n).toNat = n := UInt8.toNat_ofNat_of_lt h

theorem isTail_ofNat (n : Nat) : isTail (UInt8.ofNat (n % 64 + 128)).toNat = true := by
  rw [toNat_ofNat (by omega)]
  simp only [isTail, Bool.and_eq_true, decide_eq_true_eq]
  omega

theorem isCode_one {n : Nat} (h : n ≤ 127) : IsCode n (UInt8.ofNat n) [] where
  count := by
    rw [toNat_ofNat (by omega), following?, if_pos (by omega)]
    rfl
  fitting := rfl
  code := toNat_ofNat (by omega)

theorem isCode_two {n : Nat} (hlow : 127 < n) (hhigh : n ≤ 2047) :
    IsCode n (UInt8.ofNat (n / 64 % 32 + 192)) [UInt8.ofNat (n % 64 + 128)] where
  count := by
    rw [toNat_ofNat (by omega), following?, if_neg (by omega), if_neg (by omega),
      if_pos (by omega)]
    rfl
  fitting := by
    refine fitting_cons ?_ fun b hb => absurd hb List.not_mem_nil
    rw [toNat_ofNat (by omega), toNat_ofNat (by omega)]
    simp only [fitsSecond, Bool.and_eq_true, decide_eq_true_eq]
    split_ifs <;> omega
  code := by
    rw [toNat_ofNat (by omega)]
    show (n / 64 % 32 + 192) % 32 * 64 + (UInt8.ofNat (n % 64 + 128)).toNat % 64 = n
    rw [toNat_ofNat (by omega)]
    omega

/-- Codes of halves of pairs would break the bound on the second byte. -/
theorem isCode_three {n : Nat} (hlow : 2047 < n) (hhigh : n ≤ 65535)
    (hvalid : n < 0xD800 ∨ 0xDFFF < n) :
    IsCode n (UInt8.ofNat (n / 4096 % 16 + 224))
      [UInt8.ofNat (n / 64 % 64 + 128), UInt8.ofNat (n % 64 + 128)] where
  count := by
    rw [toNat_ofNat (by omega), following?, if_neg (by omega), if_neg (by omega),
      if_neg (by omega), if_pos (by omega)]
    rfl
  fitting := by
    refine fitting_cons ?_ fun b hb => ?_
    · rw [toNat_ofNat (by omega), toNat_ofNat (by omega)]
      simp only [fitsSecond, Bool.and_eq_true, decide_eq_true_eq]
      split_ifs <;> omega
    · rw [List.mem_singleton.mp hb]
      exact isTail_ofNat n
  code := by
    rw [toNat_ofNat (by omega)]
    show ((n / 4096 % 16 + 224) % 16 * 64 + (UInt8.ofNat (n / 64 % 64 + 128)).toNat % 64) * 64 +
      (UInt8.ofNat (n % 64 + 128)).toNat % 64 = n
    rw [toNat_ofNat (by omega), toNat_ofNat (by omega)]
    omega

theorem isCode_four {n : Nat} (hlow : 65535 < n) (hhigh : n < 0x110000) :
    IsCode n (UInt8.ofNat (n / 262144 % 8 + 240))
      [UInt8.ofNat (n / 4096 % 64 + 128), UInt8.ofNat (n / 64 % 64 + 128),
        UInt8.ofNat (n % 64 + 128)] where
  count := by
    rw [toNat_ofNat (by omega), following?, if_neg (by omega), if_neg (by omega),
      if_neg (by omega), if_neg (by omega), if_pos (by omega)]
    rfl
  fitting := by
    refine fitting_cons ?_ fun b hb => ?_
    · rw [toNat_ofNat (by omega), toNat_ofNat (by omega)]
      simp only [fitsSecond, Bool.and_eq_true, decide_eq_true_eq]
      split_ifs <;> omega
    · rcases List.mem_cons.mp hb with rfl | hb
      · exact isTail_ofNat (n / 64)
      · rw [List.mem_singleton.mp hb]
        exact isTail_ofNat n
  code := by
    rw [toNat_ofNat (by omega)]
    show (((n / 262144 % 8 + 240) % 8 * 64 + (UInt8.ofNat (n / 4096 % 64 + 128)).toNat % 64) * 64 +
      (UInt8.ofNat (n / 64 % 64 + 128)).toNat % 64) * 64 +
        (UInt8.ofNat (n % 64 + 128)).toNat % 64 = n
    rw [toNat_ofNat (by omega), toNat_ofNat (by omega), toNat_ofNat (by omega)]
    omega

/-- **The bytes of a character stand for its code.** -/
theorem exists_utf8EncodeChar_eq_cons (c : Char) :
    ∃ first tails, String.utf8EncodeChar c = first :: tails ∧ IsCode c.toNat first tails := by
  have hvalid : c.toNat < 0xD800 ∨ (0xDFFF < c.toNat ∧ c.toNat < 0x110000) := c.valid
  by_cases hone : c.toNat ≤ 127
  · exact ⟨_, _, if_pos hone, isCode_one hone⟩
  by_cases htwo : c.toNat ≤ 2047
  · exact ⟨_, _, (if_neg hone).trans (if_pos htwo), isCode_two (by omega) htwo⟩
  by_cases hthree : c.toNat ≤ 65535
  · exact ⟨_, _, ((if_neg hone).trans (if_neg htwo)).trans (if_pos hthree),
      isCode_three (by omega) hthree (by omega)⟩
  · exact ⟨_, _, ((if_neg hone).trans (if_neg htwo)).trans (if_neg hthree),
      isCode_four (by omega) (by omega)⟩

/-! ### Whole texts -/

/-- The bytes of one character are read together. -/
theorem readUtf8_append {first : UInt8} {tails : List UInt8} {c : Char}
    (h : IsCode c.toNat first tails) (halvesPass : Bool) (place : Nat) (rest : List UInt8) :
    readUtf8 halvesPass place (first :: tails ++ rest) =
      (readUtf8 halvesPass (place + 1 + tails.length) rest).map (c :: ·) := by
  rw [List.cons_append, readUtf8]
  simp only [h.count, List.take_left, List.drop_left, h.fitting, if_true, h.code, charOf_toNat]

/-- **A text is read back from UTF-8.** -/
theorem readUtf8_utf8 (t : Text) (halvesPass : Bool) (place : Nat) :
    readUtf8 halvesPass place t.utf8 = .ok t := by
  induction t generalizing place with
  | nil => rw [Text.utf8, List.flatMap_nil, readUtf8]
  | cons c cs ih =>
    obtain ⟨first, tails, hbytes, hcode⟩ := exists_utf8EncodeChar_eq_cons c
    show readUtf8 halvesPass place (String.utf8EncodeChar c ++ Text.utf8 cs) = _
    rw [hbytes, readUtf8_append hcode, ih]
    rfl

/-- Bytes that begin with an opening bracket, and no zero behind it, are read as UTF-8. -/
theorem readAny_of_bracket {a b : UInt8} (ha : a = 0x7B ∨ a = 0x5B) (hb : b ≠ 0)
    (rest : List UInt8) : readAny (a :: b :: rest) = readUtf8 true 0 (a :: b :: rest) := by
  -- with the first byte known, no mark of an encoding is left to be looked for
  rcases ha with rfl | rfl
  all_goals
    rcases rest with _ | ⟨c, _ | ⟨d, rest⟩⟩
    · exact if_neg hb
    · rfl
    · exact if_neg hb

/-- **The text of an object or a list is read back from its bytes**, if it goes on in the ASCII
range. -/
theorem readAny_utf8 {c d : Char} (hc : c = '{' ∨ c = '[') (hd : d.toNat ≠ 0)
    (hd' : d.toNat < 128) (rest : Text) :
    readAny (Text.utf8 (c :: d :: rest)) = .ok (c :: d :: rest) := by
  -- the second byte is not zero, so the bytes are not taken for a wider encoding
  have hne : UInt8.ofNat d.toNat ≠ 0 := by
    intro hzero
    have h := congrArg UInt8.toNat hzero
    rw [toNat_ofNat (by omega)] at h
    exact hd h
  obtain ⟨first, hfirst, hbyte⟩ : ∃ first : UInt8, (first = 0x7B ∨ first = 0x5B) ∧
      String.utf8EncodeChar c = [first] := by
    rcases hc with rfl | rfl
    · exact ⟨0x7B, Or.inl rfl, rfl⟩
    · exact ⟨0x5B, Or.inr rfl, rfl⟩
  have hutf8 : Text.utf8 (c :: d :: rest) = first :: UInt8.ofNat d.toNat :: Text.utf8 rest := by
    have hsecond : String.utf8EncodeChar d = [UInt8.ofNat d.toNat] :=
      if_pos (Nat.le_of_lt_succ hd')
    show String.utf8EncodeChar c ++ (String.utf8EncodeChar d ++ Text.utf8 rest) = _
    rw [hbyte, hsecond]
    rfl
  have hread := readUtf8_utf8 (c :: d :: rest) true 0
  rw [hutf8] at hread ⊢
  rw [readAny_of_bracket hfirst hne, hread]

end Encoding

end CommandPrompt
