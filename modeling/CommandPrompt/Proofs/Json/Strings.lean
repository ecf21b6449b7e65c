import CommandPrompt.Json.Printer
import CommandPrompt.Json.Reader
import CommandPrompt.Proofs.Text.Words

/-!
# Strings read back

What is written as a string is read as the text that it was (`yields_quotedString`), whatever stands
behind it. A written string is a row of characters as they stand in strings, so reading it back goes
character by character: one that was escaped is put together again, and one that was not ends no
string and is no control. A code of four digits is read only if something follows it, which the
quote at the end always does.

The rest that a step of the reader hands on carries a proof of being shorter. `Json.Yields` is a
step without it: what was read, and what is left.
-/

namespace CommandPrompt.Json

/-- The step reads something and leaves a rest. -/
def Yields {α : Type} {s : Text} (step : Step α s) (a : α) (rest : Text) : Prop :=
  ∃ h, step = .ok (a, ⟨rest, h⟩)

theorem Yields.map {α β : Type} {s s' : Text} {step : Step α s} {a : α} {rest : Text}
    (h : Yields step a rest) (f : α → β) (hlt : ∀ r : Shorter s, r.1.length < s'.length) :
    Yields (step.map fun (a, short) => ((f a, ⟨short.1, hlt short⟩) : β × Shorter s')) (f a)
      rest := by
  obtain ⟨h, rfl⟩ := h
  exact ⟨_, rfl⟩

theorem Yields.ne_nil {α : Type} {s : Text} {step : Step α s} {a : α} {rest : Text}
    (h : Yields step a rest) : s ≠ [] := by
  obtain ⟨hlt, -⟩ := h
  exact List.ne_nil_of_length_pos (Nat.zero_lt_of_lt hlt)

/-! ### Characters in strings -/

/-- Whether a character stands for itself in a string. -/
def isVerbatim (c : Char) : Bool := c != '"' && c != '\\' && 32 ≤ c.toNat

/-- A character stands in a string for itself, or as a letter behind a backslash, or by its code. -/
theorem escapeChar_cases (c : Char) :
    (isVerbatim c = true ∧ escapeChar c = [c]) ∨
      (∃ d, d ≠ 'u' ∧ simpleEscape? d = some c ∧ escapeChar c = ['\\', d]) ∨
      (c.toNat < 32 ∧ escapeChar c = '\\' :: 'u' :: Text.hexDigits 4 c.toNat) := by
  unfold escapeChar
  -- characters with a letter of their own come first, in the order in which they are asked for
  by_cases hquote : c = '"'
  · exact Or.inr (Or.inl ⟨'"', by decide, by rw [hquote]; rfl, if_pos hquote⟩)
  rw [if_neg hquote]
  by_cases hbackslash : c = '\\'
  · exact Or.inr (Or.inl ⟨'\\', by decide, by rw [hbackslash]; rfl, if_pos hbackslash⟩)
  rw [if_neg hbackslash]
  by_cases hline : c = '\n'
  · exact Or.inr (Or.inl ⟨'n', by decide, by rw [hline]; rfl, if_pos hline⟩)
  rw [if_neg hline]
  by_cases hreturn : c = '\r'
  · exact Or.inr (Or.inl ⟨'r', by decide, by rw [hreturn]; rfl, if_pos hreturn⟩)
  rw [if_neg hreturn]
  by_cases htab : c = '\t'
  · exact Or.inr (Or.inl ⟨'t', by decide, by rw [htab]; rfl, if_pos htab⟩)
  rw [if_neg htab]
  by_cases hbell : c.toNat = 8
  · have hc : c = Char.ofNat 8 := by rw [← hbell, Char.ofNat_toNat]
    exact Or.inr (Or.inl ⟨'b', by decide, by rw [hc]; rfl, if_pos hbell⟩)
  rw [if_neg hbell]
  by_cases hfeed : c.toNat = 12
  · have hc : c = Char.ofNat 12 := by rw [← hfeed, Char.ofNat_toNat]
    exact Or.inr (Or.inl ⟨'f', by decide, by rw [hc]; rfl, if_pos hfeed⟩)
  rw [if_neg hfeed]
  by_cases hcontrol : c.toNat < 32
  · exact Or.inr (Or.inr ⟨hcontrol, if_pos hcontrol⟩)
  · refine Or.inl ⟨?_, if_neg hcontrol⟩
    simp [isVerbatim, hquote, hbackslash, Nat.not_lt.mp hcontrol]

/-- Whether the four digits of a code are read as that code. -/
def readsCode (n : Nat) : Bool :=
  match Text.hexDigits 4 n with
  | [a, b, c, d] => hexQuad? a b c d == some n
  | _ => false

theorem readsCode_of_lt : ∀ n < 32, readsCode n = true := by decide

/-- The four digits of a small code are read as that code. -/
theorem exists_hexQuad? {n : Nat} (h : n < 32) :
    ∃ a b c d, Text.hexDigits 4 n = [a, b, c, d] ∧ hexQuad? a b c d = some n := by
  have hreads := readsCode_of_lt n h
  unfold readsCode at hreads
  split at hreads
  · next a b c d hdigits => exact ⟨a, b, c, d, hdigits, beq_iff_eq.mp hreads⟩
  · exact absurd hreads Bool.false_ne_true

theorem charOfCode_toNat (c : Char) : charOfCode c.toNat = c := by
  have hvalid : c.toNat.isValidChar := c.valid
  unfold charOfCode
  rw [if_pos hvalid, Char.ofNat_toNat]

/-- A code below those of pairs is read as its character, if something follows. -/
theorem yields_codeEscape {a b c d : Char} {n : Nat} (hquad : hexQuad? a b c d = some n)
    (hn : n < 0xD800) {rest : Text} (hrest : rest ≠ []) :
    Yields (codeEscape (a :: b :: c :: d :: rest)) (charOfCode n) rest := by
  obtain ⟨e, es, rfl⟩ := List.exists_cons_of_ne_nil hrest
  unfold codeEscape
  simp only [hquad]
  rw [if_neg (by omega)]
  exact ⟨_, rfl⟩

/-- **A character stands for itself, or is read back from what is written behind a backslash.** -/
theorem escapeChar_eq_or (c : Char) :
    (isVerbatim c = true ∧ escapeChar c = [c]) ∨
      ∃ escaped, escapeChar c = '\\' :: escaped ∧
        ∀ rest ≠ [], Yields (escape (escaped ++ rest)) c rest := by
  rcases escapeChar_cases c with hc | ⟨d, hd, hsimple, hc⟩ | ⟨hcontrol, hc⟩
  · exact Or.inl hc
  · refine Or.inr ⟨[d], hc, fun rest _ => ?_⟩
    rw [List.singleton_append, escape]
    · simp only [hsimple]
      exact ⟨_, rfl⟩
    · exact hd
  · refine Or.inr ⟨'u' :: Text.hexDigits 4 c.toNat, hc, fun rest hrest => ?_⟩
    obtain ⟨a, b, c', d, hdigits, hquad⟩ := exists_hexQuad? hcontrol
    have hcode := yields_codeEscape hquad (by omega) hrest
    rw [charOfCode_toNat] at hcode
    obtain ⟨hlt, hcode⟩ := hcode
    rw [hdigits, List.cons_append, escape]
    simp only [List.cons_append, List.nil_append]
    rw [hcode]
    exact ⟨_, rfl⟩

/-! ### Whole strings -/

/-- **One character of a string** is read in front of what follows it. -/
theorem yields_stringBody_cons {c : Char} {s body rest : Text}
    (h : Yields (stringBody s) body rest) :
    Yields (stringBody (escapeChar c ++ s)) (c :: body) rest := by
  have hne := h.ne_nil
  obtain ⟨hlt, hs⟩ := h
  rcases escapeChar_eq_or c with ⟨hverbatim, hc⟩ | ⟨escaped, hc, hescape⟩
  · simp only [isVerbatim, Bool.and_eq_true, bne_iff_ne, decide_eq_true_eq] at hverbatim
    obtain ⟨⟨hquote, hbackslash⟩, hcontrol⟩ := hverbatim
    rw [hc, List.singleton_append, stringBody, if_neg hquote, if_neg hbackslash,
      if_neg (Nat.not_lt.mpr hcontrol), hs]
    exact ⟨_, rfl⟩
  · obtain ⟨hshort, hescape⟩ := hescape s hne
    rw [hc, List.cons_append, stringBody, if_neg (by decide), if_pos rfl, hescape]
    simp only [hs]
    exact ⟨_, rfl⟩

/-- **A written string is read back.** -/
theorem yields_quotedString (t rest : Text) :
    Yields (quotedString (t.flatMap escapeChar ++ '"' :: rest)) t rest := by
  have hbody : Yields (stringBody (t.flatMap escapeChar ++ '"' :: rest)) t rest := by
    induction t with
    | nil =>
      rw [List.flatMap_nil, List.nil_append, stringBody, if_pos rfl]
      exact ⟨_, rfl⟩
    | cons c cs ih =>
      rw [List.flatMap_cons, List.append_assoc]
      exact yields_stringBody_cons ih
  obtain ⟨h, hbody⟩ := hbody
  unfold quotedString
  rw [hbody]
  exact ⟨h, rfl⟩

/-- A value that begins with a quote is a string. -/
theorem yields_value_string {depth : Nat} {s t rest : Text} (h : Yields (quotedString s) t rest) :
    Yields (value depth ('"' :: s)) (string t) rest := by
  obtain ⟨hlt, h⟩ := h
  rw [value, if_pos rfl, h]
  exact ⟨_, rfl⟩

end CommandPrompt.Json
