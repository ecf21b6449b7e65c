import CommandPrompt.Proofs.Json.Numbers

/-!
# JSON read back

What is written for a value is read as that value again, in either layout (`Json.read_write`). The
value has to fit the reader (`Json.Fits`): it is not nested too deeply, its whole numbers are not
too long, and no object has a key twice. Decimal numbers may come back with other digits for the
same number, which `Json.reread` puts in their place.

The reader takes white space out between the parts of a value, so what matters of a layout is only
that it puts nothing but white space there, and a comma between members. With this the statement is
an induction on how the value fits the reader: each member is read up to the comma or the bracket
behind it, none of which belongs to a number.
-/

namespace CommandPrompt

namespace Json

mutual

/-- What a value is read as once it is written. -/
def reread : Json → Json
  | decimal d => decimal d.reread
  | array items => array (rereadItems items)
  | object fields => object (rereadFields fields)
  | value => value

/-- What items are read as once they are written. -/
def rereadItems : List Json → List Json
  | [] => []
  | item :: rest => reread item :: rereadItems rest

/-- What fields are read as once they are written. -/
def rereadFields : List (Text × Json) → List (Text × Json)
  | [] => []
  | (key, value) :: rest => (key, reread value) :: rereadFields rest

end

theorem rereadItems_eq_map (items : List Json) : rereadItems items = items.map reread := by
  induction items with
  | nil => rfl
  | cons item rest ih => exact congrArg (List.cons item.reread) ih

theorem rereadFields_eq_map (fields : List (Text × Json)) :
    rereadFields fields = fields.map fun field => (field.1, field.2.reread) := by
  induction fields with
  | nil => rfl
  | cons field rest ih => exact congrArg (List.cons (field.1, field.2.reread)) ih

theorem reread_array (items : List Json) : (array items).reread = array (items.map reread) :=
  congrArg array (rereadItems_eq_map items)

theorem reread_object (fields : List (Text × Json)) :
    (object fields).reread = object (fields.map fun field => (field.1, field.2.reread)) :=
  congrArg object (rereadFields_eq_map fields)

/-- The value can be read where arrays and objects may be nested to the given depth. -/
inductive Fits : Nat → Json → Prop where
  | null {depth : Nat} : Fits depth null
  | bool {depth : Nat} (b : Bool) : Fits depth (bool b)
  | int {depth : Nat} {n : Int} (h : (Nat.toDigits 10 n.natAbs).length ≤ Integer.maxDigits) :
      Fits depth (int n)
  | decimal {depth : Nat} (d : Decimal) : Fits depth (decimal d)
  | infinite {depth : Nat} (negative : Bool) : Fits depth (infinite negative)
  | nan {depth : Nat} : Fits depth nan
  | string {depth : Nat} (t : Text) : Fits depth (string t)
  | array {depth : Nat} {items : List Json} (h : ∀ item ∈ items, Fits depth item) :
      Fits (depth + 1) (array items)
  | object {depth : Nat} {fields : List (Text × Json)} (hkeys : (fields.map Prod.fst).Nodup)
      (h : ∀ field ∈ fields, Fits depth field.2) : Fits (depth + 1) (object fields)

/-! ### Steps of the reader -/

/-- The text is white space. -/
def AllSpace (s : Text) : Prop := ∀ c ∈ s, isSpace c = true

theorem skipSpace_append {space s : Text} (hspace : AllSpace space)
    (hs : ∀ c ∈ s.head?, isSpace c = false) : (skipSpace (space ++ s)).1 = s := by
  show (space ++ s).dropWhile isSpace = s
  rw [List.dropWhile_append_of_pos hspace]
  cases s with
  | nil => rfl
  | cons c cs => exact List.dropWhile_cons_of_neg (by rw [hs c rfl]; exact Bool.false_ne_true)

theorem skipSpace_cons {c : Char} (hc : isSpace c = false) (s : Text) :
    (skipSpace (c :: s)).1 = c :: s :=
  List.dropWhile_cons_of_neg (by rw [hc]; exact Bool.false_ne_true)

section Steps

variable {depth : Nat} {s rest : Text}

theorem yields_value_array_nil (h : (skipSpace s).1 = ']' :: rest) :
    Yields (value (depth + 1) ('[' :: s)) (array []) rest := by
  rw [value, if_neg (by decide), if_pos rfl, if_neg (Nat.succ_ne_zero depth)]
  generalize skipSpace s = skipped at h
  obtain ⟨next, hnext⟩ := skipped
  subst h
  exact ⟨_, rfl⟩

theorem yields_value_array {next : Text} {vs : List Json} (h : (skipSpace s).1 = next)
    (hnext : next.head? ≠ some ']') (hitems : Yields (items depth next) vs rest) :
    Yields (value (depth + 1) ('[' :: s)) (array vs) rest := by
  have hne := hitems.ne_nil
  obtain ⟨hlt, hitems⟩ := hitems
  obtain ⟨c, cs, rfl⟩ := List.exists_cons_of_ne_nil hne
  have hc : c ≠ ']' := fun hc => hnext (by rw [hc]; rfl)
  rw [value, if_neg (by decide), if_pos rfl, if_neg (Nat.succ_ne_zero depth)]
  generalize skipSpace s = skipped at h
  obtain ⟨skipped, hskipped⟩ := skipped
  dsimp only at h
  subst h
  simp only [if_neg hc, Nat.add_sub_cancel, hitems]
  exact ⟨_, rfl⟩

theorem yields_items_last {v : Json} {after : Text} (hvalue : Yields (value depth s) v after)
    (hafter : (skipSpace after).1 = ']' :: rest) : Yields (items depth s) [v] rest := by
  obtain ⟨hlt, hvalue⟩ := hvalue
  rw [items, hvalue]
  dsimp only
  generalize skipSpace after = skipped at hafter
  obtain ⟨skipped, hskipped⟩ := skipped
  dsimp only at hafter
  subst hafter
  exact ⟨_, rfl⟩

theorem yields_items_cons {v : Json} {vs : List Json} {after behind : Text}
    (hvalue : Yields (value depth s) v after) (hafter : (skipSpace after).1 = ',' :: behind)
    (hitems : Yields (items depth (skipSpace behind).1) vs rest) :
    Yields (items depth s) (v :: vs) rest := by
  obtain ⟨hlt, hvalue⟩ := hvalue
  obtain ⟨hlt', hitems⟩ := hitems
  rw [items, hvalue]
  dsimp only
  generalize skipSpace after = skipped at hafter
  obtain ⟨skipped, hskipped⟩ := skipped
  dsimp only at hafter
  subst hafter
  simp only [if_neg (show ',' ≠ ']' by decide), if_true]
  generalize skipSpace behind = next at hlt' hitems
  obtain ⟨next, hnext⟩ := next
  simp only [hitems]
  exact ⟨_, rfl⟩

theorem yields_field {name afterName afterColon : Text} {v : Json}
    (hname : Yields (quotedString s) name afterName)
    (hcolon : (skipSpace afterName).1 = ':' :: afterColon)
    (hvalue : Yields (value depth (skipSpace afterColon).1) v rest) :
    Yields (field depth ('"' :: s)) (name, v) rest := by
  obtain ⟨hlt, hname⟩ := hname
  obtain ⟨hlt', hvalue⟩ := hvalue
  rw [field, if_pos rfl, hname]
  dsimp only
  generalize skipSpace afterName = skipped at hcolon
  obtain ⟨skipped, hskipped⟩ := skipped
  dsimp only at hcolon
  subst hcolon
  simp only [if_true]
  generalize skipSpace afterColon = next at hlt' hvalue
  obtain ⟨next, hnext⟩ := next
  simp only [hvalue]
  exact ⟨_, rfl⟩

theorem yields_fields_last {before : List (Text × Json)} {name after : Text} {v : Json}
    (hfield : Yields (field depth s) (name, v) after)
    (hafter : (skipSpace after).1 = '}' :: rest) :
    Yields (fields depth before s) (put before name v) rest := by
  obtain ⟨hlt, hfield⟩ := hfield
  rw [fields, hfield]
  dsimp only
  generalize skipSpace after = skipped at hafter
  obtain ⟨skipped, hskipped⟩ := skipped
  dsimp only at hafter
  subst hafter
  exact ⟨_, rfl⟩

theorem yields_fields_cons {before entries : List (Text × Json)} {name after behind : Text}
    {v : Json} (hfield : Yields (field depth s) (name, v) after)
    (hafter : (skipSpace after).1 = ',' :: behind)
    (hfields : Yields (fields depth (put before name v) (skipSpace behind).1) entries rest) :
    Yields (fields depth before s) entries rest := by
  obtain ⟨hlt, hfield⟩ := hfield
  obtain ⟨hlt', hfields⟩ := hfields
  rw [fields, hfield]
  dsimp only
  generalize skipSpace after = skipped at hafter
  obtain ⟨skipped, hskipped⟩ := skipped
  dsimp only at hafter
  subst hafter
  simp only [if_neg (show ',' ≠ '}' by decide), if_true]
  generalize skipSpace behind = next at hlt' hfields
  obtain ⟨next, hnext⟩ := next
  simp only [hfields]
  exact ⟨_, rfl⟩

theorem yields_value_object_nil (h : (skipSpace s).1 = '}' :: rest) :
    Yields (value (depth + 1) ('{' :: s)) (object []) rest := by
  rw [value, if_neg (by decide), if_neg (by decide), if_pos rfl, if_neg (Nat.succ_ne_zero depth)]
  generalize skipSpace s = skipped at h
  obtain ⟨next, hnext⟩ := skipped
  subst h
  exact ⟨_, rfl⟩

theorem yields_value_object {next : Text} {entries : List (Text × Json)}
    (h : (skipSpace s).1 = next) (hnext : next.head? ≠ some '}')
    (hfields : Yields (fields depth [] next) entries rest) :
    Yields (value (depth + 1) ('{' :: s)) (object entries) rest := by
  have hne := hfields.ne_nil
  obtain ⟨hlt, hfields⟩ := hfields
  obtain ⟨c, cs, rfl⟩ := List.exists_cons_of_ne_nil hne
  have hc : c ≠ '}' := fun hc => hnext (by rw [hc]; rfl)
  rw [value, if_neg (by decide), if_neg (by decide), if_pos rfl, if_neg (Nat.succ_ne_zero depth)]
  generalize skipSpace s = skipped at h
  obtain ⟨skipped, hskipped⟩ := skipped
  dsimp only at h
  subst h
  simp only [if_neg hc, Nat.add_sub_cancel, hfields]
  exact ⟨_, rfl⟩

/-- What is no string, array or object is a value with a name, or a number. -/
theorem value_eq_number {c : Char} (hquote : c ≠ '"') (hbracket : c ≠ '[') (hbrace : c ≠ '{')
    (hnamed : named? (c :: s) = none) : value depth (c :: s) = number (c :: s) := by
  rw [value, if_neg hquote, if_neg hbracket, if_neg hbrace, hnamed]

end Steps

/-! ### What stands between the parts of a value -/

theorem allSpace_newLine (level : Nat) : AllSpace (Layout.newLine level) := by
  unfold Layout.newLine
  refine List.forall_mem_cons.mpr ⟨rfl, fun c hc => ?_⟩
  rw [List.eq_of_mem_replicate hc]
  rfl

theorem allSpace_edge (layout : Layout) (level : Nat) : AllSpace (layout.edge level) := by
  cases layout with
  | oneLine => exact fun c hc => absurd hc List.not_mem_nil
  | indented => exact allSpace_newLine level

/-- Members are set apart by a comma and white space. -/
theorem exists_separator_eq (layout : Layout) (level : Nat) :
    ∃ space, layout.separator level = ',' :: space ∧ AllSpace space := by
  cases layout with
  | oneLine => exact ⟨[' '], rfl, fun c hc => by rw [List.mem_singleton.mp hc]; rfl⟩
  | indented => exact ⟨Layout.newLine level, rfl, allSpace_newLine level⟩

/-- White space, a comma or a bracket ends a number. -/
theorem endsNumber_cons {c : Char} (h : isSpace c || c == ',' || c == ']' || c == '}')
    (rest : Text) : EndsNumber (c :: rest) := by
  rintro d ⟨⟩
  simp only [isSpace, Bool.or_eq_true, beq_iff_eq] at h
  rcases h with (((((rfl | rfl) | rfl) | rfl) | rfl) | rfl) | rfl <;> decide

/-- So does white space in front of one of them. -/
theorem endsNumber_space_append {space rest : Text} (hspace : AllSpace space)
    (hrest : EndsNumber rest) : EndsNumber (space ++ rest) := by
  cases space with
  | nil => exact hrest
  | cons c cs => exact endsNumber_cons (by simp [hspace c List.mem_cons_self]) _

/-! ### Beginnings of values -/

/-- A number begins with a minus or a digit. -/
theorem exists_signText_append_eq_cons {numeral : Numeral} (h : numeral.IsProper)
    (negative : Bool) :
    ∃ c more, signText negative ++ numeral.text = c :: more ∧ (c = '-' ∨ c.isDigit = true) := by
  obtain ⟨c, more, htext, hdigit⟩ := exists_text_eq_cons h
  rw [htext]
  cases negative with
  | true => exact ⟨'-', c :: more, rfl, Or.inl rfl⟩
  | false => exact ⟨c, more, rfl, Or.inr hdigit⟩

/-- No name of a value begins like a number. -/
theorem named?_signText_append {numeral : Numeral} (h : numeral.IsProper) (negative : Bool)
    (rest : Text) : named? (signText negative ++ numeral.text ++ rest) = none := by
  obtain ⟨c, more, htext, hdigit⟩ := exists_text_eq_cons h
  have hletter : ∀ d : Char, d.isDigit = false → c ≠ d := by
    rintro d hd rfl
    rw [hd] at hdigit
    exact absurd hdigit Bool.false_ne_true
  rw [htext]
  cases negative with
  | true =>
    show named? ('-' :: c :: (more ++ rest)) = none
    rw [named?]
    all_goals intro tail heq
    -- only one name begins with a minus, and it goes on with a letter
    case x_7 => exact hletter 'I' rfl (List.cons.inj (List.cons.inj heq).2).1
    all_goals exact absurd (List.cons.inj heq).1 (by decide)
  | false =>
    show named? (c :: (more ++ rest)) = none
    rw [named?]
    all_goals intro tail heq
    all_goals exact hletter _ rfl (List.cons.inj heq).1

/-- A character that a value may begin with: no white space, and no end of an array or an object. -/
def BeginsValue (c : Char) : Prop := isSpace c = false ∧ c ≠ ']' ∧ c ≠ '}'

instance (c : Char) : Decidable (BeginsValue c) :=
  inferInstanceAs (Decidable (isSpace c = false ∧ c ≠ ']' ∧ c ≠ '}'))

theorem beginsValue_of_isDigit {c : Char} (h : c.isDigit = true) : BeginsValue c := by
  refine ⟨?_, ?_, ?_⟩
  · by_contra hspace
    rw [Bool.not_eq_false] at hspace
    simp only [isSpace, Bool.or_eq_true, beq_iff_eq] at hspace
    rcases hspace with ((rfl | rfl) | rfl) | rfl <;> exact absurd h (by decide)
  · rintro rfl
    exact absurd h (by decide)
  · rintro rfl
    exact absurd h (by decide)

/-- Every value begins with such a character. -/
theorem exists_writeAt_eq_cons (layout : Layout) (level : Nat) (v : Json) :
    ∃ c more, writeAt layout level v = c :: more ∧ BeginsValue c := by
  have hnumber : ∀ {numeral : Numeral} (negative : Bool), numeral.IsProper →
      ∃ c more, signText negative ++ numeral.text = c :: more ∧ BeginsValue c := by
    intro numeral negative h
    obtain ⟨c, more, htext, hc⟩ := exists_signText_append_eq_cons h negative
    refine ⟨c, more, htext, ?_⟩
    rcases hc with rfl | hdigit
    · decide
    · exact beginsValue_of_isDigit hdigit
  have henclose : ∀ (opening closing : Char) (members : List Text), BeginsValue opening →
      ∃ c more, layout.enclose level opening closing members = c :: more ∧ BeginsValue c := by
    intro opening closing members h
    unfold Layout.enclose
    split
    · exact ⟨opening, _, rfl, h⟩
    · exact ⟨opening, _, rfl, h⟩
  cases v with
  | null => exact ⟨'n', _, rfl, by decide⟩
  | bool b => cases b with
    | true => exact ⟨'t', _, rfl, by decide⟩
    | false => exact ⟨'f', _, rfl, by decide⟩
  | int n =>
    show ∃ c more, (toString n).toList = c :: more ∧ BeginsValue c
    rw [toList_toString_int]
    exact hnumber _ (isProper_ofNat n.natAbs)
  | decimal d =>
    show ∃ c more, d.render = c :: more ∧ BeginsValue c
    rw [d.render_eq]
    exact hnumber _ d.isProper_numeral
  | infinite negative => cases negative with
    | true => exact ⟨'-', _, rfl, by decide⟩
    | false => exact ⟨'I', _, rfl, by decide⟩
  | nan => exact ⟨'N', _, rfl, by decide⟩
  | string t => exact ⟨'"', _, rfl, by decide⟩
  | array items => exact henclose '[' ']' _ (by decide)
  | object fields => exact henclose '{' '}' _ (by decide)

section Members

variable (layout : Layout) (level : Nat)

theorem writeAt_array (items : List Json) : writeAt layout level (array items) =
    layout.enclose level '[' ']' (writeItems layout (level + 1) items) := rfl

theorem writeAt_object (fields : List (Text × Json)) : writeAt layout level (object fields) =
    layout.enclose level '{' '}' (writeFields layout (level + 1) fields) := rfl

theorem writeItems_cons (v : Json) (vs : List Json) :
    writeItems layout level (v :: vs) = writeAt layout level v :: writeItems layout level vs := rfl

theorem writeFields_cons (key : Text) (v : Json) (fs : List (Text × Json)) :
    writeFields layout level ((key, v) :: fs) =
      (writeString key ++ [':', ' '] ++ writeAt layout level v) :: writeFields layout level fs :=
  rfl

end Members

/-- Joined members begin as the first of them does. -/
theorem exists_join_eq_cons (separator : Text) (c : Char) (more : Text) (members : List Text) :
    ∃ rest, Text.join separator ((c :: more) :: members) = c :: rest := by
  cases members with
  | nil => exact ⟨more, rfl⟩
  | cons member members => exact ⟨_, rfl⟩

/-- Joined items begin as a value does. -/
theorem exists_join_writeItems_eq_cons (layout : Layout) (level : Nat) (v : Json)
    (vs : List Json) :
    ∃ c rest, Text.join (layout.separator level) (writeItems layout level (v :: vs)) = c :: rest ∧
      BeginsValue c := by
  obtain ⟨c, more, hv, hc⟩ := exists_writeAt_eq_cons layout level v
  obtain ⟨rest, hjoin⟩ :=
    exists_join_eq_cons (layout.separator level) c more (writeItems layout level vs)
  exact ⟨c, rest, by rw [writeItems_cons, hv, hjoin], hc⟩

/-- Joined fields begin with the quote of the first key. -/
theorem exists_join_writeFields_eq_cons (layout : Layout) (level : Nat) (f : Text × Json)
    (fs : List (Text × Json)) :
    ∃ rest, Text.join (layout.separator level) (writeFields layout level (f :: fs)) =
      '"' :: rest := by
  obtain ⟨key, v⟩ := f
  rw [writeFields_cons]
  exact exists_join_eq_cons (layout.separator level) '"'
    (key.flatMap escapeChar ++ ['"'] ++ [':', ' '] ++ writeAt layout level v)
    (writeFields layout level fs)

/-- Behind white space a value is what is met next. -/
theorem skipSpace_append_cons {space : Text} (hspace : AllSpace space) {c : Char}
    (hc : isSpace c = false) (rest : Text) : (skipSpace (space ++ c :: rest)).1 = c :: rest := by
  refine skipSpace_append hspace ?_
  rintro d ⟨⟩
  exact hc

/-! ### Values -/

/-- The value is read back wherever it is written, if what follows it is not taken for a part of it.
-/
def ReadsBack (layout : Layout) (depth : Nat) (v : Json) : Prop :=
  ∀ level rest, EndsNumber rest →
    Yields (value depth (writeAt layout level v ++ rest)) v.reread rest

/-- Behind the first of several members come the comma, white space and the other members. -/
theorem join_cons_cons_append {separator space : Text} (h : separator = ',' :: space)
    (t u : Text) (ts : List Text) (tail : Text) :
    Text.join separator (t :: u :: ts) ++ tail =
      t ++ ',' :: (space ++ (Text.join separator (u :: ts) ++ tail)) := by
  rw [Text.join, List.append_assoc, List.append_assoc]
  · conv_lhs => rw [h]
    rw [List.cons_append, ← h]
  · exact List.cons_ne_nil u ts

/-- **Items that are read back** make an array that is. -/
theorem yields_items_writeItems {layout : Layout} {depth level : Nat} {vs : List Json}
    (hne : vs ≠ []) (h : ∀ v ∈ vs, ReadsBack layout depth v) {edge : Text}
    (hedge : AllSpace edge) (rest : Text) :
    Yields (items depth (Text.join (layout.separator level) (writeItems layout level vs) ++
      (edge ++ ']' :: rest))) (vs.map reread) rest := by
  obtain ⟨space, hseparator, hspace⟩ := exists_separator_eq layout level
  induction vs with
  | nil => exact absurd rfl hne
  | cons v vs ih =>
    have hv := h v List.mem_cons_self
    cases vs with
    | nil =>
      have hend := endsNumber_space_append hedge (endsNumber_cons (c := ']') rfl rest)
      exact yields_items_last (hv level _ hend) (skipSpace_append_cons hedge rfl rest)
    | cons w ws =>
      have ih := ih (List.cons_ne_nil w ws) fun u hu => h u (List.mem_cons_of_mem v hu)
      -- behind the comma and the white space the other items begin
      obtain ⟨c, tail, hjoin, hc, -, -⟩ := exists_join_writeItems_eq_cons layout level w ws
      rw [writeItems_cons] at hjoin ih
      rw [writeItems_cons, writeItems_cons, join_cons_cons_append hseparator, List.map_cons]
      refine yields_items_cons (hv level _ (endsNumber_cons rfl _)) (skipSpace_cons rfl _) ?_
      rw [hjoin] at ih ⊢
      rw [List.cons_append, skipSpace_append_cons hspace hc]
      exact ih

/-- A field is read back if its value is. -/
theorem yields_field_write {layout : Layout} {depth : Nat} {v : Json} (h : ReadsBack layout depth v)
    (key : Text) (level : Nat) {rest : Text} (hrest : EndsNumber rest) :
    Yields (field depth (writeString key ++ [':', ' '] ++ writeAt layout level v ++ rest))
      (key, v.reread) rest := by
  have htext : writeString key ++ [':', ' '] ++ writeAt layout level v ++ rest =
      '"' :: (key.flatMap escapeChar ++ '"' :: ':' :: ' ' :: (writeAt layout level v ++ rest)) := by
    simp [writeString]
  obtain ⟨c, more, hv, hc, -, -⟩ := exists_writeAt_eq_cons layout level v
  have hspace : AllSpace [' '] := fun c hc => by rw [List.mem_singleton.mp hc]; rfl
  have hskip : (skipSpace (' ' :: (writeAt layout level v ++ rest))).1 =
      writeAt layout level v ++ rest := by
    rw [hv, List.cons_append]
    exact skipSpace_append_cons hspace hc _
  rw [htext]
  refine yields_field (yields_quotedString key _) (skipSpace_cons rfl _) ?_
  rw [hskip]
  exact h level rest hrest

theorem put_of_not_mem {before : List (Text × Json)} {key : Text}
    (h : key ∉ before.map Prod.fst) (v : Json) : put before key v = before ++ [(key, v)] := by
  unfold put
  rw [if_neg]
  rw [List.any_eq_true]
  rintro ⟨field, hfield, heq⟩
  exact h (beq_iff_eq.mp heq ▸ List.mem_map_of_mem hfield)

/-- **Fields that are read back** make an object that is, if no key occurs twice. -/
theorem yields_fields_writeFields {layout : Layout} {depth level : Nat}
    {before fs : List (Text × Json)} (hne : fs ≠ [])
    (hkeys : (before.map Prod.fst ++ fs.map Prod.fst).Nodup)
    (h : ∀ f ∈ fs, ReadsBack layout depth f.2) {edge : Text} (hedge : AllSpace edge)
    (rest : Text) :
    Yields (fields depth before (Text.join (layout.separator level) (writeFields layout level fs) ++
      (edge ++ '}' :: rest))) (before ++ fs.map fun f => (f.1, f.2.reread)) rest := by
  obtain ⟨space, hseparator, hspace⟩ := exists_separator_eq layout level
  induction fs generalizing before with
  | nil => exact absurd rfl hne
  | cons f fs ih =>
    obtain ⟨key, v⟩ := f
    have hv : ReadsBack layout depth v := h (key, v) List.mem_cons_self
    have hput : put before key v.reread = before ++ [(key, v.reread)] := by
      refine put_of_not_mem ?_ _
      rw [List.map_cons, List.nodup_append] at hkeys
      exact fun hmem => hkeys.2.2 key hmem key List.mem_cons_self rfl
    cases fs with
    | nil =>
      have hend := endsNumber_space_append hedge (endsNumber_cons (c := '}') rfl rest)
      show Yields (fields depth before _) (before ++ [(key, v.reread)]) rest
      rw [← hput]
      exact yields_fields_last (yields_field_write hv key level hend)
        (skipSpace_append_cons hedge rfl rest)
    | cons g gs =>
      obtain ⟨name, w⟩ := g
      have hkeys' : ((before ++ [(key, v.reread)]).map Prod.fst ++
          ((name, w) :: gs).map Prod.fst).Nodup := by
        rw [List.map_append, List.append_assoc]
        exact hkeys
      have hrest : ∀ f ∈ (name, w) :: gs, ReadsBack layout depth f.2 :=
        fun f hf => h f (List.mem_cons_of_mem (key, v) hf)
      have ih := ih (List.cons_ne_nil _ gs) hkeys' hrest
      -- behind the comma and the white space the other fields begin, with a quote
      obtain ⟨tail, hjoin⟩ := exists_join_writeFields_eq_cons layout level (name, w) gs
      rw [writeFields_cons] at hjoin ih
      rw [List.append_assoc before, List.singleton_append] at ih
      rw [writeFields_cons, writeFields_cons, join_cons_cons_append hseparator, List.map_cons]
      refine yields_fields_cons (yields_field_write hv key level (endsNumber_cons rfl _))
        (skipSpace_cons rfl _) ?_
      rw [hput]
      rw [hjoin] at ih ⊢
      rw [List.cons_append, skipSpace_append_cons hspace rfl]
      exact ih

/-- The text between the brackets of an array or an object that is not empty. -/
theorem enclose_append {layout : Layout} {level : Nat} {opening closing : Char}
    {members : List Text} (h : members ≠ []) (rest : Text) :
    layout.enclose level opening closing members ++ rest =
      opening :: (layout.edge (level + 1) ++ (Text.join (layout.separator (level + 1)) members ++
        (layout.edge level ++ closing :: rest))) := by
  unfold Layout.enclose
  rw [if_neg (by simpa using h)]
  simp only [List.cons_append, List.append_assoc, List.nil_append]

theorem readsBack_array {layout : Layout} {depth : Nat} {items : List Json}
    (h : ∀ item ∈ items, ReadsBack layout depth item) :
    ReadsBack layout (depth + 1) (array items) := by
  intro level rest _
  rw [reread_array, writeAt_array]
  cases items with
  | nil => exact yields_value_array_nil (skipSpace_cons rfl rest)
  | cons v vs =>
    have hitems : Yields (Json.items depth (Text.join (layout.separator (level + 1))
        (writeItems layout (level + 1) (v :: vs)) ++ (layout.edge level ++ ']' :: rest)))
          ((v :: vs).map reread) rest :=
      yields_items_writeItems (List.cons_ne_nil v vs) h (allSpace_edge layout level) rest
    -- the first item begins behind the bracket and the white space
    obtain ⟨c, tail, hjoin, hc, hclosing, -⟩ :=
      exists_join_writeItems_eq_cons layout (level + 1) v vs
    rw [writeItems_cons] at hjoin hitems ⊢
    rw [enclose_append (List.cons_ne_nil _ _)]
    rw [hjoin, List.cons_append] at hitems ⊢
    refine yields_value_array (skipSpace_append_cons (allSpace_edge layout _) hc _) ?_ hitems
    exact fun heq => hclosing (Option.some.inj heq)

theorem readsBack_object {layout : Layout} {depth : Nat} {fields : List (Text × Json)}
    (hkeys : (fields.map Prod.fst).Nodup) (h : ∀ f ∈ fields, ReadsBack layout depth f.2) :
    ReadsBack layout (depth + 1) (object fields) := by
  intro level rest _
  rw [reread_object, writeAt_object]
  cases fields with
  | nil => exact yields_value_object_nil (skipSpace_cons rfl rest)
  | cons f fs =>
    obtain ⟨key, v⟩ := f
    have hfields : Yields (Json.fields depth [] (Text.join (layout.separator (level + 1))
        (writeFields layout (level + 1) ((key, v) :: fs)) ++ (layout.edge level ++ '}' :: rest)))
          ([] ++ ((key, v) :: fs).map fun f => (f.1, f.2.reread)) rest :=
      yields_fields_writeFields (List.cons_ne_nil _ fs) (by exact hkeys) h
        (allSpace_edge layout level) rest
    obtain ⟨tail, hjoin⟩ := exists_join_writeFields_eq_cons layout (level + 1) (key, v) fs
    rw [writeFields_cons] at hjoin hfields ⊢
    rw [enclose_append (List.cons_ne_nil _ _)]
    rw [hjoin, List.cons_append] at hfields ⊢
    refine yields_value_object (skipSpace_append_cons (allSpace_edge layout _) rfl _) ?_ hfields
    exact fun heq => absurd (Option.some.inj heq) (by decide)

/-- A number is a value that is read as one. -/
theorem yields_value_number {depth : Nat} {numeral : Numeral} (h : numeral.IsProper)
    {negative : Bool} {rest : Text} {result : Json}
    (hnumber : Yields (number (signText negative ++ numeral.text ++ rest)) result rest) :
    Yields (value depth (signText negative ++ numeral.text ++ rest)) result rest := by
  have hnamed := named?_signText_append h negative rest
  obtain ⟨c, more, htext, hc⟩ := exists_signText_append_eq_cons h negative
  rw [htext, List.cons_append] at hnumber hnamed ⊢
  have hne : ∀ d : Char, d ≠ '-' → d.isDigit = false → c ≠ d := by
    rintro d hminus hdigit rfl
    rcases hc with heq | hdigit'
    · exact hminus heq
    · exact absurd (hdigit.symm.trans hdigit') (by decide)
  rw [value_eq_number (hne '"' (by decide) rfl) (hne '[' (by decide) rfl) (hne '{' (by decide) rfl)
    hnamed]
  exact hnumber

/-- A value with a name is read back. -/
theorem readsBack_named {layout : Layout} {depth : Nat} {v : Json} {c : Char} {name : Text}
    (htext : ∀ level, writeAt layout level v = c :: name)
    (hbegins : c ≠ '"' ∧ c ≠ '[' ∧ c ≠ '{')
    (hnamed : ∀ rest, ∃ hlt, named? (c :: (name ++ rest)) = some (v.reread, ⟨rest, hlt⟩)) :
    ReadsBack layout depth v := by
  intro level rest _
  obtain ⟨hlt, hnamed⟩ := hnamed rest
  obtain ⟨hquote, hbracket, hbrace⟩ := hbegins
  rw [htext, List.cons_append, value, if_neg hquote, if_neg hbracket, if_neg hbrace, hnamed]
  exact ⟨hlt, rfl⟩

/-- **A value that fits the reader is read back.** -/
theorem readsBack_of_fits {layout : Layout} {depth : Nat} {v : Json} (h : Fits depth v) :
    ReadsBack layout depth v := by
  induction h with
  | null => exact readsBack_named (fun _ => rfl) (by decide) fun _ => ⟨_, rfl⟩
  | bool b => cases b with
    | true => exact readsBack_named (fun _ => rfl) (by decide) fun _ => ⟨_, rfl⟩
    | false => exact readsBack_named (fun _ => rfl) (by decide) fun _ => ⟨_, rfl⟩
  | int hn =>
    intro level rest hrest
    have hread := yields_number_int hn hrest
    rw [toList_toString_int] at hread
    show Yields (value _ ((toString _).toList ++ rest)) _ rest
    rw [toList_toString_int]
    exact yields_value_number (isProper_ofNat _) hread
  | decimal d =>
    intro level rest hrest
    have hread := d.yields_number_render hrest
    rw [d.render_eq] at hread
    show Yields (value _ (d.render ++ rest)) (decimal d.reread) rest
    rw [d.render_eq]
    exact yields_value_number d.isProper_numeral hread
  | infinite negative => cases negative with
    | true => exact readsBack_named (fun _ => rfl) (by decide) fun _ => ⟨_, rfl⟩
    | false => exact readsBack_named (fun _ => rfl) (by decide) fun _ => ⟨_, rfl⟩
  | nan => exact readsBack_named (fun _ => rfl) (by decide) fun _ => ⟨_, rfl⟩
  | string t =>
    intro level rest _
    show Yields (value _ (writeString t ++ rest)) (string t) rest
    rw [writeString, List.append_assoc, List.cons_append]
    exact yields_value_string (yields_quotedString t rest)
  | array _ ih => exact readsBack_array ih
  | object hkeys _ ih => exact readsBack_object hkeys ih

/-- **What is written for a value is read as that value again**, with white space behind it. -/
theorem read_write {nesting : Nesting} (layout : Layout) {v : Json} (h : Fits nesting.levels v)
    {space : Text} (hspace : AllSpace space) :
    read nesting (v.write layout ++ space) = .ok v.reread := by
  have hend : EndsNumber space := by
    have hnil : EndsNumber [] := fun c hc => absurd hc (by simp)
    simpa using endsNumber_space_append hspace hnil
  have hskip : (skipSpace (v.write layout ++ space)).1 = writeAt layout 0 v ++ space := by
    obtain ⟨c, more, hv, hc, -, -⟩ := exists_writeAt_eq_cons layout 0 v
    unfold write
    rw [hv, List.cons_append]
    exact skipSpace_cons hc _
  have hvalue : Yields (value nesting.levels (writeAt layout 0 v ++ space)) v.reread space :=
    readsBack_of_fits h 0 space hend
  rw [← hskip] at hvalue
  obtain ⟨hlt, hvalue⟩ := hvalue
  have hrest : (skipSpace space).1 = [] := List.dropWhile_eq_nil_iff.mpr hspace
  unfold read
  rw [hvalue]
  dsimp only
  rw [hrest]

/-! ### Values put together -/

theorem reread_ofFields (fields : List (String × Json)) :
    (ofFields fields).reread = ofFields (fields.map fun f => (f.1, f.2.reread)) := by
  rw [ofFields, reread_object, ofFields, List.map_map, List.map_map]
  rfl

/-- An object is read as what was written if its values are. -/
theorem reread_ofFields_eq_self {fields : List (String × Json)}
    (h : ∀ f ∈ fields, f.2.reread = f.2) : (ofFields fields).reread = ofFields fields := by
  rw [reread_ofFields]
  refine congrArg ofFields ?_
  calc fields.map (fun f => (f.1, f.2.reread))
      = fields.map id := List.map_congr_left fun f hf => by rw [h f hf]; rfl
    _ = fields := List.map_id fields

/-- An array is read as what was written if its items are. -/
theorem reread_array_map {α : Type} {f : α → Json} (h : ∀ a, (f a).reread = f a) (as : List α) :
    (array (as.map f)).reread = array (as.map f) := by
  rw [reread_array, List.map_map]
  exact congrArg array (List.map_congr_left fun a _ => h a)

/-- An object with a row of names fits if no name is there twice. -/
theorem fits_ofFields {depth : Nat} {fields : List (String × Json)}
    (hnames : (fields.map Prod.fst).Nodup) (h : ∀ f ∈ fields, Fits depth f.2) :
    Fits (depth + 1) (ofFields fields) := by
  refine Fits.object ?_ fun f hf => ?_
  · have hkeys : (fields.map fun field => (field.1.toList, field.2)).map Prod.fst =
        (fields.map Prod.fst).map String.toList := by
      rw [List.map_map, List.map_map]
      rfl
    show ((fields.map fun field => (field.1.toList, field.2)).map Prod.fst).Nodup
    rw [hkeys]
    exact List.Pairwise.map String.toList (fun _ _ hne heq => hne (String.toList_inj.mp heq)) hnames
  · obtain ⟨field, hfield, rfl⟩ := List.mem_map.mp hf
    exact h field hfield

end Json

end CommandPrompt
