import CommandPrompt.Document.Reading
import Mathlib.Data.List.Forall2

/-!
# Readings taken apart

The reading of a document is put together from readings of its values. For every way of putting
readings together this module tells when the whole is accepted, and when it is broken off
(`Reading.BreaksOff`), from what becomes of the parts.

The two go along different ways. A whole is accepted only if all its parts are. What breaks a whole
off is one part, and it depends on how the parts are read. A series of words ends at the first word
that is not accepted (`breaksOff_sequence`), so behind a word that is at fault nothing can break it
off. The entities of a list and the fields of an object are all looked at (`breaksOff_each`,
`breaksOff_both`), so there a value can break the reading off although something before it was at
fault.
-/

namespace CommandPrompt.Reading

variable {α β γ : Type}

/-! ### Accepted readings -/

theorem map_eq_accepted_iff {r : Reading α} {f : α → β} {b : β} :
    r.map f = accepted b ↔ ∃ a, r = accepted a ∧ f a = b := by
  cases r <;> simp [map]

theorem andThen_eq_accepted_iff {r : Reading α} {next : α → Reading β} {b : β} :
    r.andThen next = accepted b ↔ ∃ a, r = accepted a ∧ next a = accepted b := by
  cases r <;> simp [andThen]

theorem both_eq_accepted_iff {f : α → β → γ} {r : Reading α} {s : Reading β} {c : γ} :
    both f r s = accepted c ↔ ∃ a b, r = accepted a ∧ s = accepted b ∧ f a b = c := by
  cases r <;> cases s <;> simp [both]

theorem under_eq_accepted_iff {step : DocumentStep} {r : Reading α} {a : α} :
    r.under step = accepted a ↔ r = accepted a := by
  cases r <;> simp [under]

/-- A field is accepted for its value, or for being absent. -/
theorem field_eq_accepted_iff {fields : List (Text × Json)} {name : String} {absent : Reading α}
    {read : Json → Reading α} {a : α} :
    field fields name absent read = accepted a ↔
      (Json.get? fields name = none ∧ absent = accepted a) ∨
        ∃ value, Json.get? fields name = some value ∧ read value = accepted a := by
  unfold field
  rw [under_eq_accepted_iff]
  cases Json.get? fields name <;> simp

/-- What holds of an absent field and of every value that is read holds of the field. -/
theorem of_field {P : α → Prop} {fields : List (Text × Json)} {name : String} {absent : Reading α}
    {read : Json → Reading α} {a : α} (h : field fields name absent read = accepted a)
    (habsent : absent = accepted a → P a) (hread : ∀ value, read value = accepted a → P a) :
    P a := by
  rcases field_eq_accepted_iff.mp h with ⟨-, h⟩ | ⟨value, -, h⟩
  · exact habsent h
  · exact hread value h

/-- A series is accepted if all its values are, and yields what they are read as. -/
theorem sequence_eq_accepted_iff {read : Json → Reading α} {values : List Json} {as : List α} :
    sequence read values = accepted as ↔
      List.Forall₂ (fun value a => read value = accepted a) values as := by
  induction values generalizing as with
  | nil =>
    rw [List.forall₂_nil_left_iff]
    exact ⟨fun h => (accepted.inj h).symm, fun h => by rw [h]; rfl⟩
  | cons value rest ih =>
    unfold sequence
    rw [andThen_eq_accepted_iff, List.forall₂_cons_left_iff]
    constructor
    · rintro ⟨a, ha, h⟩
      obtain ⟨bs, hbs, rfl⟩ := map_eq_accepted_iff.mp h
      exact ⟨a, bs, ha, ih.mp hbs, rfl⟩
    · rintro ⟨a, bs, ha, hbs, rfl⟩
      exact ⟨a, ha, map_eq_accepted_iff.mpr ⟨bs, ih.mpr hbs, rfl⟩⟩

/-- A list is accepted if all its values are, whatever place it starts at. -/
theorem each_eq_accepted_iff {read : Json → Reading α} {index : Nat} {values : List Json}
    {as : List α} :
    each read index values = accepted as ↔
      List.Forall₂ (fun value a => read value = accepted a) values as := by
  induction values generalizing index as with
  | nil =>
    rw [List.forall₂_nil_left_iff]
    exact ⟨fun h => (accepted.inj h).symm, fun h => by rw [h]; rfl⟩
  | cons value rest ih =>
    unfold each
    rw [both_eq_accepted_iff, List.forall₂_cons_left_iff]
    constructor
    · rintro ⟨a, bs, ha, hbs, rfl⟩
      exact ⟨a, bs, under_eq_accepted_iff.mp ha, ih.mp hbs, rfl⟩
    · rintro ⟨a, bs, ha, hbs, rfl⟩
      exact ⟨a, bs, under_eq_accepted_iff.mpr ha, ih.mpr hbs, rfl⟩

/-! ### Readings broken off -/

/-- The reading ends at a value of the wrong kind. -/
def BreaksOff (r : Reading α) : Prop := ∃ fault, r = brokenOff fault

@[simp] theorem breaksOff_brokenOff (fault : WrongKind) :
    (brokenOff fault : Reading α).BreaksOff := ⟨fault, rfl⟩

@[simp] theorem not_breaksOff_accepted (a : α) : ¬(accepted a).BreaksOff := by
  rintro ⟨fault, h⟩
  exact absurd h (by simp)

@[simp] theorem not_breaksOff_rejected (findings : List Finding) :
    ¬(rejected findings : Reading α).BreaksOff := by
  rintro ⟨fault, h⟩
  exact absurd h (by simp)

@[simp] theorem not_breaksOff_reject (problem : DocumentProblem) :
    ¬(reject problem : Reading α).BreaksOff := not_breaksOff_rejected _

@[simp] theorem breaksOff_map {r : Reading α} {f : α → β} : (r.map f).BreaksOff ↔ r.BreaksOff := by
  cases r <;> simp [map]

@[simp] theorem breaksOff_under {r : Reading α} {step : DocumentStep} :
    (r.under step).BreaksOff ↔ r.BreaksOff := by
  cases r <;> simp [under]

theorem breaksOff_andThen {r : Reading α} {next : α → Reading β} :
    (r.andThen next).BreaksOff ↔ r.BreaksOff ∨ ∃ a, r = accepted a ∧ (next a).BreaksOff := by
  cases r <;> simp [andThen]

/-- Either of two readings breaks both off, also if the other one found something. -/
theorem breaksOff_both {f : α → β → γ} {r : Reading α} {s : Reading β} :
    (both f r s).BreaksOff ↔ r.BreaksOff ∨ s.BreaksOff := by
  cases r <;> cases s <;> simp [both]

theorem breaksOff_field {fields : List (Text × Json)} {name : String} {absent : Reading α}
    (habsent : ¬absent.BreaksOff) {read : Json → Reading α} :
    (field fields name absent read).BreaksOff ↔
      ∃ value, Json.get? fields name = some value ∧ (read value).BreaksOff := by
  unfold field
  rw [breaksOff_under]
  cases Json.get? fields name <;> simp [habsent]

/-- **A series breaks off at a value before which all were accepted.** -/
theorem breaksOff_sequence {read : Json → Reading α} {values : List Json} :
    (sequence read values).BreaksOff ↔
      ∃ before value after, values = before ++ value :: after ∧
        (∀ v ∈ before, ∃ a, read v = accepted a) ∧ (read value).BreaksOff := by
  induction values with
  | nil => simp [sequence]
  | cons first rest ih =>
    unfold sequence
    rw [breaksOff_andThen]
    constructor
    · rintro (h | ⟨a, ha, h⟩)
      · exact ⟨[], first, rest, rfl, fun v hv => absurd hv List.not_mem_nil, h⟩
      · obtain ⟨before, value, after, rfl, hbefore, hvalue⟩ := ih.mp (breaksOff_map.mp h)
        refine ⟨first :: before, value, after, rfl, ?_, hvalue⟩
        exact List.forall_mem_cons.mpr ⟨⟨a, ha⟩, hbefore⟩
    · rintro ⟨before, value, after, heq, hbefore, hvalue⟩
      cases before with
      | nil =>
        obtain ⟨rfl, -⟩ := List.cons.inj heq
        exact Or.inl hvalue
      | cons v vs =>
        obtain ⟨rfl, rfl⟩ := List.cons.inj heq
        obtain ⟨⟨a, ha⟩, hvs⟩ := List.forall_mem_cons.mp hbefore
        exact Or.inr ⟨a, ha, breaksOff_map.mpr (ih.mpr ⟨vs, value, after, rfl, hvs, hvalue⟩)⟩

/-- **A list breaks off at any of its values.** -/
theorem breaksOff_each {read : Json → Reading α} {index : Nat} {values : List Json} :
    (each read index values).BreaksOff ↔ ∃ value ∈ values, (read value).BreaksOff := by
  induction values generalizing index with
  | nil => simp [each]
  | cons first rest ih =>
    unfold each
    rw [breaksOff_both, breaksOff_under, ih, List.exists_mem_cons_iff]

end CommandPrompt.Reading
