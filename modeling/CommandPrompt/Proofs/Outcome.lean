import Mathlib.Data.List.Forall2
import Mathlib.Tactic.Common

/-!
# Outcomes step by step

Drafts are checked, texts matched and commands woven in steps, each of which may end the whole with
a fault. These lemmas take such a computation apart: it succeeds if every step does
(`bind_eq_ok_iff`), also when the steps go through a list.
-/

namespace CommandPrompt

variable {ε α β : Type}

theorem bind_eq_ok_iff {x : Except ε α} {f : α → Except ε β} {b : β} :
    (x >>= f) = .ok b ↔ ∃ a, x = .ok a ∧ f a = .ok b := by
  cases x <;> simp [bind, Except.bind]

theorem bind_eq_error_iff {x : Except ε α} {f : α → Except ε β} {e : ε} :
    (x >>= f) = .error e ↔ x = .error e ∨ ∃ a, x = .ok a ∧ f a = .error e := by
  cases x <;> simp [bind, Except.bind]

theorem map_eq_ok_iff {x : Except ε α} {f : α → β} {b : β} :
    x.map f = .ok b ↔ ∃ a, x = .ok a ∧ f a = b := by
  cases x <;> simp [Except.map]

theorem map_eq_error_iff {x : Except ε α} {f : α → β} {e : ε} :
    x.map f = .error e ↔ x = .error e := by
  cases x <;> simp [Except.map]

theorem mapError_eq_ok_iff {ε' : Type} {x : Except ε α} {f : ε → ε'} {a : α} :
    x.mapError f = .ok a ↔ x = .ok a := by
  cases x <;> simp [Except.mapError]

theorem mapError_eq_error_iff {ε' : Type} {x : Except ε α} {f : ε → ε'} {e' : ε'} :
    x.mapError f = .error e' ↔ ∃ e, x = .error e ∧ f e = e' := by
  cases x <;> simp [Except.mapError]

/-- Where results go with what they come from, every result comes from something. -/
theorem exists_of_mem_forall₂ {R : α → β → Prop} {as : List α} {bs : List β}
    (h : List.Forall₂ R as bs) {b : β} (hb : b ∈ bs) : ∃ a ∈ as, R a b := by
  induction h with
  | nil => exact absurd hb List.not_mem_nil
  | @cons a b' as bs hR _ ih =>
    rcases List.mem_cons.mp hb with rfl | hmem
    · exact ⟨a, List.mem_cons_self, hR⟩
    · obtain ⟨a', ha', hR'⟩ := ih hmem
      exact ⟨a', List.mem_cons_of_mem a ha', hR'⟩

/-- What a successful pass over a list yields comes from its members one by one. -/
theorem exists_of_mem_mapM {f : α → Except ε β} {xs : List α} {ys : List β}
    (h : xs.mapM f = .ok ys) {y : β} (hy : y ∈ ys) : ∃ x ∈ xs, f x = .ok y := by
  induction xs generalizing ys with
  | nil =>
    obtain rfl : [] = ys := Except.ok.inj h
    exact absurd hy List.not_mem_nil
  | cons x xs ih =>
    rw [List.mapM_cons] at h
    obtain ⟨b, hx, h⟩ := bind_eq_ok_iff.mp h
    obtain ⟨bs, hxs, h⟩ := bind_eq_ok_iff.mp h
    obtain rfl : b :: bs = ys := Except.ok.inj h
    rcases List.mem_cons.mp hy with rfl | hy
    · exact ⟨x, List.mem_cons_self, hx⟩
    · obtain ⟨x', hx', heq⟩ := ih hxs hy
      exact ⟨x', List.mem_cons_of_mem x hx', heq⟩

/-- A pass that leaves every member as it is leaves the list as it is. -/
theorem mapM_eq_ok_self {f : α → Except ε α} {xs : List α} (h : ∀ x ∈ xs, f x = .ok x) :
    xs.mapM f = .ok xs := by
  induction xs with
  | nil => rfl
  | cons x xs ih =>
    obtain ⟨hx, hxs⟩ := List.forall_mem_cons.mp h
    rw [List.mapM_cons, hx, ih hxs]
    rfl

/-- A loop that fails fails at one of its steps. -/
theorem exists_of_foldlM_eq_error {f : β → α → Except ε β} {xs : List α} {b : β} {e : ε}
    (h : xs.foldlM f b = .error e) : ∃ b', ∃ x ∈ xs, f b' x = .error e := by
  induction xs generalizing b with
  | nil => exact absurd h (by simp [pure, Except.pure])
  | cons x xs ih =>
    rw [List.foldlM_cons] at h
    rcases bind_eq_error_iff.mp h with hx | ⟨next, -, hxs⟩
    · exact ⟨b, x, List.mem_cons_self, hx⟩
    · obtain ⟨b', y, hy, heq⟩ := ih hxs
      exact ⟨b', y, List.mem_cons_of_mem x hy, heq⟩

/-- A loop that came to its end has taken every member. -/
theorem exists_of_foldlM_eq_ok {f : β → α → Except ε β} {xs : List α} {b b' : β}
    (h : xs.foldlM f b = .ok b') : ∀ x ∈ xs, ∃ a a', f a x = .ok a' := by
  induction xs generalizing b with
  | nil => exact fun _ hx => absurd hx List.not_mem_nil
  | cons x xs ih =>
    rw [List.foldlM_cons] at h
    obtain ⟨next, hnext, hrest⟩ := bind_eq_ok_iff.mp h
    intro y hy
    rcases List.mem_cons.mp hy with rfl | hy
    · exact ⟨b, next, hnext⟩
    · exact ih hrest y hy

/-- A loop comes to its end, and keeps what every step keeps, if no step of it fails. -/
theorem exists_foldlM_eq_ok_of_invariant {invariant : β → Prop} {f : β → α → Except ε β}
    {xs : List α} (h : ∀ b, invariant b → ∀ x ∈ xs, ∃ b', f b x = .ok b' ∧ invariant b') {b : β}
    (hb : invariant b) : ∃ b', xs.foldlM f b = .ok b' ∧ invariant b' := by
  induction xs generalizing b with
  | nil => exact ⟨b, rfl, hb⟩
  | cons x xs ih =>
    obtain ⟨next, hnext, hinvariant⟩ := h b hb x List.mem_cons_self
    rw [List.foldlM_cons, hnext]
    exact ih (fun b' hb' y hy => h b' hb' y (List.mem_cons_of_mem x hy)) hinvariant

/-- A loop that came to its end kept what every step keeps. -/
theorem invariant_of_foldlM_eq_ok {invariant : β → Prop} {f : β → α → Except ε β} {xs : List α}
    (h : ∀ b b', invariant b → ∀ x ∈ xs, f b x = .ok b' → invariant b') {b b' : β}
    (hb : invariant b) (hfold : xs.foldlM f b = .ok b') : invariant b' := by
  induction xs generalizing b with
  | nil => exact Except.ok.inj hfold ▸ hb
  | cons x xs ih =>
    rw [List.foldlM_cons] at hfold
    obtain ⟨next, hnext, hrest⟩ := bind_eq_ok_iff.mp hfold
    have hinvariant := h b next hb x List.mem_cons_self hnext
    exact ih (fun a a' ha y hy => h a a' ha y (List.mem_cons_of_mem x hy)) hinvariant hrest

/-- A loop comes to its end if no step of it fails. -/
theorem exists_foldlM_eq_ok {f : β → α → Except ε β} {xs : List α}
    (h : ∀ b, ∀ x ∈ xs, ∃ b', f b x = .ok b') (b : β) : ∃ b', xs.foldlM f b = .ok b' := by
  have hstep : ∀ b, True → ∀ x ∈ xs, ∃ b', f b x = .ok b' ∧ True := by
    intro b _ x hx
    obtain ⟨b', hb'⟩ := h b x hx
    exact ⟨b', hb', trivial⟩
  obtain ⟨b', hb', -⟩ := exists_foldlM_eq_ok_of_invariant hstep (b := b) trivial
  exact ⟨b', hb'⟩

end CommandPrompt
