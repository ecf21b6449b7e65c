import CommandPrompt.Command.Basic
import CommandPrompt.Proofs.Outcome

/-!
# Numbers on a command line

A switch that takes a number is given one, or the command line is refused. So in a command that is
understood every number is either absent or given (`Command.hasNumbers_of_read`). That is not said
of readers that drop the two dashes behind an equals sign, for then a switch can be left without a
value.

What holds is `Options.HasNumbers`. Setting one switch keeps it (`Options.HasNumbers.set`), also if
the value is attached (`Options.HasNumbers.setAttached`), and reading from left to right sets one
switch after another (`Scan.hasNumbers_run`).
-/

namespace CommandPrompt.Command

/-- The numbers that options set are numbers. -/
structure Options.HasNumbers (options : Options) : Prop where
  caret : options.caret ≠ .empty
  maxSuggestions : options.maxSuggestions ≠ .empty

/-! ### One switch -/

theorem Options.HasNumbers.set {options options' : Options} (h : options.HasNumbers)
    {switch : Switch} {value : Text} (hset : options.set switch value = .ok options') :
    options'.HasNumbers := by
  cases switch with
  | help => exact absurd hset (by simp [Options.set])
  | verbose | pretty | world =>
    obtain rfl := Except.ok.inj hset
    exact ⟨h.caret, h.maxSuggestions⟩
  | caret =>
    obtain ⟨n, -, rfl⟩ := map_eq_ok_iff.mp hset
    exact ⟨by simp, h.maxSuggestions⟩
  | maxSuggestions =>
    obtain ⟨n, -, rfl⟩ := map_eq_ok_iff.mp hset
    exact ⟨h.caret, by simp⟩
  | format =>
    unfold Options.set at hset
    dsimp only at hset
    split at hset
    · obtain rfl := Except.ok.inj hset
      exact ⟨h.caret, h.maxSuggestions⟩
    · exact absurd hset (by simp)

/-- A reader that keeps attached dashes sets numbers only. -/
theorem Options.HasNumbers.setAttached {options options' : Options} (h : options.HasNumbers)
    {switch : Switch} {spelling : String} {value : Text}
    (hset : options.setAttached .kept switch spelling value = .ok options') :
    options'.HasNumbers := by
  unfold Options.setAttached at hset
  split at hset
  · rw [if_neg (by simp)] at hset
    exact h.set hset
  · split at hset
    · exact absurd hset (by simp)
    · exact absurd hset (by simp)

/-! ### All switches -/

/-- Taking the operand sets no switch. -/
theorem Scan.options_takeOperand (grammar : Grammar) (scan : Scan)
    (arguments : List (Text × Role)) :
    (scan.takeOperand grammar arguments).1.options = scan.options := by
  unfold takeOperand
  split
  · split <;> rfl
  · rfl

/-- **Reading from left to right sets numbers only.** -/
theorem Scan.hasNumbers_run {grammar : Grammar} (hdashes : grammar.dashes = .kept) {bound : Nat}
    {scan scan' : Scan} {arguments : List (Text × Role)} (h : scan.options.HasNumbers)
    (hrun : Scan.run grammar bound scan arguments = .ok scan') : scan'.options.HasNumbers := by
  -- the options go from step to step, so the switches set so far are any
  fun_induction Scan.run grammar bound scan arguments with
  | case1 scan arguments =>
    obtain rfl := Except.ok.inj hrun
    exact h
  | case2 bound scan =>
    obtain rfl := Except.ok.inj hrun
    exact h
  | case3 bound scan t rest ih => exact ih h hrun
  | case4 bound scan t switch spelling attached rest ih =>
    obtain ⟨options, hset, hrun⟩ := bind_eq_ok_iff.mp hrun
    rw [hdashes] at hset
    exact ih options (h.setAttached hset) hrun
  | case5 bound scan t switch spelling htakes value rest ih =>
    obtain ⟨options, hset, hrun⟩ := bind_eq_ok_iff.mp hrun
    exact ih options (h.set hset) hrun
  | case6 => exact absurd hrun (by simp)
  | case7 bound scan t switch spelling rest htakes ih =>
    obtain ⟨options, hset, hrun⟩ := bind_eq_ok_iff.mp hrun
    exact ih options (h.set hset) hrun
  | case8 bound scan arguments _ _ _ _ taken htaken skipped ih =>
    refine ih ?_ hrun
    have hoptions := scan.options_takeOperand grammar arguments
    rw [htaken] at hoptions
    exact hoptions ▸ h
  | case9 bound scan arguments _ _ _ _ taken size _ htaken ih =>
    refine ih ?_ hrun
    have hoptions := scan.options_takeOperand grammar arguments
    rw [htaken] at hoptions
    exact hoptions ▸ h

theorem hasNumbers_of_scanFor {grammar : Grammar} (hdashes : grammar.dashes = .kept)
    {arguments : List Text} {scan : Scan} (h : scanFor grammar arguments = .ok scan) :
    scan.options.HasNumbers := by
  obtain ⟨classified, -, hrun⟩ := bind_eq_ok_iff.mp (mapError_eq_ok_iff.mp h)
  exact Scan.hasNumbers_run hdashes ⟨by decide, by decide⟩ hrun

/-! ### Commands -/

theorem hasNumbers_of_readPrompt {withGroups : Bool} {name : String} {arguments extras : List Text}
    {command : Command} (h : readPrompt .kept withGroups name arguments = .ok (command, extras)) :
    command.options.HasNumbers := by
  obtain ⟨scan, hscan, h⟩ := bind_eq_ok_iff.mp h
  split at h
  · obtain ⟨rfl, -⟩ := Prod.mk.inj (Except.ok.inj h)
    exact hasNumbers_of_scanFor rfl hscan
  · exact absurd h (by simp)

theorem hasNumbers_of_readNamed {name : Text} {arguments extras : List Text} {command : Command}
    (h : readNamed .kept name arguments = .ok (command, extras)) : command.options.HasNumbers := by
  unfold readNamed at h
  split at h
  · exact hasNumbers_of_readPrompt h
  split at h
  · exact hasNumbers_of_readPrompt h
  split at h
  · obtain ⟨scan, hscan, h⟩ := bind_eq_ok_iff.mp h
    obtain ⟨rfl, -⟩ := Prod.mk.inj (Except.ok.inj h)
    exact hasNumbers_of_scanFor rfl hscan
  · exact absurd h (by simp)

/-- **The numbers of a command that is understood are numbers.** -/
theorem hasNumbers_of_read {arguments : List Text} {command : Command}
    (h : Command.read arguments = .ok command) : command.options.HasNumbers := by
  obtain ⟨scan, -, h⟩ := bind_eq_ok_iff.mp h
  split at h
  · obtain ⟨⟨named, extras⟩, hnamed, h⟩ := bind_eq_ok_iff.mp h
    dsimp only at h
    split at h
    · obtain rfl := Except.ok.inj h
      exact hasNumbers_of_readNamed hnamed
    · exact absurd h (by simp)
  · exact absurd h (by simp)

end CommandPrompt.Command
