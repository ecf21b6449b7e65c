import CommandPrompt.Proofs.Context.OwnPrepositions
import CommandPrompt.Proofs.Session.Latch

/-!
# Sessions that no line can end

Suggestions are switched off by an ambiguous preposition only, and a line has one only where two
verbs share a preposition. So as long as the world of a session keeps the prepositions of its verbs
apart, also while entities are added, nothing that a player types gets a fatal answer or switches
suggestions off (`Session.run_staysOn`).

The world matters at the moment of a pass only. What one step does to suggestions, and whether its
answer is fatal, is known from the world it starts in
(`Session.isEnabled_step_of_hasOwnPrepositions`, `Session.isFatal_answer?_of_hasOwnPrepositions`); a
run takes such steps from prefix to prefix.
-/

namespace CommandPrompt.Session

/-! ### One step -/

section Step

variable {session : Session} (hown : session.world.HasOwnPrepositions)
include hown

theorem not_misreads_ambiguousPreposition (line : Line) (spelling : Text) :
    ¬session.Misreads line (.ambiguousPreposition spelling) := fun ⟨_, hmisread⟩ =>
  Context.ofLine_ne_ambiguousPreposition hown .double session.limit line spelling hmisread

theorem isEnabled_step_of_hasOwnPrepositions (hon : session.isEnabled = true) (event : Event) :
    (session.step event).1.isEnabled = true := by
  rw [← Bool.not_eq_false, isEnabled_step_eq_false_iff]
  rintro (hoff | ⟨line, spelling, -, hmisreads⟩)
  · exact absurd hoff (by simp [hon])
  · exact not_misreads_ambiguousPreposition hown line spelling hmisreads

/-- The answer of a step is not fatal. -/
theorem isFatal_answer?_of_hasOwnPrepositions (hon : session.isEnabled = true) {event : Event}
    {answer : Answer} (hanswer : (session.entry event).answer? = some answer) :
    answer.isFatal = false := by
  cases hline : session.passLine? event with
  | none => exact absurd hanswer (by simp [(step_of_passLine?_eq_none hline).2])
  | some line =>
    rw [(step_of_passLine?_eq_some hline).2] at hanswer
    have hpass := session.passes_suggest line
    generalize session.suggest line = result at hpass hanswer
    cases hpass with
    | disabled hoff => exact absurd hoff (by simp [hon])
    | understood hon hcontext =>
      obtain rfl := Option.some.inj hanswer
      rfl
    | @misread misreading _ hmisread =>
      obtain rfl := Option.some.inj hanswer
      cases misreading with
      | ambiguousPreposition spelling =>
        exact absurd ⟨hon, hmisread⟩ (not_misreads_ambiguousPreposition hown line spelling)
      | _ => rfl
    | fault hon hfault => exact absurd hanswer (by simp [Except.toOption])

end Step

/-! ### Runs -/

/-- What a run looks like in which suggestions stay on. -/
structure StaysOn (session : Session) (events : List Event) : Prop where
  /-- No line has an ambiguous preposition. -/
  not_misreadsAt : ∀ i spelling, ¬session.MisreadsAt events i (.ambiguousPreposition spelling)
  /-- No answer is fatal. -/
  not_fatal : ∀ entry ∈ (session.run events).2, ∀ answer,
    entry.answer? = some answer → answer.isFatal = false
  /-- Suggestions are on at every moment. -/
  isEnabled : ∀ i, (session.run (events.take i)).1.isEnabled = true

/-- One event more in a world with its own prepositions keeps suggestions on. -/
theorem StaysOn.concat {session : Session} {events : List Event} (h : session.StaysOn events)
    (hown : (session.run events).1.world.HasOwnPrepositions) (event : Event) :
    session.StaysOn (events ++ [event]) := by
  have hon : (session.run events).1.isEnabled = true := by
    have hall := h.isEnabled events.length
    rwa [List.take_length] at hall
  refine ⟨fun i spelling hat => ?_, fun entry hentry answer hanswer => ?_, fun i => ?_⟩
  · rcases misreadsAt_concat.mp hat with hat | ⟨-, line, -, hmisreads⟩
    · exact h.not_misreadsAt i spelling hat
    · exact not_misreads_ambiguousPreposition hown line spelling hmisreads
  · rw [run_concat] at hentry
    rcases List.mem_append.mp hentry with hentry | hentry
    · exact h.not_fatal entry hentry answer hanswer
    · obtain rfl := List.mem_singleton.mp hentry
      exact isFatal_answer?_of_hasOwnPrepositions hown hon hanswer
  · rcases Nat.lt_or_ge events.length i with hlt | hle
    · have hall : (events ++ [event]).length ≤ i := by
        rw [List.length_append]
        exact hlt
      rw [List.take_of_length_le hall, run_concat]
      exact isEnabled_step_of_hasOwnPrepositions hown hon event
    · rw [List.take_append_of_le_length hle]
      exact h.isEnabled i

/-- **Nothing that is typed switches suggestions off**, if at every moment no two verbs share a
preposition. Lines are understood or misread by no fault of the vocabulary, whatever else its words
have in common. -/
theorem run_staysOn (world : World) (limit : Limit) (events : List Event)
    (hown : ∀ i, (run { world, limit } (events.take i)).1.world.HasOwnPrepositions) :
    StaysOn { world, limit } events := by
  induction events using List.reverseRecOn with
  | nil =>
    refine ⟨?_, ?_, fun i => ?_⟩
    · rintro i spelling ⟨event, line, hevent, -⟩
      exact absurd hevent (by simp)
    · exact fun entry hentry => absurd hentry List.not_mem_nil
    · rw [List.take_nil]
      rfl
  | append_singleton events event ih =>
    -- the moments before the last event are those of the run without it
    have hbefore : ∀ i, (run { world, limit } (events.take i)).1.world.HasOwnPrepositions := by
      intro i
      rcases Nat.le_total i events.length with hle | hle
      · rw [← List.take_append_of_le_length hle]
        exact hown i
      · have hall := hown events.length
        rw [List.take_left] at hall
        rwa [List.take_of_length_le hle]
    refine (ih hbefore).concat ?_ event
    have hlast := hbefore events.length
    rwa [List.take_length] at hlast

/-- A world full of words that look like prepositions: on is also a verb, a name and an adjective,
it is declared twice and begins a longer preposition. -/
def manyOn : World :=
  let world := (World.addVerb {} { spelling := "look".toList, prepositions :=
    ["on".toList, "ON".toList, "on top of".toList] }).1
  let world := (world.addVerb { spelling := "switch".toList, synonyms := ["on".toList] }).1
  let world := (world.addNoun { names := "on button".toList, adjectives := ["on".toList] }).1
  (world.addNoun { names := "shelf".toList, adjectives := ["on top of".toList] }).1

/-- The same world with another verb that has a preposition. -/
def manyOnAndAt : World :=
  (manyOn.addVerb { spelling := "throw".toList, prepositions := ["at".toList] }).1

/-- Looking on something keeps suggestions on, also when there is another verb with a preposition.
-/
theorem staysOn_look_on :
    manyOn.HasOwnPrepositions ∧ StaysOn { world := manyOn, limit := .whole 5 }
      [.addVerb { spelling := "throw".toList, prepositions := ["at".toList] },
        .suggest "look on top of on ".toList none] := by
  have hown : manyOn.HasOwnPrepositions := by decide +kernel
  have hownAt : manyOnAndAt.HasOwnPrepositions := by decide +kernel
  refine ⟨hown, run_staysOn manyOn (.whole 5) _ fun i => ?_⟩
  rcases i with _ | _ | i
  · exact hown
  · exact hownAt
  · -- a line that is suggested does not change the world
    rw [List.take_of_length_le (by simp)]
    have hworld : ∀ (session : Session) (line : Line),
        (session.suggest line).1.world = session.world := by
      intro session line
      have hpass := session.passes_suggest line
      generalize session.suggest line = result at hpass
      cases hpass <;> rfl
    exact (congrArg World.HasOwnPrepositions (hworld _ _)).mpr hownAt

end CommandPrompt.Session
