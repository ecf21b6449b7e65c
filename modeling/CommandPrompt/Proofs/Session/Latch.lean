import CommandPrompt.Proofs.Session.Requests

/-!
# Switching suggestions off

A pass over a line can fail in five ways, and one of them is not the player's fault: a word that
stands for two prepositions at once. It switches suggestions off for the rest of the session
(`Session.run_latches`). Whatever is done with a session, its suggestions are off just if some pass
of the run met such a word. Nothing switches them on again, and from then on every line gets a fatal
answer that offers nothing, whatever the line is and whatever became of the world. The other four
misreadings are answered and leave no trace: suggestions stay on, and the world and the request that
waits are what they were.

All of it comes from a single account of what a pass does (`Session.Passes`). Only suggesting a line
and refreshing make a pass (`Session.passLine?`), and a refresh passes over the line that waits as
suggesting it would (`Session.refresh_of_some`). So one step turns suggestions off just if they were
off or its pass met the fatal misreading (`Session.isEnabled_step_eq_false_iff`), and a run is
settled by induction over its events.
-/

namespace CommandPrompt

/-- Whether an answer offers nothing, and there will be no more. -/
def Answer.IsRefusal (answer : Answer) : Prop :=
  answer.isFatal = true ∧ answer.context? = none ∧ answer.suggestions = []

namespace Session

/-! ### One pass -/

/-- **What a pass does.** While suggestions are off nothing is read. Otherwise the answer tells what
came of the line, and only a fatal misreading changes more than the latest answer. -/
inductive Passes (session : Session) (line : Line) :
    Session × Except ArithmeticFault Answer → Prop where
  | disabled (hoff : session.isEnabled = false) :
    Passes session line
      ({ session with last := some ⟨line.clean, .disabled⟩ }, .ok ⟨line.clean, .disabled⟩)
  | understood {context : Context} (hon : session.isEnabled = true)
    (hcontext : Context.ofLine .double session.catalog session.limit line = .ok context) :
    Passes session line
      ({ session with last := some ⟨line.clean, .understood context⟩ },
        .ok ⟨line.clean, .understood context⟩)
  | misread {misreading : Misreading} (hon : session.isEnabled = true)
    (hmisread : Context.ofLine .double session.catalog session.limit line =
      .error (.misread misreading)) :
    Passes session line
      ({ session with
          isEnabled := !misreading.isFatal, last := some ⟨line.clean, .misread misreading⟩ },
        .ok ⟨line.clean, .misread misreading⟩)
  | fault {fault : ArithmeticFault} (hon : session.isEnabled = true)
    (hfault : Context.ofLine .double session.catalog session.limit line =
      .error (.arithmetic fault)) :
    Passes session line (session, .error fault)

theorem passes_suggest (session : Session) (line : Line) :
    session.Passes line (session.suggest line) := by
  -- the session is taken apart, because a pass sets what it was again where nothing changes
  obtain ⟨world, limit, isEnabled, pending, last⟩ := session
  cases isEnabled with
  | false => exact .disabled rfl
  | true =>
    rw [suggest, judge]
    dsimp only
    rw [Bool.not_true, if_neg Bool.false_ne_true]
    cases hcontext : Context.ofLine .double (catalog ⟨world, limit, true, pending, last⟩) limit
      line with
    | ok context => exact .understood rfl hcontext
    | error fault =>
      cases fault with
      | misread misreading => exact .misread rfl hcontext
      | arithmetic fault => exact .fault rfl hcontext

/-- Whether a pass over a line is made and fails with a misreading. -/
def Misreads (session : Session) (line : Line) (misreading : Misreading) : Prop :=
  session.isEnabled = true ∧
    Context.ofLine .double session.catalog session.limit line = .error (.misread misreading)

/-- A pass switches suggestions off by an ambiguous preposition only. -/
theorem isEnabled_suggest_eq_false_iff (session : Session) (line : Line) :
    (session.suggest line).1.isEnabled = false ↔ session.isEnabled = false ∨
      ∃ spelling, session.Misreads line (.ambiguousPreposition spelling) := by
  have hpass := session.passes_suggest line
  generalize session.suggest line = result at hpass
  cases hpass with
  | disabled hoff => exact iff_of_true hoff (Or.inl hoff)
  | understood hon hcontext => simp [Misreads, hon, hcontext]
  | misread hon hmisread =>
    rename_i misreading
    cases misreading <;> simp [Misreads, hon, hmisread, Misreading.isFatal]
  | fault hon hfault => simp [Misreads, hon, hfault]

/-- While suggestions are off, every line gets the same answer. -/
theorem suggest_of_isEnabled_eq_false {session : Session} (hoff : session.isEnabled = false)
    (line : Line) : (session.suggest line).2 = .ok ⟨line.clean, .disabled⟩ := by
  rw [suggest, judge, hoff]
  rfl

theorem isRefusal_disabled (line : Line) : Answer.IsRefusal ⟨line, .disabled⟩ := ⟨rfl, rfl, rfl⟩

/-- **A misreading that is the player's** is answered, and changes nothing but the latest answer. -/
theorem suggest_of_misreads {session : Session} {line : Line} {misreading : Misreading}
    (h : session.Misreads line misreading)
    (hother : ∀ spelling, misreading ≠ .ambiguousPreposition spelling) :
    misreading.isFatal = false ∧
      session.suggest line =
        ({ session with last := some ⟨line.clean, .misread misreading⟩ },
          .ok ⟨line.clean, .misread misreading⟩) := by
  obtain ⟨hon, hmisread⟩ := h
  have hfatal : misreading.isFatal = false := by
    cases misreading with
    | ambiguousPreposition spelling => exact absurd rfl (hother spelling)
    | _ => rfl
  refine ⟨hfatal, ?_⟩
  obtain ⟨world, limit, isEnabled, pending, last⟩ := session
  obtain rfl : isEnabled = true := hon
  rw [suggest, judge]
  dsimp only at hmisread ⊢
  rw [Bool.not_true, if_neg Bool.false_ne_true, hmisread]
  dsimp only
  rw [hfatal]
  rfl

/-- **A refresh passes over the line that waits** as suggesting it would, and forgets it. -/
theorem refresh_of_some {session : Session} {line : Line} (hpending : session.pending = some line) :
    session.refresh =
      ({ (session.suggest line).1 with pending := none }, (session.suggest line).2.map some) := by
  -- judging a line does not look at the request, so forgetting it first changes nothing
  have hjudge : ({ session with pending := none } : Session).judge line = session.judge line := rfl
  rw [refresh, hpending]
  dsimp only
  rw [suggest, suggest, hjudge]
  cases session.judge line <;> rfl

/-! ### The passes of a run -/

/-- The line that an event passes over: the one that is suggested, or for a refresh the one that
waits. -/
def passLine? (session : Session) : Event → Option Line
  | .suggest text caret => some (Line.withCaret text caret)
  | .refresh => session.pending
  | _ => none

/-- Without a pass nothing is answered, and suggestions are what they were. -/
theorem step_of_passLine?_eq_none {session : Session} {event : Event}
    (h : session.passLine? event = none) :
    (session.step event).1.isEnabled = session.isEnabled ∧
      (session.entry event).answer? = none := by
  cases event with
  | suggest text caret => exact absurd h (by simp [passLine?])
  | refresh =>
    rw [entry, step, refresh_of_none h]
    exact ⟨rfl, rfl⟩
  | _ => exact ⟨rfl, rfl⟩

/-- An event with a pass answers what suggesting its line would. -/
theorem step_of_passLine?_eq_some {session : Session} {event : Event} {line : Line}
    (h : session.passLine? event = some line) :
    (session.step event).1.isEnabled = (session.suggest line).1.isEnabled ∧
      (session.entry event).answer? = (session.suggest line).2.toOption := by
  cases event with
  | suggest text caret =>
    obtain rfl := Option.some.inj h
    rw [entry, step]
    refine ⟨rfl, ?_⟩
    cases hanswer : (session.suggest (Line.withCaret text caret)).2 <;>
      simp [Entry.answer?, hanswer, Except.toOption]
  | refresh =>
    rw [entry, step, refresh_of_some h]
    refine ⟨rfl, ?_⟩
    cases hanswer : (session.suggest line).2 <;>
      simp [Entry.answer?, Except.map, Except.toOption]
  | _ => exact absurd h (by simp [passLine?])

/-- **What a step does to suggestions.** -/
theorem isEnabled_step_eq_false_iff (session : Session) (event : Event) :
    (session.step event).1.isEnabled = false ↔ session.isEnabled = false ∨
      ∃ line spelling, session.passLine? event = some line ∧
        session.Misreads line (.ambiguousPreposition spelling) := by
  cases hline : session.passLine? event with
  | none => simp [(step_of_passLine?_eq_none hline).1]
  | some line =>
    rw [(step_of_passLine?_eq_some hline).1, isEnabled_suggest_eq_false_iff]
    simp

/-- Whether the event at a place of a run passes over a line that is misread. -/
def MisreadsAt (session : Session) (events : List Event) (i : Nat) (misreading : Misreading) :
    Prop :=
  ∃ event line, events[i]? = some event ∧
    (session.run (events.take i)).1.passLine? event = some line ∧
    (session.run (events.take i)).1.Misreads line misreading

/-- One event more misreads a line itself, or leaves to the others what they misread. -/
theorem misreadsAt_concat {session : Session} {events : List Event} {event : Event} {i : Nat}
    {misreading : Misreading} :
    session.MisreadsAt (events ++ [event]) i misreading ↔
      session.MisreadsAt events i misreading ∨ i = events.length ∧
        ∃ line, (session.run events).1.passLine? event = some line ∧
          (session.run events).1.Misreads line misreading := by
  constructor
  · rintro ⟨e, line, he, hline, hmisreads⟩
    rcases getElem?_concat_eq_some_iff.mp he with he' | ⟨rfl, rfl⟩
    · have hlt := (List.getElem?_eq_some_iff.mp he').1
      rw [List.take_append_of_le_length hlt.le] at hline hmisreads
      exact Or.inl ⟨e, line, he', hline, hmisreads⟩
    · rw [List.take_left] at hline hmisreads
      exact Or.inr ⟨rfl, line, hline, hmisreads⟩
  · rintro (⟨e, line, he, hline, hmisreads⟩ | ⟨rfl, line, hline, hmisreads⟩)
    · have hlt := (List.getElem?_eq_some_iff.mp he).1
      refine ⟨e, line, getElem?_concat_eq_some_iff.mpr (Or.inl he), ?_⟩
      rw [List.take_append_of_le_length hlt.le]
      exact ⟨hline, hmisreads⟩
    · refine ⟨event, line, getElem?_concat_eq_some_iff.mpr (Or.inr ⟨rfl, rfl⟩), ?_⟩
      rw [List.take_left]
      exact ⟨hline, hmisreads⟩

/-- **Suggestions are off** just if they were off from the start or some pass of the run met an
ambiguous preposition. -/
theorem isEnabled_run_eq_false_iff (session : Session) (events : List Event) :
    (session.run events).1.isEnabled = false ↔ session.isEnabled = false ∨
      ∃ i spelling, session.MisreadsAt events i (.ambiguousPreposition spelling) := by
  induction events using List.reverseRecOn with
  | nil => simp [MisreadsAt]
  | append_singleton events event ih =>
    rw [run_concat]
    dsimp only
    rw [isEnabled_step_eq_false_iff, ih, or_assoc]
    refine or_congr_right ?_
    -- the last event adds its own pass to those of the events before it
    simp only [misreadsAt_concat]
    constructor
    · rintro (⟨i, spelling, hat⟩ | ⟨line, spelling, hline, hmisreads⟩)
      · exact ⟨i, spelling, Or.inl hat⟩
      · exact ⟨events.length, spelling, Or.inr ⟨rfl, line, hline, hmisreads⟩⟩
    · rintro ⟨i, spelling, hat | ⟨-, line, hline, hmisreads⟩⟩
      · exact Or.inl ⟨i, spelling, hat⟩
      · exact Or.inr ⟨line, spelling, hline, hmisreads⟩

/-! ### The latch -/

/-- What a session does when it offers nothing any more: it refuses every line, and every request
that waits. -/
structure RefusesAll (session : Session) : Prop where
  suggest : ∀ text caret, ∃ answer : Answer,
    (session.step (.suggest text caret)).2 = .answered (.ok answer) ∧ answer.IsRefusal
  refresh : session.needsRefresh = true → ∃ answer : Answer,
    (session.step .refresh).2 = .refreshed (.ok (some answer)) ∧ answer.IsRefusal

theorem refusesAll_of_isEnabled_eq_false {session : Session} (hoff : session.isEnabled = false) :
    session.RefusesAll := by
  refine ⟨fun text caret => ?_, fun hneeds => ?_⟩
  · have hanswer := suggest_of_isEnabled_eq_false hoff (Line.withCaret text caret)
    exact ⟨_, congrArg Reply.answered hanswer, isRefusal_disabled _⟩
  · obtain ⟨line, hpending⟩ := Option.isSome_iff_exists.mp hneeds
    refine ⟨_, ?_, isRefusal_disabled line.clean⟩
    rw [step, refresh_of_some hpending, suggest_of_isEnabled_eq_false hoff line]
    rfl

/-- What a session makes of misreadings from here on. -/
structure Latches (session : Session) : Prop where
  /-- Nothing switches suggestions on again. -/
  stays_off : session.isEnabled = false → ∀ events, (session.run events).1.isEnabled = false
  /-- Once suggestions are off everything is refused, in whatever world. -/
  refuses : session.isEnabled = false → ∀ events (world : World),
    RefusesAll { (session.run events).1 with world }
  /-- The other misreadings get an answer that is not fatal and change nothing but the latest
  answer. A refresh has forgotten its request by then, as it always does. -/
  misread : ∀ line misreading, session.Misreads line misreading →
    (∀ spelling, misreading ≠ .ambiguousPreposition spelling) → ∃ answer : Answer,
      answer.outcome = .misread misreading ∧ answer.isFatal = false ∧
        session.suggest line = ({ session with last := some answer }, .ok answer) ∧
        (session.pending = some line → session.refresh =
          ({ session with pending := none, last := some answer }, .ok (some answer)))

theorem latches (session : Session) : session.Latches := by
  have hstays : session.isEnabled = false →
      ∀ events, (session.run events).1.isEnabled = false :=
    fun hoff events => (isEnabled_run_eq_false_iff session events).mpr (Or.inl hoff)
  refine ⟨hstays, fun hoff events world => ?_, fun line misreading hmisreads hother => ?_⟩
  · -- the world is not what suggestions depend on
    exact refusesAll_of_isEnabled_eq_false (hstays hoff events)
  · obtain ⟨hfatal, hsuggest⟩ := suggest_of_misreads hmisreads hother
    refine ⟨⟨line.clean, .misread misreading⟩, rfl, hfatal, hsuggest, fun hpending => ?_⟩
    rw [refresh_of_some hpending, hsuggest]
    rfl

/-- **An ambiguous preposition switches suggestions off for good.** Whatever was done with a new
session, suggestions are off just if some pass met one; and whether they are on or off, the session
makes of misreadings what a latch does. -/
theorem run_latches (world : World) (limit : Limit) (events : List Event) :
    let new : Session := { world, limit }
    ((new.run events).1.isEnabled = false ↔
        ∃ i spelling, new.MisreadsAt events i (.ambiguousPreposition spelling)) ∧
      (new.run events).1.Latches := by
  intro new
  refine ⟨?_, latches _⟩
  rw [isEnabled_run_eq_false_iff]
  exact or_iff_right (by simp [new])

/-- A world where two verbs lead to their objects by the same preposition. -/
def twoAt : World :=
  let world := (World.addVerb {}
    { spelling := "look".toList, prepositions := ["at".toList] }).1
  let world := (world.addVerb { spelling := "throw".toList, prepositions := ["at".toList] }).1
  (world.addNoun { names := "wall".toList }).1

/-- After one line with the shared preposition, a line that is in order is refused, although the
session was closed in between. -/
theorem isRefusal_look_wall :
    let new : Session := { world := twoAt, limit := .whole 3 }
    let session := (new.run [.suggest "look at ".toList none]).1
    session.isEnabled = false ∧ ∃ answer : Answer,
      ((session.run [.close]).1.step (.suggest "look wall ".toList none)).2 =
        .answered (.ok answer) ∧ answer.IsRefusal := by
  intro new session
  have hread : Context.readGroups (Catalog.ofWorld twoAt)
      (Context.settledPart (Line.withCaret "look at ".toList none).clean) =
        .error (.ambiguousPreposition "at".toList) := by
    rw [Context.readGroups, Catalog.words_ofWorld, World.vocabulary, Word.sort_eq_insertionSort]
    decide +kernel
  have hmisreads : new.MisreadsAt [.suggest "look at ".toList none] 0
      (.ambiguousPreposition "at".toList) :=
    ⟨_, _, rfl, rfl, rfl, Context.ofLine_of_error .double 3 _ hread⟩
  have hoff : session.isEnabled = false :=
    (run_latches twoAt (.whole 3) _).1.mpr ⟨0, _, hmisreads⟩
  exact ⟨hoff, ((run_latches twoAt (.whole 3) _).2.refuses hoff [.close] _).suggest _ _⟩

end Session

end CommandPrompt
