import CommandPrompt.Proofs.Context.Reading
import CommandPrompt.Proofs.Session.Log

/-!
# Requests

Of all requests only the latest is ever answered (`Session.run_coalesces`). Whatever is done with a
session, and in whatever order, it waits for a refresh just if a request was made that nothing
settled, and the refresh then answers the last request made, in the words that suggesting its line
would be answered with. A refresh settles what it answers, so no request is answered twice. What the
session remembers as its latest answer is the last one that it gave since it was closed.

What one step does to the request that waits and to the latest answer is told by the entry that the
step writes into the log (`Session.steps_step`), so over a run both are the latest of their kind in
the log (`Session.pending_run`, `Session.last_run`). Steps keep the session in order
(`Session.IsSound`): its world is built, and the number of suggestions is a whole number. In such a
session every line has an answer (`Session.exists_suggest_eq`).
-/

namespace CommandPrompt.Session

/-! ### Sessions in order -/

/-- A session in which every line has an answer. -/
structure IsSound (session : Session) : Prop where
  built : session.world.Built
  whole : ∃ n, session.limit = .whole n

/-- Nothing but a misreading can come in the way of a context. -/
theorem exists_judge_eq_ok {session : Session} (h : session.IsSound) (line : Line) :
    ∃ outcome isEnabled, session.judge line = .ok (outcome, isEnabled) := by
  obtain ⟨n, hlimit⟩ := h.whole
  have hsound := h.built.sound
  rw [judge, hlimit, catalog]
  split
  · exact ⟨_, _, rfl⟩
  · cases hread : Context.readGroups (Catalog.ofWorld session.world)
      (Context.settledPart line.clean) with
    | error misreading =>
      rw [Context.ofLine_of_error .double n line hread]
      exact ⟨_, _, rfl⟩
    | ok groups =>
      obtain ⟨context, hcontext, -⟩ := Context.exists_ofLine_of_ok hsound .double n line hread
      rw [hcontext]
      exact ⟨_, _, rfl⟩

/-- **Every line has an answer**, which the session remembers. -/
theorem exists_suggest_eq {session : Session} (h : session.IsSound) (line : Line) :
    ∃ answer isEnabled, session.suggest line =
      ({ session with isEnabled, last := some answer }, .ok answer) := by
  obtain ⟨outcome, isEnabled, hjudge⟩ := exists_judge_eq_ok h line
  refine ⟨⟨line.clean, outcome⟩, isEnabled, ?_⟩
  rw [suggest, hjudge]

/-- A refresh with nothing to answer does nothing. -/
theorem refresh_of_none {session : Session} (hpending : session.pending = none) :
    session.refresh = (session, .ok none) := by
  rw [refresh, hpending]

/-- **A refresh answers the request** as suggesting its line would be answered, and forgets it. -/
theorem exists_refresh_eq {session : Session} (h : session.IsSound) {line : Line}
    (hpending : session.pending = some line) :
    ∃ answer isEnabled,
      session.suggest line = ({ session with isEnabled, last := some answer }, .ok answer) ∧
      session.refresh =
        ({ session with isEnabled, pending := none, last := some answer }, .ok (some answer)) := by
  obtain ⟨outcome, isEnabled, hjudge⟩ := exists_judge_eq_ok h line
  -- judging a line does not look at the request, so forgetting it first changes nothing
  have hjudge' : ({ session with pending := none } : Session).judge line =
      .ok (outcome, isEnabled) := hjudge
  refine ⟨⟨line.clean, outcome⟩, isEnabled, ?_, ?_⟩
  · rw [suggest, hjudge]
  · rw [refresh, hpending]
    dsimp only
    rw [suggest, hjudge']
    rfl

/-! ### What a step does -/

/-- The entry that an event writes into the log. -/
def entry (session : Session) (event : Event) : Entry := ⟨event, (session.step event).2⟩

/-- **What a step does**, told by the entry that it writes. A new request takes the place of the one
that waits, and what settles requests clears it; a new answer takes the place of the latest, and
closing clears it. -/
structure Steps (session : Session) (entry : Entry) (session' : Session) : Prop where
  sound : session'.IsSound
  pending : session'.pending =
    (entry.request?.map fun (text, caret) => Line.withCaret text caret).or
      (if entry.settles then none else session.pending)
  last : session'.last = entry.answer?.or (if entry.closes then none else session.last)

theorem steps_step {session : Session} (h : session.IsSound) (event : Event) :
    Steps session (session.entry event) (session.step event).1 := by
  obtain ⟨hbuilt, hwhole⟩ := h
  cases event with
  | suggest text caret =>
    obtain ⟨answer, isEnabled, hsuggest⟩ :=
      exists_suggest_eq ⟨hbuilt, hwhole⟩ (Line.withCaret text caret)
    rw [entry, step, hsuggest]
    exact ⟨⟨hbuilt, hwhole⟩, rfl, rfl⟩
  | refresh =>
    cases hpending : session.pending with
    | none =>
      rw [entry, step, refresh_of_none hpending]
      exact ⟨⟨hbuilt, hwhole⟩, rfl, rfl⟩
    | some line =>
      obtain ⟨answer, isEnabled, -, hrefresh⟩ := exists_refresh_eq ⟨hbuilt, hwhole⟩ hpending
      rw [entry, step, hrefresh]
      exact ⟨⟨hbuilt, hwhole⟩, rfl, rfl⟩
  | request text caret => exact ⟨⟨hbuilt, hwhole⟩, rfl, rfl⟩
  | close => exact ⟨⟨hbuilt, hwhole⟩, rfl, rfl⟩
  | leave => exact ⟨⟨hbuilt, hwhole⟩, rfl, rfl⟩
  | addVerb draft => exact ⟨⟨hbuilt.addVerb draft, hwhole⟩, rfl, rfl⟩
  | addNoun draft => exact ⟨⟨hbuilt.addNoun draft, hwhole⟩, rfl, rfl⟩

/-! ### What a run does -/

section Run

variable {session : Session} (h : session.IsSound)
include h

theorem isSound_run (events : List Event) : (session.run events).1.IsSound := by
  induction events using List.reverseRecOn with
  | nil => exact h
  | append_singleton events event ih =>
    rw [run_concat]
    exact (steps_step ih event).sound

/-- **The request that waits** is the latest that was not settled. -/
theorem pending_run (hpending : session.pending = none) (events : List Event) :
    (session.run events).1.pending =
      (latest Entry.request? Entry.settles (session.run events).2).map
        fun (text, caret) => Line.withCaret text caret := by
  induction events using List.reverseRecOn with
  | nil => exact hpending
  | append_singleton events event ih =>
    rw [run_concat]
    dsimp only
    rw [(steps_step (isSound_run h events) event).pending, latest_concat, ih, entry]
    cases Entry.request? ⟨event, ((session.run events).1.step event).2⟩ with
    | some request => rfl
    | none =>
      rw [Option.map_none, Option.none_or, Option.none_or]
      split <;> rfl

/-- **The answer that is remembered** is the latest since the session was closed. -/
theorem last_run (hlast : session.last = none) (events : List Event) :
    (session.run events).1.last =
      latest Entry.answer? Entry.closes (session.run events).2 := by
  induction events using List.reverseRecOn with
  | nil => exact hlast
  | append_singleton events event ih =>
    rw [run_concat]
    dsimp only
    rw [(steps_step (isSound_run h events) event).last, latest_concat, ih, entry]

end Run

/-! ### Requests in a log -/

section Log

variable (log : List Entry)

/-- Whether a line was requested at a place of the log, and no request was settled since. -/
def RequestedAt (i : Nat) (text : Text) (caret : Option Int) : Prop :=
  StandsAt (·.request? = some (text, caret)) (·.settles = true) log i

/-- Whether a line was requested at a place of the log, and no request was settled or made since. -/
def WaitsAt (i : Nat) (text : Text) (caret : Option Int) : Prop :=
  StandsAt (·.request? = some (text, caret))
    (fun e => e.settles = true ∨ e.request? ≠ none) log i

/-- Whether an answer was given at a place of the log, and since then the session was not closed and
gave no other. -/
def AnsweredAt (i : Nat) (answer : Answer) : Prop :=
  StandsAt (·.answer? = some answer) (fun e => e.closes = true ∨ e.answer? ≠ none) log i

/-- Whether the request at a place of the log was computed by the refresh at another: it waited when
the refresh came, and the refresh gave an answer. -/
def ComputedBy (i k : Nat) : Prop :=
  (∃ text caret, WaitsAt (log.take k) i text caret) ∧
    ∃ answer, log[k]? = some ⟨.refresh, .refreshed (.ok (some answer))⟩

/-- What becomes of the requests that a log tells of. -/
structure Coalesces (session : Session) : Prop where
  /-- A refresh has nothing to answer just if no request was made since the last was settled. -/
  refresh_none_iff : (session.step .refresh).2 = .refreshed (.ok none) ↔
    ¬∃ i text caret, RequestedAt log i text caret
  /-- Otherwise it answers the last one made, as suggesting its line would be answered. -/
  refresh_eq_suggest : ∀ i text caret, WaitsAt log i text caret →
    ∃ answer, (session.step (.suggest text caret)).2 = .answered (.ok answer) ∧
      (session.step .refresh).2 = .refreshed (.ok (some answer))
  /-- Every refresh that gave an answer computed a request. -/
  exists_computedBy : ∀ k answer, log[k]? = some ⟨.refresh, .refreshed (.ok (some answer))⟩ →
    ∃ i, ComputedBy log i k
  /-- No request is computed twice. -/
  computed_once : ∀ i k k', ComputedBy log i k → ComputedBy log i k' → k = k'
  needsRefresh_iff : session.needsRefresh = true ↔ ∃ i text caret, RequestedAt log i text caret
  /-- Suggesting neither uses nor changes the request that waits. -/
  pending_suggest : ∀ text caret,
    (session.step (.suggest text caret)).1.pending = session.pending
  last_iff : ∀ answer, session.last = some answer ↔ ∃ i, AnsweredAt log i answer

end Log

section Log

variable {log : List Entry}

theorem latest_request?_eq_some_iff {text : Text} {caret : Option Int} :
    latest Entry.request? Entry.settles log = some (text, caret) ↔
      ∃ i, WaitsAt log i text caret := latest_eq_some_iff log (text, caret)

theorem latest_request?_ne_none_iff :
    latest Entry.request? Entry.settles log ≠ none ↔
      ∃ i text caret, RequestedAt log i text caret := by
  rw [latest_ne_none_iff]
  refine exists_congr fun i => ?_
  constructor
  · rintro ⟨⟨entry, hentry, hrequest⟩, hkept⟩
    obtain ⟨⟨text, caret⟩, hrequest⟩ := Option.ne_none_iff_exists'.mp hrequest
    exact ⟨text, caret, ⟨entry, hentry, hrequest⟩, hkept⟩
  · rintro ⟨text, caret, ⟨entry, hentry, hrequest⟩, hkept⟩
    exact ⟨⟨entry, hentry, Option.ne_none_iff_exists'.mpr ⟨_, hrequest⟩⟩, hkept⟩

/-- A refresh with an answer settles every request before it, so none of them waits behind it. -/
theorem ComputedBy.not_lt {i k k' : Nat} (h : ComputedBy log i k) (h' : ComputedBy log i k') :
    ¬k < k' := by
  intro hlt
  obtain ⟨⟨text, caret, hwaits⟩, answer, hk⟩ := h
  obtain ⟨⟨text', caret', hwaits'⟩, -⟩ := h'
  -- the request stands before the first of the two refreshes
  have hik : i < k := by
    have hlength := hwaits.lt_length
    rw [List.length_take] at hlength
    omega
  have htake : (log.take k')[k]? = some ⟨.refresh, .refreshed (.ok (some answer))⟩ := by
    rw [List.getElem?_take_of_lt hlt]
    exact hk
  exact hwaits'.2 k _ hik htake (Or.inl rfl)

end Log

/-! ### Every run -/

section Run

variable {session : Session} (h : session.IsSound) (hpending : session.pending = none)
include h hpending

/-- **Every refresh with an answer computed a request** of the run. -/
theorem exists_computedBy_run (events : List Event) {k : Nat} {answer : Answer}
    (hk : (session.run events).2[k]? = some ⟨.refresh, .refreshed (.ok (some answer))⟩) :
    ∃ i, ComputedBy (session.run events).2 i k := by
  induction events using List.reverseRecOn with
  | nil => exact absurd hk (by simp)
  | append_singleton events event ih =>
    rw [run_concat] at hk ⊢
    dsimp only at hk ⊢
    rcases getElem?_concat_eq_some_iff.mp hk with hk' | ⟨rfl, hentry⟩
    · -- the log before the refresh is the same for the longer run
      obtain ⟨i, ⟨text, caret, hwaits⟩, -⟩ := ih hk'
      have hlt := (List.getElem?_eq_some_iff.mp hk').1
      refine ⟨i, ⟨text, caret, ?_⟩, answer, hk⟩
      rw [List.take_append_of_le_length (Nat.le_of_lt hlt)]
      exact hwaits
    · obtain ⟨rfl, hreply⟩ := Entry.mk.inj hentry
      -- a session with no request would have had nothing to answer
      have hsome : latest Entry.request? Entry.settles (session.run events).2 ≠ none := by
        intro hnone
        have hnothing := pending_run h hpending events
        rw [hnone, Option.map_none] at hnothing
        rw [step, refresh_of_none hnothing] at hreply
        exact absurd hreply (by simp)
      obtain ⟨⟨text, caret⟩, hlatest⟩ := Option.ne_none_iff_exists'.mp hsome
      obtain ⟨i, hwaits⟩ := latest_request?_eq_some_iff.mp hlatest
      refine ⟨i, ⟨text, caret, ?_⟩, answer, hk⟩
      rw [List.take_left]
      exact hwaits

end Run

/-- **Requests are coalesced.** Whatever is done with a new session, its requests come to what the
log says. -/
theorem run_coalesces {world : World} (hbuilt : world.Built) (limit : Int) (events : List Event) :
    let new : Session := { world, limit := .whole limit }
    Coalesces (new.run events).2 (new.run events).1 := by
  intro new
  have hnew : new.IsSound := ⟨hbuilt, limit, rfl⟩
  have hsound := isSound_run hnew events
  have hpending := pending_run hnew rfl events
  -- the request that waits is there just if the log has one that was not settled
  have hwaiting : (new.run events).1.pending ≠ none ↔
      ∃ i text caret, RequestedAt (new.run events).2 i text caret := by
    rw [hpending, Ne, Option.map_eq_none_iff]
    exact latest_request?_ne_none_iff
  constructor
  case refresh_none_iff =>
    rw [← hwaiting, not_not]
    cases hcase : (new.run events).1.pending with
    | none =>
      rw [step, refresh_of_none hcase]
      exact iff_of_true rfl rfl
    | some line =>
      obtain ⟨answer, isEnabled, -, hrefresh⟩ := exists_refresh_eq hsound hcase
      rw [step, hrefresh]
      exact iff_of_false (by simp) (by simp)
  case refresh_eq_suggest =>
    intro i text caret hwaits
    have hlatest := latest_request?_eq_some_iff.mpr ⟨i, hwaits⟩
    rw [hlatest] at hpending
    obtain ⟨answer, isEnabled, hsuggest, hrefresh⟩ := exists_refresh_eq hsound hpending
    refine ⟨answer, ?_, ?_⟩
    · rw [step, hsuggest]
    · rw [step, hrefresh]
  case exists_computedBy =>
    intro k answer hk
    exact exists_computedBy_run hnew rfl events hk
  case computed_once =>
    intro i k k' hk hk'
    exact Nat.le_antisymm (Nat.not_lt.mp (hk'.not_lt hk)) (Nat.not_lt.mp (hk.not_lt hk'))
  case needsRefresh_iff =>
    rw [needsRefresh, Option.isSome_iff_ne_none]
    exact hwaiting
  case pending_suggest =>
    intro text caret
    exact (steps_step hsound (.suggest text caret)).pending
  case last_iff =>
    intro answer
    rw [last_run hnew rfl events]
    exact latest_eq_some_iff _ answer

/-- Of two requests the refresh answers the second. -/
theorem exists_refresh_take_red :
    let new : Session := { world := World.oilLamp, limit := .whole 5 }
    let session := (new.run [.request "take lamp ".toList none, .request "take red ".toList none]).1
    ∃ answer, (session.step (.suggest "take red ".toList none)).2 = .answered (.ok answer) ∧
      (session.step .refresh).2 = .refreshed (.ok (some answer)) := by
  intro new session
  have hwaits : WaitsAt (new.run [.request "take lamp ".toList none,
      .request "take red ".toList none]).2 1 "take red ".toList none := by
    refine ⟨⟨_, rfl, rfl⟩, fun j entry hj hentry => ?_⟩
    have hlt : j < 2 := (List.getElem?_eq_some_iff.mp hentry).1
    omega
  exact (run_coalesces World.oilLamp_built 5 _).refresh_eq_suggest 1 _ _ hwaits

end CommandPrompt.Session
