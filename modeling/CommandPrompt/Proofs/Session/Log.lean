import CommandPrompt.Session
import Mathlib.Data.List.Basic
import Mathlib.Data.List.Induction

/-!
# Sessions in use

What is done with a session is a list of events, which may come in any order. A run takes a session
through them and writes a log, in which every event stands with the reply it got (`Session.run`).
What holds of a session after any run is then said in terms of its log.

Most of it is of one form: something happened at a place of the log, and nothing behind that place
undid it (`StandsAt`). A session does not keep its log, but only the latest thing of a kind that was
not undone (`latest`). That the two agree is a fact about lists alone (`latest_eq_some_iff`,
`latest_ne_none_iff`), because both can be told from the last entry and the entries before it.
-/

namespace CommandPrompt

/-! ### What stands in a log -/

section StandsAt

variable {α β : Type}

/-- Whether something happened at a place of a list and nothing behind that place undid it. -/
def StandsAt (happened undoes : α → Prop) (log : List α) (i : Nat) : Prop :=
  (∃ entry, log[i]? = some entry ∧ happened entry) ∧
    ∀ j entry, i < j → log[j]? = some entry → ¬undoes entry

variable {happened undoes : α → Prop} {log : List α}

theorem StandsAt.lt_length {i : Nat} (h : StandsAt happened undoes log i) : i < log.length := by
  obtain ⟨⟨entry, hentry, -⟩, -⟩ := h
  exact (List.getElem?_eq_some_iff.mp hentry).1

theorem not_standsAt_nil (i : Nat) : ¬StandsAt happened undoes [] i := by
  intro h
  exact absurd h.lt_length (Nat.not_lt_zero i)

/-- What stands at a place after one entry more. -/
theorem getElem?_concat_eq_some_iff {entry e : α} {i : Nat} :
    (log ++ [entry])[i]? = some e ↔ log[i]? = some e ∨ i = log.length ∧ e = entry := by
  rcases Nat.lt_trichotomy i log.length with hlt | rfl | hgt
  · rw [List.getElem?_append_left hlt]
    exact ⟨Or.inl, fun h => h.resolve_right fun heq => absurd heq.1 (Nat.ne_of_lt hlt)⟩
  · rw [List.getElem?_concat_length, List.getElem?_eq_none (Nat.le_refl _)]
    simp [eq_comm]
  · have hnone : log[i]? = none := List.getElem?_eq_none (Nat.le_of_lt hgt)
    have hnone' : (log ++ [entry])[i]? = none := by
      rw [List.getElem?_eq_none_iff, List.length_append, List.length_singleton]
      omega
    rw [hnone, hnone']
    exact iff_of_false (by simp) fun h => h.elim (by simp) fun heq => absurd heq.1 (by omega)

/-- **One entry more** stands itself, or leaves standing what it does not undo. -/
theorem standsAt_concat {entry : α} {i : Nat} :
    StandsAt happened undoes (log ++ [entry]) i ↔
      i = log.length ∧ happened entry ∨ StandsAt happened undoes log i ∧ ¬undoes entry := by
  constructor
  · rintro ⟨⟨e, he, hhappened⟩, hkept⟩
    rcases getElem?_concat_eq_some_iff.mp he with he | ⟨rfl, rfl⟩
    · have hlt := (List.getElem?_eq_some_iff.mp he).1
      refine Or.inr ⟨⟨⟨e, he, hhappened⟩, fun j e' hj he' => ?_⟩, ?_⟩
      · exact hkept j e' hj (getElem?_concat_eq_some_iff.mpr (Or.inl he'))
      · exact hkept log.length entry hlt (getElem?_concat_eq_some_iff.mpr (Or.inr ⟨rfl, rfl⟩))
    · exact Or.inl ⟨rfl, hhappened⟩
  · rintro (⟨rfl, hhappened⟩ | ⟨h, hnot⟩)
    · refine ⟨⟨entry, getElem?_concat_eq_some_iff.mpr (Or.inr ⟨rfl, rfl⟩), hhappened⟩, ?_⟩
      -- nothing stands behind the last entry
      intro j e hj he
      have hlt := (List.getElem?_eq_some_iff.mp he).1
      rw [List.length_append, List.length_singleton] at hlt
      omega
    · obtain ⟨⟨e, he, hhappened⟩, hkept⟩ := h
      refine ⟨⟨e, getElem?_concat_eq_some_iff.mpr (Or.inl he), hhappened⟩, ?_⟩
      intro j e' hj he'
      rcases getElem?_concat_eq_some_iff.mp he' with he' | ⟨-, rfl⟩
      · exact hkept j e' hj he'
      · exact hnot

/-- The latest thing of a kind that was not undone. -/
def latest (found? : α → Option β) (undoes : α → Bool) (log : List α) : Option β :=
  log.foldl (fun current entry => (found? entry).or (if undoes entry then none else current)) none

variable {found? : α → Option β} {undoes : α → Bool}

theorem latest_concat (log : List α) (entry : α) :
    latest found? undoes (log ++ [entry]) =
      (found? entry).or (if undoes entry then none else latest found? undoes log) := by
  rw [latest, List.foldl_append]
  rfl

/-- **The latest thing** is what happened at some place, with nothing of its kind behind it and
nothing that undoes it. -/
theorem latest_eq_some_iff (log : List α) (b : β) :
    latest found? undoes log = some b ↔
      ∃ i, StandsAt (found? · = some b) (fun e => undoes e = true ∨ found? e ≠ none) log i := by
  -- both sides are told by the last entry and what the entries before it left
  induction log using List.reverseRecOn with
  | nil =>
    refine iff_of_false (by simp [latest]) ?_
    rintro ⟨i, h⟩
    exact not_standsAt_nil i h
  | append_singleton log entry ih =>
    rw [latest_concat]
    simp only [standsAt_concat]
    cases hfound : found? entry with
    | some b' =>
      -- the entry is the latest itself, and undoes what was found before
      rw [Option.some_or, Option.some.injEq]
      constructor
      · rintro rfl
        exact ⟨log.length, Or.inl ⟨rfl, rfl⟩⟩
      · rintro ⟨i, ⟨-, heq⟩ | ⟨-, hnot⟩⟩
        · exact heq
        · exact absurd (Or.inr (by simp)) hnot
    | none =>
      rw [Option.none_or]
      cases hundoes : undoes entry with
      | true =>
        rw [if_pos rfl]
        refine iff_of_false (by simp) ?_
        rintro ⟨i, ⟨-, heq⟩ | ⟨-, hnot⟩⟩
        · exact absurd heq (by simp)
        · exact hnot (Or.inl rfl)
      | false =>
        rw [if_neg Bool.false_ne_true, ih]
        simp

/-- There is a latest thing just if one happened that was not undone, whatever of its kind came
behind it. -/
theorem latest_ne_none_iff (log : List α) :
    latest found? undoes log ≠ none ↔
      ∃ i, StandsAt (found? · ≠ none) (undoes · = true) log i := by
  induction log using List.reverseRecOn with
  | nil =>
    refine iff_of_false (by simp [latest]) ?_
    rintro ⟨i, h⟩
    exact not_standsAt_nil i h
  | append_singleton log entry ih =>
    rw [latest_concat]
    simp only [standsAt_concat]
    cases hfound : found? entry with
    | some b =>
      refine iff_of_true (by simp) ?_
      exact ⟨log.length, Or.inl ⟨rfl, by simp⟩⟩
    | none =>
      rw [Option.none_or]
      cases hundoes : undoes entry with
      | true => simp
      | false =>
        rw [if_neg Bool.false_ne_true, ih]
        simp

end StandsAt

/-! ### Events and replies -/

namespace Session

/-- What can be done with a session. -/
inductive Event where
  /-- A line is to be answered at once. Without a caret, the caret is behind the last character. -/
  | suggest (text : Text) (caret : Option Int)
  /-- A line is to be answered by the next refresh. -/
  | request (text : Text) (caret : Option Int)
  | refresh
  | close
  /-- The block that uses the session is left, which closes the session. -/
  | leave
  | addVerb (draft : VerbDraft)
  | addNoun (draft : NounDraft)
  deriving DecidableEq

/-- What an event gives back. -/
inductive Reply where
  | answered (result : Except ArithmeticFault Answer)
  | refreshed (result : Except ArithmeticFault (Option Answer))
  | verb (result : Except Refusal Verb)
  | noun (result : Except Refusal Noun)
  | done

/-- What an event does to a session, and what it gives back. -/
def step (session : Session) : Event → Session × Reply
  | .suggest text caret =>
    let (session, result) := session.suggest (Line.withCaret text caret)
    (session, .answered result)
  | .request text caret => (session.request (Line.withCaret text caret), .done)
  | .refresh =>
    let (session, result) := session.refresh
    (session, .refreshed result)
  | .close => (session.close, .done)
  | .leave => (session.close, .done)
  | .addVerb draft =>
    let (session, result) := session.addVerb draft
    (session, .verb result)
  | .addNoun draft =>
    let (session, result) := session.addNoun draft
    (session, .noun result)

/-- An event in a log, with its reply. -/
structure Entry where
  event : Event
  reply : Reply

/-- Takes a session through events, and writes the log of them. -/
def run (session : Session) (events : List Event) : Session × List Entry :=
  events.foldl (fun (session, log) event =>
    let (session', reply) := session.step event
    (session', log ++ [⟨event, reply⟩])) (session, [])

@[simp] theorem run_nil (session : Session) : session.run [] = (session, []) := rfl

/-- A run takes one step for its last event. -/
theorem run_concat (session : Session) (events : List Event) (event : Event) :
    session.run (events ++ [event]) =
      let (session', log) := session.run events
      ((session'.step event).1, log ++ [⟨event, (session'.step event).2⟩]) := by
  rw [run, List.foldl_append]
  rfl

namespace Entry

/-- The line that was requested, as it was given. -/
def request? (entry : Entry) : Option (Text × Option Int) :=
  match entry.event with
  | .request text caret => some (text, caret)
  | _ => none

/-- The answer that was given. -/
def answer? (entry : Entry) : Option Answer :=
  match entry.reply with
  | .answered (.ok answer) => some answer
  | .refreshed (.ok answer) => answer
  | _ => none

/-- Whether the session was closed. -/
def closes (entry : Entry) : Bool :=
  match entry.event with
  | .close => true
  | .leave => true
  | _ => false

/-- Whether earlier requests are done with: the session was closed, or refreshed with an answer. -/
def settles (entry : Entry) : Bool :=
  match entry.event with
  | .refresh => entry.answer?.isSome
  | _ => entry.closes

end Entry

end Session

end CommandPrompt
