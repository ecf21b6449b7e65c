import CommandPrompt.Context

/-!
# Sessions

A session gives suggestions for one prompt. It answers a line at once, or keeps the latest request
until it is asked to refresh; earlier requests are forgotten. When the vocabulary turns out to be at
fault, suggestions are switched off for the rest of the session.
-/

namespace CommandPrompt

/-- What came of a line. -/
inductive Outcome where
  /-- The line was understood. -/
  | understood (context : Context)
  /-- The settled words make no command. -/
  | misread (misreading : Misreading)
  /-- Suggestions were switched off before. -/
  | disabled
  deriving DecidableEq

/-- The answer to a line: the clean line, and what came of it. -/
structure Answer where
  line : Line
  outcome : Outcome
  deriving DecidableEq

namespace Answer

/-- The context of the line, if it was understood. -/
def context? (answer : Answer) : Option Context :=
  match answer.outcome with
  | .understood context => some context
  | _ => none

/-- Whether the line was understood. -/
def isOk (answer : Answer) : Bool := answer.context?.isSome

/-- Why the line was not understood, in words. -/
def error? (answer : Answer) : Option String :=
  match answer.outcome with
  | .understood _ => none
  | .misread misreading => some misreading.message
  | .disabled => some "Suggestions are disabled for this session."

/-- Whether there will be no suggestions any more. -/
def isFatal (answer : Answer) : Bool :=
  match answer.outcome with
  | .understood _ => false
  | .misread misreading => misreading.isFatal
  | .disabled => true

/-- The suggestions for the line; none if it was not understood. -/
def suggestions (answer : Answer) : List Suggestion :=
  match answer.context? with
  | some context => context.suggestions
  | none => []

end Answer

/-- A prompt that is in use. -/
structure Session where
  world : World
  limit : Limit
  isEnabled : Bool := true
  /-- The latest request that was not answered yet. -/
  pending : Option Line := none
  /-- The latest answer. -/
  last : Option Answer := none
  deriving DecidableEq

namespace Session

/-- The catalog of the world as it is now. -/
def catalog (session : Session) : Catalog := Catalog.ofWorld session.world

/-- Works out what comes of a line, and whether suggestions stay on. -/
def judge (session : Session) (line : Line) : Except ArithmeticFault (Outcome × Bool) :=
  if !session.isEnabled then .ok (.disabled, false)
  else match Context.ofLine .double session.catalog session.limit line with
    | .ok context => .ok (.understood context, true)
    | .error (.misread misreading) => .ok (.misread misreading, !misreading.isFatal)
    | .error (.arithmetic fault) => .error fault

/-- Answers a line and keeps the answer. -/
def suggest (session : Session) (line : Line) : Session × Except ArithmeticFault Answer :=
  match session.judge line with
  | .ok (outcome, isEnabled) =>
    let answer := ⟨line.clean, outcome⟩
    ({ session with isEnabled, last := some answer }, .ok answer)
  | .error fault => (session, .error fault)

/-- Keeps a line to be answered by the next refresh. -/
def request (session : Session) (line : Line) : Session := { session with pending := some line }

/-- Whether a request waits for an answer. -/
def needsRefresh (session : Session) : Bool := session.pending.isSome

/-- Answers the latest request, if there is one that was not answered yet. -/
def refresh (session : Session) : Session × Except ArithmeticFault (Option Answer) :=
  match session.pending with
  | none => (session, .ok none)
  | some line =>
    -- The request is forgotten first, whatever comes of it.
    let (session, answer) := { session with pending := none }.suggest line
    (session, answer.map some)

/-- Forgets the request and the latest answer. -/
def close (session : Session) : Session := { session with pending := none, last := none }

/-- Adds a verb to the world. -/
def addVerb (session : Session) (draft : VerbDraft) : Session × Except Refusal Verb :=
  let (world, result) := session.world.addVerb draft
  ({ session with world }, result)

/-- Adds a noun to the world. -/
def addNoun (session : Session) (draft : NounDraft) : Session × Except Refusal Noun :=
  let (world, result) := session.world.addNoun draft
  ({ session with world }, result)

end Session

end CommandPrompt
