import CommandPrompt.Command.Usage
import CommandPrompt.Json.Printer
import CommandPrompt.Session

/-!
# Reports

How the answer to a line is shown: as lines of text for a reader, or as one JSON object for a
program. Both tell the same; the groups of the command are told only where they are asked for and
the line was understood.
-/

namespace CommandPrompt.Command

/-! ### Lines of text -/

/-- A noun of a phrase on a line. -/
def clusterLine (cluster : Cluster) : Text :=
  "    #".toList ++ (toString cluster.key).toList ++ [' '] ++ cluster.profile.noun.describe ++
    " [".toList ++ cluster.markSigns ++ "] ".toList ++
    (if cluster.isComplete then "complete" else "open").toList

/-- A group on its lines. -/
def groupLines : Group → List Text
  | .nounPhrase clusters => "  noun phrase:".toList :: clusters.map clusterLine
  | group => ["  ".toList ++ group.kind.toList ++ ": ".toList ++
      Text.join ", ".toList (group.words.map Word.spelling)]

/-- The groups of an answer, if they are asked for and there are any. -/
def shownGroups? (withGroups : Bool) (answer : Answer) : Option Context :=
  if withGroups then answer.context? else none

/-- What an answer offers, on its lines. -/
def offerLines (answer : Answer) : List Text :=
  match answer.error? with
  | some error => ["  (no suggestions: ".toList ++ error.toList ++ [')']]
  | none =>
    if answer.suggestions.isEmpty then ["  (no suggestions)".toList]
    else answer.suggestions.map fun suggestion => "  - ".toList ++ suggestion.display

/-- The answer as lines of text. -/
def plainReport (withGroups : Bool) (answer : Answer) : Text :=
  let groups := ((shownGroups? withGroups answer).map Context.groups).getD []
  Text.join ['\n'] (("> ".toList ++ answer.line.text) :: groups.flatMap groupLines ++
    offerLines answer)

/-! ### JSON -/

/-- The number of decimal places of a score. -/
def scorePlaces : Nat := 6

/-- A score as JSON, which has no infinite numbers. -/
def scoreJson : Extended → Json
  | .top => .ofString "inf"
  | .finite q => .decimal (Decimal.ofRat scorePlaces q)
  | .bottom => .infinite true

/-- A suggestion as JSON. -/
def suggestionJson (suggestion : Suggestion) : Json :=
  .ofFields [("text", .string suggestion.text), ("display", .string suggestion.display),
    ("score", scoreJson suggestion.score)]

/-- Texts in order as JSON. -/
def sortedJson (texts : List Text) : Json := .array ((texts.mergeSort Text.le).map .string)

/-- A noun of a phrase as JSON. -/
def clusterJson (cluster : Cluster) : Json :=
  .ofFields [("noun", .string cluster.profile.noun.describe), ("ref_id", .int cluster.key),
    ("marks", .string cluster.markSigns), ("complete", .bool cluster.isComplete),
    ("mentioned", sortedJson (cluster.mentioned.map (·.1))),
    ("unmentioned", sortedJson (cluster.unmentioned.map Word.key))]

/-- A group as JSON. -/
def groupJson : Group → Json
  | .nounPhrase clusters =>
    .ofFields [("kind", .ofString "noun_phrase"), ("clusters", .array (clusters.map clusterJson))]
  | group => .ofFields [("kind", .ofString group.kind),
      ("words", .array (group.words.map fun word => .string word.spelling))]

/-- The answer as JSON. -/
def answerJson (withGroups : Bool) (answer : Answer) : Json :=
  let common := [("text", .string answer.line.text), ("caret", .int answer.line.caret),
    ("ok", .bool answer.isOk), ("error", (answer.error?.map Json.ofString).getD .null),
    ("suggestions", .array (answer.suggestions.map suggestionJson))]
  .ofFields (common ++ match shownGroups? withGroups answer with
    | some context => [("working_word", .string context.workingWord),
        ("groups", .array (context.groups.map groupJson))]
    | none => [])

/-! ### Either -/

/-- The answer in the form that the options ask for. -/
def report (withGroups : Bool) (options : Options) (answer : Answer) : Text :=
  match options.format with
  | .plain => plainReport withGroups answer
  | .json =>
    (answerJson withGroups answer).write (if options.pretty then .indented else .oneLine)

/-- The code that a command ends with after an answer. -/
def exitCode (answer : Answer) : Nat := if answer.isFatal then 2 else if answer.isOk then 0 else 1

/-- The words of a world, each on a line with its part of speech and the number of its entity. -/
def vocabularyReport (world : World) : List Text :=
  world.vocabulary.map fun word =>
    word.spelling ++ '\t' :: word.partOfSpeech.name.toList ++ '\t' :: '#' ::
      (toString word.ref).toList

end CommandPrompt.Command
