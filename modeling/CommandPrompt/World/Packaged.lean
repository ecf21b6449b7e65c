import CommandPrompt.World.Basic

/-!
# The packaged world

A small world to try the prompt with, which is used where no other world is named.
-/

namespace CommandPrompt.World

/-- The name of the file that holds the packaged world. -/
def packagedName : String := "test_world.json"

/-- The lines of that file. -/
def packagedLines : List String :=
  ["\x7b",
    "  \"title\": \"Test Game\",",
    "  \"author\": \"Joseph Cramsey\",",
    "  \"verbs\": [",
    "    \x7b\"spelling\": \"examine\", \"synonyms\": [\"look at\", \"inspect\"], " ++
      "\"shortcut\": \"x\"\x7d,",
    "    \x7b\"spelling\": \"take\"\x7d",
    "  ],",
    "  \"nouns\": [",
    "    \x7b\"names\": \"bucket\", \"adjectives\": " ++
      "[\"pale\", \"red\", \"sandy\", \"plastic\"]\x7d,",
    "    \x7b\"names\": \"bucket\", \"adjectives\": " ++
      "[\"blue\", \"clean\", \"plastic\"]\x7d,",
    "    \x7b\"names\": \"candy\", \"adjectives\": [\"red\"]\x7d,",
    "    \x7b\"names\": \"bucket\", \"adjectives\": " ++
      "[\"small\", \"pale\", \"red\", \"plastic\"]\x7d",
    "  ]",
    "\x7d"]

/-- The text of that file. -/
def packagedText : Text := packagedLines.flatMap fun line => line.toList ++ ['\n']

/-- The verbs of the packaged world. -/
def packagedVerbs : List VerbDraft :=
  [{ spelling := "examine".toList, synonyms := ["look at".toList, "inspect".toList],
     shortcut := ['x'] },
   { spelling := "take".toList }]

/-- The nouns of the packaged world. -/
def packagedNouns : List NounDraft :=
  [("bucket", ["pale", "red", "sandy", "plastic"]),
   ("bucket", ["blue", "clean", "plastic"]),
   ("candy", ["red"]),
   ("bucket", ["small", "pale", "red", "plastic"])].map fun (name, adjectives) =>
    { names := name.toList, adjectives := adjectives.map String.toList }

/-- The packaged world, as that file describes it. -/
def packaged : World :=
  let named : World := { title := "Test Game".toList, author := "Joseph Cramsey".toList }
  let withVerbs := packagedVerbs.foldl (fun world draft => (world.addVerb draft).1) named
  packagedNouns.foldl (fun world draft => (world.addNoun draft).1) withVerbs

end CommandPrompt.World
