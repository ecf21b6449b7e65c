import CommandPrompt.Main
import CommandPrompt.World.Loose
import CommandPrompt.Host.FileTree
import CommandPrompt.Proofs.Text.Spacing
import CommandPrompt.Proofs.World.Catalog
import CommandPrompt.Proofs.Phrase.Matching
import CommandPrompt.Proofs.Phrase.Gating
import CommandPrompt.Proofs.Phrase.Parts
import CommandPrompt.Proofs.Phrase.Following
import CommandPrompt.Proofs.Phrase.Tracking
import CommandPrompt.Proofs.Phrase.Weaving
import CommandPrompt.Proofs.Line.Cleaning
import CommandPrompt.Proofs.Line.Settled
import CommandPrompt.Proofs.Suggestion.Ranking
import CommandPrompt.Proofs.Context.Reading
import CommandPrompt.Proofs.Phrase.TypedWords
import CommandPrompt.Proofs.Context.Grammar
import CommandPrompt.Proofs.Context.AdjacentPhrases
import CommandPrompt.Proofs.Context.Continuation
import CommandPrompt.Proofs.Context.Commands
import CommandPrompt.Proofs.Context.Incremental
import CommandPrompt.Proofs.Context.Candidates
import CommandPrompt.Proofs.Session.Log
import CommandPrompt.Proofs.Session.Requests
import CommandPrompt.Proofs.Number.Rounding
import CommandPrompt.Proofs.Suggestion.Scoring
import CommandPrompt.Proofs.Context.FullyTyped
import CommandPrompt.Proofs.Session.Latch
import CommandPrompt.Proofs.Context.OwnPrepositions
import CommandPrompt.Proofs.Phrase.Ledger
import CommandPrompt.Proofs.Phrase.Checked
import CommandPrompt.Proofs.Context.Totality
import CommandPrompt.Proofs.Number.Monotone
import CommandPrompt.Proofs.Suggestion.Agreement
import CommandPrompt.Proofs.Suggestion.Trimming
import CommandPrompt.Proofs.Context.Suggestions
import CommandPrompt.Proofs.Session.OwnPrepositions
import CommandPrompt.Proofs.Line.Caret
import CommandPrompt.Proofs.Context.LetterCase
import CommandPrompt.Proofs.Document.NormalForm
import CommandPrompt.Proofs.Document.Stray
import CommandPrompt.Proofs.Phrase.Longest
import CommandPrompt.Proofs.Json.Strings
import CommandPrompt.Proofs.Json.Numbers
import CommandPrompt.Proofs.Json.RoundTrip
import CommandPrompt.Proofs.Text.Encoding
import CommandPrompt.Proofs.Document.Written
import CommandPrompt.Proofs.Command.Ends
import CommandPrompt.Proofs.Command.Lines
import CommandPrompt.Proofs.Command.Reports
import CommandPrompt.Proofs.Phrase.Lookup
import CommandPrompt.Proofs.Phrase.Joined
import CommandPrompt.Proofs.Phrase.Woven
import CommandPrompt.Proofs.Suggestion.ExactScores
import CommandPrompt.Proofs.Suggestion.PartialWords
import CommandPrompt.Proofs.Suggestion.NextWords
import CommandPrompt.Proofs.Suggestion.Places
import CommandPrompt.Proofs.Line.Splitting
import CommandPrompt.Proofs.World.SameWords
import CommandPrompt.Proofs.World.Additions
import CommandPrompt.Proofs.World.Shortcuts
import CommandPrompt.Proofs.Phrase.History
import CommandPrompt.Proofs.World.Comparison
import CommandPrompt.Proofs.Phrase.Entries
import CommandPrompt.Proofs.Phrase.OpenPhrase
