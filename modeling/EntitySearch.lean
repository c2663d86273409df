import EntitySearch.Main
import EntitySearch.Resolver.Recording
import EntitySearch.Store.Writer
import EntitySearch.Proofs.Text.Position
import EntitySearch.Proofs.Text.Quoted
import EntitySearch.Proofs.Token.LexicalRule
import EntitySearch.Proofs.Token.Tokenization
import EntitySearch.Proofs.Expression.Grammar
import EntitySearch.Proofs.Expression.Parsing
import EntitySearch.Proofs.OrderedMap
import EntitySearch.Proofs.Query.Canonical
import EntitySearch.Proofs.Hit.Merge
import EntitySearch.Proofs.Hit.Order
import EntitySearch.Proofs.Number.Double
import EntitySearch.Proofs.Query.Evaluation
import EntitySearch.Proofs.Query.Satisfaction
import EntitySearch.Proofs.Query.Calls
import EntitySearch.Proofs.Query.Chain
import EntitySearch.Proofs.Search.Canonical
import EntitySearch.Proofs.Expression.Unplaced
import EntitySearch.Proofs.Query.Layout
import EntitySearch.Proofs.Query.Composition
import EntitySearch.Proofs.Query.Names
import EntitySearch.Proofs.SortedMap
import EntitySearch.Proofs.Store.Scan
import EntitySearch.Proofs.Store.Steps
import EntitySearch.Proofs.Hit.Exclude
import EntitySearch.Proofs.Json.Lexing
import EntitySearch.Proofs.Store.FullText
import EntitySearch.Proofs.Json.Reading
import EntitySearch.Proofs.Json.Skipping
import EntitySearch.Proofs.Json.Records
import EntitySearch.Proofs.Json.Writing
import EntitySearch.Proofs.Store.Spelling
import EntitySearch.Proofs.Store.Conjunction
import EntitySearch.Proofs.Expression.Failure
import EntitySearch.Proofs.Text.Line
import EntitySearch.Proofs.Query.Caret
import EntitySearch.Proofs.Expression.Place
import EntitySearch.Proofs.Number.Order
import EntitySearch.Proofs.Query.Relation
import EntitySearch.Proofs.Hit.Permutation
import EntitySearch.Proofs.Store.Permutation
import EntitySearch.Proofs.Search.Permutation
import EntitySearch.Proofs.Hit.Growth
import EntitySearch.Proofs.Store.Growth
import EntitySearch.Proofs.Search.Growth
import EntitySearch.Proofs.Query.Unmerged
import EntitySearch.Proofs.Search.Repetition
import EntitySearch.Proofs.Token.Content
import EntitySearch.Proofs.Number.TotalOrder
import EntitySearch.Proofs.Hit.Rank
import EntitySearch.Proofs.CommandLine.Limit
import EntitySearch.Proofs.Text.Lowercase
import EntitySearch.Proofs.Store.LetterCase
import EntitySearch.Proofs.Expression.Cursor
import EntitySearch.Proofs.Expression.Progress
import EntitySearch.Proofs.Query.Lookups
