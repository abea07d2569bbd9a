import StoryCatalog.Compiled.Locate
import StoryCatalog.Decimal.Nearest
import StoryCatalog.Decimal.Shortest
import StoryCatalog.Digest.Fold
import StoryCatalog.Digest.Md5
import StoryCatalog.JavaScript.Blanks
import StoryCatalog.JavaScript.Character
import StoryCatalog.JavaScript.Cover
import StoryCatalog.JavaScript.Cursor
import StoryCatalog.JavaScript.Grammar.Basic
import StoryCatalog.JavaScript.Grammar.Literal
import StoryCatalog.JavaScript.Grammar.Markup
import StoryCatalog.JavaScript.Grammar.Member
import StoryCatalog.JavaScript.Grammar.Module
import StoryCatalog.JavaScript.Grammar.Operand
import StoryCatalog.JavaScript.Grammar.Statement
import StoryCatalog.JavaScript.Grammar.Value
import StoryCatalog.JavaScript.Lexeme
import StoryCatalog.JavaScript.Literal
import StoryCatalog.JavaScript.Lowering
import StoryCatalog.JavaScript.Module
import StoryCatalog.JavaScript.Syntax
import StoryCatalog.Json.Basic
import StoryCatalog.Json.Number
import StoryCatalog.Json.Reader
import StoryCatalog.Json.Record
import StoryCatalog.Json.Writer
import StoryCatalog.Name.Export
import StoryCatalog.Name.Id
import StoryCatalog.Name.Words
import StoryCatalog.Story.Catalog
import StoryCatalog.Story.Comments
import StoryCatalog.Story.Config
import StoryCatalog.Story.Document
import StoryCatalog.Story.Extraction
import StoryCatalog.Story.Failure
import StoryCatalog.Story.Identity
import StoryCatalog.Story.Index
import StoryCatalog.Story.RawSource
import StoryCatalog.Story.ScriptFacts
import StoryCatalog.Story.Static
import StoryCatalog.Story.Workspace
import StoryCatalog.Text.Blank
import StoryCatalog.Text.Case
import StoryCatalog.Text.Layout
import StoryCatalog.Text.Letter
import StoryCatalog.Text.Tables.Alphabetic
import StoryCatalog.Text.Tables.CaseIgnorable
import StoryCatalog.Text.Tables.CaseMap
import StoryCatalog.Text.Tables.Cased
import StoryCatalog.Text.Tables.Numeric
import StoryCatalog.Text.Units
import StoryCatalog.Tree.Markup
import StoryCatalog.Tree.Markup.Decoder
import StoryCatalog.Tree.Node
import StoryCatalog.Tree.Outline
import StoryCatalog.Tree.Rose
import StoryCatalog.Tree.Script
import StoryCatalog.Tree.Script.Decoder
import StoryCatalog.Tree.Span
import StoryCatalog.Tree.Trace
import StoryCatalog.Proofs.Tree.Places
import StoryCatalog.Proofs.Tree.Unfolding
import StoryCatalog.Proofs.Tree.Contents
import StoryCatalog.Proofs.Tree.SideBySide
import StoryCatalog.Proofs.Tree.Traces
import StoryCatalog.Proofs.Tree.Losses
import StoryCatalog.Proofs.Tree.MarkupTrees
import StoryCatalog.Proofs.Tree.Images
import StoryCatalog.Proofs.Tree.Relocations
import StoryCatalog.Proofs.Tree.Refilling
import StoryCatalog.Proofs.Tree.Schemas
import StoryCatalog.Proofs.Tree.Decoding
import StoryCatalog.Proofs.Tree.DecodedNodes
import StoryCatalog.Proofs.Tree.Imports
import StoryCatalog.Proofs.Tree.Hoisting
import StoryCatalog.Proofs.RelatedLists
import StoryCatalog.Proofs.Text.Slices
import StoryCatalog.Proofs.Text.Boundaries
import StoryCatalog.Proofs.Text.Layouts
import StoryCatalog.Proofs.Story.Markers
import StoryCatalog.Proofs.Story.Readings
import StoryCatalog.Proofs.Story.Catalogs
import StoryCatalog.Proofs.Story.Identities
import StoryCatalog.Proofs.Story.Extractions
import StoryCatalog.Proofs.Story.RepeatedIds
import StoryCatalog.Proofs.Story.Descriptions
import StoryCatalog.Proofs.Story.RawSources
import StoryCatalog.Proofs.Story.Bodies
import StoryCatalog.Proofs.Story.Landmarks
import StoryCatalog.Proofs.Story.Listings
import StoryCatalog.Proofs.Story.Indexes
import StoryCatalog.Proofs.Story.EmptySources
import StoryCatalog.Proofs.Story.Agreement
import StoryCatalog.Proofs.Story.Scripts
import StoryCatalog.Proofs.Story.Coherence
import StoryCatalog.Proofs.Story.Influence
import StoryCatalog.Proofs.Story.Appending
import StoryCatalog.Proofs.Story.RelocatedFacts
import StoryCatalog.Proofs.Story.ByteOffsets
import StoryCatalog.Proofs.Story.OffsetUnits
import StoryCatalog.Proofs.Story.HoistedScripts
import StoryCatalog.Proofs.Compiled.Sightings
import StoryCatalog.Proofs.Compiled.Inventories
import StoryCatalog.Proofs.Compiled.Parts
import StoryCatalog.Proofs.Compiled.HoistedModules
import StoryCatalog.Proofs.Compiled.StoriesFunctions
import StoryCatalog.Proofs.Compiled.Completeness
import StoryCatalog.Proofs.Compiled.FunctionContents
import StoryCatalog.Proofs.HoistedImports
import StoryCatalog.Proofs.Json.Order
import StoryCatalog.Proofs.Tree.Wordings
import StoryCatalog.Proofs.Tree.Rewordings
import StoryCatalog.Proofs.Story.Failures
import StoryCatalog.Proofs.Story.IndexOptions
import StoryCatalog.Proofs.Story.Serialization
import StoryCatalog.Proofs.Story.Histories
import StoryCatalog.Proofs.Tree.Retagging
import StoryCatalog.Proofs.Story.MarkerTags
import StoryCatalog.Proofs.Tree.KnownContent
import StoryCatalog.Proofs.Tree.OnText
import StoryCatalog.Proofs.Text.Lines
import StoryCatalog.Proofs.Text.Indentation
import StoryCatalog.Proofs.Text.Normalization
import StoryCatalog.Proofs.Name.Cuts
import StoryCatalog.Proofs.Name.Initials
import StoryCatalog.Proofs.Name.ExportNames
import StoryCatalog.Proofs.Text.Ascii
import StoryCatalog.Proofs.Name.CanonicalNames
import StoryCatalog.Proofs.Name.DerivedIds
import StoryCatalog.Proofs.Digest.Hexadecimal
import StoryCatalog.Proofs.Digest.FoldSums
import StoryCatalog.Proofs.Story.GeneratedIds
import StoryCatalog.Proofs.Story.StaticReads
import StoryCatalog.Proofs.Story.TextArrays
import StoryCatalog.Proofs.Story.MetaValues
import StoryCatalog.Proofs.ComputedKeys
import StoryCatalog.Proofs.JavaScript.Lowered
import StoryCatalog.Proofs.JavaScript.Phrases
import StoryCatalog.Proofs.JavaScript.PhrasePaths
import StoryCatalog.Proofs.JavaScript.SyntaxTrees
import StoryCatalog.Proofs.JavaScript.Offsets
import StoryCatalog.Proofs.JavaScript.Holes
import StoryCatalog.Proofs.JavaScript.StringElements
import StoryCatalog.Proofs.JavaScript.StringValues
import StoryCatalog.Proofs.JavaScript.BracketedKeys
import StoryCatalog.Proofs.JavaScript.Templates
