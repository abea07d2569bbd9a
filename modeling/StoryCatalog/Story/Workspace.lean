import StoryCatalog.Compiled.Locate
import StoryCatalog.JavaScript.Lowering
import StoryCatalog.Story.Extraction
import StoryCatalog.Story.Index
import StoryCatalog.Tree.Markup.Decoder

/-!
# Working with files

What can be done with a file: read its tree, extract or index its stories, read a compiled module and
locate its parts. A task that fails tells what was being done to which file, and the failure, unless
the text could not even be decoded.
-/

namespace StoryCatalog

/-- What is being done to a file. -/
inductive FileTask where
  | decodeTree
  | extract
  | index
  | parseCompiled
  | decodeCompiled
  | locate
deriving DecidableEq, Repr

/-- What is said of a task that failed on a file. -/
def FileTask.context (file : String) : FileTask → String
  | decodeTree => s!"Failed to decode syntax tree for {file}"
  | extract => s!"Failed to extract stories from {file}"
  | index => s!"Failed to index stories in {file}"
  | parseCompiled => s!"Failed to parse compiled output of {file}"
  | decodeCompiled => s!"Failed to decode compiled program of {file}"
  | locate => s!"Failed to locate compiled nodes in {file}"

/-- A task that failed on a file; without a failure, the text given could not be decoded. -/
structure Problem where
  task : FileTask
  file : String
  failure? : Option Failure
deriving DecidableEq, Repr

namespace Problem

/-- What is said of a problem. -/
def context (p : Problem) : String :=
  p.task.context p.file

/-- The answer of a pass that a task runs on a file. -/
def during {α : Type} (task : FileTask) (file : String) : Except Failure α → Except Problem α
  | .ok a => .ok a
  | .error c => .error ⟨task, file, some c⟩

/-- The value decoded by a task from a text. -/
def decoding {α : Type} (task : FileTask) (file : String) : Option α → Except Problem α
  | some a => .ok a
  | none => .error ⟨task, file, none⟩

end Problem

/-- The document of a source and the JSON text of its tree. -/
def Document.load (file source : String) (encoding : Text.Encoding) (tree : String) :
    Except Problem Document :=
  Problem.decoding .decodeTree file
    ((Root.parse? tree).map fun root => ⟨file, source, root, encoding⟩)

/-- The program that is given as JSON text. -/
def Program.load (file text : String) : Except Problem Program :=
  Problem.decoding .decodeCompiled file (Program.parse? text)

/-- The program of a JavaScript text. Where the text could not be read, the failure tells the first place. -/
def Program.compiled (parser : JavaScript.Parser) (file code : String) : Except Failure Program :=
  match parser.grammarError? with
  | some e => .error (.compiledParse file s!"failed to load JavaScript grammar: {e}")
  | none =>
    match parser.parse? code with
    | none => .error (.compiledParse file "parser produced no tree")
    | some root =>
      if root.hasError then
        let offset := (root.firstError?.map (·.span.start)).getD 0
        .error (.compiledParse file s!"syntax error at byte {offset}")
      else .ok (root.toProgram code.toList)

/-- The program of a compiled file. -/
def Program.readCompiled (parser : JavaScript.Parser) (file code : String) : Except Problem Program :=
  Problem.during .parseCompiled file (Program.compiled parser file code)

namespace Config

/-- The stories of a document. -/
def extract (c : Config) (d : Document) : Except Problem Catalog :=
  Problem.during .extract d.file (d.extract c)

/-- The index of a document. -/
def index (c : Config) (d : Document) : Except Problem StoryIndex :=
  Problem.during .index d.file (d.index c.indexOptions)

/-- The parts of a compiled module. -/
def locate (c : Config) (file : String) (p : Program) : Except Problem CompiledParts :=
  Problem.during .locate file (p.locate file c.packageName)

/-- The stories of several documents; a document that fails does so by itself. -/
def extractAll (c : Config) (ds : List Document) : List (Except Failure Catalog) :=
  ds.map (·.extract c)

/-- The indexes of several documents; a document that fails does so by itself. -/
def indexAll (c : Config) (ds : List Document) : List (Except Failure StoryIndex) :=
  ds.map (·.index c.indexOptions)

end Config

end StoryCatalog
