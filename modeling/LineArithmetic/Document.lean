import LineArithmetic.Evaluation
import LineArithmetic.Parser
import LineArithmetic.Text.Lines

/-!
# Documents

A document is compiled line by line, each line on its own and numbered from
one.  `compileDocument` gives one tree per line and reports every diagnostic;
`evaluateDocument` gives one `Entry` per line, with the kind of its tree, its
rendering and its value.
-/

namespace LineArithmetic

/-- Compiles one line. -/
def compileLine (line : String) (number : Int) : Parser.Step :=
  (Parser.start (lineTokens (some line)) number).parse

/-- The report of a line that does not compile. -/
def compilationReports : Node → List Log.Record
  | .diagnostic d => [⟨.debug, .compiler, "Compilation error: " ++ d.message⟩]
  | _ => []

/-- The trees of a document and what was reported on the way. -/
structure Compilation where
  nodes : List Node
  records : List Log.Record
  deriving DecidableEq, Repr

/-- The tree of one line of a document, and what is reported about it. -/
def compileNumbered (line : String × Nat) : Except Fault (Node × List Log.Record) :=
  let step := compileLine line.1 line.2
  step.result.map fun node => (node, step.records ++ compilationReports node)

/-- Compiles a document. -/
def compileDocument (document : String) : Except Fault Compilation :=
  (((Text.lines document).zipIdx 1).mapM compileNumbered).map fun compiled =>
    ⟨compiled.map (·.1), compiled.flatMap (·.2)⟩

/-- The values of the lines of a document. -/
def runDocument (document : String) : Except Fault (List Value) :=
  match compileDocument document with
  | .error fault => .error fault
  | .ok compilation => evalAll compilation.nodes

/-- What is told about one line. -/
structure Entry where
  line : Int
  type : String
  tree : String
  value : Value
  deriving DecidableEq, Repr

namespace Entry

/-- The entry of a compiled line. -/
def ofNode (line : Int) (node : Node) : Except Fault Entry :=
  match node.kind with
  | .error fault => .error fault
  | .ok kind =>
    match node.render with
    | .error fault => .error fault
    | .ok tree =>
      match node.eval with
      | .error fault => .error fault
      | .ok value => .ok ⟨line, kind.label, tree, value⟩

/-- The entries of the compiled lines of a document. -/
def ofNodes (nodes : List Node) : Except Fault (List Entry) :=
  (nodes.zipIdx 1).mapM fun numbered => ofNode numbered.2 numbered.1

/-- Whether the line did not compile. -/
def isError (e : Entry) : Bool :=
  e.type == Node.Kind.error.label

/-- An entry whose value JSON can hold. -/
def jsonSafe (e : Entry) : Entry :=
  { e with value := e.value.jsonSafe }

end Entry

/-- The entries of a document and what was reported on the way. -/
structure Evaluated where
  entries : List Entry
  records : List Log.Record
  deriving DecidableEq, Repr

/-- Compiles and evaluates a document. -/
def evaluateDocument (document : String) : Except Fault Evaluated :=
  match compileDocument document with
  | .error fault => .error fault
  | .ok compilation =>
    (Entry.ofNodes compilation.nodes).map fun entries => ⟨entries, compilation.records⟩

/-- How many lines there are and how many of them did not compile, in words. -/
def countSummary (entries : List Entry) : String :=
  toString entries.length ++ " lines, " ++ toString (entries.countP Entry.isError) ++ " errors"

end LineArithmetic
