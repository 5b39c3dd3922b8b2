import LineArithmetic.Charset.Utf8
import LineArithmetic.Command.Arguments
import LineArithmetic.Command.Files
import LineArithmetic.Document

/-!
# Running a document

The command reads a document from a file or from standard input and writes one
line for each of its lines: the value, or with `--tree` the tree.  Nothing is
written unless the whole document could be read, and what `--fail-on-error`
adds comes after everything has been written.

Standard input is a stream that is already open, and systems differ in how they
open it: most keep its line breaks, others unify them as in a file.  So an `Input`
carries its `LineBreaks`.

`run` is the command itself; `Report.ofOutcome` is how the program ends: what
it writes to standard error and its exit code.
-/

namespace LineArithmetic.Command

open Text

/-- Why the command fails. -/
inductive Failure where
  | usage (fault : UsageFault)
  | contradictoryColors
  | unreadable (path : String) (fault : PathFault)
  /-- A path holds the character that ends paths. -/
  | nullInPath
  | undecodable (fault : Charset.ByteFault)
  | compilation (lines : List Int)
  | evaluation (fault : Fault)
  deriving DecidableEq, Repr

/-- The failure in words. -/
def Failure.message : Failure → String
  | .usage fault => "Error: " ++ fault.message
  | .contradictoryColors =>
    "The --no-color and --force-color options can't be used together."
  | .unreadable path fault => "Cannot read document " ++ path ++ ": " ++ fault.message path
  | .nullInPath => "embedded null byte"
  | .undecodable fault => fault.message
  | .compilation lines =>
    "Compilation failed on line(s) " ++ ", ".intercalate (lines.map toString)
  | .evaluation fault => fault.message

/-- Whether a failure is one that the command announces; the others are
accidents and are passed on as they are. -/
def Failure.isAnnounced : Failure → Bool
  | .usage _ | .contradictoryColors | .unreadable .. | .compilation _ => true
  | _ => false

/-- What a run leaves behind. -/
structure Outcome where
  output : String
  failure : Option Failure
  records : List Log.Record
  deriving DecidableEq, Repr

/-- The outcome of a run that did nothing but fail. -/
def Outcome.failed (failure : Failure) : Outcome :=
  ⟨"", some failure, []⟩

/-- The path that stands for standard input. -/
def standardInput : String := "-"

/-- A stream of text: its bytes, and what reading does to their line breaks. -/
structure Input where
  bytes : List UInt8
  breaks : LineBreaks
  deriving DecidableEq, Repr

/-- The bytes of a file, which may have the line breaks of any system. -/
def Input.ofFile (bytes : List UInt8) : Input :=
  ⟨bytes, .unified⟩

/-- Bytes alone are those of a file. -/
instance : Coe (List UInt8) Input :=
  ⟨Input.ofFile⟩

/-- Decodes a document. -/
def decodeDocument (input : Input) : Except Failure String :=
  match Charset.Utf8.decode .strict input.bytes with
  | .error fault => .error (.undecodable fault)
  | .ok chars => .ok (String.ofList (input.breaks.apply chars))

/-- Reads a document.  The line breaks of a file are unified; standard input says
itself what becomes of its own. -/
def readDocument (files : Reader) (input : Input) (path : String) : Except Failure String :=
  if path = standardInput then decodeDocument input
  else if path.toList.contains '\x00' then .error .nullInPath
  else
    match files path with
    | .error fault => .error (.unreadable path fault)
    | .ok bytes => decodeDocument bytes

/-- A text as a line of output: it ends in one line feed. -/
def outputLine (text : String) : String :=
  if text.endsWith "\n" then text else text ++ "\n"

/-- What is written about an entry. -/
def entryText (tree : Bool) (entry : Entry) : String :=
  if tree then entry.tree else entry.value.format

/-- Everything that is written about entries. -/
def outputOf (tree : Bool) (entries : List Entry) : String :=
  String.join (entries.map fun entry => outputLine (entryText tree entry))

/-- The numbers of the lines that did not compile. -/
def errorLines (entries : List Entry) : List Int :=
  (entries.filter Entry.isError).map Entry.line

/-- The report of a document that was run. -/
def ranReport (path : String) (entries : List Entry) : Log.Record :=
  ⟨.info, .command, "Ran document " ++ path ++ ": " ++ countSummary entries⟩

/-- What a run of an evaluated document leaves behind. -/
def finish (tree failOnError : Bool) (path : String) (evaluated : Evaluated) : Outcome :=
  let entries := evaluated.entries
  let failure :=
    if failOnError && !(errorLines entries).isEmpty then some (.compilation (errorLines entries))
    else none
  ⟨outputOf tree entries, failure, evaluated.records ++ [ranReport path entries]⟩

/-- Runs a document. -/
def runDocumentAt (files : Reader) (input : Input) (tree failOnError : Bool)
    (path : String) : Outcome :=
  match readDocument files input path with
  | .error failure => .failed failure
  | .ok document =>
    match evaluateDocument document with
    | .error fault => .failed (.evaluation fault)
    | .ok evaluated => finish tree failOnError path evaluated

/-- Runs what the arguments ask for. -/
def runArguments (files : Reader) (input : Input) (a : Arguments) : Outcome :=
  if a.help || a.version then ⟨"", none, []⟩
  else if a.forceColor && a.noColor then .failed .contradictoryColors
  else runDocumentAt files input a.tree a.failOnError (a.path.getD standardInput)

/-- The command. -/
def run (files : Reader) (input : Input) (arguments : List String) : Outcome :=
  match readArguments arguments with
  | .error fault => .failed (.usage fault)
  | .ok a => runArguments files input a

/-! ## How the program ends -/

/-- How the program is called in its messages. -/
def programName : String := "manage.py run_document"

/-- What the program leaves behind. -/
structure Report where
  output : String
  errors : String
  exitCode : Nat
  /-- A failure that the program does not announce. -/
  failure : Option Failure
  records : List Log.Record
  deriving DecidableEq, Repr

/-- How the program ends after a run.  With `traceback` no failure but one of
usage is announced, and of that one the last line. -/
def Report.ofOutcome (traceback : Bool) (outcome : Outcome) : Report :=
  match outcome.failure with
  | none => ⟨outcome.output, "", 0, none, outcome.records⟩
  | some (.usage fault) =>
    ⟨outcome.output, lastLine (programName ++ ": error: " ++ fault.message) ++ "\n", 2, none,
      outcome.records⟩
  | some failure =>
    if failure.isAnnounced && !traceback then
      ⟨outcome.output, outputLine ("CommandError: " ++ failure.message), 1, none,
        outcome.records⟩
    else ⟨outcome.output, "", 0, some failure, outcome.records⟩

/-- Whether the arguments ask for failures to be passed on. -/
def asksTraceback (arguments : List String) : Bool :=
  match readArguments arguments with
  | .error _ => false
  | .ok a => a.traceback

/-- The program. -/
def program (files : Reader) (input : Input) (arguments : List String) : Report :=
  .ofOutcome (asksTraceback arguments) (run files input arguments)

end LineArithmetic.Command
