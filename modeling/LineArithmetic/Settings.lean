import LineArithmetic.Text.Numeral
import LineArithmetic.Text.Split

/-!
# Settings

What can be set from the environment, with the values that hold where nothing
is set.  Only the document limit can be set wrongly.
-/

namespace LineArithmetic

structure Settings where
  secretKey : String
  debug : Bool
  allowedHosts : List String
  documentLimit : Int
  logLevel : String
  deriving DecidableEq, Repr

namespace Settings

/-- The words that switch something on, in any case. -/
def trueWords : List String := ["1", "true", "t", "yes", "y"]

/-- The document limit that holds where none is set. -/
def defaultDocumentLimit : Int := 100000

/-- The settings of an environment. -/
def ofEnvironment (lookup : String → Option String) :
    Except Text.IntegerFault Settings :=
  let value (name default : String) : String := (lookup name).getD default
  (Text.readInteger (value "LINECALC_MAX_DOCUMENT_LENGTH" (toString defaultDocumentLimit))).map
    fun documentLimit =>
      { secretKey := value "DJANGO_SECRET_KEY" "linecalc-insecure-development-key"
        debug := trueWords.contains (value "DJANGO_DEBUG" "false").toLower
        allowedHosts :=
          Text.splitText ',' (value "DJANGO_ALLOWED_HOSTS" "localhost,127.0.0.1,testserver")
        documentLimit
        logLevel := value "LINECALC_LOG_LEVEL" "INFO" }

end Settings

end LineArithmetic
