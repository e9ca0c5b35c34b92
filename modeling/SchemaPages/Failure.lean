import SchemaPages.Files.Tree
import SchemaPages.Json.Record
import SchemaPages.Json.Syntax
import SchemaPages.Template.Render

/-!
What can go wrong when pages are made. A failure has a message of its own and may rest on the
message of what caused it, which is repeated when the whole chain of causes is told.
-/

namespace SchemaPages

inductive SchemaFault where
  | badSyntax (error : Json.SyntaxError)
  | notObject
  | badShape (error : Json.DecodeError)
  | reported (text : String)
deriving DecidableEq

inductive TemplateFault where
  | badContext (template : String) (fault : Template.Fault)
  | reported (text : String) (cause : Option String)
deriving DecidableEq

inductive ArgumentFault where
  | unknownFormat (text : String)
  | hostNotObject (value : Json.Value)
  | badConfigJson (path : String) (error : Json.SyntaxError)
  | badConfigToml (path : String)
  | reported (text : String)
deriving DecidableEq

inductive Failure where
  | invalidOptions (key : String) (error : Json.DecodeError)
  | schema (fault : SchemaFault)
  | template (fault : TemplateFault)
  | asset (path : String) (error : Files.FileError)
  | argument (fault : ArgumentFault)
deriving DecidableEq

def SchemaFault.message : SchemaFault → String
  | .badSyntax error => "invalid JSON: " ++ error.message
  | .notObject => "schema must be a JSON object"
  | .badShape error => "unexpected introspection shape: " ++ error.message
  | .reported text => text

def SchemaFault.cause? : SchemaFault → Option String
  | .badSyntax error => some error.message
  | .badShape error => some error.message
  | .notObject | .reported _ => none

def TemplateFault.message : TemplateFault → String
  | .badContext template fault =>
    template ++ " template rendering failed: " ++ fault.message template
  | .reported text _ => text

def TemplateFault.cause? : TemplateFault → Option String
  | .badContext template fault => some (fault.message template)
  | .reported _ cause => cause

def ArgumentFault.message : ArgumentFault → String
  | .unknownFormat text =>
    "invalid output format: '" ++ text ++ "' (expected: json, text, or pretty)"
  | .hostNotObject value => "host options must be an object, got " ++ value.compact
  | .badConfigJson path error => "invalid JSON in " ++ path ++ ": " ++ error.message
  | .badConfigToml path => "invalid TOML in " ++ path
  | .reported text => text

namespace Failure

def message : Failure → String
  | .invalidOptions key error => "Invalid options under '" ++ key ++ "': " ++ error.message
  | .schema fault => "Schema parse error: " ++ fault.message
  | .template fault => "Template error: " ++ fault.message
  | .asset path error => "Failed to write asset " ++ path ++ ": " ++ error.message
  | .argument fault => "Invalid argument: " ++ fault.message

def cause? : Failure → Option String
  | .invalidOptions _ error => some error.message
  | .schema fault => fault.cause?
  | .template fault => fault.cause?
  | .asset _ error => some error.message
  | .argument _ => none

def isInvalidInput : Failure → Bool
  | .invalidOptions _ _ | .schema _ | .argument _ => true
  | .template _ | .asset _ _ => false

end Failure

end SchemaPages
