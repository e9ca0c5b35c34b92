import SchemaPages.Failure

/-!
What a command fails with: a cause, and what was being done, the outermost task first. The whole
story is told in one line. The exit status tells whether the fault lies in what was given.
-/

namespace SchemaPages.Command

inductive Task where
  | readSchema (path : String)
  | parseSchema (path : String)
  | readConfig (path : String)
  | takeHostOptions (path : String)
  | createPlugin
  | render (name : String)
  | other (text : String)
deriving DecidableEq

def Task.message : Task → String
  | .readSchema path => "failed to read schema file " ++ path
  | .parseSchema path => "failed to parse schema file " ++ path
  | .readConfig path => "failed to read config file " ++ path
  | .takeHostOptions path => "invalid host options in " ++ path
  | .createPlugin => "failed to create document plugin"
  | .render name => "failed to render '" ++ name ++ "'"
  | .other text => text

inductive Cause where
  | failed (failure : Failure)
  | file (error : Files.FileError)
  | other (text : String)
deriving DecidableEq

structure Trouble where
  tasks : List Task := []
  cause : Cause
deriving DecidableEq

/-- The cause with the message that it rests on. -/
def Cause.chain : Cause → List String
  | .failed failure => failure.message :: failure.cause?.toList
  | .file error => [error.message]
  | .other text => [text]

namespace Trouble

def ofFailure (failure : Failure) : Trouble := ⟨[], .failed failure⟩

def during (task : Task) (trouble : Trouble) : Trouble :=
  { trouble with tasks := task :: trouble.tasks }

def attempt {α : Type} (task : Task) (result : Except Failure α) : Except Trouble α :=
  result.mapError fun failure => (ofFailure failure).during task

def message (trouble : Trouble) : String :=
  ": ".intercalate (trouble.tasks.map Task.message ++ trouble.cause.chain)

end Trouble

inductive ExitStatus where
  | success
  | general
  | invalidInput
deriving DecidableEq

namespace ExitStatus

def code : ExitStatus → Nat
  | .success => 0
  | .general => 1
  | .invalidInput => 2

def ofTrouble (trouble : Trouble) : ExitStatus :=
  match trouble.cause with
  | .failed failure => if failure.isInvalidInput then .invalidInput else .general
  | .file _ | .other _ => .general

end ExitStatus

end SchemaPages.Command
