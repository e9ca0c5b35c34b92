import SchemaPages.Json.Lexeme

/-!
Reading a JSON text. The lexemes drive a machine that keeps the containers it is inside of, the
innermost first, and knows what may come next. The first lexeme that may not come decides the
error, and at the end of the text the state tells what is missing.
-/

namespace SchemaPages.Json

/-- An open container: the items before the present one, the latest first, or the members before
the present one and its key. -/
inductive Frame where
  | array (done : List Value)
  | object (done : Members) (key : String)

/-- What may come next. `opened` says that the container has just been opened, so that it may
also be closed. -/
inductive State where
  | awaitValue (opened : Bool) (stack : List Frame)
  | awaitKey (opened : Bool) (done : Members) (stack : List Frame)
  | awaitColon (key : String) (done : Members) (stack : List Frame)
  | afterItem (done : List Value) (stack : List Frame)
  | afterMember (done : Members) (stack : List Frame)
  | finished (value : Value)

def State.put (v : Value) : List Frame → State
  | [] => .finished v
  | .array done :: stack => .afterItem (v :: done) stack
  | .object done key :: stack => .afterMember (Keyed.insert key v done) stack

/-- A text may open one container less than this inside each other. -/
def depthLimit : Nat := 128

def State.enter (start : List Char) (stack : List Frame) (next : State) : Except Fault State :=
  if stack.length + 1 < depthLimit then .ok next else .error (.here .tooDeep start)

/-- An array closes where a value might come. -/
def State.closeEarly (start : List Char) (opened : Bool) : List Frame → Except Fault State
  | .array _ :: stack =>
    if opened then .ok (State.put (.arr []) stack) else .error (.here .trailingComma start)
  | _ => .error (.here .missingValue start)

def State.step (state : State) (lexeme : Lexeme) : Except Fault State :=
  match state, lexeme.token with
  | .awaitValue _ stack, .openArray =>
    State.enter lexeme.start stack (.awaitValue true (.array [] :: stack))
  | .awaitValue _ stack, .openObject => State.enter lexeme.start stack (.awaitKey true [] stack)
  | .awaitValue _ stack, .text t => .ok (State.put (.str t) stack)
  | .awaitValue _ stack, .scalar v => .ok (State.put v stack)
  | .awaitValue _ _, .brokenText fault => .error fault
  | .awaitValue _ _, .brokenScalar fault => .error fault
  | .awaitValue opened stack, .closeArray => State.closeEarly lexeme.start opened stack
  | .awaitValue _ _, _ => .error (.here .missingValue lexeme.start)
  | .awaitKey _ done stack, .text key => .ok (.awaitColon key done stack)
  | .awaitKey _ _ _, .brokenText fault => .error fault
  | .awaitKey opened _ stack, .closeObject =>
    if opened then .ok (State.put (.obj []) stack)
    else .error (.here .trailingComma lexeme.start)
  | .awaitKey _ _ _, _ => .error (.here .keyNotText lexeme.start)
  | .awaitColon key done stack, .colon => .ok (.awaitValue false (.object done key :: stack))
  | .awaitColon _ _ _, _ => .error (.here .missingColon lexeme.start)
  | .afterItem done stack, .comma => .ok (.awaitValue false (.array done :: stack))
  | .afterItem done stack, .closeArray => .ok (State.put (.arr done.reverse) stack)
  | .afterItem _ _, _ => .error (.here .missingCommaInArray lexeme.start)
  | .afterMember done stack, .comma => .ok (.awaitKey false done stack)
  | .afterMember done stack, .closeObject => .ok (State.put (.obj done) stack)
  | .afterMember _ _, _ => .error (.here .missingCommaInObject lexeme.start)
  | .finished _, _ => .error (.here .trailingText lexeme.start)

def State.finish : State → Except Fault Value
  | .awaitValue opened _ => .error (.atEnd (if opened then .endInArray else .endInValue))
  | .awaitKey opened _ _ => .error (.atEnd (if opened then .endInObject else .endInValue))
  | .awaitColon _ _ _ => .error (.atEnd .endInObject)
  | .afterItem _ _ => .error (.atEnd .endInArray)
  | .afterMember _ _ => .error (.atEnd .endInObject)
  | .finished v => .ok v

def readChars (text : List Char) : Except Fault Value :=
  match (lexemes text).foldlM State.step (.awaitValue false []) with
  | .error fault => .error fault
  | .ok state => state.finish

def read (text : String) : Except SyntaxError Value :=
  match readChars text.toList with
  | .error fault => .error (fault.locate text.toList)
  | .ok v => .ok v

end SchemaPages.Json
