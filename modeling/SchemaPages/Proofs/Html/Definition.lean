import SchemaPages.Proofs.Html.Entity
import SchemaPages.Proofs.Html.Reading

/-!
What a reader sees of a fragment. `Definition.ofCall` writes a type or a directive as it is defined
in the schema language, line by line and without any markup. The fragment of a builder shows
exactly that text: whatever characters the schema holds, none is lost, added or changed.
-/

namespace SchemaPages.Html

open Introspection (TypeRef InputValue Field EnumValue TypeDef Directive)
open Inline (between mark space word)
open Page (Call)

namespace Definition

def defaultValue : Option String → String
  | none => ""
  | some value => " = " ++ value

def argument (arg : InputValue) : String :=
  arg.name ++ ": " ++ arg.type.display ++ defaultValue arg.defaultValue

def arguments (args : List InputValue) : String :=
  if args = [] then "" else "(" ++ ", ".intercalate (args.map argument) ++ ")"

def reason : Option String → String
  | none => ""
  | some reason => if reason = "" then "" else "(reason: \"" ++ reason ++ "\")"

def deprecation (isDeprecated : Bool) (reason : Option String) : String :=
  if isDeprecated then " @deprecated" ++ Definition.reason reason else ""

def comments (description : Option String) : List String :=
  (commentLines description).map fun line => "# " ++ line

def outputField (field : Field) : List String :=
  comments field.description ++
    [field.name ++ arguments field.args ++ ": " ++ field.type.display ++
      deprecation field.isDeprecated field.deprecationReason]

def inputField (field : InputValue) : List String :=
  comments field.description ++
    [field.name ++ ": " ++ field.type.display ++ defaultValue field.defaultValue]

def enumValue (value : EnumValue) : List String :=
  comments value.description ++
    [value.name ++ deprecation value.isDeprecated value.deprecationReason]

def implements (interfaces : List TypeRef) : String :=
  if interfaces = [] then ""
  else " implements " ++ " & ".intercalate (interfaces.map TypeRef.display)

/-- A type with a block of fields, each of which has lines of its own. -/
def block (keyword : String) (type : TypeDef) (fields : List (List String)) : List String :=
  comments type.description ++
    [keyword ++ " " ++ type.name ++ implements (type.interfaces.getD []) ++ " \x7b"] ++
    fields.flatten ++ ["\x7d"]

/-- The lines of the definition that a call asks for. -/
def ofCall : Call → List String
  | .scalar type => comments type.description ++ ["scalar " ++ type.name]
  | .object type => block "type" type ((type.fields.getD []).map outputField)
  | .interface type => block "interface" type ((type.fields.getD []).map outputField)
  | .union type =>
    comments type.description ++
      ["union " ++ type.name ++ " = " ++
        " | ".intercalate ((type.possibleTypes.getD []).map TypeRef.display)]
  | .enumeration type =>
    comments type.description ++ ["enum " ++ type.name ++ " \x7b"] ++
      ((type.enumValues.getD []).map enumValue).flatten ++ ["\x7d"]
  | .inputObject type => block "input" type ((type.inputFields.getD []).map inputField)
  | .directive directive =>
    comments directive.description ++
      ["directive @" ++ directive.name ++ arguments directive.args ++
        (if directive.isRepeatable then " repeatable" else "") ++ " on " ++
        " | ".intercalate directive.locations]

end Definition

/-! ### The contents of the trees -/

theorem content_nameMarkup (linker : Linker) (name : String) :
    (linker.nameMarkup name).content = name := by
  rw [Linker.nameMarkup]
  split <;> rfl

theorem content_refMarkup (linker : Linker) (ref : TypeRef) :
    (linker.refMarkup ref).content = ref.display := by
  rw [TypeRef.display]
  induction ref with
  | plain kind name => exact content_nameMarkup ..
  | wrapping kind name inner ih =>
      cases kind
      case list => simp [Linker.refMarkup, TypeRef.write, ih]
      case nonNull => simp [Linker.refMarkup, TypeRef.write, ih]
      all_goals exact content_nameMarkup ..

theorem content_defaultMarkup (value : Option String) :
    (defaultMarkup value).content = Definition.defaultValue value := by
  cases value <;> rfl

theorem content_argumentsMarkup (linker : Linker) (args : List InputValue) :
    (linker.argumentsMarkup args).content = Definition.arguments args := by
  have hargument (arg : InputValue) :
      (linker.argumentMarkup arg).content = Definition.argument arg := by
    simp only [Linker.argumentMarkup, Definition.argument, Inline.content_append,
      content_refMarkup, content_defaultMarkup]
    rfl
  simp only [Linker.argumentsMarkup, Definition.arguments]
  cases args with
  | nil => rfl
  | cons arg args =>
      rw [if_neg (by simp), if_neg (by simp), Inline.content_append, Inline.content_append,
        Inline.content_joined, List.map_map]
      have hargs : (arg :: args).map (Inline.content ∘ linker.argumentMarkup) =
          (arg :: args).map Definition.argument :=
        List.map_congr_left fun arg _ => hargument arg
      rw [hargs]
      rfl

theorem content_deprecationMarkup (isDeprecated : Bool) (reason : Option String) :
    (deprecationMarkup isDeprecated reason).content =
      Definition.deprecation isDeprecated reason := by
  have hreason : (reasonMarkup reason).content = Definition.reason reason := by
    simp only [reasonMarkup, Definition.reason]
    split
    · rfl
    · rfl
    · rename_i text htext
      change _ = if text = "" then "" else _
      rw [if_neg htext, ← String.toList_inj]
      simp [Inline.content]
  cases isDeprecated with
  | false => rfl
  | true =>
      change " " ++ "@deprecated" ++ (reasonMarkup reason).content = _
      rw [hreason]
      rfl

theorem content_commentMarkup (description : Option String) :
    (commentMarkup description).map Inline.content = Definition.comments description := by
  simp only [commentMarkup, Definition.comments]
  rw [List.map_map]
  exact List.map_congr_left fun line _ => rfl

theorem content_fieldLines (field : FieldMarkup) :
    field.lines.map Inline.content =
      field.description.map (fun line => "# " ++ line) ++
        [field.name ++ field.arguments.content ++ ": " ++ field.type.content ++
          field.defaultValue.content ++ field.deprecation.content] := by
  rw [FieldMarkup.lines, List.map_append, List.map_map]
  have hline : field.line.content = field.name ++ field.arguments.content ++ ": " ++
      field.type.content ++ field.defaultValue.content ++ field.deprecation.content := by
    simp only [FieldMarkup.line, Inline.content, Inline.content_append, Inline.content_mark,
      String.append_assoc]
  rw [List.map_singleton, hline]
  rfl

theorem content_outputMarkup (linker : Linker) (field : Field) :
    (linker.outputMarkup field).lines.map Inline.content = Definition.outputField field := by
  rw [content_fieldLines]
  simp only [Linker.outputMarkup, Definition.outputField, content_argumentsMarkup,
    content_refMarkup, content_deprecationMarkup, Inline.content, String.append_empty]
  rfl

theorem content_inputMarkup (linker : Linker) (field : InputValue) :
    (linker.inputMarkup field).lines.map Inline.content = Definition.inputField field := by
  rw [content_fieldLines]
  simp only [Linker.inputMarkup, Definition.inputField, content_refMarkup,
    content_defaultMarkup, Inline.content, String.append_empty]
  rfl

theorem content_valueLines (value : EnumValue) :
    (valueLines value).map Inline.content = Definition.enumValue value := by
  simp only [valueLines, Definition.enumValue, Definition.comments]
  rw [List.map_append, List.map_map, List.map_singleton]
  change _ ++ [value.name ++ (deprecationMarkup _ _).content] = _
  rw [content_deprecationMarkup]
  rfl

theorem content_joined_refs (linker : Linker) {sign : Inline} {letters : String}
    (hsign : (between sign).content = letters) (refs : List TypeRef) :
    (Inline.joined (between sign) (refs.map linker.refMarkup)).content =
      letters.intercalate (refs.map TypeRef.display) := by
  rw [Inline.content_joined, hsign, List.map_map]
  have hrefs : refs.map (Inline.content ∘ linker.refMarkup) = refs.map TypeRef.display :=
    List.map_congr_left fun ref _ => content_refMarkup linker ref
  rw [hrefs]

theorem content_implementsMarkup (linker : Linker) (refs : List TypeRef) :
    (implementsMarkup (refs.map linker.refMarkup)).content = Definition.implements refs := by
  simp only [implementsMarkup, Definition.implements]
  cases refs with
  | nil => rfl
  | cons ref refs =>
      rw [if_neg (by simp), if_neg (by simp), Inline.content_append, Inline.content_append,
        Inline.content_append, content_joined_refs linker rfl, ← String.append_assoc]
      rfl

theorem content_title (keyword : Inline) (name : String) :
    (keyword ++ (space ++ Inline.identifier name)).content =
      keyword.content ++ " " ++ name := by
  rw [Inline.content_append, String.append_assoc]
  rfl

theorem content_openBlock : (space ++ word "\x7b").content = " \x7b" := rfl

theorem content_blockLines (linker : Linker) (keyword : String) (type : TypeDef)
    {fields : List FieldMarkup} {shown : List (List String)}
    (hfields : fields.map (fun field => field.lines.map Inline.content) = shown) :
    (linker.blockLines keyword type fields).map Inline.content =
      Definition.block keyword type shown := by
  simp only [Linker.blockLines, Definition.block, List.map_append, List.map_flatMap,
    content_commentMarkup, List.map_singleton]
  rw [List.flatMap_def, hfields, Inline.content_append, content_title, Inline.content_append,
    content_implementsMarkup, content_openBlock, ← String.append_assoc]
  rfl

theorem content_unionLines (linker : Linker) (type : TypeDef) :
    (linker.unionLines type).map Inline.content = Definition.ofCall (.union type) := by
  have hbetween : (between (mark "|")).content = " | " := rfl
  simp only [Linker.unionLines, Definition.ofCall]
  rw [List.map_append, content_commentMarkup, List.map_singleton]
  -- Only the last of the lines is left to compare.
  congr 2
  rw [Inline.content_append, Inline.content_append, content_title,
    Inline.content_append _ (Inline.joined ..),
    content_joined_refs linker hbetween, ← String.toList_inj]
  simp [Inline.content, word]

theorem content_enumLines (type : TypeDef) :
    (enumLines type).map Inline.content = Definition.ofCall (.enumeration type) := by
  have hvalues :
      (type.enumValues.getD []).map (fun value => (valueLines value).map Inline.content) =
        (type.enumValues.getD []).map Definition.enumValue :=
    List.map_congr_left fun value _ => content_valueLines value
  simp only [enumLines, Definition.ofCall, List.map_append, List.map_flatMap,
    content_commentMarkup, List.map_singleton]
  rw [List.flatMap_def, hvalues, Inline.content_append, content_title, content_openBlock]
  rfl

theorem content_directiveLines (linker : Linker) (directive : Directive) :
    (linker.directiveLines directive).map Inline.content =
      Definition.ofCall (.directive directive) := by
  have hrepeatable : (if directive.isRepeatable then space ++ word "repeatable"
      else .empty).content = if directive.isRepeatable then " repeatable" else "" := by
    split <;> rfl
  have hlocations : (directive.locations.map fun location =>
      Inline.span .literal (.text location)).map Inline.content = directive.locations := by
    rw [List.map_map]
    exact List.map_id directive.locations
  simp only [Linker.directiveLines, Definition.ofCall]
  rw [List.map_append, content_commentMarkup, List.map_singleton]
  congr 2
  simp only [Inline.content_append, content_argumentsMarkup, hrepeatable, Inline.content_joined,
    hlocations]
  rw [← String.toList_inj]
  simp [Inline.content, word, between]

theorem content_lines (linker : Linker) (call : Call) :
    (linker.lines call).map Inline.content = Definition.ofCall call := by
  have houtput (fields : List Field) :
      (fields.map linker.outputMarkup).map (fun field => field.lines.map Inline.content) =
        fields.map Definition.outputField := by
    rw [List.map_map]
    exact List.map_congr_left fun field _ => content_outputMarkup linker field
  have hinput (fields : List InputValue) :
      (fields.map linker.inputMarkup).map (fun field => field.lines.map Inline.content) =
        fields.map Definition.inputField := by
    rw [List.map_map]
    exact List.map_congr_left fun field _ => content_inputMarkup linker field
  cases call with
  | scalar type =>
      change (scalarLines type).map Inline.content = _
      rw [scalarLines, List.map_append, content_commentMarkup, List.map_singleton, content_title]
      rfl
  | object type => exact content_blockLines linker "type" type (houtput _)
  | interface type => exact content_blockLines linker "interface" type (houtput _)
  | union type => exact content_unionLines linker type
  | enumeration type => exact content_enumLines type
  | inputObject type => exact content_blockLines linker "input" type (hinput _)
  | directive directive => exact content_directiveLines linker directive

/-- Every call is answered, and what a reader sees of the answer is the definition of what was
asked for, each line ended by a line feed. -/
theorem readText_answer (builder : Builder) (call : Call) :
    ∃ fragment, builder.renderer.answer call = .ok fragment ∧
      readText fragment =
        String.join ((Definition.ofCall call).map fun line => line ++ "\n") := by
  refine ⟨_, answer_eq builder call, ?_⟩
  rw [readText_writeLines, ← content_lines builder.linker call, List.map_map]
  rfl

end SchemaPages.Html
