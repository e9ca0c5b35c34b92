import SchemaPages.Html.Builder
import SchemaPages.Proofs.Html.Inline
import SchemaPages.Proofs.Page.Dispatch
import SchemaPages.Proofs.Template.Filling

/-!
The fragments as trees. `Call.lines` gives the lines that stand for a type or a directive, and
`answer_eq` says that the answer of a builder is their markup. In particular a builder always
answers: its views have whatever the templates ask for.
-/

namespace SchemaPages.Html

open Introspection (Schema TypeRef InputValue Field EnumValue TypeDef Directive)
open Json (Value)
open Options (PluginOptions)
open Page (Call Document Plugin callFor?)
open Template (Fills Item)

namespace Inline

def comment (line : String) : Inline := .span .comment (mark "# " ++ .text line)

def identifier (name : String) : Inline := .span .identifier (.text name)

end Inline

open Inline (mark space word between comment identifier)

/-! ### The parts of a line -/

namespace Linker

def nameMarkup (linker : Linker) (name : String) : Inline :=
  if linker.known.contains name then .link (linker.url name) name
  else .span .typeName (.text name)

def refMarkup (linker : Linker) : TypeRef → Inline
  | .wrapping .list _ inner => mark "[" ++ linker.refMarkup inner ++ mark "]"
  | .wrapping .nonNull _ inner => linker.refMarkup inner ++ mark "!"
  | .wrapping _ name _ | .plain _ name => linker.nameMarkup (name.getD "")

theorem write_nameMarkup (linker : Linker) (name : String) :
    (linker.nameMarkup name).write = linker.named name := by
  simp only [nameMarkup, named]
  split <;> rfl

theorem write_refMarkup (linker : Linker) (ref : TypeRef) :
    (linker.refMarkup ref).write = linker.typeRef ref := by
  rw [typeRef]
  induction ref with
  | plain kind name => exact linker.write_nameMarkup _
  | wrapping kind name inner ih =>
      cases kind
      case list => simp [refMarkup, TypeRef.write, ih]
      case nonNull => simp [refMarkup, TypeRef.write, ih]
      all_goals exact linker.write_nameMarkup _

end Linker

def defaultMarkup : Option String → Inline
  | none => .empty
  | some value => mark " = " ++ .span .constant (.text value)

theorem write_defaultMarkup (value : Option String) :
    (defaultMarkup value).write = defaultValue value := by
  cases value with
  | none => rfl
  | some value =>
      simp only [defaultMarkup, defaultValue, Inline.write_append, Inline.write_mark,
        Inline.write, String.append_assoc]
      rfl

namespace Linker

def argumentMarkup (linker : Linker) (arg : InputValue) : Inline :=
  .span .parameter (.text arg.name) ++ mark ": " ++ linker.refMarkup arg.type ++
    defaultMarkup arg.defaultValue

def argumentsMarkup (linker : Linker) (args : List InputValue) : Inline :=
  if args.isEmpty then .empty
  else mark "(" ++ Inline.joined (mark ", ") (args.map linker.argumentMarkup) ++ mark ")"

theorem write_argumentMarkup (linker : Linker) (arg : InputValue) :
    (linker.argumentMarkup arg).write = linker.argument arg := by
  simp only [argumentMarkup, argument, Inline.write_append, write_refMarkup, write_defaultMarkup]
  rfl

theorem write_argumentsMarkup (linker : Linker) (args : List InputValue) :
    (linker.argumentsMarkup args).write = linker.arguments args := by
  simp only [argumentsMarkup, arguments]
  split
  · rfl
  · have hargs : (args.map linker.argumentMarkup).map Inline.write = args.map linker.argument := by
      simp [write_argumentMarkup]
    rw [Inline.write_append, Inline.write_append, Inline.write_joined, hargs]
    rfl

end Linker

/-- The reason is not shown if it is empty. -/
def reasonMarkup : Option String → Inline
  | none | some "" => .empty
  | some reason =>
    mark "(reason: " ++ .span .literal (mark "\"" ++ .text reason ++ mark "\"") ++ mark ")"

def deprecationMarkup (isDeprecated : Bool) (reason : Option String) : Inline :=
  if !isDeprecated then .empty else space ++ word "@deprecated" ++ reasonMarkup reason

theorem write_deprecationMarkup (isDeprecated : Bool) (reason : Option String) :
    (deprecationMarkup isDeprecated reason).write = deprecation isDeprecated reason := by
  simp only [deprecationMarkup, deprecation]
  cases isDeprecated with
  | false => rfl
  | true =>
      simp only [Bool.not_true, Bool.false_eq_true, if_false, Inline.write_append]
      simp only [reasonMarkup]
      split
      · rfl
      · rfl
      · simp only [Inline.write_append, Inline.write_mark, Inline.write_space, Inline.write,
          word, Style.text, String.append_assoc]

/-! ### Lines and blocks -/

def commentMarkup (description : Option String) : List Inline :=
  (commentLines description).map comment

/-- What a field shows, as trees where its view has markup. -/
structure FieldMarkup where
  name : String
  description : List String
  arguments : Inline := .empty
  type : Inline
  defaultValue : Inline := .empty
  deprecation : Inline := .empty

namespace FieldMarkup

def view (field : FieldMarkup) : FieldView where
  name := field.name
  description := field.description
  arguments := field.arguments.write
  typeHtml := field.type.write
  defaultValue := field.defaultValue.write
  deprecation := field.deprecation.write

/-- The line that a field has beside those of its description. -/
def line (field : FieldMarkup) : Inline :=
  .span .indented (.span .member (.text field.name) ++
    (field.arguments ++ (mark ": " ++ (field.type ++ (field.defaultValue ++ field.deprecation)))))

def lines (field : FieldMarkup) : List Inline :=
  field.description.map (fun line => .span .indented (comment line)) ++ [field.line]

end FieldMarkup

namespace Linker

def outputMarkup (linker : Linker) (field : Field) : FieldMarkup where
  name := field.name
  description := commentLines field.description
  arguments := linker.argumentsMarkup field.args
  type := linker.refMarkup field.type
  deprecation := deprecationMarkup field.isDeprecated field.deprecationReason

def inputMarkup (linker : Linker) (field : InputValue) : FieldMarkup where
  name := field.name
  description := commentLines field.description
  type := linker.refMarkup field.type
  defaultValue := defaultMarkup field.defaultValue

theorem view_outputMarkup (linker : Linker) (field : Field) :
    (linker.outputMarkup field).view = linker.outputField field := by
  simp only [FieldMarkup.view, outputMarkup, outputField, write_argumentsMarkup,
    write_refMarkup, write_deprecationMarkup]
  rfl

theorem view_inputMarkup (linker : Linker) (field : InputValue) :
    (linker.inputMarkup field).view = linker.inputField field := by
  simp only [FieldMarkup.view, inputMarkup, inputField, write_refMarkup, write_defaultMarkup]
  rfl

end Linker

def implementsMarkup (interfaces : List Inline) : Inline :=
  if interfaces.isEmpty then .empty
  else
    space ++ word "implements" ++
      (space ++ Inline.joined (between (.text "&")) interfaces)

def Linker.blockLines (linker : Linker) (keyword : String) (type : TypeDef)
    (fields : List FieldMarkup) : List Inline :=
  commentMarkup type.description ++
    [.span .keyword (.text keyword) ++ (space ++ identifier type.name) ++
      (implementsMarkup ((type.interfaces.getD []).map linker.refMarkup) ++
        (space ++ word "\x7b"))] ++
    fields.flatMap FieldMarkup.lines ++ [word "\x7d"]

def valueLines (value : EnumValue) : List Inline :=
  (commentLines value.description).map (fun line => .span .indented (comment line)) ++
    [.span .indented (.span .literal (.text value.name) ++
      deprecationMarkup value.isDeprecated value.deprecationReason)]

def scalarLines (type : TypeDef) : List Inline :=
  commentMarkup type.description ++ [word "scalar" ++ (space ++ identifier type.name)]

def Linker.unionLines (linker : Linker) (type : TypeDef) : List Inline :=
  commentMarkup type.description ++
    [word "union" ++ (space ++ identifier type.name) ++ (space ++ word "=") ++
      (space ++ Inline.joined (between (mark "|"))
        ((type.possibleTypes.getD []).map linker.refMarkup))]

def enumLines (type : TypeDef) : List Inline :=
  commentMarkup type.description ++
    [word "enum" ++ (space ++ identifier type.name) ++ (space ++ word "\x7b")] ++
    (type.enumValues.getD []).flatMap valueLines ++ [word "\x7d"]

def Linker.directiveLines (linker : Linker) (directive : Directive) : List Inline :=
  commentMarkup directive.description ++
    [word "directive" ++ (space ++ .span .member (mark "@" ++ .text directive.name)) ++
      (linker.argumentsMarkup directive.args ++
        ((if directive.isRepeatable then space ++ word "repeatable" else .empty) ++
          (space ++ word "on"))) ++
      (space ++ Inline.joined (between (mark "|"))
        (directive.locations.map fun location => .span .literal (.text location)))]

def Linker.lines (linker : Linker) : Call → List Inline
  | .scalar type => scalarLines type
  | .object type => linker.blockLines "type" type ((type.fields.getD []).map linker.outputMarkup)
  | .interface type =>
    linker.blockLines "interface" type ((type.fields.getD []).map linker.outputMarkup)
  | .union type => linker.unionLines type
  | .enumeration type => enumLines type
  | .inputObject type =>
    linker.blockLines "input" type ((type.inputFields.getD []).map linker.inputMarkup)
  | .directive directive => linker.directiveLines directive

/-! ### Filling the layouts

Every part of a layout gives the markup of a tree; the trees above are put together as the layouts
are. -/

section Layouts

variable {scope : Value} {last : Bool} {name s : String} {items : List Item} {markup : Inline}

theorem fills_span (style : Style) (h : Fills scope last items markup.write) :
    Fills scope last (span style.text items) (Inline.span style markup).write :=
  ((Fills.text _).append h).append (Fills.text _)

theorem fills_operator {letters : String} (h : markup.write = letters) :
    Fills scope last (operator letters) (Inline.span .keyword markup).write :=
  fills_span .keyword (h ▸ Fills.text _)

theorem fills_gap (style : Style) (h : Template.member? scope name = .ok (.str s)) :
    Fills scope last (gap style.text name) (Inline.span style (.text s)).write :=
  fills_span style (Fills.escaped h)

theorem fills_line (h : Fills scope last items markup.write) :
    Fills scope last (line items) (writeLines [markup]) := by
  rw [writeLines_cons, writeLine]
  rw [line]
  simpa [writeLines] using ((Fills.text "<li>").append h).append (Fills.text "</li>\n")

theorem repeated_writeLines {α : Type} (lines : α → List Inline) (xs : List α) :
    Template.repeated (fun x _ => writeLines (lines x)) xs = writeLines (xs.flatMap lines) := by
  induction xs with
  | nil => rfl
  | cons x xs ih => rw [Template.repeated, ih, List.flatMap_cons, writeLines_append]

theorem fills_comment (line : String) :
    Fills (.str line) last (span "comment line" [.text "# ", .escaped .this])
      (comment line).write :=
  fills_span .comment ((Fills.text "# ").append (Fills.escaped rfl))

theorem fills_comments {lines : List String}
    (h : Template.elements? scope "description" = .ok (lines.map Value.str)) :
    Fills scope last comments (writeLines (lines.map comment)) := by
  rw [List.map_eq_flatMap, ← repeated_writeLines]
  exact Fills.each h fun line _ => fills_line (fills_comment line)

theorem fills_innerComments {lines : List String}
    (h : Template.elements? scope "description" = .ok (lines.map Value.str)) :
    Fills scope last innerComments
      (writeLines (lines.map fun line => .span .indented (comment line))) := by
  rw [List.map_eq_flatMap, ← repeated_writeLines]
  exact Fills.each h fun line _ => fills_line (fills_span .indented (fills_comment line))

theorem repeated_joined {α : Type} (markup : α → Inline) (separator : Inline) (xs : List α) :
    Template.repeated
        (fun x last => (markup x).write ++ if last then "" else separator.write) xs =
      (Inline.joined separator (xs.map markup)).write := by
  induction xs with
  | nil => rfl
  | cons x xs ih =>
      rw [Template.repeated, ih, List.map_cons, Inline.joined, Inline.write_append,
        Inline.write_append, List.isEmpty_map]
      cases xs <;> rfl

theorem fills_joined {α : Type} {element : α → Value} {text : α → Inline} {xs : List α}
    {sign : Inline} {letters : String} (hsign : sign.write = letters)
    (hxs : Template.elements? scope name = .ok (xs.map element))
    (hitems : ∀ x last, Fills (element x) last items (text x).write) :
    Fills scope last [joined name items letters]
      (Inline.joined (between sign) (xs.map text)).write := by
  rw [← repeated_joined]
  exact Fills.each hxs fun x last => (hitems x last).append
    (Fills.unlessLast (((Fills.text " ").append (fills_operator hsign)).append (Fills.text " ")))

theorem fill_of_fills {layout : Layout} {context : Value}
    (h : Fills context false layout.template s) : layout.fill context = .ok s := by
  simp only [Layout.fill, Template.fillTemplate]
  rw [h]

theorem fills_title {keyword : Inline} (h : Fills scope last items keyword.write)
    (hname : Template.member? scope "name" = .ok (.str s)) :
    Fills scope last (items ++ .text " " :: gap "identifier" "name")
      (keyword ++ (space ++ identifier s)).write :=
  h.append ((Fills.text " ").append (fills_gap .identifier hname))

theorem fills_openBlock :
    Fills scope last (.text " " :: openBlock) (space ++ word "\x7b").write :=
  (Fills.text " ").append (fills_operator rfl)

theorem fills_closeBlock : Fills scope last closeBlock (writeLines [word "\x7d"]) :=
  fills_line (fills_operator rfl)

theorem fill_scalar (type : TypeDef) :
    Layout.scalar.fill (TypeView.ofType type).context = .ok (writeLines (scalarLines type)) := by
  apply fill_of_fills
  rw [scalarLines, writeLines_append]
  exact (fills_comments rfl).append (fills_line (fills_title (fills_operator rfl) rfl))

theorem fills_refs (linker : Linker) {refs : List TypeRef} {sign : Inline} {letters : String}
    (hsign : sign.write = letters)
    (hrefs : Template.elements? scope name = .ok ((refs.map linker.typeRef).map Value.str)) :
    Fills scope last [joined name [.raw .this] letters]
      (Inline.joined (between sign) (refs.map linker.refMarkup)).write := by
  rw [List.map_map] at hrefs
  apply fills_joined hsign hrefs
  intro ref last
  rw [linker.write_refMarkup]
  exact Fills.raw rfl

theorem fill_union (linker : Linker) (type : TypeDef) :
    Layout.union.fill (linker.unionView type).context =
      .ok (writeLines (linker.unionLines type)) := by
  apply fill_of_fills
  rw [Linker.unionLines, writeLines_append]
  refine (fills_comments rfl).append (fills_line ?_)
  refine Fills.append (Fills.append ?_ ?_) ?_
  · exact fills_title (fills_operator rfl) rfl
  · exact (Fills.text " ").append (fills_operator rfl)
  · exact (Fills.text " ").append (fills_refs linker rfl rfl)

theorem fills_value (value : EnumValue) :
    Fills (EnumValueView.ofValue value).context last
      (innerComments ++ line (span "tab" (gap "string" "name" ++ [.raw (.member "deprecation")])))
      (writeLines (valueLines value)) := by
  have hdeprecation := write_deprecationMarkup value.isDeprecated value.deprecationReason
  rw [valueLines, writeLines_append]
  refine (fills_innerComments rfl).append (fills_line (fills_span .indented ?_))
  refine (fills_gap .literal rfl).append ?_
  rw [hdeprecation]
  exact Fills.raw rfl

theorem fill_enumeration (type : TypeDef) :
    Layout.enumeration.fill (TypeView.ofEnum type).context =
      .ok (writeLines (enumLines type)) := by
  apply fill_of_fills
  have hvalues : Template.elements? (TypeView.ofEnum type).context "values" =
      .ok ((type.enumValues.getD []).map fun value => (EnumValueView.ofValue value).context) := by
    change Except.ok (((type.enumValues.getD []).map EnumValueView.ofValue).map _) = _
    rw [List.map_map]
    rfl
  rw [enumLines, writeLines_append, writeLines_append, writeLines_append]
  refine Fills.append (Fills.append (Fills.append (fills_comments rfl) ?_) ?_) fills_closeBlock
  · refine fills_line (Fills.append ?_ fills_openBlock)
    exact fills_title (fills_operator rfl) rfl
  · rw [← repeated_writeLines]
    exact Fills.each hvalues fun value _ => fills_value value

theorem fills_field (field : FieldMarkup) :
    Fills field.view.context last
      (innerComments ++
        line (span "tab"
          (gap "meta" "name" ++
            [.raw (.member "arguments"), .text ": ", .raw (.member "type_html"),
              .raw (.member "default_value"), .raw (.member "deprecation")])))
      (writeLines field.lines) := by
  rw [FieldMarkup.lines, writeLines_append]
  refine (fills_innerComments rfl).append (fills_line (fills_span .indented ?_))
  refine (fills_gap .member rfl).append ?_
  have harguments : Fills field.view.context last [.raw (.member "arguments")]
      field.arguments.write := Fills.raw rfl
  have htype : Fills field.view.context last [.raw (.member "type_html")]
      field.type.write := Fills.raw rfl
  have hdefault : Fills field.view.context last [.raw (.member "default_value")]
      field.defaultValue.write := Fills.raw rfl
  have hdeprecation : Fills field.view.context last [.raw (.member "deprecation")]
      field.deprecation.write := Fills.raw rfl
  exact harguments.append ((Fills.text ": ").append (htype.append (hdefault.append hdeprecation)))

theorem fills_implements (linker : Linker) {refs : List TypeRef}
    (hrefs : Template.member? scope "interfaces" = .ok (texts (refs.map linker.typeRef))) :
    Fills scope last
      [.whenSet "interfaces" (.text " " :: operator "implements" ++
        [.text " ", joined "interfaces" [.raw .this] "&amp;"])]
      (implementsMarkup (refs.map linker.refMarkup)).write := by
  have hset : Template.isSetMember scope "interfaces" = !refs.isEmpty := by
    rw [Template.isSetMember, hrefs]
    simp [texts, Template.isSet]
  have helements : Template.elements? scope "interfaces" =
      .ok ((refs.map linker.typeRef).map Value.str) := by
    rw [Template.elements?, hrefs]
    rfl
  rw [implementsMarkup]
  rw [List.isEmpty_map]
  cases hempty : refs.isEmpty with
  | true =>
      rw [hempty] at hset
      exact Fills.whenSet_not hset
  | false =>
      rw [hempty] at hset
      refine Fills.whenSet hset (Fills.append ?_ ?_)
      · exact (Fills.text " ").append (fills_operator rfl)
      · exact (Fills.text " ").append (fills_refs linker (by decide) helements)

theorem fill_fields (linker : Linker) (keyword : String) (type : TypeDef)
    (fields : List FieldMarkup) :
    Layout.fields.fill
        (linker.fieldsView keyword type (fields.map FieldMarkup.view)).context =
      .ok (writeLines (linker.blockLines keyword type fields)) := by
  apply fill_of_fills
  have hfields : Template.elements?
      (linker.fieldsView keyword type (fields.map FieldMarkup.view)).context "fields" =
      .ok (fields.map fun field => field.view.context) := by
    change Except.ok ((fields.map FieldMarkup.view).map FieldView.context) = _
    rw [List.map_map]
    rfl
  rw [Linker.blockLines, writeLines_append, writeLines_append, writeLines_append]
  refine Fills.append (Fills.append (Fills.append (fills_comments rfl) ?_) ?_) fills_closeBlock
  · refine fills_line (Fills.append ?_ ?_)
    · exact fills_title (fills_gap .keyword rfl) rfl
    · exact (fills_implements linker rfl).append fills_openBlock
  · rw [← repeated_writeLines]
    exact Fills.each hfields fun field _ => fills_field field

theorem fills_repeatable {isRepeatable : Bool}
    (h : Template.member? scope "repeatable" = .ok (.bool isRepeatable)) :
    Fills scope last [.whenSet "repeatable" (.text " " :: operator "repeatable")]
      (if isRepeatable then space ++ word "repeatable" else .empty).write := by
  have hset : Template.isSetMember scope "repeatable" = isRepeatable := by
    rw [Template.isSetMember, h]
    rfl
  cases isRepeatable with
  | true => exact Fills.whenSet hset ((Fills.text " ").append (fills_operator rfl))
  | false => exact Fills.whenSet_not hset

theorem fill_directive (linker : Linker) (directive : Directive) :
    Layout.directive.fill (linker.directiveView directive).context =
      .ok (writeLines (linker.directiveLines directive)) := by
  apply fill_of_fills
  have harguments : Fills (linker.directiveView directive).context false
      [.raw (.member "arguments")] (linker.argumentsMarkup directive.args).write := by
    rw [linker.write_argumentsMarkup]
    exact Fills.raw rfl
  have hon : Fills (linker.directiveView directive).context false
      (.text " " :: operator "on") (space ++ word "on").write :=
    (Fills.text " ").append (fills_operator rfl)
  have hname : Fills (linker.directiveView directive).context false
      [.text "@", .escaped (.member "name")] (mark "@" ++ .text directive.name).write :=
    (Fills.text "@").append (Fills.escaped rfl)
  rw [Linker.directiveLines, writeLines_append]
  refine (fills_comments rfl).append (fills_line ?_)
  refine Fills.append (Fills.append (Fills.append ?_ ?_) ?_) ?_
  · exact fills_operator rfl
  · exact (Fills.text " ").append (fills_span .member hname)
  · exact harguments.append ((fills_repeatable rfl).append hon)
  · refine (Fills.text " ").append ?_
    exact fills_joined rfl rfl fun location last => fills_span .literal (Fills.escaped rfl)

end Layouts

/-- A builder answers every call, with the markup of the lines that the call stands for. -/
theorem answer_eq (builder : Builder) (call : Call) :
    builder.renderer.answer call = .ok (writeLines (builder.linker.lines call)) := by
  have houtput (fields : Option (List Field)) :
      (fields.getD []).map builder.linker.outputField =
        ((fields.getD []).map builder.linker.outputMarkup).map FieldMarkup.view := by
    rw [List.map_map]
    exact List.map_congr_left fun field _ => (builder.linker.view_outputMarkup field).symm
  have hinput (fields : Option (List InputValue)) :
      (fields.getD []).map builder.linker.inputField =
        ((fields.getD []).map builder.linker.inputMarkup).map FieldMarkup.view := by
    rw [List.map_map]
    exact List.map_congr_left fun field _ => (builder.linker.view_inputMarkup field).symm
  cases call with
  | scalar type => exact fill_scalar type
  | object type =>
      change Layout.fields.fill _ = _
      rw [houtput]
      exact fill_fields ..
  | interface type =>
      change Layout.fields.fill _ = _
      rw [houtput]
      exact fill_fields ..
  | union type => exact fill_union builder.linker type
  | enumeration type => exact fill_enumeration type
  | inputObject type =>
      change Layout.fields.fill _ = _
      rw [hinput]
      exact fill_fields ..
  | directive directive => exact fill_directive builder.linker directive

/-- A plugin with a builder has one document for each name that stands for a call. -/
theorem documents_builder (builder : Builder) (schema : Schema) (options : PluginOptions)
    (name : String) :
    (Plugin.ofRenderer schema options builder.renderer).documents name =
      .ok ((callFor? schema name).toList.map fun call =>
        Document.wrap options.documentTitle (writeLines (builder.linker.lines call))) := by
  rw [Page.documents_eq]
  cases callFor? schema name with
  | none => rfl
  | some call =>
      change Plugin.document _ (builder.renderer.answer call) = _
      rw [answer_eq builder call]
      rfl

end SchemaPages.Html
