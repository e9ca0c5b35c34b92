import SchemaPages.Proofs.Html.Entity

/-!
The addresses in the trees of fragments. A linker decides two things about a name: whether it is
linked, which depends on the known names, and to which address, which depends on the base address.
So the lines of two linkers that know the same names are the same up to the addresses.
-/

namespace SchemaPages.Html

open Introspection (TypeRef InputValue Field EnumValue TypeDef Directive)
open Inline (between mark space word comment)
open Page (Call)

namespace Inline

/-- The markup with every link led to the address that is made of its name. -/
def readdress (address : String → String) : Inline → Inline
  | .empty => .empty
  | .plain mark isPlain => .plain mark isPlain
  | .text words => .text words
  | .span style body => .span style (body.readdress address)
  | .link _ name => .link (address name) name
  | .append first second => .append (first.readdress address) (second.readdress address)

variable (address : String → String)

@[simp] theorem readdress_empty : Inline.empty.readdress address = .empty := rfl

@[simp] theorem readdress_text (words : String) :
    (Inline.text words).readdress address = .text words := rfl

@[simp] theorem readdress_span (style : Style) (body : Inline) :
    (Inline.span style body).readdress address = .span style (body.readdress address) := rfl

@[simp] theorem readdress_append (first second : Inline) :
    (first ++ second).readdress address =
      first.readdress address ++ second.readdress address := rfl

@[simp] theorem readdress_mark (sign : String) (h : IsPlain sign) :
    (mark sign h).readdress address = mark sign h := rfl

@[simp] theorem readdress_space : space.readdress address = space := rfl

@[simp] theorem readdress_word (letters : String) (h : IsPlain letters) :
    (word letters h).readdress address = word letters h := rfl

theorem readdress_between (sign : Inline) :
    (between sign).readdress address = between (sign.readdress address) := rfl

theorem readdress_joined (separator : Inline) (elements : List Inline) :
    (joined separator elements).readdress address =
      joined (separator.readdress address) (elements.map (readdress address)) := by
  induction elements with
  | nil => rfl
  | cons element rest ih =>
      rw [joined, readdress_append, readdress_append, ih, List.map_cons, joined, List.isEmpty_map]
      cases rest <;> rfl

theorem readdress_readdress (later : String → String) (markup : Inline) :
    (markup.readdress address).readdress later = markup.readdress later := by
  induction markup with
  | span style body ih => exact congrArg (Inline.span style) ih
  | append first second ih ih' => rw [readdress, readdress, ih, ih', readdress]
  | _ => rfl

end Inline

/-- The field with every link led to another address. -/
def FieldMarkup.readdress (address : String → String) (field : FieldMarkup) : FieldMarkup :=
  { field with
    arguments := field.arguments.readdress address
    type := field.type.readdress address
    defaultValue := field.defaultValue.readdress address
    deprecation := field.deprecation.readdress address }

/-! ### Markup without references -/

section Plain

variable (address : String → String)

theorem readdress_defaultMarkup (value : Option String) :
    (defaultMarkup value).readdress address = defaultMarkup value := by
  cases value <;> rfl

theorem readdress_deprecationMarkup (isDeprecated : Bool) (reason : Option String) :
    (deprecationMarkup isDeprecated reason).readdress address =
      deprecationMarkup isDeprecated reason := by
  simp only [deprecationMarkup, reasonMarkup]
  split
  · rfl
  · split <;> rfl

theorem map_readdress_commentMarkup (description : Option String) :
    (commentMarkup description).map (Inline.readdress address) = commentMarkup description := by
  rw [commentMarkup, List.map_map]
  rfl

theorem map_readdress_valueLines (value : EnumValue) :
    (valueLines value).map (Inline.readdress address) = valueLines value := by
  rw [valueLines, List.map_append, List.map_map, List.map_singleton, Inline.readdress_span,
    Inline.readdress_append, readdress_deprecationMarkup]
  rfl

theorem map_readdress_fieldLines (field : FieldMarkup) :
    field.lines.map (Inline.readdress address) = (field.readdress address).lines := by
  rw [FieldMarkup.lines, List.map_append, List.map_map]
  rfl

end Plain

/-! ### References

Two linkers know the same names. -/

section References

variable {linker other : Linker}
  (h : ∀ name, linker.known.contains name = other.known.contains name)
include h

theorem readdress_nameMarkup (name : String) :
    (linker.nameMarkup name).readdress other.url = other.nameMarkup name := by
  rw [Linker.nameMarkup, Linker.nameMarkup, h]
  split <;> rfl

theorem readdress_refMarkup (ref : TypeRef) :
    (linker.refMarkup ref).readdress other.url = other.refMarkup ref := by
  induction ref with
  | plain kind name => exact readdress_nameMarkup h _
  | wrapping kind name inner ih =>
      cases kind
      case list => simp [Linker.refMarkup, ih]
      case nonNull => simp [Linker.refMarkup, ih]
      all_goals exact readdress_nameMarkup h _

theorem map_readdress_refs (refs : List TypeRef) :
    (refs.map linker.refMarkup).map (Inline.readdress other.url) = refs.map other.refMarkup := by
  rw [List.map_map]
  exact List.map_congr_left fun ref _ => readdress_refMarkup h ref

theorem readdress_argumentsMarkup (args : List InputValue) :
    (linker.argumentsMarkup args).readdress other.url = other.argumentsMarkup args := by
  have hargument (arg : InputValue) :
      (linker.argumentMarkup arg).readdress other.url = other.argumentMarkup arg := by
    simp [Linker.argumentMarkup, readdress_refMarkup h, readdress_defaultMarkup]
  have hargs : (args.map linker.argumentMarkup).map (Inline.readdress other.url) =
      args.map other.argumentMarkup := by
    rw [List.map_map]
    exact List.map_congr_left fun arg _ => hargument arg
  rw [Linker.argumentsMarkup, Linker.argumentsMarkup]
  split
  · rfl
  · rw [Inline.readdress_append, Inline.readdress_append, Inline.readdress_joined, hargs]
    rfl

theorem readdress_outputMarkup (field : Field) :
    (linker.outputMarkup field).readdress other.url = other.outputMarkup field := by
  simp [FieldMarkup.readdress, Linker.outputMarkup, readdress_argumentsMarkup h,
    readdress_refMarkup h, readdress_deprecationMarkup]

theorem readdress_inputMarkup (field : InputValue) :
    (linker.inputMarkup field).readdress other.url = other.inputMarkup field := by
  simp [FieldMarkup.readdress, Linker.inputMarkup, readdress_refMarkup h, readdress_defaultMarkup]

theorem readdress_implementsMarkup (refs : List TypeRef) :
    (implementsMarkup (refs.map linker.refMarkup)).readdress other.url =
      implementsMarkup (refs.map other.refMarkup) := by
  rw [implementsMarkup, implementsMarkup, List.isEmpty_map, List.isEmpty_map]
  split
  · rfl
  · simp [Inline.readdress_joined, Inline.readdress_between, map_readdress_refs h]

theorem map_readdress_blockLines (keyword : String) (type : TypeDef) (fields : List FieldMarkup) :
    (linker.blockLines keyword type fields).map (Inline.readdress other.url) =
      other.blockLines keyword type (fields.map (FieldMarkup.readdress other.url)) := by
  have hfields : (fields.flatMap FieldMarkup.lines).map (Inline.readdress other.url) =
      (fields.map (FieldMarkup.readdress other.url)).flatMap FieldMarkup.lines := by
    rw [List.map_flatMap, List.flatMap_map]
    simp only [map_readdress_fieldLines]
  rw [Linker.blockLines, Linker.blockLines]
  simp only [List.map_append, map_readdress_commentMarkup, hfields, List.map_singleton,
    Inline.readdress_append, readdress_implementsMarkup h]
  rfl

theorem map_readdress_unionLines (type : TypeDef) :
    (linker.unionLines type).map (Inline.readdress other.url) = other.unionLines type := by
  rw [Linker.unionLines, Linker.unionLines, List.map_append, map_readdress_commentMarkup,
    List.map_singleton]
  simp only [Inline.readdress_append, Inline.readdress_joined, Inline.readdress_between,
    map_readdress_refs h]
  rfl

theorem map_readdress_directiveLines (directive : Directive) :
    (linker.directiveLines directive).map (Inline.readdress other.url) =
      other.directiveLines directive := by
  have hlocations : (directive.locations.map fun location =>
      Inline.span .literal (.text location)).map (Inline.readdress other.url) =
        directive.locations.map fun location => .span .literal (.text location) := by
    rw [List.map_map]
    rfl
  have hrepeatable : (if directive.isRepeatable then space ++ word "repeatable"
      else Inline.empty).readdress other.url =
        if directive.isRepeatable then space ++ word "repeatable" else .empty := by
    split <;> rfl
  rw [Linker.directiveLines, Linker.directiveLines, List.map_append, map_readdress_commentMarkup,
    List.map_singleton]
  simp only [Inline.readdress_append, Inline.readdress_joined, Inline.readdress_between,
    readdress_argumentsMarkup h, hlocations, hrepeatable]
  rfl

/-- The lines of a linker become those of another one that knows the same names as soon as the
links lead to the addresses of that. -/
theorem map_readdress_lines (call : Call) :
    (linker.lines call).map (Inline.readdress other.url) = other.lines call := by
  have houtput (fields : List Field) :
      (fields.map linker.outputMarkup).map (FieldMarkup.readdress other.url) =
        fields.map other.outputMarkup := by
    rw [List.map_map]
    exact List.map_congr_left fun field _ => readdress_outputMarkup h field
  have hinput (fields : List InputValue) :
      (fields.map linker.inputMarkup).map (FieldMarkup.readdress other.url) =
        fields.map other.inputMarkup := by
    rw [List.map_map]
    exact List.map_congr_left fun field _ => readdress_inputMarkup h field
  cases call with
  | scalar type =>
      change (scalarLines type).map (Inline.readdress other.url) = scalarLines type
      rw [scalarLines, List.map_append, map_readdress_commentMarkup]
      rfl
  | object type =>
      change (linker.blockLines ..).map _ = other.blockLines ..
      rw [map_readdress_blockLines h, houtput]
  | interface type =>
      change (linker.blockLines ..).map _ = other.blockLines ..
      rw [map_readdress_blockLines h, houtput]
  | union type => exact map_readdress_unionLines h type
  | enumeration type =>
      change (enumLines type).map (Inline.readdress other.url) = enumLines type
      rw [enumLines]
      simp only [List.map_append, map_readdress_commentMarkup, List.map_flatMap,
        map_readdress_valueLines]
      rfl
  | inputObject type =>
      change (linker.blockLines ..).map _ = other.blockLines ..
      rw [map_readdress_blockLines h, hinput]
  | directive directive => exact map_readdress_directiveLines h directive

/-- The lines depend on nothing but the base address and which names are known. -/
theorem lines_congr (hbase : linker.baseUrl = other.baseUrl) (call : Call) :
    linker.lines call = other.lines call := by
  have hurl : linker.url = other.url := by
    funext name
    rw [Linker.url, hbase, Linker.url]
  -- Both have the same addresses, so it is enough to lead the links to where they lead already.
  have hself : (linker.lines call).map (Inline.readdress linker.url) = linker.lines call :=
    map_readdress_lines (fun _ => rfl) call
  rw [← hself, hurl, map_readdress_lines h]

end References

end SchemaPages.Html
