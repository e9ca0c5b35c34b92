import Mathlib.Tactic.MkIffOfInductiveProp
import Mathlib.Tactic.Tauto
import SchemaPages.Html.Builder
import SchemaPages.Proofs.Template.Supply

/-!
The contexts that the layouts accept. `Layout.Accepts` says what a context must have for each of the
five; a layout is filled from the contexts it accepts, and from any other it fails as a template.
What is asked inside of a repetition is asked of each element by itself: the context around an
element supplies nothing to it, and an empty collection needs nothing.
-/

namespace SchemaPages.Html

open Json (Value)
open Template (Item Supplies Has HasEach HasCollection Consists)

@[mk_iff] structure IsFieldContext (v : Value) : Prop where
  description : HasCollection "description" v
  name : Has "name" v
  arguments : Has "arguments" v
  typeHtml : Has "type_html" v
  defaultValue : Has "default_value" v
  deprecation : Has "deprecation" v

@[mk_iff] structure IsValueContext (v : Value) : Prop where
  description : HasCollection "description" v
  name : Has "name" v
  deprecation : Has "deprecation" v

/-- What a layout needs besides a description and a name. The interfaces of a block may be missing
or hold nothing; whatever else they hold is gone through. -/
def Layout.Needs : Layout → Value → Prop
  | .scalar, _ => True
  | .fields, v =>
    Has "keyword" v ∧
      (∀ found, v.get? "interfaces" = some found → Template.isSet found = true →
        Consists (fun _ => True) found) ∧
      HasEach "fields" IsFieldContext v
  | .union, v => HasCollection "members" v
  | .enumeration, v => HasEach "values" IsValueContext v
  | .directive, v => Has "arguments" v ∧ HasCollection "locations" v

/-- The context has whatever the layout reaches. -/
@[mk_iff] structure Layout.Accepts (layout : Layout) (v : Value) : Prop where
  description : HasCollection "description" v
  name : Has "name" v
  needs : layout.Needs v

/-! ### What the parts of a layout need -/

section Parts

variable {scope : Value} {last : Bool} {name style : String} {items : List Item}

@[simp] theorem supplies_span :
    Supplies scope last (span style items) ↔ Supplies scope last items := by
  simp [span]

@[simp] theorem supplies_line : Supplies scope last (line items) ↔ Supplies scope last items := by
  simp [line]

@[simp] theorem supplies_operator {word : String} : Supplies scope last (operator word) := by
  simp [operator]

@[simp] theorem supplies_gap : Supplies scope last (gap style name) ↔ Has name scope := by
  simp [gap]

@[simp] theorem supplies_openBlock : Supplies scope last openBlock := supplies_operator

@[simp] theorem supplies_closeBlock : Supplies scope last closeBlock := by
  simp [closeBlock]

@[simp] theorem supplies_comments :
    Supplies scope last comments ↔ HasCollection "description" scope := by
  rw [comments, Template.supplies_cons, Template.suppliedBy_each_any (by simp)]
  simp

@[simp] theorem supplies_innerComments :
    Supplies scope last innerComments ↔ HasCollection "description" scope := by
  rw [innerComments, Template.supplies_cons, Template.suppliedBy_each_any (by simp)]
  simp

theorem suppliedBy_joined {element : List Item} {between : String}
    (h : ∀ v last, Supplies v last element) :
    (joined name element between).SuppliedBy scope last ↔ HasCollection name scope := by
  apply Template.suppliedBy_each_any
  intro v last
  simp [h]

/-- A mark that depends on a member needs nothing of it. -/
theorem suppliedBy_mark {word : String} :
    (Item.whenSet name (.text " " :: operator word)).SuppliedBy scope last := by
  rw [Template.suppliedBy_whenSet]
  simp

/-- Once a member is known to hold something, joining its elements needs no more than that they can
be gone through. -/
theorem suppliedBy_implements :
    (Item.whenSet "interfaces" (.text " " :: operator "implements" ++
        [.text " ", joined "interfaces" [.raw .this] "&amp;"])).SuppliedBy scope last ↔
      ∀ found, scope.get? "interfaces" = some found → Template.isSet found = true →
        Consists (fun _ => True) found := by
  rw [Template.suppliedBy_whenSet]
  refine forall_congr' fun found => forall_congr' fun hfound => forall_congr' fun _ => ?_
  have hjoined : (joined "interfaces" [.raw .this] "&amp;").SuppliedBy scope last ↔
      HasCollection "interfaces" scope := suppliedBy_joined (by simp)
  simp [hjoined, HasCollection, HasEach, hfound]

theorem supplies_field (scope : Value) (last : Bool) :
    Supplies scope last
        (innerComments ++
          line (span "tab"
            (gap "meta" "name" ++
              [.raw (.member "arguments"), .text ": ", .raw (.member "type_html"),
                .raw (.member "default_value"), .raw (.member "deprecation")]))) ↔
      IsFieldContext scope := by
  simp only [isFieldContext_iff, Template.supplies_append, Template.supplies_cons,
    Template.supplies_nil, Template.suppliedBy_text, Template.suppliedBy_member,
    supplies_innerComments, supplies_line, supplies_span, supplies_gap, true_and, and_true]

theorem supplies_value (scope : Value) (last : Bool) :
    Supplies scope last
        (innerComments ++
          line (span "tab" (gap "string" "name" ++ [.raw (.member "deprecation")]))) ↔
      IsValueContext scope := by
  simp only [isValueContext_iff, Template.supplies_append, Template.supplies_cons,
    Template.supplies_nil, Template.suppliedBy_member, supplies_innerComments, supplies_line,
    supplies_span, supplies_gap, and_true]

end Parts

theorem supplies_template (layout : Layout) (context : Value) :
    Supplies context false layout.template ↔ layout.Accepts context := by
  rw [Layout.accepts_iff]
  -- The lists stay as they are put together, for the lemmas about their parts to apply.
  cases layout with
  | scalar => simp [Layout.template, Layout.Needs]
  | fields =>
      simp only [Layout.template, Layout.Needs, Template.supplies_append, Template.supplies_cons,
        Template.supplies_nil, Template.suppliedBy_text, supplies_comments, supplies_line,
        supplies_gap, supplies_openBlock, supplies_closeBlock, suppliedBy_implements,
        Template.suppliedBy_each supplies_field]
      tauto
  | union =>
      have hmembers : (joined "members" [.raw .this] "|").SuppliedBy context false ↔
          HasCollection "members" context := suppliedBy_joined (by simp)
      simp [Layout.template, Layout.Needs, hmembers]
  | enumeration =>
      simp only [Layout.template, Layout.Needs, Template.supplies_append, Template.supplies_cons,
        Template.supplies_nil, Template.suppliedBy_text, supplies_comments, supplies_line,
        supplies_operator, supplies_gap, supplies_openBlock, supplies_closeBlock,
        Template.suppliedBy_each supplies_value]
      tauto
  | directive =>
      have hlocations :
          (joined "locations" (span "string" [.escaped .this]) "|").SuppliedBy context false ↔
            HasCollection "locations" context := suppliedBy_joined (by simp)
      simp only [Layout.template, Layout.Needs, Template.supplies_append, Template.supplies_cons,
        Template.supplies_nil, Template.suppliedBy_text, Template.suppliedBy_member,
        supplies_comments, supplies_line, supplies_span, supplies_operator, suppliedBy_mark,
        hlocations]
      tauto

/-- A layout gives a fragment for exactly the contexts that it accepts. For every other context it
fails, and the failure is one of the template. -/
theorem Layout.fill_iff_accepts (layout : Layout) (context : Value) :
    ((∃ fragment, layout.fill context = .ok fragment) ↔ layout.Accepts context) ∧
      ((∃ fault, layout.fill context = .error (.template (.badContext layout.name fault))) ↔
        ¬ layout.Accepts context) := by
  have haccepts := (Template.exists_render_iff context false Template.Place.start
    layout.template).trans (supplies_template layout context)
  rw [← haccepts, Layout.fill, Template.fillTemplate]
  cases Template.render context false Template.Place.start layout.template with
  | ok fragment => simp
  | error fault => simp

end SchemaPages.Html
