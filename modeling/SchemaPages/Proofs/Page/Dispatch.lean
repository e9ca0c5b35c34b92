import SchemaPages.Page.Plugin
import SchemaPages.Page.Recorder
import SchemaPages.Proofs.Keyed.Lookup

/-!
What a plugin asks of its renderer. A name stands for one call at most, which the schema alone
decides; the answer to that call is all that the documents of the name depend on. Nothing is kept
from one name to the next.
-/

namespace SchemaPages.Page

open Introspection (Schema TypeDef Directive)
open Options (PluginOptions)

variable {m : Type → Type}

def Renderer.answer (renderer : Renderer m) : Call → m String
  | .scalar type => renderer.scalar type
  | .object type => renderer.object type
  | .interface type => renderer.interface type
  | .union type => renderer.union type
  | .enumeration type => renderer.enumeration type
  | .inputObject type => renderer.inputObject type
  | .directive directive => renderer.directive directive

/-- The call that shows a type, if types of its kind are shown. -/
def Call.ofType? (type : TypeDef) : Option Call :=
  match type.kind with
  | .scalar => some (.scalar type)
  | .object => some (.object type)
  | .interface => some (.interface type)
  | .union => some (.union type)
  | .enumeration => some (.enumeration type)
  | .inputObject => some (.inputObject type)
  | .list | .nonNull | .other _ => none

/-- The call that a name stands for. The last type of that name decides; the last directive of
that name counts only where no type has the name. -/
def callFor? (schema : Schema) (name : String) : Option Call :=
  match Keyed.last? TypeDef.name name schema.types with
  | some type => Call.ofType? type
  | none => (Keyed.last? Directive.name name schema.directives).map .directive

def outcome (schema : Schema) (options : PluginOptions) (renderer : Renderer (Except Failure))
    (name : String) : Except Failure (List Document) :=
  match callFor? schema name with
  | none => .ok []
  | some call =>
    match renderer.answer call with
    | .ok fragment =>
      .ok [⟨options.documentTitle, envelopeOpen ++ fragment ++ envelopeClose⟩]
    | .error failure => .error failure

/-- The documents of a name come from the answer to the one call for it. -/
theorem documents_eq [Monad m] (schema : Schema) (options : PluginOptions)
    (renderer : Renderer m) (name : String) :
    (Plugin.ofRenderer schema options renderer).documents name =
      match callFor? schema name with
      | some call => (Plugin.ofRenderer schema options renderer).document (renderer.answer call)
      | none => pure [] := by
  have htypes : Keyed.get? name (Plugin.ofRenderer schema options renderer).types =
      Keyed.last? TypeDef.name name schema.types := Keyed.get?_ofList ..
  have hdirectives : Keyed.get? name (Plugin.ofRenderer schema options renderer).directives =
      Keyed.last? Directive.name name schema.directives := Keyed.get?_ofList ..
  simp only [Plugin.documents, callFor?]
  rw [htypes, hdirectives]
  cases Keyed.last? TypeDef.name name schema.types with
  | none => cases Keyed.last? Directive.name name schema.directives <;> rfl
  | some type =>
      -- The two tables of kinds are read side by side.
      simp only [Renderer.operation?, Call.ofType?]
      cases type.kind <;> rfl

theorem run_answer_recorded (renderer : Renderer (Except Failure)) (call : Call)
    (earlier : List Call) :
    (renderer.recorded.answer call).run.run earlier =
      (renderer.answer call, earlier ++ [call]) := by
  have hcall (answer : Except Failure String) :
      (Recorded.call call answer).run.run earlier = (answer, earlier ++ [call]) := by
    cases answer <;> rfl
  cases call <;> exact hcall _

/-- One name adds the call it stands for to those made before, and nothing else. -/
theorem run_documents_recorded (schema : Schema) (options : PluginOptions)
    (renderer : Renderer (Except Failure)) (name : String) (earlier : List Call) :
    ((Plugin.ofRenderer schema options renderer.recorded).documents name).run.run earlier =
      (outcome schema options renderer name, earlier ++ (callFor? schema name).toList) := by
  rw [documents_eq]
  rw [outcome]
  cases callFor? schema name with
  | none =>
      rw [Option.toList_none, List.append_nil]
      rfl
  | some call =>
      have hrun := run_answer_recorded renderer call earlier
      simp only [Plugin.document]
      simp only [ExceptT.run_bind, StateT.run_bind, hrun]
      cases renderer.answer call <;> rfl

/-- Names asked one after the other of one plugin: every answer is that of its own name, whatever
was asked before, and the calls are those of the names in order. -/
theorem run_mapM_documents (schema : Schema) (options : PluginOptions)
    (renderer : Renderer (Except Failure)) (names : List String) (earlier : List Call) :
    let plugin := Plugin.ofRenderer schema options renderer.recorded
    (names.mapM fun name => (plugin.documents name).run).run earlier =
      (names.map (outcome schema options renderer),
        earlier ++ names.filterMap (callFor? schema)) := by
  intro plugin
  induction names generalizing earlier with
  | nil =>
      change (([], earlier) : List (Except Failure (List Document)) × List Call) = _
      simp
  | cons name names ih =>
      have hname := run_documents_recorded schema options renderer name earlier
      have hrest := ih (earlier ++ (callFor? schema name).toList)
      rw [List.mapM_cons, StateT.run_bind, hname]
      change (StateT.run (names.mapM _ >>= fun rest => pure (_ :: rest)) _ : Id _) = _
      rw [StateT.run_bind, hrest]
      change (outcome schema options renderer name :: names.map (outcome schema options renderer),
        _) = _
      cases hcall : callFor? schema name <;> simp [hcall]

end SchemaPages.Page
