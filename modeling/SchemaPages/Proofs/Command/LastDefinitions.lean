import SchemaPages.Proofs.Command.Listing
import SchemaPages.Proofs.Html.Addresses

/-!
Two schemas that are told apart by nothing that is put out. The indexes keep the last definition of
every name, and what the linker knows is whether a name has one. So neither the order of the
definitions nor those that a later one hides can be seen.
-/

namespace SchemaPages.Command

open Introspection (Schema TypeRef TypeDef Directive)
open Options (HostOptions PluginOptions Context)
open Page (callFor?)

/-- The last definition of every name is the same in both, and so are the root types. -/
structure SameLast (schema other : Schema) : Prop where
  types : ∀ name,
    Keyed.last? TypeDef.name name schema.types = Keyed.last? TypeDef.name name other.types
  directives : ∀ name,
    Keyed.last? Directive.name name schema.directives =
      Keyed.last? Directive.name name other.directives
  roots : schema.rootType = other.rootType

/-- The definitions of one schema are those of the other in a different order of names, without
some that were hidden. The root types are the same. -/
structure Rearranges (schema other : Schema) : Prop where
  types : Keyed.Rearranged TypeDef.name schema.types other.types
  directives : Keyed.Rearranged Directive.name schema.directives other.directives
  roots : schema.rootType = other.rootType

/-- The listings of the schemas are the same, and so is whatever is rendered. -/
structure SameOutput (schema other : Schema) : Prop where
  listed : listEntities schema = listEntities other
  rendered : ∀ host names, renderNames schema host names = renderNames other host names

theorem Rearranges.sameLast {schema other : Schema} (h : Rearranges schema other) :
    SameLast schema other where
  types := h.types.last?_eq
  directives := h.directives.last?_eq
  roots := h.roots

namespace SameLast

variable {schema other : Schema} (h : SameLast schema other)
include h

theorem typeIndex_eq : typeIndex schema = typeIndex other :=
  Keyed.ofList_congr h.types

theorem directiveIndex_eq : directiveIndex schema = directiveIndex other :=
  Keyed.ofList_congr h.directives

theorem typeEntry_eq : typeEntry schema = typeEntry other := by
  funext type
  rw [typeEntry, Schema.rootOperation, h.roots]
  rfl

theorem listing_eq : listing schema = listing other := by
  rw [listing, h.typeIndex_eq, h.directiveIndex_eq, h.typeEntry_eq]
  rfl

theorem callFor?_eq (name : String) : callFor? schema name = callFor? other name := by
  rw [callFor?, h.types, h.directives]
  rfl

theorem known_contains (host : HostOptions) (name : String) :
    (builder schema host).linker.known.contains name =
      (builder other host).linker.known.contains name := by
  rw [Bool.eq_iff_iff]
  exact Html.known_contains_iff.trans (h.types name ▸ Html.known_contains_iff.symm)

theorem pages_eq (host : HostOptions) (options : PluginOptions) :
    pages schema host options = pages other host options := by
  funext name
  have hlines := Html.lines_congr (h.known_contains host) rfl
  simp only [pages, h.callFor?_eq, hlines]

end SameLast

/-- Only the last definition of every name counts: neither the listing nor any document tells two
schemas apart that agree on these, whatever the options of the host. So the order of the names plays
no part, nor do definitions that are hidden. -/
theorem sameOutput_of_last {schema other : Schema}
    (h : SameLast schema other ∨ Rearranges schema other) : SameOutput schema other := by
  have hlast : SameLast schema other := h.elim id Rearranges.sameLast
  refine ⟨?_, fun host names => ?_⟩
  · rw [listEntities_eq, hlast.listing_eq, listEntities_eq]
  · cases hoptions : PluginOptions.resolve host with
    | ok options => rw [renderNames_of_ok hoptions, hlast.pages_eq, renderNames_of_ok hoptions]
    | error failure => rw [renderNames_of_error hoptions, renderNames_of_error hoptions]

def redefined : Schema where
  types := [
    { name := "Date", kind := .scalar },
    { name := "Query", kind := .object,
      fields := some [⟨"today", none, [], .named .enumeration "Date", false, none⟩] },
    { name := "Date", kind := .enumeration }]
  queryType := some ⟨"Query"⟩

/-- `redefined` with the last definition of the type only, and in another order. -/
def settled : Schema :=
  { redefined with types := [
      { name := "Date", kind := .enumeration },
      { name := "Query", kind := .object,
        fields := some [⟨"today", none, [], .named .enumeration "Date", false, none⟩] }] }

/-- The schema that defines a type twice cannot be told from the other. -/
theorem sameOutput_redefined : Rearranges redefined settled ∧ SameOutput redefined settled := by
  have h : Rearranges redefined settled :=
    { types := .trans (.hidden (.tail _ (.head _)) rfl) (.swap [] (by decide))
      directives := .nil
      roots := rfl }
  exact ⟨h, sameOutput_of_last (.inr h)⟩

end SchemaPages.Command
