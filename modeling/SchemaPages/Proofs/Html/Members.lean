import Mathlib.Data.List.Basic
import SchemaPages.Proofs.Html.Anchors
import SchemaPages.Proofs.Html.Definition

/-!
Which members of a type its fragment shows. The operation for a kind reads the name, the description
and the members that the kind defines, so whatever else a type may hold cannot be seen. The one
exception is the operation for input objects, which shows interfaces as those for objects and
interfaces do: input objects with the same fields have the same fragment exactly if the same
interfaces are shown.
-/

namespace SchemaPages.Html

open Introspection (Kind TypeRef TypeDef)
open Inline (between mark space word)
open Page (Call)

/-- The types have the same name and description, and agree in the members that the kind defines. -/
structure Agree (kind : Kind) (type other : TypeDef) : Prop where
  name : type.name = other.name
  description : type.description = other.description
  fields : kind = .object ∨ kind = .interface → type.fields = other.fields
  interfaces : kind = .object ∨ kind = .interface → type.interfaces = other.interfaces
  possibleTypes : kind = .union → type.possibleTypes = other.possibleTypes
  enumValues : kind = .enumeration → type.enumValues = other.enumValues
  inputFields : kind = .inputObject → type.inputFields = other.inputFields

/-! ### Interfaces in the header of a block

The words of a header stand in spans that no reference has, so a header can be cut into its
references again. -/

def wordOpening : Piece := .tag (spanInside .keyword)

theorem wordOpening_not_mem_nameMarkup (linker : Linker) (name : String) :
    wordOpening ∉ (linker.nameMarkup name).pieces := by
  have hlink (address : String) : spanInside .keyword ≠ linkInside address := by
    intro h
    have hopens := opensLink_spanInside .keyword
    rw [h, opensLink_linkInside] at hopens
    cases hopens
  have hspan : spanInside .keyword ≠ spanInside .typeName := by decide
  have hlinkEnd : spanInside .keyword ≠ ['/', 'a'] := by decide
  have hspanEnd : spanInside .keyword ≠ ['/', 's', 'p', 'a', 'n'] := by decide
  rw [Linker.nameMarkup]
  split
  · simp [Inline.pieces, wordOpening, hlink, hlinkEnd]
  · simp [Inline.pieces, wordOpening, hspan, hspanEnd]

theorem wordOpening_not_mem_refMarkup (linker : Linker) (ref : TypeRef) :
    wordOpening ∉ (linker.refMarkup ref).pieces := by
  have hname := wordOpening_not_mem_nameMarkup linker
  have hmark (sign : String) (h : IsPlain sign) : wordOpening ∉ (mark sign h).pieces := by
    simp [Inline.pieces, mark, wordOpening]
  induction ref with
  | plain kind name => exact hname _
  | wrapping kind name inner ih =>
      cases kind
      case list =>
        change wordOpening ∉
          (mark "[").pieces ++ (linker.refMarkup inner).pieces ++ (mark "]").pieces
        simp [hmark, ih]
      case nonNull =>
        change wordOpening ∉ (linker.refMarkup inner).pieces ++ (mark "!").pieces
        simp [hmark, ih]
      all_goals exact hname _

theorem pieces_toList_write (markup : Inline) : pieces markup.write.toList = markup.pieces := by
  have h := pieces_write markup []
  rw [List.append_nil] at h
  rw [h]
  exact List.append_nil _

theorem ofList_pieces (markup : Inline) :
    String.ofList (markup.pieces.flatMap Piece.write) = markup.write := by
  rw [← pieces_toList_write, flatMap_write_pieces, String.ofList_toList]

/-- What follows the opening of a word in the header of a block: the brace at its end, or the word
that leads to the next element. -/
def headerRest (lead : Inline) : List Inline → List Piece
  | [] => [.char '\x7b', .tag "/span".toList]
  | element :: rest =>
    lead.pieces ++ .tag "/span".toList :: .char ' ' ::
      (element.pieces ++ .char ' ' :: wordOpening :: headerRest (.text "&") rest)

@[simp] theorem pieces_append (first second : Inline) :
    (first ++ second).pieces = first.pieces ++ second.pieces := rfl

theorem pieces_joined (element : Inline) (rest : List Inline) :
    (Inline.joined (between (.text "&")) (element :: rest) ++ (space ++ word "\x7b")).pieces =
      element.pieces ++ .char ' ' :: wordOpening :: headerRest (.text "&") rest := by
  induction rest generalizing element with
  | nil =>
      change element.pieces ++ [] ++ [] ++ [.char ' ', wordOpening, .char '\x7b', _] = _
      rw [List.append_nil, List.append_nil]
      rfl
  | cons other rest ih =>
      have hjoined := ih other
      rw [pieces_append] at hjoined
      change element.pieces ++ (between (.text "&")).pieces ++
        (Inline.joined (between (.text "&")) (other :: rest)).pieces ++ _ = _
      rw [List.append_assoc, hjoined, List.append_assoc]
      rfl

theorem pieces_implementsMarkup (elements : List Inline) :
    (implementsMarkup elements ++ (space ++ word "\x7b")).pieces =
      .char ' ' :: wordOpening :: headerRest (mark "implements") elements := by
  cases elements with
  | nil => rfl
  | cons element rest =>
      have hjoined := pieces_joined element rest
      rw [pieces_append] at hjoined
      change (space ++ word "implements").pieces ++ (space.pieces ++
        (Inline.joined (between (.text "&")) (element :: rest)).pieces) ++ _ = _
      rw [List.append_assoc, List.append_assoc, hjoined]
      rfl

/-- The word starts with something other than a brace. -/
def NoBrace (lead : Inline) : Prop :=
  ∃ first rest, lead.pieces = first :: rest ∧ first ≠ .char '\x7b'

theorem NoBrace.append_ne {lead : Inline} (h : NoBrace lead) (tail rest : List Piece) :
    lead.pieces ++ tail ≠ .char '\x7b' :: rest := by
  obtain ⟨first, others, hpieces, hfirst⟩ := h
  rw [hpieces]
  exact fun heq => hfirst (List.cons.inj heq).1

theorem noBrace_and : NoBrace (.text "&") := ⟨_, _, rfl, by decide⟩

theorem noBrace_implements : NoBrace (mark "implements") := ⟨_, _, rfl, by decide⟩

theorem headerRest_inj {lead : Inline} (hlead : NoBrace lead) {elements others : List Inline}
    (h : ∀ element ∈ elements, wordOpening ∉ element.pieces)
    (h' : ∀ element ∈ others, wordOpening ∉ element.pieces)
    (heq : headerRest lead elements = headerRest lead others) :
    elements.map Inline.pieces = others.map Inline.pieces := by
  induction elements generalizing lead others with
  | nil =>
      cases others with
      | nil => rfl
      | cons other others => exact absurd heq.symm (hlead.append_ne _ _)
  | cons element rest ih =>
      cases others with
      | nil => exact absurd heq (hlead.append_ne _ _)
      | cons other others =>
          obtain ⟨helement, hrest⟩ := List.forall_mem_cons.1 h
          obtain ⟨hother, hothers⟩ := List.forall_mem_cons.1 h'
          have hsplit :
              (element.pieces ++ [.char ' ']) ++ wordOpening :: headerRest (.text "&") rest =
                (other.pieces ++ [.char ' ']) ++ wordOpening :: headerRest (.text "&") others := by
            simpa [headerRest] using heq
          have hmark {pieces : List Piece} (hpieces : wordOpening ∉ pieces) :
              wordOpening ∉ pieces ++ [.char ' '] := by
            simpa [wordOpening] using hpieces
          obtain ⟨hfirst, htail⟩ := Text.append_mark_inj (hmark helement) (hmark hother) hsplit
          rw [List.map_cons, List.map_cons, List.append_cancel_right hfirst,
            ih noBrace_and hrest hothers htail]

theorem implementsMarkup_inj (linker : Linker) {refs others : List TypeRef}
    (h : (implementsMarkup (refs.map linker.refMarkup) ++ (space ++ word "\x7b")).write =
      (implementsMarkup (others.map linker.refMarkup) ++ (space ++ word "\x7b")).write) :
    refs.map linker.typeRef = others.map linker.typeRef := by
  have hfree (refs : List TypeRef) :
      ∀ element ∈ refs.map linker.refMarkup, wordOpening ∉ element.pieces :=
    List.forall_mem_map.2 fun ref _ => wordOpening_not_mem_refMarkup linker ref
  have hwrite (refs : List TypeRef) : refs.map linker.typeRef =
      ((refs.map linker.refMarkup).map Inline.pieces).map fun pieces =>
        String.ofList (pieces.flatMap Piece.write) := by
    rw [List.map_map, List.map_map]
    refine List.map_congr_left fun ref _ => ?_
    exact (linker.write_refMarkup ref).symm.trans (ofList_pieces _).symm
  have hpieces := congrArg (fun text : String => pieces text.toList) h
  simp only [pieces_toList_write, pieces_implementsMarkup, List.cons.injEq, true_and] at hpieces
  rw [hwrite, hwrite, headerRest_inj noBrace_implements (hfree refs) (hfree others) hpieces]

/-! ### Operations -/

def Builder.shownInterfaces (builder : Builder) (type : TypeDef) : List String :=
  (type.interfaces.getD []).map builder.linker.typeRef

theorem blockLines_inj (linker : Linker) {keyword : String} {type other : TypeDef}
    {fields : List FieldMarkup} (hname : type.name = other.name)
    (hdescription : type.description = other.description)
    (h : writeLines (linker.blockLines keyword type fields) =
      writeLines (linker.blockLines keyword other fields)) :
    (type.interfaces.getD []).map linker.typeRef =
      (other.interfaces.getD []).map linker.typeRef := by
  simp only [Linker.blockLines, hname, hdescription, writeLines_append, String.append_left_inj,
    String.append_right_inj, writeLines_cons, writeLine] at h
  exact implementsMarkup_inj linker ((String.append_right_inj _).1 h)

theorem inputObject_eq_iff (builder : Builder) {type other : TypeDef}
    (h : Agree .inputObject type other) :
    builder.inputObject type = builder.inputObject other ↔
      builder.shownInterfaces type = builder.shownInterfaces other := by
  constructor
  · intro heq
    change builder.renderer.answer (.inputObject type) =
      builder.renderer.answer (.inputObject other) at heq
    rw [answer_eq, answer_eq] at heq
    have hlines := Except.ok.inj heq
    simp only [Linker.lines, h.inputFields rfl] at hlines
    exact blockLines_inj builder.linker h.name h.description hlines
  · intro hshown
    simp only [Builder.shownInterfaces] at hshown
    simp only [Builder.inputObject, Linker.fieldsView, TypeView.ofType, h.name, h.description,
      h.inputFields rfl, hshown]

/-- What a reader sees of an input object after its description. -/
theorem readText_inputObject (builder : Builder) (type : TypeDef) :
    ∃ fragment tail, builder.inputObject type = .ok fragment ∧
      readText fragment =
        String.join ((Definition.comments type.description).map fun line => line ++ "\n") ++
          ("input " ++ type.name ++
            (Definition.implements (type.interfaces.getD []) ++ (" \x7b\n" ++ tail))) := by
  have hlines : (builder.linker.lines (.inputObject type)).map (fun line => line.content ++ "\n") =
      (Definition.block "input" type ((type.inputFields.getD []).map Definition.inputField)).map
        fun line => line ++ "\n" := by
    change _ = (Definition.ofCall (.inputObject type)).map _
    rw [← content_lines builder.linker, List.map_map]
    rfl
  refine ⟨_, String.join ((((type.inputFields.getD []).map Definition.inputField).flatten ++
    ["\x7d"]).map fun line => line ++ "\n"), answer_eq builder (.inputObject type), ?_⟩
  rw [readText_writeLines, hlines, Definition.block]
  simp [String.append_assoc]

/-- What a reader sees of the answer goes on, after the description, with the line
`input Name {`. -/
def PlainHeader (type : TypeDef) (answer : Except Failure String) : Prop :=
  ∃ fragment rest, answer = .ok fragment ∧
    readText fragment =
      String.join ((Definition.comments type.description).map fun line => line ++ "\n") ++
        ("input " ++ type.name ++ (" \x7b\n" ++ rest))

theorem plainHeader_inputObject_iff (builder : Builder) (type : TypeDef) :
    PlainHeader type (builder.inputObject type) ↔ type.interfaces.getD [] = [] := by
  obtain ⟨fragment, tail, hfragment, hread⟩ := readText_inputObject builder type
  constructor
  · rintro ⟨_, rest, hfragment', htext⟩
    obtain rfl := Except.ok.inj (hfragment.symm.trans hfragment')
    rw [hread, String.append_right_inj, String.append_right_inj] at htext
    by_contra hsome
    rw [Definition.implements, if_neg hsome] at htext
    -- After the blank there is a word, not a brace.
    have hchars := congrArg (fun text : String => text.toList[1]?) htext
    simp [String.toList_append] at hchars
  · intro hnone
    refine ⟨fragment, tail, hfragment, ?_⟩
    rw [hread, hnone]
    rfl

/-- Whatever else the types hold, nothing of it is shown. -/
theorem operation_congr (builder : Builder) {kind : Kind}
    {operation : TypeDef → Except Failure String} (hkind : kind ≠ .inputObject)
    (hoperation : builder.renderer.operation? kind = some operation) {type other : TypeDef}
    (h : Agree kind type other) : operation type = operation other := by
  have hview : TypeView.ofType type = TypeView.ofType other := by
    rw [TypeView.ofType, TypeView.ofType, h.name, h.description]
  cases kind with
  | scalar =>
      obtain rfl := Option.some.inj hoperation
      simp only [Builder.renderer, Builder.scalar, hview]
  | object =>
      obtain rfl := Option.some.inj hoperation
      simp only [Builder.renderer, Builder.object, Linker.fieldsView, hview, h.fields (.inl rfl),
        h.interfaces (.inl rfl)]
  | interface =>
      obtain rfl := Option.some.inj hoperation
      simp only [Builder.renderer, Builder.interface, Linker.fieldsView, hview,
        h.fields (.inr rfl), h.interfaces (.inr rfl)]
  | union =>
      obtain rfl := Option.some.inj hoperation
      simp only [Builder.renderer, Builder.union, Linker.unionView, hview, h.possibleTypes rfl]
  | enumeration =>
      obtain rfl := Option.some.inj hoperation
      simp only [Builder.renderer, Builder.enumeration, TypeView.ofEnum, hview, h.enumValues rfl]
  | inputObject => exact absurd rfl hkind
  | list => cases hoperation
  | nonNull => cases hoperation
  | other tag => cases hoperation

/-- What the operations for types read. Two types that agree in their names, their descriptions and
the members that the kind defines have the same fragment, but for input objects, which show their
interfaces besides. Those have the same fragment exactly if the same interfaces are shown, and a
header without any exactly if there are none. -/
theorem operation_reads (builder : Builder) {kind : Kind}
    {operation : TypeDef → Except Failure String}
    (hoperation : builder.renderer.operation? kind = some operation) {type other : TypeDef}
    (h : Agree kind type other) :
    (kind ≠ .inputObject → operation type = operation other) ∧
    (kind = .inputObject →
      (operation type = operation other ↔
        builder.shownInterfaces type = builder.shownInterfaces other) ∧
      (PlainHeader type (operation type) ↔ type.interfaces.getD [] = [])) := by
  refine ⟨fun hkind => operation_congr builder hkind hoperation h, ?_⟩
  rintro rfl
  obtain rfl := Option.some.inj hoperation
  exact ⟨inputObject_eq_iff builder h, plainHeader_inputObject_iff builder type⟩

def plainBuilder : Builder where
  linker := { baseUrl := "./", known := [] }

def singleUnion : TypeDef where
  name := "U"
  kind := .union
  possibleTypes := some [.named .object "A"]

/-- The union of `singleUnion` with members that no union has. -/
def straying : TypeDef :=
  { singleUnion with
    fields := some []
    interfaces := some [.named .interface "N"]
    enumValues := some [⟨"V", none, false, none⟩] }

/-- On a union what only other kinds define cannot be seen. -/
theorem union_straying :
    plainBuilder.renderer.operation? .union = some plainBuilder.union ∧
      Agree .union straying singleUnion ∧
      plainBuilder.union straying = plainBuilder.union singleUnion := by
  have hoperation : plainBuilder.renderer.operation? .union = some plainBuilder.union := rfl
  have hagree : Agree .union straying singleUnion :=
    ⟨rfl, rfl, by simp, by simp, fun _ => rfl, by simp, by simp⟩
  exact ⟨hoperation, hagree, (operation_reads plainBuilder hoperation hagree).1 (by simp)⟩

def implementing : TypeDef where
  name := "I"
  kind := .inputObject
  interfaces := some [.named .interface "N"]

/-- The interfaces of an input object are shown, though its kind defines none. -/
theorem inputObject_implementing :
    Agree .inputObject implementing { implementing with interfaces := none } ∧
      plainBuilder.inputObject implementing ≠
        plainBuilder.inputObject { implementing with interfaces := none } ∧
      ¬ PlainHeader implementing (plainBuilder.inputObject implementing) := by
  have hagree : Agree .inputObject implementing { implementing with interfaces := none } :=
    ⟨rfl, rfl, by simp, by simp, by simp, by simp, by simp⟩
  refine ⟨hagree, ?_, ?_⟩
  · rw [ne_eq, inputObject_eq_iff plainBuilder hagree]
    simp [Builder.shownInterfaces, implementing]
  · rw [plainHeader_inputObject_iff]
    simp [implementing]

end SchemaPages.Html
