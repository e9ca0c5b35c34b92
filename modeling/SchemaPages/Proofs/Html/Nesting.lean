import SchemaPages.Proofs.Html.Entity
import SchemaPages.Proofs.Html.Reading

/-!
The shape of markup, as a grammar of strings. `Nested` is text and properly nested elements, with
a choice of the tags that may open one; `Listing` is a number of list items, one on each line.
The fragment of a builder is a listing whatever the schema holds, with as many items as the type or
directive has lines, and a document is a single element around it.
-/

namespace SchemaPages.Html

open Introspection (Schema TypeRef InputValue Field EnumValue TypeDef Directive)
open Options (PluginOptions)
open Page (Call Document Plugin callFor?)

/-- An element with the text of its attributes. -/
def element (name attributes body : String) : String :=
  "<" ++ name ++ attributes ++ ">" ++ body ++ "</" ++ name ++ ">"

/-- Text and properly nested elements. -/
inductive Nested (allowed : String → String → Prop) : String → Prop where
  | text {s : String} (h : ∀ c ∈ s.toList, c ≠ '<' ∧ c ≠ '>') : Nested allowed s
  | element {name attributes body : String} (htag : allowed name attributes)
      (hbody : Nested allowed body) : Nested allowed (element name attributes body)
  | append {s t : String} (first : Nested allowed s) (second : Nested allowed t) :
      Nested allowed (s ++ t)

/-- The tags within a line: a name and the text of the attributes. -/
inductive LineTag : String → String → Prop where
  | span (style : Style) : LineTag "span" (" class=\"" ++ style.text ++ "\"")
  | link {address : String} (h : ∀ c ∈ address.toList, c ≠ '<' ∧ c ≠ '>' ∧ c ≠ '"') :
      LineTag "a" (" class=\"support type\" href=\"" ++ address ++ "\"")

/-- The given number of items, each with nested markup in it and a line feed after it. -/
inductive Listing : Nat → String → Prop where
  | nil : Listing 0 ""
  | cons {body rest : String} {count : Nat} (first : Nested LineTag body)
      (others : Listing count rest) :
      Listing (count + 1) ("<li>" ++ body ++ "</li>\n" ++ rest)

/-- The tags of a whole document. -/
inductive PageTag : String → String → Prop where
  | code : PageTag "code" " class=\"highlight\""
  | list : PageTag "ul" " class=\"code\" style=\"padding-left:28px\""
  | item : PageTag "li" ""
  | line {name attributes : String} (h : LineTag name attributes) : PageTag name attributes

/-- The number of lines of members with the given descriptions: each has one line of its own beside
those of its description. -/
def memberCount : List (Option String) → Nat
  | [] => 0
  | description :: rest => 1 + (commentLines description).length + memberCount rest

/-- The number of lines that a call stands for. A block has two lines beside those of its members,
the first and the last. -/
def lineCount : Call → Nat
  | .scalar type | .union type => (commentLines type.description).length + 1
  | .directive directive => (commentLines directive.description).length + 1
  | .object type | .interface type =>
    (commentLines type.description).length + 2 +
      memberCount ((type.fields.getD []).map Field.description)
  | .inputObject type =>
    (commentLines type.description).length + 2 +
      memberCount ((type.inputFields.getD []).map InputValue.description)
  | .enumeration type =>
    (commentLines type.description).length + 2 +
      memberCount ((type.enumValues.getD []).map EnumValue.description)

/-! ### Trees are nested markup -/

theorem write_span_eq_element (style : Style) (body : Inline) :
    (Inline.span style body).write =
      element "span" (" class=\"" ++ style.text ++ "\"") body.write := by
  rw [Inline.write, ← String.toList_inj]
  unfold element spanOpen spanClose
  simp

theorem write_link_eq_element (address name : String) :
    (Inline.link address name).write =
      element "a" (" class=\"support type\" href=\"" ++ escape address ++ "\"") (escape name) := by
  rw [Inline.write, ← String.toList_inj]
  unfold element linkOpen linkClose
  simp

theorem nested_escape {allowed : String → String → Prop} (words : String) :
    Nested allowed (escape words) := by
  apply Nested.text
  intro c hc
  obtain ⟨hopen, hclose, _⟩ := not_special_of_mem_escape hc
  exact ⟨hopen, hclose⟩

/-- Whatever a tree holds, its markup is nested and has no tags but those of a line. -/
theorem nested_write (markup : Inline) : Nested LineTag markup.write := by
  -- Every constructor of trees is one rule of the grammar.
  induction markup with
  | empty => exact .text (by simp [Inline.write])
  | plain sign hsign => exact .text fun c hc => ⟨(hsign c hc).1, (hsign c hc).2.1⟩
  | text words => exact nested_escape words
  | span style body ih =>
      rw [write_span_eq_element]
      exact .element (.span style) ih
  | link address name =>
      rw [write_link_eq_element]
      exact .element (.link fun c => not_special_of_mem_escape) (nested_escape name)
  | append first second ih ih' => exact .append ih ih'

theorem listing_writeLines (lines : List Inline) : Listing lines.length (writeLines lines) := by
  induction lines with
  | nil => exact .nil
  | cons line lines ih =>
      rw [writeLines_cons]
      exact .cons (nested_write line) ih

/-! ### Counting the items -/

/-- Both tags of an element within a line, and what tells the first from that of an item. -/
theorem LineTag.isTag {name attributes : String} (h : LineTag name attributes) :
    IsTag ("<" ++ name ++ attributes ++ ">") (name ++ attributes).toList ∧
      IsTag ("</" ++ name ++ ">") ('/' :: name.toList) ∧
      ((name ++ attributes).toList ++ ['>']).head? ≠ some 'l' := by
  cases h with
  | span style =>
      obtain ⟨hopen, hclose⟩ := not_bracket_of_mem_style style
      exact ⟨⟨by simp, by simp [hopen], by simp [hclose]⟩, ⟨by simp, by simp, by simp⟩, by simp⟩
  | @link address haddress =>
      have hopen : '<' ∉ address.toList := fun hc => (haddress _ hc).1 rfl
      have hclose : '>' ∉ address.toList := fun hc => (haddress _ hc).2.1 rfl
      exact ⟨⟨by simp, by simp [hopen], by simp [hclose]⟩, ⟨by simp, by simp, by simp⟩, by simp⟩

/-- No item starts within a line. -/
theorem places_nested {tail : List Char} {s : String} (h : Nested LineTag s) (rest : List Char) :
    places ('<' :: 'l' :: tail) (s.toList ++ rest) = places ('<' :: 'l' :: tail) rest := by
  induction h generalizing rest with
  | text htext => exact places_text (fun hc => (htext _ hc).1 rfl) rest
  | @element name attributes body htag _ ih =>
      obtain ⟨hopen, hclose, hname⟩ := htag.isTag
      have hparts : (element name attributes body).toList ++ rest =
          ("<" ++ name ++ attributes ++ ">").toList ++
            (body.toList ++ (("</" ++ name ++ ">").toList ++ rest)) := by
        rw [element]
        simp
      rw [hparts, places_other hopen hname, ih, places_other hclose (by simp)]
  | append _ _ ih ih' => rw [String.toList_append, List.append_assoc, ih, ih']

theorem Listing.itemCount_eq {s : String} {count : Nat} (h : Listing count s) :
    itemCount s = count := by
  have hstart : "<li>".toList = ['<', 'l', 'i', '>'] := by simp
  rw [itemCount]
  rw [hstart]
  induction h with
  | nil => rfl
  | @cons body rest count hbody _ ih =>
      have hbreak : '<' ∉ ['\n'] := by decide
      have hparts : ("<li>" ++ body ++ "</li>\n" ++ rest).toList =
          "<li>".toList ++ (body.toList ++ ("</li>".toList ++ (['\n'] ++ rest.toList))) := by
        simp
      rw [hparts, places_tag isTag_itemOpen, hstart, if_pos (by simp), List.length_cons,
        places_nested hbody, places_other isTag_itemClose (by simp), places_text hbreak, ih]

/-! ### The number of lines -/

theorem length_commentMarkup (description : Option String) :
    (commentMarkup description).length = (commentLines description).length :=
  List.length_map ..

theorem length_members {α : Type} (lines : α → List Inline) (description : α → Option String)
    (hlines : ∀ x, (lines x).length = 1 + (commentLines (description x)).length) (xs : List α) :
    (xs.flatMap lines).length = memberCount (xs.map description) := by
  induction xs with
  | nil => rfl
  | cons x xs ih =>
      rw [List.flatMap_cons, List.length_append, hlines, ih, List.map_cons, memberCount]

theorem length_blockLines (linker : Linker) (keyword : String) (type : TypeDef)
    (fields : List FieldMarkup) :
    (linker.blockLines keyword type fields).length =
      (commentLines type.description).length + 2 + (fields.flatMap FieldMarkup.lines).length := by
  rw [Linker.blockLines]
  simp only [List.length_append, length_commentMarkup, List.length_singleton]
  omega

theorem length_lines (linker : Linker) (call : Call) :
    (linker.lines call).length = lineCount call := by
  have houtput (field : Field) : (linker.outputMarkup field).lines.length =
      1 + (commentLines field.description).length := by
    rw [FieldMarkup.lines, List.length_append, List.length_map, Nat.add_comm]
    rfl
  have hinput (field : InputValue) : (linker.inputMarkup field).lines.length =
      1 + (commentLines field.description).length := by
    rw [FieldMarkup.lines, List.length_append, List.length_map, Nat.add_comm]
    rfl
  have hvalue (value : EnumValue) :
      (valueLines value).length = 1 + (commentLines value.description).length := by
    rw [valueLines, List.length_append, List.length_map, Nat.add_comm]
    rfl
  cases call with
  | scalar type => simp [Linker.lines, scalarLines, length_commentMarkup, lineCount]
  | union type => simp [Linker.lines, Linker.unionLines, length_commentMarkup, lineCount]
  | directive directive =>
      simp [Linker.lines, Linker.directiveLines, length_commentMarkup, lineCount]
  | object type =>
      rw [Linker.lines, length_blockLines, List.flatMap_map, length_members _ _ houtput]
      rfl
  | interface type =>
      rw [Linker.lines, length_blockLines, List.flatMap_map, length_members _ _ houtput]
      rfl
  | inputObject type =>
      rw [Linker.lines, length_blockLines, List.flatMap_map, length_members _ _ hinput]
      rfl
  | enumeration type =>
      rw [Linker.lines, enumLines, lineCount, ← length_members _ _ hvalue]
      simp only [List.length_append, length_commentMarkup, List.length_singleton]
      omega

/-! ### Documents -/

theorem Nested.mono {allowed other : String → String → Prop} {s : String}
    (h : Nested allowed s)
    (hallowed : ∀ name attributes, allowed name attributes → other name attributes) :
    Nested other s := by
  induction h with
  | text htext => exact .text htext
  | element htag _ ih => exact .element (hallowed _ _ htag) ih
  | append _ _ ih ih' => exact .append ih ih'

theorem Listing.nested {s : String} {count : Nat} (h : Listing count s) : Nested PageTag s := by
  induction h with
  | nil => exact .text (by simp)
  | @cons body rest count hbody _ ih =>
      have hitem : "<li>" ++ body ++ "</li>\n" = element "li" "" body ++ "\n" := by
        rw [← String.toList_inj]
        rw [element]
        simp
      rw [hitem]
      refine .append (.append (.element .item ?_) (.text (by simp))) ih
      exact hbody.mono fun _ _ => .line

/-- The text is a page: one element with a list of the given number of items. -/
def IsPage (count : Nat) (s : String) : Prop :=
  ∃ listing, Listing count listing ∧
    s = element "code" " class=\"highlight\""
      (element "ul" " class=\"code\" style=\"padding-left:28px\"" listing)

theorem IsPage.nested {count : Nat} {s : String} (h : IsPage count s) : Nested PageTag s := by
  obtain ⟨listing, hlisting, rfl⟩ := h
  exact .element .code (.element .list hlisting.nested)

theorem isPage_wrap {count : Nat} {fragment : String} (h : Listing count fragment)
    (title : String) : IsPage count (Document.wrap title fragment).description := by
  refine ⟨fragment, h, ?_⟩
  change Page.envelopeOpen ++ fragment ++ Page.envelopeClose = _
  rw [← String.toList_inj]
  unfold element Page.envelopeOpen Page.envelopeClose
  simp

/-- Whatever the schema holds, a builder answers every call with a listing of as many items as the
call stands for lines, and every document that a plugin makes with it is a page of properly nested
elements. -/
theorem answer_nested (builder : Builder) :
    (∀ call, ∃ fragment, builder.renderer.answer call = .ok fragment ∧
      Listing (lineCount call) fragment ∧ itemCount fragment = lineCount call) ∧
    ∀ (schema : Schema) (options : PluginOptions) (name : String),
      ∃ documents,
        (Plugin.ofRenderer schema options builder.renderer).documents name = .ok documents ∧
        ∀ document ∈ documents, ∃ call, callFor? schema name = some call ∧
          IsPage (lineCount call) document.description ∧
          Nested PageTag document.description := by
  have hlisting (call : Call) :
      Listing (lineCount call) (writeLines (builder.linker.lines call)) := by
    rw [← length_lines builder.linker call]
    exact listing_writeLines _
  constructor
  · intro call
    exact ⟨_, answer_eq builder call, hlisting call, (hlisting call).itemCount_eq⟩
  · intro schema options name
    refine ⟨_, documents_builder builder schema options name, ?_⟩
    intro document hdocument
    obtain ⟨call, hcall, rfl⟩ := List.mem_map.1 hdocument
    have hpage := isPage_wrap (hlisting call) options.documentTitle
    exact ⟨call, Option.mem_toList.1 hcall, hpage, hpage.nested⟩

end SchemaPages.Html
