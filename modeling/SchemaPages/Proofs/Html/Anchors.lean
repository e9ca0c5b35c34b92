import SchemaPages.Proofs.Html.Addresses
import SchemaPages.Proofs.Html.Reading
import SchemaPages.Text.Cut

/-!
Where markup links to. `blankAddresses` takes the addresses out of all links of a text and
`readAnchors` reads them off, each with the text of its link; neither knows how the markup was made.
Whatever an address is, it can be seen in the value of its attribute only: escaped text holds
neither a quote nor a bracket.
-/

namespace SchemaPages.Html

open Page (Document)

/-! ### Reading markup piece by piece -/

/-- A character between tags, or a tag without its brackets. -/
inductive Piece where
  | char (c : Char)
  | tag (inside : List Char)
deriving DecidableEq

def Piece.write : Piece → List Char
  | .char c => [c]
  | .tag inside => '<' :: inside ++ ['>']

/-- The pieces of a text. Of a tag that is still open, what has been read is given, the character
read last first. -/
def piecesFrom : Option (List Char) → List Char → List Piece
  | none, [] => []
  | some read, [] => ('<' :: read.reverse).map .char
  | none, c :: rest =>
    if c = '<' then piecesFrom (some []) rest else .char c :: piecesFrom none rest
  | some read, c :: rest =>
    if c = '>' then .tag read.reverse :: piecesFrom none rest
    else piecesFrom (some (c :: read)) rest

def pieces (s : List Char) : List Piece := piecesFrom none s

theorem flatMap_write_char (s : List Char) : (s.map Piece.char).flatMap Piece.write = s := by
  rw [List.flatMap_map]
  exact List.flatMap_singleton' s

theorem flatMap_write_pieces (s : List Char) : (pieces s).flatMap Piece.write = s := by
  -- Whether a tag is open changes on the way, so the induction is for both.
  have hfrom (read? : Option (List Char)) :
      (piecesFrom read? s).flatMap Piece.write =
        (read?.elim [] fun read => '<' :: read.reverse) ++ s := by
    induction s generalizing read? with
    | nil =>
        cases read? with
        | none => rfl
        | some read =>
            rw [List.append_nil]
            exact flatMap_write_char _
    | cons c rest ih =>
        cases read? with
        | none =>
            rw [piecesFrom]
            split
            · rename_i hopen
              rw [ih, hopen]
              rfl
            · rw [List.flatMap_cons, ih]
              rfl
        | some read =>
            rw [piecesFrom]
            split
            · rename_i hclose
              rw [List.flatMap_cons, ih, hclose]
              simp [Piece.write]
            · rw [ih]
              simp
  exact hfrom none

theorem pieces_text {s : List Char} (h : '<' ∉ s) (rest : List Char) :
    pieces (s ++ rest) = s.map .char ++ pieces rest := by
  induction s with
  | nil => rfl
  | cons c s ih =>
      rw [List.mem_cons, not_or] at h
      rw [List.cons_append, pieces, piecesFrom, if_neg (Ne.symm h.1), List.map_cons,
        List.cons_append, ← ih h.2]
      rfl

theorem pieces_tag {s : String} {inside : List Char} (h : IsTag s inside) (rest : List Char) :
    pieces (s.toList ++ rest) = .tag inside :: pieces rest := by
  have hinside (read inside : List Char) (hclose : '>' ∉ inside) :
      piecesFrom (some read) (inside ++ '>' :: rest) =
        .tag (read.reverse ++ inside) :: pieces rest := by
    induction inside generalizing read with
    | nil =>
        rw [List.nil_append, piecesFrom, if_pos rfl, List.append_nil]
        rfl
    | cons c inside ih =>
        rw [List.mem_cons, not_or] at hclose
        rw [List.cons_append, piecesFrom, if_neg (Ne.symm hclose.1), ih (c :: read) hclose.2,
          List.reverse_cons, List.append_assoc]
        rfl
  have htag := hinside [] inside h.not_close
  rw [h.toList_eq]
  simpa [pieces, piecesFrom] using htag

/-! ### Addresses of links -/

def opensLink (inside : List Char) : Bool := inside.takeWhile (· ≠ ' ') == ['a']

/-- What comes before the quotes around an address. -/
def addressKey : List Char := " href=".toList

/-- The first of the texts in quotes that is an address, out of what quotes part. -/
def address? : List (List Char) → Option (List Char)
  | before :: value :: rest =>
    if addressKey.isSuffixOf before then some value else address? rest
  | _ => none

/-- The parts with the addresses taken out of them. -/
def withoutAddress : List (List Char) → List (List Char)
  | before :: value :: rest =>
    before :: (if addressKey.isSuffixOf before then [] else value) :: withoutAddress rest
  | parts => parts

/-- The piece without the address, if it opens a link. -/
def Piece.blank : Piece → Piece
  | .char c => .char c
  | .tag inside =>
    if opensLink inside then .tag (['"'].intercalate (withoutAddress (Text.cut '"' inside)))
    else .tag inside

/-- The markup without the addresses of its links. -/
def blankAddresses (markup : String) : String :=
  String.ofList (((pieces markup.toList).map Piece.blank).flatMap Piece.write)

structure Anchor where
  address : Option String
  text : String
deriving DecidableEq

/-- The text up to the end of a link. -/
def linkText : List Piece → List Char
  | [] => []
  | .char c :: rest => c :: linkText rest
  | .tag inside :: rest => if inside = ['/', 'a'] then [] else linkText rest

/-- The links that start in the pieces. -/
def anchorsIn : List Piece → List Anchor
  | [] => []
  | .char _ :: rest => anchorsIn rest
  | .tag inside :: rest =>
    if opensLink inside then
      { address := (address? (Text.cut '"' inside)).map (String.ofList ∘ unescape)
        text := String.ofList (unescape (linkText rest)) } :: anchorsIn rest
    else anchorsIn rest

def readAnchors (markup : String) : List Anchor := anchorsIn (pieces markup.toList)

/-! ### The pieces of trees -/

/-- What quotes part in the tag that opens the link to a type. -/
def linkParts (address : String) : List (List Char) :=
  ["a class=".toList, "support type".toList, addressKey, (escape address).toList, []]

def linkInside (address : String) : List Char := ['"'].intercalate (linkParts address)

def spanInside (style : Style) : List Char := ("span class=\"" ++ style.text ++ "\"").toList

def Inline.pieces : Inline → List Piece
  | .empty => []
  | .plain mark _ => mark.toList.map .char
  | .text words => (escape words).toList.map .char
  | .span style body =>
    .tag (spanInside style) :: (body.pieces ++ [.tag "/span".toList])
  | .link address name =>
    .tag (linkInside address) :: ((escape name).toList.map .char ++ [.tag "/a".toList])
  | .append first second => first.pieces ++ second.pieces

def Inline.anchors : Inline → List Anchor
  | .empty | .plain _ _ | .text _ => []
  | .span _ body => body.anchors
  | .link address name => [⟨some address, name⟩]
  | .append first second => first.anchors ++ second.anchors

theorem isTag_linkInside (address : String) : IsTag (linkOpen address) (linkInside address) := by
  have h := isTag_linkOpen address
  have hinside : ("a class=\"support type\" href=\"" ++ escape address ++ "\"").toList =
      linkInside address := by
    unfold linkInside linkParts addressKey
    simp [List.intercalate]
  rwa [hinside] at h

theorem pieces_write (markup : Inline) (rest : List Char) :
    pieces (markup.write.toList ++ rest) = markup.pieces ++ pieces rest := by
  have hescape (words : String) : '<' ∉ (escape words).toList :=
    fun h => (not_special_of_mem_escape h).1 rfl
  induction markup generalizing rest with
  | empty => rfl
  | plain mark hmark => exact pieces_text (fun h => (hmark _ h).1 rfl) rest
  | text words => exact pieces_text (hescape words) rest
  | span style body ih =>
      simp only [Inline.write, String.toList_append, List.append_assoc]
      rw [pieces_tag (isTag_spanOpen style), ih, pieces_tag isTag_spanClose]
      simp [Inline.pieces, spanInside]
  | link address name =>
      simp only [Inline.write, String.toList_append, List.append_assoc]
      rw [pieces_tag (isTag_linkInside address), pieces_text (hescape name),
        pieces_tag isTag_linkClose]
      simp [Inline.pieces]
  | append first second ih ih' =>
      simp only [Inline.write, String.toList_append, List.append_assoc]
      rw [ih, ih']
      simp only [Inline.pieces, List.append_assoc]

theorem addressKey_class : addressKey.isSuffixOf "a class=".toList = false := by decide

theorem addressKey_self : addressKey.isSuffixOf addressKey = true := by decide

theorem cut_linkInside (address : String) :
    Text.cut '"' (linkInside address) = linkParts address := by
  have hescape : '"' ∉ (escape address).toList := fun h => (not_special_of_mem_escape h).2.2 rfl
  have hparts : ∀ part ∈ linkParts address, Text.cut '"' part = [part] := by
    intro part hpart
    simp only [linkParts, List.mem_cons, List.not_mem_nil, or_false] at hpart
    rcases hpart with rfl | rfl | rfl | rfl | rfl
    · exact Text.cut_of_not_mem (by decide)
    · exact Text.cut_of_not_mem (by decide)
    · exact Text.cut_of_not_mem (by decide)
    · exact Text.cut_of_not_mem hescape
    · rfl
  rw [linkInside, Text.cut_intercalate (by simp [linkParts]), List.flatMap_def,
    List.map_congr_left hparts, ← List.flatMap_def, List.flatMap_singleton']

theorem opensLink_linkInside (address : String) : opensLink (linkInside address) = true := by
  unfold opensLink linkInside linkParts
  simp [List.intercalate]

theorem opensLink_spanInside (style : Style) : opensLink (spanInside style) = false := by
  unfold opensLink spanInside
  simp

theorem blank_linkInside (address : String) :
    (Piece.tag (linkInside address)).blank = .tag (linkInside "") := by
  have hparts : withoutAddress (linkParts address) = linkParts "" := by
    simp only [linkParts, withoutAddress, addressKey_class, addressKey_self]
    rfl
  rw [Piece.blank, if_pos (opensLink_linkInside address), cut_linkInside, hparts, linkInside]

theorem map_blank_char (s : List Char) : (s.map Piece.char).map Piece.blank = s.map Piece.char := by
  rw [List.map_map]
  rfl

/-- Taking the addresses out of markup is leading its links to the empty address. -/
theorem map_blank_pieces (markup : Inline) :
    markup.pieces.map Piece.blank = (markup.readdress fun _ => "").pieces := by
  induction markup with
  | empty => rfl
  | plain mark _ => exact map_blank_char _
  | text words => exact map_blank_char _
  | span style body ih =>
      have hspan : (Piece.tag (spanInside style)).blank = .tag (spanInside style) := by
        rw [Piece.blank, opensLink_spanInside, if_neg Bool.false_ne_true]
      rw [Inline.pieces, List.map_cons, List.map_append, ih, hspan]
      rfl
  | link address name =>
      rw [Inline.pieces, List.map_cons, List.map_append, blank_linkInside, map_blank_char]
      rfl
  | append first second ih ih' =>
      rw [Inline.pieces, List.map_append, ih, ih']
      rfl

theorem linkText_char (s : List Char) (rest : List Piece) :
    linkText (s.map .char ++ rest) = s ++ linkText rest := by
  induction s with
  | nil => rfl
  | cons c s ih => exact congrArg (List.cons c) ih

theorem anchorsIn_char (s : List Char) (rest : List Piece) :
    anchorsIn (s.map .char ++ rest) = anchorsIn rest := by
  induction s with
  | nil => rfl
  | cons c s ih => exact ih

theorem unescape_toList_escape (s : String) :
    String.ofList (unescape (escape s).toList) = s := by
  have h := unescape_escape s []
  rw [List.append_nil, unescape, List.append_nil] at h
  rw [h, String.ofList_toList]

theorem anchorsIn_pieces (markup : Inline) (rest : List Piece) :
    anchorsIn (markup.pieces ++ rest) = markup.anchors ++ anchorsIn rest := by
  induction markup generalizing rest with
  | empty => rfl
  | plain mark _ => exact anchorsIn_char _ rest
  | text words => exact anchorsIn_char _ rest
  | span style body ih =>
      rw [Inline.pieces, List.cons_append, anchorsIn, opensLink_spanInside,
        if_neg Bool.false_ne_true, List.append_assoc, ih]
      rfl
  | link address name =>
      -- The text of a link is looked for in all that follows, and found in the link itself.
      have htext : linkText ((escape name).toList.map .char ++ [.tag "/a".toList] ++ rest) =
          (escape name).toList := by
        rw [List.append_assoc, linkText_char]
        exact List.append_nil _
      have haddress : address? (Text.cut '"' (linkInside address)) =
          some (escape address).toList := by
        simp only [cut_linkInside, linkParts, address?, addressKey_class, addressKey_self, if_true,
          Bool.false_eq_true, if_false]
      rw [Inline.pieces, List.cons_append, anchorsIn, if_pos (opensLink_linkInside address), htext,
        haddress, Option.map_some, Function.comp_apply, unescape_toList_escape,
        unescape_toList_escape, List.append_assoc, anchorsIn_char]
      rfl
  | append first second ih ih' =>
      rw [Inline.pieces, List.append_assoc, ih, ih']
      simp only [Inline.anchors, List.append_assoc]

/-- Links that have been led to the addresses of their names have these addresses. -/
theorem address_of_mem_anchors {address : String → String} {markup : Inline} {anchor : Anchor}
    (h : anchor ∈ (markup.readdress address).anchors) :
    anchor.address = some (address anchor.text) := by
  induction markup with
  | span style body ih => exact ih h
  | link old name =>
      obtain rfl := List.mem_singleton.1 h
      rfl
  | append first second ih ih' => exact (List.mem_append.1 h).elim ih ih'
  | _ => cases h

/-! ### The pieces of documents -/

def linePieces (lines : List Inline) : List Piece :=
  lines.flatMap fun line =>
    .tag "li".toList :: (line.pieces ++ [.tag "/li".toList, .char '\n'])

theorem pieces_writeLines (lines : List Inline) (rest : List Char) :
    pieces ((writeLines lines).toList ++ rest) = linePieces lines ++ pieces rest := by
  induction lines with
  | nil => rfl
  | cons line lines ih =>
      have hbreak : '<' ∉ ['\n'] := by decide
      rw [writeLines_cons, String.toList_append, toList_writeLine]
      simp only [List.append_assoc]
      rw [pieces_tag isTag_itemOpen, pieces_write, pieces_tag isTag_itemClose,
        pieces_text hbreak, ih, linePieces, linePieces, List.flatMap_cons]
      simp

theorem pieces_wrap (title : String) (lines : List Inline) :
    pieces (Document.wrap title (writeLines lines)).description.toList =
      .tag "code class=\"highlight\"".toList ::
        .tag "ul class=\"code\" style=\"padding-left:28px\"".toList ::
          (linePieces lines ++ [.tag "/ul".toList, .tag "/code".toList]) := by
  rw [toList_wrap, pieces_tag isTag_codeOpen, pieces_tag isTag_listOpen, pieces_writeLines,
    pieces_tag isTag_listClose, pieces_tag isTag_codeClose]
  rfl

theorem map_blank_linePieces (lines : List Inline) :
    (linePieces lines).map Piece.blank = linePieces (lines.map (Inline.readdress fun _ => "")) := by
  rw [linePieces, List.map_flatMap, linePieces, List.flatMap_map]
  congr 1
  funext line
  rw [List.map_cons, List.map_append, map_blank_pieces]
  rfl

theorem anchorsIn_linePieces (lines : List Inline) (rest : List Piece) :
    anchorsIn (linePieces lines ++ rest) = lines.flatMap Inline.anchors ++ anchorsIn rest := by
  induction lines with
  | nil => rfl
  | cons line lines ih =>
      rw [linePieces, List.flatMap_cons, List.flatMap_cons, ← linePieces, List.append_assoc,
        List.append_assoc, ← ih, List.cons_append, List.append_assoc]
      exact anchorsIn_pieces line _

theorem readAnchors_wrap (title : String) (lines : List Inline) :
    readAnchors (Document.wrap title (writeLines lines)).description =
      lines.flatMap Inline.anchors := by
  rw [readAnchors, pieces_wrap]
  change anchorsIn (linePieces lines ++ _) = _
  rw [anchorsIn_linePieces]
  exact List.append_nil _

/-- Taking the addresses out of a document is leading its links to the empty address. -/
theorem blankAddresses_wrap (title : String) (lines : List Inline) :
    blankAddresses (Document.wrap title (writeLines lines)).description =
      (Document.wrap title
        (writeLines (lines.map (Inline.readdress fun _ => "")))).description := by
  rw [blankAddresses, pieces_wrap, List.map_cons, List.map_cons, List.map_append,
    map_blank_linePieces, ← String.toList_inj, String.toList_ofList]
  refine Eq.trans ?_ (flatMap_write_pieces _)
  rw [pieces_wrap]
  rfl

end SchemaPages.Html
