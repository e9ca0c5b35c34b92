import SchemaPages.Template.Render

/-!
The templates of the fragments. Every line of a fragment is an item of a list, ended by a line
feed; a description comes first, one comment line after the other.
-/

namespace SchemaPages.Html

open Template (Item)

inductive Layout where
  | scalar
  | fields
  | union
  | enumeration
  | directive
deriving DecidableEq

def Layout.all : List Layout := [.scalar, .fields, .union, .enumeration, .directive]

def Layout.name : Layout → String
  | .scalar => "scalar"
  | .fields => "fields"
  | .union => "union"
  | .enumeration => "enum"
  | .directive => "directive"

def spanOpen (style : String) : String := "<span class=\"" ++ style ++ "\">"

def spanClose : String := "</span>"

def span (style : String) (body : List Item) : List Item :=
  .text (spanOpen style) :: body ++ [.text spanClose]

def line (body : List Item) : List Item :=
  .text "<li>" :: body ++ [.text "</li>\n"]

def operator (word : String) : List Item :=
  span "keyword operator ts" [.text word]

def gap (style name : String) : List Item :=
  span style [.escaped (.member name)]

def comments : List Item :=
  [.each "description" (line (span "comment line" [.text "# ", .escaped .this]))]

def innerComments : List Item :=
  [.each "description"
    (line (span "tab" (span "comment line" [.text "# ", .escaped .this])))]

/-- The elements of a member, with an operator between them. -/
def joined (name : String) (element : List Item) (between : String) : Item :=
  .each name (element ++
    [.unlessLast (.text " " :: operator between ++ [.text " "])])

def openBlock : List Item := operator "\x7b"

def closeBlock : List Item := line (operator "\x7d")

def Layout.template : Layout → List Item
  | .scalar => comments ++ line (operator "scalar" ++ .text " " :: gap "identifier" "name")
  | .fields =>
    comments ++
    line (gap "keyword operator ts" "keyword" ++ .text " " :: gap "identifier" "name" ++
      .whenSet "interfaces"
        (.text " " :: operator "implements" ++
          [.text " ", joined "interfaces" [.raw .this] "&amp;"]) ::
      .text " " :: openBlock) ++
    [.each "fields"
      (innerComments ++
        line (span "tab"
          (gap "meta" "name" ++
            [.raw (.member "arguments"), .text ": ", .raw (.member "type_html"),
              .raw (.member "default_value"), .raw (.member "deprecation")])))] ++
    closeBlock
  | .union =>
    comments ++
    line (operator "union" ++ .text " " :: gap "identifier" "name" ++ .text " " :: operator "=" ++
      [.text " ", joined "members" [.raw .this] "|"])
  | .enumeration =>
    comments ++
    line (operator "enum" ++ .text " " :: gap "identifier" "name" ++ .text " " :: openBlock) ++
    [.each "values"
      (innerComments ++
        line (span "tab" (gap "string" "name" ++ [.raw (.member "deprecation")])))] ++
    closeBlock
  | .directive =>
    comments ++
    line (operator "directive" ++
      .text " " :: span "meta" [.text "@", .escaped (.member "name")] ++
      .raw (.member "arguments") ::
      .whenSet "repeatable" (.text " " :: operator "repeatable") ::
      .text " " :: operator "on" ++
      [.text " ", joined "locations" (span "string" [.escaped .this]) "|"])

end SchemaPages.Html
