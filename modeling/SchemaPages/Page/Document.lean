import SchemaPages.Json.Record

/-!
A document of a page: a title, and a fragment in the envelope that gives it the look of code.
-/

namespace SchemaPages.Page

open Json (Value Decoder RecordShape)

def envelopeOpen : String :=
  "<code class=\"highlight\"><ul class=\"code\" style=\"padding-left:28px\">"

def envelopeClose : String := "</ul></code>"

structure Document where
  title : String
  description : String
deriving DecidableEq

namespace Document

def wrap (title fragment : String) : Document :=
  ⟨title, envelopeOpen ++ fragment ++ envelopeClose⟩

def shape : RecordShape := ⟨"Document", ["title", "description"]⟩

def decode : Decoder Document :=
  shape.decode fun fields =>
    Document.mk <$> fields.required "title" Decoder.text
      <*> fields.required "description" Decoder.text

def encode (document : Document) : Value :=
  .obj [("title", .str document.title), ("description", .str document.description)]

end Document

end SchemaPages.Page
