import SchemaPages.Failure

/-!
The options of the host program: one section for every plugin and one for the host itself, stored
under their keys. Setting a field of a section keeps everything else, but a section that is no
object is replaced.
-/

namespace SchemaPages.Options

open Json (Value)

def pluginKey : String := "graphdoc-plugin-schema"

def hostKey : String := "graphdoc"

structure HostOptions where
  sections : Keyed Value := []
deriving DecidableEq

namespace HostOptions

/-- Options are an object, or null for none at all. -/
def ofJson : Value → Except Failure HostOptions
  | .obj members => .ok ⟨members⟩
  | .null => .ok {}
  | v => .error (.argument (.hostNotObject v))

def get? (host : HostOptions) (key : String) : Option Value :=
  Keyed.get? key host.sections

def withSection (host : HostOptions) (key : String) (value : Value) : HostOptions :=
  ⟨Keyed.insert key value host.sections⟩

/-- The fields of the section under a key. Where there is no section, and in a section that is no
object, there are none. -/
def fields (host : HostOptions) (key : String) : Json.Members :=
  match host.get? key with
  | some (.obj members) => members
  | _ => []

def setField (host : HostOptions) (key field : String) (value : Value) : HostOptions :=
  host.withSection key (.obj (Keyed.insert field value (host.fields key)))

theorem get?_withSection (host : HostOptions) (key other : String) (value : Value) :
    (host.withSection key value).get? other =
      if other = key then some value else host.get? other :=
  Keyed.get?_insert ..

theorem withSection_withSection (host : HostOptions) (key : String) (value other : Value) :
    (host.withSection key value).withSection key other = host.withSection key other :=
  congrArg HostOptions.mk (Keyed.insert_insert ..)

theorem fields_withSection (host : HostOptions) (key : String) (members : Json.Members) :
    (host.withSection key (.obj members)).fields key = members := by
  rw [fields, get?_withSection, if_pos rfl]

end HostOptions

end SchemaPages.Options
