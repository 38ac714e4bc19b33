/-
Module: NodeSync.Json.Form
Purpose: Forms of the parts of a text that are carried along without being looked into. A form says
  which parts are of it and what is kept of them: a record keeps the fields that it names, each of
  them of a form of its own, and drops the others.
Main exports: Form, Form.ofView, Form.list, Form.mapping, Form.record, FieldForm, Fields.carried?
-/
import NodeSync.Json.Decoder

namespace NodeSync.Json

set_option autoImplicit false

/-- A form: the value that is kept of a part, or none if the part is not of this form. -/
abbrev Form := Decoder Json

/-- A field of a record. It may be absent, and a null means the same. -/
structure FieldForm where
  name : String
  form : Form
  /-- What is kept of an absent field, if anything is. -/
  fallback : Option Json

/-- What is kept of the named fields. -/
def Fields.carried? (fields : Fields) (forms : List FieldForm) :
    Option (SortedMap String Json) := do
  let found ← forms.mapM fun field =>
    (Fields.optional? fields field.name field.form).map fun value =>
      (field.name, value.or field.fallback)
  some (SortedMap.ofList (found.filterMap fun entry => entry.2.map (entry.1, ·)))

namespace Form

/-- The parts that a typed view accepts; what the view finds is kept. -/
def ofView {α : Type} (view : Decoder α) (toJson : α → Json) : Form := fun value =>
  (view value).map toJson

def text : Form := ofView text? .string

def bool : Form := ofView bool? .bool

/-- Any value, all of which is kept. -/
def any : Form := Document.json?

/-- A list of parts of one form. -/
def list (item : Form) : Form := ofView (list? item) .array

/-- A map of parts of one form. -/
def mapping (item : Form) : Form := ofView (map? item) fun entries => .object entries.toList

def record (forms : List FieldForm) : Form :=
  ofView (fun value => (object? value).bind (Fields.carried? · forms)) fun entries =>
    .object entries.toList

end Form

namespace FieldForm

/-- A field of which nothing is kept if it is absent. -/
def optional (name : String) (form : Form) : FieldForm := ⟨name, form, none⟩

/-- A text that is empty if it is absent. -/
def text (name : String) : FieldForm := ⟨name, Form.text, some (.string "")⟩

end FieldForm

end NodeSync.Json
