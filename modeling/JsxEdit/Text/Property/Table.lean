import JsxEdit.Text.CharRanges

/-!
  **Tables of character properties.**

  A table is the text of its ranges under the names a property goes by. Names are in
  lower case, without blanks and dashes.
-/

namespace JsxEdit.Text

structure PropertyTable where
  names : List String
  text : String

def PropertyTable.find? (tables : List PropertyTable) (name : String) : Option CharRanges :=
  (tables.find? (·.names.contains name)).map (.ofText ·.text)

end JsxEdit.Text
