import JsxEdit.Text.Property.Age
import JsxEdit.Text.Property.Break

/-!
  **Looking a property up by its name.**

  A property is asked for by one name, or by the name of a property and a value of it.
  Names are matched loosely: case, blanks, dashes and underscores do not count, nor
  does `is` in front of a name.
-/

namespace JsxEdit.Text

/-- The form in which the tables have a name. The name `isc` keeps its `is`, since
    without it the name of a category would be left. -/
def propertyName (name : List Char) : String :=
  let keep (cs : List Char) : List Char :=
    (cs.filter fun c => decide (c.toNat < 128) && !([' ', '_', '-'].contains c)).map Char.toLower
  match name with
  | i :: s :: rest =>
    if i.toLower == 'i' && s.toLower == 's' then
      if keep rest == ['c'] then "isc" else String.ofList (keep rest)
    else String.ofList (keep name)
  | _ => String.ofList (keep name)

/-- The property of a name: one that a character has or has not, else a general
    category, else a script. -/
def property? (name : List Char) : Option CharRanges :=
  let name := propertyName name
  (if name ∈ ["cf", "sc", "lc"] then none else binary? name) <|> category? name <|> script? name

/-- The characters for which a property has a value. -/
def propertyValue? (name value : List Char) : Option CharRanges :=
  let name := propertyName name
  let value := propertyName value
  if name ∈ ["gc", "generalcategory"] then category? value
  else if name ∈ ["sc", "script"] then script? value
  else if name ∈ ["scx", "scriptextensions"] then scriptExtension? value
  else if name ∈ ["age"] then age? value
  else if name ∈ ["gcb", "graphemeclusterbreak"] then graphemeBreak? value
  else if name ∈ ["wb", "wordbreak"] then wordBreak? value
  else if name ∈ ["sb", "sentencebreak"] then sentenceBreak? value
  else none

end JsxEdit.Text
