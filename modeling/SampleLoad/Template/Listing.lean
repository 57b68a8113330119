import SampleLoad.Template.Registry

/-!
The listing of templates: for each a line with its container, kind and number of rows, and below it a line
for each column.
-/

namespace SampleLoad

namespace Column

/-- The column's line in a listing. -/
def listingLine (c : Column) : String :=
  "  " ++ toString c.position.toNat ++ ": " ++ c.name ++ " " ++ c.type.wireName ++
    (if c.isKey then " [row key]" else "") ++ "\n"

end Column

namespace Template

/-- The template's lines in a listing. -/
def listing (t : Template) : String :=
  t.id ++ " -> " ++ t.container ++ " (" ++ t.schema.kind.wireName ++ ", " ++ toString t.rowCount ++ " rows)\n" ++
    String.join (t.schema.columns.map Column.listingLine)

end Template

/-- The listing of all templates of a registry. -/
def Registry.listing (r : Registry) : String := String.join (r.templates.toList.map Template.listing)

end SampleLoad
