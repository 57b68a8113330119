/-!
Finite maps from names, kept as lists in ascending order of names. Names compare by code points, which is
also the order of their UTF-8 bytes.
-/

namespace SampleLoad

/-- A finite map whose entries are listed in ascending order of names. -/
structure NameMap (α : Type) where
  entries : List (String × α)
  deriving DecidableEq

namespace NameMap

variable {α : Type}

def empty : NameMap α := ⟨[]⟩

instance : Inhabited (NameMap α) := ⟨empty⟩

def find? (m : NameMap α) (name : String) : Option α :=
  (m.entries.find? (·.1 = name)).map (·.2)

def contains (m : NameMap α) (name : String) : Bool := (m.find? name).isSome

def names (m : NameMap α) : List String := m.entries.map (·.1)

/-- Sets the entry of a name to what `f` makes of the present one, in its place in the order. -/
def alterEntries (name : String) (f : Option α → α) : List (String × α) → List (String × α)
  | [] => [(name, f none)]
  | (key, value) :: rest =>
    if name < key then (name, f none) :: (key, value) :: rest
    else if name = key then (key, f (some value)) :: rest
    else (key, value) :: alterEntries name f rest

/-- Sets the entry of a name to what `f` makes of the present one. -/
def alter (m : NameMap α) (name : String) (f : Option α → α) : NameMap α :=
  ⟨alterEntries name f m.entries⟩

/-- Sets the entry of a name. -/
def insert (m : NameMap α) (name : String) (value : α) : NameMap α := m.alter name fun _ => value

def erase (m : NameMap α) (name : String) : NameMap α := ⟨m.entries.filter (·.1 ≠ name)⟩

end NameMap

end SampleLoad
