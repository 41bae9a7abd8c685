/-
EventJournal/Metadata.lean

The context stored with every entry of one append: a value, the name of an operation
and properties.  Properties are kept in ascending order of their names, each name
once; the order is part of the type, so equal contents are equal values.
-/
import EventJournal.Shape

namespace EventJournal

/-! ### Properties -/

/-- Texts by name, in ascending order of the names. -/
structure Properties where
  rows : List (String × String)
  ascending : rows.Pairwise fun a b => a.1 < b.1
deriving DecidableEq, Repr

namespace Properties

/-- No properties. -/
def empty : Properties := ⟨[], List.Pairwise.nil⟩

instance : Inhabited Properties := ⟨empty⟩

def isEmpty (p : Properties) : Bool := p.rows.isEmpty

/-- Puts a row where its name belongs, in place of a row of that name. -/
def setRow (name value : String) : List (String × String) → List (String × String)
  | [] => [(name, value)]
  | r :: rest =>
    if name < r.1 then (name, value) :: r :: rest
    else if r.1 < name then r :: setRow name value rest
    else (name, value) :: rest

theorem mem_setRow {name value : String} {l : List (String × String)} {r : String × String}
    (h : r ∈ setRow name value l) : r = (name, value) ∨ r ∈ l := by
  induction l with
  | nil =>
    rw [setRow, List.mem_singleton] at h
    exact Or.inl h
  | cons s rest ih =>
    unfold setRow at h
    split at h
    · exact List.mem_cons.1 h
    · split at h
      · rcases List.mem_cons.1 h with h | h
        · exact Or.inr (List.mem_cons.2 (Or.inl h))
        · exact (ih h).imp_right (List.mem_cons_of_mem _)
      · exact (List.mem_cons.1 h).imp_right (List.mem_cons_of_mem _)

theorem ascending_setRow (name value : String) {l : List (String × String)}
    (h : l.Pairwise fun a b => a.1 < b.1) :
    (setRow name value l).Pairwise fun a b => a.1 < b.1 := by
  induction l with
  | nil => exact List.pairwise_singleton _ _
  | cons s rest ih =>
    obtain ⟨hs, hrest⟩ := List.pairwise_cons.1 h
    unfold setRow
    split
    · rename_i hlt
      refine List.pairwise_cons.2 ⟨fun r hr => ?_, h⟩
      rcases List.mem_cons.1 hr with rfl | hr
      · exact hlt
      · exact String.lt_trans hlt (hs r hr)
    · rename_i hnlt
      split
      · rename_i hgt
        refine List.pairwise_cons.2 ⟨fun r hr => ?_, ih hrest⟩
        rcases mem_setRow hr with rfl | hr
        · exact hgt
        · exact hs r hr
      · rename_i hngt
        have heq : name = s.1 := String.le_antisymm (String.not_lt.1 hngt) (String.not_lt.1 hnlt)
        refine List.pairwise_cons.2 ⟨fun r hr => ?_, hrest⟩
        rw [heq]
        exact hs r hr

/-- Sets the property `name`. -/
def insert (p : Properties) (name value : String) : Properties :=
  ⟨setRow name value p.rows, ascending_setRow name value p.ascending⟩

def toJson (p : Properties) : Json := .obj (p.rows.map fun r => (r.1, .str r.2))

/-- Reads an object all of whose fields are texts. -/
def ofJson? : Json → Option Properties
  | .obj fields => fields.foldlM (fun p f => f.2.str?.map (p.insert f.1)) empty
  | _ => none

instance : Shape Properties := ⟨toJson, ofJson?⟩

end Properties

/-! ### Metadata -/

/-- The context of an append. -/
structure Metadata where
  value : Json
  operation : String
  properties : Properties
deriving DecidableEq, Repr

namespace Metadata

/-- No context. -/
def none : Metadata := ⟨.null, "", .empty⟩

instance : Inhabited Metadata := ⟨none⟩

def setValue (m : Metadata) (value : Json) : Metadata := { m with value }

def setOperation (m : Metadata) (operation : String) : Metadata := { m with operation }

def setProperty (m : Metadata) (name value : String) : Metadata :=
  { m with properties := m.properties.insert name value }

def isEmpty (m : Metadata) : Bool :=
  m.value.isNull && m.operation.isEmpty && m.properties.isEmpty

def fieldNames : List String := ["value", "operation", "properties"]

def toJson (m : Metadata) : Json :=
  Shape.record fieldNames [m.value, .str m.operation, m.properties.toJson]

def ofJson? (j : Json) : Option Metadata := do
  let [value, operation, properties] ← Shape.columns fieldNames j | .none
  pure ⟨← Shape.required Shape.read value, ← Shape.required Shape.read operation,
    ← Shape.required Shape.read properties⟩

instance : Shape Metadata := ⟨toJson, ofJson?⟩

end Metadata

end EventJournal
