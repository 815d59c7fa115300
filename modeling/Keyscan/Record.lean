import Keyscan.Attribute.Wire

/-!
Records: the raw items of a store, as maps from attribute names to values.
-/

set_option autoImplicit false

namespace Keyscan

/-- One item of a store. -/
abbrev Record := SortedMap Attribute

namespace Record

/-- The named attributes that the record has. -/
def project (r : Record) (names : List String) : Record :=
  r.filterKeys fun k => names.contains k

/-- Every attribute value is well formed. -/
def WellFormed (r : Record) : Prop := Attribute.WellFormedEntries r.entries

/-- The wire form of a record: an object of its attributes in key order. -/
def toJson (r : Record) : Json := .object (Attribute.entriesToJson r.entries)

/-- The compact text of the wire form. -/
def wire (r : Record) : String := (toJson r).print

/-- The record that a JSON value is the wire form of. Of several attributes with one name the last
one counts. -/
def decode (j : Json) : Except DecodeError Record :=
  (j.asMembers Attribute.decode).map SortedMap.ofList

end Record

end Keyscan
