import AttributeRelease.Attribute.ValueSet
import AttributeRelease.ConfigError
import AttributeRelease.Dictionary
import AttributeRelease.Text.Blank

/-! Attributes: named collections of values that describe a principal. -/

namespace AttributeRelease

structure Attribute where
  id : String
  /-- Names for people, by language tag. -/
  displayNames : Dictionary String := ∅
  displayDescriptions : Dictionary String := ∅
  values : ValueSet := ∅
  deriving DecidableEq

namespace Attribute

instance : Inhabited Attribute := ⟨⟨"", ∅, ∅, ∅⟩⟩

/-- An attribute without values. Its id must not be blank. -/
def named (id : String) : Except ConfigError Attribute :=
  if Text.isBlank id then .error (.missing .attributeId) else .ok { id }

def insert (attr : Attribute) (value : Value) : Attribute :=
  { attr with values := attr.values.insert value }

def insertAll (attr : Attribute) (values : List Value) : Attribute :=
  { attr with values := attr.values.insertAll values }

/-- The attribute with only those of its values that are in `retained`, in its own order. -/
def retain (attr : Attribute) (retained : ValueSet) : Attribute :=
  { attr with values := attr.values.inter retained }

/-- Equality up to the order of the values. -/
def same (left right : Attribute) : Bool :=
  left.id == right.id && left.displayNames == right.displayNames &&
    left.displayDescriptions == right.displayDescriptions &&
    left.values.sameMembers right.values

end Attribute

end AttributeRelease
