/-
Types that have a form on the wire.

A type of the program is tied to a shape by two functions, one that takes a value of the shape and
one that gives it back.  Taking what was given is the identity, which is part of being such a
type: no field can be forgotten or swapped.
-/
import HealthBoard.Json.Printer
import HealthBoard.Json.ShapeConversion
import HealthBoard.Json.ShapeReader

namespace HealthBoard

open Json

/-- A type whose values are sent and received as JSON. -/
class Wire (α : Type) where
  shape : Shape
  take : shape.Value → α
  give : α → shape.Value
  take_give : ∀ a, take (give a) = a

namespace Wire

variable {α : Type} [Wire α]

/-- Decodes a text. -/
def decode (text : List UInt8) : Except Complaint α :=
  ((shape α).decode text).map take

/-- Takes the value out of JSON that was read before. -/
def convert (j : Json) : Except Mismatch α := ((shape α).convert j).map take

def toJson (a : α) : Json := (shape α).toJson (give a)

/-- The text that is sent for a value. -/
def encode (a : α) : String := (toJson a).render

end Wire

/-- The bytes of a text. -/
def bytesOf (s : String) : List UInt8 := s.toUTF8.toList

instance : Wire String where
  shape := .text
  take := id
  give := id
  take_give _ := rfl

/-- A list travels as the list of what its items travel as. -/
instance {α : Type} [Wire α] : Wire (List α) where
  shape := .list (Wire.shape α)
  take vs := vs.map Wire.take
  give as := as.map Wire.give
  take_give as := by
    induction as with
    | nil => rfl
    | cons a as ih => simpa [Wire.take_give] using ih

end HealthBoard
