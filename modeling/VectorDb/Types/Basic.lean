/-
The scalar types and constants that the client and the wire messages share.

A `std::string` is the list of its characters; the code concatenates and compares strings
and never looks inside a character.  Integers have the widths that the headers give them.
Floating-point numbers are only ever copied, so they are carried as their bits.
-/
import VectorDb.Lib.MapLoop

namespace VectorDb

/-- A `std::string`, a `string` or a `bytes` field. -/
abbrev Str : Type := List Char

/-- A `double`, by its bits. -/
structure Double where
  /-- The bits of the number. -/
  bits : UInt64
deriving DecidableEq, Repr

/-- A `float`, by its bits. -/
structure Single where
  /-- The bits of the number. -/
  bits : UInt32
deriving DecidableEq, Repr

/-- The number `0.0`. -/
def Double.zero : Double := ⟨0⟩

/-- The number `0.0f`. -/
def Single.zero : Single := ⟨0⟩

/-! ### The constants of `consts.h` -/

def eventualConsistency : Str := "eventualConsistency".toList

def kString : Str := "string".toList

def kArray : Str := "array".toList

def kVector : Str := "vector".toList

lemma kString_ne_nil : kString ≠ [] := by decide

end VectorDb
