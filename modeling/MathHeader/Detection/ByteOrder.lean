import MathHeader.Preprocessor.Node

/-!
# Byte orders

The order in which the bytes of a number lie in memory.  The detection block settles it in the
macro `RM_BYTE_ORDER`, whose value is one of two customary numbers, and the layout of the halves of
a double follows it.
-/

namespace MathHeader

/-- The order of the bytes of a number in memory. -/
inductive ByteOrder where
  /-- The most significant byte first. -/
  | big
  /-- The least significant byte first. -/
  | little
deriving DecidableEq, Repr

namespace ByteOrder

/-- Both orders. -/
def all : List ByteOrder :=
  [big, little]

/-- The macro that holds the order of the target. -/
def settled : String := "RM_BYTE_ORDER"

/-- The number of an order. -/
def value : ByteOrder → Int64
  | big => 4321
  | little => 1234

/-- The macro that holds the number of an order. -/
def macroName : ByteOrder → String
  | big => "RM_BYTE_ORDER_BIG_ENDIAN"
  | little => "RM_BYTE_ORDER_LITTLE_ENDIAN"

/-- The order of a given number. -/
def ofValue? (value : Int64) : Option ByteOrder :=
  all.find? fun o => o.value == value

theorem ofValue?_value (o : ByteOrder) : ofValue? o.value = some o := by
  cases o <;> decide

/-- Whether the target has a given order, as a condition. -/
def isSettled (o : ByteOrder) : Preprocessor.Condition :=
  .macrosEqual settled o.macroName

end ByteOrder

end MathHeader
