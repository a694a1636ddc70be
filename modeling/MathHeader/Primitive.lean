import MathHeader.Macros.Definition
import MathHeader.Preprocessor.Node
import MathHeader.Scalar

/-!
# Primitive types and the specifier of functions

The header names the scalar types by short aliases of the standard ones.  It declares every
function with one macro, the *specifier*, which makes the functions static, and asks for inlining
in the way that the compiler understands.  A user who defines `RM_NO_INLINE` gets static functions
without that request.
-/

namespace MathHeader

open Preprocessor

/-! ## The aliases -/

/-- The standard headers that the aliases need. -/
def standardHeaders : List String :=
  ["stdint.h", "stdbool.h", "stddef.h"]

def sizeAlias : String := "usize"

/-- The aliases with the types that they stand for. -/
def aliases : List (String × String) :=
  (Scalar.all.filterMap fun s => s.cType.map (s.token, ·)) ++ [(sizeAlias, "size_t")]

/-- The names of the aliases. -/
def primitiveNames : List String :=
  aliases.map (·.1)

/-- The lines that declare the aliases. -/
def primitiveLines : List String :=
  blockLines (standardHeaders.map .include) ++ "" ::
    aliases.map fun (name, type) => "typedef " ++ type ++ " " ++ name ++ ";"

/-! ## The specifier -/

/-- The macro by which a user forgoes inlining. -/
def noInline : String := "RM_NO_INLINE"

def specifierLines (name : String) : List String :=
  let expandTo (replacement : String) : String := (MacroDefinition.object name replacement).line
  ["#if " ++ (Condition.undefined noInline).text,
   "#if " ++ (Condition.defined "_MSC_VER").text,
   expandTo "static __forceinline",
   "#elif " ++ (Condition.anyDefined ["__GNUC__", "__clang__"]).text,
   expandTo "static inline __attribute((always_inline))",
   "#else",
   expandTo "static inline",
   endLine "",
   "#else",
   expandTo "static",
   endLine noInline]

end MathHeader
