import MathHeader.Shape

/-!
# Alias groups of vectors

The components of a vector have several names at once: by position, by colour, by texture
coordinate, and as the smaller vectors that lie inside.  Each *alias group* names the whole storage
of the vector once, from the first component to the last.  A slot of a group is a member, which
covers as many components as its name has letters, or a component that the group does not name.

Unnamed components are padding.  They need names of their own nevertheless, and are numbered
through the whole vector.
-/

namespace MathHeader.Storage

/-! ## The groups -/

/-- A place in an alias group. -/
inductive Slot where
  /-- A member that covers one component for each letter of its name. -/
  | named (name : String)
  /-- One component without a name. -/
  | pad
deriving DecidableEq, Repr

/-- The alias groups of a vector, in the order of their declaration. -/
def aliasGroups : Width → List (List Slot)
  | .two =>
    [ [.named "x", .named "y"],
      [.named "r", .named "g"],
      [.named "u", .named "v"] ]
  | .three =>
    [ [.named "x", .named "y", .named "z"],
      [.named "r", .named "g", .named "b"],
      [.named "xy", .pad],
      [.pad, .named "yz"],
      [.named "rg", .pad],
      [.pad, .named "gb"] ]
  | .four =>
    [ [.named "x", .named "y", .named "z", .named "w"],
      [.named "r", .named "g", .named "b", .named "a"],
      [.named "xy", .named "zw"],
      [.named "rg", .named "ba"],
      [.named "xyz", .pad],
      [.pad, .named "yzw"],
      [.named "rgb", .pad],
      [.pad, .named "gba"],
      [.pad, .named "yz", .pad],
      [.pad, .named "gb", .pad] ]

/-- The letters that components are named by, each family in the order of the components. -/
def alphabets : List String :=
  ["xyzw", "rgba", "uv"]

/-- The alphabet that the letters of a name come from. -/
def alphabetOf (name : String) : Option String :=
  alphabets.find? fun alphabet => name.toList.all alphabet.toList.contains

/-! ## The members -/

/-- A member of a structure: its name, the component where it starts, and the count of components
that it covers. -/
structure Member where
  name : String
  offset : Nat
  components : Nat
deriving DecidableEq, Repr

def Slot.components : Slot → Nat
  | named name => name.length
  | pad => 1

/-- The count of slots without a name. -/
def padCount (slots : List Slot) : Nat :=
  slots.count .pad

/-- The members of a group from the component `offset` on; padding is numbered from `pads`. -/
def layOut (pads offset : Nat) : List Slot → List Member
  | [] => []
  | .named name :: slots =>
    ⟨name, offset, name.length⟩ :: layOut pads (offset + name.length) slots
  | .pad :: slots => ⟨"_" ++ toString pads, offset, 1⟩ :: layOut (pads + 1) (offset + 1) slots

/-- The members of several groups; padding is numbered from `pads` through all of them. -/
def layOutGroups (pads : Nat) : List (List Slot) → List (List Member)
  | [] => []
  | g :: gs => layOut pads 0 g :: layOutGroups (pads + padCount g) gs

def members (w : Width) : List (List Member) :=
  layOutGroups 0 (aliasGroups w)

/-! ## The declaration of a group -/

/-- The type of a member of a vector: a smaller vector, or the element itself. -/
def Member.type (element : Scalar) (m : Member) : ShapedType :=
  match Width.ofNat? m.components with
  | some w => .ofWidth element w
  | none => ⟨element, .scalar⟩

/-- The declaration of neighbouring members of one type. -/
def declaration (element : Scalar) (run : List Member) : String :=
  match run with
  | [] => ""
  | m :: _ => (m.type element).token ++ " " ++ ", ".intercalate (run.map Member.name) ++ ";"

/-- The declaration of a group, neighbouring members of one type being declared together. -/
def groupText (element : Scalar) (group : List Member) : String :=
  let runs := group.splitBy fun a b => a.type element == b.type element
  "struct \x7b" ++ " ".intercalate (runs.map (declaration element)) ++ "\x7d;"

end MathHeader.Storage
