import CrateListing.Text.Basic

/-!
# Types

Types of the low-level borrow calculus: regions, integer types, and types built
from declared, built-in and tuple constructors.
-/

namespace CrateListing

/-- A region (lifetime). -/
inductive Region where
  | static
  | var (id : Int)
  | erased
deriving DecidableEq, Repr

/-- The integer types. -/
inductive IntegerType where
  | isize
  | i8
  | i16
  | i32
  | i64
  | i128
  | usize
  | u8
  | u16
  | u32
  | u64
  | u128
deriving DecidableEq, Repr

namespace IntegerType

/-- All integer types. -/
def all : List IntegerType :=
  [.isize, .i8, .i16, .i32, .i64, .i128, .usize, .u8, .u16, .u32, .u64, .u128]

/-- The name of an integer type. -/
def name : IntegerType → Text
  | .isize => "isize"
  | .i8 => "i8"
  | .i16 => "i16"
  | .i32 => "i32"
  | .i64 => "i64"
  | .i128 => "i128"
  | .usize => "usize"
  | .u8 => "u8"
  | .u16 => "u16"
  | .u32 => "u32"
  | .u64 => "u64"
  | .u128 => "u128"

/-- Whether a type has negative values. -/
def isSigned : IntegerType → Bool
  | .isize | .i8 | .i16 | .i32 | .i64 | .i128 => true
  | .usize | .u8 | .u16 | .u32 | .u64 | .u128 => false

/-- The type with a name, in any mixture of upper and lower case.  Only ASCII letters can match,
so the ASCII case map decides. -/
def ofName? (text : Text) : Option IntegerType :=
  all.find? fun ty => ty.name = Text.ofList (text.toList.map CodePoint.toLower)

end IntegerType

/-- Whether a reference may be written through. -/
inductive Mutability where
  | mutable
  | shared
deriving DecidableEq, Repr

/-- Library types that are known without a declaration. -/
inductive BuiltinType where
  | box
  | vec
  | option
deriving DecidableEq, Repr

/-- The name of a built-in type. -/
def BuiltinType.name : BuiltinType → Text
  | .box => "Box"
  | .vec => "Vec"
  | .option => "Option"

/-- What a constructed type is built with. -/
inductive TypeHead where
  | declared (id : Int)
  | tuple
  | builtin (ty : BuiltinType)
deriving DecidableEq, Repr

/-- A type. -/
inductive Ty where
  | adt (head : TypeHead) (regions : List Region) (types : List Ty)
  | var (id : Int)
  | bool
  | char
  | never
  | integer (ty : IntegerType)
  | str
  | array (element : Ty)
  | slice (element : Ty)
  | ref (region : Region) (target : Ty) (mutability : Mutability)
deriving Repr, BEq

/-- Whether a type is `!`. -/
def Ty.isNever : Ty → Bool
  | .never => true
  | _ => false

end CrateListing
