/-
The types that cross the boundary between host and guest.  Each primitive has
one name in the metadata and one spelling in C; every other type name is kept as
it stands and is not supported.  Void is a return type only.
-/

namespace GuestGlue

inductive Primitive where
  | i8 | i16 | i32 | i64
  | u8 | u16 | u32 | u64
  | f32 | f64
  | void
  deriving DecidableEq, Repr

namespace Primitive

def all : List Primitive :=
  [.i8, .i16, .i32, .i64, .u8, .u16, .u32, .u64, .f32, .f64, .void]

def spelling : Primitive → String
  | .i8 => "int8_t"
  | .i16 => "int16_t"
  | .i32 => "int32_t"
  | .i64 => "int64_t"
  | .u8 => "uint8_t"
  | .u16 => "uint16_t"
  | .u32 => "uint32_t"
  | .u64 => "uint64_t"
  | .f32 => "float"
  | .f64 => "double"
  | .void => "void"

def metadataName : Primitive → String
  | .i8 => "System.SByte"
  | .i16 => "System.Int16"
  | .i32 => "System.Int32"
  | .i64 => "System.Int64"
  | .u8 => "System.Byte"
  | .u16 => "System.UInt16"
  | .u32 => "System.UInt32"
  | .u64 => "System.UInt64"
  | .f32 => "System.Single"
  | .f64 => "System.Double"
  | .void => "System.Void"

def keyword : Primitive → String
  | .i8 => "i8"
  | .i16 => "i16"
  | .i32 => "i32"
  | .i64 => "i64"
  | .u8 => "u8"
  | .u16 => "u16"
  | .u32 => "u32"
  | .u64 => "u64"
  | .f32 => "f32"
  | .f64 => "f64"
  | .void => "void"

def ofMetadataName? (name : String) : Option Primitive :=
  all.find? fun primitive => primitive.metadataName = name

theorem ofMetadataName?_metadataName (primitive : Primitive) :
    ofMetadataName? primitive.metadataName = some primitive := by
  cases primitive <;> decide

def isVoid (primitive : Primitive) : Bool :=
  primitive = .void

end Primitive

structure UnknownPrimitive where
  name : String

def UnknownPrimitive.message (unknown : UnknownPrimitive) : String :=
  s!"`{unknown.name}` is not a supported primitive type"

def Primitive.parse (name : String) : Except UnknownPrimitive Primitive :=
  match ofMetadataName? name with
  | some primitive => .ok primitive
  | none => .error ⟨name⟩

structure TypeRef where
  name : String
  deriving DecidableEq, Repr

namespace TypeRef

def ofPrimitive (primitive : Primitive) : TypeRef :=
  ⟨primitive.metadataName⟩

def void : TypeRef := ofPrimitive .void

def primitive? (type : TypeRef) : Option Primitive :=
  Primitive.ofMetadataName? type.name

@[simp] theorem primitive?_ofPrimitive (primitive : Primitive) :
    (ofPrimitive primitive).primitive? = some primitive :=
  Primitive.ofMetadataName?_metadataName primitive

def isSupported (type : TypeRef) : Bool :=
  type.primitive?.isSome

def isParameter (type : TypeRef) : Bool :=
  type.primitive?.any fun primitive => !primitive.isVoid

def isReturn (type : TypeRef) : Bool :=
  type.isSupported

def shortName (type : TypeRef) : String :=
  String.ofList (type.name.toList.reverse.takeWhile (· ≠ '.')).reverse

end TypeRef

end GuestGlue
