import DocQuery.Dict
import DocQuery.Number.Binary64
import DocQuery.Number.Decimal128

/-!
# Values of a document database

* `Value`: a typed value, arrays and documents of values among them.
* `Document`: values by key, in order of insertion.
-/

namespace DocQuery

/-- A value that a document can hold. -/
inductive Value where
  | int32 (n : Int32)
  | int64 (n : Int64)
  | double (x : Binary64)
  | decimal128 (x : Decimal128)
  | string (text : Text)
  | bool (b : Bool)
  | null
  | array (items : List Value)
  | document (entries : List (Text × Value))
  /-- Milliseconds since the epoch. -/
  | dateTime (millis : Int)
  | regex (pattern options : Text)
  /-- Bytes of a kind. Kind 0 is that of any bytes. -/
  | binary (kind : UInt8) (bytes : List UInt8)
  | objectId (id : BitVec 96)
  | dbPointer (collection : Text) (id : BitVec 96)
  | symbol (name : Text)
  | code (source : Text)
  | codeWithScope (source : Text) (scope : List (Text × Value))
  | timestamp (time increment : UInt32)
  | undefined
  | minKey
  | maxKey

instance : Inhabited Value := ⟨.null⟩

/-- Values by key, in order of insertion. -/
abbrev Document := Dict Value

end DocQuery
