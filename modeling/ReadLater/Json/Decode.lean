import ReadLater.Json.Read
import ReadLater.Json.Write
import ReadLater.Text.Case

/-!
# Decoding JSON into typed records

Request bodies are read into records whose fields have fixed types. The rules:

* an object fills a record member by member, in order; a key names a field exactly or, failing
  that, up to letter case; keys that name no field are ignored; a later member overwrites an
  earlier one;
* `null` leaves a field as it was, except that an optional field becomes empty and a raw field
  holds the `null`;
* a value of the wrong kind is a type error naming the value's kind, the field's path from the
  top (array indices included) and the field's type; the first type error in document order is
  the one reported, after the whole document was found to be well formed;
* an integer field takes a number literal that is an integer within 64 bits; any other number
  is reported with its literal.

`Shape` describes a record type; `Shape.decode` checks a value against it and returns the value
with every record member renamed to its field and every overwritten member dropped.
-/

namespace ReadLater

/-- The type of a field, as the decoder checks it. -/
inductive Shape where
  /-- Text, with the type name that errors show. -/
  | text (typeName : String)
  /-- A 64-bit integer. -/
  | int64
  /-- An optional 64-bit integer: `null` empties it. -/
  | optInt64
  | bool
  /-- Any JSON value, kept as it is. -/
  | raw
  /-- A record with named fields. -/
  | record (typeName : String) (fields : List (String × Shape))
  /-- A list of values of one shape. -/
  | list (typeName : String) (elem : Shape)
  deriving Repr, Inhabited

namespace Shape

/-- The type's name in error messages. -/
def typeName : Shape → String
  | .text n => n
  | .int64 => "int64"
  | .optInt64 => "int64"
  | .bool => "bool"
  | .raw => "json.RawMessage"
  | .record n _ => n
  | .list n _ => n

/-- The kind of a value as type errors name it. -/
def kindWord : Json → String
  | .null => "null"
  | .bool _ => "bool"
  | .num _ => "number"
  | .str _ => "string"
  | .arr _ => "array"
  | .obj _ => "object"

/-- The largest 64-bit integer. -/
def int64Max : Int := 9223372036854775807

/-- The value of an integer literal within 64 bits: an optional minus sign and digits only. -/
def int64Literal? (lit : String) : Option Int :=
  let (neg, digits) := match lit.toList with
    | '-' :: ds => (true, ds)
    | ds => (false, ds)
  if digits.isEmpty || !digits.all Char.isDigit then none
  else
    let n : Int := (String.ofList digits).toNat!
    let v := if neg then -n else n
    if v > int64Max || v < -int64Max - 1 then none else some v

/-- A field of a record named by a key: exactly, or else up to letter case. -/
def fieldFor (fields : List (String × Shape)) (key : String) : Option (String × Shape) :=
  match fields.find? (·.1 == key) with
  | some f => some f
  | none => fields.find? (fun f => Text.toLower f.1 == Text.toLower key)

/-- The type error for a value of the wrong kind at a path. -/
def mismatch (top : String) (path : List String) (what : String) (typeName : String) : String :=
  if path.isEmpty then s!"json: cannot unmarshal {what} into Go value of type {typeName}"
  else
    let p := ".".intercalate path
    s!"json: cannot unmarshal {what} into Go struct field {top}.{p} of type {typeName}"

mutual

/-- Checks a value against a shape. `top` names the outermost record type and `path` the field
path. -/
def decode (top : String) (path : List String) : Shape → Json → Except String Json
  | .text n, j =>
    match j with
    | .str _ | .null => .ok j
    | _ => .error (mismatch top path (kindWord j) n)
  | .int64, j | .optInt64, j =>
    match j with
    | .num lit =>
      if (int64Literal? lit).isSome then .ok j
      else .error (mismatch top path ("number " ++ lit) "int64")
    | .null => .ok j
    | _ => .error (mismatch top path (kindWord j) "int64")
  | .bool, j =>
    match j with
    | .bool _ | .null => .ok j
    | _ => .error (mismatch top path (kindWord j) "bool")
  | .raw, j => .ok j
  | .record n fields, j =>
    match j with
    | .obj ms => (decodeMembers top path fields ms []).map (fun acc => .obj acc)
    | .null => .ok (.obj [])
    | _ => .error (mismatch top path (kindWord j) n)
  | .list n elem, j =>
    match j with
    | .arr xs => (decodeItems top path elem 0 xs).map .arr
    | .null => .ok (.arr [])
    | _ => .error (mismatch top path (kindWord j) n)

/-- Fills record fields from members in order; a later member overwrites an earlier one. -/
def decodeMembers (top : String) (path : List String) (fields : List (String × Shape)) :
    List (String × Json) → List (String × Json) → Except String (List (String × Json))
  | [], acc => .ok acc
  | (k, v) :: rest, acc =>
    match fieldFor fields k with
    | none => decodeMembers top path fields rest acc
    | some (name, shape) =>
      match decode top (path ++ [name]) shape v with
      | .error e => .error e
      | .ok dv =>
        let keep := match dv, shape with
          | .null, .optInt64 | .null, .raw => true
          | .null, _ => false
          | _, _ => true
        let acc := if keep then acc.filter (·.1 != name) ++ [(name, dv)] else acc
        decodeMembers top path fields rest acc

/-- Checks the elements of a list, naming each by its index. -/
def decodeItems (top : String) (path : List String) (elem : Shape) :
    Nat → List Json → Except String (List Json)
  | _, [] => .ok []
  | i, x :: rest =>
    match decode top (path ++ [toString i]) elem x with
    | .error e => .error e
    | .ok dx => (decodeItems top path elem (i + 1) rest).map (dx :: ·)

end

/-- Reads a request body: its first JSON value, checked against a record shape. The message is
the reader's or the first type error. -/
def readBody (shape : Shape) (body : String) : Except String Json :=
  match Json.decodeFirst? body with
  | .error e => .error e.streamMessage
  | .ok j => decode (match shape with
      | .record n _ => (n.splitOn ".").getLast!
      | s => s.typeName) [] shape j

end Shape

namespace Json

/-- A text field of a decoded record, empty when absent or null. -/
def textField (j : Json) (name : String) : String :=
  match j.field? name with
  | some (.str s) => s
  | _ => ""

/-- An integer field of a decoded record, 0 when absent or null. -/
def intField (j : Json) (name : String) : Int :=
  match j.field? name with
  | some (.num lit) => (Shape.int64Literal? lit).getD 0
  | _ => 0

/-- An optional integer field of a decoded record. -/
def optIntField (j : Json) (name : String) : Option Int :=
  match j.field? name with
  | some (.num lit) => Shape.int64Literal? lit
  | _ => none

/-- The elements of a list field of a decoded record. -/
def listField (j : Json) (name : String) : List Json :=
  match j.field? name with
  | some (.arr xs) => xs
  | _ => []

end Json

end ReadLater
