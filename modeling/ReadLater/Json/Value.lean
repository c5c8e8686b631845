/-!
# JSON documents

The service reads and writes JSON: request bodies, mutation arguments, source configuration,
feeds in the JSON Feed format and every response. A document is kept close to its text:

* numbers keep their literal (`1.50` stays `1.50`), because error messages quote it and a
  64-bit field accepts only some literals;
* objects keep their members in order, duplicates included, because a later member wins when a
  document is decoded into a record.

Also here: member look-up, and the small builders used by the encoders.
-/

namespace ReadLater

/-- A JSON value as written: literal numbers, ordered members. -/
inductive Json where
  | null
  | bool (b : Bool)
  | num (literal : String)
  | str (s : String)
  | arr (items : List Json)
  | obj (members : List (String × Json))
  deriving Repr, Inhabited, BEq

namespace Json

/-- An integer as a JSON number. -/
def int (n : Int) : Json := .num (toString n)

/-- A natural number as a JSON number. -/
def nat (n : Nat) : Json := .num (toString n)

/-- `null` for nothing, the encoding of the value otherwise. -/
def opt {α : Type} (f : α → Json) : Option α → Json
  | none => .null
  | some a => f a

/-- The last member named `key`: later members win, as when a document fills a record. -/
def field? (j : Json) (key : String) : Option Json :=
  match j with
  | .obj ms => (ms.reverse.find? (fun m => m.1 == key)).map (·.2)
  | _ => none

/-- The kind of a value as JSON names it. -/
def kind : Json → String
  | .null => "null"
  | .bool _ => "boolean"
  | .num _ => "number"
  | .str _ => "string"
  | .arr _ => "array"
  | .obj _ => "object"

end Json

end ReadLater
