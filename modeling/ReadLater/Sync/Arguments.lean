import ReadLater.Json.Value
import ReadLater.Text.Quote

/-!
# Argument schemas of mutations

Each mutation states the JSON object it takes: the members it requires and, for each member it
knows, that it is a string with bounds on its length in characters. Checking arguments against
a schema gives every violation at once, each at the JSON pointer of the value that breaks it:

* a value that is not an object: `got array, want object` at the root, and nothing else;
* missing members: `missing property 'x'` (or `missing properties 'x', 'y'`) at the root;
* a known member that is not a string: `got number, want string`;
* a string too short or too long: `minLength: got 0, want 1`, with thousands separated by commas.

The report names the schema by its address and lists the violations after ` - at '...': `.
-/

namespace ReadLater.Sync

/-- A member that a schema knows: a string, with optional bounds on its length. -/
structure MemberRule where
  name : String
  minLength : Option Nat := none
  maxLength : Option Nat := none
  deriving Repr, Inhabited

/-- The schema of a mutation's arguments. -/
structure ArgSchema where
  /-- The mutation's name, which also names the schema's address. -/
  mutation : String
  required : List String
  members : List MemberRule
  deriving Repr, Inhabited

/-- Thousands separated by commas, counted from the right. -/
def withCommas (n : Nat) : String :=
  let ds := (toString n).toList.reverse
  let rec go : List Char → Nat → List Char
    | [], _ => []
    | c :: cs, i => if i > 0 && i % 3 == 0 then ',' :: c :: go cs (i + 1) else c :: go cs (i + 1)
  String.ofList (go ds 0).reverse

/-- The kind of a value as schemas name it. -/
def schemaKind : Json → String
  | .null => "null"
  | .bool _ => "boolean"
  | .num _ => "number"
  | .str _ => "string"
  | .arr _ => "array"
  | .obj _ => "object"

/-- A member name quoted for a message. -/
def quoteName (s : String) : String := "\x27" ++ s ++ "\x27"

/-- A JSON pointer step: `~` and `/` escaped. -/
def pointerStep (s : String) : String :=
  "/" ++ String.join (s.toList.map fun c =>
    if c == '~' then "~0" else if c == '/' then "~1" else String.singleton c)

namespace ArgSchema

/-- The schema's address. -/
def address (s : ArgSchema) : String :=
  "https://inboxsync.invalid/mutations/" ++ s.mutation ++ ".json"

/-- The violations of one known member's value. -/
def memberViolations (r : MemberRule) (v : Json) : List (String × String) :=
  let at_ := pointerStep r.name
  match v with
  | .str s =>
    let n := s.length
    let short := match r.minLength with
      | some m => if n < m then [(at_, s!"minLength: got {withCommas n}, want {withCommas m}")] else []
      | none => []
    let long := match r.maxLength with
      | some m => if n > m then [(at_, s!"maxLength: got {withCommas n}, want {withCommas m}")] else []
      | none => []
    short ++ long
  | other => [(at_, s!"got {schemaKind other}, want string")]

/-- Every violation of a value, as (pointer, message) pairs. -/
def violations (s : ArgSchema) (v : Json) : List (String × String) :=
  match v with
  | .obj ms =>
    let present := fun (k : String) => ms.any (·.1 == k)
    let missing := s.required.filter (fun k => !present k)
    let req := match missing with
      | [] => []
      | [k] => [("", "missing property " ++ quoteName k)]
      | ks => [("", "missing properties " ++ ", ".intercalate (ks.map quoteName))]
    let mems := s.members.flatMap fun r =>
      match (ms.reverse.find? (·.1 == r.name)) with
      | some (_, val) => memberViolations r val
      | none => []
    req ++ mems
  | other => [("", s!"got {schemaKind other}, want object")]

/-- The report of a value's violations, or none when it satisfies the schema. -/
def check (s : ArgSchema) (v : Json) : Option String :=
  match s.violations v with
  | [] => none
  | vs => some ("jsonschema validation failed with " ++ quoteName (s.address ++ "#") ++
      String.join (vs.map fun (p, m) => " - at " ++ quoteName p ++ ": " ++ m))

end ArgSchema

end ReadLater.Sync
