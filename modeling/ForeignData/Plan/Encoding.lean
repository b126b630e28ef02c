import ForeignData.Json.Reader
import ForeignData.Plan.Change
import ForeignData.Plan.Query

/-!
# Plans as text

Between planning and execution the host keeps plans as text. Writing gives one compact form; reading
takes that form, objects with members in any order and with unknown ones besides, and arrays of the
members in order. A member that is missing or stands there twice is refused, except that the key of
the rows is not fetched where nothing is said of it.
-/

namespace ForeignData

/-! ### Writing -/

/-- Attribute numbers as an array. -/
def attrsText (attrs : List AttrNumber) : List Char :=
  jsonArrayText (attrs.map fun n => intText n.toInt)

def ScanPlan.encode (plan : ScanPlan) : String :=
  String.ofList <| jsonObjectText
    [("query", jsonStringText plan.query.toList),
     ("retrieved_attrs", attrsText plan.retrieved),
     ("param_count", natText plan.paramCount.toNat),
     ("fetch_rowid", jsonBoolText plan.fetchRowid)]

def Mutation.kind : Mutation → String
  | insert _ => "insert"
  | update _ => "update"
  | delete => "delete"

/-- The text of a mutation, the word for its kind in front. -/
def Mutation.encode (m : Mutation) : List Char :=
  let kind := ("kind", jsonStringText m.kind.toList)
  match m with
  | insert attrs | update attrs => jsonObjectText [kind, ("target_attrs", attrsText attrs)]
  | delete => jsonObjectText [kind]

def ChangePlan.encode (plan : ChangePlan) : String :=
  String.ofList <| jsonObjectText
    [("mutation", plan.mutation.encode), ("query", jsonStringText plan.query.toList)]

/-! ### Reading of parts -/

namespace Json

def string? : Json → Option String
  | string v => some (String.ofList v)
  | _ => none

def bool? : Json → Option Bool
  | bool v => some v
  | _ => none

/-- An integer within the range of attribute numbers. -/
def attr? : Json → Option AttrNumber
  | integer v => toInt16? v
  | _ => none

def count? : Json → Option UInt64
  | integer v => if 0 ≤ v ∧ v < UInt64.size then some (UInt64.ofNat v.toNat) else none
  | _ => none

def attrs? : Json → Option (List AttrNumber)
  | array items => items.mapM attr?
  | _ => none

mutual

/-- Whether a value can be kept for a later reading: its strings and names are texts, its numbers
are within range, and at most `depth` values lie around each other. -/
def canBeKept : Nat → Json → Bool
  | _, brokenString => false
  | _, unbounded => false
  | depth, array items => 0 < depth && allCanBeKept (depth - 1) items
  | depth, object members => 0 < depth && membersCanBeKept (depth - 1) members
  | _, _ => true

def allCanBeKept : Nat → List Json → Bool
  | _, [] => true
  | depth, item :: items => item.canBeKept depth && allCanBeKept depth items

def membersCanBeKept : Nat → List (Option (List Char) × Json) → Bool
  | _, [] => true
  | depth, (name, value) :: members =>
    name.isSome && value.canBeKept depth && membersCanBeKept depth members

end

end Json

/-- The members of an object whose names are all texts. -/
def namedMembers? (members : List (Option (List Char) × Json)) :
    Option (List (List Char × Json)) :=
  members.mapM fun (name, value) => name.map (·, value)

/-- The only value of a name: there may be none, and there may not be two. -/
def onlyMember? (members : List (List Char × Json)) (name : String) : Option (Option Json) :=
  match members.filter fun m => m.1 = name.toList with
  | [] => some none
  | [(_, value)] => some (some value)
  | _ => none

/-- The only value of a name that has to be there. -/
def requiredMember? (members : List (List Char × Json)) (name : String) : Option Json := do
  (← onlyMember? members name)

/-! ### Scan plans -/

namespace ScanPlan

def ofParts? (query attrs count : Json) (fetchRowid : Option Json) : Option ScanPlan := do
  return {
    query := ← query.string?
    retrieved := ← attrs.attrs?
    paramCount := ← count.count?
    fetchRowid := ← match fetchRowid with
      | none => some false
      | some v => v.bool? }

def ofJson? : Json → Option ScanPlan
  | .array [query, attrs, count] => ofParts? query attrs count none
  | .array [query, attrs, count, fetchRowid] => ofParts? query attrs count (some fetchRowid)
  | .object members => do
    let members ← namedMembers? members
    let query ← requiredMember? members "query"
    let attrs ← requiredMember? members "retrieved_attrs"
    let count ← requiredMember? members "param_count"
    ofParts? query attrs count (← onlyMember? members "fetch_rowid")
  | _ => none

def decode (s : String) : Except Fault ScanPlan :=
  match readJson? s.toList >>= ofJson? with
  | none => .error .malformedPlan
  | some plan => .ok plan

end ScanPlan

/-! ### Change plans -/

/-- The mutation of a kind, with what is given for its attributes. -/
def Mutation.ofKind? (kind : String) (attrs : Option Json) : Option Mutation :=
  match kind with
  | "insert" => attrs >>= fun v => v.attrs?.map .insert
  | "update" => attrs >>= fun v => v.attrs?.map .update
  | _ => none

/-- How many values may lie around each other in a mutation. -/
def mutationDepth : Nat := 126

/-- Read a mutation: an object with the kind among its members, or an array that begins with it. All
of it is kept until the kind is known. -/
def Mutation.ofJson? (j : Json) : Option Mutation :=
  if j.canBeKept mutationDepth then
    match j with
    | .array [kind] => do if (← kind.string?) = "delete" then some .delete else none
    | .array [kind, attrs] => do Mutation.ofKind? (← kind.string?) (some attrs)
    | .object members => do
      let members ← namedMembers? members
      let kind ← (← requiredMember? members "kind").string?
      if kind = "delete" then
        some .delete
      else
        Mutation.ofKind? kind (← onlyMember? members "target_attrs")
    | _ => none
  else
    none

namespace ChangePlan

def ofJson? : Json → Option ChangePlan
  | .array [mutation, query] => do
    return { mutation := ← Mutation.ofJson? mutation, query := ← query.string? }
  | .object members => do
    let members ← namedMembers? members
    let mutation ← requiredMember? members "mutation"
    let query ← requiredMember? members "query"
    return { mutation := ← Mutation.ofJson? mutation, query := ← query.string? }
  | _ => none

def decode (s : String) : Except Fault ChangePlan :=
  match readJson? s.toList >>= ofJson? with
  | none => .error .malformedPlan
  | some plan => .ok plan

end ChangePlan

end ForeignData
