import Ratatoskr.Contracts

/-! JSON documents as the bus carries them. -/
namespace Ratatoskr

/-- A `serde_json::Value`; the members of an object have distinct names. -/
inductive Json where
  | null
  | bool (value : Bool)
  | number (text : String)
  | string (value : String)
  | array (items : List Json)
  | object (members : List (String × Json))

/-- PostgreSQL keeps no NUL character, in a `text` or within a `jsonb`. -/
def isText (value : String) : Bool := value.toList.all fun c => c.toNat ≠ 0

namespace Json

def get : Json → String → Option Json
  | .object members,name => members.lookup name
  | _,_ => none

def asStr : Json → Option String
  | .string value => some value
  | _ => none

def isObject : Json → Bool
  | .object _ => true
  | _ => false

mutual

/-- Whether a `jsonb` column takes the document. -/
def storable : Json → Bool
  | .string value => isText value
  | .array items => itemsStorable items
  | .object members => membersStorable members
  | _ => true

def itemsStorable : List Json → Bool
  | [] => true
  | item :: items => item.storable && itemsStorable items

def membersStorable : List (String × Json) → Bool
  | [] => true
  | (name,value) :: members => isText name && value.storable && membersStorable members

end

end Json

end Ratatoskr
