import SqlRender.Number.Shortest

namespace SqlRender

/-- A JSON value; whole numbers and numbers with a point or an exponent are told apart, and the
members of an object keep their order. -/
inductive Json where
  | null
  | bool (b : Bool)
  | int (n : Int)
  | float (x : Binary64)
  | text (s : String)
  | array (items : List Json)
  | object (members : List (String × Json))

namespace Json

instance : Inhabited Json := ⟨null⟩

def member? (name : String) : Json → Option Json
  | object members => members.lookup name
  | _ => none

/-- A repeated name keeps its first place and takes the new value. -/
def insertMember (name : String) (value : Json) :
    List (String × Json) → List (String × Json)
  | [] => [(name, value)]
  | (n, v) :: rest =>
    if n = name then (n, value) :: rest else (n, v) :: insertMember name value rest

/-- The object of a list of members, the last one first. -/
def ofReversed (members : List (String × Json)) : Json :=
  object (members.foldr (fun (n, v) acc ↦ insertMember n v acc) [])

def escapeChar (c : Char) : List Char :=
  if c = '"' then ['\\', '"']
  else if c = '\\' then ['\\', '\\']
  else if c.toNat < 32 then '\\' :: 'u' :: Digits.hexPadded 4 c.toNat
  else [c]

def quoted (s : String) : String :=
  String.ofList ('"' :: s.toList.flatMap escapeChar ++ ['"'])

mutual

/-- The text of a value without blanks. -/
def compact : Json → String
  | null => "null"
  | bool b => if b then "true" else "false"
  | int n => toString n
  | float x => x.toText
  | text s => quoted s
  | array items => "[" ++ ",".intercalate (compactAll items) ++ "]"
  | object members => "\x7b" ++ ",".intercalate (compactMembers members) ++ "\x7d"

def compactAll : List Json → List String
  | [] => []
  | v :: rest => v.compact :: compactAll rest

def compactMembers : List (String × Json) → List String
  | [] => []
  | (name, v) :: rest => (quoted name ++ ":" ++ v.compact) :: compactMembers rest

end

mutual

/-- All texts of a value, the names of members among them, in order. -/
def texts : Json → List String
  | text s => [s]
  | array items => textsOfAll items
  | object members => textsOfMembers members
  | _ => []

def textsOfAll : List Json → List String
  | [] => []
  | v :: rest => v.texts ++ textsOfAll rest

def textsOfMembers : List (String × Json) → List String
  | [] => []
  | (name, v) :: rest => name :: v.texts ++ textsOfMembers rest

end

mutual

/-- No number of the value is infinite or NaN. -/
def isFinite : Json → Bool
  | float x => x.IsFinite
  | array items => areFinite items
  | object members => areMembersFinite members
  | _ => true

def areFinite : List Json → Bool
  | [] => true
  | v :: rest => v.isFinite && areFinite rest

def areMembersFinite : List (String × Json) → Bool
  | [] => true
  | (_, v) :: rest => v.isFinite && areMembersFinite rest

end

end Json

end SqlRender
