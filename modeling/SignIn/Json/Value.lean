import SignIn.Json.Skipping

namespace SignIn.Json

/-- A value of any shape. The members of an object are kept in the order of their keys; of two with the same
key the later one counts. -/
inductive Value where
  | null
  | boolean (value : Bool)
  | number (value : Number)
  | string (value : String)
  | array (elements : List Value)
  | object (members : List (String × Value))
  deriving Repr

/-- Sets a member where its key belongs. -/
def putMember (key : String) (value : Value) : List (String × Value) → List (String × Value)
  | [] => [(key, value)]
  | member :: rest =>
    if key < member.1 then (key, value) :: member :: rest
    else if member.1 = key then (key, value) :: rest
    else member :: putMember key value rest

/-- The deepest that lists and objects may be nested in one another. -/
def maxDepth : Nat := 127

/-- Reads a value of any shape, given what reads a list after its bracket and an object after its
brace. -/
def readAny (list object : Reader Value) : Reader Value := fun s =>
  match h : skipGap s with
  | [] => .error .endInValue
  | b :: rest =>
    have hb := length_lt_of_skipGap_eq_cons h
    if b = 0x6e then do
      let after ← readWord nullTail rest
      return .ofRest .null after hb
    else if b = 0x74 then do
      let after ← readWord trueTail rest
      return .ofRest (.boolean true) after hb
    else if b = 0x66 then do
      let after ← readWord falseTail rest
      return .ofRest (.boolean false) after hb
    else if b = 0x22 then do
      let r ← readStringTail rest
      return (r.map .string).behind hb
    else if b = 0x2d ∨ isDigit b then do
      let r ← readNumber (b :: rest)
      return (r.map .number).within (length_le_of_skipGap_eq_cons h)
    else if b = 0x5b then do
      let r ← list rest
      return r.behind hb
    else if b = 0x7b then do
      let r ← object rest
      return r.behind hb
    else .error .expectedValue

/-- Reads the members of an object after its brace. -/
def readObject (value : Reader Value) : Reader (List (String × Value)) := fun s =>
  readMembers (fun members key s => do
    let ⟨_, s₁, h₁⟩ ← readColon s
    let r ← value s₁
    return (r.map (putMember key · members)).behind h₁) [] true s

/-- Reads a value whose lists and objects are nested at most `depth` deep. -/
def readValue : (depth : Nat) → Reader Value
  | 0 => readAny (fun _ => .error .tooDeep) (fun _ => .error .tooDeep)
  | depth + 1 =>
    readAny (fun s => (readElements (readValue depth) true s).map (·.map .array))
      (fun s => (readObject (readValue depth) s).map (·.map .object))

/-- Puts texts together with commas between them. -/
def joinCommas : List (List Char) → List Char
  | [] => []
  | [text] => text
  | text :: more => text ++ ',' :: joinCommas more

mutual

/-- The text of a value, without white space between its parts. -/
def Value.write : Value → List Char
  | .null => ['n', 'u', 'l', 'l']
  | .boolean true => ['t', 'r', 'u', 'e']
  | .boolean false => ['f', 'a', 'l', 's', 'e']
  | .number n => n.render
  | .string text => writeString text
  | .array elements => '[' :: joinCommas (Value.writeElements elements) ++ [']']
  | .object members => '\x7b' :: joinCommas (Value.writeMembers members) ++ ['\x7d']

/-- The texts of the elements of a list. -/
def Value.writeElements : List Value → List (List Char)
  | [] => []
  | value :: more => value.write :: Value.writeElements more

/-- The texts of the members of an object. -/
def Value.writeMembers : List (String × Value) → List (List Char)
  | [] => []
  | (key, value) :: more => (writeString key ++ ':' :: value.write) :: Value.writeMembers more

end

/-- The text of a value. -/
def Value.render (v : Value) : String :=
  String.ofList v.write

end SignIn.Json
