import SignIn.Json.Value
import SignIn.TextMap

namespace SignIn.Json

variable {α β : Type}

/-- Reads a value of one shape, whose lists and objects may be nested as deep as the number given. The first
thing that is wrong from left to right decides the error, be it in the text or in its shape. -/
abbrev Decoder (α : Type) :=
  (depth : Nat) → Reader α

/-- The error for a value of another kind than the expected one. The value begins with `b`; what is wrong
within a word, a number or a string comes before its being of the wrong kind. -/
def otherKind (expected : String) (b : UInt8) (rest : Bytes) : Error :=
  let report : {γ : Type} → Except Error γ → (γ → Found) → Error := fun read found =>
    match read with
    | .ok value => .wrongType (found value) expected
    | .error e => e
  if b = 0x6e then report (readWord nullTail rest) fun _ => .null
  else if b = 0x74 then report (readWord trueTail rest) fun _ => .boolean true
  else if b = 0x66 then report (readWord falseTail rest) fun _ => .boolean false
  else if b = 0x22 then report (readStringTail rest) fun r => .string r.value
  else if b = 0x2d ∨ isDigit b then report (readNumber (b :: rest)) fun r => .number r.value
  else if b = 0x5b then .wrongType .sequence expected
  else if b = 0x7b then .wrongType .map expected
  else .expectedValue

/-- A text. -/
def text : Decoder String := fun _ s =>
  match h : skipGap s with
  | [] => .error .endInValue
  | b :: rest =>
    if b = 0x22 then do
      let r ← readStringTail rest
      return r.behind (length_lt_of_skipGap_eq_cons h)
    else .error (otherKind "a string" b rest)

/-- A truth value. -/
def flag : Decoder Bool := fun _ s =>
  match h : skipGap s with
  | [] => .error .endInValue
  | b :: rest =>
    have hb := length_lt_of_skipGap_eq_cons h
    if b = 0x74 then do
      let after ← readWord trueTail rest
      return .ofRest true after hb
    else if b = 0x66 then do
      let after ← readWord falseTail rest
      return .ofRest false after hb
    else .error (otherKind "a boolean" b rest)

/-- `null`, or a value of another shape. -/
def optional (value : Decoder α) : Decoder (Option α) := fun depth s =>
  match h : skipGap s with
  | [] => (value depth s).map (·.map some)
  | b :: rest =>
    if b = 0x6e then do
      let after ← readWord nullTail rest
      return .ofRest none after (length_lt_of_skipGap_eq_cons h)
    else (value depth s).map (·.map some)

/-- Reads an object after its brace, one level deeper. -/
def insideBraces (expected : String) (body : Decoder α) : Decoder α := fun depth s =>
  match h : skipGap s with
  | [] => .error .endInValue
  | b :: rest =>
    if b = 0x7b then
      match depth with
      | 0 => .error .tooDeep
      | depth + 1 => do
        let r ← body depth rest
        return r.behind (length_lt_of_skipGap_eq_cons h)
    else .error (otherKind expected b rest)

/-- An object with any keys and values of one shape. The last value of a key counts. -/
def mapOf (value : Decoder α) : Decoder (TextMap α) :=
  insideBraces "a map" fun depth s =>
    readMembers (fun (m : TextMap α) key s => do
      let ⟨_, s₁, h₁⟩ ← readColon s
      let r ← value depth s₁
      return (r.map (m.insert key)).behind h₁) TextMap.empty true s

/-- An object of any shape, its members in the order of their keys. -/
def anyObject : Decoder (List (String × Value)) :=
  insideBraces "a map" fun depth => readObject (readValue depth)

/-- Whether a field of a record may be left out. -/
inductive Presence where
  | required
  /-- It may be missing from an object, but not from a list. -/
  | optional
  /-- It may be missing from an object or, with the fields after it, from a list. -/
  | defaulted
  deriving DecidableEq, Repr

/-- A field of a record: how it is read, and what becomes of the record with its value. -/
structure Field (α : Type) where
  name : String
  presence : Presence
  decode : Decoder (α → α)

/-- Says that a field is read by `value` and kept by `set`. -/
def field (name : String) (presence : Presence) (value : Decoder β) (set : β → α → α) : Field α :=
  ⟨name, presence, fun depth s => (value depth s).map (·.map set)⟩

/-- A record is written as an object of its fields, in any order and among others, or as a list of its
fields in their order. -/
structure Record (α : Type) where
  /-- What the record is called in error texts. -/
  name : String
  /-- The record whose fields all are left out. -/
  blank : α
  fields : List (Field α)

namespace Record

/-- How many elements a record has as a list, in words. -/
def sizeText (r : Record α) : String :=
  r.name ++ " with " ++ toString r.fields.length ++
    (if r.fields.length = 1 then " element" else " elements")

/-- A record that is being read, and the names of the fields that have been. -/
abbrev Partial (α : Type) := α × List String

/-- Reads one member of an object. A second value for a field is an error before it is looked at, and
the value of an unknown member is passed over. -/
def readMember (r : Record α) (depth : Nat) (gathered : Partial α) (key : String) : Reader (Partial α) :=
  fun s => do
    match r.fields.find? (·.name = key) with
    | some f =>
      if f.name ∈ gathered.2 then throw (.duplicateField f.name)
      let ⟨_, s₁, h₁⟩ ← readColon s
      let reading ← f.decode depth s₁
      return (reading.map fun set => (set gathered.1, f.name :: gathered.2)).behind h₁
    | none =>
      let ⟨_, s₁, h₁⟩ ← readColon s
      let reading ← skipValue [] s₁
      return (reading.map fun _ => gathered).behind h₁

/-- The first field that should have been read and was not. -/
def missing? (r : Record α) (gathered : Partial α) : Option (Field α) :=
  r.fields.find? fun f => f.presence = .required ∧ f.name ∉ gathered.2

/-- Reads a record as an object, after the brace. -/
def readObject (r : Record α) (depth : Nat) : Reader α := fun s => do
  let reading ← readMembers (r.readMember depth) (r.blank, []) true s
  match r.missing? reading.value with
  | some f => throw (.missingField f.name)
  | none => return reading.map Prod.fst

/-- Reads the elements of a list into the fields that remain, from the field at `index` on. -/
def readFields (r : Record α) (depth : Nat) :
    List (Field α) → (index : Nat) → α → (s : Bytes) → Except Error (α × Rest s)
  | [], _, a, s => .ok (a, .all s)
  | f :: fields, index, a, s => do
    match ← nextElement (index = 0) s with
    | none =>
      if f.presence = .defaulted then r.readFields depth fields (index + 1) a s
      else throw (.wrongLength index r.sizeText)
    | some ⟨t, h₀⟩ =>
      let ⟨set, s₁, h₁⟩ ← f.decode depth t
      let (a, ⟨s₂, h₂⟩) ← r.readFields depth fields (index + 1) (set a) s₁
      return (a, ⟨s₂, by omega⟩)

/-- Reads a record as a list, after the bracket. -/
def readList (r : Record α) (depth : Nat) : Reader α := fun s => do
  let (a, ⟨s₁, h₁⟩) ← r.readFields depth r.fields 0 r.blank s
  let ⟨_, s₂, h₂⟩ ← closeList s₁
  return ⟨a, s₂, by omega⟩

/-- Reads a record. -/
def decoder (r : Record α) : Decoder α := fun depth s =>
  match h : skipGap s with
  | [] => .error .endInValue
  | b :: rest =>
    if b = 0x5b ∨ b = 0x7b then
      match depth with
      | 0 => .error .tooDeep
      | depth + 1 => do
        let reading ← if b = 0x5b then r.readList depth rest else r.readObject depth rest
        return reading.behind (length_lt_of_skipGap_eq_cons h)
    else .error (otherKind r.name b rest)

end Record

/-- Finds the value that a name stands for. -/
def variantOf (variants : List (String × α)) (name : String) : Except Error α :=
  match variants.lookup name with
  | some a => .ok a
  | none => .error (.unknownVariant name (variants.map Prod.fst))

/-- Reads `null`. -/
def readNull : Reader Unit := fun s =>
  match h : skipGap s with
  | [] => .error .endInValue
  | b :: rest =>
    if b = 0x6e then do
      let after ← readWord nullTail rest
      return .ofRest () after (length_lt_of_skipGap_eq_cons h)
    else .error (otherKind "unit" b rest)

/-- Reads the key of an object of one member, after the brace. -/
def readOnlyKey : Reader String := fun s =>
  match h : skipGap s with
  | [] => .error .endInObject
  | b :: rest => do
    let ⟨keyText, h₀⟩ ← nextKey true b rest
    let r ← readStringTail keyText
    return (r.within h₀).behind (length_lt_of_skipGap_eq_cons h)

/-- Reads the brace that ends an object of one member. -/
def closeVariant : Reader Unit := fun s =>
  match h : skipGap s with
  | [] => .error .endInObject
  | b :: rest =>
    if b = 0x7d then .ok ⟨(), rest, length_lt_of_skipGap_eq_cons h⟩ else .error .expectedValue

/-- One of several names, written alone or as the key of an object whose only value is `null`. -/
def oneOf (variants : List (String × α)) : Decoder α := fun depth s =>
  match h : skipGap s with
  | [] => .error .endInValue
  | b :: rest =>
    have hb := length_lt_of_skipGap_eq_cons h
    if b = 0x22 then do
      let ⟨name, s₁, h₁⟩ ← readStringTail rest
      return ⟨← variantOf variants name, s₁, by omega⟩
    else if b = 0x7b then
      if depth = 0 then .error .tooDeep
      else do
        let ⟨name, s₁, h₁⟩ ← readOnlyKey rest
        let a ← variantOf variants name
        let ⟨_, s₂, h₂⟩ ← readColon s₁
        let ⟨_, s₃, h₃⟩ ← readNull s₂
        let ⟨_, s₄, h₄⟩ ← closeVariant s₃
        return ⟨a, s₄, by omega⟩
    else .error .expectedValue

/-- Decodes a whole document: nothing but white space may follow the value. -/
def decodeBytes (d : Decoder α) (document : Bytes) : Except Error α := do
  let r ← d maxDepth document
  if skipGap r.rest = [] then return r.value else throw .trailingCharacters

/-- Decodes a document. -/
def decode (d : Decoder α) (document : String) : Except Error α :=
  decodeBytes d (Utf8.bytesOf document)

end SignIn.Json
