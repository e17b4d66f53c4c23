import SignIn.Json.Strings

namespace SignIn.Json

variable {α σ : Type}

/-- Reads the colon after a key. -/
def readColon : Reader Unit := fun s =>
  match h : skipGap s with
  | [] => .error .endInObject
  | b :: rest =>
    if b = 0x3a then .ok ⟨(), rest, length_lt_of_skipGap_eq_cons h⟩ else .error .expectedColon

/-- What stands after the opening quote of the next key, when `b` and `rest` follow the brace or the
previous member. -/
def nextKey (first : Bool) (b : UInt8) (rest : Bytes) :
    Except Error (Rest rest) :=
  if first then
    if b = 0x22 then .ok (.all rest) else .error .keyNotString
  else if b = 0x2c then
    match h : skipGap rest with
    | [] => .error .endInValue
    | c :: after =>
      if c = 0x22 then .ok (Reading.toRest ⟨(), after, length_lt_of_skipGap_eq_cons h⟩)
      else if c = 0x7d then .error .trailingComma
      else .error .keyNotString
  else .error .expectedObjectCommaOrEnd

/-- Reads the members of an object after its brace or after a member. `member` gets what has been
gathered so far and a key, and reads on from behind the key. -/
def readMembers (member : σ → String → Reader σ) (gathered : σ) (first : Bool) (s : Bytes) :
    Except Error (Reading σ s) :=
  match h : skipGap s with
  | [] => .error .endInObject
  | b :: rest =>
    have hb := length_lt_of_skipGap_eq_cons h
    if b = 0x7d then .ok ⟨gathered, rest, hb⟩
    else do
      let ⟨keyText, h₀⟩ ← nextKey first b rest
      let ⟨key, s₁, h₁⟩ ← readStringTail keyText
      let ⟨gathered, s₂, h₂⟩ ← member gathered key s₁
      let ⟨gathered, s₃, h₃⟩ ← readMembers member gathered false s₂
      return ⟨gathered, s₃, by omega⟩
termination_by s.length

/-- Where the next element of a list begins, or `none` at the end of the list. -/
def nextElement (first : Bool) (s : Bytes) : Except Error (Option (Rest s)) :=
  match h : skipGap s with
  | [] => .error .endInList
  | b :: rest =>
    if b = 0x5d then .ok none
    else if first then .ok (some ⟨b :: rest, length_le_of_skipGap_eq_cons h⟩)
    else if b = 0x2c then
      match h₁ : skipGap rest with
      | [] => .error .endInValue
      | c :: after =>
        if c = 0x5d then .error .trailingComma
        else
          .ok (some ⟨c :: after, Nat.le_trans (length_le_of_skipGap_eq_cons h₁)
            (Nat.le_of_lt (length_lt_of_skipGap_eq_cons h))⟩)
    else .error .expectedListCommaOrEnd

/-- Reads the bracket that ends a list. -/
def closeList : Reader Unit := fun s =>
  match h : skipGap s with
  | [] => .error .endInList
  | b :: rest =>
    if b = 0x5d then .ok ⟨(), rest, length_lt_of_skipGap_eq_cons h⟩
    else if b = 0x2c ∧ (skipGap rest).head? = some 0x5d then .error .trailingComma
    else .error .trailingCharacters

/-- Reads the elements of a list after its bracket or after an element. -/
def readElements (element : Reader α) (first : Bool) (s : Bytes) : Except Error (Reading (List α) s) := do
  match ← nextElement first s with
  | none =>
    let r ← closeList s
    return r.map fun _ => []
  | some ⟨t, h₀⟩ =>
    let ⟨a, s₁, h₁⟩ ← element t
    let ⟨more, s₂, h₂⟩ ← readElements element false s₁
    return ⟨a :: more, s₂, by omega⟩
termination_by s.length

end SignIn.Json
