import SignIn.Json.Container
import SignIn.Json.NumberReading

namespace SignIn.Json

/-- A list or an object that has not ended yet. -/
inductive Frame where
  | list
  | object
  deriving DecidableEq, Repr

/-- The byte that ends a list or an object. -/
def Frame.closing : Frame → UInt8
  | .list => 0x5d
  | .object => 0x7d

/-- The error for a text that ends within a list or an object. -/
def Frame.ended : Frame → Error
  | .list => .endInList
  | .object => .endInObject

/-- The error for a part of a list or an object that is followed by something else. -/
def Frame.unseparated : Frame → Error
  | .list => .expectedListCommaOrEnd
  | .object => .expectedObjectCommaOrEnd

/-- Passes over what stands before the next value: in an object a key and a colon. -/
def Frame.skipKey (f : Frame) (s : Bytes) : Except Error (Rest s) :=
  match f with
  | .list => .ok (.all s)
  | .object =>
    match h : skipGap s with
    | [] => .error .endInObject
    | b :: rest =>
      if b = 0x22 then do
        let ⟨_, s₁, h₁⟩ ← skipContent rest
        let r ← readColon s₁
        return ((r.behind h₁).behind (length_lt_of_skipGap_eq_cons h)).toRest
      else .error .keyNotString

/-- Passes over a word, a number or a string of which `b` is the first byte. -/
def skipScalar (b : UInt8) (rest : Bytes) : Except Error (Rest rest) :=
  if b = 0x6e then readWord nullTail rest
  else if b = 0x74 then readWord trueTail rest
  else if b = 0x66 then readWord falseTail rest
  else if b = 0x22 then do
    let r ← skipContent rest
    return r.toRest
  else if b = 0x2d ∨ isDigit b then do
    let r ← readLiteral .invalidNumber (b :: rest)
    return ⟨r.rest, Nat.le_of_lt_succ r.shorter⟩
  else .error .expectedValue

mutual

/-- Passes over a value, and over the rest of the lists and objects around it. The value has to be
well-formed, but its numbers may be of any size and its parts nested to any depth. -/
def skipValue (around : List Frame) (s : Bytes) : Except Error (Reading Unit s) :=
  match h : skipGap s with
  | [] => .error .endInValue
  | b :: rest =>
    have hb := length_lt_of_skipGap_eq_cons h
    if b = 0x5b then do
      let r ← skipParts .list around false rest
      return r.behind hb
    else if b = 0x7b then do
      let r ← skipParts .object around false rest
      return r.behind hb
    else do
      let ⟨t, ht⟩ ← skipScalar b rest
      match around with
      | [] => return ⟨(), t, by omega⟩
      | f :: around =>
        let r ← skipParts f around true t
        return r.within (by omega)
termination_by (s.length, 0)
decreasing_by all_goals (apply Prod.Lex.left; omega)

/-- Passes over what is left of a list or an object, and of those around it. `separated` says whether a
comma has to come before the next part. -/
def skipParts (f : Frame) (around : List Frame) (separated : Bool) (s : Bytes) :
    Except Error (Reading Unit s) :=
  match h : skipGap s with
  | [] => .error f.ended
  | b :: rest =>
    have hb := length_lt_of_skipGap_eq_cons h
    if separated ∧ b = 0x2c then do
      let ⟨t, ht⟩ ← f.skipKey rest
      let r ← skipValue (f :: around) t
      return r.within (by omega)
    else if b = f.closing then
      match around with
      | [] => .ok ⟨(), rest, hb⟩
      | g :: around => do
        let r ← skipParts g around true rest
        return r.behind hb
    else if separated then .error f.unseparated
    else do
      let ⟨t, ht⟩ ← f.skipKey s
      let r ← skipValue (f :: around) t
      return r.within ht
termination_by (s.length, 1)
decreasing_by
  · apply Prod.Lex.left; omega
  · apply Prod.Lex.left; omega
  · rcases Nat.lt_or_eq_of_le ht with h | h
    · exact Prod.Lex.left _ _ h
    · rw [h]; exact Prod.Lex.right _ (by omega)

end

end SignIn.Json
