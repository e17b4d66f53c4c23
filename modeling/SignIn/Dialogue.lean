namespace SignIn

/-- A procedure that needs others to answer for it: it comes to a result, or puts a question and goes on with
the reply. What kind of reply there is to a question depends on the question. -/
inductive Dialogue (Question : Type) (Reply : Question → Type) (α : Type) where
  | finish (result : α)
  | ask (question : Question) (next : Reply question → Dialogue Question Reply α)

namespace Dialogue

variable {Question Question' : Type} {Reply : Question → Type} {Reply' : Question' → Type} {α β : Type}

/-- Carries a dialogue out. All questions that were put come with the result, in order. -/
def run (reply : (question : Question) → Reply question) :
    Dialogue Question Reply α → List Question × α
  | finish result => ([], result)
  | ask question next =>
    let (questions, result) := (next (reply question)).run reply
    (question :: questions, result)

/-- Goes on with the result of a dialogue. -/
def bind : Dialogue Question Reply α → (α → Dialogue Question Reply β) → Dialogue Question Reply β
  | finish result, after => after result
  | ask question next, after => ask question fun reply => (next reply).bind after

instance : Monad (Dialogue Question Reply) where
  pure := finish
  bind := bind

/-- Puts one question. -/
def put (question : Question) : Dialogue Question Reply (Reply question) :=
  ask question finish

/-- Puts questions one after the other, whatever the replies are. -/
def putAll : List Question → Dialogue Question Reply Unit
  | [] => finish ()
  | question :: rest => ask question fun _ => putAll rest

/-- Holds a dialogue within another one, which finds a reply to each of its questions. -/
def within (answer : (question : Question) → Dialogue Question' Reply' (Reply question)) :
    Dialogue Question Reply α → Dialogue Question' Reply' α
  | finish result => finish result
  | ask question next => (answer question).bind fun reply => (next reply).within answer

section Run

variable (reply : (question : Question) → Reply question)

@[simp] theorem run_finish (result : α) :
    (finish result : Dialogue Question Reply α).run reply = ([], result) :=
  rfl

@[simp] theorem run_ask (question : Question) (next : Reply question → Dialogue Question Reply α) :
    (ask question next).run reply =
      (question :: ((next (reply question)).run reply).1, ((next (reply question)).run reply).2) :=
  rfl

@[simp] theorem run_pure (result : α) :
    (pure result : Dialogue Question Reply α).run reply = ([], result) :=
  rfl

@[simp] theorem run_put (question : Question) :
    (put question : Dialogue Question Reply (Reply question)).run reply = ([question], reply question) :=
  rfl

/-- All questions are put, whatever is said to them. -/
@[simp] theorem run_putAll (questions : List Question) :
    (putAll questions : Dialogue Question Reply Unit).run reply = (questions, ()) := by
  induction questions with
  | nil => rfl
  | cons question rest ih => rw [putAll, run_ask, ih]

/-- A dialogue that goes on puts its own questions first. -/
@[simp] theorem run_bind (first : Dialogue Question Reply α) (after : α → Dialogue Question Reply β) :
    (first >>= after).run reply =
      ((first.run reply).1 ++ ((after (first.run reply).2).run reply).1,
        ((after (first.run reply).2).run reply).2) := by
  induction first with
  | finish result => rfl
  | ask question next ih =>
    have hnext : ((next (reply question)).bind after).run reply = _ := ih (reply question)
    change (ask question fun reply => (next reply).bind after).run reply = _
    rw [run_ask, hnext]
    rfl

/-- A dialogue within another one gets the replies that the other one finds, and each of its questions
becomes those that the other one puts for it. -/
@[simp] theorem run_within (reply' : (question : Question') → Reply' question)
    (answer : (question : Question) → Dialogue Question' Reply' (Reply question))
    (d : Dialogue Question Reply α) :
    (d.within answer).run reply' =
      ((d.run fun question => ((answer question).run reply').2).1.flatMap fun question =>
          ((answer question).run reply').1,
        (d.run fun question => ((answer question).run reply').2).2) := by
  induction d with
  | finish result => rfl
  | ask question next ih =>
    change (answer question >>= fun reply => (next reply).within answer).run reply' = _
    rw [run_bind, ih, run_ask, List.flatMap_cons]

end Run

end Dialogue

end SignIn
