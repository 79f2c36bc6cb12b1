import MetricLayer.Fault

/-!
# Checked values

Checking a record does not stop at the first issue: the fields are checked one after the
other, and the issues of all of them are kept in that order. A checked value is therefore an
applicative, not a monad.
-/
namespace MetricLayer

/-- A value that passed its checks, or the issues found. -/
inductive Checked (α : Type) where
  | passed (a : α)
  | flawed (issues : List Issue)

namespace Checked

variable {α β : Type}

def map (f : α → β) : Checked α → Checked β
  | passed a => passed (f a)
  | flawed issues => flawed issues

/-- The issues of a check, none if it passed. -/
def issues : Checked α → List Issue
  | passed _ => []
  | flawed issues => issues

/-- Both checks: the issues of the first come before those of the second. -/
def both (f : Checked (α → β)) (a : Checked α) : Checked β :=
  match f, a with
  | passed f, passed a => passed (f a)
  | f, a => flawed (f.issues ++ a.issues)

instance : Functor Checked := ⟨map, fun a => map fun _ => a⟩
instance : Applicative Checked where
  pure := passed
  seq f a := f.both (a ())

/-- A single issue at the place of the value itself. -/
def reject (c : Complaint) : Checked α := flawed [⟨[], c⟩]

/-- Puts a step in front of the location of every issue. -/
def under (step : LocationStep) : Checked α → Checked α
  | passed a => passed a
  | flawed issues => flawed (issues.map fun i => { i with location := step :: i.location })

/-- The checked value, or a fault with all issues. -/
def orFault : Checked α → Except Fault α
  | passed a => .ok a
  | flawed issues => .error (.invalid issues)

/-- Checks every item of a list, each under its position. -/
def items (check : Value → Checked α) : Nat → List Value → Checked (List α)
  | _, [] => passed []
  | i, v :: vs => (((check v).under (.index i)).map List.cons).both (items check (i + 1) vs)

end Checked

/-- A field of a record: its name, and another key it may be given under, which goes first. -/
structure FieldName where
  name : String
  otherKey : Option String := none

namespace FieldName

/-- The key that a missing field is reported under. -/
def reported (f : FieldName) : String := f.otherKey.getD f.name

/-- The value of a field and the key it was found under. -/
def find? (f : FieldName) (entries : List (Value × Value)) : Option (String × Value) :=
  let under := fun key => (Value.get? entries key).map fun v => (key, v)
  ((f.otherKey.bind under).orElse fun _ => under f.name)

variable {α : Type}

/-- A field that must be given. -/
def required (f : FieldName) (check : Value → Checked α) (entries : List (Value × Value)) :
    Checked α :=
  match f.find? entries with
  | some (key, v) => (check v).under (.key key)
  | none => (Checked.reject .missing).under (.key f.reported)

/-- A field that has a value of its own if it is not given. -/
def withDefault (f : FieldName) (default : α) (check : Value → Checked α)
    (entries : List (Value × Value)) : Checked α :=
  match f.find? entries with
  | some (key, v) => (check v).under (.key key)
  | none => .passed default

end FieldName
end MetricLayer
