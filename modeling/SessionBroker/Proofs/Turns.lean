/-!
# Two parties in turn

Two parties take turns in the order of a schedule. Where each of them has two turns that matter, the first two
entries of the schedule tell how the two stand to each other: one of them is over before the other one begins,
or both begin before either is over.
-/

namespace SessionBroker

/-- Which of two parties moves next. -/
inductive Turn
  | left | right
deriving DecidableEq

namespace Turn

/-- Which of two parties, of two turns at most each, was over before the other one began. -/
inductive Order
  | leftFirst | rightFirst | overlapping
deriving DecidableEq

def order : List Turn → Order
  | .left :: .left :: _ => .leftFirst
  | .right :: .right :: _ => .rightFirst
  | _ => .overlapping

/-- The schedule with the two parties in each other's place. -/
def swap : List Turn → List Turn :=
  List.map fun
    | .left => .right
    | .right => .left

/-- One thing for each of the two. -/
def side {α : Type} (x y : α) : Turn → α
  | .left => x
  | .right => y

theorem eq_or_eq_of_ne {first second : Turn} (h : second ≠ first) (turn : Turn) :
    turn = first ∨ turn = second := by
  cases first <;> cases second <;> cases turn <;> simp at h ⊢

end Turn

end SessionBroker
