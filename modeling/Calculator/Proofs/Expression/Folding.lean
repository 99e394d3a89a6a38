import Calculator.Proofs.Expression.Value

namespace Calculator.Expression

/-- The expression with the part that a path leads to changed. A path that leads nowhere changes nothing. -/
def mapAt (f : Expression → Expression) : Expression → List Side → Expression
  | e, [] => f e
  | leaf o, _ :: _ => leaf o
  | node op left right, .left :: path => node op (left.mapAt f path) right
  | node op left right, .right :: path => node op left (right.mapAt f path)

section MapAt

variable (f : Expression → Expression) (e : Expression)

theorem at?_nil : e.at? [] = some e := by
  cases e <;> rfl

theorem mapAt_nil : e.mapAt f [] = f e := by
  cases e <;> rfl

/-- What stands at the path afterwards is the part that stood there, changed. -/
theorem at?_mapAt (path : List Side) : (e.mapAt f path).at? path = (e.at? path).map f := by
  induction path generalizing e with
  | nil => rw [mapAt_nil, at?_nil, at?_nil, Option.map_some]
  | cons side path ih =>
    cases e with
    | leaf o => rfl
    | node op left right =>
      cases side with
      | left => exact ih left
      | right => exact ih right

variable {f}

/-- A part may give way to any other of its value. -/
theorem value_mapAt (keeps : ∀ part, (f part).value = part.value) (path : List Side) :
    (e.mapAt f path).value = e.value := by
  induction path generalizing e with
  | nil => rw [mapAt_nil, keeps]
  | cons side path ih =>
    cases e with
    | leaf o => rfl
    | node op left right =>
      cases side with
      | left => rw [mapAt, value, ih left, ← value]
      | right => rw [mapAt, value, ih right, ← value]

end MapAt

/-- Any part of any expression may be computed early: an operand that holds the text of its value, open or as a
final result, takes its place and the value of the whole stays as it was. Equals does so with the whole; both
displays then show the value, and equals again changes nothing. -/
theorem folding_keeps_value :
    (∀ (e : Expression) (path : List Side),
      (e.mapAt (fun part => ofText part.value.shown) path).value = e.value ∧
      (e.mapAt (fun part => leaf (.closed part.value.shown)) path).value = e.value) ∧
    (∀ (f : Expression → Expression) (e : Expression) (path : List Side),
      (e.mapAt f path).at? path = (e.at? path).map f) ∧
    ∀ e : Expression, (e.press .equals).value = e.value ∧ (e.press .equals).readout = e.value.shown ∧
      (e.press .equals).line = e.value.shown ∧ (e.press .equals).press .equals = e.press .equals := by
  refine ⟨?_, at?_mapAt, ?_⟩
  · intro e path
    exact ⟨e.value_mapAt value_folded path, e.value_mapAt value_finish path⟩
  · intro e
    exact ⟨e.value_finish, rfl, rfl, finish_of_value e.value_finish⟩

end Calculator.Expression
