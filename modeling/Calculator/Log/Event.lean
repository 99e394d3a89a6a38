import Calculator.Expression.Press
import Calculator.Log.Level

namespace Calculator

/-- What the log records. -/
inductive Event where
  /-- A key was applied: the whole expression and its depth afterwards. -/
  | keyApplied (key : Key) (line : Text) (depth : Nat)
  /-- An operator came while the one before it still waited for its operand. -/
  | operatorIgnored (op : Operator)
  /-- The expression that was finished, and its result. -/
  | finalResult (line result : Text)
  /-- The expression was cleared. -/
  | cleared
  /-- A character was typed that is no key. -/
  | charIgnored (c : Char)
  /-- The program starts with a window of this size. -/
  | started (width height : Value)
deriving DecidableEq

namespace Event

/-- How much detail an event is. -/
def level : Event → Level
  | keyApplied .. | operatorIgnored _ => .trace
  | finalResult .. | cleared | charIgnored _ => .debug
  | started .. => .info

/-- The part of the program that an event belongs to, from the whole to the part. -/
def source : Event → Text
  | keyApplied .. | operatorIgnored _ | finalResult .. | cleared => "calculatrice_arbre::noyau::saisie".toList
  | charIgnored _ => "calculatrice_arbre::app::vue".toList
  | started .. => "calculatrice_arbre".toList

/-- What happened, in words. -/
def message : Event → Text
  | keyApplied .. => "touche appliquée".toList
  | operatorIgnored _ => "opérateur ignoré (opérande droit absent)".toList
  | finalResult .. => "calcul final".toList
  | cleared => "clear".toList
  | charIgnored _ => "touche clavier ignorée".toList
  | started .. => "démarrage".toList

/-- The details of an event, each under its name. -/
def fields : Event → List (Text × Text)
  | keyApplied key line depth =>
    [("touche".toList, key.label), ("expr".toList, line), ("profondeur".toList, Nat.toDigits 10 depth)]
  | operatorIgnored op => [("op".toList, [op.symbol])]
  | finalResult line result => [("expr".toList, line), ("resultat".toList, result)]
  | cleared => []
  | charIgnored c => [("touche".toList, quoted '\'' [c])]
  | started width height => [("largeur".toList, width.logText), ("hauteur".toList, height.logText)]

/-- The names of all that an event tells: what happened, and the details. -/
def fieldNames (event : Event) : List Text := "message".toList :: event.fields.map Prod.fst

/-- The line that the log shows: the level, the message and the details, with single spaces between them. -/
def line (event : Event) : Text :=
  event.level.name ++ ' ' :: event.message ++
    event.fields.flatMap fun (name, value) => ' ' :: name ++ '=' :: value

/-- The events of an operator key that concern the operator only. -/
def ofOperator (e : Expression) (op : Operator) : List Event := if e.Ignores then [operatorIgnored op] else []

/-- The event of finishing an expression. -/
def ofFinish (e : Expression) : Event := finalResult e.line e.value.shown

/-- The events of a key at an expression, in order. Its application is always the last. -/
def ofPress (e : Expression) (k : Key) : List Event :=
  (match k with
    | .typed .. => []
    | .operator op => ofOperator e op
    | .equals => [ofFinish e]
    | .clear => [cleared]) ++
  [keyApplied k (e.press k).line (e.press k).depth]

/-- The events of keys pressed one after another. -/
def ofRun : Expression → List Key → List Event
  | _, [] => []
  | e, k :: keys => ofPress e k ++ ofRun (e.press k) keys

theorem ofRun_append (e : Expression) (first second : List Key) :
    ofRun e (first ++ second) = ofRun e first ++ ofRun (e.run first) second := by
  induction first generalizing e with
  | nil => rfl
  | cons k keys ih => simp only [List.cons_append, ofRun, ih, List.append_assoc, Expression.run_cons]

end Event

end Calculator
