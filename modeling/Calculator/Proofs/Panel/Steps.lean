import Calculator.Panel
import Calculator.Proofs.Log.Record

namespace Calculator

/-- The character that an event reports as no key. -/
def Event.ignoredChar? : Event → Option Char
  | charIgnored c => some c
  | _ => none

/-- No key reports a character: its events are the announced ones and its application. -/
theorem Event.ignoredChar?_of_ofRun (e : Expression) (keys : List Key) :
    ∀ event ∈ ofRun e keys, event.ignoredChar? = none := by
  induction keys generalizing e with
  | nil => simp [ofRun]
  | cons k keys ih =>
    intro event member
    rcases List.mem_append.mp member with first | rest
    · obtain ⟨before, announced, events⟩ := ofPress_announced e k
      rw [events] at first
      rcases List.mem_append.mp first with early | last
      · cases announced <;> simp at early <;> rw [early] <;> rfl
      · rw [List.mem_singleton.mp last]
        rfl
    · exact ih _ event rest

namespace Input

/-- The keys that an input denotes. -/
def keys : Input → List Key
  | text t => t.filterMap Key.ofChar?
  | keyboard .enter true => [.equals]
  | keyboard .escape true | keyboard .delete true => [.clear]
  | _ => []

/-- The characters that an input types. -/
def typed : Input → Text
  | text t => t
  | _ => []

/-- The events of the typed characters that are no keys. -/
def ignored (input : Input) : List Event :=
  (input.typed.filter fun c => Key.ofChar? c = none).map Event.charIgnored

/-- An input character by character. -/
def strokes : Input → List Input
  | text t => t.map fun c => text [c]
  | input => [input]

theorem keys_stroke (c : Char) : keys (text [c]) = (Key.ofChar? c).toList := by
  rw [keys, List.filterMap_eq_flatMap_toList, List.flatMap_singleton]

/-- A text denotes the same keys however it is cut. -/
theorem flatMap_keys_strokes (input : Input) : input.strokes.flatMap keys = input.keys := by
  cases input with
  | text t =>
    rw [strokes, keys, List.flatMap_map, List.filterMap_eq_flatMap_toList]
    simp only [keys_stroke]
  | keyboard => exact List.append_nil _
  | paste => rfl
  | other => rfl

end Input

namespace Gathered

/-- Reading a text character by character finds its keys and tells of the characters that are none. -/
theorem foldl_char (g : Gathered) (t : Text) :
    t.foldl char g = ⟨g.keys ++ (Input.text t).keys, g.events ++ (Input.text t).ignored⟩ := by
  induction t generalizing g with
  | nil => simp [Input.keys, Input.ignored, Input.typed]
  | cons c t ih =>
    rw [List.foldl_cons, ih, char]
    cases key : Key.ofChar? c with
    | some k => simp [withKey, Input.keys, Input.ignored, Input.typed, key]
    | none => simp [Input.keys, Input.ignored, Input.typed, key]

/-- The loop over a frame finds, input by input, the keys that are denoted. -/
theorem input_eq (g : Gathered) (i : Input) : g.input i = ⟨g.keys ++ i.keys, g.events ++ i.ignored⟩ := by
  cases i with
  | text t => exact g.foldl_char t
  | keyboard key pressed =>
    cases key <;> cases pressed <;> simp [input, withKey, Input.keys, Input.ignored, Input.typed]
  | paste => simp [input, Input.keys, Input.ignored, Input.typed]
  | other => simp [input, Input.keys, Input.ignored, Input.typed]

theorem foldl_input (g : Gathered) (inputs : List Input) :
    inputs.foldl input g = ⟨g.keys ++ inputs.flatMap Input.keys, g.events ++ inputs.flatMap Input.ignored⟩ := by
  induction inputs generalizing g with
  | nil => simp
  | cons i inputs ih =>
    rw [List.foldl_cons, ih, input_eq]
    simp only [List.flatMap_cons, List.append_assoc]

end Gathered

namespace Panel

/-- The pad has a button for every key. -/
theorem exists_button (k : Key) : ∃ button, buttons.get button = k := by
  apply List.mem_iff_get.mp
  cases k with
  | typed c typeable =>
    have drawn : "0123456789.".toList.all (fun d => (Key.ofChar? d).any (· ∈ buttons)) = true := by decide
    have pad := List.all_eq_true.mp drawn c ((typeable_iff_mem c).mp typeable)
    rw [Key.ofChar?_of_typeable typeable] at pad
    exact of_decide_eq_true pad
  | operator op => cases op <;> decide
  | equals => decide
  | clear => decide

/-- The buttons in the order in which they are drawn. -/
theorem get_buttons (button : Fin buttons.length) :
    [buttons.get button] = ("C/789*456-123+0.=".toList[button.val]?.bind Key.ofChar?).toList := by
  revert button
  decide

namespace Step

/-- The keys that a step denotes. -/
def keys : Step → List Key
  | press k => [k]
  | click button => [buttons.get button]
  | frame inputs => inputs.flatMap Input.keys

/-- The characters that are typed in a step. -/
def typed : Step → Text
  | frame inputs => inputs.flatMap Input.typed
  | _ => []

/-- The events of the characters typed in a step that are no keys. -/
def ignored (s : Step) : List Event := (s.typed.filter fun c => Key.ofChar? c = none).map Event.charIgnored

/-- What is done in a step, one thing at a time. -/
def strokes : Step → List Step
  | frame inputs => (inputs.flatMap Input.strokes).map fun input => frame [input]
  | step => [step]

/-- A frame denotes the same keys however it is divided. -/
theorem flatMap_keys_strokes (step : Step) : step.strokes.flatMap keys = step.keys := by
  cases step with
  | press => rfl
  | click => rfl
  | frame inputs =>
    have alone (input : Input) : keys (frame [input]) = input.keys := List.append_nil _
    rw [strokes, List.flatMap_map]
    simp only [alone, List.flatMap_assoc, Input.flatMap_keys_strokes]
    rfl

theorem ignored_frame (inputs : List Input) : (frame inputs).ignored = inputs.flatMap Input.ignored := by
  induction inputs with
  | nil => rfl
  | cons input inputs ih =>
    have front : (frame (input :: inputs)).typed = input.typed ++ (frame inputs).typed := rfl
    rw [ignored, front, List.filter_append, List.map_append, ← ignored, ih, List.flatMap_cons, Input.ignored]

end Step

/-- The panel after keys pressed one after another. -/
def run (p : Panel) (keys : List Key) : Panel := keys.foldl press p

/-- The panel after steps taken one after another. -/
def steps (p : Panel) (done : List Step) : Panel := done.foldl step p

/-- The displays follow the expression through any keys. -/
theorem run_ofExpression (e : Expression) (keys : List Key) :
    (ofExpression e).run keys = ofExpression (e.run keys) := by
  induction keys generalizing e with
  | nil => rfl
  | cons k keys ih => exact ih (e.press k)

/-- Keys pressed while the log is written are a run, and their events follow those logged so far. -/
theorem foldl_pressLogged (p : Panel) (before : List Event) (keys : List Key) :
    keys.foldl pressLogged (p, before) = (p.run keys, before ++ Event.ofRun p.expression keys) := by
  induction keys generalizing p before with
  | nil => simp [run, Event.ofRun]
  | cons k keys ih =>
    have pressed : pressLogged (p, before) k = (p.press k, before ++ Event.ofPress p.expression k) := rfl
    rw [List.foldl_cons, pressed, ih, List.append_assoc]
    rfl

/-- A step presses the keys that it denotes, after it has told of the typed characters that are none. -/
theorem act_eq (p : Panel) (s : Step) : p.act s = (p.run s.keys, s.ignored ++ Event.ofRun p.expression s.keys) := by
  cases s with
  | press k => exact foldl_pressLogged p [] [k]
  | click button => exact foldl_pressLogged p [] [buttons.get button]
  | frame inputs =>
    rw [act, Gathered.foldl_input, foldl_pressLogged, Step.ignored_frame]
    rfl

theorem step_ofExpression (e : Expression) (s : Step) : (ofExpression e).step s = ofExpression (e.run s.keys) := by
  rw [step, act_eq, run_ofExpression]

theorem events_eq (p : Panel) (s : Step) : p.events s = s.ignored ++ Event.ofRun p.expression s.keys := by
  rw [events, act_eq]

/-- Steps come to the keys that they denote, pressed one after another. -/
theorem steps_ofExpression (e : Expression) (done : List Step) :
    (ofExpression e).steps done = ofExpression (e.run (done.flatMap Step.keys)) := by
  induction done generalizing e with
  | nil => rfl
  | cons s done ih =>
    have next : (ofExpression e).steps (s :: done) = ((ofExpression e).step s).steps done := rfl
    rw [next, step_ofExpression, ih, List.flatMap_cons, Expression.run_append]

theorem flatMap_keys_strokes (done : List Step) :
    (done.flatMap Step.strokes).flatMap Step.keys = done.flatMap Step.keys := by
  rw [List.flatMap_assoc]
  simp only [Step.flatMap_keys_strokes]

/-- Without the reports of characters, the events of a step are those of its keys. -/
theorem filter_events (e : Expression) (s : Step) :
    ((ofExpression e).events s).filter (·.ignoredChar? = none) = Event.ofRun e s.keys := by
  have kept : (Event.ofRun e s.keys).filter (·.ignoredChar? = none) = Event.ofRun e s.keys :=
    List.filter_eq_self.mpr fun event member => decide_eq_true (Event.ignoredChar?_of_ofRun e s.keys event member)
  have dropped : s.ignored.filter (·.ignoredChar? = none) = [] := by
    rw [List.filter_eq_nil_iff]
    intro event member
    obtain ⟨c, _, rfl⟩ := List.mem_map.mp member
    simp [Event.ignoredChar?]
  rw [events_eq, List.filter_append, dropped, List.nil_append]
  exact kept

/-- Without the reports of characters, the log of steps is the log of their keys. -/
theorem filter_log (e : Expression) (done : List Step) :
    ((ofExpression e).log done).filter (·.ignoredChar? = none) = Event.ofRun e (done.flatMap Step.keys) := by
  induction done generalizing e with
  | nil => rfl
  | cons s done ih =>
    rw [log, List.filter_append, filter_events, step_ofExpression, ih, List.flatMap_cons, Event.ofRun_append]

/-- The log of steps reports each typed character that is no key, in order. -/
theorem filterMap_log (e : Expression) (done : List Step) :
    ((ofExpression e).log done).filterMap Event.ignoredChar? =
      (done.flatMap Step.typed).filter fun c => Key.ofChar? c = none := by
  induction done generalizing e with
  | nil => rfl
  | cons s done ih =>
    have applied : (Event.ofRun e s.keys).filterMap Event.ignoredChar? = [] :=
      List.filterMap_eq_nil_iff.mpr (Event.ignoredChar?_of_ofRun e s.keys)
    have told : s.ignored.filterMap Event.ignoredChar? = s.typed.filter fun c => Key.ofChar? c = none := by
      rw [Step.ignored, List.filterMap_map]
      exact List.filterMap_some
    rw [log, List.filterMap_append, events_eq, List.filterMap_append, told, step_ofExpression, ih,
      List.flatMap_cons, List.filter_append]
    exact congrArg (· ++ _) (applied ▸ List.append_nil _)

/-- Steps that do the same things one at a time lead to the same panel. -/
theorem steps_of_strokes {done others : List Step}
    (same : done.flatMap Step.strokes = others.flatMap Step.strokes) (e : Expression) :
    (ofExpression e).steps done = (ofExpression e).steps others := by
  rw [steps_ofExpression, steps_ofExpression, ← flatMap_keys_strokes, same, flatMap_keys_strokes]

/-- To type a text in any pieces is to enter it. -/
theorem steps_of_typing {t : Text} {done : List Step}
    (typing : done.flatMap Step.strokes = Step.strokes (.frame [.text t])) (e : Expression) :
    ((ofExpression e).steps done).expression = e.enter t := by
  have keys : done.flatMap Step.keys = t.filterMap Key.ofChar? := by
    rw [← flatMap_keys_strokes, typing, Step.flatMap_keys_strokes]
    exact List.append_nil _
  rw [steps_ofExpression, keys]
  rfl

/-- All that is done with the panel comes to pressing keys one after another: the key that is pressed, the key of
the button that is clicked, and of the inputs of a frame the typed characters that are keys, enter for equals, and
escape and delete for clear. The pad has a button for every key. The displays are those of the expression after
every step, and steps that do the same things one at a time lead to the same panel, however they are put together.
Typing a text in any pieces replays it without the characters that are no keys. A frame reports first the characters
that are no keys and then what its keys log; over all steps that is the log of all keys. -/
theorem steps_eq_run :
    let denoted : Input → List Key := fun
      | .text t => t.filterMap Key.ofChar?
      | .keyboard .enter true => [.equals]
      | .keyboard .escape true => [.clear]
      | .keyboard .delete true => [.clear]
      | _ => []
    let keys : Step → List Key := fun
      | .press k => [k]
      | .click button => ("C/789*456-123+0.=".toList[button.val]?.bind Key.ofChar?).toList
      | .frame inputs => inputs.flatMap denoted
    let typed : Step → Text := fun
      | .frame inputs => inputs.flatMap fun
        | .text t => t
        | _ => []
      | _ => []
    (∀ k, ∃ button, buttons.get button = k) ∧
    (∀ done, (start.steps done).expression = Expression.start.run (done.flatMap keys) ∧
      (start.steps done).readout = (start.steps done).expression.readout ∧
      (start.steps done).line = (start.steps done).expression.line) ∧
    (∀ done others, done.flatMap Step.strokes = others.flatMap Step.strokes →
      start.steps done = start.steps others) ∧
    (∀ t done, done.flatMap Step.strokes = Step.strokes (.frame [.text t]) →
      Expression.replay (t.filter fun c => (Key.ofChar? c).isSome) = .ok (start.steps done).expression ∧
      ∀ keys, Key.read t = .ok keys → Expression.replay t = .ok (start.steps done).expression) ∧
    (∀ (p : Panel) inputs, p.events (.frame inputs) =
      ((typed (.frame inputs)).filter fun c => Key.ofChar? c = none).map Event.charIgnored ++
        Event.ofRun p.expression (inputs.flatMap denoted)) ∧
    ∀ done, (start.log done).filter (·.ignoredChar? = none) = Event.ofRun .start (done.flatMap keys) ∧
      (start.log done).filterMap Event.ignoredChar? =
        (done.flatMap typed).filter fun c => Key.ofChar? c = none := by
  intro denoted keys typed
  have inputKeys : Input.keys = denoted := by
    funext input
    cases input with
    | keyboard key pressed => cases key <;> cases pressed <;> rfl
    | text => rfl
    | paste => rfl
    | other => rfl
  have stepKeys : Step.keys = keys := by
    funext step
    cases step with
    | press => rfl
    | click button => exact get_buttons button
    | frame inputs => exact congrArg (inputs.flatMap ·) inputKeys
  have stepTyped : Step.typed = typed := by
    funext step
    cases step with
    | press => rfl
    | click => rfl
    | frame inputs => exact congrArg (inputs.flatMap ·) (funext fun input => by cases input <;> rfl)
  rw [← inputKeys, ← stepKeys, ← stepTyped]
  refine ⟨exists_button, ?_, fun _ _ same => steps_of_strokes same .start, ?_,
    fun p inputs => p.events_eq (.frame inputs), fun done => ⟨filter_log .start done, filterMap_log .start done⟩⟩
  · intro done
    have panel : start.steps done = ofExpression (Expression.start.run (done.flatMap Step.keys)) :=
      steps_ofExpression .start done
    rw [panel]
    exact ⟨rfl, rfl, rfl⟩
  · intro t done typing
    have entered : (start.steps done).expression = Expression.start.enter t := steps_of_typing typing .start
    rw [entered]
    exact ⟨Expression.replay_filter t, fun _ read => Expression.replay_of_known (Key.known_of_readFrom read)⟩

end Panel

end Calculator
