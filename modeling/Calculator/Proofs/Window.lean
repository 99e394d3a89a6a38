import Calculator.Proofs.Number.Logged
import Calculator.Proofs.Number.Widening
import Calculator.Proofs.Report

namespace Calculator

namespace Size

variable {asked other least size : Size}

theorem room : 0 < Format.single.infinityCode := by decide

/-- What becomes of a size under a least size: it is kept where it is large enough, and else the least size takes
its place. -/
structure Bounded (asked least size : Size) : Prop where
  defined : ¬size.IsUndefined
  large : least ≤ size
  kept : least ≤ asked → size = asked
  raised : ¬least ≤ asked → size = least

theorem max_bounded (asked : Size) (defined : ¬least.IsUndefined) : Bounded asked least (asked.max least) := by
  have kept (fits : least ≤ asked) : asked.max least = asked := Number.max_of_le room fits
  have raised (short : ¬least ≤ asked) : asked.max least = least := Number.max_of_not_le room defined short
  by_cases fits : least ≤ asked
  · rw [kept fits]
    exact ⟨fits.2.1, fits, fun _ => rfl, fun short => absurd fits short⟩
  · rw [raised fits]
    exact ⟨defined, Number.le_refl defined, fun fit => absurd fit fits, fun _ => rfl⟩

theorem max_mono (defined : ¬least.IsUndefined) (le : asked ≤ other) : asked.max least ≤ other.max least := by
  by_cases fits : least ≤ asked
  · rw [Number.max_of_le room fits, Number.max_of_le room (Number.le_trans fits le)]
    exact le
  · rw [Number.max_of_not_le room defined fits]
    exact (max_bounded other defined).large

theorem ofNat_defined (n : Nat) : ¬(ofNat n).IsUndefined := Number.not_isUndefined_ofQuotient _ _ _

/-- A text in the log tells a size to the last bit: it reads back as the size in the format of values, and there it
is worth the same. -/
structure LoggedAs (size : Size) (t : Text) : Prop where
  read : Number.read? .double t = some (size.toFormat .double)
  worth : (size.toFormat .double).worth = size.worth

theorem logText_loggedAs (defined : ¬size.IsUndefined) : size.LoggedAs (size.toFormat .double).logText where
  read := Number.read?_logText Format.double_modest (Number.not_isUndefined_toFormat defined)
  worth := Number.worth_toFormat Format.single_inside_double defined

end Size

theorem Event.line_started (width height : Value) :
    (started width height).line = "INFO".toList ++ ' ' :: ("démarrage".toList ++ ' ' ::
      ("largeur=".toList ++ width.logText ++ ' ' :: ("hauteur=".toList ++ height.logText))) := by
  have line : (started width height).line = "INFO".toList ++ ' ' :: "démarrage".toList ++
      [("largeur".toList, width.logText), ("hauteur".toList, height.logText)].flatMap fun (name, value) =>
        ' ' :: name ++ '=' :: value := rfl
  have left : "largeur=".toList = "largeur".toList ++ ['='] := rfl
  have right : "hauteur=".toList = "hauteur".toList ++ ['='] := rfl
  rw [line, left, right]
  simp only [List.flatMap_cons, List.flatMap_nil, List.append_assoc, List.cons_append, List.nil_append,
    List.append_nil]

/-- The sizes stand in words of their own. -/
theorem Event.parts_started {width height : Value} (first : ' ' ∉ width.logText) (second : ' ' ∉ height.logText) :
    Text.parts ' ' (started width height).line = ["INFO".toList, "démarrage".toList,
      "largeur=".toList ++ width.logText, "hauteur=".toList ++ height.logText] := by
  have level : ' ' ∉ "INFO".toList := by decide
  have message : ' ' ∉ "démarrage".toList := by decide
  have left : ' ' ∉ "largeur=".toList ++ width.logText := by
    rw [List.mem_append, not_or]
    exact ⟨by decide, first⟩
  have right : ' ' ∉ "hauteur=".toList ++ height.logText := by
    rw [List.mem_append, not_or]
    exact ⟨by decide, second⟩
  rw [line_started, Text.parts_append, Text.parts_append, Text.parts_append, Text.parts_of_notMem level,
    Text.parts_of_notMem message, Text.parts_of_notMem left, Text.parts_of_notMem right]
  rfl

theorem Event.fieldNames_started (width height : Value) :
    (started width height).fieldNames = ["message".toList, "largeur".toList, "hauteur".toList] := rfl

/-- Whether a start is logged does not depend on the size of the window. -/
theorem Filter.admits_started_iff (filter : Filter) (width height width' height' : Value) :
    filter.Admits (.started width height) ↔ filter.Admits (.started width' height') := by
  refine filter.admits_congr rfl ?_ rfl
  rw [Event.fieldNames_started, Event.fieldNames_started]

namespace Settings

theorem width_bounded (settings : Settings) : settings.width.Bounded Size.leastWidth settings.windowSize.1 :=
  Size.max_bounded settings.width (Size.ofNat_defined 300)

theorem height_bounded (settings : Settings) : settings.height.Bounded Size.leastHeight settings.windowSize.2 :=
  Size.max_bounded settings.height (Size.ofNat_defined 440)

/-- What already is a window size stays as it is. -/
theorem windowSize_windowSize (settings : Settings) :
    { settings with width := settings.windowSize.1, height := settings.windowSize.2 }.windowSize =
      settings.windowSize := by
  ext1
  · exact Number.max_of_le Size.room settings.width_bounded.large
  · exact Number.max_of_le Size.room settings.height_bounded.large

/-- An option that is new and has its value behind an equals sign is set at once. -/
theorem Reading.step_of_assign {settings next : Settings} {given : List Setting} {setting : Setting} {t : Text}
    (fresh : setting ∉ given) (assigned : assign settings setting t = .ok next) :
    step ⟨settings, given, none, false⟩ ('-' :: '-' :: setting.name ++ '=' :: t) =
      .ok ⟨next, setting :: given, none, false⟩ := by
  have step : step ⟨settings, given, none, false⟩ ('-' :: '-' :: setting.name ++ '=' :: t) =
      set ⟨settings, given, none, false⟩ setting (some t) := by
    cases setting <;> rfl
  rw [step, set, if_neg fresh, assigned]
  rfl

/-- Any sizes and any filter can be asked for, each with an equals sign before it. -/
theorem ofArguments_sizes {width height : Text} {w h : Size} (log : Text)
    (first : Number.read? .single width = some w) (second : Number.read? .single height = some h) :
    ofArguments ["--largeur=".toList ++ width, "--hauteur=".toList ++ height, "--log=".toList ++ log] =
      .ok { default with width := w, height := h, log := some log } := by
  have one : Reading.assign default .width width = .ok { default with width := w } := by
    simp only [Reading.assign, first]
  have two : Reading.assign { default with width := w } .height height =
      .ok { default with width := w, height := h } := by
    simp only [Reading.assign, second]
  have three : Reading.assign { default with width := w, height := h } .log log =
      .ok { default with width := w, height := h, log := some log } := rfl
  have later : Setting.height ∉ [Setting.width] := by decide
  have last : Setting.log ∉ [Setting.height, .width] := by decide
  change ([('-' :: '-' :: Setting.width.name ++ '=' :: width), ('-' :: '-' :: Setting.height.name ++ '=' :: height),
    ('-' :: '-' :: Setting.log.name ++ '=' :: log)].foldlM Reading.step ⟨default, [], none, false⟩).bind _ = _
  simp only [List.foldlM_cons, Reading.step_of_assign List.not_mem_nil one, Reading.step_of_assign later two,
    Reading.step_of_assign last three, bind, Except.bind]
  rfl

end Settings

namespace Report

theorem logLines_of_admits {filter : Filter} {event : Event} (admitted : filter.Admits event) :
    logLines filter [event] = [event.line] := by
  simp [logLines, Filter.select, admitted]

theorem after_after (first second : List Text) (r : Report) :
    after first (after second r) = after (first ++ second) r := by
  rw [after, after, after, List.append_assoc]

/-- A start with a window leaves one line in the log if the filter lets it through, whatever the size and whatever
becomes of the window. -/
theorem ofSettings_of_start {settings : Settings} {environment : Option Text} {width height : Value}
    (noReplay : settings.replay = none)
    (admitted : (Filter.choose settings.log environment).Admits (.started width height)) (window : Window) :
    ofSettings settings environment window = after (settings.log.elim [] Filter.complaints ++
        [(Event.started (settings.windowSize.1.toFormat .double) (settings.windowSize.2.toFormat .double)).line])
      (ofWindow (Filter.choose settings.log environment) window) := by
  have shown := ((Filter.choose settings.log environment).admits_started_iff _ _
    (settings.windowSize.1.toFormat .double) (settings.windowSize.2.toFormat .double)).mp admitted
  simp only [ofSettings, noReplay, ofStart, logLines_of_admits shown, after_after]

/-- A window has the size that was asked for as far as the buttons fit into it, so it never is undefined and grows
with what is asked. Where the log shows a start, it tells the size of the window to the last bit, before anything
becomes of the window. -/
theorem ofArguments_window (settings : Settings) :
    settings.width.Bounded Size.leastWidth settings.windowSize.1 ∧
    settings.height.Bounded Size.leastHeight settings.windowSize.2 ∧
    { settings with width := settings.windowSize.1, height := settings.windowSize.2 }.windowSize =
      settings.windowSize ∧
    (∀ others : Settings, settings.width ≤ others.width → settings.windowSize.1 ≤ others.windowSize.1) ∧
    (∀ others : Settings, settings.height ≤ others.height → settings.windowSize.2 ≤ others.windowSize.2) ∧
    ∀ arguments environment width height, Settings.ofArguments arguments = .ok settings → settings.replay = none →
      (Filter.choose settings.log environment).Admits (.started width height) →
      ∃ line first second,
        (∀ reason, ofArguments arguments environment (.failed reason) =
          .ok ⟨1, [], settings.log.elim [] Filter.complaints ++
            [line, "Error: fenêtre".toList ++ reason.elim [] (": ".toList ++ ·)]⟩) ∧
        (∀ done, ofArguments arguments environment (.closed done) =
          .ok ⟨0, [], settings.log.elim [] Filter.complaints ++
            line :: logLines (Filter.choose settings.log environment) (Panel.start.log done)⟩) ∧
        Text.parts ' ' line =
          ["INFO".toList, "démarrage".toList, "largeur=".toList ++ first, "hauteur=".toList ++ second] ∧
        settings.windowSize.1.LoggedAs first ∧ settings.windowSize.2.LoggedAs second := by
  have width := settings.width_bounded
  have height := settings.height_bounded
  refine ⟨width, height, settings.windowSize_windowSize, ?_, ?_, ?_⟩
  · exact fun others le => Size.max_mono (Size.ofNat_defined 300) le
  · exact fun others le => Size.max_mono (Size.ofNat_defined 440) le
  · intro arguments environment _ _ accepted noReplay admitted
    have report (window : Window) := (ofArguments_eq environment window accepted).trans
      (congrArg Except.ok (ofSettings_of_start noReplay admitted window))
    refine ⟨_, _, _, ?_, ?_, Event.parts_started ?_ ?_, Size.logText_loggedAs width.defined,
      Size.logText_loggedAs height.defined⟩
    · intro reason
      rw [report, ofWindow, after, List.append_assoc, List.singleton_append]
    · intro done
      rw [report, ofWindow, after, List.append_assoc, List.singleton_append]
    · exact Number.space_not_mem_logText Format.double_modest (Number.not_isUndefined_toFormat width.defined)
    · exact Number.space_not_mem_logText Format.double_modest (Number.not_isUndefined_toFormat height.defined)

/-- An undefined width gives way to the least width, and a height of `1e30` is told with an exponent. -/
theorem ofArguments_window_of_undefined :
    ∃ line first second,
      ofArguments ["--largeur=NaN".toList, "--hauteur=1e30".toList, "--log=info".toList] (some "off".toList)
        (.failed none) = .ok ⟨1, [], [line, "Error: fenêtre".toList]⟩ ∧
      Text.parts ' ' line =
        ["INFO".toList, "démarrage".toList, "largeur=".toList ++ first, "hauteur=".toList ++ second] ∧
      (Number.read? .double first).map Number.toWord = some 0x4072C00000000000 ∧
      (Number.read? .double second).map Number.toWord = some 0x46293E5940000000 := by
  have width : Number.read? .single "NaN".toList = some (.undefined false) := rfl
  have height : Number.read? .single "1e30".toList = some (.ofWord .single 0x7149F2CA) := by decide +kernel
  have accepted := Settings.ofArguments_sizes "info".toList width height
  have inForce : Filter.InForce (some "info".toList) (some "off".toList) [] (some .info) :=
    .given (.of_named (by decide))
  have admitted : (Filter.choose (some "info".toList) (some "off".toList)).Admits
      (.started (.zero false) (.zero false)) :=
    (inForce.admits_iff _).mpr ⟨List.nil_prefix, by decide⟩
  obtain ⟨-, -, -, -, -, logged⟩ := ofArguments_window
    { Settings.default with
      width := .undefined false
      height := .ofWord .single 0x7149F2CA
      log := some "info".toList }
  obtain ⟨line, first, second, failed, _, parts, left, right⟩ := logged _ _ _ _ accepted rfl admitted
  refine ⟨line, first, second, ?_, parts, ?_, ?_⟩
  · have report := failed none
    rw [inForce.complaints_eq_nil, List.nil_append] at report
    exact report
  · rw [left.read]
    decide +kernel
  · rw [right.read]
    decide +kernel

end Report

end Calculator
