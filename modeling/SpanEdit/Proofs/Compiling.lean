import SpanEdit.Proofs.Grammar
import SpanEdit.Proofs.Observation
import SpanEdit.Proofs.Ordering
import SpanEdit.Regex.Machine

/-!
Making the script of a configuration that was read. There is a script with a rule for every rule of
the configuration, or else what is reported of the first rule that cannot be made, and no factory is
called for a rule behind that one. A configuration with too many rules is refused before any factory
is called. The report is a complaint about the configuration, unless it cannot be put into words.
-/

namespace SpanEdit

variable {World : Type}

inductive Registry.Lists (registry : Registry World) (typeUrl : String) : Fault → Prop
  | listed {available : List String} : registry.typeUrls = .ok (available.map .string) →
      Lists registry typeUrl (.load (.unknownTypeUrl typeUrl available))
  | unordered {fault : Fault} : registry.typeUrls = .error fault → Lists registry typeUrl fault
  | foreign {before : List String} {url : Value} {rest : List Value} :
      registry.typeUrls = .ok (before.map .string ++ url :: rest) → url.isText = false →
      Lists registry typeUrl (.unjoinable before.length .text url.fullTypeName)

inductive Registry.Quotes (complaint : Fault) : Fault → Prop
  | quoted {source : Option String} : complaint.told = .ok source →
      Quotes complaint (.load (.invalidConfig source))
  | speechless {cause : Fault} : complaint.told = .error cause → Quotes complaint cause

/-- What the pattern of a configuration comes to, and the world after it. That a value is too long
is told before it is looked at in any other way. -/
inductive Registry.Makes [Regex.Engine] (registry : Registry World) (world : World) :
    PatternConfig → Except Fault (Pattern World Value) → World → Prop
  | literal {text : String} {ignoreCase : Bool} : text ≠ "" → text.length ≤ Limits.pattern →
      Makes registry world (.builtIn "Literal" (.string text) ignoreCase)
        (.ok ((Literal.mk (.ofString text) ignoreCase).pattern.mapValues toValue)) world
  | emptyLiteral {ignoreCase : Bool} :
      Makes registry world (.builtIn "Literal" (.string "") ignoreCase)
        (.error (.load (.invalidConfig (some "Literal pattern must not be empty")))) world
  | longLiteral {text : String} {ignoreCase : Bool} : Limits.pattern < text.length →
      Makes registry world (.builtIn "Literal" (.string text) ignoreCase)
        (.error (.load (.patternTooLong text.length Limits.pattern))) world
  | regex {text : String} {ignoreCase : Bool} {regex : Regex} : text.length ≤ Limits.regex →
      Regex.compile (.ofString text) ignoreCase = .ok regex →
      Makes registry world (.builtIn "Regex" (.string text) ignoreCase)
        (.ok (regex.pattern.mapValues toValue)) world
  | badRegex {text : String} {ignoreCase : Bool} {report : String} :
      text.length ≤ Limits.regex →
      Regex.compile (.ofString text) ignoreCase = .error (.rejected report) →
      Makes registry world (.builtIn "Regex" (.string text) ignoreCase)
        (.error (.load
          (.invalidConfig (some (PatternFault.badRegex (.ofString text) report).message)))) world
  | noRegex {text : String} {ignoreCase : Bool} {kind message : String} :
      text.length ≤ Limits.regex →
      Regex.compile (.ofString text) ignoreCase = .error (.failed kind message) →
      Makes registry world (.builtIn "Regex" (.string text) ignoreCase)
        (.error (.engine kind message)) world
  | longRegex {text : String} {ignoreCase : Bool} : Limits.regex < text.length →
      Makes registry world (.builtIn "Regex" (.string text) ignoreCase)
        (.error (.load (.patternTooLong text.length Limits.regex))) world
  | unknown {typed : TypedConfig} {fault : Fault} : registry.lookup typed.typeUrl = none →
      registry.Lists typed.typeUrl fault →
      Makes registry world (.custom typed) (.error fault) world
  | made {typed : TypedConfig} {factory : Factory World} {pattern : Pattern World Value}
      {after : World} : registry.lookup typed.typeUrl = some factory →
      factory typed.config world = (.ok pattern, after) →
      Makes registry world (.custom typed) (.ok pattern) after
  | refused {typed : TypedConfig} {factory : Factory World} {complaint fault : Fault}
      {after : World} : registry.lookup typed.typeUrl = some factory →
      factory typed.config world = (.error complaint, after) → Quotes complaint fault →
      Makes registry world (.custom typed) (.error fault) after

inductive ActionConfig.Replaces : ActionConfig → Option Value → Prop
  | replace (text : String) : Replaces (.replace (.string text)) (some (.string text))
  | keep : Replaces .keep none

/-- Every rule is made, one after the other. -/
inductive Registry.MakesAll [Regex.Engine] (registry : Registry World) :
    World → List RuleConfig → List (Rule World) → World → Prop
  | nil {world : World} : MakesAll registry world [] [] world
  | cons {world now after : World} {config : RuleConfig} {rest : List RuleConfig}
      {pattern : Pattern World Value} {replacement : Option Value} {rules : List (Rule World)} :
      registry.Makes world config.pattern (.ok pattern) now →
      config.action.Replaces replacement → MakesAll registry now rest rules after →
      MakesAll registry world (config :: rest) (⟨pattern, replacement⟩ :: rules) after

def Registry.call? (registry : Registry World) : PatternConfig → Option TypedConfig
  | .custom typed => (registry.lookup typed.typeUrl).map fun _ => typed
  | _ => none

def Registry.calls (registry : Registry World) (configs : List RuleConfig) : List TypedConfig :=
  configs.filterMap fun config => registry.call? config.pattern

/-- What loading comes to, the calls of factories in their order, and the world after it. -/
inductive Registry.Loading [Journal World] [Regex.Engine] (registry : Registry World)
    (config : EditConfig) (world : World) :
    Except Fault (Script World) → List TypedConfig → World → Prop
  | tooMany : Limits.rules < config.rules.length →
      Loading registry config world
        (.error (.load (.tooManyRules config.rules.length Limits.rules))) [] world
  | loaded {rules : List (Rule World)} {after : World} : config.rules.length ≤ Limits.rules →
      registry.MakesAll world config.rules rules after →
      Loading registry config world (.ok ⟨rules⟩) (registry.calls config.rules)
        (Journal.note (.scriptLoaded config.rules.length) after)
  | refused {before rest : List RuleConfig} {rule : RuleConfig} {rules : List (Rule World)}
      {fault : Fault} {now after : World} : config.rules.length ≤ Limits.rules →
      config.rules = before ++ rule :: rest → registry.MakesAll world before rules now →
      registry.Makes now rule.pattern (.error fault) after →
      Loading registry config world (.error (fault.leaving .generator))
        (registry.calls (before ++ [rule])) after

/-- Everything that can be wrong can be put into words: the URLs are text, and so is whatever a
factory complains of. -/
structure Registry.Worded (registry : Registry World) : Prop where
  urls : ∀ entry ∈ registry.factories, entry.1.isText = true
  faults : ∀ entry ∈ registry.factories, ∀ config world fault after,
    entry.2 config world = (.error fault, after) → ∃ source, fault.told = .ok source

/-- The engine reports whatever it does not accept. -/
def Regex.Engine.Reports [Regex.Engine] : Prop :=
  ∀ source ignoreCase kind message, Regex.compile source ignoreCase ≠ .error (.failed kind message)

def Factory.recorded (typeUrl : String) (factory : Factory World) :
    Factory (List TypedConfig × World) := fun config outer =>
  match factory config outer.2 with
  | (outcome, after) => (outcome.map (·.seated .aside), outer.1 ++ [⟨typeUrl, config⟩], after)

def Value.url : Value → String
  | .tokens (.text chars) => String.ofList chars.toList
  | _ => ""

def Registry.recorded (registry : Registry World) : Registry (List TypedConfig × World) where
  factories := registry.factories.map fun entry => (entry.1, Factory.recorded entry.1.url entry.2)

section Making

variable {registry : Registry World} {world now after : World}

theorem Value.exists_string (chars : Array Char) :
    ∃ text, Value.tokens (.text chars) = .string text :=
  Value.isText_iff.mp rfl

theorem Value.length?_string (text : String) : (Value.string text).length? = some text.length := by
  simp [Value.string, Value.length?, Tokens.ofString, Tokens.size, String.length_toList]

theorem Value.holds_string (text : String) : (Value.string text).holds = (text != "") := by
  by_cases empty : text = ""
  · subst empty
    rfl
  · have nonempty : text.toList.length ≠ 0 := by simpa using empty
    rw [(bne_iff_ne.mpr empty : (text != "") = true)]
    exact bne_iff_ne.mpr nonempty

namespace Registry

theorem checkLength_string (variant text : String) :
    checkLength variant (.string text) =
      let limit := if variant = "Regex" then Limits.regex else Limits.pattern
      if limit < text.length then .error (.load (.patternTooLong text.length limit))
      else .ok () := by
  rw [checkLength, lengthOf, Value.length?_string]
  rfl

theorem checkLength_regex {text : String} (short : text.length ≤ Limits.regex) :
    checkLength "Regex" (.string text) = .ok () :=
  (checkLength_string _ text).trans (if_neg (Nat.not_lt.mpr short))

theorem namesFrom_append (index : Nat) (before : List String) (rest : List Value) :
    namesFrom index (before.map .string ++ rest) =
      (namesFrom (index + before.length) rest).map (before ++ ·) := by
  induction before generalizing index with
  | nil => cases named : namesFrom index rest <;> simp [named, Except.map]
  | cons name before ih =>
      have further : index + 1 + before.length = index + (before.length + 1) := by omega
      have same : String.ofList name.toList.toArray.toList = name := by simp
      rw [List.map_cons, List.cons_append, Value.string, Tokens.ofString, namesFrom, same, ih,
        List.length_cons, further]
      cases namesFrom (index + (before.length + 1)) rest <;> rfl

theorem namesFrom_foreign (index : Nat) {url : Value} (noText : url.isText = false)
    (rest : List Value) :
    namesFrom index (url :: rest) = .error (.unjoinable index .text url.fullTypeName) := by
  unfold namesFrom
  split
  · rename_i same
    cases same
  · rename_i same
    cases same
    cases noText
  · rename_i same
    cases same
    rfl

theorem unknown_of_lists {typeUrl : String} {fault : Fault}
    (lists : registry.Lists typeUrl fault) : .ofReport (registry.unknown typeUrl) = fault := by
  cases lists with
  | @listed available sorted =>
      have named : namesFrom 0 (available.map .string) = .ok available := by
        simpa [namesFrom, Except.map] using namesFrom_append 0 available []
      simp only [unknown, sorted, named, bind, Except.bind]
      rfl
  | unordered failed =>
      rw [unknown, failed]
      rfl
  | @foreign before url rest sorted noText =>
      have refused : namesFrom 0 (before.map .string ++ url :: rest) =
          .error (.unjoinable before.length .text url.fullTypeName) := by
        rw [namesFrom_append, namesFrom_foreign _ noText, Nat.zero_add]
        rfl
      simp only [unknown, sorted, refused, bind, Except.bind]
      rfl

/-- Values are texts, or there is a first one that is none. -/
theorem texts_or_foreign (values : List Value) :
    (∃ names : List String, values = names.map .string) ∨
      ∃ (before : List String) (value : Value) (rest : List Value),
        values = before.map .string ++ value :: rest ∧ value.isText = false := by
  induction values with
  | nil => exact .inl ⟨[], rfl⟩
  | cons value rest ih =>
      cases holdsText : value.isText with
      | false => exact .inr ⟨[], value, rest, rfl, holdsText⟩
      | true =>
          obtain ⟨text, rfl⟩ := Value.isText_iff.mp holdsText
          obtain ⟨names, rfl⟩ | ⟨before, foreign, rest, rfl, noText⟩ := ih
          · exact .inl ⟨text :: names, rfl⟩
          · exact .inr ⟨text :: before, foreign, rest, rfl, noText⟩

theorem exists_lists (registry : Registry World) (typeUrl : String) :
    ∃ fault, registry.Lists typeUrl fault := by
  cases sorted : registry.typeUrls with
  | error fault => exact ⟨fault, .unordered sorted⟩
  | ok urls =>
      obtain ⟨available, rfl⟩ | ⟨before, url, rest, rfl, noText⟩ := texts_or_foreign urls
      · exact ⟨_, .listed sorted⟩
      · exact ⟨_, .foreign sorted noText⟩

theorem invalidated_of_quotes {complaint fault : Fault} (quotes : Quotes complaint fault) :
    .ofReport (invalidated complaint) = fault := by
  cases quotes with
  | quoted told =>
      rw [invalidated, told]
      rfl
  | speechless silent =>
      rw [invalidated, silent]
      rfl

theorem exists_quotes (complaint : Fault) : ∃ fault, Quotes complaint fault := by
  cases told : complaint.told with
  | ok source => exact ⟨_, .quoted told⟩
  | error cause => exact ⟨cause, .speechless told⟩

theorem exists_replaces {config : ActionConfig} (wellRead : config.WellRead) :
    ∃ replacement, config.Replaces replacement := by
  cases wellRead with
  | replace chars =>
      obtain ⟨text, same⟩ := Value.exists_string chars
      rw [same]
      exact ⟨_, .replace text⟩
  | keep => exact ⟨_, .keep⟩

variable [Regex.Engine]

theorem loadPattern_of_makes {config : PatternConfig}
    {outcome : Except Fault (Pattern World Value)}
    (makes : registry.Makes world config outcome after) :
    registry.loadPattern config world = (outcome, after) := by
  cases makes with
  | @literal text ignoreCase nonempty short =>
      have accepted : checkLength "Literal" (.string text) = .ok () :=
        (checkLength_string _ text).trans (if_neg (Nat.not_lt.mpr short))
      have holds : (Value.string text).holds = true := by simpa [Value.holds_string] using nonempty
      simp only [loadPattern, builtIn, accepted, holds]
      rfl
  | emptyLiteral => rfl
  | @longLiteral text ignoreCase long =>
      have tooLong : checkLength "Literal" (.string text) =
          .error (.load (.patternTooLong text.length Limits.pattern)) :=
        (checkLength_string _ text).trans (if_pos long)
      simp only [loadPattern, builtIn, tooLong]
      rfl
  | @regex text ignoreCase regex short compiled =>
      have accepted := checkLength_regex short
      have made : (Pattern.regexOf (.string text) (.bool ignoreCase) :
          Except Fault (Pattern World Regex.Match)) = .ok regex.pattern := by
        rw [Pattern.labelled_compile compiled]
        exact Pattern.regexOf_of_compiled compiled
      simp only [loadPattern, builtIn, accepted, made]
      rfl
  | @badRegex text ignoreCase report short rejected =>
      have accepted := checkLength_regex short
      have refused : (Pattern.regexOf (.string text) (.bool ignoreCase) :
          Except Fault (Pattern World Regex.Match)) =
          .error ((Regex.Refusal.rejected report).fault (.ofString text)) :=
        Pattern.regexOf_of_refused rejected
      simp only [loadPattern, builtIn, accepted, refused]
      rfl
  | @noRegex text ignoreCase kind message short failed =>
      have accepted := checkLength_regex short
      have refused : (Pattern.regexOf (.string text) (.bool ignoreCase) :
          Except Fault (Pattern World Regex.Match)) =
          .error ((Regex.Refusal.failed kind message).fault (.ofString text)) :=
        Pattern.regexOf_of_refused failed
      simp only [loadPattern, builtIn, accepted, refused]
      rfl
  | @longRegex text ignoreCase long =>
      have tooLong : checkLength "Regex" (.string text) =
          .error (.load (.patternTooLong text.length Limits.regex)) :=
        (checkLength_string _ text).trans (if_pos long)
      simp only [loadPattern, builtIn, tooLong]
      rfl
  | unknown absent lists =>
      simp only [loadPattern, custom, absent, unknown_of_lists lists]
      rfl
  | made known ran =>
      simp only [loadPattern, custom, known, tryCatch, tryCatchThe, MonadExceptOf.tryCatch, ran]
  | refused known ran quotes =>
      simp only [loadPattern, custom, known, tryCatch, tryCatchThe, MonadExceptOf.tryCatch, ran,
        invalidated_of_quotes quotes]
      rfl

theorem exists_makes {config : PatternConfig} (wellRead : config.WellRead)
    (registry : Registry World) (world : World) :
    ∃ outcome after, registry.Makes world config outcome after := by
  cases wellRead with
  | literal chars ignoreCase =>
      obtain ⟨text, same⟩ := Value.exists_string chars
      rw [same]
      by_cases short : text.length ≤ Limits.pattern
      · by_cases empty : text = ""
        · subst empty
          exact ⟨_, _, .emptyLiteral⟩
        · exact ⟨_, _, .literal empty short⟩
      · exact ⟨_, _, .longLiteral (Nat.lt_of_not_le short)⟩
  | regex chars ignoreCase =>
      obtain ⟨text, same⟩ := Value.exists_string chars
      rw [same]
      by_cases short : text.length ≤ Limits.regex
      · cases compiled : Regex.compile (.ofString text) ignoreCase with
        | ok regex => exact ⟨_, _, .regex short compiled⟩
        | error refusal =>
            cases refusal with
            | rejected report => exact ⟨_, _, .badRegex short compiled⟩
            | failed kind message => exact ⟨_, _, .noRegex short compiled⟩
      · exact ⟨_, _, .longRegex (Nat.lt_of_not_le short)⟩
  | custom typed =>
      cases known : registry.lookup typed.typeUrl with
      | none =>
          obtain ⟨fault, lists⟩ := registry.exists_lists typed.typeUrl
          exact ⟨_, _, .unknown known lists⟩
      | some factory =>
          rcases ran : factory typed.config world with ⟨complaint | pattern, after⟩
          · obtain ⟨fault, quotes⟩ := exists_quotes complaint
            exact ⟨_, _, .refused known ran quotes⟩
          · exact ⟨_, _, .made known ran⟩

/-- Either all rules are made, or there is a first one that is not. -/
theorem makesAll_or_refused {configs : List RuleConfig}
    (wellRead : ∀ config ∈ configs, config.WellRead) (registry : Registry World) (world : World) :
    (∃ rules after, registry.MakesAll world configs rules after) ∨
    ∃ before rule rest rules fault now after, configs = before ++ rule :: rest ∧
      registry.MakesAll world before rules now ∧
      registry.Makes now rule.pattern (.error fault) after := by
  induction configs generalizing world with
  | nil => exact .inl ⟨[], world, .nil⟩
  | cons config rest ih =>
      obtain ⟨first, others⟩ := List.forall_mem_cons.mp wellRead
      obtain ⟨fault | pattern, now, makes⟩ := exists_makes first.pattern registry world
      · exact .inr ⟨[], config, rest, [], fault, world, now, rfl, .nil, makes⟩
      · obtain ⟨replacement, replaces⟩ := exists_replaces first.action
        obtain ⟨rules, after, later⟩ |
          ⟨before, rule, rest, rules, fault, last, after, rfl, later, refused⟩ := ih others now
        · exact .inl ⟨_, after, .cons makes replaces later⟩
        · exact .inr ⟨config :: before, rule, rest, _, fault, last, after, rfl,
            .cons makes replaces later, refused⟩

theorem loadRule_of_makes {config : RuleConfig} {pattern : Pattern World Value}
    {replacement : Option Value} (makes : registry.Makes world config.pattern (.ok pattern) after)
    (replaces : config.action.Replaces replacement) :
    registry.loadRule config world = (.ok ⟨pattern, replacement⟩, after) := by
  obtain ⟨patternConfig, action⟩ := config
  rw [loadRule, Eff.bind_ok (loadPattern_of_makes makes)]
  cases replaces with
  | replace text => rfl
  | keep => rfl

theorem loadRule_of_refused {config : RuleConfig} {fault : Fault}
    (makes : registry.Makes world config.pattern (.error fault) after) :
    registry.loadRule config world = (.error fault, after) := by
  rw [loadRule, Eff.bind_error (loadPattern_of_makes makes)]

theorem loadRules_of_makesAll {configs : List RuleConfig} {rules : List (Rule World)}
    (makes : registry.MakesAll world configs rules after) :
    registry.loadRules configs world = (.ok rules, after) := by
  induction makes with
  | nil => rfl
  | cons makes replaces _ ih =>
      rw [loadRules, Eff.bind_ok (loadRule_of_makes makes replaces), Eff.bind_ok ih]
      rfl

theorem loadRules_of_refused {before rest : List RuleConfig} {rule : RuleConfig}
    {rules : List (Rule World)} {fault : Fault}
    (makes : registry.MakesAll world before rules now)
    (refused : registry.Makes now rule.pattern (.error fault) after) :
    registry.loadRules (before ++ rule :: rest) world = (.error fault, after) := by
  induction makes with
  | nil => rw [List.nil_append, loadRules, Eff.bind_error (loadRule_of_refused refused)]
  | cons makes replaces _ ih =>
      rw [List.cons_append, loadRules, Eff.bind_ok (loadRule_of_makes makes replaces),
        Eff.bind_error (ih refused)]

theorem length_of_makesAll {configs : List RuleConfig} {rules : List (Rule World)}
    (makes : registry.MakesAll world configs rules after) : rules.length = configs.length := by
  induction makes with
  | nil => rfl
  | cons _ _ _ ih => simp only [List.length_cons, ih]

theorem loadScript_of_few [Journal World] {config : EditConfig}
    (few : config.rules.length ≤ Limits.rules) :
    registry.loadScript config = (do
      let rules ← (registry.loadRules config.rules).leaving .generator
      (report (.scriptLoaded rules.length)).andThen fun _ => pure ⟨rules⟩) := by
  rw [loadScript, if_neg (Nat.not_lt.mpr few)]

theorem loadScript_of_loading [Journal World] {config : EditConfig}
    {outcome : Except Fault (Script World)} {calls : List TypedConfig}
    (loading : registry.Loading config world outcome calls after) :
    registry.loadScript config world = (outcome, after) := by
  cases loading with
  | tooMany many =>
      rw [loadScript, if_pos many]
      rfl
  | loaded few makes =>
      have loaded := Eff.leaving_ok (loadRules_of_makesAll makes) .generator
      rw [loadScript_of_few few, Eff.bind_ok loaded, length_of_makesAll makes]
      rfl
  | @refused before rest rule rules fault now after few parts makes refused =>
      have stopped : registry.loadRules (before ++ rule :: rest) world = (.error fault, after) :=
        loadRules_of_refused makes refused
      have failed := Eff.leaving_error stopped .generator
      rw [loadScript_of_few few, parts, Eff.bind_error failed]

theorem exists_loading [Journal World] {config : EditConfig}
    (wellRead : ∀ rule ∈ config.rules, rule.WellRead) (registry : Registry World)
    (world : World) : ∃ outcome calls after, registry.Loading config world outcome calls after := by
  by_cases few : config.rules.length ≤ Limits.rules
  · obtain ⟨rules, after, makes⟩ |
      ⟨before, rule, rest, rules, fault, now, after, parts, makes, refused⟩ :=
      makesAll_or_refused wellRead registry world
    · exact ⟨_, _, _, .loaded few makes⟩
    · exact ⟨_, _, _, .refused few parts makes refused⟩
  · exact ⟨_, _, _, .tooMany (Nat.lt_of_not_le few)⟩

end Registry

end Making

section Recording

namespace Registry

variable {registry : Registry World} {world now after : World} {calls : List TypedConfig}

theorem lookup_recorded (registry : Registry World) (typeUrl : String) :
    registry.recorded.lookup typeUrl =
      (registry.lookup typeUrl).map (Factory.recorded typeUrl) := by
  obtain ⟨factories⟩ := registry
  rw [recorded, lookup, lookup, List.find?_map, Option.map_map, Option.map_map]
  rcases found : factories.find? fun entry => entry.1.isWord typeUrl with _ | entry
  · simp [Function.comp_def, found]
  · have own : entry.1.isWord typeUrl = true := by simpa using List.find?_some found
    have named : entry.1.url = typeUrl := by
      obtain ⟨url, factory⟩ := entry
      unfold Value.isWord at own
      split at own
      · rename_i chars same
        cases same
        rw [Value.url, eq_of_beq own, String.ofList_toList]
      · cases own
    simp [Function.comp_def, found, named]

theorem recorded_factory {typeUrl : String} {factory : Factory World}
    {config : List (Value × Value)} {outcome : Except Fault (Pattern World Value)}
    (ran : factory config world = (outcome, after)) :
    factory.recorded typeUrl config (calls, world) =
      (outcome.map (·.seated .aside), calls ++ [⟨typeUrl, config⟩], after) := by
  rw [Factory.recorded, ran]

theorem append_call?_builtIn (variant : String) (value : Value) (ignoreCase : Bool) :
    calls ++ (registry.call? (.builtIn variant value ignoreCase)).toList = calls :=
  List.append_nil calls

theorem typeUrls_recorded (registry : Registry World) :
    registry.recorded.typeUrls = registry.typeUrls := by
  simp [typeUrls, recorded, Function.comp_def]

theorem lists_recorded {typeUrl : String} {fault : Fault} (lists : registry.Lists typeUrl fault) :
    registry.recorded.Lists typeUrl fault := by
  cases lists with
  | listed sorted => exact .listed ((typeUrls_recorded registry).trans sorted)
  | unordered failed => exact .unordered ((typeUrls_recorded registry).trans failed)
  | foreign sorted noText => exact .foreign ((typeUrls_recorded registry).trans sorted) noText

theorem calls_append (registry : Registry World) (configs more : List RuleConfig) :
    registry.calls (configs ++ more) = registry.calls configs ++ registry.calls more :=
  List.filterMap_append

theorem calls_singleton (registry : Registry World) (config : RuleConfig) :
    registry.calls [config] = (registry.call? config.pattern).toList := by
  cases asked : registry.call? config.pattern <;> simp [Registry.calls, asked]

variable [Regex.Engine]

theorem makes_recorded_ok (calls : List TypedConfig) {config : PatternConfig}
    {pattern : Pattern World Value}
    (makes : registry.Makes world config (.ok pattern) after) :
    ∃ own, registry.recorded.Makes (calls, world) config (.ok own)
      (calls ++ (registry.call? config).toList, after) := by
  cases makes with
  | literal nonempty short =>
      rw [append_call?_builtIn]
      exact ⟨_, .literal nonempty short⟩
  | regex short compiled =>
      rw [append_call?_builtIn]
      exact ⟨_, .regex short compiled⟩
  | made known ran =>
      rw [call?, known]
      exact ⟨_, .made (by rw [lookup_recorded, known]; rfl) (recorded_factory ran)⟩

theorem makes_recorded_error (calls : List TypedConfig) {config : PatternConfig} {fault : Fault}
    (makes : registry.Makes world config (.error fault) after) :
    registry.recorded.Makes (calls, world) config (.error fault)
      (calls ++ (registry.call? config).toList, after) := by
  cases makes with
  | emptyLiteral =>
      rw [append_call?_builtIn]
      exact .emptyLiteral
  | longLiteral long =>
      rw [append_call?_builtIn]
      exact .longLiteral long
  | badRegex short rejected =>
      rw [append_call?_builtIn]
      exact .badRegex short rejected
  | noRegex short failed =>
      rw [append_call?_builtIn]
      exact .noRegex short failed
  | longRegex long =>
      rw [append_call?_builtIn]
      exact .longRegex long
  | unknown absent lists =>
      rw [call?, absent, Option.map_none, Option.toList_none, List.append_nil]
      exact .unknown (by rw [lookup_recorded, absent]; rfl) (lists_recorded lists)
  | refused known ran quotes =>
      rw [call?, known]
      exact .refused (by rw [lookup_recorded, known]; rfl) (recorded_factory ran) quotes

theorem makesAll_recorded (calls : List TypedConfig) {configs : List RuleConfig}
    {rules : List (Rule World)}
    (makes : registry.MakesAll world configs rules after) :
    ∃ own, registry.recorded.MakesAll (calls, world) configs own
      (calls ++ registry.calls configs, after) := by
  induction makes generalizing calls with
  | nil => exact ⟨[], by simpa [Registry.calls] using .nil⟩
  | @cons world now after config rest pattern replacement rules makes replaces _ ih =>
      obtain ⟨own, first⟩ := makes_recorded_ok calls makes
      obtain ⟨others, later⟩ := ih (calls ++ (registry.call? config.pattern).toList)
      rw [List.append_assoc, ← calls_singleton, ← calls_append] at later
      exact ⟨_, .cons first replaces later⟩

theorem loading_recorded [Journal World] {config : EditConfig}
    {outcome : Except Fault (Script World)}
    (loading : registry.Loading config world outcome calls after) :
    ∃ ended, registry.recorded.loadScript config ([], world) = (ended, calls, after) ∧
      ∀ fault, ended = .error fault ↔ outcome = .error fault := by
  cases loading with
  | tooMany many =>
      exact ⟨_, loadScript_of_loading (.tooMany many), by simp⟩
  | loaded few makes =>
      obtain ⟨own, made⟩ := makesAll_recorded [] makes
      rw [List.nil_append] at made
      exact ⟨_, loadScript_of_loading (.loaded few made), by simp⟩
  | @refused before rest rule rules fault now after few parts makes refused =>
      obtain ⟨own, made⟩ := makesAll_recorded [] makes
      have complained := makes_recorded_error (registry.calls before) refused
      rw [List.nil_append] at made
      rw [← calls_singleton, ← calls_append] at complained
      exact ⟨_, loadScript_of_loading (.refused few parts made complained), by simp⟩

end Registry

end Recording

section Wording

namespace Registry

variable {registry : Registry World} {world after : World}

theorem exists_entry {typeUrl : String} {factory : Factory World}
    (known : registry.lookup typeUrl = some factory) :
    ∃ entry ∈ registry.factories, entry.2 = factory := by
  obtain ⟨entry, found, same⟩ := Option.map_eq_some_iff.mp known
  exact ⟨entry, List.mem_of_find?_eq_some found, same⟩

/-- URLs that are text can be sorted, and listed then. -/
theorem Worded.listed (worded : registry.Worded) {typeUrl : String} {fault : Fault}
    (lists : registry.Lists typeUrl fault) : ∃ cause, fault = .load cause := by
  have text : ∀ url ∈ registry.factories.map (·.1), url.isText = true := by
    intro url member
    obtain ⟨entry, present, rfl⟩ := List.mem_map.mp member
    exact worded.urls entry present
  have sortable : Value.Sortable (registry.factories.map (·.1)) := by
    refine .inr ⟨.text, fun url member => ?_⟩
    obtain ⟨name, rfl⟩ := Value.isText_iff.mp (text url member)
    rfl
  obtain ⟨urls, sorted, kept, -⟩ | ⟨cause, -, -, unsortable⟩ :=
    Value.sort_cases (registry.factories.map (·.1))
  · cases lists with
    | listed => exact ⟨_, rfl⟩
    | unordered failed => cases sorted.symm.trans failed
    | @foreign before url rest listed noText =>
        cases sorted.symm.trans listed
        have member := kept.mem_iff.mp (List.mem_append_right _ List.mem_cons_self)
        rw [text url member] at noText
        cases noText
  · exact absurd sortable unsortable

theorem Worded.makes [Regex.Engine] (worded : registry.Worded) {config : PatternConfig}
    {fault : Fault} (makes : registry.Makes world config (.error fault) after) :
    (∃ cause, fault = .load cause) ∨ ∃ text ignoreCase kind message,
      Regex.compile (.ofString text) ignoreCase = .error (.failed kind message) ∧
        fault = .engine kind message := by
  cases makes with
  | emptyLiteral | longLiteral | badRegex | longRegex => exact .inl ⟨_, rfl⟩
  | noRegex short failed => exact .inr ⟨_, _, _, _, failed, rfl⟩
  | unknown absent lists => exact .inl (worded.listed lists)
  | refused known ran quotes =>
      obtain ⟨entry, present, rfl⟩ := exists_entry known
      obtain ⟨source, told⟩ := worded.faults entry present _ _ _ _ ran
      cases quotes with
      | quoted => exact .inl ⟨_, rfl⟩
      | speechless silent => cases told.symm.trans silent

/-- Loading a configuration that was read comes to a script with a rule for every rule of the
configuration, or to what is reported of the rule that decides. Either way the factories that were
called are those of the rules up to the one that decides, in their order. What is reported is a
complaint about the configuration, unless a report cannot be put into words or the engine fails. -/
theorem loadScript_all_or_nothing [Journal World] [Regex.Engine] (registry : Registry World)
    {data : Value} {config : EditConfig} (read : EditConfig.parse data = .ok config)
    (world : World) :
    ∃ outcome calls after, registry.Loading config world outcome calls after ∧
      registry.loadScript config world = (outcome, after) ∧
      (∃ ended, registry.recorded.loadScript config ([], world) = (ended, calls, after) ∧
        ∀ fault, ended = .error fault ↔ outcome = .error fault) ∧
      (∀ script, outcome = .ok script → script.rules.length = config.rules.length) ∧
      (registry.Worded → Regex.Engine.Reports →
        ∀ fault, outcome = .error fault → ∃ cause, fault = .load cause) := by
  obtain ⟨outcome, calls, after, loading⟩ :=
    exists_loading (EditConfig.wellRead_parse read) registry world
  refine ⟨outcome, calls, after, loading, loadScript_of_loading loading,
    loading_recorded loading, ?_, ?_⟩
  · rintro script rfl
    cases loading with
    | loaded few makes => exact length_of_makesAll makes
  · intro worded reports fault failed
    cases loading with
    | tooMany =>
        cases failed
        exact ⟨_, rfl⟩
    | loaded => cases failed
    | refused few parts makes refused =>
        obtain ⟨cause, rfl⟩ | ⟨text, ignoreCase, kind, message, unread, -⟩ := worded.makes refused
        · cases failed
          exact ⟨cause, rfl⟩
        · exact absurd unread (reports _ _ _ _)

instance : Journal (List LogEntry) := ⟨fun entry entries => entries ++ [entry]⟩

def commas : Registry (List LogEntry) where
  factories := [(.string "types/comma",
    fun _ => pure ((Literal.mk (.ofString ",") false).pattern.mapValues toValue))]

def keeping (patterns : List (List (Value × Value))) : Value :=
  .dict [(.string "rules", .list (patterns.map fun entries =>
    .dict [(.string "pattern", .dict entries), (.string "keep", .bool true)]))]

def emptySecond : Value :=
  keeping [[(.string "type_url", .string "types/comma")], [(.string "Literal", .string "")],
    [(.string "type_url", .string "types/comma")]]

theorem worded_commas : commas.Worded where
  urls entry member := by
    rw [List.mem_singleton.mp member]
    rfl
  faults entry member config world fault after failed := by
    rw [List.mem_singleton.mp member] at failed
    cases failed

theorem reports_machine : Regex.Engine.Reports := by
  intro source ignoreCase kind message failed
  simp only [Regex.compile, Regex.Engine.compile] at failed
  cases parsed : Regex.Expression.parse source ignoreCase <;> rw [parsed] at failed <;> cases failed

/-- The factory is called for the rule before the empty literal, and for none behind it. -/
theorem loading_emptySecond :
    let config : EditConfig := ⟨[⟨.custom ⟨"types/comma", []⟩, .keep⟩,
      ⟨.builtIn "Literal" (.string "") false, .keep⟩, ⟨.custom ⟨"types/comma", []⟩, .keep⟩]⟩
    EditConfig.parse emptySecond = .ok config ∧
    commas.Loading config []
      (.error (.load (.invalidConfig (some "Literal pattern must not be empty"))))
      [⟨"types/comma", []⟩] [] ∧
    commas.Worded ∧ Regex.Engine.Reports ∧
      ∃ cause, (commas.loadScript config []).1 = .error (.load cause) := by
  intro config
  have read : EditConfig.parse emptySecond = .ok config := rfl
  obtain ⟨outcome, calls, after, loading, loaded, ⟨ended, recorded, -⟩, -, told⟩ :=
    loadScript_all_or_nothing commas read []
  cases recorded
  have refused : (commas.loadScript config []).1 = outcome := congrArg Prod.fst loaded
  cases loaded
  obtain ⟨cause, same⟩ := told worded_commas reports_machine _ rfl
  exact ⟨read, loading, worded_commas, reports_machine, cause, refused.trans (congrArg _ same)⟩

def missing (key : Value) : Registry (List LogEntry) :=
  ⟨[(.string "types/comma", fun _ => throw (.noKey key))]⟩

theorem loadScript_missing {key : Value} (long : key.isTooLong = true) :
    ((missing key).loadScript ⟨[⟨.custom ⟨"types/comma", []⟩, .keep⟩]⟩ []).1 =
      .error tooLong := by
  have silent : (Fault.noKey key).told = .error tooLong := if_pos long
  have makes : (missing key).Makes [] (.custom ⟨"types/comma", []⟩) (.error tooLong) [] :=
    .refused rfl rfl (.speechless silent)
  have few : [(⟨.custom ⟨"types/comma", []⟩, .keep⟩ : RuleConfig)].length ≤ Limits.rules := by
    decide
  rw [loadScript_of_loading (.refused few (List.nil_append _).symm .nil makes)]
  rfl

def numbered : Registry (List LogEntry) :=
  ⟨[(.int 5, fun _ => pure ((Literal.mk (.ofString ",") false).pattern.mapValues toValue))]⟩

/-- What is reported cannot be put into words where a factory complains of a key with too many
digits, and where the registered URLs are no text. Then the configuration is not complained of. -/
theorem loadScript_speechless :
    let config : EditConfig := ⟨[⟨.custom ⟨"types/comma", []⟩, .keep⟩]⟩
    EditConfig.parse (keeping [[(.string "type_url", .string "types/comma")]]) = .ok config ∧
    ((missing (.int (Text.Numeral.writingBound : Nat))).loadScript config []).1 = .error tooLong ∧
    (numbered.loadScript config []).1 = .error (.unjoinable 0 .text "int") :=
  ⟨rfl, loadScript_missing (by decide +kernel), rfl⟩

end Registry

end Wording

end SpanEdit
