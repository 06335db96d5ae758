import SpanEdit.Libraries
import SpanEdit.Proofs.CommandWork
import SpanEdit.Proofs.Compiling
import SpanEdit.Proofs.ConfigReading

/-!
A run of the command line comes to its end, refuses its arguments, or tells what is wrong with the
script or the input, but for a few causes: a zero character in a path, a lone separator in the place
of an argument, a document or a configuration whose complaint has another form, an engine that fails
without a report, and a literal that overruns in the input. Then a fault escapes.
-/

namespace SpanEdit.CommandLine

/-- A run that is done, or that tells what is wrong and gives nothing else. -/
inductive Outcome.Contained : Outcome → Prop
  | done (output reports : String) : Contained ⟨output, reports, .done⟩
  | misused (misuse : Misuse) : Contained ⟨"", misuse.report, .misused misuse⟩
  | reported (reports : String) (fault : Fault) :
      Contained ⟨"", reports ++ complaint fault, .reported fault⟩

theorem Outcome.Contained.code {outcome : Outcome} (contained : outcome.Contained) :
    outcome.ending.code? = some 0 ∨ outcome.ending.code? = some 2 := by
  cases contained with
  | done output reports => exact .inl rfl
  | misused misuse => exact .inr rfl
  | reported reports fault => exact .inr rfl

namespace Settings

variable {settings : Settings} {sources : Sources}

def scriptContent (settings : Settings) (sources : Sources) : Option File.Content :=
  match settings.script with
  | some (.tokens (.text path)) =>
      some (sources.file (File.normalPath (String.ofList path.toList)))
  | _ => none

theorem scriptContent_of_path {path : Array Char}
    (scripted : settings.script = some (.tokens (.text path))) :
    settings.scriptContent sources =
      some (sources.file (File.normalPath (String.ofList path.toList))) := by
  unfold scriptContent
  rw [scripted]

def refusal (settings : Settings) (fault : Fault) (record : Record) : Outcome :=
  let reports := shownReports settings record
  if fault.isReported then ⟨"", reports ++ complaint fault, .reported fault⟩
  else ⟨"", reports, .escaped fault⟩

theorem refusal_ends {EscapesHere : Prop} {fault : Fault} (told : Told EscapesHere fault)
    (record : Record) :
    (¬EscapesHere ∧ (settings.refusal fault record).Contained) ∨
      (EscapesHere ∧ ∃ fault', (settings.refusal fault record).ending = .escaped fault') := by
  rcases told with ⟨reported, fine⟩ | ⟨silent, escapes⟩
  · refine .inl ⟨fine, ?_⟩
    rw [refusal, if_pos reported]
    exact .reported _ fault
  · refine .inr ⟨escapes, fault, ?_⟩
    rw [refusal, silent]
    rfl

section Typeless

theorem worded_empty : (Registry.empty : Registry Record).Worded where
  urls := by simp [Registry.empty]
  faults := by simp [Registry.empty]

variable [Regex.Engine]

def EngineFails (config : EditConfig) : Prop :=
  ∃ record kind message calls after, (Registry.empty : Registry Record).Loading config record
    (.error (.engine kind message)) calls after

/-- Without types of its own a registry makes rules that read and write text. -/
theorem textual_of_makesAll {world after : Record} {configs : List RuleConfig}
    {rules : List (Rule Record)}
    (makes : (Registry.empty : Registry Record).MakesAll world configs rules after) :
    ∀ rule ∈ rules, rule.Textual := by
  induction makes with
  | nil => simp
  | @cons _ _ _ config _ _ _ _ makes replaces _ ih =>
      obtain ⟨patternConfig, action⟩ := config
      refine List.forall_mem_cons.2 ⟨⟨?_, ?_⟩, ih⟩
      · cases makes with
        | literal => exact .mapValues _ (.literal _ rfl)
        | regex short compiled =>
            exact .mapValues _ (.regex _ (by rw [Pattern.source_compile compiled]; rfl))
        | made known => cases known
      · cases replaces with
        | replace text => exact fun value same => ⟨.ofString text, (Option.some.inj same).symm, rfl⟩
        | keep => exact nofun

/-- Without types of its own a registry does not look at what was reported before. -/
theorem makes_anywhere {world after : Record} {config : PatternConfig}
    {outcome : Except Fault (Pattern Record Value)}
    (makes : (Registry.empty : Registry Record).Makes world config outcome after) (now : Record) :
    (Registry.empty : Registry Record).Makes now config outcome now := by
  cases makes with
  | literal nonempty short => exact .literal nonempty short
  | emptyLiteral => exact .emptyLiteral
  | longLiteral long => exact .longLiteral long
  | regex short compiled => exact .regex short compiled
  | badRegex short rejected => exact .badRegex short rejected
  | noRegex short failed => exact .noRegex short failed
  | longRegex long => exact .longRegex long
  | unknown absent lists => exact .unknown absent lists
  | made known => cases known
  | refused known => cases known

theorem makesAll_anywhere {world after : Record} {configs : List RuleConfig}
    {rules : List (Rule Record)}
    (makes : (Registry.empty : Registry Record).MakesAll world configs rules after)
    (now : Record) : (Registry.empty : Registry Record).MakesAll now configs rules now := by
  induction makes with
  | nil => exact .nil
  | cons makes replaces _ ih => exact .cons (makes_anywhere makes now) replaces ih

theorem loading_anywhere {world after : Record} {config : EditConfig}
    {outcome : Except Fault (Script Record)} {calls : List TypedConfig}
    (loading : (Registry.empty : Registry Record).Loading config world outcome calls after)
    (now : Record) :
    ∃ later, (Registry.empty : Registry Record).Loading config now outcome calls later := by
  cases loading with
  | tooMany many => exact ⟨_, .tooMany many⟩
  | loaded few makes => exact ⟨_, .loaded few (makesAll_anywhere makes now)⟩
  | refused few parts makes refused =>
      exact ⟨_, .refused few parts (makesAll_anywhere makes now) (makes_anywhere refused now)⟩

theorem engineFails_iff {world after : Record} {config : EditConfig}
    {outcome : Except Fault (Script Record)} {calls : List TypedConfig}
    (loading : (Registry.empty : Registry Record).Loading config world outcome calls after) :
    EngineFails config ↔ ∃ kind message, outcome = .error (.engine kind message) := by
  constructor
  · rintro ⟨record, kind, message, others, later, failing⟩
    obtain ⟨last, again⟩ := loading_anywhere failing world
    have same := (Registry.loadScript_of_loading loading).symm.trans
      (Registry.loadScript_of_loading again)
    exact ⟨kind, message, congrArg Prod.fst same⟩
  · rintro ⟨kind, message, rfl⟩
    exact ⟨world, kind, message, calls, after, loading⟩

end Typeless

section Loading

variable [Yaml.Loader]

def Document (settings : Settings) (sources : Sources) (outcome : Except Yaml.Fault Value) : Prop :=
  ∃ content text, settings.scriptContent sources = some content ∧ content.text = .ok text ∧
    Yaml.Loader.load EditConfig.levels (.text text.toArray) = outcome

theorem document_iff {content : File.Content} {text : List Char}
    (read : settings.scriptContent sources = some content) (decoded : content.text = .ok text)
    (outcome : Except Yaml.Fault Value) : settings.Document sources outcome ↔
      Yaml.Loader.load EditConfig.levels (.text text.toArray) = outcome := by
  simp [Document, read, decoded]

variable [Regex.Engine]

/-- Loading the script ends with a fault that is not told. -/
inductive LoadingEscapes (settings : Settings) (sources : Sources) : Prop
  | noPath (lone : settings.script = some (.list []))
  | zeroByte (refused : settings.scriptContent sources = some (.error .zeroByte))
  | document {cause : Yaml.Fault} (refused : settings.Document sources (.error cause))
      (special : ∀ report, cause ≠ .invalid report)
  | speechless {data : Value} (read : settings.Document sources (.ok data))
      (speechless : EditConfig.Speechless data)
  | engine {data : Value} {config : EditConfig} (read : settings.Document sources (.ok data))
      (parsed : EditConfig.parse data = .ok config) (fails : EngineFails config)
  | noExpression (scriptless : settings.script = none) (regex : settings.regex = true)
      (lone : settings.expression = some (.list []))
  | expression {source : Tokens} {kind message : String} (scriptless : settings.script = none)
      (regex : settings.regex = true) (given : settings.expression = some (.tokens source))
      (fails : Regex.compile source settings.ignoreCase = .error (.failed kind message))

def Escapes (settings : Settings) (sources : Sources) : Prop :=
  settings.LoadingEscapes sources ∨
    ∃ script record, settings.loadScript sources ⟨#[]⟩ = (.ok script, record) ∧
      (settings.ReadingEscapes sources ∨
        ∃ text, settings.readInput sources = .ok text ∧
          settings.WorkEscapes script (.text text.toArray))

inductive LoadingEnds (settings : Settings) (sources : Sources) :
    Except Fault (Script Record) × Record → Prop
  | loaded {script : Script Record} {record : Record} (suits : settings.Suits script)
      (contained : ¬settings.LoadingEscapes sources) :
      LoadingEnds settings sources (.ok script, record)
  | refused {fault : Fault} {record : Record}
      (told : Told (settings.LoadingEscapes sources) fault) :
      LoadingEnds settings sources (.error fault, record)

theorem loadingEscapes_of_script {path : Array Char}
    (scripted : settings.script = some (.tokens (.text path))) {content : File.Content}
    (read : settings.scriptContent sources = some content) :
    settings.LoadingEscapes sources ↔ content = .error .zeroByte ∨
      (∃ cause, settings.Document sources (.error cause) ∧ ∀ report, cause ≠ .invalid report) ∨
      ∃ data, settings.Document sources (.ok data) ∧ (EditConfig.Speechless data ∨
        ∃ config, EditConfig.parse data = .ok config ∧ EngineFails config) := by
  constructor
  · intro escapes
    cases escapes with
    | noPath lone => rw [scripted] at lone; cases lone
    | zeroByte refused =>
        rw [read] at refused
        exact .inl (Option.some.inj refused)
    | document refused special => exact .inr (.inl ⟨_, refused, special⟩)
    | speechless document speechless => exact .inr (.inr ⟨_, document, .inl speechless⟩)
    | engine document parsed fails => exact .inr (.inr ⟨_, document, .inr ⟨_, parsed, fails⟩⟩)
    | noExpression scriptless => rw [scripted] at scriptless; cases scriptless
    | expression scriptless => rw [scripted] at scriptless; cases scriptless
  · rintro
      (rfl | ⟨cause, refused, special⟩ | ⟨data, document, speechless | ⟨config, parsed, fails⟩⟩)
    · exact .zeroByte read
    · exact .document refused special
    · exact .speechless document speechless
    · exact .engine document parsed fails

theorem loadingEscapes_of_expression {value : Value} (scriptless : settings.script = none)
    (given : settings.expression = some value) :
    settings.LoadingEscapes sources ↔ settings.regex = true ∧ (value = .list [] ∨
      ∃ source kind message, value = .tokens source ∧
        Regex.compile source settings.ignoreCase = .error (.failed kind message)) := by
  have unread : settings.scriptContent sources = none := by
    unfold scriptContent
    rw [scriptless]
  have noDocument (outcome : Except Yaml.Fault Value) : ¬settings.Document sources outcome := by
    rintro ⟨content, text, same, -⟩
    rw [unread] at same
    cases same
  constructor
  · intro escapes
    cases escapes with
    | noPath lone => rw [scriptless] at lone; cases lone
    | zeroByte refused => rw [unread] at refused; cases refused
    | document refused => exact absurd refused (noDocument _)
    | speechless read => exact absurd read (noDocument _)
    | engine read => exact absurd read (noDocument _)
    | noExpression _ regex lone =>
        rw [given] at lone
        exact ⟨regex, .inl (Option.some.inj lone)⟩
    | expression _ regex own fails =>
        rw [given] at own
        exact ⟨regex, .inr ⟨_, _, _, Option.some.inj own, fails⟩⟩
  · rintro ⟨regex, rfl | ⟨source, kind, message, rfl, fails⟩⟩
    · exact .noExpression scriptless regex given
    · exact .expression scriptless regex given fails

theorem loadScript_of_pattern {value : Value} (scriptless : settings.script = none)
    (given : settings.expression = some value) {pattern : Pattern Record Value}
    (made : settings.pattern value = .ok pattern) (record : Record) :
    settings.loadScript sources record = (.ok ⟨[⟨pattern, settings.replacement⟩]⟩, record) := by
  unfold loadScript
  rw [scriptless, given]
  simp only [Option.getD_some, made]
  rfl

theorem loadScript_of_refusal {value : Value} (scriptless : settings.script = none)
    (given : settings.expression = some value) {fault : Fault}
    (refused : settings.pattern value = .error fault) (record : Record) :
    settings.loadScript sources record = (.error fault, record) := by
  unfold loadScript
  rw [scriptless, given]
  simp only [Option.getD_some, refused]
  rfl

variable {path : Array Char} {text : List Char}

theorem loadScript_of_read (scripted : settings.script = some (.tokens (.text path)))
    (decoded : (sources.file (File.normalPath (String.ofList path.toList))).text = .ok text)
    (record : Record) : ∃ now, settings.loadScript sources record =
      (Registry.empty : Registry Record).loadYaml (.tokens (.text text.toArray)) now := by
  refine ⟨⟨record.entries.push (.scriptRead (File.normalPath (String.ofList path.toList)))⟩, ?_⟩
  unfold loadScript Registry.loadFile
  rw [scripted]
  simp only [decoded]
  rfl

theorem loadScript_of_unread (scripted : settings.script = some (.tokens (.text path)))
    {fault : Fault}
    (unread : (sources.file (File.normalPath (String.ofList path.toList))).text = .error fault)
    (record : Record) : ∃ now, settings.loadScript sources record = (.error fault, now) := by
  refine ⟨⟨record.entries.push (.scriptRead (File.normalPath (String.ofList path.toList)))⟩, ?_⟩
  unfold loadScript Registry.loadFile
  rw [scripted]
  simp only [unread]
  rfl

theorem loading_of_unread (scripted : settings.script = some (.tokens (.text path)))
    {fault : Fault}
    (unread : (sources.file (File.normalPath (String.ofList path.toList))).text = .error fault)
    (record : Record) : LoadingEnds settings sources (settings.loadScript sources record) := by
  obtain ⟨now, loads⟩ := loadScript_of_unread scripted unread record
  rw [loads]
  refine .refused ((told_of_unread unread).iff ?_)
  have noDocument (outcome : Except Yaml.Fault Value) : ¬settings.Document sources outcome := by
    rintro ⟨content, text, same, decoded, -⟩
    rw [scriptContent_of_path scripted] at same
    cases same
    rw [unread] at decoded
    cases decoded
  simp [loadingEscapes_of_script scripted (scriptContent_of_path scripted), noDocument]

variable [Dialect]

/-- A configuration loads into a script, or is complained of, unless the engine fails. -/
theorem loading_of_config (asked : settings.Asked)
    (scripted : settings.script = some (.tokens (.text path))) {config : EditConfig}
    (wellRead : ∀ rule ∈ config.rules, rule.WellRead)
    (escapes_iff : settings.LoadingEscapes sources ↔ EngineFails config) (record : Record) :
    LoadingEnds settings sources
      ((Registry.empty : Registry Record).loadScript config record) := by
  obtain ⟨outcome, calls, after, loading⟩ :=
    Registry.exists_loading wellRead (Registry.empty : Registry Record) record
  rw [engineFails_iff loading] at escapes_iff
  rw [Registry.loadScript_of_loading loading]
  cases loading with
  | tooMany => exact .refused (.inl ⟨rfl, by simp [escapes_iff]⟩)
  | loaded few makes =>
      exact .loaded (suits_of_textual asked scripted (textual_of_makesAll makes))
        (by simp [escapes_iff])
  | refused few parts makes refused =>
      obtain ⟨cause, rfl⟩ | ⟨text, ignoreCase, kind, message, -, rfl⟩ := worded_empty.makes refused
      · exact .refused (.inl ⟨rfl, by simp [escapes_iff, Fault.leaving]⟩)
      · exact .refused (.inr ⟨rfl, by simp [escapes_iff, Fault.leaving]⟩)

theorem loading_of_data (asked : settings.Asked)
    (scripted : settings.script = some (.tokens (.text path))) {data : Value}
    (loaded : Yaml.Loader.load EditConfig.levels (.text text.toArray) = .ok data)
    (escapes_iff : settings.LoadingEscapes sources ↔ EditConfig.Speechless data ∨
      ∃ config, EditConfig.parse data = .ok config ∧ EngineFails config)
    (record : Record) : LoadingEnds settings sources
      ((Registry.empty : Registry Record).loadYaml (.tokens (.text text.toArray)) record) := by
  have reading := EditConfig.parse_reading data
  simp only [Registry.loadYaml, EditConfig.ofYaml, loaded]
  generalize parsed : EditConfig.parse data = outcome at reading escapes_iff ⊢
  cases reading with
  | accepted sound config =>
      refine loading_of_config asked scripted (EditConfig.wellRead_parse parsed) ?_ record
      simpa [sound] using escapes_iff
  | refused sound cause =>
      exact .refused (.inl ⟨rfl, by simp [escapes_iff, sound, refuse]⟩)
  | derailed speechless wording =>
      refine .refused (.inr ⟨?_, escapes_iff.2 (.inl speechless)⟩)
      rcases wording with ⟨_ | _⟩ | _ <;> rfl

theorem loading_of_document (asked : settings.Asked)
    (scripted : settings.script = some (.tokens (.text path)))
    (decoded : (sources.file (File.normalPath (String.ofList path.toList))).text = .ok text)
    (record : Record) : LoadingEnds settings sources (settings.loadScript sources record) := by
  have readable : sources.file (File.normalPath (String.ofList path.toList)) ≠
      .error .zeroByte := by
    intro zero
    rw [zero] at decoded
    cases decoded
  have read : settings.scriptContent sources = some _ := scriptContent_of_path scripted
  have escapes_iff := loadingEscapes_of_script scripted read
  simp only [document_iff read decoded, readable, false_or] at escapes_iff
  obtain ⟨now, loads⟩ := loadScript_of_read scripted decoded record
  rw [loads]
  cases loaded : Yaml.Loader.load EditConfig.levels (.text text.toArray) with
  | error cause =>
      have escapes_special : settings.LoadingEscapes sources ↔
          ∀ report, cause ≠ .invalid report := by
        simp [escapes_iff, loaded]
      simp only [Registry.loadYaml, EditConfig.ofYaml, loaded]
      -- A malformed document is told; what the construction of a value refuses is not.
      refine .refused (Told.iff ?_ escapes_special.symm)
      cases cause with
      | invalid report => exact .inl ⟨rfl, fun special => special report rfl⟩
      | codePoint | notInteger | notFraction | emptyNumeral | notBoolean | notMoment
      | momentNotText | calendar | other => exact .inr ⟨rfl, nofun⟩
  | ok data =>
      refine loading_of_data asked scripted loaded ?_ now
      simp [escapes_iff, loaded]

theorem loading_of_regex (asked : settings.Asked) {value : Value}
    (scriptless : settings.script = none) (given : settings.expression = some value)
    (form : value = .list [] ∨ ∃ chars, value = .tokens (.text chars))
    (regex : settings.regex = true) (record : Record) :
    LoadingEnds settings sources (settings.loadScript sources record) := by
  have escapes_iff : settings.LoadingEscapes sources ↔ _ :=
    loadingEscapes_of_expression scriptless given
  obtain rfl | ⟨chars, rfl⟩ := form
  · obtain ⟨fault, refused, silent⟩ : ∃ fault, settings.pattern (.list []) = .error fault ∧
        fault.isReported = false := by
      cases flag : settings.ignoreCase <;> simp only [pattern, regex, flag] <;>
        exact ⟨_, rfl, rfl⟩
    rw [loadScript_of_refusal scriptless given refused]
    exact .refused (.inr ⟨silent, escapes_iff.2 ⟨regex, .inl rfl⟩⟩)
  · simp only [regex, true_and, reduceCtorEq, false_or, Value.tokens.injEq, ↓existsAndEq]
      at escapes_iff
    cases compiled : Regex.compile (.text chars) settings.ignoreCase with
    | ok expression =>
        have made : settings.pattern (.tokens (.text chars)) =
            .ok ((expression.pattern.labelled
              (.regex (.text chars) (.bool settings.ignoreCase))).mapValues toValue) := by
          rw [pattern, if_pos regex, Pattern.regexOf_of_compiled compiled]
          rfl
        have sameKind : expression.source.kind = .text := by
          rw [Pattern.source_compile compiled]
          rfl
        rw [loadScript_of_pattern scriptless given made]
        refine .loaded (suits_of_pattern asked (.mapValues _ (.labelled _ (.regex _ sameKind)))) ?_
        simp [escapes_iff, compiled]
    | error refusal =>
        have refused : settings.pattern (.tokens (.text chars)) =
            .error (refusal.fault (.text chars)) := by
          rw [pattern, if_pos regex, Pattern.regexOf_of_refused compiled]
          rfl
        rw [loadScript_of_refusal scriptless given refused]
        cases refusal with
        | rejected report => exact .refused (.inl ⟨rfl, by simp [escapes_iff, compiled]⟩)
        | failed kind message => exact .refused (.inr ⟨rfl, by simp [escapes_iff, compiled]⟩)

theorem loading_of_literal (asked : settings.Asked) {value : Value}
    (scriptless : settings.script = none) (given : settings.expression = some value)
    (form : value = .list [] ∨ ∃ chars, value = .tokens (.text chars))
    (plain : settings.regex = false) (record : Record) :
    LoadingEnds settings sources (settings.loadScript sources record) := by
  have fine : ¬settings.LoadingEscapes sources := by
    rw [loadingEscapes_of_expression scriptless given, plain]
    simp
  obtain rfl | ⟨chars, rfl⟩ := form
  · have refusal : settings.pattern (.list []) = .error (.pattern (.notTokens "list")) := by
      simp only [pattern, plain]
      rfl
    rw [loadScript_of_refusal scriptless given refusal]
    exact .refused (.inl ⟨rfl, fine⟩)
  · obtain ⟨made, same, library⟩ :=
      @Pattern.library_literalOf Record (.text chars) (.bool settings.ignoreCase)
    have compiled : settings.pattern (.tokens (.text chars)) = .ok (made.mapValues toValue) := by
      simp only [pattern, plain, Bool.false_eq_true, ↓reduceIte, same]
      rfl
    rw [loadScript_of_pattern scriptless given compiled]
    exact .loaded (suits_of_pattern asked (.mapValues _ library)) fine

theorem loading_of_expression (asked : settings.Asked) (scriptless : settings.script = none)
    (record : Record) : LoadingEnds settings sources (settings.loadScript sources record) := by
  obtain ⟨value, given⟩ := Option.isSome_iff_exists.1 (asked.source scriptless)
  have isArgument := asked.expression
  rw [given] at isArgument
  have form := form_of_isArgument isArgument
  cases mode : settings.regex with
  | true => exact loading_of_regex asked scriptless given form mode record
  | false => exact loading_of_literal asked scriptless given form mode record

theorem loading_ends (asked : settings.Asked) (record : Record) :
    LoadingEnds settings sources (settings.loadScript sources record) := by
  rcases given : settings.script with _ | value
  · exact loading_of_expression asked given record
  · have isArgument := asked.script
    rw [given] at isArgument
    obtain rfl | ⟨path, rfl⟩ := form_of_isArgument isArgument
    · unfold loadScript
      rw [given]
      exact .refused (.inr ⟨rfl, .noPath given⟩)
    · cases decoded : (sources.file (File.normalPath (String.ofList path.toList))).text with
      | ok text => exact loading_of_document asked given decoded record
      | error fault => exact loading_of_unread given decoded record

end Loading

section Running

variable [Yaml.Loader] [Regex.Engine]

theorem run_of_worked {script : Script Record} {record later : Record} {text : List Char}
    {output : String} (loaded : settings.loadScript sources ⟨#[]⟩ = (.ok script, record))
    (read : settings.readInput sources = .ok text)
    (worked : settings.work script text record = (.ok output, later)) :
    settings.run sources = ⟨output, shownReports settings later, .done⟩ := by
  unfold run
  rw [loaded]
  simp only [read, worked]

theorem escapes_of_refused {fault : Fault} {record : Record}
    (refused : settings.loadScript sources ⟨#[]⟩ = (.error fault, record)) :
    settings.LoadingEscapes sources ↔ settings.Escapes sources := by
  constructor
  · exact .inl
  · rintro (escapes | ⟨script, later, same, -⟩)
    · exact escapes
    · rw [refused] at same
      cases same

theorem escapes_of_loaded {script : Script Record} {record : Record}
    (loaded : settings.loadScript sources ⟨#[]⟩ = (.ok script, record))
    (contained : ¬settings.LoadingEscapes sources) :
    settings.ReadingEscapes sources ∨ (∃ text, settings.readInput sources = .ok text ∧
      settings.WorkEscapes script (.text text.toArray)) ↔ settings.Escapes sources := by
  constructor
  · exact fun escapes => .inr ⟨script, record, loaded, escapes⟩
  · rintro (escapes | ⟨other, later, same, escapes⟩)
    · exact absurd escapes contained
    · rw [loaded] at same
      cases same
      exact escapes

theorem run_of_loaded {script : Script Record} {record : Record}
    (loaded : settings.loadScript sources ⟨#[]⟩ = (.ok script, record))
    (suits : settings.Suits script) (contained : ¬settings.LoadingEscapes sources) :
    (¬settings.Escapes sources ∧ (settings.run sources).Contained) ∨
      (settings.Escapes sources ∧ ∃ fault, (settings.run sources).ending = .escaped fault) := by
  rw [← escapes_of_loaded loaded contained]
  obtain ⟨text, read, fine⟩ | ⟨fault, unread, told⟩ := reading_ends settings sources
  · obtain ⟨output, later, worked, free⟩ | ⟨fault, later, failed, escapes⟩ :=
      work_ends suits text record
    · rw [run_of_worked loaded read worked]
      refine .inl ⟨?_, .done output _⟩
      rintro (escapes | ⟨other, again, escapes⟩)
      · exact fine escapes
      · rw [read] at again
        cases again
        exact free escapes
    · refine .inr ⟨.inr ⟨text, read, escapes⟩, fault, ?_⟩
      unfold run
      rw [loaded]
      simp only [read, failed]
  · have ran : settings.run sources = settings.refusal fault record := by
      unfold run
      rw [loaded]
      simp only [unread]
      rfl
    rw [ran]
    refine refusal_ends (told.iff ⟨.inl, ?_⟩) record
    rintro (escapes | ⟨text, read, -⟩)
    · exact escapes
    · rw [unread] at read
      cases read

variable [Dialect]

theorem run_ends (asked : settings.Asked) (sources : Sources) :
    (¬settings.Escapes sources ∧ (settings.run sources).Contained) ∨
      (settings.Escapes sources ∧ ∃ fault, (settings.run sources).ending = .escaped fault) := by
  have loading : settings.LoadingEnds sources _ := loading_ends asked ⟨#[]⟩
  rcases loaded : settings.loadScript sources ⟨#[]⟩ with ⟨outcome, record⟩
  rw [loaded] at loading
  cases loading with
  | loaded suits contained => exact run_of_loaded loaded suits contained
  | @refused fault _ told =>
      have ran : settings.run sources = settings.refusal fault record := by
        unfold run
        rw [loaded]
        rfl
      rw [ran]
      exact refusal_ends (told.iff (escapes_of_refused loaded)) record

end Running

end Settings

def Escapes [Regex.Engine] [Yaml.Loader] [Dialect] (arguments : List String)
    (sources : Sources) : Prop :=
  ∃ settings, Request.parse arguments = .ok (.edit settings) ∧ settings.Escapes sources

def dated : Sources := ⟨fun _ => .ok (Text.Utf8.encode "rules: 2001-13-45".toList), []⟩

end SpanEdit.CommandLine
