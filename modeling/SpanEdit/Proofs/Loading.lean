import SpanEdit.Proofs.Library
import SpanEdit.Proofs.Piecewise
import SpanEdit.ScriptFile

/-!
What a value that is read as a configuration can hold, and which of the patterns that are made from
values are patterns of the library.
-/

namespace SpanEdit

variable {World : Type}

def Regex.Refusal.fault (source : Tokens) : Refusal → SpanEdit.Fault
  | .rejected report => .pattern (.badRegex source report)
  | .failed kind message => .engine kind message

namespace Pattern

theorem library_literalOf (tokens : Tokens) (ignoreCase : Value) :
    ∃ pattern : Pattern World Tokens, literalOf (.tokens tokens) ignoreCase = .ok pattern ∧
      Library tokens.kind False pattern :=
  ⟨_, rfl, .labelled _ (.literal ⟨tokens, ignoreCase.holds⟩ rfl)⟩

variable [Regex.Engine]

theorem exists_matching {tokens : Tokens} {ignoreCase : Bool} {regex : Regex}
    (compiled : Regex.compile tokens ignoreCase = .ok regex) :
    ∃ matching, regex = ⟨tokens, ignoreCase, matching⟩ := by
  unfold Regex.compile at compiled
  cases made : Regex.Engine.compile tokens ignoreCase with
  | error refusal => rw [made] at compiled; cases compiled
  | ok matching => rw [made] at compiled; exact ⟨matching, (Except.ok.inj compiled).symm⟩

theorem source_compile {tokens : Tokens} {ignoreCase : Bool} {regex : Regex}
    (compiled : Regex.compile tokens ignoreCase = .ok regex) : regex.source = tokens := by
  obtain ⟨matching, rfl⟩ := exists_matching compiled
  rfl

theorem labelled_compile {tokens : Tokens} {ignoreCase : Bool} {regex : Regex}
    (compiled : Regex.compile tokens ignoreCase = .ok regex) :
    (regex.pattern : Pattern World Regex.Match) =
      regex.pattern.labelled (.regex tokens (.bool ignoreCase)) := by
  obtain ⟨matching, rfl⟩ := exists_matching compiled
  rfl

theorem regexOf_of_compiled {tokens : Tokens} {ignoreCase : Value} {regex : Regex}
    (compiled : Regex.compile tokens ignoreCase.holds = .ok regex) :
    (regexOf (.tokens tokens) ignoreCase : Except Fault (Pattern World Regex.Match)) =
      .ok (regex.pattern.labelled (.regex tokens ignoreCase)) := by
  simp only [regexOf, compiled]

theorem regexOf_of_refused {tokens : Tokens} {ignoreCase : Value} {refusal : Regex.Refusal}
    (refused : Regex.compile tokens ignoreCase.holds = .error refusal) :
    (regexOf (.tokens tokens) ignoreCase : Except Fault (Pattern World Regex.Match)) =
      .error (refusal.fault tokens) := by
  cases refusal <;> simp only [regexOf, refused, Regex.Refusal.fault]

end Pattern

structure Rule.Textual (rule : Rule World) : Prop where
  pattern : Library .text False rule.pattern
  replacement : ∀ value, rule.replacement = some value → value.IsOf .text

inductive PatternConfig.WellRead : PatternConfig → Prop
  | literal (chars : Array Char) (ignoreCase : Bool) :
      WellRead (.builtIn "Literal" (.tokens (.text chars)) ignoreCase)
  | regex (chars : Array Char) (ignoreCase : Bool) :
      WellRead (.builtIn "Regex" (.tokens (.text chars)) ignoreCase)
  | custom (typed : TypedConfig) : WellRead (.custom typed)

inductive ActionConfig.WellRead : ActionConfig → Prop
  | replace (chars : Array Char) : WellRead (.replace (.tokens (.text chars)))
  | keep : WellRead .keep

structure RuleConfig.WellRead (config : RuleConfig) : Prop where
  pattern : config.pattern.WellRead
  action : config.action.WellRead

section Reading

theorem Value.tokens_of_isText {value : Value} (holdsText : value.isText = true) :
    ∃ chars, value = .tokens (.text chars) := by
  unfold isText text? at holdsText
  split at holdsText
  · exact ⟨_, rfl⟩
  · cases holdsText

theorem PatternConfig.wellRead_parseBuiltIn {entries : List (Value × Value)} {variant : String}
    {value : Value} {config : PatternConfig}
    (known : variant = "Literal" ∨ variant = "Regex")
    (read : parseBuiltIn entries variant value = .ok config) : config.WellRead := by
  unfold parseBuiltIn at read
  split at read
  · cases read
  · rename_i isText
    obtain ⟨chars, rfl⟩ := Value.tokens_of_isText (by simpa using isText)
    have of_flag (ignoreCase : Bool) :
        WellRead (.builtIn variant (.tokens (.text chars)) ignoreCase) := by
      obtain rfl | rfl := known
      · exact .literal chars ignoreCase
      · exact .regex chars ignoreCase
    split at read
    · cases read
      exact of_flag _
    · cases read
      exact of_flag _
    · cases read

theorem PatternConfig.wellRead_parse {value : Value} {config : PatternConfig}
    (read : parse value = .ok config) : config.WellRead := by
  unfold parse at read
  split at read
  · split at read
    · obtain ⟨typed, -, made⟩ := exists_of_bind_eq_ok read
      cases made
      exact .custom typed
    · split at read
      · exact wellRead_parseBuiltIn (.inl rfl) read
      · exact wellRead_parseBuiltIn (.inr rfl) read
      · cases read
      · obtain ⟨keys, -, refused⟩ := exists_of_bind_eq_ok read
        cases refused
  · cases read

theorem ActionConfig.wellRead_parse {entries : List (Value × Value)} {config : ActionConfig}
    (read : parse entries = .ok config) : config.WellRead := by
  unfold parse at read
  split at read
  · cases read
  · cases read
  · split at read
    · rename_i replacement _ _ isText
      obtain ⟨chars, rfl⟩ := Value.tokens_of_isText isText
      cases read
      exact .replace chars
    · cases read
  · cases read
    exact .keep
  · obtain ⟨text, -, refused⟩ := exists_of_bind_eq_ok read
    cases refused

theorem RuleConfig.wellRead_parse {value : Value} {config : RuleConfig}
    (read : parse value = .ok config) : config.WellRead := by
  unfold parse at read
  split at read
  · split at read
    · cases read
    · obtain ⟨pattern, patternRead, afterPattern⟩ := exists_of_bind_eq_ok read
      obtain ⟨action, actionRead, made⟩ := exists_of_bind_eq_ok afterPattern
      cases made
      exact ⟨PatternConfig.wellRead_parse patternRead, ActionConfig.wellRead_parse actionRead⟩
  · cases read

theorem wellRead_mapM {values : List Value} {configs : List RuleConfig}
    (read : values.mapM RuleConfig.parse = .ok configs) : ∀ config ∈ configs, config.WellRead := by
  induction values generalizing configs with
  | nil =>
      cases read
      simp
  | cons value rest ih =>
      rw [List.mapM_cons] at read
      obtain ⟨config, first, afterFirst⟩ := exists_of_bind_eq_ok read
      obtain ⟨others, later, made⟩ := exists_of_bind_eq_ok afterFirst
      cases made
      exact List.forall_mem_cons.2 ⟨RuleConfig.wellRead_parse first, ih later⟩

theorem EditConfig.wellRead_parse {value : Value} {config : EditConfig}
    (read : parse value = .ok config) : ∀ rule ∈ config.rules, rule.WellRead := by
  unfold parse at read
  split at read
  · split at read
    · cases read
    · cases read
    · obtain ⟨rules, rulesRead, made⟩ := exists_of_bind_eq_ok read
      cases made
      exact wellRead_mapM rulesRead
    · cases read
  · cases read

end Reading

end SpanEdit
