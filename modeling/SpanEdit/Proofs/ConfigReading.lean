import SpanEdit.Config.Parse
import SpanEdit.Proofs.Ordering

/-!
Reading a configuration gives the configuration or a complaint about it, unless the complaint itself
cannot be put into words: the keys of a pattern without a variant cannot be sorted, or a value that
would be quoted holds an integer too long to be written.
-/

namespace SpanEdit

variable {α β : Type}

inductive Fault.IsOfWording : Fault → Prop
  | order {fault : Fault} (order : fault.IsOfOrder) : IsOfWording fault
  | tooLong : IsOfWording (.wrongValue Text.Numeral.tooLongToWrite)

inductive Reading (Speechless : Prop) : Except Fault α → Prop
  | accepted (sound : ¬Speechless) (value : α) : Reading Speechless (.ok value)
  | refused (sound : ¬Speechless) (cause : ConfigFault) : Reading Speechless (refuse cause)
  | derailed (speechless : Speechless) {fault : Fault} (wording : fault.IsOfWording) :
      Reading Speechless (.error fault)

namespace Reading

variable {Speechless Later : Prop} {outcome : Except Fault α}

theorem iff (reading : Reading Speechless outcome) (same : Speechless ↔ Later) :
    Reading Later outcome := by
  rwa [← propext same]

theorem bind {next : α → Except Fault β} (reading : Reading Speechless outcome)
    (later : ∀ value, outcome = .ok value → Reading Later (next value)) :
    Reading (Speechless ∨ (∃ value, outcome = .ok value) ∧ Later) (outcome >>= next) := by
  cases reading with
  | accepted sound value =>
      refine (later value rfl).iff ⟨fun then_ => .inr ⟨⟨value, rfl⟩, then_⟩, ?_⟩
      rintro (first | ⟨-, then_⟩)
      · exact absurd first sound
      · exact then_
  | refused sound cause =>
      refine .refused ?_ cause
      rintro (first | ⟨⟨value, accepted⟩, -⟩)
      · exact sound first
      · cases accepted
  | derailed speechless wording => exact .derailed (.inl speechless) wording

theorem map (reading : Reading Speechless outcome) (change : α → β) :
    Reading Speechless (outcome >>= fun value => pure (change value)) := by
  cases reading with
  | accepted sound value => exact .accepted sound _
  | refused sound cause => exact .refused sound cause
  | derailed speechless wording => exact .derailed speechless wording

/-- The first item that is not accepted decides. -/
theorem mapM {read : α → Except Fault β} {Mute : α → Prop}
    (each : ∀ item, Reading (Mute item) (read item)) (items : List α) :
    Reading (∃ before item after, items = before ++ item :: after ∧
      (∀ earlier ∈ before, ∃ value, read earlier = .ok value) ∧ Mute item) (items.mapM read) := by
  induction items with
  | nil =>
      refine .accepted ?_ []
      rintro ⟨before, item, after, parts, -⟩
      simp at parts
  | cons first rest ih =>
      rw [List.mapM_cons]
      refine ((each first).bind fun value _ => ih.map (value :: ·)).iff ⟨?_, ?_⟩
      · rintro (mute | ⟨accepted, before, item, after, rfl, fine, mute⟩)
        · exact ⟨[], first, rest, rfl, by simp, mute⟩
        · exact ⟨first :: before, item, after, rfl, List.forall_mem_cons.2 ⟨accepted, fine⟩, mute⟩
      · rintro ⟨before, item, after, parts, fine, mute⟩
        cases before with
        | nil =>
            cases parts
            exact .inl mute
        | cons head before =>
            cases parts
            obtain ⟨accepted, others⟩ := List.forall_mem_cons.1 fine
            exact .inr ⟨accepted, before, item, after, rfl, others, mute⟩

end Reading

theorem shown_reading (value : Value) : Reading (value.isTooLong = true) (shown value) := by
  unfold shown
  by_cases long : value.isTooLong = true
  · rw [if_pos long]
    exact .derailed long .tooLong
  · rw [if_neg long]
    exact .accepted long _

theorem TypedConfig.parse_reading (entries : List (Value × Value)) (typeUrl : Value) :
    Reading False (TypedConfig.parse entries typeUrl) := by
  unfold TypedConfig.parse
  split
  · exact .refused id _
  · split
    · exact .accepted id _
    · exact .accepted id _
    · exact .refused id _

namespace PatternConfig

def KeysSpeechless (entries : List (Value × Value)) : Prop :=
  ¬Value.Sortable (entries.map (·.1)) ∨ ∃ entry ∈ entries, entry.1.isTooLong = true

/-- A pattern that has neither a type nor a variant, and whose keys cannot be listed. -/
def Speechless (pattern : Value) : Prop :=
  ∃ entries, pattern = .dict entries ∧ Value.lookup entries "type_url" = none ∧
    Value.lookup entries "Literal" = none ∧ Value.lookup entries "Regex" = none ∧
    KeysSpeechless entries

theorem shownKeys_reading (entries : List (Value × Value)) :
    Reading (KeysSpeechless entries) (shownKeys entries) := by
  unfold shownKeys
  obtain ⟨sorted, done, kept, sortable⟩ | ⟨fault, failed, order, unsortable⟩ :=
    Value.sort_cases (entries.map (·.1))
  · rw [done]
    have each (key : Value) : Reading (key.isTooLong = true)
        (do return (← shown key).getD "") := (shown_reading key).map _
    refine (Reading.mapM each sorted).iff ⟨?_, ?_⟩
    · rintro ⟨before, key, after, rfl, -, long⟩
      have member : key ∈ entries.map (·.1) := kept.mem_iff.1 (by simp)
      obtain ⟨entry, present, rfl⟩ := List.mem_map.1 member
      exact .inr ⟨entry, present, long⟩
    · rintro (unsortable | ⟨entry, present, long⟩)
      · exact absurd sortable unsortable
      · have member : entry.1 ∈ sorted := kept.mem_iff.2 (List.mem_map_of_mem present)
        -- The first of the sorted keys that is too long is where the message fails.
        obtain ⟨key, found⟩ := Option.isSome_iff_exists.1
          (List.find?_isSome.2 ⟨entry.1, member, long⟩)
        obtain ⟨keyLong, before, after, parts, short⟩ := List.find?_eq_some_iff_append.1 found
        refine ⟨before, key, after, parts, fun earlier among => ?_, keyLong⟩
        have written : shown earlier = .ok earlier.expression? :=
          if_neg (by simpa using short earlier among)
        rw [written]
        exact ⟨_, rfl⟩
  · rw [failed]
    exact .derailed (.inl unsortable) (.order order)

theorem parseBuiltIn_reading (entries : List (Value × Value)) (variant : String) (value : Value) :
    Reading False (parseBuiltIn entries variant value) := by
  unfold parseBuiltIn
  split
  · exact .refused id _
  · split
    · exact .accepted id _
    · exact .accepted id _
    · exact .refused id _

theorem reading_of_known {entries : List (Value × Value)} {outcome : Except Fault PatternConfig}
    (reading : Reading False outcome) (known : Value.lookup entries "type_url" ≠ none ∨
      Value.lookup entries "Literal" ≠ none ∨ Value.lookup entries "Regex" ≠ none) :
    Reading (Speechless (.dict entries)) outcome := by
  refine reading.iff ⟨False.elim, ?_⟩
  rintro ⟨others, same, noType, noLiteral, noRegex, -⟩
  cases same
  obtain type | literal | regex := known
  · exact type noType
  · exact literal noLiteral
  · exact regex noRegex

theorem reading_of_unknown {entries : List (Value × Value)}
    (noType : Value.lookup entries "type_url" = none)
    (noLiteral : Value.lookup entries "Literal" = none)
    (noRegex : Value.lookup entries "Regex" = none) :
    Reading (Speechless (.dict entries))
      (do refuse (.variantMissing (← shownKeys entries)) : Except Fault PatternConfig) := by
  refine ((shownKeys_reading entries).bind fun keys _ =>
    .refused id (.variantMissing keys)).iff ⟨?_, ?_⟩
  · rintro (speechless | ⟨-, impossible⟩)
    · exact ⟨entries, rfl, noType, noLiteral, noRegex, speechless⟩
    · exact impossible.elim
  · rintro ⟨others, same, -, -, -, speechless⟩
    cases same
    exact .inl speechless

theorem parse_reading (pattern : Value) : Reading (Speechless pattern) (parse pattern) := by
  unfold parse
  split
  · rename_i entries
    cases type : Value.lookup entries "type_url" with
    | some typeUrl =>
        have typed := (TypedConfig.parse_reading entries typeUrl).map PatternConfig.custom
        exact reading_of_known typed (.inl (by simp [type]))
    | none =>
        cases literal : Value.lookup entries "Literal" with
        | some value =>
            have known : Value.lookup entries "Literal" ≠ none := by simp [literal]
            cases regex : Value.lookup entries "Regex" with
            | some other => exact reading_of_known (.refused id _) (.inr (.inl known))
            | none =>
                have read := parseBuiltIn_reading entries "Literal" value
                exact reading_of_known read (.inr (.inl known))
        | none =>
            cases regex : Value.lookup entries "Regex" with
            | some value =>
                have read := parseBuiltIn_reading entries "Regex" value
                exact reading_of_known read (.inr (.inr (by simp [regex])))
            | none => exact reading_of_unknown type literal regex
  · rename_i other
    refine .refused ?_ _
    rintro ⟨entries, same, -⟩
    exact other entries same

end PatternConfig

def ActionConfig.Speechless (entries : List (Value × Value)) : Prop :=
  Value.lookup entries "replace" = none ∧
    ∃ value, Value.lookup entries "keep" = some value ∧ value.isTooLong = true

theorem ActionConfig.parse_reading (entries : List (Value × Value)) :
    Reading (Speechless entries) (parse entries) := by
  unfold parse
  split
  · rename_i replacement value replace keep
    refine .refused ?_ _
    rintro ⟨absent, -⟩
    rw [replace] at absent
    cases absent
  · rename_i replace keep
    refine .refused ?_ _
    rintro ⟨-, value, present, -⟩
    rw [keep] at present
    cases present
  · rename_i replacement replace keep
    have sound : ¬Speechless entries := by
      rintro ⟨absent, -⟩
      rw [replace] at absent
      cases absent
    split
    · exact .accepted sound _
    · exact .refused sound _
  · rename_i replace keep
    refine .accepted ?_ _
    rintro ⟨-, value, present, long⟩
    rw [keep] at present
    cases present
    cases long
  · rename_i value notTrue replace keep
    refine ((shown_reading value).bind fun text _ => .refused id (.keepNotTrue text)).iff ⟨?_, ?_⟩
    · rintro (long | ⟨-, impossible⟩)
      · exact ⟨replace, value, keep, long⟩
      · exact impossible.elim
    · rintro ⟨-, other, present, long⟩
      rw [keep] at present
      cases present
      exact .inl long

def RuleConfig.Speechless (rule : Value) : Prop :=
  ∃ entries pattern, rule = .dict entries ∧ Value.lookup entries "pattern" = some pattern ∧
    (PatternConfig.Speechless pattern ∨
      (∃ config, PatternConfig.parse pattern = .ok config) ∧ ActionConfig.Speechless entries)

theorem RuleConfig.parse_reading (rule : Value) : Reading (Speechless rule) (parse rule) := by
  unfold parse
  split
  · rename_i entries
    cases present : Value.lookup entries "pattern" with
    | none =>
        refine .refused ?_ _
        rintro ⟨others, pattern, same, found, -⟩
        cases same
        rw [present] at found
        cases found
    | some pattern =>
        refine ((PatternConfig.parse_reading pattern).bind fun config _ =>
          (ActionConfig.parse_reading entries).map (RuleConfig.mk config)).iff ⟨?_, ?_⟩
        · exact fun speechless => ⟨entries, pattern, rfl, present, speechless⟩
        · rintro ⟨others, other, same, found, speechless⟩
          cases same
          rw [present] at found
          cases found
          exact speechless
  · rename_i other
    refine .refused ?_ _
    rintro ⟨entries, pattern, same, -⟩
    exact other entries same

namespace EditConfig

/-- The first rule that is not accepted is speechless. -/
def Speechless (data : Value) : Prop :=
  ∃ entries rules before rule after, data = .dict entries ∧
    Value.lookup entries "rules" = some (.list rules) ∧ rules = before ++ rule :: after ∧
    (∀ earlier ∈ before, ∃ config, RuleConfig.parse earlier = .ok config) ∧
    RuleConfig.Speechless rule

theorem parse_reading (data : Value) : Reading (Speechless data) (parse data) := by
  have of_rules {entries : List (Value × Value)} {outcome : Except Fault EditConfig}
      (reading : Reading False outcome)
      (known : ∀ rules, Value.lookup entries "rules" ≠ some (.list rules)) :
      Reading (Speechless (.dict entries)) outcome := by
    refine reading.iff ⟨False.elim, ?_⟩
    rintro ⟨others, rules, before, rule, after, same, found, -⟩
    cases same
    exact known rules found
  unfold parse
  split
  · rename_i entries
    split
    · rename_i absent
      exact of_rules (.refused id _) (by simp [absent])
    · rename_i null
      exact of_rules (.refused id _) (by simp [null])
    · rename_i rules present
      refine ((Reading.mapM RuleConfig.parse_reading rules).map EditConfig.mk).iff ⟨?_, ?_⟩
      · rintro ⟨before, rule, after, parts, accepted, speechless⟩
        exact ⟨entries, rules, before, rule, after, rfl, present, parts, accepted, speechless⟩
      · rintro ⟨others, list, before, rule, after, same, found, parts, accepted, speechless⟩
        cases same
        rw [present] at found
        cases found
        exact ⟨before, rule, after, parts, accepted, speechless⟩
    · rename_i value notNull notList present
      exact of_rules (.refused id _) fun rules same =>
        notList rules (Option.some.inj (present.symm.trans same))
  · rename_i other
    refine .refused ?_ _
    rintro ⟨entries, rules, before, rule, after, same, -⟩
    exact other entries same

/-- Whatever the data is, it is accepted or complained about, unless it is speechless. -/
theorem parse_answers_or_speechless (data : Value) :
    (¬Speechless data ∧ ((∃ config, parse data = .ok config) ∨
      ∃ cause, parse data = .error (.config cause))) ∨
    (Speechless data ∧ ∃ fault, parse data = .error fault ∧ fault.IsOfWording) := by
  have reading := parse_reading data
  generalize parse data = outcome at reading ⊢
  cases reading with
  | accepted sound config => exact .inl ⟨sound, .inl ⟨config, rfl⟩⟩
  | refused sound cause => exact .inl ⟨sound, .inr ⟨cause, rfl⟩⟩
  | derailed speechless wording => exact .inr ⟨speechless, _, rfl, wording⟩

/-- A pattern whose keys are a number and a text. -/
theorem parse_unsortable :
    parse (.dict [(.string "rules", .list [.dict [
      (.string "pattern", .dict [(.int 1, .string "a"), (.string "b", .string "c")]),
      (.string "keep", .bool true)]])]) = .error (.unordered "str" "int") := by
  rfl

end EditConfig

end SpanEdit
