import SpanEdit.Proofs.Loading

/-!
The grammar of edit configurations. What a value says is told by relations that look at its entries
alone, and reading accepts exactly what the grammar accepts, with exactly what is said there. Of
rules that are not accepted the first one decides the complaint.
-/

namespace SpanEdit

variable {α β : Type}

inductive TypedConfig.Payload (entries : List (Value × Value)) : List (Value × Value) → Prop
  | absent : Value.lookup entries "config" = none → Payload entries []
  | given {config : List (Value × Value)} :
      Value.lookup entries "config" = some (.dict config) → Payload entries config

inductive PatternConfig.Flag (entries : List (Value × Value)) : Bool → Prop
  | absent : Value.lookup entries "ignore_case" = none → Flag entries false
  | given {ignoreCase : Bool} :
      Value.lookup entries "ignore_case" = some (.bool ignoreCase) → Flag entries ignoreCase

inductive PatternConfig.Written : Value → PatternConfig → Prop
  | custom {entries config : List (Value × Value)} {url : String} :
      Value.lookup entries "type_url" = some (.string url) → TypedConfig.Payload entries config →
      Written (.dict entries) (.custom ⟨url, config⟩)
  | literal {entries : List (Value × Value)} {text : String} {ignoreCase : Bool} :
      Value.lookup entries "type_url" = none →
      Value.lookup entries "Literal" = some (.string text) →
      Value.lookup entries "Regex" = none → Flag entries ignoreCase →
      Written (.dict entries) (.builtIn "Literal" (.string text) ignoreCase)
  | regex {entries : List (Value × Value)} {text : String} {ignoreCase : Bool} :
      Value.lookup entries "type_url" = none → Value.lookup entries "Literal" = none →
      Value.lookup entries "Regex" = some (.string text) → Flag entries ignoreCase →
      Written (.dict entries) (.builtIn "Regex" (.string text) ignoreCase)

inductive ActionConfig.Written (entries : List (Value × Value)) : ActionConfig → Prop
  | replace {text : String} : Value.lookup entries "replace" = some (.string text) →
      Value.lookup entries "keep" = none → Written entries (.replace (.string text))
  | keep : Value.lookup entries "replace" = none →
      Value.lookup entries "keep" = some (.bool true) → Written entries .keep

inductive RuleConfig.Written : Value → RuleConfig → Prop
  | rule {entries : List (Value × Value)} {value : Value} {pattern : PatternConfig}
      {action : ActionConfig} : Value.lookup entries "pattern" = some value →
      PatternConfig.Written value pattern → ActionConfig.Written entries action →
      Written (.dict entries) ⟨pattern, action⟩

inductive EditConfig.Written : Value → EditConfig → Prop
  | rules {entries : List (Value × Value)} {items : List Value} {rules : List RuleConfig} :
      Value.lookup entries "rules" = some (.list items) →
      List.Forall₂ RuleConfig.Written items rules → Written (.dict entries) ⟨rules⟩

section Lists

variable {read : α → Except Fault β} {items : List α}

theorem mapM_eq_ok_iff {values : List β} :
    items.mapM read = .ok values ↔
      List.Forall₂ (fun item value => read item = .ok value) items values := by
  induction items generalizing values with
  | nil =>
      constructor
      · rintro ⟨⟩
        exact .nil
      · rintro ⟨⟩
        rfl
  | cons item rest ih =>
      rw [List.mapM_cons]
      constructor
      · intro mapped
        obtain ⟨value, first, continued⟩ := exists_of_bind_eq_ok mapped
        obtain ⟨others, later, made⟩ := exists_of_bind_eq_ok continued
        cases made
        exact .cons first (ih.mp later)
      · intro related
        cases related with
        | cons first later =>
            rw [first, ih.mpr later]
            rfl

theorem mapM_eq_error_iff {fault : Fault} :
    items.mapM read = .error fault ↔ ∃ before item after, items = before ++ item :: after ∧
      (∀ earlier ∈ before, ∃ value, read earlier = .ok value) ∧ read item = .error fault := by
  induction items with
  | nil =>
      constructor
      · rintro ⟨⟩
      · rintro ⟨before, item, after, parts, -⟩
        simp at parts
  | cons first rest ih =>
      rw [List.mapM_cons]
      constructor
      · intro failed
        cases answer : read first with
        | error other =>
            rw [answer] at failed
            cases failed
            exact ⟨[], first, rest, rfl, nofun, answer⟩
        | ok value =>
            have later : rest.mapM read = .error fault := by
              rw [answer] at failed
              cases mapped : rest.mapM read with
              | error other =>
                  rw [mapped] at failed
                  cases failed
                  rfl
              | ok values =>
                  rw [mapped] at failed
                  cases failed
            obtain ⟨before, item, after, rfl, accepted, refused⟩ := ih.mp later
            exact ⟨first :: before, item, after, rfl,
              List.forall_mem_cons.mpr ⟨⟨value, answer⟩, accepted⟩, refused⟩
      · rintro ⟨before, item, after, parts, accepted, refused⟩
        cases before with
        | nil =>
            cases parts
            rw [refused]
            rfl
        | cons head before =>
            cases parts
            obtain ⟨⟨value, answer⟩, others⟩ := List.forall_mem_cons.mp accepted
            rw [answer, ih.mpr ⟨before, item, after, rfl, others, refused⟩]
            rfl

end Lists

theorem Value.isText_iff {value : Value} :
    value.isText = true ↔ ∃ text, value = .string text := by
  constructor
  · intro holdsText
    obtain ⟨chars, rfl⟩ := tokens_of_isText holdsText
    exact ⟨String.ofList chars.toList, by simp [string, Tokens.ofString]⟩
  · rintro ⟨text, rfl⟩
    rfl

theorem TypedConfig.parse_eq_ok_iff {entries : List (Value × Value)} {typeUrl : Value}
    {typed : TypedConfig} :
    parse entries typeUrl = .ok typed ↔
      typeUrl = .string typed.typeUrl ∧ Payload entries typed.config := by
  obtain ⟨url, config⟩ := typed
  constructor
  · intro read
    unfold parse at read
    cases text : typeUrl.text? with
    | none =>
        rw [text] at read
        cases read
    | some chars =>
        have holdsText : typeUrl.isText = true := by simp [Value.isText, text]
        obtain ⟨own, rfl⟩ := Value.isText_iff.mp holdsText
        have same : String.ofList chars.toList = own := by
          cases text
          simp
        simp only [text, same] at read
        split at read
        · cases read
          exact ⟨rfl, .absent ‹_›⟩
        · cases read
          exact ⟨rfl, .given ‹_›⟩
        · cases read
  · rintro ⟨rfl, payload⟩
    have same : String.ofList url.toList.toArray.toList = url := by simp
    cases payload with
    | absent absent => simp only [parse, Value.string, Tokens.ofString, Value.text?, absent, same]
    | given given => simp only [parse, Value.string, Tokens.ofString, Value.text?, given, same]

namespace PatternConfig

variable {entries : List (Value × Value)}

theorem parseBuiltIn_eq_ok_iff {variant : String} {value : Value} {config : PatternConfig} :
    parseBuiltIn entries variant value = .ok config ↔
      ∃ text ignoreCase, value = .string text ∧ Flag entries ignoreCase ∧
        config = .builtIn variant (.string text) ignoreCase := by
  constructor
  · intro read
    unfold parseBuiltIn at read
    split at read
    · cases read
    · rename_i holdsText
      obtain ⟨text, rfl⟩ := Value.isText_iff.mp (by simpa using holdsText)
      split at read
      · cases read
        exact ⟨text, false, rfl, .absent ‹_›, rfl⟩
      · cases read
        exact ⟨text, _, rfl, .given ‹_›, rfl⟩
      · cases read
  · rintro ⟨text, ignoreCase, rfl, flag, rfl⟩
    have holdsText : (!(Value.string text).isText) = false := rfl
    rw [parseBuiltIn, holdsText]
    cases flag with
    | absent absent => simp only [absent, Bool.false_eq_true, ↓reduceIte]
    | given given => simp only [given, Bool.false_eq_true, ↓reduceIte]

theorem written_of_parse {value : Value} {config : PatternConfig}
    (read : parse value = .ok config) : Written value config := by
  unfold parse at read
  split at read
  · split at read
    · rename_i typeUrl named
      obtain ⟨typed, typedRead, made⟩ := exists_of_bind_eq_ok read
      obtain ⟨rfl, payload⟩ := TypedConfig.parse_eq_ok_iff.mp typedRead
      cases made
      exact .custom named payload
    · rename_i unnamed
      split at read
      · rename_i value literal regex
        obtain ⟨text, ignoreCase, rfl, flag, rfl⟩ := parseBuiltIn_eq_ok_iff.mp read
        exact .literal unnamed literal regex flag
      · rename_i value literal regex
        obtain ⟨text, ignoreCase, rfl, flag, rfl⟩ := parseBuiltIn_eq_ok_iff.mp read
        exact .regex unnamed literal regex flag
      · cases read
      · obtain ⟨keys, -, refused⟩ := exists_of_bind_eq_ok read
        cases refused
  · cases read

theorem parse_of_written {value : Value} {config : PatternConfig} (written : Written value config) :
    parse value = .ok config := by
  cases written with
  | @custom entries config url named payload =>
      have typed : TypedConfig.parse entries (.string url) = .ok ⟨url, config⟩ :=
        TypedConfig.parse_eq_ok_iff.mpr ⟨rfl, payload⟩
      simp only [parse, named, typed]
      rfl
  | @literal entries text ignoreCase unnamed literal regex flag =>
      simp only [parse, unnamed, literal, regex]
      exact parseBuiltIn_eq_ok_iff.mpr ⟨text, ignoreCase, rfl, flag, rfl⟩
  | @regex entries text ignoreCase unnamed literal regex flag =>
      simp only [parse, unnamed, literal, regex]
      exact parseBuiltIn_eq_ok_iff.mpr ⟨text, ignoreCase, rfl, flag, rfl⟩

end PatternConfig

theorem ActionConfig.parse_eq_ok_iff {entries : List (Value × Value)} {config : ActionConfig} :
    parse entries = .ok config ↔ Written entries config := by
  constructor
  · intro read
    unfold parse at read
    split at read
    · cases read
    · cases read
    · rename_i replacement replace keep
      split at read
      · rename_i holdsText
        obtain ⟨text, rfl⟩ := Value.isText_iff.mp holdsText
        cases read
        exact .replace replace keep
      · cases read
    · rename_i replace keep
      cases read
      exact .keep replace keep
    · obtain ⟨text, -, refused⟩ := exists_of_bind_eq_ok read
      cases refused
  · intro written
    cases written with
    | @replace text replace keep =>
        have holdsText : (Value.string text).isText = true := rfl
        simp only [parse, replace, keep, holdsText, ↓reduceIte]
    | keep replace keep => simp only [parse, replace, keep]

theorem RuleConfig.parse_eq_ok_iff {value : Value} {config : RuleConfig} :
    parse value = .ok config ↔ Written value config := by
  constructor
  · intro read
    unfold parse at read
    split at read
    · split at read
      · cases read
      · rename_i value present
        obtain ⟨pattern, patternRead, continued⟩ := exists_of_bind_eq_ok read
        obtain ⟨action, actionRead, made⟩ := exists_of_bind_eq_ok continued
        cases made
        exact .rule present (PatternConfig.written_of_parse patternRead)
          (ActionConfig.parse_eq_ok_iff.mp actionRead)
    · cases read
  · intro written
    cases written with
    | rule present pattern action =>
        simp only [parse, present, PatternConfig.parse_of_written pattern,
          ActionConfig.parse_eq_ok_iff.mpr action]
        rfl

namespace EditConfig

variable {entries : List (Value × Value)} {items : List Value}

theorem parse_of_list (listed : Value.lookup entries "rules" = some (.list items)) :
    parse (.dict entries) = (do return ⟨← items.mapM RuleConfig.parse⟩) := by
  simp only [parse, listed]

theorem parse_eq_ok_iff {data : Value} {config : EditConfig} :
    parse data = .ok config ↔ Written data config := by
  constructor
  · intro read
    unfold parse at read
    split at read
    · split at read
      · cases read
      · cases read
      · rename_i items listed
        obtain ⟨rules, rulesRead, made⟩ := exists_of_bind_eq_ok read
        cases made
        refine .rules listed ((mapM_eq_ok_iff.mp rulesRead).imp fun item rule => ?_)
        exact RuleConfig.parse_eq_ok_iff.mp
      · cases read
    · cases read
  · intro written
    cases written with
    | rules listed rules =>
        have read := mapM_eq_ok_iff.mpr (rules.imp fun item rule => RuleConfig.parse_eq_ok_iff.mpr)
        rw [parse_of_list listed, read]
        rfl

def only (item : Value) : Value := .dict [(.string "rules", .list [item])]

theorem parse_eq_error_iff (listed : Value.lookup entries "rules" = some (.list items))
    {fault : Fault} :
    parse (.dict entries) = .error fault ↔ items.mapM RuleConfig.parse = .error fault := by
  rw [parse_of_list listed]
  cases items.mapM RuleConfig.parse with
  | error other =>
      constructor
      · rintro ⟨⟩
        rfl
      · rintro ⟨⟩
        rfl
  | ok rules =>
      constructor
      · rintro ⟨⟩
      · rintro ⟨⟩

theorem parse_only_eq_error_iff {item : Value} {fault : Fault} :
    parse (only item) = .error fault ↔ RuleConfig.parse item = .error fault := by
  have listed : Value.lookup [(.string "rules", .list [item])] "rules" = some (.list [item]) := rfl
  rw [only, parse_eq_error_iff listed, mapM_eq_error_iff]
  constructor
  · rintro ⟨before, other, after, parts, -, refused⟩
    obtain ⟨rfl, rfl, rfl⟩ : before = [] ∧ item = other ∧ after = [] := by
      cases before <;> simp_all
    exact refused
  · intro refused
    exact ⟨[], item, [], rfl, nofun, refused⟩

/-- Reading accepts exactly what the grammar accepts, with what is said there. Where there is a list
of rules, the complaint is the one about the first rule that is not accepted, as if that rule stood
alone. -/
theorem parse_accepts_grammar (data : Value) :
    (∀ config, parse data = .ok config ↔ Written data config) ∧
    ∀ entries items, data = .dict entries → Value.lookup entries "rules" = some (.list items) →
      ∀ fault, parse data = .error fault ↔ ∃ before item after,
        items = before ++ item :: after ∧
        (∀ earlier ∈ before, ∃ rule, RuleConfig.Written earlier rule) ∧
        parse (only item) = .error fault := by
  refine ⟨fun config => parse_eq_ok_iff, ?_⟩
  rintro entries items rfl listed fault
  simp only [parse_eq_error_iff listed, mapM_eq_error_iff, parse_only_eq_error_iff,
    RuleConfig.parse_eq_ok_iff]

def oneAccepted : List Value :=
  [.dict [(.string "pattern", .dict [(.string "Literal", .string "a")]),
    (.string "keep", .bool true)], .dict [], .null]

theorem parse_oneAccepted :
    Value.lookup [(.string "rules", .list oneAccepted)] "rules" = some (.list oneAccepted) ∧
    parse (.dict [(.string "rules", .list oneAccepted)]) = .error (.config .patternMissing) := by
  have listed : Value.lookup [(.string "rules", .list oneAccepted)] "rules" =
      some (.list oneAccepted) := rfl
  refine ⟨listed, ((parse_accepts_grammar _).2 _ _ rfl listed _).mpr ?_⟩
  refine ⟨[_], .dict [], [.null], rfl, ?_, rfl⟩
  intro earlier member
  rw [List.mem_singleton] at member
  subst member
  exact ⟨_, .rule rfl (.literal rfl rfl rfl (.absent rfl)) (.keep rfl rfl)⟩

end EditConfig

end SpanEdit
