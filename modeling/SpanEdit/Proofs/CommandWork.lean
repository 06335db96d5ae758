import SpanEdit.CommandLine.Run
import SpanEdit.Proofs.Arguments
import SpanEdit.Proofs.Loading
import SpanEdit.Proofs.ScriptRun

/-!
A script at work on the input of the command line. Reading the input fails with a fault that is
told, but for a zero character in its path. A script fails where a literal overruns, or where a lone
separator has to be written for something that was found.
-/

namespace SpanEdit.CommandLine.Settings

variable {settings : Settings} {sources : Sources}

/-- The fault is told exactly if nothing escapes. -/
def Told (Escapes : Prop) (fault : Fault) : Prop :=
  fault.isReported = true ∧ ¬Escapes ∨ fault.isReported = false ∧ Escapes

theorem told_of_unread {content : File.Content} {fault : Fault}
    (unread : content.text = .error fault) : Told (content = .error .zeroByte) fault := by
  cases content with
  | error cause =>
      cases unread
      cases cause with
      | zeroByte => exact .inr ⟨rfl, rfl⟩
      | missing | directory | notDirectory | nameTooLong => exact .inl ⟨rfl, nofun⟩
  | ok data =>
      simp only [File.Content.text, File.decode] at unread
      split at unread
      · cases unread
      · cases unread
        exact .inl ⟨rfl, nofun⟩

theorem Told.iff {First Second : Prop} {fault : Fault} (told : Told First fault)
    (same : First ↔ Second) : Told Second fault := by
  rwa [← propext same]

def ReadingEscapes (settings : Settings) (sources : Sources) : Prop :=
  ∃ path, settings.inputPath = some path ∧ sources.file path = .error .zeroByte

theorem reading_ends (settings : Settings) (sources : Sources) :
    (∃ text, settings.readInput sources = .ok text ∧ ¬settings.ReadingEscapes sources) ∨
      ∃ fault, settings.readInput sources = .error fault ∧
        Told (settings.ReadingEscapes sources) fault := by
  unfold readInput
  cases given : settings.inputPath with
  | none =>
      have fine : ¬settings.ReadingEscapes sources := by
        rintro ⟨path, same, -⟩
        rw [given] at same
        cases same
      cases decoded : File.decode sources.standardInput with
      | ok text => exact .inl ⟨text, rfl, fine⟩
      | error fault =>
          have told := @told_of_unread (.ok sources.standardInput) fault decoded
          exact .inr ⟨fault, rfl, told.iff ⟨nofun, fun escapes => absurd escapes fine⟩⟩
  | some path =>
      have escapes_iff :
          settings.ReadingEscapes sources ↔ sources.file path = .error .zeroByte := by
        simp [ReadingEscapes, given]
      cases decoded : (sources.file path).text with
      | ok text =>
          refine .inl ⟨text, decoded, ?_⟩
          rw [escapes_iff]
          intro zero
          rw [zero] at decoded
          cases decoded
      | error fault => exact .inr ⟨fault, decoded, (told_of_unread decoded).iff escapes_iff.symm⟩

/-- The script fails on the input: a literal overruns, or a lone separator has to be written for
something that was found. -/
def WorkEscapes (settings : Settings) (script : Script Record) (tokens : Tokens) : Prop :=
  script.pattern.OverrunsFrom tokens 0 ∨
    (settings.find = false ∧ settings.replacement = some (.list []) ∧
      ∃ claim claims record, script.find tokens record = (.ok (claim :: claims), record))

structure Suits (settings : Settings) (script : Script Record) : Prop where
  patterns : ∀ rule ∈ script.rules, Library .text False rule.pattern
  replacements : settings.replacement ≠ some (.list []) →
    ∀ rule ∈ script.rules, ∀ value, rule.replacement = some value → value.IsOf .text
  lone : settings.replacement = some (.list []) →
    ∀ rule ∈ script.rules, rule.replacement = some (.list [])

section Work

variable {script : Script Record}

def afterReading (settings : Settings) (text : List Char) (record : Record) : Record :=
  ⟨record.entries.push (.inputRead text.length (settings.inputPath.getD "<stdin>"))⟩

theorem work_of_find (finds : settings.find = true) (text : List Char) (record : Record) :
    settings.work script text record =
      (do return String.join ((← script.find (.text text.toArray)).map fun claim =>
        claim.string ++ "\n") : Eff Record String) (settings.afterReading text record) := by
  unfold work
  rw [if_pos finds]
  rfl

theorem work_of_edit (edits : settings.find = false) (text : List Char) (record : Record) :
    settings.work script text record =
      (do return (← script.apply (.text text.toArray)).string : Eff Record String)
        (settings.afterReading text record) := by
  unfold work
  rw [edits]
  rfl

theorem work_of_applied (edits : settings.find = false) {text : List Char} {record : Record}
    {output : Tokens}
    (applied : (script.apply (.text text.toArray) (settings.afterReading text record)).1 =
      .ok output) : ∃ later, settings.work script text record = (.ok output.string, later) := by
  rw [work_of_edit edits]
  exact ⟨_, Eff.bind_ok (Prod.ext applied rfl) _⟩

theorem work_of_failed (edits : settings.find = false) {text : List Char} {record : Record}
    {fault : Fault}
    (failed : (script.apply (.text text.toArray) (settings.afterReading text record)).1 =
      .error fault) : ∃ later, settings.work script text record = (.error fault, later) := by
  rw [work_of_edit edits]
  exact ⟨_, Eff.bind_error (Prod.ext failed rfl) _⟩

theorem apply_overruns (suits : settings.Suits script) {text : List Char}
    (overruns : script.pattern.OverrunsFrom (.text text.toArray) 0) (now : Record) :
    ∃ fault, (script.apply (.text text.toArray) now).1 = .error fault := by
  have library : Library (Tokens.text text.toArray).kind False script.pattern :=
    Script.library_pattern suits.patterns
  obtain ⟨fault, -, refused⟩ := library.contained.reports _ Rule.result_neverFails overruns now
  exact ⟨fault, refused⟩

theorem work_overruns (suits : settings.Suits script) {text : List Char}
    (overruns : script.pattern.OverrunsFrom (.text text.toArray) 0)
    {fault : Fault} (failed : ∀ now,
      script.pattern.segments (.text text.toArray) now = (.error fault, now)) (record : Record) :
    ∃ fault later, settings.work script text record = (.error fault, later) := by
  cases mode : settings.find with
  | true =>
      rw [work_of_find mode, Script.find]
      exact ⟨fault, _, Eff.bind_error (Eff.bind_error (failed _) _) _⟩
  | false =>
      obtain ⟨fault, refused⟩ := apply_overruns suits overruns (settings.afterReading text record)
      exact ⟨fault, work_of_failed mode refused⟩

variable {text : List Char} {segments : List (Segment (Option Value × Tokens))}

theorem workEscapes_iff (free : ¬script.pattern.OverrunsFrom (.text text.toArray) 0)
    (separated : script.Separated (.text text.toArray) segments) :
    settings.WorkEscapes script (.text text.toArray) ↔ settings.find = false ∧
      settings.replacement = some (.list []) ∧ Rule.claims segments ≠ [] := by
  constructor
  · rintro (overruns | ⟨edits, lone, claim, claims, record, found⟩)
    · exact absurd overruns free
    · rw [separated.find_eq] at found
      have same : Rule.claims segments = claim :: claims := by simpa using found
      exact ⟨edits, lone, by simp [same]⟩
  · rintro ⟨edits, lone, claimed⟩
    obtain ⟨claim, claims, same⟩ := List.exists_cons_of_ne_nil claimed
    refine .inr ⟨edits, lone, claim, claims, ⟨#[]⟩, ?_⟩
    rw [separated.find_eq, same]

/-- An edit fails exactly if a lone separator has to be written, whatever was reported before. -/
theorem apply_ends (suits : settings.Suits script)
    (separated : script.Separated (.text text.toArray) segments) :
    (¬(settings.replacement = some (.list []) ∧ Rule.claims segments ≠ []) ∧
        ∀ now, (script.apply (.text text.toArray) now).1 =
          .ok (.concat .text (segments.map Rule.text))) ∨
      ((settings.replacement = some (.list []) ∧ Rule.claims segments ≠ []) ∧
        ∀ now, ∃ fault, (script.apply (.text text.toArray) now).1 = .error fault) := by
  by_cases lone : settings.replacement = some (.list [])
  · by_cases unclaimed : Rule.claims segments = []
    · refine .inl ⟨fun claimed => claimed.2 unclaimed, separated.apply_eq ?_⟩
      intro tagged start stop member
      exact absurd member (Rule.claims_eq_nil_iff.1 unclaimed tagged start stop)
    · refine .inr ⟨⟨lone, unclaimed⟩, ?_⟩
      -- The separator has to be written for something, and it is no text.
      rw [Rule.claims_eq_nil_iff] at unclaimed
      push Not at unclaimed
      obtain ⟨tagged, start, stop, member⟩ := unclaimed
      obtain ⟨rule, among, own⟩ := separated.replaced tagged start stop member
      have replaced : tagged.1 = some (.list []) := own.symm.trans (suits.lone lone rule among)
      have foreign : ¬(Value.list []).IsOf (Tokens.text text.toArray).kind := by
        rintro ⟨piece, same, -⟩
        cases same
      exact separated.apply_eq_error member replaced foreign
  · refine .inl ⟨fun claimed => lone claimed.1, separated.apply_eq ?_⟩
    intro tagged start stop member value given
    obtain ⟨rule, among, own⟩ := separated.replaced tagged start stop member
    exact suits.replacements lone rule among value (own.trans given)

/-- What an edit gives does not depend on what was reported before. -/
theorem apply_steady (suits : settings.Suits script) {before : Record} {output : Tokens}
    (applied : (script.apply (.text text.toArray) before).1 = .ok output) (now : Record) :
    (script.apply (.text text.toArray) now).1 = .ok output := by
  rcases @Script.segments_cases Record script (.text text.toArray) now suits.patterns with
    ⟨overruns, -⟩ | ⟨-, segments, separated⟩
  · obtain ⟨fault, failed⟩ := apply_overruns suits overruns before
    rw [applied] at failed
    cases failed
  · obtain ⟨-, always⟩ | ⟨-, never⟩ := apply_ends suits separated
    · rw [always now, ← always before, applied]
    · obtain ⟨fault, failed⟩ := never before
      rw [applied] at failed
      cases failed

theorem work_ends (suits : settings.Suits script) (text : List Char) (record : Record) :
    (∃ output later, settings.work script text record = (.ok output, later) ∧
        ¬settings.WorkEscapes script (.text text.toArray)) ∨
      ∃ fault later, settings.work script text record = (.error fault, later) ∧
        settings.WorkEscapes script (.text text.toArray) := by
  rcases @Script.segments_cases Record script (.text text.toArray) record suits.patterns with
    ⟨overruns, fault, failed⟩ | ⟨free, segments, separated⟩
  · obtain ⟨other, later, refused⟩ := work_overruns suits overruns failed record
    exact .inr ⟨other, later, refused, .inl overruns⟩
  · have escapes_iff := @workEscapes_iff settings script text segments free separated
    cases mode : settings.find with
    | true =>
        have worked := @work_of_find settings script mode text record
        rw [Eff.bind_ok (separated.find_eq _)] at worked
        refine .inl ⟨_, _, worked, ?_⟩
        simp [escapes_iff, mode]
    | false =>
        obtain ⟨fine, always⟩ | ⟨lone, never⟩ := apply_ends suits separated
        · obtain ⟨later, worked⟩ := work_of_applied mode (always _)
          exact .inl ⟨_, later, worked, fun escapes => fine (escapes_iff.1 escapes).2⟩
        · obtain ⟨fault, failed⟩ := never (settings.afterReading text record)
          obtain ⟨later, worked⟩ := work_of_failed mode failed
          exact .inr ⟨fault, later, worked, escapes_iff.2 ⟨mode, lone⟩⟩

end Work

section Suiting

variable [Dialect]

theorem form_of_isArgument {value : Value} (isArgument : IsArgument (some value)) :
    value = .list [] ∨ ∃ chars, value = .tokens (.text chars) := by
  obtain ⟨text, rfl⟩ := isArgument value rfl
  unfold argument
  split
  · exact .inl rfl
  · exact .inr ⟨_, rfl⟩

theorem suits_of_pattern (asked : settings.Asked) {pattern : Pattern Record Value}
    (library : Library .text False pattern) :
    settings.Suits ⟨[⟨pattern, settings.replacement⟩]⟩ where
  patterns := by
    intro rule member
    rw [List.mem_singleton.mp member]
    exact library
  replacements := by
    intro plain rule member value given
    rw [List.mem_singleton.mp member] at given
    have isArgument := asked.replacement
    simp only at given
    rw [given] at isArgument plain
    obtain rfl | ⟨chars, rfl⟩ := form_of_isArgument isArgument
    · exact absurd rfl plain
    · exact ⟨.text chars, rfl, rfl⟩
  lone := by
    intro lone rule member
    rw [List.mem_singleton.mp member]
    exact lone

theorem suits_of_textual (asked : settings.Asked) {value : Value}
    (scripted : settings.script = some value) {script : Script Record}
    (textual : ∀ rule ∈ script.rules, rule.Textual) : settings.Suits script where
  patterns rule member := (textual rule member).pattern
  replacements _ rule member := (textual rule member).replacement
  lone given := by
    have none := asked.scriptEdits (by simp [scripted])
    rw [none] at given
    cases given

end Suiting

end SpanEdit.CommandLine.Settings
