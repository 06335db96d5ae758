import SpanEdit.Proofs.CommandRun
import SpanEdit.Proofs.Decoding

/-!
An edit of a file, from the bytes that it holds to what is printed.
-/

namespace SpanEdit.CommandLine

def Outcome.Prints (outcome : Outcome) (script : Script Record) (text : List Char) : Prop :=
  ∀ world result, (script.apply (.text text.toArray) world).1 = .ok result →
    outcome.output = result.string ∧ outcome.ending = .done

variable {arguments : List String} {settings : Settings} {sources : Sources} {path : String}
  {text : List Char} {script : Script Record} {record : Record}

theorem Settings.readInput_encoded (given : settings.inputPath = some path)
    (content : sources.file path = .ok (Text.Utf8.encode text)) :
    settings.readInput sources = .ok (Text.unifyLineEnds text) := by
  unfold readInput
  rw [given]
  simp only [content]
  exact File.decode_encode text

section Printing

variable [Regex.Engine] [Yaml.Loader] [Dialect]

theorem Settings.run_prints (asked : settings.Asked) (edits : settings.find = false)
    (loaded : settings.loadScript sources ⟨#[]⟩ = (.ok script, record))
    (read : settings.readInput sources = .ok text) :
    (settings.run sources).Prints script text := by
  intro world result applied
  have loading : settings.LoadingEnds sources _ := loading_ends asked ⟨#[]⟩
  rw [loaded] at loading
  cases loading with
  | loaded suits contained =>
      -- Loading and reading leave reports behind, which an edit does not look at.
      obtain ⟨later, worked⟩ := work_of_applied edits
        (apply_steady suits applied (settings.afterReading text record))
      rw [run_of_worked loaded read worked]
      exact ⟨rfl, rfl⟩

/-- A file is edited with its line ends unified: what is printed is what the script makes of that
text, and of the text itself if it has no carriage return. Where a script changes nothing, the text
is printed exactly if it has none. -/
theorem run_prints_unified (parsed : Request.parse arguments = .ok (.edit settings))
    (edits : settings.find = false) (given : settings.inputPath = some path)
    (content : sources.file path = .ok (Text.Utf8.encode text))
    (loaded : settings.loadScript sources ⟨#[]⟩ = (.ok script, record)) :
    let outcome := run arguments sources
    let read := Text.unifyLineEnds text
    outcome.Prints script read ∧ ('\r' ∉ text → outcome.Prints script text) ∧
      ∀ world, (script.apply (.text read.toArray) world).1 = .ok (.text read.toArray) →
        (outcome.output = String.ofList text ↔ '\r' ∉ text) := by
  intro outcome read
  have ran : outcome = settings.run sources := by
    show run arguments sources = _
    rw [run, parsed]
  have prints : outcome.Prints script read := by
    rw [ran]
    exact Settings.run_prints (Request.asked_of_parse parsed) edits loaded
      (Settings.readInput_encoded given content)
  refine ⟨prints, fun free => ?_, fun world unchanged => ?_⟩
  · rwa [← Text.unifyLineEnds_of_not_mem free]
  · obtain ⟨printed, -⟩ := prints world _ unchanged
    have written : (Tokens.text read.toArray).string = String.ofList read := rfl
    rw [printed, written, String.ofList_inj]
    exact Text.unifyLineEnds_eq_self_iff

end Printing

def command : List String := ["-e", "x", "--replace", "y", "notes"]

def substitution : Settings :=
  { Settings.empty with
    expression := some (.string "x"), replacement := some (.string "y"), file := some "notes" }

def twoLines : List Char := ['a', '\r', '\n', 'b']

def paired : Sources := ⟨fun _ => .ok (Text.Utf8.encode twoLines), []⟩

theorem run_prints_paired :
    Request.parse command = .ok (.edit substitution) ∧
    ∃ script record, substitution.loadScript paired ⟨#[]⟩ = (.ok script, record) ∧
      (run command paired).Prints script ['a', '\n', 'b'] ∧
      ((run command paired).output = String.ofList twoLines ↔ '\r' ∉ twoLines) := by
  have parsed : Request.parse command = .ok (.edit substitution) := by
    with_unfolding_all rfl
  have given : substitution.inputPath = some "notes" := by decide +kernel
  have content : paired.file "notes" = .ok (Text.Utf8.encode twoLines) := rfl
  obtain ⟨prints, -, unchanged⟩ := run_prints_unified parsed rfl given content rfl
  refine ⟨parsed, _, _, rfl, prints, unchanged ⟨#[]⟩ ?_⟩
  with_unfolding_all rfl

/-- Nothing matches, and the carriage return is lost. -/
theorem run_loses_return :
    (run command paired).output = "a\nb" ∧
      ∃ script record, substitution.loadScript paired ⟨#[]⟩ = (.ok script, record) ∧
        ¬(run command paired).Prints script twoLines := by
  have printed : (run command paired).output = "a\nb" := by decide +kernel
  refine ⟨printed, _, _, rfl, fun prints => ?_⟩
  have same := (prints ⟨#[]⟩ (.text twoLines.toArray) ?_).1
  · rw [printed] at same
    exact absurd same (by decide +kernel)
  · with_unfolding_all rfl

end SpanEdit.CommandLine
