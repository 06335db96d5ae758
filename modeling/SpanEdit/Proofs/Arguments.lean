import SpanEdit.CommandLine.Settings
import SpanEdit.Eff

/-!
What arguments can ask for. An option never has another argument than a text or the empty list that
a lone separator may leave, and a script is never given together with a replacement.
-/

namespace SpanEdit.CommandLine

variable [Dialect]

def IsArgument (value : Option Value) : Prop :=
  ∀ given, value = some given → ∃ text, given = Settings.argument text

theorem isArgument_none : IsArgument none := nofun

theorem isArgument_some (text : String) : IsArgument (some (Settings.argument text)) := by
  intro given same
  exact ⟨text, (Option.some.inj same).symm⟩

namespace Settings

structure Plain (settings : Settings) : Prop where
  expression : IsArgument settings.expression
  script : IsArgument settings.script
  replacement : IsArgument settings.replacement

theorem plain_empty : Plain empty := ⟨isArgument_none, isArgument_none, isArgument_none⟩

variable {settings later : Settings}

theorem Plain.set (plain : settings.Plain) {flag : Flag} {text : String}
    (changed : settings.set flag text = .ok later) : later.Plain := by
  obtain ⟨expression, script, replacement⟩ := plain
  cases flag with
  | expression =>
      simp only [Settings.set] at changed
      split at changed
      · cases changed
      · cases changed
        exact ⟨isArgument_some text, script, replacement⟩
  | script =>
      simp only [Settings.set] at changed
      split at changed
      · cases changed
      · cases changed
        exact ⟨expression, isArgument_some text, replacement⟩
  | replace =>
      cases changed
      exact ⟨expression, script, isArgument_some text⟩
  | help | find | regex | ignoreCase | verbose =>
      cases changed
      exact ⟨expression, script, replacement⟩

theorem Plain.setAll (plain : settings.Plain) {flags : List (Flag × String)} {wantsHelp : Bool}
    (changed : settings.setAll flags = .ok (later, wantsHelp)) : later.Plain := by
  fun_induction Settings.setAll settings flags with
  | case1 settings =>
      cases changed
      exact plain
  | case2 settings text rest =>
      cases changed
      exact plain
  | case3 settings flag text rest noHelp ih =>
      obtain ⟨next, first, others⟩ := exists_of_bind_eq_ok changed
      exact ih next (plain.set first) others

end Settings

namespace Parsing

variable {parsing later : Parsing}

theorem plain_addOperand (plain : parsing.settings.Plain) (text : String) :
    (parsing.addOperand text).settings.Plain := by
  unfold addOperand
  split
  · exact ⟨plain.expression, plain.script, plain.replacement⟩
  · exact plain

theorem plain_finish (plain : parsing.settings.Plain) (words : List Word) :
    (parsing.finish words).settings.Plain := by
  unfold finish
  split
  · exact plain
  · split
    · exact plain_addOperand plain _
    · exact plain_addOperand plain _
    · exact plain_addOperand plain _
    · exact plain
    · exact plain

theorem plain_walk (plain : parsing.settings.Plain) {fuel : Nat} {words : List Word}
    {wantsHelp : Bool} (walked : parsing.walk fuel words = .ok (later, wantsHelp)) :
    later.settings.Plain := by
  fun_induction walk parsing fuel words with
  | case1 parsing words =>
      cases walked
      exact plain
  | case2 parsing words fuel operands =>
      cases walked
      exact plain_finish plain _
  | case3 parsing fuel flag short attached rest unfinished ih =>
      obtain ⟨⟨flags, usedNext⟩, clustered, continued⟩ := exists_of_bind_eq_ok walked
      obtain ⟨⟨settings, helped⟩, changed, onwards⟩ := exists_of_bind_eq_ok continued
      cases helped
      · exact ih usedNext settings (plain.setAll changed) onwards
      · cases onwards
        exact plain
  | case4 parsing fuel text rest unfinished ih => exact ih (plain_addOperand plain text) walked
  | case5 parsing fuel word rest noOption noOperand unfinished ih => exact ih plain walked
  | case6 parsing fuel unfinished =>
      cases walked
      exact plain

end Parsing

structure Settings.Asked (settings : Settings) : Prop extends settings.Plain where
  source : settings.script = none → settings.expression.isSome
  scriptEdits : settings.script.isSome → settings.replacement = none

theorem Request.asked_of_parse {arguments : List String} {settings : Settings}
    (parsed : Request.parse arguments = .ok (.edit settings)) : settings.Asked := by
  obtain ⟨words, -, afterWords⟩ := exists_of_bind_eq_ok parsed
  obtain ⟨⟨parsing, wantsHelp⟩, walked, afterWalk⟩ := exists_of_bind_eq_ok afterWords
  have plain := Parsing.plain_walk Settings.plain_empty walked
  cases wantsHelp with
  | true => cases afterWalk
  | false =>
      simp only [Bool.false_eq_true, ↓reduceIte] at afterWalk
      split at afterWalk
      · cases afterWalk
      · rename_i sourced
        split at afterWalk
        · cases afterWalk
        · obtain ⟨checked, same, given⟩ := exists_of_bind_eq_ok afterWalk
          cases given
          have own : settings = parsing.settings ∧
              ¬(parsing.settings.script.isSome && parsing.settings.replacement.isSome) = true := by
            unfold Settings.check at same
            split at same
            · cases same
            · split at same
              · cases same
              · split at same
                · cases same
                · rename_i alone
                  exact ⟨(Except.ok.inj same).symm, alone⟩
          obtain ⟨rfl, alone⟩ := own
          refine ⟨plain, fun scriptless => ?_, fun scripted => ?_⟩
          · simpa [scriptless, Option.isSome_iff_ne_none] using sourced
          · simpa [scripted] using alone

end SpanEdit.CommandLine
