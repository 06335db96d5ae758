import SpanEdit.Pattern.Literal
import SpanEdit.Pattern.Regex
import SpanEdit.Pattern.Run
import SpanEdit.Value.Order

/-!
Patterns from plain values, which have to be checked first. A value that is no truth value counts as
one, and bounds may be any numbers; reports show them as they were given.
-/

namespace SpanEdit.Pattern

variable {World : Type}

def literalOf (value ignoreCase : Value) : Except Fault (Pattern World Tokens) :=
  match value with
  | .tokens tokens =>
      let literal : Literal := ⟨tokens, ignoreCase.holds⟩
      .ok (literal.pattern.labelled (.literal tokens ignoreCase))
  | value => .error (.pattern (.notTokens value.typeName))

def regexOf [Regex.Engine] (source ignoreCase : Value) : Except Fault (Pattern World Regex.Match) :=
  match source with
  | .tokens tokens =>
      match Regex.compile tokens ignoreCase.holds with
      | .ok regex => .ok (regex.pattern.labelled (.regex tokens ignoreCase))
      | .error (.rejected report) => .error (.pattern (.badRegex tokens report))
      | .error (.failed kind message) => .error (.engine kind message)
  | value =>
      if ignoreCase.holds then
        .error (.wrongType (some s!"can only concatenate str (not \"{value.typeName}\") to str"))
      else
        match value with
        | .list _ | .dict _ | .set _ =>
            .error (.wrongType (some s!"unhashable type: '{value.typeName}'"))
        | _ => .error (.wrongType none)

def boundText (value : Value) : Except Fault String := do
  return (← shown value).getD ""

def runBounds (atLeast atMost : Value) : Except Fault (Nat × Option Nat) := do
  let some least := atLeast.fraction?
    | throw (.unordered atLeast.fullTypeName (Value.int 0).fullTypeName)
  if least.numerator < 0 then
    throw (.pattern (.negativeLeast (← boundText atLeast)))
  match atMost, atMost.fraction? with
  | .null, _ => return (least.ceiling.toNat, none)
  | value, none => throw (.unordered value.fullTypeName atLeast.fullTypeName)
  | value, some most =>
      if most.less least then
        throw (.pattern (.crossedBounds (← boundText value) (← boundText atLeast)))
      return (least.ceiling.toNat, some most.ceiling.toNat)

def runOf (predicate : Tokens → Eff World Bool) (name : Option String) (atLeast atMost : Value) :
    Except Fault (Pattern World Tokens) :=
  match runBounds atLeast atMost with
  | .error fault => .error fault
  | .ok (least, most) =>
      let run : Run World := ⟨predicate, least, most⟩
      .ok ((run.pattern name).labelled (.run name atLeast atMost))

end SpanEdit.Pattern
