import SpanEdit.Showing

/-!
Labels: how a pattern was put together, for messages and reports.
-/

namespace SpanEdit

inductive Label where
  | literal (value : Tokens) (ignoreCase : Value)
  | regex (source : Tokens) (ignoreCase : Value)
  | run (predicate : Option String) (atLeast atMost : Value)
  | choice (alternatives : List Label)
  | mapped (pattern : Label) (function : Option String)
  | captured (pattern : Label)
  | separated (pattern : Label)
  | scanOnly (pattern : Label)
  /-- A pattern from elsewhere, by its kind and by what it tells of itself. -/
  | custom (kind details : String)
  /-- A pattern from elsewhere that fails when it is to be shown. -/
  | mute (kind : String) (cause : Fault)

namespace Label

def kindName : Label → String
  | .literal _ _ => "Literal"
  | .regex _ _ => "Regex"
  | .run _ _ _ => "Run"
  | .choice _ => "Choice"
  | .mapped _ _ => "Mapped"
  | .captured _ => "Captured"
  | .separated _ => "SepCap"
  | .scanOnly _ => "ScanOnly"
  | .custom kind _ | .mute kind _ => kind

mutual

/-- How a message quotes the pattern. Its parts are shown one after the other, also behind one that
has no name. -/
def shown : Label → Except Fault (Option String)
  | .literal value ignoreCase => do
      let flag? ← SpanEdit.shown ignoreCase
      return flag?.map fun flag => s!"Literal(value={value.quoted}, ignore_case={flag})"
  | .regex source ignoreCase => do
      let flag? ← SpanEdit.shown ignoreCase
      return flag?.map fun flag => s!"Regex(pattern={source.quoted}, ignore_case={flag})"
  | .run predicate atLeast atMost => do
      let least? ← SpanEdit.shown atLeast
      let most? ← SpanEdit.shown atMost
      return runText? predicate least? most?
  | .choice alternatives => do
      let texts? ← shownAll alternatives
      return texts?.map fun texts => s!"Choice(alternatives={Value.tupleText texts})"
  | .mapped pattern function => do
      let text? ← shown pattern
      return mappedText? text? function
  | .captured pattern => do
      return (← shown pattern).map fun text => s!"Captured(pattern={text})"
  | .separated pattern => do
      return (← shown pattern).map fun text => s!"SepCap(pattern={text})"
  | .scanOnly pattern => do
      return (← shown pattern).map fun text => s!"ScanOnly(pattern={text})"
  | .custom kind details => .ok (some s!"{kind}({details})")
  | .mute _ cause => .error cause
where
  runText? (predicate least? most? : Option String) : Option String := do
    return s!"Run(predicate={← predicate}, at_least={← least?}, at_most={← most?})"
  mappedText? (text? function : Option String) : Option String := do
    return s!"Mapped(pattern={← text?}, fn={← function})"

def shownAll : List Label → Except Fault (Option (List String))
  | [] => .ok (some [])
  | label :: rest => do
      let text? ← shown label
      let texts? ← shownAll rest
      return text?.bind fun text => texts?.map (text :: ·)

end

def expression? (label : Label) : Option String :=
  match label.shown with
  | .ok text? => text?
  | .error _ => none

end Label

namespace Fault

def outside (pattern : Label) (offset : Nat) (position : Int) (length : Nat) : Fault :=
  (ofReport do
    let text? ← pattern.shown
    let _ ← written position
    return .contract text? offset position length).leaving .generator

@[simp] theorem leaving_outside (frame : Frame) (label : Label) (offset : Nat) (position : Int)
    (length : Nat) : (outside label offset position length).leaving frame =
      outside label offset position length :=
  leaving_leaving _ _ _

/-- What comes of the report of a place outside the input: the report itself, or what keeps it from
being made. -/
inductive Reported (label : Label) (offset : Nat) (position : Int) (length : Nat) : Fault → Prop
  | told {text? : Option String} : label.shown = .ok text? →
      Text.Numeral.isTooLong position = false →
      Reported label offset position length (.contract text? offset position length)
  | unwritten {text? : Option String} : label.shown = .ok text? →
      Text.Numeral.isTooLong position = true → Reported label offset position length tooLong
  | unshown {cause : Fault} : label.shown = .error cause →
      Reported label offset position length (cause.leaving .generator)

theorem reported_outside (label : Label) (offset : Nat) (position : Int) (length : Nat) :
    Reported label offset position length (outside label offset position length) := by
  cases text : label.shown with
  | error cause =>
      have cut : outside label offset position length = cause.leaving .generator := by
        rw [outside, text]
        rfl
      exact cut ▸ .unshown text
  | ok text? =>
      cases long : Text.Numeral.isTooLong position with
      | true =>
          have cut : outside label offset position length = tooLong := by
            rw [outside, text, written, if_pos long]
            rfl
          exact cut ▸ .unwritten text long
      | false =>
          have told : outside label offset position length =
              .contract text? offset position length := by
            rw [outside, text, written, if_neg (by simp [long])]
            rfl
          exact told ▸ .told text long

end Fault

end SpanEdit
