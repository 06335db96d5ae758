import SpanEdit.File.Fault
import SpanEdit.Value.Display
import SpanEdit.Yaml.Fault

/-!
Everything that can go wrong, by cause, and the message for each cause. A message is absent where it
would quote something that shows only its address.
-/

namespace SpanEdit

inductive PatternFault where
  | notTokens (found : String)
  | negativeLeast (least : String)
  | crossedBounds (most least : String)
  | badRegex (source : Tokens) (report : String)

inductive ConfigFault where
  | notDict (found : String)
  | rulesMissing
  | rulesNotList (found : String)
  | ruleNotDict (found : String)
  | patternMissing
  | patternNotDict (found : String)
  | variantMissing (keys : List String)
  | severalVariants
  | variantNotText (variant found : String)
  | ignoreCaseNotBool (found : String)
  | typeUrlNotText (found : String)
  | configNotDict (found : String)
  | bothActions
  | actionMissing
  | replacementNotText (found : String)
  | keepNotTrue (shown : Option String)

inductive LoadFault where
  | unknownTypeUrl (typeUrl : String) (available : List String)
  | invalidConfig (source : Option String)
  | tooManyRules (count limit : Nat)
  | patternTooLong (length limit : Nat)

/-- What no report that there is no next item can leave: a loop takes such a report for its end, and
so it turns into another fault there. -/
inductive Frame where
  | generator
  | coroutine

inductive Fault where
  /-- A pattern, as it is shown, reported a place outside the input. -/
  | contract (pattern : Option String) (offset : Nat) (position : Int) (length : Nat)
  | offsetOutside (offset : Int) (length : Nat)
  | kindMismatch (pattern input : Kind)
  /-- A segment, as it is shown, does not begin where the one before it ended, or is empty. -/
  | misplaced (segment : Option String) (start stop expected : Int)
  | adjacentUnmatched (offset : Int)
  | incomplete (stop : Int) (length : Nat)
  | pattern (cause : PatternFault)
  /-- The engine of regular expressions failed to read one. -/
  | engine (kind message : String)
  | config (cause : ConfigFault)
  | load (cause : LoadFault)
  | document (cause : Yaml.Fault)
  | file (cause : File.Fault)
  | undecodable (cause : Text.Utf8.Malformed)
  /-- Values of these types have no order. -/
  | unordered (later earlier : String)
  /-- A piece of the result is no sequence of the kind of the input. -/
  | unjoinable (index : Nat) (kind : Kind) (found : String)
  | wrongType (message : Option String)
  | wrongValue (message : String)
  | badIndex (message : String)
  | noKey (key : Value)
  | noAttribute (message : String)
  /-- There is no next item. -/
  | exhausted (message : Option String)
  /-- The report that there is no next item came out of a generator or a coroutine. -/
  | stopped (frame : Frame)
  /-- What a caller's function reports. -/
  | raised (message : String)
  /-- What a caller's function reports without a message: making that fails. -/
  | mute (cause : Fault)

def Kind.name : Kind → String
  | .text => "str"
  | .bytes => "bytes"

def Frame.name : Frame → String
  | .generator => "generator"
  | .coroutine => "coroutine"

namespace PatternFault

def message : PatternFault → String
  | .notTokens found => s!"literal must be str or bytes, got {found}"
  | .negativeLeast least => s!"at_least must be >= 0, got {least}"
  | .crossedBounds most least => s!"at_most ({most}) must be >= at_least ({least})"
  | .badRegex source report => s!"invalid regex pattern {source.quoted}: {report}"

end PatternFault

namespace ConfigFault

def variants : String := "['Literal', 'Regex']"

def message? : ConfigFault → Option String
  | .notDict found => some s!"expected dict, got {found}"
  | .rulesMissing => some "missing required field 'rules'"
  | .rulesNotList found => some s!"'rules' must be a list, got {found}"
  | .ruleNotDict found => some s!"rule must be a dict, got {found}"
  | .patternMissing => some "rule missing required field 'pattern'"
  | .patternNotDict found => some s!"pattern must be a dict, got {found}"
  | .variantMissing keys =>
      let shown := Value.enclose "[" "]" keys
      some s!"pattern must contain one of {variants} or 'type_url', got keys: {shown}"
  | .severalVariants => some s!"pattern must contain exactly one variant, got {variants}"
  | .variantNotText variant found =>
      some s!"pattern {variant} value must be a string, got {found}"
  | .ignoreCaseNotBool found => some s!"'ignore_case' must be a bool, got {found}"
  | .typeUrlNotText found => some s!"type_url must be a string, got {found}"
  | .configNotDict found => some s!"config must be a dict, got {found}"
  | .bothActions => some "exactly one of 'replace' or 'keep' must be set, got both"
  | .actionMissing => some "one of 'replace' or 'keep' is required"
  | .replacementNotText found => some s!"'replace' must be a string, got {found}"
  | .keepNotTrue shown => shown.map fun text => s!"'keep' must be true, got {text}"

end ConfigFault

namespace LoadFault

def message? : LoadFault → Option String
  | .unknownTypeUrl typeUrl available =>
      let registered :=
        if available.isEmpty then "no pattern types are registered"
        else "registered: " ++ ", ".intercalate available
      some s!"unknown pattern type_url: {Text.Quoted.string typeUrl} ({registered})"
  | .invalidConfig source => source.map fun text => s!"invalid config: {text}"
  | .tooManyRules count limit => some s!"too many rules: {count} exceeds maximum {limit}"
  | .patternTooLong length limit =>
      some s!"pattern length {length} exceeds maximum {limit}"

end LoadFault

namespace Fault

def message? : Fault → Option String
  | .contract text? offset position length =>
      text?.map fun shown =>
        s!"{shown} at offset {offset} reported position {position}, outside [{offset}, {length}]"
  | .offsetOutside offset length =>
      some s!"offset {offset} out of range for input of length {length}"
  | .kindMismatch own input =>
      some s!"cannot match a {own.name} pattern against {input.name} input"
  | .misplaced segment start stop expected =>
      segment.map fun shown =>
        s!"separator produced {shown} covering [{start}, {stop}) " ++
          s!"where offset {expected} was expected"
  | .adjacentUnmatched offset =>
      some s!"separator produced adjacent unmatched spans at offset {offset}"
  | .incomplete stop length => some s!"separator stopped at offset {stop} of {length}"
  | .pattern cause => some cause.message
  | .engine _ message => some message
  | .config cause => cause.message?
  | .load cause => cause.message?
  | .document cause => some cause.message
  | .file cause => some cause.message
  | .undecodable cause => some cause.message
  | .unordered later earlier =>
      some s!"'<' not supported between instances of '{later}' and '{earlier}'"
  | .unjoinable index .text found =>
      some s!"sequence item {index}: expected str instance, {found} found"
  | .unjoinable index .bytes found =>
      some s!"sequence item {index}: expected a bytes-like object, {found} found"
  | .wrongType message => message
  | .wrongValue message => some message
  | .badIndex message => some message
  | .noKey key => key.expression?
  | .noAttribute message => some message
  | .exhausted message => message
  | .stopped frame => some s!"{frame.name} raised StopIteration"
  | .raised message => some message
  | .mute _ => none

def leaving (frame : Frame) : Fault → Fault
  | .exhausted _ => .stopped frame
  | fault => fault

@[simp] theorem leaving_leaving (frame other : Frame) (fault : Fault) :
    (fault.leaving frame).leaving other = fault.leaving frame := by
  cases fault <;> rfl

end Fault

end SpanEdit
