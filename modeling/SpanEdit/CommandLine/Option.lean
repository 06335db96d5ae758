import SpanEdit.Text.Quoted

/-!
The options of the command line, how they are spelled, and what can be wrong with arguments.
-/

namespace SpanEdit.CommandLine

inductive Flag where
  | help
  | expression
  | script
  | replace
  | find
  | regex
  | ignoreCase
  | verbose
deriving DecidableEq

def spellings : List (String × Flag) :=
  [("-h", .help), ("--help", .help), ("-e", .expression), ("--expression", .expression),
    ("-f", .script), ("--script", .script), ("--replace", .replace), ("--find", .find),
    ("--regex", .regex), ("-i", .ignoreCase), ("--ignore-case", .ignoreCase), ("-v", .verbose),
    ("--verbose", .verbose)]

namespace Flag

def takesArgument : Flag → Bool
  | .expression | .script | .replace => true
  | _ => false

def name (flag : Flag) : String :=
  "/".intercalate ((spellings.filter (·.2 = flag)).map (·.1))

end Flag

inductive Misuse where
  | ambiguous (given : String) (candidates : List String)
  | argumentMissing (flag : Flag)
  | argumentIgnored (flag : Flag) (argument : String)
  | excluded (flag other : Flag)
  | sourceMissing
  | unrecognized (arguments : List String)
  | nothingToDo
  | findReplaces
  | scriptReplaces

namespace Misuse

def about (flag : Flag) (complaint : String) : String := s!"argument {flag.name}: {complaint}"

def message : Misuse → String
  | .ambiguous given candidates =>
      let shown := ", ".intercalate candidates
      s!"ambiguous option: {given} could match {shown}"
  | .argumentMissing flag => about flag "expected one argument"
  | .argumentIgnored flag argument =>
      about flag s!"ignored explicit argument {Text.Quoted.string argument}"
  | .excluded flag other => about flag s!"not allowed with argument {other.name}"
  | .sourceMissing =>
      s!"one of the arguments {Flag.expression.name} {Flag.script.name} is required"
  | .unrecognized arguments =>
      let shown := " ".intercalate arguments
      s!"unrecognized arguments: {shown}"
  | .nothingToDo => "--expression needs --replace or --find"
  | .findReplaces => "--replace cannot be combined with --find"
  | .scriptReplaces => "--replace cannot be combined with --script"

end Misuse

end SpanEdit.CommandLine
