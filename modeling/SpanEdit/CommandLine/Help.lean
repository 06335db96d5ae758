import SpanEdit.CommandLine.Option

/-!
What the command line tells about itself.
-/

namespace SpanEdit.CommandLine

def program : String := "recap"

def usage : String :=
  "usage: recap [-h] (-e EXPRESSION | -f SCRIPT) [--replace TEXT] [--find]\n" ++
  "             [--regex] [-i] [-v]\n" ++
  "             [file]\n"

def help : String :=
  usage ++
  "\nFind and replace patterns in text\n" ++
  "\npositional arguments:\n" ++
  "  file                  Input file (default: stdin)\n" ++
  "\noptions:\n" ++
  "  -h, --help            show this help message and exit\n" ++
  "  -e EXPRESSION, --expression EXPRESSION\n" ++
  "                        Pattern to match (literal unless --regex)\n" ++
  "  -f SCRIPT, --script SCRIPT\n" ++
  "                        YAML edit script\n" ++
  "  --replace TEXT        Replacement for --expression\n" ++
  "  --find                Print matches instead of editing\n" ++
  "  --regex               Treat --expression as an RE2 regex\n" ++
  "  -i, --ignore-case     Case-insensitive match\n" ++
  "  -v, --verbose         Debug logging on stderr\n"

def Misuse.report (misuse : Misuse) : String :=
  usage ++ s!"{program}: error: {misuse.message}\n"

end SpanEdit.CommandLine
