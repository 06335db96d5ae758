import SpanEdit.Pattern.Run
import SpanEdit.Testing.Predicate
import SpanEdit.Testing.World

/-!
Patterns for tests: runs of digits, traced patterns, patterns that answer from a table, and one that
stops when the editor has been called often enough.
-/

namespace SpanEdit.Testing

variable {α : Type}

inductive Level where
  | scan
  | search
  | searcher

namespace Level

def kindName : Level → String
  | .scan => "TraceScan"
  | .search => "TraceSearch"
  | .searcher => "TraceSearcher"

end Level

def traced (name : String) (level : Level) (pattern : Pattern World α) : Pattern World α where
  label := .custom level.kindName (Text.Quoted.string name)
  scan tokens offset := do
    World.ask name (.scan offset)
    pattern.scan tokens offset
  reach :=
    let search (tokens : Tokens) (offset : Nat) : Eff World (Option (Found α)) := do
      World.ask name (.search offset)
      pattern.search tokens offset
    match level with
    | .scan => .scanOnly
    | .search => .searchable search
    | .searcher => .incremental search
        { Memory := pattern.finder.Memory
          start := fun tokens => do
            World.ask name .searcher
            pattern.finder.start tokens
          find := fun tokens offset => do
            (World.ask name (.find offset)).besideMemory
            pattern.finder.find tokens offset }

def tabled {World : Type} (name : String) (scans : List (Nat × Hit α))
    (searches : Option (List (Nat × Found α))) : Pattern World α where
  label := .custom (if searches.isSome then "TableSearch" else "TableScan")
    (Text.Quoted.string name)
  scan _ offset := pure (scans.lookup offset)
  reach :=
    match searches with
    | none => .scanOnly
    | some table => .searchable fun _ offset => pure (table.lookup offset)

def untilEdit (calls : Nat) (pattern : Pattern World α) : Pattern World α where
  label := .custom "UntilEdit" (Text.Quoted.string "until")
  scan tokens offset := do
    if calls ≤ (← World.calls) then return none
    else pattern.scan tokens offset
  reach := .scanOnly

end SpanEdit.Testing
