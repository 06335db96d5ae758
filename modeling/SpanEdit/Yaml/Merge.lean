import SpanEdit.Yaml.Document

/-!
Merging: a mapping takes over the entries of the mappings that stand under its merge keys. Its own
entries come behind those, and win over them.
-/

namespace SpanEdit.Yaml.Document

def nodeAt (document : Document) (place : Nat) : Node := document.nodes.getD place default

def isMerge (document : Document) (entry : Nat × Nat) : Bool :=
  (document.nodeAt entry.1).tag == Tag.merge

/-- The entries of a mapping after merging. A mapping met inside itself, along `path`, gives its own
entries. -/
def merged (document : Document) : (fuel : Nat) → (path : List Nat) → (place : Nat) →
    Except Fault (List (Nat × Nat))
  | 0, _, _ => .error .malformed
  | fuel + 1, path, place =>
      match (document.nodeAt place).content with
      | .mapping entries => do
          let (asking, own) := entries.partition document.isMerge
          if path.contains place then return own
          let taken ← asking.mapM fun (_, value) =>
            match (document.nodeAt value).content with
            | .sequence items => do
                let lists ← items.mapM (merged document fuel (place :: path))
                return lists.reverse.flatten
            | _ => merged document fuel (place :: path) value
          return taken.flatten ++ own
      | _ => .error .malformed

def entries (document : Document) (place : Nat) : Except Fault (List (Nat × Nat)) :=
  document.merged (document.nodes.size + 2) [] place

end SpanEdit.Yaml.Document
