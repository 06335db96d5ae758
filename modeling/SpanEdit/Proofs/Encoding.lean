import SpanEdit.Proofs.PrefixCode
import SpanEdit.Proofs.Rewriting

/-!
Scripts of literals: on text and on bytes they do to the tokens what their rules do to a list, so a
script for encoded text does to encoded text what the script does to the text.
-/

namespace SpanEdit

variable {World τ : Type} [DecidableEq τ]

def Tokens.ofChars (chars : List Char) : Tokens := .text chars.toArray

def Tokens.ofBytes (bytes : List UInt8) : Tokens := .bytes bytes.toArray

structure Tokens.Made (make : List τ → Tokens) (kind : Kind) : Prop where
  injective : Function.Injective make
  kinds : ∀ list, (make list).kind = kind
  size : ∀ list, (make list).size = list.length
  slice : ∀ list start stop,
    (make list).slice start stop = make ((list.drop start).take (stop - start))
  append : ∀ first second, make first ++ make second = make (first ++ second)
  empty : make [] = .empty kind

theorem Tokens.made_ofChars : Made ofChars .text where
  injective first second same := by simpa [ofChars] using same
  kinds _ := rfl
  size _ := rfl
  slice list start stop := by simp [ofChars, Tokens.slice]
  append first second := by simp [ofChars]
  empty := rfl

theorem Tokens.made_ofBytes : Made ofBytes .bytes where
  injective first second same := by simpa [ofBytes] using same
  kinds _ := rfl
  size _ := rfl
  slice list start stop := by simp [ofBytes, Tokens.slice]
  append first second := by simp [ofBytes]
  empty := rfl

def Script.literals (make : List τ → Tokens) (rules : List (LiteralRule τ)) : Script World :=
  ⟨rules.map fun rule => ⟨Literal.pattern ⟨make rule.value, false⟩,
    rule.replacement.map fun text => .tokens (make text)⟩⟩

namespace Script

variable {make : List τ → Tokens} {kind : Kind} (made : Tokens.Made make kind)
  (rules : List (LiteralRule τ)) (tokens : List τ)

include made

theorem scan_literal (value : List τ) (position : Nat) (world : World) :
    (Literal.pattern ⟨make value, false⟩).scan (make tokens) position world =
      (.ok (if value <+: tokens.drop position then
        some ⟨(position + value.length : Nat), make value⟩ else none), world) := by
  have same : (make tokens).kind = (make value).kind := by rw [made.kinds, made.kinds]
  have window : (make tokens).slice position (position + (make value).size) =
      make ((tokens.drop position).take value.length) := by
    rw [made.slice, made.size, Nat.add_sub_cancel_left]
  simp only [Literal.pattern, requireKind, if_pos same, Eff.bind_apply, Eff.pure_apply,
    Literal.scan?, Literal.form, Literal.window, window]
  simp only [Bool.false_eq_true, ↓reduceIte, made.size, made.injective.eq_iff,
    List.prefix_iff_eq_take, @eq_comm _ value]
  split
  · rename_i begins
    rw [begins]
  · rfl

theorem first_literals (position : Nat) (world : World) :
    Rule.first (make tokens) position (literals make rules).rules world =
      (.ok ((LiteralRule.first rules (tokens.drop position)).map fun rule =>
        (rule.replacement.map fun text => .tokens (make text),
          ((position + rule.value.length : Nat) : Int))), world) := by
  simp only [literals]
  induction rules with
  | nil => rfl
  | cons rule rest ih =>
      rw [List.map_cons, Rule.first, Eff.bind_apply, scan_literal made, LiteralRule.first,
        List.find?_cons]
      by_cases begins : rule.value <+: tokens.drop position
      · simp only [begins, ↓reduceIte, List.isPrefixOf_iff_prefix.mpr begins]
        rfl
      · have others : rule.value.isPrefixOf (tokens.drop position) = false := by
          rw [Bool.eq_false_iff, ne_eq, List.isPrefixOf_iff_prefix]
          exact begins
        simp only [begins, ↓reduceIte, others]
        exact ih

omit made [DecidableEq τ] in
theorem written_literal (make : List τ → Tokens) (rule : LiteralRule τ) :
    Rule.written (rule.replacement.map fun text => .tokens (make text)) (make rule.value) =
      make rule.written := by
  obtain ⟨value, _ | replacement⟩ := rule <;> rfl

theorem rewrite_literals {position : Nat} (inside : position ≤ tokens.length) (world : World) :
    (literals make rules).rewrite (make tokens) position world =
      (.ok ⟨make (LiteralRule.rewrite rules (tokens.drop position)).1,
        (LiteralRule.rewrite rules (tokens.drop position)).2.map make⟩, world) := by
  induction position using forwards tokens.length with
  | step position later =>
      by_cases unfinished : position < tokens.length
      · have within : position < (make tokens).size := by rwa [made.size]
        have found := first_literals made rules tokens position world
        rcases LiteralRule.first_cases rules (tokens.drop position) with
          ⟨rule, rest, first, nonempty, whole⟩ | idle
        · have consumes : 0 < rule.value.length := List.length_pos_iff.mpr nonempty
          have fits : rule.value.length ≤ tokens.length - position := by
            rw [← List.length_drop, ← whole, List.length_append]
            exact Nat.le_add_right _ _
          have after : tokens.drop (position + rule.value.length) = rest := by
            rw [← List.drop_drop, ← whole, List.drop_left]
          have claim : (make tokens).slice position (position + rule.value.length) =
              make rule.value := by
            rw [made.slice, Nat.add_sub_cancel_left, ← whole, List.take_left]
          have further := later unfinished (position + rule.value.length) (by omega) (by omega)
          rw [first] at found
          rcases rewrite_step _ within found with ⟨_, _, ⟨⟩, -, stepped⟩ | ⟨still, -⟩
          · rw [stepped, Int.toNat_natCast, Eff.bind_ok further, after, claim, written_literal,
              LiteralRule.rewrite_claiming first nonempty whole, ← made.append]
            rfl
          · have behind := still _ _ rfl
            omega
        · have further := later unfinished (position + 1) (Nat.lt_succ_self position) unfinished
          have here := List.drop_eq_getElem_cons unfinished
          have token : (make tokens).token position = make [tokens[position]] := by
            rw [Tokens.token, made.slice, Nat.add_sub_cancel_left, here]
            rfl
          rcases rewrite_step _ within found with ⟨replacement, stop, is, ahead, -⟩ | ⟨-, stepped⟩
          · obtain ⟨rule, first, same⟩ := Option.map_eq_some_iff.mp is
            cases same
            rw [idle rule first] at ahead
            exact absurd ahead (Int.lt_irrefl _)
          · rw [here] at idle ⊢
            rw [stepped, Eff.bind_ok further, LiteralRule.rewrite_copying idle, token,
              Rewriting.copying, made.append]
            rfl
      · have ended : tokens.drop position = [] := List.drop_eq_nil_of_le (by omega)
        rw [rewrite, if_neg (by rwa [made.size]), ended, LiteralRule.rewrite, made.empty,
          made.kinds]
        rfl

omit [DecidableEq τ] in
theorem fits_literals (rule : Rule World) (member : rule ∈ (literals make rules).rules) :
    rule.Fits (make tokens) := by
  obtain ⟨own, -, rfl⟩ := List.mem_map.mp member
  refine fits_literal _ rfl ?_ fun value is => ?_
  · show (make own.value).kind = _
    rw [made.kinds, made.kinds]
  · obtain ⟨text, -, rfl⟩ := Option.map_eq_some_iff.mp is
    exact ⟨make text, rfl, by rw [made.kinds, made.kinds]⟩

theorem apply_literals [Journal World] (world : World) :
    ((literals make rules).apply (make tokens) world).1 =
        .ok (make (LiteralRule.rewrite rules tokens).1) ∧
      (literals make rules).find (make tokens) world =
        (.ok ((LiteralRule.rewrite rules tokens).2.map make), world) := by
  obtain ⟨rewriting, segments, ran, listed, covers⟩ :=
    segments_pattern (fits_literals made rules tokens) world
  have same := rewrite_literals made rules tokens (Nat.zero_le _) world
  rw [ran, List.drop_zero] at same
  obtain rfl := Except.ok.inj (congrArg Prod.fst same)
  refine ⟨covers.joined (apply_of_segments listed), ?_⟩
  have claimed : Rule.claims segments = (LiteralRule.rewrite rules tokens).2.map make :=
    covers.claims
  rw [find, Eff.bind_ok listed, ← claimed]
  rfl

omit made in
/-- Literal editing commutes with UTF-8. -/
theorem apply_encoded [Journal World] (rules : List (LiteralRule Char)) (text : List Char)
    (world : World) :
    ∃ (output : List Char) (claims : List (List Char)),
      ((literals .ofChars rules).apply (.ofChars text) world).1 = .ok (.ofChars output) ∧
      ((literals .ofBytes (LiteralRule.encoded rules)).apply (.ofBytes (Text.Utf8.encode text))
        world).1 = .ok (.ofBytes (Text.Utf8.encode output)) ∧
      (literals .ofChars rules).find (.ofChars text) world =
        (.ok (claims.map .ofChars), world) ∧
      (literals .ofBytes (LiteralRule.encoded rules)).find (.ofBytes (Text.Utf8.encode text))
        world = (.ok (claims.map fun claim => .ofBytes (Text.Utf8.encode claim)), world) := by
  have plain := apply_literals Tokens.made_ofChars rules text world
  have bytes := apply_literals Tokens.made_ofBytes (LiteralRule.encoded rules)
    (Text.Utf8.encode text) world
  rw [LiteralRule.rewrite_encoded, List.map_map] at bytes
  exact ⟨_, _, plain.1, bytes.1, plain.2, bytes.2⟩

end Script

end SpanEdit
