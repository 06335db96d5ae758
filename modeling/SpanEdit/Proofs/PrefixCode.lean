import SpanEdit.Text.Utf8

/-!
Literal rules on lists, before and after a text is encoded. UTF-8 is a prefix code, so a rule
applies to the bytes at the beginning of a character exactly if it applies to the text there; the
other bytes of a character begin no character, and are copied.
-/

namespace SpanEdit

structure LiteralRule (τ : Type) where
  value : List τ
  replacement : Option (List τ)

namespace LiteralRule

variable {τ υ : Type} [DecidableEq τ]

def map (change : List τ → List υ) (rule : LiteralRule τ) : LiteralRule υ :=
  ⟨change rule.value, rule.replacement.map change⟩

def written (rule : LiteralRule τ) : List τ := rule.replacement.getD rule.value

def first (rules : List (LiteralRule τ)) (tokens : List τ) : Option (LiteralRule τ) :=
  rules.find? fun rule => rule.value.isPrefixOf tokens

def rewrite (rules : List (LiteralRule τ)) (tokens : List τ) : List τ × List (List τ) :=
  match tokens with
  | [] => ([], [])
  | token :: rest =>
      match first rules (token :: rest) with
      | some ⟨head :: more, replacement⟩ =>
          let later := rewrite rules (rest.drop more.length)
          (replacement.getD (head :: more) ++ later.1, (head :: more) :: later.2)
      | _ =>
          let later := rewrite rules rest
          (token :: later.1, later.2)
termination_by tokens.length

variable {rules : List (LiteralRule τ)} {tokens rest : List τ}

def Idle (rules : List (LiteralRule τ)) (tokens : List τ) : Prop :=
  ∀ rule, first rules tokens = some rule → rule.value = []

theorem of_first {rule : LiteralRule τ} (found : first rules tokens = some rule) :
    rule ∈ rules ∧ rule.value <+: tokens := by
  rw [first] at found
  have begins := List.find?_some found
  exact ⟨List.mem_of_find?_eq_some found, List.isPrefixOf_iff_prefix.mp begins⟩

theorem first_cases (rules : List (LiteralRule τ)) (tokens : List τ) :
    (∃ rule rest, first rules tokens = some rule ∧ rule.value ≠ [] ∧
      rule.value ++ rest = tokens) ∨ Idle rules tokens := by
  by_cases idle : Idle rules tokens
  · exact .inr idle
  · simp only [Idle, Classical.not_forall] at idle
    obtain ⟨rule, found, nonempty⟩ := idle
    obtain ⟨-, rest, whole⟩ := of_first found
    exact .inl ⟨rule, rest, found, nonempty, whole⟩

theorem rewrite_claiming {rule : LiteralRule τ} (found : first rules tokens = some rule)
    (nonempty : rule.value ≠ []) (whole : rule.value ++ rest = tokens) :
    rewrite rules tokens =
      (rule.written ++ (rewrite rules rest).1, rule.value :: (rewrite rules rest).2) := by
  subst whole
  obtain ⟨_ | ⟨head, more⟩, replacement⟩ := rule
  · exact absurd rfl nonempty
  · rw [List.cons_append] at found ⊢
    rw [rewrite, found]
    simp only [List.drop_left, written]

theorem rewrite_copying {token : τ} (idle : Idle rules (token :: rest)) :
    rewrite rules (token :: rest) =
      (token :: (rewrite rules rest).1, (rewrite rules rest).2) := by
  rw [rewrite]
  rcases found : first rules (token :: rest) with _ | ⟨_ | ⟨head, more⟩, replacement⟩
  · rfl
  · rfl
  · exact absurd (idle _ found) (List.cons_ne_nil head more)

end LiteralRule

namespace Text.Utf8

theorem encode_cons (char : Char) (rest : List Char) :
    encode (char :: rest) = String.utf8EncodeChar char ++ encode rest := rfl

theorem encode_append (text more : List Char) :
    encode (text ++ more) = encode text ++ encode more :=
  List.flatMap_append

theorem encode_eq_nil {text : List Char} : encode text = [] ↔ text = [] := by
  cases text with
  | nil => exact iff_of_true rfl rfl
  | cons first rest => simp [encode, String.utf8EncodeChar_ne_nil]

theorem char_eq_of_append {first second : Char} {rest more : List UInt8}
    (same : String.utf8EncodeChar first ++ rest = String.utf8EncodeChar second ++ more) :
    first = second := by
  have decoded (char : Char) (bytes : List UInt8) :
      (String.utf8EncodeChar char ++ bytes).toByteArray.utf8DecodeChar? 0 = some char := by
    rw [List.toByteArray_append]
    exact ByteArray.utf8DecodeChar?_utf8EncodeChar_append
  have read := decoded first rest
  rw [same, decoded second more] at read
  exact (Option.some.inj read).symm

/-- One encoded text begins with another exactly if the texts do. -/
theorem encode_prefix_iff (value text : List Char) :
    encode value <+: encode text ↔ value <+: text := by
  induction value generalizing text with
  | nil => exact iff_of_true (List.nil_prefix) List.nil_prefix
  | cons first rest ih =>
      cases text with
      | nil => simp [encode, String.utf8EncodeChar_ne_nil]
      | cons second more =>
          have step : encode rest <+: encode more ↔ rest <+: more := ih more
          rw [List.cons_prefix_cons, ← step]
          constructor
          · rintro ⟨others, whole⟩
            have joined : String.utf8EncodeChar first ++ (encode rest ++ others) =
                String.utf8EncodeChar second ++ encode more := by
              rw [← List.append_assoc]
              exact whole
            obtain rfl := char_eq_of_append joined
            exact ⟨rfl, (List.prefix_append_right_inj _).mp ⟨others, whole⟩⟩
          · rintro ⟨rfl, later⟩
            exact (List.prefix_append_right_inj _).mpr later

theorem utf8EncodeChar_cases (char : Char) :
    ∃ first rest, String.utf8EncodeChar char = first :: rest ∧ first.IsUTF8FirstByte ∧
      ∀ byte ∈ rest, ¬byte.IsUTF8FirstByte := by
  rcases bytes : String.utf8EncodeChar char with _ | ⟨first, rest⟩
  · exact absurd bytes String.utf8EncodeChar_ne_nil
  · have begins (index : Nat) (inside : index < (first :: rest).length) :
        ((first :: rest)[index]).IsUTF8FirstByte ↔ index = 0 := by
      simp only [← bytes]
      exact UInt8.isUTF8FirstByte_getElem_utf8EncodeChar
    refine ⟨first, rest, rfl, (begins 0 (Nat.succ_pos _)).mpr rfl, fun byte member starts => ?_⟩
    obtain ⟨index, inside, rfl⟩ := List.getElem_of_mem member
    exact absurd ((begins (index + 1) (Nat.succ_lt_succ inside)).mp starts) (Nat.succ_ne_zero index)

end Text.Utf8

namespace LiteralRule

open Text.Utf8

variable (rules : List (LiteralRule Char))

def encoded (rules : List (LiteralRule Char)) : List (LiteralRule UInt8) :=
  rules.map (map encode)

theorem first_encoded (text : List Char) :
    first (encoded rules) (encode text) = (first rules text).map (map encode) := by
  rw [encoded, first, List.find?_map, first]
  congr 2
  funext rule
  rw [Bool.eq_iff_iff, List.isPrefixOf_iff_prefix]
  exact (List.isPrefixOf_iff_prefix.trans (encode_prefix_iff rule.value text))

theorem written_map_encode (rule : LiteralRule Char) :
    (rule.map encode).written = encode rule.written := by
  obtain ⟨value, _ | replacement⟩ := rule <;> rfl

theorem idle_encoded {rules : List (LiteralRule Char)} {text : List Char} (idle : Idle rules text) :
    Idle (encoded rules) (encode text) := by
  intro rule found
  rw [first_encoded] at found
  obtain ⟨own, is, rfl⟩ := Option.map_eq_some_iff.mp found
  exact encode_eq_nil.mpr (idle own is)

/-- Inside a character only rules for nothing apply. -/
theorem idle_inside {byte : UInt8} (inside : ¬byte.IsUTF8FirstByte) (rest : List UInt8) :
    Idle (encoded rules) (byte :: rest) := by
  intro rule found
  obtain ⟨member, begins⟩ := of_first found
  obtain ⟨⟨value, replacement⟩, -, rfl⟩ := List.mem_map.mp member
  cases value with
  | nil => rfl
  | cons head more =>
      obtain ⟨first, others, bytes, starts, -⟩ := utf8EncodeChar_cases head
      have whole : first :: (others ++ encode more) <+: byte :: rest := by
        rw [← List.cons_append, ← bytes]
        exact begins
      rw [(List.cons_prefix_cons.mp whole).1] at starts
      exact absurd starts inside

theorem rewrite_inside {bytes : List UInt8} (inside : ∀ byte ∈ bytes, ¬byte.IsUTF8FirstByte)
    (rest : List UInt8) :
    rewrite (encoded rules) (bytes ++ rest) =
      (bytes ++ (rewrite (encoded rules) rest).1, (rewrite (encoded rules) rest).2) := by
  induction bytes with
  | nil => rfl
  | cons byte bytes ih =>
      obtain ⟨first, others⟩ := List.forall_mem_cons.mp inside
      rw [List.cons_append, rewrite_copying (idle_inside rules first _), ih others]
      rfl

/-- Rewriting commutes with encoding. -/
theorem rewrite_encoded (text : List Char) :
    rewrite (encoded rules) (encode text) =
      (encode (rewrite rules text).1, (rewrite rules text).2.map encode) := by
  induction length : text.length using Nat.strongRecOn generalizing text with
  | ind size later =>
      rcases first_cases rules text with ⟨rule, rest, found, nonempty, whole⟩ | idle
      · have shorter : rest.length < size := by
          have positive := List.length_pos_iff.mpr nonempty
          rw [← length, ← whole, List.length_append]
          omega
        have own : first (encoded rules) (encode text) = some (rule.map encode) := by
          rw [first_encoded, found]
          rfl
        have bytes : encode rule.value ++ encode rest = encode text := by
          rw [← encode_append, whole]
        rw [rewrite_claiming own (fun empty => nonempty (encode_eq_nil.mp empty)) bytes,
          rewrite_claiming found nonempty whole, later _ shorter rest rfl, written_map_encode]
        simp only [encode_append, List.map_cons]
        rfl
      · cases text with
        | nil => simp [encode, rewrite]
        | cons char rest =>
            obtain ⟨first, others, bytes, -, inside⟩ := utf8EncodeChar_cases char
            have whole (text : List Char) :
                encode (char :: text) = first :: (others ++ encode text) := by
              rw [encode_cons, bytes, List.cons_append]
            have bytesIdle := idle_encoded idle
            have shorter : rest.length < size := by
              rw [← length]
              exact Nat.lt_succ_self _
            rw [whole] at bytesIdle ⊢
            rw [rewrite_copying bytesIdle, rewrite_inside rules inside, rewrite_copying idle,
              later _ shorter rest rfl, whole]

end LiteralRule

end SpanEdit
