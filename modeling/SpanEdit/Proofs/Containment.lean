import SpanEdit.Proofs.Overrun
import SpanEdit.Proofs.Splicing
import SpanEdit.Script
import SpanEdit.Testing.World

/-!
Patterns of the library stay inside the input, but for literals that overrun. Such a literal needs a
capital with two small letters in the input.
-/

namespace SpanEdit

variable {World α β γ : Type}

/-- Only the dotted capital has more than one small letter. -/
theorem Text.length_lowerChar (before : List Char) (char : Char) (after : List Char) :
    (lowerChar before char after).length = if char = 'İ' then 2 else 1 := by
  unfold lowerChar
  split
  · rename_i ascii
    have different : char ≠ 'İ' := by
      rintro rfl
      exact absurd ascii (by decide)
    rw [if_neg different]
    rfl
  · split
    · rename_i sigma
      subst sigma
      rfl
    · split <;> simp [*]

theorem Text.length_lowerAfter (before text : List Char) :
    (lowerAfter before text).length = text.length + text.count 'İ' := by
  induction text generalizing before with
  | nil => rfl
  | cons char after ih =>
      rw [lowerAfter, List.length_append, length_lowerChar, ih, List.count_cons, List.length_cons]
      by_cases dotted : char = 'İ'
      · simp [dotted]
        omega
      · simp [dotted]
        omega

def Tokens.dots : Tokens → Nat
  | .text chars => chars.toList.count 'İ'
  | .bytes _ => 0

theorem Tokens.size_lower (tokens : Tokens) : tokens.lower.size = tokens.size + tokens.dots := by
  cases tokens with
  | text chars =>
      simp only [lower, size, dots, Text.lower, List.size_toArray, Text.length_lowerAfter,
        Array.length_toList]
  | bytes data => simp only [lower, size, dots, Array.size_map, Nat.add_zero]

theorem Tokens.dotted_of_slice {tokens : Tokens} {start stop : Nat}
    (dotted : 0 < (tokens.slice start stop).dots) :
    ∃ chars : Array Char, tokens = .text chars ∧ 'İ' ∈ chars := by
  cases tokens with
  | text chars =>
      have member := List.count_pos_iff.mp dotted
      obtain ⟨index, inside, same⟩ :=
        Array.mem_extract_iff_getElem.mp (Array.mem_toList_iff.mp member)
      exact ⟨chars, rfl, same ▸ Array.getElem_mem _⟩
  | bytes data => exact absurd dotted (Nat.lt_irrefl 0)

/-- Where a literal overruns, the input is a text with a dotted capital. -/
theorem Overruns.dotted {pattern : Pattern World α} {tokens : Tokens} {offset : Nat}
    (overruns : Overruns tokens offset pattern) (inside : offset ≤ tokens.size) :
    ∃ chars : Array Char, tokens = .text chars ∧ 'İ' ∈ chars := by
  induction overruns with
  | @literal literal ignoresCase cut same =>
      have sizes := congrArg Tokens.size same
      rw [Tokens.size_lower, Tokens.size_lower, Literal.window, Tokens.size_slice] at sizes
      have dotted : 0 < (tokens.slice offset (offset + literal.value.size)).dots := by omega
      exact Tokens.dotted_of_slice dotted
  | scanOnly _ ih => exact ih
  | choice _ _ ih => exact ih
  | mapped _ _ _ ih => exact ih
  | captured _ ih => exact ih
  | mapValues _ _ ih => exact ih
  | labelled _ _ ih => exact ih

variable {pattern : Pattern World α} {tokens : Tokens}

namespace Pattern

/-- The outcome is a report if scanning from the offset comes to where a literal overruns, and
otherwise a result. -/
def Settles (pattern : Pattern World α) (tokens : Tokens) (offset : Nat)
    (outcome : Except Fault β) : Prop :=
  (¬pattern.OverrunsFrom tokens offset ∧ ∃ value, outcome = .ok value) ∨
    ∃ fault, pattern.Reports tokens offset fault ∧ outcome = .error fault

/-- The pattern stays inside the input, and what is built on it reports no place outside, but for
literals that overrun. -/
structure Contained [Journal World] [Shows α] (pattern : Pattern World α) (tokens : Tokens) :
    Prop where
  scans : ∀ offset, offset ≤ tokens.size → ∀ world, ∃ answer,
    pattern.scan tokens offset world = (.ok answer, world) ∧ ∀ hit ∈ answer,
      (offset : Int) ≤ hit.stop ∧
        ((tokens.size : Int) < hit.stop ↔ Overruns tokens offset pattern)
  /-- Only a dotted capital makes a literal overrun. -/
  dotted : ∀ offset, offset ≤ tokens.size → Overruns tokens offset pattern →
    ∃ chars : Array Char, tokens = .text chars ∧ 'İ' ∈ chars
  separates : ∀ offset, offset ≤ tokens.size → ∀ world, ∃ outcome segments,
    (pattern.drain tokens offset).run [] world = (outcome, segments, world) ∧
      pattern.Settles tokens offset outcome
  collects : ∀ offset, offset ≤ tokens.size → ∀ world, ∃ outcome,
    pattern.separated.scan tokens offset world = (outcome, world) ∧
      pattern.Settles tokens offset outcome
  edits : ∀ editor : α → Eff World Output, BlamelessEditor editor →
    ¬pattern.OverrunsFrom tokens 0 → (edit pattern editor tokens).IsBlameless
  reports : ∀ editor : α → Eff World Output, SpanEdit.NeverFails editor →
    pattern.OverrunsFrom tokens 0 → ∀ world, ∃ fault, pattern.Reports tokens 0 fault ∧
      (edit pattern editor tokens world).1 = .error fault

end Pattern

/-- An application of the script reports a place outside the input only if a literal of its rules
overruns where it is tried. -/
structure Script.Contained [Journal World] (script : Script World) (tokens : Tokens) : Prop where
  applies : ¬script.pattern.OverrunsFrom tokens 0 → (script.apply tokens).IsBlameless
  reports : script.pattern.OverrunsFrom tokens 0 → ∀ world, ∃ fault,
    script.pattern.Reports tokens 0 fault ∧ (script.apply tokens world).1 = .error fault

theorem Pattern.EndsAs.settles {offset : Nat} {ending : Ending}
    (ends : pattern.EndsAs tokens offset ending) :
    pattern.Settles tokens offset (ending.outcome pattern.label tokens.size) := by
  rcases ends with ⟨free, complete⟩ | ⟨place, stop, attempts, overruns, beyond, outside⟩
  · exact .inl ⟨free, (), by rw [complete]; rfl⟩
  · exact .inr ⟨_, ⟨place, stop, attempts, overruns, beyond, rfl⟩, by rw [outside]; rfl⟩

theorem Pattern.Settles.map {offset : Nat} {outcome : Except Fault β} {change : β → γ}
    (settles : pattern.Settles tokens offset outcome) :
    pattern.Settles tokens offset (outcome.map change) := by
  rcases settles with ⟨free, value, rfl⟩ | ⟨fault, reported, rfl⟩
  · exact .inl ⟨free, change value, rfl⟩
  · exact .inr ⟨fault, reported, rfl⟩

theorem Library.scans (library : Library tokens.kind False pattern) {offset : Nat}
    (inside : offset ≤ tokens.size) (world : World) :
    ∃ answer, pattern.scan tokens offset world = (.ok answer, world) ∧ ∀ hit ∈ answer,
      (offset : Int) ≤ hit.stop ∧
        ((tokens.size : Int) < hit.stop ↔ Overruns tokens offset pattern) := by
  obtain ⟨answer, answers, bounds⟩ := library.bounded world inside
  refine ⟨answer, answers world, fun hit succeeds => ⟨(bounds hit succeeds).1,
    (bounds hit succeeds).2, fun overruns => ?_⟩⟩
  obtain ⟨other, others, beyond⟩ := overruns.answers
  have same := Pattern.Answers.unique world answers others
  rw [same] at succeeds
  cases succeeds
  exact beyond

theorem Library.endsAs (library : Library tokens.kind False pattern) {scan : Verdicts α}
    (exact : pattern.Exact tokens scan) (world : World) (offset : Nat) :
    pattern.EndsAs tokens offset (reference tokens scan offset offset).ending :=
  exact.endsAs (fun _ inside => library.bounded world inside) world offset offset

theorem Library.contained [Journal World] [Shows α]
    (library : Library tokens.kind False pattern) : pattern.Contained tokens where
  scans _ inside world := library.scans inside world
  dotted _ inside overruns := overruns.dotted inside
  separates offset inside world := by
    obtain ⟨scan, exact⟩ := library.exact
    exact ⟨_, _, exact.run_drain inside [] world, (library.endsAs exact world offset).settles⟩
  collects offset inside world := by
    obtain ⟨scan, exact⟩ := library.exact
    exact ⟨_, exact.scan_separated inside world, (library.endsAs exact world offset).settles.map⟩
  edits editor blameless free := by
    obtain ⟨scan, exact⟩ := library.exact
    intro world _
    rcases library.endsAs exact world 0 with ⟨-, complete⟩ | ⟨place, -, attempts, overruns, -⟩
    · exact exact.edit_isBlameless blameless complete world trivial
    · exact absurd ⟨place, attempts, overruns⟩ free
  reports editor total overruns world := by
    obtain ⟨scan, exact⟩ := library.exact
    rcases library.endsAs exact world 0 with ⟨free, -⟩ |
      ⟨place, stop, attempts, reported, beyond, ends⟩
    · exact absurd overruns free
    · refine ⟨_, ⟨place, stop, attempts, reported, beyond, rfl⟩, exact.edit_eq_error total ?_ world⟩
      rw [ends]
      rfl

theorem Script.library_pattern {script : Script World} {kind : Kind}
    (rules : ∀ rule ∈ script.rules, Library kind False rule.pattern) :
    Library kind False script.pattern := by
  refine .choice fun pattern member => ?_
  obtain ⟨rule, among, rfl⟩ := List.mem_map.mp member
  exact .mapped _ _ (.captured (rules rule among))

theorem Rule.result_blameless :
    BlamelessEditor fun tagged => (pure (Rule.result tagged) : Eff World Output) where
  calls _ := Eff.isBlameless_pure _
  compares tagged _ _ same span := by
    cases same
    obtain ⟨differs, compared⟩ := Rule.isComparable_result tagged span
    rw [compared]
    exact .ok differs

theorem Rule.result_neverFails :
    NeverFails fun tagged => (pure (Rule.result tagged) : Eff World Output) :=
  fun tagged now => ⟨_, now, rfl, Rule.isComparable_result tagged⟩

theorem Script.contained [Journal World] {script : Script World}
    (rules : ∀ rule ∈ script.rules, Library tokens.kind False rule.pattern) :
    script.Contained tokens where
  applies := (library_pattern rules).contained.edits _ Rule.result_blameless
  reports := (library_pattern rules).contained.reports _ Rule.result_neverFails

/-- Patterns of the library without nested separations, and scripts of such patterns, stay inside
the input unless a literal overruns. -/
theorem library_contained [Journal World] [Shows α] {script : Script World}
    (library : Library tokens.kind False pattern)
    (rules : ∀ rule ∈ script.rules, Library tokens.kind False rule.pattern) :
    pattern.Contained tokens ∧ script.Contained tokens :=
  ⟨library.contained, script.contained rules⟩

namespace Literal

def dotted : Literal := ⟨.ofString "i\u0307", true⟩

def dottedScript : Script Testing.World := ⟨[⟨dotted.pattern, none⟩]⟩

theorem library_dotted : Library (Tokens.ofString "İ").kind False
    (dotted.pattern : Pattern Testing.World Tokens) := .literal dotted rfl

theorem library_dottedScript : ∀ rule ∈ dottedScript.rules,
    Library (Tokens.ofString "İ").kind False rule.pattern := by
  intro rule member
  rw [List.mem_singleton.mp member]
  exact library_dotted

theorem contained_dotted :
    Library (Tokens.ofString "İ").kind False (dotted.pattern : Pattern Testing.World Tokens) ∧
    (∀ rule ∈ dottedScript.rules, Library (Tokens.ofString "İ").kind False rule.pattern) ∧
    (dotted.pattern : Pattern Testing.World Tokens).Contained (.ofString "İ") ∧
    dottedScript.Contained (.ofString "İ") :=
  ⟨library_dotted, library_dottedScript, library_contained library_dotted library_dottedScript⟩

theorem exists_contract_eq_outside {label : Label} {text? : Option String}
    (shown : label.shown = .ok text?) (offset length : Nat) :
    ∃ fault, fault.IsContract ∧ Fault.outside label offset 2 length = fault := by
  have reported := Fault.reported_outside label offset 2 length
  generalize Fault.outside label offset 2 length = fault at reported
  cases reported with
  | told => exact ⟨.contract _ _ _ _, trivial, rfl⟩
  | unwritten _ long => exact absurd long (by decide +kernel)
  | unshown failed =>
      rw [shown] at failed
      cases failed

theorem shown_dotted :
    (∃ text?, (dotted.pattern : Pattern Testing.World Tokens).label.shown = .ok text?) ∧
    ∃ text?, dottedScript.pattern.label.shown = .ok text? := ⟨⟨_, rfl⟩, _, rfl⟩

theorem drain_dotted :
    ((dotted.pattern.drain (.ofString "İ") (0 : Nat)).run [] Testing.World.empty).1 =
      .error (.outside (dotted.pattern : Pattern Testing.World Tokens).label 0 2 1) := by
  with_unfolding_all rfl

theorem apply_dotted : (dottedScript.apply (.ofString "İ") Testing.World.empty).1 =
    .error (.outside dottedScript.pattern.label 0 2 1) := by
  with_unfolding_all rfl

/-- The literal ends one character behind a text of one character, so that its separation and a
script with it report a place outside the input. -/
theorem dotted_beyond :
    (dotted.pattern.scan (.ofString "İ") 0 Testing.World.empty).1 =
      .ok (some ⟨2, .ofString "İ"⟩) ∧
    (Tokens.ofString "İ").size = 1 ∧
    (∃ fault, fault.IsContract ∧
      ((dotted.pattern.drain (.ofString "İ") (0 : Nat)).run [] Testing.World.empty).1 =
        .error fault) ∧
    ∃ fault, fault.IsContract ∧
      (dottedScript.apply (.ofString "İ") Testing.World.empty).1 = .error fault := by
  obtain ⟨⟨_, own⟩, _, whole⟩ := shown_dotted
  obtain ⟨fault, contract, same⟩ := exists_contract_eq_outside own 0 1
  obtain ⟨other, contractToo, sameToo⟩ := exists_contract_eq_outside whole 0 1
  exact ⟨rfl, rfl, ⟨fault, contract, same ▸ drain_dotted⟩,
    other, contractToo, sameToo ▸ apply_dotted⟩

end Literal

end SpanEdit
