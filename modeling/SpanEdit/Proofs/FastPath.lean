import SpanEdit.Proofs.Library

/-!
The fast path: a pattern of the library yields the segments that it yields without its searches, and
ends in the same way.
-/

namespace SpanEdit

variable {World : Type}

variable {α : Type} {pattern : Pattern World α} {tokens : Tokens}

namespace Pattern.Exact

variable {scan : Verdicts α} {offset : Nat}

theorem outcome_eq_or (exact : pattern.Exact tokens scan) (other : Label) :
    let ending := (reference tokens scan offset offset).ending
    (ending.outcome pattern.label tokens.size = .ok () ∧
      ending.outcome other tokens.size = .ok ()) ∨
    ∃ reported reportedToo place position,
      ending.outcome pattern.label tokens.size =
        .error (.outside reported place position tokens.size) ∧
      ending.outcome other tokens.size =
        .error (.outside reportedToo place position tokens.size) := by
  intro ending
  cases ends : ending with
  | complete => exact .inl ⟨rfl, rfl⟩
  | raised fault =>
      obtain ⟨missed, inside, raised⟩ := reference_raised ends
      obtain ⟨label, place, position, rfl⟩ := exact.reports missed inside fault raised
      have kept : Fault.leaving .generator (.outside label place position tokens.size) =
          .outside label place position tokens.size := Fault.leaving_outside _ _ _ _ _
      exact .inr ⟨label, label, place, position, congrArg _ kept, congrArg _ kept⟩
  | outside place position => exact .inr ⟨pattern.label, other, place, position, rfl, rfl⟩

end Pattern.Exact

def Pattern.mixed : Pattern Unit Tokens :=
  .choice [Literal.pattern ⟨.ofString "ab", true⟩,
    ((Run.pattern ⟨fun token => pure (decide (token = .ofString "a")), 1, none⟩
      none).captured.mapped (fun pair => pure pair.1) none)]

theorem Pattern.library_mixed (text : String) :
    Library (Tokens.ofString text).kind True Pattern.mixed := by
  refine .choice fun pattern member => ?_
  simp only [List.mem_cons, List.not_mem_nil, or_false] at member
  rcases member with rfl | rfl
  · exact .literal _ rfl
  · exact .mapped _ _ (.captured (.run _ _ _ rfl))

end SpanEdit
