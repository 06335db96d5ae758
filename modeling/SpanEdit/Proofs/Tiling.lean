import Mathlib.Data.List.Chain
import SpanEdit.Join
import SpanEdit.Separation

/-!
Tilings: segments that cover a part of an input exactly once, as the segments of a separation do.
-/

namespace SpanEdit

theorem Tokens.bound_natCast {size place : Nat} (inside : place ≤ size) :
    Tokens.bound size place = place := by
  simp only [Tokens.bound, Int.toNat_natCast, Nat.min_eq_left inside, ite_eq_right_iff]
  omega

theorem Tokens.kind_part (tokens : Tokens) (start stop : Int) :
    (tokens.part start stop).kind = tokens.kind := tokens.kind_slice _ _

theorem Tokens.part_natCast (tokens : Tokens) {start stop : Nat} (ordered : start ≤ stop)
    (inside : stop ≤ tokens.size) : tokens.part start stop = tokens.slice start stop := by
  rw [part, bound_natCast (Nat.le_trans ordered inside), bound_natCast inside]

theorem Tokens.slice_empty (tokens : Tokens) (place : Nat) :
    tokens.slice place place = .empty tokens.kind := by
  cases tokens with
  | text chars => exact congrArg text (Array.extract_eq_empty_iff.mpr (Nat.min_le_left _ _))
  | bytes data => exact congrArg bytes (Array.extract_eq_empty_iff.mpr (Nat.min_le_left _ _))

variable {α : Type}

/-- The segments lie side by side: the first begins at `start`, each other one where the one before
it ends, and the last ends at `stop`. -/
def Adjoining : Int → Int → List (Segment α) → Prop
  | start, stop, [] => start = stop
  | start, stop, segment :: rest => segment.start = start ∧ Adjoining segment.stop stop rest

structure Tiling (tokens : Tokens) (start stop : Nat) (segments : List (Segment α)) : Prop where
  adjoining : Adjoining start stop segments
  nonempty : ∀ segment ∈ segments, segment.start < segment.stop
  /-- The text of an unmatched run is the slice of the input. -/
  faithful : ∀ text place, Segment.unmatched text place ∈ segments →
    text = tokens.part place (place + text.size)
  /-- No two unmatched runs are adjacent. -/
  coalesced : segments.IsChain fun first second => ¬(first.isUnmatched ∧ second.isUnmatched)

def gap (tokens : Tokens) (pending stop : Nat) : List (Segment α) :=
  if pending < stop then [.unmatched (tokens.slice pending stop) pending] else []

theorem gap_self (tokens : Tokens) (place : Nat) :
    (gap tokens place place : List (Segment α)) = [] := if_neg (Nat.lt_irrefl place)

theorem unmatched_stop (tokens : Tokens) {start stop : Nat} (ordered : start ≤ stop)
    (inside : stop ≤ tokens.size) :
    (Segment.unmatched (tokens.slice start stop) start : Segment α).stop = stop := by
  simp only [Segment.stop, Tokens.size_slice]
  omega

namespace Tiling

variable {tokens : Tokens} {segments rest : List (Segment α)} {start middle stop : Nat}

theorem nil : Tiling tokens start start ([] : List (Segment α)) where
  adjoining := rfl
  nonempty := by simp
  faithful := by simp
  coalesced := .nil

theorem matched (value : α) (consumes : start < middle) (tiling : Tiling tokens middle stop rest) :
    Tiling tokens start stop (.matched value start middle :: rest) where
  adjoining := ⟨rfl, tiling.adjoining⟩
  nonempty := by
    simp only [List.forall_mem_cons]
    exact ⟨Int.ofNat_lt.mpr consumes, tiling.nonempty⟩
  faithful text place member := by
    rcases List.mem_cons.mp member with impossible | member
    · simp at impossible
    · exact tiling.faithful text place member
  coalesced := by
    cases rest with
    | nil => exact .singleton _
    | cons next rest =>
        exact List.isChain_cons_cons.mpr ⟨by simp [Segment.isUnmatched], tiling.coalesced⟩

theorem unmatched (nonempty : start < middle) (inside : middle ≤ tokens.size)
    (tiling : Tiling tokens middle stop rest)
    (isolated : ∀ next ∈ rest.head?, next.isUnmatched = false) :
    Tiling tokens start stop (.unmatched (tokens.slice start middle) start :: rest) where
  adjoining := by
    refine ⟨rfl, ?_⟩
    rw [unmatched_stop tokens nonempty.le inside]
    exact tiling.adjoining
  nonempty := by
    simp only [List.forall_mem_cons]
    refine ⟨?_, tiling.nonempty⟩
    rw [unmatched_stop tokens nonempty.le inside]
    exact Int.ofNat_lt.mpr nonempty
  faithful text place member := by
    rcases List.mem_cons.mp member with same | member
    · rw [Segment.unmatched.injEq] at same
      have size : text.size = middle - start := by
        rw [same.1, Tokens.size_slice]
        omega
      have finish : (start : Int) + text.size = middle := by omega
      rw [same.2, finish, Tokens.part_natCast tokens nonempty.le inside]
      exact same.1
    · exact tiling.faithful text place member
  coalesced := by
    cases rest with
    | nil => exact .singleton _
    | cons next rest =>
        have notUnmatched := isolated next (by simp)
        exact List.isChain_cons_cons.mpr ⟨by simp [notUnmatched], tiling.coalesced⟩

theorem gap (ordered : start ≤ stop) (inside : stop ≤ tokens.size) :
    Tiling tokens start stop (gap tokens start stop : List (Segment α)) := by
  unfold SpanEdit.gap
  split
  · rename_i nonempty
    exact unmatched nonempty inside nil (by simp)
  · have same : start = stop := by omega
    subst same
    exact nil

theorem emit (value : α) {pending : Nat} (ordered : pending ≤ start) (consumes : start < middle)
    (inside : middle ≤ tokens.size) (tiling : Tiling tokens middle stop rest) :
    Tiling tokens pending stop
      (SpanEdit.gap tokens pending start ++ .matched value start middle :: rest) := by
  have occurrence := matched value consumes tiling
  unfold SpanEdit.gap
  split
  · rename_i nonempty
    exact unmatched nonempty (by omega) occurrence (by simp [Segment.isUnmatched])
  · have same : pending = start := by omega
    subst same
    exact occurrence

theorem uncons {segment : Segment α} (tiling : Tiling tokens start stop (segment :: rest)) :
    ∃ middle : Nat, segment.start = start ∧ segment.stop = middle ∧ start < middle ∧
      Tiling tokens middle stop rest := by
  have begins : segment.start = start := tiling.adjoining.1
  have nonempty := tiling.nonempty segment List.mem_cons_self
  obtain ⟨middle, ends⟩ : ∃ middle : Nat, segment.stop = middle :=
    ⟨segment.stop.toNat, by omega⟩
  refine ⟨middle, begins, ends, by omega, ?_, ?_, ?_, ?_⟩
  · rw [← ends]
    exact tiling.adjoining.2
  · exact fun other member => tiling.nonempty other (List.mem_cons_of_mem _ member)
  · exact fun text place member => tiling.faithful text place (List.mem_cons_of_mem _ member)
  · exact tiling.coalesced.of_cons

theorem start_le_stop (tiling : Tiling tokens start stop segments) : start ≤ stop := by
  induction segments generalizing start with
  | nil => exact Int.ofNat_le.mp (Int.le_of_eq tiling.adjoining)
  | cons segment rest ih =>
      obtain ⟨middle, _, _, before, tail⟩ := tiling.uncons
      have after := ih tail
      omega

theorem eq_nil_iff (tiling : Tiling tokens start stop segments) :
    segments = [] ↔ start = stop := by
  cases segments with
  | nil => exact iff_of_true rfl (Int.ofNat_inj.mp tiling.adjoining)
  | cons segment rest =>
      obtain ⟨middle, _, _, before, tail⟩ := tiling.uncons
      have after := tail.start_le_stop
      simp only [reduceCtorEq, false_iff]
      omega

theorem span_eq {segment : Segment α} (tiling : Tiling tokens start stop (segment :: rest))
    (ends : segment.stop = middle) (inside : middle ≤ tokens.size) :
    segment.span tokens = tokens.slice start middle := by
  obtain ⟨other, begins, same, before, -⟩ := tiling.uncons
  have ordered : start ≤ middle := by omega
  cases segment with
  | unmatched text place =>
      have slice := tiling.faithful text place List.mem_cons_self
      simp only [Segment.start, Segment.stop] at begins ends
      rw [ends, begins, Tokens.part_natCast tokens ordered inside] at slice
      exact slice
  | matched value first last =>
      simp only [Segment.start, Segment.stop] at begins ends
      simp only [Segment.span]
      rw [begins, ends, Tokens.part_natCast tokens ordered inside]

theorem joinOnto_eq (tiling : Tiling tokens start stop segments) (inside : stop ≤ tokens.size)
    {first : Nat} (ordered : first ≤ start) (index : Nat) :
    joinOnto (tokens.slice first start) index
        (segments.map fun segment => .ofTokens (segment.span tokens)) =
      .ok (tokens.slice first stop) := by
  induction segments generalizing start index with
  | nil =>
      have same : start = stop := Int.ofNat_inj.mp tiling.adjoining
      rw [same]
      rfl
  | cons segment rest ih =>
      obtain ⟨middle, begins, ends, before, tail⟩ := tiling.uncons
      have within : middle ≤ tokens.size := Nat.le_trans tail.start_le_stop inside
      rw [List.map_cons, joinOnto, tiling.span_eq ends within]
      simp only [Output.ofTokens, Tokens.kind_slice, ↓reduceIte]
      rw [Tokens.slice_append_slice tokens ordered before.le]
      exact ih tail (by omega) (index + 1)

theorem render_eq (tiling : Tiling tokens start stop segments) (inside : stop ≤ tokens.size) :
    render segments tokens = .ok (tokens.slice start stop) := by
  rw [render, join, ← Tokens.slice_empty tokens start]
  exact tiling.joinOnto_eq inside (Nat.le_refl start) 0

end Tiling

end SpanEdit
