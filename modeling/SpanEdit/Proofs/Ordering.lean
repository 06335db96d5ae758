import Mathlib.Data.List.Perm.Basic
import SpanEdit.Value.Order

/-!
Which values have an order, and when values can be sorted: where no two of them have to be compared,
or all of them lie on one scale. Sorting keeps the values; where it fails, it reports that two
values have no order.
-/

namespace SpanEdit

inductive Fault.IsOfOrder : Fault → Prop
  | unordered (later earlier : String) : IsOfOrder (.unordered later earlier)
  | wrongType (message : Option String) : IsOfOrder (.wrongType message)

namespace Value

inductive Scale where
  | text
  | bytes
  | number
  | day
  | localMoment
  | universalMoment
deriving DecidableEq

def scale? : Value → Option Scale
  | .tokens (.text _) => some .text
  | .tokens (.bytes _) => some .bytes
  | .bool _ | .int _ | .float _ => some .number
  | .day _ => some .day
  | .moment value => some (if value.distance.isSome then .universalMoment else .localMoment)
  | _ => none

def OnScale (scale : Scale) (values : List Value) : Prop :=
  ∀ value ∈ values, value.scale? = some scale

def Sortable (values : List Value) : Prop :=
  values.length ≤ 1 ∨ ∃ scale, OnScale scale values

variable {scale : Scale} {first second value last : Value} {fault : Fault}

theorem fraction?_isSome : value.fraction?.isSome ↔ value.scale? = some .number := by
  cases value with
  | tokens tokens => cases tokens <;> simp [fraction?, scale?]
  | moment moment =>
      simp only [fraction?, scale?]
      split <;> simp
  | _ => simp [fraction?, scale?]

theorem scale_of_less {answer : Bool} (compared : first.less second = .ok answer) :
    ∃ scale, first.scale? = some scale ∧ second.scale? = some scale := by
  unfold less at compared
  split at compared
  · exact ⟨.text, rfl, rfl⟩
  · exact ⟨.bytes, rfl, rfl⟩
  · exact ⟨.day, rfl, rfl⟩
  · rename_i moment other
    unfold earlier at compared
    split at compared
    · rename_i alike
      have same : moment.distance.isSome = other.distance.isSome := by
        simpa [Calendar.Moment.comparable] using alike
      exact ⟨_, rfl, by simp [scale?, same]⟩
    · cases compared
  · cases compared
  · cases compared
  · split at compared
    · rename_i here there
      exact ⟨.number, fraction?_isSome.1 (by simp [here]), fraction?_isSome.1 (by simp [there])⟩
    · cases compared

theorem less_fault (compared : first.less second = .error fault) : fault.IsOfOrder := by
  unfold less at compared
  split at compared
  · cases compared
  · cases compared
  · cases compared
  · unfold earlier at compared
    split at compared
    · cases compared
    · cases compared
      exact .wrongType _
  · cases compared
    exact .wrongType _
  · cases compared
    exact .wrongType _
  · split at compared
    · cases compared
    · cases compared
      exact .unordered _ _

def Scale.Form (value : Value) : Scale → Prop
  | .text => ∃ chars, value = .tokens (.text chars)
  | .bytes => ∃ data, value = .tokens (.bytes data)
  | .number => (∃ flag, value = .bool flag) ∨ (∃ integer, value = .int integer) ∨
      ∃ number, value = .float number
  | .day => ∃ day, value = .day day
  | .localMoment => ∃ moment, value = .moment moment ∧ moment.distance.isSome = false
  | .universalMoment => ∃ moment, value = .moment moment ∧ moment.distance.isSome = true

theorem form_of_scale (measured : value.scale? = some scale) : scale.Form value := by
  unfold scale? at measured
  split at measured <;> cases measured
  · exact ⟨_, rfl⟩
  · exact ⟨_, rfl⟩
  · exact .inl ⟨_, rfl⟩
  · exact .inr (.inl ⟨_, rfl⟩)
  · exact .inr (.inr ⟨_, rfl⟩)
  · exact ⟨_, rfl⟩
  · rename_i moment
    cases known : moment.distance.isSome
    · exact ⟨moment, rfl, known⟩
    · exact ⟨moment, rfl, known⟩

theorem less_of_scale (left : first.scale? = some scale) (right : second.scale? = some scale) :
    ∃ answer, first.less second = .ok answer := by
  have leftForm := form_of_scale left
  have rightForm := form_of_scale right
  cases scale with
  | text | bytes | day =>
      obtain ⟨here, rfl⟩ := leftForm
      obtain ⟨there, rfl⟩ := rightForm
      exact ⟨_, rfl⟩
  | number =>
      obtain ⟨here, rfl⟩ | ⟨here, rfl⟩ | ⟨here, rfl⟩ := leftForm <;>
        obtain ⟨there, rfl⟩ | ⟨there, rfl⟩ | ⟨there, rfl⟩ := rightForm <;> exact ⟨_, rfl⟩
  | localMoment | universalMoment =>
      obtain ⟨here, rfl, known⟩ := leftForm
      obtain ⟨there, rfl, other⟩ := rightForm
      have comparable : here.comparable there = true := by
        rw [Calendar.Moment.comparable, known, other]
        rfl
      exact ⟨_, if_pos comparable⟩

/-- Against a value on a scale, all that counts is whether the other one lies on it too. -/
theorem less_measured (measured : second.scale? = some scale) (first : Value) :
    (first.scale? = some scale ∧ ∃ answer, first.less second = .ok answer) ∨
      (first.scale? ≠ some scale ∧
        ∃ fault, first.less second = .error fault ∧ fault.IsOfOrder) := by
  by_cases alike : first.scale? = some scale
  · exact .inl ⟨alike, less_of_scale alike measured⟩
  · refine .inr ⟨alike, ?_⟩
    cases compared : first.less second with
    | ok answer =>
        obtain ⟨common, here, there⟩ := scale_of_less compared
        rw [measured] at there
        rw [← there] at here
        exact absurd here alike
    | error fault => exact ⟨fault, rfl, less_fault compared⟩

theorem runLength_cases (measured : last.scale? = some scale) (descends : Bool)
    (values : List Value) :
    (∃ count, runLength last descends values = .ok count ∧ OnScale scale (values.take count)) ∨
      ∃ fault, runLength last descends values = .error fault ∧ fault.IsOfOrder ∧
        ¬OnScale scale values := by
  induction values generalizing last with
  | nil => exact .inl ⟨0, rfl, by simp [OnScale]⟩
  | cons next rest ih =>
      rw [runLength]
      obtain ⟨alike, answer, compared⟩ | ⟨unlike, fault, compared, order⟩ :=
        less_measured measured next
      · rw [compared]
        by_cases goesOn : (answer == descends) = true
        · obtain ⟨count, counted, taken⟩ | ⟨fault, failed, order, off⟩ := ih alike
          · refine .inl ⟨1 + count, ?_, ?_⟩
            · show (if (answer == descends) = true then _ else _) = _
              rw [if_pos goesOn, counted]
              rfl
            · rw [Nat.add_comm, List.take_succ_cons]
              exact List.forall_mem_cons.2 ⟨alike, taken⟩
          · refine .inr ⟨fault, ?_, order, fun on => off (List.forall_mem_cons.1 on).2⟩
            show (if (answer == descends) = true then _ else _) = _
            rw [if_pos goesOn, failed]
            rfl
        · refine .inl ⟨0, ?_, by simp [OnScale]⟩
          show (if (answer == descends) = true then _ else _) = _
          rw [if_neg goesOn]
          rfl
      · refine .inr ⟨fault, ?_, order, fun on => unlike (on next List.mem_cons_self)⟩
        rw [compared]
        rfl

theorem placeAmong_of_scale {sorted : Array Value} (on : OnScale scale sorted.toList)
    (alike : value.scale? = some scale) (low high : Nat) :
    ∃ place, placeAmong sorted value low high = .ok place := by
  fun_induction placeAmong sorted value low high with
  | case1 low high unfinished middle outside => exact ⟨low, rfl⟩
  | case2 low high unfinished middle other here before after =>
      have measured : other.scale? = some scale :=
        on other (Array.mem_toList_iff.2 (Array.mem_of_getElem? here))
      obtain ⟨answer, compared⟩ := less_of_scale alike measured
      rw [compared]
      cases answer
      · exact after
      · exact before
  | case3 low high finished => exact ⟨low, rfl⟩

theorem placeAmong_cases {sorted : Array Value} (on : OnScale scale sorted.toList)
    (nonempty : 0 < sorted.size) (value : Value) :
    (value.scale? = some scale ∧ ∃ place, placeAmong sorted value 0 sorted.size = .ok place) ∨
      (value.scale? ≠ some scale ∧
        ∃ fault, placeAmong sorted value 0 sorted.size = .error fault ∧ fault.IsOfOrder) := by
  by_cases alike : value.scale? = some scale
  · exact .inl ⟨alike, placeAmong_of_scale on alike 0 sorted.size⟩
  · refine .inr ⟨alike, ?_⟩
    have inside : 0 + (sorted.size - 0) / 2 < sorted.size := by omega
    have measured : (sorted[0 + (sorted.size - 0) / 2]).scale? = some scale :=
      on _ (Array.mem_toList_iff.2 (Array.getElem_mem inside))
    obtain ⟨too, -⟩ | ⟨-, fault, compared, order⟩ := less_measured measured value
    · exact absurd too alike
    · refine ⟨fault, ?_, order⟩
      rw [placeAmong, if_pos nonempty]
      simp only [Array.getElem?_eq_getElem inside, compared]
      rfl

theorem insertAll_cases {sorted : Array Value} (on : OnScale scale sorted.toList)
    (nonempty : 0 < sorted.size) (values : List Value) :
    (∃ all, insertAll sorted values = .ok all ∧ all.toList.Perm (sorted.toList ++ values) ∧
        OnScale scale values) ∨
      ∃ fault, insertAll sorted values = .error fault ∧ fault.IsOfOrder ∧
        ¬OnScale scale values := by
  induction values generalizing sorted with
  | nil => exact .inl ⟨sorted, rfl, by simp, by simp [OnScale]⟩
  | cons value rest ih =>
      rw [insertAll]
      obtain ⟨alike, place, found⟩ | ⟨unlike, fault, failed, order⟩ :=
        placeAmong_cases on nonempty value
      · rw [found]
        let inserted := sorted.extract 0 place ++ #[value] ++ sorted.extract place sorted.size
        have permuted : inserted.toList.Perm (value :: sorted.toList) := by
          have parts : inserted.toList =
              sorted.toList.take place ++ value :: sorted.toList.drop place := by
            simp [inserted, List.extract, List.take_of_length_le]
          rw [parts]
          refine List.perm_middle.trans (List.Perm.cons value ?_)
          rw [List.take_append_drop]
        have covered : OnScale scale (value :: sorted.toList) :=
          List.forall_mem_cons.2 ⟨alike, on⟩
        have insertedOn : OnScale scale inserted.toList := fun other member =>
          covered other (permuted.mem_iff.1 member)
        have insertedSome : 0 < inserted.size := by
          have size := permuted.length_eq
          simp only [List.length_cons, Array.length_toList] at size
          omega
        obtain ⟨all, done, kept, rests⟩ | ⟨fault, failed, order, off⟩ := ih insertedOn insertedSome
        · refine .inl ⟨all, done, ?_, List.forall_mem_cons.2 ⟨alike, rests⟩⟩
          calc all.toList.Perm (inserted.toList ++ rest) := kept
            _ |>.Perm (value :: sorted.toList ++ rest) := permuted.append_right rest
            _ |>.Perm (sorted.toList ++ value :: rest) := List.perm_middle.symm
        · exact .inr ⟨fault, failed, order, fun on => off (List.forall_mem_cons.1 on).2⟩
      · refine .inr ⟨fault, ?_, order, fun on => unlike (on value List.mem_cons_self)⟩
        rw [failed]
        rfl

def ascending (descends : Bool) (run : List Value) : Array Value :=
  (if descends then run.reverse else run).toArray

theorem sort_eq {descends : Bool} {rest : List Value} {count : Nat}
    (compared : second.less first = .ok descends)
    (counted : runLength second descends rest = .ok count) :
    sort (first :: second :: rest) =
      (insertAll (ascending descends (first :: second :: rest.take count)) (rest.drop count)).map
        (·.toList) := by
  have run : List.take (2 + count) (first :: second :: rest) =
      first :: second :: rest.take count := by
    rw [Nat.add_comm]
    rfl
  have others : List.drop (2 + count) (first :: second :: rest) = rest.drop count := by
    rw [Nat.add_comm]
    rfl
  rw [sort, compared]
  show (do let more ← runLength second descends rest; _) = _
  rw [counted]
  show (do
    let sorted ← insertAll (ascending descends (List.take (2 + count) (first :: second :: rest)))
      (List.drop (2 + count) (first :: second :: rest))
    return sorted.toList) = _
  rw [run, others]
  cases insertAll (ascending descends (first :: second :: rest.take count)) (rest.drop count) with
  | ok all => rfl
  | error fault => rfl

theorem perm_ascending (descends : Bool) (run : List Value) :
    (ascending descends run).toList.Perm run := by
  cases descends
  · exact .refl run
  · exact run.reverse_perm

theorem sort_run_cases {descends : Bool} {rest : List Value}
    (here : first.scale? = some scale) (there : second.scale? = some scale)
    (compared : second.less first = .ok descends) :
    (∃ sorted, sort (first :: second :: rest) = .ok sorted ∧
        sorted.Perm (first :: second :: rest) ∧ OnScale scale rest) ∨
      ∃ fault, sort (first :: second :: rest) = .error fault ∧ fault.IsOfOrder ∧
        ¬OnScale scale rest := by
  obtain ⟨count, counted, taken⟩ | ⟨fault, failed, order, off⟩ :=
    runLength_cases there descends rest
  · let run := first :: second :: rest.take count
    have whole : rest.take count ++ rest.drop count = rest := List.take_append_drop count rest
    have runOn : OnScale scale run :=
      List.forall_mem_cons.2 ⟨here, List.forall_mem_cons.2 ⟨there, taken⟩⟩
    have on : OnScale scale (ascending descends run).toList := fun value member =>
      runOn value ((perm_ascending descends run).mem_iff.1 member)
    have nonempty : 0 < (ascending descends run).size := by
      have size := (perm_ascending descends run).length_eq
      simp only [run, List.length_cons, Array.length_toList] at size ⊢
      omega
    rw [sort_eq compared counted]
    obtain ⟨all, inserted, kept, others⟩ | ⟨fault, failed, order, off⟩ :=
      insertAll_cases on nonempty (rest.drop count)
    · refine .inl ⟨all.toList, by rw [inserted]; rfl, ?_, ?_⟩
      · have joined := kept.trans ((perm_ascending descends run).append_right (rest.drop count))
        simpa only [run, List.cons_append, whole] using joined
      · rw [← whole]
        exact List.forall_mem_append.2 ⟨taken, others⟩
    · refine .inr ⟨fault, by rw [failed]; rfl, order, fun all => off ?_⟩
      exact fun value member => all value (List.mem_of_mem_drop member)
  · refine .inr ⟨fault, ?_, order, off⟩
    rw [sort, compared]
    show (do let more ← runLength second descends rest; _) = _
    rw [failed]
    rfl

/-- Sorting keeps the values, and fails only over two that have no order. -/
theorem sort_cases (values : List Value) :
    (∃ sorted, sort values = .ok sorted ∧ sorted.Perm values ∧ Sortable values) ∨
      ∃ fault, sort values = .error fault ∧ fault.IsOfOrder ∧ ¬Sortable values := by
  match values with
  | [] => exact .inl ⟨[], rfl, .nil, .inl (by simp)⟩
  | [value] => exact .inl ⟨[value], rfl, .refl _, .inl (by simp)⟩
  | first :: second :: rest =>
      have onOneScale : Sortable (first :: second :: rest) →
          ∃ scale, OnScale scale (first :: second :: rest) := by
        rintro (few | one)
        · simp at few
        · exact one
      cases compared : second.less first with
      | error fault =>
          refine .inr ⟨fault, by rw [sort, compared]; rfl, less_fault compared, ?_⟩
          intro sortable
          obtain ⟨scale, on⟩ := onOneScale sortable
          obtain ⟨answer, answered⟩ := less_of_scale (on second (by simp)) (on first (by simp))
          rw [answered] at compared
          cases compared
      | ok descends =>
          obtain ⟨scale, there, here⟩ := scale_of_less compared
          obtain ⟨sorted, done, kept, rests⟩ | ⟨fault, failed, order, off⟩ :=
            sort_run_cases here there compared
          · have all : OnScale scale (first :: second :: rest) :=
              List.forall_mem_cons.2 ⟨here, List.forall_mem_cons.2 ⟨there, rests⟩⟩
            exact .inl ⟨sorted, done, kept, .inr ⟨scale, all⟩⟩
          · refine .inr ⟨fault, failed, order, fun sortable => off ?_⟩
            -- The scale of the first two values is the only one that all can lie on.
            obtain ⟨other, on⟩ := onOneScale sortable
            have same : scale = other := Option.some.inj (here.symm.trans (on first (by simp)))
            rw [same]
            exact fun value member => on value (by simp [member])

end Value

end SpanEdit
