import Mathlib.Data.List.Forall2
import SearchBar.Query.Counts
import SearchBar.Query.Sequence

/-!
# Counting what was read

Numerals become counts one after the other. The first part says when all of
them do and to what, the second that a numeral further behind in a text becomes
the same count, or fails in the same way further behind.
-/

namespace SearchBar

open Text

variable {α β ε : Type}

/-- A mapped outcome is a success exactly if the outcome is one. -/
theorem map_eq_ok_iff {f : α → β} {outcome : Except ε α} {result : β} :
    f <$> outcome = .ok result ↔ ∃ value, outcome = .ok value ∧ f value = result := by
  cases outcome with
  | error failure => simp [Functor.map, Except.map]
  | ok value => simp [Functor.map, Except.map]

/-- A mapped outcome is a failure exactly if the outcome is that failure. -/
theorem map_eq_error_iff {f : α → β} {outcome : Except ε α} {failure : ε} :
    f <$> outcome = .error failure ↔ outcome = .error failure := by
  cases outcome with
  | error other => simp [Functor.map, Except.map]
  | ok value => simp [Functor.map, Except.map]

/-- Two steps fail exactly if the first one does, or the second one behind it. -/
theorem bind_eq_error_iff {next : α → Except ε β} {outcome : Except ε α} {failure : ε} :
    outcome >>= next = .error failure ↔
      outcome = .error failure ∨ ∃ value, outcome = .ok value ∧ next value = .error failure := by
  cases outcome with
  | error other => simp [bind, Except.bind]
  | ok value => simp [bind, Except.bind]

/-- A numeral becomes a count exactly if it is neither too long nor too large. -/
theorem Numeral.count_eq_ok_iff {numeral : Numeral} {count : Int} :
    numeral.count = .ok count ↔
      numeral.digits.length ≤ maximalDigits ∧ numeral.value ≤ maximalCount ∧
        count = numeral.value := by
  unfold Numeral.count
  by_cases long : maximalDigits < numeral.digits.length
  · rw [if_pos long]
    constructor
    · intro counted
      cases counted
    · intro bounds
      have short := bounds.1
      omega
  · rw [if_neg long]
    by_cases large : maximalCount < numeral.value
    · rw [if_pos large]
      constructor
      · intro counted
        cases counted
      · intro bounds
        have small := bounds.2.1
        omega
    · rw [if_neg large]
      constructor
      · intro counted
        cases counted
        exact ⟨by omega, by omega, rfl⟩
      · intro bounds
        rw [bounds.2.2]

/-- Two ranges of one shape whose bounds are related from left to right. -/
inductive Range.Related (related : α → β → Prop) : Range α → Range β → Prop
  | exactly {first : α} {second : β} (value : related first second) :
    Related related (exactly first) (exactly second)
  | compared (comparison : Comparison) {first : α} {second : β} (bound : related first second) :
    Related related (compared comparison first) (compared comparison second)
  | between {first first' : α} {second second' : β} (lower : related first second)
    (upper : related first' second') :
    Related related (between first first') (between second second')

/-- A range is read again exactly if its bounds are, from left to right. -/
theorem Range.mapM_eq_ok_iff {f : α → Except ε β} {range : Range α} {result : Range β} :
    range.mapM f = .ok result ↔
      Related (fun first second => f first = .ok second) range result := by
  constructor
  · intro mapped
    cases range with
    | exactly value =>
      obtain ⟨bound, found, rfl⟩ := map_eq_ok_iff.mp mapped
      exact .exactly found
    | compared comparison bound =>
      obtain ⟨bound, found, rfl⟩ := map_eq_ok_iff.mp mapped
      exact .compared comparison found
    | between lower upper =>
      simp only [Range.mapM, bind, Except.bind, pure, Except.pure] at mapped
      split at mapped
      · cases mapped
      · rename_i low lowerFound
        split at mapped
        · cases mapped
        · rename_i high upperFound
          cases mapped
          exact .between lowerFound upperFound
  · intro related
    cases related with
    | exactly value => simp [Range.mapM, value, Functor.map, Except.map]
    | compared comparison bound => simp [Range.mapM, bound, Functor.map, Except.map]
    | between lower upper => simp [Range.mapM, lower, upper, bind, Except.bind, pure, Except.pure]

/-- A list is read again exactly if its members are, one after the other. -/
theorem mapM_eq_ok_iff {f : α → Except ε β} {values : List α} {results : List β} :
    values.mapM f = .ok results ↔
      List.Forall₂ (fun value result => f value = .ok result) values results := by
  induction values generalizing results with
  | nil =>
    rw [List.mapM_nil, List.forall₂_nil_left_iff]
    constructor
    · intro same
      cases same
      rfl
    · intro none
      rw [none]
      rfl
  | cons value values ih =>
    rw [List.mapM_cons, List.forall₂_cons_left_iff]
    constructor
    · intro mapped
      simp only [bind, Except.bind, pure, Except.pure] at mapped
      split at mapped
      · cases mapped
      · rename_i first found
        split at mapped
        · cases mapped
        · rename_i others rest
          cases mapped
          exact ⟨first, others, found, ih.mp rest, rfl⟩
    · intro split
      obtain ⟨first, others, found, rest, rfl⟩ := split
      rw [found, ih.mpr rest]
      rfl

/-- A list of which every member is read again gives all the results. -/
theorem mapM_eq_map {f : α → Except ε β} {g : α → β} {values : List α}
    (read : ∀ value ∈ values, f value = .ok (g value)) : values.mapM f = .ok (values.map g) := by
  rw [mapM_eq_ok_iff, List.forall₂_map_right_iff, List.forall₂_same]
  exact read

/-- The failure that an outcome is, if it is one. -/
def faultOf : Except ε α → Option ε
  | .error failure => some failure
  | .ok _ => none

/-- The outcome is the failure. -/
theorem faultOf_eq_some_iff {outcome : Except ε α} {failure : ε} :
    faultOf outcome = some failure ↔ outcome = .error failure := by
  cases outcome with
  | error other => simp [faultOf]
  | ok value => simp [faultOf]

/-- A mapped outcome fails as the outcome does. -/
theorem faultOf_map (f : α → β) (outcome : Except ε α) :
    faultOf (f <$> outcome) = faultOf outcome := by
  cases outcome with
  | error failure => rfl
  | ok value => rfl

/-- A range fails at the first of its bounds that is not read again. -/
theorem Range.faultOf_mapM (f : α → Except ε β) (range : Range α) :
    faultOf (range.mapM f) = range.bounds.findSome? fun bound => faultOf (f bound) := by
  cases range with
  | exactly value => rw [Range.mapM, faultOf_map, Range.bounds, List.findSome?_singleton]
  | compared comparison bound => rw [Range.mapM, faultOf_map, Range.bounds, List.findSome?_singleton]
  | between lower upper =>
    cases low : f lower with
    | error failure => simp [Range.mapM, Range.bounds, low, faultOf, bind, Except.bind]
    | ok first =>
      cases high : f upper with
      | error failure => simp [Range.mapM, Range.bounds, low, high, faultOf, bind, Except.bind]
      | ok second =>
        simp [Range.mapM, Range.bounds, low, high, faultOf, bind, Except.bind, pure, Except.pure]

/-- A filter fails at the first of its counts that is not read again. -/
theorem Filter.faultOf_mapM (f : α → Except ε β) (filter : Filter α) :
    faultOf (filter.mapM f) = filter.counts.findSome? fun count => faultOf (f count) := by
  cases filter with
  | images range => rw [Filter.mapM, faultOf_map, Range.faultOf_mapM, Filter.counts]
  | propertyCount propertyKind range =>
    rw [Filter.mapM, faultOf_map, Range.faultOf_mapM, Filter.counts]
  | _ => rfl

/-- A list fails at the first of its members that is not read again. -/
theorem faultOf_mapM (f : α → Except ε β) (values : List α) :
    faultOf (values.mapM f) = values.findSome? fun value => faultOf (f value) := by
  induction values with
  | nil => rfl
  | cons value values ih =>
    rw [List.mapM_cons, List.findSome?_cons]
    cases first : f value with
    | error failure => rfl
    | ok result =>
      rw [← ih]
      cases values.mapM f with
      | error failure => rfl
      | ok results => rfl

/-- Filters fail at the first of all their counts that is not read again. -/
theorem faultOf_mapM_counts (f : α → Except ε β) (filters : List (Filter α)) :
    faultOf (filters.mapM (Filter.mapM f)) =
      (filters.flatMap Filter.counts).findSome? fun count => faultOf (f count) := by
  rw [faultOf_mapM]
  induction filters with
  | nil => rfl
  | cons filter filters ih =>
    rw [List.findSome?_cons, List.flatMap_cons, List.findSome?_append, ← ih, Filter.faultOf_mapM]
    cases filter.counts.findSome? fun count => faultOf (f count) with
    | none => rfl
    | some failure => rfl

/-- A filter that is not read again fails at one of its counts. -/
theorem Filter.mapM_error {f : α → Except ε β} {filter : Filter α} {failure : ε}
    (failed : filter.mapM f = .error failure) :
    ∃ count ∈ filter.counts, f count = .error failure := by
  have first := faultOf_eq_some_iff.mpr failed
  rw [Filter.faultOf_mapM] at first
  obtain ⟨count, member, found⟩ := List.exists_of_findSome?_eq_some first
  exact ⟨count, member, faultOf_eq_some_iff.mp found⟩

/-- A list that is not read again fails at one of its members. -/
theorem mapM_error {f : α → Except ε β} {values : List α} {failure : ε}
    (failed : values.mapM f = .error failure) : ∃ value ∈ values, f value = .error failure := by
  have first := faultOf_eq_some_iff.mpr failed
  rw [faultOf_mapM] at first
  obtain ⟨value, member, found⟩ := List.exists_of_findSome?_eq_some first
  exact ⟨value, member, faultOf_eq_some_iff.mp found⟩

/-- A list with a member that is not read again fails. -/
theorem mapM_eq_error {f : α → Except ε β} {values : List α} {value : α} (listed : value ∈ values)
    {fault : ε} (failed : f value = .error fault) : ∃ fault, values.mapM f = .error fault := by
  induction values with
  | nil => cases listed
  | cons first values ih =>
    rw [List.mapM_cons]
    cases read : f first with
    | error fault => exact ⟨fault, rfl⟩
    | ok result =>
      rcases List.mem_cons.mp listed with rfl | listed
      · rw [failed] at read
        cases read
      · obtain ⟨fault, stopped⟩ := ih listed
        exact ⟨fault, by rw [stopped]; rfl⟩

/-- The same outcome in a text with so many more characters in front. -/
def shiftedBy (offset : Nat) (outcome : Except Failure α) : Except Failure α :=
  outcome.mapError (Failure.shift offset)

/-- A numeral further behind becomes the same count or fails further behind. -/
theorem Numeral.count_shift (offset : Nat) (numeral : Numeral) :
    (numeral.shift offset).count = shiftedBy offset numeral.count := by
  unfold Numeral.count
  by_cases long : maximalDigits < numeral.digits.length
  · have same : maximalDigits < (numeral.shift offset).digits.length := long
    rw [if_pos long, if_pos same]
    rfl
  · have same : ¬ maximalDigits < (numeral.shift offset).digits.length := long
    rw [if_neg long, if_neg same]
    by_cases large : maximalCount < numeral.value
    · have same : maximalCount < (numeral.shift offset).value := large
      rw [if_pos large, if_pos same]
      rfl
    · have same : ¬ maximalCount < (numeral.shift offset).value := large
      rw [if_neg large, if_neg same]
      rfl

/-- Mapping a success does not move a failure. -/
theorem shiftedBy_map (offset : Nat) (f : α → β) (outcome : Except Failure α) :
    shiftedBy offset (f <$> outcome) = f <$> shiftedBy offset outcome := by
  cases outcome with
  | error failure => rfl
  | ok value => rfl

/-- Steps further behind fail further behind. -/
theorem shiftedBy_bind (offset : Nat) (outcome : Except Failure α) (next : α → Except Failure β) :
    shiftedBy offset (outcome >>= next) =
      shiftedBy offset outcome >>= fun value => shiftedBy offset (next value) := by
  cases outcome with
  | error failure => rfl
  | ok value => rfl

/-- A range further behind becomes the same range or fails further behind. -/
theorem Range.mapM_shift (offset : Nat) (range : Range Numeral) :
    (range.map (Numeral.shift offset)).mapM Numeral.count =
      shiftedBy offset (range.mapM Numeral.count) := by
  cases range with
  | exactly value => simp only [Range.map, Range.mapM, Numeral.count_shift, shiftedBy_map]
  | compared comparison bound =>
    simp only [Range.map, Range.mapM, Numeral.count_shift, shiftedBy_map]
  | between lower upper =>
    simp only [Range.map, Range.mapM, Numeral.count_shift, shiftedBy_bind]
    rfl

/-- A filter further behind becomes the same filter or fails further behind. -/
theorem Filter.count_shift (offset : Nat) (filter : Filter Numeral) :
    (filter.map (Numeral.shift offset)).count = shiftedBy offset filter.count := by
  cases filter with
  | images range =>
    simp only [Filter.map, Filter.count, Filter.mapM, Range.mapM_shift, shiftedBy_map]
  | propertyCount propertyKind range =>
    simp only [Filter.map, Filter.count, Filter.mapM, Range.mapM_shift, shiftedBy_map]
  | word text => rfl
  | quoted text => rfl
  | draft state => rfl
  | kind text => rfl
  | category text => rfl
  | creator author => rfl
  | created range => rfl
  | property propertyKind id value => rfl

/-- Filters further behind become the same filters or fail further behind. -/
theorem mapM_count_shift (offset : Nat) (filters : List (Filter Numeral)) :
    (filters.map (Filter.map (Numeral.shift offset))).mapM Filter.count =
      shiftedBy offset (filters.mapM Filter.count) := by
  induction filters with
  | nil => rfl
  | cons filter filters ih =>
    rw [List.map_cons, List.mapM_cons, List.mapM_cons, Filter.count_shift, ih]
    simp only [shiftedBy_bind]
    rfl

/-- A filter further behind becomes the same filter. -/
theorem Filter.count_shift_eq_ok_iff {offset : Nat} {filter : Filter Numeral}
    {counted : Filter Int} :
    (filter.map (Numeral.shift offset)).count = .ok counted ↔ filter.count = .ok counted := by
  rw [Filter.count_shift]
  cases filter.count with
  | error failure => simp [shiftedBy, Except.mapError]
  | ok value => simp [shiftedBy, Except.mapError]

end SearchBar
