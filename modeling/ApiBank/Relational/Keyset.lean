import Mathlib.Data.List.Basic
import Mathlib.Data.List.Nodup
import Mathlib.Order.Basic
import Mathlib.Tactic.Common

/-!
# Keyset pagination

A listing is read page by page. A later page shows the rows that lie beyond the last row of
the page before. The walk stops at an empty page. It shows the listing once exactly when at
every page end the rows beyond the last row are the rows that were not shown yet.
-/

namespace ApiBank.Relational.Keyset

set_option autoImplicit false

variable {Row : Type} (beyond : Row → Row → Prop) [DecidableRel beyond] (listing : List Row)
  (limit : Nat)

/-- The rows that a cursor leaves. -/
def eligible : Option Row → List Row
  | none => listing
  | some last => listing.filter fun row => beyond last row

def page (cursor : Option Row) : List Row := (eligible beyond listing cursor).take limit

/-- The rows of all pages up to the empty one; none while the pages are still filled. -/
def walk : Nat → Option Row → Option (List Row)
  | 0, _ => none
  | fuel + 1, cursor =>
      match (page beyond listing limit cursor).getLast? with
      | none => some []
      | some last =>
          (walk fuel (some last)).map (page beyond listing limit cursor ++ ·)

/-- At the end of so many pages the cursor separates what was shown from what was not. -/
def SeparatedAt (pages : Nat) : Prop :=
  ∀ last, (listing.take (pages * limit)).getLast? = some last →
    eligible beyond listing (some last) = listing.drop (pages * limit)

variable {beyond listing limit}

theorem mem_eligible_some {last row : Row} :
    row ∈ eligible beyond listing (some last) ↔ row ∈ listing ∧ beyond last row := by
  simp [eligible]

theorem mem_eligible_of_mem_page {cursor : Option Row} {row : Row}
    (member : row ∈ page beyond listing limit cursor) : row ∈ eligible beyond listing cursor :=
  List.mem_of_mem_take member

theorem walk_cases {fuel : Nat} {cursor : Option Row} {visited : List Row}
    (walked : walk beyond listing limit (fuel + 1) cursor = some visited) :
    (page beyond listing limit cursor = [] ∧ visited = []) ∨
      ∃ last later, (page beyond listing limit cursor).getLast? = some last ∧
        walk beyond listing limit fuel (some last) = some later ∧
          visited = page beyond listing limit cursor ++ later := by
  rw [walk] at walked
  cases ends : (page beyond listing limit cursor).getLast? with
  | none =>
      rw [ends] at walked
      exact .inl ⟨List.getLast?_eq_none_iff.mp ends, (Option.some.inj walked).symm⟩
  | some last =>
      rw [ends] at walked
      obtain ⟨later, rest, whole⟩ := Option.map_eq_some_iff.mp walked
      exact .inr ⟨last, later, rfl, rest, whole.symm⟩

section Order

variable [IsTrans Row beyond]

theorem eligible_of_eligible {cursor : Option Row} {last row : Row}
    (shown : last ∈ eligible beyond listing cursor)
    (later : row ∈ eligible beyond listing (some last)) :
    row ∈ eligible beyond listing cursor := by
  cases cursor with
  | none => exact (mem_eligible_some.mp later).1
  | some before =>
      rw [mem_eligible_some] at shown later ⊢
      exact ⟨later.1, trans_of beyond shown.2 later.2⟩

/-- Every page leaves fewer rows. -/
theorem length_eligible_lt [Std.Irrefl beyond] {cursor : Option Row} {last : Row}
    (shown : last ∈ eligible beyond listing cursor) :
    (eligible beyond listing (some last)).length < (eligible beyond listing cursor).length := by
  have sublist : (eligible beyond listing (some last)).Sublist
      (eligible beyond listing cursor) := by
    cases cursor with
    | none => exact List.filter_sublist
    | some before =>
        apply List.monotone_filter_right
        intro row later
        rw [decide_eq_true_eq] at later ⊢
        exact trans_of beyond (mem_eligible_some.mp shown).2 later
  apply Nat.lt_of_le_of_ne sublist.length_le
  intro same
  rw [← sublist.eq_of_length same] at shown
  exact irrefl_of beyond last (mem_eligible_some.mp shown).2

/-- So the walk comes to an empty page. -/
theorem walk_ends [Std.Irrefl beyond] {fuel : Nat} {cursor : Option Row}
    (enough : (eligible beyond listing cursor).length < fuel) :
    ∃ visited, walk beyond listing limit fuel cursor = some visited := by
  induction fuel generalizing cursor with
  | zero => cases enough
  | succ fuel ih =>
      rw [walk]
      cases ends : (page beyond listing limit cursor).getLast? with
      | none => exact ⟨[], rfl⟩
      | some last =>
          have shown := mem_eligible_of_mem_page (List.mem_of_getLast? ends)
          have fewer := length_eligible_lt shown
          have left : (eligible beyond listing (some last)).length < fuel := by omega
          obtain ⟨visited, walked⟩ := ih left
          exact ⟨page beyond listing limit cursor ++ visited, by simp [walked]⟩

theorem eligible_of_visited {fuel : Nat} {cursor : Option Row} {visited : List Row}
    (walked : walk beyond listing limit fuel cursor = some visited) {row : Row}
    (member : row ∈ visited) : row ∈ eligible beyond listing cursor := by
  induction fuel generalizing cursor visited with
  | zero => cases walked
  | succ fuel ih =>
      rcases walk_cases walked with ⟨-, rfl⟩ | ⟨last, later, ends, rest, rfl⟩
      · cases member
      · have shown := mem_eligible_of_mem_page (List.mem_of_getLast? ends)
        rcases List.mem_append.mp member with own | beyondLast
        · exact mem_eligible_of_mem_page own
        · exact eligible_of_eligible shown (ih rest beyondLast)

end Order

/-- The page after `pages` pages ends where one page more ends. -/
theorem getLast?_take_succ {pages : Nat} {last : Row}
    (ends : ((listing.drop (pages * limit)).take limit).getLast? = some last) :
    (listing.take ((pages + 1) * limit)).getLast? = some last := by
  rw [Nat.succ_mul, List.take_add, List.getLast?_append, ends]
  rfl

theorem take_append_drop_succ (pages : Nat) :
    (listing.drop (pages * limit)).take limit ++ listing.drop ((pages + 1) * limit) =
      listing.drop (pages * limit) := by
  rw [Nat.succ_mul, ← List.drop_drop]
  exact List.take_append_drop limit (listing.drop (pages * limit))

/-- A cursor that separates leads through the rest of the listing, page by page. -/
theorem walk_of_separated (positive : 0 < limit)
    (separated : ∀ pages, SeparatedAt beyond listing limit pages) {fuel pages : Nat}
    {cursor : Option Row} {visited : List Row}
    (reached : eligible beyond listing cursor = listing.drop (pages * limit))
    (walked : walk beyond listing limit fuel cursor = some visited) :
    visited = listing.drop (pages * limit) := by
  induction fuel generalizing pages cursor visited with
  | zero => cases walked
  | succ fuel ih =>
      have shown : page beyond listing limit cursor =
          (listing.drop (pages * limit)).take limit := by
        rw [page, reached]
      rcases walk_cases walked with ⟨empty, rfl⟩ | ⟨last, later, ends, rest, rfl⟩
      · rw [shown, List.take_eq_nil_iff] at empty
        exact (empty.resolve_left (Nat.ne_of_gt positive)).symm
      · rw [shown] at ends
        have next := separated (pages + 1) last (getLast?_take_succ ends)
        rw [ih next rest, shown]
        exact take_append_drop_succ pages

theorem filter_append_eq_right_iff {condition : Row → Bool} {front rest : List Row} :
    (front ++ rest).filter condition = rest ↔
      (∀ row ∈ front, condition row = false) ∧ ∀ row ∈ rest, condition row = true := by
  constructor
  · intro same
    have inside : ∀ row ∈ rest, condition row = true := by
      intro row member
      rw [← same] at member
      exact (List.mem_filter.mp member).2
    rw [List.filter_append, List.filter_eq_self.mpr inside, List.append_left_eq_self] at same
    refine ⟨?_, inside⟩
    intro row member
    exact Bool.eq_false_iff.mpr (List.filter_eq_nil_iff.mp same row member)
  · intro sides
    rw [List.filter_append, List.filter_eq_self.mpr sides.2,
      List.filter_eq_nil_iff.mpr fun row member => by simp [sides.1 row member],
      List.nil_append]

theorem head_mem_of_walk (positive : 0 < limit) {fuel : Nat} {cursor : Option Row}
    {visited : List Row} (walked : walk beyond listing limit fuel cursor = some visited)
    {first : Row} {others : List Row} (left : eligible beyond listing cursor = first :: others) :
    first ∈ visited := by
  have shown : first ∈ page beyond listing limit cursor := by
    rw [page, left]
    cases limit with
    | zero => cases positive
    | succ limit => exact List.mem_cons_self
  cases fuel with
  | zero => cases walked
  | succ fuel =>
      rcases walk_cases walked with ⟨empty, -⟩ | ⟨last, later, -, -, rfl⟩
      · rw [empty] at shown
        cases shown
      · exact List.mem_append_left later shown

/-- A row in front of a page end that its cursor leaves does not stand behind it as well. -/
def Apart (beyond : Row → Row → Prop) (listing : List Row) (limit : Nat) : Prop :=
  ∀ pages last, (listing.take (pages * limit)).getLast? = some last →
    ∀ row ∈ listing.take (pages * limit), beyond last row → row ∉ listing.drop (pages * limit)

omit [DecidableRel beyond] in
theorem apart_of_nodup (distinct : listing.Nodup) : Apart beyond listing limit := by
  intro pages last ends row front beyondLast behind
  rw [← List.take_append_drop (pages * limit) listing] at distinct
  exact (List.nodup_append.mp distinct).2.2 row front row behind rfl

omit [DecidableRel beyond] in
theorem apart_of_sorted (sorted : listing.Pairwise fun row other => ¬beyond other row)
    (irreflexive : ∀ row, ¬beyond row row) : Apart beyond listing limit := by
  intro pages last ends row front beyondLast
  obtain ⟨before, parts⟩ := List.getLast?_eq_some_iff.mp ends
  have ordered := sorted.sublist (List.take_sublist (pages * limit) listing)
  rw [parts] at ordered front
  rcases List.mem_append.mp front with earlier | own
  · exact absurd beyondLast ((List.pairwise_append.mp ordered).2.2 row earlier last (by simp))
  · obtain rfl := List.mem_singleton.mp own
    exact absurd beyondLast (irreflexive row)

/-- A walk that goes on to show just the rest has a cursor that separates: a row in front
that the cursor leaves would be shown again, on the next page. -/
theorem separates_of_walk [IsTrans Row beyond] (positive : 0 < limit)
    (apart : Apart beyond listing limit) {fuel pages : Nat} {last : Row} {later : List Row}
    (ends : (listing.take (pages * limit)).getLast? = some last)
    (walked : walk beyond listing limit fuel (some last) = some later)
    (complete : later.Perm (listing.drop (pages * limit))) :
    eligible beyond listing (some last) = listing.drop (pages * limit) := by
  have split := List.take_append_drop (pages * limit) listing
  have inside : ∀ row ∈ listing.drop (pages * limit), beyond last row := by
    intro row member
    have visited := complete.mem_iff.mpr member
    exact (mem_eligible_some.mp (eligible_of_visited walked visited)).2
  have parts : eligible beyond listing (some last) =
      (listing.take (pages * limit)).filter (fun row => beyond last row) ++
        listing.drop (pages * limit) := by
    conv_lhs => rw [eligible, ← split]
    rw [List.filter_append, List.filter_eq_self.mpr fun row member =>
      decide_eq_true (inside row member)]
  cases again : (listing.take (pages * limit)).filter (fun row => beyond last row) with
  | nil => rw [parts, again, List.nil_append]
  | cons first others =>
      rw [again, List.cons_append] at parts
      have visited := head_mem_of_walk positive walked parts
      have front : first ∈ listing.take (pages * limit) := by
        apply List.mem_of_mem_filter (p := fun row => decide (beyond last row))
        rw [again]
        exact List.mem_cons_self
      have eligibleFirst : first ∈ eligible beyond listing (some last) := by
        rw [parts]
        exact List.mem_cons_self
      exact absurd (complete.mem_iff.mp visited)
        (apart pages last ends first front (mem_eligible_some.mp eligibleFirst).2)

/-- From a page end at which the cursor separates, a walk that shows just the rest comes
to page ends of the same kind only. -/
theorem separated_of_walk [IsTrans Row beyond] (positive : 0 < limit)
    (apart : Apart beyond listing limit) {fuel pages : Nat} {cursor : Option Row}
    {visited : List Row}
    (before : ∀ earlier ≤ pages, SeparatedAt beyond listing limit earlier)
    (reached : eligible beyond listing cursor = listing.drop (pages * limit))
    (walked : walk beyond listing limit fuel cursor = some visited)
    (complete : visited.Perm (listing.drop (pages * limit))) :
    ∀ pages, SeparatedAt beyond listing limit pages := by
  induction fuel generalizing pages cursor visited with
  | zero => cases walked
  | succ fuel ih =>
      have shown : page beyond listing limit cursor =
          (listing.drop (pages * limit)).take limit := by
        rw [page, reached]
      rcases walk_cases walked with ⟨empty, rfl⟩ | ⟨last, later, ends, rest, rfl⟩
      · -- the listing is at its end, and no later page end is another one
        have finished : listing.length ≤ pages * limit :=
          List.drop_eq_nil_iff.mp (List.nil_perm.mp complete)
        intro other
        by_cases earlier : other ≤ pages
        · exact before other earlier
        · have longer : pages * limit ≤ other * limit := Nat.mul_le_mul_right limit (by omega)
          have own := before pages (Nat.le_refl pages)
          rw [SeparatedAt, List.take_of_length_le finished, List.drop_of_length_le finished] at own
          rw [SeparatedAt, List.take_of_length_le (Nat.le_trans finished longer),
            List.drop_of_length_le (Nat.le_trans finished longer)]
          exact own
      · rw [shown] at ends complete
        have next : later.Perm (listing.drop ((pages + 1) * limit)) := by
          have parts : (listing.drop (pages * limit)).take limit ++
              listing.drop ((pages + 1) * limit) = listing.drop (pages * limit) :=
            take_append_drop_succ pages
          exact (List.perm_append_left_iff _).mp (complete.trans (.of_eq parts.symm))
        have separates := separates_of_walk positive apart (getLast?_take_succ ends) rest next
        refine ih ?_ separates rest next
        intro other bound final finalEnds
        by_cases earlier : other ≤ pages
        · exact before other earlier final finalEnds
        · obtain rfl : other = pages + 1 := by omega
          rw [getLast?_take_succ ends] at finalEnds
          obtain rfl := Option.some.inj finalEnds
          exact separates

/-- A walk shows every row once exactly when all page ends separate; it then shows them in
their order. -/
theorem walk_complete_iff [IsTrans Row beyond] (positive : 0 < limit)
    (apart : Apart beyond listing limit) {fuel : Nat} {visited : List Row}
    (walked : walk beyond listing limit fuel none = some visited) :
    (visited.Perm listing ↔ ∀ pages, SeparatedAt beyond listing limit pages) ∧
      ((∀ pages, SeparatedAt beyond listing limit pages) → visited = listing) := by
  have start : eligible beyond listing none = listing.drop (0 * limit) := by simp [eligible]
  have whole : (∀ pages, SeparatedAt beyond listing limit pages) → visited = listing := by
    intro separated
    have same := walk_of_separated positive separated start walked
    simpa using same
  refine ⟨⟨?_, fun separated => by rw [whole separated]⟩, whole⟩
  intro complete
  refine separated_of_walk positive apart ?_ start walked (by simpa using complete)
  intro earlier bound last ends
  obtain rfl : earlier = 0 := by omega
  simp at ends

end ApiBank.Relational.Keyset
