import Mathlib.Data.List.Forall2
import Mathlib.Data.List.Nodup
import Mathlib.Tactic.Common

/-!
# Keyed tables

A table is a list of rows in insertion order together with a proof that no two
rows share a key. Insertion is partial: a row whose key is taken is refused, as
a unique index refuses it. An update maps rows and must keep their keys, so the
uniqueness proof travels with the table and is never re-established later.
-/

namespace ApiBank.Relational

set_option autoImplicit false

/-- Rows in insertion order, at most one for each key. -/
structure Table {Row Key : Type} (key : Row → Key) where
  rows : List Row
  distinct : (rows.map key).Nodup

namespace Table

variable {Row Key : Type} {key : Row → Key}

theorem ext_rows {left right : Table key} (same : left.rows = right.rows) : left = right := by
  cases left
  cases right
  simpa using same

def empty : Table key where
  rows := []
  distinct := List.nodup_nil

@[simp] theorem rows_empty : (empty : Table key).rows = [] := rfl

/-- The rows of one key coincide: the uniqueness proof as a cancellation rule. -/
theorem eq_of_key_eq (table : Table key) {left right : Row}
    (leftMember : left ∈ table.rows) (rightMember : right ∈ table.rows)
    (same : key left = key right) : left = right :=
  List.inj_on_of_nodup_map table.distinct leftMember rightMember same

/-- `UPDATE`: every row is mapped; the function may single rows out itself. -/
def update (table : Table key) (change : Row → Row)
    (keeps : ∀ row, key (change row) = key row) : Table key where
  rows := table.rows.map change
  distinct := by
    have sameKeys : (table.rows.map change).map key = table.rows.map key := by
      simp [List.map_map, Function.comp_def, keeps]
    rw [sameKeys]
    exact table.distinct

@[simp] theorem rows_update (table : Table key) (change : Row → Row)
    (keeps : ∀ row, key (change row) = key row) :
    (table.update change keeps).rows = table.rows.map change := rfl

section Lookup

variable [DecidableEq Key]

/-- `SELECT` by key. -/
def find? (table : Table key) (wanted : Key) : Option Row :=
  table.rows.find? fun row => key row = wanted

@[simp] theorem find?_empty (wanted : Key) : (empty : Table key).find? wanted = none := rfl

theorem find?_eq_some_iff (table : Table key) (wanted : Key) (row : Row) :
    table.find? wanted = some row ↔ row ∈ table.rows ∧ key row = wanted := by
  constructor
  · intro found
    exact ⟨List.mem_of_find?_eq_some found, by simpa using List.find?_some found⟩
  · rintro ⟨member, keyed⟩
    cases found : table.rows.find? (fun row => decide (key row = wanted)) with
    | none =>
        have absent := List.find?_eq_none.mp found row member
        simp [keyed] at absent
    | some other =>
        have otherMember := List.mem_of_find?_eq_some found
        have otherKey : key other = wanted := by simpa using List.find?_some found
        have same := table.eq_of_key_eq otherMember member (otherKey.trans keyed.symm)
        simpa [find?, same] using found

theorem find?_eq_none_iff (table : Table key) (wanted : Key) :
    table.find? wanted = none ↔ ∀ row ∈ table.rows, key row ≠ wanted := by
  simp [find?]

theorem mem_of_find? {table : Table key} {wanted : Key} {row : Row}
    (found : table.find? wanted = some row) : row ∈ table.rows :=
  ((table.find?_eq_some_iff wanted row).mp found).1

theorem key_of_find? {table : Table key} {wanted : Key} {row : Row}
    (found : table.find? wanted = some row) : key row = wanted :=
  ((table.find?_eq_some_iff wanted row).mp found).2

theorem find?_of_mem {table : Table key} {row : Row} (member : row ∈ table.rows) :
    table.find? (key row) = some row :=
  (table.find?_eq_some_iff _ row).mpr ⟨member, rfl⟩

theorem filter_key (table : Table key) (wanted : Key) :
    table.rows.filter (fun row => key row = wanted) = (table.find? wanted).toList := by
  obtain ⟨rows, distinct⟩ := table
  simp only [find?]
  induction rows with
  | nil => rfl
  | cons row rest ih =>
      rw [List.map_cons, List.nodup_cons] at distinct
      by_cases keyed : key row = wanted
      · have absent : rest.filter (fun row => decide (key row = wanted)) = [] := by
          apply List.filter_eq_nil_iff.mpr
          intro other member same
          have sameKey : key other = key row := by simpa [keyed] using same
          exact distinct.1 (sameKey ▸ List.mem_map_of_mem member)
        simp [keyed, absent]
      · simp [keyed, ih distinct.2]

/-- `INSERT`: refused when the key is taken. -/
def insert? (table : Table key) (row : Row) : Option (Table key) :=
  if fresh : key row ∈ table.rows.map key then none
  else some {
    rows := table.rows ++ [row]
    distinct := by
      rw [List.map_append, List.nodup_append]
      refine ⟨table.distinct, by simp, ?_⟩
      intro taken takenMember other otherMember same
      simp only [List.map_cons, List.map_nil, List.mem_singleton] at otherMember
      exact fresh (otherMember ▸ same ▸ takenMember) }

theorem insert?_eq_some_iff (table result : Table key) (row : Row) :
    table.insert? row = some result ↔
      table.find? (key row) = none ∧ result.rows = table.rows ++ [row] := by
  have taken : key row ∈ table.rows.map key ↔ table.find? (key row) ≠ none := by
    rw [Ne, find?_eq_none_iff]
    simp
  constructor
  · intro inserted
    unfold insert? at inserted
    split at inserted
    · contradiction
    · rename_i fresh
      cases inserted
      exact ⟨by simpa [taken] using fresh, rfl⟩
  · rintro ⟨absent, appended⟩
    unfold insert?
    split
    · rename_i present
      exact absurd absent (taken.mp present)
    · exact congrArg some (ext_rows appended.symm)

theorem insert?_eq_none_iff (table : Table key) (row : Row) :
    table.insert? row = none ↔ ∃ other ∈ table.rows, key other = key row := by
  unfold insert?
  split
  · rename_i present
    simpa using present
  · rename_i fresh
    simpa using fresh

theorem rows_of_insert? {table result : Table key} {row : Row}
    (inserted : table.insert? row = some result) : result.rows = table.rows ++ [row] :=
  ((table.insert?_eq_some_iff result row).mp inserted).2

theorem fresh_of_insert? {table result : Table key} {row : Row}
    (inserted : table.insert? row = some result) : table.find? (key row) = none :=
  ((table.insert?_eq_some_iff result row).mp inserted).1

theorem insert?_of_fresh {table : Table key} {row : Row}
    (fresh : table.find? (key row) = none) :
    ∃ result, table.insert? row = some result := by
  cases inserted : table.insert? row with
  | some result => exact ⟨result, rfl⟩
  | none =>
      obtain ⟨other, member, same⟩ := (table.insert?_eq_none_iff row).mp inserted
      exact absurd same ((table.find?_eq_none_iff _).mp fresh other member)

/-- After an insertion, the new key finds the new row and every other key finds
what it found before. -/
theorem find?_insert? {table result : Table key} {row : Row}
    (inserted : table.insert? row = some result) (wanted : Key) :
    result.find? wanted = if key row = wanted then some row else table.find? wanted := by
  have appended := rows_of_insert? inserted
  have fresh := fresh_of_insert? inserted
  unfold find?
  rw [appended, List.find?_append]
  by_cases same : key row = wanted
  · have absent : table.rows.find? (fun row => decide (key row = wanted)) = none := by
      simpa [find?, same] using fresh
    simp [absent, same]
  · simp [same]

/-- `INSERT` under a second unique index: refused as well when the new row clashes
with a stored one. -/
def insertUnique? (table : Table key) (clash : Row → Row → Bool) (row : Row) :
    Option (Table key) :=
  if table.rows.any (clash row) then none else table.insert? row

theorem insertUnique?_eq_some_iff (table result : Table key) (clash : Row → Row → Bool)
    (row : Row) :
    table.insertUnique? clash row = some result ↔
      (∀ other ∈ table.rows, clash row other = false) ∧ table.insert? row = some result := by
  unfold insertUnique?
  split
  · rename_i clashes
    obtain ⟨other, member, same⟩ := List.any_eq_true.mp clashes
    constructor
    · intro refused
      cases refused
    · intro accepted
      simp [accepted.1 other member] at same
  · rename_i clear
    have separate : ∀ other ∈ table.rows, clash row other = false := by simpa using clear
    exact (and_iff_right separate).symm

/-- A batch of insertions: refused as a whole when one of them is. -/
def insertAll? (table : Table key) : List Row → Option (Table key)
  | [] => some table
  | row :: rest => (table.insert? row).bind fun next => next.insertAll? rest

theorem rows_of_insertAll? {table result : Table key} {rows : List Row}
    (inserted : table.insertAll? rows = some result) : result.rows = table.rows ++ rows := by
  induction rows generalizing table with
  | nil =>
      obtain rfl : table = result := by simpa [insertAll?] using inserted
      simp
  | cons row rest ih =>
      obtain ⟨next, first, later⟩ := Option.bind_eq_some_iff.mp inserted
      rw [ih later, rows_of_insert? first, List.append_assoc, List.singleton_append]

theorem insertAll?_append (table : Table key) (first second : List Row) :
    table.insertAll? (first ++ second) =
      (table.insertAll? first).bind fun next => next.insertAll? second := by
  induction first generalizing table with
  | nil => rfl
  | cons row rest ih =>
      simp only [List.cons_append, insertAll?, Option.bind_assoc]
      congr 1
      funext next
      exact ih next

theorem insertAll?_of_fresh {table : Table key} {rows : List Row}
    (fresh : ∀ row ∈ rows, table.find? (key row) = none)
    (distinct : (rows.map key).Nodup) :
    ∃ result, table.insertAll? rows = some result := by
  induction rows generalizing table with
  | nil => exact ⟨table, rfl⟩
  | cons row rest ih =>
      obtain ⟨next, first⟩ := insert?_of_fresh (fresh row (by simp))
      rw [List.map_cons, List.nodup_cons] at distinct
      have freshRest : ∀ other ∈ rest, next.find? (key other) = none := by
        intro other member
        have different : key row ≠ key other := by
          intro same
          exact distinct.1 (same ▸ List.mem_map_of_mem member)
        rw [find?_insert? first, if_neg different]
        exact fresh other (by simp [member])
      obtain ⟨result, later⟩ := ih freshRest distinct.2
      exact ⟨result, by simp [insertAll?, first, later]⟩

theorem find?_insertAll?_of_some {table result : Table key} {rows : List Row}
    (inserted : table.insertAll? rows = some result) {wanted : Key} {row : Row}
    (found : table.find? wanted = some row) : result.find? wanted = some row := by
  obtain ⟨member, keyed⟩ := (table.find?_eq_some_iff wanted row).mp found
  refine (result.find?_eq_some_iff wanted row).mpr ⟨?_, keyed⟩
  rw [rows_of_insertAll? inserted]
  exact List.mem_append_left rows member

/-- A batch does not touch the keys it does not carry. -/
theorem find?_insertAll? {table result : Table key} {rows : List Row}
    (inserted : table.insertAll? rows = some result) {wanted : Key}
    (absent : ∀ row ∈ rows, key row ≠ wanted) : result.find? wanted = table.find? wanted := by
  unfold find?
  rw [rows_of_insertAll? inserted, List.find?_append]
  have missing : rows.find? (fun row => decide (key row = wanted)) = none := by
    simpa using absent
  simp [missing]

theorem find?_update (table : Table key) (change : Row → Row)
    (keeps : ∀ row, key (change row) = key row) (wanted : Key) :
    (table.update change keeps).find? wanted = (table.find? wanted).map change := by
  simp only [find?, rows_update, List.find?_map, Function.comp_def, keeps]

/-- `UPDATE ... WHERE key = wanted`. -/
def modify (table : Table key) (wanted : Key) (change : Row → Row)
    (keeps : ∀ row, key (change row) = key row) : Table key :=
  table.update (fun row => if key row = wanted then change row else row) (by
    intro row
    split
    · exact keeps row
    · rfl)

theorem keys_modify (table : Table key) (wanted : Key) (change : Row → Row)
    (keeps : ∀ row, key (change row) = key row) :
    (table.modify wanted change keeps).rows.map key = table.rows.map key := by
  simp only [modify, rows_update, List.map_map]
  apply List.map_congr_left
  intro row _
  simp only [Function.comp_apply]
  split
  · exact keeps row
  · rfl

theorem find?_modify (table : Table key) (wanted other : Key) (change : Row → Row)
    (keeps : ∀ row, key (change row) = key row) :
    (table.modify wanted change keeps).find? other =
      if other = wanted then (table.find? other).map change else table.find? other := by
  unfold modify
  rw [find?_update]
  cases found : table.find? other with
  | none => simp
  | some row =>
      have keyed := key_of_find? found
      simp only [Option.map_some, keyed]
      split <;> rfl

/-- An update that leaves the row with the key as it is, if there is one, leaves the
table. -/
theorem modify_eq_self_iff (table : Table key) (wanted : Key) (change : Row → Row)
    (keeps : ∀ row, key (change row) = key row) :
    table.modify wanted change keeps = table ↔
      ∀ row, table.find? wanted = some row → change row = row := by
  constructor
  · intro same row found
    have changed := table.find?_modify wanted wanted change keeps
    rw [same, if_pos rfl, found, Option.map_some, Option.some.injEq] at changed
    exact changed.symm
  · intro unchanged
    apply ext_rows
    rw [modify, rows_update]
    conv_rhs => rw [← List.map_id table.rows]
    apply List.map_congr_left
    intro row member
    split
    · rename_i keyed
      exact unchanged row (keyed ▸ find?_of_mem member)
    · rfl

theorem insert?_change {table next : Table key} {row : Row} {change : Row → Row}
    (inserted : table.insert? row = some next) (keeps : ∀ row, key (change row) = key row) :
    table.insert? (change row) = some (next.modify (key row) change keeps) := by
  have fresh := fresh_of_insert? inserted
  refine (insert?_eq_some_iff ..).mpr ⟨keeps row ▸ fresh, ?_⟩
  have untouched : table.rows.map (fun other => if key other = key row then change other
      else other) = table.rows := by
    conv_rhs => rw [← List.map_id table.rows]
    apply List.map_congr_left
    intro other member
    simp [(find?_eq_none_iff ..).mp fresh other member]
  simp [modify, rows_of_insert? inserted, untouched]

/-- `DELETE ... WHERE key = wanted`. -/
def delete (table : Table key) (wanted : Key) : Table key where
  rows := table.rows.filter fun row => key row ≠ wanted
  distinct := table.distinct.sublist (List.filter_sublist.map key)

theorem mem_modify_iff (table : Table key) (wanted : Key) (change : Row → Row)
    (keeps : ∀ row, key (change row) = key row) (row : Row) :
    row ∈ (table.modify wanted change keeps).rows ↔
      ∃ old ∈ table.rows, row = if key old = wanted then change old else old := by
  simp [modify, eq_comm]

theorem isSome_insert? {table next : Table key} {row : Row} {wanted : Key}
    (inserted : table.insert? row = some next) (found : (table.find? wanted).isSome) :
    (next.find? wanted).isSome := by
  rw [find?_insert? inserted]
  split
  · rfl
  · exact found

theorem isSome_modify {table : Table key} {wanted other : Key} {change : Row → Row}
    (keeps : ∀ row, key (change row) = key row) (found : (table.find? other).isSome) :
    ((table.modify wanted change keeps).find? other).isSome := by
  rw [find?_modify]
  split
  · rw [Option.isSome_map]
    exact found
  · exact found

/-- How many rows have a property: an update of one row takes the row out of the count
and puts the changed row in. -/
theorem countP_modify {table : Table key} {wanted : Key} {row : Row}
    (found : table.find? wanted = some row) (change : Row → Row)
    (keeps : ∀ row, key (change row) = key row) (counted : Row → Bool) :
    (table.modify wanted change keeps).rows.countP counted + (if counted row then 1 else 0) =
      table.rows.countP counted + if counted (change row) then 1 else 0 := by
  obtain ⟨rows, distinct⟩ := table
  simp only [find?, modify, rows_update] at found ⊢
  induction rows with
  | nil => cases found
  | cons head rest ih =>
      rw [List.map_cons, List.nodup_cons] at distinct
      by_cases keyed : key head = wanted
      · have same : head = row := by simpa [keyed] using found
        have untouched : rest.map (fun other => if key other = wanted then change other
            else other) = rest := by
          conv_rhs => rw [← List.map_id rest]
          apply List.map_congr_left
          intro other member
          have apart : key other ≠ wanted := by
            intro taken
            exact distinct.1 (keyed.trans taken.symm ▸ List.mem_map_of_mem member)
          rw [if_neg apart, id]
        rw [List.map_cons, if_pos keyed, untouched, List.countP_cons, List.countP_cons, same]
        omega
      · have later : rest.find? (fun other => decide (key other = wanted)) = some row := by
          simpa [keyed] using found
        have counts := ih distinct.2 later
        rw [List.map_cons, if_neg keyed, List.countP_cons, List.countP_cons]
        omega

end Lookup

end Table

/-- `ORDER BY ... LIMIT 1`. -/
def firstBy {Row : Type} (before : Row → Row → Bool) : List Row → Option Row
  | [] => none
  | row :: rest =>
      match firstBy before rest with
      | none => some row
      | some best => if before best row then some best else some row

section FirstBy

variable {Row : Type} {before : Row → Row → Bool}

theorem mem_of_firstBy {rows : List Row} {best : Row} (first : firstBy before rows = some best) :
    best ∈ rows := by
  induction rows generalizing best with
  | nil => cases first
  | cons row rest ih =>
      unfold firstBy at first
      split at first
      · cases first
        exact List.mem_cons_self
      · rename_i other found
        split at first
        · cases first
          exact List.mem_cons_of_mem row (ih found)
        · cases first
          exact List.mem_cons_self

/-- Two searches over rows that correspond find rows that correspond. -/
theorem firstBy_rel {Other : Type} {Same : Row → Other → Prop} {sooner : Other → Other → Bool}
    {rows : List Row} {others : List Other} (paired : List.Forall₂ Same rows others)
    (agree : ∀ left right first second, Same left first → Same right second →
      before left right = sooner first second) :
    Option.Rel Same (firstBy before rows) (firstBy sooner others) := by
  induction paired with
  | nil => exact .none
  | @cons row other rest remaining same listed ih =>
      unfold firstBy
      generalize firstBy before rest = best at ih ⊢
      generalize firstBy sooner remaining = chosen at ih ⊢
      cases ih with
      | none => exact .some same
      | @some best chosen sameBest =>
          simp only [agree best row chosen other sameBest same]
          split
          · exact .some sameBest
          · exact .some same

theorem firstBy_eq_none_iff {rows : List Row} : firstBy before rows = none ↔ rows = [] := by
  cases rows with
  | nil => exact iff_of_true rfl rfl
  | cons row rest =>
      refine iff_of_false ?_ (List.cons_ne_nil row rest)
      unfold firstBy
      split
      · exact Option.some_ne_none row
      · split <;> exact Option.some_ne_none _

theorem firstBy_leads (asymm : ∀ left right, before left right = true → before right left = false)
    (weak : ∀ left middle right, before left middle = false → before middle right = false →
      before left right = false)
    {rows : List Row} {best : Row} (first : firstBy before rows = some best) :
    ∀ row ∈ rows, before row best = false := by
  have irreflexive : ∀ row, before row row = false := by
    intro row
    cases self : before row row with
    | false => rfl
    | true => exact self ▸ asymm row row self
  induction rows generalizing best with
  | nil => cases first
  | cons row rest ih =>
      unfold firstBy at first
      intro other member
      split at first
      · rename_i empty
        cases first
        rw [firstBy_eq_none_iff.mp empty, List.mem_singleton] at member
        exact member ▸ irreflexive row
      · rename_i earlier found
        have bound := ih found
        split at first
        · rename_i sooner
          cases first
          rcases List.mem_cons.mp member with rfl | listed
          · exact asymm _ _ sooner
          · exact bound other listed
        · rename_i later
          cases first
          rcases List.mem_cons.mp member with rfl | listed
          · exact irreflexive other
          · exact weak _ _ _ (bound other listed) (Bool.eq_false_iff.mpr later)

end FirstBy

def firstOfEach {Row Key : Type} [DecidableEq Key] (key : Row → Key) : List Row → List Row
  | [] => []
  | row :: rest => row :: (firstOfEach key rest).filter fun other => key other ≠ key row

section FirstOfEach

variable {Row Key : Type} [DecidableEq Key] (key : Row → Key)

theorem firstOfEach_snoc (rows : List Row) (row : Row) :
    firstOfEach key (rows ++ [row]) =
      if key row ∈ rows.map key then firstOfEach key rows else firstOfEach key rows ++ [row] := by
  induction rows with
  | nil => rfl
  | cons head rest ih =>
      rw [List.cons_append, firstOfEach, firstOfEach, ih]
      by_cases later : key row ∈ rest.map key
      · have present : key row ∈ (head :: rest).map key := List.mem_cons_of_mem _ later
        rw [if_pos later, if_pos present]
      · rw [if_neg later, List.filter_append]
        by_cases same : key row = key head
        · simp [same]
        · have absent : key row ∉ (head :: rest).map key := by
            rw [List.map_cons, List.mem_cons]
            exact not_or.mpr ⟨same, later⟩
          rw [if_neg absent]
          simp [same]

theorem firstOfEach_prefix (rows more : List Row) :
    ∃ others, firstOfEach key (rows ++ more) = firstOfEach key rows ++ others := by
  induction more generalizing rows with
  | nil => exact ⟨[], by simp⟩
  | cons row more ih =>
      obtain ⟨others, split⟩ := ih (rows ++ [row])
      rw [List.append_assoc, List.singleton_append, firstOfEach_snoc] at split
      split at split
      · exact ⟨others, split⟩
      · exact ⟨row :: others, by rw [split, List.append_assoc, List.singleton_append]⟩

end FirstOfEach

end ApiBank.Relational
