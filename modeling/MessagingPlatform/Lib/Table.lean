import Mathlib.Data.List.Nodup

/-! Tables with a numeric primary key. A table carries the proof that its keys are distinct,
so a key names at most one row. An `Update` is an UPDATE … SET … WHERE … statement: a
condition, an assignment and the proof that the assignment leaves the key alone. -/

structure Table (Row : Type) (key : Row → Nat) where
  rows : List Row
  distinct : (rows.map key).Nodup

structure Update (Row : Type) (key : Row → Nat) where
  cond : Row → Bool
  set : Row → Row
  keepsKey : ∀ row, key (set row) = key row

namespace Update

variable {Row : Type} {key : Row → Nat}

def write (update : Update Row key) (row : Row) : Row :=
  if update.cond row then update.set row else row

theorem key_write (update : Update Row key) (row : Row) : key (update.write row) = key row := by
  by_cases matched : update.cond row <;> simp [write,matched,update.keepsKey]

theorem write_of_not {update : Update Row key} {row : Row} (unmatched : ¬ update.cond row) :
    update.write row = row := if_neg unmatched

theorem write_of {update : Update Row key} {row : Row} (matched : update.cond row) :
    update.write row = update.set row := if_pos matched

end Update

namespace Table

variable {Row : Type} {key : Row → Nat}

instance : Membership Row (Table Row key) := ⟨fun table row => row ∈ table.rows⟩

theorem mem_rows {table : Table Row key} {row : Row} : row ∈ table ↔ row ∈ table.rows := Iff.rfl

def empty : Table Row key := ⟨[],List.nodup_nil⟩

@[simp] theorem not_mem_empty (row : Row) : row ∉ (empty : Table Row key) := by
  simp [mem_rows,empty]

def keys (table : Table Row key) : List Nat := table.rows.map key

theorem eq_of_key {table : Table Row key} {left right : Row} (first : left ∈ table)
    (second : right ∈ table) (same : key left = key right) : left = right :=
  List.inj_on_of_nodup_map table.distinct first second same

def find? (table : Table Row key) (id : Nat) : Option Row :=
  table.rows.find? (fun row => key row == id)

theorem find?_eq_some {table : Table Row key} {id : Nat} {row : Row} :
    table.find? id = some row ↔ row ∈ table ∧ key row = id := by
  constructor
  · intro found
    exact ⟨List.mem_of_find?_eq_some found,by simpa using List.find?_some found⟩
  · intro found
    obtain ⟨member,rfl⟩ := found
    cases found : table.find? (key row) with
    | none => simp [find?,List.find?_eq_none] at found; exact absurd rfl (found row member)
    | some other =>
      have other_key : key other = key row := by simpa using List.find?_some found
      rw [eq_of_key (List.mem_of_find?_eq_some found) member other_key]

/-- The rows that the WHERE clause matches, as RETURNING sees them after the assignment. -/
def returning (table : Table Row key) (update : Update Row key) : List Row :=
  (table.rows.filter update.cond).map update.set

theorem map_write_keys (rows : List Row) (update : Update Row key) :
    (rows.map update.write).map key = rows.map key := by
  rw [List.map_map]
  exact List.map_congr_left (fun row _ => update.key_write row)

def apply (table : Table Row key) (update : Update Row key) : Table Row key where
  rows := table.rows.map update.write
  distinct := (map_write_keys table.rows update).symm ▸ table.distinct

theorem mem_apply {table : Table Row key} {update : Update Row key} {row : Row} :
    row ∈ table.apply update ↔ ∃ before ∈ table, row = update.write before := by
  simp only [mem_rows,apply,List.mem_map,eq_comm]

theorem keys_apply (table : Table Row key) (update : Update Row key) :
    (table.apply update).keys = table.keys := map_write_keys table.rows update

theorem mem_returning {table : Table Row key} {update : Update Row key} {row : Row} :
    row ∈ table.returning update ↔ ∃ before ∈ table, update.cond before ∧ row = update.set before := by
  simp only [returning,List.mem_map,List.mem_filter,mem_rows,eq_comm,and_assoc]

theorem returning_eq_nil {table : Table Row key} {update : Update Row key} :
    table.returning update = [] ↔ ∀ row ∈ table, ¬ update.cond row := by
  simp [returning,List.filter_eq_nil_iff,mem_rows]

theorem returning_keys_nodup (table : Table Row key) (update : Update Row key) :
    ((table.returning update).map key).Nodup := by
  have same : (table.returning update).map key = (table.rows.filter update.cond).map key := by
    rw [returning,List.map_map]
    exact List.map_congr_left (fun row _ => update.keepsKey row)
  rw [same]
  exact table.distinct.sublist (List.filter_sublist.map key)

theorem apply_eq_self {table : Table Row key} {update : Update Row key}
    (unmatched : ∀ row ∈ table, ¬ update.cond row) : table.apply update = table := by
  obtain ⟨rows,distinct⟩ := table
  have same : rows.map update.write = rows.map id :=
    List.map_congr_left (fun row member => Update.write_of_not (unmatched row member))
  simpa [apply] using same

def insert (table : Table Row key) (row : Row) (fresh : key row ∉ table.keys) : Table Row key where
  rows := table.rows ++ [row]
  distinct := by
    rw [List.map_append,List.nodup_append]
    refine ⟨table.distinct,by simp,?_⟩
    intro id present other member same
    subst same
    exact fresh (by simpa [keys,List.mem_singleton.mp member] using present)

theorem mem_insert {table : Table Row key} {row other : Row} (fresh : key row ∉ table.keys) :
    other ∈ table.insert row fresh ↔ other ∈ table ∨ other = row := by
  simp [mem_rows,insert]

theorem filter_key {table : Table Row key} {row : Row} (member : row ∈ table) :
    table.rows.filter (fun other => key other == key row) = [row] := by
  obtain ⟨rows,distinct⟩ := table
  have among : row ∈ rows := member
  clear member
  dsimp only
  induction rows with
  | nil => cases among
  | cons first rest ih =>
    obtain ⟨apart,nodup⟩ := List.nodup_cons.mp distinct
    rcases List.mem_cons.mp among with rfl | later
    · rw [List.filter_cons_of_pos (by exact beq_self_eq_true _)]
      have none : rest.filter (fun other => key other == key row) = [] := by
        rw [List.filter_eq_nil_iff]
        intro other member same
        exact apart (eq_of_beq same ▸ List.mem_map_of_mem member)
      rw [none]
    · rw [List.filter_cons_of_neg,ih nodup later]
      intro same
      exact apart (eq_of_beq same ▸ List.mem_map_of_mem later)

/-- Of the rows that a statement returns one at most has a given key. -/
theorem returning_key {table : Table Row key} {row : Row} (member : row ∈ table) (update : Update Row key) :
    (table.returning update).filter (fun returned => key returned == key row) =
      if update.cond row then [update.set row] else [] := by
  unfold returning
  rw [List.filter_map,List.filter_filter]
  have swapped : table.rows.filter (fun other => ((fun returned => key returned == key row) ∘ update.set) other &&
      update.cond other) = (table.rows.filter (fun other => key other == key row)).filter update.cond := by
    rw [List.filter_filter]
    refine List.filter_congr (fun other _ => ?_)
    simp only [Function.comp_apply,update.keepsKey,Bool.and_comm]
  rw [swapped,filter_key member]
  by_cases matched : update.cond row
  · simp [matched]
  · simp [matched]

end Table
