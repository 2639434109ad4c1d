import Mathlib.Data.List.Nodup
import Mathlib.Logic.Function.Basic

/-! Insert-only transactions on one table with a unique index. An owner begins one transaction, inserts rows into it
and commits them all or none. A key belongs to one row at most: an insert fails on a key that is committed or the
transaction's own, and waits while another open transaction has it. -/

/-- `log` has the committed rows with their owners, in the order of the commits. -/
structure IndexedStore (Row : Type) where
  opened : Nat → Option (List Row)
  owners : List Nat
  log : List (Nat × Row)

namespace IndexedStore

variable {Row Key : Type} [DecidableEq Key] (key : Row → Option Key)

def empty : IndexedStore Row := ⟨fun _ => none,[],[]⟩

/-- Rows without a key are not in the index. -/
def clashes (row other : Row) : Bool := (key row).isSome && key other == key row

def begin (store : IndexedStore Row) (owner : Nat) : Option (IndexedStore Row) :=
  if owner ∈ store.owners then none
  else some { store with opened := Function.update store.opened owner (some []), owners := owner :: store.owners }

inductive Inserted (Row : Type) where
  | taken
  | stored (after : IndexedStore Row)

def insert (store : IndexedStore Row) (owner : Nat) (row : Row) : Option (Inserted Row) :=
  match store.opened owner with
  | none => none
  | some rows =>
      if (store.log.map Prod.snd ++ rows).any (clashes key row) then some .taken
      else if store.owners.any (fun other => (store.opened other).any (fun theirs => theirs.any (clashes key row))) then none
      else some (.stored { store with opened := Function.update store.opened owner (some (rows ++ [row])) })

def commit (store : IndexedStore Row) (owner : Nat) : Option (IndexedStore Row) :=
  (store.opened owner).map (fun rows => { store with
    opened := Function.update store.opened owner none
    log := store.log ++ rows.map (fun row => (owner,row)) })

def rollback (store : IndexedStore Row) (owner : Nat) : IndexedStore Row :=
  { store with opened := Function.update store.opened owner none }

variable {key} {store after : IndexedStore Row} {owner : Nat} {row : Row}

theorem clashes_iff {other : Row} : clashes key row other ↔ ∃ wanted, key row = some wanted ∧ key other = some wanted := by
  unfold clashes
  cases key row <;> simp

theorem clashes_comm (left right : Row) : clashes key left right = clashes key right left := by
  rw [Bool.eq_iff_iff,clashes_iff,clashes_iff]
  exact ⟨fun ⟨wanted,first,second⟩ => ⟨wanted,second,first⟩,fun ⟨wanted,first,second⟩ => ⟨wanted,second,first⟩⟩

theorem begin_eq (begun : store.begin owner = some after) : owner ∉ store.owners ∧
    after = { store with opened := Function.update store.opened owner (some []), owners := owner :: store.owners } := by
  unfold begin at begun
  split at begun
  next => cases begun
  next new => exact ⟨new,(Option.some.inj begun).symm⟩

structure Free (key : Row → Option Key) (store : IndexedStore Row) (rows : List Row) (row : Row) : Prop where
  committed : ∀ entry ∈ store.log, clashes key row entry.2 = false
  own : ∀ other ∈ rows, clashes key row other = false
  others : ∀ other ∈ store.owners, ∀ theirs, store.opened other = some theirs → ∀ before ∈ theirs,
    clashes key row before = false

theorem insert_stored (inserted : store.insert key owner row = some (.stored after)) :
    ∃ rows, store.opened owner = some rows ∧ Free key store rows row ∧
      after = { store with opened := Function.update store.opened owner (some (rows ++ [row])) } := by
  unfold insert at inserted
  split at inserted
  next => cases inserted
  next rows mine =>
    split at inserted
    next => cases inserted
    next unclaimed =>
      split at inserted
      next => cases inserted
      next unheld =>
        refine ⟨rows,mine,?_,(Inserted.stored.inj (Option.some.inj inserted)).symm⟩
        simp only [List.any_eq_true,List.mem_append,List.mem_map,not_exists,not_and,Bool.not_eq_true] at unclaimed
        simp only [List.any_eq_true,Option.any_eq_true,not_exists,not_and,Bool.not_eq_true] at unheld
        refine ⟨fun entry member => unclaimed _ (.inl ⟨entry,member,rfl⟩),fun other member => unclaimed _ (.inr member),?_⟩
        intro other known theirs opened before member
        exact unheld other known theirs opened before member

theorem commit_eq (committed : store.commit owner = some after) : ∃ rows, store.opened owner = some rows ∧
    after = { store with
      opened := Function.update store.opened owner none
      log := store.log ++ rows.map (fun row => (owner,row)) } := by
  obtain ⟨rows,mine,rfl⟩ := Option.map_eq_some_iff.mp committed
  exact ⟨rows,mine,rfl⟩

structure Unique (key : Row → Option Key) (store : IndexedStore Row) : Prop where
  known : ∀ owner rows, store.opened owner = some rows → owner ∈ store.owners
  log : store.log.Pairwise (fun left right => clashes key left.2 right.2 = false)
  opened : ∀ owner rows, store.opened owner = some rows → rows.Pairwise (fun left right => clashes key left right = false)
  committed : ∀ owner rows, store.opened owner = some rows → ∀ row ∈ rows, ∀ entry ∈ store.log,
    clashes key row entry.2 = false
  apart : ∀ owner other rows theirs, owner ≠ other → store.opened owner = some rows →
    store.opened other = some theirs → ∀ row ∈ rows, ∀ before ∈ theirs, clashes key row before = false

theorem opened_update {rows : Option (List Row)} {other : Nat} {given : List Row}
    (opened : Function.update store.opened owner rows other = some given) :
    other = owner ∧ rows = some given ∨ other ≠ owner ∧ store.opened other = some given := by
  by_cases self : other = owner
  · subst self
    rw [Function.update_self] at opened
    exact .inl ⟨rfl,opened⟩
  · rw [Function.update_of_ne self] at opened
    exact .inr ⟨self,opened⟩

theorem opened_self {rows given : List Row} (opened : Function.update store.opened owner (some rows) owner = some given) :
    given = rows := by
  rw [Function.update_self] at opened
  exact (Option.some.inj opened).symm

namespace Unique

theorem empty : Unique key (empty : IndexedStore Row) where
  known _ _ mine := by cases mine
  log := .nil
  opened _ _ mine := by cases mine
  committed _ _ mine := by cases mine
  apart _ _ _ _ _ mine := by cases mine

/-- One owner goes on with other rows. -/
theorem update (unique : Unique key store) {owners : List Nat} (grown : ∀ other ∈ store.owners, other ∈ owners)
    (rows : Option (List Row)) (mine : rows.isSome → owner ∈ owners)
    (free : ∀ given, rows = some given → given.Pairwise (fun left right => clashes key left right = false) ∧
      (∀ row ∈ given, ∀ entry ∈ store.log, clashes key row entry.2 = false) ∧
      ∀ other theirs, other ≠ owner → store.opened other = some theirs → ∀ row ∈ given, ∀ before ∈ theirs,
        clashes key row before = false) :
    Unique key ⟨Function.update store.opened owner rows,owners,store.log⟩ where
  known other given opened := by
    rcases opened_update opened with ⟨rfl,same⟩ | ⟨_,before⟩
    · exact mine (same ▸ rfl)
    · exact grown other (unique.known other given before)
  log := unique.log
  opened other given opened := by
    rcases opened_update opened with ⟨rfl,same⟩ | ⟨_,before⟩
    · exact (free given same).1
    · exact unique.opened other given before
  committed other given opened := by
    rcases opened_update opened with ⟨rfl,same⟩ | ⟨_,before⟩
    · exact (free given same).2.1
    · exact unique.committed other given before
  apart first second given theirs different opened others := by
    rcases opened_update opened with ⟨rfl,same⟩ | ⟨self,before⟩
    · rcases opened_update others with ⟨rfl,_⟩ | ⟨_,later⟩
      · exact absurd rfl different
      · exact (free given same).2.2 second theirs different.symm later
    · rcases opened_update others with ⟨rfl,same⟩ | ⟨_,later⟩
      · intro row member other among
        rw [clashes_comm]
        exact (free theirs same).2.2 first given self before other among row member
      · exact unique.apart first second given theirs different before later

theorem begin (unique : Unique key store) (begun : store.begin owner = some after) : Unique key after := by
  obtain ⟨_,rfl⟩ := begin_eq begun
  refine unique.update (fun _ member => List.mem_cons_of_mem _ member) _ (fun _ => List.mem_cons_self) ?_
  intro given same
  obtain rfl := Option.some.inj same
  exact ⟨.nil,fun _ absent => (List.not_mem_nil absent).elim,fun _ _ _ _ _ absent => (List.not_mem_nil absent).elim⟩

/-- One more row, with a key that is free. -/
theorem add (unique : Unique key store) {rows : List Row} (mine : store.opened owner = some rows)
    (free : Free key store rows row) :
    Unique key { store with opened := Function.update store.opened owner (some (rows ++ [row])) } := by
  have here := unique.known owner rows mine
  refine unique.update (fun _ member => member) _ (fun _ => here) ?_
  intro given same
  obtain rfl := Option.some.inj same
  refine ⟨?_,?_,?_⟩
  · refine List.pairwise_append.mpr ⟨unique.opened owner rows mine,List.pairwise_singleton _ _,?_⟩
    intro before among last member
    obtain rfl := List.mem_singleton.mp member
    rw [clashes_comm]
    exact free.own before among
  · intro other member entry among
    rcases List.mem_append.mp member with old | new
    · exact unique.committed owner rows mine other old entry among
    · obtain rfl := List.mem_singleton.mp new
      exact free.committed entry among
  · intro other theirs different opened new member before among
    rcases List.mem_append.mp member with old | last
    · exact unique.apart owner other rows theirs different.symm mine opened new old before among
    · obtain rfl := List.mem_singleton.mp last
      exact free.others other (unique.known other theirs opened) theirs opened before among

theorem insert (unique : Unique key store) (inserted : store.insert key owner row = some (.stored after)) :
    Unique key after := by
  obtain ⟨rows,mine,free,rfl⟩ := insert_stored inserted
  exact unique.add mine free

theorem rollback (unique : Unique key store) : Unique key (store.rollback owner) :=
  unique.update (fun _ member => member) none (fun impossible => by cases impossible)
    (fun _ impossible => by cases impossible)

theorem commit (unique : Unique key store) (committed : store.commit owner = some after) : Unique key after := by
  obtain ⟨rows,mine,rfl⟩ := commit_eq committed
  have ended : Unique key (store.rollback owner) := unique.rollback
  refine ⟨ended.known,?_,ended.opened,?_,ended.apart⟩
  · refine List.pairwise_append.mpr ⟨unique.log,List.pairwise_map.mpr (unique.opened owner rows mine),?_⟩
    intro entry among last member
    obtain ⟨row,inserted,rfl⟩ := List.mem_map.mp member
    rw [clashes_comm]
    exact unique.committed owner rows mine row inserted entry among
  · intro other given opened row member entry among
    obtain ⟨_,impossible⟩ | ⟨different,before⟩ := opened_update opened
    · cases impossible
    rcases List.mem_append.mp among with old | new
    · exact unique.committed other given before row member entry old
    · obtain ⟨last,inserted,rfl⟩ := List.mem_map.mp new
      exact unique.apart other owner given rows different before mine row member last inserted

/-- The committed rows that have a key have one each. -/
theorem nodup (unique : Unique key store) {wanted : Row → Key} (keyed : ∀ row, key row = some (wanted row)) :
    (store.log.map (fun entry => wanted entry.2)).Nodup := by
  refine List.pairwise_map.mpr (unique.log.imp ?_)
  intro left right apart same
  have clash : clashes key left.2 right.2 := clashes_iff.mpr ⟨_,keyed left.2,same ▸ keyed right.2⟩
  rw [apart] at clash
  cases clash

end Unique

structure All (allowed : Nat → Row → Prop) (store : IndexedStore Row) : Prop where
  committed : ∀ entry ∈ store.log, allowed entry.1 entry.2
  opened : ∀ owner rows, store.opened owner = some rows → ∀ row ∈ rows, allowed owner row

namespace All

variable {allowed weaker : Nat → Row → Prop}

theorem empty : All allowed (empty : IndexedStore Row) where
  committed _ member := (List.not_mem_nil member).elim
  opened _ _ mine := by cases mine

theorem mono (all : All allowed store) (implied : ∀ owner row, allowed owner row → weaker owner row) : All weaker store where
  committed entry member := implied _ _ (all.committed entry member)
  opened owner rows mine row member := implied _ _ (all.opened owner rows mine row member)

theorem begin (all : All allowed store) (begun : store.begin owner = some after) : All allowed after := by
  obtain ⟨_,rfl⟩ := begin_eq begun
  refine ⟨all.committed,?_⟩
  intro other given opened row member
  rcases opened_update opened with ⟨rfl,same⟩ | ⟨_,before⟩
  · obtain rfl := Option.some.inj same
    exact (List.not_mem_nil member).elim
  · exact all.opened other given before row member

theorem insert (all : All allowed store) (inserted : store.insert key owner row = some (.stored after))
    (mine : allowed owner row) : All allowed after := by
  obtain ⟨rows,before,_,rfl⟩ := insert_stored inserted
  refine ⟨all.committed,?_⟩
  intro other given opened found member
  rcases opened_update opened with ⟨rfl,same⟩ | ⟨_,earlier⟩
  · obtain rfl := Option.some.inj same
    rcases List.mem_append.mp member with old | new
    · exact all.opened other rows before found old
    · obtain rfl := List.mem_singleton.mp new
      exact mine
  · exact all.opened other given earlier found member

theorem rollback (all : All allowed store) : All allowed (store.rollback owner) := by
  refine ⟨all.committed,?_⟩
  intro other given opened row member
  rcases opened_update opened with ⟨_,impossible⟩ | ⟨_,before⟩
  · cases impossible
  · exact all.opened other given before row member

theorem commit (all : All allowed store) (committed : store.commit owner = some after) : All allowed after := by
  obtain ⟨rows,mine,rfl⟩ := commit_eq committed
  have ended : All allowed (store.rollback owner) := all.rollback
  refine ⟨?_,ended.opened⟩
  intro entry member
  rcases List.mem_append.mp member with old | new
  · exact all.committed entry old
  · obtain ⟨row,inserted,rfl⟩ := List.mem_map.mp new
    exact all.opened owner rows mine row inserted

end All

structure Single (store : IndexedStore Row) : Prop where
  known : ∀ owner rows, store.opened owner = some rows → owner ∈ store.owners
  entered : ∀ entry ∈ store.log, entry.1 ∈ store.owners
  pending : ∀ owner rows, store.opened owner = some rows → ∀ entry ∈ store.log, entry.1 ≠ owner
  opened : ∀ owner rows, store.opened owner = some rows → rows.length ≤ 1
  log : (store.log.map Prod.fst).Nodup

namespace Single

theorem empty : Single (empty : IndexedStore Row) where
  known _ _ mine := by cases mine
  entered _ member := (List.not_mem_nil member).elim
  pending _ _ mine := by cases mine
  opened _ _ mine := by cases mine
  log := .nil

theorem begin (single : Single store) (begun : store.begin owner = some after) : Single after := by
  obtain ⟨new,rfl⟩ := begin_eq begun
  refine ⟨?_,fun entry member => List.mem_cons_of_mem _ (single.entered entry member),?_,?_,single.log⟩
  · intro other given opened
    rcases opened_update opened with ⟨rfl,_⟩ | ⟨_,before⟩
    · exact List.mem_cons_self
    · exact List.mem_cons_of_mem _ (single.known other given before)
  · intro other given opened entry member same
    rcases opened_update opened with ⟨rfl,_⟩ | ⟨_,before⟩
    · exact new (same ▸ single.entered entry member)
    · exact single.pending other given before entry member same
  · intro other given opened
    rcases opened_update opened with ⟨rfl,same⟩ | ⟨_,before⟩
    · obtain rfl := Option.some.inj same
      exact Nat.zero_le 1
    · exact single.opened other given before

/-- An owner without rows inserts its one. -/
theorem insert (single : Single store) (inserted : store.insert key owner row = some (.stored after))
    (none : ∀ rows, store.opened owner = some rows → rows = []) : Single after := by
  obtain ⟨rows,mine,_,rfl⟩ := insert_stored inserted
  obtain rfl := none rows mine
  refine ⟨?_,single.entered,?_,?_,single.log⟩
  · intro other given opened
    rcases opened_update opened with ⟨rfl,_⟩ | ⟨_,before⟩
    · exact single.known other [] mine
    · exact single.known other given before
  · intro other given opened
    rcases opened_update opened with ⟨rfl,_⟩ | ⟨_,before⟩
    · exact single.pending other [] mine
    · exact single.pending other given before
  · intro other given opened
    rcases opened_update opened with ⟨_,same⟩ | ⟨_,before⟩
    · obtain rfl := Option.some.inj same
      exact Nat.le_refl 1
    · exact single.opened other given before

theorem rollback (single : Single store) : Single (store.rollback owner) := by
  have before : ∀ other given, (store.rollback owner).opened other = some given → store.opened other = some given := by
    intro other given opened
    rcases opened_update opened with ⟨_,impossible⟩ | ⟨_,earlier⟩
    · cases impossible
    · exact earlier
  exact ⟨fun other given opened => single.known other given (before other given opened),single.entered,
    fun other given opened => single.pending other given (before other given opened),
    fun other given opened => single.opened other given (before other given opened),single.log⟩

theorem commit (single : Single store) (committed : store.commit owner = some after) : Single after := by
  obtain ⟨rows,mine,rfl⟩ := commit_eq committed
  have ended : Single (store.rollback owner) := single.rollback
  refine ⟨ended.known,?_,?_,ended.opened,?_⟩
  · intro entry member
    rcases List.mem_append.mp member with old | new
    · exact single.entered entry old
    · obtain ⟨row,_,rfl⟩ := List.mem_map.mp new
      exact single.known owner rows mine
  · intro other given opened entry member
    rcases List.mem_append.mp member with old | new
    · exact ended.pending other given opened entry old
    · obtain ⟨row,_,rfl⟩ := List.mem_map.mp new
      rintro rfl
      rcases opened_update opened with ⟨_,impossible⟩ | ⟨different,_⟩
      · cases impossible
      · exact different rfl
  · rw [List.map_append,List.map_map]
    refine List.Nodup.append single.log ?_ ?_
    · have short := single.opened owner rows mine
      cases rows with
      | nil => exact .nil
      | cons row rest =>
        obtain rfl := List.eq_nil_of_length_eq_zero (Nat.le_zero.mp (Nat.le_of_succ_le_succ short))
        exact List.nodup_singleton _
    · intro pid committedBefore among
      obtain ⟨entry,member,rfl⟩ := List.mem_map.mp committedBefore
      obtain ⟨row,_,same⟩ := List.mem_map.mp among
      exact single.pending owner rows mine entry member same.symm

end Single

end IndexedStore
