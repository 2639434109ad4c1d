import Mathlib.Data.List.Sort
import Mathlib.Order.Monotone.Basic

/-! Keyset pagination: pages of rows in descending rank, each below a mark that the last row of the page
before leaves. The mark is coarser than the rank, and every query may order equals in its own way. -/
namespace Paging

section
variable {A K : Type} [LinearOrder K]

structure Arranger (rank : A → K) where
  arrange : List A → List A
  perm : ∀ rows, (arrange rows).Perm rows
  descends : ∀ rows, (arrange rows).Pairwise (fun newer older => rank older ≤ rank newer)

structure Coarsening (K : Type) [LinearOrder K] where
  mark : K → K
  mono : Monotone mark
  le : ∀ k, mark k ≤ k
  idem : ∀ k, mark (mark k) = mark k

variable {rank : A → K}

def below (rank : A → K) (bound : Option K) (row : A) : Bool := bound.all (fun bound => rank row < bound)

def page (arranger : Arranger rank) (limit : Nat) (rows : List A) (bound : Option K) : List A :=
  (arranger.arrange (rows.filter (below rank bound))).take limit

/-- The pages up to the first empty one; `none` when the fuel does not last that long. -/
def walk (coarsening : Coarsening K) (limit : Nat) (rows : List A) :
    Nat → (Nat → Arranger rank) → Option K → Option (List A)
  | 0, _, _ => none
  | fuel + 1, arrangers, bound =>
      let visited := page (arrangers 0) limit rows bound
      match visited.getLast? with
      | none => some []
      | some last => (walk coarsening limit rows fuel (fun turn => arrangers (turn + 1))
          (some (coarsening.mark (rank last)))).map (visited ++ ·)

theorem walk_succ {coarsening : Coarsening K} {limit : Nat} {rows visited : List A} {fuel : Nat} :
    ∀ {arrangers : Nat → Arranger rank} {bound : Option K},
      walk coarsening limit rows fuel arrangers bound = some visited →
      walk coarsening limit rows (fuel + 1) arrangers bound = some visited := by
  induction fuel generalizing visited with
  | zero =>
    intro arrangers bound walked
    cases walked
  | succ fuel ih =>
    intro arrangers bound walked
    rw [walk] at walked ⊢
    split at walked
    next => exact walked
    next last _ =>
      obtain ⟨later,further,rfl⟩ := Option.map_eq_some_iff.mp walked
      exact Option.map_eq_some_iff.mpr ⟨later,ih further,rfl⟩

theorem walk_fuel {coarsening : Coarsening K} {limit : Nat} {rows visited : List A} {fuel more : Nat}
    {arrangers : Nat → Arranger rank} {bound : Option K} (enough : fuel ≤ more)
    (walked : walk coarsening limit rows fuel arrangers bound = some visited) :
    walk coarsening limit rows more arrangers bound = some visited := by
  induction enough with
  | refl => exact walked
  | step _ ih => exact walk_succ ih

def ranks (rank : A → K) (rows : List A) : List K := (rows.map rank).insertionSort (· ≥ ·)

def Unsplit (coarsening : Coarsening K) (limit : Nat) (ranks : List K) : Prop :=
  ∀ k, 0 < k → ∀ newer ∈ ranks[k * limit - 1]?, ∀ older ∈ ranks[k * limit]?,
    coarsening.mark older < coarsening.mark newer

theorem ranks_of_descends {rows : List A} (descends : rows.Pairwise (fun newer older => rank older ≤ rank newer)) :
    ranks rank rows = rows.map rank := by
  apply List.Perm.eq_of_pairwise' (r := (· ≥ ·))
  · exact List.pairwise_insertionSort _ _
  · exact List.pairwise_map.mpr descends
  · exact List.perm_insertionSort _ _

theorem ranks_perm {rows others : List A} (same : rows.Perm others) : ranks rank rows = ranks rank others := by
  apply List.Perm.eq_of_pairwise' (r := (· ≥ ·))
  · exact List.pairwise_insertionSort _ _
  · exact List.pairwise_insertionSort _ _
  · exact ((List.perm_insertionSort _ _).trans (same.map rank)).trans (List.perm_insertionSort _ _).symm

theorem unsplit_drop (coarsening : Coarsening K) {limit : Nat} (some : 0 < limit) (ranks : List K) :
    Unsplit coarsening limit ranks ↔
      (∀ newer ∈ ranks[limit - 1]?, ∀ older ∈ ranks[limit]?, coarsening.mark older < coarsening.mark newer) ∧
        Unsplit coarsening limit (ranks.drop limit) := by
  have further : ∀ k, 0 < k → (ranks.drop limit)[k * limit - 1]? = ranks[(k + 1) * limit - 1]? ∧
      (ranks.drop limit)[k * limit]? = ranks[(k + 1) * limit]? := by
    intro k positive
    have counted : 0 < k * limit := Nat.mul_pos positive some
    rw [List.getElem?_drop,List.getElem?_drop,Nat.succ_mul]
    exact ⟨congrArg (ranks[·]?) (by omega),congrArg (ranks[·]?) (by omega)⟩
  constructor
  · intro unsplit
    refine ⟨?_,?_⟩
    · simpa using unsplit 1 Nat.one_pos
    · intro k positive
      rw [(further k positive).1,(further k positive).2]
      exact unsplit (k + 1) (Nat.succ_pos k)
  · rintro ⟨first,later⟩ k positive
    obtain rfl | ⟨k,rfl⟩ : k = 1 ∨ ∃ earlier, k = earlier + 1 + 1 := by
      cases k with
      | zero => omega
      | succ k => cases k <;> simp
    · simpa using first
    · have at_k := later (k + 1) (Nat.succ_pos k)
      rwa [(further (k + 1) (Nat.succ_pos k)).1,(further (k + 1) (Nat.succ_pos k)).2] at at_k

theorem boundary_iff (coarsening : Coarsening K) {limit : Nat} (some : 0 < limit) {rows : List A} {last : A}
    (descends : rows.Pairwise (fun newer older => rank older ≤ rank newer))
    (ends : (rows.take limit).getLast? = .some last) :
    (∀ row ∈ rows.drop limit, rank row < coarsening.mark (rank last)) ↔
      ∀ newer ∈ (rows.map rank)[limit - 1]?, ∀ older ∈ (rows.map rank)[limit]?,
        coarsening.mark older < coarsening.mark newer := by
  rw [List.getLast?_take,if_neg (by omega)] at ends
  simp only [List.getElem?_map,Option.mem_def,Option.map_eq_some_iff,forall_exists_index,and_imp,
    forall_apply_eq_imp_iff₂]
  constructor
  · intro behind newer atNewer older atOlder
    obtain rfl : newer = last := by simpa [atNewer] using ends
    have member : older ∈ rows.drop limit := List.mem_of_getElem? (i := 0) (by simpa using atOlder)
    exact (coarsening.le _).trans_lt (behind older member)
  · intro apart row member
    obtain ⟨i,at_i⟩ := List.mem_iff_getElem?.mp member
    rw [List.getElem?_drop] at at_i
    obtain ⟨inside,rfl⟩ := List.getElem?_eq_some_iff.mp at_i
    have newest : rows[limit - 1]? = .some rows[limit - 1] := List.getElem?_eq_getElem (by omega)
    have oldest : rows[limit]? = .some rows[limit] := List.getElem?_eq_getElem (by omega)
    obtain rfl : rows[limit - 1] = last := by simpa [newest] using ends
    have differs := apart _ newest _ oldest
    have first : rank rows[limit] < coarsening.mark (rank rows[limit - 1]) := by
      by_contra kept
      have up := coarsening.mono (not_lt.mp kept)
      rw [coarsening.idem] at up
      exact absurd differs (not_lt.mpr up)
    obtain rfl | later := Nat.eq_zero_or_pos i
    · exact first
    · exact (List.pairwise_iff_getElem.mp descends limit (limit + i) (by omega) inside (by omega)).trans_lt first

theorem filter_below {coarsening : Coarsening K} {bound : Option K} {last : A} (inside : below rank bound last)
    (rows : List A) : rows.filter (below rank (some (coarsening.mark (rank last)))) =
      (rows.filter (below rank bound)).filter (below rank (some (coarsening.mark (rank last)))) := by
  rw [List.filter_filter]
  apply List.filter_congr
  intro row _
  cases bound with
  | none => simp [below]
  | some bound =>
    have later : rank row < coarsening.mark (rank last) → rank row < bound := by
      intro lower
      exact lower.trans ((coarsening.le _).trans_lt (by simpa [below] using inside))
    simpa [below] using later

section step
variable (coarsening : Coarsening K) (arranger : Arranger rank) {limit : Nat} {left : List A} {last : A}

theorem last_le_page (ends : ((arranger.arrange left).take limit).getLast? = some last) :
    ∀ row ∈ (arranger.arrange left).take limit, rank last ≤ rank row := by
  intro row member
  obtain ⟨earlier,split⟩ := List.getLast?_eq_some_iff.mp ends
  have descends := (arranger.descends left).sublist (List.take_sublist limit _)
  rw [split] at member descends
  obtain before | same := List.mem_append.mp member
  · exact (List.pairwise_append.mp descends).2.2 row before last List.mem_cons_self
  · rw [List.mem_singleton.mp same]

/-- What a page leaves to the queries after it lies behind the page. -/
theorem left_perm (ends : ((arranger.arrange left).take limit).getLast? = some last) :
    (left.filter (below rank (some (coarsening.mark (rank last))))).Perm
      (((arranger.arrange left).drop limit).filter (below rank (some (coarsening.mark (rank last))))) := by
  have passed : ((arranger.arrange left).take limit).filter
      (below rank (some (coarsening.mark (rank last)))) = [] := by
    rw [List.filter_eq_nil_iff]
    intro row member
    simpa [below] using (coarsening.le _).trans (last_le_page arranger ends row member)
  have split := ((arranger.perm left).filter (below rank (some (coarsening.mark (rank last))))).symm
  rwa [← List.take_append_drop limit (arranger.arrange left),List.filter_append,passed,List.nil_append] at split

theorem left_iff (some : 0 < limit) (ends : ((arranger.arrange left).take limit).getLast? = .some last) :
    (left.filter (below rank (.some (coarsening.mark (rank last))))).Perm ((arranger.arrange left).drop limit) ∧
        Unsplit coarsening limit
          (ranks rank (left.filter (below rank (.some (coarsening.mark (rank last)))))) ↔
      Unsplit coarsening limit (ranks rank left) := by
  let behind := (arranger.arrange left).drop limit
  have all_left : (left.filter (below rank (.some (coarsening.mark (rank last))))).Perm behind ↔
      ∀ row ∈ behind, rank row < coarsening.mark (rank last) := by
    constructor
    · intro same row member
      simpa [below] using (List.mem_filter.mp (same.mem_iff.mpr member)).2
    · intro lower
      have whole : behind.filter (below rank (.some (coarsening.mark (rank last)))) = behind :=
        List.filter_eq_self.mpr (fun row member => by simpa [below] using lower row member)
      rw [← whole]
      exact left_perm coarsening arranger ends
  have arranged : ranks rank left = (arranger.arrange left).map rank :=
    (ranks_perm (arranger.perm left).symm).trans (ranks_of_descends (arranger.descends left))
  have further : ranks rank behind = ((arranger.arrange left).map rank).drop limit := by
    rw [← List.map_drop]
    exact ranks_of_descends ((arranger.descends left).sublist (List.drop_sublist _ _))
  rw [arranged,unsplit_drop coarsening some (List.map rank _),
    ← boundary_iff coarsening some (arranger.descends left) ends,← further,← all_left]
  exact and_congr_right (fun same => by rw [ranks_perm same])

end step

/-- The walk over what a bound leaves ends, visits none of it twice, and all of it exactly when no page
ends within a mark. -/
theorem walk_left (coarsening : Coarsening K) {limit : Nat} (some : 0 < limit) (rows : List A) (fuel : Nat) :
    ∀ (arrangers : Nat → Arranger rank) (bound : Option K), (rows.filter (below rank bound)).length < fuel →
      ∃ visited, walk coarsening limit rows fuel arrangers bound = .some visited ∧
        visited.Subperm (rows.filter (below rank bound)) ∧
        visited.Pairwise (fun newer older => rank older ≤ rank newer) ∧
        (visited.Perm (rows.filter (below rank bound)) ↔
          Unsplit coarsening limit (ranks rank (rows.filter (below rank bound)))) := by
  induction fuel with
  | zero =>
    intro arrangers bound short
    omega
  | succ fuel ih =>
    intro arrangers bound short
    generalize same : rows.filter (below rank bound) = left at short
    let arranged := (arrangers 0).arrange left
    have paged : page (arrangers 0) limit rows bound = arranged.take limit := by rw [page,same]
    cases ends : (arranged.take limit).getLast? with
    | none =>
      obtain none_taken | empty := List.take_eq_nil_iff.mp (List.getLast?_eq_none_iff.mp ends)
      · omega
      obtain rfl : left = [] := List.nil_perm.mp (empty ▸ (arrangers 0).perm left)
      refine ⟨[],?_,List.Subperm.refl _,List.Pairwise.nil,?_⟩
      · simp only [walk,paged,ends]
      · exact ⟨fun _ k _ newer at_k => by simp [ranks] at at_k,fun _ => List.Perm.nil⟩
    | some last =>
      let rest := left.filter (below rank (.some (coarsening.mark (rank last))))
      have member : last ∈ left :=
        ((arrangers 0).perm left).subset (List.mem_of_mem_take (List.mem_of_getLast? ends))
      have inside : below rank bound last := (List.mem_filter.mp (same ▸ member)).2
      have further : rows.filter (below rank (.some (coarsening.mark (rank last)))) = rest := by
        rw [filter_below inside,same]
      have fewer : rest.length < left.length := by
        rw [List.length_filter_lt_length_iff_exists]
        exact ⟨last,member,by simpa [below] using coarsening.le _⟩
      obtain ⟨visited,walked,sub,descends,complete⟩ := ih (fun turn => arrangers (turn + 1))
        (.some (coarsening.mark (rank last))) (by rw [further]; omega)
      rw [further] at sub complete
      have behind : rest.Subperm (arranged.drop limit) :=
        (left_perm coarsening (arrangers 0) ends).subperm.trans List.filter_sublist.subperm
      have split : (arranged.take limit ++ arranged.drop limit).Perm left := by
        rw [List.take_append_drop]
        exact (arrangers 0).perm left
      refine ⟨arranged.take limit ++ visited,?_,?_,?_,?_⟩
      · simp only [walk,paged,ends]
        rw [walked]
        rfl
      · exact ((List.subperm_append_left _).mpr (sub.trans behind)).trans split.subperm
      · refine List.pairwise_append.mpr ⟨((arrangers 0).descends left).sublist (List.take_sublist _ _),descends,?_⟩
        intro newer first older later
        have lower : rank older < coarsening.mark (rank last) := by
          simpa [below] using (List.mem_filter.mp (sub.subset later)).2
        exact (lower.le.trans (coarsening.le _)).trans (last_le_page (arrangers 0) ends newer first)
      · -- the visited rows reach the end of the page's remainder only through all that is left
        rw [← left_iff coarsening (arrangers 0) some ends,← complete]
        constructor
        · intro whole
          have reached : visited.Perm (arranged.drop limit) :=
            (List.perm_append_left_iff _).mp (whole.trans split.symm)
          have equal : rest.Perm visited := (sub.perm_of_length_le (by
            rw [reached.length_eq]
            exact behind.length_le)).symm
          exact ⟨equal.trans reached,equal.symm⟩
        · rintro ⟨remaining,reached⟩
          exact ((List.perm_append_left_iff _).mpr (reached.trans remaining)).trans split

theorem walk_perm_iff (coarsening : Coarsening K) {limit : Nat} (some : 0 < limit) (rows : List A)
    (arrangers : Nat → Arranger rank) :
    ∃ visited, (∀ fuel, rows.length < fuel → walk coarsening limit rows fuel arrangers none = .some visited) ∧
      visited.Subperm rows ∧ visited.Pairwise (fun newer older => rank older ≤ rank newer) ∧
      (visited.Perm rows ↔ Unsplit coarsening limit (ranks rank rows)) := by
  have all : rows.filter (below rank none) = rows := List.filter_eq_self.mpr (fun _ _ => rfl)
  have spec := walk_left coarsening some rows (rows.length + 1) arrangers none
  rw [all] at spec
  obtain ⟨visited,walked,rest⟩ := spec (Nat.lt_succ_self _)
  exact ⟨visited,fun _ enough => walk_fuel enough walked,rest⟩

end
end Paging
