import Mathlib.Data.List.Nodup
import Mathlib.Data.List.Sort

set_option autoImplicit false

-- Rows of a table with a primary key, in the order they were inserted.
namespace KeyedRows

variable {ρ κ : Type} [DecidableEq κ] (key : ρ → κ)

-- `INSERT .. ON CONFLICT (key) DO UPDATE` of all the other columns.
def upsert (rows : List ρ) (row : ρ) : List ρ :=
  if key row ∈ rows.map key then rows.map fun held => if key held = key row then row else held
  else rows ++ [row]

theorem replaced_key (row held : ρ) : key (if key held = key row then row else held) = key held := by
  split_ifs with same
  · exact same.symm
  · rfl

theorem upsert_absent (rows : List ρ) (row : ρ) (absent : key row ∉ rows.map key) :
    upsert key rows row = rows ++ [row] := if_neg absent

theorem upsert_keys (rows : List ρ) (row : ρ) (nodup : (rows.map key).Nodup) : ((upsert key rows row).map key).Nodup := by
  unfold upsert
  split_ifs with present
  · have same : (rows.map fun held => if key held = key row then row else held).map key = rows.map key := by
      rw [List.map_map]
      exact List.map_congr_left fun held _ => replaced_key key row held
    rw [same]
    exact nodup
  · rw [List.map_append]
    exact List.Nodup.append nodup (List.nodup_singleton _) (by simpa using present)

theorem upsert_mem_iff (rows : List ρ) (row held : ρ) :
    held ∈ upsert key rows row ↔ held = row ∨ (held ∈ rows ∧ key held ≠ key row) := by
  unfold upsert
  split_ifs with present
  · constructor
    · intro listed
      obtain ⟨before, listedBefore, same⟩ := List.mem_map.mp listed
      split_ifs at same with replaced
      · exact .inl same.symm
      · exact .inr ⟨same ▸ listedBefore, same ▸ replaced⟩
    · rintro (rfl | ⟨listed, different⟩)
      · obtain ⟨before, listedBefore, sameKey⟩ := List.mem_map.mp present
        exact List.mem_map.mpr ⟨before, listedBefore, if_pos sameKey⟩
      · exact List.mem_map.mpr ⟨held, listed, if_neg different⟩
  · rw [List.mem_append, List.mem_singleton, or_comm]
    refine or_congr_right ⟨fun listed => ⟨listed, fun same => present (List.mem_map.mpr ⟨held, listed, same⟩)⟩, And.left⟩

theorem upsert_last (before : List ρ) (last row : ρ) (same : key row = key last)
    (absent : key row ∉ before.map key) : upsert key (before ++ [last]) row = before ++ [row] := by
  have kept : before.map (fun held => if key held = key row then row else held) = before := by
    refine (List.map_congr_left fun held listed => if_neg fun replaced => ?_).trans (List.map_id before)
    exact absent (List.mem_map.mpr ⟨held, listed, replaced⟩)
  rw [upsert, if_pos (by simp [same]), List.map_append, kept]
  simp [same]

theorem upsert_new (rows new : List ρ) (distinct : ((rows ++ new).map key).Nodup) :
    new.foldl (upsert key) rows = rows ++ new := by
  induction new generalizing rows with
  | nil => simp
  | cons row rest ih =>
      have absent : key row ∉ rows.map key := by
        rw [List.map_append] at distinct
        exact fun present => (List.disjoint_of_nodup_append distinct) present (by simp)
      rw [List.foldl_cons, upsert_absent key rows row absent, ih (rows ++ [row]) (by simpa using distinct)]
      simp

theorem upsert_resumed (before rest : List ρ) (last row : ρ) (same : key row = key last)
    (distinct : ((before ++ row :: rest).map key).Nodup) :
    (row :: rest).foldl (upsert key) (before ++ [last]) = before ++ row :: rest := by
  have absent : key row ∉ before.map key := by
    rw [List.map_append] at distinct
    exact fun present => (List.disjoint_of_nodup_append distinct) present (by simp)
  rw [List.foldl_cons, upsert_last key before last row same absent, upsert_new key _ rest (by simpa using distinct)]
  simp

theorem upsert_keys_iff (rows : List ρ) (row : ρ) (named : κ) :
    named ∈ (upsert key rows row).map key ↔ named = key row ∨ named ∈ rows.map key := by
  simp only [List.mem_map, upsert_mem_iff]
  constructor
  · rintro ⟨held, rfl | ⟨listed, _⟩, rfl⟩
    · exact .inl rfl
    · exact .inr ⟨held, listed, rfl⟩
  · rintro (rfl | ⟨held, listed, rfl⟩)
    · exact ⟨row, .inl rfl, rfl⟩
    · by_cases same : key held = key row
      · exact ⟨row, .inl rfl, same.symm⟩
      · exact ⟨held, .inr ⟨listed, same⟩, rfl⟩

theorem upserts_keys (rows new : List ρ) (nodup : (rows.map key).Nodup) :
    ((new.foldl (upsert key) rows).map key).Nodup := by
  induction new generalizing rows with
  | nil => exact nodup
  | cons row rest ih => exact ih (upsert key rows row) (upsert_keys key rows row nodup)

theorem upserts_keys_iff (rows new : List ρ) (named : κ) :
    named ∈ (new.foldl (upsert key) rows).map key ↔ named ∈ rows.map key ∨ named ∈ new.map key := by
  induction new generalizing rows with
  | nil => simp
  | cons row rest ih =>
      rw [List.foldl_cons, ih, upsert_keys_iff, List.map_cons, List.mem_cons, or_assoc, or_left_comm]

def remove (rows : List ρ) (named : κ) : List ρ := rows.filter fun held => key held ≠ named

theorem remove_keys (rows : List ρ) (named : κ) (nodup : (rows.map key).Nodup) :
    ((remove key rows named).map key).Nodup :=
  nodup.sublist (List.filter_sublist.map key)

theorem remove_keys_iff (rows : List ρ) (removed named : κ) :
    named ∈ (remove key rows removed).map key ↔ named ∈ rows.map key ∧ named ≠ removed := by
  simp only [remove, List.mem_map, List.mem_filter, decide_eq_true_eq]
  constructor
  · rintro ⟨held, ⟨listed, different⟩, rfl⟩
    exact ⟨⟨held, listed, rfl⟩, different⟩
  · rintro ⟨⟨held, listed, rfl⟩, different⟩
    exact ⟨held, ⟨listed, different⟩, rfl⟩

theorem upsert_filter (selects : κ → Bool) (rows : List ρ) (row : ρ) :
    (upsert key rows row).filter (fun held => selects (key held)) =
      if selects (key row) then upsert key (rows.filter fun held => selects (key held)) row
      else rows.filter fun held => selects (key held) := by
  have selected : key row ∈ (rows.filter fun held => selects (key held)).map key ↔
      key row ∈ rows.map key ∧ selects (key row) = true := by
    simp only [List.mem_map, List.mem_filter]
    constructor
    · rintro ⟨held, ⟨listed, selectsHeld⟩, same⟩
      exact ⟨⟨held, listed, same⟩, same ▸ selectsHeld⟩
    · rintro ⟨⟨held, listed, same⟩, selectsRow⟩
      exact ⟨held, ⟨listed, same ▸ selectsRow⟩, same⟩
  have kept : (fun held => selects (key (if key held = key row then row else held))) = fun held => selects (key held) :=
    funext fun held => by rw [replaced_key key row held]
  by_cases present : key row ∈ rows.map key
  · rw [upsert, if_pos present, List.filter_map]
    simp only [Function.comp_def, kept]
    split_ifs with selectsRow
    · rw [upsert, if_pos (selected.mpr ⟨present, selectsRow⟩)]
    · refine (List.map_congr_left fun held listed => if_neg fun same => ?_).trans (List.map_id _)
      rw [← same] at selectsRow
      exact selectsRow (List.mem_filter.mp listed).2
  · rw [upsert_absent key rows row present, List.filter_append]
    split_ifs with selectsRow
    · rw [upsert_absent key _ row fun listed => present (selected.mp listed).1]
      simp [selectsRow]
    · simp [selectsRow]

theorem upserts_filter (selects : κ → Bool) (rows new : List ρ) :
    (new.foldl (upsert key) rows).filter (fun held => selects (key held)) =
      (new.filter fun row => selects (key row)).foldl (upsert key) (rows.filter fun held => selects (key held)) := by
  induction new generalizing rows with
  | nil => rfl
  | cons row rest ih =>
      rw [List.foldl_cons, ih, upsert_filter, List.filter_cons]
      split_ifs
      · rfl
      · rfl

section Newest

variable {ρ : Type} (time : ρ → ℤ)

-- `ORDER BY time DESC`
def newest (rows : List ρ) : List ρ := rows.insertionSort fun first second => time second ≤ time first

theorem newest_mem (rows : List ρ) (row : ρ) : row ∈ newest time rows ↔ row ∈ rows := List.mem_insertionSort _

theorem newest_ordered (rows : List ρ) : (newest time rows).Pairwise fun first second => time second ≤ time first := by
  have total : Std.Total fun first second : ρ => time second ≤ time first :=
    ⟨fun first second => le_total (time second) (time first)⟩
  have transitive : IsTrans ρ fun first second => time second ≤ time first :=
    ⟨fun first second third later earlier => le_trans earlier later⟩
  exact List.pairwise_insertionSort _ rows

theorem newest_descending (rows : List ρ) (distinct : (rows.map time).Nodup) :
    (newest time rows).Pairwise fun first second => time second < time first := by
  have permuted : (newest time rows).Perm rows := List.perm_insertionSort _ rows
  have different : (newest time rows).Pairwise fun first second => time first ≠ time second :=
    List.pairwise_map.mp ((permuted.map time).nodup_iff.mpr distinct)
  exact (newest_ordered time rows).imp₂ (fun first second later other => lt_of_le_of_ne later (Ne.symm other)) different

theorem newest_cut (rows : List ρ) (limit : ℕ) (row taken : ρ) (stored : row ∈ rows)
    (cut : row ∉ (newest time rows).take limit) (listed : taken ∈ (newest time rows).take limit) :
    time row ≤ time taken := by
  have dropped : row ∈ (newest time rows).drop limit := by
    have found := (newest_mem time rows row).mpr stored
    rw [← List.take_append_drop limit (newest time rows)] at found
    exact (List.mem_append.mp found).resolve_left cut
  have ordered := newest_ordered time rows
  rw [← List.take_append_drop limit (newest time rows)] at ordered
  exact (List.pairwise_append.mp ordered).2.2 taken listed row dropped

end Newest

section Oldest

variable {ρ : Type} (time : ρ → ℤ)

-- `ORDER BY time ASC`
def oldest (rows : List ρ) : List ρ := rows.insertionSort fun first second => time first ≤ time second

theorem oldest_perm (rows : List ρ) : (oldest time rows).Perm rows := List.perm_insertionSort _ rows

theorem oldest_ascending (rows : List ρ) (distinct : (rows.map time).Nodup) :
    (oldest time rows).Pairwise fun first second => time first < time second := by
  have total : Std.Total fun first second : ρ => time first ≤ time second :=
    ⟨fun first second => le_total (time first) (time second)⟩
  have transitive : IsTrans ρ fun first second => time first ≤ time second :=
    ⟨fun first second third earlier later => le_trans earlier later⟩
  have ordered : (oldest time rows).Pairwise fun first second => time first ≤ time second :=
    List.pairwise_insertionSort _ rows
  have different : (oldest time rows).Pairwise fun first second => time first ≠ time second :=
    List.pairwise_map.mp (((oldest_perm time rows).map time).nodup_iff.mpr distinct)
  exact ordered.imp₂ (fun first second before other => lt_of_le_of_ne before other) different

theorem oldest_unique (rows ordered : List ρ) (distinct : (rows.map time).Nodup) (permuted : ordered.Perm rows)
    (ascending : ordered.Pairwise fun first second => time first < time second) : oldest time rows = ordered :=
  List.Perm.eq_of_pairwise (fun _ _ _ _ before after => absurd after (not_lt.mpr before.le))
    (oldest_ascending time rows distinct) ascending ((oldest_perm time rows).trans permuted.symm)

theorem oldest_congr (rows others : List ρ) (distinct : (rows.map time).Nodup) (permuted : others.Perm rows) :
    oldest time others = oldest time rows :=
  (oldest_unique time rows (oldest time others) distinct ((oldest_perm time others).trans permuted)
    (oldest_ascending time others ((permuted.map time).nodup_iff.mpr distinct))).symm

theorem oldest_filter (selects : ρ → Bool) (rows : List ρ) (distinct : (rows.map time).Nodup) :
    oldest time (rows.filter selects) = (oldest time rows).filter selects :=
  oldest_unique time (rows.filter selects) ((oldest time rows).filter selects)
    (distinct.sublist (List.filter_sublist.map time)) ((oldest_perm time rows).filter selects)
    ((oldest_ascending time rows distinct).sublist List.filter_sublist)

def latest (limit : ℕ) (rows : List ρ) : List ρ := (oldest time rows).drop (rows.length - limit)

theorem latest_length (limit : ℕ) (rows : List ρ) : (latest time limit rows).length = min limit rows.length := by
  rw [latest, List.length_drop, (oldest_perm time rows).length_eq]
  omega

theorem latest_recent (limit : ℕ) (rows : List ρ) (distinct : (rows.map time).Nodup) (row taken : ρ)
    (stored : row ∈ rows) (missed : row ∉ latest time limit rows) (listed : taken ∈ latest time limit rows) :
    time row < time taken := by
  have inside := (oldest_perm time rows).mem_iff.mpr stored
  have ordered := oldest_ascending time rows distinct
  rw [← List.take_append_drop (rows.length - limit) (oldest time rows)] at inside ordered
  have early := (List.mem_append.mp inside).resolve_right missed
  exact (List.pairwise_append.mp ordered).2.2 row early taken listed

theorem first_latest_all (limit : ℕ) (rows : List ρ) (fits : rows.length ≤ limit) :
    (oldest time rows).take limit = latest time limit rows := by
  have counted := (oldest_perm time rows).length_eq
  rw [latest, List.take_of_length_le (by omega), Nat.sub_eq_zero_of_le fits, List.drop_zero]

theorem first_latest_fits (limit : ℕ) (rows : List ρ) (distinct : (rows.map time).Nodup) (positive : 0 < limit)
    (same : ((oldest time rows).take limit).map time = (latest time limit rows).map time) : rows.length ≤ limit := by
  have counted := (oldest_perm time rows).length_eq
  by_contra more
  have first : (((oldest time rows).take limit).map time).head? = ((latest time limit rows).map time).head? := by
    rw [same]
  rw [latest, List.head?_map, List.head?_map, List.head?_take, if_neg (by omega), List.head?_drop,
    List.head?_eq_getElem?, List.getElem?_eq_getElem (by omega), List.getElem?_eq_getElem (by omega)] at first
  have ascending := List.pairwise_iff_getElem.mp (oldest_ascending time rows distinct) 0 (rows.length - limit)
    (by omega) (by omega) (by omega)
  rw [Option.some.inj first] at ascending
  exact lt_irrefl _ ascending

end Oldest

end KeyedRows
