import Mathlib.Data.List.Induction
import Mathlib.Data.List.Nodup

set_option autoImplicit false

-- Items collected under their keys, in a dictionary of lists.
namespace Grouping

variable {τ κ : Type} [DecidableEq κ] (key : τ → κ)

def extended (groups : List (κ × List τ)) (item : τ) : List (κ × List τ) :=
  groups.map fun group => if group.1 = key item then (group.1, group.2 ++ [item]) else group

def collect (groups : List (κ × List τ)) (item : τ) : List (κ × List τ) :=
  if key item ∈ groups.map Prod.fst then extended key groups item else groups ++ [(key item, [item])]

def groupBy (items : List τ) : List (κ × List τ) := items.foldl (collect key) []

structure Groups (items : List τ) (groups : List (κ × List τ)) : Prop where
  keys : (groups.map Prod.fst).Nodup
  members : ∀ group ∈ groups, group.2 = items.filter fun item => Decidable.decide (key item = group.1)
  filled : ∀ group ∈ groups, group.2 ≠ []
  partition : (groups.flatMap (·.2)).Perm items
  known : ∀ item ∈ items, key item ∈ groups.map Prod.fst

theorem extended_keys (groups : List (κ × List τ)) (item : τ) :
    (extended key groups item).map Prod.fst = groups.map Prod.fst := by
  rw [extended, List.map_map]
  refine List.map_congr_left fun group _ => ?_
  dsimp only [Function.comp]
  split_ifs <;> rfl

theorem extended_elsewhere (groups : List (κ × List τ)) (item : τ) (absent : key item ∉ groups.map Prod.fst) :
    extended key groups item = groups := by
  refine (List.map_congr_left fun group listed => ?_).trans (List.map_id groups)
  refine if_neg fun same => absent ?_
  rw [← same]
  exact List.mem_map_of_mem listed

theorem extended_perm (groups : List (κ × List τ)) (item : τ) (keys : (groups.map Prod.fst).Nodup)
    (held : key item ∈ groups.map Prod.fst) :
    ((extended key groups item).flatMap (·.2)).Perm (item :: groups.flatMap (·.2)) := by
  induction groups with
  | nil => cases held
  | cons group rest ih =>
      obtain ⟨apart, restKeys⟩ := List.nodup_cons.mp keys
      by_cases same : group.1 = key item
      · have elsewhere := extended_elsewhere key rest item (same ▸ apart)
        rw [extended, List.map_cons, if_pos same, ← extended, elsewhere, List.flatMap_cons, List.flatMap_cons,
          List.append_assoc]
        exact List.perm_middle
      · have later : key item ∈ rest.map Prod.fst := (List.mem_cons.mp held).resolve_left (Ne.symm same)
        rw [extended, List.map_cons, if_neg same, ← extended, List.flatMap_cons, List.flatMap_cons]
        exact ((ih restKeys later).append_left _).trans List.perm_middle

theorem extended_groups (items : List τ) (groups : List (κ × List τ)) (item : τ) (grouped : Groups key items groups)
    (held : key item ∈ groups.map Prod.fst) : Groups key (items ++ [item]) (extended key groups item) := by
  refine ⟨?_, ?_, ?_, ?_, ?_⟩
  · exact (extended_keys key groups item).symm ▸ grouped.keys
  · intro group listed
    obtain ⟨before, isBefore, rfl⟩ := List.mem_map.mp listed
    have members := grouped.members before isBefore
    split_ifs with same
    · rw [List.filter_append, members]
      simp [same]
    · rw [List.filter_append, members]
      simp [Ne.symm same]
  · intro group listed
    obtain ⟨before, isBefore, rfl⟩ := List.mem_map.mp listed
    split_ifs
    · exact List.append_ne_nil_of_right_ne_nil _ (List.cons_ne_nil _ _)
    · exact grouped.filled before isBefore
  · have added := extended_perm key groups item grouped.keys held
    exact added.trans ((grouped.partition.cons item).trans (List.perm_append_singleton item items).symm)
  · intro other listed
    rw [extended_keys]
    obtain earlier | last := List.mem_append.mp listed
    · exact grouped.known other earlier
    · exact List.mem_singleton.mp last ▸ held

theorem started_groups (items : List τ) (groups : List (κ × List τ)) (item : τ) (grouped : Groups key items groups)
    (absent : key item ∉ groups.map Prod.fst) : Groups key (items ++ [item]) (groups ++ [(key item, [item])]) := by
  have none : items.filter (fun other => Decidable.decide (key other = key item)) = [] := by
    refine List.filter_eq_nil_iff.mpr fun other listed same => absent ?_
    exact of_decide_eq_true same ▸ grouped.known other listed
  refine ⟨?_, ?_, ?_, ?_, ?_⟩
  · rw [List.map_append]
    refine List.nodup_append.mpr ⟨grouped.keys, List.nodup_singleton _, fun name isName other isOther same => absent ?_⟩
    have only : other = key item := List.mem_singleton.mp isOther
    rw [← only, ← same]
    exact isName
  · intro group listed
    obtain earlier | last := List.mem_append.mp listed
    · have apart : key item ≠ group.1 := fun same => absent (same ▸ List.mem_map_of_mem earlier)
      rw [List.filter_append, grouped.members group earlier]
      simp [apart]
    · obtain rfl := List.mem_singleton.mp last
      rw [List.filter_append, none]
      simp
  · intro group listed
    obtain earlier | last := List.mem_append.mp listed
    · exact grouped.filled group earlier
    · exact List.mem_singleton.mp last ▸ List.cons_ne_nil _ _
  · rw [List.flatMap_append]
    exact grouped.partition.append_right [item]
  · intro other listed
    rw [List.map_append]
    obtain earlier | last := List.mem_append.mp listed
    · exact List.mem_append_left _ (grouped.known other earlier)
    · exact List.mem_append_right _ (List.mem_singleton.mp last ▸ List.mem_singleton_self _)

theorem collect_groups (items : List τ) (groups : List (κ × List τ)) (item : τ) (grouped : Groups key items groups) :
    Groups key (items ++ [item]) (collect key groups item) := by
  rw [collect]
  split_ifs with held
  · exact extended_groups key items groups item grouped held
  · exact started_groups key items groups item grouped held

theorem group_by_groups (items : List τ) : Groups key items (groupBy key items) := by
  induction items using List.reverseRecOn with
  | nil =>
      constructor
      · exact .nil
      · rintro group ⟨⟩
      · rintro group ⟨⟩
      · exact List.Perm.refl []
      · rintro item ⟨⟩
  | append_singleton items item ih =>
      rw [groupBy, List.foldl_append]
      exact collect_groups key items _ item ih

end Grouping
