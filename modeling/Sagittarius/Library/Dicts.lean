import Sagittarius.Library.KeyedRows

set_option autoImplicit false

-- Python's dict: members in the order their keys were first set.
namespace Dicts

structure Dict (κ ν : Type) where
  members : List (κ × ν)
  keys : (members.map Prod.fst).Nodup

variable {κ ν : Type}

theorem empty_keys : (([] : List (κ × ν)).map Prod.fst).Nodup := List.nodup_nil

variable [DecidableEq κ]

namespace Dict

def empty : Dict κ ν := ⟨[], empty_keys⟩

def get? (dict : Dict κ ν) (named : κ) : Option ν := dict.members.lookup named

def set (dict : Dict κ ν) (named : κ) (value : ν) : Dict κ ν where
  members := KeyedRows.upsert Prod.fst dict.members (named, value)
  keys := KeyedRows.upsert_keys Prod.fst dict.members (named, value) dict.keys

def pop (dict : Dict κ ν) (named : κ) : Dict κ ν where
  members := KeyedRows.remove Prod.fst dict.members named
  keys := KeyedRows.remove_keys Prod.fst dict.members named dict.keys

def ofMembers (members : List (κ × ν)) : Dict κ ν where
  members := members.foldl (KeyedRows.upsert Prod.fst) []
  keys := KeyedRows.upserts_keys Prod.fst [] members empty_keys

def Same (first second : Dict κ ν) : Prop := ∀ named, first.get? named = second.get? named

theorem get_eq_some_iff (dict : Dict κ ν) (named : κ) (value : ν) :
    dict.get? named = some value ↔ (named, value) ∈ dict.members := by
  obtain ⟨members, keys⟩ := dict
  rw [get?]
  induction members with
  | nil => simp
  | cons member rest ih =>
      obtain ⟨held, kept⟩ := member
      rw [List.map_cons, List.nodup_cons] at keys
      by_cases same : named = held
      · subst same
        rw [List.lookup_cons_self, Option.some.injEq, List.mem_cons, Prod.mk.injEq]
        constructor
        · intro equal
          exact .inl ⟨rfl, equal.symm⟩
        · rintro (⟨_, equal⟩ | later)
          · exact equal.symm
          · exact absurd (List.mem_map.mpr ⟨_, later, rfl⟩) keys.1
      · rw [List.lookup_cons, beq_eq_false_iff_ne.mpr same, List.mem_cons, Prod.mk.injEq]
        simp [same, ih keys.2]

theorem get_eq_none_iff (dict : Dict κ ν) (named : κ) : dict.get? named = none ↔ named ∉ dict.members.map Prod.fst := by
  rw [Option.eq_none_iff_forall_ne_some]
  simp only [ne_eq, get_eq_some_iff, List.mem_map, Prod.exists, not_exists, not_and]
  constructor
  · rintro absent held value listed rfl
    exact absent value listed
  · intro absent value listed
    exact absent named value listed rfl

theorem same_of_mem_iff (first second : Dict κ ν) (same : ∀ member, member ∈ first.members ↔ member ∈ second.members) :
    first.Same second := by
  intro named
  refine Option.ext fun value => ?_
  rw [get_eq_some_iff, get_eq_some_iff, same]

theorem get_set (dict : Dict κ ν) (named asked : κ) (value : ν) :
    (dict.set named value).get? asked = if asked = named then some value else dict.get? asked := by
  refine Option.ext fun found => ?_
  rw [get_eq_some_iff, set, KeyedRows.upsert_mem_iff]
  by_cases same : asked = named
  · subst same
    rw [if_pos rfl]
    simp [eq_comm]
  · rw [if_neg same, get_eq_some_iff]
    simp [same]

theorem get_pop (dict : Dict κ ν) (named asked : κ) :
    (dict.pop named).get? asked = if asked = named then none else dict.get? asked := by
  refine Option.ext fun found => ?_
  have listed : (asked, found) ∈ (dict.pop named).members ↔ (asked, found) ∈ dict.members ∧ asked ≠ named := by
    simp [pop, KeyedRows.remove]
  rw [get_eq_some_iff, listed]
  by_cases same : asked = named
  · simp [same]
  · rw [if_neg same, get_eq_some_iff]
    simp [same]

theorem of_members_nodup (members : List (κ × ν)) (distinct : (members.map Prod.fst).Nodup) :
    (ofMembers members).members = members :=
  KeyedRows.upsert_new Prod.fst [] members distinct

end Dict

end Dicts
