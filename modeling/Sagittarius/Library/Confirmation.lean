import Mathlib.Data.List.DropRight

set_option autoImplicit false

-- A side is confirmed once enough placements on it have followed each other with
-- none on another side among them. A reset forgets what was placed before it.
namespace Confirming

variable {δ : Type}

inductive Placement (δ : Type)
  | reset
  | level
  | on (side : δ)
deriving DecidableEq

structure Tally (δ : Type) where
  side : Option δ
  count : ℕ
  confirmed : Option δ
deriving DecidableEq

def Tally.start : Tally δ := ⟨none, 0, none⟩

def Tally.confirm (needed : ℕ) (tally : Tally δ) : Tally δ :=
  { tally with confirmed := if needed ≤ tally.count then tally.side else tally.confirmed }

section Sides

variable [DecidableEq δ]

def Tally.place (needed : ℕ) (tally : Tally δ) : Placement δ → Tally δ
  | .reset => .start
  | .level => tally.confirm needed
  | .on side =>
      { tally with
        side := some side
        count := if tally.side = some side then tally.count + 1 else 1 }.confirm needed

def tally (needed : ℕ) (placements : List (Placement δ)) : Tally δ := placements.foldl (Tally.place needed) .start

def sinceReset (placements : List (Placement δ)) : List (Placement δ) := placements.rtakeWhile fun placed => placed ≠ .reset

def trailing (side : δ) (placements : List (Placement δ)) : List (Placement δ) :=
  placements.rtakeWhile fun placed => placed = .level ∨ placed = .on side

structure Runs (needed : ℕ) (side : δ) (segment : List (Placement δ)) : Prop where
  unmixed : ∀ placed ∈ segment, placed = .level ∨ placed = .on side
  long : needed ≤ segment.count (.on side)

def LastRun (needed : ℕ) (side : δ) (placements : List (Placement δ)) : Prop :=
  ∃ before run after, sinceReset placements = before ++ run ++ after ∧ Runs needed side run ∧
    ∀ later other, later <:+: after → other ≠ side → ¬ Runs needed other later

@[simp] theorem tally_nil (needed : ℕ) : tally needed ([] : List (Placement δ)) = .start := rfl

@[simp] theorem tally_append (needed : ℕ) (placements : List (Placement δ)) (placed : Placement δ) :
    tally needed (placements ++ [placed]) = (tally needed placements).place needed placed := by
  rw [tally, List.foldl_append]
  rfl

end Sides

section Suffixes

variable {τ : Type} (p q : τ → Bool)

theorem rtake_while_of_suffix (items ending : List τ) (suffix : ending <:+ items) (all : ∀ item ∈ ending, p item = true) :
    ending <:+ items.rtakeWhile p := by
  induction items using List.reverseRecOn generalizing ending with
  | nil =>
      rw [List.suffix_nil.mp suffix]
      exact List.nil_suffix
  | append_singleton items last ih =>
      cases ending using List.reverseRecOn with
      | nil => exact List.nil_suffix
      | append_singleton ending item =>
          obtain ⟨before, whole⟩ := suffix
          rw [← List.append_assoc] at whole
          obtain ⟨same, lastSame⟩ := List.append_inj' whole rfl
          obtain rfl : item = last := List.singleton_injective lastSame
          rw [List.rtakeWhile_concat_pos _ _ _ (all item (by simp))]
          obtain ⟨rest, split⟩ := ih ending ⟨before, same⟩ fun other member => all other (by simp [member])
          exact ⟨rest, by rw [← List.append_assoc, split]⟩

theorem rtake_while_mem (items : List τ) (item : τ) (member : item ∈ items.rtakeWhile p) : p item = true := by
  induction items using List.reverseRecOn with
  | nil => simp at member
  | append_singleton items last ih =>
      by_cases kept : p last = true
      · rw [List.rtakeWhile_concat_pos _ _ _ kept, List.mem_append, List.mem_singleton] at member
        cases member with
        | inl earlier => exact ih earlier
        | inr same => rw [same, kept]
      · rw [List.rtakeWhile_concat_neg _ _ _ kept] at member
        cases member

theorem rtake_while_suffix (items : List τ) (weaker : ∀ item, p item = true → q item = true) :
    items.rtakeWhile p <:+ items.rtakeWhile q :=
  rtake_while_of_suffix q items (items.rtakeWhile p) (List.rtakeWhile_suffix p items) fun item member =>
    weaker item (rtake_while_mem p items item member)

end Suffixes

section Confirmed

variable [DecidableEq δ] (needed : ℕ)

theorem tally_uncounted (placements : List (Placement δ)) (sideless : (tally needed placements).side = none) :
    (tally needed placements).count = 0 := by
  induction placements using List.reverseRecOn with
  | nil => rfl
  | append_singleton placements last ih =>
      rw [tally_append] at sideless ⊢
      cases last with
      | reset => rfl
      | level => exact ih sideless
      | on side => cases sideless

theorem tally_count_le (placements : List (Placement δ)) : (tally needed placements).count ≤ placements.length := by
  induction placements using List.reverseRecOn with
  | nil => exact le_refl 0
  | append_singleton placements last ih =>
      rw [tally_append, List.length_append, List.length_singleton]
      cases last with
      | reset => exact Nat.zero_le _
      | level => exact ih.trans (Nat.le_succ _)
      | on side =>
          change (if (tally needed placements).side = some side then (tally needed placements).count + 1 else 1) ≤ _
          split_ifs
          · omega
          · omega

theorem trailing_mem (side : δ) (placements : List (Placement δ)) (placed : Placement δ)
    (member : placed ∈ trailing side placements) : placed = .level ∨ placed = .on side :=
  of_decide_eq_true (rtake_while_mem _ placements placed member)

theorem trailing_of_suffix (side : δ) (placements ending : List (Placement δ)) (suffix : ending <:+ placements)
    (unmixed : ∀ placed ∈ ending, placed = .level ∨ placed = .on side) : ending <:+ trailing side placements :=
  rtake_while_of_suffix _ placements ending suffix fun placed member => decide_eq_true (unmixed placed member)

theorem trailing_since (side : δ) (placements : List (Placement δ)) :
    trailing side placements <:+ sinceReset placements := by
  refine rtake_while_suffix _ _ placements fun placed kept => ?_
  rcases of_decide_eq_true kept with rfl | rfl
  · rfl
  · rfl

theorem trailing_count (placements : List (Placement δ)) (side : δ) :
    (trailing side placements).count (.on side) =
      if (tally needed placements).side = some side then (tally needed placements).count else 0 := by
  induction placements using List.reverseRecOn with
  | nil => rfl
  | append_singleton placements last ih =>
      rw [tally_append]
      cases last with
      | reset =>
          rw [trailing, List.rtakeWhile_concat_neg _ _ _ (by simp)]
          rfl
      | level =>
          rw [trailing, List.rtakeWhile_concat_pos _ _ _ (by simp), List.count_append]
          exact ih
      | on placed =>
          by_cases same : placed = side
          · subst same
            rw [trailing, List.rtakeWhile_concat_pos _ _ _ (by simp), List.count_append, List.count_singleton_self]
            change (trailing placed placements).count (.on placed) + 1 = _
            rw [ih]
            simp only [Tally.place, Tally.confirm, if_true]
            split_ifs
            · rfl
            · rfl
          · rw [trailing, List.rtakeWhile_concat_neg _ _ _ (by simp [same])]
            simp [Tally.place, Tally.confirm, same]

theorem place_confirmed (before : Tally δ) (placed : Placement δ) (kept : placed ≠ .reset) :
    (before.place needed placed).confirmed =
      if needed ≤ (before.place needed placed).count then (before.place needed placed).side else before.confirmed := by
  cases placed with
  | reset => exact absurd rfl kept
  | level => rfl
  | on side => rfl

theorem since_append (placements : List (Placement δ)) (placed : Placement δ) (kept : placed ≠ .reset) :
    sinceReset (placements ++ [placed]) = sinceReset placements ++ [placed] :=
  List.rtakeWhile_concat_pos _ _ _ (by simp [kept])

theorem last_run_of_trailing (placements : List (Placement δ)) (side : δ) (positive : 0 < needed)
    (long : needed ≤ (trailing side placements).count (.on side)) : LastRun needed side placements := by
  obtain ⟨before, split⟩ := trailing_since side placements
  refine ⟨before, trailing side placements, [], by rw [List.append_nil, split], ⟨trailing_mem side placements, long⟩, ?_⟩
  intro later other inside _ runs
  have tooLong := runs.long
  rw [List.infix_nil.mp inside, List.count_nil] at tooLong
  omega

theorem last_run_extend (placements : List (Placement δ)) (placed : Placement δ) (side : δ) (kept : placed ≠ .reset)
    (short : ∀ other, (trailing other (placements ++ [placed])).count (.on other) < needed)
    (lastRun : LastRun needed side placements) : LastRun needed side (placements ++ [placed]) := by
  obtain ⟨before, run, after, split, runs, none⟩ := lastRun
  refine ⟨before, run, after ++ [placed], by rw [since_append placements placed kept, split]; simp, runs, ?_⟩
  intro later other inside different runsOther
  cases List.infix_concat_iff.mp inside with
  | inr earlier => exact none later other earlier different runsOther
  | inl ending =>
      have whole : after ++ [placed] <:+ placements ++ [placed] := by
        have suffix : after <:+ placements := by
          have since := List.rtakeWhile_suffix (fun placed => decide (placed ≠ Placement.reset)) placements
          exact (List.IsSuffix.trans ⟨before ++ run, split.symm⟩ since)
        obtain ⟨rest, whole⟩ := suffix
        exact ⟨rest, by rw [← List.append_assoc, whole]⟩
      have inTrailing := trailing_of_suffix other _ later (ending.trans whole) runsOther.unmixed
      have counted := inTrailing.sublist.count_le (.on other)
      have tooShort := short other
      have long := runsOther.long
      omega

theorem last_run_restrict (placements : List (Placement δ)) (placed : Placement δ) (side : δ) (kept : placed ≠ .reset)
    (short : (trailing side (placements ++ [placed])).count (.on side) < needed)
    (lastRun : LastRun needed side (placements ++ [placed])) : LastRun needed side placements := by
  obtain ⟨before, run, after, split, runs, none⟩ := lastRun
  rw [since_append placements placed kept] at split
  cases after using List.reverseRecOn with
  | nil =>
      rw [List.append_nil] at split
      have suffix : run <:+ placements ++ [placed] := by
        refine List.IsSuffix.trans ⟨before, split.symm⟩ ?_
        rw [← since_append placements placed kept]
        exact List.rtakeWhile_suffix _ _
      have counted := (trailing_of_suffix side _ run suffix runs.unmixed).sublist.count_le (.on side)
      have long := runs.long
      omega
  | append_singleton after last =>
      rw [← List.append_assoc] at split
      obtain ⟨earlier, -⟩ := List.append_inj' split rfl
      exact ⟨before, run, after, earlier, runs, fun later other inside =>
        none later other (inside.trans (List.prefix_append _ _).isInfix)⟩

theorem last_run_side (placements : List (Placement δ)) (side other : δ) (positive : 0 < needed)
    (lastRun : LastRun needed side placements) (long : needed ≤ (trailing other placements).count (.on other)) :
    other = side := by
  obtain ⟨before, run, after, split, runs, none⟩ := lastRun
  by_contra different
  have pure := trailing_mem other placements
  have ending : trailing other placements <:+ (before ++ run) ++ after := split ▸ trailing_since other placements
  rcases List.suffix_or_suffix_of_suffix ending (List.suffix_append (before ++ run) after) with inside | outside
  · exact none _ other inside.isInfix different ⟨pure, long⟩
  · obtain ⟨start, whole⟩ := outside
    rw [← whole] at ending pure long
    have starts : start <:+ before ++ run := by
      obtain ⟨rest, joined⟩ := ending
      rw [← List.append_assoc] at joined
      exact ⟨rest, List.append_cancel_right joined⟩
    have within : start <:+ run := by
      rcases List.suffix_or_suffix_of_suffix starts (List.suffix_append before run) with within | covers
      · exact within
      · have onSide : Placement.on side ∈ run := by
          have counted := runs.long
          exact List.count_pos_iff.mp (by omega)
        rcases pure (.on side) (List.mem_append_left after (covers.subset onSide)) with level | onOther
        · cases level
        · cases onOther
          exact absurd rfl different
    have absent : start.count (.on other) = 0 := by
      refine List.count_eq_zero.mpr fun member => ?_
      rcases runs.unmixed (.on other) (within.subset member) with level | onSide
      · cases level
      · cases onSide
        exact absurd rfl different
    refine none after other List.infix_rfl different ⟨fun placed member => pure placed (by simp [member]), ?_⟩
    rw [List.count_append, absent] at long
    omega

-- By induction at the end of the list: a side is confirmed exactly while the
-- last run was on it.
theorem confirmed_iff (positive : 0 < needed) (placements : List (Placement δ)) (side : δ) :
    (tally needed placements).confirmed = some side ↔ LastRun needed side placements := by
  have none_of_nil : ∀ placements : List (Placement δ), sinceReset placements = [] → ¬ LastRun needed side placements := by
    intro placements empty lastRun
    obtain ⟨before, run, after, split, runs, -⟩ := lastRun
    rw [empty] at split
    have long := runs.long
    rw [(List.append_eq_nil_iff.mp (List.append_eq_nil_iff.mp split.symm).1).2, List.count_nil] at long
    omega
  induction placements using List.reverseRecOn with
  | nil => exact iff_of_false (by simp [Tally.start]) (none_of_nil [] rfl)
  | append_singleton placements placed ih =>
      by_cases kept : placed = .reset
      · subst kept
        refine iff_of_false (by simp [Tally.place, Tally.start]) (none_of_nil _ ?_)
        exact List.rtakeWhile_concat_neg _ _ _ (by simp)
      · have confirms := place_confirmed needed (tally needed placements) placed kept
        have counts := trailing_count needed (placements ++ [placed])
        rw [← tally_append] at confirms
        rw [confirms]
        by_cases enough : needed ≤ (tally needed (placements ++ [placed])).count
        · rw [if_pos enough]
          constructor
          · intro onSide
            refine last_run_of_trailing needed _ side positive ?_
            rw [counts side, if_pos onSide]
            exact enough
          · intro lastRun
            cases held : (tally needed (placements ++ [placed])).side with
            | none =>
                rw [tally_uncounted needed _ held] at enough
                omega
            | some other =>
                rw [last_run_side needed _ side other positive lastRun (by rw [counts other, if_pos held]; exact enough)]
        · rw [if_neg enough]
          have short : ∀ other, (trailing other (placements ++ [placed])).count (.on other) < needed := by
            intro other
            rw [counts other]
            split_ifs
            · omega
            · omega
          exact ih.trans ⟨last_run_extend needed placements placed side kept short,
            last_run_restrict needed placements placed side kept (short side)⟩

end Confirmed

end Confirming
