import Mathlib.Data.List.Basic

set_option autoImplicit false

-- A history lists what happened, newest first. `Cleared bad good history`
-- says that every bad event in it was followed by a good one, `AtEach` that
-- something held of what had happened at each act, and `Guarded` that it was
-- being cleared.
namespace Interleaving

variable {ε : Type}

def Cleared (bad good : ε → Prop) (history : List ε) : Prop :=
  ∀ newer event older, history = newer ++ event :: older → bad event → ∃ remedy ∈ newer, good remedy

def AtEach (act : ε → Prop) (holds : List ε → Prop) (history : List ε) : Prop :=
  ∀ newer acting older, history = newer ++ acting :: older → act acting → holds older

def Guarded (bad good act : ε → Prop) (history : List ε) : Prop := AtEach act (Cleared bad good) history

theorem cleared_nil (bad good : ε → Prop) : Cleared bad good [] := by
  intro newer event older split
  cases newer <;> cases split

theorem cleared_cons_iff (bad good : ε → Prop) (history : List ε) (event : ε) :
    Cleared bad good (event :: history) ↔ ¬ bad event ∧ (good event ∨ Cleared bad good history) := by
  constructor
  · intro cleared
    refine ⟨fun isBad => ?_, ?_⟩
    · obtain ⟨remedy, member, _⟩ := cleared [] event history rfl isBad
      cases member
    · by_cases remedied : good event
      · exact .inl remedied
      · right
        rintro newer other older rfl isBad
        obtain ⟨remedy, member, isGood⟩ := cleared (event :: newer) other older rfl isBad
        rcases List.mem_cons.mp member with same | later
        · exact absurd (same ▸ isGood) remedied
        · exact ⟨remedy, later, isGood⟩
  · rintro ⟨harmless, remedied⟩ newer other older split isBad
    cases newer with
    | nil =>
        cases split
        exact absurd isBad harmless
    | cons head tail =>
        cases split
        rcases remedied with isGood | cleared
        · exact ⟨event, by simp, isGood⟩
        · obtain ⟨remedy, member, isGood⟩ := cleared tail other older rfl isBad
          exact ⟨remedy, by simp [member], isGood⟩

theorem cleared_good (bad good : ε → Prop) (history : List ε) (event : ε) (harmless : ¬ bad event)
    (remedy : good event) : Cleared bad good (event :: history) :=
  (cleared_cons_iff bad good history event).mpr ⟨harmless, .inl remedy⟩

theorem cleared_harmless (bad good : ε → Prop) (history : List ε) (event : ε) (harmless : ¬ bad event)
    (cleared : Cleared bad good history) : Cleared bad good (event :: history) :=
  (cleared_cons_iff bad good history event).mpr ⟨harmless, .inr cleared⟩

theorem cleared_silent_iff (bad good : ε → Prop) (history : List ε) (event : Option ε)
    (silent : ∀ happened, event = some happened → ¬ bad happened ∧ ¬ good happened) :
    Cleared bad good (event.toList ++ history) ↔ Cleared bad good history := by
  cases event with
  | none => rfl
  | some happened =>
      obtain ⟨notBad, notGood⟩ := silent happened rfl
      exact (cleared_cons_iff bad good history happened).trans (by simp [notBad, notGood])

theorem cleared_append (bad good : ε → Prop) (newer older : List ε) (harmless : ∀ event ∈ newer, ¬ bad event)
    (cleared : Cleared bad good older) : Cleared bad good (newer ++ older) := by
  induction newer with
  | nil => exact cleared
  | cons event rest ih =>
      exact cleared_harmless bad good _ event (harmless event (by simp))
        (ih fun other member => harmless other (by simp [member]))

theorem at_each_nil (act : ε → Prop) (holds : List ε → Prop) : AtEach act holds [] := by
  intro newer acting older split
  cases newer <;> cases split

theorem at_each_cons (act : ε → Prop) (holds : List ε → Prop) (history : List ε) (event : ε)
    (before : AtEach act holds history) (atEvent : act event → holds history) : AtEach act holds (event :: history) := by
  intro newer acting older split isAct
  cases newer with
  | nil =>
      cases split
      exact atEvent isAct
  | cons head tail =>
      cases split
      exact before tail acting older rfl isAct

theorem guarded_nil (bad good act : ε → Prop) : Guarded bad good act [] := at_each_nil act _

theorem guarded_cons (bad good act : ε → Prop) (history : List ε) (event : ε)
    (guarded : Guarded bad good act history) (atEvent : act event → Cleared bad good history) :
    Guarded bad good act (event :: history) :=
  at_each_cons act _ history event guarded atEvent

-- The check-then-act window: an act is preceded by its own check. When checks
-- are guarded, an unguarded act is one whose window a bad event fell into.
def WindowsClear (bad good : ε → Prop) (act check : ℕ → ε) (history : List ε) : Prop :=
  ∀ party newest newer event older, history = newest ++ act party :: (newer ++ event :: older) → bad event →
    check party ∈ older → ∃ remedy ∈ newer, good remedy

def Preceded (act check : ℕ → ε) (history : List ε) : Prop :=
  ∀ party newest older, history = newest ++ act party :: older → check party ∈ older

theorem preceded_nil (act check : ℕ → ε) : Preceded act check [] := by
  intro party newest older split
  cases newest <;> cases split

theorem preceded_cons (act check : ℕ → ε) (history : List ε) (event : ε) (before : Preceded act check history)
    (atEvent : ∀ party, event = act party → check party ∈ history) : Preceded act check (event :: history) := by
  intro party newest older split
  cases newest with
  | nil =>
      cases split
      exact atEvent party rfl
  | cons head tail =>
      cases split
      exact before party tail older rfl

theorem guarded_iff_windows_clear (bad good : ε → Prop) (act check : ℕ → ε) (history : List ε)
    (distinct : ∀ party, ¬ bad (check party)) (preceded : Preceded act check history)
    (checked : Guarded bad good (fun event => ∃ party, event = check party) history) :
    Guarded bad good (fun event => ∃ party, event = act party) history ↔
      WindowsClear bad good act check history := by
  constructor
  · intro guarded party newest newer event older split isBad _
    exact guarded newest (act party) (newer ++ event :: older) split ⟨party, rfl⟩ newer event older rfl isBad
  · intro clear newest acting past split isAct newer event older pastSplit isBad
    obtain ⟨party, rfl⟩ := isAct
    have member : check party ∈ newer ++ event :: older := by
      rw [← pastSplit]
      exact preceded party newest past split
    rcases List.mem_append.mp member with inWindow | inPast
    · -- the check came after the bad event, so it was already remedied by then
      obtain ⟨later, earlier, windowSplit⟩ := List.append_of_mem inWindow
      have atCheck : Cleared bad good (earlier ++ event :: older) :=
        checked (newest ++ act party :: later) (check party) _ (by simp [split, pastSplit, windowSplit]) ⟨party, rfl⟩
      obtain ⟨remedy, remedyMember, isGood⟩ := atCheck earlier event older rfl isBad
      exact ⟨remedy, by simp [windowSplit, remedyMember], isGood⟩
    · rcases List.mem_cons.mp inPast with same | before
      · exact absurd (same ▸ isBad) (distinct party)
      · exact clear party newest newer event older (by rw [split, pastSplit]) isBad before

-- Orders between events are sublists: `[late, early]` is one of the history
-- when some `late` came after some `early`.
theorem sublist_cons_of_ne (first event : ε) (rest history : List ε) (different : first ≠ event) :
    (first :: rest).Sublist (event :: history) ↔ (first :: rest).Sublist history := by
  rw [List.sublist_cons_iff]
  exact or_iff_left fun ⟨_, same, _⟩ => different (List.cons.inj same).1

theorem sublist_older (first event : ε) (rest newer older : List ε) (absent : first ∉ newer) (different : first ≠ event)
    (ordered : (first :: rest).Sublist (newer ++ event :: older)) : (first :: rest).Sublist older := by
  induction newer with
  | nil => exact (sublist_cons_of_ne first event rest older different).mp ordered
  | cons head tail ih =>
      obtain ⟨notHead, notTail⟩ := not_or.mp (mt List.mem_cons.mpr absent)
      exact ih notTail ((sublist_cons_of_ne first head rest _ notHead).mp ordered)

end Interleaving
