import Mathlib.Data.List.Infix
import Mathlib.Data.Set.Insert

set_option autoImplicit false

-- Items that are reported, any number of times and in any order, as under way
-- or as ended, and a display of the open ones.
namespace Lifecycle

variable {κ : Type}

structure Report (κ : Type) where
  item : κ
  ended : Bool
deriving DecidableEq

def Reported (reports : List (Report κ)) (item : κ) : Prop := ∃ report ∈ reports, report.item = item

def Ended (reports : List (Report κ)) (item : κ) : Prop := ∃ report ∈ reports, report.item = item ∧ report.ended = true

def Open (reports : List (Report κ)) (item : κ) : Prop := Reported reports item ∧ ¬ Ended reports item

instance decidableEnded [DecidableEq κ] (reports : List (Report κ)) (item : κ) : Decidable (Ended reports item) :=
  inferInstanceAs (Decidable (∃ report ∈ reports, report.item = item ∧ report.ended = true))

-- A report that reaches the display, one that is made and does not, or no
-- report at all.
inductive Notice (κ : Type)
  | shown (report : Report κ)
  | missed (report : Report κ)
  | silent

def Notice.report : Notice κ → Option (Report κ)
  | .shown report => some report
  | .missed report => some report
  | .silent => none

def display (displayed : Set κ) : Notice κ → Set κ
  | .shown report => if report.ended = true then displayed \ {report.item} else insert report.item displayed
  | .missed _ => displayed
  | .silent => displayed

def reportsAfter (reports : List (Report κ)) (notices : List (Notice κ)) : List (Report κ) :=
  reports ++ notices.filterMap Notice.report

def Exact (displayed : Set κ) (reports : List (Report κ)) : Prop := ∀ item, item ∈ displayed ↔ Open reports item

def Tracked (reports : List (Report κ)) : Notice κ → Prop
  | .shown report => report.ended = true ∨ ¬ Ended reports report.item
  | .missed report => if report.ended = true then ¬ Open reports report.item else Reported reports report.item
  | .silent => True

theorem reported_append (reports : List (Report κ)) (report : Report κ) (item : κ) :
    Reported (reports ++ [report]) item ↔ Reported reports item ∨ report.item = item := by
  simp [Reported, or_and_right, exists_or]

theorem ended_append (reports : List (Report κ)) (report : Report κ) (item : κ) :
    Ended (reports ++ [report]) item ↔ Ended reports item ∨ report.item = item ∧ report.ended = true := by
  simp [Ended, or_and_right, exists_or]

theorem open_ended (reports : List (Report κ)) (report : Report κ) (ended : report.ended = true) (item : κ) :
    Open (reports ++ [report]) item ↔ Open reports item ∧ item ≠ report.item := by
  rw [Open, reported_append, ended_append]
  constructor
  · rintro ⟨reported, notEnded⟩
    have different : report.item ≠ item := fun same => notEnded (.inr ⟨same, ended⟩)
    exact ⟨⟨reported.resolve_right different, fun already => notEnded (.inl already)⟩, different.symm⟩
  · rintro ⟨⟨reported, notEnded⟩, different⟩
    refine ⟨.inl reported, ?_⟩
    rintro (already | ⟨same, _⟩)
    · exact notEnded already
    · exact different same.symm

theorem open_under_way (reports : List (Report κ)) (report : Report κ) (underWay : report.ended = false) (item : κ) :
    Open (reports ++ [report]) item ↔ Open reports item ∨ item = report.item ∧ ¬ Ended reports report.item := by
  have same : Ended (reports ++ [report]) item ↔ Ended reports item := by simp [ended_append, underWay]
  rw [Open, reported_append, same]
  constructor
  · rintro ⟨reported | rfl, notEnded⟩
    · exact .inl ⟨reported, notEnded⟩
    · exact .inr ⟨rfl, notEnded⟩
  · rintro (⟨reported, notEnded⟩ | ⟨rfl, notEnded⟩)
    · exact ⟨.inl reported, notEnded⟩
    · exact ⟨.inr rfl, notEnded⟩

section Display

variable (reports : List (Report κ)) (displayed : Set κ) (exact : Exact displayed reports) (report : Report κ)

include exact

theorem exact_shown_iff :
    Exact (display displayed (.shown report)) (reports ++ [report]) ↔ Tracked reports (.shown report) := by
  cases ended : report.ended with
  | true =>
      refine iff_of_true (fun item => ?_) (.inl ended)
      rw [open_ended reports report ended, ← exact item]
      simp [display, ended]
  | false =>
      have inserted : display displayed (.shown report) = insert report.item displayed := by simp [display, ended]
      rw [inserted, Tracked, ended, or_iff_right (by simp)]
      constructor
      · intro follows already
        have opened := (follows report.item).mp (Set.mem_insert _ _)
        exact opened.2 ((ended_append reports report report.item).mpr (.inl already))
      · intro notEnded item
        rw [open_under_way reports report ended, Set.mem_insert_iff, exact item, and_iff_left notEnded, or_comm]

theorem exact_missed_iff :
    Exact (display displayed (.missed report)) (reports ++ [report]) ↔ Tracked reports (.missed report) := by
  cases ended : report.ended with
  | true =>
      rw [Tracked, if_pos ended]
      constructor
      · intro follows opened
        have still := (follows report.item).mp ((exact report.item).mpr opened)
        exact ((open_ended reports report ended report.item).mp still).2 rfl
      · intro notOpen item
        rw [open_ended reports report ended]
        refine (exact item).trans ⟨fun opened => ⟨opened, ?_⟩, And.left⟩
        rintro rfl
        exact notOpen opened
  | false =>
      rw [Tracked, if_neg (by simp [ended])]
      constructor
      · intro follows
        by_contra unreported
        have notEnded : ¬ Ended reports report.item := fun ⟨other, listed, same, _⟩ => unreported ⟨other, listed, same⟩
        have opened := (open_under_way reports report ended report.item).mpr (.inr ⟨rfl, notEnded⟩)
        exact unreported ((exact report.item).mp ((follows report.item).mpr opened)).1
      · intro reported item
        rw [open_under_way reports report ended]
        refine (exact item).trans ⟨.inl, ?_⟩
        rintro (opened | ⟨rfl, notEnded⟩)
        · exact opened
        · exact ⟨reported, notEnded⟩

theorem exact_notice_iff (notice : Notice κ) :
    Exact (display displayed notice) (reportsAfter reports [notice]) ↔ Tracked reports notice := by
  cases notice with
  | shown report => exact exact_shown_iff reports displayed exact report
  | missed report => exact exact_missed_iff reports displayed exact report
  | silent =>
      have same : reportsAfter reports [.silent] = reports := List.append_nil reports
      rw [same]
      exact iff_of_true exact trivial

end Display

theorem reports_after_append (reports : List (Report κ)) (before after : List (Notice κ)) :
    reportsAfter reports (before ++ after) = reportsAfter (reportsAfter reports before) after := by
  simp [reportsAfter, List.append_assoc]

section Throughout

-- What an update makes known may depend on what the source of the updates has
-- come to by it.
variable {α σ : Type} (advance : σ → α → σ) (notice : σ → α → Notice κ)

def notices (state : σ) : List α → List (Notice κ)
  | [] => []
  | update :: rest => notice state update :: notices (advance state update) rest

theorem notices_append (state : σ) (before : List α) (update : α) :
    notices advance notice state (before ++ [update]) =
      notices advance notice state before ++ [notice (before.foldl advance state) update] := by
  induction before generalizing state with
  | nil => rfl
  | cons first rest ih => rw [List.cons_append, notices, ih, notices, List.cons_append, List.foldl_cons]

theorem exact_throughout_iff (state : σ) (reports : List (Report κ)) (displayed : Set κ) (updates : List α) :
    (∀ before, before <+: updates →
        Exact ((notices advance notice state before).foldl display displayed)
          (reportsAfter reports (notices advance notice state before))) ↔
      Exact displayed reports ∧
        ∀ before update, before ++ [update] <+: updates →
          Tracked (reportsAfter reports (notices advance notice state before))
            (notice (before.foldl advance state) update) := by
  constructor
  · intro exact
    refine ⟨by simpa [reportsAfter, notices] using exact [] List.nil_prefix, fun before update follows => ?_⟩
    have earlier := exact before ((List.prefix_append before [update]).trans follows)
    have later := exact (before ++ [update]) follows
    rw [notices_append, List.foldl_append, reports_after_append] at later
    exact (exact_notice_iff _ _ earlier _).mp later
  · rintro ⟨initially, tracked⟩ before
    induction before using List.reverseRecOn with
    | nil => exact fun _ => by simpa [reportsAfter, notices] using initially
    | append_singleton before update ih =>
        intro follows
        have earlier := ih ((List.prefix_append before [update]).trans follows)
        rw [notices_append, List.foldl_append, reports_after_append]
        exact (exact_notice_iff _ _ earlier _).mpr (tracked before update follows)

end Throughout

theorem exact_listed_iff (reports : List (Report κ)) :
    Exact {item | Reported reports item} reports ↔ ∀ report ∈ reports, report.ended = false := by
  constructor
  · intro exact report listed
    have opened := (exact report.item).mp ⟨report, listed, rfl⟩
    exact Bool.eq_false_iff.mpr fun ended => opened.2 ⟨report, listed, rfl, ended⟩
  · rintro underWay item
    refine ⟨fun reported => ⟨reported, ?_⟩, And.left⟩
    rintro ⟨report, listed, _, ended⟩
    rw [underWay report listed] at ended
    cases ended

end Lifecycle
