import Mathlib.Data.List.Basic
import Mathlib.Data.Int.Notation

set_option autoImplicit false

-- Items in time order, read from a start onwards and resumed after the last
-- one that was read.
namespace Resuming

variable {ι : Type} (opens closes : ι → ℤ)

structure InOrder (items : List ι) : Prop where
  spans : ∀ item ∈ items, opens item ≤ closes item
  apart : items.Pairwise fun earlier later => closes earlier < opens later

def since (items : List ι) (start : ℤ) : List ι := items.filter (start ≤ opens ·)

variable {opens closes}

theorem since_of_opens (items : List ι) (start : ℤ) (all : ∀ item ∈ items, start ≤ opens item) :
    since opens items start = items :=
  List.filter_eq_self.mpr fun item listed => decide_eq_true (all item listed)

theorem since_in_order (items : List ι) (start : ℤ) (ordered : InOrder opens closes items) :
    InOrder opens closes (since opens items start) :=
  ⟨fun item listed => ordered.spans item (List.mem_filter.mp listed).1, ordered.apart.filter _⟩

theorem since_after (before after : List ι) (last : ι) (ordered : InOrder opens closes (before ++ last :: after)) :
    since opens (before ++ last :: after) (closes last + 1) = after := by
  obtain ⟨_, rest, across⟩ := List.pairwise_append.mp ordered.apart
  obtain ⟨later, _⟩ := List.pairwise_cons.mp rest
  have lastSpans := ordered.spans last (by simp)
  have earlierOut : ∀ item ∈ before, ¬closes last + 1 ≤ opens item := by
    intro item listed
    have spans := ordered.spans item (by simp [listed])
    have close := across item listed last (by simp)
    omega
  rw [since, List.filter_append, List.filter_cons_of_neg (by simpa using Int.lt_add_one_of_le lastSpans),
    List.filter_eq_nil_iff.mpr (by simpa using earlierOut), List.nil_append]
  exact since_of_opens after _ fun item listed => by
    have := later item listed
    omega

theorem since_resumes (items read after : List ι) (start : ℤ) (last : ι) (ordered : InOrder opens closes items)
    (reads : since opens items start = read ++ last :: after) :
    since opens items (closes last + 1) = after := by
  have later : start ≤ closes last + 1 := by
    have listed : last ∈ since opens items start := by simp [reads]
    have started : start ≤ opens last := by simpa using (List.mem_filter.mp listed).2
    have spans := ordered.spans last (List.mem_filter.mp listed).1
    omega
  have nested : since opens (since opens items start) (closes last + 1) = since opens items (closes last + 1) := by
    rw [since, since, List.filter_filter]
    refine List.filter_congr fun item _ => ?_
    simp only [Bool.and_eq_left_iff_imp, decide_eq_true_eq]
    omega
  rw [← nested, reads]
  exact since_after read after last (reads ▸ since_in_order items start ordered)

end Resuming
