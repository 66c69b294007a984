import Throttling.Timestamp

/-!
# Order of consensus times

Times are compared by seconds first and measured in nanoseconds. On normal times the two agree, so
a later time is a positive number of nanoseconds away and elapsed times add up.
-/

set_option autoImplicit false

namespace Throttling.Timestamp

theorem le_refl (a : Timestamp) : a ≤ a := le_iff.mpr (Or.inr ⟨rfl, Nat.le_refl _⟩)

theorem le_trans {a b c : Timestamp} (first : a ≤ b) (second : b ≤ c) : a ≤ c := by
  rw [le_iff] at first second ⊢
  omega

theorem le_antisymm {a b : Timestamp} (first : a ≤ b) (second : b ≤ a) : a = b := by
  rw [le_iff] at first second
  cases a
  cases b
  simp only [mk.injEq] at first second ⊢
  omega

/-- A time that is not before a normal one has as many nanoseconds or more, normal or not. -/
theorem toNanos_le_of_le {a b : Timestamp} (ha : a.Normal) (h : a ≤ b) :
    a.toNanos ≤ b.toNanos := by
  unfold Normal nanosPerSecond at ha
  rw [le_iff] at h
  simp only [toNanos, nanosPerSecond]
  omega

/-- The order of the two parts is the order of the nanoseconds since the epoch. -/
theorem le_iff_toNanos_le {a b : Timestamp} (ha : a.Normal) (hb : b.Normal) :
    a ≤ b ↔ a.toNanos ≤ b.toNanos := by
  unfold Normal nanosPerSecond at ha hb
  rw [le_iff]
  simp only [toNanos, nanosPerSecond]
  omega

theorem eq_of_toNanos_eq {a b : Timestamp} (ha : a.Normal) (hb : b.Normal)
    (same : a.toNanos = b.toNanos) : a = b := by
  unfold Normal nanosPerSecond at ha hb
  simp only [toNanos, nanosPerSecond] at same
  obtain ⟨seconds, nanos⟩ := a
  obtain ⟨seconds', nanos'⟩ := b
  simp only [mk.injEq]
  dsimp only at ha hb same
  omega

/-- Time that has not moved on has no nanoseconds in between. -/
theorem nanosSince_eq_zero_of_le {a b : Timestamp} (ha : a.Normal) (hb : b.Normal) (h : a ≤ b) :
    a.nanosSince b = 0 := by
  have ordered := (le_iff_toNanos_le ha hb).mp h
  unfold nanosSince
  omega

/-- Elapsed times add up. -/
theorem nanosSince_add_nanosSince {a b c : Timestamp} (ha : a.Normal) (hb : b.Normal)
    (hc : c.Normal) (first : a ≤ b) (second : b ≤ c) :
    c.nanosSince b + b.nanosSince a = c.nanosSince a := by
  have earlier := (le_iff_toNanos_le ha hb).mp first
  have later := (le_iff_toNanos_le hb hc).mp second
  unfold nanosSince
  omega

/-- There is a normal time any number of nanoseconds later. -/
theorem exists_later (t : Timestamp) (nanos : Nat) :
    ∃ later : Timestamp, later.Normal ∧ later.toNanos = t.toNanos + nanos := by
  let total := t.nanos + nanos
  refine ⟨⟨t.seconds + (total / nanosPerSecond : Nat), total % nanosPerSecond⟩,
    Nat.mod_lt _ (by decide), ?_⟩
  simp only [toNanos, nanosPerSecond, total]
  omega

end Throttling.Timestamp
