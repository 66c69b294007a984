import Throttling.Json.Parser
import Throttling.Proofs.Bucket.Operations
import Throttling.Proofs.Reading
import Throttling.Proofs.Time

/-!
# Order of times and elapsed time

A bucket asks by the order of the parts whether time has moved on, and by the nanoseconds since the
epoch how far. The two agree as long as the nanoseconds of a time stay below a second
(`measuresTime_of_normal`). Times that are computed keep to that, times that are read need not: the
readers take the parts as they stand. So the two agree exactly if the times read do
(`measuresTime_made_iff`).
-/

set_option autoImplicit false

namespace Throttling

namespace Timestamp

/-- The times that can come about, where those read from documents are among the `given` ones. -/
inductive Made (given : Timestamp → Prop) : Timestamp → Prop
  | ofParts (seconds : Int64) (nanos : UInt32) : Made given (ofParts seconds.toInt nanos.toNat)
  | ofSeconds (seconds : Int64) : Made given (ofSeconds seconds.toInt)
  | plusNanos {t : Timestamp} (made : Made given t) (nanos : UInt64) :
      Made given (t.plusNanos nanos.toNat)
  | plusSeconds {t : Timestamp} (made : Made given t) (seconds : Int64) :
      Made given (t.plusSeconds seconds.toInt)
  /-- A time by itself or anywhere within another value. -/
  | read {format : Format} {document : Document} {t : Timestamp}
      (reads : reader format document = some t) (kept : given t) : Made given t
  /-- A decision time of usage levels. -/
  | stored {format : Format} {document : Document} {levels : Snapshots} {t : Timestamp}
      (reads : Snapshots.reader format document = some levels) (member : t ∈ levels.times)
      (kept : given t) : Made given t

/-- Every way to compute a time leaves less than a second of nanoseconds. -/
theorem made_normal {given : Timestamp → Prop}
    (normal : ∀ t, t.Representable → given t → t.Normal) {t : Timestamp} (made : Made given t) :
    t.Normal := by
  induction made with
  | ofParts seconds nanos => exact ofParts_normal _ _
  | ofSeconds seconds => exact (by decide : 0 < nanosPerSecond)
  | plusNanos made nanos ih => exact plusNanos_normal _ _
  | plusSeconds made seconds ih => exact ih
  | read reads kept => exact normal _ (reader_yields reads) kept
  | stored reads member kept =>
    exact normal _ (Snapshots.times_representable (Snapshots.reader_yields reads) _ member) kept

theorem made_ofSeconds (given : Timestamp → Prop) {seconds : Int}
    (representable : (ofSeconds seconds).Representable) : Made given (ofSeconds seconds) := by
  obtain ⟨low, high⟩ := representable.seconds
  simp only [ofSeconds, Word.minSigned64, Word.maxSigned64] at low high
  have made := @Made.ofSeconds given (Int64.ofInt seconds)
  rwa [Int64.toInt_ofInt_of_le (by omega) (by omega)] at made

/-- A time with a second or more of nanoseconds is before the next whole second by its parts, and
not before it by its nanoseconds. -/
theorem nanosSince_next_of_not_normal {t : Timestamp} (overfull : ¬ t.Normal) :
    ¬ ofSeconds (t.seconds + 1) ≤ t ∧ (ofSeconds (t.seconds + 1)).nanosSince t = 0 := by
  unfold Normal nanosPerSecond at overfull
  constructor
  · rw [le_iff]
    simp only [ofSeconds]
    omega
  · simp only [nanosSince, toNanos, ofSeconds, nanosPerSecond]
    omega

theorem le_of_not_le {a b : Timestamp} (h : ¬ a ≤ b) : b ≤ a := by
  rw [le_iff] at h ⊢
  omega

end Timestamp

/-! ## Buckets -/

namespace Bucket

def Op.times : Op → List Timestamp
  | .draw now _ => [now]
  | .restore _ lastDecision => lastDecision.toList
  | .rollback | .commit | .refund _ | .revoke _ => []

def Op.restores : Op → Bool
  | .restore _ _ => true
  | .draw _ _ | .rollback | .commit | .refund _ | .revoke _ => false

/-- A bucket that has seen such times only. -/
def Reached (made : Timestamp → Prop) (b : Bucket) : Prop :=
  ∃ capacity burstNanos ops, capacity ≤ Word.max64 ∧ burstNanos ≤ Word.max64 ∧
    (∀ op ∈ ops, ∀ t ∈ op.times, made t) ∧ b = (new capacity burstNanos).run ops

variable {b : Bucket} {made : Timestamp → Prop}

theorem Op.normal_of_times {op : Op} (normal : ∀ t ∈ op.times, t.Normal) : op.Normal := by
  cases op with
  | draw now units => exact normal now List.mem_cons_self
  | restore used lastDecision => exact fun t member => normal t (Option.mem_toList.mpr member)
  | rollback | commit | refund | revoke => trivial

theorem Reached.wellFormed (reached : Reached made b) : b.WellFormed := by
  obtain ⟨capacity, burstNanos, ops, hc, hb, -, rfl⟩ := reached
  exact run_wellFormed (new_wellFormed hc hb) ops

theorem Reached.normalTime (reached : Reached made b) (normal : ∀ t, made t → t.Normal) :
    b.NormalTime := by
  obtain ⟨capacity, burstNanos, ops, hc, hb, times, rfl⟩ := reached
  exact run_normalTime (new_wellFormed hc hb) (normalTime_of_untimed rfl) fun op member =>
    Op.normal_of_times fun t used => normal t (times op member t used)

/-- The clock does not fall behind a normal decision time, at whatever instant it is read. -/
theorem toNanos_le_clock (times : b.NormalTime) {last : Timestamp}
    (timed : last ∈ b.lastDecision) (now : Timestamp) :
    last.toNanos ≤ (b.clock now).toNanos := by
  simp only [clock, Option.mem_def.mp timed]
  split
  · exact Int.le_refl _
  · rename_i later
    exact Timestamp.toNanos_le_of_le (times last timed) (Timestamp.le_of_not_le later)

/-- No operation but a restore turns the decision time back. -/
theorem apply_forward (w : b.WellFormed) (times : b.NormalTime) {op : Op}
    (keeps : op.restores = false) {last : Timestamp} (timed : last ∈ b.lastDecision) :
    ∃ next ∈ (b.apply op).lastDecision, last.toNanos ≤ next.toNanos := by
  cases op with
  | draw now units =>
    rw [apply, draw?_eq w]
    split
    · exact ⟨b.clock now, lastDecision_claim w now units, toNanos_le_clock times timed now⟩
    · exact ⟨last, timed, Int.le_refl _⟩
  | rollback | commit | refund | revoke => exact ⟨last, timed, Int.le_refl _⟩
  | restore => cases keeps

theorem run_forward (w : b.WellFormed) (times : b.NormalTime) {ops : List Op}
    (normal : ∀ op ∈ ops, op.Normal) (keep : ∀ op ∈ ops, op.restores = false) {last : Timestamp}
    (timed : last ∈ b.lastDecision) :
    ∃ next ∈ (b.run ops).lastDecision, last.toNanos ≤ next.toNanos := by
  induction ops generalizing b last with
  | nil => exact ⟨last, timed, Int.le_refl _⟩
  | cons op ops ih =>
    obtain ⟨first, rest⟩ := List.forall_mem_cons.mp normal
    obtain ⟨keeps, keep⟩ := List.forall_mem_cons.mp keep
    obtain ⟨middle, reached, forward⟩ := apply_forward w times keeps timed
    obtain ⟨next, final, onward⟩ :=
      ih (apply_wellFormed w op) (apply_normalTime w times first) rest keep reached
    exact ⟨next, final, Int.le_trans forward onward⟩

end Bucket

/-! ## Agreement of order and measure -/

/-- On these times, and in buckets that have seen them only, the order of times agrees with the
time that has elapsed. -/
structure MeasuresTime (made : Timestamp → Prop) : Prop where
  normal : ∀ t, made t → t.Normal
  order : ∀ a b, made a → made b → (a ≤ b ↔ a.toNanos ≤ b.toNanos)
  elapsed : ∀ b, Bucket.Reached made b → ∀ last ∈ b.lastDecision, ∀ now, made now →
    ¬ now ≤ last → 0 < now.nanosSince last
  forward : ∀ b, Bucket.Reached made b → ∀ ops : List Bucket.Op,
    (∀ op ∈ ops, op.restores = false ∧ ∀ t ∈ op.times, made t) →
    ∀ last ∈ b.lastDecision, ∃ next ∈ (b.run ops).lastDecision, last.toNanos ≤ next.toNanos

/-- Where nanoseconds stay below a second, the order of times agrees with elapsed time. -/
theorem measuresTime_of_normal {made : Timestamp → Prop} (normal : ∀ t, made t → t.Normal) :
    MeasuresTime made where
  normal := normal
  order := fun a b first second => Timestamp.le_iff_toNanos_le (normal a first) (normal b second)
  elapsed := by
    intro b reached last timed now known later
    have times := reached.normalTime normal last timed
    rw [Timestamp.le_iff_toNanos_le (normal now known) times] at later
    unfold Timestamp.nanosSince
    omega
  forward := fun b reached ops steps last timed =>
    Bucket.run_forward reached.wellFormed (reached.normalTime normal)
      (fun op member => Bucket.Op.normal_of_times fun t used =>
        normal t ((steps op member).2 t used))
      (fun op member => (steps op member).1) timed

/-- The order of times agrees with elapsed time exactly if no time is read with a second or more of
nanoseconds. From any such time, short of the last second, nothing has elapsed to some later time
that can be computed. -/
theorem measuresTime_made_iff (given : Timestamp → Prop) :
    (MeasuresTime (Timestamp.Made given) ↔
      ∀ format document t, Timestamp.reader format document = some t → given t → t.Normal) ∧
    ∀ t : Timestamp, t.Representable → ¬ t.Normal → t.seconds < Word.maxSigned64 →
      ∃ now, Timestamp.Made given now ∧ ¬ now ≤ t ∧ now.nanosSince t = 0 := by
  refine ⟨⟨?_, ?_⟩, ?_⟩
  · intro measures format document t reads kept
    exact measures.normal t (.read reads kept)
  · intro normal
    refine measuresTime_of_normal fun t => Timestamp.made_normal fun t representable kept => ?_
    obtain ⟨format, document, reads⟩ := Timestamp.reader_iff.mpr representable
    exact normal format document t reads kept
  · intro t representable overfull short
    have low := representable.seconds.1
    have next : (Timestamp.ofSeconds (t.seconds + 1)).Representable :=
      ⟨⟨Int.le_trans low (Int.le_add_one (Int.le_refl _)), short⟩, Nat.zero_lt_succ _⟩
    exact ⟨_, Timestamp.made_ofSeconds given next, Timestamp.nanosSince_next_of_not_normal overfull⟩

/-- The last nanosecond of a second is a time that documents may hold, the one after it is not. -/
theorem measuresTime_made_iff_last_nanosecond :
    let last : Timestamp := ⟨5, 999999999⟩
    let beyond : Timestamp := ⟨5, 1000000000⟩
    Timestamp.Made (· = last) last ∧ MeasuresTime (Timestamp.Made (· = last)) ∧
      ∃ now, Timestamp.Made (· = last) now ∧ ¬ now ≤ beyond ∧ now.nanosSince beyond = 0 := by
  intro last beyond
  obtain ⟨agrees, parts⟩ := measuresTime_made_iff (· = last)
  have reads : Timestamp.reader Json.format last.toDocument = some last :=
    Timestamp.reader_readsBack (by decide) ⟨by decide, by decide⟩
  refine ⟨.read reads rfl, agrees.mpr ?_, parts beyond ⟨by decide, by decide⟩ (by decide) (by decide)⟩
  rintro format document t - rfl
  decide

/-- Usage levels are read with two seconds of nanoseconds in the first second. A bucket restored to
them takes the next whole second for later, although it is a second earlier, and a draw turns the
decision time back to it. -/
theorem read_time_can_turn_back :
    let last : Timestamp := ⟨0, 2000000000⟩
    let now := Timestamp.ofSeconds 1
    let levels : Snapshots := ⟨[⟨0, some last⟩], none, none⟩
    let b := (Bucket.new 10 nanosPerSecond).restore 0 (some last)
    Snapshots.reader Json.format levels.toDocument = some levels ∧ ¬ last.Normal ∧
      last ≤ now ∧ ¬ now ≤ last ∧ now.toNanos < last.toNanos ∧ now.nanosSince last = 0 ∧
      (b.apply (.draw now 1)).lastDecision = some now ∧
      ¬ MeasuresTime (Timestamp.Made fun _ => True) := by
  intro last now levels b
  have level : Snapshot.Representable ⟨0, some last⟩ := by
    refine ⟨by decide, ?_⟩
    rintro t ⟨⟩
    exact ⟨by decide, by decide⟩
  have representable : levels.Representable :=
    { operations := List.forall_mem_singleton.mpr level
      gas := by simp [levels]
      opsDuration := by simp [levels] }
  have reads : Snapshots.reader Json.format levels.toDocument = some levels :=
    Snapshots.reader_readsBack (by decide) representable
  have made : Timestamp.Made (fun _ => True) last :=
    .stored reads (List.mem_singleton.mpr rfl) trivial
  exact ⟨reads, by decide, by decide, by decide, by decide, by decide, by decide,
    fun measures => absurd (measures.normal last made) (by decide)⟩

end Throttling
