import Throttling.Codec.Usage

/-!
# What readers yield

A property of all values that a reader yields passes to the lists, options and fields that are read
with it (`Reader.Yields`), and so does reading back what was written (`Reader.ReadsBack`). Together
they say which values a reader can yield. The reader of times yields all pairs of a signed number of
64 bits and an unsigned one of 32 bits (`Timestamp.reader_iff`), so nothing holds the nanoseconds
below a full second, and no more does the reader of usage levels (`Snapshots.reader_iff`).
-/

set_option autoImplicit false

namespace Throttling

namespace Reader

variable {α : Type} {read : Reader α} {write : α → Document} {P : α → Prop}

/-- All values that a reader yields have a property. -/
def Yields (read : Reader α) (P : α → Prop) : Prop :=
  ∀ ⦃format : Format⦄ ⦃document : Document⦄ ⦃a : α⦄, read format document = some a → P a

/-- Values with a property are read as they were written, where that many levels may be entered. -/
def ReadsBack (read : Reader α) (write : α → Document) (levels : Nat) (P : α → Prop) : Prop :=
  ∀ ⦃format : Format⦄ ⦃a : α⦄, levels ≤ format.levels → P a → read format (write a) = some a

/-- A reader that reads a property's values back and yields no others yields just these. -/
theorem yielded_iff {levels : Nat} (yields : Yields read P)
    (back : ReadsBack read write levels P) {a : α} :
    (∃ format document, read format document = some a) ↔ P a := by
  constructor
  · rintro ⟨format, document, h⟩
    exact yields h
  · intro good
    exact ⟨⟨levels, false, fun _ => false⟩, write a, back (Nat.le_refl _) good⟩

/-! ### Levels -/

theorem enter_yields (yields : Yields read P) : Yields (enter read) P := by
  intro format document a entered
  unfold enter at entered
  split at entered
  · cases entered
  · exact yields entered

theorem enter_readsBack {levels : Nat} (back : ReadsBack read write levels P) :
    ReadsBack (enter read) write (levels + 1) P := by
  intro format a deep good
  unfold enter
  split
  · omega
  · refine back ?_ good
    dsimp only
    omega

/-! ### Numbers -/

theorem integerIn_yields (low high : Int) :
    Yields (integerIn low high) fun value => low ≤ value ∧ value ≤ high := by
  intro format document value h
  unfold integerIn at h
  split at h
  · split at h
    · cases h
      assumption
    · cases h
  · cases h

theorem integerIn_readsBack (low high : Int) :
    ReadsBack (integerIn low high) Document.integer 0 fun value => low ≤ value ∧ value ≤ high :=
  fun _ _ _ within => if_pos within

theorem natBelow_yields (limit : Nat) : Yields (natBelow limit) (· < limit) := by
  intro format document value h
  unfold natBelow at h
  split at h
  · split at h
    · cases h
      assumption
    · cases h
  · cases h

theorem natBelow_readsBack (limit : Nat) :
    ReadsBack (natBelow limit) Document.ofNat 0 (· < limit) :=
  fun _ _ _ below => if_pos below

/-! ### Lists and options -/

theorem mem_of_mapM_eq_some {γ : Type} {step : γ → Option α} {items : List γ} {values : List α}
    (all : items.mapM step = some values) {a : α} (member : a ∈ values) :
    ∃ item, step item = some a := by
  induction items generalizing values with
  | nil =>
    cases all
    cases member
  | cons item items ih =>
    simp only [List.mapM_cons, Option.bind_eq_bind, Option.pure_def, Option.bind_eq_some_iff,
      Option.some.injEq] at all
    obtain ⟨head, first, tail, rest, rfl⟩ := all
    rcases List.mem_cons.mp member with rfl | later
    · exact ⟨item, first⟩
    · exact ih rest later

theorem mapM_map_eq_some {γ : Type} {step : γ → Option α} {write : α → γ} {values : List α}
    (each : ∀ a ∈ values, step (write a) = some a) : (values.map write).mapM step = some values := by
  induction values with
  | nil => rfl
  | cons a values ih =>
    obtain ⟨first, rest⟩ := List.forall_mem_cons.mp each
    simp only [List.map_cons, List.mapM_cons, first, ih rest, Option.bind_eq_bind,
      Option.bind_some, Option.pure_def]

theorem list_yields (yields : Yields read P) : Yields (list read) fun as => ∀ a ∈ as, P a := by
  refine enter_yields fun format document as h a member => ?_
  split at h
  · obtain ⟨item, h⟩ := mem_of_mapM_eq_some h member
    exact yields h
  · cases h

theorem list_readsBack {levels : Nat} (back : ReadsBack read write levels P) :
    ReadsBack (list read) (Document.ofList write) (levels + 1) fun as => ∀ a ∈ as, P a :=
  enter_readsBack fun _ _ deep good =>
    mapM_map_eq_some fun a member => back deep (good a member)

theorem optional_yields (yields : Yields read P) : Yields (optional read) fun o => ∀ a ∈ o, P a := by
  intro format document o h a member
  unfold optional at h
  split at h
  · cases h
    cases member
  · obtain ⟨value, given, rfl⟩ := Option.map_eq_some_iff.mp h
    cases member
    exact yields given

/-- Null stands for no value, so no value may be written so. -/
theorem optional_readsBack {levels : Nat} (back : ReadsBack read write levels P)
    (solid : ∀ a, write a ≠ .null) :
    ReadsBack (optional read) (Document.ofOption write) levels fun o => ∀ a ∈ o, P a := by
  intro format o deep good
  cases o with
  | none => rfl
  | some a =>
    unfold optional Document.ofOption
    split
    · exact absurd ‹_› (solid a)
    · rw [back deep (good a rfl)]
      rfl

/-! ### Records -/

namespace Fields

variable {fs : Fields} {name : String}

theorem required_yields (yields : Yields read P) {a : α} (h : fs.required name read = some a) :
    P a := by
  unfold required at h
  split at h
  · exact yields h
  · cases h

theorem defaulted_yields (yields : Yields read P) {default a : α} (usual : P default)
    (h : fs.defaulted name read default = some a) : P a := by
  unfold defaulted at h
  split at h
  · exact yields h
  · cases h
    exact usual

theorem optional_yields (yields : Yields read P) {o : Option α}
    (h : fs.optional name read = some o) : ∀ a ∈ o, P a := by
  unfold Fields.optional at h
  split at h
  · exact Reader.optional_yields yields h
  · split at h
    · cases h
      exact fun a member => nomatch member
    · cases h

/-- Members that are fields, none of them twice, are all taken. -/
theorem ofMembers_of_nodup {names : List String} {members : List (String × Document)}
    (known : ∀ m ∈ members, m.1 ∈ names) (distinct : (members.map Prod.fst).Nodup) :
    ofMembers names (members.map fun m => (some m.1, m.2)) = some members := by
  induction members with
  | nil => rfl
  | cons m members ih =>
    obtain ⟨first, rest⟩ := List.forall_mem_cons.mp known
    obtain ⟨fresh, distinct⟩ := List.nodup_cons.mp distinct
    have absent : members.lookup m.1 = none := by
      refine List.lookup_eq_none_iff.mpr fun other later => bne_iff_ne.mpr fun same => fresh ?_
      rw [same]
      exact List.mem_map_of_mem later
    simp only [List.map_cons, ofMembers, ih rest distinct, first, absent, Option.bind_eq_bind,
      Option.bind_some, Option.isSome_none, if_true, Bool.false_eq_true, if_false]

end Fields

theorem record_yields {names : List String} {build : Fields → Option α}
    (built : ∀ {fs a}, build fs = some a → P a) : Yields (record names build) P :=
  enter_yields fun _ _ _ h =>
    have ⟨_, _, h⟩ := Option.bind_eq_some_iff.mp h
    built h

/-- A record is built from its members, read one level further in. -/
theorem record_readsBack {names : List String} {build : Fields → Option α} {levels : Nat}
    {members : α → List (String × Document)} (known : ∀ a, ∀ m ∈ members a, m.1 ∈ names)
    (distinct : ∀ a, ((members a).map Prod.fst).Nodup)
    (built : ∀ {format : Format} {a}, levels ≤ format.levels → P a →
      build ⟨format, true, members a⟩ = some a) :
    ReadsBack (record names build) (fun a => .ofMembers (members a)) (levels + 1) P :=
  enter_readsBack fun format a deep good => by
    simp only [Document.ofMembers, Fields.ofDocument,
      Fields.ofMembers_of_nodup (known a) (distinct a), Option.map_some, Option.bind_eq_bind,
      Option.bind_some]
    exact built deep good

end Reader

/-! ## Times -/

namespace Timestamp

/-- Seconds in a signed number of 64 bits, nanoseconds in an unsigned one of 32 bits. -/
structure Representable (t : Timestamp) : Prop where
  seconds : Word.minSigned64 ≤ t.seconds ∧ t.seconds ≤ Word.maxSigned64
  nanos : t.nanos < UInt32.size

theorem reader_yields : Reader.Yields reader Representable :=
  Reader.record_yields fun {fs t} h => by
    simp only [Option.bind_eq_bind, Option.pure_def, Option.bind_eq_some_iff, Option.some.injEq] at h
    obtain ⟨seconds, whole, nanos, part, rfl⟩ := h
    exact ⟨Reader.Fields.required_yields (Reader.integerIn_yields _ _) whole,
      Reader.Fields.required_yields (Reader.natBelow_yields _) part⟩

theorem reader_readsBack : Reader.ReadsBack reader toDocument 1 Representable :=
  Reader.record_readsBack (by simp) (by simp) fun {format t} _ good => by
    have whole := Reader.integerIn_readsBack _ _ (Nat.zero_le format.levels) good.seconds
    have part := Reader.natBelow_readsBack _ (Nat.zero_le format.levels) good.nanos
    simp [Reader.Fields.required, List.lookup_cons, Reader.int64, Reader.nat32, whole, part]

/-- The times that can be read, normal or not. -/
theorem reader_iff {t : Timestamp} :
    (∃ format document, reader format document = some t) ↔ t.Representable :=
  Reader.yielded_iff reader_yields reader_readsBack

end Timestamp

/-! ## Usage levels -/

namespace Snapshot

structure Representable (s : Snapshot) : Prop where
  used : s.used < UInt64.size
  lastDecision : ∀ t ∈ s.lastDecision, t.Representable

theorem reader_yields : Reader.Yields reader Representable :=
  Reader.record_yields fun {fs s} h => by
    simp only [Option.bind_eq_bind, Option.pure_def, Option.bind_eq_some_iff, Option.some.injEq] at h
    obtain ⟨used, units, lastDecision, time, rfl⟩ := h
    exact ⟨Reader.Fields.required_yields (Reader.natBelow_yields _) units,
      Reader.Fields.optional_yields Timestamp.reader_yields time⟩

theorem reader_readsBack : Reader.ReadsBack reader toDocument 2 Representable :=
  Reader.record_readsBack (by simp) (by simp) fun {format s} deep good => by
    have units := Reader.natBelow_readsBack _ (Nat.zero_le format.levels) good.used
    have time := Reader.optional_readsBack Timestamp.reader_readsBack (fun t => by
      simp [Timestamp.toDocument, Document.ofMembers]) deep good.lastDecision
    simp [Reader.Fields.required, Reader.Fields.optional, List.lookup_cons, Reader.nat64, units,
      time]

end Snapshot

namespace Snapshots

def levels (s : Snapshots) : List Snapshot := s.operations ++ s.gas.toList ++ s.opsDuration.toList

def times (s : Snapshots) : List Timestamp := s.levels.filterMap Snapshot.lastDecision

structure Representable (s : Snapshots) : Prop where
  operations : ∀ level ∈ s.operations, level.Representable
  gas : ∀ level ∈ s.gas, level.Representable
  opsDuration : ∀ level ∈ s.opsDuration, level.Representable

theorem times_representable {s : Snapshots} (good : s.Representable) :
    ∀ t ∈ s.times, t.Representable := by
  intro t member
  obtain ⟨level, member, timed⟩ := List.mem_filterMap.mp member
  simp only [levels, List.mem_append, Option.mem_toList] at member
  have representable : level.Representable := by
    rcases member with (member | member) | member
    · exact good.operations level member
    · exact good.gas level member
    · exact good.opsDuration level member
  exact representable.lastDecision t timed

theorem reader_yields : Reader.Yields reader Representable :=
  Reader.record_yields fun {fs s} h => by
    simp only [Option.bind_eq_bind, Option.pure_def, Option.bind_eq_some_iff, Option.some.injEq] at h
    obtain ⟨operations, each, gas, one, opsDuration, other, rfl⟩ := h
    exact {
      operations := Reader.Fields.defaulted_yields (Reader.list_yields Snapshot.reader_yields)
        (by simp) each
      gas := Reader.Fields.defaulted_yields (Reader.optional_yields Snapshot.reader_yields)
        (by simp) one
      opsDuration := Reader.Fields.defaulted_yields (Reader.optional_yields Snapshot.reader_yields)
        (by simp) other }

theorem reader_readsBack : Reader.ReadsBack reader toDocument 4 Representable :=
  Reader.record_readsBack (by simp) (by simp) fun {format s} deep good => by
    have solid : ∀ level : Snapshot, level.toDocument ≠ .null := fun level => by
      simp [Snapshot.toDocument, Document.ofMembers]
    have each := Reader.list_readsBack Snapshot.reader_readsBack deep good.operations
    have level := Reader.optional_readsBack Snapshot.reader_readsBack solid
    have one := level (Nat.le_of_succ_le deep) good.gas
    have other := level (Nat.le_of_succ_le deep) good.opsDuration
    simp [Reader.Fields.defaulted, List.lookup_cons, each, one, other]

/-- The usage levels that can be read, with decision times normal or not. -/
theorem reader_iff {s : Snapshots} :
    (∃ format document, reader format document = some s) ↔ s.Representable :=
  Reader.yielded_iff reader_yields reader_readsBack

end Snapshots

end Throttling
