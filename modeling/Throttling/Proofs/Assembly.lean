import Throttling.Gate.Settings
import Throttling.Proofs.Compilation
import Throttling.Proofs.ThrottleSet
import Mathlib.Data.List.Induction
import Mathlib.Data.List.Nodup

/-!
# Assembly

A set can be assembled bucket by bucket: a bucket that compiles adds its throttle at the next
position and its costs to the tariffs that are there, and one that does not is reported and adds
nothing. The order in which this happens is the document's, so a malformed bucket could shift a
position or leave half of its costs. It does neither (`assemble_eq`): the throttles, the tariffs and
the events are those of the compiled set, whose positions count the accepted buckets alone, and the
document without its malformed buckets gives the same set (`compile_skips_malformed`).
-/

set_option autoImplicit false

namespace Throttling

namespace BucketDefinition

instance (b : BucketDefinition) (split : Nat) : Decidable (b.Compilable split) :=
  decidable_of_iff
    (b.groups ≠ [] ∧ 0 < b.burstMillis ∧ (∀ g ∈ b.groups, 0 < g.rate ∧ max split 1 ≤ g.rate) ∧
      b.logicalRate < 2 ^ 64 ∧ b.logicalRate / max split 1 * b.burstMillis < 2 ^ 64 ∧
      (∀ g ∈ b.groups, 1000 * b.logicalRate / g.rate < 2 ^ 64) ∧
      (∀ g ∈ b.groups, min (10 ^ 6 * b.logicalRate / g.rate) (2 ^ 64 - 1) ≤
        b.logicalRate / max split 1 * b.burstMillis) ∧
      (listed b.groups).Nodup)
    ⟨fun ⟨nonempty, burst, splittable, rate, capacity, cost, fits, distinct⟩ =>
      ⟨nonempty, burst, splittable, rate, capacity, cost, fits, distinct⟩,
    fun formed => ⟨formed.nonempty, formed.burst, formed.splittable, formed.logicalRate,
      formed.capacity, formed.cost, formed.fits, formed.distinct⟩⟩

theorem compile_of_compilable {b : BucketDefinition} {split : Nat} (formed : b.Compilable split) :
    b.compile split = .ok (b.compiled split) := compile_eq_ok_iff.mpr ⟨formed, rfl⟩

theorem compile_of_not_compilable {b : BucketDefinition} {split : Nat}
    (malformed : ¬ b.Compilable split) : ∃ e, b.compile split = .error e := by
  cases outcome : b.compile split with
  | error e => exact ⟨e, rfl⟩
  | ok bucket => exact absurd (compile_eq_ok_iff.mp outcome).1 malformed

/-- The requirement that a bucket at a position imposes on a functionality, if it lists it. -/
def requirement? (b : BucketDefinition) (function : Functionality) (position : Nat) :
    Option Requirement :=
  (b.groupOf? function).map fun group => ⟨position, 1000 * b.logicalRate / group.rate⟩

end BucketDefinition

namespace Definitions

def wellFormed (definitions : Definitions) (split : Nat) : Definitions :=
  ⟨definitions.buckets.filter fun b => b.Compilable split⟩

def malformed (definitions : Definitions) (split : Nat) : List BucketDefinition :=
  definitions.buckets.filter fun b => ¬ b.Compilable split

end Definitions

def Event.isRejection : Event → Bool
  | bucketRejected _ _ => true
  | _ => false

namespace ThrottleSet

/-! ## Bucket by bucket -/

/-- What has been assembled from the first buckets of a document. -/
structure Assembly where
  throttles : List Throttle
  tariffs : Functionality → Option Tariff
  events : List Event

namespace Assembly

def start : Assembly := ⟨[], fun _ => none, []⟩

/-- Add a cost at a position to the tariff of its functionality, which begins with it if there is
none yet. -/
def require (generation position : Nat) (tariffs : Functionality → Option Tariff)
    (cost : Functionality × Nat) : Functionality → Option Tariff :=
  let tariff := (tariffs cost.1).getD ⟨cost.1, [], generation⟩
  Function.update tariffs cost.1
    (some { tariff with requirements := tariff.requirements ++ [⟨position, cost.2⟩] })

def add (split generation : Nat) (a : Assembly) (b : BucketDefinition) : Assembly :=
  match b.compile split with
  | .error e => { a with events := a.events ++ [.bucketRejected b.name e] }
  | .ok bucket =>
    { a with
      throttles := a.throttles ++ [bucket.throttle]
      tariffs := bucket.costs.foldl (require generation a.throttles.length) a.tariffs }

end Assembly

def assemble (definitions : Definitions) (split generation : Nat) : Assembly :=
  definitions.buckets.foldl (Assembly.add split generation) Assembly.start

def rejections (definitions : Definitions) (split : Nat) : List Event :=
  (rejected definitions split).map fun r => .bucketRejected r.1 r.2

def withCosts (s : ThrottleSet) (more : List (Functionality × Requirement)) : ThrottleSet :=
  { s with costs := s.costs ++ more }

theorem requirements_withCosts (s : ThrottleSet) (more : List (Functionality × Requirement))
    (function : Functionality) :
    (s.withCosts more).requirements function = s.requirements function ++
      more.filterMap fun cost => if cost.1 = function then some cost.2 else none :=
  List.filterMap_append

theorem getD_tariff? (s : ThrottleSet) (function : Functionality) :
    (s.tariff? function).getD ⟨function, [], s.generation⟩ =
      ⟨function, s.requirements function, s.generation⟩ := by
  unfold tariff?
  split
  · rename_i none
    rw [none]
    rfl
  · rfl

/-- A cost that is added to the tariffs of a set is added to its costs. -/
theorem require_tariff? (s : ThrottleSet) (position : Nat) (cost : Functionality × Nat) :
    Assembly.require s.generation position s.tariff? cost =
      (s.withCosts [(cost.1, ⟨position, cost.2⟩)]).tariff? := by
  funext function
  have required := requirements_withCosts s [(cost.1, ⟨position, cost.2⟩)] function
  rw [Assembly.require, getD_tariff?]
  by_cases own : function = cost.1
  · subst own
    rw [Function.update_self, tariff?]
    simp only [List.filterMap_cons, if_true, List.filterMap_nil] at required
    split
    · rename_i none
      exact absurd (required.symm.trans none) (by simp)
    · rw [required]
      rfl
  · simp only [List.filterMap_cons, if_neg (Ne.symm own), List.filterMap_nil, List.append_nil]
      at required
    rw [Function.update_of_ne own, tariff?, tariff?, required]
    rfl

theorem foldl_require (s : ThrottleSet) (position : Nat) (costs : List (Functionality × Nat)) :
    costs.foldl (Assembly.require s.generation position) s.tariff? =
      (s.withCosts (costs.map fun cost => (cost.1, ⟨position, cost.2⟩))).tariff? := by
  induction costs generalizing s with
  | nil => rw [List.map_nil, withCosts, List.append_nil]; rfl
  | cons cost costs ih =>
    rw [List.foldl_cons, require_tariff?, List.map_cons]
    have rest := ih (s.withCosts [(cost.1, ⟨position, cost.2⟩)])
    simp only [withCosts, List.append_assoc, List.singleton_append] at rest ⊢
    exact rest

/-! A last bucket that compiles takes the next position; one that does not takes none. -/

section Last

variable {buckets : List BucketDefinition} {b : BucketDefinition} {split : Nat}

theorem compile_concat_of_ok {bucket : CompiledBucket} (compiled : b.compile split = .ok bucket)
    (generation : Nat) :
    compile ⟨buckets ++ [b]⟩ split generation =
      { compile ⟨buckets⟩ split generation with
        throttles := (compile ⟨buckets⟩ split generation).throttles ++ [bucket.throttle]
        costs := (compile ⟨buckets⟩ split generation).costs ++
          requirementsOf bucket (compile ⟨buckets⟩ split generation).throttles.length } := by
  have before : accepted ⟨buckets ++ [b]⟩ split = accepted ⟨buckets⟩ split ++ [bucket] := by
    simp only [accepted, List.filterMap_append, List.filterMap_cons, compiled, Except.toOption,
      List.filterMap_nil]
  simp only [compile, before, List.map_append, List.map_cons, List.map_nil, List.zipIdx_append,
    List.zipIdx_cons, List.zipIdx_nil, List.flatMap_append, List.flatMap_cons, List.flatMap_nil,
    List.append_nil, Nat.zero_add, List.length_map]

theorem compile_concat_of_error {e : Error} (malformed : b.compile split = .error e)
    (generation : Nat) :
    compile ⟨buckets ++ [b]⟩ split generation = compile ⟨buckets⟩ split generation := by
  have before : accepted ⟨buckets ++ [b]⟩ split = accepted ⟨buckets⟩ split := by
    simp only [accepted, List.filterMap_append, List.filterMap_cons, malformed, Except.toOption,
      List.filterMap_nil, List.append_nil]
  simp only [compile, before]

theorem rejections_concat_of_ok {bucket : CompiledBucket}
    (compiled : b.compile split = .ok bucket) :
    rejections ⟨buckets ++ [b]⟩ split = rejections ⟨buckets⟩ split := by
  simp only [rejections, rejected, List.filterMap_append, List.filterMap_cons, compiled,
    List.filterMap_nil, List.append_nil]

theorem rejections_concat_of_error {e : Error} (malformed : b.compile split = .error e) :
    rejections ⟨buckets ++ [b]⟩ split =
      rejections ⟨buckets⟩ split ++ [.bucketRejected b.name e] := by
  simp only [rejections, rejected, List.filterMap_append, List.filterMap_cons, malformed,
    List.filterMap_nil, List.map_append, List.map_cons, List.map_nil]

end Last

/-- Assembling a document gives its compiled set, and reports its malformed buckets. -/
theorem assemble_eq (definitions : Definitions) (split generation : Nat) :
    assemble definitions split generation =
      ⟨(compile definitions split generation).throttles,
        (compile definitions split generation).tariff?, rejections definitions split⟩ := by
  obtain ⟨buckets⟩ := definitions
  induction buckets using List.reverseRecOn with
  | nil => rfl
  | append_singleton buckets b ih =>
    have step : assemble ⟨buckets ++ [b]⟩ split generation =
        Assembly.add split generation (assemble ⟨buckets⟩ split generation) b :=
      List.foldl_concat ..
    rw [step, ih, Assembly.add]
    cases outcome : b.compile split with
    | error e => rw [compile_concat_of_error outcome, rejections_concat_of_error outcome]
    | ok bucket =>
      have tariffs := foldl_require (compile ⟨buckets⟩ split generation)
        (compile ⟨buckets⟩ split generation).throttles.length bucket.costs
      rw [compile_concat_of_ok outcome, rejections_concat_of_ok outcome]
      exact congrArg (Assembly.mk _ · _) tariffs

/-! ## The accepted buckets -/

section Accepted

variable (definitions : Definitions) (split generation : Nat) (function : Functionality)

theorem accepted_eq : accepted definitions split =
    (definitions.wellFormed split).buckets.map fun b => b.compiled split := by
  obtain ⟨buckets⟩ := definitions
  unfold accepted Definitions.wellFormed
  dsimp only
  induction buckets with
  | nil => rfl
  | cons b bs ih =>
    by_cases formed : b.Compilable split
    · rw [List.filter_cons, if_pos (decide_eq_true formed), List.map_cons, ← ih]
      exact List.filterMap_cons_some (by rw [BucketDefinition.compile_of_compilable formed]; rfl)
    · obtain ⟨e, malformed⟩ := BucketDefinition.compile_of_not_compilable formed
      rw [List.filter_cons, if_neg (by simpa using formed), ← ih]
      exact List.filterMap_cons_none (by rw [malformed]; rfl)

/-- The malformed buckets can be left out. -/
theorem compile_without_malformed :
    compile (definitions.wellFormed split) split generation =
      compile definitions split generation := by
  have twice : (definitions.wellFormed split).wellFormed split = definitions.wellFormed split := by
    simp [Definitions.wellFormed]
  have same : accepted (definitions.wellFormed split) split = accepted definitions split := by
    rw [accepted_eq, accepted_eq, twice]
  rw [compile, same, compile]

/-- Each malformed bucket is reported once, in order of the document. -/
theorem forall₂_rejections :
    List.Forall₂ (fun b event => ∃ e, b.compile split = .error e ∧
      event = .bucketRejected b.name e) (definitions.malformed split)
      (rejections definitions split) := by
  obtain ⟨buckets⟩ := definitions
  unfold rejections rejected Definitions.malformed
  induction buckets with
  | nil => exact .nil
  | cons b bs ih =>
    by_cases formed : b.Compilable split
    · simpa only [List.filterMap_cons, BucketDefinition.compile_of_compilable formed,
        List.filter_cons, formed, not_true, decide_false, Bool.false_eq_true, if_false] using ih
    · obtain ⟨e, malformed⟩ := BucketDefinition.compile_of_not_compilable formed
      simp only [List.filterMap_cons, malformed, List.filter_cons, formed, not_false_eq_true,
        decide_true, if_true, List.map_cons]
      exact .cons ⟨e, malformed, rfl⟩ ih

theorem throttles_compile : (compile definitions split generation).throttles =
    (definitions.wellFormed split).buckets.map fun b => (b.compiled split).throttle := by
  rw [compile, accepted_eq, List.map_map]
  rfl

end Accepted

private theorem filterMap_own (functions : List Functionality) (function : Functionality)
    (r : Requirement) :
    (functions.filterMap fun f => if f = function then some r else none) =
      List.replicate (functions.count function) r := by
  induction functions with
  | nil => rfl
  | cons f fs ih =>
    by_cases own : f = function
    · simp only [List.filterMap_cons, own, if_true, ih, List.count_cons_self, List.replicate_succ]
    · simp only [List.filterMap_cons, own, if_false, ih, List.count_cons_of_ne own]

/-- A functionality that is listed at most once has at most one of the costs of groups. -/
private theorem filterMap_costs {groups : List GroupDefinition} (cost : GroupDefinition → Nat)
    (distinct : (BucketDefinition.listed groups).Nodup) (function : Functionality)
    (position : Nat) :
    ((groups.flatMap fun g => g.operations.map fun f => (f, cost g)).filterMap fun c =>
        if c.1 = function then some (⟨position, c.2⟩ : Requirement) else none) =
      ((groups.find? fun g => function ∈ g.operations).map fun g =>
        (⟨position, cost g⟩ : Requirement)).toList := by
  induction groups with
  | nil => rfl
  | cons g gs ih =>
    obtain ⟨here, rest, apart⟩ := List.nodup_append.mp distinct
    have own : ((g.operations.map fun f => (f, cost g)).filterMap fun c =>
        if c.1 = function then some (⟨position, c.2⟩ : Requirement) else none) =
          List.replicate (g.operations.count function) ⟨position, cost g⟩ := by
      rw [List.filterMap_map]
      exact filterMap_own g.operations function ⟨position, cost g⟩
    rw [List.flatMap_cons, List.filterMap_append, own, ih rest]
    by_cases lists : function ∈ g.operations
    · have elsewhere : (gs.find? fun g => function ∈ g.operations) = none := by
        refine List.find?_eq_none.mpr fun later member there => ?_
        have again := List.mem_flatMap.mpr ⟨later, member, of_decide_eq_true there⟩
        exact apart function lists function again rfl
      rw [List.count_eq_one_of_mem here lists, elsewhere, List.find?_cons, decide_eq_true lists]
      rfl
    · rw [List.count_eq_zero_of_not_mem lists, List.find?_cons, decide_eq_false lists]
      rfl

theorem requirements_compile (definitions : Definitions) (split generation : Nat)
    (function : Functionality) :
    (compile definitions split generation).requirements function =
      (definitions.wellFormed split).buckets.zipIdx.filterMap fun entry =>
        entry.1.requirement? function entry.2 := by
  rw [requirements, compile, accepted_eq]
  dsimp only
  rw [List.zipIdx_map, List.flatMap_map, List.filterMap_flatMap, List.filterMap_eq_flatMap_toList]
  refine List.flatMap_congr fun entry member => ?_
  have formed : entry.1.Compilable split :=
    of_decide_eq_true (List.mem_filter.mp (List.fst_mem_of_mem_zipIdx member)).2
  rw [requirementsOf, List.filterMap_map]
  exact filterMap_costs _ formed.distinct function entry.2

theorem requirement?_isSome_iff {b : BucketDefinition} {function : Functionality}
    (position : Nat) :
    (b.requirement? function position).isSome = true ↔
      function ∈ BucketDefinition.listed b.groups := by
  rw [BucketDefinition.requirement?, Option.isSome_map, BucketDefinition.groupOf?,
    List.find?_isSome, BucketDefinition.listed, List.mem_flatMap]
  simp only [decide_eq_true_eq]

theorem tariff?_isSome_iff {s : ThrottleSet} {function : Functionality} :
    (s.tariff? function).isSome = true ↔ s.requirements function ≠ [] := by
  unfold tariff?
  split <;> simp_all

/-- What the compilation of a document makes of its accepted buckets, and of no others. -/
structure AssembledFrom (definitions : Definitions) (split generation : Nat) (s : ThrottleSet) :
    Prop where
  /-- The throttles are those of the accepted buckets, in order of the document. -/
  throttles : s.throttles =
    (definitions.wellFormed split).buckets.map fun b => (b.compiled split).throttle
  ways : s.split = max split 1
  stamp : s.generation = generation
  /-- A functionality has a tariff exactly if an accepted bucket lists it. -/
  listed : ∀ function, (s.tariff? function).isSome = true ↔
    ∃ b ∈ (definitions.wellFormed split).buckets, function ∈ BucketDefinition.listed b.groups
  /-- The tariff has one requirement for each accepted bucket that lists the functionality: the
  position among the accepted buckets, and the cost. -/
  tariff : ∀ function tariff, s.tariff? function = some tariff →
    tariff.requirements = (definitions.wellFormed split).buckets.zipIdx.filterMap
      fun entry => entry.1.requirement? function entry.2
  increasing : ∀ function tariff, s.tariff? function = some tariff →
    tariff.requirements.Pairwise fun a b => a.throttle < b.throttle
  inBounds : ∀ function tariff, s.tariff? function = some tariff →
    ∀ r ∈ tariff.requirements, r.throttle < s.throttles.length
  /-- Whatever the throttles have been used for, a draw is recorded under the set's generation. -/
  stamped : ∀ function now quantity scale throttles draw,
    { s with throttles }.draw? function now quantity scale = some draw →
      ∀ usage ∈ draw.usages, usage.generation = generation

theorem compile_assembledFrom (definitions : Definitions) (split generation : Nat) :
    AssembledFrom definitions split generation (compile definitions split generation) where
  throttles := throttles_compile definitions split generation
  ways := rfl
  stamp := rfl
  listed := by
    intro function
    rw [tariff?_isSome_iff, requirements_compile]
    constructor
    · intro required
      obtain ⟨r, member⟩ := List.exists_mem_of_ne_nil _ required
      obtain ⟨entry, kept, own⟩ := List.mem_filterMap.mp member
      exact ⟨entry.1, List.fst_mem_of_mem_zipIdx kept,
        (requirement?_isSome_iff entry.2).mp (Option.isSome_of_eq_some own)⟩
    · rintro ⟨b, kept, lists⟩
      obtain ⟨position, here⟩ := List.getElem?_of_mem kept
      obtain ⟨r, own⟩ := Option.isSome_iff_exists.mp
        ((requirement?_isSome_iff position).mpr lists)
      exact List.ne_nil_of_mem (List.mem_filterMap.mpr
        ⟨(b, position), List.mk_mem_zipIdx_iff_getElem?.mpr here, own⟩)
  tariff := by
    intro function tariff found
    rw [requirements_of_tariff? found, requirements_compile]
  increasing := fun _ _ found => tariff?_increasing (compile_ordered ..) found
  inBounds := by
    intro function tariff found r member
    rw [requirements_of_tariff? found] at member
    obtain ⟨c, here, -⟩ := exists_of_mem_requirements member
    rw [compile, List.length_map]
    exact (List.getElem?_eq_some_iff.mp here).1
  stamped := by
    intro function now quantity scale throttles draw drawn usage member
    obtain ⟨tariff, found, rfl⟩ := Option.map_eq_some_iff.mp drawn
    have stamp := generation_of_tariff? found
    rw [Tariff.draw_eq] at member
    split at member
    · obtain ⟨portion, -, rfl⟩ := List.mem_map.mp member
      exact stamp
    · cases member

/-- Malformed buckets leave no trace. The set that is assembled bucket by bucket is the compiled
one, which is also that of the document without them; its throttles and its tariffs come from the
accepted buckets alone, position by position; and each malformed bucket is reported once, in order
of the document, by the assembly and by every gate that is rebuilt. -/
theorem compile_skips_malformed (definitions : Definitions) (split generation : Nat) :
    (assemble definitions split generation =
        ⟨(compile definitions split generation).throttles,
          (compile definitions split generation).tariff?, rejections definitions split⟩ ∧
      compile (definitions.wellFormed split) split generation =
        compile definitions split generation ∧
      AssembledFrom definitions split generation (compile definitions split generation)) ∧
    (List.Forall₂ (fun b event => ∃ e, b.compile split = .error e ∧
        event = .bucketRejected b.name e) (definitions.malformed split)
        (rejections definitions split) ∧
      ∀ g : Gate, (g.rebuild definitions).events.filter Event.isRejection =
        rejections definitions g.split) := by
  refine ⟨⟨assemble_eq definitions split generation,
    compile_without_malformed definitions split generation,
    compile_assembledFrom definitions split generation⟩,
    forall₂_rejections definitions split, fun g => ?_⟩
  have all : (rejections definitions g.split).filter Event.isRejection =
      rejections definitions g.split := by
    refine List.filter_eq_self.mpr fun event member => ?_
    obtain ⟨_, -, rfl⟩ := List.mem_map.mp member
    rfl
  have others : (if g.verbose then
      [Event.definitionsResolved (g.rebuild definitions).gate.summary] else []).filter
        Event.isRejection = [] := by
    cases g.verbose <;> rfl
  have events : (g.rebuild definitions).events = rejections definitions g.split ++
      if g.verbose then [.definitionsResolved (g.rebuild definitions).gate.summary] else [] := rfl
  rw [events, List.filter_append, all, others, List.append_nil]

/-- Two buckets around one without a rate: the second throttle is at position 1. -/
example :
    let group (rate : Nat) : List GroupDefinition := [⟨rate, 0, [.contractCall]⟩]
    let s := compile ⟨[⟨"first", 1, 0, group 10⟩, ⟨"none", 1, 0, group 0⟩,
      ⟨"last", 1, 0, group 5⟩]⟩ 1 7
    s.throttles.map (·.name) = ["first", "last"] ∧
      s.tariff? .contractCall = some ⟨.contractCall, [⟨0, 1000⟩, ⟨1, 1000⟩], 7⟩ := by
  decide +kernel

end ThrottleSet

end Throttling
