import Dynastore.Foundation.Execution
import Dynastore.Foundation.Separator
import Dynastore.Iam.PhantomToken

/-! A bump of a binding version is what makes a revocation visible: it is documented that the
bumping process sees its own change at once. That holds in every run in which the bump does not
overtake a version read that is already on its way back. -/

namespace Dynastore.Iam

open Execution (run Guarded)

/-- The answer is not older than the bumps that were completed when its call started. -/
def PhantomAnswer.Fresh : PhantomAnswer → Prop
  | .version schema value since => since schema ≤ value
  | .bindings schema result since =>
    since "iam" ≤ result.versions "iam" ∧ (schema ≠ "" → since schema ≤ result.versions schema)

instance : DecidablePred PhantomAnswer.Fresh
  | .version _ _ _ => inferInstanceAs (Decidable (_ ≤ _))
  | .bindings _ _ _ => inferInstanceAs (Decidable (_ ∧ (_ → _)))

/-- The store is there for bumps and version reads and answers them, and no read that was served
before the increment of a bump is still on its way when the bump evicts the memo. -/
def Undisturbed (state : PhantomState) : PhantomOp → Prop
  | .getVersion _ _ => state.backend = true
  | .bump _ _ => state.backend = true
  | .resume id => ∀ since schema fetched target,
      state.calls id = some ⟨since, .reading schema fetched (.platform target)⟩ →
        state.backend = true
  | .serve _ reply => reply = .counter
  | .increment _ succeeds => succeeds = true
  | .evict id => ∀ since schema target,
      state.calls id = some ⟨since, .bumping schema (some target)⟩ →
      ∀ other since value use,
        state.calls other = some ⟨since, .reading schema (some value) use⟩ → target ≤ value
  | _ => True

/-! ## Keys -/

theorem resolutionKey_inj (eq : resolutionKey provider subjectId schema platform catalog =
      resolutionKey provider subjectId schema' platform' catalog') :
    schema = schema' ∧ platform = platform' ∧ catalog = catalog' := by
  have colon : ":".toList = [':'] := rfl
  have numeral : ∀ number : Nat, ':' ∉ (toString number).toList := not_mem_repr rfl
  have ⟨eq, sameCatalog⟩ := eq_of_append_text colon (numeral _) (numeral _) eq
  have ⟨eq, samePlatform⟩ := eq_of_append_text colon (numeral _) (numeral _) eq
  have sameSchema : schema = schema' := by
    rw [String.append_right_inj] at eq
    exact eq
  exact ⟨sameSchema, toString_inj samePlatform, toString_inj sameCatalog⟩

/-! ## The invariant -/

/-- The versions of a resolution key lie between two sets of versions. The empty schema has no
version of its own. -/
structure Between (lower upper : String → Nat) (schema : String) (platform catalog : Nat) :
    Prop where
  platform_ge : lower "iam" ≤ platform
  platform_le : platform ≤ upper "iam"
  catalog_ge : schema ≠ "" → lower schema ≤ catalog
  catalog_le : schema ≠ "" → catalog ≤ upper schema

def Use.Sound (since versions : String → Nat) (schema : String) : Use → Prop
  | .answer => True
  | .platform _ => schema = "iam"
  | .catalog version => since "iam" ≤ version ∧ version ≤ versions "iam"

def PhantomStage.Sound (since floors versions : String → Nat) : PhantomStage → Prop
  | .reading schema fetched use =>
    (∀ value, fetched = some value → floors schema ≤ value ∧ value ≤ versions schema) ∧
      use.Sound since versions schema
  | .bumping schema target => ∀ version, target = some version → version ≤ versions schema
  | .lookingUp schema platform catalog => Between since versions schema platform catalog
  | .resolving schema platform catalog => Between since versions schema platform catalog
  | .direct _ => True
  | .storing schema platform catalog result =>
    Between since result.versions schema platform catalog

/-- A call knows what was completed at its start, and what it holds is between that and the
present. -/
def PhantomCall.Sound (floors versions : String → Nat) (call : PhantomCall) : Prop :=
  (∀ schema, call.since schema ≤ floors schema) ∧ call.stage.Sound call.since floors versions

structure PhantomInvariant (provider subjectId : String) (state : PhantomState) : Prop where
  floors : ∀ schema, state.floors schema ≤ state.versions.count schema
  memo : ∀ schema value at_, state.memo schema = some (value, at_) →
    state.floors schema ≤ value ∧ value ≤ state.versions.count schema
  calls : state.calls.All (·.Sound state.floors state.versions.count)
  entries : ∀ schema platform catalog result,
    (resolutionKey provider subjectId schema platform catalog, result) ∈ state.entries →
      platform ≤ result.versions "iam" ∧ (schema ≠ "" → catalog ≤ result.versions schema)
  answers : ∀ answer ∈ state.answers, answer.Fresh

section Invariant

variable {provider subjectId schema : String} {state : PhantomState} {id value : Nat}

variable {stage : PhantomStage} {use : Use}

theorem Between.fresh (between : Between since result.versions schema platform catalog) :
    (PhantomAnswer.bindings schema result since).Fresh :=
  ⟨Nat.le_trans between.platform_ge between.platform_le,
    fun named => Nat.le_trans (between.catalog_ge named) (between.catalog_le named)⟩

theorem Between.mono (between : Between since upper schema platform catalog)
    (grows : ∀ schema, upper schema ≤ upper' schema) :
    Between since upper' schema platform catalog where
  platform_ge := between.platform_ge
  platform_le := Nat.le_trans between.platform_le (grows _)
  catalog_ge := between.catalog_ge
  catalog_le named := Nat.le_trans (between.catalog_le named) (grows _)

section

variable (inv : PhantomInvariant provider subjectId state)

include inv

namespace PhantomInvariant

theorem known (backend : state.backend = true) (kept : state.known schema = some value) :
    state.floors schema ≤ value ∧ value ≤ state.versions.count schema := by
  rw [PhantomState.known, if_pos backend] at kept
  unfold PhantomState.memoized at kept
  split at kept
  next at_ found =>
    split at kept
    · cases kept
      exact inv.memo schema value at_ found
    · cases kept
  · cases kept

theorem wait (id : Nat) (started : ∀ schema, since schema ≤ state.floors schema)
    (sound : stage.Sound since state.floors state.versions.count) :
    PhantomInvariant provider subjectId (state.wait id since stage) :=
  { inv with calls := inv.calls.put id ⟨started, sound⟩ }

theorem answer (id : Nat) {answer : PhantomAnswer} (fresh : answer.Fresh) :
    PhantomInvariant provider subjectId (state.answer id answer) :=
  { inv with
    calls := inv.calls.remove id
    answers := List.forall_mem_cons.mpr ⟨fresh, inv.answers⟩ }

theorem readCatalog (id : Nat) (backend : state.backend = true)
    (started : ∀ schema, since schema ≤ state.floors schema) (lower : since "iam" ≤ platform)
    (upper : platform ≤ state.versions.count "iam") :
    PhantomInvariant provider subjectId (state.readCatalog id since schema platform) := by
  unfold PhantomState.readCatalog
  split
  next shared =>
    refine inv.wait id started ⟨lower, upper, ?_, ?_⟩
    · intro named
      exact (shared.resolve_left named) ▸ lower
    · intro named
      exact (shared.resolve_left named) ▸ upper
  · split
    next kept =>
      have ⟨above, below⟩ := inv.known backend kept
      exact inv.wait id started
        ⟨lower, upper, fun _ => Nat.le_trans (started schema) above, fun _ => below⟩
    · exact inv.wait id started ⟨nofun, lower, upper⟩

theorem useVersion (id : Nat) (started : ∀ schema, since schema ≤ state.floors schema)
    (above : state.floors schema ≤ value) (below : value ≤ state.versions.count schema)
    (sound : use.Sound since state.versions.count schema)
    (backend : ∀ target, use = .platform target → state.backend = true) :
    PhantomInvariant provider subjectId (state.useVersion id since schema value use) := by
  have lower : since schema ≤ value := Nat.le_trans (started schema) above
  cases use with
  | answer => exact inv.answer id lower
  | platform target =>
    cases sound
    exact inv.readCatalog id (backend target rfl) started lower below
  | catalog =>
    exact inv.wait id started ⟨sound.1, sound.2, fun _ => lower, fun _ => below⟩

theorem getBindingVersion (id : Nat) (backend : state.backend = true)
    (started : ∀ schema, since schema ≤ state.floors schema)
    (sound : use.Sound since state.versions.count schema) :
    PhantomInvariant provider subjectId (state.getBindingVersion id since schema use) := by
  unfold PhantomState.getBindingVersion
  split
  next kept =>
    have ⟨above, below⟩ := inv.known backend kept
    exact inv.useVersion id started above below sound fun _ _ => backend
  · exact inv.wait id started ⟨nofun, sound⟩

theorem memoize
    (above : state.floors schema ≤ value) (below : value ≤ state.versions.count schema) :
    PhantomInvariant provider subjectId (state.memoize schema value) :=
  { inv with
    memo := by
      intro other stored at_ found
      unfold PhantomState.memoize at found
      simp only at found
      split at found
      next same =>
        cases found
        cases same
        exact ⟨above, below⟩
      · exact inv.memo other stored at_ found }

end PhantomInvariant

/-! ## What each step preserves -/

omit inv in
theorem Use.Sound.mono (sound : use.Sound since versions schema)
    (grows : ∀ schema, versions schema ≤ versions' schema) : use.Sound since versions' schema := by
  cases use with
  | answer => trivial
  | platform => exact sound
  | catalog => exact ⟨sound.1, Nat.le_trans sound.2 (grows _)⟩

omit inv in
theorem PhantomStage.Sound.mono (sound : stage.Sound since floors versions)
    (grows : ∀ schema, versions schema ≤ versions' schema) :
    stage.Sound since floors versions' := by
  cases stage with
  | reading schema =>
    refine ⟨fun value served => ?_, sound.2.mono grows⟩
    have ⟨above, below⟩ := sound.1 value served
    exact ⟨above, Nat.le_trans below (grows schema)⟩
  | bumping schema =>
    intro version led
    exact Nat.le_trans (sound version led) (grows schema)
  | storing | direct => exact sound
  | _ => exact Between.mono sound grows

namespace PhantomInvariant

theorem serve (id : Nat) : PhantomInvariant provider subjectId (state.serve id .counter) := by
  unfold PhantomState.serve
  split
  next schema use found =>
    have ⟨started, sound⟩ := inv.calls id _ found
    refine inv.wait id started ⟨fun value served => ?_, sound.2⟩
    cases served
    exact ⟨inv.floors schema, Nat.le_refl _⟩
  · exact inv

theorem resume (id : Nat) (undisturbed : Undisturbed state (.resume id)) :
    PhantomInvariant provider subjectId (state.resume id) := by
  unfold PhantomState.resume
  split
  next since schema value use found =>
    have ⟨started, sound⟩ := inv.calls id _ found
    have ⟨above, below⟩ := sound.1 value rfl
    refine (inv.memoize above below).useVersion id started above below sound.2 ?_
    rintro target rfl
    exact undisturbed since schema _ target found
  · exact inv

theorem increment (id : Nat) : PhantomInvariant provider subjectId (state.increment id true) := by
  unfold PhantomState.increment
  split
  next schema found =>
    have ⟨started, _⟩ := inv.calls id _ found
    have grows := fun other => state.versions.count_le_count_add schema other 1
    exact
      { floors := fun other => Nat.le_trans (inv.floors other) (grows other)
        memo := by
          intro other value at_ kept
          have ⟨above, below⟩ := inv.memo other value at_ kept
          exact ⟨above, Nat.le_trans below (grows other)⟩
        calls := by
          have waiting := inv.calls.imp fun _ _ _ sound =>
            (⟨sound.1, sound.2.mono grows⟩ : PhantomCall.Sound _ _ _)
          refine waiting.put id ⟨started, fun version led => ?_⟩
          cases led
          exact Nat.le_of_eq (Counter.count_add_self _ _).symm
        entries := inv.entries
        answers := inv.answers }
  · exact inv

theorem evictMemo
    (schema : String) : PhantomInvariant provider subjectId (state.evictMemo schema) :=
  { inv with
    memo := by
      intro other value at_ kept
      unfold PhantomState.evictMemo at kept
      simp only at kept
      split at kept
      · cases kept
      · exact inv.memo other value at_ kept }

theorem cancel (id : Nat) : PhantomInvariant provider subjectId (state.cancel id) := by
  unfold PhantomState.cancel
  split
  next schema _ _ =>
    exact { inv.evictMemo schema with calls := inv.calls.remove id }
  · exact { inv with calls := inv.calls.remove id }

end PhantomInvariant

omit inv in
theorem PhantomCall.Sound.raise {call : PhantomCall} (sound : call.Sound floors versions)
    (grows : ∀ schema, floors schema ≤ floors' schema)
    (read : ∀ since schema value use, call = ⟨since, .reading schema (some value) use⟩ →
      floors schema ≤ value → floors' schema ≤ value) : call.Sound floors' versions := by
  rcases call with ⟨since, stage⟩
  refine ⟨fun schema => Nat.le_trans (sound.1 schema) (grows schema), ?_⟩
  cases stage with
  | reading schema fetched use =>
    refine ⟨fun value served => ?_, sound.2.2⟩
    cases served
    have ⟨above, below⟩ := sound.2.1 value rfl
    exact ⟨read since schema value use rfl above, below⟩
  | _ => exact sound.2

namespace PhantomInvariant

theorem bumped {target : Nat} (reached : target ≤ state.versions.count schema)
    (evicted : state.memo schema = none)
    (read : ∀ id since value use,
      state.calls id = some ⟨since, .reading schema (some value) use⟩ → target ≤ value) :
    PhantomInvariant provider subjectId (state.bumped schema target) where
  floors := by
    intro other
    have below := inv.floors other
    simp only [PhantomState.bumped]
    split
    next same =>
      cases same
      exact Nat.max_le.mpr ⟨below, reached⟩
    · exact below
  memo := by
    intro other value at_ kept
    have ne : other ≠ schema := by
      rintro rfl
      cases evicted.symm.trans kept
    simp only [PhantomState.bumped, if_neg ne]
    exact inv.memo other value at_ kept
  calls := by
    refine inv.calls.imp fun reader _ called sound => sound.raise (fun _ => ?_) ?_
    · simp only [PhantomState.bumped]
      split
      next same => exact same ▸ Nat.le_max_left _ _
      · exact Nat.le_refl _
    · rintro since _ value use rfl above
      simp only [PhantomState.bumped]
      split
      next same =>
        cases same
        exact Nat.max_le.mpr ⟨above, read reader since value use called⟩
      · exact above
  entries := inv.entries
  answers := inv.answers

theorem evict (id : Nat) (undisturbed : Undisturbed state (.evict id)) :
    PhantomInvariant provider subjectId (state.evict id) := by
  unfold PhantomState.evict
  split
  next since schema target found =>
    have reached : target ≤ state.versions.count schema :=
      (inv.calls id _ found).2 target rfl
    have raised := (inv.evictMemo schema).bumped reached (if_pos rfl)
      (undisturbed since schema target found)
    exact { raised with calls := raised.calls.remove id }
  · exact inv

theorem runResolver (id : Nat) (bindings : Value) :
    PhantomInvariant provider subjectId (state.runResolver id bindings) := by
  unfold PhantomState.runResolver
  split
  next found =>
    have ⟨started, between⟩ := inv.calls id _ found
    exact inv.wait id started between
  next found =>
    -- The resolver ran after the start of the call, and the versions do not fall.
    have ⟨started, _⟩ := inv.calls id _ found
    have reached := fun schema => Nat.le_trans (started schema) (inv.floors schema)
    exact inv.answer id ⟨reached "iam", fun _ => reached _⟩
  · exact inv

theorem lookup (id : Nat) (hit : Option Nat) :
    PhantomInvariant provider subjectId (state.lookup provider subjectId id hit) := by
  unfold PhantomState.lookup
  split
  next schema platform catalog found =>
    have ⟨started, between⟩ := inv.calls id _ found
    split
    next result served =>
      have ⟨index, _, indexed⟩ := Option.bind_eq_some_iff.mp served
      have ⟨entry, mem, payload⟩ := List.mem_map.mp (List.mem_of_getElem? indexed)
      have ⟨mem, sameKey⟩ := List.mem_filter.mp mem
      have stored : (resolutionKey provider subjectId schema platform catalog, result) ∈
          state.entries := by
        rw [← of_decide_eq_true sameKey, ← payload]
        exact mem
      -- the entry was resolved at or after the versions in its key
      have ⟨platformKept, catalogKept⟩ := inv.entries _ _ _ _ stored
      exact inv.answer id (Between.fresh
        ⟨between.platform_ge, platformKept, between.catalog_ge, catalogKept⟩)
    · exact inv.wait id started between
  · exact inv

theorem finish (id : Nat) (stored : Bool) :
    PhantomInvariant provider subjectId (state.finish provider subjectId id stored) := by
  unfold PhantomState.finish
  split
  next found =>
    have between := (inv.calls id _ found).2
    have answered := inv.answer id (Between.fresh between)
    refine { answered with entries := ?_ }
    intro _ _ _ _ mem
    cases stored with
    | false => exact inv.entries _ _ _ _ mem
    | true =>
      rcases List.mem_cons.mp mem with eq | mem
      · obtain ⟨sameKey, rfl⟩ := Prod.mk.inj eq
        obtain ⟨rfl, rfl, rfl⟩ := resolutionKey_inj sameKey
        exact ⟨between.platform_le, between.catalog_le⟩
      · exact inv.entries _ _ _ _ mem
  · exact inv

theorem step (op : PhantomOp) (undisturbed : Undisturbed state op) :
    PhantomInvariant provider subjectId (state.step provider subjectId op) := by
  have started : ∀ schema, state.floors schema ≤ state.floors schema := fun _ => Nat.le_refl _
  cases op with
  | getVersion id =>
    rw [PhantomState.step]
    split
    · exact inv
    · exact inv.getBindingVersion id undisturbed started trivial
  | bump id =>
    have backend : state.backend = true := undisturbed
    rw [PhantomState.step, PhantomState.bump, if_pos backend]
    split
    · exact inv
    · exact inv.wait id started nofun
  | resolve id =>
    rw [PhantomState.step]
    split
    · exact inv
    · split
      next backend => exact inv.getBindingVersion id backend started rfl
      · exact inv.wait id started trivial
  | serve id => exact undisturbed ▸ inv.serve id
  | resume id => exact inv.resume id undisturbed
  | increment id => exact undisturbed ▸ inv.increment id
  | evict id => exact inv.evict id undisturbed
  | lookup id hit => exact inv.lookup id hit
  | runResolver id bindings => exact inv.runResolver id bindings
  | finish id stored => exact inv.finish id stored
  | cancel id => exact inv.cancel id
  | tick | register => exact { inv with }
  | expire =>
    refine { inv with entries := fun schema platform catalog result mem => ?_ }
    exact inv.entries _ _ _ _ (List.mem_filter.mp mem).1

end PhantomInvariant

end

end Invariant

/-! ## Runs -/

/-- In every undisturbed run no answer is older than a bump that was completed when its call
started, whatever the interleaving of the calls. -/
theorem answers_fresh (provider subjectId : String) (backend : Bool) (versions : Counter String)
    (ops : List PhantomOp)
    (undisturbed : Guarded (PhantomState.step provider subjectId) Undisturbed
      (.start backend versions) ops) :
    ∀ answer ∈ (run (PhantomState.step provider subjectId) (.start backend versions) ops).answers,
      answer.Fresh := by
  have initial : PhantomInvariant provider subjectId (.start backend versions) :=
    ⟨fun _ => Nat.zero_le _, nofun, Pool.all_empty, nofun, nofun⟩
  exact (Execution.invariant_run (fun _ op inv guard => inv.step op guard)
    initial undisturbed).answers

def bumpBetween : List PhantomOp :=
  [.resolve 0 "iam", .serve 0 .counter, .resume 0, .lookup 0 none,
    .runResolver 0 (.text "editor"), .finish 0 true,
    .bump 1 "iam", .increment 1 true, .evict 1,
    .resolve 2 "iam", .serve 2 .counter, .resume 2, .lookup 2 (some 0),
    .runResolver 2 (.text "viewer"), .finish 2 true]

theorem answers_fresh_bumpBetween :
    Guarded (PhantomState.step "oidc" "ada") Undisturbed (.start true fun _ => none) bumpBetween ∧
      ∀ answer ∈ (run (PhantomState.step "oidc" "ada") (.start true fun _ => none)
        bumpBetween).answers, answer.Fresh := by
  have undisturbed : Guarded (PhantomState.step "oidc" "ada") Undisturbed
      (.start true fun _ => none) bumpBetween := by
    refine ⟨trivial, rfl, fun _ _ _ _ _ => rfl, trivial, trivial, trivial, rfl, rfl, ?_, trivial,
      rfl, fun _ _ _ _ _ => rfl, trivial, trivial, trivial, trivial⟩
    intro since _ _ _ other _ _ _ reading
    -- the bump is the only call in flight
    rcases other with _ | _ | _ <;> cases reading
  exact ⟨undisturbed, answers_fresh "oidc" "ada" true _ _ undisturbed⟩

/-- A version read is on its way back while a bump completes. It fills the memo with the
version before the bump, and the next calls answer from that. -/
def bumpOvertakesRead : List PhantomOp :=
  [.resolve 0 "iam", .serve 0 .counter, .resume 0, .lookup 0 none,
    .runResolver 0 (.text "editor"), .finish 0 true, .tick 2000,
    .getVersion 1 "iam", .serve 1 .counter,
    .bump 2 "iam", .increment 2 true, .evict 2,
    .resume 1, .getVersion 3 "iam", .resolve 4 "iam", .lookup 4 (some 0)]

/-- Without a shared store the version after a bump is the one before it. -/
theorem revoked_bindings_answered : (∃ served asked versions since answers,
      (run (PhantomState.step "oidc" "ada") (.start true fun _ => none) bumpOvertakesRead).answers =
          .bindings "iam" ⟨.text "editor", versions⟩ since :: .version "iam" served asked ::
            answers ∧
      ¬ PhantomAnswer.Fresh (.bindings "iam" ⟨.text "editor", versions⟩ since) ∧
      ¬ PhantomAnswer.Fresh (.version "iam" served asked)) ∧
    ∃ since, (run (PhantomState.step "oidc" "ada") (.start false fun _ => none)
        [.bump 0 "iam", .getVersion 1 "iam"]).answers = [.version "iam" 0 since] ∧
      ¬ PhantomAnswer.Fresh (.version "iam" 0 since) :=
  ⟨⟨0, _, _, _, _, rfl, by decide, by decide⟩, _, rfl, by decide⟩

end Dynastore.Iam
