import Mathlib
import Dynastore.Foundation.Separator
import Dynastore.Iam.UsageCounter

/-! A counter is meant for one policy, one principal, one window width and one window. Neither store
has the width in its key, and the key of Valkey joins the two ids by a colon. The library is
imported whole for `Int.repr_injective`, which no part of it brings. -/

namespace Dynastore.Iam

def UsageCall.combination (call : UsageCall) (now : Int) : String × String × Option Int × Int :=
  (call.policyId, call.principalKey, call.windowSeconds, bucketFor call.windowSeconds now)

/-- The two counters share neither a key of Valkey nor a row of PostgreSQL. -/
def Isolated (left right : BucketKey) : Prop :=
  left.valkeyKey ≠ right.valkeyKey ∧ left ≠ right

theorem colon_not_mem_repr (number : Int) : ':' ∉ number.repr.toList := by
  have digits (natural : Nat) : ':' ∉ natural.repr.toList := not_mem_repr rfl natural
  rw [Int.repr_eq_if]
  split
  · exact digits _
  · simpa using digits (-number).toNat

theorem valkeyKey_eq (key : BucketKey) : key.valkeyKey =
      "uc:" ++ (key.policyId ++ ":" ++ key.principalKey) ++ ":" ++ toString key.windowStart := by
  simp only [BucketKey.valkeyKey, String.append_assoc]

theorem valkeyKey_eq_iff (left right : BucketKey) :
    left.valkeyKey = right.valkeyKey ↔
      left.policyId ++ ":" ++ left.principalKey = right.policyId ++ ":" ++ right.principalKey ∧
        left.windowStart = right.windowStart := by
  rw [valkeyKey_eq, valkeyKey_eq]
  constructor
  · intro eq
    -- the numeral is what stands behind the last colon
    obtain ⟨ids, starts⟩ := eq_of_append_text rfl (colon_not_mem_repr left.windowStart)
      (colon_not_mem_repr right.windowStart) eq
    exact ⟨(String.append_right_inj _).mp ids, Int.repr_injective starts⟩
  · rintro ⟨ids, starts⟩
    rw [ids, starts]

/-- Two counters are apart exactly if their windows start at different times or the ids of
policy and principal, joined by a colon, differ. -/
theorem isolated_iff (left right : UsageCall) (leftNow rightNow : Int) :
    Isolated (left.bucketKey leftNow) (right.bucketKey rightNow) ↔
      bucketFor left.windowSeconds leftNow ≠ bucketFor right.windowSeconds rightNow ∨
        left.policyId ++ ":" ++ left.principalKey ≠
          right.policyId ++ ":" ++ right.principalKey := by
  have shared := valkeyKey_eq_iff (left.bucketKey leftNow) (right.bucketKey rightNow)
  constructor
  · rintro ⟨apart, -⟩
    rw [Ne, shared, not_and_or] at apart
    exact apart.symm
  · intro apart
    have keys : (left.bucketKey leftNow).valkeyKey ≠ (right.bucketKey rightNow).valkeyKey := by
      rw [Ne, shared, not_and_or]
      exact apart.symm
    exact ⟨keys, fun same => keys (congrArg BucketKey.valkeyKey same)⟩

def callOf (policyId principalKey : String) (window : Int) : UsageCall :=
  ⟨policyId, principalKey, some window, 1, 10⟩

/-- One policy with two windows uses one counter where both begin, and ids with colons meet in
one key of Valkey. -/
theorem counters_shared :
    ((callOf "p" "u" 60).combination 120 ≠ (callOf "p" "u" 120).combination 120 ∧
      ¬ Isolated ((callOf "p" "u" 60).bucketKey 120) ((callOf "p" "u" 120).bucketKey 120)) ∧
    (callOf "a:b" "c" 60).combination 120 ≠ (callOf "a" "b:c" 60).combination 120 ∧
      ¬ Isolated ((callOf "a:b" "c" 60).bucketKey 120) ((callOf "a" "b:c" 60).bucketKey 120) := by
  unfold Isolated
  decide

end Dynastore.Iam
