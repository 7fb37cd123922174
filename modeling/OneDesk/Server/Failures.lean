import Mathlib.Data.List.Count
import OneDesk.Lib.Run

/-!
# Login throttling

`check_failure` reads the counters of an address, the password is validated,
and `update_failure` writes them back: two separate critical sections.  The
counters of IPv6 netblocks are read again inside the second one, the counter of
the address itself is not.
-/

namespace OneDesk
namespace Server

/-- Address of a peer, after `try_into_v4`. -/
inductive IpAddr
  | v4 (bits : BitVec 32)
  | v6 (bits : BitVec 128)
  deriving DecidableEq

/-- Key of the failure table: the text of an address, or the text of a netblock
followed by its prefix length. -/
inductive FailureKey
  | address (ip : IpAddr)
  | netblock (length : Nat) (block : BitVec 128)
  deriving DecidableEq

/-- Minute of the last failure, failures in that minute, failures in total. -/
structure Failure where
  minute : Int
  inMinute : Int
  total : Int
  deriving DecidableEq, Inhabited

/-- The value of a key that is not in the table. -/
def Failure.none : Failure := ⟨0, 0, 0⟩

/-- One of the two tables of `LOGIN_FAILURES`. -/
abbrev Failures := FailureKey → Option Failure

namespace Failures

/-- Entry of a key, zero when there is none. -/
def entry (failures : Failures) (key : FailureKey) : Failure :=
  (failures key).getD Failure.none

/-- Total recorded for a key. -/
def total (failures : Failures) (key : FailureKey) : Int :=
  (failures.entry key).total

end Failures

/-- The first bits of an address. -/
def maskU128 (addr : BitVec 128) (length : Nat) : BitVec 128 :=
  addr &&& (if length = 0 ∨ 128 < length then 0
    else BitVec.allOnes 128 <<< (128 - length))

/-- Netblock of the given length around an address. -/
def netblockOf (length : Nat) (addr : BitVec 128) : FailureKey :=
  .netblock length (maskU128 addr length)

/-- The /64, /56 and /48 netblocks of an IPv6 address. -/
def getIpv6Prefixes : IpAddr → Option (FailureKey × FailureKey × FailureKey)
  | .v4 _ => none
  | .v6 addr => some (netblockOf 64 addr, netblockOf 56 addr, netblockOf 48 addr)

/-- The netblocks of an address as a list. -/
def netblocks (ip : IpAddr) : List FailureKey :=
  match getIpv6Prefixes ip with
  | none => []
  | some (p64, p56, p48) => [p64, p56, p48]

/-- One more failure in the given minute. -/
def bump (failure : Failure) (time : Int) : Failure :=
  if failure.minute = time then
    ⟨failure.minute, failure.inMinute + 1, failure.total + 1⟩
  else ⟨time, 1, failure.total + 1⟩

@[simp] theorem bump_total (failure : Failure) (time : Int) :
    (bump failure time).total = failure.total + 1 := by
  unfold bump
  split <;> rfl

/-- Alarms posted to the audit server. -/
inductive AlarmAuditType
  | ipWhitelist
  | exceedThirtyAttempts
  | sixAttemptsWithinOneMinute
  | exceedIPv6PrefixAttempts
  deriving DecidableEq

/-- Why an attempt is refused: the login error and the alarm. -/
structure Refusal where
  error : String
  alarm : AlarmAuditType
  deriving DecidableEq

/-- What `check_failure` returns: the entry it read, the minute, and the
refusal if there is one. -/
structure Checked where
  failure : Failure
  time : Int
  refusal : Option Refusal
  deriving DecidableEq

namespace Failures

/-- Refusal by the total of one netblock. -/
def checkFailureIpv6Prefix (failures : Failures) (time : Int)
    (key : FailureKey) (length : Nat) (thresh : Int) : Option Checked :=
  if (failures.total key) > thresh then
    some ⟨failures.entry key, time,
      some ⟨"Too many wrong attempts for IPv6 prefix /" ++ toString length,
        .exceedIPv6PrefixAttempts⟩⟩
  else none

/-- The check of the address itself. -/
def checkAddress (failures : Failures) (ip : IpAddr) (time : Int) : Checked :=
  let failure := failures.entry (.address ip)
  ⟨failure, time,
    if failure.total > 30 then
      some ⟨"Too many wrong attempts", .exceedThirtyAttempts⟩
    else if time = failure.minute ∧ failure.inMinute > 6 then
      some ⟨"Please try 1 minute later", .sixAttemptsWithinOneMinute⟩
    else none⟩

/-- The first critical section of an attempt. -/
def checkFailure (failures : Failures) (ip : IpAddr) (time : Int) : Checked :=
  match getIpv6Prefixes ip with
  | none => failures.checkAddress ip time
  | some (p64, p56, p48) =>
      ((failures.checkFailureIpv6Prefix time p64 64 60).or
        ((failures.checkFailureIpv6Prefix time p56 56 80).or
          (failures.checkFailureIpv6Prefix time p48 48 100))).getD
        (failures.checkAddress ip time)

/-- Remove a key. -/
def remove (failures : Failures) (key : FailureKey) : Failures :=
  Function.update failures key none

/-- Insert or overwrite a key. -/
def insert (failures : Failures) (key : FailureKey) (failure : Failure) :
    Failures :=
  Function.update failures key (some failure)

/-- The second critical section of an attempt. -/
def updateFailure (failures : Failures) (ip : IpAddr) (failure : Failure)
    (time : Int) (removing : Bool) : Failures :=
  if removing then
    if failure.minute ≠ 0 then
      ((netblocks ip).foldl remove failures).remove (.address ip)
    else failures
  else
    -- netblocks are bumped from what the table holds now, the address from
    -- what the check read
    ((netblocks ip).foldl
      (fun table key => table.insert key (bump (table.entry key) time))
      failures).insert (.address ip) (bump failure time)

end Failures

/-- The keys an attempt from an address is counted under. -/
def failureKeys (ip : IpAddr) : List FailureKey :=
  netblocks ip ++ [.address ip]

theorem address_notMem_netblocks (ip other : IpAddr) :
    .address other ∉ netblocks ip := by
  cases ip with
  | v4 bits => simp [netblocks, getIpv6Prefixes]
  | v6 bits => simp [netblocks, getIpv6Prefixes, netblockOf]

theorem netblocks_nodup (ip : IpAddr) : (netblocks ip).Nodup := by
  cases ip with
  | v4 bits => simp [netblocks, getIpv6Prefixes]
  | v6 bits => simp [netblocks, getIpv6Prefixes, netblockOf]

@[simp] theorem address_mem_failureKeys {ip other : IpAddr} :
    .address other ∈ failureKeys ip ↔ other = ip := by
  simp [failureKeys, address_notMem_netblocks]

namespace Failures

@[simp] theorem entry_insert
    (failures : Failures)
    (key current : FailureKey)
    (failure : Failure) :
    (failures.insert key failure).entry current =
      if current = key then failure else failures.entry current := by
  unfold entry insert
  rw [Function.update_apply]
  split <;> rfl

@[simp] theorem total_insert
    (failures : Failures)
    (key current : FailureKey)
    (failure : Failure) :
    (failures.insert key failure).total current =
      if current = key then failure.total else failures.total current := by
  unfold total
  rw [entry_insert]
  split <;> rfl

theorem total_remove_of_ne
    (failures : Failures)
    {key current : FailureKey}
    (different : current ≠ key) :
    (failures.remove key).total current = failures.total current := by
  unfold total entry remove
  rw [Function.update_of_ne different]

/-- Removing a list of keys leaves the total of any other key. -/
theorem total_foldl_remove
    (failures : Failures)
    {keys : List FailureKey}
    {current : FailureKey}
    (absent : current ∉ keys) :
    (keys.foldl remove failures).total current = failures.total current := by
  induction keys generalizing failures with
  | nil => rfl
  | cons key keys inductionHypothesis =>
      rw [List.mem_cons, not_or] at absent
      rw [List.foldl_cons, inductionHypothesis _ absent.2,
        total_remove_of_ne failures absent.1]

/-- Bumping a list of distinct keys adds one to the total of each of them. -/
theorem total_foldl_bump
    (failures : Failures)
    (time : Int)
    {keys : List FailureKey}
    (nodup : keys.Nodup)
    (current : FailureKey) :
    (keys.foldl (fun table key => table.insert key (bump (table.entry key) time))
        failures).total current =
      failures.total current + if current ∈ keys then 1 else 0 := by
  induction keys generalizing failures with
  | nil => simp
  | cons key keys inductionHypothesis =>
      rw [List.nodup_cons] at nodup
      rw [List.foldl_cons, inductionHypothesis _ nodup.2, total_insert]
      by_cases same : current = key
      · subst same
        simp [nodup.1, total]
      · simp [same]

/-- A wrong password overwrites the total of its address and adds one to the
totals of its netblocks. -/
theorem total_updateFailure_wrong
    (failures : Failures)
    (ip : IpAddr)
    (failure : Failure)
    (time : Int)
    (current : FailureKey) :
    (failures.updateFailure ip failure time false).total current =
      if current = .address ip then failure.total + 1
      else failures.total current + if current ∈ netblocks ip then 1 else 0 := by
  simp only [updateFailure, Bool.false_eq_true, if_false, total_insert,
    bump_total, total_foldl_bump failures time (netblocks_nodup ip)]

/-- A right password touches no key but those of its address. -/
theorem total_updateFailure_right
    (failures : Failures)
    {ip : IpAddr}
    (failure : Failure)
    (time : Int)
    {current : FailureKey}
    (foreign : current ∉ failureKeys ip) :
    (failures.updateFailure ip failure time true).total current =
      failures.total current := by
  simp only [failureKeys, List.mem_append, List.mem_singleton, not_or] at foreign
  simp only [updateFailure, if_true]
  split
  · rw [total_remove_of_ne _ foreign.2, total_foldl_remove failures foreign.1]
  · rfl

/-- What a check that lets an attempt through has read. -/
theorem checkFailure_allowed
    {failures : Failures}
    {ip : IpAddr}
    {time : Int}
    (allowed : (failures.checkFailure ip time).refusal = none) :
    (failures.checkFailure ip time).failure = failures.entry (.address ip) ∧
      (failures.checkFailure ip time).time = time ∧
      failures.total (.address ip) ≤ 30 := by
  have allowedAddress : (failures.checkAddress ip time).refusal = none →
      failures.total (.address ip) ≤ 30 := by
    intro notRefused
    by_contra many
    have exceeded : (failures.entry (.address ip)).total > 30 := Int.not_le.mp many
    simp [checkAddress, exceeded] at notRefused
  have notRefused : ∀ key length thresh checked,
      failures.checkFailureIpv6Prefix time key length thresh = some checked →
        checked.refusal ≠ none := by
    intro key length thresh checked refused
    unfold checkFailureIpv6Prefix at refused
    split at refused
    · rw [← Option.some.inj refused]
      exact Option.some_ne_none _
    · cases refused
  unfold checkFailure at allowed ⊢
  split at allowed
  · exact ⟨rfl, rfl, allowedAddress allowed⟩
  next p64 p56 p48 prefixes =>
    cases first : failures.checkFailureIpv6Prefix time p64 64 60 with
    | some checked =>
        simp only [first, Option.some_or, Option.getD_some] at allowed
        exact absurd allowed (notRefused _ _ _ _ first)
    | none =>
        cases second : failures.checkFailureIpv6Prefix time p56 56 80 with
        | some checked =>
            simp only [first, second, Option.none_or, Option.some_or,
              Option.getD_some] at allowed
            exact absurd allowed (notRefused _ _ _ _ second)
        | none =>
            cases third : failures.checkFailureIpv6Prefix time p48 48 100 with
            | some checked =>
                simp only [first, second, third, Option.none_or,
                  Option.getD_some] at allowed
                exact absurd allowed (notRefused _ _ _ _ third)
            | none =>
                simp only [first, second, third, Option.none_or,
                  Option.getD_none] at allowed ⊢
                exact ⟨rfl, rfl, allowedAddress allowed⟩

end Failures

end Server
end OneDesk
