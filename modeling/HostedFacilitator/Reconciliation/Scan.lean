import HostedFacilitator.Lib.RoundRobin

/-!
# The loops of `_scan_candidates`

The scan takes turns between the buckets until it has enough records. Its inner loop returns in the middle of a round, its
outer loop breaks after a round that adds nothing; what comes of both is the beginning of all rounds (`scanRounds_eq`),
and of those `RoundRobin` knows what every bucket has given.
-/

namespace HostedFacilitator.Reconciler

variable {α : Type}

/-- The inner loop of `_scan_candidates`: the record at `index` of each bucket. `.error` is its `return`; otherwise it
goes on with `records` and `made_progress`. -/
def scanRound (limit index : Nat) : List (List α) → List α → Bool → Except (List α) (List α × Bool)
  | [], records, madeProgress => .ok (records, madeProgress)
  | bucket :: buckets, records, madeProgress =>
    match bucket[index]? with
    | none => scanRound limit index buckets records madeProgress
    | some record =>
      if limit ≤ (records ++ [record]).length then .error (records ++ [record])
      else scanRound limit index buckets (records ++ [record]) true

/-- The outer loop, over the indexes that are left. -/
def scanRounds (limit : Nat) (buckets : List (List α)) : List Nat → List α → List α
  | [], records => records
  | index :: indexes, records =>
    match scanRound limit index buckets records false with
    | .error records => records
    | .ok (records, madeProgress) => if madeProgress then scanRounds limit buckets indexes records else records

variable {limit index : Nat} {buckets : List (List α)} {records : List α}

/-- The inner loop adds a round, and returns when the list is full. -/
theorem scanRound_eq (madeProgress : Bool) (h : records.length < limit) :
    scanRound limit index buckets records madeProgress =
      if records.length + (RoundRobin.round buckets index).length < limit then
        .ok (records ++ RoundRobin.round buckets index, madeProgress || !(RoundRobin.round buckets index).isEmpty)
      else .error ((records ++ RoundRobin.round buckets index).take limit) := by
  induction buckets generalizing records madeProgress with
  | nil => simp [scanRound, RoundRobin.round, h]
  | cons bucket buckets ih =>
    rw [scanRound, RoundRobin.round, List.filterMap_cons]
    cases bucket[index]? with
    | none => exact ih madeProgress h
    | some record =>
      have hround : buckets.filterMap (fun b => b[index]?) = RoundRobin.round buckets index := rfl
      have hlength : (records ++ [record]).length = records.length + 1 := by simp
      simp only [hround, hlength]
      by_cases hfull : limit ≤ records.length + 1
      · -- the list is full with this record
        have htake : (records ++ record :: RoundRobin.round buckets index).take limit = records ++ [record] := by
          have hlimit : limit = (records ++ [record]).length := by omega
          rw [List.append_cons, hlimit, List.take_left]
        rw [if_pos hfull, if_neg (by rw [List.length_cons]; omega), htake]
      · rw [if_neg hfull, ih true (by omega), hlength, ← List.append_cons]
        simp only [List.length_cons, Bool.true_or, List.isEmpty_cons, Bool.not_false, Bool.or_true]
        have hsame : records.length + 1 + (RoundRobin.round buckets index).length =
            records.length + ((RoundRobin.round buckets index).length + 1) := by omega
        rw [hsame]

/-- The outer loop adds the rounds from `index` on, as far as the list has room. -/
theorem scanRounds_from (n : Nat) (h : records.length < limit) :
    scanRounds limit buckets (List.range' index n) records =
      (records ++ (List.range' index n).flatMap (RoundRobin.round buckets)).take limit := by
  induction n generalizing index records with
  | zero =>
    rw [List.range'_zero, scanRounds, List.flatMap_nil, List.append_nil, List.take_of_length_le (by omega)]
  | succ n ih =>
    rw [List.range'_succ, scanRounds, scanRound_eq false h, List.flatMap_cons, ← List.append_assoc]
    by_cases hroom : records.length + (RoundRobin.round buckets index).length < limit
    · rw [if_pos hroom]
      cases hround : RoundRobin.round buckets index with
      | nil =>
        -- nothing was added, and nothing would be in the rounds that are left out
        have hlater : (List.range' (index + 1) n).flatMap (RoundRobin.round buckets) = [] := by
          rw [List.flatMap_eq_nil_iff]
          intro j hj
          have hle : index ≤ j := by
            have := (List.mem_range'_1.mp hj).1
            omega
          exact RoundRobin.round_eq_nil hround hle
        rw [hlater, List.append_nil, List.append_nil, List.take_of_length_le (by omega)]
        rfl
      | cons record rest =>
        rw [hround] at hroom
        have hlength : (records ++ record :: rest).length < limit := by
          rw [List.length_append]
          exact hroom
        simp only [List.isEmpty_cons, Bool.not_false, Bool.or_true, if_true]
        exact ih hlength
    · rw [if_neg hroom]
      have hfull : limit ≤ (records ++ RoundRobin.round buckets index).length := by
        rw [List.length_append]
        omega
      exact (List.take_append_of_le_length hfull).symm

/-- The scan is the beginning of all rounds. -/
theorem scanRounds_eq (h : 0 < limit) :
    scanRounds limit buckets (List.range limit) [] = (RoundRobin.rounds buckets limit).take limit := by
  rw [List.range_eq_range', scanRounds_from limit h, List.nil_append, RoundRobin.rounds, List.range_eq_range']

theorem mem_scanRounds (h : 0 < limit) {a : α} (ha : a ∈ scanRounds limit buckets (List.range limit) []) :
    ∃ bucket ∈ buckets, a ∈ bucket := by
  rw [scanRounds_eq h] at ha
  have hmem := (RoundRobin.rounds_perm buckets limit).mem_iff.mp (List.mem_of_mem_take ha)
  obtain ⟨bucket, hbucket, htake⟩ := List.mem_flatMap.mp hmem
  exact ⟨bucket, hbucket, List.mem_of_mem_take htake⟩

end HostedFacilitator.Reconciler
