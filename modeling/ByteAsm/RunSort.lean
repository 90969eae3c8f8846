/-!
# Sorting with a comparison that may fail

A sort of keys whose comparison may fail reports the first comparison that fails, so the order in
which it compares is part of what it does. This one takes the run at the front of the list, one
that ascends or one that strictly descends and is reversed, and inserts every later element into
it by halving, each comparison asking whether a later element is less than an earlier one. A sort
that succeeds keeps the number of keys (`sort_length`).
-/

namespace ByteAsm

namespace RunSort

variable {α ε : Type}

/-- The elements at the front of a list that go on an ascending run ending in `last`, each not
less than the one before it, and the rest of the list. -/
def ascending (lt : α → α → Except ε Bool) (last : α) : List α → Except ε (List α × List α)
  | [] => .ok ([], [])
  | x :: rest =>
    match lt x last with
    | .error e => .error e
    | .ok true => .ok ([], x :: rest)
    | .ok false => (ascending lt x rest).map fun (run, after) => (x :: run, after)

/-- The elements at the front of a list that go on a strictly descending run ending in `last`,
and the rest of the list. -/
def descending (lt : α → α → Except ε Bool) (last : α) : List α → Except ε (List α × List α)
  | [] => .ok ([], [])
  | x :: rest =>
    match lt x last with
    | .error e => .error e
    | .ok true => (descending lt x rest).map fun (run, after) => (x :: run, after)
    | .ok false => .ok ([], x :: rest)

/-- The run at the front of `xs`, in the order of the run, and the rest. -/
def frontRun (lt : α → α → Except ε Bool) : List α → Except ε (List α × List α)
  | [] => .ok ([], [])
  | [x] => .ok ([x], [])
  | x :: y :: rest =>
    match lt y x with
    | .error e => .error e
    | .ok true => (descending lt y rest).map fun (run, after) => ((x :: y :: run).reverse, after)
    | .ok false => (ascending lt y rest).map fun (run, after) => (x :: y :: run, after)

/-- The index between `lo` and `hi` at which `pivot` goes among `sorted`: after every element
that it is not less than, found by halving. -/
def insertionPoint (lt : α → α → Except ε Bool) (pivot : α) (sorted : List α) (lo hi : Nat) :
    Except ε Nat :=
  if _h : lo < hi then
    match sorted[lo + (hi - lo) / 2]? with
    | none => .ok lo
    | some x =>
      match lt pivot x with
      | .error e => .error e
      | .ok true => insertionPoint lt pivot sorted lo (lo + (hi - lo) / 2)
      | .ok false => insertionPoint lt pivot sorted (lo + (hi - lo) / 2 + 1) hi
  else .ok lo
termination_by hi - lo
decreasing_by all_goals omega

/-- Insert each element of a list, in turn, into `sorted`. -/
def insertAll (lt : α → α → Except ε Bool) (sorted : List α) : List α → Except ε (List α)
  | [] => .ok sorted
  | x :: rest =>
    match insertionPoint lt x sorted 0 sorted.length with
    | .error e => .error e
    | .ok i => insertAll lt (sorted.take i ++ x :: sorted.drop i) rest

/-- `xs` sorted by `lt`, or the first failure of a comparison. -/
def sort (lt : α → α → Except ε Bool) (xs : List α) : Except ε (List α) :=
  match frontRun lt xs with
  | .error e => .error e
  | .ok (run, rest) => insertAll lt run rest

theorem ascending_append {lt : α → α → Except ε Bool} {last : α} {xs run after : List α}
    (h : ascending lt last xs = .ok (run, after)) : run ++ after = xs := by
  fun_induction ascending lt last xs generalizing run after with
  | case1 => cases h; rfl
  | case2 => cases h
  | case3 => cases h; rfl
  | case4 _ x rest _ ih =>
    cases hr : ascending lt x rest with
    | error e => rw [hr] at h; cases h
    | ok p =>
      rw [hr] at h
      cases h
      simp [ih hr]

theorem descending_append {lt : α → α → Except ε Bool} {last : α} {xs run after : List α}
    (h : descending lt last xs = .ok (run, after)) : run ++ after = xs := by
  fun_induction descending lt last xs generalizing run after with
  | case1 => cases h; rfl
  | case2 => cases h
  | case3 _ x rest _ ih =>
    cases hr : descending lt x rest with
    | error e => rw [hr] at h; cases h
    | ok p =>
      rw [hr] at h
      cases h
      simp [ih hr]
  | case4 => cases h; rfl

/-- The front run and the rest hold the elements of the list, the run perhaps reversed. -/
theorem frontRun_append {lt : α → α → Except ε Bool} {xs run after : List α}
    (h : frontRun lt xs = .ok (run, after)) : (run ++ after).Perm xs := by
  unfold frontRun at h
  split at h
  · cases h; exact List.Perm.refl _
  · cases h; exact List.Perm.refl _
  · next x y rest =>
    split at h
    · cases h
    · cases hr : descending lt y rest with
      | error e => rw [hr] at h; cases h
      | ok p =>
        rw [hr] at h
        cases h
        have := descending_append hr
        rw [← this]
        exact ((List.reverse_perm _).append_right _).trans (by simp)
    · cases hr : ascending lt y rest with
      | error e => rw [hr] at h; cases h
      | ok p =>
        rw [hr] at h
        cases h
        have := ascending_append hr
        rw [← this]
        simp

theorem insertAll_length {lt : α → α → Except ε Bool} {sorted xs ys : List α}
    (h : insertAll lt sorted xs = .ok ys) : ys.length = sorted.length + xs.length := by
  fun_induction insertAll lt sorted xs with
  | case1 => cases h; simp
  | case2 => cases h
  | case3 sorted x rest i _ ih =>
    rw [ih h]
    have : i ≤ sorted.length ∨ sorted.length < i := by omega
    rcases this with hi | hi
    · simp [Nat.min_eq_left hi]
      omega
    · simp [Nat.min_eq_right (Nat.le_of_lt hi), List.drop_of_length_le (Nat.le_of_lt hi)]
      omega

/-- A sort that succeeds keeps the number of keys. -/
theorem sort_length {lt : α → α → Except ε Bool} {xs ys : List α}
    (h : sort lt xs = .ok ys) : ys.length = xs.length := by
  unfold sort at h
  split at h
  · cases h
  · next run rest hfront =>
    rw [insertAll_length h, ← List.length_append]
    exact (frontRun_append hfront).length_eq

end RunSort

end ByteAsm
