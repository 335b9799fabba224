import ErpBackend.Catalog.Attributes

/-!
# withLockRetry

A unit of work is run again when the database rolled it back for a lock. Whether it did is told
from the error's code, its metadata and its message, searched as one text. The delay between two
attempts is not modelled.
-/

namespace ErpBackend.LockRetry

open Catalog (Json Fields)

mutual

def stringify : Json → String
  | .null => "null"
  | .boolean value => if value then "true" else "false"
  | .number value => value.printed
  | .text value => jsonString value
  | .list items => "[" ++ String.intercalate "," (stringifyItems items) ++ "]"
  | .object fields => "\x7b" ++ String.intercalate "," (stringifyFields fields) ++ "\x7d"

def stringifyItems : List Json → List String
  | [] => []
  | item :: rest => stringify item :: stringifyItems rest

def stringifyFields : List (String × Json) → List String
  | [] => []
  | (key, value) :: rest => (jsonString key ++ ":" ++ stringify value) :: stringifyFields rest

end

/-- `Prisma.PrismaClientKnownRequestError`. -/
structure KnownRequestError where
  code : String
  metadata : Option Fields
  message : String

/-- What the work threw: an error Prisma knows, or anything else. -/
inductive Thrown (ε : Type) where
  | known (error : KnownRequestError)
  | other (error : ε)

variable {ε α : Type}

def deadlock : String := "1213"

def lockTimeout : String := "1205"

def includes (text part : String) : Bool := decide (part.toList <:+: text.toList)

def KnownRequestError.detail (e : KnownRequestError) : String :=
  e.code ++ " " ++ stringify (.object (e.metadata.getD [])) ++ " " ++ e.message

def isLockConflict : Thrown ε → Bool
  | .other _ => false
  | .known e =>
    if e.code = "P2034" then true
    else includes e.detail deadlock || includes e.detail lockTimeout

/-- The error number of MySQL, which a raw statement carries in its metadata. -/
def KnownRequestError.mysqlNumber (e : KnownRequestError) : Option String :=
  if e.code = "P2010" then
    match ((e.metadata.getD []).find? (fun field => field.1 = "code")).map Prod.snd with
    | some (.text number) => some number
    | some (.number number) => some number.printed
    | _ => none
  else none

/-- The failure is one of a lock, by the code or the number of the error. -/
def LockConflict : Thrown ε → Prop
  | .other _ => False
  | .known e => e.code = "P2034" ∨ e.mysqlNumber = some deadlock ∨ e.mysqlNumber = some lockTimeout

/-- One of the two numbers stands somewhere in the text of the error. -/
def NamesNumber : Thrown ε → Prop
  | .other _ => False
  | .known e => includes e.detail deadlock = true ∨ includes e.detail lockTimeout = true

theorem isLockConflict_iff (thrown : Thrown ε) :
    isLockConflict thrown = true ↔
      (∃ e, thrown = .known e ∧ e.code = "P2034") ∨ NamesNumber thrown := by
  cases thrown with
  | other error => simp [isLockConflict, NamesNumber]
  | known e => by_cases conflict : e.code = "P2034" <;> simp [isLockConflict, NamesNumber, conflict]

instance (thrown : Thrown ε) : Decidable (LockConflict thrown) :=
  match thrown with
  | .other _ => inferInstanceAs (Decidable False)
  | .known e => inferInstanceAs (Decidable
      (e.code = "P2034" ∨ e.mysqlNumber = some deadlock ∨ e.mysqlNumber = some lockTimeout))

theorem infix_intercalate {piece : String} {pieces : List String} (separator : String)
    (member : piece ∈ pieces) :
    piece.toList <:+: (String.intercalate separator pieces).toList := by
  induction pieces with
  | nil => cases member
  | cons first rest ih =>
    cases rest with
    | nil =>
      rw [List.mem_singleton] at member
      subst member
      simp
    | cons second rest =>
      have joined : (String.intercalate separator (first :: second :: rest)).toList =
          first.toList ++ separator.toList ++
            (String.intercalate separator (second :: rest)).toList := by
        simp
      rw [joined]
      rcases List.mem_cons.mp member with own | later
      · subst own
        exact (List.prefix_append_of_prefix (List.prefix_append _ _)).isInfix
      · exact (ih later).trans (List.suffix_append _ _).isInfix

theorem infix_stringifyFields {field : String × Json} {fields : Fields} (member : field ∈ fields) :
    ∃ printed ∈ stringifyFields fields, (stringify field.2).toList <:+: printed.toList := by
  induction fields with
  | nil => cases member
  | cons first rest ih =>
    obtain ⟨key, value⟩ := first
    rcases List.mem_cons.mp member with own | later
    · subst own
      exact ⟨jsonString key ++ ":" ++ stringify value, by simp [stringifyFields],
        by
          simp only [String.toList_append]
          exact (List.suffix_append _ _).isInfix⟩
    · obtain ⟨printed, inside, seen⟩ := ih later
      exact ⟨printed, by simp [stringifyFields, inside], seen⟩

theorem field_in_detail (e : KnownRequestError) {field : String × Json}
    (member : field ∈ e.metadata.getD []) :
    (stringify field.2).toList <:+: e.detail.toList := by
  obtain ⟨printed, inside, seen⟩ := infix_stringifyFields member
  have whole : printed.toList <:+: (stringify (.object (e.metadata.getD []))).toList := by
    have joined := infix_intercalate "," inside
    simp only [stringify, String.toList_append]
    exact (joined.trans (List.suffix_append _ _).isInfix).trans (List.prefix_append _ _).isInfix
  have detail : (stringify (.object (e.metadata.getD []))).toList <:+: e.detail.toList := by
    simp only [KnownRequestError.detail, String.toList_append]
    exact ⟨e.code.toList ++ " ".toList, " ".toList ++ e.message.toList, by simp⟩
  exact (seen.trans whole).trans detail

theorem mysqlNumber_in_detail (e : KnownRequestError) (number : String)
    (plain : number.toList <:+: (jsonString number).toList) (given : e.mysqlNumber = some number) :
    includes e.detail number = true := by
  simp only [KnownRequestError.mysqlNumber] at given
  split at given
  · split at given
    · rename_i text found
      cases given
      obtain ⟨field, first, value⟩ := Option.map_eq_some_iff.mp found
      have seen := field_in_detail e (List.mem_of_find?_eq_some first)
      rw [value, stringify] at seen
      exact decide_eq_true (plain.trans seen)
    · rename_i printed found
      cases given
      obtain ⟨field, first, value⟩ := Option.map_eq_some_iff.mp found
      have seen := field_in_detail e (List.mem_of_find?_eq_some first)
      rw [value, stringify] at seen
      exact decide_eq_true seen
    · cases given
  · cases given

theorem LockConflict.seen {thrown : Thrown ε} (conflict : LockConflict thrown) :
    isLockConflict thrown = true := by
  rw [isLockConflict_iff]
  cases thrown with
  | other error => cases conflict
  | known e =>
    rcases conflict with code | number | number
    · exact .inl ⟨e, rfl, code⟩
    · exact .inr (.inl (mysqlNumber_in_detail e deadlock (by decide +kernel) number))
    · exact .inr (.inr (mysqlNumber_in_detail e lockTimeout (by decide +kernel) number))

theorem seen_iff (thrown : Thrown ε) :
    isLockConflict thrown = true ↔ LockConflict thrown ∨ NamesNumber thrown := by
  constructor
  · intro seen
    rcases (isLockConflict_iff thrown).mp seen with ⟨e, rfl, code⟩ | number
    · exact .inl (.inl code)
    · exact .inr number
  · rintro (conflict | number)
    · exact conflict.seen
    · exact (isLockConflict_iff thrown).mpr (.inr number)

structure Ran (ε α : Type) where
  executions : Nat
  result : Except (Thrown ε) α

/-- `outcomes i` is what the work's `i`-th execution comes to. -/
def attemptFrom (attempts : Int) (outcomes : Nat → Except (Thrown ε) α) (attempt : Nat) : Ran ε α :=
  match outcomes attempt with
  | .ok a => ⟨attempt, .ok a⟩
  | .error e =>
    if attempts ≤ attempt ∨ isLockConflict e = false then ⟨attempt, .error e⟩
    else attemptFrom attempts outcomes (attempt + 1)
termination_by (attempts - attempt).toNat

def withLockRetry (outcomes : Nat → Except (Thrown ε) α) (attempts : Option Int := none) :
    Ran ε α :=
  attemptFrom (attempts.getD 3) outcomes 1

/-- The runs from one attempt on: all but the last failed with what looks like a lock. -/
structure Stops (attempts : Int) (outcomes : Nat → Except (Thrown ε) α) (first : Nat)
    (ran : Ran ε α) : Prop where
  started : first ≤ ran.executions
  bounded : (ran.executions : Int) ≤ max (first : Int) attempts
  failed : ∀ i, first ≤ i → i < ran.executions →
    ∃ e, outcomes i = .error e ∧ isLockConflict e = true ∧ (i : Int) < attempts
  result : ran.result = outcomes ran.executions
  last : ∀ e, outcomes ran.executions = .error e →
    attempts ≤ ran.executions ∨ isLockConflict e = false

theorem attemptFrom_stops (attempts : Int) (outcomes : Nat → Except (Thrown ε) α) (attempt : Nat) :
    Stops attempts outcomes attempt (attemptFrom attempts outcomes attempt) := by
  induction attempt using attemptFrom.induct attempts outcomes with
  | case1 attempt a done =>
    rw [attemptFrom, done]
    refine ⟨Nat.le_refl _, Int.le_max_left .., fun i from' before =>
      absurd from' (Nat.not_le.mpr before),
      done.symm, ?_⟩
    intro e failed
    rw [done] at failed
    cases failed
  | case2 attempt e failed stop =>
    rw [attemptFrom, failed]
    dsimp only
    rw [if_pos stop]
    refine ⟨Nat.le_refl _, Int.le_max_left .., fun i from' before =>
      absurd from' (Nat.not_le.mpr before),
      failed.symm, ?_⟩
    intro e' failed'
    rw [failed] at failed'
    cases failed'
    exact stop
  | case3 attempt e failed again ih =>
    rw [attemptFrom, failed]
    dsimp only
    rw [if_neg again]
    obtain ⟨more, conflict⟩ := not_or.mp again
    refine ⟨by have := ih.started; omega, by have := ih.bounded; omega, ?_, ih.result, ih.last⟩
    intro i from' before
    by_cases own : i = attempt
    · subst own
      exact ⟨e, failed, eq_true_of_ne_false conflict, Int.not_le.mp more⟩
    · exact ih.failed i (by omega) before

/-- The work runs again after a lock conflict only, and no more often than `attempts`; any other
error is the answer of the execution that met it. -/
structure ConflictsOnly (attempts : Int) (outcomes : Nat → Except (Thrown ε) α) (ran : Ran ε α) :
    Prop where
  again : ∀ i, 1 ≤ i → i < ran.executions → ∃ e, outcomes i = .error e ∧ LockConflict e
  bounded : (ran.executions : Int) ≤ attempts
  unchanged : ∀ i e, 1 ≤ i → i ≤ ran.executions → outcomes i = .error e → ¬LockConflict e →
    ran.executions = i ∧ ran.result = .error e

/-- The first failure that is no lock conflict names neither number in its text, unless it is the
last execution anyway. -/
def PlainFailure (attempts : Int) (outcomes : Nat → Except (Thrown ε) α) : Prop :=
  ∀ (i : Nat) e, 1 ≤ i → (i : Int) < attempts →
    (∀ j, 1 ≤ j → j < i → ∃ e', outcomes j = .error e' ∧ LockConflict e') →
    outcomes i = .error e → ¬LockConflict e → ¬NamesNumber e

theorem withLockRetry_stops (outcomes : Nat → Except (Thrown ε) α) (attempts : Option Int) :
    Stops (attempts.getD 3) outcomes 1 (withLockRetry outcomes attempts) :=
  attemptFrom_stops _ _ _

theorem Stops.reaches {attempts : Int} {outcomes : Nat → Except (Thrown ε) α} {ran : Ran ε α}
    (stops : Stops attempts outcomes 1 ran) {i : Nat} (within : (i : Int) ≤ attempts)
    (before : ∀ j, 1 ≤ j → j < i → ∃ e', outcomes j = .error e' ∧ LockConflict e') :
    i ≤ ran.executions := by
  by_contra short
  obtain ⟨e, failed, conflict⟩ := before ran.executions stops.started (by omega)
  rcases stops.last e failed with done | other
  · omega
  · rw [conflict.seen] at other
    cases other

theorem Stops.conflictsOnly {attempts : Int} {outcomes : Nat → Except (Thrown ε) α} {ran : Ran ε α}
    (stops : Stops attempts outcomes 1 ran) (positive : 1 ≤ attempts)
    (plain : PlainFailure attempts outcomes) : ConflictsOnly attempts outcomes ran := by
  have again : ∀ i, 1 ≤ i → i < ran.executions → ∃ e, outcomes i = .error e ∧ LockConflict e := by
    intro i
    induction i using Nat.strongRecOn with
    | _ i ih =>
      intro from' before
      obtain ⟨e, failed, seen, within⟩ := stops.failed i from' before
      refine ⟨e, failed, ?_⟩
      by_contra other
      have clean := plain i e from' within
        (fun j start earlier => ih j earlier start (by omega)) failed other
      exact ((seen_iff e).mp seen).elim other clean
  have bounded := stops.bounded
  refine ⟨again, by omega, ?_⟩
  intro i e from' upTo failed other
  have last : ran.executions = i := by
    by_contra different
    obtain ⟨e', failed', conflict⟩ := again i from' (by omega)
    rw [failed] at failed'
    cases failed'
    exact other conflict
  exact ⟨last, by rw [stops.result, last, failed]⟩

theorem conflicts_retried_iff (outcomes : Nat → Except (Thrown ε) α) (attempts : Option Int) :
    ConflictsOnly (attempts.getD 3) outcomes (withLockRetry outcomes attempts) ↔
      1 ≤ attempts.getD 3 ∧ PlainFailure (attempts.getD 3) outcomes := by
  have stops := withLockRetry_stops outcomes attempts
  generalize attempts.getD 3 = limit at *
  constructor
  · intro only
    have started := stops.started
    have bounded := only.bounded
    refine ⟨by omega, ?_⟩
    intro i e from' within before failed other named
    have reached := stops.reaches (by omega) before
    obtain ⟨last, -⟩ := only.unchanged i e from' reached failed other
    rw [← last] at failed within
    rcases stops.last e failed with done | unseen
    · omega
    · rw [(seen_iff e).mpr (.inr named)] at unseen
      cases unseen
  · rintro ⟨positive, plain⟩
    exact stops.conflictsOnly positive plain

/-- A key was taken: the value that was refused is a serial number with 1213 in it. -/
def duplicateEntry : KnownRequestError where
  code := "P2010"
  metadata := some [("code", .text "1062"), ("message", .text "Duplicate entry '356121309876543'")]
  message := "Raw query failed. Code: 1062"

/-- The refusal is met three times before it is told. -/
theorem duplicate_entry_rerun :
    (withLockRetry (α := Unit) fun _ => .error (.known (ε := Unit) duplicateEntry)).executions = 3 ∧
    ¬ConflictsOnly 3 (fun _ => .error (.known duplicateEntry))
      (withLockRetry (α := Unit) fun _ => .error (.known (ε := Unit) duplicateEntry)) := by
  have other : ¬LockConflict (ε := Unit) (.known duplicateEntry) := by decide +kernel
  have seen : isLockConflict (ε := Unit) (.known duplicateEntry) = true := by decide +kernel
  have thrice : (withLockRetry (α := Unit) fun _ =>
      .error (.known (ε := Unit) duplicateEntry)).executions = 3 := by
    simp [withLockRetry, attemptFrom, seen]
  refine ⟨thrice, fun only => ?_⟩
  obtain ⟨last, -⟩ := only.unchanged 1 (.known duplicateEntry) (Nat.le_refl 1) (by omega) rfl other
  omega

end ErpBackend.LockRetry
