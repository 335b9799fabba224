import ErpBackend.Foundation.RowLocks
import ErpBackend.Inventory.Stock

/-!
# InvoiceNumberService

`next` is two statements of its caller's transaction: the counter of the branch is written, which
locks it, and read. Any number of transactions run at the same time; each commits or is rolled
back, by its caller or by the server.
-/

namespace ErpBackend.Numbering

open Foundation

/-- A row of `branch_counters`. -/
structure Counter where
  companyId : Id
  branchId : Id
  kind : String
  seq : Nat
  deriving DecidableEq

abbrev Key := Id × String

/-- `INSERT … ON DUPLICATE KEY UPDATE seq = seq + 1`. -/
def upsert (companyId : Id) (key : Key) : Option Counter → Counter
  | none => ⟨companyId, key.1, key.2, 1⟩
  | some counter => { counter with seq := counter.seq + 1 }

/-- `String(seq).padStart(5, '0')`. -/
def defaultFormat (seq : Nat) : String := Inventory.padStart 5 (toString seq)

def kindText : CounterKind → String
  | .invoice => "invoice"
  | .transfer => "transfer"

def Counter.of (row : BranchCounter) : Counter :=
  ⟨row.companyId, row.branchId, kindText row.kind, row.seq⟩

theorem nextNumber_upsert (companyId branchId : Id) (kind : CounterKind) (db db' : Db) (seq : Nat)
    (done : Inventory.nextNumber companyId branchId kind db = .ok (db', seq)) :
    seq = (upsert companyId (branchId, kindText kind)
      ((db.branchCounters.find? (branchId, kind)).map Counter.of)).seq := by
  unfold Inventory.nextNumber at done
  split at done
  · case h_1 counter found =>
    cases done
    simp [found, upsert, Counter.of]
  · case h_2 missing =>
    split at done
    · cases done
    · cases done
      simp [missing, upsert]

/-- A transaction as its caller wrote it, from one call of `next` to the following. -/
inductive Body where
  | next (companyId : Id) (key : Key) (format : Nat → String) (rest : String → Body)
  | commits
  | rollsBack

inductive Stage where
  | body (body : Body)
  /-- Between the two statements of `next`. -/
  | upserted (key : Key) (format : Nat → String) (rest : String → Body)
  | over

structure Tx where
  stage : Stage
  calls : List (Key × Nat)

def Tx.idle : Tx := ⟨.over, []⟩

/-- `rows[0].seq` of no row throws, and the caller does not catch it. -/
def Tx.answered (key : Key) (format : Nat → String) (rest : String → Body)
    (calls : List (Key × Nat)) : Option Counter → Tx
  | some counter => ⟨.body (rest (format counter.seq)), calls ++ [(key, counter.seq)]⟩
  | none => ⟨.body .rollsBack, calls⟩

/-- The counters, the connections, and the calls that were committed. -/
structure State where
  rows : Rows Id Key Counter
  txs : Id → Tx
  log : List (Key × Nat)

def State.set (s : State) (t : Id) (tx : Tx) : State := { s with txs := Function.update s.txs t tx }

def State.initial : State := ⟨⟨fun _ => none, fun _ => none⟩, fun _ => .idle, []⟩

inductive Step : State → State → Prop
  | begins (s : State) (t : Id) (body : Body) (idle : s.txs t = .idle) :
      Step s (s.set t ⟨.body body, []⟩)
  | upserts (s : State) (t companyId : Id) (key : Key) (format : Nat → String)
      (rest : String → Body) (calls : List (Key × Nat))
      (calling : s.txs t = ⟨.body (.next companyId key format rest), calls⟩)
      (free : s.rows.Free t key) :
      Step s ({ s with rows := s.rows.write t key (upsert companyId key) }.set t
        ⟨.upserted key format rest, calls⟩)
  | selects (s : State) (t : Id) (key : Key) (format : Nat → String) (rest : String → Body)
      (calls : List (Key × Nat)) (found : Option Counter)
      (upserted : s.txs t = ⟨.upserted key format rest, calls⟩) (reads : s.rows.Reads t key found) :
      Step s (s.set t (.answered key format rest calls found))
  | commits (s : State) (t : Id) (calls : List (Key × Nat))
      (ready : s.txs t = ⟨.body .commits, calls⟩) :
      Step s ({ s with rows := s.rows.commit t, log := s.log ++ calls }.set t .idle)
  | rollsBack (s : State) (t : Id) :
      Step s ({ s with rows := s.rows.rollback t }.set t .idle)

abbrev Run := Relation.ReflTransGen Step

def numbersOf (key : Key) (calls : List (Key × Nat)) : List Nat :=
  (calls.filter (fun call => call.1 = key)).map Prod.snd

@[simp]
theorem numbersOf_nil (key : Key) : numbersOf key [] = [] := rfl

@[simp]
theorem numbersOf_append (key : Key) (first rest : List (Key × Nat)) :
    numbersOf key (first ++ rest) = numbersOf key first ++ numbersOf key rest := by
  simp [numbersOf]

@[simp]
theorem numbersOf_own (key : Key) (seq : Nat) : numbersOf key [(key, seq)] = [seq] := by
  simp [numbersOf]

theorem numbersOf_other (key other : Key) (seq : Nat) (apart : key ≠ other) :
    numbersOf other [(key, seq)] = [] := by
  simp [numbersOf, apart]

def seqOf (found : Option Counter) : Nat := found.elim 0 Counter.seq

@[simp]
theorem seqOf_upsert (companyId : Id) (key : Key) (found : Option Counter) :
    seqOf (some (upsert companyId key found)) = seqOf found + 1 := by
  cases found <;> rfl

def Stage.waits (key : Key) : Stage → Nat
  | .upserted k _ _ => if k = key then 1 else 0
  | _ => 0

/-- The numbers of a transaction follow the committed ones, up to its own counter. -/
structure Given (rows : Rows Id Key Counter) (t : Id) (tx : Tx) (key : Key) : Prop where
  count : seqOf (rows.newest t key) =
    seqOf (rows.committed key) + (numbersOf key tx.calls).length + tx.stage.waits key
  numbers : numbersOf key tx.calls =
    List.range' (seqOf (rows.committed key) + 1) (numbersOf key tx.calls).length

structure Counted (s : State) : Prop where
  committed : ∀ key, numbersOf key s.log = List.range' 1 (seqOf (s.rows.committed key))
  given : ∀ t key, Given s.rows t (s.txs t) key

variable (rows : Rows Id Key Counter)

theorem newest_of_none (t : Id) (key : Key)
    (unwritten : rows.own t key = none) : rows.newest t key = rows.committed key := by
  simp [Rows.newest, unwritten]

theorem newest_of_some (t : Id) (key : Key) (counter : Counter)
    (written : rows.own t key = some counter) : rows.newest t key = some counter := by
  simp [Rows.newest, written]

theorem given_idle (t : Id) (key : Key)
    (unwritten : rows.own t key = none) : Given rows t .idle key where
  count := by
    rw [newest_of_none rows t key unwritten]
    rfl
  numbers := rfl

theorem Given.unwritten {rows : Rows Id Key Counter} {t : Id} {tx : Tx} {key : Key}
    (given : Given rows t tx key) (unwritten : rows.own t key = none) :
    numbersOf key tx.calls = [] ∧ tx.stage.waits key = 0 := by
  have count := given.count
  rw [newest_of_none rows t key unwritten] at count
  exact ⟨List.eq_nil_of_length_eq_zero (by omega), by omega⟩

theorem Given.keep {rows rows' : Rows Id Key Counter} {t : Id} {tx : Tx} {key : Key}
    (given : Given rows t tx key) (committed : rows'.committed key = rows.committed key)
    (own : rows'.own t key = rows.own t key) : Given rows' t tx key where
  count := by
    have newest : rows'.newest t key = rows.newest t key := by
      simp only [Rows.newest, own, committed]
    rw [newest, committed]
    exact given.count
  numbers := by
    rw [committed]
    exact given.numbers

variable (s : State)

@[simp]
theorem set_own (t : Id) (tx : Tx) : (s.set t tx).txs t = tx := by
  simp [State.set]

theorem set_other (t u : Id) (tx : Tx) (other : u ≠ t) :
    (s.set t tx).txs u = s.txs u := by
  simp [State.set, other]

theorem given_set {s : State} {t : Id} {tx : Tx} (own : ∀ key, Given s.rows t tx key)
    (others : ∀ u key, u ≠ t → Given s.rows u (s.txs u) key) (u : Id) (key : Key) :
    Given (s.set t tx).rows u ((s.set t tx).txs u) key := by
  by_cases same : u = t
  · subst same
    rw [set_own]
    exact own key
  · rw [set_other s t u tx same]
    exact others u key same

theorem upserts_counted (t companyId : Id) (key : Key) (format : Nat → String)
    (rest : String → Body) (calls : List (Key × Nat))
    (calling : s.txs t = ⟨.body (.next companyId key format rest), calls⟩)
    (free : s.rows.Free t key) (counted : Counted s) :
    Counted ({ s with rows := s.rows.write t key (upsert companyId key) }.set t
      ⟨.upserted key format rest, calls⟩) where
  committed := counted.committed
  given := by
    apply given_set
    · intro other
      have before := counted.given t other
      rw [calling] at before
      by_cases same : other = key
      · subst same
        have newest : (s.rows.write t other (upsert companyId other)).newest t other =
            some (upsert companyId other (s.rows.newest t other)) :=
          newest_of_some _ t other _ (Rows.own_write s.rows t other _)
        constructor
        · have count := before.count
          rw [newest, seqOf_upsert, Rows.committed_write, count]
          simp [Stage.waits]
        · exact before.numbers
      · have kept := Rows.own_write_key s.rows t t key other (upsert companyId key) same
        have committed : (s.rows.write t key (upsert companyId key)).committed other =
            s.rows.committed other := rfl
        have given := before.keep committed kept
        constructor
        · have count := given.count
          simpa [Stage.waits, Ne.symm same] using count
        · exact given.numbers
    · intro u other apart
      exact (counted.given u other).keep rfl
        (Rows.own_write_other s.rows t u key other (upsert companyId key) free apart)

theorem selects_counted (t : Id) (key : Key) (format : Nat → String)
    (rest : String → Body) (calls : List (Key × Nat)) (found : Option Counter)
    (upserted : s.txs t = ⟨.upserted key format rest, calls⟩) (reads : s.rows.Reads t key found)
    (counted : Counted s) : Counted (s.set t (.answered key format rest calls found)) where
  committed := counted.committed
  given := by
    apply given_set
    · intro other
      have before := counted.given t other
      rw [upserted] at before
      have waiting := counted.given t key
      rw [upserted] at waiting
      -- the counter is this transaction's, so this is what it reads
      obtain ⟨counter, written⟩ : ∃ counter, s.rows.own t key = some counter := by
        by_contra none'
        have unwritten := Option.not_isSome_iff_eq_none.mp
          (fun some' => none' (Option.isSome_iff_exists.mp some'))
        have waits := (waiting.unwritten unwritten).2
        simp [Stage.waits] at waits
      have answer := reads counter written
      subst answer
      have newest := newest_of_some s.rows t key counter written
      have count := waiting.count
      rw [newest] at count
      have seq : counter.seq = seqOf (s.rows.committed key) + (numbersOf key calls).length + 1 := by
        simpa [Stage.waits, seqOf] using count
      by_cases same : other = key
      · subst same
        constructor
        · change seqOf (s.rows.newest t other) = seqOf (s.rows.committed other) +
            (numbersOf other (calls ++ [(other, counter.seq)])).length + 0
          rw [newest, numbersOf_append, numbersOf_own, List.length_append, List.length_singleton]
          exact seq
        · have numbers := before.numbers
          change numbersOf other (calls ++ [(other, counter.seq)]) =
            List.range' (seqOf (s.rows.committed other) + 1)
              (numbersOf other (calls ++ [(other, counter.seq)])).length
          rw [numbersOf_append, numbersOf_own, List.length_append, List.length_singleton,
            List.range'_concat, ← numbers, seq]
          congr 2
          omega
      · have none' := numbersOf_other key other counter.seq (Ne.symm same)
        constructor
        · have own := before.count
          simpa [Tx.answered, Stage.waits, Ne.symm same, none'] using own
        · have own := before.numbers
          simpa [Tx.answered, none'] using own
    · exact fun u other _ => counted.given u other

theorem commits_counted (t : Id) (calls : List (Key × Nat))
    (ready : s.txs t = ⟨.body .commits, calls⟩) (counted : Counted s) :
    Counted ({ s with rows := s.rows.commit t, log := s.log ++ calls }.set t .idle) where
  committed := by
    intro key
    have given := counted.given t key
    rw [ready] at given
    change numbersOf key (s.log ++ calls) = List.range' 1 (seqOf (s.rows.newest t key))
    have count : seqOf (s.rows.newest t key) =
        seqOf (s.rows.committed key) + (numbersOf key calls).length := given.count
    calc
      numbersOf key (s.log ++ calls) = numbersOf key s.log ++ numbersOf key calls :=
        numbersOf_append key s.log calls
      _ = List.range' 1 (seqOf (s.rows.committed key)) ++
          List.range' (1 + seqOf (s.rows.committed key)) (numbersOf key calls).length := by
        rw [counted.committed key, Nat.add_comm 1]
        exact congrArg (_ ++ ·) given.numbers
      _ = List.range' 1 (seqOf (s.rows.newest t key)) := by
        rw [count, ← List.range'_append_1]
  given := by
    apply given_set
    · exact fun key => given_idle _ t key (by simp)
    · intro u key other
      have before := counted.given u key
      have own : (s.rows.commit t).own u key = s.rows.own u key := by
        rw [Rows.own_commit, if_neg other]
      cases mine : s.rows.own t key with
      | none =>
        exact before.keep (newest_of_none s.rows t key mine) own
      | some counter =>
        -- the row is locked, so the other transaction was given nothing of it
        have unwritten : s.rows.own u key = none := by
          by_contra theirs
          obtain ⟨value, written⟩ := Option.ne_none_iff_exists'.mp theirs
          exact other (Rows.own_exclusive s.rows u t key value counter written mine)
        obtain ⟨nothing, idle⟩ := before.unwritten unwritten
        constructor
        · rw [newest_of_none _ u key (own.trans unwritten), nothing, idle]
          rfl
        · rw [nothing]
          rfl

theorem rollsBack_counted (t : Id) (counted : Counted s) :
    Counted ({ s with rows := s.rows.rollback t }.set t .idle) where
  committed := counted.committed
  given := by
    apply given_set
    · exact fun key => given_idle _ t key (by simp)
    · intro u key other
      refine (counted.given u key).keep rfl ?_
      rw [Rows.own_rollback, if_neg other]

theorem begins_counted (t : Id) (body : Body) (idle : s.txs t = .idle)
    (counted : Counted s) : Counted (s.set t ⟨.body body, []⟩) where
  committed := counted.committed
  given := by
    apply given_set
    · intro key
      have before := counted.given t key
      rw [idle] at before
      exact ⟨before.count, before.numbers⟩
    · exact fun u key _ => counted.given u key

theorem step_counted (s s' : State) (step : Step s s') (counted : Counted s) : Counted s' := by
  cases step with
  | begins t body idle => exact begins_counted s t body idle counted
  | upserts t companyId key format rest calls calling free =>
    exact upserts_counted s t companyId key format rest calls calling free counted
  | selects t key format rest calls found upserted reads =>
    exact selects_counted s t key format rest calls found upserted reads counted
  | commits t calls ready => exact commits_counted s t calls ready counted
  | rollsBack t => exact rollsBack_counted s t counted

theorem initial_counted : Counted .initial where
  committed _ := rfl
  given t key := given_idle _ t key rfl

theorem run_counted (run : Run .initial s) : Counted s := by
  induction run with
  | refl => exact initial_counted
  | tail _ last ih => exact step_counted _ _ last ih

/-- In every run the committed numbers of a branch and kind are 1, 2, …, in the order of the
commits. -/
theorem committed_numbers (key : Key) (s : State) (run : Run .initial s) :
    numbersOf key s.log = List.range' 1 (numbersOf key s.log).length := by
  have committed := (run_counted s run).committed key
  calc
    numbersOf key s.log = List.range' 1 (seqOf (s.rows.committed key)) := committed
    _ = List.range' 1 (numbersOf key s.log).length := by
      rw [committed, List.length_range']

def sale (ending : Body) : Body := .next 1 (7, "invoice") defaultFormat (fun _ => ending)

/-- The first sale is rolled back while a second one waits for its counter. -/
theorem committed_numbers_rolled_back :
    ∃ s : State, s.log = [((7, "invoice"), 1)] ∧
      numbersOf (7, "invoice") s.log = List.range' 1 (numbersOf (7, "invoice") s.log).length := by
  have run : Run .initial _ :=
    .head (.begins _ 1 (sale .rollsBack) rfl)
      (.head (.begins _ 2 (sale .commits) rfl)
        (.head (.upserts _ 1 1 (7, "invoice") defaultFormat (fun _ => .rollsBack) [] rfl
          (by decide))
          (.head (.selects _ 1 (7, "invoice") defaultFormat (fun _ => .rollsBack) []
              (some ⟨1, 7, "invoice", 1⟩) rfl (fun _ own => own))
            (.head (.rollsBack _ 1)
              (.head (.upserts _ 2 1 (7, "invoice") defaultFormat (fun _ => .commits) [] rfl
                (by decide))
                (.head (.selects _ 2 (7, "invoice") defaultFormat (fun _ => .commits) []
                    (some ⟨1, 7, "invoice", 1⟩) rfl (fun _ own => own))
                  (.single (.commits _ 2 [((7, "invoice"), 1)] rfl))))))))
  exact ⟨_, rfl, committed_numbers (7, "invoice") _ run⟩

end ErpBackend.Numbering
