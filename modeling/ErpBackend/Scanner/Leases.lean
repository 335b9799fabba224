import ErpBackend.Foundation.Protocol
import ErpBackend.Scanner.Learning

/-!
# Leases

A worker that writes before its lease ends, or before anyone has taken its row
over, is the only one on it: the row is still `processing` until that very
deadline. Then learning counts once, and no event that is done comes back.
-/

namespace ErpBackend.Scanner

open Foundation

/-- The row is claimed until `deadline`. -/
def Holds (m : Memory) (id : Id) (deadline : Time) : Prop :=
  ∃ row, m.outbox.find? id = some row ∧ row.status = .processing ∧
    row.claimedUntil = some deadline

instance (m : Memory) (id : Id) (deadline : Time) : Decidable (Holds m id deadline) :=
  inferInstanceAs (Decidable (∃ row ∈ m.outbox.find? id, row.status = .processing ∧
    row.claimedUntil = some deadline))

/-- A completion or a failure update is in time while the lease it was claimed under lasts,
and after that for as long as nobody has taken the row over. -/
def inTime (m : Memory) : Mark → Prop
  | .complete event deadline | .requeue event deadline =>
      m.clock ≤ deadline ∨ Holds m event.id deadline
  | _ => True

instance (m : Memory) (mark : Mark) : Decidable (inTime m mark) := by
  cases mark <;> simp only [inTime] <;> infer_instance

def lease? : Mark → Option (Id × Time)
  | .complete event deadline | .requeue event deadline => some (event.id, deadline)
  | _ => none

structure Background (m m' : Memory) : Prop where
  clock : m.clock ≤ m'.clock
  recognitions : m'.recognitions = m.recognitions
  outbox : ∃ new, m'.outbox.rows = m.outbox.rows ++ new ∧
    ∀ event ∈ new, event.status = .pending

def Plain (next : Option Mark) : Prop := ∀ mark, next = some mark → mark = .other

def Learns (event : OutboxEvent) (m m' : Memory) : Prop :=
  ∃ pick newId, learnAndComplete pick newId event m = .ok (m', ())

def Requeues (event : OutboxEvent) (m m' : Memory) : Prop :=
  ∃ attempts refusal, updateEvent event.id (requeued m.clock attempts refusal)
    (requeued_id m.clock attempts refusal) m = .ok m'

def workerLeads : Mark → Memory → Memory → Option Mark → Prop
  | .other, m, m', next => Background m m' ∧
      (Plain next ∨ ∃ id now, next = some (.claim id now) ∧ now ≤ m'.clock)
  | .claim id now, m, m', next =>
      (m' = m ∧ Plain next) ∨ (claimRow id now m = .ok (m', true) ∧
        ∃ event : OutboxEvent, event.id = id ∧ next = some (.complete event (now + leaseMs)))
  | .complete event deadline, m, m', next =>
      (m' = m ∧ next = some (.requeue event deadline)) ∨ (Learns event m m' ∧ Plain next)
  | .requeue event _, m, m', next => (m' = m ∨ Requeues event m m') ∧ Plain next
  | _, _, _, _ => False

theorem Background.refl (m : Memory) : Background m m :=
  ⟨Nat.le_refl _, rfl, [], by simp, by simp⟩

theorem processRow_walks {β : Type} (pick : Lookup ProductRecognition) (newId : Id)
    (row : OutboxEvent) (f : Outcome → Request β) (walks : ∀ outcome, (f outcome).Walks workerLeads)
    (plain : ∀ outcome, Plain (f outcome).mark?) :
    (processRow pick newId row >>= f).Walks workerLeads := by
  unfold processRow
  rw [Prog.bind_assoc]
  apply Prog.walks_read
  intro m
  refine ⟨⟨.refl m, .inr ⟨row.id, m.clock, rfl, Nat.le_refl _⟩⟩, ?_⟩
  rw [Prog.bind_assoc]
  apply Prog.walks_transact
  · intro m₁ m₂ taken done
    cases taken with
    | false =>
        have same : m₂ = m₁ := by
          unfold claimRow at done
          split at done
          · cases done
            rfl
          · cases done
        refine ⟨.inl ⟨same, ?_⟩, walks .skipped⟩
        exact plain .skipped
    | true =>
        refine ⟨.inr ⟨done, row, rfl, rfl⟩, ?_⟩
        simp only [Bool.not_true, Bool.false_eq_true, if_false]
        rw [Prog.bind_assoc]
        apply Prog.walks_attempt
        · intro m₃ m₄ _ finished
          exact ⟨.inr ⟨⟨pick, newId, finished⟩, plain .done⟩, walks .done⟩
        · intro m₃ refusal _
          refine ⟨.inl ⟨rfl, rfl⟩, ?_⟩
          dsimp only
          rw [Prog.bind_assoc]
          apply Prog.walks_commit
          · intro m₄ m₅ written
            exact ⟨.inr ⟨_, refusal, written⟩, plain _⟩
          · intro m₄ _ _
            exact ⟨.inl rfl, fun _ none => by cases none⟩
          · exact walks _
  · intro m₁ refusal failed
    unfold claimRow at failed
    split at failed <;> cases failed

variable (pick : Lookup ProductRecognition)

theorem processRows_walks (ids : Nat → Id)
    (rows : List OutboxEvent) :
    (processRows pick ids rows).Walks workerLeads ∧ Plain (processRows pick ids rows).mark? := by
  induction rows with
  | nil => exact ⟨trivial, fun _ none => (by cases none)⟩
  | cons row rest ih =>
      refine ⟨?_, fun _ next => (Option.some.inj next).symm⟩
      apply processRow_walks
      · intro outcome
        exact Prog.walks_map _ _ ih.1
      · intro outcome
        rw [Prog.mark_map]
        exact ih.2

theorem sweep_walks (ids : Nat → Id) :
    (sweep pick ids).Walks workerLeads := by
  apply Prog.walks_read
  intro m
  obtain ⟨walks, plain⟩ := processRows_walks pick ids (sweepDue m)
  exact ⟨⟨.refl m, .inl plain⟩, walks⟩

theorem enqueueTx_background (intents : List (Id × LearningIntent)) (m : Memory) :
    Background m (enqueueTx intents m) := by
  induction intents generalizing m with
  | nil => exact .refl m
  | cons first rest ih =>
      obtain ⟨id, intent⟩ := first
      unfold enqueueTx
      split
      · exact ih m
      · split
        · exact ih m
        · next outbox inserted =>
          obtain ⟨clock, recognitions, new, rows, pending⟩ := ih { m with outbox }
          refine ⟨clock, recognitions, queued id m.clock intent :: new, ?_, ?_⟩
          · rw [rows, (Table.insert?_some _ _ _ inserted).1]
            simp
          · intro event member
            rcases List.mem_cons.mp member with rfl | later
            · rfl
            · exact pending event later

/-- Sweeps of any number of workers, events coming in, time passing. -/
inductive Draining : Request Unit → Prop
  | sweep (pick : Lookup ProductRecognition) (ids : Nat → Id) : Draining (sweep pick ids).void
  | enqueue (intents : List (Id × LearningIntent)) : Draining (enqueue intents)
  | wait (ms : Nat) : Draining (wait ms)

theorem learn_frame (newId companyId : Id) (ev : LearningEvent)
    (m m' : Memory) (done : learn pick newId companyId ev m = .ok m') :
    m'.outbox = m.outbox ∧ m'.clock = m.clock := by
  unfold learn at done
  split at done
  · obtain ⟨_, -, done⟩ := (except_bind_ok _ _ _).mp done
    split at done
    · cases done
    · split at done
      · cases done
      · cases done
        exact ⟨rfl, rfl⟩
  · have written : ∀ id f keep, updateRecognition id f keep m = .ok m' →
        m'.outbox = m.outbox ∧ m'.clock = m.clock := by
      intro id f keep done
      unfold updateRecognition at done
      split at done
      · cases done
      · obtain ⟨_, -, done⟩ := (except_bind_ok _ _ _).mp done
        split at done
        · cases done
        · cases done
          exact ⟨rfl, rfl⟩
    split at done
    · exact written _ _ _ done
    · exact written _ _ _ done

structure Rewrites (id : Id) (f : OutboxEvent → OutboxEvent) (m m' : Memory) : Prop where
  row : ∃ event, m.outbox.find? id = some event
  outbox : ∃ keep, m'.outbox = m.outbox.update id f keep
  clock : m'.clock = m.clock

theorem updateEvent_rewrites (id : Id) (f : OutboxEvent → OutboxEvent)
    (keep : ∀ row, (f row).id = row.id) (m m' : Memory) (done : updateEvent id f keep m = .ok m') :
    Rewrites id f m m' ∧ m'.recognitions = m.recognitions := by
  unfold updateEvent at done
  split at done
  · cases done
  · next event found =>
    cases done
    exact ⟨⟨⟨event, found⟩, ⟨keep, rfl⟩, rfl⟩, rfl⟩

theorem Learns.rewrites {event : OutboxEvent} {m m' : Memory} (learns : Learns event m m') :
    Rewrites event.id (completed m.clock) m m' ∧ ∃ pick newId taught,
      learn pick newId event.companyId event.learning m = .ok taught ∧
      m'.recognitions = taught.recognitions := by
  obtain ⟨pick, newId, done⟩ := learns
  obtain ⟨taught, learnt, done⟩ := (except_bind_ok _ _ _).mp done
  obtain ⟨finished, written, done⟩ := (except_bind_ok _ _ _).mp done
  cases done
  obtain ⟨outbox, clock⟩ := learn_frame _ _ _ _ _ _ learnt
  obtain ⟨⟨row, ⟨keep, update⟩, still⟩, recognitions⟩ := updateEvent_rewrites _ _ _ _ _ written
  rw [outbox] at row update
  exact ⟨⟨row, ⟨keep, update⟩, still.trans clock⟩, pick, newId, taught, learnt, recognitions⟩

theorem claimRow_rewrites (id : Id) (now : Time) (m m' : Memory)
    (done : claimRow id now m = .ok (m', true)) :
    Rewrites id (claimed now) m m' ∧ m'.recognitions = m.recognitions ∧
      ∃ event, m.outbox.find? id = some event ∧ due now event = true := by
  unfold claimRow at done
  split at done
  · cases done
  · next outbox swapped =>
    cases done
    obtain ⟨event, found, ready, rfl⟩ := (Table.swap?_some _ _ _ _ _ _).mp swapped
    exact ⟨⟨⟨event, found⟩, ⟨claimed_id now, rfl⟩, rfl⟩, rfl, event, found, ready⟩

theorem Rewrites.find {id : Id} {f : OutboxEvent → OutboxEvent} {m m' : Memory}
    (rewrites : Rewrites id f m m') (other : Id) :
    m'.outbox.find? other =
      if other = id then (m.outbox.find? id).map f else m.outbox.find? other := by
  obtain ⟨-, ⟨keep, outbox⟩, -⟩ := rewrites
  rw [outbox, Table.find?_update]

theorem Rewrites.holds {id : Id} {f : OutboxEvent → OutboxEvent} {m m' : Memory}
    (rewrites : Rewrites id f m m') (other : Id) (deadline : Time) (apart : other ≠ id)
    (holds : Holds m other deadline) : Holds m' other deadline := by
  obtain ⟨row, found, facts⟩ := holds
  exact ⟨row, by rw [rewrites.find, if_neg apart]; exact found, facts⟩

theorem Holds.not_due {m : Memory} {id : Id} {deadline now : Time} {event : OutboxEvent}
    (holds : Holds m id deadline) (found : m.outbox.find? id = some event)
    (early : now ≤ deadline) : due now event = false := by
  obtain ⟨row, present, status, until_⟩ := holds
  rw [found] at present
  cases present
  simp [due, status, until_]
  omega

theorem Holds.unique {m : Memory} {id : Id} {first second : Time} (one : Holds m id first)
    (other : Holds m id second) : first = second := by
  obtain ⟨row, found, -, until_⟩ := one
  obtain ⟨row', found', -, until_'⟩ := other
  rw [found] at found'
  cases found'
  rw [until_] at until_'
  exact Option.some.inj until_'

theorem Background.find {m m' : Memory} (background : Background m m') (id : Id)
    (event : OutboxEvent) (found : m.outbox.find? id = some event) :
    m'.outbox.find? id = some event := by
  obtain ⟨-, -, new, rows, -⟩ := background
  obtain ⟨present, keyed⟩ := (Table.find?_some _ _ _).mp found
  exact (Table.find?_some _ _ _).mpr ⟨by rw [rows]; exact List.mem_append_left _ present, keyed⟩

/-- What is known while a step is pending: a claim read its clock before, a lease that
lasts still holds its row. -/
structure Knows (mark : Mark) (m : Memory) : Prop where
  claim : ∀ id now, mark = .claim id now → now ≤ m.clock
  lease : ∀ id deadline, lease? mark = some (id, deadline) → m.clock ≤ deadline →
    Holds m id deadline

theorem Knows.held {mark : Mark} {m : Memory} (knows : Knows mark m) (fit : inTime m mark)
    (id : Id) (deadline : Time) (lease : lease? mark = some (id, deadline)) :
    Holds m id deadline := by
  have fit : m.clock ≤ deadline ∨ Holds m id deadline := by
    cases mark with
    | complete event until_ | requeue event until_ =>
        cases lease
        exact fit
    | other | claim | look | replace | record => cases lease
  rcases fit with lasts | held
  · exact knows.lease id deadline lease lasts
  · exact held

theorem knows_other (m : Memory) : Knows .other m :=
  ⟨fun _ _ none => (by cases none), fun _ _ none => (by cases none)⟩

/-- A step either runs beside the rows, or takes a row that is due, or settles the row of
its own lease. -/
theorem workerLeads_effect (mark : Mark) (m m' : Memory) (next : Option Mark)
    (leads : workerLeads mark m m' next) :
    Background m m' ∨ ∃ id f, Rewrites id f m m' ∧
      ((∃ now event, mark = .claim id now ∧ m.outbox.find? id = some event ∧
        due now event = true) ∨ ∃ deadline, lease? mark = some (id, deadline)) := by
  cases mark with
  | other => exact .inl leads.1
  | claim id now =>
      rcases leads with ⟨rfl, -⟩ | ⟨taken, -⟩
      · exact .inl (.refl _)
      · obtain ⟨rewrites, -, event, found, ready⟩ := claimRow_rewrites id now m m' taken
        exact .inr ⟨id, _, rewrites, .inl ⟨now, event, rfl, found, ready⟩⟩
  | complete event deadline =>
      rcases leads with ⟨rfl, -⟩ | ⟨learns, -⟩
      · exact .inl (.refl _)
      · exact .inr ⟨event.id, _, learns.rewrites.1, .inr ⟨deadline, rfl⟩⟩
  | requeue event deadline =>
      rcases leads.1 with rfl | ⟨attempts, refusal, written⟩
      · exact .inl (.refl _)
      · exact .inr ⟨event.id, _, (updateEvent_rewrites _ _ _ _ _ written).1, .inr ⟨deadline, rfl⟩⟩
  | look companyId tac => cases leads
  | replace id version holder => cases leads
  | record holder => cases leads

theorem workerLeads_clock (mark : Mark) (m m' : Memory) (next : Option Mark)
    (leads : workerLeads mark m m' next) : m.clock ≤ m'.clock := by
  rcases workerLeads_effect mark m m' next leads with background | ⟨id, f, rewrites, -⟩
  · exact background.clock
  · rw [rewrites.clock]

def LeasesApart (m : Memory) (a b : Mark) : Prop :=
  ∀ lease, lease? a = some lease → lease? b = some lease → lease.2 < m.clock

theorem holds_frame (mark beside : Mark) (m m' : Memory) (next : Option Mark)
    (fit : inTime m mark) (knows : Knows mark m) (knowsBeside : Knows beside m)
    (apart : LeasesApart m mark beside) (leads : workerLeads mark m m' next) (id : Id)
    (deadline : Time) (lease : lease? beside = some (id, deadline)) (lasts : m'.clock ≤ deadline) :
    Holds m' id deadline := by
  have clock := workerLeads_clock mark m m' next leads
  have lasted := Nat.le_trans clock lasts
  have held := knowsBeside.lease id deadline lease lasted
  rcases workerLeads_effect mark m m' next leads with background | ⟨touched, f, rewrites, how⟩
  · obtain ⟨row, found, facts⟩ := held
    exact ⟨row, background.find id row found, facts⟩
  · by_cases same : id = touched
    · subst same
      rcases how with ⟨now, event, rfl, found, ready⟩ | ⟨own, ownLease⟩
      · have early := knows.claim id now rfl
        rw [held.not_due found (Nat.le_trans early lasted)] at ready
        cases ready
      · obtain rfl := (knows.held fit id own ownLease).unique held
        exact absurd lasted (Nat.not_le_of_lt (apart (id, own) ownLease lease))
    · exact rewrites.holds id deadline same held

/-- What the worker goes on with: an early claim, the lease it has just taken, or the lease
it goes on holding. -/
theorem workerLeads_next (mark m' : Mark) (m n : Memory)
    (leads : workerLeads mark m n (some m')) :
    m' = .other ∨ (∃ id now, m' = .claim id now ∧ now ≤ n.clock) ∨
      (∃ now event, mark = .claim event.id now ∧ claimRow event.id now m = .ok (n, true) ∧
        m' = .complete event (now + leaseMs)) ∨
      ∃ event deadline, mark = .complete event deadline ∧ n = m ∧
        m' = .requeue event deadline := by
  cases mark with
  | other =>
      obtain ⟨-, plain | ⟨id, now, claims, early⟩⟩ := leads
      · exact .inl (plain m' rfl)
      · exact .inr (.inl ⟨id, now, Option.some.inj claims, early⟩)
  | claim id now =>
      rcases leads with ⟨-, plain⟩ | ⟨taken, event, rfl, completes⟩
      · exact .inl (plain m' rfl)
      · exact .inr (.inr (.inl ⟨now, event, rfl, taken, Option.some.inj completes⟩))
  | complete event deadline =>
      rcases leads with ⟨rfl, requeues⟩ | ⟨-, plain⟩
      · exact .inr (.inr (.inr ⟨event, deadline, rfl, rfl, Option.some.inj requeues⟩))
      · exact .inl (plain m' rfl)
  | requeue event deadline => exact .inl (leads.2 m' rfl)
  | look companyId tac => cases leads
  | replace id version holder => cases leads
  | record holder => cases leads

theorem leads_knows (mark m' : Mark) (m n : Memory) (knows : Knows mark m)
    (leads : workerLeads mark m n (some m')) : Knows m' n := by
  rcases workerLeads_next mark m' m n leads with
    rfl | ⟨id, now, rfl, early⟩ | ⟨now, event, rfl, taken, rfl⟩ | ⟨event, deadline, rfl, rfl, rfl⟩
  · exact knows_other n
  · refine ⟨fun id' now' same => ?_, fun _ _ none => (by cases none)⟩
    cases same
    exact early
  · refine ⟨fun _ _ none => (by cases none), ?_⟩
    intro id deadline lease _
    cases lease
    obtain ⟨rewrites, -, row, found, -⟩ := claimRow_rewrites _ _ _ _ taken
    exact ⟨claimed now row, by rw [rewrites.find, if_pos rfl, found]; rfl, rfl, rfl⟩
  · exact ⟨fun _ _ none => (by cases none), knows.lease⟩

theorem knows_frame (mark beside : Mark) (m n : Memory) (next : Option Mark)
    (fit : inTime m mark) (knows : Knows mark m) (knowsBeside : Knows beside m)
    (apart : LeasesApart m mark beside) (leads : workerLeads mark m n next) : Knows beside n where
  claim id now claims :=
    Nat.le_trans (knowsBeside.claim id now claims) (workerLeads_clock mark m n next leads)
  lease := holds_frame mark beside m n next fit knows knowsBeside apart leads

theorem leads_apart (mark m' beside : Mark) (m n : Memory) (knowsBeside : Knows beside m)
    (apart : LeasesApart m mark beside) (leads : workerLeads mark m n (some m')) :
    LeasesApart n m' beside := by
  have clock := workerLeads_clock mark m n (some m') leads
  intro lease first second
  by_contra lasts
  have still := Nat.le_of_not_lt lasts
  rcases workerLeads_next mark m' m n leads with
    rfl | ⟨id, now, rfl, -⟩ | ⟨now, event, rfl, taken, rfl⟩ | ⟨event, deadline, rfl, rfl, rfl⟩
  · cases first
  · cases first
  · cases first
    -- the new lease is on a row that nobody holds
    obtain ⟨-, -, row, found, ready⟩ := claimRow_rewrites _ _ _ _ taken
    have held := knowsBeside.lease event.id (now + leaseMs) second (Nat.le_trans clock still)
    rw [held.not_due found (Nat.le_add_right _ _)] at ready
    cases ready
  · cases first
    exact lasts (apart (event.id, deadline) rfl second)

def leases : Protocol Memory Mark where
  inv _ := True
  fits := inTime
  leads := workerLeads
  known := Knows
  apart := LeasesApart
  apart_symm _ _ _ apart lease first second := apart lease second first
  own m s s' _ _ _ knows leads :=
    ⟨trivial, fun m' follows => leads_knows m m' s s' knows (follows ▸ leads)⟩
  frame m s s' next beside _ fit knows knowsBeside apart leads :=
    ⟨knows_frame m beside s s' next fit knows knowsBeside apart leads,
      fun m' follows => leads_apart m m' beside s s' knowsBeside apart (follows ▸ leads)⟩
  rest m s s' next _ _ _ _ _ leads apart lease first second :=
    Nat.lt_of_lt_of_le (apart lease first second) (workerLeads_clock m s s' next leads)

theorem draining_enters (p : Request Unit) (draining : Draining p) (m : Memory) :
    leases.Enters p m := by
  have plain : ∀ mark, p.mark? = some mark → mark = .other := by
    intro mark first
    cases draining with
    | sweep pick ids => exact (Option.some.inj first).symm
    | enqueue intents => exact (Option.some.inj first).symm
    | wait ms => exact (Option.some.inj first).symm
  refine ⟨?_, ?_, ?_⟩
  · cases draining with
    | sweep pick ids => exact Prog.walks_void _ (sweep_walks pick ids)
    | enqueue intents =>
        intro m
        exact ⟨⟨enqueueTx_background intents m, .inl (fun _ none => (by cases none))⟩, trivial⟩
    | wait ms =>
        intro m
        refine ⟨⟨⟨Nat.le_add_right _ _, rfl, [], by simp, by simp⟩,
          .inl (fun _ none => (by cases none))⟩, trivial⟩
  · intro mark first
    rw [plain mark first]
    exact knows_other m
  · intro mark first beside lease _ second
    rw [plain mark first] at second
    cases second

/-- The columns learning adds to. -/
inductive Counter where
  | timesSeen
  | confirmations
  | corrections

def Counter.of (row : ProductRecognition) : Counter → Nat
  | .timesSeen => row.timesSeen
  | .confirmations => row.confirmations
  | .corrections => row.corrections

def evidence (counter : Counter) (m : Memory) : Nat :=
  m.recognitions.total counter.of

def isDone (m : Memory) (id : Id) : Prop :=
  ∃ event, m.outbox.find? id = some event ∧ event.status = .done

def doneEvents (m : Memory) : Nat :=
  m.outbox.total (fun event => if event.status = .done then 1 else 0)

/-- Every event that became done added at most one to each counter, and none came back. -/
structure CountedOnce (m m' : Memory) : Prop where
  evidence : ∀ counter, evidence counter m' + doneEvents m ≤ evidence counter m + doneEvents m'
  done : ∀ id, isDone m id → isDone m' id

theorem CountedOnce.refl (m : Memory) : CountedOnce m m :=
  ⟨fun _ => Nat.le_refl _, fun _ done => done⟩

theorem CountedOnce.trans {m m' m'' : Memory} (first : CountedOnce m m')
    (second : CountedOnce m' m'') : CountedOnce m m'' := by
  refine ⟨fun counter => ?_, fun id done => second.done id (first.done id done)⟩
  have one := first.evidence counter
  have other := second.evidence counter
  omega

theorem learn_evidence (newId companyId : Id)
    (ev : LearningEvent) (m m' : Memory) (done : learn pick newId companyId ev m = .ok m')
    (counter : Counter) : evidence counter m' ≤ evidence counter m + 1 := by
  have updated : ∀ id f keep, (∀ row, counter.of (f row) ≤ counter.of row + 1) →
      updateRecognition id f keep m = .ok m' → evidence counter m' ≤ evidence counter m + 1 := by
    intro id f keep more done
    obtain ⟨⟨row, found, -, -⟩, rfl⟩ := updateRecognition_ok id f keep m m' done
    have total := m.recognitions.total_update id f keep counter.of row found
    have own := more row
    unfold evidence
    dsimp only
    omega
  unfold learn at done
  split at done
  · obtain ⟨-, -, recognitions, inserted, rfl⟩ := insertRecognition_ok _ _ _ done
    have total := Table.total_insert _ _ _ inserted counter.of
    have one : counter.of (learned newId companyId m.clock ev) ≤ 1 := by
      cases counter with
      | timesSeen | confirmations => exact Nat.le_refl 1
      | corrections => exact Nat.zero_le 1
    unfold evidence
    dsimp only
    omega
  · split at done
    · apply updated _ _ _ ?_ done
      intro row
      cases counter with
      | timesSeen | confirmations => exact Nat.le_refl _
      | corrections => exact Nat.le_succ _
    · apply updated _ _ _ ?_ done
      intro row
      cases counter with
      | timesSeen | corrections => exact Nat.le_refl _
      | confirmations => exact Nat.le_add_left _ _

theorem Rewrites.doneEvents {id : Id} {f : OutboxEvent → OutboxEvent} {m m' : Memory}
    (rewrites : Rewrites id f m m') (event : OutboxEvent)
    (found : m.outbox.find? id = some event) :
    doneEvents m' + (if event.status = .done then 1 else 0) =
      doneEvents m + (if (f event).status = .done then 1 else 0) := by
  obtain ⟨-, ⟨keep, outbox⟩, -⟩ := rewrites
  have total := m.outbox.total_update id f keep
    (fun event => if event.status = .done then 1 else 0) event found
  unfold Scanner.doneEvents
  rw [outbox]
  exact total

theorem Rewrites.done {id : Id} {f : OutboxEvent → OutboxEvent} {m m' : Memory}
    (rewrites : Rewrites id f m m') (event : OutboxEvent)
    (found : m.outbox.find? id = some event) (status : event.status ≠ .done) (other : Id)
    (done : isDone m other) : isDone m' other := by
  obtain ⟨row, present, finished⟩ := done
  have apart : other ≠ id := by
    rintro rfl
    rw [found] at present
    cases present
    exact status finished
  exact ⟨row, by rw [rewrites.find, if_neg apart]; exact present, finished⟩

theorem Background.countedOnce {m m' : Memory} (background : Background m m') :
    CountedOnce m m' := by
  refine ⟨fun counter => ?_, ?_⟩
  · obtain ⟨-, recognitions, new, rows, pending⟩ := background
    have none_done : (new.map (fun event : OutboxEvent =>
        if event.status = .done then 1 else 0)).sum = 0 := by
      apply List.sum_eq_zero
      intro value member
      obtain ⟨event, inside, rfl⟩ := List.mem_map.mp member
      rw [pending event inside]
      rfl
    unfold evidence doneEvents Table.total
    rw [recognitions, rows, List.map_append, List.sum_append, none_done, Nat.add_zero]
  · rintro id ⟨event, found, status⟩
    exact ⟨event, background.find id event found, status⟩

theorem workerLeads_counts (mark : Mark) (m m' : Memory) (next : Option Mark)
    (fit : inTime m mark) (knows : Knows mark m) (leads : workerLeads mark m m' next) :
    CountedOnce m m' := by
  cases mark with
  | other => exact leads.1.countedOnce
  | claim id now =>
      rcases leads with ⟨rfl, -⟩ | ⟨taken, -⟩
      · exact .refl _
      · obtain ⟨rewrites, recognitions, event, found, ready⟩ := claimRow_rewrites _ _ _ _ taken
        have status : event.status ≠ .done := by
          intro finished
          simp [due, finished] at ready
        refine ⟨fun counter => ?_, rewrites.done event found status⟩
        have tally := rewrites.doneEvents event found
        rw [if_neg status, if_neg (by simp [claimed])] at tally
        unfold evidence
        rw [recognitions]
        omega
  | complete event deadline =>
      rcases leads with ⟨rfl, -⟩ | ⟨learns, -⟩
      · exact .refl _
      · obtain ⟨row, found, processing, -⟩ := knows.held fit event.id deadline rfl
        have status : row.status ≠ .done := by simp [processing]
        obtain ⟨rewrites, pick, newId, taught, learnt, recognitions⟩ := learns.rewrites
        refine ⟨fun counter => ?_, rewrites.done row found status⟩
        have tally := rewrites.doneEvents row found
        have finished : (completed m.clock row).status = .done := rfl
        rw [if_neg status, if_pos finished] at tally
        have more := learn_evidence _ _ _ _ _ _ learnt counter
        unfold evidence at more ⊢
        rw [recognitions]
        omega
  | requeue event deadline =>
      rcases leads.1 with rfl | ⟨attempts, refusal, written⟩
      · exact .refl _
      · obtain ⟨row, found, processing, -⟩ := knows.held fit event.id deadline rfl
        have status : row.status ≠ .done := by simp [processing]
        obtain ⟨rewrites, recognitions⟩ := updateEvent_rewrites _ _ _ _ _ written
        refine ⟨fun counter => ?_, rewrites.done row found status⟩
        have tally := rewrites.doneEvents row found
        have open' : (requeued m.clock attempts refusal row).status ≠ .done := by
          unfold requeued
          dsimp only
          split <;> simp
        rw [if_neg status, if_neg open'] at tally
        unfold evidence
        rw [recognitions]
        omega
  | look companyId tac => cases leads
  | replace id version holder => cases leads
  | record holder => cases leads

/-- In a run where every completion and failure update comes within its lease, or before
the row is taken over, from any state on: each event is counted at most once, and what is
done stays done. -/
theorem learning_counted_once (m : Memory) (c c' : Config Memory Mark Refusal Unit)
    (before : FittingRun Draining inTime (.idle m) c) (later : FittingRun Draining inTime c c') :
    CountedOnce c.store c'.store := by
  have enters : ∀ p, Draining p → ∀ s, leases.inv s → leases.Enters p s :=
    fun p draining s _ => draining_enters p draining s
  induction later with
  | refl => exact .refl _
  | @tail c₁ c₂ between last ih =>
      have sound := leases.run_sound Draining _ _ enters (before.trans between)
        (leases.sound_idle m trivial)
      apply ih.trans
      cases last with
      | arrive s inFlight p issued => exact .refl s
      | advance s earlier others mark write next fit =>
          obtain ⟨knows, leads⟩ := sound.taken
          exact workerLeads_counts mark s (write s) _ fit knows leads

/-- The first worker claims the event and stalls; a second takes it over after the lease
and completes it; then the first one goes on. -/
def takenOver : List (Move Memory Mark Refusal Unit) :=
  [.arrive (sweep .oldest id).void, .advance 0, .advance 0, .advance 0,
    .arrive (wait 60001), .advance 1] ++
  [.arrive (sweep .oldest id).void, .advance 2, .advance 2, .advance 2, .advance 2] ++
  [.advance 0]

theorem late_worker_counts_twice : ¬ ∀ (m : Memory) (c : Config Memory Mark Refusal Unit),
    Run Draining anyOrder (.idle m) c → CountedOnce m c.store := by
  intro claim
  have run := schedule_run Draining anyOrder (Config.idle remembered) takenOver (by
    intro p member
    simp only [takenOver, List.mem_append, List.mem_cons, List.not_mem_nil, Move.arrive.injEq,
      reduceCtorEq, or_false, false_or] at member
    rcases member with (rfl | rfl) | rfl
    · exact .sweep _ _
    · exact .wait _
    · exact .sweep _ _) (admits_anyOrder _ _)
  have counted := (claim remembered _ run).evidence .timesSeen
  have twice : evidence .timesSeen ((Config.idle remembered).schedule takenOver).store = 3 := by
    decide
  have once : doneEvents ((Config.idle remembered).schedule takenOver).store = 1 := by decide
  have before : evidence .timesSeen remembered = 1 := by decide
  rw [twice, once, before] at counted
  omega

/-- Two sweeps, the second after the lease of the first, both in time. -/
def twoSweeps : List (Move Memory Mark Refusal Unit) :=
  [.arrive (sweep .oldest id).void, .advance 0, .advance 0, .advance 0, .advance 0,
    .arrive (wait 60001), .advance 1] ++
  [.arrive (sweep .oldest id).void, .advance 2]

theorem learning_counted_once_sweeps :
    CountedOnce remembered ((Config.idle remembered).schedule twoSweeps).store := by
  have run := fitting_schedule Draining inTime (Config.idle remembered) twoSweeps (by
    intro p member
    simp only [twoSweeps, List.mem_append, List.mem_cons, List.not_mem_nil, Move.arrive.injEq,
      reduceCtorEq, or_false, false_or] at member
    rcases member with (rfl | rfl) | rfl
    · exact .sweep _ _
    · exact .wait _
    · exact .sweep _ _) (by decide)
  exact learning_counted_once remembered (.idle remembered) _ .refl run

end ErpBackend.Scanner
