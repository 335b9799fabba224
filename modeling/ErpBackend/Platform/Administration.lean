import ErpBackend.Platform.Subscriptions

/-!
# Undoing and repeating a decision

The position of a subscription is one column that every call overwrites. A suspension is
undone where the dates decided before it, a stop is lifted by the calls that are there to
lift it as long as no extension passes it over, and a call that is sent again is told by
the version it expects or by what it left.
-/

namespace ErpBackend.Subscriptions

open Foundation

inductive Call where
  | activateByGrant (input : GrantInput)
  | extend (input : ExtendInput)
  | suspend (input : ReasonInput)
  | reinstate (input : ReinstateInput)
  | cancel (input : ReasonInput)

def Call.request (companyId : Id) (ctx : Ctx) : Call → Request Outcome
  | .activateByGrant input => Subscriptions.activateByGrant companyId input ctx
  | .extend input => Subscriptions.extend companyId input ctx
  | .suspend input => Subscriptions.suspend companyId input ctx
  | .reinstate input => Subscriptions.reinstate companyId input ctx
  | .cancel input => Subscriptions.cancel companyId input ctx

def Call.Valid : Call → Prop
  | .activateByGrant input => 
      (1 ≤ input.days ∧ input.days ≤ 3650) ∧ blank (some input.reason) = false
  | .extend input => 1 ≤ input.months ∧ input.months ≤ 60
  | .suspend input => blank (some input.reason) = false
  | .reinstate _ => True
  | .cancel input => blank (some input.reason) = false

def Call.Skips (now : Time) (before : Subscription) : Call → Prop
  | .activateByGrant input => AlreadyDone before (input.until now)
  | .extend _ => False
  | .suspend _ => before.status = .suspended
  | .reinstate _ => before.status ≠ .suspended
  | .cancel _ => before.status = .cancelled

def Call.expectedVersion : Call → Option Nat
  | .activateByGrant input => input.expectedVersion
  | .extend input => input.expectedVersion
  | .suspend input => input.expectedVersion
  | .reinstate input => input.expectedVersion
  | .cancel input => input.expectedVersion

def Call.data (now : Time) (before : Subscription) : Call → Data
  | .activateByGrant input => .grant (slice255 input.reason) (input.until now)
  | .extend input => .extend (setMonth (extendFrom before now) input.months.toNat)
  | .suspend _ => .suspend
  | .reinstate _ => .reinstate
  | .cancel _ => .cancel

def Call.Writes (now : Time) (before : Subscription) (call : Call) : Prop :=
  call.Valid ∧ ¬call.Skips now before ∧ Current call.expectedVersion before

def Leaves (companyId : Id) (row after : Subscription) (skips writes : Prop) (s' : Store)
    (result : Except Refusal Outcome) : Prop :=
  (writes ∧ findSubscription companyId s' = some after) ∨
    (¬writes ∧ findSubscription companyId s' = some row ∧ ∀ outcome, result = .ok outcome → skips)

def Spares {α : Type} (p : Request α) : Prop :=
  ∀ s, Prog.Ensures p (fun s' _ => s'.subscriptions = s.subscriptions) s

theorem createEvent_ok (row : SubscriptionEvent) (s s' : Store)
    (done : createEvent row s = .ok s') :
    s'.subscriptions = s.subscriptions := by
  unfold createEvent at done
  split at done
  · cases done
  · cases done
    rfl

variable (companyId : Id)

variable (expectedVersion : Option Nat)

theorem transition_ok (data : Data) (s s' : Store)
    (after : Subscription)
    (done : transition companyId expectedVersion data s = .ok (s', after)) :
    ∃ row, findSubscription companyId s = some row ∧ Current expectedVersion row ∧
      after = data.written row ∧
      s' = { s with
        subscriptions :=
          s.subscriptions.update companyId data.written data.written_companyId } := by
  unfold transition at done
  split at done
  · cases done
  · next row found =>
    split at done
    · next current =>
      cases done
      exact ⟨row, found, current, rfl, rfl⟩
    · cases done

theorem transition_error (data : Data) (s : Store)
    (e : Refusal) (row : Subscription) (found : findSubscription companyId s = some row)
    (failed : transition companyId expectedVersion data s = .error e) :
    ¬Current expectedVersion row := by
  intro current
  simp [transition, found, current] at failed

theorem find_transition (data : Data) (s : Store) (row : Subscription)
    (found : findSubscription companyId s = some row) (other : Id) (kept : Subscription)
    (present : findSubscription other s = some kept) :
    findSubscription other { s with
      subscriptions := s.subscriptions.update companyId data.written data.written_companyId } =
      some (if other = companyId then data.written row else kept) := by
  have updated := Table.find?_update_of_found s.subscriptions companyId data.written
    data.written_companyId other kept present
  simp only [findSubscription, updated]
  split
  · next same =>
    rw [same, found] at present
    cases present
    rfl
  · rfl

theorem apply_leaves (data : Data) (ctx : Ctx)
    (before : Subscription) (kind : SubscriptionEventKind) (note : Option String) (s : Store)
    (row : Subscription) (found : findSubscription companyId s = some row)
    (f : Subscription → Request Outcome) (spares : ∀ after, Spares (f after)) :
    Prog.Ensures (apply companyId expectedVersion data ctx before kind note >>= f)
      (Leaves companyId row (data.written row) False (Current expectedVersion row)) s := by
  simp only [apply, Prog.bind_assoc, Prog.pure_bind, Prog.ensures_transact, Prog.ensures_commit]
  constructor
  · intro s' after done
    obtain ⟨row', found', current, rfl, rfl⟩ :=
      transition_ok companyId expectedVersion data s s' after done
    rw [found] at found'
    cases found'
    have written := find_transition companyId data s row found companyId row found
    rw [if_pos rfl] at written
    constructor
    · intro s'' created
      refine Prog.ensures_mono (spares _ s'') ?_
      intro last result same
      left
      rw [createEvent_ok _ _ _ created] at same
      exact ⟨current, by rw [← written]; simp only [findSubscription, same]⟩
    · exact fun e _ => .inl ⟨current, written⟩
  · intro e failed
    exact .inr ⟨transition_error companyId expectedVersion data s e row found failed,
      found, by simp⟩

theorem spares_pure {α : Type} (a : α) : Spares (pure a : Request α) := fun _ => rfl

theorem spares_focus {α β : Type} (p : Prog Billing.Store Billing.Mark Refusal α)
    (f : α → Request β) (spares : ∀ a, Spares (f a)) :
    Spares (p.focus Store.billing (fun s billing => { s with billing })
      (fun _ => .other) >>= f) := by
  intro s
  have ran := Prog.focus_run Store.billing (fun s billing => { s with billing })
    (fun _ => Mark.other) (fun _ _ => rfl) (fun _ _ _ => rfl) (fun _ => rfl) p s
  refine (Prog.ensures_bind _ _ _ _).mpr ?_
  unfold Prog.Ensures
  rw [ran]
  dsimp only
  split
  · next a _ => exact spares a _
  · rfl

theorem load_leaves (s : Store) (row : Subscription)
    (found : findSubscription companyId s = some row) (f : Subscription → Request Outcome)
    (post : Store → Except Refusal Outcome → Prop) (rest : Prog.Ensures (f row) post s) :
    Prog.Ensures (loadOrThrow companyId >>= f) post s := by
  simp only [loadOrThrow, Prog.bind_assoc, Prog.ensures_read, Prog.ensures_expect, found]
  constructor
  · rintro a ⟨⟩
    exact rest
  · simp

theorem invalid_leaves {companyId : Id} {s : Store} {row after : Subscription}
    (found : findSubscription companyId s = some row) {skips writes : Prop} (e : Refusal)
    (refused : ¬writes) : Leaves companyId row after skips writes s (.error e) :=
  .inr ⟨refused, found, by simp⟩

theorem decided_leaves (data : Data) (ctx : Ctx)
    (kind : SubscriptionEventKind) (note : Option String) (s : Store) (row : Subscription)
    (found : findSubscription companyId s = some row)
    (f : Subscription → Request Outcome) (spares : ∀ after, Spares (f after))
    (skips : Prop) [Decidable skips] (valid : Prop) (holds : valid) :
    Prog.Ensures
      (if skips then pure ⟨row, false⟩
        else apply companyId expectedVersion data ctx row kind note >>= f)
      (Leaves companyId row (data.written row) (valid ∧ skips)
        (valid ∧ ¬skips ∧ Current expectedVersion row)) s := by
  split
  · next skip => exact .inr ⟨fun writes => writes.2.1 skip, found, fun _ _ => ⟨holds, skip⟩⟩
  · next goes =>
    refine Prog.ensures_mono
      (apply_leaves companyId expectedVersion data ctx row kind note s row found f spares) ?_
    rintro s' result (⟨current, written⟩ | ⟨stale, left, answered⟩)
    · exact .inl ⟨⟨holds, goes, current⟩, written⟩
    · exact .inr ⟨fun writes => stale writes.2.2, left, fun outcome same =>
        (answered outcome same).elim⟩

theorem call_leaves (ctx : Ctx) (call : Call) (s : Store) (row : Subscription)
    (found : findSubscription companyId s = some row) :
    Prog.Ensures (call.request companyId ctx)
      (Leaves companyId row ((call.data ctx.now row).written row) (call.Valid ∧
        call.Skips ctx.now row)
        (call.Writes ctx.now row)) s := by
  cases call with
  | activateByGrant input =>
      simp only [Call.request, activateByGrant, Prog.ensures_require]
      refine ⟨fun days => ⟨fun reason => ?_, ?_⟩, ?_⟩
      · apply load_leaves companyId s row found
        exact decided_leaves companyId input.expectedVersion _ ctx _ _ s row found _
          (fun after => spares_focus _ _ (fun _ => spares_pure _)) _ _ ⟨days, reason⟩
      · exact fun blank => invalid_leaves found _ (fun writes => blank writes.1.2)
      · exact fun days => invalid_leaves found _ (fun writes => days writes.1.1)
  | extend input =>
      simp only [Call.request, extend, Prog.ensures_require]
      constructor
      · intro months
        apply load_leaves companyId s row found
        have decided := decided_leaves companyId input.expectedVersion
          (.extend (setMonth (extendFrom row ctx.now) input.months.toNat)) ctx .extended
          (input.reason.map slice255) s row found (fun after => pure ⟨after, true⟩)
          (fun _ => spares_pure _) False _ months
        rwa [if_neg not_false] at decided
      · exact fun months => invalid_leaves found _ (fun writes => months writes.1)
  | suspend input =>
      simp only [Call.request, suspend, Prog.ensures_require]
      constructor
      · intro reason
        apply load_leaves companyId s row found
        exact decided_leaves companyId input.expectedVersion _ ctx _ _ s row found _
          (fun _ => spares_pure _) _ _ reason
      · exact fun blank => invalid_leaves found _ (fun writes => blank writes.1)
  | reinstate input =>
      apply load_leaves companyId s row found
      exact decided_leaves companyId input.expectedVersion _ ctx _ _ s row found _
        (fun _ => spares_pure _) _ _ trivial
  | cancel input =>
      simp only [Call.request, cancel, Prog.ensures_require]
      constructor
      · intro reason
        apply load_leaves companyId s row found
        exact decided_leaves companyId input.expectedVersion _ ctx _ _ s row found _
          (fun _ => spares_pure _) _ _ reason
      · exact fun blank => invalid_leaves found _ (fun writes => blank writes.1)

theorem byDates_open (row : Subscription) (now : Time) :
    byDates row now ≠ .cancelled ∧ byDates row now ≠ .suspended ∧ byDates row now ≠ .pending := by
  unfold byDates
  split
  · simp
  · split
    · simp
    · split
      · simp
      · split
        · simp
        · simp

theorem stateOf_byDates (row : Subscription) :
    (∀ now, byDates row now = stateOf row now) ↔ row.status = .activated := by
  obtain ⟨notCancelled, notSuspended, notPending⟩ := byDates_open row 0
  constructor
  · intro same
    have now := same 0
    cases status : row.status with
    | activated => rfl
    | pendingActivation => exact absurd (now.trans (by simp [stateOf, status])) notPending
    | suspended => exact absurd (now.trans (by simp [stateOf, status])) notSuspended
    | cancelled => exact absurd (now.trans (by simp [stateOf, status])) notCancelled
  · intro status now
    simp [stateOf, status]

theorem suspend_answered (input : ReasonInput) (ctx : Ctx) (s : Store)
    (row : Subscription) (found : findSubscription companyId s = some row)
    (answered : ∃ outcome, ((suspend companyId input ctx).run s).2 = .ok outcome) :
    ∃ row', findSubscription companyId ((suspend companyId input ctx).run s).1 = some row' ∧
      row'.status = .suspended ∧ ∀ now, byDates row' now = byDates row now := by
  obtain ⟨outcome, answer⟩ := answered
  rcases call_leaves companyId ctx (.suspend input) s row found with
    ⟨-, written⟩ | ⟨-, left, skipped⟩
  · exact ⟨_, written, rfl, fun _ => rfl⟩
  · exact ⟨row, left, (skipped outcome answer).2, fun _ => rfl⟩

theorem reinstate_answered (input : ReinstateInput) (ctx : Ctx) (s : Store)
    (row : Subscription) (found : findSubscription companyId s = some row)
    (suspended : row.status = .suspended)
    (answered : ∃ outcome, ((reinstate companyId input ctx).run s).2 = .ok outcome) :
    ∃ row', findSubscription companyId ((reinstate companyId input ctx).run s).1 = some row' ∧
      ∀ now, stateOf row' now = byDates row now := by
  obtain ⟨outcome, answer⟩ := answered
  rcases call_leaves companyId ctx (.reinstate input) s row found with
    ⟨-, written⟩ | ⟨-, -, skipped⟩
  · exact ⟨_, written, fun _ => rfl⟩
  · exact absurd suspended (skipped outcome answer).2

/-- Sent again at `later`, the call finds that it is done. -/
def Call.Settled (now later : Time) : Call → Prop
  | .activateByGrant input =>
      input.expectedVersion ≠ none ∨ (later < now + 60000 ∧ now < later + 60000)
  | .extend input => input.expectedVersion ≠ none
  | _ => True

theorem not_current (version : Option Nat) (row after : Subscription)
    (current : Current version row)
    (more : after.version = row.version + 1) : Current version after ↔ version = none := by
  cases version with
  | none => simp [Current]
  | some expected =>
      have own : row.version = expected := current expected rfl
      simp [Current]
      omega

theorem skips_written (now later : Time) (call : Call) (row : Subscription)
    (writes : call.Writes now row) :
    ¬call.Writes later ((call.data now row).written row) ↔ call.Settled now later := by
  obtain ⟨valid, -, current⟩ := writes
  have stale := not_current call.expectedVersion row ((call.data now row).written row) current rfl
  simp only [Call.Writes, stale]
  cases call with
  | activateByGrant input =>
      have close : AlreadyDone ((Call.data now row (.activateByGrant input)).written row)
          (input.until later) ↔ (later < now + 60000 ∧ now < later + 60000) := by
        simp [AlreadyDone, Call.data, Data.written, Data.set, GrantInput.until,
          Nat.add_right_comm _ _ 60000]
        exact And.comm
      simp only [Call.Skips, close, Call.Settled, Call.expectedVersion]
      tauto
  | extend input =>
      simp only [Call.Skips, Call.Settled, Call.expectedVersion]
      tauto
  | suspend input => simp [Call.Skips, Call.Settled, Call.data, Data.written, Data.set]
  | reinstate input => simp [Call.Skips, Call.Settled, Call.data, Data.written, Data.set]
  | cancel input => simp [Call.Skips, Call.Settled, Call.data, Data.written, Data.set]

theorem written_ne (data : Data) (row : Subscription) : data.written row ≠ row := by
  intro same
  have version := congrArg Subscription.version same
  simp at version

theorem repeated_once (call : Call) (ctx ctx' : Ctx) (s : Store)
    (row : Subscription) (found : findSubscription companyId s = some row)
    (changed : findSubscription companyId ((call.request companyId ctx).run s).1 ≠ some row) :
    findSubscription companyId
        ((call.request companyId ctx').run ((call.request companyId ctx).run s).1).1 =
      findSubscription companyId ((call.request companyId ctx).run s).1 ↔
      call.Settled ctx.now ctx'.now := by
  rcases call_leaves companyId ctx call s row found with ⟨writes, written⟩ | ⟨-, left, -⟩
  · rw [← skips_written ctx.now ctx'.now call row writes, written]
    rcases call_leaves companyId ctx' call _ _ written with ⟨again, twice⟩ | ⟨still, once, -⟩
    · rw [twice]
      simp [again, written_ne]
    · rw [once]
      simp [still]
  · exact absurd left changed

inductive Issued : Request Unit → Prop
  | administer (companyId : Id) (ctx : Ctx) (call : Call) :
      Issued (call.request companyId ctx).void
  | register (companyId : Id) (ctx : Ctx) : Issued (register companyId ctx)
  | provision (companyId : Id) (dto : ProvisionDto) (ctx : Ctx) :
      Issued (provision companyId dto ctx).void

/-- A cancellation ends, or a suspension ends in anything but a cancellation. -/
def Lifts (row row' : Subscription) : Prop :=
  (row.status = .cancelled ∧ row'.status ≠ .cancelled) ∨
    (row.status = .suspended ∧ row'.status ≠ .suspended ∧ row'.status ≠ .cancelled)

def Lifted (s s' : Store) : Prop :=
  ∃ companyId row row', findSubscription companyId s = some row ∧
    findSubscription companyId s' = some row' ∧ Lifts row row'

def Restores : Mark → Prop
  | .transition _ _ (.grant _ _) => True
  | .transition _ _ .reinstate => True
  | _ => False

/-- An extension passes over a stop, or a suspension over a cancellation. -/
def Overrides (s : Store) : Mark → Prop
  | .transition companyId expectedVersion (.extend _) =>
      ∃ row ∈ findSubscription companyId s, Current expectedVersion row ∧
        (row.status = .suspended ∨ row.status = .cancelled)
  | .transition companyId expectedVersion .suspend =>
      ∃ row ∈ findSubscription companyId s, Current expectedVersion row ∧ row.status = .cancelled
  | _ => False

def Stays (s s' : Store) : Prop :=
  ∀ companyId row, findSubscription companyId s = some row →
    ∃ row', findSubscription companyId s' = some row' ∧ row'.status = row.status

def leads : Mark → Store → Store → Option Mark → Prop
  | .other, s, s', _ => Stays s s'
  | .transition companyId expectedVersion data, s, s', _ =>
      (∃ after, transition companyId expectedVersion data s = .ok (s', after)) ∨
        (s' = s ∧ ∃ e, transition companyId expectedVersion data s = .error e)

theorem Stays.of_same {s s' : Store} (same : s'.subscriptions = s.subscriptions) : Stays s s' := by
  intro companyId row found
  exact ⟨row, by simpa only [findSubscription, same] using found, rfl⟩

theorem Stays.not_lifted {s s' : Store} (stays : Stays s s') : ¬Lifted s s' := by
  rintro ⟨companyId, row, row', found, found', lifts⟩
  obtain ⟨kept, present, same⟩ := stays companyId row found
  rw [present] at found'
  cases found'
  rcases lifts with ⟨cancelled, not⟩ | ⟨suspended, not, -⟩
  · exact not (same.trans cancelled)
  · exact not (same.trans suspended)

theorem transition_lifts (data : Data)
    (s s' : Store) (after : Subscription)
    (done : transition companyId expectedVersion data s = .ok (s', after)) :
    Lifted s s' ↔ ∃ row ∈ findSubscription companyId s, Lifts row (data.written row) := by
  obtain ⟨row, found, -, -, rfl⟩ := transition_ok companyId expectedVersion data s s' after done
  constructor
  · rintro ⟨other, kept, kept', present, present', lifts⟩
    rw [find_transition companyId data s row found other kept present] at present'
    cases present'
    split at lifts
    · next same =>
      rw [same, found] at present
      cases present
      exact ⟨row, found, lifts⟩
    · rcases lifts with ⟨cancelled, not⟩ | ⟨suspended, not, -⟩
      · exact absurd cancelled not
      · exact absurd suspended not
  · rintro ⟨row', found', lifts⟩
    rw [found] at found'
    cases found'
    have written := find_transition companyId data s row found companyId row found
    rw [if_pos rfl] at written
    exact ⟨companyId, row, _, found, written, lifts⟩

theorem step_lifts (m : Mark) (s s' : Store) (next : Option Mark) (led : leads m s s' next) :
    (Lifted s s' → Restores m) ↔ ¬Overrides s m := by
  cases m with
  | other =>
      have none := Stays.not_lifted led
      simp [none, Overrides]
  | transition companyId expectedVersion data =>
      rcases led with ⟨after, done⟩ | ⟨rfl, e, failed⟩
      · obtain ⟨row, found, current, -, -⟩ := transition_ok _ _ _ _ _ _ done
        rw [transition_lifts _ _ _ _ _ _ done]
        cases data with
        | grant reason ends => simp [Restores, Overrides]
        | reinstate => simp [Restores, Overrides]
        | extend ends =>
            simp [Restores, Overrides, found, current, Lifts, Data.written, Data.set]
            tauto
        | suspend => simp [Restores, Overrides, found, current, Lifts, Data.written, Data.set]
        | cancel => simp [Restores, Overrides, found, Lifts, Data.written, Data.set]
      · have same : ¬Lifted s' s' :=
          Stays.not_lifted (fun _ row found => ⟨row, found, rfl⟩)
        have stale : ∀ row, findSubscription companyId s' = some row →
          ¬Current expectedVersion row :=
          fun row found => transition_error _ _ _ _ e row found failed
        simp only [same, false_implies, true_iff]
        cases data with
        | extend ends =>
            rintro ⟨row, found, current, -⟩
            exact stale row found current
        | suspend =>
            rintro ⟨row, found, current, -⟩
            exact stale row found current
        | grant reason ends => exact not_false
        | reinstate => exact not_false
        | cancel => exact not_false

/-- Every step is in `leads`. -/
abbrev Led {α : Type} (p : Request α) : Prop := p.Onward leads (fun _ => True)

theorem load_led {α : Type} (companyId : Id) (f : Subscription → Request α)
    (rest : ∀ row, Led (f row)) :
    Led (loadOrThrow companyId >>= f) := by
  simp only [loadOrThrow, Prog.bind_assoc]
  apply Prog.onward_read
  · trivial
  · exact fun s _ _ => .of_same rfl
  · exact fun found => Prog.onward_expect _ _ _ (fun row _ => rest row)

theorem create_led {α : Type} (row : SubscriptionEvent) (f : Unit → Request α) (rest : Led (f ())) :
    Led (.commit .other (createEvent row) >>= f) := by
  apply Prog.onward_commit
  · trivial
  · exact fun s s' _ done _ => .of_same (createEvent_ok row s s' done)
  · exact fun s _ _ => .of_same rfl
  · exact rest

theorem apply_led {α : Type} (companyId : Id) (expectedVersion : Option Nat) (data : Data)
    (ctx : Ctx)
    (before : Subscription) (kind : SubscriptionEventKind) (note : Option String)
    (f : Subscription → Request α) (rest : ∀ after, Led (f after)) :
    Led (apply companyId expectedVersion data ctx before kind note >>= f) := by
  simp only [apply, Prog.bind_assoc]
  apply Prog.onward_transact
  · trivial
  · exact fun s s' after _ done _ => .inl ⟨after, done⟩
  · exact fun s e failed => .inr ⟨rfl, e, failed⟩
  · exact fun after => create_led _ _ (rest after)

theorem outcome_led (outcome : Outcome) : Led (pure outcome) := Prog.onward_done _

theorem call_led (ctx : Ctx) (call : Call) : Led (call.request companyId ctx) := by
  cases call with
  | activateByGrant input =>
      apply Prog.onward_require
      intro _
      apply Prog.onward_require
      intro _
      apply load_led
      intro before
      dsimp only
      split
      · exact outcome_led _
      · apply apply_led
        intro after
        refine Prog.onward_focus _ _ _ _ _ ?_ ?_ (Prog.walks_any _) ?_
        · exact fun _ => trivial
        · exact fun _ _ _ _ _ _ _ => .of_same rfl
        · exact fun _ => outcome_led _
  | extend input =>
      apply Prog.onward_require
      intro _
      apply load_led
      intro before
      apply apply_led
      exact fun _ => outcome_led _
  | suspend input =>
      apply Prog.onward_require
      intro _
      apply load_led
      intro before
      split
      · exact outcome_led _
      · exact apply_led _ _ _ _ _ _ _ _ (fun _ => outcome_led _)
  | reinstate input =>
      apply load_led
      intro before
      split
      · exact outcome_led _
      · exact apply_led _ _ _ _ _ _ _ _ (fun _ => outcome_led _)
  | cancel input =>
      apply Prog.onward_require
      intro _
      apply load_led
      intro before
      split
      · exact outcome_led _
      · exact apply_led _ _ _ _ _ _ _ _ (fun _ => outcome_led _)

theorem registered_stays (ctx : Ctx) (s s' : Store)
    (done : registered companyId ctx s = .ok s') : Stays s s' := by
  unfold registered at done
  dsimp only at done
  split at done
  · cases done
  · next subscriptions inserted =>
    have same := createEvent_ok _ _ _ done
    intro other row found
    have kept := Table.find?_insert_of_found _ _ _ inserted other row found
    exact ⟨row, by simpa only [findSubscription, same] using kept, rfl⟩

theorem provisioned_stays (dto : ProvisionDto) (existing : Subscription) (now : Time) (s s' : Store)
    (after : Subscription) (done : provisioned dto existing now s = .ok (s', after)) :
    Stays s s' := by
  unfold provisioned at done
  split at done
  · cases done
  · split at done
    · cases done
      intro other row found
      have updated := Table.find?_update_of_found s.subscriptions existing.companyId
        (dto.set existing now) (dto.set_companyId existing now) other row found
      refine ⟨_, updated, ?_⟩
      split
      · rfl
      · rfl
    · cases done

theorem issued_led (p : Request Unit) (issued : Issued p) : Led p := by
  cases issued with
  | administer companyId ctx call => exact Prog.onward_map _ _ (call_led companyId ctx call)
  | register companyId ctx =>
      have same : Subscriptions.register companyId ctx =
          (Subscriptions.register companyId ctx >>= fun _ => pure ()) := (Prog.bind_pure _).symm
      rw [same]
      apply Prog.onward_commit
      · trivial
      · exact fun s s' _ done _ => registered_stays companyId ctx s s' done
      · exact fun s _ _ => .of_same rfl
      · exact Prog.onward_done _
  | provision companyId dto ctx =>
      apply Prog.onward_map
      apply Prog.onward_read
      · trivial
      · exact fun s _ _ => .of_same rfl
      · intro found
        apply Prog.onward_expect
        intro existing _
        apply Prog.onward_require
        intro _
        apply Prog.onward_require
        intro _
        apply Prog.onward_transact
        · trivial
        · exact fun s s' after _ done _ => provisioned_stays dto existing ctx.now s s' after done
        · exact fun s _ _ => .of_same rfl
        · exact fun after => create_led _ _ (Prog.onward_done _)

def writing : Protocol Store Mark where
  inv _ := True
  fits _ _ := True
  leads := leads
  known _ _ := True
  apart _ _ _ := True
  apart_symm _ _ _ _ := trivial
  own _ _ _ _ _ _ _ _ := ⟨trivial, fun _ _ => trivial⟩
  frame _ _ _ _ _ _ _ _ _ _ _ := ⟨trivial, fun _ _ => trivial⟩
  rest _ _ _ _ _ _ _ _ _ _ _ := trivial

theorem issued_enters (p : Request Unit) (issued : Issued p) (s : Store) : writing.Enters p s :=
  ⟨(issued_led p issued).1, fun _ _ => trivial, fun _ _ _ => trivial⟩

theorem run_lifts (s : Store) (c : Config Store Mark Refusal Unit)
    (run : FittingRun Issued (fun _ _ => True) (.idle s) c) (index : Nat) (m : Mark)
    (pending : c.inFlight[index]?.bind Prog.mark? = some m) :
    (Lifted c.store (c.move (.advance index)).store → Restores m) ↔ ¬Overrides c.store m := by
  have sound := writing.run_sound Issued _ c (fun p issued s _ => issued_enters p issued s) run
    (writing.sound_idle s trivial)
  obtain ⟨-, next, led⟩ := sound.moved writing index m pending
  exact step_lifts m c.store _ next led

theorem decisions_stand (s : Store) (companyId : Id) (row : Subscription)
    (found : findSubscription companyId s = some row) :
    (∀ (input : ReasonInput) (back : ReinstateInput) (ctx ctx' : Ctx),
      (∃ outcome, ((suspend companyId input ctx).run s).2 = .ok outcome) →
      (∃ outcome, ((reinstate companyId back ctx').run
        ((suspend companyId input ctx).run s).1).2 = .ok outcome) →
      ((∀ now, (findSubscription companyId ((reinstate companyId back ctx').run
        ((suspend companyId input ctx).run s).1).1).map (fun row' => stateOf row' now) =
          some (stateOf row now)) ↔ row.status = .activated)) ∧
    (∀ c, FittingRun Issued (fun _ _ => True) (.idle s) c → ∀ (index : Nat) (m : Mark),
      c.inFlight[index]?.bind Prog.mark? = some m →
      ((Lifted c.store (c.move (.advance index)).store → Restores m) ↔ ¬Overrides c.store m)) ∧
    (∀ (call : Call) (ctx ctx' : Ctx),
      findSubscription companyId ((call.request companyId ctx).run s).1 ≠ some row →
      (findSubscription companyId
          ((call.request companyId ctx').run ((call.request companyId ctx).run s).1).1 =
        findSubscription companyId ((call.request companyId ctx).run s).1 ↔
        call.Settled ctx.now ctx'.now)) := by
  refine ⟨?_, fun c run index m pending => run_lifts s c run index m pending,
    fun call ctx ctx' changed => repeated_once companyId call ctx ctx' s row found changed⟩
  intro input back ctx ctx' stopped restarted
  obtain ⟨row₁, found₁, suspended, dates₁⟩ :=
    suspend_answered companyId input ctx s row found stopped
  obtain ⟨row₂, found₂, dates₂⟩ :=
    reinstate_answered companyId back ctx' _ row₁ found₁ suspended restarted
  rw [← stateOf_byDates row, found₂]
  simp only [Option.map_some, Option.some.injEq, dates₂, dates₁]

def unopened : Store where
  subscriptions := .empty
  events := .empty
  billing := ⟨.empty, [], .empty, .empty, .empty⟩

def clerk (key : Id) : Ctx := ⟨"clerk@platform", 1769817600000, key, key⟩

def extendByOne (key : Id) : Request Unit := (extend 1 { months := 1 } (clerk key)).void

def pause (key : Id) : Request Unit := (suspend 1 { reason := "Unpaid" } (clerk key)).void

def registration : List (Move Store Mark Refusal Unit) :=
  [.arrive (register 1 (clerk 1)), .advance 0]

def extension : List (Move Store Mark Refusal Unit) :=
  registration ++ [.arrive (pause 2), .advance 1, .advance 1, .advance 1, .arrive (extendByOne 3),
    .advance 2]

theorem extension_issued : ∀ p, .arrive p ∈ extension → Issued p := by
  intro p member
  simp only [extension, registration, List.cons_append, List.nil_append, List.mem_cons,
    List.not_mem_nil, Move.arrive.injEq, reduceCtorEq, or_false, false_or] at member
  rcases member with rfl | rfl | rfl
  · exact .register 1 (clerk 1)
  · exact .administer 1 (clerk 2) (.suspend { reason := "Unpaid" })
  · exact .administer 1 (clerk 3) (.extend { months := 1 })

theorem extension_run (moves : List (Move Store Mark Refusal Unit)) (within : moves ⊆ extension) :
    FittingRun Issued (fun _ _ => True) (.idle unopened)
    ((Config.idle unopened).schedule moves) := by
  apply fitting_schedule
  · exact fun p member => extension_issued p (within member)
  · exact fits_any _ _

def registeredRow : Subscription := ⟨1, 1, .pendingActivation, 1, 0, none, false, none, none, 0⟩

def pausedRow : Subscription := { registeredRow with status := .suspended, version := 1 }

/-- Suspended and reinstated it is expired instead of pending; an extension activates it while
it is suspended; and an extension sent twice runs for two months. -/
theorem decisions_overridden :
    (¬ ∀ c, FittingRun Issued (fun _ _ => True) (.idle unopened) c → ∀ companyId row,
      findSubscription companyId c.store = some row → ∀ input back ctx ctx',
        (∃ outcome, ((suspend companyId input ctx).run c.store).2 = .ok outcome) →
        (∃ outcome, ((reinstate companyId back ctx').run
          ((suspend companyId input ctx).run c.store).1).2 = .ok outcome) →
        ∀ now, (findSubscription companyId ((reinstate companyId back ctx').run
          ((suspend companyId input ctx).run c.store).1).1).map (fun row' => stateOf row' now) =
            some (stateOf row now)) ∧
    (¬ ∀ c, FittingRun Issued (fun _ _ => True) (.idle unopened) c → ∀ (index : Nat) (m : Mark),
      c.inFlight[index]?.bind Prog.mark? = some m →
        Lifted c.store (c.move (.advance index)).store → Restores m) ∧
    (¬ ∀ c, FittingRun Issued (fun _ _ => True) (.idle unopened) c → ∀ companyId call ctx ctx',
      findSubscription companyId ((Call.request companyId ctx call).run c.store).1 ≠
          findSubscription companyId c.store →
        findSubscription companyId ((call.request companyId ctx').run
          ((call.request companyId ctx).run c.store).1).1 =
            findSubscription companyId ((call.request companyId ctx).run c.store).1) := by
  have begun := extension_run registration (List.subset_append_left _ _)
  refine ⟨fun claim => ?_, fun claim => ?_, fun claim => ?_⟩
  · have same := claim _ begun 1 registeredRow rfl { reason := "Unpaid" } {} (clerk 2) (clerk 3)
      ⟨_, rfl⟩ ⟨_, rfl⟩ 0
    exact absurd same (by decide +kernel)
  · exact claim _ (extension_run extension (List.Subset.refl _)) 2
      (.transition 1 none (.extend 1772496000000)) rfl
      ⟨1, pausedRow, (Data.extend 1772496000000).written pausedRow, rfl, rfl,
        .inr ⟨rfl, by decide, by decide⟩⟩
  · have same := claim _ begun 1 (.extend { months := 1 }) (clerk 2) (clerk 3) (by decide +kernel)
    exact absurd same (by decide +kernel)

def activatedRow : Subscription :=
  { registeredRow with status := .activated, currentPeriodEnd := some 1772496000000 }

def activatedStore : Store :=
  { unopened with subscriptions := ⟨[activatedRow], List.nodup_singleton _⟩ }

theorem decisions_stand_activated :
    (∀ now, (findSubscription 1 ((reinstate 1 {} (clerk 3)).run
      ((suspend 1 { reason := "Unpaid" } (clerk 2)).run activatedStore).1).1).map
        (fun row' => stateOf row' now) = some (stateOf activatedRow now)) ∧
    findSubscription 1 (((Call.suspend { reason := "Unpaid" }).request 1 (clerk 3)).run
        (((Call.suspend { reason := "Unpaid" }).request 1 (clerk 2)).run activatedStore).1).1 =
      findSubscription 1 (((Call.suspend { reason := "Unpaid" }).request 1 (clerk 2)).run
        activatedStore).1 := by
  obtain ⟨undone, -, repeated⟩ := decisions_stand activatedStore 1 activatedRow rfl
  exact ⟨(undone { reason := "Unpaid" } {} (clerk 2) (clerk 3) ⟨_, rfl⟩ ⟨_, rfl⟩).mpr rfl,
    (repeated (.suspend { reason := "Unpaid" }) (clerk 2) (clerk 3) (by decide +kernel)).mpr
      trivial⟩

end ErpBackend.Subscriptions
