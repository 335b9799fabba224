import ErpBackend.Foundation.Logged
import ErpBackend.Platform.Administration
import ErpBackend.Platform.Months

/-!
# Extensions

Two extensions add up where both months they come to have the date. Extensions in flight at the
same time are all in the end, as long as each expects a version its administrator was shown; one
that expects none overwrites what came between its read and its write.
-/

namespace ErpBackend.Subscriptions

open Foundation

def endOf (companyId : Id) (s : Store) : Option Time :=
  (findSubscription companyId s).bind Subscription.currentPeriodEnd

def Extended (companyId : Id) (months : Int) (s s' : Store) : Prop :=
  ∃ input ctx outcome, input.months = months ∧ (∀ ends ∈ endOf companyId s, ctx.now < ends) ∧
    (extend companyId input ctx).run s = (s', .ok outcome)

variable (companyId : Id)

theorem extended_end (months : Int) (s s' : Store) (ends : Time)
    (running : endOf companyId s = some ends) (extended : Extended companyId months s s') :
    endOf companyId s' = some (setMonth ends months.toNat) := by
  obtain ⟨input, ctx, outcome, rfl, before, ran⟩ := extended
  obtain ⟨row, found, rowEnds⟩ := Option.bind_eq_some_iff.mp running
  have left := call_leaves companyId ctx (.extend input) s row found
  unfold Prog.Ensures at left
  change Leaves _ _ _ _ _ ((extend companyId input ctx).run s).1
    ((extend companyId input ctx).run s).2 at left
  rw [ran] at left
  rcases left with ⟨-, written⟩ | ⟨-, -, skips⟩
  · have later : ctx.now < ends := before ends running
    have start : extendFrom row ctx.now = ends := by simp [extendFrom, rowEnds, later]
    rw [endOf, written]
    simp [Call.data, Data.written, Data.set, start]
  · exact (skips outcome rfl).2.elim

theorem transition_current (expectedVersion : Option Nat) (data : Data) (s : Store)
    (row : Subscription) (found : findSubscription companyId s = some row)
    (current : Current expectedVersion row) :
    transition companyId expectedVersion data s =
      .ok ({ s with
        subscriptions := s.subscriptions.update companyId data.written data.written_companyId },
        data.written row) := by
  simp [transition, found, current]

theorem loadOrThrow_run (s : Store) (row : Subscription)
    (found : findSubscription companyId s = some row) :
    (loadOrThrow companyId).run s = (s, .ok row) :=
  (Prog.run_bind_ok _ _ _ _ _).mpr
    ⟨s, some row, (Prog.run_read_ok _ _ _ _ _).mpr ⟨rfl, found⟩,
      (Prog.run_expect_ok _ _ _ _ _).mpr ⟨rfl, rfl⟩⟩

theorem createEvent_fresh (row : SubscriptionEvent) (s : Store)
    (fresh : row.id ∉ s.events.rows.map SubscriptionEvent.id) :
      ∃ s', createEvent row s = .ok s' := by
  obtain ⟨events, inserted⟩ := s.events.insert?_of_fresh row fresh
  exact ⟨{ s with events }, by simp only [createEvent, inserted]⟩

theorem apply_run (expectedVersion : Option Nat) (data : Data) (ctx : Ctx)
    (before : Subscription) (kind : SubscriptionEventKind) (note : Option String) (s : Store)
    (row : Subscription) (found : findSubscription companyId s = some row)
    (current : Current expectedVersion row)
    (fresh : ctx.eventId ∉ s.events.rows.map SubscriptionEvent.id) :
    ∃ s', (apply companyId expectedVersion data ctx before kind note).run s =
      (s', .ok (data.written row)) := by
  let changed : Store := { s with
    subscriptions := s.subscriptions.update companyId data.written data.written_companyId }
  obtain ⟨s', created⟩ :=
    createEvent_fresh (eventOf ctx before (data.written row) kind note) changed fresh
  have transacted :=
    (Prog.run_transact_ok s changed (Mark.transition companyId expectedVersion data) _ _).mpr
    (transition_current companyId expectedVersion data s row found current)
  have committed := (Prog.run_commit_ok changed s' Mark.other
    (createEvent (eventOf ctx before (data.written row) kind note)) ()).mpr created
  exact ⟨s', (Prog.run_bind_ok _ _ _ _ _).mpr ⟨changed, _, transacted,
    (Prog.run_bind_ok _ _ _ _ _).mpr ⟨s', (), committed,
      (Prog.run_pure_ok _ _ _ _).mpr ⟨rfl, rfl⟩⟩⟩⟩

theorem extended_exists (months : Int) (s : Store) (ends : Time)
    (running : endOf companyId s = some ends) (later : 0 < ends)
    (admitted : 1 ≤ months ∧ months ≤ 60) : ∃ s', Extended companyId months s s' := by
  obtain ⟨row, found, -⟩ := Option.bind_eq_some_iff.mp running
  obtain ⟨eventId, fresh⟩ := s.events.exists_unused
  have current : Current none row := fun version expected => by cases expected
  have before : ∀ instant ∈ endOf companyId s, 0 < instant := by
    intro instant held
    rw [running] at held
    cases held
    exact later
  obtain ⟨s', applied⟩ := apply_run companyId none
    (.extend (setMonth (extendFrom row 0) months.toNat)) ⟨"", 0, eventId, 0⟩ row .extended
      none s row
    found current fresh
  have answered : (extend companyId ⟨months, none, none⟩ ⟨"", 0, eventId, 0⟩).run s =
      (s', .ok ⟨(Data.extend (setMonth (extendFrom row 0) months.toNat)).written row, true⟩) :=
    (Prog.run_bind_ok _ _ _ _ _).mpr
      ⟨s, (), (Prog.run_require_ok _ _ _ _ _).mpr ⟨rfl, admitted⟩,
        (Prog.run_bind_ok _ _ _ _ _).mpr ⟨s, row, loadOrThrow_run companyId s row found,
          (Prog.run_bind_ok _ _ _ _ _).mpr ⟨s', _, applied,
            (Prog.run_pure_ok _ _ _ _).mpr ⟨rfl, rfl⟩⟩⟩⟩
  exact ⟨s', _, _, _, rfl, before, answered⟩

/-- What two extensions, one after the other, and one by both counts come to. -/
structure AddUp (companyId : Id) (a b : Int) (s : Store) (ends : Time) : Prop where
  lands : ∀ t, Extended companyId a s t → ∃ later ∈ endOf companyId t,
    monthOf later = monthOf ends + a.toNat
  landsAgain : ∀ t u, Extended companyId a s t → Extended companyId b t u →
    ∃ later ∈ endOf companyId u, monthOf later = monthOf ends + a.toNat + b.toNat
  same : ∀ t u v, Extended companyId a s t → Extended companyId b t u →
    Extended companyId (a + b) s v → endOf companyId u = endOf companyId v

theorem setMonth_pos (date : Time) (months : Nat) (more : 1 ≤ months) :
    0 < setMonth date months := by
  by_contra atEpoch
  have zero : setMonth date months = 0 := Nat.eq_zero_of_not_pos atEpoch
  have epoch := epoch_le_month (dayKey date)
  have own : monthOf (setMonth date months) = epochMonth := by
    rw [zero]
    decide
  by_cases has : HasDate date months
  · have lands := (setMonth_parts date months has).1
    unfold monthOf at lands own
    omega
  · have ran := setMonth_runs_on date months has
    unfold monthOf at ran own
    omega

structure Months where
  count : Int
  admitted : 1 ≤ count ∧ count ≤ 60

variable (a b : Months)

namespace Months

theorem toNat_pos (a : Months) : 1 ≤ a.count.toNat := by
  have admitted := a.admitted
  omega

theorem toNat_add : (a.count + b.count).toNat = a.count.toNat + b.count.toNat := by
  have admittedA := a.admitted
  have admittedB := b.admitted
  omega

end Months

theorem add_up_of_dates (s : Store) (ends : Time)
    (running : endOf companyId s = some ends) (first : HasDate ends a.count.toNat)
    (both : HasDate ends (a.count + b.count).toNat) : AddUp companyId a.count b.count s ends := by
  rw [Months.toNat_add] at both
  have again := (hasDate_add ends a.count.toNat b.count.toNat first).mpr both
  have landed := (setMonth_parts ends a.count.toNat first).1
  have landedAgain := (setMonth_parts _ _ again).1
  have sum := setMonth_add ends a.count.toNat b.count.toNat first
  constructor
  · intro t extended
    exact ⟨_, extended_end companyId a.count s t ends running extended, landed⟩
  · intro t u extended further
    have middle := extended_end companyId a.count s t ends running extended
    have last := extended_end companyId b.count t u _ middle further
    exact ⟨_, last, by rw [landedAgain, landed]⟩
  · intro t u v extended further once
    have middle := extended_end companyId a.count s t ends running extended
    rw [extended_end companyId b.count t u _ middle further,
      extended_end companyId (a.count + b.count) s v ends running once, sum, Months.toNat_add]

theorem dates_of_add_up (s : Store) (ends : Time)
    (running : endOf companyId s = some ends) (later : 0 < ends)
    (sums : AddUp companyId a.count b.count s ends) :
    HasDate ends a.count.toNat ∧ HasDate ends (a.count + b.count).toNat := by
  obtain ⟨t, extended⟩ := extended_exists companyId a.count s ends running later a.admitted
  have middle := extended_end companyId a.count s t ends running extended
  obtain ⟨u, further⟩ := extended_exists companyId b.count t _ middle
    (setMonth_pos ends _ a.toNat_pos) b.admitted
  have last := extended_end companyId b.count t u _ middle further
  have first : HasDate ends a.count.toNat := by
    obtain ⟨reached, held, month⟩ := sums.lands t extended
    rw [middle] at held
    cases held
    exact (setMonth_lands_iff ends _).mp month
  refine ⟨first, ?_⟩
  obtain ⟨reached, held, month⟩ := sums.landsAgain t u extended further
  rw [last] at held
  cases held
  rw [setMonth_add ends _ _ first, Nat.add_assoc] at month
  rw [Months.toNat_add]
  exact (setMonth_lands_iff ends _).mp month

theorem add_up_iff (s : Store) (ends : Time)
    (running : endOf companyId s = some ends) :
    AddUp companyId a.count b.count s ends ↔
      HasDate ends a.count.toNat ∧ HasDate ends (a.count + b.count).toNat := by
  constructor
  · intro sums
    by_cases later : 0 < ends
    · exact dates_of_add_up companyId a b s ends running later sums
    · have zero : ends = 0 := Nat.eq_zero_of_not_pos later
      have first : dateOf ends = 1 := by
        rw [zero]
        decide
      have every : ∀ months, HasDate ends months := by
        intro months
        have length := lengthOf_bounds (monthOf ends + months)
        unfold HasDate
        omega
      exact ⟨every _, every _⟩
  · exact fun dates => add_up_of_dates companyId a b s ends running dates.1 dates.2

structure Extension where
  companyId : Id
  input : ExtendInput
  ctx : Ctx

abbrev Noted := Store × List Extension

abbrev InFlight := Prog Noted Mark Refusal Extension

namespace Extension

variable (e : Extension)

def entries (s s' : Store) : List Extension :=
  if findSubscription e.companyId s' = findSubscription e.companyId s then [] else [e]

def request : InFlight :=
  (extend e.companyId e.input e.ctx >>= fun _ => pure e).logged e.entries

def Shown (s : Store) : Prop :=
  ∃ version ∈ e.input.expectedVersion, ∀ row ∈ findSubscription e.companyId s, version ≤ row.version

def lengthen (ends : Option Time) : Time :=
  setMonth (match ends with
    | some ends => if e.ctx.now < ends then ends else e.ctx.now
    | none => e.ctx.now) e.input.months.toNat

def effect (companyId : Id) (ends : Option Time) : Option Time :=
  if e.companyId = companyId then some (e.lengthen ends) else ends

end Extension

/-- Extensions arrive when they were shown a version, and advance in any order. -/
inductive Takes : Config Noted Mark Refusal Extension → Config Noted Mark Refusal Extension → Prop
  | arrive (t : Noted) (inFlight : List InFlight) (e : Extension) (shown : e.Shown t.1) :
      Takes ⟨t, inFlight⟩ ⟨t, inFlight ++ [e.request]⟩
  | advance (t : Noted) (before after : List InFlight) (m : Mark) (write : Noted → Noted)
      (next : Noted → InFlight) :
      Takes ⟨t, before ++ .step m write next :: after⟩ ⟨write t, before ++ next t :: after⟩

abbrev ShownRun := Relation.ReflTransGen Takes

def answer? : InFlight → Option Extension
  | .done (.ok e) => some e
  | _ => none

def answered (c : Config Noted Mark Refusal Extension) : List Extension :=
  c.inFlight.filterMap answer?

/-- Every extension that succeeded was written, and the end of every business is what those that
were written, one after the other, make of the first. -/
structure Reflected (start : Store) (c : Config Noted Mark Refusal Extension) : Prop where
  written : (answered c).Subperm c.store.2
  reflected : ∀ companyId, endOf companyId c.store.1 =
    c.store.2.foldl (fun ends e => e.effect companyId ends) (endOf companyId start)

namespace Extension

variable (e : Extension)

def data (before : Subscription) : Data :=
  .extend (setMonth (extendFrom before e.ctx.now) e.input.months.toNat)

def afterWrite (before after : Subscription) : InFlight :=
  (Prog.commit .other
    (createEvent (eventOf e.ctx before after .extended (e.input.reason.map slice255)))
    >>= fun _ => pure e).logged e.entries

def afterRead (before : Subscription) : InFlight :=
  .step (.transition e.companyId e.input.expectedVersion (e.data before))
    (fun t => match transition e.companyId e.input.expectedVersion (e.data before) t.1 with
      | .ok (s', _) => (s', t.2 ++ e.entries t.1 s')
      | .error _ => (t.1, t.2 ++ e.entries t.1 t.1))
    (fun t => match transition e.companyId e.input.expectedVersion (e.data before) t.1 with
      | .ok (_, after) => e.afterWrite before after
      | .error refusal => .done (.error refusal))

theorem request_refused (months : ¬(1 ≤ e.input.months ∧ e.input.months ≤ 60)) :
    e.request = .done (.error (.badRequest "Extend by between 1 and 60 months.")) := by
  simp only [request, extend, Prog.require, if_neg months]
  rfl

theorem afterRead_eq (before : Subscription) :
    (apply e.companyId e.input.expectedVersion (e.data before) e.ctx before .extended
      (e.input.reason.map slice255) >>= fun _ =>
        (pure e : Prog Store Mark Refusal Extension)).logged
        e.entries = e.afterRead before := by
  unfold apply Prog.transact afterRead
  simp only [Prog.step_bind, Prog.logged_step]
  congr 1
  · funext t
    cases transition e.companyId e.input.expectedVersion (e.data before) t.1 with
    | error refusal => rfl
    | ok result => rfl
  · funext t
    cases transition e.companyId e.input.expectedVersion (e.data before) t.1 with
    | error refusal => rfl
    | ok result =>
      change ((Prog.commit .other (createEvent (eventOf e.ctx before result.2 .extended
        (e.input.reason.map slice255))) >>= fun _ => pure result.2) >>= fun _ => pure e).logged
          e.entries = e.afterWrite before result.2
      rw [Prog.bind_assoc]
      rfl

theorem request_admitted (months : 1 ≤ e.input.months ∧ e.input.months ≤ 60) :
    e.request = .step .other (fun t => (t.1, t.2 ++ e.entries t.1 t.1))
      (fun t => match findSubscription e.companyId t.1 with
        | none => .done (.error (.notFound "Unknown business"))
        | some before => e.afterRead before) := by
  simp only [request, extend, Prog.require, if_pos months, loadOrThrow, Prog.read, Prog.bind_assoc,
    Prog.pure_bind, Prog.step_bind, Prog.logged_step, id_eq]
  congr 1
  funext t
  cases found : findSubscription e.companyId t.1 with
  | none => rfl
  | some before =>
    exact afterRead_eq e before

theorem afterWrite_eq (before after : Subscription) :
    ∃ write next, e.afterWrite before after = .step .other write next ∧
      ∀ t, (write t).1.subscriptions = t.1.subscriptions ∧ (write t).2 = t.2 ∧
        (next t = .done (.ok e) ∨ ∃ refusal, next t = .done (.error refusal)) := by
  refine ⟨_, _, rfl, ?_⟩
  intro t
  dsimp only
  cases created :
    createEvent (eventOf e.ctx before after .extended (e.input.reason.map slice255)) t.1 with
  | error refusal => exact ⟨rfl, by simp [Except.map, entries], .inr ⟨refusal, rfl⟩⟩
  | ok s' =>
    have same := createEvent_ok _ _ _ created
    have found : findSubscription e.companyId s' = findSubscription e.companyId t.1 := by
      simp only [findSubscription, same]
    exact ⟨same, by simp [Except.map, entries, found], .inl rfl⟩

end Extension

def Onward (s s' : Store) : Prop :=
  ∀ companyId row', findSubscription companyId s' = some row' →
    ∃ row, findSubscription companyId s = some row ∧ row.version ≤ row'.version ∧
      (row'.version = row.version → row' = row)

theorem Onward.of_same {s s' : Store} (same : s'.subscriptions = s.subscriptions) :
    Onward s s' := by
  intro companyId row' found
  exact ⟨row', by simpa only [findSubscription, same] using found, Nat.le_refl _, fun _ => rfl⟩

theorem find_written (companyId : Id) (data : Data) (s : Store) (other : Id) :
    findSubscription other { s with
      subscriptions := s.subscriptions.update companyId data.written data.written_companyId } =
      if other = companyId then (findSubscription companyId s).map data.written
      else findSubscription other s :=
  Table.find?_update _ _ _ data.written_companyId _

theorem Onward.of_transition (companyId : Id) (data : Data) (s : Store) :
    Onward s { s with
      subscriptions := s.subscriptions.update companyId data.written data.written_companyId } := by
  intro other row' found
  rw [find_written] at found
  split at found
  · case isTrue same =>
    obtain ⟨row, present, written⟩ := Option.map_eq_some_iff.mp found
    subst written
    have version := data.written_version row
    exact ⟨row, same ▸ present, by omega, by omega⟩
  · exact ⟨row', found, Nat.le_refl _, fun _ => rfl⟩

inductive Standing (e : Extension) (s : Store) : Bool → InFlight → Prop
  | sent (shown : e.Shown s) : Standing e s false e.request
  | read (before : Subscription)
      (shown : ∃ version ∈ e.input.expectedVersion, version ≤ before.version)
      (kept : ∀ row ∈ findSubscription e.companyId s,
        before.version ≤ row.version ∧ (row.version = before.version → row = before)) :
      Standing e s false (e.afterRead before)
  | wrote (before after : Subscription) : Standing e s true (e.afterWrite before after)
  | answered : Standing e s true (.done (.ok e))
  | refused (wrote : Bool) (refusal : Refusal) : Standing e s wrote (.done (.error refusal))

theorem Standing.onward {e : Extension} {s s' : Store} {wrote : Bool} {p : InFlight}
    (stands : Standing e s wrote p) (onward : Onward s s') : Standing e s' wrote p := by
  cases stands with
  | sent shown =>
    obtain ⟨version, expected, known⟩ := shown
    refine .sent ⟨version, expected, ?_⟩
    intro row' found'
    obtain ⟨row, found, older, -⟩ := onward e.companyId row' found'
    exact (known row found).trans older
  | read before shown kept =>
    refine .read before shown ?_
    intro row' found'
    obtain ⟨row, found, older, same⟩ := onward e.companyId row' found'
    obtain ⟨since, own⟩ := kept row found
    refine ⟨since.trans older, ?_⟩
    intro unchanged
    rw [same (by omega)]
    exact own (by omega)
  | wrote before after => exact .wrote before after
  | answered => exact .answered
  | refused wrote refusal => exact .refused wrote refusal

theorem endOf_same {s s' : Store} (same : s'.subscriptions = s.subscriptions) (companyId : Id) :
    endOf companyId s' = endOf companyId s := by
  simp only [endOf, findSubscription, same]

structure Stepped (e : Extension) (t t' : Noted) (wrote wrote' : Bool) : Prop where
  onward : Onward t.1 t'.1
  noted : (wrote' = wrote ∧ t'.2 = t.2 ∧ ∀ companyId, endOf companyId t'.1 = endOf companyId t.1) ∨
    (wrote = false ∧ wrote' = true ∧ t'.2 = t.2 ++ [e] ∧
      ∀ companyId, endOf companyId t'.1 = e.effect companyId (endOf companyId t.1))

variable (e : Extension)

theorem Stepped.idle (t t' : Noted) (wrote : Bool)
    (same : t'.1.subscriptions = t.1.subscriptions) (noted : t'.2 = t.2) :
    Stepped e t t' wrote wrote :=
  ⟨.of_same same, .inl ⟨rfl, noted, endOf_same same⟩⟩

theorem written_end (before : Subscription) (s : Store)
    (found : findSubscription e.companyId s = some before) (companyId : Id) :
    endOf companyId { s with
      subscriptions := s.subscriptions.update e.companyId (e.data before).written
        (e.data before).written_companyId } = e.effect companyId (endOf companyId s) := by
  rw [endOf, find_written, Extension.effect]
  by_cases own : companyId = e.companyId
  · subst own
    rw [if_pos rfl, if_pos rfl, endOf, found]
    rfl
  · rw [if_neg own, if_neg (fun same => own same.symm)]
    rfl

theorem entries_written (before : Subscription) (s : Store)
    (found : findSubscription e.companyId s = some before) :
    e.entries s { s with
      subscriptions := s.subscriptions.update e.companyId (e.data before).written
        (e.data before).written_companyId } = [e] := by
  have changed : (e.data before).written before ≠ before := written_ne _ _
  rw [Extension.entries, find_written, if_pos rfl, found]
  simp [changed]

theorem read_step (before : Subscription) (t : Noted)
    (shown : ∃ version ∈ e.input.expectedVersion, version ≤ before.version)
    (kept : ∀ row ∈ findSubscription e.companyId t.1,
      before.version ≤ row.version ∧ (row.version = before.version → row = before))
    (m : Mark) (write : Noted → Noted) (next : Noted → InFlight)
    (step : e.afterRead before = .step m write next) :
    ∃ wrote, Standing e (write t).1 wrote (next t) ∧ Stepped e t (write t) false wrote := by
  unfold Extension.afterRead at step
  cases step
  dsimp only
  cases outcome : transition e.companyId e.input.expectedVersion (e.data before) t.1 with
  | error refusal =>
    exact ⟨false, .refused _ _, .idle _ _ _ _ rfl (by simp [Extension.entries])⟩
  | ok result =>
    obtain ⟨s', after⟩ := result
    obtain ⟨row, found, current, rfl, rfl⟩ := transition_ok _ _ _ _ _ _ outcome
    obtain ⟨version, expected, since⟩ := shown
    obtain ⟨older, same⟩ := kept row found
    have own : row = before := by
      have now := current version expected
      exact same (by omega)
    subst own
    refine ⟨true, .wrote _ _, .of_transition _ _ _, .inr ⟨rfl, rfl, ?_, ?_⟩⟩
    · exact congrArg (t.2 ++ ·) (entries_written e row t.1 found)
    · exact written_end e row t.1 found

theorem sent_step (t : Noted) (shown : e.Shown t.1)
    (m : Mark) (write : Noted → Noted) (next : Noted → InFlight)
    (step : e.request = .step m write next) :
    ∃ wrote, Standing e (write t).1 wrote (next t) ∧ Stepped e t (write t) false wrote := by
  by_cases months : 1 ≤ e.input.months ∧ e.input.months ≤ 60
  · rw [e.request_admitted months] at step
    cases step
    refine ⟨false, ?_, .idle _ _ _ _ rfl (by simp [Extension.entries])⟩
    dsimp only
    split
    · exact .refused _ _
    · case h_2 before found =>
      obtain ⟨version, expected, known⟩ := shown
      refine .read before ⟨version, expected, known before found⟩ ?_
      intro row present
      rw [found] at present
      cases present
      exact ⟨Nat.le_refl _, fun _ => rfl⟩
  · rw [e.request_refused months] at step
    cases step

theorem wrote_step (before after : Subscription) (t : Noted)
    (m : Mark) (write : Noted → Noted) (next : Noted → InFlight)
    (step : e.afterWrite before after = .step m write next) :
    ∃ wrote, Standing e (write t).1 wrote (next t) ∧ Stepped e t (write t) true wrote := by
  obtain ⟨write', next', shape, does⟩ := e.afterWrite_eq before after
  rw [shape] at step
  cases step
  obtain ⟨same, noted, ending⟩ := does t
  refine ⟨true, ?_, .idle _ _ _ _ same noted⟩
  cases ending with
  | inl answers =>
    rw [answers]
    exact .answered
  | inr refuses =>
    obtain ⟨refusal, refuses⟩ := refuses
    rw [refuses]
    exact .refused _ _

theorem Standing.step {e : Extension} {t : Noted} {wrote : Bool} {m : Mark} {write : Noted → Noted}
    {next : Noted → InFlight} (stands : Standing e t.1 wrote (.step m write next)) :
    ∃ wrote', Standing e (write t).1 wrote' (next t) ∧ Stepped e t (write t) wrote wrote' := by
  generalize shape : Prog.step m write next = p at stands
  cases stands with
  | sent shown => exact sent_step e t shown m write next shape.symm
  | read before shown kept => exact read_step e before t shown kept m write next shape.symm
  | wrote before after => exact wrote_step e before after t m write next shape.symm
  | answered => cases shape
  | refused wrote refusal => cases shape

theorem Standing.answer {e e' : Extension} {s : Store} {wrote : Bool} {p : InFlight}
    (stands : Standing e s wrote p) (answer : answer? p = some e') : e' = e ∧ wrote = true := by
  cases stands with
  | sent shown =>
    by_cases months : 1 ≤ e.input.months ∧ e.input.months ≤ 60
    · rw [e.request_admitted months] at answer
      cases answer
    · rw [e.request_refused months] at answer
      cases answer
  | read before shown kept => cases answer
  | wrote before after => cases answer
  | answered =>
    cases answer
    exact ⟨rfl, rfl⟩
  | refused wrote refusal => cases answer

/-- A request in flight: what was sent, whether it has written, and what is left of it. -/
structure Ticket where
  extension : Extension
  wrote : Bool
  rest : InFlight

def writtenOf (tickets : List Ticket) : List Extension :=
  (tickets.filter Ticket.wrote).map Ticket.extension

@[simp]
theorem writtenOf_append (first rest : List Ticket) :
    writtenOf (first ++ rest) = writtenOf first ++ writtenOf rest := by
  simp [writtenOf]

theorem writtenOf_cons (ticket : Ticket) (rest : List Ticket) :
    writtenOf (ticket :: rest) =
      if ticket.wrote = true then ticket.extension :: writtenOf rest else writtenOf rest := by
  unfold writtenOf
  rw [List.filter_cons]
  split <;> rfl

/-- The notes are the extensions that were written, and the ends follow the notes. -/
structure Told (start : Store) (c : Config Noted Mark Refusal Extension) (tickets : List Ticket) :
    Prop where
  inFlight : tickets.map Ticket.rest = c.inFlight
  standing : ∀ ticket ∈ tickets, Standing ticket.extension c.store.1 ticket.wrote ticket.rest
  noted : (writtenOf tickets).Perm c.store.2
  ends : ∀ companyId, endOf companyId c.store.1 =
    c.store.2.foldl (fun ends e => e.effect companyId ends) (endOf companyId start)

variable (start : Store)

theorem told_arrive (t : Noted) (inFlight : List InFlight) (tickets : List Ticket)
    (told : Told start ⟨t, inFlight⟩ tickets) (e : Extension) (shown : e.Shown t.1) :
    Told start ⟨t, inFlight ++ [e.request]⟩ (tickets ++ [⟨e, false, e.request⟩]) where
  inFlight := by simp [told.inFlight]
  standing := by
    intro ticket member
    cases List.mem_append.mp member with
    | inl old => exact told.standing ticket old
    | inr new =>
      rw [List.mem_singleton.mp new]
      exact .sent shown
  noted := by simpa [writtenOf] using told.noted
  ends := told.ends

theorem told_advance (t : Noted) (before after : List InFlight) (m : Mark)
    (write : Noted → Noted) (next : Noted → InFlight) (tickets : List Ticket)
    (told : Told start ⟨t, before ++ .step m write next :: after⟩ tickets) :
    ∃ tickets', Told start ⟨write t, before ++ next t :: after⟩ tickets' := by
  obtain ⟨left, right, rfl, atLeft, atRight⟩ := List.map_eq_append_iff.mp told.inFlight
  obtain ⟨ticket, later, rfl, atTicket, atLater⟩ := List.map_eq_cons_iff.mp atRight
  obtain ⟨e, wrote, rest⟩ := ticket
  cases atTicket
  have stands : Standing e t.1 wrote (.step m write next) :=
    told.standing ⟨e, wrote, .step m write next⟩ (by simp)
  obtain ⟨wrote', standing, stepped⟩ := stands.step
  have noted := told.noted
  refine ⟨left ++ ⟨e, wrote', next t⟩ :: later, ?_, ?_, ?_, ?_⟩
  · simp [atLeft, atLater]
  · intro other member
    have cases' : other ∈ left ++ later ∨ other = ⟨e, wrote', next t⟩ := by
      simp only [List.mem_append, List.mem_cons] at member ⊢
      tauto
    cases cases' with
    | inl other' =>
      have known := told.standing other (by
        simp only [List.mem_append, List.mem_cons] at other' ⊢
        tauto)
      exact known.onward stepped.onward
    | inr own =>
      rw [own]
      exact standing
  · rw [writtenOf_append, writtenOf_cons] at noted ⊢
    rcases stepped.noted with ⟨same, kept, -⟩ | ⟨old, new, added, -⟩
    · dsimp only at noted ⊢
      rw [same, kept]
      exact noted
    · dsimp only at noted ⊢
      rw [new, if_pos rfl, added]
      rw [old, if_neg Bool.false_ne_true] at noted
      calc
        List.Perm (writtenOf left ++ e :: writtenOf later)
          (e :: (writtenOf left ++ writtenOf later)) :=
          List.perm_middle
        List.Perm _ (e :: t.2) := noted.cons e
        List.Perm _ (t.2 ++ [e]) := (List.perm_append_singleton e t.2).symm
  · intro companyId
    have known := told.ends companyId
    dsimp only at known ⊢
    rcases stepped.noted with ⟨-, kept, same⟩ | ⟨-, -, added, extended⟩
    · rw [same companyId, kept]
      exact known
    · rw [extended companyId, added, known, List.foldl_append]
      rfl

variable (c : Config Noted Mark Refusal Extension)

theorem shown_run_told (run : ShownRun (Config.idle (start, [])) c) :
    ∃ tickets, Told start c tickets := by
  induction run with
  | refl => exact ⟨[], rfl, fun _ member => (by cases member), .refl _, fun _ => rfl⟩
  | tail _ taken ih =>
    obtain ⟨tickets, told⟩ := ih
    cases taken with
    | arrive t inFlight e shown => exact ⟨_, told_arrive start t inFlight tickets told e shown⟩
    | advance t before after m write next =>
      exact told_advance start t before after m write next tickets told

theorem answers_sublist (s : Store) (tickets : List Ticket)
    (standing : ∀ ticket ∈ tickets, Standing ticket.extension s ticket.wrote ticket.rest) :
    ((tickets.map Ticket.rest).filterMap answer?).Sublist (writtenOf tickets) := by
  induction tickets with
  | nil => exact .slnil
  | cons ticket rest ih =>
    have later := ih (fun other member => standing other (List.mem_cons_of_mem _ member))
    rw [List.map_cons, List.filterMap_cons, writtenOf_cons]
    split
    · split
      · exact later.cons _
      · exact later
    · case h_2 e answers =>
      obtain ⟨own, wrote⟩ := (standing ticket (List.mem_cons_self ..)).answer answers
      rw [if_pos wrote, own]
      exact later.cons_cons _

theorem reflected_of_told (tickets : List Ticket) (told : Told start c tickets) :
    Reflected start c where
  written := by
    have sublist := answers_sublist c.store.1 tickets told.standing
    rw [told.inFlight] at sublist
    exact sublist.subperm.trans told.noted.subperm
  reflected := told.ends

theorem run_reflected (run : ShownRun (Config.idle (start, [])) c) : Reflected start c := by
  obtain ⟨tickets, told⟩ := shown_run_told start c run
  exact reflected_of_told start c tickets told

/-- Extensions of a period that still runs add up, and come to the months they name, exactly when
those months have its date; and all that succeed are reflected, whatever their order, where each
expects a version its administrator was shown. -/
theorem extensions_add_up (companyId : Id) (a b : Months) :
    (∀ s ends, endOf companyId s = some ends →
      (AddUp companyId a.count b.count s ends ↔
        HasDate ends a.count.toNat ∧ HasDate ends (a.count + b.count).toNat)) ∧
    ∀ start c, ShownRun (Config.idle (start, [])) c → Reflected start c :=
  ⟨fun s ends running => add_up_iff companyId a b s ends running, run_reflected⟩

/-- A business paid until `ends`. -/
def paidUntil (ends : Time) : Store where
  subscriptions := ⟨[⟨5, 1, .activated, 1, 0, some ends, false, none, none, 3⟩], by simp⟩
  events := .empty
  billing := ⟨.empty, [], .empty, .empty, .empty⟩

def unversioned (actor : String) (eventId : Id) : Extension :=
  ⟨1, { months := 1 }, ⟨actor, 1767225600000, eventId, eventId⟩⟩

def crossed : Config Noted Mark Refusal Extension :=
  (Config.idle (paidUntil 1768435200000, [])).schedule
    [.arrive (unversioned "ana@platform" 11).request,
      .arrive (unversioned "ben@platform" 12).request,
      .advance 0, .advance 1, .advance 0, .advance 0, .advance 1, .advance 1]

theorem advance_takes (c : Config Noted Mark Refusal Extension) (index : Nat) :
    ShownRun c (c.move (.advance index)) := by
  cases pending : c.inFlight[index]?.bind Prog.mark? with
  | none => rw [c.move_idle index pending]
  | some m =>
      obtain ⟨before, after, write, next, split, -, moved⟩ := c.move_pending index m pending
      rw [moved]
      obtain ⟨t, inFlight⟩ := c
      cases split
      exact .single (.advance t before after m write next)

def versioned (actor : String) (eventId : Id) (version : Nat) : Extension :=
  ⟨1, { months := 1, expectedVersion := some version }, ⟨actor, 1767225600000, eventId, eventId⟩⟩

def extendedOnce : Config Noted Mark Refusal Extension :=
  (Config.idle (paidUntil 1768435200000, [])).schedule
    [.arrive (versioned "ana@platform" 11 3).request, .advance 0, .advance 0, .advance 0]

def extendedTwice : Config Noted Mark Refusal Extension :=
  extendedOnce.schedule
    [.arrive (versioned "ben@platform" 12 4).request, .advance 1, .advance 1, .advance 1]

theorem twice_run : ShownRun (Config.idle (paidUntil 1768435200000, [])) extendedTwice := by
  have first : ShownRun (Config.idle (paidUntil 1768435200000, [])) extendedOnce :=
    .head (.arrive _ [] (versioned "ana@platform" 11 3) ⟨3, rfl, by decide⟩)
      ((advance_takes _ 0).trans ((advance_takes _ 0).trans (advance_takes _ 0)))
  have second : ShownRun extendedOnce extendedTwice :=
    .head (.arrive _ _ (versioned "ben@platform" 12 4) ⟨4, rfl, by decide +kernel⟩)
      ((advance_takes _ 1).trans ((advance_takes _ 1).trans (advance_takes _ 1)))
  exact first.trans second

/-- Two months from 15 January add up, and two extensions that carry their versions both count. -/
theorem extensions_add_up_twice :
    AddUp 1 1 1 (paidUntil 1768435200000) 1768435200000 ∧
      (answered extendedTwice).map (fun e => e.ctx.actor) = ["ana@platform", "ben@platform"] ∧
      (endOf 1 extendedTwice.store.1).map (fun ends => renderDay (dayKey ends)) =
        some "2026-03-15" ∧
      Reflected (paidUntil 1768435200000) extendedTwice :=
  ⟨((extensions_add_up 1 ⟨1, by decide⟩ ⟨1, by decide⟩).1 _ _ rfl).mpr (by decide +kernel),
    by decide +kernel, by decide +kernel,
    (extensions_add_up 1 ⟨1, by decide⟩ ⟨1, by decide⟩).2 _ _ twice_run⟩

/-- A month from 31 January is in March, and of two crossed months from 15 January one is lost. -/
theorem extension_overwritten :
    ¬AddUp 1 1 1 (paidUntil 1769817600000) 1769817600000 ∧
      (answered crossed).map (fun e => e.ctx.actor) = ["ana@platform", "ben@platform"] ∧
      (endOf 1 crossed.store.1).map (fun ends => renderDay (dayKey ends)) = some "2026-02-15" ∧
      ¬Reflected (paidUntil 1768435200000) crossed := by
  refine ⟨?_, by decide +kernel, by decide +kernel, ?_⟩
  · intro sums
    have dates :=
      dates_of_add_up 1 ⟨1, by decide⟩ ⟨1, by decide⟩ (paidUntil 1769817600000) 1769817600000
      rfl (by decide) sums
    exact absurd dates.1 (by decide +kernel)
  · intro told
    have ends := told.reflected 1
    revert ends
    decide +kernel

end ErpBackend.Subscriptions
