import Mathlib

/-!
# Programs over a shared store

A request is a tree of atomic steps. A step carries a `mark` that names the
statement about to run, changes the store, and continues with what it saw of
the store before the change. `run` executes a request alone; the interleaving
of several requests is `ErpBackend.Foundation.Interleave`.
-/

namespace ErpBackend.Foundation

section Except

variable {ε ε' α β : Type}

theorem except_bind_ok (x : Except ε α) (f : α → Except ε β) (b : β) :
    (x >>= f) = .ok b ↔ ∃ a, x = .ok a ∧ f a = .ok b := by
  cases x with
  | error e => simp [bind, Except.bind]
  | ok a => simp [bind, Except.bind]

theorem except_map_ok (x : Except ε α) (f : α → β) (b : β) :
    x.map f = .ok b ↔ ∃ a, x = .ok a ∧ f a = b := by
  cases x with
  | error e => simp [Except.map]
  | ok a => simp [Except.map]

theorem except_mapError_ok (x : Except ε α) (f : ε → ε') (a : α) :
    x.mapError f = .ok a ↔ x = .ok a := by
  cases x with
  | error e => simp [Except.mapError]
  | ok a => simp [Except.mapError]

end Except

inductive Prog (S M ε α : Type) where
  | done (result : Except ε α)
  | step (mark : M) (write : S → S) (next : S → Prog S M ε α)

namespace Prog

variable {S M ε α β γ : Type}

def bind : Prog S M ε α → (α → Prog S M ε β) → Prog S M ε β
  | done (.ok a), f => f a
  | done (.error e), _ => done (.error e)
  | step mark write next, f => step mark write (fun s => (next s).bind f)

instance : Monad (Prog S M ε) where
  pure a := done (.ok a)
  bind := bind

@[simp]
theorem pure_bind (a : α) (f : α → Prog S M ε β) : (pure a >>= f) = f a := rfl

@[simp]
theorem step_bind (mark : M) (write : S → S) (next : S → Prog S M ε α)
    (f : α → Prog S M ε β) :
    (step mark write next >>= f) = step mark write (fun s => next s >>= f) := rfl

@[simp]
theorem error_bind (e : ε) (f : α → Prog S M ε β) :
    ((done (.error e) : Prog S M ε α) >>= f) = done (.error e) := rfl

@[simp]
theorem bind_assoc (p : Prog S M ε α) (f : α → Prog S M ε β) (g : β → Prog S M ε γ) :
    (p >>= f) >>= g = p >>= (fun a => f a >>= g) := by
  induction p with
  | done result =>
      cases result with
      | ok a => rfl
      | error e => rfl
  | step mark write next ih =>
      rw [step_bind, step_bind, step_bind]
      congr 1
      funext s
      exact ih s

theorem bind_pure (p : Prog S M ε α) : (p >>= fun a => pure a) = p := by
  induction p with
  | done result =>
      cases result with
      | ok a => rfl
      | error e => rfl
  | step mark write next ih =>
      rw [step_bind]
      congr 1
      funext s
      exact ih s

def refuse (e : ε) : Prog S M ε α := done (.error e)

def require (c : Prop) [Decidable c] (e : ε) : Prog S M ε Unit :=
  if c then pure () else refuse e

def liftExcept (x : Except ε α) : Prog S M ε α := done x

def read (mark : M) (query : S → α) : Prog S M ε α :=
  step mark id (fun s => done (.ok (query s)))

/-- One statement, or one transaction: it commits whole or not at all. -/
def transact (mark : M) (body : S → Except ε (S × α)) : Prog S M ε α :=
  step mark
    (fun s => match body s with
      | .ok (s', _) => s'
      | .error _ => s)
    (fun s => match body s with
      | .ok (_, a) => done (.ok a)
      | .error e => done (.error e))

def commit (mark : M) (body : S → Except ε S) : Prog S M ε Unit :=
  transact mark (fun s => (body s).map (fun s' => (s', ())))

/-- `try { transaction } catch`: the failure comes back as a value. -/
def attempt (mark : M) (body : S → Except ε (S × α)) : Prog S M ε (Except ε α) :=
  step mark
    (fun s => match body s with
      | .ok (s', _) => s'
      | .error _ => s)
    (fun s => done (.ok ((body s).map Prod.snd)))

def void (p : Prog S M ε α) : Prog S M ε Unit := p >>= fun _ => pure ()

def relabel {M' : Type} (f : M → M') : Prog S M ε α → Prog S M' ε α
  | done result => done result
  | step mark write next => step (f mark) write (fun s => (next s).relabel f)

/-- `try { await … } catch {}`: whatever comes of it, the request goes on. -/
def quietly : Prog S M ε α → Prog S M ε Unit
  | done _ => done (.ok ())
  | step mark write next => step mark write (fun s => (next s).quietly)

def focus {T M' : Type} (get : T → S) (put : T → S → T) (mark : M → M') :
    Prog S M ε α → Prog T M' ε α
  | done result => done result
  | step m write next =>
      step (mark m) (fun t => put t (write (get t))) (fun t => (next (get t)).focus get put mark)

def execute (mark : M) (update : S → S) : Prog S M ε Unit :=
  step mark update (fun _ => pure ())

def expect (e : ε) : Option α → Prog S M ε α
  | some a => pure a
  | none => refuse e

def Reads : Prog S M ε α → Prop
  | done _ => True
  | step _ write next => (∀ s, write s = s) ∧ ∀ s, (next s).Reads

section Reads

@[simp]
theorem reads_pure (a : α) : (pure a : Prog S M ε α).Reads := trivial

@[simp]
theorem reads_read (mark : M) (query : S → α) : (read mark query : Prog S M ε α).Reads :=
  ⟨fun _ => rfl, fun _ => trivial⟩

@[simp]
theorem reads_require (c : Prop) [Decidable c] (e : ε) :
    (require c e : Prog S M ε Unit).Reads := by
  unfold require
  split
  · trivial
  · trivial

@[simp]
theorem reads_expect (e : ε) (x : Option α) : (expect e x : Prog S M ε α).Reads := by
  cases x with
  | none => trivial
  | some a => trivial

@[simp]
theorem reads_liftExcept (x : Except ε α) : (liftExcept x : Prog S M ε α).Reads := trivial

theorem reads_bind (p : Prog S M ε α) (f : α → Prog S M ε β) (first : p.Reads)
    (rest : ∀ a, (f a).Reads) : (p >>= f).Reads := by
  induction p with
  | done result =>
      cases result with
      | ok a => exact rest a
      | error e => trivial
  | step mark write next ih => exact ⟨first.1, fun s => ih s (first.2 s)⟩

end Reads

def run : Prog S M ε α → S → S × Except ε α
  | done result, s => (s, result)
  | step _ write next, s => (next s).run (write s)

theorem run_bind (p : Prog S M ε α) (f : α → Prog S M ε β) (s : S) :
    (p >>= f).run s =
      match p.run s with
      | (s', .ok a) => (f a).run s'
      | (s', .error e) => (s', .error e) := by
  induction p generalizing s with
  | done result =>
      cases result with
      | ok a => rfl
      | error e => rfl
  | step mark write next ih =>
      exact ih s (write s)

theorem commit_run (mark : M) (body : S → Except ε S) (s : S) :
    (commit mark body).run s =
      match body s with
      | .ok s' => (s', .ok ())
      | .error e => (s, .error e) := by
  unfold commit transact
  simp only [run]
  cases outcome : body s with
  | ok s' => simp [Except.map, run]
  | error e => simp [Except.map, run]

section Answered

variable (s s' : S)

theorem run_bind_ok (p : Prog S M ε α) (f : α → Prog S M ε β) (b : β) :
    (p >>= f).run s = (s', .ok b) ↔ ∃ t a, p.run s = (t, .ok a) ∧ (f a).run t = (s', .ok b) := by
  rw [run_bind]
  rcases p.run s with ⟨t, refused | a⟩
  · simp
  · constructor
    · exact fun answered => ⟨t, a, rfl, answered⟩
    · rintro ⟨_, _, same, answered⟩
      cases same
      exact answered

theorem run_pure_ok (a b : α) :
    (pure a : Prog S M ε α).run s = (s', .ok b) ↔ s = s' ∧ a = b := by
  simp [run, pure]

theorem run_read_ok (mark : M) (query : S → α) (a : α) :
    (read mark query : Prog S M ε α).run s = (s', .ok a) ↔ s = s' ∧ query s = a := by
  simp [run, read]

theorem run_require_ok (c : Prop) [Decidable c] (e : ε) (u : Unit) :
    (require c e : Prog S M ε Unit).run s = (s', .ok u) ↔ s = s' ∧ c := by
  by_cases holds : c
  · simp [require, holds, run, pure]
  · simp [require, holds, run, refuse]

theorem run_expect_ok (e : ε) (x : Option α) (a : α) :
    (expect e x : Prog S M ε α).run s = (s', .ok a) ↔ s = s' ∧ x = some a := by
  cases x with
  | none => simp [expect, run, refuse]
  | some b => simp [expect, run, pure]

theorem run_liftExcept_ok (x : Except ε α) (a : α) :
    (liftExcept x : Prog S M ε α).run s = (s', .ok a) ↔ s = s' ∧ x = .ok a := by
  simp [run, liftExcept]

theorem run_transact_ok (mark : M) (body : S → Except ε (S × α)) (a : α) :
    (transact mark body).run s = (s', .ok a) ↔ body s = .ok (s', a) := by
  rcases outcome : body s with refused | ⟨t, b⟩
  · simp [transact, run, outcome]
  · simp [transact, run, outcome]

theorem run_commit_ok (mark : M) (body : S → Except ε S) (u : Unit) :
    (commit mark body).run s = (s', .ok u) ↔ body s = .ok s' := by
  rcases outcome : body s with refused | t
  · simp [commit_run, outcome]
  · simp [commit_run, outcome]

end Answered

theorem quietly_run (p : Prog S M ε α) (s : S) : p.quietly.run s = ((p.run s).1, .ok ()) := by
  induction p generalizing s with
  | done result => rfl
  | step mark write next ih => exact ih s (write s)

theorem focus_run {T M' : Type} (get : T → S) (put : T → S → T) (mark : M → M')
    (get_put : ∀ t s, get (put t s) = s) (put_put : ∀ t s s', put (put t s) s' = put t s')
    (put_get : ∀ t, put t (get t) = t) (p : Prog S M ε α) (t : T) :
    (p.focus get put mark).run t = (put t (p.run (get t)).1, (p.run (get t)).2) := by
  have whole : ∀ (p : Prog S M ε α) (s : S),
      (p.focus get put mark).run (put t s) = (put t (p.run s).1, (p.run s).2) := by
    intro p
    induction p with
    | done result => exact fun s => rfl
    | step m write next ih =>
        intro s
        have step := ih s (write s)
        rw [← put_put t s] at step
        simpa only [focus, run, get_put] using step
  simpa only [put_get] using whole p (get t)

/-- Every outcome of running `p` alone from `s` satisfies `post`. -/
def Ensures (p : Prog S M ε α) (post : S → Except ε α → Prop) (s : S) : Prop :=
  post (p.run s).1 (p.run s).2

theorem ensures_mono {p : Prog S M ε α} {post post' : S → Except ε α → Prop} {s : S}
    (ensured : Ensures p post s) (weaker : ∀ s' result, post s' result → post' s' result) :
    Ensures p post' s :=
  weaker _ _ ensured

section Ensures

variable (post : S → Except ε β → Prop) (s : S)

@[simp]
theorem ensures_pure (b : β) :
    Ensures (pure b : Prog S M ε β) post s ↔ post s (.ok b) := Iff.rfl

theorem ensures_bind (p : Prog S M ε α) (f : α → Prog S M ε β) :
    Ensures (p >>= f) post s ↔
      Ensures p (fun s' result => match result with
        | .ok a => Ensures (f a) post s'
        | .error e => post s' (.error e)) s := by
  unfold Ensures
  rw [run_bind]
  rcases p.run s with ⟨s', result⟩
  cases result with
  | ok a => exact Iff.rfl
  | error e => exact Iff.rfl

@[simp]
theorem ensures_read (mark : M) (query : S → α) (f : α → Prog S M ε β) :
    Ensures (read mark query >>= f) post s ↔ Ensures (f (query s)) post s := Iff.rfl

@[simp]
theorem ensures_execute (mark : M) (update : S → S) (f : Unit → Prog S M ε β) :
    Ensures (execute mark update >>= f) post s ↔ Ensures (f ()) post (update s) := Iff.rfl

@[simp]
theorem ensures_require (c : Prop) [Decidable c] (e : ε) (f : Unit → Prog S M ε β) :
    Ensures (require c e >>= f) post s ↔
      (c → Ensures (f ()) post s) ∧ (¬c → post s (.error e)) := by
  unfold require
  by_cases holds : c
  · simp [holds]
  · simp [holds, refuse, Ensures, run]

@[simp]
theorem ensures_expect (e : ε) (x : Option α) (f : α → Prog S M ε β) :
    Ensures (expect e x >>= f) post s ↔
      (∀ a, x = some a → Ensures (f a) post s) ∧ (x = none → post s (.error e)) := by
  cases x with
  | none => simp [expect, refuse, Ensures, run]
  | some a => simp [expect]

@[simp]
theorem ensures_liftExcept (x : Except ε α) (f : α → Prog S M ε β) :
    Ensures (liftExcept x >>= f) post s ↔
      (∀ a, x = .ok a → Ensures (f a) post s) ∧ (∀ e, x = .error e → post s (.error e)) := by
  cases x with
  | ok a =>
      have same : (liftExcept (.ok a) >>= f : Prog S M ε β) = f a := rfl
      simp [same]
  | error e =>
      have same : (liftExcept (.error e : Except ε α) >>= f : Prog S M ε β) =
        done (.error e) := rfl
      simp [same, Ensures, run]

@[simp]
theorem ensures_transact (mark : M) (body : S → Except ε (S × α)) (f : α → Prog S M ε β) :
    Ensures (transact mark body >>= f) post s ↔
      (∀ s' a, body s = .ok (s', a) → Ensures (f a) post s') ∧
        (∀ e, body s = .error e → post s (.error e)) := by
  unfold transact
  simp only [step_bind, Ensures, run]
  rcases outcome : body s with e | ⟨s', a⟩
  · simp [run]
  · have same : (done (.ok a) >>= f : Prog S M ε β) = f a := rfl
    simp [same]

@[simp]
theorem ensures_attempt (mark : M) (body : S → Except ε (S × α))
    (f : Except ε α → Prog S M ε β) :
    Ensures (attempt mark body >>= f) post s ↔
      (∀ s' a, body s = .ok (s', a) → Ensures (f (.ok a)) post s') ∧
        (∀ e, body s = .error e → Ensures (f (.error e)) post s) := by
  unfold attempt
  simp only [step_bind, Ensures, run]
  rcases outcome : body s with e | ⟨s', a⟩
  · have same : (done (.ok (.error e)) >>= f : Prog S M ε β) = f (.error e) := rfl
    simp [Except.map, same]
  · have same : (done (.ok (.ok a)) >>= f : Prog S M ε β) = f (.ok a) := rfl
    simp [Except.map, same]

@[simp]
theorem ensures_commit (mark : M) (body : S → Except ε S) (f : Unit → Prog S M ε β) :
    Ensures (commit mark body >>= f) post s ↔
      (∀ s', body s = .ok s' → Ensures (f ()) post s') ∧
        (∀ e, body s = .error e → post s (.error e)) := by
  unfold commit
  rw [ensures_transact]
  constructor
  · rintro ⟨commits, fails⟩
    refine ⟨fun s' done => commits s' () ?_, fun e failed => fails e ?_⟩
    · rw [done]; rfl
    · rw [failed]; rfl
  · rintro ⟨commits, fails⟩
    refine ⟨fun s' a done => ?_, fun e failed => ?_⟩
    · obtain ⟨stored, committed, equal⟩ := (except_map_ok _ _ _).mp done
      cases equal
      exact commits s' committed
    · cases outcome : body s with
      | error e' =>
          rw [outcome] at failed
          cases failed
          exact fails e outcome
      | ok s' =>
          rw [outcome] at failed
          cases failed

theorem ensures_reads (p : Prog S M ε α) (f : α → Prog S M ε β) (reads : p.Reads)
    (rest : ∀ a, Ensures (f a) post s) (refused : ∀ e, post s (.error e)) :
    Ensures (p >>= f) post s := by
  induction p with
  | done result =>
      cases result with
      | ok a => exact rest a
      | error e => exact refused e
  | step mark write next ih =>
      have same : Ensures (step mark write next >>= f) post s ↔
          Ensures (next s >>= f) post (write s) := Iff.rfl
      rw [same, reads.1 s]
      exact ih s (reads.2 s)

theorem ensures_void (p : Prog S M ε α) (holds : S → Prop) :
    Ensures p.void (fun s' _ => holds s') s ↔ Ensures p (fun s' _ => holds s') s := by
  unfold void
  rw [ensures_bind]
  unfold Ensures
  rcases p.run s with ⟨s', result⟩
  cases result with
  | ok a => exact Iff.rfl
  | error e => exact Iff.rfl

end Ensures

/-- Run alone from `s`, the request is answered and leaves `s'`. -/
def Grants (p : Prog S M ε α) (s s' : S) : Prop :=
  Ensures p (fun reached result => reached = s' ∧ ∃ a, result = .ok a) s

section Grants

variable {s s' t : S}

theorem grants_read (mark : M) (query : S → α) (f : α → Prog S M ε β)
    (rest : Grants (f (query s)) s t) : Grants (read mark query >>= f) s t := rest

theorem grants_bind (p : Prog S M ε α) (f : α → Prog S M ε β) (first : Grants p s s')
    (rest : ∀ a, Grants (f a) s' t) : Grants (p >>= f) s t := by
  refine (ensures_bind _ s p f).mpr ?_
  obtain ⟨reached, a, answer⟩ := first
  unfold Ensures
  rw [reached, answer]
  exact rest a

theorem grants_require (c : Prop) [Decidable c] (e : ε) (f : Unit → Prog S M ε β) (holds : c)
    (rest : Grants (f ()) s t) : Grants (require c e >>= f) s t :=
  (ensures_require _ s c e f).mpr ⟨fun _ => rest, fun fails => absurd holds fails⟩

theorem grants_expect (e : ε) (x : Option α) (a : α) (f : α → Prog S M ε β) (found : x = some a)
    (rest : Grants (f a) s t) : Grants (expect e x >>= f) s t := by
  rw [found]
  exact rest

theorem grants_liftExcept (x : Except ε α) (a : α) (f : α → Prog S M ε β) (ok : x = .ok a)
    (rest : Grants (f a) s t) : Grants (liftExcept x >>= f) s t := by
  rw [ok]
  exact rest

theorem grants_commit (mark : M) (body : S → Except ε S) (f : Unit → Prog S M ε β)
    (done : body s = .ok s') (rest : Grants (f ()) s' t) :
    Grants (commit mark body >>= f) s t := by
  refine (ensures_commit _ s mark body f).mpr ⟨?_, ?_⟩
  · intro reached same
    rw [done] at same
    cases same
    exact rest
  · intro e failed
    rw [done] at failed
    cases failed

theorem grants_done (a : α) : Grants (pure a : Prog S M ε α) s s := ⟨rfl, a, rfl⟩

theorem grants_void (p : Prog S M ε α) (granted : Grants p s t) : (p.void.run s).1 = t := by
  have same : Grants p.void s t := grants_bind p _ granted (fun _ => grants_done ())
  exact same.1

end Grants

end Prog

end ErpBackend.Foundation
