import ErpBackend.Foundation.Interleave

/-!
# Steps in flight

For statements about every run of requests that hold something between two of their
steps. A mark says what its step does and which mark follows (`leads`), what is
known of the store while the step is pending (`known`), and which two marks may
be pending at once (`apart`). A run may be restricted to steps that fit.
-/

namespace ErpBackend.Foundation

variable {S M ε α β : Type}

inductive FittingStep (requests : Prog S M ε α → Prop) (fits : S → M → Prop) :
    Config S M ε α → Config S M ε α → Prop
  | arrive (s : S) (inFlight : List (Prog S M ε α)) (p : Prog S M ε α)
      (issued : requests p) :
      FittingStep requests fits ⟨s, inFlight⟩ ⟨s, inFlight ++ [p]⟩
  | advance (s : S) (before after : List (Prog S M ε α)) (m : M) (write : S → S)
      (next : S → Prog S M ε α) (fit : fits s m) :
      FittingStep requests fits
        ⟨s, before ++ .step m write next :: after⟩ ⟨write s, before ++ next s :: after⟩

abbrev FittingRun (requests : Prog S M ε α → Prop) (fits : S → M → Prop) :
    Config S M ε α → Config S M ε α → Prop :=
  Relation.ReflTransGen (FittingStep requests fits)

variable (requests : Prog S M ε α → Prop)

theorem fitting_advance (fits : S → M → Prop)
    (c : Config S M ε α) (index : Nat) (m : M)
    (pending : c.inFlight[index]?.bind Prog.mark? = some m) (fit : fits c.store m) :
    FittingStep requests fits c (c.move (.advance index)) := by
  obtain ⟨before, after, write, next, split, -, moved⟩ := c.move_pending index m pending
  rw [moved, split]
  exact .advance c.store before after m write next fit

theorem FittingStep.moves {requests : Prog S M ε α → Prop} {fits : S → M → Prop}
    {c c' : Config S M ε α} (taken : FittingStep requests fits c c') :
    c'.store = c.store ∨ ∃ index m, c.inFlight[index]?.bind Prog.mark? = some m ∧
      fits c.store m ∧ c' = c.move (.advance index) := by
  cases taken with
  | arrive s inFlight p issued => exact .inl rfl
  | advance s before after m write next fit =>
      right
      have found : (before ++ .step m write next :: after)[before.length]? =
          some (.step m write next) := by simp
      refine ⟨before.length, m, by rw [found]; rfl, fit, ?_⟩
      simp [Config.move]

theorem FittingRun.mono {requests : Prog S M ε α → Prop} {fits fits' : S → M → Prop}
    (weaker : ∀ s m, fits s m → fits' s m) {c c' : Config S M ε α}
    (run : FittingRun requests fits c c') : FittingRun requests fits' c c' := by
  refine Relation.ReflTransGen.mono ?_ _ _ run
  intro a b taken
  cases taken with
  | arrive s inFlight p issued => exact .arrive s inFlight p issued
  | advance s before after m write next fit =>
      exact .advance s before after m write next (weaker s m fit)

def Config.Fits (fits : S → M → Prop) : Config S M ε α → List (Move S M ε α) → Prop
  | _, [] => True
  | c, .arrive p :: rest => (c.move (.arrive p)).Fits fits rest
  | c, .advance index :: rest =>
      (∀ m ∈ (c.inFlight[index]?.bind Prog.mark?), fits c.store m) ∧
        (c.move (.advance index)).Fits fits rest

instance decideFits (fits : S → M → Prop) [∀ s m, Decidable (fits s m)] :
    (c : Config S M ε α) → (moves : List (Move S M ε α)) → Decidable (c.Fits fits moves)
  | _, [] => .isTrue trivial
  | c, .arrive p :: rest => decideFits fits (c.move (.arrive p)) rest
  | c, .advance index :: rest =>
      have := decideFits fits (c.move (.advance index)) rest
      inferInstanceAs (Decidable (_ ∧ (c.move (.advance index)).Fits fits rest))

theorem fits_any (c : Config S M ε α) (moves : List (Move S M ε α)) :
    c.Fits (fun _ _ => True) moves := by
  induction moves generalizing c with
  | nil => trivial
  | cons move rest ih =>
      cases move with
      | arrive p => exact ih _
      | advance index => exact ⟨fun _ _ => trivial, ih _⟩

theorem fitting_schedule (fits : S → M → Prop)
    (c : Config S M ε α) (moves : List (Move S M ε α))
    (issued : ∀ p, .arrive p ∈ moves → requests p) (fit : c.Fits fits moves) :
    FittingRun requests fits c (c.schedule moves) := by
  refine schedule_steps _ (fun c moves =>
    (∀ p, .arrive p ∈ moves → requests p) ∧ c.Fits fits moves) ?_ c moves ⟨issued, fit⟩
  intro c move rest ⟨issued, fit⟩
  have later : ∀ p, .arrive p ∈ rest → requests p :=
    fun p member => issued p (List.mem_cons_of_mem _ member)
  cases move with
  | arrive p => exact ⟨.single (.arrive c.store c.inFlight p (issued p (by simp))), later, fit⟩
  | advance index =>
      refine ⟨?_, later, fit.2⟩
      cases pending : c.inFlight[index]?.bind Prog.mark? with
      | none => rw [c.move_idle index pending]
      | some m => exact .single (fitting_advance requests fits c index m pending
          (fit.1 m (by rw [pending]; rfl)))

namespace Prog

/-- From any store, every step is in `leads`. -/
def Walks (leads : M → S → S → Option M → Prop) : Prog S M ε α → Prop
  | done _ => True
  | step m write next => ∀ s, leads m s (write s) (next s).mark? ∧ (next s).Walks leads

section Walks

variable {leads : M → S → S → Option M → Prop}

theorem walks_read (m : M) (query : S → α) (f : α → Prog S M ε β)
    (each : ∀ s, leads m s s (f (query s)).mark? ∧ (f (query s)).Walks leads) :
    (read m query >>= f).Walks leads :=
  each

theorem walks_execute (m : M) (update : S → S) (f : Unit → Prog S M ε β)
    (each : ∀ s, leads m s (update s) (f ()).mark?) (rest : (f ()).Walks leads) :
    (execute m update >>= f).Walks leads :=
  fun s => ⟨each s, rest⟩

theorem walks_transact (m : M) (body : S → Except ε (S × α)) (f : α → Prog S M ε β)
    (commits : ∀ s s' a, body s = .ok (s', a) → leads m s s' (f a).mark? ∧ (f a).Walks leads)
    (fails : ∀ s e, body s = .error e → leads m s s none) :
    (transact m body >>= f).Walks leads := by
  intro s
  dsimp only
  rcases outcome : body s with e | ⟨s', a⟩
  · exact ⟨fails s e outcome, trivial⟩
  · exact commits s s' a outcome

theorem walks_attempt (m : M) (body : S → Except ε (S × α)) (f : Except ε α → Prog S M ε β)
    (commits : ∀ s s' a, body s = .ok (s', a) →
      leads m s s' (f (.ok a)).mark? ∧ (f (.ok a)).Walks leads)
    (fails : ∀ s e, body s = .error e →
      leads m s s (f (.error e)).mark? ∧ (f (.error e)).Walks leads) :
    (attempt m body >>= f).Walks leads := by
  intro s
  dsimp only
  rcases outcome : body s with e | ⟨s', a⟩
  · exact fails s e outcome
  · exact commits s s' a outcome

theorem walks_commit (m : M) (body : S → Except ε S) (f : Unit → Prog S M ε β)
    (commits : ∀ s s', body s = .ok s' → leads m s s' (f ()).mark?)
    (fails : ∀ s e, body s = .error e → leads m s s none) (rest : (f ()).Walks leads) :
    (commit m body >>= f).Walks leads := by
  apply walks_transact
  · intro s s' _ done
    obtain ⟨stored, committed, equal⟩ := (except_map_ok _ _ _).mp done
    cases equal
    exact ⟨commits s s' committed, rest⟩
  · intro s e failed
    rcases outcome : body s with e' | s'
    · exact fails s e' outcome
    · rw [outcome] at failed
      cases failed

theorem walks_require (c : Prop) [Decidable c] (e : ε) (f : Unit → Prog S M ε β)
    (rest : c → (f ()).Walks leads) : (require c e >>= f).Walks leads := by
  unfold require
  split
  · next holds => exact rest holds
  · trivial

theorem walks_expect (e : ε) (x : Option α) (f : α → Prog S M ε β)
    (rest : ∀ a, x = some a → (f a).Walks leads) : (expect e x >>= f).Walks leads := by
  cases x with
  | none => trivial
  | some a => exact rest a rfl

variable (p : Prog S M ε α)

theorem mark_map (g : α → β) : (p >>= fun a => pure (g a)).mark? = p.mark? := by
  cases p with
  | done result =>
      cases result with
      | ok a => rfl
      | error e => rfl
  | step m write next => rfl

theorem walks_map (g : α → β) (walks : p.Walks leads) :
    (p >>= fun a => pure (g a)).Walks leads := by
  induction p with
  | done result =>
      cases result with
      | ok a => trivial
      | error e => trivial
  | step m write next ih =>
      intro s
      obtain ⟨taken, rest⟩ := walks s
      refine ⟨?_, ih s rest⟩
      have same : (next s >>= fun a => pure (g a)).mark? = (next s).mark? := mark_map _ g
      exact same ▸ taken

theorem mark_relabel {M' : Type} (f : M → M') (p : Prog S M ε α) :
    (p.relabel f).mark? = p.mark?.map f := by
  cases p with
  | done result => rfl
  | step m write next => rfl

theorem walks_relabel {M' : Type} {leads' : M' → S → S → Option M' → Prop} (f : M → M')
    (p : Prog S M ε α)
    (walks : p.Walks (fun m s s' next => leads' (f m) s s' (next.map f))) :
    (p.relabel f).Walks leads' := by
  induction p with
  | done result => trivial
  | step m write next ih =>
      intro s
      obtain ⟨taken, rest⟩ := walks s
      refine ⟨?_, ih s rest⟩
      rw [mark_relabel]
      exact taken

theorem walks_imp {leads' : M → S → S → Option M → Prop} (p : Prog S M ε α)
    (weaker : ∀ m s s' next, leads m s s' next → leads' m s s' next) (walks : p.Walks leads) :
    p.Walks leads' := by
  induction p with
  | done result => trivial
  | step m write next ih =>
      intro s
      obtain ⟨taken, rest⟩ := walks s
      exact ⟨weaker _ _ _ _ taken, ih s rest⟩

theorem walks_any : p.Walks (fun _ _ _ _ => True) := by
  induction p with
  | done result => trivial
  | step m write next ih => exact fun s => ⟨trivial, ih s⟩

theorem walks_void (walks : p.Walks leads) : p.void.Walks leads :=
  walks_map p (fun _ => ()) walks

end Walks

end Prog

structure Protocol (S M : Type) where
  inv : S → Prop
  fits : S → M → Prop
  leads : M → S → S → Option M → Prop
  known : M → S → Prop
  apart : S → M → M → Prop
  apart_symm : ∀ s m m', apart s m m' → apart s m' m
  own : ∀ m s s' next, inv s → fits s m → known m s → leads m s s' next →
    inv s' ∧ ∀ m', next = some m' → known m' s'
  frame : ∀ m s s' next other, inv s → fits s m → known m s → known other s →
    apart s m other → leads m s s' next →
      known other s' ∧ ∀ m', next = some m' → apart s' m' other
  rest : ∀ m s s' next other other', inv s → fits s m → known m s → leads m s s' next →
    apart s other other' → apart s' other other'

namespace Protocol

variable (P : Protocol S M)

def Apart (s : S) (p q : Prog S M ε α) : Prop :=
  ∀ m m', p.mark? = some m → q.mark? = some m' → P.apart s m m'

structure Sound (c : Config S M ε α) : Prop where
  inv : P.inv c.store
  walks : ∀ p ∈ c.inFlight, p.Walks P.leads
  known : ∀ p ∈ c.inFlight, ∀ m, p.mark? = some m → P.known m c.store
  apart : c.inFlight.Pairwise (P.Apart c.store)

theorem sound_idle (s : S) (invariant : P.inv s) : P.Sound (Config.idle s : Config S M ε α) :=
  ⟨invariant, fun _ member => (by cases member), fun _ member => (by cases member), .nil⟩

/-- What a request must be to enter: it walks, and its first step knows nothing special. -/
structure Enters (p : Prog S M ε α) (s : S) : Prop where
  walks : p.Walks P.leads
  known : ∀ m, p.mark? = some m → P.known m s
  apart : ∀ m, p.mark? = some m → ∀ other, P.apart s other m

theorem step_sound (c c' : Config S M ε α)
    (enters : ∀ p, requests p → P.Enters p c.store) (taken : FittingStep requests P.fits c c')
    (sound : P.Sound c) : P.Sound c' := by
  obtain ⟨invariant, walks, known, apart⟩ := sound
  cases taken with
  | arrive s inFlight p issued =>
      have new := enters p issued
      refine ⟨invariant, ?_, ?_, ?_⟩
      · intro q member
        rcases List.mem_append.mp member with old | last
        · exact walks q old
        · rw [List.mem_singleton.mp last]
          exact new.walks
      · intro q member
        rcases List.mem_append.mp member with old | last
        · exact known q old
        · rw [List.mem_singleton.mp last]
          exact new.known
      · refine List.pairwise_append.mpr ⟨apart, List.pairwise_singleton _ _, ?_⟩
        intro q _ last member m m' _ second
        rw [List.mem_singleton.mp member] at second
        exact new.apart m' second m
  | advance s before after m write next fit =>
      have inside : Prog.step m write next ∈ before ++ Prog.step m write next :: after := by simp
      obtain ⟨led, onward⟩ := walks _ inside s
      have ownKnown := known _ inside m rfl
      obtain ⟨kept, knows⟩ := P.own m s (write s) _ invariant fit ownKnown led
      obtain ⟨left, middle, cross⟩ := List.pairwise_append.mp apart
      obtain ⟨beside, right⟩ := List.pairwise_cons.mp middle
      -- what the step leaves of the others
      have framed : ∀ q ∈ before ++ after, ∀ other, q.mark? = some other →
          P.known other (write s) ∧
            ∀ m', (next s).mark? = some m' → P.apart (write s) m' other := by
        intro q member other about
        have standing : q ∈ before ++ Prog.step m write next :: after := by
          rcases List.mem_append.mp member with l | r
          · simp [l]
          · simp [r]
        have between : P.apart s m other := by
          rcases List.mem_append.mp member with l | r
          · exact P.apart_symm s _ _ (cross q l _ (List.mem_cons_self ..) other m about rfl)
          · exact beside q r m other rfl about
        exact P.frame m s (write s) _ other invariant fit ownKnown (known q standing other about)
          between led
      have still : ∀ p q : Prog S M ε α, P.Apart s p q → P.Apart (write s) p q :=
        fun p q between a b first second =>
          P.rest m s (write s) _ a b invariant fit ownKnown led (between a b first second)
      refine ⟨kept, ?_, ?_, ?_⟩
      · intro q member
        rcases List.mem_append.mp member with l | r
        · exact walks q (by simp [l])
        · rcases List.mem_cons.mp r with rfl | r
          · exact onward
          · exact walks q (by simp [r])
      · intro q member
        rcases List.mem_append.mp member with l | r
        · exact fun other about => (framed q (List.mem_append_left _ l) other about).1
        · rcases List.mem_cons.mp r with rfl | r
          · exact knows
          · exact fun other about => (framed q (List.mem_append_right _ r) other about).1
      · refine List.pairwise_append.mpr ⟨left.imp (still _ _), ?_, ?_⟩
        · refine List.pairwise_cons.mpr ⟨?_, right.imp (still _ _)⟩
          intro q member a b first second
          exact (framed q (List.mem_append_right _ member) b second).2 a first
        · intro p l q r
          rcases List.mem_cons.mp r with rfl | r
          · intro a b first second
            exact P.apart_symm _ _ _ ((framed p (List.mem_append_left _ l) a first).2 b second)
          · exact still p q (cross p l q (List.mem_cons_of_mem _ r))

theorem run_sound (c c' : Config S M ε α)
    (enters : ∀ p, requests p → ∀ s, P.inv s → P.Enters p s)
    (run : FittingRun requests P.fits c c') (sound : P.Sound c) : P.Sound c' := by
  induction run with
  | refl => exact sound
  | tail _ last ih =>
      exact P.step_sound requests _ _ (fun p issued => enters p issued _ ih.inv) last ih

theorem Sound.keeps {requests : Prog S M ε α → Prop} {fits : S → M → Prop}
    (fitting : ∀ s m, fits s m → P.fits s m)
    (enters : ∀ p, requests p → ∀ s, P.inv s → P.Enters p s) (holds : S → Prop)
    (each : ∀ m s s' next, P.inv s → fits s m → P.known m s → P.leads m s s' next →
      holds s → holds s')
    {c c' : Config S M ε α} (sound : P.Sound c) (run : FittingRun requests fits c c')
    (now : holds c.store) : P.Sound c' ∧ holds c'.store := by
  induction run with
  | refl => exact ⟨sound, now⟩
  | @tail middle last _ taken ih =>
      obtain ⟨sound, held⟩ := ih
      have loose := FittingRun.mono fitting (.single taken)
      refine ⟨P.run_sound requests middle last enters loose sound, ?_⟩
      cases taken with
      | arrive s inFlight p issued => exact held
      | advance s before after m write next fit =>
          have inside : Prog.step m write next ∈ before ++ Prog.step m write next :: after := by
            simp
          have known := sound.known _ inside m rfl
          exact each m s (write s) _ sound.inv fit known (sound.walks _ inside s).1 held

theorem Sound.taken {s : S} {before after : List (Prog S M ε α)} {m : M} {write : S → S}
    {next : S → Prog S M ε α}
    (sound : P.Sound ⟨s, before ++ .step m write next :: after⟩) :
    P.known m s ∧ P.leads m s (write s) (next s).mark? :=
  ⟨sound.known (.step m write next) (by simp) m rfl,
    (sound.walks (.step m write next) (by simp) s).1⟩

theorem Sound.moved {c : Config S M ε α} (sound : P.Sound c) (index : Nat) (m : M)
    (pending : c.inFlight[index]?.bind Prog.mark? = some m) :
    P.known m c.store ∧ ∃ next, P.leads m c.store (c.move (.advance index)).store next := by
  obtain ⟨p, found, first⟩ := Option.bind_eq_some_iff.mp pending
  have inside := List.mem_of_getElem? found
  refine ⟨sound.known p inside m first, ?_⟩
  cases p with
  | done result => cases first
  | step mark write next =>
      cases first
      have led := (sound.walks _ inside c.store).1
      refine ⟨(next c.store).mark?, ?_⟩
      simp only [Config.move, found]
      exact led

def stateless (inv : S → Prop) (fits : S → M → Prop) (leads : M → S → S → Option M → Prop)
    (keeps : ∀ m s s' next, inv s → fits s m → leads m s s' next → inv s') : Protocol S M where
  inv := inv
  fits := fits
  leads := leads
  known _ _ := True
  apart _ _ _ := True
  apart_symm _ _ _ _ := trivial
  own m s s' next held fit _ led := ⟨keeps m s s' next held fit led, fun _ _ => trivial⟩
  frame _ _ _ _ _ _ _ _ _ _ _ := ⟨trivial, fun _ _ => trivial⟩
  rest _ _ _ _ _ _ _ _ _ _ _ := trivial

theorem stateless_run (inv : S → Prop) (fits : S → M → Prop)
    (leads : M → S → S → Option M → Prop)
    (keeps : ∀ m s s' next, inv s → fits s m → leads m s s' next → inv s')
    (requests : Prog S M ε α → Prop) (walks : ∀ p, requests p → p.Walks leads)
    (start : S) (held : inv start) (c : Config S M ε α)
    (run : FittingRun requests fits (Config.idle start) c) : inv c.store := by
  have sound := (stateless inv fits leads keeps).run_sound requests (Config.idle start) c
    (fun p issued _ _ => ⟨walks p issued, fun _ _ => trivial, fun _ _ _ => trivial⟩) run
    (sound_idle _ start held)
  exact sound.inv

end Protocol

end ErpBackend.Foundation
