import ErpBackend.Foundation.Program

/-!
# Interleaved requests

Requests arrive at any time and advance one atomic step at a time in any order.
`allowed s m m'` restricts a run: in store `s` a step marked `m` may be taken
while another request is about to take its step marked `m'`.

The rule for invariants is rely–guarantee. The rely of a request may change
with the step it is about to take, so that "nobody touches the row between my
read and my write" is the rely of the marks in between.
-/

namespace ErpBackend.Foundation

variable {S M ε α : Type}

namespace Prog

def mark? : Prog S M ε α → Option M
  | done _ => none
  | step mark _ _ => some mark

/-- What is next is allowed beside a step marked `m`. -/
def Permits (allowed : S → M → M → Prop) (s : S) (m : M) : Prog S M ε α → Prop
  | done _ => True
  | step mark _ _ => allowed s m mark

end Prog

structure Config (S M ε α : Type) where
  store : S
  inFlight : List (Prog S M ε α)

namespace Config

def idle (s : S) : Config S M ε α := ⟨s, []⟩

end Config

inductive Step (requests : Prog S M ε α → Prop) (allowed : S → M → M → Prop) :
    Config S M ε α → Config S M ε α → Prop
  | arrive (s : S) (inFlight : List (Prog S M ε α)) (p : Prog S M ε α)
      (issued : requests p) :
      Step requests allowed ⟨s, inFlight⟩ ⟨s, inFlight ++ [p]⟩
  | advance (s : S) (before after : List (Prog S M ε α)) (m : M) (write : S → S)
      (next : S → Prog S M ε α)
      (others : ∀ q ∈ before ++ after, q.Permits allowed s m) :
      Step requests allowed
        ⟨s, before ++ .step m write next :: after⟩ ⟨write s, before ++ next s :: after⟩

abbrev Run (requests : Prog S M ε α → Prop) (allowed : S → M → M → Prop) :
    Config S M ε α → Config S M ε α → Prop :=
  Relation.ReflTransGen (Step requests allowed)

def anyOrder : S → M → M → Prop := fun _ _ _ => True

inductive Move (S M ε α : Type) where
  | arrive (p : Prog S M ε α)
  | advance (index : Nat)

def Config.move (c : Config S M ε α) : Move S M ε α → Config S M ε α
  | .arrive p => ⟨c.store, c.inFlight ++ [p]⟩
  | .advance index =>
      match c.inFlight[index]? with
      | some (.step _ write next) => ⟨write c.store, c.inFlight.set index (next c.store)⟩
      | _ => c

def Config.schedule (c : Config S M ε α) (moves : List (Move S M ε α)) : Config S M ε α :=
  moves.foldl Config.move c

/-- Every move of the schedule respects `allowed`. -/
def Config.Admits (allowed : S → M → M → Prop) :
    Config S M ε α → List (Move S M ε α) → Prop
  | _, [] => True
  | c, .arrive p :: rest => (c.move (.arrive p)).Admits allowed rest
  | c, .advance index :: rest =>
      (∀ m ∈ (c.inFlight[index]?.bind Prog.mark?), ∀ q ∈ c.inFlight.eraseIdx index,
        q.Permits allowed c.store m) ∧ (c.move (.advance index)).Admits allowed rest

instance (allowed : S → M → M → Prop) [∀ s m m', Decidable (allowed s m m')] (s : S) (m : M)
    (q : Prog S M ε α) : Decidable (q.Permits allowed s m) :=
  match q with
  | .done _ => .isTrue trivial
  | .step mark _ _ => inferInstanceAs (Decidable (allowed s m mark))

instance decideAdmits (allowed : S → M → M → Prop) [∀ s m m', Decidable (allowed s m m')] :
    (c : Config S M ε α) → (moves : List (Move S M ε α)) → Decidable (c.Admits allowed moves)
  | _, [] => .isTrue trivial
  | c, .arrive p :: rest => decideAdmits allowed (c.move (.arrive p)) rest
  | c, .advance index :: rest =>
      have := decideAdmits allowed (c.move (.advance index)) rest
      inferInstanceAs (Decidable (_ ∧ (c.move (.advance index)).Admits allowed rest))

theorem permits_anyOrder (q : Prog S M ε α) (s : S) (m : M) : q.Permits anyOrder s m := by
  cases q with
  | done result => trivial
  | step mark write next => trivial

theorem admits_anyOrder (c : Config S M ε α) (moves : List (Move S M ε α)) :
    c.Admits anyOrder moves := by
  induction moves generalizing c with
  | nil => trivial
  | cons move rest ih =>
      cases move with
      | arrive p => exact ih _
      | advance index =>
          exact ⟨fun m _ q _ => permits_anyOrder q c.store m, ih _⟩

theorem Config.move_idle (c : Config S M ε α) (index : Nat)
    (idle : c.inFlight[index]?.bind Prog.mark? = none) : c.move (.advance index) = c := by
  simp only [Config.move]
  split
  · next found => simp [found, Prog.mark?] at idle
  · rfl

theorem Config.move_pending (c : Config S M ε α) (index : Nat) (m : M)
    (pending : c.inFlight[index]?.bind Prog.mark? = some m) :
    ∃ before after write next, c = ⟨c.store, before ++ .step m write next :: after⟩ ∧
      c.inFlight.eraseIdx index = before ++ after ∧
      c.move (.advance index) = ⟨write c.store, before ++ next c.store :: after⟩ := by
  rcases c with ⟨s, inFlight⟩
  obtain ⟨p, found, marked⟩ := Option.bind_eq_some_iff.mp pending
  cases p with
  | done result => cases marked
  | step mark write next =>
      cases marked
      obtain ⟨inside, value⟩ := List.getElem?_eq_some_iff.mp found
      refine ⟨inFlight.take index, inFlight.drop (index + 1), write, next, ?_,
        List.eraseIdx_eq_take_drop_succ .., ?_⟩
      · rw [← value, List.getElem_cons_drop, List.take_append_drop]
      · simp only [Config.move, found]
        rw [List.set_eq_take_append_cons_drop, if_pos inside]

variable (requests : Prog S M ε α → Prop)

theorem advance_step (allowed : S → M → M → Prop)
    (c : Config S M ε α) (index : Nat)
    (pending : (c.inFlight[index]?.bind Prog.mark?).isSome = true)
    (permitted : ∀ m ∈ (c.inFlight[index]?.bind Prog.mark?), ∀ q ∈ c.inFlight.eraseIdx index,
      q.Permits allowed c.store m) :
    Step requests allowed c (c.move (.advance index)) := by
  obtain ⟨m, marked⟩ := Option.isSome_iff_exists.mp pending
  obtain ⟨before, after, write, next, split, others, moved⟩ := c.move_pending index m marked
  rw [moved, split]
  exact .advance c.store before after m write next (others ▸ permitted m marked)

theorem schedule_steps (step : Config S M ε α → Config S M ε α → Prop)
    (fine : Config S M ε α → List (Move S M ε α) → Prop)
    (each : ∀ c move rest, fine c (move :: rest) →
      Relation.ReflTransGen step c (c.move move) ∧ fine (c.move move) rest)
    (c : Config S M ε α) (moves : List (Move S M ε α)) (all : fine c moves) :
    Relation.ReflTransGen step c (c.schedule moves) := by
  induction moves generalizing c with
  | nil => exact .refl
  | cons move rest ih =>
      obtain ⟨first, later⟩ := each c move rest all
      exact first.trans (ih _ later)

theorem schedule_run (allowed : S → M → M → Prop)
    (c : Config S M ε α) (moves : List (Move S M ε α))
    (issued : ∀ p, .arrive p ∈ moves → requests p) (admitted : c.Admits allowed moves) :
    Run requests allowed c (c.schedule moves) := by
  refine schedule_steps _ (fun c moves =>
    (∀ p, .arrive p ∈ moves → requests p) ∧ c.Admits allowed moves) ?_ c moves ⟨issued, admitted⟩
  intro c move rest ⟨issued, admitted⟩
  have later : ∀ p, .arrive p ∈ rest → requests p :=
    fun p member => issued p (List.mem_cons_of_mem _ member)
  cases move with
  | arrive p => exact ⟨.single (.arrive c.store c.inFlight p (issued p (by simp))), later, admitted⟩
  | advance index =>
      refine ⟨?_, later, admitted.2⟩
      cases pending : c.inFlight[index]?.bind Prog.mark? with
      | none => rw [c.move_idle index pending]
      | some m => exact .single (advance_step requests allowed c index (by rw [pending]; rfl)
          admitted.1)

theorem finish_run (before : List (Prog S M ε α)) (s : S)
    (p : Prog S M ε α) :
    ∃ result, Run requests anyOrder ⟨s, before ++ [p]⟩
      ⟨(p.run s).1, before ++ [.done result]⟩ := by
  induction p generalizing s with
  | done result => exact ⟨result, .refl⟩
  | step mark write next ih =>
      obtain ⟨result, rest⟩ := ih s (write s)
      exact ⟨result, .head (.advance s before [] mark write next
        (fun q _ => permits_anyOrder q s mark)) rest⟩

def runAll (s : S) (requests : List (Prog S M ε α)) : S :=
  requests.foldl (fun s p => (p.run s).1) s

theorem inTurn_run_from (c : Config S M ε α)
    (ps : List (Prog S M ε α)) (issued : ∀ p ∈ ps, requests p) :
    ∃ c', Run requests anyOrder c c' ∧ c'.store = runAll c.store ps := by
  induction ps generalizing c with
  | nil => exact ⟨c, .refl, rfl⟩
  | cons p rest ih =>
      obtain ⟨s, before⟩ := c
      obtain ⟨result, served⟩ := finish_run requests before s p
      obtain ⟨c', later, store⟩ := ih ⟨(p.run s).1, before ++ [.done result]⟩
        (fun q member => issued q (List.mem_cons_of_mem _ member))
      exact ⟨c', (Relation.ReflTransGen.head (.arrive s before p (issued p (by simp)))
        served).trans later, store⟩

theorem inTurn_run (s : S) (ps : List (Prog S M ε α))
    (issued : ∀ p ∈ ps, requests p) :
    ∃ c, Run requests anyOrder (.idle s) c ∧ c.store = runAll s ps :=
  inTurn_run_from requests (.idle s) ps issued

/-- What a group of requests promises and relies on. `rely m` is what a request
about to take a step marked `m` needs of the steps of the others, `guar m` what
its own step marked `m` does to the store. -/
structure Discipline (S M : Type) where
  inv : S → Prop
  guar : M → S → S → Prop
  rely : M → S → S → Prop
  rely_refl : ∀ m s, rely m s s
  rely_trans : ∀ m s s' s'', rely m s s' → rely m s' s'' → rely m s s''

namespace Discipline

variable (D : Discipline S M)

/-- From `s`, and whatever others do inside the rely, every step keeps the
invariant and its guarantee. -/
def Safe : Prog S M ε α → S → Prop
  | .done _, _ => True
  | .step m write next, s =>
      ∀ s', D.rely m s s' → D.inv s' →
        D.inv (write s') ∧ D.guar m s' (write s') ∧ Safe (next s') (write s')

section Rules

variable (s : S) {β : Type}

@[simp]
theorem safe_pure (b : β) : D.Safe (pure b : Prog S M ε β) s := trivial

@[simp]
theorem safe_refuse (e : ε) : D.Safe (Prog.refuse e : Prog S M ε β) s := trivial

theorem safe_read (m : M) (query : S → α) (f : α → Prog S M ε β)
    (own : ∀ s', D.rely m s s' → D.inv s' →
      D.guar m s' s' ∧ D.Safe (f (query s')) s') :
    D.Safe (Prog.read m query >>= f) s := by
  intro s' relied invariant
  obtain ⟨guaranteed, rest⟩ := own s' relied invariant
  exact ⟨invariant, guaranteed, rest⟩

theorem safe_execute (m : M) (update : S → S) (f : Unit → Prog S M ε β)
    (own : ∀ s', D.rely m s s' → D.inv s' →
      D.inv (update s') ∧ D.guar m s' (update s') ∧ D.Safe (f ()) (update s')) :
    D.Safe (Prog.execute m update >>= f) s :=
  own

theorem safe_transact (m : M) (body : S → Except ε (S × α)) (f : α → Prog S M ε β)
    (commits : ∀ s', D.rely m s s' → D.inv s' → ∀ s'' a, body s' = .ok (s'', a) →
      D.inv s'' ∧ D.guar m s' s'' ∧ D.Safe (f a) s'')
    (fails : ∀ s', D.guar m s' s') :
    D.Safe (Prog.transact m body >>= f) s := by
  intro s' relied invariant
  dsimp only
  rcases outcome : body s' with e | ⟨s'', a⟩
  · exact ⟨invariant, fails s', trivial⟩
  · exact commits s' relied invariant s'' a outcome

theorem safe_attempt (m : M) (body : S → Except ε (S × α)) (f : Except ε α → Prog S M ε β)
    (commits : ∀ s', D.rely m s s' → D.inv s' → ∀ s'' a, body s' = .ok (s'', a) →
      D.inv s'' ∧ D.guar m s' s'' ∧ D.Safe (f (.ok a)) s'')
    (fails : ∀ s' e, D.guar m s' s' ∧ D.Safe (f (.error e)) s') :
    D.Safe (Prog.attempt m body >>= f) s := by
  intro s' relied invariant
  dsimp only
  rcases outcome : body s' with e | ⟨s'', a⟩
  · obtain ⟨guaranteed, rest⟩ := fails s' e
    exact ⟨invariant, guaranteed, rest⟩
  · exact commits s' relied invariant s'' a outcome

theorem safe_commit (m : M) (body : S → Except ε S) (f : Unit → Prog S M ε β)
    (commits : ∀ s', D.rely m s s' → D.inv s' → ∀ s'', body s' = .ok s'' →
      D.inv s'' ∧ D.guar m s' s'' ∧ D.Safe (f ()) s'')
    (fails : ∀ s', D.guar m s' s') :
    D.Safe (Prog.commit m body >>= f) s := by
  apply safe_transact
  · intro s' relied invariant s'' _ done
    obtain ⟨stored, committed, equal⟩ := (except_map_ok _ _ _).mp done
    cases equal
    exact commits s' relied invariant s'' committed
  · exact fails

theorem safe_require (c : Prop) [Decidable c] (e : ε) (f : Unit → Prog S M ε β)
    (rest : c → D.Safe (f ()) s) : D.Safe (Prog.require c e >>= f) s := by
  unfold Prog.require
  split
  · next holds => exact rest holds
  · trivial

theorem safe_expect (e : ε) (x : Option α) (f : α → Prog S M ε β)
    (rest : ∀ a, x = some a → D.Safe (f a) s) : D.Safe (Prog.expect e x >>= f) s := by
  cases x with
  | none => trivial
  | some a => exact rest a rfl

theorem safe_liftExcept (x : Except ε α) (f : α → Prog S M ε β)
    (rest : ∀ a, x = .ok a → D.Safe (f a) s) : D.Safe (Prog.liftExcept x >>= f) s := by
  cases x with
  | error e => trivial
  | ok a => exact rest a rfl

theorem safe_void (p : Prog S M ε α) (safe : D.Safe p s) : D.Safe p.void s := by
  induction p generalizing s with
  | done result =>
      cases result with
      | ok a => trivial
      | error e => trivial
  | step m write next ih =>
      intro s' relied invariant
      obtain ⟨kept, guaranteed, rest⟩ := safe s' relied invariant
      exact ⟨kept, guaranteed, ih s' (write s') rest⟩

end Rules

def comap {M' : Type} (f : M' → M) : Discipline S M' where
  inv := D.inv
  guar m := D.guar (f m)
  rely m := D.rely (f m)
  rely_refl m := D.rely_refl (f m)
  rely_trans m := D.rely_trans (f m)

theorem safe_relabel {M' : Type} (f : M' → M) (p : Prog S M' ε α) (s : S)
    (safe : (D.comap f).Safe p s) : D.Safe (p.relabel f) s := by
  induction p generalizing s with
  | done result => trivial
  | step m write next ih =>
      intro s' relied invariant
      obtain ⟨kept, guaranteed, rest⟩ := safe s' relied invariant
      exact ⟨kept, guaranteed, ih s' (write s') rest⟩

theorem safe_reads {β : Type} (p : Prog S M ε α) (f : α → Prog S M ε β) (s : S)
    (within : S → S → Prop) (self : ∀ s, within s s)
    (chain : ∀ s s' s'', within s s' → within s' s'' → within s s'')
    (relied : ∀ m s s', D.rely m s s' → within s s') (own : ∀ m s, D.guar m s s)
    (reads : p.Reads)
    (rest : ∀ a s', within s s' → D.Safe (f a) s') : D.Safe (p >>= f) s := by
  induction p generalizing s with
  | done result =>
      cases result with
      | ok a => exact rest a s (self s)
      | error e => trivial
  | step m write next ih =>
      intro s' before invariant
      rw [reads.1 s']
      refine ⟨invariant, own m s', ih s' s' (reads.2 s') (fun a s'' later => ?_)⟩
      exact rest a s'' (chain s s' s'' (relied m s s' before) later)

theorem safe_of_reads (p : Prog S M ε α) (s : S) (own : ∀ m s, D.guar m s s)
    (reads : p.Reads) : D.Safe p s := by
  induction p generalizing s with
  | done result => trivial
  | step m write next ih =>
      intro s' _ invariant
      rw [reads.1 s']
      exact ⟨invariant, own m s', ih s' s' (reads.2 s')⟩

theorem Safe.weaken {p : Prog S M ε α} {s s' : S} (safe : D.Safe p s)
    (relied : ∀ m, p.mark? = some m → D.rely m s s') : D.Safe p s' := by
  cases p with
  | done result => trivial
  | step m write next =>
      intro s'' later invariant
      exact safe s'' (D.rely_trans m s s' s'' (relied m rfl) later) invariant

def Sound (c : Config S M ε α) : Prop :=
  D.inv c.store ∧ ∀ p ∈ c.inFlight, D.Safe p c.store

theorem sound_idle (s : S) (invariant : D.inv s) :
    D.Sound (Config.idle s : Config S M ε α) :=
  ⟨invariant, fun _ member => by cases member⟩

section Runs

variable (requests : Prog S M ε α → Prop) (allowed : S → M → M → Prop)

theorem step_sound (c c' : Config S M ε α)
    (safe : ∀ p, requests p → D.inv c.store → D.Safe p c.store)
    (frame : ∀ s m m' s', allowed s m m' → D.inv s → D.guar m s s' → D.rely m' s s')
    (taken : Step requests allowed c c') (sound : D.Sound c) : D.Sound c' := by
  obtain ⟨invariant, flying⟩ := sound
  cases taken with
  | arrive s inFlight p issued =>
      refine ⟨invariant, fun q member => ?_⟩
      rcases List.mem_append.mp member with old | new
      · exact flying q old
      · obtain rfl := List.mem_singleton.mp new
        exact safe _ issued invariant
  | advance s before after m write next others =>
      have own : D.Safe (.step m write next) s := flying _ (by simp)
      obtain ⟨kept, guaranteed, rest⟩ := own s (D.rely_refl m s) invariant
      refine ⟨kept, fun q member => ?_⟩
      have beside : ∀ q ∈ before ++ after, D.Safe q (write s) := by
        intro q other
        have standing : D.Safe q s := flying q (by
          rcases List.mem_append.mp other with left | right
          · simp [left]
          · simp [right])
        have permitted := others q other
        refine Safe.weaken D standing (fun m' about => ?_)
        cases q with
        | done result => cases about
        | step mark write' next' =>
            cases about
            exact frame s m m' (write s) permitted invariant guaranteed
      rcases List.mem_append.mp member with left | right
      · exact beside q (List.mem_append_left _ left)
      · rcases List.mem_cons.mp right with rfl | right
        · exact rest
        · exact beside q (List.mem_append_right _ right)

theorem run_sound
    (safe : ∀ p, requests p → ∀ s, D.inv s → D.Safe p s)
    (frame : ∀ s m m' s', allowed s m m' → D.inv s → D.guar m s s' → D.rely m' s s')
    (c c' : Config S M ε α) (run : Run requests allowed c c') (sound : D.Sound c) :
    D.Sound c' := by
  induction run with
  | refl => exact sound
  | tail _ last ih =>
      exact D.step_sound requests allowed _ _ (fun p issued => safe p issued _) frame last ih

end Runs

section Leads

variable (leads : M → S → S → Option M → Prop)

/-- From `s`, and whatever others do inside the rely, every step is in `leads` with the
store it finds, the store it leaves and the step that comes next. -/
def Leads : Prog S M ε α → S → Prop
  | .done _, _ => True
  | .step m write next, s =>
      ∀ s', D.rely m s s' → D.inv s' →
        leads m s' (write s') (next s').mark? ∧ Leads (next s') (write s')

theorem Leads.weaken {p : Prog S M ε α} {s s' : S} (led : D.Leads leads p s)
    (relied : ∀ m, p.mark? = some m → D.rely m s s') : D.Leads leads p s' := by
  cases p with
  | done result => trivial
  | step m write next =>
      intro s'' later invariant
      exact led s'' (D.rely_trans m s s' s'' (relied m rfl) later) invariant

theorem mark_void (p : Prog S M ε α) : p.void.mark? = p.mark? := by
  cases p with
  | done result =>
      cases result with
      | ok a => rfl
      | error e => rfl
  | step m write next => rfl

theorem leads_void (p : Prog S M ε α) (s : S) (led : D.Leads leads p s) :
    D.Leads leads p.void s := by
  induction p generalizing s with
  | done result =>
      cases result with
      | ok a => trivial
      | error e => trivial
  | step m write next ih =>
      intro s' relied invariant
      obtain ⟨taken, rest⟩ := led s' relied invariant
      refine ⟨?_, ih s' (write s') rest⟩
      have same : (next s').void.mark? = (next s').mark? := mark_void _
      exact same ▸ taken

end Leads

theorem Sound.guar {s : S} {before after : List (Prog S M ε α)} {m : M} {write : S → S}
    {next : S → Prog S M ε α}
    (sound : D.Sound ⟨s, before ++ .step m write next :: after⟩) : D.guar m s (write s) :=
  (sound.2 (.step m write next) (by simp) s (D.rely_refl m s) sound.1).2.1

end Discipline

end ErpBackend.Foundation
