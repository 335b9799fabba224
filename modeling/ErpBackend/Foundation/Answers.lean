import ErpBackend.Foundation.Protocol

/-!
# What requests are answered, and how they begin

The rules of protocols speak of the store. Two more speak of the answers: of requests
that arrive after something has become so for good, and of an answer that a request can
only reach by making something so that was not. A third speaks of the step a request is
about to take.
-/

namespace ErpBackend.Foundation

variable {S M ε α : Type}

namespace Prog

/-- However the others move, as long as `stable` holds the answer is in `post`. -/
def Answers (stable : S → Prop) (post : Except ε α → Prop) : Prog S M ε α → Prop
  | done result => post result
  | step _ _ next => ∀ s, stable s → (next s).Answers stable post

/-- Not yet on the way to an answer that `wins`: it still has to come by the `moment`. -/
def Unclaimed (good : S → M → Prop) (moment : S → S → Prop) (wins : Except ε α → Prop) :
    Prog S M ε α → Prop
  | done result => ¬wins result
  | step m write next => ∀ s, good s m →
      (next s).Unclaimed good moment wins ∨ moment s (write s)

/-- However the others move between its steps: of the stores before and after each own step, and
the answer in the end. -/
def Along : Prog S M ε α → (List (S × S) → Except ε α → Prop) → Prop
  | done result, post => post [] result
  | step _ write next, post =>
      ∀ s, (next s).Along (fun steps result => post ((s, write s) :: steps) result)

variable (m : M)

section Along

variable {β : Type} (post : List (S × S) → Except ε β → Prop)

@[simp]
theorem along_pure (b : β) : (pure b : Prog S M ε β).Along post ↔ post [] (.ok b) := Iff.rfl

@[simp]
theorem along_read (query : S → α) (f : α → Prog S M ε β) :
    (read m query >>= f).Along post ↔
      ∀ s, (f (query s)).Along (fun steps result => post ((s, s) :: steps) result) := Iff.rfl

@[simp]
theorem along_expect (e : ε) (x : Option α) (f : α → Prog S M ε β) :
    (expect e x >>= f).Along post ↔
      (∀ a, x = some a → (f a).Along post) ∧ (x = none → post [] (.error e)) := by
  cases x with
  | none => simp [expect, refuse, Along]
  | some a => simp [expect]

@[simp]
theorem along_require (c : Prop) [Decidable c] (e : ε) (f : Unit → Prog S M ε β) :
    (require c e >>= f).Along post ↔ (c → (f ()).Along post) ∧ (¬ c → post [] (.error e)) := by
  by_cases holds : c
  · simp [require, holds]
  · simp [require, holds, refuse, Along]

@[simp]
theorem along_liftExcept (x : Except ε α) (f : α → Prog S M ε β) :
    (liftExcept x >>= f).Along post ↔
      (∀ a, x = .ok a → (f a).Along post) ∧ (∀ e, x = .error e → post [] (.error e)) := by
  rcases x with e | a
  · simp [liftExcept, Along]
  · have same : (liftExcept (.ok a) >>= f : Prog S M ε β) = f a := rfl
    simp [same]

@[simp]
theorem along_transact (body : S → Except ε (S × α)) (f : α → Prog S M ε β) :
    (transact m body >>= f).Along post ↔ ∀ s,
      (∀ s' a, body s = .ok (s', a) →
        (f a).Along (fun steps result => post ((s, s') :: steps) result)) ∧
      (∀ e, body s = .error e → post [(s, s)] (.error e)) := by
  unfold transact
  simp only [step_bind, Along]
  constructor
  · intro each s
    have own := each s
    rcases outcome : body s with e | ⟨s', a⟩
    · rw [outcome] at own
      simpa [Along] using own
    · rw [outcome] at own
      refine ⟨fun t b same => ?_, by simp⟩
      cases same
      exact own
  · intro each s
    have own := each s
    rcases outcome : body s with e | ⟨s', a⟩
    · exact own.2 e outcome
    · exact own.1 s' a outcome

@[simp]
theorem along_commit (body : S → Except ε S) (f : Unit → Prog S M ε β) :
    (commit m body >>= f).Along post ↔ ∀ s,
      (∀ s', body s = .ok s' →
        (f ()).Along (fun steps result => post ((s, s') :: steps) result)) ∧
      (∀ e, body s = .error e → post [(s, s)] (.error e)) := by
  unfold commit
  rw [along_transact]
  apply forall_congr'
  intro s
  rcases outcome : body s with e | s'
  · simp [Except.map]
  · constructor
    · rintro ⟨commits, -⟩
      refine ⟨fun t same => ?_, by simp⟩
      cases same
      exact commits s' () rfl
    · rintro ⟨commits, -⟩
      refine ⟨fun t u same => ?_, by simp [Except.map]⟩
      cases same
      exact commits s' rfl

theorem along_bind (p : Prog S M ε α) (f : α → Prog S M ε β) :
    (p >>= f).Along post ↔ p.Along (fun steps result => match result with
      | .ok a => (f a).Along (fun more result => post (steps ++ more) result)
      | .error e => post steps (.error e)) := by
  induction p generalizing post with
  | done result =>
      cases result with
      | ok a => exact Iff.rfl
      | error e => exact Iff.rfl
  | step m write next ih => exact forall_congr' (fun s => ih s _)

theorem along_mono {post' : List (S × S) → Except ε β → Prop} (p : Prog S M ε β)
    (weaker : ∀ steps result, post steps result → post' steps result) (along : p.Along post) :
    p.Along post' := by
  induction p generalizing post post' with
  | done result => exact weaker [] result along
  | step m write next ih => exact fun s => ih s _ (fun _ _ => weaker _ _) (along s)

theorem along_of_walks (leads : M → S → S → Option M → Prop) (p : Prog S M ε β)
    (walks : p.Walks leads) : p.Along (fun steps _ =>
      ∀ step ∈ steps, ∃ m next, leads m step.1 step.2 next) := by
  induction p with
  | done result => exact fun step member => by cases member
  | step m write next ih =>
      intro s
      refine along_mono _ _ (fun steps result each => ?_) (ih s (walks s).2)
      exact List.forall_mem_cons.mpr ⟨⟨m, _, (walks s).1⟩, each⟩

/-- The stores around each step of a request that is served alone. -/
def trail : Prog S M ε β → S → List (S × S)
  | done _, _ => []
  | step _ write next, s => (s, write s) :: (next s).trail (write s)

theorem along_trail (p : Prog S M ε β) (s : S) (along : p.Along post) :
    post (p.trail s) (p.run s).2 := by
  induction p generalizing post s with
  | done result => exact along
  | step m write next ih => exact ih s _ (write s) (along s)

end Along

section Answers

variable {β : Type} (stable : S → Prop) (post : Except ε β → Prop)

theorem answers_any (p : Prog S M ε β) (any : ∀ result, post result) : p.Answers stable post := by
  induction p with
  | done result => exact any result
  | step m write next ih => exact fun s _ => ih s

theorem answers_bind (first : Except ε α → Prop) (p : Prog S M ε α) (f : α → Prog S M ε β)
    (own : p.Answers stable first) (rest : ∀ a, first (.ok a) → (f a).Answers stable post)
    (refused : ∀ e, post (.error e)) : (p >>= f).Answers stable post := by
  induction p with
  | done result =>
      cases result with
      | ok a => exact rest a own
      | error e => exact refused e
  | step m write next ih => exact fun s held => ih s (own s held)

theorem answers_expect (e : ε) (x : Option α) (f : α → Prog S M ε β)
    (rest : ∀ a, x = some a → (f a).Answers stable post) (refused : ∀ e, post (.error e)) :
    (expect e x >>= f).Answers stable post := by
  cases x with
  | none => exact refused e
  | some a => exact rest a rfl

end Answers

section Unclaimed

variable {β : Type} (good : S → M → Prop) (moment : S → S → Prop) (wins : Except ε β → Prop)

theorem unclaimed_expect (e : ε) (x : Option α) (f : α → Prog S M ε β)
    (rest : ∀ a, x = some a → (f a).Unclaimed good moment wins) (refused : ∀ e, ¬wins (.error e)) :
    (expect e x >>= f).Unclaimed good moment wins := by
  cases x with
  | none => exact refused e
  | some a => exact rest a rfl

theorem unclaimed_read (query : S → α) (f : α → Prog S M ε β)
    (each : ∀ s, good s m → (f (query s)).Unclaimed good moment wins ∨ moment s s) :
    (read m query >>= f).Unclaimed good moment wins :=
  each

theorem unclaimed_transact (body : S → Except ε (S × α)) (f : α → Prog S M ε β)
    (commits : ∀ s s' a, good s m → body s = .ok (s', a) →
      (f a).Unclaimed good moment wins ∨ moment s s')
    (refused : ∀ e, ¬wins (.error e)) :
    (transact m body >>= f).Unclaimed good moment wins := by
  intro s possible
  dsimp only
  rcases outcome : body s with e | ⟨s', a⟩
  · exact .inl (refused e)
  · exact commits s s' a possible outcome

theorem unclaimed_commit (body : S → Except ε S) (f : Unit → Prog S M ε β)
    (commits : ∀ s s', good s m → body s = .ok s' →
      (f ()).Unclaimed good moment wins ∨ moment s s')
    (refused : ∀ e, ¬wins (.error e)) :
    (commit m body >>= f).Unclaimed good moment wins := by
  apply unclaimed_transact
  · intro s s' _ possible done
    obtain ⟨stored, committed, equal⟩ := (except_map_ok _ _ _).mp done
    cases equal
    exact commits s s' possible committed
  · exact refused

theorem unclaimed_bind (p : Prog S M ε α) (f : α → Prog S M ε β)
    (rest : ∀ a, (f a).Unclaimed good moment wins) (refused : ∀ e, ¬wins (.error e)) :
    (p >>= f).Unclaimed good moment wins := by
  induction p with
  | done result =>
      cases result with
      | ok a => exact rest a
      | error e => exact refused e
  | step m write next ih => exact fun s _ => .inl (ih s)

end Unclaimed

/-- Every step is in `leads`, and the next one is `ordinary`. -/
def Onward (leads : M → S → S → Option M → Prop) (ordinary : M → Prop) (p : Prog S M ε α) : Prop :=
  p.Walks leads ∧ ∀ m ∈ p.mark?, ordinary m

section Onward

variable {β : Type} {leads : M → S → S → Option M → Prop} {ordinary : M → Prop}

theorem onward_done (result : Except ε α) : (done result : Prog S M ε α).Onward leads ordinary :=
  ⟨trivial, fun _ none => (by cases none)⟩

theorem onward_liftExcept (x : Except ε α) (f : α → Prog S M ε β)
    (rest : ∀ a, x = .ok a → (f a).Onward leads ordinary) :
    (liftExcept x >>= f).Onward leads ordinary := by
  cases x with
  | ok a => exact rest a rfl
  | error e => exact onward_done _

theorem onward_require (c : Prop) [Decidable c] (e : ε) (f : Unit → Prog S M ε β)
    (rest : c → (f ()).Onward leads ordinary) : (require c e >>= f).Onward leads ordinary := by
  unfold require
  split
  · next holds => exact rest holds
  · exact onward_done _

theorem onward_expect (e : ε) (x : Option α) (f : α → Prog S M ε β)
    (rest : ∀ a, x = some a → (f a).Onward leads ordinary) :
    (expect e x >>= f).Onward leads ordinary := by
  cases x with
  | none => exact onward_done _
  | some a => exact rest a rfl

theorem onward_step (write : S → S) (next : S → Prog S M ε α) (plain : ordinary m)
    (each : ∀ s, leads m s (write s) (next s).mark? ∧ (next s).Walks leads) :
    (step m write next).Onward leads ordinary :=
  ⟨each, fun _ own => Option.some.inj own ▸ plain⟩

theorem onward_query (query : S → α) (f : α → Prog S M ε β) (plain : ordinary m)
    (each : ∀ s, leads m s s (f (query s)).mark? ∧ (f (query s)).Walks leads) :
    (read m query >>= f).Onward leads ordinary :=
  onward_step m id _ plain each

theorem onward_read (query : S → α) (f : α → Prog S M ε β) (plain : ordinary m)
    (goes : ∀ s next, (∀ m ∈ next, ordinary m) → leads m s s next)
    (rest : ∀ a, (f a).Onward leads ordinary) : (read m query >>= f).Onward leads ordinary :=
  onward_query m query f plain (fun s => ⟨goes s _ (rest (query s)).2, (rest (query s)).1⟩)

theorem onward_transact (body : S → Except ε (S × α)) (f : α → Prog S M ε β)
    (plain : ordinary m)
    (goes : ∀ s s' a next, body s = .ok (s', a) → (∀ m ∈ next, ordinary m) → leads m s s' next)
    (fails : ∀ s e, body s = .error e → leads m s s none)
    (rest : ∀ a, (f a).Onward leads ordinary) : (transact m body >>= f).Onward leads ordinary := by
  refine onward_step m _ _ plain ?_
  apply walks_transact
  · exact fun s s' a outcome => ⟨goes s s' a _ outcome (rest a).2, (rest a).1⟩
  · exact fails

theorem onward_commit (body : S → Except ε S) (f : Unit → Prog S M ε β)
    (plain : ordinary m)
    (goes : ∀ s s' next, body s = .ok s' → (∀ m ∈ next, ordinary m) → leads m s s' next)
    (fails : ∀ s e, body s = .error e → leads m s s none)
    (rest : (f ()).Onward leads ordinary) : (commit m body >>= f).Onward leads ordinary := by
  refine onward_step m _ _ plain ?_
  apply walks_commit
  · exact fun s s' outcome => goes s s' _ outcome rest.2
  · exact fails
  · exact rest.1

theorem onward_execute (update : S → S) (f : Unit → Prog S M ε β) (plain : ordinary m)
    (goes : ∀ s next, (∀ m ∈ next, ordinary m) → leads m s (update s) next)
    (rest : (f ()).Onward leads ordinary) : (execute m update >>= f).Onward leads ordinary :=
  onward_step m update _ plain (fun s => ⟨goes s _ rest.2, rest.1⟩)

theorem onward_map (p : Prog S M ε α) (g : α → β) (onward : p.Onward leads ordinary) :
    (p >>= fun a => pure (g a)).Onward leads ordinary := by
  refine ⟨walks_map p g onward.1, ?_⟩
  rw [mark_map]
  exact onward.2

theorem onward_focus {T M' : Type} {leads' : M' → T → T → Option M' → Prop} {plain : M' → Prop}
    (get : T → S) (put : T → S → T) (mark : M → M') (p : Prog S M ε α) (f : α → Prog T M' ε β)
    (marks : ∀ m, plain (mark m))
    (goes : ∀ m t s' next next', leads m (get t) s' next → (∀ m' ∈ next', plain m') →
      leads' (mark m) t (put t s') next')
    (walks : p.Walks leads) (rest : ∀ a, (f a).Onward leads' plain) :
    (p.focus get put mark >>= f).Onward leads' plain := by
  induction p with
  | done result =>
      cases result with
      | ok a => exact rest a
      | error e => exact onward_done _
  | step m write next ih =>
      refine onward_step (mark m) _ _ (marks m) ?_
      intro t
      obtain ⟨taken, later⟩ := walks (get t)
      have after := ih (get t) later
      exact ⟨goes m t _ _ _ taken after.2, after.1⟩

end Onward

end Prog

namespace Protocol

variable (P : Protocol S M) {requests : Prog S M ε α → Prop} {fits : S → M → Prop}

def Possible (fits : S → M → Prop) (s : S) (m : M) : Prop := P.inv s ∧ fits s m ∧ P.known m s

private theorem Sound.stepped (taken : S → Prop)
    (stays : ∀ m s s' next, P.inv s → fits s m → P.known m s → P.leads m s s' next →
      taken s → taken s')
    {middle last : Config S M ε α} (sound : P.Sound middle)
    (step : FittingStep requests fits middle last) :
    (∃ p, requests p ∧ last.store = middle.store ∧ last.inFlight = middle.inFlight ++ [p]) ∨
      ∃ front back m write next, P.Possible fits middle.store m ∧
        middle.inFlight = front ++ .step m write next :: back ∧
        last.store = write middle.store ∧ last.inFlight = front ++ next middle.store :: back ∧
        (taken middle.store → taken last.store) := by
  cases step with
  | arrive s inFlight p issued => exact .inl ⟨p, issued, rfl, rfl⟩
  | advance s front back m write next fit =>
      obtain ⟨known, led⟩ := sound.taken
      exact .inr ⟨front, back, m, write, next, ⟨sound.inv, fit, known⟩, rfl, rfl, rfl,
        stays m s (write s) _ sound.inv fit known led⟩

section Runs

variable (fitting : ∀ s m, fits s m → P.fits s m)
  (enters : ∀ p, requests p → ∀ s, P.inv s → P.Enters p s)

include fitting enters

theorem Sound.late (stable : S → Prop)
    (each : ∀ m s s' next, P.inv s → fits s m → P.known m s → P.leads m s s' next →
      stable s → stable s')
    (post : Except ε α → Prop) (answers : ∀ p, requests p → p.Answers stable post)
    {c c' : Config S M ε α} (sound : P.Sound c) (run : FittingRun requests fits c c')
    (now : stable c.store) (index : Nat) (later : c.inFlight.length ≤ index)
    (result : Except ε α) (answered : c'.inFlight[index]? = some (.done result)) :
    post result := by
  have along : P.Sound c' ∧ stable c'.store ∧ ∀ index p, c.inFlight.length ≤ index →
      c'.inFlight[index]? = some p → p.Answers stable post := by
    clear answered later
    induction run with
    | refl =>
        refine ⟨sound, now, ?_⟩
        intro index p later found
        exact absurd found (by simp [List.getElem?_eq_none later])
    | @tail middle last before taken ih =>
        obtain ⟨sound', held, waiting⟩ := ih
        have one : FittingRun requests fits middle last := .single taken
        obtain ⟨sound'', held'⟩ := sound'.keeps P fitting enters stable each one held
        refine ⟨sound'', held', ?_⟩
        cases taken with
        | arrive s inFlight p issued =>
            intro index q later found
            rw [List.getElem?_append] at found
            split at found
            · exact waiting index q later found
            · obtain rfl := List.mem_singleton.mp (List.mem_of_getElem? found)
              exact answers _ issued
        | advance s front back m write next fit =>
            intro index q later found
            by_cases here : index = front.length
            · subst here
              have own := waiting front.length (.step m write next) later (by simp)
              simp only [List.getElem?_append_right (Nat.le_refl _), Nat.sub_self,
                List.getElem?_cons_zero, Option.some.injEq] at found
              exact found ▸ own s held
            · refine waiting index q later ?_
              rw [List.getElem?_append] at found ⊢
              split at found
              · next left => rw [if_pos left]; exact found
              · next right =>
                  rw [if_neg right]
                  rcases apart : index - front.length with _ | place
                  · omega
                  · rw [apart] at found
                    exact found
  exact along.2.2 index _ later answered

variable (wins : Except ε α → Prop) (taken : S → Prop)
  (stays : ∀ m s s' next, P.inv s → fits s m → P.known m s → P.leads m s s' next →
    taken s → taken s')

include stays

theorem Sound.reached
    (unclaimed : ∀ p, requests p → p.Unclaimed (P.Possible fits) (fun _ s' => taken s') wins)
    {s : S} (invariant : P.inv s) {c : Config S M ε α}
    (run : FittingRun requests fits (.idle s) c) (index : Nat) (result : Except ε α)
    (answered : c.inFlight[index]? = some (.done result)) (wanted : wins result) :
    taken c.store := by
  have along : P.Sound c ∧ ∀ p ∈ c.inFlight,
      p.Unclaimed (P.Possible fits) (fun _ s' => taken s') wins ∨ taken c.store := by
    clear answered
    induction run with
    | refl => exact ⟨P.sound_idle s invariant, fun p member => (by cases member)⟩
    | @tail middle last before step ih =>
        obtain ⟨sound, waiting⟩ := ih
        have sound' := P.run_sound requests middle last enters
          (FittingRun.mono fitting (.single step)) sound
        refine ⟨sound', ?_⟩
        rcases sound.stepped P taken stays step with
          ⟨q, issued, store, inFlight⟩ |
          ⟨front, back, m, write, next, possible, flying, store, inFlight, kept⟩
        · rw [inFlight, store]
          intro p member
          rcases List.mem_append.mp member with old | new
          · exact waiting p old
          · rw [List.mem_singleton.mp new]
            exact .inl (unclaimed q issued)
        · have standing : ∀ p ∈ middle.inFlight,
              p.Unclaimed (P.Possible fits) (fun _ s' => taken s') wins ∨ taken last.store :=
            fun p member => (waiting p member).imp_right kept
          rw [inFlight]
          intro p member
          rcases List.mem_append.mp member with left | right
          · exact standing p (by rw [flying]; exact List.mem_append_left _ left)
          · rcases List.mem_cons.mp right with rfl | right
            · rcases standing (.step m write next) (by rw [flying]; simp) with open' | done
              · rw [store]
                exact open' _ possible
              · exact .inr done
            · exact standing p (by rw [flying]; simp [right])
  rcases along.2 _ (List.mem_of_getElem? answered) with open' | done
  · exact absurd wanted open'
  · exact done

theorem Sound.once
    (unclaimed : ∀ p, requests p →
      p.Unclaimed (P.Possible fits) (fun s s' => ¬taken s ∧ taken s') wins)
    {s : S} (invariant : P.inv s) {c : Config S M ε α}
    (run : FittingRun requests fits (.idle s) c) (i j : Nat) (first second : Except ε α)
    (one : c.inFlight[i]? = some (.done first)) (other : c.inFlight[j]? = some (.done second))
    (firstWins : wins first) (secondWins : wins second) : i = j := by
  let Open := fun p : Prog S M ε α =>
    p.Unclaimed (P.Possible fits) (fun s s' => ¬taken s ∧ taken s') wins
  have along : P.Sound c ∧ c.inFlight.Pairwise (fun p q => Open p ∨ Open q) ∧
      (¬taken c.store → ∀ p ∈ c.inFlight, Open p) := by
    clear one other
    induction run with
    | refl => exact ⟨P.sound_idle s invariant, .nil, fun _ p member => (by cases member)⟩
    | @tail middle last before step ih =>
        obtain ⟨sound, pairs, free⟩ := ih
        have sound' := P.run_sound requests middle last enters
          (FittingRun.mono fitting (.single step)) sound
        refine ⟨sound', ?_⟩
        rcases sound.stepped P taken stays step with
          ⟨q, issued, store, inFlight⟩ |
          ⟨front, back, m, write, next, possible, flying, store, inFlight, kept⟩
        · have new : Open q := unclaimed q issued
          rw [inFlight, store]
          refine ⟨List.pairwise_append.mpr ⟨pairs, List.pairwise_singleton _ _, ?_⟩, ?_⟩
          · intro p _ r member
            rw [List.mem_singleton.mp member]
            exact .inr new
          · intro untaken p member
            rcases List.mem_append.mp member with old | last
            · exact free untaken p old
            · rw [List.mem_singleton.mp last]
              exact new
        · rw [flying] at pairs free
          obtain ⟨left, middlePairs, cross⟩ := List.pairwise_append.mp pairs
          obtain ⟨beside, right⟩ := List.pairwise_cons.mp middlePairs
          -- the request that moves is still open, or the others all are
          have moved : ∀ q ∈ front ++ back, Open (next middle.store) ∨ Open q := by
            intro q member
            have between : Open (.step m write next) ∨ Open q := by
              rcases List.mem_append.mp member with l | r
              · exact (cross q l _ (List.mem_cons_self ..)).symm
              · exact beside q r
            rcases between with own | rest
            · rcases own middle.store possible with onward | ⟨untaken, -⟩
              · exact .inl onward
              · refine .inr (free untaken q ?_)
                rcases List.mem_append.mp member with l | r
                · simp [l]
                · simp [r]
            · exact .inr rest
          rw [inFlight]
          refine ⟨List.pairwise_append.mpr ⟨left, List.pairwise_cons.mpr ⟨?_, right⟩, ?_⟩, ?_⟩
          · intro q member
            exact moved q (List.mem_append_right _ member)
          · intro p l q member
            rcases List.mem_cons.mp member with rfl | r
            · exact (moved p (List.mem_append_left _ l)).symm
            · exact cross p l q (List.mem_cons_of_mem _ r)
          · intro untaken p member
            have before' : ¬taken middle.store := fun held => untaken (kept held)
            rcases List.mem_append.mp member with l | r
            · exact free before' p (List.mem_append_left _ l)
            · rcases List.mem_cons.mp r with rfl | r
              · rcases free before' (.step m write next) (by simp) middle.store possible with
                  onward | ⟨-, held⟩
                · exact onward
                · rw [store] at untaken
                  exact absurd held untaken
              · exact free before' p (by simp [r])
  -- two winners would both be past the moment
  have apart : ∀ a b : Nat, a < b → ∀ x y : Except ε α,
      c.inFlight[a]? = some (.done x) → c.inFlight[b]? = some (.done y) →
        wins x → wins y → False := by
    intro a b less x y atA atB winsX winsY
    obtain ⟨insideA, valueA⟩ := List.getElem?_eq_some_iff.mp atA
    obtain ⟨insideB, valueB⟩ := List.getElem?_eq_some_iff.mp atB
    rcases List.pairwise_iff_getElem.mp along.2.1 a b insideA insideB less with here | there
    · rw [valueA] at here
      exact here winsX
    · rw [valueB] at there
      exact there winsY
  rcases Nat.lt_trichotomy i j with less | same | more
  · exact (apart i j less first second one other firstWins secondWins).elim
  · exact same
  · exact (apart j i more second first other one secondWins firstWins).elim

end Runs

end Protocol

end ErpBackend.Foundation
