import ErpBackend.Foundation.Protocol
import ErpBackend.Foundation.Table

/-!
# Attempts that are counted after they are made

Something may be attempted up to a limit: what was counted is read, the attempt is made,
and then it is counted, in steps of their own. As long as each attempt is made while the
count that was read still stands and no other attempt waits to be counted, no more are
made than the limit.
-/

namespace ErpBackend.Foundation

def Protocol.comap {S T M N : Type} (P : Protocol T N) (view : S → T) (role : M → N)
    (leads : M → S → S → Option M → Prop)
    (sees : ∀ m s s' next, P.known (role m) (view s) → leads m s s' next →
      P.leads (role m) (view s) (view s') (next.map role)) : Protocol S M where
  inv s := P.inv (view s)
  fits s m := P.fits (view s) (role m)
  leads := leads
  known m s := P.known (role m) (view s)
  apart s m m' := P.apart (view s) (role m) (role m')
  apart_symm s m m' apart := P.apart_symm _ _ _ apart
  own m s s' next inv fit known led := by
    obtain ⟨kept, knows⟩ := P.own _ _ _ _ inv fit known (sees m s s' next known led)
    exact ⟨kept, fun m' own => knows (role m') (by rw [own]; rfl)⟩
  frame m s s' next other inv fit known beside apart led := by
    obtain ⟨kept, away⟩ := P.frame _ _ _ _ _ inv fit known beside apart (sees m s s' next known led)
    exact ⟨kept, fun m' own => away (role m') (by rw [own]; rfl)⟩
  rest m s s' next other other' inv fit known led apart :=
    P.rest _ _ _ _ _ _ inv fit known (sees m s s' next known led) apart

/-- How one thing that is attempted stands: whether it can still be, what was counted, the limit,
the attempts made while it could be, and those of them that wait to be counted. -/
structure Tally where
  there : Bool
  live : Bool
  attempts : Int
  limit : Int
  made : Nat
  waiting : Nat

inductive Role where
  | plain
  | make (attempts limit : Int)
  | settle

namespace Tally

structure Quiet (v v' : Tally) : Prop where
  made : v'.made = v.made
  waiting : v'.waiting = v.waiting
  there : v.there = true → v'.there = true ∧ v'.limit = v.limit
  live : v'.live = true → (v.live = true ∧ v'.attempts = v.attempts) ∨
    (v.there = false ∧ v'.attempts = 0)
  born : v.there = false → 0 ≤ v'.limit
  absent : v'.there = false → v'.limit = 0
  stands : v'.live = true → v'.there = true

def attempted (v : Tally) : Tally :=
  if v.live then { v with made := v.made + 1, waiting := v.waiting + 1 } else v

structure Settled (v v' : Tally) : Prop where
  made : v'.made = v.made
  waiting : v'.waiting = v.waiting - 1
  there : v'.there = v.there
  limit : v'.limit = v.limit
  live : v'.live = true → v.live = true ∧ v'.attempts = v.attempts + 1

def leads : Role → Tally → Tally → Option Role → Prop
  | .plain, v, v', next => Quiet v v' ∧ (next = none ∨ next = some .plain ∨
      v' = v ∧ v.there = true ∧ ∃ attempts, attempts < v.limit ∧
        next = some (.make attempts v.limit))
  | .make _ _, v, v', next => v' = v.attempted ∧ (next = none ∨ next = some .settle)
  | .settle, v, v', next => Settled v v' ∧ (next = none ∨ next = some .plain)

/-- Every attempt made is counted or waits to be, and there are no more than the limit. -/
structure Recorded (v : Tally) : Prop where
  within : (v.made : Int) ≤ v.limit
  counted : v.live = true → (v.made : Int) = v.attempts + v.waiting
  nothing : v.there = false → v.waiting = 0 ∧ v.limit = 0
  stands : v.live = true → v.there = true

def UpToDate (v : Tally) : Role → Prop
  | .make attempts _ => v.live = true → v.attempts = attempts ∧ v.waiting = 0
  | _ => True

def Known (v : Tally) : Role → Prop
  | .plain => True
  | .make attempts limit => v.there = true ∧ limit = v.limit ∧ attempts < limit
  | .settle => v.there = true ∧ (v.live = true → v.waiting = 1)

def Apart (v : Tally) : Role → Role → Prop
  | .settle, .settle => v.there = true ∧ v.live = false
  | _, _ => True

section Steps

variable (v v' : Tally)

theorem Quiet.recorded (quiet : Quiet v v') (recorded : Recorded v) : Recorded v' := by
  obtain ⟨made, waiting, there, live, born, absent, stands⟩ := quiet
  obtain ⟨within, counted, nothing, _⟩ := recorded
  cases present : v.there with
  | true =>
      obtain ⟨there', limit⟩ := there present
      refine ⟨by omega, ?_, ?_, stands⟩
      · intro alive
        rcases live alive with ⟨before, same⟩ | ⟨absent', -⟩
        · have sum := counted before
          omega
        · rw [present] at absent'
          cases absent'
      · intro gone
        rw [there'] at gone
        cases gone
  | false =>
      obtain ⟨none, zero⟩ := nothing present
      have room := born present
      refine ⟨by omega, ?_, ?_, stands⟩
      · intro alive
        rcases live alive with ⟨before, same⟩ | ⟨-, same⟩
        · have sum := counted before
          omega
        · omega
      · exact fun gone => ⟨by omega, absent gone⟩

theorem Quiet.trans {v v' v'' : Tally} (first : Quiet v v') (second : Quiet v' v'') :
    Quiet v v'' := by
  refine ⟨second.made.trans first.made, second.waiting.trans first.waiting, ?_, ?_, ?_,
    second.absent, second.stands⟩
  · intro there
    obtain ⟨there', limit'⟩ := first.there there
    obtain ⟨there'', limit''⟩ := second.there there'
    exact ⟨there'', limit''.trans limit'⟩
  · intro live
    rcases second.live live with ⟨live', same⟩ | ⟨absent, zero⟩
    · rcases first.live live' with ⟨live₀, same'⟩ | ⟨absent, zero⟩
      · exact .inl ⟨live₀, same.trans same'⟩
      · exact .inr ⟨absent, same.trans zero⟩
    · refine .inr ⟨Bool.eq_false_iff.mpr (fun there => ?_), zero⟩
      rw [(first.there there).1] at absent
      cases absent
  · intro absent
    have room := first.born absent
    cases present : v'.there with
    | false => exact second.born present
    | true =>
        rw [(second.there present).2]
        exact room

theorem attempted_recorded (attempts limit : Int) (recorded : Recorded v)
    (fits : UpToDate v (.make attempts limit)) (known : Known v (.make attempts limit)) :
    Recorded v.attempted ∧ Known v.attempted .settle := by
  obtain ⟨within, counted, nothing, stands⟩ := recorded
  obtain ⟨there, same, below⟩ := known
  unfold attempted
  cases alive : v.live with
  | true =>
      obtain ⟨upToDate, free⟩ := fits alive
      have sum := counted alive
      refine ⟨⟨?_, ?_, ?_, fun _ => there⟩, there, ?_⟩
      · simp only [if_true]
        omega
      · simp only [if_true]
        intro _
        omega
      · simp [there]
      · simp [free]
  | false =>
      refine ⟨⟨within, ?_, nothing, ?_⟩, there, ?_⟩
      · simp [alive]
      · simp [alive]
      · simp [alive]

theorem Settled.recorded (settled : Settled v v') (recorded : Recorded v)
    (known : Known v .settle) : Recorded v' := by
  obtain ⟨made, waiting, there, limit, live⟩ := settled
  obtain ⟨within, counted, nothing, stands⟩ := recorded
  obtain ⟨present, one⟩ := known
  refine ⟨by omega, ?_, ?_, ?_⟩
  · intro alive
    obtain ⟨before, counts⟩ := live alive
    have sum := counted before
    have single := one before
    omega
  · intro gone
    rw [there, present] at gone
    cases gone
  · intro _
    rw [there]
    exact present

theorem leads_ended (role : Role) (next : Option Role) (led : leads role v v' next)
    (there : v.there = true) (ended : v.live = false) : v'.there = true ∧ v'.live = false := by
  cases role with
  | plain =>
      obtain ⟨quiet, -⟩ := led
      refine ⟨(quiet.there there).1, Bool.eq_false_iff.mpr (fun alive => ?_)⟩
      rcases quiet.live alive with ⟨before, -⟩ | ⟨absent, -⟩
      · rw [ended] at before
        cases before
      · rw [there] at absent
        cases absent
  | make attempts limit =>
      obtain ⟨rfl, -⟩ := led
      simp [attempted, ended, there]
  | settle =>
      obtain ⟨settled, -⟩ := led
      refine ⟨settled.there.trans there, Bool.eq_false_iff.mpr (fun alive => ?_)⟩
      rw [(settled.live alive).1] at ended
      cases ended

theorem leads_there (role : Role) (next : Option Role) (led : leads role v v' next)
    (there : v.there = true) : v'.there = true ∧ v'.limit = v.limit := by
  cases role with
  | plain => exact led.1.there there
  | make attempts limit =>
      rw [led.1]
      unfold attempted
      split
      · exact ⟨there, rfl⟩
      · exact ⟨there, rfl⟩
  | settle => exact ⟨led.1.there.trans there, led.1.limit⟩

theorem step_own (role : Role) (next : Option Role) (recorded : Recorded v)
    (fits : UpToDate v role) (known : Known v role) (led : leads role v v' next) :
    Recorded v' ∧ ∀ role', next = some role' → Known v' role' := by
  cases role with
  | plain =>
      obtain ⟨quiet, onward⟩ := led
      refine ⟨quiet.recorded v v' recorded, ?_⟩
      intro role' own
      rcases onward with none | plain | ⟨same, there, attempts, below, makes⟩
      · rw [none] at own
        cases own
      · rw [plain] at own
        cases own
        trivial
      · rw [makes] at own
        cases own
        rw [same]
        exact ⟨there, rfl, below⟩
  | make attempts limit =>
      obtain ⟨rfl, onward⟩ := led
      obtain ⟨recorded', waits⟩ := attempted_recorded v attempts limit recorded fits known
      refine ⟨recorded', ?_⟩
      intro role' own
      rcases onward with none | settles
      · rw [none] at own
        cases own
      · rw [settles] at own
        cases own
        exact waits
  | settle =>
      obtain ⟨settled, onward⟩ := led
      refine ⟨settled.recorded v v' recorded known, ?_⟩
      intro role' own
      rcases onward with none | plain
      · rw [none] at own
        cases own
      · rw [plain] at own
        cases own
        trivial

theorem step_frame (role other : Role) (next : Option Role) (fits : UpToDate v role)
    (beside : Known v other) (apart : Apart v role other) (led : leads role v v' next) :
    Known v' other ∧ ∀ role', next = some role' → Apart v' role' other := by
  cases other with
  | plain =>
      refine ⟨trivial, fun role' _ => ?_⟩
      cases role' with
      | plain => trivial
      | make attempts limit => trivial
      | settle => trivial
  | make attempts limit =>
      obtain ⟨there, same, below⟩ := beside
      obtain ⟨there', limit'⟩ := leads_there v v' role next led there
      refine ⟨⟨there', same.trans limit'.symm, below⟩, fun role' _ => ?_⟩
      cases role' with
      | plain => trivial
      | make attempts limit => trivial
      | settle => trivial
  | settle =>
      obtain ⟨there, one⟩ := beside
      have there' := (leads_there v v' role next led there).1
      cases role with
      | plain =>
          obtain ⟨quiet, onward⟩ := led
          refine ⟨⟨there', fun alive => ?_⟩, ?_⟩
          · rw [quiet.waiting]
            rcases quiet.live alive with ⟨before, -⟩ | ⟨absent, -⟩
            · exact one before
            · rw [there] at absent
              cases absent
          · intro role' own
            rcases onward with none | plain | ⟨-, -, attempts, -, makes⟩
            · rw [none] at own
              cases own
            · rw [plain] at own
              cases own
              trivial
            · rw [makes] at own
              cases own
              trivial
      | make attempts limit =>
          -- a second attempt is only made of what has ended
          have ended : v.live = false := by
            cases alive : v.live with
            | false => rfl
            | true =>
                have free := (fits alive).2
                have waits := one alive
                omega
          obtain ⟨there'', ended'⟩ := leads_ended v v' _ next led there ended
          refine ⟨⟨there', fun alive => ?_⟩, ?_⟩
          · rw [ended'] at alive
            cases alive
          · intro role' own
            rcases led.2 with none | settles
            · rw [none] at own
              cases own
            · rw [settles] at own
              cases own
              exact ⟨there'', ended'⟩
      | settle =>
          obtain ⟨_, ended'⟩ := leads_ended v v' _ next led apart.1 apart.2
          refine ⟨⟨there', fun alive => ?_⟩, ?_⟩
          · rw [ended'] at alive
            cases alive
          · intro role' own
            rcases led.2 with none | plain
            · rw [none] at own
              cases own
            · rw [plain] at own
              cases own
              trivial

theorem apart_symm (role role' : Role) (apart : Apart v role role') : Apart v role' role := by
  cases role with
  | plain => cases role' <;> trivial
  | make attempts limit => cases role' <;> trivial
  | settle =>
      cases role' with
      | plain => trivial
      | make attempts limit => trivial
      | settle => exact apart

end Steps

/-- Made while the count that was read stands and none waits, attempts stay within the limit. -/
def counting : Protocol Tally Role where
  inv := Recorded
  fits := UpToDate
  leads := leads
  known role v := Known v role
  apart := Apart
  apart_symm := apart_symm
  own role v v' next recorded fits known led := step_own v v' role next recorded fits known led
  frame role v v' next other _ fits _ beside apart led :=
    step_frame v v' role other next fits beside apart led
  rest role v v' next role₁ role₂ _ _ _ led apart := by
    cases role₁ with
    | plain => cases role₂ <;> trivial
    | make attempts limit => cases role₂ <;> trivial
    | settle =>
        cases role₂ with
        | plain => trivial
        | make attempts limit => trivial
        | settle => exact leads_ended v v' role next led apart.1 apart.2

end Tally

structure Counter (α : Type) where
  live : α → Bool
  attempts : α → Int
  limit : α → Int

namespace Counter

variable {α κ : Type} [DecidableEq κ] {key : α → κ} (K : Counter α)

/-- How the row of a key stands, with the keys of the attempts made and of those that wait. -/
def tally (t : Table α key) (made waiting : List κ) (k : κ) : Tally :=
  match t.find? k with
  | none => ⟨false, false, 0, 0, made.count k, waiting.count k⟩
  | some a => ⟨true, K.live a, K.attempts a, K.limit a, made.count k, waiting.count k⟩

def alive (t : Table α key) (k : κ) : Bool := (t.find? k).any K.live

section Steps

variable (t t' : Table α key) (made made' waiting waiting' : List κ) (k : κ)

theorem tally_found (a : α) (found : t.find? k = some a) : K.tally t made waiting k =
    ⟨true, K.live a, K.attempts a, K.limit a, made.count k, waiting.count k⟩ := by
  unfold tally
  rw [found]

theorem tally_absent (absent : t.find? k = none) :
    K.tally t made waiting k = ⟨false, false, 0, 0, made.count k, waiting.count k⟩ := by
  unfold tally
  rw [absent]

theorem tally_live : (K.tally t made waiting k).live = K.alive t k := by
  unfold tally alive
  cases t.find? k with
  | none => rfl
  | some a => rfl

theorem quiet (sameMade : made'.count k = made.count k)
    (sameWaiting : waiting'.count k = waiting.count k)
    (kept : ∀ a, t.find? k = some a → ∃ a', t'.find? k = some a' ∧ K.limit a' = K.limit a ∧
      (K.live a' = true → K.live a = true ∧ K.attempts a' = K.attempts a))
    (born : t.find? k = none → ∀ a', t'.find? k = some a' →
      K.attempts a' = 0 ∧ 0 ≤ K.limit a') :
    Tally.Quiet (K.tally t made waiting k) (K.tally t' made' waiting' k) := by
  rcases before : t.find? k with _ | a
  · rw [tally_absent K t made waiting k before]
    rcases after : t'.find? k with _ | a'
    · rw [tally_absent K t' made' waiting' k after]
      exact ⟨sameMade, sameWaiting, fun no => (by cases no), fun no => (by cases no),
        fun _ => Int.le_refl 0, fun _ => rfl, fun no => (by cases no)⟩
    · obtain ⟨zero, room⟩ := born before a' after
      rw [tally_found K t' made' waiting' k a' after]
      exact ⟨sameMade, sameWaiting, fun no => (by cases no), fun _ => .inr ⟨rfl, zero⟩,
        fun _ => room, fun no => (by cases no), fun _ => rfl⟩
  · obtain ⟨a', after, limit, live⟩ := kept a before
    rw [tally_found K t made waiting k a before, tally_found K t' made' waiting' k a' after]
    exact ⟨sameMade, sameWaiting, fun _ => ⟨rfl, limit⟩, fun on => .inl (live on),
      fun no => (by cases no), fun no => (by cases no), fun _ => rfl⟩

theorem quiet_same :
    Tally.Quiet (K.tally t made waiting k) (K.tally t made waiting k) :=
  K.quiet t t made made waiting waiting k rfl rfl
    (fun a found => ⟨a, found, rfl, fun on => ⟨on, rfl⟩⟩)
    (fun absent a' found => by rw [absent] at found; cases found)

theorem quiet_modify (p : α → Bool) (f : α → α) (keep : ∀ a, key (f a) = key a)
    (sameMade : made'.count k = made.count k) (sameWaiting : waiting'.count k = waiting.count k)
    (counts : ∀ a, key a = k → p a = true → K.limit (f a) = K.limit a ∧
      (K.live (f a) = true → K.live a = true ∧ K.attempts (f a) = K.attempts a)) :
    Tally.Quiet (K.tally t made waiting k) (K.tally (t.modify p f keep) made' waiting' k) := by
  refine K.quiet t _ made made' waiting waiting' k sameMade sameWaiting ?_ ?_
  · intro a found
    refine ⟨_, by rw [Table.find?_modify, found]; rfl, ?_⟩
    dsimp only
    split
    · next matched => exact counts a (Table.key_of_find? _ _ _ found) matched
    · exact ⟨rfl, fun on => ⟨on, rfl⟩⟩
  · intro absent a' found
    rw [Table.find?_modify, absent] at found
    cases found

theorem quiet_insert (a : α) (inserted : t.insert? a = some t') (zero : K.attempts a = 0)
    (room : 0 ≤ K.limit a) :
    Tally.Quiet (K.tally t made waiting k) (K.tally t' made waiting k) := by
  refine K.quiet t t' made made waiting waiting k rfl rfl ?_ ?_
  · exact fun old found => ⟨old, Table.find?_insert_of_found _ _ _ inserted k old found, rfl,
      fun on => ⟨on, rfl⟩⟩
  · intro absent a' found
    rw [Table.find?_insert _ _ _ inserted, absent] at found
    split at found
    · cases found
      exact ⟨zero, room⟩
    · cases found

theorem made_attempted (live : K.alive t k = true) :
    K.tally t (k :: made) (k :: waiting) k = (K.tally t made waiting k).attempted := by
  unfold Tally.attempted
  rw [tally_live, if_pos live]
  obtain ⟨a, found, on⟩ := (Option.any_eq_true _ _).mp live
  rw [tally_found K t made waiting k a found, tally_found K t _ _ k a found]
  simp [on, live]

theorem unmade_attempted (dead : K.alive t k = false) :
    K.tally t made waiting k = (K.tally t made waiting k).attempted := by
  unfold Tally.attempted
  rw [tally_live, dead, if_neg Bool.false_ne_true]

theorem settled_modify (p : α → Bool) (f : α → α) (keep : ∀ a, key (f a) = key a) (a : α)
    (found : t.find? k = some a) (limit : K.limit (if p a then f a else a) = K.limit a)
    (counts : K.live (if p a then f a else a) = true →
      K.live a = true ∧ K.attempts (if p a then f a else a) = K.attempts a + 1) :
    Tally.Settled (K.tally t made waiting k)
      (K.tally (t.modify p f keep) made (waiting.erase k) k) := by
  have after : (t.modify p f keep).find? k = some (if p a then f a else a) := by
    rw [Table.find?_modify, found]
    rfl
  rw [tally_found K t made waiting k a found, tally_found K _ _ _ k _ after]
  exact ⟨rfl, List.count_erase_self, rfl, limit, counts⟩

end Steps

section Leads

variable (t t' : Table α key) (made made' waiting waiting' : List κ) (who k : κ)
  (next : Option Role)

/-- A read leads on to an attempt only at the count that it found. -/
theorem read_leads (onward : next = none ∨ next = some .plain ∨
      ∃ who a, t.find? who = some a ∧ K.attempts a < K.limit a ∧
        next = some (if who = k then .make (K.attempts a) (K.limit a) else .plain)) :
    Tally.leads .plain (K.tally t made waiting k) (K.tally t made waiting k) next := by
  refine ⟨K.quiet_same t made waiting k, ?_⟩
  rcases onward with none | plain | ⟨who, a, found, room, rfl⟩
  · exact .inl none
  · exact .inr (.inl plain)
  · by_cases here : who = k
    · subst here
      rw [if_pos rfl, K.tally_found t made waiting who a found]
      exact .inr (.inr ⟨rfl, rfl, K.attempts a, room, rfl⟩)
    · exact .inr (.inl (by rw [if_neg here]))

theorem attempt_leads (attempts limit : Int)
    (effect : K.alive t who = true ∧ t' = t ∧ made' = who :: made ∧ waiting' = who :: waiting ∨
      K.alive t who = false ∧ t' = t ∧ made' = made ∧ waiting' = waiting)
    (onward : next = none ∨ next = some (if who = k then .settle else .plain)) :
    Tally.leads (if who = k then .make attempts limit else .plain) (K.tally t made waiting k)
      (K.tally t' made' waiting' k) next := by
  by_cases here : who = k
  · subst here
    rw [if_pos rfl] at onward ⊢
    refine ⟨?_, onward⟩
    rcases effect with ⟨live, rfl, rfl, rfl⟩ | ⟨dead, rfl, rfl, rfl⟩
    · exact K.made_attempted t' made waiting who live
    · exact K.unmade_attempted t' made' waiting' who dead
  · rw [if_neg here] at onward ⊢
    refine ⟨?_, onward.imp_right .inl⟩
    rcases effect with ⟨-, rfl, rfl, rfl⟩ | ⟨-, rfl, rfl, rfl⟩
    · exact K.quiet t' t' made _ waiting _ k (List.count_cons_of_ne here)
        (List.count_cons_of_ne here) (fun a found => ⟨a, found, rfl, fun on => ⟨on, rfl⟩⟩)
        (fun absent a found => by rw [absent] at found; cases found)
    · exact K.quiet_same t' made' waiting' k

/-- What waits to be settled is there. -/
theorem known_found (known : Tally.Known (K.tally t made waiting k) .settle) :
    ∃ a, t.find? k = some a := by
  rcases found : t.find? k with _ | a
  · rw [K.tally_absent t made waiting k found] at known
    cases known.1
  · exact ⟨a, rfl⟩

theorem absent_leads (absent : t.find? who = none)
    (known : Tally.Known (K.tally t made waiting k) (if who = k then .settle else .plain))
    (onward : next = none ∨ next = some .plain) :
    Tally.leads (if who = k then .settle else .plain) (K.tally t made waiting k)
      (K.tally t made waiting k) next := by
  by_cases here : who = k
  · subst here
    rw [if_pos rfl] at known
    obtain ⟨a, found⟩ := K.known_found t made waiting who known
    rw [absent] at found
    cases found
  · rw [if_neg here]
    exact ⟨K.quiet_same t made waiting k, onward.imp_right .inl⟩

theorem settle_leads (p : α → Bool) (f : α → α) (keep : ∀ a, key (f a) = key a)
    (own : ∀ a, p a = true → key a = who)
    (counts : ∀ a, t.find? who = some a → K.limit (if p a then f a else a) = K.limit a ∧
      (K.live (if p a then f a else a) = true →
        K.live a = true ∧ K.attempts (if p a then f a else a) = K.attempts a + 1))
    (known : Tally.Known (K.tally t made waiting k) (if who = k then .settle else .plain))
    (onward : next = none ∨ next = some .plain) :
    Tally.leads (if who = k then .settle else .plain) (K.tally t made waiting k)
      (K.tally (t.modify p f keep) made (waiting.erase who) k) next := by
  by_cases here : who = k
  · subst here
    rw [if_pos rfl] at known ⊢
    obtain ⟨a, found⟩ := K.known_found t made waiting who known
    obtain ⟨limit, live⟩ := counts a found
    exact ⟨K.settled_modify t made waiting who p f keep a found limit live, onward⟩
  · rw [if_neg here]
    refine ⟨K.quiet_modify t made made waiting _ k p f keep rfl
      (List.count_erase_of_ne (Ne.symm here)) ?_, onward.imp_right .inl⟩
    intro a named matched
    exact absurd ((own a matched).symm.trans named) here

end Leads

end Counter

end ErpBackend.Foundation
