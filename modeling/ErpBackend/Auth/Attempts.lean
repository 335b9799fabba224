import ErpBackend.Foundation.Attempts
import ErpBackend.Auth.Challenges

/-!
# Attempts at a challenge

The count that a verification checks is the one it read; what it compared is counted a
step later.
-/

namespace ErpBackend.Auth.Otp

open Foundation

/-- The challenge is compared with while its count is what was read, and while no comparison of
it waits to be counted. -/
def UpToDate (s : Store) : Mark → Prop
  | .compare c => ∀ row ∈ s.otpChallenges.find? c.id, row.status = .pending →
      row.attemptCount = c.attemptCount ∧ c.id ∉ s.comparing
  | _ => True

def counter : Counter OtpChallenge where
  live c := c.status = .pending
  attempts c := c.attemptCount
  limit c := c.maxAttempts

section Tally

variable (id : Id)

def tally (s : Store) : Tally := counter.tally s.otpChallenges s.compared s.comparing id

def role : Mark → Role
  | .compare c => if c.id = id then .make c.attemptCount c.maxAttempts else .plain
  | .count challengeId => if challengeId = id then .settle else .plain
  | .consume challengeId => if challengeId = id then .settle else .plain
  | _ => .plain

theorem role_plain (mark : Mark) (plain : mark.plain = true) : role id mark = .plain := by
  cases mark with
  | compare c => cases plain
  | count challengeId => cases plain
  | consume challengeId => cases plain
  | other => rfl
  | finish => rfl
  | supersede => rfl
  | deliver => rfl

theorem plain_next (next : Option Mark) (plain : ∀ mark ∈ next, mark.plain = true) :
    next.map (role id) = none ∨ next.map (role id) = some .plain := by
  cases next with
  | none => exact .inl rfl
  | some mark => exact .inr (by rw [Option.map_some, role_plain id mark (plain mark rfl)])

theorem settle_next (challengeId : Id) (next : Option Mark)
    (about : ∀ mark ∈ next, mark.settles = some challengeId) :
    next.map (role id) = none ∨
      next.map (role id) = some (if challengeId = id then .settle else .plain) := by
  cases next with
  | none => exact .inl rfl
  | some mark =>
      have settles := about mark rfl
      right
      cases mark with
      | count other => cases settles; rfl
      | consume other => cases settles; rfl
      | compare c => cases settles
      | other => cases settles
      | finish => cases settles
      | supersede => cases settles
      | deliver => cases settles

section Quiet

variable (s s' : Store)

theorem supersede_quiet (config : Config) (now : Time) (params : RequestParams) (newId : Id)
    (codeHash : String)
    (done : supersedeTx now (newChallenge config now params newId codeHash) s = .ok s') :
    Tally.Quiet (tally id s) (tally id s') := by
  unfold supersedeTx at done
  dsimp only at done
  split at done
  · cases done
  · split at done
    · cases done
    · next t' inserted =>
      cases done
      refine Tally.Quiet.trans (counter.quiet_modify s.otpChallenges _ _ _ _ id _ _
        (OtpChallenge.cancelled_id now) rfl rfl ?_) (counter.quiet_insert _ t' _ _ id _ inserted rfl
          (Int.natCast_nonneg _))
      exact fun c _ _ => ⟨rfl, fun on => (by simp [counter, OtpChallenge.cancelled] at on)⟩

theorem deliver_quiet (config : Config) (now : Time) (result : DeliveryResult) (challengeId : Id)
    (done : deliverTx config now result challengeId s = .ok s') :
    Tally.Quiet (tally id s) (tally id s') := by
  unfold deliverTx at done
  split at done
  · cases done
  · cases done
    refine counter.quiet_modify s.otpChallenges _ _ _ _ id _ _ (delivered_id config now result)
      rfl rfl ?_
    intro c _ _
    unfold delivered
    cases result with
    | accepted provider providerMessageId => exact ⟨rfl, fun on => ⟨on, rfl⟩⟩
    | failed provider reason detail => exact ⟨rfl, fun on => ⟨on, rfl⟩⟩

end Quiet

section Leads

variable (s s' : Store) (next : Option Mark)

theorem leads_plain (quiet : Tally.Quiet (tally id s) (tally id s'))
    (onward : ∀ mark ∈ next, mark.plain = true) :
    Tally.leads .plain (tally id s) (tally id s') (next.map (role id)) :=
  ⟨quiet, (plain_next id next onward).imp_right .inl⟩

theorem same_plain (onward : ∀ mark ∈ next, mark.plain = true) :
    Tally.leads .plain (tally id s) (tally id s) (next.map (role id)) :=
  leads_plain id s s next (counter.quiet_same _ _ _ id) onward

theorem other_leads (onward : ∀ mark ∈ next, mark.plain = true ∨
      ∃ c, s.otpChallenges.find? c.id = some c ∧ c.attemptCount < c.maxAttempts ∧
        mark = .compare c) :
    Tally.leads .plain (tally id s) (tally id s) (next.map (role id)) := by
  apply counter.read_leads
  cases next with
  | none => exact .inl rfl
  | some mark =>
      right
      rcases onward mark rfl with ordinary | ⟨c, found, below, rfl⟩
      · exact .inl (by rw [Option.map_some, role_plain id mark ordinary])
      · exact .inr ⟨c.id, c, found, below, rfl⟩

theorem compare_leads (c : OtpChallenge)
    (effect : s' = if live s c.id then
      { s with compared := c.id :: s.compared, comparing := c.id :: s.comparing } else s)
    (about : ∀ mark ∈ next, mark.settles = some c.id) :
    Tally.leads (role id (.compare c)) (tally id s) (tally id s') (next.map (role id)) := by
  apply counter.attempt_leads
  · subst effect
    by_cases alive : live s c.id = true
    · rw [if_pos alive]
      exact .inl ⟨alive, rfl, rfl, rfl⟩
    · rw [if_neg alive]
      exact .inr ⟨Bool.eq_false_iff.mpr alive, rfl, rfl, rfl⟩
  · exact settle_next id c.id next about

theorem count_leads (challengeId : Id)
    (known : Tally.Known (tally id s) (role id (.count challengeId)))
    (effect : s' = s ∧ s.otpChallenges.find? challengeId = none ∨
      ∃ now c, countTx now challengeId s = .ok (s', c))
    (onward : ∀ mark ∈ next, mark.plain = true) :
    Tally.leads (role id (.count challengeId)) (tally id s) (tally id s')
      (next.map (role id)) := by
  have after := plain_next id next onward
  rcases effect with ⟨rfl, absent⟩ | ⟨now, c, done⟩
  · exact counter.absent_leads _ _ _ challengeId id _ absent known after
  · rcases found : s.otpChallenges.find? challengeId with _ | row
    · simp [countTx, found] at done
    · simp only [countTx, found, Except.ok.injEq, Prod.mk.injEq] at done
      rw [← done.1]
      refine counter.settle_leads _ _ _ challengeId id _ _ (OtpChallenge.attempted now)
        (OtpChallenge.attempted_id now) (fun c named => of_decide_eq_true named) ?_ known after
      intro c found'
      simp [Table.key_of_find? _ _ _ found', counter, OtpChallenge.attempted]

theorem consume_leads (challengeId : Id)
    (known : Tally.Known (tally id s) (role id (.consume challengeId)))
    (effect : ∃ now count, consumeTx now challengeId s = .ok (s', count))
    (onward : ∀ mark ∈ next, mark.plain = true) :
    Tally.leads (role id (.consume challengeId)) (tally id s) (tally id s')
      (next.map (role id)) := by
  obtain ⟨now, count, done⟩ := effect
  cases done
  refine counter.settle_leads _ _ _ challengeId id _ _ (OtpChallenge.verified now)
    (OtpChallenge.verified_id now) (fun c named => (of_decide_eq_true named).1) ?_ known
    (plain_next id next onward)
  intro c found
  have key := Table.key_of_find? _ _ _ found
  by_cases pending : c.status = .pending
  · simp [key, pending, counter, OtpChallenge.verified]
  · simp [pending, counter]

end Leads

theorem leads_tally (config : Config) (m : Mark) (s s' : Store) (next : Option Mark)
    (known : Tally.Known (tally id s) (role id m)) (leads : otpLeads config m s s' next) :
    Tally.leads (role id m) (tally id s) (tally id s') (next.map (role id)) := by
  cases m with
  | other =>
      obtain ⟨rfl, onward⟩ := leads
      exact other_leads id s' next onward
  | finish =>
      obtain ⟨⟨p, f, keep, pending, ends, rfl⟩, onward⟩ := leads
      refine leads_plain id s _ next ?_ onward
      refine counter.quiet_modify s.otpChallenges _ _ _ _ id p f keep rfl rfl ?_
      exact fun c _ matched => ⟨(ends c).2.2, fun on =>
        absurd (of_decide_eq_true on) (ends c).1.status⟩
  | supersede =>
      obtain ⟨rfl | ⟨now, params, newId, codeHash, done⟩, onward⟩ := leads
      · exact same_plain id s' next onward
      · exact leads_plain id s s' next
          (supersede_quiet id s s' config now params newId codeHash done) onward
  | deliver =>
      obtain ⟨rfl | ⟨now, result, challengeId, done⟩, onward⟩ := leads
      · exact same_plain id s' next onward
      · exact leads_plain id s s' next
          (deliver_quiet id s s' config now result challengeId done) onward
  | compare c => exact compare_leads id s s' next c leads.1 leads.2
  | count challengeId => exact count_leads id s s' next challengeId known leads.1 leads.2
  | consume challengeId => exact consume_leads id s s' next challengeId known leads.1 leads.2

def attemptProtocol (config : Config) : Protocol Store Mark :=
  Tally.counting.comap (tally id) (role id) (otpLeads config)
    (fun m s s' next known leads => leads_tally id config m s s' next known leads)

theorem upToDate_fits (s : Store) (m : Mark) (upToDate : UpToDate s m) :
    Tally.UpToDate (tally id s) (role id m) := by
  cases m with
  | compare c =>
      by_cases here : c.id = id
      · subst here
        simp only [role, if_pos]
        intro alive
        unfold tally at alive ⊢
        rcases found : s.otpChallenges.find? c.id with _ | row
        · rw [counter.tally_absent _ _ _ c.id found] at alive
          cases alive
        · rw [counter.tally_found _ _ _ c.id row found] at alive ⊢
          obtain ⟨same, free⟩ := upToDate row found (of_decide_eq_true alive)
          exact ⟨same, List.count_eq_zero_of_not_mem free⟩
      · simp only [role, if_neg here]
        trivial
  | count challengeId =>
      simp only [role]
      split
      · trivial
      · trivial
  | consume challengeId =>
      simp only [role]
      split
      · trivial
      · trivial
  | other => trivial
  | finish => trivial
  | supersede => trivial
  | deliver => trivial

end Tally

/-- What was compared is what was counted or waits to be, and within the limit. -/
def Recorded (s : Store) : Prop := ∀ id, Tally.Recorded (tally id s)

theorem call_attempts (config : Config) (id : Id) (p : Request Answer) (call : Call config p)
    (s : Store) : (attemptProtocol id config).Enters p s := by
  obtain ⟨walks, plain⟩ := call_unbegun config p call
  refine ⟨walks, ?_, ?_⟩
  · intro mark own
    change Tally.Known (tally id s) (role id mark)
    rw [role_plain id mark (plain mark own)]
    trivial
  · intro mark own pending
    change Tally.Apart (tally id s) (role id pending) (role id mark)
    rw [role_plain id mark (plain mark own)]
    cases role id pending <;> trivial

/-- In a run whose comparisons all find the count they read, no challenge is compared with more
often than it may be. -/
theorem run_attempts (config : Config) (s : Store) (recorded : Recorded s)
    (c : Foundation.Config Store Mark Refusal Answer)
    (run : FittingRun (Call config) UpToDate (.idle s) c) :
    ∀ challenge ∈ c.store.otpChallenges.rows,
      (c.store.compared.count challenge.id : Int) ≤ challenge.maxAttempts := by
  intro challenge member
  let P := attemptProtocol challenge.id config
  have fitting := FittingRun.mono (fun s m fit => upToDate_fits challenge.id s m fit) run
  have sound := P.run_sound (Call config) (.idle s) c
    (fun p call s _ => call_attempts config challenge.id p call s) fitting
    (P.sound_idle s (recorded challenge.id))
  have kept : Tally.Recorded (tally challenge.id c.store) := sound.inv
  have found : c.store.otpChallenges.find? challenge.id = some challenge :=
    (Table.find?_some _ _ _).mpr ⟨member, rfl⟩
  unfold tally at kept
  rw [counter.tally_found _ _ _ challenge.id challenge found] at kept
  exact kept.within

end ErpBackend.Auth.Otp
