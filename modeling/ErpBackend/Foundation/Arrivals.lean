import ErpBackend.Foundation.Interleave

/-!
# Requests the store admits

What a client sends may depend on what it has seen. A request arrives when the store
of that moment admits it; from then on it advances in any order.
-/

namespace ErpBackend.Foundation

variable {S M ε α : Type}

abbrev AdmittedRun (admits : S → Prog S M ε α → Prop) :
    Config S M ε α → Config S M ε α → Prop :=
  Relation.ReflTransGen (fun c c' => Step (admits c.store) anyOrder c c')

def Config.Welcomes (admits : S → Prog S M ε α → Prop) :
    Config S M ε α → List (Move S M ε α) → Prop
  | _, [] => True
  | c, .arrive p :: rest => admits c.store p ∧ (c.move (.arrive p)).Welcomes admits rest
  | c, .advance index :: rest => (c.move (.advance index)).Welcomes admits rest

variable (admits : S → Prog S M ε α → Prop)

theorem welcomes_advances (c : Config S M ε α)
    (moves : List (Move S M ε α)) (only : ∀ move ∈ moves, ∃ index, move = .advance index) :
    c.Welcomes admits moves := by
  induction moves generalizing c with
  | nil => trivial
  | cons move rest ih =>
      obtain ⟨index, rfl⟩ := only move (List.mem_cons_self ..)
      exact ih _ (fun move member => only move (List.mem_cons_of_mem _ member))

theorem admitted_schedule (c : Config S M ε α)
    (moves : List (Move S M ε α)) (welcome : c.Welcomes admits moves) :
    AdmittedRun admits c (c.schedule moves) := by
  refine schedule_steps _ (fun c moves => c.Welcomes admits moves) ?_ c moves welcome
  intro c move rest welcome
  cases move with
  | arrive p => exact ⟨.single (.arrive c.store c.inFlight p welcome.1), welcome.2⟩
  | advance index =>
      refine ⟨?_, welcome⟩
      cases pending : c.inFlight[index]?.bind Prog.mark? with
      | none => rw [c.move_idle index pending]
      | some m =>
          exact .single (advance_step (admits c.store) anyOrder c index (by rw [pending]; rfl)
          (fun m _ q _ => permits_anyOrder q c.store m))

namespace Discipline

variable (D : Discipline S M)

/-- In a run whose requests are safe where they arrive, a relation that every guarantee
refines relates the first store to the last. -/
theorem admitted_keeps (safe : ∀ s p, admits s p → D.inv s → D.Safe p s)
    (frame : ∀ s m m' s', D.inv s → D.guar m s s' → D.rely m' s s')
    (related : S → S → Prop) (self : ∀ s, related s s)
    (chain : ∀ s s' s'', related s s' → related s' s'' → related s s'')
    (each : ∀ m s s', D.guar m s s' → related s s')
    {c c' : Config S M ε α} (run : AdmittedRun admits c c') (sound : D.Sound c) :
    D.Sound c' ∧ related c.store c'.store := by
  induction run with
  | refl => exact ⟨sound, self _⟩
  | @tail middle last _ step ih =>
      obtain ⟨sound', so_far⟩ := ih
      have sound'' := D.step_sound (admits middle.store) anyOrder middle last
        (fun p admitted invariant => safe middle.store p admitted invariant)
        (fun s m m' s' _ => frame s m m' s') step sound'
      refine ⟨sound'', ?_⟩
      cases step with
      | arrive s inFlight p admitted => exact so_far
      | advance s before after m write next _ =>
          exact chain _ _ _ so_far (each m s (write s) (Sound.guar D sound'))

end Discipline

end ErpBackend.Foundation
