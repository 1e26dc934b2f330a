import RolePolicy.Sorted.Order

/-!
# Actions

An action is a verb of a service, written `service:Verb`.  Actions are ordered by service, then by
verb.
-/

namespace RolePolicy

structure Action where
  service : String
  verb : String
  deriving DecidableEq, Repr

namespace Action

def text (a : Action) : String :=
  a.service ++ ":" ++ a.verb

instance : LT Action :=
  ⟨fun a b => a.service < b.service ∨ (a.service = b.service ∧ a.verb < b.verb)⟩

instance : DecidableLT Action := fun a b =>
  inferInstanceAs (Decidable (a.service < b.service ∨ (a.service = b.service ∧ a.verb < b.verb)))

instance : StrictTotalOrder Action where
  irrefl a h := by
    rcases h with h | ⟨_, h⟩
    · exact StrictTotalOrder.irrefl _ h
    · exact StrictTotalOrder.irrefl _ h
  trans {a b c} h h' := by
    rcases h with h | ⟨e, h⟩
    · rcases h' with h' | ⟨e', _⟩
      · exact Or.inl (StrictTotalOrder.trans h h')
      · exact Or.inl (e' ▸ h)
    · rcases h' with h' | ⟨e', h'⟩
      · exact Or.inl (e ▸ h')
      · exact Or.inr ⟨e.trans e', StrictTotalOrder.trans h h'⟩
  trichotomy a b := by
    rcases StrictTotalOrder.trichotomy a.service b.service with h | h | h
    · exact Or.inl (Or.inl h)
    · rcases StrictTotalOrder.trichotomy a.verb b.verb with h' | h' | h'
      · exact Or.inl (Or.inr ⟨h, h'⟩)
      · cases a; cases b; exact Or.inr (Or.inl (by simp_all))
      · exact Or.inr (Or.inr (Or.inr ⟨h.symm, h'⟩))
    · exact Or.inr (Or.inr (Or.inl h))

end Action

end RolePolicy
