import AqlClient.Proofs.Program.Invariant

/-!
# The two ends of a program

A program ends well or fails, and what holds there need not be the same (`Program.Ends`). A program
stays on course (`Program.Stays`) if, from where something holds, it ends well only where that still
holds, and fails only where something else does, which may depend on the failure. Upholding an
invariant is the case in which both ends are alike (`Program.upholds_iff_stays`).
-/

namespace AqlClient

namespace Program

variable {α β ω : Type} {D : Discipline ω} {I J : ω → Scene → Prop}
  {F : Failure → ω → Scene → Prop} {E : Failure → Prop} {w : ω} {s : Scene}

/-- Where a program ends well `I` holds, and where it fails with `e` there is `F e`. -/
def Ends (I : ω → Scene → Prop) (F : Failure → ω → Scene → Prop) :
    Except Failure α → ω → Scene → Prop
  | .ok _ => I
  | .error e => F e

/-- **A program stays on course:** it starts where `I` holds, and ends where `I` holds unless it
fails. -/
def Stays (D : Discipline ω) (I : ω → Scene → Prop) (F : Failure → ω → Scene → Prop)
    (p : Program α) : Prop :=
  ∀ ⦃w s⦄, I w s → p.wp D (Ends I F) w s

/-- **One program after another:** a failure of the first one is the end of both. -/
theorem wp_ends_seq {p : Program α} {f : α → Program β} (hp : p.wp D (Ends J F) w s)
    (hf : ∀ a w s, J w s → (f a).wp D (Ends I F) w s) : (p >>= f).wp D (Ends I F) w s :=
  wp_seq hp hf fun _ _ _ h => h

theorem stays_pure (a : α) : (pure a : Program α).Stays D I F := fun _ _ h => h

theorem stays_view (f : Scene → α) : (view f).Stays D I F := fun _ _ h => h

theorem stays_bind {p : Program α} {f : α → Program β} (hp : p.Stays D I F)
    (hf : ∀ a, (f a).Stays D I F) : (p >>= f).Stays D I F :=
  fun _ _ h => wp_ends_seq (hp h) fun a _ _ h => hf a h

/-- An invariant is kept if it holds at both ends. -/
theorem kept_iff_ends {r : Except Failure α} :
    Kept I E r w s ↔ Ends I (fun e w s => I w s ∧ E e) r w s := by
  cases r with
  | ok a => exact ⟨fun h => h.1, fun h => kept_ok h⟩
  | error e => exact ⟨fun h => ⟨h.1, h.2 e rfl⟩, fun h => kept_error h.1 h.2⟩

theorem wp_kept_iff_ends {p : Program α} :
    p.wp D (Kept I E) w s ↔ p.wp D (Ends I fun e w s => I w s ∧ E e) w s :=
  ⟨fun h => wp_mono h fun _ _ _ => kept_iff_ends.1,
    fun h => wp_mono h fun _ _ _ => kept_iff_ends.2⟩

theorem upholds_iff_stays {p : Program α} :
    p.Upholds D I E ↔ p.Stays D I fun e w s => I w s ∧ E e :=
  ⟨fun h _ _ hI => wp_kept_iff_ends.1 (h hI), fun h _ _ hI => wp_kept_iff_ends.2 (h hI)⟩

end Program

end AqlClient
