/-! Computations that may fail: when one after the other succeeds, and when all on a list do. -/

namespace Scaffold

theorem bind_eq_ok {ε α β : Type} {x : Except ε α} {f : α → Except ε β} {b : β} :
    x >>= f = .ok b ↔ ∃ a, x = .ok a ∧ f a = .ok b := by
  cases x with
  | error e => exact ⟨nofun, fun ⟨a, h, _⟩ => nomatch h⟩
  | ok a => exact ⟨fun h => ⟨a, rfl, h⟩, fun ⟨a', h, h'⟩ => by cases h; exact h'⟩

/-- What is done in two parts goes on with the second where the first has ended well. -/
theorem run_run_bind {ε σ α β : Type} (op : ExceptT ε (StateM σ) α) (f : α → ExceptT ε (StateM σ) β) (s : σ) :
    (op >>= f).run.run s =
      match op.run.run s with
      | (.ok a, u) => (f a).run.run u
      | (.error e, u) => (.error e, u) := by
  rw [ExceptT.run_bind, StateT.run_bind]
  generalize StateT.run op.run s = done
  obtain ⟨result, u⟩ := done
  cases result <;> rfl

variable {α β : Type} {read : α → Option β} {xs : List α}

theorem mapM_eq_some_iff {ys : List β} : xs.mapM read = some ys ↔ xs.map read = ys.map some := by
  induction xs generalizing ys with
  | nil => cases ys <;> simp
  | cons x xs ih =>
    rw [List.mapM_cons, Option.bind_eq_bind, Option.bind_eq_some_iff]
    simp only [Option.bind_eq_bind, Option.bind_eq_some_iff, Option.pure_def, Option.some_inj]
    constructor
    · rintro ⟨y, hy, ys, hys, rfl⟩
      rw [List.map_cons, List.map_cons, hy, ih.1 hys]
    · intro h
      cases ys with
      | nil => cases h
      | cons y ys =>
        obtain ⟨hy, hys⟩ := List.cons.inj h
        exact ⟨y, hy, ys, ih.2 hys, rfl⟩

theorem mapM_map_eq_some {write : β → α} {ys : List β} (h : ∀ y ∈ ys, read (write y) = some y) :
    (ys.map write).mapM read = some ys := by
  rw [mapM_eq_some_iff, List.map_map]
  exact List.map_congr_left h

theorem exists_of_mapM_eq_none (h : xs.mapM read = none) : ∃ x ∈ xs, read x = none := by
  induction xs with
  | nil => cases h
  | cons x xs ih =>
    cases hx : read x with
    | none => exact ⟨x, List.mem_cons_self, hx⟩
    | some y =>
      have hrest : xs.mapM read = none := by
        cases hxs : xs.mapM read with
        | none => rfl
        | some ys => simp [hx, hxs] at h
      obtain ⟨z, hz, hnone⟩ := ih hrest
      exact ⟨z, List.mem_cons_of_mem x hz, hnone⟩

end Scaffold
