import Jargon.Random.Draw

/-!
# Taking draws apart

A chain of draws succeeds exactly when each of its links does, and what a single draw gives is
known: an index below its bound, an entry of its list.

* `bind_eq_ok`                two draws, one after the other;
* `map_eq_ok`                 a draw whose answer is changed;
* `cons_eq_ok`                a row of draws, taken apart at its first;
* `below_eq_ok_lt`, `pick_eq_ok_mem`   what was drawn;
* `Total`                     a draw that succeeds from every source.
-/

namespace Jargon.Draw

variable {σ α β : Type}

theorem pure_eq_ok {a b : α} {s s' : σ} :
    (pure a : Draw σ α) s = .ok (b, s') ↔ b = a ∧ s' = s := by
  show (Except.ok (a, s) : Except Fault (α × σ)) = .ok (b, s') ↔ _
  rw [Except.ok.injEq, Prod.mk.injEq]
  exact ⟨fun h => ⟨h.1.symm, h.2.symm⟩, fun h => ⟨h.1.symm, h.2.symm⟩⟩

theorem bind_eq_ok {x : Draw σ α} {f : α → Draw σ β} {s s'' : σ} {b : β} :
    (x >>= f) s = .ok (b, s'') ↔ ∃ a s', x s = .ok (a, s') ∧ f a s' = .ok (b, s'') := by
  show (x s >>= fun p => f p.1 p.2) = .ok (b, s'') ↔ _
  cases h : x s with
  | error e =>
    constructor
    · intro h'; cases h'
    · rintro ⟨a, s', h', -⟩; cases h'
  | ok p =>
    obtain ⟨a, s'⟩ := p
    constructor
    · intro h'; exact ⟨a, s', rfl, h'⟩
    · rintro ⟨a', s₂, h', hf⟩; cases h'; exact hf

theorem map_eq_ok {x : Draw σ α} {f : α → β} {s s' : σ} {b : β} :
    (f <$> x) s = .ok (b, s') ↔ ∃ a, x s = .ok (a, s') ∧ b = f a := by
  rw [map_eq_pure_bind, bind_eq_ok]
  constructor
  · rintro ⟨a, s₁, hx, hf⟩
    obtain ⟨rfl, rfl⟩ := pure_eq_ok.mp hf
    exact ⟨a, hx, rfl⟩
  · rintro ⟨a, hx, rfl⟩
    exact ⟨a, s', hx, rfl⟩

/-- a draw in front of a row of draws -/
theorem cons_eq_ok {x : Draw σ α} {xs : Draw σ (List α)} {s s'' : σ} {row : List α} :
    (x >>= fun a => xs >>= fun rest => pure (a :: rest)) s = .ok (row, s'') ↔
      ∃ a s' rest, x s = .ok (a, s') ∧ xs s' = .ok (rest, s'') ∧ row = a :: rest := by
  rw [bind_eq_ok]
  constructor
  · rintro ⟨a, s', hx, h⟩
    obtain ⟨rest, s₂, hxs, h⟩ := bind_eq_ok.mp h
    obtain ⟨rfl, rfl⟩ := pure_eq_ok.mp h
    exact ⟨a, s', rest, hx, hxs, rfl⟩
  · rintro ⟨a, s', rest, hx, hxs, rfl⟩
    exact ⟨a, s', hx, bind_eq_ok.mpr ⟨rest, s'', hxs, rfl⟩⟩

variable [WordSource σ]

theorem below_eq_ok_lt {n i : Nat} {s s' : σ} (h : below n s = .ok (i, s')) : i < n := by
  unfold below at h
  split at h
  · cases h
  · rename_i hn
    have hlt := belowWithin_lt (Nat.pos_of_ne_zero hn) patience s
    rw [Except.ok.injEq] at h
    rw [h] at hlt
    exact hlt

theorem pick_eq_ok_mem {entries : List String} {word : String} {s s' : σ}
    (h : pick entries s = .ok (word, s')) : word ∈ entries := by
  obtain ⟨i, s₁, hi, hw⟩ := bind_eq_ok.mp h
  have hlt := below_eq_ok_lt hi
  rw [List.getElem?_eq_getElem hlt] at hw
  obtain ⟨rfl, -⟩ := pure_eq_ok.mp hw
  exact List.getElem_mem hlt

/-! ## draws that always succeed -/

/-- no source makes it fail -/
def Total (x : Draw σ α) : Prop := ∀ s, ∃ a s', x s = .ok (a, s')

omit [WordSource σ] in
theorem total_pure (a : α) : Total (pure a : Draw σ α) := fun s => ⟨a, s, rfl⟩

omit [WordSource σ] in
theorem Total.bind {x : Draw σ α} {f : α → Draw σ β} (hx : Total x) (hf : ∀ a, Total (f a)) :
    Total (x >>= f) := by
  intro s
  obtain ⟨a, s₁, hx⟩ := hx s
  obtain ⟨b, s₂, hb⟩ := hf a s₁
  exact ⟨b, s₂, bind_eq_ok.mpr ⟨a, s₁, hx, hb⟩⟩

omit [WordSource σ] in
theorem Total.map {x : Draw σ α} (hx : Total x) (f : α → β) : Total (f <$> x) := by
  rw [map_eq_pure_bind]
  exact hx.bind fun a => total_pure (f a)

theorem total_pick {entries : List String} (h : entries ≠ []) :
    Total (pick entries : Draw σ String) := by
  intro s
  obtain ⟨entry, s', hpick, -⟩ := pick_eq_ok h s
  exact ⟨entry, s', hpick⟩

end Jargon.Draw
