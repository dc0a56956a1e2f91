/-! # Association lists

Finite maps kept as lists of key-value pairs with distinct keys. `Assoc.insert` replaces
the value of a present key in place and appends a new key at the end, so the list also
records the order in which keys first arrived. -/
set_option autoImplicit false
namespace TicketMarket
namespace Assoc

variable {κ ν : Type} [DecidableEq κ]

/-- The value stored under a key. -/
def lookup (k : κ) : List (κ × ν) → Option ν
  | [] => none
  | (k', v) :: rest => if k' = k then some v else lookup k rest

/-- Store a value under a key, replacing the old value in place. -/
def insert (k : κ) (v : ν) : List (κ × ν) → List (κ × ν)
  | [] => [(k, v)]
  | (k', v') :: rest => if k' = k then (k, v) :: rest else (k', v') :: insert k v rest

/-- Remove a key. -/
def erase (k : κ) (m : List (κ × ν)) : List (κ × ν) := m.filter (fun p => !decide (p.1 = k))

/-- Whether a key is stored. -/
def contains (k : κ) (m : List (κ × ν)) : Bool := (lookup k m).isSome

@[simp] theorem lookup_nil (k : κ) : lookup k ([] : List (κ × ν)) = none := rfl

theorem lookup_insert (k k' : κ) (v : ν) (m : List (κ × ν)) :
    lookup k' (insert k v m) = if k = k' then some v else lookup k' m := by
  induction m with
  | nil => simp [insert, lookup]
  | cons p rest ih =>
    obtain ⟨j, w⟩ := p
    by_cases hj : j = k
    · subst hj
      by_cases hk : j = k' <;> simp [insert, lookup, hk]
    · simp only [insert, hj, if_false, lookup, ih]
      by_cases hk : k = k' <;> by_cases hjk : j = k' <;> simp_all

theorem lookup_erase (k k' : κ) (m : List (κ × ν)) :
    lookup k' (erase k m) = if k = k' then none else lookup k' m := by
  induction m with
  | nil => simp [erase, lookup]
  | cons p rest ih =>
    obtain ⟨j, w⟩ := p
    simp only [erase] at ih ⊢
    by_cases hj : j = k
    · subst hj
      simp only [List.filter_cons, decide_true, Bool.not_true, Bool.false_eq_true, if_false, ih,
        lookup]
      by_cases hk : j = k' <;> simp [hk]
    · simp only [List.filter_cons, hj, decide_false, Bool.not_false, if_true, lookup, ih]
      by_cases hk : k = k' <;> by_cases hjk : j = k' <;> simp_all

theorem lookup_eq_none_iff (k : κ) (m : List (κ × ν)) :
    lookup k m = none ↔ k ∉ m.map (·.1) := by
  induction m with
  | nil => simp
  | cons p rest ih =>
    obtain ⟨j, w⟩ := p
    by_cases hj : j = k
    · simp [lookup, hj]
    · simp [lookup, hj, ih, Ne.symm hj]

/-- Storing under a key not yet present appends it at the end. -/
theorem insert_of_lookup_eq_none {k : κ} {m : List (κ × ν)} (absent : lookup k m = none)
    (v : ν) : insert k v m = m ++ [(k, v)] := by
  induction m with
  | nil => rfl
  | cons p rest ih =>
    obtain ⟨j, w⟩ := p
    have other : j ≠ k := by
      rintro rfl
      simp [lookup] at absent
    have restAbsent : lookup k rest = none := by simpa [lookup, other] using absent
    simp [insert, other, ih restAbsent]

theorem lookup_append_of_lookup_eq_none {k : κ} {m : List (κ × ν)} (absent : lookup k m = none)
    (v : ν) (k' : κ) : lookup k' (m ++ [(k, v)]) = if k = k' then some v else lookup k' m := by
  rw [← insert_of_lookup_eq_none absent, lookup_insert]

end Assoc
end TicketMarket
