import KmsIntegrations.Kmsp11.Basic
import KmsIntegrations.Kmsp11.StdSort

/-!
# `HandleMap<T>`

The registry of `kmsp11/util/handle_map.h`: items of one type under `CK_ULONG` handles, with the
`CK_RV` to report for an unknown handle. Each operation is one step on the map; the mutex that
serialises them is not modelled, since under it every interleaving of callers is a sequence of
steps. Each operation has one spec lemma, stated over the binding function `lookup`, and the
run-level results of `Kmsp11.HandleMapRun` are assembled from them alone.
-/

namespace Kmsp11

open Common

/-- `HandleMap<T>`: `not_found_rv_`, and `items_` with its entries in iteration order. -/
structure HandleMap (T : Type) where
  notFoundRv : CkRv
  items : AList (fun _ : CkUlong => T)

namespace HandleMap

variable {T : Type}

/-- `HandleMap(not_found_rv)`. -/
def new (notFoundRv : CkRv) : HandleMap T := ⟨notFoundRv, ∅⟩

/-- The item a handle is bound to. -/
def lookup (m : HandleMap T) (handle : CkUlong) : Option T := m.items.lookup handle

/-- `HandleMap::Add`: draw from `RandomHandle` until the handle is not in use, then `try_emplace`
the item there. `none` when `draws` ends before an unused handle. -/
def add (m : HandleMap T) (item : T) (draws : List CkUlong) :
    Option (CkUlong × HandleMap T × List CkUlong) :=
  (drawUnused (fun h => decide (h ∈ m.items)) draws).map fun (handle, rest) =>
    (handle, { m with items := tryEmplace handle item m.items }, rest)

/-- The status of `AddDirect` at a handle in use. -/
def alreadyInUse (handle : CkUlong) : Status :=
  .internal ("handle " ++ formatHexAlt handle.toNat ++ " is already in use")

/-- `HandleMap::AddDirect`. -/
def addDirect (m : HandleMap T) (handle : CkUlong) (item : T) : Except Status Unit × HandleMap T :=
  if handle ∈ m.items then (.error (alreadyInUse handle), m)
  else (.ok (), { m with items := m.items.insert handle item })

/-- `HandleMap::Get`. -/
def get (m : HandleMap T) (handle : CkUlong) : Except Status T :=
  match m.items.lookup handle with
  | none => .error (.handleNotFound handle m.notFoundRv)
  | some item => .ok item

/-- `HandleMap::Remove`. -/
def remove (m : HandleMap T) (handle : CkUlong) : Except Status Unit × HandleMap T :=
  if handle ∈ m.items then (.ok (), { m with items := m.items.erase handle })
  else (.error (.handleNotFound handle m.notFoundRv), m)

/-- The loop of `HandleMap::Find`: the handles whose item `predicate` accepts, in iteration
order. -/
def matching (m : HandleMap T) (predicate : T → Bool) : List CkUlong :=
  (m.items.entries.filter fun e => predicate e.2).map Sigma.fst

/-- The comparator `Find` hands to `std::sort`: `sort_compare(*items_.at(h1), *items_.at(h2))`.
`at` throws at a handle not in the map; `mem_matching` shows the range holds none. -/
def compareAt (m : HandleMap T) (sortCompare : T → T → Bool) (h1 h2 : CkUlong) : Bool :=
  match m.items.lookup h1, m.items.lookup h2 with
  | some o1, some o2 => sortCompare o1 o2
  | _, _ => false

/-- `HandleMap::Find`, with `sort` the library's `std::sort`. -/
def find (sort : StdSort CkUlong) (m : HandleMap T) (predicate : T → Bool)
    (sortCompare : Option (T → T → Bool)) : List CkUlong :=
  match sortCompare with
  | none => m.matching predicate
  | some cmp => sort.sort (m.compareAt cmp) (m.matching predicate)

/-! ## One spec lemma per operation -/

variable {m m' : HandleMap T} {h : CkUlong} {item : T} {rv : CkRv}

@[simp] theorem lookup_new : (new rv : HandleMap T).lookup h = none := rfl

@[simp] theorem notFoundRv_new : (new rv : HandleMap T).notFoundRv = rv := rfl

theorem mem_items_iff : h ∈ m.items ↔ m.lookup h ≠ none := by
  rw [Ne, lookup, AList.lookup_eq_none, not_not]

/-- Binding a handle updates the binding function at that handle only. -/
theorem lookup_insert_eq_update (s : AList (fun _ : CkUlong => T)) (h : CkUlong) (x : T) :
    (fun k => (s.insert h x).lookup k) = Function.update (fun k => s.lookup k) h (some x) := by
  funext k
  by_cases hk : k = h
  · subst hk; simp [AList.lookup_insert]
  · simp [AList.lookup_insert_ne hk, Function.update_noteq hk]

/-- Erasing a handle unbinds that handle only. -/
theorem lookup_erase_eq_update (s : AList (fun _ : CkUlong => T)) (h : CkUlong) :
    (fun k => (s.erase h).lookup k) = Function.update (fun k => s.lookup k) h none := by
  funext k
  by_cases hk : k = h
  · subst hk; simp [AList.lookup_erase]
  · simp [AList.lookup_erase_ne hk, Function.update_noteq hk]

/-- `Add` returns a handle that was unbound and binds it to the item; nothing else changes. -/
theorem add_spec {draws rest : List CkUlong} (hadd : m.add item draws = some (h, m', rest)) :
    m.lookup h = none ∧ m'.lookup = Function.update m.lookup h (some item) ∧
      m'.notFoundRv = m.notFoundRv := by
  simp only [add, Option.map_eq_some', Prod.mk.injEq] at hadd
  obtain ⟨⟨h', rest'⟩, hd, rfl, rfl, rfl⟩ := hadd
  have hfree : h' ∉ m.items := by simpa using (drawUnused_eq_some hd).1
  refine ⟨AList.lookup_eq_none.2 hfree, ?_, rfl⟩
  show (fun k => (tryEmplace h' item m.items).lookup k) = _
  rw [tryEmplace_of_not_mem hfree]
  exact lookup_insert_eq_update _ _ _

/-- `Add` returns exactly when `RandomHandle` yields a handle that is not bound. -/
theorem add_isSome_iff {draws : List CkUlong} :
    (m.add item draws).isSome ↔ ∃ h ∈ draws, m.lookup h = none := by
  simp [add, drawUnused_isSome_iff, lookup, AList.lookup_eq_none]

/-- `AddDirect` at an unbound handle succeeds and binds it. -/
theorem addDirect_of_lookup_eq_none (item : T) (hh : m.lookup h = none) :
    (m.addDirect h item).1 = .ok () ∧
      (m.addDirect h item).2.lookup = Function.update m.lookup h (some item) ∧
      (m.addDirect h item).2.notFoundRv = m.notFoundRv := by
  have : h ∉ m.items := by rw [mem_items_iff, not_not]; exact hh
  rw [addDirect, if_neg this]
  exact ⟨rfl, lookup_insert_eq_update _ _ _, rfl⟩

/-- `AddDirect` at a bound handle fails with the 'already in use' status and changes nothing. -/
theorem addDirect_of_lookup_ne_none (hh : m.lookup h ≠ none) :
    m.addDirect h item = (.error (alreadyInUse h), m) :=
  if_pos (mem_items_iff.2 hh)

/-- `Remove` at a bound handle succeeds and unbinds it. -/
theorem remove_of_lookup_ne_none (hh : m.lookup h ≠ none) :
    (m.remove h).1 = .ok () ∧ (m.remove h).2.lookup = Function.update m.lookup h none ∧
      (m.remove h).2.notFoundRv = m.notFoundRv := by
  rw [remove, if_pos (mem_items_iff.2 hh)]
  exact ⟨rfl, lookup_erase_eq_update _ _, rfl⟩

/-- `Remove` at an unbound handle fails with the map's not-found status and changes nothing. -/
theorem remove_of_lookup_eq_none (hh : m.lookup h = none) :
    m.remove h = (.error (.handleNotFound h m.notFoundRv), m) :=
  if_neg (by rw [mem_items_iff, not_not]; exact hh)

/-- `Get` returns the bound item, or the map's not-found status. -/
theorem get_eq : m.get h = match m.lookup h with
    | none => .error (.handleNotFound h m.notFoundRv)
    | some item => .ok item := rfl

/-- The handles `Find` collects are those bound to an item the predicate accepts. -/
theorem mem_matching {p : T → Bool} : h ∈ m.matching p ↔ ∃ x, m.lookup h = some x ∧ p x = true := by
  simp only [matching, List.mem_map, List.mem_filter, lookup]
  constructor
  · rintro ⟨⟨k, x⟩, ⟨hmem, hp⟩, rfl⟩; exact ⟨x, AList.mem_lookup_iff.2 hmem, hp⟩
  · rintro ⟨x, hmem, hp⟩; exact ⟨⟨h, x⟩, ⟨AList.mem_lookup_iff.1 hmem, hp⟩, rfl⟩

/-- `Find` collects each handle once. -/
theorem nodup_matching (p : T → Bool) : (m.matching p).Nodup :=
  m.items.keys_nodup.sublist ((List.filter_sublist _).map _)

/-- At two bound handles, `Find`'s comparator compares their items. -/
theorem compareAt_of_lookup {c : T → T → Bool} {h₁ h₂ : CkUlong} {x₁ x₂ : T}
    (hx₁ : m.lookup h₁ = some x₁) (hx₂ : m.lookup h₂ = some x₂) :
    m.compareAt c h₁ h₂ = c x₁ x₂ := by
  rw [lookup] at hx₁ hx₂
  simp only [compareAt, hx₁, hx₂]

/-- Iterating the same entries in another order collects the same handles in another order. -/
theorem matching_perm {m₁ m₂ : HandleMap T} (hp : m₁.items.entries.Perm m₂.items.entries)
    (p : T → Bool) : (m₁.matching p).Perm (m₂.matching p) :=
  (hp.filter _).map _

end HandleMap

end Kmsp11
