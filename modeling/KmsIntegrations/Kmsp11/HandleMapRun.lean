import KmsIntegrations.Kmsp11.HandleMap

/-!
# Runs of a `HandleMap`

What a `HandleMap` is for, stated without the map (`HandleMap.Spec`): after a trace of calls and
replies the bindings are those its successful `Add`, `AddDirect` and `Remove` calls made
(`Spec.replay`), and each reply is the one the interface promises against the bindings of its
time (`Spec.Answers`). `HandleMap.Reachable` holds of every state a map reaches from
`HandleMap(rv)` by any sequence of calls, each under any values of `RandomHandle`, with the trace
that led there. `reachable_refines` shows that the map's bindings at every such point are the
abstract ones and that the trace keeps every promise: one step lemma (`step_refines`), from the
spec lemmas of `Kmsp11.HandleMap`, and an induction over the run (`Reachable.refines`). It also
says when a call returns (`step_isSome_iff`): always, but for an `Add` whose draws are all bound.
-/

namespace Kmsp11
namespace HandleMap

variable {T : Type}

/-- A call on the interface of `HandleMap<T>`. -/
inductive Call (T : Type)
  | add (item : T)
  | addDirect (handle : CkUlong) (item : T)
  | get (handle : CkUlong)
  | remove (handle : CkUlong)
  | find (predicate : T → Bool) (sortCompare : Option (T → T → Bool))

/-- What a call returns. -/
inductive Reply (T : Type)
  | handle (handle : CkUlong)
  | status (status : Except Status Unit)
  | item (item : Except Status T)
  | handles (handles : List CkUlong)

/-- One call on the map; `draws` is what `RandomHandle` returns from here on. -/
def step (sort : StdSort CkUlong) (m : HandleMap T) (draws : List CkUlong) :
    Call T → Option (Reply T × HandleMap T × List CkUlong)
  | .add item => (m.add item draws).map fun (h, m', rest) => (.handle h, m', rest)
  | .addDirect h item => some (.status (m.addDirect h item).1, (m.addDirect h item).2, draws)
  | .get h => some (.item (m.get h), m, draws)
  | .remove h => some (.status (m.remove h).1, (m.remove h).2, draws)
  | .find p c => some (.handles (m.find sort p c), m, draws)

/-- The states a map reaches from `HandleMap(rv)`, with the calls and replies that led there. -/
inductive Reachable (sort : StdSort CkUlong) (rv : CkRv) :
    HandleMap T → List (Call T × Reply T) → Prop
  | new : Reachable sort rv (new rv) []
  | step {m m' : HandleMap T} {tr : List (Call T × Reply T)} {rest : List CkUlong}
      {c : Call T} {r : Reply T} (draws : List CkUlong) :
      Reachable sort rv m tr → m.step sort draws c = some (r, m', rest) →
      Reachable sort rv m' (tr ++ [(c, r)])

/-- `sortCompare` is a strict weak order on all items, as `std::sort` requires of it. -/
def SortCompareOk : Option (T → T → Bool) → Prop
  | none => True
  | some cmp => IsStrictWeakOrder T fun a b => cmp a b = true

namespace Spec

/-- What a reply does to the bindings: the handle `Add` returned, or the one `AddDirect` succeeded
at, is bound to the item; the one `Remove` succeeded at is unbound; nothing else changes them. -/
def apply (σ : CkUlong → Option T) : Call T × Reply T → CkUlong → Option T
  | (.add item, .handle h) => Function.update σ h (some item)
  | (.addDirect h item, .status (.ok ())) => Function.update σ h (some item)
  | (.remove h, .status (.ok ())) => Function.update σ h none
  | _ => σ

/-- The bindings after a trace, from a map that binds nothing. -/
def replay (tr : List (Call T × Reply T)) : CkUlong → Option T :=
  tr.foldl apply fun _ => none

/-- The reply the interface promises for a call against bindings `σ`, for a map made with
`not_found_rv` equal to `rv`. -/
def Answers (rv : CkRv) (σ : CkUlong → Option T) : Call T → Reply T → Prop
  | .add _, r => ∃ h, r = .handle h ∧ σ h = none
  | .addDirect h _, r => r = .status (match σ h with
      | none => .ok ()
      | some _ => .error (alreadyInUse h))
  | .get h, r => r = .item (match σ h with
      | none => .error (.handleNotFound h rv)
      | some x => .ok x)
  | .remove h, r => r = .status (match σ h with
      | none => .error (.handleNotFound h rv)
      | some _ => .ok ())
  | .find p c, r => ∃ hs, r = .handles hs ∧
      (SortCompareOk c → hs.Nodup ∧ ∀ h, h ∈ hs ↔ ∃ x, σ h = some x ∧ p x = true)

/-- A trace in which every reply is the promised one against the bindings of its time. -/
inductive Valid (rv : CkRv) : List (Call T × Reply T) → Prop
  | nil : Valid rv []
  | snoc {tr : List (Call T × Reply T)} {c : Call T} {r : Reply T} :
      Valid rv tr → Answers rv (replay tr) c r → Valid rv (tr ++ [(c, r)])

theorem replay_snoc (tr : List (Call T × Reply T)) (e : Call T × Reply T) :
    replay (tr ++ [e]) = apply (replay tr) e := by
  simp [replay, List.foldl_append]

end Spec

/-! ## Refinement -/

variable {sort : StdSort CkUlong} {m m' : HandleMap T} {draws rest : List CkUlong}

/-- The comparator `Find` sorts with is a strict weak order on the handles it collects when
`sortCompare` is one on the items. -/
theorem strictWeakOrderOn_compareAt {cmp : T → T → Bool}
    (hc : IsStrictWeakOrder T fun a b => cmp a b = true) (p : T → Bool) :
    StrictWeakOrderOn (m.compareAt cmp) (m.matching p) := by
  have hat : ∀ h ∈ m.matching p, ∃ x, m.items.lookup h = some x := fun h hh =>
    (mem_matching.1 hh).imp fun _ hx => hx.1
  constructor
  · intro a ha
    obtain ⟨x, hx⟩ := hat a ha
    simpa [compareAt, hx] using irrefl_of (fun a b => cmp a b = true) x
  · intro a ha b hb c hc' hab hbc
    obtain ⟨x, hx⟩ := hat a ha; obtain ⟨y, hy⟩ := hat b hb; obtain ⟨z, hz⟩ := hat c hc'
    simp only [compareAt, hx, hy, hz] at hab hbc ⊢
    exact trans_of (fun a b => cmp a b = true) hab hbc
  · intro a ha b hb c hc' hab hba hbc hcb
    obtain ⟨x, hx⟩ := hat a ha; obtain ⟨y, hy⟩ := hat b hb; obtain ⟨z, hz⟩ := hat c hc'
    simp only [compareAt, hx, hy, hz] at hab hba hbc hcb ⊢
    have := hc.incomp_trans x y z (by simp [hab, hba]) (by simp [hbc, hcb])
    simpa using this.1

/-- `Find` returns each handle bound to an item the predicate accepts, once, when the comparator it
sorts with, if any, is a strict weak order. -/
theorem find_spec {p : T → Bool} {c : Option (T → T → Bool)} (hc : SortCompareOk c) :
    (m.find sort p c).Nodup ∧ ∀ h, h ∈ m.find sort p c ↔ ∃ x, m.lookup h = some x ∧ p x = true := by
  have hperm : (m.find sort p c).Perm (m.matching p) := by
    cases c with
    | none => exact List.Perm.refl _
    | some cmp => exact sort.perm _ _ (strictWeakOrderOn_compareAt hc p)
  exact ⟨hperm.nodup_iff.2 (nodup_matching p), fun h => hperm.mem_iff.trans mem_matching⟩

/-- One step keeps the promise against the map's bindings, and moves them as its reply says. -/
theorem step_refines {c : Call T} {r : Reply T} (hs : m.step sort draws c = some (r, m', rest)) :
    Spec.Answers m.notFoundRv m.lookup c r ∧ m'.lookup = Spec.apply m.lookup (c, r) ∧
      m'.notFoundRv = m.notFoundRv := by
  cases c with
  | add item =>
    simp only [step, Option.map_eq_some', Prod.mk.injEq] at hs
    obtain ⟨⟨h, m'', rest'⟩, hadd, rfl, rfl, rfl⟩ := hs
    obtain ⟨hfree, hl, hrv⟩ := add_spec hadd
    exact ⟨⟨h, rfl, hfree⟩, hl, hrv⟩
  | addDirect h item =>
    simp only [step, Option.some.injEq, Prod.mk.injEq] at hs
    obtain ⟨rfl, rfl, rfl⟩ := hs
    cases hh : m.lookup h with
    | none =>
      obtain ⟨h1, h2, h3⟩ := addDirect_of_lookup_eq_none item hh
      exact ⟨by simp [Spec.Answers, hh, h1], by rw [h1, h2]; rfl, h3⟩
    | some x =>
      rw [addDirect_of_lookup_ne_none (by simp [hh])]
      exact ⟨by simp [Spec.Answers, hh], rfl, rfl⟩
  | get h =>
    simp only [step, Option.some.injEq, Prod.mk.injEq] at hs
    obtain ⟨rfl, rfl, rfl⟩ := hs
    exact ⟨rfl, rfl, rfl⟩
  | remove h =>
    simp only [step, Option.some.injEq, Prod.mk.injEq] at hs
    obtain ⟨rfl, rfl, rfl⟩ := hs
    cases hh : m.lookup h with
    | none =>
      rw [remove_of_lookup_eq_none hh]
      exact ⟨by simp [Spec.Answers, hh], rfl, rfl⟩
    | some x =>
      obtain ⟨h1, h2, h3⟩ := remove_of_lookup_ne_none (m := m) (h := h) (by simp [hh])
      exact ⟨by simp [Spec.Answers, hh, h1], by rw [h1, h2]; rfl, h3⟩
  | find p c =>
    simp only [step, Option.some.injEq, Prod.mk.injEq] at hs
    obtain ⟨rfl, rfl, rfl⟩ := hs
    exact ⟨⟨_, rfl, find_spec⟩, rfl, rfl⟩

/-- Every call but `Add` returns; `Add` returns exactly when `RandomHandle` yields a handle that is
not bound, drawing again past each bound one. -/
theorem step_isSome_iff (c : Call T) :
    (m.step sort draws c).isSome ↔ ∀ item, c = .add item → ∃ h ∈ draws, m.lookup h = none := by
  cases c with
  | add item => simpa [step] using add_isSome_iff
  | _ => simp [step]

/-- Along a run the map keeps its `not_found_rv`, binds what `Spec.replay` says, and every reply
keeps its promise. -/
theorem Reachable.refines {rv : CkRv} {tr : List (Call T × Reply T)}
    (hr : Reachable sort rv m tr) :
    m.notFoundRv = rv ∧ m.lookup = Spec.replay tr ∧ Spec.Valid rv tr := by
  induction hr with
  | new => exact ⟨rfl, rfl, .nil⟩
  | step _ _ hs ih =>
    obtain ⟨hrv, hl, hv⟩ := ih
    obtain ⟨hans, hl', hrv'⟩ := step_refines hs
    refine ⟨hrv'.trans hrv, by rw [hl', hl, Spec.replay_snoc], .snoc hv ?_⟩
    rwa [← hl, ← hrv]

/-- At every point of every run of a `HandleMap`, under any values of `RandomHandle`: the map
still reports the `not_found_rv` it was made with, it binds exactly what the trace's successful
`Add`, `AddDirect` and `Remove` calls left bound, and every reply of the trace is the one the
interface promises against the bindings of its time. From there every call returns, except an
`Add` whose draws are all bound, which keeps drawing: it returns exactly when `RandomHandle`
yields a handle the trace left unbound. -/
theorem reachable_refines {rv : CkRv} {tr : List (Call T × Reply T)}
    (hr : Reachable sort rv m tr) :
    m.notFoundRv = rv ∧ m.lookup = Spec.replay tr ∧ Spec.Valid rv tr ∧
      ∀ (c : Call T) (draws : List CkUlong), (m.step sort draws c).isSome ↔
        ∀ item, c = .add item → ∃ h ∈ draws, Spec.replay tr h = none := by
  obtain ⟨hrv, hl, hv⟩ := hr.refines
  exact ⟨hrv, hl, hv, fun c draws => by rw [step_isSome_iff, hl]⟩

/-- A map that has handed out handle 7 binds it, refuses it to `AddDirect`, and an `Add` drawing
7 then 8 returns. -/
theorem reachable_refines_addDirect_in_use :
    Reachable insertionStdSort CKR_OBJECT_HANDLE_INVALID
        (⟨CKR_OBJECT_HANDLE_INVALID, (∅ : AList fun _ : CkUlong => Nat).insert 7 1⟩ : HandleMap Nat)
        [(.add 1, .handle 7), (.addDirect 7 2, .status (.error (alreadyInUse 7)))] ∧
      Spec.replay [((.add 1 : Call Nat), .handle 7), (.addDirect 7 2, .status (.error (alreadyInUse 7)))]
        7 = some 1 ∧
      ((⟨CKR_OBJECT_HANDLE_INVALID, (∅ : AList fun _ : CkUlong => Nat).insert 7 1⟩ : HandleMap Nat).step
        insertionStdSort [7, 8] (.add 3)).isSome := by
  have h1 : Reachable insertionStdSort CKR_OBJECT_HANDLE_INVALID
      (⟨CKR_OBJECT_HANDLE_INVALID, (∅ : AList fun _ : CkUlong => Nat).insert 7 1⟩ : HandleMap Nat)
      [(.add 1, .handle 7)] := .step [7] .new rfl
  have h2 : Reachable insertionStdSort CKR_OBJECT_HANDLE_INVALID
      (⟨CKR_OBJECT_HANDLE_INVALID, (∅ : AList fun _ : CkUlong => Nat).insert 7 1⟩ : HandleMap Nat)
      [(.add 1, .handle 7), (.addDirect 7 2, .status (.error (alreadyInUse 7)))] :=
    .step [] h1 rfl
  exact ⟨h2, by rw [← (reachable_refines h2).2.1]; rfl,
    ((reachable_refines h2).2.2.2 (.add 3) [7, 8]).2 fun _ _ => ⟨8, by simp, rfl⟩⟩

end HandleMap

end Kmsp11
