import Mathlib.Data.List.Sort

/-!
# The contract of `std::sort`

`HandleMap::Find` sorts its results with `std::sort`. Among the sorted permutations of the range,
which one it returns is the standard library's choice, so the model does not fix an algorithm:
`StdSort` is any function that keeps the promise of [alg.sort] for a comparator that is a strict
weak order on the elements (`StrictWeakOrderOn`). Results about `Find` hold for every such
function. `insertionStdSort` shows the promise can be kept, and `eq_of_perm_of_pairwise` is why the
choice is invisible when the comparator leaves no two distinct elements unordered.
-/

namespace Kmsp11

variable {α : Type}

/-- `comp` is a strict weak order on the elements of `l`: the requirement [alg.sort] puts on the
comparator of `std::sort`. -/
structure StrictWeakOrderOn (comp : α → α → Bool) (l : List α) : Prop where
  irrefl : ∀ a ∈ l, comp a a = false
  trans : ∀ a ∈ l, ∀ b ∈ l, ∀ c ∈ l, comp a b = true → comp b c = true → comp a c = true
  incomp_trans : ∀ a ∈ l, ∀ b ∈ l, ∀ c ∈ l, comp a b = false → comp b a = false →
    comp b c = false → comp c b = false → comp a c = false

/-- `std::sort(first, last, comp)`: for a comparator that is a strict weak order on the range, a
permutation of the range in which no element is less than one before it. -/
structure StdSort (α : Type) where
  sort : (α → α → Bool) → List α → List α
  perm : ∀ comp l, StrictWeakOrderOn comp l → (sort comp l).Perm l
  sorted : ∀ comp l, StrictWeakOrderOn comp l → (sort comp l).Pairwise fun a b => comp b a = false

/-- Two permutations of one list, both sorted by a comparator under which no two distinct elements
are unordered, are equal. -/
theorem eq_of_perm_of_pairwise {comp : α → α → Bool} :
    ∀ {l₁ l₂ : List α}, l₁.Perm l₂ → l₁.Pairwise (fun a b => comp b a = false) →
      l₂.Pairwise (fun a b => comp b a = false) →
      (∀ a ∈ l₁, ∀ b ∈ l₁, comp a b = false → comp b a = false → a = b) → l₁ = l₂
  | [], _, hp, _, _, _ => hp.nil_eq
  | _ :: _, [], hp, _, _, _ => hp.eq_nil
  | a :: t, b :: u, hp, h₁, h₂, htri => by
    rw [List.pairwise_cons] at h₁ h₂
    have hb : b ∈ a :: t := hp.mem_iff.2 (List.mem_cons_self b u)
    have ha : a ∈ b :: u := hp.mem_iff.1 (List.mem_cons_self a t)
    have hab : a = b := by
      rcases List.mem_cons.1 hb with rfl | hbt
      · rfl
      rcases List.mem_cons.1 ha with rfl | hau
      · rfl
      exact htri a (List.mem_cons_self a t) b hb (h₂.1 a hau) (h₁.1 b hbt)
    subst hab
    rw [eq_of_perm_of_pairwise ((List.perm_cons a).1 hp) h₁.2 h₂.2
      (fun x hx y hy => htri x (List.mem_cons_of_mem a hx) y (List.mem_cons_of_mem a hy))]

section Insertion
variable {comp : α → α → Bool} {l : List α}

/-- Under a strict weak order, "not greater" is total. -/
theorem StrictWeakOrderOn.total (h : StrictWeakOrderOn comp l) {a b : α} (ha : a ∈ l)
    (hb : b ∈ l) : comp b a = false ∨ comp a b = false := by
  by_contra hc
  simp only [not_or, Bool.not_eq_false] at hc
  have := h.trans a ha b hb a ha hc.2 hc.1
  rw [h.irrefl a ha] at this
  cases this

/-- Under a strict weak order, "not greater" is transitive. -/
theorem StrictWeakOrderOn.not_lt_trans (h : StrictWeakOrderOn comp l) {a b c : α} (ha : a ∈ l)
    (hb : b ∈ l) (hc : c ∈ l) (hba : comp b a = false) (hcb : comp c b = false) :
    comp c a = false := by
  cases hab : comp a b
  · cases hbc : comp b c
    · exact h.incomp_trans c hc b hb a ha hcb hbc hba hab
    · cases hca : comp c a
      · rfl
      · rw [h.trans b hb c hc a ha hbc hca] at hba; cases hba
  · cases hca : comp c a
    · rfl
    · rw [h.trans c hc a ha b hb hca hab] at hcb; cases hcb

/-- Insertion sort, through `List.insertionSort` on the elements of the range, keeps the promise
of `std::sort`. -/
def insertionStdSort : StdSort α where
  sort comp l := (l.attach.insertionSort fun a b => comp b.1 a.1 = false).map Subtype.val
  perm comp l _ := by
    simpa only [List.attach_map_subtype_val] using
      (List.perm_insertionSort (fun a b : {x // x ∈ l} => comp b.1 a.1 = false) l.attach).map
        Subtype.val
  sorted comp l h := by
    have : IsTotal {x // x ∈ l} fun a b => comp b.1 a.1 = false :=
      ⟨fun a b => h.total a.2 b.2⟩
    have : IsTrans {x // x ∈ l} fun a b => comp b.1 a.1 = false :=
      ⟨fun a b c hab hbc => h.not_lt_trans a.2 b.2 c.2 hab hbc⟩
    exact List.Pairwise.map _ (fun _ _ => id) (List.sorted_insertionSort _ l.attach)

end Insertion

end Kmsp11
