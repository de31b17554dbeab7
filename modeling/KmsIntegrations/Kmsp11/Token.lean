import Mathlib.Data.String.Basic
import Mathlib.Data.Prod.Lex
import KmsIntegrations.Kmsp11.HandleMapRun
import KmsIntegrations.Kmsp11.ObjectStore

/-!
# `Token`: `FindObjects`, `Login` and `Logout`

`Token::FindObjects` is `HandleMap::Find` over the token's objects, with a comparator by
`kms_key_name`, then by `object_class`.

* `findObjectsCompare_iff`: the comparator is the strict order of the lexicographic order on
  `objectKey`. Hence it is a strict weak order on all objects
  (`isStrictWeakOrder_findObjectsCompare`), and two objects are unordered exactly when they share
  a key.
* `findObjects_sorted`: the handles come out in non-decreasing order of their objects' keys.
* `findObjects_eq_of_perm`: when no two objects share a key, the result does not depend on the
  iteration order of the map, nor on which sorted permutation `std::sort` picks.
* `findObjects_spec` gathers these with what `Find` does for every strict weak order.

`Token::Login` lets only `CKU_USER` in, and only when no one is logged in; `Token::Logout` needs
someone logged in. Under `login_mutex_` every interleaving of callers is a sequence of calls, so a
token's life is a trace of calls and replies (`Token.Reachable`). `Session.Valid` says what the
interface promises against the login state of each call's time, and `Token.session_reachable`
shows that every trace keeps it and that the objects never change. `Session.switches_valid`: the
successful logins and logouts of any trace alternate, starting with a login, and the token is
logged in exactly after an odd number of them.
-/

namespace Kmsp11

open Common

/-- `Token`: what the methods modelled here read of it, its objects and `is_logged_in_`. -/
structure Token where
  objects : HandleMap Object
  isLoggedIn : Bool

/-- The key `Token::FindObjects` sorts by: `kms_key_name`, then `object_class`. -/
def objectKey (o : Object) : Lex (String × Nat) := toLex (o.kmsKeyName, o.objectClass.toNat)

/-- The comparator of `Token::FindObjects`. `std::string`'s `<` compares bytes, which on UTF-8 text
is the order of code points that `String`'s `<` compares. -/
def findObjectsCompare (o1 o2 : Object) : Bool :=
  if o1.kmsKeyName = o2.kmsKeyName then decide (o1.objectClass < o2.objectClass)
  else decide (o1.kmsKeyName < o2.kmsKeyName)

/-- `Token::FindObjects`. -/
def Token.findObjects (sort : StdSort CkUlong) (token : Token) (predicate : Object → Bool) :
    List CkUlong :=
  token.objects.find sort predicate (some findObjectsCompare)

/-! ## The comparator -/

section
variable {o1 o2 : Object}

/-- The comparator orders objects as the lexicographic order orders their keys. -/
theorem findObjectsCompare_iff : findObjectsCompare o1 o2 = true ↔ objectKey o1 < objectKey o2 := by
  rw [objectKey, objectKey, Prod.Lex.lt_iff, findObjectsCompare]
  split_ifs with h
  · simp only [h, decide_eq_true_eq, lt_self_iff_false, true_and, false_or]
    exact Iff.rfl
  · simp [h]

theorem objectKey_eq_iff :
    objectKey o1 = objectKey o2 ↔ o1.kmsKeyName = o2.kmsKeyName ∧ o1.objectClass = o2.objectClass := by
  simp only [objectKey, toLex_inj, Prod.mk.injEq]
  exact and_congr_right fun _ => ⟨UInt64.toNat.inj, congrArg _⟩

/-- Two objects the comparator leaves unordered share a key. -/
theorem objectKey_eq_of_incomp (h12 : findObjectsCompare o1 o2 = false)
    (h21 : findObjectsCompare o2 o1 = false) : objectKey o1 = objectKey o2 := by
  rw [← Bool.not_eq_true, findObjectsCompare_iff, not_lt] at h12 h21
  exact le_antisymm h21 h12

end

/-- The comparator of `Token::FindObjects` is a strict weak order on all objects, the requirement
`std::sort` puts on it. -/
theorem isStrictWeakOrder_findObjectsCompare :
    IsStrictWeakOrder Object fun a b => findObjectsCompare a b = true where
  irrefl a h := lt_irrefl _ (findObjectsCompare_iff.1 h)
  trans a b c hab hbc :=
    findObjectsCompare_iff.2 (lt_trans (findObjectsCompare_iff.1 hab) (findObjectsCompare_iff.1 hbc))
  incomp_trans a b c hab hbc := by
    simp only [findObjectsCompare_iff, not_lt] at hab hbc ⊢
    exact ⟨hbc.1.trans hab.1, hab.2.trans hbc.2⟩

/-! ## `Token::FindObjects` -/

section
variable {sort : StdSort CkUlong} {token : Token} {predicate : Object → Bool}

/-- `std::sort`'s requirement holds on the range `Find` sorts, through the `items_.at` lookups. -/
theorem strictWeakOrderOn_findObjects :
    StrictWeakOrderOn (token.objects.compareAt findObjectsCompare)
      (token.objects.matching predicate) :=
  HandleMap.strictWeakOrderOn_compareAt isStrictWeakOrder_findObjectsCompare predicate

/-- The handles come out in non-decreasing order of their objects' keys. -/
theorem findObjects_sorted :
    (token.findObjects sort predicate).Pairwise fun h1 h2 => ∀ o1 o2,
      token.objects.lookup h1 = some o1 → token.objects.lookup h2 = some o2 →
      objectKey o1 ≤ objectKey o2 := by
  refine (sort.sorted _ _ strictWeakOrderOn_findObjects).imp fun {h1 h2} h o1 o2 hl1 hl2 => ?_
  rw [HandleMap.compareAt_of_lookup hl2 hl1] at h
  rw [← not_lt, ← findObjectsCompare_iff, h]
  exact Bool.false_ne_true

/-- When no two objects of the map share `kms_key_name` and `object_class`, `FindObjects` returns
the same list for every iteration order of the map and every `std::sort`. -/
theorem findObjects_eq_of_perm (sort₁ sort₂ : StdSort CkUlong) {t₁ t₂ : Token}
    (hp : t₁.objects.items.entries.Perm t₂.objects.items.entries)
    (hkey : ∀ h1 h2 o1 o2, t₁.objects.lookup h1 = some o1 → t₁.objects.lookup h2 = some o2 →
      o1.kmsKeyName = o2.kmsKeyName → o1.objectClass = o2.objectClass → h1 = h2) :
    t₁.findObjects sort₁ predicate = t₂.findObjects sort₂ predicate := by
  have hc : t₂.objects.compareAt findObjectsCompare = t₁.objects.compareAt findObjectsCompare := by
    funext h1 h2
    simp only [HandleMap.compareAt, AList.perm_lookup hp]
  have hwo₁ : StrictWeakOrderOn (t₁.objects.compareAt findObjectsCompare)
      (t₁.objects.matching predicate) := strictWeakOrderOn_findObjects
  have hwo₂ : StrictWeakOrderOn (t₂.objects.compareAt findObjectsCompare)
      (t₂.objects.matching predicate) := strictWeakOrderOn_findObjects
  have hperm₁ := sort₁.perm _ _ hwo₁
  refine eq_of_perm_of_pairwise
    ((hperm₁.trans (HandleMap.matching_perm hp _)).trans (sort₂.perm _ _ hwo₂).symm)
    (sort₁.sorted _ _ hwo₁) (hc ▸ sort₂.sorted _ _ hwo₂) fun a ha b hb hab hba => ?_
  obtain ⟨o1, hl1, -⟩ := HandleMap.mem_matching.1 (hperm₁.mem_iff.1 ha)
  obtain ⟨o2, hl2, -⟩ := HandleMap.mem_matching.1 (hperm₁.mem_iff.1 hb)
  rw [HandleMap.compareAt_of_lookup hl1 hl2] at hab
  rw [HandleMap.compareAt_of_lookup hl2 hl1] at hba
  obtain ⟨hn, hcl⟩ := objectKey_eq_iff.1 (objectKey_eq_of_incomp hab hba)
  exact hkey a b o1 o2 hl1 hl2 hn hcl

end

/-- The spec of `Token::FindObjects`. Its comparator is a strict weak order on all objects, so
`std::sort`'s requirement holds on every range, whose handles all resolve through `items_.at`.
For every state of the map, iteration order and predicate, it returns each handle whose object
the predicate accepts exactly once and no other, in non-decreasing order of
`(kms_key_name, object_class)`; and when no two objects share both, the list is the same for
every iteration order of the map and every `std::sort`. -/
theorem findObjects_spec :
    IsStrictWeakOrder Object (fun a b => findObjectsCompare a b = true) ∧
    (∀ (sort : StdSort CkUlong) (token : Token) (predicate : Object → Bool),
      StrictWeakOrderOn (token.objects.compareAt findObjectsCompare)
        (token.objects.matching predicate) ∧
      (∀ h ∈ token.objects.matching predicate, token.objects.lookup h ≠ none) ∧
      (token.findObjects sort predicate).Nodup ∧
      (∀ h, h ∈ token.findObjects sort predicate ↔
        ∃ o, token.objects.lookup h = some o ∧ predicate o = true) ∧
      (token.findObjects sort predicate).Pairwise fun h1 h2 => ∀ o1 o2,
        token.objects.lookup h1 = some o1 → token.objects.lookup h2 = some o2 →
        objectKey o1 ≤ objectKey o2) ∧
    ∀ (sort₁ sort₂ : StdSort CkUlong) (t₁ t₂ : Token) (predicate : Object → Bool),
      t₁.objects.items.entries.Perm t₂.objects.items.entries →
      (∀ h1 h2 o1 o2, t₁.objects.lookup h1 = some o1 → t₁.objects.lookup h2 = some o2 →
        o1.kmsKeyName = o2.kmsKeyName → o1.objectClass = o2.objectClass → h1 = h2) →
      t₁.findObjects sort₁ predicate = t₂.findObjects sort₂ predicate := by
  refine ⟨isStrictWeakOrder_findObjectsCompare, fun sort token predicate => ?_,
    fun sort₁ sort₂ _ _ _ hp hkey => findObjects_eq_of_perm sort₁ sort₂ hp hkey⟩
  have hfind : (token.findObjects sort predicate).Nodup ∧ ∀ h, h ∈ token.findObjects sort predicate ↔
      ∃ o, token.objects.lookup h = some o ∧ predicate o = true :=
    HandleMap.find_spec isStrictWeakOrder_findObjectsCompare
  refine ⟨strictWeakOrderOn_findObjects, fun h hh => ?_, hfind.1, hfind.2, findObjects_sorted⟩
  obtain ⟨o, ho, -⟩ := HandleMap.mem_matching.1 hh
  exact ho ▸ Option.some_ne_none o

/-- Two objects of one name and two classes, entered in the two orders, come out in one order. -/
theorem findObjects_spec_two_orders :
    Token.findObjects insertionStdSort
        ⟨⟨CKR_OBJECT_HANDLE_INVALID, ((∅ : AList _).insert 5 ⟨"k", 3⟩).insert 9 ⟨"k", 2⟩⟩, false⟩
        (fun _ => true) =
      Token.findObjects insertionStdSort
        ⟨⟨CKR_OBJECT_HANDLE_INVALID, ((∅ : AList _).insert 9 ⟨"k", 2⟩).insert 5 ⟨"k", 3⟩⟩, false⟩
        (fun _ => true) :=
  findObjects_spec.2.2 _ _ _ _ _ (List.Perm.swap _ _ _) fun h1 h2 o1 o2 hl1 hl2 _ hc => by
    have key : ∀ h o, AList.lookup h (((∅ : AList fun _ : CkUlong => Object).insert 5
        ⟨"k", 3⟩).insert 9 ⟨"k", 2⟩) = some o →
        (h = 9 ∧ o.objectClass = 2) ∨ (h = 5 ∧ o.objectClass = 3) := fun h o ho => by
      by_cases h9 : h = 9
      · subst h9; rw [AList.lookup_insert] at ho; cases ho; simp
      · rw [AList.lookup_insert_ne h9] at ho
        by_cases h5 : h = 5
        · subst h5; rw [AList.lookup_insert] at ho; cases ho; simp
        · rw [AList.lookup_insert_ne h5, AList.lookup_empty] at ho; cases ho
    rcases key _ _ hl1 with ⟨rfl, h₁⟩ | ⟨rfl, h₁⟩ <;>
      rcases key _ _ hl2 with ⟨rfl, h₂⟩ | ⟨rfl, h₂⟩ <;>
      first | rfl | exact absurd (h₁.symm.trans (hc.trans h₂)) (by decide)

/-! ## `Token::Login` and `Token::Logout` -/

/-- `CK_USER_TYPE`. -/
abbrev CkUserType := CkUlong

/-- `CKU_SO` (`pkcs11t.h`). -/
def CKU_SO : CkUserType := 0

/-- `CKU_USER` (`pkcs11t.h`). -/
def CKU_USER : CkUserType := 1

/-- `CKU_CONTEXT_SPECIFIC` (`pkcs11t.h`). -/
def CKU_CONTEXT_SPECIFIC : CkUserType := 2

/-- `CKR_OPERATION_NOT_INITIALIZED` (`pkcs11t.h`). -/
def CKR_OPERATION_NOT_INITIALIZED : CkRv := 0x91

/-- `CKR_PIN_LOCKED` (`pkcs11t.h`). -/
def CKR_PIN_LOCKED : CkRv := 0xA4

/-- `CKR_USER_ALREADY_LOGGED_IN` (`pkcs11t.h`). -/
def CKR_USER_ALREADY_LOGGED_IN : CkRv := 0x100

/-- `CKR_USER_NOT_LOGGED_IN` (`pkcs11t.h`). -/
def CKR_USER_NOT_LOGGED_IN : CkRv := 0x101

/-- `CKR_USER_TYPE_INVALID` (`pkcs11t.h`). -/
def CKR_USER_TYPE_INVALID : CkRv := 0x103

/-- The `switch (user)` of `Token::Login`: `CKU_USER` goes on, every other type is refused. -/
def checkUserType (user : CkUserType) : Except Status Unit :=
  if user = CKU_USER then .ok ()
  else if user = CKU_SO then
    .error (.error .permissionDenied "login as CKU_SO is not permitted" CKR_PIN_LOCKED)
  else if user = CKU_CONTEXT_SPECIFIC then
    .error (.error .permissionDenied "CKA_ALWAYS_AUTHENTICATE is not true on this token"
      CKR_OPERATION_NOT_INITIALIZED)
  else
    .error (.error .invalidArgument ("unknown user type: " ++ formatHexAlt user.toNat)
      CKR_USER_TYPE_INVALID)

/-- Only `CKU_USER` gets past the `switch`. -/
theorem checkUserType_eq_ok_iff {user : CkUserType} : checkUserType user = .ok () ↔ user = CKU_USER := by
  unfold checkUserType
  split_ifs <;> simp_all

/-- `Token::Login`: its status, and the token after it. -/
def Token.login (token : Token) (user : CkUserType) : Except Status Unit × Token :=
  match checkUserType user with
  | .error e => (.error e, token)
  | .ok () =>
    if token.isLoggedIn then
      (.error (.error .failedPrecondition "user is already logged in" CKR_USER_ALREADY_LOGGED_IN),
        token)
    else (.ok (), { token with isLoggedIn := true })

/-- `Token::Logout`. -/
def Token.logout (token : Token) : Except Status Unit × Token :=
  if !token.isLoggedIn then
    (.error (.error .failedPrecondition "user is not logged in" CKR_USER_NOT_LOGGED_IN), token)
  else (.ok (), { token with isLoggedIn := false })

/-- A call on a token. -/
inductive TokenCall
  | login (user : CkUserType)
  | logout
  | isLoggedIn
  | findObjects (predicate : Object → Bool)

/-- What a call on a token returns. -/
inductive TokenReply
  | status (status : Except Status Unit)
  | loggedIn (isLoggedIn : Bool)
  | handles (handles : List CkUlong)

/-- One call on a token. -/
def Token.step (sort : StdSort CkUlong) (token : Token) : TokenCall → TokenReply × Token
  | .login user => (.status (token.login user).1, (token.login user).2)
  | .logout => (.status token.logout.1, token.logout.2)
  | .isLoggedIn => (.loggedIn token.isLoggedIn, token)
  | .findObjects p => (.handles (token.findObjects sort p), token)

/-- The states a token reaches from `Token::New`, which leaves it logged out with `objects`, with
the calls and replies that led there. -/
inductive Token.Reachable (sort : StdSort CkUlong) (objects : HandleMap Object) :
    Token → List (TokenCall × TokenReply) → Prop
  | new : Token.Reachable sort objects ⟨objects, false⟩ []
  | step {t : Token} {tr : List (TokenCall × TokenReply)} (c : TokenCall) :
      Token.Reachable sort objects t tr →
      Token.Reachable sort objects (t.step sort c).2 (tr ++ [(c, (t.step sort c).1)])

namespace Session

/-- Whether a reply is a successful login (`true`) or logout (`false`). -/
def switch : TokenCall × TokenReply → Option Bool
  | (.login _, .status (.ok ())) => some true
  | (.logout, .status (.ok ())) => some false
  | _ => none

/-- What a reply does to the login state: a successful login logs in, a successful logout logs
out, and nothing else changes it. -/
def apply (loggedIn : Bool) (e : TokenCall × TokenReply) : Bool :=
  (switch e).getD loggedIn

/-- The login state after a trace, from a token logged out. -/
def replay (tr : List (TokenCall × TokenReply)) : Bool :=
  tr.foldl apply false

/-- The successful logins and logouts of a trace, in order. -/
def switches (tr : List (TokenCall × TokenReply)) : List Bool :=
  tr.filterMap switch

/-- The reply the interface promises against the login state `loggedIn`, for a token whose
objects are `objects`: a login succeeds exactly as `CKU_USER` when no one is logged in, a logout
exactly when someone is, and otherwise both fail; `FindObjects` answers from `objects`. -/
def Answers (sort : StdSort CkUlong) (objects : HandleMap Object) (loggedIn : Bool) :
    TokenCall → TokenReply → Prop
  | .login user, r => if user = CKU_USER ∧ loggedIn = false then r = .status (.ok ())
      else ∃ e, r = .status (.error e)
  | .logout, r => if loggedIn then r = .status (.ok ()) else ∃ e, r = .status (.error e)
  | .isLoggedIn, r => r = .loggedIn loggedIn
  | .findObjects p, r => r = .handles (objects.find sort p (some findObjectsCompare))

/-- A trace in which every reply is the promised one against the login state of its time. -/
inductive Valid (sort : StdSort CkUlong) (objects : HandleMap Object) :
    List (TokenCall × TokenReply) → Prop
  | nil : Valid sort objects []
  | snoc {tr : List (TokenCall × TokenReply)} {c : TokenCall} {r : TokenReply} :
      Valid sort objects tr → Answers sort objects (replay tr) c r →
      Valid sort objects (tr ++ [(c, r)])

section
variable {sort : StdSort CkUlong} {objects : HandleMap Object} {tr : List (TokenCall × TokenReply)}

theorem replay_snoc (e : TokenCall × TokenReply) : replay (tr ++ [e]) = apply (replay tr) e := by
  simp [replay, List.foldl_append]

theorem switches_snoc (e : TokenCall × TokenReply) :
    switches (tr ++ [e]) = switches tr ++ (switch e).toList := by
  cases h : switch e <;> simp [switches, List.filterMap_append, h]

/-- A promised reply that logs in or out flips the login state. -/
theorem switch_of_answers {b x : Bool} {c : TokenCall} {r : TokenReply}
    (hans : Answers sort objects b c r) (hx : switch (c, r) = some x) : x = !b := by
  cases c with
  | login user =>
    simp only [Answers] at hans
    split_ifs at hans with hu
    · subst hans; cases hx; simp [hu.2]
    · obtain ⟨e, rfl⟩ := hans; cases hx
  | logout =>
    cases b <;> simp only [Answers, if_true, if_false, Bool.false_eq_true] at hans
    · obtain ⟨e, rfl⟩ := hans; cases hx
    · subst hans; cases hx; rfl
  | isLoggedIn => subst hans; cases hx
  | findObjects p => subst hans; cases hx

/-- In every trace that keeps the promises, successful logins and logouts alternate, starting
with a login, and the token is logged in exactly after an odd number of them. -/
theorem switches_valid (hv : Valid sort objects tr) :
    switches tr = (List.range (switches tr).length).map (fun i => i % 2 == 0) ∧
      replay tr = ((switches tr).length % 2 == 1) := by
  induction hv with
  | nil => exact ⟨rfl, rfl⟩
  | @snoc tr c r _ hans ih =>
    obtain ⟨hs, hb⟩ := ih
    rw [switches_snoc, replay_snoc, apply]
    cases hx : switch (c, r) with
    | none => simpa using ⟨hs, hb⟩
    | some x =>
      have hx' : x = ((switches tr).length % 2 == 0) := by
        rw [switch_of_answers hans hx, hb]
        rcases Nat.mod_two_eq_zero_or_one (switches tr).length with h | h <;> simp [h]
      subst hx'
      refine ⟨?_, ?_⟩
      · rw [Option.toList_some, List.length_append, List.length_singleton, List.range_succ,
          List.map_append, List.map_singleton, ← hs]
      · rcases Nat.mod_two_eq_zero_or_one (switches tr).length with h | h <;>
          simp [List.length_append, Nat.add_mod, h]

end

end Session

/-- A call on a token keeps its objects, keeps the promise against its login state, and moves
that state as its reply says. -/
theorem Token.session_step (sort : StdSort CkUlong) (t : Token) (c : TokenCall) :
    (t.step sort c).2.objects = t.objects ∧
      Session.Answers sort t.objects t.isLoggedIn c (t.step sort c).1 ∧
      (t.step sort c).2.isLoggedIn = Session.apply t.isLoggedIn (c, (t.step sort c).1) := by
  cases c with
  | login user =>
    simp only [Token.step, Token.login]
    cases hc : checkUserType user with
    | error e =>
      have hu : user ≠ CKU_USER := fun h => by rw [checkUserType_eq_ok_iff.2 h] at hc; cases hc
      simp [hu, Session.Answers, Session.apply, Session.switch]
    | ok u =>
      have hu : user = CKU_USER := checkUserType_eq_ok_iff.1 hc
      cases hl : t.isLoggedIn <;> simp [hu, hl, Session.Answers, Session.apply, Session.switch]
  | logout =>
    unfold Token.step Token.logout
    cases hl : t.isLoggedIn <;> simp [hl, Session.Answers, Session.apply, Session.switch]
  | isLoggedIn => exact ⟨rfl, rfl, rfl⟩
  | findObjects p => exact ⟨rfl, rfl, rfl⟩

/-- At every point of every run of a token from `Token::New`: its objects are those it was made
with, it is logged in exactly as the trace's successful logins and logouts left it, and every
reply of the trace is the one the interface promises against the login state of its time. -/
theorem Token.session_reachable {sort : StdSort CkUlong} {objects : HandleMap Object} {t : Token}
    {tr : List (TokenCall × TokenReply)} (hr : Token.Reachable sort objects t tr) :
    t.objects = objects ∧ t.isLoggedIn = Session.replay tr ∧ Session.Valid sort objects tr := by
  induction hr with
  | new => exact ⟨rfl, rfl, .nil⟩
  | @step t tr c _ ih =>
    obtain ⟨ho, hl, hv⟩ := ih
    obtain ⟨ho', hans, hl'⟩ := Token.session_step sort t c
    refine ⟨ho'.trans ho, by rw [hl', hl, Session.replay_snoc], .snoc hv ?_⟩
    rwa [← hl, ← ho]

/-- The spec of a token's login state. At every point of every run of a token from `Token::New`,
under any interleaving of callers: its objects are those it was made with; every reply is the one
the interface promises against the login state of its time, so a login succeeds exactly as
`CKU_USER` when no one is logged in and a logout exactly when someone is; and the successful
logins and logouts alternate, starting with a login, the token being logged in exactly after an
odd number of them. -/
theorem token_session_spec {sort : StdSort CkUlong} {objects : HandleMap Object} {t : Token}
    {tr : List (TokenCall × TokenReply)} (hr : Token.Reachable sort objects t tr) :
    t.objects = objects ∧ Session.Valid sort objects tr ∧
      Session.switches tr =
        (List.range (Session.switches tr).length).map (fun i => i % 2 == 0) ∧
      t.isLoggedIn = ((Session.switches tr).length % 2 == 1) := by
  obtain ⟨ho, hl, hv⟩ := Token.session_reachable hr
  obtain ⟨hs, hb⟩ := Session.switches_valid hv
  exact ⟨ho, hv, hs, hl.trans hb⟩

/-- A login, a second login refused, and a logout: one login and one logout took effect, and the
token is logged out. -/
theorem token_session_spec_relogin :
    ∃ t tr, Token.Reachable insertionStdSort (HandleMap.new CKR_OBJECT_HANDLE_INVALID) t tr ∧
      tr.map Prod.fst = [.login CKU_USER, .login CKU_USER, .logout] ∧
      Session.switches tr = [true, false] ∧ t.isLoggedIn = false := by
  have h0 : Token.Reachable insertionStdSort (HandleMap.new CKR_OBJECT_HANDLE_INVALID)
      ⟨HandleMap.new CKR_OBJECT_HANDLE_INVALID, false⟩ [] := .new
  have hr := ((h0.step (.login CKU_USER)).step (.login CKU_USER)).step .logout
  exact ⟨_, _, hr, rfl, rfl, by rw [(token_session_spec hr).2.2.2]; rfl⟩

end Kmsp11
